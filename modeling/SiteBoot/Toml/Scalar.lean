/-!
Numbers, truth values and moments of TOML, as the words that spell them. A word is judged as a
whole.
-/

namespace SiteBoot.Toml

/-- What a word is. -/
inductive Scalar where
  | boolean (value : Bool)
  | integer (value : Int)
  | float (spelling : String)
  | moment (spelling : String)
  deriving DecidableEq, Repr

def isWordChar (c : Char) : Bool :=
  c.isAlphanum || c = '_' || c = '+' || c = '-' || c = '.' || c = ':'

/-- Whether digits stand in the text, with single underscores between some of them. -/
def areDigits (isDigit : Char → Bool) : List Char → Bool
  | [] => false
  | [c] => isDigit c
  | c :: '_' :: rest => isDigit c && areDigits isDigit rest
  | c :: rest => isDigit c && areDigits isDigit rest

/-- The number that digits spell in a base. Underscores are passed over. -/
def digitsValue (base : Nat) (text : List Char) : Nat :=
  (text.filter (· ≠ '_')).foldl
    (fun n c =>
      n * base + (if c.isDigit then c.toNat - 48 else c.toLower.toNat - 87)) 0

/-- A sign in front of a text, and what follows it. -/
def splitSign : List Char → Bool × List Char
  | '-' :: rest => (true, rest)
  | '+' :: rest => (false, rest)
  | text => (false, text)

/-- Whether the text spells a decimal number without needless zeros. -/
def isDecimal (text : List Char) : Bool :=
  areDigits Char.isDigit text && (text.head? ≠ some '0' || text.length = 1)

def isHexDigit (c : Char) : Bool := c.isDigit || ('a' ≤ c.toLower && c.toLower ≤ 'f')

/-- Whether an integer fits in 64 bits. -/
def inRange (n : Int) : Bool :=
  -9223372036854775808 ≤ n && n ≤ 9223372036854775807

def integer? (word : List Char) : Option Int :=
  let based (isDigit : Char → Bool) (base : Nat) (digits : List Char) : Option Int :=
    if areDigits isDigit digits then some (digitsValue base digits) else none
  let value := match word with
    | '0' :: 'x' :: digits => based isHexDigit 16 digits
    | '0' :: 'o' :: digits => based (fun c => '0' ≤ c && c ≤ '7') 8 digits
    | '0' :: 'b' :: digits => based (fun c => c = '0' || c = '1') 2 digits
    | _ =>
      let (negative, digits) := splitSign word
      if isDecimal digits then
        let n : Int := digitsValue 10 digits
        some (if negative then -n else n)
      else none
  value.filter inRange

/-- Whether a decimal number, given as an integer and a power of ten, is too large for a float of
64 bits: it would be rounded to 2¹⁰²⁴. -/
def overflows (digits : Nat) (exponent : Int) : Bool :=
  let magnitude : Int := (toString digits).length + exponent
  if digits = 0 || magnitude < 300 then false
  else if magnitude > 320 then true
  else
    let bound := Nat.pow 2 1024 - Nat.pow 2 970
    let scale := Nat.pow 10 exponent.natAbs
    if exponent < 0 then bound * scale ≤ digits else bound ≤ digits * scale

/-- Whether a word spells a float. One above the range is none, though one below it is. -/
def isFloat (word : List Char) : Bool :=
  let (negative, body) := splitSign word
  if body = ['i', 'n', 'f'] || body = ['n', 'a', 'n'] then true
  else
    let (mantissa, tail) := body.span (fun c => c ≠ 'e' && c ≠ 'E')
    let (whole, fraction) := mantissa.span (· ≠ '.')
    let fractionOk := fraction.isEmpty || areDigits Char.isDigit fraction.tail
    let (negativeTail, power) := splitSign tail.tail
    let tailOk := tail.isEmpty || areDigits Char.isDigit power
    let shift : Int := digitsValue 10 power
    let places := (fraction.tail.filter (· ≠ '_')).length
    let exponent := (if negativeTail then -shift else shift) - places
    isDecimal whole && fractionOk && tailOk && !(fraction.isEmpty && tail.isEmpty) &&
      (negative || !overflows (digitsValue 10 (whole ++ fraction.tail)) exponent)

/-- A number of so many digits, within bounds. -/
def boundedNumber? (width low high : Nat) (text : List Char) : Option Nat :=
  if text.length = width && text.all Char.isDigit && low ≤ digitsValue 10 text &&
      digitsValue 10 text ≤ high
  then some (digitsValue 10 text) else none

def daysIn (year month : Nat) : Nat :=
  if month = 2 then
    if year % 4 = 0 && (year % 100 ≠ 0 || year % 400 = 0) then 29 else 28
  else if month = 4 || month = 6 || month = 9 || month = 11 then 30 else 31

def isDate (word : List Char) : Bool :=
  match word.splitOn '-' with
  | [year, month, day] =>
    match boundedNumber? 4 0 9999 year, boundedNumber? 2 1 12 month with
    | some year, some month => (boundedNumber? 2 1 (daysIn year month) day).isSome
    | _, _ => false
  | _ => false

/-- Whether a word is a time of day. -/
def isTime (word : List Char) : Bool :=
  let (clock, fraction) := word.span (· ≠ '.')
  match clock.splitOn ':' with
  | [hour, minute, second] =>
    (boundedNumber? 2 0 23 hour).isSome && (boundedNumber? 2 0 59 minute).isSome &&
      (boundedNumber? 2 0 60 second).isSome &&
      (fraction.isEmpty || (!fraction.tail.isEmpty && fraction.tail.all Char.isDigit))
  | _ => false

/-- Whether a word is a time of day, perhaps with the distance from universal time. -/
def isZonedTime (word : List Char) : Bool :=
  let (time, zone) := word.span fun c => c ≠ 'Z' && c ≠ 'z' && c ≠ '+' && c ≠ '-'
  isTime time &&
    match zone with
    | [] => true
    | [c] => c = 'Z' || c = 'z'
    | sign :: distance =>
      match distance.splitOn ':' with
      | [hour, minute] =>
        (sign = '+' || sign = '-') && (boundedNumber? 2 0 23 hour).isSome &&
          (boundedNumber? 2 0 59 minute).isSome
      | _ => false

/-- Whether a word is a date, a time, or both with a `T` between. -/
def isMoment (word : List Char) : Bool :=
  let (date, time) := word.span fun c => c ≠ 'T' && c ≠ 't'
  match time with
  | [] => isDate word || isTime word
  | _ :: time => isDate date && isZonedTime time

/-- What a word is, if it is anything. -/
def Scalar.ofWord? (word : List Char) : Option Scalar :=
  if word = ['t', 'r', 'u', 'e'] then some (.boolean true)
  else if word = ['f', 'a', 'l', 's', 'e'] then some (.boolean false)
  else match integer? word with
    | some n => some (.integer n)
    | none =>
      if isMoment word then some (.moment (String.ofList word))
      else if isFloat word then some (.float (String.ofList word))
      else none

/-- A scalar at the start of a text, and what follows it. A blank may stand between a date and a
time. -/
def readScalar? (text : List Char) : Option (Scalar × List Char) :=
  let (word, rest) := text.span isWordChar
  let (time, after) := rest.tail.span isWordChar
  if rest.head? = some ' ' && isDate word && isZonedTime time then
    some (.moment (String.ofList (word ++ ' ' :: time)), after)
  else (Scalar.ofWord? word).map (·, rest)

end SiteBoot.Toml
