/-!
Binary numbers of 64 bits: what a decimal text stands for, rounded to the nearest of them, and the
shortest decimal text that stands for one. All of it is arithmetic on whole numbers.
-/

namespace SiteBoot

/-- A number `± mantissa · 2 ^ exponent`, or what is beyond the greatest of them. -/
inductive Binary64 where
  | finite (isNegative : Bool) (mantissa : Nat) (exponent : Int)
  | infinite (isNegative : Bool)
  deriving DecidableEq, Repr

namespace Binary64

def mantissaBound : Nat := 0x20000000000000

def minExponent : Int := -1074

def maxExponent : Int := 971

/-- A power with an exponent of any sign, as numerator and denominator. -/
def power (base : Nat) (exponent : Int) : Nat × Nat :=
  (base.pow exponent.toNat, base.pow (-exponent).toNat)

/-- A quotient rounded to the nearest whole number, a half to the even neighbour. -/
def roundQuotient (num den : Nat) : Nat :=
  let down := num / den
  match compare (2 * (num % den)) den with
  | .lt => down
  | .eq => if down % 2 = 0 then down else down + 1
  | .gt => down + 1

/-- The exponent at which the mantissa of a quotient has all its bits, as far as there is one. -/
def exponentOf (num den : Nat) : Int :=
  let guess : Int := num.log2 - den.log2
  let (up, down) := power 2 guess
  max minExponent ((if den * up ≤ num * down then guess else guess - 1) - 52)

def ofQuotient (isNegative : Bool) (num den : Nat) : Binary64 :=
  let exponent := exponentOf num den
  let (up, down) := power 2 exponent
  let mantissa := roundQuotient (num * down) (den * up)
  let (mantissa, exponent) :=
    if mantissa < mantissaBound then (mantissa, exponent) else (mantissa / 2, exponent + 1)
  if exponent ≤ maxExponent then finite isNegative mantissa exponent else infinite isNegative

/-- The decimal exponent from which on every number is too great. -/
def decimalLimit : Int := 310

/-- The number nearest to `digits · 10 ^ exponent`. -/
def ofDecimal (isNegative : Bool) (digits : Nat) (exponent : Int) : Binary64 :=
  let top := (Nat.toDigits 10 digits).length + exponent
  if digits = 0 || top < -decimalLimit - 20 then finite isNegative 0 minExponent
  else if top > decimalLimit then infinite isNegative
  else
    let (up, down) := power 10 exponent
    ofQuotient isNegative (digits * up) down

/-- The order of the numbers; the two zeros are equal. -/
def compare : Binary64 → Binary64 → Ordering
  | infinite a, infinite b => Ord.compare (!a) (!b)
  | infinite isNegative, finite .. => if isNegative then .lt else .gt
  | finite .., infinite isNegative => if isNegative then .gt else .lt
  | finite a m p, finite b n q =>
    let least := min p q
    let aligned (isNegative : Bool) (mantissa : Nat) (exponent : Int) : Int :=
      let size := mantissa * Nat.pow 2 (exponent - least).toNat
      if isNegative then -size else size
    Ord.compare (aligned a m p) (aligned b n q)

/-! ### Reading -/

/-- The digits at the front as a number, how many they are, and what follows. -/
def leadingDigits (text : List Char) : Nat × Nat × List Char :=
  let digits := text.takeWhile Char.isDigit
  (digits.foldl (fun n c => n * 10 + (c.toNat - 48)) 0, digits.length, text.dropWhile Char.isDigit)

/-- The exponent that a text is, or zero for no text. -/
def exponent? : List Char → Option Int
  | [] => some 0
  | mark :: text =>
    let (isNegative, text) := match text with
      | '-' :: text => (true, text)
      | '+' :: text => (false, text)
      | text => (false, text)
    let (value, count, rest) := leadingDigits text
    if mark.toLower = 'e' && count ≠ 0 && rest.isEmpty then
      some (if isNegative then -value else value)
    else none

/-- The number that a text without a sign stands for. -/
def ofUnsigned? (isNegative : Bool) (text : List Char) : Option Binary64 :=
  if ["inf", "infinity"].contains (String.ofList (text.map Char.toLower)) then
    some (infinite isNegative)
  else
    let (whole, wholeCount, rest) := leadingDigits text
    let (part, partCount, rest) := match rest with
      | '.' :: rest => leadingDigits rest
      | rest => (0, 0, rest)
    if wholeCount = 0 && partCount = 0 then none
    else (exponent? rest).map fun exponent =>
      ofDecimal isNegative (whole * Nat.pow 10 partCount + part) (exponent - partCount)

/-- The number that a text stands for: digits with a point and an exponent, or infinity. -/
def ofText? : List Char → Option Binary64
  | '-' :: text => ofUnsigned? true text
  | '+' :: text => ofUnsigned? false text
  | text => ofUnsigned? false text

/-- Whether a text stands for what is no number. -/
def isNotANumber (text : List Char) : Bool :=
  let text := match text with
    | '-' :: text | '+' :: text => text
    | text => text
  text.map Char.toLower = "nan".toList

/-! ### Writing -/

/-- The multiple of a power of ten that is nearest to a positive number among those that are
rounded to it, if there is one. The numbers that are rounded to it reach half way to its
neighbours; below a power of two the neighbours are closer. Of two that are equally near the
greater is taken. -/
def multiple? (mantissa : Nat) (exponent : Int) (decimal : Int) : Option Nat :=
  let (up, down) := power 2 (exponent - 2)
  let (tens, tenths) := power 10 decimal
  let scaled (quarters : Nat) : Nat := quarters * up * tenths
  let unit := down * tens
  let isPower := 2 * mantissa = mantissaBound && minExponent < exponent
  let value := scaled (4 * mantissa)
  let low := scaled (4 * mantissa - (if isPower then 1 else 2))
  let high := scaled (4 * mantissa + 2)
  let isRoundedHere (n : Nat) : Bool :=
    if mantissa % 2 = 0 then low ≤ n * unit && n * unit ≤ high
    else low < n * unit && n * unit < high
  let below := value / unit
  match isRoundedHere below, isRoundedHere (below + 1) with
  | true, true =>
    some (if value - below * unit < (below + 1) * unit - value then below else below + 1)
  | true, false => some below
  | false, true => some (below + 1)
  | false, false => none

/-- The decimal exponents from the greatest that a number can need to the least. -/
def decimalExponents : List Int :=
  (List.range 660).map fun n : Nat => 310 - (n : Int)

/-- The digits and the decimal exponent of the shortest text that is read as a positive number,
the nearest to it where there are several. -/
def shortest (mantissa : Nat) (exponent : Int) : Nat × Int :=
  (decimalExponents.findSome? fun decimal =>
    (multiple? mantissa exponent decimal).map (·, decimal)).getD (0, 0)

/-- Digits with a decimal exponent, written out with a point and without an exponent. -/
def positional (digits : Nat) (exponent : Int) : String :=
  let text := (toString digits).toList
  if 0 ≤ exponent then String.ofList (text ++ List.replicate exponent.toNat '0')
  else
    let places := (-exponent).toNat
    let text := List.replicate (places + 1 - text.length) '0' ++ text
    String.ofList (text.take (text.length - places) ++ '.' :: text.drop (text.length - places))

/-- The text of a number: the shortest that is read as it. -/
def display (number : Binary64) : String :=
  let signed (isNegative : Bool) (text : String) := if isNegative then "-" ++ text else text
  match number with
  | infinite isNegative => signed isNegative "inf"
  | finite isNegative mantissa exponent =>
    if mantissa = 0 then signed isNegative "0"
    else
      let (digits, decimal) := shortest mantissa exponent
      signed isNegative (positional digits decimal)

end Binary64

end SiteBoot
