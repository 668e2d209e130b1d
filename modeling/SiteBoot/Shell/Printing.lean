import SiteBoot.Binary64
import SiteBoot.Shell.Arithmetic
/-!
What `echo` and `printf` write: escapes, conversions and the reuse of a format.
-/

namespace SiteBoot.Shell

/-! ### Escapes -/

/-- The character of the letter after a backslash. -/
def escapeLetter? : Char → Option Char
  | 'a' => some '\x07'
  | 'b' => some '\x08'
  | 'e' => some '\x1b'
  | 'f' => some '\x0c'
  | 'n' => some '\n'
  | 'r' => some '\r'
  | 't' => some '\t'
  | 'v' => some '\x0b'
  | '\\' => some '\\'
  | _ => none

def isOctal (c : Char) : Bool := '0' ≤ c && c ≤ '7'

/-- The character of up to so many octal digits at the front, with the rest. -/
def octal (count : Nat) (chars : Chars) : Char × Chars :=
  let digits := (chars.take count).takeWhile isOctal
  let value := digits.foldl (fun n c => n * 8 + (c.toNat - 48)) 0
  (Char.ofNat (value % 256), chars.drop digits.length)

/-- The characters of the escape after a backslash, with the rest. -/
def escape (chars : Chars) : Chars × Chars :=
  match chars with
  | c :: rest =>
    if isOctal c then
      let (c, rest) := octal 3 chars
      ([c], rest)
    else match escapeLetter? c with
      | some c => ([c], rest)
      | none => (['\\'], chars)
  | [] => (['\\'], [])

/-- A text with its escapes resolved, up to `\c`, and whether that came. -/
def unescape : Nat → Chars → Chars × Bool
  | _, [] => ([], false)
  | 0, chars => (chars, false)
  | _ + 1, '\\' :: 'c' :: _ => ([], true)
  | bound + 1, '\\' :: rest =>
    let digits := match rest with
      | '0' :: c :: rest => if isOctal c then c :: rest else '0' :: c :: rest
      | rest => rest
    let (front, rest) := escape digits
    let (out, stopped) := unescape bound rest
    (front ++ out, stopped)
  | bound + 1, c :: rest =>
    let (out, stopped) := unescape bound rest
    (c :: out, stopped)

def joinWords (words : List Chars) : Chars := [' '].intercalate words

/-- What the shell's own `echo` writes. -/
def echoText (words : List Chars) : Chars :=
  let (words, ends) := match words with
    | ['-', 'n'] :: words => (words, false)
    | words => (words, true)
  let text := joinWords words
  let (out, stopped) := unescape text.length text
  if ends && !stopped then out ++ ['\n'] else out

/-! ### Numbers with a fraction -/

/-- The digits of a number, at least so many of them. -/
def paddedDigits (count n : Nat) : Chars :=
  let digits := Nat.toDigits 10 n
  List.replicate (count - digits.length) '0' ++ digits

/-- A quotient with so many places after the point. -/
def fixedPoint (num den places : Nat) : Chars :=
  let digits := paddedDigits (places + 1) (Binary64.roundQuotient (num * Nat.pow 10 places) den)
  let whole := digits.length - places
  digits.take whole ++ (if places = 0 then [] else '.' :: digits.drop whole)

/-- The decimal exponent of a quotient that is rounded to so many digits, with these digits. -/
def scientific (num den places : Nat) : Int × Nat :=
  if num = 0 then (0, 0)
  else
    let guess : Int := (Nat.toDigits 10 num).length - (Nat.toDigits 10 den).length
    let (up, down) := Binary64.power 10 guess
    let exponent := if den * up ≤ num * down then guess else guess - 1
    let (up, down) := Binary64.power 10 (places - exponent)
    let digits := Binary64.roundQuotient (num * up) (den * down)
    if digits < Nat.pow 10 (places + 1) then (exponent, digits) else (exponent + 1, digits / 10)

/-- Digits with a point after the first one, and an exponent. -/
def exponential (exponent : Int) (digits : Chars) : Chars :=
  let point := if digits.length ≤ 1 then [] else '.' :: digits.drop 1
  let sign := if exponent < 0 then '-' else '+'
  digits.take 1 ++ point ++ ['e', sign] ++ paddedDigits 2 exponent.natAbs

/-- A text of digits and a point without the zeros at its end. -/
def withoutZeros (text : Chars) : Chars :=
  if text.contains '.' then
    let text := (text.reverse.dropWhile (· = '0')).reverse
    if text.getLast? = some '.' then text.dropLast else text
  else text

/-- A positive quotient as a letter says, with so many places or digits. -/
def fraction (letter : Char) (places num den : Nat) : Chars :=
  match letter with
  | 'f' => fixedPoint num den places
  | 'g' =>
    let places := max 1 places - 1
    let (exponent, digits) := scientific num den places
    if -4 ≤ exponent && exponent ≤ places then
      withoutZeros (fixedPoint num den ((places : Int) - exponent).toNat)
    else
      let digits := withoutZeros ('.' :: paddedDigits (places + 1) digits)
      exponential exponent (digits.drop 1)
  | _ =>
    let (exponent, digits) := scientific num den places
    exponential exponent (paddedDigits (places + 1) digits)

/-! ### Formats -/

/-- How a conversion fills its place. -/
structure Layout where
  flags : Chars
  width : Nat
  precision : Option Nat

def Layout.fill (layout : Layout) (withZeros : Bool) (sign text : Chars) : Chars :=
  let missing := layout.width - (sign.length + text.length)
  if layout.flags.contains '-' then sign ++ text ++ List.replicate missing ' '
  else if withZeros && layout.flags.contains '0' then sign ++ List.replicate missing '0' ++ text
  else List.replicate missing ' ' ++ sign ++ text

/-- The sign that is written before a number. -/
def Layout.sign (layout : Layout) (isNegative : Bool) : Chars :=
  if isNegative then ['-']
  else if layout.flags.contains '+' then ['+']
  else if layout.flags.contains ' ' then [' ']
  else []

/-- Digits of a whole number, at least as many as the precision says. -/
def Layout.whole (layout : Layout) (sign digits : Chars) : Chars :=
  let digits := List.replicate (layout.precision.getD 1 - digits.length) '0' ++ digits
  layout.fill layout.precision.isNone sign digits

/-- What has been written by a format, its last character first, what has been found wrong with
arguments, the last first, and the arguments that are left. -/
structure Printed where
  out : Chars
  faults : List Chars
  args : List Chars

/-- Why a format is not followed to its end. -/
inductive FormatStop where
  | asked
  | wrong (message : Chars)

abbrev Formatting := ExceptT FormatStop (StateM Printed)

namespace Formatting

def emit (chars : Chars) : Formatting Unit :=
  modify fun printed => { printed with out := chars.reverse ++ printed.out }

def nextArg : Formatting Chars := do
  let printed ← get
  set { printed with args := printed.args.tail }
  return printed.args.headD []

def complain (arg : Chars) (what : String) : Formatting Unit :=
  modify fun printed =>
    { printed with faults := (arg ++ ": ".toList ++ what.toList) :: printed.faults }

/-- What the text of a number means. What follows the number is said to be wrong. -/
def readArg (isSigned : Bool) : Formatting Int := do
  let arg ← nextArg
  match arg with
  | '"' :: rest | '\'' :: rest => return (rest.head?.map Char.toNat).getD 0
  | _ =>
    let unsigned := arg.dropWhile Arithmetic.isBlank
    let (negative, digits) := Arithmetic.readSign unsigned
    let (n, rest, found) :=
      if digits.head?.any Char.isDigit then
        let (n, rest) := Arithmetic.readNumber digits
        (n, rest, true)
      else (0, arg, false)
    if !rest.isEmpty then
      complain arg (if found then "not completely converted" else "expected numeric value")
    let n : Int := if negative then -n else n
    let limited := if isSigned then saturate n
      else if n < -wholeWord || wholeWord ≤ n then wholeWord - 1 else n
    if limited ≠ n && rest.isEmpty then complain arg "Numerical result out of range"
    return limited

/-- The number with a fraction that an argument means. -/
def readFraction : Formatting Binary64 := do
  let arg ← nextArg
  let text := arg.dropWhile Arithmetic.isBlank
  if text.isEmpty then return .finite false 0 0
  let lengths := ((List.range (text.length + 1)).reverse).filterMap fun n =>
    (Binary64.ofText? (text.take n)).map (n, ·)
  match lengths.head? with
  | some (n, value) =>
    if n < text.length then complain arg "not completely converted"
    return value
  | none =>
    complain arg "expected numeric value"
    return .finite false 0 0

def convert (layout : Layout) (letter : Char) : Formatting Unit := do
  let short (text : Chars) : Chars := match layout.precision with
    | some n => text.take n
    | none => text
  let unsigned (base : Nat) (start : Chars) : Formatting Unit := do
    let n := ((← readArg false) % wholeWord).toNat
    let digits := if n = 0 && layout.precision = some 0 then [] else Nat.toDigits base n
    if !layout.flags.contains '#' then emit (layout.whole [] digits)
    else if base = 8 then
      emit (layout.whole [] (if digits.head? = some '0' then digits else '0' :: digits))
    else emit (layout.whole (if n = 0 then [] else start) digits)
  match letter with
  | 's' => emit (layout.fill false [] (short (← nextArg)))
  | 'c' => emit (layout.fill false [] [(← nextArg).headD '\x00'])
  | 'b' =>
    let arg ← nextArg
    let (text, stopped) := unescape arg.length arg
    emit (layout.fill false [] (short text))
    if stopped then throw .asked
  | 'd' | 'i' =>
    let n ← readArg true
    let digits := if n = 0 && layout.precision = some 0 then [] else Nat.toDigits 10 n.natAbs
    emit (layout.whole (layout.sign (n < 0)) digits)
  | 'o' => unsigned 8 []
  | 'u' => unsigned 10 []
  | 'x' => unsigned 16 "0x".toList
  | 'X' =>
    let before ← get
    set { before with out := [] }
    unsigned 16 "0x".toList
    modify fun printed => { printed with out := printed.out.map Char.toUpper ++ before.out }
  | letter =>
    let places := layout.precision.getD 6
    let shown ← match ← readFraction with
      | .infinite isNegative => pure (layout.fill false (layout.sign isNegative) "inf".toList)
      | .finite isNegative mantissa exponent =>
        let (up, down) := Binary64.power 2 exponent
        pure (layout.fill true (layout.sign isNegative)
          (fraction letter.toLower places (mantissa * up) down))
    emit (if letter.isUpper then shown.map Char.toUpper else shown)

/-- The number of the digits at the front, or the next argument for a star, with the rest. -/
def readSize (chars : Chars) : Formatting (Int × Chars) := do
  match chars with
  | '*' :: rest => return (← readArg true, rest)
  | chars =>
    let (n, rest) := Arithmetic.digits 10 chars
    return (n, rest)

def follow : Nat → Chars → Formatting Unit
  | _, [] => return
  | 0, _ => return
  | bound + 1, '%' :: '%' :: rest => do
    emit ['%']
    follow bound rest
  | bound + 1, '%' :: rest => do
    let flags := rest.takeWhile "#-+ 0".toList.contains
    let afterFlags := rest.drop flags.length
    let (width, afterWidth) ← readSize afterFlags
    let (precision, afterSizes) ← match afterWidth with
      | '.' :: digits => do
        let (n, after) ← readSize digits
        pure (if 0 ≤ n then some n.toNat else none, after)
      | after => pure (none, after)
    let flags := if width < 0 then '-' :: flags else flags
    match afterSizes with
    | [] => throw (.wrong "missing format character".toList)
    | letter :: after =>
      if "bcsdiouxXaAeEfFgG".toList.contains letter then
        convert ⟨flags, width.natAbs, precision⟩ letter
        follow bound after
      else
        let sign := '%' :: rest.take (rest.length - after.length)
        throw (.wrong (sign ++ ": invalid directive".toList))
  | bound + 1, '\\' :: rest => do
    let (front, rest) := escape rest
    emit front
    follow bound rest
  | bound + 1, c :: rest => do
    emit [c]
    follow bound rest

/-- Follows a format over and over until the arguments are used up. -/
def followAll (format : Chars) : Nat → Formatting Unit
  | 0 => return
  | bound + 1 => do
    let before := (← get).args.length
    follow format.length format
    let after := (← get).args.length
    if after ≠ before && after ≠ 0 then followAll format bound

end Formatting

/-- What `printf` does with a format and arguments: what it writes, what it has found wrong with
arguments, and why it gave up if it did. -/
def printfRun (format : Chars) (args : List Chars) : Chars × List Chars × Option Chars :=
  let (result, printed) := (Formatting.followAll format (args.length + 1)).run.run ⟨[], [], args⟩
  let failure := match result with
    | .error (.wrong message) => some message
    | _ => none
  (printed.out.reverse, printed.faults.reverse, failure)

end SiteBoot.Shell
