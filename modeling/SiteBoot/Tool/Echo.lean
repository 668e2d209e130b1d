import SiteBoot.Tool.Basic
/-!
The program `echo`, which is not the shell's own.
-/

namespace SiteBoot.Tool

/-- The letters after a dash that `echo` knows, if a word is made of them. -/
def echoLetters? : Chars → Option Chars
  | '-' :: letters =>
    if !letters.isEmpty && letters.all "eEn".toList.contains then some letters else none
  | _ => none

/-- The letters in the words at the front that are options, and the other words. -/
def echoOptions : List Chars → Chars × List Chars
  | [] => ([], [])
  | word :: rest =>
    match echoLetters? word with
    | some letters =>
      let (more, words) := echoOptions rest
      (letters ++ more, words)
    | none => ([], word :: rest)

def hexDigit? (c : Char) : Option Nat :=
  if c.isDigit then some (c.toNat - 48)
  else if 'a' ≤ c && c ≤ 'f' then some (c.toNat - 87)
  else if 'A' ≤ c && c ≤ 'F' then some (c.toNat - 55)
  else none

/-- The value of up to so many octal digits at the front, and the rest. -/
def octalDigits : Nat → Nat → Chars → Nat × Chars
  | 0, n, chars => (n, chars)
  | _, n, [] => (n, [])
  | count + 1, n, c :: rest =>
    if '0' ≤ c && c ≤ '7' then octalDigits count (n * 8 + (c.toNat - 48)) rest else (n, c :: rest)

/-- The character of a letter after a backslash. -/
def controlLetter? : Char → Option Char
  | 'a' => some '\x07'
  | 'b' => some '\x08'
  | 'e' => some '\x1b'
  | 'f' => some '\x0c'
  | 'n' => some '\n'
  | 'r' => some '\r'
  | 't' => some '\t'
  | 'v' => some '\x0b'
  | '\\' => some '\\'
  | _ => none

/-- The characters for what follows a backslash, and the rest. -/
def echoEscape (c : Char) (rest : Chars) : Chars × Chars :=
  let byte (n : Nat) : Char := Char.ofNat (n % 256)
  match controlLetter? c with
  | some control => ([control], rest)
  | none =>
    if c = 'x' then
      match rest with
      | a :: after =>
        match hexDigit? a, (after.head?.bind hexDigit?) with
        | none, _ => (['\\', 'x'], rest)
        | some high, some low => ([byte (high * 16 + low)], after.tail)
        | some low, none => ([byte low], after)
      | [] => (['\\', 'x'], [])
    else if c = '0' then
      let (n, rest) := octalDigits 3 0 rest
      ([byte n], rest)
    else if '1' ≤ c && c ≤ '7' then
      let (n, rest) := octalDigits 2 (c.toNat - 48) rest
      ([byte n], rest)
    else (['\\', c], rest)

/-- A word with its escapes resolved, up to one that ends all output, and whether that came. -/
def echoUnescape : Nat → Chars → Chars × Bool
  | _, [] => ([], false)
  | 0, text => (text, false)
  | bound + 1, '\\' :: c :: rest =>
    if c = 'c' then ([], true)
    else
      let (front, rest) := echoEscape c rest
      let (out, stopped) := echoUnescape bound rest
      (front ++ out, stopped)
  | bound + 1, c :: rest =>
    let (out, stopped) := echoUnescape bound rest
    (c :: out, stopped)

/-- What `echo` writes: words with blanks between them and a line end, unless options say
otherwise. In a strict environment there are no options unless the first word says that there is to
be no line end, and escapes are always resolved. -/
def echoText (isStrict : Bool) (words : List Chars) : Chars :=
  let (letters, words) :=
    if isStrict && words.head? ≠ some ['-', 'n'] then ([], words) else echoOptions words
  let resolves := isStrict || (letters.filter (· ≠ 'n')).getLast? = some 'e'
  let text := [' '].intercalate words
  let (out, stopped) := if resolves then echoUnescape text.length text else (text, false)
  if stopped || letters.contains 'n' then out else out ++ ['\n']

def echo (words : List Chars) : Work Unit := do
  print (echoText (← lookUp? "POSIXLY_CORRECT").isSome words)

end SiteBoot.Tool
