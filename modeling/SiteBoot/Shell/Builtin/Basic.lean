import SiteBoot.Shell.Lookup
/-!
What the builtins have in common: options, quoting, and the lists that they write out.
-/

namespace SiteBoot.Shell

/-- Whether options have an argument, and whether they are known, by the letters of which each may
be followed by a colon. -/
def optionKind? (letter : Char) : Chars → Option Bool
  | [] => none
  | c :: ':' :: rest => if c = letter then some true else optionKind? letter rest
  | c :: rest => if c = letter then some false else optionKind? letter rest

/-- The options in the letters of a word after which other words follow. -/
def letterOptions (letters : Chars) :
    Chars → List Chars → Except Chars (List (Char × Chars) × List Chars)
  | [], words => return ([], words)
  | c :: rest, words => do
    match optionKind? c letters with
    | none => throw ("Illegal option -".toList ++ [c])
    | some false =>
      let (options, words) ← letterOptions letters rest words
      return ((c, []) :: options, words)
    | some true =>
      if !rest.isEmpty then return ([(c, rest)], words)
      else match words with
        | value :: words => return ([(c, value)], words)
        | [] => throw ("No arg for -".toList ++ c :: " option".toList)

/-- The options at the beginning of words, with their arguments, and the other words. -/
def wordOptions (letters : Chars) :
    Nat → List Chars → Except Chars (List (Char × Chars) × List Chars)
  | 0, words => return ([], words)
  | bound + 1, words => do
    match words with
    | ['-', '-'] :: rest => return ([], rest)
    | ('-' :: c :: cs) :: rest =>
      let (first, rest) ← letterOptions letters (c :: cs) rest
      let (others, rest) ← wordOptions letters bound rest
      return (first ++ others, rest)
    | words => return ([], words)

/-- The options of a builtin and its other words. -/
def readOptions (letters : String) (words : List Chars) :
    Run (List (Char × Chars) × List Chars) := do
  match wordOptions letters.toList words.length words with
  | .ok result => return result
  | .error message => fail message

/-- The words of a builtin that has no options. -/
def withoutOptions (words : List Chars) : Run (List Chars) := do
  return (← readOptions "" words).2

/-- A text in quotes, as it can be read again, by its parts without single quotes. -/
def quoteParts : Nat → Chars → Chars
  | 0, _ => []
  | bound + 1, chars =>
    let plain := chars.takeWhile (· ≠ '\'')
    let rest := chars.drop plain.length
    let quotes := rest.takeWhile (· = '\'')
    let front := '\'' :: plain ++ ['\'']
    if rest.isEmpty then front
    else
      let after := rest.drop quotes.length
      front ++ '"' :: quotes ++ '"' :: (if after.isEmpty then [] else quoteParts bound after)

/-- A text in quotes, as it can be read again. -/
def singleQuoted (chars : Chars) : Chars := quoteParts (chars.length + 1) chars

/-- An alias as it can be read again. -/
def aliasText (name value : Chars) : Chars := name ++ '=' :: singleQuoted value ++ ['\n']

/-- Whether a name comes before another one, by the bytes. -/
def nameBefore (a b : Chars × Variable) : Bool := comesBefore a.1 b.1

/-- Writes out variables as they can be read again, each after a word. -/
def printVariables (word : String) (vars : List (Chars × Variable)) : Run Unit := do
  for (name, stored) in vars.mergeSort nameBefore do
    let front := if word.isEmpty then [] else word.toList ++ [' ']
    let value := match stored.value with
      | some value => '=' :: singleQuoted value
      | none => []
    print (front ++ name ++ value ++ ['\n'])

/-- The name in a word and the value after an equals sign, if there is one. The name has to be the
name of a variable. -/
def nameAndValue (word : Chars) : Run (Chars × Option Chars) := do
  let name := word.takeWhile (· ≠ '=')
  if !isName name then fail (name ++ ": bad variable name".toList)
  match word.drop name.length with
  | _ :: value => return (name, some value)
  | [] => return (name, none)

/-- The signal of a name or number, where number 0 is the end of the shell. -/
def signalNumber? (word : Chars) (least : Nat) : Option Nat :=
  if !word.isEmpty && word.all Char.isDigit then
    match (text word).toNat? with
    | some n => if n ≤ Signal.greatest then some n else none
    | none => none
  else
    (List.range (Signal.greatest + 1)).find? fun n =>
      least ≤ n && (Signal.nameOf n).toList = word.map Char.toUpper

end SiteBoot.Shell
