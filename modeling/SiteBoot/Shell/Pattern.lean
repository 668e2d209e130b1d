import SiteBoot.Shell.Syntax
/-!
Patterns of the shell, as cases, the ends of parameters and names of files are compared with them.
A character that is quoted stands for itself.
-/

namespace SiteBoot.Shell

/-- Characters that are given by what they are. -/
inductive CharacterClass where
  | alnum
  | alpha
  | blank
  | control
  | digit
  | graph
  | lower
  | print
  | punct
  | space
  | upper
  | hexDigit
  deriving DecidableEq

namespace CharacterClass

def name : CharacterClass → String
  | alnum => ":alnum:]"
  | alpha => ":alpha:]"
  | blank => ":blank:]"
  | control => ":cntrl:]"
  | digit => ":digit:]"
  | graph => ":graph:]"
  | lower => ":lower:]"
  | print => ":print:]"
  | punct => ":punct:]"
  | space => ":space:]"
  | upper => ":upper:]"
  | hexDigit => ":xdigit:]"

def all : List CharacterClass :=
  [alnum, alpha, blank, control, digit, graph, lower, print, punct, space, upper, hexDigit]

/-- Whether a character is visible, the blank apart. -/
def isVisible (c : Char) : Bool := '!' ≤ c && c ≤ '~'

def contains : CharacterClass → Char → Bool
  | alnum, c => c.isAlphanum
  | alpha, c => c.isAlpha
  | blank, c => c = ' ' || c = '\t'
  | control, c => c < ' ' || c = '\x7f'
  | digit, c => c.isDigit
  | graph, c => isVisible c
  | lower, c => c.isLower
  | print, c => c = ' ' || isVisible c
  | punct, c => isVisible c && !c.isAlphanum
  | space, c => c = ' ' || ('\t' ≤ c && c ≤ '\x0d')
  | upper, c => c.isUpper
  | hexDigit, c => c.isDigit || ('a' ≤ c && c ≤ 'f') || ('A' ≤ c && c ≤ 'F')

end CharacterClass

/-- Some characters of a bracket expression. -/
inductive BracketItem where
  | range (low high : Char)
  | ofKind (kind : CharacterClass)
  deriving DecidableEq

def BracketItem.contains : BracketItem → Char → Bool
  | range low high, c => low ≤ c && c ≤ high
  | ofKind kind, c => kind.contains c

/-- A character of a pattern. -/
inductive PatternPart where
  | exactly (c : Char)
  | anyOne
  | anyMany
  /-- One character that is in one of the items, or in none of them. -/
  | oneOf (negated : Bool) (items : List BracketItem)
  deriving DecidableEq

/-- The class whose name comes next after its first bracket, and the rest after it. -/
def characterClass? (marked : List (Char × Bool)) :
    Option (CharacterClass × List (Char × Bool)) :=
  CharacterClass.all.findSome? fun kind =>
    let name := kind.name.toList
    if (marked.take name.length).map Prod.fst = name then
      some (kind, marked.drop name.length)
    else none

/-- The items of a bracket expression and the rest after it. A closing bracket that comes first is
a character of it. -/
def bracketItems : Nat → Bool → List (Char × Bool) →
    Option (List BracketItem × List (Char × Bool))
  | 0, _, _ => none
  | _, _, [] => none
  | bound + 1, isFirst, (c, isQuoted) :: rest =>
    if c = ']' && !isQuoted && !isFirst then some ([], rest)
    else
      match (if c = '[' && !isQuoted then characterClass? rest else none) with
      | some (kind, rest) => do
        let (items, rest) ← bracketItems bound false rest
        return (.ofKind kind :: items, rest)
      | none =>
        match rest with
        | ('-', false) :: (high, highQuoted) :: after =>
          if high = ']' && !highQuoted then do
            let (items, rest) ← bracketItems bound false rest
            return (.range c c :: items, rest)
          else do
            let (items, rest) ← bracketItems bound false after
            return (.range c high :: items, rest)
        | rest => do
          let (items, rest) ← bracketItems bound false rest
          return (.range c c :: items, rest)

/-- The parts of a pattern, of characters that are marked where they are quoted. -/
def patternParts (bound : Nat) (marked : List (Char × Bool)) : List PatternPart :=
  match bound, marked with
  | 0, _ => []
  | _, [] => []
  | bound + 1, (c, true) :: rest => .exactly c :: patternParts bound rest
  | bound + 1, ('*', false) :: rest => .anyMany :: patternParts bound rest
  | bound + 1, ('?', false) :: rest => .anyOne :: patternParts bound rest
  | bound + 1, ('[', false) :: rest =>
    let (negated, inner) := match rest with
      | ('!', false) :: inner => (true, inner)
      | inner => (false, inner)
    match bracketItems (inner.length + 1) true inner with
    | some (items, rest) => .oneOf negated items :: patternParts bound rest
    | none => .exactly '[' :: patternParts bound rest
  | bound + 1, (c, false) :: rest => .exactly c :: patternParts bound rest

/-- Whether a text is of the form of a pattern. -/
def matchesParts : List PatternPart → Chars → Bool
  | [], text => text.isEmpty
  | .anyMany :: parts, [] => matchesParts parts []
  | .anyMany :: parts, c :: text =>
    matchesParts parts (c :: text) || matchesParts (.anyMany :: parts) text
  | _ :: _, [] => false
  | .exactly p :: parts, c :: text => p = c && matchesParts parts text
  | .anyOne :: parts, _ :: text => matchesParts parts text
  | .oneOf negated items :: parts, c :: text =>
    (items.any (·.contains c) != negated) && matchesParts parts text

/-- The parts of a pattern of marked characters. -/
def patternOf (marked : List (Char × Bool)) : List PatternPart :=
  patternParts marked.length marked

/-- Whether a text is of the form of a pattern of marked characters. -/
def matchesPattern (marked : List (Char × Bool)) (text : Chars) : Bool :=
  matchesParts (patternOf marked) text

/-- A text up to where the first of several texts in it ends. -/
def firstText (text : Chars) : Chars := text.takeWhile (· ≠ '\x00')

/-- A text without what a pattern matches at one of its ends, the longest or the shortest piece.
Where several texts are joined, a piece is compared up to the first end in it, and pieces that are
looked for from the front begin or end in the first text. -/
def withoutMatch (marked : List (Char × Bool)) (atEnd longest : Bool) (text : Chars) : Chars :=
  let parts := patternOf marked
  let last := if atEnd = longest then (firstText text).length else text.length
  let cuts := (List.range (last + 1)).map fun n => (text.take n, text.drop n)
  let kept := cuts.filterMap fun (front, rest) =>
    let (piece, kept) := if atEnd then (rest, front) else (front, rest)
    if matchesParts parts (firstText piece) then some kept else none
  let result := if atEnd = longest then kept.head? else kept.getLast?
  result.getD text

end SiteBoot.Shell
