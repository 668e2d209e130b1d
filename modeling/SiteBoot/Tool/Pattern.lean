import SiteBoot.Tool.Basic
/-!
Patterns for lines: characters, sets of characters and their repetitions, at the ends of lines or
anywhere.
-/

namespace SiteBoot.Tool

/-- How often a character may come in a row. -/
inductive Repetition where
  | once
  | optional
  | many
  | atLeastOnce
  deriving DecidableEq

/-- A part of a pattern: characters of a set, so often. -/
structure PatternItem where
  accepts : Char → Bool
  repetition : Repetition

/-- A pattern of parts one after the other, which may be bound to the ends of a line. -/
structure LinePattern where
  atStart : Bool
  items : List PatternItem
  atEnd : Bool

/-- How patterns are written. -/
inductive Dialect where
  | fixed
  | basic
  | extended
  deriving DecidableEq

def inClass (name : String) (c : Char) : Bool :=
  match name with
  | "alpha" => c.isAlpha
  | "digit" => c.isDigit
  | "alnum" => c.isAlphanum
  | "upper" => c.isUpper
  | "lower" => c.isLower
  | "space" => c = ' ' || ('\t' ≤ c && c ≤ '\x0d')
  | "blank" => c = ' ' || c = '\t'
  | "punct" => '!' ≤ c && c ≤ '~' && !c.isAlphanum
  | "print" => ' ' ≤ c && c ≤ '~'
  | "graph" => '!' ≤ c && c ≤ '~'
  | "cntrl" => c < ' ' || c = '\x7f'
  | "xdigit" => c.isDigit || ('a' ≤ c && c ≤ 'f') || ('A' ≤ c && c ≤ 'F')
  | _ => false

/-- The tests of a set in brackets up to its end, and the rest. -/
def bracketSet : Nat → Bool → Chars → List (Char → Bool) × Chars
  | 0, _, rest => ([], rest)
  | _, _, [] => ([], [])
  | bound + 1, isFirst, c :: rest =>
    if c = ']' && !isFirst then ([], rest)
    else if c = '[' && rest.head? = some ':' then
      let name := (rest.drop 1).takeWhile (· ≠ ':')
      let (tests, rest) := bracketSet bound false (rest.drop (name.length + 3))
      (inClass (String.ofList name) :: tests, rest)
    else match rest with
      | '-' :: last :: after =>
        if last = ']' then
          let (tests, rest) := bracketSet bound false rest
          ((fun x => x = c) :: tests, rest)
        else
          let (tests, rest) := bracketSet bound false after
          ((fun x => c ≤ x && x ≤ last) :: tests, rest)
      | rest =>
        let (tests, rest) := bracketSet bound false rest
        ((fun x => x = c) :: tests, rest)

/-- The set of characters at the front of a pattern, and the rest. -/
def frontSet (chars : Chars) : (Char → Bool) × Chars :=
  match chars with
  | '.' :: rest => (fun c => c ≠ '\n', rest)
  | '\\' :: c :: rest => (fun x => x = c, rest)
  | '[' :: '^' :: rest =>
    let (tests, rest) := bracketSet rest.length true rest
    (fun c => !tests.any (· c), rest)
  | '[' :: rest =>
    let (tests, rest) := bracketSet rest.length true rest
    (fun c => tests.any (· c), rest)
  | c :: rest => (fun x => x = c, rest)
  | [] => (fun _ => false, [])

/-- The repetition at the front of a pattern, and the rest. -/
def frontRepetition (dialect : Dialect) (chars : Chars) : Repetition × Chars :=
  match chars with
  | '*' :: rest => (.many, rest)
  | '\\' :: '+' :: rest => if dialect = .basic then (.atLeastOnce, rest) else (.once, chars)
  | '\\' :: '?' :: rest => if dialect = .basic then (.optional, rest) else (.once, chars)
  | '+' :: rest => if dialect = .extended then (.atLeastOnce, rest) else (.once, chars)
  | '?' :: rest => if dialect = .extended then (.optional, rest) else (.once, chars)
  | chars => (.once, chars)

/-- The parts of a pattern, and whether it is bound to the end. -/
def patternItems (dialect : Dialect) : Nat → Chars → List PatternItem × Bool
  | 0, _ => ([], false)
  | _, [] => ([], false)
  | bound + 1, chars =>
    if dialect = .fixed then
      (chars.map fun c => ⟨fun x => x = c, .once⟩, false)
    else if chars = ['$'] then ([], true)
    else
      let (accepts, rest) := frontSet chars
      let (repetition, rest) := frontRepetition dialect rest
      let (items, atEnd) := patternItems dialect bound rest
      (⟨accepts, repetition⟩ :: items, atEnd)

/-- The pattern that a text is, without alternatives. -/
def onePattern (dialect : Dialect) (chars : Chars) : LinePattern :=
  let atStart := dialect ≠ .fixed && chars.head? = some '^'
  let body := if atStart then chars.tail else chars
  let (items, atEnd) := patternItems dialect (body.length + 1) body
  ⟨atStart, items, atEnd⟩

/-- The patterns that a text is, of which each is an alternative. -/
def patternsOf (dialect : Dialect) (chars : Chars) : List LinePattern :=
  let lines := ((RawText.ofChars chars).splitOn 0x0A).map RawText.toChars
  let parts := if dialect = .extended then
      lines.flatMap fun line => ((RawText.ofChars line).splitOn 0x7C).map RawText.toChars
    else lines
  parts.map (onePattern dialect)

/-- How many characters at the front of a text items match, as many as possible from the first
item on. -/
def matchItems (atEnd : Bool) : List PatternItem → Chars → Option Nat
  | [], text => if atEnd && !text.isEmpty then none else some 0
  | item :: items, text =>
    let longest := (text.takeWhile item.accepts).length
    let counts := match item.repetition with
      | .once => [1]
      | .optional => [1, 0]
      | .many => (List.range (longest + 1)).reverse
      | .atLeastOnce => ((List.range longest).map (· + 1)).reverse
    counts.findSome? fun count =>
      if longest < count then none
      else (matchItems atEnd items (text.drop count)).map (count + ·)

/-- The first place at which a pattern matches in a text, and how many characters it matches. -/
def LinePattern.find? (pattern : LinePattern) (text : Chars) : Option (Nat × Nat) :=
  let starts := if pattern.atStart then [0] else List.range (text.length + 1)
  starts.findSome? fun start =>
    (matchItems pattern.atEnd pattern.items (text.drop start)).map (start, ·)

end SiteBoot.Tool
