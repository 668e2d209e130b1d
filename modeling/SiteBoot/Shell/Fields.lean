import SiteBoot.Shell.Pattern
/-!
What comes of words when they are expanded: characters that remember where they come from, since
only what was put in for parameters, clauses and expressions is split into fields, and only what is
not quoted is a pattern.
-/

namespace SiteBoot.Shell

/-- A character of an expanded word, or a place in it. -/
inductive Glyph where
  | plain (c : Char)
  | kept (c : Char)
  /-- Was put in. `isFirst` says that what was put in begins with it. -/
  | value (c : Char) (isFirst : Bool)
  /-- A quote, which may be all that there is of a word. -/
  | edge
  /-- All arguments of the shell begin here. -/
  | many
  /-- One argument of the shell ends here, and another one follows. -/
  | fieldEnd
  deriving DecidableEq

/-- A word of the shell after it was expanded and before it is split. -/
abbrev Glyphs := List Glyph

namespace Glyph

def ofValue (isQuoted : Bool) (chars : Chars) : Glyphs :=
  if isQuoted then chars.map kept
  else match chars with
    | [] => []
    | c :: rest => value c true :: rest.map (value · false)

/-- The character of a glyph, if it is one. -/
def char? : Glyph → Option Char
  | plain c | kept c | value c _ => some c
  | fieldEnd => some '\x00'
  | edge | many => none

def text (glyphs : Glyphs) : Chars := glyphs.filterMap char?

/-- The characters of glyphs, marked where they are quoted, as patterns are. A backslash that was
put in quotes what follows it. -/
def marked : Glyphs → List (Char × Bool)
  | [] => []
  | kept c :: rest => (c, true) :: marked rest
  | plain '\\' :: rest | value '\\' _ :: rest =>
    match rest with
    | plain c :: rest | kept c :: rest | value c _ :: rest => (c, true) :: marked rest
    | rest => ('\\', true) :: marked rest
  | plain c :: rest | value c _ :: rest => (c, false) :: marked rest
  | _ :: rest => marked rest

end Glyph

/-! ### Fields -/

/-- How far a word has been split. -/
structure Splitting where
  fields : List Glyphs
  /-- The field that has begun, its last glyph first. -/
  current : Glyphs
  /-- A blank has just ended a field. -/
  isAfterBlank : Bool
  /-- The last that was put in were the arguments of the shell. -/
  isMany : Bool
  /-- The same for what was put in before that. -/
  wasMany : Bool

/-- A blank that does not count at the ends of fields. The end of an argument is one too. -/
def isFieldBlank (c : Char) : Bool := " \t\n\x00".toList.contains c

namespace Splitting

def start : Splitting := ⟨[], [], false, false, false⟩

/-- The field that has begun is at its end. -/
def cut (splitting : Splitting) : Splitting :=
  { splitting with fields := splitting.current.reverse :: splitting.fields, current := [] }

def push (splitting : Splitting) (glyph : Glyph) : Splitting :=
  { splitting with current := glyph :: splitting.current }

/-- Goes on with a character that was put in. -/
def value (separators : Chars) (splitting : Splitting) (c : Char) : Splitting :=
  let separates := c = '\x00' || separators.contains c
  let isBlank := separates && isFieldBlank c
  if splitting.isAfterBlank && separates then
    if isBlank then splitting else { splitting with isAfterBlank := false }
  else if separates then
    let isAfterBlank := if splitting.wasMany then false else isBlank
    if splitting.current.isEmpty && isAfterBlank then splitting
    else { splitting.cut with isAfterBlank := isAfterBlank }
  else { splitting.push (.value c false) with isAfterBlank := false }

def step (separators : Chars) (splitting : Splitting) : Glyph → Splitting
  | .value c isFirst =>
    let splitting := if isFirst then
        { splitting with wasMany := splitting.isMany, isMany := false, isAfterBlank := false }
      else splitting
    splitting.value separators c
  | .many => { splitting with wasMany := splitting.isMany, isMany := true, isAfterBlank := false }
  | .fieldEnd => splitting.cut
  | glyph => { splitting with current := glyph :: splitting.current }

/-- All fields. What comes after the last separator is one if there is something of it. -/
def all (splitting : Splitting) : List Glyphs :=
  (if splitting.isMany || !splitting.current.isEmpty then splitting.cut else splitting).fields.reverse

end Splitting

def splitFields (separators : Chars) (glyphs : Glyphs) : List Glyphs :=
  (glyphs.foldl (Splitting.step separators) .start).all

/-! ### Fields of a line

A line is split into so many fields, of which the last one is all that is left. -/

/-- The rest of a line as its last field: without blanks at its end, and without its one separator
if that is all that follows the first field of it. -/
def lastField (separators : Chars) (line : List (Char × Bool)) : Chars :=
  let separates (c : Char × Bool) : Bool := !c.2 && separators.contains c.1
  let isBlank (c : Char × Bool) : Bool := separates c && isFieldBlank c.1
  let trimmed := (line.reverse.dropWhile isBlank).reverse
  let first := trimmed.takeWhile (!separates ·)
  let after := (trimmed.drop first.length).dropWhile isBlank
  let kept := match after with
    | [sign] => if separates sign then first else trimmed
    | _ => trimmed
  kept.map Prod.fst

/-- The fields of a line, of characters that are marked where they do not separate. -/
def lineFields (separators : Chars) : Nat → List (Char × Bool) → List Chars
  | 0, _ => []
  | 1, line =>
    [lastField separators (line.dropWhile fun (c, isKept) =>
      !isKept && separators.contains c && isFieldBlank c)]
  | count + 2, line =>
    let separates (c : Char × Bool) : Bool := !c.2 && separators.contains c.1
    let isBlank (c : Char × Bool) : Bool := separates c && isFieldBlank c.1
    let line := line.dropWhile isBlank
    let field := line.takeWhile (!separates ·)
    let rest := (line.drop field.length).dropWhile isBlank
    let rest := match rest with
      | sign :: after =>
        if separates sign && !isBlank sign then after.dropWhile isBlank else rest
      | [] => []
    if line.isEmpty then [] else field.map Prod.fst :: lineFields separators (count + 1) rest

end SiteBoot.Shell
