/-!
Regular expressions, as values of fields are written: what they are made of, how deep they are
nested and which of them can be matched. Only texts are matched, and nothing is known of the cases
and kinds of characters beyond ASCII.
-/

namespace SiteBoot.LogFilter

/-- A character as it is written in an expression. Two hexadecimal digits may stand for a byte. -/
structure Literal where
  char : Char
  isByte : Bool
  deriving DecidableEq, Repr

/-- What an expression can say of a place or of one character. -/
inductive Atom where
  | literal (written : Literal)
  | anyChar
  /-- The begin or the end of a line or of the text. -/
  | edge
  /-- The begin or the end of a word, or that there is none. -/
  | wordBoundary
  /-- A digit, a blank or a character of words, or none of them. -/
  | kind (isNegated : Bool)
  | category
  deriving DecidableEq, Repr

mutual

/-- A set of characters between brackets. -/
inductive CharacterSet where
  | union (items : List SetItem)
  /-- What is in both, in the first alone, or in one alone. -/
  | combination (first second : CharacterSet)

/-- An item of a set of characters. -/
inductive SetItem where
  | literal (written : Literal)
  | range (first last : Literal)
  /-- A set by its name, all of them within ASCII. -/
  | named (isNegated : Bool)
  | kind (isNegated : Bool)
  | category
  | nested (isNegated : Bool) (set : CharacterSet)

end

/-- A switch for how an expression is read or matched. -/
inductive Switch where
  | ignoresCase
  | manyLines
  | dotMatchesAll
  | swapsGreed
  | unicode
  | carriageReturns
  | ignoresBlanks
  deriving DecidableEq, Repr

/-- Changes of switches: each with whether it is turned on. -/
abbrev SwitchChange := List (Switch × Bool)

/-- A regular expression. -/
inductive Expression where
  | empty
  | switches (change : SwitchChange)
  | atom (place : Atom)
  | oneOf (isNegated : Bool) (set : CharacterSet)
  | repeated (expression : Expression)
  | group (change : SwitchChange) (expression : Expression)
  | choice (expressions : List Expression)
  | sequence (expressions : List Expression)

/-! ### Depth -/

mutual

def CharacterSet.depth : CharacterSet → Nat
  | .union [] => 0
  | .union [item] => item.depth
  | .union items => SetItem.depthOfAll items + 1
  | .combination first second => max first.depth second.depth + 1

def SetItem.depth : SetItem → Nat
  | .nested _ set => set.depth + 1
  | _ => 0

def SetItem.depthOfAll : List SetItem → Nat
  | [] => 0
  | item :: items => max item.depth (SetItem.depthOfAll items)

end

namespace Expression

mutual

def depth : Expression → Nat
  | empty | switches _ | atom _ => 0
  | oneOf _ set => set.depth + 1
  | repeated expression | group _ expression => expression.depth + 1
  | choice expressions | sequence expressions => depthOfAll expressions + 1

def depthOfAll : List Expression → Nat
  | [] => 0
  | expression :: expressions => max expression.depth (depthOfAll expressions)

end

def maxDepth : Nat := 250

end Expression

/-! ### What can be matched -/

/-- The switches on which it depends whether something can be matched. -/
structure Matching where
  ignoresCase : Bool
  unicode : Bool

namespace Matching

/-- The switches at the begin of an expression. -/
def default : Matching := ⟨false, true⟩

def change (matching : Matching) (change : SwitchChange) : Matching :=
  ⟨(change.lookup .ignoresCase).getD matching.ignoresCase,
    (change.lookup .unicode).getD matching.unicode⟩

end Matching

/-- Whether a literal stands for a byte that is no character. -/
def Literal.isBareByte (written : Literal) : Bool := written.isByte && 0x80 ≤ written.char.toNat

/-- Whether an atom can be matched: the cases and kinds of characters are known for bytes alone,
and bytes have to be ASCII to make up text. -/
def Atom.isUsable (matching : Matching) : Atom → Bool
  | literal written =>
    if matching.unicode then !matching.ignoresCase else !written.isBareByte
  | anyChar => matching.unicode
  | edge | wordBoundary => true
  | kind isNegated => !matching.unicode && !isNegated
  | category => false

mutual

def CharacterSet.isUsable (matching : Matching) : CharacterSet → Bool
  | .union items => SetItem.areUsable matching items
  | .combination first second => first.isUsable matching && second.isUsable matching

/-- Whether an item of a set can be matched. -/
def SetItem.isUsable (matching : Matching) : SetItem → Bool
  | .literal written =>
    if matching.unicode then !matching.ignoresCase else written.char.toNat < 0x80
  | .range first last =>
    if matching.unicode then !matching.ignoresCase
    else first.char.toNat < 0x80 && last.char.toNat < 0x80
  | .named isNegated => if matching.unicode then !matching.ignoresCase else !isNegated
  | .kind isNegated => !matching.unicode && !isNegated
  | .category => false
  | .nested isNegated set => (matching.unicode || !isNegated) && set.isUsable matching

def SetItem.areUsable (matching : Matching) : List SetItem → Bool
  | [] => true
  | item :: items => item.isUsable matching && SetItem.areUsable matching items

end

namespace Expression

mutual

/-- The switches after an expression, if all of it can be matched. What is switched in a group
ends with it. -/
def use? (matching : Matching) : Expression → Option Matching
  | empty => some matching
  | switches change => some (matching.change change)
  | .atom place => if place.isUsable matching then some matching else none
  | oneOf isNegated set =>
    if (matching.unicode || !isNegated) && set.isUsable matching then some matching else none
  | repeated expression => expression.use? matching
  | group change expression => (expression.use? (matching.change change)).map fun _ => matching
  | choice expressions | sequence expressions => useAll? matching expressions

def useAll? (matching : Matching) : List Expression → Option Matching
  | [] => some matching
  | expression :: expressions =>
    match expression.use? matching with
    | some matching => useAll? matching expressions
    | none => none

end

mutual

/-- The switches after an expression, and whether it asks for boundaries of words of any
characters. -/
def boundaries (matching : Matching) : Expression → Matching × Bool
  | switches change => (matching.change change, false)
  | .atom place => (matching, place = .wordBoundary && matching.unicode)
  | repeated expression => expression.boundaries matching
  | group change expression => (matching, (expression.boundaries (matching.change change)).2)
  | choice expressions | sequence expressions => boundariesOfAll matching expressions
  | empty | oneOf .. => (matching, false)

def boundariesOfAll (matching : Matching) : List Expression → Matching × Bool
  | [] => (matching, false)
  | expression :: expressions =>
    let (matching, found) := expression.boundaries matching
    let (matching, foundLater) := boundariesOfAll matching expressions
    (matching, found || foundLater)

end

end Expression

end SiteBoot.LogFilter
