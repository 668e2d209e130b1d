import SiteBoot.Shell.Arithmetic
import SiteBoot.Shell.Fields
import SiteBoot.Shell.PathPattern
import SiteBoot.Shell.State
/-!
The expansion of words. Clauses that stand in words are run by an argument.
-/

namespace SiteBoot.Shell

/-! ### Home directories -/

/-- The home directory of a user, or of the one who runs the shell. -/
def State.home? (state : State) (user : Chars) : Option Chars :=
  if user.isEmpty then state.value? "HOME".toList
  else if user = "root".toList then some "/root".toList
  else none

/-- A text with a home directory in the place of a tilde at its front. `isWhole` says that nothing
comes after the text. -/
def expandTilde (home? : Chars → Option Chars) (inAssignment isWhole : Bool) (text : Chars) :
    List Piece :=
  match text with
  | '~' :: rest =>
    let user := rest.takeWhile fun c => c ≠ '/' && !(inAssignment && c = ':')
    let after := rest.drop user.length
    if after.isEmpty && !isWhole then [.text text]
    else match home? user with
      | some home => home.map Piece.escaped ++ [.text after]
      | none => [.text text]
  | text => [.text text]

/-- The parts of a text, each but the first with the colon before it split off. -/
def colonParts : Chars → List Chars
  | [] => [[]]
  | ':' :: rest => [] :: colonParts rest
  | c :: rest =>
    match colonParts rest with
    | part :: parts => (c :: part) :: parts
    | [] => [[c]]

/-- Pieces with home directories in the places of tildes: at the front, and after colons in what is
assigned. -/
def withHomes (home? : Chars → Option Chars) (inAssignment : Bool) :
    Bool → List Piece → List Piece
  | _, [] => []
  | isFront, .text chars :: rest =>
    let parts := if inAssignment then colonParts chars else [chars]
    let expanded := parts.zipIdx.map fun (part, i) =>
      let isWhole := rest.isEmpty || i + 1 < parts.length
      let pieces := if isFront || 0 < i then expandTilde home? inAssignment isWhole part
        else [.text part]
      if 0 < i then .text [':'] :: pieces else pieces
    expanded.flatten ++ (if inAssignment then withHomes home? true false rest else rest)
  | _, piece :: rest =>
    piece :: (if inAssignment then withHomes home? true false rest else rest)

/-! ### Parameters -/

/-- How pieces are expanded. -/
structure Setting where
  isQuoted : Bool
  isSplit : Bool
  /-- The pieces stand in a parameter that is split. -/
  inParameter : Bool
  inAssignment : Bool

/-- All arguments of a shell as one text, with a character between them that is nothing at all if
variables say so. -/
def State.joinedArgs (state : State) (isSplit : Bool) : Chars :=
  let separator := match state.value? "IFS".toList with
    | some separators => if isSplit then ['\x00'] else separators.take 1
    | none => [' ']
  separator.intercalate state.args

/-- Whether the arguments of a shell become fields of their own although they are quoted. -/
def Setting.keepsArgs (setting : Setting) (name : Chars) : Bool :=
  name = ['@'] && setting.isQuoted && setting.isSplit

/-- The value of a parameter, where all arguments are one text. -/
def State.parameter? (state : State) (setting : Setting) (name : Chars) : Option Chars :=
  if setting.keepsArgs name then some (['\x00'].intercalate state.args)
  else match name with
    | ['@'] | ['*'] => some (state.joinedArgs (setting.isSplit && !setting.isQuoted))
    | c :: _ => if beginsName c then state.value? name else state.special? name
    | [] => none

/-- The glyphs of what is put in for a parameter. -/
def State.glyphsFor (state : State) (setting : Setting) (name value : Chars) : Glyphs :=
  if setting.keepsArgs name then
    if state.args.isEmpty then []
    else .many :: value.map fun c => if c = '\x00' then .fieldEnd else .kept c
  else Glyph.ofValue setting.isQuoted value

/-- The glyphs of the value of a parameter. -/
def State.parameterGlyphs (state : State) (setting : Setting) (name : Chars) : Glyphs :=
  state.glyphsFor setting name ((state.parameter? setting name).getD [])

/-- Whether an expansion takes the word and not the value. -/
def isMissing (alsoEmpty : Bool) : Option Chars → Bool
  | none => true
  | some value => alsoEmpty && value.isEmpty

/-- Gives up because a parameter is not set. -/
def failUnset {α : Type} (name message : Chars) : Run α := fail (name ++ ": ".toList ++ message)

/-- The value of an expression, which may assign variables. -/
def evaluateExpression (expression : Chars) : Run Int := do
  let state ← get
  match Arithmetic.evaluate state.value? expression with
  | .error fault => fail (fault.message expression)
  | .ok (value, assigned) =>
    for (name, n) in assigned do assign name (some (toString n).toList) false
    return value

/-! ### Pieces -/

def maxPieceDepth : Nat := 1000

section
variable (output : Clause → Run Chars)

/-- The glyphs of a piece, down to a depth. -/
def expandPiece : Nat → Setting → Piece → Run Glyphs
  | 0, _, _ => fail "Bad substitution".toList
  | depth + 1, setting, piece => do
    let expandAll (setting : Setting) (pieces : List Piece) : Run Glyphs := do
      let glyphs ← pieces.mapM (expandPiece depth setting)
      return glyphs.flatten
    /- The text of the word of a parameter. -/
    let wordText (word : List Piece) : Run Chars := do
      let home? := (← get).home?
      return Glyph.text (← expandAll ⟨false, false, false, false⟩ (withHomes home? false true word))
    match piece with
    | .text chars =>
      if setting.isQuoted then return chars.map .kept
      else if setting.inParameter then return Glyph.ofValue false chars
      else return chars.map .plain
    | .escaped c => return [.kept c]
    | .quoted pieces =>
      match pieces, setting.isQuoted with
      | [.parameter ['@'] .value _], false =>
        return (← get).parameterGlyphs { setting with isQuoted := true } ['@']
      | _, _ => return .edge :: (← expandAll { setting with isQuoted := true } pieces)
    | .output clause =>
      let text ← output clause
      return Glyph.ofValue setting.isQuoted text
    | .arithmetic expression =>
      let text := Glyph.text (← expandAll ⟨true, false, false, false⟩ expression)
      let value ← evaluateExpression text
      return Glyph.ofValue setting.isQuoted (toString value).toList
    | .parameter name use word =>
      let state ← get
      let value? := state.parameter? setting name
      let unsplit? := state.parameter? { setting with isSplit := false } name
      let glyphs := state.parameterGlyphs setting name
      let checkSet : Run Unit := do
        if value?.isNone && state.hasOption 'u' then
          failUnset name "parameter not set".toList
      let expandWord : Run Glyphs := do
        let setting := { setting with inParameter := !setting.isQuoted }
        expandAll setting (if setting.isQuoted then word
          else withHomes state.home? setting.inAssignment true word)
      match use with
      | .unknown => fail "Bad substitution".toList
      | .value =>
        checkSet
        return glyphs
      | .length =>
        checkSet
        return Glyph.ofValue setting.isQuoted (decimal (unsplit?.getD []).length)
      | .orElse alsoEmpty => if isMissing alsoEmpty value? then expandWord else return glyphs
      | .ifSet alsoEmpty => if isMissing alsoEmpty unsplit? then return [] else expandWord
      | .orAssign alsoEmpty =>
        if isMissing alsoEmpty value? then
          let text ← wordText word
          if !isName name then failUnset name "bad variable name".toList
          assign name (some text) false
          return Glyph.ofValue setting.isQuoted text
        else return glyphs
      | .orFail alsoEmpty =>
        if isMissing alsoEmpty value? then
          if word.isEmpty then
            failUnset name (if alsoEmpty then "parameter not set or null".toList
              else "parameter not set".toList)
          failUnset name (← wordText word)
        else return glyphs
      | .without atEnd longest =>
        checkSet
        let pieces := withHomes state.home? false true word
        let pattern := Glyph.marked (← expandAll ⟨false, false, false, false⟩ pieces)
        return state.glyphsFor setting name (withoutMatch pattern atEnd longest (value?.getD []))

def expandPieces (setting : Setting) (pieces : List Piece) : Run Glyphs := do
  return (← pieces.mapM (expandPiece output maxPieceDepth setting)).flatten

/-- The glyphs of a word in which tildes stand for home directories. -/
def expandGlyphs (setting : Setting) (word : List Piece) : Run Glyphs := do
  let home? := (← get).home?
  expandPieces output setting (withHomes home? setting.inAssignment true word)

/-- The characters of a word that is not split. -/
def expandText (word : List Piece) : Run Chars := do
  return Glyph.text (← expandGlyphs output ⟨false, false, false, false⟩ word)

/-- The characters of a word that is assigned. -/
def expandAssigned (word : List Piece) : Run Chars := do
  return Glyph.text (← expandGlyphs output ⟨false, false, false, true⟩ word)

/-- The characters of a text as they would stand in quotes. -/
def expandQuoted (pieces : List Piece) : Run Chars := do
  return Glyph.text (← expandPieces output ⟨true, false, false, false⟩ pieces)

def expandPattern (word : List Piece) : Run (List (Char × Bool)) := do
  return Glyph.marked (← expandGlyphs output ⟨false, false, false, false⟩ word)

/-- The fields that a word is split into, with names of files in the places of patterns for
them. -/
def expandFields (word : List Piece) : Run (List Chars) := do
  let glyphs ← expandGlyphs output ⟨false, true, false, false⟩ word
  let state ← get
  let fields := splitFields state.separators glyphs
  if state.hasOption 'f' then return fields.map Glyph.text
  let files := (← Routine.system).tree
  return fields.flatMap fun field =>
    match pathsOf files (Glyph.marked field) with
    | [] => [Glyph.text field]
    | paths => paths

/-- The fields of words, where an assignment is one field if `keepsAssignments` says so. -/
def expandAll (keepsAssignments : Bool) (words : List (List Piece)) : Run (List Chars) := do
  let fields ← words.mapM fun word => do
    match (if keepsAssignments then assignment? word else none) with
    | some (name, value) => return [name ++ '=' :: (← expandAssigned output value)]
    | none => expandFields output word
  return fields.flatten

end

end SiteBoot.Shell
