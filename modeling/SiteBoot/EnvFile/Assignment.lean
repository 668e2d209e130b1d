import SiteBoot.EnvFile.LogicalLine
import SiteBoot.EnvFile.Marked
import SiteBoot.Text.Alphanumeric
/-!
Assignments: what the logical lines of an environment file say. A value may be put together from
bare, escaped and quoted pieces, and a dollar sign that is still one names a value that takes its
place.
-/

namespace SiteBoot.EnvFile

/-- A name with the value that a line gives it, references in it still marked. -/
structure Assignment where
  key : List Char
  raw : List Char
  deriving DecidableEq, Repr

/-- Where the reading of a value stands. -/
inductive ValueState where
  /-- Between pieces, or in a double-quoted one. -/
  | plain (quoted : Bool)
  | escape (quoted : Bool)
  | strong
  /-- In a name after a dollar sign. -/
  | name (quoted : Bool) (read : List Char)
  | block (quoted : Bool) (read : List Char)
  /-- After a blank that ends the value. -/
  | ended
  deriving DecidableEq, Repr

/-- What a character stands for after a backslash. -/
def escaped? : Char → Option Char
  | '\\' => some '\\'
  | '\'' => some '\''
  | '"' => some '"'
  | '$' => some '$'
  | ' ' => some ' '
  | 'n' => some '\n'
  | _ => none

/-- The value that the rest of a line spells, if it spells one. -/
def readValue? (lookup : List Char → List Char) : ValueState → List Char → Option (List Char)
  | .plain quoted, [] => if quoted then none else some []
  | .escape quoted, [] => if quoted then none else some []
  | .strong, [] => none
  | .name quoted read, [] => if quoted then none else some (lookup read)
  | .block .., [] => none
  | .ended, [] => some []
  | .ended, c :: rest =>
    if c = ' ' || c = '\t' then readValue? lookup .ended rest
    else if c = '#' then some []
    else none
  | .escape quoted, c :: rest => do
    let meaning ← escaped? c
    let value ← readValue? lookup (.plain quoted) rest
    return meaning :: value
  | .strong, c :: rest =>
    if c = '\'' then readValue? lookup (.plain false) rest
    else (readValue? lookup .strong rest).map (c :: ·)
  | .name quoted read, c :: rest =>
    if Text.isAlphanumeric c then readValue? lookup (.name quoted (read ++ [c])) rest
    else if c = '{' && read.isEmpty then readValue? lookup (.block quoted []) rest
    else if c = '$' then (readValue? lookup (.name quoted []) rest).map (lookup read ++ ·)
    else (readValue? lookup (.plain quoted) rest).map (lookup read ++ c :: ·)
  | .block quoted read, c :: rest =>
    if c = '}' then (readValue? lookup (.plain quoted) rest).map (lookup read ++ ·)
    else readValue? lookup (.block quoted (read ++ [c])) rest
  | .plain quoted, c :: rest =>
    if c = '$' then readValue? lookup (.name quoted []) rest
    else if c = '"' then readValue? lookup (.plain !quoted) rest
    else if c = '\\' then readValue? lookup (.escape quoted) rest
    else if c = '\'' && !quoted then readValue? lookup .strong rest
    else if (c = ' ' || c = '\t') && !quoted then readValue? lookup .ended rest
    else (readValue? lookup (.plain quoted) rest).map (c :: ·)

/-- The name at the start of a text, and what follows it. -/
def takeKey? (text : List Char) : Option (List Char × List Char) :=
  match text with
  | c :: _ => if c.isAlpha || c = '_' then some (text.span isKeyChar) else none
  | [] => none

/-- What follows an equals sign at the start of a text. -/
def afterEquals? : List Char → Option (List Char)
  | '=' :: rest => some rest
  | _ => none

/-- The name that a line assigns to, and what follows the equals sign. The word `export` may come
first, and is a name itself where an equals sign follows it. -/
def takeTarget? (body : List Char) : Option (List Char × List Char) := do
  let (key, rest) ← takeKey? body
  match afterEquals? (Text.trimLeft rest) with
  | some rest => return (key, rest)
  | none =>
    if key = ['e', 'x', 'p', 'o', 'r', 't'] then
      let (key, rest) ← takeKey? (Text.trimLeft rest)
      return (key, ← afterEquals? (Text.trimLeft rest))
    else none

/-- The reading of one logical line: an assignment, nothing, or the text that is no assignment,
which is the value alone where only that is wrong. -/
def Assignment.ofLine? (lookup : List Char → List Char) (line : List Char) :
    Except (List Char) (Option Assignment) :=
  let body := Text.trimLeft (Text.trimRight line)
  if body.isEmpty || body.head? = some '#' then .ok none
  else match takeTarget? body with
    | none => .error line
    | some (key, rest) =>
      let spelled := Text.trimLeft rest
      if spelled.isEmpty || spelled.head? = some '#' then .ok (some ⟨key, []⟩)
      else match readValue? lookup (.plain false) spelled with
        | some raw => .ok (some ⟨key, raw⟩)
        | none => .error spelled

/-- What a file says, item by item. -/
inductive Item where
  | assignment (assignment : Assignment)
  | skipped (text : List Char)
  deriving DecidableEq, Repr

/-- The items of logical lines. A name after a dollar sign that is no reference means the process
variable, or else the value that the file has given it before. -/
def Item.ofLines (process? : List Char → Option (List Char)) (earlier : List (List Char × List Char)) :
    List LogicalLine → List Item
  | [] => []
  | .unfinished text :: rest => .skipped text :: ofLines process? earlier rest
  | .whole line :: rest =>
    let lookup name := ((process? name).orElse fun _ => earlier.lookup name).getD []
    match Assignment.ofLine? lookup line with
    | .ok none => ofLines process? earlier rest
    | .ok (some item) =>
      .assignment item :: ofLines process? ((item.key, item.raw) :: earlier) rest
    | .error text => .skipped text :: ofLines process? earlier rest

def Item.ofText (process? : List Char → Option (List Char)) (text : List Char) : List Item :=
  ofLines process? [] (LogicalLine.ofText text)

end SiteBoot.EnvFile
