import SiteBoot.Toml.Quoted
import SiteBoot.Toml.Table
/-!
Documents of TOML: headers and assignments, one to a line, that build up a table.
-/

namespace SiteBoot.Toml

/-- How many arrays and inline tables may stand in each other, and how many parts a key has at
most. -/
def maxDepth : Nat := 79

def skipBlanks (text : List Char) : List Char := text.dropWhile fun c => c = ' ' || c = '\t'

/-- The text after a comment, if that holds no control character. -/
def skipComment? : List Char → Option (List Char)
  | [] => some []
  | '\n' :: rest => some ('\n' :: rest)
  | '\r' :: '\n' :: rest => some ('\r' :: '\n' :: rest)
  | c :: rest => if isPlainChar c then skipComment? rest else none

/-- The text after a line end, or at the end of the document. -/
def takeLineEnd? : List Char → Option (List Char)
  | [] => some []
  | '\n' :: rest => some rest
  | '\r' :: '\n' :: rest => some rest
  | _ => none

/-- The text after the rest of a line that holds no more than a comment. -/
def endLine? (text : List Char) : Option (List Char) :=
  match skipBlanks text with
  | '#' :: rest => (skipComment? rest).bind takeLineEnd?
  | rest => takeLineEnd? rest

/-- The text after blanks, line ends and comments. -/
def skipTrivia? (inComment : Bool) : List Char → Option (List Char)
  | [] => some []
  | '\n' :: rest => skipTrivia? false rest
  | '\r' :: '\n' :: rest => skipTrivia? false rest
  | c :: rest =>
    if inComment then if isPlainChar c then skipTrivia? true rest else none
    else if c = ' ' || c = '\t' then skipTrivia? false rest
    else if c = '#' then skipTrivia? true rest
    else some (c :: rest)

def isBareKeyChar (c : Char) : Bool := c.isAlphanum || c = '_' || c = '-'

def readKeyPart? (text : List Char) : Option (String × List Char) :=
  match text with
  | '"' :: rest => (readBasic .plain rest).map fun (key, rest) => (String.ofList key, rest)
  | '\'' :: rest => (readLiteral rest).map fun (key, rest) => (String.ofList key, rest)
  | _ =>
    let (key, rest) := text.span isBareKeyChar
    if key.isEmpty then none else some (String.ofList key, rest)

/-- The parts of a key, with points and blanks between them: all but the last, and the last. -/
def readKey? : Nat → List Char → Option ((List String × String) × List Char)
  | 0, _ => none
  | fuel + 1, text => do
    let (part, rest) ← readKeyPart? (skipBlanks text)
    match skipBlanks rest with
    | '.' :: rest =>
      let ((path, key), rest) ← readKey? fuel rest
      return ((part :: path, key), rest)
    | rest => return (([], part), rest)

/-- A key with its value after an equals sign. -/
def readPair? (readValue? : List Char → Option (Value × List Char)) (text : List Char) :
    Option ((List String × String) × Value × List Char) := do
  let (key, rest) ← readKey? maxDepth text
  match rest with
  | '=' :: rest =>
    let (value, rest) ← readValue? (skipBlanks rest)
    return (key, value, rest)
  | _ => none

/-- The items of an array, after its bracket or a comma. -/
def readItems? (readValue? : List Char → Option (Value × List Char)) :
    Nat → List Char → Option (List Value × List Char)
  | 0, _ => none
  | fuel + 1, text => do
    match ← skipTrivia? false text with
    | ']' :: rest => return ([], rest)
    | text =>
      let (item, rest) ← readValue? text
      match ← skipTrivia? false rest with
      | ']' :: rest => return ([item], rest)
      | ',' :: rest =>
        let (items, rest) ← readItems? readValue? fuel rest
        return (item :: items, rest)
      | _ => none

/-- The fields of an inline table, after its brace or a comma. -/
def readFields? (readValue? : List Char → Option (Value × List Char)) (fields : Fields) :
    Nat → List Char → Option (Fields × List Char)
  | 0, _ => none
  | fuel + 1, text => do
    let ((path, key), value, rest) ← readPair? readValue? text
    let fields ← fields.add path key value
    match skipBlanks rest with
    | '}' :: rest => return (fields, rest)
    | ',' :: rest => readFields? readValue? fields fuel rest
    | _ => none

def readSimple? (text : List Char) : Option (Value × List Char) :=
  match text with
  | '"' :: _ | '\'' :: _ =>
    (readString? text).map fun (text, rest) => (.string (String.ofList text), rest)
  | _ => (readScalar? text).map fun (scalar, rest) => (.scalar scalar, rest)

/-- A value that holds others up to the given depth. -/
def readValue? : Nat → List Char → Option (Value × List Char)
  | 0, text => readSimple? text
  | depth + 1, text =>
    match text with
    | '[' :: rest =>
      (readItems? (readValue? depth) (rest.length + 1) rest).map fun (items, rest) =>
        (.array items, rest)
    | '{' :: rest =>
      match skipBlanks rest with
      | '}' :: rest => some (.table [], rest)
      | rest =>
        (readFields? (readValue? depth) [] (rest.length + 1) rest).map fun (fields, rest) =>
          (.table (fieldValues fields), rest)
    | _ => readSimple? text

/-- A line of a document. -/
inductive Statement where
  | header (path : List String) (key : String)
  | nextHeader (path : List String) (key : String)
  | assignment (path : List String) (key : String) (value : Value)

/-- A statement and the text after its line. -/
def readStatement? (text : List Char) : Option (Statement × List Char) :=
  match text with
  | '[' :: '[' :: rest => do
    let ((path, key), rest) ← readKey? maxDepth rest
    match rest with
    | ']' :: ']' :: rest => return (.nextHeader path key, ← endLine? rest)
    | _ => none
  | '[' :: rest => do
    let ((path, key), rest) ← readKey? maxDepth rest
    match rest with
    | ']' :: rest => return (.header path key, ← endLine? rest)
    | _ => none
  | _ => do
    let ((path, key), value, rest) ← readPair? (readValue? maxDepth) text
    return (.assignment path key value, ← endLine? rest)

def readStatements? : Nat → List Char → Option (List Statement)
  | 0, _ => none
  | fuel + 1, text => do
    match ← skipTrivia? false text with
    | [] => return []
    | text =>
      let (statement, rest) ← readStatement? text
      return statement :: (← readStatements? fuel rest)

/-- A document that is being read: its table, and the path of the table that is open. -/
structure Draft where
  fields : Fields
  place : List String

def Draft.next? (draft : Draft) : Statement → Option Draft
  | .header path key => do
    return ⟨← draft.fields.openTable path key, path ++ [key]⟩
  | .nextHeader path key => do
    return ⟨← draft.fields.openNext path key, path ++ [key]⟩
  | .assignment path key value => do
    let fields ← Fields.update false (fun _ inner => Fields.add inner path key value)
      .explicit draft.fields draft.place
    return ⟨fields, draft.place⟩

/-- The fields of a document, if the text is one. A byte order mark may stand before it. -/
def document? (text : String) : Option (List (String × Value)) := do
  let chars := match text.toList with
    | '\uFEFF' :: rest => rest
    | chars => chars
  let statements ← readStatements? (chars.length + 1) chars
  let draft ← statements.foldlM Draft.next? ⟨[], []⟩
  return fieldValues draft.fields

end SiteBoot.Toml
