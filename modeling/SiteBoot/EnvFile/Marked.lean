import SiteBoot.Text.Blank
import SiteBoot.Text.Lines
/-!
The first look at an environment file: which dollar signs introduce references, and which names
the file exports. Quotes are followed over the whole file, escapes and comments line by line.
-/

namespace SiteBoot.EnvFile

/-- The character that takes the place of a dollar sign that introduces a reference. -/
def marker : Char := '\uE000'

/-- The quotes that text stands in. -/
inductive Quote where
  | bare
  | single
  | double
  deriving DecidableEq, Repr

/-- The quotes after a character that is not escaped. -/
def Quote.next : Quote → Char → Quote
  | bare, '\'' => single
  | bare, '"' => double
  | single, '\'' => bare
  | double, '"' => bare
  | quote, _ => quote

def isNameChar (c : Char) : Bool := c.isAlphanum || c = '_'

def isKeyChar (c : Char) : Bool := isNameChar c || c = '.'

/-- One line with its dollar signs marked, and the quotes after it. A comment, which begins at a
bare `#` after a blank, is kept as it is. -/
def markLine (quote : Quote) (escaped : Bool) (previous : Char) :
    List Char → List Char × Quote
  | [] => ([], quote)
  | c :: rest =>
    if escaped then
      let (out, last) := markLine quote false c rest
      (c :: out, last)
    else if quote = .bare && c = '#' && Text.isBlank previous then (c :: rest, quote)
    else
      let (out, last) := markLine (quote.next c) (c = '\\' && quote ≠ .single) c rest
      ((if c = '$' && quote ≠ .single then marker else c) :: out, last)

/-- What follows the word `export` and a blank. -/
def afterExport? (text : List Char) : Option (List Char) :=
  match text with
  | 'e' :: 'x' :: 'p' :: 'o' :: 'r' :: 't' :: c :: rest =>
    if Text.isBlank c then some rest else none
  | _ => none

/-- The name that a line exports, if it begins with the word. -/
def exportedName? (line : List Char) : Option (List Char) :=
  match afterExport? (Text.trimLeft line) with
  | some rest =>
    let name := (Text.trimLeft rest).takeWhile isKeyChar
    if name.isEmpty then none else some name
  | none => none

/-- The lines marked, and the names that those lines export that begin outside quotes. -/
def markLines (quote : Quote) : List (List Char) → List (List Char) × List (List Char)
  | [] => ([], [])
  | line :: rest =>
    let (out, last) := markLine quote false ' ' line
    let (outs, names) := markLines last rest
    (out :: outs, (if quote = .bare then (exportedName? line).toList else []) ++ names)

/-- A file after the first look. -/
structure Marked where
  text : List Char
  exported : List (List Char)

def Marked.ofText (text : List Char) : Marked :=
  let (lines, names) := markLines .bare (Text.lines text)
  ⟨lines.flatten, names⟩

end SiteBoot.EnvFile
