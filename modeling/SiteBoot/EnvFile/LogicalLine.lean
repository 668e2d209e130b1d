import SiteBoot.Text.Blank
import SiteBoot.Text.Lines
/-!
Logical lines: the lines of an environment file, put together where a quote, an escape or a blank
at the end of one reaches into the next, and without trailing comments.
-/

namespace SiteBoot.EnvFile

/-- What the reader has just seen. -/
inductive ReadState where
  | complete
  /-- A blank outside quotes, after which a comment may begin. -/
  | blank
  | escape
  | weak
  | weakEscape
  | strong
  | strongEscape
  deriving DecidableEq, Repr

/-- The state after one more character; none where a comment begins. -/
def ReadState.next? : ReadState → Char → Option ReadState
  | blank, c =>
    if c = '#' then none
    else if c = '\\' then some escape
    else if c = '"' then some weak
    else if c = '\'' then some strong
    else some complete
  | complete, c =>
    if Text.isBlank c && c ≠ '\n' && c ≠ '\r' then some blank
    else if c = '\\' then some escape
    else if c = '"' then some weak
    else if c = '\'' then some strong
    else some complete
  | escape, _ => some complete
  | weak, c => if c = '\\' then some weakEscape else if c = '"' then some complete else some weak
  | weakEscape, _ => some weak
  | strong, c =>
    if c = '\\' then some strongEscape else if c = '\'' then some complete else some strong
  | strongEscape, _ => some strong

/-- The part of a line before a comment, and the state after it; none if a comment ends it. -/
def scanLine (state : ReadState) : List Char → List Char × Option ReadState
  | [] => ([], some state)
  | c :: rest =>
    match state.next? c with
    | none => ([], none)
    | some state =>
      let (kept, last) := scanLine state rest
      (c :: kept, last)

/-- A line without the newline that ends it, and the carriage return before that. -/
def chomp (line : List Char) : List Char :=
  match line.reverse with
  | '\n' :: '\r' :: rest => rest.reverse
  | '\n' :: rest => rest.reverse
  | _ => line

/-- A logical line. -/
inductive LogicalLine where
  | whole (text : List Char)
  /-- The file ends in a quote, an escape or a blank. -/
  | unfinished (text : List Char)
  deriving DecidableEq, Repr

/-- The logical lines of lines, after a part of one that has been read. -/
def LogicalLine.ofLines (part : List Char) (state : ReadState) :
    List (List Char) → List LogicalLine
  | [] => if state = .complete then [] else [.unfinished part]
  | line :: rest =>
    if (Text.trimLeft (part ++ line)).head? = some '#' then
      .whole [] :: ofLines [] .complete rest
    else match scanLine state line with
      | (kept, none) => .whole (part ++ kept) :: ofLines [] .complete rest
      | (_, some .complete) => .whole (chomp (part ++ line)) :: ofLines [] .complete rest
      | (_, some state) => ofLines (part ++ line) state rest

def LogicalLine.ofText (text : List Char) : List LogicalLine :=
  ofLines [] .complete (Text.lines text)

end SiteBoot.EnvFile
