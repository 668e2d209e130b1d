import SiteBoot.Text.RawText
/-!
The language of the shell: words, redirections and clauses, as they stand before anything in them
is expanded. In the modules of the shell each character stands for one byte.
-/

namespace SiteBoot.Shell

/-- A text of the shell, one character for each byte. -/
abbrev Chars := List Char

/-- What is taken of a parameter. -/
inductive Use where
  | value
  | length
  /-- The value, or the word if the parameter is not set. -/
  | orElse (alsoEmpty : Bool)
  /-- The value, or the word, which is then assigned. -/
  | orAssign (alsoEmpty : Bool)
  /-- The value, or an error with the word as its text. -/
  | orFail (alsoEmpty : Bool)
  /-- The word if the parameter is set, or nothing. -/
  | ifSet (alsoEmpty : Bool)
  /-- The value without what the word matches at one of its ends. -/
  | without (atEnd longest : Bool)
  | unknown
  deriving DecidableEq

/-- What a file is opened for by a redirection. -/
inductive FileUse where
  | read
  | write
  /-- Writes to the file even if it exists and files are not to be overwritten. -/
  | overwrite
  | append
  | update
  deriving DecidableEq

mutual

/-- A piece of a word. -/
inductive Piece where
  | text (chars : Chars)
  | escaped (c : Char)
  | quoted (pieces : List Piece)
  | parameter (name : Chars) (use : Use) (word : List Piece)
  | arithmetic (expression : List Piece)
  /-- What a clause writes, in place of the clause. -/
  | output (clause : Clause)

/-- A change of what stands behind a descriptor. -/
inductive Redirection where
  | file (descriptor : Nat) (use : FileUse) (word : List Piece)
  /-- A descriptor stands for what another one does, or for nothing. -/
  | copy (descriptor : Nat) (source : Option Nat)
  | copyNamed (descriptor : Nat) (word : List Piece)
  /-- The text of a number, which stands in the script itself. -/
  | document (descriptor : Nat) (number : Nat)

/-- A command of the shell. -/
inductive Clause where
  | nothing
  | simple (line : Nat) (assignments words : List (List Piece)) (redirections : List Redirection)
  | redirected (line : Nat) (clause : Clause) (redirections : List Redirection)
  | sequence (first second : Clause)
  | both (first second : Clause)
  | either (first second : Clause)
  | not (clause : Clause)
  | pipe (clauses : List Clause) (inBackground : Bool)
  | subshell (line : Nat) (clause : Clause) (redirections : List Redirection)
  | background (line : Nat) (clause : Clause) (redirections : List Redirection)
  | choose (condition yes : Clause) (no : Option Clause)
  /-- Repeats the body as long as the condition holds, or as long as it does not. -/
  | loop (whileTrue : Bool) (condition body : Clause)
  | forEach (line : Nat) (name : Chars) (words : List (List Piece)) (body : Clause)
  | select (line : Nat) (word : List Piece) (arms : List (List (List Piece) × Clause))
  | define (line : Nat) (name : Chars) (body : Clause)

end

/-- A text in a script that is read as input: its pieces if anything in it is expanded. -/
structure Document where
  pieces : List Piece

def Clause.isNothing : Clause → Bool
  | nothing => true
  | _ => false

/-- A character that a name may begin with. -/
def beginsName (c : Char) : Bool := c.isAlpha || c = '_'

/-- A character that a name may go on with. -/
def isInName (c : Char) : Bool := c.isAlphanum || c = '_'

/-- Whether characters are the name of a variable. -/
def isName (chars : Chars) : Bool := chars.head?.any beginsName && chars.all isInName

/-- Parameters that have a sign for a name. -/
def isSpecial (c : Char) : Bool := "@*#?$!-".toList.contains c || c.isDigit

def chars (text : String) : Chars := (RawText.ofString text).toChars

def text (chars : Chars) : String := String.ofList chars

/-- The name that a word assigns to and the pieces that are assigned, if it is an assignment. -/
def assignment? (word : List Piece) : Option (Chars × List Piece) :=
  match word with
  | .text chars :: rest =>
    let name := chars.takeWhile isInName
    match chars.drop name.length with
    | '=' :: value => if isName name then some (name, .text value :: rest) else none
    | _ => none
  | _ => none

/-- The characters of a word in which nothing is quoted or expanded. -/
def plainText? (word : List Piece) : Option Chars :=
  match word with
  | [] => some []
  | [.text chars] => some chars
  | _ => none

end SiteBoot.Shell
