import SiteBoot.Shell.Syntax
/-!
Reading a script character by character. A script need not be known to its end: a reader that comes
to the end of what is known says so, and is run again when there is more. The value of an alias is
read in its place, and is followed by a mark that is no character of any script.
-/

namespace SiteBoot.Shell

/-- A word with a meaning in the language. -/
inductive Keyword where
  | negation
  | case
  | loopBody
  | done
  | elseIf
  | otherwise
  | esac
  | fi
  | forEach
  | condition
  | among
  | thenBody
  | untilTrue
  | whileTrue
  | openBrace
  | closeBrace
  deriving DecidableEq

namespace Keyword

def name : Keyword → String
  | negation => "!"
  | case => "case"
  | loopBody => "do"
  | done => "done"
  | elseIf => "elif"
  | otherwise => "else"
  | esac => "esac"
  | fi => "fi"
  | forEach => "for"
  | condition => "if"
  | among => "in"
  | thenBody => "then"
  | untilTrue => "until"
  | whileTrue => "while"
  | openBrace => "\x7b"
  | closeBrace => "\x7d"

def all : List Keyword :=
  [negation, case, loopBody, done, elseIf, otherwise, esac, fi, forEach, condition, among,
    thenBody, untilTrue, whileTrue, openBrace, closeBrace]

def ofName? (name : Chars) : Option Keyword := all.find? (·.name.toList = name)

end Keyword

/-- What a script is made of. -/
inductive Token where
  | endOfFile
  | newline
  | semicolon
  | ampersand
  | and
  | or
  | pipe
  | openParenthesis
  | closeParenthesis
  | endOfArm
  | redirection
  | word
  | keyword (keyword : Keyword)
  deriving DecidableEq

namespace Token

def display : Token → String
  | endOfFile => "end of file"
  | newline => "newline"
  | semicolon => "\";\""
  | ampersand => "\"&\""
  | and => "\"&&\""
  | or => "\"||\""
  | pipe => "\"|\""
  | openParenthesis => "\"(\""
  | closeParenthesis => "\")\""
  | endOfArm => "\";;\""
  | redirection => "redirection"
  | word => "word"
  | keyword key => "\"" ++ key.name ++ "\""

/-- Whether a list of commands can end before a token. -/
def endsList : Token → Bool
  | endOfFile | closeParenthesis | endOfArm => true
  | keyword key =>
    [.loopBody, .done, .elseIf, .otherwise, .esac, .fi, .thenBody, .closeBrace].contains key
  | _ => false

end Token

/-- What ends a text that stands in a script as input. -/
structure DocumentMark where
  line : Chars
  /-- Tabs at the beginnings of lines do not count. -/
  stripsTabs : Bool

/-- A text that has been announced and is to be read after the end of the line. -/
structure PendingDocument where
  number : Nat
  mark : DocumentMark
  isExpanded : Bool

/-- What the signs of a redirection say, apart from the word after them. -/
inductive RedirectionSign where
  | file (use : FileUse)
  | copy
  | document (stripsTabs : Bool)

/-- What is looked for when a token is read. -/
structure Checks where
  skipsNewlines : Bool
  keywords : Bool
  aliases : Bool

namespace Checks

def none : Checks := ⟨false, false, false⟩

end Checks

/-- The state of a reader. -/
structure Cursor where
  rest : Chars
  isLast : Bool
  line : Nat
  aliases : List (Chars × Chars)
  /-- The aliases whose values are being read. -/
  aliasesInUse : List Chars
  previous : Char
  token : Token
  isPushedBack : Bool
  word : List Piece
  /-- Something in the last word was quoted. -/
  isQuoted : Bool
  /-- The descriptor and the sign of the last redirection. -/
  redirection : Nat × RedirectionSign
  checks : Checks
  pending : List PendingDocument
  documents : List (Nat × Document)
  nextDocument : Nat

/-- Why a reader does not go on. -/
inductive ReaderStop where
  /-- More of the script has to be known. -/
  | more
  /-- What is read is no script. So much is left of it. -/
  | fault (line : Nat) (message : String) (rest : Chars)

/-- A reader of a part of a script. -/
abbrev Reader := StateT Cursor (Except ReaderStop)

namespace Reader

def fail {α : Type} (message : String) : Reader α := do
  throw (.fault (← get).line ("Syntax error: " ++ message) (← get).rest)

/-- The mark after the value of an alias. -/
def aliasMark : Char := Char.ofNat 0x2000

/-- Counts a line end that has been read. -/
def countLine : Reader Unit := modify fun cursor => { cursor with line := cursor.line + 1 }

/-- The cursor after the marks at the front of its rest. Where the value of an alias ends with a
blank, the next word may be an alias too. -/
def passMarks : Chars → Cursor → Cursor
  | c :: rest, cursor =>
    if c = aliasMark then
      let isBlank := cursor.previous = ' ' || cursor.previous = '\t'
      passMarks rest { cursor with
        rest := rest
        aliasesInUse := cursor.aliasesInUse.tail
        checks := { cursor.checks with aliases := cursor.checks.aliases || isBlank } }
    else cursor
  | [], cursor => cursor

/-- The next character, or nothing at the end of the script. -/
def next : Reader (Option Char) := do
  let cursor ← get
  let cursor := passMarks cursor.rest cursor
  match cursor.rest with
  | c :: rest =>
    set { cursor with rest := rest, previous := c }
    return some c
  | [] =>
    set cursor
    if cursor.isLast then return none else throw .more

def unread (c : Option Char) : Reader Unit :=
  modify fun cursor => { cursor with rest := c.toList ++ cursor.rest }

/-- The next character that is no backslash before a line end. Such line ends are passed over, at
most as many as the bound says. -/
def nextJoinedWithin : Nat → Reader (Option Char)
  | 0 => next
  | bound + 1 => do
    match ← next with
    | some '\\' =>
      match ← next with
      | some '\n' =>
        countLine
        nextJoinedWithin bound
      | c =>
        unread c
        return some '\\'
    | c => return c

def maxLength : Nat := 1000000000000

/-- The next character, where a line that ends with a backslash is joined with the next one. -/
def nextJoined : Reader (Option Char) := nextJoinedWithin maxLength

def pushBack : Reader Unit := modify fun cursor => { cursor with isPushedBack := true }

/-- Sets what the next token is checked for. -/
def check (skipsNewlines keywords aliases : Bool) : Reader Unit :=
  modify fun cursor => { cursor with checks := ⟨skipsNewlines, keywords, aliases⟩ }

/-- Stops at the last token, where another one may be expected. -/
def unexpected {α : Type} (expected : Option Token) : Reader α := do
  let seen := (← get).token.display ++ " unexpected"
  fail (match expected with
    | some token => seen ++ " (expecting " ++ token.display ++ ")"
    | none => seen)

end Reader

end SiteBoot.Shell
