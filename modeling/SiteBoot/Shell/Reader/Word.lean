import SiteBoot.Shell.Reader.Cursor
/-!
Reading words: quotes, parameters, arithmetic and the clauses that stand in words. How clauses are
read is left to an argument, so words know nothing of the rest of the language.
-/

namespace SiteBoot.Shell.Reader

/-- What is to be read where a clause stands in a word. -/
inductive Demand where
  /-- Lines of commands up to what ends them, of which there need not be any. -/
  | lines
  /-- Lines of commands up to a parenthesis and with it. -/
  | enclosed
  /-- Commands of which there is at least one. -/
  | list
  | command

/-- Where pieces of a word stand, which says what is special there and what ends them. -/
inductive Place where
  /-- In the open, where in the mark of a document nothing is expanded. -/
  | word (isMark : Bool)
  | quotes (inBraces : Bool)
  | braces (isQuoted : Bool)
  | arithmetic
  | document
  deriving DecidableEq

namespace Place

def isQuoted : Place → Bool
  | word _ | braces false => false
  | _ => true

/-- Whether a backslash stands for itself before a character. -/
def keepsBackslash (place : Place) (next : Char) : Bool :=
  place.isQuoted && !"\\$\x60".toList.contains next &&
    (next ≠ '"' || place = .document) &&
    (next ≠ '}' || !(place = .quotes true || place = .braces true))

/-- What is wrong if a script ends here. -/
def missing (place : Place) (inDocument : Bool) : String :=
  match place with
  | braces false => "Missing '\x7d'"
  | braces true => if inDocument then "Missing '\x7d'" else "Unterminated quoted string"
  | arithmetic => "Missing '))'"
  | _ => "Unterminated quoted string"

end Place

/-- A character that ends a word in the open. -/
def endsWord (c : Char) : Bool := " \t\n;&|<>()".toList.contains c

/-- The pieces of a word so far, the last one first, and the characters after them, the last one
first. -/
structure Collected where
  pieces : List Piece
  chars : Chars

namespace Collected

def nothing : Collected := ⟨[], []⟩

def add (collected : Collected) (c : Char) : Collected :=
  { collected with chars := c :: collected.chars }

def settled (collected : Collected) : List Piece :=
  if collected.chars.isEmpty then collected.pieces
  else .text collected.chars.reverse :: collected.pieces

def push (collected : Collected) (piece : Piece) : Collected :=
  ⟨piece :: collected.settled, []⟩

def all (collected : Collected) : List Piece := collected.settled.reverse

end Collected

def setQuoted : Reader Unit := modify fun cursor => { cursor with isQuoted := true }

/-- The characters up to a single quote, over the ends of lines. -/
def singleQuoted : Nat → Chars → Reader Chars
  | 0, _ => fail "Unterminated quoted string"
  | bound + 1, soFar => do
    match ← next with
    | none => fail "Unterminated quoted string"
    | some '\'' => return soFar.reverse
    | some c =>
      if c = '\n' then countLine
      singleQuoted bound (c :: soFar)

def backquoted (inQuotes : Bool) : Nat → Chars → Reader Chars
  | 0, _ => fail "EOF in backquote substitution"
  | bound + 1, soFar => do
    match ← nextJoined with
    | none => fail "EOF in backquote substitution"
    | some '\x60' => return soFar.reverse
    | some '\\' =>
      match ← next with
      | none => fail "EOF in backquote substitution"
      | some c =>
        if c = '\n' then countLine
        let isEscaped := c = '\\' || c = '\x60' || c = '$' || (inQuotes && c = '"')
        backquoted inQuotes bound (if isEscaped then c :: soFar else c :: '\\' :: soFar)
    | some c =>
      if c = '\n' then countLine
      backquoted inQuotes bound (c :: soFar)

/-- The characters that pass a test, up to the first that does not, which is put back. -/
def takeJoined (test : Char → Bool) : Nat → Chars → Reader Chars
  | 0, soFar => return soFar.reverse
  | bound + 1, soFar => do
    match ← nextJoined with
    | some c =>
      if test c then takeJoined test bound (c :: soFar)
      else
        unread (some c)
        return soFar.reverse
    | none => return soFar.reverse

/-- Goes past the tabs that do not count at the beginning of a line of a document, and past the
line if it is the mark. Says whether it is. -/
def passDocumentLine (mark : DocumentMark) : Reader Bool := do
  let cursor ← get
  let rest := if mark.stripsTabs then cursor.rest.dropWhile (· = '\t') else cursor.rest
  let line := rest.takeWhile (· ≠ '\n')
  let isWhole := (rest.drop line.length).head? = some '\n'
  if !isWhole && !cursor.isLast && line.isPrefixOf mark.line then throw .more
  if line = mark.line && (isWhole || cursor.isLast) then
    set { cursor with rest := rest.drop (line.length + 1) }
    countLine
    return true
  else
    set { cursor with rest := rest }
    return false

/-- The lines of a document in which nothing is expanded. -/
def plainDocument (mark : DocumentMark) : Nat → List Chars → Reader Chars
  | 0, lines => return lines.reverse.flatten
  | bound + 1, lines => do
    if ← passDocumentLine mark then return lines.reverse.flatten
    let cursor ← get
    let line := cursor.rest.takeWhile (· ≠ '\n')
    match cursor.rest.drop line.length with
    | _ :: rest =>
      set { cursor with rest := rest }
      countLine
      plainDocument mark bound ((line ++ ['\n']) :: lines)
    | [] =>
      if !cursor.isLast then throw .more
      set { cursor with rest := [] }
      return (line :: lines).reverse.flatten

/-- What stands between the name of a parameter in braces and its word, where nothing has to stand
there: what is taken of the parameter, and whether the braces are closed by that. -/
def readUse : Reader (Use × Bool) := do
  let ofSign (alsoEmpty : Bool) (c : Option Char) : Use × Bool :=
    match c with
    | some '}' => (.value, !alsoEmpty)
    | some '-' => (.orElse alsoEmpty, false)
    | some '+' => (.ifSet alsoEmpty, false)
    | some '?' => (.orFail alsoEmpty, false)
    | some '=' => (.orAssign alsoEmpty, false)
    | _ => (.unknown, false)
  let trim (sign : Char) (atEnd : Bool) : Reader (Use × Bool) := do
    let c ← nextJoined
    if c = some sign then return (.without atEnd true, false)
    else
      unread c
      return (.without atEnd false, false)
  match ← nextJoined with
  | some ':' => return ofSign true (← nextJoined)
  | some '%' => trim '%' true
  | some '#' => trim '#' false
  | none =>
    return (.unknown, false)
  | c => return ofSign false c

/-- The name of a parameter that begins with a character, which need not be known. -/
def readName (first : Char) : Reader Chars := do
  takeJoined (if first.isDigit then Char.isDigit else isInName) maxLength [first]

/-- The name of a parameter in braces and what is taken of it, and whether the braces are closed by
that. -/
def readParameter : Reader (Chars × Use × Bool) := do
  match ← nextJoined with
  | none => return ([], .unknown, false)
  | some '}' =>
    unread (some '}')
    return ([], .unknown, false)
  | some '#' =>
    let c ← nextJoined
    if c.any isInName then
      let name ← readName (c.getD '_')
      let after ← nextJoined
      if after = some '}' then return (name, .length, true)
      else
        unread after
        return (name, .unknown, false)
    else
      let after ← nextJoined
      if after = some '}' && c ≠ some '}' then
        if c.any isSpecial then return (c.toList, .length, true)
        else
          unread after
          return ([], .unknown, false)
      else
        unread after
        unread c
        return (['#'], ← readUse)
  | some c =>
    if isInName c then return (← readName c, ← readUse)
    else if isSpecial c then return ([c], ← readUse)
    else return ([], .unknown, false)

variable (read : Demand → Reader Clause)

def readBackquoted (inQuotes : Bool) : Reader Piece := do
  let cursor ← get
  let text ← backquoted inQuotes maxLength []
  let after ← get
  set { after with rest := text, isLast := true, line := 1, pending := [] }
  let clause ← read .lines
  modify fun inner =>
    { inner with
      rest := after.rest, isLast := after.isLast, line := after.line
      pending := after.pending, isPushedBack := false, isQuoted := cursor.isQuoted }
  return .output clause

def readEnclosed : Reader Piece := do
  let outer ← get
  modify fun cursor => { cursor with pending := [] }
  let clause ← read .enclosed
  modify fun cursor =>
    { cursor with pending := outer.pending, isPushedBack := false, isQuoted := outer.isQuoted }
  return .output clause

mutual

/-- The pieces of a word from a character on, up to what ends them. Only a word in the open leaves
unread what ends it. `level` counts the parentheses that are open in an expression. -/
def readPieces (mark : Option DocumentMark) :
    Nat → Place → Nat → Collected → Option Char → Reader (List Piece)
  | 0, _, _, _, _ => fail "Unterminated quoted string"
  | bound + 1, place, level, soFar, c => do
    let goOn (collected : Collected) (level : Nat) : Reader (List Piece) := do
      readPieces mark bound place level collected (← nextJoined)
    match c with
    | none =>
      match place with
      | .word _ | .document => return soFar.all
      | _ => fail (place.missing mark.isSome)
    | some c =>
      match place with
      | .word _ =>
        if endsWord c then
          unread (some c)
          return soFar.all
      | _ => pure ()
      match c with
      | '\n' =>
        countLine
        match mark with
        | some line =>
          if ← passDocumentLine line then
            readPieces mark bound place level (soFar.add c) none
          else goOn (soFar.add c) level
        | none => goOn (soFar.add c) level
      | '\\' =>
        match ← next with
        | none => readPieces mark bound place level (soFar.push (.escaped '\\')) none
        | some following =>
          setQuoted
          if place.keepsBackslash following then goOn ((soFar.add '\\').add following) level
          else if place.isQuoted then goOn (soFar.add following) level
          else goOn (soFar.push (.escaped following)) level
      | '\'' =>
        if place.isQuoted then goOn (soFar.add c) level
        else
          let inner ← singleQuoted maxLength []
          setQuoted
          goOn (soFar.push (.quoted [.text inner])) level
      | '"' =>
        match place with
        | .quotes _ => return soFar.all
        | .arithmetic | .document => goOn (soFar.add c) level
        | _ =>
          let inner ← readPieces mark bound (.quotes (place ≠ .word false && place ≠ .word true)) 0
            .nothing (← nextJoined)
          setQuoted
          goOn (soFar.push (.quoted inner)) level
      | '}' =>
        match place with
        | .braces _ => return soFar.all
        | _ => goOn (soFar.add c) level
      | '(' => goOn (soFar.add c) (level + 1)
      | ')' =>
        if place ≠ .arithmetic then goOn (soFar.add c) level
        else if 0 < level then goOn (soFar.add c) (level - 1)
        else
          match ← nextJoined with
          | some ')' => return soFar.all
          | following =>
            unread following
            goOn (soFar.add c) level
      | '\x60' =>
        if place = .word true then goOn (soFar.add c) level
        else
          let piece ← readBackquoted read place.isQuoted
          goOn (soFar.push piece) level
      | '$' =>
        if place = .word true then goOn (soFar.add c) level
        else
          match ← readDollar mark bound place with
          | some piece => goOn (soFar.push piece) level
          | none => goOn (soFar.add c) level
      | _ => goOn (soFar.add c) level

/-- What a dollar sign stands for, if it does not stand for itself. -/
def readDollar (mark : Option DocumentMark) : Nat → Place → Reader (Option Piece)
  | 0, _ => fail "Unterminated quoted string"
  | bound + 1, place => do
    match ← nextJoined with
    | some '(' =>
      match ← nextJoined with
      | some '(' =>
        let inner ← readPieces mark bound .arithmetic 0 .nothing (← nextJoined)
        return some (.arithmetic inner)
      | following =>
        unread following
        return some (← readEnclosed read)
    | some '{' =>
      let (name, use, isClosed) ← readParameter
      if isClosed then return some (.parameter name use [])
      let inner : Place := match use with
        | .without .. => .braces false
        | _ => .braces place.isQuoted
      let word ← readPieces mark bound inner 0 .nothing (← nextJoined)
      return some (.parameter name use word)
    | some c =>
      if beginsName c then return some (.parameter (← readName c) .value [])
      else if isSpecial c then return some (.parameter [c] .value [])
      else
        unread (some c)
        return none
    | none => return none

end

def readWord (isMark : Bool) (first : Char) : Reader (List Piece) := do
  modify fun cursor => { cursor with isQuoted := false }
  readPieces read none maxLength (.word isMark) 0 .nothing (some first)

def readDocuments : Reader Unit := do
  let pending := (← get).pending
  modify fun cursor => { cursor with pending := [] }
  for document in pending do
    let bound := maxLength
    let pieces ←
      if document.isExpanded then
        if ← passDocumentLine document.mark then pure []
        else readPieces read (some document.mark) bound .document 0 .nothing (← nextJoined)
      else pure [.text (← plainDocument document.mark bound [])]
    modify fun cursor =>
      { cursor with documents := (document.number, ⟨pieces⟩) :: cursor.documents }

end SiteBoot.Shell.Reader
