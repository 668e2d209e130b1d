import SiteBoot.Shell.Reader.Token
/-!
Reading commands, after the grammar of the shell. Main definition: `Script.next` reads the next
line of commands from a script.
-/

namespace SiteBoot.Shell

/-- The builtins that stay what they are whatever functions are called. -/
def specialBuiltins : List String :=
  [".", ":", "break", "continue", "eval", "exec", "exit", "export", "readonly", "return", "set",
    "shift", "times", "trap", "unset", "local"]

namespace Reader

variable (read : Demand → Reader Clause)

/-- Goes past a token that has to come. -/
def expect (token : Token) : Reader Unit := do
  if (← readToken read) ≠ token then unexpected (some token)

/-- Goes past a keyword that has to come. -/
def expectKeyword (keyword : Keyword) : Reader Unit := expect read (.keyword keyword)

/-- What follows the sign of a redirection that has just been read. -/
def readRedirection : Reader Redirection := do
  let (descriptor, sign) := (← get).redirection
  match sign with
  | .document stripsTabs =>
    if (← readMarkToken read) ≠ .word then unexpected none
    let cursor ← get
    let rec unquoted : List Piece → Chars
      | [] => []
      | .text chars :: rest => chars ++ unquoted rest
      | .escaped c :: rest => c :: unquoted rest
      | .quoted inner :: rest => unquoted inner ++ unquoted rest
      | _ :: rest => unquoted rest
    let document : PendingDocument :=
      ⟨cursor.nextDocument, ⟨unquoted cursor.word, stripsTabs⟩, !cursor.isQuoted⟩
    set { cursor with
      pending := cursor.pending ++ [document], nextDocument := cursor.nextDocument + 1 }
    return .document descriptor document.number
  | .copy =>
    if (← readToken read) ≠ .word then unexpected none
    let word := (← get).word
    match plainText? word with
    | some ['-'] => return .copy descriptor none
    | some [d] =>
      return if d.isDigit then .copy descriptor (some (d.toNat - 48))
        else .copyNamed descriptor word
    | _ => return .copyNamed descriptor word
  | .file use =>
    if (← readToken read) ≠ .word then unexpected none
    return .file descriptor use (← get).word

def readRedirections : Nat → List Redirection → Reader (List Redirection)
  | 0, soFar => return soFar.reverse
  | bound + 1, soFar => do
    check false true true
    if (← readToken read) = .redirection then
      readRedirections bound ((← readRedirection read) :: soFar)
    else
      pushBack
      return soFar.reverse

/-- A simple command, or the definition of a function. -/
def readSimple (line : Nat) :
    Nat → Bool → List (List Piece) → List (List Piece) → List Redirection → Reader Clause
  | 0, _, _, _, _ => fail "word unexpected"
  | bound + 1, mayAssign, assignments, words, redirections => do
    check false false mayAssign
    let finish : Reader Clause := do
      pushBack
      return .simple line assignments.reverse words.reverse redirections.reverse
    match ← readToken read with
    | .word =>
      let word := (← get).word
      if mayAssign && (assignment? word).isSome then
        readSimple line bound true (word :: assignments) words redirections
      else readSimple line bound false assignments (word :: words) redirections
    | .redirection =>
      let redirection ← readRedirection read
      readSimple line bound mayAssign assignments words (redirection :: redirections)
    | .openParenthesis =>
      match words with
      | [word] =>
        if assignments.isEmpty && redirections.isEmpty then
          expect read .closeParenthesis
          match plainText? word with
          | some name =>
            if !isName name || specialBuiltins.contains (text name) then fail "Bad function name"
            check true true true
            let line := (← get).line
            return .define line name (← read .command)
          | none => fail "Bad function name"
        else finish
      | _ => finish
    | _ => finish

/-- The words that a loop goes through, up to the token after them. -/
def readLoopWords : Nat → List (List Piece) → Reader (List (List Piece))
  | 0, _ => fail "word unexpected"
  | bound + 1, soFar => do
    if (← readToken read) = .word then readLoopWords bound ((← get).word :: soFar)
    else return soFar.reverse

/-- The patterns of an arm of a case, from a token on that has been read. -/
def readPatterns : Nat → List (List Piece) → Reader (List (List Piece))
  | 0, _ => fail "word unexpected"
  | bound + 1, soFar => do
    let soFar := (← get).word :: soFar
    if (← readToken read) = .pipe then
      let _ ← readToken read
      readPatterns bound soFar
    else return soFar.reverse

def readArms : Nat → List (List (List Piece) × Clause) →
    Reader (List (List (List Piece) × Clause))
  | 0, _ => fail "word unexpected"
  | bound + 1, soFar => do
    check true true false
    let token ← readToken read
    if token = .keyword .esac then return soFar.reverse
    if token = .openParenthesis then
      let _ ← readToken read
    let patterns ← readPatterns read bound []
    if (← get).token ≠ .closeParenthesis then unexpected (some .closeParenthesis)
    let soFar := (patterns, ← read .lines) :: soFar
    check true true false
    match ← readToken read with
    | .keyword .esac => return soFar.reverse
    | .endOfArm => readArms bound soFar
    | _ => unexpected (some .endOfArm)

/-- What comes after a condition: the clause if it holds, and what is to be done otherwise. -/
def readChoice : Nat → Clause → Reader Clause
  | 0, _ => fail "word unexpected"
  | bound + 1, condition => do
    expectKeyword read .thenBody
    let yes ← read .list
    match ← readToken read with
    | .keyword .elseIf =>
      let other ← read .list
      return .choose condition yes (some (← readChoice bound other))
    | .keyword .otherwise => return .choose condition yes (some (← read .list))
    | _ =>
      pushBack
      return .choose condition yes none

/-- A loop over words after its first keyword. -/
def readForEach (line bound : Nat) : Reader Clause := do
  let token ← readToken read
  let cursor ← get
  let name := (plainText? cursor.word).getD []
  if token ≠ .word || cursor.isQuoted || !isName name then fail "Bad for loop variable"
  check true true true
  let words ←
    if (← readToken read) = .keyword .among then
      let words ← readLoopWords read bound []
      let token := (← get).token
      if token ≠ .newline && token ≠ .semicolon then unexpected none
      pure words
    else
      if (← get).token ≠ .semicolon then pushBack
      pure [[.quoted [.parameter ['@'] .value []]]]
  check true true true
  expectKeyword read .loopBody
  return .forEach line name words (← read .list)

def readCommand (line bound : Nat) : Reader Clause := do
  let closed (clause : Clause) (token : Token) : Reader Clause := do
    expect read token
    let redirections ← readRedirections read bound []
    return match clause, redirections with
      | clause, [] => clause
      | .subshell line inner _, redirections => .subshell line inner redirections
      | clause, redirections => .redirected line clause redirections
  match ← readToken read with
  | .keyword .condition =>
    let condition ← read .list
    closed (← readChoice read bound condition) (.keyword .fi)
  | .keyword .whileTrue =>
    let condition ← read .list
    expectKeyword read .loopBody
    closed (.loop true condition (← read .list)) (.keyword .done)
  | .keyword .untilTrue =>
    let condition ← read .list
    expectKeyword read .loopBody
    closed (.loop false condition (← read .list)) (.keyword .done)
  | .keyword .forEach => closed (← readForEach read line bound) (.keyword .done)
  | .keyword .case =>
    if (← readToken read) ≠ .word then unexpected (some .word)
    let word := (← get).word
    check true true true
    expectKeyword read .among
    let arms ← readArms read bound []
    let redirections ← readRedirections read bound []
    let clause := .select line word arms
    return if redirections.isEmpty then clause else .redirected line clause redirections
  | .openParenthesis => closed (.subshell line (← read .list) []) .closeParenthesis
  | .keyword .openBrace => closed (← read .list) (.keyword .closeBrace)
  | .word | .redirection =>
    pushBack
    readSimple read (← get).line bound true [] [] []
  | _ => unexpected none

/-- The commands of a pipeline after the first one. -/
def readPiped : Nat → List Clause → Reader (List Clause)
  | 0, soFar => return soFar.reverse
  | bound + 1, soFar => do
    if (← readToken read) = .pipe then
      check true true true
      readPiped bound ((← read .command) :: soFar)
    else
      pushBack
      return soFar.reverse

def readPipeline (bound : Nat) : Reader Clause := do
  let isNegated := (← readToken read) = .keyword .negation
  if isNegated then check false true true else pushBack
  let first ← read .command
  let clause ← match ← readPiped read bound [] with
    | [] => pure first
    | others => pure (.pipe (first :: others) false)
  return if isNegated then .not clause else clause

/-- A pipeline with those that depend on its code. -/
def readChain : Nat → Clause → Reader Clause
  | 0, first => return first
  | bound + 1, first => do
    match ← readToken read with
    | .and =>
      check true true true
      readChain bound (.both first (← readPipeline read bound))
    | .or =>
      check true true true
      readChain bound (.either first (← readPipeline read bound))
    | _ =>
      pushBack
      return first

def Clause.inBackground (line : Nat) : Clause → Clause
  | .pipe clauses _ => .pipe clauses true
  | .redirected line clause redirections => .background line clause redirections
  | clause => .background line clause []

def followedBy (first : Option Clause) (second : Clause) : Clause :=
  match first with
  | some first => .sequence first second
  | none => second

/-- The commands of a line, or nothing at the end of the script. -/
def readLine : Nat → Option Clause → Reader (Option Clause)
  | 0, soFar => return soFar
  | bound + 1, soFar => do
    check false true true
    match ← readToken read with
    | .newline =>
      readDocuments read
      return some (soFar.getD .nothing)
    | .endOfFile =>
      pushBack
      return soFar
    | _ =>
      pushBack
      let line := (← get).line
      let clause ← readChain read bound (← readPipeline read bound)
      match ← readToken read with
      | .ampersand => readLine bound (some (followedBy soFar (Clause.inBackground line clause)))
      | .semicolon => readLine bound (some (followedBy soFar clause))
      | .newline =>
        pushBack
        readLine bound (some (followedBy soFar clause))
      | .endOfFile =>
        pushBack
        return some (followedBy soFar clause)
      | _ => unexpected none

/-- The commands of a list over the ends of lines. `hasBegun` says that it may end here. -/
def readList : Nat → Bool → Option Clause → Reader Clause
  | 0, _, soFar => return soFar.getD .nothing
  | bound + 1, hasBegun, soFar => do
    check true true true
    let token ← readToken read
    pushBack
    if token = .endOfFile || (hasBegun && token.endsList) then return soFar.getD .nothing
    let line := (← get).line
    let clause ← readChain read bound (← readPipeline read bound)
    match ← readToken read with
    | .ampersand => readList bound true (some (followedBy soFar (Clause.inBackground line clause)))
    | .semicolon => readList bound true (some (followedBy soFar clause))
    | .newline =>
      pushBack
      readList bound true (some (followedBy soFar clause))
    | _ =>
      pushBack
      return followedBy soFar clause

/-- What a demand is for, where clauses in clauses may go so deep. -/
def readDemand : Nat → Demand → Reader Clause
  | 0, _ => fail "word unexpected"
  | depth + 1, demand => do
    let read := readDemand depth
    let bound := maxLength
    match demand with
    | .lines => readList read bound true none
    | .list => readList read bound false none
    | .enclosed =>
      let clause ← readList read bound true none
      expect read .closeParenthesis
      modify fun cursor =>
        { cursor with
          documents := cursor.pending.map (fun document => (document.number, ⟨[]⟩)) ++
            cursor.documents
          pending := [] }
      return clause
    | .command => readCommand read (← get).line bound

def maxDepth : Nat := 1000

end Reader

/-- A script as far as it is known and has not been read, or what is left of it. -/
structure Script where
  rest : Chars
  isLast : Bool
  line : Nat

/-- The part of a script that has been read when only an end of it is left, without what aliases
have put in its place. -/
def Script.read (script : Script) (left : Chars) : Chars :=
  let own (text : Chars) : Chars := (text.reverse.takeWhile (· ≠ Reader.aliasMark)).reverse
  (own script.rest).take ((own script.rest).length - (own left).length)

/-- The part of a script that has been read, with the line in which it ends. -/
def Script.readLines (script : Script) (left : Chars) : Chars :=
  let read := script.read left
  let left := script.rest.drop (script.rest.length - left.length)
  if read.getLast? = some '\n' then read
  else read ++ left.takeWhile (· ≠ '\n') ++ (left.dropWhile (· ≠ '\n')).take 1

/-- What comes of reading a line of commands. -/
inductive Line where
  /-- More has to be known of the script. -/
  | more
  | endOfScript
  | fault (line : Nat) (message : String) (rest : Chars)
  /-- `isEnd` says that the script has been seen to end after the commands. -/
  | commands (clause : Clause) (documents : List (Nat × Document)) (rest : Script) (isEnd : Bool)

/-- The next line of commands of a script, where the documents in it get numbers from one on. -/
def Script.next (script : Script) (aliases : List (Chars × Chars)) (firstDocument : Nat) : Line :=
  let cursor : Cursor := {
    rest := script.rest, isLast := script.isLast, line := script.line, aliases := aliases
    aliasesInUse := [], previous := '\n', token := .newline, isPushedBack := false, word := []
    isQuoted := false, redirection := (0, .copy), checks := .none, pending := [], documents := []
    nextDocument := firstDocument }
  let read := Reader.readDemand Reader.maxDepth
  match (Reader.readLine read Reader.maxLength none).run cursor with
  | .error .more => .more
  | .error (.fault line message rest) => .fault line message rest
  | .ok (none, _) => .endOfScript
  | .ok (some clause, cursor) =>
    .commands clause cursor.documents ⟨cursor.rest, cursor.isLast, cursor.line⟩
      (cursor.token = .endOfFile)

/-- The pieces of a text as they would be in quotes. -/
def quotedPieces (text : Chars) : List Piece :=
  let cursor : Cursor := {
    rest := text, isLast := true, line := 1, aliases := [], aliasesInUse := [], previous := '\n'
    token := .newline, isPushedBack := false, word := [], isQuoted := false
    redirection := (0, .copy), checks := .none, pending := [], documents := [], nextDocument := 0 }
  let read := Reader.readDemand Reader.maxDepth
  let pieces : Reader (List Piece) := do
    Reader.readPieces read none (2 * text.length + 16) .document 0 .nothing (← Reader.nextJoined)
  match pieces.run cursor with
  | .ok (pieces, _) => pieces
  | .error _ => [.text text]

end SiteBoot.Shell
