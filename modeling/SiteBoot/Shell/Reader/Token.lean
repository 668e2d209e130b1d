import SiteBoot.Shell.Reader.Word
/-!
Reading tokens: operators, redirection signs and words, of which some are keywords or aliases.
-/

namespace SiteBoot.Shell.Reader

variable (read : Demand → Reader Clause)

def setToken (token : Token) : Reader Token := do
  modify fun cursor => { cursor with token := token }
  return token

def skipComment : Reader Unit := do
  let cursor ← get
  let rest := cursor.rest.dropWhile (· ≠ '\n')
  if rest.isEmpty && !cursor.isLast then throw .more
  set { cursor with rest := rest }

/-- The sign of a redirection after its first character. -/
def readRedirectionSign (isInput : Bool) : Reader RedirectionSign := do
  match ← nextJoined, isInput with
  | some '>', false => return .file .append
  | some '|', false => return .file .overwrite
  | some '&', _ => return .copy
  | some '>', true => return .file .update
  | some '<', true =>
    match ← nextJoined with
    | some '-' => return .document true
    | c =>
      unread c
      return .document false
  | c, _ =>
    unread c
    return .file (if isInput then .read else .write)

/-- The token of an operator that may be doubled. -/
def readDoubled (c : Char) (single double : Token) : Reader Token := do
  match ← nextJoined with
  | some following =>
    if following = c then setToken double
    else
      unread (some following)
      setToken single
  | none => setToken single

/-- The next token as its characters make it, after at most so many blanks and comments. `isMark`
says that a word is the mark of a document. -/
def readPlainToken (isMark : Bool) : Nat → Reader Token
  | 0 => setToken .endOfFile
  | bound + 1 => do
    match ← nextJoined with
    | none => setToken .endOfFile
    | some ' ' | some '\t' => readPlainToken isMark bound
    | some '#' =>
      skipComment
      readPlainToken isMark bound
    | some '\n' =>
      countLine
      setToken .newline
    | some '&' => readDoubled '&' .ampersand .and
    | some '|' => readDoubled '|' .pipe .or
    | some ';' => readDoubled ';' .semicolon .endOfArm
    | some '(' => setToken .openParenthesis
    | some ')' => setToken .closeParenthesis
    | some c =>
      let word ← readWord read isMark c
      let cursor ← get
      let digit? : Option (Option Nat) := match plainText? word with
        | some [] => some none
        | some [d] => if d.isDigit then some (some (d.toNat - 48)) else none
        | _ => none
      match cursor.rest, digit?, cursor.isQuoted with
      | sign :: rest, some digit?, false =>
        if sign = '<' || sign = '>' then
          set { cursor with rest := rest }
          let meaning ← readRedirectionSign (sign = '<')
          let default := if sign = '<' then 0 else 1
          modify fun cursor => { cursor with redirection := (digit?.getD default, meaning) }
          setToken .redirection
        else
          set { cursor with word := word }
          setToken .word
      | _, _, _ =>
        set { cursor with word := word }
        setToken .word

/-- The next token or the one that was put back. -/
def nextToken (isMark : Bool) : Reader Token := do
  let cursor ← get
  if cursor.isPushedBack then
    set { cursor with isPushedBack := false }
    return cursor.token
  else readPlainToken read isMark maxLength

/-- The next token that is no line end. -/
def skipNewlines : Nat → Token → Reader Token
  | bound + 1, .newline => do
    readDocuments read
    modify fun cursor => { cursor with checks := .none }
    skipNewlines bound (← nextToken read false)
  | _, token => return token

/-- The next token as it is to be understood, where at most so many aliases are replaced. -/
def readTokenWithin (isMark : Bool) : Nat → Checks → Reader Token
  | 0, _ => nextToken read isMark
  | bound + 1, checks => do
    let token ← nextToken read isMark
    let token ←
      if checks.skipsNewlines then skipNewlines read maxLength token
      else pure token
    let cursor ← get
    let checks : Checks :=
      ⟨checks.skipsNewlines, checks.keywords || cursor.checks.keywords,
        checks.aliases || cursor.checks.aliases⟩
    set { cursor with checks := .none }
    match token, cursor.isQuoted, plainText? cursor.word with
    | .word, false, some name =>
      match (if checks.keywords then Keyword.ofName? name else none) with
      | some keyword => setToken (.keyword keyword)
      | none =>
        match (if checks.aliases && !cursor.aliasesInUse.contains name
          then cursor.aliases.lookup name else none) with
        | some value =>
          modify fun cursor =>
            if value.isEmpty then cursor
            else { cursor with
              rest := value ++ aliasMark :: cursor.rest
              aliasesInUse := name :: cursor.aliasesInUse }
          readTokenWithin isMark bound checks
        | none => return .word
    | token, _, _ => return token

/-- How many aliases may lead to one token. -/
def maxAliases : Nat := 1000

/-- The next token as it is to be understood. -/
def readToken : Reader Token := do readTokenWithin read false maxAliases (← get).checks

/-- The word that is the mark of a document. -/
def readMarkToken : Reader Token := do readTokenWithin read true maxAliases .none

end SiteBoot.Shell.Reader
