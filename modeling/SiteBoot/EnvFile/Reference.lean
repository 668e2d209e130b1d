import SiteBoot.EnvFile.Marked
/-!
References in a value: a marked dollar sign with a name, bare or between braces, where a fallback
may follow the name. What is put in place of a reference is not looked at again.
-/

namespace SiteBoot.EnvFile

/-- A piece of a value. -/
inductive Piece where
  | char (c : Char)
  /-- The value of a name, or the fallback where that is empty or not set. -/
  | reference (name fallback : List Char)
  deriving DecidableEq, Repr

/-- The name and the fallback of a reference between braces, told apart by the first `:-`. -/
def splitFallback : List Char → List Char × List Char
  | [] => ([], [])
  | ':' :: '-' :: rest => ([], rest)
  | c :: rest =>
    let (name, fallback) := splitFallback rest
    (c :: name, fallback)

/-- A bare reference. A dollar sign without a name is itself. -/
def Piece.bare (name : List Char) : Piece :=
  if name.isEmpty then .char '$' else .reference name []

def Piece.braced (body : List Char) : Piece :=
  let (name, fallback) := splitFallback body
  .reference name fallback

/-- Where the reading of references stands. -/
inductive ReferenceState where
  | outside
  /-- After the marker, in a bare name. -/
  | name (read : List Char)
  /-- After the marker and an opening brace. -/
  | braces (read : List Char)
  deriving DecidableEq, Repr

/-- The pieces of a value. Braces that are not closed hold no reference but text. -/
def piecesFrom : ReferenceState → List Char → List Piece
  | .outside, [] => []
  | .name read, [] => [.bare read]
  | .braces read, [] => .char '$' :: .char '{' :: read.map .char
  | .outside, c :: rest =>
    if c = marker then piecesFrom (.name []) rest else .char c :: piecesFrom .outside rest
  | .name read, c :: rest =>
    if c = '{' && read.isEmpty then piecesFrom (.braces []) rest
    else if isNameChar c then piecesFrom (.name (read ++ [c])) rest
    else if c = marker then .bare read :: piecesFrom (.name []) rest
    else .bare read :: .char c :: piecesFrom .outside rest
  | .braces read, c :: rest =>
    if c = '}' then .braced read :: piecesFrom .outside rest
    else piecesFrom (.braces (read ++ [c])) rest

def pieces (raw : List Char) : List Piece := piecesFrom .outside raw

/-- What a piece means, where names have the given values. -/
def Piece.expand (value? : List Char → Option (List Char)) : Piece → List Char
  | .char c => [c]
  | .reference name fallback =>
    match value? name with
    | some (c :: rest) => c :: rest
    | _ => fallback

def expand (value? : List Char → Option (List Char)) (raw : List Char) : List Char :=
  (pieces raw).flatMap (Piece.expand value?)

def references (raw : List Char) : List (List Char) :=
  (pieces raw).filterMap fun
    | .reference name _ => some name
    | .char _ => none

end SiteBoot.EnvFile
