import SiteBoot.Shell.Builtin.Basic
/-!
The builtins that say what is run next: other texts and scripts, and the ends of loops, functions
and the shell.
-/

namespace SiteBoot.Shell

/-- Leaves loops or begins their next rounds. Outside of all loops there is nothing to do. -/
def loopBuiltin (isAgain : Bool) (words : List Chars) : Run Nat := do
  let count ← match words with
    | [] => pure 1
    | word :: _ => do
      let count ← natural word
      if count = 0 then fail ("Illegal number: ".toList ++ word)
      pure count
  let loops := min count (← get).loops
  if loops = 0 then return 0
  setStatus 0
  throw (if isAgain then .again loops else .leave loops)

def returnBuiltin (words : List Chars) : Run Nat := do
  match words with
  | [] => throw (.back false)
  | word :: _ =>
    setStatus (← natural word)
    throw (.back true)

def exitBuiltin (words : List Chars) : Run Nat := do
  for word in words.head? do
    let status ← natural word
    modify fun state => { state with savedStatus := some status }
  throw (.exit true)

variable (run : Runner)

def evalBuiltin (words : List Chars) (isTested : Bool) : Run Nat :=
  if words.isEmpty then return 0
  else runText run ([' '].intercalate words) ⟨false, isTested⟩

/-- The path of a script by its name, which is looked for like a program if there is no slash in
it. -/
def scriptPath (name : Chars) : Run Chars := do
  if name.contains '/' then return name
  let files := (← Routine.system).tree
  let isScript (path : Chars) : Bool := match files.find (.ofChars path) with
    | .ok (_, some (.file ..)) | .ok (_, some (.utility _)) => true
    | _ => false
  match (candidates ((← get).valueOf "PATH") name).find? isScript with
  | some path => return path
  | none => fail (name ++ ": not found".toList)

/-- Opens a script under a descriptor that the shell uses for itself. -/
def openScript (path : Chars) : Run Nat := do
  match (← Routine.system).openPath (.ofChars path) .toRead with
  | .ok (file, system) =>
    Routine.changeSystem fun _ => system
    attachOwn file
  | .error failure =>
    fail ("cannot open ".toList ++ path ++ ": ".toList ++ failureText "No such file" failure)

/-- Runs a script in the shell itself. Messages name the script. -/
def dotBuiltin (words : List Chars) : Run Nat := do
  match ← withoutOptions words with
  | [] => return 0
  | name :: _ =>
    let path ← scriptPath name
    let descriptor ← openScript path
    modify fun state => { state with command := some path }
    let inputLine := (← get).inputLine
    let result ← Routine.attempt (runScript run descriptor)
    close descriptor
    modify fun state => { state with inputLine := inputLine }
    match result with
    | .ok status => return status
    | .error interrupt => throw interrupt

end SiteBoot.Shell
