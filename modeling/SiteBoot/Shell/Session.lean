import SiteBoot.Shell.Evaluation
/-!
The shell as a program: what it takes from its environment and from its words, and what it runs
then. Main definition: `session`.
-/

namespace SiteBoot.Shell

def run : Runner := evaluate maxClauseDepth

/-! ### The environment -/

def privateVariable (value : Chars) : Variable := ⟨some value, false, false⟩

def firstVariables : List (Chars × Variable) :=
  [("PATH".toList, privateVariable standardPath), ("PS1".toList, privateVariable "# ".toList),
    ("PS2".toList, privateVariable "> ".toList), ("PS4".toList, privateVariable "+ ".toList)]

/-- The state with a variable of the environment, if its name is one that a variable can have. What
is up to the first equals sign counts as the name. -/
def State.import (state : State) (entry : RawText × RawText) : State :=
  let whole := entry.1.toChars ++ '=' :: entry.2.toChars
  let name := whole.takeWhile (· ≠ '=')
  if isName name then
    state.setVariable name ⟨some (whole.drop (name.length + 1)), true, false⟩
  else state

/-- The state with a variable that has a value of its own in every shell. -/
def State.reset (state : State) (name : String) (value : Chars) : State :=
  let isExported := (state.lookup? name.toList).any Variable.isExported
  state.setVariable name.toList ⟨some value, isExported, false⟩

/-- The state of a shell before it has looked at its words. -/
def State.initial (system : System) (name : Chars) (env : List (RawText × RawText)) : State :=
  let process := system.current
  let state : State := {
    vars := firstVariables, functions := [], aliases := [], name := name, args := [], options := []
    traps := [], ignoredBefore := process.ignored, line := 0, inputLine := 1, command := none
    status := 0, wordStatus := 0, savedStatus := none, output := [], number := process.number
    background := none, jobs := [], documents := [], nextDocument := 0, frames := [], loops := 0
    depth := 0, directory := [], optionIndex := 1, optionOffset := none, hashed := [] }
  let state := env.foldl State.import state
  ((state.reset "IFS" " \t\n".toList).reset "OPTIND" ['1']).reset "PPID" (decimal process.parent)

/-- Takes note of the directory that the shell stands in, under the path that the environment has
for it if that is right. -/
def findDirectory : Run Unit := do
  let given := (← get).valueOf "PWD"
  let files := (← Routine.system).tree
  let isRight := given.head? = some '/' && (match files.find (.ofChars given) with
    | .ok (place, some .directory) => place = files.here
    | _ => false)
  let real ← realDirectory
  setDirectory (if isRight then given else real) false

/-! ### The words -/

/-- Sets the options in the letters of a word, and says whether a command is given, and the words
after it. -/
def sessionLetters (isOn : Bool) : Chars → List Chars → Run (Bool × List Chars)
  | [], words => return (false, words)
  | 'c' :: rest, words => return (true, (← sessionLetters isOn rest words).2)
  | 'l' :: rest, words => sessionLetters isOn rest words
  | 'o' :: rest, words => do
    setNamedOption words.head? isOn
    sessionLetters isOn rest words.tail
  | c :: rest, words => do
    setOption c isOn
    sessionLetters isOn rest words

/-- Sets the options at the beginning of words, at most so many words of them, and says whether a
command is given, and the other words. -/
def sessionOptions : Nat → Bool → List Chars → Run (Bool × List Chars)
  | 0, hasCommand, words => return (hasCommand, words)
  | bound + 1, hasCommand, words => do
    match words with
    | ['-'] :: rest | ['-', '-'] :: rest => return (hasCommand, rest)
    | ('-' :: letters) :: rest =>
      let (isCommand, rest) ← sessionLetters true letters rest
      sessionOptions bound (hasCommand || isCommand) rest
    | ('+' :: letters) :: rest =>
      let (isCommand, rest) ← sessionLetters false letters rest
      sessionOptions bound (hasCommand || isCommand) rest
    | words => return (hasCommand, words)

/-- Sets the name of the shell and its arguments. -/
def setNamed (words : List Chars) : Run Unit := do
  for name in words.head? do modify fun state => { state with name := name }
  setArgs words.tail

/-- Runs what the words of a shell say: a command, a script, or what comes in. -/
def runWords (words : List Chars) : Run Unit := do
  findDirectory
  let (hasCommand, words) ← sessionOptions (words.length + 1) false words
  if hasCommand && words.isEmpty then fail "-c requires an argument".toList
  let readsInput := words.isEmpty || (← get).hasOption 's'
  if words.isEmpty then modify fun state => { state with options := state.options ++ ['s'] }
  if hasCommand then
    setNamed words.tail
    let _ ← runText run (words.headD []) ⟨!readsInput, false⟩
    if readsInput then
      let _ ← runScript run 0
  else if readsInput then
    setArgs words
    let _ ← runScript run 0
  else
    let descriptor ← openScript (words.headD [])
    setNamed words
    let _ ← runScript run descriptor

def session (words : List RawText) (env : List (RawText × RawText)) (system : System) : Pause :=
  let words := words.map RawText.toChars
  let body : Run Unit := do
    match ← Routine.attempt (runWords words.tail) with
    | .ok () => leave run none
    | .error interrupt => leave run (some interrupt)
  Routine.start body (.initial system (words.headD []) env) (fun _ => 0) system

end SiteBoot.Shell
