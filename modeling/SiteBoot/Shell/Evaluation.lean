import SiteBoot.Shell.Builtin
import SiteBoot.Shell.Redirection
/-!
Running clauses: simple commands with all that is expanded in them, pipelines, subshells, loops and
choices. Main definition: `evaluate`, which is followed to a depth.
-/

namespace SiteBoot.Shell

/-! ### What a simple command calls -/

/-- The builtins of which words that are assignments stay whole. -/
def keepsAssignments (name : Chars) : Bool :=
  ["export", "readonly", "local", "alias"].contains (text name)

/-- What is known of a simple command by its first words: the fields that they have made, the words
that have not been expanded, and what has been settled. -/
structure Call where
  /-- The fields before the name of what is called. -/
  front : List Chars
  fields : List Chars
  words : List (List Piece)
  isOwn : Bool
  isSpecial : Bool
  skipsFunctions : Bool
  path : Option Chars

section
variable (output : Clause → Run Chars)

/-- The fields of the first words that make any, and the words after them. -/
def firstFields : List (List Piece) → Run (List Chars × List (List Piece))
  | [] => return ([], [])
  | word :: words => do
    let fields ← expandFields output word
    if fields.isEmpty then firstFields words else return (fields, words)

/-- The call with a field in its front, and with one more field if its words make any. -/
def Call.advance (call : Call) : Run Call := do
  let call := { call with front := call.front ++ call.fields.take 1, fields := call.fields.tail }
  if !call.fields.isEmpty then return call
  let (fields, words) ← firstFields output call.words
  return { call with fields := fields, words := words }

/-- The call after `command` and its options, and whether it is to run something. -/
def afterCommandOptions : Nat → Option Chars → Call → Run (Bool × Call)
  | 0, _, call => return (false, call)
  | bound + 1, path, call => do
    let call ← call.advance output
    match call.fields with
    | [] => return (false, call)
    | ['-', '-'] :: _ =>
      let call ← call.advance output
      return (!call.fields.isEmpty, { call with path := path })
    | ('-' :: 'p' :: letters) :: _ =>
      if letters.all (· = 'p') then afterCommandOptions bound (some standardPath) call
      else return (false, call)
    | ('-' :: _ :: _) :: _ => return (false, call)
    | _ => return (true, { call with path := path })

/-- Settles what a simple command calls, behind at most so many prefixes. -/
def settleCall : Nat → Bool → Call → Run Call
  | 0, _, call => return call
  | bound + 1, isFirst, call => do
    let name := call.fields.headD []
    let isFunction := !call.skipsFunctions && ((← get).functions.lookup name).isSome
    if isFunction || !isBuiltin name then return { call with isOwn := true }
    let call := if isFirst then
        { call with isOwn := !isSpecialBuiltin name, isSpecial := isSpecialBuiltin name }
      else { call with isOwn := true }
    if name ≠ "command".toList then return call
    let count := call.fields.length + call.words.length + 1
    let (runs, after) ← afterCommandOptions output count call.path call
    if runs then settleCall bound false { after with skipsFunctions := true }
    else return { after with
      front := call.front
      fields := after.front.drop call.front.length ++ after.fields
      skipsFunctions := false }

end

/-! ### Simple commands -/

/-- Whether something is to be done on a signal or at the end of the shell. -/
def State.hasTraps (state : State) : Bool := state.traps.any (!·.2.isEmpty)

def maxCalls : Nat := 1000

section
variable (run : Runner)

/-- Runs the body of a function with its arguments. -/
def callFunction (body : Clause) (args : List Chars) (isTested : Bool) : Run Nat := do
  let before ← get
  if before.depth ≥ maxCalls then
    fail ("Maximum function recursion depth (".toList ++ decimal maxCalls ++ ") reached".toList)
  set { before with
    args := args, optionIndex := 1, optionOffset := none, loops := 0, depth := before.depth + 1 }
  let result ← Routine.attempt (run body ⟨false, isTested⟩)
  modify fun state => { state with
    args := before.args
    optionIndex := before.optionIndex
    optionOffset := before.optionOffset
    loops := before.loops
    depth := before.depth }
  match result with
  | .ok status => return status
  | .error (.back _) => return (← get).status
  | .error interrupt => throw interrupt

def runCall (call : Call) (manner : Manner) : Run Nat := do
  match call.fields with
  | [] => return (← get).wordStatus
  | name :: args =>
    match ← meaningOf (!call.skipsFunctions) call.path name with
    | .function body => callFunction run body args manner.isTested
    | .builtin => runBuiltin run name args manner.isTested (!call.isSpecial)
    | .program path =>
      let paths ← pathsFrom call.path path name
      if manner.isLast && !(← get).hasTraps then replaceBy paths call.fields
      else runProgram paths call.fields
    | .missing failure =>
      warn (name ++ ": ".toList ++ programFailure failure)
      return 127

def showCommand (descriptor : Nat) (assigned fields : List Chars) : Run Unit := do
  let options := (← get).options
  if options.contains 'x' then
    let front := quotedPieces ((← get).valueOf "PS4")
    let front ← restoring (fun before after => { after with options := before.options }) do
      modify fun state => { state with options := options.filter (· ≠ 'x') }
      expandQuoted (outputOf run) front
    let _ ← writeTo descriptor (front ++ joinWords (assigned ++ fields) ++ ['\n'])

/-- Makes the assignments of a command, each as it is found, and says what they are. -/
def makeAssignments (isOwn isExported : Bool) (assignments : List (List Piece)) :
    Run (List Chars) :=
  assignments.filterMapM fun word => do
    match assignment? word with
    | none => return none
    | some (name, value) =>
      let value ← expandAssigned (outputOf run) value
      let whole := name ++ '=' :: value
      if isOwn then makeLocal whole true else assign name (some value) isExported
      return some whole

def runSimple (assignments words : List (List Piece)) (redirections : List Redirection)
    (manner : Manner) : Run Nat := do
  let output := outputOf run
  modify fun state => { state with wordStatus := 0 }
  let (fields, rest) ← firstFields output words
  let call ←
    if fields.isEmpty then pure ⟨[], [], [], false, false, false, none⟩
    else
      settleCall output (words.length + fields.length) true
        ⟨[], fields, rest, false, false, false, none⟩
  let name := call.fields.headD []
  let more ← expandAll output (isBuiltin name && keepsAssignments name) call.words
  let call := { call with fields := call.fields ++ more, words := [] }
  let shown := call.front ++ call.fields
  let isExec := name = "exec".toList
  let frames := (← get).frames.length
  if call.isOwn then modify fun state => { state with frames := [] :: state.frames }
  let unwind : Run Unit := unwindTo frames
  let result ← Routine.attempt do
    withRedirections run redirections isExec
      (if call.isSpecial then throw .error else return 2)
      fun errors => do
        let isExported := isExec && 1 < call.fields.length
        let assigned ← makeAssignments run call.isOwn isExported assignments
        showCommand run errors assigned shown
        runCall run call manner
  match result with
  | .ok status =>
    unwind
    return status
  | .error interrupt =>
    if interrupt.isJump then unwind
    throw interrupt

/-! ### Other processes -/

def readNothing : Run Unit := Routine.changeSystem fun system =>
  let (file, system) := system.addOpenFile ⟨.sink, true, false, false, 0⟩
  (system.attach 0 file false).collect

/-- Runs a clause in another shell, or in this one if that is at its end. -/
def runSubshell (clause : Clause) (redirections : List Redirection) (manner : Manner) :
    Run Nat := do
  let body : Run Nat := do
    redirectForGood run redirections
    run clause { manner with isLast := true }
  if manner.isLast && !(← get).hasTraps then body
  else
    releaseJob
    awaitAll [← forkShell run false body]

def runInBackground (clause : Clause) (redirections : List Redirection) : Run Nat := do
  let number ← forkShell run true do
    readNothing
    redirectForGood run redirections
    run clause ⟨true, false⟩
  addJob [number]
  return 0

/-- Looks for the program of a clause ahead of time. -/
def lookAhead : Clause → Run Unit
  | .simple _ _ (word :: _) _ => do
    match plainText? word with
    | some name =>
      if isName name then
        let _ ← meaningOf true none name
    | none => return
  | _ => return

/-- Starts clauses of which each reads what the one before it writes. The first one reads from a
descriptor if there is one. -/
def startPipe (isTested inBackground : Bool) :
    List Clause → Option Nat → List Nat → Run (List Nat)
  | [], _, numbers => return numbers
  | clause :: rest, source, numbers => do
    lookAhead clause
    let ends ←
      if rest.isEmpty then pure none
      else do
        let (reader, writer) ← Routine.withSystem System.makePipe
        pure (some (← attachOwn reader, ← attachOwn writer))
    let moveTo (descriptor own : Nat) : Run Unit := Routine.changeSystem fun system =>
      match system.current.file? own with
      | some file => (system.attach descriptor file false).close own
      | none => system
    let number ← forkShell run inBackground do
      if inBackground && numbers.isEmpty then readNothing
      for (readEnd, _) in ends do close readEnd
      for own in source do moveTo 0 own
      for (_, writeEnd) in ends do moveTo 1 writeEnd
      run clause ⟨true, isTested⟩
    for own in source do close own
    for (_, writeEnd) in ends do close writeEnd
    startPipe isTested inBackground rest (ends.map Prod.fst) (numbers ++ [number])

def runPipe (clauses : List Clause) (inBackground : Bool) (manner : Manner) : Run Nat := do
  if !inBackground then releaseJob
  let numbers ← startPipe run manner.isTested inBackground clauses none []
  if inBackground then
    addJob numbers
    return 0
  else awaitAll numbers

/-! ### Loops and choices -/

/-- How often a loop may be gone through. -/
def maxRounds : Nat := 1000000000

/-- Counts a loop for those that are in it. -/
def inLoop {α : Type} (body : Run α) : Run α := do
  modify fun state => { state with loops := state.loops + 1 }
  restoring (fun before after => { after with loops := before.loops - 1 }) body

/-- What a jump means for a loop: the jump beyond it, or whether there is a next round. -/
def Interrupt.atLoop : Interrupt → Except Interrupt Bool
  | leave loops => if loops ≤ 1 then .ok false else .error (.leave (loops - 1))
  | again loops => if loops ≤ 1 then .ok true else .error (.again (loops - 1))
  | interrupt => .error interrupt

/-- Runs something in a loop, and says its code and whether there is a next round. A jump that is
caught leaves the code that was there. -/
def runRound (body : Run Nat) : Run (Option Nat × Bool) := do
  match ← Routine.attempt body with
  | .ok status => return (some status, true)
  | .error interrupt =>
    match interrupt.atLoop with
    | .ok goesOn => return (none, goesOn)
    | .error interrupt => throw interrupt

/-- Runs a body as long as a condition says so, at most so many times. -/
def runLoop (whileTrue : Bool) (condition body : Clause) (isTested : Bool) : Nat → Nat → Run Nat
  | 0, status => return status
  | bound + 1, status => do
    Routine.await .turn
    match ← Routine.attempt (runRound (run condition ⟨false, true⟩)) with
    | .error interrupt =>
      let isCoded := interrupt matches .back true
      if interrupt.isJump && !isCoded then setStatus status
      throw interrupt
    | .ok (none, goesOn) =>
      if goesOn then runLoop whileTrue condition body isTested bound status else return status
    | .ok (some code, _) =>
      if (code == 0) != whileTrue then return status
      else
        let (code, goesOn) ← runRound (run body ⟨false, isTested⟩)
        let status := code.getD (← get).status
        if goesOn then runLoop whileTrue condition body isTested bound status else return status

/-- Runs a body for each of some words. -/
def runForEach (name : Chars) (body : Clause) (isTested : Bool) : List Chars → Nat → Run Nat
  | [], status => return status
  | word :: words, _ => do
    Routine.await .turn
    assign name (some word) false
    let (code, goesOn) ← runRound (run body ⟨false, isTested⟩)
    let status := code.getD (← get).status
    if goesOn then runForEach name body isTested words status else return status

/-- Whether a text matches one of some patterns. -/
def matchesAny (text : Chars) : List (List Piece) → Run Bool
  | [] => return false
  | pattern :: patterns => do
    if matchesPattern (← expandPattern (outputOf run) pattern) text then return true
    else matchesAny text patterns

/-- Runs the first arm that a text matches. -/
def runArms (text : Chars) (manner : Manner) :
    List (List (List Piece) × Clause) → Run Nat
  | [] => return 0
  | (patterns, body) :: arms => do
    if ← matchesAny run text patterns then
      if body.isNothing then return 0 else run body manner
    else runArms text manner arms

/-! ### Clauses -/

/-- What comes of a clause: its code, and whether the shell may end by it. -/
structure Outcome where
  status : Nat
  isChecked : Bool

def atLine (line : Nat) : Run Unit := modify fun state => { state with line := line }

def Clause.isSimple : Clause → Bool
  | simple .. => true
  | _ => false

/-- Runs a clause of which the parts are run by an argument. -/
def runClause (manner : Manner) (clause : Clause) : Run Outcome := do
  let inside : Manner := { manner with isLast := false }
  let tested : Manner := ⟨false, true⟩
  match clause with
  | .nothing => return ⟨0, false⟩
  | .simple line assignments words redirections =>
    atLine line
    return ⟨← runSimple run assignments words redirections manner, true⟩
  | .redirected line clause redirections =>
    atLine line
    withRedirections run redirections false (return ⟨2, true⟩) fun _ => do
      return ⟨← run clause inside, false⟩
  | .sequence first second =>
    let _ ← run first inside
    return ⟨← run second manner, false⟩
  | .both first second =>
    let status ← run first tested
    if status = 0 then return ⟨← run second manner, false⟩ else return ⟨status, false⟩
  | .either first second =>
    let status ← run first tested
    if status = 0 then return ⟨0, false⟩ else return ⟨← run second manner, false⟩
  | .not clause =>
    let status ← run clause tested
    return ⟨if status = 0 then 1 else 0, false⟩
  | .pipe clauses inBackground => return ⟨← runPipe run clauses inBackground manner, true⟩
  | .subshell line clause redirections =>
    atLine line
    return ⟨← runSubshell run clause redirections manner, true⟩
  | .background line clause redirections =>
    atLine line
    return ⟨← runInBackground run clause redirections, false⟩
  | .choose condition yes no =>
    let status ← run condition tested
    if status = 0 then return ⟨← run yes manner, false⟩
    else match no with
      | some clause => return ⟨← run clause manner, false⟩
      | none => return ⟨0, false⟩
  | .loop whileTrue condition body =>
    return ⟨← inLoop (runLoop run whileTrue condition body manner.isTested maxRounds 0), false⟩
  | .forEach line name words body =>
    atLine line
    let words ← expandAll (outputOf run) false words
    return ⟨← inLoop (runForEach run name body manner.isTested words 0), false⟩
  | .select line word arms =>
    atLine line
    let text ← expandText (outputOf run) word
    return ⟨← runArms run text manner arms, false⟩
  | .define _ name body =>
    modify fun state => { state with
      functions := (name, body) :: state.functions.filter (·.1 ≠ name)
      hashed := state.hashed.filter (·.1 ≠ name) }
    return ⟨0, false⟩

/-- Ends the shell after a clause if that is to be. -/
def endAfter (manner : Manner) (isChecked : Bool) : Run Unit := do
  let state ← get
  if isChecked && !manner.isTested && state.status ≠ 0 && state.hasOption 'e' then
    throw (.exit false)
  if manner.isLast then throw (.exit false)

/-- Runs a clause in its place between others: signals are attended to before it and after it, and
the shell may end by it. -/
def runInPlace (clause : Clause) (manner : Manner) : Run Nat := do
  if clause.isNothing || (← get).hasOption 'n' then
    attend run
    endAfter manner false
    return 0
  attend run
  match ← Routine.attempt (runClause run manner clause) with
  | .ok outcome =>
    setStatus outcome.status
    attend run
    endAfter manner outcome.isChecked
    return outcome.status
  | .error interrupt =>
    if interrupt.isJump then endAfter manner clause.isSimple
    throw interrupt

end

/-- Runs a clause in which clauses stand in clauses and functions call functions down to a
depth. -/
def evaluate : Nat → Runner
  | 0, _, _ => throw (.exit false)
  | depth + 1, clause, manner => runInPlace (evaluate depth) clause manner

def maxClauseDepth : Nat := 1000000

end SiteBoot.Shell
