import SiteBoot.Shell.Expansion
import SiteBoot.Shell.Reader.Command
/-!
A shell among other processes: scripts that it runs, other processes that it starts and waits for,
signals that it attends to, and its own end. How a clause is run is left to an argument.
-/

namespace SiteBoot.Shell

section
variable (run : Runner)

/-! ### Scripts -/

/-- How many lines of commands a script may have. -/
def maxLines : Nat := 100000000

/-- Takes note of the texts that stand in commands that have been read. -/
def keepDocuments (documents : List (Nat × Document)) (line : Nat) : Run Unit :=
  modify fun state => { state with
    documents := documents ++ state.documents
    nextDocument := state.nextDocument + documents.length
    inputLine := line }

/-- Gives up because of what has been read up to a line. -/
def failAt {α : Type} (line : Nat) (message : Chars) : Run α := do
  modify fun state => { state with line := line }
  fail message

/-- Runs the lines of a text from some on, by at most so many lines. -/
def runLines (manner : Manner) : Nat → Script → Nat → Run Nat
  | 0, _, status => return status
  | bound + 1, script, status => do
    let state ← get
    match script.next state.aliases state.nextDocument with
    | .more | .endOfScript => return status
    | .fault line message _ => failAt line message.toList
    | .commands clause documents rest isEnd =>
      keepDocuments documents rest.line
      if clause.isNothing then runLines manner bound rest status
      else
        let manner' := { manner with isLast := manner.isLast && isEnd }
        runLines manner bound rest (← run clause manner')

/-- Runs a text, and says the code of its last command. -/
def runText (text : Chars) (manner : Manner) : Run Nat := do
  let before := (← get).inputLine
  restoring (fun _ after => { after with inputLine := before }) do
    runLines run manner maxLines ⟨text, true, 1⟩ 0

/-- How much of a script is read at once. -/
def scriptChunk : Nat := 8192

/-- Shows what has been read of a script, if that is asked for. -/
def showRead (text : Chars) : Run Unit := do
  if (← get).hasOption 'v' then
    let _ ← writeTo 2 text

/-- Runs the script behind a descriptor, by at most so many pieces and lines. -/
def runFrom (descriptor : Nat) : Nat → Script → Nat → Run Nat
  | 0, _, status => return status
  | bound + 1, script, status => do
    let state ← get
    match script.next state.aliases state.nextDocument with
    | .more =>
      match ← Routine.read descriptor scriptChunk with
      | .ok text =>
        runFrom descriptor bound
          { script with rest := script.rest ++ text.toChars, isLast := text.isEmpty } status
      | .error _ => runFrom descriptor bound { script with isLast := true } status
    | .endOfScript =>
      showRead (script.read [])
      return status
    | .fault line message rest =>
      showRead (script.readLines rest)
      failAt line message.toList
    | .commands clause documents rest _ =>
      keepDocuments documents rest.line
      showRead (script.read rest.rest)
      if clause.isNothing then runFrom descriptor bound rest status
      else
        match ← Routine.attempt (run clause ⟨false, false⟩) with
        | .ok status => runFrom descriptor bound rest status
        | .error (.back _) => return (← get).status
        | .error interrupt => throw interrupt

def runScript (descriptor : Nat) : Run Nat := runFrom run descriptor maxLines ⟨[], false, 1⟩ 0

/-! ### Signals -/

/-- Does what is to be done on a signal. -/
def handle (signal : Signal) (status : Nat) : Run Unit := do
  Routine.changeSystem (·.changeCurrent fun process =>
    { process with pending := process.pending.filter (· ≠ signal) })
  match (← get).traps.lookup signal.number with
  | none | some [] => return
  | some action =>
    match ← Routine.attempt (runText run action ⟨false, false⟩) with
    | .ok _ => setStatus status
    | .error interrupt =>
      match interrupt with
      | .back false | .leave _ | .again _ => setStatus status
      | _ => pure ()
      throw interrupt

/-- Does what is to be done on the signals that have come. -/
def attend : Run Unit := do
  let pending := (← Routine.system).current.pending
  if pending.isEmpty then return
  let before ← get
  let status := before.savedStatus.getD before.status
  modify fun state => { state with savedStatus := some status }
  for signal in pending.mergeSort (·.number ≤ ·.number) do handle run signal status
  modify fun state => { state with savedStatus := before.savedStatus }

/-! ### The end of the shell -/

/-- Takes back an exit code that was put aside. -/
def restoreStatus : Run Unit :=
  modify fun state => { state with status := state.savedStatus.getD state.status, savedStatus := none }

/-- Does what is to be done at the end of the shell, and ends it. -/
def leave {α : Type} (interrupt : Option Interrupt) : Run α := do
  if interrupt matches some (.exit true) then restoreStatus
  else modify fun state => { state with savedStatus := none }
  let state ← get
  match state.traps.lookup 0 with
  | none | some [] => pure ()
  | some action =>
    set { state with
      traps := state.traps.filter (·.1 ≠ 0), savedStatus := some state.status, command := none }
    match ← Routine.attempt (runText run action ⟨false, false⟩) with
    | .ok _ | .error (.exit true) | .error (.back _) | .error (.leave _) | .error (.again _) =>
      restoreStatus
    | .error _ => pure ()
  let _ ← flush
  Routine.finish (.exited (.ofNat ((← get).status % 256)))

/-! ### Other processes -/

/-- What a shell that was started by another one forgets of it. -/
def forgetOrigin (isInBackground : Bool) (state : State) : State :=
  { state with
    traps := state.traps.filter fun (number, action) => number ≠ 0 && action.isEmpty
    ignoredBefore :=
      if isInBackground then state.ignoredBefore ++ [.interrupt, .quit] else state.ignoredBefore
    jobs := []
    output := []
    savedStatus := if isInBackground then none else state.savedStatus }

/-- The process of a shell that was started by another one. One that nobody waits for ignores the
signals from the keyboard. -/
def Process.begun (isInBackground : Bool) (process : Process) : Process :=
  { process with
    caught := []
    ignored := if isInBackground then process.ignored ++ [.interrupt, .quit] else process.ignored }

/-- Starts a shell that does something, and gives its number. -/
def forkShell (isInBackground : Bool) (body : Run Nat) : Run Nat := do
  Routine.fork (do
      modify (forgetOrigin isInBackground)
      Routine.changeSystem (·.changeCurrent (Process.begun isInBackground))
      match ← Routine.attempt body with
      | .ok status =>
        setStatus status
        leave run none
      | .error interrupt => leave run (some interrupt))
    (fun (_ : Except Interrupt Unit) => 0)

/-- The exit code that a shell has for the end of a process. -/
def codeOf : ChildStatus → Nat
  | .exited code => code.toNat
  | .signaled signal _ => 128 + signal.number
  | .other => 1

/-- Says what has ended a process that was waited for, unless it is a common thing. -/
def reportEnd (status : ChildStatus) : Run Unit := do
  match status with
  | .signaled signal _ =>
    if signal ≠ .interrupt && signal ≠ .brokenPipe then
      let _ ← writeTo 2 (signal.description.toList ++ ['\n'])
  | _ => return

/-- Whether all processes of a job have ended. -/
def Job.isDone (job : Job) : Bool := job.processes.all (·.status.isSome)

/-- Takes note of the processes of jobs that have ended, and says what has ended those of one
job. -/
def noteJobs (reported : Option Nat) : Run Unit := do
  let system ← Routine.system
  let ended (process : JobProcess) : Option ChildStatus :=
    process.status.or ((system.process? process.number).bind Process.status)
  let jobs := (← get).jobs
  let news (job : Job) : List JobProcess := job.processes.filter fun process =>
    process.status.isNone && (ended process).isSome
  modify fun state => { state with
    jobs := jobs.map fun job => { job with
      processes := job.processes.map fun process => { process with status := ended process } } }
  Routine.changeSystem fun system =>
    (jobs.flatMap news).foldl (fun system process => system.forget process.number) system
  for job in jobs do
    if reported = some job.number then
      for process in news job do
        for status in ended process do reportEnd status

/-- Waits for processes that were started together, and gives the code of the last one. -/
def awaitAll (numbers : List Nat) : Run Nat := do
  let codes ← numbers.mapM fun number => do
    match ← Routine.awaitEnd number with
    | some status =>
      reportEnd status
      return codeOf status
    | none => return 127
  noteJobs none
  return codes.getLastD 0

/-- The number of the next job. One that has ended and whose code was asked for is forgotten for
it. -/
def State.nextJob (state : State) : Nat :=
  let free (number : Nat) : Bool :=
    match state.jobs.find? (·.number = number) with
    | some job => job.isWaited && job.isDone
    | none => true
  ((List.range (state.jobs.length + 1)).map (· + 1)).find? free |>.getD 1

/-- Forgets the job of which the next one takes the number. -/
def releaseJob : Run Unit := modify fun state => { state with
  jobs := state.jobs.filter (·.number ≠ state.nextJob) }

/-- Takes note of processes that nobody waits for. -/
def addJob (numbers : List Nat) : Run Unit := modify fun state =>
  let number := state.nextJob
  { state with
    jobs := ⟨number, numbers.map (⟨·, none⟩), false⟩ :: state.jobs.filter (·.number ≠ number)
    background := numbers.getLast? }

/-! ### Output of clauses -/

/-- A text without the line ends at its end. -/
def withoutLineEnds (text : Chars) : Chars := (text.reverse.dropWhile (· = '\n')).reverse

/-- The least descriptor that the shell uses for itself. -/
def leastOwn : Nat := 10

/-- Gives an open file a descriptor that the shell uses for itself. -/
def attachOwn (file : Nat) : Run Nat := Routine.withSystem fun system =>
  let descriptor := system.current.freeDescriptor leastOwn
  (descriptor, system.attach descriptor file true)

def close (descriptor : Nat) : Run Unit := Routine.changeSystem (·.close descriptor)

/-- What a clause writes, without the line ends at its end. -/
def outputOf (clause : Clause) : Run Chars := do
  if clause.isNothing then return []
  releaseJob
  let (reader, writer) ← Routine.withSystem System.makePipe
  let readEnd ← attachOwn reader
  let writeEnd ← attachOwn writer
  let number ← forkShell run false do
    close readEnd
    Routine.changeSystem (·.attach 1 writer false)
    close writeEnd
    run clause ⟨true, false⟩
  close writeEnd
  let text ← Routine.readAll readEnd
  close readEnd
  let status ← awaitAll [number]
  modify fun state => { state with wordStatus := status }
  match text with
  | .ok text => return withoutLineEnds (text.toChars.filter (· ≠ '\x00'))
  | .error _ => return []

end

end SiteBoot.Shell
