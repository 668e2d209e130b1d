import SiteBoot.Shell.Builtin.Basic
/-!
The builtins for other processes: those that the shell has started and does not wait for, and those
that are sent signals.
-/

namespace SiteBoot.Shell

/-! ### Jobs -/

/-- The job that a word after a percent sign names. -/
def jobNamed (word : Chars) : Run Job := do
  let jobs := (← get).jobs
  let chosen (job : Option Job) (complaint : String) : Run Job :=
    match job with
    | some job => return job
    | none => fail complaint.toList
  match word with
  | ['%'] | ['%', '+'] | ['%', '%'] => chosen jobs.head? "No current job"
  | ['%', '-'] => chosen jobs[1]? "No previous job"
  | '%' :: name =>
    match (if name.all Char.isDigit then jobs.find? (decimal ·.number = name) else none) with
    | some job => return job
    | none => fail ("No such job: ".toList ++ word)
  | word => fail ("No such job: ".toList ++ word)

/-- The exit code of a job by its last process. -/
def Job.code (job : Job) : Nat :=
  ((job.processes.getLast?.bind JobProcess.status).map codeOf).getD 0

/-- What is said of the state of a job. -/
def Job.stateText (job : Job) : Chars :=
  if !job.isDone then "Running".toList
  else match job.processes.getLast?.bind JobProcess.status with
    | some (.signaled signal _) => signal.description.toList
    | some (.exited code) =>
      if code = 0 then "Done".toList
      else "Done(".toList ++ decimal code.toNat ++ [')']
    | _ => "Done".toList

/-- The lines about a job, where a sign marks the last two. -/
def Job.lines (job : Job) (sign : Char) (withNumbers : Bool) : Chars :=
  let front := '[' :: decimal job.number ++ [']', ' ', sign, ' ']
  let fill (line : Chars) : Chars := line ++ List.replicate (max 1 (33 - line.length)) ' '
  let numberOf (process : JobProcess) : Chars := decimal process.number ++ [' ']
  let others := job.processes.tail
  if withNumbers then
    let first := fill (front ++ (job.processes.head?.map numberOf).getD [] ++ job.stateText)
    let rest := others.map fun process =>
      let start := List.replicate front.length ' ' ++ numberOf process
      " |\n".toList ++ start ++ List.replicate (max 1 (33 - start.length)) ' '
    first ++ rest.flatten ++ ['\n']
  else fill (front ++ job.stateText) ++ (others.map fun _ => " | ".toList).flatten ++ ['\n']

/-- Says something about a job, and forgets it if it has ended. -/
def showJob (withNumbers onlyNumber : Bool) (job : Job) : Run Unit := do
  let jobs := (← get).jobs
  let isAt (i : Nat) : Bool := jobs[i]?.any (·.number = job.number)
  if onlyNumber then print ((job.processes.head?.map (decimal ·.number)).getD [] ++ ['\n'])
  else
    print (job.lines (if isAt 0 then '+' else if isAt 1 then '-' else ' ') withNumbers)
    if job.isDone then
      modify fun state => { state with jobs := state.jobs.filter (·.number ≠ job.number) }

def jobsBuiltin (words : List Chars) : Run Nat := do
  let (options, words) ← readOptions "lp" words
  let has (letter : Char) : Bool := options.any (·.1 = letter)
  noteJobs none
  if words.isEmpty then
    for job in (← get).jobs do showJob (has 'l') (has 'p') job
  else
    for word in words do showJob (has 'l') (has 'p') (← jobNamed word)
  return 0

/-- Jobs can be continued only where they are under control, which they never are. -/
def continueBuiltin (words : List Chars) : Run Nat := do
  let words ← withoutOptions words
  let named := words.head?
  let _ ← jobNamed (named.getD ['%'])
  fail ("job ".toList ++ named.getD "(null)".toList ++ " not created under job control".toList)

/-! ### Waiting -/

/-- Waits until the job of a number has ended or a signal has come, by at most so many steps, and
gives the code for the signal if it was one. What has ended a process is said if that is asked. -/
def awaitJob (number : Nat) (isReported : Bool) : Nat → Run (Option Nat)
  | 0 => return none
  | bound + 1 => do
    noteJobs (if isReported then some number else none)
    let job := (← get).jobs.find? (·.number = number)
    match (job.map Job.processes).getD [] |>.find? (·.status.isNone) with
    | none => return none
    | some process =>
      match (← Routine.system).current.pending.getLast? with
      | some signal => return some (128 + signal.number)
      | none =>
        Routine.await (.endedOrSignal process.number)
        awaitJob number isReported bound

/-- Takes note that the code of a job has been asked for. -/
def markWaited (number : Nat) : Run Unit := modify fun state => { state with
  jobs := state.jobs.map fun job =>
    if job.number = number then { job with isWaited := true } else job }

def maxWaits : Nat := 1000000

/-- Waits for jobs, and says the code of the last one that there is. -/
def awaitNamed : List Chars → Nat → Run Nat
  | [], status => return status
  | word :: rest, status => do
    let job? ←
      if word.head? = some '%' then do pure (some (← jobNamed word))
      else do
        let number ← natural word
        pure ((← get).jobs.find? fun job => job.processes.getLast?.any (·.number = number))
    match job? with
    | none => awaitNamed rest status
    | some job =>
      match ← awaitJob job.number true maxWaits with
      | some code => return code
      | none =>
        markWaited job.number
        let code := (((← get).jobs.find? (·.number = job.number)).map Job.code).getD status
        awaitNamed rest code

/-- Waits for jobs until there is a signal. -/
def awaitJobs : List Nat → Run Nat
  | [] => return 0
  | number :: rest => do
    match ← awaitJob number false maxWaits with
    | some code => return code
    | none =>
      markWaited number
      awaitJobs rest

def waitBuiltin (words : List Chars) : Run Nat := do
  let words ← withoutOptions words
  if words.isEmpty then awaitJobs ((← get).jobs.map Job.number)
  else awaitNamed words 127

/-! ### Signals -/

/-- What `kill` says of its use. -/
def killUsage : Chars :=
  "Usage: kill [-s sigspec | -signum | -sigspec] [pid | job]... or\nkill -l [exitstatus]".toList

/-- The signal that the words of `kill` begin with, whether signals are to be listed, and the other
words. -/
def killOptions (words : List Chars) : Run (Option Nat × Bool × List Chars) := do
  match words with
  | ('-' :: name) :: rest =>
    match signalNumber? name 1 with
    | some number => return (some number, false, rest)
    | none =>
      let (options, rest) ← readOptions "ls:" words
      let named ← options.filterMapM fun (letter, name) => do
        if letter = 'l' then return none
        match signalNumber? name 1 with
        | some number => return some number
        | none => fail ("invalid signal number or name: ".toList ++ name)
      return (named.getLast?, options.any (·.1 = 'l'), rest)
  | words => return (none, false, words)

def listSignals (words : List Chars) : Run Nat := do
  match words with
  | [] =>
    print "0\n".toList
    for n in List.range Signal.greatest do print ((Signal.nameOf (n + 1)).toList ++ ['\n'])
    return 0
  | word :: _ =>
    let number ← natural word
    let signal := if 128 < number then number - 128 else number
    if signal = 0 || Signal.greatest < signal then
      fail ("invalid signal number or exit status: ".toList ++ word)
    print ((Signal.nameOf signal).toList ++ ['\n'])
    return 0

/-- Sends a signal to a process, where number 0 only asks whether it is there, and says whether
that was possible. -/
def sendTo (number : Nat) (signal : Nat) : Run Bool := do
  match Signal.ofNumber? signal with
  | some signal => Routine.kill number signal
  | none => return ((← Routine.system).process? number).isSome

/-- Sends a signal to the process that a word names. A job that is not under control is no group
of processes that could be sent one. -/
def sendToNamed (signal : Nat) (word : Chars) : Run Bool := do
  match word with
  | '%' :: _ =>
    let _ ← jobNamed word
    return false
  | '-' :: number =>
    let _ ← natural number
    return false
  | word => do sendTo (← natural word) signal

def killBuiltin (words : List Chars) : Run Nat := do
  if words.isEmpty then fail killUsage
  let (signal, isList, words) ← killOptions words
  if isList then
    if signal.isSome then fail killUsage
    listSignals words
  else
    if words.isEmpty then fail killUsage
    let mut status := 0
    for word in words do
      if !(← sendToNamed (signal.getD Signal.terminate.number) word) then
        warn "No such process\n".toList
        status := 1
    return status

end SiteBoot.Shell
