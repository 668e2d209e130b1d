import SiteBoot.Settings.Basic
import SiteBoot.Startup.Error
/-!
The start of a site: its tasks in their order, the environment files between them, and the
terminal command at the end. What runs the tasks and what launches the command are parameters,
functions on a state that the files are seen through; a start is a computation on that state that
writes down each of its steps.
-/

namespace SiteBoot

/-- One call of a task: the state after it, what it reported, and whether it failed. -/
structure TaskRun (σ : Type) where
  state : σ
  events : List Event
  result : Except TaskFailure Unit

/-- What a start depends on beside its settings. -/
structure Host (σ : Type) where
  /-- The files as they are in a state. -/
  files : σ → FileTree
  /-- The environment that the program itself was given. -/
  process : ProcessEnvironment
  /-- Runs a task to its end in an environment. -/
  runTask : Task → Environment → σ → TaskRun σ

/-- Hands over to a command in an environment. -/
abbrev Launcher (σ : Type) := Command → Environment → σ → Except LaunchError Unit × σ

/-- One call of a task, with the environment it was given and what became of it. -/
structure TaskCall where
  task : Task
  env : Environment
  events : List Event
  result : Except TaskFailure Unit

/-- A step of a start. -/
inductive Step where
  | logged (event : Event)
  | called (call : TaskCall)
  | launched (command : Command) (env : Environment) (result : Except LaunchError Unit)

namespace Step

/-- The call of a task that a step is, if it is one. -/
def call? : Step → Option TaskCall
  | called call => some call
  | _ => none

/-- The attempt to hand over that a step is, if it is one. -/
def launch? : Step → Option (Command × Environment)
  | launched command env _ => some (command, env)
  | _ => none

def events : Step → List Event
  | logged event => [event]
  | called call => call.events
  | launched .. => []

end Step

/-- A start that has come to its terminal command. -/
structure Ready where
  command : Command
  env : Environment
  deriving DecidableEq

/-- How far a start has come. -/
structure Progress (σ : Type) where
  state : σ
  phase : Phase
  steps : List Step

abbrev Start (σ : Type) := ExceptT StartError (StateM (Progress σ))

namespace Start

variable {σ : Type}

def report (event : Event) : Start σ Unit :=
  modify fun progress => { progress with steps := progress.steps ++ [.logged event] }

def enter (phase : Phase) : Start σ Unit := modify fun progress => { progress with phase := phase }

def runTask (host : Host σ) (env : Environment) (task : Task) : Start σ Unit := do
  report (.taskRunning task)
  let progress ← get
  let run := host.runTask task env progress.state
  let call := Step.called ⟨task, env, run.events, run.result⟩
  set { progress with state := run.state, steps := progress.steps ++ [call] }
  match run.result with
  | .ok () => report (.taskDone task)
  | .error failure => throw (.task failure)

/-- Runs tasks up to the first that fails. -/
def runTasks (host : Host σ) (env : Environment) : List Task → Start σ Unit
  | [] => pure ()
  | task :: rest => do
    runTask host env task
    runTasks host env rest

/-- Lays the environment file at a path over an environment. -/
def overlay (host : Host σ) (env : Environment) (path : RawText) : Start σ Environment := do
  let progress ← get
  let (result, events) := env.overlayFile host.process (host.files progress.state) path
  set { progress with steps := progress.steps ++ events.map Step.logged }
  match result with
  | .ok env => return env
  | .error error => throw (.environmentFile error)

def reportVariables (env : Environment) : List String → Start σ Unit
  | [] => pure ()
  | name :: rest => do
    report (.variableReported name (env.value name))
    reportVariables env rest

def requireCommand (command : Except LaunchError Command) : Start σ Command :=
  match command with
  | .ok command => return command
  | .error error => throw (.launch error)

def prepareProduction (host : Host σ) (env : Environment) (lockFile : RawText) :
    Start σ Unit := do
  runTask host env .prepare
  let progress ← get
  if env.isFirstStart (host.files progress.state) lockFile then
    report (.firstStart lockFile)
    runTasks host env Task.firstStart
  else
    report (.alreadyInitialized lockFile)
  runTasks host env Task.productionSuffix

/-- Runs every task that the environment asks for, and finds the terminal command. -/
def sequence (host : Host σ) (paths : StartPaths) (base : Environment)
    (passthrough : List String) : Start σ Ready := do
  enter .tasksRunning
  runTasks host base Task.beforeEnvironment
  let env ← overlay host base paths.profile
  let env ← overlay host env paths.overrideFile
  reportVariables env reportedVariables
  runTasks host env Task.afterEnvironment
  let mode := Mode.ofEnvironment env
  enter (.modeSelected mode)
  report (.modeSelected (.modeSelected mode))
  match mode with
  | .development =>
    return ⟨← requireCommand (Command.ofWords mode passthrough), env⟩
  | .worker =>
    return ⟨← requireCommand (Command.ofLine mode (env.value "CELERY_CMD")), env⟩
  | .production => do
    enter .productionPrep
    prepareProduction host env paths.lockFile
    return ⟨← requireCommand (Command.ofLine mode (env.value "UWSGI_CMD")), env⟩

def launch (launcher : Launcher σ) (ready : Ready) : Start σ Unit := do
  enter .exec
  report (.launching .exec ready.command)
  let progress ← get
  let (result, state) := launcher ready.command ready.env progress.state
  set { progress with
    state := state
    steps := progress.steps ++ [Step.launched ready.command ready.env result] }
  match result with
  | .ok () => return
  | .error error => throw (.launch error)

end Start

/-- A start that has ended: what it came to, its steps in order, and the state after it. -/
structure Ended (σ α : Type) where
  result : Except StartError α
  steps : List Step
  state : σ

namespace Ended

variable {σ α : Type}

/-- The events that were reported, by the start and by its tasks. -/
def events (ended : Ended σ α) : List Event := ended.steps.flatMap Step.events

def taskCalls (ended : Ended σ α) : List TaskCall := ended.steps.filterMap Step.call?

def calls (ended : Ended σ α) : List (Task × Environment) :=
  ended.taskCalls.map fun call => (call.task, call.env)

def launches (ended : Ended σ α) : List (Command × Environment) :=
  ended.steps.filterMap Step.launch?

end Ended

variable {σ : Type}

/-- Runs the tasks and finds the terminal command, but does not hand over to it. -/
def prepareSite (host : Host σ) (paths : StartPaths) (base : Environment)
    (passthrough : List String) (state : σ) : Ended σ Ready :=
  let (result, progress) := (Start.sequence host paths base passthrough).run ⟨state, .init, []⟩
  ⟨result, progress.steps, progress.state⟩

/-- Runs the tasks and hands over to the terminal command. A failure is reported once, at the
end, with the phase that it came in. -/
def startSite (host : Host σ) (launcher : Launcher σ) (paths : StartPaths) (base : Environment)
    (passthrough : List String) (state : σ) : Ended σ Unit :=
  let start : Start σ Unit := do
    let ready ← Start.sequence host paths base passthrough
    Start.launch launcher ready
  let (result, progress) := start.run ⟨state, .init, []⟩
  match result with
  | .ok () => ⟨.ok (), progress.steps, progress.state⟩
  | .error error =>
    let aborted := Event.startupAborted .failed progress.phase error.exitCode error.message
    ⟨.error error, progress.steps ++ [.logged aborted], progress.state⟩

end SiteBoot
