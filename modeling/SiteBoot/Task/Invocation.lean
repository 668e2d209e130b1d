import SiteBoot.Child.Basic
import SiteBoot.Settings.Basic
import SiteBoot.Startup.Sequence
/-!
Running a task as a child process. Its output goes to the log file, or to the streams that the
program was given if the environment asks for that or the log file cannot be opened.
-/

namespace SiteBoot

/-- Whether task output is to come out of the program's own streams. -/
def Environment.wantsOutputInherited (env : Environment) : Bool := env.flag "INVOKE_LOG_STDOUT"

/-- Where output goes, with the files after that was opened and what is reported. -/
structure OpenedOutput where
  targets : OutputTargets
  files : FileTree
  events : List Event

namespace TaskSettings

def request (settings : TaskSettings) (task : Task) (env : Environment) : ChildRequest where
  program := settings.program
  args := settings.args.map RawText.ofString ++ [.ofString task.name]
  env := env.forChild
  workdir := settings.workdir

/-- Opens the log to append to, for both streams of a child. -/
def openLog (settings : TaskSettings) (files : FileTree) :
    Except Failure (OutputTargets × FileTree) := do
  let (place, files) ← files.openToWrite settings.logFile
  return (⟨.append place, .append place⟩, files)

/-- Opens what the output of a task goes to. -/
def openOutput (settings : TaskSettings) (env : Environment) (files : FileTree) : OpenedOutput :=
  if env.wantsOutputInherited then ⟨.inherited, files, []⟩
  else match settings.openLog files with
    | .ok (targets, files) => ⟨targets, files, []⟩
    | .error failure => ⟨.inherited, files, [.taskLogUnavailable settings.logFile failure]⟩

end TaskSettings

/-- What is reported of a child's end: that the output of a failed task is in the log. -/
def reportedFailure (settings : TaskSettings) (env : Environment)
    (result : Except TaskFailure Unit) : List Event :=
  match result with
  | .ok () => []
  | .error failure =>
    if env.wantsOutputInherited then [] else [.taskOutputLogged failure settings.logFile]

def TaskSettings.runTask {κ : Type} (settings : TaskSettings) (kernel : Kernel κ) (task : Task)
    (env : Environment) (machine : Machine κ) : TaskRun (Machine κ) :=
  let opened := settings.openOutput env machine.files
  let outcome := kernel.spawn (settings.request task env) opened.targets opened.files machine.rest
  let machine := { machine with files := outcome.files, rest := outcome.rest }
  match outcome.result with
  | .error failure =>
    let reason := settings.program.display ++ ": " ++ failure.message
    ⟨machine, opened.events, .error ⟨task, .notStarted reason⟩⟩
  | .ok run =>
    let result := run.status.classify task
    ⟨{ machine with written := machine.written ++ run.writes },
      opened.events ++ reportedFailure settings env result, result⟩

/-- The host on which every task is a child of the program. -/
def TaskSettings.host {κ : Type} (settings : TaskSettings) (kernel : Kernel κ)
    (process : ProcessEnvironment) : Host (Machine κ) where
  files := Machine.files
  process := process
  runTask := settings.runTask kernel

end SiteBoot
