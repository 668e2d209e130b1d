import SiteBoot.Files.Change
import SiteBoot.Startup.Sequence
/-!
A rehearsal of a start: tasks that change files and fail by a script, and a launcher that can be
told to fail.
-/

namespace SiteBoot

/-- What happens when tasks are called. -/
structure Script where
  changes : Task → FileChange
  failures : Task → Option TaskStatus

/-- The host on which tasks follow a script. -/
def Script.host (script : Script) (process : ProcessEnvironment) : Host FileTree where
  files := id
  process := process
  runTask task _ files :=
    { state := files.change (script.changes task)
      events := []
      result := match script.failures task with
        | some status => .error ⟨task, status⟩
        | none => .ok () }

/-- The launcher that succeeds, or fails for the given reason. -/
def rehearsedLauncher (failure : Option Failure) : Launcher FileTree := fun command _ files =>
  match failure with
  | some failure => (.error (.notExecuted command.program failure), files)
  | none => (.ok (), files)

end SiteBoot
