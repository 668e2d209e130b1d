import SiteBoot.Mode
/-!
The phases of a start.
-/

namespace SiteBoot

/-- How far a start has come. -/
inductive Phase where
  | init
  | tasksRunning
  | modeSelected (mode : Mode)
  /-- The production tasks, the first-start tasks among them. -/
  | productionPrep
  | exec
  | failed
  deriving DecidableEq, Repr

def Phase.display : Phase → String
  | init => "init"
  | tasksRunning => "tasks-running"
  | modeSelected mode => "mode-selected(" ++ mode.name ++ ")"
  | productionPrep => "production-prep"
  | exec => "exec"
  | failed => "failed"

end SiteBoot
