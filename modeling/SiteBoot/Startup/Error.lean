import SiteBoot.Command
import SiteBoot.EnvFile.Overlay
import SiteBoot.Task
/-!
Why a start fails: an environment file, a task or the terminal command.
-/

namespace SiteBoot

/-- The cause of a failed start. -/
inductive StartError where
  | environmentFile (error : EnvFileError)
  | task (failure : TaskFailure)
  | launch (error : LaunchError)
  deriving DecidableEq

namespace StartError

def message : StartError → String
  | environmentFile error => "configuration error: " ++ error.message
  | task failure => failure.message
  | launch error => error.message

/-- The exit code that stands for a cause. -/
def exitCode : StartError → Int32
  | environmentFile _ => 1
  | task failure => failure.status.exitCode
  | launch error => error.exitCode

end StartError

end SiteBoot
