import SiteBoot.Command
import SiteBoot.Startup.Phase
import SiteBoot.Task
import SiteBoot.Text.RawText
/-!
Log events: what a start reports, each with its level, area, message and fields. An event is
kept as what happened; the functions here are the one place with its wording.
-/

namespace SiteBoot

/-- How severe an event is. -/
inductive Level where
  | error
  | warn
  | info
  | debug
  | trace
  deriving DecidableEq, Repr

namespace Level

/-- How much of the log it takes to show a level: 1 for errors alone, 5 for everything. -/
def verbosity : Level → Nat
  | error => 1
  | warn => 2
  | info => 3
  | debug => 4
  | trace => 5

def name : Level → String
  | error => "ERROR"
  | warn => "WARN"
  | info => "INFO"
  | debug => "DEBUG"
  | trace => "TRACE"

end Level

/-- The value of a field of an event. -/
inductive FieldValue where
  | text (value : String)
  | number (value : Int)
  deriving DecidableEq, Repr

/-- The variables that every start reports, in this order. -/
def reportedVariables : List String :=
  ["DOCKER_ENV", "DATABASE_URL", "GEODATABASE_URL", "SITEURL", "ALLOWED_HOSTS",
    "GEOSERVER_PUBLIC_LOCATION", "MONITORING_ENABLED", "MONITORING_HOST_NAME",
    "MONITORING_SERVICE_NAME", "MONITORING_DATA_TTL"]

/-- The name and version that the program reports. -/
def programName : String := "geonode-entrypoint"

def programVersion : String := "0.1.0"

/-- Something that a start reports. -/
inductive Event where
  | starting
  | settingsLoaded (program lockFile profile overrideFile : RawText)
  | taskRunning (task : Task)
  | taskDone (task : Task)
  | environmentFileMissing (path : RawText)
  | environmentLineSkipped (path : RawText) (line : String)
  | environmentVariableKept (path : RawText) (name : String)
  | environmentFileApplied (path : RawText) (count : Nat)
  | variableReported (name value : String)
  | modeSelected (phase : Phase)
  | firstStart (lockFile : RawText)
  | alreadyInitialized (lockFile : RawText)
  | launching (phase : Phase) (command : Command)
  | startupAborted (phase failedIn : Phase) (exitCode : Int32) (error : String)
  | taskLogUnavailable (logFile : RawText) (failure : Failure)
  | taskOutputLogged (failure : TaskFailure) (logFile : RawText)
  deriving DecidableEq

namespace Event

def level : Event → Level
  | startupAborted .. | taskOutputLogged .. => .error
  | environmentFileMissing _ | taskLogUnavailable .. => .warn
  | settingsLoaded .. | environmentLineSkipped .. | environmentFileApplied .. => .debug
  | environmentVariableKept .. => .trace
  | _ => .info

/-- The area that reports the event, by which filters select. -/
def area : Event → String
  | starting | settingsLoaded .. => "geonode_entrypoint"
  | environmentFileMissing _ | environmentLineSkipped .. | environmentVariableKept .. |
    environmentFileApplied .. => "geonode_entrypoint::config::env"
  | variableReported .. => "geonode_entrypoint::observability::diagnostics"
  | taskLogUnavailable .. | taskOutputLogged .. => "geonode_entrypoint::tasks::invoke"
  | _ => "geonode_entrypoint::lifecycle::startup"

def message : Event → String
  | starting => programName ++ " v" ++ programVersion ++ " starting"
  | settingsLoaded .. => "Configuration loaded"
  | taskRunning _ => "Running task"
  | taskDone task => task.name ++ " tasks done"
  | environmentFileMissing _ => "Environment file not found, skipping"
  | environmentLineSkipped .. => "Skipping non-assignment line"
  | environmentVariableKept .. => "Keeping unexported variable local"
  | environmentFileApplied .. => "Environment file applied"
  | variableReported name value => name ++ "=" ++ value
  | modeSelected _ => "Startup mode selected"
  | firstStart _ => "First start, running one-time initialization"
  | alreadyInitialized _ => "Already initialized, skipping one-time initialization"
  | launching .. => "Launching terminal command"
  | startupAborted .. => "Startup aborted"
  | taskLogUnavailable .. => "Cannot open invoke log, task output goes to stdout"
  | taskOutputLogged failure _ =>
    "Task failed (" ++ failure.status.display ++ "), see the invoke log for its output"

def fields : Event → List (String × FieldValue)
  | starting => []
  | settingsLoaded program lockFile profile overrideFile =>
    [("invoke", .text program.display), ("lock_file", .text lockFile.display),
      ("profile", .text profile.display), ("override_env", .text overrideFile.display)]
  | taskRunning task | taskDone task => [("task", .text task.name)]
  | environmentFileMissing path => [("path", .text path.display)]
  | environmentLineSkipped path line => [("path", .text path.display), ("line", .text line)]
  | environmentVariableKept path name => [("path", .text path.display), ("key", .text name)]
  | environmentFileApplied path count =>
    [("path", .text path.display), ("loaded", .number count)]
  | variableReported name _ => [("key", .text name)]
  | modeSelected phase => [("phase", .text phase.display)]
  | firstStart lockFile | alreadyInitialized lockFile =>
    [("lock_file", .text lockFile.display)]
  | launching phase command =>
    [("phase", .text phase.display), ("mode", .text command.mode.name),
      ("command", .text command.display)]
  | startupAborted phase failedIn exitCode error =>
    [("phase", .text phase.display), ("failed_in", .text failedIn.display),
      ("exit_code", .number exitCode), ("error", .text error)]
  | taskLogUnavailable logFile failure =>
    [("log_file", .text logFile.display), ("error", .text failure.message)]
  | taskOutputLogged failure logFile =>
    [("task", .text failure.task.name), ("log_file", .text logFile.display)]

/-- The names of the fields that filters can ask for. The message is one, and a task that is done
has the time it took. -/
def fieldNames (event : Event) : List String :=
  let names := "message" :: event.fields.map Prod.fst
  match event with
  | taskDone _ => names ++ ["elapsed_ms"]
  | _ => names

end Event

/-- The events at a level or a more severe one. -/
def eventsUpTo (level : Level) (events : List Event) : List Event :=
  events.filter (·.level.verbosity ≤ level.verbosity)

end SiteBoot
