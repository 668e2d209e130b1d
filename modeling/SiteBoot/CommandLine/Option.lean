import SiteBoot.Log.Event
import SiteBoot.ProcessEnvironment
import SiteBoot.Settings.Basic
/-!
The options of the program: their names, the variables that stand in for them, and what their
values must be.
-/

namespace SiteBoot.CommandLine

/-- An option that takes a value. -/
inductive OptionName where
  | config
  | program
  | arg
  | workdir
  | logFile
  | lockFile
  | profile
  | overrideFile
  | format
  | level
  deriving DecidableEq, Repr

namespace OptionName

/-- The name on the command line, after two hyphens. -/
def text : OptionName → String
  | config => "config"
  | program => "invoke-bin"
  | arg => "invoke-arg"
  | workdir => "workdir"
  | logFile => "invoke-log"
  | lockFile => "lock-file"
  | profile => "profile"
  | overrideFile => "override-env"
  | format => "log-format"
  | level => "log-level"

/-- Every option, in the order in which variables are looked up. -/
def all : List OptionName :=
  [config, program, arg, workdir, logFile, lockFile, profile, overrideFile, format, level]

def ofText? (text : String) : Option OptionName := all.find? (·.text = text)

/-- The process variable that is used where the option is not given. -/
def standIn? : OptionName → Option String
  | config => some "ENTRYPOINT_CONFIG"
  | program => some "ENTRYPOINT_INVOKE_BIN"
  | arg => none
  | workdir => some "ENTRYPOINT_WORKDIR"
  | logFile => some "ENTRYPOINT_INVOKE_LOG"
  | lockFile => some "ENTRYPOINT_LOCK_FILE"
  | profile => some "ENTRYPOINT_PROFILE"
  | overrideFile => some "ENTRYPOINT_OVERRIDE_ENV"
  | format => some "ENTRYPOINT_LOG_FORMAT"
  | level => some "ENTRYPOINT_LOG_LEVEL"

theorem ofText?_text (name : OptionName) : ofText? name.text = some name := by
  cases name <;> decide

end OptionName

/-- Why a command line is not accepted, or is a question of its own. -/
inductive UsageError where
  | help
  | version
  /-- A value is missing, empty or not one of those that are possible. -/
  | invalidValue
  /-- A value that must be text is not. -/
  | invalidText
  /-- An option that may be given once is given twice. -/
  | repeated
  /-- A value stands with an option that takes none. -/
  | unneededValue
  | unknownOption
  deriving DecidableEq, Repr

/-- The exit code of the program for an error: a question is none. -/
def UsageError.exitCode : UsageError → UInt8
  | help | version => 0
  | _ => 2

/-- The line that answers a question for the version. -/
def UsageError.answer? : UsageError → Option String
  | version => some (programName ++ " " ++ programVersion ++ "\n")
  | _ => none

/-- The options that are given, and the words of the command. -/
structure Options where
  config : Option RawText
  program : Option RawText
  args : List String
  workdir : Option RawText
  logFile : Option RawText
  lockFile : Option RawText
  profile : Option RawText
  overrideFile : Option RawText
  format : Option LogFormat
  level : Option String
  command : List String
  deriving DecidableEq

namespace Options

def nothing : Options :=
  ⟨none, none, [], none, none, none, none, none, none, none, []⟩

/-- Whether an option is given that may not be given again. -/
def has (options : Options) : OptionName → Bool
  | .config => options.config.isSome
  | .program => options.program.isSome
  | .arg => false
  | .workdir => options.workdir.isSome
  | .logFile => options.logFile.isSome
  | .lockFile => options.lockFile.isSome
  | .profile => options.profile.isSome
  | .overrideFile => options.overrideFile.isSome
  | .format => options.format.isSome
  | .level => options.level.isSome

def readPath (value : RawText) : Except UsageError RawText :=
  if value.isEmpty then .error .invalidValue else .ok value

def readText (value : RawText) : Except UsageError String :=
  match value.text? with
  | some text => .ok text
  | none => .error .invalidText

/-- A value that is the name of a layout. -/
def readFormat (value : RawText) : Except UsageError LogFormat :=
  match value.text?.bind LogFormat.ofName? with
  | some format => .ok format
  | none => .error .invalidValue

/-- The options with one more value, if it is a value for its option. -/
def set (options : Options) (name : OptionName) (value : RawText) : Except UsageError Options :=
  match name with
  | .config => return { options with config := some (← readPath value) }
  | .program => return { options with program := some (← readPath value) }
  | .arg => return { options with args := options.args ++ [← readText value] }
  | .workdir => return { options with workdir := some (← readPath value) }
  | .logFile => return { options with logFile := some (← readPath value) }
  | .lockFile => return { options with lockFile := some (← readPath value) }
  | .profile => return { options with profile := some (← readPath value) }
  | .overrideFile => return { options with overrideFile := some (← readPath value) }
  | .format => return { options with format := some (← readFormat value) }
  | .level => return { options with level := some (← readText value) }

end Options

end SiteBoot.CommandLine
