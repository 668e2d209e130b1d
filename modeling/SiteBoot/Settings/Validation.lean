import SiteBoot.LogFilter.Filter
import SiteBoot.Settings.Basic
/-!
Validation of settings: no path is empty and the level is a list of filter directives. Every
setting that is wrong is named, in a fixed order.
-/

namespace SiteBoot

/-- A setting that validation looks at. -/
inductive SettingName where
  | program
  | logFile
  | lockFile
  | profile
  | overrideFile
  | workdir
  | level
  deriving DecidableEq, Repr

def SettingName.display : SettingName → String
  | program => "invoke.program"
  | logFile => "invoke.log_file"
  | lockFile => "paths.lock_file"
  | profile => "paths.profile"
  | overrideFile => "paths.override_env"
  | workdir => "invoke.workdir"
  | level => "logging.level"

/-- What can be wrong with a setting. -/
inductive SettingFault where
  | empty
  | badDirective (error : LogFilter.DirectiveError)
  deriving DecidableEq, Repr

def SettingFault.message : SettingFault → String
  | empty => "must not be empty"
  | badDirective error => error.message

/-- A setting that is wrong. -/
structure SettingError where
  name : SettingName
  fault : SettingFault
  deriving DecidableEq, Repr

def SettingError.message (error : SettingError) : String :=
  error.name.display ++ ": " ++ error.fault.message

/-- The error of a path that is empty. -/
def SettingError.ofPath (name : SettingName) (path : RawText) : List SettingError :=
  if path.isEmpty then [⟨name, .empty⟩] else []

def Settings.faults (settings : Settings) : List SettingError :=
  SettingError.ofPath .program settings.tasks.program ++
  SettingError.ofPath .logFile settings.tasks.logFile ++
  SettingError.ofPath .lockFile settings.paths.lockFile ++
  SettingError.ofPath .profile settings.paths.profile ++
  SettingError.ofPath .overrideFile settings.paths.overrideFile ++
  (match settings.tasks.workdir with
    | some path => SettingError.ofPath .workdir path
    | none => []) ++
  match LogFilter.Directive.listOfText settings.log.level.toList with
  | .ok _ => []
  | .error error => [⟨.level, .badDirective error⟩]

/-- Why there are no settings to start with. -/
inductive SettingsError where
  | unreadable (path : RawText) (failure : Failure)
  /-- The file is not what it should be. -/
  | notUnderstood
  | invalid (errors : List SettingError)
  deriving DecidableEq

def SettingsError.message : SettingsError → String
  | unreadable path failure => "cannot read " ++ path.display ++ ": " ++ failure.message
  | notUnderstood => "parse error"
  | invalid errors =>
    "validation failed: " ++ ", ".intercalate (errors.map SettingError.message)

/-- The settings themselves, if nothing is wrong with them. -/
def Settings.validate (settings : Settings) : Except SettingsError Settings :=
  if settings.faults.isEmpty then .ok settings else .error (.invalid settings.faults)

end SiteBoot
