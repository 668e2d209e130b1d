import SiteBoot.ProcessEnvironment
import SiteBoot.Files.Tree
/-!
Settings: how tasks are run, which files a start reads, and what its log looks like. Every
setting has a default, so none has to be given.
-/

namespace SiteBoot

/-- How tasks are run. -/
structure TaskSettings where
  program : RawText
  /-- Arguments before the name of the task. -/
  args : List String
  /-- The working directory of tasks; that of the program itself if none is given. -/
  workdir : Option RawText
  /-- The file for the output of tasks. -/
  logFile : RawText
  deriving DecidableEq

/-- The files that a start reads. -/
structure StartPaths where
  lockFile : RawText
  /-- The environment file that is read first. -/
  profile : RawText
  /-- The environment file that is read second, over the first. -/
  overrideFile : RawText
  deriving DecidableEq

/-- The layout of the log. -/
inductive LogFormat where
  | full
  | compact
  | pretty
  | json
  deriving DecidableEq, Repr

namespace LogFormat

def name : LogFormat → String
  | full => "full"
  | compact => "compact"
  | pretty => "pretty"
  | json => "json"

def ofName? (name : String) : Option LogFormat :=
  [full, compact, pretty, json].find? (·.name = name)

theorem ofName?_name (format : LogFormat) : ofName? format.name = some format := by
  cases format <;> decide

end LogFormat

/-- What the log shows, and how. -/
structure LogSettings where
  level : String
  format : LogFormat
  deriving DecidableEq

structure Settings where
  tasks : TaskSettings
  paths : StartPaths
  log : LogSettings
  deriving DecidableEq

namespace Settings

/-- The home directory: that of the process, or of root if it has none. -/
def home (process : ProcessEnvironment) : RawText :=
  match process.get? "HOME" with
  | some home => if home.isEmpty then "/root" else home
  | none => "/root"

def defaultTasks : TaskSettings where
  program := "/usr/local/bin/invoke"
  args := []
  workdir := some "/usr/src/geonode"
  logFile := "/usr/src/geonode/invoke.log"

def defaultPaths (process : ProcessEnvironment) : StartPaths where
  lockFile := "/mnt/volumes/statics/geonode_init.lock"
  profile := (home process).join ".bashrc"
  overrideFile := (home process).join ".override_env"

def defaultLog : LogSettings := ⟨"info", .full⟩

/-- The settings of a program that is given none. -/
def defaults (process : ProcessEnvironment) : Settings :=
  ⟨defaultTasks, defaultPaths process, defaultLog⟩

end Settings

end SiteBoot
