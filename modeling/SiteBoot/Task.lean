/-!
The tasks that prepare a site, in the groups in which they are run, and how a task can fail.
-/

namespace SiteBoot

/-- A task that the site's task program knows by name. -/
inductive Task where
  | update
  | waitForDatabases
  | migrations
  | prepare
  | updateGeoIp
  | fixtures
  | monitoringFixture
  | initialized
  | statics
  | waitForGeoServer
  | geoServerFixture
  | updateAdmin
  deriving DecidableEq, Repr

namespace Task

/-- The name by which the task program knows the task. -/
def name : Task → String
  | update => "update"
  | waitForDatabases => "waitfordbs"
  | migrations => "migrations"
  | prepare => "prepare"
  | updateGeoIp => "updategeoip"
  | fixtures => "fixtures"
  | monitoringFixture => "monitoringfixture"
  | initialized => "initialized"
  | statics => "statics"
  | waitForGeoServer => "waitforgeoserver"
  | geoServerFixture => "geoserverfixture"
  | updateAdmin => "updateadmin"

/-- Every task, in the order of a first production start. -/
def all : List Task :=
  [update, waitForDatabases, migrations, prepare, updateGeoIp, fixtures, monitoringFixture,
    initialized, statics, waitForGeoServer, geoServerFixture, updateAdmin]

def ofName? (name : String) : Option Task := all.find? (·.name = name)

/-- Run on every start before the environment files are read, which `update` may write. -/
def beforeEnvironment : List Task := [update]

/-- Run on every start in the environment of the files, before the mode is selected. -/
def afterEnvironment : List Task := [waitForDatabases, migrations]

/-- Run once for a site. The last one leaves the lock file behind. -/
def firstStart : List Task := [updateGeoIp, fixtures, monitoringFixture, initialized]

/-- Run on every production start after the first-start tasks. -/
def productionSuffix : List Task :=
  [statics, waitForGeoServer, geoServerFixture, updateAdmin]

theorem ofName?_name (task : Task) : ofName? task.name = some task := by
  cases task <;> decide

end Task

/-- Integers as numbers of 32 bits, which is how the system tells of codes and signals. -/
instance instIntCastInt32 : IntCast Int32 := ⟨Int32.ofInt⟩

instance instCoeInt32Int : Coe Int32 Int := ⟨Int32.toInt⟩

/-- How a task that failed has ended. -/
inductive TaskStatus where
  /-- It ended by itself with a code. -/
  | exited (code : Int32)
  | signaled (signal : Int32)
  | notStarted (reason : String)
  deriving DecidableEq, Repr

namespace TaskStatus

def display : TaskStatus → String
  | exited code => "exit status " ++ toString code
  | signaled signal => "killed by signal " ++ toString signal
  | notStarted reason => "could not be started: " ++ reason

/-- The exit code that stands for the status, as shells have it. -/
def exitCode : TaskStatus → Int32
  | exited code => code
  | signaled signal => 128 + signal
  | notStarted _ => 127

end TaskStatus

/-- A task that failed. -/
structure TaskFailure where
  task : Task
  status : TaskStatus
  deriving DecidableEq, Repr

def TaskFailure.message (failure : TaskFailure) : String :=
  "task '" ++ failure.task.name ++ "' failed (" ++ failure.status.display ++ ")"

end SiteBoot
