import SiteBoot.Environment
import SiteBoot.Files.Tree
/-!
The mode of a start: which command it ends in, and whether the site is prepared before.
-/

namespace SiteBoot

/-- Which command a start hands over to. -/
inductive Mode where
  /-- The command given to the program itself. -/
  | development
  | worker
  /-- The application server, after the site is prepared. -/
  | production
  deriving DecidableEq, Repr

namespace Mode

def name : Mode → String
  | development => "development"
  | worker => "worker"
  | production => "production"

/-- The mode that an environment asks for. Without a deployment it is development, whatever the
worker flag says. -/
def ofEnvironment (env : Environment) : Mode :=
  let deployment := env.value "DOCKER_ENV"
  if deployment = "" || deployment = "development" then development
  else if env.flag "IS_CELERY" then worker
  else production

end Mode

/-- Whether the first-start tasks are to be run: the environment says so, or there is no lock
file. -/
def Environment.isFirstStart (env : Environment) (files : FileTree) (lockFile : RawText) : Bool :=
  env.flag "IS_FIRST_START" || env.flag "FORCE_REINIT" || !files.has lockFile

end SiteBoot
