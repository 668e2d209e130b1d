import SiteBoot.EnvFile.Assignment
import SiteBoot.EnvFile.Reference
import SiteBoot.Files.Tree
import SiteBoot.Log.Event
import SiteBoot.ProcessEnvironment
/-!
Overlaying: an environment after a file of assignments has been laid over it. A name that is set,
or that the file exports, gets its new value in the environment; any other stays local to the
file, where later lines may refer to it.
-/

namespace SiteBoot.EnvFile

/-- What an overlay has to say about a file. -/
inductive Remark where
  | skipped (text : String)
  | keptLocal (name : String)
  deriving DecidableEq, Repr

/-- The variables while a file is being applied. -/
structure Scope where
  env : Environment
  locals : List (String × String)
  /-- How many assignments have reached the environment. -/
  count : Nat

/-- The value of a name: in the environment, else in the file, else in the process. -/
def Scope.value? (scope : Scope) (process : ProcessEnvironment) (name : String) :
    Option String :=
  (scope.env.get? name).orElse fun _ =>
    (scope.locals.lookup name).orElse fun _ => process.text? name

/-- The scope after one assignment, and whether the name stays local. -/
def Scope.assign (scope : Scope) (process : ProcessEnvironment) (exported : List (List Char))
    (assignment : Assignment) : Scope × Bool :=
  let name := String.ofList assignment.key
  let value? chars := (scope.value? process (String.ofList chars)).map String.toList
  let value := String.ofList (expand value? assignment.raw)
  let others := scope.locals.filter (·.1 ≠ name)
  if exported.contains assignment.key || scope.env.has name then
    (⟨scope.env.set name value, others, scope.count + 1⟩, false)
  else (⟨scope.env, (name, value) :: others, scope.count⟩, true)

/-- The scope after the items of a file, and the remarks on them. -/
def Scope.apply (process : ProcessEnvironment) (exported : List (List Char)) :
    Scope → List Item → Scope × List Remark
  | scope, [] => (scope, [])
  | scope, .skipped text :: rest =>
    let (last, remarks) := apply process exported scope rest
    (last, .skipped (String.ofList text) :: remarks)
  | scope, .assignment assignment :: rest =>
    let (next, isLocal) := scope.assign process exported assignment
    let (last, remarks) := apply process exported next rest
    (last, if isLocal then .keptLocal (String.ofList assignment.key) :: remarks else remarks)

/-- The items of the marked text of a file. -/
def Marked.items (marked : Marked) (process : ProcessEnvironment) : List Item :=
  Item.ofText (fun name => (process.text? (String.ofList name)).map String.toList) marked.text

/-- The scope after a file of the given content, and the remarks on it. -/
def overlayText (process : ProcessEnvironment) (env : Environment) (content : String) :
    Scope × List Remark :=
  let marked := Marked.ofText content.toList
  Scope.apply process marked.exported ⟨env, [], 0⟩ (marked.items process)

end SiteBoot.EnvFile

namespace SiteBoot

/-- An environment file that is there but cannot be read. -/
structure EnvFileError where
  path : RawText
  failure : Failure
  deriving DecidableEq

def EnvFileError.message (error : EnvFileError) : String :=
  "cannot load environment file " ++ error.path.display ++ ": " ++ error.failure.message

/-- The event that reports a remark on a file. -/
def EnvFile.Remark.event (path : RawText) : EnvFile.Remark → Event
  | .skipped text => .environmentLineSkipped path text
  | .keptLocal name => .environmentVariableKept path name

/-- An environment with the file at a path laid over it, and the events on the way. A missing
file changes nothing. -/
def Environment.overlayFile (env : Environment) (process : ProcessEnvironment)
    (files : FileTree) (path : RawText) : Except EnvFileError Environment × List Event :=
  match files.readText path with
  | .error .notFound => (.ok env, [.environmentFileMissing path])
  | .error failure => (.error ⟨path, failure⟩, [])
  | .ok content =>
    let (scope, remarks) := EnvFile.overlayText process env content
    (.ok scope.env,
      remarks.map (EnvFile.Remark.event path) ++ [.environmentFileApplied path scope.count])

end SiteBoot
