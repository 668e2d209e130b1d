import SiteBoot.Child.Status
import SiteBoot.Environment
import SiteBoot.Files.Tree
/-!
Child processes: what is asked for, what a child does until it ends, and the machine that the
program and its children share. What a child does is left open: `Kernel` has it as two functions,
which may go by the files and by a state of their own. `Kernel.ofScript` is the system on which a
child writes what a script says.
-/

namespace SiteBoot

/-- The streams that a process writes to. -/
inductive Stream where
  | output
  | errors
  deriving DecidableEq, Repr

/-- One write to a stream. -/
structure Write where
  stream : Stream
  bytes : RawText
  deriving DecidableEq

def Write.join (writes : List Write) : RawText :=
  writes.foldl (fun bytes write => bytes ++ write.bytes) .nothing

def Write.to (stream : Stream) (writes : List Write) : List Write :=
  writes.filter (·.stream = stream)

/-- Where a stream of a child goes: to the stream of that kind that the program was given, or to
the end of a file. -/
inductive OutputTarget where
  | inherited
  | append (place : Location)
  deriving DecidableEq

/-- Where the output of a child goes, for each of its streams. -/
structure OutputTargets where
  output : OutputTarget
  errors : OutputTarget
  deriving DecidableEq

namespace OutputTargets

def inherited : OutputTargets := ⟨.inherited, .inherited⟩

def of (targets : OutputTargets) : Stream → OutputTarget
  | .output => targets.output
  | .errors => targets.errors

end OutputTargets

/-- A program that is to be run. -/
structure ChildRequest where
  program : RawText
  args : List RawText
  env : List (RawText × RawText)
  /-- Where the child starts, if not where the program stands. -/
  workdir : Option RawText

namespace ChildRequest

def words (request : ChildRequest) : List RawText := request.program :: request.args

/-- Whether something in a request holds a NUL, which no child can be given. -/
def hasNul (request : ChildRequest) : Bool :=
  request.words.any RawText.hasNul ||
    request.env.any (fun (name, value) => name.hasNul || value.hasNul) ||
    request.workdir.any RawText.hasNul

/-- The value of a variable in the environment of a child. -/
def value? (request : ChildRequest) (name : String) : Option RawText :=
  request.env.lookup (.ofString name)

end ChildRequest

def Environment.forChild (env : Environment) : List (RawText × RawText) :=
  env.vars.map fun (name, value) => (.ofString name, .ofString value)

/-- What a child did until it ended: what it wrote to the streams of the program, and its end. -/
structure ChildRun where
  writes : List Write
  status : ChildStatus

/-- A run of a program: it may fail to start, and it may change files. -/
structure ChildOutcome (κ : Type) where
  result : Except Failure ChildRun
  files : FileTree
  rest : κ

/-- What the system does with programs, where `κ` is whatever they go by beside the files. -/
structure Kernel (κ : Type) where
  /-- Starts a child whose output goes to some targets, and waits for its end. -/
  spawn : ChildRequest → OutputTargets → FileTree → κ → ChildOutcome κ
  /-- Puts another program in the place of the running one, up to its end. -/
  replace : ChildRequest → FileTree → κ → ChildOutcome κ

/-- The machine as the program sees it. -/
structure Machine (κ : Type) where
  files : FileTree
  /-- What has come out of the streams that the program was given. -/
  written : List Write
  /-- How the command has ended that took the program's place. -/
  successor : Option ChildStatus
  rest : κ

/-! ### Children that only write -/

/-- What a child does that only writes: its writes to its own output and errors, and its end. -/
structure ChildScript where
  writes : List Write
  status : ChildStatus

/-- What becomes of the writes of a child, one after the other: those that come out of the program's
streams, and the files. -/
def OutputTargets.deliver (targets : OutputTargets) : List Write → FileTree → List Write × FileTree
  | [], files => ([], files)
  | write :: rest, files =>
    match targets.of write.stream with
    | .inherited =>
      let (written, files) := targets.deliver rest files
      (write :: written, files)
    | .append place => targets.deliver rest (files.append place write.bytes)

/-- The system on which children only write, each as a script has it, or fail to start. -/
def Kernel.ofScript {κ : Type} (script : ChildRequest → κ → Except Failure ChildScript × κ) :
    Kernel κ :=
  let run (request : ChildRequest) (targets : OutputTargets) (files : FileTree) (rest : κ) :
      ChildOutcome κ :=
    match script request rest with
    | (.error failure, rest) => ⟨.error failure, files, rest⟩
    | (.ok child, rest) =>
      let (writes, files) := targets.deliver child.writes files
      ⟨.ok ⟨writes, child.status⟩, files, rest⟩
  ⟨run, fun request => run request .inherited⟩

end SiteBoot
