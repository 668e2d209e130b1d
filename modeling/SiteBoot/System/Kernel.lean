import SiteBoot.Shell.Session
import SiteBoot.System.Schedule
import SiteBoot.Tool.Echo
import SiteBoot.Tool.Filter
import SiteBoot.Tool.Place
import SiteBoot.Tool.Word
/-!
The system whose programs are the utilities of its file tree and the scripts that these can run.
Main definition: `Kernel.ofUtilities`.
-/

namespace SiteBoot

def Utility.work : Utility → List Tool.Chars → Tool.Work Unit
  | shell, _ | succeed, _ => return
  | fail, _ => Tool.setStatus 1
  | echo, words => Tool.echo words
  | cat, words => Tool.cat words
  | touch, words => Tool.touch words
  | remove, words => Tool.rm words
  | makeDirectory, words => Tool.mkdir words
  | removeDirectory, words => Tool.rmdir words
  | move, words => Tool.mv words
  | copy, words => Tool.cp words
  | link, words => Tool.ln words
  | list, words => Tool.ls words
  | changeMode, words => Tool.chmod words
  | sleep, words => Tool.sleep words
  | environment, words => Tool.environment words
  | printEnvironment, words => Tool.printEnvironment words
  | workingDirectory, words => Tool.workingDirectory words
  | print, words => Tool.printFormatted words
  | test, words => Tool.test false words
  | bracket, words => Tool.test true words
  | head, words => Tool.head words
  | tail, words => Tool.tail words
  | count, words => Tool.wc words
  | sort, words => Tool.sort words
  | unique, words => Tool.uniq words
  | exchange, words => Tool.tr words
  | cut, words => Tool.cut words
  | split, words => Tool.tee words
  | sequence, words => Tool.sequence words
  | baseName, words => Tool.baseName words
  | directoryName, words => Tool.directoryName words
  | search, words => Tool.grep words
  | expression, words => Tool.expression words

/-- What a process does that a program takes the place of. -/
def Image.start (image : Image) (env : List (RawText × RawText)) : System → Pause :=
  match image.utility with
  | .shell => Shell.session image.words env
  | utility => Tool.asProcess utility.work image.words env

namespace System

/-- The number of the process that children of the program have for a parent. -/
def parentNumber : Nat := 1

/-- The number of a child of the program. -/
def childNumber : Nat := 100

/-- The open files that a child begins with, by their numbers: nothing to read, and what its output
goes to. -/
def firstFiles (files : FileTree) (targets : OutputTargets) : List (Nat × OpenFile) :=
  let opened (stream : Stream) : OpenFile :=
    let medium := match targets.of stream with
      | .inherited => .stream stream
      | .append place => if files.node? place = some .sink then .sink else .file place
    ⟨medium, false, true, true, 0⟩
  [(0, ⟨.sink, true, false, false, 0⟩), (1, opened .output), (2, opened .errors)]

/-- The system on which a child of the program begins. -/
def ofFiles (files : FileTree) (targets : OutputTargets) : System :=
  let openFiles := firstFiles files targets
  let process (number parent : Nat) (descriptors : List Descriptor) : Process :=
    ⟨number, parent, files.here, 0o022, descriptors, [], [], [], none⟩
  { files := files
    openFiles := openFiles
    pipes := []
    processes :=
      [process parentNumber 0 [],
        process childNumber parentNumber (openFiles.map fun (number, _) => ⟨number, number, false⟩)]
    running := childNumber
    written := []
    clock := 0
    nextNumber := childNumber + 1 }

/-- How many turns a child and those that it starts have at most. -/
def maxTurns : Nat := 100000000000

/-- What becomes of a program, up to its end. -/
def runImage (image : Image) (env : List (RawText × RawText)) (targets : OutputTargets)
    (files : FileTree) : ChildRun × FileTree :=
  let first : Waiting := ⟨childNumber, .turn, image.start env⟩
  let schedule : Schedule := ⟨ofFiles files targets, [first], 0⟩
  let system := (Schedule.run Image.start childNumber maxTurns schedule).system
  let status := ((system.process? childNumber).bind Process.status).getD .other
  (⟨system.written.reverse, status⟩, system.files)

end System

/-- Where a child starts, and what runs there. -/
def ChildRequest.image (request : ChildRequest) (files : FileTree)
    (find : FileTree → Except Failure Image) : Except Failure (Image × FileTree) := do
  if request.hasNul then throw .nulInArgument
  let there ← match request.workdir with
    | some path => files.enter path
    | none => pure files
  return (← find there, there)

/-- What comes of a request for what was found to run. -/
def ChildRequest.outcome (request : ChildRequest) (targets : OutputTargets) (files : FileTree)
    (found : Except Failure (Image × FileTree)) : ChildOutcome Unit :=
  match found with
  | .error failure => ⟨.error failure, files, ()⟩
  | .ok (image, there) =>
    let (run, after) := System.runImage image request.env targets there
    ⟨.ok run, { after with here := files.here }, ()⟩

/-- The system whose programs are utilities and scripts. A child by its path has to have a format
of its own; where a program is searched for, and in the place of a program, the shell takes what
has none. -/
def Kernel.ofUtilities : Kernel Unit where
  spawn request targets files _ :=
    request.outcome targets files <| request.image files fun files =>
      if request.program.hasSlash then files.execute request.program request.program request.args
      else files.search (request.value? "PATH") request.program request.args
  replace request files _ :=
    request.outcome .inherited files <| request.image files fun files =>
      files.search (request.value? "PATH") request.program request.args

end SiteBoot
