import SiteBoot.Child.Basic
import SiteBoot.System.Signals
/-!
What the processes of a system share: files, open files, pipes, and the processes themselves as far
as they concern each other. Descriptors of processes name open files, so a position in a file is
shared by all who have it open together. A pipe has ended for its readers when no descriptor of a
living process can write to it.
-/

namespace SiteBoot

/-- What is behind an open file. -/
inductive Medium where
  /-- A stream that the system itself was given. -/
  | stream (stream : Stream)
  | file (place : Location)
  /-- A file that has no name any more. -/
  | nameless (content : RawText)
  | directory (place : Location)
  | pipe (number : Nat)
  | sink

/-- A file that has been opened. -/
structure OpenFile where
  medium : Medium
  readable : Bool
  writable : Bool
  appends : Bool
  position : Nat

/-- What a process calls an open file. -/
structure Descriptor where
  number : Nat
  file : Nat
  /-- It is gone when another program takes the place of the process's. -/
  isPrivate : Bool

/-- A process as the others see it. -/
structure Process where
  number : Nat
  parent : Nat
  here : Location
  /-- The permissions that its new files do not get. -/
  mask : Nat
  descriptors : List Descriptor
  ignored : List Signal
  caught : List Signal
  /-- The caught signals that it has not attended to. -/
  pending : List Signal
  /-- How it has ended, if it has. -/
  status : Option ChildStatus

/-- What processes share. -/
structure System where
  files : FileTree
  openFiles : List (Nat × OpenFile)
  pipes : List (Nat × RawText)
  processes : List Process
  /-- The number of the process that runs. -/
  running : Nat
  /-- What has come out of the streams that the system was given, the last write first. -/
  written : List Write
  clock : Nat
  /-- The next number for a process, a pipe or an open file. -/
  nextNumber : Nat

/-- Whether an open file is the end of a pipe that is read, or that is written to. -/
def OpenFile.isEnd (file : OpenFile) (pipe : Nat) (isRead : Bool) : Bool :=
  (match file.medium with
    | .pipe number => number = pipe
    | _ => false) && (if isRead then file.readable else file.writable)

namespace Process

def file? (process : Process) (descriptor : Nat) : Option Nat :=
  (process.descriptors.find? (·.number = descriptor)).map Descriptor.file

def close (process : Process) (descriptor : Nat) : Process :=
  { process with descriptors := process.descriptors.filter (·.number ≠ descriptor) }

/-- The process with a descriptor for an open file. -/
def withDescriptor (process : Process) (descriptor : Descriptor) : Process :=
  { process with
    descriptors := descriptor :: process.descriptors.filter (·.number ≠ descriptor.number) }

/-- The least number from a bound on that is no descriptor. -/
def freeDescriptor (process : Process) (least : Nat) : Nat :=
  let taken := process.descriptors.map Descriptor.number
  ((List.range (taken.length + 1)).map (least + ·)).find? (!taken.contains ·) |>.getD least

/-- The process when another program takes the place of its own. -/
def replaced (process : Process) : Process :=
  { process with
    descriptors := process.descriptors.filter (!·.isPrivate)
    caught := []
    pending := [] }

/-- The process after it is sent a signal. -/
def receive (process : Process) (signal : Signal) : Process :=
  if process.status.isSome then process
  else if process.ignored.contains signal && !signal.isUncatchable then process
  else if process.caught.contains signal && !signal.isUncatchable then
    { process with pending := process.pending.filter (· ≠ signal) ++ [signal] }
  else if signal.endsProcess then
    { process with status := some (.signaled signal false), descriptors := [] }
  else process

end Process

namespace System

def noProcess : Process := ⟨0, 0, [], 0, [], [], [], [], none⟩

/-- The process of a number, which may have ended. -/
def process? (system : System) (number : Nat) : Option Process :=
  system.processes.find? (·.number = number)

def current (system : System) : Process := (system.process? system.running).getD noProcess

def changeProcess (system : System) (number : Nat) (change : Process → Process) : System :=
  { system with
    processes := system.processes.map fun process =>
      if process.number = number then change process else process }

/-- The system after the process that runs has changed. -/
def changeCurrent (system : System) (change : Process → Process) : System :=
  system.changeProcess system.running change

/-- The files as the process that runs sees them. -/
def tree (system : System) : FileTree := { system.files with here := system.current.here }

/-! ### Open files -/

def openFile? (system : System) (number : Nat) : Option OpenFile := system.openFiles.lookup number

/-- The open file behind a descriptor of the process that runs. -/
def openBehind? (system : System) (descriptor : Nat) : Option OpenFile :=
  (system.current.file? descriptor).bind system.openFile?

def setOpenFile (system : System) (number : Nat) (file : OpenFile) : System :=
  { system with
    openFiles := system.openFiles.map fun (other, old) =>
      if other = number then (other, file) else (other, old) }

/-- The system with one more open file, which has the next number. -/
def addOpenFile (system : System) (file : OpenFile) : Nat × System :=
  (system.nextNumber,
    { system with
      openFiles := (system.nextNumber, file) :: system.openFiles
      nextNumber := system.nextNumber + 1 })

/-- The system in which a file is behind a descriptor of the process that runs. -/
def attach (system : System) (descriptor : Nat) (file : Nat) (isPrivate : Bool) : System :=
  system.changeCurrent (·.withDescriptor ⟨descriptor, file, isPrivate⟩)

/-- The system without the open files that no process has a descriptor for. -/
def collect (system : System) : System :=
  let used := system.processes.flatMap fun process => process.descriptors.map Descriptor.file
  { system with openFiles := system.openFiles.filter fun (number, _) => used.contains number }

/-- The system in which the process that runs has not got a descriptor. -/
def close (system : System) (descriptor : Nat) : System :=
  (system.changeCurrent (·.close descriptor)).collect

/-- Whether a living process has a descriptor for an open file with a property. -/
def hasOpen (system : System) (test : OpenFile → Bool) : Bool :=
  system.processes.any fun process => process.descriptors.any fun descriptor =>
    (system.openFile? descriptor.file).any test

def pipeContent (system : System) (pipe : Nat) : RawText :=
  (system.pipes.lookup pipe).getD .nothing

def setPipe (system : System) (pipe : Nat) (content : RawText) : System :=
  { system with
    pipes := (pipe, content) :: system.pipes.filter (·.1 ≠ pipe) }

/-- Makes a pipe, of which the ends that are read and written to are open files. -/
def makePipe (system : System) : (Nat × Nat) × System :=
  let pipe := system.nextNumber
  let system := { system with nextNumber := pipe + 1 }
  let (reader, system) := system.addOpenFile ⟨.pipe pipe, true, false, false, 0⟩
  let (writer, system) := system.addOpenFile ⟨.pipe pipe, false, true, false, 0⟩
  ((reader, writer), system.setPipe pipe .nothing)

def pipeCapacity : Nat := 65536

/-! ### Changes of names

A file that is open stays open when its name goes to another file or vanishes. -/

/-- The system in which the file at a location has no name any more for those who have it open. -/
def detach (system : System) (place : Location) : System :=
  match system.files.node? place with
  | some (.file content _) =>
    { system with
      openFiles := system.openFiles.map fun (number, file) =>
        match file.medium with
        | .file other => if other = place then (number, { file with medium := .nameless content })
            else (number, file)
        | _ => (number, file) }
  | _ => system

/-- The system without the node at a location. -/
def removeNode (system : System) (place : Location) : System :=
  let system := system.detach place
  { system with files := system.files.drop place }

/-- The system in which a node has another name. -/
def renameNode (system : System) (source target : Location) : System :=
  let system := system.detach target
  let moved (place : Location) : Location :=
    if source.isPrefixOf place then target ++ place.drop source.length else place
  { system with
    files := system.files.relocate source target
    openFiles := system.openFiles.map fun (number, file) =>
      match file.medium with
      | .file place => (number, { file with medium := .file (moved place) })
      | .directory place => (number, { file with medium := .directory (moved place) })
      | _ => (number, file) }

/-! ### Opening -/

/-- What a file is opened for. -/
structure OpenMode where
  reads : Bool
  writes : Bool
  /-- Makes the file if it is missing. -/
  creates : Bool
  truncates : Bool
  appends : Bool

def OpenMode.toRead : OpenMode := ⟨true, false, false, false, false⟩
def OpenMode.toOverwrite : OpenMode := ⟨false, true, true, true, false⟩
def OpenMode.toAppend : OpenMode := ⟨false, true, true, false, true⟩
def OpenMode.toUpdate : OpenMode := ⟨true, true, true, false, false⟩

/-- What is behind a file that is opened for a path. -/
def mediumFor (system : System) (path : RawText) (mode : OpenMode) :
    Except Failure (Medium × System) := do
  if mode.creates then
    let (place, files) ← system.tree.openToWrite path
    let system := { system with files := { files with here := system.files.here } }
    match files.node? place with
    | some .sink => return (.sink, system)
    | _ =>
      let system := if mode.truncates then
          { system with files := system.files.truncate place }
        else system
      return (.file place, system)
  else match ← system.tree.find path with
    | (_, none) => throw .notFound
    | (place, some .directory) =>
      if mode.writes then throw .isADirectory
      return (.directory place, system)
    | (_, some .sink) => return (.sink, system)
    | (place, some _) => return (.file place, system)

/-- Opens a file for the process that runs, as an open file. -/
def openPath (system : System) (path : RawText) (mode : OpenMode) : Except Failure (Nat × System) := do
  let (medium, system) ← system.mediumFor path mode
  return system.addOpenFile ⟨medium, mode.reads, mode.writes, mode.appends, 0⟩

/-- An open file to read a text from. -/
def openText (system : System) (text : RawText) : Nat × System :=
  system.addOpenFile ⟨.nameless text, true, false, false, 0⟩

/-! ### Processes -/

/-- Another process like the one that runs, as its child. -/
def fork (system : System) : Nat × System :=
  let number := system.nextNumber
  let child := { system.current with number := number, parent := system.running, pending := [] }
  (number, { system with processes := system.processes ++ [child], nextNumber := number + 1 })

/-- The system after the parent of a process that has just ended is told so. -/
def tellParent (system : System) (number : Nat) : System :=
  match system.process? number with
  | some process =>
    if process.status.isSome then system.changeProcess process.parent (·.receive .childEnd)
    else system
  | none => system

/-- The system after a signal is sent to a process, if there is that process. -/
def send (system : System) (number : Nat) (signal : Signal) : Option System :=
  (system.process? number).map fun process =>
    let system := system.changeProcess number (·.receive signal)
    if process.status.isSome then system else (system.tellParent number).collect

/-- The system after the process that runs has ended. -/
def endCurrent (system : System) (status : ChildStatus) : System :=
  if system.current.status.isSome then system
  else
    let system := system.changeCurrent fun process =>
      { process with status := some status, descriptors := [] }
    (system.tellParent system.running).collect

/-- How a process has ended. A process that is not known has ended. -/
def hasEnded (system : System) (number : Nat) : Bool :=
  match system.process? number with
  | some process => process.status.isSome
  | none => true

/-- The system without a process that has ended. -/
def forget (system : System) (number : Nat) : System :=
  { system with processes := system.processes.filter (·.number ≠ number) }

end System

end SiteBoot
