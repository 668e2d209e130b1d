import SiteBoot.System.Routine
/-!
What processes ask of the system: reading and writing through descriptors, which may have to wait,
and signals, sleep and the ends of other processes.
-/

namespace SiteBoot

/-- The bytes of a file after others are written into it from a position on. -/
def RawText.overwrite (old : RawText) (position : Nat) (new : RawText) : RawText :=
  let start := old.bytes.take position
  let gap := List.replicate (position - start.length) 0
  ⟨start ++ gap ++ new.bytes ++ old.bytes.drop (position + new.size)⟩

def RawText.slice (raw : RawText) (position count : Nat) : RawText :=
  ⟨(raw.bytes.drop position).take count⟩

def RawText.dropFront (raw : RawText) (count : Nat) : RawText := ⟨raw.bytes.drop count⟩

@[match_pattern] abbrev Failure.badDescriptor : Failure := .system 9
@[match_pattern] abbrev Failure.brokenPipe : Failure := .system 32

namespace System

/-- Writes to the end of an open file, or at its position, where nothing has to be waited for. -/
def writeFile (system : System) (number : Nat) (file : OpenFile) (text : RawText) :
    Except Failure System :=
  let moved (position : Nat) (medium : Medium) : System → System :=
    (·.setOpenFile number { file with medium := medium, position := position })
  match file.medium with
  | .stream stream => .ok { system with written := ⟨stream, text⟩ :: system.written }
  | .sink => .ok system
  | .directory _ | .pipe _ => .error .badDescriptor
  | .nameless content =>
    let position := if file.appends then content.size else file.position
    .ok (moved (position + text.size) (.nameless (content.overwrite position text)) system)
  | .file place =>
    match system.files.node? place with
    | some (.file content executable) =>
      let position := if file.appends then content.size else file.position
      let content := if file.appends then content ++ text else content.overwrite position text
      let system := { system with files := system.files.put place (.file content executable) }
      .ok (moved (position + text.size) file.medium system)
    | _ => .error .badDescriptor

/-- The next bytes of an open file, where nothing has to be waited for. -/
def readFile (system : System) (number : Nat) (file : OpenFile) (count : Nat) :
    Except Failure (RawText × System) :=
  let slice (content : RawText) : RawText × System :=
    let found := content.slice file.position count
    (found, system.setOpenFile number { file with position := file.position + found.size })
  match file.medium with
  | .sink => .ok (.nothing, system)
  | .directory _ => .error .isADirectory
  | .stream _ | .pipe _ => .error .badDescriptor
  | .nameless content => .ok (slice content)
  | .file place =>
    match system.files.node? place with
    | some (.file content _) => .ok (slice content)
    | _ => .ok (.nothing, system)

end System

namespace Routine

variable {σ ε : Type}

/-- Attends to a signal that may have ended the process. -/
def yieldIfEnded : Routine σ ε Unit := do
  if (← system).current.status.isSome then await .turn

/-- Sends a signal to a process. It may be the process itself, which is at its end then. -/
def kill (number : Nat) (signal : Signal) : Routine σ ε Bool := do
  match (← system).send number signal with
  | none => return false
  | some system =>
    changeSystem fun _ => system
    yieldIfEnded
    return true

/-- Writes to a pipe, by at most so many pieces and waits. -/
def writePipe (pipe : Nat) : Nat → RawText → Routine σ ε (Except Failure Unit)
  | 0, _ => return .ok ()
  | bound + 1, text => do
    let system ← system
    let content := system.pipeContent pipe
    if text.isEmpty then return .ok ()
    else if !system.hasOpen (·.isEnd pipe true) then
      let _ ← kill system.running .brokenPipe
      return .error .brokenPipe
    else if content.size < System.pipeCapacity then
      let room := System.pipeCapacity - content.size
      changeSystem (·.setPipe pipe (content ++ text.slice 0 room))
      writePipe pipe bound (text.dropFront room)
    else
      await (.writable pipe)
      writePipe pipe bound text

def write (descriptor : Nat) (text : RawText) : Routine σ ε (Except Failure Unit) := do
  let system ← system
  match system.current.file? descriptor with
  | none => return .error .badDescriptor
  | some number =>
    match system.openFile? number with
    | none => return .error .badDescriptor
    | some file =>
      if !file.writable then return .error .badDescriptor
      match file.medium with
      | .pipe pipe => writePipe pipe (2 * text.size + 2) text
      | _ =>
        match system.writeFile number file text with
        | .ok system =>
          changeSystem fun _ => system
          return .ok ()
        | .error failure => return .error failure

/-- Reads from a descriptor at most so many bytes. No bytes are the end. -/
def read (descriptor count : Nat) : Routine σ ε (Except Failure RawText) := do
  let system ← system
  match system.current.file? descriptor with
  | none => return .error .badDescriptor
  | some number =>
    match system.openFile? number with
    | none => return .error .badDescriptor
    | some file =>
      if !file.readable then return .error .badDescriptor
      match file.medium with
      | .pipe pipe =>
        await (.readable pipe)
        withSystem fun system =>
          let content := system.pipeContent pipe
          (.ok (content.slice 0 count), system.setPipe pipe (content.dropFront count))
      | _ =>
        match system.readFile number file count with
        | .ok (text, system) =>
          changeSystem fun _ => system
          return .ok text
        | .error failure => return .error failure

/-- How much is read at once by those who want all. -/
def chunk : Nat := 65536

/-- Reads from a descriptor to the end, by at most so many pieces. -/
def readOn (descriptor : Nat) : Nat → RawText → Routine σ ε (Except Failure RawText)
  | 0, soFar => return .ok soFar
  | bound + 1, soFar => do
    match ← read descriptor chunk with
    | .error failure => return .error failure
    | .ok text =>
      if text.isEmpty then return .ok soFar else readOn descriptor bound (soFar ++ text)

/-- How many pieces are read by those who want all. -/
def maxPieces : Nat := 1000000

def readAll (descriptor : Nat) : Routine σ ε (Except Failure RawText) :=
  readOn descriptor maxPieces .nothing

def sleep (time : Nat) : Routine σ ε Unit := do await (.time ((← system).clock + time))

/-- Waits for the end of a process, which is not known any more after that. -/
def awaitEnd (number : Nat) : Routine σ ε (Option ChildStatus) := do
  await (.ended number)
  withSystem fun system =>
    ((system.process? number).bind Process.status, system.forget number)

end Routine

end SiteBoot
