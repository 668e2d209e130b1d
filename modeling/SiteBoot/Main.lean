import SiteBoot.Files.Change
import SiteBoot.Log.Line
import SiteBoot.System.Kernel
import SiteBoot.Program
/-!
The command line: reads the environment and the working directory, runs the program on them, and
writes out what has changed.
-/

namespace SiteBoot.Main

def readEnvironment : IO ProcessEnvironment := do
  let content ← IO.FS.readBinFile "/proc/self/environ"
  return ⟨((RawText.mk content.toList).splitOn 0).filterMap (·.cut? 0x3D)⟩

/-- The files under a directory by their paths from the top, down to a depth. -/
def readTree (top : String) : Nat → String → IO (List (RawText × Node))
  | 0, _ => return []
  | depth + 1, path => do
    let mut found := []
    for entry in ← ((← IO.FS.realPath top) / path).readDir do
      let inner := path ++ "/" ++ entry.fileName
      if ← entry.path.isDir then
        found := found ++ (RawText.ofString inner, Node.directory) :: (← readTree top depth inner)
      else
        let content ← IO.FS.readBinFile entry.path
        found := found ++ [(RawText.ofString inner, Node.file ⟨content.toList⟩ false)]
    return found

def maxDepth : Nat := 16

/-- The files outside the working directory that arguments, variables or defaults name. -/
def readNamed (process : ProcessEnvironment) (args : List String) :
    IO (List (RawText × Node)) := do
  let defaults := (Settings.defaults process).paths
  let vars := process.entries.map (·.2.display)
  let paths := [defaults.profile.display, defaults.overrideFile.display] ++ args ++ vars
  let mut found := []
  for path in paths do
    if path.startsWith "/" && !FileTree.base.has path then
      try found := found ++ [(RawText.ofString path, Node.file ⟨(← IO.FS.readBinFile path).toList⟩ false)]
      catch _ => pure ()
  return found

/-- The path of a location: from the working directory on if it is in there. -/
def pathOf (files : FileTree) (place : Location) : String :=
  if files.here.isPrefixOf place then
    "/".intercalate ((place.drop files.here.length).map RawText.display)
  else "/" ++ "/".intercalate (place.map RawText.display)

/-- Writes the files that are not as they were, and removes those that are gone. -/
def writeChanges (before after : FileTree) : IO Unit := do
  for (place, node) in after.nodes.reverse do
    if before.node? place ≠ some node then
      match node with
      | .directory => IO.FS.createDirAll (pathOf before place)
      | .file content _ => IO.FS.writeBinFile (pathOf before place) content.bytes.toByteArray
      | _ => pure ()
  for (place, node) in before.nodes do
    if (after.node? place).isNone then
      if node = .directory then IO.FS.removeDirAll (pathOf before place)
      else IO.FS.removeFile (pathOf before place)

end SiteBoot.Main

open SiteBoot SiteBoot.Main in
def main (args : List String) : IO UInt32 := do
  let process ← readEnvironment
  let named ← readNamed process args
  let files := FileTree.base.change ⟨(← readTree "." maxDepth ".") ++ named, []⟩
  let run := runProgram Kernel.ofUtilities process (args.map RawText.ofString)
    ⟨files, [], none, ()⟩
  (← IO.getStdout).write (Write.join (Write.to .output run.machine.written)).bytes.toByteArray
  let errors ← IO.getStderr
  for event in run.log do errors.putStrLn (event.line run.format)
  errors.write (Write.join (Write.to .errors run.machine.written)).bytes.toByteArray
  for complaint in run.ending.complaint? do errors.putStrLn complaint
  writeChanges files run.machine.files
  return run.ending.exitStatus
