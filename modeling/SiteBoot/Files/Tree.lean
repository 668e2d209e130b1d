import SiteBoot.Files.Failure
import SiteBoot.Text.RawText
/-!
A file tree: what the file system holds and where the program stands in it. `FileTree.find`
resolves a path as the system does, link by link; the other operations are `find` and one change.
-/

namespace SiteBoot

abbrev Location := List RawText

/-- The programs that every tree here comes with. -/
inductive Utility where
  | shell
  | echo
  | succeed
  | fail
  | cat
  | touch
  | remove
  | makeDirectory
  | removeDirectory
  | move
  | copy
  | link
  | list
  | changeMode
  | sleep
  | environment
  | printEnvironment
  | workingDirectory
  | print
  | test
  /-- A test whose words end with a bracket. -/
  | bracket
  | head
  | tail
  | count
  | sort
  | unique
  | exchange
  | cut
  /-- Writes out what comes in, to files too. -/
  | split
  | sequence
  | baseName
  | directoryName
  | search
  | expression
  deriving DecidableEq, Repr

namespace Utility

/-- The name under which a program is found. -/
def name : Utility → String
  | shell => "sh"
  | echo => "echo"
  | succeed => "true"
  | fail => "false"
  | cat => "cat"
  | touch => "touch"
  | remove => "rm"
  | makeDirectory => "mkdir"
  | removeDirectory => "rmdir"
  | move => "mv"
  | copy => "cp"
  | link => "ln"
  | list => "ls"
  | changeMode => "chmod"
  | sleep => "sleep"
  | environment => "env"
  | printEnvironment => "printenv"
  | workingDirectory => "pwd"
  | print => "printf"
  | test => "test"
  | bracket => "["
  | head => "head"
  | tail => "tail"
  | count => "wc"
  | sort => "sort"
  | unique => "uniq"
  | exchange => "tr"
  | cut => "cut"
  | split => "tee"
  | sequence => "seq"
  | baseName => "basename"
  | directoryName => "dirname"
  | search => "grep"
  | expression => "expr"

def all : List Utility :=
  [shell, echo, succeed, fail, cat, touch, remove, makeDirectory, removeDirectory, move, copy,
    link, list, changeMode, sleep, environment, printEnvironment, workingDirectory, print, test,
    bracket, head, tail, count, sort, unique, exchange, cut, split, sequence, baseName,
    directoryName, search, expression]

end Utility

/-- What stands at a location. -/
inductive Node where
  | file (content : RawText) (executable : Bool)
  | directory
  | link (target : RawText)
  | utility (utility : Utility)
  | sink
  deriving DecidableEq

/-- The nodes of a file system, the root apart, and the working directory. -/
structure FileTree where
  nodes : List (Location × Node)
  here : Location

namespace RawText

/-- The steps of a path. A slash at the end asks for a directory, as a step to itself does. -/
def steps (path : RawText) : List RawText :=
  let names := (path.splitOn 0x2F).filter (!·.isEmpty)
  if path.bytes.getLast? = some 0x2F then names ++ [ofString "."] else names

def isAbsolute (path : RawText) : Bool := path.bytes.head? = some 0x2F

/-- Whether a name is a path and not only a name. -/
def hasSlash (path : RawText) : Bool := path.bytes.contains 0x2F

def join (base name : RawText) : RawText :=
  if name.isAbsolute || base.isEmpty then name
  else if base.bytes.getLast? = some 0x2F then base ++ name
  else base ++ ofString "/" ++ name

/-- The longest name in a directory, in bytes. -/
def maxName : Nat := 255

def maxPath : Nat := 4095

end RawText

namespace FileTree

/-- The node at a location; the root is a directory. -/
def node? (files : FileTree) : Location → Option Node
  | [] => some .directory
  | location => files.nodes.lookup location

/-- How many links a path may lead through. -/
def maxLinks : Nat := 40

/-- Follows the steps of a path from a location on. The last name may be missing, so the result
is where it is or would be. -/
def walk (files : FileTree) (links : Nat) (place : Location) (steps : List RawText) :
    Except Failure Location :=
  match steps with
  | [] => .ok place
  | name :: rest =>
    if files.node? place ≠ some .directory then .error .notADirectory
    else if name = RawText.ofString "." then walk files links place rest
    else if name = RawText.ofString ".." then walk files links place.dropLast rest
    else if name.size > RawText.maxName then .error .nameTooLong
    else match files.node? (place ++ [name]) with
      | none => if rest.isEmpty then .ok (place ++ [name]) else .error .notFound
      | some (.link target) =>
        match links with
        | 0 => .error .tooManyLinks
        | links + 1 =>
          walk files links (if target.isAbsolute then [] else place) (target.steps ++ rest)
      | some _ => walk files links (place ++ [name]) rest
termination_by (links, steps.length)

/-- Where a path leads and what is there, if anything is. -/
def find (files : FileTree) (path : RawText) : Except Failure (Location × Option Node) := do
  if path.hasNul then throw .nulInPath
  if path.isEmpty then throw .notFound
  if path.size > RawText.maxPath then throw .nameTooLong
  let start := if path.isAbsolute then [] else files.here
  let place ← files.walk maxLinks start path.steps
  return (place, files.node? place)

def has (files : FileTree) (path : RawText) : Bool :=
  match files.find path with
  | .ok (_, some _) => true
  | _ => false

/-- Where a path leads and what is there, where a link at its end is not followed. -/
def findLink (files : FileTree) (path : RawText) : Except Failure (Location × Option Node) := do
  let isPlain := match path.steps.getLast? with
    | some name => name ≠ RawText.ofString "." && name ≠ RawText.ofString ".."
    | none => false
  if !isPlain || path.hasNul || path.size > RawText.maxPath then files.find path
  else
    let start := if path.isAbsolute then [] else files.here
    let parent ← files.walk maxLinks start path.steps.dropLast
    if files.node? parent ≠ some .directory then
      throw (if (files.node? parent).isNone then .notFound else .notADirectory)
    if path.steps.getLast?.any (·.size > RawText.maxName) then throw .nameTooLong
    let place := parent ++ path.steps.getLast?.toList
    return (place, files.node? place)

/-- What is in a directory, by its names. -/
def entries (files : FileTree) (place : Location) : List (RawText × Node) :=
  files.nodes.filterMap fun (other, node) =>
    if other.dropLast = place then other.getLast?.map (·, node) else none

/-- The content of the file at a path. -/
def read (files : FileTree) (path : RawText) : Except Failure RawText := do
  match (← files.find path).2 with
  | none => throw .notFound
  | some .directory => throw .isADirectory
  | some (.file content _) => return content
  | some _ => return .nothing

/-- The content of the file at a path, as text. -/
def readText (files : FileTree) (path : RawText) : Except Failure String := do
  match (← files.read path).text? with
  | some text => return text
  | none => throw .notText

theorem readText_of_read {files : FileTree} {path : RawText} {text : String}
    (h : files.read path = .ok (.ofString text)) : files.readText path = .ok text := by
  rw [readText, h]
  simp only [bind, Except.bind, RawText.text?_ofString]
  rfl

/-- The tree with a node put at a location. -/
def put (files : FileTree) (place : Location) (node : Node) : FileTree :=
  { files with nodes := (place, node) :: files.nodes.filter (·.1 ≠ place) }

/-- The tree without the node at a location and all below it. -/
def drop (files : FileTree) (place : Location) : FileTree :=
  { files with nodes := files.nodes.filter fun (other, _) => !place.isPrefixOf other }

/-- The tree in which all that is at or below one location is at or below another instead. -/
def relocate (files : FileTree) (source target : Location) : FileTree :=
  { files with nodes := (files.drop target).nodes.map fun (place, node) =>
      (if source.isPrefixOf place then target ++ place.drop source.length else place, node) }

/-- Opens a file to write to, which is made if it is missing. A path that ends in a slash names a
directory even if nothing is there. -/
def openToWrite (files : FileTree) (path : RawText) : Except Failure (Location × FileTree) := do
  if path.bytes.getLast? = some 0x2F then
    if path.hasNul then throw .nulInPath
    let start := if path.isAbsolute then [] else files.here
    let parent ← files.walk maxLinks start path.steps.dropLast.dropLast
    match files.node? parent with
    | some .directory => throw .isADirectory
    | some _ => throw .notADirectory
    | none => throw .notFound
  match ← files.find path with
  | (_, some .directory) => throw .isADirectory
  | (place, some (.file ..)) => return (place, files)
  | (place, some .sink) => return (place, files)
  | (_, some _) => throw .permissionDenied
  | (place, none) => return (place, files.put place (.file .nothing false))

/-- Writes at the end of an open file. -/
def append (files : FileTree) (place : Location) (more : RawText) : FileTree :=
  match files.node? place with
  | some (.file content executable) => files.put place (.file (content ++ more) executable)
  | _ => files

def truncate (files : FileTree) (place : Location) : FileTree :=
  match files.node? place with
  | some (.file _ executable) => files.put place (.file .nothing executable)
  | _ => files

def enter (files : FileTree) (path : RawText) : Except Failure FileTree := do
  match ← files.find path with
  | (place, some .directory) => return { files with here := place }
  | (_, some _) => throw .notADirectory
  | (_, none) => throw .notFound

/-- The tree with the directories that lead to a location. -/
def withParents (files : FileTree) (place : Location) : FileTree :=
  ((List.range place.length).map (place.take ·)).foldl
    (fun tree parent => if (tree.node? parent).isSome then tree else tree.put parent .directory)
    files

/-- The location that steps lead to where nothing on the way is a link. -/
def plainLocation (start : Location) (steps : List RawText) : Location :=
  steps.foldl
    (fun place name =>
      if name = RawText.ofString "." then place
      else if name = RawText.ofString ".." then place.dropLast
      else place ++ [name])
    start

/-- The location that a path names, a link itself and not what it leads to. Directories on the
way may be missing. -/
def locationOf (files : FileTree) (path : RawText) : Location :=
  let start := if path.isAbsolute then [] else files.here
  let last := path.steps.getLast?
  if last = none || last = some (RawText.ofString ".") || last = some (RawText.ofString "..") then
    plainLocation start path.steps
  else match files.walk maxLinks start path.steps.dropLast with
    | .ok parent => parent ++ last.toList
    | .error _ => plainLocation start path.steps

/-- The location at which a node is put for a path. A file is written through a link. -/
def placeFor (files : FileTree) (path : RawText) (node : Node) : Location :=
  match node, files.find path with
  | .file .., .ok (place, _) => place
  | _, _ => files.locationOf path

/-- The tree with a node at a path, and the directories above it. -/
def install (files : FileTree) (path : RawText) (node : Node) : FileTree :=
  let place := files.placeFor path node
  (files.withParents place).put place node

/-- The tree without what a path names, a link itself and not what it leads to. -/
def remove (files : FileTree) (path : RawText) : FileTree := files.drop (files.locationOf path)

/-- An empty working directory beside the programs of the base system. -/
def base : FileTree :=
  let work : Location := ["var", "site"]
  let places : List (Location × Node) :=
    [(["var"], .directory), (work, .directory), (["dev"], .directory), (["dev", "null"], .sink),
      (["tmp"], .directory), (["bin"], .directory), (["bin", "dash"], .link "sh"),
      (["usr"], .directory), (["usr", "bin"], .link "/bin")]
  let utilities := Utility.all.map fun utility =>
    (([.ofString "bin", .ofString utility.name], .utility utility) : Location × Node)
  ⟨places ++ utilities, work⟩

end FileTree

end SiteBoot
