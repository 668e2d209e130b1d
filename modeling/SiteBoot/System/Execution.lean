import SiteBoot.System.Routine
/-!
Which program runs for a name: the search through the directories of `PATH`, the check of the
file, and the interpreter that a script names in its first line.
-/

namespace SiteBoot

/-- A blank of a line that names an interpreter. -/
def isScriptBlank (c : Char) : Bool := c = ' ' || c = '\t'

/-- How much of a file is looked at for an interpreter. -/
def scriptHeadSize : Nat := 256

/-- The text after the sign of a script in which the interpreter is named, without blanks at its
ends. It is the first line, or as much of it as is looked at if an end of the name is seen there.
Beyond its end a file counts as NULs. -/
def interpreterLine? (content : RawText) : Option (List Char) :=
  let seen := content.toChars.take scriptHeadSize
  let head := (seen ++ List.replicate (scriptHeadSize - seen.length) '\x00').drop 2
  let line := head.takeWhile fun c => c ≠ '\n' && c ≠ '\x00'
  let trimmed (text : List Char) :=
    ((text.reverse.dropWhile isScriptBlank).reverse).dropWhile isScriptBlank
  if (head.drop line.length).head? = some '\n' then
    if (trimmed line).isEmpty then none else some (trimmed line)
  else
    let named := head.dropWhile isScriptBlank
    if named.isEmpty || !named.any (fun c => isScriptBlank c || c = '\x00') then none
    else
      let text := trimmed head.dropLast
      if text.isEmpty then none else some text

/-- The interpreter that a script names, and the one argument that may follow it. -/
def interpreter? (content : RawText) : Option (RawText × List RawText) :=
  match content.toChars with
  | '#' :: '!' :: _ =>
    (interpreterLine? content).map fun line =>
      let (name, after) := line.span fun c => !isScriptBlank c && c ≠ '\x00'
      let argument := (after.dropWhile isScriptBlank).takeWhile (· ≠ '\x00')
      (.ofChars name,
        if after.head?.any isScriptBlank then [.ofChars argument] else [])
  | _ => none

namespace FileTree

/-- How many scripts may stand between a program and its interpreter. -/
def maxInterpreters : Nat := 6

/-- What runs for a file by its path, called by a name. -/
def image (files : FileTree) (path name : RawText) (args : List RawText) :
    Nat → Except Failure Image
  | 0 => .error .tooManyLinks
  | depth + 1 => do
    match (← files.find path).2 with
    | none => throw .notFound
    | some (.utility utility) => return ⟨utility, name :: args⟩
    | some (.file content true) =>
      match interpreter? content with
      | some (program, more) => files.image program program (more ++ path :: args) depth
      | none => throw .badFormat
    | some _ => throw .permissionDenied

/-- What runs for a file by its path. -/
def execute (files : FileTree) (path name : RawText) (args : List RawText) :
    Except Failure Image :=
  files.image path name args maxInterpreters

/-- What runs for a file by its path, where the shell takes what has no format of its own. -/
def executeOrInterpret (files : FileTree) (path name : RawText) (args : List RawText) :
    Except Failure Image :=
  match files.execute path name args with
  | .error .badFormat => files.execute "/bin/sh" "/bin/sh" (path :: args)
  | result => result

/-- What runs for a name in the first directory that has it. An empty entry is the working
directory. A file that may not be executed is passed over, but if nothing else is found it is
what the search failed for. -/
def searchIn (files : FileTree) (name : RawText) (args : List RawText) :
    List RawText → Failure → Bool → Except Failure Image
  | [], last, denied => .error (if denied then .permissionDenied else last)
  | directory :: rest, last, denied =>
    match files.executeOrInterpret (directory.join name) name args with
    | .ok image => .ok image
    | .error .permissionDenied => searchIn files name args rest last true
    | .error .notFound => searchIn files name args rest .notFound denied
    | .error .notADirectory => searchIn files name args rest .notADirectory denied
    | .error failure => .error failure

/-- The directories that are searched where no variable names them. -/
def defaultPath : RawText := "/bin:/usr/bin"

/-- What runs for a name, which is searched for if there is no slash in it. -/
def search (files : FileTree) (path? : Option RawText) (name : RawText) (args : List RawText) :
    Except Failure Image :=
  if name.isEmpty then .error .notFound
  else if name.hasSlash then files.executeOrInterpret name name args
  else if name.size > RawText.maxName then .error .nameTooLong
  else files.searchIn name args ((path?.getD defaultPath).splitOn 0x3A) .notFound false

end FileTree

end SiteBoot
