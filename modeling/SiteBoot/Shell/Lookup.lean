import SiteBoot.Shell.Process
import SiteBoot.System.Execution
/-!
What the name of a command stands for: a function, a builtin or a program.
-/

namespace SiteBoot.Shell

def commonBuiltins : List String :=
  ["[", "alias", "bg", "cd", "chdir", "command", "echo", "false", "fg", "getopts", "hash", "jobs",
    "kill", "printf", "pwd", "read", "test", "true", "type", "ulimit", "umask", "unalias", "wait"]

/-- Whether a name is that of a builtin. -/
def isBuiltin (name : Chars) : Bool :=
  specialBuiltins.contains (text name) || commonBuiltins.contains (text name)

/-- Whether a name is that of a builtin whose errors end the shell. -/
def isSpecialBuiltin (name : Chars) : Bool := specialBuiltins.contains (text name)

/-- What a name of a command stands for. -/
inductive Meaning where
  | function (body : Clause)
  | builtin
  | program (path : Chars)
  | missing (failure : Failure)

/-- The paths at which a program is looked for by its name. -/
def candidates (path name : Chars) : List Chars :=
  let directories := (RawText.ofChars path).splitOn 0x3A
  directories.map fun directory =>
    if directory.isEmpty then name else directory.toChars ++ '/' :: name

/-- The first of some paths at which there is a program, or why there is none. -/
def firstProgram (files : FileTree) : List Chars → Failure → Except Failure Chars
  | [], failure => .error failure
  | path :: rest, failure =>
    match files.find (.ofChars path) with
    | .ok (_, some (.utility _)) | .ok (_, some (.file _ true)) => .ok path
    | .ok (_, some _) => firstProgram files rest .permissionDenied
    | .ok (_, none) | .error .notFound | .error .notADirectory => firstProgram files rest failure
    | .error failure => firstProgram files rest failure

/-- The directories that are searched unless variables say otherwise. -/
def standardPath : Chars :=
  "/usr/local/sbin:/usr/local/bin:/usr/sbin:/usr/bin:/sbin:/bin".toList

/-- What a program stands for that is searched for in directories. -/
def programMeaning (files : FileTree) (path name : Chars) : Meaning :=
  match firstProgram files (candidates path name) .notFound with
  | .ok path => .program path
  | .error failure => .missing failure

/-- What a name stands for, where directories to be searched may be given. -/
def meaningOf (withFunctions : Bool) (path? : Option Chars) (name : Chars) : Run Meaning := do
  let state ← get
  let files := (← Routine.system).tree
  if name.contains '/' then return .program name
  match (if withFunctions then state.functions.lookup name else none) with
  | some body => return .function body
  | none =>
    if isBuiltin name then return .builtin
    match path?, state.hashed.lookup name with
    | none, some path => return .program path
    | _, _ =>
      let meaning := programMeaning files (path?.getD (state.valueOf "PATH")) name
      match path?, meaning with
      | none, .program path =>
        modify fun state => { state with hashed := state.hashed ++ [(name, path)] }
      | _, _ => pure ()
      return meaning

/-- What the shell says of a program that it cannot run. -/
def programFailure (failure : Failure) : Chars := failureText "not found" failure

/-- The exit code for a program that cannot be run. -/
def programFailureCode (failure : Failure) : Nat :=
  match failure with
  | .notFound | .notADirectory | .tooManyLinks | .nameTooLong => 127
  | _ => 126

/-- How much of a file is looked at to tell scripts from other files. -/
def scriptSample : Nat := 128

/-- Whether a file begins with a line that no script has, since there are characters in it that
cannot be shown. -/
def beginsUnlikeScript (content : RawText) : Bool :=
  ((content.toChars.take scriptSample).takeWhile (· ≠ '\n')).any fun c =>
    c < '\t' || ('\x0f' < c && c < ' ' && c ≠ '\x1b') || c = '\x7f'

/-- What is run for a path, where the shell takes what has no format of its own if it may be a
script. -/
def imageAt (files : FileTree) (path name : RawText) (args : List RawText) :
    Except Failure Image :=
  match files.execute path name args with
  | .error .badFormat =>
    match files.read path with
    | .ok content =>
      if beginsUnlikeScript content then .error .badFormat
      else files.execute "/bin/sh" "/bin/sh" (path :: args)
    | .error failure => .error failure
  | result => result

/-- What is run for the first of some paths, or why nothing is. -/
def firstImage (files : FileTree) (name : Chars) (args : List Chars) :
    List Chars → Failure → Except Failure Image
  | [], failure => .error failure
  | path :: rest, failure =>
    match imageAt files (.ofChars path) (.ofChars name) (args.map .ofChars) with
    | .ok image => .ok image
    | .error .notFound | .error .notADirectory => firstImage files name args rest failure
    | .error failure => firstImage files name args rest failure

/-- Puts a program in the place of the shell. If that is not possible, the process ends. -/
def replaceBy {α : Type} (paths : List Chars) (words : List Chars) : Run α := do
  let state ← get
  let files := (← Routine.system).tree
  let name := words.headD []
  match firstImage files name words.tail paths .notFound with
  | .ok image => Routine.replace image state.exported
  | .error failure =>
    setStatus (programFailureCode failure)
    warn (name ++ ": ".toList ++ programFailure failure)
    throw (.exit false)

/-- The paths at which a program is looked for that has been found at one of them: that one and
those after it. -/
def pathsFrom (path? : Option Chars) (path : Chars) (name : Chars) : Run (List Chars) := do
  if name.contains '/' then return [name]
  let paths := candidates (path?.getD ((← get).valueOf "PATH")) name
  return path :: (paths.dropWhile (· ≠ path)).drop 1

/-- Runs a program in another process, and says its code. -/
def runProgram (paths words : List Chars) : Run Nat := do
  releaseJob
  let number ← Routine.fork (do
      let _ ← Routine.attempt (replaceBy (α := Unit) paths words)
      Routine.finish (.exited (.ofNat (← get).status)))
    (fun (_ : Except Interrupt Unit) => 0)
  awaitAll [number]

end SiteBoot.Shell
