import SiteBoot.Shell.Builtin.Basic
import SiteBoot.Shell.Printing
/-!
The builtins for the directory that the shell stands in and for the permissions of new files. The
shell has a path for its directory in which the steps upwards are taken by the names.
-/

namespace SiteBoot.Shell

/-- The location of a path by its names, which begin with the outermost one. -/
def namesFrom (start : List Chars) (path : Chars) : List Chars :=
  ((RawText.ofChars path).splitOn 0x2F).foldl
    (fun names name =>
      if name.isEmpty || name = RawText.ofString "." then names
      else if name = RawText.ofString ".." then names.dropLast
      else names ++ [name.toChars])
    start

/-- The path of names. Two slashes at the front of a path stay. -/
def pathOfNames (isDoubled : Bool) (names : List Chars) : Chars :=
  (if isDoubled then ['/'] else []) ++ '/' :: ['/'].intercalate names

/-- Whether a path begins with two slashes and no more. -/
def isDoubled : Chars → Bool
  | '/' :: '/' :: '/' :: _ => false
  | '/' :: '/' :: _ => true
  | _ => false

/-- The path of the directory to which a path leads from another one, by the names. -/
def pathFrom (directory path : Chars) : Chars :=
  if path.head? = some '/' then pathOfNames (isDoubled path) (namesFrom [] path)
  else pathOfNames (isDoubled directory) (namesFrom (namesFrom [] directory) path)

/-- The path of the directory that the process stands in, without links. -/
def realDirectory : Run Chars := do
  let names := (← Routine.system).current.here.map RawText.toChars
  return pathOfNames false names

/-- Takes note of the directory that the shell stands in now. -/
def setDirectory (path : Chars) (keepsOld : Bool) : Run Unit := do
  if keepsOld then assign "OLDPWD".toList (some (← get).directory) true
  modify fun state => { state with directory := path }
  assign "PWD".toList (some path) true

/-- Goes to a directory, and says whether that was possible. -/
def goTo (path : Chars) (isPhysical : Bool) : Run Bool := do
  let directory := (← get).directory
  let target := if isPhysical then path else pathFrom directory path
  match (← Routine.system).tree.enter (.ofChars target) with
  | .error _ => return false
  | .ok files =>
    Routine.changeSystem (·.changeCurrent fun process => { process with here := files.here })
    let real ← realDirectory
    setDirectory (if isPhysical then real else target) true
    return true

/-- The options that say how a path is to be understood. The last one counts. -/
def readPhysical (words : List Chars) : Run (Bool × List Chars) := do
  let (options, words) ← readOptions "LP" words
  return (options.getLast?.any (·.1 = 'P'), words)

/-- Whether a path is not looked for in other directories. -/
def isPlainPath : Chars → Bool
  | '/' :: _ | ['.'] | '.' :: '/' :: _ | ['.', '.'] | '.' :: '.' :: '/' :: _ => true
  | _ => false

/-- The first of some directories in which there is another one by its path, with the whole path
and whether it was not found where the shell stands. -/
def directoryIn? (files : FileTree) (directories : List Chars) (path : Chars) :
    Option (Chars × Bool) :=
  directories.firstM fun directory =>
    let whole := if directory.isEmpty then path else directory ++ '/' :: path
    match files.find (.ofChars whole) with
    | .ok (_, some .directory) => some (whole, !directory.isEmpty)
    | _ => none

def cdBuiltin (words : List Chars) : Run Nat := do
  let (isPhysical, words) ← readPhysical words
  let state ← get
  let (target, isBack) := match words with
    | [] => (state.valueOf "HOME", false)
    | ['-'] :: _ => (state.valueOf "OLDPWD", true)
    | word :: _ => (word, false)
  let directories := ((RawText.ofChars (state.valueOf "CDPATH")).splitOn 0x3A).map RawText.toChars
  let sought := if target.isEmpty then ['.'] else target
  let files := (← Routine.system).tree
  let (path, isElsewhere) :=
    if isPlainPath target then (target, false)
    else (directoryIn? files directories sought).getD (sought, false)
  if !(← goTo path isPhysical) then fail ("can't cd to ".toList ++ sought)
  if isBack || isElsewhere then print ((← get).directory ++ ['\n'])
  return 0

def pwdBuiltin (words : List Chars) : Run Nat := do
  let (isPhysical, _) ← readPhysical words
  let path ← if isPhysical then realDirectory else pure (← get).directory
  print (path ++ ['\n'])
  return 0

/-! ### Permissions -/

/-- A number in octal digits, at least four of them. -/
def octalText (n : Nat) : Chars :=
  let digits := Nat.toDigits 8 n
  List.replicate (4 - digits.length) '0' ++ digits

def permissionText (permissions : Nat) : Chars :=
  let letters (bits : Nat) : Chars :=
    [(4, 'r'), (2, 'w'), (1, 'x')].filterMap fun (bit, letter) =>
      if bits &&& bit = 0 then none else some letter
  "u=".toList ++ letters (permissions >>> 6) ++ ",g=".toList ++ letters (permissions >>> 3) ++
    ",o=".toList ++ letters permissions

/-- The permissions that are left of all without some. -/
def withoutPermissions (all some : Nat) : Nat := all &&& (0o7777 ^^^ some)

/-- For whom permissions are changed: everyone, the owner, the group and the others. -/
def placesOf (letters : Chars) : Nat :=
  letters.foldl
    (fun places c => places ||| (match c with
      | 'a' => 0o111
      | 'u' => 0o100
      | 'g' => 0o010
      | _ => 0o001))
    0

/-- The permissions that letters stand for, where some are given already. -/
def permissionsOf (given : Nat) (letters : Chars) : Nat :=
  letters.foldl
    (fun bits c => bits ||| (match c with
      | 'r' => 4
      | 'w' => 2
      | 'x' => 1
      | 'u' => given >>> 6
      | 'g' => given >>> 3
      | 'o' => given
      | 'X' => if given &&& 0o111 = 0 then 0 else 1
      | _ => 0))
    0 &&& 7

/-- The permissions after changes that letters describe, or nothing if they describe none. Places
that are named before some letters count for what follows them up to a comma. -/
def changedPermissions? (given : Nat) : Nat → Nat → Nat → Chars → Option Nat
  | _, _, now, [] => some now
  | 0, _, _, _ => none
  | bound + 1, places, now, chars =>
    let who := chars.takeWhile "augo".toList.contains
    let places := places ||| placesOf who
    let places := if places = 0 then 0o111 else places
    match chars.drop who.length with
    | sign :: rest =>
      if !("=+-".toList.contains sign) then none
      else
        let letters := rest.takeWhile "rwxugoXs".toList.contains
        let bits := permissionsOf given letters * places
        let now := match sign with
          | '-' => withoutPermissions now bits
          | '=' => bits ||| withoutPermissions now (places * 7)
          | _ => now ||| bits
        match rest.drop letters.length with
        | ',' :: after => changedPermissions? given bound 0 now after
        | [] => some now
        | after => changedPermissions? given bound places now after
    | [] => some now

/-- What new files do not get after a word has been followed. -/
def maskOf (mask : Nat) (word : Chars) : Run Nat := do
  if word.head?.any Char.isDigit then
    if word.all isOctal then return word.foldl (fun n c => n * 8 + (c.toNat - 48)) 0 % 0o1000
    else fail ("Illegal number: ".toList ++ word)
  else
    let given := withoutPermissions 0o777 mask
    match changedPermissions? given (word.length + 1) 0 given word with
    | some now => return withoutPermissions 0o777 now
    | none => fail ("Illegal mode: ".toList ++ word)

def umaskBuiltin (words : List Chars) : Run Nat := do
  let (options, words) ← readOptions "S" words
  let mask := (← Routine.system).current.mask
  match words with
  | [] =>
    let text := if options.isEmpty then octalText mask
      else permissionText (withoutPermissions 0o777 mask)
    print (text ++ ['\n'])
  | word :: _ =>
    let mask ← maskOf mask word
    Routine.changeSystem (·.changeCurrent fun process => { process with mask := mask })
  return 0

end SiteBoot.Shell
