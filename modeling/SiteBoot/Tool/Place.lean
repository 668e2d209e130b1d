import SiteBoot.Tool.Basic
/-!
The programs that make, move and remove files, and the one that lists them.
-/

namespace SiteBoot.Tool

def lastName (path : Chars) : Chars :=
  let trimmed := (path.reverse.dropWhile (· = '/')).reverse
  if trimmed.isEmpty then path.take 1
  else (trimmed.reverse.takeWhile (· ≠ '/')).reverse

def within (directory name : Chars) : Chars :=
  if directory.getLast? = some '/' then directory ++ name else directory ++ '/' :: name

/-- Says that something was not possible with a path. -/
def cannot (what : String) (path : Chars) (failure : Failure) : Work Unit :=
  complain ("cannot ".toList ++ what.toList ++ ' ' :: quoted path ++ ": ".toList ++
    failureText failure) 1

def place (location : Location) (node : Node) : Work Unit :=
  Routine.changeSystem fun system => { system with files := system.files.put location node }

/-- Removes what is at a location and below it. Files that are open stay open. -/
def removeAt (location : Location) : Work Unit := Routine.changeSystem fun system =>
  let below := system.files.nodes.filter fun (other, _) => location.isPrefixOf other
  (below.foldl (fun system (other, _) => system.detach other) system).removeNode location

def isEmptyAt (location : Location) : Work Bool := do
  return ((← Routine.system).files.entries location).isEmpty

def isDirectory (path : Chars) : Work Bool := do
  return match ← look path with
    | .ok (_, some .directory) => true
    | _ => false

/-! ### Making and removing -/

def touch (words : List Chars) : Work Unit := do
  let (options, words) ← options ⟨"acmfhr:t:d:".toList, [("no-create", 'c')], 1, false⟩ words
  if words.isEmpty then failUsage "missing file operand".toList 1
  for path in words do
    match ← look path with
    | .ok (location, none) => if !has options 'c' then place location (.file .nothing false)
    | .ok (_, some _) => pure ()
    | .error failure => if !has options 'c' then cannot "touch" path failure

/-- Whether the last name of a path is the directory itself or the one above it. -/
def isRelative (path : Chars) : Bool := lastName path = ['.'] || lastName path = ['.', '.']

def rm (words : List Chars) : Work Unit := do
  let (options, words) ← options ⟨"rRfidvI".toList,
    [("recursive", 'r'), ("force", 'f'), ("dir", 'd'), ("verbose", 'v')], 1, false⟩ words
  let isForced := has options 'f'
  let isDeep := has options 'r' || has options 'R'
  if words.isEmpty && !isForced then failUsage "missing operand".toList 1
  for path in words do
    match existing (← lookAtLink path) with
    | .error failure =>
      let isMissing := failure matches .notFound || failure matches .notADirectory
      if !(isForced && isMissing) then cannot "remove" path failure
    | .ok (location, node) =>
      if isRelative path && isDeep then
        complain ("refusing to remove '.' or '..' directory: skipping ".toList ++ quoted path) 1
      else if node ≠ .directory || isDeep then
        removeAt location
        if has options 'v' then
          let kind := if node = .directory then "removed directory " else "removed "
          print (kind.toList ++ quoted path ++ ['\n'])
      else if has options 'd' then
        if ← isEmptyAt location then removeAt location
        else cannot "remove" path (.system 39)
      else cannot "remove" path .isADirectory

def makeDirectory (path : Chars) : Work (Except Failure Unit) := do
  match ← look (path.reverse.dropWhile (· = '/')).reverse, ← lookAtLink path with
  | _, .ok (_, some _) => return .error (.system 17)
  | .error failure, _ => return .error failure
  | .ok (_, some _), _ => return .error (.system 17)
  | .ok (location, none), _ =>
    place location .directory
    return .ok ()

/-- The paths to the directories above a path, and to itself. -/
def leadingPaths (path : Chars) : List Chars :=
  let trimmed := (path.reverse.dropWhile (· = '/')).reverse
  let cuts := (List.range trimmed.length).filter fun i =>
    0 < i && trimmed[i]? = some '/' && trimmed[i - 1]? ≠ some '/'
  cuts.map trimmed.take ++ [trimmed]

/-- Makes the directories of some paths that there are not yet. -/
def makeAll : List Chars → Work (Option (Chars × Failure))
  | [] => return none
  | path :: rest => do
    match ← look path with
    | .ok (_, some .directory) => makeAll rest
    | .ok (_, some _) =>
      return some (path, if rest.isEmpty then .system 17 else .notADirectory)
    | _ =>
      match ← makeDirectory path with
      | .ok () => makeAll rest
      | .error failure => return some (path, failure)

def mkdir (words : List Chars) : Work Unit := do
  let (options, words) ← options ⟨"pm:vZ".toList,
    [("parents", 'p'), ("mode", 'm'), ("verbose", 'v')], 1, false⟩ words
  if words.isEmpty then failUsage "missing operand".toList 1
  for path in words do
    if has options 'p' then
      for (path, failure) in ← makeAll (leadingPaths path) do
        cannot "create directory" path failure
    else match ← makeDirectory path with
      | .ok () =>
        if has options 'v' then
          print ((← get).name ++ ": created directory ".toList ++ quoted path ++ ['\n'])
      | .error failure => cannot "create directory" path failure

def rmdir (words : List Chars) : Work Unit := do
  let (options, words) ← options ⟨"pv".toList, [("parents", 'p')], 1, false⟩ words
  if words.isEmpty then failUsage "missing operand".toList 1
  let removeOne (path : Chars) : Work Bool := do
    let failed (failure : Failure) : Work Bool := do
      complain ("failed to remove ".toList ++ quoted path ++ ": ".toList ++ failureText failure) 1
      return false
    match existing (← lookAtLink path) with
    | .error failure => failed failure
    | .ok (location, .directory) =>
      if ← isEmptyAt location then
        removeAt location
        return true
      else failed (.system 39)
    | .ok _ => failed .notADirectory
  for path in words do
    if has options 'p' then
      let mut goesOn := true
      for path in (leadingPaths path).reverse do
        if goesOn then goesOn ← removeOne path
    else
      let _ ← removeOne path

/-! ### Moving and copying -/

/-- The sources of a program that puts them at a target, with the path of each there. -/
def targetsOf (words : List Chars) (isFile : Bool) : Work (List (Chars × Chars)) := do
  match words with
  | [] => failUsage "missing file operand".toList 1
  | [source] => failUsage ("missing destination file operand after ".toList ++ quoted source) 1
  | _ =>
    let target := words.getLastD []
    let sources := words.dropLast
    if !isFile && (← isDirectory target) then
      return sources.map fun source => (source, within target (lastName source))
    match sources with
    | [source] => return [(source, target)]
    | _ =>
      let failure : Failure := match existing (← look target) with
        | .error failure => failure
        | .ok _ => .notADirectory
      fail ("target ".toList ++ quoted target ++ ": ".toList ++ failureText failure) 1

/-- Says that two paths are the same file. -/
def sameFile (source target : Chars) : Work Unit :=
  complain (quoted source ++ " and ".toList ++ quoted target ++ " are the same file".toList) 1

def mv (words : List Chars) : Work Unit := do
  let (options, words) ← options ⟨"finuvTt:".toList,
    [("force", 'f'), ("no-clobber", 'n'), ("verbose", 'v')], 1, false⟩ words
  for (source, target) in ← targetsOf words (has options 'T') do
    match existing (← lookAtLink source), ← lookAtLink target with
    | .error failure, _ => cannot "stat" source failure
    | .ok _, .error failure =>
      complain ("cannot move ".toList ++ quoted source ++ " to ".toList ++ quoted target ++
        ": ".toList ++ failureText failure) 1
    | .ok (start, node), .ok (goal, there) =>
      if start = goal then sameFile source target
      else if start.isPrefixOf goal then
        complain ("cannot move ".toList ++ quoted source ++ " to a subdirectory of itself, ".toList ++
          quoted target) 1
      else if there = some .directory && node ≠ .directory then
        complain ("cannot overwrite directory ".toList ++ quoted target ++
          " with non-directory".toList) 1
      else if there.isSome && there ≠ some .directory && node = .directory then
        complain ("cannot overwrite non-directory ".toList ++ quoted target ++
          " with directory ".toList ++ quoted source) 1
      else if there.isSome && has options 'n' then pure ()
      else if there = some .directory && !(← isEmptyAt goal) then
        complain ("cannot move ".toList ++ quoted source ++ " to ".toList ++ quoted target ++
          ": ".toList ++ failureText (.system 39)) 1
      else
        Routine.changeSystem (·.renameNode start goal)
        if has options 'v' then
          print ("renamed ".toList ++ quoted source ++ " -> ".toList ++ quoted target ++ ['\n'])

def copyFile (source target : Chars) (node : Node) (start : Location) : Work Unit := do
  match ← look target with
  | .ok (goal, some (.file _ executable)) =>
    if goal = start then sameFile source target
    else match node with
      | .file content _ => place goal (.file content executable)
      | _ => place goal (.file .nothing executable)
  | .ok (_, some .sink) => pure ()
  | .ok (_, some .directory) =>
    complain ("cannot overwrite directory ".toList ++ quoted target ++
      " with non-directory".toList) 1
  | .ok (goal, _) =>
    if target.getLast? = some '/' then cannot "create regular file" target .notADirectory
    else place goal node
  | .error failure => cannot "create regular file" target failure

/-- Copies what is at a location and below it to another location. -/
def copyTree (start goal : Location) : Work Unit := Routine.changeSystem fun system =>
  let copies := system.files.nodes.filterMap fun (other, node) =>
    if start.isPrefixOf other then some (goal ++ other.drop start.length, node) else none
  let files := copies.reverse.foldl
    (fun files (other, node) =>
      if files.node? other = some .directory && node = .directory then files
      else files.put other node)
    system.files
  { system with files := files }

def cp (words : List Chars) : Work Unit := do
  let (options, words) ← options ⟨"rRafpvnTdLPiut:".toList,
    [("recursive", 'r'), ("archive", 'a'), ("force", 'f'), ("verbose", 'v')], 1, false⟩ words
  let isDeep := "rRa".toList.any (has options)
  for (source, target) in ← targetsOf words (has options 'T') do
    let found ← if isDeep then lookAtLink source else look source
    match existing found with
    | .error failure => cannot "stat" source failure
    | .ok (start, .directory) =>
      if !isDeep then
        complain ("-r not specified; omitting directory ".toList ++ quoted source) 1
      else match ← look target with
        | .error failure => cannot "create directory" target failure
        | .ok (goal, there) =>
          if start.isPrefixOf goal then
            complain ("cannot copy a directory, ".toList ++ quoted source ++
              ", into itself, ".toList ++ quoted target) 1
          else if there.isSome && there ≠ some .directory then
            complain ("cannot overwrite non-directory ".toList ++ quoted target ++
              " with directory ".toList ++ quoted source) 1
          else copyTree start goal
    | .ok (start, node) =>
      if !(has options 'n' && (← look target) matches .ok (_, some _)) then
        copyFile source target node start
        if has options 'v' then
          print (quoted source ++ " -> ".toList ++ quoted target ++ ['\n'])

def ln (words : List Chars) : Work Unit := do
  let (options, words) ← options ⟨"sfnvTrLPi".toList,
    [("symbolic", 's'), ("force", 'f'), ("no-dereference", 'n')], 1, false⟩ words
  let isSymbolic := has options 's'
  let kind := if isSymbolic then "symbolic link" else "hard link"
  let pairs ← match words with
    | [source] => pure [(source, lastName source)]
    | words => do
      let target := words.getLastD []
      let isLink := (← lookAtLink target) matches .ok (_, some (.link _))
      targetsOf words (has options 'T' || (has options 'n' && isLink))
  for (source, target) in pairs do
    let node? ← if isSymbolic then pure (Except.ok (Node.link (.ofChars source)))
      else pure ((existing (← lookAtLink source)).map Prod.snd)
    match node?, ← lookAtLink target with
    | .error failure, _ =>
      complain ("failed to access ".toList ++ quoted source ++ ": ".toList ++
        failureText failure) 1
    | .ok .directory, _ =>
      complain (quoted source ++ ": hard link not allowed for directory".toList) 1
    | .ok node, .ok (location, there) =>
      if there.isSome && !has options 'f' then
        complain ("failed to create ".toList ++ kind.toList ++ ' ' :: quoted target ++
          ": File exists".toList) 1
      else
        if there.isSome then removeAt location
        place location node
    | .ok _, .error failure =>
      complain ("failed to create ".toList ++ kind.toList ++ ' ' :: quoted target ++ ": ".toList ++
        failureText failure) 1

/-! ### Permissions -/

/-- Whether a file may be executed after a change that a mode describes, if it is a mode. -/
def executableAfter? (mode : Chars) (executable : Bool) : Option Bool :=
  if mode.head?.any Char.isDigit then
    if mode.all fun c => '0' ≤ c && c ≤ '7' then
      some (mode.foldl (fun n c => n * 8 + (c.toNat - 48)) 0 &&& 0o111 ≠ 0)
    else none
  else
    let clauses := ((RawText.ofChars mode).splitOn 0x2C).map RawText.toChars
    clauses.foldl
      (fun state clause => state.bind fun executable =>
        let changes := clause.dropWhile "augo".toList.contains
        match changes with
        | sign :: letters =>
          if !("=+-".toList.contains sign) || !letters.all "rwxXstugo".toList.contains then none
          else
            let hasX := letters.contains 'x'
            some (match sign with
              | '+' => executable || hasX
              | '-' => executable && !hasX
              | _ => hasX)
        | [] => none)
      (some executable)

def chmod (words : List Chars) : Work Unit := do
  let isMode (word : Chars) : Bool := (executableAfter? word false).isSome
  let (mode?, words) := match words with
    | ('-' :: mode) :: rest =>
      if isMode ('-' :: mode) then (some ('-' :: mode), rest) else (none, words)
    | words => (none, words)
  let (_, words) ← options ⟨"Rcfv".toList, [("recursive", 'R')], 1, false⟩ words
  let (mode?, words) := match mode? with
    | some mode => (some mode, words)
    | none => (words.head?, words.tail)
  match mode? with
  | none => failUsage "missing operand".toList 1
  | some mode =>
    if words.isEmpty then failUsage ("missing operand after ".toList ++ quoted mode) 1
    if !isMode mode then failUsage ("invalid mode: ".toList ++ quoted mode) 1
    for path in words do
      match existing (← look path) with
      | .error failure => cannot "access" path failure
      | .ok (location, .file content executable) =>
        place location (.file content ((executableAfter? mode executable).getD executable))
      | .ok _ => pure ()

/-! ### Listing -/

/-- The sign after a name that says what there is. -/
def signOf (options : List (Char × Chars)) (node : Node) : Chars :=
  match node with
  | .directory => if has options 'F' || has options 'p' then ['/'] else []
  | .link _ => if has options 'F' then ['@'] else []
  | .file _ true | .utility _ => if has options 'F' then ['*'] else []
  | _ => []

/-- The names in a directory that are listed, in their order. -/
def listedNames (options : List (Char × Chars)) (files : FileTree) (location : Location) :
    List (Chars × Node) :=
  let isShown (name : Chars) : Bool :=
    has options 'a' || has options 'A' || name.head? ≠ some '.'
  let own := if has options 'a' then [(['.'], Node.directory), (['.', '.'], Node.directory)] else []
  let entries := (files.entries location).map fun (name, node) => (name.toChars, node)
  let before (a b : Chars × Node) : Bool :=
    !(RawText.ofChars b.1).bytes.lex (RawText.ofChars a.1).bytes (· < ·)
  let sorted := ((own ++ entries).filter (isShown ·.1)).mergeSort before
  if has options 'r' then sorted.reverse else sorted

/-- Lists a directory and, if that is asked, those in it, down to a depth. -/
def listDirectory (options : List (Char × Chars)) : Nat → Bool → Bool → Chars → Location → Work Unit
  | 0, _, _, _, _ => return
  | depth + 1, isNamed, isFirst, path, location => do
    let files := (← Routine.system).files
    let entries := listedNames options files location
    if isNamed then
      print ((if isFirst then [] else ['\n']) ++ quotedIfNeeded path ++ ":\n".toList)
    for (name, node) in entries do print (name ++ signOf options node ++ ['\n'])
    if has options 'R' then
      for (name, node) in entries do
        if node = .directory && name ≠ ['.'] && name ≠ ['.', '.'] then
          listDirectory options depth true false (within path name)
            (location ++ [.ofChars name])

def maxListDepth : Nat := 256

def ls (words : List Chars) : Work Unit := do
  let (options, words) ← options ⟨"1aAdRFprltShcCUmxgonisuvkGHL".toList,
    [("all", 'a'), ("almost-all", 'A'), ("directory", 'd'), ("recursive", 'R')], 2, false⟩ words
  let mut plain : List (Chars × Node) := []
  let mut directories : List (Chars × Location) := []
  let before (a b : Chars) : Bool :=
    !(RawText.ofChars b).bytes.lex (RawText.ofChars a).bytes (· < ·)
  for path in (if words.isEmpty then [['.']] else words) do
    let found ← match existing (← look path) with
      | .ok found => pure (.ok found)
      | .error _ => do pure (existing (← lookAtLink path))
    match found with
    | .error failure =>
      complain ("cannot access ".toList ++ quoted path ++ ": ".toList ++ failureText failure) 2
    | .ok (location, .directory) =>
      if has options 'd' then plain := plain ++ [(path, .directory)]
      else directories := directories ++ [(path, location)]
    | .ok (_, node) => plain := plain ++ [(path, node)]
  let plainSorted := plain.mergeSort fun a b => before a.1 b.1
  for (path, node) in plainSorted do print (path ++ signOf options node ++ ['\n'])
  let isNamed := 1 < words.length || has options 'R'
  let mut isFirst := plain.isEmpty
  for (path, location) in directories.mergeSort fun a b => before a.1 b.1 do
    listDirectory options maxListDepth isNamed isFirst path location
    isFirst := false

end SiteBoot.Tool
