import SiteBoot.Shell.Builtin.Basic
/-!
The builtins for variables, arguments and options of the shell.
-/

namespace SiteBoot.Shell

def mark (word : String) (has : Variable → Bool) (change : Variable → Variable)
    (words : List Chars) : Run Nat := do
  let (options, names) ← readOptions "p" words
  if !options.isEmpty || names.isEmpty then
    printVariables word ((← get).vars.filter (has ·.2))
    return 0
  for word in names do
    let name := word.takeWhile (· ≠ '=')
    match word.drop name.length, (← get).lookup? name with
    | [], some stored => modify (·.setVariable name (change stored))
    | _, _ =>
      let (name, value) ← nameAndValue word
      if value.isSome then
        assign name value false
      let stored := ((← get).lookup? name).getD ⟨none, false, false⟩
      modify (·.setVariable name (change stored))
  return 0

def exportBuiltin : List Chars → Run Nat :=
  mark "export" Variable.isExported fun stored => { stored with isExported := true }

def readonlyBuiltin : List Chars → Run Nat :=
  mark "readonly" Variable.isReadOnly fun stored => { stored with isReadOnly := true }

def unsetBuiltin (words : List Chars) : Run Nat := do
  let (options, names) ← readOptions "vf" words
  let isFunction := (options.getLast?.map Prod.fst) = some 'f'
  for word in names do
    if isFunction then
      modify fun state => { state with functions := state.functions.filter (·.1 ≠ word) }
    else
      let (name, _) ← nameAndValue word
      assign name none false
  return 0

/-- Makes a variable one of the function's own. -/
def makeLocal (word : Chars) (isExported : Bool) : Run Unit := do
  if word = ['-'] then
    modify fun state => { state with
      frames := match state.frames with
        | frame :: frames => ((word, some ⟨some state.options, false, false⟩) :: frame) :: frames
        | [] => [] }
    return
  let (name, value) ← nameAndValue word
  let state ← get
  match state.frames with
  | [] => return
  | frame :: frames =>
    if !frame.any (·.1 = name) then
      set { state with frames := ((name, state.lookup? name) :: frame) :: frames }
    match value with
    | some _ => assign name value isExported
    | none => return

/-- Puts back the variables of a frame as they were. -/
def State.popFrame (state : State) : State :=
  match state.frames with
  | [] => state
  | frame :: frames =>
    let state := { state with frames := frames }
    let pathChanged := frame.any (·.1 = "PATH".toList)
    let state := if pathChanged then { state with hashed := [] } else state
    frame.foldl
      (fun state (name, old) =>
        match old with
        | some stored =>
          if name = ['-'] then { state with options := stored.value.getD [] }
          else state.setVariable name stored
        | none => state.unsetVariable name)
      state

/-- Puts back variables until there are so many frames. -/
def unwindTo (count : Nat) : Run Unit := modify fun state =>
  (List.range (state.frames.length - count)).foldl (fun state _ => state.popFrame) state

def localBuiltin (words : List Chars) : Run Nat := do
  if (← get).depth = 0 then fail "not in a function".toList
  for word in words do makeLocal word false
  return 0

/-! ### Options and arguments -/

/-- The options of the shell by their letters. Two have none that a user could write. -/
def optionNames : List (Char × String) :=
  [('e', "errexit"), ('f', "noglob"), ('I', "ignoreeof"), ('i', "interactive"), ('m', "monitor"),
    ('n', "noexec"), ('s', "stdin"), ('x', "xtrace"), ('v', "verbose"), ('V', "vi"),
    ('E', "emacs"), ('C', "noclobber"), ('a', "allexport"), ('b', "notify"), ('u', "nounset"),
    ('p', "privileged"), ('\x01', "nolog"), ('\x02', "debug")]

def setOption (letter : Char) (isOn : Bool) : Run Unit := do
  if letter < ' ' || !(optionNames.any (·.1 = letter)) then
    fail ("Illegal option -".toList ++ [letter])
  modify fun state => { state with
    options := state.options.filter (· ≠ letter) ++ (if isOn then [letter] else []) }

/-- Sets an option by its name or takes it back, or lists all options. -/
def setNamedOption (name? : Option Chars) (isOn : Bool) : Run Unit := do
  match name? with
  | none =>
    let state ← get
    if isOn then print "Current option settings\n".toList
    for (letter, name) in optionNames do
      let isSet := state.hasOption letter
      if isOn then
        let fill := List.replicate (16 - name.length) ' '
        print (name.toList ++ fill ++ (if isSet then "on\n" else "off\n").toList)
      else print ((if isSet then "set -o " else "set +o ").toList ++ name.toList ++ ['\n'])
  | some name =>
    match optionNames.find? (·.2.toList = name) with
    | some (letter, _) =>
      modify fun state => { state with
        options := state.options.filter (· ≠ letter) ++ (if isOn then [letter] else []) }
    | none => fail ("Illegal option -o ".toList ++ name)

/-- Sets the options of a word, of which one may need the next word. -/
def setLetters (isOn : Bool) : Chars → List Chars → Run (List Chars)
  | [], words => return words
  | 'o' :: rest, words => do
    setNamedOption words.head? isOn
    setLetters isOn rest words.tail
  | c :: rest, words => do
    setOption c isOn
    setLetters isOn rest words

def setArgs (args : List Chars) : Run Unit :=
  modify fun state => { state with args := args, optionIndex := 1, optionOffset := none }

/-- Sets the options at the beginning of words, at most so many words of them, and then the
arguments if there are any. -/
def setWords : Nat → List Chars → Run Unit
  | 0, words => setArgs words
  | bound + 1, words => do
    match words with
    | [] => return
    | ['-'] :: rest =>
      modify fun state => { state with options := state.options.filter fun c => c ≠ 'x' && c ≠ 'v' }
      if !rest.isEmpty then setArgs rest
    | ['-', '-'] :: rest => setArgs rest
    | ('-' :: letters) :: rest => do setWords bound (← setLetters true letters rest)
    | ('+' :: letters) :: rest => do setWords bound (← setLetters false letters rest)
    | words => setArgs words

def setBuiltin (words : List Chars) : Run Nat := do
  if words.isEmpty then
    printVariables "" ((← get).vars.filter (·.2.value.isSome))
  else setWords (words.length + 1) words
  return 0

def shiftBuiltin (words : List Chars) : Run Nat := do
  let count ← match words with
    | word :: _ => natural word
    | [] => pure 1
  let args := (← get).args
  if args.length < count then fail "can't shift that many".toList
  setArgs (args.drop count)
  return 0

/-- What comes of looking for the next option among words: its letter, its argument or that there
is none, what is said, whether the options are at their end, and where to look next. -/
structure NextOption where
  letter : Char
  value : Option Chars
  complaint : Option Chars
  isAtEnd : Bool
  index : Nat
  offset : Option Nat

def nextOption (letters : Chars) (words : List Chars) (index : Nat) (offset : Option Nat) :
    NextOption :=
  let isQuiet := letters.head? = some ':'
  let current := match offset with
    | some offset => if 1 < index then (words.getD (index - 2) []).drop offset else []
    | none => []
  let atEnd (index : Nat) : NextOption := ⟨'?', none, none, true, index, none⟩
  let decide (index : Nat) (chars : Chars) : NextOption :=
    match chars with
    | [] => atEnd index
    | c :: rest =>
      let nextOffset := (words.getD (index - 2) []).length - rest.length
      match optionKind? c (if isQuiet then letters.tail else letters) with
      | none =>
        if isQuiet then ⟨'?', some [c], none, false, index, some nextOffset⟩
        else ⟨'?', none, some ("Illegal option -".toList ++ [c, '\n']), false, index,
          some nextOffset⟩
      | some false => ⟨c, some [], none, false, index, some nextOffset⟩
      | some true =>
        if !rest.isEmpty then ⟨c, some rest, none, false, index, none⟩
        else match words[index - 1]? with
          | some value => ⟨c, some value, none, false, index + 1, none⟩
          | none =>
            if isQuiet then ⟨':', some [c], none, false, index, none⟩
            else ⟨'?', none, some ("No arg for -".toList ++ c :: " option\n".toList), false, index,
              none⟩
  if !current.isEmpty then decide index current
  else
    match words[index - 1]? with
    | some ['-', '-'] => atEnd (index + 1)
    | some ('-' :: c :: rest) => decide (index + 1) (c :: rest)
    | _ => atEnd index

def getoptsBuiltin (words : List Chars) : Run Nat := do
  match ← withoutOptions words with
  | letters :: name :: given =>
    let state ← get
    let args := if given.isEmpty then state.args else given
    let isBeyond := args.length + 1 < state.optionIndex
    let index := if isBeyond then 1 else state.optionIndex
    let found := nextOption letters args index (if isBeyond then none else state.optionOffset)
    for complaint in found.complaint do
      let _ ← writeTo 2 complaint
    if !found.isAtEnd then
      match found.value with
      | some value => assign "OPTARG".toList (some value) false
      | none => assign "OPTARG".toList none false
    assign "OPTIND".toList (some (decimal found.index)) false
    let (name, _) ← nameAndValue name
    assign name (some [found.letter]) false
    modify fun state => { state with optionIndex := found.index, optionOffset := found.offset }
    return if found.isAtEnd then 1 else 0
  | _ => fail "Usage: getopts optstring var [arg...]".toList

/-! ### Reading lines -/

/-- The characters up to the end of a line, at most so many, marked where a backslash was before
them, and whether the line has an end. The last ones come first. -/
def readMarked (isRaw : Bool) : Nat → Bool → List (Char × Bool) →
    Run (List (Char × Bool) × Bool)
  | 0, _, soFar => return (soFar, false)
  | bound + 1, isEscaped, soFar => do
    match ← Routine.read 0 1 with
    | .error _ => return (soFar, false)
    | .ok text =>
      match text.toChars with
      | [] => return (soFar, false)
      | c :: _ =>
        if c = '\x00' then readMarked isRaw bound isEscaped soFar
        else if isEscaped then
          readMarked isRaw bound false (if c = '\n' then soFar else (c, true) :: soFar)
        else if c = '\\' && !isRaw then readMarked isRaw bound true soFar
        else if c = '\n' then return (soFar, true)
        else readMarked isRaw bound false ((c, false) :: soFar)

def maxLine : Nat := 10000000

def readBuiltin (words : List Chars) : Run Nat := do
  let (options, names) ← readOptions "p:r" words
  if names.isEmpty then fail "arg count".toList
  let isRaw := options.any (·.1 = 'r')
  let (reversed, isWhole) ← readMarked isRaw maxLine false []
  let fields := lineFields (← get).separators names.length reversed.reverse
  for (name, i) in names.zipIdx do
    let (name, _) ← nameAndValue name
    assign name (some (fields.getD i [])) false
  return if isWhole then 0 else 1

/-! ### Aliases -/

def aliasBuiltin (words : List Chars) : Run Nat := do
  if words.isEmpty then
    for (name, value) in inPlaces namePlaces (← get).aliases do print (aliasText name value)
  let mut status := 0
  for word in words do
    let name := (word.take 1) ++ (word.drop 1).takeWhile (· ≠ '=')
    match word.drop name.length with
    | _ :: value =>
      modify fun state => { state with
        aliases := state.aliases.filter (·.1 ≠ name) ++ [(name, value)] }
    | [] =>
      match (← get).aliases.lookup name with
      | some value => print (aliasText name value)
      | none =>
        let _ ← writeTo 2 ("alias: ".toList ++ name ++ " not found\n".toList)
        status := 1
  return status

def unaliasBuiltin (words : List Chars) : Run Nat := do
  let (options, names) ← readOptions "a" words
  if !options.isEmpty then
    modify fun state => { state with aliases := [] }
    return 0
  let mut status := 0
  for name in names do
    if (← get).aliases.any (·.1 = name) then
      modify fun state => { state with aliases := state.aliases.filter (·.1 ≠ name) }
    else
      let _ ← writeTo 2 ("unalias: ".toList ++ name ++ " not found\n".toList)
      status := 1
  return status

end SiteBoot.Shell
