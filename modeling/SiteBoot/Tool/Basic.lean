import SiteBoot.System.Calls
/-!
What the programs of the base system have in common: options, messages and output that is kept
until it is much or something is said about an error. Texts are characters that stand for bytes.
-/

namespace SiteBoot.Tool

abbrev Chars := List Char

/-- A program that runs. -/
structure State where
  name : Chars
  env : List (RawText × RawText)
  /-- The output that is kept, the last text first. -/
  output : List Chars
  /-- The exit code if nothing else happens. -/
  status : Nat

/-- What a program does. It can end with an exit code at any place. -/
abbrev Work := Routine State Nat

def exit {α : Type} (status : Nat) : Work α := throw status

/-- The value of a variable of the environment. -/
def lookUp? (name : String) : Work (Option RawText) := do
  return (← get).env.lookup (.ofString name)

def print (text : Chars) : Work Unit :=
  modify fun tool => { tool with output := text :: tool.output }

/-- Writes out what is kept, and says whether that was possible. -/
def flush : Work (Except Failure Unit) := do
  let text := (← get).output.reverse.flatten
  modify fun tool => { tool with output := [] }
  if text.isEmpty then return .ok () else Routine.write 1 (.ofChars text)

/-- The text that the system has for a failure. -/
def failureText : Failure → Chars
  | .system (.ofNat code) => (Failure.systemText code).toList
  | failure => failure.message.toList

/-- Says something after the name of the program. -/
def warn (text : Chars) : Work Unit := do
  let _ ← flush
  let _ ← Routine.write 2 (.ofChars ((← get).name ++ ": ".toList ++ text ++ ['\n']))

def setStatus (status : Nat) : Work Unit := modify fun tool => { tool with status := status }

def complain (text : Chars) (status : Nat) : Work Unit := do
  warn text
  setStatus status

def fail {α : Type} (text : Chars) (status : Nat) : Work α := do
  warn text
  exit status

/-- Says what is wrong with the words, and where to read more, and ends. -/
def failUsage {α : Type} (text : Chars) (status : Nat) : Work α := do
  warn text
  let name := (← get).name
  let _ ← Routine.write 2 (.ofChars ("Try '".toList ++ name ++
    " --help' for more information.\n".toList))
  exit status

/-! ### Names in messages -/

/-- A character that a shell would take for itself. -/
def isPlainInName (c : Char) : Bool := c.isAlphanum || "%+,-./:@_]".toList.contains c

/-- The parts of a name between single quotes, where a quote or what cannot be shown stands
outside. -/
def quotedInner : Chars → Chars
  | [] => []
  | '\'' :: rest => "'\\''".toList ++ quotedInner rest
  | c :: rest =>
    if c = '\n' then "'$'\\n''".toList ++ quotedInner rest
    else if c = '\t' then "'$'\\t''".toList ++ quotedInner rest
    else c :: quotedInner rest

def quoted (name : Chars) : Chars :=
  let isShown := name.all fun c => ' ' ≤ c && c ≤ '~' && !"\"$\\\x60".toList.contains c
  if name.contains '\'' && isShown then '"' :: name ++ ['"']
  else '\'' :: quotedInner name ++ ['\'']

/-- A name in quotes if it needs them. -/
def quotedIfNeeded (name : Chars) : Chars :=
  if !name.isEmpty && name.all isPlainInName then name else quoted name

/-! ### Options -/

/-- The options that a program knows: its letters, of which each may be followed by a colon if it
has a value, and the letters that words stand for. -/
structure Known where
  letters : Chars
  words : List (String × Char)
  /-- The exit code for a wrong option. -/
  wrong : Nat
  /-- No options come after the first other word. -/
  stops : Bool

/-- Whether a letter has a value, if it is known. -/
def Known.hasValue? (known : Known) (letter : Char) : Option Bool :=
  let rec look : Chars → Option Bool
    | [] => none
    | c :: ':' :: rest => if c = letter then some true else look rest
    | c :: rest => if c = letter then some false else look rest
  look known.letters

/-- Options with their values, and the other words. -/
abbrev Read := List (Char × Chars) × List Chars

/-- The options in the letters of a word after which other words come, with the words that are
left. -/
def readLetters (known : Known) : Chars → List Chars → Work Read
  | [], words => return ([], words)
  | c :: rest, words => do
    match known.hasValue? c with
    | none => failUsage ("invalid option -- '".toList ++ [c, '\'']) known.wrong
    | some false =>
      let (options, words) ← readLetters known rest words
      return ((c, []) :: options, words)
    | some true =>
      if !rest.isEmpty then return ([(c, rest)], words)
      else match words with
        | value :: words => return ([(c, value)], words)
        | [] => failUsage ("option requires an argument -- '".toList ++ [c, '\'']) known.wrong

/-- The option that a word after two dashes is. -/
def readLong (known : Known) (word : Chars) (words : List Chars) : Work Read := do
  let name := word.takeWhile (· ≠ '=')
  let value := word.drop name.length
  let found := known.words.filter fun (other, _) => name.isPrefixOf other.toList
  let exact := found.filter fun (other, _) => other.toList = name
  match (if exact.isEmpty then found else exact), value with
  | [], _ => failUsage ("unrecognized option '--".toList ++ word ++ ['\'']) known.wrong
  | (_, letter) :: _, [] =>
    if known.hasValue? letter = some true then
      match words with
      | value :: words => return ([(letter, value)], words)
      | [] =>
        failUsage ("option '--".toList ++ name ++ "' requires an argument".toList) known.wrong
    else return ([(letter, [])], words)
  | (_, letter) :: _, _ :: value => return ([(letter, value)], words)

/-- The options among words, at most so many words of them, and the other words. -/
def readOptions (known : Known) : Nat → List Chars → Work Read
  | 0, words => return ([], words)
  | bound + 1, words => do
    match words with
    | [] => return ([], [])
    | ['-', '-'] :: rest => return ([], rest)
    | ('-' :: '-' :: word) :: rest =>
      let (first, rest) ← readLong known word rest
      let (options, words) ← readOptions known bound rest
      return (first ++ options, words)
    | ('-' :: c :: letters) :: rest =>
      let (first, rest) ← readLetters known (c :: letters) rest
      let (options, words) ← readOptions known bound rest
      return (first ++ options, words)
    | word :: rest =>
      if known.stops then return ([], word :: rest)
      else
        let (options, words) ← readOptions known bound rest
        return (options, word :: words)

def options (known : Known) (words : List Chars) : Work Read := do
  let stops := known.stops || (← lookUp? "POSIXLY_CORRECT").isSome
  readOptions { known with stops := stops } words.length words

def has (options : List (Char × Chars)) (letter : Char) : Bool := options.any (·.1 = letter)

def valueOf? (options : List (Char × Chars)) (letter : Char) : Option Chars :=
  ((options.filter (·.1 = letter)).getLast?).map Prod.snd

def number? (text : Chars) : Option Nat :=
  if text.isEmpty || !text.all Char.isDigit then none else (String.ofList text).toNat?

def decimal (n : Nat) : Chars := (toString n).toList

/-! ### Files -/

/-- What a path leads to for the program. -/
def look (path : Chars) : Work (Except Failure (Location × Option Node)) := do
  return (← Routine.system).tree.find (.ofChars path)

/-- What a path leads to for the program, where a link at its end is not followed. -/
def lookAtLink (path : Chars) : Work (Except Failure (Location × Option Node)) := do
  return (← Routine.system).tree.findLink (.ofChars path)

/-- Why there is nothing at a path, or what there is. -/
def existing (found : Except Failure (Location × Option Node)) : Except Failure (Location × Node) :=
  match found with
  | .error failure => .error failure
  | .ok (_, none) => .error .notFound
  | .ok (place, some node) => .ok (place, node)

/-- Opens a path under a descriptor of its own. -/
def openAt (path : Chars) (mode : System.OpenMode) : Work (Except Failure Nat) := do
  match (← Routine.system).openPath (.ofChars path) mode with
  | .error failure => return .error failure
  | .ok (file, system) =>
    let descriptor := system.current.freeDescriptor 3
    Routine.changeSystem fun _ => system.attach descriptor file false
    return .ok descriptor

/-- The whole content of what a path leads to, where a dash stands for what comes in. -/
def readPath (path : Chars) : Work (Except Failure Chars) := do
  if path = ['-'] then return (← Routine.readAll 0).map RawText.toChars
  match ← openAt path .toRead with
  | .error failure => return .error failure
  | .ok descriptor =>
    let text ← Routine.readAll descriptor
    Routine.changeSystem (·.close descriptor)
    return text.map RawText.toChars

/-- The lines of a text, without their ends, and whether the last one has an end. -/
def lines (text : Chars) : List Chars × Bool :=
  let parts := ((RawText.ofChars text).splitOn 0x0A).map RawText.toChars
  if parts.getLast? = some [] then (parts.dropLast, true) else (parts, false)

def unlines (lines : List Chars) : Chars := lines.flatMap (· ++ ['\n'])

/-! ### Programs -/

/-- A program as a process: what it does with its words, and the end of its output after that. -/
def asProcess (body : List Chars → Work Unit) (words : List RawText)
    (env : List (RawText × RawText)) : System → Pause :=
  let words := words.map RawText.toChars
  let whole : Work Unit := do
    match ← Routine.attempt (body words.tail) with
    | .ok () => pure ()
    | .error status => setStatus status
    match ← flush with
    | .ok () => pure ()
    | .error failure => complain ("write error: ".toList ++ failureText failure) 1
    Routine.finish (.exited (.ofNat (← get).status))
  Routine.start whole ⟨words.headD [], env, [], 0⟩ (fun (_ : Except Nat Unit) => 0)

end SiteBoot.Tool
