import SiteBoot.Shell.Number
import SiteBoot.Shell.Syntax
import SiteBoot.System.Calls
/-!
The state of a shell, and what all its parts do: variables, messages, output and the ways of not
going on.
-/

namespace SiteBoot.Shell

/-- A variable, which may have properties without having a value. -/
structure Variable where
  value : Option Chars
  isExported : Bool
  isReadOnly : Bool

/-- A process of a job, and how it has ended if the shell has taken note of that. -/
structure JobProcess where
  number : Nat
  status : Option ChildStatus

/-- Processes that the shell has started together. -/
structure Job where
  /-- The number by which the user names the job. -/
  number : Nat
  processes : List JobProcess
  isWaited : Bool

/-- The variables that a function has of its own, as they were outside. -/
abbrev Frame := List (Chars × Option Variable)

structure State where
  vars : List (Chars × Variable)
  functions : List (Chars × Clause)
  aliases : List (Chars × Chars)
  name : Chars
  args : List Chars
  /-- The letters of the options that are set. -/
  options : Chars
  /-- What is done on signals, where number 0 is the end of the shell. Nothing means that the
  signal is ignored. -/
  traps : List (Nat × Chars)
  /-- The signals that have been ignored since before the shell. -/
  ignoredBefore : List Signal
  line : Nat
  /-- The line up to which the script has been read. -/
  inputLine : Nat
  command : Option Chars
  /-- The exit code of the last command. -/
  status : Nat
  /-- The exit code of the last clause in a word of the command. -/
  wordStatus : Nat
  /-- The exit code that was there before what a signal has made the shell do. -/
  savedStatus : Option Nat
  /-- What builtins have written, up to the end of the builtin. -/
  output : Chars
  /-- The number that the shell has for itself, also in those that it has started. -/
  number : Nat
  /-- The last process that nobody waited for. -/
  background : Option Nat
  jobs : List Job
  documents : List (Nat × Document)
  nextDocument : Nat
  frames : List Frame
  /-- How many loops are around the command, in its function. -/
  loops : Nat
  depth : Nat
  directory : Chars
  /-- The number of the next argument that is looked at for options. -/
  optionIndex : Nat
  /-- Where the next option is in its word, if it is not at the beginning. -/
  optionOffset : Option Nat
  hashed : List (Chars × Chars)

/-- Why a shell does not go on to the next command. -/
inductive Interrupt where
  /-- Something was wrong, and has been said. -/
  | error
  /-- The shell is at its end. `isAsked` says that a command has said so. -/
  | exit (isAsked : Bool)
  /-- Goes back from a function. `isCoded` says that there is a code for it. -/
  | back (isCoded : Bool)
  | leave (loops : Nat)
  /-- Begins the next round of a loop. -/
  | again (loops : Nat)

/-- Which of so many places a name has among those of a shell: by the sum of its characters. -/
def place (places : Nat) (name : Chars) : Nat :=
  name.foldl (fun sum c => sum + c.toNat) ((name.head?.map Char.toNat).getD 0 * 16) % places

/-- What names stand for, in the order of their places. -/
def inPlaces {α : Type} (places : Nat) (stored : List (Chars × α)) : List (Chars × α) :=
  (List.range places).flatMap fun n => stored.filter fun (name, _) => place places name = n

/-- How many places there are for variables and aliases. -/
def namePlaces : Nat := 39

def commandPlaces : Nat := 31

abbrev Run := Routine State Interrupt

/-- How a command stands. -/
structure Manner where
  /-- Nothing is left to do after it. -/
  isLast : Bool
  isTested : Bool

/-- Runs a clause in the shell itself, which says its exit code. -/
abbrev Runner := Clause → Manner → Run Nat

def decimal (n : Nat) : Chars := (toString n).toList

namespace State

/-! ### Variables -/

def lookup? (state : State) (name : Chars) : Option Variable := state.vars.lookup name

def value? (state : State) (name : Chars) : Option Chars := (state.lookup? name).bind (·.value)

/-- The value of a variable by its name, or nothing. -/
def valueOf (state : State) (name : String) : Chars := (state.value? name.toList).getD []

/-- The state with a variable, which stays in its place. -/
def setVariable (state : State) (name : Chars) (stored : Variable) : State :=
  if (state.lookup? name).isSome then
    { state with
      vars := state.vars.map fun (other, old) =>
        if other = name then (other, stored) else (other, old) }
  else { state with vars := state.vars ++ [(name, stored)] }

def unsetVariable (state : State) (name : Chars) : State :=
  { state with vars := state.vars.filter (·.1 ≠ name) }

def hasOption (state : State) (letter : Char) : Bool := state.options.contains letter

def separators (state : State) : Chars := (state.value? "IFS".toList).getD " \t\n".toList

def exported (state : State) : List (RawText × RawText) :=
  let vars := state.vars.filterMap fun (name, stored) =>
    if stored.isExported then stored.value.map (name, ·) else none
  (inPlaces namePlaces vars).map fun (name, value) => (.ofChars name, .ofChars value)

/-- The value of a parameter that has a sign or a number for a name. -/
def special? (state : State) (name : Chars) : Option Chars :=
  match name with
  | ['#'] => some (decimal state.args.length)
  | ['?'] => some (decimal state.status)
  | ['$'] => some (decimal state.number)
  | ['!'] => state.background.map decimal
  | ['-'] => some ("pubaCEVvxsnmiIfe".toList.filter state.hasOption)
  | ['0'] => some state.name
  | _ =>
    if name.all Char.isDigit then ((text name).toNat?.bind fun n => state.args[n - 1]?)
    else none

end State

/-! ### Messages and output -/

def setStatus (status : Nat) : Run Unit := modify fun state => { state with status := status }

/-- Writes characters to a descriptor at once, and says whether that was possible. -/
def writeTo (descriptor : Nat) (chars : Chars) : Run Bool := do
  if chars.isEmpty then return true
  return (← Routine.write descriptor (.ofChars chars)) matches .ok ()

/-- Writes out what builtins have written, and says whether that was possible. -/
def flush : Run Bool := do
  let output := (← get).output
  modify fun state => { state with output := [] }
  writeTo 1 output

/-- Writes characters at the end of the builtin. -/
def print (chars : Chars) : Run Unit :=
  modify fun state => { state with output := state.output ++ chars }

/-- Says something about a line, with the name of the shell and that of the builtin. -/
def warnAt (line : Nat) (message : Chars) : Run Unit := do
  let state ← get
  let command := match state.command with
    | some command => command ++ ": ".toList
    | none => []
  let _ ← writeTo 2
    (state.name ++ ": ".toList ++ decimal line ++ ": ".toList ++ command ++ message ++ ['\n'])

/-- Says something about the line that is being run. -/
def warn (message : Chars) : Run Unit := do warnAt (← get).line message

def fail {α : Type} (message : Chars) : Run α := do
  setStatus 2
  warn message
  let _ ← flush
  throw .error

/-- What the shell says of a file that it cannot do something with; what is missing has a wording
of its own. -/
def failureText (missing : String) (failure : Failure) : Chars :=
  chars (match failure with
    | .notFound | .notADirectory => missing
    | .system (.ofNat code) => Failure.systemText code
    | failure => failure.message)

/-! ### Assignments -/

/-- The number of a text of digits with blanks around it, if it is one. -/
def decimal? (chars : Chars) : Option Int :=
  let isBlank (c : Char) := c = ' ' || ('\t' ≤ c && c ≤ '\x0d')
  let chars := ((chars.dropWhile isBlank).reverse.dropWhile isBlank).reverse
  let (negative, digits) := match chars with
    | '-' :: digits => (true, digits)
    | '+' :: digits => (false, digits)
    | digits => (false, digits)
  if digits.isEmpty || !digits.all Char.isDigit then none
  else
    let n : Int := digits.foldl (fun n c => n * 10 + (c.toNat - 48)) 0
    let n := if negative then -n else n
    if isInWord n then some n else none

def number (chars : Chars) : Run Int :=
  match decimal? chars with
  | some n => return n
  | none => fail ("Illegal number: ".toList ++ chars)

/-- A number that is an argument and is not negative. -/
def natural (chars : Chars) : Run Nat := do
  let n ← number chars
  if 0 ≤ n && n < 0x80000000 then return n.toNat else fail ("Illegal number: ".toList ++ chars)

/-- Gives a variable a value or none, if that is allowed. What it is otherwise it stays. -/
def assign (name : Chars) (value : Option Chars) (isExported : Bool) : Run Unit := do
  let state ← get
  let old := state.lookup? name
  if old.any Variable.isReadOnly then fail (name ++ ": is read only".toList)
  if name = "OPTIND".toList then
    let index ← match value with
      | some value => natural value
      | none => pure 1
    modify fun state => { state with optionIndex := max 1 index, optionOffset := none }
  if name = "PATH".toList then modify fun state => { state with hashed := [] }
  let isExported := isExported || old.any Variable.isExported || state.hasOption 'a'
  match value with
  | none => modify (·.unsetVariable name)
  | some _ => modify (·.setVariable name ⟨value, isExported, false⟩)

/-- Runs a computation and restores a part of the state after it in any case. -/
def restoring {α : Type} (restore : State → State → State) (run : Run α) : Run α := do
  let before ← get
  let result ← Routine.attempt run
  modify (restore before)
  match result with
  | .ok value => return value
  | .error interrupt => throw interrupt

end SiteBoot.Shell
