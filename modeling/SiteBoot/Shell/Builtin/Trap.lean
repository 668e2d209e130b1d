import SiteBoot.Shell.Builtin.Basic
/-!
The builtin for what is done on signals and at the end of the shell, and the builtins for limits and
times.
-/

namespace SiteBoot.Shell

/-- The process after it has provided for a signal: by default, by nothing, or by something. -/
def Process.provide (process : Process) (signal : Signal) (action : Option Chars) : Process :=
  let ignored := process.ignored.filter (· ≠ signal)
  let caught := process.caught.filter (· ≠ signal)
  match action with
  | none => { process with ignored := ignored, caught := caught }
  | some [] => { process with ignored := signal :: ignored, caught := caught }
  | some _ => { process with ignored := ignored, caught := signal :: caught }

/-- Sets what is done on a signal, or at the end of the shell. What has been ignored since before
the shell stays ignored. -/
def setTrap (number : Nat) (action : Option Chars) : Run Unit := do
  modify fun state => { state with
    traps := (action.map (number, ·)).toList ++ state.traps.filter (·.1 ≠ number) }
  for signal in Signal.ofNumber? number do
    if !(← get).ignoredBefore.contains signal then
      Routine.changeSystem (·.changeCurrent (Process.provide · signal action))

/-- Sets what is done on the signals of words, up to one that is none. -/
def setTraps (action : Option Chars) : List Chars → Run Nat
  | [] => return 0
  | word :: rest => do
    match signalNumber? word 0 with
    | none =>
      let _ ← writeTo 2 ("trap: ".toList ++ word ++ ": bad trap\n".toList)
      return 1
    | some number =>
      setTrap number action
      setTraps action rest

def trapBuiltin (words : List Chars) : Run Nat := do
  match ← withoutOptions words with
  | [] =>
    let traps := (← get).traps.mergeSort (·.1 ≤ ·.1)
    for (number, action) in traps do
      print ("trap -- ".toList ++ singleQuoted action ++ ' ' :: (Signal.nameOf number).toList ++
        ['\n'])
    return 0
  | [word] => setTraps none [word]
  | action :: rest =>
    if action.all Char.isDigit && (signalNumber? action 0).isSome then
      setTraps none (action :: rest)
    else setTraps (if action = ['-'] then none else some action) rest

/-! ### Limits and times -/

def limitLetters : String := "HSatfdscmlpnvwr"

def ulimitBuiltin (words : List Chars) : Run Nat := do
  let (options, words) ← readOptions limitLetters words
  if words.isEmpty then
    let limit := match (options.map Prod.fst).find? fun c => c ≠ 'H' && c ≠ 'S' with
      | some 's' => "8192"
      | some 'c' | some 'r' => "0"
      | _ => "unlimited"
    print (limit.toList ++ ['\n'])
  return 0

def timesBuiltin : Run Nat := do
  let zero := "0m0.000000s 0m0.000000s\n".toList
  print (zero ++ zero)
  return 0

end SiteBoot.Shell
