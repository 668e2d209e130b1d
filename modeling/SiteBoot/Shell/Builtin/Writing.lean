import SiteBoot.Shell.Builtin.Basic
import SiteBoot.Shell.Condition
import SiteBoot.Shell.Printing
/-!
The builtins that write what they are given, and those that find conditions true.
-/

namespace SiteBoot.Shell

def echoBuiltin (words : List Chars) : Run Nat := do
  print (echoText words)
  return 0

def printfBuiltin (words : List Chars) : Run Nat := do
  match ← withoutOptions words with
  | [] => fail "usage: printf format [arg ...]".toList
  | format :: args =>
    let (out, faults, failure) := printfRun format args
    for message in faults do warn message
    print out
    match failure with
    | some message => fail message
    | none => return if faults.isEmpty then 0 else 1

/-- A condition, which has to end with a bracket if the builtin is called by the other one. -/
def testBuiltin (name : Chars) (words : List Chars) : Run Nat := do
  let isBracket := name = ['[']
  if isBracket && words.getLast? ≠ some [']'] then fail "missing ]".toList
  let files := (← Routine.system).tree
  match Condition.holds files (if isBracket then words.dropLast else words) with
  | .ok holds => return if holds then 0 else 1
  | .error message => fail message

end SiteBoot.Shell
