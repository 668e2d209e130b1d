import SiteBoot.Shell.Builtin.Control
import SiteBoot.Shell.Builtin.Directory
import SiteBoot.Shell.Builtin.Jobs
import SiteBoot.Shell.Builtin.Naming
import SiteBoot.Shell.Builtin.Trap
import SiteBoot.Shell.Builtin.Variables
import SiteBoot.Shell.Builtin.Writing
/-!
The builtins by their names.
-/

namespace SiteBoot.Shell

variable (run : Runner)

/-- Puts a program in the place of the shell, if one is named. -/
def execBuiltin (words : List Chars) : Run Nat := do
  match words with
  | [] => return 0
  | name :: _ =>
    let path := (← get).valueOf "PATH"
    replaceBy (if name.contains '/' then [name] else candidates path name) words

/-- Runs the builtin of a name with its words. -/
def builtinNamed (name : Chars) (words : List Chars) (isTested : Bool) : Run Nat :=
  match text name with
  | "." => dotBuiltin run words
  | "[" | "test" => testBuiltin name words
  | "alias" => aliasBuiltin words
  | "bg" | "fg" => continueBuiltin words
  | "break" => loopBuiltin false words
  | "continue" => loopBuiltin true words
  | "cd" | "chdir" => cdBuiltin words
  | "command" => commandBuiltin words
  | "echo" => echoBuiltin words
  | "eval" => evalBuiltin run words isTested
  | "exec" => execBuiltin words
  | "exit" => exitBuiltin words
  | "export" => exportBuiltin words
  | "false" => return 1
  | "getopts" => getoptsBuiltin words
  | "hash" => hashBuiltin words
  | "jobs" => jobsBuiltin words
  | "kill" => killBuiltin words
  | "local" => localBuiltin words
  | "printf" => printfBuiltin words
  | "pwd" => pwdBuiltin words
  | "read" => readBuiltin words
  | "readonly" => readonlyBuiltin words
  | "return" => returnBuiltin words
  | "set" => setBuiltin words
  | "shift" => shiftBuiltin words
  | "times" => timesBuiltin
  | "trap" => trapBuiltin words
  | "type" => typeBuiltin words
  | "ulimit" => ulimitBuiltin words
  | "umask" => umaskBuiltin words
  | "unalias" => unaliasBuiltin words
  | "unset" => unsetBuiltin words
  | "wait" => waitBuiltin words
  | _ => return 0

/-- Whether an interrupt is a jump in the script and not the end of something. -/
def Interrupt.isJump : Interrupt → Bool
  | error | exit _ => false
  | _ => true

/-- Writes out what a builtin has written, and says the code of the builtin after that. -/
def finishBuiltin (name : Chars) (status : Nat) : Run Nat := do
  if ← flush then return status
  warn (name ++ ": I/O error".toList)
  return status ||| 1

/-- Runs the builtin of a name with its words. Where `contains` says so, its error is only a
code. -/
def runBuiltin (name : Chars) (words : List Chars) (isTested contains : Bool) : Run Nat := do
  let before := (← get).command
  modify fun state => { state with command := some name }
  let result ← Routine.attempt (builtinNamed run name words isTested)
  match result with
  | .ok status =>
    let status ← finishBuiltin name status
    modify fun state => { state with command := before }
    return status
  | .error interrupt =>
    if interrupt.isJump then
      setStatus (← finishBuiltin name (← get).status)
    modify fun state => { state with command := before, output := [] }
    match interrupt with
    | .error => if contains then return (← get).status else throw interrupt
    | interrupt => throw interrupt

end SiteBoot.Shell
