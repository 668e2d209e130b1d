import SiteBoot.Child.Basic
import SiteBoot.Startup.Sequence
/-!
Handing over: the terminal command takes the place of the program, with the environment of the
start as its whole environment.
-/

namespace SiteBoot

/-- What is asked of the system to hand over to a command. -/
def Command.request (command : Command) (env : Environment) : ChildRequest where
  program := command.program
  args := command.args.map RawText.ofString
  env := env.forChild
  workdir := none

/-- Puts commands in the place of the program. -/
def Kernel.launcher {κ : Type} (kernel : Kernel κ) : Launcher (Machine κ) :=
  fun command env machine =>
    if command.words.isEmpty then (.error (.emptyCommand command.mode), machine)
    else
      let outcome := kernel.replace (command.request env) machine.files machine.rest
      let machine := { machine with files := outcome.files, rest := outcome.rest }
      match outcome.result with
      | .error failure => (.error (.notExecuted command.program failure), machine)
      | .ok run =>
        (.ok (), { machine with
          written := machine.written ++ run.writes
          successor := some run.status })

end SiteBoot
