import SiteBoot.Files.Failure
import SiteBoot.Mode
import SiteBoot.Text.Blank
/-!
The terminal command: what a start hands over to, and why that can fail.
-/

namespace SiteBoot

/-- The program and arguments that a start ends in. -/
structure Command where
  mode : Mode
  words : List String
  deriving DecidableEq, Repr

/-- Why no terminal command runs. -/
inductive LaunchError where
  /-- The command of the mode has no words. -/
  | emptyCommand (mode : Mode)
  /-- The program cannot take the place of this one. -/
  | notExecuted (program : String) (failure : Failure)
  deriving DecidableEq, Repr

namespace LaunchError

def message : LaunchError → String
  | emptyCommand mode => "no command to run in " ++ mode.name ++ " mode"
  | notExecuted program failure => "cannot exec '" ++ program ++ "': " ++ failure.message

/-- The exit code that stands for the error, as shells have it: 127 for a missing program. -/
def exitCode : LaunchError → Int32
  | notExecuted _ .notFound => 127
  | _ => 126

end LaunchError

namespace Command

def ofWords (mode : Mode) (words : List String) : Except LaunchError Command :=
  if words.isEmpty then .error (.emptyCommand mode) else .ok ⟨mode, words⟩

/-- A command of the words of a line. Quotes mean nothing in it. -/
def ofLine (mode : Mode) (line : String) : Except LaunchError Command :=
  ofWords mode ((Text.words line.toList).map String.ofList)

def program (command : Command) : String := command.words.headD ""

def args (command : Command) : List String := command.words.tail

/-- The command on one line, as the log shows it. -/
def display (command : Command) : String := " ".intercalate command.words

end Command

end SiteBoot
