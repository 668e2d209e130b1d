import SiteBoot.CommandLine.Parser
import SiteBoot.LogFilter.Filter
import SiteBoot.Settings.Resolution
import SiteBoot.Startup.Handover
import SiteBoot.Task.Invocation
/-!
The whole program: from its arguments and its environment to its end.
-/

namespace SiteBoot

/-- How the program has ended. -/
inductive Ending where
  /-- By its command line, before anything was read. -/
  | usage (error : CommandLine.UsageError)
  /-- By its settings, before anything was run. -/
  | refused (error : SettingsError)
  | failed (error : StartError)
  /-- As the command that took its place. -/
  | handedOver (status : ChildStatus)

/-- The exit code of the program for a failed start. Codes that no process can have become 1. -/
def StartError.processCode (error : StartError) : UInt8 :=
  if 0 ≤ error.exitCode ∧ error.exitCode ≤ 255 then UInt8.ofNat error.exitCode.toNatClampNeg
  else 1

namespace Ending

/-- The exit code of the program, if it was not a signal that ended it. -/
def exitCode? : Ending → Option UInt8
  | usage error => some error.exitCode
  | refused _ => some 1
  | failed error => some error.processCode
  | handedOver (.exited code) => some code
  | handedOver _ => none

/-- The exit code as shells show it, where a signal is told by its number. -/
def exitStatus (ending : Ending) : UInt32 :=
  match ending, ending.exitCode? with
  | _, some code => code.toUInt32
  | handedOver (.signaled signal _), none => 128 + UInt32.ofNat signal.number
  | _, none => 1

/-- What the program says of its end outside the log. -/
def complaint? : Ending → Option String
  | refused error => some (programName ++ ": " ++ error.message)
  | _ => none

end Ending

/-- A run of the program: how it ended, the machine after it, and the events that its log shows
in a layout. -/
structure ProgramRun (κ : Type) where
  ending : Ending
  machine : Machine κ
  log : List Event
  format : LogFormat

variable {κ : Type}

/-- The machine after the program has answered a question of its command line. -/
def Machine.answer (machine : Machine κ) (error : CommandLine.UsageError) : Machine κ :=
  match error.answer? with
  | some text => { machine with written := machine.written ++ [⟨.output, text⟩] }
  | none => machine

/-- Runs the program with settings, from its first log event on. -/
def Settings.run (settings : Settings) (kernel : Kernel κ) (process : ProcessEnvironment)
    (command : List String) (machine : Machine κ) : ProgramRun κ :=
  let paths := settings.paths
  let ended := startSite (settings.tasks.host kernel process) kernel.launcher paths
    process.snapshot command machine
  let events := .starting ::
    .settingsLoaded settings.tasks.program paths.lockFile paths.profile paths.overrideFile ::
    ended.events
  let ending := match ended.result with
    | .ok () => Ending.handedOver (ended.state.successor.getD (.exited 0))
    | .error error => .failed error
  let filter := LogFilter.ofSettings process settings.log.level
  ⟨ending, ended.state, events.filter filter.shows, settings.log.format⟩

def runProgram (kernel : Kernel κ) (process : ProcessEnvironment) (args : List RawText)
    (machine : Machine κ) : ProgramRun κ :=
  match CommandLine.Options.parse process args with
  | .error error => ⟨.usage error, machine.answer error, [], .full⟩
  | .ok options =>
    match Settings.resolve process machine.files options with
    | .error error => ⟨.refused error, machine, [], .full⟩
    | .ok settings => settings.run kernel process options.command machine

end SiteBoot
