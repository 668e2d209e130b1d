import SiteBoot.CommandLine.Option
import SiteBoot.Settings.File
/-!
The settings of a start: the options of the command line, over the settings file that they name,
over the defaults.
-/

namespace SiteBoot

/-- The settings that options give. Arguments count as given if there is one. -/
def CommandLine.Options.layer (options : CommandLine.Options) : SettingsLayer where
  program := options.program
  args := if options.args.isEmpty then none else some options.args
  workdir := options.workdir
  logFile := options.logFile
  lockFile := options.lockFile
  profile := options.profile
  overrideFile := options.overrideFile
  level := options.level
  format := options.format

/-- The settings that options ask for, before they are validated. -/
def Settings.ofOptions (process : ProcessEnvironment) (files : FileTree)
    (options : CommandLine.Options) : Except SettingsError Settings :=
  match options.config with
  | some path => do return options.layer.onto (← Settings.ofFile process files path)
  | none => .ok (options.layer.onto (Settings.defaults process))

/-- The settings that a program with these options starts with. -/
def Settings.resolve (process : ProcessEnvironment) (files : FileTree)
    (options : CommandLine.Options) : Except SettingsError Settings := do
  (← Settings.ofOptions process files options).validate

end SiteBoot
