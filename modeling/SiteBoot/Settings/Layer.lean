import SiteBoot.Settings.Basic
/-!
Layers of settings: those settings that one source gives. A layer is laid over settings one by
one, so no setting depends on what is given for another.
-/

namespace SiteBoot

/-- The settings that a source gives. -/
structure SettingsLayer where
  program : Option RawText
  args : Option (List String)
  workdir : Option RawText
  logFile : Option RawText
  lockFile : Option RawText
  profile : Option RawText
  overrideFile : Option RawText
  level : Option String
  format : Option LogFormat
  deriving DecidableEq

namespace SettingsLayer

def nothing : SettingsLayer := ⟨none, none, none, none, none, none, none, none, none⟩

def onto (layer : SettingsLayer) (settings : Settings) : Settings where
  tasks :=
    { program := layer.program.getD settings.tasks.program
      args := layer.args.getD settings.tasks.args
      workdir := layer.workdir.or settings.tasks.workdir
      logFile := layer.logFile.getD settings.tasks.logFile }
  paths :=
    { lockFile := layer.lockFile.getD settings.paths.lockFile
      profile := layer.profile.getD settings.paths.profile
      overrideFile := layer.overrideFile.getD settings.paths.overrideFile }
  log :=
    { level := layer.level.getD settings.log.level
      format := layer.format.getD settings.log.format }

end SettingsLayer

end SiteBoot
