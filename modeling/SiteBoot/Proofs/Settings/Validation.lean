import Mathlib
import SiteBoot.Program
/-!
# Settings that a start goes on with

Settings come from a file, from options and from variables, but none of these can take a setting
away: a layer gives a value or leaves the one below it. So the working directory of tasks, which has
a default, is never missing, and validation sees to it that it is not empty, as for every path.
-/

namespace SiteBoot

/-- Settings that nothing is wrong with, and in which nothing is left open. -/
structure Settings.IsSound (settings : Settings) : Prop where
  workdir : ∃ dir, settings.tasks.workdir = some dir ∧ dir ≠ .nothing
  program : settings.tasks.program ≠ .nothing
  logFile : settings.tasks.logFile ≠ .nothing
  lockFile : settings.paths.lockFile ≠ .nothing
  profile : settings.paths.profile ≠ .nothing
  overrideFile : settings.paths.overrideFile ≠ .nothing
  level : ∃ directives,
    LogFilter.Directive.listOfText settings.log.level.toList = .ok directives

/-- Two systems that do the same but for children that are not told where to start. -/
structure Kernel.AgreesOnPlaced {κ : Type} (kernel other : Kernel κ) : Prop where
  spawn : ∀ request dir, request.workdir = some dir → dir ≠ .nothing →
    kernel.spawn request = other.spawn request
  replace : kernel.replace = other.replace

/-! ### What validation accepts -/

lemma RawText.isEmpty_iff (raw : RawText) : raw.isEmpty ↔ raw = .nothing := by
  obtain ⟨bytes⟩ := raw
  rw [isEmpty, List.isEmpty_iff, nothing, mk.injEq]

lemma SettingError.ofPath_eq_nil_iff (name : SettingName) (path : RawText) :
    SettingError.ofPath name path = [] ↔ path ≠ .nothing := by
  rw [SettingError.ofPath, Ne, ← path.isEmpty_iff]
  split
  · rename_i hempty
    simp [hempty]
  · rename_i hpath
    simp [hpath]

namespace Settings

variable {settings other : Settings}

lemma listOfText_of_faults (h : ∀ error ∈ settings.faults, error.name ≠ .level) :
    ∃ directives, LogFilter.Directive.listOfText settings.log.level.toList = .ok directives := by
  cases hlist : LogFilter.Directive.listOfText settings.log.level.toList with
  | ok directives => exact ⟨directives, rfl⟩
  | error bad =>
    have hmem : ⟨.level, .badDirective bad⟩ ∈ settings.faults := by
      rw [faults, hlist]
      exact List.mem_append_right _ List.mem_cons_self
    exact absurd rfl (h _ hmem)

lemma isSound_of_faults (h : settings.faults = []) (hworkdir : settings.tasks.workdir.isSome) :
    settings.IsSound := by
  have hlevel : ∀ error ∈ settings.faults, error.name ≠ .level := by
    rw [h]
    exact fun error herror => absurd herror List.not_mem_nil
  have hlist := listOfText_of_faults hlevel
  rw [faults] at h
  simp only [List.append_eq_nil_iff, SettingError.ofPath_eq_nil_iff] at h
  obtain ⟨⟨⟨⟨⟨⟨hprogram, hlogFile⟩, hlockFile⟩, hprofile⟩, hoverrideFile⟩, hdir⟩, -⟩ := h
  obtain ⟨dir, hsome⟩ := Option.isSome_iff_exists.mp hworkdir
  rw [hsome] at hdir
  exact ⟨⟨dir, hsome, (SettingError.ofPath_eq_nil_iff _ _).mp hdir⟩, hprogram, hlogFile, hlockFile,
    hprofile, hoverrideFile, hlist⟩

lemma validate_eq_ok_iff :
    settings.validate = .ok other ↔ settings.faults = [] ∧ other = settings := by
  rw [validate]
  split
  · rename_i hnone
    rw [Except.ok.injEq]
    exact ⟨fun heq => ⟨List.isEmpty_iff.mp hnone, heq.symm⟩, fun h => h.2.symm⟩
  · rename_i hsome
    exact iff_of_false (fun h => nomatch h) fun h => hsome (List.isEmpty_iff.mpr h.1)

end Settings

/-! ### No layer takes a setting away -/

lemma SettingsLayer.onto_workdir (layer : SettingsLayer) {settings : Settings}
    (h : settings.tasks.workdir.isSome) : (layer.onto settings).tasks.workdir.isSome := by
  rw [onto]
  dsimp only
  cases layer.workdir with
  | none => exact h
  | some dir => rfl

namespace Settings

variable {process : ProcessEnvironment} {files : FileTree} {options : CommandLine.Options}
  {settings : Settings}

lemma defaults_workdir (process : ProcessEnvironment) :
    (defaults process).tasks.workdir.isSome := rfl

lemma ofFile_workdir {path : RawText} (h : ofFile process files path = .ok settings) :
    settings.tasks.workdir.isSome := by
  rw [ofFile] at h
  cases hlayer : SettingsLayer.ofFile files path with
  | error error =>
    rw [hlayer] at h
    contradiction
  | ok layer =>
    rw [hlayer] at h
    obtain rfl := Except.ok.inj h
    exact layer.onto_workdir (defaults_workdir process)

lemma ofOptions_workdir (h : ofOptions process files options = .ok settings) :
    settings.tasks.workdir.isSome := by
  rw [ofOptions] at h
  cases hconfig : options.config with
  | none =>
    rw [hconfig] at h
    obtain rfl := Except.ok.inj h
    exact options.layer.onto_workdir (defaults_workdir process)
  | some path =>
    rw [hconfig] at h
    dsimp only at h
    cases hfile : ofFile process files path with
    | error error =>
      rw [hfile] at h
      contradiction
    | ok given =>
      rw [hfile] at h
      obtain rfl := Except.ok.inj h
      exact options.layer.onto_workdir (ofFile_workdir hfile)

lemma resolve_eq_ok_iff : resolve process files options = .ok settings ↔
    ofOptions process files options = .ok settings ∧ settings.faults = [] := by
  rw [resolve]
  cases hgiven : ofOptions process files options with
  | error error => exact iff_of_false (fun h => nomatch h) fun h => nomatch h.1
  | ok given =>
    change given.validate = .ok settings ↔ _
    rw [validate_eq_ok_iff, Except.ok.injEq]
    constructor
    · rintro ⟨hfaults, rfl⟩
      exact ⟨rfl, hfaults⟩
    · rintro ⟨rfl, hfaults⟩
      exact ⟨hfaults, rfl⟩

end Settings

/-! ### Children start in the working directory -/

section Runs

variable {κ : Type} {kernel other : Kernel κ} (h : kernel.AgreesOnPlaced other)
include h

lemma TaskSettings.host_congr {settings : TaskSettings}
    (hworkdir : ∃ dir, settings.workdir = some dir ∧ dir ≠ .nothing)
    (process : ProcessEnvironment) : settings.host kernel process = settings.host other process := by
  obtain ⟨dir, hdir, hne⟩ := hworkdir
  have hspawn : ∀ task env, kernel.spawn (settings.request task env) =
      other.spawn (settings.request task env) := by
    intro task env
    exact h.spawn _ dir hdir hne
  have hrun : settings.runTask kernel = settings.runTask other := by
    funext task env machine
    rw [runTask, runTask, hspawn]
  rw [host, host, hrun]

lemma Kernel.launcher_congr : kernel.launcher = other.launcher := by
  funext command env machine
  rw [launcher, launcher, h.replace]

lemma Settings.run_congr {settings : Settings} (hsound : settings.IsSound)
    (process : ProcessEnvironment) (command : List String) (machine : Machine κ) :
    settings.run kernel process command machine = settings.run other process command machine := by
  rw [run, run, TaskSettings.host_congr h hsound.workdir, Kernel.launcher_congr h]

end Runs

/-- Whatever the command line, the process and the settings file are: settings that the program
goes on with are sound and are accepted as they are, and a run with them does not depend on what
would become of a child without a working directory. -/
theorem resolve_isSound (process : ProcessEnvironment) (args : List RawText) (files : FileTree)
    {options : CommandLine.Options} {settings : Settings}
    (parsed : CommandLine.Options.parse process args = .ok options)
    (resolved : Settings.resolve process files options = .ok settings) :
    settings.IsSound ∧ settings.validate = .ok settings ∧
      ∀ {κ : Type} (kernel other : Kernel κ), kernel.AgreesOnPlaced other →
        ∀ machine : Machine κ, machine.files = files →
          runProgram kernel process args machine = runProgram other process args machine := by
  obtain ⟨hgiven, hfaults⟩ := Settings.resolve_eq_ok_iff.mp resolved
  have hsound := Settings.isSound_of_faults hfaults (Settings.ofOptions_workdir hgiven)
  refine ⟨hsound, Settings.validate_eq_ok_iff.mpr ⟨hfaults, rfl⟩, ?_⟩
  rintro κ kernel other hagrees machine rfl
  rw [runProgram, runProgram, parsed]
  dsimp only
  rw [resolved]
  exact Settings.run_congr hagrees hsound process options.command machine

/-- A file with a group that is written as an array, and a table that is no group. -/
def arrayText : String := "invoke = [\"python\"]\n[extra]\nworkdir = 1\n"

def exitingKernel : Kernel Unit := .ofScript fun _ rest => (.ok ⟨[], .exited 0⟩, rest)

/-- The same system, but it starts no child that is not told where to start. -/
def placingKernel : Kernel Unit :=
  { exitingKernel with
    spawn := fun request targets files rest =>
      if request.workdir.all RawText.isEmpty then ⟨.error .notFound, files, rest⟩
      else exitingKernel.spawn request targets files rest }

lemma agreesOnPlaced_placingKernel : exitingKernel.AgreesOnPlaced placingKernel := by
  constructor
  · intro request dir hdir hne
    funext targets files rest
    rw [placingKernel]
    dsimp only
    rw [hdir, if_neg]
    rw [Option.all_some, dir.isEmpty_iff]
    exact hne
  · rfl

theorem resolve_isSound_arrayText :
    let files := FileTree.base.install "start.toml" (.file (.ofString arrayText) false)
    let args : List RawText := ["--config=start.toml"]
    let options := { CommandLine.Options.nothing with config := some "start.toml" }
    let settings : Settings :=
      { Settings.defaults ⟨[]⟩ with
        tasks := { Settings.defaultTasks with program := "python" } }
    CommandLine.Options.parse ⟨[]⟩ args = .ok options ∧
      Settings.resolve ⟨[]⟩ files options = .ok settings ∧ settings.IsSound ∧
      runProgram exitingKernel ⟨[]⟩ args ⟨files, [], none, ()⟩ =
        runProgram placingKernel ⟨[]⟩ args ⟨files, [], none, ()⟩ := by
  intro files args options settings
  have hparsed : CommandLine.Options.parse ⟨[]⟩ args = .ok options := by cbv
  have hfile : ∀ content : RawText,
      (FileTree.base.install "start.toml" (.file content false)).read "start.toml" =
        .ok content := by
    intro content
    cbv
  have hread : files.readText "start.toml" = .ok arrayText :=
    FileTree.readText_of_read (hfile (.ofString arrayText))
  have hlayer : (Toml.document? arrayText).bind SettingsFile.layer? =
      some { SettingsLayer.nothing with program := some "python" } := by cbv
  have hgiven : Settings.ofOptions ⟨[]⟩ files options = .ok settings := by
    rw [Settings.ofOptions]
    dsimp only [options]
    rw [Settings.ofFile, SettingsLayer.ofFile, hread]
    dsimp only
    rw [hlayer]
    rfl
  have hfaults : settings.faults = [] := by cbv
  have hresolved := Settings.resolve_eq_ok_iff.mpr ⟨hgiven, hfaults⟩
  obtain ⟨hsound, -, hruns⟩ := resolve_isSound ⟨[]⟩ args files hparsed hresolved
  exact ⟨hparsed, hresolved, hsound,
    hruns exitingKernel placingKernel agreesOnPlaced_placingKernel ⟨files, [], none, ()⟩ rfl⟩

end SiteBoot
