import SiteBoot.Proofs.Startup.Calls
import SiteBoot.Startup.Rehearsal
/-!
# The environment of a start

`update` runs in the base environment. Whatever a start does with an environment after that, it
does with the one that the environment files gave when `update` had returned: tasks may rewrite
the files, but they are not read again.
-/

namespace SiteBoot

variable {σ α : Type}

/-- The environment that the files give once `update` has returned. -/
def Host.snapshot (host : Host σ) (paths : StartPaths) (base : Environment) (state : σ) :
    Except EnvFileError Environment :=
  let files := host.files (host.runTask .update base state).state
  match (base.overlayFile host.process files paths.profile).1 with
  | .error error => .error error
  | .ok env => (env.overlayFile host.process files paths.overrideFile).1

lemma Host.snapshot_eq (host : Host σ) (paths : StartPaths) (base : Environment) (state : σ) :
    host.snapshot paths base state =
      (host.readEnvironment paths base (host.runTask .update base state).state).1 := by
  rw [snapshot, readEnvironment]
  dsimp only
  rcases base.overlayFile host.process _ paths.profile with ⟨error | env, events⟩
  · rfl
  · rfl

lemma Environment.overlayFile_congr (env : Environment) (process : ProcessEnvironment)
    {files other : FileTree} {path : RawText} (h : files.readText path = other.readText path) :
    env.overlayFile process files path = env.overlayFile process other path := by
  rw [overlayFile, overlayFile, h]

/-- Something that a start does with an environment. -/
inductive Use where
  | task (task : Task) (env : Environment)
  | value (name value : String)
  | mode (mode : Mode)
  | command (command : Command) (env : Environment)

def Step.use? : Step → Option Use
  | .called call => some (.task call.task call.env)
  | .launched command env _ => some (.command command env)
  | .logged (.variableReported name value) => some (.value name value)
  | .logged (.modeSelected (.modeSelected mode)) => some (.mode mode)
  | .logged _ => none

def Ended.uses (ended : Ended σ α) : List Use := ended.steps.filterMap Step.use?

def Environment.valueUses (env : Environment) : List Use :=
  reportedVariables.map fun name => .value name (env.value name)

/-- A use that is of the given environment. Tasks that only some modes have, and the command, are
those of its mode. -/
def Use.IsOf (env : Environment) (passthrough : List String) : Use → Prop
  | .task called used => used = env ∧
      (called ∈ Task.afterEnvironment ∨ Mode.ofEnvironment env = .production)
  | .value name reported => name ∈ reportedVariables ∧ reported = env.value name
  | .mode decided => decided = Mode.ofEnvironment env
  | .command launched used => used = env ∧ env.terminalCommand passthrough = .ok launched

/-- Everything after `update` uses the snapshot, and nothing does if there is none. -/
structure UsesSnapshot (base : Environment) (passthrough : List String)
    (snapshot : Except EnvFileError Environment) (ended : Ended σ α) : Prop where
  uses : ∃ later, ended.uses = .task .update base :: later ∧
    (later = [] ∧ (∃ error, ended.result = .error error) ∨
      ∃ env more, snapshot = .ok env ∧ later = env.valueUses ++ more ∧
        ∀ use ∈ more, use.IsOf env passthrough)
  /-- The words of the command are missing only if the snapshot has none. -/
  words : ∀ error, ended.launches = [] → ended.result = .error (.launch error) →
    ∃ env, snapshot = .ok env ∧ env.terminalCommand passthrough = .error error

/-! ### Steps as uses -/

def Event.IsFileReport : Event → Prop
  | .environmentFileMissing _ | .environmentLineSkipped .. | .environmentVariableKept .. |
    .environmentFileApplied .. => True
  | _ => False

lemma Environment.overlayFile_reports (env : Environment) (process : ProcessEnvironment)
    (files : FileTree) (path : RawText) :
    ∀ event ∈ (env.overlayFile process files path).2, event.IsFileReport := by
  intro event hevent
  rw [overlayFile] at hevent
  split at hevent
  · rw [List.mem_singleton] at hevent
    subst hevent
    trivial
  · contradiction
  · rw [List.mem_append, List.mem_map, List.mem_singleton] at hevent
    rcases hevent with ⟨remark, -, rfl⟩ | rfl
    · cases remark with
      | skipped text => trivial
      | keptLocal name => trivial
    · trivial

lemma Host.readEnvironment_reports (host : Host σ) (paths : StartPaths) (base : Environment)
    (state : σ) : ∀ event ∈ (host.readEnvironment paths base state).2, event.IsFileReport := by
  have hprofile := base.overlayFile_reports host.process (host.files state) paths.profile
  rw [readEnvironment]
  rcases h : base.overlayFile host.process (host.files state) paths.profile with
    ⟨error | env, events⟩
  · rw [h] at hprofile
    exact hprofile
  · rw [h] at hprofile
    exact List.forall_mem_append.mpr ⟨hprofile, env.overlayFile_reports _ _ _⟩

lemma uses_fileReports {events : List Event} (h : ∀ event ∈ events, event.IsFileReport) :
    (events.map Step.logged).filterMap Step.use? = [] := by
  rw [List.filterMap_map, List.filterMap_eq_nil_iff]
  intro event hevent
  have hreport := h event hevent
  cases event <;> first | rfl | exact hreport.elim

lemma uses_taskSteps (calls : List TaskCall) :
    (calls.flatMap TaskCall.steps).filterMap Step.use? =
      calls.map fun call => .task call.task call.env := by
  induction calls with
  | nil => rfl
  | cons call rest ih =>
    rw [List.flatMap_cons, List.filterMap_append, ih, TaskCall.steps]
    cases call.result with
    | ok done => rfl
    | error failure => rfl

lemma uses_variableReports (env : Environment) :
    (env.variableReports.map Step.logged).filterMap Step.use? = env.valueUses := by
  rw [Environment.variableReports, List.map_map, List.filterMap_map, Environment.valueUses]
  exact congrFun List.filterMap_eq_map _

lemma uses_openingSteps {first : List TaskCall} {events : List Event} {env : Environment}
    (h : ∀ event ∈ events, event.IsFileReport) :
    (openingSteps first events env).filterMap Step.use? =
      (first.map fun call => .task call.task call.env) ++ env.valueUses := by
  rw [openingSteps, List.filterMap_append, List.filterMap_append, uses_taskSteps,
    uses_fileReports h, uses_variableReports, List.append_nil]

lemma Host.follow_uses {host : Host σ} {env : Environment} {tasks : List Task} {state next : σ}
    {calls : List TaskCall} {result : Except TaskFailure Unit} (passthrough : List String)
    (h : host.follow env tasks state = ⟨calls, next, result⟩)
    (hmode : (∀ task ∈ tasks, task ∈ Task.afterEnvironment) ∨
      Mode.ofEnvironment env = .production) :
    ∀ use ∈ (calls.flatMap TaskCall.steps).filterMap Step.use?, use.IsOf env passthrough := by
  have henv := host.follow_env env tasks state
  rw [h] at henv
  rw [uses_taskSteps]
  intro use huse
  obtain ⟨call, hcall, rfl⟩ := List.mem_map.mp huse
  refine ⟨henv call hcall, ?_⟩
  rcases hmode with hcommon | hproduction
  · exact .inl (hcommon _ (Host.mem_of_mem_follow h call hcall))
  · exact .inr hproduction

section Starts

variable {host : Host σ} {launcher : Launcher σ} {paths : StartPaths} {base : Environment}
  {passthrough : List String} {state : σ}

/-- What a start uses before it hands over, and what it comes to. -/
inductive UsesBeforeHandover (base : Environment) (passthrough : List String)
    (snapshot : Except EnvFileError Environment) : List Use → Except StartError Ready → Prop
  | unread {error} (words : ∀ cause, error ≠ .launch cause) :
      UsesBeforeHandover base passthrough snapshot [.task .update base] (.error error)
  | read {env more result} (isSnapshot : snapshot = .ok env)
      (isOf : ∀ use ∈ more, use.IsOf env passthrough)
      (outcome : (∃ failure, result = .error (.task failure)) ∨ result = env.ready passthrough) :
      UsesBeforeHandover base passthrough snapshot
        (.task .update base :: (env.valueUses ++ more)) result

lemma UsesBeforeHandover.of_opening {first : List TaskCall} {s₁ : σ} {env : Environment}
    {events : List Event} {tail : List Step} {result : Except StartError Ready}
    (update : host.follow base Task.beforeEnvironment state = ⟨first, s₁, .ok ()⟩)
    (files : host.readEnvironment paths base s₁ = (.ok env, events))
    (isOf : ∀ use ∈ tail.filterMap Step.use?, use.IsOf env passthrough)
    (outcome : (∃ failure, result = .error (.task failure)) ∨ result = env.ready passthrough) :
    UsesBeforeHandover base passthrough (host.snapshot paths base state)
      ((openingSteps first events env ++ tail).filterMap Step.use?) result := by
  obtain ⟨⟨call, rfl, htask, henv, -⟩, rfl, -⟩ := Host.follow_singleton_inv update
  have hreports := host.readEnvironment_reports paths base (host.runTask .update base state).state
  rw [files] at hreports
  have huses : (openingSteps [call] events env ++ tail).filterMap Step.use? =
      .task .update base :: (env.valueUses ++ tail.filterMap Step.use?) := by
    rw [List.filterMap_append, uses_openingSteps hreports, List.map_singleton, htask, henv]
    rfl
  rw [huses]
  exact .read (by rw [host.snapshot_eq, files]) isOf outcome

lemma isOf_mode {env : Environment} {mode : Mode} (h : Mode.ofEnvironment env = mode) :
    ∀ use ∈ [Step.logged (.modeSelected (.modeSelected mode))].filterMap Step.use?,
      use.IsOf env passthrough :=
  List.forall_mem_singleton.mpr h.symm

lemma uses_lockReport (env : Environment) (s : σ) :
    [Step.logged (host.lockReport paths env s)].filterMap Step.use? = [] := by
  rw [Host.lockReport]
  split
  · rfl
  · rfl

lemma UsesBeforeHandover.of_production {first second third fourth : List TaskCall}
    {s₁ s₂ s₃ s₄ : σ} {env : Environment} {events : List Event} {last : Except TaskFailure Unit}
    {result : Except StartError Ready}
    (update : host.follow base Task.beforeEnvironment state = ⟨first, s₁, .ok ()⟩)
    (files : host.readEnvironment paths base s₁ = (.ok env, events))
    (common : host.follow env Task.afterEnvironment s₁ = ⟨second, s₂, .ok ()⟩)
    (mode : Mode.ofEnvironment env = .production)
    (prepare : host.follow env [.prepare] s₂ = ⟨third, s₃, .ok ()⟩)
    (rest : host.follow env (host.tasksAfterPrepare paths env s₃) s₃ = ⟨fourth, s₄, last⟩)
    (outcome : (∃ failure, result = .error (.task failure)) ∨ result = env.ready passthrough) :
    UsesBeforeHandover base passthrough (host.snapshot paths base state)
      ((productionSteps first events env second third (host.lockReport paths env s₃)
        fourth).filterMap Step.use?) result := by
  have hcommon := Host.follow_uses passthrough common (.inl fun _ h => h)
  have hprepare := Host.follow_uses passthrough prepare (.inr mode)
  have hrest := Host.follow_uses passthrough rest (.inr mode)
  rw [productionSteps, List.append_assoc, List.append_assoc, List.append_assoc, List.append_assoc]
  refine .of_opening update files ?_ outcome
  rw [List.filterMap_append, List.filterMap_append, List.filterMap_append, List.filterMap_append,
    uses_lockReport, List.nil_append, List.forall_mem_append, List.forall_mem_append,
    List.forall_mem_append]
  exact ⟨hcommon, isOf_mode mode, hprepare, hrest⟩

lemma Course.uses {progress : Progress σ} {result : Except StartError Ready}
    (h : Course host paths base passthrough state progress result) :
    UsesBeforeHandover base passthrough (host.snapshot paths base state)
      (progress.steps.filterMap Step.use?) result := by
  cases h with
  | updateFails update =>
    obtain ⟨⟨call, rfl, htask, henv, -⟩, -, -⟩ := Host.follow_singleton_inv update
    rw [uses_taskSteps, List.map_singleton, htask, henv]
    exact .unread (by simp)
  | @filesUnreadable _ s₁ _ _ update files =>
    obtain ⟨⟨call, rfl, htask, henv, -⟩, -, -⟩ := Host.follow_singleton_inv update
    have hreports := host.readEnvironment_reports paths base s₁
    rw [files] at hreports
    rw [List.filterMap_append, uses_taskSteps, uses_fileReports hreports, List.map_singleton, htask,
      henv]
    exact .unread (by simp)
  | commonTaskFails update files common =>
    have hcommon := Host.follow_uses passthrough common (.inl fun _ h => h)
    exact .of_opening update files hcommon (.inl ⟨_, rfl⟩)
  | unprepared update files common mode =>
    have hcommon := Host.follow_uses passthrough common (.inl fun _ h => h)
    rw [List.append_assoc]
    refine .of_opening update files ?_ (.inr rfl)
    rw [List.filterMap_append, List.forall_mem_append]
    exact ⟨hcommon, isOf_mode rfl⟩
  | prepareFails update files common mode prepare =>
    have hcommon := Host.follow_uses passthrough common (.inl fun _ h => h)
    have hprepare := Host.follow_uses passthrough prepare (.inr mode)
    rw [List.append_assoc, List.append_assoc]
    refine .of_opening update files ?_ (.inl ⟨_, rfl⟩)
    rw [List.filterMap_append, List.filterMap_append, List.forall_mem_append,
      List.forall_mem_append]
    exact ⟨hcommon, isOf_mode mode, hprepare⟩
  | laterTaskFails update files common mode prepare rest =>
    exact .of_production update files common mode prepare rest (.inl ⟨_, rfl⟩)
  | prepared update files common mode prepare rest =>
    exact .of_production update files common mode prepare rest (.inr rfl)

lemma Environment.ready_eq_ok {env : Environment} {ready : Ready}
    (h : env.ready passthrough = .ok ready) :
    env = ready.env ∧ env.terminalCommand passthrough = .ok ready.command := by
  rw [Environment.ready] at h
  split at h
  · rename_i command hcommand
    obtain rfl := Except.ok.inj h
    exact ⟨rfl, hcommand⟩
  · contradiction

lemma Environment.ready_eq_error {env : Environment} {error : StartError}
    (h : env.ready passthrough = .error error) :
    ∃ cause, error = .launch cause ∧ env.terminalCommand passthrough = .error cause := by
  rw [Environment.ready] at h
  split at h
  · contradiction
  · rename_i cause hcause
    exact ⟨cause, (Except.error.inj h).symm, hcause⟩

variable {snapshot : Except EnvFileError Environment} {uses : List Use}
  {result : Except StartError Ready}

lemma UsesBeforeHandover.ready {ready : Ready}
    (h : UsesBeforeHandover base passthrough snapshot uses (.ok ready)) :
    snapshot = .ok ready.env ∧ ready.env.terminalCommand passthrough = .ok ready.command := by
  cases h with
  | read isSnapshot isOf outcome =>
    rcases outcome with ⟨failure, hfailure⟩ | hready
    · contradiction
    · obtain ⟨rfl, hcommand⟩ := Environment.ready_eq_ok hready.symm
      exact ⟨isSnapshot, hcommand⟩

lemma UsesBeforeHandover.words {cause : LaunchError}
    (h : UsesBeforeHandover base passthrough snapshot uses (.error (.launch cause))) :
    ∃ env, snapshot = .ok env ∧ env.terminalCommand passthrough = .error cause := by
  cases h with
  | unread words => exact absurd rfl (words cause)
  | @read env more _ isSnapshot isOf outcome =>
    rcases outcome with ⟨failure, hfailure⟩ | hready
    · cases hfailure
    · obtain ⟨_, hcause, hcommand⟩ := Environment.ready_eq_error hready.symm
      cases hcause
      exact ⟨env, isSnapshot, hcommand⟩

lemma UsesBeforeHandover.usesSnapshot {steps : List Step}
    (h : UsesBeforeHandover base passthrough snapshot (steps.filterMap Step.use?) result)
    (next : σ) :
    UsesSnapshot base passthrough snapshot (⟨result, steps, next⟩ : Ended σ Ready) := by
  constructor
  · change ∃ later, steps.filterMap Step.use? = _ ∧ _
    generalize steps.filterMap Step.use? = uses at h
    cases h with
    | unread words => exact ⟨[], rfl, .inl ⟨rfl, _, rfl⟩⟩
    | read isSnapshot isOf outcome => exact ⟨_, rfl, .inr ⟨_, _, isSnapshot, rfl, isOf⟩⟩
  · rintro cause - rfl
    exact h.words

lemma UsesBeforeHandover.handover {ready : Ready}
    (h : UsesBeforeHandover base passthrough snapshot uses (.ok ready)) :
    ∃ env more, snapshot = .ok env ∧
      uses ++ [.command ready.command ready.env] =
        .task .update base :: (env.valueUses ++ more) ∧
      ∀ use ∈ more, use.IsOf env passthrough := by
  obtain ⟨hsnapshot, hcommand⟩ := h.ready
  cases h with
  | @read env more _ isSnapshot isOf outcome =>
    obtain rfl : env = ready.env := Except.ok.inj (isSnapshot.symm.trans hsnapshot)
    refine ⟨_, more ++ [.command ready.command ready.env], hsnapshot, ?_, ?_⟩
    · rw [List.cons_append, List.append_assoc]
    · rw [List.forall_mem_append, List.forall_mem_singleton]
      exact ⟨isOf, rfl, hcommand⟩

lemma Handover.usesSnapshot {progress : Progress σ} {ended : Ended σ Unit}
    (handover : Handover launcher progress result ended)
    (h : UsesBeforeHandover base passthrough snapshot (progress.steps.filterMap Step.use?)
      result) :
    UsesSnapshot base passthrough snapshot ended := by
  cases handover with
  | aborted error =>
    have hprepared := h.usesSnapshot progress.state
    obtain ⟨later, hlater, hcases⟩ := hprepared.uses
    constructor
    · refine ⟨later, ?_, ?_⟩
      · rw [← hlater, Ended.uses, List.filterMap_append]
        exact List.append_nil _
      · rcases hcases with ⟨hnil, -⟩ | hread
        · exact .inl ⟨hnil, error, rfl⟩
        · exact .inr hread
    · rintro cause - hcause
      cases hcause
      exact h.words
  | launched ready launch =>
    obtain ⟨env, more, hsnapshot, huses, hmore⟩ := h.handover
    constructor
    · refine ⟨env.valueUses ++ more, ?_, .inr ⟨env, more, hsnapshot, rfl, hmore⟩⟩
      rw [← huses, Ended.uses, List.filterMap_append]
      rfl
    · intro cause hnone hcause
      cases hcause
  | launchFails ready launch =>
    obtain ⟨env, more, hsnapshot, huses, hmore⟩ := h.handover
    constructor
    · refine ⟨env.valueUses ++ more, ?_, .inr ⟨env, more, hsnapshot, rfl, hmore⟩⟩
      rw [← huses, Ended.uses, List.filterMap_append]
      rfl
    · intro cause hnone hcause
      rw [Ended.launches, List.filterMap_append, List.append_eq_nil_iff] at hnone
      exact absurd hnone.2 (List.cons_ne_nil _ _)

end Starts

section Snapshots

variable (host : Host σ) (launcher : Launcher σ) (paths : StartPaths) (base : Environment)
  (passthrough : List String) (state : σ)

/-- Both ways to start a site use the snapshot. -/
structure StartsUse (snapshot : Except EnvFileError Environment) : Prop where
  start : UsesSnapshot base passthrough snapshot
    (startSite host launcher paths base passthrough state)
  prepare : UsesSnapshot base passthrough snapshot
    (prepareSite host paths base passthrough state)
  ready : ∀ ready, (prepareSite host paths base passthrough state).result = .ok ready →
    snapshot = .ok ready.env ∧ ready.env.terminalCommand passthrough = .ok ready.command

lemma startsUse_snapshot :
    StartsUse host launcher paths base passthrough state (host.snapshot paths base state) := by
  obtain ⟨progress, result, hcourse, hprepare, hhandover⟩ :=
    startSite_course host launcher paths base passthrough state
  have huses := hcourse.uses
  constructor
  · exact hhandover.usesSnapshot huses
  · rw [hprepare]
    exact huses.usesSnapshot progress.state
  · rw [hprepare]
    rintro ready rfl
    exact huses.ready

lemma Host.snapshot_congr {τ : Type} {host : Host σ} {other : Host τ} {paths : StartPaths}
    {base : Environment} {state : σ} {otherState : τ} (hprocess : other.process = host.process)
    (hfiles : ∀ path ∈ [paths.profile, paths.overrideFile],
      (other.files (other.runTask .update base otherState).state).readText path =
        (host.files (host.runTask .update base state).state).readText path) :
    other.snapshot paths base otherState = host.snapshot paths base state := by
  have hprofile := hfiles paths.profile List.mem_cons_self
  have hoverride := hfiles paths.overrideFile (List.mem_cons_of_mem _ List.mem_cons_self)
  rw [snapshot, snapshot, hprocess, Environment.overlayFile_congr base _ hprofile]
  split
  · rfl
  · rw [Environment.overlayFile_congr _ _ hoverride]

/-- A start uses the environment of the files as `update` has left them, and so does every other
one for which they read the same then, whatever tasks write to them later. -/
theorem starts_use_snapshot :
    StartsUse host launcher paths base passthrough state (host.snapshot paths base state) ∧
      ∀ (τ : Type) (other : Host τ) (otherLauncher : Launcher τ) (otherState : τ),
        other.process = host.process →
        (∀ path ∈ [paths.profile, paths.overrideFile],
          (other.files (other.runTask .update base otherState).state).readText path =
            (host.files (host.runTask .update base state).state).readText path) →
        StartsUse other otherLauncher paths base passthrough otherState
          (host.snapshot paths base state) := by
  refine ⟨startsUse_snapshot host launcher paths base passthrough state, ?_⟩
  intro τ other otherLauncher otherState hprocess hfiles
  have huse := startsUse_snapshot other otherLauncher paths base passthrough otherState
  rw [Host.snapshot_congr hprocess hfiles] at huse
  exact huse

end Snapshots

/-- Tasks of which `update` and some others write the profile, each with its own name in it. -/
def profileWriters (writers : List Task) : Script where
  changes task :=
    if task = .update || writers.contains task then
      ⟨[(".bashrc", .file (.ofString ("export SITEURL=" ++ task.name)) false)], []⟩
    else .nothing
  failures _ := none

/-- Rewriting the profile in `migrations` does not reach the environment. -/
theorem rewritten_profile_not_read :
    let paths : StartPaths := ⟨"geonode_init.lock", ".bashrc", ".override_env"⟩
    let host := (profileWriters []).host ⟨[]⟩
    let other := (profileWriters [.migrations]).host ⟨[]⟩
    host.snapshot paths .empty .base = .ok (Environment.empty.set "SITEURL" "update") ∧
      StartsUse other (rehearsedLauncher none) paths .empty ["bash"] .base
        (host.snapshot paths .empty .base) := by
  intro paths host other
  refine ⟨?_, ?_⟩
  · cbv
  · exact (starts_use_snapshot host (rehearsedLauncher none) paths .empty ["bash"] .base).2
      FileTree other (rehearsedLauncher none) .base rfl fun _ _ => rfl

end SiteBoot
