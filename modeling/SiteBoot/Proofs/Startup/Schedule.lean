import SiteBoot.Proofs.Startup.Calls
import SiteBoot.Startup.Rehearsal
/-!
# The schedule of a start

`Host.schedule` is the list of tasks that a start is to run. It depends on the environment that
the files give once `update` has returned, and on the lock file at the moment when `prepare` has
returned, and on nothing that happens later. A start keeps to its schedule up to the first failure.
-/

namespace SiteBoot

variable {σ : Type}

/-- A variable is literally `true` or `True`. -/
def Environment.IsTrue (env : Environment) (name : String) : Prop :=
  env.get? name = some "true" ∨ env.get? name = some "True"

/-- The site has not been initialized yet, or it is to be initialized again. -/
def Environment.FirstStartDue (env : Environment) (files : FileTree) (lockFile : RawText) : Prop :=
  env.IsTrue "IS_FIRST_START" ∨ env.IsTrue "FORCE_REINIT" ∨ files.has lockFile = false

lemma Environment.isFirstStart_iff (env : Environment) (files : FileTree) (lockFile : RawText) :
    env.isFirstStart files lockFile = true ↔ env.FirstStartDue files lockFile := by
  simp [isFirstStart, FirstStartDue, IsTrue, flag, or_assoc]

instance (env : Environment) (files : FileTree) (lockFile : RawText) :
    Decidable (env.FirstStartDue files lockFile) :=
  decidable_of_iff _ (env.isFirstStart_iff files lockFile)

def FileTree.ReadableOrMissing (files : FileTree) (path : RawText) : Prop :=
  ∀ failure, files.readText path = .error failure → failure = .notFound

/-- The first of the two environment files that is there but cannot be read. -/
structure EnvFileError.IsFirst (error : EnvFileError) (files : FileTree) (paths : StartPaths) :
    Prop where
  fails : files.readText error.path = .error error.failure
  present : error.failure ≠ .notFound
  first : error.path = paths.profile ∨
    error.path = paths.overrideFile ∧ files.ReadableOrMissing paths.profile

lemma EnvFileError.IsFirst.not_readable {error : EnvFileError} {files : FileTree}
    {paths : StartPaths} (h : error.IsFirst files paths) :
    ¬(files.ReadableOrMissing paths.profile ∧ files.ReadableOrMissing paths.overrideFile) := by
  rintro ⟨hprofile, hoverride⟩
  have hfails := h.fails
  rcases h.first with hpath | ⟨hpath, -⟩
  · rw [hpath] at hfails
    exact h.present (hprofile _ hfails)
  · rw [hpath] at hfails
    exact h.present (hoverride _ hfails)

lemma EnvFileError.IsFirst.unique {a b : EnvFileError} {files : FileTree} {paths : StartPaths}
    (ha : a.IsFirst files paths) (hb : b.IsFirst files paths) : a = b := by
  have hpath : a.path = b.path := by
    rcases ha.first with h | ⟨h, hread⟩ <;> rcases hb.first with h' | ⟨h', hread'⟩
    · rw [h, h']
    · exact absurd (hread' _ (h ▸ ha.fails)) ha.present
    · exact absurd (hread _ (h' ▸ hb.fails)) hb.present
    · rw [h, h']
  have hfailure : a.failure = b.failure := by
    have hfails := ha.fails
    rw [hpath, hb.fails] at hfails
    exact (Except.error.inj hfails).symm
  obtain ⟨path, failure⟩ := a
  obtain ⟨path', failure'⟩ := b
  dsimp only at hpath hfailure
  rw [hpath, hfailure]

lemma Environment.overlayFile_eq_error_iff (env : Environment) (process : ProcessEnvironment)
    (files : FileTree) (path : RawText) (error : EnvFileError) :
    (env.overlayFile process files path).1 = .error error ↔
      error.path = path ∧ files.readText path = .error error.failure ∧
        error.failure ≠ .notFound := by
  obtain ⟨errorPath, failure⟩ := error
  rw [overlayFile]
  split
  · rename_i h
    simp only [h]
    grind
  · rename_i cause hcause h
    simp only [h, Except.error.injEq, EnvFileError.mk.injEq]
    grind
  · rename_i h
    simp [h]

lemma Environment.overlayFile_readable {env later : Environment} {process : ProcessEnvironment}
    {files : FileTree} {path : RawText} (h : (env.overlayFile process files path).1 = .ok later) :
    files.ReadableOrMissing path := by
  intro failure hfailure
  by_contra hpresent
  have herror := (env.overlayFile_eq_error_iff process files path ⟨path, failure⟩).mpr
    ⟨rfl, hfailure, hpresent⟩
  rw [h] at herror
  contradiction

namespace Host

variable (host : Host σ) (paths : StartPaths) (base : Environment)

lemma readEnvironment_error {state : σ} {error : EnvFileError}
    (h : (host.readEnvironment paths base state).1 = .error error) :
    error.IsFirst (host.files state) paths := by
  rw [readEnvironment] at h
  rcases hp : base.overlayFile host.process (host.files state) paths.profile with
    ⟨cause | env, events⟩
  · rw [hp] at h
    have hfirst := (base.overlayFile_eq_error_iff host.process (host.files state) paths.profile
      error).mp (by rw [hp]; exact h)
    exact ⟨hfirst.1 ▸ hfirst.2.1, hfirst.2.2, .inl hfirst.1⟩
  · rw [hp] at h
    have hsecond := (env.overlayFile_eq_error_iff host.process (host.files state)
      paths.overrideFile error).mp h
    have hread := Environment.overlayFile_readable (congrArg Prod.fst hp)
    exact ⟨hsecond.1 ▸ hsecond.2.1, hsecond.2.2, .inr ⟨hsecond.1, hread⟩⟩

lemma readEnvironment_ok {state : σ} {env : Environment}
    (h : (host.readEnvironment paths base state).1 = .ok env) :
    (host.files state).ReadableOrMissing paths.profile ∧
      (host.files state).ReadableOrMissing paths.overrideFile := by
  rw [readEnvironment] at h
  rcases hp : base.overlayFile host.process (host.files state) paths.profile with
    ⟨cause | middle, events⟩
  · rw [hp] at h
    contradiction
  · rw [hp] at h
    exact ⟨Environment.overlayFile_readable (congrArg Prod.fst hp),
      Environment.overlayFile_readable h⟩

def productionTasks (env : Environment) (prepared : σ) : List Task :=
  [.prepare] ++
    (if env.FirstStartDue (host.files prepared) paths.lockFile then
      [.updateGeoIp, .fixtures, .monitoringFixture, .initialized] else []) ++
    [.statics, .waitForGeoServer, .geoServerFixture, .updateAdmin]

/-- The tasks that a start from a state on is to run. The environment is that of the files when
`update` has returned. -/
def schedule (state : σ) : List Task :=
  let updated := (host.runTask .update base state).state
  [.update, .waitForDatabases, .migrations] ++
    match (host.readEnvironment paths base updated).1 with
    | .error _ => []
    | .ok env =>
      match Mode.ofEnvironment env with
      | .development => []
      | .worker => []
      | .production =>
        let prepared :=
          (host.follow env [.waitForDatabases, .migrations, .prepare] updated).state
        host.productionTasks paths env prepared

lemma productionTasks_eq (env : Environment) (prepared : σ) :
    host.productionTasks paths env prepared =
      .prepare :: host.tasksAfterPrepare paths env prepared := by
  rw [productionTasks, tasksAfterPrepare]
  by_cases h : env.FirstStartDue (host.files prepared) paths.lockFile
  · rw [if_pos h, if_pos ((env.isFirstStart_iff _ _).mpr h)]
    rfl
  · rw [if_neg h, if_neg (fun hf => h ((env.isFirstStart_iff _ _).mp hf))]
    rfl

lemma schedule_of_ok {state : σ} {env : Environment}
    (h : (host.readEnvironment paths base (host.runTask .update base state).state).1 = .ok env) :
    host.schedule paths base state =
      .update :: host.laterTasks env paths (host.runTask .update base state).state := by
  rw [schedule]
  dsimp only
  rw [h, laterTasks]
  dsimp only
  cases hm : Mode.ofEnvironment env with
  | development => rfl
  | worker => rfl
  | production =>
    dsimp only
    rw [productionTasks_eq]
    rfl

lemma nodup_laterTasks (env : Environment) (state : σ) :
    (host.laterTasks env paths state).Nodup := by
  rw [laterTasks]
  cases Mode.ofEnvironment env with
  | development =>
    dsimp only
    decide
  | worker =>
    dsimp only
    decide
  | production =>
    dsimp only
    rw [tasksAfterPrepare]
    split
    · decide
    · decide

lemma nodup_schedule (state : σ) : (host.schedule paths base state).Nodup := by
  rw [schedule]
  dsimp only
  split
  · decide
  · rename_i env _
    cases Mode.ofEnvironment env with
    | development =>
      dsimp only
      decide
    | worker =>
      dsimp only
      decide
    | production =>
      dsimp only
      rw [productionTasks]
      split
      · decide
      · decide

lemma update_isPrefix_schedule (state : σ) : [.update] <+: host.schedule paths base state :=
  ⟨[.waitForDatabases, .migrations] ++ _, rfl⟩

lemma getLast?_schedule_ne (state : σ) :
    (host.schedule paths base state).getLast? ≠ some .update := by
  have hnodup := host.nodup_schedule paths base state
  obtain ⟨rest, hrest⟩ : ∃ rest, host.schedule paths base state =
      .update :: .waitForDatabases :: rest := ⟨.migrations :: _, rfl⟩
  rw [hrest] at hnodup ⊢
  rw [List.getLast?_cons_cons]
  exact fun h => (List.nodup_cons.mp hnodup).1 (List.mem_of_getLast? h)

lemma schedule_ne_update (state : σ) : host.schedule paths base state ≠ [.update] := by
  intro h
  have hlast := host.getLast?_schedule_ne paths base state
  rw [h] at hlast
  exact hlast rfl

lemma follow_tasks_eq_iff (env : Environment) {tasks : List Task} (hnodup : tasks.Nodup)
    (state : σ) :
    (host.follow env tasks state).calls.map TaskCall.task = tasks ↔
      ∀ call ∈ (host.follow env tasks state).calls,
        call.result = .ok () ∨ tasks.getLast? = some call.task := by
  induction tasks generalizing state with
  | nil => simp [follow]
  | cons task rest ih =>
    obtain ⟨hnot, hrest⟩ := List.nodup_cons.mp hnodup
    rw [follow]
    cases (host.runTask task env state).result with
    | ok done =>
      rw [List.map_cons, List.cons.injEq, List.forall_mem_cons]
      simp only [true_and, true_or]
      rw [ih hrest]
      cases rest with
      | nil => simp [follow]
      | cons next others => rw [List.getLast?_cons_cons]
    | error failure =>
      cases rest with
      | nil => simp
      | cons next others =>
        have hlast : (next :: others).getLast? ≠ some task := fun h =>
          hnot (List.mem_of_getLast? h)
        simpa using hlast

end Host

/-- An ended start has kept to its schedule. -/
structure FollowsSchedule {α : Type} (host : Host σ) (paths : StartPaths) (base : Environment)
    (state : σ) (ended : Ended σ α) : Prop where
  inOrder : ended.tasks <+: host.schedule paths base state
  /-- All of them are called unless a file cannot be read or a task before the last one fails. -/
  complete_iff : ended.tasks = host.schedule paths base state ↔
    ((host.files (host.runTask .update base state).state).ReadableOrMissing paths.profile ∧
      (host.files (host.runTask .update base state).state).ReadableOrMissing
        paths.overrideFile) ∧
    ∀ call ∈ ended.taskCalls,
      call.result = .ok () ∨ (host.schedule paths base state).getLast? = some call.task
  failure : ∀ before call after failure, ended.taskCalls = before ++ call :: after →
    call.result = .error failure → after = [] ∧ ended.result = .error (.task failure)
  unreadable : ∀ error : EnvFileError, (host.runTask .update base state).result = .ok () →
    error.IsFirst (host.files (host.runTask .update base state).state) paths →
    ended.tasks = [.update] ∧ ended.result = .error (.environmentFile error)

section FollowsSchedule

variable {α : Type} {host : Host σ} {paths : StartPaths} {base : Environment} {state : σ}
  {ended : Ended σ α}

lemma followsSchedule_update {call : TaskCall} (hcalls : ended.taskCalls = [call])
    (htask : call.task = .update)
    (hfailure : ∀ failure, call.result = .error failure →
      ended.result = .error (.task failure))
    (hfiles : call.result = .ok () →
      ¬((host.files (host.runTask .update base state).state).ReadableOrMissing paths.profile ∧
        (host.files (host.runTask .update base state).state).ReadableOrMissing
          paths.overrideFile))
    (hunreadable : ∀ error : EnvFileError, (host.runTask .update base state).result = .ok () →
      error.IsFirst (host.files (host.runTask .update base state).state) paths →
      ended.result = .error (.environmentFile error)) :
    FollowsSchedule host paths base state ended := by
  have htasks : ended.tasks = [.update] := by
    rw [Ended.tasks, hcalls, List.map_singleton, htask]
  refine ⟨?_, ?_, ?_, ?_⟩
  · rw [htasks]
    exact host.update_isPrefix_schedule paths base state
  · constructor
    · intro h
      rw [htasks] at h
      exact absurd h.symm (host.schedule_ne_update paths base state)
    · rintro ⟨hread, hall⟩
      rcases hall call (by rw [hcalls]; exact List.mem_singleton_self call) with hok | hlast
      · exact absurd hread (hfiles hok)
      · rw [htask] at hlast
        exact absurd hlast (host.getLast?_schedule_ne paths base state)
  · intro before last after failure hsplit hlast
    rw [hcalls] at hsplit
    obtain ⟨rfl, hrest⟩ := List.append_eq_singleton_iff.mp hsplit.symm |>.resolve_right
      (by rintro ⟨-, h⟩; contradiction)
    obtain ⟨rfl, rfl⟩ := List.cons.inj hrest
    exact ⟨rfl, hfailure failure hlast⟩
  · intro error hok herror
    exact ⟨htasks, hunreadable error hok herror⟩

lemma followsSchedule_later {first later : List TaskCall} {s₁ s₂ : σ} {env : Environment}
    {events : List Event} {outcome : Except TaskFailure Unit}
    (hcalls : ended.taskCalls = first ++ later)
    (update : host.follow base Task.beforeEnvironment state = ⟨first, s₁, .ok ()⟩)
    (files : host.readEnvironment paths base s₁ = (.ok env, events))
    (rest : host.follow env (host.laterTasks env paths s₁) s₁ = ⟨later, s₂, outcome⟩)
    (hfailure : ∀ failure, outcome = .error failure → ended.result = .error (.task failure)) :
    FollowsSchedule host paths base state ended := by
  obtain ⟨⟨call, rfl, htask, -, hcall⟩, rfl, hrun⟩ := Host.follow_singleton_inv update
  have hread := host.readEnvironment_ok paths base (congrArg Prod.fst files)
  have hschedule := host.schedule_of_ok paths base (congrArg Prod.fst files)
  have hlater : (host.follow env _ _).calls = later := congrArg Stretch.calls rest
  rw [List.singleton_append] at hcalls
  have htasks : ended.tasks = .update :: later.map TaskCall.task := by
    rw [Ended.tasks, hcalls, List.map_cons, htask]
  have hlast : (host.schedule paths base state).getLast? =
      (host.laterTasks env paths (host.runTask .update base state).state).getLast? := by
    rw [hschedule, Host.laterTasks, Task.afterEnvironment, List.cons_append,
      List.getLast?_cons_cons]
  refine ⟨?_, ?_, ?_, ?_⟩
  · rw [htasks, hschedule, ← hlater]
    exact (List.prefix_cons_inj _).mpr (host.follow_tasks_isPrefix env _ _)
  · rw [htasks, hschedule, List.cons.injEq, ← hschedule, hlast, hcalls, ← hlater,
      host.follow_tasks_eq_iff env (host.nodup_laterTasks paths env _)]
    simp [hread, hcall]
  · intro before last after failure hsplit hfailed
    rw [hcalls] at hsplit
    cases before with
    | nil =>
      obtain ⟨rfl, -⟩ := List.cons.inj hsplit
      rw [hcall] at hfailed
      contradiction
    | cons first before =>
      rw [List.cons_append] at hsplit
      have htail := (List.cons.inj hsplit).2
      rw [← hlater] at htail
      obtain ⟨hafter, hout⟩ := host.follow_failure env htail hfailed
      rw [rest] at hout
      exact ⟨hafter, hfailure failure hout⟩
  · intro error _ herror
    exact absurd hread herror.not_readable

end FollowsSchedule

theorem Outline.followsSchedule {α : Type} {host : Host σ} {paths : StartPaths}
    {base : Environment} {passthrough : List String} {state next : σ}
    {result : Except StartError Ready} {ended : Ended σ α}
    (h : Outline host paths base passthrough state ended.taskCalls next result)
    (hresult : ∀ error, result = .error error → ended.result = .error error) :
    FollowsSchedule host paths base state ended := by
  generalize hcalls : ended.taskCalls = calls at h
  cases h with
  | @updateFails _ _ failure update =>
    obtain ⟨⟨call, rfl, htask, -, hcall⟩, -, hrun⟩ := Host.follow_singleton_inv update
    refine followsSchedule_update hcalls htask ?_ ?_ ?_
    · intro other hother
      rw [hcall] at hother
      rw [hresult _ rfl, Except.error.inj hother]
    · intro hok
      rw [hcall] at hok
      contradiction
    · intro error hok
      rw [← hrun] at hok
      contradiction
  | @filesUnreadable _ _ error events update files =>
    obtain ⟨⟨call, rfl, htask, -, hcall⟩, rfl, hrun⟩ := Host.follow_singleton_inv update
    have hfirst := host.readEnvironment_error paths base (congrArg Prod.fst files)
    refine followsSchedule_update hcalls htask ?_ ?_ ?_
    · intro failure hfailure
      rw [hcall] at hfailure
      contradiction
    · exact fun _ => hfirst.not_readable
    · intro other _ hother
      rw [hresult _ rfl, hother.unique hfirst]
  | follows update files rest =>
    refine followsSchedule_later hcalls update files rest ?_
    rintro failure rfl
    exact hresult _ rfl

section Starts

variable (host : Host σ) (launcher : Launcher σ) (paths : StartPaths) (base : Environment)
  (passthrough : List String) (state : σ)

/-- A start keeps to its schedule, and so does one that does not hand over. -/
theorem starts_followSchedule :
    FollowsSchedule host paths base state (prepareSite host paths base passthrough state) ∧
      FollowsSchedule host paths base state
        (startSite host launcher paths base passthrough state) := by
  obtain ⟨progress, result, hcourse, hprepare, hhandover⟩ :=
    startSite_course host launcher paths base passthrough state
  have houtline := hcourse.outline
  constructor
  · rw [hprepare]
    exact Outline.followsSchedule houtline fun _ h => h
  · rw [← hhandover.taskCalls] at houtline
    exact houtline.followsSchedule fun _ h => hhandover.result_of_error h

end Starts

/-! ### A failure of the last scheduled task -/

def migrationsFail : Script where
  changes _ := .nothing
  failures task := if task = .migrations then some (.exited 4) else none

def missingPaths : StartPaths := ⟨"geonode_init.lock", ".bashrc", ".override_env"⟩

lemma migrationsFail_readEnvironment :
    (migrationsFail.host ⟨[]⟩).readEnvironment missingPaths .empty .base =
      (.ok .empty, [.environmentFileMissing missingPaths.profile,
        .environmentFileMissing missingPaths.overrideFile]) := by
  cbv

lemma migrationsFail_schedule :
    (migrationsFail.host ⟨[]⟩).schedule missingPaths .empty .base =
      [.update, .waitForDatabases, .migrations] := by
  cbv

/-- Every scheduled task has been called although one of them, the last, has failed. -/
theorem complete_despite_failing_last_task :
    let host := migrationsFail.host ⟨[]⟩
    let ended := startSite host (rehearsedLauncher none) missingPaths .empty ["bash"] .base
    let files := host.files (host.runTask .update .empty .base).state
    ¬(ended.tasks = host.schedule missingPaths .empty .base ↔
      (files.ReadableOrMissing missingPaths.profile ∧
        files.ReadableOrMissing missingPaths.overrideFile) ∧
      ∀ call ∈ ended.taskCalls, call.result = .ok ()) := by
  intro host ended files hiff
  obtain ⟨progress, result, hcourse, -, hhandover⟩ :=
    startSite_course host (rehearsedLauncher none) missingPaths .empty ["bash"] .base
  have houtline := hcourse.outline
  rw [← hhandover.taskCalls] at houtline
  have hupdate : host.follow .empty Task.beforeEnvironment .base =
      ⟨[⟨.update, .empty, [], .ok ()⟩], .base, .ok ()⟩ := rfl
  have hcalls : ended.taskCalls = [⟨.update, .empty, [], .ok ()⟩,
      ⟨.waitForDatabases, .empty, [], .ok ()⟩,
      ⟨.migrations, .empty, [], .error ⟨.migrations, .exited 4⟩⟩] := by
    rw [houtline.calls_eq hupdate (congrArg Prod.fst migrationsFail_readEnvironment)]
    rfl
  have htasks : ended.tasks = host.schedule missingPaths .empty .base := by
    rw [Ended.tasks, hcalls, migrationsFail_schedule]
    rfl
  have hall := (hiff.mp htasks).2
  rw [hcalls] at hall
  have hmigrations := hall ⟨.migrations, .empty, [], .error ⟨.migrations, .exited 4⟩⟩ (by simp)
  contradiction

end SiteBoot
