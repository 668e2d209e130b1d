import SiteBoot.Proofs.Startup.History
import SiteBoot.Proofs.Startup.Schedule
import SiteBoot.Proofs.Startup.Snapshot
/-!
# The starts of an initialized site

Once `initialized` has succeeded there is a lock file. As long as nothing removes it and no
environment asks for a new initialization, later starts leave the first-start tasks out: they run
the same tasks again and again, those of their mode.
-/

namespace SiteBoot

variable {σ : Type}

def Environment.Unforced (env : Environment) : Prop :=
  ¬env.IsTrue "IS_FIRST_START" ∧ ¬env.IsTrue "FORCE_REINIT"

/-- The tasks of a mode where there is nothing to initialize. -/
def Mode.settledTasks (mode : Mode) : List Task :=
  [.update, .waitForDatabases, .migrations] ++
    match mode with
    | .production => [.prepare, .statics, .waitForGeoServer, .geoServerFixture, .updateAdmin]
    | _ => []

lemma Mode.firstStart_not_mem_settledTasks (mode : Mode) :
    ∀ task ∈ Task.firstStart, task ∉ mode.settledTasks := by
  cases mode <;> decide

namespace Host

def Locked (host : Host σ) (lockFile : RawText) (state : σ) : Prop :=
  (host.files state).has lockFile = true

/-- A call does not remove the lock file, and leaves one behind if it is a success of
`initialized`. -/
structure KeepsLock (host : Host σ) (lockFile : RawText) (visit : Visit σ) : Prop where
  keeps : host.Locked lockFile visit.state → host.Locked lockFile (host.visit visit).state
  initialized : visit.task = .initialized → (host.visit visit).result = .ok () →
    host.Locked lockFile (host.visit visit).state

variable {host : Host σ} {lockFile : RawText} {env : Environment} {tasks : List Task}
  {state next : σ} {calls : List TaskCall} {result : Except TaskFailure Unit}

lemma follow_locks (hkeeps : ∀ visit ∈ host.visits env tasks state, host.KeepsLock lockFile visit)
    (hmem : (.initialized, .ok ()) ∈ (host.follow env tasks state).calls.map TaskCall.outcome) :
    host.Locked lockFile (host.follow env tasks state).state := by
  induction tasks generalizing state with
  | nil => simp [follow] at hmem
  | cons task rest ih =>
    rw [visits, List.forall_mem_cons] at hkeeps
    rw [follow] at hmem ⊢
    cases hr : (host.runTask task env state).result with
    | error failure =>
      rw [hr] at hmem
      simp [TaskCall.outcome] at hmem
    | ok done =>
      rw [hr] at hkeeps hmem
      dsimp only at hmem ⊢
      rw [List.map_cons, List.mem_cons] at hmem
      rcases hmem with hfirst | hmem
      · -- this call makes the lock file, and the later ones keep it
        obtain rfl : .initialized = task := congrArg Prod.fst hfirst
        have hmade := hkeeps.1.initialized rfl hr
        exact follow_keeps (fun visit hvisit => (hkeeps.2 visit hvisit).keeps) hmade
      · exact ih hkeeps.2 hmem

lemma tasksAfterPrepare_of_locked {paths : StartPaths} (hlocked : host.Locked paths.lockFile state)
    (henv : env.Unforced) : host.tasksAfterPrepare paths env state = Task.productionSuffix := by
  have hfirst : ¬env.isFirstStart (host.files state) paths.lockFile := by
    rw [env.isFirstStart_iff]
    rintro (h | h | h)
    · exact henv.1 h
    · exact henv.2 h
    · rw [Locked] at hlocked
      rw [hlocked] at h
      contradiction
  rw [tasksAfterPrepare, if_neg hfirst, List.nil_append]

lemma laterTasks_of_locked {paths : StartPaths}
    (hkeeps : ∀ visit ∈ host.visits env (host.laterTasks env paths state) state,
      host.KeepsLock paths.lockFile visit)
    (hlocked : host.Locked paths.lockFile state) (henv : env.Unforced) :
    .update :: host.laterTasks env paths state = (Mode.ofEnvironment env).settledTasks := by
  cases hmode : Mode.ofEnvironment env with
  | development =>
    rw [laterTasks, hmode]
    rfl
  | worker =>
    rw [laterTasks, hmode]
    rfl
  | production =>
    -- the state that the lock file is looked for in is one that the start comes to
    have hsubset := host.visits_through_prepare_subset paths hmode state
    have hprepared : host.Locked paths.lockFile _ :=
      follow_keeps (fun visit hvisit => (hkeeps visit (hsubset hvisit)).keeps) hlocked
    rw [laterTasks, hmode]
    dsimp only
    rw [tasksAfterPrepare_of_locked hprepared henv]
    rfl

end Host

/-! ### One start -/

def Ended.Selects {α : Type} (ended : Ended σ α) (mode : Mode) : Prop :=
  Step.logged (.modeSelected (.modeSelected mode)) ∈ ended.steps

def Ended.HasInitialized {α : Type} (ended : Ended σ α) : Prop :=
  (.initialized, .ok ()) ∈ ended.taskCalls.map TaskCall.outcome

/-- A start has called only tasks of its mode that are no first-start tasks, and all of them
unless one failed. -/
structure Ended.IsSettled {α : Type} (ended : Ended σ α) : Prop where
  isPrefix : ∃ mode : Mode, ended.tasks <+: mode.settledTasks
  complete : ∀ mode : Mode, ended.Selects mode → ended.NoTaskFails →
    ended.tasks = mode.settledTasks

section Start

variable {host : Host σ} {paths : StartPaths} {base : Environment} {passthrough : List String}
  {state next : σ} {calls : List TaskCall} {result : Except StartError Ready}

lemma Outline.locks (h : Outline host paths base passthrough state calls next result)
    (hkeeps : ∀ visit ∈ host.startVisits paths base state, host.KeepsLock paths.lockFile visit)
    (hmem : (.initialized, .ok ()) ∈ calls.map TaskCall.outcome) :
    host.Locked paths.lockFile next := by
  cases h with
  | updateFails update =>
    obtain ⟨⟨call, rfl, htask, -, -⟩, -, -⟩ := Host.follow_singleton_inv update
    simp [TaskCall.outcome, htask] at hmem
  | filesUnreadable update files =>
    obtain ⟨⟨call, rfl, htask, -, -⟩, -, -⟩ := Host.follow_singleton_inv update
    simp [TaskCall.outcome, htask] at hmem
  | follows update files rest =>
    rw [Host.startVisits_of_follow update files, List.forall_mem_cons] at hkeeps
    obtain ⟨⟨call, rfl, htask, -, -⟩, -, -⟩ := Host.follow_singleton_inv update
    have hlater := Host.follow_locks hkeeps.2
    rw [rest] at hlater
    exact hlater (by simpa [TaskCall.outcome, htask] using hmem)

/-- The tasks of a start from a state with a lock file on. -/
lemma Outline.tasks_of_locked (h : Outline host paths base passthrough state calls next result)
    (hkeeps : ∀ visit ∈ host.startVisits paths base state, host.KeepsLock paths.lockFile visit)
    (hstart : host.Locked paths.lockFile state)
    (henv : (host.runTask .update base state).result = .ok () →
      ∀ env, host.snapshot paths base state = .ok env → env.Unforced) :
    (∃ mode : Mode, calls.map TaskCall.task <+: mode.settledTasks) ∧
      ∀ env, host.snapshot paths base state = .ok env → (∀ call ∈ calls, call.result = .ok ()) →
        calls.map TaskCall.task = (Mode.ofEnvironment env).settledTasks := by
  have hupdate : ∀ mode : Mode, [.update] <+: mode.settledTasks := fun mode => ⟨_, rfl⟩
  have hfirst := (hkeeps ⟨.update, base, state⟩ List.mem_cons_self).keeps hstart
  cases h with
  | updateFails update =>
    obtain ⟨⟨call, rfl, htask, -, hcall⟩, -, -⟩ := Host.follow_singleton_inv update
    rw [List.map_singleton, htask]
    refine ⟨⟨.development, hupdate .development⟩, ?_⟩
    intro env _ hok
    rw [hok call (List.mem_singleton_self call)] at hcall
    contradiction
  | filesUnreadable update files =>
    obtain ⟨⟨call, rfl, htask, -, hcall⟩, rfl, -⟩ := Host.follow_singleton_inv update
    rw [List.map_singleton, htask]
    refine ⟨⟨.development, hupdate .development⟩, ?_⟩
    intro env hsnapshot
    rw [host.snapshot_eq, files] at hsnapshot
    contradiction
  | @follows _ _ env _ later _ outcome update files rest =>
    rw [Host.startVisits_of_follow update files, List.forall_mem_cons] at hkeeps
    obtain ⟨⟨call, rfl, htask, -, hcall⟩, rfl, hresult⟩ := Host.follow_singleton_inv update
    have hsnapshot : host.snapshot paths base state = .ok env := by rw [host.snapshot_eq, files]
    have hunforced := henv hresult.symm env hsnapshot
    have htasks := Host.laterTasks_of_locked hkeeps.2 hfirst hunforced
    have hlater : (host.follow env _ _).calls = later := congrArg Stretch.calls rest
    rw [List.singleton_append, List.map_cons, htask, ← hlater]
    constructor
    · refine ⟨Mode.ofEnvironment env, ?_⟩
      rw [← htasks]
      exact (List.prefix_cons_inj _).mpr (host.follow_tasks_isPrefix env _ _)
    · intro other hother hok
      rw [hsnapshot] at hother
      obtain rfl := Except.ok.inj hother
      have hresult := (host.follow_result_eq_ok_iff env _ _).mpr
        fun call hmem => hok call (List.mem_cons_of_mem _ hmem)
      rw [host.follow_tasks_of_ok env hresult, htasks]

end Start

lemma Environment.overlayFile_of_missing (env : Environment) (process : ProcessEnvironment)
    {files : FileTree} {path : RawText} (h : files.readText path = .error .notFound) :
    env.overlayFile process files path = (.ok env, [.environmentFileMissing path]) := by
  rw [overlayFile, h]
  rfl

lemma UsesSnapshot.mode_eq {α : Type} {base : Environment} {passthrough : List String}
    {snapshot : Except EnvFileError Environment} {ended : Ended σ α} {mode : Mode}
    (h : UsesSnapshot base passthrough snapshot ended) (hmode : ended.Selects mode) :
    ∃ env, snapshot = .ok env ∧ mode = Mode.ofEnvironment env := by
  have huse : Use.mode mode ∈ ended.uses := List.mem_filterMap.mpr ⟨_, hmode, rfl⟩
  obtain ⟨later, hlater, ⟨hnil, -⟩ | ⟨env, more, hsnapshot, hmore, hisOf⟩⟩ := h.uses
  · rw [hlater, hnil] at huse
    simp at huse
  · refine ⟨env, hsnapshot, ?_⟩
    rw [hlater, hmore, List.mem_cons, List.mem_append] at huse
    rcases huse with htask | hvalue | hmore
    · contradiction
    · simp [Environment.valueUses] at hvalue
    · exact hisOf _ hmore

/-! ### Starts one after the other -/

namespace Site

variable (site : Site σ)

def Locked (state : σ) : Prop := (site.files state).has site.lockFile = true

/-- Nothing that happens in a start and before it removes the lock file, and `initialized` leaves
one behind. -/
structure KeepsLock (boot : Boot σ) (state : σ) : Prop where
  before : site.Locked state → site.Locked (boot.before state)
  visits : ∀ visit ∈ site.visits boot state, (site.host boot).KeepsLock site.lockFile visit
  launcher : ∀ ready : Ready, (site.prepare boot state).result = .ok ready →
    site.Locked (site.prepare boot state).state →
    site.Locked (boot.launcher ready.command ready.env (site.prepare boot state).state).2

/-- The environment that a start reads from its files does not ask for the first-start tasks. -/
def Unforced (boot : Boot σ) (state : σ) : Prop :=
  (boot.runTask .update boot.base (boot.before state)).result = .ok () →
    ∀ env, (site.host boot).snapshot (boot.paths site) boot.base (boot.before state) = .ok env →
      env.Unforced

variable {site} {boot : Boot σ} {state : σ}

lemma start_locked (hkeeps : site.KeepsLock boot state) (hstart : site.Locked state) :
    site.Locked (site.start boot state).state := by
  have hprepared := (site.start_outline boot state).keeps
    (P := (site.host boot).Locked site.lockFile)
    (fun visit hvisit => (hkeeps.visits visit hvisit).keeps) (hkeeps.before hstart)
  exact start_keeps hkeeps.launcher hprepared

lemma start_locks (hkeeps : site.KeepsLock boot state)
    (hinit : (site.start boot state).HasInitialized) :
    site.Locked (site.start boot state).state := by
  have hprepared := (site.start_outline boot state).locks hkeeps.visits hinit
  exact start_keeps hkeeps.launcher hprepared

lemma start_isSettled (hkeeps : site.KeepsLock boot state) (hunforced : site.Unforced boot state)
    (hstart : site.Locked state) : (site.start boot state).IsSettled := by
  have houtline := site.start_outline boot state
  obtain ⟨hbegins, hcomplete⟩ :=
    houtline.tasks_of_locked hkeeps.visits (hkeeps.before hstart) hunforced
  have huses := startsUse_snapshot (site.host boot) boot.launcher (boot.paths site) boot.base
    boot.passthrough (boot.before state)
  refine ⟨hbegins, ?_⟩
  intro mode hmode hok
  obtain ⟨env, hsnapshot, rfl⟩ := huses.start.mode_eq hmode
  exact hcomplete env hsnapshot hok

lemma history_isSettled {boots : List (Boot σ)}
    (hkeeps : ∀ leg ∈ site.legs boots state, site.KeepsLock leg.1 leg.2)
    (hunforced : ∀ leg ∈ site.legs boots state, site.Unforced leg.1 leg.2)
    (hstart : site.Locked state) : ∀ ended ∈ site.history boots state, ended.IsSettled := by
  induction boots generalizing state with
  | nil => simp [history]
  | cons boot rest ih =>
    rw [legs, List.forall_mem_cons] at hkeeps hunforced
    rw [history, List.forall_mem_cons]
    have hnext := start_locked hkeeps.1 hstart
    exact ⟨start_isSettled hkeeps.1 hunforced.1 hstart, ih hkeeps.2 hunforced.2 hnext⟩

/-- What follows a start in which `initialized` has succeeded does not initialize again. -/
structure NeverRepeats (ends : List (Ended σ Unit)) : Prop where
  skips : ∀ (before later : List (Ended σ Unit)) (first : Ended σ Unit),
    ends = before ++ first :: later → first.HasInitialized →
    ∀ ended ∈ later, ∀ task ∈ [.updateGeoIp, .fixtures, .monitoringFixture, .initialized],
      task ∉ ended.tasks
  /-- Where no task fails, only the mode decides which tasks are called. -/
  steady : ∀ (before later : List (Ended σ Unit)) (first : Ended σ Unit),
    ends = before ++ first :: later → first.HasInitialized →
    ∀ a ∈ later, ∀ b ∈ later, ∀ mode : Mode, a.Selects mode → b.Selects mode →
      a.NoTaskFails → b.NoTaskFails → a.tasks = b.tasks

lemma history_after {boots : List (Boot σ)} {before later : List (Ended σ Unit)}
    {first : Ended σ Unit} (hkeeps : ∀ leg ∈ site.legs boots state, site.KeepsLock leg.1 leg.2)
    (hunforced : ∀ leg ∈ site.legs boots state, site.Unforced leg.1 leg.2)
    (hsplit : site.history boots state = before ++ first :: later) (hinit : first.HasInitialized) :
    ∀ ended ∈ later, ended.IsSettled := by
  induction boots generalizing state before with
  | nil => simp [history] at hsplit
  | cons boot rest ih =>
    rw [legs, List.forall_mem_cons] at hkeeps hunforced
    rw [history] at hsplit
    cases before with
    | nil =>
      obtain ⟨rfl, rfl⟩ := List.cons.inj hsplit
      exact history_isSettled hkeeps.2 hunforced.2 (start_locks hkeeps.1 hinit)
    | cons other before =>
      obtain ⟨-, hrest⟩ := List.cons.inj hsplit
      exact ih hkeeps.2 hunforced.2 hrest

/-- Where the lock file is kept, a site is not initialized again, whatever happens to its starts. -/
theorem history_neverRepeats (site : Site σ) (boots : List (Boot σ)) (state : σ)
    (hkeeps : ∀ leg ∈ site.legs boots state, site.KeepsLock leg.1 leg.2)
    (hunforced : ∀ leg ∈ site.legs boots state, site.Unforced leg.1 leg.2) :
    NeverRepeats (site.history boots state) := by
  constructor
  · intro before later first hsplit hinit ended hended task htask hcalled
    obtain ⟨mode, hbegins⟩ := (history_after hkeeps hunforced hsplit hinit ended hended).isPrefix
    exact mode.firstStart_not_mem_settledTasks task htask (hbegins.subset hcalled)
  · intro before later first hsplit hinit a ha b hb mode hmodeA hmodeB hokA hokB
    have hsettledA := history_after hkeeps hunforced hsplit hinit a ha
    have hsettledB := history_after hkeeps hunforced hsplit hinit b hb
    rw [hsettledA.complete mode hmodeA hokA, hsettledB.complete mode hmodeB hokB]

/-- A site of which only the lock file is seen. -/
def lockSite : Site Bool where
  files locked :=
    if locked then FileTree.base.install "geonode_init.lock" (.file .nothing false) else .base
  lockFile := "geonode_init.lock"

def lockBase : Environment :=
  (Environment.empty.set "DOCKER_ENV" "production").set "UWSGI_CMD" "uwsgi"

def lockStart (failing : Option Task) : Boot Bool where
  before := id
  process := ⟨[]⟩
  runTask task _ locked :=
    if failing = some task then ⟨locked, [], .error ⟨task, .exited 1⟩⟩
    else ⟨locked || task = .initialized, [], .ok ()⟩
  launcher _ _ locked := (.ok (), locked)
  profile := ".bashrc"
  overrideFile := ".override_env"
  base := lockBase
  passthrough := []

lemma lockSite_locked_iff (locked : Bool) : lockSite.Locked locked ↔ locked = true := by
  have hpresent : lockSite.Locked true := by cbv
  have hmissing : ¬lockSite.Locked false := by cbv; decide
  cases locked with
  | true => simp [hpresent]
  | false => simp [hmissing]

lemma lockStart_keepsLock (failing : Option Task) (locked : Bool) :
    lockSite.KeepsLock (lockStart failing) locked := by
  constructor
  · exact fun h => h
  · intro visit hvisit
    have hrun : (lockSite.host (lockStart failing)).visit visit =
        if failing = some visit.task then ⟨visit.state, [], .error ⟨visit.task, .exited 1⟩⟩
        else ⟨visit.state || visit.task = .initialized, [], .ok ()⟩ := rfl
    constructor
    · intro h
      have hlocked : visit.state = true := (lockSite_locked_iff visit.state).mp h
      have hnext : ((lockSite.host (lockStart failing)).visit visit).state = true := by
        rw [hrun, hlocked]
        split
        · rfl
        · rfl
      exact (lockSite_locked_iff _).mpr hnext
    · intro htask hok
      have hnext : ((lockSite.host (lockStart failing)).visit visit).state = true := by
        rw [hrun] at hok ⊢
        split at hok
        · contradiction
        · rename_i hother
          rw [if_neg hother, htask]
          simp
      exact (lockSite_locked_iff _).mpr hnext
  · exact fun _ _ h => h

lemma lockStart_unforced (failing : Option Task) (locked : Bool) :
    lockSite.Unforced (lockStart failing) locked := by
  have hprofile : (lockSite.files locked).readText (lockStart failing).profile =
      .error .notFound := by
    cases locked <;> cbv
  have hoverride : (lockSite.files locked).readText (lockStart failing).overrideFile =
      .error .notFound := by
    cases locked <;> cbv
  have hupdate : ((lockStart failing).runTask .update lockBase locked).state =
      locked := by
    rw [lockStart]
    dsimp only
    split
    · rfl
    · simp
  intro hok env henv
  have hsnapshot : (lockSite.host (lockStart failing)).snapshot ((lockStart failing).paths lockSite)
      lockBase locked = .ok lockBase := by
    rw [Host.snapshot]
    dsimp only [host, Boot.paths]
    rw [hupdate, lockBase.overlayFile_of_missing _ hprofile]
    dsimp only
    rw [lockBase.overlayFile_of_missing _ hoverride]
  obtain rfl : lockBase = env := Except.ok.inj (hsnapshot.symm.trans henv)
  constructor
  · rw [Environment.IsTrue]
    decide
  · rw [Environment.IsTrue]
    decide

/-- A start that initializes the site, one that fails in `statics` and one that does not: the
first-start tasks run in the first alone. -/
theorem failed_statics_neverRepeats :
    (lockSite.start (lockStart none) false).HasInitialized ∧
      NeverRepeats (lockSite.history [lockStart none, lockStart (some .statics), lockStart none]
        false) := by
  have hinit : (lockSite.start (lockStart none) false).HasInitialized := by
    have houtcomes : (lockSite.start (lockStart none) false).taskCalls.map TaskCall.outcome =
        Task.all.map fun task => (task, .ok ()) := by
      cbv
    rw [Ended.HasInitialized, houtcomes]
    exact List.mem_map_of_mem (by decide)
  refine ⟨hinit, ?_⟩
  refine history_neverRepeats lockSite [lockStart none, lockStart (some .statics), lockStart none]
    false ?_ ?_
  · intro leg hleg
    simp only [legs, List.mem_cons, List.not_mem_nil, or_false] at hleg
    rcases hleg with rfl | rfl | rfl
    · exact lockStart_keepsLock none _
    · exact lockStart_keepsLock (some .statics) _
    · exact lockStart_keepsLock none _
  · intro leg hleg
    simp only [legs, List.mem_cons, List.not_mem_nil, or_false] at hleg
    rcases hleg with rfl | rfl | rfl
    · exact lockStart_unforced none _
    · exact lockStart_unforced (some .statics) _
    · exact lockStart_unforced none _

end Site

end SiteBoot
