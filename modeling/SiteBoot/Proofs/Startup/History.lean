import SiteBoot.Proofs.Startup.Visits
import SiteBoot.Files.Change
import SiteBoot.Startup.Rehearsal
/-!
# The history of a site

A site is started again and again, and a start may fail at any of its tasks. The lock file tells
later starts that the site is initialized. Where only `initialized` makes it, it is there only if
some start has been through all first-start tasks, so they are never skipped.
-/

namespace SiteBoot

variable {σ : Type}

/-- The task of a call and what became of it. -/
def TaskCall.outcome (call : TaskCall) : Task × Except TaskFailure Unit := (call.task, call.result)

namespace Host

variable {host : Host σ} {env : Environment}

lemma follow_outcomes {tasks : List Task} {state next : σ} {calls : List TaskCall}
    (h : host.follow env tasks state = ⟨calls, next, .ok ()⟩) :
    calls.map TaskCall.outcome = tasks.map fun task => (task, .ok ()) := by
  have hok : (host.follow env tasks state).result = .ok () := by rw [h]
  have htasks := host.follow_tasks_of_ok env hok
  have hresults := follow_succeeds h
  rw [h] at htasks
  rw [← htasks, List.map_map]
  apply List.map_congr_left
  intro call hcall
  rw [TaskCall.outcome, hresults call hcall]
  rfl

lemma follow_past {first rest : List Task} {state : σ} {task : Task}
    (hcalled : task ∈ (host.follow env (first ++ rest) state).calls.map TaskCall.task)
    (hnot : task ∉ first) :
    ∃ calls next, host.follow env first state = ⟨calls, next, .ok ()⟩ ∧
      (host.follow env (first ++ rest) state).calls =
        calls ++ (host.follow env rest next).calls := by
  rcases h : host.follow env first state with ⟨calls, next, failure | done⟩
  · rw [host.follow_append_of_error env h] at hcalled
    have hpre := host.follow_tasks_isPrefix env first state
    rw [h] at hpre
    exact absurd (hpre.subset hcalled) hnot
  · exact ⟨calls, next, rfl, by rw [host.follow_append_of_ok env h]⟩

lemma follow_cons_calls (env : Environment) (task : Task) (rest : List Task) (state : σ) :
    ∃ call more, (host.follow env (task :: rest) state).calls = call :: more ∧
      call.task = task := by
  rw [follow]
  cases (host.runTask task env state).result with
  | ok done => exact ⟨_, _, rfl, rfl⟩
  | error failure => exact ⟨_, _, rfl, rfl⟩

def Unlocked (host : Host σ) (lockFile : RawText) (state : σ) : Prop :=
  (host.files state).has lockFile = false

/-- A call does not make the lock file unless it is one of `initialized`. -/
def OnlyInitializedLocks (host : Host σ) (lockFile : RawText) (visit : Visit σ) : Prop :=
  visit.task ≠ .initialized → host.Unlocked lockFile visit.state →
    host.Unlocked lockFile (host.visit visit).state

end Host

section Start

variable {host : Host σ} {paths : StartPaths} {base : Environment} {passthrough : List String}
  {state next : σ} {calls : List TaskCall} {result : Except StartError Ready}

lemma Outline.unlocked (h : Outline host paths base passthrough state calls next result)
    (hlock : ∀ visit ∈ host.startVisits paths base state,
      host.OnlyInitializedLocks paths.lockFile visit)
    (hnot : .initialized ∉ calls.map TaskCall.task)
    (hstart : host.Unlocked paths.lockFile state) : host.Unlocked paths.lockFile next := by
  refine h.keeps (fun visit hvisit => hlock visit hvisit ?_) hstart
  intro htask
  rw [← h.map_startVisits, List.map_map] at hnot
  exact hnot (htask ▸ List.mem_map_of_mem (f := TaskCall.task ∘ host.recorded) hvisit)

def tasksThroughPrepare : List Task := [.update, .waitForDatabases, .migrations, .prepare]

/-- A call that a start makes only once `prepare` has succeeded, or that call itself. -/
def TaskCall.IsPastPrepare (call : TaskCall) : Prop :=
  call.outcome = (.prepare, .ok ()) ∨ call.task ∉ tasksThroughPrepare

lemma TaskCall.IsPastPrepare.not_mem {call : TaskCall} (h : call.IsPastPrepare) :
    call.task ∉ Task.beforeEnvironment ++ Task.afterEnvironment := by
  rcases h with houtcome | htask
  · rw [show call.task = .prepare from congrArg Prod.fst houtcome]
    decide
  · intro hmem
    have hsub : Task.beforeEnvironment ++ Task.afterEnvironment ⊆ tasksThroughPrepare := by decide
    exact htask (hsub hmem)

/-- The calls of a start that has got past `prepare`: the first four, which have succeeded, and
those that the lock file asks for. -/
def Host.GoesPastPrepare (host : Host σ) (paths : StartPaths) (base : Environment) (state : σ)
    (calls : List TaskCall) : Prop :=
  ∃ env earlier prepared,
    calls = earlier ++
      (host.follow env (host.tasksAfterPrepare paths env prepared) prepared).calls ∧
    earlier.map TaskCall.outcome = tasksThroughPrepare.map (fun task => (task, .ok ())) ∧
    ((∀ visit ∈ host.startVisits paths base state,
        host.OnlyInitializedLocks paths.lockFile visit) →
      host.Unlocked paths.lockFile state → host.Unlocked paths.lockFile prepared)

lemma mem_of_mem_common {env : Environment} {s s₁ s₂ s₃ : σ} {first second : List TaskCall}
    {done done' : Except TaskFailure Unit}
    (update : host.follow base Task.beforeEnvironment s = ⟨first, s₁, done⟩)
    (common : host.follow env Task.afterEnvironment s₂ = ⟨second, s₃, done'⟩) :
    ∀ call ∈ first ++ second, call.task ∈ Task.beforeEnvironment ++ Task.afterEnvironment := by
  rw [List.forall_mem_append]
  constructor
  · intro call hcall
    exact List.mem_append_left _ (Host.mem_of_mem_follow update call hcall)
  · intro call hcall
    exact List.mem_append_right _ (Host.mem_of_mem_follow common call hcall)

lemma prepared_unlocked {env : Environment} {s₁ s₂ s₃ : σ} {first second third : List TaskCall}
    {events : List Event}
    (update : host.follow base Task.beforeEnvironment state = ⟨first, s₁, .ok ()⟩)
    (files : host.readEnvironment paths base s₁ = (.ok env, events))
    (common : host.follow env Task.afterEnvironment s₁ = ⟨second, s₂, .ok ()⟩)
    (mode : Mode.ofEnvironment env = .production)
    (prepare : host.follow env [.prepare] s₂ = ⟨third, s₃, .ok ()⟩)
    (hlock : ∀ visit ∈ host.startVisits paths base state,
      host.OnlyInitializedLocks paths.lockFile visit)
    (hstart : host.Unlocked paths.lockFile state) : host.Unlocked paths.lockFile s₃ := by
  have hprepared : (host.follow env (Task.afterEnvironment ++ [.prepare]) s₁).state = s₃ := by
    rw [host.follow_append_of_ok _ common, prepare]
  rw [Host.startVisits_of_follow update files, List.forall_mem_cons] at hlock
  obtain ⟨-, rfl, -⟩ := Host.follow_singleton_inv update
  have hupdate : Task.update ≠ .initialized := by decide
  have hupdated := hlock.1 hupdate hstart
  rw [← hprepared]
  refine Host.follow_keeps (fun visit hvisit => ?_) hupdated
  refine hlock.2 visit (host.visits_through_prepare_subset paths mode _ hvisit) ?_
  intro htask
  have hmem := Host.task_mem_of_mem_visits hvisit
  rw [htask] at hmem
  exact absurd hmem (by decide)

lemma past_prepare_of_ok {env : Environment} {s₁ s₂ s₃ s₄ : σ} {events : List Event}
    {first second third fourth : List TaskCall} {last : Except TaskFailure Unit}
    (update : host.follow base Task.beforeEnvironment state = ⟨first, s₁, .ok ()⟩)
    (files : host.readEnvironment paths base s₁ = (.ok env, events))
    (common : host.follow env Task.afterEnvironment s₁ = ⟨second, s₂, .ok ()⟩)
    (mode : Mode.ofEnvironment env = .production)
    (prepare : host.follow env [.prepare] s₂ = ⟨third, s₃, .ok ()⟩)
    (rest : host.follow env (host.tasksAfterPrepare paths env s₃) s₃ = ⟨fourth, s₄, last⟩) :
    host.GoesPastPrepare paths base state (first ++ (second ++ (third ++ fourth))) := by
  refine ⟨env, first ++ (second ++ third), s₃, ?_, ?_, ?_⟩
  · rw [rest, List.append_assoc, List.append_assoc]
  · rw [List.map_append, List.map_append, Host.follow_outcomes update, Host.follow_outcomes common,
      Host.follow_outcomes prepare]
    rfl
  · exact prepared_unlocked update files common mode prepare

/-- A start that has got past `prepare` goes on with the tasks that the lock file asks for. -/
lemma Course.past_prepare {progress : Progress σ}
    (h : Course host paths base passthrough state progress result) {call : TaskCall}
    (hcall : call ∈ progress.steps.filterMap Step.call?) (hpast : call.IsPastPrepare) :
    host.GoesPastPrepare paths base state (progress.steps.filterMap Step.call?) := by
  cases h with
  | updateFails update =>
    rw [filterMap_call?_steps] at hcall
    exact absurd (List.mem_append_left _ (Host.mem_of_mem_follow update call hcall)) hpast.not_mem
  | filesUnreadable update files =>
    rw [List.filterMap_append, filterMap_call?_steps, filterMap_call?_reports,
      List.append_nil] at hcall
    exact absurd (List.mem_append_left _ (Host.mem_of_mem_follow update call hcall)) hpast.not_mem
  | commonTaskFails update files common =>
    rw [List.filterMap_append, filterMap_call?_openingSteps, filterMap_call?_steps] at hcall
    exact absurd (mem_of_mem_common update common call hcall) hpast.not_mem
  | unprepared update files common mode =>
    simp only [List.filterMap_append, filterMap_call?_openingSteps, filterMap_call?_steps,
      filterMap_call?_logged_cons, List.filterMap_nil, List.append_nil] at hcall
    exact absurd (mem_of_mem_common update common call hcall) hpast.not_mem
  | prepareFails update files common mode prepare =>
    simp only [List.filterMap_append, filterMap_call?_openingSteps, filterMap_call?_steps,
      filterMap_call?_logged_cons, List.filterMap_nil, List.append_nil] at hcall
    obtain ⟨⟨last, rfl, htask, -, hresult⟩, -, -⟩ := Host.follow_singleton_inv prepare
    rcases List.mem_append.mp hcall with hcommon | hlast
    · exact absurd (mem_of_mem_common update common call hcommon) hpast.not_mem
    · obtain rfl := List.mem_singleton.mp hlast
      rcases hpast with houtcome | hnot
      · have hok : call.result = .ok () := congrArg Prod.snd houtcome
        rw [hresult] at hok
        contradiction
      · rw [htask] at hnot
        exact absurd (by decide) hnot
  | laterTaskFails update files common mode prepare rest =>
    rw [filterMap_call?_productionSteps]
    exact past_prepare_of_ok update files common mode prepare rest
  | prepared update files common mode prepare rest =>
    rw [filterMap_call?_productionSteps]
    exact past_prepare_of_ok update files common mode prepare rest

/-- The first-start tasks have been called in their order, and those before `initialized` have
succeeded. -/
def Initializes (calls : List TaskCall) : Prop :=
  ∃ before result after, calls.map TaskCall.outcome = before ++
    [(.updateGeoIp, .ok ()), (.fixtures, .ok ()), (.monitoringFixture, .ok ()),
      (.initialized, result)] ++ after

lemma Host.tasksAfterPrepare_of_unlocked {prepared : σ}
    (h : host.Unlocked paths.lockFile prepared) (env : Environment) :
    host.tasksAfterPrepare paths env prepared = Task.firstStart ++ Task.productionSuffix := by
  rw [Unlocked] at h
  simp [tasksAfterPrepare, Environment.isFirstStart, h]

lemma tasks_eq_of_outcomes {tasks : List Task}
    (h : calls.map TaskCall.outcome = tasks.map fun task => (task, .ok ())) :
    calls.map TaskCall.task = tasks := by
  have hfst := congrArg (List.map Prod.fst) h
  rw [List.map_map, List.map_map] at hfst
  exact hfst.trans (List.map_id tasks)

lemma Host.GoesPastPrepare.initializes (h : host.GoesPastPrepare paths base state calls)
    (hcalled : .initialized ∈ calls.map TaskCall.task) : Initializes calls := by
  obtain ⟨env, earlier, prepared, rfl, hearlier, -⟩ := h
  rw [List.map_append, tasks_eq_of_outcomes hearlier, List.mem_append] at hcalled
  have hlater := hcalled.resolve_left (by decide)
  rw [tasksAfterPrepare] at hlater ⊢
  by_cases hfirst : env.isFirstStart (host.files prepared) paths.lockFile
  · rw [if_pos hfirst] at hlater ⊢
    have hsplit : Task.firstStart ++ Task.productionSuffix =
        [.updateGeoIp, .fixtures, .monitoringFixture] ++
          .initialized :: Task.productionSuffix := rfl
    rw [hsplit] at hlater ⊢
    obtain ⟨block, next, hblock, hcalls⟩ := follow_past hlater (by decide)
    obtain ⟨last, more, hlast, htask⟩ :=
      host.follow_cons_calls env .initialized Task.productionSuffix next
    refine ⟨earlier.map TaskCall.outcome, last.result, more.map TaskCall.outcome, ?_⟩
    have houtcome : last.outcome = (.initialized, last.result) := by rw [TaskCall.outcome, htask]
    rw [hcalls, hlast, List.map_append, List.map_append, follow_outcomes hblock, List.append_assoc,
      ← houtcome]
    rfl
  · rw [if_neg hfirst] at hlater
    have hmem := (host.follow_tasks_isPrefix env _ prepared).subset hlater
    contradiction

lemma Host.GoesPastPrepare.initialized_of_statics (h : host.GoesPastPrepare paths base state calls)
    (hlock : ∀ visit ∈ host.startVisits paths base state,
      host.OnlyInitializedLocks paths.lockFile visit)
    (hstart : host.Unlocked paths.lockFile state)
    (hcalled : .statics ∈ calls.map TaskCall.task) : .initialized ∈ calls.map TaskCall.task := by
  obtain ⟨env, earlier, prepared, rfl, hearlier, hprepared⟩ := h
  rw [List.map_append, tasks_eq_of_outcomes hearlier, List.mem_append] at hcalled ⊢
  have hlater := hcalled.resolve_left (by decide)
  right
  rw [tasksAfterPrepare_of_unlocked (hprepared hlock hstart)] at hlater ⊢
  obtain ⟨block, next, hblock, hcalls⟩ := follow_past hlater (by decide)
  rw [hcalls, List.map_append, tasks_eq_of_outcomes (follow_outcomes hblock)]
  exact List.mem_append_left _ (by decide)

lemma Host.GoesPastPrepare.tasks_of_unlocked (h : host.GoesPastPrepare paths base state calls)
    (hlock : ∀ visit ∈ host.startVisits paths base state,
      host.OnlyInitializedLocks paths.lockFile visit)
    (hstart : host.Unlocked paths.lockFile state) :
    ∃ more, calls.map TaskCall.task = tasksThroughPrepare ++ .updateGeoIp :: more ∧
      .updateGeoIp :: more <+: Task.firstStart ++ Task.productionSuffix := by
  obtain ⟨env, earlier, prepared, rfl, hearlier, hprepared⟩ := h
  rw [List.map_append, tasks_eq_of_outcomes hearlier,
    tasksAfterPrepare_of_unlocked (hprepared hlock hstart)]
  have hpre := host.follow_tasks_isPrefix env (Task.firstStart ++ Task.productionSuffix) prepared
  obtain ⟨first, more, hcalls, htask⟩ := host.follow_cons_calls env .updateGeoIp
    ([.fixtures, .monitoringFixture, .initialized] ++ Task.productionSuffix) prepared
  have hcalls : (host.follow env (Task.firstStart ++ Task.productionSuffix) prepared).calls =
      first :: more := hcalls
  rw [hcalls, List.map_cons, htask] at hpre ⊢
  exact ⟨more.map TaskCall.task, rfl, hpre⟩

lemma Handover.keeps {launcher : Launcher σ} {progress : Progress σ} {ended : Ended σ Unit}
    {P : σ → Prop} (h : Handover launcher progress result ended)
    (hlaunch : ∀ ready : Ready, result = .ok ready → P progress.state →
      P (launcher ready.command ready.env progress.state).2)
    (hprogress : P progress.state) : P ended.state := by
  cases h with
  | aborted error => exact hprogress
  | launched ready launch =>
    have hnext := hlaunch ready rfl hprogress
    rw [launch] at hnext
    exact hnext
  | launchFails ready launch =>
    have hnext := hlaunch ready rfl hprogress
    rw [launch] at hnext
    exact hnext

end Start

/-- What stays of a site from one start to the next: how a state is seen as files, and the path of
the lock file. -/
structure Site (σ : Type) where
  files : σ → FileTree
  lockFile : RawText

/-- One start of a site, with all in which starts may differ. -/
structure Boot (σ : Type) where
  before : σ → σ
  process : ProcessEnvironment
  runTask : Task → Environment → σ → TaskRun σ
  launcher : Launcher σ
  profile : RawText
  overrideFile : RawText
  base : Environment
  passthrough : List String

def Boot.paths (boot : Boot σ) (site : Site σ) : StartPaths :=
  ⟨site.lockFile, boot.profile, boot.overrideFile⟩

namespace Site

variable (site : Site σ)

def host (boot : Boot σ) : Host σ := ⟨site.files, boot.process, boot.runTask⟩

def start (boot : Boot σ) (state : σ) : Ended σ Unit :=
  startSite (site.host boot) boot.launcher (boot.paths site) boot.base boot.passthrough
    (boot.before state)

/-- The starts of a site one after the other, each from where the one before has left it. -/
def history : List (Boot σ) → σ → List (Ended σ Unit)
  | [], _ => []
  | boot :: rest, state => site.start boot state :: history rest (site.start boot state).state

/-- The starts of a site, each with the state that it begins from. -/
def legs : List (Boot σ) → σ → List (Boot σ × σ)
  | [], _ => []
  | boot :: rest, state => (boot, state) :: legs rest (site.start boot state).state

def visits (boot : Boot σ) (state : σ) : List (Visit σ) :=
  (site.host boot).startVisits (boot.paths site) boot.base (boot.before state)

def prepare (boot : Boot σ) (state : σ) : Ended σ Ready :=
  prepareSite (site.host boot) (boot.paths site) boot.base boot.passthrough (boot.before state)

def Unlocked (state : σ) : Prop := (site.files state).has site.lockFile = false

/-- In a start and before it, nothing but the task `initialized` makes the lock file. -/
structure OnlyInitializedLocks (boot : Boot σ) (state : σ) : Prop where
  before : site.Unlocked state → site.Unlocked (boot.before state)
  visits : ∀ visit ∈ site.visits boot state,
    (site.host boot).OnlyInitializedLocks site.lockFile visit
  launcher : ∀ ready : Ready, (site.prepare boot state).result = .ok ready →
    site.Unlocked (site.prepare boot state).state →
    site.Unlocked (boot.launcher ready.command ready.env (site.prepare boot state).state).2

variable {site} {boot : Boot σ} {state : σ}

lemma start_outline (site : Site σ) (boot : Boot σ) (state : σ) :
    Outline (site.host boot) (boot.paths site) boot.base boot.passthrough (boot.before state)
      (site.start boot state).taskCalls (site.prepare boot state).state
      (site.prepare boot state).result := by
  obtain ⟨progress, result, hcourse, hprepare, hhandover⟩ := startSite_course (site.host boot)
    boot.launcher (boot.paths site) boot.base boot.passthrough (boot.before state)
  have houtline := hcourse.outline
  rw [← hhandover.taskCalls] at houtline
  rw [prepare, hprepare]
  exact houtline

lemma start_keeps {P : σ → Prop}
    (hlauncher : ∀ ready : Ready, (site.prepare boot state).result = .ok ready →
      P (site.prepare boot state).state →
      P (boot.launcher ready.command ready.env (site.prepare boot state).state).2)
    (hprepared : P (site.prepare boot state).state) : P (site.start boot state).state := by
  obtain ⟨progress, result, -, hprepare, hhandover⟩ := startSite_course (site.host boot)
    boot.launcher (boot.paths site) boot.base boot.passthrough (boot.before state)
  have hprepare : site.prepare boot state = ⟨result, progress.steps, progress.state⟩ := hprepare
  rw [hprepare] at hprepared hlauncher
  exact hhandover.keeps hlauncher hprepared

lemma start_unlocked (hlock : site.OnlyInitializedLocks boot state) (hstart : site.Unlocked state)
    (hnot : .initialized ∉ (site.start boot state).tasks) :
    site.Unlocked (site.start boot state).state := by
  have hprepared := (site.start_outline boot state).unlocked hlock.visits hnot (hlock.before hstart)
  exact start_keeps hlock.launcher hprepared

lemma goesPastPrepare {call : TaskCall} (hcall : call ∈ (site.start boot state).taskCalls)
    (hpast : call.IsPastPrepare) :
    (site.host boot).GoesPastPrepare (boot.paths site) boot.base (boot.before state)
      (site.start boot state).taskCalls := by
  obtain ⟨progress, result, hcourse, -, hhandover⟩ := startSite_course (site.host boot)
    boot.launcher (boot.paths site) boot.base boot.passthrough (boot.before state)
  have hcalls := hhandover.taskCalls
  change (site.start boot state).taskCalls = _ at hcalls
  rw [hcalls] at hcall ⊢
  exact hcourse.past_prepare hcall hpast

lemma initializes_of_mem (hcalled : .initialized ∈ (site.start boot state).tasks) :
    Initializes (site.start boot state).taskCalls := by
  obtain ⟨call, hcall, htask⟩ := List.mem_map.mp hcalled
  have hpast := goesPastPrepare hcall (.inr (by rw [htask]; decide))
  exact hpast.initializes hcalled

lemma initialized_of_statics (hlock : site.OnlyInitializedLocks boot state)
    (hstart : site.Unlocked state) (hcalled : .statics ∈ (site.start boot state).tasks) :
    .initialized ∈ (site.start boot state).tasks := by
  obtain ⟨call, hcall, htask⟩ := List.mem_map.mp hcalled
  have hpast := goesPastPrepare hcall (.inr (by rw [htask]; decide))
  exact hpast.initialized_of_statics hlock.visits (hlock.before hstart) hcalled

/-- A start that gets past `prepare` goes on with the first-start tasks. -/
def BeginsBlock (ended : Ended σ Unit) : Prop :=
  (∃ call ∈ ended.taskCalls, call.outcome = (.prepare, .ok ())) →
    ∃ more, ended.tasks = tasksThroughPrepare ++ .updateGeoIp :: more ∧
      .updateGeoIp :: more <+: Task.firstStart ++ Task.productionSuffix

/-- Starts one after the other never skip the initialization. -/
structure NeverSkips (ends : List (Ended σ Unit)) : Prop where
  /-- A start that calls `statics` is one that initializes the site, or comes after one. -/
  statics : ∀ (k : Nat) (ended : Ended σ Unit), ends[k]? = some ended →
    .statics ∈ ended.tasks →
    ∃ j ≤ k, ∃ earlier : Ended σ Unit, ends[j]? = some earlier ∧ Initializes earlier.taskCalls
  /-- As long as `initialized` has not been called, production begins with the first-start tasks. -/
  restarts : ∀ (k : Nat) (ended : Ended σ Unit), ends[k]? = some ended →
    (∀ j < k, ∀ earlier : Ended σ Unit, ends[j]? = some earlier →
      .initialized ∉ earlier.tasks) →
    BeginsBlock ended

lemma beginsBlock (hlock : site.OnlyInitializedLocks boot state) (hstart : site.Unlocked state) :
    BeginsBlock (site.start boot state) := by
  rintro ⟨call, hcall, houtcome⟩
  exact (goesPastPrepare hcall (.inl houtcome)).tasks_of_unlocked hlock.visits
    (hlock.before hstart)

lemma NeverSkips.cons_of_initialized {first : Ended σ Unit} (rest : List (Ended σ Unit))
    (hcalled : .initialized ∈ first.tasks) (hinit : Initializes first.taskCalls)
    (hblock : BeginsBlock first) : NeverSkips (first :: rest) := by
  constructor
  · intro k ended hended hstatics
    exact ⟨0, Nat.zero_le k, first, rfl, hinit⟩
  · intro k ended hended hnone
    cases k with
    | zero =>
      obtain rfl := Option.some.inj hended
      exact hblock
    | succ k => exact absurd hcalled (hnone 0 (Nat.succ_pos k) first rfl)

lemma NeverSkips.cons {first : Ended σ Unit} {rest : List (Ended σ Unit)} (h : NeverSkips rest)
    (hnot : .statics ∉ first.tasks) (hblock : BeginsBlock first) : NeverSkips (first :: rest) := by
  constructor
  · intro k ended hended hstatics
    cases k with
    | zero =>
      obtain rfl := Option.some.inj hended
      exact absurd hstatics hnot
    | succ k =>
      obtain ⟨j, hj, earlier, hearlier, hinit⟩ := h.statics k ended hended hstatics
      exact ⟨j + 1, Nat.succ_le_succ hj, earlier, hearlier, hinit⟩
  · intro k ended hended hnone
    cases k with
    | zero =>
      obtain rfl := Option.some.inj hended
      exact hblock
    | succ k =>
      exact h.restarts k ended hended fun j hj earlier hearlier =>
        hnone (j + 1) (Nat.succ_lt_succ hj) earlier hearlier

/-- Where only `initialized` makes the lock file, no start of a site skips the initialization. -/
theorem history_neverSkips (site : Site σ) (boots : List (Boot σ)) (state : σ)
    (hstart : site.Unlocked state)
    (hlock : ∀ leg ∈ site.legs boots state, site.OnlyInitializedLocks leg.1 leg.2) :
    NeverSkips (site.history boots state) := by
  induction boots generalizing state with
  | nil =>
    constructor
    · intro k ended hended
      simp [history] at hended
    · intro k ended hended
      simp [history] at hended
  | cons boot rest ih =>
    rw [legs, List.forall_mem_cons] at hlock
    obtain ⟨hboot, hrest⟩ := hlock
    have hblock := beginsBlock hboot hstart
    rw [history]
    by_cases hcalled : .initialized ∈ (site.start boot state).tasks
    · exact .cons_of_initialized _ hcalled (initializes_of_mem hcalled) hblock
    · -- the lock file is still missing, so the next start is as good as the first
      have hnext := start_unlocked hboot hstart hcalled
      refine (ih _ hnext hrest).cons ?_ hblock
      intro hstatics
      exact hcalled (initialized_of_statics hboot hstart hstatics)

/-- A start in production, of which only `initialized` changes files and one task may fail. -/
def locking (failing : Option Task) : Boot FileTree where
  before := id
  process := ⟨[]⟩
  runTask task _ files :=
    { state := if task = .initialized then files.install "geonode_init.lock" (.file .nothing false)
        else files
      events := []
      result := if failing = some task then .error ⟨task, .exited 1⟩ else .ok () }
  launcher := rehearsedLauncher none
  profile := ".bashrc"
  overrideFile := ".override_env"
  base := (Environment.empty.set "DOCKER_ENV" "production").set "UWSGI_CMD" "uwsgi"
  passthrough := []

lemma locking_onlyInitializedLocks (failing : Option Task) (files : FileTree) :
    OnlyInitializedLocks ⟨id, "geonode_init.lock"⟩ (locking failing) files := by
  constructor
  · exact fun h => h
  · intro visit hvisit htask h
    have hrun : ((host ⟨id, "geonode_init.lock"⟩ (locking failing)).visit visit).state =
        if visit.task = .initialized then
          visit.state.install "geonode_init.lock" (.file .nothing false)
        else visit.state := rfl
    rw [hrun, if_neg htask]
    exact h
  · exact fun _ _ h => h

theorem failed_fixtures_neverSkips :
    NeverSkips (history ⟨id, "geonode_init.lock"⟩ [locking (some .fixtures), locking none]
      .base) := by
  refine history_neverSkips ⟨id, "geonode_init.lock"⟩ [locking (some .fixtures), locking none] .base
    ?_ ?_
  · have hmissing : FileTree.base.has "geonode_init.lock" = false := by cbv
    exact hmissing
  · intro leg hleg
    rw [legs, legs, legs, List.mem_cons, List.mem_singleton] at hleg
    rcases hleg with rfl | rfl
    · exact locking_onlyInitializedLocks (some .fixtures) _
    · exact locking_onlyInitializedLocks none _

end Site

end SiteBoot
