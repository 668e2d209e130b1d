import SiteBoot.Proofs.Startup.Course
/-!
# The task calls of a start

`Host.follow` keeps to its list of tasks and ends with the first failure. A start is one such
list for `update` and one for everything after the environment files; `Outline` is its course with
the reports left out.
-/

namespace SiteBoot

variable {σ : Type}

namespace Host

variable (host : Host σ) (env : Environment)

lemma follow_append_of_ok {first : List Task} {state next : σ} {calls : List TaskCall}
    (h : host.follow env first state = ⟨calls, next, .ok ()⟩) (rest : List Task) :
    host.follow env (first ++ rest) state =
      ⟨calls ++ (host.follow env rest next).calls, (host.follow env rest next).state,
        (host.follow env rest next).result⟩ := by
  rw [follow_append, h]

lemma follow_append_of_error {first : List Task} {state next : σ} {calls : List TaskCall}
    {failure : TaskFailure} (h : host.follow env first state = ⟨calls, next, .error failure⟩)
    (rest : List Task) :
    host.follow env (first ++ rest) state = ⟨calls, next, .error failure⟩ := by
  rw [follow_append, h]

lemma follow_tasks_isPrefix (tasks : List Task) (state : σ) :
    (host.follow env tasks state).calls.map TaskCall.task <+: tasks := by
  induction tasks generalizing state with
  | nil => exact List.nil_prefix
  | cons task rest ih =>
    rw [follow]
    cases (host.runTask task env state).result with
    | ok done => exact List.prefix_cons_inj task |>.mpr (ih _)
    | error failure => exact List.prefix_cons_inj task |>.mpr List.nil_prefix

lemma mem_of_mem_follow {host : Host σ} {env : Environment} {tasks : List Task} {state next : σ}
    {calls : List TaskCall} {result : Except TaskFailure Unit}
    (h : host.follow env tasks state = ⟨calls, next, result⟩) :
    ∀ call ∈ calls, call.task ∈ tasks := by
  have hpre := host.follow_tasks_isPrefix env tasks state
  rw [h] at hpre
  intro call hcall
  exact hpre.subset (List.mem_map_of_mem hcall)

lemma follow_tasks_of_ok {tasks : List Task} {state : σ}
    (h : (host.follow env tasks state).result = .ok ()) :
    (host.follow env tasks state).calls.map TaskCall.task = tasks := by
  induction tasks generalizing state with
  | nil => rfl
  | cons task rest ih =>
    rw [follow] at h ⊢
    cases hr : (host.runTask task env state).result with
    | ok done =>
      rw [hr] at h
      exact congrArg (task :: ·) (ih h)
    | error failure =>
      rw [hr] at h
      contradiction

lemma follow_env (tasks : List Task) (state : σ) :
    ∀ call ∈ (host.follow env tasks state).calls, call.env = env := by
  induction tasks generalizing state with
  | nil => simp [follow]
  | cons task rest ih =>
    rw [follow]
    cases (host.runTask task env state).result with
    | ok done => exact List.forall_mem_cons.mpr ⟨rfl, ih _⟩
    | error failure => exact List.forall_mem_singleton.mpr rfl

lemma follow_failure {tasks : List Task} {state : σ} {before after : List TaskCall}
    {call : TaskCall} {failure : TaskFailure}
    (h : (host.follow env tasks state).calls = before ++ call :: after)
    (hc : call.result = .error failure) :
    after = [] ∧ (host.follow env tasks state).result = .error failure := by
  induction tasks generalizing state before with
  | nil => simp [follow] at h
  | cons task rest ih =>
    rw [follow] at h ⊢
    cases hr : (host.runTask task env state).result with
    | ok done =>
      rw [hr] at h
      cases before with
      | nil =>
        have hcall := (List.cons.inj h).1
        rw [← hcall] at hc
        contradiction
      | cons first before => exact ih (List.cons.inj h).2
    | error error =>
      rw [hr] at h
      cases before with
      | nil =>
        obtain ⟨hcall, hafter⟩ := List.cons.inj h
        rw [← hcall] at hc
        exact ⟨hafter.symm, hc⟩
      | cons first before =>
        have hnil := (List.cons.inj h).2
        simp at hnil

lemma follow_result_eq_ok_iff (tasks : List Task) (state : σ) :
    (host.follow env tasks state).result = .ok () ↔
      ∀ call ∈ (host.follow env tasks state).calls, call.result = .ok () := by
  induction tasks generalizing state with
  | nil => simp [follow]
  | cons task rest ih =>
    rw [follow]
    cases (host.runTask task env state).result with
    | ok done => simpa using ih _
    | error failure => simp

lemma follow_succeeds {host : Host σ} {env : Environment} {tasks : List Task} {state next : σ}
    {calls : List TaskCall}
    (h : host.follow env tasks state = ⟨calls, next, .ok ()⟩) :
    ∀ call ∈ calls, call.result = .ok () := by
  have hok := (host.follow_result_eq_ok_iff env tasks state).mp (by rw [h])
  rw [h] at hok
  exact hok

lemma follow_fails {host : Host σ} {env : Environment} {tasks : List Task} {state next : σ}
    {calls : List TaskCall} {failure : TaskFailure}
    (h : host.follow env tasks state = ⟨calls, next, .error failure⟩) :
    ∃ call ∈ calls, call.result = .error failure := by
  have hok := (host.follow_result_eq_ok_iff env tasks state).not.mp (by rw [h]; simp)
  push Not at hok
  obtain ⟨call, hcall, hresult⟩ := hok
  rw [h] at hcall
  refine ⟨call, hcall, ?_⟩
  obtain ⟨before, after, hsplit⟩ := List.append_of_mem hcall
  cases hr : call.result with
  | ok done => exact absurd hr hresult
  | error cause =>
    have hlast := host.follow_failure env (by rw [h, hsplit]) hr
    rw [h] at hlast
    exact hlast.2.symm

/-- The tasks of a start after the environment files, which were read in a state. -/
def laterTasks (paths : StartPaths) (state : σ) : List Task :=
  Task.afterEnvironment ++
    match Mode.ofEnvironment env with
    | .production => .prepare :: host.tasksAfterPrepare paths env
        (host.follow env (Task.afterEnvironment ++ [.prepare]) state).state
    | _ => []

lemma laterTasks_of_production {env : Environment} (paths : StartPaths) {state next : σ}
    {calls : List TaskCall}
    (common : host.follow env Task.afterEnvironment state = ⟨calls, next, .ok ()⟩)
    (mode : Mode.ofEnvironment env = .production) :
    host.follow env (host.laterTasks env paths state) state =
      let later := host.follow env ([.prepare] ++
        host.tasksAfterPrepare paths env (host.follow env [.prepare] next).state) next
      ⟨calls ++ later.calls, later.state, later.result⟩ := by
  have hstate : (host.follow env (Task.afterEnvironment ++ [.prepare]) state).state =
      (host.follow env [.prepare] next).state := by
    rw [host.follow_append_of_ok _ common]
  rw [laterTasks, mode]
  dsimp only
  rw [hstate, host.follow_append_of_ok _ common]
  rfl

end Host

lemma Host.follow_singleton (host : Host σ) (env : Environment) (task : Task) (state : σ) :
    host.follow env [task] state =
      let run := host.runTask task env state
      ⟨[⟨task, env, run.events, run.result⟩], run.state, run.result⟩ := by
  rw [follow]
  cases h : (host.runTask task env state).result with
  | ok done => simp [follow, h]
  | error failure => simp [h]

lemma Host.follow_singleton_inv {host : Host σ} {env : Environment} {task : Task} {state next : σ}
    {calls : List TaskCall} {result : Except TaskFailure Unit}
    (h : host.follow env [task] state = ⟨calls, next, result⟩) :
    (∃ call : TaskCall, calls = [call] ∧ call.task = task ∧ call.env = env ∧
      call.result = result) ∧
    next = (host.runTask task env state).state ∧
    result = (host.runTask task env state).result := by
  rw [follow_singleton] at h
  obtain ⟨hcalls, hnext, hresult⟩ := Stretch.mk.inj h
  exact ⟨⟨_, hcalls.symm, rfl, rfl, hresult⟩, hnext.symm, hresult.symm⟩

def Ended.tasks {α : Type} (ended : Ended σ α) : List Task := ended.taskCalls.map TaskCall.task

def Ended.NoTaskFails {α : Type} (ended : Ended σ α) : Prop :=
  ∀ call ∈ ended.taskCalls, call.result = .ok ()

/-- What a start comes to when its tasks have ended. -/
def Environment.outcome (env : Environment) (passthrough : List String) :
    Except TaskFailure Unit → Except StartError Ready
  | .ok () => env.ready passthrough
  | .error failure => .error (.task failure)

@[simp] lemma Environment.outcome_ok (env : Environment) (passthrough : List String) :
    env.outcome passthrough (.ok ()) = env.ready passthrough := rfl

section Outline

variable (host : Host σ) (paths : StartPaths) (base : Environment) (passthrough : List String)
  (state : σ)

/-- The calls of a start from a state on, the state after them, and what it comes to. -/
inductive Outline : List TaskCall → σ → Except StartError Ready → Prop
  | updateFails {first s₁ failure}
      (update : host.follow base Task.beforeEnvironment state = ⟨first, s₁, .error failure⟩) :
      Outline first s₁ (.error (.task failure))
  | filesUnreadable {first s₁ error events}
      (update : host.follow base Task.beforeEnvironment state = ⟨first, s₁, .ok ()⟩)
      (files : host.readEnvironment paths base s₁ = (.error error, events)) :
      Outline first s₁ (.error (.environmentFile error))
  | follows {first s₁ env events later s₂ result}
      (update : host.follow base Task.beforeEnvironment state = ⟨first, s₁, .ok ()⟩)
      (files : host.readEnvironment paths base s₁ = (.ok env, events))
      (rest : host.follow env (host.laterTasks env paths s₁) s₁ = ⟨later, s₂, result⟩) :
      Outline (first ++ later) s₂ (env.outcome passthrough result)

end Outline

lemma Outline.calls_eq {host : Host σ} {paths : StartPaths} {base env : Environment}
    {passthrough : List String} {state next s₁ : σ} {calls first : List TaskCall}
    {result : Except StartError Ready}
    (h : Outline host paths base passthrough state calls next result)
    (update : host.follow base Task.beforeEnvironment state = ⟨first, s₁, .ok ()⟩)
    (files : (host.readEnvironment paths base s₁).1 = .ok env) :
    calls = first ++ (host.follow env (host.laterTasks env paths s₁) s₁).calls := by
  cases h with
  | updateFails update' =>
    rw [update] at update'
    cases update'
  | filesUnreadable update' files' =>
    rw [update] at update'
    cases update'
    rw [files'] at files
    cases files
  | follows update' files' rest =>
    rw [update] at update'
    cases update'
    rw [files'] at files
    cases files
    rw [rest]

lemma filterMap_call?_steps (calls : List TaskCall) :
    (calls.flatMap TaskCall.steps).filterMap Step.call? = calls := by
  induction calls with
  | nil => rfl
  | cons call rest ih =>
    rw [List.flatMap_cons, List.filterMap_append, ih, TaskCall.steps]
    cases call.result with
    | ok done => rfl
    | error failure => rfl

lemma filterMap_call?_reports (events : List Event) :
    (events.map Step.logged).filterMap Step.call? = [] := by
  induction events with
  | nil => rfl
  | cons event events ih => exact ih

lemma filterMap_call?_logged_cons (event : Event) (steps : List Step) :
    (Step.logged event :: steps).filterMap Step.call? = steps.filterMap Step.call? := rfl

lemma filterMap_call?_openingSteps (first : List TaskCall) (events : List Event)
    (env : Environment) : (openingSteps first events env).filterMap Step.call? = first := by
  rw [openingSteps, List.filterMap_append, List.filterMap_append, filterMap_call?_steps,
    filterMap_call?_reports, filterMap_call?_reports, List.append_nil, List.append_nil]

lemma filterMap_call?_productionSteps (first : List TaskCall) (events : List Event)
    (env : Environment) (second third : List TaskCall) (lockReport : Event)
    (fourth : List TaskCall) :
    (productionSteps first events env second third lockReport fourth).filterMap Step.call? =
      first ++ (second ++ (third ++ fourth)) := by
  simp only [productionSteps, List.filterMap_append, filterMap_call?_openingSteps,
    filterMap_call?_steps, filterMap_call?_logged_cons, List.filterMap_nil, List.nil_append,
    List.append_assoc]

/-- The reports left out of a course leave the calls of one list of tasks. -/
theorem Course.outline {host : Host σ} {paths : StartPaths} {base : Environment}
    {passthrough : List String} {state : σ} {progress : Progress σ}
    {result : Except StartError Ready}
    (h : Course host paths base passthrough state progress result) :
    Outline host paths base passthrough state (progress.steps.filterMap Step.call?)
      progress.state result := by
  cases h with
  | updateFails update =>
    rw [filterMap_call?_steps]
    exact .updateFails update
  | filesUnreadable update files =>
    rw [List.filterMap_append, filterMap_call?_steps, filterMap_call?_reports, List.append_nil]
    exact .filesUnreadable update files
  | commonTaskFails update files common =>
    rw [List.filterMap_append, filterMap_call?_openingSteps, filterMap_call?_steps]
    exact .follows update files (host.follow_append_of_error _ common _)
  | @unprepared _ s₁ env _ _ _ update files common mode =>
    have rest : host.laterTasks env paths s₁ = Task.afterEnvironment := by
      rw [Host.laterTasks]
      cases hm : Mode.ofEnvironment env with
      | production => exact absurd hm mode
      | development => exact List.append_nil _
      | worker => exact List.append_nil _
    rw [← rest] at common
    rw [List.filterMap_append, List.filterMap_append, filterMap_call?_openingSteps,
      filterMap_call?_steps, filterMap_call?_logged_cons, List.filterMap_nil, List.append_nil]
    exact .follows update files common
  | @prepareFails _ s₁ env _ _ s₂ _ _ _ update files common mode prepare =>
    have rest := host.laterTasks_of_production paths common mode
    have later := host.follow_append_of_error _ prepare
      (host.tasksAfterPrepare paths env (host.follow env [.prepare] s₂).state)
    rw [later] at rest
    rw [List.filterMap_append, List.filterMap_append, List.filterMap_append,
      filterMap_call?_openingSteps, filterMap_call?_steps, filterMap_call?_steps,
      filterMap_call?_logged_cons, List.filterMap_nil, List.append_nil, List.append_assoc]
    exact .follows update files rest
  | @laterTaskFails _ s₁ env _ _ s₂ _ _ _ _ _ update files common mode prepare tasks =>
    have rest := host.laterTasks_of_production paths common mode
    rw [host.follow_append_of_ok _ prepare, prepare, tasks] at rest
    rw [filterMap_call?_productionSteps]
    exact .follows update files rest
  | @prepared _ s₁ env _ _ s₂ _ _ _ _ update files common mode prepare tasks =>
    have rest := host.laterTasks_of_production paths common mode
    rw [host.follow_append_of_ok _ prepare, prepare, tasks] at rest
    rw [filterMap_call?_productionSteps]
    exact .follows update files rest

section Handover

variable {launcher : Launcher σ} {progress : Progress σ} {result : Except StartError Ready}
  {ended : Ended σ Unit}

lemma Handover.taskCalls (h : Handover launcher progress result ended) :
    ended.taskCalls = progress.steps.filterMap Step.call? := by
  rw [Ended.taskCalls]
  cases h with
  | aborted error => exact (List.filterMap_append).trans (List.append_nil _)
  | launched ready launch => exact (List.filterMap_append).trans (List.append_nil _)
  | launchFails ready launch => exact (List.filterMap_append).trans (List.append_nil _)

lemma Handover.result_of_error (h : Handover launcher progress result ended) {error : StartError}
    (hresult : result = .error error) : ended.result = .error error := by
  cases h with
  | aborted error' =>
    obtain rfl := Except.error.inj hresult
    rfl
  | launched ready launch => contradiction
  | launchFails ready launch => contradiction

end Handover

end SiteBoot
