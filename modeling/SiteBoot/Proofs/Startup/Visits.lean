import SiteBoot.Proofs.Startup.Snapshot
/-!
# The states that tasks are called in

A start is seen here as the list of its calls, each with the state that it is made in. What every
one of these calls keeps is kept by the start.
-/

namespace SiteBoot

variable {σ : Type}

/-- A call of a task, with the state that it is made in. -/
structure Visit (σ : Type) where
  task : Task
  env : Environment
  state : σ

namespace Host

def visit (host : Host σ) (visit : Visit σ) : TaskRun σ :=
  host.runTask visit.task visit.env visit.state

def recorded (host : Host σ) (visit : Visit σ) : TaskCall :=
  ⟨visit.task, visit.env, (host.visit visit).events, (host.visit visit).result⟩

/-- The calls of tasks in an environment, up to the first that fails. -/
def visits (host : Host σ) (env : Environment) : List Task → σ → List (Visit σ)
  | [], _ => []
  | task :: rest, state =>
    ⟨task, env, state⟩ ::
      match (host.runTask task env state).result with
      | .ok () => host.visits env rest (host.runTask task env state).state
      | .error _ => []

/-- The calls of a start: `update` in the environment that is given, the others in the one that is
read. -/
def startVisits (host : Host σ) (paths : StartPaths) (base : Environment) (state : σ) :
    List (Visit σ) :=
  let update := host.runTask .update base state
  ⟨.update, base, state⟩ ::
    match update.result, host.snapshot paths base state with
    | .ok (), .ok env => host.visits env (host.laterTasks env paths update.state) update.state
    | _, _ => []

variable {host : Host σ} {env : Environment} {tasks : List Task} {state : σ}

lemma map_visits (host : Host σ) (env : Environment) (tasks : List Task) (state : σ) :
    (host.visits env tasks state).map host.recorded = (host.follow env tasks state).calls := by
  induction tasks generalizing state with
  | nil => rfl
  | cons task rest ih =>
    rw [visits, follow, List.map_cons]
    cases hr : (host.runTask task env state).result with
    | ok done =>
      dsimp only
      rw [ih, recorded, visit, hr]
    | error failure =>
      dsimp only
      rw [recorded, visit, hr]
      rfl

lemma task_mem_of_mem_visits {visit : Visit σ} (h : visit ∈ host.visits env tasks state) :
    visit.task ∈ tasks := by
  have hcall := List.mem_map_of_mem (f := host.recorded) h
  rw [map_visits] at hcall
  exact (host.follow_tasks_isPrefix env tasks state).subset (List.mem_map_of_mem hcall)

lemma visits_subset_append (host : Host σ) (env : Environment) (first rest : List Task)
    (state : σ) : host.visits env first state ⊆ host.visits env (first ++ rest) state := by
  induction first generalizing state with
  | nil => exact List.nil_subset _
  | cons task first ih =>
    rw [List.cons_append, visits, visits]
    cases (host.runTask task env state).result with
    | ok done => exact List.cons_subset_cons _ (ih _)
    | error failure => exact List.Subset.refl _

lemma visits_through_prepare_subset (host : Host σ) {env : Environment} (paths : StartPaths)
    (mode : Mode.ofEnvironment env = .production) (state : σ) :
    host.visits env (Task.afterEnvironment ++ [.prepare]) state ⊆
      host.visits env (host.laterTasks env paths state) state := by
  rw [laterTasks, mode]
  dsimp only
  rw [List.append_cons]
  exact host.visits_subset_append env _ _ state

lemma follow_keeps {P : σ → Prop}
    (hkeeps : ∀ visit ∈ host.visits env tasks state, P visit.state → P (host.visit visit).state)
    (hstart : P state) : P (host.follow env tasks state).state := by
  induction tasks generalizing state with
  | nil => exact hstart
  | cons task rest ih =>
    rw [visits, List.forall_mem_cons] at hkeeps
    rw [follow]
    have hnext := hkeeps.1 hstart
    cases hr : (host.runTask task env state).result with
    | ok done =>
      rw [hr] at hkeeps
      exact ih hkeeps.2 hnext
    | error failure => exact hnext

end Host

section Start

variable {host : Host σ} {paths : StartPaths} {base : Environment} {passthrough : List String}
  {state next : σ} {calls : List TaskCall} {result : Except StartError Ready}

lemma Host.startVisits_of_follow {env : Environment} {first : List TaskCall} {s₁ : σ}
    {events : List Event}
    (update : host.follow base Task.beforeEnvironment state = ⟨first, s₁, .ok ()⟩)
    (files : host.readEnvironment paths base s₁ = (.ok env, events)) :
    host.startVisits paths base state =
      ⟨.update, base, state⟩ :: host.visits env (host.laterTasks env paths s₁) s₁ := by
  obtain ⟨-, rfl, hresult⟩ := Host.follow_singleton_inv update
  have hsnapshot := host.snapshot_eq paths base state
  rw [files] at hsnapshot
  rw [startVisits, ← hresult, hsnapshot]

lemma Outline.map_startVisits (h : Outline host paths base passthrough state calls next result) :
    (host.startVisits paths base state).map host.recorded = calls := by
  cases h with
  | updateFails update =>
    rw [Task.beforeEnvironment, Host.follow_singleton] at update
    obtain ⟨rfl, -, hresult⟩ := Stretch.mk.inj update
    simp [Host.startVisits, Host.recorded, Host.visit, hresult]
  | filesUnreadable update files =>
    rw [Task.beforeEnvironment, Host.follow_singleton] at update
    obtain ⟨rfl, rfl, hresult⟩ := Stretch.mk.inj update
    have hsnapshot := host.snapshot_eq paths base state
    rw [files] at hsnapshot
    simp [Host.startVisits, Host.recorded, Host.visit, hresult, hsnapshot]
  | follows update files rest =>
    rw [Host.startVisits_of_follow update files, List.map_cons, host.map_visits, rest]
    rw [Task.beforeEnvironment, Host.follow_singleton] at update
    obtain ⟨rfl, -, hresult⟩ := Stretch.mk.inj update
    simp [Host.recorded, Host.visit, hresult]

/-- What every call of a start keeps holds when its tasks have ended. -/
lemma Outline.keeps {P : σ → Prop}
    (h : Outline host paths base passthrough state calls next result)
    (hkeeps : ∀ visit ∈ host.startVisits paths base state,
      P visit.state → P (host.visit visit).state)
    (hstart : P state) : P next := by
  have hfirst : P (host.runTask .update base state).state :=
    hkeeps ⟨.update, base, state⟩ List.mem_cons_self hstart
  cases h with
  | updateFails update =>
    obtain ⟨-, rfl, -⟩ := Host.follow_singleton_inv update
    exact hfirst
  | filesUnreadable update files =>
    obtain ⟨-, rfl, -⟩ := Host.follow_singleton_inv update
    exact hfirst
  | follows update files rest =>
    rw [Host.startVisits_of_follow update files, List.forall_mem_cons] at hkeeps
    obtain ⟨-, rfl, -⟩ := Host.follow_singleton_inv update
    have hlater := Host.follow_keeps hkeeps.2 hfirst
    rw [rest] at hlater
    exact hlater

end Start

end SiteBoot
