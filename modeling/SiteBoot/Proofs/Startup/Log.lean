import SiteBoot.Proofs.Startup.Initialized
import SiteBoot.Proofs.Startup.Launch
/-!
# The log of a start

As long as tasks report nothing by themselves, the log tells what a start has done: which tasks it
has called, which of them have succeeded, and where it was when it had to be given up.
`TellsOfCalls` holds of the steps of a course piece by piece, and `Breakdown` is what a course that
fails comes to, together with the phase that it has reached.
-/

namespace SiteBoot

variable {σ α : Type}

def Host.IsSilent (host : Host σ) : Prop :=
  ∀ task env state, (host.runTask task env state).events = []

/-- What the log has of a start: its events of information and more severe ones. -/
def Ended.log (ended : Ended σ α) : List Event := eventsUpTo .info ended.events

/-- By its wording an event says that a task begins or that one has succeeded. -/
def Event.isTaskReport (event : Event) : Bool :=
  event.message = "Running task" ||
    Task.all.any fun task => event.message = task.name ++ " tasks done"

def TaskCall.reports (call : TaskCall) : List Event :=
  .taskRunning call.task ::
    match call.result with
    | .ok () => [.taskDone call.task]
    | .error _ => []

/-- Where a start was when it failed, by what has failed. -/
inductive FailedIn (ended : Ended σ Unit) : String → Prop
  | commonTask {call failure} (called : call ∈ ended.taskCalls)
      (failed : call.result = .error failure)
      (common : call.task ∈ [.update, .waitForDatabases, .migrations]) :
      FailedIn ended "tasks-running"
  | environmentFile {error} (failed : ended.result = .error (.environmentFile error)) :
      FailedIn ended "tasks-running"
  | noDevelopmentCommand (unlaunched : ended.launches = [])
      (failed : ended.result = .error (.launch (.emptyCommand .development))) :
      FailedIn ended "mode-selected(development)"
  | noWorkerCommand (unlaunched : ended.launches = [])
      (failed : ended.result = .error (.launch (.emptyCommand .worker))) :
      FailedIn ended "mode-selected(worker)"
  | productionTask {call failure} (called : call ∈ ended.taskCalls)
      (failed : call.result = .error failure)
      (later : call.task ∉ [.update, .waitForDatabases, .migrations]) :
      FailedIn ended "production-prep"
  | noServerCommand (unlaunched : ended.launches = [])
      (failed : ended.result = .error (.launch (.emptyCommand .production))) :
      FailedIn ended "production-prep"
  | launcher {command env error} (launched : .launched command env (.error error) ∈ ended.steps) :
      FailedIn ended "exec"

/-- An event that says that a start is given up, for a reason and in a phase. -/
structure Event.GivesUp (event : Event) (error : StartError) (phase : String) : Prop where
  level : event.level = .error
  message : event.message = "Startup aborted"
  fields : event.fields = [("phase", .text "failed"), ("failed_in", .text phase),
    ("exit_code", .number error.exitCode), ("error", .text error.message)]

/-- The log of a start tells what has happened. -/
structure LogsFaithfully (ended : Ended σ Unit) : Prop where
  running : (ended.log.filter (·.message = "Running task")).map Event.fields =
    ended.tasks.map fun task => [("task", .text task.name)]
  outcomes : ended.log.filter Event.isTaskReport = ended.taskCalls.flatMap TaskCall.reports
  error_iff : (∃ event ∈ ended.log, event.level = .error) ↔ ∃ error, ended.result = .error error
  /-- The one error is the last event, and names the phase of what has failed. -/
  givenUp : ∀ error, ended.result = .error error →
    ∃ before event phase, ended.log = before ++ [event] ∧
      (∀ earlier ∈ before, earlier.level ≠ .error) ∧ event.GivesUp error phase ∧
      ∀ other, FailedIn ended other ↔ other = phase

/-! ### The wording of events -/

lemma Event.isTaskReport_of_mem {event : Event} {c : Char} (hmem : c ∈ event.message.toList)
    (hc : c = '=' ∨ c = '(') : event.isTaskReport = false := by
  have hne : ∀ text : String, c ∉ text.toList → event.message ≠ text := by
    rintro text hnot rfl
    exact hnot hmem
  rcases hc with rfl | rfl
  · simp [isTaskReport, Task.all, Task.name, hne]
  · simp [isTaskReport, Task.all, Task.name, hne]

lemma Event.isTaskReport_iff (event : Event) :
    event.isTaskReport ↔
      (∃ task, event = .taskRunning task) ∨ ∃ task, event = .taskDone task := by
  constructor
  · intro h
    cases event with
    | taskRunning task => exact .inl ⟨task, rfl⟩
    | taskDone task => exact .inr ⟨task, rfl⟩
    | variableReported name value =>
      rw [isTaskReport_of_mem (c := '=') (by simp [message]) (by decide)] at h
      contradiction
    | taskOutputLogged failure logFile =>
      rw [isTaskReport_of_mem (c := '(') (by simp [message]) (by decide)] at h
      contradiction
    | _ => cases h
  · rintro (⟨task, rfl⟩ | ⟨task, rfl⟩)
    · rfl
    · cases task <;> rfl

lemma Event.level_of_isTaskReport {event : Event} (h : event.isTaskReport) :
    event.level = .info := by
  rcases event.isTaskReport_iff.mp h with ⟨task, rfl⟩ | ⟨task, rfl⟩
  · rfl
  · rfl

/-- An event that says nothing of calls and is no error. -/
def Event.IsAside (event : Event) : Prop := event.isTaskReport = false ∧ event.level ≠ .error

lemma Event.IsFileReport.isAside {event : Event} (h : event.IsFileReport) : event.IsAside := by
  cases event <;> first | exact h.elim | exact ⟨rfl, by simp [Event.level]⟩

lemma Environment.isAside_of_mem_variableReports (env : Environment) :
    ∀ event ∈ env.variableReports, event.IsAside := by
  intro event hevent
  obtain ⟨name, -, rfl⟩ := List.mem_map.mp hevent
  exact ⟨Event.isTaskReport_of_mem (c := '=') (by simp [Event.message]) (by decide),
    by simp [Event.level]⟩

lemma isAside_modeSelected (phase : Phase) : (Event.modeSelected phase).IsAside :=
  ⟨rfl, by simp [Event.level]⟩

lemma isAside_launching (phase : Phase) (command : Command) :
    (Event.launching phase command).IsAside :=
  ⟨rfl, by simp [Event.level]⟩

lemma Host.isAside_lockReport (host : Host σ) (paths : StartPaths) (env : Environment)
    (state : σ) : (host.lockReport paths env state).IsAside := by
  rw [lockReport]
  split
  · exact ⟨rfl, by simp [Event.level]⟩
  · exact ⟨rfl, by simp [Event.level]⟩

/-! ### What steps say of calls -/

/-- The events of steps say of each call what there is to say, and report no error. -/
structure TellsOfCalls (steps : List Step) : Prop where
  reports : (steps.flatMap Step.events).filter Event.isTaskReport =
    (steps.filterMap Step.call?).flatMap TaskCall.reports
  noError : ∀ event ∈ steps.flatMap Step.events, event.level ≠ .error

namespace TellsOfCalls

lemma append {first rest : List Step} (hfirst : TellsOfCalls first) (hrest : TellsOfCalls rest) :
    TellsOfCalls (first ++ rest) := by
  constructor
  · rw [List.flatMap_append, List.filter_append, hfirst.reports, hrest.reports,
      List.filterMap_append, List.flatMap_append]
  · rw [List.flatMap_append]
    exact List.forall_mem_append.mpr ⟨hfirst.noError, hrest.noError⟩

lemma of_asides {events : List Event} (h : ∀ event ∈ events, event.IsAside) :
    TellsOfCalls (events.map .logged) := by
  have hevents : (events.map Step.logged).flatMap Step.events = events := by
    rw [List.flatMap_map]
    exact List.flatMap_singleton' events
  constructor
  · rw [hevents, filterMap_call?_reports, List.filter_eq_nil_iff.mpr]
    · rfl
    · intro event hevent
      simp [(h event hevent).1]
  · rw [hevents]
    exact fun event hevent => (h event hevent).2

lemma of_aside {event : Event} (h : event.IsAside) : TellsOfCalls [.logged event] :=
  of_asides (List.forall_mem_singleton.mpr h)

lemma of_call {call : TaskCall} (h : call.events = []) : TellsOfCalls call.steps := by
  have hrunning : ∀ task, (Event.taskRunning task).isTaskReport := fun _ => rfl
  have hdone : ∀ task, (Event.taskDone task).isTaskReport :=
    fun task => (Event.isTaskReport_iff _).mpr (.inr ⟨task, rfl⟩)
  obtain ⟨task, env, events, result⟩ := call
  obtain rfl : events = [] := h
  cases result with
  | ok done =>
    constructor
    · change [Event.taskRunning task, .taskDone task].filter Event.isTaskReport = [_, _]
      simp [hrunning, hdone]
    · simp [TaskCall.steps, Step.events, Event.level]
  | error failure =>
    constructor
    · change [Event.taskRunning task].filter Event.isTaskReport = [_]
      simp [hrunning]
    · simp [TaskCall.steps, Step.events, Event.level]

lemma of_calls {calls : List TaskCall} (h : ∀ call ∈ calls, call.events = []) :
    TellsOfCalls (calls.flatMap TaskCall.steps) := by
  induction calls with
  | nil => exact ⟨rfl, by simp⟩
  | cons call rest ih =>
    obtain ⟨hcall, hrest⟩ := List.forall_mem_cons.mp h
    rw [List.flatMap_cons]
    exact (of_call hcall).append (ih hrest)

end TellsOfCalls

section Course

variable {host : Host σ} {paths : StartPaths} {base env : Environment} {passthrough : List String}
  {state next : σ} {progress : Progress σ} {result : Except StartError Ready}

lemma Host.IsSilent.tellsOfCalls (silent : host.IsSilent) {tasks : List Task}
    {calls : List TaskCall} {outcome : Except TaskFailure Unit}
    (h : host.follow env tasks state = ⟨calls, next, outcome⟩) :
    TellsOfCalls (calls.flatMap TaskCall.steps) := by
  have hcalls : calls = (host.visits env tasks state).map host.recorded := by
    rw [host.map_visits, h]
  refine .of_calls fun call hcall => ?_
  rw [hcalls] at hcall
  obtain ⟨visit, -, rfl⟩ := List.mem_map.mp hcall
  exact silent visit.task visit.env visit.state

/-- The log tells of every call up to the handover, and of no error. -/
lemma Course.tellsOfCalls (silent : host.IsSilent)
    (h : Course host paths base passthrough state progress result) :
    TellsOfCalls progress.steps := by
  have hopening : ∀ {first s₁ events env},
      host.follow base Task.beforeEnvironment state = ⟨first, s₁, .ok ()⟩ →
      host.readEnvironment paths base s₁ = (.ok env, events) →
      TellsOfCalls (openingSteps first events env) := by
    intro first s₁ events env update files
    have hreports := host.readEnvironment_reports paths base s₁
    rw [files] at hreports
    exact ((silent.tellsOfCalls update).append
      (.of_asides fun event hevent => (hreports event hevent).isAside)).append
      (.of_asides env.isAside_of_mem_variableReports)
  cases h with
  | updateFails update => exact silent.tellsOfCalls update
  | @filesUnreadable _ s₁ _ _ update files =>
    have hreports := host.readEnvironment_reports paths base s₁
    rw [files] at hreports
    exact (silent.tellsOfCalls update).append
      (.of_asides fun event hevent => (hreports event hevent).isAside)
  | commonTaskFails update files common =>
    exact (hopening update files).append (silent.tellsOfCalls common)
  | unprepared update files common mode =>
    exact ((hopening update files).append (silent.tellsOfCalls common)).append
      (.of_aside (isAside_modeSelected _))
  | prepareFails update files common mode prepare =>
    exact (((hopening update files).append (silent.tellsOfCalls common)).append
      (.of_aside (isAside_modeSelected _))).append (silent.tellsOfCalls prepare)
  | laterTaskFails update files common mode prepare rest =>
    exact (((((hopening update files).append (silent.tellsOfCalls common)).append
      (.of_aside (isAside_modeSelected _))).append (silent.tellsOfCalls prepare)).append
      (.of_aside (host.isAside_lockReport ..))).append (silent.tellsOfCalls rest)
  | prepared update files common mode prepare rest =>
    exact (((((hopening update files).append (silent.tellsOfCalls common)).append
      (.of_aside (isAside_modeSelected _))).append (silent.tellsOfCalls prepare)).append
      (.of_aside (host.isAside_lockReport ..))).append (silent.tellsOfCalls rest)

end Course

/-! ### Where a start fails -/

/-- What a start comes to that fails before it hands over: its calls, the phase that it has
reached, and why it fails. -/
inductive Breakdown : List TaskCall → Phase → StartError → Prop
  | commonTask {calls failure}
      (common : ∀ call ∈ calls, call.task ∈ [.update, .waitForDatabases, .migrations])
      (fails : ∃ call ∈ calls, call.result = .error failure) :
      Breakdown calls .tasksRunning (.task failure)
  | environmentFile {calls error} (succeed : ∀ call ∈ calls, call.result = .ok ()) :
      Breakdown calls .tasksRunning (.environmentFile error)
  | noCommand {calls mode} (succeed : ∀ call ∈ calls, call.result = .ok ())
      (mode_ne : mode ≠ .production) :
      Breakdown calls (.modeSelected mode) (.launch (.emptyCommand mode))
  | productionTask {calls failure}
      (later : ∀ call ∈ calls, call.result = .ok () ∨
        call.task ∉ [.update, .waitForDatabases, .migrations])
      (fails : ∃ call ∈ calls, call.result = .error failure) :
      Breakdown calls .productionPrep (.task failure)
  | noServerCommand {calls} (succeed : ∀ call ∈ calls, call.result = .ok ()) :
      Breakdown calls .productionPrep (.launch (.emptyCommand .production))

section Breakdown

variable {host : Host σ} {paths : StartPaths} {base env : Environment} {passthrough : List String}
  {state next : σ} {calls : List TaskCall}

lemma Host.not_mem_of_mem_tasksAfterPrepare {task : Task}
    (h : task ∈ host.tasksAfterPrepare paths env state) :
    task ∉ [.update, .waitForDatabases, .migrations] := by
  rw [tasksAfterPrepare, List.mem_append] at h
  rcases h with h | h
  · split at h
    · revert task
      decide
    · contradiction
  · revert task
    decide

lemma Environment.ready_error {error : StartError} (h : env.ready passthrough = .error error) :
    error = .launch (.emptyCommand (Mode.ofEnvironment env)) := by
  rw [env.ready_eq] at h
  split at h
  · exact (Except.error.inj h).symm
  · contradiction

lemma Course.breakdown {progress : Progress σ} {error : StartError}
    (h : Course host paths base passthrough state progress (.error error)) :
    Breakdown (progress.steps.filterMap Step.call?) progress.phase error := by
  generalize hresult : Except.error error = result at h
  cases h with
  | updateFails update =>
    obtain rfl := Except.error.inj hresult
    rw [filterMap_call?_steps]
    have hupdate : Task.beforeEnvironment ⊆ [.update, .waitForDatabases, .migrations] := by decide
    exact .commonTask (fun call hcall => hupdate (Host.mem_of_mem_follow update call hcall))
      (Host.follow_fails update)
  | filesUnreadable update files =>
    obtain rfl := Except.error.inj hresult
    rw [List.filterMap_append, filterMap_call?_steps, filterMap_call?_reports, List.append_nil]
    exact .environmentFile (Host.follow_succeeds update)
  | commonTaskFails update files common =>
    obtain rfl := Except.error.inj hresult
    rw [List.filterMap_append, filterMap_call?_openingSteps, filterMap_call?_steps]
    have hupdate : Task.beforeEnvironment ⊆ [.update, .waitForDatabases, .migrations] := by decide
    have hcommon : Task.afterEnvironment ⊆ [.update, .waitForDatabases, .migrations] := by decide
    obtain ⟨call, hcall, hfailed⟩ := Host.follow_fails common
    exact .commonTask
      (List.forall_mem_append.mpr
        ⟨fun call hcall => hupdate (Host.mem_of_mem_follow update call hcall),
          fun call hcall => hcommon (Host.mem_of_mem_follow common call hcall)⟩)
      ⟨call, List.mem_append_right _ hcall, hfailed⟩
  | @unprepared _ s₁ env _ _ _ update files common mode =>
    obtain rfl := Environment.ready_error hresult.symm
    rw [List.filterMap_append, List.filterMap_append, filterMap_call?_openingSteps,
      filterMap_call?_steps, filterMap_call?_logged_cons, List.filterMap_nil, List.append_nil]
    exact .noCommand (List.forall_mem_append.mpr
      ⟨Host.follow_succeeds update, Host.follow_succeeds common⟩) mode
  | @prepareFails _ s₁ env _ _ s₂ _ _ _ update files common mode prepare =>
    obtain rfl := Except.error.inj hresult
    rw [List.filterMap_append, List.filterMap_append, List.filterMap_append,
      filterMap_call?_openingSteps, filterMap_call?_steps, filterMap_call?_steps,
      filterMap_call?_logged_cons, List.filterMap_nil, List.append_nil]
    obtain ⟨call, hcall, hfailed⟩ := Host.follow_fails prepare
    refine .productionTask ?_ ⟨call, List.mem_append_right _ hcall, hfailed⟩
    refine List.forall_mem_append.mpr ⟨List.forall_mem_append.mpr
      ⟨fun call hcall => .inl (Host.follow_succeeds update call hcall),
        fun call hcall => .inl (Host.follow_succeeds common call hcall)⟩, fun call hcall => .inr ?_⟩
    rw [List.mem_singleton.mp (Host.mem_of_mem_follow prepare call hcall)]
    decide
  | @laterTaskFails _ s₁ env _ _ s₂ _ _ _ _ _ update files common mode prepare tasks =>
    obtain rfl := Except.error.inj hresult
    rw [filterMap_call?_productionSteps]
    obtain ⟨call, hcall, hfailed⟩ := Host.follow_fails tasks
    refine .productionTask ?_ ⟨call, by simp [hcall], hfailed⟩
    have hlater : ∀ call ∈ _, _ := Host.mem_of_mem_follow tasks
    simp only [List.forall_mem_append]
    exact ⟨fun call hcall => .inl (Host.follow_succeeds update call hcall),
      fun call hcall => .inl (Host.follow_succeeds common call hcall),
      fun call hcall => .inl (Host.follow_succeeds prepare call hcall),
      fun call hcall => .inr (Host.not_mem_of_mem_tasksAfterPrepare (hlater call hcall))⟩
  | @prepared _ s₁ env _ _ s₂ _ _ _ _ update files common mode prepare tasks =>
    obtain rfl := Environment.ready_error hresult.symm
    rw [filterMap_call?_productionSteps, mode]
    refine .noServerCommand ?_
    simp only [List.forall_mem_append]
    exact ⟨Host.follow_succeeds update, Host.follow_succeeds common, Host.follow_succeeds prepare,
      Host.follow_succeeds tasks⟩

/-- The phase of a start that has failed before it handed over is the one of its failure. -/
lemma Breakdown.failedIn_iff {ended : Ended σ Unit} {phase : Phase} {error : StartError}
    (h : Breakdown ended.taskCalls phase error) (hresult : ended.result = .error error)
    (hnone : ended.launches = []) (other : String) :
    FailedIn ended other ↔ other = phase.display := by
  have hlauncher : ∀ command env cause, .launched command env (.error cause) ∉ ended.steps := by
    intro command env cause hstep
    have hlaunch := List.filterMap_eq_nil_iff.mp hnone _ hstep
    contradiction
  -- each other cause is at odds with the calls, with the result or with the missing handover
  cases h with
  | commonTask common fails =>
    obtain ⟨call, hcall, hfailed⟩ := fails
    refine ⟨fun hother => ?_, fun hother => hother ▸ .commonTask hcall hfailed (common call hcall)⟩
    cases hother <;> grind [Phase.display]
  | environmentFile succeed =>
    refine ⟨fun hother => ?_, fun hother => hother ▸ .environmentFile hresult⟩
    cases hother <;> grind [Phase.display]
  | @noCommand mode succeed mode_ne =>
    cases mode with
    | development =>
      change _ ↔ other = "mode-selected(development)"
      refine ⟨fun hother => ?_, fun hother => hother ▸ .noDevelopmentCommand hnone hresult⟩
      cases hother <;> grind
    | worker =>
      change _ ↔ other = "mode-selected(worker)"
      refine ⟨fun hother => ?_, fun hother => hother ▸ .noWorkerCommand hnone hresult⟩
      cases hother <;> grind
    | production => exact absurd rfl mode_ne
  | productionTask later fails =>
    obtain ⟨call, hcall, hfailed⟩ := fails
    have hlater : call.task ∉ [.update, .waitForDatabases, .migrations] := by
      refine (later call hcall).resolve_left ?_
      rw [hfailed]
      exact nofun
    refine ⟨fun hother => ?_, fun hother => hother ▸ .productionTask hcall hfailed hlater⟩
    cases hother <;> grind [Phase.display]
  | noServerCommand succeed =>
    refine ⟨fun hother => ?_, fun hother => hother ▸ .noServerCommand hnone hresult⟩
    cases hother <;> grind [Phase.display]

end Breakdown

/-! ### The log -/

namespace Ended

variable (ended : Ended σ α)

lemma mem_log {ended : Ended σ α} {event : Event} (h : event ∈ ended.log) :
    event ∈ ended.events :=
  List.mem_of_mem_filter h

lemma filter_isTaskReport_log :
    ended.log.filter Event.isTaskReport = ended.events.filter Event.isTaskReport := by
  rw [log, eventsUpTo, List.filter_filter]
  refine List.filter_congr fun event _ => ?_
  cases h : event.isTaskReport with
  | false => rfl
  | true => simp [event.level_of_isTaskReport h]

lemma filter_running (events : List Event) :
    events.filter (·.message = "Running task") =
      (events.filter Event.isTaskReport).filter (·.message = "Running task") := by
  rw [List.filter_filter]
  refine List.filter_congr fun event _ => ?_
  by_cases h : event.message = "Running task"
  · simp [Event.isTaskReport, h]
  · simp [h]

end Ended

lemma map_fields_running (calls : List TaskCall) :
    ((calls.flatMap TaskCall.reports).filter (·.message = "Running task")).map Event.fields =
      calls.map fun call => [("task", .text call.task.name)] := by
  have hrunning : ∀ task, (Event.taskRunning task).message = "Running task" := fun _ => rfl
  have hdone : ∀ task, (Event.taskDone task).message ≠ "Running task" := by
    intro task
    cases task <;> decide
  induction calls with
  | nil => rfl
  | cons call rest ih =>
    rw [List.flatMap_cons, List.filter_append, List.map_append, ih, TaskCall.reports]
    cases call.result with
    | ok done => simp [hrunning, hdone, Event.fields]
    | error failure => simp [hrunning, Event.fields]

lemma TellsOfCalls.of_launched (command : Command) (env : Environment)
    (result : Except LaunchError Unit) : TellsOfCalls [.launched command env result] :=
  ⟨rfl, fun _ hevent => by contradiction⟩

namespace Event.GivesUp

variable {event : Event} {error : StartError} {phase : String}

lemma isTaskReport (h : event.GivesUp error phase) : event.isTaskReport = false := by
  simp [Event.isTaskReport, h.message, Task.all, Task.name]

lemma of_aborted (phase : Phase) (error : StartError) :
    (Event.startupAborted .failed phase error.exitCode error.message).GivesUp error
      phase.display :=
  ⟨rfl, rfl, rfl⟩

end Event.GivesUp

namespace LogsFaithfully

variable {ended : Ended σ Unit}

lemma of_ok (hsteps : TellsOfCalls ended.steps) (hresult : ended.result = .ok ()) :
    LogsFaithfully ended := by
  have houtcomes : ended.log.filter Event.isTaskReport = _ :=
    ended.filter_isTaskReport_log.trans hsteps.reports
  constructor
  · rw [Ended.filter_running, houtcomes, map_fields_running, Ended.tasks, List.map_map]
    rfl
  · exact houtcomes
  · constructor
    · rintro ⟨event, hevent, hlevel⟩
      exact absurd hlevel (hsteps.noError event (Ended.mem_log hevent))
    · rintro ⟨error, herror⟩
      rw [hresult] at herror
      contradiction
  · intro error herror
    rw [hresult] at herror
    contradiction

lemma of_error {before : List Step} {event : Event} {error : StartError} {phase : String}
    (hsteps : ended.steps = before ++ [.logged event]) (hbefore : TellsOfCalls before)
    (hresult : ended.result = .error error) (hevent : event.GivesUp error phase)
    (hphase : ∀ other, FailedIn ended other ↔ other = phase) : LogsFaithfully ended := by
  have hevents : ended.events = before.flatMap Step.events ++ [event] := by
    rw [Ended.events, hsteps, List.flatMap_append]
    rfl
  have hcalls : ended.taskCalls = before.filterMap Step.call? := by
    rw [Ended.taskCalls, hsteps, List.filterMap_append]
    exact List.append_nil _
  have hlog : ended.log = eventsUpTo .info (before.flatMap Step.events) ++ [event] := by
    rw [Ended.log, hevents, eventsUpTo, eventsUpTo, List.filter_append]
    simp [hevent.level, Level.verbosity]
  have houtcomes : ended.log.filter Event.isTaskReport =
      ended.taskCalls.flatMap TaskCall.reports := by
    rw [ended.filter_isTaskReport_log, hevents, List.filter_append, hbefore.reports, hcalls]
    simp [hevent.isTaskReport]
  constructor
  · rw [Ended.filter_running, houtcomes, map_fields_running, Ended.tasks, List.map_map]
    rfl
  · exact houtcomes
  · refine ⟨fun _ => ⟨error, hresult⟩, fun _ => ⟨event, ?_, hevent.level⟩⟩
    rw [hlog]
    exact List.mem_append_right _ (List.mem_singleton_self event)
  · intro other hother
    obtain rfl := Except.error.inj (hresult.symm.trans hother)
    refine ⟨_, event, phase, hlog, fun earlier hearlier => ?_, hevent, hphase⟩
    exact hbefore.noError earlier (List.mem_of_mem_filter hearlier)

end LogsFaithfully

lemma failedIn_exec_iff {ended : Ended σ Unit} {error : LaunchError}
    (hcalls : ∀ call ∈ ended.taskCalls, call.result = .ok ())
    (hlaunched : ∃ command env, .launched command env (.error error) ∈ ended.steps)
    (hresult : ended.result = .error (.launch error)) (other : String) :
    FailedIn ended other ↔ other = "exec" := by
  obtain ⟨command, env, hlaunched⟩ := hlaunched
  have hlaunches : ended.launches ≠ [] := by
    intro hnil
    have hlaunch := List.filterMap_eq_nil_iff.mp hnil _ hlaunched
    contradiction
  refine ⟨fun hother => ?_, fun hother => hother ▸ .launcher hlaunched⟩
  cases hother <;> grind

section Starts

variable (host : Host σ) (launcher : Launcher σ) (paths : StartPaths) (base : Environment)
  (passthrough : List String) (state : σ)

/-- Whatever tasks and launcher do, the log of a start tells what has happened, and a failure is
in it once, at the end and with its phase. A start that is prepared only logs no error. -/
theorem starts_logFaithfully (silent : host.IsSilent) :
    LogsFaithfully (startSite host launcher paths base passthrough state) ∧
      ∀ event ∈ (prepareSite host paths base passthrough state).events,
        event.level ≠ .error := by
  obtain ⟨progress, result, hcourse, hprepare, hhandover⟩ :=
    startSite_course host launcher paths base passthrough state
  have hsteps := hcourse.tellsOfCalls silent
  refine ⟨?_, by rw [hprepare]; exact hsteps.noError⟩
  have hcalls := hhandover.taskCalls
  have hlaunches := hhandover.completion.launches_eq hcourse.launch?_eq_nil
  generalize startSite host launcher paths base passthrough state = ended at *
  cases hhandover with
  | aborted error =>
    have hbreakdown := hcourse.breakdown
    rw [← hcalls] at hbreakdown
    exact .of_error rfl hsteps rfl (.of_aborted progress.phase error)
      (hbreakdown.failedIn_iff rfl hlaunches)
  | launched ready launch =>
    exact .of_ok (hsteps.append
      ((TellsOfCalls.of_aside (isAside_launching ..)).append (.of_launched ..))) rfl
  | @launchFails ready error _ launch =>
    have hlaunching := (TellsOfCalls.of_aside (isAside_launching .exec ready.command)).append
      (.of_launched ready.command ready.env (.error error))
    have hsucceed := ((hcourse.outline.ready_iff ready).mp rfl).1
    rw [← hcalls] at hsucceed
    have hlast : ∀ a b c : Step, progress.steps ++ [a, b, c] = progress.steps ++ [a, b] ++ [c] := by
      simp
    exact .of_error (hlast _ _ _) (hsteps.append hlaunching) rfl
      (.of_aborted .exec (.launch error))
      (failedIn_exec_iff hsucceed ⟨ready.command, ready.env, by simp⟩ rfl)

end Starts

def updateKilled : Script where
  changes _ := .nothing
  failures task := if task = .update then some (.signaled 9) else none

theorem killed_update_logged :
    let host := updateKilled.host ⟨[]⟩
    let ended := startSite host (rehearsedLauncher none) missingPaths .empty ["bash"] .base
    host.IsSilent ∧ ∃ before event, ended.log = before ++ [event] ∧
      event.fields = [("phase", .text "failed"), ("failed_in", .text "tasks-running"),
        ("exit_code", .number 137), ("error", .text "task 'update' failed (killed by signal 9)")] := by
  intro host ended
  have hsilent : host.IsSilent := fun _ _ _ => rfl
  have hcalls : ended.taskCalls = [⟨.update, .empty, [], .error ⟨.update, .signaled 9⟩⟩] := rfl
  have hfaithful := (starts_logFaithfully host (rehearsedLauncher none) missingPaths .empty
    ["bash"] .base hsilent).1
  obtain ⟨before, event, phase, hlog, -, hevent, hphase⟩ :=
    hfaithful.givenUp (.task ⟨.update, .signaled 9⟩) rfl
  have hfailed : FailedIn ended "tasks-running" :=
    .commonTask (hcalls ▸ List.mem_singleton_self _) rfl (by decide)
  obtain rfl := (hphase "tasks-running").mp hfailed
  exact ⟨hsilent, before, event, hlog, hevent.fields⟩

end SiteBoot
