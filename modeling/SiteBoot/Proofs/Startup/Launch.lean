import SiteBoot.Proofs.Startup.History
import SiteBoot.Proofs.Startup.Schedule
import SiteBoot.Proofs.Startup.Snapshot
/-!
# The handover of a start

A start hands over at most once, after its last task. It does so if no task has failed, the files
can be read and there is a command, and then everything that was scheduled has been called.
Whether it is prepared only or started, it makes the same calls and fails for the same reason; a
start that is prepared comes to the command that a real one hands over to.
-/

namespace SiteBoot

variable {σ α : Type}

/-- The words of the command that an environment asks for. -/
def Environment.commandWords (env : Environment) (passthrough : List String) : List String :=
  match Mode.ofEnvironment env with
  | .development => passthrough
  | .worker => (Text.words (env.value "CELERY_CMD").toList).map String.ofList
  | .production => (Text.words (env.value "UWSGI_CMD").toList).map String.ofList

lemma Environment.ready_eq (env : Environment) (passthrough : List String) :
    env.ready passthrough =
      if env.commandWords passthrough = [] then
        .error (.launch (.emptyCommand (Mode.ofEnvironment env)))
      else .ok ⟨⟨Mode.ofEnvironment env, env.commandWords passthrough⟩, env⟩ := by
  have hcommand : env.terminalCommand passthrough =
      Command.ofWords (Mode.ofEnvironment env) (env.commandWords passthrough) := by
    rw [terminalCommand, commandWords]
    cases Mode.ofEnvironment env with
    | development => rfl
    | worker => rfl
    | production => rfl
  rw [ready, hcommand, Command.ofWords]
  by_cases h : env.commandWords passthrough = []
  · simp [h]
  · simp [h]

/-- Every scheduled task has been called and has succeeded. -/
def Ended.Completes (ended : Ended σ α) (schedule : List Task) : Prop :=
  ended.taskCalls.map TaskCall.outcome = schedule.map fun task => (task, .ok ())

lemma result_of_outcomes {calls : List TaskCall} {tasks : List Task}
    (h : calls.map TaskCall.outcome = tasks.map fun task => (task, .ok ())) :
    ∀ call ∈ calls, call.result = .ok () := by
  intro call hmem
  have houtcome := List.mem_map_of_mem (f := TaskCall.outcome) hmem
  rw [h] at houtcome
  obtain ⟨task, -, htask⟩ := List.mem_map.mp houtcome
  exact (congrArg Prod.snd htask).symm

section Outline

variable {host : Host σ} {paths : StartPaths} {base : Environment} {passthrough : List String}
  {state next : σ} {calls : List TaskCall} {result : Except StartError Ready}

/-- A start either completes its schedule and looks for the command, or ends before that, for a
task that fails or a file that cannot be read. -/
lemma Outline.completes_or (h : Outline host paths base passthrough state calls next result) :
    (∃ env, host.snapshot paths base state = .ok env ∧ result = env.ready passthrough ∧
      calls.map TaskCall.outcome =
        (host.schedule paths base state).map fun task => (task, .ok ())) ∨
    (∃ error, result = .error error ∧ (∀ cause, error ≠ .launch cause) ∧
      ¬((∀ call ∈ calls, call.result = .ok ()) ∧
        ∃ env, host.snapshot paths base state = .ok env)) := by
  cases h with
  | @updateFails _ _ failure update =>
    refine .inr ⟨.task failure, rfl, by simp, ?_⟩
    rintro ⟨hok, -⟩
    obtain ⟨call, hcall, hfailed⟩ := Host.follow_fails update
    rw [hok call hcall] at hfailed
    contradiction
  | @filesUnreadable _ _ error _ update files =>
    obtain ⟨-, rfl, -⟩ := Host.follow_singleton_inv update
    refine .inr ⟨.environmentFile error, rfl, by simp, ?_⟩
    rintro ⟨-, env, hsnapshot⟩
    rw [host.snapshot_eq, files] at hsnapshot
    contradiction
  | @follows _ _ env _ later _ outcome update files rest =>
    cases outcome with
    | ok done =>
      have hupdate := Host.follow_outcomes update
      obtain ⟨-, rfl, -⟩ := Host.follow_singleton_inv update
      have hread := congrArg Prod.fst files
      refine .inl ⟨env, by rw [host.snapshot_eq, hread], rfl, ?_⟩
      rw [host.schedule_of_ok paths base hread, List.map_append, hupdate,
        Host.follow_outcomes rest]
      rfl
    | error failure =>
      refine .inr ⟨.task failure, rfl, by simp, ?_⟩
      rintro ⟨hok, -⟩
      obtain ⟨call, hcall, hfailed⟩ := Host.follow_fails rest
      rw [hok call (List.mem_append_right _ hcall)] at hfailed
      contradiction

lemma Outline.completes (h : Outline host paths base passthrough state calls next result)
    (hok : ∀ call ∈ calls, call.result = .ok ()) {env : Environment}
    (hsnapshot : host.snapshot paths base state = .ok env) :
    result = env.ready passthrough ∧ calls.map TaskCall.outcome =
      (host.schedule paths base state).map fun task => (task, .ok ()) := by
  rcases h.completes_or with ⟨other, hother, hresult, hcompletes⟩ | ⟨error, -, -, hnot⟩
  · obtain rfl : other = env := Except.ok.inj (hother.symm.trans hsnapshot)
    exact ⟨hresult, hcompletes⟩
  · exact absurd ⟨hok, env, hsnapshot⟩ hnot

lemma Outline.ready_iff (h : Outline host paths base passthrough state calls next result)
    (ready : Ready) :
    result = .ok ready ↔
      (∀ call ∈ calls, call.result = .ok ()) ∧
      ∃ env, host.snapshot paths base state = .ok env ∧ env.commandWords passthrough ≠ [] ∧
        ready = ⟨⟨Mode.ofEnvironment env, env.commandWords passthrough⟩, env⟩ := by
  rcases h.completes_or with ⟨env, hsnapshot, rfl, hcompletes⟩ | ⟨error, rfl, -, hnot⟩
  · have hok := result_of_outcomes hcompletes
    rw [env.ready_eq]
    by_cases hwords : env.commandWords passthrough = []
    · simp [hsnapshot, hwords]
    · simpa [hsnapshot, hwords, @eq_comm _ ready] using fun _ => hok
  · exact iff_of_false nofun fun ⟨hok, env, hsnapshot, _⟩ => hnot ⟨hok, env, hsnapshot⟩

lemma Outline.empty_iff (h : Outline host paths base passthrough state calls next result)
    (mode : Mode) :
    result = .error (.launch (.emptyCommand mode)) ↔
      (∀ call ∈ calls, call.result = .ok ()) ∧
      ∃ env, host.snapshot paths base state = .ok env ∧ mode = Mode.ofEnvironment env ∧
        env.commandWords passthrough = [] := by
  rcases h.completes_or with ⟨env, hsnapshot, rfl, hcompletes⟩ | ⟨error, rfl, hcause, hnot⟩
  · have hok := result_of_outcomes hcompletes
    rw [env.ready_eq]
    by_cases hwords : env.commandWords passthrough = []
    · simpa [hsnapshot, hwords, @eq_comm _ mode] using fun _ => hok
    · simp [hsnapshot, hwords]
  · refine iff_of_false ?_ fun ⟨hok, env, hsnapshot, _⟩ => hnot ⟨hok, env, hsnapshot⟩
    exact fun herror => hcause _ (Except.error.inj herror)

end Outline

lemma Host.schedule_of_production {host : Host σ} {paths : StartPaths} {base env : Environment}
    {state : σ} (hsnapshot : host.snapshot paths base state = .ok env)
    (hmode : Mode.ofEnvironment env = .production) :
    ∃ initialization ∈ [[], Task.firstStart], host.schedule paths base state =
      [.update, .waitForDatabases, .migrations, .prepare] ++ initialization ++
        [.statics, .waitForGeoServer, .geoServerFixture, .updateAdmin] := by
  rw [host.snapshot_eq] at hsnapshot
  rw [schedule]
  dsimp only
  rw [hsnapshot]
  dsimp only
  rw [hmode]
  dsimp only
  rw [productionTasks]
  split
  · exact ⟨Task.firstStart, by simp, rfl⟩
  · exact ⟨[], by simp, rfl⟩

/-! ### Where the handover stands among the steps -/

lemma launch?_taskSteps (calls : List TaskCall) :
    (calls.flatMap TaskCall.steps).filterMap Step.launch? = [] := by
  induction calls with
  | nil => rfl
  | cons call rest ih =>
    rw [List.flatMap_cons, List.filterMap_append, ih, TaskCall.steps]
    cases call.result with
    | ok done => rfl
    | error failure => rfl

lemma launch?_reports (events : List Event) :
    (events.map Step.logged).filterMap Step.launch? = [] := by
  rw [List.filterMap_map]
  exact List.filterMap_eq_nil_iff.mpr fun _ _ => rfl

lemma launch?_logged (event : Event) : [Step.logged event].filterMap Step.launch? = [] := rfl

lemma Course.launch?_eq_nil {host : Host σ} {paths : StartPaths} {base : Environment}
    {passthrough : List String} {state : σ} {progress : Progress σ}
    {result : Except StartError Ready}
    (h : Course host paths base passthrough state progress result) :
    progress.steps.filterMap Step.launch? = [] := by
  cases h <;>
    simp only [productionSteps, openingSteps, List.filterMap_append, launch?_taskSteps,
      launch?_reports, launch?_logged, List.append_nil]

/-- What a start adds to the one that is prepared only. -/
inductive Completion (launcher : Launcher σ) (prepared : Ended σ Ready) (started : Ended σ Unit) :
    Prop
  | givenUp (error : StartError) (reports : List Event)
      (prepares : prepared.result = .error error) (fails : started.result = .error error)
      (steps : started.steps = prepared.steps ++ reports.map .logged)
  | handedOver (ready : Ready) (done : Except LaunchError Unit) (report : Event)
      (reports : List Event) (prepares : prepared.result = .ok ready)
      (answer : (launcher ready.command ready.env prepared.state).1 = done)
      (result : started.result = done.mapError .launch)
      (steps : started.steps = prepared.steps ++
        .logged report :: .launched ready.command ready.env done :: reports.map .logged)

lemma Handover.completion {launcher : Launcher σ} {progress : Progress σ}
    {result : Except StartError Ready} {started : Ended σ Unit}
    (h : Handover launcher progress result started) :
    Completion launcher ⟨result, progress.steps, progress.state⟩ started := by
  cases h with
  | aborted error => exact .givenUp error [_] rfl rfl rfl
  | launched ready launch => exact .handedOver ready _ _ [] rfl (congrArg Prod.fst launch) rfl rfl
  | launchFails ready launch =>
    exact .handedOver ready _ _ [_] rfl (congrArg Prod.fst launch) rfl rfl

namespace Completion

variable {launcher : Launcher σ} {prepared : Ended σ Ready} {started : Ended σ Unit}

lemma splits (h : Completion launcher prepared started) :
    ∃ after, started.steps = prepared.steps ++ after ∧ after.filterMap Step.call? = [] := by
  cases h with
  | givenUp error reports prepares fails steps =>
    exact ⟨_, steps, filterMap_call?_reports reports⟩
  | handedOver ready done report reports prepares answer result steps =>
    exact ⟨_, steps, filterMap_call?_reports reports⟩

lemma calls_eq (h : Completion launcher prepared started) :
    prepared.taskCalls = started.taskCalls := by
  obtain ⟨after, hsteps, hafter⟩ := h.splits
  rw [Ended.taskCalls, Ended.taskCalls, hsteps, List.filterMap_append, hafter, List.append_nil]

lemma error_eq (h : Completion launcher prepared started) {error : StartError}
    (herror : prepared.result = .error error) : started.result = .error error := by
  cases h with
  | givenUp cause reports prepares fails steps =>
    obtain rfl := Except.error.inj (prepares.symm.trans herror)
    exact fails
  | handedOver ready done report reports prepares answer result steps =>
    rw [prepares] at herror
    contradiction

lemma launches_eq (h : Completion launcher prepared started)
    (hnone : prepared.steps.filterMap Step.launch? = []) :
    started.launches =
      match prepared.result with
      | .ok ready => [(ready.command, ready.env)]
      | .error _ => [] := by
  cases h with
  | givenUp error reports prepares fails steps =>
    rw [prepares, Ended.launches, steps, List.filterMap_append, hnone, launch?_reports]
    rfl
  | handedOver ready done report reports prepares answer result steps =>
    rw [prepares, Ended.launches, steps, List.filterMap_append, hnone]
    exact congrArg ((ready.command, ready.env) :: ·) (launch?_reports reports)

lemma launched_iff (h : Completion launcher prepared started)
    (hnone : prepared.steps.filterMap Step.launch? = []) (command : Command) (env : Environment)
    (done : Except LaunchError Unit) :
    .launched command env done ∈ started.steps ↔
      prepared.result = .ok ⟨command, env⟩ ∧
        done = (launcher command env prepared.state).1 := by
  have hbefore : .launched command env done ∉ prepared.steps := by
    intro hstep
    have hlaunch := List.filterMap_eq_nil_iff.mp hnone _ hstep
    contradiction
  cases h with
  | givenUp error reports prepares fails steps => simp [steps, hbefore, prepares]
  | handedOver ready answered report reports prepares answer result steps =>
    have hmem : .launched command env done ∈ started.steps ↔
        command = ready.command ∧ env = ready.env ∧ done = answered := by
      simp [steps, hbefore]
    rw [hmem, prepares, ← answer, Except.ok.injEq]
    constructor
    · rintro ⟨rfl, rfl, rfl⟩
      exact ⟨rfl, rfl⟩
    · rintro ⟨rfl, rfl⟩
      exact ⟨rfl, rfl, rfl⟩

lemma result_of_ok (h : Completion launcher prepared started) {ready : Ready}
    (hready : prepared.result = .ok ready) :
    started.result = (launcher ready.command ready.env prepared.state).1.mapError .launch := by
  cases h with
  | givenUp cause reports prepares fails steps =>
    rw [prepares] at hready
    contradiction
  | handedOver other done report reports prepares answer result steps =>
    obtain rfl := Except.ok.inj (prepares.symm.trans hready)
    rw [result, answer]

lemma ok_iff (h : Completion launcher prepared started)
    (hnone : prepared.steps.filterMap Step.launch? = []) :
    started.result = .ok () ↔
      ∃ command env, Step.launched command env (.ok ()) ∈ started.steps := by
  have hlaunched := h.launched_iff hnone
  constructor
  · intro hok
    cases hprepared : prepared.result with
    | error error =>
      rw [h.error_eq hprepared] at hok
      contradiction
    | ok ready =>
      rw [h.result_of_ok hprepared] at hok
      refine ⟨ready.command, ready.env, (hlaunched _ _ _).mpr ⟨hprepared, ?_⟩⟩
      cases hanswer : (launcher ready.command ready.env prepared.state).1 with
      | ok done => rfl
      | error cause =>
        rw [hanswer] at hok
        contradiction
  · rintro ⟨command, env, hmem⟩
    obtain ⟨hready, hanswer⟩ := (hlaunched _ _ _).mp hmem
    rw [h.result_of_ok hready, ← hanswer]
    rfl

end Completion

/-! ### Both ways to start -/

/-- A start and its preparation alone, from the same state on. -/
structure HandsOverLast (host : Host σ) (launcher : Launcher σ) (paths : StartPaths)
    (base : Environment) (passthrough : List String) (state : σ) (prepared : Ended σ Ready)
    (started : Ended σ Unit) : Prop where
  single : started.launches.length ≤ 1
  /-- No task is called after the handover. -/
  last : ∃ before after, started.steps = before ++ after ∧
    before.filterMap Step.launch? = [] ∧ after.filterMap Step.call? = []
  /-- The launcher is called if no task fails, the files can be read and there is a command. -/
  launches_iff : started.launches.length = 1 ↔
    started.NoTaskFails ∧
    ((host.files (host.runTask .update base state).state).ReadableOrMissing paths.profile ∧
      (host.files (host.runTask .update base state).state).ReadableOrMissing
        paths.overrideFile) ∧
    ∃ env, host.snapshot paths base state = .ok env ∧ env.commandWords passthrough ≠ []
  command : ∀ command env, (command, env) ∈ started.launches →
    host.snapshot paths base state = .ok env ∧
      command = ⟨Mode.ofEnvironment env, env.commandWords passthrough⟩
  ok_iff : started.result = .ok () ↔
    ∃ command env, Step.launched command env (.ok ()) ∈ started.steps
  /-- The launcher is called in the state that the last task has left, and its answer counts. -/
  answer : ∀ command env done, Step.launched command env done ∈ started.steps →
    done = (launcher command env prepared.state).1 ∧ started.result = done.mapError .launch
  calls : prepared.taskCalls = started.taskCalls
  /-- If no task fails and the files can be read, all that is scheduled has been called. -/
  complete : ∀ env, host.snapshot paths base state = .ok env → started.NoTaskFails →
    started.Completes (host.schedule paths base state)
  ready_iff : ∀ command env, prepared.result = .ok ⟨command, env⟩ ↔
    started.launches = [(command, env)]
  error : ∀ error, prepared.result = .error error → started.result = .error error
  empty_iff : ∀ mode, prepared.result = .error (.launch (.emptyCommand mode)) ↔
    prepared.NoTaskFails ∧
    ∃ env, host.snapshot paths base state = .ok env ∧ mode = Mode.ofEnvironment env ∧
      env.commandWords passthrough = []
  production : prepared.result = .error (.launch (.emptyCommand .production)) →
    ∃ initialization ∈ [[], Task.firstStart], prepared.Completes ([.update, .waitForDatabases,
      .migrations, .prepare] ++ initialization ++
        [.statics, .waitForGeoServer, .geoServerFixture, .updateAdmin])

lemma Host.snapshot_readable {host : Host σ} {paths : StartPaths} {base env : Environment}
    {state : σ} (h : host.snapshot paths base state = .ok env) :
    (host.files (host.runTask .update base state).state).ReadableOrMissing paths.profile ∧
      (host.files (host.runTask .update base state).state).ReadableOrMissing
        paths.overrideFile := by
  rw [host.snapshot_eq] at h
  exact host.readEnvironment_ok paths base h

/-- Whatever its tasks and its launcher do, a start hands over at most once and last, and agrees
with its preparation alone. -/
theorem starts_handOverLast (host : Host σ) (launcher : Launcher σ) (paths : StartPaths)
    (base : Environment) (passthrough : List String) (state : σ) :
    HandsOverLast host launcher paths base passthrough state
      (prepareSite host paths base passthrough state)
      (startSite host launcher paths base passthrough state) := by
  obtain ⟨progress, result, hcourse, hprepare, hhandover⟩ :=
    startSite_course host launcher paths base passthrough state
  have hnone := hcourse.launch?_eq_nil
  have houtline := hcourse.outline
  have hcompletion := hhandover.completion
  rw [hprepare]
  generalize startSite host launcher paths base passthrough state = started at hcompletion
  have hcalls := hcompletion.calls_eq
  have hlaunches := hcompletion.launches_eq hnone
  have hlaunched := hcompletion.launched_iff hnone
  constructor
  case single =>
    rw [hlaunches]
    cases result <;> simp
  case last =>
    obtain ⟨after, hsteps, hafter⟩ := hcompletion.splits
    exact ⟨progress.steps, after, hsteps, hnone, hafter⟩
  case launches_iff =>
    rw [hlaunches, Ended.NoTaskFails, ← hcalls]
    constructor
    · intro hone
      cases result with
      | error error => contradiction
      | ok ready =>
        obtain ⟨hok, env, hsnapshot, hwords, -⟩ := (houtline.ready_iff ready).mp rfl
        exact ⟨hok, Host.snapshot_readable hsnapshot, env, hsnapshot, hwords⟩
    · rintro ⟨hok, -, env, hsnapshot, hwords⟩
      have hready := (houtline.ready_iff _).mpr ⟨hok, env, hsnapshot, hwords, rfl⟩
      rw [hready]
      rfl
  case command =>
    intro command env hmem
    rw [hlaunches] at hmem
    cases result with
    | error error => contradiction
    | ok ready =>
      obtain ⟨-, used, hsnapshot, -, rfl⟩ := (houtline.ready_iff ready).mp rfl
      obtain ⟨rfl, rfl⟩ := Prod.mk.inj (List.mem_singleton.mp hmem)
      exact ⟨hsnapshot, rfl⟩
  case ok_iff => exact hcompletion.ok_iff hnone
  case answer =>
    intro command env done hmem
    obtain ⟨hready, hanswer⟩ := (hlaunched _ _ _).mp hmem
    exact ⟨hanswer, by rw [hcompletion.result_of_ok hready, hanswer]⟩
  case calls => exact hcalls
  case complete =>
    intro env hsnapshot hok
    rw [Ended.NoTaskFails, ← hcalls] at hok
    rw [Ended.Completes, ← hcalls]
    exact (houtline.completes hok hsnapshot).2
  case ready_iff =>
    intro command env
    rw [hlaunches]
    cases result with
    | error error => simp
    | ok ready =>
      obtain ⟨words, used⟩ := ready
      simp
  case error => exact fun error herror => hcompletion.error_eq herror
  case empty_iff => exact houtline.empty_iff
  case production =>
    intro hempty
    obtain ⟨hok, env, hsnapshot, hmode, -⟩ := (houtline.empty_iff _).mp hempty
    have hcompletes := (houtline.completes hok hsnapshot).2
    obtain ⟨initialization, hmem, hschedule⟩ :=
      Host.schedule_of_production hsnapshot hmode.symm
    rw [hschedule] at hcompletes
    exact ⟨initialization, hmem, hcompletes⟩

end SiteBoot
