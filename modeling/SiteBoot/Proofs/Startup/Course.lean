import Mathlib
import SiteBoot.Startup.Sequence
/-!
# The course of a start

A start calls tasks one after the other, reads the environment files after the first of them, and
stops at the first failure. `Host.follow` calls a list of tasks, `Host.readEnvironment` reads both
files, and `Course` lists what a start can come to. `Start.sequence_course` says that there is
nothing else, so that every statement about starts is a case analysis on their courses.
-/

namespace SiteBoot

variable {σ : Type}

/-- What calling some tasks came to: the calls, the state after them, and the failure that ended
them, if one did. -/
structure Stretch (σ : Type) where
  calls : List TaskCall
  state : σ
  result : Except TaskFailure Unit

/-- The tasks called in an environment, up to the first that fails. -/
def Host.follow (host : Host σ) (env : Environment) : List Task → σ → Stretch σ
  | [], state => ⟨[], state, .ok ()⟩
  | task :: rest, state =>
    let run := host.runTask task env state
    let call : TaskCall := ⟨task, env, run.events, run.result⟩
    match run.result with
    | .ok () =>
      let later := host.follow env rest run.state
      ⟨call :: later.calls, later.state, later.result⟩
    | .error failure => ⟨[call], run.state, .error failure⟩

lemma Host.follow_append (host : Host σ) (env : Environment) (first rest : List Task) (state : σ) :
    host.follow env (first ++ rest) state =
      match host.follow env first state with
      | ⟨calls, next, .ok ()⟩ =>
        let later := host.follow env rest next
        ⟨calls ++ later.calls, later.state, later.result⟩
      | ⟨calls, next, .error failure⟩ => ⟨calls, next, .error failure⟩ := by
  induction first generalizing state with
  | nil => rfl
  | cons task first ih =>
    rw [List.cons_append, Host.follow, Host.follow]
    cases (host.runTask task env state).result with
    | error failure => rfl
    | ok done =>
      dsimp only
      rw [ih]
      rcases host.follow env first (host.runTask task env state).state with
        ⟨calls, next, failure | done⟩
      · rfl
      · rfl

/-- The steps of a start in which a task is called: the reports around the call and the call. -/
def TaskCall.steps (call : TaskCall) : List Step :=
  .logged (.taskRunning call.task) :: .called call ::
    match call.result with
    | .ok () => [.logged (.taskDone call.task)]
    | .error _ => []

/-- The environment after both environment files, and what is reported on the way. -/
def Host.readEnvironment (host : Host σ) (paths : StartPaths) (base : Environment) (state : σ) :
    Except EnvFileError Environment × List Event :=
  match base.overlayFile host.process (host.files state) paths.profile with
  | (.error error, events) => (.error error, events)
  | (.ok env, events) =>
    let (result, more) := env.overlayFile host.process (host.files state) paths.overrideFile
    (result, events ++ more)

def Environment.terminalCommand (env : Environment) (passthrough : List String) :
    Except LaunchError Command :=
  match Mode.ofEnvironment env with
  | .development => Command.ofWords .development passthrough
  | .worker => Command.ofLine .worker (env.value "CELERY_CMD")
  | .production => Command.ofLine .production (env.value "UWSGI_CMD")

/-- What a start comes to when all its tasks have succeeded. -/
def Environment.ready (env : Environment) (passthrough : List String) : Except StartError Ready :=
  match env.terminalCommand passthrough with
  | .ok command => .ok ⟨command, env⟩
  | .error error => .error (.launch error)

def Environment.variableReports (env : Environment) : List Event :=
  reportedVariables.map fun name => .variableReported name (env.value name)

namespace Host

variable (host : Host σ)

def lockReport (paths : StartPaths) (env : Environment) (state : σ) : Event :=
  if env.isFirstStart (host.files state) paths.lockFile then .firstStart paths.lockFile
  else .alreadyInitialized paths.lockFile

/-- The tasks of a production start once `prepare` has returned in a state. -/
def tasksAfterPrepare (paths : StartPaths) (env : Environment) (state : σ) : List Task :=
  (if env.isFirstStart (host.files state) paths.lockFile then Task.firstStart else []) ++
    Task.productionSuffix

end Host

def openingSteps (first : List TaskCall) (events : List Event) (env : Environment) : List Step :=
  first.flatMap TaskCall.steps ++ events.map .logged ++ env.variableReports.map .logged

/-- The steps of a production start in which `prepare` has succeeded. -/
def productionSteps (first : List TaskCall) (events : List Event) (env : Environment)
    (second third : List TaskCall) (lockReport : Event) (fourth : List TaskCall) : List Step :=
  openingSteps first events env ++ second.flatMap TaskCall.steps ++
    [.logged (.modeSelected (.modeSelected .production))] ++ third.flatMap TaskCall.steps ++
    [.logged lockReport] ++ fourth.flatMap TaskCall.steps

section Course

variable (host : Host σ) (paths : StartPaths) (base : Environment) (passthrough : List String)
  (state : σ)

/-- What a start can come to before it hands over, from a state on. -/
inductive Course : Progress σ → Except StartError Ready → Prop
  | updateFails {first s₁ failure}
      (update : host.follow base Task.beforeEnvironment state = ⟨first, s₁, .error failure⟩) :
      Course ⟨s₁, .tasksRunning, first.flatMap TaskCall.steps⟩ (.error (.task failure))
  | filesUnreadable {first s₁ error events}
      (update : host.follow base Task.beforeEnvironment state = ⟨first, s₁, .ok ()⟩)
      (files : host.readEnvironment paths base s₁ = (.error error, events)) :
      Course ⟨s₁, .tasksRunning, first.flatMap TaskCall.steps ++ events.map .logged⟩
        (.error (.environmentFile error))
  | commonTaskFails {first s₁ env events second s₂ failure}
      (update : host.follow base Task.beforeEnvironment state = ⟨first, s₁, .ok ()⟩)
      (files : host.readEnvironment paths base s₁ = (.ok env, events))
      (common : host.follow env Task.afterEnvironment s₁ = ⟨second, s₂, .error failure⟩) :
      Course ⟨s₂, .tasksRunning, openingSteps first events env ++ second.flatMap TaskCall.steps⟩
        (.error (.task failure))
  | unprepared {first s₁ env events second s₂}
      (update : host.follow base Task.beforeEnvironment state = ⟨first, s₁, .ok ()⟩)
      (files : host.readEnvironment paths base s₁ = (.ok env, events))
      (common : host.follow env Task.afterEnvironment s₁ = ⟨second, s₂, .ok ()⟩)
      (mode : Mode.ofEnvironment env ≠ .production) :
      Course ⟨s₂, .modeSelected (Mode.ofEnvironment env),
          openingSteps first events env ++ second.flatMap TaskCall.steps ++
            [.logged (.modeSelected (.modeSelected (Mode.ofEnvironment env)))]⟩
        (env.ready passthrough)
  | prepareFails {first s₁ env events second s₂ third s₃ failure}
      (update : host.follow base Task.beforeEnvironment state = ⟨first, s₁, .ok ()⟩)
      (files : host.readEnvironment paths base s₁ = (.ok env, events))
      (common : host.follow env Task.afterEnvironment s₁ = ⟨second, s₂, .ok ()⟩)
      (mode : Mode.ofEnvironment env = .production)
      (prepare : host.follow env [.prepare] s₂ = ⟨third, s₃, .error failure⟩) :
      Course ⟨s₃, .productionPrep,
          openingSteps first events env ++ second.flatMap TaskCall.steps ++
            [.logged (.modeSelected (.modeSelected .production))] ++
            third.flatMap TaskCall.steps⟩
        (.error (.task failure))
  | laterTaskFails {first s₁ env events second s₂ third s₃ fourth s₄ failure}
      (update : host.follow base Task.beforeEnvironment state = ⟨first, s₁, .ok ()⟩)
      (files : host.readEnvironment paths base s₁ = (.ok env, events))
      (common : host.follow env Task.afterEnvironment s₁ = ⟨second, s₂, .ok ()⟩)
      (mode : Mode.ofEnvironment env = .production)
      (prepare : host.follow env [.prepare] s₂ = ⟨third, s₃, .ok ()⟩)
      (rest : host.follow env (host.tasksAfterPrepare paths env s₃) s₃ =
        ⟨fourth, s₄, .error failure⟩) :
      Course ⟨s₄, .productionPrep, productionSteps first events env second third
          (host.lockReport paths env s₃) fourth⟩
        (.error (.task failure))
  | prepared {first s₁ env events second s₂ third s₃ fourth s₄}
      (update : host.follow base Task.beforeEnvironment state = ⟨first, s₁, .ok ()⟩)
      (files : host.readEnvironment paths base s₁ = (.ok env, events))
      (common : host.follow env Task.afterEnvironment s₁ = ⟨second, s₂, .ok ()⟩)
      (mode : Mode.ofEnvironment env = .production)
      (prepare : host.follow env [.prepare] s₂ = ⟨third, s₃, .ok ()⟩)
      (rest : host.follow env (host.tasksAfterPrepare paths env s₃) s₃ = ⟨fourth, s₄, .ok ()⟩) :
      Course ⟨s₄, .productionPrep, productionSteps first events env second third
          (host.lockReport paths env s₃) fourth⟩
        (env.ready passthrough)

end Course

namespace Start

def ofTasks (result : Except TaskFailure Unit) : Except StartError Unit :=
  match result with
  | .ok () => .ok ()
  | .error failure => .error (.task failure)

lemma bind_run {α β : Type} (first : Start σ α) (next : α → Start σ β) (progress : Progress σ) :
    (first >>= next).run progress =
      match first.run progress with
      | (.ok value, later) => (next value).run later
      | (.error error, later) => (.error error, later) := by
  change StateT.run (ExceptT.run (first >>= next)) progress = _
  rw [ExceptT.run_bind, StateT.run_bind]
  change _ = match StateT.run (ExceptT.run first) progress with
    | (.ok value, later) => (next value).run later
    | (.error error, later) => (.error error, later)
  rcases StateT.run (ExceptT.run first) progress with ⟨result | result, later⟩
  · rfl
  · rfl

@[simp] lemma report_run (event : Event) (progress : Progress σ) :
    (report event).run progress =
      (.ok (), ⟨progress.state, progress.phase, progress.steps ++ [.logged event]⟩) := rfl

@[simp] lemma enter_run (phase : Phase) (progress : Progress σ) :
    (enter phase).run progress = (.ok (), ⟨progress.state, phase, progress.steps⟩) := rfl

@[simp] lemma get_run (progress : Progress σ) :
    (get : Start σ (Progress σ)).run progress = (.ok progress, progress) := rfl

@[simp] lemma set_run (next progress : Progress σ) :
    (set next : Start σ PUnit).run progress = (.ok (), next) := rfl

@[simp] lemma pure_run {α : Type} (value : α) (progress : Progress σ) :
    (pure value : Start σ α).run progress = (.ok value, progress) := rfl

@[simp] lemma throw_run {α : Type} (error : StartError) (progress : Progress σ) :
    (throw error : Start σ α).run progress = (.error error, progress) := rfl

lemma runTask_run (host : Host σ) (env : Environment) (task : Task) (progress : Progress σ) :
    (runTask host env task).run progress =
      let stretch := host.follow env [task] progress.state
      (ofTasks stretch.result, ⟨stretch.state, progress.phase,
        progress.steps ++ stretch.calls.flatMap TaskCall.steps⟩) := by
  cases h : (host.runTask task env progress.state).result with
  | ok value => simp [runTask, bind_run, Host.follow, TaskCall.steps, ofTasks, h]
  | error failure => simp [runTask, bind_run, Host.follow, TaskCall.steps, ofTasks, h]

lemma runTasks_run (host : Host σ) (env : Environment) (tasks : List Task)
    (progress : Progress σ) :
    (runTasks host env tasks).run progress =
      let stretch := host.follow env tasks progress.state
      (ofTasks stretch.result, ⟨stretch.state, progress.phase,
        progress.steps ++ stretch.calls.flatMap TaskCall.steps⟩) := by
  induction tasks generalizing progress with
  | nil => simp [runTasks, Host.follow, ofTasks]
  | cons task rest ih =>
    rw [runTasks, bind_run, runTask_run]
    cases h : (host.runTask task env progress.state).result with
    | ok value => simp [Host.follow, ofTasks, h, ih]
    | error failure => simp [Host.follow, ofTasks, h]

lemma reportVariables_run (env : Environment) (names : List String) (progress : Progress σ) :
    (reportVariables env names).run progress =
      (.ok (), ⟨progress.state, progress.phase, progress.steps ++
        (names.map fun name => Event.variableReported name (env.value name)).map .logged⟩) := by
  induction names generalizing progress with
  | nil => simp [reportVariables]
  | cons name rest ih => simp [reportVariables, bind_run, ih]

lemma overlay_run (host : Host σ) (env : Environment) (path : RawText) (progress : Progress σ) :
    (overlay host env path).run progress =
      match env.overlayFile host.process (host.files progress.state) path with
      | (.ok env, events) => (.ok env, ⟨progress.state, progress.phase,
          progress.steps ++ events.map .logged⟩)
      | (.error error, events) => (.error (.environmentFile error),
          ⟨progress.state, progress.phase, progress.steps ++ events.map .logged⟩) := by
  rcases h : env.overlayFile host.process (host.files progress.state) path with
    ⟨error | later, events⟩
  · simp [overlay, bind_run, h]
  · simp only [overlay, bind_run, get_run, h, set_run, pure_run]

lemma requireCommand_run (command : Except LaunchError Command) (progress : Progress σ) :
    (requireCommand command).run progress =
      match command with
      | .ok command => (.ok command, progress)
      | .error error => (.error (.launch error), progress) := by
  cases command with
  | ok command => rfl
  | error error => rfl

variable (host : Host σ) (paths : StartPaths) (base : Environment)

lemma overlays_run (progress : Progress σ) :
    (do let env ← overlay host base paths.profile
        overlay host env paths.overrideFile : Start σ Environment).run progress =
      match host.readEnvironment paths base progress.state with
      | (.ok env, events) => (.ok env, ⟨progress.state, progress.phase,
          progress.steps ++ events.map .logged⟩)
      | (.error error, events) => (.error (.environmentFile error),
          ⟨progress.state, progress.phase, progress.steps ++ events.map .logged⟩) := by
  rw [bind_run, overlay_run, Host.readEnvironment]
  rcases base.overlayFile host.process (host.files progress.state) paths.profile with
    ⟨error | env, events⟩
  · rfl
  · simp only [overlay_run]
    rcases env.overlayFile host.process (host.files progress.state) paths.overrideFile with
      ⟨error | later, more⟩
    · simp
    · simp

lemma prepareProduction_run (env : Environment) (progress : Progress σ) :
    (prepareProduction host env paths.lockFile).run progress =
      match host.follow env [.prepare] progress.state with
      | ⟨calls, state, .error failure⟩ => (.error (.task failure),
          ⟨state, progress.phase, progress.steps ++ calls.flatMap TaskCall.steps⟩)
      | ⟨calls, state, .ok ()⟩ =>
        let later := host.follow env (host.tasksAfterPrepare paths env state) state
        (ofTasks later.result, ⟨later.state, progress.phase,
          progress.steps ++ calls.flatMap TaskCall.steps ++
            [.logged (host.lockReport paths env state)] ++
            later.calls.flatMap TaskCall.steps⟩) := by
  rw [prepareProduction, bind_run, runTask_run]
  rcases host.follow env [.prepare] progress.state with ⟨calls, state, failure | done⟩
  · rfl
  · simp only [ofTasks, bind_run, get_run]
    by_cases hfirst : env.isFirstStart (host.files state) paths.lockFile
    · simp only [Host.tasksAfterPrepare, Host.lockReport, hfirst, if_true, bind_run, report_run,
        runTasks_run, host.follow_append]
      rcases host.follow env Task.firstStart state with ⟨more, next, failure | done⟩
      · simp [ofTasks]
      · simp [ofTasks]
    · have hfirst : env.isFirstStart (host.files state) paths.lockFile = false := by
        simpa using hfirst
      simp [Host.tasksAfterPrepare, Host.lockReport, hfirst, bind_run, runTasks_run, ofTasks]

lemma ready_run {env : Environment} (passthrough : List String)
    {command : Except LaunchError Command} (h : env.terminalCommand passthrough = command)
    (progress : Progress σ) :
    (do return ⟨← requireCommand command, env⟩ : Start σ Ready).run progress =
      (env.ready passthrough, progress) := by
  rw [bind_run, requireCommand_run, Environment.ready, h]
  cases command with
  | ok command => rfl
  | error error => rfl

/-- Every start runs one of the courses. -/
theorem sequence_course (passthrough : List String) (state : σ) :
    let ended := (sequence host paths base passthrough).run ⟨state, .init, []⟩
    Course host paths base passthrough state ended.2 ended.1 := by
  -- a stretch of tasks that fails ends its own course, any other hands its state on
  rw [sequence, bind_run, enter_run]
  dsimp only
  rw [bind_run, runTasks_run]
  rcases hu : host.follow base Task.beforeEnvironment state with ⟨first, s₁, failure | done⟩
  · exact .updateFails hu
  dsimp only [ofTasks]
  rw [← bind_assoc, bind_run, overlays_run]
  rcases he : host.readEnvironment paths base s₁ with ⟨error | env, events⟩
  · exact .filesUnreadable hu he
  dsimp only
  rw [bind_run, reportVariables_run]
  dsimp only
  rw [bind_run, runTasks_run]
  rcases hw : host.follow env Task.afterEnvironment s₁ with ⟨second, s₂, failure | done⟩
  · exact .commonTaskFails hu he hw
  dsimp only [ofTasks]
  rw [bind_run, enter_run]
  dsimp only
  rw [bind_run, report_run]
  dsimp only
  cases hm : Mode.ofEnvironment env with
  | development =>
    dsimp only
    rw [ready_run passthrough (by rw [Environment.terminalCommand, hm])]
    have h : Course host paths base passthrough state _ _ :=
      .unprepared hu he hw (by rw [hm]; decide)
    rw [hm] at h
    exact h
  | worker =>
    dsimp only
    rw [ready_run passthrough (by rw [Environment.terminalCommand, hm])]
    have h : Course host paths base passthrough state _ _ :=
      .unprepared hu he hw (by rw [hm]; decide)
    rw [hm] at h
    exact h
  | production =>
    dsimp only
    rw [bind_run, enter_run]
    dsimp only
    rw [bind_run, prepareProduction_run]
    rcases hp : host.follow env [.prepare] s₂ with ⟨third, s₃, failure | done⟩
    · exact .prepareFails hu he hw hm hp
    dsimp only
    rcases hq : host.follow env (host.tasksAfterPrepare paths env s₃) s₃ with
      ⟨fourth, s₄, failure | done⟩
    · exact .laterTaskFails hu he hw hm hp hq
    dsimp only [ofTasks]
    rw [ready_run passthrough (by rw [Environment.terminalCommand, hm])]
    exact .prepared hu he hw hm hp hq

end Start

/-- What a start adds to its course: the handover, or the report that it was given up. -/
inductive Handover (launcher : Launcher σ) :
    Progress σ → Except StartError Ready → Ended σ Unit → Prop
  | aborted (progress : Progress σ) (error : StartError) :
      Handover launcher progress (.error error)
        ⟨.error error, progress.steps ++ [.logged (.startupAborted .failed progress.phase
          error.exitCode error.message)], progress.state⟩
  | launched (progress : Progress σ) (ready : Ready) {next}
      (launch : launcher ready.command ready.env progress.state = (.ok (), next)) :
      Handover launcher progress (.ok ready)
        ⟨.ok (), progress.steps ++ [.logged (.launching .exec ready.command),
          .launched ready.command ready.env (.ok ())], next⟩
  | launchFails (progress : Progress σ) (ready : Ready) {error next}
      (launch : launcher ready.command ready.env progress.state = (.error error, next)) :
      Handover launcher progress (.ok ready)
        ⟨.error (.launch error), progress.steps ++ [.logged (.launching .exec ready.command),
          .launched ready.command ready.env (.error error),
          .logged (.startupAborted .failed .exec (StartError.launch error).exitCode
            (StartError.launch error).message)], next⟩

lemma Start.launch_run (launcher : Launcher σ) (ready : Ready) (progress : Progress σ) :
    (Start.launch launcher ready).run progress =
      let (result, next) := launcher ready.command ready.env progress.state
      (result.mapError .launch, ⟨next, .exec, progress.steps ++
        [.logged (.launching .exec ready.command),
          .launched ready.command ready.env result]⟩) := by
  rw [Start.launch, bind_run, enter_run]
  dsimp only
  rw [bind_run, report_run]
  dsimp only
  rw [bind_run, get_run]
  dsimp only
  rcases launcher ready.command ready.env progress.state with ⟨error | done, next⟩
  · simp [bind_run, Except.mapError]
  · simp [Except.mapError]

/-- A start and its rehearsal run the same course; the start then hands over or is given up. -/
theorem startSite_course (host : Host σ) (launcher : Launcher σ) (paths : StartPaths)
    (base : Environment) (passthrough : List String) (state : σ) :
    ∃ progress result, Course host paths base passthrough state progress result ∧
      prepareSite host paths base passthrough state =
        ⟨result, progress.steps, progress.state⟩ ∧
      Handover launcher progress result
        (startSite host launcher paths base passthrough state) := by
  have hcourse := Start.sequence_course host paths base passthrough state
  rcases hrun : (Start.sequence host paths base passthrough).run ⟨state, .init, []⟩ with
    ⟨result, progress⟩
  rw [hrun] at hcourse
  refine ⟨progress, result, hcourse, ?_, ?_⟩
  · rw [prepareSite, hrun]
  · rw [startSite]
    dsimp only
    rw [Start.bind_run, hrun]
    cases result with
    | error error => exact .aborted progress error
    | ok ready =>
      dsimp only
      rw [Start.launch_run]
      rcases hl : launcher ready.command ready.env progress.state with ⟨error | done, next⟩
      · have h := Handover.launchFails progress ready hl
        simpa [Except.mapError] using h
      · exact .launched progress ready hl

end SiteBoot
