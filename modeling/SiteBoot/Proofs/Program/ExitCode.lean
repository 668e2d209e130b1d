import SiteBoot.Program
import SiteBoot.Proofs.Startup.Log
/-!
# The exit code of a failed run

A run of the program fails by its settings, by the child of a task, by an environment file or by
its terminal command. `FailsWith` says of each of these causes which exit code is to tell of it,
in terms of what the system has answered; the run ends with that code, and fails for no other
cause. On the way from the end of a child to the code of the program no number is cut off.
-/

namespace SiteBoot

variable {κ σ : Type}

/-! ### Children -/

/-- The exit code by which shells tell of the end of a child. -/
def shellCode : Except Failure ChildStatus → Nat
  | .ok (.exited code) => code.toNat
  | .ok (.signaled signal _) => 128 + signal.number
  | .ok .other => 1
  | .error _ => 127

example : shellCode (.ok (.signaled ⟨9, by decide, by decide⟩ true)) = 137 := rfl

lemma shellCode_le (child : Except Failure ChildStatus) : shellCode child ≤ 255 := by
  match child with
  | .ok (.exited code) => exact Nat.le_of_lt_succ code.toNat_lt
  | .ok (.signaled signal _) =>
    have hlt := signal.lt
    rw [shellCode]
    omega
  | .ok .other => decide
  | .error _ => exact (by decide : 127 ≤ 255)

lemma shellCode_pos {child : Except Failure ChildStatus} (h : child ≠ .ok (.exited 0)) :
    0 < shellCode child := by
  match child with
  | .ok (.exited code) =>
    refine Nat.pos_of_ne_zero fun hzero => h ?_
    rw [shellCode] at hzero
    rw [UInt8.toNat_inj.mp (hzero.trans UInt8.toNat_zero.symm)]
  | .ok (.signaled signal _) => exact Nat.add_pos_left (by decide) _
  | .ok .other => decide
  | .error _ => exact (by decide : 0 < 127)

lemma toInt_natCast {number : Nat} (h : number < 256) : ((number : Int) : Int32).toInt = number :=
  Int32.toInt_ofInt_of_le (by omega) (by omega)

lemma toInt_add_signal {signal : Int32} (hpos : 0 < signal.toInt) (hlt : signal.toInt < 127) :
    (128 + signal).toInt = 128 + signal.toInt := by
  have h128 : (128 : Int32).toInt = 128 := rfl
  rw [Int32.toInt_add, h128]
  exact Int.bmod_eq_of_le (by omega) (by omega)

lemma Signal.toInt_number (signal : Signal) :
    ((signal.number : Int) : Int32).toInt = signal.number := by
  have hlt := signal.lt
  exact toInt_natCast (by omega)

lemma ChildStatus.classify_error {status : ChildStatus} {task : Task} {failure : TaskFailure}
    (h : status.classify task = .error failure) :
    failure.status.exitCode.toInt = shellCode (.ok status) := by
  cases status with
  | exited code =>
    by_cases hcode : code = 0
    · rw [hcode] at h
      contradiction
    · rw [classify, failure?, if_neg hcode] at h
      obtain rfl := Except.error.inj h
      exact toInt_natCast code.toNat_lt
  | signaled signal dumpedCore =>
    obtain rfl := Except.error.inj h
    have hnumber := signal.toInt_number
    have hpos := signal.pos
    have hlt := signal.lt
    rw [TaskStatus.exitCode, toInt_add_signal (by omega) (by omega), hnumber]
    rfl
  | other =>
    obtain rfl := Except.error.inj h
    rfl

lemma ChildStatus.classify_signaled {status : ChildStatus} {task : Task} {failure : TaskFailure}
    {number : Int32} (h : status.classify task = .error failure)
    (hsignal : failure.status = .signaled number) : 0 < number.toInt ∧ number.toInt < 127 := by
  cases status with
  | exited code =>
    by_cases hcode : code = 0
    · rw [hcode] at h
      contradiction
    · rw [classify, failure?, if_neg hcode] at h
      obtain rfl := Except.error.inj h
      contradiction
  | signaled signal dumpedCore =>
    obtain rfl := Except.error.inj h
    obtain rfl := TaskStatus.signaled.inj hsignal
    have hpos := signal.pos
    have hlt := signal.lt
    rw [signal.toInt_number]
    omega
  | other =>
    obtain rfl := Except.error.inj h
    contradiction

namespace TaskSettings

variable (settings : TaskSettings) (kernel : Kernel κ) (process : ProcessEnvironment)

def childEnd (visit : Visit (Machine κ)) : Except Failure ChildStatus :=
  let opened := settings.openOutput visit.env visit.state.files
  let outcome := kernel.spawn (settings.request visit.task visit.env) opened.targets opened.files
    visit.state.rest
  outcome.result.map ChildRun.status

lemma visit_result (visit : Visit (Machine κ)) :
    ((settings.host kernel process).visit visit).result =
      match settings.childEnd kernel visit with
      | .ok status => status.classify visit.task
      | .error failure => .error ⟨visit.task,
          .notStarted (settings.program.display ++ ": " ++ failure.message)⟩ := by
  change (settings.runTask kernel visit.task visit.env visit.state).result = _
  rw [runTask, childEnd]
  dsimp only
  cases (kernel.spawn _ _ _ _).result with
  | ok run => rfl
  | error failure => rfl

lemma visit_ok_iff (visit : Visit (Machine κ)) :
    ((settings.host kernel process).visit visit).result = .ok () ↔
      settings.childEnd kernel visit = .ok (.exited 0) := by
  rw [visit_result]
  cases settings.childEnd kernel visit with
  | ok status => rw [ChildStatus.classify_eq_ok_iff, Except.ok.injEq]
  | error failure => simp

variable {settings kernel process}

lemma visit_error {visit : Visit (Machine κ)} {failure : TaskFailure}
    (h : ((settings.host kernel process).visit visit).result = .error failure) :
    failure.status.exitCode.toInt = shellCode (settings.childEnd kernel visit) ∧
      ∀ number, failure.status = .signaled number → 0 < number.toInt ∧ number.toInt < 127 := by
  rw [visit_result] at h
  cases hend : settings.childEnd kernel visit with
  | ok status =>
    rw [hend] at h
    exact ⟨ChildStatus.classify_error h, fun number => ChildStatus.classify_signaled h⟩
  | error cause =>
    rw [hend] at h
    obtain rfl := Except.error.inj h
    exact ⟨rfl, fun number hsignal => by contradiction⟩

end TaskSettings

/-! ### What a start comes to -/

section Obstacle

variable (host : Host σ) (paths : StartPaths) (base : Environment) (passthrough : List String)
  (state : σ) (calls : List TaskCall)

/-- Why a start with these calls comes to no terminal command. -/
inductive Obstacle : StartError → Prop
  | task {call failure} (called : call ∈ calls) (failed : call.result = .error failure) :
      Obstacle (.task failure)
  | environmentFile {error : EnvFileError}
      (updated : (host.runTask .update base state).result = .ok ())
      (first : error.IsFirst (host.files (host.runTask .update base state).state) paths) :
      Obstacle (.environmentFile error)
  | emptyCommand {env} (succeed : ∀ call ∈ calls, call.result = .ok ())
      (snapshot : host.snapshot paths base state = .ok env)
      (empty : env.commandWords passthrough = []) :
      Obstacle (.launch (.emptyCommand (Mode.ofEnvironment env)))

end Obstacle

section Outline

variable {host : Host σ} {paths : StartPaths} {base env : Environment} {passthrough : List String}
  {state next : σ} {calls : List TaskCall} {result : Except StartError Ready}

lemma Outline.obstacle {error : StartError}
    (h : Outline host paths base passthrough state calls next (.error error)) :
    Obstacle host paths base passthrough state calls error := by
  generalize hresult : Except.error error = result at h
  cases h with
  | updateFails update =>
    obtain rfl := Except.error.inj hresult
    obtain ⟨call, hcall, hfailed⟩ := Host.follow_fails update
    exact .task hcall hfailed
  | filesUnreadable update files =>
    obtain rfl := Except.error.inj hresult
    obtain ⟨-, rfl, hupdate⟩ := Host.follow_singleton_inv update
    exact .environmentFile hupdate.symm
      (host.readEnvironment_error paths base (congrArg Prod.fst files))
  | @follows _ _ env _ _ _ outcome update files rest =>
    cases outcome with
    | error failure =>
      obtain rfl := Except.error.inj hresult
      obtain ⟨call, hcall, hfailed⟩ := Host.follow_fails rest
      exact .task (List.mem_append_right _ hcall) hfailed
    | ok done =>
      have hready := hresult.symm
      rw [Environment.outcome_ok, env.ready_eq] at hready
      obtain ⟨-, rfl, -⟩ := Host.follow_singleton_inv update
      split at hready
      · rename_i hempty
        obtain rfl := Except.error.inj hready
        have hsnapshot : host.snapshot paths base state = .ok env := by
          rw [host.snapshot_eq, files]
        exact .emptyCommand (List.forall_mem_append.mpr
          ⟨Host.follow_succeeds update, Host.follow_succeeds rest⟩) hsnapshot hempty
      · contradiction

end Outline

/-! ### Handing over -/

lemma LaunchError.exitCode_notExecuted (program : String) (failure : Failure) :
    (notExecuted program failure).exitCode.toInt =
      ((if failure = .notFound then 127 else 126 : Nat) : Int) := by
  by_cases h : failure = .notFound
  · rw [h]
    rfl
  · rw [if_neg h, exitCode]
    · rfl
    · intro other hfound
      exact h (LaunchError.notExecuted.inj hfound).2

lemma Kernel.launcher_result (kernel : Kernel κ) {command : Command} (hwords : command.words ≠ [])
    (env : Environment) (machine : Machine κ) :
    (kernel.launcher command env machine).1 =
      match (kernel.replace (command.request env) machine.files machine.rest).result with
      | .ok _ => .ok ()
      | .error failure => .error (.notExecuted command.program failure) := by
  rw [launcher, List.isEmpty_eq_false_iff.mpr hwords, if_neg Bool.false_ne_true]
  dsimp only
  cases (kernel.replace (command.request env) machine.files machine.rest).result with
  | ok run => rfl
  | error failure => rfl

/-! ### A run with settings -/

namespace Settings

section Causes

variable (settings : Settings) (kernel : Kernel κ) (process : ProcessEnvironment)
  (command : List String) (machine : Machine κ)

def host : Host (Machine κ) := settings.tasks.host kernel process

def start : Ended (Machine κ) Unit :=
  startSite (settings.host kernel process) kernel.launcher settings.paths process.snapshot command
    machine

/-- What the start of a run comes to before it hands over. -/
def preparation : Ended (Machine κ) Ready :=
  prepareSite (settings.host kernel process) settings.paths process.snapshot command machine

/-- How the children of the tasks of a run end, in their order. -/
def childEnds : List (Except Failure ChildStatus) :=
  ((settings.host kernel process).startVisits settings.paths process.snapshot machine).map
    (settings.tasks.childEnd kernel)

def snapshot : Except EnvFileError Environment :=
  (settings.host kernel process).snapshot settings.paths process.snapshot machine

/-- What fails in a run with settings, with the exit code that is to tell of it. -/
inductive FailsWith : Nat → Prop
  | child {child} (ends : child ∈ settings.childEnds kernel process machine)
      (failed : child ≠ .ok (.exited 0)) : FailsWith (shellCode child)
  | environmentFile {error : EnvFileError}
      (updated : settings.tasks.childEnd kernel ⟨.update, process.snapshot, machine⟩ =
        .ok (.exited 0))
      (first : error.IsFirst
        (settings.tasks.runTask kernel .update process.snapshot machine).state.files
        settings.paths) :
      FailsWith 1
  | emptyCommand {env}
      (children : ∀ child ∈ settings.childEnds kernel process machine, child = .ok (.exited 0))
      (environment : settings.snapshot kernel process machine = .ok env)
      (empty : env.commandWords command = []) : FailsWith 126
  | notExecuted {env failure}
      (children : ∀ child ∈ settings.childEnds kernel process machine, child = .ok (.exited 0))
      (environment : settings.snapshot kernel process machine = .ok env)
      (words : env.commandWords command ≠ [])
      (refused :
        let after := (settings.preparation kernel process command machine).state
        let terminal : Command := ⟨Mode.ofEnvironment env, env.commandWords command⟩
        (kernel.replace (terminal.request env) after.files after.rest).result = .error failure) :
      FailsWith (if failure = .notFound then 127 else 126)

end Causes

variable {settings : Settings} {kernel : Kernel κ} {process : ProcessEnvironment}
  {command : List String} {machine : Machine κ}

lemma FailsWith.bounds {code : Nat} (h : settings.FailsWith kernel process command machine code) :
    0 < code ∧ code ≤ 255 := by
  cases h with
  | child ends failed => exact ⟨shellCode_pos failed, shellCode_le _⟩
  | environmentFile updated first => decide
  | emptyCommand children environment empty => decide
  | notExecuted children environment words refused =>
    split
    · decide
    · decide

variable (settings kernel process command machine)

lemma outline_start :
    let prepared := settings.preparation kernel process command machine
    let started := settings.start kernel process command machine
    Outline (settings.host kernel process) settings.paths process.snapshot command machine
        started.taskCalls prepared.state prepared.result ∧
      Completion kernel.launcher prepared started := by
  obtain ⟨progress, result, hcourse, hprepare, hhandover⟩ :=
    startSite_course (settings.host kernel process) kernel.launcher settings.paths
      process.snapshot command machine
  have houtline := hcourse.outline
  have hcompletion := hhandover.completion
  rw [← hhandover.taskCalls] at houtline
  rw [preparation, start, hprepare]
  exact ⟨houtline, hcompletion⟩

lemma childEnds_eq :
    settings.childEnds kernel process machine =
      ((settings.host kernel process).startVisits settings.paths process.snapshot machine).map
        (settings.tasks.childEnd kernel) := rfl

lemma taskCalls_eq :
    (settings.start kernel process command machine).taskCalls =
      ((settings.host kernel process).startVisits settings.paths process.snapshot machine).map
        (settings.host kernel process).recorded :=
  (settings.outline_start kernel process command machine).1.map_startVisits.symm

lemma succeed_iff :
    (∀ call ∈ (settings.start kernel process command machine).taskCalls, call.result = .ok ()) ↔
      ∀ child ∈ settings.childEnds kernel process machine, child = .ok (.exited 0) := by
  rw [taskCalls_eq, childEnds_eq, List.forall_mem_map, List.forall_mem_map]
  exact forall₂_congr fun visit _ => settings.tasks.visit_ok_iff kernel process visit

variable {settings kernel process command machine}

lemma exists_child {call : TaskCall} {failure : TaskFailure}
    (hcall : call ∈ (settings.start kernel process command machine).taskCalls)
    (hfailed : call.result = .error failure) :
    (∃ child ∈ settings.childEnds kernel process machine, child ≠ .ok (.exited 0)) ∧
      ∀ number, failure.status = .signaled number → 0 < number.toInt ∧ number.toInt < 127 := by
  rw [taskCalls_eq] at hcall
  obtain ⟨visit, hvisit, rfl⟩ := List.mem_map.mp hcall
  refine ⟨⟨_, List.mem_map_of_mem hvisit, fun hok => ?_⟩, (TaskSettings.visit_error hfailed).2⟩
  have hsucceeds := (settings.tasks.visit_ok_iff kernel process visit).mpr hok
  exact nomatch hfailed.symm.trans hsucceeds

/-- The first child that does anything but exit with code 0 is the last one, and its end is what
the start fails for. -/
lemma childEnds_split (command : List String) {before after : List (Except Failure ChildStatus)}
    {child : Except Failure ChildStatus}
    (hsplit : settings.childEnds kernel process machine = before ++ child :: after)
    (hfailed : child ≠ .ok (.exited 0)) :
    after = [] ∧ ∃ failure : TaskFailure,
      (settings.start kernel process command machine).result = .error (.task failure) ∧
        failure.status.exitCode.toInt = shellCode child := by
  obtain ⟨houtline, hcompletion⟩ := settings.outline_start kernel process command machine
  have hfollows := houtline.followsSchedule fun _ h => hcompletion.error_eq h
  obtain ⟨earlier, rest, hvisits, rfl, hrest⟩ := List.map_eq_append_iff.mp hsplit
  obtain ⟨visit, later, rfl, rfl, rfl⟩ := List.map_eq_cons_iff.mp hrest
  cases hresult : ((settings.host kernel process).visit visit).result with
  | ok done => exact absurd ((settings.tasks.visit_ok_iff kernel process visit).mp hresult) hfailed
  | error failure =>
    have hcalls := settings.taskCalls_eq kernel process command machine
    rw [hvisits, List.map_append, List.map_cons] at hcalls
    obtain ⟨hlast, hend⟩ := hfollows.failure _ _ _ failure hcalls hresult
    rw [List.map_eq_nil_iff.mp hlast]
    exact ⟨rfl, failure, hend, (TaskSettings.visit_error hresult).1⟩

lemma childEnds_last {child : Except Failure ChildStatus}
    (hchild : child ∈ settings.childEnds kernel process machine)
    (hfailed : child ≠ .ok (.exited 0)) :
    ∃ before, settings.childEnds kernel process machine = before ++ [child] ∧
      ∀ earlier ∈ before, earlier = .ok (.exited 0) := by
  obtain ⟨before, after, hsplit⟩ := List.append_of_mem hchild
  obtain ⟨rfl, -⟩ := childEnds_split [] hsplit hfailed
  refine ⟨before, hsplit, fun earlier hearlier => ?_⟩
  by_contra hne
  obtain ⟨first, rest, rfl⟩ := List.append_of_mem hearlier
  rw [List.append_assoc, List.cons_append] at hsplit
  obtain ⟨hnil, -⟩ := childEnds_split [] hsplit hne
  simp at hnil

lemma preparation_result (command : List String)
    (children : ∀ child ∈ settings.childEnds kernel process machine, child = .ok (.exited 0))
    {env : Environment} (hsnapshot : settings.snapshot kernel process machine = .ok env) :
    (settings.preparation kernel process command machine).result = env.ready command :=
  ((settings.outline_start kernel process command machine).1.completes
    ((settings.succeed_iff kernel process command machine).mpr children) hsnapshot).1

/-- A cause makes the start of a run fail with an error of its code. -/
lemma FailsWith.result {code : Nat} (h : settings.FailsWith kernel process command machine code) :
    ∃ error, (settings.start kernel process command machine).result = .error error ∧
      error.exitCode.toInt = code := by
  obtain ⟨houtline, hcompletion⟩ := settings.outline_start kernel process command machine
  cases h with
  | child ends failed =>
    obtain ⟨before, after, hsplit⟩ := List.append_of_mem ends
    obtain ⟨-, failure, hend, hcode⟩ := childEnds_split command hsplit failed
    exact ⟨.task failure, hend, hcode⟩
  | @environmentFile error updated first =>
    have hfollows := houtline.followsSchedule fun _ h => hcompletion.error_eq h
    have hupdate := (settings.tasks.visit_ok_iff kernel process _).mpr updated
    exact ⟨.environmentFile error, (hfollows.unreadable error hupdate first).2, rfl⟩
  | @emptyCommand env children environment empty =>
    have hready := preparation_result command children environment
    rw [env.ready_eq, if_pos empty] at hready
    exact ⟨_, hcompletion.error_eq hready, rfl⟩
  | @notExecuted env failure children environment words refused =>
    have hready := preparation_result command children environment
    rw [env.ready_eq, if_neg words] at hready
    have hresult := hcompletion.result_of_ok hready
    rw [kernel.launcher_result words, refused] at hresult
    exact ⟨_, hresult, LaunchError.exitCode_notExecuted _ failure⟩

lemma exists_call {failure : TaskFailure}
    (h : (settings.start kernel process command machine).result = .error (.task failure)) :
    ∃ call ∈ (settings.start kernel process command machine).taskCalls,
      call.result = .error failure := by
  obtain ⟨houtline, hcompletion⟩ := settings.outline_start kernel process command machine
  cases hprepared : (settings.preparation kernel process command machine).result with
  | error cause =>
    rw [hprepared] at houtline
    obtain rfl := Except.error.inj ((hcompletion.error_eq hprepared).symm.trans h)
    cases houtline.obstacle with
    | task called failed => exact ⟨_, called, failed⟩
  | ok ready =>
    rw [hcompletion.result_of_ok hprepared] at h
    cases hanswer : (kernel.launcher ready.command ready.env _).1 with
    | ok done =>
      rw [hanswer] at h
      contradiction
    | error cause =>
      rw [hanswer] at h
      exact nomatch Except.error.inj h

/-- A start fails for nothing but these causes. -/
lemma exists_failsWith {error : StartError}
    (h : (settings.start kernel process command machine).result = .error error) :
    ∃ code, settings.FailsWith kernel process command machine code := by
  obtain ⟨houtline, hcompletion⟩ := settings.outline_start kernel process command machine
  have hsucceed := settings.succeed_iff kernel process command machine
  cases hprepared : (settings.preparation kernel process command machine).result with
  | error cause =>
    rw [hprepared] at houtline
    cases houtline.obstacle with
    | task called failed =>
      obtain ⟨child, hchild, hfailed⟩ := (exists_child called failed).1
      exact ⟨_, .child hchild hfailed⟩
    | environmentFile updated first =>
      exact ⟨_, .environmentFile ((settings.tasks.visit_ok_iff kernel process _).mp updated) first⟩
    | emptyCommand succeed snapshot empty =>
      exact ⟨_, .emptyCommand (hsucceed.mp succeed) snapshot empty⟩
  | ok ready =>
    obtain ⟨hok, env, hsnapshot, hwords, rfl⟩ := (houtline.ready_iff ready).mp hprepared
    have hresult := hcompletion.result_of_ok hprepared
    rw [h, kernel.launcher_result hwords] at hresult
    cases hreplace : (kernel.replace _ _ _).result with
    | ok run =>
      rw [hreplace] at hresult
      contradiction
    | error failure =>
      exact ⟨_, .notExecuted (hsucceed.mp hok) hsnapshot hwords hreplace⟩

end Settings

/-! ### A run -/

def Ending.IsFailure : Ending → Prop
  | refused _ | failed _ => True
  | usage _ | handedOver _ => False

section Run

variable (kernel : Kernel κ) (process : ProcessEnvironment) (args : List RawText)
  (machine : Machine κ)

/-- What fails in a run, with the exit code that is to tell of it. -/
inductive FailsWith : Nat → Prop
  | settings {options error} (parsed : CommandLine.Options.parse process args = .ok options)
      (refused : Settings.resolve process machine.files options = .error error) : FailsWith 1
  | start {options settings code}
      (parsed : CommandLine.Options.parse process args = .ok options)
      (resolved : Settings.resolve process machine.files options = .ok settings)
      (fails : settings.FailsWith kernel process options.command machine code) : FailsWith code

/-- A run tells of a failure by its exit code. -/
structure TellsOfFailure (ending : Ending) : Prop where
  code : ∀ code, FailsWith kernel process args machine code →
    0 < code ∧ code ≤ 255 ∧ ending.exitCode?.map UInt8.toNat = some code
  isFailure_iff : ending.IsFailure ↔ ∃ code, FailsWith kernel process args machine code
  /-- No child comes after one that does anything but exit with code 0. -/
  firstChild : ∀ settings : Settings, ∀ child ∈ settings.childEnds kernel process machine,
    child ≠ .ok (.exited 0) →
      ∃ before, settings.childEnds kernel process machine = before ++ [child] ∧
        ∀ earlier ∈ before, earlier = .ok (.exited 0)
  exact : ∀ error, ending = .failed error →
    0 < error.exitCode ∧ error.exitCode ≤ 255 ∧
      (error.processCode.toNat : Int) = error.exitCode.toInt
  /-- Numbers of 32 bits are enough for the code of a signal. -/
  signal : ∀ failure number, ending = .failed (.task failure) →
    failure.status = .signaled number → failure.status.exitCode.toInt = 128 + number.toInt
  classify : ∀ (task : Task) (status : ChildStatus), status.classify task = .ok () →
    status = .exited 0

variable {kernel process args machine}

lemma StartError.exitCode_range {error : StartError} {code : Nat}
    (hcode : error.exitCode.toInt = code) (hle : code ≤ 255) :
    0 ≤ error.exitCode ∧ error.exitCode ≤ 255 := by
  rw [Int32.le_iff_toInt_le, Int32.le_iff_toInt_le, hcode]
  exact ⟨Int.natCast_nonneg code, Int.ofNat_le.mpr hle⟩

lemma StartError.processCode_eq {error : StartError} {code : Nat}
    (hcode : error.exitCode.toInt = code) (hle : code ≤ 255) : error.processCode.toNat = code := by
  rw [processCode, if_pos (exitCode_range hcode hle), Int32.toNatClampNeg, hcode,
    Int.toNat_natCast]
  exact UInt8.toNat_ofNat_of_lt' (Nat.lt_succ_of_le hle)

lemma Settings.run_ending (settings : Settings) (command : List String) :
    (settings.run kernel process command machine).ending =
      match (settings.start kernel process command machine).result with
      | .ok () => .handedOver
          ((settings.start kernel process command machine).state.successor.getD (.exited 0))
      | .error error => .failed error := rfl

lemma Settings.run_ending_eq_failed_iff (settings : Settings) {command : List String}
    {error : StartError} :
    (settings.run kernel process command machine).ending = .failed error ↔
      (settings.start kernel process command machine).result = .error error := by
  rw [settings.run_ending]
  cases (settings.start kernel process command machine).result with
  | ok done => simp
  | error cause => simp

lemma Settings.run_fails (settings : Settings) {command : List String}
    (h : (settings.run kernel process command machine).ending.IsFailure) :
    ∃ error, (settings.start kernel process command machine).result = .error error := by
  rw [settings.run_ending] at h
  cases hend : (settings.start kernel process command machine).result with
  | ok done =>
    rw [hend] at h
    exact h.elim
  | error error => exact ⟨error, rfl⟩

namespace TellsOfFailure

lemma of_usage {error : CommandLine.UsageError}
    (refused : CommandLine.Options.parse process args = .error error) :
    TellsOfFailure kernel process args machine (.usage error) := by
  have hnone : ∀ code, ¬FailsWith kernel process args machine code := by
    intro code hcode
    cases hcode with
    | settings parsed refused' => exact nomatch refused.symm.trans parsed
    | start parsed resolved fails => exact nomatch refused.symm.trans parsed
  constructor
  · exact fun code hcode => absurd hcode (hnone code)
  · exact ⟨False.elim, fun ⟨code, hcode⟩ => hnone code hcode⟩
  · exact fun settings child => Settings.childEnds_last
  · exact fun error hending => nomatch hending
  · exact fun failure number hending => nomatch hending
  · exact fun task status => (ChildStatus.classify_eq_ok_iff task status).mp

lemma of_refused {options : CommandLine.Options} {error : SettingsError}
    (parsed : CommandLine.Options.parse process args = .ok options)
    (refused : Settings.resolve process machine.files options = .error error) :
    TellsOfFailure kernel process args machine (.refused error) := by
  constructor
  · intro code hcode
    cases hcode with
    | settings parsed' refused' => exact ⟨by decide, by decide, rfl⟩
    | start parsed' resolved fails =>
      obtain rfl := Except.ok.inj (parsed.symm.trans parsed')
      exact nomatch refused.symm.trans resolved
  · exact ⟨fun _ => ⟨1, .settings parsed refused⟩, fun _ => trivial⟩
  · exact fun settings child => Settings.childEnds_last
  · exact fun error hending => nomatch hending
  · exact fun failure number hending => nomatch hending
  · exact fun task status => (ChildStatus.classify_eq_ok_iff task status).mp

lemma of_settings {settings : Settings} {options : CommandLine.Options}
    (parsed : CommandLine.Options.parse process args = .ok options)
    (resolved : Settings.resolve process machine.files options = .ok settings) :
    TellsOfFailure kernel process args machine
      (settings.run kernel process options.command machine).ending := by
  have hfails : ∀ code, FailsWith kernel process args machine code →
      settings.FailsWith kernel process options.command machine code := by
    intro code hcode
    cases hcode with
    | settings parsed' refused =>
      obtain rfl := Except.ok.inj (parsed.symm.trans parsed')
      exact nomatch resolved.symm.trans refused
    | start parsed' resolved' fails =>
      obtain rfl := Except.ok.inj (parsed.symm.trans parsed')
      obtain rfl := Except.ok.inj (resolved.symm.trans resolved')
      exact fails
  constructor
  · intro code hcode
    obtain ⟨hpos, hle⟩ := (hfails code hcode).bounds
    obtain ⟨error, hend, herror⟩ := (hfails code hcode).result
    refine ⟨hpos, hle, ?_⟩
    rw [settings.run_ending_eq_failed_iff.mpr hend]
    exact congrArg some (StartError.processCode_eq herror hle)
  · constructor
    · intro hfailure
      obtain ⟨error, hend⟩ := settings.run_fails hfailure
      obtain ⟨code, hcode⟩ := Settings.exists_failsWith hend
      exact ⟨code, .start parsed resolved hcode⟩
    · rintro ⟨code, hcode⟩
      obtain ⟨error, hend, -⟩ := (hfails code hcode).result
      rw [settings.run_ending_eq_failed_iff.mpr hend]
      trivial
  · exact fun settings child => Settings.childEnds_last
  · intro error hending
    have hend := settings.run_ending_eq_failed_iff.mp hending
    obtain ⟨code, hcode⟩ := Settings.exists_failsWith hend
    obtain ⟨cause, hcause, hexit⟩ := hcode.result
    obtain rfl := Except.error.inj (hend.symm.trans hcause)
    obtain ⟨hpos, hle⟩ := hcode.bounds
    refine ⟨?_, (StartError.exitCode_range hexit hle).2, ?_⟩
    · rw [Int32.lt_iff_toInt_lt, hexit]
      exact Int.ofNat_lt.mpr hpos
    · rw [StartError.processCode_eq hexit hle, hexit]
  · intro failure number hending hsignal
    obtain ⟨call, hcall, hfailed⟩ :=
      Settings.exists_call (settings.run_ending_eq_failed_iff.mp hending)
    obtain ⟨hpos, hlt⟩ := (Settings.exists_child hcall hfailed).2 number hsignal
    rw [hsignal]
    exact toInt_add_signal hpos hlt
  · exact fun task status => (ChildStatus.classify_eq_ok_iff task status).mp

end TellsOfFailure

variable (kernel process args machine)

/-- Whatever the system answers, a run that fails ends with the exit code of what has failed, and
never with the one of success. -/
theorem runProgram_tellsOfFailure :
    TellsOfFailure kernel process args machine
      (runProgram kernel process args machine).ending := by
  rw [runProgram]
  cases hparsed : CommandLine.Options.parse process args with
  | error error => exact .of_usage hparsed
  | ok options =>
    dsimp only
    cases hresolved : Settings.resolve process machine.files options with
    | error error => exact .of_refused hparsed hresolved
    | ok settings => exact .of_settings hparsed hresolved

end Run

end SiteBoot
