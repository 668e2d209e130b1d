import SiteBoot.Proofs.Files.Opening
import SiteBoot.Proofs.Program.ExitCode
/-!
# Where the output of tasks goes

What the child of a call writes goes to the log or comes out of the streams that the program was
given, all of it to the one or all of it to the other. Over any number of calls the log grows by
what goes there and keeps what it holds. `Succession` is such a number of calls, between which
other files and whether the log can be opened may change.

A report that points at the log for the output of a failed task is right wherever the log could
be opened. Where it could not, the report is made all the same.
-/

namespace SiteBoot

variable {κ : Type}

/-! ### Writes -/

namespace Write

lemma foldl_join (writes : List Write) (start : RawText) :
    writes.foldl (fun bytes write => bytes ++ write.bytes) start = start ++ join writes := by
  induction writes generalizing start with
  | nil => exact (RawText.append_nothing start).symm
  | cons write rest ih =>
    have hjoin : join (write :: rest) = write.bytes ++ join rest := ih write.bytes
    rw [List.foldl_cons, ih, hjoin, RawText.append_assoc]

lemma join_cons (write : Write) (rest : List Write) :
    join (write :: rest) = write.bytes ++ join rest := foldl_join rest write.bytes

lemma join_append (first second : List Write) :
    join (first ++ second) = join first ++ join second := by
  rw [join, List.foldl_append, foldl_join second]
  rfl

end Write

namespace OutputTargets

lemma deliver_inherited (writes : List Write) (files : FileTree) :
    inherited.deliver writes files = (writes, files) := by
  induction writes with
  | nil => rfl
  | cons write rest ih =>
    have htarget : inherited.of write.stream = .inherited := by cases write.stream <;> rfl
    rw [deliver, htarget]
    dsimp only
    rw [ih]

lemma deliver_append {place : Location} (writes : List Write) {files : FileTree}
    (h : files.TakesWrites place) :
    ((⟨.append place, .append place⟩ : OutputTargets).deliver writes files).1 = [] ∧
      files.Grows ((⟨.append place, .append place⟩ : OutputTargets).deliver writes files).2 place
        (Write.join writes) := by
  induction writes generalizing files with
  | nil => exact ⟨rfl, files.grows_refl place⟩
  | cons write rest ih =>
    have htarget : (⟨.append place, .append place⟩ : OutputTargets).of write.stream =
        .append place := by
      cases write.stream <;> rfl
    obtain ⟨hgrows, hnext⟩ := files.grows_append write.bytes h
    obtain ⟨hwritten, hrest⟩ := ih hnext
    rw [deliver, htarget, Write.join_cons]
    exact ⟨hwritten, hgrows.trans hrest⟩

end OutputTargets

/-! ### One call -/

/-- A report that sends its reader to the log for the output of a task. -/
def Event.PointsAtLog (event : Event) : Prop :=
  event.level = .error ∧
    ∃ reason, event.message = "Task failed (" ++ reason ++ "), see the invoke log for its output"

namespace TaskSettings

variable (settings : TaskSettings) (kernel : Kernel κ)
  (script : ChildRequest → κ → Except Failure ChildScript × κ)

def perform (visit : Visit (Machine κ)) : TaskRun (Machine κ) :=
  settings.runTask kernel visit.task visit.env visit.state

def outputTargets (visit : Visit (Machine κ)) : OutputTargets :=
  (settings.openOutput visit.env visit.state.files).targets

/-- What the child of a call writes, which is nothing if it does not start. -/
def childWrites (visit : Visit (Machine κ)) : List Write :=
  match (script (settings.request visit.task visit.env) visit.state.rest).1 with
  | .ok child => child.writes
  | .error _ => []

/-- The writes of calls, each with the target of its stream. -/
def sent (visits : List (Visit (Machine κ))) : List (OutputTarget × Write) :=
  visits.flatMap fun visit => (settings.childWrites script visit).map fun write =>
    ((settings.outputTargets visit).of write.stream, write)

/-- The writes of calls that go to a target. -/
def writesTo (target : OutputTarget) (visits : List (Visit (Machine κ))) : List Write :=
  ((settings.sent script visits).filter (·.1 = target)).map Prod.snd

/-- All that the child of a call writes goes to the end of the log, or all of it comes out of the
streams of the program. -/
structure RoutesCall (visit : Visit (Machine κ)) : Prop where
  logged : ∀ place opened, ¬visit.env.IsTrue "INVOKE_LOG_STDOUT" →
    visit.state.files.openToWrite settings.logFile = .ok (place, opened) →
      settings.outputTargets visit = ⟨.append place, .append place⟩ ∧
        visit.state.files.Grows (settings.perform (.ofScript script) visit).state.files place
          (Write.join (settings.childWrites script visit)) ∧
        (settings.perform (.ofScript script) visit).state.written = visit.state.written
  inherited : (visit.env.IsTrue "INVOKE_LOG_STDOUT" ∨
      ∃ failure, visit.state.files.openToWrite settings.logFile = .error failure) →
    settings.outputTargets visit = .inherited ∧
      (settings.perform (.ofScript script) visit).state.files = visit.state.files ∧
      (settings.perform (.ofScript script) visit).state.written =
        visit.state.written ++ settings.childWrites script visit

variable {settings kernel script} {visit : Visit (Machine κ)} {place : Location}
  {opened : FileTree}

lemma wantsOutputInherited_iff (env : Environment) :
    env.wantsOutputInherited = true ↔ env.IsTrue "INVOKE_LOG_STDOUT" := by
  simp [Environment.wantsOutputInherited, Environment.flag, Environment.IsTrue]

lemma openOutput_logged (hflag : ¬visit.env.IsTrue "INVOKE_LOG_STDOUT")
    (hopen : visit.state.files.openToWrite settings.logFile = .ok (place, opened)) :
    settings.openOutput visit.env visit.state.files =
      ⟨⟨.append place, .append place⟩, opened, []⟩ := by
  rw [openOutput, if_neg (mt (wantsOutputInherited_iff _).mp hflag), openLog, hopen]
  rfl

lemma openOutput_inherited (h : visit.env.IsTrue "INVOKE_LOG_STDOUT" ∨
      ∃ failure, visit.state.files.openToWrite settings.logFile = .error failure) :
    (settings.openOutput visit.env visit.state.files).targets = .inherited ∧
      (settings.openOutput visit.env visit.state.files).files = visit.state.files := by
  rw [openOutput]
  by_cases hflag : visit.env.wantsOutputInherited = true
  · rw [if_pos hflag]
    exact ⟨rfl, rfl⟩
  · rw [if_neg hflag]
    obtain hflag' | ⟨failure, hopen⟩ := h
    · exact absurd ((wantsOutputInherited_iff _).mpr hflag') hflag
    · rw [openLog, hopen]
      exact ⟨rfl, rfl⟩

variable (settings script) in
lemma perform_delivers (visit : Visit (Machine κ)) :
    let opened := settings.openOutput visit.env visit.state.files
    let delivered := opened.targets.deliver (settings.childWrites script visit) opened.files
    (settings.perform (.ofScript script) visit).state.files = delivered.2 ∧
      (settings.perform (.ofScript script) visit).state.written =
        visit.state.written ++ delivered.1 := by
  dsimp only
  rw [perform, runTask, childWrites]
  dsimp only [Kernel.ofScript]
  rcases script (settings.request visit.task visit.env) visit.state.rest with ⟨_ | child, rest⟩
  · exact ⟨rfl, (List.append_nil _).symm⟩
  · exact ⟨rfl, rfl⟩

lemma routesCall (visit : Visit (Machine κ)) : settings.RoutesCall script visit := by
  obtain ⟨hfiles, hwritten⟩ := settings.perform_delivers script visit
  constructor
  · intro place opened hflag hopen
    have houtput := openOutput_logged hflag hopen
    obtain ⟨hgrows, htakes⟩ := FileTree.grows_openToWrite hopen
    obtain ⟨hnone, hdelivered⟩ :=
      OutputTargets.deliver_append (settings.childWrites script visit) htakes
    rw [houtput] at hfiles hwritten
    refine ⟨by rw [outputTargets, houtput], ?_, ?_⟩
    · rw [hfiles]
      exact hgrows.trans hdelivered
    · rw [hwritten, hnone, List.append_nil]
  · intro h
    obtain ⟨htargets, hopened⟩ := openOutput_inherited h
    rw [htargets, hopened, OutputTargets.deliver_inherited] at hfiles hwritten
    exact ⟨htargets, hfiles, hwritten⟩

lemma logged_or_inherited (settings : TaskSettings) (visit : Visit (Machine κ)) :
    (¬visit.env.IsTrue "INVOKE_LOG_STDOUT" ∧
        ∃ place opened, visit.state.files.openToWrite settings.logFile = .ok (place, opened)) ∨
      (visit.env.IsTrue "INVOKE_LOG_STDOUT" ∨
        ∃ failure, visit.state.files.openToWrite settings.logFile = .error failure) := by
  by_cases hflag : visit.env.IsTrue "INVOKE_LOG_STDOUT"
  · exact .inr (.inl hflag)
  · cases hopen : visit.state.files.openToWrite settings.logFile with
    | ok opened => exact .inl ⟨hflag, opened.1, opened.2, rfl⟩
    | error failure => exact .inr (.inr ⟨failure, rfl⟩)

/-! ### Reports of failed tasks -/

lemma mem_reportedFailure_iff {env : Environment} {result : Except TaskFailure Unit}
    {event : Event} : event ∈ reportedFailure settings env result ↔
      ∃ failure, result = .error failure ∧ ¬env.IsTrue "INVOKE_LOG_STDOUT" ∧
        event = .taskOutputLogged failure settings.logFile := by
  rw [← wantsOutputInherited_iff]
  cases result with
  | ok done => simp [reportedFailure]
  | error failure =>
    by_cases hflag : env.wantsOutputInherited = true
    · simp [reportedFailure, hflag]
    · simp [reportedFailure, hflag]

lemma not_pointsAtLog_of_mem_openOutput {env : Environment} {files : FileTree} {event : Event}
    (hevent : event ∈ (settings.openOutput env files).events) : ¬event.PointsAtLog := by
  rw [openOutput] at hevent
  split at hevent
  · exact absurd hevent List.not_mem_nil
  · split at hevent
    · exact absurd hevent List.not_mem_nil
    · rintro ⟨hlevel, -⟩
      obtain rfl := List.mem_singleton.mp hevent
      exact nomatch hlevel

lemma perform_events (settings : TaskSettings) (kernel : Kernel κ) (visit : Visit (Machine κ)) :
    (settings.perform kernel visit).events =
      (settings.openOutput visit.env visit.state.files).events ++
        match settings.childEnd kernel visit with
        | .ok status => reportedFailure settings visit.env (status.classify visit.task)
        | .error _ => [] := by
  rw [perform, runTask, childEnd]
  dsimp only
  cases (kernel.spawn _ _ _ _).result with
  | ok run => rfl
  | error failure => exact (List.append_nil _).symm

/-- The log is pointed at where a child has not succeeded and the flag is not set, whatever has
become of the output. -/
lemma pointsAtLog_iff (settings : TaskSettings) (kernel : Kernel κ) (visit : Visit (Machine κ))
    (event : Event) :
    event ∈ (settings.perform kernel visit).events ∧ event.PointsAtLog ↔
      ∃ status failure, settings.childEnd kernel visit = .ok status ∧
        status.classify visit.task = .error failure ∧ ¬visit.env.IsTrue "INVOKE_LOG_STDOUT" ∧
        event = .taskOutputLogged failure settings.logFile := by
  rw [perform_events, List.mem_append]
  constructor
  · rintro ⟨hopening | hreport, hpoints⟩
    · exact absurd hpoints (not_pointsAtLog_of_mem_openOutput hopening)
    · cases hend : settings.childEnd kernel visit with
      | error failure =>
        rw [hend] at hreport
        exact absurd hreport List.not_mem_nil
      | ok status =>
        rw [hend] at hreport
        obtain ⟨failure, hfailure, hflag, rfl⟩ := mem_reportedFailure_iff.mp hreport
        exact ⟨status, failure, rfl, hfailure, hflag, rfl⟩
  · rintro ⟨status, failure, hend, hfailure, hflag, rfl⟩
    rw [hend]
    exact ⟨.inr (mem_reportedFailure_iff.mpr ⟨failure, hfailure, hflag, rfl⟩), rfl, _, rfl⟩

/-- Unless a child fails whose log could not be opened, the log is pointed at if and only if a
child has failed whose output is there. -/
theorem perform_pointsAtLog {settings : TaskSettings} {kernel : Kernel κ}
    {visit : Visit (Machine κ)}
    (available : ∀ failure status, settings.childEnd kernel visit = .ok status →
      visit.state.files.openToWrite settings.logFile = .error failure →
        visit.env.IsTrue "INVOKE_LOG_STDOUT" ∨ status = .exited 0) :
    ((∃ event ∈ (settings.perform kernel visit).events, event.PointsAtLog) ↔
      ∃ status place, settings.childEnd kernel visit = .ok status ∧ status ≠ .exited 0 ∧
        settings.outputTargets visit = ⟨.append place, .append place⟩) ∧
    ∀ event ∈ (settings.perform kernel visit).events, event.PointsAtLog →
      ∃ failure, (settings.perform kernel visit).result = .error failure ∧
        event = .taskOutputLogged failure settings.logFile := by
  have hresult : ∀ {status failure}, settings.childEnd kernel visit = .ok status →
      status.classify visit.task = .error failure →
        (settings.perform kernel visit).result = .error failure := by
    intro status failure hend hfailure
    have hvisit := settings.visit_result kernel ⟨[]⟩ visit
    rw [hend] at hvisit
    exact hvisit.trans hfailure
  refine ⟨⟨?_, ?_⟩, ?_⟩
  · rintro ⟨event, hevent⟩
    obtain ⟨status, failure, hend, hfailure, hflag, -⟩ :=
      (pointsAtLog_iff settings kernel visit event).mp hevent
    have hstatus : status ≠ .exited 0 := by
      rintro rfl
      exact nomatch hfailure
    obtain ⟨-, place, opened, hopen⟩ | h := settings.logged_or_inherited visit
    · exact ⟨status, place, hend, hstatus, by rw [outputTargets, openOutput_logged hflag hopen]⟩
    · obtain hflag' | ⟨cause, hopen⟩ := h
      · exact absurd hflag' hflag
      · exact absurd (available cause status hend hopen) (not_or_intro hflag hstatus)
  · rintro ⟨status, place, hend, hstatus, htargets⟩
    obtain ⟨hflag, -⟩ | h := settings.logged_or_inherited visit
    · cases hfailure : status.classify visit.task with
      | ok done => exact absurd ((ChildStatus.classify_eq_ok_iff _ _).mp hfailure) hstatus
      | error failure =>
        exact ⟨_, (pointsAtLog_iff settings kernel visit _).mpr
          ⟨status, failure, hend, hfailure, hflag, rfl⟩⟩
    · exact nomatch (openOutput_inherited h).1.symm.trans htargets
  · intro event hevent hpoints
    obtain ⟨status, failure, hend, hfailure, -, rfl⟩ :=
      (pointsAtLog_iff settings kernel visit event).mp ⟨hevent, hpoints⟩
    exact ⟨failure, hresult hend hfailure, rfl⟩

def scripted (logFile : String) : TaskSettings where
  program := "/bin/sh"
  args := ["invoke.sh"]
  workdir := none
  logFile := .ofString logFile

def firstCall : Visit (Machine Unit) := ⟨.update, .empty, ⟨.base, [], none, ()⟩⟩

def failing : ChildRequest → Unit → Except Failure ChildScript × Unit :=
  fun _ rest => (.ok ⟨[⟨.output, .ofString "lost\n"⟩], .exited 3⟩, rest)

theorem perform_pointsAtLog_invokeLog :
    ∃ event ∈ ((scripted "invoke.log").perform (.ofScript failing) firstCall).events,
      event.PointsAtLog := by
  obtain ⟨⟨place, opened⟩, hopen⟩ : ∃ opened,
      firstCall.state.files.openToWrite (scripted "invoke.log").logFile = .ok opened :=
    ⟨_, by cbv⟩
  have hflag : ¬firstCall.env.IsTrue "INVOKE_LOG_STDOUT" := by
    rintro (h | h) <;> contradiction
  refine (perform_pointsAtLog ?_).1.mpr ⟨.exited 3, place, by cbv, by decide, ?_⟩
  · intro failure status hend hunavailable
    have hclash := hopen.symm.trans hunavailable
    contradiction
  · rw [outputTargets, openOutput_logged hflag hopen]

/-- Where the log cannot be opened, a failed task is reported as if its output were there. -/
theorem pointsAtLog_without_log :
    (∃ event ∈ ((scripted "no/dir/invoke.log").perform (.ofScript failing) firstCall).events,
      event.PointsAtLog) ∧
    (scripted "no/dir/invoke.log").outputTargets firstCall = .inherited ∧
    ((scripted "no/dir/invoke.log").perform (.ofScript failing) firstCall).state.written =
      [⟨.output, .ofString "lost\n"⟩] := by
  refine ⟨⟨_, (pointsAtLog_iff _ _ _ _).mpr ⟨.exited 3, ⟨.update, .exited 3⟩, ?_, rfl, ?_, rfl⟩⟩,
    ?_, ?_⟩
  · cbv
  · rintro (h | h) <;> contradiction
  · cbv
  · cbv

end TaskSettings

/-! ### Any number of calls -/

/-- A file and the streams are left alone from one machine to the next. -/
structure Machine.SameAt (place : Location) (before after : Machine κ) : Prop where
  held? : after.files.held? place = before.files.held? place
  written : after.written = before.written

namespace TaskSettings

section Calls

variable (settings : TaskSettings) (script : ChildRequest → κ → Except Failure ChildScript × κ)
  (place : Location)

/-- Calls one after the other. Before each of them and after the last, others may have changed
anything but the file at a place and what has come out of the streams. -/
inductive Succession (kernel : Kernel κ) : Machine κ → List (Visit (Machine κ)) → Machine κ → Prop
  | done {machine last} (same : machine.SameAt place last) : Succession kernel machine [] last
  | call {machine visit rest last} (same : machine.SameAt place visit.state)
      (next : Succession kernel (settings.perform kernel visit).state rest last) :
      Succession kernel machine (visit :: rest) last

/-- Over some calls, everything that their children write is in one place: the file that the log
leads to holds the writes of the calls that were logged there, in their order, after what it held
before, and the writes of the others have come out of the streams. -/
structure RoutesOutput (first : Machine κ) (visits : List (Visit (Machine κ)))
    (last : Machine κ) : Prop where
  calls : ∀ visit ∈ visits, settings.RoutesCall script visit
  log : last.files.held? place = (first.files.held? place).map
    (· ++ Write.join (settings.writesTo script (.append place) visits))
  streams : last.written = first.written ++ settings.writesTo script .inherited visits
  once : ∀ targets : List OutputTarget, targets.Nodup →
    (∀ visit ∈ visits, ∀ stream, (settings.outputTargets visit).of stream ∈ targets) →
      (targets.flatMap fun target => settings.writesTo script target visits).Perm
        (visits.flatMap (settings.childWrites script))

variable {settings script place} {first last : Machine κ} {visits : List (Visit (Machine κ))}

lemma writesTo_append (target : OutputTarget) (before after : List (Visit (Machine κ))) :
    settings.writesTo script target (before ++ after) =
      settings.writesTo script target before ++ settings.writesTo script target after := by
  rw [writesTo, sent, List.flatMap_append, List.filter_append, List.map_append]
  rfl

lemma writesTo_singleton {target : OutputTarget} {visit : Visit (Machine κ)}
    (htarget : ∀ stream, (settings.outputTargets visit).of stream = target)
    (other : OutputTarget) :
    settings.writesTo script other [visit] =
      if target = other then settings.childWrites script visit else [] := by
  have hsent : settings.sent script [visit] =
      (settings.childWrites script visit).map fun write => (target, write) := by
    rw [sent, List.flatMap_singleton]
    exact List.map_congr_left fun write _ => by rw [htarget]
  have hall : ∀ entry ∈ settings.sent script [visit], entry.1 = target := by
    rw [hsent, List.forall_mem_map]
    exact fun write _ => rfl
  rw [writesTo]
  by_cases hother : target = other
  · have hkept : (settings.sent script [visit]).filter (·.1 = other) =
        settings.sent script [visit] :=
      List.filter_eq_self.mpr fun entry hentry => by simpa [hall entry hentry] using hother
    rw [if_pos hother, hkept, hsent, List.map_map]
    exact List.map_id _
  · have hdropped : (settings.sent script [visit]).filter (·.1 = other) = [] :=
      List.filter_eq_nil_iff.mpr fun entry hentry => by simpa [hall entry hentry] using hother
    rw [if_neg hother, hdropped]
    rfl

variable (settings script place) in
lemma perform_ofScript (visit : Visit (Machine κ)) :
    (settings.perform (.ofScript script) visit).state.files.held? place =
        (visit.state.files.held? place).map
          (· ++ Write.join (settings.writesTo script (.append place) [visit])) ∧
      (settings.perform (.ofScript script) visit).state.written =
        visit.state.written ++ settings.writesTo script .inherited [visit] := by
  have hcall : settings.RoutesCall script visit := routesCall visit
  obtain ⟨hflag, found, opened, hopen⟩ | h := settings.logged_or_inherited visit
  · obtain ⟨htargets, hgrows, hwritten⟩ := hcall.logged found opened hflag hopen
    have htarget : ∀ stream, (settings.outputTargets visit).of stream = .append found := by
      rw [htargets]
      rintro (_ | _) <;> rfl
    have hlogged : OutputTarget.append found ≠ .inherited := nofun
    rw [writesTo_singleton htarget, writesTo_singleton htarget, if_neg hlogged, List.append_nil]
    refine ⟨?_, hwritten⟩
    by_cases hfound : found = place
    · rw [hfound] at hgrows
      rw [hfound, if_pos rfl]
      exact hgrows.held?
    · rw [if_neg (fun heq => hfound (OutputTarget.append.inj heq)),
        FileTree.held?_congr (hgrows.frame place (Ne.symm hfound))]
      exact (visit.state.files.grows_refl place).held?
  · obtain ⟨htargets, hfiles, hwritten⟩ := hcall.inherited h
    have htarget : ∀ stream, (settings.outputTargets visit).of stream = .inherited := by
      rw [htargets]
      rintro (_ | _) <;> rfl
    have hinherited : OutputTarget.inherited ≠ .append place := nofun
    rw [writesTo_singleton htarget, writesTo_singleton htarget, if_neg hinherited, if_pos rfl,
      hfiles]
    exact ⟨(visit.state.files.grows_refl place).held?, hwritten⟩

lemma flatMap_ite {targets : List OutputTarget} (hnodup : targets.Nodup) {target : OutputTarget}
    (hmem : target ∈ targets) (write : Write) :
    (targets.flatMap fun other => if target = other then [write] else []) = [write] := by
  induction targets with
  | nil => exact absurd hmem List.not_mem_nil
  | cons first rest ih =>
    obtain ⟨hfresh, hrest⟩ := List.nodup_cons.mp hnodup
    rw [List.flatMap_cons]
    by_cases hfirst : target = first
    · have hnone : (rest.flatMap fun other => if target = other then [write] else []) = [] := by
        refine List.flatMap_eq_nil_iff.mpr fun other hother => if_neg ?_
        rintro rfl
        exact hfresh (hfirst ▸ hother)
      rw [if_pos hfirst, hnone, List.append_nil]
    · rw [if_neg hfirst, List.nil_append]
      exact ih hrest ((List.mem_cons.mp hmem).resolve_left hfirst)

lemma perm_of_targets {targets : List OutputTarget} (hnodup : targets.Nodup)
    {sent : List (OutputTarget × Write)} (hall : ∀ entry ∈ sent, entry.1 ∈ targets) :
    (targets.flatMap fun target => (sent.filter (·.1 = target)).map Prod.snd).Perm
      (sent.map Prod.snd) := by
  induction sent with
  | nil =>
    have hnil : (targets.flatMap fun _ : OutputTarget => ([] : List Write)) = [] :=
      List.flatMap_eq_nil_iff.mpr fun _ _ => rfl
    exact hnil ▸ List.Perm.refl _
  | cons entry rest ih =>
    obtain ⟨target, write⟩ := entry
    rw [List.forall_mem_cons] at hall
    have hsplit : ∀ other : OutputTarget,
        (((target, write) :: rest).filter (·.1 = other)).map Prod.snd =
          (if target = other then [write] else []) ++
            (rest.filter (·.1 = other)).map Prod.snd := by
      intro other
      by_cases hother : target = other
      · rw [List.filter_cons_of_pos (by simpa using hother), if_pos hother]
        rfl
      · rw [List.filter_cons_of_neg (by simpa using hother), if_neg hother]
        rfl
    simp only [hsplit]
    refine (List.flatMap_append_perm targets _ _).symm.trans ?_
    rw [flatMap_ite hnodup hall.1]
    exact (ih hall.2).append_left _

lemma perm_childWrites {targets : List OutputTarget} (hnodup : targets.Nodup)
    (hall : ∀ visit ∈ visits, ∀ stream, (settings.outputTargets visit).of stream ∈ targets) :
    (targets.flatMap fun target => settings.writesTo script target visits).Perm
      (visits.flatMap (settings.childWrites script)) := by
  have hsent : ∀ entry ∈ settings.sent script visits, entry.1 ∈ targets := by
    intro entry hentry
    obtain ⟨visit, hvisit, hentry⟩ := List.mem_flatMap.mp hentry
    obtain ⟨write, -, rfl⟩ := List.mem_map.mp hentry
    exact hall visit hvisit write.stream
  have hwrites : (settings.sent script visits).map Prod.snd =
      visits.flatMap (settings.childWrites script) := by
    rw [sent, List.map_flatMap]
    refine List.flatMap_congr fun visit _ => ?_
    rw [List.map_map]
    exact List.map_id _
  rw [← hwrites]
  exact perm_of_targets hnodup hsent

/-- What any number of calls add to the file at a place and to the streams. -/
lemma Succession.adds (h : settings.Succession place (.ofScript script) first visits last) :
    last.files.held? place = (first.files.held? place).map
        (· ++ Write.join (settings.writesTo script (.append place) visits)) ∧
      last.written = first.written ++ settings.writesTo script .inherited visits := by
  induction h with
  | done same =>
    rw [same.held?, same.written]
    exact ⟨(FileTree.grows_refl _ place).held?, (List.append_nil _).symm⟩
  | @call _ visit rest _ same next ih =>
    obtain ⟨hheld, hwritten⟩ := perform_ofScript settings script place visit
    rw [same.held?] at hheld
    rw [same.written] at hwritten
    rw [← List.singleton_append, writesTo_append, writesTo_append, ih.1, ih.2, hheld, hwritten,
      Option.map_map, Write.join_append, List.append_assoc]
    refine ⟨congrArg (Option.map · _) (funext fun content => ?_), rfl⟩
    exact RawText.append_assoc _ _ _

/-- The output of any number of calls is routed without loss, whatever their environments are, how
the children end and what becomes of other files in between. -/
theorem succession_routesOutput
    (calls : settings.Succession place (.ofScript script) first visits last) :
    settings.RoutesOutput script place first visits last := by
  obtain ⟨hlog, hstreams⟩ := calls.adds
  exact ⟨fun visit _ => routesCall visit, hlog, hstreams, fun _ => perm_childWrites⟩

theorem succession_visits (settings : TaskSettings) (kernel : Kernel κ)
    (process : ProcessEnvironment) (place : Location) (env : Environment) (tasks : List Task)
    (machine : Machine κ) :
    settings.Succession place kernel machine
      ((settings.host kernel process).visits env tasks machine)
      ((settings.host kernel process).follow env tasks machine).state := by
  induction tasks generalizing machine with
  | nil => exact .done ⟨rfl, rfl⟩
  | cons task rest ih =>
    rw [Host.visits, Host.follow]
    refine .call ⟨rfl, rfl⟩ ?_
    cases hresult : ((settings.host kernel process).runTask task env machine).result with
    | ok done => exact ih _
    | error failure => exact .done ⟨rfl, rfl⟩

/-- A site whose log is behind a link, which may be missing. -/
def linkedSite (linked : Bool) (log : String) : FileTree :=
  let store : List (Location × Node) :=
    [(["site"], .directory), (["site", "store"], .directory),
      (["site", "store", "invoke.log"], .file (.ofString log) false)]
  ⟨if linked then (["site", "logs"], .link "store") :: store else store, ["site"]⟩

/-- Children that write their number and end with it, the first of them well. -/
def counted : ChildRequest → Nat → Except Failure ChildScript × Nat :=
  fun _ count => (.ok ⟨[⟨.errors, .ofString (toString count)⟩, ⟨.output, "."⟩],
    .exited (.ofNat count)⟩, count + 1)

/-- Calls of which the second does not find the link, and the third has a flag that counts for
nothing. -/
def linkedVisits : List (Visit (Machine Nat)) :=
  [⟨.update, .empty, ⟨linkedSite true "", [], none, 0⟩⟩,
    ⟨.statics, .empty, ⟨linkedSite false "0.", [], none, 1⟩⟩,
    ⟨.update, Environment.empty.set "INVOKE_LOG_STDOUT" "yes",
      ⟨linkedSite true "0.", [⟨.errors, "1"⟩, ⟨.output, "."⟩], none, 2⟩⟩]

theorem succession_routesOutput_linkedVisits :
    (scripted "logs/invoke.log").RoutesOutput counted ["site", "store", "invoke.log"]
      ⟨linkedSite true "", [], none, 0⟩ linkedVisits
      ⟨linkedSite true "0.2.", [⟨.errors, "1"⟩, ⟨.output, "."⟩], none, 3⟩ := by
  obtain ⟨opened, hopen⟩ : ∃ opened, (linkedSite true "0.").openToWrite
      (scripted "logs/invoke.log").logFile = .ok (["site", "store", "invoke.log"], opened) :=
    ⟨_, by cbv⟩
  have hflag : ¬(Environment.empty.set "INVOKE_LOG_STDOUT" "yes").IsTrue "INVOKE_LOG_STDOUT" := by
    rintro (h | h) <;> simp at h
  have hlast : (scripted "logs/invoke.log").RoutesCall counted
      ⟨.update, Environment.empty.set "INVOKE_LOG_STDOUT" "yes",
        ⟨linkedSite true "0.", [⟨.errors, "1"⟩, ⟨.output, "."⟩], none, 2⟩⟩ := routesCall _
  obtain ⟨-, hgrows, hwritten⟩ := hlast.logged _ opened hflag hopen
  refine succession_routesOutput
    (.call ⟨rfl, rfl⟩ (.call ⟨?_, ?_⟩ (.call ⟨?_, ?_⟩ (.done ⟨?_, hwritten.symm⟩))))
  · cbv
  · cbv
  · cbv
  · cbv
  · refine Eq.trans ?_ hgrows.held?.symm
    cbv

end Calls

end TaskSettings

end SiteBoot
