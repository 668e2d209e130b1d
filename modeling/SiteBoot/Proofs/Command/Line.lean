import SiteBoot.Proofs.Shell.Fields
import SiteBoot.Proofs.Startup.Launch
/-!
# Commands on one line

A line becomes a command by its runs between blanks. That is what a shell makes of it exactly where
the line has no blanks but those that a shell splits at. However it was split, the words of the
command are all of the line but its blanks, and the text that the log shows of the command is a
line for the same command.
-/

namespace SiteBoot

namespace Command

lemma ofWords_eq_ok_iff {mode : Mode} {words : List String} {command : Command} :
    ofWords mode words = .ok command ↔ words ≠ [] ∧ command = ⟨mode, words⟩ := by
  rw [ofWords]
  cases words with
  | nil => simp
  | cons word rest => simp [eq_comm]

lemma ofWords_eq_error_iff {mode : Mode} {words : List String} {error : LaunchError} :
    ofWords mode words = .error error ↔ words = [] ∧ error = .emptyCommand mode := by
  rw [ofWords]
  cases words with
  | nil => simp [eq_comm]
  | cons word rest => simp

lemma ofLine_eq_ok_iff {mode : Mode} {line : String} {command : Command} :
    ofLine mode line = .ok command ↔ command.mode = mode ∧ command.words ≠ [] ∧
      Text.AreRuns Text.isBlank line.toList (command.words.map String.toList) := by
  obtain ⟨other, words⟩ := command
  rw [ofLine, Text.words_eq_runs, ofWords_eq_ok_iff, Command.mk.injEq, Text.areRuns_iff,
    ← Text.map_ofList_eq_iff]
  constructor
  · rintro ⟨hne, rfl, rfl⟩
    exact ⟨rfl, hne, rfl⟩
  · rintro ⟨rfl, hne, rfl⟩
    exact ⟨hne, rfl, rfl⟩

lemma ofLine_eq_error_iff {mode : Mode} {line : String} {error : LaunchError} :
    ofLine mode line = .error error ↔
      error = .emptyCommand mode ∧ Text.AreRuns Text.isBlank line.toList [] := by
  rw [ofLine, Text.words_eq_runs, ofWords_eq_error_iff, Text.areRuns_iff, List.map_eq_nil_iff,
    and_comm, @eq_comm _ []]

/-! ### Where a line is split -/

/-- A line is a command of its runs between separators, and no command if it has none. -/
structure SplitsAt (separates : Char → Bool) (mode : Mode) (line : String) : Prop where
  ok_iff : ∀ command, ofLine mode line = .ok command ↔
    command.mode = mode ∧ command.words ≠ [] ∧
      Text.AreRuns separates line.toList (command.words.map String.toList)
  error_iff : ∀ error, ofLine mode line = .error error ↔
    error = .emptyCommand mode ∧ Text.AreRuns separates line.toList []

lemma splitsAt_iff_runs_eq {separates : Char → Bool} {mode : Mode} {line : String} :
    SplitsAt separates mode line ↔
      Text.runs separates line.toList = Text.runs Text.isBlank line.toList := by
  constructor
  · rintro ⟨ok_iff, error_iff⟩
    cases h : ofLine mode line with
    | ok command =>
      obtain ⟨-, -, hruns⟩ := (ok_iff command).mp h
      obtain ⟨-, -, hblank⟩ := ofLine_eq_ok_iff.mp h
      exact (Text.areRuns_iff.mp hruns).symm.trans (Text.areRuns_iff.mp hblank)
    | error error =>
      obtain ⟨-, hruns⟩ := (error_iff error).mp h
      obtain ⟨-, hblank⟩ := ofLine_eq_error_iff.mp h
      exact (Text.areRuns_iff.mp hruns).symm.trans (Text.areRuns_iff.mp hblank)
  · intro hruns
    constructor
    · intro command
      rw [ofLine_eq_ok_iff, Text.areRuns_iff, Text.areRuns_iff, hruns]
    · intro error
      rw [ofLine_eq_error_iff, Text.areRuns_iff, Text.areRuns_iff, hruns]

lemma isBlank_of_isSeparator {c : Char} (hc : Shell.isSeparator c) : Text.isBlank c := by
  simp only [Shell.isSeparator, Bool.or_eq_true, decide_eq_true_eq] at hc
  rcases hc with (rfl | rfl) | rfl <;> decide

/-- A line is split at all blanks. It is split as a shell does it, into the fields that a shell
makes of the line as a value without quotes, exactly if no other character of it is blank than
those that a shell splits at. -/
theorem ofLine_splitsAsShell_iff (mode : Mode) (line : String) :
    SplitsAt Text.isBlank mode line ∧
      (SplitsAt Shell.isSeparator mode line ↔
        ∀ c ∈ line.toList, Text.isBlank c → Shell.isSeparator c) ∧
      ∀ fields, Text.AreRuns Shell.isSeparator line.toList fields → '\x00' ∉ line.toList →
        Shell.SplitsInto line (fields.map fun field => RawText.ofString (String.ofList field)) := by
  refine ⟨splitsAt_iff_runs_eq.mpr rfl, ?_, ?_⟩
  · rw [splitsAt_iff_runs_eq, Text.runs_eq_iff]
    constructor
    · intro h c hc hblank
      rw [h c hc, hblank]
    · intro h c hc
      rw [Bool.eq_iff_iff]
      exact ⟨isBlank_of_isSeparator, h c hc⟩
  · intro fields hfields hnul
    rw [Text.areRuns_iff.mp hfields]
    exact Shell.splitsInto_runs hnul

/-- A line with every character that a shell splits at, at its ends and between its words. -/
def tabbedLine : String := "  uwsgi\t--ini \n x.ini\n"

theorem ofLine_tabbedLine :
    SplitsAt Shell.isSeparator .production tabbedLine ∧
      ofLine .production tabbedLine = .ok ⟨.production, ["uwsgi", "--ini", "x.ini"]⟩ ∧
      Shell.SplitsInto tabbedLine ["uwsgi", "--ini", "x.ini"] := by
  obtain ⟨-, hshell, hfields⟩ := ofLine_splitsAsShell_iff .production tabbedLine
  have hblanks : ∀ c ∈ tabbedLine.toList, Text.isBlank c → Shell.isSeparator c := by
    have hall : tabbedLine.toList.all (fun c => !Text.isBlank c || Shell.isSeparator c) := by cbv
    simpa [imp_iff_not_or] using hall
  have hruns : Text.AreRuns Shell.isSeparator tabbedLine.toList
      (["uwsgi", "--ini", "x.ini"].map String.toList) := by
    rw [Text.areRuns_iff]
    cbv
  refine ⟨hshell.mpr hblanks, ?_, hfields _ hruns (by decide)⟩
  exact ((hshell.mpr hblanks).ok_iff ⟨.production, _⟩).mpr ⟨rfl, by decide, hruns⟩

/-- A no-break space separates words of a command, and is one of the characters of a field. -/
theorem no_break_space_splits :
    ofLine .worker "celery\u00A0-A" = .ok ⟨.worker, ["celery", "-A"]⟩ ∧
      Text.AreRuns Shell.isSeparator "celery\u00A0-A".toList ["celery\u00A0-A".toList] ∧
      ¬ SplitsAt Shell.isSeparator .worker "celery\u00A0-A" := by
  have hline : ofLine .worker "celery\u00A0-A" = .ok ⟨.worker, ["celery", "-A"]⟩ := by cbv
  have hfield : Text.runs Shell.isSeparator "celery\u00A0-A".toList =
      ["celery\u00A0-A".toList] := by
    cbv
  refine ⟨hline, Text.areRuns_iff.mpr hfield.symm, ?_⟩
  intro hshell
  obtain ⟨-, -, hruns⟩ := (hshell.ok_iff _).mp hline
  rw [Text.areRuns_iff, hfield] at hruns
  exact absurd (congrArg List.length hruns) (by decide)

/-! ### What is shown of a command -/

lemma toList_display (command : Command) :
    command.display.toList = [' '].intercalate (command.words.map String.toList) := by
  rw [display, String.toList_intercalate]
  rfl

/-- A command that a line was split into. -/
structure IsSplitFrom (command : Command) (mode : Mode) (line : String) : Prop where
  mode_eq : command.mode = mode
  nonempty : ∀ word ∈ command.words, word ≠ ""
  solid : ∀ word ∈ command.words, ∀ c ∈ word.toList, Text.isBlank c = false
  join_eq : String.join command.words = String.ofList (line.toList.filter (!Text.isBlank ·))
  program_args : command.program :: command.args = command.words
  reads_back : ofLine mode command.display = .ok command

lemma isSplitFrom_of_ok {mode : Mode} {line : String} {command : Command}
    (h : ofLine mode line = .ok command) : command.IsSplitFrom mode line := by
  obtain ⟨hmode, hne, hruns⟩ := ofLine_eq_ok_iff.mp h
  rw [Text.areRuns_iff] at hruns
  have hwords : ∀ text ∈ command.words.map String.toList,
      text ≠ [] ∧ ∀ c ∈ text, Text.isBlank c = false := by
    intro text htext
    rw [hruns] at htext
    exact Text.solid_of_mem_runs htext
  constructor
  case mode_eq => exact hmode
  case nonempty =>
    rintro word hword rfl
    exact (hwords _ (List.mem_map_of_mem hword)).1 rfl
  case solid => exact fun word hword => (hwords _ (List.mem_map_of_mem hword)).2
  case join_eq =>
    rw [← String.toList_inj, String.toList_join, String.toList_ofList, ← Text.flatten_runs,
      ← hruns, List.flatMap_def]
  case program_args =>
    rw [program, args]
    cases hcases : command.words with
    | nil => exact absurd hcases hne
    | cons word rest => rfl
  case reads_back =>
    refine ofLine_eq_ok_iff.mpr ⟨hmode, hne, Text.areRuns_iff.mpr ?_⟩
    rw [toList_display, Text.runs_intercalate (by decide) hwords]

end Command

lemma Handover.reported {σ : Type} {launcher : Launcher σ} {progress : Progress σ}
    {result : Except StartError Ready} {started : Ended σ Unit}
    (h : Handover launcher progress result started)
    (hnone : progress.steps.filterMap Step.launch? = []) {command : Command} {env : Environment}
    (hmem : (command, env) ∈ started.launches) :
    ∃ done after, started.steps = progress.steps ++
      .logged (.launching .exec command) :: .launched command env done :: after := by
  cases h with
  | aborted error =>
    rw [Ended.launches, List.filterMap_append, hnone] at hmem
    exact absurd hmem List.not_mem_nil
  | launched ready launch =>
    rw [Ended.launches, List.filterMap_append, hnone] at hmem
    obtain ⟨rfl, rfl⟩ := Prod.mk.inj (List.mem_singleton.mp hmem)
    exact ⟨_, _, rfl⟩
  | launchFails ready launch =>
    rw [Ended.launches, List.filterMap_append, hnone] at hmem
    obtain ⟨rfl, rfl⟩ := Prod.mk.inj (List.mem_singleton.mp hmem)
    exact ⟨_, _, rfl⟩

namespace Command

/-- Whatever its tasks and its launcher do, a start that hands over to the command has reported a
line for it right before. -/
def IsShown (command : Command) : Prop :=
  ∀ (σ : Type) (host : Host σ) (launcher : Launcher σ) (paths : StartPaths) (base : Environment)
    (passthrough : List String) (state : σ) (env : Environment),
    (command, env) ∈ (startSite host launcher paths base passthrough state).launches →
    ∃ before event line done after,
      (startSite host launcher paths base passthrough state).steps =
        before ++ .logged event :: .launched command env done :: after ∧
      event.message = "Launching terminal command" ∧
      event.fields.lookup "command" = some (.text line) ∧
      ofLine command.mode line = .ok command

/-- A command that a line was split into is all of the line but its blanks, and the log of a start
that hands over to it shows it as a line that is split into the command again. -/
theorem ofLine_isShown {mode : Mode} {line : String} {command : Command}
    (h : ofLine mode line = .ok command) : command.IsSplitFrom mode line ∧ command.IsShown := by
  have hsplit := isSplitFrom_of_ok h
  refine ⟨hsplit, ?_⟩
  intro σ host launcher paths base passthrough state env hmem
  obtain ⟨progress, result, hcourse, -, hhandover⟩ :=
    startSite_course host launcher paths base passthrough state
  obtain ⟨done, after, hsteps⟩ := hhandover.reported hcourse.launch?_eq_nil hmem
  refine ⟨progress.steps, .launching .exec command, command.display, done, after, hsteps, rfl, rfl,
    ?_⟩
  rw [hsplit.mode_eq]
  exact hsplit.reads_back

/-- A worker's line with blanks of several kinds. -/
def workerLine : String := "\u2003celery\u00A0-A \t app\n"

def workerBase : Environment :=
  ((Environment.empty.set "DOCKER_ENV" "production").set "IS_CELERY" "true").set "CELERY_CMD"
    workerLine

def allSucceed : Script := ⟨fun _ => .nothing, fun _ => none⟩

def workerStart : Ended FileTree Unit :=
  startSite (allSucceed.host ⟨[]⟩) (rehearsedLauncher none) missingPaths workerBase [] .base

def celeryApp : Command := ⟨.worker, ["celery", "-A", "app"]⟩

theorem ofLine_isShown_celeryApp :
    ofLine .worker workerLine = .ok celeryApp ∧ celeryApp.IsSplitFrom .worker workerLine ∧
      workerStart.launches = [(celeryApp, workerBase)] ∧
      ∃ before event line done after,
        workerStart.steps = before ++ .logged event :: .launched celeryApp workerBase done :: after ∧
        event.fields.lookup "command" = some (.text line) ∧
        ofLine .worker line = .ok celeryApp := by
  have hline : ofLine .worker workerLine = .ok celeryApp := by cbv
  have hlaunches : workerStart.launches = [(celeryApp, workerBase)] := by cbv
  obtain ⟨hsplit, hshown⟩ := ofLine_isShown hline
  obtain ⟨before, event, line, done, after, hsteps, -, hfield, hreads⟩ :=
    hshown FileTree (allSucceed.host ⟨[]⟩) (rehearsedLauncher none) missingPaths workerBase []
      .base workerBase (hlaunches ▸ List.mem_singleton_self _)
  exact ⟨hline, hsplit, hlaunches, before, event, line, done, after, hsteps, hfield, hreads⟩

end Command

end SiteBoot
