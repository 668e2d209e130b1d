import SiteBoot.CommandLine.Parser
import SiteBoot.Proofs.Text.RawText
/-!
# Options that are written out

Options can be written out as arguments `--name=value`, in any order, before two hyphens and the
words of the command. Reading such a command line gives the same options back, and those that
were not given from the variables of the process.

The proof looks at options through `Options.values`, the values for each name as they stand on a
command line: what one argument or one variable adds is one lemma for all names.
-/

namespace SiteBoot.CommandLine

/-- What the value of an option must be. -/
def OptionName.IsValue : OptionName → RawText → Prop
  | arg, value | level, value => ∃ text : String, value = .ofString text
  | format, value => ∃ format : LogFormat, value = .ofString format.name
  | _, value => value ≠ .nothing

def OptionName.standInValue? (name : OptionName) (process : ProcessEnvironment) : Option RawText :=
  name.standIn?.bind (process.get? ·)

/-- An option with a value, as one argument. -/
def argument (option : OptionName × RawText) : RawText :=
  .ofString "--" ++ .ofString option.1.text ++ .ofString "=" ++ option.2

namespace Options

/-- The values of an option, as they stand on a command line. -/
def values (options : Options) : OptionName → List RawText
  | .config => options.config.toList
  | .program => options.program.toList
  | .arg => options.args.map RawText.ofString
  | .workdir => options.workdir.toList
  | .logFile => options.logFile.toList
  | .lockFile => options.lockFile.toList
  | .profile => options.profile.toList
  | .overrideFile => options.overrideFile.toList
  | .format => options.format.toList.map fun format => .ofString format.name
  | .level => options.level.toList.map RawText.ofString

def paths (options : Options) : List (Option RawText) :=
  [options.config, options.program, options.workdir, options.logFile, options.lockFile,
    options.profile, options.overrideFile]

/-- Options with values write out what is given: each option with its values, these in their
order. The options themselves may come in any order. -/
def IsRendering (given : Options) (rendered : List (OptionName × RawText)) : Prop :=
  ∀ name, (rendered.filter (·.1 = name)).map Prod.snd = given.values name

/-- What is given, and the variables of the process for what is not. -/
def completed (given : Options) (process : ProcessEnvironment) : Options where
  config := given.config.or (OptionName.config.standInValue? process)
  program := given.program.or (OptionName.program.standInValue? process)
  args := given.args
  workdir := given.workdir.or (OptionName.workdir.standInValue? process)
  logFile := given.logFile.or (OptionName.logFile.standInValue? process)
  lockFile := given.lockFile.or (OptionName.lockFile.standInValue? process)
  profile := given.profile.or (OptionName.profile.standInValue? process)
  overrideFile := given.overrideFile.or (OptionName.overrideFile.standInValue? process)
  format := given.format.or
    (((OptionName.format.standInValue? process).bind RawText.text?).bind LogFormat.ofName?)
  level := given.level.or ((OptionName.level.standInValue? process).bind RawText.text?)
  command := given.command

end Options

/-! ### Arguments -/

lemma ofRaw_argument (name : OptionName) (value : RawText) :
    Argument.ofRaw (argument (name, value)) = .option name (some value) := by
  have hbytes : (argument (name, value)).bytes =
      0x2D :: 0x2D :: ((RawText.ofString name.text).bytes ++ 0x3D :: value.bytes) := by
    have hhyphens : (RawText.ofString "--").bytes = [0x2D, 0x2D] := by decide
    have hequals : (RawText.ofString "=").bytes = [0x3D] := by decide
    simp [argument, hhyphens, hequals]
  have hname : 0x3D ∉ (RawText.ofString name.text).bytes := by
    rw [RawText.equals_mem_bytes_iff]
    cases name <;> decide
  have hcut : RawText.cut? ⟨(RawText.ofString name.text).bytes ++ 0x3D :: value.bytes⟩ 0x3D =
      some (.ofString name.text, value) := RawText.cut?_append hname value.bytes
  rw [Argument.ofRaw, hbytes]
  split
  · rename_i heq
    simp at heq
  · rename_i rest heq
    obtain rfl := (List.cons.inj (List.cons.inj heq).2).2
    simp [hcut, Argument.ofLong, OptionName.ofText?_text]
  · rename_i rest hrest heq
    exact absurd (List.cons.inj heq).2.symm (hrest _)
  · rename_i hother
    exact absurd rfl (hother _)

/-! ### Values -/

namespace Options

variable {options given : Options} {name : OptionName} {value : RawText}

lemma eq_of_values {other : Options} (hvalues : options.values = other.values)
    (hcommand : options.command = other.command) : options = other := by
  have htext : Function.Injective (List.map RawText.ofString) :=
    List.map_injective_iff.mpr RawText.ofString_injective
  have hformat : Function.Injective
      (List.map fun format : LogFormat => RawText.ofString format.name) := by
    refine List.map_injective_iff.mpr fun format format' h => ?_
    have hname := congrArg LogFormat.ofName? (RawText.ofString_injective h)
    rw [LogFormat.ofName?_name, LogFormat.ofName?_name] at hname
    exact Option.some.inj hname
  have hsingle : ∀ {α : Type} {first second : Option α}, first.toList = second.toList →
      first = second := by
    intro α first second h
    simpa using congrArg List.head? h
  have hvalue : ∀ name, options.values name = other.values name := congrFun hvalues
  have hconfig := hsingle (hvalue .config)
  have hprogram := hsingle (hvalue .program)
  have hargs := htext (hvalue .arg)
  have hworkdir := hsingle (hvalue .workdir)
  have hlogFile := hsingle (hvalue .logFile)
  have hlockFile := hsingle (hvalue .lockFile)
  have hprofile := hsingle (hvalue .profile)
  have hoverrideFile := hsingle (hvalue .overrideFile)
  have hformats := hsingle (hformat (hvalue .format))
  have hlevel := hsingle (htext (hvalue .level))
  cases options
  cases other
  simp_all only

lemma length_values_le (h : name ≠ .arg) : (options.values name).length ≤ 1 := by
  cases name <;> simp [values, Option.length_toList_le] at h ⊢

lemma has_eq_false_iff : options.has name = false ↔ name = .arg ∨ options.values name = [] := by
  cases name <;> simp [has, values]

/-- A value for an option is added to its values, and nothing else changes. -/
lemma set_values (hvalue : name.IsValue value) (hfree : options.has name = false) :
    ∃ next, options.set name value = .ok next ∧ next.command = options.command ∧
      next.values name = options.values name ++ [value] ∧
      ∀ other ≠ name, next.values other = options.values other := by
  have hempty : name ≠ .arg → options.values name = [] :=
    fun hname => (has_eq_false_iff.mp hfree).resolve_left hname
  have htext : ∀ text, readText (.ofString text) = .ok text := by
    intro text
    rw [readText, RawText.text?_ofString]
  cases name
  case arg =>
    obtain ⟨text, rfl⟩ := hvalue
    simp only [set, htext]
    refine ⟨_, rfl, rfl, List.map_append, fun other hother => ?_⟩
    cases other <;> first | rfl | contradiction
  case level =>
    obtain ⟨text, rfl⟩ := hvalue
    simp only [set, htext, hempty OptionName.noConfusion]
    refine ⟨_, rfl, rfl, rfl, fun other hother => ?_⟩
    cases other <;> first | rfl | contradiction
  case format =>
    obtain ⟨format, rfl⟩ := hvalue
    have hformat : readFormat (.ofString format.name) = .ok format := by
      rw [readFormat, RawText.text?_ofString, Option.bind_some, LogFormat.ofName?_name]
    simp only [set, hformat, hempty OptionName.noConfusion]
    refine ⟨_, rfl, rfl, rfl, fun other hother => ?_⟩
    cases other <;> first | rfl | contradiction
  all_goals
    have hpath : readPath value = .ok value := by
      have hne : value.isEmpty = false := by
        rw [RawText.isEmpty, List.isEmpty_eq_false_iff]
        exact fun hbytes => hvalue (congrArg RawText.mk hbytes)
      rw [readPath, hne]
      rfl
    simp only [set, hpath, hempty OptionName.noConfusion]
    refine ⟨_, rfl, rfl, rfl, fun other hother => ?_⟩
    cases other <;> first | rfl | contradiction

lemma isValue_of_mem (hpaths : some .nothing ∉ given.paths) (h : value ∈ given.values name) :
    name.IsValue value := by
  cases name
  case arg =>
    obtain ⟨text, -, rfl⟩ := List.mem_map.mp h
    exact ⟨text, rfl⟩
  case level =>
    obtain ⟨text, -, rfl⟩ := List.mem_map.mp h
    exact ⟨text, rfl⟩
  case format =>
    obtain ⟨format, -, rfl⟩ := List.mem_map.mp h
    exact ⟨format, rfl⟩
  all_goals
    rintro rfl
    refine hpaths ?_
    rw [paths, ← Option.mem_toList.mp h]
    simp

end Options

/-! ### Reading the arguments -/

lemma withCommand_ofString (options : Options) (words : List String) :
    withCommand options (words.map RawText.ofString) = .ok { options with command := words } := by
  have hwords : (words.map RawText.ofString).mapM Options.readText = .ok words := by
    induction words with
    | nil => rfl
    | cons word rest ih =>
      rw [List.map_cons, List.mapM_cons, ih, Options.readText, RawText.text?_ofString]
      rfl
  rw [withCommand, hwords]
  rfl

lemma readArguments_rendered {given read : Options} {rendered : List (OptionName × RawText)}
    (hpaths : some .nothing ∉ given.paths)
    (hvalues : ∀ name, given.values name =
      read.values name ++ (rendered.filter (·.1 = name)).map Prod.snd) :
    readArguments ⟨read, none⟩ (rendered.map argument ++
      .ofString "--" :: given.command.map RawText.ofString) = .ok given := by
  have hawaiting : ∀ options : Options, Reading.awaiting? ⟨options, none⟩ ≠ some .arg :=
    fun _ h => nomatch h
  induction rendered generalizing read with
  | nil =>
    have hseparator : Argument.ofRaw (.ofString "--") = .separator := by decide
    have hread : read.values = given.values := by
      funext name
      simp [hvalues]
    rw [List.map_nil, List.nil_append, readArguments, if_neg (hawaiting read), hseparator]
    refine (withCommand_ofString read given.command).trans (congrArg Except.ok ?_)
    refine Options.eq_of_values (funext fun name => ?_) rfl
    rw [← hread]
    cases name <;> rfl
  | cons option rest ih =>
    obtain ⟨name, value⟩ := option
    have hmem : value ∈ given.values name := by
      simp [hvalues]
    have hfree : read.has name = false := by
      rw [Options.has_eq_false_iff]
      by_cases hname : name = .arg
      · exact .inl hname
      · have hlength := given.length_values_le hname
        rw [hvalues, List.length_append, List.filter_cons_of_pos (by simp), List.map_cons,
          List.length_cons] at hlength
        exact .inr (List.eq_nil_of_length_eq_zero (by omega))
    obtain ⟨next, hset, -, hnext, hothers⟩ :=
      Options.set_values (Options.isValue_of_mem hpaths hmem) hfree
    have hgive : Reading.give read name value = .ok next := by
      rw [Reading.give, hfree, if_neg Bool.false_ne_true, hset]
    rw [List.map_cons, List.cons_append, readArguments, if_neg (hawaiting read), ofRaw_argument]
    change (Reading.give read name value >>= _) = _
    rw [hgive]
    refine ih fun other => ?_
    by_cases hother : other = name
    · rw [hother, hnext, hvalues, List.filter_cons_of_pos (by simp), List.map_cons,
        List.append_assoc, List.singleton_append]
    · rw [hothers other hother, hvalues, List.filter_cons_of_neg (by simpa using Ne.symm hother)]

/-! ### Variables -/

section Variables

variable {process : ProcessEnvironment} {given : Options}

lemma withVariables_cons {name : OptionName} (rest : List OptionName)
    (hvalid : given.values name = [] → ∀ value, name.standInValue? process = some value →
      name.IsValue value) :
    ∃ next, withVariables process (name :: rest) given = withVariables process rest next ∧
      next.command = given.command ∧
      (next.values name =
        if given.values name = [] then (name.standInValue? process).toList else given.values name) ∧
      ∀ other ≠ name, next.values other = given.values other := by
  rw [withVariables, ← OptionName.standInValue?]
  cases hvariable : name.standInValue? process with
  | none =>
    refine ⟨given, rfl, rfl, ?_, fun _ _ => rfl⟩
    by_cases hvalues : given.values name = []
    · rw [if_pos hvalues, hvalues, Option.toList_none]
    · rw [if_neg hvalues]
  | some value =>
    dsimp only
    have harg : name ≠ .arg := by
      rintro rfl
      contradiction
    by_cases hvalues : given.values name = []
    · have hfree : given.has name = false := Options.has_eq_false_iff.mpr (.inr hvalues)
      obtain ⟨next, hset, hcommand, hnext, hothers⟩ :=
        Options.set_values (hvalid hvalues value hvariable) hfree
      refine ⟨next, ?_, hcommand, ?_, hothers⟩
      · rw [hfree, if_neg Bool.false_ne_true, hset]
        rfl
      · rw [hnext, hvalues, if_pos rfl]
        rfl
    · have hgiven : given.has name = true := by
        rw [← Bool.not_eq_false, Options.has_eq_false_iff]
        exact not_or_intro harg hvalues
      refine ⟨given, by rw [if_pos hgiven], rfl, by rw [if_neg hvalues], fun _ _ => rfl⟩

lemma withVariables_values {names : List OptionName} (hnodup : names.Nodup)
    (hvalid : ∀ name ∈ names, given.values name = [] →
      ∀ value, name.standInValue? process = some value → name.IsValue value) :
    ∃ result, withVariables process names given = .ok result ∧ result.command = given.command ∧
      ∀ name, result.values name =
        if name ∈ names ∧ given.values name = [] then (name.standInValue? process).toList
        else given.values name := by
  induction names generalizing given with
  | nil => exact ⟨given, rfl, rfl, fun name => by simp⟩
  | cons first rest ih =>
    obtain ⟨hfirst, hrest⟩ := List.nodup_cons.mp hnodup
    obtain ⟨hvalidFirst, hvalidRest⟩ := List.forall_mem_cons.mp hvalid
    obtain ⟨next, hstep, hcommand, hnext, hothers⟩ := withVariables_cons rest hvalidFirst
    have hne : ∀ name ∈ rest, name ≠ first := fun name hname heq => hfirst (heq ▸ hname)
    have hvalidNext : ∀ name ∈ rest, next.values name = [] →
        ∀ value, name.standInValue? process = some value → name.IsValue value := by
      intro name hname hempty
      rw [hothers name (hne name hname)] at hempty
      exact hvalidRest name hname hempty
    obtain ⟨result, hresult, hcommands, hvalues⟩ := ih hrest hvalidNext
    refine ⟨result, hstep.trans hresult, hcommands.trans hcommand, fun name => ?_⟩
    rw [hvalues]
    by_cases hname : name = first
    · rw [hname, if_neg (fun h => hfirst h.1), hnext]
      simp
    · rw [hothers name hname]
      simp [hname]

end Variables

/-! ### Reading what was written out -/

namespace Options

variable {process : ProcessEnvironment} {given : Options}

lemma values_completed
    (hvalid : ∀ name, given.values name = [] → ∀ value, name.standInValue? process = some value →
      name.IsValue value) (name : OptionName) :
    (given.completed process).values name =
      if given.values name = [] then (name.standInValue? process).toList
      else given.values name := by
  have hor : ∀ {α : Type} (first second : Option α),
      (first.or second).toList = if first.toList = [] then second.toList else first.toList := by
    rintro α (_ | value) second
    · rfl
    · rfl
  cases name
  case arg =>
    by_cases hargs : given.values .arg = []
    · rw [if_pos hargs]
      exact hargs
    · rw [if_neg hargs]
      rfl
  case level =>
    cases hlevel : given.level with
    | some text => simp [completed, values, hlevel]
    | none =>
      cases hvariable : OptionName.level.standInValue? process with
      | none => simp [completed, values, hlevel, hvariable]
      | some value =>
        obtain ⟨text, rfl⟩ := hvalid .level (by simp [values, hlevel]) value hvariable
        simp [completed, values, hlevel, hvariable]
  case format =>
    cases hformat : given.format with
    | some format => simp [completed, values, hformat]
    | none =>
      cases hvariable : OptionName.format.standInValue? process with
      | none => simp [completed, values, hformat, hvariable]
      | some value =>
        obtain ⟨format, rfl⟩ := hvalid .format (by simp [values, hformat]) value hvariable
        simp [completed, values, hformat, hvariable, LogFormat.ofName?_name]
  all_goals exact hor _ _

/-- Options that are written out, in any order, come through reading as they are. What is not
given has the value of its variable, and the variables of what is given do not matter. -/
theorem parse_rendered {rendered : List (OptionName × RawText)}
    (renders : given.IsRendering rendered) (paths : some .nothing ∉ given.paths)
    (standIns : ∀ name, given.values name = [] →
      ∀ value, name.standInValue? process = some value → name.IsValue value) :
    Options.parse process (rendered.map argument ++
      .ofString "--" :: given.command.map RawText.ofString) = .ok (given.completed process) := by
  have hread : readArguments ⟨.nothing, none⟩ (rendered.map argument ++
      .ofString "--" :: given.command.map RawText.ofString) = .ok given := by
    refine readArguments_rendered paths fun name => ?_
    have hnothing : Options.nothing.values name = [] := by cases name <;> rfl
    rw [hnothing, List.nil_append, renders name]
  have hnodup : OptionName.all.Nodup := by decide
  have hall : ∀ name, name ∈ OptionName.all := by
    intro name
    cases name <;> decide
  obtain ⟨result, hresult, hcommand, hvalues⟩ :=
    withVariables_values hnodup fun name _ => standIns name
  have hcompleted : result = given.completed process := by
    refine eq_of_values (funext fun name => ?_) hcommand
    rw [hvalues, values_completed standIns]
    simp [hall]
  rw [parse, hread]
  exact hresult.trans (congrArg Except.ok hcompleted)

/-- Values that look like other options, and words that look like flags. -/
def lookalikes : Options where
  config := some "=x=--log-level"
  program := none
  args := ["--config=z", "", "b"]
  workdir := none
  logFile := none
  lockFile := none
  profile := none
  overrideFile := none
  format := some .json
  level := some ""
  command := ["--", "", "-V", "--config=y"]

def emptyConfig : ProcessEnvironment :=
  ⟨[("ENTRYPOINT_CONFIG", ""), ("ENTRYPOINT_WORKDIR", "site")]⟩

theorem parse_rendered_lookalikes :
    parse emptyConfig
        ["--invoke-arg=--config=z", "--log-format=json", "--invoke-arg=", "--log-level=",
          "--config==x=--log-level", "--invoke-arg=b", "--", "--", "", "-V", "--config=y"] =
      .ok { lookalikes with workdir := some "site" } := by
  have hrenders : lookalikes.IsRendering [(.arg, "--config=z"), (.format, "json"), (.arg, ""),
      (.level, ""), (.config, "=x=--log-level"), (.arg, "b")] := by
    intro name
    cases name <;> decide
  have hstandIns : ∀ name, lookalikes.values name = [] →
      ∀ value, name.standInValue? emptyConfig = some value → name.IsValue value := by
    intro name hempty value hvariable
    have hlookup : lookalikes.values name ≠ [] ∨ name.standInValue? emptyConfig = none ∨
        name = .workdir := by
      cases name <;> decide
    obtain hgiven | hnone | rfl := hlookup
    · exact absurd hempty hgiven
    · exact nomatch hnone.symm.trans hvariable
    · rintro rfl
      exact absurd hvariable (by decide)
  refine (parse_rendered hrenders (by decide) hstandIns).trans ?_
  decide

end Options

end SiteBoot.CommandLine
