import SiteBoot.Proofs.EnvFile.Overlay
/-!
# Sourcing a file in one scope

An overlay keeps the environment and the names that are local to the file apart. A shell has one
scope for both. `source` is the evaluation in one scope, and the two maps always stand for it: a
name is in the environment if the file exports it anywhere or it was there before, and local
otherwise, from its first assignment to its last.
-/

namespace SiteBoot

/-- The variables whose names are kept. -/
def Environment.restrict (env : Environment) (keeps : String → Bool) : Environment :=
  ⟨env.vars.filter fun entry => keeps entry.1, env.sorted.filter _⟩

lemma lookup_filter_fst (keeps : String → Bool) (entries : List (String × String))
    (name : String) :
    (entries.filter fun entry => keeps entry.1).lookup name =
      if keeps name then entries.lookup name else none := by
  induction entries with
  | nil => simp
  | cons entry rest ih =>
    obtain ⟨n, v⟩ := entry
    rw [List.filter_cons, lookup_cons_eq_ite]
    by_cases hname : name = n
    · subst hname
      by_cases hkeeps : keeps name
      · simp [hkeeps]
      · simp [hkeeps, ih]
    · by_cases hkeeps : keeps n
      · simp [hkeeps, lookup_cons_eq_ite, hname, ih]
      · simp [hkeeps, hname, ih]

@[simp] lemma Environment.get?_restrict (env : Environment) (keeps : String → Bool)
    (name : String) :
    (env.restrict keeps).get? name = if keeps name then env.get? name else none :=
  lookup_filter_fst keeps env.vars name

lemma Environment.has_set {env : Environment} {other : String} (h : env.has other)
    (name value : String) : (env.set name value).has other := by
  rw [Environment.has, Environment.get?_set]
  split
  · rfl
  · exact h

namespace EnvFile

def Item.assignment? : Item → Option Assignment
  | .assignment given => some given
  | .skipped _ => none

def assignments (items : List Item) : List Assignment := items.filterMap Item.assignment?

namespace Assignment

def name (assignment : Assignment) : String := String.ofList assignment.key

/-- The value of an assignment in one scope: references mean what the scope holds, else what the
process was given. -/
def valueIn (process : ProcessEnvironment) (scope : Environment) (assignment : Assignment) :
    String :=
  String.ofList (expand (charValue? (scope.valueIn process)) assignment.raw)

end Assignment

/-- One scope in which assignments are made one after the other. -/
def source (process : ProcessEnvironment) (scope : Environment) (given : List Assignment) :
    Environment :=
  given.foldl (fun scope assignment =>
    scope.set assignment.name (assignment.valueIn process scope)) scope

/-- Whether a name belongs to the environment: it was there before, or the file exports it. -/
def keeps (base : Environment) (exported : List (List Char)) (name : String) : Bool :=
  base.has name || exported.contains name.toList

def Item.remark? (keeps : String → Bool) : Item → Option Remark
  | .skipped text => some (.skipped (String.ofList text))
  | .assignment given => if keeps given.name then none else some (.keptLocal given.name)

section Represents

variable {base : Environment} {process : ProcessEnvironment} {exported : List (List Char)}

/-- The two maps of an overlay stand for one scope. -/
structure Scope.Represents (base : Environment) (exported : List (List Char)) (scope : Scope)
    (whole : Environment) : Prop where
  get? : ∀ name, whole.get? name =
    (scope.env.get? name).orElse fun _ => scope.locals.lookup name
  grows : ∀ name, base.has name → scope.env.has name
  env : ∀ name, scope.env.has name → keeps base exported name
  locals : ∀ name, (scope.locals.lookup name).isSome → keeps base exported name = false

lemma represents_start : Scope.Represents base exported ⟨base, [], 0⟩ base := by
  constructor
  · intro name
    simp
  · exact fun _ h => h
  · intro name h
    simp [keeps, h]
  · intro name h
    simp at h

namespace Scope.Represents

variable {scope : Scope} {whole : Environment}

lemma disjoint (h : scope.Represents base exported whole) {name : String}
    (henv : scope.env.has name) : scope.locals.lookup name = none := by
  by_contra hlocal
  have hnot := h.locals name (Option.isSome_iff_ne_none.mpr hlocal)
  rw [h.env name henv] at hnot
  contradiction

lemma value? (h : scope.Represents base exported whole) (name : String) :
    scope.value? process name = whole.valueIn process name := by
  rw [Scope.value?, Environment.valueIn, h.get?]
  cases scope.env.get? name with
  | none => rfl
  | some value => rfl

lemma isKept_eq (h : scope.Represents base exported whole) (assignment : Assignment) :
    (exported.contains assignment.key || scope.env.has assignment.name) =
      keeps base exported assignment.name := by
  have hkey : assignment.name.toList = assignment.key := String.toList_ofList
  have hgrows := h.grows assignment.name
  have henv := h.env assignment.name
  rw [keeps, hkey] at henv ⊢
  cases hexported : exported.contains assignment.key with
  | true => simp
  | false =>
    rw [hexported, Bool.or_false] at henv
    rw [Bool.false_or, Bool.or_false, Bool.eq_iff_iff]
    exact ⟨henv, hgrows⟩

lemma assign_eq (h : scope.Represents base exported whole) (process : ProcessEnvironment)
    (assignment : Assignment) :
    scope.assign process exported assignment =
      let name := assignment.name
      let value := assignment.valueIn process whole
      let others := scope.locals.filter (·.1 ≠ name)
      if keeps base exported name then (⟨scope.env.set name value, others, scope.count + 1⟩, false)
      else (⟨scope.env, (name, value) :: others, scope.count⟩, true) := by
  have hvalue : (fun chars => (scope.value? process (String.ofList chars)).map String.toList) =
      charValue? (whole.valueIn process) := by
    funext chars
    rw [h.value?, charValue?]
  have hkept := h.isKept_eq assignment
  rw [Scope.assign, hvalue]
  dsimp only
  rw [← hkept]
  rfl

lemma assign (h : scope.Represents base exported whole) (process : ProcessEnvironment)
    (assignment : Assignment) :
    (scope.assign process exported assignment).1.Represents base exported
      (whole.set assignment.name (assignment.valueIn process whole)) := by
  have hothers : ∀ name, (scope.locals.filter (·.1 ≠ assignment.name)).lookup name =
      if name ≠ assignment.name then scope.locals.lookup name else none := by
    intro name
    have hfilter := lookup_filter_fst (fun name => name ≠ assignment.name) scope.locals name
    simpa using hfilter
  rw [h.assign_eq]
  dsimp only
  by_cases hkept : keeps base exported assignment.name
  · rw [if_pos hkept]
    constructor
    · intro name
      dsimp only
      rw [Environment.get?_set, Environment.get?_set, hothers, h.get?]
      by_cases hname : name = assignment.name
      · simp [hname]
      · simp [hname]
    · exact fun name hbase => Environment.has_set (h.grows name hbase) _ _
    · intro name hhas
      rw [Environment.has, Environment.get?_set] at hhas
      by_cases hname : name = assignment.name
      · rw [hname]
        exact hkept
      · rw [if_neg hname] at hhas
        exact h.env name hhas
    · intro name hlocal
      dsimp only at hlocal
      rw [hothers] at hlocal
      by_cases hname : name = assignment.name
      · simp [hname] at hlocal
      · rw [if_pos hname] at hlocal
        exact h.locals name hlocal
  · rw [if_neg hkept]
    -- a name that is not kept is not in the environment, which would hide its new value
    have hmissing : scope.env.get? assignment.name = none := by
      by_contra hsome
      exact hkept (h.env _ (Option.isSome_iff_ne_none.mpr hsome))
    constructor
    · intro name
      dsimp only
      rw [Environment.get?_set, lookup_cons_eq_ite, hothers, h.get?]
      by_cases hname : name = assignment.name
      · simp [hname, hmissing]
      · simp [hname]
    · exact h.grows
    · exact h.env
    · intro name hlocal
      dsimp only at hlocal
      rw [lookup_cons_eq_ite, hothers] at hlocal
      by_cases hname : name = assignment.name
      · rw [hname]
        simpa using hkept
      · rw [if_neg hname, if_pos hname] at hlocal
        exact h.locals name hlocal

lemma apply (h : scope.Represents base exported whole) (process : ProcessEnvironment)
    (items : List Item) :
    (Scope.apply process exported scope items).1.Represents base exported
      (source process whole (assignments items)) := by
  induction items generalizing scope whole with
  | nil => exact h
  | cons item items ih =>
    cases item with
    | skipped text => exact ih h
    | assignment given => exact ih (h.assign process given)

lemma apply_count (h : scope.Represents base exported whole) (process : ProcessEnvironment)
    (items : List Item) :
    (Scope.apply process exported scope items).1.count =
      scope.count + (assignments items).countP fun given => keeps base exported given.name := by
  induction items generalizing scope whole with
  | nil => rfl
  | cons item items ih =>
    cases item with
    | skipped text => exact ih h
    | assignment given =>
      have hnext := ih (h.assign process given)
      have hcount : assignments (.assignment given :: items) = given :: assignments items := rfl
      rw [Scope.apply, hcount, List.countP_cons]
      dsimp only
      rw [hnext, h.assign_eq]
      dsimp only
      by_cases hkept : keeps base exported given.name
      · rw [if_pos hkept, if_pos hkept]
        dsimp only
        omega
      · rw [if_neg hkept, if_neg hkept]
        rfl

lemma apply_remarks (h : scope.Represents base exported whole) (process : ProcessEnvironment)
    (items : List Item) :
    (Scope.apply process exported scope items).2 =
      items.filterMap (Item.remark? (keeps base exported)) := by
  induction items generalizing scope whole with
  | nil => rfl
  | cons item items ih =>
    cases item with
    | skipped text =>
      have hrest := ih h
      rw [Scope.apply]
      dsimp only
      rw [hrest]
      rfl
    | assignment given =>
      have hrest := ih (h.assign process given)
      rw [Scope.apply]
      dsimp only
      rw [hrest, h.assign_eq, List.filterMap_cons, Item.remark?]
      dsimp only
      by_cases hkept : keeps base exported given.name
      · rw [if_pos hkept, if_pos hkept]
        rfl
      · rw [if_neg hkept, if_neg hkept]
        rfl

lemma env_eq (h : scope.Represents base exported whole) :
    scope.env = whole.restrict (keeps base exported) := by
  ext name : 1
  rw [Environment.get?_restrict, h.get?]
  by_cases hkept : keeps base exported name
  · have hlocal : scope.locals.lookup name = none := by
      by_contra hsome
      have hnot := h.locals name (Option.isSome_iff_ne_none.mpr hsome)
      rw [hkept] at hnot
      contradiction
    simp [hkept, hlocal]
  · have hmissing : scope.env.get? name = none := by
      by_contra hsome
      exact hkept (h.env name (Option.isSome_iff_ne_none.mpr hsome))
    rw [if_neg hkept, hmissing]

end Scope.Represents

end Represents

lemma get?_source_of_unassigned (process : ProcessEnvironment) (scope : Environment)
    {given : List Assignment} {name : String} (h : ∀ assignment ∈ given, assignment.name ≠ name) :
    (source process scope given).get? name = scope.get? name := by
  induction given generalizing scope with
  | nil => rfl
  | cons first rest ih =>
    obtain ⟨hfirst, hrest⟩ := List.forall_mem_cons.mp h
    have hset : source process scope (first :: rest) =
        source process (scope.set first.name (first.valueIn process scope)) rest := rfl
    rw [hset, ih _ hrest, Environment.get?_set, if_neg (Ne.symm hfirst)]

/-- An overlay is the file sourced in one scope, of which the names that are kept remain. -/
lemma overlayText_eq (base : Environment) (process : ProcessEnvironment) (content : String)
    {marked : Marked} (hmarked : marked = Marked.ofText content.toList) :
    let overlaid := overlayText process base content
    overlaid.1.env = (source process base (assignments (marked.items process))).restrict
        (keeps base marked.exported) ∧
      overlaid.1.count = (assignments (marked.items process)).countP
        (fun given => keeps base marked.exported given.name) ∧
      overlaid.2 =
        (marked.items process).filterMap (Item.remark? (keeps base marked.exported)) := by
  have hstart : Scope.Represents base marked.exported ⟨base, [], 0⟩ base := represents_start
  have hcount := hstart.apply_count process (marked.items process)
  rw [Nat.zero_add] at hcount
  rw [overlayText, ← hmarked]
  exact ⟨(hstart.apply process (marked.items process)).env_eq, hcount,
    hstart.apply_remarks process (marked.items process)⟩

lemma overlayText_env_of_exported (base : Environment) (process : ProcessEnvironment)
    {content : String} {given : List Assignment}
    (hgiven : assignments ((Marked.ofText content.toList).items process) = given)
    (hexported : ∀ assignment ∈ given,
      assignment.key ∈ (Marked.ofText content.toList).exported) :
    let overlaid := overlayText process base content
    overlaid.1.env = source process base given ∧ overlaid.1.count = given.length := by
  have hkept : ∀ assignment ∈ given,
      keeps base (Marked.ofText content.toList).exported assignment.name := by
    intro assignment hmem
    simp [keeps, Assignment.name, hexported assignment hmem]
  have hrestrict : (source process base given).restrict
      (keeps base (Marked.ofText content.toList).exported) = source process base given := by
    ext name : 1
    rw [Environment.get?_restrict]
    by_cases hname : keeps base (Marked.ofText content.toList).exported name
    · rw [if_pos hname]
    · -- what is not kept is not assigned to, and was not there before
      have hunassigned : ∀ assignment ∈ given, assignment.name ≠ name := by
        rintro assignment hmem rfl
        exact hname (hkept assignment hmem)
      have hmissing : base.get? name = none := by
        simp only [keeps, Environment.has, Bool.or_eq_true, not_or, Bool.not_eq_true,
          Option.isSome_eq_false_iff, Option.isNone_iff_eq_none] at hname
        exact hname.1
      rw [if_neg hname, get?_source_of_unassigned process base hunassigned, hmissing]
  obtain ⟨henv, hcount, -⟩ := overlayText_eq base process content rfl
  rw [hgiven, hrestrict] at henv
  rw [hgiven, List.countP_eq_length.mpr hkept] at hcount
  exact ⟨henv, hcount⟩

lemma overlayText_of_exported (base : Environment) (process : ProcessEnvironment)
    {content : String} {given : List Assignment}
    (hitems : (Marked.ofText content.toList).items process = given.map .assignment)
    (hexported : ∀ assignment ∈ given,
      assignment.key ∈ (Marked.ofText content.toList).exported) :
    let overlaid := overlayText process base content
    overlaid.1.env = source process base given ∧ overlaid.1.count = given.length ∧
      overlaid.2 = [] := by
  have hgiven : assignments ((Marked.ofText content.toList).items process) = given := by
    rw [hitems, assignments, List.filterMap_map]
    exact List.filterMap_some
  have hremarks : (given.map Item.assignment).filterMap
      (Item.remark? (keeps base (Marked.ofText content.toList).exported)) = [] := by
    rw [List.filterMap_map, List.filterMap_eq_nil_iff]
    intro assignment hmem
    simp [Item.remark?, keeps, Assignment.name, hexported assignment hmem]
  obtain ⟨henv, hcount⟩ := overlayText_env_of_exported base process hgiven hexported
  have hoverlaid := (overlayText_eq base process content rfl).2.2
  rw [hitems, hremarks] at hoverlaid
  exact ⟨henv, hcount, hoverlaid⟩

/-- What an overlay of a file comes to: the file sourced in one scope, of which the names that
belong to the environment are kept. -/
structure SourcesInOneScope (base : Environment) (process : ProcessEnvironment) (path : RawText)
    (marked : Marked) (outcome : Except EnvFileError Environment × List Event) : Prop where
  result : outcome.1 = .ok ((source process base (assignments (marked.items process))).restrict
    (keeps base marked.exported))
  /-- Each item that does not reach the environment is remarked on in its place, and the
  assignments that do are counted at the end. -/
  events : outcome.2 =
    ((marked.items process).filterMap (Item.remark? (keeps base marked.exported))).map
      (Remark.event path) ++
    [.environmentFileApplied path ((assignments (marked.items process)).countP
      fun given => keeps base marked.exported given.name)]
  /-- An assignment is to the environment or local to the file by its name alone, wherever it
  stands. -/
  alike : ∀ before given after, marked.items process = before ++ .assignment given :: after →
    let scope := (Scope.apply process marked.exported ⟨base, [], 0⟩ before).1
    (scope.assign process marked.exported given).2 = !keeps base marked.exported given.name
  /-- Nothing is ever both in the environment and local to the file. -/
  apart : ∀ before after, marked.items process = before ++ after → ∀ name,
    let scope := (Scope.apply process marked.exported ⟨base, [], 0⟩ before).1
    scope.env.has name → scope.locals.lookup name = none
  grows : ∀ env, outcome.1 = .ok env → ∀ name, base.has name → env.has name
  unassigned : ∀ env, outcome.1 = .ok env → ∀ name,
    (∀ given ∈ assignments (marked.items process), given.name ≠ name) →
    env.get? name = base.get? name
  /-- Only a line that exports a name adds it. -/
  exported : ∀ env, outcome.1 = .ok env → ∀ name, env.has name → base.has name = false →
    name.toList ∈ marked.exported

/-- The environment and the names local to a file are one scope, in which the file is sourced. -/
theorem overlayFile_refines_source (base : Environment) (process : ProcessEnvironment)
    (files : FileTree) (path : RawText) (content : String)
    (h : files.readText path = .ok content) :
    SourcesInOneScope base process path (Marked.ofText content.toList)
      (base.overlayFile process files path) := by
  obtain ⟨marked, hmarked⟩ : ∃ marked, marked = Marked.ofText content.toList := ⟨_, rfl⟩
  have hstart : Scope.Represents base marked.exported ⟨base, [], 0⟩ base := represents_start
  have hlast := hstart.apply process (marked.items process)
  have houtcome : base.overlayFile process files path =
      (.ok ((source process base (assignments (marked.items process))).restrict
          (keeps base marked.exported)),
        ((marked.items process).filterMap (Item.remark? (keeps base marked.exported))).map
          (Remark.event path) ++
        [.environmentFileApplied path ((assignments (marked.items process)).countP
          fun given => keeps base marked.exported given.name)]) := by
    obtain ⟨henv, hcount, hremarks⟩ := overlayText_eq base process content hmarked
    rw [Environment.overlayFile, h]
    dsimp only
    rw [henv, hcount, hremarks]
  rw [← hmarked, houtcome]
  constructor
  · rfl
  · rfl
  · intro before given after hitems scope
    have hscope : scope.Represents base marked.exported _ := hstart.apply process before
    rw [hscope.assign_eq]
    dsimp only
    by_cases hkept : keeps base marked.exported given.name
    · simp [hkept]
    · simp [hkept]
  · intro before after hitems name scope
    have hscope : scope.Represents base marked.exported _ := hstart.apply process before
    exact hscope.disjoint
  · intro env henv name hbase
    obtain rfl := Except.ok.inj henv
    rw [← hlast.env_eq]
    exact hlast.grows name hbase
  · intro env henv name hunassigned
    obtain rfl := Except.ok.inj henv
    rw [Environment.get?_restrict, get?_source_of_unassigned process base hunassigned]
    by_cases hbase : base.has name
    · rw [if_pos (by simp [keeps, hbase])]
    · rw [Environment.has, Option.isSome_iff_ne_none, not_not] at hbase
      rw [hbase, ite_self]
  · intro env henv name hhas hbase
    obtain rfl := Except.ok.inj henv
    rw [← hlast.env_eq] at hhas
    have hkept := hlast.env name hhas
    simpa [keeps, hbase] using hkept

/-- A file with a bare name, an exported one and one that may have been there before. -/
def profileText : String := "prompt=yes\nexport NAME=\"is $prompt\"\nMODE=\"$NAME!\"\n"

theorem overlayFile_profileText :
    let files := FileTree.base.install ".bashrc" (.file (.ofString profileText) false)
    files.readText ".bashrc" = .ok profileText ∧
      (Environment.empty.set "MODE" "dev").overlayFile ⟨[]⟩ files ".bashrc" =
        (.ok (((Environment.empty.set "MODE" "dev").set "NAME" "is yes").set "MODE" "is yes!"),
          [.environmentVariableKept ".bashrc" "prompt", .environmentFileApplied ".bashrc" 2]) := by
  intro files
  have hread : files.readText ".bashrc" = .ok profileText := readText_profile profileText
  have hsources := overlayFile_refines_source (Environment.empty.set "MODE" "dev") ⟨[]⟩ files
    ".bashrc" profileText hread
  refine ⟨hread, Prod.ext ?_ ?_⟩
  · rw [hsources.result]
    refine congrArg Except.ok (Environment.ext fun name => congrArg (List.lookup name) ?_)
    cbv
  · rw [hsources.events]
    decide +kernel

end EnvFile

end SiteBoot
