import SiteBoot.Proofs.EnvFile.Concatenation
/-!
# Values without markers

The marker stands for a dollar sign until references are resolved. Outside braces each marker is
taken back or gives way to a value. What stands between braces is not looked at again: a marker in
a default comes out with it where the default is used, and one in braces that are not closed comes
out with their text.
-/

namespace SiteBoot

open EnvFile in
/-- No value has the marker in it. -/
def Environment.IsUnmarked (env : Environment) : Prop :=
  ∀ name value, env.get? name = some value → marker ∉ value.toList

open EnvFile in
def ProcessEnvironment.IsUnmarked (process : ProcessEnvironment) : Prop :=
  ∀ name value, process.text? name = some value → marker ∉ value.toList

namespace EnvFile

/-- No reference begins in the braces of another. -/
def Assignment.IsFlat (given : Assignment) : Prop :=
  ∀ before after, given.raw = before ++ marker :: after →
    ∀ read, ReferenceState.outside.after before ≠ .braces read

namespace Piece

def IsUnmarked : Piece → Prop
  | char c => c ≠ marker
  | reference name fallback => marker ∉ name ∧ marker ∉ fallback

/-- The piece brings a marker into a value by itself. -/
def Leaks (value? : List Char → Option (List Char)) : Piece → Prop
  | char c => c = marker
  | reference name fallback => (value? name).getD [] = [] ∧ marker ∈ fallback

instance (value? : List Char → Option (List Char)) :
    (piece : Piece) → Decidable (piece.Leaks value?)
  | char c => inferInstanceAs (Decidable (c = marker))
  | reference _ fallback => inferInstanceAs (Decidable (_ = [] ∧ marker ∈ fallback))

lemma IsUnmarked.not_leaks {piece : Piece} (h : piece.IsUnmarked)
    (value? : List Char → Option (List Char)) : ¬ piece.Leaks value? := by
  cases piece with
  | char c => exact h
  | reference name fallback => exact fun hleaks => h.2 hleaks.2

variable {value? : List Char → Option (List Char)}

lemma marker_mem_expand_iff (h : ∀ name value, value? name = some value → marker ∉ value)
    (piece : Piece) : marker ∈ piece.expand value? ↔ piece.Leaks value? := by
  cases piece with
  | char c =>
    rw [expand, Leaks, List.mem_singleton, eq_comm]
  | reference name fallback =>
    rw [expand, Leaks]
    cases hvalue : value? name with
    | none => simp
    | some value =>
      cases value with
      | nil => simp
      | cons c rest =>
        have hnot := h name _ hvalue
        simpa using hnot

end Piece

lemma marker_mem_expand_iff {value? : List Char → Option (List Char)}
    (h : ∀ name value, value? name = some value → marker ∉ value) (raw : List Char) :
    marker ∈ expand value? raw ↔ ∃ piece ∈ pieces raw, piece.Leaks value? := by
  rw [expand, List.mem_flatMap]
  exact exists_congr fun piece => and_congr_right fun _ => Piece.marker_mem_expand_iff h piece

/-! ### References outside braces -/

def ReferenceState.read : ReferenceState → List Char
  | outside => []
  | name read => read
  | braces read => read

lemma marker_not_mem_splitFallback {body : List Char} (h : marker ∉ body) :
    marker ∉ (splitFallback body).1 ∧ marker ∉ (splitFallback body).2 := by
  fun_induction splitFallback body with
  | case1 => exact ⟨List.not_mem_nil, List.not_mem_nil⟩
  | case2 rest =>
    rw [List.mem_cons, List.mem_cons, not_or, not_or] at h
    exact ⟨List.not_mem_nil, h.2.2⟩
  | case3 c rest hne name fallback hsplit ih =>
    rw [List.mem_cons, not_or] at h
    rw [hsplit] at ih
    obtain ⟨hname, hfallback⟩ := ih h.2
    refine ⟨?_, hfallback⟩
    rw [List.mem_cons, not_or]
    exact ⟨h.1, hname⟩

lemma Piece.isUnmarked_braced {body : List Char} (h : marker ∉ body) :
    (Piece.braced body).IsUnmarked := marker_not_mem_splitFallback h

lemma Piece.isUnmarked_bare {name : List Char} (h : marker ∉ name) :
    (Piece.bare name).IsUnmarked := by
  rw [bare]
  split
  · exact (by decide : '$' ≠ marker)
  · exact ⟨h, List.not_mem_nil⟩

/-- A text that is read from a state in which no reference begins in the braces of another leaves
no marker. -/
lemma piecesFrom_unmarked {state : ReferenceState} {raw : List Char} (hread : marker ∉ state.read)
    (hflat : ∀ before after, raw = before ++ marker :: after →
      ∀ read, state.after before ≠ .braces read) :
    ∀ piece ∈ piecesFrom state raw, piece.IsUnmarked := by
  induction raw generalizing state with
  | nil =>
    cases state with
    | outside => exact fun piece hpiece => absurd hpiece List.not_mem_nil
    | name read =>
      rw [piecesFrom, List.forall_mem_singleton]
      exact Piece.isUnmarked_bare hread
    | braces read =>
      have hchars : ∀ piece ∈ read.map Piece.char, piece.IsUnmarked := by
        rw [List.forall_mem_map]
        rintro c hc rfl
        exact hread hc
      rw [piecesFrom, List.forall_mem_cons, List.forall_mem_cons]
      exact ⟨(by decide : '$' ≠ marker), (by decide : '{' ≠ marker), hchars⟩
  | cons c rest ih =>
    -- it is enough to know what the first character leaves to be read, and in which state
    have htail : ∀ next : ReferenceState, marker ∉ next.read →
        (∀ before, state.after (c :: before) = next.after before) →
        ∀ piece ∈ piecesFrom next rest, piece.IsUnmarked := by
      intro next hnext hafter
      refine ih hnext fun before after heq read => ?_
      rw [← hafter]
      exact hflat (c :: before) after (by rw [heq]; rfl) read
    cases state with
    | outside =>
      rw [piecesFrom]
      by_cases hc : c = marker
      · rw [if_pos hc]
        exact htail (.name []) List.not_mem_nil fun before => by
          rw [ReferenceState.after, if_pos hc]
      · rw [if_neg hc, List.forall_mem_cons]
        exact ⟨hc, htail .outside List.not_mem_nil fun before => by
          rw [ReferenceState.after, if_neg hc]⟩
    | name read =>
      rw [piecesFrom]
      by_cases hopen : c = '{' && read.isEmpty
      · rw [if_pos hopen]
        exact htail (.braces []) List.not_mem_nil fun before => by
          rw [ReferenceState.after, if_pos hopen]
      rw [if_neg hopen]
      by_cases hname : isNameChar c
      · rw [if_pos hname]
        have hc : marker ≠ c := by
          rintro rfl
          exact absurd hname (by decide)
        have hreadc : marker ∉ (ReferenceState.name (read ++ [c])).read := by
          rw [ReferenceState.read, List.mem_append, List.mem_singleton, not_or]
          exact ⟨hread, hc⟩
        exact htail _ hreadc fun before => by
          rw [ReferenceState.after, if_neg hopen, if_pos hname]
      rw [if_neg hname]
      by_cases hc : c = marker
      · rw [if_pos hc, List.forall_mem_cons]
        exact ⟨Piece.isUnmarked_bare hread, htail (.name []) List.not_mem_nil fun before => by
          rw [ReferenceState.after, if_neg hopen, if_neg hname, if_pos hc]⟩
      · rw [if_neg hc, List.forall_mem_cons, List.forall_mem_cons]
        exact ⟨Piece.isUnmarked_bare hread, hc, htail .outside List.not_mem_nil fun before => by
          rw [ReferenceState.after, if_neg hopen, if_neg hname, if_neg hc]⟩
    | braces read =>
      rw [piecesFrom]
      by_cases hclose : c = '}'
      · rw [if_pos hclose, List.forall_mem_cons]
        exact ⟨Piece.isUnmarked_braced hread, htail .outside List.not_mem_nil fun before => by
          rw [ReferenceState.after, if_pos hclose]⟩
      · rw [if_neg hclose]
        -- a marker here would begin a reference in the braces of this one
        have hc : marker ≠ c := by
          rintro rfl
          exact hflat [] rest rfl read rfl
        have hreadc : marker ∉ (ReferenceState.braces (read ++ [c])).read := by
          rw [ReferenceState.read, List.mem_append, List.mem_singleton, not_or]
          exact ⟨hread, hc⟩
        exact htail _ hreadc fun before => by rw [ReferenceState.after, if_neg hclose]

lemma Assignment.IsFlat.unmarked {given : Assignment} (h : given.IsFlat) :
    ∀ piece ∈ pieces given.raw, piece.IsUnmarked :=
  piecesFrom_unmarked List.not_mem_nil h

/-! ### Sourcing -/

/-- Nothing that is put in place while assignments are sourced brings a marker with it. -/
def NothingLeaks (process : ProcessEnvironment) : Environment → List Assignment → Prop
  | _, [] => True
  | scope, given :: rest =>
    (∀ piece ∈ pieces given.raw, ¬ piece.Leaks (charValue? (scope.valueIn process))) ∧
      NothingLeaks process (scope.set given.name (given.valueIn process scope)) rest

instance instDecidableNothingLeaks (process : ProcessEnvironment) :
    (scope : Environment) → (given : List Assignment) → Decidable (NothingLeaks process scope given)
  | _, [] => inferInstanceAs (Decidable True)
  | scope, given :: rest =>
    have := instDecidableNothingLeaks process
      (scope.set given.name (given.valueIn process scope)) rest
    inferInstanceAs (Decidable (_ ∧ _))

lemma nothingLeaks_of_isFlat (process : ProcessEnvironment) (scope : Environment)
    {given : List Assignment} (h : ∀ assignment ∈ given, assignment.IsFlat) :
    NothingLeaks process scope given := by
  induction given generalizing scope with
  | nil => trivial
  | cons first rest ih =>
    obtain ⟨hfirst, hrest⟩ := List.forall_mem_cons.mp h
    exact ⟨fun piece hpiece => (hfirst.unmarked piece hpiece).not_leaks _, ih _ hrest⟩

end EnvFile

section

variable {process : ProcessEnvironment} {env : Environment}

open EnvFile

lemma Environment.IsUnmarked.set (h : env.IsUnmarked) {value : String}
    (hvalue : marker ∉ value.toList) (name : String) : (env.set name value).IsUnmarked := by
  intro other found hfound
  rw [Environment.get?_set] at hfound
  split at hfound
  · obtain rfl := Option.some.inj hfound
    exact hvalue
  · exact h other found hfound

lemma Environment.IsUnmarked.valueIn (h : env.IsUnmarked) (hprocess : process.IsUnmarked) :
    ∀ name value, charValue? (env.valueIn process) name = some value → marker ∉ value := by
  intro name value hvalue
  rw [charValue?, Option.map_eq_some_iff] at hvalue
  obtain ⟨text, htext, rfl⟩ := hvalue
  rw [Environment.valueIn] at htext
  cases hown : env.get? (String.ofList name) with
  | some own =>
    rw [hown] at htext
    obtain rfl : own = text := Option.some.inj htext
    exact h _ _ hown
  | none =>
    rw [hown] at htext
    exact hprocess _ _ htext

lemma Environment.IsUnmarked.restrict (h : env.IsUnmarked) (keeps : String → Bool) :
    (env.restrict keeps).IsUnmarked := by
  intro name value hvalue
  rw [Environment.get?_restrict] at hvalue
  split at hvalue
  · exact h name value hvalue
  · contradiction

lemma Environment.IsUnmarked.marker_mem_iff (h : env.IsUnmarked) (hprocess : process.IsUnmarked)
    (given : Assignment) :
    marker ∈ (given.valueIn process env).toList ↔
      ∃ piece ∈ pieces given.raw, piece.Leaks (charValue? (env.valueIn process)) := by
  rw [Assignment.valueIn, String.toList_ofList]
  exact marker_mem_expand_iff (h.valueIn hprocess) given.raw

lemma Environment.IsUnmarked.source (h : env.IsUnmarked) (hprocess : process.IsUnmarked)
    {given : List Assignment} (hleaks : NothingLeaks process env given) :
    (EnvFile.source process env given).IsUnmarked := by
  induction given generalizing env with
  | nil => exact h
  | cons first rest ih =>
    obtain ⟨hfirst, hrest⟩ := hleaks
    have hvalue : marker ∉ (first.valueIn process env).toList := by
      rw [h.marker_mem_iff hprocess, not_exists]
      exact fun piece hpiece => hfirst piece hpiece.1 hpiece.2
    exact ih (h.set hvalue first.name) hrest

end

namespace EnvFile

lemma overlayFile_of_nothingLeaks {base : Environment} {process : ProcessEnvironment}
    {files : FileTree} {path : RawText} {content : String}
    (h : files.readText path = .ok content) (hbase : base.IsUnmarked)
    (hprocess : process.IsUnmarked)
    (nothingLeaks :
      NothingLeaks process base (assignments ((Marked.ofText content.toList).items process))) :
    ∃ env, (base.overlayFile process files path).1 = .ok env ∧ env.IsUnmarked := by
  obtain ⟨henv, -⟩ := overlayText_eq base process content rfl
  have hoverlaid : (base.overlayFile process files path).1 =
      .ok (overlayText process base content).1.env := by
    rw [Environment.overlayFile, h]
  rw [henv] at hoverlaid
  exact ⟨_, hoverlaid, (hbase.source hprocess nothingLeaks).restrict _⟩

/-- A file without references in the braces of others leaves no marker. -/
theorem overlayFile_of_isFlat {base : Environment} {process : ProcessEnvironment}
    {files : FileTree} {path : RawText} {content : String}
    (h : files.readText path = .ok content) (hbase : base.IsUnmarked)
    (hprocess : process.IsUnmarked)
    (hflat : ∀ given ∈ assignments ((Marked.ofText content.toList).items process),
      given.IsFlat) :
    ∃ env, (base.overlayFile process files path).1 = .ok env ∧ env.IsUnmarked :=
  overlayFile_of_nothingLeaks h hbase hprocess (nothingLeaks_of_isFlat process base hflat)

/-- No marker comes out of an overlay where none leaks, and none leaks from outside the braces of a
reference. -/
theorem overlayFile_isUnmarked (base : Environment) (process : ProcessEnvironment)
    (files : FileTree) (path : RawText) (content : String)
    (h : files.readText path = .ok content) (hbase : base.IsUnmarked)
    (hprocess : process.IsUnmarked)
    (nothingLeaks :
      NothingLeaks process base (assignments ((Marked.ofText content.toList).items process))) :
    (∃ env, (base.overlayFile process files path).1 = .ok env ∧ env.IsUnmarked) ∧
      ∀ given ∈ assignments ((Marked.ofText content.toList).items process), given.IsFlat →
        ∀ piece ∈ pieces given.raw, piece.IsUnmarked := by
  have hunmarked := overlayFile_of_nothingLeaks h hbase hprocess nothingLeaks
  exact ⟨hunmarked, fun given _ hflat => hflat.unmarked⟩

lemma isUnmarked_empty : Environment.empty.IsUnmarked := by
  intro name value hvalue
  contradiction

/-- A default with a reference in it that is not used, one that is, a dollar sign alone, and braces
that are not closed. -/
def bracesText : String := "export K=$\x7bA:-$B\x7d/$\x7bC:-c\x7d$\nexport L=\"$\x7bK\"\n"

theorem overlayFile_bracesText :
    baseA.IsUnmarked ∧ ProcessEnvironment.IsUnmarked ⟨[]⟩ ∧
      NothingLeaks ⟨[]⟩ baseA (assignments ((Marked.ofText bracesText.toList).items ⟨[]⟩)) ∧
      (baseA.overlayFile ⟨[]⟩ (profile bracesText) ".bashrc").1 =
        .ok ((baseA.set "K" "x/c$").set "L" "$\x7bK") ∧
      ((baseA.set "K" "x/c$").set "L" "$\x7bK").IsUnmarked := by
  have hbase : baseA.IsUnmarked := isUnmarked_empty.set (by decide) "A"
  have hprocess : ProcessEnvironment.IsUnmarked ⟨[]⟩ := by
    intro name value hvalue
    simp [ProcessEnvironment.text?, ProcessEnvironment.get?] at hvalue
  have hleaks : NothingLeaks ⟨[]⟩ baseA
      (assignments ((Marked.ofText bracesText.toList).items ⟨[]⟩)) := by
    decide +kernel
  have hvalue : (baseA.overlayFile ⟨[]⟩ (profile bracesText) ".bashrc").1 =
      .ok ((baseA.set "K" "x/c$").set "L" "$\x7bK") := by
    rw [overlayFile_profile]
    cbv
  obtain ⟨env, henv, hunmarked⟩ := (overlayFile_isUnmarked baseA ⟨[]⟩ (profile bracesText)
    ".bashrc" bracesText (readText_profile _) hbase hprocess hleaks).1
  obtain rfl := Except.ok.inj (hvalue.symm.trans henv)
  exact ⟨hbase, hprocess, hleaks, hvalue, hunmarked⟩

def defaultText : String := "export K=$\x7bB:-$A\x7d\n"

/-- A reference in a default is neither resolved nor taken back. -/
theorem nested_reference_leaks :
    marker ∉ defaultText.toList ∧ baseA.IsUnmarked ∧
      (baseA.overlayFile ⟨[]⟩ (profile defaultText) ".bashrc").1 =
        .ok (baseA.set "K" (String.ofList [marker, 'A'])) ∧
      ¬ (baseA.set "K" (String.ofList [marker, 'A'])).IsUnmarked := by
  refine ⟨by decide, isUnmarked_empty.set (by decide) "A", ?_, ?_⟩
  · rw [overlayFile_profile]
    cbv
  · intro hunmarked
    have hvalue : (baseA.set "K" (String.ofList [marker, 'A'])).get? "K" =
        some (String.ofList [marker, 'A']) := by
      rw [Environment.get?_set, if_pos rfl]
    have hmarker := hunmarked "K" _ hvalue
    rw [String.toList_ofList] at hmarker
    exact hmarker List.mem_cons_self

end EnvFile

end SiteBoot
