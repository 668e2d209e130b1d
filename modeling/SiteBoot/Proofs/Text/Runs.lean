import Mathlib
import SiteBoot.Text.Blank
/-!
# Runs of characters

Where some characters separate, a text is made of runs of the others. `AreRuns` says which runs
these are and `runs` finds them, so the words of a text are its runs between blanks. Nothing but
separators gets lost on the way, and runs that are put together with separators are found again.
-/

namespace SiteBoot.Text

/-- The maximal runs of characters that do not separate, in order. -/
inductive AreRuns (separates : Char → Bool) : List Char → List (List Char) → Prop
  | nil : AreRuns separates [] []
  | separator {c : Char} {text : List Char} {found : List (List Char)} (separated : separates c)
      (rest : AreRuns separates text found) : AreRuns separates (c :: text) found
  | run {run text : List Char} {found : List (List Char)} (nonempty : run ≠ [])
      (solid : ∀ c ∈ run, separates c = false) (ends : ∀ c ∈ text.head?, separates c)
      (rest : AreRuns separates text found) : AreRuns separates (run ++ text) (run :: found)

/-- The pieces between separators that are not empty. -/
def runs (separates : Char → Bool) (text : List Char) : List (List Char) :=
  (text.splitOnP separates).filter (!·.isEmpty)

lemma words_eq_runs (text : List Char) : words text = runs isBlank text := rfl

section
variable {separates : Char → Bool}

@[simp] lemma runs_nil : runs separates [] = [] := by
  rw [runs, List.splitOnP_nil]
  rfl

lemma runs_append_separator {c : Char} (hc : separates c) (text rest : List Char) :
    runs separates (text ++ c :: rest) = runs separates text ++ runs separates rest := by
  rw [runs, List.splitOnP_append_cons _ _ hc, List.filter_append]
  rfl

lemma runs_cons_separator {c : Char} (hc : separates c) (text : List Char) :
    runs separates (c :: text) = runs separates text := by
  have h := runs_append_separator hc [] text
  rwa [runs_nil, List.nil_append, List.nil_append] at h

lemma runs_of_solid {run : List Char} (hne : run ≠ []) (hsolid : ∀ c ∈ run, separates c = false) :
    runs separates run = [run] := by
  rw [runs, List.splitOnP_eq_singleton hsolid]
  exact List.filter_eq_self.mpr (by simpa using hne)

lemma runs_append_run {run text : List Char} (hne : run ≠ [])
    (hsolid : ∀ c ∈ run, separates c = false) (hends : ∀ c ∈ text.head?, separates c) :
    runs separates (run ++ text) = run :: runs separates text := by
  cases text with
  | nil => rw [List.append_nil, runs_of_solid hne hsolid, runs_nil]
  | cons c rest =>
    have hc : separates c := hends c rfl
    rw [runs_append_separator hc, runs_of_solid hne hsolid, runs_cons_separator hc]
    rfl

/-- A text is empty, or it begins with a separator, or with a run up to the next one. -/
@[elab_as_elim]
theorem run_induction (separates : Char → Bool) {motive : List Char → Prop} (nil : motive [])
    (separator : ∀ c text, separates c → motive text → motive (c :: text))
    (run : ∀ run text, run ≠ [] → (∀ c ∈ run, separates c = false) →
      (∀ c ∈ text.head?, separates c) → motive text → motive (run ++ text))
    (text : List Char) : motive text := by
  induction hlength : text.length using Nat.strong_induction_on generalizing text with
  | _ length ih =>
    subst hlength
    cases text with
    | nil => exact nil
    | cons c rest =>
      by_cases hc : separates c
      · exact separator c rest hc (ih _ (Nat.lt_succ_self _) rest rfl)
      · let start := rest.takeWhile (!separates ·)
        let after := rest.dropWhile (!separates ·)
        have hsplit : c :: rest = (c :: start) ++ after :=
          congrArg (c :: ·) List.takeWhile_append_dropWhile.symm
        have hafter : after.length < (c :: rest).length :=
          Nat.lt_succ_of_le (List.dropWhile_suffix _).length_le
        have hsolid : ∀ d ∈ c :: start, separates d = false := by
          intro d hd
          rcases List.mem_cons.mp hd with rfl | hd
          · exact Bool.eq_false_iff.mpr hc
          · simpa using List.mem_takeWhile_imp hd
        have hends : ∀ d ∈ after.head?, separates d := by
          intro d hd
          have hhead := List.head?_dropWhile_not (!separates ·) rest
          rw [Option.mem_def.mp hd] at hhead
          simpa using hhead
        rw [hsplit]
        exact run _ _ (List.cons_ne_nil c start) hsolid hends (ih _ hafter after rfl)

theorem areRuns_iff {text : List Char} {found : List (List Char)} :
    AreRuns separates text found ↔ found = runs separates text := by
  constructor
  · intro h
    induction h with
    | nil => rw [runs_nil]
    | separator separated rest ih => rw [runs_cons_separator separated, ih]
    | run nonempty solid ends rest ih => rw [runs_append_run nonempty solid ends, ih]
  · rintro rfl
    induction text using run_induction separates with
    | nil => exact .nil
    | separator c text hc ih =>
      rw [runs_cons_separator hc]
      exact .separator hc ih
    | run run text hne hsolid hends ih =>
      rw [runs_append_run hne hsolid hends]
      exact .run hne hsolid hends ih

/-- The runs hold all that does not separate, in order. -/
theorem flatten_runs (text : List Char) :
    (runs separates text).flatten = text.filter (!separates ·) := by
  induction text using run_induction separates with
  | nil => rw [runs_nil, List.filter_nil, List.flatten_nil]
  | separator c text hc ih => rw [runs_cons_separator hc, ih, List.filter_cons_of_neg (by simp [hc])]
  | run run text hne hsolid hends ih =>
    have hrun : run.filter (!separates ·) = run :=
      List.filter_eq_self.mpr fun c hc => by simp [hsolid c hc]
    rw [runs_append_run hne hsolid hends, List.flatten_cons, ih, List.filter_append, hrun]

lemma solid_of_mem_runs {text run : List Char} (h : run ∈ runs separates text) :
    run ≠ [] ∧ ∀ c ∈ run, separates c = false := by
  obtain ⟨hpiece, hne⟩ := List.mem_filter.mp h
  exact ⟨by simpa using hne, solid_of_mem_splitOnP hpiece⟩

lemma runs_congr {other : Char → Bool} {text : List Char}
    (h : ∀ c ∈ text, separates c = other c) : runs separates text = runs other text := by
  induction text using run_induction separates with
  | nil => rw [runs_nil, runs_nil]
  | separator c text hc ih =>
    rw [List.forall_mem_cons] at h
    rw [runs_cons_separator hc, runs_cons_separator (h.1.symm.trans hc), ih h.2]
  | run run text hne hsolid hends ih =>
    rw [List.forall_mem_append] at h
    have hrun : ∀ c ∈ run, other c = false := fun c hc => (h.1 c hc).symm.trans (hsolid c hc)
    have hother : ∀ c ∈ text.head?, other c := fun c hc =>
      (h.2 c (List.mem_of_head? hc)).symm.trans (hends c hc)
    rw [runs_append_run hne hsolid hends, runs_append_run hne hrun hother, ih h.2]

/-- Separators that give the same runs are the same characters of the text. -/
theorem runs_eq_iff {other : Char → Bool} {text : List Char} :
    runs separates text = runs other text ↔ ∀ c ∈ text, separates c = other c := by
  constructor
  · intro h c hc
    have hflatten := congrArg List.flatten h
    rw [flatten_runs, flatten_runs] at hflatten
    have hmem : c ∈ text.filter (!separates ·) ↔ c ∈ text.filter (!other ·) := by rw [hflatten]
    simpa [hc] using hmem
  · exact runs_congr

theorem runs_intercalate {c : Char} (hc : separates c) {found : List (List Char)}
    (h : ∀ run ∈ found, run ≠ [] ∧ ∀ c ∈ run, separates c = false) :
    runs separates ([c].intercalate found) = found := by
  induction found with
  | nil => exact runs_nil
  | cons run rest ih =>
    obtain ⟨⟨hne, hsolid⟩, hrest⟩ := List.forall_mem_cons.mp h
    cases rest with
    | nil => rw [List.intercalate_singleton, runs_of_solid hne hsolid]
    | cons next others =>
      rw [List.intercalate_cons_cons, List.append_assoc, List.singleton_append,
        runs_append_separator hc, runs_of_solid hne hsolid, ih hrest]
      rfl

theorem runs_flatMap {spell : Char → List Char} (hkept : ∀ c, separates c → spell c = [c])
    (hspell : ∀ c, separates c = false → spell c ≠ [] ∧ ∀ d ∈ spell c, separates d = false)
    (text : List Char) :
    runs separates (text.flatMap spell) = (runs separates text).map (·.flatMap spell) := by
  induction text using run_induction separates with
  | nil => rw [List.flatMap_nil, runs_nil, List.map_nil]
  | separator c text hc ih =>
    rw [List.flatMap_cons, hkept c hc, List.singleton_append, runs_cons_separator hc,
      runs_cons_separator hc, ih]
  | run run text hne hsolid hends ih =>
    have hne' : run.flatMap spell ≠ [] := by
      obtain ⟨c, rest, rfl⟩ := List.exists_cons_of_ne_nil hne
      rw [List.flatMap_cons]
      exact List.append_ne_nil_of_left_ne_nil (hspell c (hsolid c List.mem_cons_self)).1 _
    have hsolid' : ∀ d ∈ run.flatMap spell, separates d = false := by
      intro d hd
      obtain ⟨c, hc, hd⟩ := List.mem_flatMap.mp hd
      exact (hspell c (hsolid c hc)).2 d hd
    have hends' : ∀ d ∈ (text.flatMap spell).head?, separates d := by
      cases text with
      | nil => simp
      | cons c rest =>
        have hc : separates c := hends c rfl
        rw [List.flatMap_cons, hkept c hc, List.singleton_append, List.head?_cons]
        rintro d ⟨⟩
        exact hc
    rw [List.flatMap_append, runs_append_run hne' hsolid' hends',
      runs_append_run hne hsolid hends, ih, List.map_cons]

end

lemma words_trimLeft (text : List Char) : words (trimLeft text) = words text := by
  induction text with
  | nil => rfl
  | cons c rest ih =>
    by_cases hblank : isBlank c
    · rw [trimLeft, List.dropWhile_cons_of_pos hblank, words_eq_runs (c :: rest),
        runs_cons_separator hblank]
      exact ih
    · rw [trimLeft, List.dropWhile_cons_of_neg hblank]

lemma map_ofList_eq_iff {texts : List (List Char)} {words : List String} :
    texts.map String.ofList = words ↔ words.map String.toList = texts := by
  constructor
  · rintro rfl
    rw [List.map_map]
    exact List.map_id'' (fun _ => String.toList_ofList) texts
  · rintro rfl
    rw [List.map_map]
    exact List.map_id'' (fun _ => String.ofList_toList) words

end SiteBoot.Text
