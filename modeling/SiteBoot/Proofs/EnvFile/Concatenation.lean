import SiteBoot.Proofs.EnvFile.ExportLine
/-!
# The portions of a word

References get their values when the quotes of a word are gone. Where a portion ends in a bare name
and the next one begins with a character that the name can go on with, the reference takes hold of
that, which it would not do in a shell. Everywhere else the value of a word is that of its portions,
one after the other.
-/

namespace SiteBoot.EnvFile

namespace ReferenceState

def after : ReferenceState → List Char → ReferenceState
  | state, [] => state
  | .outside, c :: rest => if c = marker then after (.name []) rest else after .outside rest
  | .name read, c :: rest =>
    if c = '{' && read.isEmpty then after (.braces []) rest
    else if isNameChar c then after (.name (read ++ [c])) rest
    else if c = marker then after (.name []) rest
    else after .outside rest
  | .braces read, c :: rest =>
    if c = '}' then after .outside rest else after (.braces (read ++ [c])) rest

/-- Nothing of a text belongs to a reference that has been begun before it. -/
def EndsBefore : ReferenceState → List Char → Prop
  | .outside, _ => True
  | .name read, next => ∀ c ∈ next.head?, isNameChar c = false ∧ (c = '{' → read ≠ [])
  | .braces _, next => next = []

end ReferenceState

/-- No portion ends in a reference that the portions after it would go on with. -/
def Word.IsSeparated : Word → Prop
  | [] => True
  | portion :: rest =>
    (ReferenceState.outside.after portion.raw).EndsBefore (Word.raw rest) ∧ IsSeparated rest

/-- The value that a file of one line gives to the name that it exports. -/
def exportedValue? (process : ProcessEnvironment) (base : Environment) (key : Key) (ended : Bool)
    (spelled : List Char) : Option String :=
  let content := joinLines ended [key.opening ++ spelled]
  (overlayText process base (String.ofList content)).1.env.get? (String.ofList key.chars)

/-! ### References across portions -/

lemma piecesFrom_append {state : ReferenceState} {first second : List Char}
    (h : (state.after first).EndsBefore second) :
    piecesFrom state (first ++ second) =
      piecesFrom state first ++ piecesFrom .outside second := by
  induction first generalizing state with
  | nil =>
    cases state with
    | outside => simp [piecesFrom]
    | name read =>
      cases second with
      | nil => simp [piecesFrom]
      | cons c rest =>
        obtain ⟨hc, hbrace⟩ := h c rfl
        have hend : piecesFrom (.name read) [] = [.bare read] := by rw [piecesFrom]
        rw [List.nil_append, piecesFrom_name_end hc hbrace, hend]
        rfl
    | braces read =>
      obtain rfl : second = [] := h
      simp [piecesFrom]
  | cons c first ih =>
    rw [List.cons_append]
    cases state with
    | outside =>
      rw [ReferenceState.after] at h
      rw [piecesFrom, piecesFrom]
      split at h
      · rename_i hc
        rw [if_pos hc, if_pos hc, ih h]
      · rename_i hc
        rw [if_neg hc, if_neg hc, ih h]
        rfl
    | name read =>
      rw [ReferenceState.after] at h
      rw [piecesFrom, piecesFrom]
      split at h
      · rename_i hopen
        rw [if_pos hopen, if_pos hopen, ih h]
      · rename_i hopen
        rw [if_neg hopen, if_neg hopen]
        split at h
        · rename_i hname
          rw [if_pos hname, if_pos hname, ih h]
        · rename_i hname
          rw [if_neg hname, if_neg hname]
          split at h
          · rename_i hmarker
            rw [if_pos hmarker, if_pos hmarker, ih h]
            rfl
          · rename_i hmarker
            rw [if_neg hmarker, if_neg hmarker, ih h]
            rfl
    | braces read =>
      rw [ReferenceState.after] at h
      rw [piecesFrom, piecesFrom]
      split at h
      · rename_i hclose
        rw [if_pos hclose, if_pos hclose, ih h]
        rfl
      · rename_i hclose
        rw [if_neg hclose, if_neg hclose, ih h]

lemma expand_word (value? : List Char → Option (List Char)) {word : Word}
    (h : word.IsSeparated) :
    expand value? word.raw = word.flatMap fun portion => expand value? portion.raw := by
  induction word with
  | nil => rfl
  | cons portion word ih =>
    obtain ⟨hportion, hword⟩ := h
    have hraw : Word.raw (portion :: word) = portion.raw ++ Word.raw word := rfl
    rw [hraw, List.flatMap_cons, ← ih hword, expand, pieces, piecesFrom_append hportion,
      List.flatMap_append]
    rfl

/-! ### The value of a line -/

lemma exportedValue?_spelled (process : ProcessEnvironment) (base : Environment) (key : Key)
    (ended : Bool) (word : Word) :
    exportedValue? process base key ended word.spelled =
      some (String.ofList (expand (charValue? (base.valueIn process)) word.raw)) := by
  let line : ExportLine := ⟨key, word, none⟩
  have hend : CommentsEnd ended [line] := by
    cases ended <;> rfl
  have henv := (overlayText_exportFile base process hend).1
  have hfile : exportFile ended [line] = joinLines ended [key.opening ++ word.spelled] := by
    rw [exportFile, List.map_singleton, ExportLine.spelled, ExportLine.tail, List.append_nil]
  rw [hfile] at henv
  rw [exportedValue?, henv]
  exact (Environment.get?_set ..).trans (if_pos rfl)

/-- The value of a word is what its portions are worth by themselves, one after the other, if none
of them ends in a reference that goes on after it. -/
theorem exportedValue?_word (process : ProcessEnvironment) (base : Environment) (key : Key)
    (ended : Bool) (word : Word) (separated : word.IsSeparated) :
    ∃ values : List String,
      word.map (fun portion => exportedValue? process base key ended portion.spelled) =
          values.map some ∧
        exportedValue? process base key ended word.spelled = some (String.join values) := by
  let value (portion : Portion) : String :=
    String.ofList (expand (charValue? (base.valueIn process)) portion.raw)
  refine ⟨word.map value, ?_, ?_⟩
  · rw [List.map_map]
    refine List.map_congr_left fun portion _ => ?_
    have hportion := exportedValue?_spelled process base key ended [portion]
    rw [Word.spelled, Word.raw, List.flatMap_singleton, List.flatMap_singleton] at hportion
    exact hportion
  · have hjoin : String.join (word.map value) = String.ofList
        (word.flatMap fun portion => expand (charValue? (base.valueIn process)) portion.raw) := by
      rw [← String.toList_inj, String.toList_join, String.toList_ofList, List.flatMap_map]
      exact congrFun (congrArg List.flatMap (funext fun portion => String.toList_ofList)) word
    rw [exportedValue?_spelled, expand_word _ separated, hjoin]

/-! ### Two words with a bare reference -/

def bareA : Portion where
  quote := .bare
  chars := ['$', 'A']
  holds := List.forall_mem_cons.mpr ⟨⟨rfl, by decide⟩,
    List.forall_mem_singleton.mpr ⟨rfl, by decide⟩⟩

def singleSlashB : Portion where
  quote := .single
  chars := ['/', 'b']
  holds := List.forall_mem_cons.mpr ⟨by decide, List.forall_mem_singleton.mpr (by decide)⟩

def singleB : Portion := ⟨.single, ['b'], List.forall_mem_singleton.mpr (by decide)⟩

def keyK : Key := ⟨['K'], 'K', [], rfl, by decide, by simp⟩

def baseA : Environment := Environment.empty.set "A" "x"

theorem exportedValue?_slash :
    Word.IsSeparated [bareA, singleSlashB, bareA] ∧
      exportedValue? ⟨[]⟩ baseA keyK true (Word.spelled [bareA, singleSlashB, bareA]) =
        some "x/bx" := by
  have hseparated : Word.IsSeparated [bareA, singleSlashB, bareA] := by
    refine ⟨fun c hc => ?_, trivial, nofun, trivial⟩
    obtain rfl : '/' = c := Option.some.inj hc
    exact ⟨rfl, by decide⟩
  obtain ⟨values, hvalues, hword⟩ := exportedValue?_word ⟨[]⟩ baseA keyK true
    [bareA, singleSlashB, bareA] hseparated
  have hportions : [bareA, singleSlashB, bareA].map
      (fun portion => exportedValue? ⟨[]⟩ baseA keyK true portion.spelled) =
        ["x", "/b", "x"].map some := by
    cbv
  obtain rfl := List.map_injective_iff.mpr (Option.some_injective _) (hvalues.symm.trans hportions)
  exact ⟨hseparated, hword⟩

/-- The quoted letter makes another name of the reference before it, and that name has no value. -/
theorem quoted_letter_joins_name :
    [bareA, singleB].map (fun portion => exportedValue? ⟨[]⟩ baseA keyK true portion.spelled) =
        [some "x", some "b"] ∧
      exportedValue? ⟨[]⟩ baseA keyK true (Word.spelled [bareA, singleB]) = some "" := by
  constructor
  · cbv
  · cbv

end SiteBoot.EnvFile
