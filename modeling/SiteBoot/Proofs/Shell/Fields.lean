import SiteBoot.Proofs.Text.RawText
import SiteBoot.Proofs.Text.Runs
import SiteBoot.Shell.Expansion
/-!
# Fields of a parameter

Where a parameter is not quoted, a shell splits its value into fields. With the separators that a
shell begins with, these are the runs of the value between blanks, tabs and newlines, and the same
is true of the text that the bytes of the value stand for.
-/

namespace SiteBoot.Shell

/-- The characters that a shell splits fields at if nothing else is said. -/
def isSeparator (c : Char) : Bool := c = ' ' || c = '\t' || c = '\n'

lemma contains_separators (c : Char) : " \t\n".toList.contains c = isSeparator c := by
  rw [Bool.eq_iff_iff]
  simp [isSeparator, or_assoc]

lemma isFieldBlank_of_isSeparator {c : Char} (hc : isSeparator c) : isFieldBlank c := by
  simp only [isSeparator, Bool.or_eq_true, decide_eq_true_eq] at hc
  rcases hc with (rfl | rfl) | rfl <;> decide

namespace Splitting

/-- In the middle of a text that was put in, with a field of the given characters begun. -/
def within (fields : List Glyphs) (begun : Chars) (isAfterBlank : Bool) : Splitting :=
  ⟨fields, (begun.map (Glyph.value · false)).reverse, isAfterBlank, false, false⟩

variable (fields : List Glyphs) {begun : Chars} {isAfterBlank : Bool} {c : Char}

lemma value_separator (hc : isSeparator c) (h : isAfterBlank → begun = []) :
    ∃ isAfterBlank', (within fields begun isAfterBlank).value " \t\n".toList c =
      within (if begun = [] then fields else begun.map (Glyph.value · false) :: fields) []
        isAfterBlank' := by
  have hblank := isFieldBlank_of_isSeparator hc
  rw [value, contains_separators, hc, hblank, Bool.or_true]
  cases isAfterBlank with
  | true =>
    obtain rfl := h rfl
    exact ⟨true, rfl⟩
  | false =>
    cases begun with
    | nil => exact ⟨false, rfl⟩
    | cons first rest => exact ⟨true, by simp [within, cut]⟩

lemma value_char (hc : isSeparator c = false) (hnul : c ≠ '\x00') :
    (within fields begun isAfterBlank).value " \t\n".toList c =
      within fields (begun ++ [c]) false := by
  rw [value, contains_separators, hc]
  simp [hnul, within, push]

lemma text_map_value (chars : Chars) : Glyph.text (chars.map (Glyph.value · false)) = chars := by
  rw [Glyph.text, List.filterMap_map]
  exact List.filterMap_some

lemma all_within :
    (within fields begun isAfterBlank).all.map Glyph.text =
      fields.reverse.map Glyph.text ++ if begun = [] then [] else [begun] := by
  by_cases h : begun = []
  · simp [all, within, h]
  · simp [all, within, cut, h, text_map_value]

/-- From the middle of a text on, its fields are the runs of what has begun and of what follows. -/
lemma all_foldl_value {chars : Chars} (hnul : '\x00' ∉ chars)
    (hsolid : ∀ c ∈ begun, isSeparator c = false) (h : isAfterBlank → begun = []) :
    (chars.foldl (value " \t\n".toList) (within fields begun isAfterBlank)).all.map Glyph.text =
      fields.reverse.map Glyph.text ++ Text.runs isSeparator (begun ++ chars) := by
  induction chars generalizing fields begun isAfterBlank with
  | nil =>
    rw [List.foldl_nil, all_within, List.append_nil]
    by_cases hbegun : begun = []
    · rw [if_pos hbegun, hbegun, Text.runs_nil]
    · rw [if_neg hbegun, Text.runs_of_solid hbegun hsolid]
  | cons c rest ih =>
    rw [List.mem_cons, not_or] at hnul
    obtain ⟨hne, hrest⟩ := hnul
    rw [List.foldl_cons]
    by_cases hc : isSeparator c
    · obtain ⟨isAfterBlank', hvalue⟩ := value_separator fields hc h
      rw [hvalue, ih _ hrest (by simp) (fun _ => rfl), Text.runs_append_separator hc]
      by_cases hbegun : begun = []
      · rw [if_pos hbegun, hbegun, Text.runs_nil]
        rfl
      · rw [if_neg hbegun, Text.runs_of_solid hbegun hsolid, List.reverse_cons, List.map_append,
          List.append_assoc, List.map_singleton, text_map_value]
        rfl
    · have hc := Bool.eq_false_iff.mpr hc
      have hbegun : ∀ d ∈ begun ++ [c], isSeparator d = false :=
        List.forall_mem_append.mpr ⟨hsolid, List.forall_mem_singleton.mpr hc⟩
      rw [value_char fields hc (Ne.symm hne), ih fields hrest hbegun (by simp), List.append_assoc,
        List.singleton_append]

end Splitting

/-- A value that is put in without quotes is split into its runs. -/
theorem splitFields_ofValue {chars : Chars} (hnul : '\x00' ∉ chars) :
    (splitFields " \t\n".toList (Glyph.ofValue false chars)).map Glyph.text =
      Text.runs isSeparator chars := by
  have hstart : (chars.foldl (Splitting.value " \t\n".toList)
      (.within [] [] false)).all.map Glyph.text = Text.runs isSeparator chars :=
    Splitting.all_foldl_value [] hnul (List.forall_mem_nil _) nofun
  cases chars with
  | nil => rfl
  | cons c rest =>
    refine Eq.trans ?_ hstart
    rw [splitFields, Glyph.ofValue, if_neg Bool.false_ne_true, List.foldl_cons, List.foldl_map,
      List.foldl_cons]
    rfl

/-! ### A parameter without quotes -/

section
variable {state : State} {name value : Chars}

lemma State.parameter?_eq (setting : Setting) (hname : name.head?.any beginsName)
    (hvalue : state.value? name = some value) :
    setting.keepsArgs name = false ∧ state.parameter? setting name = some value := by
  cases name with
  | nil => simp at hname
  | cons c rest =>
    have hc : beginsName c := by simpa using hname
    have hsign : c ≠ '@' ∧ c ≠ '*' := by
      constructor
      · rintro rfl
        exact absurd hc (by decide)
      · rintro rfl
        exact absurd hc (by decide)
    have hkeeps : setting.keepsArgs (c :: rest) = false := by
      simp [Setting.keepsArgs, hsign.1]
    refine ⟨hkeeps, ?_⟩
    simp [parameter?, hkeeps, hsign, hc, hvalue]

variable (output : Clause → Run Chars)

lemma expandPiece_value {depth : Nat} {setting : Setting}
    (hvalue : state.parameter? setting name = some value)
    (system : System) (go : Except Interrupt Glyphs → State → System → Pause) :
    expandPiece output (depth + 1) setting (.parameter name .value []) state system go =
      go (.ok (state.glyphsFor setting name value)) state system := by
  have hset : ((state.parameter? setting name).isNone && state.hasOption 'u') = false := by
    rw [hvalue]
    rfl
  rw [expandPiece]
  -- what is left is to see whether the parameter is set, and to put it in
  change (if (_ && _) = true then _ else _ : Run Unit) state system _ = _
  rw [if_neg (Bool.eq_false_iff.mp hset)]
  change go (.ok (state.parameterGlyphs setting name)) state system = _
  rw [State.parameterGlyphs, hvalue]
  rfl

theorem expandFields_parameter (hname : name.head?.any beginsName)
    (hvalue : state.value? name = some value) (hseparators : state.separators = " \t\n".toList)
    (hoption : state.hasOption 'f') (hnul : '\x00' ∉ value) (system : System)
    (go : Except Interrupt (List Chars) → State → System → Pause) :
    expandFields output [.parameter name .value []] state system go =
      go (.ok (Text.runs isSeparator value)) state system := by
  let setting : Setting := ⟨false, true, false, false⟩
  obtain ⟨hkeeps, hparameter⟩ := State.parameter?_eq setting hname hvalue
  rw [expandFields]
  change expandPiece output (999 + 1) setting (.parameter name .value []) state system _ = _
  rw [expandPiece_value output hparameter, State.glyphsFor, hkeeps, if_neg Bool.false_ne_true]
  change (if state.hasOption 'f' = true then
    (pure ((splitFields state.separators (Glyph.ofValue false value ++ [])).map Glyph.text) :
      Run (List Chars)) else _) state system go = _
  rw [if_pos hoption, hseparators, List.append_nil, splitFields_ofValue hnul]
  rfl

end

/-! ### Text as bytes -/

/-- The characters that stand for the bytes of a character. -/
def spell (c : Char) : Chars :=
  (String.utf8EncodeChar c).map fun byte => Char.ofNat byte.toNat

lemma toChars_ofString (text : String) :
    (RawText.ofString text).toChars = text.toList.flatMap spell := by
  rw [RawText.toChars, RawText.bytes_ofString, List.map_flatMap]
  rfl

lemma eq_of_mem_spell {c d : Char} (h : d ∈ spell c) (hd : d.toNat < 0x80) : c = d := by
  obtain ⟨byte, hbyte, rfl⟩ := List.mem_map.mp h
  have hvalid : byte.toNat.isValidChar := Or.inl (by have := byte.toNat_lt; omega)
  rw [Char.toNat_ofNat, if_pos hvalid] at hd
  have hnat := RawText.toNat_eq_of_mem hbyte hd
  rw [← hnat, Char.ofNat_toNat]

lemma nul_not_mem_toChars {text : String} (hnul : '\x00' ∉ text.toList) :
    '\x00' ∉ (RawText.ofString text).toChars := by
  rw [toChars_ofString, List.mem_flatMap]
  rintro ⟨c, hc, hmem⟩
  exact hnul (eq_of_mem_spell hmem (by decide) ▸ hc)

lemma runs_toChars (text : String) :
    Text.runs isSeparator (RawText.ofString text).toChars =
      (Text.runs isSeparator text.toList).map
        fun run => (RawText.ofString (String.ofList run)).toChars := by
  have hkept : ∀ c, isSeparator c → spell c = [c] := by
    intro c hc
    simp only [isSeparator, Bool.or_eq_true, decide_eq_true_eq] at hc
    rcases hc with (rfl | rfl) | rfl <;> decide
  have hspell : ∀ c, isSeparator c = false →
      spell c ≠ [] ∧ ∀ d ∈ spell c, isSeparator d = false := by
    intro c hc
    constructor
    · intro hnil
      have hlength := congrArg List.length hnil
      rw [spell, List.length_map, String.length_utf8EncodeChar] at hlength
      exact absurd hlength c.utf8Size_pos.ne'
    · intro d hd
      by_contra hsep
      rw [Bool.not_eq_false] at hsep
      have hascii : d.toNat < 0x80 := by
        simp only [isSeparator, Bool.or_eq_true, decide_eq_true_eq] at hsep
        rcases hsep with (rfl | rfl) | rfl <;> decide
      rw [eq_of_mem_spell hd hascii] at hc
      exact absurd (hc.symm.trans hsep) Bool.false_ne_true
  rw [toChars_ofString, Text.runs_flatMap hkept hspell]
  refine List.map_congr_left fun run _ => ?_
  rw [toChars_ofString, String.toList_ofList]

/-- A value becomes these fields in every shell that splits as shells do at first and takes no word
for a pattern, whatever the variable is called. -/
def SplitsInto (value : RawText) (fields : List RawText) : Prop :=
  ∀ (output : Clause → Run Chars) (state : State) (name : Chars) (system : System)
    (go : Except Interrupt (List Chars) → State → System → Pause),
    name.head?.any beginsName → state.value? name = some value.toChars →
    state.separators = " \t\n".toList → state.hasOption 'f' →
    expandFields output [.parameter name .value []] state system go =
      go (.ok (fields.map RawText.toChars)) state system

theorem splitsInto_runs {text : String} (hnul : '\x00' ∉ text.toList) :
    SplitsInto text ((Text.runs isSeparator text.toList).map
      fun run => RawText.ofString (String.ofList run)) := by
  intro output state name system go hname hvalue hseparators hoption
  rw [expandFields_parameter output hname hvalue hseparators hoption (nul_not_mem_toChars hnul),
    runs_toChars, List.map_map]
  rfl

end SiteBoot.Shell
