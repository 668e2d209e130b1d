import SiteBoot.Proofs.EnvFile.Overlay
/-!
# Words

A word is what a shell takes as one value: portions of text, each bare or in quotes of one kind,
with nothing between them. Both scanners and the reading of values take a word portion by portion,
and keep nothing of a portion when they come to the next.
-/

namespace SiteBoot.EnvFile

namespace Quote

/-- The characters that quotes can hold without more being said of them. -/
def Holds : Quote → Char → Prop
  | bare, c => Text.isBlank c = false ∧ c ∉ ['\\', '"', '\'', '#']
  | single, c => c ∉ ['\\', '\'']
  | double, c => c ∉ ['\\', '"']

instance : (quote : Quote) → (c : Char) → Decidable (quote.Holds c)
  | bare, c => inferInstanceAs (Decidable (Text.isBlank c = false ∧ c ∉ _))
  | single, c => inferInstanceAs (Decidable (c ∉ _))
  | double, c => inferInstanceAs (Decidable (c ∉ _))

def border : Quote → List Char
  | bare => []
  | single => ['\'']
  | double => ['"']

def enclose (quote : Quote) (text : List Char) : List Char := quote.border ++ text ++ quote.border

def mark (quote : Quote) (c : Char) : Char := if c = '$' && quote ≠ single then marker else c

end Quote

/-- A text in quotes of one kind. -/
structure Portion where
  quote : Quote
  chars : List Char
  holds : ∀ c ∈ chars, quote.Holds c

namespace Portion

def spelled (portion : Portion) : List Char := portion.quote.enclose portion.chars

def raw (portion : Portion) : List Char := portion.chars.map portion.quote.mark

def marked (portion : Portion) : List Char := portion.quote.enclose portion.raw

end Portion

abbrev Word := List Portion

namespace Word

def spelled (word : Word) : List Char := word.flatMap Portion.spelled

def marked (word : Word) : List Char := word.flatMap Portion.marked

def raw (word : Word) : List Char := word.flatMap Portion.raw

end Word

/-! ### Characters -/

namespace Quote

variable (quote : Quote) {c : Char}

lemma mark_eq (h : c ≠ '$') : quote.mark c = c := by simp [mark, h]

lemma mark_not_mem {special : List Char} (hc : c ∉ special) (hmarker : marker ∉ special) :
    quote.mark c ∉ special := by
  rw [mark]
  split
  · exact hmarker
  · exact hc

lemma mark_ne_dollar {quote : Quote} (h : quote ≠ single) (c : Char) : quote.mark c ≠ '$' := by
  rw [mark]
  split
  · decide
  · rename_i hdollar
    simpa [h] using hdollar

lemma isBlank_mark (h : Text.isBlank c = false) : Text.isBlank (quote.mark c) = false := by
  rw [mark]
  split
  · decide
  · exact h

variable {quote : Quote}

lemma Holds.next_eq (h : quote.Holds c) : quote.next c = quote := by
  cases quote <;> simp_all [Holds, next]

lemma Holds.ne_escape (h : quote.Holds c) : c ≠ '\\' := by
  cases quote <;> simp_all [Holds]

lemma Holds.ne_newline (h : bare.Holds c) : c ≠ '\n' := by
  rintro rfl
  exact absurd h.1 (by decide)

lemma Holds.not_comment (h : quote.Holds c) (previous : Char) :
    (quote = bare && c = '#' && Text.isBlank previous) = false := by
  cases quote with
  | bare =>
    have hne : c ≠ '#' := by
      rintro rfl
      exact absurd h.2 (by decide)
    simp [hne]
  | single => rfl
  | double => rfl

def readState : Quote → ReadState
  | bare => .complete
  | single => .strong
  | double => .weak

lemma Holds.next?_mark (h : quote.Holds c) :
    quote.readState.next? (quote.mark c) = some quote.readState := by
  cases quote with
  | bare =>
    have hblank := isBlank_mark bare h.1
    have hspecial := mark_not_mem bare h.2 (by decide)
    simp only [List.mem_cons, List.not_mem_nil, or_false, not_or] at hspecial
    simp [readState, ReadState.next?, hblank, hspecial]
  | single =>
    have hspecial := mark_not_mem single h (by decide)
    simp only [List.mem_cons, List.not_mem_nil, or_false, not_or] at hspecial
    simp [readState, ReadState.next?, hspecial]
  | double =>
    have hspecial := mark_not_mem double h (by decide)
    simp only [List.mem_cons, List.not_mem_nil, or_false, not_or] at hspecial
    simp [readState, ReadState.next?, hspecial]

lemma Holds.inLine (h : quote.Holds c) (hc : quote.mark c = '\n') :
    quote.readState ≠ .complete := by
  cases quote with
  | bare =>
    have hblank := isBlank_mark bare h.1
    rw [hc] at hblank
    exact absurd hblank (by decide)
  | single => decide
  | double => decide

def valueState : Quote → ValueState
  | bare => .plain false
  | single => .strong
  | double => .plain true

lemma Holds.readValue?_mark (h : quote.Holds c) (lookup : List Char → List Char)
    (text : List Char) :
    readValue? lookup quote.valueState (quote.mark c :: text) =
      (readValue? lookup quote.valueState text).map (quote.mark c :: ·) := by
  cases quote with
  | bare =>
    have hblank := isBlank_mark bare h.1
    have hspecial := mark_not_mem bare h.2 (by decide)
    have hdollar := mark_ne_dollar (by decide : bare ≠ single) c
    have hspace : bare.mark c ≠ ' ' ∧ bare.mark c ≠ '\t' := by
      constructor
      · intro heq
        rw [heq] at hblank
        exact absurd hblank (by decide)
      · intro heq
        rw [heq] at hblank
        exact absurd hblank (by decide)
    simp only [List.mem_cons, List.not_mem_nil, or_false, not_or] at hspecial
    simp [valueState, readValue?, hspecial, hdollar, hspace]
  | single =>
    have hspecial := mark_not_mem single h (by decide)
    simp only [List.mem_cons, List.not_mem_nil, or_false, not_or] at hspecial
    simp [valueState, readValue?, hspecial]
  | double =>
    have hspecial := mark_not_mem double h (by decide)
    have hdollar := mark_ne_dollar (by decide : double ≠ single) c
    simp only [List.mem_cons, List.not_mem_nil, or_false, not_or] at hspecial
    simp [valueState, readValue?, hspecial, hdollar]

end Quote

/-! ### The first look -/

namespace Marked

lemma rest_holds {quote : Quote} {c : Char} (h : quote.Holds c) (previous : Char)
    (text : List Char) :
    ∃ next, rest quote false previous (c :: text) =
      (rest quote false next text).prepend [quote.mark c] := by
  by_cases hc : c = '\n'
  · -- only quoted text goes on in the next line
    have hquote : quote ≠ .bare := by
      rintro rfl
      exact absurd hc h.ne_newline
    refine ⟨' ', ?_⟩
    rw [hc, rest_newline, startingIn_of_ne_bare hquote, quote.mark_eq (by decide)]
  · have hescape : (c = '\\' && quote ≠ .single) = false := by simp [h.ne_escape]
    refine ⟨c, ?_⟩
    rw [rest_cons quote hc (h.not_comment previous), h.next_eq, hescape]
    rfl

lemma rest_chars {quote : Quote} {chars : List Char} (h : ∀ c ∈ chars, quote.Holds c)
    (previous : Char) (text : List Char) :
    ∃ next, rest quote false previous (chars ++ text) =
      (rest quote false next text).prepend (chars.map quote.mark) := by
  induction chars generalizing previous with
  | nil => exact ⟨previous, rfl⟩
  | cons c chars ih =>
    obtain ⟨hc, hchars⟩ := List.forall_mem_cons.mp h
    obtain ⟨middle, hfirst⟩ := rest_holds hc previous (chars ++ text)
    obtain ⟨next, hrest⟩ := ih hchars middle
    refine ⟨next, ?_⟩
    rw [List.cons_append, hfirst, hrest, prepend_prepend]
    rfl

lemma rest_border (quote : Quote) (previous : Char) (text : List Char) :
    ∃ next, rest .bare false previous (quote.border ++ text) =
      (rest quote false next text).prepend quote.border := by
  cases quote with
  | bare => exact ⟨previous, rfl⟩
  | single => exact ⟨'\'', rest_cons .bare (by decide) rfl text⟩
  | double => exact ⟨'"', rest_cons .bare (by decide) rfl text⟩

lemma rest_border_close (quote : Quote) (previous : Char) (text : List Char) :
    ∃ next, rest quote false previous (quote.border ++ text) =
      (rest .bare false next text).prepend quote.border := by
  cases quote with
  | bare => exact ⟨previous, rfl⟩
  | single => exact ⟨'\'', rest_cons .single (by decide) rfl text⟩
  | double => exact ⟨'"', rest_cons .double (by decide) rfl text⟩

lemma rest_portion (portion : Portion) (previous : Char) (text : List Char) :
    ∃ next, rest .bare false previous (portion.spelled ++ text) =
      (rest .bare false next text).prepend portion.marked := by
  have hsplit : portion.spelled ++ text =
      portion.quote.border ++ (portion.chars ++ (portion.quote.border ++ text)) := by
    simp [Portion.spelled, Quote.enclose]
  obtain ⟨_, hopen⟩ := rest_border portion.quote previous
    (portion.chars ++ (portion.quote.border ++ text))
  obtain ⟨_, hchars⟩ := rest_chars portion.holds _ (portion.quote.border ++ text)
  obtain ⟨next, hclose⟩ := rest_border_close portion.quote _ text
  refine ⟨next, ?_⟩
  rw [hsplit, hopen, hchars, hclose, prepend_prepend, prepend_prepend]
  rfl

lemma rest_word (word : Word) (previous : Char) (text : List Char) :
    ∃ next, rest .bare false previous (word.spelled ++ text) =
      (rest .bare false next text).prepend word.marked := by
  induction word generalizing previous with
  | nil => exact ⟨previous, rfl⟩
  | cons portion word ih =>
    have hsplit : Word.spelled (portion :: word) ++ text =
        portion.spelled ++ (Word.spelled word ++ text) := by
      simp [Word.spelled]
    obtain ⟨middle, hfirst⟩ := rest_portion portion previous (Word.spelled word ++ text)
    obtain ⟨next, hrest⟩ := ih middle
    refine ⟨next, ?_⟩
    rw [hsplit, hfirst, hrest, prepend_prepend]
    rfl

end Marked

/-! ### Logical lines -/

namespace LogicalLine

/-- A text leads the reader from one state to another without ending the logical line. -/
inductive Leads : ReadState → List Char → ReadState → Prop
  | nil (state : ReadState) : Leads state [] state
  | cons {state next last : ReadState} {c : Char} {text : List Char}
      (step : state.next? c = some next) (inLine : c = '\n' → next ≠ .complete)
      (rest : Leads next text last) : Leads state (c :: text) last

lemma Leads.append {state middle last : ReadState} {first second : List Char}
    (hfirst : Leads state first middle) (hsecond : Leads middle second last) :
    Leads state (first ++ second) last := by
  induction hfirst with
  | nil => exact hsecond
  | cons step inLine rest ih => exact .cons step inLine (ih hsecond)

lemma Leads.split {state last : ReadState} {first second : List Char}
    (h : Leads state (first ++ second) last) :
    ∃ middle, Leads state first middle ∧ Leads middle second last := by
  induction first generalizing state with
  | nil => exact ⟨state, .nil state, h⟩
  | cons c first ih =>
    rw [List.cons_append] at h
    cases h with
    | cons step inLine rest =>
      obtain ⟨middle, hfirst, hsecond⟩ := ih rest
      exact ⟨middle, .cons step inLine hfirst, hsecond⟩

lemma scanLine_singleton {state next : ReadState} {c : Char} (h : state.next? c = some next) :
    scanLine state [c] = ([c], some next) := by
  rw [scanLine, h]
  rfl

lemma rest_char {part : List Char} (hpart : IsBegun part) {state next : ReadState} {c : Char}
    (step : state.next? c = some next) (inLine : c = '\n' → next ≠ .complete)
    {text : List Char} (htext : text ≠ []) :
    rest part state (c :: text) = rest (part ++ [c]) next text := by
  have hscan := scanLine_singleton step
  by_cases hc : c = '\n'
  · have hnext := inLine hc
    rw [hc] at hscan
    rw [hc, rest, Text.lines_newline, ofLines, if_neg (hpart.not_comment _), hscan]
    cases next <;> first | contradiction | rfl
  · exact rest_append hscan (by simpa using Ne.symm hc) htext

lemma Leads.rest_eq {part : List Char} (hpart : IsBegun part) {state last : ReadState}
    {text : List Char} (h : Leads state text last) {more : List Char} (hmore : more ≠ []) :
    rest part state (text ++ more) = rest (part ++ text) last more := by
  induction h generalizing part with
  | nil => rw [List.nil_append, List.append_nil]
  | cons step inLine _ ih =>
    rw [List.cons_append, rest_char hpart step inLine
      (List.append_ne_nil_of_right_ne_nil _ hmore), ih (hpart.append _), List.append_assoc]
    rfl

lemma leads_chars {quote : Quote} {chars : List Char} (h : ∀ c ∈ chars, quote.Holds c) :
    Leads quote.readState (chars.map quote.mark) quote.readState := by
  induction chars with
  | nil => exact .nil _
  | cons c chars ih =>
    obtain ⟨hc, hchars⟩ := List.forall_mem_cons.mp h
    exact .cons hc.next?_mark hc.inLine (ih hchars)

lemma leads_border (quote : Quote) : Leads .complete quote.border quote.readState := by
  cases quote with
  | bare => exact .nil _
  | single => exact .cons rfl (by decide) (.nil _)
  | double => exact .cons rfl (by decide) (.nil _)

lemma leads_border_close (quote : Quote) : Leads quote.readState quote.border .complete := by
  cases quote with
  | bare => exact .nil _
  | single => exact .cons rfl (by decide) (.nil _)
  | double => exact .cons rfl (by decide) (.nil _)

lemma leads_word (word : Word) : Leads .complete word.marked .complete := by
  induction word with
  | nil => exact .nil _
  | cons portion word ih =>
    have hportion : Leads .complete portion.marked .complete :=
      ((leads_border portion.quote).append (leads_chars portion.holds)).append
        (leads_border_close portion.quote)
    exact hportion.append ih

end LogicalLine

/-! ### Values -/

lemma readValue?_chars {quote : Quote} {chars : List Char} (h : ∀ c ∈ chars, quote.Holds c)
    (lookup : List Char → List Char) (text : List Char) :
    readValue? lookup quote.valueState (chars.map quote.mark ++ text) =
      (readValue? lookup quote.valueState text).map (chars.map quote.mark ++ ·) := by
  induction chars with
  | nil => exact Option.map_id'.symm
  | cons c chars ih =>
    obtain ⟨hc, hchars⟩ := List.forall_mem_cons.mp h
    rw [List.map_cons, List.cons_append, hc.readValue?_mark, ih hchars, Option.map_map]
    rfl

lemma readValue?_border (quote : Quote) (lookup : List Char → List Char) (text : List Char) :
    readValue? lookup (.plain false) (quote.border ++ text) =
      readValue? lookup quote.valueState text := by
  cases quote <;> rfl

lemma readValue?_border_close (quote : Quote) (lookup : List Char → List Char)
    (text : List Char) :
    readValue? lookup quote.valueState (quote.border ++ text) =
      readValue? lookup (.plain false) text := by
  cases quote <;> rfl

/-- The quotes of a portion are no part of the value, and the rest is read as if there were
nothing before it. -/
lemma readValue?_portion (portion : Portion) (lookup : List Char → List Char)
    (text : List Char) :
    readValue? lookup (.plain false) (portion.marked ++ text) =
      (readValue? lookup (.plain false) text).map (portion.raw ++ ·) := by
  rw [Portion.marked, Quote.enclose, List.append_assoc, List.append_assoc, readValue?_border,
    Portion.raw, readValue?_chars portion.holds, readValue?_border_close]

lemma readValue?_word (word : Word) (lookup : List Char → List Char) (text : List Char) :
    readValue? lookup (.plain false) (word.marked ++ text) =
      (readValue? lookup (.plain false) text).map (word.raw ++ ·) := by
  induction word with
  | nil => exact Option.map_id'.symm
  | cons portion word ih =>
    have hsplit : Word.marked (portion :: word) ++ text =
        portion.marked ++ (Word.marked word ++ text) := by
      simp [Word.marked]
    have hraw : Word.raw (portion :: word) = portion.raw ++ Word.raw word := rfl
    rw [hsplit, readValue?_portion, ih, Option.map_map, hraw]
    congr 1
    funext rest
    exact (List.append_assoc ..).symm

/-! ### The ends of a word -/

lemma Word.head?_marked (word : Word) :
    ∀ c ∈ word.marked.head?, Text.isBlank c = false ∧ c ≠ '#' := by
  induction word with
  | nil => simp [Word.marked]
  | cons portion word ih =>
    intro c hc
    rw [Word.marked, List.flatMap_cons, List.head?_append] at hc
    cases hportion : portion.marked with
    | nil =>
      rw [hportion] at hc
      exact ih c hc
    | cons d rest =>
      rw [hportion] at hc
      obtain rfl : d = c := Option.some.inj hc
      obtain ⟨quote, chars, h⟩ := portion
      cases quote with
      | bare =>
        cases chars with
        | nil => exact absurd hportion (List.cons_ne_nil d rest).symm
        | cons e chars =>
          obtain rfl : Quote.bare.mark e = d := (List.cons.inj hportion).1
          obtain ⟨hblank, hspecial⟩ := h e List.mem_cons_self
          have hcomment := Quote.bare.mark_not_mem hspecial (by decide)
          exact ⟨Quote.bare.isBlank_mark hblank, fun heq => hcomment (by rw [heq]; decide)⟩
      | single =>
        obtain rfl : '\'' = d := (List.cons.inj hportion).1
        decide
      | double =>
        obtain rfl : '"' = d := (List.cons.inj hportion).1
        decide

/-- A text that ends in a character that is not blank. -/
def EndsVisibly (text : List Char) : Prop :=
  ∃ before c, text = before ++ [c] ∧ Text.isBlank c = false

namespace EndsVisibly

lemma append {first second : List Char} (hfirst : EndsVisibly first)
    (hsecond : second = [] ∨ EndsVisibly second) : EndsVisibly (first ++ second) := by
  rcases hsecond with rfl | ⟨before, c, rfl, hc⟩
  · rw [List.append_nil]
    exact hfirst
  · exact ⟨first ++ before, c, (List.append_assoc ..).symm, hc⟩

lemma portion (portion : Portion) : portion.marked = [] ∨ EndsVisibly portion.marked := by
  obtain ⟨quote, chars, h⟩ := portion
  cases quote with
  | bare =>
    rcases List.eq_nil_or_concat chars with rfl | ⟨before, c, rfl⟩
    · exact .inl rfl
    · refine .inr ⟨before.map Quote.bare.mark, Quote.bare.mark c, ?_, ?_⟩
      · simp [Portion.marked, Portion.raw, Quote.enclose, Quote.border]
      · exact Quote.bare.isBlank_mark (h c (by simp)).1
  | single => exact .inr ⟨_, '\'', rfl, by decide⟩
  | double => exact .inr ⟨_, '"', rfl, by decide⟩

lemma word {start : List Char} (hstart : EndsVisibly start) (word : Word) :
    EndsVisibly (start ++ word.marked) := by
  induction word generalizing start with
  | nil => exact hstart.append (.inl rfl)
  | cons portion word ih =>
    have hsplit : start ++ Word.marked (portion :: word) =
        start ++ portion.marked ++ Word.marked word := by
      simp [Word.marked]
    rw [hsplit]
    exact ih (hstart.append (EndsVisibly.portion portion))

lemma trimRight {text : List Char} (h : EndsVisibly text) (more : List Char) :
    ∃ kept, kept <+: more ∧ Text.trimRight (text ++ more) = text ++ kept := by
  obtain ⟨before, c, rfl, hc⟩ := h
  have hstop : (before ++ [c]).reverse.dropWhile Text.isBlank = (before ++ [c]).reverse := by
    rw [List.reverse_append, List.reverse_singleton, List.singleton_append,
      List.dropWhile_cons_of_neg (by simp [hc])]
  refine ⟨(more.reverse.dropWhile Text.isBlank).reverse, ?_, ?_⟩
  · rw [← List.reverse_suffix, List.reverse_reverse]
    exact List.dropWhile_suffix _
  · rw [Text.trimRight, List.reverse_append, List.dropWhile_append]
    split
    · rename_i hempty
      rw [List.isEmpty_iff.mp hempty, hstop, List.reverse_reverse, List.reverse_nil,
        List.append_nil]
    · rw [List.reverse_append, List.reverse_reverse]

end EndsVisibly

end SiteBoot.EnvFile
