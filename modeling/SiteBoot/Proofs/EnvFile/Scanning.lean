import Mathlib
import SiteBoot.EnvFile.LogicalLine
import SiteBoot.EnvFile.Marked
/-!
# Scanning character by character

Both scanners of an environment file work line by line. Here they are followed through the
characters of a text instead: `Marked.rest` is the first look from the middle of a line on, and
`LogicalLine.rest` the reading of logical lines. What one character does to them is stated once,
so that longer pieces of text are followed by induction.
-/

namespace SiteBoot.Text

lemma lines_newline (rest : List Char) : lines ('\n' :: rest) = ['\n'] :: lines rest := by
  rw [lines, if_pos rfl]

lemma lines_cons {c : Char} (h : c ≠ '\n') (rest : List Char) :
    lines (c :: rest) =
      match lines rest with
      | [] => [[c]]
      | line :: others => (c :: line) :: others := by
  rw [lines]
  exact if_neg h

lemma lines_ne_nil {text : List Char} (h : text ≠ []) : lines text ≠ [] := by
  intro hnil
  have hflat := flatten_lines text
  rw [hnil] at hflat
  exact h hflat.symm

lemma lines_append {start rest : List Char} (h : '\n' ∉ start) (hrest : rest ≠ []) :
    ∃ line others, lines rest = line :: others ∧
      lines (start ++ rest) = (start ++ line) :: others := by
  obtain ⟨line, others, hlines⟩ := List.exists_cons_of_ne_nil (lines_ne_nil hrest)
  refine ⟨line, others, hlines, ?_⟩
  induction start with
  | nil => exact hlines
  | cons c start ih =>
    rw [List.mem_cons, not_or] at h
    rw [List.cons_append, lines_cons (Ne.symm h.1), ih h.2]
    rfl

lemma lines_append_newline {start : List Char} (h : '\n' ∉ start) (rest : List Char) :
    lines (start ++ '\n' :: rest) = (start ++ ['\n']) :: lines rest := by
  obtain ⟨line, others, hlines, happend⟩ := lines_append h (List.cons_ne_nil '\n' rest)
  rw [lines_newline] at hlines
  obtain ⟨rfl, rfl⟩ := List.cons.inj hlines
  exact happend

lemma lines_eq_singleton {text : List Char} (h : '\n' ∉ text) (hne : text ≠ []) :
    lines text = [text] := by
  induction text with
  | nil => contradiction
  | cons c rest ih =>
    rw [List.mem_cons, not_or] at h
    rw [lines_cons (Ne.symm h.1)]
    cases rest with
    | nil => rfl
    | cons d rest => rw [ih h.2 (List.cons_ne_nil d rest)]

end SiteBoot.Text

namespace SiteBoot.EnvFile

/-- A character that means nothing to the scanners outside quotes, but that it may be blank. -/
def IsPlain (c : Char) : Prop := c ∉ ['\n', '\\', '"', '\'', '$', '#']

instance (c : Char) : Decidable (IsPlain c) := inferInstanceAs (Decidable (c ∉ _))

/-- A character that opens no quotes, is no escape and begins no comment. -/
def IsQuiet (c : Char) : Prop := c ∉ ['\\', '"', '\'', '#']

instance (c : Char) : Decidable (IsQuiet c) := inferInstanceAs (Decidable (c ∉ _))

lemma IsPlain.isQuiet {c : Char} (h : IsPlain c) : IsQuiet c := by
  simp only [IsPlain, IsQuiet, List.mem_cons, List.not_mem_nil, not_or] at h ⊢
  exact ⟨h.2.1, h.2.2.1, h.2.2.2.1, h.2.2.2.2.2⟩

lemma isQuiet_of_isBlank {c : Char} (h : Text.isBlank c) : IsQuiet c := by
  intro hmem
  simp only [List.mem_cons, List.not_mem_nil, or_false] at hmem
  rcases hmem with rfl | rfl | rfl | rfl <;> exact absurd h (by decide)

namespace Marked

def prepend (start : List Char) (marked : Marked) : Marked :=
  ⟨start ++ marked.text, marked.exported⟩

lemma prepend_prepend (first second : List Char) (marked : Marked) :
    (marked.prepend second).prepend first = marked.prepend (first ++ second) := by
  rw [prepend, prepend, prepend, List.append_assoc]

/-- The first look at a text that begins with a line in the given quotes. -/
def startingIn (quote : Quote) (text : List Char) : Marked :=
  let (lines, names) := markLines quote (Text.lines text)
  ⟨lines.flatten, names⟩

/-- The first look at a text that begins in the middle of a line. -/
def rest (quote : Quote) (escaped : Bool) (previous : Char) (text : List Char) : Marked :=
  match Text.lines text with
  | [] => ⟨[], []⟩
  | line :: others =>
    let (out, last) := markLine quote escaped previous line
    let (outs, names) := markLines last others
    ⟨out ++ outs.flatten, names⟩

def exportsFirst (text : List Char) : List (List Char) :=
  match Text.lines text with
  | [] => []
  | line :: _ => (exportedName? line).toList

lemma startingIn_bare (text : List Char) :
    startingIn .bare text =
      ⟨(rest .bare false ' ' text).text,
        exportsFirst text ++ (rest .bare false ' ' text).exported⟩ := by
  rw [startingIn, rest, exportsFirst]
  cases Text.lines text with
  | nil => rfl
  | cons line others => rfl

lemma startingIn_of_ne_bare {quote : Quote} (h : quote ≠ .bare) (text : List Char) :
    startingIn quote text = rest quote false ' ' text := by
  rw [startingIn, rest]
  cases Text.lines text with
  | nil => rfl
  | cons line others =>
    rw [markLines, if_neg h]
    rfl

lemma rest_newline (quote : Quote) (escaped : Bool) (previous : Char) (text : List Char) :
    rest quote escaped previous ('\n' :: text) = (startingIn quote text).prepend ['\n'] := by
  rw [rest, Text.lines_newline]
  cases escaped with
  | true => simp [markLine, startingIn, prepend]
  | false => cases quote <;> simp [markLine, startingIn, prepend, Quote.next]

lemma rest_escaped (quote : Quote) (previous : Char) {c : Char} (h : c ≠ '\n')
    (text : List Char) :
    rest quote true previous (c :: text) = (rest quote false c text).prepend [c] := by
  rw [rest, Text.lines_cons h, rest]
  cases Text.lines text with
  | nil => rfl
  | cons line others => simp [markLine, prepend]

lemma rest_cons (quote : Quote) {previous c : Char} (h : c ≠ '\n')
    (hcomment : (quote = .bare && c = '#' && Text.isBlank previous) = false)
    (text : List Char) :
    rest quote false previous (c :: text) =
      (rest (quote.next c) (c = '\\' && quote ≠ .single) c text).prepend
        [if c = '$' && quote ≠ .single then marker else c] := by
  rw [rest, Text.lines_cons h, rest]
  cases Text.lines text with
  | nil => simp [markLine, markLines, prepend, hcomment]
  | cons line others => simp [markLine, prepend, hcomment]

lemma rest_quoted {quote : Quote} (h : quote ≠ .bare) (previous : Char) (text : List Char) :
    rest quote false previous text = rest quote false ' ' text := by
  rw [rest, rest]
  cases Text.lines text with
  | nil => rfl
  | cons line others =>
    cases line with
    | nil => rfl
    | cons c line => simp [markLine, h]

/-! ### Double quotes -/

/-- The first look at the rest of a text from within double quotes. -/
def inDouble (text : List Char) : Marked := rest .double false ' ' text

lemma rest_double (previous : Char) (text : List Char) :
    rest .double false previous text = inDouble text :=
  rest_quoted (by decide) previous text

lemma inDouble_char {c : Char} (h : c ∉ ['\\', '"', '$']) (text : List Char) :
    inDouble (c :: text) = (inDouble text).prepend [c] := by
  simp only [List.mem_cons, List.not_mem_nil, not_or] at h
  obtain ⟨hescape, hquote, hdollar, -⟩ := h
  by_cases hc : c = '\n'
  · rw [hc, inDouble, rest_newline, startingIn_of_ne_bare (by decide), inDouble]
  · rw [inDouble, rest_cons .double hc rfl]
    have hnext : Quote.double.next c = .double := by simp [Quote.next, hquote]
    rw [hnext]
    simp [hescape, hdollar, rest_double]

lemma inDouble_dollar (text : List Char) :
    inDouble ('$' :: text) = (inDouble text).prepend [marker] := by
  rw [inDouble, rest_cons .double (by decide) rfl]
  exact congrArg (prepend [marker]) (rest_double '$' text)

lemma inDouble_escape {c : Char} (h : c ≠ '\n') (text : List Char) :
    inDouble ('\\' :: c :: text) = (inDouble text).prepend ['\\', c] := by
  rw [inDouble, rest_cons .double (by decide) rfl]
  change prepend ['\\'] (rest .double true '\\' (c :: text)) = _
  rw [rest_escaped .double '\\' h, rest_double, prepend_prepend]
  rfl

lemma inDouble_close_newline (text : List Char) :
    inDouble ('"' :: '\n' :: text) = (ofText text).prepend ['"', '\n'] := by
  rw [inDouble, rest_cons .double (by decide) rfl]
  change prepend ['"'] (rest .bare false '"' ('\n' :: text)) = _
  rw [rest_newline, prepend_prepend]
  rfl

lemma inDouble_close : inDouble ['"'] = ⟨['"'], []⟩ := rfl

/-! ### Outside quotes -/

lemma rest_plain {start : List Char} (h : ∀ c ∈ start, IsPlain c) (previous : Char)
    (text : List Char) :
    rest .bare false previous (start ++ text) =
      (rest .bare false (start.getLastD previous) text).prepend start := by
  induction start generalizing previous with
  | nil => rfl
  | cons c start ih =>
    obtain ⟨hc, hstart⟩ := List.forall_mem_cons.mp h
    simp only [IsPlain, List.mem_cons, List.not_mem_nil, not_or] at hc
    obtain ⟨hnewline, hescape, hdouble, hsingle, hdollar, hcomment, -⟩ := hc
    have hnext : Quote.bare.next c = .bare := by simp [Quote.next, hdouble, hsingle]
    rw [List.cons_append, rest_cons .bare hnewline (by simp [hcomment]), hnext]
    simp only [hescape, hdollar, decide_false, Bool.false_and, Bool.false_eq_true, if_false,
      ih hstart, prepend_prepend, List.singleton_append, List.getLastD_cons]

lemma rest_open (previous : Char) (text : List Char) :
    rest .bare false previous ('"' :: text) = (inDouble text).prepend ['"'] := by
  rw [rest_cons .bare (by decide) rfl]
  exact congrArg (prepend ['"']) (rest_double '"' text)

end Marked

/-! ### Logical lines -/

lemma scanLine_append {state next : ReadState} {first : List Char}
    (h : scanLine state first = (first, some next)) (more : List Char) :
    scanLine state (first ++ more) = (first ++ (scanLine next more).1, (scanLine next more).2) := by
  induction first generalizing state with
  | nil =>
    obtain rfl : state = next := Option.some.inj (congrArg Prod.snd h)
    rfl
  | cons c first ih =>
    rw [List.cons_append, scanLine]
    rw [scanLine] at h
    cases hc : state.next? c with
    | none =>
      rw [hc] at h
      simp at h
    | some middle =>
      rw [hc] at h
      have htail : scanLine middle first = (first, some next) := by
        have hkept := congrArg (List.tail ∘ Prod.fst) h
        have hlast := congrArg Prod.snd h
        exact Prod.ext hkept hlast
      simp [ih htail]

/-- Outside quotes the reader tells blanks from other characters, but both mean nothing to it. -/
lemma ReadState.next?_outside {c : Char} (h : IsQuiet c) {state : ReadState}
    (hstate : state = .complete ∨ state = .blank) :
    ∃ next, state.next? c = some next ∧ (next = .complete ∨ next = .blank) := by
  simp only [IsQuiet, List.mem_cons, List.not_mem_nil, not_or] at h
  obtain ⟨hescape, hdouble, hsingle, hcomment, -⟩ := h
  rcases hstate with rfl | rfl
  · by_cases hblank : Text.isBlank c && c ≠ '\n' && c ≠ '\r'
    · exact ⟨.blank, by rw [ReadState.next?, if_pos hblank], .inr rfl⟩
    · refine ⟨.complete, ?_, .inl rfl⟩
      rw [ReadState.next?, if_neg hblank, if_neg hescape, if_neg hdouble, if_neg hsingle]
  · refine ⟨.complete, ?_, .inl rfl⟩
    rw [ReadState.next?, if_neg hcomment, if_neg hescape, if_neg hdouble, if_neg hsingle]

lemma scanLine_open {start : List Char} (h : ∀ c ∈ start, IsPlain c) {quote : Char}
    {opened : ReadState} (hcomplete : ReadState.complete.next? quote = some opened)
    (hblank : ReadState.blank.next? quote = some opened) {state : ReadState}
    (hstate : state = .complete ∨ state = .blank) :
    scanLine state (start ++ [quote]) = (start ++ [quote], some opened) := by
  induction start generalizing state with
  | nil =>
    have hstep : state.next? quote = some opened := by
      rcases hstate with rfl | rfl
      · exact hcomplete
      · exact hblank
    rw [List.nil_append, scanLine, hstep]
    rfl
  | cons c start ih =>
    obtain ⟨hc, hstart⟩ := List.forall_mem_cons.mp h
    obtain ⟨next, hnext, hcases⟩ := ReadState.next?_outside hc.isQuiet hstate
    rw [List.cons_append, scanLine, hnext]
    dsimp only
    rw [ih hstart hcases]

namespace LogicalLine

/-- The logical lines of a text that begins in the middle of one. -/
def rest (part : List Char) (state : ReadState) (text : List Char) : List LogicalLine :=
  ofLines part state (Text.lines text)

/-- A part of a line that makes it no comment. -/
def IsBegun (part : List Char) : Prop := ∃ c, (Text.trimLeft part).head? = some c ∧ c ≠ '#'

lemma IsBegun.append {part : List Char} (h : IsBegun part) (more : List Char) :
    IsBegun (part ++ more) := by
  obtain ⟨c, hc, hne⟩ := h
  refine ⟨c, ?_, hne⟩
  rw [Text.trimLeft] at hc ⊢
  rw [List.dropWhile_append, if_neg, List.head?_append, hc]
  · rfl
  · intro hempty
    rw [List.isEmpty_iff.mp hempty] at hc
    contradiction

lemma IsBegun.not_comment {part : List Char} (h : IsBegun part) (more : List Char) :
    (Text.trimLeft (part ++ more)).head? ≠ some '#' := by
  obtain ⟨c, hc, hne⟩ := h.append more
  rw [hc]
  exact fun heq => hne (Option.some.inj heq)

lemma rest_append {part first : List Char} {state next : ReadState}
    (hscan : scanLine state first = (first, some next)) (hnewline : '\n' ∉ first)
    {text : List Char} (htext : text ≠ []) :
    rest part state (first ++ text) = rest (part ++ first) next text := by
  obtain ⟨line, others, hlines, happend⟩ := Text.lines_append hnewline htext
  rw [rest, rest, happend, hlines, ofLines, ofLines, scanLine_append hscan, List.append_assoc]
  rcases scanLine next line with ⟨kept, last | last⟩
  · simp only [List.append_assoc]
  · cases last <;> rfl

lemma rest_weak_newline {part : List Char} (hpart : IsBegun part) (text : List Char) :
    rest part .weak ('\n' :: text) = rest (part ++ ['\n']) .weak text := by
  rw [rest, rest, Text.lines_newline, ofLines, if_neg (hpart.not_comment _)]
  rfl

lemma rest_weak_char {part : List Char} (hpart : IsBegun part) {c : Char} (h : c ∉ ['\\', '"'])
    {text : List Char} (htext : text ≠ []) :
    rest part .weak (c :: text) = rest (part ++ [c]) .weak text := by
  simp only [List.mem_cons, List.not_mem_nil, not_or] at h
  obtain ⟨hescape, hquote, -⟩ := h
  by_cases hc : c = '\n'
  · rw [hc]
    exact rest_weak_newline hpart text
  · have hscan : scanLine .weak [c] = ([c], some .weak) := by
      simp [scanLine, ReadState.next?, hescape, hquote]
    exact rest_append hscan (by simpa using Ne.symm hc) htext

lemma rest_weak_escape (part : List Char) {c : Char} (h : c ≠ '\n') {text : List Char}
    (htext : text ≠ []) :
    rest part .weak ('\\' :: c :: text) = rest (part ++ ['\\', c]) .weak text := by
  have hscan : scanLine .weak ['\\', c] = (['\\', c], some .weak) := by
    simp [scanLine, ReadState.next?]
  exact rest_append hscan (by simpa using Ne.symm h) htext

lemma rest_close_newline {part : List Char} (hpart : IsBegun part) (text : List Char) :
    rest part .weak ('"' :: '\n' :: text) = .whole (part ++ ['"']) :: ofText text := by
  have hscan : scanLine .weak ['"'] = (['"'], some .complete) := rfl
  have hpiece : rest part .weak (['"'] ++ '\n' :: text) = _ :=
    rest_append hscan (by decide) (List.cons_ne_nil _ _)
  rw [List.singleton_append] at hpiece
  rw [hpiece, rest, Text.lines_newline, ofLines, if_neg ((hpart.append _).not_comment _)]
  simp [scanLine, ReadState.next?, chomp, ofText, Text.isBlank]

lemma rest_close {part : List Char} (hpart : IsBegun part) :
    rest part .weak ['"'] = [.whole (part ++ ['"'])] := by
  have hlines : Text.lines ['"'] = [['"']] := rfl
  rw [rest, hlines, ofLines, if_neg (hpart.not_comment _)]
  simp [scanLine, ReadState.next?, chomp, ofLines]

end LogicalLine

end SiteBoot.EnvFile
