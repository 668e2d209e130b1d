import SiteBoot.Proofs.EnvFile.ExportLine
/-!
# Line by line

What one line of a file does to the scanners: the first look changes nothing about where lines end,
so the reader of logical lines gets the lines of the file one by one. Each of them either ends a
logical line or is one more part of it.
-/

namespace SiteBoot.Text

/-- A text is nothing, a line that has no newline, or a line up to its newline and more text. -/
@[elab_as_elim]
theorem line_induction {motive : List Char → Prop} (nil : motive [])
    (last : ∀ line, line ≠ [] → '\n' ∉ line → motive line)
    (newline : ∀ line rest, '\n' ∉ line → motive rest → motive (line ++ '\n' :: rest))
    (text : List Char) : motive text := by
  by_cases hmem : '\n' ∈ text
  · obtain ⟨line, rest, heq, hline⟩ := List.eq_append_cons_of_mem hmem
    have hlength : rest.length < text.length := by
      rw [heq, List.length_append, List.length_cons]
      omega
    rw [heq]
    exact newline line rest hline (line_induction nil last newline rest)
  · by_cases hnil : text = []
    · rw [hnil]
      exact nil
    · exact last text hnil hmem
termination_by text.length

end SiteBoot.Text

namespace SiteBoot.EnvFile

/-! ### The first look -/

section FirstLook

variable (quote : Quote) (previous : Char) {c : Char} (rest : List Char)

lemma markLine_escaped : markLine quote true previous (c :: rest) =
    (c :: (markLine quote false c rest).1, (markLine quote false c rest).2) := rfl

variable {quote previous}

lemma markLine_comment (h : Text.isBlank previous) :
    markLine .bare false previous ('#' :: rest) = ('#' :: rest, .bare) := by
  simp [markLine, h]

lemma markLine_char (h : ¬ (quote = .bare && c = '#' && Text.isBlank previous)) :
    markLine quote false previous (c :: rest) =
      (quote.mark c :: (markLine (quote.next c) (c = '\\' && quote ≠ .single) c rest).1,
        (markLine (quote.next c) (c = '\\' && quote ≠ .single) c rest).2) := by
  rw [markLine, if_neg (by simp), if_neg h]
  rfl

end FirstLook

@[elab_as_elim]
theorem markLine_induction {motive : Quote → Bool → Char → List Char → Prop}
    (nil : ∀ quote escaped previous, motive quote escaped previous [])
    (escaped : ∀ quote previous c rest, motive quote false c rest →
      motive quote true previous (c :: rest))
    (comment : ∀ previous rest, Text.isBlank previous → motive .bare false previous ('#' :: rest))
    (char : ∀ quote previous c rest, ¬ (quote = .bare && c = '#' && Text.isBlank previous) →
      motive (quote.next c) (c = '\\' && quote ≠ .single) c rest →
      motive quote false previous (c :: rest))
    (quote : Quote) (isEscaped : Bool) (previous : Char) (line : List Char) :
    motive quote isEscaped previous line := by
  induction line generalizing quote isEscaped previous with
  | nil => exact nil quote isEscaped previous
  | cons c rest ih =>
    cases isEscaped with
    | true => exact escaped quote previous c rest (ih ..)
    | false =>
      by_cases hcomment : quote = .bare && c = '#' && Text.isBlank previous
      · simp only [Bool.and_eq_true, decide_eq_true_eq] at hcomment
        obtain ⟨⟨rfl, rfl⟩, hblank⟩ := hcomment
        exact comment previous rest hblank
      · exact char quote previous c rest hcomment (ih ..)

lemma length_markLine (quote : Quote) (escaped : Bool) (previous : Char) (line : List Char) :
    (markLine quote escaped previous line).1.length = line.length := by
  induction quote, escaped, previous, line using markLine_induction with
  | nil => rfl
  | escaped quote previous c rest ih =>
    rw [markLine_escaped, List.length_cons, List.length_cons, ih]
  | comment previous rest hblank => rw [markLine_comment rest hblank]
  | char quote previous c rest hcomment ih =>
    rw [markLine_char rest hcomment, List.length_cons, List.length_cons, ih]

lemma not_mem_markLine (quote : Quote) (escaped : Bool) (previous : Char) {line : List Char}
    {other : Char} (hmarker : marker ≠ other) (h : other ∉ line) :
    other ∉ (markLine quote escaped previous line).1 := by
  induction quote, escaped, previous, line using markLine_induction with
  | nil => exact List.not_mem_nil
  | escaped quote previous c rest ih =>
    rw [List.mem_cons, not_or] at h
    rw [markLine_escaped, List.mem_cons, not_or]
    exact ⟨h.1, ih h.2⟩
  | comment previous rest hblank =>
    rw [markLine_comment rest hblank]
    exact h
  | char quote previous c rest hcomment ih =>
    rw [List.mem_cons, not_or] at h
    rw [markLine_char rest hcomment, List.mem_cons, not_or]
    have hc : quote.mark c ∉ [other] :=
      quote.mark_not_mem (fun hmem => h.1 (List.mem_singleton.mp hmem).symm)
        (fun hmem => hmarker (List.mem_singleton.mp hmem))
    exact ⟨fun heq => hc (List.mem_singleton.mpr heq.symm), ih h.2⟩

lemma newline_not_mem_markLine (quote : Quote) {line : List Char} (h : '\n' ∉ line) :
    '\n' ∉ (markLine quote false ' ' line).1 :=
  not_mem_markLine quote false ' ' (by decide) h

lemma markLine_concat {last : Char} (hlast : last ≠ '$') (quote : Quote) (escaped : Bool)
    (previous : Char) (line : List Char) :
    (markLine quote escaped previous (line ++ [last])).1 =
      (markLine quote escaped previous line).1 ++ [last] := by
  induction quote, escaped, previous, line using markLine_induction with
  | nil quote escaped previous =>
    cases escaped with
    | true => rfl
    | false =>
      by_cases hcomment : quote = .bare && last = '#' && Text.isBlank previous
      · simp [markLine, hcomment]
      · simp [markLine, hcomment, hlast]
  | escaped quote previous c rest ih =>
    rw [List.cons_append, markLine_escaped, markLine_escaped, ih, List.cons_append]
  | comment previous rest hblank =>
    rw [List.cons_append, markLine_comment _ hblank, markLine_comment _ hblank, List.cons_append]
  | char quote previous c rest hcomment ih =>
    rw [List.cons_append, markLine_char _ hcomment, markLine_char _ hcomment, ih, List.cons_append]

lemma markLine_newline (quote : Quote) (escaped : Bool) (previous : Char) (line : List Char) :
    (markLine quote escaped previous (line ++ ['\n'])).1 =
      (markLine quote escaped previous line).1 ++ ['\n'] :=
  markLine_concat (by decide) quote escaped previous line

lemma markLines_cons_newline (quote : Quote) (line : List Char) (others : List (List Char)) :
    (markLines quote ((line ++ ['\n']) :: others)).1 =
      ((markLine quote false ' ' line).1 ++ ['\n']) ::
        (markLines (markLine quote false ' ' (line ++ ['\n'])).2 others).1 := by
  rw [← markLine_newline]
  rfl

namespace Marked

lemma lines_startingIn (quote : Quote) (text : List Char) :
    Text.lines (startingIn quote text).text = (markLines quote (Text.lines text)).1 := by
  induction text using Text.line_induction generalizing quote with
  | nil => rfl
  | last line hne hline =>
    have hmarked : (markLine quote false ' ' line).1 ≠ [] := by
      rw [← List.length_pos_iff, length_markLine, List.length_pos_iff]
      exact hne
    rw [startingIn, Text.lines_eq_singleton hline hne]
    simp only [markLines, List.flatten_cons, List.flatten_nil, List.append_nil]
    exact Text.lines_eq_singleton (newline_not_mem_markLine quote hline) hmarked
  | newline line rest hline ih =>
    have hrest := ih (markLine quote false ' ' (line ++ ['\n'])).2
    rw [startingIn] at hrest
    rw [startingIn, Text.lines_append_newline hline]
    dsimp only
    rw [markLines_cons_newline, List.flatten_cons, List.append_assoc, List.singleton_append,
      Text.lines_append_newline (newline_not_mem_markLine quote hline), hrest]

lemma lines_ofText (text : List Char) :
    Text.lines (ofText text).text = (markLines .bare (Text.lines text)).1 :=
  lines_startingIn .bare text

end Marked

/-! ### Logical lines -/

/-- Where the reader stands after a line. A comment, on a line of its own or after a value, ends
the logical line. -/
def ReadState.afterLine (state : ReadState) (line : List Char) : ReadState :=
  if state = .complete ∧ (Text.trimLeft line).head? = some '#' then .complete
  else (scanLine state line).2.getD .complete

lemma chomp_isPrefix (line : List Char) : chomp line <+: line := by
  rcases List.eq_nil_or_concat line with rfl | ⟨start, c, rfl⟩
  · exact List.prefix_rfl
  · rw [List.concat_eq_append]
    by_cases hc : c = '\n'
    · rw [hc]
      exact (chomp_newline start).trans (List.prefix_append start ['\n'])
    · have hkept : chomp (start ++ [c]) = start ++ [c] := by
        rw [chomp, List.reverse_append, List.reverse_singleton, List.singleton_append]
        simp [hc]
      rw [hkept]

lemma scanLine_isPrefix (state : ReadState) (line : List Char) :
    (scanLine state line).1 <+: line := by
  induction line generalizing state with
  | nil => exact List.prefix_rfl
  | cons c line ih =>
    rw [scanLine]
    cases state.next? c with
    | none => exact List.nil_prefix
    | some next => exact (List.prefix_cons_inj c).mpr (ih next)

namespace LogicalLine

/-- What has been read of a logical line, and where the reader stands. -/
def Pending (part : List Char) (state : ReadState) : Prop :=
  state = .complete ∧ part = [] ∨ state ≠ .complete ∧ IsBegun part

lemma pending_start : Pending [] .complete := .inl ⟨rfl, rfl⟩

namespace Pending

variable {part : List Char} {state : ReadState}

lemma comment_iff (h : Pending part state) (line : List Char) :
    (Text.trimLeft (part ++ line)).head? = some '#' ↔
      state = .complete ∧ (Text.trimLeft line).head? = some '#' := by
  rcases h with ⟨rfl, rfl⟩ | ⟨hstate, hpart⟩
  · simp
  · exact iff_of_false (hpart.not_comment line) fun hcomment => hstate hcomment.1

/-- A line ends the logical line, of which it leaves a part, or it leaves the reader in it. -/
lemma ofLines_cons (h : Pending part state) (line : List Char) :
    (state.afterLine line = .complete ∧ ∃ kept, kept <+: part ++ line ∧
      ∀ rest, ofLines part state (line :: rest) = .whole kept :: ofLines [] .complete rest) ∨
    (state.afterLine line ≠ .complete ∧
      ∀ rest, ofLines part state (line :: rest) =
        ofLines (part ++ line) (state.afterLine line) rest) := by
  by_cases hcomment : (Text.trimLeft (part ++ line)).head? = some '#'
  · refine .inl ⟨if_pos ((h.comment_iff line).mp hcomment), [], List.nil_prefix, fun rest => ?_⟩
    rw [ofLines, if_pos hcomment]
  · have hafter : state.afterLine line = (scanLine state line).2.getD .complete :=
      if_neg ((h.comment_iff line).not.mp hcomment)
    have hkept := (List.prefix_append_right_inj part).mpr (scanLine_isPrefix state line)
    rw [hafter]
    rcases hscan : scanLine state line with ⟨kept, last | last⟩
    · refine .inl ⟨rfl, part ++ kept, ?_, fun rest => ?_⟩
      · rw [hscan] at hkept
        exact hkept
      · rw [ofLines, if_neg hcomment, hscan]
    · by_cases hlast : last = .complete
      · refine .inl ⟨hlast, chomp (part ++ line), chomp_isPrefix _, fun rest => ?_⟩
        rw [ofLines, if_neg hcomment, hscan, hlast]
      · refine .inr ⟨hlast, fun rest => ?_⟩
        rw [ofLines, if_neg hcomment, hscan]
        cases last <;> first | contradiction | rfl

end Pending

lemma afterLine_newline (state : ReadState) (line : List Char) :
    state.afterLine (line ++ ['\n']) ∈ [ReadState.complete, .weak, .strong] := by
  have hscan : ∀ state, (scanLine state (line ++ ['\n'])).2.getD .complete ∈
      [ReadState.complete, .weak, .strong] := by
    induction line with
    | nil => intro state; cases state <;> decide
    | cons c line ih =>
      intro state
      rw [List.cons_append, scanLine]
      cases state.next? c with
      | none => exact List.mem_cons_self
      | some next => exact ih next
  rw [ReadState.afterLine]
  split
  · exact List.mem_cons_self
  · exact hscan state

lemma scanLine_blanks {line : List Char} (h : ∀ c ∈ line, Text.isBlank c) {state : ReadState}
    (hstate : state = .complete ∨ state = .blank) :
    ∃ last, (scanLine state line).2 = some last ∧ (last = .complete ∨ last = .blank) := by
  induction line generalizing state with
  | nil => exact ⟨state, rfl, hstate⟩
  | cons c line ih =>
    obtain ⟨hc, hline⟩ := List.forall_mem_cons.mp h
    obtain ⟨next, hnext, hcases⟩ := ReadState.next?_outside (isQuiet_of_isBlank hc) hstate
    rw [scanLine, hnext]
    exact ih hline hcases

lemma Pending.next {part : List Char} {state : ReadState} (h : Pending part state)
    {line : List Char} (hafter : state.afterLine (line ++ ['\n']) ≠ .complete) :
    Pending (part ++ (line ++ ['\n'])) (state.afterLine (line ++ ['\n'])) := by
  refine .inr ⟨hafter, ?_⟩
  rcases h with ⟨rfl, rfl⟩ | ⟨-, hpart⟩
  · cases hhead : Text.trimLeft (line ++ ['\n']) with
    | nil =>
      -- after a blank line the reader has begun nothing
      have hblanks : ∀ c ∈ line ++ ['\n'], Text.isBlank c := List.dropWhile_eq_nil_iff.mp hhead
      obtain ⟨last, hscan, hlast⟩ := scanLine_blanks hblanks (.inl rfl)
      have hnewline := afterLine_newline .complete line
      rw [ReadState.afterLine, hhead, if_neg (by simp), hscan, Option.getD_some] at hafter hnewline
      rcases hlast with rfl | rfl
      · contradiction
      · exact absurd hnewline (by decide)
    | cons c rest =>
      refine ⟨c, by rw [List.nil_append, hhead]; rfl, ?_⟩
      rintro rfl
      exact hafter (if_pos ⟨rfl, by rw [hhead]; rfl⟩)
  · exact hpart.append _

end LogicalLine

end SiteBoot.EnvFile
