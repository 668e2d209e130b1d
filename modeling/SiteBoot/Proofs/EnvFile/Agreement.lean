import SiteBoot.Proofs.EnvFile.Guarded
/-!
# Where the scanners agree

Each scanner of an environment file finds quotes, escapes and comments by rules of its own. Where
the first look and the reader of logical lines agree on the quotes at the end of every line, and the
comments that hold a dollar sign are set off for the reading of values, every logical line is
guarded, and what it says does not depend on what is found in the process.
-/

namespace SiteBoot.EnvFile

/-- The first look and the reader of logical lines go from line to line in the same quotes, and the
comments that matter to the reading of values are set off for it. -/
def InStep (quote : Quote) : List (List Char) → Prop
  | [] => True
  | line :: rest =>
    let (marked, last) := markLine quote false ' ' line
    commentSetOff quote false ' ' true line ∧
      (rest = [] ∨ quote.readState.afterLine marked = last.readState) ∧ InStep last rest

instance instDecidableInStep : (quote : Quote) → (lines : List (List Char)) →
    Decidable (InStep quote lines)
  | _, [] => inferInstanceAs (Decidable True)
  | quote, line :: rest =>
    have := instDecidableInStep (markLine quote false ' ' line).2 rest
    inferInstanceAs (Decidable (_ ∧ _ ∧ _))

/-- The scanners agree on a file. -/
def ScannersAgree (content : String) : Prop := InStep .bare (Text.lines content.toList)

instance (content : String) : Decidable (ScannersAgree content) :=
  inferInstanceAs (Decidable (InStep _ _))

/-! ### The reading of a file -/

lemma Quote.readState_eq_complete_iff (quote : Quote) :
    quote.readState = .complete ↔ quote = .bare := by
  cases quote <;> decide

lemma LogicalLine.whole_not_mem_nil (part : List Char) (state : ReadState) (line : List Char) :
    .whole line ∉ ofLines part state [] := by
  rw [ofLines]
  split <;> simp

lemma LogicalLine.Pending.guarded_or_mem {part : List Char} {state : ReadState}
    (h : Pending part state) {first : List Char} (hfirst : Guarded .bare false true (part ++ first))
    {others : List (List Char)} {line : List Char}
    (hline : .whole line ∈ ofLines part state (first :: others)) :
    Guarded .bare false true line ∨
      state.afterLine first = .complete ∧ .whole line ∈ ofLines [] .complete others ∨
      state.afterLine first ≠ .complete ∧
        .whole line ∈ ofLines (part ++ first) (state.afterLine first) others := by
  rcases h.ofLines_cons first with ⟨hafter, kept, hkept, hlines⟩ | ⟨hafter, hlines⟩
  · rw [hlines, List.mem_cons] at hline
    rcases hline with heq | hline
    · rw [whole.inj heq]
      exact .inl (hfirst.of_isPrefix hkept)
    · exact .inr (.inl ⟨hafter, hline⟩)
  · rw [hlines] at hline
    exact .inr (.inr ⟨hafter, hline⟩)

lemma LogicalLine.Pending.guarded_of_last {part : List Char} {state : ReadState}
    (h : Pending part state) {last : List Char} (hlast : Guarded .bare false true (part ++ last))
    {line : List Char} (hline : .whole line ∈ ofLines part state [last]) :
    Guarded .bare false true line := by
  rcases h.guarded_or_mem hlast hline with hline | ⟨-, hline⟩ | ⟨-, hline⟩
  · exact hline
  · exact absurd hline (whole_not_mem_nil _ _ _)
  · exact absurd hline (whole_not_mem_nil _ _ _)

/-- Where the scanners are in step, every logical line is guarded, if what has been read of the first
one is guarded with anything that is guarded in its quotes. -/
lemma InStep.guarded {quote : Quote} {part text : List Char} (h : InStep quote (Text.lines text))
    (hpart : LogicalLine.Pending part quote.readState)
    (hguarded : ∀ more, Guarded quote false true more → Guarded .bare false true (part ++ more))
    {line : List Char} (hline : .whole line ∈
      LogicalLine.ofLines part quote.readState (markLines quote (Text.lines text)).1) :
    Guarded .bare false true line := by
  induction text using Text.line_induction generalizing quote part with
  | nil => exact absurd hline (LogicalLine.whole_not_mem_nil _ _ _)
  | last start hne hstart =>
    rw [Text.lines_eq_singleton hstart hne] at h hline
    exact hpart.guarded_of_last (hguarded _ (guarded_markLine h.1)) hline
  | newline start rest hstart ih =>
    rw [Text.lines_append_newline hstart] at h hline
    obtain ⟨hcomment, hstep, hrest⟩ := h
    have hmarked := hguarded _ (guarded_markLine hcomment)
    rw [markLine_newline] at hmarked hstep
    rw [markLines_cons_newline] at hline
    rcases hstep with hnil | hstep
    · rw [hnil] at hline
      exact hpart.guarded_of_last hmarked hline
    rcases hpart.guarded_or_mem hmarked hline with hline | ⟨hended, hline⟩ | ⟨hopen, hline⟩
    · exact hline
    · -- the next line begins a logical line, outside quotes
      rw [hstep, Quote.readState_eq_complete_iff] at hended
      rw [hended] at hrest hline
      exact ih hrest LogicalLine.pending_start (fun _ hmore => hmore) hline
    · -- the next line begins in quotes, and is one more part of the logical line
      have hpending := hpart.next hopen
      rw [hstep] at hopen hline hpending
      have hquote := (Quote.readState_eq_complete_iff _).not.mp hopen
      refine ih hrest hpending (fun more hmore => ?_) hline
      rw [List.append_assoc, ← markLine_newline]
      exact hguarded _ (guarded_markLine_append hquote hmore)

theorem ScannersAgree.ofLine?_eq {content : String} (h : ScannersAgree content) {line : List Char}
    (hline : .whole line ∈ LogicalLine.ofText (Marked.ofText content.toList).text)
    (lookup other : List Char → List Char) :
    Assignment.ofLine? lookup line = Assignment.ofLine? other line := by
  rw [LogicalLine.ofText, Marked.lines_ofText] at hline
  have hguarded := InStep.guarded h LogicalLine.pending_start (fun _ hmore => hmore) hline
  exact hguarded.ofLine?_eq lookup other

/-! ### Files on which the scanners agree -/

namespace Quote

/-- Where the reader of logical lines may stand in quotes, or after a backslash in them. -/
def readStates : Quote → Bool → List ReadState
  | bare, false => [.complete, .blank]
  | bare, true => [.escape]
  | single, false => [.strong]
  | single, true => []
  | double, false => [.weak]
  | double, true => [.weakEscape]

lemma eq_readState_of_mem {quote : Quote} {escaped : Bool} {state : ReadState}
    (h : state ∈ quote.readStates escaped) (hended : state ∈ [ReadState.complete, .weak, .strong]) :
    state = quote.readState := by
  cases quote <;> cases escaped <;> grind [readStates, readState]

/-- The reader follows the first look through a character, but for comments and for backslashes in
single quotes. -/
lemma next?_mark {quote : Quote} {state : ReadState} (hstate : state ∈ quote.readStates false)
    {c : Char} (hcomment : quote = bare → c ≠ '#') (hescape : quote = single → c ≠ '\\') :
    ∃ next, state.next? (quote.mark c) = some next ∧
      next ∈ (quote.next c).readStates (c = '\\' && quote ≠ single) := by
  cases quote with
  | single =>
    obtain rfl : state = .strong := by simpa [readStates] using hstate
    have hmark : single.mark c = c := by simp [mark]
    rw [hmark]
    by_cases hclose : c = '\''
    · exact ⟨.complete, by simp [ReadState.next?, hclose], by simp [hclose, next, readStates]⟩
    · exact ⟨.strong, by simp [ReadState.next?, hclose, hescape rfl],
        by simp [next, hclose, readStates]⟩
  | double =>
    obtain rfl : state = .weak := by simpa [readStates] using hstate
    by_cases hclose : c = '"'
    · rw [hclose]
      exact ⟨.complete, rfl, by decide⟩
    by_cases hbackslash : c = '\\'
    · rw [hbackslash]
      exact ⟨.weakEscape, rfl, by decide⟩
    have hplain : double.mark c ∉ ['\\', '"'] :=
      double.mark_not_mem (by simp [hclose, hbackslash]) (by decide)
    simp only [List.mem_cons, List.not_mem_nil, not_or] at hplain
    exact ⟨.weak, by simp [ReadState.next?, hplain], by simp [next, hclose, hbackslash, readStates]⟩
  | bare =>
    have houtside : state = .complete ∨ state = .blank := by simpa [readStates] using hstate
    by_cases hspecial : c ∈ ['\\', '"', '\'']
    · simp only [List.mem_cons, List.not_mem_nil, or_false] at hspecial
      rcases hspecial with rfl | rfl | rfl <;> rcases houtside with rfl | rfl <;>
        exact ⟨_, rfl, by decide⟩
    · have hquiet : IsQuiet (bare.mark c) := by
        refine bare.mark_not_mem (fun hmem => hspecial ?_) (by decide)
        simpa [hcomment rfl] using hmem
      obtain ⟨next, hnext, hcases⟩ := ReadState.next?_outside hquiet houtside
      simp only [List.mem_cons, List.not_mem_nil, or_false, not_or] at hspecial
      refine ⟨next, hnext, ?_⟩
      simp [Quote.next, hspecial, readStates, hcases]

lemma next_ne_single {quote : Quote} (hquote : quote ≠ single) {c : Char} (hc : c ≠ '\'') :
    quote.next c ≠ single := by
  cases quote with
  | single => contradiction
  | bare => grind [next]
  | double => grind [next]

end Quote

/-- A text in which no backslash stands in single quotes, as it has none of the one or none of the
other. -/
def KeepsApart (quote : Quote) (escaped : Bool) (text : List Char) : Prop :=
  '\\' ∉ text ∧ escaped = false ∨ '\'' ∉ text ∧ quote ≠ .single

namespace KeepsApart

variable {quote : Quote} {escaped : Bool} {c : Char} {text rest : List Char}

lemma of_escaped (h : KeepsApart quote true (c :: rest)) :
    quote ≠ .single ∧ KeepsApart quote false rest := by
  obtain ⟨-, hfalse⟩ | ⟨hsingle, hquote⟩ := h
  · contradiction
  · exact ⟨hquote, .inr ⟨fun hmem => hsingle (List.mem_cons_of_mem c hmem), hquote⟩⟩

lemma of_char (h : KeepsApart quote false (c :: rest)) :
    (quote = .single → c ≠ '\\') ∧
      KeepsApart (quote.next c) (c = '\\' && quote ≠ .single) rest := by
  obtain ⟨hescape, -⟩ | ⟨hsingle, hquote⟩ := h
  · rw [List.mem_cons, not_or] at hescape
    refine ⟨fun _ => Ne.symm hescape.1, .inl ⟨hescape.2, ?_⟩⟩
    simp [Ne.symm hescape.1]
  · rw [List.mem_cons, not_or] at hsingle
    exact ⟨fun heq => absurd heq hquote,
      .inr ⟨hsingle.2, Quote.next_ne_single hquote (Ne.symm hsingle.1)⟩⟩

end KeepsApart

def HasNoComment (quote : Quote) (line : List Char) : Prop :=
  (quote = .bare → line.head? ≠ some '#') ∧ '#' ∉ line.tail

namespace HasNoComment

variable {quote : Quote} {c : Char} {line rest : List Char}

lemma of_not_mem (h : '#' ∉ line) : HasNoComment quote line :=
  ⟨fun _ heq => h (List.mem_of_mem_head? heq), fun hmem => h (List.mem_of_mem_tail hmem)⟩

lemma ne_of_bare (h : HasNoComment quote (c :: rest)) : quote = .bare → c ≠ '#' :=
  fun hquote heq => h.1 hquote (congrArg some heq)

lemma not_mem (h : HasNoComment .bare line) : '#' ∉ line := by
  cases line with
  | nil => exact List.not_mem_nil
  | cons c rest =>
    rw [List.mem_cons, not_or]
    exact ⟨Ne.symm (h.ne_of_bare rfl), h.2⟩

end HasNoComment

lemma scanLine_mark {quote : Quote} {escaped : Bool} (previous : Char) {line : List Char}
    (hcomment : HasNoComment quote line)
    (hapart : KeepsApart quote escaped line) {state : ReadState}
    (hstate : state ∈ quote.readStates escaped) :
    ∃ last after, (scanLine state (markLine quote escaped previous line).1).2 = some last ∧
      last ∈ (markLine quote escaped previous line).2.readStates after := by
  induction quote, escaped, previous, line using markLine_induction generalizing state with
  | nil quote escaped previous => exact ⟨state, escaped, rfl, hstate⟩
  | escaped quote previous c rest ih =>
    obtain ⟨hquote, hrest⟩ := hapart.of_escaped
    have hnext : ∃ next, state.next? c = some next ∧ next ∈ quote.readStates false := by
      cases quote with
      | single => contradiction
      | bare =>
        obtain rfl : state = .escape := by simpa [Quote.readStates] using hstate
        exact ⟨.complete, rfl, by decide⟩
      | double =>
        obtain rfl : state = .weakEscape := by simpa [Quote.readStates] using hstate
        exact ⟨.weak, rfl, by decide⟩
    obtain ⟨next, hnext, hmem⟩ := hnext
    rw [markLine_escaped, scanLine, hnext]
    exact ih (.of_not_mem hcomment.2) hrest hmem
  | comment previous rest hblank => exact absurd rfl (hcomment.ne_of_bare rfl)
  | char quote previous c rest hhash ih =>
    obtain ⟨hescape, hrest⟩ := hapart.of_char
    obtain ⟨next, hnext, hmem⟩ := Quote.next?_mark hstate hcomment.ne_of_bare hescape
    rw [markLine_char _ hhash, scanLine, hnext]
    exact ih (.of_not_mem hcomment.2) hrest hmem

lemma commentSetOff_of_not_mem {quote : Quote} {escaped : Bool} {previous : Char} {setOff : Bool}
    {line : List Char} (h : '#' ∉ line) : commentSetOff quote escaped previous setOff line := by
  induction quote, escaped, previous, line using markLine_induction generalizing setOff with
  | nil => rfl
  | escaped quote previous c rest ih =>
    rw [commentSetOff_cons, if_pos rfl]
    exact ih fun hmem => h (List.mem_cons_of_mem c hmem)
  | comment previous rest hblank => exact absurd List.mem_cons_self h
  | char quote previous c rest hhash ih =>
    rw [commentSetOff_cons, if_neg (by simp), if_neg hhash]
    exact ih fun hmem => h (List.mem_cons_of_mem c hmem)

lemma markLine_ne_single {quote : Quote} {escaped : Bool} {previous : Char} {line : List Char}
    (hquote : quote ≠ .single) (h : '\'' ∉ line) :
    (markLine quote escaped previous line).2 ≠ .single := by
  induction quote, escaped, previous, line using markLine_induction with
  | nil => exact hquote
  | escaped quote previous c rest ih =>
    rw [markLine_escaped]
    exact ih hquote fun hmem => h (List.mem_cons_of_mem c hmem)
  | comment previous rest hblank =>
    rw [markLine_comment _ hblank]
    exact hquote
  | char quote previous c rest hhash ih =>
    rw [List.mem_cons, not_or] at h
    rw [markLine_char _ hhash]
    exact ih (Quote.next_ne_single hquote (Ne.symm h.1)) h.2

lemma commentSetOff_start (quote : Quote) {line : List Char} (h : '#' ∉ line.tail) :
    commentSetOff quote false ' ' true line := by
  cases line with
  | nil => rfl
  | cons c rest =>
    rw [commentSetOff_cons, if_neg (by simp)]
    split
    · rfl
    · exact commentSetOff_of_not_mem h

namespace KeepsApart

variable {quote : Quote}

lemma afterLine_eq {line : List Char} (h : KeepsApart quote false (line ++ ['\n']))
    (htail : '#' ∉ (line ++ ['\n']).tail) :
    quote.readState.afterLine (markLine quote false ' ' (line ++ ['\n'])).1 =
      (markLine quote false ' ' (line ++ ['\n'])).2.readState := by
  by_cases hfirst : quote = .bare ∧ (line ++ ['\n']).head? = some '#'
  · obtain ⟨rfl, hhead⟩ := hfirst
    obtain ⟨rest, hline⟩ := List.head?_eq_some_iff.mp hhead
    rw [hline, markLine_comment rest (by decide)]
    rfl
  · have hcomment : HasNoComment quote (line ++ ['\n']) :=
      ⟨fun hquote heq => hfirst ⟨hquote, heq⟩, htail⟩
    have hstart : quote.readState ∈ quote.readStates false := by
      cases quote <;> decide
    obtain ⟨last, after, hscan, hlast⟩ := scanLine_mark ' ' hcomment h hstart
    have hafter : quote.readState.afterLine (markLine quote false ' ' (line ++ ['\n'])).1 =
        last := by
      rw [ReadState.afterLine, if_neg, hscan, Option.getD_some]
      rintro ⟨hcomplete, hhash⟩
      -- a comment would be one in the line before the first look, too
      obtain rfl := (Quote.readState_eq_complete_iff quote).mp hcomplete
      exact not_mem_markLine .bare false ' ' (by decide) hcomment.not_mem
        ((List.dropWhile_suffix _).subset (List.mem_of_mem_head? hhash))
    have hended := LogicalLine.afterLine_newline quote.readState (markLine quote false ' ' line).1
    rw [← markLine_newline, hafter] at hended
    rw [hafter]
    exact Quote.eq_readState_of_mem hlast hended

lemma inStep {text : List Char} (h : KeepsApart quote false text)
    (hcomments : ∀ line ∈ Text.lines text, '#' ∉ line.tail) : InStep quote (Text.lines text) := by
  induction text using Text.line_induction generalizing quote with
  | nil => trivial
  | last line hne hline =>
    rw [Text.lines_eq_singleton hline hne] at hcomments ⊢
    exact ⟨commentSetOff_start quote (hcomments line List.mem_cons_self), .inl rfl, trivial⟩
  | newline start rest hstart ih =>
    rw [Text.lines_append_newline hstart] at hcomments ⊢
    obtain ⟨htail, hrest⟩ := List.forall_mem_cons.mp hcomments
    have hsplit : start ++ '\n' :: rest = (start ++ ['\n']) ++ rest := by simp
    rw [hsplit] at h
    refine ⟨commentSetOff_start quote htail, .inr (afterLine_eq ?_ htail), ih ?_ hrest⟩
    · exact h.imp (fun h => ⟨fun hmem => h.1 (List.mem_append_left rest hmem), rfl⟩)
        fun h => ⟨fun hmem => h.1 (List.mem_append_left rest hmem), h.2⟩
    · exact h.imp (fun h => ⟨fun hmem => h.1 (List.mem_append_right _ hmem), rfl⟩)
        fun h => ⟨fun hmem => h.1 (List.mem_append_right _ hmem),
          markLine_ne_single h.2 fun hmem => h.1 (List.mem_append_left rest hmem)⟩

end KeepsApart

/-- The scanners agree on a file in which a `#` can only begin a line, if it has no backslashes or
no single quotes. -/
theorem scannersAgree_of_not_mem {content : String}
    (hquotes : '\\' ∉ content.toList ∨ '\'' ∉ content.toList)
    (hcomments : ∀ line ∈ Text.lines content.toList, '#' ∉ line.tail) : ScannersAgree content :=
  KeepsApart.inStep
    (hquotes.imp (fun hescape => ⟨hescape, rfl⟩) fun hsingle => ⟨hsingle, by decide⟩) hcomments

end SiteBoot.EnvFile
