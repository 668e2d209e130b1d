import SiteBoot.Proofs.EnvFile.Source
import SiteBoot.Proofs.EnvFile.Word
/-!
# Lines that export words

A line exports a word and may end in a comment. What the reader of logical lines keeps of a comment
is a part of it that means nothing where a value has ended, so a file of such lines assigns their
words one after the other, as long as the reader comes out of every comment at the end of its line.
-/

namespace SiteBoot.EnvFile

structure Comment where
  blanks : List Char
  text : List Char
  nonempty : blanks ≠ []
  isBlank : ∀ c ∈ blanks, c = ' ' ∨ c = '\t'
  inLine : '\n' ∉ text

def Comment.spelled (comment : Comment) : List Char := comment.blanks ++ '#' :: comment.text

/-- A line that exports a word, with or without a comment. -/
structure ExportLine where
  key : Key
  word : Word
  comment? : Option Comment

namespace ExportLine

/-- What follows the word of a line. -/
def tail (line : ExportLine) : List Char :=
  match line.comment? with
  | some comment => comment.spelled
  | none => []

def spelled (line : ExportLine) : List Char := line.key.opening ++ line.word.spelled ++ line.tail

def marked (line : ExportLine) : List Char := line.key.opening ++ line.word.marked ++ line.tail

def uncommented (line : ExportLine) : ExportLine := { line with comment? := none }

def assignment (line : ExportLine) : Assignment := ⟨line.key.chars, line.word.raw⟩

end ExportLine

/-! ### The first look at a comment -/

namespace Marked

lemma rest_comment {previous : Char} (h : Text.isBlank previous) {text : List Char}
    (htext : '\n' ∉ text) :
    rest .bare false previous ('#' :: text) = ⟨'#' :: text, []⟩ := by
  have hlines : Text.lines ('#' :: text) = ['#' :: text] :=
    Text.lines_eq_singleton (by simpa using htext) (List.cons_ne_nil _ _)
  rw [rest, hlines]
  simp [markLine, markLines, h]

lemma rest_comment_newline {previous : Char} (h : Text.isBlank previous) {text : List Char}
    (htext : '\n' ∉ text) (more : List Char) :
    rest .bare false previous ('#' :: text ++ '\n' :: more) =
      (ofText more).prepend ('#' :: text ++ ['\n']) := by
  have hlines : Text.lines ('#' :: text ++ '\n' :: more) = _ :=
    Text.lines_append_newline (by simpa using htext) more
  rw [rest, hlines]
  simp [markLine, h, ofText, prepend]

end Marked

namespace Comment

variable (comment : Comment)

lemma isPlain_blanks : ∀ c ∈ comment.blanks, IsPlain c := by
  intro c hc
  rcases comment.isBlank c hc with rfl | rfl <;> decide

lemma isBlank_last (previous : Char) : Text.isBlank (comment.blanks.getLastD previous) := by
  rcases List.eq_nil_or_concat comment.blanks with hnil | ⟨start, last, hlast⟩
  · exact absurd hnil comment.nonempty
  · rw [hlast, List.concat_eq_append, List.getLastD_concat]
    rcases comment.isBlank last (by simp [hlast]) with rfl | rfl <;> decide

lemma newline_not_mem_spelled : '\n' ∉ comment.spelled := by
  rw [spelled, List.mem_append, List.mem_cons, not_or, not_or]
  refine ⟨fun hmem => ?_, by decide, comment.inLine⟩
  exact absurd (comment.isPlain_blanks _ hmem) (by decide)

end Comment

namespace ExportLine

variable (line : ExportLine)

lemma newline_not_mem_tail : '\n' ∉ line.tail := by
  rw [tail]
  split
  · rename_i comment _
    exact comment.newline_not_mem_spelled
  · exact List.not_mem_nil

lemma rest_tail (previous : Char) :
    Marked.rest .bare false previous line.tail = ⟨line.tail, []⟩ := by
  rw [tail]
  split
  · rename_i comment _
    rw [Comment.spelled, Marked.rest_plain comment.isPlain_blanks,
      Marked.rest_comment (comment.isBlank_last previous) comment.inLine]
    rfl
  · rfl

lemma rest_tail_newline (previous : Char) (text : List Char) :
    Marked.rest .bare false previous (line.tail ++ '\n' :: text) =
      (Marked.ofText text).prepend (line.tail ++ ['\n']) := by
  rw [tail]
  split
  · rename_i comment _
    rw [Comment.spelled, List.append_assoc, Marked.rest_plain comment.isPlain_blanks,
      Marked.rest_comment_newline (comment.isBlank_last previous) comment.inLine,
      Marked.prepend_prepend, List.append_assoc]
  · rw [List.nil_append, Marked.rest_newline]
    rfl

lemma ofText_spelled (text : List Char) :
    ∃ next, Marked.ofText (line.spelled ++ text) =
      let rest := Marked.rest .bare false next (line.tail ++ text)
      ⟨line.key.opening ++ line.word.marked ++ rest.text, line.key.chars :: rest.exported⟩ := by
  have hsplit : line.spelled ++ text =
      line.key.opening ++ (line.word.spelled ++ (line.tail ++ text)) := by
    simp [spelled]
  have hstart : Marked.ofText (line.spelled ++ text) =
      Marked.startingIn .bare (line.spelled ++ text) := rfl
  obtain ⟨next, hword⟩ := Marked.rest_word line.word (line.key.opening.getLastD ' ')
    (line.tail ++ text)
  refine ⟨next, ?_⟩
  rw [hstart, Marked.startingIn_bare, hsplit, line.key.exportsFirst_opening,
    Marked.rest_plain line.key.isPlain_opening, hword]
  simp [Marked.prepend]

lemma ofText_spelled_newline (text : List Char) :
    Marked.ofText (line.spelled ++ '\n' :: text) =
      ⟨line.marked ++ '\n' :: (Marked.ofText text).text,
        line.key.chars :: (Marked.ofText text).exported⟩ := by
  obtain ⟨next, hline⟩ := line.ofText_spelled ('\n' :: text)
  rw [hline, line.rest_tail_newline]
  simp [Marked.prepend, marked]

lemma ofText_spelled_end : Marked.ofText line.spelled = ⟨line.marked, [line.key.chars]⟩ := by
  obtain ⟨next, hline⟩ := line.ofText_spelled []
  rw [List.append_nil, List.append_nil, line.rest_tail] at hline
  exact hline

end ExportLine

/-! ### What the reader keeps of a comment -/

/-- What the reader of logical lines keeps of the rest of a line after a value; none if it does
not take the line to end there. -/
def restKept? (line : List Char) : Option (List Char) :=
  match scanLine .complete line with
  | (kept, none) => some kept
  | (_, some .complete) => some (chomp line)
  | _ => none

lemma chomp_append {c : Char} (h : Text.isBlank c = false) (before after : List Char) :
    chomp (before ++ c :: after) = before ++ c :: chomp after := by
  have hnewline : c ≠ '\n' := by
    rintro rfl
    exact absurd h (by decide)
  have hreturn : c ≠ '\r' := by
    rintro rfl
    exact absurd h (by decide)
  obtain ⟨reversed, rfl⟩ : ∃ reversed, after = reversed.reverse := ⟨after.reverse, by simp⟩
  have hreverse : (before ++ c :: reversed.reverse).reverse = reversed ++ c :: before.reverse := by
    simp
  rw [chomp, chomp, hreverse, List.reverse_reverse]
  cases reversed with
  | nil => simp [hnewline]
  | cons d rest =>
    by_cases hd : d = '\n'
    · rw [hd]
      cases rest with
      | nil => simp [hreturn]
      | cons e rest =>
        by_cases he : e = '\r'
        · simp [he]
        · simp [he]
    · simp [hd]

namespace LogicalLine

lemma ofLines_last {part : List Char} (hpart : IsBegun part) {state : ReadState} {c : Char}
    (step : state.next? c = some .complete) (hc : Text.isBlank c = false) {line kept : List Char}
    (hkept : restKept? line = some kept) (others : List (List Char)) :
    ofLines part state ((c :: line) :: others) =
      .whole (part ++ c :: kept) :: ofLines [] .complete others := by
  have hscan : scanLine state (c :: line) =
      (c :: (scanLine .complete line).1, (scanLine .complete line).2) := by
    rw [scanLine, step]
  rw [ofLines, if_neg (hpart.not_comment _), hscan]
  rw [restKept?] at hkept
  rcases hline : scanLine .complete line with ⟨before, last | last⟩ <;> rw [hline] at hkept
  · obtain rfl := Option.some.inj hkept
    rfl
  · cases last with
    | complete =>
      obtain rfl := Option.some.inj hkept
      dsimp only
      rw [chomp_append hc]
    | _ => contradiction

lemma leads_key (key : Key) : Leads .blank (key.chars ++ ['=']) .complete := by
  have hchars : ∀ chars : List Char, (∀ c ∈ chars, isKeyChar c) → ∀ state : ReadState,
      state = .blank ∨ state = .complete → Leads state (chars ++ ['=']) .complete := by
    intro chars h
    induction chars with
    | nil =>
      rintro state (rfl | rfl)
      · exact .cons rfl (by decide) (.nil _)
      · exact .cons rfl (by decide) (.nil _)
    | cons c chars ih =>
      obtain ⟨hc, hrest⟩ := List.forall_mem_cons.mp h
      have hplain := isPlain_of_isKeyChar hc
      have hblank := not_isBlank_of_isKeyChar hc
      simp only [IsPlain, List.mem_cons, List.not_mem_nil, not_or] at hplain
      obtain ⟨hnewline, hescape, hdouble, hsingle, -, hcomment, -⟩ := hplain
      intro state hstate
      have hstep : state.next? c = some .complete := by
        rcases hstate with rfl | rfl
        · simp [ReadState.next?, hescape, hdouble, hsingle, hcomment]
        · simp [ReadState.next?, hescape, hdouble, hsingle, hblank]
      exact .cons hstep (fun heq => absurd heq hnewline) (ih hrest .complete (.inr rfl))
  exact hchars key.chars key.isKeyChar_of_mem .blank (.inl rfl)

end LogicalLine

/-! ### The logical line of a line -/

namespace ExportLine

variable (line : ExportLine)

/-- The line up to the end of its word. -/
def body (line : ExportLine) : List Char := line.key.opening ++ line.word.marked

lemma marked_eq : line.marked = line.body ++ line.tail := rfl

lemma leads_body :
    ∃ middle c, line.body = 'e' :: (middle ++ [c]) ∧ Text.isBlank c = false ∧
      LogicalLine.Leads .complete (middle ++ [c]) .complete := by
  let word := ['x', 'p', 'o', 'r', 't', ' ']
  have hends : EndsVisibly (word ++ line.key.chars ++ ['=']) := ⟨_, '=', rfl, by decide⟩
  obtain ⟨middle, c, heq, hc⟩ := hends.word line.word
  have hword : LogicalLine.Leads .complete word .blank :=
    .cons rfl (by decide) <| .cons rfl (by decide) <| .cons rfl (by decide) <|
      .cons rfl (by decide) <| .cons rfl (by decide) <| .cons rfl (by decide) (.nil _)
  have hleads := (hword.append (LogicalLine.leads_key line.key)).append
    (LogicalLine.leads_word line.word)
  rw [← List.append_assoc word, heq] at hleads
  exact ⟨middle, c, congrArg ('e' :: ·) heq, hc, hleads⟩

lemma endsVisibly_body : EndsVisibly line.body := by
  obtain ⟨middle, c, hbody, hc, -⟩ := line.leads_body
  exact ⟨'e' :: middle, c, hbody, hc⟩

lemma rest_body :
    ∃ part state c, line.body = part ++ [c] ∧ LogicalLine.IsBegun part ∧
      state.next? c = some ReadState.complete ∧ Text.isBlank c = false ∧
      ∀ text, LogicalLine.ofText (line.body ++ text) =
        LogicalLine.rest part state (c :: text) := by
  obtain ⟨middle, c, hbody, hc, hleads⟩ := line.leads_body
  obtain ⟨state, hmiddle, hlast⟩ := hleads.split
  have hstep : state.next? c = some .complete := by
    cases hlast with
    | cons step inLine rest =>
      cases rest
      exact step
  have hbegun : LogicalLine.IsBegun ['e'] := ⟨'e', rfl, by decide⟩
  refine ⟨'e' :: middle, state, c, hbody, hbegun.append middle, hstep, hc, fun text => ?_⟩
  have hfirst : LogicalLine.rest [] .complete (['e'] ++ (middle ++ c :: text)) =
      LogicalLine.rest ['e'] .complete (middle ++ c :: text) :=
    LogicalLine.rest_append rfl (by decide)
      (List.append_ne_nil_of_right_ne_nil _ (List.cons_ne_nil c text))
  have hsplit : line.body ++ text = ['e'] ++ (middle ++ c :: text) := by
    rw [hbody]
    simp
  rw [hsplit]
  exact hfirst.trans (hmiddle.rest_eq hbegun (List.cons_ne_nil c text))

lemma newline_not_mem_cons_tail {c : Char} (h : Text.isBlank c = false) :
    '\n' ∉ c :: line.tail := by
  rw [List.mem_cons, not_or]
  refine ⟨?_, line.newline_not_mem_tail⟩
  rintro rfl
  exact absurd h (by decide)

lemma ofText_marked_newline {kept : List Char}
    (hkept : restKept? (line.tail ++ ['\n']) = some kept) (text : List Char) :
    LogicalLine.ofText (line.marked ++ '\n' :: text) =
      .whole (line.body ++ kept) :: LogicalLine.ofText text := by
  obtain ⟨part, state, c, hbody, hpart, hstep, hc, hrest⟩ := line.rest_body
  have hlines : Text.lines (c :: (line.tail ++ '\n' :: text)) =
      (c :: (line.tail ++ ['\n'])) :: Text.lines text :=
    Text.lines_append_newline (line.newline_not_mem_cons_tail hc) text
  rw [line.marked_eq, List.append_assoc, hrest, LogicalLine.rest, hlines,
    LogicalLine.ofLines_last hpart hstep hc hkept, hbody, List.append_assoc]
  rfl

lemma ofText_marked_end {kept : List Char} (hkept : restKept? line.tail = some kept) :
    LogicalLine.ofText line.marked = [.whole (line.body ++ kept)] := by
  obtain ⟨part, state, c, hbody, hpart, hstep, hc, hrest⟩ := line.rest_body
  rw [line.marked_eq, hrest, LogicalLine.rest,
    Text.lines_eq_singleton (line.newline_not_mem_cons_tail hc) (List.cons_ne_nil c line.tail),
    LogicalLine.ofLines_last hpart hstep hc hkept, hbody, List.append_assoc]
  rfl

end ExportLine

/-! ### What is kept of a comment means nothing -/

lemma scanLine_stops {state : ReadState} {line kept : List Char}
    (h : scanLine state line = (kept, none)) : kept ++ ['#'] <+: line := by
  induction line generalizing state kept with
  | nil => simp [scanLine] at h
  | cons c line ih =>
    rw [scanLine] at h
    cases hnext : state.next? c with
    | none =>
      rw [hnext] at h
      obtain rfl : [] = kept := congrArg Prod.fst h
      have hc : c = '#' := by
        cases state <;> grind [ReadState.next?]
      rw [hc]
      exact ⟨line, rfl⟩
    | some next =>
      rw [hnext] at h
      obtain rfl : c :: (scanLine next line).1 = kept := congrArg Prod.fst h
      have hlast : (scanLine next line).2 = none := congrArg Prod.snd h
      have hrest : scanLine next line = ((scanLine next line).1, none) := Prod.ext rfl hlast
      exact List.prefix_cons_inj c |>.mpr (ih hrest)

lemma chomp_newline (text : List Char) : chomp (text ++ ['\n']) <+: text := by
  obtain ⟨reversed, rfl⟩ : ∃ reversed, text = reversed.reverse := ⟨text.reverse, by simp⟩
  rw [chomp, List.reverse_append, List.reverse_reverse]
  cases reversed with
  | nil => simp
  | cons c rest =>
    by_cases hc : c = '\r'
    · simp [hc]
    · simp [hc]

lemma chomp_of_not_mem {text : List Char} (h : '\n' ∉ text) : chomp text = text := by
  obtain ⟨reversed, rfl⟩ : ∃ reversed, text = reversed.reverse := ⟨text.reverse, by simp⟩
  rw [chomp, List.reverse_reverse]
  cases reversed with
  | nil => rfl
  | cons c rest =>
    have hc : c ≠ '\n' := by
      rintro rfl
      simp at h
    simp [hc]

lemma restKept?_cases {line kept : List Char} (h : restKept? line = some kept) :
    kept ++ ['#'] <+: line ∨ kept = chomp line := by
  rw [restKept?] at h
  rcases hline : scanLine .complete line with ⟨before, last | last⟩ <;> rw [hline] at h
  · obtain rfl := Option.some.inj h
    exact .inl (scanLine_stops hline)
  · cases last with
    | complete => exact .inr (Option.some.inj h).symm
    | _ => contradiction

lemma restKept?_newline {text kept : List Char} (h : restKept? (text ++ ['\n']) = some kept) :
    kept <+: text := by
  rcases restKept?_cases h with hcomment | rfl
  · rcases List.prefix_concat_iff.mp hcomment with heq | hprefix
    · have hlast := (List.append_inj' heq rfl).2
      contradiction
    · exact (List.prefix_append kept ['#']).trans hprefix
  · exact chomp_newline text

lemma restKept?_end {text kept : List Char} (hnewline : '\n' ∉ text)
    (h : restKept? text = some kept) : kept <+: text := by
  rcases restKept?_cases h with hcomment | rfl
  · exact (List.prefix_append kept ['#']).trans hcomment
  · rw [chomp_of_not_mem hnewline]

namespace ExportLine

variable {line : ExportLine}

lemma prefix_tail {kept : List Char} (h : kept <+: line.tail) :
    (∀ c ∈ kept, c = ' ' ∨ c = '\t') ∨
      ∃ first blanks text, kept = first :: blanks ++ '#' :: text ∧
        ∀ c ∈ first :: blanks, c = ' ' ∨ c = '\t' := by
  rw [tail] at h
  split at h
  · rename_i comment _
    rw [Comment.spelled] at h
    rcases List.prefix_or_prefix_of_prefix h (List.prefix_append comment.blanks _) with
      hkept | ⟨rest, rfl⟩
    · exact .inl fun c hc => comment.isBlank c (hkept.subset hc)
    · rw [List.prefix_append_right_inj] at h
      cases rest with
      | nil =>
        refine .inl fun c hc => comment.isBlank c ?_
        rw [List.append_nil] at hc
        exact hc
      | cons c rest =>
        obtain ⟨rfl, -⟩ := List.cons_prefix_cons.mp h
        obtain ⟨first, blanks, hblanks⟩ := List.exists_cons_of_ne_nil comment.nonempty
        refine .inr ⟨first, blanks, rest, by rw [hblanks], ?_⟩
        rw [← hblanks]
        exact comment.isBlank
  · rw [List.prefix_nil.mp h]
    exact .inl fun c hc => absurd hc List.not_mem_nil

end ExportLine

lemma readValue?_ended (lookup : List Char → List Char) {blanks : List Char}
    (h : ∀ c ∈ blanks, c = ' ' ∨ c = '\t') (rest : List Char) :
    readValue? lookup .ended (blanks ++ rest) = readValue? lookup .ended rest := by
  induction blanks with
  | nil => rfl
  | cons c blanks ih =>
    obtain ⟨hc, hblanks⟩ := List.forall_mem_cons.mp h
    rw [List.cons_append, ← ih hblanks]
    rcases hc with rfl | rfl <;> rfl

lemma trimLeft_blanks {blanks : List Char} (h : ∀ c ∈ blanks, c = ' ' ∨ c = '\t')
    (rest : List Char) : Text.trimLeft (blanks ++ rest) = Text.trimLeft rest := by
  rw [Text.trimLeft, List.dropWhile_append_of_pos]
  · rfl
  · intro c hc
    rcases h c hc with rfl | rfl <;> decide

namespace ExportLine

variable (line : ExportLine)

lemma readValue?_tail (lookup : List Char → List Char) {kept : List Char}
    (h : kept <+: line.tail) : readValue? lookup (.plain false) kept = some [] := by
  have hfirst : ∀ c rest, c = ' ' ∨ c = '\t' →
      readValue? lookup (.plain false) (c :: rest) = readValue? lookup .ended rest := by
    rintro c rest (rfl | rfl) <;> rfl
  rcases prefix_tail h with hblanks | ⟨first, blanks, text, rfl, hblanks⟩
  · cases kept with
    | nil => rfl
    | cons first blanks =>
      obtain ⟨hc, hrest⟩ := List.forall_mem_cons.mp hblanks
      have hended := readValue?_ended lookup hrest []
      rw [List.append_nil] at hended
      rw [hfirst first blanks hc, hended]
      rfl
  · obtain ⟨hc, hrest⟩ := List.forall_mem_cons.mp hblanks
    rw [List.cons_append, hfirst first _ hc, readValue?_ended lookup hrest]
    rfl

lemma trimLeft_tail {kept : List Char} (h : kept <+: line.tail) :
    (Text.trimLeft kept).isEmpty || (Text.trimLeft kept).head? = some '#' := by
  rcases prefix_tail h with hblanks | ⟨first, blanks, text, rfl, hblanks⟩
  · have htrim := trimLeft_blanks hblanks []
    rw [List.append_nil] at htrim
    rw [htrim]
    rfl
  · rw [trimLeft_blanks hblanks]
    rfl

lemma ofLine?_body (lookup : List Char → List Char) {kept : List Char} (h : kept <+: line.tail) :
    Assignment.ofLine? lookup (line.body ++ kept) = .ok (some line.assignment) := by
  obtain ⟨rest, hrest, htrim⟩ := line.endsVisibly_body.trimRight kept
  have htail : rest <+: line.tail := hrest.trans h
  have hleft : Text.trimLeft (line.body ++ rest) = line.body ++ rest := rfl
  have hbegun : ((line.body ++ rest).isEmpty || (line.body ++ rest).head? = some '#') = false := rfl
  have htarget : takeTarget? (line.body ++ rest) =
      some (line.key.chars, line.word.marked ++ rest) := by
    rw [body, List.append_assoc]
    exact line.key.takeTarget?_opening _
  have hvalue : readValue? lookup (.plain false) (line.word.marked ++ rest) =
      some line.word.raw := by
    rw [readValue?_word, line.readValue?_tail lookup htail, Option.map_some, List.append_nil]
  rw [Assignment.ofLine?, htrim, hleft]
  simp only [hbegun, Bool.false_eq_true, if_false, htarget]
  cases hword : line.word.marked with
  | nil =>
    -- an empty word leaves the comment in the place of the value
    have hraw : line.word.raw = [] := by
      have hempty := readValue?_word line.word lookup []
      rw [hword] at hempty
      simpa [readValue?] using hempty
    rw [List.nil_append, if_pos (line.trimLeft_tail htail), assignment, hraw]
  | cons c chars =>
    obtain ⟨hblank, hcomment⟩ := line.word.head?_marked c (by rw [hword]; rfl)
    rw [hword] at hvalue
    have hspelled : Text.trimLeft (c :: chars ++ rest) = c :: chars ++ rest := by
      rw [Text.trimLeft, List.cons_append, List.dropWhile_cons_of_neg (by simp [hblank])]
    rw [hspelled, if_neg (by simp [hcomment]), hvalue]
    rfl

end ExportLine

/-! ### Files -/

/-- The reader comes out of every comment at the end of its line. -/
def CommentsEnd (ended : Bool) : List ExportLine → Prop
  | [] => True
  | [line] => (restKept? (if ended then line.tail ++ ['\n'] else line.tail)).isSome
  | line :: rest => (restKept? (line.tail ++ ['\n'])).isSome ∧ CommentsEnd ended rest

def exportFile (ended : Bool) (lines : List ExportLine) : List Char :=
  joinLines ended (lines.map ExportLine.spelled)

lemma ofText_exportFile (ended : Bool) (lines : List ExportLine) :
    Marked.ofText (exportFile ended lines) =
      ⟨joinLines ended (lines.map ExportLine.marked), lines.map fun line => line.key.chars⟩ :=
  Marked.ofText_joinLines ExportLine.ofText_spelled_newline ExportLine.ofText_spelled_end
    ended lines

lemma ofLines_marked (process? : List Char → Option (List Char))
    (earlier : List (List Char × List Char)) {ended : Bool} {lines : List ExportLine}
    (h : CommentsEnd ended lines) :
    Item.ofLines process? earlier
        (LogicalLine.ofText (joinLines ended (lines.map ExportLine.marked))) =
      lines.map fun line => .assignment line.assignment := by
  have hitem : ∀ (line : ExportLine) kept, kept <+: line.tail →
      ∀ earlier rest, Item.ofLines process? earlier (.whole (line.body ++ kept) :: rest) =
        .assignment line.assignment ::
          Item.ofLines process? ((line.key.chars, line.word.raw) :: earlier) rest := by
    intro line kept hkept earlier rest
    rw [Item.ofLines]
    simp only [line.ofLine?_body _ hkept]
    rfl
  induction lines generalizing earlier with
  | nil => rfl
  | cons line lines ih =>
    rw [List.map_cons, List.map_cons]
    cases lines with
    | nil =>
      rw [CommentsEnd] at h
      cases ended with
      | false =>
        obtain ⟨kept, hkept⟩ := Option.isSome_iff_exists.mp h
        have hline := line.ofText_marked_end hkept
        rw [List.map_nil, joinLines]
        simp only [Bool.false_eq_true, if_false]
        rw [hline, hitem line kept (restKept?_end line.newline_not_mem_tail hkept)]
        rfl
      | true =>
        obtain ⟨kept, hkept⟩ := Option.isSome_iff_exists.mp h
        have hline := line.ofText_marked_newline hkept []
        rw [List.map_nil, joinLines]
        simp only [if_true]
        rw [hline, hitem line kept (restKept?_newline hkept)]
        rfl
    | cons next rest =>
      obtain ⟨hfirst, hrest⟩ := h
      obtain ⟨kept, hkept⟩ := Option.isSome_iff_exists.mp hfirst
      rw [List.map_cons, joinLines, ← List.map_cons, line.ofText_marked_newline hkept,
        hitem line kept (restKept?_newline hkept), ih _ hrest]

/-- A file of lines assigns their words one after the other. -/
lemma overlayText_exportFile (env : Environment) (process : ProcessEnvironment) {ended : Bool}
    {lines : List ExportLine} (h : CommentsEnd ended lines) :
    let overlaid := overlayText process env (String.ofList (exportFile ended lines))
    overlaid.1.env = source process env (lines.map ExportLine.assignment) ∧
      overlaid.1.count = lines.length ∧ overlaid.2 = [] := by
  have hmarked := ofText_exportFile ended lines
  have hitems : (Marked.ofText (String.ofList (exportFile ended lines)).toList).items process =
      (lines.map ExportLine.assignment).map .assignment := by
    rw [String.toList_ofList, hmarked, Marked.items, Item.ofText, ofLines_marked _ _ h,
      List.map_map]
    rfl
  have hexported : ∀ assignment ∈ lines.map ExportLine.assignment, assignment.key ∈
      (Marked.ofText (String.ofList (exportFile ended lines)).toList).exported := by
    rw [String.toList_ofList, hmarked, List.forall_mem_map]
    exact fun line hline => List.mem_map_of_mem hline
  have hoverlaid := overlayText_of_exported env process hitems hexported
  rw [List.length_map] at hoverlaid
  exact hoverlaid

end SiteBoot.EnvFile
