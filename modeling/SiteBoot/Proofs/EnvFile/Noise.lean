import SiteBoot.Proofs.EnvFile.FinalNewline
import SiteBoot.Proofs.Text.Runs
/-!
# Shell noise

A profile holds more than assignments: blank lines, comments and commands. Where no quotes are open
and no logical line has begun, such a line leaves no trace. `IsInert` says of one line what that
takes of each scanner; from it the lines that follow are read as if the line were not there.
-/

namespace SiteBoot.Text

/-- A text after which a new line begins. -/
def IsEnded (text : List Char) : Prop := text = [] ∨ text.getLast? = some '\n'

lemma IsEnded.of_append {line more : List Char} (h : IsEnded (line ++ '\n' :: more)) :
    IsEnded more := by
  by_cases hnil : more = []
  · exact .inl hnil
  · obtain hempty | hlast := h
    · simp at hempty
    · rw [List.getLast?_append_of_ne_nil _ (List.cons_ne_nil _ _),
        List.getLast?_cons_of_ne_nil hnil] at hlast
      exact .inr hlast

lemma lines_append_of_ended {text : List Char} (h : IsEnded text) (rest : List Char) :
    lines (text ++ rest) = lines text ++ lines rest := by
  induction text using line_induction with
  | nil => rfl
  | last line hne hline =>
    obtain hnil | hlast := h
    · contradiction
    · exact absurd (List.mem_of_getLast? hlast) hline
  | newline line more hline ih =>
    rw [List.append_assoc, List.cons_append, lines_append_newline hline,
      lines_append_newline hline, ih h.of_append]
    rfl

lemma exists_newline_of_mem_lines {text : List Char} (h : IsEnded text) :
    ∀ line ∈ lines text, ∃ start, line = start ++ ['\n'] := by
  induction text using line_induction with
  | nil => exact fun line hmem => absurd hmem List.not_mem_nil
  | last line hne hline =>
    obtain hnil | hlast := h
    · contradiction
    · exact absurd (List.mem_of_getLast? hlast) hline
  | newline line more hline ih =>
    rw [lines_append_newline hline, List.forall_mem_cons]
    exact ⟨⟨line, rfl⟩, ih h.of_append⟩

end SiteBoot.Text

namespace SiteBoot.EnvFile

/-- The quotes that the first look is in at the end of lines. -/
def quotesAfter (quote : Quote) (lines : List (List Char)) : Quote :=
  lines.foldl (fun quote line => (markLine quote false ' ' line).2) quote

def quotesEnd (content : String) : Quote := quotesAfter .bare (Text.lines content.toList)

/-- A text after which the scanners begin anew: with a line, outside quotes, and with a logical
line. -/
structure BeginsAnew (content : String) : Prop where
  ended : Text.IsEnded content.toList
  quotes : quotesEnd content = .bare
  reader : readerEnd content = .complete

/-- A line, without its newline, that a shell may do something with but that assigns nothing. -/
inductive IsNoise (line : List Char) : Prop
  | blank (blank : ∀ c ∈ line, Text.isBlank c)
  | comment (begins : (Text.trimLeft line).head? = some '#')
  /-- A line without quotes and escapes that assigns nothing as a file of its own. -/
  | command (quiet : ∀ c ∈ line, c ∉ ['\\', '"', '\''])
      (refused : assignments ((Marked.ofText (line ++ ['\n'])).items ⟨[]⟩) = [])
      (word : (Text.words line).head? ≠ some ['e', 'x', 'p', 'o', 'r', 't'])

/-- A line that, up to its newline, leaves the scanners as they are and assigns nothing. -/
structure IsInert (line : List Char) : Prop where
  newline : '\n' ∉ line
  quotes : (markLine .bare false ' ' (line ++ ['\n'])).2 = .bare
  exports : exportedName? (line ++ ['\n']) = none
  reader : ReadState.complete.afterLine ((markLine .bare false ' ' line).1 ++ ['\n']) = .complete
  refused : assignments ((Marked.ofText (line ++ ['\n'])).items ⟨[]⟩) = []

/-! ### Two scanners -/

lemma markLines_append (quote : Quote) (first rest : List (List Char)) :
    markLines quote (first ++ rest) =
      ((markLines quote first).1 ++ (markLines (quotesAfter quote first) rest).1,
        (markLines quote first).2 ++ (markLines (quotesAfter quote first) rest).2) := by
  induction first generalizing quote with
  | nil => rfl
  | cons line first ih =>
    simp only [List.cons_append, markLines, ih, List.append_assoc]
    rfl

lemma exists_newline_of_mem_markLines {lines : List (List Char)}
    (h : ∀ line ∈ lines, ∃ start, line = start ++ ['\n']) (quote : Quote) :
    ∀ line ∈ (markLines quote lines).1, ∃ start, line = start ++ ['\n'] := by
  induction lines generalizing quote with
  | nil => exact fun line hmem => absurd hmem List.not_mem_nil
  | cons line rest ih =>
    obtain ⟨⟨start, rfl⟩, hrest⟩ := List.forall_mem_cons.mp h
    rw [markLines_cons_newline, List.forall_mem_cons]
    exact ⟨⟨_, rfl⟩, ih hrest _⟩

lemma LogicalLine.Pending.ofLines_append {part : List Char} {state : ReadState}
    (h : Pending part state) {first : List (List Char)}
    (hnewlines : ∀ line ∈ first, ∃ start, line = start ++ ['\n'])
    (hend : first.foldl ReadState.afterLine state = .complete) :
    ∃ read, ∀ rest, ofLines part state (first ++ rest) = read ++ ofLines [] .complete rest := by
  induction first generalizing part state with
  | nil =>
    obtain rfl : state = .complete := hend
    obtain ⟨-, rfl⟩ | ⟨hne, -⟩ := h
    · exact ⟨[], fun _ => rfl⟩
    · contradiction
  | cons line first ih =>
    obtain ⟨⟨start, rfl⟩, hfirst⟩ := List.forall_mem_cons.mp hnewlines
    rw [List.foldl_cons] at hend
    obtain ⟨hafter, kept, -, hkept⟩ | ⟨hafter, hparts⟩ := h.ofLines_cons (start ++ ['\n'])
    · rw [hafter] at hend
      obtain ⟨read, hread⟩ := ih pending_start hfirst hend
      exact ⟨.whole kept :: read, fun rest => by rw [List.cons_append, hkept, hread]; rfl⟩
    · obtain ⟨read, hread⟩ := ih (h.next hafter) hfirst hend
      exact ⟨read, fun rest => by rw [List.cons_append, hparts, hread]⟩

lemma isSome_readValue? (lookup other : List Char → List Char) (state : ValueState)
    (text : List Char) :
    (readValue? lookup state text).isSome = (readValue? other state text).isSome := by
  induction text generalizing state with
  | nil =>
    cases state with
    | name quoted read => cases quoted <;> rfl
    | _ => rfl
  | cons c rest ih =>
    cases state with
    | escape quoted =>
      cases hmeaning : escaped? c with
      | none => simp [readValue?, hmeaning]
      | some meaning =>
        have hmap : ∀ names, readValue? names (.escape quoted) (c :: rest) =
            (readValue? names (.plain quoted) rest).map (meaning :: ·) := by
          intro names
          rw [readValue?, hmeaning]
          exact (Option.map_eq_bind ..).symm
        rw [hmap, hmap, Option.isSome_map, Option.isSome_map, ih]
    | ended =>
      rw [readValue?, readValue?]
      split_ifs
      · exact ih .ended
      · rfl
      · rfl
    | _ =>
      simp only [readValue?]
      split_ifs <;> simp only [Option.isSome_map, ih]

lemma Assignment.ofLine?_refused {lookup : List Char → List Char} {line : List Char}
    (h : (ofLine? lookup line).toOption.join = none) (other : List Char → List Char) :
    (ofLine? other line).toOption.join = none := by
  rw [ofLine?] at h ⊢
  dsimp only at h ⊢
  split
  · rfl
  · rename_i hbody
    rw [if_neg hbody] at h
    cases htarget : takeTarget? (Text.trimLeft (Text.trimRight line)) with
    | none => rfl
    | some target =>
      obtain ⟨key, rest⟩ := target
      rw [htarget] at h
      dsimp only at h ⊢
      split
      · rename_i hempty
        rw [if_pos hempty] at h
        contradiction
      · rename_i hspelled
        rw [if_neg hspelled] at h
        have hsome := isSome_readValue? lookup other (.plain false) (Text.trimLeft rest)
        cases hvalue : readValue? lookup (.plain false) (Text.trimLeft rest) with
        | some raw =>
          rw [hvalue] at h
          contradiction
        | none =>
          have hother : readValue? other (.plain false) (Text.trimLeft rest) = none := by
            rw [← Option.not_isSome_iff_eq_none, ← hsome, hvalue]
            exact Bool.false_ne_true
          rw [hother]
          rfl

/-! ### A line that is left out -/

lemma assignments_refused (process? : List Char → Option (List Char))
    (earlier : List (List Char × List Char)) {text : List Char}
    (h : ∀ lookup, (Assignment.ofLine? lookup text).toOption.join = none)
    (rest : List LogicalLine) :
    assignments (Item.ofLines process? earlier (.whole text :: rest)) =
      assignments (Item.ofLines process? earlier rest) := by
  rw [assignments_cons_whole, h]

section Inert

variable {line : List Char} (h : IsInert line)
include h

lemma IsInert.exists_whole : ∃ kept,
    (∀ rest, LogicalLine.ofLines [] .complete
      (((markLine .bare false ' ' line).1 ++ ['\n']) :: rest) =
        .whole kept :: LogicalLine.ofLines [] .complete rest) ∧
    ∀ lookup, (Assignment.ofLine? lookup kept).toOption.join = none := by
  obtain ⟨-, kept, -, hkept⟩ | ⟨hafter, -⟩ :=
    LogicalLine.pending_start.ofLines_cons ((markLine .bare false ' ' line).1 ++ ['\n'])
  · have hlines : LogicalLine.ofText (Marked.ofText (line ++ ['\n'])).text = [.whole kept] := by
      rw [LogicalLine.ofText, Marked.lines_ofText, Text.lines_append_newline h.newline,
        markLines_cons_newline]
      exact hkept []
    have hrefused := h.refused
    rw [Marked.items, Item.ofText, hlines, assignments_whole, Option.toList_eq_nil_iff] at hrefused
    exact ⟨kept, hkept, Assignment.ofLine?_refused hrefused⟩
  · exact absurd h.reader hafter

/-- An inert line between a text that ends with a logical line and any other is passed over. -/
lemma IsInert.assignments_eq (process : ProcessEnvironment) {pre : String} (hpre : BeginsAnew pre)
    (post : List Char) :
    assignments ((Marked.ofText (pre.toList ++ (line ++ '\n' :: post))).items process) =
        assignments ((Marked.ofText (pre.toList ++ post)).items process) ∧
      (Marked.ofText (pre.toList ++ (line ++ '\n' :: post))).exported =
        (Marked.ofText (pre.toList ++ post)).exported := by
  have hlines : ∀ rest, markLines .bare (Text.lines (pre.toList ++ rest)) =
      ((markLines .bare (Text.lines pre.toList)).1 ++ (markLines .bare (Text.lines rest)).1,
        (markLines .bare (Text.lines pre.toList)).2 ++ (markLines .bare (Text.lines rest)).2) := by
    intro rest
    have hbare : quotesAfter .bare (Text.lines pre.toList) = .bare := hpre.quotes
    rw [Text.lines_append_of_ended hpre.ended, markLines_append, hbare]
  have hline : markLines .bare (Text.lines (line ++ '\n' :: post)) =
      (((markLine .bare false ' ' line).1 ++ ['\n']) :: (markLines .bare (Text.lines post)).1,
        (markLines .bare (Text.lines post)).2) := by
    rw [Text.lines_append_newline h.newline]
    simp only [markLines, markLine_newline, h.quotes, h.exports]
    rfl
  have hexported : ∀ text, (Marked.ofText text).exported = (markLines .bare (Text.lines text)).2 :=
    fun _ => rfl
  have hlogical : ∀ text, LogicalLine.ofText (Marked.ofText text).text =
      LogicalLine.ofLines [] .complete (markLines .bare (Text.lines text)).1 := by
    intro text
    rw [LogicalLine.ofText, Marked.lines_ofText]
  constructor
  · obtain ⟨read, hread⟩ := LogicalLine.pending_start.ofLines_append
      (exists_newline_of_mem_markLines (Text.exists_newline_of_mem_lines hpre.ended) .bare)
      (by rw [← Marked.lines_ofText]; exact hpre.reader)
    obtain ⟨kept, hkept, hrefused⟩ := h.exists_whole
    obtain ⟨since, hitems⟩ := Item.ofLines_append
      (fun name => (process.text? (String.ofList name)).map String.toList) [] read
    rw [Marked.items, Marked.items, Item.ofText, Item.ofText, hlogical, hlogical, hlines, hlines,
      hline, hread, hread, hkept, hitems, hitems, assignments, assignments, List.filterMap_append,
      List.filterMap_append]
    exact congrArg _ (assignments_refused _ _ hrefused _)
  · rw [hexported, hexported, hlines, hlines, hline]

end Inert

theorem overlayText_inert (base : Environment) (process : ProcessEnvironment) {pre line : String}
    (hpre : BeginsAnew pre) (h : IsInert line.toList) (post : String) :
    (overlayText process base (pre ++ line ++ "\n" ++ post)).1.env =
      (overlayText process base (pre ++ post)).1.env := by
  have hnoisy : (pre ++ line ++ "\n" ++ post).toList =
      pre.toList ++ (line.toList ++ '\n' :: post.toList) := by
    simp
  have hplain : (pre ++ post).toList = pre.toList ++ post.toList := String.toList_append
  obtain ⟨hassignments, hexported⟩ := h.assignments_eq process hpre post.toList
  rw [(overlayText_eq base process _ rfl).1, (overlayText_eq base process _ rfl).1, hnoisy, hplain,
    hassignments, hexported]

/-! ### Kinds of noise -/

lemma markLine_blanks {blanks : List Char} (h : ∀ c ∈ blanks, Text.isBlank c) {previous : Char}
    (hprevious : Text.isBlank previous) (rest : List Char) :
    ∃ last, Text.isBlank last ∧ markLine .bare false previous (blanks ++ rest) =
      (blanks ++ (markLine .bare false last rest).1, (markLine .bare false last rest).2) := by
  induction blanks generalizing previous with
  | nil => exact ⟨previous, hprevious, rfl⟩
  | cons c blanks ih =>
    obtain ⟨hc, hblanks⟩ := List.forall_mem_cons.mp h
    obtain ⟨last, hlast, hmark⟩ := ih hblanks hc
    have hquiet := isQuiet_of_isBlank hc
    simp only [IsQuiet, List.mem_cons, List.not_mem_nil, not_or] at hquiet
    obtain ⟨hescape, hdouble, hsingle, hcomment, -⟩ := hquiet
    have hdollar : c ≠ '$' := by
      rintro rfl
      exact absurd hc (by decide)
    refine ⟨last, hlast, ?_⟩
    rw [List.cons_append, markLine_char _ (by simp [hcomment])]
    have hnext : Quote.bare.next c = .bare := by simp [Quote.next, hdouble, hsingle]
    have hmarked : Quote.bare.mark c = c := by simp [Quote.mark, hdollar]
    simp only [hnext, hmarked, hescape, decide_false, Bool.false_and, hmark, List.cons_append]

lemma markLine_of_trimLeft {line : List Char}
    (h : Text.trimLeft line = [] ∨ (Text.trimLeft line).head? = some '#') :
    markLine .bare false ' ' line = (line, .bare) := by
  have hsplit : line.takeWhile Text.isBlank ++ Text.trimLeft line = line :=
    List.takeWhile_append_dropWhile
  obtain ⟨last, hlast, hmark⟩ := markLine_blanks (fun c hc => List.mem_takeWhile_imp hc)
    (by decide : Text.isBlank ' ') (Text.trimLeft line)
  have hrest : markLine .bare false last (Text.trimLeft line) = (Text.trimLeft line, .bare) := by
    obtain hnil | hhead := h
    · rw [hnil]
      rfl
    · obtain ⟨text, htext⟩ := List.head?_eq_some_iff.mp hhead
      rw [htext, markLine_comment text hlast]
  rw [hsplit, hrest, hsplit] at hmark
  exact hmark

lemma exportedName?_eq_none {line : List Char} (h : (Text.trimLeft line).head? ≠ some 'e') :
    exportedName? line = none := by
  have hafter : afterExport? (Text.trimLeft line) = none := by
    rw [Option.eq_none_iff_forall_ne_some]
    intro rest hrest
    obtain ⟨c, -, htext⟩ := afterExport?_eq_some_iff.mp hrest
    rw [htext] at h
    exact h rfl
  rw [exportedName?, hafter]

lemma markLine_bare {line : List Char} (h : ∀ c ∈ line, c ∉ ['"', '\'']) (escaped : Bool)
    (previous : Char) : (markLine .bare escaped previous line).2 = .bare := by
  induction line generalizing escaped previous with
  | nil => rfl
  | cons c rest ih =>
    obtain ⟨hc, hrest⟩ := List.forall_mem_cons.mp h
    simp only [List.mem_cons, List.not_mem_nil, not_or] at hc
    have hnext : Quote.bare.next c = .bare := by simp [Quote.next, hc]
    cases escaped with
    | true =>
      rw [markLine_escaped]
      exact ih hrest false c
    | false =>
      by_cases hcomment : Quote.bare = .bare && c = '#' && Text.isBlank previous
      · simp only [decide_true, Bool.true_and, Bool.and_eq_true, decide_eq_true_eq] at hcomment
        rw [hcomment.1, markLine_comment rest hcomment.2]
      · rw [markLine_char rest hcomment, hnext]
        exact ih hrest _ c

/-- Without quotes the reader gets no further than a blank or an escape. -/
def unquotedStates : List ReadState := [.complete, .blank, .escape]

lemma ReadState.next?_unquoted {c : Char} (h : c ∉ ['"', '\'']) {state next : ReadState}
    (hstate : state ∈ unquotedStates) (hnext : state.next? c = some next) :
    next ∈ unquotedStates := by
  simp only [List.mem_cons, List.not_mem_nil, not_or] at h
  obtain ⟨hdouble, hsingle, -⟩ := h
  simp only [unquotedStates, List.mem_cons, List.not_mem_nil, or_false] at hstate
  rcases hstate with rfl | rfl | rfl
  · rw [ReadState.next?, if_neg hdouble, if_neg hsingle] at hnext
    split_ifs at hnext <;> rw [← Option.some.inj hnext] <;> decide
  · rw [ReadState.next?, if_neg hdouble, if_neg hsingle] at hnext
    split_ifs at hnext <;> rw [← Option.some.inj hnext] <;> decide
  · rw [← Option.some.inj hnext]
    decide

lemma scanLine_unquoted {line : List Char} (h : ∀ c ∈ line, c ∉ ['"', '\'']) {state last : ReadState}
    (hstate : state ∈ unquotedStates) (hlast : (scanLine state line).2 = some last) :
    last ∈ unquotedStates := by
  induction line generalizing state with
  | nil => rwa [← Option.some.inj hlast]
  | cons c rest ih =>
    obtain ⟨hc, hrest⟩ := List.forall_mem_cons.mp h
    rw [scanLine] at hlast
    cases hnext : state.next? c with
    | none =>
      rw [hnext] at hlast
      contradiction
    | some next =>
      rw [hnext] at hlast
      exact ih hrest (ReadState.next?_unquoted hc hstate hnext) hlast

lemma afterLine_unquoted {line : List Char} (h : ∀ c ∈ line, c ∉ ['"', '\'']) :
    ReadState.complete.afterLine (line ++ ['\n']) = .complete := by
  have hall : ∀ c ∈ line ++ ['\n'], c ∉ ['"', '\''] := by
    rw [List.forall_mem_append]
    exact ⟨h, by simp⟩
  have hnewline := LogicalLine.afterLine_newline .complete line
  rw [ReadState.afterLine] at hnewline ⊢
  split
  · rfl
  · rename_i hcomment
    rw [if_neg hcomment] at hnewline
    cases hlast : (scanLine .complete (line ++ ['\n'])).2 with
    | none => rfl
    | some last =>
      have hstate := scanLine_unquoted hall (by decide) hlast
      rw [hlast, Option.getD_some] at hnewline
      rw [Option.getD_some]
      revert hnewline hstate
      cases last <;> decide

lemma unquoted_markLine {line : List Char} (h : ∀ c ∈ line, c ∉ ['"', '\'']) :
    ∀ c ∈ (markLine .bare false ' ' line).1, c ∉ ['"', '\''] := by
  intro c hc hmem
  have hmarker : marker ≠ c := by
    rintro rfl
    exact absurd hmem (by decide)
  exact not_mem_markLine .bare false ' ' hmarker (fun hline => h c hline hmem) hc

lemma refused_of_ofLines {line kept : List Char} (hnewline : '\n' ∉ line)
    (hwhole : LogicalLine.ofLines [] .complete [(markLine .bare false ' ' line).1 ++ ['\n']] =
      [.whole kept]) (hblank : ∀ c ∈ kept, Text.isBlank c) :
    assignments ((Marked.ofText (line ++ ['\n'])).items ⟨[]⟩) = [] := by
  have htrim : Text.trimLeft (Text.trimRight kept) = [] := by
    rw [Text.trimRight, List.dropWhile_eq_nil_iff.mpr (by simpa using hblank)]
    rfl
  rw [Marked.items, Item.ofText, LogicalLine.ofText, Marked.lines_ofText,
    Text.lines_append_newline hnewline, markLines_cons_newline]
  change assignments (Item.ofLines _ [] (LogicalLine.ofLines [] .complete
    [(markLine .bare false ' ' line).1 ++ ['\n']])) = []
  rw [hwhole, assignments_whole, Assignment.ofLine?, htrim]
  rfl

namespace IsInert

variable {line : List Char}

lemma of_blank (hnewline : '\n' ∉ line) (hblank : ∀ c ∈ line, Text.isBlank c) : IsInert line := by
  have hunquoted : ∀ c ∈ line, c ∉ ['"', '\''] := by
    intro c hc
    have hc := isQuiet_of_isBlank (hblank c hc)
    simp only [IsQuiet, List.mem_cons, List.not_mem_nil, not_or] at hc
    simp [hc]
  have hblanks : ∀ c ∈ line ++ ['\n'], Text.isBlank c := by
    rw [List.forall_mem_append]
    exact ⟨hblank, by simp [Text.isBlank]⟩
  have htrim : Text.trimLeft (line ++ ['\n']) = [] := List.dropWhile_eq_nil_iff.mpr hblanks
  have hmark := markLine_of_trimLeft (.inl (List.dropWhile_eq_nil_iff.mpr hblank))
  have hreader := afterLine_unquoted hunquoted
  refine ⟨hnewline, ?_, exportedName?_eq_none (by simp [htrim]), by rw [hmark]; exact hreader, ?_⟩
  · rw [markLine_of_trimLeft (.inl htrim)]
  · obtain ⟨-, kept, hcopied, hkept⟩ | ⟨hafter, -⟩ :=
      LogicalLine.pending_start.ofLines_cons (line ++ ['\n'])
    · refine refused_of_ofLines hnewline (by rw [hmark]; exact hkept []) fun c hc => ?_
      exact hblanks c (hcopied.subset hc)
    · exact absurd hreader hafter

lemma of_comment (hnewline : '\n' ∉ line) (hbegins : (Text.trimLeft line).head? = some '#') :
    IsInert line := by
  have hhead : (Text.trimLeft (line ++ ['\n'])).head? = some '#' := by
    rw [Text.head?_trimLeft_append_blanks (by simp [Text.isBlank]), hbegins]
  have hmark := markLine_of_trimLeft (.inr hbegins)
  refine ⟨hnewline, ?_, exportedName?_eq_none (by simp [hhead]), ?_, ?_⟩
  · rw [markLine_of_trimLeft (.inr hhead)]
  · rw [hmark]
    exact if_pos ⟨rfl, hhead⟩
  · have hwhole : LogicalLine.ofLines [] .complete
        [(markLine .bare false ' ' line).1 ++ ['\n']] = [.whole []] := by
      rw [hmark, LogicalLine.ofLines, List.nil_append, if_pos hhead]
      rfl
    exact refused_of_ofLines hnewline hwhole fun c hc => absurd hc List.not_mem_nil

lemma of_command (hnewline : '\n' ∉ line) (hquiet : ∀ c ∈ line, c ∉ ['\\', '"', '\''])
    (hrefused : assignments ((Marked.ofText (line ++ ['\n'])).items ⟨[]⟩) = [])
    (hword : (Text.words line).head? ≠ some ['e', 'x', 'p', 'o', 'r', 't']) : IsInert line := by
  have hbare : ∀ c ∈ line ++ ['\n'], c ∉ ['"', '\''] := by
    rw [List.forall_mem_append]
    refine ⟨fun c hc => ?_, by simp⟩
    have hc := hquiet c hc
    simp only [List.mem_cons, List.not_mem_nil, not_or] at hc
    simp [hc]
  have hunquoted := unquoted_markLine (List.forall_mem_append.mp hbare).1
  refine ⟨hnewline, markLine_bare hbare false ' ', ?_, afterLine_unquoted hunquoted, hrefused⟩
  rw [exportedName?_newline, exportedName?]
  cases hafter : afterExport? (Text.trimLeft line) with
  | none => rfl
  | some rest =>
    obtain ⟨c, hblank, htext⟩ := afterExport?_eq_some_iff.mp hafter
    refine absurd ?_ hword
    rw [← Text.words_trimLeft, htext, Text.words_eq_runs, Text.runs_append_separator hblank]
    rfl

end IsInert

lemma IsNoise.isInert {line : List Char} (h : IsNoise line) (hnewline : '\n' ∉ line) :
    IsInert line := by
  cases h with
  | blank blank => exact .of_blank hnewline blank
  | comment begins => exact .of_comment hnewline begins
  | command quiet refused word => exact .of_command hnewline quiet refused word

/-- Shell noise is inert: a blank line, a comment or a command, where the scanners begin anew and
in front of any text at all, gives the environment that there is without it. -/
theorem overlayFile_noise (base : Environment) (process : ProcessEnvironment)
    (noisy plain : FileTree) (path : RawText) (pre line post : String) (anew : BeginsAnew pre)
    (newline : '\n' ∉ line.toList) (noise : IsNoise line.toList)
    (hnoisy : noisy.readText path = .ok (pre ++ line ++ "\n" ++ post))
    (hplain : plain.readText path = .ok (pre ++ post)) :
    (base.overlayFile process noisy path).1 = (base.overlayFile process plain path).1 := by
  have henv := overlayText_inert base process anew (noise.isInert newline) post
  rw [Environment.overlayFile, Environment.overlayFile, hnoisy, hplain]
  exact congrArg Except.ok henv

/-- A command in front of an assignment over two lines. -/
def commandLine : String := "if [ -z $A ]; then #B=$A"

theorem overlayFile_commandLine :
    BeginsAnew "export A='1'\n" ∧ IsNoise commandLine.toList ∧
      (Environment.empty.overlayFile ⟨[]⟩
        (profile ("export A='1'\n" ++ commandLine ++ "\n" ++ "export B=\"$A\n\"\n")) ".bashrc").1 =
        .ok ((Environment.empty.set "A" "1").set "B" "1\n") := by
  have hanew : BeginsAnew "export A='1'\n" := ⟨.inr (by decide), by decide, by decide⟩
  have hnoise : IsNoise commandLine.toList :=
    .command (by simp [commandLine]) (by decide +kernel) (by decide +kernel)
  refine ⟨hanew, hnoise, ?_⟩
  rw [overlayFile_noise .empty ⟨[]⟩ _ (profile ("export A='1'\n" ++ "export B=\"$A\n\"\n"))
    ".bashrc" "export A='1'\n" commandLine "export B=\"$A\n\"\n" hanew (by decide) hnoise
    (readText_profile _) (readText_profile _), overlayFile_profile]
  cbv

end SiteBoot.EnvFile
