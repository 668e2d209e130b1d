import SiteBoot.Proofs.EnvFile.LineByLine
/-!
# The newline at the end of a file

The last line of a file need not end in a newline, but the reader of logical lines gives up what it
has read where it ends in a state that a newline would bring to an end: after a blank, or after a
backslash. Everywhere else the newline is of no account.
-/

namespace SiteBoot.Text

section Blanks

variable {blanks : List Char} (h : ∀ c ∈ blanks, isBlank c) (text : List Char)
include h

lemma trimLeft_append_blanks :
    trimLeft (text ++ blanks) = if trimLeft text = [] then [] else trimLeft text ++ blanks := by
  rw [trimLeft, trimLeft, List.dropWhile_append]
  split
  · rename_i hempty
    rw [if_pos (List.isEmpty_iff.mp hempty)]
    exact List.dropWhile_eq_nil_iff.mpr h
  · rename_i hne
    rw [if_neg (List.isEmpty_iff.not.mp hne)]

lemma head?_trimLeft_append_blanks :
    (trimLeft (text ++ blanks)).head? = (trimLeft text).head? := by
  rw [trimLeft_append_blanks h]
  split
  · rename_i hnil
    rw [hnil]
  · rename_i hne
    exact List.head?_append_of_ne_nil _ hne

lemma trimRight_append_blanks : trimRight (text ++ blanks) = trimRight text := by
  have hreverse : ∀ c ∈ blanks.reverse, isBlank c := by simpa using h
  rw [trimRight, List.reverse_append, List.dropWhile_append_of_pos hreverse, trimRight]

end Blanks

end SiteBoot.Text

namespace SiteBoot.EnvFile

/-- Where the reader of logical lines stands at the end of a file. -/
def readerEnd (content : String) : ReadState :=
  (Text.lines (Marked.ofText content.toList).text).foldl ReadState.afterLine .complete

/-! ### The names that a file exports -/

lemma afterExport?_eq_some_iff {text rest : List Char} :
    afterExport? text = some rest ↔
      ∃ c, Text.isBlank c ∧ text = ['e', 'x', 'p', 'o', 'r', 't'] ++ c :: rest := by
  constructor
  · intro h
    unfold afterExport? at h
    split at h
    · split at h
      · rename_i c _ hblank
        obtain rfl := Option.some.inj h
        exact ⟨c, hblank, rfl⟩
      · contradiction
    · contradiction
  · rintro ⟨c, hblank, rfl⟩
    exact if_pos hblank

lemma afterExport?_concat (text : List Char) (blank : Char) :
    afterExport? (text ++ [blank]) = (afterExport? text).map (· ++ [blank]) ∨
      afterExport? text = none ∧ afterExport? (text ++ [blank]) = some [] := by
  cases htext : afterExport? text with
  | some rest =>
    obtain ⟨c, hblank, rfl⟩ := afterExport?_eq_some_iff.mp htext
    exact .inl (afterExport?_eq_some_iff.mpr ⟨c, hblank, List.append_assoc ..⟩)
  | none =>
    cases hlonger : afterExport? (text ++ [blank]) with
    | none => exact .inl rfl
    | some rest =>
      obtain ⟨c, hblank, heq⟩ := afterExport?_eq_some_iff.mp hlonger
      rcases List.eq_nil_or_concat rest with rfl | ⟨before, last, rfl⟩
      · exact .inr ⟨rfl, rfl⟩
      · rw [List.concat_eq_append, ← List.cons_append, ← List.append_assoc] at heq
        have hword := afterExport?_eq_some_iff.mpr ⟨c, hblank, (List.append_inj' heq rfl).1⟩
        rw [htext] at hword
        contradiction

lemma exportedName?_concat {blank : Char} (h : Text.isBlank blank) (line : List Char) :
    exportedName? (line ++ [blank]) = exportedName? line := by
  have hkey : isKeyChar blank = false := by
    by_contra hkey
    rw [Bool.not_eq_false] at hkey
    rw [not_isBlank_of_isKeyChar hkey] at h
    contradiction
  have htakeWhile : ∀ text : List Char,
      (text ++ [blank]).takeWhile isKeyChar = text.takeWhile isKeyChar := by
    intro text
    rw [List.takeWhile_append]
    split
    · rename_i hlength
      have hall := List.takeWhile_prefix isKeyChar |>.eq_of_length hlength
      rw [List.takeWhile_cons_of_neg (by simp [hkey]), List.append_nil, hall]
    · rfl
  have hblanks : ∀ c ∈ [blank], Text.isBlank c := by simpa using h
  have hname : ∀ rest, (Text.trimLeft (rest ++ [blank])).takeWhile isKeyChar =
      (Text.trimLeft rest).takeWhile isKeyChar := by
    intro rest
    rw [Text.trimLeft_append_blanks hblanks]
    split
    · rename_i hnil
      rw [hnil]
    · exact htakeWhile _
  rw [exportedName?, exportedName?, Text.trimLeft_append_blanks hblanks]
  by_cases hnil : Text.trimLeft line = []
  · rw [if_pos hnil, hnil]
  · rw [if_neg hnil]
    rcases afterExport?_concat (Text.trimLeft line) blank with hafter | ⟨hnone, hafter⟩
    · rw [hafter]
      cases afterExport? (Text.trimLeft line) with
      | none => rfl
      | some rest =>
        rw [Option.map_some]
        dsimp only
        rw [hname]
    · rw [hafter, hnone]
      rfl

lemma exportedName?_newline (line : List Char) :
    exportedName? (line ++ ['\n']) = exportedName? line :=
  exportedName?_concat (by decide) line

lemma Marked.exported_newline (quote : Quote) (text : List Char) :
    (markLines quote (Text.lines (text ++ ['\n']))).2 = (markLines quote (Text.lines text)).2 := by
  induction text using Text.line_induction generalizing quote with
  | nil => cases quote <;> rfl
  | last line hne hline =>
    have hlines : Text.lines (line ++ ['\n']) = [line ++ ['\n']] :=
      Text.lines_append_newline hline []
    rw [hlines, Text.lines_eq_singleton hline hne]
    simp only [markLines, exportedName?_newline]
  | newline line rest hline ih =>
    have hrest := ih (markLine quote false ' ' (line ++ ['\n'])).2
    rw [List.append_assoc, List.cons_append, Text.lines_append_newline hline,
      Text.lines_append_newline hline]
    simp only [markLines, hrest]

/-! ### The last line -/

lemma ReadState.next?_newline (state : ReadState) :
    ∃ next, state.next? '\n' = some next ∧
      (next = .complete ↔ state = .complete ∨ state = .blank ∨ state = .escape) := by
  cases state <;> exact ⟨_, rfl, by decide⟩

lemma scanLine_of_some {state last : ReadState} {line : List Char}
    (h : (scanLine state line).2 = some last) : scanLine state line = (line, some last) := by
  induction line generalizing state with
  | nil => exact Prod.ext rfl h
  | cons c line ih =>
    rw [scanLine] at h ⊢
    cases hnext : state.next? c with
    | none =>
      rw [hnext] at h
      contradiction
    | some next =>
      rw [hnext] at h
      dsimp only at h ⊢
      rw [ih h]

lemma scanLine_of_none {state : ReadState} {line : List Char} (h : (scanLine state line).2 = none)
    (more : List Char) : scanLine state (line ++ more) = scanLine state line := by
  induction line generalizing state with
  | nil => contradiction
  | cons c line ih =>
    rw [List.cons_append, scanLine, scanLine]
    rw [scanLine] at h
    cases hnext : state.next? c with
    | none => rfl
    | some next =>
      rw [hnext] at h
      dsimp only at h ⊢
      rw [ih h]

lemma trimRight_chomp (line : List Char) :
    Text.trimRight (chomp line) = Text.trimRight line := by
  obtain ⟨reversed, rfl⟩ : ∃ reversed, line = reversed.reverse := ⟨line.reverse, by simp⟩
  rw [chomp, List.reverse_reverse]
  split
  · rename_i rest
    simp [Text.trimRight, Text.isBlank]
  · rename_i rest hreturn
    simp [Text.trimRight, Text.isBlank]
  · rfl

namespace LogicalLine.Pending

variable {part : List Char} {state : ReadState}

lemma ofLines_lastLine (h : Pending part state) (quote : Quote) {text : List Char}
    (hne : text ≠ []) (hlast : text.getLast? ≠ some '\n') :
    ∃ first before current line, Pending before current ∧
      (markLines quote (Text.lines text)).1.foldl ReadState.afterLine state =
        current.afterLine line ∧
      ∀ ended, ofLines part state (markLines quote (Text.lines (joinLines ended [text]))).1 =
        first ++ ofLines before current [joinLines ended [line]] := by
  induction text using Text.line_induction generalizing quote part state with
  | nil => contradiction
  | last line _ hline =>
    have hsingle := Text.lines_eq_singleton hline hne
    refine ⟨[], part, state, (markLine quote false ' ' line).1, h, ?_, fun ended => ?_⟩
    · rw [hsingle]
      rfl
    · cases ended with
      | false =>
        simp only [joinLines, Bool.false_eq_true, if_false]
        rw [hsingle]
        rfl
      | true =>
        have hnewline : Text.lines (line ++ ['\n']) = [line ++ ['\n']] :=
          Text.lines_append_newline hline []
        simp only [joinLines, if_true]
        rw [hnewline, markLines_cons_newline]
        rfl
  | newline line rest hline ih =>
    have hrest : rest ≠ [] := by
      rintro rfl
      simp at hlast
    have hend : rest.getLast? ≠ some '\n' := by
      rw [List.getLast?_append_of_ne_nil _ (List.cons_ne_nil _ _),
        List.getLast?_cons_of_ne_nil hrest] at hlast
      exact hlast
    have hjoin : ∀ ended, Text.lines (joinLines ended [line ++ '\n' :: rest]) =
        (line ++ ['\n']) :: Text.lines (joinLines ended [rest]) := by
      intro ended
      rw [← Text.lines_append_newline hline]
      cases ended <;> simp [joinLines]
    rw [Text.lines_append_newline hline, markLines_cons_newline, List.foldl_cons]
    simp only [hjoin, markLines_cons_newline]
    -- the first line is read before it is known whether a newline ends the last
    rcases h.ofLines_cons ((markLine quote false ' ' line).1 ++ ['\n']) with
      ⟨hafter, kept, -, hkept⟩ | ⟨hafter, hparts⟩
    · obtain ⟨first, before, current, last, hcurrent, hfold, hofLines⟩ :=
        ih pending_start (markLine quote false ' ' (line ++ ['\n'])).2 hrest hend
      rw [hafter]
      refine ⟨.whole kept :: first, before, current, last, hcurrent, hfold, fun ended => ?_⟩
      rw [hkept, hofLines]
      rfl
    · obtain ⟨first, before, current, last, hcurrent, hfold, hofLines⟩ :=
        ih (h.next hafter) (markLine quote false ' ' (line ++ ['\n'])).2 hrest hend
      refine ⟨first, before, current, last, hcurrent, hfold, fun ended => ?_⟩
      rw [hparts, hofLines]

lemma ofLines_singleton {line : List Char}
    (hcomment : (Text.trimLeft (part ++ line)).head? ≠ some '#') :
    ofLines part state [line] =
      match scanLine state line with
      | (kept, none) => [.whole (part ++ kept)]
      | (_, some last) =>
        if last = .complete then [.whole (chomp (part ++ line))]
        else [.unfinished (part ++ line)] := by
  rw [ofLines, if_neg hcomment]
  rcases scanLine state line with ⟨kept, last | last⟩
  · rfl
  · cases last <;> rfl

/-- A newline after the last line makes no difference to what is read of it, but that it brings a
blank or an escape to an end. -/
lemma ofLines_newline (h : Pending part state) (line : List Char) :
    (∃ kept others, Text.trimRight others = Text.trimRight kept ∧
      ofLines part state [line] = [.whole kept] ∧
      ofLines part state [line ++ ['\n']] = [.whole others]) ∨
    ∃ text others, ofLines part state [line] = [.unfinished text] ∧
      (ofLines part state [line ++ ['\n']] = [.unfinished others] ∨
        state.afterLine line ∈ [.blank, .escape] ∧
          ofLines part state [line ++ ['\n']] = [.whole others]) := by
  have hblank : ∀ c ∈ ['\n'], Text.isBlank c := by simp [Text.isBlank]
  have hhead : (Text.trimLeft (part ++ (line ++ ['\n']))).head? =
      (Text.trimLeft (part ++ line)).head? := by
    rw [← List.append_assoc, Text.head?_trimLeft_append_blanks hblank]
  by_cases hcomment : (Text.trimLeft (part ++ line)).head? = some '#'
  · refine .inl ⟨[], [], rfl, ?_, ?_⟩
    · rw [ofLines, if_pos hcomment, ofLines, if_pos rfl]
    · rw [ofLines, if_pos (hhead.trans hcomment), ofLines, if_pos rfl]
  have hafter : state.afterLine line = (scanLine state line).2.getD .complete :=
    if_neg ((h.comment_iff line).not.mp hcomment)
  have hcomment' : (Text.trimLeft (part ++ (line ++ ['\n']))).head? ≠ some '#' := by
    rw [hhead]
    exact hcomment
  have htrim : Text.trimRight (chomp (part ++ (line ++ ['\n']))) =
      Text.trimRight (chomp (part ++ line)) := by
    rw [trimRight_chomp, trimRight_chomp, ← List.append_assoc, Text.trimRight_append_blanks hblank]
  rw [ofLines_singleton hcomment, ofLines_singleton hcomment', hafter]
  cases hscan : (scanLine state line).2 with
  | none =>
    -- the reader has come to a comment, and never gets to the newline
    have hstop : scanLine state line = ((scanLine state line).1, none) := Prod.ext rfl hscan
    rw [scanLine_of_none hscan, hstop]
    exact .inl ⟨_, _, rfl, rfl, rfl⟩
  | some last =>
    obtain ⟨next, hnext, hcomplete⟩ := last.next?_newline
    have hline := scanLine_of_some hscan
    have hnewline : scanLine state (line ++ ['\n']) = (line ++ ['\n'], some next) := by
      rw [scanLine_append hline, scanLine_singleton hnext]
    rw [hline, hnewline, Option.getD_some]
    dsimp only
    by_cases hlast : last = .complete
    · rw [if_pos hlast, if_pos (hcomplete.mpr (.inl hlast))]
      exact .inl ⟨_, _, htrim, rfl, rfl⟩
    · rw [if_neg hlast]
      by_cases hended : next = .complete
      · -- the newline ends a logical line that the end of the file does not
        have hunsettled : last ∈ [ReadState.blank, .escape] := by
          rcases hcomplete.mp hended with h | h | h
          · exact absurd h hlast
          · simp [h]
          · simp [h]
        rw [if_pos hended]
        exact .inr ⟨_, _, rfl, .inr ⟨hunsettled, rfl⟩⟩
      · rw [if_neg hended]
        exact .inr ⟨_, _, rfl, .inl rfl⟩

end LogicalLine.Pending

/-! ### What the last line assigns -/

lemma Assignment.ofLine?_trimRight (lookup : List Char → List Char) {line other : List Char}
    (h : Text.trimRight other = Text.trimRight line) :
    (ofLine? lookup other).toOption = (ofLine? lookup line).toOption := by
  rw [ofLine?, ofLine?, h]
  dsimp only
  split
  · rfl
  · cases takeTarget? (Text.trimLeft (Text.trimRight line)) <;> rfl

lemma assignments_cons_whole (process? : List Char → Option (List Char))
    (earlier : List (List Char × List Char)) (line : List Char) (rest : List LogicalLine) :
    let lookup name := ((process? name).orElse fun _ => earlier.lookup name).getD []
    assignments (Item.ofLines process? earlier (.whole line :: rest)) =
      match (Assignment.ofLine? lookup line).toOption.join with
      | none => assignments (Item.ofLines process? earlier rest)
      | some item =>
        item :: assignments (Item.ofLines process? ((item.key, item.raw) :: earlier) rest) := by
  intro lookup
  rw [Item.ofLines]
  split <;> rename_i hline <;> rw [hline] <;> rfl

lemma assignments_whole (process? : List Char → Option (List Char))
    (earlier : List (List Char × List Char)) (line : List Char) :
    let lookup name := ((process? name).orElse fun _ => earlier.lookup name).getD []
    assignments (Item.ofLines process? earlier [.whole line]) =
      (Assignment.ofLine? lookup line).toOption.join.toList := by
  intro lookup
  rw [assignments_cons_whole]
  cases (Assignment.ofLine? lookup line).toOption.join with
  | none => rfl
  | some item => rfl

lemma assignments_lastLine (process? : List Char → Option (List Char))
    (earlier : List (List Char × List Char)) {part : List Char} {state : ReadState}
    (h : LogicalLine.Pending part state) (line : List Char) :
    ∃ lost : Option Assignment,
      assignments (Item.ofLines process? earlier
          (LogicalLine.ofLines part state [line ++ ['\n']])) =
        assignments (Item.ofLines process? earlier (LogicalLine.ofLines part state [line])) ++
          lost.toList ∧
      (state.afterLine line ∉ [.blank, .escape] → lost = none) := by
  rcases h.ofLines_newline line with ⟨kept, others, htrim, hplain, hnewline⟩ |
    ⟨text, others, hplain, hnewline | ⟨hafter, hnewline⟩⟩
  · refine ⟨none, ?_, fun _ => rfl⟩
    rw [hplain, hnewline, assignments_whole, assignments_whole,
      Assignment.ofLine?_trimRight _ htrim]
    exact (List.append_nil _).symm
  · refine ⟨none, ?_, fun _ => rfl⟩
    rw [hplain, hnewline]
    rfl
  · rw [hplain, hnewline, assignments_whole]
    exact ⟨_, rfl, fun hsettled => absurd hafter hsettled⟩

theorem assignments_finalNewline (process : ProcessEnvironment) {content : String}
    (hlast : content.toList.getLast? ≠ some '\n') :
    ∃ lost : Option Assignment,
      assignments ((Marked.ofText (content ++ "\n").toList).items process) =
        assignments ((Marked.ofText content.toList).items process) ++ lost.toList ∧
      (readerEnd content ∉ [.blank, .escape] → lost = none) := by
  rw [String.toList_append]
  by_cases hnil : content.toList = []
  · rw [hnil]
    exact ⟨none, rfl, fun _ => rfl⟩
  obtain ⟨first, before, current, line, hcurrent, hend, hlines⟩ :=
    LogicalLine.pending_start.ofLines_lastLine .bare hnil hlast
  rw [← Marked.lines_ofText] at hend
  have hplain : LogicalLine.ofText (Marked.ofText content.toList).text =
      first ++ LogicalLine.ofLines before current [line] := by
    rw [LogicalLine.ofText, Marked.lines_ofText]
    exact hlines false
  have hnewline : LogicalLine.ofText (Marked.ofText (content.toList ++ "\n".toList)).text =
      first ++ LogicalLine.ofLines before current [line ++ ['\n']] := by
    rw [LogicalLine.ofText, Marked.lines_ofText]
    exact hlines true
  obtain ⟨since, hitems⟩ := Item.ofLines_append
    (fun name => (process.text? (String.ofList name)).map String.toList) [] first
  obtain ⟨lost, hassignments, hlost⟩ := assignments_lastLine
    (fun name => (process.text? (String.ofList name)).map String.toList) since hcurrent line
  refine ⟨lost, ?_, fun hsettled => hlost (hend ▸ hsettled)⟩
  rw [Marked.items, Marked.items, Item.ofText, Item.ofText, hplain, hnewline, hitems, hitems,
    assignments, assignments, List.filterMap_append, List.filterMap_append, List.append_assoc]
  exact congrArg _ hassignments

/-- The newline at the end of a file is optional where the reader ends in neither a blank nor an
escape. -/
theorem overlayFile_finalNewline (base : Environment) (process : ProcessEnvironment)
    (files ended : FileTree) (path : RawText) (content : String)
    (hlast : content.toList.getLast? ≠ some '\n') (h : files.readText path = .ok content)
    (hended : ended.readText path = .ok (content ++ "\n"))
    (settled : readerEnd content ∉ [.blank, .escape]) :
    (base.overlayFile process files path).1 = (base.overlayFile process ended path).1 := by
  obtain ⟨lost, hassignments, hlost⟩ := assignments_finalNewline process hlast
  rw [hlost settled, Option.toList_none, List.append_nil] at hassignments
  have hexported : (Marked.ofText (content ++ "\n").toList).exported =
      (Marked.ofText content.toList).exported := by
    rw [String.toList_append]
    exact Marked.exported_newline .bare content.toList
  have henv := (overlayText_eq base process content rfl).1
  have hother := (overlayText_eq base process (content ++ "\n") rfl).1
  rw [hassignments, hexported, ← henv] at hother
  rw [Environment.overlayFile, Environment.overlayFile, h, hended]
  exact congrArg Except.ok hother.symm

/-- A file that ends in two blanks after a value. -/
def blanksText : String := "export A='a b'\nexport B=\"$A!\"  "

theorem overlayFile_blanksText :
    blanksText.toList.getLast? ≠ some '\n' ∧ readerEnd blanksText ∉ [.blank, .escape] ∧
      (Environment.empty.overlayFile ⟨[]⟩ (profile blanksText) ".bashrc").1 =
        .ok ((Environment.empty.set "A" "a b").set "B" "a b!") := by
  have hlast : blanksText.toList.getLast? ≠ some '\n' := by decide
  have hsettled : readerEnd blanksText ∉ [.blank, .escape] := by decide
  refine ⟨hlast, hsettled, ?_⟩
  rw [overlayFile_finalNewline .empty ⟨[]⟩ (profile blanksText) (profile (blanksText ++ "\n"))
    ".bashrc" blanksText hlast (readText_profile _) (readText_profile _) hsettled,
    overlayFile_profile]
  cbv

/-- After one blank the last line is lost without a newline. -/
theorem blank_loses_last_line :
    (Environment.empty.overlayFile ⟨[]⟩ (profile "export A=1 ") ".bashrc").1 = .ok .empty ∧
      (Environment.empty.overlayFile ⟨[]⟩ (profile ("export A=1 " ++ "\n")) ".bashrc").1 =
        .ok (Environment.empty.set "A" "1") := by
  rw [overlayFile_profile, overlayFile_profile]
  constructor
  · cbv
  · cbv

end SiteBoot.EnvFile
