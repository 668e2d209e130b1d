import SiteBoot.Proofs.EnvFile.Noise
/-!
# Line endings

A file may have been written where lines end in a carriage return and a newline. Without quotes
every line of it is a logical line, and what that says does not depend on the blanks at its end, of
which the carriage return is one. Inside quotes it would be part of a value.
-/

namespace SiteBoot.Text

/-- The text with a carriage return before each newline. -/
def withReturns (text : List Char) : List Char :=
  text.flatMap fun c => if c = '\n' then ['\r', '\n'] else [c]

lemma withReturns_of_not_mem {line : List Char} (h : '\n' ∉ line) : withReturns line = line := by
  have hkept : line.flatMap (fun c => if c = '\n' then ['\r', '\n'] else [c]) =
      line.flatMap fun c => [c] := by
    refine List.flatMap_congr fun c hc => if_neg ?_
    rintro rfl
    exact h hc
  rw [withReturns, hkept]
  simp

lemma withReturns_append_newline {line : List Char} (h : '\n' ∉ line) (rest : List Char) :
    withReturns (line ++ '\n' :: rest) = line ++ ['\r'] ++ '\n' :: withReturns rest := by
  have hline := withReturns_of_not_mem h
  rw [withReturns] at hline
  rw [withReturns, List.flatMap_append, hline, List.flatMap_cons, if_pos rfl]
  simp [withReturns]

lemma lines_withReturns_append_newline {line : List Char} (h : '\n' ∉ line) (rest : List Char) :
    lines (withReturns (line ++ '\n' :: rest)) =
      (line ++ ['\r'] ++ ['\n']) :: lines (withReturns rest) := by
  have hreturn : '\n' ∉ line ++ ['\r'] := by simp [h]
  rw [withReturns_append_newline h, lines_append_newline hreturn]

end SiteBoot.Text

namespace SiteBoot.EnvFile

def IsUnquoted (text : List Char) : Prop := ∀ c ∈ text, c ∉ ['"', '\'']

instance (text : List Char) : Decidable (IsUnquoted text) :=
  inferInstanceAs (Decidable (∀ c ∈ text, c ∉ _))

/-! ### The names that a file exports -/

lemma markLines_cons_unquoted {line : List Char} (h : IsUnquoted line)
    (others : List (List Char)) :
    markLines .bare ((line ++ ['\n']) :: others) =
      (((markLine .bare false ' ' line).1 ++ ['\n']) :: (markLines .bare others).1,
        (exportedName? line).toList ++ (markLines .bare others).2) := by
  have hbare : ∀ c ∈ line ++ ['\n'], c ∉ ['"', '\''] := by
    rw [List.forall_mem_append]
    exact ⟨h, by simp⟩
  simp only [markLines, markLine_bare hbare, markLine_newline, exportedName?_newline, if_true]

lemma isUnquoted_return {line : List Char} (h : IsUnquoted line) :
    IsUnquoted (line ++ ['\r']) := by
  rw [IsUnquoted, List.forall_mem_append]
  exact ⟨h, by simp⟩

lemma exported_withReturns {text : List Char} (h : IsUnquoted text) :
    (markLines .bare (Text.lines (Text.withReturns text))).2 =
      (markLines .bare (Text.lines text)).2 := by
  induction text using Text.line_induction with
  | nil => rfl
  | last line hne hline => rw [Text.withReturns_of_not_mem hline]
  | newline line rest hline ih =>
    obtain ⟨hunquoted, hrest⟩ := List.forall_mem_append.mp h
    rw [Text.lines_withReturns_append_newline hline, Text.lines_append_newline hline,
      markLines_cons_unquoted (isUnquoted_return hunquoted), markLines_cons_unquoted hunquoted,
      exportedName?_concat (by decide), ih (List.forall_mem_cons.mp hrest).2]

/-! ### Logical lines -/

namespace LogicalLine

/-- Two logical lines say the same: they differ at most in the blanks at their ends. -/
inductive SaysSame : LogicalLine → LogicalLine → Prop
  | whole {text other} (trimmed : Text.trimRight other = Text.trimRight text) :
      SaysSame (.whole text) (.whole other)
  | unfinished (text) : SaysSame (.unfinished text) (.unfinished text)

lemma SaysSame.refl (line : LogicalLine) : SaysSame line line := by
  cases line with
  | whole text => exact .whole rfl
  | unfinished text => exact .unfinished text

/-- What a line says that has no quotes, but for the blanks at its end. -/
def said (line : List Char) : List Char :=
  if (Text.trimLeft line).head? = some '#' then []
  else Text.trimRight (scanLine .complete line).1

lemma ofLines_unquoted {line ending : List Char} (h : IsUnquoted line)
    (hending : ending = ['\n'] ∨ ending = ['\r', '\n']) :
    ∃ kept, Text.trimRight kept = said line ∧ ∀ rest,
      ofLines [] .complete ((line ++ ending) :: rest) = .whole kept :: ofLines [] .complete rest := by
  have hblanks : ∀ c ∈ ending, Text.isBlank c := by
    rcases hending with rfl | rfl
    · simp [Text.isBlank]
    · simp [Text.isBlank]
  have hhead := Text.head?_trimLeft_append_blanks hblanks line
  by_cases hcomment : (Text.trimLeft line).head? = some '#'
  · refine ⟨[], ?_, fun rest => ?_⟩
    · rw [said, if_pos hcomment]
      rfl
    · rw [ofLines, List.nil_append, hhead, if_pos hcomment]
  · cases hscan : (scanLine .complete line).2 with
    | none =>
      -- a comment after a value hides how the line ends
      have hstop : scanLine .complete line = ((scanLine .complete line).1, none) :=
        Prod.ext rfl hscan
      refine ⟨(scanLine .complete line).1, ?_, fun rest => ?_⟩
      · rw [said, if_neg hcomment]
      · rw [ofLines, List.nil_append, hhead, if_neg hcomment, scanLine_of_none hscan, hstop]
        rfl
    | some last =>
      have hline := scanLine_of_some hscan
      have hlast := scanLine_unquoted h (by decide) hscan
      have hended : scanLine last ending = (ending, some .complete) := by
        simp only [unquotedStates, List.mem_cons, List.not_mem_nil, or_false] at hlast
        rcases hlast with rfl | rfl | rfl <;> rcases hending with rfl | rfl <;> decide
      refine ⟨chomp (line ++ ending), ?_, fun rest => ?_⟩
      · rw [said, if_neg hcomment, hline, trimRight_chomp, Text.trimRight_append_blanks hblanks]
      · rw [ofLines, List.nil_append, hhead, if_neg hcomment, scanLine_append hline, hended]

/-- Carriage returns leave the logical lines of an unquoted text as they are, but for blanks. -/
lemma saysSame_withReturns {text : List Char} (h : IsUnquoted text) :
    List.Forall₂ SaysSame (ofText (Marked.ofText text).text)
      (ofText (Marked.ofText (Text.withReturns text)).text) := by
  rw [ofText, ofText, Marked.lines_ofText, Marked.lines_ofText]
  induction text using Text.line_induction with
  | nil => exact .nil
  | last line hne hline =>
    rw [Text.withReturns_of_not_mem hline]
    exact List.forall₂_same.mpr fun logical _ => .refl logical
  | newline line rest hline ih =>
    obtain ⟨hunquoted, hrest⟩ := List.forall_mem_append.mp h
    have hmarked := unquoted_markLine hunquoted
    obtain ⟨kept, hkept, hlines⟩ := ofLines_unquoted hmarked (.inl rfl)
    obtain ⟨other, hother, hlines'⟩ := ofLines_unquoted hmarked (.inr rfl)
    have hreturn : (markLine .bare false ' ' (line ++ ['\r'])).1 ++ ['\n'] =
        (markLine .bare false ' ' line).1 ++ ['\r', '\n'] := by
      rw [markLine_concat (by decide), List.append_assoc]
      rfl
    rw [Text.lines_append_newline hline, Text.lines_withReturns_append_newline hline,
      markLines_cons_unquoted hunquoted, markLines_cons_unquoted (isUnquoted_return hunquoted),
      hreturn, hlines, hlines']
    exact .cons (.whole (hother.trans hkept.symm)) (ih (List.forall_mem_cons.mp hrest).2)

end LogicalLine

lemma assignments_congr {lines others : List LogicalLine}
    (h : List.Forall₂ LogicalLine.SaysSame lines others)
    (process? : List Char → Option (List Char)) (earlier : List (List Char × List Char)) :
    assignments (Item.ofLines process? earlier others) =
      assignments (Item.ofLines process? earlier lines) := by
  induction h generalizing earlier with
  | nil => rfl
  | cons hline hlines ih =>
    cases hline with
    | unfinished text => exact ih earlier
    | whole trimmed =>
      rw [assignments_cons_whole, assignments_cons_whole, Assignment.ofLine?_trimRight _ trimmed]
      split
      · exact ih earlier
      · exact congrArg _ (ih _)

/-- Without quotes it does not matter to an overlay whether the lines of a file end in newlines or
in carriage returns and newlines. -/
theorem overlayFile_withReturns (base : Environment) (process : ProcessEnvironment)
    (files other : FileTree) (path : RawText) (content : String)
    (unquoted : IsUnquoted content.toList) (h : files.readText path = .ok content)
    (hother : other.readText path = .ok (String.ofList (Text.withReturns content.toList))) :
    ∃ env, (base.overlayFile process files path).1 = .ok env ∧
      (base.overlayFile process other path).1 = .ok env := by
  have hassignments := assignments_congr (LogicalLine.saysSame_withReturns unquoted)
    (fun name => (process.text? (String.ofList name)).map String.toList) []
  have hexported : (Marked.ofText (Text.withReturns content.toList)).exported =
      (Marked.ofText content.toList).exported := exported_withReturns unquoted
  have henv := (overlayText_eq base process content rfl).1
  have hreturns :=
    (overlayText_eq base process (String.ofList (Text.withReturns content.toList)) rfl).1
  rw [String.toList_ofList, hexported, Marked.items, Item.ofText, hassignments] at hreturns
  refine ⟨_, by rw [Environment.overlayFile, h], ?_⟩
  rw [Environment.overlayFile, hother]
  dsimp only
  rw [hreturns, henv]
  rfl

/-- A file with a backslash and a blank at the ends of lines, and one line that ends in a carriage
return as it is. -/
def unquotedText : String :=
  "#\\\nexport A=1 \nfi\nexport B=$A\\\nexport C=2$B #x\r\nD=5"

theorem overlayFile_unquotedText :
    let returns := String.ofList (Text.withReturns unquotedText.toList)
    let env := ((Environment.empty.set "A" "1").set "B" "1").set "C" "21"
    IsUnquoted unquotedText.toList ∧
      (Environment.empty.overlayFile ⟨[]⟩ (profile unquotedText) ".bashrc").1 = .ok env ∧
      (Environment.empty.overlayFile ⟨[]⟩ (profile returns) ".bashrc").1 = .ok env := by
  intro returns env
  have hunquoted : IsUnquoted unquotedText.toList := by simp [IsUnquoted, unquotedText]
  have hresult : (Environment.empty.overlayFile ⟨[]⟩ (profile unquotedText) ".bashrc").1 =
      .ok env := by
    rw [overlayFile_profile]
    cbv
  obtain ⟨same, hplain, hreturns⟩ := overlayFile_withReturns .empty ⟨[]⟩ (profile unquotedText)
    (profile returns) ".bashrc" unquotedText hunquoted (readText_profile _) (readText_profile _)
  obtain rfl : env = same := Except.ok.inj (hresult.symm.trans hplain)
  exact ⟨hunquoted, hresult, hreturns⟩

end SiteBoot.EnvFile
