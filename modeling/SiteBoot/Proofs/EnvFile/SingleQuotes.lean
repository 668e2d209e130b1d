import SiteBoot.Proofs.EnvFile.Comment
/-!
# Text in single quotes

The first look and the reading of values take everything up to the closing quote as it is, but the
reader of logical lines passes over the character after a backslash. It misses the closing quote
where an odd number of backslashes comes before it; every other text is the value of its name.
-/

namespace SiteBoot.EnvFile

structure StrongText where
  chars : List Char
  unquoted : '\'' ∉ chars
  unmarked : marker ∉ chars

/-- A line that exports a text in single quotes. -/
structure StrongLine where
  key : Key
  text : StrongText

/-- The number of backslashes that a text ends in. -/
def backslashesAtEnd (chars : List Char) : Nat := (chars.reverse.takeWhile (· = '\\')).length

/-- The reader of logical lines sees the quote that closes the text. -/
def StrongText.Closes (text : StrongText) : Prop := Even (backslashesAtEnd text.chars)

instance (text : StrongText) : Decidable text.Closes :=
  inferInstanceAs (Decidable (Even _))

namespace StrongLine

def spelled (line : StrongLine) : List Char := line.key.opening ++ '\'' :: line.text.chars ++ ['\'']

def assignment (line : StrongLine) : Assignment := ⟨line.key.chars, line.text.chars⟩

def assign (env : Environment) (line : StrongLine) : Environment :=
  env.set (String.ofList line.key.chars) (String.ofList line.text.chars)

end StrongLine

/-! ### The first look -/

namespace Marked

lemma rest_strong {chars : List Char} (h : '\'' ∉ chars) (previous : Char) (text : List Char) :
    ∃ next, rest .single false previous (chars ++ text) =
      (rest .single false next text).prepend chars := by
  induction chars generalizing previous with
  | nil => exact ⟨previous, rfl⟩
  | cons c chars ih =>
    rw [List.mem_cons, not_or] at h
    have hfirst : ∃ next, rest .single false previous (c :: (chars ++ text)) =
        (rest .single false next (chars ++ text)).prepend [c] := by
      by_cases hc : c = '\n'
      · -- the next line begins in the quotes, so that it exports nothing
        refine ⟨' ', ?_⟩
        rw [hc, rest_newline, startingIn_of_ne_bare (by decide)]
      · have hnext : Quote.single.next c = .single := by simp [Quote.next, Ne.symm h.1]
        refine ⟨c, ?_⟩
        rw [rest_cons .single hc rfl, hnext]
        simp
    obtain ⟨middle, hfirst⟩ := hfirst
    obtain ⟨next, hrest⟩ := ih h.2 middle
    refine ⟨next, ?_⟩
    rw [List.cons_append, hfirst, hrest, prepend_prepend]
    rfl

end Marked

namespace StrongLine

variable (line : StrongLine)

lemma ofText_spelled (text : List Char) :
    ∃ next, Marked.ofText (line.spelled ++ text) =
      let rest := Marked.rest .bare false next text
      ⟨line.spelled ++ rest.text, line.key.chars :: rest.exported⟩ := by
  have hsplit : line.spelled ++ text =
      line.key.opening ++
        (Quote.single.border ++ (line.text.chars ++ (Quote.single.border ++ text))) := by
    simp [spelled, Quote.border]
  have hstart : Marked.ofText (line.spelled ++ text) =
      Marked.startingIn .bare (line.spelled ++ text) := rfl
  obtain ⟨_, hopen⟩ := Marked.rest_border .single (line.key.opening.getLastD ' ')
    (line.text.chars ++ (Quote.single.border ++ text))
  obtain ⟨_, hchars⟩ := Marked.rest_strong line.text.unquoted _ (Quote.single.border ++ text)
  obtain ⟨next, hclose⟩ := Marked.rest_border_close .single _ text
  refine ⟨next, ?_⟩
  rw [hstart, Marked.startingIn_bare, hsplit, line.key.exportsFirst_opening,
    Marked.rest_plain line.key.isPlain_opening, hopen, hchars, hclose]
  simp [Marked.prepend, spelled, Quote.border]

lemma ofText_spelled_newline (text : List Char) :
    Marked.ofText (line.spelled ++ '\n' :: text) =
      ⟨line.spelled ++ '\n' :: (Marked.ofText text).text,
        line.key.chars :: (Marked.ofText text).exported⟩ := by
  obtain ⟨next, hline⟩ := line.ofText_spelled ('\n' :: text)
  rw [hline, Marked.rest_newline]
  rfl

lemma ofText_spelled_end : Marked.ofText line.spelled = ⟨line.spelled, [line.key.chars]⟩ := by
  obtain ⟨next, hline⟩ := line.ofText_spelled []
  rw [List.append_nil] at hline
  rw [hline]
  simp [Marked.rest, Text.lines]

end StrongLine

/-! ### Logical lines -/

/-- Where the reader stands in single quotes after a number of backslashes. -/
def strongAfter (backslashes : Nat) : ReadState :=
  if Even backslashes then .strong else .strongEscape

lemma leads_strong {chars : List Char} (h : '\'' ∉ chars) :
    LogicalLine.Leads .strong chars (strongAfter (backslashesAtEnd chars)) := by
  induction chars using List.reverseRecOn with
  | nil => exact .nil _
  | append_singleton chars c ih =>
    rw [List.mem_append, List.mem_singleton, not_or] at h
    have hstep : (strongAfter (backslashesAtEnd chars)).next? c =
        some (strongAfter (backslashesAtEnd (chars ++ [c]))) := by
      rw [strongAfter, strongAfter, backslashesAtEnd, backslashesAtEnd, List.reverse_append,
        List.reverse_singleton, List.singleton_append]
      by_cases hc : c = '\\'
      · -- one more backslash turns an even number into an odd one, and back
        rw [hc, List.takeWhile_cons_of_pos (by decide), List.length_cons]
        by_cases heven : Even (chars.reverse.takeWhile (· = '\\')).length
        · rw [if_pos heven, if_neg (by simpa [Nat.even_add_one] using heven)]
          rfl
        · rw [if_neg heven, if_pos (by simpa [Nat.even_add_one] using heven)]
          rfl
      · rw [List.takeWhile_cons_of_neg (by simpa using hc), List.length_nil, if_pos Even.zero]
        split
        · simp [ReadState.next?, hc, Ne.symm h.2]
        · rfl
    refine (ih h.1).append (.cons hstep ?_ (.nil _))
    -- a newline leaves the reader in a logical line
    intro _
    rw [strongAfter]
    split
    · decide
    · decide

lemma StrongText.Closes.strongAfter_eq {text : StrongText} (h : text.Closes) :
    strongAfter (backslashesAtEnd text.chars) = .strong := if_pos h

namespace StrongLine

variable (line : StrongLine)

lemma rest_spelled (text : List Char) :
    LogicalLine.ofText (line.spelled ++ text) =
      LogicalLine.rest (line.key.opening ++ ['\''] ++ line.text.chars)
        (strongAfter (backslashesAtEnd line.text.chars)) ('\'' :: text) := by
  have hsplit : line.spelled ++ text =
      line.key.opening ++ ['\''] ++ (line.text.chars ++ '\'' :: text) := by
    simp [spelled]
  have hscan : scanLine .complete (line.key.opening ++ ['\'']) =
      (line.key.opening ++ ['\''], some .strong) :=
    scanLine_open line.key.isPlain_opening rfl rfl (.inl rfl)
  have hnewline : '\n' ∉ line.key.opening ++ ['\''] := by
    rw [List.mem_append, not_or]
    exact ⟨line.key.newline_not_mem_opening, by decide⟩
  have hstart : LogicalLine.ofText (line.spelled ++ text) =
      LogicalLine.rest [] .complete (line.spelled ++ text) := rfl
  rw [hstart, hsplit, LogicalLine.rest_append hscan hnewline
      (List.append_ne_nil_of_right_ne_nil _ (List.cons_ne_nil '\'' text)), List.nil_append,
    (leads_strong line.text.unquoted).rest_eq (line.key.isBegun_opening _)
      (List.cons_ne_nil '\'' text)]

variable {line}

lemma isBegun_text (line : StrongLine) :
    LogicalLine.IsBegun (line.key.opening ++ ['\''] ++ line.text.chars) :=
  (line.key.isBegun_opening _).append _

lemma logicalLines_newline (h : line.text.Closes) (text : List Char) :
    LogicalLine.ofText (line.spelled ++ '\n' :: text) =
      .whole line.spelled :: LogicalLine.ofText text := by
  have hquote : '\n' ∉ ['\''] := by decide
  have hlines : Text.lines ('\'' :: '\n' :: text) = ['\'', '\n'] :: Text.lines text :=
    Text.lines_append_newline hquote text
  have hkept : restKept? ['\n'] = some [] := rfl
  rw [line.rest_spelled, h.strongAfter_eq, LogicalLine.rest, hlines,
    LogicalLine.ofLines_last line.isBegun_text rfl (by decide) hkept]
  simp [spelled, LogicalLine.ofText]

lemma logicalLines_end (h : line.text.Closes) :
    LogicalLine.ofText line.spelled = [.whole line.spelled] := by
  have hline := line.rest_spelled []
  have hlines : Text.lines ['\''] = [['\'']] := rfl
  have hkept : restKept? [] = some [] := rfl
  rw [List.append_nil, h.strongAfter_eq, LogicalLine.rest, hlines,
    LogicalLine.ofLines_last line.isBegun_text rfl (by decide) hkept] at hline
  rw [hline]
  simp [spelled, LogicalLine.ofLines]

/-- A quote that is missed is never made up for at the end of a file. -/
lemma logicalLines_unclosed (h : ¬ line.text.Closes) (ended : Bool) :
    ∃ part, LogicalLine.ofText (joinLines ended [line.spelled]) = [.unfinished part] := by
  have hmissed : strongAfter (backslashesAtEnd line.text.chars) = .strongEscape := if_neg h
  have hcomment := line.isBegun_text.not_comment
  cases ended with
  | false =>
    have hline := line.rest_spelled []
    have hlines : Text.lines ['\''] = [['\'']] := rfl
    rw [List.append_nil, hmissed, LogicalLine.rest, hlines, LogicalLine.ofLines,
      if_neg (hcomment _)] at hline
    exact ⟨_, hline⟩
  | true =>
    have hline := line.rest_spelled ['\n']
    have hlines : Text.lines ['\'', '\n'] = [['\'', '\n']] := rfl
    rw [hmissed, LogicalLine.rest, hlines, LogicalLine.ofLines, if_neg (hcomment _)] at hline
    exact ⟨_, hline⟩

end StrongLine

/-! ### Values -/

lemma readValue?_strong (lookup : List Char → List Char) {chars : List Char} (h : '\'' ∉ chars) :
    readValue? lookup .strong (chars ++ ['\'']) = some chars := by
  induction chars with
  | nil => rfl
  | cons c chars ih =>
    rw [List.mem_cons, not_or] at h
    rw [List.cons_append, readValue?, if_neg (Ne.symm h.1), ih h.2]
    rfl

lemma expand_of_unmarked (value? : List Char → Option (List Char)) {chars : List Char}
    (h : marker ∉ chars) : expand value? chars = chars := by
  have hpieces := piecesFrom_literal h []
  rw [List.append_nil, piecesFrom, List.append_nil] at hpieces
  rw [expand, pieces, hpieces, List.flatMap_map]
  exact List.flatMap_singleton' chars

namespace StrongLine

lemma ofLine?_spelled (line : StrongLine) (lookup : List Char → List Char) :
    Assignment.ofLine? lookup line.spelled = .ok (some line.assignment) := by
  have hends : EndsVisibly line.spelled := ⟨_, '\'', rfl, by decide⟩
  obtain ⟨kept, hkept, hright⟩ := hends.trimRight []
  obtain rfl := List.prefix_nil.mp hkept
  rw [List.append_nil] at hright
  have hleft : Text.trimLeft line.spelled = line.spelled := rfl
  have hbegun : (line.spelled.isEmpty || line.spelled.head? = some '#') = false := rfl
  have htarget : takeTarget? line.spelled =
      some (line.key.chars, '\'' :: (line.text.chars ++ ['\''])) := by
    rw [spelled, List.append_assoc]
    exact line.key.takeTarget?_opening _
  have htext : Text.trimLeft ('\'' :: (line.text.chars ++ ['\''])) =
      '\'' :: (line.text.chars ++ ['\'']) := by
    rw [Text.trimLeft, List.dropWhile_cons_of_neg (by decide)]
  have hvalue : readValue? lookup (.plain false) ('\'' :: (line.text.chars ++ ['\''])) =
      some line.text.chars := readValue?_strong lookup line.text.unquoted
  rw [Assignment.ofLine?, hright, hleft]
  simp only [hbegun, Bool.false_eq_true, if_false, htarget, htext, hvalue]
  rfl

lemma source_eq (process : ProcessEnvironment) (env : Environment) (lines : List StrongLine) :
    source process env (lines.map assignment) = lines.foldl assign env := by
  rw [source, List.foldl_map]
  congr 1
  funext env line
  rw [Assignment.valueIn, assignment, expand_of_unmarked _ line.text.unmarked]
  rfl

end StrongLine

/-! ### Files -/

def strongFile (ended : Bool) (lines : List StrongLine) : List Char :=
  joinLines ended (lines.map StrongLine.spelled)

lemma ofText_strongFile (ended : Bool) (lines : List StrongLine) :
    Marked.ofText (strongFile ended lines) =
      ⟨strongFile ended lines, lines.map fun line => line.key.chars⟩ :=
  Marked.ofText_joinLines StrongLine.ofText_spelled_newline StrongLine.ofText_spelled_end
    ended lines

lemma exported_strongFile (ended : Bool) {lines : List StrongLine} :
    ∀ assignment ∈ lines.map StrongLine.assignment, assignment.key ∈
      (Marked.ofText (String.ofList (strongFile ended lines)).toList).exported := by
  rw [String.toList_ofList, ofText_strongFile, List.forall_mem_map]
  exact fun line hline => List.mem_map_of_mem hline

/-- A file of texts in single quotes sets its names one after the other, if the reader sees the
quotes that close them. -/
theorem overlayFile_singleQuoted (env : Environment) (process : ProcessEnvironment)
    (files : FileTree) (path : RawText) (ended : Bool) (lines : List StrongLine)
    (closes : ∀ line ∈ lines, line.text.Closes)
    (h : files.readText path = .ok (String.ofList (strongFile ended lines))) :
    env.overlayFile process files path =
      (.ok (lines.foldl StrongLine.assign env), [.environmentFileApplied path lines.length]) := by
  have hmarked := ofText_strongFile ended lines
  have hlines : LogicalLine.ofText (strongFile ended lines) =
      lines.map fun line => .whole line.spelled :=
    LogicalLine.ofText_joinLines
      (fun line hline => StrongLine.logicalLines_newline (closes line hline))
      (fun line hline => StrongLine.logicalLines_end (closes line hline)) ended
  have hitems : (Marked.ofText (String.ofList (strongFile ended lines)).toList).items process =
      (lines.map StrongLine.assignment).map .assignment := by
    rw [String.toList_ofList, hmarked, Marked.items, Item.ofText, hlines,
      Item.ofLines_whole StrongLine.ofLine?_spelled, List.map_map]
    rfl
  obtain ⟨henv, hcount, hremarks⟩ :=
    overlayText_of_exported env process hitems (exported_strongFile ended)
  rw [StrongLine.source_eq] at henv
  rw [Environment.overlayFile, h]
  dsimp only
  rw [henv, hcount, hremarks, List.length_map]
  rfl

/-- A text that the reader takes to go on is lost where the file ends. -/
theorem overlayFile_unclosed (env : Environment) (process : ProcessEnvironment)
    (files : FileTree) (path : RawText) (ended : Bool) (lines : List StrongLine)
    (last : StrongLine) (closes : ∀ line ∈ lines, line.text.Closes)
    (unclosed : ¬ last.text.Closes)
    (h : files.readText path = .ok (String.ofList (strongFile ended (lines ++ [last])))) :
    (env.overlayFile process files path).1 = .ok (lines.foldl StrongLine.assign env) := by
  obtain ⟨part, hpart⟩ := StrongLine.logicalLines_unclosed unclosed ended
  have hmarked := ofText_strongFile ended (lines ++ [last])
  have hlines : LogicalLine.ofText (strongFile ended (lines ++ [last])) =
      (lines.map fun line => .whole line.spelled) ++ [.unfinished part] := by
    rw [← hpart]
    exact LogicalLine.ofText_joinLines_concat
      (fun line hline => StrongLine.logicalLines_newline (closes line hline)) ended last
  have hgiven : assignments ((Marked.ofText
      (String.ofList (strongFile ended (lines ++ [last]))).toList).items process) =
      lines.map StrongLine.assignment := by
    rw [String.toList_ofList, hmarked, Marked.items, Item.ofText, hlines]
    obtain ⟨since, hitems⟩ := Item.ofLines_append _ [] (lines.map fun line => .whole line.spelled)
    rw [hitems, Item.ofLines_whole StrongLine.ofLine?_spelled, assignments, List.filterMap_append,
      List.filterMap_map]
    exact (List.append_nil _).trans (congrFun List.filterMap_eq_map' lines)
  have hexported : ∀ assignment ∈ lines.map StrongLine.assignment, assignment.key ∈
      (Marked.ofText (String.ofList (strongFile ended (lines ++ [last]))).toList).exported :=
    fun assignment hmem => exported_strongFile ended assignment
      (List.map_subset _ (List.subset_append_left lines [last]) hmem)
  have henv := (overlayText_env_of_exported env process hgiven hexported).1
  rw [StrongLine.source_eq] at henv
  rw [Environment.overlayFile, h]
  exact congrArg Except.ok henv

/-- The line `export A='C:\dir'`, with more backslashes at the end of the text. -/
def folderLine (backslashes : Nat) : StrongLine where
  key := (notedLine 0).key
  text :=
    { chars := "C:\\dir".toList ++ List.replicate backslashes '\\'
      unquoted := by simp
      unmarked := by simp [marker] }

/-- A line that exports `B`, with a text of two lines in which much has a meaning elsewhere. -/
def noteLine : StrongLine where
  key := laterLine.key
  text := ⟨"\\ # \"$A\nexport C=$A".toList, by decide, by decide⟩

theorem overlayFile_folderLine :
    (∀ line ∈ [folderLine 2, noteLine], line.text.Closes) ∧
      Environment.empty.overlayFile ⟨[]⟩
          (profile (String.ofList (strongFile true [folderLine 2, noteLine]))) ".bashrc" =
        (.ok ((Environment.empty.set "A" "C:\\dir\\\\").set "B" "\\ # \"$A\nexport C=$A"),
          [.environmentFileApplied ".bashrc" 2]) := by
  have hcloses : ∀ line ∈ [folderLine 2, noteLine], line.text.Closes := by decide
  refine ⟨hcloses, (overlayFile_singleQuoted .empty ⟨[]⟩ _ ".bashrc" true
    [folderLine 2, noteLine] hcloses (readText_profile _)).trans ?_⟩
  cbv

/-- One backslash at the end hides the quote, and the line is lost. -/
theorem backslash_hides_quote :
    (Environment.empty.overlayFile ⟨[]⟩
        (profile (String.ofList (strongFile true [folderLine 1]))) ".bashrc").1 = .ok .empty ∧
      [folderLine 1].foldl StrongLine.assign .empty = Environment.empty.set "A" "C:\\dir\\" := by
  rw [overlayFile_profile]
  constructor
  · cbv
  · cbv

end SiteBoot.EnvFile
