import SiteBoot.Proofs.EnvFile.Template
/-!
# Files of templates

An environment file in which every line exports a double-quoted template means what a shell takes
it to mean: its lines set their names one after the other, each to the value of its template in the
environment reached so far.
-/

namespace SiteBoot

/-- The value of a name for a template: that of the environment, else that of the process. -/
def Environment.valueIn (env : Environment) (process : ProcessEnvironment) (name : String) :
    Option String :=
  (env.get? name).orElse fun _ => process.text? name

namespace EnvFile

structure Key where
  chars : List Char
  isKey : ∃ first rest, chars = first :: rest ∧ (first.isAlpha || first = '_') ∧
    ∀ c ∈ rest, isKeyChar c

/-- The line that exports a name, up to the equals sign. -/
def Key.opening (key : Key) : List Char :=
  ['e', 'x', 'p', 'o', 'r', 't', ' '] ++ key.chars ++ ['=']

/-- A line that exports a template. -/
structure TemplateLine where
  key : Key
  template : Template

/-- The lines of a file, the last with or without a newline. -/
def joinLines (ended : Bool) : List (List Char) → List Char
  | [] => []
  | [line] => if ended then line ++ ['\n'] else line
  | line :: next :: rest => line ++ '\n' :: joinLines ended (next :: rest)

namespace TemplateLine

def opening (line : TemplateLine) : List Char :=
  ['e', 'x', 'p', 'o', 'r', 't', ' '] ++ line.key.chars ++ ['=']

def spelled (line : TemplateLine) : List Char :=
  line.opening ++ '"' :: line.template.spelled ++ ['"']

def assign (process : ProcessEnvironment) (env : Environment) (line : TemplateLine) :
    Environment :=
  env.set (String.ofList line.key.chars) (line.template.value (env.valueIn process))

end TemplateLine

/-! ### The characters of a line before its template -/

lemma toNat_of_isKeyChar {c : Char} (h : isKeyChar c) : 33 ≤ c.toNat ∧ c.toNat < 128 := by
  delta isKeyChar isNameChar Char.isAlphanum Char.isAlpha Char.isUpper Char.isLower Char.isDigit
    at h
  simp only [Bool.or_eq_true, Bool.and_eq_true, decide_eq_true_eq] at h
  simp only [Char.toNat, UInt32.le_iff_toNat_le] at *
  rcases h with (((⟨h, h'⟩ | ⟨h, h'⟩) | ⟨h, h'⟩) | rfl) | rfl
  · exact ⟨Nat.le_trans (by decide) h, Nat.lt_of_le_of_lt h' (by decide)⟩
  · exact ⟨Nat.le_trans (by decide) h, Nat.lt_of_le_of_lt h' (by decide)⟩
  · exact ⟨Nat.le_trans (by decide) h, Nat.lt_of_le_of_lt h' (by decide)⟩
  · decide
  · decide

lemma not_isBlank_of_isKeyChar {c : Char} (h : isKeyChar c) : Text.isBlank c = false := by
  have hbounds := toNat_of_isKeyChar h
  simp only [Text.isBlank, Bool.or_eq_false_iff, Bool.and_eq_false_iff, decide_eq_false_iff_not,
    beq_eq_false_iff_ne]
  omega

lemma isPlain_of_isKeyChar {c : Char} (h : isKeyChar c) : IsPlain c := by
  intro hmem
  simp only [List.mem_cons, List.not_mem_nil, or_false] at hmem
  rcases hmem with rfl | rfl | rfl | rfl | rfl | rfl <;> exact absurd h (by decide)

namespace Key

variable (key : Key)

lemma isKeyChar_of_mem : ∀ c ∈ key.chars, isKeyChar c := by
  obtain ⟨chars, first, rest, rfl, hfirst, hrest⟩ := key
  rw [List.forall_mem_cons]
  refine ⟨?_, hrest⟩
  rw [Bool.or_eq_true, decide_eq_true_eq] at hfirst
  rcases hfirst with halpha | rfl
  · simp [isKeyChar, isNameChar, Char.isAlphanum, halpha]
  · decide

lemma chars_ne_nil : key.chars ≠ [] := by
  obtain ⟨chars, first, rest, rfl, -⟩ := key
  exact List.cons_ne_nil first rest

lemma trimLeft_append (more : List Char) :
    Text.trimLeft (key.chars ++ more) = key.chars ++ more := by
  have hmem := key.isKeyChar_of_mem
  obtain ⟨first, rest, hchars⟩ := List.exists_cons_of_ne_nil key.chars_ne_nil
  rw [hchars] at hmem ⊢
  have hblank := not_isBlank_of_isKeyChar (hmem first List.mem_cons_self)
  rw [Text.trimLeft, List.cons_append, List.dropWhile_cons_of_neg (by simp [hblank])]

lemma takeWhile_append (more : List Char) :
    (key.chars ++ '=' :: more).takeWhile isKeyChar = key.chars := by
  rw [List.takeWhile_append_of_pos key.isKeyChar_of_mem, List.takeWhile_cons_of_neg (by decide),
    List.append_nil]

lemma takeKey?_append (more : List Char) :
    takeKey? (key.chars ++ '=' :: more) = some (key.chars, '=' :: more) := by
  have hdrop : (key.chars ++ '=' :: more).dropWhile isKeyChar = '=' :: more := by
    rw [List.dropWhile_append_of_pos key.isKeyChar_of_mem, List.dropWhile_cons_of_neg (by decide)]
  obtain ⟨first, rest, hchars, hfirst, -⟩ := key.isKey
  have htake : takeKey? (key.chars ++ '=' :: more) =
      some ((key.chars ++ '=' :: more).span isKeyChar) := by
    rw [hchars, List.cons_append, takeKey?, if_pos hfirst]
  rw [htake, List.span_eq_takeWhile_dropWhile, key.takeWhile_append, hdrop]

/-! ### The start of a line -/

lemma isPlain_opening : ∀ c ∈ key.opening, IsPlain c := by
  rw [opening, List.forall_mem_append, List.forall_mem_append]
  refine ⟨⟨by simp [IsPlain], ?_⟩, by simp [IsPlain]⟩
  exact fun c hc => isPlain_of_isKeyChar (key.isKeyChar_of_mem c hc)

lemma newline_not_mem_opening : '\n' ∉ key.opening :=
  fun hmem => absurd (key.isPlain_opening _ hmem) (by decide)

lemma exportedName?_opening (more : List Char) :
    exportedName? (key.opening ++ more) = some key.chars := by
  have hstart : key.opening ++ more =
      ['e', 'x', 'p', 'o', 'r', 't', ' '] ++ (key.chars ++ '=' :: more) := by
    simp [opening]
  have htrim : Text.trimLeft (key.opening ++ more) = key.opening ++ more := by
    rw [hstart, Text.trimLeft]
    rfl
  have hexport : afterExport? (key.opening ++ more) = some (key.chars ++ '=' :: more) := by
    rw [hstart]
    rfl
  rw [exportedName?, htrim, hexport]
  dsimp only
  rw [key.trimLeft_append, key.takeWhile_append, if_neg (by simp [key.chars_ne_nil])]

lemma exportsFirst_opening (text : List Char) :
    Marked.exportsFirst (key.opening ++ text) = [key.chars] := by
  obtain ⟨first, others, hlines⟩ : ∃ first others,
      Text.lines (key.opening ++ text) = (key.opening ++ first) :: others := by
    by_cases h : text = []
    · refine ⟨[], [], ?_⟩
      rw [h, List.append_nil]
      exact Text.lines_eq_singleton key.newline_not_mem_opening (List.cons_ne_nil _ _)
    · obtain ⟨first, others, -, hlines⟩ := Text.lines_append key.newline_not_mem_opening h
      exact ⟨first, others, hlines⟩
  rw [Marked.exportsFirst, hlines]
  dsimp only
  rw [key.exportedName?_opening]
  rfl

lemma isBegun_opening (more : List Char) : LogicalLine.IsBegun (key.opening ++ more) :=
  ⟨'e', rfl, by decide⟩

lemma takeTarget?_opening (more : List Char) :
    takeTarget? (key.opening ++ more) = some (key.chars, more) := by
  have hstart : key.opening ++ more =
      ['e', 'x', 'p', 'o', 'r', 't'] ++ ' ' :: (key.chars ++ '=' :: more) := by
    simp [opening]
  have hword : takeKey? (key.opening ++ more) =
      some (['e', 'x', 'p', 'o', 'r', 't'], ' ' :: (key.chars ++ '=' :: more)) := by
    rw [hstart]
    rfl
  have htrim : Text.trimLeft (' ' :: (key.chars ++ '=' :: more)) = key.chars ++ '=' :: more := by
    rw [Text.trimLeft, List.dropWhile_cons_of_pos (by decide)]
    exact key.trimLeft_append _
  have hequals : afterEquals? (key.chars ++ '=' :: more) = none := by
    obtain ⟨first, rest, hchars, -⟩ := key.isKey
    have hfirst := key.isKeyChar_of_mem first (by rw [hchars]; exact List.mem_cons_self)
    rw [hchars, List.cons_append, afterEquals?]
    intro rest' heq
    obtain ⟨rfl, -⟩ := List.cons.inj heq
    exact absurd hfirst (by decide)
  have hthen : afterEquals? ('=' :: more) = some more := rfl
  have hagain : Text.trimLeft ('=' :: more) = '=' :: more := by
    rw [Text.trimLeft, List.dropWhile_cons_of_neg (by decide)]
  simp [takeTarget?, hword, htrim, hequals, key.takeKey?_append, hagain, hthen]

end Key

/-! ### One line -/

namespace Template

def tokens (template : Template) : List Token := template.segments.flatMap Segment.tokens

def raw (template : Template) : List Char := template.tokens.map Token.raw

lemma spelled_eq (template : Template) :
    template.tokens.flatMap Token.spelled = template.spelled :=
  spelled_flatMap template.segments

lemma expand_raw (value? : String → Option String) (template : Template) :
    String.ofList (expand (charValue? value?) template.raw) = template.value value? := by
  rw [raw, tokens, raw_flatMap, expand_segments value? template.separated]
  rfl

end Template

namespace TemplateLine

variable (line : TemplateLine)

def marked : List Char :=
  line.opening ++ '"' :: line.template.tokens.flatMap Token.marked ++ ['"']

lemma isPlain_opening : ∀ c ∈ line.opening, IsPlain c := line.key.isPlain_opening

lemma newline_not_mem_opening : '\n' ∉ line.opening ++ ['"'] := by
  rw [List.mem_append, not_or]
  exact ⟨line.key.newline_not_mem_opening, by decide⟩

lemma exportsFirst_spelled (text : List Char) :
    Marked.exportsFirst (line.spelled ++ text) = [line.key.chars] := by
  have hsplit : line.spelled ++ text =
      line.key.opening ++ ('"' :: (line.template.spelled ++ '"' :: text)) := by
    simp [spelled, opening, Key.opening]
  rw [hsplit, line.key.exportsFirst_opening]

lemma ofText_spelled (text : List Char) :
    Marked.ofText (line.spelled ++ text) =
      ⟨line.opening ++ '"' :: line.template.tokens.flatMap Token.marked ++
          (Marked.inDouble ('"' :: text)).text,
        line.key.chars :: (Marked.inDouble ('"' :: text)).exported⟩ := by
  have hsplit : line.spelled ++ text =
      line.opening ++ '"' :: (line.template.tokens.flatMap Token.spelled ++ '"' :: text) := by
    simp [spelled, line.template.spelled_eq]
  have hrest : Marked.rest .bare false ' ' (line.spelled ++ text) =
      (Marked.inDouble ('"' :: text)).prepend
        (line.opening ++ ['"'] ++ line.template.tokens.flatMap Token.marked) := by
    rw [hsplit, Marked.rest_plain line.isPlain_opening, Marked.rest_open, inDouble_tokens,
      Marked.prepend_prepend, Marked.prepend_prepend, List.append_assoc]
  have hstart : Marked.ofText (line.spelled ++ text) =
      Marked.startingIn .bare (line.spelled ++ text) := rfl
  rw [hstart, Marked.startingIn_bare, line.exportsFirst_spelled, hrest]
  simp [Marked.prepend]

lemma ofText_spelled_newline (text : List Char) :
    Marked.ofText (line.spelled ++ '\n' :: text) =
      ⟨line.marked ++ '\n' :: (Marked.ofText text).text,
        line.key.chars :: (Marked.ofText text).exported⟩ := by
  rw [line.ofText_spelled, Marked.inDouble_close_newline]
  simp [Marked.prepend, marked]

lemma ofText_spelled_end : Marked.ofText line.spelled = ⟨line.marked, [line.key.chars]⟩ := by
  have h := line.ofText_spelled []
  rw [List.append_nil, Marked.inDouble_close] at h
  rw [h]
  simp [marked]

lemma isBegun (more : List Char) : LogicalLine.IsBegun (line.opening ++ more) :=
  line.key.isBegun_opening more

lemma rest_marked (text : List Char) :
    LogicalLine.ofText (line.marked ++ text) =
      LogicalLine.rest (line.opening ++ (['"'] ++ line.template.tokens.flatMap Token.marked)) .weak
        ('"' :: text) := by
  have hsplit : line.marked ++ text =
      line.opening ++ ['"'] ++ (line.template.tokens.flatMap Token.marked ++ '"' :: text) := by
    simp [marked]
  have hscan : scanLine .complete (line.opening ++ ['"']) = (line.opening ++ ['"'], some .weak) :=
    scanLine_open line.isPlain_opening rfl rfl (.inl rfl)
  have hstart : LogicalLine.ofText (line.marked ++ text) =
      LogicalLine.rest [] .complete (line.marked ++ text) := rfl
  rw [hstart, hsplit, LogicalLine.rest_append hscan line.newline_not_mem_opening
      (List.append_ne_nil_of_right_ne_nil _ (List.cons_ne_nil '"' text)), List.nil_append,
    rest_weak_tokens (line.isBegun _) _ (List.cons_ne_nil '"' text), List.append_assoc]

lemma logicalLines_newline (text : List Char) :
    LogicalLine.ofText (line.marked ++ '\n' :: text) =
      .whole line.marked :: LogicalLine.ofText text := by
  rw [line.rest_marked, LogicalLine.rest_close_newline (line.isBegun _)]
  simp [marked]

lemma logicalLines_end : LogicalLine.ofText line.marked = [.whole line.marked] := by
  have h := line.rest_marked []
  rw [List.append_nil] at h
  rw [h, LogicalLine.rest_close (line.isBegun _)]
  simp [marked]

lemma takeTarget?_opening (more : List Char) :
    takeTarget? (line.opening ++ more) = some (line.key.chars, more) :=
  line.key.takeTarget?_opening more

lemma ofLine?_marked (lookup : List Char → List Char) :
    Assignment.ofLine? lookup line.marked =
      .ok (some ⟨line.key.chars, line.template.raw⟩) := by
  have htrim : Text.trimLeft (Text.trimRight line.marked) = line.marked := by
    have hright : Text.trimRight line.marked = line.marked := by
      rw [marked, Text.trimRight, List.reverse_append, List.reverse_singleton,
        List.singleton_append, List.dropWhile_cons_of_neg (by decide), List.reverse_cons,
        List.reverse_reverse]
    rw [hright]
    rfl
  have hmarked : line.marked =
      line.opening ++ '"' :: (line.template.tokens.flatMap Token.marked ++ ['"']) := by
    simp [marked]
  have hbody : (line.marked.isEmpty || line.marked.head? = some '#') = false := by
    rw [hmarked]
    rfl
  have hspelled : Text.trimLeft ('"' :: (line.template.tokens.flatMap Token.marked ++ ['"'])) =
      '"' :: (line.template.tokens.flatMap Token.marked ++ ['"']) := by
    rw [Text.trimLeft, List.dropWhile_cons_of_neg (by decide)]
  have hvalue := readValue?_tokens lookup line.template.tokens
  rw [List.cons_append] at hvalue
  rw [Assignment.ofLine?, htrim]
  simp only [hbody, Bool.false_eq_true, if_false]
  rw [hmarked, line.takeTarget?_opening]
  simp only [hspelled, hvalue]
  rfl

end TemplateLine

/-! ### A file of lines -/

lemma Marked.ofText_joinLines {ι : Type} {spelled marked key : ι → List Char}
    (newline : ∀ line text, ofText (spelled line ++ '\n' :: text) =
      ⟨marked line ++ '\n' :: (ofText text).text, key line :: (ofText text).exported⟩)
    (last : ∀ line, ofText (spelled line) = ⟨marked line, [key line]⟩) (ended : Bool)
    (lines : List ι) :
    ofText (joinLines ended (lines.map spelled)) =
      ⟨joinLines ended (lines.map marked), lines.map key⟩ := by
  induction lines with
  | nil => rfl
  | cons line lines ih =>
    rw [List.map_cons, List.map_cons, List.map_cons]
    cases lines with
    | nil =>
      -- only the last line may lack its newline
      cases ended with
      | false => exact last line
      | true => exact newline line []
    | cons next rest =>
      rw [List.map_cons, joinLines, ← List.map_cons, newline, ih]
      rfl

lemma marked_joinLines (ended : Bool) (lines : List TemplateLine) :
    Marked.ofText (joinLines ended (lines.map TemplateLine.spelled)) =
      ⟨joinLines ended (lines.map TemplateLine.marked), lines.map fun line => line.key.chars⟩ :=
  Marked.ofText_joinLines TemplateLine.ofText_spelled_newline TemplateLine.ofText_spelled_end
    ended lines

lemma LogicalLine.ofText_joinLines {ι : Type} {spelled : ι → List Char} {lines : List ι}
    (newline : ∀ line ∈ lines, ∀ text,
      ofText (spelled line ++ '\n' :: text) = .whole (spelled line) :: ofText text)
    (last : ∀ line ∈ lines, ofText (spelled line) = [.whole (spelled line)]) (ended : Bool) :
    ofText (joinLines ended (lines.map spelled)) = lines.map fun line => .whole (spelled line) := by
  induction lines with
  | nil => rfl
  | cons line lines ih =>
    obtain ⟨hnewline, hnewlines⟩ := List.forall_mem_cons.mp newline
    obtain ⟨hlast, hlasts⟩ := List.forall_mem_cons.mp last
    rw [List.map_cons, List.map_cons]
    cases lines with
    | nil =>
      cases ended with
      | false => exact hlast
      | true => exact hnewline []
    | cons next rest => rw [List.map_cons, joinLines, ← List.map_cons, hnewline, ih hnewlines hlasts]

lemma LogicalLine.ofText_joinLines_concat {ι : Type} {spelled : ι → List Char} {lines : List ι}
    (newline : ∀ line ∈ lines, ∀ text,
      ofText (spelled line ++ '\n' :: text) = .whole (spelled line) :: ofText text) (ended : Bool)
    (last : ι) :
    ofText (joinLines ended ((lines ++ [last]).map spelled)) =
      (lines.map fun line => .whole (spelled line)) ++ ofText (joinLines ended [spelled last]) := by
  induction lines with
  | nil => rfl
  | cons line lines ih =>
    obtain ⟨hnewline, hnewlines⟩ := List.forall_mem_cons.mp newline
    have hjoin : joinLines ended ((line :: lines ++ [last]).map spelled) =
        spelled line ++ '\n' :: joinLines ended ((lines ++ [last]).map spelled) := by
      rw [List.cons_append, List.map_cons]
      cases lines with
      | nil => rfl
      | cons next rest => rfl
    rw [hjoin, hnewline, ih hnewlines]
    rfl

lemma Item.ofLines_append (process? : List Char → Option (List Char))
    (earlier : List (List Char × List Char)) (first : List LogicalLine) :
    ∃ since, ∀ later, ofLines process? earlier (first ++ later) =
      ofLines process? earlier first ++ ofLines process? since later := by
  induction first generalizing earlier with
  | nil => exact ⟨earlier, fun _ => rfl⟩
  | cons line first ih =>
    cases line with
    | unfinished text =>
      obtain ⟨since, hfirst⟩ := ih earlier
      exact ⟨since, fun later => congrArg (Item.skipped text :: ·) (hfirst later)⟩
    | whole text =>
      let lookup name := ((process? name).orElse fun _ => earlier.lookup name).getD []
      cases hline : Assignment.ofLine? lookup text with
      | error skipped =>
        obtain ⟨since, hfirst⟩ := ih earlier
        refine ⟨since, fun later => ?_⟩
        rw [List.cons_append, ofLines, ofLines, hline]
        exact congrArg (Item.skipped skipped :: ·) (hfirst later)
      | ok item? =>
        cases item? with
        | none =>
          obtain ⟨since, hfirst⟩ := ih earlier
          refine ⟨since, fun later => ?_⟩
          rw [List.cons_append, ofLines, ofLines, hline]
          exact hfirst later
        | some item =>
          obtain ⟨since, hfirst⟩ := ih ((item.key, item.raw) :: earlier)
          refine ⟨since, fun later => ?_⟩
          rw [List.cons_append, ofLines, ofLines, hline]
          exact congrArg (Item.assignment item :: ·) (hfirst later)

/-- Lines that are assignments whatever comes before them are items one by one. -/
lemma Item.ofLines_whole {ι : Type} {spelled : ι → List Char} {given : ι → Assignment}
    (h : ∀ line lookup, Assignment.ofLine? lookup (spelled line) = .ok (some (given line)))
    (process? : List Char → Option (List Char)) (earlier : List (List Char × List Char))
    (lines : List ι) :
    ofLines process? earlier (lines.map fun line => .whole (spelled line)) =
      lines.map fun line => .assignment (given line) := by
  induction lines generalizing earlier with
  | nil => rfl
  | cons line lines ih =>
    rw [List.map_cons, ofLines]
    simp only [h, ih, List.map_cons]

lemma logicalLines_joinLines (ended : Bool) (lines : List TemplateLine) :
    LogicalLine.ofText (joinLines ended (lines.map TemplateLine.marked)) =
      lines.map fun line => .whole line.marked :=
  LogicalLine.ofText_joinLines (fun line _ => line.logicalLines_newline)
    (fun line _ => line.logicalLines_end) ended

lemma items_marked (process? : List Char → Option (List Char))
    (earlier : List (List Char × List Char)) (lines : List TemplateLine) :
    Item.ofLines process? earlier (lines.map fun line => .whole line.marked) =
      lines.map fun line => .assignment ⟨line.key.chars, line.template.raw⟩ :=
  Item.ofLines_whole TemplateLine.ofLine?_marked process? earlier lines

lemma apply_assignments (process : ProcessEnvironment) (exported : List (List Char))
    {lines : List TemplateLine} (h : ∀ line ∈ lines, line.key.chars ∈ exported)
    (env : Environment) (count : Nat) :
    Scope.apply process exported ⟨env, [], count⟩
        (lines.map fun line => .assignment ⟨line.key.chars, line.template.raw⟩) =
      (⟨lines.foldl (TemplateLine.assign process) env, [], count + lines.length⟩, []) := by
  induction lines generalizing env count with
  | nil => rfl
  | cons line lines ih =>
    obtain ⟨hline, hlines⟩ := List.forall_mem_cons.mp h
    have hexported : exported.contains line.key.chars = true := by simpa using hline
    have hassign : Scope.assign ⟨env, [], count⟩ process exported
          ⟨line.key.chars, line.template.raw⟩ =
        (⟨line.assign process env, [], count + 1⟩, false) := by
      have hvalue : (fun chars => (Scope.value? ⟨env, [], count⟩ process
          (String.ofList chars)).map String.toList) = charValue? (env.valueIn process) := rfl
      rw [Scope.assign]
      simp only [hexported, Bool.true_or, if_true, hvalue, line.template.expand_raw]
      rfl
    rw [List.map_cons, Scope.apply, hassign]
    dsimp only
    rw [ih hlines, List.foldl_cons, List.length_cons, Nat.add_right_comm, Nat.add_assoc]
    rfl

/-- A file of exported templates sets its names one after the other, each to the value of its
template in the environment reached so far. -/
theorem overlayFile_templates (env : Environment) (process : ProcessEnvironment)
    (files : FileTree) (path : RawText) (lines : List TemplateLine) (ended : Bool)
    (h : files.readText path =
      .ok (String.ofList (joinLines ended (lines.map TemplateLine.spelled)))) :
    env.overlayFile process files path =
      (.ok (lines.foldl (TemplateLine.assign process) env),
        [.environmentFileApplied path lines.length]) := by
  have hmarked := marked_joinLines ended lines
  have hitems : (Marked.ofText (joinLines ended (lines.map TemplateLine.spelled))).items process =
      lines.map fun line => .assignment ⟨line.key.chars, line.template.raw⟩ := by
    rw [hmarked, Marked.items, Item.ofText, logicalLines_joinLines, items_marked]
  have hexported : ∀ line ∈ lines, line.key.chars ∈ lines.map fun line => line.key.chars :=
    fun line hline => List.mem_map_of_mem hline
  have hscope := apply_assignments process _ hexported env 0
  rw [Environment.overlayFile, h]
  dsimp only
  rw [overlayText, String.toList_ofList, hitems, hmarked, hscope]
  simp

/-! ### A profile in its place -/

def profile (content : String) : FileTree :=
  FileTree.base.install ".bashrc" (.file (.ofString content) false)

lemma readText_profile (content : String) : (profile content).readText ".bashrc" = .ok content := by
  have hfile : ∀ raw : RawText,
      (FileTree.base.install ".bashrc" (.file raw false)).read ".bashrc" = .ok raw := by
    intro raw
    cbv
  exact FileTree.readText_of_read (hfile (.ofString content))

lemma overlayFile_profile (base : Environment) (process : ProcessEnvironment) (content : String) :
    base.overlayFile process (profile content) ".bashrc" =
      (.ok (overlayText process base content).1.env,
        (overlayText process base content).2.map (Remark.event ".bashrc") ++
          [.environmentFileApplied ".bashrc" (overlayText process base content).1.count]) := by
  rw [Environment.overlayFile, readText_profile]

/-! ### A file of two lines -/

/-- The line `export HOST="a \"b\" # c"`. -/
def hostLine : TemplateLine where
  key := ⟨"HOST".toList, 'H', "OST".toList, rfl, by decide, List.all_eq_true.mp rfl⟩
  template := ⟨[.literal ⟨"a \"b\" # c".toList, by decide⟩], trivial⟩

/-- The line `export URL="http://$HOST/${PORT:-80}"`. -/
def urlLine : TemplateLine where
  key := ⟨"URL".toList, 'U', "RL".toList, rfl, by decide, List.all_eq_true.mp rfl⟩
  template :=
    ⟨[.literal ⟨"http://".toList, by decide⟩,
        .bare ⟨"HOST".toList, by decide, List.all_eq_true.mp rfl⟩,
        .literal ⟨"/".toList, by decide⟩,
        .withDefault ⟨"PORT".toList, by decide, List.all_eq_true.mp rfl⟩
          ⟨⟨"80".toList, by decide⟩, by decide⟩],
      fun _ hslash => (Option.some.inj hslash) ▸ rfl, trivial⟩

theorem overlayFile_two_templates :
    let content := String.ofList (joinLines true ([hostLine, urlLine].map TemplateLine.spelled))
    let files := FileTree.base.install ".bashrc" (.file (.ofString content) false)
    files.readText ".bashrc" = .ok content ∧
      Environment.empty.overlayFile ⟨[]⟩ files ".bashrc" =
        (.ok ((Environment.empty.set "HOST" "a \"b\" # c").set "URL" "http://a \"b\" # c/80"),
          [.environmentFileApplied ".bashrc" 2]) := by
  intro content files
  have hread : files.readText ".bashrc" = .ok content := readText_profile content
  have hoverlay := overlayFile_templates .empty ⟨[]⟩ files ".bashrc" [hostLine, urlLine] true hread
  refine ⟨hread, hoverlay.trans ?_⟩
  cbv

end EnvFile

end SiteBoot
