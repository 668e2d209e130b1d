import SiteBoot.Proofs.EnvFile.ExportLine
/-!
# Comments

The first look takes any blank before a `#` for the start of a comment. The reader of logical lines
does so after an odd number of blanks only, and reads on in the text of the comment otherwise. As
long as it comes out of it at the end of the line, nothing is left of the comment.
-/

namespace SiteBoot.EnvFile

lemma overlayFile_exportFile (env : Environment) (process : ProcessEnvironment)
    {files : FileTree} {path : RawText} {ended : Bool} {lines : List ExportLine}
    (hend : CommentsEnd ended lines)
    (h : files.readText path = .ok (String.ofList (exportFile ended lines))) :
    env.overlayFile process files path =
      (.ok (source process env (lines.map ExportLine.assignment)),
        [.environmentFileApplied path lines.length]) := by
  obtain ⟨henv, hcount, hremarks⟩ := overlayText_exportFile env process hend
  rw [Environment.overlayFile, h]
  dsimp only
  rw [henv, hcount, hremarks]
  rfl

lemma commentsEnd_uncommented (ended : Bool) (lines : List ExportLine) :
    CommentsEnd ended (lines.map ExportLine.uncommented) := by
  induction lines with
  | nil => trivial
  | cons line lines ih =>
    cases lines with
    | nil => cases ended <;> rfl
    | cons next rest => exact ⟨rfl, ih⟩

/-- Comments that the reader comes out of at the end of their lines change nothing. -/
theorem overlayFile_uncommented (env : Environment) (process : ProcessEnvironment)
    (files plain : FileTree) (path : RawText) (ended : Bool) (lines : List ExportLine)
    (commentsEnd : CommentsEnd ended lines)
    (h : files.readText path = .ok (String.ofList (exportFile ended lines)))
    (hplain : plain.readText path =
      .ok (String.ofList (exportFile ended (lines.map ExportLine.uncommented)))) :
    env.overlayFile process files path = env.overlayFile process plain path ∧
      env.overlayFile process plain path =
        (.ok (source process env (lines.map ExportLine.assignment)),
          [.environmentFileApplied path lines.length]) := by
  have hcommented := overlayFile_exportFile env process commentsEnd h
  have huncommented := overlayFile_exportFile env process
    (commentsEnd_uncommented ended lines) hplain
  rw [List.map_map, List.length_map] at huncommented
  exact ⟨hcommented.trans huncommented.symm, huncommented⟩

/-! ### How a comment is set off -/

/-- Where the reader stands after a number of blanks. -/
def afterBlanks (count : Nat) : ReadState := if count % 2 = 1 then .blank else .complete

lemma next?_afterBlanks (count : Nat) {c : Char} (h : c = ' ' ∨ c = '\t') :
    (afterBlanks count).next? c = some (afterBlanks (count + 1)) := by
  rw [afterBlanks, afterBlanks]
  rcases Nat.mod_two_eq_zero_or_one count with hcount | hcount
  · rw [if_neg (by omega), if_pos (by omega)]
    rcases h with rfl | rfl <;> decide
  · rw [if_pos hcount, if_neg (by omega)]
    rcases h with rfl | rfl <;> decide

lemma scanLine_afterBlanks {blanks : List Char} (h : ∀ c ∈ blanks, c = ' ' ∨ c = '\t')
    (count : Nat) :
    scanLine (afterBlanks count) blanks = (blanks, some (afterBlanks (count + blanks.length))) := by
  induction blanks generalizing count with
  | nil => rfl
  | cons c blanks ih =>
    obtain ⟨hc, hblanks⟩ := List.forall_mem_cons.mp h
    rw [scanLine, next?_afterBlanks count hc]
    dsimp only
    rw [ih hblanks, List.length_cons, Nat.add_assoc, Nat.add_comm 1]

lemma Comment.restKept?_of_odd {comment : Comment} (h : comment.blanks.length % 2 = 1)
    (more : List Char) : restKept? (comment.spelled ++ more) = some comment.blanks := by
  have hblanks := scanLine_afterBlanks comment.isBlank 0
  have hodd : afterBlanks (0 + comment.blanks.length) = .blank := by
    rw [afterBlanks, Nat.zero_add, if_pos h]
  rw [hodd] at hblanks
  have hscan : scanLine .complete (comment.spelled ++ more) = (comment.blanks, none) := by
    rw [spelled, List.append_assoc]
    refine (scanLine_append hblanks _).trans ?_
    rw [List.cons_append, scanLine, ReadState.next?, if_pos rfl, List.append_nil]
  rw [restKept?, hscan]

/-- One blank, or three, or any odd number of them sets off every comment. -/
theorem commentsEnd_of_odd (ended : Bool) {lines : List ExportLine}
    (h : ∀ line ∈ lines, ∀ comment, line.comment? = some comment →
      comment.blanks.length % 2 = 1) : CommentsEnd ended lines := by
  have hline : ∀ line ∈ lines, ∀ more ∈ [[], ['\n']],
      (restKept? (line.tail ++ more)).isSome := by
    intro line hmem more hmore
    rw [ExportLine.tail]
    split
    · rename_i comment hcomment
      rw [Comment.restKept?_of_odd (h line hmem comment hcomment)]
      rfl
    · revert more
      decide
  induction lines with
  | nil => trivial
  | cons line lines ih =>
    obtain ⟨hfirst, hrest⟩ := List.forall_mem_cons.mp hline
    cases lines with
    | nil =>
      cases ended with
      | false =>
        have hend := hfirst [] (by decide)
        rw [List.append_nil] at hend
        exact hend
      | true => exact hfirst ['\n'] (by decide)
    | cons next rest =>
      exact ⟨hfirst ['\n'] (by decide),
        ih (fun line hmem => h line (List.mem_cons_of_mem _ hmem)) hrest⟩

/-- The line `export A=1 # it's`, with one blank before the comment or more. -/
def notedLine (more : Nat) : ExportLine where
  key := ⟨['A'], 'A', [], rfl, by decide, by simp⟩
  word := [⟨.bare, ['1'], List.forall_mem_singleton.mpr ⟨rfl, by decide⟩⟩]
  comment? := some
    { blanks := List.replicate (more + 1) ' '
      text := " it's".toList
      nonempty := by simp
      isBlank := fun c hc => .inl (List.eq_of_mem_replicate hc)
      inLine := by decide }

def laterLine : ExportLine where
  key := ⟨['B'], 'B', [], rfl, by decide, by simp⟩
  word := [⟨.bare, ['2'], List.forall_mem_singleton.mpr ⟨rfl, by decide⟩⟩]
  comment? := none

def profileFiles (lines : List ExportLine) : FileTree :=
  FileTree.base.install ".bashrc" (.file (.ofString (.ofList (exportFile true lines))) false)

lemma profileFiles_eq (lines : List ExportLine) :
    profileFiles lines = profile (String.ofList (exportFile true lines)) := rfl

theorem overlayFile_notedLine :
    CommentsEnd true [notedLine 0, laterLine] ∧
      Environment.empty.overlayFile ⟨[]⟩ (profileFiles [notedLine 0, laterLine]) ".bashrc" =
        (.ok ((Environment.empty.set "A" "1").set "B" "2"),
          [.environmentFileApplied ".bashrc" 2]) := by
  have hend : CommentsEnd true [notedLine 0, laterLine] := ⟨rfl, rfl⟩
  have hread : (profileFiles [notedLine 0, laterLine]).readText ".bashrc" =
      .ok (String.ofList (exportFile true [notedLine 0, laterLine])) := readText_profile _
  have hplain : (profileFiles ([notedLine 0, laterLine].map ExportLine.uncommented)).readText
      ".bashrc" = .ok (String.ofList (exportFile true
        ([notedLine 0, laterLine].map ExportLine.uncommented))) := readText_profile _
  obtain ⟨hsame, hvalue⟩ := overlayFile_uncommented .empty ⟨[]⟩ _ _ ".bashrc" true
    [notedLine 0, laterLine] hend hread hplain
  refine ⟨hend, (hsame.trans hvalue).trans ?_⟩
  cbv

/-- After two blanks the reader takes the apostrophe of the comment for a quote, and what follows
for quoted text. -/
theorem apostrophe_hides_next_line :
    (Environment.empty.overlayFile ⟨[]⟩ (profileFiles [notedLine 1, laterLine]) ".bashrc").1 =
        .ok .empty ∧
      (Environment.empty.overlayFile ⟨[]⟩
        (profileFiles ([notedLine 1, laterLine].map ExportLine.uncommented)) ".bashrc").1 =
        .ok ((Environment.empty.set "A" "1").set "B" "2") := by
  rw [profileFiles_eq, profileFiles_eq, overlayFile_profile, overlayFile_profile]
  constructor
  · cbv
  · cbv

end SiteBoot.EnvFile
