import SiteBoot.Proofs.EnvFile.Hiding
/-!
# Overlaying a file twice

After a file has been laid over an environment, some of the names that it assigns to are set that
were not set before. Laid over the result once more, the file keeps the same names, and where no
value refers to a name that is assigned to, it gives each of them the value that it had.
-/

namespace SiteBoot.EnvFile

/-- No value refers to a name that is assigned to. -/
def RefersToOthers (given : List Assignment) : Prop :=
  ∀ assignment ∈ given, ∀ name ∈ references assignment.raw, ∀ other ∈ given, other.key ≠ name

instance (given : List Assignment) : Decidable (RefersToOthers given) :=
  inferInstanceAs (Decidable (∀ assignment ∈ given, _))

lemma RefersToOthers.tail {first : Assignment} {rest : List Assignment}
    (h : RefersToOthers (first :: rest)) : RefersToOthers rest := by
  intro assignment hassignment name hname other hother
  exact h assignment (List.mem_cons_of_mem _ hassignment) name hname other
    (List.mem_cons_of_mem _ hother)

/-! ### Values in two scopes -/

lemma Assignment.valueIn_congr (process : ProcessEnvironment) {scope other : Environment}
    {assignment : Assignment} (h : ∀ name ∈ references assignment.raw,
      scope.get? (String.ofList name) = other.get? (String.ofList name)) :
    assignment.valueIn process scope = assignment.valueIn process other := by
  rw [valueIn, valueIn]
  refine congrArg String.ofList (expand_congr fun name hname => ?_)
  rw [charValue?, charValue?, Environment.valueIn, Environment.valueIn, h name hname]

/-- Two scopes that agree on the names that are not assigned to come to be the same. -/
lemma source_eq_of_agree (process : ProcessEnvironment) {given : List Assignment}
    (hothers : RefersToOthers given) {scope other : Environment}
    (hagree : ∀ name, (∀ assignment ∈ given, assignment.name ≠ name) →
      scope.get? name = other.get? name) :
    source process scope given = source process other given := by
  induction given generalizing scope other with
  | nil =>
    ext name : 1
    exact hagree name fun assignment hassignment => absurd hassignment List.not_mem_nil
  | cons first rest ih =>
    have hvalue : first.valueIn process scope = first.valueIn process other := by
      apply Assignment.valueIn_congr
      intro name hname
      apply hagree
      intro assignment hassignment heq
      apply hothers first List.mem_cons_self name hname assignment hassignment
      rw [← String.toList_ofList (l := assignment.key), ← String.toList_ofList (l := name)]
      exact congrArg String.toList heq
    change source process (scope.set first.name (first.valueIn process scope)) rest =
      source process (other.set first.name (first.valueIn process other)) rest
    rw [hvalue]
    apply ih hothers.tail
    intro name hunassigned
    rw [Environment.get?_set, Environment.get?_set]
    by_cases hname : name = first.name
    · rw [if_pos hname, if_pos hname]
    · rw [if_neg hname, if_neg hname]
      apply hagree
      rw [List.forall_mem_cons]
      exact ⟨Ne.symm hname, hunassigned⟩

/-! ### The second time -/

section Twice

variable {base env : Environment} {process : ProcessEnvironment} {exported : List (List Char)}
  {given : List Assignment}

lemma has_source {scope : Environment} {name : String} (h : scope.has name)
    (given : List Assignment) : (source process scope given).has name := by
  induction given generalizing scope with
  | nil => exact h
  | cons first rest ih => exact ih (Environment.has_set h first.name _)

lemma keeps_restrict (henv : env = (source process base given).restrict (keeps base exported)) :
    keeps env exported = keeps base exported := by
  funext name
  rw [keeps, keeps, Bool.eq_iff_iff, Bool.or_eq_true, Bool.or_eq_true]
  constructor
  · rintro (hhas | hexported)
    · rw [henv, Environment.has, Environment.get?_restrict] at hhas
      by_cases hkept : keeps base exported name
      · rwa [keeps, Bool.or_eq_true] at hkept
      · rw [if_neg hkept] at hhas
        contradiction
    · exact .inr hexported
  · rintro (hhas | hexported)
    · have hkept : keeps base exported name := by simp [keeps, hhas]
      rw [henv, Environment.has, Environment.get?_restrict, if_pos hkept]
      exact .inl (has_source hhas given)
    · exact .inr hexported

lemma source_restrict (hothers : RefersToOthers given)
    (henv : env = (source process base given).restrict (keeps base exported)) :
    source process env given = source process base given := by
  apply source_eq_of_agree process hothers
  intro name hunassigned
  have hsame := get?_source_of_unassigned process base hunassigned
  rw [henv, Environment.get?_restrict, hsame]
  split
  · rfl
  · rename_i hkept
    -- what is not kept was not there before
    rw [keeps, Bool.or_eq_true, not_or, Environment.has, Option.not_isSome_iff_eq_none] at hkept
    exact hkept.1.symm

end Twice

/-- A file that does not refer to its own assignments can be laid over an environment twice: the
second time changes nothing, and tells of the same lines. -/
theorem overlayFile_twice (base : Environment) (process : ProcessEnvironment) (files : FileTree)
    (path : RawText) (content : String) (h : files.readText path = .ok content)
    (others : RefersToOthers (assignments ((Marked.ofText content.toList).items process))) :
    ∃ env events, base.overlayFile process files path = (.ok env, events) ∧
      env.overlayFile process files path = (.ok env, events) := by
  obtain ⟨henv, hcount, hremarks⟩ := overlayText_eq base process content rfl
  obtain ⟨henv', hcount', hremarks'⟩ :=
    overlayText_eq (overlayText process base content).1.env process content rfl
  have hkeeps := keeps_restrict henv
  have hsource := source_restrict others henv
  rw [hkeeps, hsource, ← henv] at henv'
  rw [hkeeps, ← hcount] at hcount'
  rw [hkeeps, ← hremarks] at hremarks'
  refine ⟨_, _, by rw [Environment.overlayFile, h], ?_⟩
  rw [Environment.overlayFile, h]
  dsimp only
  rw [henv', hcount', hremarks']

/-- A name that is exported only later, one that is set to two values and one that stays local. -/
def mixedText : String :=
  "A=1\nexport B=\"$HOST:${PORT:-80}\"\nfi\nB=$HOST\nC=3\nexport A='$A'\n"

theorem overlayFile_mixedText :
    let files := profile mixedText
    let base := Environment.empty.set "HOST" "h"
    let env := (base.set "A" "$A").set "B" "h"
    RefersToOthers (assignments ((Marked.ofText mixedText.toList).items ⟨[]⟩)) ∧
      (base.overlayFile ⟨[]⟩ files ".bashrc").1 = .ok env ∧
      (env.overlayFile ⟨[]⟩ files ".bashrc").1 = .ok env := by
  intro files base env
  have hothers : RefersToOthers (assignments ((Marked.ofText mixedText.toList).items ⟨[]⟩)) := by
    decide +kernel
  obtain ⟨again, events, hfirst, hsecond⟩ := overlayFile_twice base ⟨[]⟩ files ".bashrc" mixedText
    (readText_profile mixedText) hothers
  have hresult : (base.overlayFile ⟨[]⟩ files ".bashrc").1 = .ok env := by
    rw [overlayFile_profile]
    cbv
  obtain rfl : again = env := by
    rw [hfirst] at hresult
    exact Except.ok.inj hresult
  exact ⟨hothers, hresult, congrArg Prod.fst hsecond⟩

end SiteBoot.EnvFile
