import SiteBoot.Files.Tree
import SiteBoot.Proofs.Text.RawText
/-!
# Files that are opened to be written to

What can be opened is a file or a sink, or a file that is made for it. Opening changes no content,
and what is written then comes after what was there, in that file alone.
-/

namespace SiteBoot

namespace FileTree

variable {files opened : FileTree} {path : RawText} {place : Location}

lemma node?_put (files : FileTree) (h : place ≠ []) (node : Node) :
    (files.put place node).node? place = some node := by
  cases place with
  | nil => contradiction
  | cons name rest => simp [put, node?]

lemma node?_put_of_ne (files : FileTree) {other : Location} (h : other ≠ place) (node : Node) :
    (files.put place node).node? other = files.node? other := by
  have hlookup : ∀ nodes : List (Location × Node),
      (nodes.filter (·.1 ≠ place)).lookup other = nodes.lookup other := by
    intro nodes
    induction nodes with
    | nil => rfl
    | cons entry rest ih =>
      obtain ⟨found, there⟩ := entry
      by_cases hfound : found = place
      · rw [List.filter_cons_of_neg (by simpa using hfound), ih, List.lookup_cons, hfound,
          beq_false_of_ne h]
      · rw [List.filter_cons_of_pos (by simpa using hfound), List.lookup_cons, List.lookup_cons,
          ih]
  cases other with
  | nil => rfl
  | cons name rest =>
    have hother : (name :: rest == place) = false := beq_false_of_ne h
    simp only [put, node?, List.lookup_cons, hother, hlookup]

lemma find_node? {node? : Option Node} (h : files.find path = .ok (place, node?)) :
    node? = files.node? place := by
  unfold find at h
  by_cases hnul : path.hasNul
  · simp only [hnul, if_true] at h
    contradiction
  by_cases hempty : path.isEmpty
  · simp only [hnul, hempty, if_true] at h
    contradiction
  by_cases hlong : path.size > RawText.maxPath
  · simp only [hnul, hempty, hlong, if_true] at h
    contradiction
  simp only [hnul, hempty, hlong, if_false] at h
  cases hwalk : files.walk maxLinks (if path.isAbsolute then [] else files.here) path.steps with
  | error failure =>
    simp only [hwalk] at h
    contradiction
  | ok found =>
    simp only [hwalk] at h
    obtain ⟨rfl, rfl⟩ := Prod.mk.inj (Except.ok.inj h)
    rfl

lemma find_of_openToWrite (h : files.openToWrite path = .ok (place, opened)) :
    ∃ node?, files.find path = .ok (place, node?) ∧
      match node? with
      | some (.file ..) | some .sink => opened = files
      | none => opened = files.put place (.file .nothing false)
      | _ => False := by
  unfold openToWrite at h
  by_cases hslash : path.bytes.getLast? = some 0x2F
  · simp only [hslash, if_true] at h
    by_cases hnul : path.hasNul
    · simp only [hnul, if_true] at h
      contradiction
    simp only [hnul] at h
    cases hwalk : files.walk maxLinks (if path.isAbsolute then [] else files.here)
        path.steps.dropLast.dropLast with
    | error failure =>
      simp only [hwalk] at h
      contradiction
    | ok parent =>
      simp only [hwalk, bind, Except.bind] at h
      cases hparent : files.node? parent with
      | none =>
        simp only [hparent] at h
        contradiction
      | some node => cases node <;> simp only [hparent] at h <;> contradiction
  · simp only [hslash, if_false] at h
    cases hfind : files.find path with
    | error failure =>
      simp only [hfind] at h
      contradiction
    | ok found =>
      obtain ⟨found, node?⟩ := found
      simp only [hfind, bind, Except.bind] at h
      rcases node? with _ | node
      · obtain ⟨rfl, rfl⟩ := Prod.mk.inj (Except.ok.inj h)
        exact ⟨none, rfl, rfl⟩
      · cases node with
        | file content executable =>
          obtain ⟨rfl, rfl⟩ := Prod.mk.inj (Except.ok.inj h)
          exact ⟨_, rfl, rfl⟩
        | sink =>
          obtain ⟨rfl, rfl⟩ := Prod.mk.inj (Except.ok.inj h)
          exact ⟨_, rfl, rfl⟩
        | directory => contradiction
        | link target => contradiction
        | utility utility => contradiction

/-- What the file at a place holds, which is nothing if it is still to be made. A sink has no
content to speak of. -/
def held? (files : FileTree) (place : Location) : Option RawText :=
  match files.node? place with
  | some (.file content _) => some content
  | none => some .nothing
  | some _ => none

def TakesWrites (files : FileTree) (place : Location) : Prop :=
  (∃ content executable, files.node? place = some (.file content executable)) ∨
    files.node? place = some .sink

/-- The file at a place has grown at its end, and nothing else has changed. -/
structure Grows (before after : FileTree) (place : Location) (more : RawText) : Prop where
  held? : after.held? place = (before.held? place).map (· ++ more)
  frame : ∀ other ≠ place, after.node? other = before.node? other

lemma held?_congr {before after : FileTree} (h : after.node? place = before.node? place) :
    after.held? place = before.held? place := by
  rw [held?, held?, h]

lemma grows_refl (files : FileTree) (place : Location) : files.Grows files place .nothing := by
  refine ⟨?_, fun _ _ => rfl⟩
  simp only [RawText.append_nothing, Option.map_id']

lemma Grows.trans {first second third : FileTree} {more rest : RawText}
    (hfirst : first.Grows second place more) (hsecond : second.Grows third place rest) :
    first.Grows third place (more ++ rest) := by
  refine ⟨?_, fun other hother => (hsecond.frame other hother).trans (hfirst.frame other hother)⟩
  rw [hsecond.held?, hfirst.held?, Option.map_map]
  exact congrArg (Option.map · _) (funext fun content => RawText.append_assoc content more rest)

/-- What is opened to be written to is a file or a sink, and opening it changes no content. -/
lemma grows_openToWrite (h : files.openToWrite path = .ok (place, opened)) :
    files.Grows opened place .nothing ∧ opened.TakesWrites place := by
  obtain ⟨node?, hfind, hopened⟩ := find_of_openToWrite h
  have hnode := find_node? hfind
  rcases node? with _ | node
  · obtain rfl : opened = files.put place (.file .nothing false) := hopened
    have hplace : place ≠ [] := by
      rintro rfl
      contradiction
    have hput := files.node?_put hplace (.file .nothing false)
    refine ⟨⟨?_, fun other hother => files.node?_put_of_ne hother _⟩, .inl ⟨_, _, hput⟩⟩
    rw [held?, held?, hput, ← hnode]
    rfl
  · cases node with
    | file content executable =>
      obtain rfl : opened = files := hopened
      exact ⟨opened.grows_refl place, .inl ⟨content, executable, hnode.symm⟩⟩
    | sink =>
      obtain rfl : opened = files := hopened
      exact ⟨opened.grows_refl place, .inr hnode.symm⟩
    | directory => exact hopened.elim
    | link target => exact hopened.elim
    | utility utility => exact hopened.elim

lemma grows_append (files : FileTree) (more : RawText) (h : files.TakesWrites place) :
    files.Grows (files.append place more) place more ∧
      (files.append place more).TakesWrites place := by
  obtain ⟨content, executable, hnode⟩ | hnode := h
  · have hplace : place ≠ [] := by
      rintro rfl
      exact nomatch hnode
    have hput := files.node?_put hplace (.file (content ++ more) executable)
    rw [append, hnode]
    refine ⟨⟨?_, fun other hother => files.node?_put_of_ne hother _⟩, .inl ⟨_, _, hput⟩⟩
    rw [held?, held?, hput, hnode]
    rfl
  · rw [append, hnode]
    refine ⟨⟨?_, fun _ _ => rfl⟩, .inr hnode⟩
    rw [held?, hnode]
    rfl

end FileTree

end SiteBoot
