/-!
An environment: variables with their values, in the order of their names, each name once.
Main statements: setting a variable changes that one and no other, and environments with the same
values are equal.
-/

namespace SiteBoot

/-- The entries with one more, in the place that its name gives it; an entry of that name goes. -/
def insertByName (name value : String) : List (String × String) → List (String × String)
  | [] => [(name, value)]
  | (n, v) :: rest =>
    if name < n then (name, value) :: (n, v) :: rest
    else if name = n then (name, value) :: rest
    else (n, v) :: insertByName name value rest

theorem fst_of_mem_insertByName {name value : String} {entry : String × String}
    {entries : List (String × String)} (h : entry ∈ insertByName name value entries) :
    entry.1 = name ∨ entry ∈ entries := by
  induction entries with
  | nil => simp_all [insertByName]
  | cons first rest ih =>
    obtain ⟨n, v⟩ := first
    simp only [insertByName] at h
    split at h
    · rcases List.mem_cons.1 h with rfl | h
      · exact .inl rfl
      · exact .inr h
    · split at h
      · rcases List.mem_cons.1 h with rfl | h
        · exact .inl rfl
        · exact .inr (List.mem_cons_of_mem _ h)
      · rcases List.mem_cons.1 h with rfl | h
        · exact .inr List.mem_cons_self
        · exact (ih h).imp_right (List.mem_cons_of_mem _)

theorem pairwise_insertByName (name value : String) {entries : List (String × String)}
    (h : entries.Pairwise (·.1 < ·.1)) :
    (insertByName name value entries).Pairwise (·.1 < ·.1) := by
  induction entries with
  | nil => simp [insertByName]
  | cons first rest ih =>
    obtain ⟨n, v⟩ := first
    obtain ⟨hfirst, hrest⟩ := List.pairwise_cons.1 h
    simp only [insertByName]
    split
    · rename_i hlt
      exact List.pairwise_cons.2 ⟨fun e he => (List.mem_cons.1 he).elim
        (fun heq => heq ▸ hlt) (fun he => String.lt_trans hlt (hfirst e he)), h⟩
    · split
      · rename_i heq
        subst heq
        exact List.pairwise_cons.2 ⟨hfirst, hrest⟩
      · rename_i hlt hne
        refine List.pairwise_cons.2 ⟨fun e he => ?_, ih hrest⟩
        rcases fst_of_mem_insertByName he with heq | he
        · rw [heq]
          exact String.not_le.1 fun hle => hne (String.le_antisymm hle (String.not_lt.1 hlt))
        · exact hfirst e he

theorem lookup_cons_eq_ite (name n v : String) (rest : List (String × String)) :
    ((n, v) :: rest).lookup name = if name = n then some v else rest.lookup name := by
  by_cases h : name = n
  · simp [h]
  · have hb : (name == n) = false := by simpa using h
    simp [List.lookup_cons, h, hb]

theorem lookup_insertByName (name value other : String) (entries : List (String × String)) :
    (insertByName name value entries).lookup other =
      if other = name then some value else entries.lookup other := by
  induction entries with
  | nil => exact lookup_cons_eq_ite other name value []
  | cons first rest ih =>
    obtain ⟨n, v⟩ := first
    simp only [insertByName]
    split
    · simp [lookup_cons_eq_ite]
    · split
      · rename_i heq
        subst heq
        simp only [lookup_cons_eq_ite]
        split <;> rfl
      · rename_i hne
        rw [lookup_cons_eq_ite, lookup_cons_eq_ite, ih]
        by_cases h : other = n
        · subst h
          simp [Ne.symm hne]
        · simp [h]

theorem lookup_eq_none_of_forall_lt {name : String} {entries : List (String × String)}
    (h : ∀ entry ∈ entries, name < entry.1) : entries.lookup name = none :=
  List.lookup_eq_none_iff.2 fun entry he => by
    have hlt := h entry he
    simp only [bne_iff_ne, ne_eq]
    exact fun heq => String.lt_irrefl _ (heq ▸ hlt)

/-- Entries in the order of their names are fixed by what is found under each name. -/
theorem eq_of_lookup_eq {a b : List (String × String)} (ha : a.Pairwise (·.1 < ·.1))
    (hb : b.Pairwise (·.1 < ·.1)) (h : ∀ name, a.lookup name = b.lookup name) : a = b := by
  induction a generalizing b with
  | nil =>
    cases b with
    | nil => rfl
    | cons first' rest' =>
      obtain ⟨n, v⟩ := first'
      simpa [lookup_cons_eq_ite] using h n
  | cons first rest ih =>
    obtain ⟨n, v⟩ := first
    cases b with
    | nil => simpa [lookup_cons_eq_ite] using h n
    | cons first' rest' =>
      obtain ⟨n', v'⟩ := first'
      obtain ⟨hn, hrest⟩ := List.pairwise_cons.1 ha
      obtain ⟨hn', hrest'⟩ := List.pairwise_cons.1 hb
      have heq : n = n' := by
        by_cases hlt : n < n'
        · have hnone : ((n', v') :: rest').lookup n = none :=
            lookup_eq_none_of_forall_lt fun e he => (List.mem_cons.1 he).elim
              (fun heq => heq ▸ hlt) (fun he => String.lt_trans hlt (hn' e he))
          have := h n
          simp [hnone] at this
        · by_cases hgt : n' < n
          · have hnone : ((n, v) :: rest).lookup n' = none :=
              lookup_eq_none_of_forall_lt fun e he => (List.mem_cons.1 he).elim
                (fun heq => heq ▸ hgt) (fun he => String.lt_trans hgt (hn e he))
            have := h n'
            simp [hnone] at this
          · exact String.le_antisymm (String.not_lt.1 hgt) (String.not_lt.1 hlt)
      subst heq
      have hv : v = v' := by simpa using h n
      subst hv
      congr 1
      refine ih hrest hrest' fun name => ?_
      by_cases hname : name = n
      · subst hname
        rw [lookup_eq_none_of_forall_lt hn, lookup_eq_none_of_forall_lt hn']
      · have hne : (name == n) = false := by simpa using hname
        have := h name
        simpa only [List.lookup_cons, hne] using this

/-- A set of variables with their values. -/
structure Environment where
  vars : List (String × String)
  sorted : vars.Pairwise (·.1 < ·.1)
  deriving DecidableEq

namespace Environment

def empty : Environment := ⟨[], .nil⟩

instance : Inhabited Environment := ⟨empty⟩

/-- The value of a variable that is set. -/
def get? (env : Environment) (name : String) : Option String := env.vars.lookup name

/-- The value of a variable, the empty text if it is not set. -/
def value (env : Environment) (name : String) : String := (env.get? name).getD ""

def has (env : Environment) (name : String) : Bool := (env.get? name).isSome

/-- Whether a variable is literally `true` or `True`. -/
def flag (env : Environment) (name : String) : Bool :=
  env.get? name = some "true" || env.get? name = some "True"

def set (env : Environment) (name value : String) : Environment :=
  ⟨insertByName name value env.vars, pairwise_insertByName name value env.sorted⟩

/-- The variables set one after the other, so of two values for a name the later counts. -/
def ofList (entries : List (String × String)) : Environment :=
  entries.foldl (fun env (name, value) => env.set name value) empty

def size (env : Environment) : Nat := env.vars.length

@[simp] theorem get?_set (env : Environment) (name value other : String) :
    (env.set name value).get? other = if other = name then some value else env.get? other :=
  lookup_insertByName name value other env.vars

/-- Environments with the same values are equal. -/
@[ext] theorem ext {a b : Environment} (h : ∀ name, a.get? name = b.get? name) : a = b := by
  obtain ⟨vars, sorted⟩ := a
  obtain ⟨vars', sorted'⟩ := b
  have := eq_of_lookup_eq sorted sorted' h
  subst this
  rfl

end Environment

end SiteBoot
