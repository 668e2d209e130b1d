import SiteBoot.Proofs.EnvFile.LineByLine
/-!
# Guarded dollar signs

The first look marks the dollar signs of references so that the reading of values takes them for
text, and leaves those that stand in single quotes, after a backslash or in a comment. Where the
reading of values sees the same around them, it never looks up a name.
-/

namespace SiteBoot.EnvFile

/-- Whether a comment that the first look finds in a line comes after a bare space or tab, or holds
no dollar sign. -/
def commentSetOff (quote : Quote) (escaped : Bool) (previous : Char) (setOff : Bool) :
    List Char → Bool
  | [] => true
  | c :: rest =>
    if escaped then commentSetOff quote false c false rest
    else if quote = .bare && c = '#' && Text.isBlank previous then setOff || '$' ∉ rest
    else commentSetOff (quote.next c) (c = '\\' && quote ≠ .single) c
      (quote = .bare && (c = ' ' || c = '\t')) rest

/-- For the reading of values, each dollar sign stands in single quotes, after a backslash or in a
comment. -/
def Guarded (quote : Quote) (escaped setOff : Bool) : List Char → Prop
  | [] => True
  | c :: rest =>
    if escaped then Guarded quote false false rest
    else if quote = .bare && c = '#' && setOff then True
    else (c = '$' → quote = .single) ∧
      Guarded (quote.next c) (c = '\\' && quote ≠ .single)
        (quote = .bare && (c = ' ' || c = '\t')) rest

lemma commentSetOff_cons (quote : Quote) (escaped : Bool) (previous : Char) (setOff : Bool)
    (c : Char) (rest : List Char) :
    commentSetOff quote escaped previous setOff (c :: rest) =
      if escaped then commentSetOff quote false c false rest
      else if quote = .bare && c = '#' && Text.isBlank previous then setOff || '$' ∉ rest
      else commentSetOff (quote.next c) (c = '\\' && quote ≠ .single) c
        (quote = .bare && (c = ' ' || c = '\t')) rest :=
  rfl

lemma guarded_cons (quote : Quote) (escaped setOff : Bool) (c : Char) (rest : List Char) :
    Guarded quote escaped setOff (c :: rest) ↔
      if escaped then Guarded quote false false rest
      else if quote = .bare && c = '#' && setOff then True
      else (c = '$' → quote = .single) ∧
        Guarded (quote.next c) (c = '\\' && quote ≠ .single)
          (quote = .bare && (c = ' ' || c = '\t')) rest :=
  Iff.rfl

namespace Guarded

variable {quote : Quote} {escaped setOff : Bool} {text : List Char}

lemma of_isPrefix {start : List Char} (h : Guarded quote escaped setOff text)
    (hstart : start <+: text) : Guarded quote escaped setOff start := by
  induction start generalizing quote escaped setOff text with
  | nil => trivial
  | cons c start ih =>
    obtain ⟨rest, rfl⟩ := hstart
    rw [List.cons_append, guarded_cons] at h
    rw [guarded_cons]
    split
    · rename_i hescaped
      rw [if_pos hescaped] at h
      exact ih h (List.prefix_append start rest)
    · rename_i hescaped
      rw [if_neg hescaped] at h
      split
      · trivial
      · rename_i hcomment
        rw [if_neg hcomment] at h
        exact ⟨h.1, ih h.2 (List.prefix_append start rest)⟩

lemma of_not_mem (h : '$' ∉ text) : Guarded quote escaped setOff text := by
  induction text generalizing quote escaped setOff with
  | nil => trivial
  | cons c rest ih =>
    obtain ⟨hc, hrest⟩ := not_or.mp (List.mem_cons.not.mp h)
    rw [guarded_cons]
    split
    · exact ih hrest
    · split
      · trivial
      · exact ⟨fun heq => absurd heq.symm hc, ih hrest⟩

lemma of_ne_bare (hquote : quote ≠ .bare) (h : Guarded quote escaped setOff text)
    (other : Bool) : Guarded quote escaped other text := by
  cases text with
  | nil => trivial
  | cons c rest =>
    rw [guarded_cons] at h ⊢
    simpa [hquote] using h

lemma of_head?_ne (hhead : text.head? ≠ some '#') (h : Guarded quote escaped setOff text)
    (other : Bool) : Guarded quote escaped other text := by
  cases text with
  | nil => trivial
  | cons c rest =>
    have hc : c ≠ '#' := fun heq => hhead (congrArg some heq)
    rw [guarded_cons] at h ⊢
    simpa [hc] using h

lemma drop {start : List Char} (hstart : ∀ c ∈ start, IsQuiet c)
    (h : Guarded .bare false setOff (start ++ text)) :
    ∃ setOff, Guarded .bare false setOff text := by
  induction start generalizing setOff with
  | nil => exact ⟨setOff, h⟩
  | cons c start ih =>
    obtain ⟨hc, hrest⟩ := List.forall_mem_cons.mp hstart
    simp only [IsQuiet, List.mem_cons, List.not_mem_nil, not_or] at hc
    obtain ⟨hescape, hdouble, hsingle, hcomment, -⟩ := hc
    have hnext : Quote.bare.next c = .bare := by simp [Quote.next, hdouble, hsingle]
    rw [List.cons_append, guarded_cons, if_neg (by simp), if_neg (by simp [hcomment]), hnext] at h
    simp only [hescape, decide_false, Bool.false_and] at h
    exact ih hrest h.2

end Guarded

/-! ### The first look -/

namespace Quote

variable (quote : Quote) (c : Char)

lemma mark_eq_iff (other : Char) (hmarker : other ≠ marker) (hdollar : other ≠ '$') :
    quote.mark c = other ↔ c = other := by
  rw [mark]
  split
  · rename_i hc
    simp only [Bool.and_eq_true, decide_eq_true_eq] at hc
    rw [hc.1]
    exact iff_of_false hmarker.symm hdollar.symm
  · rfl

lemma next_mark : quote.next (quote.mark c) = quote.next c := by
  rw [mark]
  split
  · rename_i hc
    simp only [Bool.and_eq_true, decide_eq_true_eq] at hc
    rw [hc.1]
    cases quote <;> rfl
  · rfl

end Quote

lemma Guarded.mark_cons {quote : Quote} {setOff : Bool} {c : Char} {text : List Char}
    (h : Guarded (quote.next c) (c = '\\' && quote ≠ .single)
      (quote = .bare && (c = ' ' || c = '\t')) text) :
    Guarded quote false setOff (quote.mark c :: text) := by
  have hescape := quote.mark_eq_iff c '\\' (by decide) (by decide)
  have hspace := quote.mark_eq_iff c ' ' (by decide) (by decide)
  have htab := quote.mark_eq_iff c '\t' (by decide) (by decide)
  rw [guarded_cons, if_neg (by simp), quote.next_mark]
  simp only [hescape, hspace, htab]
  split
  · trivial
  · refine ⟨fun hdollar => ?_, h⟩
    by_contra hquote
    exact Quote.mark_ne_dollar hquote c hdollar

lemma guarded_markLine {quote : Quote} {escaped : Bool} {previous : Char} {setOff : Bool}
    {line : List Char} (h : commentSetOff quote escaped previous setOff line) :
    Guarded quote escaped setOff (markLine quote escaped previous line).1 := by
  induction quote, escaped, previous, line using markLine_induction generalizing setOff with
  | nil => trivial
  | escaped quote previous c rest ih =>
    rw [markLine_escaped, guarded_cons, if_pos rfl]
    exact ih h
  | comment previous rest hblank =>
    rw [markLine_comment rest hblank]
    cases setOff with
    | true => simp [guarded_cons]
    | false =>
      have hrest : '$' ∉ '#' :: rest := by simpa [commentSetOff_cons, hblank] using h
      exact Guarded.of_not_mem hrest
  | char quote previous c rest hcomment ih =>
    rw [commentSetOff_cons, if_neg (by simp), if_neg hcomment] at h
    rw [markLine_char _ hcomment]
    exact (ih h).mark_cons

lemma guarded_markLine_append {quote : Quote} {escaped : Bool} {previous : Char} {setOff : Bool}
    {line : List Char} (hlast : (markLine quote escaped previous (line ++ ['\n'])).2 ≠ .bare)
    {more : List Char}
    (h : Guarded (markLine quote escaped previous (line ++ ['\n'])).2 false true more) :
    Guarded quote escaped setOff
      ((markLine quote escaped previous (line ++ ['\n'])).1 ++ more) := by
  induction quote, escaped, previous, line using markLine_induction generalizing setOff with
  | nil quote escaped previous =>
    cases escaped with
    | true =>
      have hmore := h.of_ne_bare hlast false
      exact hmore
    | false =>
      have hchar : ¬ (quote = .bare && '\n' = '#' && Text.isBlank previous) := by simp
      rw [List.nil_append, markLine_char [] hchar] at hlast h ⊢
      exact (h.of_ne_bare hlast _).mark_cons
  | escaped quote previous c rest ih =>
    rw [List.cons_append, markLine_escaped] at hlast h ⊢
    rw [List.cons_append, guarded_cons, if_pos rfl]
    exact ih hlast h
  | comment previous rest hblank =>
    -- a comment leaves the first look outside quotes
    rw [List.cons_append, markLine_comment _ hblank] at hlast
    contradiction
  | char quote previous c rest hcomment ih =>
    rw [List.cons_append, markLine_char _ hcomment] at hlast h ⊢
    exact (ih hlast h).mark_cons

/-! ### The reading of values -/

/-- Where the reading of values stands in quotes, or after a backslash in them. -/
def Quote.readingState (quote : Quote) (escaped : Bool) : ValueState :=
  if escaped then .escape (quote = .double) else quote.valueState

lemma readValue?_step (quote : Quote) {c : Char} (hdollar : c = '$' → quote = .single)
    (rest : List Char) :
    ((quote = .bare && (c = ' ' || c = '\t')) ∧ ∀ lookup,
      readValue? lookup quote.valueState (c :: rest) = readValue? lookup .ended rest) ∨
    (quote = .bare && (c = ' ' || c = '\t')) = false ∧ ∃ kept, ∀ lookup,
      readValue? lookup quote.valueState (c :: rest) =
        (readValue? lookup ((quote.next c).readingState (c = '\\' && quote ≠ .single)) rest).map
          (kept ++ ·) := by
  have hnothing : ∀ value? : Option (List Char), value? = value?.map ([] ++ ·) :=
    fun value? => Option.map_id'.symm
  cases quote with
  | single =>
    by_cases hclose : c = '\''
    · exact .inr ⟨rfl, [], fun lookup => by rw [hclose]; exact hnothing _⟩
    · have hnext : Quote.single.next c = .single := by simp [Quote.next, hclose]
      refine .inr ⟨rfl, [c], fun lookup => ?_⟩
      rw [hnext]
      simp [Quote.readingState, Quote.valueState, readValue?, hclose]
  | double =>
    have hname : c ≠ '$' := fun heq => Quote.noConfusion (hdollar heq)
    by_cases hclose : c = '"'
    · exact .inr ⟨rfl, [], fun lookup => by rw [hclose]; exact hnothing _⟩
    by_cases hescape : c = '\\'
    · exact .inr ⟨rfl, [], fun lookup => by rw [hescape]; exact hnothing _⟩
    have hnext : Quote.double.next c = .double := by simp [Quote.next, hclose]
    refine .inr ⟨rfl, [c], fun lookup => ?_⟩
    rw [hnext]
    simp [Quote.readingState, Quote.valueState, readValue?, hname, hclose, hescape]
  | bare =>
    have hname : c ≠ '$' := fun heq => Quote.noConfusion (hdollar heq)
    by_cases hdouble : c = '"'
    · exact .inr ⟨by rw [hdouble]; rfl, [], fun lookup => by rw [hdouble]; exact hnothing _⟩
    by_cases hescape : c = '\\'
    · exact .inr ⟨by rw [hescape]; rfl, [], fun lookup => by rw [hescape]; exact hnothing _⟩
    by_cases hsingle : c = '\''
    · exact .inr ⟨by rw [hsingle]; rfl, [], fun lookup => by rw [hsingle]; exact hnothing _⟩
    by_cases hblank : c = ' ' ∨ c = '\t'
    · refine .inl ⟨by simpa using hblank, fun lookup => ?_⟩
      simp [Quote.valueState, readValue?, hname, hdouble, hescape, hsingle, hblank]
    · have hnext : Quote.bare.next c = .bare := by simp [Quote.next, hdouble, hsingle]
      refine .inr ⟨by simpa using hblank, [c], fun lookup => ?_⟩
      rw [hnext]
      simp [Quote.readingState, Quote.valueState, readValue?, hname, hdouble, hescape, hsingle,
        hblank]

lemma readValue?_ended_eq (lookup other : List Char → List Char) (text : List Char) :
    readValue? lookup .ended text = readValue? other .ended text := by
  induction text with
  | nil => rfl
  | cons c rest ih => rw [readValue?, readValue?, ih]

/-- Of a guarded text no name is looked up. There are no escapes in single quotes. -/
lemma Guarded.readValue?_eq {quote : Quote} {escaped : Bool} (hescaped : escaped → quote ≠ .single)
    {text : List Char} (h : Guarded quote escaped false text)
    (lookup other : List Char → List Char) :
    readValue? lookup (quote.readingState escaped) text =
      readValue? other (quote.readingState escaped) text := by
  induction text generalizing quote escaped with
  | nil => cases escaped <;> cases quote <;> rfl
  | cons c rest ih =>
    cases escaped with
    | true =>
      rw [guarded_cons, if_pos rfl] at h
      have hrest : readValue? lookup (quote.readingState false) rest =
          readValue? other (quote.readingState false) rest := ih (by simp) h
      have hplain : quote.readingState false = .plain (quote = .double) := by
        cases quote with
        | single => exact absurd rfl (hescaped rfl)
        | bare => rfl
        | double => rfl
      rw [hplain] at hrest
      change readValue? lookup (.escape (quote = .double)) (c :: rest) =
        readValue? other (.escape (quote = .double)) (c :: rest)
      rw [readValue?, readValue?, hrest]
    | false =>
      rw [guarded_cons, if_neg (by simp), if_neg (by simp)] at h
      obtain ⟨hdollar, hguarded⟩ := h
      change readValue? lookup quote.valueState (c :: rest) =
        readValue? other quote.valueState (c :: rest)
      rcases readValue?_step quote hdollar rest with ⟨-, hstep⟩ | ⟨hinner, kept, hstep⟩
      · rw [hstep, hstep, readValue?_ended_eq lookup other]
      · rw [hinner] at hguarded
        have hnext : (c = '\\' && quote ≠ .single) → quote.next c ≠ .single := by
          intro hescape
          simp only [ne_eq, decide_not, Bool.and_eq_true, decide_eq_true_eq, Bool.not_eq_true',
            decide_eq_false_iff_not] at hescape
          obtain ⟨rfl, hquote⟩ := hescape
          cases quote <;> simp_all [Quote.next]
        rw [hstep, hstep, ih hnext hguarded]

/-! ### The reading of lines -/

/-- What is left of a text after a start that means nothing to quotes. -/
def Leaves (text rest : List Char) : Prop :=
  ∃ start, text = start ++ rest ∧ ∀ c ∈ start, IsQuiet c

namespace Leaves

variable {text middle rest key : List Char}

lemma trans (hfirst : Leaves text middle) (hsecond : Leaves middle rest) : Leaves text rest := by
  obtain ⟨first, rfl, hfirst⟩ := hfirst
  obtain ⟨second, rfl, hsecond⟩ := hsecond
  refine ⟨first ++ second, (List.append_assoc ..).symm, ?_⟩
  exact List.forall_mem_append.mpr ⟨hfirst, hsecond⟩

lemma trimLeft (text : List Char) : Leaves text (Text.trimLeft text) :=
  ⟨text.takeWhile Text.isBlank, List.takeWhile_append_dropWhile.symm,
    fun _ hc => isQuiet_of_isBlank (List.mem_takeWhile_imp hc)⟩

lemma takeKey (h : takeKey? text = some (key, rest)) : Leaves text rest := by
  cases text with
  | nil => contradiction
  | cons c text =>
    rw [takeKey?] at h
    split at h
    · rw [List.span_eq_takeWhile_dropWhile] at h
      obtain ⟨rfl, rfl⟩ := Prod.mk.inj (Option.some.inj h)
      exact ⟨_, List.takeWhile_append_dropWhile.symm,
        fun _ hc => (isPlain_of_isKeyChar (List.mem_takeWhile_imp hc)).isQuiet⟩
    · contradiction

lemma afterEquals (h : afterEquals? text = some rest) : Leaves text rest := by
  rw [afterEquals?.eq_def] at h
  split at h
  · obtain rfl := Option.some.inj h
    exact ⟨['='], rfl, List.forall_mem_singleton.mpr (by decide)⟩
  · contradiction

lemma takeTarget (h : takeTarget? text = some (key, rest)) : Leaves text rest := by
  rw [takeTarget?, Option.bind_eq_bind, Option.bind_eq_some_iff] at h
  obtain ⟨⟨first, middle⟩, hfirst, h⟩ := h
  dsimp only at h
  have hmiddle := (Leaves.takeKey hfirst).trans (Leaves.trimLeft middle)
  split at h
  · rename_i value hvalue
    obtain ⟨rfl, rfl⟩ := Prod.mk.inj (Option.some.inj h)
    exact hmiddle.trans (Leaves.afterEquals hvalue)
  · split at h
    · rw [Option.bind_eq_bind, Option.bind_eq_some_iff] at h
      obtain ⟨⟨second, last⟩, hsecond, h⟩ := h
      obtain ⟨value, hvalue, h⟩ := Option.bind_eq_some_iff.mp h
      obtain ⟨rfl, rfl⟩ := Prod.mk.inj (Option.some.inj h)
      exact ((hmiddle.trans (Leaves.takeKey hsecond)).trans (Leaves.trimLeft last)).trans
        (Leaves.afterEquals hvalue)
    · contradiction

end Leaves

lemma Guarded.ofLine?_eq {line : List Char} (h : Guarded .bare false true line)
    (lookup other : List Char → List Char) :
    Assignment.ofLine? lookup line = Assignment.ofLine? other line := by
  have hright : Text.trimRight line <+: line := by
    rw [Text.trimRight, ← List.reverse_suffix, List.reverse_reverse]
    exact List.dropWhile_suffix _
  rw [Assignment.ofLine?, Assignment.ofLine?]
  dsimp only
  split
  · rfl
  · cases htarget : takeTarget? (Text.trimLeft (Text.trimRight line)) with
    | none => rfl
    | some target =>
      obtain ⟨key, rest⟩ := target
      dsimp only
      split
      · rfl
      · rename_i hspelled
        obtain ⟨start, hstart, hquiet⟩ :=
          ((Leaves.trimLeft _).trans (Leaves.takeTarget htarget)).trans (Leaves.trimLeft rest)
        obtain ⟨_, hvalue⟩ := Guarded.drop hquiet (hstart ▸ h.of_isPrefix hright)
        have hhead : (Text.trimLeft rest).head? ≠ some '#' := by
          simp only [Bool.or_eq_true, decide_eq_true_eq, not_or] at hspelled
          exact hspelled.2
        have hsame : readValue? lookup (.plain false) (Text.trimLeft rest) =
            readValue? other (.plain false) (Text.trimLeft rest) :=
          (hvalue.of_head?_ne hhead false).readValue?_eq (by simp) lookup other
        rw [hsame]

end SiteBoot.EnvFile
