import SiteBoot.Proofs.Settings.Validation
/-!
# Filters keep their directives

Validation reads the level of the log strictly, the filter of a start reads it leniently. On a level
that validation accepts the two readings agree, so no directive is left out for being malformed, and
a filter holds each directive that it is made of unless a later one takes its place.
-/

namespace SiteBoot.LogFilter

/-- The directives of a text: each piece of it between commas is one, if there is anything in it. -/
def AreDirectives (directives : List Directive) (text : String) : Prop :=
  List.Forall₂ (fun piece directive => Directive.ofText piece = .ok directive)
    (directiveTexts text.toList) directives

/-- The filter of directives holds all of them, on events or on spans. The place of one may be
taken by a later one that only differs from it in the level. -/
structure IsFilterOf (filter : LogFilter) (directives : List Directive) : Prop where
  eq : filter = ofDirectives directives
  placed : ∀ directive ∈ directives, directive.isOnSpans ∨ directive.onEvents?.isSome
  onSpans : ∀ before directive after, directives = before ++ directive :: after →
    directive.isOnSpans → directive ∈ filter.onSpans ∨
      ∃ later ∈ after, later.isOnSpans ∧ later.compare directive = .eq
  onEvents : ∀ before directive after, directives = before ++ directive :: after →
    ∀ event, directive.onEvents? = some event → event ∈ filter.onEvents ∨
      ∃ later ∈ after, ∃ other, later.onEvents? = some other ∧ other.compare event = .eq
  onlySpans : ∀ directive ∈ filter.onSpans, directive ∈ directives ∧ directive.isOnSpans
  onlyEvents : ∀ event ∈ filter.onEvents, ∃ directive ∈ directives,
    directive.onEvents? = some event

/-! ### Two ways of reading -/

lemma listOfText_eq_ok_iff {text : String} {directives : List Directive} :
    Directive.listOfText text.toList = .ok directives ↔ AreDirectives directives text := by
  rw [Directive.listOfText, AreDirectives]
  generalize directiveTexts text.toList = pieces
  induction pieces generalizing directives with
  | nil =>
    constructor
    · intro h
      rw [← Except.ok.inj h]
      exact .nil
    · rintro ⟨⟩
      rfl
  | cons piece pieces ih =>
    rw [List.mapM_cons]
    constructor
    · intro h
      cases hpiece : Directive.ofText piece with
      | error bad =>
        rw [hpiece] at h
        contradiction
      | ok directive =>
        cases hrest : pieces.mapM Directive.ofText with
        | error bad =>
          rw [hpiece, hrest] at h
          contradiction
        | ok rest =>
          rw [hpiece, hrest] at h
          rw [← Except.ok.inj h]
          exact .cons hpiece (ih.mp hrest)
    · rintro (_ | ⟨hpiece, hrest⟩)
      rw [hpiece, ih.mpr hrest]
      rfl

lemma AreDirectives.wellFormed {directives : List Directive} {text : String}
    (h : AreDirectives directives text) :
    Directive.wellFormedOfText text.toList = directives := by
  rw [AreDirectives] at h
  rw [Directive.wellFormedOfText]
  generalize directiveTexts text.toList = pieces at h ⊢
  induction h with
  | nil => rfl
  | cons hpiece hrest ih =>
    rw [List.filterMap_cons, hpiece, Except.toOption, ih]

/-! ### Lists in order -/

section InOrder

variable {α : Type} (compare : α → α → Ordering)

lemma mem_insertInOrder (a : α) (sorted : List α) : a ∈ insertInOrder compare a sorted := by
  induction sorted with
  | nil => exact List.mem_cons_self
  | cons b sorted ih =>
    rw [insertInOrder]
    split
    · exact List.mem_cons_self
    · exact List.mem_cons_self
    · exact List.mem_cons_of_mem b ih

lemma mem_insertInOrder_of_mem (a : α) {b : α} {sorted : List α} (h : b ∈ sorted) :
    b ∈ insertInOrder compare a sorted ∨ compare a b = .eq := by
  induction sorted with
  | nil => contradiction
  | cons c sorted ih =>
    rw [insertInOrder]
    split
    · exact .inl (List.mem_cons_of_mem a h)
    · rename_i heq
      rcases List.mem_cons.mp h with rfl | hmem
      · exact .inr heq
      · exact .inl (List.mem_cons_of_mem a hmem)
    · rcases List.mem_cons.mp h with rfl | hmem
      · exact .inl List.mem_cons_self
      · exact (ih hmem).imp_left (List.mem_cons_of_mem c)

lemma mem_of_mem_insertInOrder {a b : α} {sorted : List α}
    (h : b ∈ insertInOrder compare a sorted) : b = a ∨ b ∈ sorted := by
  induction sorted with
  | nil => exact .inl (List.mem_singleton.mp h)
  | cons c sorted ih =>
    rw [insertInOrder] at h
    split at h
    · exact List.mem_cons.mp h
    · exact (List.mem_cons.mp h).imp_right (List.mem_cons_of_mem c)
    · rcases List.mem_cons.mp h with rfl | hmem
      · exact .inr List.mem_cons_self
      · exact (ih hmem).imp_right (List.mem_cons_of_mem c)

/-- What is in order stays there while elements are added, up to an equal one. -/
lemma mem_foldl_insertInOrder {b : α} (as : List α) {sorted : List α} (h : b ∈ sorted) :
    b ∈ as.foldl (fun sorted a => insertInOrder compare a sorted) sorted ∨
      ∃ later ∈ as, compare later b = .eq := by
  induction as generalizing sorted with
  | nil => exact .inl h
  | cons a as ih =>
    rw [List.foldl_cons]
    rcases mem_insertInOrder_of_mem compare a h with hmem | heq
    · refine (ih hmem).imp_right ?_
      rintro ⟨later, hlater, heq⟩
      exact ⟨later, List.mem_cons_of_mem a hlater, heq⟩
    · exact .inr ⟨a, List.mem_cons_self, heq⟩

lemma mem_inOrder (before : List α) (a : α) (after : List α) :
    a ∈ inOrder compare (before ++ a :: after) ∨ ∃ later ∈ after, compare later a = .eq := by
  rw [inOrder, List.foldl_append, List.foldl_cons]
  exact mem_foldl_insertInOrder compare after (mem_insertInOrder compare a _)

lemma mem_of_mem_inOrder {b : α} {as : List α} (h : b ∈ inOrder compare as) : b ∈ as := by
  have hfold : ∀ (as sorted : List α),
      b ∈ as.foldl (fun sorted a => insertInOrder compare a sorted) sorted →
        b ∈ sorted ∨ b ∈ as := by
    intro as
    induction as with
    | nil => exact fun sorted hmem => .inl hmem
    | cons a as ih =>
      intro sorted hmem
      rcases ih _ hmem with hinsert | hmore
      · rcases mem_of_mem_insertInOrder compare hinsert with rfl | hsorted
        · exact .inr List.mem_cons_self
        · exact .inl hsorted
      · exact .inr (List.mem_cons_of_mem a hmore)
  exact (hfold as [] h).resolve_left List.not_mem_nil

end InOrder

/-! ### What a filter holds -/

lemma Directive.onEvents?_of_not_isOnSpans {directive : Directive}
    (h : directive.isOnSpans = false) :
    directive.onEvents? = some ⟨directive.target, none, directive.threshold⟩ := by
  rw [isOnSpans, Bool.or_eq_false_iff, Option.isSome_eq_false_iff, Option.isSome_eq_false_iff,
    Option.isNone_iff_eq_none, Option.isNone_iff_eq_none] at h
  rw [onEvents?, h.1, h.2]

lemma Directive.field_of_isOnSpans {directive : Directive} {event : EventDirective}
    (h : directive.isOnSpans) (hevent : directive.onEvents? = some event) :
    event.field.isSome := by
  rw [onEvents?] at hevent
  split at hevent
  · rename_i hspan hfield
    simp [isOnSpans, hspan, hfield] at h
  · rw [← Option.some.inj hevent]
    rfl
  · contradiction

lemma EventDirective.field_of_compare {a b : EventDirective} (h : a.compare b = .eq) :
    a.field.isSome = b.field.isSome := by
  rw [compare, Ordering.swap_eq_eq, Ordering.then_eq_eq, Ordering.then_eq_eq] at h
  exact compare_eq_iff_eq.mp h.2.1

section OfDirectives

variable {directives before after : List Directive} {directive : Directive}

lemma mem_onSpans (h : directive.isOnSpans) :
    directive ∈ (ofDirectives (before ++ directive :: after)).onSpans ∨
      ∃ later ∈ after, later.isOnSpans ∧ later.compare directive = .eq := by
  rw [ofDirectives]
  dsimp only
  rw [List.filter_append, List.filter_cons_of_pos h]
  refine (mem_inOrder Directive.compare _ directive _).imp_right ?_
  rintro ⟨later, hlater, heq⟩
  obtain ⟨hmem, hspans⟩ := List.mem_filter.mp hlater
  exact ⟨later, hmem, hspans, heq⟩

lemma mem_onEvents {event : EventDirective} (h : directive.onEvents? = some event) :
    event ∈ (ofDirectives (before ++ directive :: after)).onEvents ∨
      ∃ later ∈ after, ∃ other, later.onEvents? = some other ∧ other.compare event = .eq := by
  have hlater : ∀ {keeps : Directive → Bool} {other : EventDirective},
      other ∈ (after.filter keeps).filterMap Directive.onEvents? →
        ∃ later ∈ after, later.onEvents? = some other := by
    intro keeps other hother
    obtain ⟨later, hmem, hsome⟩ := List.mem_filterMap.mp hother
    exact ⟨later, (List.mem_filter.mp hmem).1, hsome⟩
  rw [ofDirectives]
  dsimp only
  by_cases hspans : directive.isOnSpans
  · rw [List.filter_append (p := Directive.isOnSpans), List.filter_cons_of_pos hspans,
      List.filterMap_append, List.filterMap_cons_some h, ← List.append_assoc]
    refine (mem_inOrder EventDirective.compare _ event _).imp_right ?_
    rintro ⟨other, hother, heq⟩
    obtain ⟨later, hmem, hsome⟩ := hlater hother
    exact ⟨later, hmem, other, hsome, heq⟩
  · have hplain : (!directive.isOnSpans) = true := by simpa using hspans
    rw [List.filter_append (p := fun other : Directive => !other.isOnSpans),
      List.filter_cons_of_pos (p := fun other : Directive => !other.isOnSpans) hplain,
      List.filterMap_append, List.filterMap_cons_some h, List.append_assoc, List.cons_append]
    refine (mem_inOrder EventDirective.compare _ event _).imp_right ?_
    rintro ⟨other, hother, heq⟩
    rcases List.mem_append.mp hother with hmore | hfields
    · obtain ⟨later, hmem, hsome⟩ := hlater hmore
      exact ⟨later, hmem, other, hsome, heq⟩
    · -- a directive that names a field takes no place of one that names none
      obtain ⟨later, hmem, hsome⟩ := List.mem_filterMap.mp hfields
      have hfield := EventDirective.field_of_compare heq
      rw [Directive.field_of_isOnSpans (List.mem_filter.mp hmem).2 hsome] at hfield
      rw [Bool.not_eq_true] at hspans
      rw [Directive.onEvents?_of_not_isOnSpans hspans] at h
      rw [← Option.some.inj h] at hfield
      contradiction

lemma isFilterOf_ofDirectives (directives : List Directive) :
    (ofDirectives directives).IsFilterOf directives := by
  constructor
  · rfl
  · intro directive hdirective
    cases hspans : directive.isOnSpans with
    | true => exact .inl rfl
    | false =>
      right
      rw [Directive.onEvents?_of_not_isOnSpans hspans]
      rfl
  · rintro before directive after rfl hspans
    exact mem_onSpans hspans
  · rintro before directive after rfl event hevent
    exact mem_onEvents hevent
  · intro directive hdirective
    exact List.mem_filter.mp (mem_of_mem_inOrder _ hdirective)
  · intro event hevent
    have hmem := mem_of_mem_inOrder _ hevent
    rw [← List.filterMap_append] at hmem
    obtain ⟨directive, hdirective, hsome⟩ := List.mem_filterMap.mp hmem
    refine ⟨directive, ?_, hsome⟩
    rcases List.mem_append.mp hdirective with hplain | hfields
    · exact (List.mem_filter.mp hplain).1
    · exact (List.mem_filter.mp hfields).1

end OfDirectives

/-- With a level that validation does not complain of, the filter of a start is that of all
directives of the variable, if each of them is one, and else that of all directives of the level,
which each are one; errors are shown where there are none. -/
theorem ofSettings_isFilterOf (process : ProcessEnvironment) (settings : Settings)
    (accepted : ∀ error ∈ settings.faults, error.name ≠ .level) :
    (∀ text directives, process.text? "RUST_LOG" = some text → AreDirectives directives text →
      ∀ level, (ofSettings process level).IsFilterOf directives) ∧
    ((∀ text directives, process.text? "RUST_LOG" = some text → ¬AreDirectives directives text) →
      ∃ directives, AreDirectives directives settings.log.level ∧
        Directive.wellFormedOfText settings.log.level.toList = directives ∧
        (ofSettings process settings.log.level).IsFilterOf
          (if directives = [] then [⟨none, none, none, .upTo .error⟩] else directives)) := by
  constructor
  · intro text directives htext hdirectives level
    have hfilter : ofSettings process level = ofDirectives directives := by
      rw [ofSettings, htext]
      dsimp only
      rw [listOfText_eq_ok_iff.mpr hdirectives]
    rw [hfilter]
    exact isFilterOf_ofDirectives directives
  · intro hnone
    obtain ⟨directives, hlevel⟩ := Settings.listOfText_of_faults accepted
    have hdirectives := listOfText_eq_ok_iff.mp hlevel
    have hlenient : ofSettings process settings.log.level = lenient settings.log.level := by
      rw [ofSettings]
      split
      · rename_i text htext
        split
        · rename_i others hothers
          exact absurd (listOfText_eq_ok_iff.mp hothers) (hnone text others htext)
        · rfl
      · rfl
    have hfilter : lenient settings.log.level = ofDirectives
        (if directives = [] then [⟨none, none, none, .upTo .error⟩] else directives) := by
      rw [lenient, hdirectives.wellFormed]
      by_cases hempty : directives = []
      · rw [if_pos hempty, if_pos (List.isEmpty_iff.mpr hempty), errorsOnly]
      · rw [if_neg hempty, if_neg (List.isEmpty_iff.not.mpr hempty)]
    refine ⟨directives, hdirectives, hdirectives.wellFormed, ?_⟩
    rw [hlenient, hfilter]
    exact isFilterOf_ofDirectives _

/-- A level with two directives for one area, and one for a span in it. -/
def visitsLevel : String := "site=debug,warn,site[visit\x7bpage=1\x7d]=trace,site=info"

theorem ofSettings_isFilterOf_visitsLevel :
    let malformed : ProcessEnvironment := ⟨[("RUST_LOG", "off,site=loud")]⟩
    let wellFormed : ProcessEnvironment := ⟨[("RUST_LOG", "off,site=trace")]⟩
    let settings : Settings :=
      { Settings.defaults malformed with log := ⟨visitsLevel, .pretty⟩ }
    let directives : List Directive :=
      [⟨some "site", none, none, .upTo .debug⟩, ⟨none, none, none, .upTo .warn⟩,
        ⟨some "site", some "visit", some ⟨"page", some (.natural 1)⟩, .upTo .trace⟩,
        ⟨some "site", none, none, .upTo .info⟩]
    (∀ error ∈ settings.faults, error.name ≠ .level) ∧ AreDirectives directives visitsLevel ∧
      (ofSettings malformed visitsLevel).IsFilterOf directives ∧
      (ofSettings malformed visitsLevel).onEvents =
        [⟨some "site", none, .upTo .info⟩, ⟨none, none, .upTo .warn⟩] ∧
      (ofSettings wellFormed visitsLevel).IsFilterOf
        [⟨none, none, none, .off⟩, ⟨some "site", none, none, .upTo .trace⟩] := by
  intro malformed wellFormed settings directives
  have hfaults : settings.faults = [] := by decide +kernel
  have haccepted : ∀ error ∈ settings.faults, error.name ≠ .level := by
    rw [hfaults]
    exact fun error herror => absurd herror List.not_mem_nil
  have hlevel : AreDirectives directives visitsLevel := by
    have hlist : Directive.listOfText visitsLevel.toList = .ok directives := by decide +kernel
    exact listOfText_eq_ok_iff.mp hlist
  have hnone : ∀ text others, malformed.text? "RUST_LOG" = some text →
      ¬AreDirectives others text := by
    intro text others htext hothers
    have hvariable : malformed.text? "RUST_LOG" = some "off,site=loud" := by cbv
    have hlist : Directive.listOfText "off,site=loud".toList = .error .unknownLevel := by cbv
    rw [hvariable] at htext
    rw [← listOfText_eq_ok_iff, ← Option.some.inj htext, hlist] at hothers
    contradiction
  obtain ⟨given, -, hgiven, hfilter⟩ :=
    (ofSettings_isFilterOf malformed settings haccepted).2 hnone
  obtain rfl : directives = given := hlevel.wellFormed.symm.trans hgiven
  have hevents : (ofSettings malformed visitsLevel).onEvents =
      [⟨some "site", none, .upTo .info⟩, ⟨none, none, .upTo .warn⟩] := by decide +kernel
  refine ⟨haccepted, hlevel, hfilter, hevents, ?_⟩
  have hvariable : wellFormed.text? "RUST_LOG" = some "off,site=trace" := by cbv
  have hlist : Directive.listOfText "off,site=trace".toList =
      .ok [⟨none, none, none, .off⟩, ⟨some "site", none, none, .upTo .trace⟩] := by cbv
  exact (ofSettings_isFilterOf wellFormed settings haccepted).1 _ _ hvariable
    (listOfText_eq_ok_iff.mp hlist) visitsLevel

end SiteBoot.LogFilter
