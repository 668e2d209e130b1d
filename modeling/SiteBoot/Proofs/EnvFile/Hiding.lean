import SiteBoot.Proofs.EnvFile.Agreement
import SiteBoot.Proofs.Text.RawText
/-!
# The environment hides the process

References are resolved in the layered environment before they are looked for in the process. If the
environment has every variable of the process, nothing is left to be found there, and an overlay is
the same under any process of that kind, as long as the scanners agree on the file. A name with an
equals sign in it is another matter: the process looks for it in the values of its variables, too.
-/

namespace SiteBoot

/-! ### Names in a process -/

namespace RawText

lemma dropStart?_eq_none {name found : String} (hname : '=' ∉ name.toList)
    (hnonempty : (ofString name).bytes ≠ []) (hfound : '=' ∉ found.toList.tail)
    (hne : found ≠ name) (value : RawText) :
    (ofString found ++ ofString "=" ++ value).dropStart? (ofString name ++ ofString "=") =
      none := by
  have hbyte : 0x3D ∉ (ofString name).bytes := (equals_mem_bytes_iff name).not.mpr hname
  refine if_neg fun hprefix => ?_
  obtain ⟨rest, hrest⟩ := List.isPrefixOf_iff_prefix.mp hprefix
  have hbytes : (ofString name).bytes ++ 0x3D :: rest =
      (ofString found).bytes ++ 0x3D :: value.bytes := by
    have hsign : (ofString "=").bytes = [0x3D] := by decide
    simpa [hsign] using hrest
  have hother : 0x3D ∉ (ofString found).bytes := by
    rw [equals_mem_bytes_iff]
    intro hequals
    cases hchars : found.toList with
    | nil => simp [hchars] at hequals
    | cons c chars =>
      -- the name that is looked for would have to begin with the equals sign
      rw [hchars, List.tail_cons] at hfound
      obtain rfl : '=' = c := by
        rw [hchars, List.mem_cons] at hequals
        exact hequals.resolve_right hfound
      obtain ⟨first, others, hbegin⟩ := List.exists_cons_of_ne_nil hnonempty
      have hsign : String.utf8EncodeChar '=' = [0x3D] := by decide
      rw [bytes_ofString found, hchars, hbegin, List.flatMap_cons, hsign] at hbytes
      rw [hbegin, List.mem_cons, not_or] at hbyte
      exact hbyte.1 (List.cons.inj hbytes).1.symm
  exact hne (ofString_injective (congrArg mk (eq_of_append_cons hbyte hother hbytes).symm))

end RawText

/-- The variables of the process are set in the environment. Only the first character of a name can
be an equals sign. -/
def ProcessEnvironment.CoveredBy (process : ProcessEnvironment) (env : Environment) : Prop :=
  ∀ entry ∈ process.entries, ∃ name : String,
    entry.1 = RawText.ofString name ∧ '=' ∉ name.toList.tail ∧ env.has name

namespace ProcessEnvironment.CoveredBy

variable {process other : ProcessEnvironment} {env : Environment}

lemma text?_eq_none (h : process.CoveredBy env) {name : String} (hname : '=' ∉ name.toList)
    (hmissing : env.has name = false) : process.text? name = none := by
  have hget : process.get? (RawText.ofString name) = none := by
    rw [ProcessEnvironment.get?]
    split
    · rfl
    · rename_i hnonempty
      rw [List.findSome?_eq_none_iff]
      rintro ⟨raw, value⟩ hentry
      obtain ⟨found, rfl, hequals, hhas⟩ := h _ hentry
      refine RawText.dropStart?_eq_none hname ?_ hequals ?_ value
      · rw [RawText.isEmpty, List.isEmpty_iff] at hnonempty
        exact hnonempty
      · rintro rfl
        rw [hhas] at hmissing
        contradiction
  rw [ProcessEnvironment.text?, hget]
  rfl

lemma valueIn_eq (h : process.CoveredBy env) (hother : other.CoveredBy env) {scope : Environment}
    (hgrows : ∀ name, env.has name → scope.has name) {name : String} (hname : '=' ∉ name.toList) :
    scope.valueIn process name = scope.valueIn other name := by
  rw [Environment.valueIn, Environment.valueIn]
  cases hvalue : scope.get? name with
  | some value => rfl
  | none =>
    have hmissing : env.has name = false := by
      by_contra hhas
      have hscope := hgrows name (Bool.not_eq_false _ ▸ hhas)
      rw [Environment.has, hvalue] at hscope
      contradiction
    rw [h.text?_eq_none hname hmissing, hother.text?_eq_none hname hmissing]

end ProcessEnvironment.CoveredBy

namespace EnvFile

/-! ### References -/

lemma expand_congr {value? other? : List Char → Option (List Char)} {raw : List Char}
    (h : ∀ name ∈ references raw, value? name = other? name) :
    expand value? raw = expand other? raw := by
  rw [expand, expand]
  refine List.flatMap_congr fun piece hpiece => ?_
  cases piece with
  | char c => rfl
  | reference name fallback =>
    have hname : name ∈ references raw := List.mem_filterMap.mpr ⟨_, hpiece, rfl⟩
    rw [Piece.expand, Piece.expand, h name hname]

section Sourcing

variable {base : Environment} {process other : ProcessEnvironment}

lemma source_eq_of_coveredBy (hprocess : process.CoveredBy base) (hother : other.CoveredBy base)
    {given : List Assignment}
    (hnames : ∀ assignment ∈ given, ∀ name ∈ references assignment.raw, '=' ∉ name)
    {scope : Environment} (hgrows : ∀ name, base.has name → scope.has name) :
    source process scope given = source other scope given := by
  induction given generalizing scope with
  | nil => rfl
  | cons first rest ih =>
    obtain ⟨hfirst, hrest⟩ := List.forall_mem_cons.mp hnames
    have hvalue : first.valueIn process scope = first.valueIn other scope := by
      rw [Assignment.valueIn, Assignment.valueIn]
      refine congrArg String.ofList (expand_congr fun name hname => ?_)
      have hequals : '=' ∉ (String.ofList name).toList := by
        rw [String.toList_ofList]
        exact hfirst name hname
      rw [charValue?, charValue?, hprocess.valueIn_eq hother hgrows hequals]
    change source process (scope.set first.name (first.valueIn process scope)) rest =
      source other (scope.set first.name (first.valueIn other scope)) rest
    rw [hvalue]
    exact ih hrest fun name hname => Environment.has_set (hgrows name hname) _ _

end Sourcing

/-- What a file says is the same under two processes, if none of its lines looks anything up. -/
lemma Item.ofLines_congr {lines : List LogicalLine}
    (h : ∀ line, .whole line ∈ lines → ∀ lookup other,
      Assignment.ofLine? lookup line = Assignment.ofLine? other line)
    (process? other? : List Char → Option (List Char))
    (earlier before : List (List Char × List Char)) :
    ofLines process? earlier lines = ofLines other? before lines := by
  induction lines generalizing earlier before with
  | nil => rfl
  | cons line lines ih =>
    have hrest : ∀ text, .whole text ∈ lines → ∀ lookup other,
        Assignment.ofLine? lookup text = Assignment.ofLine? other text :=
      fun text htext => h text (List.mem_cons_of_mem _ htext)
    cases line with
    | unfinished text => exact congrArg (Item.skipped text :: ·) (ih hrest earlier before)
    | whole text =>
      let lookup name := ((process? name).orElse fun _ => earlier.lookup name).getD []
      let other name := ((other? name).orElse fun _ => before.lookup name).getD []
      have htext := h text List.mem_cons_self lookup other
      rw [ofLines, ofLines, htext]
      cases Assignment.ofLine? other text with
      | error skipped => exact congrArg (Item.skipped skipped :: ·) (ih hrest earlier before)
      | ok item? =>
        cases item? with
        | none => exact ih hrest earlier before
        | some item => exact congrArg (Item.assignment item :: ·) (ih hrest _ _)

/-- An overlay is the same under any two processes whose variables the environment has, if the
scanners agree on the file and no reference has an equals sign in its name. -/
theorem overlayFile_hidesProcess (base : Environment) (process other : ProcessEnvironment)
    (files : FileTree) (path : RawText) (content : String)
    (h : files.readText path = .ok content) (scannersAgree : ScannersAgree content)
    (names : ∀ given ∈ assignments ((Marked.ofText content.toList).items process),
      ∀ name ∈ references given.raw, '=' ∉ name)
    (hprocess : process.CoveredBy base) (hother : other.CoveredBy base) :
    base.overlayFile process files path = base.overlayFile other files path ∧
      ∀ line, .whole line ∈ LogicalLine.ofText (Marked.ofText content.toList).text →
        ∀ lookup other, Assignment.ofLine? lookup line = Assignment.ofLine? other line := by
  refine ⟨?_, fun line hline => scannersAgree.ofLine?_eq hline⟩
  have hitems : (Marked.ofText content.toList).items process =
      (Marked.ofText content.toList).items other :=
    Item.ofLines_congr (fun line hline => scannersAgree.ofLine?_eq hline) _ _ _ _
  obtain ⟨henv, hcount, hremarks⟩ := overlayText_eq base process content rfl
  obtain ⟨henv', hcount', hremarks'⟩ := overlayText_eq base other content rfl
  have hsource := source_eq_of_coveredBy hprocess hother names (fun _ hname => hname)
  rw [hsource, hitems, ← henv'] at henv
  rw [hitems, ← hcount'] at hcount
  rw [hitems, ← hremarks'] at hremarks
  rw [Environment.overlayFile, Environment.overlayFile, h]
  dsimp only
  rw [henv, hcount, hremarks]

/-- A file with references, and with dollar signs in comments, after a backslash and in single
quotes. -/
def hostText : String := "# $HOST\nexport A=\"$HOST\\$\" # $A\nexport B='$HOST'\n"

def baseHost : Environment := Environment.empty.set "HOST" "b"

def processWith (name value : String) : ProcessEnvironment :=
  ⟨[(.ofString name, .ofString value)]⟩

lemma coveredBy_processWith {env : Environment} {name : String} (hname : '=' ∉ name.toList.tail)
    (hhas : env.has name) (value : String) : (processWith name value).CoveredBy env := by
  intro entry hentry
  rw [List.mem_singleton.mp hentry]
  exact ⟨name, rfl, hname, hhas⟩

lemma coveredBy_empty (env : Environment) : ProcessEnvironment.CoveredBy ⟨[]⟩ env :=
  fun _ hentry => absurd hentry List.not_mem_nil

theorem overlayFile_hostText :
    ScannersAgree hostText ∧
      (∀ given ∈ assignments ((Marked.ofText hostText.toList).items (processWith "HOST" "old")),
        ∀ name ∈ references given.raw, '=' ∉ name) ∧
      (processWith "HOST" "old").CoveredBy baseHost ∧
      (baseHost.overlayFile (processWith "HOST" "old") (profile hostText) ".bashrc").1 =
        .ok ((baseHost.set "A" "b$").set "B" "$HOST") := by
  have hagree : ScannersAgree hostText := by decide
  have hnames : ∀ given ∈ assignments
      ((Marked.ofText hostText.toList).items (processWith "HOST" "old")),
      ∀ name ∈ references given.raw, '=' ∉ name := by
    decide +kernel
  have hcovered : (processWith "HOST" "old").CoveredBy baseHost :=
    coveredBy_processWith (by decide) rfl "old"
  refine ⟨hagree, hnames, hcovered, ?_⟩
  rw [(overlayFile_hidesProcess baseHost (processWith "HOST" "old") ⟨[]⟩ (profile hostText)
    ".bashrc" hostText (readText_profile _) hagree hnames hcovered (coveredBy_empty baseHost)).1,
    overlayFile_profile]
  cbv

/-- After an escaped blank the first look sees a comment where the reading of values sees none, and
leaves it the dollar sign. -/
theorem process_seen_in_comment :
    (processWith "HOST" "old").CoveredBy baseHost ∧ ProcessEnvironment.CoveredBy ⟨[]⟩ baseHost ∧
      (baseHost.overlayFile (processWith "HOST" "old") (profile "export K=a\\ #$HOST\n")
        ".bashrc").1 = .ok (baseHost.set "K" "a #old") ∧
      (baseHost.overlayFile ⟨[]⟩ (profile "export K=a\\ #$HOST\n") ".bashrc").1 =
        .ok (baseHost.set "K" "a #") := by
  rw [overlayFile_profile, overlayFile_profile]
  refine ⟨coveredBy_processWith (by decide) rfl "old", coveredBy_empty baseHost, ?_, ?_⟩
  · cbv
  · cbv

end EnvFile

end SiteBoot
