import Mathlib
import SiteBoot.Toml.Document
/-!
# A grammar of documents

Documents of tables in which every line gives a basic string or an array of such strings to a bare
key. What the grammar derives, the reader accepts, and it reads the tables of the derivation.

A relation of the grammar has three places: a text, what its beginning stands for, and what follows
that beginning.
-/

namespace SiteBoot.Toml

/-! ### Derivations -/

/-- The number that hexadecimal digits spell after those that have been read. -/
def hexValue? (value : Nat) : List Char → Option Nat
  | [] => some value
  | c :: rest => (hexDigit? c).bind fun digit => hexValue? (value * 16 + digit) rest

/-- A basic string after its opening quotes, each character as itself or in an escape. -/
inductive BasicString : List Char → List Char → List Char → Prop where
  | close (rest : List Char) : BasicString ('"' :: rest) [] rest
  | plain {c : Char} {text value rest : List Char} (hplain : isPlainChar c) (hquote : c ≠ '"')
      (hslash : c ≠ '\\') (h : BasicString text value rest) :
      BasicString (c :: text) (c :: value) rest
  | short {letter c : Char} {text value rest : List Char} (hletter : escaped? letter = some c)
      (h : BasicString text value rest) : BasicString ('\\' :: letter :: text) (c :: value) rest
  | number {mark c : Char} {digits text value rest : List Char}
      (hmark : mark = 'u' ∧ digits.length = 4 ∨ mark = 'U' ∧ digits.length = 8)
      (hdigits : hexValue? 0 digits = some c.toNat) (h : BasicString text value rest) :
      BasicString ('\\' :: mark :: (digits ++ text)) (c :: value) rest

/-- The items of an array after its opening bracket. A comma may follow the last. -/
inductive Strings : List Char → List String → List Char → Prop where
  | close (rest : List Char) : Strings (']' :: rest) [] rest
  | last {text value rest : List Char} (h : BasicString text value (']' :: rest)) :
      Strings ('"' :: text) [String.ofList value] rest
  | next {text value more rest : List Char} {items : List String}
      (h : BasicString text value (',' :: ' ' :: more)) (hmore : Strings more items rest) :
      Strings ('"' :: text) (String.ofList value :: items) rest

/-- A value: a string or an array of strings. -/
inductive Written : List Char → Value → List Char → Prop where
  | string {text value rest : List Char} (h : BasicString text value rest) :
      Written ('"' :: text) (.string (String.ofList value)) rest
  | array {text rest : List Char} {items : List String} (h : Strings text items rest) :
      Written ('[' :: text) (.array (items.map .string)) rest

/-- The end of a line, perhaps with a comment, or of the document. -/
inductive LineEnd : List Char → List Char → Prop where
  | newline (rest : List Char) : LineEnd ('\n' :: rest) rest
  | last : LineEnd [] []
  | comment {text : List Char} (rest : List Char) (hplain : ∀ c ∈ text, isPlainChar c) :
      LineEnd (' ' :: '#' :: (text ++ '\n' :: rest)) rest

/-- Lines that are empty or hold a comment. -/
inductive Skipped : List Char → List Char → Prop where
  | none (rest : List Char) : Skipped rest rest
  | empty {text rest : List Char} (h : Skipped text rest) : Skipped ('\n' :: text) rest
  | comment {line text rest : List Char} (hplain : ∀ c ∈ line, isPlainChar c)
      (h : Skipped text rest) : Skipped ('#' :: (line ++ '\n' :: text)) rest

structure IsBareKey (key : List Char) : Prop where
  ne_nil : key ≠ []
  forall_mem : ∀ c ∈ key, isBareKeyChar c

/-- The lines of a table. -/
inductive Assigned : List Char → List (String × Value) → List Char → Prop where
  | none (rest : List Char) : Assigned rest [] rest
  | line {text key spelled tail more rest : List Char} {value : Value}
      {fields : List (String × Value)}
      (hskipped : Skipped text (key ++ ' ' :: '=' :: ' ' :: spelled)) (hkey : IsBareKey key)
      (hvalue : Written spelled value tail) (hend : LineEnd tail more)
      (hmore : Assigned more fields rest) :
      Assigned text ((String.ofList key, value) :: fields) rest

/-- The tables of a document, each after a line with its name. -/
inductive Tables : List Char → List (String × List (String × Value)) → Prop where
  | none {text : List Char} (hskipped : Skipped text []) : Tables text []
  | table {text name tail lines rest : List Char} {fields : List (String × Value)}
      {tables : List (String × List (String × Value))}
      (hskipped : Skipped text ('[' :: (name ++ ']' :: tail))) (hname : IsBareKey name)
      (hend : LineEnd tail lines) (hfields : Assigned lines fields rest)
      (hrest : Tables rest tables) : Tables text ((String.ofList name, fields) :: tables)

def document (tables : List (String × List (String × Value))) : List (String × Value) :=
  tables.map fun table => (table.1, .table table.2)

/-- A text of tables, none of which is named twice and none of which has a key twice. -/
structure IsDocument (text : String) (tables : List (String × List (String × Value))) : Prop where
  text : Tables text.toList tables
  names : (tables.map Prod.fst).Nodup
  keys : ∀ table ∈ tables, (table.2.map Prod.fst).Nodup

/-! ### Strings -/

lemma readBasic_number {digits : List Char} (hdigits : digits ≠ []) {value : Nat} {c : Char}
    (h : hexValue? value digits = some c.toNat) (rest : List Char) :
    readBasic (.number digits.length value) (digits ++ rest) =
      (readBasic .plain rest).map fun (text, rest) => (c :: text, rest) := by
  induction digits generalizing value with
  | nil => contradiction
  | cons digit digits ih =>
    obtain ⟨n, hn, hmore⟩ := Option.bind_eq_some_iff.mp h
    rw [List.cons_append, readBasic, hn]
    cases digits with
    | nil =>
      have hvalue : value * 16 + n = c.toNat := by simpa [hexValue?] using hmore
      have hvalid : c.toNat.isValidChar := c.valid
      have hchar : char? c.toNat = some c := by
        rw [char?, if_pos hvalid, Char.ofNat_toNat]
      simp [hvalue, hchar]
    | cons next rest' =>
      have hread := ih (List.cons_ne_nil next rest') hmore
      simpa using hread

lemma BasicString.read {text value rest : List Char} (h : BasicString text value rest) :
    readBasic .plain text = some (value, rest) := by
  induction h with
  | close rest => rfl
  | plain hplain hquote hslash h ih => simp [readBasic, hplain, hquote, hslash, ih]
  | @short letter c text value rest hletter h ih =>
    have hu : letter ≠ 'u' := by
      rintro rfl
      simp [escaped?] at hletter
    have hU : letter ≠ 'U' := by
      rintro rfl
      simp [escaped?] at hletter
    simp [readBasic, hletter, hu, hU, ih]
  | @number mark c digits text value rest hmark hdigits h ih =>
    have hread : readBasic .plain ('\\' :: mark :: (digits ++ text)) =
        readBasic (.number digits.length 0) (digits ++ text) := by
      obtain ⟨rfl, hlength⟩ | ⟨rfl, hlength⟩ := hmark
      · rw [hlength]
        rfl
      · rw [hlength]
        rfl
    have hne : digits ≠ [] := by
      rintro rfl
      simp at hmark
    rw [hread, readBasic_number hne hdigits, ih]
    rfl

lemma BasicString.readString? {text value rest : List Char} (h : BasicString text value rest)
    (hrest : rest.head? ≠ some '"') : readString? ('"' :: text) = some (value, rest) := by
  rw [← h.read]
  cases h with
  | close rest =>
    cases rest with
    | nil => rfl
    | cons c rest =>
      have hc : c ≠ '"' := fun heq => hrest (by rw [heq]; rfl)
      rw [Toml.readString?]
      simp [hc]
  | plain hplain hquote hslash h =>
    rw [Toml.readString?]
    simp [hquote]
  | short hletter h => rfl
  | number hmark hdigits h => rfl

lemma BasicString.length_lt {text value rest : List Char} (h : BasicString text value rest) :
    rest.length < text.length := by
  induction h with
  | close rest => simp
  | plain hplain hquote hslash h ih =>
    rw [List.length_cons]
    omega
  | short hletter h ih =>
    rw [List.length_cons, List.length_cons]
    omega
  | number hmark hdigits h ih =>
    rw [List.length_cons, List.length_cons, List.length_append]
    omega

/-! ### Values -/

lemma skipTrivia?_of_visible {c : Char} (hblank : c ≠ ' ') (htab : c ≠ '\t') (hnewline : c ≠ '\n')
    (hreturn : c ≠ '\r') (hcomment : c ≠ '#') (rest : List Char) :
    skipTrivia? false (c :: rest) = some (c :: rest) := by
  rw [skipTrivia?]
  · simp [hblank, htab, hcomment]
  · intro heq
    exact absurd heq hnewline
  · intro rest' heq
    exact absurd heq hreturn

lemma Written.read_string {text value rest : List Char} (h : BasicString text value rest)
    (hrest : rest.head? ≠ some '"') (depth : Nat) :
    readValue? depth ('"' :: text) = some (.string (String.ofList value), rest) := by
  have hsimple : readSimple? ('"' :: text) = some (.string (String.ofList value), rest) := by
    rw [readSimple?, h.readString? hrest]
    rfl
  cases depth with
  | zero => exact hsimple
  | succ depth => exact hsimple

lemma readItems?_blank (read? : List Char → Option (Value × List Char)) (fuel : Nat)
    (text : List Char) : readItems? read? fuel (' ' :: text) = readItems? read? fuel text := by
  cases fuel with
  | zero => rfl
  | succ fuel =>
    have hskip : skipTrivia? false (' ' :: text) = skipTrivia? false text := by
      simp [skipTrivia?]
    rw [readItems?, readItems?, hskip]

lemma Strings.read {text rest : List Char} {items : List String} (h : Strings text items rest)
    (depth : Nat) {fuel : Nat} (hfuel : text.length < fuel) :
    readItems? (readValue? depth) fuel text = some (items.map .string, rest) := by
  induction h generalizing fuel with
  | close rest =>
    obtain ⟨fuel, rfl⟩ := Nat.exists_eq_add_one_of_ne_zero (Nat.ne_zero_of_lt hfuel)
    rfl
  | last h =>
    obtain ⟨fuel, rfl⟩ := Nat.exists_eq_add_one_of_ne_zero (Nat.ne_zero_of_lt hfuel)
    have hitem := Written.read_string h (by simp) depth
    simp [readItems?, skipTrivia?_of_visible, hitem]
  | next h hmore ih =>
    obtain ⟨fuel, rfl⟩ := Nat.exists_eq_add_one_of_ne_zero (Nat.ne_zero_of_lt hfuel)
    have hitem := Written.read_string h (by simp) depth
    have hlength := h.length_lt
    rw [List.length_cons] at hfuel
    rw [List.length_cons, List.length_cons] at hlength
    have hitems : readItems? (readValue? depth) fuel _ = some _ := ih (by omega)
    simp [readItems?, skipTrivia?_of_visible, hitem, readItems?_blank, hitems]

lemma Strings.length_lt {text rest : List Char} {items : List String}
    (h : Strings text items rest) : rest.length < text.length := by
  induction h with
  | close rest => simp
  | last h =>
    have hlength := h.length_lt
    rw [List.length_cons] at hlength ⊢
    omega
  | next h hmore ih =>
    have hlength := h.length_lt
    rw [List.length_cons, List.length_cons] at hlength
    rw [List.length_cons]
    omega

lemma Written.length_lt {text rest : List Char} {value : Value} (h : Written text value rest) :
    rest.length < text.length := by
  cases h with
  | string h => exact Nat.lt_succ_of_lt h.length_lt
  | array h => exact Nat.lt_succ_of_lt h.length_lt

lemma Written.read {text rest : List Char} {value : Value} (h : Written text value rest)
    (hrest : rest.head? ≠ some '"') {depth : Nat} (hdepth : 0 < depth) :
    readValue? depth text = some (value, rest) := by
  obtain ⟨depth, rfl⟩ := Nat.exists_eq_add_one_of_ne_zero (Nat.ne_of_gt hdepth)
  cases h with
  | string h => exact read_string h hrest (depth + 1)
  | array h =>
    rw [readValue?, h.read depth (Nat.lt_succ_self _)]
    rfl

/-! ### Lines -/

lemma ne_newline_of_isPlainChar {c : Char} (h : isPlainChar c) : c ≠ '\n' ∧ c ≠ '\r' := by
  constructor
  · rintro rfl
    exact absurd h (by decide)
  · rintro rfl
    exact absurd h (by decide)

lemma skipComment?_append {text : List Char} (hplain : ∀ c ∈ text, isPlainChar c)
    (rest : List Char) : skipComment? (text ++ '\n' :: rest) = some ('\n' :: rest) := by
  induction text with
  | nil => rfl
  | cons c text ih =>
    obtain ⟨hc, htext⟩ := List.forall_mem_cons.mp hplain
    obtain ⟨hnewline, hreturn⟩ := ne_newline_of_isPlainChar hc
    rw [List.cons_append, skipComment?]
    · rw [if_pos hc, ih htext]
    · intro heq
      exact absurd heq hnewline
    · intro rest' heq
      exact absurd heq hreturn

lemma skipTrivia?_comment {text : List Char} (hplain : ∀ c ∈ text, isPlainChar c)
    (rest : List Char) : skipTrivia? true (text ++ '\n' :: rest) = skipTrivia? false rest := by
  induction text with
  | nil => rfl
  | cons c text ih =>
    obtain ⟨hc, htext⟩ := List.forall_mem_cons.mp hplain
    obtain ⟨hnewline, hreturn⟩ := ne_newline_of_isPlainChar hc
    rw [List.cons_append, skipTrivia?]
    · rw [if_pos rfl, if_pos hc, ih htext]
    · intro heq
      exact absurd heq hnewline
    · intro rest' heq
      exact absurd heq hreturn

lemma LineEnd.read {text rest : List Char} (h : LineEnd text rest) : endLine? text = some rest := by
  cases h with
  | newline rest => rfl
  | last => rfl
  | comment rest hplain =>
    have hcomment := skipComment?_append hplain rest
    simp [endLine?, skipBlanks, hcomment, takeLineEnd?]

lemma LineEnd.head? {text rest : List Char} (h : LineEnd text rest) : text.head? ≠ some '"' := by
  cases h with
  | newline rest => simp
  | last => simp
  | comment rest hplain => simp

lemma LineEnd.length_le {text rest : List Char} (h : LineEnd text rest) :
    rest.length ≤ text.length := by
  cases h with
  | newline rest => simp
  | last => simp
  | comment rest hplain =>
    simp
    omega

lemma Skipped.read {text rest : List Char} (h : Skipped text rest) :
    skipTrivia? false text = skipTrivia? false rest := by
  induction h with
  | none rest => rfl
  | empty h ih => exact ih
  | @comment line text rest hplain h ih =>
    rw [← ih, ← skipTrivia?_comment hplain text]
    rfl

lemma Skipped.length_le {text rest : List Char} (h : Skipped text rest) :
    rest.length ≤ text.length := by
  induction h with
  | none rest => exact Nat.le_refl _
  | empty h ih =>
    rw [List.length_cons]
    omega
  | comment hplain h ih =>
    rw [List.length_cons, List.length_append, List.length_cons]
    omega

/-! ### Keys -/

lemma ne_of_isBareKeyChar {c d : Char} (hc : isBareKeyChar c) (hd : isBareKeyChar d = false) :
    c ≠ d := by
  rintro rfl
  rw [hd] at hc
  contradiction

namespace IsBareKey

variable {key : List Char}

lemma exists_cons (h : IsBareKey key) : ∃ c rest, key = c :: rest ∧ isBareKeyChar c := by
  obtain ⟨c, rest, rfl⟩ := List.exists_cons_of_ne_nil h.ne_nil
  exact ⟨c, rest, rfl, h.forall_mem c List.mem_cons_self⟩

lemma skipBlanks_append (h : IsBareKey key) (text : List Char) :
    skipBlanks (key ++ text) = key ++ text := by
  obtain ⟨c, rest, rfl, hc⟩ := h.exists_cons
  have hblank := ne_of_isBareKeyChar hc (d := ' ') (by decide)
  have htab := ne_of_isBareKeyChar hc (d := '\t') (by decide)
  rw [skipBlanks, List.cons_append, List.dropWhile_cons_of_neg (by simp [hblank, htab])]

lemma skipTrivia?_append (h : IsBareKey key) (text : List Char) :
    skipTrivia? false (key ++ text) = some (key ++ text) := by
  obtain ⟨c, rest, rfl, hc⟩ := h.exists_cons
  exact skipTrivia?_of_visible (ne_of_isBareKeyChar hc (by decide))
    (ne_of_isBareKeyChar hc (by decide)) (ne_of_isBareKeyChar hc (by decide))
    (ne_of_isBareKeyChar hc (by decide)) (ne_of_isBareKeyChar hc (by decide)) _

lemma readKeyPart?_append (h : IsBareKey key) {c : Char} (hc : isBareKeyChar c = false)
    (text : List Char) :
    readKeyPart? (key ++ c :: text) = some (String.ofList key, c :: text) := by
  have hspan : (key ++ c :: text).span isBareKeyChar = (key, c :: text) := by
    rw [List.span_eq_takeWhile_dropWhile, List.takeWhile_append_of_pos h.forall_mem,
      List.dropWhile_append_of_pos h.forall_mem, List.takeWhile_cons_of_neg (by simp [hc]),
      List.dropWhile_cons_of_neg (by simp [hc]), List.append_nil]
  obtain ⟨first, rest, hkey, hfirst⟩ := h.exists_cons
  have hdouble := ne_of_isBareKeyChar hfirst (d := '"') (by decide)
  have hsingle := ne_of_isBareKeyChar hfirst (d := '\'') (by decide)
  rw [readKeyPart?]
  · rw [hspan]
    simp [h.ne_nil]
  · intro rest' heq
    rw [hkey] at heq
    exact hdouble (List.cons.inj heq).1
  · intro rest' heq
    rw [hkey] at heq
    exact hsingle (List.cons.inj heq).1

lemma readKey?_append (h : IsBareKey key) {c : Char} (hc : isBareKeyChar c = false)
    {text : List Char} (hpoint : (skipBlanks (c :: text)).head? ≠ some '.') :
    readKey? maxDepth (key ++ c :: text) =
      some (([], String.ofList key), skipBlanks (c :: text)) := by
  rw [maxDepth, readKey?, h.skipBlanks_append, h.readKeyPart?_append hc]
  dsimp only [Option.bind_eq_bind, Option.bind_some]
  split
  · rename_i rest heq
    rw [heq] at hpoint
    exact absurd rfl hpoint
  · rfl

end IsBareKey

/-! ### Statements -/

def assignments (fields : List (String × Value)) : List Statement :=
  fields.map fun field => .assignment [] field.1 field.2

def statements (tables : List (String × List (String × Value))) : List Statement :=
  tables.flatMap fun table => .header [] table.1 :: assignments table.2

lemma readStatement?_header {name tail lines : List Char} (hname : IsBareKey name)
    (hend : LineEnd tail lines) :
    readStatement? ('[' :: (name ++ ']' :: tail)) =
      some (.header [] (String.ofList name), lines) := by
  have hkey : readKey? maxDepth (name ++ ']' :: tail) =
      some (([], String.ofList name), skipBlanks (']' :: tail)) :=
    hname.readKey?_append (by decide) (by simp [skipBlanks])
  obtain ⟨first, rest, hfirst, hbare⟩ := hname.exists_cons
  have hbracket := ne_of_isBareKeyChar hbare (d := '[') (by decide)
  rw [readStatement?]
  · rw [hkey]
    simp [skipBlanks, hend.read]
  · intro rest' heq
    rw [hfirst] at heq
    exact hbracket (List.cons.inj heq).1

lemma readStatement?_assignment {key spelled tail more : List Char} {value : Value}
    (hkey : IsBareKey key) (hvalue : Written spelled value tail) (hend : LineEnd tail more) :
    readStatement? (key ++ ' ' :: '=' :: ' ' :: spelled) =
      some (.assignment [] (String.ofList key) value, more) := by
  have hread : readKey? maxDepth (key ++ ' ' :: '=' :: ' ' :: spelled) =
      some (([], String.ofList key), '=' :: ' ' :: spelled) :=
    hkey.readKey?_append (by decide) (by simp [skipBlanks])
  have hblank : skipBlanks (' ' :: spelled) = spelled := by
    cases hvalue with
    | string h => rfl
    | array h => rfl
  have hspelled : readValue? maxDepth spelled = some (value, tail) :=
    hvalue.read hend.head? (by decide)
  obtain ⟨first, rest, hfirst, hbare⟩ := hkey.exists_cons
  have hbracket := ne_of_isBareKeyChar hbare (d := '[') (by decide)
  have hpair : readPair? (readValue? maxDepth) (key ++ ' ' :: '=' :: ' ' :: spelled) =
      some (([], String.ofList key), value, tail) := by
    rw [readPair?, hread]
    simp [hblank, hspelled]
  rw [readStatement?]
  · rw [hpair]
    simp [hend.read]
  · intro rest' heq
    rw [hfirst] at heq
    exact hbracket (List.cons.inj heq).1
  · intro rest' heq
    rw [hfirst] at heq
    exact hbracket (List.cons.inj heq).1

/-- A text has these statements, whatever fuel there is to read them. -/
def HasStatements (text : List Char) (given : List Statement) : Prop :=
  ∀ fuel, text.length < fuel → readStatements? fuel text = some given

lemma HasStatements.nil : HasStatements [] [] := by
  intro fuel hfuel
  obtain ⟨fuel, rfl⟩ := Nat.exists_eq_add_one_of_ne_zero (Nat.ne_zero_of_lt hfuel)
  rfl

lemma HasStatements.skip {text rest : List Char} {given : List Statement}
    (h : HasStatements rest given) (hskipped : Skipped text rest) : HasStatements text given := by
  intro fuel hfuel
  have hlength := hskipped.length_le
  have hrest := h fuel (by omega)
  obtain ⟨fuel, rfl⟩ := Nat.exists_eq_add_one_of_ne_zero (Nat.ne_zero_of_lt hfuel)
  rw [readStatements?] at hrest ⊢
  rw [hskipped.read, hrest]

lemma HasStatements.cons {text rest : List Char} {statement : Statement} {given : List Statement}
    (h : HasStatements rest given) (hstart : skipTrivia? false text = some text)
    (hread : readStatement? text = some (statement, rest)) (hlength : rest.length < text.length) :
    HasStatements text (statement :: given) := by
  intro fuel hfuel
  obtain ⟨fuel, rfl⟩ := Nat.exists_eq_add_one_of_ne_zero (Nat.ne_zero_of_lt hfuel)
  have hrest := h fuel (by omega)
  obtain ⟨c, more, rfl⟩ : ∃ c more, text = c :: more := by
    cases text with
    | nil => simp at hlength
    | cons c more => exact ⟨c, more, rfl⟩
  rw [readStatements?, hstart]
  simp [hread, hrest]

lemma Assigned.hasStatements {text rest : List Char} {fields : List (String × Value)}
    (h : Assigned text fields rest) {given : List Statement} (hrest : HasStatements rest given) :
    HasStatements text (assignments fields ++ given) := by
  induction h with
  | none rest => exact hrest
  | line hskipped hkey hvalue hend hmore ih =>
    have hread := readStatement?_assignment hkey hvalue hend
    have hlength := hvalue.length_lt
    have hle := hend.length_le
    refine ((ih hrest).cons (hkey.skipTrivia?_append _) hread ?_).skip hskipped
    rw [List.length_append, List.length_cons, List.length_cons, List.length_cons]
    omega

lemma Tables.hasStatements {text : List Char} {tables : List (String × List (String × Value))}
    (h : Tables text tables) : HasStatements text (statements tables) := by
  induction h with
  | none hskipped => exact HasStatements.nil.skip hskipped
  | @table text name tail lines rest fields tables hskipped hname hend hfields hrest ih =>
    have hread := readStatement?_header hname hend
    have hle := hend.length_le
    have hlines := (hfields.hasStatements ih)
    have hbracket : skipTrivia? false ('[' :: (name ++ ']' :: tail)) =
        some ('[' :: (name ++ ']' :: tail)) := rfl
    refine (hlines.cons hbracket hread ?_).skip hskipped
    rw [List.length_cons, List.length_append, List.length_cons]
    omega

/-! ### Tables -/

def valueEntries (fields : List (String × Value)) : Fields :=
  fields.map fun field => (field.1, .value field.2)

def tableEntries (tables : List (String × List (String × Value))) : Fields :=
  tables.map fun table => (table.1, .table .explicit (valueEntries table.2))

lemma lookup_eq_none_of_not_mem {α : Type} {key : String} {entries : List (String × α)}
    (h : key ∉ entries.map Prod.fst) : entries.lookup key = none := by
  rw [List.lookup_eq_none_iff]
  intro entry hentry
  have hne : key ≠ entry.1 := by
    rintro rfl
    exact h (List.mem_map_of_mem hentry)
  simpa using hne

lemma put_append_singleton {fields : Fields} {key : String} (h : key ∉ fields.map Prod.fst)
    (old new : Entry) : Fields.put (fields ++ [(key, old)]) key new = fields ++ [(key, new)] := by
  induction fields with
  | nil => simp [Fields.put]
  | cons field fields ih =>
    rw [List.map_cons, List.mem_cons, not_or] at h
    rw [List.cons_append, Fields.put, if_neg (Ne.symm h.1), ih h.2, List.cons_append]

lemma next?_header {fields : Fields} {name : String} (h : name ∉ fields.map Prod.fst)
    (place : List String) :
    Draft.next? ⟨fields, place⟩ (.header [] name) =
      some ⟨fields ++ [(name, .table .explicit [])], [name]⟩ := by
  rw [Draft.next?, Fields.openTable, Fields.update, lookup_eq_none_of_not_mem h]
  rfl

lemma next?_assignment {fields inner : Fields} {name key : String}
    (hname : name ∉ fields.map Prod.fst) (hkey : key ∉ inner.map Prod.fst) (value : Value) :
    Draft.next? ⟨fields ++ [(name, .table .explicit inner)], [name]⟩ (.assignment [] key value) =
      some ⟨fields ++ [(name, .table .explicit (inner ++ [(key, .value value)]))], [name]⟩ := by
  have hopen : (fields ++ [(name, Entry.table .explicit inner)]).lookup name =
      some (.table .explicit inner) := by
    rw [List.lookup_append, lookup_eq_none_of_not_mem hname]
    simp
  have hadd : Fields.add inner [] key value = some (inner ++ [(key, .value value)]) := by
    rw [Fields.add, Fields.update, lookup_eq_none_of_not_mem hkey]
    rfl
  rw [Draft.next?, Fields.update, hopen]
  simp [Fields.update, hadd, put_append_singleton hname]

lemma foldlM_assignments {fields inner : Fields} {name : String} {given : List (String × Value)}
    (hname : name ∉ fields.map Prod.fst)
    (hkeys : (inner.map Prod.fst ++ given.map Prod.fst).Nodup) :
    (assignments given).foldlM Draft.next? ⟨fields ++ [(name, .table .explicit inner)], [name]⟩ =
      some ⟨fields ++ [(name, .table .explicit (inner ++ valueEntries given))], [name]⟩ := by
  induction given generalizing inner with
  | nil =>
    rw [valueEntries, List.map_nil, List.append_nil]
    rfl
  | cons field given ih =>
    obtain ⟨key, value⟩ := field
    have hkey : key ∉ inner.map Prod.fst := by
      intro hmem
      exact (List.nodup_append.mp hkeys).2.2 key hmem key List.mem_cons_self rfl
    have hmore : ((inner ++ [(key, Entry.value value)]).map Prod.fst ++
        given.map Prod.fst).Nodup := by
      simpa using hkeys
    have hnext := next?_assignment hname hkey value
    have hentries : inner ++ valueEntries ((key, value) :: given) =
        inner ++ [(key, .value value)] ++ valueEntries given := by
      simp [valueEntries]
    have hfirst : assignments ((key, value) :: given) =
        .assignment [] key value :: assignments given := rfl
    rw [hfirst, List.foldlM_cons, hnext, hentries]
    exact ih hmore

/-- Tables are read one after the other. -/
lemma foldlM_statements {earlier tables : List (String × List (String × Value))}
    (hnames : ((earlier ++ tables).map Prod.fst).Nodup)
    (hkeys : ∀ table ∈ tables, (table.2.map Prod.fst).Nodup) (place : List String) :
    ∃ last, (statements tables).foldlM Draft.next? ⟨tableEntries earlier, place⟩ =
      some ⟨tableEntries (earlier ++ tables), last⟩ := by
  induction tables generalizing earlier place with
  | nil =>
    rw [List.append_nil]
    exact ⟨place, rfl⟩
  | cons table tables ih =>
    obtain ⟨name, given⟩ := table
    obtain ⟨hgiven, htables⟩ := List.forall_mem_cons.mp hkeys
    have hname : name ∉ (tableEntries earlier).map Prod.fst := by
      intro hmem
      rw [tableEntries, List.map_map] at hmem
      rw [List.map_append, List.map_cons] at hnames
      exact (List.nodup_append.mp hnames).2.2 name hmem name List.mem_cons_self rfl
    have hnext := next?_header hname place
    have hentries : tableEntries earlier ++ [(name, .table .explicit ([] ++ valueEntries given))] =
        tableEntries (earlier ++ [(name, given)]) := by
      simp [tableEntries]
    have hlines : (assignments given).foldlM Draft.next?
          ⟨tableEntries earlier ++ [(name, .table .explicit [])], [name]⟩ =
        some ⟨tableEntries (earlier ++ [(name, given)]), [name]⟩ := by
      rw [← hentries]
      exact foldlM_assignments hname (by simpa using hgiven)
    have hlater : ((earlier ++ [(name, given)] ++ tables).map Prod.fst).Nodup := by
      simpa using hnames
    obtain ⟨last, hlast⟩ := ih hlater htables [name]
    refine ⟨last, ?_⟩
    have hsplit : statements ((name, given) :: tables) =
        .header [] name :: (assignments given ++ statements tables) := by
      simp [statements]
    rw [hsplit, List.foldlM_cons, hnext]
    simp only [Option.bind_eq_bind, Option.bind_some]
    rw [List.foldlM_append, hlines]
    simpa using hlast

lemma fieldValues_valueEntries (fields : List (String × Value)) :
    fieldValues (valueEntries fields) = fields := by
  induction fields with
  | nil => rfl
  | cons field fields ih =>
    have hentries : valueEntries (field :: fields) =
        (field.1, .value field.2) :: valueEntries fields := rfl
    rw [hentries, fieldValues, ih, Entry.toValue]

lemma fieldValues_tableEntries (tables : List (String × List (String × Value))) :
    fieldValues (tableEntries tables) = document tables := by
  induction tables with
  | nil => rfl
  | cons table tables ih =>
    have hentries : tableEntries (table :: tables) =
        (table.1, .table .explicit (valueEntries table.2)) :: tableEntries tables := rfl
    rw [hentries, fieldValues, ih, Entry.toValue, fieldValues_valueEntries]
    rfl

lemma Tables.head? {text : List Char} {tables : List (String × List (String × Value))}
    (h : Tables text tables) : text.head? ≠ some '\uFEFF' := by
  have hskipped : ∀ {text rest : List Char}, Skipped text rest → rest.head? ≠ some '\uFEFF' →
      text.head? ≠ some '\uFEFF' := by
    intro text rest hskipped hrest
    cases hskipped with
    | none => exact hrest
    | empty h => simp
    | comment hplain h => simp
  cases h with
  | none h => exact hskipped h (by simp)
  | table h hname hend hfields hrest => exact hskipped h (by simp)

/-- What the grammar derives is read as the tables of the derivation. -/
theorem IsDocument.document? {text : String} {tables : List (String × List (String × Value))}
    (h : IsDocument text tables) :
    Toml.document? text = some (document tables) := by
  have hread := h.text.hasStatements (text.toList.length + 1) (Nat.lt_succ_self _)
  have hmark := h.text.head?
  obtain ⟨last, hlast⟩ : ∃ last, (statements tables).foldlM Draft.next? ⟨tableEntries [], []⟩ =
      some ⟨tableEntries ([] ++ tables), last⟩ :=
    foldlM_statements (by simpa using h.names) h.keys []
  have hnothing : tableEntries [] = [] := rfl
  rw [hnothing, List.nil_append] at hlast
  rw [Toml.document?]
  split
  · rename_i rest heq
    rw [heq] at hmark
    exact absurd rfl hmark
  · simp [hread, hlast, fieldValues_tableEntries]

/-! ### What can be written -/

lemma hexValue?_append (value : Nat) (digits more : List Char) :
    hexValue? value (digits ++ more) = (hexValue? value digits).bind (hexValue? · more) := by
  induction digits generalizing value with
  | nil => rfl
  | cons c digits ih =>
    rw [List.cons_append, hexValue?, hexValue?]
    cases hexDigit? c with
    | none => rfl
    | some digit => exact ih _

lemma exists_hexDigits (count : Nat) {n : Nat} (h : n < 16 ^ count) :
    ∃ digits : List Char, digits.length = count ∧ hexValue? 0 digits = some n := by
  induction count generalizing n with
  | zero =>
    have hzero : n = 0 := by omega
    exact ⟨[], rfl, by rw [hzero]; rfl⟩
  | succ count ih =>
    obtain ⟨digits, hlength, hvalue⟩ := ih (n := n / 16) (by rw [Nat.pow_succ] at h; omega)
    have hdigit : ∀ d < 16, hexDigit? d.digitChar = some d := by decide
    refine ⟨digits ++ [(n % 16).digitChar], by simp [hlength], ?_⟩
    rw [hexValue?_append, hvalue, Option.bind_some, hexValue?,
      hdigit _ (Nat.mod_lt n (by decide)), Option.bind_some, hexValue?, Nat.div_add_mod']

/-- Any text can be written between quotes, if need be character by character as numbers. -/
lemma exists_basicString (value rest : List Char) : ∃ text, BasicString text value rest := by
  induction value with
  | nil => exact ⟨_, .close rest⟩
  | cons c value ih =>
    obtain ⟨text, htext⟩ := ih
    have hc : c.toNat < 16 ^ 8 := Nat.lt_of_lt_of_le c.val.toNat_lt (by decide)
    obtain ⟨digits, hlength, hdigits⟩ := exists_hexDigits 8 hc
    exact ⟨_, .number (.inr ⟨rfl, hlength⟩) hdigits htext⟩

lemma exists_strings (items : List String) (rest : List Char) :
    ∃ text, Strings text items rest := by
  induction items with
  | nil => exact ⟨_, .close rest⟩
  | cons item items ih =>
    obtain ⟨more, hmore⟩ := ih
    obtain ⟨text, htext⟩ := exists_basicString item.toList (',' :: ' ' :: more)
    have hstrings := Strings.next htext hmore
    rw [String.ofList_toList] at hstrings
    exact ⟨_, hstrings⟩

inductive IsTextual : Value → Prop where
  | string (text : String) : IsTextual (.string text)
  | array (items : List String) : IsTextual (.array (items.map .string))

lemma IsTextual.exists_written {value : Value} (h : IsTextual value) (rest : List Char) :
    ∃ text, Written text value rest := by
  cases h with
  | string item =>
    obtain ⟨text, htext⟩ := exists_basicString item.toList rest
    have hwritten := Written.string htext
    rw [String.ofList_toList] at hwritten
    exact ⟨_, hwritten⟩
  | array items =>
    obtain ⟨text, htext⟩ := exists_strings items rest
    exact ⟨_, .array htext⟩

/-- A field for a line of a table. -/
structure IsWritable (field : String × Value) : Prop where
  key : IsBareKey field.1.toList
  value : IsTextual field.2

lemma exists_assigned {fields : List (String × Value)}
    (hfields : ∀ field ∈ fields, IsWritable field) (rest : List Char) :
    ∃ text, Assigned text fields rest := by
  induction fields with
  | nil => exact ⟨rest, .none rest⟩
  | cons field fields ih =>
    obtain ⟨hfield, hmore⟩ := List.forall_mem_cons.mp hfields
    obtain ⟨more, hassigned⟩ := ih hmore
    obtain ⟨spelled, hwritten⟩ := hfield.value.exists_written ('\n' :: more)
    have hline := Assigned.line (.none _) hfield.key hwritten (.newline more) hassigned
    rw [String.ofList_toList] at hline
    exact ⟨_, hline⟩

lemma exists_tables {tables : List (String × List (String × Value))}
    (h : ∀ table ∈ tables, IsBareKey table.1.toList ∧ ∀ field ∈ table.2, IsWritable field) :
    ∃ text, Tables text tables := by
  induction tables with
  | nil => exact ⟨[], .none (.none [])⟩
  | cons table tables ih =>
    obtain ⟨⟨hname, hfields⟩, hmore⟩ := List.forall_mem_cons.mp h
    obtain ⟨rest, hrest⟩ := ih hmore
    obtain ⟨lines, hlines⟩ := exists_assigned hfields rest
    have htable := Tables.table (.none _) hname (.newline lines) hlines hrest
    rw [String.ofList_toList] at htable
    exact ⟨_, htable⟩

end SiteBoot.Toml
