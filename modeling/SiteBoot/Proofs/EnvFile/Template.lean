import SiteBoot.EnvFile.Overlay
import SiteBoot.Proofs.EnvFile.Scanning
/-!
# Templates

What stands between double quotes in an environment file: literal text, where the characters that
mean something are written with a backslash, and references. The first look, the logical lines and
the reading of values all take a template token by token, and `pieces` finds its references again.
-/

namespace SiteBoot.EnvFile

structure Literal where
  chars : List Char
  unmarked : marker ∉ chars

structure Default extends Literal where
  unclosed : '}' ∉ chars

structure ReferenceName where
  chars : List Char
  nonempty : chars ≠ []
  isName : ∀ c ∈ chars, isNameChar c

/-- A part of a template. -/
inductive Segment where
  | literal (text : Literal)
  | bare (name : ReferenceName)
  | braced (name : ReferenceName)
  | withDefault (name : ReferenceName) (default : Default)

def quoted (c : Char) : List Char := if c ∈ ['\\', '"', '$'] then ['\\', c] else [c]

def Segment.spelled : Segment → List Char
  | literal text => text.chars.flatMap quoted
  | bare name => '$' :: name.chars
  | braced name => '$' :: '{' :: name.chars ++ ['}']
  | withDefault name default =>
    '$' :: '{' :: name.chars ++ ':' :: '-' :: default.chars.flatMap quoted ++ ['}']

/-- What the part means where names have the given values. -/
def Segment.value (value? : String → Option String) : Segment → List Char
  | literal text => text.chars
  | bare name | braced name => ((value? (String.ofList name.chars)).getD "").toList
  | withDefault name default =>
    match value? (String.ofList name.chars) with
    | some value => if value = "" then default.chars else value.toList
    | none => default.chars

/-- No reference without braces is followed by a character that its name could go on with. -/
def Separated : List Segment → Prop
  | [] => True
  | .bare _ :: rest =>
    (∀ c ∈ (rest.flatMap Segment.spelled).head?, isNameChar c = false) ∧ Separated rest
  | _ :: rest => Separated rest

/-- What stands between double quotes. -/
structure Template where
  segments : List Segment
  separated : Separated segments

namespace Template

def spelled (template : Template) : List Char := template.segments.flatMap Segment.spelled

def value (value? : String → Option String) (template : Template) : String :=
  String.ofList (template.segments.flatMap (Segment.value value?))

end Template

/-! ### Tokens -/

/-- What a template is for the scanners: characters, and the dollar signs of references. -/
inductive Token where
  | char (c : Char)
  | dollar

namespace Token

def spelled : Token → List Char
  | char c => quoted c
  | dollar => ['$']

def marked : Token → List Char
  | char c => quoted c
  | dollar => [marker]

def raw : Token → Char
  | char c => c
  | dollar => marker

end Token

lemma inDouble_token (token : Token) (text : List Char) :
    Marked.inDouble (token.spelled ++ text) = (Marked.inDouble text).prepend token.marked := by
  cases token with
  | dollar => exact Marked.inDouble_dollar text
  | char c =>
    rw [Token.spelled, Token.marked, quoted]
    by_cases h : c ∈ ['\\', '"', '$']
    · rw [if_pos h]
      exact Marked.inDouble_escape (by rintro rfl; exact absurd h (by decide)) text
    · rw [if_neg h]
      exact Marked.inDouble_char h text

lemma inDouble_tokens (tokens : List Token) (text : List Char) :
    Marked.inDouble (tokens.flatMap Token.spelled ++ text) =
      (Marked.inDouble text).prepend (tokens.flatMap Token.marked) := by
  induction tokens with
  | nil => rfl
  | cons token tokens ih =>
    rw [List.flatMap_cons, List.append_assoc, inDouble_token, ih, Marked.prepend_prepend]
    rfl

lemma rest_weak_token {part : List Char} (hpart : LogicalLine.IsBegun part) (token : Token)
    {text : List Char} (htext : text ≠ []) :
    LogicalLine.rest part .weak (token.marked ++ text) =
      LogicalLine.rest (part ++ token.marked) .weak text := by
  cases token with
  | dollar => exact LogicalLine.rest_weak_char hpart (by decide) htext
  | char c =>
    rw [Token.marked, quoted]
    by_cases h : c ∈ ['\\', '"', '$']
    · rw [if_pos h]
      exact LogicalLine.rest_weak_escape part (by rintro rfl; exact absurd h (by decide)) htext
    · rw [if_neg h]
      have hsub : ['\\', '"'] ⊆ ['\\', '"', '$'] := by decide
      exact LogicalLine.rest_weak_char hpart (fun hc => h (hsub hc)) htext

lemma rest_weak_tokens {part : List Char} (hpart : LogicalLine.IsBegun part) (tokens : List Token)
    {text : List Char} (htext : text ≠ []) :
    LogicalLine.rest part .weak (tokens.flatMap Token.marked ++ text) =
      LogicalLine.rest (part ++ tokens.flatMap Token.marked) .weak text := by
  induction tokens generalizing part with
  | nil => rw [List.flatMap_nil, List.nil_append, List.append_nil]
  | cons token tokens ih =>
    rw [List.flatMap_cons, List.append_assoc,
      rest_weak_token hpart token (List.append_ne_nil_of_right_ne_nil _ htext),
      ih (hpart.append token.marked), List.append_assoc]

lemma readValue?_token (lookup : List Char → List Char) (token : Token) (text : List Char) :
    readValue? lookup (.plain true) (token.marked ++ text) =
      (readValue? lookup (.plain true) text).map (token.raw :: ·) := by
  cases token with
  | dollar => rfl
  | char c =>
    rw [Token.marked, Token.raw, quoted]
    by_cases h : c ∈ ['\\', '"', '$']
    · rw [if_pos h]
      simp only [List.mem_cons, List.not_mem_nil, or_false] at h
      have hvalue : ∀ meaning, escaped? c = some meaning →
          readValue? lookup (.plain true) (['\\', c] ++ text) =
            (readValue? lookup (.plain true) text).map (meaning :: ·) := by
        intro meaning hmeaning
        simp only [List.cons_append, List.nil_append, readValue?, hmeaning, Option.map_eq_bind]
        rfl
      rcases h with rfl | rfl | rfl <;> exact hvalue _ rfl
    · rw [if_neg h]
      simp only [List.mem_cons, List.not_mem_nil, not_or] at h
      obtain ⟨hescape, hquote, hdollar, -⟩ := h
      simp [readValue?, hescape, hquote, hdollar]

lemma readValue?_tokens (lookup : List Char → List Char) (tokens : List Token) :
    readValue? lookup (.plain false) ('"' :: tokens.flatMap Token.marked ++ ['"']) =
      some (tokens.map Token.raw) := by
  have hquoted : readValue? lookup (.plain true) (tokens.flatMap Token.marked ++ ['"']) =
      some (tokens.map Token.raw) := by
    induction tokens with
    | nil => rfl
    | cons token tokens ih =>
      rw [List.flatMap_cons, List.append_assoc, readValue?_token, ih]
      rfl
  exact hquoted

/-! ### The tokens of a template -/

lemma quoted_of_isNameChar {c : Char} (h : isNameChar c) : quoted c = [c] := by
  rw [quoted, if_neg]
  intro hmem
  simp only [List.mem_cons, List.not_mem_nil, or_false] at hmem
  rcases hmem with rfl | rfl | rfl <;> exact absurd h (by decide)

lemma flatMap_quoted {chars : List Char} (h : ∀ c ∈ chars, isNameChar c) :
    chars.flatMap quoted = chars := by
  induction chars with
  | nil => rfl
  | cons c chars ih =>
    obtain ⟨hc, hchars⟩ := List.forall_mem_cons.mp h
    rw [List.flatMap_cons, quoted_of_isNameChar hc, ih hchars]
    rfl

namespace Segment

def tokens : Segment → List Token
  | literal text => text.chars.map .char
  | bare name => .dollar :: name.chars.map .char
  | braced name => .dollar :: ('{' :: name.chars ++ ['}']).map .char
  | withDefault name default =>
    .dollar :: ('{' :: name.chars ++ ':' :: '-' :: default.chars ++ ['}']).map .char

def raw (segment : Segment) : List Char := segment.tokens.map Token.raw

lemma spelled_char (chars : List Char) :
    (chars.map Token.char).flatMap Token.spelled = chars.flatMap quoted := by
  rw [List.flatMap_map]
  rfl

lemma raw_char (chars : List Char) : (chars.map Token.char).map Token.raw = chars := by
  rw [List.map_map]
  exact List.map_id chars

lemma spelled_eq (segment : Segment) : segment.tokens.flatMap Token.spelled = segment.spelled := by
  cases segment with
  | literal text => exact spelled_char text.chars
  | bare name =>
    rw [tokens, List.flatMap_cons, spelled_char, flatMap_quoted name.isName]
    rfl
  | braced name =>
    rw [tokens, List.flatMap_cons, spelled_char, List.flatMap_append, List.flatMap_cons,
      flatMap_quoted name.isName]
    rfl
  | withDefault name default =>
    rw [tokens, List.flatMap_cons, spelled_char, List.flatMap_append, List.flatMap_append,
      List.flatMap_cons, List.flatMap_cons, List.flatMap_cons, flatMap_quoted name.isName]
    rfl

end Segment

lemma head?_raw {tokens : List Token}
    (h : ∀ c ∈ (tokens.flatMap Token.spelled).head?, isNameChar c = false) :
    ∀ c ∈ (tokens.map Token.raw).head?, isNameChar c = false := by
  cases tokens with
  | nil => simp
  | cons token tokens =>
    intro c hc
    obtain rfl : token.raw = c := Option.some.inj hc
    cases token with
    | dollar => decide
    | char d =>
      by_cases hd : d ∈ ['\\', '"', '$']
      · simp only [List.mem_cons, List.not_mem_nil, or_false] at hd
        rcases hd with rfl | rfl | rfl <;> decide
      · apply h
        rw [List.flatMap_cons, Token.spelled, quoted, if_neg hd]
        rfl

/-! ### References -/

lemma piecesFrom_literal {chars : List Char} (h : marker ∉ chars) (rest : List Char) :
    piecesFrom .outside (chars ++ rest) = chars.map .char ++ piecesFrom .outside rest := by
  induction chars with
  | nil => rfl
  | cons c chars ih =>
    rw [List.mem_cons, not_or] at h
    rw [List.cons_append, piecesFrom, if_neg (Ne.symm h.1), ih h.2]
    rfl

lemma piecesFrom_name_end {read : List Char} {c : Char} (hc : isNameChar c = false)
    (hbrace : c = '{' → read ≠ []) (rest : List Char) :
    piecesFrom (.name read) (c :: rest) = .bare read :: piecesFrom .outside (c :: rest) := by
  have hopen : (c = '{' && read.isEmpty) = false := by
    by_cases hc : c = '{'
    · simp [hbrace hc]
    · simp [hc]
  by_cases hmarker : c = marker
  · rw [hmarker] at hc hopen ⊢
    simp [piecesFrom, hopen, hc]
  · simp [piecesFrom, hopen, hc, hmarker]

lemma piecesFrom_name {chars read rest : List Char} (hname : ∀ c ∈ chars, isNameChar c)
    (hread : read ++ chars ≠ []) (hrest : ∀ c ∈ rest.head?, isNameChar c = false) :
    piecesFrom (.name read) (chars ++ rest) =
      .reference (read ++ chars) [] :: piecesFrom .outside rest := by
  induction chars generalizing read with
  | nil =>
    rw [List.append_nil] at hread ⊢
    have hbare : Piece.bare read = .reference read [] := by simp [Piece.bare, hread]
    cases rest with
    | nil =>
      have hleft : piecesFrom (.name read) [] = [.bare read] := by rw [piecesFrom]
      rw [List.nil_append, hleft, hbare]
      rfl
    | cons c rest =>
      rw [List.nil_append, piecesFrom_name_end (hrest c rfl) (fun _ => hread), hbare]
  | cons c chars ih =>
    obtain ⟨hc, hchars⟩ := List.forall_mem_cons.mp hname
    have hbrace : (c = '{' && read.isEmpty) = false := by
      rw [Bool.and_eq_false_iff]
      left
      rw [decide_eq_false_iff_not]
      rintro rfl
      exact absurd hc (by decide)
    rw [List.cons_append, piecesFrom, hbrace, if_neg (by simp), if_pos hc,
      ih hchars (by simp), List.append_assoc]
    rfl

lemma piecesFrom_braces {body : List Char} (h : '}' ∉ body) (read rest : List Char) :
    piecesFrom (.braces read) (body ++ '}' :: rest) =
      .braced (read ++ body) :: piecesFrom .outside rest := by
  induction body generalizing read with
  | nil => rw [List.nil_append, piecesFrom, if_pos rfl, List.append_nil]
  | cons c body ih =>
    rw [List.mem_cons, not_or] at h
    rw [List.cons_append, piecesFrom, if_neg (Ne.symm h.1), ih h.2, List.append_assoc]
    rfl

lemma splitFallback_append {name : List Char} (h : ':' ∉ name) (fallback : List Char) :
    splitFallback (name ++ ':' :: '-' :: fallback) = (name, fallback) := by
  induction name with
  | nil => rfl
  | cons c name ih =>
    rw [List.mem_cons, not_or] at h
    rw [List.cons_append, splitFallback, ih h.2]
    intro rest hcolon
    exact absurd hcolon.symm h.1

lemma splitFallback_name {name : List Char} (h : ':' ∉ name) : splitFallback name = (name, []) := by
  induction name with
  | nil => rfl
  | cons c name ih =>
    rw [List.mem_cons, not_or] at h
    rw [splitFallback, ih h.2]
    intro rest hcolon
    exact absurd hcolon.symm h.1

/-- The value of a name as the expansion of references looks it up. -/
def charValue? (value? : String → Option String) (name : List Char) : Option (List Char) :=
  (value? (String.ofList name)).map String.toList

lemma expand_reference (value? : String → Option String) (name fallback : List Char) :
    (Piece.reference name fallback).expand (charValue? value?) =
      match value? (String.ofList name) with
      | some value => if value = "" then fallback else value.toList
      | none => fallback := by
  rw [Piece.expand, charValue?]
  cases value? (String.ofList name) with
  | none => rfl
  | some value =>
    by_cases h : value = ""
    · rw [h]
      rfl
    · have hne : value.toList ≠ [] := fun hnil => h (String.toList_eq_nil_iff.mp hnil)
      obtain ⟨c, rest, hvalue⟩ := List.exists_cons_of_ne_nil hne
      simp [hvalue, h]

lemma expand_reference_nil (value? : String → Option String) (name : List Char) :
    (Piece.reference name []).expand (charValue? value?) =
      ((value? (String.ofList name)).getD "").toList := by
  rw [expand_reference]
  cases value? (String.ofList name) with
  | none => rfl
  | some value =>
    by_cases h : value = ""
    · simp [h]
    · simp [h]

lemma piecesFrom_open {body : List Char} (h : '}' ∉ body) (rest : List Char) :
    piecesFrom .outside (marker :: '{' :: body ++ '}' :: rest) =
      .braced body :: piecesFrom .outside rest :=
  piecesFrom_braces h [] rest

lemma ReferenceName.not_mem (name : ReferenceName) {c : Char} (h : isNameChar c = false) :
    c ∉ name.chars := by
  intro hmem
  rw [name.isName c hmem] at h
  contradiction

lemma spelled_flatMap (segments : List Segment) :
    (segments.flatMap Segment.tokens).flatMap Token.spelled =
      segments.flatMap Segment.spelled := by
  rw [List.flatMap_assoc]
  exact congrFun (congrArg List.flatMap (funext Segment.spelled_eq)) segments

lemma raw_flatMap (segments : List Segment) :
    (segments.flatMap Segment.tokens).map Token.raw = segments.flatMap Segment.raw :=
  List.map_flatMap ..

lemma expand_segment (value? : String → Option String) {segment : Segment}
    {segments : List Segment} (h : Separated (segment :: segments)) :
    expand (charValue? value?) (segment.raw ++ segments.flatMap Segment.raw) =
      segment.value value? ++ expand (charValue? value?) (segments.flatMap Segment.raw) := by
  rw [expand, expand, pieces, pieces]
  cases segment with
  | literal text =>
    rw [Segment.raw, Segment.tokens, Segment.raw_char, piecesFrom_literal text.unmarked,
      List.flatMap_append]
    congr 1
    rw [List.flatMap_map]
    exact List.flatMap_singleton' text.chars
  | bare name =>
    -- what comes next ends the name, as it is written and so in the value, too
    have hhead := h.1
    rw [← spelled_flatMap] at hhead
    have hrest := head?_raw hhead
    rw [raw_flatMap] at hrest
    have hpieces : piecesFrom (.name []) (name.chars ++ segments.flatMap Segment.raw) =
        .reference name.chars [] :: piecesFrom .outside (segments.flatMap Segment.raw) :=
      piecesFrom_name name.isName name.nonempty hrest
    rw [Segment.raw, Segment.tokens, List.map_cons, Segment.raw_char]
    change (piecesFrom (.name []) (name.chars ++ _)).flatMap _ = _
    rw [hpieces, List.flatMap_cons, expand_reference_nil]
    rfl
  | braced name =>
    rw [Segment.raw, Segment.tokens, List.map_cons, Segment.raw_char]
    have hpieces := piecesFrom_open (name.not_mem (by decide)) (segments.flatMap Segment.raw)
    have hraw : Token.dollar.raw :: ('{' :: name.chars ++ ['}']) ++ segments.flatMap Segment.raw =
        marker :: '{' :: name.chars ++ '}' :: segments.flatMap Segment.raw := by
      simp [Token.raw]
    rw [hraw, hpieces, List.flatMap_cons, Piece.braced, splitFallback_name (name.not_mem (by decide)),
      expand_reference_nil]
    rfl
  | withDefault name default =>
    rw [Segment.raw, Segment.tokens, List.map_cons, Segment.raw_char]
    have hbody : '}' ∉ name.chars ++ ':' :: '-' :: default.chars := by
      simp [name.not_mem (c := '}') (by decide), default.unclosed]
    have hpieces := piecesFrom_open hbody (segments.flatMap Segment.raw)
    have hraw : Token.dollar.raw :: ('{' :: name.chars ++ ':' :: '-' :: default.chars ++ ['}']) ++
          segments.flatMap Segment.raw =
        marker :: '{' :: (name.chars ++ ':' :: '-' :: default.chars) ++
          '}' :: segments.flatMap Segment.raw := by
      simp [Token.raw]
    rw [hraw, hpieces, List.flatMap_cons, Piece.braced,
      splitFallback_append (name.not_mem (by decide)), expand_reference]
    rfl

/-- The references of a template get their values, and nothing else changes. -/
lemma expand_segments (value? : String → Option String) {segments : List Segment}
    (h : Separated segments) :
    expand (charValue? value?) (segments.flatMap Segment.raw) =
      segments.flatMap (Segment.value value?) := by
  induction segments with
  | nil => rfl
  | cons segment segments ih =>
    have hrest : Separated segments := by
      cases segment with
      | bare name => exact h.2
      | literal text => exact h
      | braced name => exact h
      | withDefault name default => exact h
    rw [List.flatMap_cons, expand_segment value? h, ih hrest]
    rfl

end SiteBoot.EnvFile
