import SiteBoot.Binary64
import SiteBoot.Log.Event
import SiteBoot.LogFilter.Expression.Reader
import SiteBoot.Text.Alphanumeric
import SiteBoot.Text.Blank
/-!
Filter directives: which events of which area are shown, as `area[span{field}]=level` or a part
of that. A directive is read character by character without the blanks around it, but its pieces
are cut out of the text with them.
-/

namespace SiteBoot.LogFilter

/-- The least severe level that is shown, or none. -/
inductive Threshold where
  | off
  | upTo (level : Level)
  deriving DecidableEq, Repr

namespace Threshold

/-- How much is shown: 0 for nothing, 5 for everything. -/
def verbosity : Threshold → Nat
  | off => 0
  | upTo level => level.verbosity

def name : Threshold → String
  | off => "off"
  | upTo .error => "error"
  | upTo .warn => "warn"
  | upTo .info => "info"
  | upTo .debug => "debug"
  | upTo .trace => "trace"

def all : List Threshold :=
  [off, upTo .error, upTo .warn, upTo .info, upTo .debug, upTo .trace]

/-- The number that a text of digits stands for, which a plus sign may precede. -/
def number? (text : List Char) : Option Nat :=
  let digits := match text with
    | '+' :: rest => rest
    | _ => text
  if digits.isEmpty || !digits.all Char.isDigit then none
  else some (digits.foldl (fun n c => n * 10 + (c.toNat - 48)) 0)

/-- The threshold of a number up to 5 or a name in any case. -/
def ofText? (text : List Char) : Option Threshold :=
  ((number? text).bind fun n => all[n]?).orElse fun _ =>
    all.find? fun threshold => threshold.name.toList = text.map Char.toLower

end Threshold

/-- A value that a field must have. Numbers and truth values are kept as what they mean. -/
inductive Wanted where
  | truth (value : Bool)
  | fraction (value : Binary64)
  | notANumber
  | natural (value : Nat)
  | negative (value : Nat)
  | pattern (text : String)
  deriving DecidableEq, Repr

namespace Wanted

/-- The whole number that a text stands for, if it fits in 64 bits. -/
def whole? (text : List Char) : Option Wanted :=
  match Threshold.number? text, text with
  | some n, _ => if n < 18446744073709551616 then some (natural n) else none
  | none, '-' :: rest =>
    if rest.head? = some '+' then none
    else (Threshold.number? rest).bind fun n =>
      if n ≤ 9223372036854775808 then some (negative n) else none
  | none, _ => none

/-- The value that a text stands for: a truth value, a number or else a regular expression. -/
def ofText (text : List Char) : Except ExpressionFault Wanted :=
  if text = "true".toList then .ok (truth true)
  else if text = "false".toList then .ok (truth false)
  else match whole? text, Binary64.ofText? text with
    | some value, _ => .ok value
    | none, some value => .ok (fraction value)
    | none, none =>
      if Binary64.isNotANumber text then .ok notANumber
      else match Expression.fault? text with
        | some fault => .error fault
        | none => .ok (pattern (String.ofList text))

def display : Wanted → String
  | truth value => toString value
  | fraction value => value.display
  | notANumber => "NaN"
  | natural value => toString value
  | negative value => if value = 0 then "0" else "-" ++ toString value
  | pattern text => text

/-- Where the kind of a value stands in the order of values. -/
def rank : Wanted → Nat
  | truth _ => 0
  | fraction _ => 1
  | notANumber => 2
  | natural _ => 3
  | negative _ => 4
  | pattern _ => 5

/-- The order of values: by their kinds, then by what they mean. -/
def compare : Wanted → Wanted → Ordering
  | truth a, truth b => Ord.compare a b
  | fraction a, fraction b => a.compare b
  | natural a, natural b => Ord.compare a b
  | negative a, negative b => Ord.compare b a
  | pattern a, pattern b => Ord.compare a b
  | a, b => Ord.compare a.rank b.rank

end Wanted

/-- A field that an event must have, perhaps with a value. -/
structure FieldMatch where
  name : String
  value : Option Wanted
  deriving DecidableEq, Repr

namespace FieldMatch

/-- A field is written as its name, or as name and value with an equals sign between. -/
def ofText (text : List Char) : Except ExpressionFault FieldMatch :=
  let name := String.ofList (text.takeWhile (· ≠ '='))
  match (text.splitOn '=')[1]? with
  | some value => (Wanted.ofText value).map fun value => ⟨name, some value⟩
  | none => .ok ⟨name, none⟩

def display (field : FieldMatch) : String :=
  match field.value with
  | some value => field.name ++ "=" ++ value.display
  | none => field.name

end FieldMatch

/-- A filter directive. -/
structure Directive where
  target : Option String
  span : Option String
  field : Option FieldMatch
  threshold : Threshold
  deriving DecidableEq, Repr

/-- Why a text is no directive. -/
inductive DirectiveError where
  | malformed
  | unknownLevel
  | badField (fault : ExpressionFault)
  deriving DecidableEq, Repr

def DirectiveError.message : DirectiveError → String
  | malformed => "invalid filter directive"
  | unknownLevel =>
    "error parsing level filter: expected one of \"off\", \"error\", \"warn\", \"info\", " ++
      "\"debug\", \"trace\", or a number 0-5"
  | badField fault => "invalid field filter: " ++ fault.message

/-- What is being read of a directive, with the offset where it begins. -/
inductive Part where
  | nothing
  /-- A level, or the area that the directive is for. -/
  | levelOrTarget (since : Nat)
  | span (since : Nat)
  | field (since : Nat)
  | afterField
  | afterSpan
  | level (since : Nat)
  deriving DecidableEq, Repr

/-- The characters that begin at an offset in bytes from `start` on and before `stop`. -/
def slice (start stop : Nat) : Nat → List Char → List Char
  | _, [] => []
  | pos, c :: rest =>
    let later := slice start stop (pos + c.utf8Size) rest
    if start ≤ pos && pos < stop then c :: later else later

/-- One more character of a directive, at an offset in bytes. -/
def Part.next (text : List Char) (directive : Directive) (part : Part) (pos : Nat) (c : Char) :
    Except DirectiveError (Directive × Part) :=
  let piece since := String.ofList (slice since pos 0 text)
  match part with
  | .nothing =>
    if c = '[' then .ok (directive, .span (pos + 1))
    else if c = '-' || c = ':' || c = '_' || Text.isAlphanumeric c then
      .ok (directive, .levelOrTarget pos)
    else .error .malformed
  | .levelOrTarget since =>
    if c = '=' then .ok ({ directive with target := piece since }, .level (pos + 1))
    else if c = '[' then .ok ({ directive with target := piece since }, .span (pos + 1))
    else .ok (directive, part)
  | .span since =>
    if c = ']' then .ok ({ directive with span := piece since }, .afterSpan)
    else if c = '{' then
      let span := piece since
      .ok ({ directive with span := if span.isEmpty then none else some span }, .field (pos + 1))
    else .ok (directive, part)
  | .field since =>
    if c = '}' then
      let field := slice since pos 0 text
      if field.isEmpty then .error .malformed
      else match FieldMatch.ofText field with
        | .ok field => .ok ({ directive with field := some field }, .afterField)
        | .error fault => .error (.badField fault)
    else .ok (directive, part)
  | .afterField => if c = ']' then .ok (directive, .afterSpan) else .error .malformed
  | .afterSpan => if c = '=' then .ok (directive, .level (pos + 1)) else .error .malformed
  | .level _ => .ok (directive, part)

/-- The directive that is complete where its text ends. -/
def Part.finish (text : List Char) (directive : Directive) : Part →
    Except DirectiveError Directive
  | .levelOrTarget since =>
    let piece := slice since (String.ofList text).utf8ByteSize 0 text
    match Threshold.ofText? piece with
    | some threshold => .ok { directive with threshold := threshold }
    | none =>
      if piece.isEmpty then .ok directive
      else .ok { directive with target := some (String.ofList piece) }
  | .level since =>
    let piece := slice since (String.ofList text).utf8ByteSize 0 text
    if piece.isEmpty then .ok directive
    else match Threshold.ofText? piece with
      | some threshold => .ok { directive with threshold := threshold }
      | none => .error .unknownLevel
  | .afterSpan => .ok directive
  | _ => .error .malformed

/-- The reading of a directive from some character on. -/
def readDirective (text : List Char) (directive : Directive) (part : Part) (pos : Nat) :
    List Char → Except DirectiveError Directive
  | [] => part.finish text directive
  | c :: rest =>
    match part.next text directive pos c with
    | .ok (directive, part) => readDirective text directive part (pos + c.utf8Size) rest
    | .error error => .error error

/-- The directive that a text is. One without a level shows everything. -/
def Directive.ofText (text : List Char) : Except DirectiveError Directive :=
  readDirective text ⟨none, none, none, .upTo .trace⟩ .nothing 0 (Text.trim text)

/-- The texts of the directives in a list of them. -/
def directiveTexts (text : List Char) : List (List Char) :=
  (text.splitOn ',').filter (!·.isEmpty)

/-- The directives of a list, or the first error. -/
def Directive.listOfText (text : List Char) : Except DirectiveError (List Directive) :=
  (directiveTexts text).mapM Directive.ofText

/-- The directives of a list that are well-formed. -/
def Directive.wellFormedOfText (text : List Char) : List Directive :=
  (directiveTexts text).filterMap fun text => (Directive.ofText text).toOption

end SiteBoot.LogFilter
