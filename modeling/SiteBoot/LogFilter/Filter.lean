import SiteBoot.LogFilter.Directive
import SiteBoot.ProcessEnvironment
/-!
Log filters: directives in the order in which they are asked, the more specific first. A filter
has two lists of them, those that say something of events by themselves and those that say
something of what happens in a span.
-/

namespace SiteBoot

namespace LogFilter

/-- A directive on events: of an area, with a field. -/
structure EventDirective where
  target : Option String
  field : Option String
  threshold : Threshold
  deriving DecidableEq, Repr

/-- Whether a directive speaks of spans or fields. -/
def Directive.isOnSpans (directive : Directive) : Bool :=
  directive.span.isSome || directive.field.isSome

def Directive.onEvents? (directive : Directive) : Option EventDirective :=
  match directive.span, directive.field with
  | none, none => some ⟨directive.target, none, directive.threshold⟩
  | none, some ⟨name, none⟩ => some ⟨directive.target, some name, directive.threshold⟩
  | _, _ => none

/-- The order of values that may be absent, which come first. -/
def compareOption {α : Type} (compare : α → α → Ordering) : Option α → Option α → Ordering
  | none, none => .eq
  | none, some _ => .lt
  | some _, none => .gt
  | some a, some b => compare a b

def compareLength : Option String → Option String → Ordering :=
  compareOption fun a b => compare a.utf8ByteSize b.utf8ByteSize

def compareText : Option String → Option String → Ordering := compareOption compare

/-- Compares fields: with a value, by name, by value. -/
def FieldMatch.compare (a b : FieldMatch) : Ordering :=
  (Ord.compare a.value.isSome b.value.isSome).then <|
    (Ord.compare a.name b.name).then <|
      compareOption Wanted.compare a.value b.value

/-- Compares directives, the more specific first: by the length of the area, by the presence of a
span and of a field, then against the order of their texts. Levels do not count. -/
def Directive.compare (a b : Directive) : Ordering :=
  ((compareLength a.target b.target).then <|
    (Ord.compare a.span.isSome b.span.isSome).then <|
      (Ord.compare a.field.isSome b.field.isSome).then <|
        (compareText a.target b.target).then <|
          (compareText a.span b.span).then <|
            compareOption FieldMatch.compare a.field b.field).swap

/-- Compares directives on events in the same way. -/
def EventDirective.compare (a b : EventDirective) : Ordering :=
  ((compareLength a.target b.target).then <|
    (Ord.compare a.field.isSome b.field.isSome).then <|
      (compareText a.target b.target).then <|
        compareText a.field b.field).swap

/-- The list with one more element in its place, which takes the place of an equal one. -/
def insertInOrder {α : Type} (compare : α → α → Ordering) (a : α) : List α → List α
  | [] => [a]
  | b :: rest =>
    match compare a b with
    | .lt => a :: b :: rest
    | .eq => a :: rest
    | .gt => b :: insertInOrder compare a rest

def inOrder {α : Type} (compare : α → α → Ordering) (as : List α) : List α :=
  as.foldl (fun sorted a => insertInOrder compare a sorted) []

/-- The wording of an area, a span and a field with a level. -/
def displayParts (target span field : Option String) (threshold : Threshold) : String :=
  let scope :=
    if span.isSome || field.isSome then
      "[" ++ span.getD "" ++
        (match field with
          | some field => "\x7b" ++ field ++ "\x7d"
          | none => "") ++ "]"
    else ""
  let head := target.getD "" ++ scope
  if target.isNone && scope.isEmpty then threshold.name else head ++ "=" ++ threshold.name

def Directive.display (directive : Directive) : String :=
  displayParts directive.target directive.span (directive.field.map FieldMatch.display)
    directive.threshold

def EventDirective.display (directive : EventDirective) : String :=
  displayParts directive.target none directive.field directive.threshold

/-- Whether a directive says something of an event. -/
def EventDirective.concerns (directive : EventDirective) (event : Event) : Bool :=
  (match directive.target with
    | some target => target.toList.isPrefixOf event.area.toList
    | none => true) &&
  match directive.field with
  | some field => event.fieldNames.contains field
  | none => true

end LogFilter

open LogFilter

/-- A log filter. -/
structure LogFilter where
  onEvents : List EventDirective
  onSpans : List Directive
  deriving DecidableEq, Repr

namespace LogFilter

/-- The filter of directives. One that only names a field counts in both lists. -/
def ofDirectives (directives : List Directive) : LogFilter :=
  let onSpans := directives.filter Directive.isOnSpans
  let plain := directives.filter (!·.isOnSpans)
  ⟨inOrder EventDirective.compare
      (plain.filterMap Directive.onEvents? ++ onSpans.filterMap Directive.onEvents?),
    inOrder Directive.compare onSpans⟩

def errorsOnly : LogFilter := ofDirectives [⟨none, none, none, .upTo .error⟩]

/-- The filter of the directives of a text that are well-formed, or of errors if none is. -/
def lenient (text : String) : LogFilter :=
  let directives := Directive.wellFormedOfText text.toList
  if directives.isEmpty then errorsOnly else ofDirectives directives

/-- The filter of a start: that of the variable `RUST_LOG` if all of it is well-formed, else the
lenient one of the level in the settings. -/
def ofSettings (process : ProcessEnvironment) (level : String) : LogFilter :=
  match process.text? "RUST_LOG" with
  | some text =>
    match Directive.listOfText text.toList with
    | .ok directives => ofDirectives directives
    | .error _ => lenient level
  | none => lenient level

def display (filter : LogFilter) : String :=
  ",".intercalate
    (filter.onEvents.map EventDirective.display ++ filter.onSpans.map Directive.display)

/-- Whether an event is shown: the first directive that says something of it decides. -/
def shows (filter : LogFilter) (event : Event) : Bool :=
  match filter.onEvents.find? (·.concerns event) with
  | some directive => event.level.verbosity ≤ directive.threshold.verbosity
  | none => false

end LogFilter

end SiteBoot
