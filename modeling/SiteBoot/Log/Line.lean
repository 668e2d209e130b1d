import SiteBoot.Log.Event
import SiteBoot.Settings.Basic
/-!
Log lines: how an event is written out, for programs or for people.
-/

namespace SiteBoot

/-- A character within quotes, where quotes, backslashes and control characters are escaped. -/
def escapeInQuotes (c : Char) : List Char :=
  if c = '"' || c = '\\' then ['\\', c]
  else if c.toNat < 0x20 then
    ['\\', 'u', '0', '0', Nat.digitChar (c.toNat / 16), Nat.digitChar (c.toNat % 16)]
  else [c]

def quoteText (text : String) : String :=
  "\"" ++ String.ofList (text.toList.flatMap escapeInQuotes) ++ "\""

namespace FieldValue

def quoted : FieldValue → String
  | text value => quoteText value
  | number value => toString value

def plain : FieldValue → String
  | text value => value
  | number value => toString value

end FieldValue

namespace Event

/-- An event as an object with its level and its fields, the message among them. -/
def object (event : Event) : String :=
  let fields := ("message", FieldValue.text event.message) :: event.fields
  let shown := fields.map fun (name, value) => quoteText name ++ ":" ++ value.quoted
  "\x7b\"level\":" ++ quoteText event.level.name ++ ",\"fields\":\x7b" ++
    ",".intercalate shown ++ "\x7d\x7d"

/-- An event as its level, its message and its fields. -/
def sentence (event : Event) : String :=
  " ".intercalate (event.level.name :: event.message ::
    event.fields.map fun (name, value) => name ++ "=" ++ value.plain)

/-- The line of an event in a layout. -/
def line (event : Event) : LogFormat → String
  | .json => event.object
  | _ => event.sentence

end Event

end SiteBoot
