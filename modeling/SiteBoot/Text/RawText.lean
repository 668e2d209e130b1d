/-!
Raw text: the bytes that arguments, file names and process variables are made of. They are text
only if they are UTF-8, so the two are told apart by type. Main statement: text that was made raw
reads back.
-/

namespace SiteBoot

/-- Bytes that are meant as text but need not be UTF-8. -/
structure RawText where
  bytes : List UInt8
  deriving DecidableEq, Inhabited

namespace RawText

def nothing : RawText := ⟨[]⟩

def ofString (text : String) : RawText := ⟨text.toUTF8.data.toList⟩

instance : Coe String RawText := ⟨ofString⟩

/-- The text, if the bytes are UTF-8. -/
def text? (raw : RawText) : Option String := String.fromUTF8? ⟨raw.bytes.toArray⟩

def isEmpty (raw : RawText) : Bool := raw.bytes.isEmpty

def size (raw : RawText) : Nat := raw.bytes.length

instance : Append RawText := ⟨fun a b => ⟨a.bytes ++ b.bytes⟩⟩

/-- Whether a NUL occurs, which ends a text for the operating system. -/
def hasNul (raw : RawText) : Bool := raw.bytes.contains 0

/-- What follows `start`, if the bytes begin with it. -/
def dropStart? (raw start : RawText) : Option RawText :=
  if start.bytes.isPrefixOf raw.bytes then some ⟨raw.bytes.drop start.size⟩ else none

/-- The pieces between the occurrences of a byte. -/
def splitOn (raw : RawText) (byte : UInt8) : List RawText := (raw.bytes.splitOn byte).map mk

/-- The parts before and after the first occurrence of a byte, if it occurs. -/
def cut? (raw : RawText) (byte : UInt8) : Option (RawText × RawText) :=
  match raw.bytes.span (· ≠ byte) with
  | (before, _ :: after) => some (⟨before⟩, ⟨after⟩)
  | (_, []) => none

/-- The bytes as characters, each with the number of its byte. -/
def toChars (raw : RawText) : List Char := raw.bytes.map fun byte => Char.ofNat byte.toNat

/-- The raw text of characters that stand for bytes. -/
def ofChars (chars : List Char) : RawText := ⟨chars.map fun c => UInt8.ofNat c.toNat⟩

/-! ### Display of bytes that are not UTF-8 -/

/-- A character of several bytes that has begun: its bits so far, how many bytes are missing and
the bounds of the next one. -/
structure Begun where
  value : Nat
  missing : Nat
  low : UInt8
  high : UInt8

/-- The character for bytes that belong to no other. -/
def replacement : Char := '\uFFFD'

/-- What a byte means outside a character: a character of its own, the begin of a longer one, or
nothing that UTF-8 knows. -/
def begin? (byte : UInt8) : List Char × Option Begun :=
  let n := byte.toNat
  if n < 0x80 then ([Char.ofNat n], none)
  else if n < 0xC2 then ([replacement], none)
  else if n < 0xE0 then ([], some ⟨n - 0xC0, 1, 0x80, 0xBF⟩)
  else if n < 0xF0 then
    ([], some ⟨n - 0xE0, 2, if n = 0xE0 then 0xA0 else 0x80, if n = 0xED then 0x9F else 0xBF⟩)
  else if n < 0xF5 then
    ([], some ⟨n - 0xF0, 3, if n = 0xF0 then 0x90 else 0x80, if n = 0xF4 then 0x8F else 0xBF⟩)
  else ([replacement], none)

/-- The characters of the bytes, one replacement for each longest piece that begins a character
and cannot be completed. -/
def decodeLossy : Option Begun → List UInt8 → List Char
  | none, [] => []
  | some _, [] => [replacement]
  | none, byte :: rest =>
    let (out, begun) := begin? byte
    out ++ decodeLossy begun rest
  | some part, byte :: rest =>
    if part.low ≤ byte && byte ≤ part.high then
      let value := part.value * 0x40 + (byte.toNat - 0x80)
      if part.missing ≤ 1 then Char.ofNat value :: decodeLossy none rest
      else decodeLossy (some ⟨value, part.missing - 1, 0x80, 0xBF⟩) rest
    else
      let (out, begun) := begin? byte
      replacement :: out ++ decodeLossy begun rest

def display (raw : RawText) : String :=
  raw.text?.getD (String.ofList (decodeLossy none raw.bytes))

/-! ### Text made raw -/

@[simp] theorem text?_ofString (text : String) : (ofString text).text? = some text := by
  simp [text?, ofString, String.fromUTF8?, String.fromUTF8, text.isValidUTF8]

end RawText

end SiteBoot
