/-!
Quoted strings of TOML: on one line or over several, with escapes or without. All are read
character by character; each reader starts after the opening quotes and gives what follows the
closing ones.
-/

namespace SiteBoot.Toml

/-- Characters that stand for themselves: all but control characters other than the tab. -/
def isPlainChar (c : Char) : Bool := c = '\t' || (0x20 ≤ c.toNat && c.toNat ≠ 0x7F)

/-- What a letter or sign means after a backslash. -/
def escaped? : Char → Option Char
  | 'b' => some '\x08'
  | 't' => some '\t'
  | 'n' => some '\n'
  | 'f' => some '\x0c'
  | 'r' => some '\r'
  | '"' => some '"'
  | '\\' => some '\\'
  | _ => none

def hexDigit? (c : Char) : Option Nat :=
  if c.isDigit then some (c.toNat - 48)
  else if 'a' ≤ c && c ≤ 'f' then some (c.toNat - 87)
  else if 'A' ≤ c && c ≤ 'F' then some (c.toNat - 55)
  else none

/-- The character of a number, if it is one. -/
def char? (n : Nat) : Option Char := if n.isValidChar then some (Char.ofNat n) else none

/-- Where the reading of a string on one line stands. -/
inductive ShortState where
  | plain
  | escape
  /-- In the number of a character, with the digits that are missing. -/
  | number (missing value : Nat)
  deriving DecidableEq, Repr

def readBasic : ShortState → List Char → Option (List Char × List Char)
  | _, [] => none
  | .plain, c :: rest =>
    if c = '"' then some ([], rest)
    else if c = '\\' then readBasic .escape rest
    else if isPlainChar c then (readBasic .plain rest).map fun (text, rest) => (c :: text, rest)
    else none
  | .escape, c :: rest =>
    if c = 'u' then readBasic (.number 4 0) rest
    else if c = 'U' then readBasic (.number 8 0) rest
    else match escaped? c with
      | some meaning => (readBasic .plain rest).map fun (text, rest) => (meaning :: text, rest)
      | none => none
  | .number missing value, c :: rest => do
    let value := value * 16 + (← hexDigit? c)
    if missing ≤ 1 then
      let meaning ← char? value
      (readBasic .plain rest).map fun (text, rest) => (meaning :: text, rest)
    else readBasic (.number (missing - 1) value) rest

def readLiteral : List Char → Option (List Char × List Char)
  | [] => none
  | c :: rest =>
    if c = '\'' then some ([], rest)
    else if isPlainChar c then (readLiteral rest).map fun (text, rest) => (c :: text, rest)
    else none

/-- Where the reading of a string over several lines stands. -/
inductive LongState where
  | plain
  | carriage
  | escape
  | number (missing value : Nat)
  /-- After so many of the quotes that close the string if three of them follow each other. -/
  | quotes (count : Nat)
  /-- After a backslash and blanks, before the line end that they hide. -/
  | hidden
  /-- After a hidden line end, before the next character that is not hidden. -/
  | hiding
  /-- After a carriage return that is hidden. -/
  | hidingCarriage
  deriving DecidableEq, Repr

/-- A character between escapes: what it adds and where the reading stands after it. -/
def LongState.plainNext? (quote c : Char) : Option (List Char × LongState) :=
  if c = quote then some ([], .quotes 1)
  else if c = '\\' && quote = '"' then some ([], .escape)
  else if c = '\n' then some ([c], .plain)
  else if c = '\r' then some ([], .carriage)
  else if isPlainChar c then some ([c], .plain)
  else none

/-- A character of a string over several lines. Line ends count as newlines. -/
def LongState.next? (quote : Char) : LongState → Char → Option (List Char × LongState)
  | .plain, c => plainNext? quote c
  | .carriage, c => if c = '\n' then some (['\n'], .plain) else none
  | .escape, c =>
    if c = 'u' then some ([], .number 4 0)
    else if c = 'U' then some ([], .number 8 0)
    else if c = ' ' || c = '\t' then some ([], .hidden)
    else if c = '\n' then some ([], .hiding)
    else if c = '\r' then some ([], .hidingCarriage)
    else (escaped? c).map fun meaning => ([meaning], .plain)
  | .number missing value, c => do
    let value := value * 16 + (← hexDigit? c)
    if missing ≤ 1 then return ([← char? value], .plain)
    else return ([], .number (missing - 1) value)
  | .quotes count, c => do
    let (added, state) ← plainNext? quote c
    return (List.replicate count quote ++ added, state)
  | .hidden, c =>
    if c = ' ' || c = '\t' then some ([], .hidden)
    else if c = '\n' then some ([], .hiding)
    else if c = '\r' then some ([], .hidingCarriage)
    else none
  | .hiding, c =>
    if c = ' ' || c = '\t' || c = '\n' then some ([], .hiding)
    else if c = '\r' then some ([], .hidingCarriage)
    else plainNext? quote c
  | .hidingCarriage, c => if c = '\n' then some ([], .hiding) else none

/-- A string over several lines. Up to two quotes may stand before the three that close it. -/
def readLong (quote : Char) : LongState → List Char → Option (List Char × List Char)
  | .quotes count, [] => if count < 3 then none else some (List.replicate (count - 3) quote, [])
  | _, [] => none
  | .quotes count, c :: rest =>
    if c = quote then
      if count < 4 then readLong quote (.quotes (count + 1)) rest else some ([quote, quote], rest)
    else if 3 ≤ count then some (List.replicate (count - 3) quote, c :: rest)
    else do
      let (added, state) ← LongState.next? quote (.quotes count) c
      let (text, rest) ← readLong quote state rest
      return (added ++ text, rest)
  | state, c :: rest => do
    let (added, state) ← state.next? quote c
    let (text, rest) ← readLong quote state rest
    return (added ++ text, rest)

/-- The text without a line end at its start. -/
def dropLineEnd : List Char → List Char
  | '\n' :: rest => rest
  | '\r' :: '\n' :: rest => rest
  | text => text

/-- A string at the start of a text, and what follows it. -/
def readString? : List Char → Option (List Char × List Char)
  | '"' :: '"' :: '"' :: rest => readLong '"' .plain (dropLineEnd rest)
  | '\'' :: '\'' :: '\'' :: rest => readLong '\'' .plain (dropLineEnd rest)
  | '"' :: rest => readBasic .plain rest
  | '\'' :: rest => readLiteral rest
  | _ => none

end SiteBoot.Toml
