import SiteBoot.LogFilter.Expression.Basic
import SiteBoot.Text.Alphanumeric
import SiteBoot.Text.Blank
/-!
Reading regular expressions from texts without closing braces, equals signs and commas, so that
neither counted repetitions nor names in braces can be complete. Main definition:
`Expression.fault?`, which is what is wrong with a text as an expression.
-/

namespace SiteBoot.LogFilter

namespace Expression

/-- What is left of an expression that is being read, without blanks and comments if these do not
count. -/
def skipBlanks (ignoresBlanks : Bool) (text : List Char) : List Char :=
  if !ignoresBlanks then text
  else
    let rec skip : Bool → List Char → List Char
      | _, [] => []
      | true, c :: rest => skip (c ≠ '\n') rest
      | false, c :: rest =>
        if Text.isBlank c then skip false rest else if c = '#' then skip true rest else c :: rest
    skip false text

/-- The character that a hyphen is judged by, which is looked for in the text after the hyphen. If
blanks do not count, neither does one number sign among them, but what follows the sign is looked
at as if it were no comment. If nothing else is there, the very next character is taken. -/
def peek? (ignoresBlanks : Bool) (text : List Char) : Option Char :=
  if !ignoresBlanks then text.head?
  else
    let found := match text.dropWhile Text.isBlank with
      | '#' :: comment => comment.dropWhile Text.isBlank
      | found => found
    found.head?.or text.head?

/-- The signs that have a meaning of their own. -/
def signs : List Char := "\\.+*?()|[]\x7b\x7d^$#&-~".toList

/-- Whether a backslash makes a character stand for itself. -/
def canBeEscaped (c : Char) : Bool :=
  signs.contains c || (c.toNat < 0x80 && !c.isAlphanum && c ≠ '<' && c ≠ '>')

def isHexDigit (c : Char) : Bool := c.isDigit || ('a' ≤ c.toLower && c.toLower ≤ 'f')

/-- The character of so many hexadecimal digits, and what follows. -/
def hexadecimal? (ignoresBlanks : Bool) : Nat → Nat → List Char → Option (Char × List Char)
  | 0, value, text =>
    if h : value.isValidChar then some (Char.ofNatAux value h, text) else none
  | count + 1, value, c :: rest =>
    if isHexDigit c then
      let digit := if c.isDigit then c.toNat - 48 else c.toLower.toNat - 87
      hexadecimal? ignoresBlanks count (value * 16 + digit) (skipBlanks ignoresBlanks rest)
    else none
  | _ + 1, _, [] => none

/-- What a backslash and the text after it stand for, and what follows. -/
def escape? (ignoresBlanks : Bool) (text : List Char) : Option (Atom × List Char) :=
  let literal (c : Char) (rest : List Char) := some (Atom.literal ⟨c, false⟩, rest)
  match text with
  | [] => none
  | 'x' :: rest =>
    (hexadecimal? ignoresBlanks 2 0 (skipBlanks ignoresBlanks rest)).map fun (c, rest) =>
      (.literal ⟨c, true⟩, rest)
  | 'u' :: rest =>
    (hexadecimal? ignoresBlanks 4 0 (skipBlanks ignoresBlanks rest)).bind fun (c, rest) =>
      literal c rest
  | 'U' :: rest =>
    (hexadecimal? ignoresBlanks 8 0 (skipBlanks ignoresBlanks rest)).bind fun (c, rest) =>
      literal c rest
  | c :: rest =>
    if c = 'p' || c = 'P' then
      match skipBlanks ignoresBlanks rest with
      | [] | '\\' :: _ | '\x7b' :: _ => none
      | _ :: rest => some (.category, skipBlanks ignoresBlanks rest)
    else if c = 'd' || c = 's' || c = 'w' then some (.kind false, rest)
    else if c = 'D' || c = 'S' || c = 'W' then some (.kind true, rest)
    else if canBeEscaped c then literal c rest
    else if c = 'A' || c = 'z' then some (.edge, rest)
    else if c = 'b' || c = 'B' || c = '<' || c = '>' then some (.wordBoundary, rest)
    else match c with
      | 'a' => literal '\x07' rest
      | 'f' => literal '\x0c' rest
      | 't' => literal '\t' rest
      | 'n' => literal '\n' rest
      | 'r' => literal '\r' rest
      | 'v' => literal '\x0b' rest
      | _ => none

def setNames : List String :=
  ["alnum", "alpha", "ascii", "blank", "cntrl", "digit", "graph", "lower", "print", "punct",
    "space", "upper", "word", "xdigit"]

/-- A set by its name between colons, after its bracket, and what follows. -/
def namedSet? (text : List Char) : Option (SetItem × List Char) :=
  match text with
  | ':' :: rest =>
    let (isNegated, rest) := match rest with
      | '^' :: rest => (true, rest)
      | rest => (false, rest)
    match rest.span (· ≠ ':') with
    | (name, ':' :: ']' :: rest) =>
      if setNames.contains (String.ofList name) then some (.named isNegated, rest) else none
    | _ => none
  | _ => none

/-- One end of a range, or what stands in its place, and what follows. -/
def setAtom? (ignoresBlanks : Bool) : List Char → Option (Atom × List Char)
  | [] => none
  | '\\' :: rest => escape? ignoresBlanks rest
  | c :: rest => some (.literal ⟨c, false⟩, rest)

/-- The item of a set that an atom is. -/
def SetItem.ofAtom? : Atom → Option SetItem
  | .literal written => some (.literal written)
  | .kind isNegated => some (.kind isNegated)
  | .category => some .category
  | _ => none

/-- An item of a set other than a set in it, and what follows. A hyphen makes a range, unless a
bracket or a second hyphen seems to follow. -/
def setItem? (ignoresBlanks : Bool) (text : List Char) : Option (SetItem × List Char) := do
  let (first, rest) ← setAtom? ignoresBlanks text
  let rest := skipBlanks ignoresBlanks rest
  match rest with
  | [] => none
  | '-' :: after =>
    match peek? ignoresBlanks after with
    | some ']' | some '-' => return (← SetItem.ofAtom? first, rest)
    | _ =>
      match first, ← setAtom? ignoresBlanks (skipBlanks ignoresBlanks after) with
      | .literal low, (.literal high, rest) =>
        if low.char ≤ high.char then return (.range low high, rest) else none
      | _, _ => none
  | _ => return (← SetItem.ofAtom? first, rest)

/-- The hyphens and the bracket that stand for themselves at the begin of a set, and what
follows. -/
def setBegin (ignoresBlanks : Bool) (text : List Char) : List SetItem × List Char :=
  let rec hyphens : List SetItem → List Char → Nat → List SetItem × List Char
    | items, '-' :: rest, bound + 1 =>
      hyphens (items ++ [.literal ⟨'-', false⟩]) (skipBlanks ignoresBlanks rest) bound
    | items, text, _ => (items, text)
  match hyphens [] text text.length with
  | ([], ']' :: rest) => ([.literal ⟨']', false⟩], skipBlanks ignoresBlanks rest)
  | begun => begun

/-- The set so far: a combination that has begun, with the items of its last part. -/
def setSoFar (first : Option CharacterSet) (items : List SetItem) : CharacterSet :=
  match first with
  | some first => .combination first (.union items)
  | none => .union items

/-- A set after its bracket, and what follows the bracket that closes it. -/
def set? (ignoresBlanks : Bool) : Nat → List Char → Option (Bool × CharacterSet × List Char)
  | 0, _ => none
  | bound + 1, text =>
    let text := skipBlanks ignoresBlanks text
    let (isNegated, text) := match text with
      | '^' :: rest => (true, skipBlanks ignoresBlanks rest)
      | text => (false, text)
    let (items, text) := setBegin ignoresBlanks text
    let rec itemsFrom : Nat → Option CharacterSet → List SetItem → List Char →
        Option (CharacterSet × List Char)
      | 0, _, _, _ => none
      | steps + 1, first, items, text =>
        match skipBlanks ignoresBlanks text with
        | [] => none
        | ']' :: rest => some (setSoFar first items, rest)
        | '&' :: '&' :: rest | '-' :: '-' :: rest | '~' :: '~' :: rest =>
          itemsFrom steps (some (setSoFar first items)) [] rest
        | '[' :: rest =>
          match namedSet? rest with
          | some (item, rest) => itemsFrom steps first (items ++ [item]) rest
          | none =>
            match set? ignoresBlanks bound rest with
            | some (isNegated, set, rest) =>
              itemsFrom steps first (items ++ [.nested isNegated set]) rest
            | none => none
        | text =>
          match setItem? ignoresBlanks text with
          | some (item, rest) => itemsFrom steps first (items ++ [item]) rest
          | none => none
    match itemsFrom (text.length + 1) none items text with
    | some (set, rest) => some (isNegated, set, rest)
    | none => none

def Switch.ofLetter? : Char → Option Switch
  | 'i' => some .ignoresCase
  | 'm' => some .manyLines
  | 's' => some .dotMatchesAll
  | 'U' => some .swapsGreed
  | 'u' => some .unicode
  | 'R' => some .carriageReturns
  | 'x' => some .ignoresBlanks
  | _ => none

/-- Changes of switches up to a colon or a parenthesis, which is left. No switch comes twice, and
what follows one minus sign is turned off. -/
def switchChange? : Bool → SwitchChange → List Char → Option (SwitchChange × List Char)
  | _, _, [] => none
  | isOff, change, c :: rest =>
    if c = ':' || c = ')' then some (change, c :: rest)
    else if c = '-' then
      match rest with
      | ':' :: _ | ')' :: _ => none
      | _ => if isOff then none else switchChange? true change rest
    else match Switch.ofLetter? c with
      | some switch =>
        if (change.lookup switch).isSome then none
        else switchChange? isOff (change ++ [(switch, !isOff)]) rest
      | none => none

/-- Whether characters are a name for a group. -/
def isGroupName (name : List Char) : Bool :=
  name.head?.any (fun c => c = '_' || Text.isAlphabetic c) &&
    name.all fun c => "_.[]".toList.contains c || Text.isAlphanumeric c

/-- How a group begins. -/
inductive GroupBegin where
  | switches (change : SwitchChange)
  | group (name : Option (List Char)) (change : SwitchChange)

/-- The begin of a group after its parenthesis, and what follows. -/
def groupBegin? (ignoresBlanks : Bool) (text : List Char) : Option (GroupBegin × List Char) :=
  let named (rest : List Char) : Option (GroupBegin × List Char) :=
    match rest.span (· ≠ '>') with
    | (name, '>' :: rest) => if isGroupName name then some (.group (some name) [], rest) else none
    | _ => none
  match skipBlanks ignoresBlanks text with
  | '?' :: '=' :: _ | '?' :: '!' :: _ => none
  | '?' :: '<' :: '=' :: _ | '?' :: '<' :: '!' :: _ => none
  | '?' :: 'P' :: '<' :: rest => named rest
  | '?' :: '<' :: rest => named rest
  | '?' :: rest =>
    match switchChange? false [] rest with
    | some (change, ':' :: rest) => some (.group none change, rest)
    | some (change, _ :: rest) =>
      if change.isEmpty then none else some (.switches change, rest)
    | _ => none
  | text => some (.group none [], text)

/-- What is left to read, whether blanks count, and the names of groups so far. -/
structure Remaining where
  text : List Char
  ignoresBlanks : Bool
  names : List (List Char)

/-- The one expression of a list, or what it makes of several. -/
def joined (join : List Expression → Expression) : List Expression → Expression
  | [] => empty
  | [expression] => expression
  | expressions => join expressions

/-- Whether an expression can be repeated: not if there is nothing. -/
def isRepeatable : Expression → Bool
  | empty | switches _ => false
  | _ => true

/-- Reads the alternatives of a group up to its end: those that are complete and the sequence
that has begun come as arguments. -/
def alternatives? : Nat → List Expression → List Expression → Remaining →
    Option (Expression × Remaining)
  | 0, _, _, _ => none
  | bound + 1, complete, begun, remaining =>
    let blanks := remaining.ignoresBlanks
    let goOn (expression : Expression) (rest : List Char) :=
      alternatives? bound complete (begun ++ [expression]) { remaining with text := rest }
    match skipBlanks blanks remaining.text with
    | [] => some (joined .choice (complete ++ [joined .sequence begun]), { remaining with text := [] })
    | ')' :: rest =>
      some (joined .choice (complete ++ [joined .sequence begun]),
        { remaining with text := ')' :: rest })
    | '|' :: rest =>
      alternatives? bound (complete ++ [joined .sequence begun]) []
        { remaining with text := rest }
    | '[' :: rest =>
      match set? blanks (rest.length + 1) rest with
      | some (isNegated, set, rest) => goOn (.oneOf isNegated set) rest
      | none => none
    | '(' :: rest =>
      match groupBegin? blanks rest with
      | none => none
      | some (.switches change, rest) =>
        alternatives? bound complete (begun ++ [.switches change])
          { remaining with
            text := rest
            ignoresBlanks := (change.lookup .ignoresBlanks).getD blanks }
      | some (.group name change, rest) =>
        if name.any remaining.names.contains then none
        else
          match alternatives? bound [] []
            ⟨rest, (change.lookup .ignoresBlanks).getD blanks, name.toList ++ remaining.names⟩ with
          | some (expression, ⟨')' :: rest, _, names⟩) =>
            alternatives? bound complete (begun ++ [.group change expression]) ⟨rest, blanks, names⟩
          | _ => none
    | '\x7b' :: _ => none
    | c :: rest =>
      if c = '?' || c = '*' || c = '+' then
        match begun.getLast? with
        | some last =>
          if last.isRepeatable then
            alternatives? bound complete (begun.dropLast ++ [.repeated last])
              { remaining with text := if rest.head? = some '?' then rest.tail else rest }
          else none
        | none => none
      else match c with
        | '\\' =>
          match escape? blanks rest with
          | some (place, rest) => goOn (.atom place) rest
          | none => none
        | '.' => goOn (.atom .anyChar) rest
        | '^' | '$' => goOn (.atom .edge) rest
        | c => goOn (.atom (.literal ⟨c, false⟩)) rest

/-- The expression that a text without closing braces is. -/
def ofText? (text : List Char) : Option Expression :=
  match alternatives? (text.length + 1) [] [] ⟨text, false, []⟩ with
  | some (expression, ⟨[], _, _⟩) => some expression
  | _ => none

end Expression

/-- Why a text cannot be used as an expression. -/
inductive ExpressionFault where
  /-- It is none, or one that asks for what cannot be matched. -/
  | notBuilt
  /-- It asks for boundaries of words of any characters. -/
  | wordBoundary
  deriving DecidableEq, Repr

def ExpressionFault.message : ExpressionFault → String
  | notBuilt => "error building NFA"
  | wordBoundary =>
    "unsupported regex feature for DFAs: cannot build DFAs for regexes with Unicode word " ++
      "boundaries; switch to ASCII word boundaries, or heuristically enable Unicode word " ++
      "boundaries or use a different regex engine"

/-- What is wrong with a text as an expression, if anything is. -/
def Expression.fault? (text : List Char) : Option ExpressionFault :=
  match Expression.ofText? text with
  | none => some .notBuilt
  | some expression =>
    if expression.depth > Expression.maxDepth || (expression.use? .default).isNone then
      some .notBuilt
    else if (expression.boundaries .default).2 then some .wordBoundary
    else none

end SiteBoot.LogFilter
