import SiteBoot.Shell.State
/-!
Conditions: what `[` and `test` find true. A condition is evaluated while it is read, after the
number of its words where that settles what they mean.
-/

namespace SiteBoot.Shell.Condition

/-- The signs of a condition. -/
inductive Sign where
  | unary (name : String)
  | binary (name : String)
  | not
  | and
  | or
  | openParenthesis
  | closeParenthesis
  deriving DecidableEq

def sign? (word : Chars) : Option Sign :=
  let name := text word
  if ["-r", "-w", "-x", "-e", "-f", "-d", "-c", "-b", "-p", "-u", "-g", "-k", "-s", "-t", "-z",
      "-n", "-h", "-O", "-G", "-S", "-L"].contains name then some (.unary name)
  else if ["=", "!=", "<", ">", "-eq", "-ne", "-gt", "-ge", "-lt", "-le", "-nt", "-ot",
      "-ef"].contains name then some (.binary name)
  else if name = "!" then some .not
  else if name = "-a" then some .and
  else if name = "-o" then some .or
  else if name = "(" then some .openParenthesis
  else if name = ")" then some .closeParenthesis
  else none

/-- What a word of a condition is, or that there is none. -/
inductive Part where
  | finish
  | operand
  | sign (sign : Sign)
  deriving DecidableEq

/-- The evaluation of a condition on files: the words that are left, or what is wrong. -/
abbrev Evaluation := StateT (List Chars) (Except Chars)

/-- Whether a sign for one word is meant as a word, by what follows it. -/
def isOperand (after : List Chars) : Bool :=
  match after with
  | [] => true
  | [_] => false
  | word :: _ =>
    match sign? word with
    | some (.binary _) => true
    | _ => false

def classify (words : List Chars) : Part :=
  match words with
  | [] => .finish
  | word :: after =>
    match sign? word with
    | none => .operand
    | some (.unary name) => if isOperand after then .operand else .sign (.unary name)
    | some .openParenthesis => if after.isEmpty then .operand else .sign .openParenthesis
    | some sign => .sign sign

/-- What is said of a word, which is not named if it is empty. -/
def complaint (word : Chars) (what : String) : Chars :=
  if word.isEmpty then what.toList else word ++ ": ".toList ++ what.toList

def wrong {α : Type} (word : Chars) (what : String) : Evaluation α := throw (complaint word what)

def numberOf (word : Chars) : Evaluation Int :=
  match decimal? word with
  | some n => return n
  | none => throw ("Illegal number: ".toList ++ word)

section
variable (files : FileTree)

/-- Whether a path leads to something with a property. -/
def leadsTo (path : Chars) (test : Node → Bool) : Bool :=
  match files.find (.ofChars path) with
  | .ok (_, some node) => test node
  | _ => false

/-- Whether a sign for one word holds of it. -/
def unaryHolds (name : String) (word : Chars) : Evaluation Bool := do
  let has := leadsTo files word
  match name with
  | "-n" => return !word.isEmpty
  | "-z" => return word.isEmpty
  | "-t" =>
    let _ ← numberOf word
    return false
  | "-e" | "-r" | "-w" | "-O" | "-G" => return has fun _ => true
  | "-f" => return has fun
      | .file .. | .utility _ => true
      | _ => false
  | "-d" => return has (· = .directory)
  | "-c" => return has (· = .sink)
  | "-s" => return has fun
      | .file content _ => !content.isEmpty
      | .sink => false
      | _ => true
  | "-x" => return has fun
      | .file _ executable => executable
      | .sink => false
      | _ => true
  | "-L" | "-h" => return match files.findLink (.ofChars word) with
      | .ok (_, some (.link _)) => true
      | _ => false
  | _ => return false

/-- Whether a text comes before another one, by the bytes. -/
def precedes : Chars → Chars → Bool
  | _, [] => false
  | [], _ :: _ => true
  | a :: as, b :: bs => a < b || (a = b && precedes as bs)

/-- Whether a sign between two words holds of them. -/
def binaryHolds (left : Chars) (name : String) (right : Chars) : Evaluation Bool := do
  match name with
  | "=" => return left = right
  | "!=" => return left ≠ right
  | "<" => return precedes left right
  | ">" => return precedes right left
  | "-eq" => return (← numberOf left) = (← numberOf right)
  | "-ne" => return (← numberOf left) ≠ (← numberOf right)
  | "-lt" => return (← numberOf left) < (← numberOf right)
  | "-le" => return (← numberOf left) ≤ (← numberOf right)
  | "-gt" => return (← numberOf left) > (← numberOf right)
  | "-ge" => return (← numberOf left) ≥ (← numberOf right)
  | "-ef" => return match files.find (.ofChars left), files.find (.ofChars right) with
      | .ok (a, some _), .ok (b, some _) => a = b
      | _, _ => false
  | _ => return false

/-- Goes on to the next word, and says what it is. -/
def step : Evaluation Part := do
  modify List.tail
  return classify (← get)

mutual

/-- Conditions of which one has to hold. The words begin with the first of them, and are left at
the last word that was read. -/
def disjunction : Nat → Part → Evaluation Bool
  | 0, _ => return false
  | bound + 1, part => do
    let first ← conjunction bound part
    match (← get) with
    | _ :: after =>
      if classify after = .sign .or then
        set after
        let part ← step
        return (← disjunction bound part) || first
      else return first
    | [] => return first

def conjunction : Nat → Part → Evaluation Bool
  | 0, _ => return false
  | bound + 1, part => do
    let first ← negation bound part
    match (← get) with
    | _ :: after =>
      if classify after = .sign .and then
        set after
        let part ← step
        return (← conjunction bound part) && first
      else return first
    | [] => return first

def negation : Nat → Part → Evaluation Bool
  | 0, _ => return false
  | bound + 1, part => do
    if part ≠ .sign .not then primary bound part
    else
      let words ← get
      let next := classify words.tail
      if next ≠ .finish then set words.tail
      return !(← negation bound next)

/-- A condition on one or two words, or in parentheses. -/
def primary : Nat → Part → Evaluation Bool
  | 0, _ => return false
  | bound + 1, part => do
    let words ← get
    match part with
    | .finish => return false
    | .sign .openParenthesis =>
      let next ← step
      if next = .sign .closeParenthesis then return false
      let result ← disjunction bound next
      if (← step) ≠ .sign .closeParenthesis then wrong [] "closing paren expected"
      return result
    | part =>
      match part, words with
      | .sign (.unary name), _ :: word :: _ =>
        set words.tail
        unaryHolds files name word
      | .sign (.unary name), _ => wrong name.toList "argument expected"
      | _, left :: after =>
        match classify after, after with
        | .sign (.binary name), _ :: right :: _ =>
          set after.tail
          binaryHolds files left name right
        | .sign (.binary name), _ => wrong name.toList "argument expected"
        | _, _ => return !left.isEmpty
      | _, [] => return false

end

/-- Whether words that are read as a condition from the first on hold. -/
def whole (words : List Chars) (part : Part) : Except Chars Bool := do
  let (result, rest) ← (disjunction files (4 * words.length + 8) part).run words
  match rest with
  | word :: _ :: _ => throw (complaint word "unexpected operator")
  | _ => return result

/-- Whether words hold as a condition, or do not if that is asked. -/
def holdsIf (isNegated : Bool) : List Chars → Except Chars Bool
  | [] => return isNegated
  | first :: rest =>
    let words := first :: rest
    let isBinary := match rest with
      | [sign, _] =>
        (match sign? sign with
          | some (.binary _) => true
          | _ => false)
      | _ => false
    let result (words : List Chars) (part : Part) : Except Chars Bool :=
      (whole files words part).map (· != isNegated)
    if isBinary then result words .operand
    else if words.length = 3 || words.length = 4 then
      if first = ['('] && words.getLast? = some [')'] then
        result rest.dropLast (classify rest.dropLast)
      else if first = ['!'] then holdsIf true rest
      else result words (classify words)
    else result words (classify words)

def holds (words : List Chars) : Except Chars Bool := holdsIf files false words

end

end SiteBoot.Shell.Condition
