import SiteBoot.Shell.Number
import SiteBoot.Shell.Syntax
/-!
Arithmetic of the shell, in integers of 64 bits. An expression is evaluated while it is read, so
what is wrong with it counts only as far as it has been read.
-/

namespace SiteBoot.Shell.Arithmetic

/-! ### Numbers -/

/-- The value of a digit in bases up to 16. -/
def digit? (c : Char) : Option Nat :=
  if c.isDigit then some (c.toNat - 48)
  else if 'a' ≤ c && c ≤ 'f' then some (c.toNat - 87)
  else if 'A' ≤ c && c ≤ 'F' then some (c.toNat - 55)
  else none

/-- The number of the digits of a base at the front, with the rest. -/
def digits (base : Nat) (chars : Chars) : Nat × Chars :=
  let front := chars.takeWhile fun c => (digit? c).any (· < base)
  (front.foldl (fun n c => n * base + (digit? c).getD 0) 0, chars.drop front.length)

/-- The number at the front, of a base that it tells by its beginning, with the rest. -/
def readNumber (chars : Chars) : Nat × Chars :=
  match chars with
  | '0' :: x :: d :: rest =>
    if (x = 'x' || x = 'X') && (digit? d).isSome then digits 16 (d :: rest)
    else digits 8 chars
  | '0' :: _ => digits 8 chars
  | _ => digits 10 chars

def isBlank (c : Char) : Bool := c = ' ' || ('\t' ≤ c && c ≤ '\x0d')

/-- The sign at the front, with the rest. -/
def readSign (chars : Chars) : Bool × Chars :=
  match chars with
  | '-' :: rest => (true, rest)
  | '+' :: rest => (false, rest)
  | rest => (false, rest)

/-- The number that a text stands for, if it does. Nothing stands for zero. -/
def ofText? (chars : Chars) : Option Int :=
  let chars := chars.dropWhile isBlank
  let (negative, unsigned) := readSign chars
  let (n, rest) :=
    if unsigned.head?.any Char.isDigit then readNumber unsigned else (0, chars)
  let n : Int := if negative then -n else n
  if rest.all isBlank && saturate n = n then some n else none

/-! ### Tokens -/

inductive Operation where
  | multiply
  | divide
  | remainder
  | add
  | subtract
  | shiftLeft
  | shiftRight
  | less
  | atMost
  | greater
  | atLeast
  | equal
  | unequal
  | bitAnd
  | bitXor
  | bitOr
  deriving DecidableEq

def Operation.level : Operation → Nat
  | multiply | divide | remainder => 0
  | add | subtract => 1
  | shiftLeft | shiftRight => 2
  | less | atMost | greater | atLeast => 3
  | equal | unequal => 4
  | bitAnd => 5
  | bitXor => 6
  | bitOr => 7

inductive Token where
  | finish
  | unknown
  | number (value : Int)
  | name (name : Chars)
  | operation (operation : Operation)
  /-- An assignment, of what an operation makes of the old value if there is one. -/
  | assignment (operation : Option Operation)
  | not
  | complement
  | and
  | or
  | question
  | colon
  | openParenthesis
  | closeParenthesis
  deriving DecidableEq

/-- The signs of the language, longer ones first. -/
def signs : List (String × Token) :=
  [("<<=", .assignment (some .shiftLeft)), (">>=", .assignment (some .shiftRight)),
    ("<<", .operation .shiftLeft), (">>", .operation .shiftRight), ("<=", .operation .atMost),
    (">=", .operation .atLeast), ("==", .operation .equal), ("!=", .operation .unequal),
    ("&&", .and), ("||", .or), ("*=", .assignment (some .multiply)),
    ("/=", .assignment (some .divide)), ("%=", .assignment (some .remainder)),
    ("+=", .assignment (some .add)), ("-=", .assignment (some .subtract)),
    ("&=", .assignment (some .bitAnd)), ("^=", .assignment (some .bitXor)),
    ("|=", .assignment (some .bitOr)), ("<", .operation .less), (">", .operation .greater),
    ("=", .assignment none), ("*", .operation .multiply), ("/", .operation .divide),
    ("%", .operation .remainder), ("+", .operation .add), ("-", .operation .subtract),
    ("&", .operation .bitAnd), ("^", .operation .bitXor), ("|", .operation .bitOr), ("!", .not),
    ("~", .complement), ("?", .question), (":", .colon), ("(", .openParenthesis),
    (")", .closeParenthesis)]

def readToken (chars : Chars) : Token × Chars :=
  match chars.dropWhile (" \t\n".toList.contains ·) with
  | [] => (.finish, [])
  | c :: rest =>
    if c.isDigit then
      let (n, rest) := readNumber (c :: rest)
      (.number (saturate n), rest)
    else if beginsName c then
      let name := (c :: rest).takeWhile isInName
      (.name name, (c :: rest).drop name.length)
    else
      match signs.find? fun (sign, _) => sign.toList.isPrefixOf (c :: rest) with
      | some (sign, token) => (token, (c :: rest).drop sign.length)
      | none => (.unknown, rest)

/-! ### Evaluation -/

/-- Why an expression has no value. -/
inductive Fault where
  | wrong (what : String)
  | noNumber (value : Chars)

/-- What is left of an expression, its next token, and what it has assigned so far, the last
assignment first. -/
structure Progress where
  rest : Chars
  token : Token
  assigned : List (Chars × Int)

/-- The evaluation of a part of an expression. -/
abbrev Evaluation := StateT Progress (Except Fault)

def advance : Evaluation Unit := modify fun progress =>
  let (token, rest) := readToken progress.rest
  { progress with token := token, rest := rest }

def Operation.apply (operation : Operation) (a b : Int) : Evaluation Int := do
  let ofBool (holds : Bool) : Int := if holds then 1 else 0
  let bits (combine : Nat → Nat → Nat) : Int :=
    wrap (combine (a % wholeWord).toNat (b % wholeWord).toNat)
  let count := (b % 64).toNat
  match operation with
  | multiply => return wrap (a * b)
  | divide => if b = 0 then throw (.wrong "division by zero") else return wrap (a.tdiv b)
  | remainder => if b = 0 then throw (.wrong "division by zero") else return wrap (a.tmod b)
  | add => return wrap (a + b)
  | subtract => return wrap (a - b)
  | shiftLeft => return wrap (a * Int.pow 2 count)
  | shiftRight => return a / Int.pow 2 count
  | less => return ofBool (a < b)
  | atMost => return ofBool (a ≤ b)
  | greater => return ofBool (a > b)
  | atLeast => return ofBool (a ≥ b)
  | equal => return ofBool (a = b)
  | unequal => return ofBool (a ≠ b)
  | bitAnd => return bits Nat.land
  | bitXor => return bits Nat.xor
  | bitOr => return bits Nat.lor

section
variable (value? : Chars → Option Chars)

def valueOf (name : Chars) : Evaluation Int := do
  match (← get).assigned.lookup name with
  | some n => return n
  | none =>
    let value := (value? name).getD []
    match ofText? value with
    | some n => return n
    | none => throw (.noNumber value)

mutual

/-- The value of a number, a variable, a parenthesis or one of these with signs before it. Parts
that are `skipped` are only read. -/
def primary : Nat → Bool → Evaluation Int
  | 0, _ => throw (.wrong "expecting primary")
  | bound + 1, skipped => do
    match (← get).token with
    | .openParenthesis =>
      advance
      let n ← assignment bound skipped
      if (← get).token ≠ .closeParenthesis then throw (.wrong "expecting ')'")
      advance
      return n
    | .number n =>
      advance
      return n
    | .name name =>
      advance
      if skipped then return 0 else valueOf value? name
    | .operation .add =>
      advance
      primary bound skipped
    | .operation .subtract =>
      advance
      return wrap (-(← primary bound skipped))
    | .not =>
      advance
      return if (← primary bound skipped) = 0 then 1 else 0
    | .complement =>
      advance
      return -(← primary bound skipped) - 1
    | _ => throw (.wrong "expecting primary")

/-- Goes on with operations that bind more tightly than a level, the first of which is given. -/
def operations : Nat → Int → Operation → Nat → Bool → Evaluation Int
  | 0, _, _, _, _ => throw (.wrong "expecting primary")
  | bound + 1, a, operation, level, skipped => do
    advance
    let b ← primary bound skipped
    let b ← match (← get).token with
      | .operation next =>
        if next.level < operation.level then operations bound b next operation.level skipped
        else pure b
      | _ => pure b
    let a ← if skipped then pure b else operation.apply a b
    match (← get).token with
    | .operation next =>
      if next.level < level then operations bound a next level skipped else return a
    | _ => return a

def chain : Nat → Bool → Evaluation Int
  | 0, _ => throw (.wrong "expecting primary")
  | bound + 1, skipped => do
    let a ← primary bound skipped
    match (← get).token with
    | .operation operation => operations bound a operation 8 skipped
    | _ => return a

def conjunction : Nat → Bool → Evaluation Int
  | 0, _ => throw (.wrong "expecting primary")
  | bound + 1, skipped => do
    let a ← chain bound skipped
    if (← get).token ≠ .and then return a
    advance
    let b ← conjunction bound (skipped || a = 0)
    return if a ≠ 0 && b ≠ 0 then 1 else 0

def disjunction : Nat → Bool → Evaluation Int
  | 0, _ => throw (.wrong "expecting primary")
  | bound + 1, skipped => do
    let a ← conjunction bound skipped
    if (← get).token ≠ .or then return a
    advance
    let b ← disjunction bound (skipped || a ≠ 0)
    return if a ≠ 0 || b ≠ 0 then 1 else 0

def choice : Nat → Bool → Evaluation Int
  | 0, _ => throw (.wrong "expecting primary")
  | bound + 1, skipped => do
    let a ← disjunction bound skipped
    if (← get).token ≠ .question then return a
    advance
    let b ← assignment bound (skipped || a = 0)
    if (← get).token ≠ .colon then throw (.wrong "expecting ':'")
    advance
    let c ← choice bound (skipped || a ≠ 0)
    return if a ≠ 0 then b else c

def assignment : Nat → Bool → Evaluation Int
  | 0, _ => throw (.wrong "expecting primary")
  | bound + 1, skipped => do
    match (← get).token with
    | .name name =>
      match readToken (← get).rest with
      | (.assignment operation, rest) =>
        modify fun progress => { progress with rest := rest }
        advance
        let n ← assignment bound skipped
        if skipped then return n
        let n ← match operation with
          | some operation => operation.apply (← valueOf value? name) n
          | none => pure n
        modify fun progress => { progress with assigned := (name, n) :: progress.assigned }
        return n
      | _ => choice bound skipped
    | _ => choice bound skipped

end

/-- The value of an expression, and what it assigns, the first assignment first. -/
def evaluate (expression : Chars) : Except Fault (Int × List (Chars × Int)) := do
  let start : Progress := ⟨expression, .finish, []⟩
  let whole : Evaluation Int := do
    advance
    let n ← assignment value? (8 * expression.length + 16) false
    if (← get).token ≠ .finish then throw (.wrong "expecting EOF")
    return n
  let (n, progress) ← whole.run start
  return (n, progress.assigned.reverse)

end

/-- The wording of a fault in an expression. -/
def Fault.message (expression : Chars) : Fault → Chars
  | wrong what =>
    "arithmetic expression: ".toList ++ what.toList ++ ": \"".toList ++ expression ++ ['"']
  | noNumber value => "Illegal number: ".toList ++ value

end SiteBoot.Shell.Arithmetic
