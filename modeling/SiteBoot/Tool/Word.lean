import SiteBoot.Shell.Condition
import SiteBoot.Shell.Printing
import SiteBoot.System.Execution
import SiteBoot.Tool.Pattern
/-!
The programs that go by their words and by their environment alone.
-/

namespace SiteBoot.Tool

/-! ### The environment -/

/-- Entries of an environment as they are shown. -/
def entryLine (entry : RawText × RawText) : Chars :=
  entry.1.toChars ++ '=' :: entry.2.toChars ++ ['\n']

/-- An environment with an entry, which stays in its place if it is there. -/
def setEntry (env : List (RawText × RawText)) (name value : RawText) : List (RawText × RawText) :=
  if env.any (·.1 = name) then
    env.map fun (other, old) => if other = name then (other, value) else (other, old)
  else env ++ [(name, value)]

/-- The environment after the words at the front that are entries, and the other words. -/
def takeEntries (env : List (RawText × RawText)) :
    List Chars → List (RawText × RawText) × List Chars
  | [] => (env, [])
  | word :: rest =>
    let name := word.takeWhile (· ≠ '=')
    match word.drop name.length with
    | _ :: value => takeEntries (setEntry env (.ofChars name) (.ofChars value)) rest
    | [] => (env, word :: rest)

/-- Shows the environment, or runs a program in another one. -/
def environment (words : List Chars) : Work Unit := do
  let (options, words) ← options ⟨"iu:0".toList,
    [("ignore-environment", 'i'), ("unset", 'u')], 125, true⟩ words
  let isBare := words.head? = some ['-']
  let words := if isBare then words.tail else words
  let given := (← get).env
  let env := if has options 'i' || isBare then [] else given
  let unset := (options.filter (·.1 = 'u')).map fun (_, name) => RawText.ofChars name
  let (env, words) := takeEntries (env.filter (!unset.contains ·.1)) words
  match words with
  | [] => for entry in env do print (entryLine entry)
  | program :: args =>
    let files := (← Routine.system).tree
    match files.search (env.lookup (.ofString "PATH")) (.ofChars program) (args.map .ofChars) with
    | .ok image => Routine.replace image env
    | .error failure =>
      fail (quoted program ++ ": ".toList ++ failureText failure)
        (if failure matches .notFound then 127 else 126)

def printEnvironment (words : List Chars) : Work Unit := do
  let (_, words) ← options ⟨"0".toList, [], 2, true⟩ words
  if words.isEmpty then
    for entry in (← get).env do print (entryLine entry)
  for name in words do
    match (← get).env.lookup (.ofChars name) with
    | some value => print (value.toChars ++ ['\n'])
    | none => setStatus 1

/-- Shows the path of the directory that the program stands in. -/
def workingDirectory (words : List Chars) : Work Unit := do
  let (options, _) ← options ⟨"LP".toList, [("logical", 'L'), ("physical", 'P')], 1, false⟩ words
  let system ← Routine.system
  let here := system.current.here
  let real := '/' :: ['/'].intercalate (here.map RawText.toChars)
  let given := ((← lookUp? "PWD").map RawText.toChars).getD []
  let isRight := given.head? = some '/' && (match system.tree.find (.ofChars given) with
    | .ok (place, some .directory) => place = here
    | _ => false)
  print ((if has options 'L' && isRight then given else real) ++ ['\n'])

/-! ### Time -/

def timeOf? (word : Chars) : Option Nat :=
  let whole := word.takeWhile Char.isDigit
  let (places, rest) := match word.drop whole.length with
    | '.' :: rest => (rest.takeWhile Char.isDigit, rest.dropWhile Char.isDigit)
    | rest => ([], rest)
  let unit? : Option Nat := match rest with
    | [] | ['s'] => some 1
    | ['m'] => some 60
    | ['h'] => some 3600
    | ['d'] => some 86400
    | _ => none
  if whole.isEmpty && places.isEmpty then none
  else
    let digits := whole ++ places.take 9 ++ List.replicate (9 - places.length) '0'
    unit?.map fun unit => digits.foldl (fun n c => n * 10 + (c.toNat - 48)) 0 * unit

def sleep (words : List Chars) : Work Unit := do
  let (_, words) ← options ⟨[], [], 1, false⟩ words
  if words.isEmpty then failUsage "missing operand".toList 1
  let wrong := words.filter fun word => (timeOf? word).isNone
  for word in wrong.dropLast do warn ("invalid time interval ".toList ++ quoted word)
  for word in wrong.getLast? do failUsage ("invalid time interval ".toList ++ quoted word) 1
  Routine.sleep ((words.filterMap timeOf?).foldl (· + ·) 0)

/-! ### Conditions and formats -/

/-- A condition, which has to end with a bracket if the program is called by the other one. -/
def test (isBracket : Bool) (words : List Chars) : Work Unit := do
  if isBracket && words.getLast? ≠ some [']'] then fail "missing ']'".toList 2
  let files := (← Routine.system).tree
  match Shell.Condition.holds files (if isBracket then words.dropLast else words) with
  | .ok holds => setStatus (if holds then 0 else 1)
  | .error message => fail message 2

def printFormatted (words : List Chars) : Work Unit := do
  match (if words.head? = some ['-', '-'] then words.tail else words) with
  | [] => failUsage "missing operand".toList 1
  | format :: args =>
    let (out, faults, failure) := Shell.printfRun format args
    for message in faults do complain message 1
    print out
    for message in failure do fail message 1

/-! ### Names and numbers -/

/-- A path without the slashes at its end. -/
def withoutSlashes (path : Chars) : Chars :=
  let trimmed := (path.reverse.dropWhile (· = '/')).reverse
  if trimmed.isEmpty then path.take 1 else trimmed

def baseName (words : List Chars) : Work Unit := do
  let (options, words) ← options ⟨"as:z".toList, [("multiple", 'a'), ("suffix", 's')], 1, true⟩ words
  let isMany := has options 'a' || has options 's'
  let nameOf (path ending : Chars) : Chars :=
    let path := withoutSlashes path
    let name := if path = ['/'] then path else (path.reverse.takeWhile (· ≠ '/')).reverse
    if name ≠ ending && ending.isSuffixOf name then name.take (name.length - ending.length)
    else name
  match words with
  | [] => failUsage "missing operand".toList 1
  | path :: rest =>
    if isMany then
      for path in words do print (nameOf path ((valueOf? options 's').getD []) ++ ['\n'])
    else match rest with
      | _ :: extra :: _ => failUsage ("extra operand ".toList ++ quoted extra) 1
      | rest => print (nameOf path (rest.headD []) ++ ['\n'])

def directoryName (words : List Chars) : Work Unit := do
  let (_, words) ← options ⟨"z".toList, [], 1, true⟩ words
  if words.isEmpty then failUsage "missing operand".toList 1
  for path in words do
    let trimmed := withoutSlashes path
    let parent := trimmed.reverse.dropWhile (· ≠ '/') |>.reverse
    print ((if trimmed = ['/'] then trimmed
      else if parent.isEmpty then ['.']
      else withoutSlashes parent) ++ ['\n'])

def integer? : Chars → Option Int
  | '-' :: digits => (number? digits).map fun n => -(n : Int)
  | '+' :: digits => (number? digits).map Int.ofNat
  | digits => (number? digits).map Int.ofNat

/-- The numbers from one on by steps up to another one, at most so many of them. -/
def progression (step last : Int) : Nat → Int → List Int
  | 0, _ => []
  | bound + 1, n =>
    if (0 < step && last < n) || (step < 0 && n < last) then []
    else n :: progression step last bound (n + step)

def sequence (words : List Chars) : Work Unit := do
  let isOption (word : Chars) : Bool := match word with
    | '-' :: c :: _ => !c.isDigit
    | _ => false
  let (options, words) ← if words.any isOption then
      options ⟨"s:wf:".toList, [("separator", 's'), ("equal-width", 'w')], 1, true⟩ words
    else pure ([], words)
  if words.isEmpty then failUsage "missing operand".toList 1
  let numbers ← words.mapM fun word => do
    match integer? word with
    | some n => return n
    | none => failUsage ("invalid floating point argument: ".toList ++ quoted word) 1
  let (first, step, last) ← match numbers with
    | [last] => pure (1, 1, last)
    | [first, last] => pure (first, 1, last)
    | [first, step, last] => pure (first, step, last)
    | _ => failUsage ("extra operand ".toList ++ quoted (words.getD 3 [])) 1
  if step = 0 then
    failUsage ("invalid Zero increment value: ".toList ++ quoted (words.getD 1 [])) 1
  let count := ((last - first) / step).toNat + 1
  let shown := (progression step last count first).map fun n => (toString n).toList
  if !shown.isEmpty then
    print (((valueOf? options 's').getD ['\n']).intercalate shown ++ ['\n'])

/-! ### Expressions -/

/-- The value of an expression: words of it are left, or something is wrong. -/
abbrev Reading := StateT (List Chars) (Except Chars)

def isNull (value : Chars) : Bool := value.isEmpty || integer? value = some 0

def numberOf (value : Chars) : Reading Int :=
  match integer? value with
  | some n => return n
  | none => throw "non-integer argument".toList

/-- The operators between two values, those that bind least first. -/
def operatorLevels : List (List String) :=
  [["|"], ["&"], ["<", "<=", "=", "==", "!=", ">=", ">"], ["+", "-"], ["*", "/", "%"], [":"]]

/-- The value of an operator between two values. -/
def applyOperator (name : String) (left right : Chars) : Reading Chars := do
  let shown (n : Int) : Chars := (toString n).toList
  let compare (test : Ordering → Bool) : Chars :=
    let order := match integer? left, integer? right with
      | some a, some b => Ord.compare a b
      | _, _ => Ord.compare (String.ofList left) (String.ofList right)
    if test order then ['1'] else ['0']
  match name with
  | "|" => return if !isNull left then left else if isNull right then ['0'] else right
  | "&" => return if isNull left || isNull right then ['0'] else left
  | "<" => return compare (· == .lt)
  | "<=" => return compare (· != .gt)
  | "=" | "==" => return compare (· == .eq)
  | "!=" => return compare (· != .eq)
  | ">=" => return compare (· != .lt)
  | ">" => return compare (· == .gt)
  | ":" =>
    let pattern := { onePattern .basic right with atStart := true }
    return shown (((pattern.find? left).map Prod.snd).getD 0)
  | name =>
    let a ← numberOf left
    let b ← numberOf right
    match name with
    | "+" => return shown (a + b)
    | "-" => return shown (a - b)
    | "*" => return shown (a * b)
    | name =>
      if b = 0 then throw "division by zero".toList
      return shown (if name = "/" then a.tdiv b else a.tmod b)

/-- The value of an expression, where operators of the first levels are left to others. -/
def readExpression : Nat → Nat → Reading Chars
  | 0, _ => throw "syntax error".toList
  | bound + 1, level => do
    match operatorLevels[level]? with
    | some operators =>
      let first ← readExpression bound (level + 1)
      let rec readMore : Nat → Chars → Reading Chars
        | 0, value => return value
        | count + 1, value => do
          match ← get with
          | operator :: rest =>
            let name := String.ofList operator
            if operators.contains name then
              set rest
              let next ← readExpression bound (level + 1)
              readMore count (← applyOperator name value next)
            else return value
          | [] => return value
      readMore bound first
    | none =>
      match ← get with
      | [] => throw "syntax error: missing argument".toList
      | ['('] :: rest =>
        set rest
        let value ← readExpression bound 0
        match ← get with
        | [')'] :: rest =>
          set rest
          return value
        | _ => throw "syntax error: expecting ')'".toList
      | word :: rest =>
        set rest
        let argument : Reading Chars := do
          match ← get with
          | word :: rest =>
            set rest
            return word
          | [] => throw ("syntax error: missing argument after ".toList ++ quoted word)
        match String.ofList word with
        | "length" => return decimal (← argument).length
        | "substr" =>
          let text ← argument
          let start ← numberOf (← argument)
          let count ← numberOf (← argument)
          return if start ≤ 0 || count ≤ 0 then []
            else (text.drop (start.toNat - 1)).take count.toNat
        | "index" =>
          let text ← argument
          let sought ← argument
          return decimal (((text.findIdx? sought.contains).map (· + 1)).getD 0)
        | _ => return word

def expression (words : List Chars) : Work Unit := do
  let words := if words.head? = some ['-', '-'] then words.tail else words
  if words.isEmpty then failUsage "missing operand".toList 2
  match (readExpression (words.length * 8 + 16) 0).run words with
  | .error message => fail message 2
  | .ok (value, rest) =>
    for word in rest.head? do
      fail ("syntax error: unexpected argument ".toList ++ quoted word) 2
    print (value ++ ['\n'])
    setStatus (if isNull value then 1 else 0)

end SiteBoot.Tool
