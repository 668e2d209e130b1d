import SiteBoot.Tool.Pattern
/-!
The programs that read texts and write what they make of them.
-/

namespace SiteBoot.Tool

/-- How many pieces of a text are read at most. -/
def maxPieces : Nat := 1000000

def pieceSize : Nat := 131072

/-- Does something with each file that words name, or with what comes in. Where a file cannot be
read, that is said. -/
def forFiles (words : List Chars) (status : Nat) (name : Chars → Failure → Chars)
    (body : Chars → Chars → Work Unit) : Work Unit := do
  for path in (if words.isEmpty then [['-']] else words) do
    match ← readPath path with
    | .ok text => body path text
    | .error failure => complain (name path failure) status

/-- What is said of a file by its name alone. -/
def plainFailure (path : Chars) (failure : Failure) : Chars :=
  quotedIfNeeded path ++ ": ".toList ++ failureText failure

/-! ### Whole files -/

/-- Writes on what a descriptor has, by at most so many pieces. -/
def passOn (descriptor : Nat) : Nat → Work (Except Failure Unit)
  | 0 => return .ok ()
  | bound + 1 => do
    match ← Routine.read descriptor pieceSize with
    | .error failure => return .error failure
    | .ok text =>
      if text.isEmpty then return .ok ()
      match ← Routine.write 1 text with
      | .ok () => passOn descriptor bound
      | .error failure => fail ("write error: ".toList ++ failureText failure) 1

/-- Whether two descriptors stand for the same file, and the first has not been read to its
end. -/
def isOwnOutput (descriptor : Nat) : Work Bool := do
  let system ← Routine.system
  match system.openBehind? descriptor, system.openBehind? 1 with
  | some ⟨.file source, _, _, _, position⟩, some ⟨.file target, _, _, _, _⟩ =>
    match system.files.node? source with
    | some (.file content _) => return source = target && position < content.size
    | _ => return false
  | _, _ => return false

/-- Lines with numbers before them, from a number on, and the next number. -/
def numbered (skipsEmpty : Bool) : Nat → List Chars → List Chars
  | _, [] => []
  | n, line :: rest =>
    if skipsEmpty && line.isEmpty then line :: numbered skipsEmpty n rest
    else
      let digits := decimal n
      (List.replicate (6 - digits.length) ' ' ++ digits ++ '\t' :: line) ::
        numbered skipsEmpty (n + 1) rest

/-- Lines of which an empty one does not follow another one. -/
def squeezed : List Chars → List Chars
  | [] :: [] :: rest => squeezed ([] :: rest)
  | line :: rest => line :: squeezed rest
  | [] => []

def cat (words : List Chars) : Work Unit := do
  let (options, words) ← options ⟨"AbeEnstTuv".toList,
    [("number", 'n'), ("number-nonblank", 'b'), ("squeeze-blank", 's'), ("show-ends", 'E'),
      ("show-all", 'A')], 1, false⟩ words
  let marksEnds := has options 'E' || has options 'A' || has options 'e'
  let isPlain := !marksEnds && !("bns".toList.any (has options))
  if ((← Routine.system).current.file? 1).isNone then
    fail ("standard output: ".toList ++ failureText .badDescriptor) 1
  let mut texts : List Chars := []
  for path in (if words.isEmpty then [['-']] else words) do
    let opened ← if path = ['-'] then pure (.ok 0) else openAt path .toRead
    match opened with
    | .error failure => complain (plainFailure path failure) 1
    | .ok descriptor =>
      if ← isOwnOutput descriptor then
        complain (quotedIfNeeded path ++ ": input file is output file".toList) 1
      else if isPlain then
        match ← passOn descriptor maxPieces with
        | .ok () => pure ()
        | .error failure => complain (plainFailure path failure) 1
      else
        match ← Routine.readAll descriptor with
        | .ok text => texts := texts ++ [text.toChars]
        | .error failure => complain (plainFailure path failure) 1
      if descriptor ≠ 0 then Routine.changeSystem (·.close descriptor)
  let readsInput := words.isEmpty || words.contains ['-']
  if readsInput && ((← Routine.system).current.file? 0).isNone then
    complain ("closing standard input: ".toList ++ failureText .badDescriptor) 1
  if !isPlain then
    let text := texts.flatten
    let (lines, isEnded) := lines text
    let lines := if has options 's' then squeezed lines else lines
    let lines := if has options 'b' then numbered true 1 lines
      else if has options 'n' then numbered false 1 lines
      else lines
    let marked := lines.zipIdx.map fun (line, i) =>
      if marksEnds && (isEnded || i + 1 < lines.length) then line ++ ['$'] else line
    print (if isEnded then unlines marked else ['\n'].intercalate marked)

def tee (words : List Chars) : Work Unit := do
  let (options, words) ← options ⟨"aip".toList, [("append", 'a')], 1, false⟩ words
  let mode : System.OpenMode := if has options 'a' then .toAppend else .toOverwrite
  let mut targets : List Nat := []
  for path in words do
    match ← openAt path mode with
    | .ok descriptor => targets := targets ++ [descriptor]
    | .error failure => complain (plainFailure path failure) 1
  let rec passAll (targets : List Nat) : Nat → Work Unit
    | 0 => return
    | bound + 1 => do
      match ← Routine.read 0 pieceSize with
      | .error _ => return
      | .ok text =>
        if text.isEmpty then return
        for descriptor in 1 :: targets do
          let _ ← Routine.write descriptor text
        passAll targets bound
  passAll targets maxPieces

/-! ### Ends of files -/

/-- The words in which a number of lines after a dash is an option. -/
def spelledCount : List Chars → List Chars
  | ('-' :: c :: digits) :: rest =>
    if c.isDigit then "-n".toList :: (c :: digits) :: rest else ('-' :: c :: digits) :: rest
  | words => words

/-- Reads from a descriptor until there are so many lines or bytes, by at most so many pieces. -/
def readSome (descriptor count : Nat) (inBytes : Bool) : Nat → Chars → Work (Except Failure Chars)
  | 0, text => return .ok text
  | bound + 1, text => do
    let isEnough := if inBytes then count ≤ text.length else count ≤ text.count '\n'
    if isEnough then return .ok text
    match ← Routine.read descriptor 8192 with
    | .error failure => return .error failure
    | .ok more =>
      if more.isEmpty then return .ok text
      else readSome descriptor count inBytes bound (text ++ more.toChars)

/-- The first lines of a text, with their ends. -/
def firstLines (count : Nat) (text : Chars) : Chars :=
  let (lines, isEnded) := lines text
  if lines.length ≤ count && !isEnded then text else unlines (lines.take count)

/-- What stands before the text of a file where there are several. -/
def heading (isFirst : Bool) (path : Chars) : Chars :=
  let name := if path = ['-'] then "standard input".toList else path
  (if isFirst then [] else ['\n']) ++ "==> ".toList ++ name ++ " <==\n".toList

/-- Prints a part of each file under headings where they are needed. -/
def printParts (words : List Chars) (options : List (Char × Chars))
    (part : Nat → Work (Except Failure Chars)) : Work Unit := do
  let words := if words.isEmpty then [['-']] else words
  let withHeadings := (1 < words.length && !has options 'q') || has options 'v'
  let mut isFirst := true
  for path in words do
    let opened ← if path = ['-'] then pure (.ok 0) else openAt path .toRead
    match opened with
    | .error failure =>
      complain ("cannot open ".toList ++ quoted path ++ " for reading: ".toList ++
        failureText failure) 1
    | .ok descriptor =>
      if withHeadings then print (heading isFirst path)
      isFirst := false
      match ← part descriptor with
      | .ok text => print text
      | .error failure =>
        complain ("error reading ".toList ++ quoted path ++ ": ".toList ++ failureText failure) 1
      if descriptor ≠ 0 then Routine.changeSystem (·.close descriptor)

/-- The number of an option, or its default. -/
def countOf (options : List (Char × Chars)) (letter : Char) (what : String) (default : Nat) :
    Work Nat :=
  match valueOf? options letter with
  | none => return default
  | some text =>
    match number? text with
    | some n => return n
    | none => fail ("invalid number of ".toList ++ what.toList ++ ": ".toList ++ quoted text) 1

def head (words : List Chars) : Work Unit := do
  let (options, words) ← options ⟨"n:c:qvz".toList,
    [("lines", 'n'), ("bytes", 'c'), ("quiet", 'q'), ("verbose", 'v')], 1, false⟩
    (spelledCount words)
  let inBytes := has options 'c'
  let count ← if inBytes then countOf options 'c' "bytes" 10 else countOf options 'n' "lines" 10
  printParts words options fun descriptor => do
    return (← readSome descriptor count inBytes maxPieces []).map
      (if inBytes then (·.take count) else firstLines count)

def tail (words : List Chars) : Work Unit := do
  let (options, words) ← options ⟨"n:c:qvfz".toList,
    [("lines", 'n'), ("bytes", 'c'), ("quiet", 'q'), ("verbose", 'v')], 1, false⟩
    (spelledCount words)
  let inBytes := has options 'c'
  let given := (valueOf? options (if inBytes then 'c' else 'n')).getD "10".toList
  let fromStart := given.head? = some '+'
  let digits := if fromStart || given.head? = some '-' then given.tail else given
  let count ← match number? digits with
    | some n => pure n
    | none =>
      fail ("invalid number of ".toList ++ (if inBytes then "bytes" else "lines").toList ++
        ": ".toList ++ quoted given) 1
  let part (text : Chars) : Chars :=
    if inBytes then text.drop (if fromStart then count - 1 else text.length - count)
    else
      let (lines, isEnded) := lines text
      let lines := lines.drop (if fromStart then count - 1 else lines.length - count)
      if isEnded then unlines lines else ['\n'].intercalate lines
  printParts words options fun descriptor => do
    return (← Routine.readAll descriptor).map fun text => part text.toChars

/-! ### Counting and ordering -/

def isBlank (c : Char) : Bool := c = ' ' || ('\t' ≤ c && c ≤ '\x0d')

def wordCount (text : Chars) : Nat := ((text.splitBy fun a b => isBlank a == isBlank b).filter
  fun part => part.head?.any (!isBlank ·)).length

def wc (words : List Chars) : Work Unit := do
  let (options, words) ← options ⟨"lwcmL".toList,
    [("lines", 'l'), ("words", 'w'), ("bytes", 'c'), ("chars", 'm')], 1, false⟩ words
  let letters := "lwmc".toList.filter (has options)
  let letters := if letters.isEmpty then "lwc".toList else letters
  let counts (text : Chars) : List Nat := letters.map fun
    | 'l' => text.count '\n'
    | 'w' => wordCount text
    | _ => text.length
  let system ← Routine.system
  let sizes := (if words.isEmpty then [['-']] else words).map fun path =>
    if path = ['-'] then
      match (system.openBehind? 0).map OpenFile.medium with
      | some (.file place) => match system.files.node? place with
        | some (.file content _) => some content.size
        | _ => none
      | _ => none
    else match system.tree.find (.ofChars path) with
      | .ok (_, some (.file content _)) => some content.size
      | .ok (_, some _) => none
      | _ => some 0
  let width :=
    if letters.length = 1 && words.length ≤ 1 then 1
    else
      let digits := (decimal (sizes.foldl (fun n size => n + size.getD 0) 0)).length
      if sizes.any Option.isNone then max 7 digits else digits
  let line (counts : List Nat) (name : Chars) : Chars :=
    let fill (n : Nat) : Chars := List.replicate (width - (decimal n).length) ' ' ++ decimal n
    [' '].intercalate (counts.map fill) ++ (if name.isEmpty then [] else ' ' :: name) ++ ['\n']
  let mut totals := letters.map fun _ => 0
  for path in (if words.isEmpty then [['-']] else words) do
    match ← readPath path with
    | .error failure => complain (plainFailure path failure) 1
    | .ok text =>
      let counts := counts text
      totals := totals.zipWith (· + ·) counts
      print (line counts (if words.isEmpty then [] else path))
  if 1 < words.length then print (line totals "total".toList)

/-- Whether a text comes before another one or is the same, by the bytes. -/
def comesFirst : Chars → Chars → Bool
  | [], _ => true
  | _ :: _, [] => false
  | a :: as, b :: bs => a < b || (a = b && comesFirst as bs)

/-- The number at the front of a line, in thousandths of thousandths. -/
def leadingNumber (line : Chars) : Int :=
  let line := line.dropWhile isBlank
  let (negative, line) := match line with
    | '-' :: rest => (true, rest)
    | rest => (false, rest)
  let whole := line.takeWhile Char.isDigit
  let places := match line.drop whole.length with
    | '.' :: rest => (rest.takeWhile Char.isDigit).take 6
    | _ => []
  let digits := whole ++ places ++ List.replicate (6 - places.length) '0'
  let n : Int := digits.foldl (fun n c => n * 10 + (c.toNat - 48)) 0
  if negative then -n else n

/-- The part of a line that it is ordered by: from one of its fields on. -/
def sortKey (options : List (Char × Chars)) (line : Chars) : Chars :=
  match (valueOf? options 'k').bind fun text => number? (text.takeWhile Char.isDigit) with
  | none => line
  | some field =>
    match valueOf? options 't' with
    | some (c :: _) =>
      let parts := ((RawText.ofChars line).splitOn (UInt8.ofNat c.toNat)).map RawText.toChars
      [c].intercalate (parts.drop (field - 1))
    | _ =>
      (List.range (field - 1)).foldl
        (fun line _ => (line.dropWhile isBlank).dropWhile (!isBlank ·)) line

def sort (words : List Chars) : Work Unit := do
  let (options, words) ← options ⟨"nrufbsk:t:o:cdghiMRV".toList,
    [("numeric-sort", 'n'), ("reverse", 'r'), ("unique", 'u'), ("ignore-case", 'f'),
      ("key", 'k'), ("field-separator", 't'), ("output", 'o')], 2, false⟩ words
  let mut texts : List (List Chars) := []
  for path in (if words.isEmpty then [['-']] else words) do
    match ← readPath path with
    | .error failure => fail ("cannot read: ".toList ++ plainFailure path failure) 2
    | .ok text => texts := texts ++ [(lines text).1]
  let key (line : Chars) : Chars :=
    let key := sortKey options line
    let key := if has options 'b' then key.dropWhile isBlank else key
    if has options 'f' then key.map Char.toUpper else key
  let before (a b : Chars) : Bool :=
    if has options 'n' then leadingNumber (sortKey options a) ≤ leadingNumber (sortKey options b)
    else comesFirst (key a) (key b)
  let isBefore (a b : Chars) : Bool :=
    if before a b && before b a then
      if has options 'u' || has options 's' then true
      else if has options 'r' then comesFirst b a
      else comesFirst a b
    else if has options 'r' then before b a
    else before a b
  let sorted := texts.flatten.mergeSort isBefore
  let isSame (a b : Chars) : Bool := before a b && before b a
  let kept := if has options 'u' then
      sorted.foldr (fun line rest => line :: rest.dropWhile (isSame line)) []
    else sorted
  match valueOf? options 'o' with
  | none => print (unlines kept)
  | some path =>
    match ← openAt path .toOverwrite with
    | .ok descriptor =>
      let _ ← Routine.write descriptor (.ofChars (unlines kept))
    | .error failure => fail ("open failed: ".toList ++ plainFailure path failure) 2

def uniq (words : List Chars) : Work Unit := do
  let (options, words) ← options ⟨"cdui".toList,
    [("count", 'c'), ("repeated", 'd'), ("unique", 'u'), ("ignore-case", 'i')], 1, false⟩ words
  forFiles (words.take 1) 1 plainFailure fun _ text => do
    let same (a b : Chars) : Bool :=
      if has options 'i' then a.map Char.toLower == b.map Char.toLower else a == b
    for group in (lines text).1.splitBy same do
      let count := group.length
      let isShown := !(has options 'd' && count = 1) && !(has options 'u' && 1 < count)
      if isShown then
        let line := group.headD []
        let number := decimal count
        print (if has options 'c' then
            List.replicate (7 - number.length) ' ' ++ number ++ ' ' :: line ++ ['\n']
          else line ++ ['\n'])

/-! ### Parts of lines -/

/-- The characters of a set of characters as it is written. -/
def setOf : Nat → Chars → Chars
  | 0, _ => []
  | _, [] => []
  | bound + 1, '[' :: ':' :: rest =>
    let name := rest.takeWhile (· ≠ ':')
    let members := (List.range 256).filter fun n => inClass (String.ofList name) (Char.ofNat n)
    members.map Char.ofNat ++ setOf bound (rest.drop (name.length + 2))
  | bound + 1, '\\' :: c :: rest =>
    if '0' ≤ c && c ≤ '7' then
      let digits := ((c :: rest).take 3).takeWhile fun c => '0' ≤ c && c ≤ '7'
      let n := digits.foldl (fun n c => n * 8 + (c.toNat - 48)) 0
      Char.ofNat (n % 256) :: setOf bound ((c :: rest).drop digits.length)
    else
      let control : Char := match c with
        | 'a' => '\x07'
        | 'b' => '\x08'
        | 'f' => '\x0c'
        | 'n' => '\n'
        | 'r' => '\r'
        | 't' => '\t'
        | 'v' => '\x0b'
        | c => c
      control :: setOf bound rest
  | bound + 1, a :: '-' :: b :: rest =>
    if a ≤ b then
      ((List.range (b.toNat + 1 - a.toNat)).map fun n => Char.ofNat (a.toNat + n)) ++
        setOf bound rest
    else a :: setOf bound ('-' :: b :: rest)
  | bound + 1, c :: rest => c :: setOf bound rest

/-- A text in which no character of a set follows itself. -/
def withoutRuns (set : Chars) : Chars → Chars
  | a :: b :: rest =>
    if a = b && set.contains a then withoutRuns set (b :: rest)
    else a :: withoutRuns set (b :: rest)
  | text => text

def tr (words : List Chars) : Work Unit := do
  let (options, words) ← options ⟨"cCdst".toList,
    [("complement", 'c'), ("delete", 'd'), ("squeeze-repeats", 's'), ("truncate-set1", 't')], 1,
    true⟩ words
  match words with
  | [] => failUsage "missing operand".toList 1
  | first :: others =>
    let deletes := has options 'd'
    if others.isEmpty && !deletes && !has options 's' then
      warn ("missing operand after ".toList ++ quoted first)
      let name := (← get).name
      let _ ← Routine.write 2 (.ofChars
        ("Two strings must be given when translating.\nTry '".toList ++ name ++
          " --help' for more information.\n".toList))
      exit 1
    let listed := setOf first.length first
    let source := if has options 'c' || has options 'C' then
        ((List.range 256).map Char.ofNat).filter (!listed.contains ·)
      else listed
    let target := (others.head?.map fun set => setOf set.length set).getD []
    match ← readPath ['-'] with
    | .error _ => return
    | .ok text =>
      let changed := if deletes then text.filter (!source.contains ·)
        else if target.isEmpty then text
        else
          let last := target.getLast?.getD 'x'
          text.map fun c =>
            match source.findIdx? (· = c) with
            | some i => target.getD i last
            | none => c
      let squeezedSet := if target.isEmpty then source else target
      print (if has options 's' then withoutRuns squeezedSet changed else changed)

/-- Whether a place is in a list of ranges. -/
def inRanges (ranges : List (Nat × Option Nat)) (n : Nat) : Bool :=
  ranges.any fun (first, last) => first ≤ n && last.all (n ≤ ·)

def rangesOf (text : Chars) : List (Nat × Option Nat) :=
  ((RawText.ofChars text).splitOn 0x2C).map fun part =>
    let first := part.toChars.takeWhile (· ≠ '-')
    match part.toChars.drop first.length with
    | [] => ((number? first).getD 0, some ((number? first).getD 0))
    | _ :: last => ((number? first).getD 1, number? last)

def cut (words : List Chars) : Work Unit := do
  let (options, words) ← options ⟨"b:c:d:f:sn".toList,
    [("bytes", 'b'), ("characters", 'c'), ("delimiter", 'd'), ("fields", 'f'),
      ("only-delimited", 's')], 1, false⟩ words
  let chosen := (valueOf? options 'f').isSome
  match (valueOf? options 'f').or ((valueOf? options 'c').or (valueOf? options 'b')) with
  | none => failUsage "you must specify a list of bytes, characters, or fields".toList 1
  | some list =>
    let ranges := rangesOf list
    let delimiter := ((valueOf? options 'd').bind List.head?).getD '\t'
    let part (line : Chars) : Option Chars :=
      let chosenOf {α : Type} (parts : List α) : List α :=
        (parts.zipIdx.filter fun (_, i) => inRanges ranges (i + 1)).map Prod.fst
      if !chosen then some (chosenOf line)
      else if !line.contains delimiter then if has options 's' then none else some line
      else
        let byte := UInt8.ofNat delimiter.toNat
        let parts := ((RawText.ofChars line).splitOn byte).map RawText.toChars
        some ([delimiter].intercalate (chosenOf parts))
    forFiles words 1 plainFailure fun _ text => do
      print (unlines ((lines text).1.filterMap part))

/-! ### Searching -/

/-- What stands before a line that was found. -/
def lineFront (options : List (Char × Chars)) (withNames : Bool) (path : Chars) (number : Nat) :
    Chars :=
  let name := if path = ['-'] then "(standard input)".toList else path
  (if withNames then name ++ [':'] else []) ++
    (if has options 'n' then decimal number ++ [':'] else [])

/-- The parts of a text that patterns match, from left to right. -/
def matchedParts (patterns : List LinePattern) : Nat → Chars → List Chars
  | 0, _ => []
  | bound + 1, text =>
    let found := patterns.filterMap (·.find? text)
    match (found.map Prod.fst).min? with
    | none => []
    | some start =>
      let length := ((found.filter (·.1 = start)).map Prod.snd).max?.getD 0
      if length = 0 then matchedParts patterns bound (text.drop (start + 1))
      else (text.drop start).take length ::
        matchedParts patterns bound (text.drop (start + length))

def grep (words : List Chars) : Work Unit := do
  let (options, words) ← options ⟨"qvcinFEGxslehHowe:f:rm:".toList,
    [("quiet", 'q'), ("silent", 'q'), ("invert-match", 'v'), ("count", 'c'),
      ("ignore-case", 'i'), ("line-number", 'n'), ("fixed-strings", 'F'),
      ("extended-regexp", 'E'), ("line-regexp", 'x'), ("no-messages", 's'),
      ("files-with-matches", 'l'), ("only-matching", 'o'), ("regexp", 'e')], 2, false⟩ words
  let given := (options.filter (·.1 = 'e')).map Prod.snd
  let (pattern?, words) := if given.isEmpty then (words.head?, words.tail)
    else (some (['\n'].intercalate given), words)
  match pattern? with
  | none =>
    let name := (← get).name
    let _ ← Routine.write 2 (.ofChars ("Usage: ".toList ++ name ++
      " [OPTION]... PATTERNS [FILE]...\nTry '".toList ++ name ++
      " --help' for more information.\n".toList))
    exit 2
  | some pattern =>
    let dialect : Dialect := if has options 'F' then .fixed
      else if has options 'E' then .extended else .basic
    let fold (text : Chars) : Chars := if has options 'i' then text.map Char.toLower else text
    let patterns := (patternsOf dialect (fold pattern)).map fun pattern =>
      if has options 'x' then { pattern with atStart := true, atEnd := true } else pattern
    let isFound (line : Chars) : Bool :=
      patterns.any (fun pattern => (pattern.find? (fold line)).isSome) != has options 'v'
    let withNames := (1 < words.length && !has options 'h') || has options 'H'
    setStatus 1
    let mut hasFailed := false
    for path in (if words.isEmpty then [['-']] else words) do
      match ← readPath path with
      | .error failure =>
        hasFailed := true
        if !has options 's' then
          warn (path ++ ": ".toList ++ failureText failure)
      | .ok text =>
        let found := ((lines text).1.zipIdx 1).filter fun (line, _) => isFound line
        if !found.isEmpty then
          if has options 'q' then exit 0
          setStatus 0
        if has options 'q' then pure ()
        else if has options 'c' then
          print (lineFront [] withNames path 0 ++ decimal found.length ++ ['\n'])
        else if has options 'l' then
          if !found.isEmpty then
            print ((if path = ['-'] then "(standard input)".toList else path) ++ ['\n'])
        else
          for (line, number) in found do
            let front := lineFront options withNames path number
            if has options 'o' then
              for part in matchedParts patterns (line.length + 1) (fold line) do
                print (front ++ part ++ ['\n'])
            else print (front ++ line ++ ['\n'])
    if hasFailed then setStatus 2

end SiteBoot.Tool
