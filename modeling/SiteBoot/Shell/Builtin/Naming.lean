import SiteBoot.Shell.Builtin.Basic
/-!
The builtins that say what names of commands stand for.
-/

namespace SiteBoot.Shell

/-- Says what a name stands for, in a sentence or as it can be run, and whether it does. -/
def describe (inSentence : Bool) (path? : Option Chars) (name : Chars) : Run Nat := do
  let state ← get
  let say (sentence plain : Chars) : Run Nat := do
    print (if inSentence then name ++ ' ' :: sentence ++ ['\n'] else plain ++ ['\n'])
    return 0
  let missing : Run Nat := do
    if inSentence then print (name ++ ": not found\n".toList)
    return 127
  if (Keyword.ofName? name).isSome then say "is a shell keyword".toList name
  else match state.aliases.lookup name with
    | some value =>
      if inSentence then say ("is an alias for ".toList ++ value) []
      else
        print ("alias ".toList ++ aliasText name value)
        return 0
    | none =>
      let isKnown := path?.isNone && (state.hashed.lookup name).isSome
      let files := (← Routine.system).tree
      match ← meaningOf true path? name with
      | .function _ => say "is a shell function".toList name
      | .builtin =>
        let kind := if isSpecialBuiltin name then "special " else ""
        say ("is a ".toList ++ kind.toList ++ "shell builtin".toList) name
      | .program path =>
        if name.contains '/' && !files.has (.ofChars name) then missing
        else say ((if isKnown then "is a tracked alias for " else "is ").toList ++ path) path
      | .missing _ => missing

def typeBuiltin (words : List Chars) : Run Nat := do
  let codes ← words.mapM (describe true none)
  return codes.foldl (· ||| ·) 0

def commandBuiltin (words : List Chars) : Run Nat := do
  let (options, words) ← readOptions "pvV" words
  let has (letter : Char) : Bool := options.any (·.1 = letter)
  match words with
  | name :: _ =>
    if has 'v' || has 'V' then
      describe (has 'V') (if has 'p' then some standardPath else none) name
    else return 0
  | [] => return 0

def hashBuiltin (words : List Chars) : Run Nat := do
  let (options, names) ← readOptions "r" words
  if !options.isEmpty then
    modify fun state => { state with hashed := [] }
    return 0
  if names.isEmpty then
    for (_, path) in inPlaces commandPlaces (← get).hashed do print (path ++ ['\n'])
    return 0
  let mut status := 0
  for name in names do
    modify fun state => { state with hashed := state.hashed.filter (·.1 ≠ name) }
    match ← meaningOf true none name with
    | .missing failure =>
      warn (name ++ ": ".toList ++ programFailure failure)
      status := 1
    | _ => pure ()
  return status

end SiteBoot.Shell
