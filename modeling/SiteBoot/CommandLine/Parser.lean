import SiteBoot.CommandLine.Option
/-!
Reading a command line: options first, then the words of the command, which begin at the first
word that is no option and no value of one. Two hyphens alone end the options and are no word.
The value of an option is looked at when the next option or word comes, so that what is wrong
with the command line as a whole counts before it.
-/

namespace SiteBoot.CommandLine

/-- How far the options have been read. -/
structure Reading where
  options : Options
  /-- The option that has come last, with its value if that has come too. -/
  pending : Option (OptionName × Option RawText)

namespace Reading

/-- The options with a value for one that may be given once. -/
def give (options : Options) (name : OptionName) (value : RawText) :
    Except UsageError Options :=
  if options.has name then .error .repeated else options.set name value

/-- The options with the pending one among them. -/
def settle (reading : Reading) : Except UsageError Options :=
  match reading.pending with
  | none => .ok reading.options
  | some (_, none) => .error .invalidValue
  | some (name, some value) => give reading.options name value

def awaiting? (reading : Reading) : Option OptionName :=
  match reading.pending with
  | some (name, none) => some name
  | _ => none

end Reading

/-- What an argument is, where it is not the value of an option that takes anything. -/
inductive Argument where
  | separator
  /-- A known option, with the value that is attached to it. -/
  | option (name : OptionName) (value : Option RawText)
  /-- A question for the help text or the version; two values mean that one is attached. -/
  | question (error : UsageError)
  | questionWithValue
  /-- Two hyphens and what is not text. -/
  | unreadable
  /-- Anything else, also options that are not known. -/
  | word
  deriving DecidableEq

namespace Argument

/-- An argument of two hyphens, a name and perhaps an equals sign and a value. -/
def ofLong (name : RawText) (value : Option RawText) : Argument :=
  match name.text? with
  | none => unreadable
  | some text =>
    match OptionName.ofText? text with
    | some name => option name value
    | none =>
      if text = "help" || text = "version" then
        if value.isSome then questionWithValue
        else question (if text = "help" then .help else .version)
      else word

/-- An argument of a hyphen and letters, which are known only if all of them are. After the
letter of an option the others are its value. -/
def ofShort (letters : List Char) : Argument :=
  if !letters.all fun c => c = 'c' || c = 'h' || c = 'V' then word
  else match letters with
    | [] => word
    | 'h' :: _ => question .help
    | 'V' :: _ => question .version
    | _ :: rest => option .config (if rest.isEmpty then none else some (String.ofList rest))

def ofRaw (arg : RawText) : Argument :=
  match arg.bytes with
  | [0x2D, 0x2D] => separator
  | 0x2D :: 0x2D :: rest =>
    match RawText.cut? ⟨rest⟩ 0x3D with
    | some (name, value) => ofLong name (some value)
    | none => ofLong ⟨rest⟩ none
  | 0x2D :: rest =>
    match (RawText.mk rest).text? with
    | some text => ofShort text.toList
    | none => word
  | _ => word

end Argument

/-- The options with the words of the command, which must be text. -/
def withCommand (options : Options) (words : List RawText) : Except UsageError Options := do
  return { options with command := ← words.mapM Options.readText }

/-- The reading of the arguments that are left. -/
def readArguments (reading : Reading) : List RawText → Except UsageError Options
  | [] => reading.settle
  | arg :: rest =>
    if reading.awaiting? = some .arg then
      readArguments ⟨reading.options, some (.arg, some arg)⟩ rest
    else match Argument.ofRaw arg with
      | .separator => do withCommand (← reading.settle) rest
      | .option name none => do readArguments ⟨← reading.settle, some (name, none)⟩ rest
      | .option name (some value) => do
        readArguments ⟨← Reading.give (← reading.settle) name value, none⟩ rest
      | .question error => do
        let _ ← reading.settle
        .error error
      | .questionWithValue => .error .unneededValue
      | .unreadable => .error .unknownOption
      | .word =>
        match reading.awaiting? with
        | some name => readArguments ⟨reading.options, some (name, some arg)⟩ rest
        | none => do withCommand (← reading.settle) (arg :: rest)

/-- The options with the variables of the process for those that are not given. -/
def withVariables (process : ProcessEnvironment) :
    List OptionName → Options → Except UsageError Options
  | [], options => .ok options
  | name :: rest, options =>
    match name.standIn?.bind (process.get? ·) with
    | some value =>
      if options.has name then withVariables process rest options
      else do withVariables process rest (← options.set name value)
    | none => withVariables process rest options

def Options.parse (process : ProcessEnvironment) (args : List RawText) :
    Except UsageError Options := do
  withVariables process OptionName.all (← readArguments ⟨.nothing, none⟩ args)

end SiteBoot.CommandLine
