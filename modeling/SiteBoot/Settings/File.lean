import SiteBoot.Settings.Layer
import SiteBoot.Settings.Validation
import SiteBoot.Toml.Document
/-!
The settings file: a document with three tables. A table may also be written as an array of its
fields in their order. What the document holds beside them is passed over.
-/

namespace SiteBoot

namespace SettingsFile

open Toml (Value)

/-- Where the fields of a group of settings are found: by name or by place. -/
inductive Group where
  | named (fields : List (String × Value))
  | placed (items : List Value)

namespace Group

/-- The group that a value is. A moment counts as a table without any of the fields. -/
def ofValue? : Value → Option Group
  | .table fields => some (.named fields)
  | .array items => some (.placed items)
  | .scalar (.moment _) => some (.named [])
  | _ => none

/-- The group of a name in a document; one that is missing has no fields. -/
def find? (document : List (String × Value)) (name : String) : Option Group :=
  match document.lookup name with
  | some value => ofValue? value
  | none => some (.named [])

def get? (group : Group) (name : String) (place : Nat) : Option Value :=
  match group with
  | named fields => fields.lookup name
  | placed items => items[place]?

/-- A setting that may be missing, but not wrong. -/
def read? {α : Type} (group : Group) (name : String) (place : Nat) (read : Value → Option α) :
    Option (Option α) :=
  match group.get? name place with
  | some value => (read value).map some
  | none => some none

end Group

def text? : Value → Option String
  | .string text => some text
  | _ => none

def path? (value : Value) : Option RawText := (text? value).map RawText.ofString

def texts? : Value → Option (List String)
  | .array items => items.mapM text?
  | _ => none

/-- The layout of the log, as its name or as a table with that name and nothing in it: an empty
table or array. -/
def format? : Value → Option LogFormat
  | .string name => LogFormat.ofName? name
  | .table [(name, .table [])] | .table [(name, .array [])] => LogFormat.ofName? name
  | _ => none

/-- The settings that a document gives, if it gives none of a wrong kind. -/
def layer? (document : List (String × Value)) : Option SettingsLayer := do
  let tasks ← Group.find? document "invoke"
  let paths ← Group.find? document "paths"
  let log ← Group.find? document "logging"
  return {
    program := ← tasks.read? "program" 0 path?
    args := ← tasks.read? "args" 1 texts?
    workdir := ← tasks.read? "workdir" 2 path?
    logFile := ← tasks.read? "log_file" 3 path?
    lockFile := ← paths.read? "lock_file" 0 path?
    profile := ← paths.read? "profile" 1 path?
    overrideFile := ← paths.read? "override_env" 2 path?
    level := ← log.read? "level" 0 text?
    format := ← log.read? "format" 1 format? }

end SettingsFile

/-- The settings that the file at a path gives. -/
def SettingsLayer.ofFile (files : FileTree) (path : RawText) :
    Except SettingsError SettingsLayer :=
  match files.readText path with
  | .error failure => .error (.unreadable path failure)
  | .ok text =>
    match (Toml.document? text).bind SettingsFile.layer? with
    | some layer => .ok layer
    | none => .error .notUnderstood

/-- The settings of a file, with the defaults for those that it does not give. -/
def Settings.ofFile (process : ProcessEnvironment) (files : FileTree) (path : RawText) :
    Except SettingsError Settings := do
  return (← SettingsLayer.ofFile files path).onto (Settings.defaults process)

/-- The settings of a file, if nothing is wrong with them. -/
def Settings.ofFileValidated (process : ProcessEnvironment) (files : FileTree) (path : RawText) :
    Except SettingsError Settings := do
  (← Settings.ofFile process files path).validate

end SiteBoot
