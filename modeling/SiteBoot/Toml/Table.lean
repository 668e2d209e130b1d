import SiteBoot.Toml.Scalar
/-!
Values and tables of TOML. While a document is being read, each of its tables remembers how it
came to be, since that decides what may still be added to it.
-/

namespace SiteBoot.Toml

/-- A value. -/
inductive Value where
  | string (text : String)
  | scalar (scalar : Scalar)
  | array (items : List Value)
  | table (fields : List (String × Value))

/-- How a table came to be. -/
inductive Origin where
  /-- Named on the way to another by a header. -/
  | implied
  /-- Named on the way to a value by a dotted key. -/
  | dotted
  /-- Named by a header of its own. -/
  | explicit
  deriving DecidableEq, Repr

/-- What stands under a key in a document that is being read. -/
inductive Entry where
  | value (value : Value)
  | table (origin : Origin) (fields : List (String × Entry))
  /-- Tables that headers add one by one; the last is the one that is named. -/
  | tables (items : List (List (String × Entry)))

/-- The entries under the keys of a table, in the order in which they came. -/
abbrev Fields := List (String × Entry)

/-- The fields with a key changed to hold an entry, which is new if the key is. -/
def Fields.put (fields : Fields) (key : String) (entry : Entry) : Fields :=
  match fields with
  | [] => [(key, entry)]
  | (k, e) :: rest => if k = key then (key, entry) :: rest else (k, e) :: put rest key entry

/-- Changes the table at the end of a path, from a table of the given origin on. What is missing
on the way is made. A dotted key may not lead through a table that a header has named. -/
def Fields.update (isDotted : Bool) (change : Origin → Fields → Option Fields) (origin : Origin)
    (fields : Fields) : List String → Option Fields
  | [] => change origin fields
  | key :: path =>
    match fields.lookup key with
    | none => do
      let origin := if isDotted then .dotted else .implied
      let inner ← update isDotted change origin [] path
      return fields.put key (.table origin inner)
    | some (.value _) => none
    | some (.table origin inner) => do
      if isDotted && origin = .explicit then none
      let inner ← update isDotted change origin inner path
      return fields.put key (.table origin inner)
    | some (.tables items) => do
      let last ← update isDotted change .explicit (← items.getLast?) path
      return fields.put key (.tables (items.dropLast ++ [last]))

/-- Adds a value under a key at the end of a dotted path. The path may only lead to tables that
dotted keys have made, and the key must be new. -/
def Fields.add (fields : Fields) (path : List String) (key : String) (value : Value) :
    Option Fields :=
  Fields.update true
    (fun origin inner =>
      if !path.isEmpty && origin ≠ .dotted then none
      else match inner.lookup key with
        | some _ => none
        | none => some (inner ++ [(key, .value value)]))
    .explicit fields path

/-- Opens the table that a header names. It may be there only as one on the way to others. -/
def Fields.openTable (fields : Fields) (path : List String) (key : String) : Option Fields :=
  Fields.update false
    (fun _ inner =>
      match inner.lookup key with
      | none => some (inner ++ [(key, .table .explicit [])])
      | some (.table .implied fields) => some (inner.put key (.table .explicit fields))
      | _ => none)
    .explicit fields path

/-- Adds a table to those that a header names. -/
def Fields.openNext (fields : Fields) (path : List String) (key : String) : Option Fields :=
  Fields.update false
    (fun _ inner =>
      match inner.lookup key with
      | none => some (inner ++ [(key, .tables [[]])])
      | some (.tables items) => some (inner.put key (.tables (items ++ [[]])))
      | _ => none)
    .explicit fields path

mutual

def Entry.toValue : Entry → Value
  | .value value => value
  | .table _ fields => .table (fieldValues fields)
  | .tables items => .array (tableValues items)

def fieldValues : List (String × Entry) → List (String × Value)
  | [] => []
  | (key, entry) :: rest => (key, entry.toValue) :: fieldValues rest

def tableValues : List (List (String × Entry)) → List Value
  | [] => []
  | fields :: rest => .table (fieldValues fields) :: tableValues rest

end

end SiteBoot.Toml
