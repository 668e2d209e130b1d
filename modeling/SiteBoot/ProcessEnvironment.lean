import SiteBoot.Environment
import SiteBoot.Text.RawText
/-!
The environment that the operating system gives to a process: raw names with raw values. The
program takes one snapshot of it as text, and reads single variables from it.
-/

namespace SiteBoot

/-- The variables of a process, each an entry `name=value`. -/
structure ProcessEnvironment where
  entries : List (RawText × RawText)

namespace ProcessEnvironment

/-- The value of a variable: what follows `name=` in the first entry that begins so. A name with
an equals sign in it is therefore looked for in the values, too. -/
def get? (process : ProcessEnvironment) (name : RawText) : Option RawText :=
  if name.isEmpty then none
  else process.entries.findSome? fun (n, v) =>
    (n ++ RawText.ofString "=" ++ v).dropStart? (name ++ RawText.ofString "=")

/-- The value of a variable as text, if it is text. -/
def text? (process : ProcessEnvironment) (name : String) : Option String :=
  (process.get? name).bind RawText.text?

/-- The process with one variable set, or unset. -/
def assign (process : ProcessEnvironment) (name : RawText) (value : Option RawText) :
    ProcessEnvironment :=
  let others := process.entries.filter (·.1 ≠ name)
  ⟨match value with
    | some v => others ++ [(name, v)]
    | none => others⟩

/-- The variables whose name and value are text. -/
def snapshot (process : ProcessEnvironment) : Environment :=
  .ofList <| process.entries.filterMap fun (n, v) => do return (← n.text?, ← v.text?)

end ProcessEnvironment

end SiteBoot
