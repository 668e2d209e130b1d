import SiteBoot.Shell.Process
/-!
Redirections: what stands behind descriptors is changed for a command, and changed back after it.
-/

namespace SiteBoot.Shell

/-- A redirection of which all words have been expanded. -/
inductive PreparedRedirection where
  | file (descriptor : Nat) (use : FileUse) (path : Chars)
  | copy (descriptor : Nat) (source : Option Nat)
  | document (descriptor : Nat) (number : Nat)

def PreparedRedirection.descriptor : PreparedRedirection → Nat
  | file descriptor _ _ | copy descriptor _ | document descriptor _ => descriptor

/-- What stood behind a descriptor: nothing, or what a descriptor of the shell now stands for. -/
structure Saved where
  descriptor : Nat
  own : Option Nat

variable (run : Runner)

def prepare : Redirection → Run PreparedRedirection
  | .file descriptor use word => do
    return .file descriptor use (← expandText (outputOf run) word)
  | .copy descriptor source => return .copy descriptor source
  | .document descriptor number => return .document descriptor number
  | .copyNamed descriptor word => do
    match ← expandText (outputOf run) word with
    | ['-'] => return .copy descriptor none
    | [d] =>
      if d.isDigit then return .copy descriptor (some (d.toNat - 48))
      else failAt (← get).inputLine "Syntax error: Bad fd number".toList
    | _ => failAt (← get).inputLine "Syntax error: Bad fd number".toList

def openFor (use : FileUse) (path : Chars) : Run Nat := do
  let system ← Routine.system
  let raw := RawText.ofChars path
  let mode : System.OpenMode := match use with
    | .read => .toRead
    | .write | .overwrite => .toOverwrite
    | .append => .toAppend
    | .update => .toUpdate
  let state ← get
  let isKept := match use, system.tree.find raw with
    | .write, .ok (_, some (.file ..)) => state.hasOption 'C'
    | _, _ => false
  let result := if isKept then .error (.system 17) else system.openPath raw mode
  match result with
  | .ok (file, system) =>
    Routine.changeSystem fun _ => system
    return file
  | .error failure =>
    if mode.creates then
      fail ("cannot create ".toList ++ path ++ ": ".toList ++
        failureText "Directory nonexistent" failure)
    else
      fail ("cannot open ".toList ++ path ++ ": ".toList ++ failureText "No such file" failure)

/-- Puts aside what stands behind a descriptor, unless that has been done. -/
def save (descriptor : Nat) (saved : List Saved) : Run (List Saved) := do
  if saved.any (·.descriptor = descriptor) then return saved
  match (← Routine.system).current.file? descriptor with
  | none => return ⟨descriptor, none⟩ :: saved
  | some file => return ⟨descriptor, some (← attachOwn file)⟩ :: saved

def redirect (redirection : PreparedRedirection) : Run Unit := do
  let attach (descriptor file : Nat) : Run Unit :=
    Routine.changeSystem fun system => (system.attach descriptor file false).collect
  match redirection with
  | .file descriptor use path => attach descriptor (← openFor use path)
  | .copy descriptor none => close descriptor
  | .copy descriptor (some source) =>
    if source ≠ descriptor then
      match (← Routine.system).current.file? source with
      | none => fail (decimal source ++ ": Bad file descriptor".toList)
      | some file => attach descriptor file
  | .document descriptor number =>
    let document := ((← get).documents.lookup number).getD ⟨[]⟩
    let text ← expandQuoted (outputOf run) document.pieces
    attach descriptor (← Routine.withSystem (·.openText (.ofChars text)))

/-- Changes what stands behind descriptors, one after the other, as far as that is possible. -/
def redirectAll : List PreparedRedirection → List Saved → Run (List Saved × Option Interrupt)
  | [], saved => return (saved, none)
  | redirection :: rest, saved => do
    let saved ← save redirection.descriptor saved
    match ← Routine.attempt (redirect run redirection) with
    | .ok () => redirectAll rest saved
    | .error interrupt => return (saved, some interrupt)

def restoreAll (saved : List Saved) : Run Unit := do
  for one in saved do
    match one.own with
    | none => close one.descriptor
    | some own =>
      Routine.changeSystem fun system =>
        match system.current.file? own with
        | some file => (system.attach one.descriptor file false).close own
        | none => system

def dropAll (saved : List Saved) : Run Unit := do
  for one in saved do
    for own in one.own do close own

/-- The descriptor for what stood behind another one before redirections. -/
def descriptorBefore (saved : List Saved) (descriptor : Nat) : Nat :=
  ((saved.find? (·.descriptor = descriptor)).bind Saved.own).getD descriptor

/-- Runs a command with redirections, which stay if the command gets to its end and `keeps` says
so. The command is told where errors went before. If a redirection is not possible, `ifFailed` is
run and not the command. -/
def withRedirections {α : Type} (redirections : List Redirection) (keeps : Bool)
    (ifFailed : Run α) (body : Nat → Run α) : Run α := do
  if redirections.isEmpty then body 2
  else
    let prepared ← redirections.mapM (prepare run)
    let (saved, interrupt) ← redirectAll run prepared []
    let result ← match interrupt with
      | none => Routine.attempt (body (descriptorBefore saved 2))
      | some .error => Routine.attempt ifFailed
      | some interrupt => pure (.error interrupt)
    match result with
    | .ok value =>
      if keeps && interrupt.isNone then dropAll saved else restoreAll saved
      return value
    | .error interrupt =>
      restoreAll saved
      throw interrupt

def redirectForGood (redirections : List Redirection) : Run Unit := do
  let prepared ← redirections.mapM (prepare run)
  for redirection in prepared do redirect run redirection

end SiteBoot.Shell
