import SiteBoot.System.State
/-!
What a process does, up to where it has to wait for something. A routine is run with a state of its
own and the system, and goes on by what it is told to do next; so a process that waits is nothing
but a function of the system that it will find. Main definitions: `Pause` is what a process comes
to, and `Routine` is a computation of a process.
-/

namespace SiteBoot

/-- A program with its words, of which the first is the name that it was called by. -/
structure Image where
  utility : Utility
  words : List RawText

/-- What a process waits for. -/
inductive Wakeup where
  | turn
  /-- Something to read in a pipe, or its end. -/
  | readable (pipe : Nat)
  /-- Room in a pipe, or that nobody reads from it any more. -/
  | writable (pipe : Nat)
  | ended (number : Nat)
  /-- The end of another process or a signal that is caught. -/
  | endedOrSignal (number : Nat)
  | time (clock : Nat)

/-- What a process comes to when it does not go on by itself. -/
inductive Pause where
  | ended (system : System)
  | waiting (system : System) (wakeup : Wakeup) (resume : System → Pause)
  /-- There is another process now, which has something to do of its own. -/
  | forked (system : System) (number : Nat) (child : System → Pause) (resume : System → Pause)
  /-- Another program takes the place of the process's own. -/
  | replaced (system : System) (image : Image) (env : List (RawText × RawText))

/-- A computation of a process with a state and with reasons for not going on. -/
def Routine (σ ε α : Type) : Type :=
  σ → System → (Except ε α → σ → System → Pause) → Pause

namespace Routine

variable {σ ε α : Type}

@[always_inline] instance : Monad (Routine σ ε) where
  pure value := fun state system go => go (.ok value) state system
  bind first next := fun state system go =>
    first state system fun result state system =>
      match result with
      | .ok value => next value state system go
      | .error error => go (.error error) state system

@[always_inline] instance : MonadStateOf σ (Routine σ ε) where
  get := fun state system go => go (.ok state) state system
  set state := fun _ system go => go (.ok ()) state system
  modifyGet change := fun state system go =>
    let (value, state) := change state
    go (.ok value) state system

@[always_inline] instance : MonadExceptOf ε (Routine σ ε) where
  throw error := fun state system go => go (.error error) state system
  tryCatch body handle := fun state system go =>
    body state system fun result state system =>
      match result with
      | .ok value => go (.ok value) state system
      | .error error => handle error state system go

/-- Runs a computation to its end or to its reason for not going on. -/
def attempt (body : Routine σ ε α) : Routine σ ε (Except ε α) := fun state system go =>
  body state system fun result state system => go (.ok result) state system

def system : Routine σ ε System := fun state system go => go (.ok system) state system

def changeSystem (change : System → System) : Routine σ ε Unit := fun state system go =>
  go (.ok ()) state (change system)

/-- Changes the system and says what came of it. -/
def withSystem (change : System → α × System) : Routine σ ε α := fun state system go =>
  let (value, system) := change system
  go (.ok value) state system

def await (wakeup : Wakeup) : Routine σ ε Unit := fun state system go =>
  .waiting system wakeup fun system => go (.ok ()) state system

def finish (status : ChildStatus) : Routine σ ε α := fun _ system _ =>
  .ended (system.endCurrent status)

/-- Puts another program in the place of the process's. -/
def replace (image : Image) (env : List (RawText × RawText)) : Routine σ ε α := fun _ system _ =>
  .replaced (system.changeCurrent Process.replaced) image env

/-- Starts another process that does something with the same state, and gives its number. If the
process gets beyond that, it ends with the code that is made of it. -/
def fork (child : Routine σ ε α) (code : Except ε α → UInt8) : Routine σ ε Nat :=
  fun state system go =>
    let (number, system) := system.fork
    .forked system number
      (fun system => child state system fun result _ system =>
        .ended (system.endCurrent (.exited (code result))))
      (fun system => go (.ok number) state system)

/-- What a process does that a routine is all of. -/
def start (body : Routine σ ε α) (state : σ) (code : Except ε α → UInt8) (system : System) :
    Pause :=
  body state system fun result _ system => .ended (system.endCurrent (.exited (code result)))

end Routine

end SiteBoot
