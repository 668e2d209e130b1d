import SiteBoot.System.Routine
/-!
Taking turns. The process whose turn it is goes on until it waits for something, and a process that
only asks for its next turn goes on for a while before others get theirs. When every process waits
for a time, the clock goes to the first of these times. A schedule ends when the process that it is
for has ended and nobody else can go on at once.
-/

namespace SiteBoot

/-- A process that waits, with what it does then. -/
structure Waiting where
  number : Nat
  wakeup : Wakeup
  resume : System → Pause

/-- Processes that wait for their turns, with the system between two turns. -/
structure Schedule where
  system : System
  waiting : List Waiting
  /-- How many turns the process has had by now that comes first. -/
  turns : Nat

namespace Schedule

def turnTime : Nat := 1000

/-- After how many turns in a row others go first. -/
def maxTurns : Nat := 1000

/-- Whether what a process waits for has come. -/
def isReady (system : System) (waiting : Waiting) : Bool :=
  match waiting.wakeup with
  | .turn => true
  | .readable pipe => !(system.pipeContent pipe).isEmpty || !system.hasOpen (·.isEnd pipe false)
  | .writable pipe =>
    (system.pipeContent pipe).size < System.pipeCapacity || !system.hasOpen (·.isEnd pipe true)
  | .ended number => system.hasEnded number
  | .endedOrSignal number =>
    system.hasEnded number || (system.process? waiting.number).any (!·.pending.isEmpty)
  | .time clock => clock ≤ system.clock

/-- The process that goes on next, and the others. -/
def next? (system : System) : List Waiting → Option (Waiting × List Waiting)
  | [] => none
  | waiting :: rest =>
    if isReady system waiting then some (waiting, rest)
    else (next? system rest).map fun (found, others) => (found, waiting :: others)

/-- The first time that a process waits for. -/
def nextTime? (waiting : List Waiting) : Option Nat :=
  (waiting.filterMap fun
    | ⟨_, .time clock, _⟩ => some clock
    | _ => none).min?

/-- A schedule after a process has come to a pause. -/
def settle (start : Image → List (RawText × RawText) → System → Pause) (number turns : Nat)
    (others : List Waiting) : Pause → Schedule
  | .ended system => ⟨system, others, 0⟩
  | .waiting system .turn resume =>
    if turns < maxTurns then ⟨system, ⟨number, .turn, resume⟩ :: others, turns + 1⟩
    else ⟨system, others ++ [⟨number, .turn, resume⟩], 0⟩
  | .waiting system wakeup resume => ⟨system, others ++ [⟨number, wakeup, resume⟩], 0⟩
  | .forked system child run resume =>
    ⟨system, ⟨number, .turn, resume⟩ :: others ++ [⟨child, .turn, run⟩], turns⟩
  | .replaced system image env =>
    ⟨system, ⟨number, .turn, start image env⟩ :: others, turns⟩

/-- The schedule without the processes that have ended. -/
def withoutEnded (schedule : Schedule) : Schedule :=
  { schedule with waiting := schedule.waiting.filter (!schedule.system.hasEnded ·.number) }

/-- Goes on with a schedule for one process by one turn, or says that it has ended. -/
def step? (start : Image → List (RawText × RawText) → System → Pause) (main : Nat)
    (schedule : Schedule) : Option Schedule :=
  let schedule := schedule.withoutEnded
  let system := schedule.system
  match next? system schedule.waiting with
  | some (waiting, others) =>
    let system := { system with running := waiting.number, clock := system.clock + turnTime }
    some (settle start waiting.number schedule.turns others (waiting.resume system))
  | none =>
    if system.hasEnded main then none
    else (nextTime? schedule.waiting).map fun clock =>
      { schedule with system := { system with clock := clock } }

/-- Goes on with a schedule to its end, by at most so many turns. -/
def run (start : Image → List (RawText × RawText) → System → Pause) (main : Nat) :
    Nat → Schedule → Schedule
  | 0, schedule => schedule
  | bound + 1, schedule =>
    match step? start main schedule with
    | some schedule => run start main bound schedule
    | none => schedule

end Schedule

end SiteBoot
