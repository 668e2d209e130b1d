import SiteBoot.Task
/-!
How a child process ends, and what that means for the task that it ran. Main statement: only a
child that exited with code 0 counts as success.
-/

namespace SiteBoot

/-- A signal that can end a process. Number 0 is no signal, and 127 is what the system writes
where the number of a signal would stand for a child that has only stopped. -/
structure Signal where
  number : Nat
  pos : 0 < number
  lt : number < 127
  deriving DecidableEq

/-- How a child has ended, as the system reports it. -/
inductive ChildStatus where
  | exited (code : UInt8)
  | signaled (signal : Signal) (dumpedCore : Bool)
  /-- Neither, as of a child that has stopped and not ended. -/
  | other
  deriving DecidableEq

namespace ChildStatus

/-- The status of the task that a child ran, if the task has failed. -/
def failure? : ChildStatus → Option TaskStatus
  | exited code => if code = 0 then none else some (.exited (code.toNat : Int))
  | signaled signal _ => some (.signaled (signal.number : Int))
  | other => some (.exited 1)

/-- What has come of a task by the status of its child. -/
def classify (task : Task) (status : ChildStatus) : Except TaskFailure Unit :=
  match status.failure? with
  | some failure => .error ⟨task, failure⟩
  | none => .ok ()

theorem failure?_eq_none_iff (status : ChildStatus) : status.failure? = none ↔ status = exited 0 := by
  cases status <;> simp [failure?]

theorem classify_eq_ok_iff (task : Task) (status : ChildStatus) :
    status.classify task = .ok () ↔ status = exited 0 := by
  rw [← failure?_eq_none_iff, classify]
  cases status.failure? <;> simp

end ChildStatus

end SiteBoot
