import SiteBoot.Child.Status
/-!
The signals of the system: their names, what they do to a process that has not provided for them,
and how the system describes a process that one of them has ended.
-/

namespace SiteBoot.Signal

/-- The names of the signals from number 1 on, as far as they have names of their own. -/
def commonNames : List String :=
  ["HUP", "INT", "QUIT", "ILL", "TRAP", "ABRT", "BUS", "FPE", "KILL", "USR1", "SEGV", "USR2",
    "PIPE", "ALRM", "TERM", "16", "CHLD", "CONT", "STOP", "TSTP", "TTIN", "TTOU", "URG",
    "XCPU", "XFSZ", "VTALRM", "PROF", "WINCH", "IO", "PWR", "SYS"]

/-- The first of the signals that have no meaning of their own. -/
def firstRealTime : Nat := 34

def greatest : Nat := 64

/-- The name of a signal by its number. Number 0 is the end of a process as such. -/
def nameOf (number : Nat) : String :=
  if number = 0 then "EXIT"
  else match commonNames[number - 1]? with
    | some name => name
    | none =>
      if number < firstRealTime then toString number
      else if number = firstRealTime then "RTMIN"
      else if number < 50 then "RTMIN+" ++ toString (number - firstRealTime)
      else if number < greatest then "RTMAX-" ++ toString (greatest - number)
      else if number = greatest then "RTMAX"
      else toString number

/-- The signal of a number, if processes can be sent it. -/
def ofNumber? (number : Nat) : Option Signal :=
  if h : 0 < number ∧ number ≤ greatest then
    some ⟨number, h.1, Nat.lt_of_le_of_lt h.2 (by decide)⟩
  else none

def interrupt : Signal := ⟨2, by decide, by decide⟩
def quit : Signal := ⟨3, by decide, by decide⟩
def brokenPipe : Signal := ⟨13, by decide, by decide⟩
def terminate : Signal := ⟨15, by decide, by decide⟩

/-- Tells a process that one that it has started has ended. -/
def childEnd : Signal := ⟨17, by decide, by decide⟩

/-- Whether a process that has not provided for the signal ends by it. -/
def endsProcess (signal : Signal) : Bool := !([17, 18, 19, 20, 21, 22, 23, 28].contains signal.number)

/-- Whether no process can provide for the signal. -/
def isUncatchable (signal : Signal) : Bool := signal.number = 9 || signal.number = 19

/-- What the system calls signals from number 1 on. -/
def commonDescriptions : List String :=
  ["Hangup", "Interrupt", "Quit", "Illegal instruction", "Trace/breakpoint trap", "Aborted",
    "Bus error", "Floating point exception", "Killed", "User defined signal 1",
    "Segmentation fault", "User defined signal 2", "Broken pipe", "Alarm clock", "Terminated",
    "Stack fault", "Child exited", "Continued", "Stopped (signal)", "Stopped",
    "Stopped (tty input)", "Stopped (tty output)", "Urgent I/O condition",
    "CPU time limit exceeded", "File size limit exceeded", "Virtual timer expired",
    "Profiling timer expired", "Window changed", "I/O possible", "Power failure",
    "Bad system call"]

def description (signal : Signal) : String :=
  match commonDescriptions[signal.number - 1]? with
  | some text => text
  | none =>
    if signal.number < firstRealTime then "Unknown signal " ++ toString signal.number
    else "Real-time signal " ++ toString (signal.number - firstRealTime)

end SiteBoot.Signal
