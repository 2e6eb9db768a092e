/-!
# Signals

The signals that processes send to one another, by number, and what each does to a process that made
no arrangements for it.
-/

namespace AlgorithmDriver

/-- A signal. -/
abbrev Signal := Nat

namespace Signal

/-- The names of signals, with their numbers. -/
def names : List (String × Signal) :=
  [("HUP", 1), ("INT", 2), ("QUIT", 3), ("ILL", 4), ("TRAP", 5), ("ABRT", 6), ("BUS", 7),
   ("FPE", 8), ("KILL", 9), ("USR1", 10), ("SEGV", 11), ("USR2", 12), ("PIPE", 13), ("ALRM", 14),
   ("TERM", 15), ("STKFLT", 16), ("CHLD", 17), ("CONT", 18), ("STOP", 19), ("TSTP", 20),
   ("TTIN", 21), ("TTOU", 22), ("URG", 23), ("XCPU", 24), ("XFSZ", 25), ("VTALRM", 26),
   ("PROF", 27), ("WINCH", 28), ("IO", 29), ("PWR", 30), ("SYS", 31)]

/-- What is said about a process that a signal ended. -/
def description (signal : Signal) : String :=
  match signal with
  | 1 => "Hangup"
  | 3 => "Quit"
  | 4 => "Illegal instruction"
  | 5 => "Trace/breakpoint trap"
  | 6 => "Aborted"
  | 7 => "Bus error"
  | 8 => "Floating point exception"
  | 9 => "Killed"
  | 10 => "User defined signal 1"
  | 11 => "Segmentation fault"
  | 12 => "User defined signal 2"
  | 14 => "Alarm clock"
  | 15 => "Terminated"
  | 16 => "Stack fault"
  | 24 => "CPU time limit exceeded"
  | 25 => "File size limit exceeded"
  | 26 => "Virtual timer expired"
  | 27 => "Profiling timer expired"
  | 29 => "I/O possible"
  | 30 => "Power failure"
  | 31 => "Bad system call"
  | _ => "Unknown signal"

/-- The signal that cannot be refused. -/
def kill : Signal := 9

/-- The signal sent to a process that writes where nobody reads. -/
def pipe : Signal := 13

/-- What a signal does to a process that made no arrangements. -/
inductive Action where
  | terminate
  | stop
  | nothing
  deriving DecidableEq, Repr

/-- The action of a signal, unless other arrangements were made. -/
def action (signal : Signal) : Action :=
  if signal = 0 ∨ signal = 17 ∨ signal = 18 ∨ signal = 23 ∨ signal = 28 then .nothing
  else if 19 ≤ signal ∧ signal ≤ 22 then .stop
  else .terminate

/-- Whether no arrangements can be made for a signal. -/
def isUnconditional (signal : Signal) : Bool := signal = 9 || signal = 19

/-- Whether there is a signal with the given number. -/
def isNumber (number : Nat) : Bool := number ≤ 64

end Signal

/-- How a process ended. -/
inductive ExitStatus where
  /-- On its own, with a code. -/
  | exited (code : Nat)
  /-- By a signal. -/
  | signaled (signal : Signal)
  deriving DecidableEq, Repr, Inhabited

namespace ExitStatus

/-- The status as one number: the code, or 128 more than the signal. -/
def code : ExitStatus → Nat
  | exited code => code
  | signaled signal => 128 + signal

end ExitStatus

end AlgorithmDriver
