import AlgorithmDriver.Host.Program
import AlgorithmDriver.Shell.Pattern
import AlgorithmDriver.Shell.Statement

/-!
# The state of a shell

What a shell remembers between commands, and how commands are composed: a command asks the host,
changes the state, and either goes on or stops what is being run.
-/

namespace AlgorithmDriver.Shell

/-- What is remembered between commands. -/
structure State where
  bindings : List (List Char × List Char) := []
  exported : List (List Char) := []
  /-- The name of the script, or of the shell. -/
  name : List Char
  parameters : List (List Char) := []
  functions : List (List Char × Statement) := []
  /-- The status of the last command. -/
  status : Nat := 0
  /-- The number of the shell's process. -/
  process : Nat := 0
  /-- The number of the process that was started last in the background. -/
  background : Option Nat := none
  /-- Commands to run when a signal is caught; zero stands for the end of the shell. -/
  traps : List (Nat × List Char) := []
  /-- Whether a command that fails ends the shell. -/
  exitOnError : Bool := false
  /-- Whether the use of a variable that is not set is an error. -/
  refuseUnset : Bool := false
  /-- The status of the last command whose output was substituted. -/
  substituted : Nat := 0
  /-- How many loops are being run. -/
  loops : Nat := 0
  /-- The line of the running command. -/
  line : Nat := 1

/-- Why what is being run stops. -/
inductive Stop where
  | exit (code : Nat)
  /-- Loops are left. -/
  | leave (levels : Nat)
  /-- Loops go on with their next round. -/
  | again (levels : Nat)
  /-- A function returns. -/
  | back
  deriving DecidableEq, Repr

/-- Something to be run by a shell. -/
abbrev Run := ExceptT Stop (StateT State Program)

namespace Run

/-- Asks the host. -/
def ask (request : Request) : Run Reply := do
  let program : Program Reply := Program.request request
  liftM (m := StateT State Program) (liftM program)

/-- Runs something of the host's. -/
def lift {α : Type} (program : Program α) : Run α :=
  liftM (m := StateT State Program) (liftM program)

/-- Sets the status of the last command. -/
def setStatus (status : Nat) : Run Unit := modify fun s => { s with status }

/-- Writes characters to a descriptor. -/
def print (descriptor : Nat) (chars : List Char) : Run (Except Errno Unit) :=
  lift (Program.writeAll descriptor (Bytes.ofChars chars))

/-- Writes a message to the standard error. -/
def complain (message : List Char) : Run Unit := do
  let s ← get
  let line := Nat.toDigits 10 s.line
  let _ ← print 2 (s.name ++ [':', ' '] ++ line ++ [':', ' '] ++ message ++ ['\n'])

/-- Ends the shell with an error. -/
def fail {α : Type} (message : String) : Run α := do
  complain message.toList
  setStatus 2
  throw (.exit 2)

/-! ## Variables -/

/-- The value of a variable. -/
def value? (name : List Char) : Run (Option (List Char)) := return (← get).bindings.lookup name

/-- Sets a variable. -/
def assign (name value : List Char) : Run Unit :=
  modify fun s =>
    { s with bindings := (name, value) :: s.bindings.filter (·.1 ≠ name) }

/-- The variables that programs get to see. -/
def environment : Run (List (Bytes × Bytes)) := do
  let s ← get
  return s.exported.filterMap fun name =>
    (s.bindings.lookup name).map fun value => (Bytes.ofChars name, Bytes.ofChars value)

/-- The characters that separate fields. -/
def separators : Run (List Char) := do
  return (← value? "IFS".toList).getD [' ', '\t', '\n']

/-! ## Numbers of processes -/

/-- The distance between the numbers of processes and those that scripts see. -/
def processBase : Nat := 1000

/-- The number of a process as scripts see it. -/
def processText (process : Nat) : List Char := Nat.toDigits 10 (process + processBase)

end Run

end AlgorithmDriver.Shell
