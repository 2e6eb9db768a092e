import AlgorithmDriver.Host.Bytes
import AlgorithmDriver.Host.Errno
import AlgorithmDriver.Host.Signal

/-!
# Programs

What a program does is a matter of the requests that it makes to the host and of how it goes on from
each reply.  A `Program` is a tree of such requests: each node says what to ask, and has one branch
for every reply.  Running a program twice from the same node is no problem, which is what makes
forking a process simple.

Programs are composed by `bind`: the second one starts where the first one has its result.
-/

namespace AlgorithmDriver

/-- How a file is opened. -/
inductive OpenMode where
  | read
  /-- For writing; the file is created if there is none, and emptied if there is one. -/
  | create
  /-- For writing after what is there; the file is created if there is none. -/
  | append
  /-- For reading and writing; the file is created if there is none. -/
  | readWrite
  deriving DecidableEq, Repr

/-- What a process does about a signal. -/
inductive Disposition where
  | standard
  | ignored
  /-- The program is told and goes on. -/
  | caught
  deriving DecidableEq, Repr

/-- What sort of file a path leads to. -/
inductive FileKind where
  | regular
  | directory
  | device
  deriving DecidableEq, Repr

/-- What a program is started with. -/
structure Arguments where
  /-- The arguments, the first of which is the name under which the program was called. -/
  values : List Bytes
  /-- The environment variables. -/
  environment : List (Bytes × Bytes) := []
  deriving DecidableEq, Repr

/-- What a program can ask the host for. -/
inductive Request where
  | read (descriptor count : Nat)
  | write (descriptor : Nat) (data : Bytes)
  | openFile (path : String) (mode : OpenMode)
  | close (descriptor : Nat)
  /-- Makes the descriptor `target` denote what `source` denotes. -/
  | duplicate (source target : Nat)
  /-- Makes the first free descriptor from `least` on denote what `source` denotes. -/
  | save (source least : Nat)
  | pipe
  | fork
  | execute (path : String) (arguments : Arguments)
  /-- Waits for a child to end: the given one, or any. -/
  | await (child : Option Nat)
  | send (process : Nat) (signal : Signal)
  | arrange (signal : Signal) (disposition : Disposition)
  /-- The signals that were caught since the last time. -/
  | caughtSignals
  | ownNumber
  | directory
  | enter (path : String)
  | inspect (path : String)
  | listDirectory (path : String)
  | sleep (milliseconds : Nat)
  /-- Lets other processes run. -/
  | pause
  deriving DecidableEq, Repr

/-- What the host replies. -/
inductive Reply where
  | done
  | failed (reason : Errno)
  | data (bytes : Bytes)
  | count (n : Nat)
  | descriptor (n : Nat)
  | pipe (readEnd writeEnd : Nat)
  /-- Told to a process: the number of a process. -/
  | process (number : Nat)
  /-- Told to the new process of a fork. -/
  | child
  | ended (process : Nat) (status : ExitStatus)
  | path (path : String)
  | file (kind : FileKind) (executable : Bool) (size : Nat)
  | entries (names : List String)
  | signals (signals : List Signal)
  deriving DecidableEq, Repr

/-- A tree of requests with results at its leaves. -/
inductive Program (α : Type) where
  | result (value : α)
  | ask (request : Request) (next : Reply → Program α)

namespace Program

variable {α β : Type}

/-- Continues with `f` where `program` has its result. -/
def bind (program : Program α) (f : α → Program β) : Program β :=
  match program with
  | .result value => f value
  | .ask request next => .ask request fun reply => (next reply).bind f

instance : Monad Program where
  pure := .result
  bind := Program.bind

instance : Inhabited (Program Nat) := ⟨.result 0⟩

/-- Makes a request and returns the reply. -/
def request (r : Request) : Program Reply := .ask r .result

/-- Makes a request whose reply is of no interest. -/
def perform (r : Request) : Program Unit := .ask r fun _ => .result ()

/-- Reads at most `count` bytes; none at the end of the input. -/
def read (descriptor count : Nat) : Program (Except Errno Bytes) :=
  .ask (.read descriptor count) fun
    | .data bytes => .result (.ok bytes)
    | .failed e => .result (.error e)
    | _ => .result (.ok [])

/-- The number of pieces that a write of `size` bytes can be split into at most. -/
def writePieces (size : Nat) : Nat := size + 1

/-- Writes all the data. -/
def writeAll (descriptor : Nat) (data : Bytes) : Program (Except Errno Unit) :=
  go (writePieces data.length) data
where
  go : Nat → Bytes → Program (Except Errno Unit)
    | 0, _ => .result (.ok ())
    | fuel + 1, data =>
      if data.isEmpty then .result (.ok ())
      else
        .ask (.write descriptor data) fun
          | .count n => go fuel (data.drop n)
          | .failed e => .result (.error e)
          | _ => .result (.ok ())

/-- The largest number of steps that a loop of a program takes. -/
def loopLimit : Nat := 1000000

/-- Everything up to the end of the input. -/
def readToEnd (descriptor : Nat) : Program Bytes :=
  go loopLimit []
where
  go : Nat → List Bytes → Program Bytes
    | 0, chunks => .result chunks.reverse.flatten
    | fuel + 1, chunks =>
      .ask (.read descriptor 65536) fun
        | .data [] => .result chunks.reverse.flatten
        | .data bytes => go fuel (bytes :: chunks)
        | _ => .result chunks.reverse.flatten

end Program

/-- A program as it is started: it ends with a code. -/
abbrev Main := Arguments → Program Nat

end AlgorithmDriver
