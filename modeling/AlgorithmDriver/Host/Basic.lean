import AlgorithmDriver.Host.FileTree

/-!
# The host

The state of the machine on which the driver works: its files, its pipes, the open ends of both, and
the processes.  Everything is known by a number that is never given out again.

An open end is a *description*.  Several descriptors, of one process or of several, can denote the
same description, and it is closed when the last of them is gone.
-/

namespace AlgorithmDriver

/-- What a description reads or writes. -/
inductive Object where
  | node (number : Nat)
  | readEnd (pipe : Nat)
  | writeEnd (pipe : Nat)
  deriving DecidableEq, Repr

/-- An open file, or an open end of a pipe. -/
structure Description where
  object : Object
  /-- Whether every write goes to the end of the file. -/
  appends : Bool := false
  /-- Where the next read or write takes place. -/
  offset : Nat := 0
  /-- How many descriptors denote it. -/
  holders : Nat := 1
  deriving DecidableEq, Repr

/-- What a process is doing. -/
inductive Activity where
  | running (program : Program Nat)
  | ended (status : ExitStatus)

/-- A process. -/
structure Process where
  /-- The process that started it, if it was not the driver. -/
  parent : Option Nat
  activity : Activity
  /-- Its descriptors, with the descriptions they denote. -/
  descriptors : List (Nat × Nat)
  /-- The directory in which relative paths are read. -/
  directory : Nat
  /-- The arrangements that were made for signals. -/
  dispositions : List (Signal × Disposition) := []
  /-- Signals that will end the process when it runs next. -/
  fatal : Option Signal := none
  /-- Signals that the program was not told about yet. -/
  caught : List Signal := []
  /-- When the process wants to go on, if it is asleep. -/
  wakes : Option Nat := none
  /-- Whether the parent was told about the end. -/
  reaped : Bool := false

/-- The state of the machine. -/
structure Host where
  files : FileTree
  /-- The bytes that were written to each pipe and not yet read. -/
  pipes : List Bytes := []
  descriptions : List Description := []
  processes : List Process := []
  /-- The time, in milliseconds. -/
  time : Nat := 0
  /-- The directory in which the driver itself works. -/
  directory : Nat := 0
  /-- The environment of the driver. -/
  environment : List (Bytes × Bytes) := []

namespace Host

/-! ## Descriptions -/

/-- How many bytes a pipe holds at most. -/
def pipeCapacity : Nat := 65536

/-- Writes up to this size are never split. -/
def atomicWrite : Nat := 4096

/-- Makes a description. -/
def describe (host : Host) (description : Description) : Nat × Host :=
  (host.descriptions.length, { host with descriptions := host.descriptions ++ [description] })

/-- Changes a description. -/
def setDescription (host : Host) (number : Nat) (description : Description) : Host :=
  { host with descriptions := host.descriptions.set number description }

/-- Counts one more descriptor that denotes a description. -/
def hold (host : Host) (number : Nat) : Host :=
  match host.descriptions[number]? with
  | some d => host.setDescription number { d with holders := d.holders + 1 }
  | none => host

/-- Counts one descriptor less that denotes a description. -/
def release (host : Host) (number : Nat) : Host :=
  match host.descriptions[number]? with
  | some d => host.setDescription number { d with holders := d.holders - 1 }
  | none => host

/-- Whether an open description reads from the pipe. -/
def hasReader (host : Host) (pipe : Nat) : Bool :=
  host.descriptions.any fun d => d.object == .readEnd pipe && d.holders > 0

/-- Whether an open description writes to the pipe. -/
def hasWriter (host : Host) (pipe : Nat) : Bool :=
  host.descriptions.any fun d => d.object == .writeEnd pipe && d.holders > 0

/-- Makes a pipe: the descriptions of its read end and of its write end. -/
def makePipe (host : Host) : Nat × Nat × Host :=
  let pipe := host.pipes.length
  let host := { host with pipes := host.pipes ++ [[]] }
  let (readEnd, host) := host.describe { object := .readEnd pipe }
  let (writeEnd, host) := host.describe { object := .writeEnd pipe }
  (readEnd, writeEnd, host)

/-! ## Opening -/

/-- Opens a file for reading. -/
def openRead (host : Host) (directory : Nat) (path : String) : Except Errno (Nat × Host) :=
  match host.files.find directory path with
  | .error e => .error e
  | .ok node => .ok (host.describe { object := .node node })

/-- Opens a file for writing, as `mode` says.  A missing file is made. -/
def openWrite (host : Host) (directory : Nat) (path : String) (mode : OpenMode) :
    Except Errno (Nat × Host) :=
  let appends := mode == .append
  match host.files.locateForWriting directory path with
  | .error e => .error e
  | .ok (.vacant place name) =>
    let (node, files) := host.files.attach place name (.file [] false)
    .ok ({ host with files }.describe { object := .node node, appends })
  | .ok (.node node) =>
    match host.files.get? node with
    | some (.directory ..) => .error .isDirectory
    | some (.file _ executable) =>
      let files := if mode == .create then host.files.set node (.file [] executable) else host.files
      .ok ({ host with files }.describe { object := .node node, appends })
    | _ => .ok (host.describe { object := .node node, appends })

/-- Opens a file. -/
def openFile (host : Host) (directory : Nat) (path : String) (mode : OpenMode) :
    Except Errno (Nat × Host) :=
  match mode with
  | .read => host.openRead directory path
  | mode => host.openWrite directory path mode

/-- Whether a description denotes a directory. -/
def isDirectory (host : Host) (number : Nat) : Bool :=
  match host.descriptions[number]? with
  | some { object := .node node, .. } =>
    match host.files.get? node with
    | some (.directory ..) => true
    | _ => false
  | _ => false

/-! ## Reading and writing -/

/-- Reads at most `count` bytes from a file. -/
def readNode (host : Host) (node offset count : Nat) : Except Errno Bytes :=
  match host.files.get? node with
  | some (.file content _) => .ok ((content.drop offset).take count)
  | some (.device .null) => .ok []
  | some (.device _) => .ok (List.replicate count 0)
  | some (.directory ..) => .error .isDirectory
  | _ => .ok []

/-- Reads at most `count` bytes.  `none` when the reader has to wait: the pipe is empty, and
somebody could still write to it. -/
def read (host : Host) (number count : Nat) : Option (Except Errno Bytes × Host) :=
  match host.descriptions[number]? with
  | none => some (.error .badDescriptor, host)
  | some d =>
    match d.object with
    | .node node =>
      match host.readNode node d.offset count with
      | .error e => some (.error e, host)
      | .ok bytes =>
        some (.ok bytes, host.setDescription number { d with offset := d.offset + bytes.length })
    | .readEnd pipe =>
      let held := (host.pipes[pipe]?).getD []
      if held.isEmpty then
        if count = 0 ∨ !host.hasWriter pipe then some (.ok [], host) else none
      else
        some (.ok (held.take count), { host with pipes := host.pipes.set pipe (held.drop count) })
    | .writeEnd _ => some (.error .badDescriptor, host)

/-- The content of a file after a write at `offset`.  A gap is filled with zeros. -/
def overwrite (content : Bytes) (offset : Nat) (data : Bytes) : Bytes :=
  if offset = content.length then content ++ data
  else
    content.take offset ++ List.replicate (offset - content.length) 0 ++ data ++
      content.drop (offset + data.length)

/-- How many of `size` bytes fit into a pipe with `room` for more.  A small write waits until all of
it fits. -/
def portion (size room : Nat) : Nat :=
  if size ≤ room then size else if size ≤ atomicWrite then 0 else room

/-- Writes to a file as much of the data as it takes. -/
def writeNode (host : Host) (node offset : Nat) (data : Bytes) : Except Errno Host :=
  match host.files.get? node with
  | some (.file content executable) =>
    let file := .file (overwrite content offset data) executable
    .ok { host with files := host.files.set node file }
  | some (.device .full) => .error .noSpace
  | some (.directory ..) => .error .isDirectory
  | _ => .ok host

/-- The size of the file that a node is. -/
def sizeOf (host : Host) (node : Nat) : Nat :=
  match host.files.get? node with
  | some (.file content _) => content.length
  | _ => 0

/-- Writes data, and returns how much of it was taken.  `none` when the writer has to wait: the pipe
is full, and somebody could still read from it. -/
def write (host : Host) (number : Nat) (data : Bytes) : Option (Except Errno Nat × Host) :=
  match host.descriptions[number]? with
  | none => some (.error .badDescriptor, host)
  | some d =>
    match d.object with
    | .node node =>
      let offset := if d.appends then host.sizeOf node else d.offset
      match host.writeNode node offset data with
      | .error e => some (.error e, host)
      | .ok host =>
        some (.ok data.length,
          host.setDescription number { d with offset := offset + data.length })
    | .writeEnd pipe =>
      if data.isEmpty then some (.ok 0, host)
      else if !host.hasReader pipe then some (.error .brokenPipe, host)
      else
        let held := (host.pipes[pipe]?).getD []
        let taken := portion data.length (pipeCapacity - held.length)
        if taken = 0 then none
        else some (.ok taken, { host with pipes := host.pipes.set pipe (held ++ data.take taken) })
    | .readEnd _ => some (.error .badDescriptor, host)

/-! ## Processes -/

/-- The process of the given number. -/
def process? (host : Host) (number : Nat) : Option Process := host.processes[number]?

/-- Changes a process. -/
def setProcess (host : Host) (number : Nat) (process : Process) : Host :=
  { host with processes := host.processes.set number process }

/-- The description that a descriptor of a process denotes. -/
def denoted (process : Process) (descriptor : Nat) : Option Nat :=
  process.descriptors.lookup descriptor

/-- Ends a process: its descriptors are closed and its status is kept for its parent. -/
def finish (host : Host) (number : Nat) (status : ExitStatus) : Host :=
  match host.process? number with
  | none => host
  | some p =>
    let host := p.descriptors.foldl (fun host d => host.release d.2) host
    host.setProcess number { p with activity := .ended status, descriptors := [], wakes := none }

/-- What a process does about a signal. -/
def disposition (process : Process) (signal : Signal) : Disposition :=
  if Signal.isUnconditional signal then .standard
  else (process.dispositions.lookup signal).getD .standard

/-- Sends a signal to a process.  One that is fatal takes effect when the process runs next. -/
def send (host : Host) (number : Nat) (signal : Signal) : Host :=
  match host.process? number with
  | none => host
  | some p =>
    match p.activity with
    | .ended _ => host
    | .running _ =>
      match disposition p signal with
      | .ignored => host
      | .caught => host.setProcess number { p with caught := p.caught ++ [signal] }
      | .standard =>
        match Signal.action signal with
        | .terminate => host.setProcess number { p with fatal := p.fatal.or (some signal) }
        | _ => host

/-- Lets a fatal signal that was sent to a process take effect. -/
def deliver (host : Host) (number : Nat) : Host :=
  match host.process? number with
  | some { activity := .running _, fatal := some signal, .. } =>
    host.finish number (.signaled signal)
  | _ => host

/-- Asks how a process ended, without waiting for it.  The answer can be had once it has ended. -/
def tryWait (host : Host) (number : Nat) : Option ExitStatus × Host :=
  match host.process? number with
  | some p =>
    match p.activity with
    | .ended status => (some status, host.setProcess number { p with reaped := true })
    | .running _ => (none, host)
  | none => (none, host)

end Host

end AlgorithmDriver
