import AlgorithmDriver.Host.Execute

/-!
# Running processes

How the host replies to the requests of processes, and how processes take turns.  A process takes a
step when the host can reply to its request; it waits as long as the host cannot.
-/

namespace AlgorithmDriver.Host

/-! ## Descriptors -/

/-- The first number from `least` on that is no descriptor of the process. -/
def freeDescriptor (process : Process) (least : Nat) : Nat :=
  let used := process.descriptors.map Prod.fst
  ((List.range (used.length + 1)).map (· + least)).find? (fun n => !used.contains n) |>.getD least

/-- Makes a descriptor of a process denote a description. -/
def bindDescriptor (host : Host) (number descriptor description : Nat) : Host :=
  match host.process? number with
  | none => host
  | some p =>
    host.setProcess number
      { p with
        descriptors := (descriptor, description) :: p.descriptors.filter (·.1 ≠ descriptor) }

/-- Closes a descriptor of a process. -/
def closeDescriptor (host : Host) (number descriptor : Nat) : Host :=
  match host.process? number with
  | none => host
  | some p =>
    match denoted p descriptor with
    | none => host
    | some description =>
      (host.setProcess number
        { p with descriptors := p.descriptors.filter (·.1 ≠ descriptor) }).release description

/-- Descriptors from this number on are private to a program. -/
def privateDescriptor : Nat := 10

/-- Closes the descriptors of a process that are private to its program. -/
def closePrivate (host : Host) (number : Nat) : Host :=
  match host.process? number with
  | none => host
  | some p =>
    (p.descriptors.filter fun d => d.1 ≥ privateDescriptor).foldl
      (fun host d => host.closeDescriptor number d.1) host

/-! ## Replies -/

/-- The replies that a process gets about a description. -/
def withDescription (host : Host) (process : Process) (descriptor : Nat)
    (reply : Nat → Option (Reply × Host)) : Option (Reply × Host) :=
  match denoted process descriptor with
  | none => some (.failed .badDescriptor, host)
  | some description => reply description

/-- What a file is, as far as programs can ask. -/
def describeNode (host : Host) (node : Nat) : Reply :=
  match host.files.get? node with
  | some (.directory ..) => .file .directory true 0
  | some (.device _) => .file .device false 0
  | some (.file content executable) => .file .regular executable content.length
  | _ => .file .regular true 1

/-- Waits for a child: tells about one that has ended. -/
def awaitChild (host : Host) (number : Nat) (child : Option Nat) : Option (Reply × Host) :=
  let children := (host.processes.zipIdx).filter fun (p, n) =>
    p.parent == some number && !p.reaped && (child.isNone || child == some n)
  if children.isEmpty then some (.failed .noChild, host)
  else
    children.findSome? fun (p, n) =>
      match p.activity with
      | .ended status => some (.ended n status, host.setProcess n { p with reaped := true })
      | .running _ => none

/-- The reply to a request of a process; `none` as long as the process has to wait. -/
def reply (host : Host) (number : Nat) (process : Process) : Request → Option (Reply × Host)
  | .read descriptor count =>
    host.withDescription process descriptor fun description =>
      (host.read description count).map fun
        | (.ok bytes, host) => (.data bytes, host)
        | (.error e, host) => (.failed e, host)
  | .write descriptor data =>
    host.withDescription process descriptor fun description =>
      (host.write description data).map fun
        | (.ok n, host) => (.count n, host)
        | (.error .brokenPipe, host) => (.failed .brokenPipe, host.send number Signal.pipe)
        | (.error e, host) => (.failed e, host)
  | .openFile path mode =>
    match host.openFile process.directory path mode with
    | .error e => some (.failed e, host)
    | .ok (description, host) =>
      let descriptor := freeDescriptor process 0
      some (.descriptor descriptor, host.bindDescriptor number descriptor description)
  | .close descriptor => some (.done, host.closeDescriptor number descriptor)
  | .duplicate source target =>
    host.withDescription process source fun description =>
      if source = target then some (.done, host)
      else
        some (.done,
          ((host.hold description).closeDescriptor number target).bindDescriptor number target
            description)
  | .save source least =>
    host.withDescription process source fun description =>
      let descriptor := freeDescriptor process least
      some (.descriptor descriptor,
        (host.hold description).bindDescriptor number descriptor description)
  | .pipe =>
    let (readEnd, writeEnd, host) := host.makePipe
    let first := freeDescriptor process 0
    let host := host.bindDescriptor number first readEnd
    let second := freeDescriptor
      { process with descriptors := (first, readEnd) :: process.descriptors } 0
    some (.pipe first second, host.bindDescriptor number second writeEnd)
  | .await child => host.awaitChild number child
  | .send target signal =>
    match host.process? target with
    | none => some (.failed .noProcess, host)
    | some _ => some (.done, host.send target signal)
  | .arrange signal disposition =>
    if Signal.isUnconditional signal then some (.done, host)
    else
      some (.done, host.setProcess number
        { process with
          dispositions := (signal, disposition) :: process.dispositions.filter (·.1 ≠ signal) })
  | .caughtSignals =>
    some (.signals process.caught, host.setProcess number { process with caught := [] })
  | .ownNumber => some (.process number, host)
  | .directory =>
    some (.path (host.files.pathOf host.files.nodes.length process.directory), host)
  | .enter path =>
    match host.files.find process.directory path with
    | .error e => some (.failed e, host)
    | .ok node =>
      match host.files.get? node with
      | some (.directory ..) =>
        some (.done, host.setProcess number { process with directory := node })
      | _ => some (.failed .notDirectory, host)
  | .inspect path =>
    match host.files.find process.directory path with
    | .error e => some (.failed e, host)
    | .ok node => some (host.describeNode node, host)
  | .listDirectory path =>
    match host.files.find process.directory path with
    | .error e => some (.failed e, host)
    | .ok node =>
      match host.files.get? node with
      | some (.directory _ entries) => some (.entries (entries.map Prod.fst), host)
      | _ => some (.failed .notDirectory, host)
  | .sleep milliseconds =>
    match process.wakes with
    | none =>
      if milliseconds = 0 then some (.done, host) else none
    | some wakes =>
      if wakes ≤ host.time then some (.done, host.setProcess number { process with wakes := none })
      else none
  | .pause => some (.done, host)
  | .fork => some (.done, host)
  | .execute .. => some (.done, host)

/-! ## Steps -/

/-- Lets the program of a process go on. -/
def resume (host : Host) (number : Nat) (program : Program Nat) : Host :=
  match host.process? number with
  | some p => host.setProcess number { p with activity := .running program }
  | none => host

/-- Splits a process in two: the new one goes on with the reply for the child. -/
def fork (host : Host) (number : Nat) (process : Process) (next : Reply → Program Nat) : Host :=
  let child := host.processes.length
  let copy : Process :=
    { process with
      parent := some number, activity := .running (next .child), fatal := none, caught := [] }
  let host := process.descriptors.foldl (fun host d => host.hold d.2) host
  { host with processes := host.processes ++ [copy] }.resume number (next (.process child))

/-- Replaces the program of a process.  Signals are no longer caught. -/
def replace (host : Host) (number : Nat) (program : Program Nat) : Host :=
  let host := host.closePrivate number
  match host.process? number with
  | none => host
  | some p =>
    host.setProcess number
      { p with
        activity := .running program
        dispositions := p.dispositions.filter (·.2 ≠ .caught), caught := [] }

/-- Lets a process take a step.  `none` when it has ended or has to wait. -/
def step (host : Host) (number : Nat) : Option Host :=
  match host.process? number with
  | none => none
  | some p =>
    match p.activity with
    | .ended _ => none
    | .running program =>
      if p.fatal.isSome then some (host.deliver number)
      else
        match program with
        | .result code => some (host.finish number (.exited (code % 256)))
        | .ask .fork next => some (host.fork number p next)
        | .ask (.execute path arguments) next =>
          match host.loadFile p.directory path arguments with
          | .ok program => some (host.replace number program)
          | .error e => some (host.resume number (next (.failed e)))
        | .ask request next =>
          match host.reply number p request with
          | some (reply, host) => some (host.resume number (next reply))
          | none =>
            match request, p.wakes with
            | .sleep milliseconds, none =>
              some (host.setProcess number { p with wakes := some (host.time + milliseconds) })
            | _, _ => none

/-! ## Turns -/

/-- How many steps a process takes in one turn at most. -/
def turnLength : Nat := 1000

/-- How many rounds of turns processes take before the driver goes on. -/
def mostRounds : Nat := 300

/-- Gives a process a turn.  Also says whether it took a step. -/
def turn (number : Nat) : (steps : Nat) → Host → Bool → Host × Bool
  | 0, host, moved => (host, moved)
  | steps + 1, host, moved =>
    match host.step number with
    | none => (host, moved)
    | some host => turn number steps host true

/-- Gives every process a turn.  Also says whether any took a step. -/
def round (host : Host) : Host × Bool :=
  (List.range host.processes.length).foldl
    (fun (host, moved) number => turn number turnLength host moved) (host, false)

/-- Gives processes turns until all of them wait, for a limited number of rounds. -/
def settleFor : (rounds : Nat) → Host → Host
  | 0, host => host
  | rounds + 1, host =>
    match host.round with
    | (host, true) => settleFor rounds host
    | (host, false) => host

/-- Lets the processes run. -/
def settle (host : Host) : Host := settleFor mostRounds host

/-- Whether some process can take a step. -/
def isBusy (host : Host) : Bool :=
  (List.range host.processes.length).any fun number => (host.step number).isSome

/-- When the next process that is asleep wakes up. -/
def nextWake? (host : Host) : Option Nat :=
  (host.processes.filterMap fun p =>
    match p.activity with
    | .running _ => p.wakes
    | .ended _ => none).min?

/-- Lets the processes run.  When all of them wait, lets time pass until the next one wakes up. -/
def advance (host : Host) : Host :=
  let host := host.settle
  if host.isBusy then host
  else
    match host.nextWake? with
    | none => host
    | some time => { host with time := max time host.time }.settle

end AlgorithmDriver.Host
