import AlgorithmDriver.Driver.Config
import AlgorithmDriver.Driver.World

/-!
# Instances

A started algorithm: its process, and the driver's ends of its standard input and output.  The
status of an instance is what the driver observed last.  It changes once, from running to a terminal
status, when a poll finds that the process has ended or when the process is killed.

The driver keeps the input of an instance open until it is handed out for the first time.  From then
on the handles of the callers are its only owners: when all of them are dropped, the algorithm sees
the end of its input.
-/

namespace AlgorithmDriver

/-- The status of an algorithm, as last observed. -/
inductive Status where
  | running
  /-- The process ended on its own.  Death by a signal `s` that the driver did not send counts as
  code `128 + s`. -/
  | exited (code : Nat)
  /-- Ended by the driver. -/
  | killed
  /-- No instance has the id. -/
  | notFound
  deriving DecidableEq, Repr

namespace Status

/-- Whether the status is final. -/
def isTerminal : Status → Bool
  | exited _ => true
  | killed => true
  | _ => false

/-- The name of a status. -/
def text : Status → String
  | running => "Running"
  | exited code => "Exited(" ++ Decimal.text code ++ ")"
  | killed => "Killed"
  | notFound => "NotFound"

end Status

/-- The driver's hold on the input of an instance. -/
inductive Input where
  /-- Not handed out yet. -/
  | owned (pipe : WriteHandle)
  /-- Handed out: only the callers own it. -/
  | lent (pipe : WriteHandle)
  | released
  deriving DecidableEq, Repr

/-- A started algorithm. -/
structure Instance where
  name : String
  /-- The number of its process. -/
  process : Nat
  status : Status := .running
  /-- Whether the process has been waited for. -/
  reaped : Bool := false
  input : Input
  output : Option ReadHandle
  deriving DecidableEq, Repr

namespace Instance

/-! ## Starting -/

/-- Whether a text contains a NUL character. -/
def containsNul (text : String) : Bool := text.toList.contains '\x00'

/-- The description that becomes the standard error of a process. -/
def openErrors (policy : ErrorPolicy) (world : World) : Except Errno (Nat × Host) :=
  match policy with
  | .inherit => .ok (world.errors, world.host.hold world.errors)
  | .discard => world.host.openWrite world.host.directory "/dev/null" .append

/-- Starts the process of an algorithm. -/
def start (name : String) (command : Command) (policy : ErrorPolicy) (world : World) :
    Except DriverError (Instance × World) :=
  if command.arguments.any containsNul then .error (.starting name .nulInArgument)
  else
    let arguments : Arguments :=
      { values := (command.program :: command.arguments).map Bytes.ofText
        environment := world.host.environment }
    match openErrors policy world with
    | .error e => .error (.starting name (.refused e))
    | .ok (errors, host) =>
      match host.loadCommand host.directory host.searchPath command.program arguments with
      | .error e => .error (.starting name (.refused e))
      | .ok program =>
        let (inputRead, inputWrite, host) := host.makePipe
        let (outputRead, outputWrite, host) := host.makePipe
        let (process, host) := host.start program inputRead outputWrite errors
        let world := { world with host }
        let (input, world) := world.addSink { description := inputWrite, capacity := 0 }
        let (output, world) := world.addSource { description := outputRead, capacity := 0 }
        .ok ({ name, process, input := .owned input, output := some output }, world)

/-! ## Ending -/

/-- Drops the driver's handles of an instance. -/
def releasePipes (i : Instance) (world : World) : World :=
  let world :=
    match i.input with
    | .owned pipe => world.dropSink pipe
    | _ => world
  match i.output with
  | some pipe => world.dropSource pipe
  | none => world

/-- Enters a terminal status.  Handles that were given out keep the streams alive, so that pending
output can still be read. -/
def terminate (i : Instance) (status : Status) (world : World) : Instance × World :=
  ({ i with status, input := .released, output := none }, i.releasePipes world)

/-- Looks whether the process has ended, without waiting. -/
def poll (i : Instance) (world : World) : Instance × World :=
  if i.reaped then (i, world)
  else
    match world.host.tryWait i.process with
    | (none, host) => (i, { world with host })
    | (some status, host) =>
      let i := { i with reaped := true }
      let world := { world with host }
      match i.status with
      | .running =>
        i.terminate (.exited status.code) (world.record (.exited i.name status.code))
      | _ => (i, world)

/-- Sends the kill signal to the process of a running instance. -/
def signal (i : Instance) (world : World) : Instance × World :=
  let world := { world with host := world.host.send i.process Signal.kill }
  i.terminate .killed (world.record (.signalled i.name))

/-- Why the kill signal could not be sent. -/
inductive Unsent where
  /-- The process has been waited for in the meantime. -/
  | gone
  /-- The host refused to send it. -/
  | refused (reason : Errno)
  deriving DecidableEq, Repr

/-- Kills the process.  Does not wait for it to be gone: it is reaped by a later `poll` or `reap`.
`meanwhile` is what the rest of the machine does between looking and sending the signal, and between
that and looking again.  The signal can be sent unless there is a reason in `unsent`. -/
def kill (i : Instance) (id : AlgorithmId) (world : World)
    (meanwhile : World → World := fun world => world) (unsent : Option Unsent := none) :
    Except DriverError Unit × Instance × World :=
  let (i, world) := i.poll world
  match i.status with
  | .running =>
    match unsent with
    | none =>
      let (i, world) := i.signal (meanwhile world)
      let (i, world) := i.poll (meanwhile world)
      (.ok (), i, world)
    | some .gone =>
      let (i, world) := i.poll (meanwhile world)
      (.error (.alreadyExited id), i, world)
    | some (.refused reason) => (.error (.io id.text (.refused reason)), i, meanwhile world)
  | _ => (.error (.alreadyExited id), i, world)

/-- Waits until the process is gone.  A signal that was sent to it takes effect by then; this is for
instances that have ended or were killed. -/
def reap (i : Instance) (world : World) : Instance × World :=
  if i.reaped then (i, world)
  else
    match (world.host.deliver i.process).tryWait i.process with
    | (none, host) => (i, { world with host })
    | (some status, host) =>
      let i := { i with reaped := true }
      let world := { world with host }
      match i.status with
      | .running => i.terminate (.exited status.code) world
      | _ => (i, world)

/-! ## Pipes -/

/-- A handle of the input, as long as the instance is running and the input was not given up: after
it was handed out, some handle of it must still be held. -/
def inputPipe (i : Instance) (world : World) : Option WriteHandle × Instance × World :=
  match i.input with
  | .owned pipe => (some pipe, { i with input := .lent pipe }, world)
  | .lent pipe =>
    if world.isAlive pipe then (some pipe, i, world.holdSink pipe) else (none, i, world)
  | .released => (none, i, world)

/-- A handle of the output, as long as the instance is running. -/
def outputPipe (i : Instance) (world : World) : Option ReadHandle × World :=
  match i.output with
  | some pipe => (some pipe, world.holdSource pipe)
  | none => (none, world)

end Instance

end AlgorithmDriver
