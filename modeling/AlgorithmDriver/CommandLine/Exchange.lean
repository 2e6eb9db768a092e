import AlgorithmDriver.CommandLine.Arguments
import AlgorithmDriver.Driver.Wait

/-!
# Runs of an algorithm

Running an algorithm means to start it, to copy a file to its input while its output is copied to
another file, and to wait for it.  Two parties do this.  The *feeder* copies the input and closes
it; the *main* party does all the rest, and waits for the feeder before it waits for the algorithm.

An `Exchange` is a run under way.  Each party takes one step at a time, as do the processes of the
host, and the steps can come in any order; `conduct` takes them in some order until the run is over.
-/

namespace AlgorithmDriver

namespace CommandLine

/-! ## Copies -/

/-- A copy from one stream to another that is under way. -/
structure Transfer where
  source : ReadHandle
  sink : WriteHandle
  /-- What was read and is still to be written. -/
  pending : Bytes := []
  deriving DecidableEq, Repr

/-- What a step of a copy leads to. -/
inductive Progress where
  | onward (transfer : Transfer)
  /-- Everything is copied, or a read or a write has failed. -/
  | ended (result : Except StreamError Unit)

namespace Transfer

/-- Reads the next piece. -/
def readPiece (t : Transfer) (world : World) : Option (Progress × World) :=
  (world.read t.source bufferSize).map fun
    | (.error e, world) => (.ended (.error e), world)
    | (.ok [], world) => (.ended (.ok ()), world)
    | (.ok bytes, world) => (.onward { t with pending := bytes }, world)

/-- Writes as much of what is pending as the sink takes. -/
def writePiece (t : Transfer) (world : World) : Option (Progress × World) :=
  (world.write t.sink t.pending).map fun
    | (.error e, world) => (.ended (.error e), world)
    | (.ok n, world) => (.onward { t with pending := t.pending.drop n }, world)

/-- Takes a step; `none` when it has to wait. -/
def step (t : Transfer) (world : World) : Option (Progress × World) :=
  if t.pending.isEmpty then t.readPiece world else t.writePiece world

end Transfer

/-! ## Results -/

/-- Why a run failed. -/
inductive RunError where
  | driver (error : DriverError)
  /-- The copying of the output failed. -/
  | stream (error : StreamError)
  | noInput (id : AlgorithmId)
  | noOutput (id : AlgorithmId)
  /-- The algorithm did not end on its own. -/
  | ended (id : AlgorithmId) (status : Status)
  deriving DecidableEq, Repr

namespace RunError

/-- The wording of an error. -/
def message : RunError → String
  | driver error => error.message
  | stream error => error.message
  | noInput id => id.text ++ " exited before reading its input"
  | noOutput id => id.text ++ " exited before writing its output"
  | ended id status => id.text ++ " ended with status " ++ status.text

/-- What caused an error, if there is more to tell. -/
def cause? : RunError → Option String
  | driver error => error.source?.map StreamError.message
  | _ => none

end RunError

/-! ## The parties -/

/-- What the feeder is doing. -/
inductive Feeder where
  | copying (transfer : Transfer)
  | done (result : Except StreamError Unit)

/-- What the main party has to do with. -/
structure Streams where
  id : AlgorithmId
  /-- The output of the algorithm. -/
  fromAlgorithm : ReadHandle
  /-- The channel of the input file. -/
  input : Option ReadFileId := none
  /-- The channel of the output file. -/
  output : Option WriteFileId := none
  deriving DecidableEq, Repr

/-- What the main party does next. -/
inductive Stage where
  | start
  /-- The input of the algorithm is still to be fed or closed. -/
  | openInput (streams : Streams) (toAlgorithm : WriteHandle)
  | openOutput (streams : Streams)
  | collect (streams : Streams) (transfer : Transfer)
  | closeOutput (streams : Streams)
  | awaitFeeder (streams : Streams)
  | awaitAlgorithm (streams : Streams)
  | over (result : Except RunError Nat)

/-- A run under way. -/
structure Exchange where
  options : RunOptions
  driver : Driver
  world : World
  /-- Where the output of the algorithm goes when no file is named. -/
  console : WriteHandle
  stage : Stage := .start
  feeder : Option Feeder := none

namespace Exchange

/-! ## The end -/

/-- Drops the handle of the algorithm's output that a stage holds. -/
def dropOutput (stage : Stage) (world : World) : World :=
  match stage with
  | .openInput streams toAlgorithm =>
    (world.dropSource streams.fromAlgorithm).dropSink toAlgorithm
  | .openOutput streams => world.dropSource streams.fromAlgorithm
  | .collect streams transfer =>
    (world.dropSource streams.fromAlgorithm).dropSink transfer.sink
  | .closeOutput streams => world.dropSource streams.fromAlgorithm
  | .awaitFeeder streams => world.dropSource streams.fromAlgorithm
  | .awaitAlgorithm streams => world.dropSource streams.fromAlgorithm
  | _ => world

/-- Ends a run: the main party drops its handles, and the driver is torn down. -/
def finish (e : Exchange) (result : Except RunError Nat) : Exchange :=
  let (driver, world) := e.driver.closeAll (dropOutput e.stage e.world)
  { e with driver, world, stage := .over result }

/-! ## Steps of the main party -/

/-- Starts the algorithm and takes its pipes. -/
def start (e : Exchange) : Exchange :=
  match e.driver.start e.options.name e.world with
  | (.error error, driver, world) =>
    { e with driver, world }.finish (.error (.driver error))
  | (.ok id, driver, world) =>
    match driver.inputPipe id world with
    | (none, driver, world) => { e with driver, world }.finish (.error (.noInput id))
    | (some toAlgorithm, driver, world) =>
      match driver.outputPipe id world with
      | (none, driver, world) =>
        { e with driver, world := world.dropSink toAlgorithm }.finish (.error (.noOutput id))
      | (some fromAlgorithm, driver, world) =>
        { e with driver, world, stage := .openInput { id, fromAlgorithm } toAlgorithm }

/-- Opens the input file and lets the feeder begin.  Without a file, the algorithm gets an empty
input. -/
def openInput (e : Exchange) (streams : Streams) (toAlgorithm : WriteHandle) : Exchange :=
  match e.options.input with
  | none =>
    let (_, world) := e.world.closeSink toAlgorithm
    { e with world := world.dropSink toAlgorithm, stage := .openOutput streams }
  | some path =>
    match e.driver.openRead path e.world with
    | (.error error, driver, world) => { e with driver, world }.finish (.error (.driver error))
    | (.ok id, driver, world) =>
      match driver.readPipe id world with
      | (.error error, world) => { e with driver, world }.finish (.error (.driver error))
      | (.ok source, world) =>
        { e with
          driver, world
          stage := .openOutput { streams with input := some id }
          feeder := some (.copying { source, sink := toAlgorithm }) }

/-- Opens the output file. -/
def openOutput (e : Exchange) (streams : Streams) : Exchange :=
  match e.options.output with
  | none =>
    { e with
      stage := .collect streams { source := streams.fromAlgorithm, sink := e.console }
      world := e.world.holdSink e.console }
  | some path =>
    match e.driver.openWrite path e.world with
    | (.error error, driver, world) => { e with driver, world }.finish (.error (.driver error))
    | (.ok id, driver, world) =>
      match driver.writePipe id world with
      | (.error error, world) => { e with driver, world }.finish (.error (.driver error))
      | (.ok sink, world) =>
        { e with
          driver, world
          stage := .collect { streams with output := some id }
            { source := streams.fromAlgorithm, sink } }

/-- Copies a piece of the output of the algorithm. -/
def collect (e : Exchange) (streams : Streams) (transfer : Transfer) : Option Exchange :=
  (transfer.step e.world).map fun
    | (.onward transfer, world) => { e with world, stage := .collect streams transfer }
    | (.ended (.ok ()), world) =>
      { e with world := world.dropSink transfer.sink, stage := .closeOutput streams }
    | (.ended (.error error), world) => { e with world }.finish (.error (.stream error))

/-- Closes the output file. -/
def closeOutput (e : Exchange) (streams : Streams) : Exchange :=
  match streams.output with
  | none => { e with stage := .awaitFeeder streams }
  | some id =>
    match e.driver.closeWrite id e.world with
    | (.error error, driver, world) => { e with driver, world }.finish (.error (.driver error))
    | (.ok (), driver, world) => { e with driver, world, stage := .awaitFeeder streams }

/-- Waits for the feeder, and closes the input file.  A feeder that failed is only put on record: an
algorithm need not read all of its input. -/
def awaitFeeder (e : Exchange) (streams : Streams) : Option Exchange :=
  match e.feeder, streams.input with
  | some (.copying _), _ => none
  | some (.done result), some id =>
    let world :=
      match result with
      | .ok () => e.world
      | .error error => e.world.record (.inputNotConsumed streams.id error)
    match e.driver.closeRead id world with
    | (.error error, driver, world) =>
      some ({ e with driver, world }.finish (.error (.driver error)))
    | (.ok (), driver, world) => some { e with driver, world, stage := .awaitAlgorithm streams }
  | _, _ => some { e with stage := .awaitAlgorithm streams }

/-- Waits for the algorithm. -/
def awaitAlgorithm (e : Exchange) (streams : Streams) : Option Exchange :=
  match e.driver.status streams.id e.world with
  | (.running, _, _) => none
  | (.exited code, driver, world) => some ({ e with driver, world }.finish (.ok code))
  | (status, driver, world) =>
    some ({ e with driver, world }.finish (.error (.ended streams.id status)))

/-- Takes a step of the main party; `none` when it has to wait or is done. -/
def mainStep (e : Exchange) : Option Exchange :=
  match e.stage with
  | .start => some e.start
  | .openInput streams toAlgorithm => some (e.openInput streams toAlgorithm)
  | .openOutput streams => some (e.openOutput streams)
  | .collect streams transfer => e.collect streams transfer
  | .closeOutput streams => some (e.closeOutput streams)
  | .awaitFeeder streams => e.awaitFeeder streams
  | .awaitAlgorithm streams => e.awaitAlgorithm streams
  | .over _ => none

/-! ## Steps of the feeder and of processes -/

/-- Takes a step of the feeder; `none` when it has to wait or is done.  When it is done with
copying, for whatever reason, the input of the algorithm is closed. -/
def feederStep (e : Exchange) : Option Exchange :=
  match e.feeder with
  | some (.copying transfer) =>
    (transfer.step e.world).map fun
      | (.onward transfer, world) => { e with world, feeder := some (.copying transfer) }
      | (.ended result, world) =>
        let (_, world) := world.closeSink transfer.sink
        let world := (world.dropSink transfer.sink).dropSource transfer.source
        { e with world, feeder := some (.done result) }
  | _ => none

/-- Who takes a step. -/
inductive Party where
  | main
  | feeder
  | process (number : Nat)
  deriving DecidableEq, Repr

/-- Takes a step of a party; `none` when it has to wait or is done. -/
def step (e : Exchange) : Party → Option Exchange
  | .main => e.mainStep
  | .feeder => e.feederStep
  | .process number =>
    (e.world.host.step number).map fun host => { e with world := { e.world with host } }

/-! ## Conducting a run -/

/-- Takes steps until the run is over.  The processes run when both parties have to wait.  When
nobody can do anything any more, the run is given up. -/
def conduct : (steps : Nat) → Exchange → Exchange
  | 0, e => e
  | steps + 1, e =>
    match e.stage with
    | .over _ => e
    | _ =>
      match e.step .feeder with
      | some e => conduct steps e
      | none =>
        match e.step .main with
        | some e => conduct steps e
        | none =>
          if !e.world.host.isBusy && e.world.host.nextWake?.isNone then e
          else conduct steps { e with world := e.world.advance }

/-- The result of a run, if it is over. -/
def result? (e : Exchange) : Option (Except RunError Nat) :=
  match e.stage with
  | .over result => some result
  | _ => none

end Exchange

end CommandLine

end AlgorithmDriver
