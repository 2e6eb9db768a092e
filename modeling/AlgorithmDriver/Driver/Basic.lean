import AlgorithmDriver.Driver.Instance
import AlgorithmDriver.Driver.Table

/-!
# The driver

A driver starts algorithms as processes and hands out handles of their input and output.  It also
opens files as channels to read from or to write to.  All its state lives in three tables, one for
each sort of resource.

Every operation takes the driver and the world and returns both after it.  What several callers do
at once is some sequence of accesses to the tables, each of them a single atomic step, and processes
run in between.  They also run while a table is accessed: an operation that asks the host several
times is given what happens `meanwhile`, which is nothing unless said otherwise.
-/

namespace AlgorithmDriver

/-- A file that is bound to a handle. -/
structure Channel (Handle : Type) where
  path : String
  pipe : Handle
  deriving DecidableEq, Repr

/-- The ids of the resources that are live. -/
structure OpenHandles where
  /-- The instances that are still running. -/
  algorithms : List AlgorithmId
  readFiles : List ReadFileId
  writeFiles : List WriteFileId
  deriving DecidableEq, Repr

/-- Whether no resource is live. -/
def OpenHandles.isEmpty (handles : OpenHandles) : Bool :=
  handles.algorithms.isEmpty && handles.readFiles.isEmpty && handles.writeFiles.isEmpty

/-- A driver. -/
structure Driver where
  config : Config
  algorithms : Table .algorithm Instance := .empty
  readFiles : Table .readFile (Channel ReadHandle) := .empty
  writeFiles : Table .writeFile (Channel WriteHandle) := .empty

namespace Driver

/-! ## Algorithms -/

/-- Starts the process of the algorithm `name`, which is not registered yet. -/
def spawn (driver : Driver) (name : String) (world : World) :
    Except DriverError (Instance × World) :=
  match driver.config.resolve world.host name with
  | .error e => .error e
  | .ok command => Instance.start name command driver.config.errors world

/-- Registers an instance under a fresh id. -/
def register (driver : Driver) (i : Instance) (world : World) : AlgorithmId × Driver × World :=
  let (id, algorithms) := driver.algorithms.insert i
  (id, { driver with algorithms }, world.record (.started i.name id))

/-- Starts the algorithm `name` in a new process. -/
def start (driver : Driver) (name : String) (world : World) :
    Except DriverError AlgorithmId × Driver × World :=
  match driver.spawn name world with
  | .error e => (.error e, driver, world)
  | .ok (i, world) =>
    let (id, driver, world) := driver.register i world
    (.ok id, driver, world)

/-- The status of an instance, as a look at it shows.  Never waits. -/
def status (driver : Driver) (id : AlgorithmId) (world : World) : Status × Driver × World :=
  match driver.algorithms.get? id with
  | none => (.notFound, driver, world)
  | some i =>
    let (i, world) := i.poll world
    (i.status, { driver with algorithms := driver.algorithms.set id i }, world)

/-- Ends an instance by force.  Does not wait for its process to be gone. -/
def kill (driver : Driver) (id : AlgorithmId) (world : World)
    (meanwhile : World → World := fun world => world) (unsent : Option Instance.Unsent := none) :
    Except DriverError Unit × Driver × World :=
  match driver.algorithms.get? id with
  | none => (.error (.notFound id.text), driver, world)
  | some i =>
    let (r, i, world) := i.kill id world meanwhile unsent
    let driver := { driver with algorithms := driver.algorithms.set id i }
    match r with
    | .error e => (.error e, driver, world)
    | .ok () => (.ok (), driver, world.record (.killed id))

/-- A handle of the input of an instance, while it is running.  The handles that were given out own
the stream: dropping all of them ends the input, as closing one does. -/
def inputPipe (driver : Driver) (id : AlgorithmId) (world : World) :
    Option WriteHandle × Driver × World :=
  match driver.algorithms.get? id with
  | none => (none, driver, world)
  | some i =>
    let (pipe, i, world) := i.inputPipe world
    (pipe, { driver with algorithms := driver.algorithms.set id i }, world)

/-- A handle of the output of an instance, while it is running. -/
def outputPipe (driver : Driver) (id : AlgorithmId) (world : World) :
    Option ReadHandle × Driver × World :=
  match driver.algorithms.get? id with
  | none => (none, driver, world)
  | some i =>
    let (pipe, world) := i.outputPipe world
    (pipe, driver, world)

/-! ## Files to read from -/

/-- Opens a file for reading, as a channel that is not registered yet.  A directory can be opened,
but is closed again. -/
def acquireRead (path : String) (world : World) :
    Except DriverError (Channel ReadHandle × World) :=
  if Instance.containsNul path then .error (.opening path .nulInPath)
  else
    match world.host.openRead world.host.directory path with
    | .error e => .error (.opening path (.refused e))
    | .ok (description, host) =>
      if host.isDirectory description then .error (.opening path .isDirectory)
      else
        let world := { world with host }
        let (pipe, world) := world.addSource { description, capacity := bufferSize }
        .ok ({ path, pipe }, world)

/-- Registers a channel to read from under a fresh id. -/
def registerRead (driver : Driver) (channel : Channel ReadHandle) (world : World) :
    ReadFileId × Driver × World :=
  let (id, readFiles) := driver.readFiles.insert channel
  (id, { driver with readFiles }, world.record (.opened channel.path (.read id)))

/-- Opens a file for reading. -/
def openRead (driver : Driver) (path : String) (world : World) :
    Except DriverError ReadFileId × Driver × World :=
  match acquireRead path world with
  | .error e => (.error e, driver, world)
  | .ok (channel, world) =>
    let (id, driver, world) := driver.registerRead channel world
    (.ok id, driver, world)

/-- A handle of a channel to read from. -/
def readPipe (driver : Driver) (id : ReadFileId) (world : World) :
    Except DriverError ReadHandle × World :=
  match driver.readFiles.get? id with
  | none => (.error (.notFound id.text), world)
  | some channel => (.ok channel.pipe, world.holdSource channel.pipe)

/-- Closes a channel to read from. -/
def closeRead (driver : Driver) (id : ReadFileId) (world : World) :
    Except DriverError Unit × Driver × World :=
  match driver.readFiles.get? id with
  | none => (.error (.notFound id.text), driver, world)
  | some channel =>
    let driver := { driver with readFiles := driver.readFiles.remove id }
    let world := (world.closeSource channel.pipe).dropSource channel.pipe
    (.ok (), driver, world.record (.closed (.read id) channel.path))

/-! ## Files to write to -/

/-- Opens a file for writing, as a channel that is not registered yet.  The file is created, or
emptied if it exists. -/
def acquireWrite (path : String) (world : World) :
    Except DriverError (Channel WriteHandle × World) :=
  if Instance.containsNul path then .error (.opening path .nulInPath)
  else
    match world.host.openWrite world.host.directory path .create with
    | .error e => .error (.opening path (.refused e))
    | .ok (description, host) =>
      let world := { world with host }
      let (pipe, world) := world.addSink { description, capacity := bufferSize }
      .ok ({ path, pipe }, world)

/-- Registers a channel to write to under a fresh id. -/
def registerWrite (driver : Driver) (channel : Channel WriteHandle) (world : World) :
    WriteFileId × Driver × World :=
  let (id, writeFiles) := driver.writeFiles.insert channel
  (id, { driver with writeFiles }, world.record (.opened channel.path (.write id)))

/-- Opens a file for writing.  It is created, or emptied if it exists. -/
def openWrite (driver : Driver) (path : String) (world : World) :
    Except DriverError WriteFileId × Driver × World :=
  match acquireWrite path world with
  | .error e => (.error e, driver, world)
  | .ok (channel, world) =>
    let (id, driver, world) := driver.registerWrite channel world
    (.ok id, driver, world)

/-- A handle of a channel to write to. -/
def writePipe (driver : Driver) (id : WriteFileId) (world : World) :
    Except DriverError WriteHandle × World :=
  match driver.writeFiles.get? id with
  | none => (.error (.notFound id.text), world)
  | some channel => (.ok channel.pipe, world.holdSink channel.pipe)

/-- Flushes and closes a channel to write to.  The channel is released even if flushing fails. -/
def closeWrite (driver : Driver) (id : WriteFileId) (world : World) :
    Except DriverError Unit × Driver × World :=
  match driver.writeFiles.get? id with
  | none => (.error (.notFound id.text), driver, world)
  | some channel =>
    let driver := { driver with writeFiles := driver.writeFiles.remove id }
    let (r, world) := world.closeSink channel.pipe
    let world := world.dropSink channel.pipe
    match r with
    | .error e =>
      (.error (.io (id.text ++ " (" ++ Text.quoted channel.path ++ ")") e), driver, world)
    | .ok () => (.ok (), driver, world.record (.closed (.write id) channel.path))

/-! ## All resources -/

/-- Polls one more instance, and adds its id to those of the running ones. -/
def pollNext (meanwhile : World → World) (state : List AlgorithmId × World) (id : AlgorithmId)
    (i : Instance) : Instance × List AlgorithmId × World :=
  let (running, world) := state
  let (i, world) := i.poll (meanwhile world)
  (i, if i.status = .running then running ++ [id] else running, world)

/-- Polls the instances of a table.  Also returns the ids of those that are running. -/
def pollAll (algorithms : Table .algorithm Instance) (world : World)
    (meanwhile : World → World := fun world => world) :
    List AlgorithmId × Table .algorithm Instance × World :=
  let (algorithms, running, world) := algorithms.mapAccum (pollNext meanwhile) ([], world)
  (running, algorithms, world)

/-- The ids of the live resources. -/
def openHandles (driver : Driver) (world : World)
    (meanwhile : World → World := fun world => world) : OpenHandles × Driver × World :=
  let (running, algorithms, world) := pollAll driver.algorithms world meanwhile
  ({ algorithms := running
     readFiles := driver.readFiles.ids
     writeFiles := driver.writeFiles.ids },
    { driver with algorithms }, world)

/-- Kills an instance that was taken out of the table, if it is running. -/
def killLeftover (id : AlgorithmId) (i : Instance) (world : World)
    (meanwhile : World → World := fun world => world) : Instance × World :=
  let (i, world) := i.poll world
  match i.status with
  | .running =>
    match i.kill id (meanwhile (world.record (.killingLeftover id i.name))) meanwhile with
    | (.ok (), i, world) => (i, world)
    | (.error e, i, world) => (i, world.record (.cannotKill id e))
  | _ => (i, world)

/-- Ends an instance that was taken out of the table, and waits for its process. -/
def tearDownInstance (id : AlgorithmId) (i : Instance) (world : World)
    (meanwhile : World → World := fun world => world) : World :=
  let (i, world) := killLeftover id i world meanwhile
  let (i, world) := i.poll (meanwhile world)
  let (i, world) := if i.status.isTerminal then i.reap (meanwhile world) else (i, world)
  i.releasePipes world

/-- Closes a channel to read from that was taken out of the table. -/
def tearDownRead (id : ReadFileId) (channel : Channel ReadHandle) (world : World) : World :=
  let world := world.record (.closingLeftover (.read id) channel.path)
  (world.closeSource channel.pipe).dropSource channel.pipe

/-- Closes a channel to write to that was taken out of the table. -/
def tearDownWrite (id : WriteFileId) (channel : Channel WriteHandle) (world : World) : World :=
  let world := world.record (.closingLeftover (.write id) channel.path)
  let (r, world) := world.closeSink channel.pipe
  let world :=
    match r with
    | .ok () => world
    | .error e => world.record (.cannotFlush id e)
  world.dropSink channel.pipe

/-- Takes all instances out of their table and ends them. -/
def drainAlgorithms (driver : Driver) (world : World) : Driver × World :=
  let (entries, algorithms) := driver.algorithms.drain
  ({ driver with algorithms },
    entries.foldl (fun world (id, i) => tearDownInstance id i world) world)

/-- Takes all channels to read from out of their table and closes them. -/
def drainReads (driver : Driver) (world : World) : Driver × World :=
  let (entries, readFiles) := driver.readFiles.drain
  ({ driver with readFiles },
    entries.foldl (fun world (id, channel) => tearDownRead id channel world) world)

/-- Takes all channels to write to out of their table and closes them. -/
def drainWrites (driver : Driver) (world : World) : Driver × World :=
  let (entries, writeFiles) := driver.writeFiles.drain
  ({ driver with writeFiles },
    entries.foldl (fun world (id, channel) => tearDownWrite id channel world) world)

/-- Ends every running instance and closes every channel.  The tables are emptied one after
another. -/
def closeAll (driver : Driver) (world : World) : Driver × World :=
  let (driver, world) := driver.drainAlgorithms world
  let (driver, world) := driver.drainReads world
  driver.drainWrites world

end Driver

end AlgorithmDriver
