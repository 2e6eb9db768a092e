import AlgorithmDriver.Driver.Wait

/-!
# Sessions

A session drives some drivers step by step.  It keeps the handles that it was given in named slots:
storing a handle in a slot drops the one that was there.  Before each step, all processes run until
they wait for something.
-/

namespace AlgorithmDriver

/-- A handle of a stream of either direction. -/
inductive Handle where
  | read (handle : ReadHandle)
  | write (handle : WriteHandle)
  deriving DecidableEq, Repr

/-- A step of a session.  Those of the first part are about a driver. -/
inductive Operation where
  | start (name : String)
  /-- Starts an algorithm several times. -/
  | startMany (name : String) (count : Nat)
  | status (id : AlgorithmId)
  | wait (id : AlgorithmId)
  | kill (id : AlgorithmId)
  | input (id : AlgorithmId) (slot : String)
  | output (id : AlgorithmId) (slot : String)
  | openRead (path : String)
  | openWrite (path : String)
  | readPipe (id : ReadFileId) (slot : String)
  | writePipe (id : WriteFileId) (slot : String)
  | closeRead (id : ReadFileId)
  | closeWrite (id : WriteFileId)
  | openHandles
  | closeAll
  | resolve (name : String)
  | config
  | inspect
  | copyHandle (source slot : String)
  | drop (slot : String)
  | isOpen (slot : String)
  | close (slot : String)
  | write (slot : String) (data : Bytes)
  | writeOnce (slot : String) (data : Bytes)
  | flush (slot : String)
  | read (slot : String) (count : Nat)
  | readExact (slot : String) (count : Nat)
  | readLine (slot : String)
  | readAll (slot : String)
  | copy (source sink : String)
  /-- What a file holds, read past the drivers. -/
  | disk (path : String)
  deriving DecidableEq, Repr

/-- An instance as it was last observed. -/
structure Observation where
  status : Status
  /-- The driver's hold on its input. -/
  input : String
  hasOutput : Bool
  deriving DecidableEq, Repr

/-- The answer to a step. -/
inductive Answer where
  | done
  | success (flag : Bool)
  /-- There is no pipe. -/
  | nothing
  | id (raw : Nat)
  | ids (raws : List Nat)
  | status (status : Status)
  | handles (handles : OpenHandles)
  | command (command : Command)
  | config (config : Config)
  | instances (instances : List Observation)
  | openness (isOpen : Bool) (description : String)
  | count (n : Nat)
  | data (bytes : Bytes)
  | counted (n : Nat) (bytes : Bytes)
  | content (content : Option Bytes)
  | refused (error : DriverError)
  | failed (error : StreamError)
  /-- The step makes no sense: an empty slot, or a handle of the wrong direction. -/
  | unusable
  deriving DecidableEq, Repr

/-- A session. -/
structure Session where
  drivers : List Driver
  world : World
  slots : List (String × Handle) := []

namespace Session

/-! ## Slots -/

/-- Drops a handle. -/
def dropHandle (world : World) : Handle → World
  | .read handle => world.dropSource handle
  | .write handle => world.dropSink handle

/-- The handle in a slot. -/
def slot? (session : Session) (slot : String) : Option Handle := session.slots.lookup slot

/-- Empties a slot. -/
def clear (session : Session) (slot : String) : Session :=
  match session.slot? slot with
  | none => session
  | some handle =>
    { session with
      world := dropHandle session.world handle
      slots := session.slots.filter (·.1 ≠ slot) }

/-- Stores a handle in a slot. -/
def store (session : Session) (slot : String) (handle : Handle) : Session :=
  let session := session.clear slot
  { session with slots := session.slots ++ [(slot, handle)] }

/-! ## Inspection -/

/-- How a truth value is shown. -/
def describeFlag (flag : Bool) : String := if flag then "true" else "false"

/-- How a handle is shown. -/
def describe (world : World) : Handle → String
  | .read handle => "ReadPipe \x7b open: " ++ describeFlag (world.isReadable handle) ++ " \x7d"
  | .write handle => "WritePipe \x7b open: " ++ describeFlag (world.isWritable handle) ++ " \x7d"

/-- How the driver's hold on an input is shown. -/
def describeInput (world : World) : Input → String
  | .owned pipe => "Owned(" ++ describe world (.write pipe) ++ ")"
  | .lent pipe => "Lent(WeakWritePipe \x7b alive: " ++ describeFlag (world.isAlive pipe) ++ " \x7d)"
  | .released => "Released"

/-- An instance as it was last observed. -/
def observe (world : World) (i : Instance) : Observation :=
  { status := i.status, input := describeInput world i.input, hasOutput := i.output.isSome }

/-! ## Steps on a driver -/

/-- The answer to an operation that returns nothing or an error. -/
def answerUnit : Except DriverError Unit → Answer
  | .ok () => .done
  | .error e => .refused e

/-- The answer to an operation that returns an id or an error. -/
def answerId {resource : Resource} : Except DriverError (Id resource) → Answer
  | .ok id => .id id.raw
  | .error e => .refused e

/-- Starts an algorithm several times. -/
def startMany (name : String) :
    Nat → Driver → World → Except DriverError (List Nat) × Driver × World
  | 0, driver, world => (.ok [], driver, world)
  | count + 1, driver, world =>
    match driver.start name world with
    | (.error e, driver, world) => (.error e, driver, world)
    | (.ok id, driver, world) =>
      let (r, driver, world) := startMany name count driver world
      (r.map (id.raw :: ·), driver, world)

/-- Does a step on a driver that stores no handle. -/
def onDriver (driver : Driver) (world : World) : Operation → Answer × Driver × World
  | .start name =>
    let (r, driver, world) := driver.start name world
    (answerId r, driver, world)
  | .startMany name count =>
    let (r, driver, world) := startMany name count driver world
    (match r with
      | .ok raws => .ids raws
      | .error e => .refused e, driver, world)
  | .status id =>
    let (s, driver, world) := driver.status id world
    (.status s, driver, world)
  | .wait id =>
    let (s, driver, world) := driver.wait id world
    (.status (s.getD .running), driver, world)
  | .kill id =>
    let (r, driver, world) := driver.kill id world
    (answerUnit r, driver, world)
  | .openRead path =>
    let (r, driver, world) := driver.openRead path world
    (answerId r, driver, world)
  | .openWrite path =>
    let (r, driver, world) := driver.openWrite path world
    (answerId r, driver, world)
  | .closeRead id =>
    let (r, driver, world) := driver.closeRead id world
    (answerUnit r, driver, world)
  | .closeWrite id =>
    let (r, driver, world) := driver.closeWrite id world
    (answerUnit r, driver, world)
  | .openHandles =>
    let (handles, driver, world) := driver.openHandles world
    (.handles handles, driver, world)
  | .closeAll =>
    let (driver, world) := driver.closeAll world
    (.done, driver, world)
  | .resolve name =>
    (match driver.config.resolve world.host name with
      | .ok command => .command command
      | .error e => .refused e, driver, world)
  | .config => (.config driver.config, driver, world)
  | .inspect =>
    (.instances (driver.algorithms.toList.map fun (_, i) => observe world i), driver, world)
  | _ => (.unusable, driver, world)

/-- Asks a driver for a handle. -/
def handleFrom (driver : Driver) (world : World) :
    Operation → Option (Except DriverError (Option (String × Handle)) × Driver × World)
  | .input id slot =>
    let (pipe, driver, world) := driver.inputPipe id world
    some (.ok (pipe.map fun pipe => (slot, .write pipe)), driver, world)
  | .output id slot =>
    let (pipe, driver, world) := driver.outputPipe id world
    some (.ok (pipe.map fun pipe => (slot, .read pipe)), driver, world)
  | .readPipe id slot =>
    let (r, world) := driver.readPipe id world
    some (r.map fun pipe => some (slot, .read pipe), driver, world)
  | .writePipe id slot =>
    let (r, world) := driver.writePipe id world
    some (r.map fun pipe => some (slot, .write pipe), driver, world)
  | _ => none

/-! ## Steps on handles -/

/-- Does a step that reads through a handle. -/
def onReader (world : World) (handle : ReadHandle) : Operation → Answer × World
  | .close _ => (.done, world.closeSource handle)
  | .read _ count =>
    match world.readOnce handle count with
    | (.ok bytes, world) => (.counted bytes.length bytes, world)
    | (.error e, world) => (.failed e, world)
  | .readExact _ count =>
    match world.readExact handle count with
    | (.ok bytes, world) => (.data bytes, world)
    | (.error e, world) => (.failed e, world)
  | .readLine _ =>
    match world.readLine handle with
    | (.ok bytes, world) => (.data bytes, world)
    | (.error e, world) => (.failed e, world)
  | .readAll _ =>
    match world.readAll handle with
    | (.ok bytes, world) => (.counted bytes.length bytes, world)
    | (.error e, world) => (.failed e, world)
  | _ => (.unusable, world)

/-- The answer to an operation on a handle that returns nothing or an error. -/
def answerStream : Except StreamError Unit → Answer
  | .ok () => .done
  | .error e => .failed e

/-- Does a step that writes through a handle. -/
def onWriter (world : World) (handle : WriteHandle) : Operation → Answer × World
  | .close _ =>
    let (r, world) := world.closeSink handle
    (answerStream r, world)
  | .write _ data =>
    let (r, world) := world.writeAll handle data
    (answerStream r, world)
  | .writeOnce _ data =>
    match world.writeOnce handle data with
    | (.ok n, world) => (.count n, world)
    | (.error e, world) => (.failed e, world)
  | .flush _ =>
    let (r, world) := world.flush handle
    (answerStream r, world)
  | _ => (.unusable, world)

/-- The slot that a step on a handle is about. -/
def slotOf? : Operation → Option String
  | .isOpen slot => some slot
  | .close slot => some slot
  | .write slot _ => some slot
  | .writeOnce slot _ => some slot
  | .flush slot => some slot
  | .read slot _ => some slot
  | .readExact slot _ => some slot
  | .readLine slot => some slot
  | .readAll slot => some slot
  | _ => none

/-- Does a step through a handle. -/
def onHandle (world : World) (handle : Handle) (operation : Operation) : Answer × World :=
  match operation, handle with
  | .isOpen _, .read h => (.openness (world.isReadable h) (describe world handle), world)
  | .isOpen _, .write h => (.openness (world.isWritable h) (describe world handle), world)
  | operation, .read h => onReader world h operation
  | operation, .write h => onWriter world h operation

/-! ## Steps -/

/-- What a file holds.  Nothing is in the null device, and other devices have no end. -/
def disk (host : Host) (path : String) : Option Bytes :=
  match host.files.find host.directory path with
  | .error _ => none
  | .ok node =>
    match host.files.get? node with
    | some (.file content _) => some content
    | some (.device .null) => some []
    | _ => none

/-- Copies the handle in one slot to another. -/
def copyHandle (session : Session) (source slot : String) : Answer × Session :=
  match session.slot? source with
  | none => (.unusable, session)
  | some handle =>
    let world :=
      match handle with
      | .read h => session.world.holdSource h
      | .write h => session.world.holdSink h
    (.success true, { session with world }.store slot handle)

/-- Copies from the stream of one slot to that of another. -/
def copyStream (session : Session) (source sink : String) : Answer × Session :=
  match session.slot? source, session.slot? sink with
  | some (.read source), some (.write sink) =>
    match session.world.copy source sink with
    | (.ok n, world) => (.count n, { session with world })
    | (.error e, world) => (.failed e, { session with world })
  | _, _ => (.unusable, session)

/-- Does a step on the driver of the given number. -/
def stepDriver (session : Session) (number : Nat) (operation : Operation) : Answer × Session :=
  match session.drivers[number]? with
  | none => (.unusable, session)
  | some driver =>
    match handleFrom driver session.world operation with
    | some (r, driver, world) =>
      let session := { session with drivers := session.drivers.set number driver, world }
      match r with
      | .error e => (.refused e, session)
      | .ok none => (.nothing, session)
      | .ok (some (slot, handle)) => (.success true, session.store slot handle)
    | none =>
      let (answer, driver, world) := onDriver driver session.world operation
      (answer, { session with drivers := session.drivers.set number driver, world })

/-- Does a step, after the processes have run.  `number` says which driver it is about. -/
def step (session : Session) (number : Nat) (operation : Operation) : Answer × Session :=
  let session := { session with world := session.world.settle }
  match operation with
  | .drop slot => (.success (session.slot? slot).isSome, session.clear slot)
  | .copyHandle source slot => session.copyHandle source slot
  | .copy source sink => session.copyStream source sink
  | .disk path => (.content (disk session.world.host path), session)
  | operation =>
    match slotOf? operation with
    | none => session.stepDriver number operation
    | some slot =>
      match session.slot? slot with
      | none => (.unusable, session)
      | some handle =>
        let (answer, world) := onHandle session.world handle operation
        (answer, { session with world })

/-- Ends a session: the drivers are torn down in order, then all handles are dropped. -/
def finish (session : Session) : World :=
  let world := session.drivers.foldl (fun world driver => (driver.closeAll world).2)
    session.world.settle
  (session.slots.foldl (fun world slot => dropHandle world slot.2) world).settle

end Session

end AlgorithmDriver
