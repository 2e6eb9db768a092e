import AlgorithmDriver.Driver.Basic
import AlgorithmDriver.Host.Schedule

/-!
# Operations that wait

Reading from a pipe, writing to one and waiting for an algorithm can take until some process has
done its part.  Such an operation tries, lets the processes run, and tries again.  When no process
can do anything any more, the operation would wait for ever, and is given up.
-/

namespace AlgorithmDriver

namespace World

/-- Lets the processes run. -/
def settle (world : World) : World := { world with host := world.host.settle }

/-- Lets the processes run, and time pass when all of them wait. -/
def advance (world : World) : World := { world with host := world.host.advance }

/-- How often an operation that has to wait is tried again. -/
def patience : Nat := 20000

/-- Tries until the operation does not have to wait. -/
def waitFor {α : Type} (attempt : World → Option (α × World)) (otherwise : α) :
    (tries : Nat) → World → α × World
  | 0, world => (otherwise, world)
  | tries + 1, world =>
    match attempt world with
    | some outcome => outcome
    | none =>
      let idle := !world.host.isBusy && world.host.nextWake?.isNone
      if idle then (otherwise, world) else waitFor attempt otherwise tries world.advance

/-! ## Reading -/

/-- Reads at most `count` bytes. -/
def readOnce (world : World) (handle : ReadHandle) (count : Nat) :
    Except StreamError Bytes × World :=
  waitFor (fun world => world.read handle count) (.ok []) patience world

/-- The largest number of steps of a loop over a stream. -/
def loopLimit : Nat := 100000000

/-- Reads exactly `count` bytes. -/
def readExact (world : World) (handle : ReadHandle) (count : Nat) :
    Except StreamError Bytes × World :=
  go loopLimit count [] world
where
  go : Nat → Nat → List Bytes → World → Except StreamError Bytes × World
    | 0, _, chunks, world => (.ok chunks.reverse.flatten, world)
    | fuel + 1, count, chunks, world =>
      if count = 0 then (.ok chunks.reverse.flatten, world)
      else
        match world.readOnce handle count with
        | (.error e, world) => (.error e, world)
        | (.ok [], world) => (.error .unexpectedEnd, world)
        | (.ok bytes, world) => go fuel (count - bytes.length) (bytes :: chunks) world

/-- Reads up to the end of the line, byte by byte. -/
def readLine (world : World) (handle : ReadHandle) : Except StreamError Bytes × World :=
  go loopLimit [] world
where
  go : Nat → Bytes → World → Except StreamError Bytes × World
    | 0, line, world => (.ok line.reverse, world)
    | fuel + 1, line, world =>
      match world.readOnce handle 1 with
      | (.error e, world) => (.error e, world)
      | (.ok (b :: _), world) =>
        if b = 10 then (.ok (b :: line).reverse, world) else go fuel (b :: line) world
      | (.ok [], world) => (.ok line.reverse, world)

/-- Reads up to the end. -/
def readAll (world : World) (handle : ReadHandle) : Except StreamError Bytes × World :=
  go loopLimit [] world
where
  go : Nat → List Bytes → World → Except StreamError Bytes × World
    | 0, chunks, world => (.ok chunks.reverse.flatten, world)
    | fuel + 1, chunks, world =>
      match world.readOnce handle bufferSize with
      | (.error e, world) => (.error e, world)
      | (.ok [], world) => (.ok chunks.reverse.flatten, world)
      | (.ok bytes, world) => go fuel (bytes :: chunks) world

/-! ## Writing -/

/-- Whether what is written through a handle stays in a buffer for a while. -/
def isBuffered (world : World) (handle : WriteHandle) : Bool :=
  match world.sink? handle with
  | some { stream := some sink, .. } => sink.capacity > 0
  | _ => false

/-- Makes one write.  A pipe takes all of the data, unless nobody reads from it any more. -/
def writeOnce (world : World) (handle : WriteHandle) (data : Bytes) :
    Except StreamError Nat × World :=
  let attempt (data : Bytes) (world : World) :=
    waitFor (fun world => world.write handle data) (.ok data.length) patience world
  if world.isBuffered handle || data.isEmpty then attempt data world
  else
    let rec go : Nat → Nat → Bytes → World → Except StreamError Nat × World
      | 0, written, _, world => (.ok written, world)
      | fuel + 1, written, data, world =>
        if data.isEmpty then (.ok written, world)
        else
          match attempt data world with
          | (.error e, world) => (if written = 0 then .error e else .ok written, world)
          | (.ok n, world) => go fuel (written + n) (data.drop n) world
    go (data.length + 1) 0 data world

/-- Writes all the data. -/
def writeAll (world : World) (handle : WriteHandle) (data : Bytes) :
    Except StreamError Unit × World :=
  go (data.length + 1) data world
where
  go : Nat → Bytes → World → Except StreamError Unit × World
    | 0, _, world => (.ok (), world)
    | fuel + 1, data, world =>
      if data.isEmpty then (.ok (), world)
      else
        match world.writeOnce handle data with
        | (.error e, world) => (.error e, world)
        | (.ok n, world) => go fuel (data.drop n) world

/-- Copies everything up to the end from one stream to another, and returns how much that was. -/
def copy (world : World) (source : ReadHandle) (sink : WriteHandle) :
    Except StreamError Nat × World :=
  go loopLimit 0 world
where
  go : Nat → Nat → World → Except StreamError Nat × World
    | 0, copied, world => (.ok copied, world)
    | fuel + 1, copied, world =>
      match world.readOnce source bufferSize with
      | (.error e, world) => (.error e, world)
      | (.ok [], world) => (.ok copied, world)
      | (.ok bytes, world) =>
        match world.writeAll sink bytes with
        | (.error e, world) => (.error e, world)
        | (.ok (), world) => go fuel (copied + bytes.length) world

end World

namespace Driver

/-- One look at an instance that is waited for; `none` when there is still something to wait for. -/
def waitOnce (driver : Driver) (id : AlgorithmId) (world : World) :
    Option Status × Driver × World :=
  match driver.status id world with
  | (.running, driver, world) => (none, driver, world)
  | (status, driver, world) => (some status, driver, world)

/-- Waits until an instance has reached a terminal status; `none` when that is given up. -/
def wait (driver : Driver) (id : AlgorithmId) (world : World) : Option Status × Driver × World :=
  go World.patience driver world
where
  go : Nat → Driver → World → Option Status × Driver × World
    | 0, driver, world => (none, driver, world)
    | fuel + 1, driver, world =>
      match driver.waitOnce id world with
      | (none, driver, world) =>
        let idle := !world.host.isBusy && world.host.nextWake?.isNone
        if idle then (none, driver, world) else go fuel driver world.advance
      | outcome => outcome

end Driver

end AlgorithmDriver
