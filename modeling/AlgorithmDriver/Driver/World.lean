import AlgorithmDriver.Driver.Log
import AlgorithmDriver.Driver.Stream

/-!
# Handles

A handle is a shared reference to a stream.  Copying a handle does not copy the stream: closing any
of its handles closes it for all of them, and what is tried afterwards fails.  A stream is also
released when its last handle is dropped, the driver's own included.

The `World` holds the streams, and whatever else all drivers have in common: the host and the log.
-/

namespace AlgorithmDriver

/-- A stream with the number of its handles. -/
structure Shared (α : Type) where
  /-- The stream, until it is closed. -/
  stream : Option α
  /-- How many handles refer to it. -/
  holders : Nat := 1
  deriving DecidableEq, Repr

/-- A handle of a stream to read from. -/
structure ReadHandle where
  number : Nat
  deriving DecidableEq, Repr

/-- A handle of a stream to write to. -/
structure WriteHandle where
  number : Nat
  deriving DecidableEq, Repr

/-- What drivers work on. -/
structure World where
  host : Host
  sources : List (Shared Source) := []
  sinks : List (Shared Sink) := []
  log : List LogEntry := []
  /-- The description of the driver's own standard error. -/
  errors : Nat := 0

namespace World

/-- Puts an entry on record. -/
def record (world : World) (entry : LogEntry) : World :=
  { world with log := world.log ++ [entry] }

/-! ## Reading -/

/-- The first handle of a new stream. -/
def addSource (world : World) (source : Source) : ReadHandle × World :=
  (⟨world.sources.length⟩, { world with sources := world.sources ++ [{ stream := some source }] })

/-- The stream of a handle, with the number of its handles. -/
def source? (world : World) (handle : ReadHandle) : Option (Shared Source) :=
  world.sources[handle.number]?

/-- Changes the stream of a handle. -/
def setSource (world : World) (handle : ReadHandle) (shared : Shared Source) : World :=
  { world with sources := world.sources.set handle.number shared }

/-- Copies a handle. -/
def holdSource (world : World) (handle : ReadHandle) : World :=
  match world.source? handle with
  | none => world
  | some shared => world.setSource handle { shared with holders := shared.holders + 1 }

/-- Whether the stream of a handle is open. -/
def isReadable (world : World) (handle : ReadHandle) : Bool :=
  match world.source? handle with
  | some { stream := some _, .. } => true
  | _ => false

/-- Closes the stream of a handle, for all its handles. -/
def closeSource (world : World) (handle : ReadHandle) : World :=
  match world.source? handle with
  | some { stream := some source, holders } =>
    { world with host := world.host.release source.description }.setSource handle
      { stream := none, holders }
  | _ => world

/-- Drops a handle.  With the last one the stream is released. -/
def dropSource (world : World) (handle : ReadHandle) : World :=
  match world.source? handle with
  | none => world
  | some shared =>
    let world := if shared.holders ≤ 1 then world.closeSource handle else world
    match world.source? handle with
    | none => world
    | some shared => world.setSource handle { shared with holders := shared.holders - 1 }

/-- Reads at most `count` bytes through a handle; `none` when the reader has to wait. -/
def read (world : World) (handle : ReadHandle) (count : Nat) :
    Option (Except StreamError Bytes × World) :=
  match world.source? handle with
  | some { stream := some source, holders } =>
    (source.read world.host count).map fun (r, source, host) =>
      (r, { world with host }.setSource handle { stream := some source, holders })
  | _ => some (.error .closed, world)

/-! ## Writing -/

/-- The first handle of a new stream. -/
def addSink (world : World) (sink : Sink) : WriteHandle × World :=
  (⟨world.sinks.length⟩, { world with sinks := world.sinks ++ [{ stream := some sink }] })

/-- The stream of a handle, with the number of its handles. -/
def sink? (world : World) (handle : WriteHandle) : Option (Shared Sink) :=
  world.sinks[handle.number]?

/-- Changes the stream of a handle. -/
def setSink (world : World) (handle : WriteHandle) (shared : Shared Sink) : World :=
  { world with sinks := world.sinks.set handle.number shared }

/-- Copies a handle. -/
def holdSink (world : World) (handle : WriteHandle) : World :=
  match world.sink? handle with
  | none => world
  | some shared => world.setSink handle { shared with holders := shared.holders + 1 }

/-- Whether the stream of a handle is open. -/
def isWritable (world : World) (handle : WriteHandle) : Bool :=
  match world.sink? handle with
  | some { stream := some _, .. } => true
  | _ => false

/-- Whether some handle still refers to the stream. -/
def isAlive (world : World) (handle : WriteHandle) : Bool :=
  match world.sink? handle with
  | some shared => shared.holders > 0
  | none => false

/-- Closes the stream of a handle, for all its handles.  What is pending is flushed; the stream is
released even if that fails.  Closing twice does nothing. -/
def closeSink (world : World) (handle : WriteHandle) : Except StreamError Unit × World :=
  match world.sink? handle with
  | some { stream := some sink, holders } =>
    let (r, sink, host) := sink.flush world.host
    (r, { world with host := host.release sink.description }.setSink handle
      { stream := none, holders })
  | _ => (.ok (), world)

/-- Drops a handle.  With the last one the stream is released, after what is pending was flushed if
that is possible. -/
def dropSink (world : World) (handle : WriteHandle) : World :=
  match world.sink? handle with
  | none => world
  | some shared =>
    let world := if shared.holders ≤ 1 then (world.closeSink handle).2 else world
    match world.sink? handle with
    | none => world
    | some shared => world.setSink handle { shared with holders := shared.holders - 1 }

/-- Writes data through a handle, and returns how much of it was accepted; `none` when the writer
has to wait. -/
def write (world : World) (handle : WriteHandle) (data : Bytes) :
    Option (Except StreamError Nat × World) :=
  match world.sink? handle with
  | some { stream := some sink, holders } =>
    (sink.write world.host data).map fun (r, sink, host) =>
      (r, { world with host }.setSink handle { stream := some sink, holders })
  | _ => some (.error .closed, world)

/-- Flushes what is pending in the stream of a handle. -/
def flush (world : World) (handle : WriteHandle) : Except StreamError Unit × World :=
  match world.sink? handle with
  | some { stream := some sink, holders } =>
    let (r, sink, host) := sink.flush world.host
    (r, { world with host }.setSink handle { stream := some sink, holders })
  | _ => (.error .closed, world)

end World

end AlgorithmDriver
