import AlgorithmDriver.Driver.Error
import AlgorithmDriver.Host.Basic

/-!
# Streams

The ends of pipes and files that the driver reads from and writes to.  Files are buffered: what is
written to a sink may stay in it until it is flushed, and a source may have read more than it was
asked for.  Pipes of processes are not buffered.

A read or a write that would have to wait for another process gives `none` and changes nothing.
-/

namespace AlgorithmDriver

/-- The size of the buffers of file streams. -/
def bufferSize : Nat := 8192

/-! ## Sources -/

/-- A stream to read from. -/
structure Source where
  /-- The description that is read. -/
  description : Nat
  /-- The size of the buffer, zero if there is none. -/
  capacity : Nat
  /-- What was read from the description but not yet asked for. -/
  pending : Bytes := []
  deriving DecidableEq, Repr

namespace Source

/-- Reads at most `count` bytes from the description itself. -/
def readDirect (source : Source) (host : Host) (count : Nat) :
    Option (Except StreamError Bytes × Source × Host) :=
  (host.read source.description count).map fun
    | (.ok bytes, host) => (.ok bytes, source, host)
    | (.error e, host) => (.error (.refused e), source, host)

/-- Reads at most `count` bytes.  An empty buffer is passed by when at least as much is asked for as
it holds, and else filled first. -/
def read (source : Source) (host : Host) (count : Nat) :
    Option (Except StreamError Bytes × Source × Host) :=
  if source.pending.isEmpty && count ≥ source.capacity then source.readDirect host count
  else if source.pending.isEmpty then
    (host.read source.description source.capacity).map fun
      | (.ok bytes, host) =>
        (.ok (bytes.take count), { source with pending := bytes.drop count }, host)
      | (.error e, host) => (.error (.refused e), source, host)
  else
    some (.ok (source.pending.take count),
      { source with pending := source.pending.drop count }, host)

end Source

/-! ## Sinks -/

/-- A stream to write to. -/
structure Sink where
  /-- The description that is written. -/
  description : Nat
  /-- The size of the buffer, zero if there is none. -/
  capacity : Nat
  /-- What was accepted but not yet written to the description. -/
  pending : Bytes := []
  deriving DecidableEq, Repr

namespace Sink

/-- Writes to the description itself. -/
def writeDirect (sink : Sink) (host : Host) (data : Bytes) :
    Option (Except StreamError Nat × Sink × Host) :=
  (host.write sink.description data).map fun
    | (.ok n, host) => (.ok n, sink, host)
    | (.error e, host) => (.error (.refused e), sink, host)

/-- Writes what is pending to the description.  Only files are buffered, and a file never makes a
writer wait; it takes all that it is given. -/
def flush (sink : Sink) (host : Host) : Except StreamError Unit × Sink × Host :=
  if sink.pending.isEmpty then (.ok (), sink, host)
  else
    match host.write sink.description sink.pending with
    | none => (.ok (), sink, host)
    | some (.error e, host) => (.error (.refused e), sink, host)
    | some (.ok n, host) => (.ok (), { sink with pending := sink.pending.drop n }, host)

/-- Writes data, and returns how much of it was accepted.  The buffer is flushed when the data does
not fit into what is free of it; data that is at least as large as the buffer is not buffered. -/
def write (sink : Sink) (host : Host) (data : Bytes) :
    Option (Except StreamError Nat × Sink × Host) :=
  if sink.capacity = 0 then sink.writeDirect host data
  else
    let free := sink.capacity - sink.pending.length
    if data.length < free then
      some (.ok data.length, { sink with pending := sink.pending ++ data }, host)
    else
      match if data.length > free then sink.flush host else (.ok (), sink, host) with
      | (.error e, sink, host) => some (.error e, sink, host)
      | (.ok (), sink, host) =>
        if data.length ≥ sink.capacity then sink.writeDirect host data
        else some (.ok data.length, { sink with pending := sink.pending ++ data }, host)

end Sink

end AlgorithmDriver
