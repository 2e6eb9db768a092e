import AlgorithmDriver.Driver.Id
import AlgorithmDriver.Host.Errno
import AlgorithmDriver.Text.Quoted

/-!
# Errors of the driver

Why a read or a write failed, and why an operation of the driver failed.  An operation that fails
concerns a single instance or channel.
-/

namespace AlgorithmDriver

/-! ## Streams and files -/

/-- Why a request for a file or a stream failed. -/
inductive StreamError where
  /-- The host refused. -/
  | refused (reason : Errno)
  /-- The stream was closed. -/
  | closed
  /-- The input ended too early. -/
  | unexpectedEnd
  /-- A path with a NUL character. -/
  | nulInPath
  /-- An argument with a NUL character. -/
  | nulInArgument
  /-- A directory cannot be read like a file. -/
  | isDirectory
  deriving DecidableEq, Repr

namespace StreamError

/-- The wording of a failure. -/
def message : StreamError → String
  | refused reason => reason.message
  | closed => "pipe is closed"
  | unexpectedEnd => "failed to fill whole buffer"
  | nulInPath => "file name contained an unexpected NUL byte"
  | nulInArgument => "nul byte found in provided data"
  | isDirectory => "is a directory"

end StreamError

/-! ## Operations -/

/-- Why an operation of the driver failed. -/
inductive DriverError where
  | notFound (what : String)
  | alreadyExited (id : AlgorithmId)
  | permissionDenied (what : String) (source : StreamError)
  /-- No process could be made for the algorithm. -/
  | resourceExhausted (name : String) (source : StreamError)
  | io (what : String) (source : StreamError)
  deriving DecidableEq, Repr

namespace DriverError

/-- The wording of an error. -/
def message : DriverError → String
  | notFound what => what ++ " not found"
  | alreadyExited id => id.text ++ " already exited"
  | permissionDenied what _ => "permission denied for " ++ what
  | resourceExhausted name _ => "cannot start algorithm `" ++ name ++ "`"
  | io what _ => "I/O error on " ++ what

/-- The failure behind an error. -/
def source? : DriverError → Option StreamError
  | notFound _ => none
  | alreadyExited _ => none
  | permissionDenied _ source => some source
  | resourceExhausted _ source => some source
  | io _ source => some source

/-- How an algorithm is called in messages. -/
def describeAlgorithm (name : String) : String := "algorithm `" ++ name ++ "`"

/-- Classifies a failure to open the file at `path`. -/
def opening (path : String) (source : StreamError) : DriverError :=
  let what := "file " ++ Text.quoted path
  match source with
  | .refused .noEntry => .notFound what
  | .refused .permissionDenied => .permissionDenied what source
  | _ => .io what source

/-- Classifies a failure to start the process of the algorithm `name`.  Only a missing or a
forbidden executable is told apart: anything else means that the host could not make the process. -/
def starting (name : String) (source : StreamError) : DriverError :=
  match source with
  | .refused .noEntry => .notFound (describeAlgorithm name)
  | .refused .permissionDenied => .permissionDenied (describeAlgorithm name) source
  | _ => .resourceExhausted name source

end DriverError

end AlgorithmDriver
