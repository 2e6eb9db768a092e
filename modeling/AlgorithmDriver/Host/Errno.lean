import AlgorithmDriver.Number.Decimal

/-!
# Failures of the host

Every request that is made to the host can fail for one of these reasons.
-/

namespace AlgorithmDriver

/-- Why the host refused a request. -/
inductive Errno where
  | noEntry
  | noProcess
  | argumentsTooLong
  | badFormat
  | badDescriptor
  | noChild
  | permissionDenied
  | notDirectory
  | isDirectory
  | noSpace
  | brokenPipe
  | nameTooLong
  | linkLoop
  deriving DecidableEq, Repr, Inhabited

namespace Errno

/-- The number of a reason. -/
def code : Errno → Nat
  | noEntry => 2
  | noProcess => 3
  | argumentsTooLong => 7
  | badFormat => 8
  | badDescriptor => 9
  | noChild => 10
  | permissionDenied => 13
  | notDirectory => 20
  | isDirectory => 21
  | noSpace => 28
  | brokenPipe => 32
  | nameTooLong => 36
  | linkLoop => 40

/-- The wording of a reason. -/
def text : Errno → String
  | noEntry => "No such file or directory"
  | noProcess => "No such process"
  | argumentsTooLong => "Argument list too long"
  | badFormat => "Exec format error"
  | badDescriptor => "Bad file descriptor"
  | noChild => "No child processes"
  | permissionDenied => "Permission denied"
  | notDirectory => "Not a directory"
  | isDirectory => "Is a directory"
  | noSpace => "No space left on device"
  | brokenPipe => "Broken pipe"
  | nameTooLong => "File name too long"
  | linkLoop => "Too many levels of symbolic links"

/-- The wording of a reason with its number. -/
def message (e : Errno) : String := e.text ++ " (os error " ++ Decimal.text e.code ++ ")"

end Errno

end AlgorithmDriver
