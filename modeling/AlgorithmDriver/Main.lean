import AlgorithmDriver.CommandLine.Supply

/-!
# The program

Looks up what a command needs, carries the command out, and puts down what it wrote.  All that is
decided is decided by the command line; this module only reads and writes files.
-/

namespace AlgorithmDriver

/-- The number of the failure to read a directory as a file. -/
def directoryRefusal : UInt32 := 21

/-- What is at a place. -/
def lookAt (place : String) : IO CommandLine.Finding := do
  match ← (IO.FS.readBinFile place).toBaseIO with
  | .ok content => return .file content.data.toList
  | .error (.noFileOrDirectory ..) => return .nothing
  | .error (.inappropriateType _ number _) =>
    return if number = directoryRefusal then .directory else .nothing
  | .error failure => throw failure

/-- Carries out an action on a machine that has what the action looks at. -/
def carryOut (action : CommandLine.Action) : IO UInt32 := do
  let places := action.places.filter fun place => !CommandLine.isInstalled place
  let findings ← places.mapM fun place => return (place, ← lookAt place)
  let (code, console) := CommandLine.perform (CommandLine.consoleFor action findings) action
  if let some (path, content) := CommandLine.written? action console then
    IO.FS.writeBinFile path ⟨content.toArray⟩
  (← IO.getStdout).write ⟨console.printed.toArray⟩
  (← IO.getStderr).write ⟨console.complaints.toArray⟩
  return UInt32.ofNat code

end AlgorithmDriver

/-- Carries out what the arguments ask for. -/
def main (arguments : List String) : IO UInt32 := do
  match AlgorithmDriver.CommandLine.parse arguments with
  | .ok action => AlgorithmDriver.carryOut action
  | .error misuse =>
    (← IO.getStderr).putStr (AlgorithmDriver.CommandLine.complaint misuse)
    return UInt32.ofNat AlgorithmDriver.CommandLine.failureCode
