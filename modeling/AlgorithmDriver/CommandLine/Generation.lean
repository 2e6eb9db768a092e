import AlgorithmDriver.Cpp.Declaration
import AlgorithmDriver.Driver.Error
import AlgorithmDriver.Host.Bytes
import AlgorithmDriver.Json.Description

/-!
# Interfaces from files

Checking the file that describes an interface, and printing the declarations of the interface.  Both
read the file in the same way, so they succeed on the same files.
-/

namespace AlgorithmDriver.CommandLine

/-! ## Failures -/

/-- Why the content of a file could not be had as a text. -/
inductive ReadFailure where
  | stream (error : StreamError)
  /-- The bytes spell no text in UTF-8. -/
  | notText
  deriving DecidableEq, Repr

/-- The wording of a failure to read. -/
def ReadFailure.message : ReadFailure → String
  | stream error => error.message
  | notText => "stream did not contain valid UTF-8"

/-- Why an interface could not be had from a file. -/
inductive LoadError where
  | unreadable (path : String) (failure : ReadFailure)
  | invalid (path : String) (problem : Json.Problem)

namespace LoadError

/-- The wording of an error. -/
def message : LoadError → String
  | unreadable path _ => "Cannot read " ++ Text.quoted path
  | invalid path _ => "Invalid interface in " ++ Text.quoted path

/-- What caused an error. -/
def cause : LoadError → String
  | unreadable _ failure => failure.message
  | invalid _ problem => problem.message

end LoadError

/-! ## Documents -/

/-- The interface that a text describes. -/
def interfaceOfText (path text : String) : Except LoadError Interface :=
  match Interface.reader.load text with
  | .ok interface => .ok interface
  | .error problem => .error (.invalid path problem)

/-- The interface that the content of the file at `path` describes. -/
def interfaceOf (path : String) (content : Bytes) : Except LoadError Interface :=
  match Bytes.text? content with
  | none => .error (.unreadable path .notText)
  | some text => interfaceOfText path text

/-- What is said about an interface without errors. -/
def summary (interface : Interface) : String :=
  "Interface " ++ interface.name ++ " with " ++ Decimal.text interface.algorithms.length ++
    " algorithms\n"

/-- Checks the description of an interface. -/
def lint (path : String) (content : Bytes) : Except LoadError String :=
  (interfaceOf path content).map summary

/-- The declarations of an interface. -/
def generate (path : String) (content : Bytes) : Except LoadError String :=
  (interfaceOf path content).map Cpp.renderInterface

end AlgorithmDriver.CommandLine
