import AlgorithmDriver.CommandLine.Exchange
import AlgorithmDriver.CommandLine.Generation
import AlgorithmDriver.Installation

/-!
# The command line

Carries out what a command line asks for.  The standard output and the standard error are files of
the host, so that what algorithms write to them comes in its place.
-/

namespace AlgorithmDriver.CommandLine

/-! ## Consoles -/

/-- A world with the standard streams of a command. -/
structure Console where
  world : World
  /-- The description of the standard output. -/
  output : Nat
  /-- The file that the standard output goes to. -/
  outputFile : Nat
  /-- The file that the standard error goes to. -/
  errorFile : Nat

namespace Console

/-- The console of a host, with empty files behind its streams. -/
def ofHost (host : Host) : Console :=
  let (outputFile, output, host) := Installation.anonymousFile host []
  let (errorFile, errors, host) := Installation.anonymousFile host []
  { world := { host, errors }, output, outputFile, errorFile }

/-- Writes a text to an open file of the host. -/
def write (console : Console) (description : Nat) (text : String) : Console :=
  match console.world.host.write description (Bytes.ofText text) with
  | some (_, host) => { console with world := { console.world with host } }
  | none => console

/-- Writes a text to the standard output. -/
def print (console : Console) (text : String) : Console := console.write console.output text

/-- Writes a text to the standard error. -/
def complain (console : Console) (text : String) : Console :=
  console.write console.world.errors text

/-- What a file of the console holds. -/
def contentOf (console : Console) (file : Nat) : Bytes :=
  match console.world.host.files.get? file with
  | some (.file content _) => content
  | _ => []

/-- What was written to the standard output. -/
def printed (console : Console) : Bytes := console.contentOf console.outputFile

/-- What was written to the standard error. -/
def complaints (console : Console) : Bytes := console.contentOf console.errorFile

end Console

/-! ## Reports -/

/-- Indents the lines of a text. -/
def indented (text : String) : String :=
  String.ofList (("    ".toList) ++ text.toList.flatMap fun c =>
    if c = '\n' then '\n' :: "    ".toList else [c])

/-- An error as it is reported: its wording, and its cause below it. -/
def report (message : String) : Option String → String
  | none => message ++ "\n"
  | some cause => message ++ "\n\nCaused by:\n" ++ indented cause ++ "\n"

/-! ## Actions -/

/-- The code of a command that failed. -/
def failureCode : Nat := 1

/-- The content of a file, read to its end. -/
def readFile (host : Host) (path : String) : Except ReadFailure Bytes :=
  if Instance.containsNul path then .error (.stream .nulInPath)
  else
    match host.files.find host.directory path with
    | .error e => .error (.stream (.refused e))
    | .ok node =>
      match host.files.get? node with
      | some (.file content _) => .ok content
      | some (.directory ..) => .error (.stream (.refused .isDirectory))
      | _ => .ok []

/-- Does something with the content of the file of an interface, and prints what comes of it. -/
def onInterface (console : Console) (path : String)
    (make : String → Bytes → Except LoadError String) : Nat × Console :=
  let outcome : Except LoadError String :=
    match readFile console.world.host path with
    | .error failure => .error (.unreadable path failure)
    | .ok content => make path content
  match outcome with
  | .ok text => (0, console.print text)
  | .error error => (failureCode, console.complain (report error.message (some error.cause)))

/-- The largest number of steps of a run. -/
def mostSteps : Nat := 100000000

/-- Runs an algorithm. -/
def runAlgorithm (console : Console) (options : RunOptions) : Nat × Console :=
  let config : Config := { directory := some options.directory }
  let (handle, world) := console.world.addSink { description := console.output, capacity := 0 }
  let exchange : Exchange := { options, driver := { config }, world, console := handle }
  let exchange := exchange.conduct mostSteps
  let console := { console with world := exchange.world.settle }
  match exchange.result? with
  | some (.ok code) => (code % 256, console)
  | some (.error error) =>
    (failureCode, { console with world := exchange.world }.complain
      (report error.message error.cause?))
  | none => (failureCode, console)

/-- Carries out an action.  Returns the code with which the program ends. -/
def perform (console : Console) : Action → Nat × Console
  | .lint path => onInterface console path lint
  | .generate path => onInterface console path generate
  | .run options => runAlgorithm console options
  | .version name => (0, console.print (name ++ " " ++ versionNumber ++ "\n"))
  | .help => (0, console.print usage)

/-- What is said about a command line that makes no sense. -/
def complaint (misuse : Misuse) : String := "error: " ++ misuse.message ++ "\n\n" ++ usage

/-- Carries out what arguments ask for, or says how the program is used. -/
def execute (console : Console) (arguments : List String) : Nat × Console :=
  match parse arguments with
  | .ok action => perform console action
  | .error misuse => (failureCode, console.complain (complaint misuse))

end AlgorithmDriver.CommandLine
