import AlgorithmDriver.Driver.Error
import AlgorithmDriver.Host.Execute

/-!
# Configuration

How a driver finds the program to run for an algorithm.  Registered algorithms come first; their
programs may be given by a bare name, which is looked up in the search path of the host.  All others
are executables in one directory, each named after its algorithm.
-/

namespace AlgorithmDriver

/-- How to start an algorithm. -/
structure Command where
  program : String
  arguments : List String := []
  deriving DecidableEq, Repr

/-- Where the standard error of algorithms goes. -/
inductive ErrorPolicy where
  /-- Where that of the driver goes. -/
  | inherit
  | discard
  deriving DecidableEq, Repr

/-- The configuration of a driver. -/
structure Config where
  /-- The directory with one executable for each algorithm. -/
  directory : Option String := none
  /-- The registered algorithms. -/
  registrations : List (String × Command) := []
  errors : ErrorPolicy := .inherit
  /-- The time between two looks at an algorithm that is waited for, in milliseconds. -/
  pollInterval : Nat := 10
  deriving DecidableEq, Repr

/-! ## Searching programs -/

namespace Host

/-- The value of a variable of the driver's environment. -/
def environmentValue? (host : Host) (name : String) : Option String :=
  (host.environment.lookup (Bytes.ofText name)).bind Bytes.text?

/-- The search path of the driver. -/
def searchPath (host : Host) : String := (host.environmentValue? "PATH").getD ""

/-- The path of the directory in which the driver works. -/
def workingDirectory (host : Host) : String :=
  host.files.pathOf host.files.nodes.length host.directory

/-- The places where a program of the given name could be: the path itself, when it has several
components or is absolute, and else the entries of the search path. -/
def candidates (host : Host) (program : String) : List String :=
  let base := host.workingDirectory
  if Path.hasSeveralComponents program || Path.isAbsolute program then [Path.absolute base program]
  else (Path.searchEntries host.searchPath).map fun entry =>
    Path.join (Path.absolute base entry) program

/-- The first executable file among the places where a program could be. -/
def which? (host : Host) (program : String) : Option String :=
  (host.candidates program).find? (host.files.isExecutable host.directory)

end Host

/-! ## Finding the command of an algorithm -/

namespace Config

/-- Registers an algorithm.  An earlier registration of the name is replaced. -/
def register (config : Config) (name : String) (command : Command) : Config :=
  { config with
    registrations := config.registrations.filter (·.1 ≠ name) ++ [(name, command)] }

/-- The command of the algorithm `name`. -/
def resolve (config : Config) (host : Host) (name : String) : Except DriverError Command :=
  match config.registrations.lookup name with
  | some command =>
    match host.which? command.program with
    | some program => .ok { command with program }
    | none => .error (.notFound ("program " ++ Text.quoted command.program))
  | none =>
    match config.directory with
    | none => .error (.notFound (DriverError.describeAlgorithm name))
    | some directory =>
      if !Path.isPlainName name then .error (.notFound (DriverError.describeAlgorithm name))
      else
        let program := Path.join directory name
        if host.files.isFile host.directory program then .ok { program }
        else
          .error (.notFound
            (DriverError.describeAlgorithm name ++ " in " ++ Text.quoted directory))

end Config

end AlgorithmDriver
