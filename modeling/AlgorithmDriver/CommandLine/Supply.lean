import AlgorithmDriver.CommandLine.Basic

/-!
# Supplying the machine

A command takes place on a machine of its own.  Which places it looks at is known from its
arguments, so what is there can be brought to the machine before the command begins, and what it
writes can be taken from the machine when it has ended.
-/

namespace AlgorithmDriver.CommandLine

/-! ## Places -/

/-- The starts of a list that are longer than nothing, the whole list last. -/
def properStarts {α : Type} : List α → List (List α)
  | [] => []
  | a :: rest => [a] :: (properStarts rest).map (a :: ·)

/-- The places that a walk along a path comes by, its end last. -/
def placesAlong (path : String) : List String :=
  let starts := (properStarts (Path.pieces path.toList)).map fun pieces =>
    String.ofList (List.intercalate ['/'] pieces)
  starts.filter (· ≠ "")

/-- The program that a run starts, unless the name of the algorithm leads elsewhere. -/
def RunOptions.program (options : RunOptions) : String := Path.join options.directory options.name

namespace Action

/-- The paths that an action looks at. -/
def paths : Action → List String
  | lint path => [path]
  | generate path => [path]
  | run options => options.program :: options.input.toList ++ options.output.toList
  | version _ => []
  | help => []

/-- The places that have to be as they are elsewhere when an action begins. -/
def places (action : Action) : List String := (action.paths.flatMap placesAlong).eraseDups

/-- Whether the file at a place is run by an action. -/
def executes (action : Action) (place : String) : Bool :=
  match action with
  | run options => options.program == place
  | _ => false

/-- The path of the file that an action writes. -/
def result? : Action → Option String
  | run options => options.output
  | _ => none

end Action

/-! ## What is at a place -/

/-- What was found at a place. -/
inductive Finding where
  | nothing
  | directory
  | file (content : Bytes)
  deriving DecidableEq, Repr

/-- What a finding adds to a machine. -/
def Finding.fixture? (finding : Finding) (place : String) (executable : Bool) : Option Fixture :=
  match finding with
  | nothing => none
  | directory => some (.directory place)
  | file content => some (.file place content executable)

/-- Whether every machine has something at a place.  It is left as it is. -/
def isInstalled (place : String) : Bool :=
  match (Installation.host [] "").files.find (Installation.host [] "").directory place with
  | .ok _ => true
  | .error _ => false

/-- The console of a machine with what was found for an action. -/
def consoleFor (action : Action) (findings : List (String × Finding)) : Console :=
  let fixtures := findings.filterMap fun (place, finding) =>
    finding.fixture? place (action.executes place)
  .ofHost (Installation.host fixtures Installation.standardSearchPath)

/-- The file that an action wrote, with its content. -/
def written? (action : Action) (console : Console) : Option (String × Bytes) :=
  match action.result? with
  | none => none
  | some path =>
    if isInstalled path then none
    else (Session.disk console.world.host path).map fun content => (path, content)

end AlgorithmDriver.CommandLine
