/-!
# Command lines

What the arguments of the command line ask for.  The first argument names what is to be done, and
options with values follow it.

Options are read from left to right.  A question about the version or for help is answered as soon
as it is met; what is missing or repeated is found out when all arguments have been read.
-/

namespace AlgorithmDriver.CommandLine

/-! ## Requests -/

/-- How an algorithm is to be run. -/
structure RunOptions where
  /-- The directory with the algorithms. -/
  directory : String := "./algorithms"
  name : String
  /-- The file that the algorithm gets to read. -/
  input : Option String := none
  /-- The file that gets what the algorithm writes. -/
  output : Option String := none
  deriving DecidableEq, Repr

/-- What a command line asks for. -/
inductive Action where
  /-- Checks the description of an interface. -/
  | lint (interface : String)
  /-- Prints the declarations of an interface. -/
  | generate (interface : String)
  | run (options : RunOptions)
  /-- Tells the version, under the given name. -/
  | version (name : String)
  | help
  deriving DecidableEq, Repr

/-- Why a command line makes no sense. -/
inductive Misuse where
  /-- It does not say what to do. -/
  | noAction
  | unknownAction (name : String)
  | unknownOption (text : String)
  | unexpectedValue (text : String)
  | missingValue (option : String)
  | repeatedOption (option : String)
  | missingOption (option : String)
  deriving DecidableEq, Repr

/-- The name of the program. -/
def programName : String := "turingarena-driver"

/-- The version of the program. -/
def versionNumber : String := "0.1.0"

/-- The file that describes the interface, unless another one is named. -/
def defaultInterface : String := "./interface.json"

/-! ## Scanning options -/

/-- An option as it was met, with its value if it got one. -/
abbrev Occurrence := String × Option String

/-- What was found among the arguments. -/
inductive Scan where
  | options (occurrences : List Occurrence)
  | version
  | help
  deriving DecidableEq, Repr

/-- A long option: its name, and the value that follows an equals sign.  Further equals signs before
the value are passed over, as are further dashes before the name. -/
def splitLong (argument : List Char) : String × Option String :=
  let text := argument.dropWhile (· = '-')
  let name := text.takeWhile (· ≠ '=')
  let rest := text.drop name.length
  (String.ofList name,
    if rest.isEmpty then none else some (String.ofList (rest.dropWhile (· = '='))))

/-- Reads options.  `pending` is one that was met and may get the next argument as its value. -/
def scan (known : List String) (occurrences : List Occurrence) :
    (pending : Option String) → List String → Except Misuse Scan
  | pending, [] =>
    .ok (.options (occurrences ++ (pending.map fun name => (name, none)).toList))
  | pending, argument :: rest =>
    let settled := occurrences ++ (pending.map fun name => (name, none)).toList
    match argument.toList with
    | ['-', '-'] =>
      match rest with
      | [] => .ok (.options settled)
      | text :: _ => .error (.unexpectedValue text)
    | '-' :: '-' :: more =>
      match splitLong more with
      | (name, value) =>
        if known.contains name then
          match value with
          | some value => scan known (settled ++ [(name, some value)]) none rest
          | none => scan known settled (some name) rest
        else if name = "version" then .ok .version
        else if name = "help" then .ok .help
        else .error (.unknownOption argument)
    | '-' :: letter :: _ =>
      if letter = 'V' then .ok .version
      else if letter = 'h' then .ok .help
      else .error (.unknownOption argument)
    | _ =>
      match pending with
      | some name => scan known (occurrences ++ [(name, some argument)]) none rest
      | none => .error (.unexpectedValue argument)

/-! ## Options of an action -/

/-- The value of an option, if it was given once. -/
def single (occurrences : List Occurrence) (option : String) : Except Misuse (Option String) :=
  match (occurrences.filter (·.1 = option)).map Prod.snd with
  | [] => .ok none
  | [some value] => .ok (some value)
  | [none] => .error (.missingValue option)
  | _ => .error (.repeatedOption option)

/-- The options of an action on an interface. -/
def interfaceOptions : List String := ["interface"]

/-- The options of a run. -/
def runOptions : List String := ["algorithms-dir", "name", "input", "output"]

/-- The file of an interface, as options give it. -/
def readInterfacePath (occurrences : List Occurrence) : Except Misuse String := do
  return (← single occurrences "interface").getD defaultInterface

/-- How to run an algorithm, as options give it. -/
def readRunOptions (occurrences : List Occurrence) : Except Misuse RunOptions := do
  let directory ← single occurrences "algorithms-dir"
  let name ← single occurrences "name"
  let input ← single occurrences "input"
  let output ← single occurrences "output"
  match name with
  | none => throw (.missingOption "name")
  | some name =>
    let options : RunOptions := { name, input, output }
    return match directory with
      | some directory => { options with directory }
      | none => options

/-- Reads the options of an action. -/
def readOptions (action : String) (known : List String) (arguments : List String)
    (make : List Occurrence → Except Misuse Action) : Except Misuse Action := do
  match ← scan known [] none arguments with
  | .version => return .version (programName ++ "-" ++ action)
  | .help => return .help
  | .options occurrences => make occurrences

/-! ## Arguments -/

/-- What the arguments ask for. -/
def parse : List String → Except Misuse Action
  | [] => .error .noAction
  | argument :: rest =>
    match argument with
    | "lint" =>
      readOptions argument interfaceOptions rest fun o => return .lint (← readInterfacePath o)
    | "gen" =>
      readOptions argument interfaceOptions rest fun o => return .generate (← readInterfacePath o)
    | "run" => readOptions argument runOptions rest fun o => return .run (← readRunOptions o)
    | "help" => .ok .help
    | argument =>
      if argument.toList.head? ≠ some '-' then .error (.unknownAction argument)
      else
        match scan [] [] none [argument] with
        | .error e => .error e
        | .ok .version => .ok (.version programName)
        | .ok .help => .ok .help
        | .ok (.options _) => .error .noAction

/-! ## Wording -/

/-- The wording of a misuse. -/
def Misuse.message : Misuse → String
  | noAction => "it has to be said what to do"
  | unknownAction name => "there is no action " ++ name
  | unknownOption text => "there is no option " ++ text
  | unexpectedValue text => "nothing is known about " ++ text
  | missingValue option => "the option --" ++ option ++ " needs a value"
  | repeatedOption option => "the option --" ++ option ++ " can be given only once"
  | missingOption option => "the option --" ++ option ++ " has to be given"

/-- How the program is used. -/
def usage : String :=
  "USAGE:\n    " ++ programName ++ " <ACTION> [OPTIONS]\n\n" ++
  "ACTIONS:\n" ++
  "    lint    Checks that an interface description is correct\n" ++
  "    gen     Generates C++ declarations for an interface\n" ++
  "    run     Runs an algorithm, feeding it a file and saving its output\n\n" ++
  "OPTIONS:\n" ++
  "    --interface <file>         for lint and gen, default " ++ defaultInterface ++ "\n" ++
  "    --algorithms-dir <dir>     for run, default ./algorithms\n" ++
  "    --name <name>              for run\n" ++
  "    --input <file>             for run\n" ++
  "    --output <file>            for run\n"

end AlgorithmDriver.CommandLine
