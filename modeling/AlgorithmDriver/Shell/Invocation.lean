import AlgorithmDriver.Shell.Evaluation

/-!
# The shell as a program

How a shell is called: with a text to run, with the file of a script, or with a script on its
standard input.
-/

namespace AlgorithmDriver.Shell

/-- Where the statements come from. -/
inductive Origin where
  | text (chars : List Char)
  | script (path : List Char)
  | standardInput
  deriving DecidableEq, Repr

/-- What a shell is called with. -/
structure Invocation where
  origin : Origin := .standardInput
  /-- The value of the parameter zero. -/
  name : List Char
  parameters : List (List Char) := []
  exitOnError : Bool := false
  refuseUnset : Bool := false
  deriving DecidableEq, Repr

namespace Invocation

/-! ## Arguments -/

/-- The options of a call. -/
structure Options where
  /-- The statements are an argument. -/
  text : Bool := false
  /-- The statements are on the standard input. -/
  input : Bool := false
  exitOnError : Bool := false
  refuseUnset : Bool := false
  deriving DecidableEq, Repr

/-- Options that change nothing here. -/
def idleLetters : List Char :=
  ['a', 'b', 'f', 'i', 'l', 'm', 'n', 'p', 'q', 'v', 'x', 'C', 'I', 'E', 'V']

/-- Reads the letters of an option.  Fails with a letter that is none. -/
def readLetters (options : Options) (on : Bool) : List Char → Except Char Options
  | [] => .ok options
  | letter :: letters =>
    match letter with
    | 'c' => readLetters { options with text := true } on letters
    | 's' => readLetters { options with input := on } on letters
    | 'e' => readLetters { options with exitOnError := on } on letters
    | 'u' => readLetters { options with refuseUnset := on } on letters
    | letter =>
      if idleLetters.contains letter then readLetters options on letters else .error letter

/-- Reads the options at the start of the arguments, and returns the arguments that follow them. -/
def readOptions (options : Options) :
    List (List Char) → Except Char (Options × List (List Char))
  | [] => .ok (options, [])
  | ['-', '-'] :: rest => .ok (options, rest)
  | ['-'] :: rest => .ok (options, rest)
  | ('-' :: letters) :: rest => do readOptions (← readLetters options true letters) rest
  | ('+' :: letter :: letters) :: rest => do
    readOptions (← readLetters options false (letter :: letters)) rest
  | rest => .ok (options, rest)

/-- Why a shell cannot be called like this. -/
inductive Misuse where
  | illegalOption (letter : Char)
  | noText
  deriving DecidableEq, Repr

/-- The wording of a misuse. -/
def Misuse.message : Misuse → String
  | illegalOption letter => "Illegal option -" ++ String.singleton letter
  | noText => "-c requires an argument"

/-- What the arguments of a call ask for.  `called` is the name under which the shell was called. -/
def ofArguments (called : List Char) (arguments : List (List Char)) : Except Misuse Invocation :=
  match readOptions {} arguments with
  | .error letter => .error (.illegalOption letter)
  | .ok (options, rest) =>
    let plain : Invocation :=
      { name := called, exitOnError := options.exitOnError, refuseUnset := options.refuseUnset }
    if options.text then
      match rest with
      | [] => .error .noText
      | [chars] => .ok { plain with origin := .text chars }
      | chars :: name :: parameters =>
        .ok { plain with origin := .text chars, name, parameters }
    else if options.input then .ok { plain with parameters := rest }
    else
      match rest with
      | [] => .ok plain
      | path :: parameters => .ok { plain with origin := .script path, name := path, parameters }

end Invocation

/-! ## Running -/

/-- The variables of the environment that can be variables of the shell. -/
def inherited (environment : List (Bytes × Bytes)) : List (List Char × List Char) :=
  (environment.map fun (name, value) => (Bytes.toChars name, Bytes.toChars value)).filter
    fun (name, _) =>
      !name.isEmpty && Parser.nameAt name = name && name ≠ "IFS".toList

/-- The search path of a shell whose environment has none. -/
def defaultSearchPath : String :=
  "/usr/local/sbin:/usr/local/bin:/usr/sbin:/usr/bin:/sbin:/bin"

/-- The state in which a shell starts. -/
def initialState (invocation : Invocation) (environment : List (Bytes × Bytes)) : State :=
  let bindings := inherited environment
  let path := "PATH".toList
  { bindings :=
      if (bindings.lookup path).isSome then bindings
      else (path, defaultSearchPath.toList) :: bindings
    exported := bindings.map Prod.fst
    name := invocation.name
    parameters := invocation.parameters
    exitOnError := invocation.exitOnError
    refuseUnset := invocation.refuseUnset }

/-- How many bytes of the standard input are read at a time. -/
def inputChunk : Nat := 8192

/-- The lines of a text that have an end, and the rest. -/
def completeLines (text : List Char) : List Char × List Char :=
  let rest := (text.reverse.takeWhile (· ≠ '\n')).reverse
  (text.take (text.length - rest.length), rest)

/-- Runs the statements on the standard input, and reads no more of it than it takes to complete
one.  `text` was read already and starts in the given line; `ended` says that nothing follows it.
Each round runs a statement or reads something. -/
def executeInput : (rounds line : Nat) → (text : List Char) → (ended : Bool) → Run Unit
  | 0, _, _, _ => return
  | rounds + 1, line, text, ended => do
    let more : Run Unit := do
      match ← Run.ask (.read 0 inputChunk) with
      | .data (b :: bytes) =>
        executeInput rounds line (text ++ Bytes.toChars (b :: bytes)) false
      | _ => executeInput rounds line text true
    let (whole, part) := if ended then (text, []) else completeLines text
    if whole.isEmpty then
      if !ended then more
    else
      let ending := line + whole.count '\n'
      match readLine whole ending with
      | .unfinished =>
        if ended then Evaluation.refuseText ending "end of file unexpected" else more
      | .wrong line what => Evaluation.refuseText line what
      | .statement body rest =>
        evaluate {} body
        executeInput rounds (ending - rest.count '\n') (rest ++ part) ended

/-- Runs what a shell was called with. -/
def runOrigin : Origin → Run Unit
  | .text chars => Evaluation.execute evaluate { last := true } chars
  | .script path => do
    match ← Run.ask (.openFile (Bytes.textOfChars path) .read) with
    | .descriptor n =>
      let text ← Run.lift (Program.readToEnd n)
      let _ ← Run.ask (.close n)
      Evaluation.execute evaluate {} (Bytes.toChars text)
    | .failed e =>
      modify fun s => { s with line := 0 }
      Run.fail ("cannot open " ++ String.ofList path ++ ": " ++ Evaluation.openTrouble false e)
    | _ => return
  | .standardInput => executeInput Program.loopLimit 1 [] false

/-- Runs a shell from its start to its end. -/
def runShell (origin : Origin) : Run Unit := do
  match ← Run.ask .ownNumber with
  | .process process => modify fun s => { s with process }
  | _ => pure ()
  Run.assign "PWD".toList (← Builtin.currentDirectory)
  Evaluation.conclude evaluate (runOrigin origin)

/-- The program `sh`. -/
def main : Main := fun arguments => do
  let values := arguments.values.map Bytes.toChars
  let called := values.headD "sh".toList
  match Invocation.ofArguments called (values.drop 1) with
  | .error misuse =>
    let message := called ++ (": 0: " ++ misuse.message ++ "\n").toList
    let _ ← Program.writeAll 2 (Bytes.ofChars message)
    return 2
  | .ok invocation =>
    let (outcome, s) ← (runShell invocation.origin).run.run
      (initialState invocation arguments.environment)
    match outcome with
    | .error (.exit code) => return code
    | _ => return s.status

end AlgorithmDriver.Shell
