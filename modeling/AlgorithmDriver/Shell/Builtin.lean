import AlgorithmDriver.Shell.Format
import AlgorithmDriver.Shell.Test

/-!
# Commands of the shell itself

The commands that the shell carries out without starting a program.  Those that run other commands
are given a way to do so.
-/

namespace AlgorithmDriver.Shell.Builtin

open Run (ask assign complain fail print setStatus value?)

/-- Carries out the commands of a text. -/
abbrev Execute := List Char → Run Unit

/-- A command, as a function of its arguments. -/
abbrev Action := List (List Char) → Run Unit

/-! ## Numbers -/

/-- The number that an argument spells; ends the shell if it spells none. -/
def numberOf (command : String) (text : List Char) : Run Nat := do
  match Arithmetic.natOf 10 text with
  | some n =>
    if n < twoTo 31 then return n
    else fail (command ++ ": Illegal number: " ++ String.ofList text)
  | none => fail (command ++ ": Illegal number: " ++ String.ofList text)

/-! ## Output -/

/-- Prints, and fails if that fails. -/
def output (command : String) (chars : List Char) : Run Unit := do
  match ← print 1 chars with
  | .ok () => setStatus 0
  | .error _ =>
    complain (command ++ ": I/O error").toList
    setStatus 1

/-- The command `echo`. -/
def echo : Action := fun arguments => output "echo" (Format.echo arguments)

/-- The command `printf`. -/
def printf : Action := fun arguments => do
  let arguments := if arguments.head? = some ['-', '-'] then arguments.drop 1 else arguments
  match arguments with
  | [] => fail "printf: usage: printf format [arg ...]"
  | format :: arguments =>
    let result := Format.printf format arguments
    output "printf" result.text
    if result.failed then
      complain "printf: bad argument".toList
      setStatus 1

/-! ## Input -/

/-- Reads a line, byte by byte.  Each character is marked when a backslash quoted it.  Also says
whether the line had an end. -/
def readLine (raw : Bool) : (fuel : Nat) → List Marked → Run (List Marked × Bool)
  | 0, line => return (line.reverse, false)
  | fuel + 1, line => do
    match ← ask (.read 0 1) with
    | .data (b :: _) =>
      let c := Char.ofNat b.toNat
      if c = '\n' then return (line.reverse, true)
      else if c = '\x00' then readLine raw fuel line
      else if c = '\\' && !raw then
        match ← ask (.read 0 1) with
        | .data (b :: _) =>
          if b = 10 then readLine raw fuel line
          else readLine raw fuel ((Char.ofNat b.toNat, true) :: line)
        | _ => return (line.reverse, false)
      else readLine raw fuel ((c, false) :: line)
    | _ => return (line.reverse, false)

/-- Whether a marked character is a blank that separates fields. -/
def isBlankSeparator (separators : List Char) (m : Marked) : Bool :=
  !m.2 && separators.contains m.1 && (m.1 = ' ' || m.1 = '\t' || m.1 = '\n')

/-- Gives the fields of a line to variables.  The last variable gets all that is left. -/
def assignFields (separators : List Char) : List (List Char) → List Marked → Run Unit
  | [], _ => return
  | [name], line => do
    let text := line.reverse.dropWhile (isBlankSeparator separators) |>.reverse
    let single :=
      match text.getLast? with
      | some (c, false) =>
        if separators.contains c &&
            (text.dropLast.all fun m => m.2 || !separators.contains m.1) then
          text.dropLast
        else text
      | _ => text
    assign name (single.map Prod.fst)
  | name :: names, line => do
    let field := line.takeWhile fun m => m.2 || !separators.contains m.1
    assign name (field.map Prod.fst)
    let rest := (line.drop field.length).dropWhile (isBlankSeparator separators)
    let rest :=
      match line.drop field.length, rest with
      | _, (c, false) :: more =>
        if separators.contains c then more.dropWhile (isBlankSeparator separators) else rest
      | _, rest => rest
    assignFields separators names rest

/-- The command `read`. -/
def read : Action := fun arguments => do
  let raw := arguments.contains ['-', 'r']
  let names := arguments.filter fun a => a ≠ ['-', 'r']
  let (line, complete) ← readLine raw Program.loopLimit []
  let separators ← Run.separators
  assignFields separators names (line.dropWhile (isBlankSeparator separators))
  setStatus (if complete then 0 else 1)

/-! ## Flow of control -/

/-- The command `exit`. -/
def exit : Action := fun arguments => do
  let code ←
    match arguments with
    | [] => pure (← get).status
    | text :: _ => numberOf "exit" text
  setStatus (code % 256)
  throw (.exit (code % 256))

/-- The command `return`. -/
def goBack : Action := fun arguments => do
  match arguments with
  | [] => pure ()
  | text :: _ => setStatus (← numberOf "return" text)
  throw .back

/-- The number of loops that `break` and `continue` are about. -/
def levels (command : String) : List (List Char) → Run Nat
  | [] => return 1
  | text :: _ => numberOf command text

/-- The command `break`. -/
def leave : Action := fun arguments => do
  let n ← levels "break" arguments
  setStatus 0
  let loops := (← get).loops
  if loops > 0 then throw (.leave (min n loops))

/-- The command `continue`. -/
def again : Action := fun arguments => do
  let n ← levels "continue" arguments
  setStatus 0
  let loops := (← get).loops
  if loops > 0 then throw (.again (min n loops))

/-! ## Parameters and variables -/

/-- The command `shift`. -/
def shift : Action := fun arguments => do
  let n ← levels "shift" arguments
  let s ← get
  if n > s.parameters.length then fail "shift: can't shift that many"
  set { s with parameters := s.parameters.drop n, status := 0 }

/-- Switches an option of the shell. -/
def switch (on : Bool) (letter : Char) : Run Unit :=
  modify fun s =>
    match letter with
    | 'e' => { s with exitOnError := on }
    | 'u' => { s with refuseUnset := on }
    | _ => s

/-- The command `set`. -/
def setOptions : Action
  | [] => setStatus 0
  | ['-', '-'] :: rest => modify fun s => { s with parameters := rest, status := 0 }
  | ['-', 'o'] :: rest => do
    if rest.head? = some "errexit".toList then switch true 'e'
    if rest.head? = some "nounset".toList then switch true 'u'
    setStatus 0
  | ('-' :: letter :: letters) :: rest => do
    (letter :: letters).forM (switch true)
    setOptions rest
  | ('+' :: letter :: letters) :: rest => do
    (letter :: letters).forM (switch false)
    setOptions rest
  | rest => modify fun s => { s with parameters := rest, status := 0 }

/-- Splits an argument at its first equals sign. -/
def splitAssignment (argument : List Char) : List Char × Option (List Char) :=
  let name := argument.takeWhile (· ≠ '=')
  (name, if name.length = argument.length then none else some (argument.drop (name.length + 1)))

/-- Assigns what the arguments of a command assign, and returns the names. -/
def assignAll : List (List Char) → Run (List (List Char))
  | [] => return []
  | argument :: rest => do
    let (name, value) := splitAssignment argument
    match value with
    | some value => assign name value
    | none => pure ()
    return name :: (← assignAll rest)

/-- The command `export`. -/
def exportNames : Action := fun arguments => do
  let names ← assignAll arguments
  modify fun s => { s with exported := s.exported.filter (!names.contains ·) ++ names, status := 0 }

/-- The commands `readonly` and `local`. -/
def declare : Action := fun arguments => do
  let _ ← assignAll (arguments.filter fun a => (splitAssignment a).2.isSome)
  setStatus 0

/-- The command `unset`. -/
def unset : Action := fun arguments =>
  modify fun s =>
    let functions := arguments.head? = some ['-', 'f']
    let names := arguments.filter fun a => a ≠ ['-', 'f'] && a ≠ ['-', 'v']
    if functions then
      { s with functions := s.functions.filter fun f => !names.contains f.1, status := 0 }
    else
      { s with
        bindings := s.bindings.filter fun v => !names.contains v.1
        exported := s.exported.filter (!names.contains ·), status := 0 }

/-! ## Directories -/

/-- The path of the directory in which the shell is. -/
def currentDirectory : Run (List Char) := do
  match ← ask .directory with
  | .path path => return Bytes.charsOfText path
  | _ => return []

/-- The command `pwd`. -/
def pwd : Action := fun _ => do output "pwd" ((← currentDirectory) ++ ['\n'])

/-- The command `cd`. -/
def cd : Action := fun arguments => do
  let target ←
    match arguments.filter (· ≠ ['-', '-']) with
    | [] => pure ((← value? "HOME".toList).getD [])
    | target :: _ => pure target
  if target.isEmpty then setStatus 0
  else
    match ← ask (.enter (Bytes.textOfChars target)) with
    | .done =>
      assign "PWD".toList (← currentDirectory)
      setStatus 0
    | _ =>
      complain ("cd: can't cd to ".toList ++ target)
      setStatus 2

/-! ## Processes and signals -/

/-- The signal that an argument names. -/
def signal? (text : List Char) : Option Signal :=
  match Arithmetic.natOf 10 text with
  | some n => if Signal.isNumber n then some n else none
  | none =>
    let name := String.ofList (text.map Char.toUpper)
    if name = "EXIT" then some 0
    else
      (Signal.names.lookup name).or
        ((Signal.names.find? fun s => "SIG" ++ s.1 = name).map Prod.snd)

/-- Sends a signal to the processes that are named. -/
def sendAll (signal : Signal) : List (List Char) → Run Unit
  | [] => return
  | target :: rest => do
    let digits := if target.head? = some '-' then target.drop 1 else target
    match Arithmetic.natOf 10 digits with
    | some n =>
      if n < Run.processBase then
        complain "kill: No such process".toList
        setStatus 1
      else
        match ← ask (.send (n - Run.processBase) signal) with
        | .failed _ =>
          complain "kill: No such process".toList
          setStatus 1
        | _ => pure ()
    | none =>
      complain ("kill: Illegal number: ".toList ++ target)
      setStatus 2
    sendAll signal rest

/-- The command `kill`. -/
def kill : Action := fun arguments => do
  setStatus 0
  match arguments with
  | ['-', 'l'] :: _ =>
    output "kill" ((Signal.names.map fun (name, _) => name.toList ++ ['\n']).flatten)
  | ['-', 's'] :: name :: targets => send name targets
  | ['-', '-'] :: targets => sendAll 15 targets
  | ('-' :: name) :: targets => send name targets
  | targets => sendAll 15 targets
where
  /-- Sends the signal of the given name. -/
  send (name : List Char) (targets : List (List Char)) : Run Unit := do
    match signal? name with
    | some signal =>
      sendAll signal (if targets.head? = some ['-', '-'] then targets.drop 1 else targets)
    | none =>
      complain ("kill: invalid signal number or name: ".toList ++ name)
      setStatus 2

/-- Makes the arrangements of `trap` for one signal after another. -/
def arrangeAll (action : Option (List Char)) : List (List Char) → Run Unit
  | [] => return
  | name :: rest => do
    match signal? name with
    | none =>
      complain ("trap: ".toList ++ name ++ ": bad trap".toList)
      setStatus 1
    | some signal =>
      modify fun s =>
        { s with
          traps := (action.toList.map fun a => (signal, a)) ++ s.traps.filter (·.1 ≠ signal) }
      if signal ≠ 0 then
        let disposition : Disposition :=
          match action with
          | none => .standard
          | some [] => .ignored
          | some _ => .caught
        let _ ← ask (.arrange signal disposition)
    arrangeAll action rest

/-- The command `trap`. -/
def trap : Action := fun arguments => do
  setStatus 0
  match if arguments.head? = some ['-', '-'] then arguments.drop 1 else arguments with
  | [] => pure ()
  | [name] => arrangeAll none [name]
  | ['-'] :: names => arrangeAll none names
  | action :: names =>
    if (Arithmetic.natOf 10 action).isSome then arrangeAll none (action :: names)
    else arrangeAll (some action) names

/-- Waits for all children to end. -/
def awaitAll : (fuel : Nat) → Run Unit
  | 0 => return
  | fuel + 1 => do
    match ← ask (.await none) with
    | .ended .. => awaitAll fuel
    | _ => return

/-- The command `wait`. -/
def wait : Action
  | [] => do
    awaitAll Program.loopLimit
    setStatus 0
  | targets =>
    targets.forM fun target => do
      match Arithmetic.natOf 10 target with
      | none =>
        complain ("wait: Illegal number: ".toList ++ target)
        setStatus 2
      | some n =>
        match ← ask (.await (some (n - Run.processBase))) with
        | .ended _ status => setStatus status.code
        | _ => setStatus 127

/-! ## Commands -/

/-- The command `test`. -/
def test (name : String) : Action := fun arguments => do
  match Test.condition arguments with
  | .ok c => setStatus (if ← Test.holds c then 0 else 1)
  | .error message =>
    complain (name ++ ": " ++ message).toList
    setStatus 2

/-- The command `[`. -/
def bracket : Action := fun arguments =>
  if arguments.getLast? = some [']'] then test "[" arguments.dropLast
  else do
    complain "[: missing ]".toList
    setStatus 2

/-- The command `.`, which carries out the commands of a file. -/
def source (execute : Execute) : Action := fun arguments => do
  match arguments with
  | [] => setStatus 0
  | name :: _ =>
    match ← ask (.openFile (Bytes.textOfChars name) .read) with
    | .descriptor n =>
      let text ← Run.lift (Program.readToEnd n)
      let _ ← ask (.close n)
      setStatus 0
      execute (Bytes.toChars text)
    | _ => fail (".: cannot open " ++ String.ofList name ++ ": No such file")

/-- The command `eval`. -/
def evaluate (execute : Execute) : Action := fun arguments => do
  setStatus 0
  execute ([' '].intercalate arguments)

/-- The commands by name. -/
def table (execute : Execute) : List (String × Action) :=
  [(":", fun _ => setStatus 0), ("true", fun _ => setStatus 0), ("false", fun _ => setStatus 1),
   ("echo", echo), ("printf", printf), ("read", read), ("test", test "test"), ("[", bracket),
   ("exit", exit), ("return", goBack), ("break", leave), ("continue", again), ("shift", shift),
   ("set", setOptions), ("export", exportNames), ("readonly", declare), ("local", declare),
   ("unset", unset), ("pwd", pwd), ("cd", cd), ("kill", kill), ("trap", trap), ("wait", wait),
   (".", source execute), ("eval", evaluate execute), ("ulimit", fun _ => setStatus 0),
   ("umask", fun _ => setStatus 0)]

/-- The commands whose assignments stay. -/
def special : List String :=
  [":", ".", "break", "continue", "eval", "exec", "exit", "export", "readonly", "return", "set",
   "shift", "trap", "unset"]

/-- The command of the given name. -/
def find? (execute : Execute) (name : List Char) : Option Action :=
  (table execute).lookup (String.ofList name)

end AlgorithmDriver.Shell.Builtin
