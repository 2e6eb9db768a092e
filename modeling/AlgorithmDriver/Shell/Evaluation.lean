import AlgorithmDriver.Host.Path
import AlgorithmDriver.Shell.Builtin
import AlgorithmDriver.Shell.Expansion
import AlgorithmDriver.Shell.Reader

/-!
# Running statements

What each kind of statement does.  The parts of it are run by an `Evaluate` that is handed in, so
that every kind has a function of its own; `run` ties them together.

A shell runs some statements in a child of its own: all commands of a pipeline but a single one,
what is put in parentheses, what runs in the background, and what is substituted.  A program is run
in a child too, unless the shell has nothing left to do afterwards.
-/

namespace AlgorithmDriver.Shell

/-- The circumstances in which a statement is run. -/
structure Circumstances where
  /-- The shell has nothing left to do after the statement. -/
  last : Bool := false
  /-- What comes next depends on whether the statement fails. -/
  tested : Bool := false

/-- How statements are run. -/
abbrev Evaluate := Circumstances → Statement → Run Unit

namespace Evaluation

open Run (ask assign complain fail print setStatus)

/-! ## Texts -/

/-- The message about a text that cannot be read. -/
def refuseText {α : Type} (line : Nat) (what : String) : Run α := do
  modify fun s => { s with line }
  fail ("Syntax error: " ++ what)

/-- Runs the statements of a text, of which `line` is the number of the first line.  Each round
takes at least one character. -/
def executeText (evaluate : Evaluate) (c : Circumstances) :
    (rounds line : Nat) → List Char → Run Unit
  | 0, _, _ => return
  | rounds + 1, line, text => do
    if text.isEmpty then return
    let ending := line + text.count '\n'
    match readLine text ending with
    | .unfinished => refuseText ending "end of file unexpected"
    | .wrong line what => refuseText line what
    | .statement body rest =>
      let last := c.last && rest.isEmpty && text.getLast? ≠ some '\n'
      evaluate { c with last } body
      executeText evaluate c rounds (ending - rest.count '\n') rest

/-- Runs all statements of a text. -/
def execute (evaluate : Evaluate) (c : Circumstances) (text : List Char) : Run Unit :=
  executeText evaluate c (text.length + 1) 1 text

/-! ## The end of a shell -/

/-- Runs something, then what is arranged for the end of the shell, and ends the shell. -/
def conclude (evaluate : Evaluate) (body : Run Unit) : Run Unit := do
  let code ←
    try
      body
      pure (← get).status
    catch
      | .exit code => pure code
      | _ => pure (← get).status
  let s ← get
  match s.traps.lookup 0 with
  | none => pure ()
  | some action =>
    set { s with traps := s.traps.filter (·.1 ≠ 0), status := code }
    execute evaluate {} action
  throw (.exit code)

/-! ## Signals -/

/-- Whether something is arranged for a signal or for the end of the shell. -/
def hasTraps (s : State) : Bool := s.traps.any fun t => !t.2.isEmpty

/-- Forgets what is arranged for signals, except that some are ignored. -/
def forgetTraps : Run Unit := do
  let s ← get
  let (ignored, others) := s.traps.partition fun t => t.1 ≠ 0 && t.2.isEmpty
  set { s with traps := ignored }
  others.forM fun t => do
    if t.1 ≠ 0 then
      let _ ← ask (.arrange t.1 .standard)

/-- Does what is arranged for the signals that were caught.  The status stays what it was. -/
def handleSignals (evaluate : Evaluate) : Run Unit := do
  let s ← get
  if s.traps.any fun t => t.1 ≠ 0 && !t.2.isEmpty then
    match ← ask .caughtSignals with
    | .signals signals =>
      signals.forM fun signal => do
        let s ← get
        match s.traps.lookup signal with
        | none => pure ()
        | some action =>
          execute evaluate {} action
          setStatus s.status
    | _ => pure ()

/-! ## Children -/

/-- Runs something in a child, and returns the number of the child. -/
def fork (evaluate : Evaluate) (body : Run Unit) : Run Nat := do
  match ← ask .fork with
  | .process number => return number
  | _ =>
    forgetTraps
    modify fun s => { s with loops := 0 }
    conclude evaluate body
    return 0

/-- Waits until a child ends, and returns its status.  The end by a signal is announced, unless it
is one that users or readers end programs by. -/
def awaitChild (child : Nat) : Run Nat := do
  match ← ask (.await (some child)) with
  | .ended _ status =>
    match status with
    | .signaled signal =>
      if signal ≠ 2 && signal ≠ Signal.pipe then
        let _ ← print 2 (Signal.description signal ++ "\n").toList
    | .exited _ => pure ()
    return status.code
  | _ => return 127

/-- Waits until all the children end, and returns the status of the last one. -/
def awaitAll : List Nat → Run Nat
  | [] => return 0
  | [child] => awaitChild child
  | child :: rest => do
    let _ ← awaitChild child
    awaitAll rest

/-- Makes `target` denote what `source` denotes, which is closed. -/
def moveDescriptor (source target : Nat) : Run Unit := do
  if source ≠ target then
    let _ ← ask (.duplicate source target)
    let _ ← ask (.close source)

/-- The output of a statement, without the line ends at its end. -/
def substitute (evaluate : Evaluate) : Expansion.Substitute := fun body => do
  match ← ask .pipe with
  | .pipe readEnd writeEnd =>
    let child ← fork evaluate do
      let _ ← ask (.close readEnd)
      moveDescriptor writeEnd 1
      evaluate { last := true } body
    let _ ← ask (.close writeEnd)
    let bytes ← Run.lift (Program.readToEnd readEnd)
    let _ ← ask (.close readEnd)
    let status ← awaitChild child
    modify fun s => { s with substituted := status, status }
    let chars := Bytes.toChars (bytes.filter (· ≠ 0))
    return (chars.reverse.dropWhile (· = '\n')).reverse
  | _ => return []

/-- Starts the commands of a pipeline.  The first one reads from `input`, if that is given.  Returns
the numbers of the children. -/
def startAll (evaluate : Evaluate) (tested : Bool) :
    (input : Option Nat) → List Statement → Run (List Nat)
  | _, [] => return []
  | input, [command] => do
    let child ← fork evaluate do
      input.forM fun input => moveDescriptor input 0
      evaluate { last := true, tested } command
    input.forM fun input => do
      let _ ← ask (.close input)
    return [child]
  | input, command :: rest => do
    match ← ask .pipe with
    | .pipe readEnd writeEnd =>
      let child ← fork evaluate do
        input.forM fun input => moveDescriptor input 0
        let _ ← ask (.close readEnd)
        moveDescriptor writeEnd 1
        evaluate { last := true, tested } command
      input.forM fun input => do
        let _ ← ask (.close input)
      let _ ← ask (.close writeEnd)
      return child :: (← startAll evaluate tested (some readEnd) rest)
    | _ => return []

/-- Starts a statement in the background.  It reads nothing, and is not interrupted by users. -/
def startBackground (evaluate : Evaluate) (body : Statement) : Run Unit := do
  let child ← fork evaluate do
    let _ ← ask (.arrange 2 .ignored)
    let _ ← ask (.arrange 3 .ignored)
    let _ ← ask (.close 0)
    match ← ask (.openFile "/dev/null" .read) with
    | .descriptor n => moveDescriptor n 0
    | _ => pure ()
    evaluate { last := true } body
  modify fun s => { s with background := some child, status := 0 }

/-! ## Redirections -/

/-- The least descriptor for what is put aside. -/
def asideFrom : Nat := 10

/-- A descriptor that was redirected, and where what it denoted was put aside, if it was open. -/
abbrev Aside := Nat × Option Nat

/-- Puts aside what a descriptor denotes. -/
def putAside (descriptor : Nat) : Run Aside := do
  match ← ask (.save descriptor asideFrom) with
  | .descriptor n => return (descriptor, some n)
  | _ => return (descriptor, none)

/-- Makes descriptors denote what they denoted before. -/
def restore (asides : List Aside) : Run Unit :=
  asides.forM fun aside => do
    match aside.2 with
    | some n =>
      let _ ← ask (.duplicate n aside.1)
      let _ ← ask (.close n)
    | none =>
      let _ ← ask (.close aside.1)

/-- The wording of a failure to open a file. -/
def openTrouble (creates : Bool) : Errno → String
  | .noEntry => if creates then "Directory nonexistent" else "No such file"
  | .notDirectory => if creates then "Directory nonexistent" else "No such file"
  | e => e.text

/-- Makes a descriptor denote a file. -/
def openOnto (descriptor : Nat) (path : List Char) (mode : OpenMode) : Run Bool := do
  match ← ask (.openFile (Bytes.textOfChars path) mode) with
  | .descriptor n =>
    moveDescriptor n descriptor
    return true
  | .failed e =>
    let creates := mode ≠ .read
    complain ("cannot ".toList ++ (if creates then "create " else "open ").toList ++ path ++
      (": " ++ openTrouble creates e).toList)
    return false
  | _ => return false

/-- The longest text that is written into a pipe without a writer of its own. -/
def shortDocument : Nat := 4096

/-- Makes a descriptor denote a pipe that holds a text. -/
def openDocument (evaluate : Evaluate) (descriptor : Nat) (text : List Char) : Run Bool := do
  match ← ask .pipe with
  | .pipe readEnd writeEnd =>
    if text.length ≤ shortDocument then
      let _ ← print writeEnd text
    else
      let _ ← fork evaluate do
        let _ ← ask (.close readEnd)
        let _ ← print writeEnd text
    let _ ← ask (.close writeEnd)
    moveDescriptor readEnd descriptor
    return true
  | _ => return false

/-- Makes a descriptor denote what another one denotes, or nothing. -/
def copyOnto (descriptor : Nat) (target : List Char) : Run Bool := do
  if target = ['-'] then
    let _ ← ask (.close descriptor)
    return true
  match Arithmetic.natOf 10 target with
  | none => refuseText (← get).line "Bad fd number"
  | some n =>
    match ← ask (.duplicate n descriptor) with
    | .failed e =>
      complain (target ++ (": " ++ e.text).toList)
      return false
    | _ => return true

/-- Does a redirection.  Also says whether that succeeded. -/
def redirect (evaluate : Evaluate) (keep : Bool) : Redirection → Run (Bool × List Aside)
  | .mk descriptor kind target => do
    let text ← Expansion.expandText (substitute evaluate) target
    let asides ← if keep then pure [← putAside descriptor] else pure []
    let done ←
      match kind with
      | .input => openOnto descriptor text .read
      | .output => openOnto descriptor text .create
      | .append => openOnto descriptor text .append
      | .readWrite => openOnto descriptor text .readWrite
      | .duplicate => copyOnto descriptor text
      | .document => openDocument evaluate descriptor text
    return (done, asides)

/-- Does redirections up to the first that fails.  Also says whether all succeeded.  What was put
aside last comes first. -/
def redirectAll (evaluate : Evaluate) (keep : Bool) (asides : List Aside) :
    List Redirection → Run (Bool × List Aside)
  | [] => return (true, asides)
  | redirection :: rest => do
    match ← redirect evaluate keep redirection with
    | (true, more) => redirectAll evaluate keep (more ++ asides) rest
    | (false, more) => return (false, more ++ asides)

/-- Runs something with redirections.  Says whether these succeeded. -/
def withRedirections (evaluate : Evaluate) (redirections : List Redirection) (body : Run Unit) :
    Run Bool := do
  let (done, asides) ← redirectAll evaluate true [] redirections
  if done then
    try body
    catch stop =>
      restore asides
      throw stop
  else setStatus 2
  restore asides
  return done

/-! ## Programs -/

/-- Replaces the shell by the program of a file; one without a valid format is read as a script.
Returns why that failed. -/
def replaceBy (path : String) (arguments : Arguments) : Run Errno := do
  match ← ask (.execute path arguments) with
  | .failed .badFormat =>
    let shell := "/bin/sh"
    let values := Bytes.ofAscii shell :: Bytes.ofText path :: arguments.values.drop 1
    match ← ask (.execute shell { arguments with values }) with
    | .failed e => return e
    | _ => return .noEntry
  | .failed e => return e
  | _ => return .noEntry

/-- Whether a failure says that there is no file. -/
def isMissing (e : Errno) : Bool := e = .noEntry || e = .notDirectory

/-- Replaces the shell by the first program of a name that a search path leads to.  Returns why that
failed. -/
def replaceByFirst (name : String) (arguments : Arguments) (trouble : Errno) :
    List String → Run Errno
  | [] => return trouble
  | entry :: entries => do
    let e ← replaceBy (Path.join entry name) arguments
    replaceByFirst name arguments (if isMissing e then trouble else e) entries

/-- Replaces the shell by a program. -/
def become (name : List Char) (arguments : List (List Char)) : Run Unit := do
  let started : Arguments :=
    { values := (name :: arguments).map Bytes.ofChars, environment := ← Run.environment }
  let path := Bytes.textOfChars name
  let search := Bytes.textOfChars ((← Run.value? "PATH".toList).getD [])
  let trouble ←
    if name.isEmpty then pure .noEntry
    else if name.contains '/' then replaceBy path started
    else replaceByFirst path started .noEntry (Path.searchEntries search)
  if isMissing trouble then
    complain (name ++ ": not found".toList)
    throw (.exit 127)
  complain (name ++ (": " ++ trouble.text).toList)
  throw (.exit (if trouble = .linkLoop || trouble = .nameTooLong then 127 else 126))

/-! ## Simple commands -/

/-- An assignment in front of a command. -/
abbrev Assignment := List Char × Word

/-- Makes assignments. -/
def assignAll (evaluate : Evaluate) : List Assignment → Run Unit
  | [] => return
  | (name, word) :: rest => do
    let value ← Expansion.expandText (substitute evaluate) word
    assign name value
    assignAll evaluate rest

/-- Runs something with variables changed, and changes them back. -/
def withAssignments (evaluate : Evaluate) (assignments : List Assignment) (body : Run Unit) :
    Run Unit := do
  let s ← get
  let names := assignments.map Prod.fst
  assignAll evaluate assignments
  let undo : Run Unit :=
    modify fun t =>
      { t with
        bindings := s.bindings.filter (names.contains ·.1) ++
          t.bindings.filter (!names.contains ·.1) }
  try body
  catch stop =>
    undo
    throw stop
  undo

/-- Runs a program with assignments that only it gets to see. -/
def runProgram (evaluate : Evaluate) (c : Circumstances) (assignments : List Assignment)
    (redirections : List Redirection) (name : List Char) (arguments : List (List Char)) :
    Run Unit := do
  let start : Run Unit := do
    let (done, _) ← redirectAll evaluate false [] redirections
    if !done then throw (.exit 2)
    assignAll evaluate assignments
    let names := assignments.map Prod.fst
    modify fun s => { s with exported := s.exported.filter (!names.contains ·) ++ names }
    become name arguments
  if c.last && !hasTraps (← get) then start
  else setStatus (← awaitChild (← fork evaluate start))

/-- Runs a function with parameters of its own. -/
def callFunction (evaluate : Evaluate) (c : Circumstances) (body : Statement)
    (arguments : List (List Char)) : Run Unit := do
  let s ← get
  let undo : Run Unit := modify fun t => { t with parameters := s.parameters, loops := s.loops }
  set { s with parameters := arguments, loops := 0 }
  try evaluate { tested := c.tested } body
  catch
    | .back => pure ()
    | stop =>
      undo
      throw stop
  undo

/-- Runs a command of the shell.  An error in one that is not special does not end the shell. -/
def runBuiltin (evaluate : Evaluate) (assignments : List Assignment)
    (redirections : List Redirection) (isSpecial : Bool) (body : Run Unit) : Run Unit := do
  if isSpecial then
    let done ← withRedirections evaluate redirections do
      assignAll evaluate assignments
      body
    if !done then throw (.exit 2)
  else
    let _ ← withRedirections evaluate redirections do
      withAssignments evaluate assignments do
        try body
        catch
          | .exit _ => pure ()
          | stop => throw stop

/-- Makes redirections that stay, and replaces the shell by a program if one is given. -/
def runExec (evaluate : Evaluate) (assignments : List Assignment)
    (redirections : List Redirection) (arguments : List (List Char)) : Run Unit := do
  let (done, _) ← redirectAll evaluate false [] redirections
  if !done then throw (.exit 2)
  assignAll evaluate assignments
  setStatus 0
  match if arguments.head? = some ['-', '-'] then arguments.drop 1 else arguments with
  | [] => return
  | name :: rest =>
    let names := assignments.map Prod.fst
    modify fun s => { s with exported := s.exported.filter (!names.contains ·) ++ names }
    become name rest

/-- Leaves out the word `command` in front of a command, with its options.  Functions are then
passed over. -/
def bypass : List (List Char) → Bool × List (List Char)
  | word :: rest =>
    if word = "command".toList then
      (true, rest.dropWhile fun w => w = ['-', 'p'] || w = ['-', '-'])
    else (false, word :: rest)
  | [] => (false, [])

/-- Runs a simple command. -/
def runSimple (evaluate : Evaluate) (c : Circumstances) (assignments : List Assignment)
    (words : List Word) (redirections : List Redirection) : Run Unit := do
  modify fun s => { s with substituted := 0 }
  let fields ← Expansion.expandWords (substitute evaluate) words
  let (bypassed, fields) := bypass fields
  match fields with
  | [] =>
    let _ ← withRedirections evaluate redirections do
      assignAll evaluate assignments
      modify fun s => { s with status := s.substituted }
  | name :: arguments =>
    let s ← get
    match if bypassed then none else s.functions.lookup name with
    | some body =>
      let _ ← withRedirections evaluate redirections do
        withAssignments evaluate assignments (callFunction evaluate c body arguments)
    | none =>
      let isSpecial := Builtin.special.contains (String.ofList name)
      if name = "exec".toList then runExec evaluate assignments redirections arguments
      else
        match Builtin.find? (execute evaluate { tested := c.tested }) name with
        | some action => runBuiltin evaluate assignments redirections isSpecial (action arguments)
        | none => runProgram evaluate c assignments redirections name arguments

/-! ## Loops -/

/-- How a loop goes on. -/
inductive Course where
  | onward
  | nextRound
  | leave
  deriving DecidableEq, Repr

/-- Runs a part of a loop, and tells how the loop goes on. -/
def inLoop (part : Run Unit) : Run Course := do
  try
    part
    return .onward
  catch
    | .leave n => if n ≤ 1 then return .leave else throw (.leave (n - 1))
    | .again n => if n ≤ 1 then return .nextRound else throw (.again (n - 1))
    | stop => throw stop

/-- Runs a loop, and keeps count of the loops. -/
def counted (loop : Run Unit) : Run Unit := do
  let loops := (← get).loops
  let undo : Run Unit := modify fun s => { s with loops }
  modify fun s => { s with loops := loops + 1 }
  try loop
  catch stop =>
    undo
    throw stop
  undo

/-- Repeats the body as long as the test has the given outcome.  `status` is that of the last
round. -/
def repeatWhile (outcome : Bool) (test body : Run Unit) : (rounds status : Nat) → Run Unit
  | 0, status => setStatus status
  | rounds + 1, status => do
    let _ ← ask .pause
    match ← inLoop test with
    | .leave => return
    | .nextRound => repeatWhile outcome test body rounds status
    | .onward =>
      if ((← get).status == 0) != outcome then setStatus status
      else
        match ← inLoop body with
        | .leave => return
        | _ => repeatWhile outcome test body rounds (← get).status

/-- Runs the body for each value of a variable. -/
def repeatFor (name : List Char) (body : Run Unit) : List (List Char) → Run Unit
  | [] => return
  | value :: rest => do
    assign name value
    match ← inLoop body with
    | .leave => return
    | _ => repeatFor name body rest

/-! ## Choices -/

/-- Whether one of the patterns stands for the subject. -/
def anyCovers (evaluate : Evaluate) (subject : List Char) : List Word → Run Bool
  | [] => return false
  | word :: rest => do
    let pattern ← Expansion.expandPattern (substitute evaluate) word
    if Pattern.covers pattern subject then return true
    anyCovers evaluate subject rest

/-- Runs the first arm one of whose patterns stands for the subject. -/
def choose (evaluate : Evaluate) (c : Circumstances) (subject : List Char) :
    List (List Word × Statement) → Run Unit
  | [] => setStatus 0
  | (patterns, body) :: rest => do
    if ← anyCovers evaluate subject patterns then
      setStatus 0
      evaluate c body
    else choose evaluate c subject rest

/-! ## All statements -/

/-- Ends the shell if a command has failed, errors end the shell, and nobody tested for one. -/
def checkFailure (c : Circumstances) : Run Unit := do
  let s ← get
  if s.exitOnError && !c.tested && s.status ≠ 0 then throw (.exit s.status)

/-- Runs a statement.  `depth` bounds the depth of statements in statements and of calls. -/
def run : (depth : Nat) → Evaluate
  | 0, _, _ => fail "Maximum function recursion depth (1000) reached"
  | depth + 1, c, statement => do
    let evaluate := run depth
    match statement with
    | .nothing => return
    | .simple line assignments words redirections =>
      modify fun s => { s with line }
      runSimple evaluate c assignments words redirections
      checkFailure c
      handleSignals evaluate
    | .pipeline negated commands =>
      match negated, commands with
      | true, [single] => evaluate { tested := true } single
      | _, _ =>
        setStatus (← awaitAll (← startAll evaluate (c.tested || negated) none commands))
      if negated then setStatus (if (← get).status = 0 then 1 else 0)
      else checkFailure c
      handleSignals evaluate
    | .both first second =>
      evaluate { tested := true } first
      if (← get).status = 0 then evaluate c second
    | .either first second =>
      evaluate { tested := true } first
      if (← get).status ≠ 0 then evaluate c second
    | .sequence first second =>
      evaluate { c with last := false } first
      evaluate c second
    | .background body => startBackground evaluate body
    | .subshell body =>
      if c.last && !hasTraps (← get) then
        conclude evaluate (evaluate c body)
      else
        let child ← fork evaluate (evaluate { c with last := true } body)
        setStatus (← awaitChild child)
        checkFailure c
        handleSignals evaluate
    | .redirected body redirections =>
      let _ ← withRedirections evaluate redirections (evaluate { c with last := false } body)
    | .conditional test body otherwise =>
      evaluate { tested := true } test
      if (← get).status = 0 then evaluate c body
      else
        setStatus 0
        evaluate c otherwise
    | .loop outcome test body =>
      counted <|
        repeatWhile outcome (evaluate { tested := true } test)
          (evaluate { tested := c.tested } body) Program.loopLimit 0
    | .forEach name words body =>
      let values ←
        match words with
        | some words => Expansion.expandWords (substitute evaluate) words
        | none => pure (← get).parameters
      if values.isEmpty then setStatus 0
      counted (repeatFor name (evaluate { tested := c.tested } body) values)
    | .choose subject arms =>
      let subject ← Expansion.expandText (substitute evaluate) subject
      choose evaluate c subject arms
    | .define name body =>
      modify fun s =>
        { s with
          functions := (name, body) :: s.functions.filter (·.1 ≠ name), status := 0 }

/-- The depth of statements in statements and of calls that is possible. -/
def mostDepth : Nat := 100000

end Evaluation

/-- Runs a statement. -/
def evaluate : Evaluate := Evaluation.run Evaluation.mostDepth

end AlgorithmDriver.Shell
