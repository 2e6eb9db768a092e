import AlgorithmDriver.Host.Basic

/-!
# Executing files

What it means to execute a file: a program of the host runs itself; a file that starts with `#!`
names the interpreter that reads it; any other file has no valid format.
-/

namespace AlgorithmDriver

/-! ## Scripts -/

namespace Script

/-- How many bytes of a file are looked at. -/
def headSize : Nat := 256

/-- Whether a byte separates the words of the first line. -/
def isBlankByte (b : UInt8) : Bool := b == 32 || b == 9

/-- The bytes without the blanks around them. -/
def trim (bytes : Bytes) : Bytes :=
  ((bytes.dropWhile isBlankByte).reverse.dropWhile isBlankByte).reverse

/-- The interpreter that a file asks for in its first line, with the one argument that can follow
it. -/
def interpreter? (content : Bytes) : Option (Bytes × Option Bytes) :=
  match content.take headSize with
  | 35 :: 33 :: rest =>
    let line := trim (rest.takeWhile fun b => b != 10)
    let name := line.takeWhile fun b => !isBlankByte b
    let argument := line.dropWhile fun b => !isBlankByte b
    if name.isEmpty then none
    else if argument.isEmpty then some (name, none)
    else some (name, some (trim argument))
  | _ => none

end Script

/-! ## Programs from files -/

namespace Host

/-- The size from which on a single argument is too long, in bytes. -/
def tooLongArgument : Nat := 131072

/-- The size of all arguments and variables together that is still allowed, in bytes. -/
def argumentSpace : Nat := 2097152

/-- Whether a program can be started with the arguments. -/
def fits (arguments : Arguments) : Bool :=
  let sizes := arguments.values.map List.length ++
    arguments.environment.map fun (name, value) => name.length + value.length + 1
  sizes.all (· + 1 ≤ tooLongArgument) && Bytes.total (sizes.map (· + 9)) ≤ argumentSpace

/-- How many interpreters of interpreters are looked up. -/
def interpreterDepth : Nat := 6

/-- The program that executing a file runs. -/
def load (host : Host) (directory : Nat) :
    (depth : Nat) → (path : String) → Arguments → Except Errno (Program Nat)
  | 0, _, _ => .error .linkLoop
  | depth + 1, path, arguments =>
    match host.files.find directory path with
    | .error e => .error e
    | .ok node =>
      match host.files.get? node with
      | some (.program main) =>
        if fits arguments then .ok (main arguments) else .error .argumentsTooLong
      | some (.file content true) =>
        if !fits arguments then .error .argumentsTooLong
        else
          match Script.interpreter? content with
          | none => .error .badFormat
          | some (name, argument) =>
            load host directory depth (Bytes.textOfChars (Bytes.toChars name))
              { arguments with
                values := name :: argument.toList ++ Bytes.ofText path :: arguments.values.drop 1 }
      | _ => .error .permissionDenied

/-- The program that executing the file at a path runs. -/
def loadFile (host : Host) (directory : Nat) (path : String) (arguments : Arguments) :
    Except Errno (Program Nat) :=
  host.load directory interpreterDepth path arguments

/-- Tries the entries of a search path.  Entries without the file are passed over, and those where
it must not be executed are only remembered. -/
def loadFirst (host : Host) (directory : Nat) (name : String) (arguments : Arguments)
    (denied : Bool) : List String → Except Errno (Program Nat)
  | [] => .error (if denied then .permissionDenied else .noEntry)
  | entry :: entries =>
    match host.loadFile directory (Path.join entry name) arguments with
    | .error .permissionDenied => host.loadFirst directory name arguments true entries
    | .error .noEntry => host.loadFirst directory name arguments denied entries
    | .error .notDirectory => host.loadFirst directory name arguments denied entries
    | outcome => outcome

/-- The program that a command name denotes: a name with a slash is a path, any other is looked up
in the search path. -/
def loadCommand (host : Host) (directory : Nat) (search name : String) (arguments : Arguments) :
    Except Errno (Program Nat) :=
  if name.toList.contains '/' then host.loadFile directory name arguments
  else if name = "" then .error .noEntry
  else if name.utf8ByteSize > FileTree.longestName then .error .nameTooLong
  else host.loadFirst directory name arguments false (Path.searchEntries search)

/-- Starts a process that is not a child of another one.  `input`, `output` and `errors` are the
descriptions that it gets. -/
def start (host : Host) (program : Program Nat) (input output errors : Nat) : Nat × Host :=
  let process : Process :=
    { parent := none, activity := .running program
      descriptors := [(0, input), (1, output), (2, errors)], directory := host.directory }
  (host.processes.length, { host with processes := host.processes ++ [process] })

end Host

end AlgorithmDriver
