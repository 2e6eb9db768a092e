import AlgorithmDriver.Host.Program
import AlgorithmDriver.Shell.Arithmetic

/-!
# Filters

Programs that read some input, mostly lines of text, and write some output.  What they have in
common: their messages, the way they go through their inputs, and the way they cut texts into lines.
-/

namespace AlgorithmDriver.Filter

/-! ## Output -/

/-- Writes a message of a program to its standard error. -/
def complain (name : String) (message : List Char) : Program Unit := do
  let _ ← Program.writeAll 2 (Bytes.ofChars ((name ++ ": ").toList ++ message ++ ['\n']))
  return

/-- Writes to the standard output.  Says whether that succeeded. -/
def output (name : String) (data : Bytes) : Program Bool := do
  match ← Program.writeAll 1 data with
  | .ok () => return true
  | .error e =>
    complain name ("write error: " ++ e.text).toList
    return false

/-- Writes everything a program has to say, and returns its code. -/
def finish (name : String) (data : Bytes) (code : Nat) : Program Nat := do
  return if ← output name data then code else 1

/-- Refuses arguments. -/
def refuse (name : String) (message : List Char) : Program Nat := do
  complain name message
  return 1

/-! ## Input -/

/-- How many bytes are read at a time. -/
def pieceSize : Nat := 65536

/-- Goes through what a descriptor holds, piece by piece, with a state.  Ends early when `step` has
nothing left to do. -/
def forPieces {σ : Type} (descriptor size : Nat) (step : σ → Bytes → Program (σ × Bool)) :
    (rounds : Nat) → σ → Program (σ × Option Errno)
  | 0, s => return (s, none)
  | rounds + 1, s => do
    match ← Program.read descriptor size with
    | .error e => return (s, some e)
    | .ok [] => return (s, none)
    | .ok bytes =>
      match ← step s bytes with
      | (s, true) => forPieces descriptor size step rounds s
      | (s, false) => return (s, none)

/-- An input of a program: a file, or the standard input. -/
inductive Input where
  | standard
  | file (path : List Char)
  deriving DecidableEq, Repr

/-- The inputs that operands name: each a file, a dash the standard input, and nothing the standard
input too. -/
def inputs (operands : List (List Char)) : List Input :=
  if operands.isEmpty then [.standard]
  else operands.map fun o => if o = ['-'] then .standard else .file o

/-- Uses an input through its descriptor.  When it cannot be opened, `otherwise` is returned. -/
def withInput {α : Type} (name : String) (otherwise : α) (verb : String) :
    Input → (Nat → Program α) → Program α
  | .standard, use => use 0
  | .file path, use => do
    match ← Program.request (.openFile (Bytes.textOfChars path) .read) with
    | .descriptor n =>
      let result ← use n
      Program.perform (.close n)
      return result
    | .failed e =>
      complain name (verb.toList ++ path ++ (": " ++ e.text).toList)
      return otherwise
    | _ => return otherwise

/-- Everything that the inputs hold, one after the other, and whether all could be opened. -/
def readInputs (name : String) : List Input → Program (Bytes × Bool)
  | [] => return ([], true)
  | input :: rest => do
    let first ← withInput name none "" input fun n => some <$> Program.readToEnd n
    let (more, good) ← readInputs name rest
    return (first.getD [] ++ more, good && first.isSome)

/-! ## Lines -/

/-- The lines of a text, without the characters that end them. -/
def linesOf (data : Bytes) : List Bytes :=
  let rec split : Bytes → List Bytes
    | [] => [[]]
    | b :: bs =>
      if b = 10 then [] :: split bs
      else
        match split bs with
        | [] => [[b]]
        | line :: rest => (b :: line) :: rest
  let all := split data
  if all.getLast? = some [] then all.dropLast else all

/-- Puts lines together, each with its end. -/
def joinLines (lines : List Bytes) : Bytes := lines.flatMap fun line => line ++ [10]

/-! ## Arguments -/

/-- The arguments of a program, without its name, as characters. -/
def operandsOf (arguments : Arguments) : List (List Char) :=
  (arguments.values.drop 1).map Bytes.toChars

/-- The number that digits spell. -/
def number? (text : List Char) : Option Nat := Shell.Arithmetic.natOf 10 text

/-- Parts the arguments into the letters of options and operands. -/
def flagsAndOperands : List (List Char) → List Char × List (List Char)
  | [] => ([], [])
  | ['-', '-'] :: rest => ([], rest)
  | ['-'] :: rest =>
    let (flags, operands) := flagsAndOperands rest
    (flags, ['-'] :: operands)
  | ('-' :: letters) :: rest =>
    let (flags, operands) := flagsAndOperands rest
    (letters ++ flags, operands)
  | operand :: rest =>
    let (flags, operands) := flagsAndOperands rest
    (flags, operand :: operands)

end AlgorithmDriver.Filter
