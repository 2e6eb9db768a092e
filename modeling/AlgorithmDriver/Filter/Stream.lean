import AlgorithmDriver.Filter.Basic

/-!
# Filters that pass data on

Programs that write what they read while they read it: `cat`, `tee` and `head`.
-/

namespace AlgorithmDriver.Filter

/-! ## Copies -/

/-- Copies one input to the standard output. -/
def copyInput (name : String) (input : Input) : Program Bool :=
  withInput name false "" input fun n => do
    let (good, failure) ←
      forPieces n pieceSize (fun (_ : Bool) bytes => do
        let good ← output name bytes
        return (good, good)) Program.loopLimit true
    match failure with
    | none => return good
    | some e =>
      let label := match input with
        | .standard => ['-']
        | .file path => path
      complain name (label ++ (": " ++ e.text).toList)
      return false

/-- Copies inputs to the standard output, and says whether all were good. -/
def copyInputs (name : String) : List Input → Program Bool
  | [] => return true
  | input :: rest => do
    let first ← copyInput name input
    let others ← copyInputs name rest
    return first && others

/-- The program `cat`. -/
def cat : Main := fun arguments => do
  let (_, operands) := flagsAndOperands (operandsOf arguments)
  return if ← copyInputs "cat" (inputs operands) then 0 else 1

/-- Opens the files that get a copy. -/
def openCopies (mode : OpenMode) : List (List Char) → Program (List Nat × Bool)
  | [] => return ([], true)
  | path :: rest => do
    let opened ← Program.request (.openFile (Bytes.textOfChars path) mode)
    let (descriptors, good) ← openCopies mode rest
    match opened with
    | .descriptor n => return (n :: descriptors, good)
    | .failed e =>
      complain "tee" (path ++ (": " ++ e.text).toList)
      return (descriptors, false)
    | _ => return (descriptors, false)

/-- Writes data to some descriptors. -/
def writeCopies (data : Bytes) : List Nat → Program Unit
  | [] => return
  | descriptor :: rest => do
    let _ ← Program.writeAll descriptor data
    writeCopies data rest

/-- The program `tee`. -/
def tee : Main := fun arguments => do
  let (flags, operands) := flagsAndOperands (operandsOf arguments)
  let (descriptors, good) ← openCopies (if flags.contains 'a' then .append else .create) operands
  let (_, _) ←
    forPieces 0 pieceSize (fun () bytes => do
      writeCopies bytes (1 :: descriptors)
      return ((), true)) Program.loopLimit ()
  return if good then 0 else 1

/-! ## Beginnings -/

/-- How much of the beginning is wanted. -/
inductive Extent where
  | lines (n : Nat)
  | bytes (n : Nat)
  deriving DecidableEq, Repr

/-- Reads the options of `head` and `tail`. -/
def readExtent (extent : Extent) :
    List (List Char) → Except (List Char) (Extent × List (List Char))
  | [] => .ok (extent, [])
  | ['-', '-'] :: rest => .ok (extent, rest)
  | ['-', 'n'] :: count :: rest => amount .lines "lines" count rest
  | ['-', 'c'] :: count :: rest => amount .bytes "bytes" count rest
  | ('-' :: 'n' :: count) :: rest => amount .lines "lines" count rest
  | ('-' :: 'c' :: count) :: rest => amount .bytes "bytes" count rest
  | ('-' :: c :: cs) :: rest => amount .lines "lines" (c :: cs) rest
  | operand :: rest => (readExtent extent rest).map fun (e, operands) => (e, operand :: operands)
where
  /-- Goes on with the extent that a number gives. -/
  amount (make : Nat → Extent) (unit : String) (count : List Char) (rest : List (List Char)) :
      Except (List Char) (Extent × List (List Char)) :=
    match number? count with
    | some n => readExtent (make n) rest
    | none => .error (("invalid number of " ++ unit ++ ": '").toList ++ count ++ ['\''])

/-- The part of a piece up to the end of its `n`-th line, and how many lines are still wanted. -/
def takeLines : Nat → Bytes → Bytes × Nat
  | 0, _ => ([], 0)
  | n, [] => ([], n)
  | n + 1, b :: bs =>
    let (part, left) := takeLines (if b = 10 then n else n + 1) bs
    (b :: part, left)

/-- What of a piece belongs to the beginning, and what is wanted after it. -/
def Extent.take : Extent → Bytes → Bytes × Extent
  | lines n, data =>
    let (part, left) := takeLines n data
    (part, .lines left)
  | bytes n, data => (data.take n, .bytes (n - data.length))

/-- Whether nothing is wanted any more. -/
def Extent.isEmpty : Extent → Bool
  | lines n => n = 0
  | bytes n => n = 0

/-- How many bytes `head` reads at a time. -/
def headPiece : Nat := 8192

/-- Writes the beginning of an input. -/
def copyBeginning (extent : Extent) (input : Input) : Program Bool :=
  withInput "head" false "cannot open '" input fun n => do
    if extent.isEmpty then return true
    let ((_, good), failure) ←
      forPieces n headPiece (fun ((extent, _) : Extent × Bool) bytes => do
        let (part, left) := extent.take bytes
        let good ← output "head" part
        return ((left, good), good && !left.isEmpty)) Program.loopLimit (extent, true)
    return good && failure.isNone

/-- Writes the beginnings of inputs. -/
def copyBeginnings (extent : Extent) : List Input → Program Bool
  | [] => return true
  | input :: rest => do
    let first ← copyBeginning extent input
    let others ← copyBeginnings extent rest
    return first && others

/-- The program `head`. -/
def head : Main := fun arguments => do
  match readExtent (.lines 10) (operandsOf arguments) with
  | .error message => refuse "head" message
  | .ok (extent, operands) =>
    return if ← copyBeginnings extent (inputs operands) then 0 else 1

end AlgorithmDriver.Filter
