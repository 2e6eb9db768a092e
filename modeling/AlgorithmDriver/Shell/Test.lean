import AlgorithmDriver.Shell.Arithmetic
import AlgorithmDriver.Shell.State

/-!
# Conditions

What the command `test` can be asked: about texts, about numbers and about files, combined by "not",
"and" and "or".
-/

namespace AlgorithmDriver.Shell.Test

/-- A condition that was put into words. -/
inductive Condition where
  | constant (value : Bool)
  /-- A question about the file at a path. -/
  | file (question : Char) (path : List Char)
  | negation (c : Condition)
  | both (a b : Condition)
  | either (a b : Condition)

/-- The operators between two texts or numbers. -/
def binaryOperators : List String :=
  ["=", "==", "!=", "<", ">", "-eq", "-ne", "-gt", "-ge", "-lt", "-le"]

/-- The operators before a text or a path. -/
def unaryOperators : List String :=
  ["-n", "-z", "-b", "-c", "-d", "-e", "-f", "-g", "-h", "-k", "-L", "-p", "-r", "-s", "-S", "-t",
   "-u", "-w", "-x", "-O", "-G"]

/-- The integer that a text spells. -/
def number (text : List Char) : Except String Int :=
  let cs := (Arithmetic.trim text).reverse.dropWhile (fun c => c = ' ' || c = '\t') |>.reverse
  let (negative, digits) :=
    match cs with
    | '-' :: rest => (true, rest)
    | '+' :: rest => (false, rest)
    | rest => (false, rest)
  match Arithmetic.natOf 10 digits with
  | some n => .ok (if negative then -n else n)
  | none => .error ("Illegal number: " ++ String.ofList text)

/-- The order of texts. -/
def precedes (a b : List Char) : Bool := decide (a.map Char.toNat < b.map Char.toNat)

/-- The outcome of an operator between two operands. -/
def compare (operator : String) (a b : List Char) : Except String Condition := do
  match operator with
  | "=" => return .constant (a = b)
  | "==" => return .constant (a = b)
  | "!=" => return .constant (a ≠ b)
  | "<" => return .constant (precedes a b)
  | ">" => return .constant (precedes b a)
  | operator =>
    let m ← number a
    let n ← number b
    return .constant <|
      match operator with
      | "-eq" => m = n
      | "-ne" => m ≠ n
      | "-gt" => m > n
      | "-ge" => m ≥ n
      | "-lt" => m < n
      | _ => m ≤ n

/-- The outcome of an operator before an operand. -/
def inspect (operator : String) (a : List Char) : Condition :=
  match operator with
  | "-n" => .constant !a.isEmpty
  | "-z" => .constant a.isEmpty
  | "-t" => .constant false
  | operator => .file (operator.toList.getLastD 'e') a

mutual

/-- Reads alternatives. -/
def readEither : (fuel : Nat) → List (List Char) →
    Except String (Condition × List (List Char))
  | 0, _ => .error "argument expected"
  | fuel + 1, words => do
    let (first, rest) ← readBoth fuel words
    match rest with
    | ['-', 'o'] :: rest =>
      let (second, rest) ← readEither fuel rest
      return (.either first second, rest)
    | rest => return (first, rest)

/-- Reads conditions that all have to hold. -/
def readBoth : (fuel : Nat) → List (List Char) → Except String (Condition × List (List Char))
  | 0, _ => .error "argument expected"
  | fuel + 1, words => do
    let (first, rest) ← readSingle fuel words
    match rest with
    | ['-', 'a'] :: rest =>
      let (second, rest) ← readBoth fuel rest
      return (.both first second, rest)
    | rest => return (first, rest)

/-- Reads a single condition. -/
def readSingle : (fuel : Nat) → List (List Char) → Except String (Condition × List (List Char))
  | 0, _ => .error "argument expected"
  | _ + 1, [] => .error "argument expected"
  | fuel + 1, word :: rest => do
    match rest with
    | operator :: second :: more =>
      if binaryOperators.contains (String.ofList operator) then
        return (← compare (String.ofList operator) word second, more)
    | _ => pure ()
    match word, rest with
    | ['!'], _ :: _ =>
      let (c, rest) ← readSingle fuel rest
      return (.negation c, rest)
    | ['('], _ :: _ =>
      let (c, rest) ← readEither fuel rest
      match rest with
      | [')'] :: rest => return (c, rest)
      | _ => throw "closing paren expected"
    | word, operand :: rest =>
      if unaryOperators.contains (String.ofList word) then
        return (inspect (String.ofList word) operand, rest)
      else return (.constant !word.isEmpty, operand :: rest)
    | word, [] => return (.constant !word.isEmpty, [])

end

/-- The condition that words put. -/
def condition (words : List (List Char)) : Except String Condition :=
  if words.isEmpty then .ok (.constant false)
  else
    match readEither (10 * words.length + 10) words with
    | .error e => .error e
    | .ok (c, []) => .ok c
    | .ok (_, word :: _) => .error (String.ofList word ++ ": unexpected operator")

/-- Whether a condition holds. -/
def holds : Condition → Run Bool
  | .constant value => return value
  | .negation c => do return !(← holds c)
  | .both a b => do if ← holds a then holds b else return false
  | .either a b => do if ← holds a then return true else holds b
  | .file question path => do
    match ← Run.ask (.inspect (Bytes.textOfChars path)) with
    | .file kind executable size =>
      return match question with
        | 'd' => kind = .directory
        | 'f' => kind = .regular
        | 'c' => kind = .device
        | 's' => size > 0 || kind = .directory
        | 'x' => executable
        | 'e' => true
        | 'r' => true
        | 'w' => true
        | 'O' => true
        | 'G' => true
        | _ => false
    | _ => return false

end AlgorithmDriver.Shell.Test
