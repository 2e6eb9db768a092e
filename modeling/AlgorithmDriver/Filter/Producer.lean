import AlgorithmDriver.Filter.Basic
import AlgorithmDriver.Shell.Format
import AlgorithmDriver.Shell.Test

/-!
# Programs without input

Programs that only write, wait, or tell something by their code.
-/

namespace AlgorithmDriver.Filter

/-! ## Codes -/

/-- The program `true`. -/
def succeed : Main := fun _ => return 0

/-- The program `false`. -/
def decline : Main := fun _ => return 1

/-- The program `test`. -/
def test : Main := fun arguments => ask (operandsOf arguments)
where
  /-- The code that answers a question. -/
  ask (words : List (List Char)) : Program Nat := do
    match Shell.Test.condition words with
    | .error message =>
      complain "test" message.toList
      return 2
    | .ok c =>
      let (outcome, _) ← (Shell.Test.holds c).run.run { name := "test".toList }
      match outcome with
      | .ok true => return 0
      | _ => return 1

/-- The program `[`. -/
def bracket : Main := fun arguments =>
  let words := operandsOf arguments
  if words.getLast? = some [']'] then test.ask words.dropLast
  else do
    complain "[" "missing ']'".toList
    return 2

/-! ## Texts -/

/-- The program `echo`, which leaves backslashes alone. -/
def echo : Main := fun arguments =>
  match operandsOf arguments with
  | ['-', 'n'] :: words => finish "echo" (Bytes.ofChars ([' '].intercalate words)) 0
  | words => finish "echo" (Bytes.ofChars ([' '].intercalate words ++ ['\n'])) 0

/-- The program `printf`. -/
def printf : Main := fun arguments =>
  match operandsOf arguments with
  | [] => refuse "printf" "missing operand".toList
  | format :: rest =>
    let result := Shell.Format.printf format rest
    finish "printf" (Bytes.ofChars result.text) (if result.failed then 1 else 0)

/-- The integer that an argument spells. -/
def integer? : List Char → Option Int
  | '-' :: digits => (number? digits).map fun n => -(n : Int)
  | digits => (number? digits).map fun n => (n : Int)

/-- The numbers from `first` on, in steps, up to `last`. -/
def numbersUpTo (first step last : Int) : List Int :=
  if step > 0 then
    (List.range ((last - first) / step + 1).toNat).map fun (i : Nat) => first + i * step
  else if step < 0 then
    (List.range ((first - last) / (-step) + 1).toNat).map fun (i : Nat) => first + i * step
  else []

/-- The program `seq`. -/
def seq : Main := fun arguments =>
  let numbers := (operandsOf arguments).map integer?
  let write (first step last : Int) : Program Nat :=
    finish "seq" (Bytes.ofAscii (String.join ((numbersUpTo first step last).map
      fun n => String.ofList (Shell.Arithmetic.text n ++ ['\n'])))) 0
  match numbers with
  | [some last] => write 1 1 last
  | [some first, some last] => write first 1 last
  | [some first, some step, some last] => write first step last
  | _ => refuse "seq" "invalid operand".toList

/-- Writes the same data again and again. -/
def writeForever (data : Bytes) : (rounds : Nat) → Program Nat
  | 0 => return 0
  | rounds + 1 => do
    match ← Program.writeAll 1 data with
    | .ok () => writeForever data rounds
    | .error e => refuse "yes" ("standard output: " ++ e.text).toList

/-- The program `yes`. -/
def yes : Main := fun arguments =>
  let words := operandsOf arguments
  let line := (if words.isEmpty then ['y'] else [' '].intercalate words) ++ ['\n']
  let copies := 8192 / line.length
  writeForever (Bytes.ofChars (List.replicate (max copies 1) line).flatten) Program.loopLimit

/-- The program `env`, without arguments. -/
def environment : Main := fun arguments =>
  finish "env"
    (arguments.environment.flatMap fun (name, value) => name ++ [61] ++ value ++ [10]) 0

/-- The program `pwd`. -/
def directory : Main := fun _ => do
  match ← Program.request .directory with
  | .path path => finish "pwd" (Bytes.ofText path ++ [10]) 0
  | _ => return 1

/-! ## Time -/

/-- The milliseconds that an argument spells: seconds, with a fraction or a unit. -/
def milliseconds? (text : List Char) : Option Nat :=
  let (text, factor) :=
    match text.getLast? with
    | some 's' => (text.dropLast, 1)
    | some 'm' => (text.dropLast, 60)
    | some 'h' => (text.dropLast, 3600)
    | some 'd' => (text.dropLast, 86400)
    | _ => (text, 1)
  let whole := text.takeWhile (· ≠ '.')
  let fraction := text.drop (whole.length + 1)
  let thousandths := fraction.take 3 ++ List.replicate (3 - fraction.length) '0'
  if whole.isEmpty && fraction.isEmpty then none
  else
    match number? (if whole.isEmpty then ['0'] else whole), number? thousandths with
    | some seconds, some rest => some (factor * (1000 * seconds + rest))
    | _, _ => none

/-- The program `sleep`. -/
def sleep : Main := fun arguments => do
  let words := operandsOf arguments
  match words.find? fun w => (milliseconds? w).isNone with
  | some wrong => refuse "sleep" ("invalid time interval '".toList ++ wrong ++ ['\''])
  | none =>
    if words.isEmpty then refuse "sleep" "missing operand".toList
    else
      Program.perform (.sleep (Bytes.total (words.filterMap milliseconds?)))
      return 0

end AlgorithmDriver.Filter
