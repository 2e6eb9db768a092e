import AlgorithmDriver.Number.Power

/-!
# Arithmetic of the shell

Expressions over integers of 64 bits with a sign, which wrap around.  A variable that is not set
counts as zero, and assignments are part of expressions.
-/

namespace AlgorithmDriver.Shell.Arithmetic

/-! ## Integers -/

/-- The integer of 64 bits that is congruent to `n`. -/
def wrap (n : Int) : Int := Int.bmod n (twoTo 64)

/-- The value of a digit, in any base up to sixteen. -/
def digitValue (c : Char) : Nat :=
  if c.isDigit then c.toNat - 48
  else if 'a' ≤ c && c ≤ 'f' then c.toNat - 87
  else if 'A' ≤ c && c ≤ 'F' then c.toNat - 55
  else 99

/-- The number that digits spell in a base. -/
def natOf (base : Nat) (digits : List Char) : Option Nat :=
  if digits.isEmpty || digits.any fun c => digitValue c ≥ base then none
  else some (digits.foldl (fun n c => n * base + digitValue c) 0)

/-- The number that a text spells: in base sixteen after `0x`, in base eight after `0`, else in base
ten. -/
def literal? (cs : List Char) : Option Nat :=
  match cs with
  | '0' :: 'x' :: rest => natOf 16 rest
  | '0' :: 'X' :: rest => natOf 16 rest
  | '0' :: rest => if rest.isEmpty then some 0 else natOf 8 rest
  | cs => natOf 10 cs

/-- The text of an integer in base ten. -/
def text (n : Int) : List Char :=
  if n < 0 then '-' :: Nat.toDigits 10 n.natAbs else Nat.toDigits 10 n.natAbs

/-! ## Expressions -/

/-- An arithmetic expression.  Assignments may be simple, or apply an operator first. -/
inductive Expression where
  | number (n : Int)
  | variable (name : List Char)
  | negate (e : Expression)
  | invert (e : Expression)
  | isZero (e : Expression)
  | binary (operator : String) (a b : Expression)
  | conditional (test first second : Expression)
  | assign (name : List Char) (operator : String) (value : Expression)
  deriving Inhabited

/-- Why an expression has no value. -/
inductive Trouble where
  | malformed
  | divisionByZero
  deriving DecidableEq, Repr

/-- The operators between two operands, with those that bind weakest first. -/
def levels : List (List String) :=
  [["||"], ["&&"], ["|"], ["^"], ["&"], ["==", "!="], ["<=", ">=", "<", ">"], ["<<", ">>"],
   ["+", "-"], ["*", "/", "%"]]

/-- The operators that combine an operation with an assignment. -/
def assignments : List String :=
  ["<<=", ">>=", "+=", "-=", "*=", "/=", "%=", "&=", "|=", "^=", "="]

/-- The text without blanks at its start. -/
def trim (cs : List Char) : List Char :=
  cs.dropWhile fun c => c = ' ' || c = '\t' || c = '\n'

/-- The first of the operators with which a text starts. -/
def operatorAt (operators : List String) (cs : List Char) : Option (String × List Char) :=
  operators.findSome? fun operator =>
    let chars := operator.toList
    let rest := cs.drop chars.length
    let longer := (chars = ['|'] && rest.head? = some '|') ||
      (chars = ['&'] && rest.head? = some '&') ||
      (chars = ['<'] && rest.head? = some '<') || (chars = ['>'] && rest.head? = some '>') ||
      (chars = ['='] && rest.head? = some '=') ||
      (chars.length ≤ 2 && rest.head? = some '=' &&
        ["+", "-", "*", "/", "%", "&", "|", "^", "<<", ">>"].contains operator)
    if chars.isPrefixOf cs && !longer then some (operator, rest) else none

mutual

/-- Reads an expression with an assignment or a conditional at the top. -/
def parse : (fuel : Nat) → List Char → Except Trouble (Expression × List Char)
  | 0, _ => .error .malformed
  | fuel + 1, cs => do
    let cs := trim cs
    let name := cs.takeWhile fun c => c.isAlphanum || c = '_'
    let isName := match name with | c :: _ => !c.isDigit | [] => false
    match if isName then operatorAt assignments (trim (cs.drop name.length)) else none with
    | some (operator, rest) =>
      let (value, rest) ← parse fuel rest
      return (.assign name (String.ofList (operator.toList.dropLast)) value, rest)
    | none =>
      let (test, rest) ← parseLevel fuel levels cs
      match trim rest with
      | '?' :: rest =>
        let (first, rest) ← parse fuel rest
        match trim rest with
        | ':' :: rest =>
          let (second, rest) ← parse fuel rest
          return (.conditional test first second, rest)
        | _ => .error .malformed
      | rest => return (test, rest)

/-- Reads operands of one level with the operators between them. -/
def parseLevel : (fuel : Nat) → List (List String) → List Char →
    Except Trouble (Expression × List Char)
  | 0, _, _ => .error .malformed
  | fuel + 1, [], cs => parseUnary fuel cs
  | fuel + 1, operators :: tighter, cs => do
    let (first, rest) ← parseLevel fuel tighter cs
    parseMore fuel operators tighter first rest

/-- Reads further operands of one level. -/
def parseMore : (fuel : Nat) → List String → List (List String) → Expression → List Char →
    Except Trouble (Expression × List Char)
  | 0, _, _, _, _ => .error .malformed
  | fuel + 1, operators, tighter, first, cs =>
    match operatorAt operators (trim cs) with
    | none => .ok (first, cs)
    | some (operator, rest) => do
      let (second, rest) ← parseLevel fuel tighter rest
      parseMore fuel operators tighter (.binary operator first second) rest

/-- Reads an operand. -/
def parseUnary : (fuel : Nat) → List Char → Except Trouble (Expression × List Char)
  | 0, _ => .error .malformed
  | fuel + 1, cs =>
    match trim cs with
    | '-' :: rest => do
      let (e, rest) ← parseUnary fuel rest
      return (.negate e, rest)
    | '+' :: rest => parseUnary fuel rest
    | '~' :: rest => do
      let (e, rest) ← parseUnary fuel rest
      return (.invert e, rest)
    | '!' :: rest => do
      let (e, rest) ← parseUnary fuel rest
      return (.isZero e, rest)
    | '(' :: rest => do
      let (e, rest) ← parse fuel rest
      match trim rest with
      | ')' :: rest => return (e, rest)
      | _ => .error .malformed
    | cs =>
      let word := cs.takeWhile fun c => c.isAlphanum || c = '_'
      let rest := cs.drop word.length
      match word with
      | [] => .error .malformed
      | c :: _ =>
        if c.isDigit then
          match literal? word with
          | some n => .ok (.number (wrap n), rest)
          | none => .error .malformed
        else .ok (.variable word, rest)

end

/-! ## Values -/

/-- The values of variables. -/
abbrev Values := List (List Char × List Char)

/-- The integer that the value of a variable spells. -/
def valueOf (values : Values) (name : List Char) : Except Trouble Int :=
  match trim ((values.lookup name).getD []) with
  | [] => .ok 0
  | '-' :: digits =>
    match literal? digits with
    | some n => .ok (wrap (-n))
    | none => .error .malformed
  | digits =>
    match literal? digits with
    | some n => .ok (wrap n)
    | none => .error .malformed

/-- The integer of a truth value. -/
def truth (b : Bool) : Int := if b then 1 else 0

/-- Applies an operation on the bits of two integers. -/
def bitwise (f : UInt64 → UInt64 → UInt64) (a b : Int) : Int :=
  wrap (f (UInt64.ofInt a) (UInt64.ofInt b)).toNat

/-- The value of an operator between two integers. -/
def apply (operator : String) (a b : Int) : Except Trouble Int :=
  match operator with
  | "+" => .ok (wrap (a + b))
  | "-" => .ok (wrap (a - b))
  | "*" => .ok (wrap (a * b))
  | "/" => if b = 0 then .error .divisionByZero else .ok (wrap (Int.tdiv a b))
  | "%" => if b = 0 then .error .divisionByZero else .ok (wrap (Int.tmod a b))
  | "<<" => .ok (wrap (a * twoTo (b % 64).toNat))
  | ">>" => .ok (Int.fdiv a (twoTo (b % 64).toNat))
  | "&" => .ok (bitwise (· &&& ·) a b)
  | "|" => .ok (bitwise (· ||| ·) a b)
  | "^" => .ok (bitwise (· ^^^ ·) a b)
  | "==" => .ok (truth (a == b))
  | "!=" => .ok (truth (a != b))
  | "<=" => .ok (truth (a ≤ b))
  | ">=" => .ok (truth (a ≥ b))
  | "<" => .ok (truth (a < b))
  | ">" => .ok (truth (a > b))
  | _ => .ok b

/-- Changes the value of a variable. -/
def setValue (values : Values) (name : List Char) (value : Int) : Values :=
  (name, text value) :: values.filter (·.1 ≠ name)

/-- The value of an expression, and the values of the variables after its assignments. -/
def evaluate (values : Values) : Expression → Except Trouble (Int × Values)
  | .number n => .ok (n, values)
  | .variable name => do return (← valueOf values name, values)
  | .negate e => do
    let (n, values) ← evaluate values e
    return (wrap (-n), values)
  | .invert e => do
    let (n, values) ← evaluate values e
    return (-n - 1, values)
  | .isZero e => do
    let (n, values) ← evaluate values e
    return (truth (n == 0), values)
  | .binary "&&" a b => do
    let (m, values) ← evaluate values a
    if m = 0 then return (0, values)
    let (n, values) ← evaluate values b
    return (truth (n != 0), values)
  | .binary "||" a b => do
    let (m, values) ← evaluate values a
    if m ≠ 0 then return (1, values)
    let (n, values) ← evaluate values b
    return (truth (n != 0), values)
  | .binary operator a b => do
    let (m, values) ← evaluate values a
    let (n, values) ← evaluate values b
    return (← apply operator m n, values)
  | .conditional test first second => do
    let (n, values) ← evaluate values test
    if n ≠ 0 then evaluate values first else evaluate values second
  | .assign name operator value => do
    let (n, values) ← evaluate values value
    let n ← if operator = "" then pure n else apply operator (← valueOf values name) n
    return (n, setValue values name n)

/-- The value of a text as an expression.  An empty text counts as zero. -/
def calculate (values : Values) (cs : List Char) : Except Trouble (Int × Values) :=
  if (trim cs).isEmpty then .ok (0, values)
  else
    match parse (40 * cs.length + 40) cs with
    | .error e => .error e
    | .ok (expression, rest) =>
      if (trim rest).isEmpty then evaluate values expression else .error .malformed

end AlgorithmDriver.Shell.Arithmetic
