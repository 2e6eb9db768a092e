import AlgorithmDriver.Filter.Stream

/-!
# Filters that work on texts

Programs that count, replace, order or choose what they read: `wc`, `tr`, `sort`, `uniq`, `tail` and
`rev`.
-/

namespace AlgorithmDriver.Filter

/-! ## Counting -/

/-- Whether a byte separates words. -/
def isSpaceByte (b : UInt8) : Bool := b == 32 || (9 ≤ b && b ≤ 13)

/-- The number of words of a text.  `inside` says whether a word has begun. -/
def countWords (inside : Bool) : Bytes → Nat
  | [] => 0
  | b :: bs =>
    if isSpaceByte b then countWords false bs
    else (if inside then 0 else 1) + countWords true bs

/-- The counts of a text that are asked for by the letters of options, in a fixed order. -/
def counts (flags : List Char) (data : Bytes) : List Nat :=
  let flags := if flags.isEmpty then ['l', 'w', 'c'] else flags
  [('l', data.count 10), ('w', countWords false data), ('m', data.length),
    ('c', data.length)].filterMap
    fun (letter, n) => if flags.contains letter then some n else none

/-- A number at the end of a column. -/
def column (width n : Nat) : List Char :=
  let digits := Nat.toDigits 10 n
  List.replicate (width - digits.length) ' ' ++ digits

/-- A line of counts, with the name of what was counted. -/
def countLine (width : Nat) (numbers : List Nat) (label : Option (List Char)) : List Char :=
  [' '].intercalate (numbers.map (column width)) ++
    (match label with
      | some label => ' ' :: label
      | none => []) ++ ['\n']

/-- The width of the columns when counts of a pipe are among them. -/
def pipeWidth : Nat := 7

/-- Counts inputs, one after the other. -/
def countInputs (flags : List Char) : List Input → Program (List (Input × Bytes) × Bool)
  | [] => return ([], true)
  | input :: rest => do
    let first ← withInput "wc" none "" input fun n => some <$> Program.readToEnd n
    let (others, good) ← countInputs flags rest
    match first with
    | some data => return ((input, data) :: others, good)
    | none => return (others, false)

/-- The program `wc`. -/
def wc : Main := fun arguments => do
  let (flags, operands) := flagsAndOperands (operandsOf arguments)
  let (counted, good) ← countInputs flags (inputs operands)
  let total := (counted.map Prod.snd).flatten
  let sole := operands.length ≤ 1
  let width :=
    if sole && flags.eraseDups.length = 1 then 1
    else if counted.any (·.1 == .standard) then pipeWidth
    else (Nat.toDigits 10 total.length).length
  let line (label : Option (List Char)) (data : Bytes) := countLine width (counts flags data) label
  let body := counted.flatMap fun (input, data) =>
    match input with
    | .standard => line (if operands.isEmpty then none else some ['-']) data
    | .file path => line (some path) data
  let summary := if sole then [] else line (some "total".toList) total
  finish "wc" (Bytes.ofChars (body ++ summary)) (if good then 0 else 1)

/-! ## Replacing characters -/

/-- The characters of a class. -/
def classMembers (name : String) : List Char :=
  let all := (List.range 256).map Char.ofNat
  match name with
  | "lower" => all.filter Char.isLower
  | "upper" => all.filter Char.isUpper
  | "alpha" => all.filter Char.isAlpha
  | "digit" => all.filter Char.isDigit
  | "alnum" => all.filter Char.isAlphanum
  | "space" => all.filter fun c => c = ' ' || ('\t' ≤ c && c ≤ '\r')
  | "blank" => ['\t', ' ']
  | "punct" => all.filter fun c => '!' ≤ c && c ≤ '~' && !c.isAlphanum
  | "print" => all.filter fun c => ' ' ≤ c && c ≤ '~'
  | "graph" => all.filter fun c => '!' ≤ c && c ≤ '~'
  | "cntrl" => all.filter fun c => c < ' ' || c = '\x7f'
  | "xdigit" => all.filter fun c => c.isDigit || ('a' ≤ c && c ≤ 'f') || ('A' ≤ c && c ≤ 'F')
  | _ => []

/-- The first character of a set, which may be written with a backslash, and what follows it. -/
def setChar : List Char → Option (Char × List Char)
  | [] => none
  | '\\' :: c :: rest =>
    let digits := ((c :: rest).take 3).takeWhile fun c => '0' ≤ c && c ≤ '7'
    if digits.isEmpty then
      let plain := match c with
        | 'n' => '\n'
        | 't' => '\t'
        | 'r' => '\r'
        | 'a' => '\x07'
        | 'b' => '\x08'
        | 'f' => '\x0c'
        | 'v' => '\x0b'
        | c => c
      some (plain, rest)
    else
      some (Char.ofNat (((Shell.Arithmetic.natOf 8 digits).getD 0) % 256),
        (c :: rest).drop digits.length)
  | c :: rest => some (c, rest)

/-- The characters of a set.  Each round takes at least one character. -/
def setMembers : (rounds : Nat) → List Char → List Char
  | 0, _ => []
  | rounds + 1, '[' :: ':' :: rest =>
    let name := rest.takeWhile (· ≠ ':')
    let after := rest.drop name.length
    if after.take 2 = [':', ']'] then
      classMembers (String.ofList name) ++ setMembers rounds (after.drop 2)
    else '[' :: setMembers rounds (':' :: rest)
  | rounds + 1, text =>
    match setChar text with
    | none => []
    | some (first, '-' :: rest) =>
      match setChar rest with
      | none => [first, '-']
      | some (last, rest) =>
        ((List.range (last.toNat + 1 - first.toNat)).map fun i => Char.ofNat (first.toNat + i)) ++
          setMembers rounds rest
    | some (first, rest) => first :: setMembers rounds rest

/-- The set that an operand describes. -/
def setOf (text : List Char) : List Char := setMembers (text.length + 1) text

/-- The characters that are not in a set. -/
def complement (set : List Char) : List Char :=
  ((List.range 256).map Char.ofNat).filter (!set.contains ·)

/-- The character that one in the first set is replaced by: the one at the same place of the second
set, or its last one. -/
def replacement (first second : List Char) (c : Char) : Char :=
  match first.reverse.idxOf? c with
  | none => c
  | some i => (second[first.length - 1 - i]?).getD (second.getLastD c)

/-- Leaves out characters of a set that repeat the one before them. -/
def squeeze (set : List Char) : (previous : Option Char) → List Char → List Char
  | _, [] => []
  | previous, c :: cs =>
    if previous = some c && set.contains c then squeeze set previous cs
    else c :: squeeze set (some c) cs

/-- The program `tr`. -/
def tr : Main := fun arguments => do
  let (flags, operands) := flagsAndOperands (operandsOf arguments)
  let deletes := flags.contains 'd'
  let squeezes := flags.contains 's'
  let turn (set : List Char) :=
    if flags.contains 'c' || flags.contains 'C' then complement set else set
  match operands with
  | [] => refuse "tr" "missing operand".toList
  | [only] =>
    if !deletes && !squeezes then
      refuse "tr" ("missing operand after '".toList ++ only ++ ['\''])
    else
      let set := turn (setOf only)
      run fun previous cs =>
        if deletes then cs.filter (!set.contains ·) else squeeze set previous cs
  | first :: second :: _ =>
    let first := turn (setOf first)
    let second := setOf second
    run fun previous cs =>
      if deletes then squeeze second previous (cs.filter (!first.contains ·))
      else
        let replaced := cs.map (replacement first second)
        if squeezes then squeeze second previous replaced else replaced
where
  /-- Writes what a change makes of the input.  The change is told the last character written. -/
  run (change : Option Char → List Char → List Char) : Program Nat := do
    let ((_, good), _) ←
      forPieces 0 pieceSize (fun ((previous, _) : Option Char × Bool) bytes => do
        let changed := change previous (Bytes.toChars bytes)
        let good ← output "tr" (Bytes.ofChars changed)
        return ((changed.getLast?.or previous, good), good)) Program.loopLimit (none, true)
    return if good then 0 else 1

/-! ## Order -/

/-- The integer at the start of a line. -/
def leadingNumber (line : Bytes) : Int :=
  let cs := (Bytes.toChars line).dropWhile fun c => c = ' ' || c = '\t'
  let (negative, cs) :=
    match cs with
    | '-' :: rest => (true, rest)
    | cs => (false, cs)
  let n : Nat := (number? (cs.takeWhile Char.isDigit)).getD 0
  if negative then -n else n

/-- The program `sort`. -/
def sort : Main := fun arguments => do
  let (flags, operands) := flagsAndOperands (operandsOf arguments)
  let (data, good) ← readInputs "sort" (inputs operands)
  if !good then return 2
  let numeric := flags.contains 'n'
  let before (a b : Bytes) : Bool :=
    if numeric && leadingNumber a ≠ leadingNumber b then leadingNumber a < leadingNumber b
    else Bytes.precedesOrEqual a b
  let ordered := (linesOf data).mergeSort before
  let ordered := if flags.contains 'r' then ordered.reverse else ordered
  let same (a b : Bytes) : Bool := if numeric then leadingNumber a = leadingNumber b else a = b
  let chosen :=
    if flags.contains 'u' then (ordered.splitBy same).filterMap List.head? else ordered
  finish "sort" (joinLines chosen) 0

/-- The program `uniq`. -/
def uniq : Main := fun arguments => do
  let (flags, operands) := flagsAndOperands (operandsOf arguments)
  let (data, good) ← readInputs "uniq" (inputs (operands.take 1))
  if !good then return 1
  let groups := (linesOf data).splitBy fun a b => a = b
  let groups :=
    if flags.contains 'd' then groups.filter (·.length > 1)
    else if flags.contains 'u' then groups.filter (·.length = 1)
    else groups
  let show' (group : List Bytes) : Bytes :=
    let line := group.headD []
    if flags.contains 'c' then Bytes.ofChars (column pipeWidth group.length ++ [' ']) ++ line
    else line
  finish "uniq" (joinLines (groups.map show')) 0

/-! ## Ends -/

/-- The last `n` lines of a text. -/
def lastLines (n : Nat) (data : Bytes) : Bytes :=
  let ended := data.getLast? = some 10
  let lines := linesOf data
  let chosen := lines.drop (lines.length - n)
  if ended then joinLines chosen else (joinLines chosen).dropLast

/-- The program `tail`. -/
def tail : Main := fun arguments => do
  match readExtent (.lines 10) (operandsOf arguments) with
  | .error message => refuse "tail" message
  | .ok (extent, operands) =>
    let (data, good) ← readInputs "tail" (inputs operands)
    let part := match extent with
      | .lines n => lastLines n data
      | .bytes n => data.drop (data.length - n)
    finish "tail" part (if good then 0 else 1)

/-- The program `rev`. -/
def rev : Main := fun arguments => do
  let (data, good) ← readInputs "rev" (inputs (operandsOf arguments))
  finish "rev" (joinLines ((linesOf data).map List.reverse)) (if good then 0 else 1)

end AlgorithmDriver.Filter
