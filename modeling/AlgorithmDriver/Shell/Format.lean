import AlgorithmDriver.Shell.Arithmetic

/-!
# Formatted output

The escapes that `echo` and `printf` know, and the conversions of `printf`.
-/

namespace AlgorithmDriver.Shell.Format

/-! ## Escapes -/

/-- A digit in base eight. -/
def isOctal (c : Char) : Bool := '0' ≤ c && c ≤ '7'

/-- The character that octal digits stand for. -/
def octalChar (digits : List Char) : Char :=
  Char.ofNat (((Arithmetic.natOf 8 digits).getD 0) % 256)

/-- The character that a letter stands for after a backslash. -/
def escaped? : Char → Option Char
  | 'a' => some '\x07'
  | 'b' => some '\x08'
  | 'f' => some '\x0c'
  | 'n' => some '\n'
  | 'r' => some '\r'
  | 't' => some '\t'
  | 'v' => some '\x0b'
  | '\\' => some '\\'
  | _ => none

/-- Resolves the escapes of a text.  Also says whether the output stops after it.  `zero` says that
the digits of a character have to follow a zero. -/
def unescape (zero : Bool) : (fuel : Nat) → List Char → List Char × Bool
  | 0, cs => (cs, false)
  | _, [] => ([], false)
  | fuel + 1, '\\' :: 'c' :: rest => if zero then ([], true) else
    let (out, stop) := unescape zero fuel rest
    ('\\' :: 'c' :: out, stop)
  | fuel + 1, '\\' :: c :: rest =>
    match escaped? c with
    | some e =>
      let (out, stop) := unescape zero fuel rest
      (e :: out, stop)
    | none =>
      if isOctal c && (!zero || c = '0') then
        let cs := if zero then rest else c :: rest
        let digits := (cs.take 3).takeWhile isOctal
        let (out, stop) := unescape zero fuel (cs.drop digits.length)
        (octalChar digits :: out, stop)
      else
        let (out, stop) := unescape zero fuel rest
        ('\\' :: c :: out, stop)
  | fuel + 1, c :: rest =>
    let (out, stop) := unescape zero fuel rest
    (c :: out, stop)

/-- What `echo` prints for its arguments. -/
def echo (arguments : List (List Char)) : List Char :=
  let (newline, arguments) :=
    match arguments with
    | ['-', 'n'] :: rest => (false, rest)
    | all => (true, all)
  let joined := [' '].intercalate arguments
  let (out, stop) := unescape true (joined.length + 1) joined
  if newline && !stop then out ++ ['\n'] else out

/-! ## Conversions -/

/-- How a conversion shows its argument. -/
structure Layout where
  left : Bool := false
  zeros : Bool := false
  plus : Bool := false
  blank : Bool := false
  alternate : Bool := false
  width : Nat := 0
  precision : Option Nat := none

/-- Pads a text to the width of a layout. -/
def pad (layout : Layout) (text : List Char) : List Char :=
  let missing := layout.width - text.length
  if layout.left then text ++ List.replicate missing ' ' else List.replicate missing ' ' ++ text

/-- Shows a number: its sign, what introduces its digits, and the digits. -/
def padNumber (layout : Layout) (sign digits : List Char) : List Char :=
  let least := layout.precision.getD 0
  let digits := List.replicate (least - digits.length) '0' ++ digits
  if layout.zeros && !layout.left && layout.precision.isNone then
    sign ++ List.replicate (layout.width - sign.length - digits.length) '0' ++ digits
  else pad layout (sign ++ digits)

/-- Reads the flags of a conversion. -/
def flags (layout : Layout) : List Char → Layout × List Char
  | '-' :: cs => flags { layout with left := true } cs
  | '0' :: cs => flags { layout with zeros := true } cs
  | '+' :: cs => flags { layout with plus := true } cs
  | ' ' :: cs => flags { layout with blank := true } cs
  | '#' :: cs => flags { layout with alternate := true } cs
  | cs => (layout, cs)

/-- The integer that an argument spells, and whether it spells one.  After a quote it is the number
of the character. -/
def integer (argument : List Char) : Int × Bool :=
  match argument with
  | [] => (0, true)
  | '"' :: c :: _ => (c.toNat, true)
  | '\'' :: c :: _ => (c.toNat, true)
  | cs =>
    let cs := Arithmetic.trim cs
    let (negative, digits) :=
      match cs with
      | '-' :: rest => (true, rest)
      | '+' :: rest => (false, rest)
      | rest => (false, rest)
    let valid := digits.takeWhile fun c => c.isAlphanum
    match Arithmetic.literal? valid with
    | some n => (if negative then -n else n, valid.length = digits.length)
    | none =>
      let decimal := digits.takeWhile Char.isDigit
      let n : Nat := (Arithmetic.natOf 10 decimal).getD 0
      (if negative then -n else n, false)

/-- Digits in a base up to sixteen. -/
def digits (base : Nat) (upper : Bool) (n : Nat) : List Char :=
  let cs := Nat.toDigits base n
  if upper then cs.map Char.toUpper else cs

/-- What is printed so far, and how it went. -/
structure Output where
  text : List Char := []
  failed : Bool := false
  stopped : Bool := false
  deriving Repr

/-- Shows an argument as a conversion says. -/
def convert (layout : Layout) (conversion : Char) (argument : List Char) : Output :=
  let cut (text : List Char) : List Char :=
    match layout.precision with
    | some n => text.take n
    | none => text
  match conversion with
  | 's' => { text := pad layout (cut argument) }
  | 'b' =>
    let (text, stopped) := unescape true (argument.length + 1) argument
    { text := pad layout (cut text), stopped }
  | 'c' => { text := pad layout (argument.take 1) }
  | conversion =>
    let (n, valid) := integer argument
    let unsigned := (if n < 0 then n + twoTo 64 else n).toNat
    let text :=
      match conversion with
      | 'o' => padNumber layout (if layout.alternate then ['0'] else []) (digits 8 false unsigned)
      | 'x' =>
        padNumber layout (if layout.alternate then ['0', 'x'] else []) (digits 16 false unsigned)
      | 'X' =>
        padNumber layout (if layout.alternate then ['0', 'X'] else []) (digits 16 true unsigned)
      | 'u' => padNumber layout [] (digits 10 false unsigned)
      | _ =>
        let sign :=
          if n < 0 then ['-'] else if layout.plus then ['+'] else if layout.blank then [' '] else []
        padNumber layout sign (digits 10 false n.natAbs)
    { text, failed := !valid }

/-- Adds what comes next to the output. -/
def Output.append (first second : Output) : Output :=
  { text := first.text ++ second.text, failed := first.failed || second.failed
    stopped := second.stopped }

/-- Reads the width or the precision of a conversion, which may be an argument. -/
def amount (cs : List Char) (arguments : List (List Char)) :
    Nat × List Char × List (List Char) :=
  match cs with
  | '*' :: rest => ((integer (arguments.headD [])).1.toNat, rest, arguments.drop 1)
  | cs =>
    let ds := cs.takeWhile Char.isDigit
    ((Arithmetic.natOf 10 ds).getD 0, cs.drop ds.length, arguments)

/-- Goes through a format once.  Returns the output and the arguments that are left. -/
def once : (fuel : Nat) → List Char → List (List Char) → Output → Output × List (List Char)
  | 0, _, arguments, output => (output, arguments)
  | _, [], arguments, output => (output, arguments)
  | fuel + 1, '%' :: '%' :: rest, arguments, output =>
    once fuel rest arguments (output.append { text := ['%'] })
  | fuel + 1, '%' :: rest, arguments, output =>
    let (layout, rest) := flags {} rest
    let (width, rest, arguments) := amount rest arguments
    let (precision, rest, arguments) :=
      match rest with
      | '.' :: rest =>
        let (n, rest, arguments) := amount rest arguments
        (some n, rest, arguments)
      | rest => (none, rest, arguments)
    match rest with
    | [] => ({ output with failed := true, stopped := true }, [])
    | conversion :: rest =>
      if ['s', 'b', 'c', 'd', 'i', 'o', 'u', 'x', 'X'].contains conversion then
        let output :=
          output.append (convert { layout with width, precision } conversion (arguments.headD []))
        if output.stopped then (output, []) else once fuel rest (arguments.drop 1) output
      else ({ output with failed := true, stopped := true }, [])
  | fuel + 1, '\\' :: rest, arguments, output =>
    let unit :=
      match rest with
      | c :: more => if isOctal c then (c :: more).take 3 |>.takeWhile isOctal else [c]
      | [] => []
    let (text, _) := unescape false (unit.length + 2) ('\\' :: unit)
    once fuel (rest.drop unit.length) arguments (output.append { text })
  | fuel + 1, c :: rest, arguments, output =>
    once fuel rest arguments (output.append { text := [c] })

/-- Goes through a format as often as there are arguments for it. -/
def repeated : (fuel : Nat) → List Char → List (List Char) → Output → Output
  | 0, _, _, output => output
  | fuel + 1, format, arguments, output =>
    let (output, rest) := once (format.length + 1) format arguments output
    if output.stopped || rest.isEmpty || rest.length = arguments.length then output
    else repeated fuel format rest output

/-- What `printf` prints for a format and its arguments. -/
def printf (format : List Char) (arguments : List (List Char)) : Output :=
  repeated (arguments.length + 1) format arguments {}

end AlgorithmDriver.Shell.Format
