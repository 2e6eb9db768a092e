import AlgorithmDriver.Json.Problem

/-!
# Lexical elements of documents

Blanks, strings, numbers and literal words, and skipping of values that nobody asked for.  Every
function takes the characters that are left of the document and returns what it read together with
the characters after it, or the first problem it met.  Main statements: what is left after a string
or a number is shorter than what was there before.
-/

namespace AlgorithmDriver.Json

/-- Blank characters, which may stand between any two elements. -/
def isBlank (c : Char) : Bool := c == ' ' || c == '\n' || c == '\t' || c == '\r'

/-- Drops the blanks at the beginning. -/
def skipBlank (cs : List Char) : List Char := cs.dropWhile isBlank

/-- What remains after `skipBlank` is no longer than what it was given. -/
theorem length_skipBlank_le (cs : List Char) : (skipBlank cs).length ≤ cs.length :=
  (List.dropWhile_sublist _).length_le

/-! ## Strings -/

/-- Four hexadecimal digits.  When fewer than four bytes are left the document ends too early,
whatever they are. -/
def readHex : List Char → Except Failure (Nat × List Char)
  | a :: b :: c :: d :: rest =>
    match Decimal.hexValue? a, Decimal.hexValue? b, Decimal.hexValue? c, Decimal.hexValue? d with
    | some a, some b, some c, some d => .ok (((a * 16 + b) * 16 + c) * 16 + d, rest)
    | _, _, _, _ => .error (.form .invalidEscape)
  | short =>
    if 4 ≤ (String.ofList short).utf8ByteSize then .error (.form .invalidEscape)
    else .error (.unfinished .string)

/-- A character written by its number, after the `\u`: one group of four digits, or two groups that
are a pair of surrogates. -/
def readUnicode (cs : List Char) : Except Failure (Char × List Char) :=
  match readHex cs with
  | .error e => .error e
  | .ok (high, rest) =>
    if 0xDC00 ≤ high ∧ high ≤ 0xDFFF then .error (.form .loneSurrogate)
    else if high < 0xD800 ∨ 0xDBFF < high then .ok (Char.ofNat high, rest)
    else
      match rest with
      | [] => .error (.unfinished .string)
      | '\\' :: [] => .error (.unfinished .string)
      | '\\' :: 'u' :: rest =>
        match readHex rest with
        | .error e => .error e
        | .ok (low, rest) =>
          if low < 0xDC00 ∨ 0xDFFF < low then .error (.form .loneSurrogate)
          else .ok (Char.ofNat (0x10000 + (high - 0xD800) * 0x400 + (low - 0xDC00)), rest)
      | _ => .error (.form .unexpectedEndOfHexEscape)

/-- The character that a letter after a backslash stands for. -/
def simpleEscape? : Char → Option Char
  | '"' => some '"'
  | '\\' => some '\\'
  | '/' => some '/'
  | 'b' => some '\x08'
  | 'f' => some '\x0c'
  | 'n' => some '\n'
  | 'r' => some '\r'
  | 't' => some '\t'
  | _ => none

/-- An escaped character, after the backslash. -/
def readEscape : List Char → Except Failure (Char × List Char)
  | [] => .error (.unfinished .string)
  | c :: rest =>
    match simpleEscape? c with
    | some c => .ok (c, rest)
    | none => if c = 'u' then readUnicode rest else .error (.form .invalidEscape)

/-- What remains after `readHex` is shorter than what it was given. -/
theorem length_of_readHex {cs rest : List Char} {n : Nat} (h : readHex cs = .ok (n, rest)) :
    rest.length < cs.length := by
  unfold readHex at h
  split at h
  · split at h
    · simp only [Except.ok.injEq, Prod.mk.injEq] at h
      simp only [← h.2, List.length_cons]
      omega
    · simp at h
  · split at h <;> simp at h

/-- What remains after `readUnicode` is shorter than what it was given. -/
theorem length_of_readUnicode {cs rest : List Char} {c : Char}
    (h : readUnicode cs = .ok (c, rest)) : rest.length < cs.length := by
  unfold readUnicode at h
  split at h
  · simp at h
  next high r hr =>
    have h1 := length_of_readHex hr
    split at h
    · simp at h
    · split at h
      · simp only [Except.ok.injEq, Prod.mk.injEq] at h
        rw [← h.2]
        exact h1
      · split at h
        · simp at h
        · simp at h
        · split at h
          · simp at h
          next r2 low r3 hr2 =>
            have h2 := length_of_readHex hr2
            split at h
            · simp at h
            · simp only [Except.ok.injEq, Prod.mk.injEq] at h
              rw [← h.2]
              simp only [List.length_cons] at h1
              omega
        · simp at h

/-- What remains after `readEscape` is shorter than what it was given. -/
theorem length_of_readEscape {cs rest : List Char} {c : Char}
    (h : readEscape cs = .ok (c, rest)) : rest.length < cs.length := by
  unfold readEscape at h
  split at h
  · simp at h
  · split at h
    · simp only [Except.ok.injEq, Prod.mk.injEq] at h
      simp [← h.2]
    · split at h
      · have := length_of_readUnicode h
        simp only [List.length_cons]
        omega
      · simp at h

/-- A string, after the opening quote.  `done` holds the characters read so far, last one first. -/
def readText (done : List Char) (cs : List Char) : Except Failure (String × List Char) :=
  match cs with
  | [] => .error (.unfinished .string)
  | c :: rest =>
    if c = '"' then .ok (String.ofList done.reverse, rest)
    else if c = '\\' then
      match h : readEscape rest with
      | .error e => .error e
      | .ok (c, rest') =>
        have : rest'.length < rest.length + 1 := by
          have := length_of_readEscape h
          omega
        readText (c :: done) rest'
    else if c < ' ' then .error (.form .controlCharacter)
    else readText (c :: done) rest
termination_by cs.length

/-- What remains after `readText` is shorter than what it was given. -/
theorem length_of_readText {done cs rest : List Char} {s : String}
    (h : readText done cs = .ok (s, rest)) : rest.length < cs.length := by
  fun_induction readText done cs with
  | case1 => simp at h
  | case2 done rest' => simp only [Except.ok.injEq, Prod.mk.injEq] at h; simp [← h.2]
  | case3 => simp at h
  | case4 done rest1 c rest2 hr h1 h2 ih =>
    have := ih h
    have := length_of_readEscape hr
    simp only [List.length_cons]
    omega
  | case5 => simp at h
  | case6 done c rest1 h1 h2 h3 ih =>
    have := ih h
    simp only [List.length_cons]
    omega

/-- Skips an escaped character, after the backslash.  Numbers of characters are not looked at. -/
def skipEscape : List Char → Except Failure (List Char)
  | [] => .error (.unfinished .string)
  | c :: rest =>
    if (simpleEscape? c).isSome then .ok rest
    else if c = 'u' then (readHex rest).map Prod.snd
    else .error (.form .invalidEscape)

/-- What remains after `skipEscape` is shorter than what it was given. -/
theorem length_of_skipEscape {cs rest : List Char} (h : skipEscape cs = .ok rest) :
    rest.length < cs.length := by
  unfold skipEscape at h
  split at h
  · simp at h
  · split at h
    · simp only [Except.ok.injEq] at h
      simp [← h]
    · split at h
      next c r _ _ =>
        cases hr : readHex r with
        | error e => simp [hr, Except.map] at h
        | ok p =>
          obtain ⟨n, r2⟩ := p
          simp only [hr, Except.map, Except.ok.injEq] at h
          have := length_of_readHex hr
          simp only [← h, List.length_cons]
          omega
      · simp at h

/-- Skips a string, after the opening quote. -/
def skipText (cs : List Char) : Except Failure (List Char) :=
  match cs with
  | [] => .error (.unfinished .string)
  | c :: rest =>
    if c = '"' then .ok rest
    else if c = '\\' then
      match h : skipEscape rest with
      | .error e => .error e
      | .ok rest' =>
        have : rest'.length < rest.length + 1 := by
          have := length_of_skipEscape h
          omega
        skipText rest'
    else if c < ' ' then .error (.form .controlCharacter)
    else skipText rest
termination_by cs.length

/-- What remains after `skipText` is shorter than what it was given. -/
theorem length_of_skipText {cs rest : List Char} (h : skipText cs = .ok rest) :
    rest.length < cs.length := by
  fun_induction skipText cs with
  | case1 => simp at h
  | case2 rest' => simp only [Except.ok.injEq] at h; simp [← h]
  | case3 => simp at h
  | case4 rest1 rest2 hr h1 h2 ih =>
    have := ih h
    have := length_of_skipEscape hr
    simp only [List.length_cons]
    omega
  | case5 => simp at h
  | case6 c rest1 h1 h2 h3 ih =>
    have := ih h
    simp only [List.length_cons]
    omega

/-! ## Numbers -/

/-- A number of a document: an integer of 64 bits, with or without a minus sign, or anything else,
which is a floating point number. -/
inductive Number where
  | whole (value : UInt64)
  /-- The number `-value`. -/
  | negative (value : Nat)
  | float (negative : Bool) (value : Binary64)
  deriving DecidableEq, Repr

/-- What a number is called in messages. -/
def Number.found : Number → Found
  | whole value => .integer value.toNat
  | negative value => .integer (-value)
  | float minus value => .float minus value

/-- The digits at the beginning, and the rest. -/
def spanDigits (cs : List Char) : List Char × List Char :=
  (cs.takeWhile Decimal.isDigit, cs.dropWhile Decimal.isDigit)

/-- Extends a significand by digits as long as it stays below `2 ^ 64`.  Also returns how many
digits were used and how many were left over. -/
def extend (significand used : Nat) : List Char → Nat × Nat × Nat
  | [] => (significand, used, 0)
  | d :: ds =>
    let next := significand * 10 + Decimal.digitValue d
    if next < twoTo 64 then extend next (used + 1) ds else (significand, used, ds.length + 1)

/-- The floating point number of the given parts. -/
def makeFloat (negative : Bool) (significand : Nat) (exponent : Int) (rest : List Char) :
    Except Failure (Number × List Char) :=
  match (Binary64.ofNat significand).scale exponent with
  | none => .error (.form .numberOutOfRange)
  | some value => .ok (.float negative value, rest)

/-- The sign of an exponent, true for plus, and the rest. -/
def readSign : List Char → Bool × List Char
  | '+' :: rest => (true, rest)
  | '-' :: rest => (false, rest)
  | rest => (true, rest)

/-- The exponent of a number, after its letter.  An exponent of `2 ^ 31` or more is out of range
when it is positive, and otherwise makes the number zero. -/
def readExponent (negative : Bool) (significand : Nat) (exponent : Int) (cs : List Char) :
    Except Failure (Number × List Char) :=
  let (plus, cs) := readSign cs
  match cs with
  | [] => .error (.unfinished .value)
  | c :: _ =>
    if Decimal.isDigit c then
      let (ds, rest) := spanDigits cs
      let size := Decimal.value ds
      if size < twoTo 31 then
        makeFloat negative significand (if plus then exponent + size else exponent - size) rest
      else if significand ≠ 0 ∧ plus then .error (.form .numberOutOfRange)
      else .ok (.float negative .zero, rest)
    else .error (.form .invalidNumber)

/-- The fraction of a number, after the point.  Digits for which the significand has no room do not
count. -/
def readFraction (negative : Bool) (significand : Nat) (exponent : Int) (cs : List Char) :
    Except Failure (Number × List Char) :=
  match spanDigits cs with
  | ([], []) => .error (.unfinished .value)
  | ([], _ :: _) => .error (.form .invalidNumber)
  | (ds, rest) =>
    let (significand, used, _) := extend significand 0 ds
    let exponent := exponent - used
    match rest with
    | 'e' :: rest => readExponent negative significand exponent rest
    | 'E' :: rest => readExponent negative significand exponent rest
    | rest => makeFloat negative significand exponent rest

/-- What follows the digits before the point. -/
def readNumberEnd (negative : Bool) (significand dropped : Nat) (cs : List Char) :
    Except Failure (Number × List Char) :=
  match cs with
  | '.' :: rest => readFraction negative significand dropped rest
  | 'e' :: rest => readExponent negative significand dropped rest
  | 'E' :: rest => readExponent negative significand dropped rest
  | rest =>
    if dropped ≠ 0 then makeFloat negative significand dropped rest
    else if negative then
      if significand = 0 ∨ twoTo 63 < significand then makeFloat true significand 0 rest
      else .ok (.negative significand, rest)
    else .ok (.whole (UInt64.ofNat significand), rest)

/-- A number, after its minus sign if it has one. -/
def readNumber (negative : Bool) (cs : List Char) : Except Failure (Number × List Char) :=
  match cs with
  | [] => .error (.unfinished .value)
  | c :: rest =>
    if c = '0' then
      match rest with
      | [] => readNumberEnd negative 0 0 rest
      | d :: _ =>
        if Decimal.isDigit d then .error (.form .invalidNumber)
        else readNumberEnd negative 0 0 rest
    else if Decimal.isDigit c then
      let (ds, rest) := spanDigits (c :: rest)
      let (significand, _, dropped) := extend 0 0 ds
      readNumberEnd negative significand dropped rest
    else .error (.form .invalidNumber)

/-- What remains after `spanDigits` is no longer than what it was given. -/
theorem length_spanDigits_le (cs : List Char) : (spanDigits cs).2.length ≤ cs.length :=
  (List.dropWhile_sublist _).length_le

/-- What remains after `makeFloat` is no longer than what it was given. -/
theorem length_of_makeFloat {negative : Bool} {significand : Nat} {exponent : Int}
    {cs rest : List Char} {n : Number}
    (h : makeFloat negative significand exponent cs = .ok (n, rest)) :
    rest = cs := by
  unfold makeFloat at h
  split at h
  · simp at h
  · simp only [Except.ok.injEq, Prod.mk.injEq] at h
    exact h.2.symm

/-- What remains after `readSign` is no longer than what it was given. -/
theorem length_readSign_le (cs : List Char) : (readSign cs).2.length ≤ cs.length := by
  unfold readSign
  split <;> simp

/-- What remains after `readExponent` is no longer than what it was given. -/
theorem length_of_readExponent {negative : Bool} {significand : Nat} {exponent : Int}
    {cs rest : List Char} {n : Number}
    (h : readExponent negative significand exponent cs = .ok (n, rest)) :
    rest.length ≤ cs.length := by
  have hs := length_readSign_le cs
  unfold readExponent at h
  generalize readSign cs = p at h hs
  obtain ⟨plus, ds⟩ := p
  simp only at h hs
  split at h
  · simp at h
  next c tail =>
    split at h
    · have hd := length_spanDigits_le (c :: tail)
      split at h
      · rw [length_of_makeFloat h]
        omega
      · split at h
        · simp at h
        · simp only [Except.ok.injEq, Prod.mk.injEq] at h
          rw [← h.2]
          omega
    · simp at h

/-- What remains after `readFraction` is no longer than what it was given. -/
theorem length_of_readFraction {negative : Bool} {significand : Nat} {exponent : Int}
    {cs rest : List Char} {n : Number}
    (h : readFraction negative significand exponent cs = .ok (n, rest)) :
    rest.length ≤ cs.length := by
  have hd := length_spanDigits_le cs
  unfold readFraction at h
  generalize spanDigits cs = p at h hd
  split at h
  · simp at h
  · simp at h
  next ds r _ =>
    simp only at h hd
    split at h
    · have := length_of_readExponent h
      simp only [List.length_cons] at hd
      omega
    · have := length_of_readExponent h
      simp only [List.length_cons] at hd
      omega
    · rw [length_of_makeFloat h]
      exact hd

/-- What remains after `readNumberEnd` is no longer than what it was given. -/
theorem length_of_readNumberEnd {negative : Bool} {significand dropped : Nat}
    {cs rest : List Char} {n : Number}
    (h : readNumberEnd negative significand dropped cs = .ok (n, rest)) :
    rest.length ≤ cs.length := by
  unfold readNumberEnd at h
  split at h
  · have := length_of_readFraction h
    simp only [List.length_cons]
    omega
  · have := length_of_readExponent h
    simp only [List.length_cons]
    omega
  · have := length_of_readExponent h
    simp only [List.length_cons]
    omega
  · split at h
    · exact Nat.le_of_eq (by rw [length_of_makeFloat h])
    · split at h
      · split at h
        · exact Nat.le_of_eq (by rw [length_of_makeFloat h])
        · simp only [Except.ok.injEq, Prod.mk.injEq] at h
          exact Nat.le_of_eq (by rw [← h.2])
      · simp only [Except.ok.injEq, Prod.mk.injEq] at h
        exact Nat.le_of_eq (by rw [← h.2])

/-- What remains after `readNumber` is shorter than what it was given. -/
theorem length_of_readNumber {negative : Bool} {cs rest : List Char} {n : Number}
    (h : readNumber negative cs = .ok (n, rest)) : rest.length < cs.length := by
  unfold readNumber at h
  split at h
  · simp at h
  next c tail =>
    split at h
    · split at h
      · have := length_of_readNumberEnd h
        simp only [List.length_cons]
        omega
      · split at h
        · simp at h
        · have := length_of_readNumberEnd h
          simp only [List.length_cons] at this ⊢
          omega
    · split at h
      next hd =>
        have := length_of_readNumberEnd h
        have hs : (spanDigits (c :: tail)).2 = (spanDigits tail).2 := by
          simp [spanDigits, hd]
        have hl := length_spanDigits_le tail
        simp only [spanDigits] at this hs hl
        rw [hs] at this
        simp only [List.length_cons]
        omega
      · simp at h

/-- Skips the exponent of a number, after its letter. -/
def skipExponent (cs : List Char) : Except Failure (List Char) :=
  match spanDigits (readSign cs).2 with
  | ([], _) => .error (.form .invalidNumber)
  | (_ :: _, rest) => .ok rest

/-- Skips the fraction of a number, after the point. -/
def skipFraction (cs : List Char) : Except Failure (List Char) :=
  match spanDigits cs with
  | ([], _) => .error (.form .invalidNumber)
  | (_ :: _, 'e' :: rest) => skipExponent rest
  | (_ :: _, 'E' :: rest) => skipExponent rest
  | (_ :: _, rest) => .ok rest

/-- Skips what follows the digits before the point. -/
def skipNumberEnd : List Char → Except Failure (List Char)
  | '.' :: rest => skipFraction rest
  | 'e' :: rest => skipExponent rest
  | 'E' :: rest => skipExponent rest
  | rest => .ok rest

/-- Skips a number, after its minus sign if it has one.  Its size does not matter. -/
def skipNumber : List Char → Except Failure (List Char)
  | '0' :: d :: rest =>
    if Decimal.isDigit d then .error (.form .invalidNumber) else skipNumberEnd (d :: rest)
  | cs =>
    match spanDigits cs with
    | ([], _) => .error (.form .invalidNumber)
    | (_ :: _, rest) => skipNumberEnd rest

/-- What remains after `skipExponent` is no longer than what it was given. -/
theorem length_of_skipExponent {cs rest : List Char} (h : skipExponent cs = .ok rest) :
    rest.length ≤ cs.length := by
  have hs := length_readSign_le cs
  have hd := length_spanDigits_le (readSign cs).2
  unfold skipExponent at h
  generalize spanDigits (readSign cs).2 = p at h hd
  split at h
  · simp at h
  · simp only [Except.ok.injEq] at h
    simp only [h] at hd
    omega

/-- What remains after `skipFraction` is no longer than what it was given. -/
theorem length_of_skipFraction {cs rest : List Char} (h : skipFraction cs = .ok rest) :
    rest.length ≤ cs.length := by
  have hd := length_spanDigits_le cs
  unfold skipFraction at h
  generalize spanDigits cs = p at h hd
  split at h
  · simp at h
  · have := length_of_skipExponent h
    simp only [List.length_cons] at hd
    omega
  · have := length_of_skipExponent h
    simp only [List.length_cons] at hd
    omega
  · simp only [Except.ok.injEq] at h
    simp only [h] at hd
    exact hd

/-- What remains after `skipNumberEnd` is no longer than what it was given. -/
theorem length_of_skipNumberEnd {cs rest : List Char} (h : skipNumberEnd cs = .ok rest) :
    rest.length ≤ cs.length := by
  unfold skipNumberEnd at h
  split at h
  · have := length_of_skipFraction h
    simp only [List.length_cons]
    omega
  · have := length_of_skipExponent h
    simp only [List.length_cons]
    omega
  · have := length_of_skipExponent h
    simp only [List.length_cons]
    omega
  · simp only [Except.ok.injEq] at h
    exact Nat.le_of_eq (by rw [h])

/-- What remains after `skipNumber` is shorter than what it was given. -/
theorem length_of_skipNumber {cs rest : List Char} (h : skipNumber cs = .ok rest) :
    rest.length < cs.length := by
  unfold skipNumber at h
  split at h
  · split at h
    · simp at h
    · have := length_of_skipNumberEnd h
      simp only [List.length_cons] at this ⊢
      omega
  · split at h
    · simp at h
    next d ds r hspan =>
      have := length_of_skipNumberEnd h
      have hsum : (spanDigits cs).1.length + (spanDigits cs).2.length = cs.length := by
        simp only [spanDigits]
        rw [← List.length_append, List.takeWhile_append_dropWhile]
      rw [hspan] at hsum
      simp only [List.length_cons] at hsum
      omega

/-! ## Literal words -/

/-- The remaining letters of a literal word. -/
def readWord : List Char → List Char → Except Failure (List Char)
  | [], cs => .ok cs
  | _ :: _, [] => .error (.unfinished .value)
  | w :: ws, c :: cs => if c = w then readWord ws cs else .error (.form .expectedIdent)

/-- What remains after `readWord` is no longer than what it was given. -/
theorem length_of_readWord {ws cs rest : List Char} (h : readWord ws cs = .ok rest) :
    rest.length ≤ cs.length := by
  fun_induction readWord ws cs with
  | case1 cs => simp only [Except.ok.injEq] at h; exact Nat.le_of_eq (by rw [h])
  | case2 => simp at h
  | case3 w ws cs ih =>
    have := ih h
    simp only [List.length_cons]
    omega
  | case4 => simp at h

/-- What is wrong when something is read where another thing was expected. -/
def misplaced {α : Type} (found : α → Found) (expected : String) :
    Except Failure (α × List Char) → Failure
  | .error e => e
  | .ok (a, left) => .content (.invalidType (found a) expected) ⟨true, left⟩

/-- What stands at the beginning, when it is not what was expected.  Numbers, strings and words are
read to their ends first, so that a problem inside them is the one reported. -/
def unexpected (expected : String) : List Char → Failure
  | [] => .form .expectedValue
  | c :: rest =>
    let word (letters : String) (found : Found) : Failure :=
      misplaced (fun () => found) expected
        ((readWord letters.toList rest).map fun left => ((), left))
    if c = 'n' then word "ull" .null
    else if c = 't' then word "rue" (.boolean true)
    else if c = 'f' then word "alse" (.boolean false)
    else if c = '-' then misplaced Number.found expected (readNumber true rest)
    else if Decimal.isDigit c then misplaced Number.found expected (readNumber false (c :: rest))
    else if c = '"' then misplaced Found.string expected (readText [] rest)
    else if c = '[' then .content (.invalidType .sequence expected) ⟨true, c :: rest⟩
    else if c = '\x7b' then .content (.invalidType .map expected) ⟨true, c :: rest⟩
    else .form .expectedValue

end AlgorithmDriver.Json
