import AlgorithmDriver.Json.Lexer

/-!
# Skipping values

A member that a description does not know is skipped: its text must be well formed, to any depth,
but is not looked at otherwise.  Main statement: skipping a value uses up at least one character.
-/

namespace AlgorithmDriver.Json

/-- The two sorts of brackets that enclose values. -/
inductive Bracket where
  | list
  | object
  deriving DecidableEq, Repr

namespace Bracket

/-- The character that closes a bracket. -/
def close : Bracket → Char
  | list => ']'
  | object => '\x7d'

/-- The problem of a document that ends inside a bracket. -/
def unfinished : Bracket → Failure
  | list => .unfinished .list
  | object => .unfinished .object

/-- The problem of a bracket in which a comma or the end is missing. -/
def expectedCommaOrEnd : Bracket → Failure
  | list => .form .expectedListCommaOrEnd
  | object => .form .expectedObjectCommaOrEnd

end Bracket

/-- Skips a value without brackets, given its first character and what follows. -/
def skipScalar (c : Char) (rest : List Char) : Except Failure (List Char) :=
  if c = 'n' then readWord "ull".toList rest
  else if c = 't' then readWord "rue".toList rest
  else if c = 'f' then readWord "alse".toList rest
  else if c = '-' then skipNumber rest
  else if Decimal.isDigit c then skipNumber (c :: rest)
  else if c = '"' then skipText rest
  else .error (.form .expectedValue)

/-- The colon between the key of a member and its value. -/
def readColon (cs : List Char) : Except Failure (List Char) :=
  match skipBlank cs with
  | [] => .error (.unfinished .object)
  | c :: rest => if c = ':' then .ok rest else .error (.form .expectedColon)

/-- Skips the key of a member and its colon. -/
def skipKey (cs : List Char) : Except Failure (List Char) :=
  match skipBlank cs with
  | [] => .error (.unfinished .object)
  | c :: rest =>
    if c = '"' then
      match skipText rest with
      | .error e => .error e
      | .ok rest => readColon rest
    else .error (.form .keyMustBeString)

/-- What remains after `skipScalar` is no longer than what it was given. -/
theorem length_of_skipScalar {c : Char} {cs rest : List Char} (h : skipScalar c cs = .ok rest) :
    rest.length < cs.length + 1 := by
  unfold skipScalar at h
  split at h
  · have := length_of_readWord h; omega
  · split at h
    · have := length_of_readWord h; omega
    · split at h
      · have := length_of_readWord h; omega
      · split at h
        · have := length_of_skipNumber h; omega
        · split at h
          · have := length_of_skipNumber h
            simpa using this
          · split at h
            · have := length_of_skipText h; omega
            · simp at h

/-- What remains after `readColon` is shorter than what it was given. -/
theorem length_of_readColon {cs rest : List Char} (h : readColon cs = .ok rest) :
    rest.length < cs.length := by
  have hb := length_skipBlank_le cs
  unfold readColon at h
  generalize skipBlank cs = p at h hb
  split at h
  · simp at h
  · split at h
    · simp only [Except.ok.injEq] at h
      simp only [h, List.length_cons] at hb
      omega
    · simp at h

/-- What remains after `skipKey` is shorter than what it was given. -/
theorem length_of_skipKey {cs rest : List Char} (h : skipKey cs = .ok rest) :
    rest.length < cs.length := by
  have hb := length_skipBlank_le cs
  unfold skipKey at h
  generalize skipBlank cs = p at h hb
  split at h
  · simp at h
  · split at h
    · split at h
      · simp at h
      next r hr =>
        have h1 := length_of_skipText hr
        have h2 := length_of_readColon h
        simp only [List.length_cons] at hb
        omega
    · simp at h

/-- What is due next while values are skipped. -/
inductive Due where
  /-- A value. -/
  | value
  /-- The first item of the innermost bracket, or its end. -/
  | first
  /-- A comma or the end of the innermost bracket, or nothing when no bracket is open. -/
  | next
  deriving DecidableEq, Repr

/-- Skips what is due, and everything up to the end of the outermost of the open brackets `open_`,
innermost first. -/
def skipDue (due : Due) (open_ : List Bracket) (cs : List Char) : Except Failure (List Char) :=
  match due, open_ with
  | .value, open_ =>
    match hb : skipBlank cs with
    | [] => .error (.unfinished .value)
    | c :: rest =>
      have : rest.length + 1 ≤ cs.length := by
        have := length_skipBlank_le cs
        simpa [hb] using this
      if c = '[' then skipDue .first (.list :: open_) rest
      else if c = '\x7b' then skipDue .first (.object :: open_) rest
      else
        match hs : skipScalar c rest with
        | .error e => .error e
        | .ok rest' =>
          have := length_of_skipScalar hs
          skipDue .next open_ rest'
  | .first, [] => .ok cs
  | .first, bracket :: outer =>
    match hb : skipBlank cs with
    | [] => .error bracket.unfinished
    | c :: rest =>
      have : rest.length + 1 ≤ cs.length := by
        have := length_skipBlank_le cs
        simpa [hb] using this
      if c = bracket.close then skipDue .next outer rest
      else
        match bracket with
        | .list => skipDue .value (.list :: outer) (c :: rest)
        | .object =>
          match hk : skipKey (c :: rest) with
          | .error e => .error e
          | .ok rest' =>
            have : rest'.length < rest.length + 1 := length_of_skipKey hk
            skipDue .value (.object :: outer) rest'
  | .next, [] => .ok cs
  | .next, bracket :: outer =>
    match hb : skipBlank cs with
    | [] => .error bracket.unfinished
    | c :: rest =>
      have : rest.length + 1 ≤ cs.length := by
        have := length_skipBlank_le cs
        simpa [hb] using this
      if c = ',' then
        match bracket with
        | .list => skipDue .value (.list :: outer) rest
        | .object =>
          match hk : skipKey rest with
          | .error e => .error e
          | .ok rest' =>
            have := length_of_skipKey hk
            skipDue .value (.object :: outer) rest'
      else if c = bracket.close then skipDue .next outer rest
      else .error bracket.expectedCommaOrEnd
termination_by 2 * cs.length + (if due = .first then 1 else 0)
decreasing_by all_goals simp_wf; omega

/-- Skips a value. -/
def skipValue (cs : List Char) : Except Failure (List Char) := skipDue .value [] cs

/-- What remains after `skipDue` is no longer than what it was given. -/
theorem length_of_skipDue {due : Due} {open_ : List Bracket} {cs rest : List Char}
    (h : skipDue due open_ cs = .ok rest) :
    rest.length + (if due = .value then 1 else 0) ≤ cs.length := by
  fun_induction skipDue due open_ cs <;> simp_all <;> omega

/-- What remains after `skipValue` is shorter than what it was given. -/
theorem length_of_skipValue {cs rest : List Char} (h : skipValue cs = .ok rest) :
    rest.length < cs.length := by
  have := length_of_skipDue h
  simp only [if_true] at this
  omega

end AlgorithmDriver.Json
