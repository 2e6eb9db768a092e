import AlgorithmDriver.Json.Skip

/-!
# Readers

A reader turns the beginning of a document into a value.  Documents are read once, from left to
right, and the first problem met is the answer: an item is checked as soon as its own text is
complete.  Every reader uses up at least one character, which is why reading a list or an object
comes to an end.

Structures are described by a `Layout` and can be written in two ways, as an object with members in
any order or as a list of the fields in order; alternatives are described by a list of `Choice`s.
-/

namespace AlgorithmDriver.Json

/-- A way to read a value from the beginning of a document. -/
structure Reader (α : Type) where
  /-- Reads a value; also returns what follows it. -/
  read : List Char → Except Failure (α × List Char)
  /-- Something is used up. -/
  shrinks : ∀ {cs : List Char} {a : α} {rest : List Char},
    read cs = .ok (a, rest) → rest.length < cs.length

/-! ## Scalars -/

/-- A string, described as `expected` where there is none. -/
def readString (expected : String) (cs : List Char) : Except Failure (String × List Char) :=
  match skipBlank cs with
  | [] => .error (.unfinished .value)
  | c :: rest => if c = '"' then readText [] rest else .error (unexpected expected (c :: rest))

/-- What remains after `readString` is shorter than what it was given. -/
theorem length_of_readString {expected : String} {cs rest : List Char} {s : String}
    (h : readString expected cs = .ok (s, rest)) : rest.length < cs.length := by
  have hb := length_skipBlank_le cs
  unfold readString at h
  generalize skipBlank cs = p at h hb
  split at h
  · simp at h
  · split at h
    · have := length_of_readText h
      simp only [List.length_cons] at hb
      omega
    · simp at h

/-- The word `null`. -/
def readNull (cs : List Char) : Except Failure (Unit × List Char) :=
  match skipBlank cs with
  | [] => .error (.unfinished .value)
  | c :: rest =>
    if c = 'n' then (readWord "ull".toList rest).map fun rest => ((), rest)
    else .error (unexpected "unit" (c :: rest))

/-- What remains after `readNull` is shorter than what it was given. -/
theorem length_of_readNull {cs rest : List Char} {u : Unit} (h : readNull cs = .ok (u, rest)) :
    rest.length < cs.length := by
  have hb := length_skipBlank_le cs
  unfold readNull at h
  generalize skipBlank cs = p at h hb
  split at h
  · simp at h
  next c r =>
    split at h
    · cases hw : readWord "ull".toList r with
      | error e => simp only [hw, Except.map, reduceCtorEq] at h
      | ok r2 =>
        simp only [hw, Except.map, Except.ok.injEq, Prod.mk.injEq] at h
        have := length_of_readWord hw
        simp only [List.length_cons] at hb
        rw [← h.2]
        omega
    · simp at h

/-- A number, described as `expected` where there is none. -/
def readAnyNumber (expected : String) (cs : List Char) : Except Failure (Number × List Char) :=
  match skipBlank cs with
  | [] => .error (.unfinished .value)
  | c :: rest =>
    if c = '-' then readNumber true rest
    else if Decimal.isDigit c then readNumber false (c :: rest)
    else .error (unexpected expected (c :: rest))

/-- What remains after `readAnyNumber` is shorter than what it was given. -/
theorem length_of_readAnyNumber {expected : String} {cs rest : List Char} {n : Number}
    (h : readAnyNumber expected cs = .ok (n, rest)) : rest.length < cs.length := by
  have hb := length_skipBlank_le cs
  unfold readAnyNumber at h
  generalize skipBlank cs = p at h hb
  split at h
  · simp at h
  · simp only [List.length_cons] at hb
    split at h
    · have := length_of_readNumber h; omega
    · split at h
      · have := length_of_readNumber h
        simp only [List.length_cons] at this
        omega
      · simp at h

/-- An integer from 0 to `2 ^ 64 - 1`. -/
def readSize (cs : List Char) : Except Failure (UInt64 × List Char) :=
  match readAnyNumber "u64" cs with
  | .error e => .error e
  | .ok (.whole n, rest) => .ok (n, rest)
  | .ok (.negative n, rest) =>
    .error (.content (.invalidValue (Number.negative n).found "u64") ⟨true, rest⟩)
  | .ok (.float minus x, rest) =>
    .error (.content (.invalidType (Number.float minus x).found "u64") ⟨true, rest⟩)

/-- What remains after `readSize` is shorter than what it was given. -/
theorem length_of_readSize {cs rest : List Char} {n : UInt64} (h : readSize cs = .ok (n, rest)) :
    rest.length < cs.length := by
  unfold readSize at h
  split at h
  · simp at h
  next m r hr =>
    simp only [Except.ok.injEq, Prod.mk.injEq] at h
    rw [← h.2]
    exact length_of_readAnyNumber hr
  · simp at h
  · simp at h

namespace Reader

/-- Reads a string. -/
def string : Reader String := ⟨readString "a string", length_of_readString⟩

/-- Reads the word `null`. -/
def null : Reader Unit := ⟨readNull, length_of_readNull⟩

/-- Reads an integer from 0 to `2 ^ 64 - 1`. -/
def size : Reader UInt64 := ⟨readSize, length_of_readSize⟩

/-- Reads a value and applies a function to it. -/
def readMapped {α β : Type} (f : α → β) (r : Reader α) (cs : List Char) :
    Except Failure (β × List Char) :=
  (r.read cs).map fun (a, rest) => (f a, rest)

/-- What remains after `readMapped` is shorter than what it was given. -/
theorem length_of_readMapped {α β : Type} {f : α → β} {r : Reader α} {cs rest : List Char} {b : β}
    (h : readMapped f r cs = .ok (b, rest)) : rest.length < cs.length := by
  unfold readMapped at h
  cases hr : r.read cs with
  | error e => simp [hr, Except.map] at h
  | ok p =>
    simp only [hr, Except.map, Except.ok.injEq, Prod.mk.injEq] at h
    rw [← h.2]
    exact r.shrinks hr

/-- The reader that applies a function to what another one returns. -/
def map {α β : Type} (f : α → β) (r : Reader α) : Reader β :=
  ⟨readMapped f r, length_of_readMapped⟩

/-- Reads a value and checks it. -/
def readChecked {α : Type} (check : α → Except ModelError Unit) (r : Reader α) (cs : List Char) :
    Except Failure (α × List Char) :=
  match r.read cs with
  | .error e => .error e
  | .ok (a, rest) =>
    match check a with
    | .error e => .error (.content (.refused e) ⟨false, rest⟩)
    | .ok () => .ok (a, rest)

/-- What remains after `readChecked` is shorter than what it was given. -/
theorem length_of_readChecked {α : Type} {check : α → Except ModelError Unit} {r : Reader α}
    {cs rest : List Char} {a : α} (h : readChecked check r cs = .ok (a, rest)) :
    rest.length < cs.length := by
  unfold readChecked at h
  split at h
  · simp at h
  next b r2 hr =>
    split at h
    · simp at h
    · simp only [Except.ok.injEq, Prod.mk.injEq] at h
      rw [← h.2]
      exact r.shrinks hr

/-- The reader that checks what another one returns. -/
def checked {α : Type} (check : α → Except ModelError Unit) (r : Reader α) : Reader α :=
  ⟨readChecked check r, length_of_readChecked⟩

/-- Reads a value or the word `null`, which stands for none. -/
def readOptional {α : Type} (r : Reader α) (cs : List Char) :
    Except Failure (Option α × List Char) :=
  match skipBlank cs with
  | 'n' :: rest => (readWord "ull".toList rest).map fun rest => (none, rest)
  | cs => (r.read cs).map fun (a, rest) => (some a, rest)

/-- What remains after `readOptional` is shorter than what it was given. -/
theorem length_of_readOptional {α : Type} {r : Reader α} {cs rest : List Char} {a : Option α}
    (h : readOptional r cs = .ok (a, rest)) : rest.length < cs.length := by
  unfold readOptional at h
  have hb := length_skipBlank_le cs
  split at h
  next r2 hr =>
    rw [hr] at hb
    cases hw : readWord "ull".toList r2 with
    | error e => simp only [hw, Except.map, reduceCtorEq] at h
    | ok r3 =>
      simp only [hw, Except.map, Except.ok.injEq, Prod.mk.injEq] at h
      have := length_of_readWord hw
      simp only [List.length_cons] at hb
      rw [← h.2]
      omega
  · cases hr : r.read (skipBlank cs) with
    | error e => simp [hr, Except.map] at h
    | ok p =>
      simp only [hr, Except.map, Except.ok.injEq, Prod.mk.injEq] at h
      have := r.shrinks hr
      rw [← h.2]
      omega

/-- The reader of a value that may be `null`. -/
def optional {α : Type} (r : Reader α) : Reader (Option α) :=
  ⟨readOptional r, length_of_readOptional⟩

end Reader

/-! ## Lists -/

/-- Looks for an element of a list: the text from the element on, or `none` before the end of the
list.  `first` says that no element has been read yet. -/
def nextElement (first : Bool) (cs : List Char) : Except Failure (Option (List Char)) :=
  match skipBlank cs with
  | [] => .error (.unfinished .list)
  | c :: rest =>
    if c = ']' then .ok none
    else if first then .ok (some (c :: rest))
    else if c = ',' then
      match skipBlank rest with
      | [] => .error (.unfinished .value)
      | c :: rest => if c = ']' then .error (.form .trailingComma) else .ok (some (c :: rest))
    else .error (.form .expectedListCommaOrEnd)

/-- What remains after `nextElement` is no longer than what it was given. -/
theorem length_of_nextElement {first : Bool} {cs rest : List Char}
    (h : nextElement first cs = .ok (some rest)) : rest.length ≤ cs.length := by
  have hb := length_skipBlank_le cs
  unfold nextElement at h
  generalize skipBlank cs = p at h hb
  split at h
  · simp at h
  next c r =>
    simp only [List.length_cons] at hb
    split at h
    · simp at h
    · split at h
      · simp only [Except.ok.injEq, Option.some.injEq] at h
        rw [← h]
        simpa using hb
      · split at h
        · have hb2 := length_skipBlank_le r
          generalize skipBlank r = q at h hb2
          split at h
          · simp at h
          · split at h
            · simp at h
            · simp only [Except.ok.injEq, Option.some.injEq] at h
              rw [← h]
              omega
        · simp at h

/-- The end of a list. -/
def endList (cs : List Char) : Except Failure (List Char) :=
  match skipBlank cs with
  | [] => .error (.unfinished .list)
  | c :: rest =>
    if c = ']' then .ok rest
    else if c = ',' then
      match skipBlank rest with
      | ']' :: _ => .error (.form .trailingComma)
      | _ => .error (.form .trailingCharacters)
    else .error (.form .trailingCharacters)

/-- Leaves a bracket in which something is wrong: what is left where its end was looked for.  In a
list a comma is passed over as well. -/
def Bracket.leave (bracket : Bracket) (cs : List Char) : List Char :=
  match skipBlank cs with
  | [] => []
  | c :: rest =>
    if c = bracket.close then rest
    else if c = ',' ∧ bracket = .list then skipBlank rest
    else c :: rest

/-- What remains after `endList` is no longer than what it was given. -/
theorem length_of_endList {cs rest : List Char} (h : endList cs = .ok rest) :
    rest.length ≤ cs.length := by
  have hb := length_skipBlank_le cs
  unfold endList at h
  generalize skipBlank cs = p at h hb
  split at h
  · simp at h
  · split at h
    · simp only [Except.ok.injEq] at h
      simp only [h, List.length_cons] at hb
      omega
    · split at h
      · split at h <;> simp at h
      · simp at h

/-- Reads the elements of a list one after another and adds each to `value` as soon as it is
complete. -/
def readElements {α β : Type} (item : Reader α) (add : β → α → Except ModelError β) (first : Bool)
    (value : β) (cs : List Char) : Except Failure (β × List Char) :=
  match hn : nextElement first cs with
  | .error e => .error e
  | .ok none => .ok (value, cs)
  | .ok (some cs') =>
    match hr : item.read cs' with
    | .error e => .error e
    | .ok (a, rest) =>
      match add value a with
      | .error e => .error (.content (.refused e) ⟨false, rest⟩)
      | .ok value =>
        have : rest.length < cs.length :=
          Nat.lt_of_lt_of_le (item.shrinks hr) (length_of_nextElement hn)
        readElements item add false value rest
termination_by cs.length

/-- What remains after `readElements` is no longer than what it was given. -/
theorem length_of_readElements {α β : Type} {item : Reader α} {add : β → α → Except ModelError β}
    {first : Bool} {value result : β} {cs rest : List Char}
    (h : readElements item add first value cs = .ok (result, rest)) : rest.length ≤ cs.length := by
  fun_induction readElements item add first value cs with
  | case1 => simp at h
  | case2 => simp only [Except.ok.injEq, Prod.mk.injEq] at h; exact Nat.le_of_eq (by rw [h.2])
  | case3 => simp at h
  | case4 => simp at h
  | case5 first value cs cs' hn a r hr value' ha hlt ih =>
    have := ih h
    omega

/-- Reads a list, described as `expected` where there is none, by adding its elements to `start`. -/
def readList {α β : Type} (expected : String) (start : β) (add : β → α → Except ModelError β)
    (item : Reader α) (cs : List Char) : Except Failure (β × List Char) :=
  match skipBlank cs with
  | [] => .error (.unfinished .value)
  | c :: rest =>
    if c = '[' then
      match readElements item add true start rest with
      | .error e => .error (e.settle Bracket.list.leave)
      | .ok (value, rest) => (endList rest).map fun rest => (value, rest)
    else .error (unexpected expected (c :: rest))

/-- What remains after `readList` is shorter than what it was given. -/
theorem length_of_readList {α β : Type} {expected : String} {start result : β}
    {add : β → α → Except ModelError β} {item : Reader α} {cs rest : List Char}
    (h : readList expected start add item cs = .ok (result, rest)) : rest.length < cs.length := by
  unfold readList at h
  have hb := length_skipBlank_le cs
  generalize skipBlank cs = p at h hb
  split at h
  · simp at h
  next c r =>
    split at h
    · split at h
      · simp at h
      next value r2 he =>
        have h1 := length_of_readElements he
        cases hd : endList r2 with
        | error e => simp [hd, Except.map] at h
        | ok r3 =>
          simp only [hd, Except.map, Except.ok.injEq, Prod.mk.injEq] at h
          have h2 := length_of_endList hd
          simp only [List.length_cons] at hb
          rw [← h.2]
          omega
    · simp at h

/-- The reader of a list. -/
def Reader.list {α β : Type} (expected : String) (start : β) (add : β → α → Except ModelError β)
    (item : Reader α) : Reader β :=
  ⟨readList expected start add item, length_of_readList⟩

/-! ## Structures -/

/-- A field of a structure. -/
structure Field (α : Type) where
  /-- Its key. -/
  name : String
  /-- Whether it may not be left out. -/
  required : Bool
  /-- Reads its value, as a change of the structure. -/
  reader : Reader (α → α)

/-- How a structure is written. -/
structure Layout (α : Type) where
  /-- What the structure is called in messages. -/
  title : String
  /-- The structure before any field is set, with the defaults of those that can be left out. -/
  blank : α
  /-- The fields in order. -/
  fields : List (Field α)

/-- Looks for a member of an object: its key and the text after the key, or `none` before the end of
the object. -/
def nextMember (first : Bool) (cs : List Char) :
    Except Failure (Option (String × List Char)) :=
  match skipBlank cs with
  | [] => .error (.unfinished .object)
  | c :: rest =>
    if c = '\x7d' then .ok none
    else if first then
      if c = '"' then (readText [] rest).map some else .error (.form .keyMustBeString)
    else if c = ',' then
      match skipBlank rest with
      | [] => .error (.unfinished .value)
      | c :: rest =>
        if c = '"' then (readText [] rest).map some
        else if c = '\x7d' then .error (.form .trailingComma)
        else .error (.form .keyMustBeString)
    else .error (.form .expectedObjectCommaOrEnd)

/-- What remains after `nextMember` is shorter than what it was given. -/
theorem length_of_nextMember {first : Bool} {cs rest : List Char} {key : String}
    (h : nextMember first cs = .ok (some (key, rest))) : rest.length < cs.length := by
  have text : ∀ {r : List Char}, (readText [] r).map some = .ok (some (key, rest)) →
      rest.length < r.length := by
    intro r hr
    cases ht : readText [] r with
    | error e => simp [ht, Except.map] at hr
    | ok p =>
      simp only [ht, Except.map, Except.ok.injEq, Option.some.injEq] at hr
      rw [hr] at ht
      exact length_of_readText ht
  have hb := length_skipBlank_le cs
  unfold nextMember at h
  generalize skipBlank cs = p at h hb
  split at h
  · simp at h
  next c r =>
    simp only [List.length_cons] at hb
    split at h
    · simp at h
    · split at h
      · split at h
        · have := text h; omega
        · simp at h
      · split at h
        · have hb2 := length_skipBlank_le r
          generalize skipBlank r = q at h hb2
          split at h
          · simp at h
          · simp only [List.length_cons] at hb2
            split at h
            · have := text h; omega
            · split at h <;> simp at h
        · simp at h

/-- The end of an object. -/
def endObject (cs : List Char) : Except Failure (List Char) :=
  match skipBlank cs with
  | [] => .error (.unfinished .object)
  | c :: rest =>
    if c = '\x7d' then .ok rest
    else if c = ',' then .error (.form .trailingComma)
    else .error (.form .trailingCharacters)

/-- What remains after `endObject` is no longer than what it was given. -/
theorem length_of_endObject {cs rest : List Char} (h : endObject cs = .ok rest) :
    rest.length ≤ cs.length := by
  have hb := length_skipBlank_le cs
  unfold endObject at h
  generalize skipBlank cs = p at h hb
  split at h
  · simp at h
  · split at h
    · simp only [Except.ok.injEq] at h
      simp only [h, List.length_cons] at hb
      omega
    · split at h <;> simp at h

namespace Layout

variable {α : Type}

/-- The first field that is required but not among the fields seen. -/
def missing? (layout : Layout α) (seen : List String) : Option String :=
  (layout.fields.find? fun f => f.required && !seen.contains f.name).map Field.name

/-- Reads the members of an object.  A key seen before is refused before its value is read; members
that are not fields are skipped. -/
def readMembers (layout : Layout α) (first : Bool) (seen : List String) (value : α)
    (cs : List Char) : Except Failure (α × List Char) :=
  match hn : nextMember first cs with
  | .error e => .error e
  | .ok none =>
    match layout.missing? seen with
    | some name => .error (.content (.missingField name) ⟨false, cs⟩)
    | none => .ok (value, cs)
  | .ok (some (key, rest)) =>
    match layout.fields.find? (·.name == key) with
    | none =>
      match hc : readColon rest with
      | .error e => .error e
      | .ok rest' =>
        match hs : skipValue rest' with
        | .error e => .error e
        | .ok rest'' =>
          have : rest''.length < cs.length := by
            have h1 := length_of_nextMember hn
            have h2 := length_of_readColon hc
            have h3 := length_of_skipValue hs
            omega
          readMembers layout false seen value rest''
    | some field =>
      if seen.contains key then .error (.content (.duplicateField key) ⟨false, rest⟩)
      else
        match hc : readColon rest with
        | .error e => .error e
        | .ok rest' =>
          match hf : field.reader.read rest' with
          | .error e => .error e
          | .ok (set, rest'') =>
            have : rest''.length < cs.length := by
              have h1 := length_of_nextMember hn
              have h2 := length_of_readColon hc
              have h3 := field.reader.shrinks hf
              omega
            readMembers layout false (key :: seen) (set value) rest''
termination_by cs.length

/-- What remains after `readMembers` is no longer than what it was given. -/
theorem length_of_readMembers {layout : Layout α} {first : Bool} {seen : List String}
    {value result : α} {cs rest : List Char}
    (h : layout.readMembers first seen value cs = .ok (result, rest)) :
    rest.length ≤ cs.length := by
  fun_induction readMembers layout first seen value cs with
  | case3 => simp only [Except.ok.injEq, Prod.mk.injEq] at h; exact Nat.le_of_eq (by rw [h.2])
  | case6 _ _ _ _ _ _ _ _ _ _ _ _ shorter ih => exact Nat.le_trans (ih h) (Nat.le_of_lt shorter)
  | case10 _ _ _ _ _ _ _ _ _ _ _ _ _ _ _ shorter ih =>
    exact Nat.le_trans (ih h) (Nat.le_of_lt shorter)
  | _ => simp at h

/-- What the list form of a structure is called in messages. -/
def lengthTitle (layout : Layout α) : String :=
  let count := layout.fields.length
  layout.title ++ " with " ++ Decimal.text count ++ (if count = 1 then " element" else " elements")

/-- Reads the list form of a structure: the fields in order, of which the last ones may be left out
when they are not required. -/
def readItems (layout : Layout α) (index : Nat) (value : α) :
    List (Field α) → List Char → Except Failure (α × List Char)
  | [], cs => .ok (value, cs)
  | field :: fields, cs =>
    match nextElement (index == 0) cs with
    | .error e => .error e
    | .ok none =>
      if field.required then
        .error (.content (.invalidLength index layout.lengthTitle) ⟨false, cs⟩)
      else readItems layout (index + 1) value fields cs
    | .ok (some cs) =>
      match field.reader.read cs with
      | .error e => .error e
      | .ok (set, rest) => readItems layout (index + 1) (set value) fields rest

/-- What remains after `readItems` is no longer than what it was given. -/
theorem length_of_readItems {layout : Layout α} {index : Nat} {value result : α}
    {fields : List (Field α)} {cs rest : List Char}
    (h : layout.readItems index value fields cs = .ok (result, rest)) :
    rest.length ≤ cs.length := by
  fun_induction readItems layout index value fields cs with
  | case1 => simp only [Except.ok.injEq, Prod.mk.injEq] at h; exact Nat.le_of_eq (by rw [h.2])
  | case2 => simp at h
  | case3 => simp at h
  | case4 _ _ _ _ _ _ _ ih => exact ih h
  | case5 => simp at h
  | case6 index value field fields cs cs' hn set r hr ih =>
    have h1 := length_of_nextElement hn
    have h2 := field.reader.shrinks hr
    have h3 := ih h
    omega

/-- Reads a structure in either form. -/
def read (layout : Layout α) (cs : List Char) : Except Failure (α × List Char) :=
  match skipBlank cs with
  | [] => .error (.unfinished .value)
  | c :: rest =>
    if c = '[' then
      match layout.readItems 0 layout.blank layout.fields rest with
      | .error e => .error (e.settle Bracket.list.leave)
      | .ok (value, rest) => (endList rest).map fun rest => (value, rest)
    else if c = '\x7b' then
      match layout.readMembers true [] layout.blank rest with
      | .error e => .error (e.settle Bracket.object.leave)
      | .ok (value, rest) => (endObject rest).map fun rest => (value, rest)
    else .error (unexpected layout.title (c :: rest))

/-- What remains after `read` is shorter than what it was given. -/
theorem length_of_read {layout : Layout α} {cs rest : List Char} {value : α}
    (h : layout.read cs = .ok (value, rest)) : rest.length < cs.length := by
  unfold read at h
  have hb := length_skipBlank_le cs
  generalize skipBlank cs = p at h hb
  split at h
  · simp at h
  next c r =>
    simp only [List.length_cons] at hb
    split at h
    · split at h
      · simp at h
      next value r2 he =>
        have h1 := length_of_readItems he
        cases hd : endList r2 with
        | error e => simp [hd, Except.map] at h
        | ok r3 =>
          simp only [hd, Except.map, Except.ok.injEq, Prod.mk.injEq] at h
          have h2 := length_of_endList hd
          rw [← h.2]
          omega
    · split at h
      · split at h
        · simp at h
        next value r2 he =>
          have h1 := length_of_readMembers he
          cases hd : endObject r2 with
          | error e => simp [hd, Except.map] at h
          | ok r3 =>
            simp only [hd, Except.map, Except.ok.injEq, Prod.mk.injEq] at h
            have h2 := length_of_endObject hd
            rw [← h.2]
            omega
      · simp at h

/-- The reader of a structure. -/
def reader (layout : Layout α) : Reader α := ⟨layout.read, length_of_read⟩

end Layout

/-! ## Alternatives -/

/-- One of several alternatives, written as its name alone or as an object with its name as the only
key. -/
structure Choice (α : Type) where
  /-- What the alternative is called. -/
  name : String
  /-- Its value when it is written as a name alone, if it can be. -/
  plain? : Option α
  /-- Reads its content when it is written as an object. -/
  content : Reader α

/-- The alternative called `name`, whose name stands before what is left. -/
def findChoice {α : Type} (choices : List (Choice α)) (name : String) (left : List Char) :
    Except Failure (Choice α) :=
  match choices.find? (·.name == name) with
  | some choice => .ok choice
  | none => .error (.content (.unknownVariant name (choices.map Choice.name)) ⟨true, left⟩)

/-- The end of an object with one key. -/
def endChoice (cs : List Char) : Except Failure (List Char) :=
  match skipBlank cs with
  | [] => .error (.unfinished .object)
  | c :: rest => if c = '\x7d' then .ok rest else .error (.form .expectedValue)

/-- What the name of an alternative is taken for where it is the only key of an object.  Nothing but
a string is a name either way; the two differ in what is wrong with anything else.  Releases of the
parser that programs are built with differ in this: the current one takes the name for a key. -/
inductive Naming where
  /-- The key of a member, which has to be a string. -/
  | key
  /-- A value, which is of the wrong type unless it is a string. -/
  | identifier
  deriving DecidableEq, Repr

/-- The name of an alternative, after the opening brace. -/
def Naming.read (naming : Naming) (cs : List Char) : Except Failure (String × List Char) :=
  match naming with
  | key =>
    match nextMember true cs with
    | .error e => .error e
    | .ok none => .error (.form .expectedValue)
    | .ok (some found) => .ok found
  | identifier => readString "variant identifier" cs

/-- Reads the object form of an alternative, after the opening brace. -/
def readChoiceObject {α : Type} (naming : Naming) (choices : List (Choice α)) (cs : List Char) :
    Except Failure (α × List Char) :=
  match naming.read cs with
  | .error e => .error e
  | .ok (name, rest) =>
    match findChoice choices name rest with
    | .error e => .error e
    | .ok choice =>
      match readColon rest with
      | .error e => .error e
      | .ok rest =>
        match choice.content.read rest with
        | .error e => .error e
        | .ok (value, rest) => (endChoice rest).map fun rest => (value, rest)

/-- Reads an alternative written as a name alone, after the opening quote. -/
def readChoiceName {α : Type} (choices : List (Choice α)) (cs : List Char) :
    Except Failure (α × List Char) :=
  match readText [] cs with
  | .error e => .error e
  | .ok (name, rest) =>
    match findChoice choices name rest with
    | .error e => .error e
    | .ok choice =>
      match choice.plain? with
      | some value => .ok (value, rest)
      | none => .error (.content (.invalidType .unitVariant "newtype variant") ⟨false, rest⟩)

/-- What remains after the name is shorter than what it was given. -/
theorem Naming.length_of_read {naming : Naming} {cs rest : List Char} {name : String}
    (h : naming.read cs = .ok (name, rest)) : rest.length < cs.length := by
  unfold Naming.read at h
  split at h
  · split at h
    · simp at h
    · simp at h
    next hn =>
      simp only [Except.ok.injEq] at h
      exact length_of_nextMember (h ▸ hn)
  · exact length_of_readString h

/-- What remains after `endChoice` is no longer than what it was given. -/
theorem length_of_endChoice {cs rest : List Char} (h : endChoice cs = .ok rest) :
    rest.length ≤ cs.length := by
  have hb := length_skipBlank_le cs
  unfold endChoice at h
  generalize skipBlank cs = p at h hb
  split at h
  · simp at h
  · split at h
    · simp only [Except.ok.injEq] at h
      simp only [h, List.length_cons] at hb
      omega
    · simp at h

/-- What remains after `readChoiceObject` is no longer than what it was given. -/
theorem length_of_readChoiceObject {α : Type} {naming : Naming} {choices : List (Choice α)}
    {cs rest : List Char} {value : α} (h : readChoiceObject naming choices cs = .ok (value, rest)) :
    rest.length ≤ cs.length := by
  unfold readChoiceObject at h
  split at h
  · simp at h
  next name r1 h1 =>
    split at h
    · simp at h
    next choice _ =>
      split at h
      · simp at h
      next r2 h2 =>
        split at h
        · simp at h
        next v r3 h3 =>
          have h1 := Naming.length_of_read h1
          have h2 := length_of_readColon h2
          have h3 := choice.content.shrinks h3
          cases hd : endChoice r3 with
          | error e => simp [hd, Except.map] at h
          | ok r4 =>
            simp only [hd, Except.map, Except.ok.injEq, Prod.mk.injEq] at h
            have h4 := length_of_endChoice hd
            rw [← h.2]
            omega

/-- What remains after `readChoiceName` is no longer than what it was given. -/
theorem length_of_readChoiceName {α : Type} {choices : List (Choice α)} {cs rest : List Char}
    {value : α} (h : readChoiceName choices cs = .ok (value, rest)) : rest.length ≤ cs.length := by
  unfold readChoiceName at h
  split at h
  · simp at h
  next name r h1 =>
    have h1 := length_of_readText h1
    split at h
    · simp at h
    · split at h
      · simp only [Except.ok.injEq, Prod.mk.injEq] at h
        rw [← h.2]
        omega
      · simp at h

/-- Reads one of several alternatives. -/
def readChoice {α : Type} (naming : Naming) (choices : List (Choice α)) (cs : List Char) :
    Except Failure (α × List Char) :=
  match skipBlank cs with
  | [] => .error (.unfinished .value)
  | c :: rest =>
    if c = '\x7b' then readChoiceObject naming choices rest
    else if c = '"' then readChoiceName choices rest
    else .error (.form .expectedValue)

/-- What remains after `readChoice` is shorter than what it was given. -/
theorem length_of_readChoice {α : Type} {naming : Naming} {choices : List (Choice α)}
    {cs rest : List Char} {value : α} (h : readChoice naming choices cs = .ok (value, rest)) :
    rest.length < cs.length := by
  unfold readChoice at h
  have hb := length_skipBlank_le cs
  generalize skipBlank cs = p at h hb
  split at h
  · simp at h
  next c r =>
    simp only [List.length_cons] at hb
    split at h
    · have := length_of_readChoiceObject h; omega
    · split at h
      · have := length_of_readChoiceName h; omega
      · simp at h

/-- The reader of one of several alternatives. -/
def Reader.oneOf {α : Type} (choices : List (Choice α)) (naming : Naming := .key) : Reader α :=
  ⟨readChoice naming choices, length_of_readChoice⟩

/-! ## Whole documents -/

/-- Reads a document that holds one value and nothing else. -/
def Reader.readAll {α : Type} (r : Reader α) (document : List Char) : Except Failure α :=
  match r.read document with
  | .error e => .error e
  | .ok (value, rest) =>
    match skipBlank rest with
    | [] => .ok value
    | _ :: _ => .error (.form .trailingCharacters)

/-- The value that a document holds. -/
def Reader.load {α : Type} (r : Reader α) (document : String) : Except Problem α :=
  (r.readAll document.toList).mapError Failure.problem

/-- The position that is reported when there is a problem with the content of a document. -/
def Reader.position? {α : Type} (r : Reader α) (document : String) : Option Position :=
  match r.readAll document.toList with
  | .error e => e.position? document.toList
  | .ok _ => none

end AlgorithmDriver.Json
