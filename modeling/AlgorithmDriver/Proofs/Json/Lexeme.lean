import AlgorithmDriver.Proofs.Json.Skip

/-!
# Texts that end in a number

A number is the one element of a document of which nobody knows that it is complete before seeing
what follows it.  A text is made up of lexemes; it ends in a number when what stands behind its last
complete lexemes, where a value may begin, is a number or the beginning of one.  The functions that
read a number need no more text once they have seen a character that cannot belong to it.

* `EndsInNumber` — the text ends inside a number or directly behind it.
* `readNumber_commits`, `skipNumber_commits` — a number that is followed by something else is read
  in the same way whatever comes later.
-/

namespace AlgorithmDriver.Json

/-! ## Lexemes -/

/-- The texts of a number, with its minus sign if it has one. -/
inductive NumberText : List Char → Prop
  | positive {text : List Char} : Magnitude text → NumberText text
  | negative {text : List Char} : Magnitude text → NumberText ('-' :: text)

/-- The elements of a document. -/
inductive Lexeme : List Char → Prop
  | blank {c : Char} : isBlank c = true → Lexeme [c]
  | mark {c : Char} : c ∈ ['[', ']', '\x7b', '\x7d', ',', ':'] → Lexeme [c]
  | word {w : String} : w ∈ ["null", "true", "false"] → Lexeme w.toList
  | string {text : List Char} : RawString text → Lexeme text
  | number {text : List Char} : NumberText text → Lexeme text

/-- A text that is made up of lexemes. -/
inductive Lexemes : List Char → Prop
  | nil : Lexemes []
  | snoc {before text : List Char} : Lexemes before → Lexeme text → Lexemes (before ++ text)

/-- Another lexeme may begin behind the text: at the beginning of a document, and behind a blank, an
opening bracket, a comma or a colon. -/
def Opens (before : List Char) : Prop :=
  ∀ c, before.getLast? = some c → isBlank c = true ∨ c ∈ ['[', '\x7b', ',', ':']

/-- The text ends inside a number or directly behind it. -/
def EndsInNumber (cs : List Char) : Prop :=
  ∃ before number after, Lexemes before ∧ Opens before ∧ number ≠ [] ∧
    NumberText (number ++ after) ∧ cs = before ++ number

/-- What is passed over where a list or an object with a problem in it is left: blanks, and the end
or a comma with the blanks behind it. -/
inductive Closing : List Char → Prop
  | nil : Closing []
  | blank {c : Char} {cs : List Char} : isBlank c = true → Closing cs → Closing (c :: cs)
  | bracket {c : Char} : c ∈ [']', '\x7d'] → Closing [c]
  | comma {blanks : List Char} : Blanks blanks → Closing (',' :: blanks)

theorem Closing.append {blanks cs : List Char} (hb : Blanks blanks) (h : Closing cs) :
    Closing (blanks ++ cs) := by
  induction blanks with
  | nil => exact h
  | cons c blanks ih =>
    obtain ⟨hc, hb⟩ := List.forall_mem_cons.1 hb
    exact .blank hc (ih hb)

theorem Closing.head {c : Char} {cs : List Char} (h : Closing (c :: cs)) :
    isBlank c = true ∨ c ∈ [']', '\x7d', ','] := by
  cases h with
  | blank hc => exact .inl hc
  | bracket hc =>
    simp only [List.mem_cons, List.not_mem_nil, or_false] at hc ⊢
    tauto
  | comma => exact .inr (by decide)

/-- How the places of a problem in a text and in a longer one compare: they are the same, or the
text ends before the list or the object around the problem is left and `q` begins with what is left
to pass over. -/
inductive Place.Follows (q : List Char) : Place → Place → Prop
  | same {settled : Bool} {left : List Char} : Follows q ⟨settled, left⟩ ⟨settled, left ++ q⟩
  | closed {closing rest : List Char} : Closing closing → q = closing ++ rest →
      Follows q ⟨true, []⟩ ⟨true, rest⟩

/-- Leaving a list or an object leads to the same place, or to what is left to pass over in `q`. -/
def Leaves (q : List Char) (leave : List Char → List Char) : Prop :=
  ∀ left, Place.Follows q ⟨true, leave left⟩ ⟨true, leave (left ++ q)⟩

/-- How the outcome of reading a text compares with that of reading it with `q` behind it.  A value is
read in both, where `Good` says what is left of the shorter text and `more` adds what is left
besides; a problem with the content is the same problem, at a place that follows the other; a problem
with the form is one again; and nothing is known when the shorter text came to an end too early. -/
inductive Commits {α : Type} (q : List Char) (Good : α → Prop) (more : α → α) :
    Except Failure α → Except Failure α → Prop
  | ok {a : α} : Good a → Commits q Good more (.ok a) (.ok (more a))
  | content {e : ContentProblem} {place place' : Place} : place.Follows q place' →
      Commits q Good more (.error (.content e place)) (.error (.content e place'))
  | form {e e' : FormProblem} : Commits q Good more (.error (.form e)) (.error (.form e'))
  | unfinished {what : Unfinished} {longer : Except Failure α} :
      Commits q Good more (.error (.unfinished what)) longer

/-- A value that was read, with more text behind what is left. -/
def followed {α : Type} (q : List Char) (r : α × List Char) : α × List Char := (r.1, r.2 ++ q)

namespace Commits

variable {α β : Type} {q : List Char} {Good Good' : α → Prop} {more : α → α} {Next : β → Prop}
  {more' : β → β} {x y : Except Failure α}

/-- What follows the reading of a value commits when it does so for each value read. -/
theorem bind (h : Commits q Good more x y) {f g : α → Except Failure β}
    (next : ∀ a, x = .ok a → Good a → Commits q Next more' (f a) (g (more a))) :
    Commits q Next more' (x.bind f) (y.bind g) := by
  cases h with
  | ok good => exact next _ rfl good
  | content places => exact .content places
  | form => exact .form
  | unfinished => exact .unfinished

section Left

variable {Good : α × List Char → Prop} {x y : Except Failure (α × List Char)}
  {f g : α → List Char → Except Failure β}

/-- The same for a reading that goes on with what is left. -/
theorem read_then : Commits q Good (followed q) x y →
    (∀ a rest, x = .ok (a, rest) → Good (a, rest) →
      Commits q Next more' (f a rest) (g a (rest ++ q))) →
    Commits q Next more'
      (match x with
        | .error e => .error e
        | .ok (a, rest) => f a rest)
      (match y with
        | .error e => .error e
        | .ok (a, rest) => g a rest) := by
  intro h next
  cases h with
  | ok good => exact next _ _ rfl good
  | content places => exact .content places
  | form => exact .form
  | unfinished => exact .unfinished

/-- The same for a reading inside a list or an object, which a problem leaves. -/
theorem read_leaving {leave : List Char → List Char} (leaves : Leaves q leave) :
    Commits q Good (followed q) x y →
    (∀ a rest, x = .ok (a, rest) → Good (a, rest) →
      Commits q Next more' (f a rest) (g a (rest ++ q))) →
    Commits q Next more'
      (match x with
        | .error e => .error (e.settle leave)
        | .ok (a, rest) => f a rest)
      (match y with
        | .error e => .error (e.settle leave)
        | .ok (a, rest) => g a rest) := by
  intro h next
  cases h with
  | ok good => exact next _ _ rfl good
  | content places =>
    cases places with
    | @same settled left =>
      cases settled with
      | false => exact .content (leaves left)
      | true => exact .content .same
    | closed closing split => exact .content (.closed closing split)
  | form => exact .form
  | unfinished => exact .unfinished

end Left

theorem map (h : Commits q Good more x y) {f : α → β} (good : ∀ a, x = .ok a → Good a → Next (f a))
    (same : ∀ a, f (more a) = more' (f a)) : Commits q Next more' (x.map f) (y.map f) := by
  cases h with
  | ok hgood =>
    have hok : Commits q Next more' (.ok (f _)) (.ok (more' (f _))) := .ok (good _ rfl hgood)
    rw [← same] at hok
    exact hok
  | content places => exact .content places
  | form => exact .form
  | unfinished => exact .unfinished

/-- More is known of what is left when it is known of every value that is read. -/
theorem of_ok (h : Commits q Good more x y) (good : ∀ a, x = .ok a → Good' a) :
    Commits q Good' more x y := by
  cases h with
  | ok => exact .ok (good _ rfl)
  | content places => exact .content places
  | form => exact .form
  | unfinished => exact .unfinished

end Commits

/-- The outcomes of reading a text and a longer one compare, whatever is left. -/
abbrev CommitsAnyhow {α : Type} (q : List Char) (more : α → α) :
    Except Failure α → Except Failure α → Prop :=
  Commits q (fun _ => True) more

/-! ## What a number can begin with -/

/-- Some text begins with these characters. -/
def Begins (Text : List Char → Prop) (cs : List Char) : Prop := ∃ after, Text (cs ++ after)

/-- The exponent of a number behind its letter. -/
def ExponentTail (text : List Char) : Prop :=
  ∃ sign ds, sign ∈ [[], ['+'], ['-']] ∧ Digits ds ∧ text = sign ++ ds

/-- The fraction of a number behind its point, and what follows it. -/
def FractionTail (text : List Char) : Prop :=
  ∃ ds exponent, Digits ds ∧ Exponent exponent ∧ text = ds ++ exponent

/-- What follows the digits before the point. -/
def MagnitudeTail (text : List Char) : Prop :=
  ∃ fraction exponent, Fraction fraction ∧ Exponent exponent ∧ text = fraction ++ exponent

/-- Digits can always go on. -/
theorem digits_concat_zero {ds : List Char} (hd : ∀ c ∈ ds, Decimal.isDigit c = true) :
    Digits (ds ++ ['0']) := by
  refine ⟨by simp, ?_⟩
  intro c hc
  rcases List.mem_append.1 hc with hc | hc
  · exact hd c hc
  · rw [List.mem_singleton.1 hc]
    decide

theorem numeral_zero : Numeral ['0'] :=
  ⟨(digits_concat_zero nofun : Digits ([] ++ ['0'])), by simp⟩

theorem Begins.exponentTail_digits {sign ds : List Char} (hs : sign ∈ [[], ['+'], ['-']])
    (hd : ∀ c ∈ ds, Decimal.isDigit c = true) : Begins ExponentTail (sign ++ ds) :=
  ⟨['0'], sign, ds ++ ['0'], hs, digits_concat_zero hd, List.append_assoc ..⟩

theorem Begins.fractionTail_digits {ds : List Char} (hd : ∀ c ∈ ds, Decimal.isDigit c = true) :
    Begins FractionTail ds :=
  ⟨['0'], ds ++ ['0'], [], digits_concat_zero hd, .missing, (List.append_nil _).symm⟩

theorem Begins.fraction_of_exponent {l : Char} {ds cs : List Char} (hl : l = 'e' ∨ l = 'E')
    (hd : Digits ds) (h : Begins ExponentTail cs) : Begins FractionTail (ds ++ l :: cs) := by
  obtain ⟨after, sign, es, hs, he, heq⟩ := h
  exact ⟨after, ds, l :: (sign ++ es), hd, .digits (by simpa using hl) hs he, by simp [heq]⟩

theorem Begins.magnitudeTail_nil : Begins MagnitudeTail [] := ⟨[], [], [], .missing, .missing, rfl⟩

theorem Begins.magnitude_of_fraction {cs : List Char} (h : Begins FractionTail cs) :
    Begins MagnitudeTail ('.' :: cs) := by
  obtain ⟨after, ds, exponent, hd, he, heq⟩ := h
  exact ⟨after, '.' :: ds, exponent, .digits hd, he, by simp [heq]⟩

theorem Begins.magnitude_of_exponent {l : Char} {cs : List Char} (hl : l = 'e' ∨ l = 'E')
    (h : Begins ExponentTail cs) : Begins MagnitudeTail (l :: cs) := by
  obtain ⟨after, sign, es, hs, he, heq⟩ := h
  exact ⟨after, [], l :: (sign ++ es), .missing, .digits (by simpa using hl) hs he, by simp [heq]⟩

theorem Begins.magnitude_nil : Begins Magnitude [] :=
  ⟨['0'], ['0'], [], [], numeral_zero, .missing, .missing, rfl⟩

theorem Begins.magnitude {whole cs : List Char} (hw : Numeral whole)
    (h : Begins MagnitudeTail cs) : Begins Magnitude (whole ++ cs) := by
  obtain ⟨after, fraction, exponent, hf, he, heq⟩ := h
  exact ⟨after, whole, fraction, exponent, hw, hf, he, by simp [heq]⟩

/-! ## Numbers that are followed by something else -/

section Numbers

variable {cs : List Char} {q : List Char}

/-- The digits end where the first character stands that is none. -/
theorem not_digit_of_spanDigits {ds rest : List Char} {c : Char}
    (h : spanDigits cs = (ds, c :: rest)) : Decimal.isDigit c = false := by
  have hlast : (cs.dropWhile Decimal.isDigit).head? = some c := by
    rw [show cs.dropWhile Decimal.isDigit = c :: rest from congrArg Prod.snd h]
    rfl
  simpa [hlast] using List.head?_dropWhile_not Decimal.isDigit cs

/-- Digits that something else follows are the same digits in a longer text. -/
theorem spanDigits_followed {ds rest : List Char} {c : Char} (h : spanDigits cs = (ds, c :: rest))
    (q : List Char) : spanDigits (cs ++ q) = (ds, c :: (rest ++ q)) := by
  obtain ⟨hcs, hd⟩ := spanDigits_eq h
  rw [hcs, List.append_assoc]
  refine spanDigits_append hd ?_
  rintro _ _ ⟨rfl, rfl⟩
  exact not_digit_of_spanDigits h

/-- A text is made up of digits, or something else follows its digits. -/
theorem spanDigits_cases (cs : List Char) :
    (∀ c ∈ cs, Decimal.isDigit c = true) ∨ ∃ ds c rest, spanDigits cs = (ds, c :: rest) := by
  cases hspan : spanDigits cs with
  | mk ds rest =>
    cases rest with
    | nil =>
      obtain ⟨rfl, hd⟩ := spanDigits_eq hspan
      exact .inl (by simpa using hd)
    | cons c rest => exact .inr ⟨ds, c, rest, rfl⟩

theorem makeFloat_commits (negative : Bool) (significand : Nat) (exponent : Int)
    (rest : List Char) : CommitsAnyhow q (followed q) (makeFloat negative significand exponent rest)
      (makeFloat negative significand exponent (rest ++ q)) := by
  unfold makeFloat
  split
  · exact .form
  · exact .ok trivial

theorem not_begins_exponentTail {d c : Char} {ds rest : List Char} (h : ¬ Begins FractionTail cs)
    (hspan : spanDigits cs = (d :: ds, c :: rest)) (hl : c = 'e' ∨ c = 'E') :
    ¬ Begins ExponentTail rest := by
  obtain ⟨rfl, hd⟩ := spanDigits_eq hspan
  intro hb
  exact h (hb.fraction_of_exponent hl ⟨List.cons_ne_nil d ds, hd⟩)

/-- Something that is no digit stands behind the sign and the digits of an exponent. -/
theorem spanDigits_readSign (h : ¬ Begins ExponentTail cs) :
    ∃ ds c rest, spanDigits (readSign cs).2 = (ds, c :: rest) := by
  obtain ⟨sign, hsign, hcs⟩ := readSign_eq cs
  rcases spanDigits_cases (readSign cs).2 with hall | hspan
  · exact absurd (hcs ▸ .exponentTail_digits hsign hall) h
  · exact hspan

theorem readSign_followed (h : ¬ Begins ExponentTail cs) (q : List Char) :
    readSign (cs ++ q) = followed q (readSign cs) := by
  have hne : cs ≠ [] := by
    rintro rfl
    exact h (.exponentTail_digits (List.mem_cons_self : [] ∈ [[], ['+'], ['-']]) nofun)
  obtain ⟨c, rest, rfl⟩ := List.exists_cons_of_ne_nil hne
  unfold readSign followed
  split <;> simp_all

theorem readExponent_commits (h : ¬ Begins ExponentTail cs) (negative : Bool) (significand : Nat)
    (exponent : Int) : CommitsAnyhow q (followed q) (readExponent negative significand exponent cs)
      (readExponent negative significand exponent (cs ++ q)) := by
  obtain ⟨ds, c, rest, hspan⟩ := spanDigits_readSign h
  obtain ⟨htail, hd⟩ := spanDigits_eq hspan
  have hlonger := spanDigits_followed hspan q
  unfold readExponent
  rw [readSign_followed h]
  cases ds with
  | nil =>
    have hc := not_digit_of_spanDigits hspan
    simp only [followed, htail, List.nil_append, List.cons_append, hc, Bool.false_eq_true, if_false]
    exact .form
  | cons d ds =>
    have hdigit : Decimal.isDigit d = true := hd d List.mem_cons_self
    rw [htail, List.cons_append, List.cons_append] at hlonger
    rw [htail, List.cons_append] at hspan
    simp only [followed, htail, List.cons_append, hdigit, if_true, hspan, hlonger]
    split_ifs
    · exact makeFloat_commits ..
    · exact makeFloat_commits ..
    · exact .form
    · exact .ok trivial

/-- Behind the digits of a fraction only the letter of an exponent belongs to the number. -/
theorem readFraction_digits {d c : Char} {ds rest : List Char}
    (h : spanDigits cs = (d :: ds, c :: rest)) (negative : Bool) (significand : Nat)
    (exponent : Int) : readFraction negative significand exponent cs =
      let extended := extend significand 0 (d :: ds)
      if c = 'e' ∨ c = 'E' then
        readExponent negative extended.1 (exponent - extended.2.1) rest
      else makeFloat negative extended.1 (exponent - extended.2.1) (c :: rest) := by
  unfold readFraction
  rw [h]
  dsimp only
  split <;> simp_all

theorem readFraction_commits (h : ¬ Begins FractionTail cs) (negative : Bool) (significand : Nat)
    (exponent : Int) : CommitsAnyhow q (followed q) (readFraction negative significand exponent cs)
      (readFraction negative significand exponent (cs ++ q)) := by
  rcases spanDigits_cases cs with hall | ⟨ds, c, rest, hspan⟩
  · exact absurd (.fractionTail_digits hall) h
  cases ds with
  | nil =>
    unfold readFraction
    rw [hspan, spanDigits_followed hspan]
    exact .form
  | cons d ds =>
    rw [readFraction_digits hspan, readFraction_digits (spanDigits_followed hspan q)]
    dsimp only
    split_ifs with hl
    · exact readExponent_commits (not_begins_exponentTail h hspan hl) ..
    · exact makeFloat_commits ..

/-- Behind the digits before the point only a point and the letter of an exponent belong to the
number. -/
theorem readNumberEnd_cons (negative : Bool) (significand dropped : Nat) (c : Char)
    (rest : List Char) : readNumberEnd negative significand dropped (c :: rest) =
      if c = '.' then readFraction negative significand dropped rest
      else if c = 'e' ∨ c = 'E' then readExponent negative significand dropped rest
      else if dropped ≠ 0 then makeFloat negative significand dropped (c :: rest)
      else if negative then
        if significand = 0 ∨ twoTo 63 < significand then makeFloat true significand 0 (c :: rest)
        else .ok (.negative significand, c :: rest)
      else .ok (.whole (UInt64.ofNat significand), c :: rest) := by
  unfold readNumberEnd
  split <;> simp_all

theorem readNumberEnd_commits (h : ¬ Begins MagnitudeTail cs) (negative : Bool)
    (significand dropped : Nat) :
    CommitsAnyhow q (followed q) (readNumberEnd negative significand dropped cs)
      (readNumberEnd negative significand dropped (cs ++ q)) := by
  cases cs with
  | nil => exact absurd .magnitudeTail_nil h
  | cons c rest =>
    rw [List.cons_append, readNumberEnd_cons, readNumberEnd_cons]
    split_ifs with hp hl
    · exact readFraction_commits (fun hb => h (hp ▸ hb.magnitude_of_fraction)) ..
    · exact readExponent_commits (fun hb => h (hb.magnitude_of_exponent hl)) ..
    · exact makeFloat_commits ..
    · exact makeFloat_commits ..
    · exact .ok trivial
    · exact .ok trivial

/-- The digits of a number that does not begin with a zero end before something else. -/
theorem spanDigits_number {c : Char} {rest : List Char} (h : ¬ Begins Magnitude (c :: rest))
    (hzero : c ≠ '0') (hdigit : Decimal.isDigit c = true) :
    ∃ ds d rest', spanDigits (c :: rest) = (c :: ds, d :: rest') ∧
      ¬ Begins MagnitudeTail (d :: rest') := by
  have numeral : ∀ {ds}, (∀ d ∈ c :: ds, Decimal.isDigit d = true) → Numeral (c :: ds) :=
    fun hd => ⟨⟨List.cons_ne_nil _ _, hd⟩, fun _ he => absurd (List.cons.inj he).1 hzero⟩
  rcases spanDigits_cases (c :: rest) with hall | ⟨ds, d, rest', hspan⟩
  · have hb := Begins.magnitudeTail_nil.magnitude (numeral hall)
    rw [List.append_nil] at hb
    exact absurd hb h
  obtain ⟨heq, hd⟩ := spanDigits_eq hspan
  cases ds with
  | nil =>
    obtain ⟨rfl, rfl⟩ := List.cons.inj heq
    exact absurd (not_digit_of_spanDigits hspan) (by simp [hdigit])
  | cons c' ds =>
    obtain ⟨rfl, -⟩ := List.cons.inj heq
    exact ⟨ds, d, rest', hspan, fun hb => h (heq ▸ hb.magnitude (numeral hd))⟩

/-- A number that something else follows is read in the same way whatever comes later. -/
theorem readNumber_commits (h : ¬ Begins Magnitude cs) (negative : Bool) :
    CommitsAnyhow q (followed q) (readNumber negative cs) (readNumber negative (cs ++ q)) := by
  cases cs with
  | nil => exact absurd .magnitude_nil h
  | cons c rest =>
    simp only [readNumber, List.cons_append]
    by_cases hzero : c = '0'
    · subst hzero
      have htail : ¬ Begins MagnitudeTail rest := fun hb => h (hb.magnitude numeral_zero)
      cases rest with
      | nil => exact absurd .magnitudeTail_nil htail
      | cons d rest =>
        simp only [if_true, List.cons_append]
        split_ifs
        · exact .form
        · exact readNumberEnd_commits htail ..
    simp only [if_neg hzero]
    by_cases hdigit : Decimal.isDigit c = true
    · obtain ⟨ds, d, rest', hspan, htail⟩ := spanDigits_number h hzero hdigit
      have hlonger := spanDigits_followed hspan q
      rw [List.cons_append] at hlonger
      simp only [if_pos hdigit, hspan, hlonger]
      exact readNumberEnd_commits htail ..
    · simp only [if_neg hdigit]
      exact .form

/-! ## Numbers that are skipped -/

theorem skipExponent_commits (h : ¬ Begins ExponentTail cs) :
    CommitsAnyhow q (· ++ q) (skipExponent cs) (skipExponent (cs ++ q)) := by
  obtain ⟨ds, c, rest, hspan⟩ := spanDigits_readSign h
  unfold skipExponent
  rw [readSign_followed h, followed, hspan, spanDigits_followed hspan]
  cases ds with
  | nil => exact .form
  | cons => exact .ok trivial

theorem skipFraction_digits {d c : Char} {ds rest : List Char}
    (h : spanDigits cs = (d :: ds, c :: rest)) :
    skipFraction cs = if c = 'e' ∨ c = 'E' then skipExponent rest else .ok (c :: rest) := by
  unfold skipFraction
  rw [h]
  split
  · rename_i heq
    cases heq
  · rename_i heq
    cases heq
    simp
  · rename_i heq
    cases heq
    simp
  · rename_i he hE heq
    cases heq
    rw [if_neg]
    rintro (rfl | rfl)
    · exact he _ rfl
    · exact hE _ rfl

theorem skipFraction_commits (h : ¬ Begins FractionTail cs) :
    CommitsAnyhow q (· ++ q) (skipFraction cs) (skipFraction (cs ++ q)) := by
  rcases spanDigits_cases cs with hall | ⟨ds, c, rest, hspan⟩
  · exact absurd (.fractionTail_digits hall) h
  cases ds with
  | nil =>
    unfold skipFraction
    rw [hspan, spanDigits_followed hspan]
    exact .form
  | cons d ds =>
    rw [skipFraction_digits hspan, skipFraction_digits (spanDigits_followed hspan q)]
    split_ifs with hl
    · exact skipExponent_commits (not_begins_exponentTail h hspan hl)
    · exact .ok trivial

theorem skipNumberEnd_cons (c : Char) (rest : List Char) : skipNumberEnd (c :: rest) =
    if c = '.' then skipFraction rest
    else if c = 'e' ∨ c = 'E' then skipExponent rest
    else .ok (c :: rest) := by
  unfold skipNumberEnd
  split <;> simp_all

theorem skipNumberEnd_commits (h : ¬ Begins MagnitudeTail cs) :
    CommitsAnyhow q (· ++ q) (skipNumberEnd cs) (skipNumberEnd (cs ++ q)) := by
  cases cs with
  | nil => exact absurd .magnitudeTail_nil h
  | cons c rest =>
    rw [List.cons_append, skipNumberEnd_cons, skipNumberEnd_cons]
    split_ifs with hp hl
    · exact skipFraction_commits (fun hb => h (hp ▸ hb.magnitude_of_fraction))
    · exact skipExponent_commits (fun hb => h (hb.magnitude_of_exponent hl))
    · exact .ok trivial

theorem skipNumber_cons {c : Char} (hzero : c ≠ '0') (rest : List Char) :
    skipNumber (c :: rest) = if (spanDigits (c :: rest)).1 = [] then .error (.form .invalidNumber)
      else skipNumberEnd (spanDigits (c :: rest)).2 := by
  unfold skipNumber
  split
  · rename_i heq
    exact absurd (List.cons.inj heq).1 hzero
  · split
    · rename_i hspan
      rw [hspan, if_pos rfl]
    · rename_i hspan
      rw [hspan, if_neg (List.cons_ne_nil _ _)]

/-- A number that something else follows is skipped in the same way whatever comes later. -/
theorem skipNumber_commits (h : ¬ Begins Magnitude cs) :
    CommitsAnyhow q (· ++ q) (skipNumber cs) (skipNumber (cs ++ q)) := by
  cases cs with
  | nil => exact absurd .magnitude_nil h
  | cons c rest =>
    by_cases hzero : c = '0'
    · subst hzero
      have htail : ¬ Begins MagnitudeTail rest := fun hb => h (hb.magnitude numeral_zero)
      cases rest with
      | nil => exact absurd .magnitudeTail_nil htail
      | cons d rest =>
        simp only [List.cons_append, skipNumber]
        split_ifs
        · exact .form
        · exact skipNumberEnd_commits htail
    rw [List.cons_append, skipNumber_cons hzero, skipNumber_cons hzero]
    by_cases hdigit : Decimal.isDigit c = true
    · obtain ⟨ds, d, rest', hspan, htail⟩ := spanDigits_number h hzero hdigit
      have hlonger := spanDigits_followed hspan q
      rw [List.cons_append] at hlonger
      simp only [hspan, hlonger, List.cons_ne_nil, if_false]
      exact skipNumberEnd_commits htail
    · simp only [spanDigits, List.takeWhile_cons_of_neg hdigit, if_true]
      exact .form

end Numbers

end AlgorithmDriver.Json
