import AlgorithmDriver.Proofs.Json.Grammar
import AlgorithmDriver.Proofs.Json.Written
import Mathlib.Data.List.TakeWhile

/-!
# What the lexer accepts

Each function of the lexer accepts the texts of the grammar and no others: what it uses up is such a
text, and such a text is used up when something that can follow it comes next.

* `readText_nil_eq_ok_iff`, `skipText_eq_ok_iff` — strings, read and skipped.
* `skipNumber_eq_ok`, `skipNumber_append` — numbers, skipped.
* `readNumber_eq_whole`, `readNumber_append` — integers of 64 bits, read.
-/

namespace AlgorithmDriver.Json

/-! ## Blanks -/

/-- The blanks at the beginning, and what comes after them. -/
theorem blanks_append_skipBlank (cs : List Char) :
    ∃ blanks, Blanks blanks ∧ cs = blanks ++ skipBlank cs :=
  ⟨cs.takeWhile isBlank, fun _ hc => List.mem_takeWhile_imp hc,
    List.takeWhile_append_dropWhile.symm⟩

theorem skipBlank_append {blanks : List Char} (h : Blanks blanks) (cs : List Char) :
    skipBlank (blanks ++ cs) = skipBlank cs :=
  List.dropWhile_append_of_pos h

theorem skipBlank_head {cs rest : List Char} {c : Char} (h : skipBlank cs = c :: rest) :
    isBlank c = false := by
  have hd : (cs.dropWhile isBlank).head? = some c := by
    rw [← skipBlank, h]
    rfl
  simpa [hd] using List.head?_dropWhile_not isBlank cs

theorem skipBlank_skipBlank (cs : List Char) : skipBlank (skipBlank cs) = skipBlank cs := by
  cases h : skipBlank cs with
  | nil => rfl
  | cons c rest => exact skipBlank_cons (skipBlank_head h)

/-! ## Elements of strings -/

theorem hexValue?_lt {c : Char} {n : Nat} (h : Decimal.hexValue? c = some n) : n < 16 := by
  have bound : ∀ {d : Char}, c ≤ d → c.toNat ≤ d.toNat := fun h => h
  unfold Decimal.hexValue? at h
  split_ifs at h with hd hl hu
  · simp only [Decimal.isDigit, Bool.and_eq_true, decide_eq_true_eq] at hd
    have := bound hd.2
    simp only [Option.some.injEq, Char.reduceToNat] at h this
    omega
  · have := bound hl.2
    simp only [Option.some.injEq, Char.reduceToNat] at h this
    omega
  · have := bound hu.2
    simp only [Option.some.injEq, Char.reduceToNat] at h this
    omega

theorem Char.not_surrogate (c : Char) : ¬(0xD800 ≤ c.toNat ∧ c.toNat ≤ 0xDFFF) := by
  have h : c.toNat < 0xD800 ∨ 0xDFFF < c.toNat ∧ c.toNat < 0x110000 := c.valid
  omega

theorem toNat_ofNat_of_valid {n : Nat} (h : n.isValidChar) : (Char.ofNat n).toNat = n := by
  rw [Char.ofNat, dif_pos h]
  rfl

namespace CodeUnit

variable {text ds : List Char} {n : Nat}

/-- What follows a backslash and the letter is four digits. -/
theorem lt_of_number (h : CodeUnit ('\\' :: 'u' :: ds) n) : n < 0x10000 := by
  generalize ht : '\\' :: 'u' :: ds = text at h
  cases h with
  | plain => simp at ht
  | letter hl =>
    simp only [List.cons.injEq, true_and] at ht
    rw [← ht.1] at hl
    cases hl
  | number ha hb hc hd =>
    have := hexValue?_lt ha
    have := hexValue?_lt hb
    have := hexValue?_lt hc
    have := hexValue?_lt hd
    omega

/-- Half of a pair of surrogates can be written in one way only. -/
theorem number_of_surrogate (h : CodeUnit text n) (hl : 0xD800 ≤ n) (hu : n ≤ 0xDFFF) :
    ∃ ds, text = '\\' :: 'u' :: ds := by
  cases h with
  | @plain c => exact absurd ⟨hl, hu⟩ (Char.not_surrogate c)
  | @letter l c => exact absurd ⟨hl, hu⟩ (Char.not_surrogate c)
  | number => exact ⟨_, rfl⟩

end CodeUnit

/-- Four hexadecimal digits are an element of a string when a backslash and the letter are in front
of them. -/
theorem readHex_eq_ok_iff {cs rest : List Char} {n : Nat} :
    readHex cs = .ok (n, rest) ↔ ∃ ds, cs = ds ++ rest ∧ CodeUnit ('\\' :: 'u' :: ds) n := by
  constructor
  · intro h
    unfold readHex at h
    split at h
    · rename_i a b c d rest'
      split at h
      · rename_i ha hb hc hd
        cases h
        exact ⟨[a, b, c, d], rfl, .number ha hb hc hd⟩
      · cases h
    · split at h <;> cases h
  · rintro ⟨ds, rfl, h⟩
    generalize ht : '\\' :: 'u' :: ds = text at h
    cases h with
    | plain => simp at ht
    | letter hl =>
      simp only [List.cons.injEq, true_and] at ht
      rw [← ht.1] at hl
      cases hl
    | number ha hb hc hd =>
      simp only [List.cons.injEq, true_and] at ht
      subst ht
      simp only [List.cons_append, List.nil_append, readHex, ha, hb, hc, hd]

/-- What is read after a backslash and the letter is a character that is no surrogate, or a pair of
surrogates. -/
theorem charText_of_readUnicode {cs rest : List Char} {c : Char}
    (h : readUnicode cs = .ok (c, rest)) :
    ∃ text, cs = text ++ rest ∧ CharText ('\\' :: 'u' :: text) c := by
  unfold readUnicode at h
  split at h
  · cases h
  · rename_i high rest1 hh
    obtain ⟨ds, rfl, hunit⟩ := readHex_eq_ok_iff.1 hh
    have hlt := hunit.lt_of_number
    split_ifs at h with hlow hplain
    · cases h
      have hvalid : high.isValidChar := by
        unfold Nat.isValidChar
        omega
      rw [← toNat_ofNat_of_valid hvalid] at hunit
      exact ⟨ds, rfl, .one hunit⟩
    · split at h
      · cases h
      · cases h
      · split at h
        · cases h
        · rename_i low rest2 hl
          obtain ⟨ds', rfl, hunit'⟩ := readHex_eq_ok_iff.1 hl
          split_ifs at h with hpair
          simp only [Except.ok.injEq, Prod.mk.injEq] at h
          obtain ⟨rfl, rfl⟩ := h
          have hvalid : (0x10000 + (high - 0xD800) * 0x400 + (low - 0xDC00)).isValidChar := by
            unfold Nat.isValidChar
            omega
          have hc := toNat_ofNat_of_valid hvalid
          exact ⟨ds ++ '\\' :: 'u' :: ds', by simp,
            .pair hunit hunit' (by omega) (by omega) (by omega) (by omega) hc⟩
      · cases h

theorem readUnicode_of_charText {text : List Char} {c : Char} (rest : List Char)
    (h : CharText ('\\' :: 'u' :: text) c) : readUnicode (text ++ rest) = .ok (c, rest) := by
  generalize ht : '\\' :: 'u' :: text = whole at h
  cases h with
  | one hunit =>
    subst ht
    have hvalid := Char.not_surrogate c
    have hlt := hunit.lt_of_number
    have hh : readHex (text ++ rest) = .ok (c.toNat, rest) :=
      readHex_eq_ok_iff.2 ⟨text, rfl, hunit⟩
    simp only [readUnicode, hh]
    rw [if_neg (by omega), if_pos (by omega), Char.ofNat_toNat]
  | @pair first second high low c hf hs h1 h2 h3 h4 hc =>
    obtain ⟨ds, rfl⟩ := hf.number_of_surrogate h1 (by omega)
    obtain ⟨ds', rfl⟩ := hs.number_of_surrogate (by omega) h4
    simp only [List.cons_append, List.cons.injEq, true_and] at ht
    subst ht
    have hh : readHex (ds ++ '\\' :: 'u' :: (ds' ++ rest)) = .ok (high, _) :=
      readHex_eq_ok_iff.2 ⟨ds, rfl, hf⟩
    have hl : readHex (ds' ++ rest) = .ok (low, rest) := readHex_eq_ok_iff.2 ⟨ds', rfl, hs⟩
    simp only [List.append_assoc, List.cons_append, readUnicode, hh, hl]
    rw [if_neg (by omega), if_neg (by omega), if_neg (by omega), ← hc, Char.ofNat_toNat]

theorem readEscape_eq_ok_iff {cs rest : List Char} {c : Char} :
    readEscape cs = .ok (c, rest) ↔ ∃ text, cs = text ++ rest ∧ CharText ('\\' :: text) c := by
  constructor
  · intro h
    unfold readEscape at h
    split at h
    · cases h
    · rename_i l rest'
      split at h
      · rename_i hl
        cases h
        exact ⟨[l], rfl, .one (.letter hl)⟩
      · split_ifs at h with hu
        obtain ⟨text, rfl, ht⟩ := charText_of_readUnicode h
        exact ⟨'u' :: text, by rw [hu, List.cons_append], ht⟩
  · rintro ⟨text, rfl, h⟩
    have unicode : ∀ ds, text = 'u' :: ds → readEscape (text ++ rest) = .ok (c, rest) := by
      rintro ds rfl
      exact readUnicode_of_charText rest h
    generalize ht : '\\' :: text = whole at h
    cases h with
    | one hunit =>
      generalize hn : c.toNat = n at hunit
      cases hunit with
      | plain hq hb hs => exact absurd (List.cons.inj ht).1.symm hb
      | @letter l c' hl =>
        obtain rfl := Char.toNat_inj.1 hn
        cases ht
        simp only [List.cons_append, List.nil_append, readEscape, hl]
      | number => exact unicode _ (List.cons.inj ht).2
    | @pair first second high low c hf hs h1 h2 h3 h4 hc =>
      obtain ⟨ds, rfl⟩ := hf.number_of_surrogate h1 (by omega)
      exact unicode _ (List.cons.inj ht).2

/-! ## Strings -/

theorem readText_charText {part : List Char} {c : Char} (h : CharText part c)
    (done cs : List Char) : readText done (part ++ cs) = readText (c :: done) cs := by
  have escaped : ∀ text, part = '\\' :: text →
      readText done (part ++ cs) = readText (c :: done) cs := by
    rintro text rfl
    exact readText_escape (readEscape_eq_ok_iff.2 ⟨text, rfl, h⟩)
  cases h with
  | one hunit =>
    generalize hn : c.toNat = n at hunit
    cases hunit with
    | plain hq hb hs =>
      obtain rfl := Char.toNat_inj.1 hn
      exact readText_plain hq hb hs
    | letter => exact escaped _ rfl
    | number => exact escaped _ rfl
  | pair hf hs h1 h2 h3 h4 hc =>
    obtain ⟨ds, rfl⟩ := hf.number_of_surrogate h1 (by omega)
    exact escaped _ rfl

/-- After the opening quote, the texts of characters are read up to the closing quote. -/
theorem readText_eq_ok_iff {done cs rest : List Char} {s : String} :
    readText done cs = .ok (s, rest) ↔
      ∃ parts chars, List.Forall₂ CharText parts chars ∧
        s = String.ofList (done.reverse ++ chars) ∧ cs = parts.flatten ++ '"' :: rest := by
  constructor
  · intro h
    fun_induction readText done cs with
    | case2 done cs =>
      cases h
      exact ⟨[], [], .nil, by simp, rfl⟩
    | case4 done cs c cs' hr hq hb ih =>
      obtain ⟨parts, chars, hparts, rfl, rfl⟩ := ih h
      obtain ⟨text, rfl, htext⟩ := readEscape_eq_ok_iff.1 hr
      exact ⟨_ :: parts, c :: chars, .cons htext hparts, by simp, by simp⟩
    | case6 done c cs hq hb hs ih =>
      obtain ⟨parts, chars, hparts, rfl, rfl⟩ := ih h
      exact ⟨[c] :: parts, c :: chars, .cons (.one (.plain hq hb hs)) hparts, by simp, by simp⟩
    | _ => cases h
  · rintro ⟨parts, chars, hparts, rfl, rfl⟩
    induction hparts generalizing done with
    | nil => rw [List.flatten_nil, List.nil_append, readText, if_pos rfl, List.append_nil]
    | cons hpart hparts ih =>
      rw [List.flatten_cons, List.append_assoc, readText_charText hpart, ih]
      simp

/-- A string is read up to its closing quote. -/
theorem readText_nil_eq_ok_iff {cs rest : List Char} {s : String} :
    readText [] cs = .ok (s, rest) ↔ ∃ text, '"' :: cs = text ++ rest ∧ StringText text s := by
  rw [readText_eq_ok_iff]
  constructor
  · rintro ⟨parts, chars, hparts, rfl, rfl⟩
    refine ⟨quoted parts, by simp [quoted], parts, ?_, rfl⟩
    rw [List.reverse_nil, List.nil_append, String.toList_ofList]
    exact hparts
  · rintro ⟨text, he, parts, hparts, rfl⟩
    refine ⟨parts, s.toList, hparts, by simp, ?_⟩
    simpa [quoted] using he

theorem skipEscape_eq_ok_iff {cs rest : List Char} :
    skipEscape cs = .ok rest ↔ ∃ text n, cs = text ++ rest ∧ CodeUnit ('\\' :: text) n := by
  constructor
  · intro h
    unfold skipEscape at h
    split at h
    · cases h
    · rename_i l cs'
      split_ifs at h with hl hu
      · cases h
        obtain ⟨c, hc⟩ := Option.isSome_iff_exists.1 hl
        exact ⟨[l], _, rfl, .letter hc⟩
      · obtain ⟨⟨n, cs''⟩, hr, rfl⟩ := Except.map_eq_ok_iff.1 h
        obtain ⟨ds, rfl, hunit⟩ := readHex_eq_ok_iff.1 hr
        exact ⟨'u' :: ds, n, by rw [hu, List.cons_append], hunit⟩
  · rintro ⟨text, n, rfl, h⟩
    generalize ht : '\\' :: text = whole at h
    cases h with
    | plain hq hb hs => exact absurd (List.cons.inj ht).1.symm hb
    | letter hl =>
      cases ht
      simp only [List.cons_append, List.nil_append, skipEscape, hl, Option.isSome_some, if_true]
    | @number a b c d w x y z ha hb hc hd =>
      cases ht
      have hh : readHex ([a, b, c, d] ++ rest) = .ok (_, rest) :=
        readHex_eq_ok_iff.2 ⟨_, rfl, .number ha hb hc hd⟩
      show (readHex ([a, b, c, d] ++ rest)).map Prod.snd = _
      rw [hh]
      rfl

theorem skipText_codeUnit {part : List Char} {n : Nat} (h : CodeUnit part n) (cs : List Char) :
    skipText (part ++ cs) = skipText cs := by
  have escaped : ∀ text, part = '\\' :: text → skipText (part ++ cs) = skipText cs := by
    rintro text rfl
    have he : skipEscape (text ++ cs) = .ok cs := skipEscape_eq_ok_iff.2 ⟨text, n, rfl, h⟩
    rw [List.cons_append, skipText, if_neg (by decide), if_pos rfl]
    split
    · rename_i e hs
      rw [he] at hs
      cases hs
    · rename_i cs' hs
      rw [he] at hs
      cases hs
      rfl
  cases h with
  | plain hq hb hs =>
    rw [List.singleton_append, skipText, if_neg hq, if_neg hb, if_neg hs]
  | letter => exact escaped _ rfl
  | number => exact escaped _ rfl

/-- A string whose characters do not matter is skipped up to its closing quote. -/
theorem skipText_eq_ok_iff {cs rest : List Char} :
    skipText cs = .ok rest ↔ ∃ text, '"' :: cs = text ++ rest ∧ RawString text := by
  have key : skipText cs = .ok rest ↔
      ∃ parts : List (List Char), (∀ part ∈ parts, ∃ n, CodeUnit part n) ∧
        cs = parts.flatten ++ '"' :: rest := by
    constructor
    · intro h
      fun_induction skipText cs with
      | case2 cs =>
        cases h
        exact ⟨[], by simp, rfl⟩
      | case4 cs cs' hr hq hb ih =>
        obtain ⟨parts, hparts, rfl⟩ := ih h
        obtain ⟨text, n, rfl, htext⟩ := skipEscape_eq_ok_iff.1 hr
        exact ⟨_ :: parts, List.forall_mem_cons.2 ⟨⟨n, htext⟩, hparts⟩, by simp⟩
      | case6 c cs hq hb hs ih =>
        obtain ⟨parts, hparts, rfl⟩ := ih h
        exact ⟨[c] :: parts, List.forall_mem_cons.2 ⟨⟨_, .plain hq hb hs⟩, hparts⟩, by simp⟩
      | _ => cases h
    · rintro ⟨parts, hparts, rfl⟩
      induction parts with
      | nil => rw [List.flatten_nil, List.nil_append, skipText, if_pos rfl]
      | cons part parts ih =>
        obtain ⟨⟨n, hpart⟩, hparts⟩ := List.forall_mem_cons.1 hparts
        rw [List.flatten_cons, List.append_assoc, skipText_codeUnit hpart, ih hparts]
  rw [key]
  constructor
  · rintro ⟨parts, hparts, rfl⟩
    exact ⟨quoted parts, by simp [quoted], parts, hparts, rfl⟩
  · rintro ⟨text, he, parts, hparts, rfl⟩
    exact ⟨parts, hparts, by simpa [quoted] using he⟩

/-! ## Numbers that are skipped -/

theorem spanDigits_eq {cs ds rest : List Char} (h : spanDigits cs = (ds, rest)) :
    cs = ds ++ rest ∧ ∀ c ∈ ds, Decimal.isDigit c = true := by
  cases h
  exact ⟨List.takeWhile_append_dropWhile.symm, fun _ hc => List.mem_takeWhile_imp hc⟩

theorem readSign_eq (cs : List Char) :
    ∃ sign ∈ [[], ['+'], ['-']], cs = sign ++ (readSign cs).2 := by
  unfold readSign
  split
  · exact ⟨['+'], by decide, rfl⟩
  · exact ⟨['-'], by decide, rfl⟩
  · exact ⟨[], by decide, rfl⟩

theorem readSign_append {sign ds : List Char} (hs : sign ∈ [[], ['+'], ['-']])
    (hd : Digits ds) (rest : List Char) : (readSign (sign ++ (ds ++ rest))).2 = ds ++ rest := by
  obtain ⟨d, ds, rfl⟩ := List.exists_cons_of_ne_nil hd.1
  have hdigit : Decimal.isDigit d = true := hd.2 d List.mem_cons_self
  simp only [List.mem_cons, List.not_mem_nil, or_false] at hs
  rcases hs with rfl | rfl | rfl
  · rw [List.nil_append, List.cons_append]
    unfold readSign
    split
    · rename_i he
      cases he
      cases hdigit
    · rename_i he
      cases he
      cases hdigit
    · rfl
  · rfl
  · rfl

/-- What the digits of a number end before. -/
theorem Exponent.not_digit {exponent rest : List Char} (h : Exponent exponent)
    (hr : Closed rest) : ∀ c cs, exponent ++ rest = c :: cs → Decimal.isDigit c = false := by
  cases h with
  | missing => exact hr.not_digit
  | digits hl hs hd =>
    rintro c cs he
    obtain ⟨rfl, -⟩ := List.cons.inj he
    simp only [List.mem_cons, List.not_mem_nil, or_false] at hl
    rcases hl with rfl | rfl <;> decide

theorem Fraction.not_digit {fraction exponent rest : List Char} (h : Fraction fraction)
    (he : Exponent exponent) (hr : Closed rest) :
    ∀ c cs, fraction ++ (exponent ++ rest) = c :: cs → Decimal.isDigit c = false := by
  cases h with
  | missing => exact he.not_digit hr
  | digits hd =>
    rintro c cs he
    obtain ⟨rfl, -⟩ := List.cons.inj he
    decide

/-- Blanks, commas and brackets begin neither a fraction nor an exponent. -/
theorem Closed.not_end {rest : List Char} (h : Closed rest) :
    ∀ cs, rest ≠ '.' :: cs ∧ rest ≠ 'e' :: cs ∧ rest ≠ 'E' :: cs := by
  intro cs
  refine ⟨?_, ?_, ?_⟩ <;>
  · rintro rfl
    exact absurd (h _ _ rfl) (by decide)

theorem skipExponent_eq_ok {cs rest : List Char} (h : skipExponent cs = .ok rest) :
    ∃ sign ds, sign ∈ [[], ['+'], ['-']] ∧ Digits ds ∧ cs = sign ++ (ds ++ rest) := by
  obtain ⟨sign, hsign, hcs⟩ := readSign_eq cs
  unfold skipExponent at h
  split at h
  · cases h
  · rename_i d ds rest' hspan
    cases h
    obtain ⟨he, hd⟩ := spanDigits_eq hspan
    exact ⟨sign, d :: ds, hsign, ⟨List.cons_ne_nil d ds, hd⟩, by rw [← he]; exact hcs⟩

theorem skipExponent_append {sign ds rest : List Char} (hs : sign ∈ [[], ['+'], ['-']])
    (hd : Digits ds) (hr : Closed rest) : skipExponent (sign ++ (ds ++ rest)) = .ok rest := by
  rw [skipExponent, readSign_append hs hd, spanDigits_append hd.2 hr.not_digit]
  obtain ⟨d, ds, rfl⟩ := List.exists_cons_of_ne_nil hd.1
  rfl

theorem skipFraction_eq_ok {cs rest : List Char} (h : skipFraction cs = .ok rest) :
    ∃ ds exponent, Digits ds ∧ Exponent exponent ∧ cs = ds ++ (exponent ++ rest) := by
  have letter : ∀ {l d : Char} {ds cs' : List Char}, l ∈ ['e', 'E'] →
      spanDigits cs = (d :: ds, l :: cs') → skipExponent cs' = .ok rest →
      ∃ ds exponent, Digits ds ∧ Exponent exponent ∧ cs = ds ++ (exponent ++ rest) := by
    intro l d ds cs' hl hspan hexp
    obtain ⟨rfl, hd⟩ := spanDigits_eq hspan
    obtain ⟨sign, ds', hsign, hd', rfl⟩ := skipExponent_eq_ok hexp
    exact ⟨d :: ds, _, ⟨List.cons_ne_nil d ds, hd⟩, .digits hl hsign hd', by simp⟩
  unfold skipFraction at h
  split at h
  · cases h
  · rename_i hspan
    exact letter (by decide) hspan h
  · rename_i hspan
    exact letter (by decide) hspan h
  · rename_i d ds rest' _ _ hspan
    cases h
    obtain ⟨rfl, hd⟩ := spanDigits_eq hspan
    exact ⟨d :: ds, [], ⟨List.cons_ne_nil d ds, hd⟩, .missing, rfl⟩

theorem skipFraction_append {ds exponent rest : List Char} (hd : Digits ds)
    (he : Exponent exponent) (hr : Closed rest) :
    skipFraction (ds ++ (exponent ++ rest)) = .ok rest := by
  rw [skipFraction, spanDigits_append hd.2 (he.not_digit hr)]
  obtain ⟨d, ds, rfl⟩ := List.exists_cons_of_ne_nil hd.1
  cases he with
  | missing =>
    have hend := hr.not_end
    rw [List.nil_append]
    split
    · rename_i heq
      exact absurd (congrArg Prod.fst heq) (List.cons_ne_nil d ds)
    · rename_i heq
      exact absurd (congrArg Prod.snd heq) (hend _).2.1
    · rename_i heq
      exact absurd (congrArg Prod.snd heq) (hend _).2.2
    · rename_i heq
      exact congrArg Except.ok (congrArg Prod.snd heq).symm
  | digits hl hs hd' =>
    simp only [List.mem_cons, List.not_mem_nil, or_false] at hl
    rw [List.cons_append, List.append_assoc]
    rcases hl with rfl | rfl
    · exact skipExponent_append hs hd' hr
    · exact skipExponent_append hs hd' hr

theorem skipNumberEnd_eq_ok {cs rest : List Char} (h : skipNumberEnd cs = .ok rest) :
    ∃ fraction exponent, Fraction fraction ∧ Exponent exponent ∧
      cs = fraction ++ (exponent ++ rest) := by
  have letter : ∀ {l : Char} {cs' : List Char}, l ∈ ['e', 'E'] → skipExponent cs' = .ok rest →
      ∃ fraction exponent, Fraction fraction ∧ Exponent exponent ∧
        l :: cs' = fraction ++ (exponent ++ rest) := by
    intro l cs' hl hexp
    obtain ⟨sign, ds, hsign, hd, rfl⟩ := skipExponent_eq_ok hexp
    exact ⟨[], _, .missing, .digits hl hsign hd, by simp⟩
  unfold skipNumberEnd at h
  split at h
  · obtain ⟨ds, exponent, hd, he, rfl⟩ := skipFraction_eq_ok h
    exact ⟨_, exponent, .digits hd, he, rfl⟩
  · exact letter (by decide) h
  · exact letter (by decide) h
  · cases h
    exact ⟨[], [], .missing, .missing, rfl⟩

theorem skipNumberEnd_append {fraction exponent rest : List Char} (hf : Fraction fraction)
    (he : Exponent exponent) (hr : Closed rest) :
    skipNumberEnd (fraction ++ (exponent ++ rest)) = .ok rest := by
  cases hf with
  | digits hd => exact skipFraction_append hd he hr
  | missing =>
    rw [List.nil_append]
    cases he with
    | digits hl hs hd =>
      simp only [List.mem_cons, List.not_mem_nil, or_false] at hl
      rw [List.cons_append, List.append_assoc]
      rcases hl with rfl | rfl
      · exact skipExponent_append hs hd hr
      · exact skipExponent_append hs hd hr
    | missing =>
      have hend := hr.not_end
      rw [List.nil_append]
      unfold skipNumberEnd
      split
      · exact absurd rfl (hend _).1
      · exact absurd rfl (hend _).2.1
      · exact absurd rfl (hend _).2.2
      · rfl

/-- What is skipped as a number is one. -/
theorem skipNumber_eq_ok {cs rest : List Char} (h : skipNumber cs = .ok rest) :
    ∃ text, cs = text ++ rest ∧ Magnitude text := by
  unfold skipNumber at h
  split at h
  · rename_i d cs'
    split_ifs at h with hd
    obtain ⟨fraction, exponent, hf, he, hcs⟩ := skipNumberEnd_eq_ok h
    refine ⟨'0' :: (fraction ++ exponent), by simp [hcs], ['0'], fraction, exponent, ?_, hf, he, rfl⟩
    exact ⟨⟨by simp, by simp [Decimal.isDigit]⟩, by simp⟩
  · rename_i hzero
    split at h
    · cases h
    · rename_i d ds cs' hspan
      obtain ⟨rfl, hd⟩ := spanDigits_eq hspan
      obtain ⟨fraction, exponent, hf, he, rfl⟩ := skipNumberEnd_eq_ok h
      refine ⟨d :: ds ++ (fraction ++ exponent), by simp, d :: ds, fraction, exponent,
        ⟨⟨List.cons_ne_nil d ds, hd⟩, ?_⟩, hf, he, rfl⟩
      rintro cs hcs
      obtain ⟨rfl, rfl⟩ := List.cons.inj hcs
      cases ds with
      | nil => rfl
      | cons c ds => exact (hzero c _ rfl).elim

theorem skipNumber_append {text rest : List Char} (h : Magnitude text) (hr : Closed rest) :
    skipNumber (text ++ rest) = .ok rest := by
  obtain ⟨whole, fraction, exponent, hw, hf, he, rfl⟩ := h
  have hend := skipNumberEnd_append hf he hr
  have hnext := hf.not_digit he hr
  rw [List.append_assoc, List.append_assoc]
  have hspan := spanDigits_append hw.1.2 hnext
  obtain ⟨d, ds, rfl⟩ := List.exists_cons_of_ne_nil hw.1.1
  unfold skipNumber
  split
  · rename_i c cs heq
    obtain ⟨rfl, htail⟩ := List.cons.inj heq
    obtain rfl := hw.2 ds rfl
    rw [if_neg (by simp [hnext c cs htail])]
    exact htail ▸ hend
  · rw [hspan]
    exact hend

/-! ## Integers of 64 bits -/

/-- When no digit is left over, all digits count. -/
theorem extend_left_over {ds : List Char} {significand used result used' : Nat}
    (h : extend significand used ds = (result, used', 0)) :
    ds.foldl (fun n c => n * 10 + Decimal.digitValue c) significand = result ∧
      (significand < twoTo 64 → result < twoTo 64) := by
  induction ds generalizing significand used with
  | nil =>
    cases h
    exact ⟨rfl, id⟩
  | cons d ds ih =>
    rw [extend] at h
    split at h
    · rename_i hroom
      obtain ⟨hfold, hlt⟩ := ih h
      exact ⟨hfold, fun _ => hlt hroom⟩
    · exact absurd (congrArg (·.2.2) h) (Nat.succ_ne_zero _)

section Floats

variable {negative : Bool} {significand : Nat} {exponent : Int} {cs rest : List Char} {n : UInt64}

theorem makeFloat_ne_whole :
    makeFloat negative significand exponent cs ≠ .ok (.whole n, rest) := by
  intro h
  unfold makeFloat at h
  split at h <;> cases h

/-- A number with an exponent or a fraction is no integer. -/
theorem readExponent_ne_whole :
    readExponent negative significand exponent cs ≠ .ok (.whole n, rest) := by
  intro h
  unfold readExponent at h
  dsimp only at h
  split at h
  · cases h
  · split_ifs at h
    · exact makeFloat_ne_whole h
    · exact makeFloat_ne_whole h
    · cases h

theorem readFraction_ne_whole :
    readFraction negative significand exponent cs ≠ .ok (.whole n, rest) := by
  intro h
  unfold readFraction at h
  split at h
  · cases h
  · cases h
  · dsimp only at h
    split at h
    · exact readExponent_ne_whole h
    · exact readExponent_ne_whole h
    · exact makeFloat_ne_whole h

theorem readNumberEnd_eq_whole {dropped : Nat}
    (h : readNumberEnd negative significand dropped cs = .ok (.whole n, rest)) :
    negative = false ∧ dropped = 0 ∧ n = UInt64.ofNat significand ∧ rest = cs := by
  unfold readNumberEnd at h
  split at h
  · exact absurd h readFraction_ne_whole
  · exact absurd h readExponent_ne_whole
  · exact absurd h readExponent_ne_whole
  · by_cases hd : dropped = 0
    · rw [if_neg (not_not.2 hd)] at h
      cases negative with
      | false =>
        simp only [if_false, Bool.false_eq_true, Except.ok.injEq, Prod.mk.injEq,
          Number.whole.injEq] at h
        exact ⟨rfl, hd, h.1.symm, h.2.symm⟩
      | true =>
        rw [if_pos rfl] at h
        split_ifs at h
        · exact absurd h makeFloat_ne_whole
        · cases h
    · rw [if_pos hd] at h
      exact absurd h makeFloat_ne_whole

end Floats

/-- What is read as an integer of 64 bits is written as one, without a sign. -/
theorem readNumber_eq_whole {negative : Bool} {cs rest : List Char} {n : UInt64}
    (h : readNumber negative cs = .ok (.whole n, rest)) :
    negative = false ∧ ∃ text, cs = text ++ rest ∧ SizeText text n := by
  have zero : ∀ {cs' : List Char}, readNumberEnd negative 0 0 cs' = .ok (.whole n, rest) →
      negative = false ∧ ∃ text, '0' :: cs' = text ++ rest ∧ SizeText text n := by
    intro cs' hend
    obtain ⟨hneg, -, rfl, rfl⟩ := readNumberEnd_eq_whole hend
    exact ⟨hneg, ['0'], rfl, ⟨⟨by simp, by simp [Decimal.isDigit]⟩, by simp⟩, rfl⟩
  unfold readNumber at h
  split at h
  · cases h
  · rename_i c tail
    by_cases hc : c = '0'
    · subst hc
      rw [if_pos rfl] at h
      split at h
      · exact zero h
      · split_ifs at h
        exact zero h
    · rw [if_neg hc] at h
      split_ifs at h with hd
      have hspan : spanDigits (c :: tail) =
          (c :: tail.takeWhile Decimal.isDigit, tail.dropWhile Decimal.isDigit) := by
        simp [spanDigits, hd]
      generalize tail.takeWhile Decimal.isDigit = ds at hspan
      generalize tail.dropWhile Decimal.isDigit = cs' at hspan
      obtain ⟨hcs, hdigits⟩ := spanDigits_eq hspan
      rw [hspan] at h
      dsimp only at h
      generalize hextend : extend 0 0 (c :: ds) = counted at h
      obtain ⟨significand, used, dropped⟩ := counted
      obtain ⟨hneg, rfl, rfl, rfl⟩ := readNumberEnd_eq_whole h
      obtain ⟨hvalue, hlt⟩ := extend_left_over hextend
      refine ⟨hneg, c :: ds, hcs,
        ⟨⟨List.cons_ne_nil c ds, hdigits⟩, fun cs he => absurd (List.cons.inj he).1 hc⟩, ?_⟩
      rw [UInt64.toNat_ofNat_of_lt' (hlt (by decide))]
      exact hvalue

/-- The texts of an integer of 64 bits are read. -/
theorem readNumber_append {text rest : List Char} {n : UInt64} (h : SizeText text n)
    (hr : Closed rest) : readNumber false (text ++ rest) = .ok (.whole n, rest) := by
  obtain ⟨⟨hdigits, hzero⟩, hvalue⟩ := h
  have hn : UInt64.ofNat (Decimal.value text) = n := by rw [hvalue, UInt64.ofNat_toNat]
  obtain ⟨d, ds, rfl⟩ := List.exists_cons_of_ne_nil hdigits.1
  by_cases hd : d = '0'
  · subst hd
    obtain rfl := hzero ds rfl
    rw [← hn]
    cases rest with
    | nil => rfl
    | cons c cs =>
      have hc := hr.not_digit c cs rfl
      show (if Decimal.isDigit c then _ else readNumberEnd false 0 0 (c :: cs)) = _
      rw [hc]
      exact hr.readNumberEnd 0
  · have hspan := spanDigits_append hdigits.2 hr.not_digit
    have hextend : extend 0 0 (d :: ds) = (Decimal.value (d :: ds), _, 0) :=
      extend_eq (by rw [← Decimal.value, hvalue]; exact n.toNat_lt)
    rw [List.cons_append] at hspan ⊢
    simp only [readNumber, if_neg hd, if_pos (hdigits.2 d List.mem_cons_self), hspan, hextend]
    rw [hr.readNumberEnd, hn]

end AlgorithmDriver.Json
