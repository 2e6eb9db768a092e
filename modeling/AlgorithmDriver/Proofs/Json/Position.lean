import AlgorithmDriver.Proofs.Json.Lexeme
import Mathlib.Data.String.Basic

/-!
# Positions in a document

What is left of a document behind whole lexemes.  From such a position strings, words and whole
values are read or skipped in the same way whatever comes after the document, if it does not end in
a number; what is left then is such a position again.

* `Left`, `Ready` — what is left behind lexemes, and what is left where another one may begin.
* `Left.readText`, `Ready.unexpected`, `Ready.skipValue` — what commits at such positions.
-/

namespace AlgorithmDriver.Json

variable {α β : Type} {d q cs rest : List Char}

/-! ## Positions in a document -/

/-- `rest` is left of the document `d` behind whole lexemes. -/
def Left (d rest : List Char) : Prop := ∃ before, Lexemes before ∧ d = before ++ rest

/-- `rest` is left of the document `d` where another lexeme may begin. -/
def Ready (d rest : List Char) : Prop :=
  ∃ before, Lexemes before ∧ Opens before ∧ d = before ++ rest

theorem ready_self (d : List Char) : Ready d d := ⟨[], .nil, nofun, rfl⟩

theorem Ready.left (h : Ready d cs) : Left d cs := by
  obtain ⟨before, hb, -, hd⟩ := h
  exact ⟨before, hb, hd⟩

theorem Left.lexeme {text : List Char} (h : Left d (text ++ rest)) (ht : Lexeme text) :
    Left d rest := by
  obtain ⟨before, hb, hd⟩ := h
  exact ⟨before ++ text, .snoc hb ht, by rw [hd, List.append_assoc]⟩

theorem Left.opened {c : Char} (h : Left d (c :: rest)) (hl : Lexeme [c])
    (hc : isBlank c = true ∨ c ∈ ['[', '\x7b', ',', ':']) : Ready d rest := by
  obtain ⟨before, hb, hd⟩ := h
  refine ⟨before ++ [c], .snoc hb hl, ?_, by simp [hd]⟩
  intro c' hc'
  rw [List.getLast?_append] at hc'
  cases hc'
  exact hc

theorem Left.mark {c : Char} (h : Left d (c :: rest)) (hc : c ∈ ['[', '\x7b', ',', ':']) :
    Ready d rest := by
  refine h.opened (.mark ?_) (.inr hc)
  simp only [List.mem_cons, List.not_mem_nil, or_false] at hc ⊢
  tauto

theorem Left.skipBlank (h : Left d cs) : Left d (skipBlank cs) := by
  induction cs with
  | nil => exact h
  | cons c cs ih =>
    by_cases hc : isBlank c = true
    · rw [Json.skipBlank, List.dropWhile_cons_of_pos hc]
      exact ih (h.opened (.blank hc) (.inl hc)).left
    · rw [Json.skipBlank, List.dropWhile_cons_of_neg hc]
      exact h

theorem Ready.skipBlank (h : Ready d cs) : Ready d (skipBlank cs) := by
  induction cs with
  | nil => exact h
  | cons c cs ih =>
    by_cases hc : isBlank c = true
    · rw [Json.skipBlank, List.dropWhile_cons_of_pos hc]
      exact ih (h.left.opened (.blank hc) (.inl hc))
    · rw [Json.skipBlank, List.dropWhile_cons_of_neg hc]
      exact h

theorem Left.past_blanks (h : Left d cs) (hb : Json.skipBlank cs = rest) : Left d rest :=
  hb ▸ h.skipBlank

theorem Ready.past_blanks (h : Ready d cs) (hb : Json.skipBlank cs = rest) : Ready d rest :=
  hb ▸ h.skipBlank

/-- No number goes on to the end of a document that does not end in one. -/
theorem Ready.not_begins (hd : ¬ EndsInNumber d) (h : Ready d cs) (hne : cs ≠ []) :
    ¬ Begins NumberText cs := by
  obtain ⟨before, hb, ho, rfl⟩ := h
  rintro ⟨after, hn⟩
  exact hd ⟨before, cs, after, hb, ho, hne, hn, rfl⟩

theorem Ready.not_begins_magnitude (hd : ¬ EndsInNumber d) {c : Char} (h : Ready d (c :: rest)) :
    ¬ Begins Magnitude (c :: rest) :=
  fun ⟨after, hm⟩ => h.not_begins hd (List.cons_ne_nil c rest) ⟨after, .positive hm⟩

theorem Ready.not_begins_negative (hd : ¬ EndsInNumber d) (h : Ready d ('-' :: rest)) :
    ¬ Begins Magnitude rest :=
  fun ⟨after, hm⟩ => h.not_begins hd (List.cons_ne_nil '-' rest) ⟨after, .negative hm⟩

/-- The first character that is not blank stays the first one in a longer text. -/
theorem skipBlank_followed {c : Char} (h : skipBlank cs = c :: rest) (q : List Char) :
    skipBlank (cs ++ q) = c :: (rest ++ q) := by
  obtain ⟨blanks, hb, hcs⟩ := blanks_append_skipBlank cs
  rw [hcs, h, List.append_assoc, skipBlank_append hb, List.cons_append,
    skipBlank_cons (skipBlank_head h)]

/-! ## Strings -/

/-- Hexadecimal digits take one byte. -/
theorem utf8Size_of_hexValue? {c : Char} {n : Nat} (h : Decimal.hexValue? c = some n) :
    c.utf8Size = 1 := by
  have bound : ∀ {e : Char}, c ≤ e → c.toNat ≤ e.toNat := fun h => h
  rw [Char.utf8Size_eq_one_iff]
  show c.toNat ≤ 127
  unfold Decimal.hexValue? at h
  split_ifs at h with hd hl hu
  · simp only [Decimal.isDigit, Bool.and_eq_true, decide_eq_true_eq] at hd
    exact (bound hd.2).trans (by decide)
  · exact (bound hl.2).trans (by decide)
  · exact (bound hu.2).trans (by decide)

/-- As many bytes as there are characters, if these are hexadecimal digits. -/
theorem utf8Len_of_hex (h : ∀ c ∈ cs, Decimal.hexValue? c ≠ none) :
    String.utf8Len cs = cs.length := by
  induction cs with
  | nil => rfl
  | cons c cs ih =>
    obtain ⟨hc, hcs⟩ := List.forall_mem_cons.1 h
    obtain ⟨n, hn⟩ := Option.ne_none_iff_exists'.1 hc
    rw [String.utf8Len_cons, ih hcs, utf8Size_of_hexValue? hn, List.length_cons]

theorem readHex_of_not_hex {c : Char} (hsize : 4 ≤ String.utf8Len cs) (hc : c ∈ cs.take 4)
    (hn : Decimal.hexValue? c = none) : readHex cs = .error (.form .invalidEscape) := by
  unfold readHex
  split
  · simp only [List.take_succ_cons, List.take_zero, List.mem_cons, List.not_mem_nil, or_false] at hc
    rcases hc with rfl | rfl | rfl | rfl <;> simp [hn]
  · rw [String.utf8ByteSize_ofList, if_pos hsize]

theorem readHex_short (h : cs.length < 4) : readHex cs =
    if 4 ≤ String.utf8Len cs then .error (.form .invalidEscape)
    else .error (.unfinished .string) := by
  unfold readHex
  split
  · simp only [List.length_cons] at h
    omega
  · rw [String.utf8ByteSize_ofList]

/-- Characters that take four bytes but are fewer than four are not all digits, so that more text
does not help. -/
theorem readHex_commits (cs : List Char) :
    CommitsAnyhow q (followed q) (readHex cs) (readHex (cs ++ q)) := by
  rcases Nat.lt_or_ge cs.length 4 with hlen | hlen
  · rw [readHex_short hlen]
    split_ifs with hsize
    · have hnot : ∃ c ∈ cs, Decimal.hexValue? c = none := by
        by_contra hall
        push Not at hall
        have := utf8Len_of_hex hall
        omega
      obtain ⟨c, hc, hn⟩ := hnot
      rw [readHex_of_not_hex (by rw [String.utf8Len_append]; omega) ?_ hn]
      · exact .form
      · rw [List.take_append, List.take_of_length_le (by omega)]
        exact List.mem_append_left _ hc
    · exact .unfinished
  · match cs, hlen with
    | a :: b :: c :: d :: rest, _ =>
      simp only [readHex, List.cons_append]
      split
      · exact .ok trivial
      · exact .form

/-- What must stand behind the first half of a pair of surrogates. -/
def readSecondHalf (high : Nat) : List Char → Except Failure (Char × List Char)
  | [] => .error (.unfinished .string)
  | c :: rest =>
    if c = '\\' then
      match rest with
      | [] => .error (.unfinished .string)
      | u :: rest =>
        if u = 'u' then (readHex rest).bind fun r =>
          if r.1 < 0xDC00 ∨ 0xDFFF < r.1 then .error (.form .loneSurrogate)
          else .ok (Char.ofNat (0x10000 + (high - 0xD800) * 0x400 + (r.1 - 0xDC00)), r.2)
        else .error (.form .unexpectedEndOfHexEscape)
    else .error (.form .unexpectedEndOfHexEscape)

theorem readUnicode_eq (cs : List Char) : readUnicode cs = (readHex cs).bind fun r =>
    if 0xDC00 ≤ r.1 ∧ r.1 ≤ 0xDFFF then .error (.form .loneSurrogate)
    else if r.1 < 0xD800 ∨ 0xDBFF < r.1 then .ok (Char.ofNat r.1, r.2)
    else readSecondHalf r.1 r.2 := by
  unfold readUnicode
  cases readHex cs with
  | error e => rfl
  | ok r =>
    obtain ⟨high, rest⟩ := r
    dsimp only [Except.bind]
    split_ifs
    · rfl
    · rfl
    · split
      · rfl
      · rfl
      · rename_i rest
        dsimp only [readSecondHalf]
        rw [if_pos rfl, if_pos rfl]
        cases readHex rest <;> rfl
      · rename_i hnil hlone hpair
        match rest with
        | [] => exact absurd rfl hnil
        | c :: rest =>
          dsimp only [readSecondHalf]
          split_ifs with hc
          · subst hc
            match rest with
            | [] => exact absurd rfl hlone
            | u :: rest =>
              have hu : u ≠ 'u' := fun hu => hpair rest (by rw [hu])
              exact (if_neg hu).symm
          · rfl

theorem readSecondHalf_commits (high : Nat) (cs : List Char) :
    CommitsAnyhow q (followed q) (readSecondHalf high cs) (readSecondHalf high (cs ++ q)) := by
  match cs with
  | [] => exact .unfinished
  | c :: [] =>
    unfold readSecondHalf
    dsimp only [List.cons_append]
    split_ifs
    · exact .unfinished
    · exact .form
  | c :: u :: rest =>
    unfold readSecondHalf
    dsimp only [List.cons_append]
    split_ifs
    · refine (readHex_commits rest).bind fun r _ _ => ?_
      dsimp only [followed]
      generalize Char.ofNat _ = read
      split_ifs
      · exact .form
      · exact .ok trivial
    · exact .form
    · exact .form

theorem readUnicode_commits (cs : List Char) :
    CommitsAnyhow q (followed q) (readUnicode cs) (readUnicode (cs ++ q)) := by
  rw [readUnicode_eq, readUnicode_eq]
  refine (readHex_commits cs).bind fun r _ _ => ?_
  dsimp only [followed]
  split_ifs
  · exact .form
  · exact .ok trivial
  · exact readSecondHalf_commits r.1 r.2

theorem readEscape_commits (cs : List Char) :
    CommitsAnyhow q (followed q) (readEscape cs) (readEscape (cs ++ q)) := by
  cases cs with
  | nil => exact .unfinished
  | cons c rest =>
    simp only [readEscape, List.cons_append]
    split
    · exact .ok trivial
    · split_ifs
      · exact readUnicode_commits rest
      · exact .form

theorem readText_cons (done : List Char) (c : Char) (rest : List Char) :
    readText done (c :: rest) =
      if c = '"' then .ok (String.ofList done.reverse, rest)
      else if c = '\\' then (readEscape rest).bind fun r => readText (r.1 :: done) r.2
      else if c < ' ' then .error (.form .controlCharacter)
      else readText (c :: done) rest := by
  rw [readText]
  split_ifs
  · rfl
  · split
    · rename_i he
      rw [he]
      rfl
    · rename_i he
      dsimp only
      rw [he]
      rfl
  · rfl
  · rfl

theorem readText_commits (done cs : List Char) :
    CommitsAnyhow q (followed q) (readText done cs) (readText done (cs ++ q)) := by
  induction hn : cs.length using Nat.strong_induction_on generalizing done cs with
  | _ n ih =>
    cases cs with
    | nil =>
      rw [readText]
      exact .unfinished
    | cons c rest =>
      rw [List.cons_append, readText_cons, readText_cons]
      split_ifs
      · exact .ok trivial
      · refine (readEscape_commits rest).bind fun r hr _ => ?_
        have hlt := length_of_readEscape hr
        exact ih _ (by simp only [List.length_cons] at hn; omega) _ _ rfl
      · exact .form
      · exact ih _ (by simp only [List.length_cons] at hn; omega) _ _ rfl

theorem skipEscape_commits (cs : List Char) :
    CommitsAnyhow q (· ++ q) (skipEscape cs) (skipEscape (cs ++ q)) := by
  cases cs with
  | nil => exact .unfinished
  | cons c rest =>
    simp only [skipEscape, List.cons_append]
    split_ifs
    · exact .ok trivial
    · exact (readHex_commits rest).map (fun _ _ _ => trivial) fun _ => rfl
    · exact .form

theorem skipText_cons (c : Char) (rest : List Char) : skipText (c :: rest) =
    if c = '"' then .ok rest
    else if c = '\\' then (skipEscape rest).bind skipText
    else if c < ' ' then .error (.form .controlCharacter)
    else skipText rest := by
  rw [skipText]
  split_ifs
  · rfl
  · split
    · rename_i he
      rw [he]
      rfl
    · rename_i he
      dsimp only
      rw [he]
      rfl
  · rfl
  · rfl

theorem skipText_commits (cs : List Char) :
    CommitsAnyhow q (· ++ q) (skipText cs) (skipText (cs ++ q)) := by
  induction hn : cs.length using Nat.strong_induction_on generalizing cs with
  | _ n ih =>
    cases cs with
    | nil =>
      rw [skipText]
      exact .unfinished
    | cons c rest =>
      rw [List.cons_append, skipText_cons, skipText_cons]
      split_ifs
      · exact .ok trivial
      · refine (skipEscape_commits rest).bind fun r hr _ => ?_
        have hlt := length_of_skipEscape hr
        exact ih _ (by simp only [List.length_cons] at hn; omega) _ rfl
      · exact .form
      · exact ih _ (by simp only [List.length_cons] at hn; omega) _ rfl

/-! ## Words and what stands in the place of something else -/

theorem readWord_commits (w cs : List Char) :
    CommitsAnyhow q (· ++ q) (readWord w cs) (readWord w (cs ++ q)) := by
  fun_induction readWord w cs with
  | case1 cs => exact .ok trivial
  | case2 => exact .unfinished
  | case3 w ws cs ih => 
    simp only [List.cons_append, readWord, if_true]
    exact ih
  | case4 w ws c cs hne =>
    simp only [List.cons_append, readWord, if_neg hne]
    exact .form

/-- The elements of a character are elements of the string. -/
theorem CharText.exists_units {part : List Char} {c : Char} (h : CharText part c) :
    ∃ units : List (List Char), (∀ unit ∈ units, ∃ n, CodeUnit unit n) ∧ part = units.flatten := by
  cases h with
  | one hunit => exact ⟨[_], by simpa using ⟨_, hunit⟩, by simp⟩
  | pair hf hs => exact ⟨[_, _], by simpa using ⟨⟨_, hf⟩, ⟨_, hs⟩⟩, by simp⟩

/-- A string that is read could also be skipped. -/
theorem StringText.raw {text : List Char} {s : String} (h : StringText text s) :
    RawString text := by
  have units : ∀ {parts : List (List Char)} {cs : List Char}, List.Forall₂ CharText parts cs →
      ∃ units : List (List Char), (∀ unit ∈ units, ∃ n, CodeUnit unit n) ∧
        parts.flatten = units.flatten := by
    intro parts cs h
    induction h with
    | nil => exact ⟨[], by simp, rfl⟩
    | cons hpart _ ih =>
      obtain ⟨first, hfirst, rfl⟩ := hpart.exists_units
      obtain ⟨others, hothers, heq⟩ := ih
      refine ⟨first ++ others, fun unit hu => ?_, by simp [heq]⟩
      exact (List.mem_append.1 hu).elim (hfirst unit) (hothers unit)
  obtain ⟨parts, hparts, rfl⟩ := h
  obtain ⟨us, hus, heq⟩ := units hparts
  exact ⟨us, hus, by rw [quoted, quoted, heq]⟩

/-- A string in a document. -/
theorem Left.readText (h : Left d ('"' :: cs)) :
    Commits q (fun r => Left d r.2) (followed q) (readText [] cs) (readText [] (cs ++ q)) := by
  refine (readText_commits [] cs).of_ok ?_
  rintro ⟨s, rest⟩ hr
  obtain ⟨text, heq, ht⟩ := readText_nil_eq_ok_iff.1 hr
  exact (heq ▸ h : Left d (text ++ rest)).lexeme (.string ht.raw)

theorem Left.skipText (h : Left d ('"' :: cs)) :
    Commits q (Left d) (· ++ q) (skipText cs) (skipText (cs ++ q)) := by
  refine (skipText_commits cs).of_ok ?_
  intro rest hr
  obtain ⟨text, heq, ht⟩ := skipText_eq_ok_iff.1 hr
  exact (heq ▸ h : Left d (text ++ rest)).lexeme (.string ht)

theorem Left.readWord {c : Char} {w : String} (hw : w ∈ ["null", "true", "false"])
    {letters : List Char} (hc : w.toList = c :: letters) (h : Left d (c :: cs)) :
    Commits q (Left d) (· ++ q) (readWord letters cs) (readWord letters (cs ++ q)) := by
  refine (readWord_commits letters cs).of_ok ?_
  intro rest hr
  rw [readWord_eq_ok_iff.1 hr, ← List.cons_append, ← hc] at h
  exact h.lexeme (.word hw)

theorem misplaced_commits {Good : β → Prop} {more : β → β} {expected : String} {found : α → Found}
    {x y : Except Failure (α × List Char)} (h : CommitsAnyhow q (followed q) x y) :
    Commits q Good more (.error (misplaced found expected x))
      (.error (misplaced found expected y)) := by
  cases h with
  | ok => exact .content .same
  | content places => exact .content places
  | form => exact .form
  | unfinished => exact .unfinished

theorem misplacedWord_commits {Good : β → Prop} {more : β → β} {expected : String} {found : Found}
    (w : List Char) :
    Commits q Good more
      (.error (misplaced (fun () => found) expected ((readWord w cs).map fun left => ((), left))))
      (.error (misplaced (fun () => found) expected
        ((readWord w (cs ++ q)).map fun left => ((), left)))) :=
  misplaced_commits ((readWord_commits w cs).map (fun _ _ _ => trivial) fun _ => rfl)

/-- Whatever stands in the place of something else, more text does not make it right. -/
theorem Ready.unexpected (hd : ¬ EndsInNumber d) {c : Char} (h : Ready d (c :: cs))
    {Good : α → Prop} {more : α → α} (expected : String) :
    Commits q Good more (.error (unexpected expected (c :: cs)))
      (.error (unexpected expected (c :: (cs ++ q)))) := by
  unfold Json.unexpected
  dsimp only
  split_ifs with hn ht hf hm hdigit hq
  · exact misplacedWord_commits ..
  · exact misplacedWord_commits ..
  · exact misplacedWord_commits ..
  · subst hm
    exact misplaced_commits (readNumber_commits (h.not_begins_negative hd) true)
  · exact misplaced_commits (readNumber_commits (h.not_begins_magnitude hd) false)
  · exact misplaced_commits (readText_commits [] cs)
  · exact .content .same
  · exact .content .same
  · exact .form

/-! ## Skipped values -/

/-- A scalar of a document that does not end in a number. -/
theorem Ready.skipScalar (hd : ¬ EndsInNumber d) {c : Char} (h : Ready d (c :: cs)) :
    Commits q (Left d) (· ++ q) (skipScalar c cs) (skipScalar c (cs ++ q)) := by
  unfold Json.skipScalar
  split_ifs with hn ht hf hm hdigit hq
  · exact h.left.readWord (w := "null") (by decide) (by rw [hn]; rfl)
  · exact h.left.readWord (w := "true") (by decide) (by rw [ht]; rfl)
  · exact h.left.readWord (w := "false") (by decide) (by rw [hf]; rfl)
  · subst hm
    refine (skipNumber_commits (h.not_begins_negative hd)).of_ok fun rest hr => ?_
    obtain ⟨text, rfl, hmag⟩ := skipNumber_eq_ok hr
    exact (h.left : Left d (('-' :: text) ++ rest)).lexeme (.number (.negative hmag))
  · refine (skipNumber_commits (h.not_begins_magnitude hd)).of_ok fun rest hr => ?_
    obtain ⟨text, heq, hmag⟩ := skipNumber_eq_ok hr
    exact (heq ▸ h.left : Left d (text ++ rest)).lexeme (.number (.positive hmag))
  · subst hq
    exact h.left.skipText
  · exact .form

theorem Left.readColon (h : Left d cs) :
    Commits q (Ready d) (· ++ q) (readColon cs) (readColon (cs ++ q)) := by
  unfold Json.readColon
  cases hb : Json.skipBlank cs with
  | nil => exact .unfinished
  | cons c rest =>
    rw [skipBlank_followed hb]
    dsimp only
    split_ifs with hc
    · subst hc
      exact .ok ((h.past_blanks hb).mark (by decide))
    · exact .form

theorem skipKey_cons {c : Char} (hb : skipBlank cs = c :: rest) : skipKey cs =
    if c = '"' then (skipText rest).bind readColon else .error (.form .keyMustBeString) := by
  unfold skipKey
  rw [hb]
  dsimp only
  split_ifs
  · cases skipText rest <;> rfl
  · rfl

theorem Left.skipKey (h : Left d cs) :
    Commits q (Ready d) (· ++ q) (skipKey cs) (skipKey (cs ++ q)) := by
  cases hb : Json.skipBlank cs with
  | nil =>
    unfold Json.skipKey
    rw [hb]
    exact .unfinished
  | cons c rest =>
    rw [skipKey_cons hb, skipKey_cons (skipBlank_followed hb q)]
    split_ifs with hc
    · subst hc
      exact (h.past_blanks hb).skipText.bind fun _ _ good => good.readColon
    · exact .form

theorem Ready.skipHead (h : Ready d cs) (b : Bracket) :
    Commits q (Ready d) (· ++ q) (b.skipHead cs) (b.skipHead (cs ++ q)) := by
  cases b with
  | list => exact .ok h
  | object => exact h.left.skipKey

/-- How much is left to skip, as `skipDue` counts it. -/
def skipMeasure (due : Due) (cs : List Char) : Nat := 2 * cs.length + if due = .first then 1 else 0

/-- Skipping commits wherever less than `n` is left to skip. -/
def SkipsBelow (d q : List Char) (n : Nat) : Prop :=
  ∀ due open_ cs, skipMeasure due cs < n → Left d cs → (due ≠ .next → Ready d cs) →
    Commits q (Left d) (· ++ q) (skipDue due open_ cs) (skipDue due open_ (cs ++ q))

section Below

variable {n : Nat} {open_ : List Bracket}

theorem SkipsBelow.next (below : SkipsBelow d q n) (hn : 2 * cs.length < n) (h : Left d cs) :
    Commits q (Left d) (· ++ q) (skipDue .next open_ cs) (skipDue .next open_ (cs ++ q)) :=
  below .next open_ cs hn h fun hne => absurd rfl hne

/-- A member or an element begins. -/
theorem SkipsBelow.part (below : SkipsBelow d q n) (hn : 2 * cs.length < n) (b : Bracket)
    (h : Ready d cs) :
    Commits q (Left d) (· ++ q) ((b.skipHead cs).bind (skipDue .value (b :: open_)))
      ((b.skipHead (cs ++ q)).bind (skipDue .value (b :: open_))) := by
  refine (h.skipHead b).bind fun rest hr h' => ?_
  have hle := Bracket.length_of_skipHead hr
  exact below .value (b :: open_) rest (by simp only [skipMeasure, reduceCtorEq, if_false]; omega)
    h'.left fun _ => h'

/-- A list or an object ends. -/
theorem SkipsBelow.closed (below : SkipsBelow d q (2 * cs.length)) {b : Bracket} (hl : Left d cs)
    (hb : Json.skipBlank cs = b.close :: rest) :
    Commits q (Left d) (· ++ q) (skipDue .next open_ rest) (skipDue .next open_ (rest ++ q)) := by
  have hlt := length_skipBlank_cons hb
  have hmark : Lexeme [b.close] := by cases b <;> exact .mark (by decide)
  have hleft : Left d ([b.close] ++ rest) := hl.past_blanks hb
  exact below.next (by omega) (hleft.lexeme hmark)

theorem SkipsBelow.value (below : SkipsBelow d q (2 * cs.length)) (hd : ¬ EndsInNumber d)
    (h : Ready d cs) :
    Commits q (Left d) (· ++ q) (skipDue .value open_ cs) (skipDue .value open_ (cs ++ q)) := by
  cases hb : Json.skipBlank cs with
  | nil =>
    obtain ⟨what, he⟩ : ∃ what, skipDue .value open_ cs = .error (.unfinished what) :=
      skipDue_nil (.inl rfl) hb
    rw [he]
    exact .unfinished
  | cons c rest =>
    have hready : Ready d (c :: rest) := h.past_blanks hb
    have hlt := length_skipBlank_cons hb
    have hless : skipMeasure .first rest < 2 * cs.length := by
      simp only [skipMeasure, if_true]
      omega
    rw [skipDue_value hb, skipDue_value (skipBlank_followed hb q)]
    split_ifs with hlist hobject
    · have hopen : Ready d rest := hready.left.mark (by simp [hlist])
      exact below .first _ rest hless hopen.left fun _ => hopen
    · have hopen : Ready d rest := hready.left.mark (by simp [hobject])
      exact below .first _ rest hless hopen.left fun _ => hopen
    · refine (hready.skipScalar hd).bind fun rest' hs h' => ?_
      have := length_of_skipScalar hs
      exact below.next (by omega) h'

theorem SkipsBelow.first (below : SkipsBelow d q (2 * cs.length + 1)) (b : Bracket)
    (h : Ready d cs) :
    Commits q (Left d) (· ++ q) (skipDue .first (b :: open_) cs)
      (skipDue .first (b :: open_) (cs ++ q)) := by
  cases hb : Json.skipBlank cs with
  | nil =>
    obtain ⟨what, he⟩ : ∃ what, skipDue .first (b :: open_) cs = .error (.unfinished what) :=
      skipDue_nil (.inr (List.cons_ne_nil b open_)) hb
    rw [he]
    exact .unfinished
  | cons c rest =>
    have hlt := length_skipBlank_cons hb
    rw [skipDue_first hb, skipDue_first (skipBlank_followed hb q)]
    split_ifs with hc
    · exact SkipsBelow.closed (fun due open_ cs hn => below due open_ cs (by omega)) h.left (hc ▸ hb)
    · refine below.part ?_ b (h.past_blanks hb)
      simp only [List.length_cons]
      omega

theorem SkipsBelow.further (below : SkipsBelow d q (2 * cs.length)) (b : Bracket) (h : Left d cs) :
    Commits q (Left d) (· ++ q) (skipDue .next (b :: open_) cs)
      (skipDue .next (b :: open_) (cs ++ q)) := by
  cases hb : Json.skipBlank cs with
  | nil =>
    obtain ⟨what, he⟩ : ∃ what, skipDue .next (b :: open_) cs = .error (.unfinished what) :=
      skipDue_nil (.inr (List.cons_ne_nil b open_)) hb
    rw [he]
    exact .unfinished
  | cons c rest =>
    have hlt := length_skipBlank_cons hb
    rw [skipDue_next hb, skipDue_next (skipBlank_followed hb q)]
    split_ifs with hcomma hc
    · exact below.part (by omega) b ((h.past_blanks hb).mark (by simp [hcomma]))
    · exact below.closed h (hc ▸ hb)
    · cases b <;> exact .form

end Below

/-- By induction on what is left, as skipping goes. -/
theorem skipDue_commits (hd : ¬ EndsInNumber d) (due : Due) (open_ : List Bracket)
    (hl : Left d cs) (hr : due ≠ .next → Ready d cs) :
    Commits q (Left d) (· ++ q) (skipDue due open_ cs) (skipDue due open_ (cs ++ q)) := by
  induction hn : skipMeasure due cs using Nat.strong_induction_on generalizing due open_ cs with
  | _ n ih =>
    have below : SkipsBelow d q n := fun due open_ cs hlt hl hr => ih _ hlt due open_ hl hr rfl
    subst hn
    cases due with
    | value => exact below.value hd (hr (by simp))
    | first =>
      cases open_ with
      | nil =>
        rw [skipDue, skipDue]
        exact .ok hl
      | cons b outer => exact below.first b (hr (by simp))
    | next =>
      cases open_ with
      | nil =>
        rw [skipDue, skipDue]
        exact .ok hl
      | cons b outer => exact below.further b hl

/-- A value that is skipped in a document that does not end in a number. -/
theorem Ready.skipValue (hd : ¬ EndsInNumber d) (h : Ready d cs) :
    Commits q (Left d) (· ++ q) (skipValue cs) (skipValue (cs ++ q)) :=
  skipDue_commits hd .value [] h.left fun _ => h

end AlgorithmDriver.Json
