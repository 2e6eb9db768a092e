import AlgorithmDriver.Json.Skip
import AlgorithmDriver.Proofs.Json.Lexer

/-!
# What is skipped

Exactly the well-formed values are skipped, to any depth.  While values are skipped the open brackets
are on a stack; a value is skipped without looking at the stack, and leaves it as it was.

* `skipValue_eq_ok` — what is skipped is a well-formed value.
* `skipValue_of_wellFormed` — a well-formed value is skipped, whatever can follow it.
-/

namespace AlgorithmDriver.Json

/-! ## Parts of brackets -/

namespace Bracket

/-- The character that opens a bracket. -/
def opening : Bracket → Char
  | list => '['
  | object => '\x7b'

/-- What stands between the brackets, between two commas. -/
inductive Part : Bracket → List Char → Prop
  | item {item : Padded} : WellFormed item.text → Part list item.all
  | member {m : Member} : RawString m.key.text → WellFormed m.value.text → Part object m.all

/-- Skips a part up to its value. -/
def skipHead : Bracket → List Char → Except Failure (List Char)
  | list, cs => .ok cs
  | object, cs => skipKey cs

theorem close_mem (b : Bracket) : b.close ∈ [',', ']', '\x7d'] := by
  cases b <;> decide

end Bracket

/-- Well-formed parts between brackets are a well-formed value. -/
theorem Bracket.wellFormed {b : Bracket} {blanks : List Char} {parts : List (List Char)}
    (hb : Blanks blanks) (hp : ∀ part ∈ parts, b.Part part) :
    WellFormed (bracketed b.opening b.close blanks parts) := by
  cases b with
  | list =>
    have items : ∃ items : List Padded, parts = items.map Padded.all ∧
        ∀ item ∈ items, WellFormed item.text := by
      induction parts with
      | nil => exact ⟨[], rfl, by simp⟩
      | cons part parts ih =>
        obtain ⟨hpart, hp⟩ := List.forall_mem_cons.1 hp
        obtain ⟨items, rfl, hi⟩ := ih hp
        cases hpart with
        | @item item hitem => exact ⟨item :: items, rfl, List.forall_mem_cons.2 ⟨hitem, hi⟩⟩
    obtain ⟨items, rfl, hi⟩ := items
    exact .list hb hi
  | object =>
    have members : ∃ members : List Member, parts = members.map Member.all ∧
        (∀ m ∈ members, RawString m.key.text) ∧ ∀ m ∈ members, WellFormed m.value.text := by
      induction parts with
      | nil => exact ⟨[], rfl, by simp, by simp⟩
      | cons part parts ih =>
        obtain ⟨hpart, hp⟩ := List.forall_mem_cons.1 hp
        obtain ⟨members, rfl, hk, hv⟩ := ih hp
        cases hpart with
        | @member m hkey hvalue =>
          exact ⟨m :: members, rfl, List.forall_mem_cons.2 ⟨hkey, hk⟩,
            List.forall_mem_cons.2 ⟨hvalue, hv⟩⟩
    obtain ⟨members, rfl, hk, hv⟩ := members
    exact .object hb hk hv

/-- A well-formed value begins neither with a blank nor with the end of a bracket. -/
theorem WellFormed.opens {text : List Char} (h : WellFormed text) :
    ∃ c cs, text = c :: cs ∧ isBlank c = false ∧ c ≠ ']' ∧ c ≠ '\x7d' := by
  have magnitude : ∀ {text : List Char}, Magnitude text →
      ∃ c cs, text = c :: cs ∧ Decimal.isDigit c = true := by
    rintro _ ⟨whole, fraction, exponent, ⟨⟨hne, hd⟩, -⟩, -, -, rfl⟩
    obtain ⟨c, cs, rfl⟩ := List.exists_cons_of_ne_nil hne
    exact ⟨c, _, rfl, hd c List.mem_cons_self⟩
  cases h with
  | word hw =>
    simp only [List.mem_cons, List.not_mem_nil, or_false] at hw
    rcases hw with rfl | rfl | rfl
    · exact ⟨'n', _, rfl, by decide⟩
    · exact ⟨'t', _, rfl, by decide⟩
    · exact ⟨'f', _, rfl, by decide⟩
  | number hm =>
    obtain ⟨c, cs, rfl, hc⟩ := magnitude hm
    refine ⟨c, cs, rfl, isBlank_of_isDigit hc, ?_, ?_⟩
    · rintro rfl
      exact absurd hc (by decide)
    · rintro rfl
      exact absurd hc (by decide)
  | negative => exact ⟨'-', _, rfl, by decide⟩
  | string hs =>
    obtain ⟨parts, -, rfl⟩ := hs
    exact ⟨'"', _, rfl, by decide⟩
  | list => exact ⟨'[', _, rfl, by decide⟩
  | object => exact ⟨'\x7b', _, rfl, by decide⟩

/-! ## Keys and colons -/

theorem readColon_eq_ok_iff {cs rest : List Char} :
    readColon cs = .ok rest ↔ skipBlank cs = ':' :: rest := by
  unfold readColon
  split
  · rename_i h
    simp [h]
  · rename_i c cs' h
    rw [h]
    by_cases hc : c = ':'
    · subst hc
      simp
    · simp [hc]

/-- The end of a text and the blanks behind it. -/
theorem exists_padded {cs text rest : List Char} (h : skipBlank cs = text ++ rest) :
    ∃ p : Padded, p.text = text ∧ cs = p.all ++ skipBlank rest := by
  obtain ⟨before, hbefore, he⟩ := blanks_append_skipBlank cs
  obtain ⟨after, hafter, he'⟩ := blanks_append_skipBlank rest
  refine ⟨⟨before, text, after, hbefore, hafter⟩, rfl, ?_⟩
  rw [he, h]
  simp only [Padded.all, List.append_assoc]
  rw [← he']

theorem Padded.skipBlank_all_append {p : Padded} (h : skipBlank p.text = p.text)
    (hne : p.text ≠ []) (rest : List Char) :
    skipBlank (p.all ++ rest) = p.text ++ (p.after ++ rest) := by
  obtain ⟨c, cs, he⟩ := List.exists_cons_of_ne_nil hne
  have hc : isBlank c = false := skipBlank_head (h.trans he)
  rw [Padded.all, List.append_assoc, skipBlank_append p.blanks_before, List.append_assoc, he,
    List.cons_append, skipBlank_cons hc]

theorem skipKey_eq_ok {cs rest : List Char} (h : skipKey cs = .ok rest) :
    ∃ key : Padded, RawString key.text ∧ cs = key.all ++ ':' :: rest := by
  unfold skipKey at h
  split at h
  · cases h
  · rename_i c cs' hc
    split_ifs at h with hq
    subst hq
    split at h
    · cases h
    · rename_i cs'' hs
      obtain ⟨text, he, htext⟩ := skipText_eq_ok_iff.1 hs
      obtain ⟨key, rfl, hcs⟩ := exists_padded (hc.trans he)
      rw [readColon_eq_ok_iff.1 h] at hcs
      exact ⟨key, htext, hcs⟩

theorem skipKey_append {key : Padded} (h : RawString key.text) (rest : List Char) :
    skipKey (key.all ++ ':' :: rest) = .ok rest := by
  have hquote : ∃ cs, key.text = '"' :: cs := by
    obtain ⟨parts, -, he⟩ := h
    exact ⟨_, he⟩
  obtain ⟨cs, hcs⟩ := hquote
  have hopens : skipBlank key.text = key.text := by
    rw [hcs]
    exact skipBlank_cons (by decide)
  have hskip : skipText (cs ++ (key.after ++ ':' :: rest)) = .ok (key.after ++ ':' :: rest) :=
    skipText_eq_ok_iff.2 ⟨key.text, by rw [hcs, List.cons_append], h⟩
  have hcolon : readColon (key.after ++ ':' :: rest) = .ok rest :=
    readColon_eq_ok_iff.2 (by rw [skipBlank_append key.blanks_after]; rfl)
  unfold skipKey
  rw [key.skipBlank_all_append hopens (by rw [hcs]; exact List.cons_ne_nil _ _), hcs]
  simp only [List.cons_append, if_true, hskip, hcolon]

/-! ## Values without brackets -/

theorem readWord_eq_ok_iff {w cs rest : List Char} : readWord w cs = .ok rest ↔ cs = w ++ rest := by
  fun_induction readWord w cs with
  | case1 cs => simp
  | case2 => simp
  | case3 w ws cs ih => simp [ih]
  | case4 w ws c cs hne => simp [hne]

theorem skipScalar_eq_ok {c : Char} {cs rest : List Char} (h : skipScalar c cs = .ok rest) :
    ∃ text, c :: cs = text ++ rest ∧ WellFormed text := by
  have word : ∀ {w : String} {letters : List Char}, w ∈ ["null", "true", "false"] →
      w.toList = c :: letters → readWord letters cs = .ok rest →
      ∃ text, c :: cs = text ++ rest ∧ WellFormed text := by
    intro w letters hw hc hr
    refine ⟨w.toList, ?_, .word hw⟩
    rw [hc, readWord_eq_ok_iff.1 hr, List.cons_append]
  unfold skipScalar at h
  split_ifs at h with hn ht hf hm hd hq
  · exact word (w := "null") (by decide) (by rw [hn]; rfl) h
  · exact word (w := "true") (by decide) (by rw [ht]; rfl) h
  · exact word (w := "false") (by decide) (by rw [hf]; rfl) h
  · obtain ⟨text, rfl, hmag⟩ := skipNumber_eq_ok h
    exact ⟨'-' :: text, by rw [hm, List.cons_append], .negative hmag⟩
  · obtain ⟨text, he, hmag⟩ := skipNumber_eq_ok h
    exact ⟨text, he, .number hmag⟩
  · obtain ⟨text, he, htext⟩ := skipText_eq_ok_iff.1 h
    exact ⟨text, by rw [hq, he], .string htext⟩

/-! ## One step at a time -/

section Steps

variable {outer : List Bracket} {b : Bracket} {cs rest : List Char} {c : Char}

theorem skipDue_value (h : skipBlank cs = c :: rest) :
    skipDue .value outer cs =
      if c = '[' then skipDue .first (.list :: outer) rest
      else if c = '\x7b' then skipDue .first (.object :: outer) rest
      else (skipScalar c rest).bind (skipDue .next outer) := by
  rw [skipDue]
  split
  · rename_i he
    rw [h] at he
    cases he
  · rename_i c' rest' he
    rw [h] at he
    cases he
    split_ifs
    · rfl
    · rfl
    · split
      · rename_i hs
        rw [hs]
        rfl
      · rename_i hs
        dsimp only
        rw [hs]
        rfl

theorem skipDue_first (h : skipBlank cs = c :: rest) :
    skipDue .first (b :: outer) cs =
      if c = b.close then skipDue .next outer rest
      else (b.skipHead (c :: rest)).bind (skipDue .value (b :: outer)) := by
  rw [skipDue]
  split
  · rename_i he
    rw [h] at he
    cases he
  · rename_i c' rest' he
    rw [h] at he
    cases he
    split_ifs
    · rfl
    · cases b with
      | list => rfl
      | object =>
        dsimp only [Bracket.skipHead]
        split
        · rename_i hs
          rw [hs]
          rfl
        · rename_i hs
          rw [hs]
          rfl

theorem skipDue_next (h : skipBlank cs = c :: rest) :
    skipDue .next (b :: outer) cs =
      if c = ',' then (b.skipHead rest).bind (skipDue .value (b :: outer))
      else if c = b.close then skipDue .next outer rest
      else .error b.expectedCommaOrEnd := by
  rw [skipDue]
  split
  · rename_i he
    rw [h] at he
    cases he
  · rename_i c' rest' he
    rw [h] at he
    cases he
    split_ifs
    · cases b with
      | list => rfl
      | object =>
        dsimp only [Bracket.skipHead]
        split
        · rename_i hs
          rw [hs]
          rfl
        · rename_i hs
          rw [hs]
          rfl
    · rfl
    · rfl

/-- A document that ends where something is due ends too early. -/
theorem skipDue_nil {due : Due} (hd : due = .value ∨ outer ≠ []) (hs : skipBlank cs = []) :
    ∃ what, skipDue due outer cs = .error (.unfinished what) := by
  unfold skipDue
  split
  · split
    · exact ⟨_, rfl⟩
    · rename_i he
      rw [hs] at he
      cases he
  · exact absurd rfl (hd.resolve_left (by simp))
  · rename_i b _
    split
    · cases b <;> exact ⟨_, rfl⟩
    · rename_i he
      rw [hs] at he
      cases he
  · exact absurd rfl (hd.resolve_left (by simp))
  · rename_i b _
    split
    · cases b <;> exact ⟨_, rfl⟩
    · rename_i he
      rw [hs] at he
      cases he

/-- Where something is due, something is there. -/
theorem exists_cons_of_skipDue {due : Due} (hd : due = .value ∨ outer ≠ [])
    (h : skipDue due outer cs = .ok rest) : ∃ c cs', skipBlank cs = c :: cs' := by
  cases hs : skipBlank cs with
  | cons c cs' => exact ⟨c, cs', rfl⟩
  | nil =>
    obtain ⟨what, he⟩ := skipDue_nil hd hs
    rw [he] at h
    cases h

end Steps

/-! ## What is skipped is well-formed -/

/-- What comes before the value of a part, the value, and the blanks behind it are the part. -/
theorem Bracket.exists_part {b : Bracket} {cs cs' text rest : List Char}
    (hh : b.skipHead cs = .ok cs') (ht : skipBlank cs' = text ++ rest) (hw : WellFormed text) :
    ∃ part, b.Part part ∧ cs = part ++ skipBlank rest := by
  obtain ⟨value, rfl, hvalue⟩ := exists_padded ht
  cases b with
  | list =>
    cases hh
    exact ⟨value.all, .item hw, hvalue⟩
  | object =>
    obtain ⟨key, hkey, rfl⟩ := skipKey_eq_ok hh
    exact ⟨Member.all ⟨key, value⟩, .member (m := ⟨key, value⟩) hkey hw, by simp [Member.all, hvalue]⟩

/-- Of at most `size` characters, a value that is due takes its text. -/
def SkipsValues (size : Nat) : Prop :=
  ∀ outer cs rest, cs.length ≤ size → skipDue .value outer cs = .ok rest →
    ∃ text cs', skipBlank cs = text ++ cs' ∧ WellFormed text ∧ skipDue .next outer cs' = .ok rest

/-- Of at most `size` characters, a bracket takes its other parts and its end. -/
def SkipsRests (size : Nat) : Prop :=
  ∀ b outer cs rest, cs.length ≤ size → skipDue .next (b :: outer) cs = .ok rest →
    ∃ (parts : List (List Char)) (cs' : List Char),
      skipBlank cs = parts.flatMap (',' :: ·) ++ b.close :: cs' ∧
        (∀ part ∈ parts, b.Part part) ∧ skipDue .next outer cs' = .ok rest

theorem Bracket.length_of_skipHead {b : Bracket} {cs cs' : List Char}
    (h : b.skipHead cs = .ok cs') : cs'.length ≤ cs.length := by
  cases b with
  | list =>
    cases h
    exact Nat.le_refl _
  | object => exact Nat.le_of_lt (length_of_skipKey h)

theorem length_skipBlank_cons {cs rest : List Char} {c : Char} (h : skipBlank cs = c :: rest) :
    rest.length < cs.length := by
  have hle := length_skipBlank_le cs
  rw [h] at hle
  exact hle

section Sound

variable {size : Nat} {b : Bracket} {outer : List Bracket} {cs rest : List Char}
  (hv : SkipsValues size) (hr : SkipsRests size) (hs : cs.length ≤ size)

include hv hr hs

theorem skipDue_part (h : (b.skipHead cs).bind (skipDue .value (b :: outer)) = .ok rest) :
    ∃ part parts cs', (∀ p ∈ part :: parts, b.Part p) ∧
      cs = part ++ (parts.flatMap (',' :: ·) ++ b.close :: cs') ∧
        skipDue .next outer cs' = .ok rest := by
  obtain ⟨cs1, hhead, hvalue⟩ := Except.bind_eq_ok_iff.1 h
  have h1 := Bracket.length_of_skipHead hhead
  obtain ⟨text, cs2, htext, hwell, hnext⟩ := hv _ cs1 rest (by omega) hvalue
  have h2 : cs2.length ≤ cs1.length := by
    have hle := length_skipBlank_le cs1
    rw [htext, List.length_append] at hle
    omega
  obtain ⟨parts, cs3, hparts, hall, hrest⟩ := hr b outer cs2 rest (by omega) hnext
  obtain ⟨part, hpart, hcs⟩ := Bracket.exists_part hhead htext hwell
  exact ⟨part, parts, cs3, List.forall_mem_cons.2 ⟨hpart, hall⟩, by rw [hcs, hparts], hrest⟩

theorem skipDue_bracket (h : skipDue .first (b :: outer) cs = .ok rest) :
    ∃ text cs', b.opening :: cs = text ++ cs' ∧ WellFormed text ∧
      skipDue .next outer cs' = .ok rest := by
  obtain ⟨blanks, hblanks, hcs⟩ := blanks_append_skipBlank cs
  obtain ⟨c, cs1, hc⟩ := exists_cons_of_skipDue (.inr (List.cons_ne_nil b outer)) h
  have hlt := length_skipBlank_cons hc
  rw [skipDue_first hc] at h
  split_ifs at h with hclose
  · refine ⟨bracketed b.opening b.close blanks [], cs1, ?_, Bracket.wellFormed hblanks (by simp), h⟩
    rw [hcs, hc, hclose]
    simp [bracketed, writeCommas]
  · obtain ⟨part, parts, cs2, hall, he, hrest⟩ := skipDue_part hv hr (by simpa using by omega) h
    refine ⟨bracketed b.opening b.close blanks (part :: parts), cs2, ?_,
      Bracket.wellFormed hblanks hall, hrest⟩
    rw [hcs, hc, he]
    simp [bracketed, writeCommas_cons]

end Sound

/-- By induction on what is left, since a bracket inside a bracket leaves less. -/
theorem skips (size : Nat) : SkipsValues size ∧ SkipsRests size := by
  induction size with
  | zero =>
    refine ⟨fun outer cs rest hs h => ?_, fun b outer cs rest hs h => ?_⟩
    · obtain ⟨c, cs', hc⟩ := exists_cons_of_skipDue (.inl rfl) h
      have := length_skipBlank_cons hc
      omega
    · obtain ⟨c, cs', hc⟩ := exists_cons_of_skipDue (.inr (List.cons_ne_nil b outer)) h
      have := length_skipBlank_cons hc
      omega
  | succ size ih =>
    obtain ⟨hv, hr⟩ := ih
    refine ⟨fun outer cs rest hs h => ?_, fun b outer cs rest hs h => ?_⟩
    · obtain ⟨c, cs1, hc⟩ := exists_cons_of_skipDue (.inl rfl) h
      have hlt := length_skipBlank_cons hc
      rw [skipDue_value hc] at h
      rw [hc]
      split_ifs at h with hl ho
      · exact hl ▸ skipDue_bracket (b := .list) hv hr (by omega) h
      · exact ho ▸ skipDue_bracket (b := .object) hv hr (by omega) h
      · obtain ⟨cs2, hscalar, hnext⟩ := Except.bind_eq_ok_iff.1 h
        obtain ⟨text, he, hwell⟩ := skipScalar_eq_ok hscalar
        exact ⟨text, cs2, he, hwell, hnext⟩
    · obtain ⟨c, cs1, hc⟩ := exists_cons_of_skipDue (.inr (List.cons_ne_nil b outer)) h
      have hlt := length_skipBlank_cons hc
      rw [skipDue_next hc] at h
      rw [hc]
      split_ifs at h with hcomma hclose
      · obtain ⟨part, parts, cs2, hall, he, hrest⟩ := skipDue_part hv hr (by omega) h
        exact ⟨part :: parts, cs2, by simp [hcomma, he], hall, hrest⟩
      · exact ⟨[], cs1, by simp [hclose], by simp, h⟩

/-- What is skipped is a well-formed value, after any blanks. -/
theorem skipValue_eq_ok {cs rest : List Char} (h : skipValue cs = .ok rest) :
    ∃ text, skipBlank cs = text ++ rest ∧ WellFormed text := by
  obtain ⟨text, cs', he, hwell, hnext⟩ := (skips cs.length).1 [] cs rest (Nat.le_refl _) h
  cases (show Except.ok cs' = Except.ok rest from by rw [← hnext, skipDue])
  exact ⟨text, he, hwell⟩

/-! ## What is well-formed is skipped -/

theorem Closed.append {blanks rest : List Char} (hb : Blanks blanks) (hr : Closed rest) :
    Closed (blanks ++ rest) := by
  cases blanks with
  | nil => exact hr
  | cons c cs =>
    rintro _ _ ⟨⟩
    exact Or.inl (hb c List.mem_cons_self)

/-- The text is skipped as a value, whatever can follow it. -/
def Skipped (text : List Char) : Prop :=
  ∀ outer cs rest, skipBlank cs = text ++ rest → Closed rest →
    skipDue .value outer cs = skipDue .next outer rest

/-- The part is skipped inside the bracket up to the next comma or the end, with or without the
blanks in front. -/
structure Bracket.Skips (b : Bracket) (part : List Char) : Prop where
  opens : ∀ rest, ∃ c cs, skipBlank (part ++ rest) = c :: cs ∧ c ≠ b.close
  skip : ∀ outer cs rest, skipBlank cs = skipBlank (part ++ rest) → Closed rest →
    skipBlank rest = rest → rest ≠ [] →
    (b.skipHead cs).bind (skipDue .value (b :: outer)) = skipDue .next (b :: outer) rest

/-- The blanks before a comma or the end of a bracket do not matter. -/
theorem skipDue_next_append {b : Bracket} {outer : List Bracket} {blanks rest : List Char}
    (hb : Blanks blanks) (hr : skipBlank rest = rest) (hne : rest ≠ []) :
    skipDue .next (b :: outer) (blanks ++ rest) = skipDue .next (b :: outer) rest := by
  obtain ⟨c, cs, rfl⟩ := List.exists_cons_of_ne_nil hne
  rw [skipDue_next hr, skipDue_next ((skipBlank_append hb _).trans hr)]

theorem WellFormed.skipBlank_eq {text : List Char} (h : WellFormed text) :
    skipBlank text = text ∧ text ≠ [] := by
  obtain ⟨c, cs, rfl, hc, -, -⟩ := h.opens
  exact ⟨skipBlank_cons hc, List.cons_ne_nil c cs⟩

theorem Skipped.padded {b : Bracket} {outer : List Bracket} {p : Padded} {rest : List Char}
    (hs : Skipped p.text) (hw : WellFormed p.text) {cs : List Char}
    (hcs : skipBlank cs = skipBlank (p.all ++ rest)) (hr : Closed rest)
    (hblank : skipBlank rest = rest) (hne : rest ≠ []) :
    skipDue .value (b :: outer) cs = skipDue .next (b :: outer) rest := by
  rw [p.skipBlank_all_append hw.skipBlank_eq.1 hw.skipBlank_eq.2] at hcs
  rw [hs _ cs _ hcs (hr.append p.blanks_after), skipDue_next_append p.blanks_after hblank hne]

theorem Skipped.item {item : Padded} (hs : Skipped item.text) (hw : WellFormed item.text) :
    Bracket.list.Skips item.all where
  opens rest := by
    obtain ⟨c, cs, he, -, hc, -⟩ := hw.opens
    rw [item.skipBlank_all_append hw.skipBlank_eq.1 hw.skipBlank_eq.2, he]
    exact ⟨c, _, rfl, hc⟩
  skip outer cs rest hcs hr hblank hne := hs.padded hw hcs hr hblank hne

theorem Skipped.member {m : Member} (hk : RawString m.key.text) (hs : Skipped m.value.text)
    (hw : WellFormed m.value.text) : Bracket.object.Skips m.all where
  opens rest := by
    obtain ⟨c, cs, he, -, -, hc⟩ := (WellFormed.string hk).opens
    have hkey := (WellFormed.string hk).skipBlank_eq
    rw [Member.all, List.append_assoc, m.key.skipBlank_all_append hkey.1 hkey.2, he]
    exact ⟨c, _, rfl, hc⟩
  skip outer cs rest hcs hr hblank hne := by
    have hkey : skipKey cs = .ok (m.value.all ++ rest) := by
      have happend := skipKey_append hk (m.value.all ++ rest)
      rw [Member.all, List.append_assoc, List.cons_append] at hcs
      unfold skipKey at happend ⊢
      rw [hcs]
      exact happend
    show (skipKey cs).bind _ = _
    rw [hkey]
    exact hs.padded hw rfl hr hblank hne

theorem Bracket.isBlank_close (b : Bracket) : isBlank b.close = false := by
  cases b <;> decide

theorem Bracket.skipBlank_commas (b : Bracket) (parts : List (List Char)) (rest : List Char) :
    skipBlank (parts.flatMap (',' :: ·) ++ b.close :: rest) =
      parts.flatMap (',' :: ·) ++ b.close :: rest := by
  cases parts with
  | nil => exact skipBlank_cons b.isBlank_close
  | cons => exact skipBlank_cons (by decide)

/-- The parts after the first are skipped one after another, up to the end of the bracket. -/
theorem skipDue_commas {b : Bracket} {outer : List Bracket} {parts : List (List Char)}
    (hp : ∀ part ∈ parts, b.Skips part) (rest : List Char) :
    skipDue .next (b :: outer) (parts.flatMap (',' :: ·) ++ b.close :: rest) =
      skipDue .next outer rest := by
  induction parts with
  | nil =>
    rw [List.flatMap_nil, List.nil_append, skipDue_next (skipBlank_cons b.isBlank_close),
      if_neg (by cases b <;> decide), if_pos rfl]
  | cons part parts ih =>
    obtain ⟨hpart, hp⟩ := List.forall_mem_cons.1 hp
    rw [List.flatMap_cons, List.cons_append, List.cons_append, List.append_assoc,
      skipDue_next (skipBlank_cons (by decide)), if_pos rfl,
      hpart.skip outer _ _ rfl (closed_commas rest b.close_mem) (b.skipBlank_commas parts rest) (by simp)]
    exact ih hp

theorem skipDue_bracketed {b : Bracket} {outer : List Bracket} {blanks : List Char}
    {parts : List (List Char)} (hb : Blanks blanks) (hp : ∀ part ∈ parts, b.Skips part)
    (rest : List Char) :
    skipDue .first (b :: outer) (blanks ++ (writeCommas parts ++ b.close :: rest)) =
      skipDue .next outer rest := by
  cases parts with
  | nil =>
    have hclose := (skipBlank_append hb _).trans (b.skipBlank_commas [] rest)
    exact (skipDue_first hclose).trans (if_pos rfl)
  | cons part parts =>
    obtain ⟨hpart, hrest⟩ := List.forall_mem_cons.1 hp
    obtain ⟨c, cs, hc, hne⟩ := hpart.opens (parts.flatMap (',' :: ·) ++ b.close :: rest)
    have hskip := hpart.skip outer (c :: cs) _ (by rw [← hc, skipBlank_skipBlank])
      (closed_commas rest b.close_mem) (b.skipBlank_commas parts rest) (by simp)
    rw [writeCommas_cons, List.append_assoc, skipDue_first ((skipBlank_append hb _).trans hc),
      if_neg hne, hskip, skipDue_commas hrest]

theorem Skipped.of_scalar {text : List Char}
    (h : ∀ rest, Closed rest → ∃ c cs, text ++ rest = c :: cs ∧ c ≠ '[' ∧ c ≠ '\x7b' ∧
      skipScalar c cs = .ok rest) : Skipped text := by
  intro outer cs rest hcs hr
  obtain ⟨c, cs', he, hl, ho, hscalar⟩ := h rest hr
  rw [skipDue_value (hcs.trans he), if_neg hl, if_neg ho, hscalar]
  rfl

/-- A well-formed value is skipped.  By induction on the value. -/
theorem WellFormed.skipped {text : List Char} (h : WellFormed text) : Skipped text := by
  induction h with
  | word hw =>
    refine .of_scalar fun rest _ => ?_
    simp only [List.mem_cons, List.not_mem_nil, or_false] at hw
    rcases hw with rfl | rfl | rfl
    · exact ⟨'n', _, rfl, by decide, by decide, readWord_eq_ok_iff.2 rfl⟩
    · exact ⟨'t', _, rfl, by decide, by decide, readWord_eq_ok_iff.2 rfl⟩
    · exact ⟨'f', _, rfl, by decide, by decide, readWord_eq_ok_iff.2 rfl⟩
  | @number text hm =>
    refine .of_scalar fun rest hr => ?_
    have hskip := skipNumber_append hm hr
    obtain ⟨whole, fraction, exponent, ⟨⟨hne, hd⟩, -⟩, -, -, rfl⟩ := hm
    obtain ⟨c, cs, rfl⟩ := List.exists_cons_of_ne_nil hne
    have hc := hd c List.mem_cons_self
    have hother : ∀ d : Char, Decimal.isDigit d = false → c ≠ d := by
      rintro d hd rfl
      rw [hc] at hd
      cases hd
    refine ⟨c, _, rfl, hother _ (by decide), hother _ (by decide), ?_⟩
    rw [skipScalar, if_neg (hother _ (by decide)), if_neg (hother _ (by decide)),
      if_neg (hother _ (by decide)), if_neg (hother _ (by decide)), if_pos hc]
    exact hskip
  | negative hm =>
    exact .of_scalar fun rest hr =>
      ⟨'-', _, rfl, by decide, by decide, skipNumber_append hm hr⟩
  | string hs =>
    refine .of_scalar fun rest _ => ?_
    obtain ⟨parts, hparts, rfl⟩ := hs
    exact ⟨'"', _, rfl, by decide, by decide,
      skipText_eq_ok_iff.2 ⟨quoted parts, rfl, parts, hparts, rfl⟩⟩
  | @list blanks items hb hi ih =>
    intro outer cs rest hcs _
    have hparts : ∀ part ∈ items.map Padded.all, Bracket.list.Skips part := by
      intro part hm
      obtain ⟨item, hitem, rfl⟩ := List.mem_map.1 hm
      exact (ih item hitem).item (hi item hitem)
    rw [skipDue_value (hcs.trans (bracketed_append rest)), if_pos rfl]
    exact skipDue_bracketed hb hparts rest
  | @object blanks members hb hk hv ih =>
    intro outer cs rest hcs _
    have hparts : ∀ part ∈ members.map Member.all, Bracket.object.Skips part := by
      intro part hm
      obtain ⟨m, hmem, rfl⟩ := List.mem_map.1 hm
      exact (ih m hmem).member (hk m hmem) (hv m hmem)
    rw [skipDue_value (hcs.trans (bracketed_append rest)), if_neg (by decide), if_pos rfl]
    exact skipDue_bracketed hb hparts rest

/-- A well-formed value is skipped, whatever can follow it. -/
theorem skipValue_of_wellFormed {text cs rest : List Char} (h : WellFormed text)
    (hcs : skipBlank cs = text ++ rest) (hr : Closed rest) : skipValue cs = .ok rest := by
  rw [skipValue, h.skipped [] cs rest hcs hr, skipDue]

end AlgorithmDriver.Json
