import AlgorithmDriver.Json.Reader
import AlgorithmDriver.Proofs.Json.Skip

/-!
# What readers accept

A reader accepts the texts of a relation when it reads each of them as what it stands for, and reads
nothing else.  Each way of building readers accepts what is built in the same way from the texts of
its parts.

* `Reader.accepts_string`, `Reader.accepts_null`, `Reader.accepts_size` — scalars.
* `Reader.Accepts.list` — lists, when adding the elements one by one succeeds.
* `Reader.Accepts.load_iff` — whole documents.
-/

namespace AlgorithmDriver.Json

variable {α β : Type}

/-- The reader reads the texts of the relation, as what they stand for, and nothing else.  Blanks in
front of a text do not matter. -/
structure Reader.Accepts (r : Reader α) (Text : List Char → α → Prop) : Prop where
  skips : ∀ cs, r.read (skipBlank cs) = r.read cs
  reads : ∀ {text a}, Text text a → r.Reads text a
  spelled : ∀ {cs a rest}, r.read cs = .ok (a, rest) →
    ∃ text, skipBlank cs = text ++ rest ∧ Text text a

namespace Reader.Accepts

variable {r : Reader α} {Text : List Char → α → Prop}

theorem congr {Text' : List Char → α → Prop} (h : r.Accepts Text)
    (he : ∀ text a, Text text a ↔ Text' text a) : r.Accepts Text' where
  skips := h.skips
  reads ht := h.reads ((he _ _).2 ht)
  spelled hr := by
    obtain ⟨text, hcs, ht⟩ := h.spelled hr
    exact ⟨text, hcs, (he _ _).1 ht⟩

theorem map (h : r.Accepts Text) (f : α → β) :
    (r.map f).Accepts fun text b => ∃ a, Text text a ∧ f a = b where
  skips cs := by
    show readMapped f r (skipBlank cs) = readMapped f r cs
    rw [readMapped, readMapped, h.skips]
  reads := by
    rintro text _ ⟨a, ha, rfl⟩
    exact (h.reads ha).map
  spelled {cs b rest} hr := by
    obtain ⟨⟨a, rest'⟩, ha, he⟩ := Except.map_eq_ok_iff.1 (show readMapped f r cs = _ from hr)
    cases he
    obtain ⟨text, hcs, ht⟩ := h.spelled ha
    exact ⟨text, hcs, a, ht, rfl⟩

theorem checked (h : r.Accepts Text) (check : α → Except ModelError Unit) :
    (r.checked check).Accepts fun text a => Text text a ∧ check a = .ok () where
  skips cs := by
    show readChecked check r (skipBlank cs) = readChecked check r cs
    rw [readChecked, readChecked, h.skips]
  reads ht := (h.reads ht.1).checked ht.2
  spelled {cs a rest} hr := by
    change readChecked check r cs = .ok (a, rest) at hr
    unfold readChecked at hr
    split at hr
    · cases hr
    · rename_i a' rest' ha
      split at hr
      · cases hr
      · rename_i hc
        cases hr
        obtain ⟨text, hcs, ht⟩ := h.spelled ha
        exact ⟨text, hcs, ht, hc⟩

/-- A text that is accepted begins with something that is neither a blank nor the end of a list. -/
theorem opens (h : r.Accepts Text) {text : List Char} {a : α} (ht : Text text a) :
    ∃ c cs, text = c :: cs ∧ isBlank c = false ∧ c ≠ ']' :=
  (h.reads ht).opens

theorem skipBlank_eq (h : r.Accepts Text) {text : List Char} {a : α} (ht : Text text a) :
    skipBlank text = text ∧ text ≠ [] := by
  obtain ⟨c, cs, rfl, hc, -⟩ := h.opens ht
  exact ⟨skipBlank_cons hc, List.cons_ne_nil c cs⟩

section Padded

variable {p : Padded} {a : α} {cs rest : List Char} (h : r.Accepts Text) (ht : Text p.text a)
  (hcs : skipBlank cs = skipBlank (p.all ++ rest))

include h ht hcs

/-- Where an accepted text comes next, there is something other than the end of a list. -/
theorem exists_cons : ∃ c cs', skipBlank cs = c :: cs' ∧ c ≠ ']' := by
  obtain ⟨c, cs', he, -, hne⟩ := h.opens ht
  have hblank := h.skipBlank_eq ht
  rw [hcs, p.skipBlank_all_append hblank.1 hblank.2, he]
  exact ⟨c, _, rfl, hne⟩

/-- An accepted text is read with blanks on both sides; those behind are left. -/
theorem read_all (hr : Closed rest) : r.read cs = .ok (a, p.after ++ rest) := by
  have hblank := h.skipBlank_eq ht
  rw [← h.skips, hcs, p.skipBlank_all_append hblank.1 hblank.2]
  exact (h.reads ht).read _ (hr.append p.blanks_after)

end Padded

/-- A document is one text, with blanks on both sides. -/
theorem load_iff (h : r.Accepts Text) {document : String} {a : α} :
    r.load document = .ok a ↔ ∃ p : Padded, document.toList = p.all ∧ Text p.text a := by
  rw [Reader.load_iff_read]
  constructor
  · rintro ⟨rest, hr, hrest⟩
    obtain ⟨text, hcs, ht⟩ := h.spelled hr
    obtain ⟨p, rfl, hp⟩ := exists_padded hcs
    rw [hrest, List.append_nil] at hp
    exact ⟨p, hp, ht⟩
  · rintro ⟨p, hp, ht⟩
    have hread : r.read document.toList = .ok (a, p.after ++ []) :=
      h.read_all ht (by rw [hp, List.append_nil]) closed_nil
    exact ⟨_, hread, skipBlank_append p.blanks_after []⟩

end Reader.Accepts

/-! ## Scalars -/

theorem readString_quote {cs cs' : List Char} (h : skipBlank cs = '"' :: cs') (expected : String) :
    readString expected cs = readText [] cs' := by
  rw [readString, h]
  exact if_pos rfl

theorem readString_eq_ok {expected : String} {cs rest : List Char} {s : String}
    (h : readString expected cs = .ok (s, rest)) :
    ∃ cs', skipBlank cs = '"' :: cs' ∧ readText [] cs' = .ok (s, rest) := by
  unfold readString at h
  split at h
  · cases h
  · rename_i c cs' hc
    split_ifs at h with hq
    exact ⟨cs', hq ▸ hc, h⟩

theorem Reader.accepts_string : Reader.string.Accepts StringText where
  skips cs := by
    show readString _ (skipBlank cs) = readString _ cs
    rw [readString, readString, skipBlank_skipBlank]
  reads := by
    rintro text s ⟨parts, hparts, rfl⟩
    refine ⟨⟨'"', _, rfl, by decide, by decide⟩, fun rest _ => ?_⟩
    have hq : skipBlank (quoted parts ++ rest) = '"' :: (parts.flatten ++ ['"'] ++ rest) :=
      skipBlank_cons (by decide)
    refine (readString_quote hq "a string").trans ?_
    exact readText_nil_eq_ok_iff.2 ⟨quoted parts, rfl, parts, hparts, rfl⟩
  spelled {cs s rest} hr := by
    obtain ⟨cs', hq, ht⟩ := readString_eq_ok hr
    rw [hq]
    exact readText_nil_eq_ok_iff.1 ht

theorem Reader.accepts_null : Reader.null.Accepts fun text _ => text = writeNull where
  skips cs := by
    show readNull (skipBlank cs) = readNull cs
    rw [readNull, readNull, skipBlank_skipBlank]
  reads := by
    rintro _ _ rfl
    exact ⟨⟨'n', _, rfl, by decide, by decide⟩, fun rest _ => rfl⟩
  spelled {cs u rest} hr := by
    change readNull cs = .ok (u, rest) at hr
    unfold readNull at hr
    split at hr
    · cases hr
    · rename_i c cs' hc
      split_ifs at hr with hn
      obtain ⟨cs'', hw, he⟩ := Except.map_eq_ok_iff.1 hr
      cases he
      rw [hc, hn, readWord_eq_ok_iff.1 hw]
      exact ⟨writeNull, rfl, rfl⟩

theorem SizeText.opens {text : List Char} {n : UInt64} (h : SizeText text n) :
    ∃ c cs, text = c :: cs ∧ Decimal.isDigit c = true := by
  obtain ⟨c, cs, rfl⟩ := List.exists_cons_of_ne_nil h.1.1.1
  exact ⟨c, cs, rfl, h.1.1.2 c List.mem_cons_self⟩

theorem Reader.accepts_size : Reader.size.Accepts SizeText where
  skips cs := by
    show readSize (skipBlank cs) = readSize cs
    rw [readSize, readSize, readAnyNumber, readAnyNumber, skipBlank_skipBlank]
  reads := by
    intro text n ht
    obtain ⟨c, cs, rfl, hc⟩ := ht.opens
    have hblank := isBlank_of_isDigit hc
    have hminus : c ≠ '-' := by
      rintro rfl
      exact absurd hc (by decide)
    refine ⟨⟨c, cs, rfl, hblank, ?_⟩, fun rest hr => ?_⟩
    · rintro rfl
      exact absurd hc (by decide)
    · have hnumber := readNumber_append ht hr
      show readSize (c :: cs ++ rest) = _
      rw [List.cons_append] at hnumber ⊢
      simp only [readSize, readAnyNumber, skipBlank_cons hblank, if_neg hminus, if_pos hc, hnumber]
  spelled {cs n rest} hr := by
    change readSize cs = .ok (n, rest) at hr
    unfold readSize at hr
    split at hr
    · cases hr
    · rename_i n' rest' hn
      cases hr
      unfold readAnyNumber at hn
      split at hn
      · cases hn
      · rename_i c cs' hc
        rw [hc]
        split_ifs at hn
        · exact absurd (readNumber_eq_whole hn).1 (by decide)
        · exact (readNumber_eq_whole hn).2
    · cases hr
    · cases hr

/-- A value that may be missing is accepted when its texts do not look like the word for none. -/
theorem Reader.Accepts.optional {r : Reader α} {Text : List Char → α → Prop} (h : r.Accepts Text)
    (hn : ∀ cs a, ¬Text ('n' :: cs) a) : r.optional.Accepts (OptionText Text) where
  skips cs := by
    show readOptional r (skipBlank cs) = readOptional r cs
    rw [readOptional, readOptional, skipBlank_skipBlank]
  reads := by
    intro text a ht
    cases a with
    | none =>
      cases (show text = writeNull from ht)
      exact r.reads_none
    | some a => exact Reader.reads_some (h.reads ht) fun cs he => hn cs a (he ▸ ht)
  spelled {cs a rest} hr := by
    change readOptional r cs = .ok (a, rest) at hr
    unfold readOptional at hr
    split at hr
    · rename_i cs' hc
      obtain ⟨rest', hw, he⟩ := Except.map_eq_ok_iff.1 hr
      cases he
      exact ⟨writeNull, by rw [hc, readWord_eq_ok_iff.1 hw]; rfl, rfl⟩
    · obtain ⟨⟨b, rest'⟩, hb, he⟩ := Except.map_eq_ok_iff.1 hr
      cases he
      obtain ⟨text, hcs, ht⟩ := h.spelled hb
      exact ⟨text, by rwa [skipBlank_skipBlank] at hcs, ht⟩

/-! ## Parts between brackets -/

/-- What separates a part from the one before it, if there is one, is followed by `rest`. -/
def Separated (first : Bool) (cs rest : List Char) : Prop :=
  if first then rest = cs else skipBlank cs = ',' :: rest

/-- The parts that are left, up to what begins with the end of the brackets. -/
def PartsLeft (first : Bool) (parts : List (List Char)) (cs rest : List Char) : Prop :=
  if first then ∃ blanks, Blanks blanks ∧ cs = blanks ++ (writeCommas parts ++ rest)
  else skipBlank cs = parts.flatMap (',' :: ·) ++ rest

namespace PartsLeft

variable {first : Bool} {part : List Char} {parts : List (List Char)} {cs cs' rest : List Char}

theorem nil (h : skipBlank cs = rest) : PartsLeft first [] cs rest := by
  cases first with
  | true =>
    obtain ⟨blanks, hb, hcs⟩ := blanks_append_skipBlank cs
    exact ⟨blanks, hb, h ▸ hcs⟩
  | false => exact h

theorem cons (hs : Separated first cs (part ++ skipBlank cs')) (h : PartsLeft false parts cs' rest) :
    PartsLeft first (part :: parts) cs rest := by
  have hrest : skipBlank cs' = parts.flatMap (',' :: ·) ++ rest := h
  rw [hrest] at hs
  cases first with
  | true =>
    have hcs : part ++ (parts.flatMap (',' :: ·) ++ rest) = cs := hs
    exact ⟨[], by simp [Blanks], by rw [← hcs, writeCommas_cons, List.nil_append, List.append_assoc]⟩
  | false =>
    have hcs : skipBlank cs = ',' :: (part ++ (parts.flatMap (',' :: ·) ++ rest)) := hs
    show skipBlank cs = (part :: parts).flatMap (',' :: ·) ++ rest
    rw [hcs, List.flatMap_cons, List.cons_append, List.cons_append, List.append_assoc]

theorem eq_of_nil (h : PartsLeft first [] cs rest) (hr : skipBlank rest = rest) :
    skipBlank cs = rest := by
  cases first with
  | true =>
    obtain ⟨blanks, hb, rfl⟩ := h
    exact (skipBlank_append hb _).trans hr
  | false => exact h

theorem separated (h : PartsLeft first (part :: parts) cs rest) :
    ∃ cs', Separated first cs cs' ∧
      skipBlank cs' = skipBlank (part ++ (parts.flatMap (',' :: ·) ++ rest)) := by
  cases first with
  | true =>
    obtain ⟨blanks, hb, rfl⟩ := h
    refine ⟨_, rfl, ?_⟩
    rw [skipBlank_append hb, writeCommas_cons, List.append_assoc]
  | false =>
    have hcs : skipBlank cs = (part :: parts).flatMap (',' :: ·) ++ rest := h
    refine ⟨part ++ (parts.flatMap (',' :: ·) ++ rest), ?_, rfl⟩
    show skipBlank cs = _
    rw [hcs, List.flatMap_cons, List.cons_append, List.cons_append, List.append_assoc]

/-- What comes after a part begins with a comma or the end, and has one part less. -/
theorem after (b : Bracket) {blanks : List Char} (hb : Blanks blanks) (parts : List (List Char))
    (rest : List Char) : PartsLeft false parts (blanks ++ (parts.flatMap (',' :: ·) ++ b.close :: rest))
      (b.close :: rest) :=
  (skipBlank_append hb _).trans (b.skipBlank_commas parts rest)

end PartsLeft

/-! ## Lists -/

theorem nextElement_eq_none {first : Bool} {cs : List Char} (h : nextElement first cs = .ok none) :
    ∃ rest, skipBlank cs = ']' :: rest := by
  unfold nextElement at h
  split at h
  · cases h
  · rename_i c rest hc
    split_ifs at h with he hf hcomma
    · exact ⟨rest, by rw [hc, he]⟩
    · cases h
    · split at h
      · cases h
      · split_ifs at h
        cases h

theorem nextElement_end {first : Bool} {cs rest : List Char} (h : skipBlank cs = ']' :: rest) :
    nextElement first cs = .ok none := by
  simp only [nextElement, h, if_true]

theorem nextElement_eq_some {first : Bool} {cs cs' : List Char}
    (h : nextElement first cs = .ok (some cs')) :
    ∃ rest, Separated first cs rest ∧ skipBlank rest = cs' := by
  unfold nextElement at h
  split at h
  · cases h
  · rename_i c rest hc
    split_ifs at h with he hf hcomma
    · cases h
    · cases h
      exact ⟨cs, by rw [hf]; rfl, hc⟩
    · split at h
      · cases h
      · rename_i c' rest' hc'
        split_ifs at h with he'
        cases h
        refine ⟨rest, ?_, hc'⟩
        rw [Bool.not_eq_true] at hf
        rw [hf]
        exact hc.trans (by rw [hcomma])

theorem nextElement_separated {first : Bool} {cs rest cs' : List Char} {c : Char}
    (hs : Separated first cs rest) (hc : skipBlank rest = c :: cs') (hne : c ≠ ']') :
    nextElement first cs = .ok (some (c :: cs')) := by
  cases first with
  | true =>
    cases (show rest = cs from hs)
    simp only [nextElement, hc, if_neg hne, if_true]
  | false =>
    have hcs : skipBlank cs = ',' :: rest := hs
    rw [nextElement, hcs]
    simp only [Char.reduceEq, Bool.false_eq_true, if_false, if_true, hc, if_neg hne]

theorem endList_eq_ok_iff {cs rest : List Char} :
    endList cs = .ok rest ↔ skipBlank cs = ']' :: rest := by
  unfold endList
  split
  · rename_i h
    simp [h]
  · rename_i c cs' h
    rw [h]
    by_cases hc : c = ']'
    · subst hc
      simp
    · rw [if_neg hc]
      refine iff_of_false ?_ (fun he => hc (List.cons.inj he).1)
      intro he
      split_ifs at he
      split at he <;> cases he

section Elements

variable {item : Reader α} {Item : List Char → α → Prop} {add : β → α → Except ModelError β}
  (hi : item.Accepts Item)

include hi

theorem readElements_eq_ok {first : Bool} {value result : β} {cs rest rest' : List Char}
    (h : readElements item add first value cs = .ok (result, rest))
    (hend : skipBlank rest = ']' :: rest') :
    ∃ items as, List.Forall₂ (fun (p : Padded) a => Item p.text a) items as ∧
      as.foldlM add value = .ok result ∧
        PartsLeft first (items.map Padded.all) cs (']' :: rest') := by
  fun_induction readElements item add first value cs with
  | case2 first value cs hn =>
    cases h
    exact ⟨[], [], .nil, rfl, .nil hend⟩
  | case5 first value cs cs1 hn a cs2 hr value' ha hlt ih =>
    obtain ⟨items, as, hitems, hadd, hparts⟩ := ih h
    obtain ⟨cs0, hsep, hcs0⟩ := nextElement_eq_some hn
    obtain ⟨text, htext, ht⟩ := hi.spelled hr
    rw [← hcs0, skipBlank_skipBlank] at htext
    obtain ⟨p, rfl, hp⟩ := exists_padded htext
    refine ⟨p :: items, a :: as, .cons ht hitems, ?_, .cons (hp ▸ hsep) hparts⟩
    exact Except.foldlM_cons_eq_ok_iff.2 ⟨value', ha, hadd⟩
  | _ => cases h

theorem readElements_of_partsLeft {first : Bool} {value result : β} {items : List Padded}
    {as : List α} {cs rest : List Char}
    (hitems : List.Forall₂ (fun (p : Padded) a => Item p.text a) items as)
    (ha : as.foldlM add value = .ok result)
    (hp : PartsLeft first (items.map Padded.all) cs (']' :: rest)) :
    ∃ cs', readElements item add first value cs = .ok (result, cs') ∧
      skipBlank cs' = ']' :: rest := by
  induction hitems generalizing first value cs with
  | nil =>
    cases Except.foldlM_nil_eq_ok_iff.1 ha
    have hend := hp.eq_of_nil rfl
    exact ⟨cs, readElements_none (nextElement_end hend), hend⟩
  | @cons p a items as ht hitems ih =>
    obtain ⟨value', hv, hadd⟩ := Except.foldlM_cons_eq_ok_iff.1 ha
    obtain ⟨cs1, hsep, hcs1⟩ := hp.separated
    have hclosed : Closed ((items.map Padded.all).flatMap (',' :: ·) ++ ']' :: rest) :=
      closed_commas rest (by decide)
    have hread := hi.read_all ht hcs1 hclosed
    obtain ⟨c, cs2, hc, hne⟩ := hi.exists_cons ht hcs1
    rw [← hi.skips, hc] at hread
    obtain ⟨cs', hrest, hend⟩ := ih hadd (.after .list p.blanks_after _ rest)
    exact ⟨cs', (readElements_item (nextElement_separated hsep hc hne) hread hv).trans hrest, hend⟩

/-- A list is accepted when its elements are and adding them one by one succeeds. -/
theorem Reader.Accepts.list (expected : String) (start : β) :
    (Reader.list expected start add item).Accepts fun text b =>
      ∃ as, ListText Item text as ∧ as.foldlM add start = .ok b where
  skips cs := by
    show readList expected start add item (skipBlank cs) = readList expected start add item cs
    rw [readList, readList, skipBlank_skipBlank]
  reads := by
    rintro text b ⟨as, ⟨blanks, items, hb, hitems, rfl⟩, ha⟩
    refine ⟨⟨'[', _, rfl, by decide, by decide⟩, fun rest _ => ?_⟩
    have hp : PartsLeft true (items.map Padded.all)
        (blanks ++ (writeCommas (items.map Padded.all) ++ ']' :: rest)) (']' :: rest) :=
      ⟨blanks, hb, rfl⟩
    obtain ⟨cs, hread, hend⟩ := readElements_of_partsLeft hi hitems ha hp
    show readList expected start add item (bracketed '[' ']' blanks _ ++ rest) = _
    rw [bracketed_append, readList, skipBlank_cons (by decide)]
    simp only [if_true, hread, endList_eq_ok_iff.2 hend]
    rfl
  spelled {cs b rest} hr := by
    change readList expected start add item cs = .ok (b, rest) at hr
    unfold readList at hr
    split at hr
    · cases hr
    · rename_i c cs' hc
      split_ifs at hr with hopen
      subst hopen
      split at hr
      · cases hr
      · rename_i value cs'' he
        obtain ⟨rest', hend, hr'⟩ := Except.map_eq_ok_iff.1 hr
        cases hr'
        obtain ⟨items, as, hitems, ha, blanks, hb, rfl⟩ :=
          readElements_eq_ok hi he (endList_eq_ok_iff.1 hend)
        rw [hc]
        exact ⟨_, (bracketed_append _).symm, as, ⟨blanks, items, hb, hitems, rfl⟩, ha⟩

end Elements

end AlgorithmDriver.Json
