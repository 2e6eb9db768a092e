import AlgorithmDriver.Json.Reader
import AlgorithmDriver.Json.Writer
import AlgorithmDriver.Proofs.Except
import AlgorithmDriver.Proofs.Number.Decimal

/-!
# Reading what was written

A reader reads a text as a value when it does so in front of everything that can follow the text in
a document: nothing, a comma or a closing bracket.  The lemmas here say how texts that the writers
make are read, for each way of building readers.

* `Reader.reads_string` — any string, whatever characters it has.
* `Reader.reads_size` — any integer of 64 bits.
* `Reader.reads_list` — a list, when adding its elements one by one succeeds.
* `Layout.reads` — a structure that is written as an object with its fields in order.
* `Reader.reads_plain`, `Reader.reads_choice` — an alternative in either of its forms.
* `Reader.Reads.load` — a whole document.
-/

namespace AlgorithmDriver.Json

variable {α β : Type}

/-! ## Texts and what follows them -/

/-- What can follow a value in a document: nothing, a blank, a comma or a closing bracket. -/
def Closed (rest : List Char) : Prop :=
  ∀ c cs, rest = c :: cs → isBlank c = true ∨ c ∈ [',', ']', '\x7d']

theorem closed_nil : Closed [] := by
  intro c cs h
  cases h

theorem closed_cons {c : Char} {cs : List Char} (h : c ∈ [',', ']', '\x7d']) :
    Closed (c :: cs) := by
  rintro _ _ ⟨⟩
  exact Or.inr h

/-- The reader reads the text as the value, whatever can follow it.  The text does not begin with a
blank or with the end of a list. -/
structure Reader.Reads (r : Reader α) (text : List Char) (a : α) : Prop where
  opens : ∃ c cs, text = c :: cs ∧ isBlank c = false ∧ c ≠ ']'
  read : ∀ rest, Closed rest → r.read (text ++ rest) = .ok (a, rest)

/-- The reader meets the problem in the text, whatever can follow it. -/
def Reader.Fails (r : Reader α) (text : List Char) (p : Problem) : Prop :=
  ∀ rest, Closed rest → ∃ e, r.read (text ++ rest) = .error e ∧ e.problem = p

theorem skipBlank_cons {c : Char} {cs : List Char} (h : isBlank c = false) :
    skipBlank (c :: cs) = c :: cs := by
  rw [skipBlank, List.dropWhile_cons_of_neg]
  simp [h]

namespace Reader

variable {r : Reader α} {text : List Char} {a : α}

theorem Reads.map {f : α → β} (h : r.Reads text a) : (r.map f).Reads text (f a) := by
  refine ⟨h.opens, ?_⟩
  intro rest hr
  show readMapped f r (text ++ rest) = _
  rw [readMapped, h.read rest hr]
  rfl

theorem Reads.checked {check : α → Except ModelError Unit} (h : r.Reads text a)
    (hc : check a = .ok ()) : (r.checked check).Reads text a := by
  refine ⟨h.opens, ?_⟩
  intro rest hr
  show readChecked check r (text ++ rest) = _
  simp only [readChecked, h.read rest hr, hc]

theorem Reads.checked_error {check : α → Except ModelError Unit} {e : ModelError}
    (h : r.Reads text a) (hc : check a = .error e) :
    (r.checked check).Fails text (.content (.refused e)) := by
  intro rest hr
  refine ⟨.content (.refused e) ⟨false, rest⟩, ?_, rfl⟩
  show readChecked check r (text ++ rest) = _
  simp only [readChecked, h.read rest hr, hc]

theorem Fails.map {f : α → β} {p : Problem} (h : r.Fails text p) : (r.map f).Fails text p := by
  intro rest hr
  obtain ⟨e, he, rfl⟩ := h rest hr
  refine ⟨e, ?_, rfl⟩
  show readMapped f r (text ++ rest) = _
  rw [readMapped, he]
  rfl

/-- A document is loaded when a value and nothing else is read from it. -/
theorem load_iff_read {document : String} :
    r.load document = .ok a ↔
      ∃ rest, r.read document.toList = .ok (a, rest) ∧ skipBlank rest = [] := by
  rw [Reader.load, Except.mapError_eq_ok_iff, Reader.readAll]
  constructor
  · intro h
    split at h
    · cases h
    · rename_i rest hr
      split at h
      · rename_i hb
        cases h
        exact ⟨rest, hr, hb⟩
      · cases h
  · rintro ⟨rest, hr, hb⟩
    simp only [hr, hb]

theorem load_of_error {document : String} {e : Failure}
    (h : r.read document.toList = .error e) : r.load document = .error e.problem := by
  rw [Reader.load, Reader.readAll, h]
  rfl

theorem Fails.load {p : Problem} (h : r.Fails text p) :
    r.load (String.ofList text) = .error p := by
  obtain ⟨e, he, rfl⟩ := h [] closed_nil
  refine load_of_error ?_
  rw [String.toList_ofList, ← he, List.append_nil]

theorem Reads.skipBlank (h : r.Reads text a) (rest : List Char) :
    skipBlank (text ++ rest) = text ++ rest := by
  obtain ⟨c, cs, rfl, hb, -⟩ := h.opens
  exact skipBlank_cons hb

/-- A document that holds just the text. -/
theorem Reads.load (h : r.Reads text a) : r.load (String.ofList text) = .ok a := by
  have hr := h.read [] closed_nil
  rw [List.append_nil] at hr
  exact load_iff_read.2 ⟨[], by rw [String.toList_ofList, hr], rfl⟩

end Reader

/-! ## Strings -/

theorem readText_escape {done cs cs' : List Char} {c : Char} (h : readEscape cs = .ok (c, cs')) :
    readText done ('\\' :: cs) = readText (c :: done) cs' := by
  rw [readText, if_neg (by decide), if_pos rfl]
  split
  · rename_i e he
    rw [h] at he
    cases he
  · rename_i c1 cs1 h1
    rw [h] at h1
    cases h1
    rfl

theorem readText_plain {done cs : List Char} {c : Char} (hq : c ≠ '"') (hb : c ≠ '\\')
    (hs : ¬c < ' ') : readText done (c :: cs) = readText (c :: done) cs := by
  rw [readText, if_neg hq, if_neg hb, if_neg hs]

/-- A control character is read back from its number. -/
theorem readEscape_hex {c : Char} (h : c < ' ') (cs : List Char) :
    readEscape ('u' :: '0' :: '0' :: Decimal.hexChar (c.toNat / 16) ::
      Decimal.hexChar (c.toNat % 16) :: cs) = .ok (c, cs) := by
  have hlt : c.toNat < 32 := h
  have h0 : Decimal.hexValue? '0' = some 0 := by decide
  have hnum : ((0 * 16 + 0) * 16 + c.toNat / 16) * 16 + c.toNat % 16 = c.toNat := by omega
  have hsimple : simpleEscape? 'u' = none := by decide
  have hhex : readHex ('0' :: '0' :: Decimal.hexChar (c.toNat / 16) ::
      Decimal.hexChar (c.toNat % 16) :: cs) = .ok (c.toNat, cs) := by
    simp only [readHex, h0, Decimal.hexValue?_hexChar (show c.toNat / 16 < 16 by omega),
      Decimal.hexValue?_hexChar (show c.toNat % 16 < 16 by omega), hnum]
  simp only [readEscape, hsimple, if_true, readUnicode, hhex]
  rw [if_neg (by omega), if_pos (by omega), Char.ofNat_toNat]

/-- However a character is written, it is read back. -/
theorem readText_escapeChar (done : List Char) (c : Char) (cs : List Char) :
    readText done (escapeChar c ++ cs) = readText (c :: done) cs := by
  unfold escapeChar
  split_ifs with h1 h2 h3 h4 h5 h6 h7 h8
  · subst h1
    exact readText_escape rfl
  · subst h2
    exact readText_escape rfl
  · subst h3
    exact readText_escape rfl
  · subst h4
    exact readText_escape rfl
  · subst h5
    exact readText_escape rfl
  · subst h6
    exact readText_escape rfl
  · subst h7
    exact readText_escape rfl
  · exact readText_escape (readEscape_hex h8 cs)
  · exact readText_plain h1 h2 h8

theorem readText_escapeAll (s done rest : List Char) :
    readText done (s.flatMap escapeChar ++ '"' :: rest) =
      .ok (String.ofList (done.reverse ++ s), rest) := by
  induction s generalizing done with
  | nil =>
    rw [List.flatMap_nil, List.nil_append, readText, if_pos rfl, List.append_nil]
  | cons c s ih =>
    rw [List.flatMap_cons, List.append_assoc, readText_escapeChar, ih]
    simp

/-- After the opening quote, a string is read back. -/
theorem readText_writeString (s : String) (rest : List Char) :
    ∃ cs, writeString s ++ rest = '"' :: cs ∧ readText [] cs = .ok (s, rest) := by
  refine ⟨s.toList.flatMap escapeChar ++ '"' :: rest, by simp [writeString], ?_⟩
  rw [readText_escapeAll, List.reverse_nil, List.nil_append, String.ofList_toList]

theorem writeString_opens (s : String) :
    ∃ c cs, writeString s = c :: cs ∧ isBlank c = false ∧ c ≠ ']' :=
  ⟨'"', _, rfl, by decide, by decide⟩

theorem Reader.reads_string (s : String) : Reader.string.Reads (writeString s) s := by
  refine ⟨writeString_opens s, ?_⟩
  intro rest _
  obtain ⟨cs, he, hr⟩ := readText_writeString s rest
  show readString "a string" (writeString s ++ rest) = _
  rw [he, readString, skipBlank_cons (by decide)]
  exact hr

/-! ## Numbers -/

/-- More digits make a number greater. -/
theorem le_foldl_digits (ds : List Char) (n : Nat) :
    n ≤ ds.foldl (fun n c => n * 10 + Decimal.digitValue c) n := by
  induction ds generalizing n with
  | nil => exact Nat.le_refl n
  | cons d ds ih =>
    rw [List.foldl_cons]
    have hstep : n ≤ n * 10 + Decimal.digitValue d := by omega
    exact Nat.le_trans hstep (ih _)

/-- As long as the number that they stand for has room, all digits are used. -/
theorem extend_eq {ds : List Char} {significand used : Nat}
    (h : ds.foldl (fun n c => n * 10 + Decimal.digitValue c) significand < twoTo 64) :
    extend significand used ds =
      (ds.foldl (fun n c => n * 10 + Decimal.digitValue c) significand, used + ds.length, 0) := by
  induction ds generalizing significand used with
  | nil => rfl
  | cons d ds ih =>
    rw [List.foldl_cons] at h ⊢
    have hroom := Nat.lt_of_le_of_lt (le_foldl_digits ds _) h
    rw [extend, if_pos hroom, ih h, List.length_cons]
    simp only [Prod.mk.injEq, true_and, and_true]
    omega

theorem spanDigits_append {ds rest : List Char} (hd : ∀ c ∈ ds, Decimal.isDigit c = true)
    (hr : ∀ c cs, rest = c :: cs → Decimal.isDigit c = false) :
    spanDigits (ds ++ rest) = (ds, rest) := by
  rw [spanDigits, List.takeWhile_append_of_pos hd, List.dropWhile_append_of_pos hd]
  cases rest with
  | nil => simp
  | cons c cs => simp [hr c cs rfl]

theorem isBlank_of_isDigit {c : Char} (h : Decimal.isDigit c = true) : isBlank c = false := by
  refine Bool.eq_false_iff.2 ?_
  intro hb
  simp only [isBlank, Bool.or_eq_true, beq_iff_eq] at hb
  rcases hb with ((rfl | rfl) | rfl) | rfl <;> exact absurd h (by decide)

theorem Closed.not_digit {rest : List Char} (h : Closed rest) :
    ∀ c cs, rest = c :: cs → Decimal.isDigit c = false := by
  intro c cs he
  refine Bool.eq_false_iff.2 ?_
  intro hd
  rcases h c cs he with hb | hc
  · exact absurd (isBlank_of_isDigit hd) (by rw [hb]; decide)
  · simp only [List.mem_cons, List.not_mem_nil, or_false] at hc
    rcases hc with rfl | rfl | rfl <;> exact absurd hd (by decide)

/-- Nothing that can follow a number makes it another number. -/
theorem Closed.readNumberEnd {rest : List Char} (h : Closed rest) (n : Nat) :
    readNumberEnd false n 0 rest = .ok (.whole (UInt64.ofNat n), rest) := by
  unfold Json.readNumberEnd
  split
  · exact absurd (h _ _ rfl) (by decide)
  · exact absurd (h _ _ rfl) (by decide)
  · exact absurd (h _ _ rfl) (by decide)
  · rfl

theorem Closed.readNumber_digits {rest : List Char} (h : Closed rest) {n : Nat}
    (hn : n < twoTo 64) :
    readNumber false (Decimal.digits n ++ rest) = .ok (.whole (UInt64.ofNat n), rest) := by
  rcases Nat.eq_zero_or_pos n with rfl | hpos
  · rw [Decimal.digits_of_lt (by decide)]
    cases rest with
    | nil => exact closed_nil.readNumberEnd 0
    | cons c cs =>
      have hc := h.not_digit c cs rfl
      show (if Decimal.isDigit c then _ else Json.readNumberEnd false 0 0 (c :: cs)) = _
      rw [hc]
      exact h.readNumberEnd 0
  · obtain ⟨c, cs, hd, h0⟩ := Decimal.digits_head hpos
    have hdigits := Decimal.isDigit_of_mem_digits n
    have hspan := spanDigits_append hdigits h.not_digit
    have hextend : extend 0 0 (Decimal.digits n) = (n, 0 + (Decimal.digits n).length, 0) := by
      rw [extend_eq, ← Decimal.value, Decimal.value_digits]
      rw [← Decimal.value, Decimal.value_digits]
      exact hn
    rw [hd] at hspan hextend hdigits ⊢
    rw [List.cons_append] at hspan ⊢
    simp only [readNumber, if_neg h0, if_pos (hdigits c List.mem_cons_self), hspan, hextend]
    exact h.readNumberEnd n

theorem Reader.reads_size (n : UInt64) : Reader.size.Reads (Decimal.digits n.toNat) n := by
  obtain ⟨c, cs, hd⟩ := List.exists_cons_of_ne_nil (Decimal.digits_ne_nil n.toNat)
  have hc : Decimal.isDigit c = true :=
    Decimal.isDigit_of_mem_digits n.toNat c (by rw [hd]; exact List.mem_cons_self)
  have hblank := isBlank_of_isDigit hc
  have hminus : c ≠ '-' := by
    rintro rfl
    exact absurd hc (by decide)
  refine ⟨⟨c, cs, hd, hblank, ?_⟩, fun rest hr => ?_⟩
  · rintro rfl
    exact absurd hc (by decide)
  · have hnumber := hr.readNumber_digits (n := n.toNat) n.toNat_lt
    show readSize (Decimal.digits n.toNat ++ rest) = _
    rw [hd, List.cons_append] at hnumber ⊢
    simp only [readSize, readAnyNumber, skipBlank_cons hblank, if_neg hminus, if_pos hc, hnumber,
      UInt64.ofNat_toNat]

/-! ## Values that may be missing -/

theorem Reader.reads_none (r : Reader α) : r.optional.Reads writeNull none :=
  ⟨⟨'n', _, rfl, by decide, by decide⟩, fun _ _ => rfl⟩

theorem Reader.reads_some {r : Reader α} {text : List Char} {a : α} (h : r.Reads text a)
    (hn : ∀ cs, text ≠ 'n' :: cs) : r.optional.Reads text (some a) := by
  refine ⟨h.opens, ?_⟩
  intro rest hr
  have hread := h.read rest hr
  show readOptional r (text ++ rest) = _
  rw [readOptional, h.skipBlank]
  split
  · rename_i cs he
    obtain ⟨c, cs', rfl, -, -⟩ := h.opens
    rw [List.cons_append, List.cons.injEq] at he
    exact absurd (congrArg (· :: cs') he.1) (hn cs')
  · rw [hread]
    rfl

/-! ## Lists -/

theorem writeCommas_cons (part : List Char) (parts : List (List Char)) :
    writeCommas (part :: parts) = part ++ parts.flatMap (',' :: ·) := by
  induction parts generalizing part with
  | nil => simp [writeCommas]
  | cons next parts ih =>
    show part ++ ',' :: writeCommas (next :: parts) = _
    rw [ih, List.flatMap_cons]
    rfl

/-- What follows an element or a member: further ones, each after a comma, and a closing bracket. -/
theorem closed_commas {parts : List (List Char)} {close : Char} (rest : List Char)
    (hc : close ∈ [',', ']', '\x7d']) : Closed (parts.flatMap (',' :: ·) ++ close :: rest) := by
  cases parts with
  | nil => exact closed_cons hc
  | cons part parts => exact closed_cons (by decide)

section Elements

variable {item : Reader α} {add : β → α → Except ModelError β} {write : α → List Char}

theorem readElements_item {first : Bool} {value value' : β} {a : α} {cs cs' rest : List Char}
    (hn : nextElement first cs = .ok (some cs')) (hr : item.read cs' = .ok (a, rest))
    (ha : add value a = .ok value') :
    readElements item add first value cs = readElements item add false value' rest := by
  rw [readElements]
  split
  · rename_i e he
    rw [hn] at he
    cases he
  · rename_i he
    rw [hn] at he
    cases he
  · rename_i cs1 he
    rw [hn] at he
    cases he
    split
    · rename_i e he
      rw [hr] at he
      cases he
    · rename_i a1 rest1 he
      rw [hr] at he
      cases he
      simp only [ha]

theorem readElements_none {first : Bool} {value : β} {cs : List Char}
    (hn : nextElement first cs = .ok none) :
    readElements item add first value cs = .ok (value, cs) := by
  rw [readElements]
  split
  · rename_i e he
    rw [hn] at he
    cases he
  · rfl
  · rename_i cs' he
    rw [hn] at he
    cases he

theorem readElements_end {first : Bool} {value : β} {rest : List Char} :
    readElements item add first value (']' :: rest) = .ok (value, ']' :: rest) := by
  refine readElements_none ?_
  cases first <;> rfl

theorem Reader.Reads.nextElement_first {text rest : List Char} {a : α} (h : item.Reads text a) :
    nextElement true (text ++ rest) = .ok (some (text ++ rest)) := by
  rw [nextElement, h.skipBlank]
  obtain ⟨c, cs, rfl, -, hc⟩ := h.opens
  simp [hc]

theorem Reader.Reads.nextElement_comma {text rest : List Char} {a : α} (h : item.Reads text a) :
    nextElement false (',' :: (text ++ rest)) = .ok (some (text ++ rest)) := by
  rw [nextElement, skipBlank_cons (by decide)]
  simp only [h.skipBlank]
  obtain ⟨c, cs, rfl, -, hc⟩ := h.opens
  simp [hc]

/-- The elements after the first are added one by one, up to the end of the list. -/
theorem readElements_commas {as : List α} {value result : β} (rest : List Char)
    (hr : ∀ a ∈ as, item.Reads (write a) a) (ha : as.foldlM add value = .ok result) :
    readElements item add false value ((as.map write).flatMap (',' :: ·) ++ ']' :: rest) =
      .ok (result, ']' :: rest) := by
  induction as generalizing value with
  | nil =>
    obtain rfl := Except.foldlM_nil_eq_ok_iff.1 ha
    exact readElements_end
  | cons a as ih =>
    obtain ⟨value', hv, hrest⟩ := Except.foldlM_cons_eq_ok_iff.1 ha
    have hitem := hr a List.mem_cons_self
    rw [List.map_cons, List.flatMap_cons, List.append_assoc, List.cons_append,
      readElements_item hitem.nextElement_comma
        (hitem.read _ (closed_commas rest (by decide))) hv]
    exact ih (fun b hb => hr b (List.mem_cons_of_mem a hb)) hrest

/-- A list is read when adding its elements one by one succeeds. -/
theorem Reader.reads_list {expected : String} {start result : β} {as : List α}
    (hr : ∀ a ∈ as, item.Reads (write a) a) (ha : as.foldlM add start = .ok result) :
    (Reader.list expected start add item).Reads (writeList (as.map write)) result := by
  refine ⟨⟨'[', _, rfl, by decide, by decide⟩, ?_⟩
  intro rest _
  have elements : readElements item add true start (writeCommas (as.map write) ++ ']' :: rest) =
      .ok (result, ']' :: rest) := by
    cases as with
    | nil =>
      obtain rfl := Except.foldlM_nil_eq_ok_iff.1 ha
      exact readElements_end
    | cons a as =>
      obtain ⟨value, hv, hrest⟩ := Except.foldlM_cons_eq_ok_iff.1 ha
      have hitem := hr a List.mem_cons_self
      rw [List.map_cons, writeCommas_cons, List.append_assoc,
        readElements_item hitem.nextElement_first
          (hitem.read _ (closed_commas rest (by decide))) hv]
      exact readElements_commas rest (fun b hb => hr b (List.mem_cons_of_mem a hb)) hrest
  show readList expected start add item (writeList (as.map write) ++ rest) = _
  rw [writeList, List.cons_append, List.append_assoc, List.singleton_append, readList,
    skipBlank_cons (by decide)]
  simp only [if_true, elements]
  rfl

end Elements

/-! ## Structures -/

/-- A field with a text that it is read from, and what reading the text does. -/
structure Written (α : Type) where
  field : Field α
  text : List Char
  set : α → α
  reads : field.reader.Reads text set

/-- A field that is set to what another reader reads. -/
def Written.mapped {name : String} {required : Bool} {r : Reader β} {text : List Char} {b : β}
    {f : β → α → α} (h : r.Reads text b) : Written α where
  field := ⟨name, required, r.map f⟩
  text := text
  set := f b
  reads := h.map

/-- A field as a member of an object. -/
def Written.member (w : Written α) : List Char := writeString w.field.name ++ ':' :: w.text

namespace Layout

variable {layout : Layout α}

/-- When no two fields have the same name, each is found by its name. -/
theorem find?_field {fields : List (Field α)} (hd : (fields.map Field.name).Nodup) {field : Field α}
    (hf : field ∈ fields) : fields.find? (·.name == field.name) = some field := by
  induction fields with
  | nil => cases hf
  | cons f fields ih =>
    rw [List.map_cons, List.nodup_cons] at hd
    rcases List.mem_cons.1 hf with rfl | hf
    · rw [List.find?_cons_of_pos (by simp)]
    · have hne : f.name ≠ field.name := fun he => hd.1 (he ▸ List.mem_map.2 ⟨field, hf, rfl⟩)
      rw [List.find?_cons_of_neg (by simpa using hne)]
      exact ih hd.2 hf

/-- A member that is a field not seen before is read by the reader of the field. -/
theorem readMembers_field {field : Field α} {first : Bool} {seen : List String} {value : α}
    {cs cs' cs'' : List Char} (hn : nextMember first cs = .ok (some (field.name, cs')))
    (hf : layout.fields.find? (·.name == field.name) = some field) (hs : field.name ∉ seen)
    (hc : readColon cs' = .ok cs'') :
    layout.readMembers first seen value cs =
      match field.reader.read cs'' with
      | .error e => .error e
      | .ok (set, rest) => layout.readMembers false (field.name :: seen) (set value) rest := by
  rw [readMembers]
  split
  · rename_i e he
    rw [hn] at he
    cases he
  · rename_i he
    rw [hn] at he
    cases he
  · rename_i key cs1 he
    rw [hn] at he
    cases he
    simp only [hf, List.contains_eq_mem, hs, decide_false, Bool.false_eq_true, if_false]
    split
    · rename_i e he
      rw [hc] at he
      cases he
    · rename_i cs2 he
      rw [hc] at he
      cases he
      split
      · rename_i e he
        rw [he]
      · rename_i set1 rest1 he
        rw [he]

theorem readMembers_none {first : Bool} {seen : List String} {value : α} {cs : List Char}
    (hn : nextMember first cs = .ok none) (hm : layout.missing? seen = none) :
    layout.readMembers first seen value cs = .ok (value, cs) := by
  rw [readMembers]
  split
  · rename_i e he
    rw [hn] at he
    cases he
  · simp only [hm]
  · rename_i key cs' he
    rw [hn] at he
    cases he

theorem readMembers_end {first : Bool} {seen : List String} {value : α} {rest : List Char}
    (hm : layout.missing? seen = none) :
    layout.readMembers first seen value ('\x7d' :: rest) = .ok (value, '\x7d' :: rest) := by
  refine readMembers_none ?_ hm
  cases first <;> rfl

theorem nextMember_first (name : String) (text rest : List Char) :
    nextMember true (writeString name ++ ':' :: text ++ rest) =
      .ok (some (name, ':' :: (text ++ rest))) := by
  obtain ⟨cs, he, hr⟩ := readText_writeString name (':' :: (text ++ rest))
  rw [List.append_assoc, List.cons_append, he, nextMember, skipBlank_cons (by decide)]
  simp only [hr, if_true]
  rfl

theorem nextMember_comma (name : String) (text rest : List Char) :
    nextMember false (',' :: (writeString name ++ ':' :: text ++ rest)) =
      .ok (some (name, ':' :: (text ++ rest))) := by
  obtain ⟨cs, he, hr⟩ := readText_writeString name (':' :: (text ++ rest))
  rw [List.append_assoc, List.cons_append, he, nextMember, skipBlank_cons (by decide)]
  simp only [skipBlank_cons (show isBlank '"' = false by decide), hr]
  rfl

theorem readColon_cons (cs : List Char) : readColon (':' :: cs) = .ok cs := rfl

/-- What the members after the first do, up to the end of the object.  Together with the fields seen
before they are all the fields of the structure. -/
theorem readMembers_commas {written : List (Written α)} {seen : List String} {value : α}
    (rest : List Char)
    (hf : ∀ w ∈ written, layout.fields.find? (·.name == w.field.name) = some w.field)
    (hd : (written.map fun w => w.field.name).Nodup) (hs : ∀ w ∈ written, w.field.name ∉ seen)
    (hall : ∀ f ∈ layout.fields, f.name ∈ seen ∨ ∃ w ∈ written, w.field = f) :
    layout.readMembers false seen value
        ((written.map Written.member).flatMap (',' :: ·) ++ '\x7d' :: rest) =
      .ok (written.foldl (fun v w => w.set v) value, '\x7d' :: rest) := by
  induction written generalizing seen value with
  | nil =>
    refine readMembers_end ?_
    rw [missing?, Option.map_eq_none_iff, List.find?_eq_none]
    intro f hm
    simpa using fun _ => hall f hm
  | cons w written ih =>
    rw [List.map_cons, List.nodup_cons] at hd
    rw [List.map_cons, List.flatMap_cons, List.append_assoc, List.cons_append,
      Written.member, readMembers_field (nextMember_comma w.field.name w.text _)
        (hf w List.mem_cons_self) (hs w List.mem_cons_self) (readColon_cons _),
      w.reads.read _ (closed_commas rest (by decide))]
    refine ih (fun u hu => hf u (List.mem_cons_of_mem w hu)) hd.2 ?_ ?_
    · intro u hu hseen
      rcases List.mem_cons.1 hseen with he | hseen
      · exact hd.1 (List.mem_map.2 ⟨u, hu, he⟩)
      · exact hs u (List.mem_cons_of_mem w hu) hseen
    · intro f hm
      rcases hall f hm with hseen | ⟨u, hu, rfl⟩
      · exact Or.inl (List.mem_cons_of_mem _ hseen)
      · rcases List.mem_cons.1 hu with rfl | hu
        · exact Or.inl List.mem_cons_self
        · exact Or.inr ⟨u, hu, rfl⟩

/-- A structure that is written as an object with all its fields in order. -/
theorem reads (layout : Layout α) (written : List (Written α))
    (hf : layout.fields = written.map Written.field)
    (hd : (layout.fields.map Field.name).Nodup) :
    layout.reader.Reads (writeObject (written.map fun w => (w.field.name, w.text)))
      (written.foldl (fun v w => w.set v) layout.blank) := by
  refine ⟨⟨'\x7b', _, rfl, by decide, by decide⟩, ?_⟩
  intro rest _
  have hfind : ∀ w ∈ written, layout.fields.find? (·.name == w.field.name) = some w.field :=
    fun w hw => find?_field hd (by rw [hf]; exact List.mem_map.2 ⟨w, hw, rfl⟩)
  have hall : ∀ f ∈ layout.fields, ∃ w ∈ written, w.field = f := by
    intro f hm
    rw [hf] at hm
    exact List.mem_map.1 hm
  rw [hf, List.map_map] at hd
  have members : layout.readMembers true [] layout.blank
      (writeCommas (written.map Written.member) ++ '\x7d' :: rest) =
        .ok (written.foldl (fun v w => w.set v) layout.blank, '\x7d' :: rest) := by
    cases written with
    | nil =>
      refine readMembers_end ?_
      rw [missing?, hf]
      rfl
    | cons w written =>
      rw [List.map_cons, List.nodup_cons] at hd
      rw [List.map_cons, writeCommas_cons, List.append_assoc,
        Written.member, readMembers_field (nextMember_first w.field.name w.text _)
          (hfind w List.mem_cons_self) (by simp) (readColon_cons _),
        w.reads.read _ (closed_commas rest (by decide))]
      refine readMembers_commas rest (fun u hu => hfind u (List.mem_cons_of_mem w hu)) hd.2 ?_ ?_
      · intro u hu hseen
        rw [List.mem_singleton] at hseen
        exact hd.1 (List.mem_map.2 ⟨u, hu, hseen⟩)
      · intro f hm
        obtain ⟨u, hu, rfl⟩ := hall f hm
        rcases List.mem_cons.1 hu with rfl | hu
        · exact Or.inl List.mem_cons_self
        · exact Or.inr ⟨u, hu, rfl⟩
  have htext : writeObject (written.map fun w => (w.field.name, w.text)) ++ rest =
      '\x7b' :: (writeCommas (written.map Written.member) ++ '\x7d' :: rest) := by
    rw [writeObject, List.map_map, List.cons_append, List.append_assoc]
    rfl
  show layout.read (writeObject _ ++ rest) = _
  rw [htext, Layout.read, skipBlank_cons (by decide)]
  simp only [Char.reduceEq, if_true, if_false, members]
  rfl

/-- A problem in the first member of an object is the problem of the structure. -/
theorem fails_first (layout : Layout α) (field : Field α) {text : List Char} {p : Problem}
    {members : List (String × List Char)} (h : field.reader.Fails text p)
    (hf : layout.fields.find? (·.name == field.name) = some field) :
    layout.reader.Fails (writeObject ((field.name, text) :: members)) p := by
  intro rest _
  let others := members.map fun member => writeString member.1 ++ ':' :: member.2
  have htext : writeObject ((field.name, text) :: members) ++ rest =
      '\x7b' :: (writeString field.name ++ ':' :: text ++
        (others.flatMap (',' :: ·) ++ '\x7d' :: rest)) := by
    rw [writeObject, List.map_cons, writeCommas_cons, List.cons_append, List.append_assoc,
      List.append_assoc]
    rfl
  obtain ⟨e, he, rfl⟩ := h (others.flatMap (',' :: ·) ++ '\x7d' :: rest)
    (closed_commas rest (by decide))
  have hmember : layout.readMembers true [] layout.blank (writeString field.name ++ ':' :: text ++
      (others.flatMap (',' :: ·) ++ '\x7d' :: rest)) = .error e := by
    rw [readMembers_field (nextMember_first field.name text _) hf (by simp) (readColon_cons _), he]
  refine ⟨e.settle Bracket.object.leave, ?_, e.problem_settle Bracket.object.leave⟩
  show layout.read (writeObject _ ++ rest) = _
  rw [htext, Layout.read, skipBlank_cons (by decide)]
  simp only [Char.reduceEq, if_true, if_false, hmember]

end Layout

/-! ## Alternatives -/

theorem findChoice_eq {choices : List (Choice α)} {name : String} {choice : Choice α}
    (h : choices.find? (·.name == name) = some choice) (left : List Char) :
    findChoice choices name left = .ok choice := by
  rw [findChoice, h]

/-- An alternative that is written as its name alone. -/
theorem Reader.reads_plain {choices : List (Choice α)} (name : String) {choice : Choice α} {a : α}
    (h : choices.find? (·.name == name) = some choice) (ha : choice.plain? = some a) :
    (Reader.oneOf choices).Reads (writeString name) a := by
  refine ⟨writeString_opens name, ?_⟩
  intro rest _
  obtain ⟨cs, he, hr⟩ := readText_writeString name rest
  show readChoice .key choices (writeString name ++ rest) = _
  rw [he, readChoice, skipBlank_cons (by decide)]
  simp only [readChoiceName, hr, findChoice_eq h, ha]
  rfl

/-- An alternative that is written as an object with its content. -/
theorem Reader.reads_choice {choices : List (Choice α)} (name : String) {choice : Choice α}
    {text : List Char} {a : α} (h : choices.find? (·.name == name) = some choice)
    (hr : choice.content.Reads text a) :
    (Reader.oneOf choices).Reads (writeObject [(name, text)]) a := by
  refine ⟨⟨'\x7b', _, rfl, by decide, by decide⟩, ?_⟩
  intro rest _
  obtain ⟨cs, he, ht⟩ := readText_writeString name (':' :: (text ++ '\x7d' :: rest))
  have htext : writeObject [(name, text)] ++ rest = '\x7b' :: '"' :: cs := by
    rw [← he]
    simp [writeObject, writeCommas]
  have hn : nextMember true ('"' :: cs) = .ok (some (name, ':' :: (text ++ '\x7d' :: rest))) := by
    rw [nextMember, skipBlank_cons (by decide)]
    simp only [ht, if_true]
    rfl
  have hcontent := hr.read ('\x7d' :: rest) (closed_cons (by decide))
  show readChoice .key choices (writeObject _ ++ rest) = _
  rw [htext, readChoice, skipBlank_cons (by decide)]
  simp only [if_true, readChoiceObject, Naming.read, hn, findChoice_eq h, Layout.readColon_cons, hcontent]
  rfl

end AlgorithmDriver.Json
