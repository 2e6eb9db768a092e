import AlgorithmDriver.Proofs.Json.Accept
import Mathlib.Data.List.Nodup

/-!
# What readers of structures accept

A structure is described by its slots: the key, the reader and the texts of each part, and how the
part is looked up and set.  When setting one slot leaves the others alone, the reader of the
structure accepts both forms of it, with members in any order, members that are not parts of it, and
parts left out.

* `Slots.accepts` — structures.
* `Reader.accepts_oneOf` — alternatives.
-/

namespace AlgorithmDriver.Json

variable {α : Type}

/-! ## Members -/

theorem nextMember_end {first : Bool} {cs rest : List Char} (h : skipBlank cs = '\x7d' :: rest) :
    nextMember first cs = .ok none := by
  simp only [nextMember, h, if_true]

/-- Where a member is found, its key is a string. -/
theorem nextMember_eq_some {first : Bool} {cs rest : List Char} {key : String}
    (h : nextMember first cs = .ok (some (key, rest))) (expected : String) :
    ∃ cs', Separated first cs cs' ∧ readString expected cs' = .ok (key, rest) := by
  have text : ∀ {cs' r}, skipBlank cs' = '"' :: r →
      (readText [] r).map some = .ok (some (key, rest)) → readString expected cs' = .ok (key, rest) := by
    intro cs' r hq hr
    obtain ⟨_, hr, he⟩ := Except.map_eq_ok_iff.1 hr
    cases he
    exact (readString_quote hq expected).trans hr
  unfold nextMember at h
  split at h
  · cases h
  · rename_i c cs' hc
    split_ifs at h with he hf hq hcomma
    · cases h
    · subst hf hq
      exact ⟨cs, rfl, text hc h⟩
    · rw [Bool.not_eq_true] at hf
      subst hf hcomma
      split at h
      · cases h
      · rename_i c' cs'' hc'
        split_ifs at h with hq
        subst hq
        exact ⟨cs', hc, text hc' h⟩

theorem nextMember_separated {first : Bool} {cs cs' rest : List Char} {expected key : String}
    (hs : Separated first cs cs') (hk : readString expected cs' = .ok (key, rest)) :
    nextMember first cs = .ok (some (key, rest)) := by
  obtain ⟨cs'', hq, ht⟩ := readString_eq_ok hk
  cases first with
  | true =>
    cases (show cs' = cs from hs)
    simp only [nextMember, hq, Char.reduceEq, if_false, if_true, ht]
    rfl
  | false =>
    have hcs : skipBlank cs = ',' :: cs' := hs
    simp only [nextMember, hcs, Char.reduceEq, Bool.false_eq_true, if_false, if_true, hq, ht]
    rfl

theorem endObject_eq_ok_iff {cs rest : List Char} :
    endObject cs = .ok rest ↔ skipBlank cs = '\x7d' :: rest := by
  unfold endObject
  split
  · rename_i h
    simp [h]
  · rename_i c cs' h
    rw [h]
    by_cases hc : c = '\x7d'
    · subst hc
      simp
    · rw [if_neg hc]
      refine iff_of_false ?_ (fun he => hc (List.cons.inj he).1)
      intro he
      split_ifs at he

theorem StringText.skipBlank_eq {text : List Char} {s : String} (h : StringText text s) :
    skipBlank text = text ∧ text ≠ [] := by
  obtain ⟨parts, -, rfl⟩ := h
  exact ⟨skipBlank_cons (by decide), List.cons_ne_nil _ _⟩

/-- The key and the value of a member, as they are read one after the other. -/
theorem exists_entry {cs cs1 cs2 text rest : List Char} {expected key : String}
    (hk : readString expected cs = .ok (key, cs1)) (hc : readColon cs1 = .ok cs2)
    (ht : skipBlank cs2 = text ++ rest) :
    ∃ e : Entry, e.name = key ∧ e.value.text = text ∧ cs = e.all ++ skipBlank rest := by
  obtain ⟨cs', hq, hkey⟩ := readString_eq_ok hk
  obtain ⟨keyText, hkt, hspelled⟩ := readText_nil_eq_ok_iff.1 hkey
  obtain ⟨k, rfl, hcs⟩ := exists_padded (hq.trans hkt)
  obtain ⟨v, rfl, hcs2⟩ := exists_padded ht
  refine ⟨⟨⟨k, v⟩, key, hspelled⟩, rfl, rfl, ?_⟩
  rw [hcs, readColon_eq_ok_iff.1 hc, hcs2]
  simp [Member.all]

theorem Entry.read (e : Entry) {cs rest : List Char}
    (he : skipBlank cs = skipBlank (e.all ++ rest)) (expected : String) :
    ∃ cs', readString expected cs = .ok (e.name, cs') ∧
      readColon cs' = .ok (e.value.all ++ rest) := by
  have hkey := e.spelled.skipBlank_eq
  rw [Member.all, List.append_assoc, e.key.skipBlank_all_append hkey.1 hkey.2] at he
  obtain ⟨cs', hcs'⟩ : ∃ cs', e.key.text = '"' :: cs' := by
    obtain ⟨parts, -, ht⟩ := e.spelled
    exact ⟨_, ht⟩
  rw [hcs', List.cons_append] at he
  refine ⟨e.key.after ++ (':' :: e.value.all ++ rest), (readString_quote he expected).trans ?_, ?_⟩
  · exact readText_nil_eq_ok_iff.2 ⟨e.key.text, by simp [hcs'], e.spelled⟩
  · exact readColon_eq_ok_iff.2 (skipBlank_append e.key.blanks_after _)

/-! ## Slots -/

/-- A part of a structure with what is needed to read it. -/
structure Slot (α : Type) where
  /-- What the part is. -/
  Content : Type
  /-- Its key. -/
  name : String
  /-- What it is when it is left out, if it can be. -/
  default? : Option Content
  /-- Its reader. -/
  reader : Reader Content
  /-- Its texts. -/
  Text : List Char → Content → Prop
  accepts : reader.Accepts Text
  /-- The part of a structure. -/
  get : α → Content
  /-- The structure with another part. -/
  set : Content → α → α
  get_set : ∀ content value, get (set content value) = content

namespace Slot

/-- The slot whose content is accepted by a reader. -/
def of {β : Type} {r : Reader β} {Text : List Char → β → Prop} (name : String)
    (default? : Option β) (accepts : r.Accepts Text) (get : α → β) (set : β → α → α)
    (get_set : ∀ content value, get (set content value) = content) : Slot α where
  Content := β
  name
  default?
  reader := r
  Text
  accepts
  get
  set
  get_set

/-- The slot as a field of a layout. -/
def field (s : Slot α) : Field α := ⟨s.name, s.default?.isNone, s.reader.map s.set⟩

/-- The slot as a part of the grammar. -/
def part (s : Slot α) : Part α := .of s.name s.Text s.get s.default?

end Slot

/-- The slots are those of the layout: each is on its own, and together they are everything. -/
structure Slots (layout : Layout α) (slots : List (Slot α)) : Prop where
  fields : layout.fields = slots.map Slot.field
  nodup : (slots.map Slot.name).Nodup
  blank : ∀ s ∈ slots, ∀ content, s.default? = some content → s.get layout.blank = content
  apart : ∀ s ∈ slots, ∀ t ∈ slots, s.name ≠ t.name → ∀ content value,
    s.get (t.set content value) = s.get value
  ext : ∀ v w, (∀ s ∈ slots, s.get v = s.get w) → v = w

/-- Reading the entries fills a structure whose slots `seen` were set before. -/
structure Filled (slots : List (Slot α)) (seen : List String) (value : α) (entries : List Entry)
    (result : α) : Prop where
  known : ∀ s ∈ slots, ∀ e ∈ entries, e.name = s.name → s.Text e.value.text (s.get result)
  unknown : ∀ e ∈ entries, (∀ s ∈ slots, e.name ≠ s.name) → WellFormed e.value.text
  once : ∀ s ∈ slots, (entries.map Entry.name).count s.name + (if s.name ∈ seen then 1 else 0) ≤ 1
  kept : ∀ s ∈ slots, (∀ e ∈ entries, e.name ≠ s.name) →
    s.get result = s.get value ∧ (s.default? = none → s.name ∈ seen)

namespace Slots

variable {layout : Layout α} {slots : List (Slot α)} (h : Slots layout slots)

include h

theorem eq_of_name {s t : Slot α} (hs : s ∈ slots) (ht : t ∈ slots) (he : s.name = t.name) :
    s = t := List.inj_on_of_nodup_map h.nodup hs ht he

theorem find?_eq_some {key : String} {field : Field α}
    (hf : layout.fields.find? (·.name == key) = some field) :
    ∃ s ∈ slots, s.name = key ∧ field = s.field := by
  have hm := List.mem_of_find?_eq_some hf
  have hkey := List.find?_some hf
  rw [h.fields] at hm
  obtain ⟨s, hs, rfl⟩ := List.mem_map.1 hm
  exact ⟨s, hs, eq_of_beq hkey, rfl⟩

theorem find?_field {s : Slot α} (hs : s ∈ slots) :
    layout.fields.find? (·.name == s.name) = some s.field := by
  have hmap : layout.fields.map Field.name = slots.map Slot.name := by
    rw [h.fields, List.map_map]
    rfl
  have hmem : s.field ∈ layout.fields := by
    rw [h.fields]
    exact List.mem_map_of_mem hs
  exact Layout.find?_field (hmap ▸ h.nodup) hmem

theorem find?_eq_none_iff {key : String} :
    layout.fields.find? (·.name == key) = none ↔ ∀ s ∈ slots, key ≠ s.name := by
  rw [h.fields, List.find?_eq_none]
  simp only [List.mem_map, forall_exists_index, and_imp, forall_apply_eq_imp_iff₂]
  refine forall₂_congr fun s _ => ?_
  simpa [Slot.field] using ne_comm

theorem missing?_eq_none_iff {seen : List String} :
    layout.missing? seen = none ↔ ∀ s ∈ slots, s.default? = none → s.name ∈ seen := by
  rw [Layout.missing?, Option.map_eq_none_iff, List.find?_eq_none, h.fields]
  simp only [List.mem_map, forall_exists_index, and_imp, forall_apply_eq_imp_iff₂]
  refine forall₂_congr fun s _ => ?_
  simp [Slot.field]

end Slots

section Counts

variable {entries : List Entry} {e : Entry} {name other : String}

theorem count_name_self (he : e.name = name) : ((e :: entries).map Entry.name).count name =
    (entries.map Entry.name).count name + 1 := by
  rw [List.map_cons, he, List.count_cons_self]

theorem count_name_ne (he : e.name = name) (hne : other ≠ name) :
    ((e :: entries).map Entry.name).count other = (entries.map Entry.name).count other := by
  rw [List.map_cons, List.count_cons_of_ne (he ▸ hne.symm)]

end Counts

namespace Filled

variable {slots : List (Slot α)} {seen : List String} {value result : α} {entries : List Entry}
  {e : Entry}

/-- At the end every slot that was not seen can be left out, and nothing changes any more. -/
theorem nil_iff {layout : Layout α} (h : Slots layout slots) :
    Filled slots seen value [] result ↔ layout.missing? seen = none ∧ result = value := by
  rw [h.missing?_eq_none_iff]
  constructor
  · intro hf
    have hkept := fun s hs => hf.kept s hs (by simp)
    exact ⟨fun s hs => (hkept s hs).2, h.ext _ _ fun s hs => (hkept s hs).1⟩
  · rintro ⟨hm, rfl⟩
    refine ⟨by simp, by simp, fun s _ => ?_, fun s hs _ => ⟨rfl, hm s hs⟩⟩
    rw [List.map_nil, List.count_nil]
    split <;> omega

/-- A member that is no part of the structure changes nothing. -/
theorem unknown_iff (hn : ∀ s ∈ slots, e.name ≠ s.name) :
    Filled slots seen value (e :: entries) result ↔
      WellFormed e.value.text ∧ Filled slots seen value entries result := by
  have hcount : ∀ s ∈ slots, ((e :: entries).map Entry.name).count s.name =
      (entries.map Entry.name).count s.name := by
    intro s hs
    rw [List.map_cons, List.count_cons_of_ne (hn s hs)]
  constructor
  · intro hf
    refine ⟨hf.unknown e List.mem_cons_self hn, ?_, ?_, ?_, ?_⟩
    · exact fun s hs d hd => hf.known s hs d (List.mem_cons_of_mem e hd)
    · exact fun d hd => hf.unknown d (List.mem_cons_of_mem e hd)
    · exact fun s hs => hcount s hs ▸ hf.once s hs
    · exact fun s hs hd => hf.kept s hs (List.forall_mem_cons.2 ⟨hn s hs, hd⟩)
  · rintro ⟨hw, hf⟩
    refine ⟨?_, ?_, ?_, ?_⟩
    · intro s hs d hd he
      rcases List.mem_cons.1 hd with rfl | hd
      · exact absurd he (hn s hs)
      · exact hf.known s hs d hd he
    · intro d hd hne
      rcases List.mem_cons.1 hd with rfl | hd
      · exact hw
      · exact hf.unknown d hd hne
    · exact fun s hs => (hcount s hs).symm ▸ hf.once s hs
    · exact fun s hs hd => hf.kept s hs (List.forall_mem_cons.1 hd).2

/-- Setting a part that was not set before, and then filling with the other members. -/
theorem of_known {layout : Layout α} (h : Slots layout slots) {s : Slot α} (hs : s ∈ slots)
    (he : e.name = s.name) (hseen : s.name ∉ seen) {content : s.Content}
    (htext : s.Text e.value.text content)
    (hf : Filled slots (s.name :: seen) (s.set content value) entries result) :
    Filled slots seen value (e :: entries) result := by
  have hnone : (entries.map Entry.name).count s.name = 0 := by
    have honce := hf.once s hs
    rw [if_pos List.mem_cons_self] at honce
    omega
  have habsent : ∀ d ∈ entries, d.name ≠ s.name := fun d hd hname =>
    List.count_eq_zero.1 hnone (List.mem_map.2 ⟨d, hd, hname⟩)
  have hget : s.get result = content := by rw [(hf.kept s hs habsent).1, s.get_set]
  refine ⟨?_, ?_, ?_, ?_⟩
  · intro t ht d hd hname
    rcases List.mem_cons.1 hd with rfl | hd
    · obtain rfl := h.eq_of_name ht hs (hname.symm.trans he)
      exact hget.symm ▸ htext
    · exact hf.known t ht d hd hname
  · intro d hd hne
    rcases List.mem_cons.1 hd with rfl | hd
    · exact absurd he (hne s hs)
    · exact hf.unknown d hd hne
  · intro t ht
    by_cases hne : t.name = s.name
    · rw [hne, count_name_self he, hnone, if_neg hseen]
    · have honce := hf.once t ht
      rw [count_name_ne he hne]
      simpa [hne] using honce
  · intro t ht hd
    obtain ⟨hfirst, hd⟩ := List.forall_mem_cons.1 hd
    have hne : t.name ≠ s.name := fun hname => hfirst (he.trans hname.symm)
    have hkept := hf.kept t ht hd
    rw [h.apart t ht s hs hne] at hkept
    refine ⟨hkept.1, fun hdef => ?_⟩
    rcases List.mem_cons.1 (hkept.2 hdef) with hname | hm
    · exact absurd hname hne
    · exact hm

/-- A member that is a part of the structure sets it, unless it was set before. -/
theorem known_iff {layout : Layout α} (h : Slots layout slots) {s : Slot α} (hs : s ∈ slots)
    (he : e.name = s.name) :
    Filled slots seen value (e :: entries) result ↔
      s.name ∉ seen ∧ ∃ content, s.Text e.value.text content ∧
        Filled slots (s.name :: seen) (s.set content value) entries result := by
  refine ⟨fun hf => ?_, fun ⟨hseen, _, htext, hf⟩ => hf.of_known h hs he hseen htext⟩
  have honce := hf.once s hs
  rw [count_name_self he] at honce
  have hseen : s.name ∉ seen := by
    intro hm
    rw [if_pos hm] at honce
    omega
  refine ⟨hseen, s.get result, hf.known s hs e List.mem_cons_self he, ?_, ?_, ?_, ?_⟩
  · exact fun t ht d hd => hf.known t ht d (List.mem_cons_of_mem e hd)
  · exact fun d hd => hf.unknown d (List.mem_cons_of_mem e hd)
  · intro t ht
    by_cases hne : t.name = s.name
    · rw [hne, if_pos List.mem_cons_self]
      omega
    · have hthis := hf.once t ht
      rw [count_name_ne he hne] at hthis
      simpa [hne] using hthis
  · intro t ht hd
    by_cases hne : t.name = s.name
    · obtain rfl := h.eq_of_name ht hs hne
      exact ⟨(t.get_set _ _).symm, fun _ => List.mem_cons_self⟩
    · have hkept := hf.kept t ht (List.forall_mem_cons.2 ⟨he ▸ Ne.symm hne, hd⟩)
      rw [h.apart t ht s hs hne]
      exact ⟨hkept.1, fun hd => List.mem_cons_of_mem _ (hkept.2 hd)⟩

/-- Filling the blank structure is what the grammar says of the members of an object. -/
theorem blank_iff {layout : Layout α} (h : Slots layout slots) :
    Filled slots [] layout.blank entries result ↔ Entries (slots.map Slot.part) entries result := by
  constructor
  · intro hf
    refine ⟨?_, ?_, ?_, ?_⟩
    · exact List.forall_mem_map.2 hf.known
    · exact fun d hd hn => hf.unknown d hd fun s hs => hn s.part (List.mem_map_of_mem hs)
    · refine List.forall_mem_map.2 fun s hs => ?_
      exact Nat.le_trans (Nat.le_add_right _ _) (hf.once s hs)
    · refine List.forall_mem_map.2 fun s hs hd => ?_
      obtain ⟨hget, hdef⟩ := hf.kept s hs hd
      obtain ⟨content, hc⟩ := Option.ne_none_iff_exists'.1 fun hn => by simpa using hdef hn
      show s.default? = some (s.get result)
      rw [hget, h.blank s hs content hc, hc]
  · intro he
    refine ⟨List.forall_mem_map.1 he.known, ?_, ?_, ?_⟩
    · exact fun d hd hn => he.unknown d hd (List.forall_mem_map.2 hn)
    · intro s hs
      rw [if_neg List.not_mem_nil]
      exact List.forall_mem_map.1 he.once s hs
    · intro s hs hd
      have hdef : s.default? = some (s.get result) := List.forall_mem_map.1 he.omitted s hs hd
      exact ⟨(h.blank s hs _ hdef).symm, fun hn => by rw [hn] at hdef; cases hdef⟩

end Filled

/-! ## The object form -/

namespace Slots

variable {layout : Layout α} {slots : List (Slot α)} (h : Slots layout slots)

theorem readMembers_unknown {first : Bool} {seen : List String} {value : α} {key : String}
    {cs cs1 cs2 rest : List Char} (hn : nextMember first cs = .ok (some (key, cs1)))
    (hf : layout.fields.find? (·.name == key) = none) (hc : readColon cs1 = .ok cs2)
    (hs : skipValue cs2 = .ok rest) :
    layout.readMembers first seen value cs = layout.readMembers false seen value rest := by
  rw [Layout.readMembers]
  split
  · rename_i e he
    rw [hn] at he
    cases he
  · rename_i he
    rw [hn] at he
    cases he
  · rename_i key' cs1' he
    rw [hn] at he
    cases he
    simp only [hf]
    split
    · rename_i e he
      rw [hc] at he
      cases he
    · rename_i cs2' he
      rw [hc] at he
      cases he
      split
      · rename_i e he
        rw [hs] at he
        cases he
      · rename_i rest' he
        rw [hs] at he
        cases he
        rfl

include h

theorem readMembers_eq_ok {first : Bool} {seen : List String} {value result : α}
    {cs rest rest' : List Char}
    (hr : layout.readMembers first seen value cs = .ok (result, rest))
    (hend : skipBlank rest = '\x7d' :: rest') :
    ∃ entries : List Entry, Filled slots seen value entries result ∧
      PartsLeft first (entries.map (·.all)) cs ('\x7d' :: rest') := by
  fun_induction Layout.readMembers layout first seen value cs with
  | case3 first seen value cs hn hm =>
    cases hr
    exact ⟨[], (Filled.nil_iff h).2 ⟨hm, rfl⟩, .nil hend⟩
  | case6 first seen value cs key cs1 hn hf cs2 hc cs3 hs hlt ih =>
    obtain ⟨entries, hfill, hparts⟩ := ih hr
    obtain ⟨text, htext, hwell⟩ := skipValue_eq_ok hs
    obtain ⟨cs0, hsep, hkey⟩ := nextMember_eq_some hn "a string"
    obtain ⟨e, rfl, rfl, rfl⟩ := exists_entry hkey hc htext
    exact ⟨e :: entries, (Filled.unknown_iff (h.find?_eq_none_iff.1 hf)).2 ⟨hwell, hfill⟩,
      .cons hsep hparts⟩
  | case10 first seen value cs key cs1 hn field hf hseen cs2 hc set cs3 hread hlt ih =>
    obtain ⟨entries, hfill, hparts⟩ := ih hr
    obtain ⟨s, hs, rfl, rfl⟩ := h.find?_eq_some hf
    obtain ⟨text, htext, content, ht, rfl⟩ := (s.accepts.map s.set).spelled hread
    obtain ⟨cs0, hsep, hkey⟩ := nextMember_eq_some hn "a string"
    obtain ⟨e, he, rfl, rfl⟩ := exists_entry hkey hc htext
    have hnew : s.name ∉ seen := by simpa using hseen
    exact ⟨e :: entries, (Filled.known_iff h hs he).2 ⟨hnew, content, ht, hfill⟩,
      .cons hsep hparts⟩
  | _ => cases hr

theorem readMembers_of_partsLeft {first : Bool} {seen : List String} {value result : α}
    {entries : List Entry} {cs rest : List Char}
    (hf : Filled slots seen value entries result)
    (hp : PartsLeft first (entries.map (·.all)) cs ('\x7d' :: rest)) :
    ∃ cs', layout.readMembers first seen value cs = .ok (result, cs') ∧
      skipBlank cs' = '\x7d' :: rest := by
  induction entries generalizing first seen value cs with
  | nil =>
    obtain ⟨hm, rfl⟩ := (Filled.nil_iff h).1 hf
    have hend := hp.eq_of_nil rfl
    exact ⟨cs, Layout.readMembers_none (nextMember_end hend) hm, hend⟩
  | cons e entries ih =>
    obtain ⟨cs1, hsep, hcs1⟩ := hp.separated
    obtain ⟨cs2, hk, hc⟩ := e.read hcs1 "a string"
    have hn := nextMember_separated hsep hk
    have hclosed : Closed ((entries.map (·.all)).flatMap (',' :: ·) ++ '\x7d' :: rest) :=
      closed_commas rest (by decide)
    have hafter := PartsLeft.after .object e.value.blanks_after (entries.map (·.all)) rest
    by_cases hknown : ∃ s ∈ slots, e.name = s.name
    · obtain ⟨s, hs, hname⟩ := hknown
      obtain ⟨hseen, content, ht, hfill⟩ := (Filled.known_iff h hs hname).1 hf
      obtain ⟨cs', hrest, hend⟩ := ih hfill hafter
      have hread := (s.accepts.map s.set).read_all ⟨content, ht, rfl⟩ rfl hclosed
      refine ⟨cs', ?_, hend⟩
      have hkey : nextMember first cs = .ok (some (s.field.name, cs2)) := by
        rw [hn, hname]
        rfl
      have hfield : s.field.reader.read _ = _ := hread
      rw [Layout.readMembers_field hkey (h.find?_field hs) hseen hc, hfield]
      exact hrest
    · have hother : ∀ s ∈ slots, e.name ≠ s.name := fun s hs he => hknown ⟨s, hs, he⟩
      obtain ⟨hwell, hfill⟩ := (Filled.unknown_iff hother).1 hf
      obtain ⟨cs', hrest, hend⟩ := ih hfill hafter
      have hblank := hwell.skipBlank_eq
      have hskip := skipValue_of_wellFormed hwell
        (e.value.skipBlank_all_append hblank.1 hblank.2 _) (hclosed.append e.value.blanks_after)
      exact ⟨cs', (readMembers_unknown hn (h.find?_eq_none_iff.2 hother) hc hskip).trans hrest, hend⟩

end Slots

/-! ## The list form -/

/-- Reading the items sets the slots one after another; those that are left can be left out. -/
inductive Listed : α → List Padded → List (Slot α) → α → Prop
  | left {value : α} {slots : List (Slot α)} : (∀ s ∈ slots, s.default? ≠ none) →
      Listed value [] slots value
  | item {value result : α} {item : Padded} {items : List Padded} {s : Slot α}
      {slots : List (Slot α)} {content : s.Content} : s.Text item.text content →
      Listed (s.set content value) items slots result →
      Listed value (item :: items) (s :: slots) result

section Items

variable {layout : Layout α} {slots : List (Slot α)} {value result : α} {cs rest rest' : List Char}

/-- Before the end of the list all slots that are left have to have a default. -/
theorem readItems_end_iff (hc : skipBlank cs = ']' :: rest') (index : Nat) :
    layout.readItems index value (slots.map Slot.field) cs = .ok (result, rest) ↔
      (∀ s ∈ slots, s.default? ≠ none) ∧ result = value ∧ rest = cs := by
  induction slots generalizing index with
  | nil =>
    simp only [List.map_nil, Layout.readItems, Except.ok.injEq, Prod.mk.injEq, List.not_mem_nil,
      IsEmpty.forall_iff, implies_true, true_and]
    exact ⟨fun h => ⟨h.1.symm, h.2.symm⟩, fun h => ⟨h.1.symm, h.2.symm⟩⟩
  | cons s slots ih =>
    rw [List.map_cons, Layout.readItems, nextElement_end hc, List.forall_mem_cons, and_assoc, ← ih (index + 1)]
    by_cases hd : s.default? = none
    · simp [Slot.field, hd]
    · have hreq : ¬s.field.required = true := by simpa [Slot.field] using hd
      simp only [if_neg hreq, ne_eq, hd, not_false_eq_true, true_and]

theorem Listed.of_readItems {index : Nat}
    (hr : layout.readItems index value (slots.map Slot.field) cs = .ok (result, rest))
    (hend : skipBlank rest = ']' :: rest') :
    ∃ items, Listed value items slots result ∧
      PartsLeft (index == 0) (items.map Padded.all) cs (']' :: rest') := by
  induction slots generalizing index value cs with
  | nil =>
    cases hr
    exact ⟨[], .left (by simp), .nil hend⟩
  | cons s slots ih =>
    have hall := hr
    rw [List.map_cons, Layout.readItems] at hr
    split at hr
    · cases hr
    · rename_i hn
      obtain ⟨cs', hclose⟩ := nextElement_eq_none hn
      obtain ⟨hleft, rfl, rfl⟩ := (readItems_end_iff hclose index).1 hall
      exact ⟨[], .left hleft, .nil hend⟩
    · rename_i cs1 hn
      split at hr
      · cases hr
      · rename_i set cs2 hread
        obtain ⟨items, hlist, hparts⟩ := ih hr
        obtain ⟨text, htext, content, ht, rfl⟩ := (s.accepts.map s.set).spelled hread
        obtain ⟨cs0, hsep, hcs0⟩ := nextElement_eq_some hn
        rw [← hcs0, skipBlank_skipBlank] at htext
        obtain ⟨p, rfl, hp⟩ := exists_padded htext
        exact ⟨p :: items, .item ht hlist, .cons (hp ▸ hsep) hparts⟩

theorem Listed.readItems (layout : Layout α) {items : List Padded} (hl : Listed value items slots result)
    (index : Nat) (hp : PartsLeft (index == 0) (items.map Padded.all) cs (']' :: rest)) :
    ∃ cs', layout.readItems index value (slots.map Slot.field) cs = .ok (result, cs') ∧
      skipBlank cs' = ']' :: rest := by
  induction hl generalizing index cs with
  | left hleft =>
    have hend := hp.eq_of_nil rfl
    exact ⟨cs, (readItems_end_iff hend index).2 ⟨hleft, rfl, rfl⟩, hend⟩
  | @item value result p items s slots content ht hl ih =>
    obtain ⟨cs1, hsep, hcs1⟩ := hp.separated
    have hclosed : Closed ((items.map Padded.all).flatMap (',' :: ·) ++ ']' :: rest) :=
      closed_commas rest (by decide)
    have hacc := s.accepts.map s.set
    obtain ⟨c, cs2, hc, hne⟩ := hacc.exists_cons (p := p) ⟨content, ht, rfl⟩ hcs1
    have hread := hacc.read_all ⟨content, ht, rfl⟩ hcs1 hclosed
    rw [← hacc.skips, hc] at hread
    have hafter := PartsLeft.after .list p.blanks_after (items.map Padded.all) rest
    obtain ⟨cs', hrest, hend⟩ := ih (index + 1) hafter
    refine ⟨cs', ?_, hend⟩
    have hfield : s.field.reader.read (c :: cs2) = _ := hread
    rw [List.map_cons, Layout.readItems, nextElement_separated hsep hc hne]
    simp only [hfield]
    exact hrest

end Items

namespace Listed

variable {layout : Layout α} {slots suffix : List (Slot α)} {value result : α}
  {items : List Padded}

/-- What was set is there at the end, and all else is as it was. -/
theorem exists_given (h : Slots layout slots) (hl : Listed value items suffix result)
    (hs : ∀ s ∈ suffix, s ∈ slots) (hd : (suffix.map Slot.name).Nodup) :
    ∃ given omitted, suffix = given ++ omitted ∧
      List.Forall₂ (fun (p : Padded) s => s.Text p.text (s.get result)) items given ∧
      (∀ s ∈ omitted, s.default? ≠ none) ∧
      ∀ s ∈ slots, s ∉ given → s.get result = s.get value := by
  induction hl with
  | @left value suffix hleft =>
    exact ⟨[], suffix, rfl, .nil, hleft, fun _ _ _ => rfl⟩
  | @item value result p items s suffix content ht hl ih =>
    obtain ⟨hmem, hs⟩ := List.forall_mem_cons.1 hs
    rw [List.map_cons, List.nodup_cons] at hd
    obtain ⟨given, omitted, rfl, hgiven, homit, hkept⟩ := ih hs hd.2
    have hnew : s ∉ given := fun hm =>
      hd.1 (List.mem_map_of_mem (List.mem_append_left omitted hm))
    refine ⟨s :: given, omitted, rfl, .cons ?_ hgiven, homit, ?_⟩
    · rw [hkept s hmem hnew, s.get_set]
      exact ht
    · intro t ht' hout
      have hne : t.name ≠ s.name := by
        intro hname
        exact hout (h.eq_of_name ht' hmem hname ▸ List.mem_cons_self)
      rw [hkept t ht' fun hm => hout (List.mem_cons_of_mem s hm), h.apart t ht' s hmem hne]

/-- When everything that was set before is right, setting what is given makes all of it right. -/
theorem of_given (h : Slots layout slots) {given omitted : List (Slot α)}
    (hs : ∀ s ∈ given, s ∈ slots) (hd : (given.map Slot.name).Nodup)
    (hgiven : List.Forall₂ (fun (p : Padded) s => s.Text p.text (s.get result)) items given)
    (homit : ∀ s ∈ omitted, s.default? ≠ none)
    (hkept : ∀ s ∈ slots, s ∉ given → s.get value = s.get result) :
    Listed value items (given ++ omitted) result := by
  induction hgiven generalizing value with
  | nil =>
    cases h.ext _ _ fun s hm => hkept s hm List.not_mem_nil
    exact .left homit
  | @cons p s items given ht hgiven ih =>
    obtain ⟨hmem, hs⟩ := List.forall_mem_cons.1 hs
    rw [List.map_cons, List.nodup_cons] at hd
    refine .item ht (ih hs hd.2 fun t ht' hout => ?_)
    by_cases hname : t.name = s.name
    · obtain rfl := h.eq_of_name ht' hmem hname
      exact t.get_set _ _
    · rw [h.apart t ht' s hmem hname]
      refine hkept t ht' fun hm => ?_
      rcases List.mem_cons.1 hm with rfl | hm
      · exact hname rfl
      · exact hout hm

/-- Filling the blank structure from a list is what the grammar says of the list form. -/
theorem blank_iff (h : Slots layout slots) :
    Listed layout.blank items slots result ↔
      ∃ given omitted, slots.map Slot.part = given ++ omitted ∧
        List.Forall₂ (fun (p : Padded) part => part.Text p.text result) items given ∧
        ∀ part ∈ omitted, part.Omissible result := by
  constructor
  · intro hl
    obtain ⟨given, omitted, he, hgiven, homit, hkept⟩ :=
      hl.exists_given h (fun _ hm => hm) h.nodup
    refine ⟨given.map Slot.part, omitted.map Slot.part, by rw [he, List.map_append],
      List.forall₂_map_right_iff.2 hgiven, List.forall_mem_map.2 fun s hm => ?_⟩
    have hmem : s ∈ slots := by rw [he]; exact List.mem_append_right given hm
    have hout : s ∉ given := by
      intro hg
      have hd := h.nodup
      rw [he, List.map_append] at hd
      exact (List.nodup_append.1 hd).2.2 _ (List.mem_map_of_mem hg) _ (List.mem_map_of_mem hm) rfl
    obtain ⟨content, hc⟩ := Option.ne_none_iff_exists'.1 (homit s hm)
    show s.default? = some (s.get result)
    rw [hkept s hmem hout, h.blank s hmem content hc, hc]
  · rintro ⟨given, omitted, he, hgiven, homit⟩
    obtain ⟨given, omitted, rfl, rfl, rfl⟩ := List.map_eq_append_iff.1 he
    have hdefault : ∀ s ∈ omitted, s.default? = some (s.get result) := List.forall_mem_map.1 homit
    have hd := h.nodup
    rw [List.map_append] at hd
    refine of_given h (fun s hm => List.mem_append_left omitted hm) (List.nodup_append.1 hd).1
      (List.forall₂_map_right_iff.1 hgiven) (fun s hm hn => ?_) fun s hm hout => ?_
    · rw [hdefault s hm] at hn
      cases hn
    · exact h.blank s hm _ (hdefault s ((List.mem_append.1 hm).resolve_left hout))

end Listed

/-! ## Structures -/

/-- A structure is accepted in both of its forms. -/
theorem Slots.accepts {layout : Layout α} {slots : List (Slot α)} (h : Slots layout slots) :
    layout.reader.Accepts (StructText (slots.map Slot.part)) where
  skips cs := by
    show layout.read (skipBlank cs) = layout.read cs
    rw [Layout.read, Layout.read, skipBlank_skipBlank]
  reads := by
    intro text value ht
    cases ht with
    | @object blanks entries _ hb he =>
      refine ⟨⟨'\x7b', _, rfl, by decide, by decide⟩, fun rest _ => ?_⟩
      have hp : PartsLeft true (entries.map (·.all))
          (blanks ++ (writeCommas (entries.map (·.all)) ++ '\x7d' :: rest)) ('\x7d' :: rest) :=
        ⟨blanks, hb, rfl⟩
      obtain ⟨cs, hread, hend⟩ := h.readMembers_of_partsLeft ((Filled.blank_iff h).2 he) hp
      show layout.read (bracketed '\x7b' '\x7d' blanks _ ++ rest) = _
      rw [bracketed_append, Layout.read, skipBlank_cons (by decide)]
      simp only [Char.reduceEq, if_false, if_true, hread, endObject_eq_ok_iff.2 hend]
      rfl
    | @list blanks items given omitted _ hb he hg ho =>
      refine ⟨⟨'[', _, rfl, by decide, by decide⟩, fun rest _ => ?_⟩
      have hp : PartsLeft true (items.map Padded.all)
          (blanks ++ (writeCommas (items.map Padded.all) ++ ']' :: rest)) (']' :: rest) :=
        ⟨blanks, hb, rfl⟩
      have hl := (Listed.blank_iff h).2 ⟨given, omitted, he, hg, ho⟩
      obtain ⟨cs, hread, hend⟩ := Listed.readItems layout hl 0 hp
      rw [← h.fields] at hread
      show layout.read (bracketed '[' ']' blanks _ ++ rest) = _
      rw [bracketed_append, Layout.read, skipBlank_cons (by decide)]
      simp only [if_true, hread, endList_eq_ok_iff.2 hend]
      rfl
  spelled {cs value rest} hr := by
    change layout.read cs = .ok (value, rest) at hr
    unfold Layout.read at hr
    split at hr
    · cases hr
    · rename_i c cs' hc
      rw [hc]
      split_ifs at hr with hlist hobject
      · subst hlist
        split at hr
        · cases hr
        · rename_i value' cs'' hitems
          obtain ⟨rest', hend, he⟩ := Except.map_eq_ok_iff.1 hr
          cases he
          rw [h.fields] at hitems
          obtain ⟨items, hl, blanks, hb, rfl⟩ :=
            Listed.of_readItems hitems (endList_eq_ok_iff.1 hend)
          obtain ⟨given, omitted, he, hg, ho⟩ := (Listed.blank_iff h).1 hl
          exact ⟨_, (bracketed_append _).symm, .list hb he hg ho⟩
      · subst hobject
        split at hr
        · cases hr
        · rename_i value' cs'' hmembers
          obtain ⟨rest', hend, he⟩ := Except.map_eq_ok_iff.1 hr
          cases he
          obtain ⟨entries, hf, blanks, hb, rfl⟩ :=
            h.readMembers_eq_ok hmembers (endObject_eq_ok_iff.1 hend)
          exact ⟨_, (bracketed_append _).symm, .object hb ((Filled.blank_iff h).1 hf)⟩

/-! ## Alternatives -/

theorem endChoice_eq_ok_iff {cs rest : List Char} :
    endChoice cs = .ok rest ↔ skipBlank cs = '\x7d' :: rest := by
  unfold endChoice
  split
  · rename_i h
    simp [h]
  · rename_i c cs' h
    rw [h]
    by_cases hc : c = '\x7d'
    · subst hc
      simp
    · simp [hc]

theorem findChoice_eq_ok {choices : List (Choice α)} {name : String} {left : List Char}
    {choice : Choice α} (h : findChoice choices name left = .ok choice) :
    choice ∈ choices ∧ choice.name = name := by
  unfold findChoice at h
  split at h
  · rename_i hf
    cases h
    have hname := List.find?_some hf
    exact ⟨List.mem_of_find?_eq_some hf, eq_of_beq hname⟩
  · cases h

/-- When no two alternatives have the same name, each is found by its name. -/
theorem findChoice_of_mem {choices : List (Choice α)} (hd : (choices.map Choice.name).Nodup)
    {choice : Choice α} (hm : choice ∈ choices) (left : List Char) :
    findChoice choices choice.name left = .ok choice := by
  refine findChoice_eq ?_ left
  cases hf : choices.find? (·.name == choice.name) with
  | none => exact absurd (List.find?_eq_none.1 hf choice hm) (by simp)
  | some other =>
    have hname := List.find?_some hf
    exact congrArg some
      (List.inj_on_of_nodup_map hd (List.mem_of_find?_eq_some hf) hm (eq_of_beq hname))

theorem Naming.read_key (cs : List Char) : Naming.key.read cs =
    (nextMember true cs).bind fun next =>
      match next with
      | none => .error (.form .expectedValue)
      | some found => .ok found := by
  simp only [Naming.read]
  cases nextMember true cs with
  | error e => rfl
  | ok next => cases next <;> rfl

/-- Where the name of an alternative is found it is a string, whatever it is taken for. -/
theorem Naming.read_eq_ok_iff {naming : Naming} {cs rest : List Char} {name : String}
    (expected : String) :
    naming.read cs = .ok (name, rest) ↔ readString expected cs = .ok (name, rest) := by
  cases naming with
  | key =>
    rw [Naming.read_key, Except.bind_eq_ok_iff]
    constructor
    · rintro ⟨_ | found, hn, h⟩
      · cases h
      · cases h
        obtain ⟨cs', hs, hk⟩ := nextMember_eq_some hn expected
        exact (show cs' = cs from hs) ▸ hk
    · intro h
      have hs : Separated true cs cs := rfl
      exact ⟨some (name, rest), nextMember_separated hs h, rfl⟩
  | identifier =>
    have any : ∀ {s t : String}, readString s cs = .ok (name, rest) →
        readString t cs = .ok (name, rest) := by
      intro s t h
      obtain ⟨cs', hq, ht⟩ := readString_eq_ok h
      exact (readString_quote hq t).trans ht
    exact ⟨any, any⟩

section OneOf

variable {naming : Naming} {choices : List (Choice α)} {choice : Choice α} {a : α}
  {text cs rest : List Char}

theorem readChoiceObject_eq (cs : List Char) : readChoiceObject naming choices cs =
    (naming.read cs).bind fun r => (findChoice choices r.1 r.2).bind fun choice =>
      (readColon r.2).bind fun rest => (choice.content.read rest).bind fun r =>
        (endChoice r.2).map fun rest => (r.1, rest) := by
  unfold readChoiceObject
  cases naming.read cs with
  | error e => rfl
  | ok r =>
    obtain ⟨name, rest⟩ := r
    dsimp only [Except.bind]
    cases findChoice choices name rest with
    | error e => rfl
    | ok choice =>
      dsimp only
      cases readColon rest with
      | error e => rfl
      | ok rest =>
        dsimp only
        cases choice.content.read rest <;> rfl

theorem readChoiceName_eq (cs : List Char) : readChoiceName choices cs =
    (readText [] cs).bind fun r => (findChoice choices r.1 r.2).bind fun choice =>
      match choice.plain? with
      | some value => .ok (value, r.2)
      | none => .error (.content (.invalidType .unitVariant "newtype variant") ⟨false, r.2⟩) := by
  unfold readChoiceName
  cases readText [] cs with
  | error e => rfl
  | ok r =>
    obtain ⟨name, rest⟩ := r
    dsimp only [Except.bind]
    cases findChoice choices name rest <;> rfl

/-- A name alone is read as the alternative that may stand without content. -/
theorem readChoice_name (naming : Naming) (hd : (choices.map Choice.name).Nodup) (hm : choice ∈ choices)
    (hp : choice.plain? = some a) (ht : StringText text choice.name) :
    readChoice naming choices (text ++ rest) = .ok (a, rest) := by
  obtain ⟨parts, hparts, rfl⟩ := ht
  have hread : readText [] (parts.flatten ++ ['"'] ++ rest) = .ok (choice.name, rest) :=
    readText_nil_eq_ok_iff.2 ⟨quoted parts, rfl, parts, hparts, rfl⟩
  rw [readChoice, quoted, List.cons_append, skipBlank_cons (by decide)]
  simp only [Char.reduceEq, if_false, if_true, readChoiceName, hread, findChoice_of_mem hd hm, hp]

theorem readChoiceName_eq_ok (h : readChoiceName choices cs = .ok (a, rest)) :
    ∃ text, '"' :: cs = text ++ rest ∧
      ∃ choice ∈ choices, choice.plain? = some a ∧ StringText text choice.name := by
  rw [readChoiceName_eq] at h
  obtain ⟨⟨name, cs'⟩, ht, h⟩ := Except.bind_eq_ok_iff.1 h
  obtain ⟨choice, hf, h⟩ := Except.bind_eq_ok_iff.1 h
  obtain ⟨hm, rfl⟩ := findChoice_eq_ok hf
  split at h
  · rename_i hp
    cases h
    obtain ⟨text, he, htext⟩ := readText_nil_eq_ok_iff.1 ht
    exact ⟨text, he, choice, hm, hp, htext⟩
  · cases h

/-- An object with one member is read as the alternative that the member names. -/
theorem readChoice_object (naming : Naming) {Text : List Char → α → Prop}
    (hd : (choices.map Choice.name).Nodup) (hm : choice ∈ choices) (hc : choice.content.Accepts Text)
    (ht : WithContentText choice.name (Text · a) text) :
    readChoice naming choices (text ++ rest) = .ok (a, rest) := by
  obtain ⟨e, hname, hcontent, rfl⟩ := ht
  obtain ⟨cs, hk, hcolon⟩ := e.read (Eq.refl (skipBlank (e.all ++ '\x7d' :: rest))) "a string"
  have hclosed : Closed ('\x7d' :: rest) := closed_cons (by decide)
  have hread := hc.read_all hcontent rfl hclosed
  have hend : endChoice (e.value.after ++ '\x7d' :: rest) = .ok rest :=
    endChoice_eq_ok_iff.2 (skipBlank_append e.value.blanks_after _)
  have hfound : naming.read (e.all ++ '\x7d' :: rest) = .ok (choice.name, cs) :=
    (Naming.read_eq_ok_iff "a string").2 (hname ▸ hk)
  rw [bracketed_append, readChoice, skipBlank_cons (by decide)]
  simp only [if_true, readChoiceObject, writeCommas, List.nil_append, hfound,
    findChoice_of_mem hd hm, hcolon, hread, hend]
  rfl

theorem readChoiceObject_eq_ok {Content : Choice α → List Char → α → Prop}
    (hc : ∀ choice ∈ choices, choice.content.Accepts (Content choice))
    (h : readChoiceObject naming choices cs = .ok (a, rest)) :
    ∃ text, '\x7b' :: cs = text ++ rest ∧
      ∃ choice ∈ choices, WithContentText choice.name (Content choice · a) text := by
  rw [readChoiceObject_eq] at h
  obtain ⟨⟨name, cs1⟩, hk, h⟩ := Except.bind_eq_ok_iff.1 h
  obtain ⟨choice, hf, h⟩ := Except.bind_eq_ok_iff.1 h
  obtain ⟨cs2, hcolon, h⟩ := Except.bind_eq_ok_iff.1 h
  obtain ⟨⟨a', cs3⟩, hread, h⟩ := Except.bind_eq_ok_iff.1 h
  obtain ⟨rest', hend, he⟩ := Except.map_eq_ok_iff.1 h
  cases he
  obtain ⟨hm, rfl⟩ := findChoice_eq_ok hf
  obtain ⟨text, htext, hcontent⟩ := (hc choice hm).spelled hread
  have hname := (Naming.read_eq_ok_iff "a string").1 hk
  obtain ⟨e, hkey, rfl, rfl⟩ := exists_entry hname hcolon htext
  refine ⟨bracketed '\x7b' '\x7d' [] [e.all], ?_, choice, hm, e, hkey, hcontent, rfl⟩
  rw [bracketed_append, endChoice_eq_ok_iff.1 hend]
  rfl

/-- Alternatives are accepted as names, where they can be, and as objects with their content. -/
theorem Reader.accepts_oneOf (hd : (choices.map Choice.name).Nodup)
    {Content : Choice α → List Char → α → Prop}
    (hc : ∀ choice ∈ choices, choice.content.Accepts (Content choice)) :
    (Reader.oneOf choices naming).Accepts fun text a => ∃ choice ∈ choices,
      choice.plain? = some a ∧ StringText text choice.name ∨
        WithContentText choice.name (Content choice · a) text where
  skips cs := by
    show readChoice naming choices (skipBlank cs) = readChoice naming choices cs
    rw [readChoice, readChoice, skipBlank_skipBlank]
  reads := by
    rintro text a ⟨choice, hm, ⟨hp, parts, hparts, rfl⟩ | ⟨e, hname, hcontent, rfl⟩⟩
    · exact ⟨⟨'"', _, rfl, by decide, by decide⟩,
        fun rest _ => readChoice_name naming hd hm hp ⟨parts, hparts, rfl⟩⟩
    · exact ⟨⟨'\x7b', _, rfl, by decide, by decide⟩,
        fun rest _ => readChoice_object naming hd hm (hc choice hm) ⟨e, hname, hcontent, rfl⟩⟩
  spelled {cs a rest} hr := by
    change readChoice naming choices cs = .ok (a, rest) at hr
    unfold readChoice at hr
    split at hr
    · cases hr
    · rename_i c cs' hcs
      rw [hcs]
      split_ifs at hr with hobject hname
      · subst hobject
        obtain ⟨text, he, choice, hm, ht⟩ := readChoiceObject_eq_ok hc hr
        exact ⟨text, he, choice, hm, Or.inr ht⟩
      · subst hname
        obtain ⟨text, he, choice, hm, ht⟩ := readChoiceName_eq_ok hr
        exact ⟨text, he, choice, hm, Or.inl ht⟩

end OneOf

end AlgorithmDriver.Json
