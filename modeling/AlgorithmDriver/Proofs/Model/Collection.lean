import AlgorithmDriver.Model.Algorithm
import Mathlib.Data.List.InsertIdx
import Mathlib.Data.List.Nodup

/-!
# What a collection keeps

`NamedList.Valid` is the invariant of collections: every item is filed under its own name, no two
items have the same name, every name is an identifier, and every item is sound, which is what its
own checks establish (`Vetted`).

* `NamedList.vet_eq_ok_iff` — when an item is let in.
* `NamedList.insert_eq_ok_iff`, `NamedList.update_eq_ok` — what a successful change does.
* `NamedList.Valid.insert`, `NamedList.Valid.update`, `NamedList.Valid.insertAll` — every change
  keeps the invariant, whatever the item and however it is changed.
* `NamedList.insertAll_toList` — a collection that is valid is the one that its items make when they
  are added in their order.
-/

namespace AlgorithmDriver

/-! ## Sound items -/

/-- What the checks of an item on its own establish. -/
class Vetted (α : Type) [Named α] where
  /-- What the checks are for. -/
  Sound : α → Prop
  check_eq_ok_iff : ∀ item : α, Named.check item = .ok () ↔ Sound item

/-- The dimensions of a sound variable have at least one element. -/
def Variable.NoZeroExtent (v : Variable) : Prop := ∀ d ∈ v.dimensions, d.extent ≠ .fixed 0

/-- No two members of a sound algorithm have the same name, whatever their sorts. -/
def Algorithm.DistinctMembers (a : Algorithm) : Prop :=
  (a.data.names ++ a.callbacks.names ++ a.functions.names).Nodup

theorem Variable.check_eq_ok_iff (v : Variable) : v.check = .ok () ↔ v.NoZeroExtent := by
  have size_eq : ∀ d : Dimension, d.size? = some 0 ↔ d.extent = .fixed 0 := by
    rintro ⟨_ | size⟩ <;> simp [Dimension.size?]
  unfold Variable.check Variable.NoZeroExtent
  by_cases h : v.dimensions.any (·.size? == some 0) = true
  · rw [if_pos h]
    obtain ⟨d, hd, hz⟩ := List.any_eq_true.1 h
    simp only [reduceCtorEq, false_iff, not_forall, not_not]
    exact ⟨d, hd, (size_eq d).1 (by simpa using hz)⟩
  · rw [if_neg h]
    simp only [true_iff]
    intro d hd hz
    exact h (List.any_eq_true.2 ⟨d, hd, by simpa using (size_eq d).2 hz⟩)

/-- The search for a clash comes to its end exactly when the names are new and distinct. -/
theorem Algorithm.firstClash_eq_ok_iff (members : List (String × String)) (seen : List String) :
    firstClash seen members = .ok () ↔
      (members.map Prod.snd).Nodup ∧ ∀ name ∈ members.map Prod.snd, name ∉ seen := by
  induction members generalizing seen with
  | nil => simp [firstClash]
  | cons member rest ih =>
    obtain ⟨kind, name⟩ := member
    rw [firstClash]
    by_cases h : seen.contains name = true
    · rw [if_pos h]
      simp only [reduceCtorEq, List.map_cons, false_iff, not_and, not_forall]
      intro _
      exact ⟨name, List.mem_cons_self, fun hn => hn (List.contains_iff_mem.1 h)⟩
    · rw [if_neg h, ih]
      have hn : name ∉ seen := fun hm => h (List.contains_iff_mem.2 hm)
      simp only [List.map_cons, List.nodup_cons, List.mem_cons, forall_eq_or_imp, not_or]
      constructor
      · rintro ⟨hd, hs⟩
        exact ⟨⟨fun hm => (hs name hm).1 rfl, hd⟩, hn, fun m hm => (hs m hm).2⟩
      · rintro ⟨⟨hm, hd⟩, -, hs⟩
        exact ⟨hd, fun m hm' => ⟨fun e => hm (e ▸ hm'), hs m hm'⟩⟩

theorem Algorithm.check_eq_ok_iff (a : Algorithm) : a.check = .ok () ↔ a.DistinctMembers := by
  rw [Algorithm.check, firstClash_eq_ok_iff]
  simp [Algorithm.members, Algorithm.DistinctMembers, Function.comp_def]

instance : Vetted Variable := ⟨Variable.NoZeroExtent, Variable.check_eq_ok_iff⟩

instance : Vetted Function := ⟨fun _ => True, fun _ => by simp [Named.check]⟩

instance : Vetted Algorithm := ⟨Algorithm.DistinctMembers, Algorithm.check_eq_ok_iff⟩

namespace NamedList

variable {α : Type}

/-! ## Items by name -/

@[simp] theorem toList_empty : (empty : NamedList α).toList = [] := rfl

@[simp] theorem names_empty : (empty : NamedList α).names = [] := rfl

theorem position?_eq_none_iff {l : NamedList α} {name : String} :
    l.position? name = none ↔ name ∉ l.names := by
  rw [position?, List.findIdx?_eq_none_iff]
  constructor
  · intro h hm
    simpa using h name hm
  · rintro h other ho
    refine beq_eq_false_iff_ne.2 ?_
    rintro rfl
    exact h ho

theorem lt_of_position? {l : NamedList α} {name : String} {place : Nat}
    (h : l.position? name = some place) : place < l.length := by
  obtain ⟨inside, -⟩ := List.findIdx?_eq_some_iff_getElem.1 h
  rwa [names, List.length_map] at inside

theorem getElem?_of_position? {l : NamedList α} {name : String} {place : Nat}
    (h : l.position? name = some place) : l.names[place]? = some name := by
  obtain ⟨hlt, hp, -⟩ := List.findIdx?_eq_some_iff_getElem.1 h
  rw [List.getElem?_eq_getElem hlt, eq_of_beq hp]

/-- When names are distinct, a position is found from the name that stands there. -/
theorem position?_of_getElem? {l : NamedList α} (hd : l.names.Nodup) {name : String} {place : Nat}
    (h : l.names[place]? = some name) : l.position? name = some place := by
  cases hp : l.position? name with
  | none => exact absurd (List.mem_of_getElem? h) (position?_eq_none_iff.1 hp)
  | some other =>
    have ho := getElem?_of_position? hp
    obtain ⟨h1, e1⟩ := List.getElem?_eq_some_iff.1 h
    obtain ⟨h2, e2⟩ := List.getElem?_eq_some_iff.1 ho
    have he : l.names[other] = l.names[place] := e2.trans e1.symm
    rw [hd.getElem_inj_iff.1 he]

/-- What a look-up finds is one of the items. -/
theorem mem_of_get? {l : NamedList α} {name : String} {item : α} (h : l.get? name = some item) :
    (name, item) ∈ l.entries := by
  obtain ⟨before, after, he, -⟩ := List.lookup_eq_some_iff.1 h
  rw [he]
  exact List.mem_append_right _ List.mem_cons_self

theorem mem_toList_of_get? {l : NamedList α} {name : String} {item : α}
    (h : l.get? name = some item) : item ∈ l.toList :=
  List.mem_map.2 ⟨(name, item), mem_of_get? h, rfl⟩

/-! ## Letting items in -/

variable [Named α] [Vetted α]

/-- An item is let in when its name is an identifier, it is sound, and its name stands nowhere but
possibly at the place that the item takes. -/
theorem vet_eq_ok_iff {l : NamedList α} {item : α} {place : Option Nat} :
    l.vet item place = .ok () ↔
      isIdentifier (Named.name item) = true ∧ Vetted.Sound item ∧
        ∀ other, l.position? (Named.name item) = some other → some other = place := by
  have hname : checkName (Named.kind α) (Named.name item) = .ok () ↔
      isIdentifier (Named.name item) = true := checkName_eq_ok_iff
  rw [← hname, ← Vetted.check_eq_ok_iff, vet]
  cases checkName (Named.kind α) (Named.name item) with
  | error e => simp
  | ok =>
    cases Named.check item with
    | error e => simp
    | ok =>
      cases l.position? (Named.name item) with
      | none => simp
      | some other =>
        by_cases h : some other = place
        · subst h
          simp
        · simp [h]

theorem vet_none_eq_ok_iff {l : NamedList α} {item : α} :
    l.vet item none = .ok () ↔
      isIdentifier (Named.name item) = true ∧ Vetted.Sound item ∧ Named.name item ∉ l.names := by
  rw [vet_eq_ok_iff, ← position?_eq_none_iff]
  simp [Option.eq_none_iff_forall_ne_some]

/-- A successful insertion adds the item at the end, under its name. -/
theorem insert_eq_ok_iff {l l' : NamedList α} {item : α} :
    l.insert item = .ok l' ↔
      isIdentifier (Named.name item) = true ∧ Vetted.Sound item ∧ Named.name item ∉ l.names ∧
        l' = ⟨l.entries ++ [(Named.name item, item)]⟩ := by
  rw [insert]
  cases h : l.vet item none with
  | error e =>
    simp only [reduceCtorEq, false_iff]
    rintro ⟨h1, h2, h3, -⟩
    rw [vet_none_eq_ok_iff.2 ⟨h1, h2, h3⟩] at h
    exact absurd h (by simp)
  | ok =>
    obtain ⟨h1, h2, h3⟩ := vet_none_eq_ok_iff.1 h
    simp [h1, h2, h3, eq_comm]

omit [Vetted α] in
/-- What is taken out and put back changed stands where it stood, and nothing else moves. -/
theorem insertAt_removeAt {l : NamedList α} {place : Nat} (h : place < l.length) (item : α) :
    (l.removeAt place).insertAt place item = ⟨l.entries.set place (Named.name item, item)⟩ := by
  have inside : place ≠ l.entries.length := Nat.ne_of_lt h
  rw [removeAt, insertAt, List.insertIdx_eraseIdx_self inside]

/-- A successful update replaces one item in its place by what the change makes of it. -/
theorem update_eq_ok {l l' : NamedList α} {name : String} {change : α → α}
    (h : l.update name change = .ok l') :
    ∃ place item, l.position? name = some place ∧ l.get? name = some item ∧
      isIdentifier (Named.name (change item)) = true ∧ Vetted.Sound (change item) ∧
      (∀ other, l.position? (Named.name (change item)) = some other → other = place) ∧
      l' = ⟨l.entries.set place (Named.name (change item), change item)⟩ := by
  rw [update] at h
  split at h
  · rename_i place item hp hg
    cases hv : l.vet (change item) (some place) with
    | error e => simp [hv] at h
    | ok =>
      simp only [hv, Except.ok.injEq] at h
      obtain ⟨h1, h2, h3⟩ := vet_eq_ok_iff.1 hv
      rw [insertAt_removeAt (lt_of_position? hp)] at h
      exact ⟨place, item, hp, hg, h1, h2, fun o ho => by simpa using h3 o ho, h.symm⟩
  · exact absurd h (by simp)

omit [Vetted α] in
/-- Successful insertions one after another: of the first item, and then of the others. -/
theorem insertAll_cons_eq_ok {l l' : NamedList α} {item : α} {items : List α}
    (h : l.insertAll (item :: items) = .ok l') :
    ∃ next, l.insert item = .ok next ∧ next.insertAll items = .ok l' := by
  rw [insertAll] at h
  cases hi : l.insert item with
  | error e =>
    rw [hi] at h
    cases h
  | ok next =>
    rw [hi] at h
    exact ⟨next, rfl, h⟩

/-! ## The invariant -/

/-- What holds of every collection at any time. -/
structure Valid (l : NamedList α) : Prop where
  /-- Every item is filed under its own name. -/
  filed : ∀ entry ∈ l.entries, entry.1 = Named.name entry.2
  /-- No two items have the same name. -/
  distinct : l.names.Nodup
  /-- Every name is an identifier. -/
  named : ∀ name ∈ l.names, isIdentifier name = true
  /-- Every item is sound. -/
  sound : ∀ item ∈ l.toList, Vetted.Sound item

theorem valid_empty : (empty : NamedList α).Valid :=
  ⟨by simp [empty], by simp, by simp, by simp⟩

/-- The names of a valid collection are those of its items. -/
theorem Valid.names_eq {l : NamedList α} (hl : l.Valid) : l.names = l.toList.map Named.name := by
  rw [names, toList, List.map_map]
  exact List.map_congr_left hl.filed

theorem Valid.isIdentifier_name {l : NamedList α} (hl : l.Valid) {item : α}
    (h : item ∈ l.toList) : isIdentifier (Named.name item) = true := by
  refine hl.named _ ?_
  rw [hl.names_eq]
  exact List.mem_map.2 ⟨item, h, rfl⟩

theorem Valid.insert {l l' : NamedList α} {item : α} (hl : l.Valid) (h : l.insert item = .ok l') :
    l'.Valid := by
  obtain ⟨hname, hsound, hnew, rfl⟩ := insert_eq_ok_iff.1 h
  refine ⟨?_, ?_, ?_, ?_⟩
  · intro entry he
    rcases List.mem_append.1 he with he | he
    · exact hl.filed entry he
    · rw [List.mem_singleton.1 he]
  · rw [names, List.map_append, List.nodup_append]
    refine ⟨hl.distinct, by simp, ?_⟩
    rintro name hm _ hi rfl
    obtain rfl : name = Named.name item := by simpa using hi
    exact hnew hm
  · intro name hm
    rcases List.mem_append.1 (by simpa [names] using hm :
      name ∈ l.names ++ [Named.name item]) with hm | hm
    · exact hl.named name hm
    · rw [List.mem_singleton.1 hm]
      exact hname
  · intro other ho
    rcases List.mem_append.1 (by simpa [toList] using ho : other ∈ l.toList ++ [item]) with ho | ho
    · exact hl.sound other ho
    · rw [List.mem_singleton.1 ho]
      exact hsound

/-- A list without repetitions has none after one element was replaced by one that stands nowhere
else. -/
theorem nodup_set {names : List String} {place : Nat} {name : String} (hd : names.Nodup)
    (hn : ∀ other, names[other]? = some name → other = place) : (names.set place name).Nodup := by
  rw [List.nodup_iff_getElem?_ne_getElem?]
  intro i j hij hj
  rw [List.length_set] at hj
  have hne := (List.nodup_iff_getElem?_ne_getElem?.1 hd) i j hij hj
  rw [List.getElem?_set, List.getElem?_set]
  by_cases hi : place = i
  · subst hi
    rw [if_pos rfl, if_pos (by omega), if_neg (by omega)]
    intro e
    exact absurd (hn j e.symm) (by omega)
  · rw [if_neg hi]
    by_cases hpj : place = j
    · subst hpj
      rw [if_pos rfl, if_pos hj]
      intro e
      exact absurd (hn i e) (by omega)
    · rw [if_neg hpj]
      exact hne

theorem Valid.update {l l' : NamedList α} {name : String} {change : α → α} (hl : l.Valid)
    (h : l.update name change = .ok l') : l'.Valid := by
  obtain ⟨place, item, -, -, hname, hsound, hother, rfl⟩ := update_eq_ok h
  refine ⟨?_, ?_, ?_, ?_⟩
  · intro entry he
    rcases List.mem_or_eq_of_mem_set he with he | rfl
    · exact hl.filed entry he
    · rfl
  · rw [names, List.map_set]
    refine nodup_set hl.distinct fun other ho => hother other ?_
    exact position?_of_getElem? hl.distinct ho
  · intro n hm
    rw [names, List.map_set] at hm
    rcases List.mem_or_eq_of_mem_set hm with hm | rfl
    · exact hl.named n hm
    · exact hname
  · intro other ho
    rw [toList, List.map_set] at ho
    rcases List.mem_or_eq_of_mem_set ho with ho | rfl
    · exact hl.sound other ho
    · exact hsound

theorem Valid.insertAll {l l' : NamedList α} {items : List α} (hl : l.Valid)
    (h : l.insertAll items = .ok l') : l'.Valid := by
  induction items generalizing l with
  | nil =>
    obtain rfl : l = l' := by simpa [NamedList.insertAll] using h
    exact hl
  | cons item items ih =>
    obtain ⟨next, hi, h⟩ := insertAll_cons_eq_ok h
    exact ih (hl.insert hi) h

/-- The items of a collection after a successful update: one of them is what the change makes of the
item that had the name. -/
theorem mem_toList_of_update {l l' : NamedList α} {name : String} {change : α → α} {other : α}
    (h : l.update name change = .ok l') (hm : other ∈ l'.toList) :
    other ∈ l.toList ∨ ∃ item, l.get? name = some item ∧ other = change item := by
  obtain ⟨place, item, -, hg, -, -, -, rfl⟩ := update_eq_ok h
  rw [toList, List.map_set] at hm
  rcases List.mem_or_eq_of_mem_set hm with hm | rfl
  · exact Or.inl hm
  · exact Or.inr ⟨item, hg, rfl⟩

/-- A valid collection is what its items make when they are added in their order. -/
theorem insertAll_entries {before after : List (String × α)} (h : Valid ⟨before ++ after⟩) :
    insertAll ⟨before⟩ (after.map Prod.snd) = .ok ⟨before ++ after⟩ := by
  induction after generalizing before with
  | nil => simp [insertAll]
  | cons entry after ih =>
    obtain ⟨name, item⟩ := entry
    have hmem : (name, item) ∈ before ++ (name, item) :: after :=
      List.mem_append_right _ List.mem_cons_self
    have hfiled : name = Named.name item := h.filed (name, item) hmem
    have hin : name ∈ (⟨before ++ (name, item) :: after⟩ : NamedList α).names :=
      List.mem_map.2 ⟨(name, item), hmem, rfl⟩
    have hnew : name ∉ (⟨before⟩ : NamedList α).names := by
      have hd := h.distinct
      rw [names, List.map_append, List.nodup_append] at hd
      exact fun hb => hd.2.2 name hb name (by simp) rfl
    have hinsert : insert ⟨before⟩ item = .ok ⟨before ++ [(name, item)]⟩ := by
      refine insert_eq_ok_iff.2 ⟨hfiled ▸ h.named name hin, h.sound item ?_, hfiled ▸ hnew, ?_⟩
      · exact List.mem_map.2 ⟨(name, item), hmem, rfl⟩
      · rw [hfiled]
    rw [List.map_cons, insertAll, hinsert]
    have hsplit : before ++ (name, item) :: after = before ++ [(name, item)] ++ after := by simp
    rw [hsplit] at h ⊢
    exact ih h

theorem insertAll_toList {l : NamedList α} (h : l.Valid) : empty.insertAll l.toList = .ok l :=
  @insertAll_entries α _ _ [] l.entries h

theorem toList_insert {l l' : NamedList α} {item : α} (h : l.insert item = .ok l') :
    l'.toList = l.toList ++ [item] := by
  obtain ⟨-, -, -, rfl⟩ := insert_eq_ok_iff.1 h
  simp [toList]

theorem toList_insertAll {l l' : NamedList α} {items : List α} (h : l.insertAll items = .ok l') :
    l'.toList = l.toList ++ items := by
  induction items generalizing l with
  | nil =>
    obtain rfl : l = l' := by simpa [NamedList.insertAll] using h
    simp
  | cons item items ih =>
    obtain ⟨next, hi, h⟩ := insertAll_cons_eq_ok h
    rw [ih h, toList_insert hi]
    simp

end NamedList

end AlgorithmDriver
