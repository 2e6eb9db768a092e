import AlgorithmDriver.Proofs.Model.Collection
import AlgorithmDriver.Workbench

/-!
# Collections as plain lists

A collection finds its items by name and keeps them in their order.  Both can be said of a plain
list of items with distinct names, which knows nothing of the names under which items are filed: an
insertion puts an item at the end, a change replaces an item where it stands, and a call that fails
leaves everything as it was.

* `Sequence.objection?` — why an item is not let in, and `Sequence.perform` — what a call does to a
  list.
* `NamedList.Represents.perform` — a call does the same to a collection and to the list that the
  collection represents.
* Main result: `NamedList.performAll_eq` — after any calls in any order, a collection answers
  everything as the list does.
-/

namespace AlgorithmDriver

variable {α : Type}

/-- A call that can change a collection. -/
inductive Call (α : Type) where
  | insert (item : α)
  /-- Changes the item called `name` in any way, its name included. -/
  | update (name : String) (change : α → α)

/-- Makes calls one after another, and collects the answers. -/
def performAll {σ : Type} (perform : σ → Call α → σ × Except ModelError Unit) (start : σ) :
    List (Call α) → σ × List (Except ModelError Unit)
  | [] => (start, [])
  | call :: calls =>
    let (next, answer) := perform start call
    let (last, answers) := performAll perform next calls
    (last, answer :: answers)

variable [Named α]

/-- A call on a collection, which is left as it was when the call fails. -/
def NamedList.perform (l : NamedList α) : Call α → NamedList α × Except ModelError Unit
  | .insert item => Workbench.outcome l (l.insert item)
  | .update name change => Workbench.outcome l (l.update name change)

/-! ## Plain lists -/

namespace Sequence

/-- The names of the items. -/
def names (items : List α) : List String := items.map Named.name

theorem perm_names_middle {before after : List α} {item : α} :
    (names (before ++ item :: after)).Perm (Named.name item :: names (before ++ after)) := by
  simp only [names, List.map_append, List.map_cons]
  exact List.perm_middle

/-- The first reason why an item cannot stand beside others of the given names. -/
def objection? (others : List String) (item : α) : Option ModelError :=
  if Named.name item = "" then some (.emptyName (Named.kind α))
  else if isIdentifier (Named.name item) = false then
    some (.invalidName (Named.kind α) (Named.name item))
  else
    match Named.check item with
    | .error e => some e
    | .ok () =>
      if Named.name item ∈ others then some (.duplicateName (Named.kind α) (Named.name item))
      else none

/-- A call on a list.  An item that is changed stands beside all the other ones. -/
def perform (items : List α) : Call α → List α × Except ModelError Unit
  | .insert item =>
    match objection? (names items) item with
    | some e => (items, .error e)
    | none => (items ++ [item], .ok ())
  | .update name change =>
    let before := items.takeWhile fun item => Named.name item != name
    match items.dropWhile fun item => Named.name item != name with
    | [] => (items, .error (.undefined (Named.kind α) name))
    | item :: after =>
      match objection? (names (before ++ after)) (change item) with
      | some e => (items, .error e)
      | none => (before ++ change item :: after, .ok ())

/-- An item that there is no objection to has a name of its own. -/
theorem not_mem_of_objection? {others : List String} {item : α}
    (h : objection? others item = none) : Named.name item ∉ others := by
  unfold objection? at h
  intro mem
  split at h
  · cases h
  · split at h
    · cases h
    · split at h
      · cases h
      · cases h

/-- Either no item of a list has the name, or there is a first one. -/
theorem first_cases (items : List α) (name : String) :
    (name ∉ names items ∧ items.dropWhile (fun item => Named.name item != name) = []) ∨
      ∃ before item after, items = before ++ item :: after ∧ Named.name item = name ∧
        items.takeWhile (fun item => Named.name item != name) = before ∧
        items.dropWhile (fun item => Named.name item != name) = item :: after := by
  induction items with
  | nil => exact .inl ⟨List.not_mem_nil, rfl⟩
  | cons first rest ih =>
    by_cases h : Named.name first = name
    · refine .inr ⟨[], first, rest, rfl, h, ?_, ?_⟩
      · simp [h]
      · simp [h]
    · rcases ih with ⟨absent, rest⟩ | ⟨before, item, after, rfl, found, taken, dropped⟩
      · refine .inl ⟨?_, ?_⟩
        · simpa [names, Ne.symm h] using absent
        · simpa [h] using rest
      · refine .inr ⟨first :: before, item, after, rfl, found, ?_, ?_⟩
        · simpa [h] using taken
        · simpa [h] using dropped

end Sequence

/-! ## Representing a list -/

namespace NamedList

open Sequence

/-- The collection holds the items of the list in their order, each filed under its name. -/
structure Represents (l : NamedList α) (items : List α) : Prop where
  entries : l.entries = items.map fun item => (Named.name item, item)
  distinct : (Sequence.names items).Nodup

theorem represents_empty : (empty : NamedList α).Represents [] := ⟨rfl, List.nodup_nil⟩

namespace Represents

variable {l : NamedList α} {items : List α}

theorem toList (h : l.Represents items) : l.toList = items := by
  rw [NamedList.toList, h.entries, List.map_map]
  exact List.map_id items

theorem names (h : l.Represents items) : l.names = Sequence.names items := by
  rw [NamedList.names, h.entries, List.map_map]
  rfl

theorem length (h : l.Represents items) : l.length = items.length := by
  rw [NamedList.length, h.entries, List.length_map]

theorem isEmpty (h : l.Represents items) : l.isEmpty = items.isEmpty := by
  rw [NamedList.isEmpty, h.entries, List.isEmpty_map]

/-- What is found by its name is the one item that has the name. -/
theorem get? (h : l.Represents items) (name : String) :
    l.get? name = items.find? fun item => Named.name item == name := by
  rw [NamedList.get?, h.entries]
  clear h
  induction items with
  | nil => rfl
  | cons first rest ih =>
    rw [List.map_cons, List.lookup_cons, List.find?_cons, ih]
    by_cases found : Named.name first = name
    · simp [found]
    · rw [beq_false_of_ne found, beq_false_of_ne (Ne.symm found)]

theorem contains (h : l.Represents items) (name : String) :
    l.contains name = items.any fun item => Named.name item == name := by
  rw [NamedList.contains, h.names, Bool.eq_iff_iff, List.contains_iff_mem, List.any_eq_true,
    Sequence.names, List.mem_map]
  simp only [beq_iff_eq]

/-- The position of an item in the list is the position of its name. -/
theorem position? {before after : List α} {item : α}
    (h : l.Represents (before ++ item :: after)) :
    l.position? (Named.name item) = some before.length := by
  refine position?_of_getElem? ?_ ?_
  · rw [h.names]
    exact h.distinct
  · rw [h.names, Sequence.names, List.map_append, List.map_cons]
    have bound : (before.map (Named.name : α → String)).length ≤ before.length := by simp
    rw [List.getElem?_append_right bound]
    simp

/-- The one item of a name in a list of items with distinct names. -/
theorem get?_item {before after : List α} {item : α}
    (h : l.Represents (before ++ item :: after)) : l.get? (Named.name item) = some item := by
  have absent : ∀ other ∈ before, Named.name other ≠ Named.name item := by
    have distinct := h.distinct
    rw [Sequence.names, List.map_append, List.nodup_append] at distinct
    intro other mem
    exact distinct.2.2 _ (List.mem_map_of_mem mem) _ (by simp)
  rw [h.get?, List.find?_append, List.find?_eq_none.2 (by simpa using absent)]
  simp

end Represents

/-! ## Letting items in -/

/-- A collection objects to an item as the list of those names does that stand at other places. -/
theorem vet_eq {l : NamedList α} {item : α} {place : Option Nat} {others : List String}
    (elsewhere : (∃ other, l.position? (Named.name item) = some other ∧ some other ≠ place) ↔
      Named.name item ∈ others) :
    l.vet item place =
      match objection? others item with
      | some e => .error e
      | none => .ok () := by
  rw [vet, objection?, checkName]
  by_cases blank : Named.name item = ""
  · simp [blank]
  · by_cases spelled : isIdentifier (Named.name item) = true
    · simp only [if_neg blank, spelled, if_true, Bool.true_eq_false, if_false]
      cases Named.check item with
      | error e => rfl
      | ok =>
        cases found : l.position? (Named.name item) with
        | none =>
          have absent : Named.name item ∉ others := by
            rw [← elsewhere, found]
            simp
          simp [absent]
        | some other =>
          by_cases same : some other = place
          · have absent : Named.name item ∉ others := by
              rw [← elsewhere, found]
              rintro ⟨_, ⟨⟩, different⟩
              exact different same
            simp [same, absent]
          · have present : Named.name item ∈ others := elsewhere.1 ⟨other, found, same⟩
            simp [same, present]
    · simp [blank, spelled]

namespace Represents

variable {l : NamedList α} {items : List α}

theorem vet_new (h : l.Represents items) (item : α) :
    l.vet item none =
      match objection? (Sequence.names items) item with
      | some e => .error e
      | none => .ok () := by
  refine vet_eq ?_
  rw [← h.names]
  cases found : l.position? (Named.name item) with
  | none =>
    have absent := position?_eq_none_iff.1 found
    simp [absent]
  | some other =>
    have present := List.mem_of_getElem? (getElem?_of_position? found)
    simp [present]

/-- An item that takes the place of another one only has to differ in its name from the others. -/
theorem vet_place {before after : List α} {old : α} (h : l.Represents (before ++ old :: after))
    (item : α) :
    l.vet item (some before.length) =
      match objection? (Sequence.names (before ++ after)) item with
      | some e => .error e
      | none => .ok () := by
  refine vet_eq ⟨?_, ?_⟩
  · rintro ⟨other, found, different⟩
    have stands := getElem?_of_position? found
    rw [h.names] at stands
    have mem := List.mem_of_getElem? stands
    simp only [Sequence.names, List.map_append, List.map_cons, List.mem_append,
      List.mem_cons] at mem ⊢
    rcases mem with mem | same | mem
    · exact .inl mem
    · rw [same, h.position?] at found
      exact absurd found.symm different
    · exact .inr mem
  · intro mem
    have differs : Named.name item ≠ Named.name old := by
      rintro same
      have once := (List.Perm.nodup_iff perm_names_middle).1 h.distinct
      exact (List.nodup_cons.1 once).1 (same ▸ mem)
    have present : Named.name item ∈ l.names := by
      rw [h.names]
      simp only [Sequence.names, List.map_append, List.map_cons, List.mem_append,
        List.mem_cons] at mem ⊢
      tauto
    cases found : l.position? (Named.name item) with
    | none => exact absurd present (position?_eq_none_iff.1 found)
    | some other =>
      refine ⟨other, rfl, ?_⟩
      rintro ⟨⟩
      have first := getElem?_of_position? found
      have second := getElem?_of_position? h.position?
      exact differs (Option.some.inj (first.symm.trans second))

/-! ## Calls -/

/-- A call does the same to a collection as to the list that the collection represents. -/
theorem perform (h : l.Represents items) (call : Call α) :
    (l.perform call).1.Represents (Sequence.perform items call).1 ∧
      (l.perform call).2 = (Sequence.perform items call).2 := by
  cases call with
  | insert item =>
    simp only [NamedList.perform, NamedList.insert, Sequence.perform, h.vet_new item]
    cases objected : objection? (Sequence.names items) item with
    | some e => exact ⟨h, rfl⟩
    | none =>
      refine ⟨⟨?_, ?_⟩, rfl⟩
      · simp only [Workbench.outcome, h.entries, List.map_append, List.map_singleton]
      · have new := not_mem_of_objection? objected
        simp only [Sequence.names, List.map_append, List.map_singleton, List.nodup_append]
        refine ⟨h.distinct, List.nodup_singleton _, ?_⟩
        rintro name mem _ same rfl
        exact new (List.mem_singleton.1 same ▸ mem)
  | update name change =>
    rcases first_cases items name with ⟨absent, rest⟩ | ⟨before, old, after, rfl, rfl, taken, rest⟩
    · have unknown : l.position? name = none := by
        rw [position?_eq_none_iff, h.names]
        exact absent
      simp only [NamedList.perform, NamedList.update, unknown, Sequence.perform, rest]
      exact ⟨h, rfl⟩
    · have place := lt_of_position? h.position?
      simp only [NamedList.perform, NamedList.update, h.position?, h.get?_item, h.vet_place,
        insertAt_removeAt place, Sequence.perform, taken, rest]
      cases objected : objection? (Sequence.names (before ++ after)) (change old) with
      | some e => exact ⟨h, rfl⟩
      | none =>
        refine ⟨⟨?_, ?_⟩, rfl⟩
        · simp [Workbench.outcome, h.entries, List.map_append]
        · have new := not_mem_of_objection? objected
          have others :=
            (List.nodup_cons.1 ((List.Perm.nodup_iff perm_names_middle).1 h.distinct)).2
          exact (List.Perm.nodup_iff perm_names_middle).2 (List.nodup_cons.2 ⟨new, others⟩)

/-- An item that was changed to another name is not found under the old one any more. -/
theorem get?_renamed (h : l.Represents items) {name : String} {change : α → α} {item : α}
    (found : l.get? name = some item) (renamed : Named.name (change item) ≠ name)
    (success : (l.perform (.update name change)).2 = .ok ()) :
    (l.perform (.update name change)).1.get? name = none := by
  obtain ⟨next, answer⟩ := h.perform (.update name change)
  rw [next.get?, List.find?_eq_none]
  rw [answer] at success
  rcases first_cases items name with ⟨absent, rest⟩ | ⟨before, old, after, rfl, rfl, taken, rest⟩
  · simp [Sequence.perform, rest] at success
  · obtain rfl : old = item := Option.some.inj (h.get?_item.symm.trans found)
    simp only [Sequence.perform, taken, rest] at success ⊢
    cases objected : objection? (Sequence.names (before ++ after)) (change old) with
    | some e => simp [objected] at success
    | none =>
      have others := List.nodup_cons.1 ((List.Perm.nodup_iff perm_names_middle).1 h.distinct)
      intro other mem same
      rcases List.mem_append.1 mem with mem | mem
      · refine others.1 (List.mem_map.2 ⟨other, List.mem_append_left after mem, ?_⟩)
        exact beq_iff_eq.1 same
      · rcases List.mem_cons.1 mem with rfl | mem
        · exact renamed (beq_iff_eq.1 same)
        · refine others.1 (List.mem_map.2 ⟨other, List.mem_append_right before mem, ?_⟩)
          exact beq_iff_eq.1 same

theorem performAll (h : l.Represents items) (calls : List (Call α)) :
    (performAll NamedList.perform l calls).1.Represents
        (performAll Sequence.perform items calls).1 ∧
      (performAll NamedList.perform l calls).2 = (performAll Sequence.perform items calls).2 := by
  induction calls generalizing l items with
  | nil => exact ⟨h, rfl⟩
  | cons call calls ih =>
    obtain ⟨next, answer⟩ := h.perform call
    obtain ⟨last, answers⟩ := ih next
    refine ⟨last, ?_⟩
    simp only [AlgorithmDriver.performAll, answer, answers]

end Represents

/-- **Collections are lists.**  After any calls in any order, the empty collection having answered
them as the empty list does, everything that can be asked is answered from the list: its items in
their order, their names, how many there are, and which one has a name.  No two items of the list
have the same name, so an item that was changed to another name is not found under the old one. -/
theorem performAll_eq (calls : List (Call α)) :
    let l := AlgorithmDriver.performAll NamedList.perform empty calls
    let items := AlgorithmDriver.performAll Sequence.perform [] calls
    l.2 = items.2 ∧
      l.1.toList = items.1 ∧
      l.1.names = items.1.map Named.name ∧
      l.1.length = items.1.length ∧
      l.1.isEmpty = items.1.isEmpty ∧
      (∀ name, l.1.get? name = items.1.find? fun item => Named.name item == name) ∧
      (∀ name, l.1.contains name = items.1.any fun item => Named.name item == name) ∧
      (items.1.map (Named.name : α → String)).Nodup ∧
      (∀ name change item, l.1.get? name = some item →
        (l.1.perform (.update name change)).2 = .ok () → Named.name (change item) ≠ name →
        (l.1.perform (.update name change)).1.get? name = none) := by
  intro l items
  obtain ⟨represents, answers⟩ := represents_empty.performAll calls
  refine ⟨answers, represents.toList, represents.names, represents.length, represents.isEmpty,
    represents.get?, represents.contains, represents.distinct, ?_⟩
  intro name change item found success renamed
  exact represents.get?_renamed found renamed success

/-- A variable is renamed, another one takes the name that became free, and one that would be
renamed to a name in use stays as it was. -/
example :
    let v (name : String) : Variable := { name, baseType := .int }
    let rename (name : String) (v : Variable) : Variable := { v with name }
    let calls := [.insert (v "a"), .insert (v "b"), .update "a" (rename "c"), .insert (v "a"),
      .update "b" (rename "c")]
    (performAll NamedList.perform empty calls).1.names = ["c", "b", "a"] ∧
      (performAll NamedList.perform empty calls).2.getLast? =
        some (.error (.duplicateName "variable" "c")) := by
  decide +kernel

end NamedList

end AlgorithmDriver
