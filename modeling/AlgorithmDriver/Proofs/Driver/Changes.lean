import AlgorithmDriver.Proofs.Driver.Table

/-!
# Tables and their history

A table forgets: of a resource that was closed nothing is left but the number of the next id.  Here
its contents are derived from its whole past, which is a list of changes: an id was issued, an entry
was closed, all entries were taken out.

* `Live` says of a past that an id was issued with a resource and not closed or drained since.  It
  does not mention the table.
* `Follows` says that a table is as its past tells: the next id counts the issued ones, the k-th id
  that was issued is `k`, the ids are in ascending order, and exactly the live ones are found, each
  with the resource it was issued with, up to what may happen to a resource by itself.
* Every change of a table keeps this (`Follows.change`), and so does whatever happens to the
  resources in it (`Follows.evolve`).
* What was issued and is not live will never be live again (`Follows.not_live_append`).
-/

namespace AlgorithmDriver.Table

variable {resource : Resource} {α β : Type}

/-! ## Entries and ids -/

@[simp] theorem get?_remove (t : Table resource α) (key id : Id resource) :
    (t.remove key).get? id = if id = key then none else t.get? id := by
  obtain ⟨next, entries⟩ := t
  show List.lookup id.raw (entries.filter _) = if id = key then none else entries.lookup id.raw
  induction entries with
  | nil => split <;> rfl
  | cons entry rest ih =>
    obtain ⟨raw, value⟩ := entry
    by_cases removed : raw = key.raw
    · rw [List.filter_cons_of_neg (by simp [removed]), ih]
      by_cases same : id = key
      · rw [if_pos same, if_pos same]
      · have apart : id.raw ≠ raw := by
          rintro h
          exact same (congrArg Id.mk (h.trans removed))
        rw [if_neg same, if_neg same, List.lookup_cons, beq_false_of_ne apart]
    · rw [List.filter_cons_of_pos (by simp [removed]), List.lookup_cons, List.lookup_cons, ih]
      by_cases found : id.raw = raw
      · have apart : id ≠ key := by
          rintro rfl
          exact removed found.symm
        simp [found, apart]
      · rw [beq_false_of_ne found]

theorem mem_entries_iff {t : Table resource α} (apart : (t.entries.map Prod.fst).Nodup)
    (id : Id resource) (value : α) : (id.raw, value) ∈ t.entries ↔ t.get? id = some value := by
  obtain ⟨next, entries⟩ := t
  show (id.raw, value) ∈ entries ↔ entries.lookup id.raw = some value
  induction entries with
  | nil => simp
  | cons entry rest ih =>
    obtain ⟨raw, first⟩ := entry
    obtain ⟨fresh, apart⟩ := List.nodup_cons.1 apart
    rw [List.mem_cons, List.lookup_cons, ih apart]
    by_cases found : id.raw = raw
    · have absent : rest.lookup raw ≠ some value := by
        intro h
        have mem : (id.raw, value) ∈ rest := (ih apart).2 (found ▸ h)
        rw [found] at mem
        exact fresh (List.mem_map.2 ⟨_, mem, rfl⟩)
      simp [found, absent, eq_comm]
    · simp [found, beq_false_of_ne found]

theorem mem_ids_iff (t : Table resource α) (id : Id resource) :
    id ∈ t.ids ↔ ∃ value, t.get? id = some value := by
  obtain ⟨next, entries⟩ := t
  unfold ids get?
  dsimp only
  induction entries with
  | nil => simp
  | cons entry rest ih =>
    obtain ⟨raw, value⟩ := entry
    rw [List.map_cons, List.mem_cons, List.lookup_cons, ih]
    by_cases found : id.raw = raw
    · have same : id = ⟨raw⟩ := congrArg Id.mk found
      simp [same]
    · have apart : id ≠ ⟨raw⟩ := by
        rintro rfl
        exact found rfl
      simp [apart, beq_false_of_ne found]

@[simp] theorem ids_insert (t : Table resource α) (value : α) :
    (t.insert value).2.ids = t.ids ++ [⟨t.next⟩] := by
  simp [ids, insert]

@[simp] theorem ids_set (t : Table resource α) (key : Id resource) (value : α) :
    (t.set key value).ids = t.ids := by
  simp [ids, set]

theorem ids_remove_sublist (t : Table resource α) (key : Id resource) :
    (t.remove key).ids.Sublist t.ids :=
  List.filter_sublist.map _

theorem mapAccum_go_keys (f : β → Id resource → α → α × β) (state : β) (entries : List (Nat × α)) :
    (mapAccum.go f state entries).1.map Prod.fst = entries.map Prod.fst := by
  induction entries generalizing state with
  | nil => rfl
  | cons entry rest ih =>
    obtain ⟨raw, value⟩ := entry
    exact congrArg (raw :: ·) (ih _)

@[simp] theorem ids_mapAccum (f : β → Id resource → α → α × β) (state : β) (t : Table resource α) :
    (t.mapAccum f state).1.ids = t.ids := by
  have keys := congrArg (List.map (@Id.mk resource)) (mapAccum_go_keys f state t.entries)
  rw [List.map_map, List.map_map] at keys
  exact keys

/-! ## Changes -/

/-- What can happen to a table. -/
inductive Change (resource : Resource) (α : Type) where
  /-- A resource was registered under an id. -/
  | issued (id : Id resource) (value : α)
  /-- A live entry was taken out. -/
  | closed (id : Id resource)
  /-- All entries were taken out. -/
  | drained

/-- One change of a table. -/
inductive Changes (t : Table resource α) : Change resource α → Table resource α → Prop
  | insert (value : α) : Changes t (.issued (t.insert value).1 value) (t.insert value).2
  | remove {id : Id resource} {value : α} (found : t.get? id = some value) :
      Changes t (.closed id) (t.remove id)
  | drain : Changes t .drained t.drain.2

namespace Change

variable {past future : List (Change resource α)} {id : Id resource} {value : α}

/-- The id that is issued by a change. -/
def issuedId? : Change resource α → Option (Id resource)
  | issued id _ => some id
  | _ => none

/-- The ids that were issued, in the order in which they were. -/
def issuedIds (past : List (Change resource α)) : List (Id resource) := past.filterMap issuedId?

theorem issuedIds_append (past future : List (Change resource α)) :
    issuedIds (past ++ future) = issuedIds past ++ issuedIds future :=
  List.filterMap_append

/-- The id was issued with the resource, and not closed or drained since. -/
def Live (past : List (Change resource α)) (id : Id resource) (value : α) : Prop :=
  ∃ before after, past = before ++ issued id value :: after ∧ closed id ∉ after ∧ drained ∉ after

theorem not_live_nil : ¬ Live ([] : List (Change resource α)) id value := by
  rintro ⟨before, after, h, _⟩
  exact List.append_ne_nil_of_right_ne_nil before (List.cons_ne_nil _ _) h.symm

/-- What is live after one more change. -/
theorem live_append_iff (change : Change resource α) :
    Live (past ++ [change]) id value ↔
      change = issued id value ∨ (Live past id value ∧ change ≠ closed id ∧ change ≠ drained) := by
  constructor
  · rintro ⟨before, after, h, notClosed, notDrained⟩
    rcases List.eq_nil_or_concat after with rfl | ⟨after, last, rfl⟩
    · obtain ⟨_, same⟩ := List.append_inj' h rfl
      exact .inl (List.singleton_inj.1 same)
    · rw [List.concat_eq_append] at h notClosed notDrained
      rw [← List.cons_append, ← List.append_assoc] at h
      obtain ⟨rfl, same⟩ := List.append_inj' h rfl
      obtain rfl := List.singleton_inj.1 same
      rw [List.mem_append, not_or, List.mem_singleton] at notClosed notDrained
      exact .inr ⟨⟨before, after, rfl, notClosed.1, notDrained.1⟩, Ne.symm notClosed.2,
        Ne.symm notDrained.2⟩
  · rintro (rfl | ⟨⟨before, after, rfl, notClosed, notDrained⟩, open', kept⟩)
    · exact ⟨past, [], rfl, List.not_mem_nil, List.not_mem_nil⟩
    · refine ⟨before, after ++ [change], by simp, ?_, ?_⟩
      · rw [List.mem_append, not_or, List.mem_singleton]
        exact ⟨notClosed, open'.symm⟩
      · rw [List.mem_append, not_or, List.mem_singleton]
        exact ⟨notDrained, kept.symm⟩

theorem Live.mem_issuedIds (live : Live past id value) : id ∈ issuedIds past := by
  obtain ⟨before, after, rfl, _⟩ := live
  rw [issuedIds_append]
  exact List.mem_append_right _ List.mem_cons_self

/-- What is live was live before, or was issued since. -/
theorem Live.of_append (live : Live (past ++ future) id value) :
    Live past id value ∨ id ∈ issuedIds future := by
  obtain ⟨before, after, h, notClosed, notDrained⟩ := live
  rcases List.append_eq_append_iff.1 h with ⟨between, rfl, rfl⟩ | ⟨between, rfl, rest⟩
  · right
    rw [issuedIds_append]
    exact List.mem_append_right _ List.mem_cons_self
  · cases between with
    | nil =>
      right
      obtain rfl : future = issued id value :: after := rest.symm
      exact List.mem_cons_self
    | cons first between =>
      obtain ⟨rfl, rfl⟩ := List.cons.inj rest
      rw [List.append_eq, List.mem_append, not_or] at notClosed notDrained
      exact .inl ⟨before, between, rfl, notClosed.1, notDrained.1⟩

/-- The k-th id that was issued is `k`. -/
def Numbered (past : List (Change resource α)) : Prop :=
  ∀ k id, (issuedIds past)[k]? = some id → id.raw = k + 1

theorem Numbered.raw_le (numbered : Numbered past) (h : id ∈ issuedIds past) :
    id.raw ≤ (issuedIds past).length := by
  obtain ⟨k, bound, rfl⟩ := List.mem_iff_getElem.1 h
  rw [numbered k _ (List.getElem?_eq_getElem bound)]
  exact bound

/-- No id is issued again. -/
theorem Numbered.not_mem_issuedIds (numbered : Numbered (past ++ future))
    (h : id ∈ issuedIds past) : id ∉ issuedIds future := by
  intro again
  obtain ⟨j, early, first⟩ := List.mem_iff_getElem.1 h
  obtain ⟨k, late, second⟩ := List.mem_iff_getElem.1 again
  have low := numbered j id (by
    rw [issuedIds_append, List.getElem?_append_left early, List.getElem?_eq_getElem early, first])
  have high := numbered ((issuedIds past).length + k) id (by
    rw [issuedIds_append, List.getElem?_append_right (Nat.le_add_right _ _),
      Nat.add_sub_cancel_left, List.getElem?_eq_getElem late, second])
  omega

/-- An id stands for one resource only. -/
theorem Numbered.issued_unique (numbered : Numbered past) {a b : α} (first : issued id a ∈ past)
    (second : issued id b ∈ past) : a = b := by
  obtain ⟨before, after, rfl⟩ := List.append_of_mem first
  have mem_ids {list : List (Change resource α)} {c : α} (mem : issued id c ∈ list) :
      id ∈ issuedIds list := List.mem_filterMap.2 ⟨_, mem, rfl⟩
  rcases List.mem_append.1 second with early | late
  · exact absurd (mem_ids List.mem_cons_self) (numbered.not_mem_issuedIds (mem_ids early))
  · rcases List.mem_cons.1 late with here | later
    · cases here
      rfl
    · rw [List.append_cons] at numbered
      have known := mem_ids (List.mem_append_right before (List.mem_singleton_self (issued id a)))
      exact absurd (mem_ids later) (numbered.not_mem_issuedIds known)

/-- What was issued and is not live will never be live again. -/
theorem Numbered.not_live_append (numbered : Numbered (past ++ future))
    (h : id ∈ issuedIds past) (gone : ∀ value, ¬ Live past id value) (value : α) :
    ¬ Live (past ++ future) id value := by
  intro live
  rcases live.of_append with live | again
  · exact gone value live
  · exact numbered.not_mem_issuedIds h again

end Change

/-! ## Tables that are as their past tells -/

/-- What happens to the resources of a table while none is added or taken out. -/
structure Evolves (R : α → α → Prop) (t t' : Table resource α) : Prop where
  next : t'.next = t.next
  ids : t'.ids = t.ids
  each : ∀ id value, t.get? id = some value → ∃ value', t'.get? id = some value' ∧ R value value'

theorem Evolves.refl {R : α → α → Prop} (refl : ∀ value, R value value) (t : Table resource α) :
    t.Evolves R t where
  next := rfl
  ids := rfl
  each _ value h := ⟨value, h, refl value⟩

/-- One of the resources changes. -/
theorem Evolves.set {R : α → α → Prop} (refl : ∀ value, R value value) (t : Table resource α)
    {key : Id resource} {old new : α} (found : t.get? key = some old) (changed : R old new) :
    t.Evolves R (t.set key new) where
  next := rfl
  ids := ids_set t key new
  each id value h := by
    rw [get?_set]
    by_cases same : id = key
    · subst same
      obtain rfl : old = value := Option.some.inj (found.symm.trans h)
      exact ⟨new, by rw [if_pos rfl, h]; rfl, changed⟩
    · exact ⟨value, by rw [if_neg same, h], refl value⟩

/-- The table is as its past tells.  Since it was registered, a resource may have changed as `R`
allows. -/
structure Follows (R : α → α → Prop) (t : Table resource α) (past : List (Change resource α)) :
    Prop where
  next : t.next = (Change.issuedIds past).length + 1
  numbered : Change.Numbered past
  ascending : t.ids.Pairwise fun a b => a.raw < b.raw
  found : ∀ id value, t.get? id = some value → ∃ first, Change.Live past id first ∧ R first value
  live : ∀ id first, Change.Live past id first → ∃ value, t.get? id = some value ∧ R first value

namespace Follows

variable {R : α → α → Prop} {t t' : Table resource α} {past : List (Change resource α)}

theorem empty (R : α → α → Prop) : (empty : Table resource α).Follows R [] where
  next := rfl
  numbered _ _ h := nomatch h
  ascending := .nil
  found _ _ h := nomatch h
  live _ _ h := absurd h Change.not_live_nil

theorem issued (follows : t.Follows R past) : t.Issued := by
  intro id value h
  obtain ⟨first, live, _⟩ := follows.found id value h
  rw [follows.next]
  exact Nat.lt_succ_of_le (follows.numbered.raw_le live.mem_issuedIds)

/-- Exactly the live ids are listed. -/
theorem mem_ids_iff (follows : t.Follows R past) (id : Id resource) :
    id ∈ t.ids ↔ ∃ first, Change.Live past id first := by
  rw [Table.mem_ids_iff]
  constructor
  · rintro ⟨value, h⟩
    obtain ⟨first, live, _⟩ := follows.found id value h
    exact ⟨first, live⟩
  · rintro ⟨first, live⟩
    obtain ⟨value, h, _⟩ := follows.live id first live
    exact ⟨value, h⟩

/-- Nothing is found under an id that is not live. -/
theorem get?_eq_none (follows : t.Follows R past) {id : Id resource}
    (gone : ∀ first, ¬ Change.Live past id first) : t.get? id = none := by
  cases h : t.get? id with
  | none => rfl
  | some value =>
    obtain ⟨first, live, _⟩ := follows.found id value h
    exact absurd live (gone first)

theorem insert (follows : t.Follows R past) (refl : ∀ value, R value value) (value : α) :
    (t.insert value).2.Follows R (past ++ [.issued (t.insert value).1 value]) where
  next := by
    rw [next_insert, follows.next, Change.issuedIds_append, List.length_append]
    rfl
  numbered k id h := by
    have ids : Change.issuedIds (past ++ [.issued (t.insert value).1 value]) =
        Change.issuedIds past ++ [⟨t.next⟩] := Change.issuedIds_append _ _
    rw [ids] at h
    by_cases old : k < (Change.issuedIds past).length
    · rw [List.getElem?_append_left old] at h
      exact follows.numbered k id h
    · rw [List.getElem?_append_right (Nat.le_of_not_lt old)] at h
      obtain ⟨bound, rfl⟩ := List.getElem?_eq_some_iff.1 h
      have last : k = (Change.issuedIds past).length := by
        have single : k - (Change.issuedIds past).length < 1 := bound
        omega
      subst last
      simp [follows.next]
  ascending := by
    rw [ids_insert, List.pairwise_append]
    refine ⟨follows.ascending, List.pairwise_singleton _ _, ?_⟩
    intro a mem b new
    obtain ⟨old, h⟩ := (Table.mem_ids_iff t a).1 mem
    rw [List.mem_singleton.1 new]
    exact follows.issued a old h
  found id new h := by
    rw [get?_insert] at h
    rcases Option.or_eq_some_iff.1 h with old | ⟨_, fresh⟩
    · obtain ⟨first, live, since⟩ := follows.found id new old
      exact ⟨first, (Change.live_append_iff _).2 (.inr ⟨live, by simp, by simp⟩), since⟩
    · split at fresh
      · rename_i same
        obtain rfl := Option.some.inj fresh
        obtain rfl : id = ⟨t.next⟩ := congrArg Id.mk same
        exact ⟨value, (Change.live_append_iff _).2 (.inl rfl), refl value⟩
      · cases fresh
  live id first h := by
    rcases (Change.live_append_iff _).1 h with new | ⟨old, _, _⟩
    · obtain ⟨rfl, rfl⟩ := Change.issued.inj new
      exact ⟨value, follows.issued.get?_inserted value, refl value⟩
    · obtain ⟨now, found, since⟩ := follows.live id first old
      exact ⟨now, by rw [get?_insert, found, Option.some_or], since⟩

theorem remove (follows : t.Follows R past) (key : Id resource) :
    (t.remove key).Follows R (past ++ [.closed key]) where
  next := by
    rw [Change.issuedIds_append, List.length_append]
    exact follows.next
  numbered := by
    have ids : Change.issuedIds (past ++ [.closed key]) = Change.issuedIds past :=
      (Change.issuedIds_append _ _).trans (List.append_nil _)
    unfold Change.Numbered
    rw [ids]
    exact follows.numbered
  ascending := follows.ascending.sublist (ids_remove_sublist t key)
  found id value h := by
    rw [get?_remove] at h
    split at h
    · cases h
    · rename_i apart
      obtain ⟨first, live, since⟩ := follows.found id value h
      refine ⟨first, (Change.live_append_iff _).2 (.inr ⟨live, ?_, by simp⟩), since⟩
      intro same
      exact apart (Change.closed.inj same).symm
  live id first h := by
    rcases (Change.live_append_iff _).1 h with new | ⟨old, apart, _⟩
    · cases new
    · obtain ⟨value, found, since⟩ := follows.live id first old
      refine ⟨value, ?_, since⟩
      rw [get?_remove, if_neg (by rintro rfl; exact apart rfl)]
      exact found

theorem drain (follows : t.Follows R past) : t.drain.2.Follows R (past ++ [.drained]) where
  next := by
    rw [Change.issuedIds_append, List.length_append]
    exact follows.next
  numbered := by
    have ids : Change.issuedIds (past ++ [.drained]) = Change.issuedIds past :=
      (Change.issuedIds_append _ _).trans (List.append_nil _)
    unfold Change.Numbered
    rw [ids]
    exact follows.numbered
  ascending := .nil
  found id value h := by
    rw [get?_drain] at h
    cases h
  live id first h := by
    rcases (Change.live_append_iff _).1 h with new | ⟨_, _, kept⟩
    · cases new
    · exact absurd rfl kept

/-- Every change is told by the past. -/
theorem change (follows : t.Follows R past) (refl : ∀ value, R value value)
    {change : Change resource α} (changes : t.Changes change t') :
    t'.Follows R (past ++ [change]) := by
  cases changes with
  | insert value => exact follows.insert refl value
  | @remove id value _ => exact follows.remove id
  | drain => exact follows.drain

/-- What happens to the resources themselves is not a change of the table. -/
theorem evolve (follows : t.Follows R past) (trans : ∀ {a b c}, R a b → R b c → R a c)
    (evolves : t.Evolves R t') : t'.Follows R past where
  next := evolves.next.trans follows.next
  numbered := follows.numbered
  ascending := by
    rw [evolves.ids]
    exact follows.ascending
  found id value h := by
    have mem : id ∈ t.ids := by
      rw [← evolves.ids]
      exact (Table.mem_ids_iff t' id).2 ⟨value, h⟩
    obtain ⟨old, before⟩ := (Table.mem_ids_iff t id).1 mem
    obtain ⟨first, live, since⟩ := follows.found id old before
    obtain ⟨new, after, step⟩ := evolves.each id old before
    obtain rfl : new = value := Option.some.inj (after.symm.trans h)
    exact ⟨first, live, trans since step⟩
  live id first h := by
    obtain ⟨old, before, since⟩ := follows.live id first h
    obtain ⟨new, after, step⟩ := evolves.each id old before
    exact ⟨new, after, trans since step⟩

end Follows

end AlgorithmDriver.Table
