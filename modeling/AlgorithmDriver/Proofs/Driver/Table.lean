import AlgorithmDriver.Driver.Table

/-!
# What a table holds

Every operation on a table is described by what a look at an id shows after it, and by the next id.

* Looking up an id after an insertion, a change, or a change of all resources (`get?_insert`,
  `get?_set`, `mapAccum_get?`).
* A table whose live ids were all issued by it stays so (`Issued`), hence an insertion never hides
  a resource and its id is fresh (`Issued.get?_next`).
-/

namespace AlgorithmDriver.Table

variable {resource : Resource} {α β : Type}

/-! ## Looking up -/

@[simp] theorem get?_empty (id : Id resource) : (empty : Table resource α).get? id = none := rfl

theorem get?_insert (t : Table resource α) (value : α) (id : Id resource) :
    (t.insert value).2.get? id =
      (t.get? id).or (if id.raw = t.next then some value else none) := by
  show List.lookup id.raw (t.entries ++ [(t.next, value)]) = _
  rw [List.lookup_append, List.lookup_cons, List.lookup_nil]
  by_cases h : id.raw = t.next
  · simp [h, get?]
  · simp [h, beq_false_of_ne h, get?]

theorem get?_set (t : Table resource α) (key id : Id resource) (value : α) :
    (t.set key value).get? id =
      if id = key then (t.get? id).map fun _ => value else t.get? id := by
  obtain ⟨next, entries⟩ := t
  show List.lookup id.raw (entries.map _) = _
  simp only [get?]
  induction entries with
  | nil => split <;> rfl
  | cons entry rest ih =>
    obtain ⟨raw, old⟩ := entry
    rw [List.map_cons, List.lookup_cons, List.lookup_cons, ih]
    by_cases found : id.raw = raw
    · by_cases same : id = key
      · simp [← found, same]
      · have other : raw ≠ key.raw := by
          rintro rfl
          exact same (by cases id; cases key; simp_all)
        simp [found, same, other]
    · simp only [beq_false_of_ne found]

@[simp] theorem get?_drain (t : Table resource α) (id : Id resource) :
    t.drain.2.get? id = none := rfl

@[simp] theorem next_insert (t : Table resource α) (value : α) :
    (t.insert value).2.next = t.next + 1 := rfl

@[simp] theorem next_set (t : Table resource α) (key : Id resource) (value : α) :
    (t.set key value).next = t.next := rfl

@[simp] theorem next_drain (t : Table resource α) : t.drain.2.next = t.next := rfl

/-! ## Changing all resources -/

section MapAccum

variable {f : β → Id resource → α → α × β} {R : β → β → Prop}

/-- Each resource is changed in one of the states that are gone through. -/
theorem mapAccum_go_spec (refl : ∀ s, R s s) (trans : ∀ {a b c}, R a b → R b c → R a c)
    (step : ∀ s id value, R s (f s id value).2) (entries : List (Nat × α)) (state : β) :
    R state (mapAccum.go f state entries).2 ∧
      ∀ raw value, entries.lookup raw = some value →
        ∃ s, R state s ∧
          (mapAccum.go f state entries).1.lookup raw = some (f s ⟨raw⟩ value).1 ∧
          R (f s ⟨raw⟩ value).2 (mapAccum.go f state entries).2 := by
  induction entries generalizing state with
  | nil => exact ⟨refl state, fun raw value h => nomatch h⟩
  | cons entry rest ih =>
    obtain ⟨key, old⟩ := entry
    obtain ⟨run, each⟩ := ih (f state ⟨key⟩ old).2
    have first := step state ⟨key⟩ old
    refine ⟨trans first run, ?_⟩
    intro raw value h
    rw [List.lookup_cons] at h
    by_cases found : raw = key
    · subst found
      simp only [beq_self_eq_true, Option.some.injEq] at h
      subst h
      exact ⟨state, refl state, by simp [mapAccum.go], run⟩
    · simp only [beq_false_of_ne found] at h
      obtain ⟨s, before, result, after⟩ := each raw value h
      refine ⟨s, trans first before, ?_, after⟩
      simpa only [mapAccum.go, List.lookup_cons, beq_false_of_ne found] using result

theorem mapAccum_go_none {raw : Nat} (entries : List (Nat × α)) (state : β)
    (h : entries.lookup raw = none) : (mapAccum.go f state entries).1.lookup raw = none := by
  induction entries generalizing state with
  | nil => rfl
  | cons entry rest ih =>
    obtain ⟨key, old⟩ := entry
    rw [List.lookup_cons] at h
    by_cases found : raw = key
    · simp [found] at h
    · simp only [beq_false_of_ne found] at h
      simpa only [mapAccum.go, List.lookup_cons, beq_false_of_ne found] using ih _ h

/-- Each resource is changed in some state on the way. -/
theorem mapAccum_get? (refl : ∀ s, R s s) (trans : ∀ {a b c}, R a b → R b c → R a c)
    (step : ∀ s id value, R s (f s id value).2) (state : β) (t : Table resource α)
    {id : Id resource} {value : α} (h : t.get? id = some value) :
    ∃ s, R state s ∧ (t.mapAccum f state).1.get? id = some (f s id value).1 ∧
      R (f s id value).2 (t.mapAccum f state).2 := by
  exact (mapAccum_go_spec refl trans step t.entries state).2 id.raw value h

/-- No resource is added. -/
theorem mapAccum_get?_none (state : β) (t : Table resource α) {id : Id resource}
    (h : t.get? id = none) : (t.mapAccum f state).1.get? id = none :=
  mapAccum_go_none t.entries state h

/-- The state after all changes. -/
theorem mapAccum_state (refl : ∀ s, R s s) (trans : ∀ {a b c}, R a b → R b c → R a c)
    (step : ∀ s id value, R s (f s id value).2) (state : β) (t : Table resource α) :
    R state (t.mapAccum f state).2 :=
  (mapAccum_go_spec refl trans step t.entries state).1

end MapAccum

/-! ## Issued ids -/

/-- Every live id was issued by the table. -/
def Issued (t : Table resource α) : Prop :=
  ∀ id value, t.get? id = some value → id.raw < t.next

namespace Issued

theorem empty : (empty : Table resource α).Issued := by
  intro id value h
  rw [get?_empty] at h
  cases h

/-- The next id is not live. -/
theorem get?_next {t : Table resource α} (issued : t.Issued) : t.get? ⟨t.next⟩ = none := by
  cases h : t.get? ⟨t.next⟩ with
  | none => rfl
  | some value => exact absurd (issued _ _ h) (Nat.lt_irrefl _)

theorem get?_inserted {t : Table resource α} (issued : t.Issued) (value : α) :
    (t.insert value).2.get? (t.insert value).1 = some value := by
  rw [get?_insert]
  show (t.get? ⟨t.next⟩).or _ = _
  rw [issued.get?_next]
  simp [Table.insert]

theorem insert {t : Table resource α} (issued : t.Issued) (value : α) :
    (t.insert value).2.Issued := by
  intro id found h
  rw [get?_insert] at h
  rw [next_insert]
  cases present : t.get? id with
  | some old => exact Nat.lt_succ_of_lt (issued id old present)
  | none =>
    rw [present, Option.none_or] at h
    split at h
    · omega
    · cases h

theorem set {t : Table resource α} (issued : t.Issued) (key : Id resource) (value : α) :
    (t.set key value).Issued := by
  intro id found h
  rw [get?_set] at h
  cases present : t.get? id with
  | some old => exact issued id old present
  | none => simp [present] at h

theorem drain (t : Table resource α) : t.drain.2.Issued := by
  intro id found h
  rw [get?_drain] at h
  cases h

theorem mapAccum {t : Table resource α} (issued : t.Issued) (f : β → Id resource → α → α × β)
    (state : β) : (t.mapAccum f state).1.Issued := by
  intro id found h
  cases present : t.get? id with
  | some old => exact issued id old present
  | none =>
    rw [mapAccum_get?_none state t present] at h
    cases h

end Issued

end AlgorithmDriver.Table
