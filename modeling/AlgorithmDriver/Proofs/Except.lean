/-!
# Outcomes

What is known of an outcome from what a function applied to it gave.
-/

namespace Except

variable {ε ε' α β : Type}

theorem map_eq_ok_iff {x : Except ε α} {f : α → β} {b : β} :
    x.map f = .ok b ↔ ∃ a, x = .ok a ∧ f a = b := by
  cases x <;> simp [Except.map]

theorem map_eq_error_iff {x : Except ε α} {f : α → β} {e : ε} :
    x.map f = .error e ↔ x = .error e := by
  cases x <;> simp [Except.map]

theorem mapError_eq_ok_iff {x : Except ε α} {f : ε → ε'} {a : α} :
    x.mapError f = .ok a ↔ x = .ok a := by
  cases x with
  | ok b =>
    constructor
    · rintro ⟨⟩
      rfl
    · rintro ⟨⟩
      rfl
  | error e => exact iff_of_false nofun nofun

theorem mapError_eq_error_iff {x : Except ε α} {f : ε → ε'} {e : ε'} :
    x.mapError f = .error e ↔ ∃ e', x = .error e' ∧ f e' = e := by
  cases x with
  | ok a => exact iff_of_false nofun nofun
  | error d =>
    constructor
    · rintro ⟨⟩
      exact ⟨d, rfl, rfl⟩
    · rintro ⟨_, ⟨⟩, rfl⟩
      rfl

theorem bind_eq_ok_iff {x : Except ε α} {f : α → Except ε β} {b : β} :
    x.bind f = .ok b ↔ ∃ a, x = .ok a ∧ f a = .ok b := by
  cases x <;> simp [Except.bind]

/-! ## Steps one after another -/

variable {step : β → α → Except ε β} {start result : β}

theorem foldlM_nil_eq_ok_iff : ([] : List α).foldlM step start = .ok result ↔ start = result := by
  rw [List.foldlM_nil]
  constructor
  · intro h
    cases h
    rfl
  · rintro rfl
    rfl

/-- When all steps succeed, the first one does, and so do the others after it. -/
theorem foldlM_cons_eq_ok_iff {a : α} {as : List α} :
    (a :: as).foldlM step start = .ok result ↔
      ∃ next, step start a = .ok next ∧ as.foldlM step next = .ok result := by
  rw [List.foldlM_cons]
  cases step start a with
  | error e =>
    constructor
    · intro h
      cases h
    · rintro ⟨next, h, -⟩
      cases h
  | ok next =>
    constructor
    · intro h
      exact ⟨next, rfl, h⟩
    · rintro ⟨next, ⟨⟩, h⟩
      exact h

end Except
