import AlgorithmDriver.Number.Decimal
import Mathlib.Tactic.IntervalCases

/-!
# What decimal numerals stand for

The digits of a number stand for the number, and none of them can be left out: there is no zero at
the beginning unless it is the only digit.

* `Decimal.value_digits` — reading the digits of a number gives the number, so numbers that are
  written alike are the same (`Decimal.text_injective`).
* `Decimal.digits_head` — the first digit of a positive number is not zero.
* `Decimal.hexValue?_hexChar` — the same for single hexadecimal digits.
-/

namespace AlgorithmDriver.Decimal

/-! ## Single digits -/

theorem isDigit_digitChar {d : Nat} (h : d < 10) : isDigit (digitChar d) = true := by
  interval_cases d <;> decide

theorem digitValue_digitChar {d : Nat} (h : d < 10) : digitValue (digitChar d) = d := by
  interval_cases d <;> decide

theorem digitChar_ne_zero {d : Nat} (h : d < 10) (h0 : 0 < d) : digitChar d ≠ '0' := by
  interval_cases d <;> decide

theorem hexValue?_hexChar {d : Nat} (h : d < 16) : hexValue? (hexChar d) = some d := by
  interval_cases d <;> decide

/-! ## Numerals -/

theorem digits_of_lt {n : Nat} (h : n < 10) : digits n = [digitChar n] := by
  rw [digits, if_pos h]

theorem digits_of_le {n : Nat} (h : 10 ≤ n) :
    digits n = digits (n / 10) ++ [digitChar (n % 10)] := by
  rw [digits, if_neg (by omega)]

theorem isDigit_of_mem_digits (n : Nat) : ∀ c ∈ digits n, isDigit c = true := by
  induction n using Nat.strong_induction_on with
  | _ n ih =>
    intro c hc
    by_cases h : n < 10
    · rw [digits_of_lt h, List.mem_singleton] at hc
      exact hc ▸ isDigit_digitChar h
    · rw [digits_of_le (by omega), List.mem_append, List.mem_singleton] at hc
      rcases hc with hc | rfl
      · exact ih (n / 10) (by omega) c hc
      · exact isDigit_digitChar (by omega)

/-- The numeral of a positive number begins with a digit that is not zero. -/
theorem digits_head {n : Nat} (h : 0 < n) : ∃ c cs, digits n = c :: cs ∧ c ≠ '0' := by
  induction n using Nat.strong_induction_on with
  | _ n ih =>
    by_cases hn : n < 10
    · exact ⟨digitChar n, [], digits_of_lt hn, digitChar_ne_zero hn h⟩
    · obtain ⟨c, cs, hc, h0⟩ := ih (n / 10) (by omega) (by omega)
      refine ⟨c, cs ++ [digitChar (n % 10)], ?_, h0⟩
      rw [digits_of_le (by omega), hc, List.cons_append]

theorem digits_ne_nil (n : Nat) : digits n ≠ [] := by
  by_cases h : n < 10
  · simp [digits_of_lt h]
  · simp [digits_of_le (Nat.not_lt.1 h)]

theorem value_append_singleton (ds : List Char) (d : Char) :
    value (ds ++ [d]) = value ds * 10 + digitValue d := by
  simp [value, List.foldl_append]

/-- Reading the digits of a number gives the number. -/
theorem value_digits (n : Nat) : value (digits n) = n := by
  induction n using Nat.strong_induction_on with
  | _ n ih =>
    by_cases h : n < 10
    · rw [digits_of_lt h]
      simp [value, digitValue_digitChar h]
    · rw [digits_of_le (by omega), value_append_singleton, ih (n / 10) (by omega),
        digitValue_digitChar (by omega)]
      omega

/-- Numbers that are written alike are the same. -/
theorem text_injective {n m : Nat} (h : text n = text m) : n = m := by
  have hd : digits n = digits m := String.ofList_inj.1 h
  rw [← value_digits n, hd, value_digits]

end AlgorithmDriver.Decimal
