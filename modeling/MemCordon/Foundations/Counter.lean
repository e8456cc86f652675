import Mathlib.Algebra.Ring.Nat
import Mathlib.Order.Basic

/-!
# Checked counters

Arithmetic on unsigned 64-bit counters that reports overflow instead of wrapping: the value of a
counter is a natural number below `u64Bound`, and a checked operation is the only way to raise one.
-/

namespace MemCordon.Counter

/-- One past the largest value of an unsigned 64-bit counter. -/
def u64Bound : ℕ := 2 ^ 64

/-- The largest value of an unsigned 64-bit counter. -/
def u64Max : ℕ := 2 ^ 64 - 1

/-- Addition that fails when the sum does not fit. -/
def checkedAdd (a b : ℕ) : Option ℕ := if a + b < u64Bound then some (a + b) else none

/-- Subtraction that fails below zero. -/
def checkedSub (a b : ℕ) : Option ℕ := if b ≤ a then some (a - b) else none

/-- Multiplication that fails when the product does not fit. -/
def checkedMul (a b : ℕ) : Option ℕ := if a * b < u64Bound then some (a * b) else none

theorem checkedAdd_eq_some {a b c : ℕ} : checkedAdd a b = some c ↔ a + b < u64Bound ∧
    c = a + b := by
  unfold checkedAdd
  split_ifs with h
  · simp [h, eq_comm]
  · simp [h]

theorem checkedAdd_eq_none {a b : ℕ} : checkedAdd a b = none ↔ u64Bound ≤ a + b := by
  unfold checkedAdd
  split_ifs with h
  · simp [h]
  · simpa using h

theorem checkedAdd_of_lt {a b : ℕ} (h : a + b < u64Bound) : checkedAdd a b = some (a + b) :=
  checkedAdd_eq_some.2 ⟨h, rfl⟩

theorem checkedSub_eq_some {a b c : ℕ} : checkedSub a b = some c ↔ b ≤ a ∧ c = a - b := by
  unfold checkedSub
  split_ifs with h
  · simp [h, eq_comm]
  · simp [h]

theorem checkedMul_eq_some {a b c : ℕ} : checkedMul a b = some c ↔ a * b < u64Bound ∧
    c = a * b := by
  unfold checkedMul
  split_ifs with h
  · simp [h, eq_comm]
  · simp [h]

end MemCordon.Counter
