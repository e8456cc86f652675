import Mathlib.Algebra.Order.Floor.Semiring
import Mathlib.Data.Rat.Floor

/-!
# Decimal texts

Digits, and a fraction or none after a point. `read_eq_some`: the texts that are read are those of a
`Decimal`, each of them in one way. `scaleUp` multiplies a decimal in machine integers and rounds
up; `scaleUp_eq_some` says when that is the ceiling of the exact product.
-/

namespace MemCordon

/-- A nonempty list of decimal digits. -/
def isDigits (text : List Char) : Bool := !text.isEmpty && text.all Char.isDigit

/-- The number that digits stand for. -/
def natOf (digits : List Char) : ℕ := Nat.ofDigitChars 10 digits 0

/-- The number, when it is below a bound: a checked operation or conversion of machine integers. -/
def fitting (bound n : ℕ) : Option ℕ := if n < bound then some n else none

@[simp] theorem fitting_eq_some {bound n m : ℕ} : fitting bound n = some m ↔ n < bound ∧ n = m := by
  simp [fitting]

/-- Digits, with digits after a point or without. -/
structure Decimal where
  whole : List Char
  fraction : Option (List Char)
  isDigits_whole : isDigits whole = true
  isDigits_fraction : ∀ digits ∈ fraction, isDigits digits = true

namespace Decimal

def text (d : Decimal) : List Char := d.whole ++ d.fraction.elim [] ('.' :: ·)

/-- The exact value. -/
def value (d : Decimal) : ℚ :=
  natOf d.whole + d.fraction.elim 0 fun digits => (natOf digits : ℚ) / 10 ^ digits.length

/-- The number of digits after the point. -/
def places (d : Decimal) : ℕ := (d.fraction.getD []).length

/-- The number of units of the last place. -/
def count (d : Decimal) : ℕ := natOf d.whole * 10 ^ d.places + natOf (d.fraction.getD [])

theorem value_eq (d : Decimal) : d.value = d.count / (10 ^ d.places : ℕ) := by
  unfold value count places
  cases d.fraction with
  | none => simp [natOf]
  | some digits =>
    have hpow : ((10 : ℚ) ^ digits.length) ≠ 0 := by positivity
    push_cast
    rw [Option.getD_some, Option.elim_some, add_div, mul_div_cancel_right₀ _ hpow]

/-- The decimal of a text. -/
def read (number : List Char) : Option Decimal :=
  match number.splitOn '.' with
  | [whole] => if h : isDigits whole = true then some ⟨whole, none, h, nofun⟩ else none
  | [whole, digits] =>
    if h : isDigits whole = true ∧ isDigits digits = true then
      some ⟨whole, some digits, h.1, fun _ hdigits => Option.some.inj hdigits ▸ h.2⟩
    else none
  | _ => none

theorem not_mem_of_isDigits {text : List Char} (h : isDigits text = true) : '.' ∉ text := by
  intro hmem
  have hpoint := List.all_eq_true.1 (Bool.and_eq_true_iff.1 h).2 '.' hmem
  exact absurd hpoint (by decide)

theorem splitOn_text (d : Decimal) : d.text.splitOn '.' = d.whole :: d.fraction.toList := by
  obtain ⟨whole, fraction, hwhole, hfraction⟩ := d
  have hparts : ∀ part ∈ whole :: fraction.toList, '.' ∉ part := by
    simp only [List.mem_cons, Option.mem_toList]
    rintro part (rfl | hpart)
    · exact not_mem_of_isDigits hwhole
    · exact not_mem_of_isDigits (hfraction part hpart)
  have hsplit := List.splitOn_intercalate '.' hparts (List.cons_ne_nil _ _)
  cases fraction <;> simpa [text] using hsplit

/-- **The texts that are read are those of a decimal.** -/
theorem read_eq_some {number : List Char} {d : Decimal} : read number = some d ↔
    number = d.text := by
  constructor
  · intro h
    have htext : ['.'].intercalate (number.splitOn '.') = number := List.intercalate_splitOn '.'
    unfold read at h
    split at h
    next whole hsplit =>
      split_ifs at h
      rw [hsplit] at htext
      cases h
      simpa [text] using htext.symm
    next whole digits hsplit =>
      split_ifs at h
      rw [hsplit] at htext
      cases h
      simpa [text] using htext.symm
    next => cases h
  · rintro rfl
    obtain ⟨whole, _ | digits, hwhole, hfraction⟩ := d
    · simp [read, splitOn_text, hwhole]
    · simp [read, splitOn_text, hwhole, hfraction digits rfl]

theorem text_injective : Function.Injective text := by
  intro a b h
  have hread : read a.text = some b := read_eq_some.2 h
  rw [read_eq_some.2 rfl] at hread
  exact Option.some.inj hread

theorem text_ne_nil (d : Decimal) : d.text ≠ [] := by
  intro h
  have hwhole := d.isDigits_whole
  rw [(List.append_eq_nil_iff.1 h).1] at hwhole
  cases hwhole

/-! ## Rounding up -/

/-- The decimal times a number, rounded up, in 128-bit integers with a result of 64 bits. -/
def scaleUp (d : Decimal) (multiplier : ℕ) : Option ℕ := do
  let whole ← fitting (2 ^ 128) (natOf d.whole)
  let scaledWhole ← fitting (2 ^ 128) (whole * multiplier)
  match d.fraction with
  | none => fitting (2 ^ 64) scaledWhole
  | some digits =>
    let numerator ← fitting (2 ^ 128) (natOf digits)
    let numerator ← fitting (2 ^ 128) (numerator * multiplier)
    let exponent ← fitting (2 ^ 32) digits.length
    let denominator ← fitting (2 ^ 128) (10 ^ exponent)
    let rounded ← fitting (2 ^ 128) (numerator + (denominator - 1))
    let total ← fitting (2 ^ 128) (scaledWhole + rounded / denominator)
    fitting (2 ^ 64) total

/-- The fraction can be scaled and rounded in 128 bits. -/
def Scalable (d : Decimal) (multiplier : ℕ) : Prop :=
  ∀ digits ∈ d.fraction, 10 ^ digits.length < 2 ^ 128 ∧
    natOf digits * multiplier + (10 ^ digits.length - 1) < 2 ^ 128

theorem ceil_div (a b : ℕ) (hb : 0 < b) : ⌈(a / b : ℚ)⌉₊ = (a + (b - 1)) / b := by
  refine eq_of_forall_ge_iff fun n => ?_
  have hcast : (0 : ℚ) < b := by exact_mod_cast hb
  rw [Nat.ceil_le, div_le_iff₀ hcast, ← Nat.lt_succ_iff, Nat.div_lt_iff_lt_mul hb, Nat.succ_mul]
  norm_cast
  omega

theorem ceil_value_mul (d : Decimal) (multiplier : ℕ) : ⌈d.value * multiplier⌉₊ =
      natOf d.whole * multiplier + d.fraction.elim 0 fun digits =>
        (natOf digits * multiplier + (10 ^ digits.length - 1)) / 10 ^ digits.length := by
  unfold value
  cases d.fraction with
  | none => simpa using Nat.ceil_natCast (R := ℚ) (natOf d.whole * multiplier)
  | some digits =>
    have hceil := ceil_div (natOf digits * multiplier) (10 ^ digits.length) (by positivity)
    have hsplit : (natOf d.whole + natOf digits / 10 ^ digits.length : ℚ) * multiplier =
        (natOf digits * multiplier : ℕ) / (10 ^ digits.length : ℕ) +
          (natOf d.whole * multiplier : ℕ) := by
      push_cast
      ring
    rw [Option.elim_some, Option.elim_some, hsplit, Nat.ceil_add_natCast (by positivity), hceil,
      add_comm]

/-- **The result is the ceiling of the exact product**, when that is a number of 64 bits and nothing
overflows. -/
theorem scaleUp_eq_some {d : Decimal} {multiplier n : ℕ} (hpos : 0 < multiplier) :
    d.scaleUp multiplier = some n ↔ ⌈d.value * multiplier⌉₊ = n ∧ n < 2 ^ 64 ∧
      d.Scalable multiplier := by
  have hle (a : ℕ) : a ≤ a * multiplier := Nat.le_mul_of_pos_right a hpos
  have hwhole := hle (natOf d.whole)
  rw [ceil_value_mul]
  unfold scaleUp Scalable
  cases d.fraction with
  | none =>
    simp [bind, Option.bind_eq_some_iff]
    omega
  | some digits =>
    have hdigits := hle (natOf digits)
    have hlength (h : 10 ^ digits.length < 2 ^ 128) : digits.length < 39 :=
      (Nat.pow_lt_pow_iff_right (by decide)).1 (h.trans (by decide : 2 ^ 128 < 10 ^ 39))
    simp only [bind, Option.bind_eq_some_iff, fitting_eq_some, and_assoc, exists_and_left,
      exists_eq_left', Option.elim_some, Option.mem_def, Option.some.injEq, forall_eq']
    generalize (natOf digits * multiplier + (10 ^ digits.length - 1)) / 10 ^ digits.length = rounded
    generalize 10 ^ digits.length = power at hlength ⊢
    omega

end Decimal

end MemCordon
