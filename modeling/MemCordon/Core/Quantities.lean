import Mathlib.Data.Nat.Cast.Field
import MemCordon.Core.Restart
import MemCordon.Foundations.Decimal

/-!
# Sizes, durations and multipliers

What a user writes as a decimal: a memory size or a duration with its unit, and the multiplier of
the backoff.

* `amounts_exact`: sizes and durations are the exact values rounded up, when their fractions can be
  scaled in 128 bits. A longer fraction overflows, however small the amount is.
* `multipliers_exact`: multipliers are exact fractions in lowest terms, between one and a hundred.
-/

namespace MemCordon

open Clock Fallible

/-! ## Amounts with a unit -/

/-- The characters of a number. -/
def isNumeric (c : Char) : Bool := c.isDigit || c == '.'

def byteUnit : String → Option ℕ
  | "" | "B" => some 1
  | "KB" => some 1000
  | "MB" => some 1000000
  | "GB" => some 1000000000
  | "TB" => some 1000000000000
  | "PB" => some 1000000000000000
  | "EB" => some 1000000000000000000
  | "KiB" => some (1 <<< 10)
  | "MiB" => some (1 <<< 20)
  | "GiB" => some (1 <<< 30)
  | "TiB" => some (1 <<< 40)
  | "PiB" => some (1 <<< 50)
  | "EiB" => some (1 <<< 60)
  | _ => none

inductive ByteSizeParseError
  | missingNumber
  | invalidUnit (unit : String)
  | invalidDecimal
  | overflow
  deriving DecidableEq

/-- The bytes of a memory size. -/
def ByteSize.fromStr (input : String) : Except ByteSizeParseError ℕ := do
  let number := input.toList.takeWhile isNumeric
  let unit := String.ofList (input.toList.dropWhile isNumeric)
  reject .missingNumber (number = [])
  let multiplier ← okOr (.invalidUnit unit) (byteUnit unit)
  let decimal ← okOr .invalidDecimal (Decimal.read number)
  okOr .overflow (decimal.scaleUp multiplier)

def durationUnit : String → Option ℕ
  | "ms" => some 1
  | "s" => some 1000
  | "m" => some 60000
  | "h" => some 3600000
  | _ => none

/-- A duration, which is counted in milliseconds. -/
def parseDuration (input : String) : Except String ℕ := do
  let number := input.toList.takeWhile isNumeric
  let unit := String.ofList (input.toList.dropWhile isNumeric)
  let multiplier ← okOr ("unsupported duration unit `" ++ unit ++ "`") (durationUnit unit)
  let decimal ← okOr "invalid duration decimal syntax" (Decimal.read number)
  let millis ← okOr "duration is too large" (decimal.scaleUp multiplier)
  return ofMillis millis

/-- The decimal and the multiplier of its unit that an input is made of. -/
def amount (units : String → Option ℕ) (input : String) : Option (Decimal × ℕ) :=
  (units (String.ofList (input.toList.dropWhile isNumeric))).bind fun multiplier =>
    (Decimal.read (input.toList.takeWhile isNumeric)).map (·, multiplier)

/-- The input is a decimal and a unit, and the exact amount, rounded up, is a number of 64 bits. -/
def Denotes (units : String → Option ℕ) (input : String) (n : ℕ) : Prop :=
  ∃ (decimal : Decimal) (unit : String) (multiplier : ℕ), input.toList =
    decimal.text ++ unit.toList ∧
    units unit = some multiplier ∧ ⌈decimal.value * multiplier⌉₊ = n ∧ n < 2 ^ 64

/-- An amount that is a number of 64 bits has a fraction that can be scaled in 128 bits. -/
def Computable (units : String → Option ℕ) (input : String) : Prop :=
  ∀ (decimal : Decimal) (unit : String) (multiplier : ℕ), input.toList =
    decimal.text ++ unit.toList →
    units unit = some multiplier → ⌈decimal.value * multiplier⌉₊ < 2 ^ 64 →
    decimal.Scalable multiplier

/-- Units multiply, and do not start as a number does. -/
def Units (units : String → Option ℕ) : Prop :=
  ∀ unit multiplier, units unit = some multiplier → 0 < multiplier ∧
    unit.toList.takeWhile isNumeric = []

theorem units_byteUnit : Units byteUnit := by
  intro unit multiplier h
  unfold byteUnit at h
  split at h <;> cases h <;> exact ⟨by decide, by decide⟩

theorem units_durationUnit : Units durationUnit := by
  intro unit multiplier h
  unfold durationUnit at h
  split at h <;> cases h <;> exact ⟨by decide, by decide⟩

section Amounts

variable {units : String → Option ℕ} {input : String}

theorem isNumeric_of_mem_text {decimal : Decimal} {c : Char} (h : c ∈ decimal.text) :
    isNumeric c = true := by
  have hdigit {digits : List Char} (hdigits : isDigits digits = true) (h : c ∈ digits) :
      isNumeric c = true := by
    have hc := List.all_eq_true.1 (Bool.and_eq_true_iff.1 hdigits).2 c h
    simp [isNumeric, hc]
  obtain ⟨whole, fraction, hwhole, hfraction⟩ := decimal
  rcases List.mem_append.1 h with h | h
  · exact hdigit hwhole h
  · cases fraction with
    | none => cases h
    | some digits =>
      rcases List.mem_cons.1 h with rfl | h
      · decide
      · exact hdigit (hfraction digits rfl) h

theorem amount_eq_some (hunits : Units units) {decimal : Decimal} {multiplier : ℕ} :
    amount units input = some (decimal, multiplier) ↔
      ∃ unit, input.toList = decimal.text ++ unit.toList ∧ units unit = some multiplier := by
  simp only [amount, Option.bind_eq_some_iff, Option.map_eq_some_iff, Decimal.read_eq_some,
    Prod.mk.injEq]
  constructor
  · rintro ⟨_, hunit, _, hread, rfl, rfl⟩
    refine ⟨_, ?_, hunit⟩
    rw [← hread, String.toList_ofList, List.takeWhile_append_dropWhile]
  · rintro ⟨unit, htext, hunit⟩
    have hnumeric : ∀ c ∈ decimal.text, isNumeric c = true := fun _ => isNumeric_of_mem_text
    have hsplit := List.takeWhile_append_dropWhile (p := isNumeric) (l := unit.toList)
    rw [(hunits unit multiplier hunit).2, List.nil_append] at hsplit
    rw [htext, List.takeWhile_append_of_pos hnumeric, List.dropWhile_append_of_pos hnumeric, hsplit,
      (hunits unit multiplier hunit).2, String.ofList_toList]
    exact ⟨_, hunit, _, List.append_nil _, rfl, rfl⟩

/-- The exact amounts are those that are computed, when every fraction can be scaled. -/
theorem forall_denotes_iff (hunits : Units units) :
    (∀ n, (∃ decimal multiplier, amount units input = some (decimal, multiplier) ∧
        decimal.scaleUp multiplier = some n) ↔ Denotes units input n) ↔ Computable units input := by
  have hdenotes (n : ℕ) : Denotes units input n ↔ ∃ decimal multiplier,
      amount units input = some (decimal, multiplier) ∧ ⌈decimal.value * multiplier⌉₊ = n ∧
      n < 2 ^ 64 := by
    simp only [Denotes, amount_eq_some hunits]
    grind
  have hcomputable : Computable units input ↔ ∀ decimal multiplier,
      amount units input = some (decimal, multiplier) → ⌈decimal.value * multiplier⌉₊ < 2 ^ 64 →
        decimal.Scalable multiplier := by
    simp only [Computable, amount_eq_some hunits]
    grind
  rw [hcomputable]
  simp only [hdenotes]
  cases hamount : amount units input with
  | none => simp
  | some parts =>
    obtain ⟨decimal, multiplier⟩ := parts
    obtain ⟨unit, -, hunit⟩ := (amount_eq_some hunits).1 hamount
    have hscale (n : ℕ) :=
      Decimal.scaleUp_eq_some (d := decimal) (n := n) (hunits unit multiplier hunit).1
    simp [hscale]

end Amounts

theorem fromStr_eq_ok {input : String} {n : ℕ} : ByteSize.fromStr input = .ok n ↔
    ∃ decimal multiplier,
      amount byteUnit input = some (decimal, multiplier) ∧ decimal.scaleUp multiplier = some n := by
  simp only [ByteSize.fromStr, amount, reject_bind_eq_ok, okOr_bind_eq_ok, okOr_eq_ok,
    Option.bind_eq_some_iff, Option.map_eq_some_iff, Prod.mk.injEq, Decimal.read_eq_some]
  grind [Decimal.text_ne_nil]

theorem parseDuration_eq_ok {input : String} {t : ℕ} : parseDuration input = .ok t ↔
    ∃ n, t = ofMillis n ∧
      ∃ decimal multiplier, amount durationUnit input = some (decimal, multiplier) ∧
        decimal.scaleUp multiplier = some n := by
  simp only [parseDuration, amount, okOr_bind_eq_ok, Option.bind_eq_some_iff,
    Option.map_eq_some_iff, Prod.mk.injEq, pure, Except.pure, Except.ok.injEq]
  grind

/-- **Sizes and durations are the exact values, rounded up**, when their fractions can be scaled in
128 bits. -/
theorem amounts_exact (input : String) :
    ((∀ n, ByteSize.fromStr input = .ok n ↔ Denotes byteUnit input n) ↔ Computable byteUnit input) ∧
      ((∀ t, parseDuration input = .ok t ↔ ∃ n, t = ofMillis n ∧ Denotes durationUnit input n) ↔
        Computable durationUnit input) := by
  rw [← forall_denotes_iff units_byteUnit, ← forall_denotes_iff units_durationUnit]
  simp only [fromStr_eq_ok, parseDuration_eq_ok, true_and]
  refine ⟨fun h n => ?_, fun h t => by simp only [h]⟩
  simpa [ofMillis, nanosPerMilli] using h (ofMillis n)

/-- The smallest fraction of 39 digits is rounded up to one, and is refused as too large. -/
theorem amounts_overflow :
    (ByteSize.fromStr "0.000000000000000000000000000000000000001" = .error .overflow ∧
        Denotes byteUnit "0.000000000000000000000000000000000000001" 1) ∧
      parseDuration "0.000000000000000000000000000000000000001h" = .error "duration is too large" ∧
        Denotes durationUnit "0.000000000000000000000000000000000000001h" 1 := by
  let digits := List.replicate 38 '0' ++ ['1']
  let decimal : Decimal := ⟨['0'], some digits, by decide, fun _ h => Option.some.inj h ▸ by decide⟩
  refine ⟨⟨by decide, decimal, "", 1, by decide, rfl, ?_, by decide⟩,
    by decide, decimal, "h", 3600000, by decide, rfl, ?_, by decide⟩
  · rw [Decimal.ceil_value_mul]
    decide
  · rw [Decimal.ceil_value_mul]
    decide

/-! ## The multiplier of the backoff -/

inductive MultiplierParseError
  | invalidSyntax
  | range
  deriving DecidableEq

/-- The loop of the greatest common divisor. -/
def gcd (left right : ℕ) : ℕ := if right = 0 then left else gcd right (left % right)
termination_by right
decreasing_by exact Nat.mod_lt _ (Nat.pos_of_ne_zero ‹_›)

theorem gcd_eq (left right : ℕ) : gcd left right = Nat.gcd left right := by
  fun_induction gcd left right with
  | case1 left => simp
  | case2 left right h ih => rw [ih, Nat.gcd_comm right, ← Nat.gcd_rec, Nat.gcd_comm]

namespace BackoffMultiplier

open MultiplierParseError

/-- The fraction in lowest terms. The numbers are of 32 bits. -/
def new (numerator denominator : ℕ) : Except MultiplierParseError BackoffMultiplier := do
  reject invalidSyntax (denominator = 0 ∨ numerator < denominator)
  let upper ← okOr range (fitting (2 ^ 64) (denominator * 100))
  reject invalidSyntax (upper < numerator)
  let divisor := gcd numerator denominator
  let reducedNumerator ← okOr range (fitting (2 ^ 32) (numerator / divisor))
  let reducedDenominator ← okOr range (fitting (2 ^ 32) (denominator / divisor))
  return ⟨reducedNumerator, reducedDenominator⟩

def fromStr (value : String) : Except MultiplierParseError BackoffMultiplier := do
  let text := value.toList
  reject invalidSyntax (text = [] ∨ text.head? = some '+' ∨ text.head? = some '-' ∨ 'e' ∈ text ∨
    'E' ∈ text)
  let decimal ← okOr invalidSyntax (Decimal.read text)
  let digits := decimal.fraction.getD []
  let exponent ← okOr range (fitting (2 ^ 32) digits.length)
  let denominator ← okOr range (fitting (2 ^ 64) (10 ^ exponent))
  let whole ← okOr range (fitting (2 ^ 64) (natOf decimal.whole))
  let fractional ← okOr range (if digits = [] then some 0 else fitting (2 ^ 64) (natOf digits))
  let number ← okOr range (fitting (2 ^ 64) (whole * denominator))
  let numerator ← okOr range (fitting (2 ^ 64) (number + fractional))
  let divisor := gcd numerator denominator
  let reducedNumerator ← okOr range (fitting (2 ^ 32) (numerator / divisor))
  let reducedDenominator ← okOr range (fitting (2 ^ 32) (denominator / divisor))
  new reducedNumerator reducedDenominator

/-- The value of the fraction. -/
def value (m : BackoffMultiplier) : ℚ := m.numerator / m.denominator

/-- A fraction in lowest terms, from one to a hundred. -/
structure Proper (m : BackoffMultiplier) : Prop where
  coprime : m.numerator.Coprime m.denominator
  one_le : 1 ≤ m.value
  le_hundred : m.value ≤ 100

/-- What a multiplier is made from: a text, or the two numbers on the wire. -/
inductive Source
  | text (value : String)
  | wire (numerator denominator : ℕ)

def Source.parse : Source → Except MultiplierParseError BackoffMultiplier
  | text value => fromStr value
  | wire numerator denominator => new numerator denominator

/-- The exact value of a source. -/
def Source.Means : Source → ℚ → Prop
  | text value, q => ∃ decimal : Decimal, value.toList = decimal.text ∧ q = decimal.value
  | wire numerator denominator, q => q = numerator / denominator

variable {m m' : BackoffMultiplier} {n d : ℕ}

theorem Proper.denominator_pos (h : m.Proper) : 0 < m.denominator := by
  rcases Nat.eq_zero_or_pos m.denominator with hzero | hpos
  · have hone := h.one_le
    simp [value, hzero] at hone
    linarith
  · exact hpos

/-- Proper fractions are the same when their values are. -/
theorem eq_of_value_eq (h : m.Proper) (h' : m'.Proper) (hvalue : m.value = m'.value) : m = m' := by
  have hpos : (0 : ℤ) < m.denominator := by exact_mod_cast h.denominator_pos
  have hpos' : (0 : ℤ) < m'.denominator := by exact_mod_cast h'.denominator_pos
  have hparts :=
    Rat.div_int_inj (a := m.numerator) (c := m'.numerator) hpos hpos' h.coprime h'.coprime
    (by simpa [value] using hvalue)
  obtain ⟨numerator, denominator⟩ := m
  obtain ⟨numerator', denominator'⟩ := m'
  simpa using hparts

theorem cast_div_gcd (hd : 0 < d) :
    ((n / Nat.gcd n d : ℕ) : ℚ) / (d / Nat.gcd n d : ℕ) = n / d := by
  have hgcd : (Nat.gcd n d : ℚ) ≠ 0 := by exact_mod_cast (Nat.gcd_pos_of_pos_right n hd).ne'
  rw [Nat.cast_div (Nat.gcd_dvd_left n d) hgcd, Nat.cast_div (Nat.gcd_dvd_right n d) hgcd,
    div_div_div_cancel_right₀ hgcd]

theorem new_eq_ok : new n d = .ok m ↔ (0 < d ∧ d ≤ n ∧ n ≤ d * 100 ∧ d * 100 < 2 ^ 64) ∧
      (n / Nat.gcd n d < 2 ^ 32 ∧ d / Nat.gcd n d < 2 ^ 32) ∧
      ⟨n / Nat.gcd n d, d / Nat.gcd n d⟩ = m := by
  simp only [new, gcd_eq, reject_bind_eq_ok, okOr_bind_eq_ok, fitting_eq_some, pure, Except.pure,
    Except.ok.injEq]
  grind

theorem num_den_of_coprime (hd : 0 < d) (h : n.Coprime d) : (n / d : ℚ).num = n ∧
    (n / d : ℚ).den = d := by
  have hpos : (0 : ℤ) < d := by exact_mod_cast hd
  have hnum := Rat.num_div_eq_of_coprime (a := n) hpos h
  have hden := Rat.den_div_eq_of_coprime (a := n) hpos h
  rw [Int.cast_natCast, Int.cast_natCast] at hnum hden
  exact ⟨hnum, Int.natCast_inj.1 hden⟩

theorem bounds_iff (hd : 0 < d) : 1 ≤ (n / d : ℚ) ∧ (n / d : ℚ) ≤ 100 ↔ d ≤ n ∧ n ≤ d * 100 := by
  have hcast : (0 : ℚ) < d := by exact_mod_cast hd
  rw [one_le_div hcast, div_le_iff₀ hcast, mul_comm]
  norm_cast

/-- A multiplier that is accepted has the value of the fraction. -/
theorem proper_of_new (h : new n d = .ok m) : m.value = n / d ∧ m.Proper := by
  obtain ⟨⟨hpos, hle, hupper, -⟩, -, rfl⟩ := new_eq_ok.1 h
  have hvalue : value ⟨n / Nat.gcd n d, d / Nat.gcd n d⟩ = n / d := cast_div_gcd hpos
  obtain ⟨hone, hhundred⟩ := (bounds_iff hpos).2 ⟨hle, hupper⟩
  exact ⟨hvalue, Nat.coprime_div_gcd_div_gcd (Nat.gcd_pos_of_pos_right n hpos), by rwa [hvalue],
    by rwa [hvalue]⟩

theorem fromStr_eq_ok {text : String} : fromStr text = .ok m ↔
    ∃ decimal : Decimal, text.toList = decimal.text ∧
      decimal.places < 2 ^ 32 ∧ 10 ^ decimal.places < 2 ^ 64 ∧ decimal.count < 2 ^ 64 ∧
        ∃ n d, n = decimal.count / Nat.gcd decimal.count (10 ^ decimal.places) ∧
          d = 10 ^ decimal.places / Nat.gcd decimal.count (10 ^ decimal.places) ∧
          n < 2 ^ 32 ∧ d < 2 ^ 32 ∧ new n d = .ok m := by
  have hfractional (digits : List Char) :
      (if digits = [] then some 0 else fitting (2 ^ 64) (natOf digits)) =
        fitting (2 ^ 64) (natOf digits) := by
    split_ifs with h
    · rw [h]
      rfl
    · rfl
  simp only [fromStr, gcd_eq, reject_bind_eq_ok, okOr_bind_eq_ok, hfractional, fitting_eq_some,
    Decimal.read_eq_some, and_assoc, exists_and_left, exists_eq_left', exists_eq_left]
  constructor
  · rintro ⟨-, decimal, htext, hplaces, hpow, -, -, -, hrest⟩
    exact ⟨decimal, htext, hplaces, hpow, hrest⟩
  · rintro ⟨decimal, htext, hplaces, hpow, hcount, hrest⟩
    have hwhole : natOf decimal.whole ≤ natOf decimal.whole * 10 ^ decimal.places :=
      Nat.le_mul_of_pos_right _ (Nat.pow_pos (by decide))
    have hsum : natOf decimal.whole * 10 ^ decimal.places + natOf (decimal.fraction.getD []) <
      2 ^ 64 := hcount
    refine ⟨?_, decimal, htext, hplaces, hpow, by omega, by omega, ?_, hcount, hrest⟩
    · -- a decimal has neither a sign nor an exponent
      rw [htext]
      rintro (h | h | h | h | h)
      · exact decimal.text_ne_nil h
      · exact absurd (isNumeric_of_mem_text (List.mem_of_mem_head? h)) (by decide)
      · exact absurd (isNumeric_of_mem_text (List.mem_of_mem_head? h)) (by decide)
      · exact absurd (isNumeric_of_mem_text h) (by decide)
      · exact absurd (isNumeric_of_mem_text h) (by decide)
    · exact lt_of_le_of_lt (Nat.le_add_right _ _) hsum

/-- What is accepted is the exact value of its source, as a proper fraction. -/
theorem Source.parse_exact {source : Source} (h : source.parse = .ok m) :
    source.Means m.value ∧ m.Proper := by
  cases source with
  | wire numerator denominator => exact proper_of_new h
  | text text =>
    obtain ⟨decimal, htext, -, -, -, n, d, rfl, rfl, -, -, hnew⟩ := fromStr_eq_ok.1 h
    obtain ⟨hvalue, hproper⟩ := proper_of_new hnew
    rw [cast_div_gcd (Nat.pow_pos (by decide)), ← decimal.value_eq] at hvalue
    exact ⟨⟨decimal, htext, hvalue⟩, hproper⟩

theorem Source.means_unique {source : Source} {q q' : ℚ} (h : source.Means q)
    (h' : source.Means q') : q = q' := by
  cases source with
  | wire numerator denominator => exact h.trans h'.symm
  | text text =>
    obtain ⟨decimal, htext, rfl⟩ := h
    obtain ⟨decimal', htext', rfl⟩ := h'
    rw [Decimal.text_injective (htext.symm.trans htext')]

/-- A decimal from one to a hundred, with few digits, whose fraction in lowest terms is one of
32-bit numbers. -/
structure Representable (decimal : Decimal) : Prop where
  one_le : 1 ≤ decimal.value
  le_hundred : decimal.value ≤ 100
  places_le : decimal.places ≤ 17
  num_lt : decimal.value.num < 2 ^ 32
  den_lt : decimal.value.den < 2 ^ 32

theorem Representable.fromStr {text : String} {decimal : Decimal} (h : Representable decimal)
    (htext : text.toList = decimal.text) : ∃ m, fromStr text = .ok m := by
  obtain ⟨hone, hhundred, hplaces, hnum, hden⟩ := h
  have hpow : 0 < 10 ^ decimal.places := Nat.pow_pos (by decide)
  have hpow_le : 10 ^ decimal.places ≤ 10 ^ 17 := Nat.pow_le_pow_right (by decide) hplaces
  rw [decimal.value_eq] at hone hhundred hnum hden
  have hcount := ((bounds_iff hpow).1 ⟨hone, hhundred⟩).2
  rw [← cast_div_gcd hpow] at hone hhundred hnum hden
  have hgcd := Nat.gcd_pos_of_pos_right decimal.count hpow
  have hcoprime := Nat.coprime_div_gcd_div_gcd hgcd
  have hpos : 0 < 10 ^ decimal.places / Nat.gcd decimal.count (10 ^ decimal.places) :=
    Nat.div_pos (Nat.gcd_le_right _ hpow) hgcd
  generalize hn : decimal.count / Nat.gcd decimal.count (10 ^ decimal.places) = n at *
  generalize hd : 10 ^ decimal.places / Nat.gcd decimal.count (10 ^ decimal.places) = d at *
  obtain ⟨hle, hupper⟩ := (bounds_iff hpos).1 ⟨hone, hhundred⟩
  rw [(num_den_of_coprime hpos hcoprime).1] at hnum
  rw [(num_den_of_coprime hpos hcoprime).2] at hden
  have hnum : n < 2 ^ 32 := by exact_mod_cast hnum
  refine ⟨_, fromStr_eq_ok.2 ⟨decimal, htext, by omega, by omega, by omega, n, d, hn.symm, hd.symm,
    hnum, hden, new_eq_ok.2 ⟨⟨hpos, hle, hupper, by omega⟩, ⟨?_, ?_⟩, rfl⟩⟩⟩
  · exact lt_of_le_of_lt (Nat.div_le_self _ _) hnum
  · exact lt_of_le_of_lt (Nat.div_le_self _ _) hden

/-- **Multipliers are exact**: what is accepted is the value of its source in lowest terms, from one
to a hundred, and two sources give the same multiplier when their values agree. Every decimal that
can be represented is accepted. -/
theorem multipliers_exact :
    (∀ (source : Source) m, source.parse = .ok m → source.Means m.value ∧ m.Proper) ∧
      (∀ (a b : Source) m m' q q', a.parse = .ok m → b.parse = .ok m' → a.Means q → b.Means q' →
        (m = m' ↔ q = q')) ∧
      ∀ (text : String) (decimal : Decimal), text.toList = decimal.text → Representable decimal →
        ∃ m, fromStr text = .ok m := by
  refine ⟨fun _ _ => Source.parse_exact, fun a b m m' q q' ha hb hq hq' => ?_,
    fun _ _ htext h => h.fromStr htext⟩
  obtain ⟨hmeans, hproper⟩ := Source.parse_exact ha
  obtain ⟨hmeans', hproper'⟩ := Source.parse_exact hb
  obtain rfl := Source.means_unique hmeans hq
  obtain rfl := Source.means_unique hmeans' hq'
  exact ⟨fun h => h ▸ rfl, eq_of_value_eq hproper hproper'⟩

end BackoffMultiplier

end MemCordon
