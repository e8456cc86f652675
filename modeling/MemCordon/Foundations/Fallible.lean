import Mathlib.Init

/-!
# Fallible computations

Peeling of computations in `Except`: a sequence succeeds exactly when each of its steps does.
-/

namespace MemCordon.Fallible

universe u v

variable {ε ε' : Type v} {α β : Type u}

/-- A value, or the given error when there is none. -/
def okOr (e : ε) : Option α → Except ε α
  | some a => .ok a
  | none => .error e

variable {e : ε} {a : α}

theorem okOr_eq_ok {o : Option α} : okOr e o = .ok a ↔ o = some a := by
  cases o <;> simp [okOr]

variable {x : Except ε α} {f : α → Except ε β} {b : β}

theorem bind_eq_ok : (x >>= f) = .ok b ↔ ∃ a, x = .ok a ∧ f a = .ok b := by
  cases x with
  | error e | ok a => simp [bind, Except.bind]

theorem pure_eq_ok {a b : α} : (pure a : Except ε α) = .ok b ↔ b = a :=
  ⟨fun h => (Except.ok.inj h).symm, fun h => congrArg Except.ok h.symm⟩

variable {bad : Prop}

theorem ite_error_eq_ok [Decidable bad] : (if bad then .error e else x) = .ok a ↔
    ¬bad ∧ x = .ok a := by
  by_cases h : bad <;> simp [h]

/-- Fail with an error on a condition. -/
def reject (e : ε) (bad : Prop) [Decidable bad] : Except ε Unit := if bad then .error e else .ok ()

theorem reject_eq_ok [Decidable bad] : reject e bad = .ok () ↔ ¬bad := by
  unfold reject
  by_cases h : bad <;> simp [h]

theorem reject_eq_error {e e' : ε} [Decidable bad] : reject e bad = .error e' ↔ bad ∧ e = e' := by
  unfold reject
  by_cases h : bad <;> simp [h]

theorem reject_bind_eq_ok {β : Type} [Decidable bad] {f : Unit → Except ε β} {b : β} :
    (reject e bad >>= f) = .ok b ↔ ¬bad ∧ f () = .ok b := by
  unfold reject
  by_cases h : bad <;> simp [h, bind, Except.bind]

theorem okOr_bind_eq_ok {o : Option α} : (okOr e o >>= f) = .ok b ↔ ∃ a, o = some a ∧
    f a = .ok b := by
  cases o <;> simp [okOr, bind, Except.bind]

/-- The value of a computation that is known to succeed. -/
def expect (x : Except ε α) (h : x.isOk = true) : α :=
  match x, h with
  | .ok a, _ => a

/-- `Result::is_ok_and` -/
def isOkAnd (x : Except ε α) (p : α → Bool) : Bool :=
  match x with
  | .ok a => p a
  | .error _ => false

theorem isOkAnd_eq_true {p : α → Bool} : isOkAnd x p = true ↔ ∃ a, x = .ok a ∧ p a = true := by
  cases x <;> simp [isOkAnd]

/-- A sequence of checks passes when each of them does. -/
theorem unit_bind_eq_ok {α : Type} {x : Except ε Unit} {f : Unit → Except ε α} {a : α} :
    (x >>= f) = .ok a ↔ x = .ok () ∧ f () = .ok a := by
  cases x with
  | error e | ok u => simp [bind, Except.bind]

/-- The same error, or related values. -/
inductive SameUpTo (r : α → α → Prop) : Except ε α → Except ε α → Prop
  | ok {a b : α} (h : r a b) : SameUpTo r (.ok a) (.ok b)
  | error (e : ε) : SameUpTo r (.error e) (.error e)

theorem bind_eq_error : (x >>= f) = .error e ↔ x = .error e ∨ ∃ a, x = .ok a ∧ f a = .error e := by
  cases x with
  | error e' | ok a => simp [bind, Except.bind]

variable {g : ε → ε'}

@[simp] theorem mapError_ok : (Except.ok a : Except ε α).mapError g = .ok a := rfl

@[simp] theorem mapError_error : (Except.error e : Except ε α).mapError g = .error (g e) := rfl

theorem mapError_eq_ok : x.mapError g = .ok a ↔ x = .ok a := by
  cases x <;> simp

theorem mapError_eq_error {e' : ε'} : x.mapError g = .error e' ↔ ∃ e, x = .error e ∧ g e = e' := by
  cases x <;> simp

theorem map_eq_ok {f : α → β} : x.map f = .ok b ↔ ∃ a, x = .ok a ∧ f a = b := by
  cases x <;> simp [Except.map]

theorem map_eq_error {f : α → β} : x.map f = .error e ↔ x = .error e := by
  cases x <;> simp [Except.map]

end MemCordon.Fallible
