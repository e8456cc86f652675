import MemCordon.Foundations.Storage

/-!
# Postconditions of tasks

`Task.Ends` says where a task ends: with a value in a store that satisfies one condition, or with an
error in a store that satisfies another. The rules take a task apart from its start, so that a proof
follows the text of the task and states at each step what has to hold if the task stops there.
-/

namespace MemCordon.Task

variable {ω ε α β : Type}

/-- From the store `w` the task returns a value with `Q`, or an error with `E`. -/
def Ends (m : Task ω ε α) (w : ω) (Q : ω → α → Prop) (E : ω → ε → Prop) : Prop :=
  match run m w with
  | (w', .ok a) => Q w' a
  | (w', .error e) => E w' e

variable {m : Task ω ε α} {f : α → Task ω ε β} {w : ω} {Q : ω → β → Prop} {E : ω → ε → Prop}

theorem Ends.of_ok {Q : ω → α → Prop} (h : Ends m w Q E) {w' : ω} {a : α}
    (hrun : run m w = (w', .ok a)) : Q w' a := by
  unfold Ends at h
  rwa [hrun] at h

theorem Ends.of_error {Q : ω → α → Prop} (h : Ends m w Q E) {w' : ω} {e : ε}
    (hrun : run m w = (w', .error e)) :
    E w' e := by
  unfold Ends at h
  rwa [hrun] at h

theorem Ends.mono {Q Q' : ω → α → Prop} {E' : ω → ε → Prop} (h : Ends m w Q E)
    (hQ : ∀ w' a, Q w' a → Q' w' a) (hE : ∀ w' e, E w' e → E' w' e) : Ends m w Q' E' := by
  unfold Ends at h ⊢
  generalize run m w = stop at h ⊢
  obtain ⟨w', e | a⟩ := stop
  · exact hE w' e h
  · exact hQ w' a h

theorem ends_bind (h : Ends m w (fun w' a => Ends (f a) w' Q E) E) : Ends (m >>= f) w Q E := by
  unfold Ends at h ⊢
  rw [run_bind]
  generalize run m w = stop at h ⊢
  obtain ⟨w', e | a⟩ := stop
  · exact h
  · exact h

/-- A step that may fail: the store is the same, with its error or before what follows. -/
theorem ends_lift_bind {x : Except ε α} (herror : ∀ e, x = .error e → E w e)
    (hok : ∀ a, x = .ok a → Ends (f a) w Q E) : Ends (lift x >>= f) w Q E := by
  refine ends_bind ?_
  cases x with
  | error e => exact herror e rfl
  | ok a => exact hok a rfl

theorem ends_inspect_bind {g : ω → α} (h : Ends (f (g w)) w Q E) : Ends (inspect g >>= f) w Q E :=
  ends_bind h

theorem ends_act_bind {change : Change ω} {f : Unit → Task ω ε β}
    (h : Ends (f ()) (change.apply w) Q E) :
    Ends (act change >>= f) w Q E := ends_bind h

theorem ends_lift {x : Except ε β} (herror : ∀ e, x = .error e → E w e)
    (hok : ∀ b, x = .ok b → Q w b) :
    Ends (lift x) w Q E := by
  cases x with
  | error e => exact herror e rfl
  | ok b => exact hok b rfl

theorem ends_pure {b : β} (h : Q w b) : Ends (pure b) w Q E := h

end MemCordon.Task
