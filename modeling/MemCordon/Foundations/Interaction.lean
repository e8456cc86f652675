import Mathlib.Tactic.TypeStar

/-!
# Programs that call out

A program with a variable `σ` that it may hand over in a call and gets back with a reply. The
program does not say what a call does: `Interaction.run` runs it with a handler that owns a world of
its own.

* `Script` is a program with errors, written with `do`: `inspect`, `modify`, `fail`, `lift`,
  `demand` and `attempt`.
* `Keeps handle I m`: from a world and a variable that satisfy `I` the script ends in such, whether
  it fails or not. `keeps_bind` and the lemmas for the primitives compose.
-/

namespace MemCordon

variable {σ ρ ω ε α β : Type}

/-- A program with a variable that calls out: a call hands the variable over, and goes on with a
reply and the variable that comes back. -/
inductive Interaction (σ ρ α : Type)
  | done (a : α) (s : σ)
  | call (s : σ) (next : ρ → σ → Interaction σ ρ α)

namespace Interaction

/-- Go on with the result and the variable. -/
def andThen (f : α → σ → Interaction σ ρ β) : Interaction σ ρ α → Interaction σ ρ β
  | done a s => f a s
  | call s next => call s fun reply s' => (next reply s').andThen f

/-- Run the program: the handler takes its world and the variable, and returns both with a reply. -/
def run (handle : ω → σ → ω × ρ × σ) (w : ω) : Interaction σ ρ α → ω × α × σ
  | done a s => (w, a, s)
  | call s next => run handle (handle w s).1 (next (handle w s).2.1 (handle w s).2.2)

theorem run_andThen (handle : ω → σ → ω × ρ × σ) (w : ω) (p : Interaction σ ρ α)
    (f : α → σ → Interaction σ ρ β) :
    run handle w (p.andThen f) =
      run handle (run handle w p).1 (f (run handle w p).2.1 (run handle w p).2.2) := by
  induction p generalizing w with
  | done a s => rfl
  | call s next ih => exact ih _ _ _

end Interaction

/-- A program that may end with an error. What it did to the variable stays. -/
def Script (σ ρ ε α : Type) : Type := σ → Interaction σ ρ (Except ε α)

namespace Script

protected def bind (m : Script σ ρ ε α) (f : α → Script σ ρ ε β) : Script σ ρ ε β := fun s =>
  (m s).andThen fun
    | .ok a, s' => f a s'
    | .error e, s' => .done (.error e) s'

instance : Monad (Script σ ρ ε) where
  pure a := fun s => .done (.ok a) s
  bind := Script.bind

/-- A value of the variable. -/
def inspect (g : σ → α) : Script σ ρ ε α := fun s => .done (.ok (g s)) s

def modify (f : σ → σ) : Script σ ρ ε Unit := fun s => .done (.ok ()) (f s)

def fail (e : ε) : Script σ ρ ε α := fun s => .done (.error e) s

/-- Go on with the value, or end with the error. -/
def lift (x : Except ε α) : Script σ ρ ε α := fun s => .done x s

/-- The result of a script as a value, also when it is an error. -/
def attempt (m : Script σ ρ ε α) : Script σ ρ ε (Except ε α) := fun s =>
  (m s).andThen fun result s' => .done (.ok result) s'

/-- Hand the variable over and end with the error that comes back. -/
def demand : Script σ (Except ε Unit) ε Unit := fun s => .call s fun reply s' => .done reply s'

/-! ## Invariants -/

section Keeps

variable (handle : ω → σ → ω × ρ × σ) (I : ω → σ → Prop)

/-- From a world and a variable that satisfy `I` the script ends in such. -/
def Keeps (m : Script σ ρ ε α) : Prop :=
  ∀ w s, I w s → I (Interaction.run handle w (m s)).1 (Interaction.run handle w (m s)).2.2

variable {handle I}

theorem keeps_pure (a : α) : Keeps handle I (pure a : Script σ ρ ε α) := fun _ _ h => h

theorem keeps_fail (e : ε) : Keeps handle I (fail e : Script σ ρ ε α) := fun _ _ h => h

theorem keeps_lift (x : Except ε α) : Keeps handle I (lift x : Script σ ρ ε α) := fun _ _ h => h

theorem keeps_modify {f : σ → σ} (hf : ∀ w s, I w s → I w (f s)) :
    Keeps handle I (modify f : Script σ ρ ε Unit) := fun w s h => hf w s h

variable {m : Script σ ρ ε α} {f : α → Script σ ρ ε β}

theorem keeps_andThen {g : Except ε α → σ → Interaction σ ρ (Except ε β)} (hm : Keeps handle I m)
    (hg : ∀ x, Keeps handle I (g x)) : Keeps handle I fun s => (m s).andThen g := by
  intro w s h
  dsimp only
  rw [Interaction.run_andThen]
  exact hg _ _ _ (hm w s h)

theorem keeps_attempt (hm : Keeps handle I m) : Keeps handle I (attempt m) :=
  keeps_andThen hm keeps_pure

theorem keeps_bind (hm : Keeps handle I m) (hf : ∀ a, Keeps handle I (f a)) :
    Keeps handle I (m >>= f) := by
  refine keeps_andThen hm fun x => ?_
  cases x with
  | ok a => exact hf a
  | error e => exact keeps_fail e

theorem keeps_inspect (g : σ → α) : Keeps handle I (inspect g : Script σ ρ ε α) := fun _ _ h => h

/-- A script that inspects its variable first may use what it saw. -/
theorem keeps_inspect_bind {g : σ → α}
    (hf : ∀ w s, I w s →
    I (Interaction.run handle w (f (g s) s)).1 (Interaction.run handle w (f (g s) s)).2.2) :
    Keeps handle I (inspect g >>= f) := fun w s h => hf w s h

/-- What follows a step that may fail is only run with its value. -/
theorem keeps_lift_bind {x : Except ε α}
    (hf : ∀ a, x = .ok a → Keeps handle I (f a)) : Keeps handle I (lift x >>= f) := by
  intro w s h
  cases x with
  | error e => exact h
  | ok a => exact hf a rfl w s h

end Keeps

theorem keeps_demand {handle : ω → σ → ω × Except ε Unit × σ} {I : ω → σ → Prop}
    (hhandle : ∀ w s, I w s → I (handle w s).1 (handle w s).2.2) :
    Keeps handle I (demand : Script σ (Except ε Unit) ε Unit) := fun w s h => hhandle w s h

end Script

end MemCordon
