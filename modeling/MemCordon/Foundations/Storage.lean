import Mathlib.Data.Nat.Notation
import Mathlib.Logic.Relation
import Mathlib.Tactic.Choose
import Mathlib.Tactic.SplitIfs
import MemCordon.Foundations.Interaction

/-!
# Programs on stored files

A program that reads and changes a store, one operation after another. An operation may be
interrupted: `Change` says what a complete operation does and which states an interrupted one can
leave. `Program.run` runs without interruption, and `Program.Leaves` says which states a run can
stop in, when it is cut off before, inside or after any of its operations.

* `Task` is a program that may end with an error; `Task.leaves_bind` splits the states that a
  sequence can stop in.
* `Task.forEach` works through the entries of a directory; `Task.completes_forEach`: each entry
  comes out as if it were alone, and so after several passes (`pass_comp`).
* `Draft` is a file that was written from the start of the text of a value, and holds the value when
  the whole text is there.
* `Task.Stays` is an invariant of every state that a task can stop in, also in the middle.
* `Interaction.perform` runs a program that calls out as a program on a store.
-/

namespace MemCordon

variable {ω κ σ ρ ε α β : Type}

/-! ## Programs -/

/-- An operation on a store: what it does, and the states that an interrupted one can leave beside
the one before and the one after. -/
structure Change (ω : Type) where
  apply : ω → ω
  torn : ω → ω → Prop := fun _ _ => False

/-- A sequence of operations that depends on what it reads. -/
inductive Program (ω α : Type)
  | done (a : α)
  | look (next : ω → Program ω α)
  | act (change : Change ω) (next : Program ω α)

namespace Program

/-- Run without interruption. -/
def run (w : ω) : Program ω α → ω × α
  | done a => (w, a)
  | look next => (next w).run w
  | act change next => next.run (change.apply w)

/-- The states that a run can stop in. -/
def Leaves (w : ω) : Program ω α → ω → Prop
  | done _, w' => w' = w
  | look next, w' => (next w).Leaves w w'
  | act change next, w' => w' = w ∨ change.torn w w' ∨ next.Leaves (change.apply w) w'

def andThen (f : α → Program ω β) : Program ω α → Program ω β
  | done a => f a
  | look next => look fun w => (next w).andThen f
  | act change next => act change (next.andThen f)

theorem run_andThen (w : ω) (p : Program ω α) (f : α → Program ω β) :
    (p.andThen f).run w = (f (p.run w).2).run (p.run w).1 := by
  induction p generalizing w with
  | done a => rfl
  | look next ih => exact ih w w
  | act change next ih => exact ih _

theorem leaves_start (w : ω) (p : Program ω α) : p.Leaves w w := by
  induction p with
  | done a => rfl
  | look next ih => exact ih w
  | act change next ih => exact .inl rfl

theorem leaves_end (w : ω) (p : Program ω α) : p.Leaves w (p.run w).1 := by
  induction p generalizing w with
  | done a => rfl
  | look next ih => exact ih w w
  | act change next ih => exact .inr (.inr (ih _))

/-- The state after the first `n` operations. -/
def after (w : ω) : ℕ → Program ω α → ω
  | _, done _ => w
  | n, look next => (next w).after w n
  | 0, act _ _ => w
  | n + 1, act change next => next.after (change.apply w) n

theorem leaves_after (w : ω) (n : ℕ) (p : Program ω α) : p.Leaves w (p.after w n) := by
  induction p generalizing w n with
  | done a => rfl
  | look next ih => exact ih w w n
  | act change next ih =>
    cases n with
    | zero => exact .inl rfl
    | succ n => exact .inr (.inr (ih _ n))

theorem leaves_andThen {w w' : ω} {p : Program ω α} {f : α → Program ω β} :
    (p.andThen f).Leaves w w' ↔ p.Leaves w w' ∨ (f (p.run w).2).Leaves (p.run w).1 w' := by
  induction p generalizing w with
  | done a =>
    constructor
    · exact .inr
    · rintro (rfl | h)
      · exact leaves_start _ _
      · exact h
  | look next ih => exact ih w
  | act change next ih =>
    simp only [andThen, Leaves, ih, or_assoc]
    rfl

end Program

/-! ## Tasks -/

/-- A program that may end with an error. What it did to the store stays. -/
def Task (ω ε α : Type) : Type := Program ω (Except ε α)

namespace Task

/-- What follows a value; an error ends the task. -/
def follow (f : α → Task ω ε β) : Except ε α → Program ω (Except ε β)
  | .ok a => f a
  | .error e => Program.done (.error e)

protected def bind (m : Task ω ε α) (f : α → Task ω ε β) : Task ω ε β :=
  Program.andThen (follow f) m

instance : Monad (Task ω ε) where
  pure a := Program.done (.ok a)
  bind := Task.bind

/-- A value of the store. -/
def inspect (g : ω → α) : Task ω ε α := Program.look fun w => .done (.ok (g w))

def act (change : Change ω) : Task ω ε Unit := Program.act change (.done (.ok ()))

/-- Go on with the value, or end with the error. -/
def lift (x : Except ε α) : Task ω ε α := Program.done x

/-- The store and the result after a run without interruption. -/
def run (m : Task ω ε α) (w : ω) : ω × Except ε α := Program.run w m

/-- The stores that a run can stop in. -/
def Leaves (m : Task ω ε α) (w w' : ω) : Prop := Program.Leaves w m w'

/-- The result of a task as a value, also when it is an error. -/
def attempt (m : Task ω ε α) : Task ω ε (Except ε α) :=
  Program.andThen (fun result => .done (.ok result)) m

variable {m : Task ω ε α} {f : α → Task ω ε β} {w w' : ω}

variable {w₁ : ω}

theorem run_attempt : run (attempt m) w = ((run m w).1, .ok (run m w).2) :=
  Program.run_andThen w m _

theorem run_bind : run (m >>= f) w =
    match run m w with
    | (w₁, .ok a) => run (f a) w₁
    | (w₁, .error e) => (w₁, .error e) := by
  have hrun : run (m >>= f) w = Program.run (run m w).1 (follow f (run m w).2) :=
    Program.run_andThen w m (follow f)
  rw [hrun]
  rcases run m w with ⟨w₁, _ | a⟩
  · rfl
  · rfl

variable {a : α}

theorem run_bind_ok (h : run m w = (w₁, .ok a)) : run (m >>= f) w = run (f a) w₁ := by
  rw [run_bind, h]

theorem run_bind_error {e : ε} (h : run m w = (w₁, .error e)) :
    run (m >>= f) w = (w₁, .error e) := by
  rw [run_bind, h]

/-- A sequence ends well exactly when its first part does and then the rest. -/
theorem run_bind_eq_ok {w₂ : ω} {b : β} :
    run (m >>= f) w = (w₂, .ok b) ↔ ∃ w₁ a, run m w = (w₁, .ok a) ∧ run (f a) w₁ = (w₂, .ok b) := by
  rw [run_bind]
  rcases run m w with ⟨w₁, _ | a⟩ <;> simp [and_assoc]

theorem leaves_bind : Leaves (m >>= f) w w' ↔ Leaves m w w' ∨ ∃ w₁ a, run m w = (w₁, .ok a) ∧
    Leaves (f a) w₁ w' := by
  have hleaves : Leaves (m >>= f) w w' ↔ Leaves m w w' ∨
      Program.Leaves (run m w).1 (follow f (run m w).2) w' :=
    Program.leaves_andThen
  have hend : Leaves m w (run m w).1 := Program.leaves_end w m
  rw [hleaves]
  generalize run m w = result at hend ⊢
  rcases result with ⟨w₁, e | a⟩
  · have hsame : w' = w₁ → Leaves m w w' := fun h => h ▸ hend
    simpa [follow, Program.Leaves] using hsame
  · simp [follow, Leaves, and_assoc]

theorem leaves_end : Leaves m w (run m w).1 := Program.leaves_end w m

/-- The task ends well, in a store. -/
def Completes (m : Task ω ε α) (w w' : ω) : Prop := ∃ a, run m w = (w', .ok a)

/-- A sequence completes as its parts do, when the second one does not depend on what the first one
returns. -/
theorem completes_bind {R S : ω → ω → Prop} (hm : Completes m = R) (hf : ∀ a, Completes (f a) = S) :
    Completes (m >>= f) = Relation.Comp R S := by
  subst hm
  funext w w'
  refine propext ⟨?_, ?_⟩
  · rintro ⟨b, h⟩
    obtain ⟨w₁, a, hrun, hrest⟩ := run_bind_eq_ok.1 h
    exact ⟨w₁, ⟨a, hrun⟩, hf a ▸ ⟨b, hrest⟩⟩
  · rintro ⟨w₁, ⟨a, hrun⟩, hrest⟩
    obtain ⟨b, hb⟩ : Completes (f a) w₁ w' := hf a ▸ hrest
    exact ⟨b, run_bind_eq_ok.2 ⟨w₁, a, hrun, hb⟩⟩

theorem completes_bind_pure {g : α → β} : Completes (m >>= fun a => pure (g a)) = Completes m := by
  funext w w'
  refine propext ⟨?_, ?_⟩
  · rintro ⟨b, h⟩
    obtain ⟨w₁, a, hrun, hpure⟩ := run_bind_eq_ok.1 h
    cases hpure
    exact ⟨a, hrun⟩
  · rintro ⟨a, hrun⟩
    exact ⟨g a, run_bind_eq_ok.2 ⟨w', a, hrun, rfl⟩⟩

/-- What only returns a value at the end adds no state. -/
theorem leaves_bind_pure {g : α → β} (h : Leaves (m >>= fun a => pure (g a)) w w') :
    Leaves m w w' := by
  rcases leaves_bind.1 h with hfirst | ⟨w₁, a, hrun, rfl⟩
  · exact hfirst
  · have hend : Leaves m w (run m w).1 := leaves_end
    rwa [hrun] at hend

/-- A sequence of parts that change nothing changes nothing. -/
theorem leaves_bind_same (hm : ∀ w', Leaves m w w' → w' = w)
    (hf : ∀ a w', Leaves (f a) w w' → w' = w) :
    ∀ w', Leaves (m >>= f) w w' → w' = w := by
  intro w' h
  rcases leaves_bind.1 h with hfirst | ⟨w₁, a, hrun, hrest⟩
  · exact hm w' hfirst
  · have hsame : w₁ = w := hm w₁ (by simpa [hrun] using (leaves_end : Leaves m w (run m w).1))
    subst hsame
    exact hf a w' hrest

@[simp] theorem run_pure (a : α) : run (pure a : Task ω ε α) w = (w, .ok a) := rfl

@[simp] theorem run_inspect (g : ω → α) : run (inspect g : Task ω ε α) w = (w, .ok (g w)) := rfl

@[simp] theorem run_act (change : Change ω) :
    run (act change : Task ω ε Unit) w = (change.apply w, .ok ()) := rfl

@[simp] theorem run_lift (x : Except ε α) : run (lift x : Task ω ε α) w = (w, x) := rfl

@[simp] theorem leaves_pure (a : α) : Leaves (pure a : Task ω ε α) w w' ↔ w' = w := Iff.rfl

@[simp] theorem leaves_inspect (g : ω → α) : Leaves (inspect g : Task ω ε α) w w' ↔
    w' = w := Iff.rfl

@[simp] theorem leaves_act (change : Change ω) : Leaves (act change : Task ω ε Unit) w w' ↔
    w' = w ∨ change.torn w w' ∨ w' = change.apply w := Iff.rfl

@[simp] theorem leaves_lift (x : Except ε α) : Leaves (lift x : Task ω ε α) w w' ↔ w' = w := Iff.rfl

@[simp] theorem run_inspect_bind (g : ω → α) : run (inspect g >>= f) w = run (f (g w)) w := run_bind

@[simp] theorem run_act_bind (change : Change ω) {f : Unit → Task ω ε β} :
    run (act change >>= f) w = run (f ()) (change.apply w) := run_bind

@[simp] theorem leaves_inspect_bind (g : ω → α) : Leaves (inspect g >>= f) w w' ↔
    Leaves (f (g w)) w w' := Iff.rfl

@[simp] theorem leaves_act_bind (change : Change ω) {f : Unit → Task ω ε β} :
    Leaves (act change >>= f) w w' ↔
    w' = w ∨ change.torn w w' ∨ Leaves (f ()) (change.apply w) w' := Iff.rfl

variable {x : Except ε α}

theorem run_lift_bind (h : x = .ok a) : run (lift x >>= f) w = run (f a) w := by
  rw [h]
  exact run_bind

theorem run_lift_bind_eq_ok {w₂ : ω} {b : β} :
    run (lift x >>= f) w = (w₂, .ok b) ↔ ∃ a, x = .ok a ∧ run (f a) w = (w₂, .ok b) := by
  simp [run_bind_eq_ok, and_assoc]

theorem leaves_lift_bind (h : x = .ok a) : Leaves (lift x >>= f) w w' ↔ Leaves (f a) w w' := by
  rw [h]
  exact Iff.rfl

theorem completes_lift_bind (h : x = .ok a) : Completes (lift x >>= f) = Completes (f a) := by
  rw [h]
  rfl

end Task

/-! ## Parts of a store -/

/-- A part of a store that can be changed alone. -/
structure Part (ω κ : Type) where
  get : ω → κ
  set : ω → κ → ω
  get_set : ∀ w k, get (set w k) = k
  set_set : ∀ w k k', set (set w k) k' = set w k'
  set_get : ∀ w, set w (get w) = w

def Change.within (part : Part ω κ) (change : Change κ) : Change ω where
  apply w := part.set w (change.apply (part.get w))
  torn w w' := ∃ k, change.torn (part.get w) k ∧ w' = part.set w k

namespace Program

def within (part : Part ω κ) : Program κ α → Program ω α
  | done a => done a
  | look next => look fun w => (next (part.get w)).within part
  | act change next => act (change.within part) (next.within part)

theorem run_within (part : Part ω κ) (w : ω) (p : Program κ α) :
    (p.within part).run w = (part.set w (p.run (part.get w)).1, (p.run (part.get w)).2) := by
  induction p generalizing w with
  | done a => exact Prod.ext (part.set_get w).symm rfl
  | look next ih => exact ih (part.get w) w
  | act change next ih =>
    rw [within, run, ih]
    simp only [Change.within, part.get_set, part.set_set, run]

theorem leaves_within {part : Part ω κ} {w w' : ω} {p : Program κ α} :
    (p.within part).Leaves w w' ↔ ∃ k, p.Leaves (part.get w) k ∧ w' = part.set w k := by
  induction p generalizing w with
  | done a => simp only [within, Leaves, exists_eq_left, part.set_get]
  | look next ih => exact ih (part.get w)
  | act change next ih =>
    simp only [within, Leaves, ih, Change.within, part.get_set, part.set_set]
    constructor
    · rintro (rfl | ⟨k, hk, rfl⟩ | ⟨k, hk, rfl⟩)
      · exact ⟨_, .inl rfl, (part.set_get w').symm⟩
      · exact ⟨k, .inr (.inl hk), rfl⟩
      · exact ⟨k, .inr (.inr hk), rfl⟩
    · rintro ⟨k, rfl | hk | hk, rfl⟩
      · exact .inl (part.set_get w)
      · exact .inr (.inl ⟨k, hk, rfl⟩)
      · exact .inr (.inr ⟨k, hk, rfl⟩)

end Program

namespace Task

def within (part : Part ω κ) (m : Task κ ε α) : Task ω ε α := Program.within part m

variable {part : Part ω κ} {m : Task κ ε α} {w w' : ω}

theorem run_within :
    run (within part m) w = (part.set w (run m (part.get w)).1, (run m (part.get w)).2) :=
  Program.run_within part w m

theorem run_within_eq {k : κ} {result : Except ε α} (h : run m (part.get w) = (k, result)) :
    run (within part m) w = (part.set w k, result) := by
  rw [run_within, h]

theorem run_within_eq_ok {a : α} :
    run (within part m) w = (w', .ok a) ↔ ∃ k, run m (part.get w) = (k, .ok a) ∧
      w' = part.set w k := by
  simp [run_within, Prod.ext_iff, and_assoc, and_comm, eq_comm]

theorem leaves_within : Leaves (within part m) w w' ↔ ∃ k, Leaves m (part.get w) k ∧
    w' = part.set w k :=
  Program.leaves_within

end Task

/-! ## Directories -/

section Directory

variable {ι : Type} [DecidableEq ι]

def Part.entry (i : ι) : Part (ι → κ) κ where
  get d := d i
  set d k := Function.update d i k
  get_set d k := Function.update_self i k d
  set_set d k k' := Function.update_idem k k' d
  set_get d := Function.update_eq_self i d

theorem Part.entry_set_self (i : ι) (d : ι → κ) (k : κ) : (Part.entry i).set d k i = k := by
  simp [Part.entry]

theorem Part.entry_set_of_ne {i j : ι} (h : j ≠ i) (d : ι → κ) (k : κ) :
    (Part.entry i).set d k j = d j := by
  simp [Part.entry, h]

/-- Every listed entry is changed as its relation says, and no other. -/
def Pass (R : ι → κ → κ → Prop) (names : List ι) (d d' : ι → κ) : Prop :=
  (∀ i ∈ names, R i (d i) (d' i)) ∧ ∀ i ∉ names, d' i = d i

/-- Two passes are one pass that does both to every entry. -/
theorem pass_comp {R S : ι → κ → κ → Prop} {names : List ι} :
    Relation.Comp (Pass R names) (Pass S names) =
      Pass (fun i => Relation.Comp (R i) (S i)) names := by
  funext d d'
  refine propext ⟨?_, ?_⟩
  · rintro ⟨d₁, ⟨hR, hsame⟩, ⟨hS, hsame'⟩⟩
    exact ⟨fun i hi => ⟨d₁ i, hR i hi, hS i hi⟩, fun i hi => (hsame' i hi).trans (hsame i hi)⟩
  · rintro ⟨hall, hsame⟩
    choose middle hR hS using hall
    refine ⟨fun i => if hi : i ∈ names then middle i hi else
      d i, ⟨fun i hi => ?_, fun i hi => ?_⟩, fun i hi => ?_, fun i hi => ?_⟩
    · simpa [hi] using hR i hi
    · simp [hi]
    · simpa [hi] using hS i hi
    · simpa [hi] using hsame i hi

namespace Task

/-- A task for every name, one after another, and all that they return. -/
def forEach (f : ι → Task κ ε (List β)) : List ι → Task (ι → κ) ε (List β)
  | [] => pure []
  | i :: names => do
    let first ← within (Part.entry i) (f i)
    let rest ← forEach f names
    return first ++ rest

/-- **Entries do not meet**: a pass over a directory ends well exactly when the task of every entry
does, and leaves every entry as its own task does. -/
theorem completes_forEach {f : ι → Task κ ε (List β)} {names : List ι} (hnames : names.Nodup) :
    Completes (forEach f names) = Pass (fun i => Completes (f i)) names := by
  funext d d'
  refine propext ?_
  induction names generalizing d with
  | nil =>
    constructor
    · rintro ⟨results, h⟩
      cases h
      exact ⟨by simp, fun _ _ => rfl⟩
    · rintro ⟨-, hsame⟩
      have hall : d' = d := funext fun i => hsame i (by simp)
      exact ⟨[], by rw [hall]; rfl⟩
  | cons i names ih =>
    obtain ⟨hi, hnames⟩ := List.nodup_cons.1 hnames
    constructor
    · rintro ⟨results, h⟩
      obtain ⟨d₁, first, hfirst, h⟩ := run_bind_eq_ok.1 h
      obtain ⟨d₂, rest, hrest, h⟩ := run_bind_eq_ok.1 h
      cases h
      obtain ⟨k, hrun, rfl⟩ := run_within_eq_ok.1 hfirst
      obtain ⟨hall, hsame⟩ := (ih hnames _).1 ⟨rest, hrest⟩
      have hown : d' i = k := (hsame i hi).trans (Part.entry_set_self i d k)
      refine ⟨fun j hj => ?_, fun j hj => ?_⟩
      · rcases List.mem_cons.1 hj with rfl | hj
        · exact ⟨first, hown ▸ hrun⟩
        · have hne : j ≠ i := fun h => hi (h ▸ hj)
          exact Part.entry_set_of_ne hne d k ▸ hall j hj
      · rw [List.mem_cons, not_or] at hj
        exact (hsame j hj.2).trans (Part.entry_set_of_ne hj.1 d k)
    · rintro ⟨hall, hsame⟩
      obtain ⟨first, hfirst⟩ := hall i (by simp)
      have hrest : Completes (forEach f names) ((Part.entry i).set d (d' i)) d' := by
        refine (ih hnames _).2 ⟨fun j hj => ?_, fun j hj => ?_⟩
        · have hne : j ≠ i := fun h => hi (h ▸ hj)
          rw [Part.entry_set_of_ne hne]
          exact hall j (by simp [hj])
        · by_cases hne : j = i
          · subst hne
            exact (Part.entry_set_self j d (d' j)).symm
          · rw [Part.entry_set_of_ne hne]
            exact hsame j (by simp [hne, hj])
      obtain ⟨rest, hrest⟩ := hrest
      refine ⟨first ++ rest, ?_⟩
      unfold forEach
      rw [run_bind_ok (run_within_eq_ok.2 ⟨_, hfirst, rfl⟩), run_bind_ok hrest, run_pure]

end Task

end Directory

/-! ## Invariants of tasks -/

namespace Task

/-- From a store that satisfies `P` a task stops only in such. -/
def Stays (P : ω → Prop) (m : Task ω ε α) : Prop := ∀ w w', P w → Leaves m w w' → P w'

section Stays

variable {P : ω → Prop} {m : Task ω ε α} {f : α → Task ω ε β}

theorem Stays.run (h : Stays P m) {w : ω} (hw : P w) : P (run m w).1 := h w _ hw leaves_end

theorem Stays.run_eq (h : Stays P m) {w w' : ω} {result : Except ε α} (hw : P w)
    (hrun : Task.run m w = (w', result)) :
    P w' := by
  have hend := h.run hw
  rwa [hrun] at hend

theorem stays_lift (x : Except ε α) : Stays P (lift x : Task ω ε α) := by
  rintro w w' hw rfl
  exact hw

theorem stays_pure (a : α) : Stays P (pure a : Task ω ε α) := stays_lift (.ok a)

theorem stays_act {change : Change ω} (happly : ∀ w, P w → P (change.apply w))
    (htorn : ∀ w w', P w → change.torn w w' → P w') : Stays P (act change : Task ω ε Unit) := by
  intro w w' hw h
  rcases leaves_act change |>.1 h with rfl | h | rfl
  · exact hw
  · exact htorn w w' hw h
  · exact happly w hw

/-- An operation that is done whole or not at all. -/
theorem stays_apply {g : ω → ω} (hg : ∀ w, P w → P (g w)) :
    Stays P (act { apply := g } : Task ω ε Unit) :=
  stays_act hg fun _ _ _ h => False.elim h

theorem stays_bind (hm : Stays P m) (hf : ∀ a, Stays P (f a)) : Stays P (m >>= f) := by
  intro w w' hw h
  rcases leaves_bind.1 h with hfirst | ⟨w₁, a, hrun, hrest⟩
  · exact hm w w' hw hfirst
  · exact hf a w₁ w' (hm.run_eq hw hrun) hrest

/-- What is read comes from a store that satisfies the invariant. -/
theorem stays_inspect_bind {g : ω → α} (hf : ∀ w, P w → Stays P (f (g w))) :
    Stays P (inspect g >>= f) := by
  intro w w' hw h
  exact hf w hw w w' hw ((leaves_inspect_bind g).1 h)

end Stays

end Task

/-! ## Scripts on a store -/

namespace Interaction

variable {τ : Type}

/-- Run a program that calls out on a store: `serve` is what a call does there, with a memory of its
own. -/
def perform (serve : τ → σ → Program ω (τ × ρ × σ)) (t : τ) : Interaction σ ρ α →
    Program ω (τ × α × σ)
  | done a s => .done (t, a, s)
  | call s next =>
    (serve t s).andThen fun answer => (next answer.2.1 answer.2.2).perform serve answer.1

end Interaction

/-- Perform a script as a task, and go on with its result. -/
def Script.perform {τ : Type} (serve : τ → σ → Program ω (τ × ρ × σ)) (t : τ) (m : Script σ ρ ε α)
    (s : σ) :
    Task ω ε α :=
  ((m s).perform serve t).andThen fun answer => .done answer.2.1

/-! ## Files -/

/-- The length of the text that a value is stored as, without its line end. -/
class TextLength (α : Type) where
  length : α → ℕ
  length_pos : ∀ a, 0 < length a

/-- A file that was written from the start of the text of a value. -/
structure Draft (α : Type) where
  value : α
  written : ℕ
  deriving DecidableEq

namespace Draft

variable [TextLength α]

/-- The file with the whole text and its line end. -/
def whole (a : α) : Draft α := ⟨a, TextLength.length a + 1⟩

/-- The value, when its text is there. The line end may be missing. -/
def parse (d : Draft α) : Option α :=
  if TextLength.length d.value ≤ d.written then some d.value else none

/-- The start of the text only: the file was cut off. -/
def IsTorn (d : Draft α) : Prop := d.written < TextLength.length d.value

instance (d : Draft α) : Decidable d.IsTorn := inferInstanceAs (Decidable (_ < _))

@[simp] theorem parse_whole (a : α) : (whole a).parse = some a := if_pos (Nat.le_succ _)

theorem parse_eq_none {d : Draft α} : d.parse = none ↔ d.IsTorn := by
  unfold parse IsTorn
  split_ifs with h
  · simpa using h
  · simpa using h

theorem parse_of_not_isTorn {d : Draft α} (h : ¬ d.IsTorn) : d.parse = some d.value :=
  if_pos (Nat.le_of_not_lt h)

end Draft

/-- A file that is replaced as a whole: the file, and the staging file beside it. -/
structure Cell (α : Type) where
  (file staging : Option (Draft α))
  deriving DecidableEq

namespace Cell

variable [TextLength α]

/-- A new staging file without text. -/
def create (a : α) : Change (Cell α) := { apply := fun c => { c with staging := some ⟨a, 0⟩ } }

/-- The text and its line end are written to the staging file. -/
def write (a : α) : Change (Cell α) where
  apply c := { c with staging := some (.whole a) }
  torn c c' := ∃ written ≤ TextLength.length a, c' = { c with staging := some ⟨a, written⟩ }

/-- The staging file becomes the file. -/
def rename : Change (Cell α) := { apply := fun c => ⟨c.staging, none⟩ }

/-- Replace the file: a staging file that is there already is an error. -/
def replace (a : α) : Task (Cell α) String Unit := do
  let staging ← Task.inspect Cell.staging
  Task.lift (if staging.isSome then .error "file exists" else .ok ())
  Task.act (create a)
  Task.act (write a)
  Task.act rename

variable {a : α} {c c' : Cell α}

theorem run_replace (h : c.staging = none) :
    (replace a).run c = (⟨some (.whole a), none⟩, .ok ()) := by
  simp [replace, h, Task.run_lift_bind, create, write, rename]

theorem run_replace_error {d : Draft α} (h : c.staging = some d) :
    (replace a).run c = (c, .error "file exists") := by
  simp [replace, h, Task.run_bind]

theorem leaves_replace (h : c.staging = none) : (replace a).Leaves c c' ↔
    c' = c ∨ (∃ written ≤ TextLength.length a + 1, c' = ⟨c.file, some ⟨a, written⟩⟩) ∨
      c' = ⟨some (.whole a), none⟩ := by
  have hfree : (if c.staging.isSome = true then Except.error "file exists" else Except.ok ()) =
      Except.ok () := by
    rw [h]
    rfl
  unfold replace
  rw [Task.leaves_inspect_bind, Task.leaves_lift_bind (a := ()) hfree, Task.leaves_act_bind,
    Task.leaves_act_bind, Task.leaves_act]
  constructor
  · rintro (rfl | hcreate | rfl | ⟨written, hwritten, rfl⟩ | rfl | hrename | rfl)
    · exact .inl rfl
    · exact False.elim hcreate
    · exact .inr (.inl ⟨0, Nat.zero_le _, rfl⟩)
    · exact .inr (.inl ⟨written, Nat.le_succ_of_le hwritten, rfl⟩)
    · exact .inr (.inl ⟨_, Nat.le_refl _, rfl⟩)
    · exact False.elim hrename
    · exact .inr (.inr rfl)
  · rintro (rfl | ⟨written, hwritten, rfl⟩ | rfl)
    · exact .inl rfl
    · rcases Nat.lt_or_eq_of_le hwritten with hlt | rfl
      · exact .inr (.inr (.inr (.inl ⟨written, Nat.le_of_lt_succ hlt, rfl⟩)))
      · exact .inr (.inr (.inr (.inr (.inl rfl))))
    · exact .inr (.inr (.inr (.inr (.inr (.inr rfl)))))

end Cell

end MemCordon
