import Mathlib.Logic.Function.Basic
import Mathlib.Logic.Relation

/-!
# Threads on a shared state

A thread is a program whose accesses to a shared state are atomic: the next access takes an answer
of the environment, and returns a value and the new state, or it has to wait. A `System` is a family
of threads; `System.run` runs it by a schedule, which says access by access whose turn it is and
what the environment answers.

Properties of every schedule go through a protocol: a relation `step i` for each thread, with an
invariant that every step keeps. `Thread.Follows` says that a thread takes only steps of its own
relation, whatever steps the others take between its accesses, and returns with a postcondition; its
rules take a thread apart from its start, with a condition at each access that the others keep
(`Stable`).

* `System.Obeys.run`: threads that follow a protocol do so together, in every state that a schedule
  leads to.
-/

namespace MemCordon

variable {σ ω α β ι : Type}

/-- A thread. An access takes the shared state and an answer of the environment. -/
inductive Thread (σ ω α : Type) : Type 1
  | done (a : α)
  | act {β : Type} (access : σ → ω → Option (β × σ)) (next : β → Thread σ ω α)

namespace Thread

def andThen (f : α → Thread σ ω β) : Thread σ ω α → Thread σ ω β
  | done a => f a
  | act access next => act access fun b => (next b).andThen f

instance instMonadThread : Monad (Thread σ ω) where
  pure := done
  bind m f := andThen f m

def access (f : σ → ω → Option (β × σ)) : Thread σ ω β := act f done

/-- Read a value of the state. -/
def load (g : σ → β) : Thread σ ω β := access fun s _ => some (g s, s)

/-- Change the state. -/
def store (f : σ → σ) : Thread σ ω Unit := access fun s _ => some ((), f s)

/-- Read and change the state at once. -/
def update (f : σ → β × σ) : Thread σ ω β := access fun s _ => some (f s)

/-- Read an answer of the environment. -/
def ask (g : ω → β) : Thread σ ω β := access fun s w => some (g w, s)

/-- Wait for a condition, and change the state. -/
def await (p : σ → Bool) (f : σ → σ) : Thread σ ω Unit :=
  access fun s _ => if p s then some ((), f s) else none

/-- A thread that makes no more accesses. -/
def halt : Thread σ ω α := act (fun _ _ => none) (fun b : Empty => b.elim)

def value? : Thread σ ω α → Option α
  | done a => some a
  | act _ _ => none

/-! ## Protocols -/

section Protocol

variable (step : ι → σ → σ → Prop) (Inv : σ → Prop) (i : ι)

/-- What the others do between two accesses. -/
def Meanwhile : σ → σ → Prop := Relation.ReflTransGen fun s s' => Inv s ∧ ∃ j, j ≠ i ∧ step j s s'

/-- A condition that no step of the others breaks. -/
def Stable (P : σ → Prop) : Prop := ∀ j s s', j ≠ i → Inv s → step j s s' → P s → P s'

/-- From the state `s` on, the thread takes only its own steps, and returns with `Q`. -/
def Follows (Q : α → σ → Prop) : Thread σ ω α → σ → Prop
  | done a, s => ∀ s', Meanwhile step Inv i s s' → Inv s' → Q a s'
  | act access next, s =>
      ∀ s', Meanwhile step Inv i s s' → Inv s' → ∀ w b s'', access s' w = some (b, s'') →
      step i s' s'' ∧ (next b).Follows Q s''

variable {step Inv i} {Q : α → σ → Prop} {P : σ → Prop}

theorem Stable.meanwhile (hstable : Stable step Inv i P) {s s' : σ} (h : Meanwhile step Inv i s s')
    (hP : P s) : P s' := by
  induction h with
  | refl => exact hP
  | tail _ hlast ih =>
    obtain ⟨hinv, j, hj, hstep⟩ := hlast
    exact hstable j _ _ hj hinv hstep ih

theorem Stable.and {P' : σ → Prop} (hP : Stable step Inv i P) (hP' : Stable step Inv i P') :
    Stable step Inv i fun s => P s ∧ P' s :=
  fun j s s' hj hinv hstep h => ⟨hP j s s' hj hinv hstep h.1, hP' j s s' hj hinv hstep h.2⟩

variable {s : σ}

theorem follows_done {a : α} (hstable : Stable step Inv i (Q a)) (hQ : Q a s) :
    Follows step Inv i Q (done a : Thread σ ω α) s :=
  fun _ hmeanwhile _ => hstable.meanwhile hmeanwhile hQ

theorem follows_halt : Follows step Inv i Q (halt : Thread σ ω α) s :=
  fun _ _ _ _ _ _ h => nomatch h

/-- A thread follows the protocol later when it does now and only others have acted. -/
theorem Follows.meanwhile {m : Thread σ ω α} {s s' : σ} (h : Follows step Inv i Q m s)
    (hmeanwhile : Meanwhile step Inv i s s') : Follows step Inv i Q m s' := by
  cases m with
  | done a | act access next => exact fun s'' hlater hinv => h s'' (hmeanwhile.trans hlater) hinv

/-- What a protocol does not break. -/
def Keeping (step : ι → σ → σ → Prop) (Inv : σ → Prop) : Prop :=
  ∀ j s s', Inv s → step j s s' → Inv s'

/-- **Sequence.** What the first part returns with is where the second one starts. -/
theorem follows_bind (hkeep : Keeping step Inv) {R : β → σ → Prop} {m : Thread σ ω β}
    {f : β → Thread σ ω α}
    (hinv : Inv s) (hm : Follows step Inv i R m s)
    (hf : ∀ b s, Inv s → R b s → Follows step Inv i Q (f b) s) :
    Follows step Inv i Q (m >>= f) s := by
  induction m generalizing s with
  | done b => exact hf b s hinv (hm s .refl hinv)
  | act access next ih =>
    intro s' hmeanwhile hinv' w b s'' haccess
    obtain ⟨hstep, hnext⟩ := hm s' hmeanwhile hinv' w b s'' haccess
    exact ⟨hstep, ih b (hkeep i _ _ hinv' hstep) hnext⟩

/-- **One access.** Before it a condition holds that the others keep. -/
theorem follows_access {f : σ → ω → Option (α × σ)} (hstable : Stable step Inv i P)
    (hstep : ∀ s w a s', Inv s → P s → f s w = some (a, s') →
      step i s s' ∧ Follows step Inv i Q (done a : Thread σ ω α) s') (hP :
      P s) : Follows step Inv i Q (access f) s :=
  fun s' hmeanwhile hinv w a s'' haccess =>
    hstep s' w a s'' hinv (hstable.meanwhile hmeanwhile hP) haccess

theorem follows_access_bind {f : σ → ω → Option (β × σ)} {next : β → Thread σ ω α}
    (hstable : Stable step Inv i P) (hstep : ∀ s w b s', Inv s → P s → f s w = some (b, s') →
      step i s s' ∧ Follows step Inv i Q (next b) s') (hP :
      P s) : Follows step Inv i Q (access f >>= next) s :=
  fun s' hmeanwhile hinv w b s'' haccess =>
    hstep s' w b s'' hinv (hstable.meanwhile hmeanwhile hP) haccess

section Accesses

variable (hstay : ∀ s, step i s s) (hstable : Stable step Inv i P) {s : σ} (hP : P s)

include hstable hP

variable {f : σ → σ} {next : Unit → Thread σ ω α}

theorem follows_store_bind
    (hstep : ∀ s, Inv s → P s → step i s (f s) ∧ Follows step Inv i Q (next ()) (f s)) :
    Follows step Inv i Q (store f >>= next) s := by
  refine follows_access_bind hstable ?_ hP
  rintro s w b s' hinv hP ⟨⟩
  exact hstep s hinv hP

theorem follows_await_bind {p : σ → Bool}
    (hstep : ∀ s, Inv s → P s → p s = true → step i s (f s) ∧
    Follows step Inv i Q (next ()) (f s)) :
    Follows step Inv i Q (await p f >>= next) s := by
  refine follows_access_bind hstable ?_ hP
  intro s w b s' hinv hP haccess
  by_cases hp : p s = true
  · rw [if_pos hp] at haccess
    cases haccess
    exact hstep s hinv hP hp
  · rw [if_neg hp] at haccess
    cases haccess

variable {next : β → Thread σ ω α}

theorem follows_update_bind {f : σ → β × σ}
    (hstep : ∀ s, Inv s → P s → step i s (f s).2 ∧ Follows step Inv i Q (next (f s).1) (f s).2) :
    Follows step Inv i Q (update f >>= next) s := by
  refine follows_access_bind hstable ?_ hP
  intro s w b s' hinv hP haccess
  obtain ⟨rfl, rfl⟩ := Prod.ext_iff.1 (Option.some.inj haccess)
  exact hstep s hinv hP

include hstay

theorem follows_load_bind {g : σ → β}
    (hnext : ∀ s, Inv s → P s → Follows step Inv i Q (next (g s)) s) :
    Follows step Inv i Q (load g >>= next) s := by
  refine follows_access_bind hstable ?_ hP
  rintro s w b s' hinv hP ⟨⟩
  exact ⟨hstay s, hnext s hinv hP⟩

theorem follows_ask_bind {g : ω → β}
    (hnext : ∀ b s, Inv s → P s → Follows step Inv i Q (next b) s) :
    Follows step Inv i Q (ask g >>= next) s := by
  refine follows_access_bind hstable ?_ hP
  rintro s w b s' hinv hP ⟨⟩
  exact ⟨hstay s, hnext _ s hinv hP⟩

end Accesses

theorem Follows.mono {Q' : α → σ → Prop} {m : Thread σ ω α} (h : Follows step Inv i Q m s)
    (hQ : ∀ a s, Inv s → Q a s → Q' a s) : Follows step Inv i Q' m s := by
  induction m generalizing s with
  | done a => exact fun s' hmeanwhile hinv => hQ a s' hinv (h s' hmeanwhile hinv)
  | act access next ih =>
    intro s' hmeanwhile hinv w b s'' haccess
    obtain ⟨hstep, hnext⟩ := h s' hmeanwhile hinv w b s'' haccess
    exact ⟨hstep, ih b hnext⟩

end Protocol

end Thread

/-! ## Systems -/

/-- Threads with a shared state. -/
structure System (σ ω α ι : Type) where
  shared : σ
  threads : ι → Thread σ ω α

namespace System

variable [DecidableEq ι]

/-- The next access of a thread. -/
def next (S : System σ ω α ι) (i : ι) (w : ω) : Option (System σ ω α ι) :=
  match S.threads i with
  | .done _ => none
  | .act access rest =>
    (access S.shared w).map fun (b, s) => ⟨s, Function.update S.threads i (rest b)⟩

def run (S : System σ ω α ι) : List (ι × ω) → Option (System σ ω α ι)
  | [] => some S
  | (i, w) :: schedule => (S.next i w).bind fun S' => S'.run schedule

section Protocol

variable (step : ι → σ → σ → Prop) (Inv : σ → Prop) (Q : ι → α → σ → Prop)

/-- The invariant holds, and every thread follows the protocol. -/
structure Obeys (S : System σ ω α ι) : Prop where
  inv : Inv S.shared
  follows : ∀ i, (S.threads i).Follows step Inv i (Q i) S.shared

variable {step Inv Q} {S S' : System σ ω α ι}

/-- A thread that is scheduled takes a step of its own, and the others follow the protocol still. -/
theorem Obeys.next (hkeep : Thread.Keeping step Inv) (h : S.Obeys step Inv Q) {i : ι} {w : ω}
    (hnext : S.next i w = some S') : step i S.shared S'.shared ∧ S'.Obeys step Inv Q := by
  have hown := h.follows i
  unfold System.next at hnext
  cases hthread : S.threads i with
  | done a =>
    rw [hthread] at hnext
    cases hnext
  | act access rest =>
    rw [hthread] at hnext hown
    obtain ⟨⟨b, s'⟩, haccess, rfl⟩ := Option.map_eq_some_iff.1 hnext
    obtain ⟨hstep, hrest⟩ := hown S.shared .refl h.inv w b s' haccess
    refine ⟨hstep, hkeep i _ _ h.inv hstep, fun j => ?_⟩
    by_cases hj : j = i
    · subst hj
      simpa using hrest
    · simpa [hj] using (h.follows j).meanwhile (.single ⟨h.inv, i, fun hij => hj hij.symm, hstep⟩)

/-- **Threads that follow a protocol follow it together**, under every schedule. -/
theorem Obeys.run (hkeep : Thread.Keeping step Inv) (h : S.Obeys step Inv Q)
    {schedule : List (ι × ω)} (hrun : S.run schedule = some S') : S'.Obeys step Inv Q := by
  induction schedule generalizing S with
  | nil =>
    cases hrun
    exact h
  | cons turn schedule ih =>
    obtain ⟨S₁, hnext, hrest⟩ := Option.bind_eq_some_iff.1 hrun
    exact ih (h.next hkeep hnext).2 hrest

omit [DecidableEq ι] in
/-- A thread that has ended has its postcondition. -/
theorem Obeys.value (h : S.Obeys step Inv Q) {i : ι} {a : α}
    (hvalue : (S.threads i).value? = some a) : Q i a S.shared := by
  have hfollows := h.follows i
  cases hthread : S.threads i with
  | done b =>
    rw [hthread] at hfollows hvalue
    cases hvalue
    exact hfollows S.shared .refl h.inv
  | act access rest =>
    rw [hthread] at hvalue
    cases hvalue

end Protocol

end System

end MemCordon
