import Mathlib.Data.List.Induction
import MemCordon.Foundations.Clock

/-!
# Runs of a loop

A loop that consumes one input a turn: `step` takes the loop's state and the input of the turn, and
either goes round again in a new state or leaves with a result. `Reaches` says which states a list
of inputs leads to, and `Reaches.invariant` is the one induction over turns that every statement
about whole runs goes through.

A sequence of calls that all return is a fold of `step : σ → ι → σ`; `Calls.invariant` is its
induction.
-/

namespace MemCordon

variable {σ ι ρ : Type*}

/-- What one turn of a loop does: go round again in a new state, or leave with a result. -/
inductive Flow (σ ρ : Type*)
  | again (s : σ)
  | done (r : ρ)

namespace Loop

/-- Feed a list of inputs to the loop, one a turn, until it leaves. -/
def run (step : σ → ι → Flow σ ρ) (s : σ) : List ι → Flow σ ρ
  | [] => .again s
  | i :: is =>
    match step s i with
    | .again s' => run step s' is
    | .done r => .done r

/-- `Reaches step s₀ is s`: from `s₀` the loop consumes all of `is` and is then in `s`. -/
inductive Reaches (step : σ → ι → Flow σ ρ) (s₀ : σ) : List ι → σ → Prop
  | start : Reaches step s₀ [] s₀
  | turn {is : List ι} {i : ι} {s s' : σ} :
      Reaches step s₀ is s → step s i = .again s' → Reaches step s₀ (is ++ [i]) s'

variable {step : σ → ι → Flow σ ρ} {s₀ s : σ} {is : List ι}

theorem run_append (s : σ) (is js : List ι) : run step s (is ++ js) =
      match run step s is with
      | .again s' => run step s' js
      | .done r => .done r := by
  induction is generalizing s with
  | nil => rfl
  | cons i is ih =>
    simp only [List.cons_append, run]
    cases step s i with
    | again s' => exact ih s'
    | done r => rfl

/-- A state that the executable run returns to is reached. -/
theorem Reaches.of_run (h : run step s₀ is = .again s) : Reaches step s₀ is s := by
  induction is using List.reverseRecOn generalizing s with
  | nil =>
    cases h
    exact .start
  | append_singleton is i ih =>
    rw [run_append] at h
    cases hr : run step s₀ is with
    | done r => simp [hr] at h
    | again s₁ =>
      simp only [hr, run] at h
      cases hs : step s₁ i with
      | done r => simp [hs] at h
      | again s₂ =>
        simp only [hs, Flow.again.injEq] at h
        exact h ▸ .turn (ih hr) hs

/-- The executable run returns to every state that is reached. -/
theorem Reaches.run (h : Reaches step s₀ is s) : run step s₀ is = .again s := by
  induction h with
  | start => rfl
  | turn _ hs ih => rw [run_append, ih]; simp only [Loop.run, hs]

/-- A run leaves the loop with the result of the turn that follows the states it reached. -/
theorem run_eq_done {r : ρ} : run step s₀ is = .done r ↔ ∃ before i after s,
    is = before ++ i :: after ∧ Reaches step s₀ before s ∧ step s i = .done r := by
  constructor
  · intro h
    induction is using List.reverseRecOn with
    | nil => cases h
    | append_singleton is i ih =>
      rw [run_append] at h
      cases hr : run step s₀ is with
      | done r' =>
        rw [hr] at h
        cases h
        obtain ⟨before, j, after, s, rfl, hreach, hstep⟩ := ih hr
        exact ⟨before, j, after ++ [i], s, by simp, hreach, hstep⟩
      | again s =>
        simp only [hr, run] at h
        cases hs : step s i with
        | again s' => simp [hs] at h
        | done r' =>
          simp only [hs, Flow.done.injEq] at h
          exact ⟨is, i, [], s, rfl, .of_run hr, h ▸ hs⟩
  · rintro ⟨before, i, after, s, rfl, hreach, hstep⟩
    rw [run_append, hreach.run]
    simp only [run, hstep]

/-- A list of inputs leads to one state at most. -/
theorem Reaches.unique {s' : σ} (h : Reaches step s₀ is s) (h' : Reaches step s₀ is s') : s = s' :=
  Flow.again.inj (h.run.symm.trans h'.run)

/-- **Invariant rule.** What holds at the start, and is kept by every turn on an allowed input,
holds in every state reached through allowed inputs. The invariant may read the inputs so far. -/
theorem Reaches.invariant {I : List ι → σ → Prop} {P : ι → Prop} (start : I [] s₀)
    (turn : ∀ is s i s', I is s → P i → step s i = .again s' → I (is ++ [i]) s')
    (h : Reaches step s₀ is s) (allowed : ∀ i ∈ is, P i) : I is s := by
  induction h with
  | start => exact start
  | turn _ hs ih =>
    refine turn _ _ _ _ (ih fun j hj => allowed j ?_) (allowed _ ?_) hs
    · exact List.mem_append_left _ hj
    · exact List.mem_append_right _ (List.mem_singleton_self _)

/-- Every proper prefix of the inputs of a run leads to a state from which the next turn is
taken. -/
theorem Reaches.split {pre post : List ι} {i : ι} (h : Reaches step s₀ (pre ++ i :: post) s) :
    ∃ s₁ s₂, Reaches step s₀ pre s₁ ∧ step s₁ i = .again s₂ := by
  generalize hj : pre ++ i :: post = js at h
  induction h generalizing post with
  | start => simp at hj
  | @turn is j s₁ s₂ hr hs ih =>
    rcases List.eq_nil_or_concat post with rfl | ⟨post', k, rfl⟩
    · obtain ⟨rfl, hk⟩ := List.append_inj' hj rfl
      cases hk
      exact ⟨s₁, s₂, hr, hs⟩
    · rw [List.concat_eq_append, ← List.cons_append, ← List.append_assoc] at hj
      exact ih (List.append_inj' hj rfl).1

end Loop

namespace Calls

variable {step : σ → ι → σ} {s₀ : σ} {Allowed : σ → ι → Prop}

/-- Every call is made in a state that allows it. -/
def AllAllowed (step : σ → ι → σ) (s₀ : σ) (Allowed : σ → ι → Prop) (is : List ι) : Prop :=
  ∀ pre i post, pre ++ i :: post = is → Allowed (pre.foldl step s₀) i

theorem AllAllowed.left {is js : List ι} (h : AllAllowed step s₀ Allowed (is ++ js)) :
    AllAllowed step s₀ Allowed is := by
  rintro pre i post rfl
  exact h pre i (post ++ js) (by rw [List.append_assoc, List.cons_append])

theorem AllAllowed.right {is js : List ι} (h : AllAllowed step s₀ Allowed (is ++ js)) :
    AllAllowed step (is.foldl step s₀) Allowed js := by
  rintro pre i post rfl
  have hlater := h (is ++ pre) i post (List.append_assoc _ _ _)
  rwa [List.foldl_append] at hlater

theorem AllAllowed.nil : AllAllowed step s₀ Allowed [] := fun pre i post h => absurd h (by simp)

theorem AllAllowed.cons {i : ι} {is : List ι} (hi : Allowed s₀ i)
    (his : AllAllowed step (step s₀ i) Allowed is) :
    AllAllowed step s₀ Allowed (i :: is) := by
  intro pre j post h
  cases pre with
  | nil =>
    cases h
    exact hi
  | cons k pre =>
    cases h
    exact his pre j post rfl

/-- **Invariant rule.** What holds at the start, and is kept by every allowed call, holds after
calls that were all allowed. -/
theorem invariant (Inv : List ι → σ → Prop) (start : Inv [] s₀)
    (keep : ∀ is s i, Inv is s → Allowed s i → Inv (is ++ [i]) (step s i))
    {is : List ι} (allowed : AllAllowed step s₀ Allowed is) : Inv is (is.foldl step s₀) := by
  induction is using List.reverseRecOn with
  | nil => exact start
  | append_singleton is i ih =>
    rw [List.foldl_append]
    exact keep _ _ _ (ih allowed.left) (allowed is i [] rfl)

end Calls

end MemCordon
