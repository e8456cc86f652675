import Mathlib.Algebra.Ring.Int.Defs
import Mathlib.Data.List.MinMax
import MemCordon.Foundations.Clock

/-!
# Attempt outcomes

What one supervised attempt can end with (`RunOutcome`), the evidence it carries, and the documented
precedence among events seen in one observation cycle (`AttemptEventKind.select`). Sizes are bytes,
offsets in evidence are milliseconds.

* `DeadlineEvidence` carries its own consistency: the offsets and the grace fields cannot disagree.
* `AttemptEventKind.select_eq_some` says what the precedence selects: an event that is present, and
  before which no present event comes.
* `RunOutcome.statusesAgree_iff` says for which outcomes the exit status of the core and the exit
  code of the command line are the same.
-/

namespace MemCordon

/-- How the direct child ended. -/
inductive ChildTermination
  | exitCode (code : ℤ)
  | unixSignal (signal : ℤ)
  | windowsStatus (status : ℕ)
  | unavailable
  deriving DecidableEq

/-- A signal or console event delivered to the supervisor. -/
structure Interruption where
  signal : ℤ
  deriving DecidableEq

structure LimitEvidence where
  (backend metric detail : String)
  deriving DecidableEq

/-- Whether a deadline bounds one attempt or the whole supervision. -/
inductive DeadlineScope
  | attempt
  | supervision
  deriving DecidableEq

/-- Evidence of an expired deadline. The fields are private in the source and only its constructor
builds one, so the relations the constructor checks are fields here. -/
structure DeadlineEvidence where
  durationMs : ℕ
  scope : DeadlineScope
  origin : String
  (overshootMs expiresOffsetMs observedOffsetMs graceRequestedMs graceElapsedMs : ℕ)
  (gracefulAction forceAction : Option String)
  origin_ne_empty : origin ≠ ""
  overshoot_eq : expiresOffsetMs + overshootMs = observedOffsetMs
  grace_le : graceElapsedMs ≤ graceRequestedMs
  grace_action : 0 < graceElapsedMs → gracefulAction.isSome
  deriving DecidableEq

def DeadlineEvidence.new (durationMs : ℕ) (scope : DeadlineScope) (origin : String)
    (expiresOffsetMs observedOffsetMs graceRequestedMs graceElapsedMs : ℕ)
    (gracefulAction forceAction : Option String) : Option DeadlineEvidence :=
  if h : origin ≠ "" ∧ expiresOffsetMs ≤ observedOffsetMs ∧ graceElapsedMs ≤ graceRequestedMs ∧
      (0 < graceElapsedMs → gracefulAction.isSome) then
    some
      { durationMs, scope, origin, expiresOffsetMs, observedOffsetMs, graceRequestedMs,
        graceElapsedMs, gracefulAction, forceAction
        overshootMs := observedOffsetMs - expiresOffsetMs
        origin_ne_empty := h.1
        overshoot_eq := Nat.add_sub_cancel' h.2.1
        grace_le := h.2.2.1
        grace_action := h.2.2.2 }
  else none

variable {durationMs : ℕ} {graceful force : Option String} {origin : String} {scope : DeadlineScope}

/-- What a successful construction reads back. -/
theorem DeadlineEvidence.new_eq_some {expires observed requested elapsed : ℕ}
    {e : DeadlineEvidence}
    (h : DeadlineEvidence.new durationMs scope origin expires observed requested elapsed graceful
      force = some e) :
    e.durationMs = durationMs ∧ e.scope = scope ∧ e.origin = origin ∧
      e.expiresOffsetMs = expires ∧ e.observedOffsetMs = observed := by
  unfold DeadlineEvidence.new at h
  split_ifs at h
  obtain rfl := Option.some.inj h
  exact ⟨rfl, rfl, rfl, rfl, rfl⟩

/-- Evidence without any grace is built whenever it names an origin and was not observed early. -/
theorem DeadlineEvidence.new_isSome {expires observed requested : ℕ} (ho : origin ≠ "")
    (h : expires ≤ observed) :
    (DeadlineEvidence.new durationMs scope origin expires observed requested 0 graceful
      force).isSome := by
  simp [DeadlineEvidence.new, ho, h]

/-- The kinds of events one observation cycle can see. -/
inductive AttemptEventKind
  | memoryLimit
  | deadline
  | monitorFailure
  | interruption
  | completion
  deriving DecidableEq

namespace AttemptEventKind

/-- The documented order: a smaller number wins. -/
def precedence : AttemptEventKind → ℕ
  | memoryLimit => 0
  | deadline => 1
  | monitorFailure => 2
  | interruption => 3
  | completion => 4

theorem precedence_injective : Function.Injective precedence := by
  intro a b h
  cases a <;> cases b <;> first | rfl | cases h

/-- The event that wins among those seen. -/
def select (events : List AttemptEventKind) : Option AttemptEventKind :=
  events.argmin precedence

variable {e : AttemptEventKind} {events : List AttemptEventKind}

/-- `select` returns an event of the list before which no event of the list comes. -/
theorem select_eq_some :
    select events = some e ↔ e ∈ events ∧ ∀ e' ∈ events, e.precedence ≤ e'.precedence := by
  constructor
  · intro h
    exact ⟨List.argmin_mem h, fun e' he' => List.le_of_mem_argmin he' h⟩
  · rintro ⟨hmem, hle⟩
    cases hs : select events with
    | none =>
      rw [select, List.argmin_eq_none] at hs
      simp [hs] at hmem
    | some d =>
      have hd : d.precedence ≤ e.precedence := List.le_of_mem_argmin hmem hs
      have he : e.precedence ≤ d.precedence := hle d (List.argmin_mem hs)
      rw [precedence_injective (le_antisymm hd he)]

def earlier : AttemptEventKind → List AttemptEventKind
  | memoryLimit => []
  | deadline => [memoryLimit]
  | monitorFailure => [memoryLimit, deadline]
  | interruption => [memoryLimit, deadline, monitorFailure]
  | completion => [memoryLimit, deadline, monitorFailure, interruption]

theorem mem_earlier {e e' : AttemptEventKind} : e' ∈ e.earlier ↔ e'.precedence < e.precedence := by
  cases e <;> cases e' <;> decide

/-- An event that is present wins when no event that comes before it is present. -/
theorem select_eq_some_iff :
    select events = some e ↔ e ∈ events ∧ ∀ e' ∈ e.earlier, e' ∉ events := by
  rw [select_eq_some]
  refine and_congr_right fun _ => ⟨fun h e' hlt hmem => ?_, fun h e' hmem => ?_⟩
  · exact absurd (h e' hmem) (not_le.2 (mem_earlier.1 hlt))
  · exact not_lt.1 fun hlt => h e' (mem_earlier.2 hlt) hmem

/-- The event of a condition that holds. -/
def seenIf (b : Bool) (kind : AttemptEventKind) : List AttemptEventKind := if b then [kind] else []

@[simp] theorem mem_seenIf {b : Bool} {e kind : AttemptEventKind} : e ∈ seenIf b kind ↔
    b = true ∧ e = kind := by
  unfold seenIf
  split_ifs with h <;> simp [h]

end AttemptEventKind

structure CleanupErrorRecord where
  operation : String
  message : String
  deriving DecidableEq

/-- What the cleanup after an attempt did and could confirm. -/
structure CleanupSummary where
  gracefulAttempted : Bool := false
  forceAttempted : Bool := false
  directChildReaped : Bool := false
  workloadEmpty : Option Bool := none
  errors : List CleanupErrorRecord := []
  deriving DecidableEq

/-- How an attempt ended. -/
inductive RunOutcome
  | exited (child : ChildTermination) (peak : Option ℕ) (cleanup : CleanupSummary)
  | limitExceeded (limit : ℕ) (observed peak : Option ℕ) (evidence : LimitEvidence)
      (childAfterTermination : Option ChildTermination) (cleanup : CleanupSummary)
  | deadlineExceeded (deadline : DeadlineEvidence)
      (childAfterTermination : Option ChildTermination) (peak : Option ℕ)
      (cleanup : CleanupSummary)
  | interrupted (signal : Interruption) (childAfterTermination : Option ChildTermination)
      (cleanup : CleanupSummary)
  | monitorFailed (error : String) (childAfterTermination : Option ChildTermination)
      (cleanup : CleanupSummary)
  deriving DecidableEq

namespace RunOutcome

def cleanup : RunOutcome → CleanupSummary
  | exited _ _ c => c
  | limitExceeded _ _ _ _ _ c => c
  | deadlineExceeded _ _ _ c => c
  | interrupted _ _ c => c
  | monitorFailed _ _ c => c

def kind : RunOutcome → AttemptEventKind
  | exited .. => .completion
  | limitExceeded .. => .memoryLimit
  | deadlineExceeded .. => .deadline
  | interrupted .. => .interruption
  | monitorFailed .. => .monitorFailure

/-- The largest 32-bit signed exit status. -/
def i32Max : ℤ := 2 ^ 31 - 1

/-- `128 + signal`, saturating at the ends of the 32-bit range. -/
def signalStatus (signal : ℤ) : ℤ := max (-(2 ^ 31)) (min (128 + signal) i32Max)

/-- The exit status the wrapper reports for an outcome. -/
def outcomeStatus : RunOutcome → ℤ
  | limitExceeded .. => 124
  | deadlineExceeded .. => 123
  | monitorFailed .. => 125
  | interrupted signal _ _ => signalStatus signal.signal
  | exited child _ cleanup =>
    if cleanup.errors ≠ [] ∨ cleanup.directChildReaped = false ∨
        cleanup.workloadEmpty = some false then
      125
    else
      match child with
      | .exitCode code => code
      | .unixSignal signal => signalStatus signal
      | .windowsStatus status => if (status : ℤ) ≤ i32Max then status else 125
      | .unavailable => 125

/-! ## The exit code of the command line

`exit_mapping.rs` maps an outcome a second time. Its additions are plain ones, so a code is nothing
when one overflows. -/

/-- `128 + signal` in 32 bits. -/
def addSignal (signal : ℤ) : Option ℤ :=
  if -(2 ^ 31) ≤ 128 + signal ∧ 128 + signal ≤ i32Max then some (128 + signal) else none

def childExitCode : ChildTermination → Option ℤ
  | .exitCode code => some code
  | .unixSignal signal => addSignal signal
  | .windowsStatus status => some (if (status : ℤ) ≤ i32Max then status else 125)
  | .unavailable => some 125

def outcomeExitCode : RunOutcome → Option ℤ
  | limitExceeded .. => some 124
  | deadlineExceeded .. => some 123
  | monitorFailed .. => some 125
  | interrupted signal _ cleanup =>
    if cleanup.errors ≠ [] ∨ cleanup.workloadEmpty = some false then some 125 else
      addSignal signal.signal
  | exited child _ cleanup =>
    if cleanup.errors ≠ [] ∨ cleanup.workloadEmpty = some false then some 125 else
      childExitCode child

/-- The cleanup after an interruption or a completion failed. -/
def CleanupFailed : RunOutcome → Prop
  | interrupted _ _ cleanup | exited _ _ cleanup =>
    cleanup.errors ≠ [] ∨ cleanup.directChildReaped = false ∨ cleanup.workloadEmpty = some false
  | _ => False

/-- Both mappings give one status, without an overflow, and it is 125 after a failed cleanup. -/
structure StatusesAgree (o : RunOutcome) : Prop where
  same : o.outcomeExitCode = some o.outcomeStatus
  failed : o.CleanupFailed → o.outcomeStatus = 125

/-- The outcomes on which the mappings agree. -/
def Agreeing : RunOutcome → Prop
  | interrupted signal _ cleanup =>
    -- `128 + signal` is 125 itself for this signal only
    signal.signal = -3 ∨ (cleanup.errors = [] ∧ cleanup.directChildReaped = true ∧
      cleanup.workloadEmpty ≠ some false ∧ (addSignal signal.signal).isSome = true)
  | exited child _ cleanup =>
    cleanup.errors ≠ [] ∨ cleanup.workloadEmpty = some false ∨ childExitCode child = some 125 ∨
      (cleanup.directChildReaped = true ∧ (childExitCode child).isSome = true)
  | _ => True

theorem addSignal_eq_some {signal : ℤ} :
    addSignal signal = some (signalStatus signal) ↔ (addSignal signal).isSome = true := by
  unfold addSignal
  split_ifs with hfits
  · rw [signalStatus, min_eq_left hfits.2, max_eq_right hfits.1]
    exact iff_of_true rfl rfl
  · simp

theorem signalStatus_eq_125 {signal : ℤ} : signalStatus signal = 125 ↔ signal = -3 := by
  unfold signalStatus i32Max
  omega

/-- A completion whose cleanup succeeded has the status of the child. -/
theorem childExitCode_eq_some {child : ChildTermination} {peak : Option ℕ}
    {cleanup : CleanupSummary} (hclean : ¬(exited child peak cleanup).CleanupFailed) :
    childExitCode child = some (exited child peak cleanup).outcomeStatus ↔
    (childExitCode child).isSome = true := by
  cases child with
  | unixSignal signal =>
    have hstatus : (exited (.unixSignal signal) peak cleanup).outcomeStatus = signalStatus signal :=
      if_neg hclean
    rw [hstatus]
    exact addSignal_eq_some
  | _ => exact iff_of_true (congrArg some (if_neg hclean).symm) rfl

/-- **The two mappings agree exactly on these outcomes.** The core does not look at the cleanup of
an interruption, the command line does not ask whether the child was reaped, and it adds signals
without saturating. -/
theorem statusesAgree_iff (o : RunOutcome) : o.StatusesAgree ↔ o.Agreeing := by
  have hparts : o.StatusesAgree ↔ o.outcomeExitCode = some o.outcomeStatus ∧
      (o.CleanupFailed → o.outcomeStatus = 125) :=
    ⟨fun h => ⟨h.same, h.failed⟩, fun h => ⟨h.1, h.2⟩⟩
  rw [hparts]
  cases o with
  | limitExceeded limit observed peak evidence child cleanup
      | deadlineExceeded deadline child peak cleanup =>
    exact iff_of_true ⟨rfl, nofun⟩ trivial
  | monitorFailed error child cleanup => exact iff_of_true ⟨rfl, nofun⟩ trivial
  | interrupted signal child cleanup =>
    have hfits : signal.signal = -3 → (addSignal signal.signal).isSome = true :=
      fun h => by rw [h]; rfl
    simp only [outcomeExitCode, outcomeStatus, CleanupFailed, Agreeing, signalStatus_eq_125]
    split_ifs with hseen
    · rw [Option.some.injEq, eq_comm, signalStatus_eq_125]
      grind
    · rw [addSignal_eq_some, ← Bool.not_eq_true]
      grind
  | exited child peak cleanup =>
    have hsome : childExitCode child = some 125 → (childExitCode child).isSome = true :=
      fun h => by rw [h]; rfl
    by_cases hfailed : (exited child peak cleanup).CleanupFailed
    · -- the core says 125, so the command line has to
      have hstatus : (exited child peak cleanup).outcomeStatus = 125 := if_pos hfailed
      rw [hstatus, outcomeExitCode]
      split_ifs with hseen
      · exact iff_of_true ⟨rfl, fun _ => rfl⟩ (hseen.imp_right .inl)
      · have hreaped : cleanup.directChildReaped = false := by
          simp only [CleanupFailed] at hfailed
          grind
        obtain ⟨herrors, hempty⟩ := not_or.1 hseen
        simp [Agreeing, hreaped, not_not.1 herrors, hempty]
    · have hclean : ¬(cleanup.errors ≠ [] ∨ cleanup.workloadEmpty = some false) :=
        fun h => hfailed (h.imp_right .inr)
      rw [outcomeExitCode, if_neg hclean, childExitCode_eq_some hfailed]
      simp only [CleanupFailed, Agreeing, ← Bool.not_eq_true] at hfailed ⊢
      grind

/-- The core maps an interruption whose cleanup failed to its signal, the command line to 125. -/
theorem statusesAgree_failed_cleanup :
    let o : RunOutcome :=
  .interrupted ⟨15⟩ none { directChildReaped := true, workloadEmpty := some false }
    o.outcomeStatus = 143 ∧ o.outcomeExitCode = some 125 ∧ ¬o.StatusesAgree :=
  ⟨by decide, by decide, fun h => absurd h.same (by decide)⟩

end RunOutcome

end MemCordon
