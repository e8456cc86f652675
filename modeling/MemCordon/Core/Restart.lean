import Mathlib.Data.PNat.Defs
import MemCordon.Core.Boundary
import MemCordon.Foundations.Fallible

/-!
# The restart controller

The controller decides, after an attempt that ended in a limit, whether another attempt may start
and how long to wait before it. It is a small state machine: a limit event schedules at most one
pending wait (`RestartController.afterLimitRecorded`), and the end of that wait either launches the
next attempt or stops (`RestartController.authorizeAfterWaitRecorded`).

The floating-point formulas of the backoff and of the circuit breaker enter as a
`RestartArithmetic`, so every result holds whatever numbers they produce;
`RestartArithmetic.binary64` is the source's own choice.

* `RestartLedger.afterLimitRecorded_cases`: what the event of a limit can come to;
* `RestartLedger.authorizeAfterWaitRecorded_cases`: what the end of a wait can come to;
* `RestartCoordinator.onLimit_spec`, `RestartCoordinator.completeWait_cases`: the same for the
  actions the supervision loop sees.
-/

namespace MemCordon

open Clock Counter

/-! ## Configuration -/

inductive RestartCondition
  | memoryLimit
  | deadline
  deriving DecidableEq

structure RestartConditions where
  memoryLimit : Bool
  deadline : Bool
  deriving DecidableEq

namespace RestartConditions

def none : RestartConditions := ⟨false, false⟩

def both : RestartConditions := ⟨true, true⟩

def contains (s : RestartConditions) : RestartCondition → Bool
  | .memoryLimit => s.memoryLimit
  | .deadline => s.deadline

def isEmpty (s : RestartConditions) : Bool := !s.memoryLimit && !s.deadline

/-- The conditions of `s` that are not in `t`. -/
def diff (s t : RestartConditions) : RestartConditions :=
  ⟨s.memoryLimit && !t.memoryLimit, s.deadline && !t.deadline⟩

def insert (s : RestartConditions) : RestartCondition → RestartConditions
  | .memoryLimit => { s with memoryLimit := true }
  | .deadline => { s with deadline := true }

end RestartConditions

/-- How many restarts may be launched. -/
inductive RestartLimit
  | unlimited
  | count (limit : ℕ+)
  deriving DecidableEq

/-- A reduced fraction. -/
structure BackoffMultiplier where
  numerator : ℕ
  denominator : ℕ
  deriving DecidableEq

structure HalfLifeLogisticBackoffPolicy where
  baseInterval : ℕ := ofMillis 250
  multiplier : BackoffMultiplier := ⟨4, 1⟩
  asymptoteInterval : ℕ := ofSecs 900
  recoveryHalfLife : ℕ := ofSecs 900
  deriving DecidableEq

structure CircuitBreakerPolicy where
  threshold : Float
  halfLife : ℕ
  cooldown : ℕ

structure DormantRestartCondition where
  condition : RestartCondition
  reason : String
  deriving DecidableEq

structure RestartSettings where
  (configuredConditions effectiveConditions : RestartConditions)
  dormantConditions : List DormantRestartCondition := []
  limit : RestartLimit
  backoff : HalfLifeLogisticBackoffPolicy := {}
  circuitBreaker : Option CircuitBreakerPolicy := none

inductive RestartPolicy
  | never
  | onLimits (settings : RestartSettings)

inductive RestartControllerError
  | noEffectiveCondition
  | invalidConditions
  | invalidBackoff
  | backoffRange
  | backoffTimeReversed
  | invalidCircuit
  | counterRange
  | invalidTransition
  deriving DecidableEq

def RestartControllerError.display : RestartControllerError → String
  | noEffectiveCondition => "restart policy has no effective condition"
  | invalidConditions =>
    "restart configured, effective, and dormant conditions are inconsistent"
  | invalidBackoff => "invalid half-life logistic backoff policy"
  | backoffRange => "half-life logistic backoff arithmetic is out of range"
  | backoffTimeReversed => "backoff event time moved backward"
  | invalidCircuit => "invalid circuit breaker policy"
  | counterRange => "restart counter is out of range"
  | invalidTransition => "restart wait state was not respected"

/-- The real-valued formulas of the controller, on millisecond counts. -/
structure RestartArithmetic where
  /-- The next interval, from the base, current and asymptote intervals, the multiplier, the
  recovery half-life and the time since the last backoff. -/
  nextMillis : (base current asymptote : ℕ) → BackoffMultiplier → (halfLife elapsed : ℕ) → ℕ
  /-- The share of the circuit pressure left after a time, for a half-life. -/
  decay : (elapsed halfLife : ℕ) → Float

/-- The source's formulas, in double precision. -/
def RestartArithmetic.binary64 : RestartArithmetic where
  nextMillis base current asymptote multiplier halfLife elapsed :=
    let decayFactor := (-(elapsed.toFloat / halfLife.toFloat)).exp2
    let intervalDelta := Float.ofInt ((current : ℤ) - (base : ℤ))
    let recovered := base.toFloat + intervalDelta * decayFactor
    let normalizedRecovered := recovered / asymptote.toFloat
    let factor := multiplier.numerator.toFloat / multiplier.denominator.toFloat
    let normalizedDenominator := 1.0 / normalizedRecovered + (factor - 1.0)
    (asymptote.toFloat * (factor / normalizedDenominator)).ceil.toUInt64.toNat
  decay elapsed halfLife := (-(elapsed.toFloat / halfLife.toFloat)).exp2

/-- Whole milliseconds of a duration, when they fit 64 bits. -/
def durationMillis (d : ℕ) : Except RestartControllerError ℕ :=
  if asMillis d < u64Bound then .ok (asMillis d) else .error .backoffRange

variable (A : RestartArithmetic)

def halfLifeLogisticNextMillis (base current asymptote : ℕ)
    (multiplier : BackoffMultiplier) (halfLife elapsed : ℕ) : Except RestartControllerError ℕ :=
  if base = 0 ∨ asymptote = 0 ∨ halfLife = 0 then .error .invalidBackoff
  else .ok (A.nextMillis base current asymptote multiplier halfLife elapsed)

def HalfLifeLogisticBackoffPolicy.validate (p : HalfLifeLogisticBackoffPolicy) :
    Except RestartControllerError Unit := do
  let base ← durationMillis p.baseInterval
  let asymptote ← durationMillis p.asymptoteInterval
  let halfLife ← durationMillis p.recoveryHalfLife
  let _ ← halfLifeLogisticNextMillis A base base asymptote p.multiplier halfLife 0
  return ()

def CircuitBreakerPolicy.validate (p : CircuitBreakerPolicy) : Except RestartControllerError Unit :=
  if !p.threshold.isFinite || p.threshold ≤ 0.0 || decide (p.halfLife < ofMillis 1) then
    .error .invalidCircuit
  else .ok ()

namespace RestartSettings

/-- The dormant conditions name each of `dormant` once, with a reason. -/
def dormantSeen (dormant : RestartConditions) :
    List DormantRestartCondition → RestartConditions → Option RestartConditions
  | [], seen => some seen
  | d :: ds, seen =>
    if d.reason = "" ∨ dormant.contains d.condition = false ∨ seen.contains d.condition = true then
      none
    else dormantSeen dormant ds (seen.insert d.condition)

def validate (s : RestartSettings) : Except RestartControllerError Unit :=
  if s.effectiveConditions.isEmpty ∨ (s.effectiveConditions.diff s.configuredConditions).isEmpty =
      false then
    .error .noEffectiveCondition
  else
    let dormant := s.configuredConditions.diff s.effectiveConditions
    if dormantSeen dormant s.dormantConditions .none ≠ some dormant then .error .invalidConditions
    else do
      s.backoff.validate A
      match s.circuitBreaker with
      | some circuit => circuit.validate
      | none => .ok ()

end RestartSettings

/-! ## State -/

inductive CircuitState
  | closed
  | opened
  | halfOpen
  deriving DecidableEq

inductive RestartWaitKind
  | halfLifeLogisticBackoff
  | circuitCooldown
  deriving DecidableEq

/-- A wait the controller has scheduled and not yet seen the end of. -/
structure ScheduledRestart where
  kind : RestartWaitKind
  duration : ℕ
  restartNumber : ℕ
  halfLifeLogisticSequenceIndex : Option ℕ
  circuitState : CircuitState
  deriving DecidableEq

inductive WaitCompletion
  | completed
  | interrupted
  | supervisionDeadline
  deriving DecidableEq

structure WaitResult where
  completion : WaitCompletion
  actualElapsed : ℕ
  supervisionDeadlineRemaining : Option ℕ

inductive RestartDecision
  | stopConditionNotSelected
  | stopLimitExhausted
  | stopCleanupUnsafe
  | stopInterrupted
  | stopSupervisionDeadline
  | wait (scheduled : ScheduledRestart)
  | launch (restartNumber : ℕ) (halfOpen : Bool)
  deriving DecidableEq

/-- The decision as an attempt record reports it. -/
inductive RestartDecisionKind
  | noneDisabled
  | noneConditionNotSelected
  | noneLimitExhausted
  | noneCleanupUnsafe
  | noneTerminalDeadline
  | halfLifeLogisticBackoff
  | circuitCooldown
  | halfOpenLaunch
  | abortedByInterruption
  deriving DecidableEq

structure RestartDecisionRecord where
  trigger : Option RestartCondition := none
  decision : RestartDecisionKind := .noneDisabled
  restartNumber : Option ℕ := none
  halfLifeLogisticSequenceIndex : Option ℕ := none
  configuredWaitMs : Option ℕ := none
  actualWaitMs : Option ℕ := none
  waitKind : Option RestartWaitKind := none
  circuitState : CircuitState := .closed
  supervisionDeadlineTruncatedWait : Bool := false
  deriving DecidableEq

/-- Totals over a supervision run. -/
structure RestartSummary where
  enabled : Bool := false
  restartsLaunched : ℕ := 0
  restartLimitExhausted : Bool := false
  halfLifeLogisticWaits : ℕ := 0
  cooldowns : ℕ := 0
  circuitOpenCount : ℕ := 0
  finalCircuitState : CircuitState := .closed
  deriving DecidableEq

structure HalfLifeLogisticBackoffState where
  policy : HalfLifeLogisticBackoffPolicy
  currentInterval : ℕ
  lastBackoffAt : Option ℕ

structure RestartController where
  settings : RestartSettings
  restartsLaunched : ℕ
  backoff : HalfLifeLogisticBackoffState
  halfLifeLogisticSequenceIndex : ℕ
  circuitPressure : Float
  lastCircuitEventAt : Option ℕ
  circuitState : CircuitState
  pending : Option ScheduledRestart

/-- What a controller call reads and writes: the controller, the decision record of the attempt and
the summary of the run. -/
structure RestartLedger where
  controller : RestartController
  record : RestartDecisionRecord
  summary : RestartSummary

/-! ## Transitions

A call returns its result together with the ledger it leaves, also when it fails: the source writes
through mutable references and keeps what it wrote before an error. -/

def HalfLifeLogisticBackoffState.new (p : HalfLifeLogisticBackoffPolicy) :
    Except RestartControllerError HalfLifeLogisticBackoffState := do
  p.validate A
  return ⟨p, p.baseInterval, none⟩

/-- The time since the last event, zero before the first one. -/
def sinceLast (last : Option ℕ) (now : ℕ) : Except RestartControllerError ℕ :=
  match last with
  | none => .ok 0
  | some at_ =>
    match checkedSub now at_ with
    | some d => .ok d
    | none => .error .backoffTimeReversed

/-- `on_backoff`: the next interval, and the state that remembers it. -/
def HalfLifeLogisticBackoffState.onBackoff (s : HalfLifeLogisticBackoffState) (now : ℕ) :
    Except RestartControllerError (ℕ × HalfLifeLogisticBackoffState) := do
  let elapsed ← sinceLast s.lastBackoffAt now
  let base ← durationMillis s.policy.baseInterval
  let current ← durationMillis s.currentInterval
  let asymptote ← durationMillis s.policy.asymptoteInterval
  let halfLife ← durationMillis s.policy.recoveryHalfLife
  let elapsedMs ← durationMillis elapsed
  let next ← halfLifeLogisticNextMillis A base current asymptote s.policy.multiplier halfLife
    elapsedMs
  return (ofMillis next, { s with currentInterval := ofMillis next, lastBackoffAt := some now })

namespace RestartController

def new (settings : RestartSettings) : Except RestartControllerError RestartController := do
  settings.validate A
  let backoff ← HalfLifeLogisticBackoffState.new A settings.backoff
  return {
    settings, backoff
    restartsLaunched := 0
    halfLifeLogisticSequenceIndex := 0
    circuitPressure := 0.0
    lastCircuitEventAt := none
    circuitState := .closed
    pending := none }

def hasRemainingLaunch (c : RestartController) : Bool :=
  match c.settings.limit with
  | .unlimited => true
  | .count limit => decide (c.restartsLaunched < limit)

def nextRestartNumber (c : RestartController) : Except RestartControllerError ℕ :=
  match checkedAdd c.restartsLaunched 1 with
  | some n => .ok n
  | none => .error .counterRange

/-- The share of the circuit pressure that is left at an event. -/
def circuitDecay (c : RestartController) (circuit : CircuitBreakerPolicy)
    (now : ℕ) : Except RestartControllerError Float :=
  match c.lastCircuitEventAt with
  | none => .ok 0.0
  | some previous => do
    let elapsed ← sinceLast (some previous) now
    let elapsedMs ← durationMillis elapsed
    let halfLifeMs ← durationMillis circuit.halfLife
    return A.decay elapsedMs halfLifeMs

/-- Count an event towards the circuit breaker; the verdict is whether the circuit opens. -/
def recordEligibleEvent (c : RestartController) (now : ℕ) :
    Except RestartControllerError (Bool × RestartController) :=
  match c.settings.circuitBreaker with
  | none => .ok (false, c)
  | some circuit =>
    match c.circuitDecay A circuit now with
    | .error e => .error e
    | .ok decay =>
      let pressure := 1.0 + c.circuitPressure * decay
      .ok (decide (circuit.threshold ≤ pressure),
        { c with circuitPressure := pressure, lastCircuitEventAt := some now })

/-- Choose the wait for an eligible event: a cooldown when the circuit opens or a half-open attempt
failed, a plain backoff otherwise. -/
def schedule (c : RestartController) (opens : Bool) (logisticWait sequenceIndex : ℕ) :
    Except RestartControllerError ScheduledRestart × RestartController :=
  if opens ∨ c.circuitState = .halfOpen then
    let c := { c with circuitState := .opened }
    match c.settings.circuitBreaker with
    | none => (.error .invalidCircuit, c)
    | some circuit =>
      (c.nextRestartNumber.map fun n =>
        { kind := .circuitCooldown
          duration := max logisticWait circuit.cooldown
          restartNumber := n
          halfLifeLogisticSequenceIndex := some sequenceIndex
          circuitState := .opened }, c)
  else
    (c.nextRestartNumber.map fun n =>
      { kind := .halfLifeLogisticBackoff
        duration := logisticWait
        restartNumber := n
        halfLifeLogisticSequenceIndex := some sequenceIndex
        circuitState := .closed }, c)

end RestartController

namespace RestartLedger

/-- Count a scheduled wait in the summary. -/
def countWait (s : RestartLedger) : RestartWaitKind →
    Except RestartControllerError Unit × RestartLedger
  | .halfLifeLogisticBackoff =>
    match checkedAdd s.summary.halfLifeLogisticWaits 1 with
    | none => (.error .counterRange, s)
    | some n => (.ok (), { s with summary := { s.summary with halfLifeLogisticWaits := n } })
  | .circuitCooldown =>
    match checkedAdd s.summary.cooldowns 1 with
    | none => (.error .counterRange, s)
    | some n =>
      let s := { s with summary := { s.summary with cooldowns := n } }
      match checkedAdd s.summary.circuitOpenCount 1 with
      | none => (.error .counterRange, s)
      | some m => (.ok (), { s with summary := { s.summary with circuitOpenCount := m } })

/-- Make `scheduled` the pending wait and write it to the record and the summary. -/
def recordScheduled (s : RestartLedger) (scheduled : ScheduledRestart) :
    Except RestartControllerError RestartDecision × RestartLedger :=
  let s :=
    { s with
      controller := { s.controller with pending := some scheduled }
      record :=
        { s.record with
          decision :=
            match scheduled.kind with
            | .halfLifeLogisticBackoff => .halfLifeLogisticBackoff
            | .circuitCooldown => .circuitCooldown
          restartNumber := some scheduled.restartNumber
          halfLifeLogisticSequenceIndex := scheduled.halfLifeLogisticSequenceIndex } }
  match durationMillis scheduled.duration with
  | .error e => (.error e, s)
  | .ok ms =>
    let s :=
      { s with
        record :=
          { s.record with
            configuredWaitMs := some ms
            waitKind := some scheduled.kind
            circuitState := scheduled.circuitState } }
    match s.countWait scheduled.kind with
    | (.error e, s) => (.error e, s)
    | (.ok (), s) =>
      (.ok (.wait scheduled),
        { s with summary := { s.summary with finalCircuitState := s.controller.circuitState } })

/-- The eligible part of `after_limit_recorded`: back off, count the event, schedule the wait. -/
def scheduleRestart (s : RestartLedger) (now : ℕ) :
    Except RestartControllerError RestartDecision × RestartLedger :=
  let sequenceIndex := s.controller.halfLifeLogisticSequenceIndex
  match s.controller.backoff.onBackoff A now with
  | .error e => (.error e, s)
  | .ok (logisticWait, backoff) =>
    let s := { s with controller := { s.controller with backoff } }
    match checkedAdd sequenceIndex 1 with
    | none => (.error .counterRange, s)
    | some next =>
      let s := { s with controller := { s.controller with halfLifeLogisticSequenceIndex := next } }
      match s.controller.recordEligibleEvent A now with
      | .error e => (.error e, s)
      | .ok (opens, controller) =>
        match controller.schedule opens logisticWait sequenceIndex with
        | (.error e, controller) => (.error e, { s with controller })
        | (.ok scheduled, controller) => recordScheduled { s with controller } scheduled

def afterLimitRecorded (s : RestartLedger) (condition : RestartCondition)
    (now : ℕ) (cleanup : RestartSafetyProof) :
    Except RestartControllerError RestartDecision × RestartLedger :=
  let s :=
    { s with
      summary := { s.summary with enabled := true }
      record := { s.record with trigger := some condition } }
  if s.controller.settings.effectiveConditions.contains condition = false then
    (.ok .stopConditionNotSelected,
      { s with record := { s.record with decision := .noneConditionNotSelected } })
  else if cleanup.isSafe = false then
    (.ok .stopCleanupUnsafe,
      { s with record := { s.record with decision := .noneCleanupUnsafe } })
  else if s.controller.hasRemainingLaunch = false then
    (.ok .stopLimitExhausted,
      { s with
        record := { s.record with decision := .noneLimitExhausted }
        summary := { s.summary with restartLimitExhausted := true } })
  else if s.controller.pending.isSome then (.error .invalidTransition, s)
  else s.scheduleRestart A now

/-- The launching part of `authorize_after_wait_recorded`, for the wait that completed. -/
def launchAfter (s : RestartLedger) (scheduled : ScheduledRestart) :
    Except RestartControllerError RestartDecision × RestartLedger :=
  match checkedAdd s.controller.restartsLaunched 1 with
  | none => (.error .counterRange, s)
  | some launched =>
    let halfOpen := scheduled.kind == .circuitCooldown
    let circuitState := if halfOpen then .halfOpen else .closed
    (.ok (.launch launched halfOpen),
      { controller := { s.controller with restartsLaunched := launched, circuitState }
        record :=
          { s.record with
            decision := if halfOpen then .halfOpenLaunch else s.record.decision
            circuitState }
        summary := { s.summary with
            restartsLaunched := launched, finalCircuitState := circuitState } })

/-- The wait is over for a supervision deadline: record it and stop. -/
def stopAtDeadline (s : RestartLedger) :
    Except RestartControllerError RestartDecision × RestartLedger :=
  (.ok .stopSupervisionDeadline,
    { s with
      record :=
        { s.record with
          decision := .noneTerminalDeadline, supervisionDeadlineTruncatedWait := true } })

def authorizeAfterWaitRecorded (s : RestartLedger) (result : WaitResult) :
    Except RestartControllerError RestartDecision × RestartLedger :=
  match s.controller.pending with
  | none => (.error .invalidTransition, s)
  | some scheduled =>
    let s := { s with controller := { s.controller with pending := none } }
    match durationMillis result.actualElapsed with
    | .error e => (.error e, s)
    | .ok ms =>
      let s := { s with record := { s.record with actualWaitMs := some ms } }
      match result.completion with
      | .interrupted =>
        (.ok .stopInterrupted,
          { s with record := { s.record with decision := .abortedByInterruption } })
      | .supervisionDeadline => s.stopAtDeadline
      | .completed =>
        if result.actualElapsed < scheduled.duration then (.error .invalidTransition, s)
        else if result.supervisionDeadlineRemaining = some 0 then s.stopAtDeadline
        else if s.controller.hasRemainingLaunch = false then
          (.ok .stopLimitExhausted,
            { s with
              record := { s.record with decision := .noneLimitExhausted }
              summary := { s.summary with restartLimitExhausted := true } })
        else s.launchAfter scheduled

end RestartLedger

/-! ## What the transitions keep -/

namespace RestartLedger

/-- The settings and both launch counters are the same in `s` and `s'`. -/
structure KeepsLaunches (s s' : RestartLedger) : Prop where
  settings : s'.controller.settings = s.controller.settings
  launched : s'.controller.restartsLaunched = s.controller.restartsLaunched
  counted : s'.summary.restartsLaunched = s.summary.restartsLaunched

theorem KeepsLaunches.refl (s : RestartLedger) : KeepsLaunches s s := ⟨rfl, rfl, rfl⟩

theorem KeepsLaunches.trans {s₁ s₂ s₃ : RestartLedger} (h₁ : KeepsLaunches s₁ s₂)
    (h₂ : KeepsLaunches s₂ s₃) : KeepsLaunches s₁ s₃ :=
  ⟨h₂.settings.trans h₁.settings, h₂.launched.trans h₁.launched, h₂.counted.trans h₁.counted⟩

end RestartLedger

/-- The waits a summary counts. -/
def RestartSummary.waits (x : RestartSummary) : ℕ := x.halfLifeLogisticWaits + x.cooldowns

/-- A cooldown opens the circuit and takes at least its time; a plain backoff leaves the circuit,
and a half-open attempt that failed does not get one. -/
def RestartController.KindFits (c c' : RestartController) (w : ScheduledRestart) : Prop :=
  (w.kind = .circuitCooldown ∧ w.circuitState = .opened ∧ c'.circuitState = .opened ∧
      ∃ circuit, c.settings.circuitBreaker = some circuit ∧ circuit.cooldown ≤ w.duration) ∨
    (w.kind = .halfLifeLogisticBackoff ∧ w.circuitState = .closed ∧
      c'.circuitState = c.circuitState ∧ c.circuitState ≠ .halfOpen)

/-- `w` is the wait that a controller `c` chooses for an event, and it leaves the controller
`c'`. -/
structure RestartController.Chooses (A : RestartArithmetic) (c : RestartController) (now : ℕ)
    (c' : RestartController) (w : ScheduledRestart) : Prop where
  pending : c'.pending = some w
  number : w.restartNumber = c.restartsLaunched + 1
  delayed : ∃ delay backoff, c.backoff.onBackoff A now = .ok (delay, backoff) ∧ delay ≤ w.duration
  circuit : c.KindFits c' w

/-- A count that failed: the cooldowns may have gone up, and nothing else has changed. -/
structure RestartSummary.HalfCounted (x x' : RestartSummary) : Prop where
  rest : x' = { x with cooldowns := x'.cooldowns }
  cooldowns : x'.cooldowns = x.cooldowns ∨ x'.cooldowns = x.cooldowns + 1

theorem RestartSummary.HalfCounted.refl (x : RestartSummary) : x.HalfCounted x := ⟨rfl, .inl rfl⟩

namespace RestartLedger

variable {s s' : RestartLedger} {r : Except RestartControllerError RestartDecision}

theorem countWait_spec {kind : RestartWaitKind} {r : Except RestartControllerError Unit}
    (h : s.countWait kind = (r, s')) :
    KeepsLaunches s s' ∧ s'.controller = s.controller ∧ s'.record = s.record ∧
      (r = .ok () → s'.summary.waits = s.summary.waits + 1) ∧
      ∀ e, r = .error e → s.summary.HalfCounted s'.summary := by
  cases kind with
  | halfLifeLogisticBackoff =>
    simp only [countWait] at h
    split at h
    · cases h
      exact ⟨.refl _, rfl, rfl, nofun, fun _ _ => .refl _⟩
    · next n hn =>
      cases h
      refine ⟨⟨rfl, rfl, rfl⟩, rfl, rfl, fun _ => ?_, nofun⟩
      simp only [RestartSummary.waits, (checkedAdd_eq_some.1 hn).2]
      omega
  | circuitCooldown =>
    simp only [countWait] at h
    split at h
    · cases h
      exact ⟨.refl _, rfl, rfl, nofun, fun _ _ => .refl _⟩
    · next n hn =>
      split at h
      · cases h
        exact ⟨⟨rfl, rfl, rfl⟩, rfl, rfl, nofun, fun _ _ => ⟨rfl, .inr (checkedAdd_eq_some.1 hn).2⟩⟩
      · cases h
        refine ⟨⟨rfl, rfl, rfl⟩, rfl, rfl, fun _ => ?_, nofun⟩
        simp only [RestartSummary.waits, (checkedAdd_eq_some.1 hn).2]
        omega

/-- Recording a scheduled wait leaves it pending and keeps the launch counters; the only decision it
can return is that wait, and the record then says so. -/
theorem recordScheduled_spec {w : ScheduledRestart} (h : s.recordScheduled w = (r, s')) :
    KeepsLaunches s s' ∧ s'.controller = { s.controller with pending := some w } ∧
      (∀ e, r = .error e → s.summary.HalfCounted s'.summary) ∧
      ∀ d, r = .ok d → d = .wait w ∧ s'.record.decision ≠ .noneTerminalDeadline ∧
        s'.summary.waits = s.summary.waits + 1 ∧
        s'.summary.finalCircuitState = s'.controller.circuitState ∧
        s'.record.circuitState = w.circuitState := by
  unfold recordScheduled at h
  cases hd : durationMillis w.duration with
  | error e =>
    simp only [hd, Prod.mk.injEq] at h
    obtain ⟨rfl, rfl⟩ := h
    exact ⟨⟨rfl, rfl, rfl⟩, rfl, fun _ _ => .refl _, by simp⟩
  | ok ms =>
    simp only [hd] at h
    generalize hs₁ : RestartLedger.mk _ _ _ = s₁ at h
    have hkeep : KeepsLaunches s s₁ ∧ s₁.controller = { s.controller with pending := some w } ∧
        s₁.summary = s.summary ∧ s₁.record.decision ≠ .noneTerminalDeadline ∧
        s₁.record.circuitState = w.circuitState := by
      subst hs₁
      exact ⟨⟨rfl, rfl, rfl⟩, rfl, rfl, by cases w.kind <;> simp, rfl⟩
    cases hc : s₁.countWait w.kind with
    | mk res s₂ =>
      obtain ⟨hcount, hcontroller, hrecord, hwaits, hhalf⟩ := countWait_spec hc
      rw [hc] at h
      cases res with
      | error e =>
        simp only [Prod.mk.injEq] at h
        obtain ⟨rfl, rfl⟩ := h
        refine ⟨hkeep.1.trans hcount, hcontroller.trans hkeep.2.1, fun _ _ => ?_, by simp⟩
        rw [← hkeep.2.2.1]
        exact hhalf e rfl
      | ok u =>
        simp only [Prod.mk.injEq] at h
        obtain ⟨rfl, rfl⟩ := h
        refine ⟨hkeep.1.trans ⟨hcount.settings, hcount.launched, hcount.counted⟩,
          hcontroller.trans hkeep.2.1, nofun, ?_⟩
        intro d hd
        refine ⟨(Except.ok.inj hd).symm, hrecord ▸ hkeep.2.2.2.1, ?_, rfl, hrecord ▸ hkeep.2.2.2.2⟩
        rw [← hkeep.2.2.1]
        exact hwaits rfl

end RestartLedger

namespace RestartController

variable {c c' : RestartController} {opens : Bool}

/-- Counting an event writes the pressure and the time of the event. -/
theorem recordEligibleEvent_spec {A : RestartArithmetic} {now : ℕ}
    (h : c.recordEligibleEvent A now = .ok (opens, c')) :
    ∃ pressure last, c' = { c with circuitPressure := pressure, lastCircuitEventAt := last } ∧
      (pressure = c.circuitPressure ∧ last = c.lastCircuitEventAt ∨ last = some now) := by
  unfold recordEligibleEvent at h
  split at h
  · cases h
    exact ⟨_, _, rfl, .inl ⟨rfl, rfl⟩⟩
  · split at h
    · cases h
    · cases h
      exact ⟨_, _, rfl, .inr rfl⟩

/-- The choice of a wait writes the state of the circuit. -/
theorem schedule_spec {wait index : ℕ} {r : Except RestartControllerError ScheduledRestart}
    (h : c.schedule opens wait index = (r, c')) :
    ∃ state, c' = { c with circuitState := state } ∧ (state = c.circuitState ∨ state = .opened) ∧
      ∀ w, r = .ok w → w.restartNumber = c.restartsLaunched + 1 ∧ wait ≤ w.duration ∧
        c.KindFits c' w := by
  have hnumber {c : RestartController} {f : ℕ → ScheduledRestart} {w : ScheduledRestart}
      (h : c.nextRestartNumber.map f = .ok w) : w = f (c.restartsLaunched + 1) := by
    obtain ⟨n, hn, rfl⟩ := Fallible.map_eq_ok.1 h
    unfold nextRestartNumber at hn
    split at hn
    · next m hm =>
      cases hn
      rw [(checkedAdd_eq_some.1 hm).2]
    · cases hn
  unfold schedule at h
  split_ifs at h with hopen
  · simp only at h
    split at h
    · cases h
      exact ⟨_, rfl, .inr rfl, nofun⟩
    · next circuit hcircuit =>
      cases h
      refine ⟨_, rfl, .inr rfl, fun w hw => ?_⟩
      obtain rfl := hnumber hw
      exact ⟨rfl, le_max_left .., .inl ⟨rfl, rfl, rfl, circuit, hcircuit, le_max_right ..⟩⟩
  · cases h
    refine ⟨_, rfl, .inl rfl, fun w hw => ?_⟩
    obtain rfl := hnumber hw
    exact ⟨rfl, le_rfl, .inr ⟨rfl, rfl, rfl, (not_or.1 hopen).2⟩⟩

end RestartController

/-! ## Inversion of the two calls -/

/-- What an event that failed after the backoff has left in the ledger `s'`, from a controller `c`
and a summary `x`: the backoff is advanced, the settings and the launch counters are the same, and
each of the other fields is as before or as the event writes it. -/
structure RestartController.FailedLate (A : RestartArithmetic) (c : RestartController)
    (x : RestartSummary) (now : ℕ) (s' : RestartLedger) : Prop where
  backoff : ∃ delay, c.backoff.onBackoff A now = .ok (delay, s'.controller.backoff)
  rest : s'.controller = { c with
    backoff := s'.controller.backoff
    halfLifeLogisticSequenceIndex := s'.controller.halfLifeLogisticSequenceIndex
    circuitPressure := s'.controller.circuitPressure
    lastCircuitEventAt := s'.controller.lastCircuitEventAt
    circuitState := s'.controller.circuitState
    pending := s'.controller.pending }
  index : s'.controller.halfLifeLogisticSequenceIndex = c.halfLifeLogisticSequenceIndex ∨
    s'.controller.halfLifeLogisticSequenceIndex = c.halfLifeLogisticSequenceIndex + 1
  event : s'.controller.circuitPressure = c.circuitPressure ∧
      s'.controller.lastCircuitEventAt = c.lastCircuitEventAt ∨
    s'.controller.lastCircuitEventAt = some now
  circuit : s'.controller.circuitState = c.circuitState ∨ s'.controller.circuitState = .opened
  pending : s'.controller.pending = c.pending ∨ ∃ w, c.Chooses A now s'.controller w
  summary : x.HalfCounted s'.summary

namespace RestartLedger

/-- What an event of a limit can come to: `LimitEnded A s condition now cleanup r s'` lists the
results `r` and ledgers `s'` of `after_limit_recorded`. -/
inductive LimitEnded (A : RestartArithmetic) (s : RestartLedger) (condition : RestartCondition)
    (now : ℕ) (cleanup : RestartSafetyProof) :
    Except RestartControllerError RestartDecision → RestartLedger → Prop
  /-- No wait is asked for. -/
  | stopped {d : RestartDecision} {s' : RestartLedger} : KeepsLaunches s s' →
      s'.controller = s.controller → s'.summary.waits = s.summary.waits →
      (∀ w, d ≠ .wait w) → (∀ n b, d ≠ .launch n b) →
      s'.record.decision ≠ .noneTerminalDeadline → LimitEnded A s condition now cleanup (.ok d) s'
  /-- The call failed for a pending wait or in the backoff. -/
  | refused {e : RestartControllerError} {s' : RestartLedger} :
      (s.controller.pending ≠ none ∨ ∃ e, s.controller.backoff.onBackoff A now = .error e) →
      s'.controller = s.controller → s'.summary = { s.summary with enabled := true } →
      LimitEnded A s condition now cleanup (.error e) s'
  /-- The call failed after that. -/
  | failed {e : RestartControllerError} {s' : RestartLedger} : s.controller.pending = none →
      s.controller.FailedLate A { s.summary with enabled := true } now s' →
      LimitEnded A s condition now cleanup (.error e) s'
  | scheduled {s' : RestartLedger} {w : ScheduledRestart} : KeepsLaunches s s' →
      s.controller.pending = none → s.controller.Chooses A now s'.controller w →
      s'.summary.waits = s.summary.waits + 1 →
      s'.summary.finalCircuitState = s'.controller.circuitState ∧
        s'.record.circuitState = w.circuitState →
      s'.record.decision ≠ .noneTerminalDeadline →
      s.controller.settings.effectiveConditions.contains condition = true → cleanup.isSafe = true →
      s.controller.hasRemainingLaunch = true →
      LimitEnded A s condition now cleanup (.ok (.wait w)) s'

variable {A} {s s' : RestartLedger} {condition : RestartCondition} {now : ℕ}
  {cleanup : RestartSafetyProof} {r : Except RestartControllerError RestartDecision}

/-- The eligible part, in a ledger without a pending wait. -/
theorem scheduleRestart_cases (h : s.scheduleRestart A now = (r, s'))
    (henabled : { s.summary with enabled := true } = s.summary)
    (hc : s.controller.settings.effectiveConditions.contains condition = true)
    (hs : cleanup.isSafe = true) (hl : s.controller.hasRemainingLaunch = true)
    (hp : s.controller.pending = none) : LimitEnded A s condition now cleanup r s' := by
  unfold scheduleRestart at h
  cases hb : s.controller.backoff.onBackoff A now with
  | error e =>
    simp only [hb] at h
    cases h
    exact .refused (.inr ⟨e, hb⟩) rfl henabled.symm
  | ok p =>
    simp only [hb] at h
    cases hi : checkedAdd s.controller.halfLifeLogisticSequenceIndex 1 with
    | none =>
      simp only [hi] at h
      cases h
      exact .failed hp ⟨⟨_, hb⟩, rfl, .inl rfl, .inl ⟨rfl, rfl⟩, .inl rfl, .inl rfl,
        henabled ▸ .refl _⟩
    | some next =>
      have hnext := (checkedAdd_eq_some.1 hi).2
      simp only [hi] at h
      generalize hc₁ : RestartController.mk _ _ _ _ _ _ _ _ = c₁ at h
      cases he : c₁.recordEligibleEvent A now with
      | error e =>
        simp only [he] at h
        cases h
        subst hc₁
        exact .failed hp
          ⟨⟨_, hb⟩, rfl, .inr hnext, .inl ⟨rfl, rfl⟩, .inl rfl, .inl rfl, henabled ▸ .refl _⟩
      | ok q =>
        obtain ⟨opens, c₂⟩ := q
        obtain ⟨pressure, last, rfl, hevent⟩ := RestartController.recordEligibleEvent_spec he
        simp only [he] at h
        clear he
        subst hc₁
        generalize hsch : RestartController.schedule _ opens p.1 _ = q at h
        obtain ⟨res, c₃⟩ := q
        obtain ⟨state, rfl, hstate, hw⟩ := RestartController.schedule_spec hsch
        cases res with
        | error e =>
          cases h
          exact .failed hp ⟨⟨_, hb⟩, rfl, .inr hnext, hevent, hstate, .inl rfl, henabled ▸ .refl _⟩
        | ok w =>
          obtain ⟨hk, hcontroller, hhalf, hd⟩ := recordScheduled_spec h
          obtain ⟨hnumber, hdelay, hcircuit⟩ := hw w rfl
          have hchosen : s.controller.Chooses A now s'.controller w := by
            rw [hcontroller]
            exact ⟨rfl, hnumber, ⟨_, _, hb, hdelay⟩, hcircuit⟩
          cases r with
          | error e =>
            refine .failed hp ⟨⟨p.1, ?_⟩, ?_, ?_, ?_, ?_, .inr ⟨w, hchosen⟩, henabled ▸ hhalf e rfl⟩
            all_goals rw [hcontroller]
            · exact hb
            · exact .inr hnext
            · exact hevent
            · exact hstate
          | ok d =>
            obtain ⟨rfl, hdecision, hwaits, hfinal⟩ := hd d rfl
            exact .scheduled ⟨hk.1, hk.2, hk.3⟩ hp hchosen hwaits hfinal hdecision hc hs hl

/-- **An event of a limit.** -/
theorem afterLimitRecorded_cases (h : s.afterLimitRecorded A condition now cleanup = (r, s')) :
    LimitEnded A s condition now cleanup r s' := by
  unfold afterLimitRecorded at h
  simp only at h
  split_ifs at h with hc hs hl hp
  · cases h
    exact .stopped ⟨rfl, rfl, rfl⟩ rfl rfl nofun nofun (by simp)
  · cases h
    exact .stopped ⟨rfl, rfl, rfl⟩ rfl rfl nofun nofun (by simp)
  · cases h
    exact .stopped ⟨rfl, rfl, rfl⟩ rfl rfl nofun nofun (by simp)
  · cases h
    exact .refused (.inl (Option.isSome_iff_ne_none.1 hp)) rfl rfl
  · cases scheduleRestart_cases h rfl (Bool.not_eq_false _ ▸ hc) (Bool.not_eq_false _ ▸ hs)
      (Bool.not_eq_false _ ▸ hl) (Option.not_isSome_iff_eq_none.1 hp) with
    | stopped hk hcontroller hwaits hw hn hd =>
      exact .stopped ⟨hk.1, hk.2, hk.3⟩ hcontroller hwaits hw hn hd
    | refused hwhy hcontroller hsummary => exact .refused hwhy hcontroller hsummary
    | failed hpending hlate => exact .failed hpending hlate
    | scheduled hk hpending hchosen hwaits hfinal hd hc hs hl =>
      exact .scheduled ⟨hk.1, hk.2, hk.3⟩ hpending hchosen hwaits hfinal hd hc hs hl

/-- The wait is not pending any more, and nothing else of the controller has changed. -/
structure DropsWait (s s' : RestartLedger) : Prop where
  controller : s'.controller = { s.controller with pending := none }
  counted : s'.summary.restartsLaunched = s.summary.restartsLaunched
  waits : s'.summary.waits = s.summary.waits

theorem DropsWait.keepsLaunches (h : DropsWait s s') : KeepsLaunches s s' :=
  ⟨by rw [h.controller], by rw [h.controller], h.counted⟩

/-- What the end of a wait can come to: `WaitEnded s result r s'` lists the results `r` and ledgers
`s'` of `authorize_after_wait_recorded`, with what each says about the wait. -/
inductive WaitEnded (s : RestartLedger) (result : WaitResult) :
    Except RestartControllerError RestartDecision → RestartLedger → Prop
  | failed {e : RestartControllerError} {s' : RestartLedger} :
      DropsWait s s' → s'.summary = s.summary → WaitEnded s result (.error e) s'
  | interrupted {s' : RestartLedger} : DropsWait s s' → result.completion = .interrupted →
      s'.record.decision = .abortedByInterruption → WaitEnded s result (.ok .stopInterrupted) s'
  | deadline {s' : RestartLedger} : DropsWait s s' → (result.completion = .supervisionDeadline ∨
        result.completion = .completed ∧ result.supervisionDeadlineRemaining = some 0) →
      s'.record.decision = .noneTerminalDeadline →
      WaitEnded s result (.ok .stopSupervisionDeadline) s'
  | exhausted {s' : RestartLedger} : DropsWait s s' → result.completion = .completed →
      s'.record.decision = .noneLimitExhausted → WaitEnded s result (.ok .stopLimitExhausted) s'
  | launched {s' : RestartLedger} {w : ScheduledRestart} :
      s.controller.pending = some w → result.completion = .completed →
      w.duration ≤ result.actualElapsed → result.supervisionDeadlineRemaining ≠ some 0 →
      s.controller.hasRemainingLaunch = true →
      s'.controller =
        { s.controller with
          pending := none
          restartsLaunched := s.controller.restartsLaunched + 1
          circuitState := if w.kind == .circuitCooldown then .halfOpen else .closed } →
      s'.summary.restartsLaunched = s.controller.restartsLaunched + 1 →
        s'.summary.waits = s.summary.waits →
      (s'.record.decision = s.record.decision ∨ s'.record.decision = .halfOpenLaunch) →
      WaitEnded s result
        (.ok (.launch (s.controller.restartsLaunched + 1) (w.kind == .circuitCooldown))) s'

theorem authorizeAfterWaitRecorded_cases {result : WaitResult}
    (h : s.authorizeAfterWaitRecorded result = (r, s')) : WaitEnded s result r s' := by
  unfold authorizeAfterWaitRecorded at h
  cases hp : s.controller.pending with
  | none =>
    simp only [hp] at h
    cases h
    exact .failed ⟨by rw [← hp], rfl, rfl⟩ rfl
  | some w =>
    simp only [hp] at h
    cases hd : durationMillis result.actualElapsed with
    | error e =>
      simp only [hd] at h
      cases h
      exact .failed ⟨rfl, rfl, rfl⟩ rfl
    | ok ms =>
      simp only [hd] at h
      cases hc : result.completion with
      | interrupted =>
        simp only [hc] at h
        cases h
        exact .interrupted ⟨rfl, rfl, rfl⟩ hc rfl
      | supervisionDeadline =>
        simp only [hc, stopAtDeadline] at h
        cases h
        exact .deadline ⟨rfl, rfl, rfl⟩ (.inl hc) rfl
      | completed =>
        simp only [hc, stopAtDeadline] at h
        split_ifs at h with hlong hbudget hleft
        · cases h
          exact .failed ⟨rfl, rfl, rfl⟩ rfl
        · cases h
          exact .deadline ⟨rfl, rfl, rfl⟩ (.inr ⟨hc, hbudget⟩) rfl
        · cases h
          exact .exhausted ⟨rfl, rfl, rfl⟩ hc rfl
        · unfold launchAfter at h
          cases ha : checkedAdd s.controller.restartsLaunched 1 with
          | none =>
            simp only [ha] at h
            cases h
            exact .failed ⟨rfl, rfl, rfl⟩ rfl
          | some launched =>
            obtain ⟨-, rfl⟩ := checkedAdd_eq_some.1 ha
            simp only [ha] at h
            cases h
            refine .launched hp hc (not_lt.1 hlong) hbudget ?_ rfl rfl rfl ?_
            · exact Bool.not_eq_false _ ▸ hleft
            · simp only
              split_ifs
              · exact .inr rfl
              · exact .inl rfl

end RestartLedger

/-! ## The coordinator -/

/-- What the supervision loop does next. -/
inductive RestartAction
  | stop (kind : RestartDecisionKind)
  | wait (duration : ℕ) (kind : RestartWaitKind)
  | launch (restartNumber : ℕ) (halfOpen : Bool)
  deriving DecidableEq

/-- The action for a decision; a stop reports the decision written in the record. -/
def action (decision : RestartDecision) (stop : RestartDecisionKind) : RestartAction :=
  match decision with
  | .wait w => .wait w.duration w.kind
  | .launch n halfOpen => .launch n halfOpen
  | .stopConditionNotSelected => .stop stop
  | .stopLimitExhausted => .stop stop
  | .stopCleanupUnsafe => .stop stop
  | .stopInterrupted => .stop stop
  | .stopSupervisionDeadline => .stop stop

/-- The controller together with the summary of its run. -/
structure RestartCoordinator where
  controller : RestartController
  summary : RestartSummary

namespace RestartCoordinator

def new (settings : RestartSettings) : Except RestartControllerError RestartCoordinator := do
  let controller ← RestartController.new A settings
  return ⟨controller, {}⟩

/-- The result of a controller call, as the loop sees it. -/
def finish : Except RestartControllerError RestartDecision × RestartLedger →
    Except RestartControllerError (RestartAction × RestartCoordinator × RestartDecisionRecord)
  | (.error e, _) => .error e
  | (.ok d, s) => .ok (action d s.record.decision, ⟨s.controller, s.summary⟩, s.record)

/-- `on_limit`. The loop abandons the coordinator when it fails, so only the error is kept. -/
def onLimit (c : RestartCoordinator) (condition : RestartCondition)
    (now : ℕ) (cleanup : RestartSafetyProof) (record : RestartDecisionRecord) :
    Except RestartControllerError (RestartAction × RestartCoordinator × RestartDecisionRecord) :=
  finish (RestartLedger.afterLimitRecorded A ⟨c.controller, record, c.summary⟩ condition
    now cleanup)

def completeWait (c : RestartCoordinator) (result : WaitResult) (record : RestartDecisionRecord) :
    Except RestartControllerError (RestartAction × RestartCoordinator × RestartDecisionRecord) :=
  finish (RestartLedger.authorizeAfterWaitRecorded ⟨c.controller, record, c.summary⟩ result)

variable {A : RestartArithmetic} {c : RestartCoordinator}

/-- The coordinator starts with nothing launched. -/
theorem new_spec {settings : RestartSettings} (h : new A settings = .ok c) :
    c.controller.settings = settings ∧ c.controller.restartsLaunched = 0 ∧
    c.summary.restartsLaunched = 0 := by
  obtain ⟨controller, hnew, h⟩ := Fallible.bind_eq_ok.1 h
  obtain ⟨_, -, hnew⟩ := Fallible.bind_eq_ok.1 hnew
  obtain ⟨backoff, -, hnew⟩ := Fallible.bind_eq_ok.1 hnew
  cases hnew
  cases h
  exact ⟨rfl, rfl, rfl⟩

/-- The settings and both launch counters are the same in `c` and `c'`. -/
structure KeepsLaunches (c c' : RestartCoordinator) : Prop where
  settings : c'.controller.settings = c.controller.settings
  launched : c'.controller.restartsLaunched = c.controller.restartsLaunched
  counted : c'.summary.restartsLaunched = c.summary.restartsLaunched

variable {a : RestartAction}

theorem finish_eq_ok {p : Except RestartControllerError RestartDecision × RestartLedger}
    {record : RestartDecisionRecord} (h : finish p = .ok (a, c, record)) :
    ∃ d, p = (.ok d, ⟨c.controller, record, c.summary⟩) ∧ a = action d record.decision := by
  obtain ⟨r, s⟩ := p
  cases r with
  | error e => simp [finish] at h
  | ok d =>
    simp only [finish, Except.ok.injEq, Prod.mk.injEq] at h
    obtain ⟨rfl, rfl, rfl⟩ := h
    exact ⟨d, rfl, rfl⟩

variable {c c' : RestartCoordinator} {record record' : RestartDecisionRecord}

/-- **`on_limit`.** It keeps the launch counters, never launches by itself and never blames a
supervision deadline; when it asks for a wait, the condition is an effective one, the proof is safe
for a standard attempt, and the wait is the controller's pending one. -/
theorem onLimit_spec {condition : RestartCondition} {now : ℕ} {cleanup : RestartSafetyProof}
    (h : c.onLimit A condition now cleanup record = .ok (a, c', record')) :
    KeepsLaunches c c' ∧ (∀ n b, a ≠ .launch n b) ∧ record'.decision ≠ .noneTerminalDeadline ∧
      ∀ duration kind, a = .wait duration kind →
          c.controller.settings.effectiveConditions.contains condition = true ∧
          cleanup.isSafe = true ∧
          ∃ w, c'.controller.pending = some w ∧ w.duration = duration ∧ w.kind = kind := by
  obtain ⟨d, hp, rfl⟩ := finish_eq_ok h
  cases RestartLedger.afterLimitRecorded_cases hp with
  | stopped hk _ _ hwait hlaunch hdecision =>
    refine ⟨⟨hk.settings, hk.launched, hk.counted⟩, fun n b ha => ?_, hdecision,
      fun duration kind ha => ?_⟩
    · cases d <;> simp only [action, reduceCtorEq] at ha
      exact hlaunch _ _ rfl
    · cases d <;> simp only [action, reduceCtorEq] at ha
      exact absurd rfl (hwait _)
  | @scheduled _ w hk _ hchosen _ _ hdecision hc hs _ =>
    refine ⟨⟨hk.settings, hk.launched, hk.counted⟩, nofun, hdecision, fun duration kind ha => ?_⟩
    simp only [action, RestartAction.wait.injEq] at ha
    exact ⟨hc, hs, w, hchosen.pending, ha.1, ha.2⟩

/-- What the end of a wait can come to, as the loop sees it: it stops with the decision of the
record, or launches after a completed wait of the scheduled length. -/
inductive WaitEnded (c : RestartCoordinator) (result : WaitResult)
    (record : RestartDecisionRecord) :
    RestartAction → RestartCoordinator → RestartDecisionRecord → Prop
  | stopped {c' : RestartCoordinator} {record' : RestartDecisionRecord} : KeepsLaunches c c' →
      record'.decision ≠ .noneTerminalDeadline →
      WaitEnded c result record (.stop record'.decision) c' record'
  | deadline {c' : RestartCoordinator} {record' : RestartDecisionRecord} : KeepsLaunches c c' →
      (result.completion = .supervisionDeadline ∨
        result.completion = .completed ∧ result.supervisionDeadlineRemaining = some 0) →
      record'.decision = .noneTerminalDeadline →
      WaitEnded c result record (.stop .noneTerminalDeadline) c' record'
  | launched {c' : RestartCoordinator} {record' : RestartDecisionRecord} {w : ScheduledRestart}
      {n : ℕ} {halfOpen : Bool} :
      c.controller.pending = some w → result.completion = .completed →
      w.duration ≤ result.actualElapsed → c.controller.hasRemainingLaunch = true →
      c'.controller.settings = c.controller.settings →
      c'.controller.restartsLaunched = c.controller.restartsLaunched + 1 →
      c'.summary.restartsLaunched = c.controller.restartsLaunched + 1 →
      (record'.decision = record.decision ∨ record'.decision = .halfOpenLaunch) →
      WaitEnded c result record (.launch n halfOpen) c' record'

/-- **`complete_wait`.** -/
theorem completeWait_cases {result : WaitResult}
    (h : c.completeWait result record = .ok (a, c', record')) :
    WaitEnded c result record a c' record' := by
  obtain ⟨d, hp, rfl⟩ := finish_eq_ok h
  cases RestartLedger.authorizeAfterWaitRecorded_cases hp with
  | interrupted hdrop _ hd =>
    have hk := hdrop.keepsLaunches
    exact .stopped ⟨hk.settings, hk.launched, hk.counted⟩
      (by simp [show record'.decision = _ from hd])
  | deadline hdrop hr hd =>
    have hk := hdrop.keepsLaunches
    rw [show action _ record'.decision = .stop .noneTerminalDeadline from congrArg _ hd]
    exact .deadline ⟨hk.settings, hk.launched, hk.counted⟩ hr hd
  | exhausted hdrop _ hd =>
    have hk := hdrop.keepsLaunches
    exact .stopped ⟨hk.settings, hk.launched, hk.counted⟩
      (by simp [show record'.decision = _ from hd])
  | launched hw hc hlong _ hleft hcontroller hcount _ hd =>
    simp only at hcontroller
    exact .launched hw hc hlong hleft (by rw [hcontroller]) (by rw [hcontroller]) hcount hd

end RestartCoordinator

end MemCordon
