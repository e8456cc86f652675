import MemCordon.Core.Restart
import MemCordon.Foundations.Runs

/-!
# Runs of the restart controller

The two calls of a controller in any order and with any arguments, whatever the formulas of the
backoff and of the circuit give. A `RestartRun` carries, beside the controller and its summary, what
the calls so far have returned.

* `RestartCall.perform_error`: what a call that fails may have changed.
* `RestartRun.restart_calls`: one wait at a time, consecutive restart numbers, waits counted, and no
  launch before the scheduled time.
* `RestartRun.circuit_calls`: once a half-open attempt was launched, the circuit stays open or
  half-open, as long as an event is not reported to an open circuit without a wait.
-/

namespace MemCordon

open Clock Counter

/-- A call of the controller, with the decision record of the attempt that it is handed. -/
inductive RestartCall
  | afterLimit (condition : RestartCondition) (now : ℕ) (cleanup : RestartSafetyProof)
    (record : RestartDecisionRecord)
  | authorize (result : WaitResult) (record : RestartDecisionRecord)

abbrev RestartResult := Except RestartControllerError RestartDecision

namespace RestartCall

def perform (A : RestartArithmetic) (c : RestartCoordinator) : RestartCall →
    RestartResult × RestartLedger
  | afterLimit condition now cleanup record =>
    RestartLedger.afterLimitRecorded A ⟨c.controller, record, c.summary⟩ condition now cleanup
  | authorize result record =>
    RestartLedger.authorizeAfterWaitRecorded ⟨c.controller, record, c.summary⟩ result

/-- What a call can come to, for the waits, the launches and the circuit. -/
inductive Performs (A : RestartArithmetic) (c : RestartCoordinator) : RestartCall → RestartResult →
    RestartLedger → Prop
  /-- Nothing is scheduled and nothing launched. -/
  | idle {call : RestartCall} {r : RestartResult} {s : RestartLedger} : (∀ w, r ≠ .ok (.wait w)) →
      (∀ n b, r ≠ .ok (.launch n b)) →
      s.controller.restartsLaunched = c.controller.restartsLaunched →
      (s.controller.pending = c.controller.pending ∨ s.controller.pending = none) →
      (s.controller.circuitState = c.controller.circuitState ∨
        c.controller.pending = none ∧ s.controller.circuitState = .opened) →
      (∀ d, r = .ok d → s.summary.waits = c.summary.waits) → Performs A c call r s
  /-- A wait is chosen; the call may still fail. -/
  | chose {condition now cleanup record} {r : RestartResult} {s : RestartLedger}
      {w : ScheduledRestart} :
      c.controller.pending = none → c.controller.Chooses A now s.controller w →
      s.controller.restartsLaunched = c.controller.restartsLaunched →
      (∀ d, r = .ok d → d = .wait w ∧ s.summary.waits = c.summary.waits + 1 ∧
        s.summary.finalCircuitState = s.controller.circuitState ∧
      s.record.circuitState = w.circuitState) →
      Performs A c (.afterLimit condition now cleanup record) r s
  | launched {result : WaitResult} {record} {w : ScheduledRestart} {s : RestartLedger} :
      c.controller.pending = some w → w.duration ≤ result.actualElapsed →
      s.controller.restartsLaunched = c.controller.restartsLaunched + 1 →
      s.controller.pending = none →
      s.controller.circuitState = (if w.kind == .circuitCooldown then .halfOpen else .closed) →
      s.summary.waits = c.summary.waits →
      Performs A c (.authorize result record)
        (.ok (.launch (c.controller.restartsLaunched + 1) (w.kind == .circuitCooldown))) s

variable {A : RestartArithmetic} {c : RestartCoordinator} {call : RestartCall} {s : RestartLedger}

theorem perform_cases {r : RestartResult} (h : call.perform A c = (r, s)) :
    Performs A c call r s := by
  cases call with
  | afterLimit condition now cleanup record =>
    cases RestartLedger.afterLimitRecorded_cases h with
    | stopped hkeep hc hw hnw hnl =>
      exact .idle (fun w h => hnw w (Except.ok.inj h)) (fun n b h => hnl n b (Except.ok.inj h))
        hkeep.launched (.inl (by rw [hc])) (.inl (by rw [hc])) fun _ _ => hw
    | refused _ hc _ =>
      exact .idle nofun nofun (by rw [hc]) (.inl (by rw [hc])) (.inl (by rw [hc])) nofun
    | failed hnone hlate =>
      have hlaunched := congrArg RestartController.restartsLaunched hlate.rest
      obtain hpend | ⟨w, hchosen⟩ := hlate.pending
      · exact .idle nofun nofun hlaunched (.inl hpend) (hlate.circuit.imp_right (⟨hnone, ·⟩)) nofun
      · exact .chose hnone hchosen hlaunched nofun
    | scheduled hkeep hnone hchosen hcount hfinal =>
      exact .chose hnone hchosen hkeep.launched fun d hd =>
        ⟨(Except.ok.inj hd).symm, hcount, hfinal⟩
  | authorize result record =>
    have hidle : ∀ {r}, (∀ w, r ≠ .ok (.wait w)) → (∀ n b, r ≠ .ok (.launch n b)) →
        RestartLedger.DropsWait ⟨c.controller, record, c.summary⟩ s →
        Performs A c (.authorize result record) r s := by
      intro r hnw hnl hdrop
      have hc := hdrop.controller
      exact .idle hnw hnl (by rw [hc]) (.inr (by rw [hc])) (.inl (by rw [hc])) fun _ _ =>
        hdrop.waits
    cases RestartLedger.authorizeAfterWaitRecorded_cases h with
    | failed hdrop | interrupted hdrop | deadline hdrop | exhausted hdrop =>
      exact hidle nofun nofun hdrop
    | launched hpend _ hlong _ _ hc _ hw =>
      exact .launched hpend hlong (by rw [hc]) (by rw [hc]) (by rw [hc]) hw

/-! ## Calls that fail -/

/-- What a call that failed has left. The end of a wait only takes the wait. An event that is
refused for a pending wait or by the backoff changes nothing but the mark that restarts are enabled.
An event that fails later has advanced the backoff and may have written the sequence index, the
circuit, the wait it has chosen and the count of cooldowns, and nothing else
(`RestartController.FailedLate`). -/
def FailedLeaves (A : RestartArithmetic) (c : RestartCoordinator) (s : RestartLedger) :
    RestartCall → Prop
  | .authorize _ _ => s.controller = { c.controller with pending := none } ∧ s.summary = c.summary
  | .afterLimit _ now _ _ =>
    (c.controller.pending ≠ none ∨ ∃ e, c.controller.backoff.onBackoff A now = .error e) ∧
        s.controller = c.controller ∧ s.summary = { c.summary with enabled := true } ∨
      c.controller.pending = none ∧
        c.controller.FailedLate A { c.summary with enabled := true } now s

/-- **A call that fails.** -/
theorem perform_error {e : RestartControllerError} (h : call.perform A c = (.error e, s)) :
    call.FailedLeaves A c s := by
  cases call with
  | afterLimit condition now cleanup record =>
    cases RestartLedger.afterLimitRecorded_cases h with
    | refused hwhy hcontroller hsummary => exact .inl ⟨hwhy, hcontroller, hsummary⟩
    | failed hnone hlate => exact .inr ⟨hnone, hlate⟩
  | authorize result record =>
    cases RestartLedger.authorizeAfterWaitRecorded_cases h with
    | failed hdrop hsummary => exact ⟨hdrop.controller, hsummary⟩

end RestartCall

namespace RestartSample

/-- The formulas at the inputs of the sample, where those of the source are exact. Base and
asymptote are one interval, which is then every interval, and times are whole half-lives, after `n`
of which `2 ^ -n` of the pressure is left. -/
def formulas : RestartArithmetic where
  nextMillis _ _ asymptote _ _ _ := asymptote
  decay elapsed halfLife := 1.0 / (2 ^ (elapsed / halfLife)).toFloat

/-- Restarts without a bound after a second each, and a circuit that opens at the second event
within a second. -/
def settings : RestartSettings :=
  { configuredConditions := .both, effectiveConditions := .both, limit := .unlimited
    backoff := { baseInterval := ofSecs 1, asymptoteInterval := ofSecs 1 }
    circuitBreaker := some ⟨1.5, ofSecs 1, ofSecs 30⟩ }

def coordinator : RestartCoordinator :=
  ⟨⟨settings, 0, ⟨settings.backoff, ofSecs 1, none⟩, 0, 0.0, none, .closed, none⟩, {}⟩

theorem new_coordinator : RestartCoordinator.new formulas settings = .ok coordinator := rfl

def limit (now : ℕ) : RestartCall :=
  .afterLimit .memoryLimit now
    { directChildReaped := true, workloadEmpty := some true, helpersReaped := true,
      containmentRemoved := true } {}

def waited (completion : WaitCompletion) (elapsed : ℕ) : RestartCall :=
  .authorize ⟨completion, elapsed, none⟩ {}

def after (c : RestartCoordinator) (call : RestartCall) : RestartCoordinator :=
  ⟨(call.perform formulas c).2.controller, (call.perform formulas c).2.summary⟩

/-- A coordinator whose first wait is pending. -/
def pending : RestartCoordinator := after coordinator (limit 0)

/-- A coordinator after its first restart, with a circuit whose half-life is beyond 64 bits of
milliseconds. -/
def overlong : RestartCoordinator :=
  let circuit : CircuitBreakerPolicy := ⟨1.5, ofMillis u64Bound, ofSecs 30⟩
  after (after ⟨{ coordinator.controller with settings.circuitBreaker := some circuit },
    {}⟩ (limit 0)) (waited .completed (ofSecs 1))

/-- The circuit opens at the second event, and its cooldown is followed by a half-open launch. -/
def halfOpening : List RestartCall :=
  [limit 0, waited .completed (ofSecs 1), limit (ofSecs 1), waited .completed (ofSecs 30)]

end RestartSample

open RestartSample

/-- A wait that is reported too early, and an event that fails after the backoff was advanced. -/
theorem RestartCall.perform_error_early_and_late :
    (waited .completed 0).FailedLeaves formulas pending
      ((waited .completed 0).perform formulas pending).2 ∧
      (limit (ofSecs 1)).FailedLeaves formulas overlong
      ((limit (ofSecs 1)).perform formulas overlong).2 ∧
      ((limit (ofSecs 1)).perform formulas overlong).2.controller.backoff.lastBackoffAt =
        some (ofSecs 1) := by
  refine ⟨?_, ?_, by decide +kernel⟩
  · exact RestartCall.perform_error (e := .invalidTransition) (Prod.ext (by decide +kernel) rfl)
  · exact RestartCall.perform_error (e := .backoffRange) (Prod.ext (by decide +kernel) rfl)

/-- A wait reported as complete before its time is refused, and is not pending any more. -/
theorem RestartCall.early_wait_lost :
    pending.controller.pending.isSome = true ∧
      ((waited .completed 0).perform formulas pending).1 = .error .invalidTransition ∧
      ((waited .completed 0).perform formulas pending).2.controller.pending = none := by
  decide +kernel

/-- A controller with its summary, and what its calls have returned. -/
structure RestartRun extends RestartCoordinator where
  waits : ℕ := 0
  launches : ℕ := 0
  /-- A launch after a cooldown was decided. -/
  halfOpened : Bool := false
  failed : Bool := false

namespace RestartRun

/-- The run of a coordinator that was just built. -/
def start (c : RestartCoordinator) : RestartRun := { toRestartCoordinator := c }

/-- The run after a call that left the ledger `s`, by the call's result. -/
def after (x : RestartRun) (s : RestartLedger) : RestartResult → RestartRun
  | .ok (.wait _) =>
    { x with controller := s.controller, summary := s.summary, waits := x.waits + 1 }
  | .ok (.launch _ halfOpen) =>
    { x with
      controller := s.controller, summary := s.summary
      launches := x.launches + 1, halfOpened := x.halfOpened || halfOpen }
  | .ok _ => { x with controller := s.controller, summary := s.summary }
  | .error _ => { x with controller := s.controller, summary := s.summary, failed := true }

def next (A : RestartArithmetic) (x : RestartRun) (call : RestartCall) : RestartRun :=
  x.after (call.perform A x.toRestartCoordinator).2 (call.perform A x.toRestartCoordinator).1

variable {A : RestartArithmetic} {x : RestartRun} {call : RestartCall} {settings : RestartSettings}
  {c : RestartCoordinator} {calls : List RestartCall}

/-- A call that schedules and launches nothing only moves the controller and the summary. -/
theorem after_idle {s : RestartLedger} {r : RestartResult} (hw : ∀ w, r ≠ .ok (.wait w))
    (hl : ∀ n b, r ≠ .ok (.launch n b)) :
    x.after s r = { x with controller := s.controller, summary := s.summary,
                           failed := (x.after s r).failed } ∧
      ((x.after s r).failed = false → x.failed = false ∧ ∃ d, r = .ok d) := by
  match r with
  | .error e => exact ⟨rfl, nofun⟩
  | .ok (.wait w) => exact absurd rfl (hw w)
  | .ok (.launch n b) => exact absurd rfl (hl n b)
  | .ok .stopConditionNotSelected | .ok .stopLimitExhausted | .ok .stopCleanupUnsafe
    | .ok .stopInterrupted
  | .ok .stopSupervisionDeadline => exact ⟨rfl, fun hf => ⟨hf, _, rfl⟩⟩

/-! ## Waits and launches -/

/-- The controller agrees with what its calls have returned. -/
structure Tallied (x : RestartRun) : Prop where
  launched : x.controller.restartsLaunched = x.launches
  numbered : ∀ w, x.controller.pending = some w → w.restartNumber = x.launches + 1
  counted : x.failed = false → x.summary.waits = x.waits

theorem Tallied.next (h : x.Tallied) (call : RestartCall) : (x.next A call).Tallied := by
  unfold RestartRun.next
  generalize hp : call.perform A x.toRestartCoordinator = p
  obtain ⟨r, s⟩ := p
  cases RestartCall.perform_cases hp with
  | idle hnw hnl hlaunched hpend _ hcount =>
    obtain ⟨hafter, hfailed⟩ := after_idle (x := x) (s := s) hnw hnl
    rw [hafter]
    refine ⟨hlaunched.trans h.launched, fun w hw => ?_, fun hf => ?_⟩
    · obtain hpend | hpend := hpend
      · exact h.numbered w (hpend.symm.trans hw)
      · cases hpend.symm.trans hw
    · obtain ⟨hf, d, hd⟩ := hfailed hf
      exact (hcount d hd).trans (h.counted hf)
  | chose hnone hchosen hlaunched hok =>
    have hnumbered : ∀ w, s.controller.pending = some w → w.restartNumber = x.launches + 1 := by
      intro w hw
      cases hchosen.pending.symm.trans hw
      rw [hchosen.number, h.launched]
    match r with
    | .error e => exact ⟨hlaunched.trans h.launched, hnumbered, nofun⟩
    | .ok d =>
      obtain ⟨rfl, hcount, -⟩ := hok d rfl
      exact ⟨hlaunched.trans h.launched, hnumbered,
        fun hf => hcount.trans (congrArg (· + 1) (h.counted hf))⟩
  | launched _ _ hlaunched hnone _ hcount =>
    refine ⟨hlaunched.trans (congrArg (· + 1) h.launched), fun w hw => ?_,
      fun hf => hcount.trans (h.counted hf)⟩
    cases hnone.symm.trans hw

/-- A run that agrees with its calls, and what its next call may return. -/
structure Lawful (A : RestartArithmetic) (x : RestartRun) : Prop extends Tallied x where
  scheduled : ∀ (call : RestartCall) s w,
    call.perform A x.toRestartCoordinator = (.ok (.wait w), s) →
    x.controller.pending = none ∧ s.controller.pending = some w ∧ w.restartNumber = x.launches + 1 ∧
      (w.kind = .circuitCooldown →
        ∃ circuit, x.controller.settings.circuitBreaker = some circuit ∧
      circuit.cooldown ≤ w.duration) ∧
      ∃ condition now cleanup record, call = .afterLimit condition now cleanup record ∧
        ∃ delay backoff, x.controller.backoff.onBackoff A now = .ok (delay, backoff) ∧
          delay ≤ w.duration
  launch : ∀ (call : RestartCall) s n halfOpen,
    call.perform A x.toRestartCoordinator = (.ok (.launch n halfOpen), s) →
    n = x.launches + 1 ∧ ∃ result record w, call = .authorize result record ∧
      x.controller.pending = some w ∧ w.restartNumber = n ∧ w.duration ≤ result.actualElapsed

theorem Tallied.lawful (h : x.Tallied) : x.Lawful A where
  toTallied := h
  scheduled := by
    intro call s w hp
    cases RestartCall.perform_cases hp with
    | idle hnw => exact absurd rfl (hnw w)
    | chose hnone hchosen _ hok =>
      cases (hok _ rfl).1
      refine ⟨hnone, hchosen.pending, hchosen.number.trans (congrArg (· + 1) h.launched),
        fun hk => ?_, _, _, _, _, rfl, hchosen.delayed⟩
      obtain ⟨-, -, -, hcooldown⟩ | ⟨hplain, -⟩ := hchosen.circuit
      · exact hcooldown
      · cases hk.symm.trans hplain
  launch := by
    intro call s n halfOpen hp
    cases RestartCall.perform_cases hp with
    | idle _ hnl => exact absurd rfl (hnl n halfOpen)
    | chose _ _ _ hok => cases (hok _ rfl).1
    | launched hpend hlong =>
      have hn : x.controller.restartsLaunched + 1 = x.launches + 1 := congrArg (· + 1) h.launched
      exact ⟨hn, _, _, _, rfl, hpend, (h.numbered _ hpend).trans hn.symm, hlong⟩

theorem start_eq (h : RestartCoordinator.new A settings = .ok c) :
    c.controller.restartsLaunched = 0 ∧ c.controller.pending = none ∧ c.summary = {} := by
  obtain ⟨controller, hnew, h⟩ := Fallible.bind_eq_ok.1 h
  obtain ⟨_, -, hnew⟩ := Fallible.bind_eq_ok.1 hnew
  obtain ⟨backoff, -, hnew⟩ := Fallible.bind_eq_ok.1 hnew
  cases hnew
  cases h
  exact ⟨rfl, rfl, rfl⟩

/-- **Every call sequence.** -/
theorem restart_calls (h : RestartCoordinator.new A settings = .ok c) (calls : List RestartCall) :
    (calls.foldl (next A) (start c)).Lawful A := by
  obtain ⟨hlaunched, hnone, hsummary⟩ := start_eq h
  have hstart : (start c).Tallied :=
    ⟨hlaunched, fun w hw => absurd (hnone.symm.trans hw) nofun,
      fun _ => congrArg RestartSummary.waits hsummary⟩
  have hall : Calls.AllAllowed (next A) (start c) (fun _ _ => True) calls := fun _ _ _ _ => trivial
  exact (Calls.invariant (fun _ => Tallied) hstart (fun _ _ call hx _ => hx.next call) hall).lawful

theorem restart_calls_sample :
    ([limit 0, waited .completed (ofSecs 1), limit (ofSecs 1)].foldl (next formulas)
      (start coordinator)).Lawful formulas :=
  restart_calls new_coordinator _

/-! ## The circuit -/

/-- An event is not reported to an open circuit unless its wait is still pending. The supervision
loop ends with a cooldown that is not followed by a launch. -/
def Reported (x : RestartRun) : RestartCall → Prop
  | .afterLimit _ _ _ _ => x.controller.pending = none → x.controller.circuitState ≠ .opened
  | .authorize _ _ => True

/-- A cooldown is pending in an open circuit only, a plain backoff in a closed one; after a
half-open launch the circuit is not closed. -/
structure CircuitKept (x : RestartRun) : Prop where
  pending : ∀ w, x.controller.pending = some w →
    x.controller.circuitState = if w.kind == .circuitCooldown then .opened else .closed
  halfOpened : x.halfOpened = true → x.controller.circuitState ≠ .closed

/-- The wait chosen in a circuit that is not open. -/
theorem CircuitKept.chosen {now : ℕ} {c' : RestartController} {w : ScheduledRestart}
    (h : x.CircuitKept)
    (hopen : x.controller.circuitState ≠ .opened) (hchosen : x.controller.Chooses A now c' w) :
    (c'.circuitState = if w.kind == .circuitCooldown then .opened else .closed) ∧
      w.circuitState = c'.circuitState ∧
      (x.halfOpened = true → w.kind = .circuitCooldown ∧ w.circuitState = .opened) := by
  obtain ⟨hk, hw, hc, -⟩ | ⟨hk, hw, hc, hhalf⟩ := hchosen.circuit
  · rw [hc, hk, hw]
    exact ⟨rfl, rfl, fun _ => ⟨rfl, rfl⟩⟩
  · have hclosed : x.controller.circuitState = .closed := by
      cases hx : x.controller.circuitState with
      | closed => rfl
      | opened => exact absurd hx hopen
      | halfOpen => exact absurd hx hhalf
    rw [hc, hk, hw, hclosed]
    exact ⟨rfl, rfl, fun hx => absurd hclosed (h.halfOpened hx)⟩

theorem CircuitKept.next (h : x.CircuitKept) (hcall : x.Reported call) :
    (x.next A call).CircuitKept := by
  unfold RestartRun.next
  generalize hp : call.perform A x.toRestartCoordinator = p
  obtain ⟨r, s⟩ := p
  cases RestartCall.perform_cases hp with
  | idle hnw hnl _ hpend hcircuit =>
    rw [(after_idle (x := x) (s := s) hnw hnl).1]
    constructor
    · intro w hw
      obtain hpend | hpend := hpend
      · obtain hsame | ⟨hnone, -⟩ := hcircuit
        · exact hsame.trans (h.pending w (hpend.symm.trans hw))
        · cases (hpend.trans hnone).symm.trans hw
      · cases hpend.symm.trans hw
    · intro hx
      obtain hsame | ⟨-, hopened⟩ := hcircuit
      · exact hsame ▸ h.halfOpened hx
      · simp [hopened]
  | chose hnone hchosen _ hok =>
    obtain ⟨hstate, hw, hhalf⟩ := h.chosen (hcall hnone) hchosen
    have hkept :
        ∀ n f, CircuitKept { x with controller := s.controller, summary := s.summary, waits := n,
                                    failed := f } := by
      refine fun n f => ⟨fun w' hw' => ?_, fun hx => ?_⟩
      · cases hchosen.pending.symm.trans hw'
        exact hstate
      · simp [← hw, (hhalf hx).2]
    match r with
    | .error e => exact hkept _ _
    | .ok d =>
      obtain ⟨rfl, -⟩ := hok d rfl
      exact hkept _ _
  | @launched _ _ w _ hpend _ _ hnone hstate =>
    refine ⟨fun w' hw' => ?_, fun hx => ?_⟩
    · cases hnone.symm.trans hw'
    · have hclosed := h.pending w hpend
      cases hk : w.kind == .circuitCooldown with
      | true => simp [RestartRun.after, hstate, hk]
      | false =>
        rw [hk] at hclosed hx
        exact absurd hclosed (h.halfOpened ((Bool.or_false _).symm.trans hx))

/-- The state of the circuit, and the waits that the next call may schedule. -/
structure CircuitHeld (A : RestartArithmetic) (x : RestartRun) : Prop where
  notClosed : x.halfOpened = true → x.controller.circuitState ≠ .closed
  scheduled : ∀ call s w, x.Reported call →
    call.perform A x.toRestartCoordinator = (.ok (.wait w), s) →
    s.record.circuitState = s.summary.finalCircuitState ∧
      w.circuitState = s.summary.finalCircuitState ∧
      (x.halfOpened = true → w.kind = .circuitCooldown ∧ w.circuitState = .opened)

/-- **The circuit over a run.** -/
theorem circuit_calls (h : RestartCoordinator.new A settings = .ok c)
    (hcalls : Calls.AllAllowed (next A) (start c) Reported calls) :
    (calls.foldl (next A) (start c)).CircuitHeld A := by
  obtain ⟨-, hnone, -⟩ := start_eq h
  have hstart : (start c).CircuitKept := ⟨fun w hw => absurd (hnone.symm.trans hw) nofun, nofun⟩
  have hkept :=
    Calls.invariant (fun _ => CircuitKept) hstart (fun _ _ _ hx hcall => hx.next hcall) hcalls
  refine ⟨hkept.halfOpened, fun call s w hcall hp => ?_⟩
  cases RestartCall.perform_cases hp with
  | idle hnw => exact absurd rfl (hnw w)
  | chose hnone hchosen _ hok =>
    obtain ⟨heq, -, hfinal, hrecord⟩ := hok _ rfl
    cases heq
    obtain ⟨-, hw, hhalf⟩ := hkept.chosen (hcall hnone) hchosen
    rw [hfinal, hrecord]
    exact ⟨hw, hw, hhalf⟩

/-- The half-open attempt fails, and the circuit is open again. -/
theorem circuit_calls_halfOpening :
    let x := (halfOpening ++ [limit (ofSecs 31)]).foldl (next formulas) (start coordinator)
    x.halfOpened = true ∧ x.controller.circuitState = .opened ∧ x.CircuitHeld formulas := by
  refine ⟨by decide +kernel, by decide +kernel, circuit_calls new_coordinator ?_⟩
  have hreported : ∀ y : RestartRun, y.controller.circuitState ≠ .opened →
      ∀ now, y.Reported (limit now) :=
    fun _ hstate _ _ => hstate
  exact .cons (hreported _ (by decide +kernel) _)
    (.cons trivial (.cons (hreported _ (by decide +kernel) _)
    (.cons trivial (.cons (hreported _ (by decide +kernel) _) .nil))))

/-- A failed half-open attempt opens the circuit again, its cooldown is interrupted, and the next
event gets a plain wait that is recorded as closed. -/
theorem closed_after_halfOpen :
    RestartCoordinator.new formulas RestartSample.settings = .ok coordinator ∧
      let x := (halfOpening ++ [limit (ofSecs 31), waited .interrupted 0]).foldl (next formulas)
        (start coordinator)
      x.halfOpened = true ∧
        ((limit (ofSecs 33)).perform formulas x.toRestartCoordinator).1 =
          .ok (.wait ⟨.halfLifeLogisticBackoff, ofSecs 1, 3, some 3, .closed⟩) ∧
        ((limit (ofSecs 33)).perform formulas x.toRestartCoordinator).2.summary.finalCircuitState =
          .opened :=
  ⟨new_coordinator, by decide +kernel⟩

end RestartRun
end MemCordon
