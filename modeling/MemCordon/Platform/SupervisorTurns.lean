import MemCordon.Platform.Supervisor

/-!
# What a turn of the supervision loop can do

Inversion lemmas for the loop of `MemCordon.Platform.Supervisor`, one for each function of the turn.
Results about whole runs use these and never unfold the loop:

* `waitForRestart_cases` and `decideRestart_cases`: how a restart decision comes about;
* `step_again`: what a turn that goes round again did (`Continued`);
* `step_done`: which endings a turn can hand to the constructor of executions (`EndsBy`).
-/

namespace MemCordon.Supervisor

open Clock Counter Fallible

variable {r : Run} {s s' : LoopState} {t : Turn} {a : AttemptExecution} {origin : Option ℕ}

/-! ## Deadlines outside attempts -/

theorem supervisionRemaining_eq_some {policy : Policy} {now budget : ℕ} :
    supervisionRemaining policy origin now = some budget ↔
      ∃ o d, origin = some o ∧ policy.deadline = some d ∧ d.scope = .supervision ∧
        d.duration - (now - o) = budget := by
  unfold supervisionRemaining
  constructor
  · intro h
    obtain ⟨o, ho, h⟩ := Option.bind_eq_some_iff.1 h
    obtain ⟨d, hd, h⟩ := Option.bind_eq_some_iff.1 h
    split_ifs at h with hscope
    exact ⟨o, d, ho, hd, hscope, Option.some.inj h⟩
  · rintro ⟨o, d, rfl, hd, hscope, rfl⟩
    simp only [Option.bind_some, hd, hscope, if_true]

/-- Evidence of an outside deadline can always be built once the origin and the deadline are there:
it is never observed before it expires, and every platform names its origin. -/
theorem outsideDeadlineEvidence_eq_ok {o now : ℕ} {d : DeadlinePolicy} {phase : SupervisionPhase}
    (hd : r.policy.deadline = some d) :
    ∃ evidence, outsideDeadlineEvidence r (some o) now phase = .ok (some ⟨evidence, phase⟩) ∧
      evidence.scope = .supervision := by
  have horigin : deadlineOrigin r.platform ≠ "" := by
    cases r.platform <;> decide
  have hle : millis (o + d.duration) ≤ millis (max now (o + d.duration)) :=
    millis_mono (le_max_right _ _)
  have hsome : (DeadlineEvidence.new (millis d.duration) .supervision (deadlineOrigin r.platform)
      (millis (o + d.duration)) (millis (max now (o + d.duration))) (millis r.policy.limitGrace) 0
      none none).isSome := DeadlineEvidence.new_isSome horigin hle
  obtain ⟨evidence, hev⟩ := Option.isSome_iff_exists.1 hsome
  refine ⟨evidence, ?_, (DeadlineEvidence.new_eq_some hev).2.1⟩
  unfold outsideDeadlineEvidence
  simp only [hd, hev]

/-- What a run that ends outside any attempt hands over. -/
theorem endOutsideAttempt_eq_candidate {evidence : Option SupervisionDeadlineEvidence}
    {endedAt : ℕ} {c : Candidate} (h : endOutsideAttempt s evidence endedAt = .candidate c) :
    ∃ d, evidence = some d ∧ c =
      { backend := s.reportedBackend
        terminal := .deadlineOutsideAttempt d
        attempts := s.history
        aggregates := s.aggregates
        restart := s.summary
        deadline := some d
        durationMs := millis endedAt
        targetsAuthorized := s.targetsAuthorized } := by
  cases evidence with
  | none => cases h
  | some d => exact ⟨d, rfl, (Ending.candidate.inj h).symm⟩

/-! ## Waiting -/

/-- The wait of a turn ended with decision `d`: it was not a failed wait, the controller was told
how it ended, and `d` reports the controller's answer. -/
structure WaitDecided (r : Run) (origin : Option ℕ) (t : Turn) (c : RestartCoordinator)
    (record : RestartDecisionRecord) (kind : RestartWaitKind) (d : Decided) where
  interrupted : Option ℤ
  after : RestartAction
  coordinator : RestartCoordinator
  waited : t.waitResult = .ok interrupted
  completed : c.completeWait
      (waitResult r origin t (classifyWait (waitBudget r origin t) interrupted t)) record =
    .ok (after, coordinator, d.record)
  kept : d.coordinator = some coordinator
  notInitial : d.nextKind ≠ .initial
  outside :
    waitEvidence r origin t kind (classifyWait (waitBudget r origin t) interrupted t) =
      .ok d.outsideDeadline
  decided : (d.stop = false ∧ ∃ n halfOpen, after = .launch n halfOpen) ∨
    (d.stop = true ∧ ∃ k, after = .stop k)

theorem waitForRestart_cases {c : RestartCoordinator} {record : RestartDecisionRecord}
    {kind : RestartWaitKind} {d : Decided}
    (h : waitForRestart r origin t c record kind = .ok d) :
    Nonempty (WaitDecided r origin t c record kind d) := by
  obtain ⟨interrupted, hw, h⟩ := bind_eq_ok.1 h
  obtain ⟨outside, ho, h⟩ := bind_eq_ok.1 h
  obtain ⟨⟨after, c', record'⟩, hc, h⟩ := bind_eq_ok.1 h
  rw [mapError_eq_ok] at hw hc
  cases after with
  | wait duration kind' => simp at h
  | stop k =>
    simp only [pure, Except.pure, Except.ok.injEq] at h
    subst h
    exact ⟨⟨interrupted, _, c', hw, hc, rfl, by simp, ho, .inr ⟨rfl, k, rfl⟩⟩⟩
  | launch n halfOpen =>
    simp only [pure, Except.pure, Except.ok.injEq] at h
    subst h
    refine ⟨⟨interrupted, _, c', hw, hc, rfl, ?_, ho, .inl ⟨rfl, n, halfOpen, rfl⟩⟩⟩
    simp only
    split_ifs <;> simp

/-! ## Deciding -/

/-- How the decision after a completed attempt came about. -/
inductive DecidedBy (r : Run) (s : LoopState) (origin : Option ℕ) (t : Turn)
    (a : AttemptExecution) (d : Decided) : Prop
  /-- There is nothing to restart on. -/
  | untriggered (stopped : d.stop = true) (inside : d.outsideDeadline = none)
      (coordinator : d.coordinator = s.coordinator)
      (record : d.record.decision = .noneDisabled)
  /-- The controller stopped at the limit event. -/
  | refused (c c' : RestartCoordinator) (condition : RestartCondition) (action : RestartAction)
      (stopped : d.stop = true) (inside : d.outsideDeadline = none)
      (had : s.coordinator = some c) (kept : d.coordinator = some c')
      (limit : c.onLimit r.arithmetic condition t.observedAt a.restartSafety {} =
        .ok (action, c', d.record)) (noWait : ∀ duration kind, action ≠ .wait duration kind)
  /-- The controller asked for a wait, and the wait decided. -/
  | waited (c c' : RestartCoordinator) (condition : RestartCondition) (duration : ℕ)
      (kind : RestartWaitKind) (record : RestartDecisionRecord)
      (had : s.coordinator = some c) (released : a.execution.launch.targetReleased = true)
      (triggered : restartCondition a.execution.outcome = some condition)
      (limit : c.onLimit r.arithmetic condition t.observedAt a.restartSafety {} =
        .ok (.wait duration kind, c', record))
      (wait : waitForRestart r origin t c' record kind = .ok d)

theorem decideRestart_cases {d : Decided} (h : decideRestart r s origin t a = .ok d) :
    DecidedBy r s origin t a d := by
  unfold decideRestart at h
  cases hc : s.coordinator with
  | none =>
    simp only [hc, Except.ok.injEq] at h
    subst h
    exact .untriggered rfl rfl hc.symm rfl
  | some c =>
    cases htrigger : (if a.execution.launch.targetReleased then
        restartCondition a.execution.outcome else none) with
    | none =>
      simp only [hc, htrigger, Except.ok.injEq] at h
      subst h
      exact .untriggered rfl rfl hc.symm rfl
    | some condition =>
      simp only [hc, htrigger] at h
      obtain ⟨⟨action, c', record⟩, hlimit, h⟩ := bind_eq_ok.1 h
      rw [mapError_eq_ok] at hlimit
      have hreleased : a.execution.launch.targetReleased = true ∧
          restartCondition a.execution.outcome = some condition := by
        split_ifs at htrigger with hrel
        exact ⟨hrel, htrigger⟩
      cases action with
      | wait duration kind =>
        exact .waited c c' condition duration kind record hc hreleased.1 hreleased.2 hlimit h
      | stop k | launch n halfOpen =>
        simp only [pure, Except.pure, Except.ok.injEq] at h
        subst h
        exact .refused c c' condition _ rfl rfl hc rfl hlimit (by simp)

/-! ## Completing an attempt -/

/-- The attempt of a turn returned `a` under the selected backend and was recorded; `d` is what it
led to. -/
structure Recorded (r : Run) (s : LoopState) (t : Turn) (a : AttemptExecution) (d : Decided)
    (s' : LoopState) where
  number : ℕ
  numbered : nextNumber s = .ok number
  targets : authorizedAfter s a.execution.launch.targetReleased = .ok s'.targetsAuthorized
  decided : decideRestart r s (originAfter s t a) t a = .ok d
  appended : AttemptHistory.append s.history (completedRecord s t a number d.record) s.aggregates =
    .ok (s'.history, s'.aggregates)
  kind : s'.kind = d.nextKind
  coordinator : s'.coordinator = d.coordinator
  backend : s'.backend = some (observedBackend r a)
  origin : s'.supervisionOriginOffset = originAfter s t a

/-- The candidate of a run that stops after recording an attempt. -/
def stopCandidate (t : Turn) (a : AttemptExecution) (d : Decided) (s' : LoopState) (number : ℕ)
    (observed : BackendCapabilityReport) : Candidate where
  backend := observed
  terminal := stopTerminal number a.execution.outcome d.outsideDeadline
  attempts := s'.history
  aggregates := s'.aggregates
  restart := s'.summary
  deadline := d.outsideDeadline
  durationMs := millis t.endedAt
  targetsAuthorized := s'.targetsAuthorized

theorem completedAttempt_cases {x : LoopState ⊕ Ending}
    (h : completedAttempt r s t (observedBackend r a) a = .ok x) :
    ∃ d s', ∃ rec : Recorded r s t a d s', (d.stop = false ∧ x = .inl s') ∨ (d.stop = true ∧
          x = .inr (.candidate (stopCandidate t a d s' rec.number (observedBackend r a)))) := by
  obtain ⟨targets, ht, h⟩ := bind_eq_ok.1 h
  obtain ⟨number, hn, h⟩ := bind_eq_ok.1 h
  obtain ⟨d, hd, h⟩ := bind_eq_ok.1 h
  obtain ⟨⟨history, aggregates⟩, ha, h⟩ := bind_eq_ok.1 h
  rw [mapError_eq_ok] at ha
  refine ⟨d, ⟨history, aggregates, targets, d.nextKind, d.coordinator, _, _⟩,
    ⟨number, hn, ht, hd, ha, rfl, rfl, rfl, rfl⟩, ?_⟩
  cases hs : d.stop with
  | false =>
    simp only [hs, Bool.false_eq_true, if_false, pure, Except.pure, Except.ok.injEq] at h
    exact .inl ⟨rfl, h.symm⟩
  | true =>
    simp only [hs, if_true, pure, Except.pure, Except.ok.injEq] at h
    exact .inr ⟨rfl, h.symm⟩

/-! ## Failing an attempt -/

/-- An attempt that returned an error ends the supervision at an outside deadline, with nothing
recorded, or is recorded. -/
theorem failedAttempt_cases {e : Error} {ending : Ending} (h : failedAttempt r s t e = .ok ending) :
    (∃ evidence, outsideDeadlineEvidence r s.supervisionOriginOffset t.observedAt .attemptSetup =
        .ok evidence ∧ ending = endOutsideAttempt s evidence t.endedAt) ∨
      ∃ number targets history aggregates, nextNumber s = .ok number ∧
        AttemptHistory.append s.history (failedRecord r s t e number) s.aggregates =
          .ok (history, aggregates) ∧ ending = .candidate
          { backend := s.reportedBackend
            terminal := .error (some number) (errorRecord e (some number) .attemptSetup s.kind)
            attempts := history
            aggregates := aggregates
            restart := s.summary
            deadline := none
            durationMs := millis t.endedAt
            targetsAuthorized := targets } := by
  unfold failedAttempt at h
  split_ifs at h with hdeadline
  · obtain ⟨evidence, he, h⟩ := bind_eq_ok.1 h
    exact .inl ⟨evidence, he, (Except.ok.inj h).symm⟩
  · obtain ⟨number, -, h⟩ := bind_eq_ok.1 h
    cases h
  · obtain ⟨number, hn, h⟩ := bind_eq_ok.1 h
    obtain ⟨targets, -, h⟩ := bind_eq_ok.1 h
    obtain ⟨⟨history, aggregates⟩, ha, h⟩ := bind_eq_ok.1 h
    rw [mapError_eq_ok] at ha
    exact .inr ⟨number, targets, history, aggregates, hn, ha, (Except.ok.inj h).symm⟩

/-- A drift is recorded and ends the supervision under the selected backend. -/
theorem finishBackendSelectionDrift_cases {selected observed : BackendCapabilityReport}
    {ending : Ending} (h : finishBackendSelectionDrift r s t selected observed a = .ok ending) :
    ∃ number targets history aggregates, nextNumber s = .ok number ∧
      authorizedAfter s a.execution.launch.targetReleased = .ok targets ∧
      AttemptHistory.append s.history (driftRecord s t selected observed r.policy.metric a number)
        s.aggregates = .ok (history, aggregates) ∧
      ending = .candidate
        { backend := selected
          terminal := .error (some number) (driftError selected observed r.policy.metric a number)
          attempts := history
          aggregates := aggregates
          restart := s.summary
          deadline := none
          durationMs := millis t.observedAt
          targetsAuthorized := targets } := by
  obtain ⟨targets, ht, h⟩ := bind_eq_ok.1 h
  obtain ⟨number, hn, h⟩ := bind_eq_ok.1 h
  obtain ⟨⟨history, aggregates⟩, ha, h⟩ := bind_eq_ok.1 h
  rw [mapError_eq_ok] at ha
  exact ⟨number, targets, history, aggregates, hn, ht, ha, (Except.ok.inj h).symm⟩

/-! ## The whole turn -/

/-- A turn that went round again: it called the backend, which returned `a` under the selected
backend, and the attempt was recorded with a decision to launch. -/
structure Continued (r : Run) (s : LoopState) (t : Turn) (a : AttemptExecution) (d : Decided)
    (s' : LoopState) where
  dispatched : dispatches r s t = true
  result : t.result = .ok a
  noDrift : drift r s (observedBackend r a) = none
  recorded : Recorded r s t a d s'
  goes : d.stop = false

/-- Which endings a turn can hand to the constructor of executions. -/
inductive EndsBy (r : Run) (s : LoopState) (t : Turn) : Ending → Prop
  /-- The supervision deadline had passed before the attempt. -/
  | expired (evidence : Option SupervisionDeadlineEvidence) (head : expiredAtHead r s t = true)
      (built : outsideDeadlineEvidence r s.supervisionOriginOffset t.attemptStarted .backoff =
        .ok evidence) :
      EndsBy r s t (endOutsideAttempt s evidence t.endedAt)
  /-- The attempt returned an error. -/
  | failed (e : Error) (ending : Ending) (dispatched : dispatches r s t = true)
      (result : t.result = .error e) (failure : failedAttempt r s t e = .ok ending) :
      EndsBy r s t ending
  /-- The attempt ran under another backend than the selected one. -/
  | drifted (a : AttemptExecution) (selected : BackendCapabilityReport) (ending : Ending)
      (dispatched : dispatches r s t = true) (result : t.result = .ok a)
      (drifts : drift r s (observedBackend r a) = some selected)
      (finished : finishBackendSelectionDrift r s t selected (observedBackend r a) a = .ok ending) :
      EndsBy r s t ending
  /-- The attempt was recorded, and nothing is to follow it. -/
  | stopped (a : AttemptExecution) (d : Decided) (s' : LoopState)
      (dispatched : dispatches r s t = true) (result : t.result = .ok a)
      (noDrift : drift r s (observedBackend r a) = none) (recorded : Recorded r s t a d s')
      (stops : d.stop = true) :
      EndsBy r s t (.candidate (stopCandidate t a d s' recorded.number (observedBackend r a)))

theorem turnResult_cases {x : LoopState ⊕ Ending} (h : turnResult r s t = .ok x) :
    (∃ a d s', ∃ _ : Continued r s t a d s', x = .inl s') ∨ ∃ ending, EndsBy r s t ending ∧
      x = .inr ending := by
  unfold turnResult at h
  cases hhead : expiredAtHead r s t with
  | true =>
    simp only [hhead, if_true] at h
    obtain ⟨evidence, he, h⟩ := bind_eq_ok.1 h
    exact .inr ⟨_, .expired evidence hhead he, (Except.ok.inj h).symm⟩
  | false =>
    have hdisp : dispatches r s t = true := by rw [dispatches, hhead]; rfl
    simp only [hhead, Bool.false_eq_true, if_false] at h
    cases hres : t.result with
    | error e =>
      simp only [hres] at h
      obtain ⟨ending, he, h⟩ := bind_eq_ok.1 h
      exact .inr ⟨ending, .failed e ending hdisp hres he, (Except.ok.inj h).symm⟩
    | ok a =>
      simp only [hres] at h
      cases hd : drift r s (observedBackend r a) with
      | some selected =>
        simp only [hd] at h
        obtain ⟨ending, he, h⟩ := bind_eq_ok.1 h
        exact .inr ⟨ending, .drifted a selected ending hdisp hres hd he, (Except.ok.inj h).symm⟩
      | none =>
        simp only [hd] at h
        obtain ⟨d, s', rec, ⟨hgo, hx⟩ | ⟨hstop, hx⟩⟩ := completedAttempt_cases h
        · exact .inl ⟨a, d, s', ⟨hdisp, hres, hd, rec, hgo⟩, hx⟩
        · exact .inr ⟨_, .stopped a d s' hdisp hres hd rec hstop, hx⟩

/-- **Going round again.** -/
theorem step_again (h : step r s t = .again s') : ∃ a d, Nonempty (Continued r s t a d s') := by
  unfold step at h
  cases hres : turnResult r s t with
  | error e => simp [hres] at h
  | ok x =>
    obtain ⟨a, d, s₁, hc, rfl⟩ | ⟨ending, -, rfl⟩ := turnResult_cases hres
    · simp only [hres, Flow.again.injEq] at h
      subst h
      exact ⟨a, d, ⟨hc⟩⟩
    · simp [hres] at h

/-- **Leaving.** A turn that leaves does so with an error of its own, or with what the constructor
makes of one of the endings. -/
theorem step_done {o : Outcome} (h : step r s t = .done o) :
    (∃ e, turnResult r s t = .error e ∧ o = .error e) ∨
      ∃ ending, EndsBy r s t ending ∧ o = conclude ending := by
  unfold step at h
  cases hres : turnResult r s t with
  | error e =>
    simp only [hres, Flow.done.injEq] at h
    exact .inl ⟨e, rfl, h.symm⟩
  | ok x =>
    obtain ⟨a, d, s₁, hc, rfl⟩ | ⟨ending, he, rfl⟩ := turnResult_cases hres
    · simp [hres] at h
    · simp only [hres, Flow.done.injEq] at h
      exact .inr ⟨ending, he, h.symm⟩

/-- An execution that is returned copies the candidate it was built from. -/
theorem conclude_execution {ending : Ending} {e : SupervisionExecution}
    (h : conclude ending = .execution e) :
    ∃ c, ending = .candidate c ∧ e = SupervisionExecution.ofCandidate c := by
  cases ending with
  | panicked message => simp [conclude] at h
  | candidate c =>
    unfold conclude at h
    cases hnew : SupervisionExecution.new c with
    | error x => simp [hnew] at h
    | ok e' =>
      simp only [hnew, Outcome.execution.injEq] at h
      exact ⟨c, rfl, h ▸ SupervisionExecution.new_spec hnew⟩

/-- The execution a turn returns, if it returns one. -/
def returned : Flow LoopState Outcome → Option SupervisionExecution
  | .done (.execution e) => some e
  | _ => none

/-- A turn returns an execution with a property, when evaluating it says so. -/
theorem step_execution {p : SupervisionExecution → Prop} [DecidablePred p]
    (h : (returned (step r s t)).any (fun e => decide (p e)) = true) :
    ∃ e, step r s t = .done (.execution e) ∧ p e := by
  obtain ⟨e, he, hp⟩ := (Option.any_eq_true _ _).1 h
  refine ⟨e, ?_, of_decide_eq_true hp⟩
  unfold returned at he
  split at he
  · next heq => rw [heq, Option.some.inj he]
  · cases he

/-- The controller part of a turn that went round again: the limit event asked for a wait, and the
end of the wait launched. -/
structure Relaunched (r : Run) (s : LoopState) (t : Turn) (a : AttemptExecution) (d : Decided)
    (s' : LoopState) where
  (before limited after : RestartCoordinator)
  condition : RestartCondition
  duration : ℕ
  kind : RestartWaitKind
  record : RestartDecisionRecord
  had : s.coordinator = some before
  kept : s'.coordinator = some after
  released : a.execution.launch.targetReleased = true
  triggered : restartCondition a.execution.outcome = some condition
  limit : before.onLimit r.arithmetic condition t.observedAt a.restartSafety {} =
    .ok (.wait duration kind, limited, record)
  lasted : duration ≤ elapsed t.waitStartedAt t.actualAt
  remaining : limited.controller.hasRemainingLaunch = true
  settings : after.controller.settings = before.controller.settings
  launched : after.controller.restartsLaunched = before.controller.restartsLaunched + 1
  counted : after.summary.restartsLaunched = before.controller.restartsLaunched + 1
  decision : d.record.decision ≠ .noneTerminalDeadline

theorem Continued.relaunched {d : Decided} (h : Continued r s t a d s') :
    Nonempty (Relaunched r s t a d s') := by
  cases decideRestart_cases h.recorded.decided with
  | untriggered stopped | refused _ _ _ _ stopped => simp [h.goes] at stopped
  | waited c c' condition duration kind record had released triggered limit wait =>
    obtain ⟨w⟩ := waitForRestart_cases wait
    obtain ⟨keeps, -, hdecision, scheduled⟩ := RestartCoordinator.onLimit_spec limit
    obtain ⟨-, -, pending, hpending, hduration, -⟩ := scheduled duration kind rfl
    obtain ⟨-, n, halfOpen, hlaunch⟩ | ⟨hstop, -⟩ := w.decided
    · have hended := RestartCoordinator.completeWait_cases w.completed
      rw [hlaunch] at hended
      cases hended with
      | launched hw _ hlong hleft hsettings hlaunched hcounted hrecord =>
        obtain rfl : pending = _ := Option.some.inj (hpending.symm.trans hw)
        refine ⟨{
          before := c, limited := c', after := w.coordinator, condition, duration, kind, record
          had, released, triggered, limit
          kept := h.recorded.coordinator.trans w.kept
          lasted := by rw [← hduration]; exact hlong
          remaining := hleft
          settings := hsettings.trans keeps.settings
          launched := by rw [hlaunched, keeps.launched]
          counted := by rw [hcounted, keeps.launched]
          decision := by
            rcases hrecord with hsame | hhalf
            · rw [hsame]
              exact hdecision
            · simp [hhalf] }⟩
    · simp [h.goes] at hstop

end MemCordon.Supervisor
