import MemCordon.Platform.RestartLaw

/-!
# A supervision deadline that stops a restart wait

After a restart wait the loop reads its clock three times: once to classify how the wait ended, once
to measure the wait, and once more for the budget that the controller sees. The loop keeps evidence
of an outside deadline only when the first reading is late. When only the last one is, the
controller stops the run for the supervision deadline while the loop reports the outcome of the last
attempt.

`terminalDeadline_iff` says exactly which of the two happens: the run ends at an outside deadline if
and only if the budget was used up at the reading that classified the wait.
-/

namespace MemCordon

/-- The restart decision recorded with the latest attempt of an execution. -/
def SupervisionExecution.lastDecision (e : SupervisionExecution) : Option RestartDecisionKind :=
  e.attempts.records.getLast?.map (·.restartDecision.decision)

/-- The execution ends at a supervision deadline outside any attempt, with its evidence and its exit
status. -/
def SupervisionExecution.EndsOutsideAttempt (e : SupervisionExecution) : Prop :=
  ∃ evidence, e.terminal = .deadlineOutsideAttempt evidence ∧ e.deadline = some evidence ∧
    e.wrapperExitCode = 123

namespace Supervisor

open Clock Counter

variable {r : Run} {s s' s₀ : LoopState} {t : Turn} {a : AttemptExecution} {turns : List Turn}

/-- The budget of the wait was used up at the reading that classified its end. -/
def WaitCut (r : Run) (origin : Option ℕ) (t : Turn) : Prop :=
  ∃ budget, waitBudget r origin t = some budget ∧ budget ≤ elapsed t.waitStartedAt t.classifiedAt

variable {origin : Option ℕ}

/-- A cut wait leaves evidence: its budget came from an origin and a deadline. -/
theorem outsideDeadlineEvidence_of_cut (h : WaitCut r origin t) {now : ℕ}
    {phase : SupervisionPhase} {evidence : Option SupervisionDeadlineEvidence}
    (he : outsideDeadlineEvidence r origin now phase = .ok evidence) : evidence.isSome = true := by
  obtain ⟨budget, hb, -⟩ := h
  obtain ⟨o, d, rfl, hd, -⟩ := supervisionRemaining_eq_some.1 hb
  obtain ⟨ev, hev, -⟩ := outsideDeadlineEvidence_eq_ok hd
  rw [hev] at he
  cases he
  rfl

/-- The evidence a stopped wait leaves: there is some exactly when the wait was cut. -/
theorem WaitDecided.outside_isSome {c : RestartCoordinator}
    {record : RestartDecisionRecord} {kind : RestartWaitKind} {d : Decided}
    (w : WaitDecided r origin t c record kind d) (hinterrupted : w.interrupted = none) :
    d.outsideDeadline.isSome = true ↔ WaitCut r origin t := by
  have houtside := w.outside
  have hclass : classifyWait (waitBudget r origin t) w.interrupted t = .supervisionDeadline ↔
      w.interrupted = none ∧ WaitCut r origin t := by
    unfold classifyWait WaitCut
    cases w.interrupted with
    | some signal => simp
    | none => cases waitBudget r origin t <;> simp
  unfold waitEvidence at houtside
  split_ifs at houtside with hcut
  · have := (hclass.1 hcut).2
    exact ⟨fun _ => this, fun _ => outsideDeadlineEvidence_of_cut this houtside⟩
  · refine ⟨fun hsome => ?_, fun h => absurd (hclass.2 ⟨hinterrupted, h⟩) hcut⟩
    rw [← Except.ok.inj houtside] at hsome
    cases hsome

/-- A stop that blames the supervision deadline was decided at the end of a wait, and keeps evidence
exactly when the wait was cut. -/
theorem decideRestart_deadline {d : Decided} (h : decideRestart r s origin t a = .ok d)
    (hdecision : d.record.decision = .noneTerminalDeadline) :
    d.outsideDeadline.isSome = true ↔ WaitCut r origin t := by
  cases decideRestart_cases h with
  | untriggered _ _ _ record => rw [hdecision] at record; cases record
  | refused _ _ _ _ _ _ _ _ limit =>
    exact absurd hdecision (RestartCoordinator.onLimit_spec limit).2.2.1
  | waited c c' condition duration kind record had released triggered limit wait =>
    obtain ⟨w⟩ := waitForRestart_cases wait
    refine w.outside_isSome ?_
    by_contra hsignal
    -- an interrupted wait is recorded as such
    have hclass : classifyWait (waitBudget r origin t) w.interrupted t = .interrupted := by
      unfold classifyWait
      rw [if_pos (Option.isSome_iff_ne_none.2 hsignal)]
    have hcompleted := w.completed
    rw [hclass] at hcompleted
    generalize w.after = action at hcompleted
    cases RestartCoordinator.completeWait_cases hcompleted with
    | stopped _ hne => exact hne hdecision
    | deadline _ hwhy _ => rcases hwhy with hwhy | ⟨hwhy, -⟩ <;> cases hwhy
    | launched _ hwhy => cases hwhy

/-- The latest record of an execution that blames the supervision deadline is the record of the turn
it ended in. -/
theorem stopped_of_lastDecision {observed : ℕ} {e : SupervisionExecution}
    (hstart : start r observed = .again s₀) (hreach : Loop.Reaches (step r) s₀ turns s)
    (hdone : step r s t = .done (.execution e))
    (hlast : e.lastDecision = some .noneTerminalDeadline) :
    ∃ a d s', ∃ c : Recorded r s t a d s', t.result = .ok a ∧
      d.record.decision = .noneTerminalDeadline ∧
      e = .ofCandidate (stopCandidate t a d s' c.number (observedBackend r a)) := by
  obtain ⟨records, hlog⟩ := RunLog.of_reaches hstart hreach
  -- neither the log so far nor a failed attempt blames the deadline
  have hold : ∀ e : SupervisionExecution, e.attempts = s.history →
      e.lastDecision ≠ some .noneTerminalDeadline := by
    intro e he hlast
    unfold SupervisionExecution.lastDecision at hlast
    rw [he, hlog.history.latest] at hlast
    obtain ⟨record, hrecord, hdec⟩ := Option.map_eq_some_iff.1 hlast
    exact hlog.decision_ne (List.mem_of_getLast? hrecord) hdec
  have hnew : ∀ (e : SupervisionExecution) (aggregates : SupervisionAggregates)
      (record : AttemptRecord), HistoryOf e.attempts aggregates (records ++ [record]) →
      e.lastDecision = some record.restartDecision.decision := by
    intro e aggregates record hof
    unfold SupervisionExecution.lastDecision
    rw [hof.latest, List.getLast?_concat]
    rfl
  obtain ⟨x, -, hx⟩ | ⟨ending, hends, hconclude⟩ := step_done hdone
  · cases hx
  obtain ⟨c, hc, rfl⟩ := conclude_execution hconclude.symm
  cases hends with
  | expired evidence head built =>
    obtain ⟨ev, -, rfl⟩ := endOutsideAttempt_eq_candidate hc
    exact absurd hlast (hold _ rfl)
  | failed err ending dispatched result failure =>
    obtain ⟨evidence, -, rfl⟩ | ⟨number, targets, history, aggregates, hn, happ, rfl⟩ :=
      failedAttempt_cases failure
    · obtain ⟨ev, -, rfl⟩ := endOutsideAttempt_eq_candidate hc
      exact absurd hlast (hold _ rfl)
    · cases hc
      rw [hnew _ _ _ (hlog.appended hn rfl (.inr rfl) happ)] at hlast
      cases hlast
  | drifted a selected ending dispatched result drifts finished =>
    obtain ⟨number, targets, history, aggregates, hn, -, happ, rfl⟩ :=
      finishBackendSelectionDrift_cases finished
    cases hc
    rw [hnew _ _ _ (hlog.appended hn rfl (.inr rfl) happ)] at hlast
    cases hlast
  | stopped a d s' dispatched result noDrift recorded stops =>
    cases hc
    rw [hnew _ _ _ (hlog.recorded recorded)] at hlast
    exact ⟨a, d, s', recorded, result, Option.some.inj hlast, rfl⟩

/-- **Where a stopped wait is reported.** In every run, an execution whose latest attempt was
stopped by the supervision deadline after a restart wait ends outside any attempt if and only if the
wait's budget was used up when the loop classified the wait. Otherwise it repeats the outcome of
that attempt. -/
theorem terminalDeadline_iff {observed : ℕ} {e : SupervisionExecution}
    (hstart : start r observed = .again s₀) (hreach : Loop.Reaches (step r) s₀ turns s)
    (hdone : step r s t = .done (.execution e))
    (hlast : e.lastDecision = some .noneTerminalDeadline) :
    ∃ a, t.result = .ok a ∧ (e.EndsOutsideAttempt ↔ WaitCut r (originAfter s t a) t) ∧
        (¬e.EndsOutsideAttempt →
        ∃ number, e.terminal = .attemptOutcome number a.execution.outcome ∧ e.deadline = none) := by
  obtain ⟨a, d, s', c, hres, hdecision, rfl⟩ := stopped_of_lastDecision hstart hreach hdone hlast
  have hcut := decideRestart_deadline c.decided hdecision
  refine ⟨a, hres, ?_⟩
  cases hd : d.outsideDeadline with
  | none =>
    have hends : ¬(SupervisionExecution.ofCandidate
        (stopCandidate t a d s' c.number (observedBackend r a))).EndsOutsideAttempt := by
      rintro ⟨evidence, -, hdeadline, -⟩
      exact absurd (hd.symm.trans hdeadline) (by simp)
    refine ⟨⟨fun h => absurd h hends, fun h => ?_⟩, fun _ => ⟨c.number, ?_, hd⟩⟩
    · rw [← hcut, hd] at h
      cases h
    · change stopTerminal c.number a.execution.outcome d.outsideDeadline = _
      rw [hd]
      rfl
  | some evidence =>
    have hterminal : stopTerminal c.number a.execution.outcome d.outsideDeadline =
        .deadlineOutsideAttempt evidence := by rw [hd]; rfl
    have hends : (SupervisionExecution.ofCandidate
        (stopCandidate t a d s' c.number (observedBackend r a))).EndsOutsideAttempt :=
      ⟨evidence, hterminal, hd, by
        change (stopTerminal c.number a.execution.outcome d.outsideDeadline).exitCode = 123
        rw [hterminal]
        rfl⟩
    refine ⟨⟨fun _ => hcut.1 (by rw [hd]; rfl), fun _ => hends⟩, fun h => absurd hends h⟩

/-! ## A wait that completes just before the deadline -/

/-- A run that restarts on a memory limit after one second, under a supervision deadline of two
seconds. -/
def boundedRun : Run :=
  { sealedRun with
    policy :=
      { memory := some 4096
        deadline := some ⟨ofSecs 2, .supervision, by decide, by decide⟩ } }

/-- A standard attempt of one second that ended at its memory limit; it was authorized after five
milliseconds. -/
def standardExecution : Execution :=
  { sealedExecution false with
    launch :=
      { mechanism := "installed-cli-launcher-release-gate"
        targetReleased := true
        containmentVerifiedBeforeAuthorization := true
        guardianStartedBeforeAuthorization := true }
    boundaryDetail := .standard "linux-cgroup-v2" }

/-- The turn of that attempt. The wait is classified at `classified`, and the budget that the
controller sees is read at `remaining`. -/
def boundedTurn (classified remaining : ℕ) : Turn :=
  { sealedTurn false 0 with
    result := .ok ⟨standardExecution, standardExecution.launch, standardExecution.restartSafety⟩
    classifiedAt := classified
    evidenceAt := classified
    actualAt := classified
    remainingAt := remaining
    finishedAt := remaining
    endedAt := remaining }

/-- The wait of one second is classified as completed, five milliseconds before the deadline. Six
milliseconds later the controller sees no budget and stops, and the run is reported as the memory
limit of its attempt. -/
theorem terminalDeadline_lost : ∃ s₀, start boundedRun 0 = .again s₀ ∧
      (boundedTurn (ofSecs 2) (ofMillis 2006)).Ordered ∧
      (boundedTurn (ofSecs 2) (ofMillis 2006)).Validated ∧
      ∃ e, step boundedRun s₀ (boundedTurn (ofSecs 2) (ofMillis 2006)) = .done (.execution e) ∧
        e.lastDecision = some .noneTerminalDeadline ∧
        e.terminal = .attemptOutcome 1 standardExecution.outcome ∧ e.deadline = none ∧
        e.wrapperExitCode = 124 := by
  refine ⟨_, rfl, ?_, ?_, step_execution ?_⟩
  · constructor <;> decide
  · rintro a ⟨⟩
    rfl
  · decide +kernel

/-- The same run ends outside any attempt when the wait is classified at the deadline. -/
theorem terminalDeadline_kept : ∃ s₀, start boundedRun 0 = .again s₀ ∧
      ∃ e, step boundedRun s₀ (boundedTurn (ofMillis 2005) (ofMillis 2006)) =
        .done (.execution e) ∧ e.EndsOutsideAttempt := by
  obtain ⟨s₀, hstart, horigin, e, hstep, hlast⟩ :
      ∃ s₀, start boundedRun 0 = .again s₀ ∧ s₀.supervisionOriginOffset = none ∧
        ∃ e, step boundedRun s₀ (boundedTurn (ofMillis 2005) (ofMillis 2006)) =
          .done (.execution e) ∧ e.lastDecision = some .noneTerminalDeadline :=
    ⟨_, rfl, rfl, step_execution (by decide +kernel)⟩
  obtain ⟨a, ha, hiff, -⟩ := terminalDeadline_iff hstart .start hstep hlast
  cases ha
  refine ⟨s₀, hstart, e, hstep, hiff.2 ⟨ofMillis 1005, ?_, by decide⟩⟩
  unfold originAfter
  rw [horigin]
  rfl

end Supervisor

end MemCordon
