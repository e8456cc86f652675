import MemCordon.Platform.WaitDeadline

/-!
# Which runs the constructor of executions accepts

Every run of the supervision loop ends in `SupervisionExecution.new`, which checks the accumulated
history, counters and restart summary once more. The counters always agree (`RunLog`), so acceptance
comes down to the attempts themselves: a result that passed `validate_backend_execution` can still
be one the constructor refuses, because it looks at runtime evidence, policy evidence, sealed proofs
and drift evidence that the validator does not look at.

`accepted_iff` says which: in every run whose earlier attempts are `Presentable`, the candidate of
the final turn is accepted if and only if that turn is. In particular no run of presentable attempts
is lost, however long it is and whatever was evicted from its history.
-/

namespace MemCordon.Supervisor

open Clock Counter
open Fallible (bind_eq_error mapError_eq_error)

variable {r : Run} {s s' s₀ : LoopState} {t : Turn} {a : AttemptExecution} {turns : List Turn}

/-! ## Attempts that can be reported -/

/-- What a record of the attempt needs of its runtime evidence; `failing` says that the record has
no outcome, or one with a failing status. -/
def runtimeReportable (a : AttemptExecution) (failing : Bool)
    (runtime : RuntimeEvidenceV1) : Bool :=
  (runtime.retirement.isComplete || failing) &&
    match runtime.release with
    | .issued _ execConfirmed =>
      a.launch.containmentVerifiedBeforeAuthorization &&
        a.launch.guardianStartedBeforeAuthorization && (execConfirmed || failing)
    | .notIssued => failing
    | .unknown => !a.restartSafety.isSafe

/-- What the constructor asks of a validated attempt, under a backend of the given class. -/
structure Reportable (backend : BoundaryClass) (failing : Bool) (a : AttemptExecution) : Prop where
  enforcement : a.execution.policyEnforcement.isConsistent = true
  runtime : a.execution.runtime.all (runtimeReportable a failing) = true
  /-- A sealed boundary was obtained from a sealed backend only. -/
  effective : a.launch.boundaryEffective = .sealed → backend = .sealed
  /-- A released sealed attempt ran behind a sealed backend and a complete boundary. -/
  released : a.launch.targetReleased = true → a.launch.boundaryRequested = .sealed →
    backend = .sealed ∧ a.launch.boundaryEffective = .sealed ∧
      a.launch.boundaryAssignmentVerified = true ∧ a.launch.boundaryReconfigurationDenied = true ∧
      a.launch.inheritedResourcesRestricted = true ∧
      a.launch.frontendLossCleanupAuthorityVerified = true
  /-- A safe proof of a sealed attempt says that its boundary was retired. -/
  retired : a.launch.boundaryRequested = .sealed → a.restartSafety.isSafe = true →
    a.restartSafety.sealedBoundaryRetired = true

/-- The outcome has a failing status. -/
def failing (a : AttemptExecution) : Bool := a.execution.outcome.outcomeStatus != 0

/-- The attempt of a turn that ran under the selected backend can be reported, and so can that
backend. -/
structure Presentable (r : Run) (a : AttemptExecution) : Prop where
  boundary : (observedBackend r a).boundary.isConsistent = true
  reportable : Reportable (observedBackend r a).boundary.class_ (failing a) a

/-- What the final turn has to be: a deadline at the loop head needs a consistent backend; a drift
needs evidence that is not only due to the adjusted metric, and an attempt that can be reported
under the selected backend; any other attempt has to be presentable. -/
def EndPresentable (r : Run) (s : LoopState) (t : Turn) : Prop :=
  if expiredAtHead r s t then s.reportedBackend.boundary.isConsistent = true
  else ∀ a, t.result = .ok a →
    match drift r s (observedBackend r a) with
    | some selected =>
      selected ≠ observedBackend r a ∧ selected.boundary.isConsistent = true ∧
        Reportable selected.boundary.class_ true a
    | none => Presentable r a

/-- The attempt of the turn returned a validated result with ordered offsets: start, authorization,
end of the attempt, and the readings after it. -/
structure Turn.Sound (t : Turn) : Prop where
  ordered : t.Ordered
  returned : ∀ e, t.result ≠ .error e
  validated : t.Validated
  authorized : ∀ a, t.result = .ok a → ∀ offset, a.execution.authorizationOffset = some offset →
    offset ≤ a.execution.duration
  terminal : ∀ a, t.result = .ok a → t.attemptStarted + a.execution.duration ≤ t.observedAt

/-! ## Records of attempts -/

structure Describes (t : Turn) (a : AttemptExecution) (record : AttemptRecord) : Prop where
  operational : record.operationalFailure = none
  runtime : record.runtime = a.execution.runtime
  enforcement : record.policyEnforcement = a.execution.policyEnforcement
  pid : record.targetPid = a.execution.childPid.map PNat.val
  started : record.startedOffsetMs = some (millis t.attemptStarted)
  authorized : record.authorizedOffsetMs = authorizedOffsetMs t a
  terminal : record.terminalOffsetMs = some (millis (t.attemptStarted + a.execution.duration))
  finished : millis t.observedAt ≤ record.finishedOffsetMs
  launch : record.launch = a.launch
  safety : record.restartSafety = a.restartSafety
  detail : record.boundaryDetail = a.execution.boundaryDetail
  shape : record.shapeAgrees = true

namespace Describes

variable {record : AttemptRecord}

/-- Validated evidence leaves `runtimeReportable` to be checked. -/
theorem runtimeAgrees (h : Describes t a record) (hc : a.Checked) {runtime : RuntimeEvidenceV1}
    (hr : a.execution.runtime = some runtime) :
    record.runtimeAgrees runtime = runtimeReportable a record.failingStatus runtime := by
  have hauth := hc.authorization
  simp only [Execution.authorizationAgrees, hr, Option.all_some, Bool.and_eq_true, beq_iff_eq]
    at hauth
  obtain ⟨⟨hoffset, -⟩, ⟨hconsistent, hpid⟩, hissued⟩ := hauth
  have hsome : record.authorizedOffsetMs.isSome = a.launch.targetReleased := by
    rw [h.authorized, hc.launch, hoffset]
    unfold authorizedOffsetMs
    rw [Option.isSome_map]
  have hnone : record.authorizedOffsetMs.isNone = !a.launch.targetReleased := by
    rw [← hsome]
    cases record.authorizedOffsetMs <;> rfl
  have hmap : (runtime.targetPid.map PNat.val == record.targetPid) = true := by
    rw [h.pid, hpid]
    exact beq_self_eq_true _
  rw [← hc.launch] at hissued
  unfold AttemptRecord.runtimeAgrees runtimeReportable
  rw [hconsistent, hmap, h.launch, h.safety, hsome, hnone]
  cases hrel : runtime.release with
  | issued at_ exec | notIssued | unknown =>
    rw [hrel] at hissued
    rw [← hissued]
    simp [ReleaseEvidence.isIssued]

variable (h : Describes t a record) (hs : t.Sound) (hres : t.result = .ok a)
include h hs hres

/-- Ordered readings give ordered offsets. -/
theorem offsetsAgree :
    record.offsetsAgree = true := by
  have hterm : millis (t.attemptStarted + a.execution.duration) ≤ record.finishedOffsetMs :=
    (millis_mono (hs.terminal a hres)).trans h.finished
  have hstart : millis t.attemptStarted ≤ millis (t.attemptStarted + a.execution.duration) :=
    millis_mono (Nat.le_add_right _ _)
  unfold AttemptRecord.offsetsAgree
  rw [h.started, h.authorized, h.terminal]
  unfold authorizedOffsetMs
  cases hoff : a.execution.authorizationOffset with
  | none => simp [hterm, hstart, hstart.trans hterm]
  | some offset =>
    have hauth : millis t.attemptStarted ≤ millis (t.attemptStarted + offset) :=
      millis_mono (Nat.le_add_right _ _)
    have hend :
        millis (t.attemptStarted + offset) ≤ millis (t.attemptStarted + a.execution.duration) :=
      millis_mono (Nat.add_le_add_left (hs.authorized a hres offset hoff) _)
    simp [hterm, hstart, hstart.trans hterm, hauth, hend, hend.trans hterm]

/-- What is left of the consistency of a record once its attempt was validated. -/
theorem isConsistent_iff :
    record.isConsistent = true ↔ a.execution.policyEnforcement.isConsistent = true ∧
      a.execution.runtime.all (runtimeReportable a record.failingStatus) = true := by
  have hc := (hs.validated a hres).checked
  have hpid : record.targetPid.all (fun pid => decide (0 < pid)) = true := by
    rw [h.pid]
    cases a.execution.childPid with
    | none => rfl
    | some pid => simp [pid.pos]
  have hevidence : boundaryEvidenceIsConsistent record.launch record.restartSafety
      record.boundaryDetail = true := by
    rw [h.launch, h.safety, h.detail, hc.launch, hc.restartSafety]
    exact hc.evidence
  have hruntime : record.runtime.all record.runtimeAgrees =
      a.execution.runtime.all (runtimeReportable a record.failingStatus) := by
    rw [h.runtime]
    cases hr : a.execution.runtime with
    | none => rfl
    | some runtime => simp only [Option.all_some, h.runtimeAgrees hc hr]
  unfold AttemptRecord.isConsistent
  rw [h.operational, h.enforcement, hpid, hruntime, h.shape, h.offsetsAgree hs hres, hevidence]
  simp

/-- **Keeping a record.** The constructor keeps the record of a validated attempt exactly when the
attempt can be reported. -/
theorem kept_iff
    {backend : BoundaryClass} :
    record.Kept backend ↔ Reportable backend record.failingStatus a := by
  rw [AttemptRecord.kept_iff, h.isConsistent_iff hs hres, h.launch, h.safety]
  exact ⟨fun ⟨⟨henf, hrun⟩, hk⟩ => ⟨henf, hrun, hk.effective, hk.released, hk.retired⟩,
    fun hr => ⟨⟨hr.enforcement, hr.runtime⟩, hr.effective, hr.released, hr.retired⟩⟩

/-- A release that was confirmed is not unknown. -/
theorem known
    (hauth : record.isAuthorized = true) : record.authorizationUnknown = false := by
  have hc := (hs.validated a hres).checked
  have hagrees := hc.authorization
  unfold AttemptRecord.isAuthorized at hauth
  rw [h.launch, hc.launch] at hauth
  unfold AttemptRecord.authorizationUnknown
  rw [h.runtime]
  cases hr : a.execution.runtime with
  | none => rfl
  | some runtime =>
    simp only [Execution.authorizationAgrees, hr, Option.all_some, Bool.and_eq_true, beq_iff_eq,
      hauth] at hagrees
    obtain ⟨-, -, hissued⟩ := hagrees
    cases hrel : runtime.release with
    | unknown | notIssued => rw [hrel] at hissued; cases hissued
    | issued at_ exec => simp [hrel]

end Describes

theorem Turn.Ordered.observed_le_finished (h : t.Ordered) : t.observedAt ≤ t.finishedAt := by
  cases h
  omega

variable {number : ℕ}

theorem completedRecord_describes (hs : t.Sound) (hn : 0 < number)
    (decision : RestartDecisionRecord) :
    Describes t a (completedRecord s t a number decision) := by
  refine ⟨rfl, rfl, rfl, rfl, rfl, rfl, rfl, millis_mono hs.ordered.observed_le_finished, rfl,
    rfl, rfl, ?_⟩
  simp [AttemptRecord.shapeAgrees, completedRecord, hn]

theorem driftRecord_describes (hn : 0 < number) (selected observed : BackendCapabilityReport)
    (metric : Metric) :
    Describes t a (driftRecord s t selected observed metric a number) := by
  refine ⟨rfl, rfl, rfl, rfl, rfl, rfl, rfl, le_rfl, rfl, rfl, rfl, ?_⟩
  simp [AttemptRecord.shapeAgrees, driftRecord, driftError, hn]

/-! ## The log of a run of presentable attempts -/

def Turn.Presentable (r : Run) (t : Turn) : Prop :=
  ∀ a, t.result = .ok a → Supervisor.Presentable r a

variable {records : List AttemptRecord} {record : AttemptRecord}

/-- The restarts a run reports are at most the turns it took. -/
theorem LaunchCount.summary_le (h : LaunchCount r turns s) :
    s.summary.restartsLaunched ≤ turns.length := by
  unfold LoopState.summary
  cases hc : s.coordinator with
  | none => exact Nat.zero_le _
  | some c => exact (h.counted c hc).le

variable {c : Candidate} {origin : Option ℕ} {d : Decided}

/-- At a stop the restart summary reports as many launches as before the turn. -/
theorem decideRestart_summary (hcount : LaunchCount r turns s)
    (h : decideRestart r s origin t a = .ok d) (hstop : d.stop = true) :
    (d.coordinator.elim {} RestartCoordinator.summary).restartsLaunched ≤ turns.length := by
  cases decideRestart_cases h with
  | untriggered _ _ coordinator =>
    rw [coordinator]
    exact hcount.summary_le
  | refused c c' condition action _ _ had kept limit =>
    obtain ⟨keeps, -⟩ := RestartCoordinator.onLimit_spec limit
    rw [kept]
    exact (keeps.counted.trans (hcount.counted c had)).le
  | waited c c' condition duration kind record had _ _ limit wait =>
    obtain ⟨keeps, -⟩ := RestartCoordinator.onLimit_spec limit
    obtain ⟨w⟩ := waitForRestart_cases wait
    have hbefore : c'.summary.restartsLaunched = turns.length :=
      keeps.counted.trans (hcount.counted c had)
    obtain ⟨hgo, -⟩ | ⟨-, k, hafter⟩ := w.decided
    · rw [hgo] at hstop
      cases hstop
    · have hended := RestartCoordinator.completeWait_cases w.completed
      rw [hafter] at hended
      rw [w.kept]
      cases hended with
      | stopped hkeeps | deadline hkeeps => exact (hkeeps.counted.trans hbefore).le

variable {evidence : SupervisionDeadlineEvidence} {now : ℕ} {phase : SupervisionPhase}

/-- The evidence is built without an error, and what there is of it has the scope of the
supervision. -/
theorem outsideDeadlineEvidence_scope (r : Run) (origin : Option ℕ) (now : ℕ)
    (phase : SupervisionPhase) :
    ∃ evidence, outsideDeadlineEvidence r origin now phase = .ok evidence ∧
      ∀ ev, evidence = some ev → ev.evidence.scope = .supervision := by
  cases origin with
  | none => simp [outsideDeadlineEvidence]
  | some o =>
    cases hd : r.policy.deadline with
    | none => simp [outsideDeadlineEvidence, hd]
    | some d =>
      obtain ⟨ev, hev, hscope⟩ := outsideDeadlineEvidence_eq_ok hd
      exact ⟨_, hev, by simp [hscope]⟩

theorem decideRestart_scope (h : decideRestart r s origin t a = .ok d)
    (hd : d.outsideDeadline = some evidence) : evidence.evidence.scope = .supervision := by
  cases decideRestart_cases h with
  | untriggered _ inside | refused _ _ _ _ _ inside => rw [hd] at inside; cases inside
  | waited c c' condition duration kind record had _ _ limit wait =>
    obtain ⟨w⟩ := waitForRestart_cases wait
    have houtside := w.outside
    unfold waitEvidence at houtside
    rw [hd] at houtside
    split_ifs at houtside
    · obtain ⟨evidence, hevidence, hscope⟩ := outsideDeadlineEvidence_scope r origin _ _
      exact hscope _ (Except.ok.inj (hevidence.symm.trans houtside))
    · cases houtside

theorem stopCandidate_terminalFits (h : RunLog r turns s records) (c : Recorded r s t a d s') :
    (stopCandidate t a d s' c.number (observedBackend r a)).TerminalFits := by
  have H := h.recorded c
  have hpos := nextNumber_pos c.numbered
  have htotal : c.number = s'.history.total := by
    rw [H.total, List.length_append, List.length_singleton, ← h.history.total]
    exact (nextNumber_eq_ok c.numbered).1
  have hlatest : s'.history.records.getLast? = some (completedRecord s t a c.number d.record) := by
    rw [H.latest, List.getLast?_concat]
  constructor
  all_goals
    simp only [stopCandidate]
    cases hd : d.outsideDeadline with
    | none | some evidence => ?_
  · rfl
  · simp [stopTerminal, SupervisionTerminal.scopeAgrees, decideRestart_scope c.decided hd]
  · simp only [stopTerminal, SupervisionTerminal.attempt, Option.some.injEq]
    rintro n rfl
    exact ⟨hpos.ne', htotal⟩
  · simp [stopTerminal, SupervisionTerminal.attempt]
  · simp [stopTerminal, SupervisionTerminal.matchesLatest, hlatest, completedRecord]
  · rfl
  · rfl
  · rfl

/-- The evidence of a drift passes its own check exactly when it is not only due to the adjusted
metric. -/
theorem driftError_provenance {selected observed : BackendCapabilityReport} {metric : Metric} :
    (driftError selected observed metric a number).provenanceIsConsistent = true ↔
    selected ≠ observed := by
  have hdrift := driftEvidence_isConsistent selected observed metric
  unfold SupervisionErrorRecord.provenanceIsConsistent
    SupervisionErrorRecord.initialSpawnIsConsistent
    SupervisionErrorRecord.providerRejectionIsConsistent
    SupervisionErrorRecord.backendDriftIsConsistent driftError
  simp [hdrift]

theorem conclude_candidate : (∃ e, conclude (.candidate c) = .execution e) ↔ c.Acceptable := by
  rw [← SupervisionExecution.new_eq_ok]
  cases hnew : SupervisionExecution.new c <;> simp [conclude, hnew]

/-- What the constructor refuses becomes a model error. -/
theorem conclude_refused (h : ¬c.Acceptable) :
    ∃ x, conclude (.candidate c) = .error (modelError x) := by
  cases hnew : SupervisionExecution.new c with
  | ok e => exact absurd (SupervisionExecution.new_eq_ok.1 ⟨e, hnew⟩) h
  | error x => exact ⟨x, by simp [conclude, hnew]⟩

section Log

variable (h : RunLog r turns s records) (hsound : ∀ t ∈ turns, t.Sound)
  (hturns : ∀ t ∈ turns, t.Presentable r)
include h hsound hturns

/-- Every record of the log was authorized, its release is known, and it can be kept under the
selected backend. -/
theorem RunLog.kept (hmem : record ∈ records) :
    record.isAuthorized = true ∧ record.authorizationUnknown = false ∧
      ∀ b, s.backend = some b → record.Kept b.boundary.class_ := by
  obtain ⟨s₁, t, a, d, s₂, ht, hb, c, rfl⟩ := h.logged record hmem
  have hs := hsound t ht
  have hpos : 0 < c.recorded.number := nextNumber_pos c.recorded.numbered
  have hdesc := completedRecord_describes (s := s₁) (a := a) hs hpos d.record
  have hauth : (completedRecord s₁ t a c.recorded.number d.record).isAuthorized = true := by
    obtain ⟨re⟩ := c.relaunched
    have hlaunch := ((hs.validated a c.result).checked).launch
    change a.launch.targetReleased = true
    rw [hlaunch]
    exact re.released
  refine ⟨hauth, hdesc.known hs c.result hauth, fun b hsel => ?_⟩
  rw [hsel] at hb
  have hsame : b.boundary = (observedBackend r a).boundary := Option.some.inj hb
  rw [hdesc.kept_iff hs c.result, hsame]
  exact (hturns t ht a c.result).reportable

theorem RunLog.countP_isAuthorized :
    records.countP AttemptRecord.isAuthorized = turns.length := by
  rw [← h.length]
  exact List.countP_eq_length.2 fun record hmem => (h.kept hsound hturns hmem).1

/-- **One more record.** A candidate whose history is that of a run of presentable attempts and one
more record is accepted exactly when its backend is consistent, the record can be kept and the
terminal fits. -/
theorem RunLog.acceptable_iff (H : HistoryOf c.attempts c.aggregates (records ++ [record]))
    (hkind : record.kind = s.kind)
    (hknown : record.isAuthorized = true → record.authorizationUnknown = false)
    (htargets : authorizedAfter s record.isAuthorized = .ok c.targetsAuthorized)
    (hrestarts : c.restart.restartsLaunched ≤ turns.length)
    (hbackend : ∀ b, s.backend = some b → b.boundary = c.backend.boundary) :
    c.Acceptable ↔ c.backend.boundary.isConsistent = true ∧ record.Kept c.backend.boundary.class_ ∧
      c.TerminalFits := by
  have hcount : (records ++ [record]).countP AttemptRecord.isAuthorized =
      turns.length + record.isAuthorized.toNat := by
    rw [List.countP_append, h.countP_isAuthorized hsound hturns, List.countP_singleton]
    cases record.isAuthorized <;> rfl
  have htotal := authorizedAfter_eq_ok htargets
  rw [h.targets] at htotal
  have hhead : ∀ b, (records ++ [record]).head? = some b → b.kind = .initial := by
    intro b hb
    cases hrs : records with
    | nil =>
      have hempty : turns = [] := List.length_eq_zero_iff.1 (by rw [← h.length, hrs]; rfl)
      rw [hrs] at hb
      cases hb
      exact hkind.trans (h.fresh hempty)
    | cons b' bs => exact h.head b (by simpa [hrs] using hb)
  have hall : ∀ x ∈ records ++ [record], x.isAuthorized = true →
      x.authorizationUnknown = false := by
    intro x hx hauth
    rcases List.mem_append.1 hx with hx | hx
    · exact (h.kept hsound hturns hx).2.1
    · obtain rfl := List.mem_singleton.1 hx
      exact hknown hauth
  have hlast : record ∈ c.attempts.records := by
    refine List.mem_of_getLast? ?_
    rw [H.latest, List.getLast?_concat]
  rw [H.acceptable_iff hhead hall (htotal.trans hcount.symm) (by omega)]
  constructor
  · rintro ⟨hboundary, hkept, hfits⟩
    exact ⟨hboundary, hkept record hlast, hfits⟩
  · rintro ⟨hboundary, hrecord, hfits⟩
    refine ⟨hboundary, fun x hx => ?_, hfits⟩
    rcases List.mem_append.1 (H.mem_of_mem_records hx) with hx | hx
    · obtain ⟨s₁, t₁, a₁, d₁, s₂, -, hb, -⟩ := h.logged x hx
      obtain ⟨b, hsel, -⟩ := Option.map_eq_some_iff.1 hb
      rw [← hbackend b hsel]
      exact (h.kept hsound hturns hx).2.2 b hsel
    · obtain rfl := List.mem_singleton.1 hx
      exact hrecord

/-- **The final record.** The candidate of a turn that records one more attempt is accepted exactly
when the attempt can be reported under the candidate's backend, that backend is consistent, and the
terminal fits. -/
theorem RunLog.final (hs : t.Sound) (hres : t.result = .ok a)
    (H : HistoryOf c.attempts c.aggregates (records ++ [record])) (hdesc : Describes t a record)
    (hkind : record.kind = s.kind)
    (htargets : authorizedAfter s a.execution.launch.targetReleased = .ok c.targetsAuthorized)
    (hrestarts : c.restart.restartsLaunched ≤ turns.length)
    (hbackend : ∀ b, s.backend = some b → b.boundary = c.backend.boundary) :
    c.Acceptable ↔ c.backend.boundary.isConsistent = true ∧
      Reportable c.backend.boundary.class_ record.failingStatus a ∧ c.TerminalFits := by
  have hlaunch : record.isAuthorized = a.execution.launch.targetReleased := by
    unfold AttemptRecord.isAuthorized
    rw [hdesc.launch, ((hs.validated a hres).checked).launch]
  rw [← hlaunch] at htargets
  rw [h.acceptable_iff hsound hturns H hkind (hdesc.known hs hres) htargets hrestarts hbackend,
    hdesc.kept_iff hs hres]

/-- A deadline at the loop head: nothing is recorded, so only the backend is left to check. -/
theorem accepted_expired (hcount : LaunchCount r turns s) (hhead : expiredAtHead r s t = true)
    {evidence : Option SupervisionDeadlineEvidence}
    (hbuilt : outsideDeadlineEvidence r s.supervisionOriginOffset t.attemptStarted .backoff =
      .ok evidence) :
    (∃ e, conclude (endOutsideAttempt s evidence t.endedAt) = .execution e) ↔
      s.reportedBackend.boundary.isConsistent = true := by
  -- the budget at the head came from an origin and a deadline, so there is evidence
  obtain ⟨ev, rfl, hscope⟩ : ∃ ev, evidence = some ev ∧ ev.evidence.scope = .supervision := by
    unfold expiredAtHead at hhead
    rw [Bool.and_eq_true, beq_iff_eq] at hhead
    obtain ⟨o, d, ho, hd, -⟩ := supervisionRemaining_eq_some.1 hhead.2
    obtain ⟨ev, hev, hscope⟩ := outsideDeadlineEvidence_eq_ok hd
    rw [ho, hev] at hbuilt
    exact ⟨_, (Except.ok.inj hbuilt).symm, hscope⟩
  change (∃ e, conclude (.candidate _) = .execution e) ↔ _
  have htargets : s.targetsAuthorized = records.countP AttemptRecord.isAuthorized := by
    rw [h.targets, h.countP_isAuthorized hsound hturns]
  have hrestarts : s.summary.restartsLaunched ≤ s.targetsAuthorized := by
    rw [h.targets]
    exact hcount.summary_le
  rw [conclude_candidate, h.history.acceptable_iff h.head
    (fun x hx _ => (h.kept hsound hturns hx).2.1) htargets hrestarts]
  refine ⟨fun hacc => hacc.1, fun hboundary => ⟨hboundary, fun x hx => ?_, ?_⟩⟩
  · have hx := h.history.mem_of_mem_records hx
    obtain ⟨s₁, t₁, a₁, d₁, s₂, -, hb, -⟩ := h.logged x hx
    obtain ⟨b, hsel, -⟩ := Option.map_eq_some_iff.1 hb
    have hkept := (h.kept hsound hturns hx).2.2 b hsel
    unfold LoopState.reportedBackend
    rw [hsel]
    exact hkept
  · exact ⟨by simp [SupervisionTerminal.scopeAgrees, hscope],
      by simp [SupervisionTerminal.attempt], rfl, rfl⟩

theorem accepted_stopped (hcount : LaunchCount r turns s) (hs : t.Sound) (hres : t.result = .ok a)
    (hdrift : drift r s (observedBackend r a) = none) (c : Recorded r s t a d s')
    (hstop : d.stop = true) :
    (∃ e, conclude (.candidate (stopCandidate t a d s' c.number (observedBackend r a))) =
      .execution e) ↔ Presentable r a := by
  have hdesc := completedRecord_describes (s := s) (a := a) hs (nextNumber_pos c.numbered) d.record
  have hsummary : s'.summary.restartsLaunched ≤ turns.length := by
    unfold LoopState.summary
    rw [c.coordinator]
    exact decideRestart_summary hcount c.decided hstop
  rw [conclude_candidate, h.final hsound hturns hs hres (h.recorded c) hdesc rfl c.targets hsummary
    (fun b hsel => (boundary_eq_of_drift_none hsel hdrift).symm)]
  exact ⟨fun ⟨hboundary, hrep, _⟩ => ⟨hboundary, hrep⟩,
    fun hp => ⟨hp.boundary, hp.reportable, stopCandidate_terminalFits h c⟩⟩

/-- A drift from the selected backend. -/
theorem accepted_drifted (hcount : LaunchCount r turns s) (hs : t.Sound) (hres : t.result = .ok a)
    {selected : BackendCapabilityReport} (hdrift : drift r s (observedBackend r a) = some selected)
    {ending : Ending}
    (hfinish : finishBackendSelectionDrift r s t selected (observedBackend r a) a = .ok ending) :
    (∃ e, conclude ending = .execution e) ↔ selected ≠ observedBackend r a ∧
        selected.boundary.isConsistent = true ∧ Reportable selected.boundary.class_ true a := by
  obtain ⟨number, targets, history, aggregates, hn, htargets, happ, rfl⟩ :=
    finishBackendSelectionDrift_cases hfinish
  have hpos := nextNumber_pos hn
  have hselected : s.backend = some selected := (Option.filter_eq_some_iff.1 hdrift).1
  have hdesc := driftRecord_describes (s := s) (t := t) (a := a) hpos selected
    (observedBackend r a) r.policy.metric
  have H := h.appended hn rfl (.inr rfl) happ
  have htotal : number = history.total := by
    rw [H.total, List.length_append, List.length_singleton, ← h.history.total]
    exact (nextNumber_eq_ok hn).1
  have hlatest := H.latest
  rw [List.getLast?_concat] at hlatest
  rw [conclude_candidate, h.final hsound hturns hs hres H hdesc rfl htargets hcount.summary_le
    (fun b hsel => congrArg _ (Option.some.inj (hsel.symm.trans hselected)))]
  constructor
  · rintro ⟨hboundary, hrep, hfits⟩
    have hmatches := hfits.latest
    simp only [SupervisionTerminal.matchesLatest, Bool.and_eq_true] at hmatches
    exact ⟨driftError_provenance.1 hmatches.1.1, hboundary, hrep⟩
  · rintro ⟨hne, hboundary, hrep⟩
    refine ⟨hboundary, hrep, rfl, ?_, ?_, rfl⟩
    · simp only [SupervisionTerminal.attempt, Option.some.injEq]
      rintro n rfl
      exact ⟨hpos.ne', htotal⟩
    · have hprovenance : (driftError selected (observedBackend r a) r.policy.metric a
          number).provenanceIsConsistent = true := driftError_provenance.2 hne
      simp only [SupervisionTerminal.matchesLatest, hprovenance, hlatest, Option.any_some]
      simp [driftRecord, driftError]

end Log

/-! ## The whole run -/

variable {e : Error}

theorem okOr_counterError {x : Option ℕ} (h : Fallible.okOr counterError x = .error e) :
    e.code ≠ "MCRESTART-MODEL" := by
  cases x with
  | some n => cases h
  | none =>
    cases h
    decide

theorem outsideDeadlineEvidence_ne_error :
    outsideDeadlineEvidence r origin now phase ≠ .error e := by
  obtain ⟨evidence, hevidence, -⟩ := outsideDeadlineEvidence_scope r origin now phase
  simp [hevidence]

theorem waitForRestart_error {c : RestartCoordinator} {record : RestartDecisionRecord}
    {kind : RestartWaitKind}
    (h : waitForRestart r origin t c record kind = .error e) : e.code ≠ "MCRESTART-MODEL" := by
  rcases bind_eq_error.1 h with h | ⟨interrupted, -, h⟩
  · obtain ⟨io, -, rfl⟩ := mapError_eq_error.1 h
    change "MCWAIT-RESTART" ≠ "MCRESTART-MODEL"
    decide
  rcases bind_eq_error.1 h with h | ⟨outside, -, h⟩
  · unfold waitEvidence at h
    split_ifs at h
    exact absurd h outsideDeadlineEvidence_ne_error
  rcases bind_eq_error.1 h with h | ⟨⟨after, c', record'⟩, -, h⟩
  · obtain ⟨x, -, rfl⟩ := mapError_eq_error.1 h
    change "MCRESTART-CONTROLLER" ≠ "MCRESTART-MODEL"
    decide
  cases after with
  | launch n halfOpen | stop k => cases h
  | wait duration kind' =>
    cases h
    decide

theorem decideRestart_error (h : decideRestart r s origin t a = .error e) :
    e.code ≠ "MCRESTART-MODEL" := by
  unfold decideRestart at h
  cases hc : s.coordinator with
  | none => simp [hc] at h
  | some c =>
    cases htrigger : (if a.execution.launch.targetReleased then
        restartCondition a.execution.outcome else none) with
    | none => simp [hc, htrigger] at h
    | some condition =>
      simp only [hc, htrigger] at h
      rcases bind_eq_error.1 h with h | ⟨⟨action, c', record⟩, -, h⟩
      · obtain ⟨x, -, rfl⟩ := mapError_eq_error.1 h
        change "MCRESTART-CONTROLLER" ≠ "MCRESTART-MODEL"
        decide
      cases action with
      | wait duration kind => exact waitForRestart_error h
      | stop k | launch n halfOpen => cases h

/-- The history of a run takes the record of the next attempt. -/
theorem RunLog.append_ne_error (h : RunLog r turns s records) (hn : nextNumber s = .ok number)
    (hrec : record.number = number) (hres : record.outcome.isSome ∨ record.error.isSome) :
    (AttemptHistory.append s.history record s.aggregates).mapError modelError ≠ .error e := by
  obtain ⟨history, aggregates, happ, -⟩ := h.append hn hrec hres
  rw [happ]
  intro hx
  cases hx

/-- Of all the errors a turn can return by itself none is a rejection by the model. -/
theorem turnResult_error (h : RunLog r turns s records) (hs : t.Sound)
    (he : turnResult r s t = .error e) : e.code ≠ "MCRESTART-MODEL" := by
  unfold turnResult at he
  split_ifs at he
  · rcases bind_eq_error.1 he with he | ⟨evidence, -, he⟩
    · exact absurd he outsideDeadlineEvidence_ne_error
    · cases he
  cases hres : t.result with
  | error x => exact absurd hres (hs.returned x)
  | ok a =>
    simp only [hres] at he
    cases hd : drift r s (observedBackend r a) with
    | some selected =>
      simp only [hd] at he
      rcases bind_eq_error.1 he with he | ⟨ending, -, he⟩
      · rcases bind_eq_error.1 he with he | ⟨targets, -, he⟩
        · exact okOr_counterError he
        rcases bind_eq_error.1 he with he | ⟨number, hn, he⟩
        · exact okOr_counterError he
        rcases bind_eq_error.1 he with he | ⟨⟨history, aggregates⟩, -, he⟩
        · exact absurd he (h.append_ne_error hn rfl (.inr rfl))
        · cases he
      · cases he
    | none =>
      simp only [hd] at he
      rcases bind_eq_error.1 he with he | ⟨targets, -, he⟩
      · exact okOr_counterError he
      rcases bind_eq_error.1 he with he | ⟨number, hn, he⟩
      · exact okOr_counterError he
      rcases bind_eq_error.1 he with he | ⟨d, -, he⟩
      · exact decideRestart_error he
      rcases bind_eq_error.1 he with he | ⟨⟨history, aggregates⟩, -, he⟩
      · exact absurd he (h.append_ne_error hn rfl (.inl rfl))
      · split_ifs at he <;> cases he

/-- **Acceptance.** In every run of validated attempts with ordered offsets whose earlier attempts
are presentable, no turn is lost to a rejection by the model before the constructor is reached, and
a turn that ends the run by one of the loop's stop paths returns an execution if and only if the
turn is presentable. -/
theorem accepted_iff {observed : ℕ} (hstart : start r observed = .again s₀)
    (hreach : Loop.Reaches (step r) s₀ turns s) (hsound : ∀ t ∈ turns, t.Sound)
    (hturns : ∀ t ∈ turns, t.Presentable r) (hs : t.Sound) :
    (∀ e, turnResult r s t = .error e → e.code ≠ "MCRESTART-MODEL") ∧
        ∀ ending, turnResult r s t = .ok (.inr ending) →
        ((∃ e, step r s t = .done (.execution e)) ↔ EndPresentable r s t) := by
  obtain ⟨records, hlog⟩ := RunLog.of_reaches hstart hreach
  have hcount := LaunchCount.of_reaches hstart hreach
  refine ⟨fun e he => turnResult_error hlog hs he, fun ending hturn => ?_⟩
  have hstep : (∃ e, step r s t = .done (.execution e)) ↔ ∃ e, conclude ending = .execution e := by
    simp [step, hturn]
  rw [hstep]
  obtain ⟨_, _, _, _, hgo⟩ | ⟨ending', hends, hending⟩ := turnResult_cases hturn
  · cases hgo
  obtain rfl : ending = ending' := Sum.inr.inj hending
  unfold EndPresentable
  cases hends with
  | expired evidence head built =>
    rw [if_pos head]
    exact accepted_expired hlog hsound hturns hcount head built
  | failed e ending dispatched result failure => exact absurd result (hs.returned e)
  | drifted a selected ending dispatched result drifts finished =>
    have hhead : ¬expiredAtHead r s t = true := by
      simpa [dispatches] using dispatched
    rw [if_neg hhead, accepted_drifted hlog hsound hturns hcount hs result drifts finished]
    simp only [result, Except.ok.injEq, forall_eq', drifts]
  | stopped a d s' dispatched result noDrift recorded stops =>
    have hhead : ¬expiredAtHead r s t = true := by
      simpa [dispatches] using dispatched
    rw [if_neg hhead, accepted_stopped hlog hsound hturns hcount hs result noDrift recorded stops]
    simp only [result, Except.ok.injEq, forall_eq', noDrift]

/-! ## Two runs -/

theorem sealedTurn_sound (retired : Bool) (started : ℕ) : (sealedTurn retired started).Sound where
  ordered := sealedTurn_ordered retired started
  returned := by rintro e ⟨⟩
  validated := sealedTurn_validated retired started
  authorized := by
    rintro a ⟨⟩ offset ⟨⟩
    change ofMillis 5 ≤ ofSecs 1
    decide
  terminal := by
    rintro a ⟨⟩
    exact le_rfl

theorem sealedTurn_presentable (started : ℕ) : (sealedTurn true started).Presentable sealedRun := by
  rintro a ⟨⟩
  exact ⟨by decide, ⟨rfl, rfl, fun _ => rfl, fun _ _ => ⟨rfl, rfl, rfl, rfl, rfl, rfl⟩,
    fun _ _ => rfl⟩⟩

/-- A turn hands an ending over, when evaluating it says so. -/
theorem turnResult_ending (h : (turnResult r s t).toOption.any Sum.isRight = true) :
    ∃ ending, turnResult r s t = .ok (.inr ending) := by
  cases hturn : turnResult r s t with
  | error e => simp [hturn, Except.toOption] at h
  | ok x =>
    cases x with
    | inl s' => simp [hturn, Except.toOption] at h
    | inr ending => exact ⟨ending, rfl⟩

/-- Two sealed attempts, each retired: the restart limit ends the run, and it is accepted. -/
theorem accepted_twoAttempts : ∃ s₀ s, start sealedRun 0 = .again s₀ ∧
      Loop.Reaches (step sealedRun) s₀ [sealedTurn true 0] s ∧
      ∃ e, step sealedRun s (sealedTurn true (ofSecs 2)) = .done (.execution e) := by
  obtain ⟨s₀, s, hstart, hreach, hhead, hdrift, hturn⟩ :
      ∃ s₀ s, start sealedRun 0 = .again s₀ ∧
        Loop.Reaches (step sealedRun) s₀ [sealedTurn true 0] s ∧
        expiredAtHead sealedRun s (sealedTurn true (ofSecs 2)) = false ∧
        (drift sealedRun s (capabilitiesFor .linux sealedBackend .sealed)).isNone = true ∧
        (turnResult sealedRun s (sealedTurn true (ofSecs 2))).toOption.any Sum.isRight = true :=
    reaches_of_headAfter (by decide +kernel)
  obtain ⟨ending, hturn⟩ := turnResult_ending hturn
  have honly : ∀ t ∈ [sealedTurn true 0], t = sealedTurn true 0 := fun t => List.mem_singleton.1
  have hiff := (accepted_iff hstart hreach (fun t ht => honly t ht ▸ sealedTurn_sound true 0)
    (fun t ht => honly t ht ▸ sealedTurn_presentable 0) (sealedTurn_sound true (ofSecs 2))).2
    ending hturn
  refine ⟨s₀, s, hstart, hreach, hiff.2 ?_⟩
  unfold EndPresentable
  rw [if_neg (by simp [hhead])]
  intro a ha
  have hpresentable := sealedTurn_presentable (ofSecs 2) a ha
  cases ha
  have hnone : drift sealedRun s (capabilitiesFor .linux sealedBackend .sealed) = none :=
    Option.isNone_iff_eq_none.1 hdrift
  change match drift sealedRun s (capabilitiesFor .linux sealedBackend .sealed) with
    | some selected | none => _
  rw [hnone]
  exact hpresentable

/-- A backend whose memory limit is enforced by a watchdog. -/
def watchdogBackend : BackendInfo :=
  { sealedBackend with
    name := "macos-process-group", class_ := "watchdog", metric := "physical-footprint-sum"
    boundarySupport :=
      { standard := { class_ := .standard, mechanism := "process-group" }
        sealed := .unavailable "no provider" [] } }

/-- A run that selected that backend, and asks for resident memory. -/
def watchdogRun : Run where
  arithmetic := ⟨fun _ _ _ _ _ _ => 1000, fun _ _ => 0⟩
  platform := .macos
  policy := { memory := some 4096, metric := .rss }
  restart := .never
  resolvedBackend := some (capabilitiesFor .macos watchdogBackend .standard)
  macosRunOriginNs := some (ofSecs 1)

/-- An attempt under the selected backend, reported exactly as it was selected. -/
def watchdogTurn : Turn :=
  let execution := { standardExecution with backend := watchdogBackend }
  { boundedTurn (ofSecs 2) (ofSecs 2) with
    result := .ok ⟨execution, execution.launch, execution.restartSafety⟩ }

theorem watchdogTurn_sound : watchdogTurn.Sound where
  ordered := by constructor <;> decide
  returned := by rintro e ⟨⟩
  validated := by
    rintro a ⟨⟩
    rfl
  authorized := by
    rintro a ⟨⟩ offset ⟨⟩
    change ofMillis 5 ≤ ofSecs 1
    decide
  terminal := by
    rintro a ⟨⟩
    exact le_rfl

/-- The error a turn returns, if it returns one. -/
def rejected : Flow LoopState Outcome → Option Error
  | .done (.error e) => some e
  | _ => none

/-- The adjusted metric makes a drift of a backend that is the selected one; the evidence of that
drift is refused, and the run is lost with its attempt. -/
theorem lost_metricDrift : ∃ s₀, start watchdogRun 0 = .again s₀ ∧ watchdogTurn.Sound ∧
      (rejected (step watchdogRun s₀ watchdogTurn)).map (fun e => (e.code, e.message)) = some
          ("MCRESTART-MODEL",
          "supervision invariant failed: terminal matches latest attempt and provenance") := by
  refine ⟨_, rfl, watchdogTurn_sound, ?_⟩
  decide +kernel

/-! ## The evidence of a drift -/

/-- **The evidence of a drift.** On every pair of reports the supervisor and the model compare the
same fields, and the evidence that the supervisor builds passes the check of the model exactly when
the reports differ. -/
theorem drift_evidence_iff (selected observed : BackendCapabilityReport) (metric : Metric)
    (a : AttemptExecution) (number : ℕ) :
    backendSelectionDriftFields selected observed metric =
        backendCapabilityMismatchedFields (selectedBackendForMetric selected metric) observed ∧
      ((driftError selected observed metric a number).backendSelectionDrift.any
        BackendSelectionDriftEvidence.isConsistent = true ↔ selected ≠ observed) :=
  ⟨rfl, driftEvidence_isConsistent selected observed metric⟩

/-- The watchdog is drifted from itself by the adjusted metric, and its evidence is refused. -/
theorem watchdog_drift_inconsistent : ∃ s₀ selected, start watchdogRun 0 = .again s₀ ∧
      drift watchdogRun s₀ selected = some selected ∧
      ∀ a number,
        (driftError selected selected watchdogRun.policy.metric a number).backendSelectionDrift.any
        BackendSelectionDriftEvidence.isConsistent = false := by
  refine ⟨_, capabilitiesFor .macos watchdogBackend .standard, rfl, by decide +kernel,
    fun a number => ?_⟩
  rw [← Bool.not_eq_true]
  exact fun h => (driftEvidence_isConsistent _ _ _).1 h rfl

end MemCordon.Supervisor
