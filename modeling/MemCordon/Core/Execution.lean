import MemCordon.Core.History

/-!
# Supervision executions

The value a supervision run returns. It is assembled from a `Candidate` (the backend, the terminal,
the history, the counters and the restart summary the loop accumulated) by a constructor that
cross-checks them, `SupervisionExecution.new`. `new_spec` reads a successful construction back,
`Candidate.Acceptable` lists what the constructor asks for, and `new_eq_ok` says it asks for nothing
else.

For a candidate whose history and counters were built from the records of a run most of that list
holds of itself; `HistoryOf.acceptable_iff` says what is left: the boundary capability, every
retained record on its own, and the terminal.
-/

namespace MemCordon

open Counter

/-- A supervision deadline that expired outside any attempt. -/
structure SupervisionDeadlineEvidence where
  evidence : DeadlineEvidence
  terminalPhase : SupervisionPhase
  deriving DecidableEq

/-- How a supervision run ended. -/
inductive SupervisionTerminal
  | attemptOutcome (attemptNumber : ℕ) (outcome : RunOutcome)
  | deadlineOutsideAttempt (evidence : SupervisionDeadlineEvidence)
  | error (attemptNumber : Option ℕ) (error : SupervisionErrorRecord)
  deriving DecidableEq

namespace SupervisionTerminal

/-- The wrapper's exit status. -/
def exitCode : SupervisionTerminal → ℤ
  | attemptOutcome _ outcome => outcome.outcomeStatus
  | deadlineOutsideAttempt _ => 123
  | error _ e => e.terminalStatus

/-- The terminal is a deadline outside any attempt. -/
def isOutsideDeadline : SupervisionTerminal → Bool
  | deadlineOutsideAttempt _ => true
  | _ => false

def attempt : SupervisionTerminal → Option ℕ
  | attemptOutcome n _ => some n
  | deadlineOutsideAttempt _ => none
  | error n _ => n

/-- A deadline outside any attempt is a supervision deadline. -/
def scopeAgrees : SupervisionTerminal → Bool
  | deadlineOutsideAttempt d => d.evidence.scope == .supervision
  | _ => true

/-- The terminal repeats what the latest record says. -/
def matchesLatest (latest : Option AttemptRecord) : SupervisionTerminal → Bool
  | attemptOutcome n outcome =>
    latest.any fun r => r.number == n && r.outcome == some outcome
  | error (some n) e =>
    e.provenanceIsConsistent && e.attemptNumber == some n && latest.any fun r =>
      r.number == n && r.error == some e
  | error none e => e.provenanceIsConsistent && e.attemptNumber.isNone
  | deadlineOutsideAttempt _ => true

end SupervisionTerminal

/-- What an execution is assembled from. -/
structure Candidate where
  backend : BackendCapabilityReport
  terminal : SupervisionTerminal
  attempts : AttemptHistory
  aggregates : SupervisionAggregates
  restart : RestartSummary
  deadline : Option SupervisionDeadlineEvidence
  durationMs : ℕ
  targetsAuthorized : ℕ

structure SupervisionExecution where
  backend : BackendCapabilityReport
  terminal : SupervisionTerminal
  attempts : AttemptHistory
  aggregates : SupervisionAggregates
  restart : RestartSummary
  deadline : Option SupervisionDeadlineEvidence
  durationMs : ℕ
  targetsAuthorized : ℕ
  wrapperExitCode : ℤ
  phase : SupervisionPhase

namespace SupervisionExecution

/-- The checks made before the terminal is looked at. -/
def accountsAgree (c : Candidate) : Except SupervisionModelError Unit :=
  if c.backend.boundary.isConsistent = false then
    .error (.rejectedExecution "backend boundary consistency")
  else
    match c.aggregates.outcomeTotal with
    | none => .error .counterRange
    | some total =>
      if total ≠ c.attempts.total then
        .error (.rejectedExecution "aggregate outcome total matches attempt total")
      else if AttemptHistory.validate c.attempts = false then
        .error (.rejectedExecution "attempt history validation")
      else if detailedAttemptCapacity < c.attempts.retained then
        .error (.rejectedExecution "retained attempt capacity")
      else if c.attempts.omitted ≠ c.attempts.total - c.attempts.retained then
        .error (.rejectedExecution "omitted attempt count")
      else if c.targetsAuthorized < c.restart.restartsLaunched then
        .error (.rejectedExecution "restarts do not exceed authorizations")
      else if c.targetsAuthorized ≠ c.aggregates.confirmedAuthorizations then
        .error (.rejectedExecution "target and aggregate authorizations agree")
      else if c.aggregates.authorizationsMatch c.attempts.records c.attempts.total
          c.attempts.omitted = false then
        .error (.rejectedExecution "aggregate authorizations match retained attempts")
      else .ok ()

/-- The checks that tie the terminal to the latest attempt. -/
def terminalAgrees (c : Candidate) : Except SupervisionModelError Unit :=
  if c.terminal.scopeAgrees = false then
    .error (.rejectedExecution "outside deadline has supervision scope")
  else if c.terminal.attempt.any (fun n => n == 0 || n != c.attempts.total) then
    .error (.rejectedExecution "terminal attempt is latest nonzero attempt")
  else if c.terminal.matchesLatest c.attempts.records.getLast? = false then
    .error (.rejectedExecution "terminal matches latest attempt and provenance")
  else if c.terminal.isOutsideDeadline ≠ c.deadline.isSome then
    .error (.rejectedExecution "outside deadline presence agrees with terminal")
  else .ok ()

/-- The sealed obligations over the retained attempts. -/
def sealedAgrees (c : Candidate) : Except SupervisionModelError Unit :=
  if c.attempts.records.any (·.breaksSealedProof c.backend.boundary.class_) then
    .error (.rejectedExecution "sealed attempt launch and retirement proof")
  else if c.backend.boundary.class_ ≠ .sealed ∧ c.attempts.records.any
        (fun r => r.launch.boundaryRequested == .sealed && r.launch.targetReleased) then
    .error (.rejectedExecution "released sealed request has sealed backend")
  else .ok ()

def new (c : Candidate) : Except SupervisionModelError SupervisionExecution := do
  accountsAgree c
  terminalAgrees c
  sealedAgrees c
  return {
    backend := c.backend
    terminal := c.terminal
    attempts := c.attempts
    aggregates := c.aggregates
    restart := c.restart
    deadline := c.deadline
    durationMs := c.durationMs
    targetsAuthorized := c.targetsAuthorized
    wrapperExitCode := c.terminal.exitCode
    phase := .completed }

end SupervisionExecution

/-! ## What the constructor asks for -/

/-- Everything the constructor checks. -/
@[mk_iff]
structure Candidate.Acceptable (c : Candidate) : Prop where
  boundary : c.backend.boundary.isConsistent = true
  outcomes : c.aggregates.outcomeTotal = some c.attempts.total
  history : AttemptHistory.validate c.attempts = true
  retained : c.attempts.retained ≤ detailedAttemptCapacity
  omitted : c.attempts.omitted = c.attempts.total - c.attempts.retained
  restarts : c.restart.restartsLaunched ≤ c.targetsAuthorized
  targets : c.targetsAuthorized = c.aggregates.confirmedAuthorizations
  authorizations :
    c.aggregates.authorizationsMatch c.attempts.records c.attempts.total c.attempts.omitted = true
  scope : c.terminal.scopeAgrees = true
  attempt : ∀ n, c.terminal.attempt = some n → n ≠ 0 ∧ n = c.attempts.total
  latest : c.terminal.matchesLatest c.attempts.records.getLast? = true
  outside : c.terminal.isOutsideDeadline = c.deadline.isSome
  sealedProof : ∀ r ∈ c.attempts.records, r.breaksSealedProof c.backend.boundary.class_ = false
  sealedBackend : c.backend.boundary.class_ ≠ .sealed → ∀ r ∈ c.attempts.records,
    r.launch.boundaryRequested = .sealed → r.launch.targetReleased = false

namespace SupervisionExecution

def ofCandidate (c : Candidate) : SupervisionExecution where
  backend := c.backend
  terminal := c.terminal
  attempts := c.attempts
  aggregates := c.aggregates
  restart := c.restart
  deadline := c.deadline
  durationMs := c.durationMs
  targetsAuthorized := c.targetsAuthorized
  wrapperExitCode := c.terminal.exitCode
  phase := .completed

variable {c : Candidate}

/-- **The constructor.** It copies a candidate that meets the checks, and derives the exit code from
the terminal. -/
theorem new_iff {e : SupervisionExecution} : new c = .ok e ↔ c.Acceptable ∧ e = ofCandidate c := by
  have hattempt : ¬ c.terminal.attempt.any (fun n => n == 0 || n != c.attempts.total) = true ↔
      ∀ n, c.terminal.attempt = some n → n ≠ 0 ∧ n = c.attempts.total := by
    cases c.terminal.attempt with
    | none | some n => simp
  have hsealed : sealedAgrees c = .ok () ↔
      (∀ r ∈ c.attempts.records, r.breaksSealedProof c.backend.boundary.class_ = false) ∧
        (c.backend.boundary.class_ ≠ .sealed → ∀ r ∈ c.attempts.records,
          r.launch.boundaryRequested = .sealed → r.launch.targetReleased = false) := by
    simp [sealedAgrees, Fallible.ite_error_eq_ok]
  -- the conditions are listed in the order of the checks
  rw [Candidate.acceptable_iff]
  unfold new accountsAgree terminalAgrees
  cases c.aggregates.outcomeTotal with
  | none => simp [Fallible.unit_bind_eq_ok, Fallible.ite_error_eq_ok]
  | some total =>
    simp only [Fallible.unit_bind_eq_ok, Fallible.ite_error_eq_ok, Fallible.pure_eq_ok, hattempt,
      hsealed, not_not, Bool.not_eq_false, not_lt, Option.some.injEq, and_true, and_assoc]
    rfl

theorem new_spec {e : SupervisionExecution} (h : new c = .ok e) : e = ofCandidate c :=
  (new_iff.1 h).2

theorem new_eq_ok : (∃ e, new c = .ok e) ↔ c.Acceptable :=
  ⟨fun ⟨_, h⟩ => (new_iff.1 h).1, fun h => ⟨_, new_iff.2 ⟨h, rfl⟩⟩⟩

end SupervisionExecution

/-! ## Candidates of a run -/

/-- What the constructor asks of each retained record, under a backend of the given class. -/
structure AttemptRecord.Kept (backend : BoundaryClass) (r : AttemptRecord) : Prop where
  consistent : r.isConsistent = true
  proof : r.breaksSealedProof backend = false
  backed : backend ≠ .sealed → r.launch.boundaryRequested = .sealed →
    r.launch.targetReleased = false

/-- The sealed obligations of a record with these launch facts and this proof, under a backend of
the given class. -/
structure ObligationsKept (backend : BoundaryClass) (launch : LaunchEvidence)
    (proof : RestartSafetyProof) : Prop where
  /-- A sealed boundary was obtained from a sealed backend only. -/
  effective : launch.boundaryEffective = .sealed → backend = .sealed
  /-- A released sealed attempt ran behind a sealed backend and a complete boundary. -/
  released : launch.targetReleased = true → launch.boundaryRequested = .sealed →
    backend = .sealed ∧ launch.boundaryEffective = .sealed ∧
      launch.boundaryAssignmentVerified = true ∧ launch.boundaryReconfigurationDenied = true ∧
      launch.inheritedResourcesRestricted = true ∧
      launch.frontendLossCleanupAuthorityVerified = true
  /-- A safe proof of a sealed attempt says that its boundary was retired. -/
  retired : launch.boundaryRequested = .sealed → proof.isSafe = true →
    proof.sealedBoundaryRetired = true

variable {backend : BoundaryClass} {r : AttemptRecord}

theorem AttemptRecord.breaksSealedProof_eq_false :
    r.breaksSealedProof backend = false ↔
      (r.launch.boundaryEffective = .sealed → backend = .sealed) ∧
      (r.launch.targetReleased = true → r.launch.boundaryRequested = .sealed →
        r.launch.boundaryEffective = .sealed ∧ r.launch.boundaryAssignmentVerified = true ∧
          r.launch.boundaryReconfigurationDenied = true ∧
          r.launch.inheritedResourcesRestricted = true ∧
          r.launch.frontendLossCleanupAuthorityVerified = true) ∧
      (r.launch.boundaryRequested = .sealed → r.restartSafety.isSafe = true →
        r.restartSafety.sealedBoundaryRetired = true) := by
  simp [breaksSealedProof, and_assoc]

/-- A record is kept when it is consistent and keeps the sealed obligations. -/
theorem AttemptRecord.kept_iff :
    r.Kept backend ↔ r.isConsistent = true ∧ ObligationsKept backend r.launch r.restartSafety := by
  constructor
  · rintro ⟨hconsistent, hproof, hbacked⟩
    obtain ⟨heffective, hreleased, hretired⟩ := breaksSealedProof_eq_false.1 hproof
    refine ⟨hconsistent, heffective, fun hrel hreq => ⟨?_, hreleased hrel hreq⟩, hretired⟩
    by_contra hclass
    cases hrel.symm.trans (hbacked hclass hreq)
  · rintro ⟨hconsistent, heffective, hreleased, hretired⟩
    refine ⟨hconsistent, ?_, fun hclass hreq => ?_⟩
    · exact breaksSealedProof_eq_false.2 ⟨heffective, fun hrel hreq => (hreleased hrel hreq).2,
        hretired⟩
    · by_contra hrel
      exact hclass (hreleased (eq_true_of_ne_false hrel) hreq).1

/-- What the constructor asks of the terminal. -/
structure Candidate.TerminalFits (c : Candidate) : Prop where
  scope : c.terminal.scopeAgrees = true
  attempt : ∀ n, c.terminal.attempt = some n → n ≠ 0 ∧ n = c.attempts.total
  latest : c.terminal.matchesLatest c.attempts.records.getLast? = true
  outside : c.terminal.isOutsideDeadline = c.deadline.isSome

/-- **What is left to check.** When the history and the counters of a candidate were built from the
records `rs` of a run, in which only the first attempt is an initial one and no release is both
confirmed and unknown, and `targets_authorized` counts the authorized ones, the constructor accepts
it exactly when the boundary capability is consistent, every retained record can be kept and the
terminal fits. -/
theorem HistoryOf.acceptable_iff {c : Candidate} {rs : List AttemptRecord}
    (H : HistoryOf c.attempts c.aggregates rs)
    (hinitial : ∀ b, rs.head? = some b → b.kind = .initial)
    (hknown : ∀ r ∈ rs, r.isAuthorized = true → r.authorizationUnknown = false)
    (htargets : c.targetsAuthorized = rs.countP AttemptRecord.isAuthorized)
    (hrestarts : c.restart.restartsLaunched ≤ c.targetsAuthorized) :
    c.Acceptable ↔ c.backend.boundary.isConsistent = true ∧
      (∀ r ∈ c.attempts.records, r.Kept c.backend.boundary.class_) ∧ c.TerminalFits := by
  constructor
  · intro h
    exact ⟨h.boundary, fun r hr => ⟨H.validate_iff.1 h.history r hr, h.sealedProof r hr,
      fun hclass => h.sealedBackend hclass r hr⟩, h.scope, h.attempt, h.latest, h.outside⟩
  · rintro ⟨hboundary, hkept, hterminal⟩
    exact {
      boundary := hboundary
      outcomes := by
        rw [SupervisionAggregates.outcomeTotal_of_lt (by rw [H.outcomes]; exact H.fits),
          H.outcomes, H.total]
      history := H.validate_iff.2 fun r hr => (hkept r hr).consistent
      retained := by
        rw [H.window]
        exact Window.retained_ofList_le
      omitted := by
        rw [H.total, H.window]
        exact Window.omitted_ofList
      restarts := hrestarts
      targets := htargets.trans H.counts.confirmed.symm
      authorizations := H.authorizationsMatch hinitial hknown
      scope := hterminal.scope
      attempt := hterminal.attempt
      latest := hterminal.latest
      outside := hterminal.outside
      sealedProof := fun r hr => (hkept r hr).proof
      sealedBackend := fun hclass r hr => (hkept r hr).backed hclass }

end MemCordon
