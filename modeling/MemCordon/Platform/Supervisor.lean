import MemCordon.Foundations.Runs
import MemCordon.Platform.Backend

/-!
# The supervision loop

`superviseWithOrigin` runs attempts until one of them ends the supervision. One turn of its loop is
a function of the loop's state and of what the turn observes (`Turn`): the result of the attempt,
the result of the restart wait, and one clock reading for each place where the source reads its
clock. Readings are offsets from the start of the supervision, in nanoseconds; `Turn.Ordered` says
they do not decrease.

A turn that ends the supervision hands a `Candidate` to `SupervisionExecution.new`; everything
before that is `turnResult`, so what the loop decides and what the constructor accepts can be looked
at separately.
-/

namespace MemCordon.Supervisor

open Clock Counter Fallible

/-! ## Inputs and state -/

/-- What is fixed over a run. -/
structure Run where
  arithmetic : RestartArithmetic
  platform : Platform
  policy : Policy
  restart : RestartPolicy
  resolvedBackend : Option BackendCapabilityReport
  /-- The continuous-clock origin of the run, on macOS. -/
  macosRunOriginNs : Option ℕ

/-- What the backend is told about the attempt. -/
structure AttemptContext where
  macosRunOriginNs : Option ℕ
  macosWorkExpiresNs : Option ℕ
  restartAttempt : ℕ
  supervisionOffset : ℕ
  supervisionDeadlineRemaining : Option ℕ

/-- The instant at which the supervision deadline expires, for an attempt that started at
`attemptStarted`. An instant the clock can show is never out of range. -/
def AttemptContext.supervisionDeadline (c : AttemptContext) (attemptStarted : ℕ) : Option ℕ :=
  c.supervisionDeadlineRemaining.map (attemptStarted + ·)

/-- A local deadline counted from `now`, clamped to the supervision deadline. -/
def AttemptContext.clampDeadline (c : AttemptContext) (attemptStarted local_ now : ℕ) : ℕ :=
  match c.supervisionDeadline attemptStarted with
  | none => now + local_
  | some supervision => min (now + local_) supervision

/-- How long a deadline lets the attempt run: what is left of a supervision deadline, or all of
it. -/
def AttemptContext.activeDuration (c : AttemptContext) (d : DeadlinePolicy) : ℕ :=
  c.supervisionDeadlineRemaining.getD d.duration

/-- An I/O error of the restart wait. -/
structure IoError where
  message : String
  rawOsError : Option ℤ

/-- What one turn of the loop observes, in the order in which the source reads it. Readings that a
turn does not make are not looked at. -/
structure Turn where
  attemptStarted : ℕ
  result : Except Error AttemptExecution
  /-- After the attempt: the time of the limit event, of a drift, or of a late setup error. -/
  observedAt : ℕ
  waitStartedAt : ℕ
  /-- The remaining budget that bounds the wait is taken here. -/
  budgetAt : ℕ
  waitResult : Except IoError (Option ℤ)
  /-- The end of the wait is classified here. -/
  classifiedAt : ℕ
  evidenceAt : ℕ
  /-- The length of the wait is measured here. -/
  actualAt : ℕ
  /-- The remaining budget the controller sees is taken here. -/
  remainingAt : ℕ
  finishedAt : ℕ
  endedAt : ℕ

/-- The readings of a turn do not decrease. -/
structure Turn.Ordered (t : Turn) : Prop where
  observed : t.attemptStarted ≤ t.observedAt
  waitStarted : t.observedAt ≤ t.waitStartedAt
  budget : t.waitStartedAt ≤ t.budgetAt
  classified : t.budgetAt ≤ t.classifiedAt
  evidence : t.classifiedAt ≤ t.evidenceAt
  actual : t.evidenceAt ≤ t.actualAt
  remaining : t.actualAt ≤ t.remainingAt
  finished : t.remainingAt ≤ t.finishedAt
  ended : t.finishedAt ≤ t.endedAt

/-- The readings of a run do not decrease, within a turn and from one turn to the next. -/
def OrderedRun : List Turn → Prop
  | [] => True
  | [t] => t.Ordered
  | t :: u :: ts => t.Ordered ∧ t.finishedAt ≤ u.attemptStarted ∧ OrderedRun (u :: ts)

structure LoopState where
  history : AttemptHistory
  aggregates : SupervisionAggregates
  targetsAuthorized : ℕ
  kind : AttemptKind
  coordinator : Option RestartCoordinator
  backend : Option BackendCapabilityReport
  supervisionOriginOffset : Option ℕ

/-- The restart summary an execution reports. -/
def LoopState.summary (s : LoopState) : RestartSummary :=
  s.coordinator.elim {} RestartCoordinator.summary

/-! ## Errors and evidence -/

def controllerError (e : RestartControllerError) : Error where
  category := .monitor
  code := "MCRESTART-CONTROLLER"
  message := e.display

def modelError (e : SupervisionModelError) : Error where
  category := .monitor
  code := "MCRESTART-MODEL"
  message := e.display

def counterError : Error where
  category := .monitor
  code := "MCRESTART-COUNTER-RANGE"
  message := "supervision counter exhausted"

def waitError (e : IoError) : Error where
  category := .wait
  code := "MCWAIT-RESTART"
  message := e.message
  osCode := e.rawOsError

/-- What is left of the supervision deadline, once its origin is known. -/
def supervisionRemaining (policy : Policy) (origin : Option ℕ) (now : ℕ) : Option ℕ :=
  origin.bind fun o =>
    policy.deadline.bind fun d =>
      if d.scope = .supervision then some (d.duration - (now - o)) else none

/-- Evidence for a supervision deadline that expired outside any attempt. -/
def outsideDeadlineEvidence (r : Run) (origin : Option ℕ) (observed : ℕ)
    (terminalPhase : SupervisionPhase) : Except Error (Option SupervisionDeadlineEvidence) :=
  match origin, r.policy.deadline with
  | some o, some d =>
    let expires := o + d.duration
    match DeadlineEvidence.new (millis d.duration) .supervision (deadlineOrigin r.platform)
        (millis expires) (millis (max observed expires)) (millis r.policy.limitGrace) 0 none none
          with
    | some evidence => .ok (some ⟨evidence, terminalPhase⟩)
    | none =>
      .error
        { category := .monitor
          code := "MCSUPERVISION-DEADLINE-EVIDENCE"
          message := "supervision deadline evidence is inconsistent" }
  | _, _ => .ok none

def restartCondition : RunOutcome → Option RestartCondition
  | .limitExceeded .. => some .memoryLimit
  | .deadlineExceeded deadline _ _ _ =>
    if deadline.scope = .attempt then some .deadline else none
  | _ => none

/-- The sealed provider refused authorization because the supervision deadline had passed. -/
def sealedDeadlineRejectionIsOutsideAttempt (policy : Policy) (context : AttemptContext)
    (e : Error) : Bool :=
  policy.deadline.any (·.scope == .supervision) && context.supervisionDeadlineRemaining.isSome &&
    e.category == .setup && e.code == "MCSEALED-PROVIDER-REJECTION" && !e.targetReleased &&
    e.authorizationOffset.isNone && !e.workloadMayBeAlive &&
    e.launchPhase == some "authorization" &&
    match e.providerRejection, e.boundarySetupFailure with
    | some rejection, some failure =>
      rejection.schemaVersion == 1 && rejection.code == "MCSEALED-AUTHORIZATION" &&
        rejection.phase == .authorization && rejection.targetCreated &&
        !rejection.targetReleased && rejection.cleanupAttempted &&
        rejection.restartSafety.isSafeFor .sealed && e.osCode == rejection.osCode &&
        e.restartSafety == some rejection.restartSafety && failure.requested == .sealed &&
        failure.mechanism == some "linux-pid-namespace-cgroup-v2" &&
        failure.phase == rejection.phase && failure.targetCreated == rejection.targetCreated &&
        failure.targetReleased == rejection.targetReleased &&
        failure.cleanupAttempted == rejection.cleanupAttempted &&
        failure.restartSafety == rejection.restartSafety
    | _, _ => false

/-! ## Records of failed attempts -/

def errorRecord (e : Error) (attemptNumber : Option ℕ) (phase : SupervisionPhase)
    (kind : AttemptKind) : SupervisionErrorRecord where
  nativeStartup := e.nativeStartup
  category := e.category.name
  code := e.code
  message := e.message
  osCode := e.osCode
  attemptNumber := attemptNumber
  supervisionPhase := phase
  launchPhase := e.launchPhase
  targetReleased := e.targetReleased
  workloadMayBeAlive := e.workloadMayBeAlive
  initialSpawnFailure := if kind = .initial then e.initialSpawnFailure else none
  providerRejection := e.providerRejection
  backendSelectionDrift := none

def proofFromError (e : Error) : RestartSafetyProof :=
  e.restartSafety.getD
    { errors := [e.code ++ ": setup failure has no complete backend resource proof"] }

/-- The Windows execution detail of an error whose diagnostics validate and agree with it. -/
def windowsFailedExecutionDetail (e : Error) : Option WindowsSealedEvidenceV2 :=
  match e.operationalFailure, e.windowsProviderRejectionV2 with
  | some true, some rejection =>
    if rejection.consistent then
      match rejection.terminalReceipt with
      | some (.execution pid offset (.windowsJobObjectV2 native)) =>
        if e.targetPid = some pid ∧ e.targetReleased = true ∧
            e.authorizationOffset = some (ofMillis offset) then
          some native
        else none
      | _ => none
    else none
  | _, _ => none

/-- The mechanism of the selected boundary, when it has a name. -/
def namedMechanism (backend : Option BackendCapabilityReport) : Option String :=
  (backend.map (·.boundary.mechanism)).filter (· != "")

def launchFromError (platform : Platform) (e : Error) (requested : BoundaryRequirement)
    (backend : Option BackendCapabilityReport) : LaunchEvidence :=
  let isSealed := requested == .sealed
  match isSealed, windowsFailedExecutionDetail e with
  | true, some native =>
    { mechanism := "windows-job-object-v2"
      targetReleased := native.targetReleased
      containmentVerifiedBeforeAuthorization :=
        native.jobCreated && native.jobLimitsVerified && native.killOnCloseVerified &&
          native.completionPortAssociated && native.targetStillSuspendedDuringVerification
      guardianStartedBeforeAuthorization := native.guardianReady
      targetSpawnErrorReported := native.targetCreatedSuspended
      boundaryRequested := requested
      boundaryEffective := if native.targetReleased then .sealed else .unavailable
      boundaryAssignmentVerified :=
        native.jobListAppliedAtCreation && native.targetJobMembershipVerified
      boundaryReconfigurationDenied := native.breakawayDenied && native.killOnCloseVerified
      inheritedResourcesRestricted :=
        native.handleListAppliedAtCreation && native.inheritedHandlesVerified
      frontendLossCleanupAuthorityVerified := native.guardianReady && native.killOnCloseVerified }
  | _, _ =>
    { mechanism := (namedMechanism backend).getD (launchMechanism platform)
      targetReleased := e.targetReleased
      containmentVerifiedBeforeAuthorization := e.cgroupVerifiedBeforeRelease
      guardianStartedBeforeAuthorization := e.guardianReadyBeforeRelease
      targetSpawnErrorReported := e.launchPhase == some "target-spawn-failed"
      boundaryRequested := requested
      boundaryEffective :=
        if e.targetReleased && isSealed then .sealed
        else if isSealed then .unavailable
        else .standard
      boundaryAssignmentVerified := isSealed && e.cgroupVerifiedBeforeRelease
      boundaryReconfigurationDenied := isSealed && e.cgroupVerifiedBeforeRelease
      inheritedResourcesRestricted := isSealed && e.cgroupVerifiedBeforeRelease
      frontendLossCleanupAuthorityVerified := isSealed && e.guardianReadyBeforeRelease }

def boundaryFailureDetail (e : Error) (requested : BoundaryRequirement)
    (backend : Option BackendCapabilityReport) : BoundaryMechanismEvidence :=
  match requested, windowsFailedExecutionDetail e, e.boundarySetupFailure with
  | .sealed, some native, _ => .windowsJobObjectV2 native
  | _, _, some failure =>
    .setupFailure
      ((failure.mechanism.or (backend.map (·.boundary.mechanism))).getD "unresolved-boundary-setup")
      requested
  | .sealed, _, none =>
    .setupFailure ((namedMechanism backend).getD "unresolved-sealed-setup") requested
  | .standard, _, none =>
    .standard ((backend.map (·.name)).getD "setup-failed-before-selection")

/-- A released Windows target whose closure was recovered without a clock. -/
def recoveredWithoutClock (e : Error) : Bool :=
  e.targetReleased && e.authorizationOffset.isNone &&
    match e.windowsProviderRejectionV2 with
    | some rejection =>
      rejection.consistent &&
        match rejection.terminalReceipt with
        | some (.recoveredClosure resumeAttempted) => resumeAttempted
        | _ => false
    | none => false

/-! ## One turn -/

/-- The backend the run reports when it ends. -/
def LoopState.reportedBackend (s : LoopState) : BackendCapabilityReport :=
  s.backend.getD unsupportedCapability

/-- The absolute expiry of a supervision deadline on the continuous clock of macOS. -/
def macosWorkExpiresNs (r : Run) : Except Error (Option ℕ) :=
  match r.macosRunOriginNs, r.policy.deadline with
  | some origin, some d =>
    if d.scope = .supervision then
      if d.duration < u64Bound ∧ origin + d.duration < u64Bound then
        .ok (some (origin + d.duration))
      else
        .error
          { category := .usage
            code := "MCUSAGE-DEADLINE-RANGE"
            message := "deadline exceeds the continuous clock range" }
    else .ok none
  | _, _ => .ok none

variable (r : Run) (s : LoopState) (t : Turn)

/-- The context of the attempt a turn starts. The absolute macOS expiry was computed, and is in
range, before the loop was entered. -/
def attemptContext : AttemptContext where
  macosRunOriginNs := r.macosRunOriginNs
  macosWorkExpiresNs := (macosWorkExpiresNs r).toOption.join
  restartAttempt := s.history.total
  supervisionOffset := t.attemptStarted
  supervisionDeadlineRemaining :=
    supervisionRemaining r.policy s.supervisionOriginOffset t.attemptStarted

/-- The deadline passed before the attempt could start. -/
def expiredAtHead : Bool :=
  s.supervisionOriginOffset.isSome && (attemptContext r s t).supervisionDeadlineRemaining == some 0

/-- The turn calls the backend. -/
def dispatches : Bool := !expiredAtHead r s t

/-- What the loop hands to the constructor of executions. The source unwraps the evidence of an
outside deadline with a message when there is none. -/
inductive Ending
  | candidate (c : Candidate)
  | panicked (message : String)

/-- The run ends at a supervision deadline outside any attempt. -/
def endOutsideAttempt (s : LoopState) (evidence : Option SupervisionDeadlineEvidence)
    (endedAt : ℕ) : Ending :=
  match evidence with
  | none => .panicked "expired supervision deadline supplies evidence"
  | some d =>
    .candidate
      { backend := s.reportedBackend
        terminal := .deadlineOutsideAttempt d
        attempts := s.history
        aggregates := s.aggregates
        restart := s.summary
        deadline := some d
        durationMs := millis endedAt
        targetsAuthorized := s.targetsAuthorized }

def nextNumber (s : LoopState) : Except Error ℕ := okOr counterError (checkedAdd s.history.total 1)

/-- `targets_authorized`, after an attempt. -/
def authorizedAfter (s : LoopState) (released : Bool) : Except Error ℕ :=
  okOr counterError (checkedAdd s.targetsAuthorized released.toNat)

/-- The record of an attempt that returned an error. -/
def failedRecord (e : Error) (number : ℕ) : AttemptRecord where
  operationalFailure := e.operationalFailure
  privateExecution := none
  runtime := e.runtime
  policyEnforcement := e.policyEnforcement.getD
    (if r.policy.hasWorkloadContract then .authorizationUncertain else .legacyUnspecified)
  number := number
  kind := s.kind
  phase := .failed
  targetPid := e.targetPid.or (e.runtime.bind fun runtime => runtime.targetPid.map PNat.val)
  startedOffsetMs := some (millis t.attemptStarted)
  authorizedOffsetMs := e.authorizationOffset.map fun offset => millis (t.attemptStarted + offset)
  terminalOffsetMs := none
  finishedOffsetMs := millis t.finishedAt
  outcome := none
  error := some (errorRecord e (some number) .attemptSetup s.kind)
  restartDecision := {}
  launch := launchFromError r.platform e r.policy.boundary s.backend
  restartSafety := proofFromError e
  boundaryDetail := boundaryFailureDetail e r.policy.boundary s.backend

/-- The attempt returned an error: the supervision ends. -/
def failedAttempt (e : Error) : Except Error Ending :=
  if e.code = "MCSUPERVISION-DEADLINE-BEFORE-AUTHORIZATION" ∨
      sealedDeadlineRejectionIsOutsideAttempt r.policy (attemptContext r s t) e = true then do
    let evidence ←
      outsideDeadlineEvidence r s.supervisionOriginOffset t.observedAt .attemptSetup
    return endOutsideAttempt s evidence t.endedAt
  else do
    let number ← nextNumber s
    if e.targetReleased ≠ e.authorizationOffset.isSome ∧ recoveredWithoutClock e = false then
      .error
        { category := .monitor
          code := "MCRESTART-AUTHORIZATION-EVIDENCE"
          message := "target release and authorization offset evidence disagree" }
    else do
      let targetsAuthorized ← authorizedAfter s e.targetReleased
      let (history, aggregates) ←
        (AttemptHistory.append s.history (failedRecord r s t e number) s.aggregates).mapError
          modelError
      return .candidate
        { backend := s.reportedBackend
          terminal := .error (some number) (errorRecord e (some number) .attemptSetup s.kind)
          attempts := history
          aggregates := aggregates
          restart := s.summary
          deadline := none
          durationMs := millis t.endedAt
          targetsAuthorized := targetsAuthorized }

/-- The offsets of an attempt that returned a result. -/
def authorizedOffsetMs (t : Turn) (a : AttemptExecution) : Option ℕ :=
  a.execution.authorizationOffset.map fun offset => millis (t.attemptStarted + offset)

def driftError (selected observed : BackendCapabilityReport) (metric : Metric)
    (a : AttemptExecution) (number : ℕ) : SupervisionErrorRecord where
  category := "monitor"
  code := "MCBACKEND-SELECTION-DRIFT"
  message := "runtime backend evidence disagrees with the resolved backend: " ++
    ", ".intercalate (backendSelectionDriftFields selected observed metric)
  attemptNumber := some number
  supervisionPhase := .activeAttempt
  launchPhase := some "runtime-backend-evidence"
  targetReleased := a.launch.targetReleased
  workloadMayBeAlive := a.restartSafety.workloadEmpty != some true
  backendSelectionDrift := some
    { selected
      comparisonExpected := selectedBackendForMetric selected metric
      observed
      mismatchedFields := backendSelectionDriftFields selected observed metric }

/-- The record of an attempt that ran under a backend that is not the selected one. -/
def driftRecord (s : LoopState) (t : Turn) (selected observed : BackendCapabilityReport)
    (metric : Metric) (a : AttemptExecution) (number : ℕ) : AttemptRecord where
  privateExecution := a.execution.privateExecution
  runtime := a.execution.runtime
  policyEnforcement := a.execution.policyEnforcement
  number := number
  kind := s.kind
  phase := .failed
  targetPid := a.execution.childPid.map PNat.val
  startedOffsetMs := some (millis t.attemptStarted)
  authorizedOffsetMs := authorizedOffsetMs t a
  terminalOffsetMs := some (millis (t.attemptStarted + a.execution.duration))
  finishedOffsetMs := millis t.observedAt
  outcome := none
  error := some (driftError selected observed metric a number)
  restartDecision := {}
  launch := a.launch
  restartSafety := a.restartSafety
  boundaryDetail := a.execution.boundaryDetail

def finishBackendSelectionDrift (selected observed : BackendCapabilityReport)
    (a : AttemptExecution) : Except Error Ending := do
  let targetsAuthorized ← authorizedAfter s a.execution.launch.targetReleased
  let number ← nextNumber s
  let (history, aggregates) ←
    (AttemptHistory.append s.history (driftRecord s t selected observed r.policy.metric a number)
      s.aggregates).mapError modelError
  return .candidate
    { backend := selected
      terminal := .error (some number) (driftError selected observed r.policy.metric a number)
      attempts := history
      aggregates := aggregates
      restart := s.summary
      deadline := none
      durationMs := millis t.observedAt
      targetsAuthorized := targetsAuthorized }

/-! ## Restart decisions -/

/-- What a completed attempt leads to. -/
structure Decided where
  stop : Bool
  nextKind : AttemptKind
  outsideDeadline : Option SupervisionDeadlineEvidence
  coordinator : Option RestartCoordinator
  record : RestartDecisionRecord

/-- The budget that bounds the restart wait. -/
def waitBudget (r : Run) (origin : Option ℕ) (t : Turn) : Option ℕ :=
  supervisionRemaining r.policy origin t.budgetAt

/-- How the loop classifies the end of a wait: interrupted, cut by the budget it was bounded with,
or completed. -/
def classifyWait (budget : Option ℕ) (interrupted : Option ℤ) (t : Turn) : WaitCompletion :=
  if interrupted.isSome then .interrupted
  else if budget.any (fun value => decide (value ≤ elapsed t.waitStartedAt t.classifiedAt)) then
    .supervisionDeadline
  else .completed

/-- The phase in which a wait of the given kind ends. -/
def waitPhase : RestartWaitKind → SupervisionPhase
  | .circuitCooldown => .cooldown
  | .halfLifeLogisticBackoff => .backoff

/-- The evidence kept when the budget cut the wait. -/
def waitEvidence (r : Run) (origin : Option ℕ) (t : Turn) (kind : RestartWaitKind)
    (completion : WaitCompletion) : Except Error (Option SupervisionDeadlineEvidence) :=
  if completion = .supervisionDeadline then
    outsideDeadlineEvidence r origin t.evidenceAt (waitPhase kind)
  else .ok none

/-- What the controller is told about the wait. The budget is read again, after the wait was
classified and measured. -/
def waitResult (r : Run) (origin : Option ℕ) (t : Turn) (completion : WaitCompletion) :
    WaitResult where
  completion := completion
  actualElapsed := elapsed t.waitStartedAt t.actualAt
  supervisionDeadlineRemaining := supervisionRemaining r.policy origin t.remainingAt

/-- Wait for a restart, and let the controller decide about the launch. The wait itself is bounded
by the smaller of the scheduled duration and the budget, which only the operating system sees. -/
def waitForRestart (r : Run) (origin : Option ℕ) (t : Turn) (c : RestartCoordinator)
    (record : RestartDecisionRecord) (waitKind : RestartWaitKind) : Except Error Decided := do
  let interrupted ← t.waitResult.mapError waitError
  let completion := classifyWait (waitBudget r origin t) interrupted t
  let outsideDeadline ← waitEvidence r origin t waitKind completion
  let (after, c, record) ←
    (c.completeWait (waitResult r origin t completion) record).mapError controllerError
  match after with
  | .launch _ halfOpen =>
    return {
      stop := false
      nextKind := if waitKind = .circuitCooldown ∨ halfOpen then .halfOpen else .restart
      outsideDeadline, coordinator := some c, record }
  | .stop _ =>
    return { stop := true, nextKind := .restart, outsideDeadline, coordinator := some c, record }
  | .wait _ _ => .error (controllerError .invalidTransition)

/-- Decide what follows a completed attempt. -/
def decideRestart (r : Run) (s : LoopState) (origin : Option ℕ) (t : Turn)
    (a : AttemptExecution) : Except Error Decided :=
  let stopped : Decided :=
    { stop := true, nextKind := .restart, outsideDeadline := none,
      coordinator := s.coordinator, record := {} }
  let trigger :=
    if a.execution.launch.targetReleased then restartCondition a.execution.outcome else none
  match s.coordinator, trigger with
  | none, _ => .ok stopped
  | some _, none => .ok stopped
  | some c, some condition => do
    let (action, c, record) ←
      (c.onLimit r.arithmetic condition t.observedAt a.restartSafety {}).mapError controllerError
    match action with
    | .wait _ waitKind => waitForRestart r origin t c record waitKind
    | .stop _ => return { stopped with coordinator := some c, record }
    | .launch _ _ => return { stopped with coordinator := some c, record }

/-- The origin of the supervision deadline: the first authorization the loop sees. -/
def originAfter (s : LoopState) (t : Turn) (a : AttemptExecution) : Option ℕ :=
  s.supervisionOriginOffset.or
    (a.execution.authorizationOffset.map fun offset => t.attemptStarted + offset)

/-- The record of an attempt that returned a result under the selected backend. -/
def completedRecord (s : LoopState) (t : Turn) (a : AttemptExecution) (number : ℕ)
    (decision : RestartDecisionRecord) : AttemptRecord where
  privateExecution := a.execution.privateExecution
  runtime := a.execution.runtime
  policyEnforcement := a.execution.policyEnforcement
  number := number
  kind := s.kind
  phase := .completed
  targetPid := a.execution.childPid.map PNat.val
  startedOffsetMs := some (millis t.attemptStarted)
  authorizedOffsetMs := authorizedOffsetMs t a
  terminalOffsetMs := some (millis (t.attemptStarted + a.execution.duration))
  finishedOffsetMs := millis t.finishedAt
  outcome := some a.execution.outcome
  error := none
  restartDecision := decision
  launch := a.launch
  restartSafety := a.restartSafety
  boundaryDetail := a.execution.boundaryDetail

/-- The terminal of a run that stops after a completed attempt. -/
def stopTerminal (number : ℕ) (outcome : RunOutcome) : Option SupervisionDeadlineEvidence →
    SupervisionTerminal
  | none => .attemptOutcome number outcome
  | some evidence => .deadlineOutsideAttempt evidence

/-- The attempt returned a result under the selected backend: record it, then stop or go on. -/
def completedAttempt (observed : BackendCapabilityReport)
    (a : AttemptExecution) : Except Error (LoopState ⊕ Ending) := do
  let targetsAuthorized ← authorizedAfter s a.execution.launch.targetReleased
  let number ← nextNumber s
  let decided ← decideRestart r s (originAfter s t a) t a
  let (history, aggregates) ←
    (AttemptHistory.append s.history (completedRecord s t a number decided.record)
      s.aggregates).mapError modelError
  let s' : LoopState :=
    { history, aggregates, targetsAuthorized
      kind := decided.nextKind
      coordinator := decided.coordinator
      backend := some observed
      supervisionOriginOffset := originAfter s t a }
  if decided.stop then
    return .inr (.candidate
      { backend := observed
        terminal := stopTerminal number a.execution.outcome decided.outsideDeadline
        attempts := history
        aggregates := aggregates
        restart := s'.summary
        deadline := decided.outsideDeadline
        durationMs := millis t.endedAt
        targetsAuthorized := targetsAuthorized })
  else return .inl s'

/-- The selected backend and the one observed, when they differ. -/
def drift (r : Run) (s : LoopState) (observed : BackendCapabilityReport) :
    Option BackendCapabilityReport :=
  s.backend.filter fun selected =>
    backendSelectionDriftFields selected observed r.policy.metric != []

def observedBackend (r : Run) (a : AttemptExecution) : BackendCapabilityReport :=
  capabilitiesFor r.platform a.execution.backend r.policy.boundary

/-- One turn, up to the construction of the execution. -/
def turnResult : Except Error (LoopState ⊕ Ending) :=
  if expiredAtHead r s t then do
    let evidence ← outsideDeadlineEvidence r s.supervisionOriginOffset t.attemptStarted .backoff
    return .inr (endOutsideAttempt s evidence t.endedAt)
  else
    match t.result with
    | .error e => return .inr (← failedAttempt r s t e)
    | .ok a =>
      let observed := observedBackend r a
      match drift r s observed with
      | some selected => return .inr (← finishBackendSelectionDrift r s t selected observed a)
      | none => completedAttempt r s t observed a

/-- What a supervision returns: an execution, an error, or the message of a panic. -/
inductive Outcome
  | execution (e : SupervisionExecution)
  | error (e : Error)
  | panicked (message : String)

/-- Assemble the execution a run ends with. -/
def conclude : Ending → Outcome
  | .panicked message => .panicked message
  | .candidate c =>
    match SupervisionExecution.new c with
    | .ok e => .execution e
    | .error e => .error (modelError e)

/-- **One turn of the supervision loop.** -/
def step : Flow LoopState Outcome :=
  match turnResult r s t with
  | .error e => .done (.error e)
  | .ok (.inl s') => .again s'
  | .ok (.inr ending) => .done (conclude ending)

/-! ## Entering the loop -/

/-- A declared zero supervision budget. -/
def zeroBudget (policy : Policy) : Bool :=
  policy.deadline.any fun d => d.scope == .supervision && d.duration == 0

/-- Evidence of a zero budget, observed before the first attempt. -/
def preAttemptEvidence (r : Run) (observed : ℕ) : Except Error SupervisionDeadlineEvidence :=
  match DeadlineEvidence.new 0 .supervision "supervision-pre-attempt" 0 (millis observed)
      (millis r.policy.limitGrace) 0 none none with
  | some evidence => .ok ⟨evidence, .attemptSetup⟩
  | none =>
    .error
      { category := .monitor
        code := "MCSUPERVISION-DEADLINE-EVIDENCE"
        message := "pre-attempt supervision deadline evidence is inconsistent" }

def initialState (r : Run) (coordinator : Option RestartCoordinator) : LoopState where
  history := {}
  aggregates := {}
  targetsAuthorized := 0
  kind := .initial
  coordinator := coordinator
  backend := r.resolvedBackend
  supervisionOriginOffset := r.macosRunOriginNs.map fun _ => 0

def startCoordinator (r : Run) : Except Error (Option RestartCoordinator) :=
  match r.restart with
  | .never => .ok none
  | .onLimits settings => do
    let c ← (RestartCoordinator.new r.arithmetic settings).mapError controllerError
    return some c

/-- Everything before the loop: the loop is entered unless the configuration is refused or the
supervision budget is zero; the reading `observed` is made in that last case. -/
def start (r : Run) (observed : ℕ) : Flow LoopState Outcome :=
  match macosWorkExpiresNs r, startCoordinator r with
  | .error e, _ => .done (.error e)
  | .ok _, .error e => .done (.error e)
  | .ok _, .ok coordinator =>
    let s := initialState r coordinator
    if zeroBudget r.policy then
      match preAttemptEvidence r observed with
      | .error e => .done (.error e)
      | .ok evidence => .done (conclude (endOutsideAttempt s (some evidence) observed))
    else .again s

/-- `supervise_with_origin` on a list of turns: `none` when they do not reach the end. -/
def superviseWithOrigin (r : Run) (observed : ℕ) (turns : List Turn) : Option Outcome :=
  match start r observed with
  | .done o => some o
  | .again s =>
    match Loop.run (step r) s turns with
    | .again _ => none
    | .done o => some o

/-- **What a supervision returns** is what it ends with before the loop, or what the turn gives that
leaves the loop in a state that the turns before it reach. -/
theorem superviseWithOrigin_eq_some {r : Run} {observed : ℕ} {turns : List Turn} {o : Outcome} :
    superviseWithOrigin r observed turns = some o ↔ start r observed = .done o ∨
      ∃ s₀ before t after s, start r observed = .again s₀ ∧ turns = before ++ t :: after ∧
        Loop.Reaches (step r) s₀ before s ∧ step r s t = .done o := by
  unfold superviseWithOrigin
  cases start r observed with
  | done o' => simp
  | again s₀ =>
    have hrun : (match Loop.run (step r) s₀ turns with
        | .again _ => none
        | .done o => some o) = some o ↔ Loop.run (step r) s₀ turns = .done o := by
      cases Loop.run (step r) s₀ turns with
      | again s | done o' => simp
    dsimp only
    rw [hrun, Loop.run_eq_done]
    simp

end MemCordon.Supervisor
