import MemCordon.Core.Failure

/-!
# Attempt records

The record the supervision keeps of one attempt, and of the error that ended it. Both carry a
consistency check that is run when an execution is assembled and when a report is parsed.

The check of a record is the conjunction of named parts that different layers of the model answer
for: the runtime evidence (`AttemptRecord.runtimeAgrees`), the order of the offsets, the shape of
the record and the boundary evidence.
-/

namespace MemCordon

inductive SupervisionPhase
  | initialSetup
  | attemptSetup
  | activeAttempt
  | limitGrace
  | cleanup
  | backoff
  | cooldown
  | completed
  deriving DecidableEq

inductive AttemptKind
  | initial
  | restart
  | halfOpen
  deriving DecidableEq

inductive AttemptPhase
  | setup
  | authorized
  | running
  | cleanup
  | completed
  | failed
  deriving DecidableEq

structure SupervisionErrorRecord where
  nativeStartup : Option NativeStartupDiagnosticV1 := none
  (category code message : String)
  osCode : Option ℤ := none
  attemptNumber : Option ℕ
  supervisionPhase : SupervisionPhase
  launchPhase : Option String
  targetReleased : Bool
  workloadMayBeAlive : Bool
  initialSpawnFailure : Option InitialSpawnFailure := none
  providerRejection : Option ProviderRejectionEvidence := none
  backendSelectionDrift : Option BackendSelectionDriftEvidence := none
  deriving DecidableEq

namespace SupervisionErrorRecord

variable (e : SupervisionErrorRecord)

/-- The wrapper's exit status for an error. -/
def terminalStatus : ℤ :=
  match e.initialSpawnFailure with
  | some failure => failure.exitCode
  | none => 125

/-- The error is the wrapper around a provider's rejection. -/
def wrapperIsConsistent (r : ProviderRejectionEvidence) : Bool :=
  e.code == "MCSEALED-PROVIDER-REJECTION" && e.launchPhase == some (boundarySetupPhaseName r.phase)

/-- The error is a spawn failure that the provider rejected. -/
def spawnIsConsistent (r : ProviderRejectionEvidence) : Bool :=
  e.category == "spawn" && e.supervisionPhase == .attemptSetup && e.attemptNumber.isSome &&
    e.launchPhase == some "target-spawn-failed" && r.phase == .targetCreation &&
    ((r.targetCreated && r.targetReleased && r.cleanupAttempted) ||
      (!r.targetCreated && !r.targetReleased)) &&
    ((e.code == "MCSPAWN-NOT-FOUND" && e.initialSpawnFailure == some .notFound) ||
      (e.code == "MCSPAWN-NOT-EXECUTABLE" && e.initialSpawnFailure == some .notExecutable) ||
      (e.code == "MCSPAWN-FAILED" && e.initialSpawnFailure == none)) &&
    e.code == r.code

def initialSpawnIsConsistent : Bool :=
  e.initialSpawnFailure.isNone ||
    (e.category == "spawn" && e.supervisionPhase == .attemptSetup &&
      e.launchPhase == some "target-spawn-failed" && e.attemptNumber.isSome)

def providerRejectionIsConsistent : Bool :=
  e.providerRejection.all fun r =>
    (e.wrapperIsConsistent r || e.spawnIsConsistent r) && e.targetReleased == r.targetReleased &&
      e.workloadMayBeAlive == (r.targetCreated && r.restartSafety.workloadEmpty != some true) &&
      r.isConsistent

def backendDriftIsConsistent : Bool :=
  match e.backendSelectionDrift with
  | some drift =>
    e.category == "monitor" && e.code == "MCBACKEND-SELECTION-DRIFT" &&
      e.supervisionPhase == .activeAttempt && e.launchPhase == some "runtime-backend-evidence" &&
      e.attemptNumber.isSome && e.initialSpawnFailure.isNone && e.providerRejection.isNone &&
      drift.isConsistent
  | none => e.code != "MCBACKEND-SELECTION-DRIFT"

def provenanceIsConsistent : Bool :=
  e.initialSpawnIsConsistent && e.providerRejectionIsConsistent && e.backendDriftIsConsistent &&
    e.nativeStartup.all fun d =>
      d.matchesErrorObservations e.targetReleased e.workloadMayBeAlive e.osCode

end SupervisionErrorRecord

structure AttemptRecord where
  /-- The verdict on the operational failure diagnostics, when there are any. -/
  operationalFailure : Option Bool := none
  privateExecution : Option PrivateRuntimeExecution := none
  runtime : Option RuntimeEvidenceV1
  policyEnforcement : RuntimePolicyEnforcement
  number : ℕ
  kind : AttemptKind
  phase : AttemptPhase
  (targetPid startedOffsetMs authorizedOffsetMs terminalOffsetMs : Option ℕ)
  finishedOffsetMs : ℕ
  outcome : Option RunOutcome
  error : Option SupervisionErrorRecord
  restartDecision : RestartDecisionRecord
  launch : LaunchEvidence
  restartSafety : RestartSafetyProof
  boundaryDetail : BoundaryMechanismEvidence

namespace AttemptRecord

/-- The record has no outcome, or one with a failing status. -/
def failingStatus (r : AttemptRecord) : Bool := r.outcome.all (fun o => o.outcomeStatus != 0)

/-- The runtime evidence agrees with the release, the pid and the outcome of the record. -/
def runtimeAgrees (r : AttemptRecord) (runtime : RuntimeEvidenceV1) : Bool :=
  runtime.isConsistent && (runtime.retirement.isComplete || r.failingStatus) &&
    runtime.targetPid.map PNat.val == r.targetPid &&
    match runtime.release with
    | .issued _ execConfirmed =>
      r.launch.targetReleased && r.authorizedOffsetMs.isSome &&
        r.launch.containmentVerifiedBeforeAuthorization &&
        r.launch.guardianStartedBeforeAuthorization && (execConfirmed || r.failingStatus)
    | .notIssued =>
      !r.launch.targetReleased && r.authorizedOffsetMs.isNone && r.failingStatus
    | .unknown =>
      !r.launch.targetReleased && r.authorizedOffsetMs.isNone && !r.restartSafety.isSafe

/-- Number, outcome or error, and phase fit together. -/
def shapeAgrees (r : AttemptRecord) : Bool :=
  decide (0 < r.number) && r.outcome.isSome != r.error.isSome &&
    r.error.all (fun e => e.attemptNumber == some r.number) &&
    ((r.outcome.isSome && r.phase == .completed) || (r.error.isSome && r.phase == .failed))

def offsetsAgree (r : AttemptRecord) : Bool :=
  r.startedOffsetMs.all (fun start => decide (start ≤ r.finishedOffsetMs)) &&
    r.authorizedOffsetMs.all (fun authorized =>
      r.startedOffsetMs.any (fun start => decide (start ≤ authorized)) &&
        decide (authorized ≤ r.finishedOffsetMs)) &&
    r.terminalOffsetMs.all (fun terminal =>
      r.startedOffsetMs.any (fun start => decide (start ≤ terminal)) &&
        decide (terminal ≤ r.finishedOffsetMs)) &&
    match r.authorizedOffsetMs, r.terminalOffsetMs with
    | some authorized, some terminal => decide (authorized ≤ terminal)
    | _, _ => true

def isConsistent (r : AttemptRecord) : Bool :=
  r.operationalFailure.all (fun valid => valid && r.error.isSome) &&
    r.policyEnforcement.isConsistent && r.targetPid.all (fun pid => decide (0 < pid)) &&
    r.runtime.all r.runtimeAgrees && r.shapeAgrees && r.offsetsAgree &&
    boundaryEvidenceIsConsistent r.launch r.restartSafety r.boundaryDetail

/-- The release of the target is unknown to the runtime evidence. -/
def authorizationUnknown (r : AttemptRecord) : Bool :=
  r.runtime.any fun runtime => runtime.release == .unknown

/-- The record breaks the sealed obligations an execution checks over all its records, under a
backend of the given class. -/
def breaksSealedProof (r : AttemptRecord) (backend : BoundaryClass) : Bool :=
  (r.launch.boundaryEffective == .sealed && backend != .sealed) ||
    (r.launch.targetReleased && r.launch.boundaryRequested == .sealed &&
      (r.launch.boundaryEffective != .sealed || !r.launch.boundaryAssignmentVerified ||
        !r.launch.boundaryReconfigurationDenied || !r.launch.inheritedResourcesRestricted ||
        !r.launch.frontendLossCleanupAuthorityVerified)) ||
    (r.launch.boundaryRequested == .sealed && r.restartSafety.isSafe &&
      !r.restartSafety.sealedBoundaryRetired)

end AttemptRecord

end MemCordon
