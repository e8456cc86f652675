import MemCordon.Core.Capability
import MemCordon.Core.Runtime

/-!
# Errors and rejection evidence

The error a backend returns for an attempt that could not be set up or monitored, the provider's
rejection it may carry, and the record the supervision keeps of it. Native diagnostics that are
checked by code of their own (helper startup, Windows receipts, loader qualification, provider
projections) appear with the verdict of that check and the fields read beside it.
-/

namespace MemCordon

inductive BoundarySetupPhase
  | requestValidation
  | providerConnection
  | providerIdentity
  | callerEnvelopeCapture
  | launcherServiceAuthentication
  | callerMountNamespaceAdoption
  | callerCapabilityEnvelope
  | credentialTransitionPolicy
  | boundaryCreation
  | guardianStartup
  | targetCreation
  | assignmentVerification
  | resourceVerification
  | authorization
  | monitoring
  | retirement
  deriving DecidableEq

def boundarySetupPhaseName : BoundarySetupPhase → String
  | .requestValidation => "request-validation"
  | .providerConnection => "provider-connection"
  | .providerIdentity => "provider-identity"
  | .callerEnvelopeCapture => "caller-envelope-capture"
  | .launcherServiceAuthentication => "launcher-service-authentication"
  | .callerMountNamespaceAdoption => "caller-mount-namespace-adoption"
  | .callerCapabilityEnvelope => "caller-capability-envelope"
  | .credentialTransitionPolicy => "credential-transition-policy"
  | .boundaryCreation => "boundary-creation"
  | .guardianStartup => "guardian-startup"
  | .targetCreation => "target-creation"
  | .assignmentVerification => "assignment-verification"
  | .resourceVerification => "resource-verification"
  | .authorization => "authorization"
  | .monitoring => "monitoring"
  | .retirement => "retirement"

structure BoundarySetupFailure where
  requested : BoundaryRequirement
  mechanism : Option String
  phase : BoundarySetupPhase
  (targetCreated targetReleased cleanupAttempted : Bool)
  restartSafety : RestartSafetyProof
  deriving DecidableEq

/-- The facts of a Windows terminal receipt that a rejection is checked against. -/
structure WindowsTerminalReceiptV1 where
  schemaVersion : ℕ
  /-- The native release fact, when the receipt's detail is the Windows job one. -/
  nativeTargetReleased : Option Bool
  restartSafety : RestartSafetyProof
  inventoryBounded : Bool
  deriving DecidableEq

structure ProviderRejectionEvidence where
  /-- The approved and the actual plan digest of a workload admission rejection. -/
  workloadAdmission : Option (String × String) := none
  /-- The verdict of the provider failure projection's own check. -/
  providerFailureConsistent : Option Bool := none
  schemaVersion : ℕ
  code : String
  phase : BoundarySetupPhase
  detail : String
  osCode : Option ℤ := none
  loaderQualificationConsistent : Option Bool := none
  (targetCreated targetReleased cleanupAttempted : Bool)
  restartSafety : RestartSafetyProof
  terminalAckRequired : Bool := false
  terminalReceipt : Option WindowsTerminalReceiptV1 := none
  deriving DecidableEq

def providerRejectionMaxDetailBytes : ℕ := 8 * 1024

/-- A character a stable code may contain. -/
def isCodeChar (c : Char) : Bool := c.isUpper || c.isDigit || c == '-'

namespace ProviderRejectionEvidence

def receiptIsConsistent (r : ProviderRejectionEvidence) (terminal : WindowsTerminalReceiptV1) :
    Bool :=
  r.terminalAckRequired && r.targetCreated &&
    terminal.nativeTargetReleased == some r.targetReleased && r.cleanupAttempted &&
    terminal.schemaVersion == 1 && terminal.restartSafety == r.restartSafety &&
    terminal.inventoryBounded

def isConsistent (r : ProviderRejectionEvidence) : Bool :=
  r.schemaVersion == 1 && r.workloadAdmission.all (fun plan => !r.targetReleased && plan.1 ==
    plan.2) && r.providerFailureConsistent.all id && r.code != "" &&
    decide (r.code.utf8ByteSize ≤ 128) && r.code.toList.all isCodeChar && r.detail != "" &&
    decide (r.detail.utf8ByteSize ≤ providerRejectionMaxDetailBytes) &&
    !r.detail.toList.contains '\x00' && r.loaderQualificationConsistent.all id &&
    (!r.targetReleased || r.targetCreated) && decide (r.restartSafety.errors.length ≤ 16) &&
    r.restartSafety.errors.all
      (fun e => decide (e.utf8ByteSize ≤ 1024) && !e.toList.contains '\x00') &&
    (r.cleanupAttempted || r.restartSafety == {}) &&
    (!r.restartSafety.sealedBoundaryRetired || r.restartSafety.isSafeFor .sealed) &&
    (!r.terminalAckRequired ||
      (r.cleanupAttempted && r.restartSafety.isSafeFor .sealed)) &&
    r.terminalReceipt.all r.receiptIsConsistent

end ProviderRejectionEvidence

inductive InitialSpawnFailure
  | notFound
  | notExecutable
  deriving DecidableEq

def InitialSpawnFailure.exitCode : InitialSpawnFailure → ℤ
  | notFound => 127
  | notExecutable => 126

inductive NativeStartupCleanupStateV1
  | complete
  | incomplete
  | unknown
  deriving DecidableEq

/-- The helper-startup diagnostic: the verdict of its own check and the observations an error is
compared with. -/
structure NativeStartupDiagnosticV1 where
  consistent : Bool
  releaseSent : Bool
  cleanupState : NativeStartupCleanupStateV1
  nativeErrno : Option ℤ
  deriving DecidableEq

def NativeStartupDiagnosticV1.matchesErrorObservations (d : NativeStartupDiagnosticV1)
    (targetReleased workloadMayBeAlive : Bool) (osCode : Option ℤ) : Bool :=
  d.consistent && d.releaseSent ==
    targetReleased && (d.cleanupState != .complete || !workloadMayBeAlive) &&
    match d.nativeErrno, osCode with
    | some observed, some primary => observed == primary
    | _, _ => true

inductive WindowsTerminalPayloadV2
  | execution (childPid authorizationOffsetMillis : ℕ) (boundaryDetail : BoundaryMechanismEvidence)
  | recoveredClosure (resumeAttempted : Bool)

/-- A Windows provider rejection: the verdict of its own check and its terminal receipt. -/
structure WindowsProviderRejectionV2 where
  consistent : Bool
  terminalReceipt : Option WindowsTerminalPayloadV2

inductive ErrorCategory
  | usage
  | unsupported
  | setup
  | spawn
  | monitor
  | wait
  | termination
  | cleanup
  | report
  deriving DecidableEq

/-- The category as records spell it. -/
def ErrorCategory.name : ErrorCategory → String
  | usage => "usage"
  | unsupported => "unsupported"
  | setup => "setup"
  | spawn => "spawn"
  | monitor => "monitor"
  | wait => "wait"
  | termination => "termination"
  | cleanup => "cleanup"
  | report => "report"

structure Error where
  category : ErrorCategory
  code : String
  message : String
  /-- The diagnostics an operational failure is built from, when there are any: the verdict of its
  validation. -/
  operationalFailure : Option Bool := none
  runtime : Option RuntimeEvidenceV1 := none
  nativeStartup : Option NativeStartupDiagnosticV1 := none
  policyEnforcement : Option RuntimePolicyEnforcement := none
  osCode : Option ℤ := none
  targetPid : Option ℕ := none
  launchPhase : Option String := none
  targetReleased : Bool := false
  authorizationOffset : Option ℕ := none
  cgroupVerifiedBeforeRelease : Bool := false
  guardianReadyBeforeRelease : Bool := false
  workloadMayBeAlive : Bool := false
  cleanup : CleanupSummary := {}
  restartSafety : Option RestartSafetyProof := none
  initialSpawnFailure : Option InitialSpawnFailure := none
  boundarySetupFailure : Option BoundarySetupFailure := none
  providerRejection : Option ProviderRejectionEvidence := none
  windowsProviderRejectionV2 : Option WindowsProviderRejectionV2 := none

end MemCordon
