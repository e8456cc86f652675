import MemCordon.Platform.SealedClient

/-!
# The errors of a sealed attempt

What the sealed client makes of a launch that the provider rejected (`rejectionError`), and of a
terminal receipt whose exec failed after the release (`terminalSpawnError`). A receipt is a value
that `parse_terminal` accepted, and a rejection one that `parse_rejection` accepted; both carry what
was checked as fields.
-/

namespace MemCordon.SealedClient

open Clock Counter Fallible SealedLaunch
open Supervisor (AttemptContext)

/-! ## What the provider returns -/

def mechanism : String := "linux-pid-namespace-cgroup-v2"

/-- `classify_terminal_exec_error`, on the native error numbers of Linux. -/
def classifyTerminalExecError (osCode : ℕ) : ExecFailureClass :=
  -- ENOENT and ENOTDIR, then EACCES, EPERM, ENOEXEC and EISDIR
  if osCode = 2 ∨ osCode = 20 then .notFound
  else if osCode = 13 ∨ osCode = 1 ∨ osCode = 8 ∨ osCode = 21 then .notExecutable
  else .other

structure TerminalReceipt extends TerminalFacts where
  policyEnforcement : RuntimePolicyEnforcement
  spawnErrorReported : Bool
  targetPid : ℕ
  authorizationOffsetMillis : ℕ
  (assignmentVerified namespacesVerified targetInitialCredentialsVerified : Bool)
  (initialProviderCapabilitiesAbsent targetNoNewPrivsMatched : Bool)
  (targetCapabilityBoundingSetMatched targetMountContextDerivedFromCaller : Bool)
  (boundaryIndependentOfCredentials descriptorsVerified writableAncestorCgroupDenied : Bool)
  (parentNamespaceHandlesDenied recursiveProviderRequestDenied guardianReady : Bool)
  (frontendLossAuthority cgroupKill boundaryRetired : Bool)
  enforcement_consistent : policyEnforcement.isConsistent = true
  spawnError_reported : spawnErrorReported = true
  revoked_iff : policyRevoked = childStatus.isNone
  exec_classified : ∀ failure osCode, execStatus = .failed failure osCode →
    0 < osCode ∧ osCode < 2 ^ 31 ∧ classifyTerminalExecError osCode = failure
  revoked_retired : policyRevoked = true → deadlineExceeded = false ∧ cgroupEmpty = true ∧
    initReaped = true ∧ guardianReaped = true ∧ boundaryRetired = true

inductive LaunchError
  | transport (detail : String)
  | rejected (rejection : ProviderRejectionEvidence) (consistent : rejection.isConsistent = true)

/-! ## Errors -/

def withProviderRejection (e : Error) (x : ProviderRejectionEvidence) : Error :=
  { e with
    policyEnforcement :=
      match x.workloadAdmission with
      | some plan =>
        if x.isConsistent then some (.notAuthorized plan.1 plan.2) else e.policyEnforcement
      | none => e.policyEnforcement
    osCode := x.osCode
    targetReleased := x.targetReleased
    restartSafety := some x.restartSafety
    providerRejection := some x }

def verifiedBefore : BoundarySetupPhase → Bool
  | .resourceVerification | .authorization | .monitoring | .retirement => true
  | _ => false

def rejectionError (policy : Policy) (admissionMatches : Bool) (x : ProviderRejectionEvidence) :
    Error :=
  if x.workloadAdmission.isSome && (!policy.hasWorkloadContract || !admissionMatches) then
    { category := .monitor
      code := "MCSEALED-WORKLOAD-REJECTION"
      message := "provider admission rejection belongs to another request" }
  else
    { withProviderRejection
        { category := .setup
          code := "MCSEALED-PROVIDER-REJECTION"
          message := "provider rejected launch [" ++ x.code ++ "]: " ++ x.detail
          boundarySetupFailure := some
            { requested := .sealed
              mechanism := some mechanism
              phase := x.phase
              targetCreated := x.targetCreated
              targetReleased := x.targetReleased
              cleanupAttempted := x.cleanupAttempted
              restartSafety := x.restartSafety } } x with
      launchPhase := some (boundarySetupPhaseName x.phase)
      workloadMayBeAlive := x.targetCreated && x.restartSafety.workloadEmpty != some true
      cgroupVerifiedBeforeRelease := verifiedBefore x.phase
      guardianReadyBeforeRelease := verifiedBefore x.phase }

def launchError (policy : Policy) (admissionMatches : Bool) : LaunchError → Error
  | .transport detail =>
    { category := .setup, code := "MCSEALED-PROVIDER-TRANSACTION", message := detail }
  | .rejected x _ => rejectionError policy admissionMatches x

namespace TerminalReceipt

def cleanup (terminal : TerminalReceipt) : CleanupSummary :=
  { directChildReaped := terminal.initReaped
    workloadEmpty := some terminal.cgroupEmpty }

/-- `terminal_restart_safety`. -/
def restartSafety (terminal : TerminalReceipt) : RestartSafetyProof where
  directChildReaped := terminal.initReaped
  workloadEmpty := some terminal.cgroupEmpty
  helpersReaped := terminal.initReaped && terminal.guardianReaped
  containmentRemoved := terminal.boundaryRetired
  containmentIncapableOfLiveMembers := terminal.cgroupEmpty
  sealedBoundaryRetired := terminal.boundaryRetired

/-- The facts that an error reports as a boundary that was verified before the release. -/
def boundaryVerified (terminal : TerminalReceipt) : Bool :=
  terminal.assignmentVerified && terminal.namespacesVerified &&
    terminal.targetInitialCredentialsVerified && terminal.initialProviderCapabilitiesAbsent &&
    terminal.targetNoNewPrivsMatched && terminal.targetCapabilityBoundingSetMatched &&
    terminal.targetMountContextDerivedFromCaller && terminal.descriptorsVerified &&
    terminal.writableAncestorCgroupDenied

/-- The setup failure of an attempt that failed after its release. -/
def setupFailure (terminal : TerminalReceipt) (phase : BoundarySetupPhase) :
    BoundarySetupFailure where
  requested := .sealed
  mechanism := some mechanism
  phase := phase
  targetCreated := true
  targetReleased := true
  cleanupAttempted := true
  restartSafety := terminal.restartSafety

end TerminalReceipt

def execFailureCode : ExecFailureClass → String
  | .notFound => "MCSPAWN-NOT-FOUND"
  | .notExecutable => "MCSPAWN-NOT-EXECUTABLE"
  | .other => "MCSPAWN-FAILED"

/-- The classification of an exec failure for the exit status of the wrapper. -/
def execSpawnFailure : ExecFailureClass → Option InitialSpawnFailure
  | .notFound => some .notFound
  | .notExecutable => some .notExecutable
  | .other => none

def execFailureDetail (osCode : ℕ) : String :=
  "sealed provider reported a verified target exec failure with native OS code " ++ toString osCode

/-- The rejection that `terminal_spawn_error` makes of an exec failure. -/
def spawnRejection (terminal : TerminalReceipt) (failure : ExecFailureClass) (osCode : ℕ) :
    ProviderRejectionEvidence where
  schemaVersion := 1
  code := execFailureCode failure
  phase := .targetCreation
  detail := execFailureDetail osCode
  osCode := some osCode
  targetCreated := true
  targetReleased := true
  cleanupAttempted := true
  restartSafety := terminal.restartSafety

def terminalSpawnError (terminal : TerminalReceipt) (failure : ExecFailureClass)
    (osCode : ℕ) : Error :=
  { withProviderRejection
      { category := .spawn
        code := execFailureCode failure
        message := execFailureDetail osCode
        boundarySetupFailure := some (terminal.setupFailure .targetCreation)
        initialSpawnFailure := execSpawnFailure failure }
      (spawnRejection terminal failure osCode) with
    osCode := some osCode
    targetPid := some terminal.targetPid
    launchPhase := some "target-spawn-failed"
    targetReleased := true
    authorizationOffset := some (ofMillis terminal.authorizationOffsetMillis)
    cgroupVerifiedBeforeRelease := terminal.boundaryVerified
    guardianReadyBeforeRelease := terminal.guardianReady
    workloadMayBeAlive := !terminal.restartSafety.isSafeFor .sealed
    cleanup := terminal.cleanup
    restartSafety := some terminal.restartSafety }

end MemCordon.SealedClient
