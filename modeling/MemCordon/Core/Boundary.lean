import MemCordon.Core.Policy
import MemCordon.Core.PrivateRuntime

/-!
# Boundary and retirement evidence

The generic launch facts of an attempt (`LaunchEvidence`), the proof that its resources are gone
(`RestartSafetyProof`) and the native evidence behind them (`BoundaryMechanismEvidence`), with the
validator every backend result and every parsed report goes through
(`boundaryEvidenceIsConsistent`).

Every variant that reports a completed sealed execution comes with the proof that its boundary was
retired, whenever its proof is safe at all; the setup-failure variant is the one exception
(`retired_of_consistent`).
-/

namespace MemCordon

/-- The class of boundary a backend offers or an attempt obtained. -/
inductive BoundaryClass
  | standard
  | sealed
  | unavailable
  deriving DecidableEq, Inhabited

/-- Facts about the release of an attempt's target. -/
structure LaunchEvidence where
  mechanism : String := ""
  targetReleased : Bool := false
  containmentVerifiedBeforeAuthorization : Bool := false
  guardianStartedBeforeAuthorization : Bool := false
  targetSpawnErrorReported : Bool := false
  boundaryRequested : BoundaryRequirement := .standard
  boundaryEffective : BoundaryClass := .standard
  boundaryAssignmentVerified : Bool := false
  boundaryReconfigurationDenied : Bool := false
  inheritedResourcesRestricted : Bool := false
  frontendLossCleanupAuthorityVerified : Bool := false
  deriving DecidableEq

/-- What is known about the resources an attempt leaves behind. -/
structure RestartSafetyProof where
  directChildReaped : Bool := false
  workloadEmpty : Option Bool := none
  helpersReaped : Bool := false
  containmentRemoved : Bool := false
  containmentIncapableOfLiveMembers : Bool := false
  sealedBoundaryRetired : Bool := false
  errors : List String := []
  deriving DecidableEq

namespace RestartSafetyProof

/-- The proof allows another attempt under the given boundary. -/
def isSafeFor (p : RestartSafetyProof) (boundary : BoundaryRequirement) : Bool :=
  p.directChildReaped && (p.workloadEmpty == some true) && p.helpersReaped &&
    (p.containmentRemoved || p.containmentIncapableOfLiveMembers) &&
    ((boundary != .sealed) || p.sealedBoundaryRetired) && p.errors.isEmpty

/-- The check the restart controller makes: safe for a standard attempt. -/
def isSafe (p : RestartSafetyProof) : Bool := p.isSafeFor .standard

/-- The sealed proof is the standard proof and the retirement of the sealed boundary. -/
theorem isSafeFor_sealed (p : RestartSafetyProof) :
    p.isSafeFor .sealed = (p.isSafe && p.sealedBoundaryRetired) := by
  unfold isSafe isSafeFor
  cases p.sealedBoundaryRetired <;> cases p.errors.isEmpty <;> simp

/-- A standard proof is safe for every boundary but a sealed one that was not retired. -/
theorem isSafeFor_of_isSafe {p : RestartSafetyProof} {boundary : BoundaryRequirement}
    (h : p.isSafe = true) (hs : boundary = .sealed → p.sealedBoundaryRetired = true) :
    p.isSafeFor boundary = true := by
  cases boundary with
  | standard => exact h
  | sealed => rw [isSafeFor_sealed, h, hs rfl, Bool.and_self]

end RestartSafetyProof

/-- How a sealed backend treats credential transitions. -/
inductive CredentialTransitionDisposition
  | preserveCallerEnvelope
  deriving DecidableEq

structure LinuxSealedEvidenceV2 where
  schemaVersion : ℕ
  (providerIdentity controlServiceIdentity launcherServiceIdentity cgroupIdentityDigest : String)
  (cgroupCreated cgroupOwnedByProvider memoryConfigurationVerified initCreatedIntoCgroup : Bool)
  (pidNamespaceCreated mountNamespaceCreated cgroupNamespaceCreated targetPidfdVerified : Bool)
  (targetCgroupMembershipVerified targetPidNamespaceVerified
    targetInitialCredentialsVerified : Bool)
  (initialProviderCapabilitiesAbsent callerNoNewPrivsReproduced : Bool)
  (callerCapabilityBoundingSetReproduced callerMountContextReproduced : Bool)
  credentialTransitionDisposition : CredentialTransitionDisposition
  (boundaryIndependentOfCredentials inheritedDescriptorsVerified
    writableAncestorCgroupDenied : Bool)
  (parentNamespaceHandlesDenied recursiveProviderRequestDenied guardianReady targetReleased : Bool)
  (cgroupKillInvoked cgroupEmptyVerified namespaceInitReaped guardianReaped cgroupRemoved : Bool)

structure WindowsSealedEvidenceV2 where
  schemaVersion : ℕ
  serviceIdentity : String
  callerTokenAuthenticated : Bool
  initialTargetTokenMatchesCaller : Bool
  credentialTransitionDisposition : CredentialTransitionDisposition
  (jobMembershipIndependentOfToken jobCreated jobLimitsVerified killOnCloseVerified : Bool)
  (breakawayDenied completionPortAssociated guardianReady targetCreatedSuspended : Bool)
  (jobListAppliedAtCreation handleListAppliedAtCreation targetJobMembershipVerified : Bool)
  (targetStillSuspendedDuringVerification inheritedHandlesVerified targetReleased : Bool)
  (terminateJobInvoked activeProcessesZero directTargetReaped relaysRetired guardianReaped : Bool)
  finalJobHandlesClosed : Bool
  /-- The verdict of the loader qualification's own check, when one is present. -/
  loaderQualificationConsistent : Option Bool

structure MacosSealedEvidence where
  schemaVersion : ℕ
  daemonIdentity : String
  systemExtensionIdentity : String
  (endpointSecurityEntitled requiredSubscriptionsActive eventSequenceComplete : Bool)
  (targetCorrelatedBeforeAuthorization targetCredentialsVerified
    inheritedDescriptorsVerified : Bool)
  (guardianReady targetReleased knownMembersTerminated reconciliationComplete : Bool)
  stableEmptyPasses : ℕ
  (directTargetReaped helpersReaped launchJobRetired : Bool)

/-- Native facts supporting a boundary claim. -/
inductive BoundaryMechanismEvidence
  | standard (backend : String)
  | setupFailure (providerMechanism : String) (requested : BoundaryRequirement)
  | linuxPidNamespaceCgroupV2 (native : LinuxSealedEvidenceV2)
  | linuxPrivateTcp4 (native : PrivateRuntimeExecution)
  | windowsJobObjectV2 (native : WindowsSealedEvidenceV2)
  | macosEndpointSecurityV1 (native : MacosSealedEvidence)

/-! ## The validator -/

/-- An ASCII hexadecimal digit of either case. -/
def isAsciiHexdigit (c : Char) : Bool :=
  c.isDigit || ('a' ≤ c && c ≤ 'f') || ('A' ≤ c && c ≤ 'F')

/-- The launch facts and the retirement proof every completed sealed execution has. -/
def sealedGenericEvidenceIsConsistent (launch : LaunchEvidence)
    (restartSafety : RestartSafetyProof) : Bool :=
  launch.boundaryRequested == .sealed && launch.boundaryEffective == .sealed &&
    launch.targetReleased && launch.containmentVerifiedBeforeAuthorization &&
    launch.guardianStartedBeforeAuthorization && launch.targetSpawnErrorReported &&
    launch.boundaryAssignmentVerified && launch.boundaryReconfigurationDenied &&
    launch.inheritedResourcesRestricted && launch.frontendLossCleanupAuthorityVerified &&
    restartSafety.isSafeFor .sealed

/-- The native facts of the Linux cgroup boundary, against the launch's release. -/
def LinuxSealedEvidenceV2.isConsistent (native : LinuxSealedEvidenceV2) (targetReleased : Bool) :
    Bool :=
  native.schemaVersion == 2 && native.providerIdentity == "memcordon-sealed-agent-v2" &&
    native.controlServiceIdentity == "memcordon-sealed-agent.service:v2" &&
    native.launcherServiceIdentity == "memcordon-sealed-launcher.service:v2" &&
    native.cgroupIdentityDigest.utf8ByteSize == 64 &&
    native.cgroupIdentityDigest.toList.all isAsciiHexdigit &&
    native.cgroupCreated && native.cgroupOwnedByProvider && native.memoryConfigurationVerified &&
    native.initCreatedIntoCgroup && native.pidNamespaceCreated && native.mountNamespaceCreated &&
    native.cgroupNamespaceCreated && native.targetPidfdVerified &&
    native.targetCgroupMembershipVerified && native.targetPidNamespaceVerified &&
    native.targetInitialCredentialsVerified && native.initialProviderCapabilitiesAbsent &&
    native.callerNoNewPrivsReproduced && native.callerCapabilityBoundingSetReproduced &&
    native.callerMountContextReproduced &&
    native.credentialTransitionDisposition == .preserveCallerEnvelope &&
    native.boundaryIndependentOfCredentials && native.inheritedDescriptorsVerified &&
    native.writableAncestorCgroupDenied && native.parentNamespaceHandlesDenied &&
    native.recursiveProviderRequestDenied && native.guardianReady &&
    native.targetReleased == targetReleased && native.cgroupKillInvoked &&
    native.cgroupEmptyVerified && native.namespaceInitReaped && native.guardianReaped &&
    native.cgroupRemoved

/-- The native facts of the Windows job boundary, against the launch's release. -/
def WindowsSealedEvidenceV2.isConsistent (native : WindowsSealedEvidenceV2)
    (targetReleased : Bool) : Bool :=
  native.schemaVersion == 2 && native.serviceIdentity ==
    "MemCordonSealedControl+MemCordonSealedLauncher:v1" &&
    native.callerTokenAuthenticated && native.initialTargetTokenMatchesCaller &&
    native.credentialTransitionDisposition == .preserveCallerEnvelope &&
    native.jobMembershipIndependentOfToken && native.jobCreated && native.jobLimitsVerified &&
    native.killOnCloseVerified && native.breakawayDenied && native.completionPortAssociated &&
    native.guardianReady && native.targetCreatedSuspended && native.jobListAppliedAtCreation &&
    native.handleListAppliedAtCreation && native.targetJobMembershipVerified &&
    native.targetStillSuspendedDuringVerification && native.inheritedHandlesVerified &&
    native.targetReleased == targetReleased && native.terminateJobInvoked &&
    native.activeProcessesZero && native.directTargetReaped && native.relaysRetired &&
    native.guardianReaped && native.finalJobHandlesClosed &&
    native.loaderQualificationConsistent.all id

/-- The native facts of the macOS boundary, against the launch's release. -/
def MacosSealedEvidence.isConsistent (native : MacosSealedEvidence) (targetReleased : Bool) :
    Bool :=
  native.schemaVersion == 1 && native.daemonIdentity != "" &&
    native.systemExtensionIdentity != "" && native.endpointSecurityEntitled &&
    native.requiredSubscriptionsActive && native.eventSequenceComplete &&
    native.targetCorrelatedBeforeAuthorization && native.targetCredentialsVerified &&
    native.inheritedDescriptorsVerified && native.guardianReady &&
    native.targetReleased == targetReleased && native.knownMembersTerminated &&
    native.reconciliationComplete && decide (2 ≤ native.stableEmptyPasses) &&
    native.directTargetReaped && native.helpersReaped && native.launchJobRetired

/-- Generic launch and retirement facts agree with the native evidence. -/
def boundaryEvidenceIsConsistent (launch : LaunchEvidence) (restartSafety : RestartSafetyProof) :
    BoundaryMechanismEvidence → Bool
  | .standard backend =>
    backend != "" && launch.mechanism != "" && launch.boundaryRequested == .standard &&
      launch.boundaryEffective == .standard && !restartSafety.sealedBoundaryRetired
  | .setupFailure providerMechanism requested =>
    providerMechanism != "" && launch.mechanism == providerMechanism && launch.boundaryRequested ==
      requested && (!restartSafety.sealedBoundaryRetired || restartSafety.isSafeFor .sealed) &&
      if launch.targetReleased then
        launch.boundaryEffective == .sealed && launch.containmentVerifiedBeforeAuthorization &&
          launch.guardianStartedBeforeAuthorization && launch.boundaryAssignmentVerified &&
          launch.boundaryReconfigurationDenied && launch.inheritedResourcesRestricted &&
          launch.frontendLossCleanupAuthorityVerified
      else launch.boundaryEffective == .unavailable
  | .linuxPidNamespaceCgroupV2 native =>
    sealedGenericEvidenceIsConsistent launch restartSafety && launch.mechanism ==
      "linux-pid-namespace-cgroup-v2" && native.isConsistent launch.targetReleased
  | .linuxPrivateTcp4 native =>
    native.validate && launch.mechanism == "linux-tcp4-private-v1" && launch.boundaryRequested ==
      .sealed && launch.targetReleased == native.terminal.authorizationOffsetMillis.isSome &&
      (if launch.targetReleased then
        launch.boundaryEffective == .sealed && launch.containmentVerifiedBeforeAuthorization &&
          launch.guardianStartedBeforeAuthorization && launch.boundaryAssignmentVerified &&
          launch.inheritedResourcesRestricted
      else launch.boundaryEffective == .unavailable) &&
      restartSafety.sealedBoundaryRetired == (native.cleanupState == .complete) &&
      (!restartSafety.isSafe || native.cleanupState == .complete)
  | .windowsJobObjectV2 native =>
    sealedGenericEvidenceIsConsistent launch restartSafety &&
      launch.mechanism == "windows-job-object-v2" && native.isConsistent launch.targetReleased
  | .macosEndpointSecurityV1 native =>
    sealedGenericEvidenceIsConsistent launch restartSafety && launch.mechanism ==
      "macos-endpoint-security-v1" && native.isConsistent launch.targetReleased

/-! ## What the validator implies -/

def BoundaryMechanismEvidence.isSetupFailure : BoundaryMechanismEvidence → Bool
  | .setupFailure .. => true
  | _ => false

variable {launch : LaunchEvidence} {proof : RestartSafetyProof}

theorem sealedGeneric_isSafeFor (h : sealedGenericEvidenceIsConsistent launch proof = true) :
    proof.isSafeFor .sealed = true := by
  simp only [sealedGenericEvidenceIsConsistent, Bool.and_eq_true] at h
  exact h.2

theorem sealedGeneric_retired (h : sealedGenericEvidenceIsConsistent launch proof = true) :
    proof.sealedBoundaryRetired = true := by
  have hs := sealedGeneric_isSafeFor h
  rw [RestartSafetyProof.isSafeFor_sealed, Bool.and_eq_true] at hs
  exact hs.2

/-- **Retirement follows from the evidence, setup failures apart.** When consistent evidence comes
with a safe proof for a sealed request, the sealed boundary was retired, unless the evidence is a
setup failure. -/
theorem retired_of_consistent {detail : BoundaryMechanismEvidence}
    (h : boundaryEvidenceIsConsistent launch proof detail = true)
    (hd : detail.isSetupFailure = false) (hsealed : launch.boundaryRequested = .sealed)
    (hsafe : proof.isSafe = true) : proof.sealedBoundaryRetired = true := by
  cases detail with
  | standard backend => simp [boundaryEvidenceIsConsistent, hsealed] at h
  | setupFailure provider requested => simp [BoundaryMechanismEvidence.isSetupFailure] at hd
  | linuxPidNamespaceCgroupV2 native =>
    simp only [boundaryEvidenceIsConsistent, Bool.and_eq_true] at h
    exact sealedGeneric_retired h.1.1
  | linuxPrivateTcp4 native =>
    simp only [boundaryEvidenceIsConsistent, Bool.and_eq_true, hsafe, Bool.not_true, Bool.false_or]
      at h
    have hcomplete := h.2
    have heq := h.1.2
    rw [hcomplete, beq_iff_eq] at heq
    exact heq
  | windowsJobObjectV2 native | macosEndpointSecurityV1 native =>
    simp only [boundaryEvidenceIsConsistent, Bool.and_eq_true] at h
    exact sealedGeneric_retired h.1.1

end MemCordon
