import MemCordon.Core.CausalDiagnostics
import MemCordon.Core.Failure
import MemCordon.Workload.Evidence

/-!
# The durable record of a Windows attempt

The record that the Windows services keep of one attempt, as in `windows_sealed.rs` and the modules
it takes its parts from: the owner manifest, the recovery authorization, the process observation,
the retirement proof, the terminal receipt and the rejection that may be staged for the caller.
Every part has its own check.

What the JSON encoder writes is a parameter, `Wire`, and so is the hash. A text is a `String`; a
text of lower-case hexadecimal digits has as many bytes as characters, which is all that the length
of an identity is used for. Workload admissions and checkpoints are compared only, so they are the
text of their encoding.
-/

namespace MemCordon.WindowsRecord

open Workload CausalDiagnostics Fallible Encoding

/-! ## Identities and states -/

/-- `WindowsProcessIdentityV1` -/
structure ProcessIdentity where
  processId : ℕ
  creationTime100ns : ℕ
  deriving DecidableEq

/-- `windows_process_identity_is_valid` -/
def ProcessIdentity.isValid (identity : ProcessIdentity) : Bool :=
  identity.processId != 0 && identity.creationTime100ns != 0

/-- `WindowsWorkerThreadIdentityV1` -/
structure WorkerThreadIdentity where
  threadId : ℕ
  creationTime100ns : ℕ
  deriving DecidableEq

/-- `WindowsAttemptStateV1` -/
inductive AttemptState
  | boundaryCreated | guardianReady | targetCreatedSuspended | authorized | terminating | empty
  deriving DecidableEq

/-- `windows_attempt_transition_allowed` -/
def transitionAllowed : AttemptState → AttemptState → Bool
  | .boundaryCreated, .guardianReady => true
  | .boundaryCreated, .terminating => true
  | .guardianReady, .targetCreatedSuspended => true
  | .guardianReady, .terminating => true
  | .targetCreatedSuspended, .authorized => true
  | .targetCreatedSuspended, .terminating => true
  | .authorized, .terminating => true
  | .terminating, .empty => true
  | _, _ => false

/-- `WindowsAttemptTerminalDispositionV1` -/
inductive TerminalDisposition
  | preauthorizationAbort | posttarget
  deriving DecidableEq

/-- `WindowsTerminalLifecycleV1` -/
inductive TerminalLifecycle
  | executing | retiring | proofReady | outboxStaged | ackCommitted | retirementComplete | retained
    | quarantined
  deriving DecidableEq

/-- `WindowsDurableCleanupStateV1` -/
structure CleanupState where
  terminationRequested : Bool := false
  activeProcessesZero : Bool := false
  guardianReaped : Bool := false
  finalHandlesClosed : Bool := false
  deriving DecidableEq

/-! ## Terminalization -/

/-- `WindowsTerminalizationOwnerV1` -/
inductive TerminalizationOwner
  | launcherWorker | controlService | startupRecovery | guardianRecovery
  deriving DecidableEq

/-- `WindowsTerminalizationCheckpointV1` -/
inductive TerminalizationCheckpoint
  | executing | cleanupRequested | cleanupProofReady | rejectionBuilding | outboxStaging
    | outboxStaged | ackRetiring
  | retainedFailure
  deriving DecidableEq

/-- `WindowsTerminalizationErrorStageV1` -/
inductive TerminalizationErrorStage
  | launchRelay | cleanupFinalize | receiptBuild | rejectionBuild | responseValidate
    | responseSerialize
  | recordAuthenticate | atomicStore | liveDelivery | terminalAck | outboxRetirement
  deriving DecidableEq

/-- `WindowsTerminalizationErrorV1` -/
structure TerminalizationError where
  stage : TerminalizationErrorStage
  errorCode : String
  detail : String
  nativeCode : Option ℤ
  observedUnixMillis : Option ℕ
  deriving DecidableEq

/-- `WindowsTerminalizationErrorV1::is_consistent` -/
def TerminalizationError.isConsistent (e : TerminalizationError) : Bool :=
  e.errorCode != "" && decide (e.errorCode.utf8ByteSize ≤ 128) &&
    e.errorCode.toList.all isCodeChar &&
    e.detail != "" && decide (e.detail.utf8ByteSize ≤ 2 * 1024) && !e.detail.toList.contains '\x00'

/-- `WindowsTerminalizationStatusV1` -/
structure TerminalizationStatus where
  schemaVersion : ℕ
  owner : TerminalizationOwner
  sequence : ℕ
  checkpoint : TerminalizationCheckpoint
  lastError : Option TerminalizationError
  secondaryErrors : List TerminalizationError
  deriving DecidableEq

/-- `WindowsTerminalizationStatusV1::is_consistent` -/
def TerminalizationStatus.isConsistent (s : TerminalizationStatus) : Bool :=
  s.schemaVersion == 1 && s.sequence != 0 && s.lastError.all TerminalizationError.isConsistent &&
    decide (s.secondaryErrors.length ≤ maxTerminalizationSecondaryErrors) &&
    s.secondaryErrors.all TerminalizationError.isConsistent &&
    (s.checkpoint != .retainedFailure || s.lastError.isSome)

/-! ## Diagnostics retention -/

/-- `DiagnosticRetentionV1` -/
structure DiagnosticRetention where
  admittedMonotonicMillis : ℕ
  expiresMonotonicMillis : ℕ
  tombstone : Option OriginalUnavailableReason
  deriving DecidableEq

/-- `DIAGNOSTIC_PAYLOAD_RETENTION_SECS`, in milliseconds. -/
def diagnosticPayloadRetentionMillis : ℕ := 24 * 60 * 60 * 1000

/-- `DiagnosticRetentionV1::is_consistent` -/
def DiagnosticRetention.isConsistent (r : DiagnosticRetention) : Bool :=
  Counter.checkedAdd r.admittedMonotonicMillis diagnosticPayloadRetentionMillis ==
    some r.expiresMonotonicMillis &&
    r.tombstone.all fun reason =>
      reason == .retentionExpired || reason == .observationNotDurableBeforeServiceLoss

/-! ## Owners and authorization -/

/-- `WindowsCapabilityOwnerRoleV1` -/
inductive OwnerRole
  | launcherJob | activeRegistryDuplicate | directTargetProcess | desktopBootstrapJob
    | desktopBootstrapProcess
  | guardianProcess | controlRelay | frontendRelay | brokerHolder | sessionBrokerTransfer
    | launchGate
  | policyReference
  deriving DecidableEq

/-- `WindowsCapabilityOwnerRoleV1::ALL` -/
def OwnerRole.all : List OwnerRole :=
  [.launcherJob, .activeRegistryDuplicate, .directTargetProcess, .desktopBootstrapJob,
    .desktopBootstrapProcess,
    .guardianProcess, .controlRelay, .frontendRelay, .brokerHolder, .sessionBrokerTransfer,
    .launchGate, .policyReference]

/-- `WindowsCapabilityOwnerRoleV1::required` -/
def OwnerRole.required : OwnerRole → Bool
  | launcherJob => true
  | activeRegistryDuplicate => true
  | directTargetProcess => true
  | guardianProcess => true
  | controlRelay => true
  | frontendRelay => true
  | launchGate => true
  | _ => false

/-- `WindowsCapabilityOwnerEntryV1` -/
structure OwnerEntry where
  role : OwnerRole
  present : Bool
  processIdentity : Option ProcessIdentity
  capabilityBindingSha256 : Option String
  deriving DecidableEq

/-- `WindowsCapabilityOwnerManifestV1` -/
structure OwnerManifest where
  schemaVersion : ℕ
  (attemptId providerGeneration launchIncarnation : String)
  entries : List.Vector OwnerEntry 12
  deriving DecidableEq

/-- `WindowsRecoveryAccessFloorV1` -/
structure RecoveryAccessFloor where
  integrityLevel : String
  elevated : Bool
  restricted : Bool
  restrictedSidsSha256 : Option String
  appcontainer : Bool
  appcontainerBindingSha256 : Option String
  deriving DecidableEq

/-- `WindowsRecoveryAuthorizationV1`; there is one recovery policy only. -/
structure RecoveryAuthorization where
  schemaVersion : ℕ
  userSid : String
  launchLogonIdentity : ℕ
  launchTokenBindingSha256 : String
  recoveryAccessFloor : RecoveryAccessFloor
  deriving DecidableEq

/-! ## Process observations -/

/-- `ProcessObservationPolicyV1` -/
structure ObservationPolicy where
  (snapshotStorageBytes sampleStorageBytes serializedFieldBytes snapshotQueriesPerTick : ℕ)
  (identityQueriesPerTick sampleIntervalMillis : ℕ)
  deriving DecidableEq

/-- `ProcessObservationPolicyV1::SERVICE` -/
def ObservationPolicy.service : ObservationPolicy := ⟨256 * 1024, 24 * 1024, 128 * 1024, 2, 64, 100⟩

/-- `ProcessObservationPolicyV1::sample_slots`, with 24 bytes for a sample entry. -/
def ObservationPolicy.sampleSlots (policy : ObservationPolicy) : ℕ := policy.sampleStorageBytes / 24

/-- `ProcessObservationPolicyV1::is_valid` -/
def ObservationPolicy.isValid (policy : ObservationPolicy) : Bool :=
  policy == .service && decide (0 < policy.sampleSlots)

/-- `ProcessObservationCountersV1` -/
structure ObservationCounters where
  (pollsAttempted snapshotsObtained identityQueriesAttempted identityObservationsVerified : ℕ)
  (vanishedOrNotMember sampleEvictions : ℕ)
  counterSaturated : Bool
  deriving DecidableEq

/-- `ProcessObservationOmissionsV1` -/
structure ObservationOmissions where
  (snapshotByteBudget snapshotRaceOrRetryBudget perTickQueryBudget allocationUnavailable : ℕ)
  sampleEviction : ℕ
  deriving DecidableEq

/-- `ProcessSampleEntryV1` -/
structure SampleEntry where
  identity : ProcessIdentity
  lastObservationSequence : ℕ
  deriving DecidableEq

/-- `ProcessObservationUnavailableReasonV1` -/
inductive ObservationUnavailableReason
  | workerLostBeforeFreeze | legacyObservationUnavailable | targetNotCreated
  deriving DecidableEq

/-- `ProcessObservationCoverageV1` -/
inductive ObservationCoverage
  | sampled (policy : ObservationPolicy) (counters : ObservationCounters)
      (omissions : ObservationOmissions) (sample : List SampleEntry)
  | unavailable (reason : ObservationUnavailableReason)
  deriving DecidableEq

/-- `WindowsJobAccountingObservationV1` -/
structure JobAccounting where
  totalProcessesNative : ℕ
  activeProcessesNative : ℕ
  observedAfterTargetRetirement : Bool
  counterRegressionObserved : Bool
  deriving DecidableEq

/-- `WindowsQualificationMembershipWitnessV1`; there is one role only. -/
structure MembershipWitness where
  schemaVersion : ℕ
  childIdentity : ProcessIdentity
  (attemptId nonce requestSha256 qualificationLease : String)
  deriving DecidableEq

/-- `WindowsProcessObservationV2` -/
structure ProcessObservation where
  schemaVersion : ℕ
  coverage : ObservationCoverage
  rootIdentity : Option ProcessIdentity
  finalAccounting : Option JobAccounting
  requiredWitness : Option MembershipWitness
  deriving DecidableEq

/-- `WindowsProcessObservationV2::unavailable` -/
def ProcessObservation.unavailable (reason : ObservationUnavailableReason) : ProcessObservation :=
  ⟨2, .unavailable reason, none, none, none⟩

/-! ## Receipts and rejections -/

/-- `ProviderFailureDiagnosticV1` -/
structure ProviderFailure where
  schemaVersion : ℕ
  providerBinding : PublicProviderBindingV1
  (attemptId requestSha256 : DiagnosticSha256)
  diagnosticSequence : ℕ
  durableThroughSequence : Option ℕ
  original : OriginalFailure
  secondary : BoundedVec CausalEvent maxDiagnosticSecondaryEvents
  loss : DiagnosticLoss
  projectionSha256 : DiagnosticSha256
  deriving DecidableEq

/-- `WindowsRetirementProofSourceV2` -/
inductive ProofSource
  | liveNative | guardianRecovery | priorBoot
  deriving DecidableEq

/-- `WindowsRetirementProofV2` -/
structure RetirementProof where
  schemaVersion : ℕ
  source : ProofSource
  (attemptId nonce requestSha256 providerGeneration launchIncarnation originalBootId : String)
  (jobIdentity ownerManifestSha256 : String)
  (guardianReceiptSha256 currentBootId : Option String)
  (targetCompletionObserved nativeJobEmptyObserved relayClosureObserved : Bool)
  (guardianCompletionObserved ownerCapabilitiesClosed launchGateClosed policyReferenceBound : Bool)
  deriving DecidableEq

/-- The facts of a Windows job boundary that receipts and rejections are checked against. -/
structure JobBoundaryFacts where
  targetReleased : Bool
  frontendDelivered : Bool
  deriving DecidableEq

/-- `WindowsTerminalPayloadV2`. The boundary detail of an execution is there when it is the Windows
job one. -/
inductive TerminalPayload
  | execution (childPid durationMillis authorizationOffsetMillis : ℕ) (outcome : RunOutcome)
      (boundaryDetail : Option JobBoundaryFacts)
  | recoveredClosure (primaryFailure : OriginalFailure)
    (targetCreationObserved resumeAttempted : Bool)
  deriving DecidableEq

/-- `WindowsCleanupProcessCreationEvidenceV1` -/
structure CleanupProcessCreation where
  schemaVersion : ℕ
  attemptBinding : String
  (attemptedAfterTerminatingTransition childCreated childJobMembershipVerified : Bool)
  childIdentity : ProcessIdentity
  totalProcessesBefore : ℕ
  totalProcessesAfter : ℕ
  finalActiveProcessesZero : Bool
  deriving DecidableEq

/-- `WindowsTerminalReceiptV2` -/
structure TerminalReceipt where
  schemaVersion : ℕ
  (attemptId nonce requestSha256 : String)
  payload : TerminalPayload
  processObservation : ProcessObservation
  cleanupProcessCreation : Option CleanupProcessCreation
  restartSafety : RestartSafetyProof
  retirementProof : RetirementProof
  deriving DecidableEq

/-- `WindowsProviderRejectionDispositionV2`. Of retained evidence the rejection reads one fact. -/
inductive RejectionDisposition
  | preauthorization (terminalAckRequired : Bool)
  | postauthorizationFailure (receipt : TerminalReceipt)
  | retained (authorityRetained : Bool)
  deriving DecidableEq

/-- `WindowsProviderRejectionV2` -/
structure ProviderRejection where
  schemaVersion : ℕ
  providerFailure : Option ProviderFailure
  code : String
  phase : BoundarySetupPhase
  detail : String
  osCode : Option ℤ
  /-- The verdict of the loader qualification's own check, when one is present. -/
  loaderQualificationConsistent : Option Bool
  (targetCreated targetReleased cleanupAttempted : Bool)
  restartSafety : RestartSafetyProof
  disposition : RejectionDisposition
  deriving DecidableEq

/-- `WindowsLauncherResponseV3`: the two responses that end an attempt, and any other. -/
inductive LauncherResponse
  | terminal (receipt : TerminalReceipt)
  | reject (schemaVersion : ℕ) (attemptId nonce requestSha256 : String)
    (rejection : ProviderRejection)
  | other (kind : String)
  deriving DecidableEq

/-- `WindowsTerminalSeedV2` -/
structure TerminalSeed where
  schemaVersion : ℕ
  (attemptId nonce requestSha256 : String)
  processObservation : ProcessObservation
  primaryFailure : Option ProviderFailure
  deriving DecidableEq

/-! ## The record -/

/-- `WindowsDurableAttemptRecordV4` -/
structure Record where
  schemaVersion : ℕ
  (attemptId providerGeneration bootIdentity launchIncarnation nonce requestSha256 : String)
  callerProcessIdentity : ProcessIdentity
  callerTokenSha256 : String
  jobIdentitySha256 : String
  (guardianIdentity workerIdentity : Option ProcessIdentity)
  workerThreadIdentity : Option WorkerThreadIdentity
  targetIdentity : Option ProcessIdentity
  state : AttemptState
  lifecycle : TerminalLifecycle
  authorizationUnixMillis : Option ℕ
  resumeAttempted : Bool
  targetReleased : Bool
  cleanupState : CleanupState
  ownerManifest : Option OwnerManifest
  recoveryAuthorization : Option RecoveryAuthorization
  terminalPublicationReserved : Bool
  terminalSeed : Option TerminalSeed
  retirementProof : Option RetirementProof
  terminalResponseJson : Option String
  terminalDisposition : Option TerminalDisposition
  terminalization : TerminalizationStatus
  causalDiagnostics : Journal
  diagnosticRetention : DiagnosticRetention
  (workloadAdmission workloadCheckpoint : Option (List UInt8))
  recordRevision : ℕ
  providerIncarnation : String
  integritySha256 : String
  deriving DecidableEq

/-- What the JSON encoder writes for the values of a record, and reads as a response. -/
class Wire where
  manifest : OwnerManifest → List UInt8
  observation : ProcessObservation → List UInt8
  proof : RetirementProof → List UInt8
  failure : ProviderFailure → List UInt8
  response : LauncherResponse → String
  record : Record → List UInt8
  decodeResponse : String → Option LauncherResponse

/-! ## Texts -/

/-- A lower-case hexadecimal digit. -/
def isLowerHex (c : Char) : Bool := c.isDigit || ('a' ≤ c && c ≤ 'f')

/-- `windows_sha256_text_is_valid` -/
def sha256TextIsValid (text : String) : Bool :=
  text.toList.length == 64 && text.toList.all isLowerHex

/-- `valid_sha256` of the owner manifest, and `digest` of the recovery authorization. -/
def hexadecimalDigest (text : String) : Bool :=
  text.toList.length == 64 && text.toList.all isAsciiHexdigit

def hexText (bytes : List UInt8) : String :=
  String.ofList (bytes.flatMap fun byte => [Nat.digitChar (byte.toNat / 16),
    Nat.digitChar (byte.toNat % 16)])

/-- `windows_sha256`, and `digest` of the record module. -/
def sha256Text [Sha256] (bytes : List UInt8) : String := hexText (Sha256.digest bytes).toList

theorem sha256TextIsValid_sha256Text [Sha256] (bytes : List UInt8) :
    sha256TextIsValid (sha256Text bytes) = true := by
  have hdigit : ∀ n < 16, isLowerHex (Nat.digitChar n) = true := by decide
  have hlength : ∀ digest : List UInt8, (digest.flatMap fun byte =>
      [Nat.digitChar (byte.toNat / 16), Nat.digitChar (byte.toNat % 16)]).length =
        2 * digest.length := by
    intro digest
    induction digest with
    | nil => rfl
    | cons byte digest ih =>
      rw [List.flatMap_cons, List.length_append, ih, List.length_cons]
      simp only [List.length_cons, List.length_nil]
      omega
  unfold sha256TextIsValid sha256Text hexText
  rw [String.toList_ofList, hlength, List.Vector.toList_length, Bool.and_eq_true]
  refine ⟨rfl, List.all_eq_true.2 fun c hc => ?_⟩
  obtain ⟨byte, -, hbyte⟩ := List.mem_flatMap.1 hc
  have hbound : byte.toNat < 256 := byte.toNat_lt
  simp only [List.mem_cons, List.not_mem_nil, or_false] at hbyte
  rcases hbyte with rfl | rfl
  · exact hdigit _ (by omega)
  · exact hdigit _ (by omega)

/-- The value of a lower-case hexadecimal digit. -/
def hexValue (c : Char) : ℕ := if c.isDigit then c.toNat - 48 else c.toNat - 87

/-- Pairs of hexadecimal digits as bytes. -/
def hexBytes : List Char → List UInt8
  | high :: low :: rest => UInt8.ofNat (hexValue high * 16 + hexValue low) :: hexBytes rest
  | _ => []

theorem length_hexBytes (digits : List Char) : (hexBytes digits).length = digits.length / 2 := by
  induction digits using hexBytes.induct with
  | case1 high low rest ih => simp only [hexBytes, List.length_cons, ih]; omega
  | case2 digits h =>
    match digits, h with
    | [], _ => rfl
    | [c], _ => simp [hexBytes]
    | high :: low :: rest, h => exact absurd rfl (h high low rest)

/-- `DiagnosticSha256::try_from` of a bounded text. -/
def parseSha256 (text : String) : Except String DiagnosticSha256 := do
  reject "invalid diagnostic text" (64 < text.utf8ByteSize ∨ '\x00' ∈ text.toList)
  reject "invalid SHA-256 length" (text.utf8ByteSize ≠ 64)
  if h : text.toList.length = 64 ∧ text.toList.all isLowerHex = true then
    .ok ⟨hexBytes text.toList, by rw [length_hexBytes, h.1]⟩
  else .error "invalid SHA-256 encoding"

/-- The number after a sign that may be left out: `str::parse::<u32>`. -/
def parseU32 (digits : List Char) : Option ℕ :=
  let digits := match digits with
    | '+' :: rest => rest
    | _ => digits
  if digits ≠ [] ∧ digits.all Char.isDigit then
    let value := digits.foldl (fun n c => n * 10 + (c.toNat - 48)) 0
    if value < 2 ^ 32 then some value else none
  else none

def integrityRid (level : String) : Option ℕ :=
  if "S-1-16-".toList <+: level.toList then parseU32 (level.toList.drop 7) else none

/-! ## Checks of the parts -/

/-- The check of one entry of the owner manifest. A role that stands at its place in the list of all
roles stands at no other. -/
def OwnerEntry.isValid (entry : OwnerEntry) (role : OwnerRole) : Bool :=
  entry.role == role && (!entry.role.required || entry.present) &&
    entry.present == entry.capabilityBindingSha256.isSome && entry.capabilityBindingSha256.all
      hexadecimalDigest &&
    entry.processIdentity.all fun identity => entry.present && identity.isValid

/-- `WindowsCapabilityOwnerManifestV1::validate` -/
def OwnerManifest.validate (m : OwnerManifest) : Except String Unit := do
  reject "owner_manifest.binding_or_shape" (m.schemaVersion ≠ 1 ∨
    hexadecimalDigest m.attemptId = false ∨ m.providerGeneration = "" ∨ m.launchIncarnation = "")
  reject "owner_manifest.entries"
    ((m.entries.toList.zip OwnerRole.all).all (fun entry => entry.1.isValid entry.2) = false)

/-- `WindowsRecoveryAccessFloorV1::is_consistent` -/
def RecoveryAccessFloor.isConsistent (f : RecoveryAccessFloor) : Bool :=
  (integrityRid f.integrityLevel).isSome && f.restricted == f.restrictedSidsSha256.isSome &&
    f.restrictedSidsSha256.all hexadecimalDigest && f.appcontainer ==
      f.appcontainerBindingSha256.isSome && f.appcontainerBindingSha256.all hexadecimalDigest

/-- `WindowsRecoveryAuthorizationV1::is_consistent` -/
def RecoveryAuthorization.isConsistent (a : RecoveryAuthorization) : Bool :=
  a.schemaVersion == 1 && decide ("S-1-".toList <+: a.userSid.toList) &&
    decide (a.userSid.utf8ByteSize ≤ 256) &&
    a.launchLogonIdentity != 0 && hexadecimalDigest a.launchTokenBindingSha256 &&
      a.recoveryAccessFloor.isConsistent

/-- `WindowsCleanupProcessCreationEvidenceV1::is_consistent` -/
def CleanupProcessCreation.isConsistent (c : CleanupProcessCreation) : Bool :=
  c.schemaVersion == 1 && decide ("attempt-".toList <+: c.attemptBinding.toList) &&
    sha256TextIsValid (String.ofList (c.attemptBinding.toList.drop 8)) &&
      c.attemptedAfterTerminatingTransition &&
    c.childCreated && c.childJobMembershipVerified && c.childIdentity.isValid &&
    decide (c.totalProcessesBefore < c.totalProcessesAfter) && c.finalActiveProcessesZero

/-- `WINDOWS_MAX_FRAME_BYTES` -/
def maxFrameBytes : ℕ := 16 * 1024 * 1024

/-- `WINDOWS_MAX_TERMINAL_FRAME_BYTES` -/
def maxTerminalFrameBytes : ℕ := 4 * 1024 * 1024

def maxDiagnosticProjectionBytes : ℕ := 16 * 1024

section Checks

variable [Sha256] [Wire]

/-- `WindowsCapabilityOwnerManifestV1::canonical_sha256` -/
def OwnerManifest.canonicalSha256 (m : OwnerManifest) : Except String String := do
  m.validate
  return sha256Text (Wire.manifest m)

/-- `bounded_json_bytes`: the encoded text and a line end within the limit. -/
def boundedJson (text : List UInt8) (maximum : ℕ) : Option (List UInt8) :=
  if text.length + 1 ≤ maximum then some (text ++ [10]) else none

/-- The check of a membership witness against the observation it belongs to. -/
def MembershipWitness.isBound (w : MembershipWitness) (root : Option ProcessIdentity)
    (attemptId nonce requestSha256 : String) : Bool :=
  w.schemaVersion == 1 && w.childIdentity.isValid && w.attemptId == attemptId && w.nonce == nonce &&
    w.requestSha256 == requestSha256 && w.qualificationLease != "" && root != some w.childIdentity

/-- The loop over the entries of a sample: every identity is valid, seen once and observed. -/
def sampleIsValid : List SampleEntry → Bool
  | [] => true
  | entry :: entries =>
    entry.identity.isValid && entry.lastObservationSequence != 0 &&
      entries.all (fun later => later.identity != entry.identity) && sampleIsValid entries

/-- The coverage's part of `WindowsProcessObservationV2::validate`. -/
def ProcessObservation.validateCoverage (o : ProcessObservation) : Except String Unit :=
  match o.coverage with
  | .unavailable reason =>
    reject "process_observation.unavailable" (o.requiredWitness.isSome = true ∨
      reason = .targetNotCreated ∧ (o.rootIdentity.isSome = true ∨ o.finalAccounting.isSome = true))
  | .sampled policy counters omissions sample => do
    reject "process_observation.policy_or_capacity" (policy.isValid = false ∨
      policy.sampleSlots < sample.length)
    reject "process_observation.counters" (counters.pollsAttempted < counters.snapshotsObtained ∨
      counters.identityQueriesAttempted < counters.identityObservationsVerified ∨
      counters.identityQueriesAttempted < counters.vanishedOrNotMember ∨
      omissions.sampleEviction ≠ counters.sampleEvictions)
    reject "process_observation.sample" (sampleIsValid sample = false)
    reject "process_observation.wire_budget"
      (boundedJson (Wire.observation o) policy.serializedFieldBytes = none)

/-- `WindowsProcessObservationV2::validate` -/
def ProcessObservation.validate (o : ProcessObservation) (attemptId nonce requestSha256 : String) :
    Except String Unit := do
  reject "process_observation.schema_version" (o.schemaVersion ≠ 2)
  reject "process_observation.root_identity" (o.rootIdentity.all ProcessIdentity.isValid = false)
  reject "process_observation.required_witness"
    (o.requiredWitness.all (fun w => w.isBound o.rootIdentity attemptId nonce requestSha256) =
      false)
  o.validateCoverage

def flagByte (flag : Bool) : UInt8 := if flag then 1 else 0

def NativeFailureCode.bytes : NativeFailureCode → List UInt8
  | .win32 code => 1 :: beBytes 4 code.toNat
  | .ntStatus code => 2 :: beBytes 4 code.toNat
  | .hResult code => 3 :: beBytes 4 code.toNat
  | .winsock code => 4 :: beBytes 4 code.toUInt32.toNat
  | .errno code => 5 :: beBytes 4 code.toUInt32.toNat
  | .legacyUntyped code => 6 :: beBytes 4 code.toUInt32.toNat

def SafeDiagnosticDetail.bytes : SafeDiagnosticDetail → List UInt8
  | .noAdditionalDetail => [0]
  | .countAndLimit observed limit => 1 :: beBytes 4 observed.toNat ++ beBytes 4 limit.toNat
  | .providerMessage id => 2 :: beBytes 2 id.ctorIdx

def TerminalizationReference.bytes : TerminalizationReference → List UInt8
  | .firstError => [1]
  | .secondaryError index => [2, index]

/-- `hash_event`: the bytes of an event. The numbers of the vocabularies are the places of their
words. -/
def eventBytes (e : CausalEvent) : List UInt8 :=
  beBytes 8 e.sequence ++ beBytes 2 e.origin.ctorIdx ++ beBytes 2 e.category.ctorIdx ++
    beBytes 2 e.operation.ctorIdx ++ beBytes 2 e.code.ctorIdx ++
      (e.nativeCode.elim [0] NativeFailureCode.bytes) ++
    beBytes 2 e.observedPhase.ctorIdx ++ SafeDiagnosticDetail.bytes e.safeDetail ++
    [flagByte e.detailRedacted, flagByte e.detailTruncated] ++
    e.terminalizationReference.elim [0] TerminalizationReference.bytes

/-- The domain that `canonical_digest` starts with. -/
def failureDomain : List UInt8 := "memcordon:causal-diagnostic:v1\x00".toUTF8.toList

/-- `ProviderFailureDiagnosticV1::canonical_digest` -/
def ProviderFailure.canonicalDigest (f : ProviderFailure) : DiagnosticSha256 :=
  Sha256.digest <|
    failureDomain ++ beBytes 4 f.schemaVersion ++
      beBytes 8 f.providerBinding.generation.bytes.length ++ f.providerBinding.generation.bytes ++
      beBytes 8 f.providerBinding.sourceCommit.bytes.length ++
        f.providerBinding.sourceCommit.bytes ++
      f.providerBinding.runtimeManifestSha256.toList ++ f.attemptId.toList ++
        f.requestSha256.toList ++
      beBytes 8 f.diagnosticSequence ++ (f.durableThroughSequence.elim [0] fun value =>
      1 :: beBytes 8 value) ++ (match f.original with
        | .observed event => 0 :: eventBytes event
        | .unavailable reason => 1 :: beBytes 2 reason.ctorIdx) ++
      beBytes 8 f.secondary.items.length ++ f.secondary.items.flatMap eventBytes ++
      beBytes 4 f.loss.secondaryEventsOmitted ++
      [flagByte f.loss.secondaryCountSaturated, flagByte f.loss.persistenceFailureObserved,
        flagByte f.loss.writerUnavailable]

/-- `ProviderFailureDiagnosticV1::is_consistent` -/
def ProviderFailure.isConsistent (f : ProviderFailure) : Bool :=
  f.schemaVersion == causalDiagnosticSchema && f.providerBinding.isConsistent &&
    Journal.isConsistent ⟨f.schemaVersion, f.original, f.secondary, f.diagnosticSequence,
      f.durableThroughSequence, f.loss⟩

/-- `ProviderFailureDiagnosticV1::from_journal` -/
def ProviderFailure.fromJournal (binding : PublicProviderBindingV1)
    (attemptId requestSha256 : String) (journal : Journal) : Except String ProviderFailure := do
  let attemptId ← parseSha256 attemptId
  let requestSha256 ← parseSha256 requestSha256
  let projection : ProviderFailure :=
    { schemaVersion := causalDiagnosticSchema, providerBinding := binding, attemptId, requestSha256,
      diagnosticSequence := journal.sequence,
      durableThroughSequence := journal.durableThroughSequence,
      original := journal.original, secondary := journal.secondary, loss := journal.loss,
      projectionSha256 := List.Vector.replicate 32 0 }
  reject "invalid diagnostic projection binding or journal" (projection.isConsistent = false)
  let projection := { projection with projectionSha256 := projection.canonicalDigest }
  reject "diagnostic projection byte bound exceeded"
    (maxDiagnosticProjectionBytes < (Wire.failure projection).length)
  return projection

/-- The check of a primary failure that a recovered closure names. -/
def OriginalFailure.isNamed : OriginalFailure → Bool
  | .observed event => event.sequence != 0
  | .unavailable reason => reason != .noEarlierErrorObserved

/-- The payload agrees with the source of the retirement proof. -/
def TerminalReceipt.sourceMatches (r : TerminalReceipt) : Bool :=
  let proof := r.retirementProof
  match r.payload, proof.source with
  | .execution childPid _ _ _ _, .liveNative =>
    proof.targetCompletionObserved && proof.nativeJobEmptyObserved && proof.relayClosureObserved &&
      proof.guardianCompletionObserved && proof.guardianReceiptSha256.isNone &&
        proof.currentBootId.isNone &&
      childPid != 0 && r.processObservation.rootIdentity.any fun root => root.processId == childPid
  | .recoveredClosure primaryFailure _ _, .guardianRecovery =>
    OriginalFailure.isNamed primaryFailure && proof.nativeJobEmptyObserved &&
      proof.guardianCompletionObserved &&
      proof.guardianReceiptSha256.any sha256TextIsValid && proof.currentBootId.isNone &&
      r.cleanupProcessCreation.isNone
  | .recoveredClosure primaryFailure _ _, .priorBoot =>
    OriginalFailure.isNamed primaryFailure && !proof.targetCompletionObserved &&
      !proof.nativeJobEmptyObserved &&
      !proof.relayClosureObserved && !proof.guardianCompletionObserved &&
        proof.guardianReceiptSha256.isNone &&
      (proof.currentBootId.any fun boot => boot != "" && boot != proof.originalBootId) &&
      r.cleanupProcessCreation.isNone
  | _, _ => false

/-- The part of `validate_for_attempt` for an execution: no delivery before the acknowledgement, and
a safe end. -/
def TerminalReceipt.validateExecution (r : TerminalReceipt) : Except String Unit :=
  match r.payload with
  | .execution _ _ _ _ boundaryDetail => do
    reject "boundary_detail.frontend_delivery_before_ack"
      (boundaryDetail.any JobBoundaryFacts.frontendDelivered = true)
    reject "restart_safety" (r.restartSafety.isSafeFor .sealed = false)
  | .recoveredClosure _ _ _ => .ok ()

/-- `WindowsTerminalReceiptV2::validate_for_attempt` -/
def TerminalReceipt.validateForAttempt (r : TerminalReceipt) : Except String Unit := do
  reject "schema_version" (r.schemaVersion ≠ 2)
  reject "attempt_binding" (r.attemptId = "" ∨ r.nonce = "" ∨ r.requestSha256 = "")
  r.processObservation.validate r.attemptId r.nonce r.requestSha256
  let proof := r.retirementProof
  reject "retirement_proof" (proof.schemaVersion ≠ 2 ∨ proof.attemptId ≠ r.attemptId ∨
    proof.nonce ≠ r.nonce ∨
    proof.requestSha256 ≠ r.requestSha256 ∨ proof.providerGeneration = "" ∨
    proof.launchIncarnation = "" ∨
    proof.originalBootId = "" ∨ proof.jobIdentity = "" ∨ proof.ownerManifestSha256 = "" ∨
    proof.ownerCapabilitiesClosed = false ∨ proof.launchGateClosed = false ∨
    proof.policyReferenceBound = false)
  reject "retirement_proof.source" (r.sourceMatches = false)
  r.validateExecution
  reject "cleanup_process_creation"
    (r.cleanupProcessCreation.all CleanupProcessCreation.isConsistent = false)

/-- The facts of a postauthorization failure that its receipt must agree with. -/
def ProviderRejection.authorityMatches (r : ProviderRejection) (receipt : TerminalReceipt) : Bool :=
  match receipt.payload with
  | .execution _ _ _ _ boundaryDetail =>
    boundaryDetail.any fun native => native.targetReleased == r.targetReleased
  | .recoveredClosure _ targetCreationObserved resumeAttempted =>
    targetCreationObserved == r.targetCreated && (!r.targetReleased || resumeAttempted)

/-- The primary cause of a postauthorization failure agrees with its receipt. -/
def ProviderRejection.primaryMatches (r : ProviderRejection) (receipt : TerminalReceipt) : Bool :=
  match receipt.payload, r.providerFailure with
  | .execution _ _ _ (.monitorFailed _ _ _) _, some failure =>
    match failure.original with
    | .observed event => decide (0 < event.sequence)
    | .unavailable _ => false
  | .execution _ _ _ (.monitorFailed _ _ _) _, none => true
  | .recoveredClosure primaryFailure _ _, some failure => failure.original == primaryFailure
  | .recoveredClosure _ _ _, none => true
  | .execution _ _ _ _ _, _ => false

/-- The disposition's part of `WindowsProviderRejectionV2::is_consistent`. -/
def ProviderRejection.dispositionIsConsistent (r : ProviderRejection) : Bool :=
  match r.disposition with
  | .preauthorization terminalAckRequired =>
    !r.targetReleased && (!terminalAckRequired || r.cleanupAttempted)
  | .postauthorizationFailure receipt =>
    r.targetCreated && r.cleanupAttempted && receipt.validateForAttempt.isOk &&
      receipt.restartSafety == r.restartSafety && r.authorityMatches receipt &&
        r.primaryMatches receipt
  | .retained authorityRetained => authorityRetained && !r.restartSafety.sealedBoundaryRetired

/-- `WindowsProviderRejectionV2::is_consistent` -/
def ProviderRejection.isConsistent (r : ProviderRejection) : Bool :=
  r.schemaVersion == 2 && r.code != "" && decide (r.code.utf8ByteSize ≤ 128) &&
    r.code.toList.all isCodeChar &&
    r.detail != "" && decide (r.detail.utf8ByteSize ≤ providerRejectionMaxDetailBytes) &&
    !r.detail.toList.contains '\x00' && (r.targetCreated || !r.targetReleased) &&
    r.loaderQualificationConsistent.all id &&
    (r.providerFailure.all fun failure =>
      failure.isConsistent && failure.projectionSha256 == failure.canonicalDigest) &&
    r.dispositionIsConsistent

end Checks

end MemCordon.WindowsRecord
