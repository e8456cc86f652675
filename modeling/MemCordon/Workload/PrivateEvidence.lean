import MemCordon.Workload.Registry

/-!
# Private attempts: admission metadata, bindings and checkpoints

What the journal of a private attempt holds about its admission, as in `workload_admission_v2.rs`
and `workload_evidence_v2.rs`: the metadata of the admission, the binding of the attempt to it, and
the checkpoint of a gated target. A claimed observation is a `VerifiedTrue`, which cannot be false.
-/

namespace MemCordon.Workload

open Fallible Encoding

abbrev VerifiedTrue := {observed : Bool // observed = true}

/-- `VerifiedTrue::observed` -/
def verifiedTrue (value : Bool) : Except String VerifiedTrue :=
  if h : value = true then .ok ⟨value, h⟩ else .error "required native fact was not observed"

/-! ## Admission metadata -/

structure RuntimePrivateAdmissionSnapshot where
  format : String
  revision : UInt32
  request : WorkloadContractV2
  (requestSha256 invocationSha256 : DiagnosticSha256)
  caller : CallerSelector
  registryDigest : DiagnosticSha256
  epoch : PolicyEpoch
  admissionNonce : Nonce128
  profileId : ProfileRef
  deriving DecidableEq

def CallerSelector.linuxUid : CallerSelector → Option UInt32
  | .linux uid => some uid
  | .windows _ => none

namespace RuntimePrivateAdmissionSnapshot

variable [Sha256]

def validate (metadata : RuntimePrivateAdmissionSnapshot) : Except String Unit := do
  metadata.request.validate
  reject "private admission metadata correlation differs"
    (metadata.format ≠ "memcordon.private-admission-metadata" ∨ metadata.revision ≠ 1)
  let requestSha256 ← contractDigestV2 metadata.request
  reject "private admission metadata correlation differs"
    (requestSha256 ≠ metadata.requestSha256 ∨ metadata.epoch ≠ metadata.request.expectedEpoch ∨
      metadata.profileId ≠ metadata.request.authorizedProfile ∨ metadata.caller.linuxUid = none)

def canonicalDigest (metadata : RuntimePrivateAdmissionSnapshot) :
    Except String DiagnosticSha256 := do
  metadata.validate
  let uid ← okOr "validated Linux correlation" metadata.caller.linuxUid
  let bytes ← emitted Limits.publicObjectBytes do
    Encoder.new (CodedText.bytes "memcordon.private-admission-metadata/revision1")
    Encoder.digest metadata.requestSha256
    Encoder.digest metadata.invocationSha256
    Encoder.digest metadata.registryDigest
    Encoder.raw (beBytes 4 uid.toNat)
    Encoder.raw metadata.epoch.serviceInstance.toList
    Encoder.u64 metadata.epoch.revision.1
    Encoder.raw metadata.admissionNonce.toList
    Encoder.id metadata.profileId.id
    Encoder.digest metadata.profileId.semanticDigest
  return hashBytes bytes

end RuntimePrivateAdmissionSnapshot

/-! ## Attempt bindings -/

structure AttemptBindingV2 where
  attemptId : BoundedText Limits.identifierBytes
  (admissionDigest callerEnvelopeDigest nativeInvocationDigest : DiagnosticSha256)
  deriving DecidableEq

def AttemptBindingV2.canonicalDigest [Sha256] (binding : AttemptBindingV2) :
    Except String DiagnosticSha256 :=
  (emitted Limits.contractBytes do
    Encoder.new (CodedText.bytes "private-attempt-binding-v2")
    Encoder.count binding.attemptId.bytes.length
    Encoder.raw binding.attemptId.bytes
    Encoder.digest binding.admissionDigest
    Encoder.digest binding.callerEnvelopeDigest
    Encoder.digest binding.nativeInvocationDigest).map hashBytes

/-! ## Checkpoints -/

inductive QualifiedNativeAbiV2
  | x8664LinuxGnu
  | aarch64LinuxGnu
  deriving DecidableEq

def QualifiedNativeAbiV2.tag : QualifiedNativeAbiV2 → UInt8
  | .x8664LinuxGnu => 1
  | .aarch64LinuxGnu => 2

inductive TargetIdentityKindV2
  | preserveCaller
  | administratorProfile (reference : ExecutionIdentityRefV2)
  deriving DecidableEq

structure TargetIdentityObservationV2 where
  kind : TargetIdentityKindV2
  entrypointDigest : DiagnosticSha256
  (exactCredentialsVerified noNewPrivilegesVerified capabilitySetsEmpty : VerifiedTrue)
  boundingSetEmpty : VerifiedTrue
  deriving DecidableEq

structure NamespaceObservationV2 where
  callerNetworkInode : NonZeroU64
  targetNetworkInode : NonZeroU64
  (loopbackOnly ipv6Disabled : VerifiedTrue)
  deriving DecidableEq

structure PrivatePortPolicyV1 where
  (unprivilegedPortStart ephemeralFirst ephemeralLast : UInt16)
  reservedPortsEmpty : VerifiedTrue
  deriving DecidableEq

structure EntryResourceObservationV2 where
  gatedDescriptorCount : UInt8
  postExecDescriptorCount : UInt8
  (anonymousPipeStdio controlAndElfCloexec noCandidateSocket noImportedDescriptor : VerifiedTrue)
  noOtherDescriptor : VerifiedTrue
  deriving DecidableEq

structure PrivateTcpCheckpointV2 where
  attemptBinding : DiagnosticSha256
  profile : ProfileRef
  identity : TargetIdentityObservationV2
  callerEnvelopeReference : Nonce128
  targetNetworkNamespace : NamespaceObservationV2
  (topologyDigest filterDigest : DiagnosticSha256)
  nativeAbi : QualifiedNativeAbiV2
  portPolicy : PrivatePortPolicyV1
  resources : EntryResourceObservationV2
  (guardianVerified epochRevalidated checkpointDurable : VerifiedTrue)
  deriving DecidableEq

namespace PrivateTcpCheckpointV2

def validate (checkpoint : PrivateTcpCheckpointV2) : Except String Unit := do
  reject "checkpoint names a non-private profile"
    (checkpoint.profile.id.bytes ≠ CodedText.bytes "linux-tcp4-private-v1")
  reject "private target network namespace equals caller namespace"
    (checkpoint.targetNetworkNamespace.callerNetworkInode =
      checkpoint.targetNetworkNamespace.targetNetworkInode)
  reject "private TCP immutable entry semantics differ"
    ((checkpoint.portPolicy.unprivilegedPortStart, checkpoint.portPolicy.ephemeralFirst,
        checkpoint.portPolicy.ephemeralLast) ≠ (0, 32768, 60999) ∨
      (checkpoint.resources.gatedDescriptorCount, checkpoint.resources.postExecDescriptorCount) ≠
        (5, 3))

def writeIdentity : TargetIdentityKindV2 → Emit String Unit
  | .preserveCaller => Encoder.byte 1
  | .administratorProfile reference => do
    Encoder.byte 2
    Encoder.id reference.id
    Encoder.digest reference.semanticDigest

def canonicalPreimage (checkpoint : PrivateTcpCheckpointV2) : Except String (List UInt8) := do
  checkpoint.validate
  emitted Limits.publicObjectBytes do
    Encoder.new (CodedText.bytes "private-tcp-checkpoint-v2")
    Encoder.digest checkpoint.attemptBinding
    Encoder.id checkpoint.profile.id
    Encoder.digest checkpoint.profile.semanticDigest
    writeIdentity checkpoint.identity.kind
    Encoder.digest checkpoint.identity.entrypointDigest
    Encoder.raw [1, 1, 1, 1]
    Encoder.raw checkpoint.callerEnvelopeReference.toList
    Encoder.u64 checkpoint.targetNetworkNamespace.callerNetworkInode.1
    Encoder.u64 checkpoint.targetNetworkNamespace.targetNetworkInode.1
    Encoder.raw [1, 1]
    Encoder.digest checkpoint.topologyDigest
    Encoder.digest checkpoint.filterDigest
    Encoder.byte checkpoint.nativeAbi.tag
    Encoder.u16 checkpoint.portPolicy.unprivilegedPortStart
    Encoder.u16 checkpoint.portPolicy.ephemeralFirst
    Encoder.u16 checkpoint.portPolicy.ephemeralLast
    Encoder.byte 1
    Encoder.byte checkpoint.resources.gatedDescriptorCount
    Encoder.byte checkpoint.resources.postExecDescriptorCount
    Encoder.raw [1, 1, 1, 1, 1]
    Encoder.raw [1, 1, 1]

def canonicalDigest [Sha256] (checkpoint : PrivateTcpCheckpointV2) :
    Except String DiagnosticSha256 :=
  checkpoint.canonicalPreimage.map hashBytes

end PrivateTcpCheckpointV2

/-! ## Retirement -/

structure PrivateTcpRetiredV2 where
  (attemptBinding checkpointDigest : DiagnosticSha256)
  (workloadEmpty requiredHelpersReaped cgroupRetired providerNetworkReferencesClosed : VerifiedTrue)
  (stdioAndSetupResourcesClosed policySnapshotReleased : VerifiedTrue)
  deriving DecidableEq

def PrivateTcpRetiredV2.observed [Sha256] (checkpoint : PrivateTcpCheckpointV2)
    (workloadEmpty requiredHelpersReaped cgroupRetired providerNetworkReferencesClosed
      stdioAndSetupResourcesClosed
      policySnapshotReleased : Bool) : Except String PrivateTcpRetiredV2 := do
  checkpoint.validate
  let checkpointDigest ← checkpoint.canonicalDigest
  return {
    attemptBinding := checkpoint.attemptBinding
    checkpointDigest
    workloadEmpty := ← verifiedTrue workloadEmpty
    requiredHelpersReaped := ← verifiedTrue requiredHelpersReaped
    cgroupRetired := ← verifiedTrue cgroupRetired
    providerNetworkReferencesClosed := ← verifiedTrue providerNetworkReferencesClosed
    stdioAndSetupResourcesClosed := ← verifiedTrue stdioAndSetupResourcesClosed
    policySnapshotReleased := ← verifiedTrue policySnapshotReleased }

end MemCordon.Workload
