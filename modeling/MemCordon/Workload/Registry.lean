import MemCordon.Workload.Codec

/-!
# Policy registries

What the administrator grants, as in `workload_registry.rs` and `workload_registry_v2.rs`: profiles,
grants and, in the private registry, execution identities, with the checks a registry has to pass.

SHA-256 is not part of the source. It is the instance of `Sha256` that the definitions run with.

The profile definitions, profile checks and grant checks of the two versions differ in the profiles
they are about and in their messages. They are one definition each, applied to the profiles and
messages of each version; a V2 grant is a V1 grant with an execution identity.
-/

namespace MemCordon.Workload

open Fallible Keyed Encoding

/-- The hash function of the `sha2` crate. -/
class Sha256 where
  digest : List UInt8 → DiagnosticSha256

def hashBytes [Sha256] (bytes : List UInt8) : DiagnosticSha256 := Sha256.digest bytes

def contractDigest [Sha256] (request : WorkloadContractV1) : Except String DiagnosticSha256 :=
  (encodeContract request).map hashBytes

def contractDigestV2 [Sha256] (request : WorkloadContractV2) : Except String DiagnosticSha256 :=
  (encodeContractV2 request).map hashBytes

def ceilingContains (ceiling authority : NetworkCeilingV1) : Bool :=
  (ceiling.directSocketAuthority = authority.directSocketAuthority ||
      (ceiling.directSocketAuthority = .externalHostPolicyAccepted &&
        authority.directSocketAuthority = .pinnedLegacySocketFilterAccepted)) &&
    ceiling.unixAuthority = authority.unixAuthority &&
    ceiling.externalSocketCustody = authority.externalSocketCustody &&
    ceiling.credentialGains = authority.credentialGains &&
    ceiling.mediatedCommunication = authority.mediatedCommunication

/-! ## Profiles -/

inductive BaselineProfile
  | linuxUnixCreate
  | windowsHostNetworkExternal
  deriving DecidableEq

namespace BaselineProfile

def id : BaselineProfile → LogicalId
  | .linuxUnixCreate =>
    expect (LogicalId.new (CodedText.bytes "linux-unix-create-v1")) (by decide +kernel)
  | .windowsHostNetworkExternal =>
    expect (LogicalId.new (CodedText.bytes "windows-host-network-external-v1")) (by decide +kernel)

def ceiling (profile : BaselineProfile) : NetworkCeilingV1 where
  directSocketAuthority := match profile with
    | .linuxUnixCreate => .pinnedLegacySocketFilterAccepted
    | .windowsHostNetworkExternal => .externalHostPolicyAccepted
  unixAuthority := .existingHostUnixAuthorityAccepted
  externalSocketCustody := .existingStdioAuthorityAccepted
  credentialGains := .existingCallerEnvelopeAccepted
  mediatedCommunication := .externalFilesystemAndStdioPolicyAccepted

/-- What `semantic_bytes` writes: the identifier, the ceiling, and the tags of the restriction and
of unknown alternate-path coverage. -/
def writeSemantics (profile : BaselineProfile) : Emit String Unit := do
  Encoder.new (CodedText.bytes "profile-definition-v1")
  Encoder.id profile.id
  encodeCeiling profile.ceiling
  Encoder.byte (match profile with
    | .linuxUnixCreate => 1
    | .windowsHostNetworkExternal => 2)
  Encoder.byte 1

def semanticBytes (profile : BaselineProfile) : List UInt8 :=
  expect (emitted Limits.contractBytes profile.writeSemantics) (by cases profile <;> decide +kernel)

def reference [Sha256] (profile : BaselineProfile) : ProfileRef where
  id := profile.id
  semanticDigest := hashBytes profile.semanticBytes

end BaselineProfile

inductive ProfileKindV2
  | linuxUnixCreateV1
  | linuxTcp4PrivateV1
  deriving DecidableEq

namespace ProfileKindV2

def id : ProfileKindV2 → LogicalId
  | .linuxUnixCreateV1 => BaselineProfile.id .linuxUnixCreate
  | .linuxTcp4PrivateV1 => privateProfileId

def ceiling : ProfileKindV2 → NetworkCeilingV1
  | .linuxUnixCreateV1 => BaselineProfile.ceiling .linuxUnixCreate
  | .linuxTcp4PrivateV1 => {
      directSocketAuthority := .attemptPrivateIpv4StackAllPorts
      unixAuthority := .noNamedEndpointsSocketPairsOnly
      externalSocketCustody := .noSocketAtTargetEntry
      credentialGains := .noGain
      mediatedCommunication := .externalFilesystemAndStdioPolicyAccepted }

/-- What `reference` writes for the private profile: the identifier, the ceiling, closed semantic
tags, the port policy and an empty list of reserved ports. -/
def writePrivateSemantics : Emit String Unit := do
  Encoder.new (CodedText.bytes "profile-definition-v2")
  Encoder.id (id .linuxTcp4PrivateV1)
  encodeCeiling (ceiling .linuxTcp4PrivateV1)
  [1, 1, 1, 1].forM Encoder.byte
  [0, 32768, 60999].forM Encoder.u64
  Encoder.count 0

def reference [Sha256] : ProfileKindV2 → ProfileRef
  | .linuxUnixCreateV1 => BaselineProfile.reference .linuxUnixCreate
  | .linuxTcp4PrivateV1 => {
      id := id .linuxTcp4PrivateV1
      semanticDigest := hashBytes
        (expect (emitted Limits.contractBytes writePrivateSemantics) (by decide +kernel)) }

end ProfileKindV2

/-- `RuntimeProfileDefinition` and `RuntimePrivateProfileDefinition`, over the profiles of a
version. -/
@[ext]
structure ProfileDefinition (κ : Type) where
  profile : κ
  reference : ProfileRef
  enabled : Bool
  deriving DecidableEq

abbrev RuntimeProfileDefinition := ProfileDefinition BaselineProfile

abbrev RuntimePrivateProfileDefinition := ProfileDefinition ProfileKindV2

/-! ## Grants -/

inductive CallerSelector
  | linux (uid : UInt32)
  | windows (sid : BoundedText 184)
  deriving DecidableEq

inductive GrantChangeDisposition
  | drainExisting
  | revokeActive
  deriving DecidableEq

structure PolicyGrantV1 where
  id : LogicalId
  revision : NonZeroU64
  profile : ProfileRef
  ceiling : NetworkCeilingV1
  enabled : Bool
  callers : BoundedVec CallerSelector Limits.callersPerGrant
  approvedPlans : BoundedVec DiagnosticSha256 Limits.plansPerGrant
  deriving DecidableEq

structure PolicyGrantV2 extends PolicyGrantV1 where
  executionIdentity : ExecutionIdentityRequestV2
  deriving DecidableEq

structure RuntimePolicyRegistry where
  format : String
  revision : UInt32
  profiles : BoundedVec RuntimeProfileDefinition Limits.profiles
  grants : BoundedVec PolicyGrantV1 Limits.grants
  activeAttemptDisposition : GrantChangeDisposition
  deriving DecidableEq

/-! ## Execution identities -/

structure ApprovedEntrypointV2 where
  id : LogicalId
  absolutePath : BoundedText Limits.entrypointPathBytes
  sha256 : DiagnosticSha256
  size : NonZeroU64
  deriving DecidableEq

structure LinuxExecutionIdentityV2 where
  reference : ExecutionIdentityRefV2
  enabled : Bool
  uid : NonZeroU32
  gid : NonZeroU32
  supplementaryGroups : BoundedVec NonZeroU32 Limits.groupsPerIdentity
  entrypoints : BoundedVec ApprovedEntrypointV2 Limits.entrypointsPerIdentity
  deriving DecidableEq

structure RuntimePrivatePolicyRegistry where
  format : String
  revision : UInt32
  profiles : BoundedVec RuntimePrivateProfileDefinition Limits.profiles
  executionIdentities : BoundedVec LinuxExecutionIdentityV2 Limits.executionIdentities
  grants : BoundedVec PolicyGrantV2 Limits.grants
  activeAttemptDisposition : GrantChangeDisposition
  deriving DecidableEq

/-- A group identifier, written as 64 bits. -/
def encodeGroup (group : NonZeroU32) : Emit String Unit := Encoder.u64 group.1.toUInt64

def encodeEntrypoint (entrypoint : ApprovedEntrypointV2) : Emit String Unit := do
  Encoder.id entrypoint.id
  Encoder.count entrypoint.absolutePath.bytes.length
  Encoder.raw entrypoint.absolutePath.bytes
  Encoder.u64 entrypoint.size.1
  Encoder.digest entrypoint.sha256

def sortGroups (groups : List NonZeroU32) : List NonZeroU32 :=
  sortByKey (fun group => group.1.toNat) groups

/-- The entrypoints in the order of their identifiers. -/
def sortEntrypoints (entrypoints : List ApprovedEntrypointV2) : List ApprovedEntrypointV2 :=
  sortByKey (fun entrypoint => entrypoint.id.key) entrypoints

/-- The user, group and set-like lists of an identity. -/
def encodeAuthority (identity : LinuxExecutionIdentityV2) : Emit String Unit := do
  Encoder.u64 identity.uid.1.toUInt64
  Encoder.u64 identity.gid.1.toUInt64
  Encoder.list encodeGroup (sortGroups identity.supplementaryGroups.items)
  Encoder.list encodeEntrypoint (sortEntrypoints identity.entrypoints.items)

/-- The path is absolute, is not the root, and has no empty, `.` or `..` part. The slash is the byte
47 and the full stop 46. -/
def validPath (path : List UInt8) : Bool :=
  path.head? == some 47 && path != [47] && !path.contains 0 &&
    ((path.splitOn 47).drop 1).all fun part => !(part == [] || part == [46] || part == [46, 46])

namespace LinuxExecutionIdentityV2

def validateFields (identity : LinuxExecutionIdentityV2) : Except String Unit := do
  reject "execution identity has no approved entrypoint" (identity.entrypoints.items = [])
  identity.supplementaryGroups.items.zipIdx.forM fun (group, index) =>
    reject "duplicate supplementary group" (group ∈ identity.supplementaryGroups.items.take index)
  identity.entrypoints.items.zipIdx.forM fun (entrypoint, index) =>
    reject "invalid or duplicate approved entrypoint"
      (validPath entrypoint.absolutePath.bytes = false ∨
      (identity.entrypoints.items.take index).any (fun prior => prior.id = entrypoint.id) = true)

def semanticDigest [Sha256] (identity : LinuxExecutionIdentityV2) :
    Except String DiagnosticSha256 := do
  identity.validateFields
  let bytes ← emitted Limits.registryBytes do
    Encoder.new (CodedText.bytes "execution-identity-v2")
    Encoder.id identity.reference.id
    encodeAuthority identity
  .ok (hashBytes bytes)

def validate [Sha256] (identity : LinuxExecutionIdentityV2) : Except String Unit := do
  let digest ← identity.semanticDigest
  reject "execution identity semantic digest differs" (digest ≠ identity.reference.semanticDigest)

end LinuxExecutionIdentityV2

/-! ## Validation -/

/-- A decimal number without a sign or leading zeros. -/
def canonicalDecimal (value : List UInt8) : Bool :=
  !value.isEmpty && (value == [48] || value.head? != some 48) && value.all fun byte =>
    48 ≤ byte && byte ≤ 57

/-- The number that decimal digits stand for. -/
def decimalValue (digits : List UInt8) : ℕ :=
  digits.foldl (fun n byte => n * 10 + (byte.toNat - 48)) 0

/-- `valid_windows_sid`. The hyphen is the byte 45; the first two fields are `S` and `1`, the third
is an authority below `2 ^ 48`, and one to fifteen fields that fit 32 bits follow. -/
def validWindowsSid (text : List UInt8) : Bool :=
  match text.splitOn 45 with
  | first :: second :: authority :: fields =>
    first == [83] && second == [49] && canonicalDecimal authority &&
      decide (decimalValue authority < 2 ^ 48) &&
      decide (fields.length ≤ 15) && (fields.all fun field => canonicalDecimal field &&
        decide (decimalValue field < 2 ^ 32)) && !fields.isEmpty
  | _ => false

section Checks

variable {κ : Type}

/-- The turn of the loop over profiles. -/
def validateProfile (e : String) (reference : κ → ProfileRef)
    (profiles : List (ProfileDefinition κ))
    (profile : ProfileDefinition κ) (index : ℕ) : Except String Unit :=
  reject e (profile.reference ≠ reference profile.profile ∨
    (profiles.take index).any (fun prior => prior.reference.id = profile.reference.id) = true)

/-- A profile has the reference and a ceiling within that of the grant. -/
def ProfileDefinition.grants (ceiling : κ → NetworkCeilingV1) (grant : PolicyGrantV1)
    (profile : ProfileDefinition κ) : Bool :=
  profile.reference = grant.profile && ceilingContains grant.ceiling (ceiling profile.profile)

/-- The first check of a grant: its identifier, its profile and that it selects something. -/
def validateSelectors (e : String) (ceiling : κ → NetworkCeilingV1)
    (profiles : List (ProfileDefinition κ))
    (priors : List PolicyGrantV1) (grant : PolicyGrantV1) : Except String Unit :=
  reject e (priors.any (fun prior => prior.id = grant.id) = true ∨ grant.callers.items = [] ∨
    grant.approvedPlans.items = [] ∨
    profiles.any (fun profile => profile.grants ceiling grant) = false)

/-- The loop over approved plans. -/
def validatePlans (e : String) (plans : List DiagnosticSha256) : Except String Unit :=
  plans.zipIdx.forM fun (plan, index) => reject e (plan ∈ plans.take index)

/-- The check of a Windows caller. -/
def CallerSelector.validateSid : CallerSelector → Except String Unit
  | .windows sid => reject "noncanonical Windows caller SID" (validWindowsSid sid.bytes = false)
  | .linux _ => .ok ()

/-- The loop over the callers of a V1 grant. -/
def validateCallers (callers : List CallerSelector) : Except String Unit :=
  callers.zipIdx.forM fun (caller, index) => do
    caller.validateSid
    reject "duplicate caller selector" (caller ∈ callers.take index)

def CallerSelector.isLinux : CallerSelector → Bool
  | .linux _ => true
  | .windows _ => false

/-- The loop over the callers of a V2 grant. -/
def validateCallersV2 (callers : List CallerSelector) : Except String Unit :=
  callers.zipIdx.forM fun (caller, index) =>
    reject "V2 caller must be a unique Linux identity" (caller.isLinux = false ∨
      caller ∈ callers.take index)

end Checks

def RuntimePolicyRegistry.validate [Sha256] (registry : RuntimePolicyRegistry) :
    Except String Unit := do
  reject "local policy format differs"
    (registry.format ≠ "memcordon.local-policy" ∨ registry.revision ≠ 1)
  registry.profiles.items.zipIdx.forM fun (profile, index) =>
    validateProfile "registry profile definition differs or duplicates an identity"
      BaselineProfile.reference registry.profiles.items profile index
  registry.grants.items.zipIdx.forM fun (grant, index) => do
    validateSelectors "invalid grant identity, profile, ceiling or empty selectors"
      BaselineProfile.ceiling registry.profiles.items (registry.grants.items.take index) grant
    validateCallers grant.callers.items
    validatePlans "duplicate approved plan" grant.approvedPlans.items

/-- The checks of the execution identity of a V2 grant. -/
def validateGrantIdentity (registry : RuntimePrivatePolicyRegistry) (grant : PolicyGrantV2) :
    Except String Unit :=
  match grant.executionIdentity with
  | .preserveCaller => .ok ()
  | .administratorProfile reference => do
    reject "V2 grant execution identity is absent or disabled"
      (registry.executionIdentities.items.any (fun identity => identity.reference = reference &&
        (!grant.enabled || identity.enabled)) = false)
    reject "delegated identity requires private Linux profile"
      (registry.profiles.items.any (fun profile => profile.reference = grant.profile &&
        profile.profile = .linuxTcp4PrivateV1) = false)

def RuntimePrivatePolicyRegistry.validate [Sha256] (registry : RuntimePrivatePolicyRegistry) :
    Except String Unit := do
  reject "local private policy format differs"
    (registry.format ≠ "memcordon.local-private-policy" ∨ registry.revision ≠ 1)
  registry.profiles.items.zipIdx.forM fun (profile, index) =>
    validateProfile "invalid or duplicate V2 profile definition" ProfileKindV2.reference
      registry.profiles.items profile index
  registry.executionIdentities.items.zipIdx.forM fun (identity, index) => do
    identity.validate
    reject "duplicate execution identity" ((registry.executionIdentities.items.take index).any
      (fun prior => prior.reference.id = identity.reference.id) = true)
  registry.grants.items.zipIdx.forM fun (grant, index) => do
    validateSelectors "invalid V2 grant identity, profile or selectors" ProfileKindV2.ceiling
      registry.profiles.items ((registry.grants.items.take index).map PolicyGrantV2.toPolicyGrantV1)
      grant.toPolicyGrantV1
    validateCallersV2 grant.callers.items
    validatePlans "duplicate V2 approved plan" grant.approvedPlans.items
    validateGrantIdentity registry grant

end MemCordon.Workload
