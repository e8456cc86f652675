import MemCordon.Workload.CanonicalRegistry
import MemCordon.Workload.Projection

/-!
# Activation of a policy registry

How the agent makes a registry the active one, as in `policy_registry.rs`: the snapshot of the
registry is stored, snapshots that nothing refers to are removed, admissions are revoked, the epoch
moves on, and the activation replaces the file that holds the active one.

* `Store` is the policy directory: the activation file and the snapshots by their digests. A call
  returns the store also when it fails, for snapshots may have been removed by then.
* `Call` is one call of `activate` or `activate_v2`, with what it reads from outside the directory:
  the live bindings and a random nonce. Input and output succeed.
* `Serde` is the JSON library, which is not part of the source. `Serde.ReadsBack` says what is asked
  of it.

`activate` and `activate_v2` are one function, `Store.activateAny`, of the registry's version: V2
checks the activation once more before it writes it.
-/

namespace MemCordon.PolicyRegistry

open Workload Fallible

/-! ## Activations -/

/-- `Activation` and `ActivationV2`, over the registry of a version. -/
@[ext]
structure ActivationOf (ρ : Type) where
  format : String
  revision : UInt32
  registry : ρ
  registryDigest : DiagnosticSha256
  epoch : PolicyEpoch
  revokedAdmissions : BoundedVec Nonce128 256

abbrev Activation := ActivationOf RuntimePolicyRegistry
abbrev ActivationV2 := ActivationOf RuntimePrivatePolicyRegistry

section Activations

variable [Sha256]

def Activation.validate (activation : Activation) : Except String Unit := do
  reject "local activation format differs"
    (activation.format ≠ "memcordon.local-activation" ∨ activation.revision ≠ 1)
  let digest ← activation.registry.canonicalDigest
  reject "policy activation digest differs" (digest ≠ activation.registryDigest)

def ActivationV2.validate (activation : ActivationV2) : Except String Unit := do
  reject "local private activation format differs"
    (activation.format ≠ "memcordon.local-private-activation" ∨ activation.revision ≠ 1)
  let digest ← activation.registry.canonicalDigest
  reject "V2 policy activation digest differs" (digest ≠ activation.registryDigest)
  activation.revokedAdmissions.items.zipIdx.forM fun entry =>
    reject "duplicate V2 revoked admission"
      (entry.1 ∈ activation.revokedAdmissions.items.take entry.2)
  let _ ← activation.registry.baselineV1Projection
  pure ()

def ActivationV2.baselineProjection (activation : ActivationV2) : Except String Activation := do
  let registry ← activation.registry.baselineV1Projection
  let registryDigest ← registry.canonicalDigest
  pure {
    format := "memcordon.local-activation"
    revision := 1
    registry
    registryDigest
    epoch := activation.epoch
    revokedAdmissions := activation.revokedAdmissions }

end Activations

inductive VersionedActivation
  | v1 (value : Activation)
  | v2 (value : ActivationV2)

namespace VersionedActivation

def registryDigest : VersionedActivation → DiagnosticSha256
  | .v1 value => value.registryDigest
  | .v2 value => value.registryDigest

def epoch : VersionedActivation → PolicyEpoch
  | .v1 value => value.epoch
  | .v2 value => value.epoch

def revokedAdmissions : VersionedActivation → List Nonce128
  | .v1 value => value.revokedAdmissions.items
  | .v2 value => value.revokedAdmissions.items

end VersionedActivation

/-! ## JSON -/

def activationLimit : ℕ := Limits.registryBytes + Limits.publicObjectBytes

/-- What the agent uses of `serde_json` and of the derived serializers, with
`reject_duplicate_json_keys`. The revision and the format of a document are those that
`document_kind` looks up. -/
structure Serde where
  registry : RuntimePolicyRegistry → List UInt8
  registryV2 : RuntimePrivatePolicyRegistry → List UInt8
  activation : Activation → List UInt8
  activationV2 : ActivationV2 → List UInt8
  rejectDuplicateJsonKeys : List UInt8 → Except String Unit
  document : List UInt8 → Except String (Option UInt64 × Option String)
  readRegistry : List UInt8 → Except String RuntimePolicyRegistry
  readRegistryV2 : List UInt8 → Except String RuntimePrivatePolicyRegistry
  readActivation : List UInt8 → Except String Activation
  readActivationV2 : List UInt8 → Except String ActivationV2

def documentKind (serde : Serde) (bytes : List UInt8) (baseline privateFormat : String) :
    Except String ℕ := do
  reject "local policy document exceeds bound" (activationLimit < bytes.length)
  let (revision, format) ← serde.document bytes
  reject "unsupported local policy revision" (revision ≠ some 1)
  if format = some baseline then .ok 1
  else if format = some privateFormat then .ok 2
  else .error "unsupported local policy format"

def VersionedActivation.parse [Sha256] (serde : Serde) (bytes : List UInt8) :
    Except String VersionedActivation := do
  reject "policy activation exceeds bound" (activationLimit < bytes.length)
  serde.rejectDuplicateJsonKeys bytes
  let version
    ← documentKind serde bytes "memcordon.local-activation" "memcordon.local-private-activation"
  if version = 1 then
    let value ← serde.readActivation bytes
    value.validate
    pure (.v1 value)
  else if version = 2 then
    let value ← serde.readActivationV2 bytes
    value.validate
    pure (.v2 value)
  else .error "unsupported policy activation schema version"

/-! ## Registries -/

inductive RegistryConfiguration
  | v1 (registry : RuntimePolicyRegistry)
  | v2 (registry : RuntimePrivatePolicyRegistry)

namespace RegistryConfiguration

/-- `active_attempt_disposition` of the registry. -/
def disposition : RegistryConfiguration → GrantChangeDisposition
  | .v1 registry => registry.activeAttemptDisposition
  | .v2 registry => registry.activeAttemptDisposition

def text (serde : Serde) : RegistryConfiguration → List UInt8
  | .v1 registry => serde.registry registry
  | .v2 registry => serde.registryV2 registry

def activationFormat : RegistryConfiguration → String
  | .v1 _ => "memcordon.local-activation"
  | .v2 _ => "memcordon.local-private-activation"

def activation (configuration : RegistryConfiguration) (registryDigest : DiagnosticSha256)
    (epoch : PolicyEpoch) (revokedAdmissions : BoundedVec Nonce128 256) : VersionedActivation :=
  match configuration with
  | .v1 registry => .v1 {
      format := "memcordon.local-activation"
      revision := 1
      registry, registryDigest, epoch, revokedAdmissions }
  | .v2 registry => .v2 {
      format := "memcordon.local-private-activation"
      revision := 1
      registry, registryDigest, epoch, revokedAdmissions }

variable [Sha256]

def validate : RegistryConfiguration → Except String Unit
  | .v1 registry => registry.validate
  | .v2 registry => registry.validate

def canonicalDigest : RegistryConfiguration → Except String DiagnosticSha256
  | .v1 registry => registry.canonicalDigest
  | .v2 registry => registry.canonicalDigest

/-- The digest of what a snapshot holds, read as a registry of this version:
`RuntimePolicyRegistry::parse` or `RuntimePrivatePolicyRegistry::parse` and `canonical_digest`. -/
def snapshotDigest (serde : Serde) (configuration : RegistryConfiguration) (bytes : List UInt8) :
    Except String DiagnosticSha256 := do
  reject "policy registry exceeds byte limit" (Limits.registryBytes < bytes.length)
  serde.rejectDuplicateJsonKeys bytes
  match configuration with
  | .v1 _ => do
    let registry ← serde.readRegistry bytes
    registry.validate
    registry.canonicalDigest
  | .v2 _ => do
    let registry ← serde.readRegistryV2 bytes
    registry.validate
    registry.canonicalDigest

end RegistryConfiguration

def VersionedActivation.text (serde : Serde) : VersionedActivation → List UInt8
  | .v1 value => serde.activation value
  | .v2 value => serde.activationV2 value

/-- What `serde_json` returns for the bytes of an activation. -/
def VersionedActivation.ReadAs (serde : Serde) (bytes : List UInt8) : VersionedActivation → Prop
  | .v1 value => serde.readActivation bytes = .ok value
  | .v2 value => serde.readActivationV2 bytes = .ok value

/-- The activations of a registry are read back from their JSON with a newline after it, no key
stands twice in it, and it is longer than that of the registry by a header and at most 256 nonces of
16 numbers. -/
structure Serde.ReadsBack (serde : Serde) (configuration : RegistryConfiguration) : Prop where
  unique : ∀ digest epoch revoked, serde.rejectDuplicateJsonKeys
    ((configuration.activation digest epoch revoked).text serde ++ [10]) = .ok ()
  document : ∀ digest epoch revoked, serde.document
    ((configuration.activation digest epoch revoked).text serde ++ [10]) =
      .ok (some 1, some configuration.activationFormat)
  reads : ∀ digest epoch revoked, (configuration.activation digest epoch revoked).ReadAs serde
    ((configuration.activation digest epoch revoked).text serde ++ [10])
  length :
    ∀ digest epoch revoked, ((configuration.activation digest epoch revoked).text serde).length ≤
    (configuration.text serde).length + 32768

/-! ## Live bindings -/

/-- `VersionedLiveBinding`. Of the admission snapshots only the registry digest and the nonce are
read. -/
inductive VersionedLiveBinding
  | v1 (registryDigest : DiagnosticSha256) (admissionNonce : Nonce128)
  | privateBinding (registryDigest : DiagnosticSha256) (admissionNonce : Nonce128)

namespace VersionedLiveBinding

def registryDigest : VersionedLiveBinding → DiagnosticSha256
  | .v1 digest _ => digest
  | .privateBinding digest _ => digest

def admissionNonce : VersionedLiveBinding → Nonce128
  | .v1 _ nonce => nonce
  | .privateBinding _ nonce => nonce

end VersionedLiveBinding

/-- `Lease::versioned_live_bindings`, on the bindings that the records of attempts hold. -/
def versionedLiveBindings (records : List (String × VersionedLiveBinding)) :
    Except String (List (String × VersionedLiveBinding)) := do
  reject "policy live reference capacity exceeded" (Limits.liveBindings < records.length)
  pure records

/-- The turn of the loop over live bindings. -/
def revokeTurn (previous : Option Activation) (disposition : GrantChangeDisposition)
    (revoked : BoundedVec Nonce128 256) (entry : String × VersionedLiveBinding) :
    Except String (BoundedVec Nonce128 256) :=
  let nonce := entry.2.admissionNonce
  if (disposition = .revokeActive ∨
      previous.any (fun value => nonce ∈ value.revokedAdmissions.items) = true) ∧
      nonce ∉ revoked.items then
    okOr "revocation reference bound exceeded" (revoked.tryPush nonce)
  else .ok revoked

def nextRevocationsVersioned (previous : Option Activation) (disposition : GrantChangeDisposition)
    (live : List (String × VersionedLiveBinding)) : Except String (BoundedVec Nonce128 256) :=
  live.foldlM (revokeTurn previous disposition) .empty

/-! ## The policy directory -/

/-- The activation file and the snapshots, by their digests. -/
structure Store where
  activation : Option (List UInt8)
  snapshots : List (DiagnosticSha256 × List UInt8)

/-- A directory without files. -/
def Store.empty : Store := ⟨none, []⟩

/-- A call of `activate` or `activate_v2`. -/
structure Call where
  configuration : RegistryConfiguration
  serviceInstance : Option Nonce128
  live : List (String × VersionedLiveBinding)
  random : Nonce128

theorem firstRevision_ne : (1 : UInt64) ≠ 0 := by decide

instance : LawfulBEq DiagnosticSha256 := inferInstance

def nextEpoch (serviceInstance : Option Nonce128) (previous : Option Activation)
    (random : Nonce128) :
    Except String PolicyEpoch :=
  match serviceInstance, previous with
  | some serviceInstance, _ => .ok ⟨serviceInstance, 1, firstRevision_ne⟩
  | none, some previous =>
    if h : previous.epoch.revision.1 + 1 ≠ 0 then
      .ok ⟨previous.epoch.serviceInstance, previous.epoch.revision.1 + 1, h⟩
    else .error "policy revision exhausted"
  | none, none => .ok ⟨random, 1, firstRevision_ne⟩

namespace Store

variable [Sha256]

variable (serde : Serde) (store : Store)

/-- `Lease::read_any` -/
def readAny : Except String (Option VersionedActivation) :=
  match store.activation with
  | none => .ok none
  | some bytes => do
    reject "policy activation exceeds bound" (activationLimit < bytes.length)
    let value ← VersionedActivation.parse serde bytes
    pure (some value)

/-- `Lease::read` -/
def read : Except String (Option Activation) := do
  match ← store.readAny serde with
  | none => pure none
  | some (.v1 value) => pure (some value)
  | some (.v2 value) => do
    let projection ← value.baselineProjection
    pure (some projection)

/-- The digests that have to be kept: the candidate's, those of live bindings and that of the active
registry. -/
def retained (live : List (String × VersionedLiveBinding))
    (candidate : DiagnosticSha256) : Except String (List DiagnosticSha256) := do
  let references ← versionedLiveBindings live
  let active ← store.readAny serde
  pure (candidate :: references.map (fun entry => entry.2.registryDigest) ++
    (active.map VersionedActivation.registryDigest).toList)

/-- `Lease::check_capacity` -/
def checkCapacity (live : List (String × VersionedLiveBinding))
    (candidate : DiagnosticSha256) : Except String Unit := do
  let snapshots ← store.retained serde live candidate
  reject "policy snapshot capacity exhausted" (Limits.snapshots < snapshots.dedup.length)

/-- The loop of `retain_snapshot_encoded` that removes snapshots. -/
def prune (store : Store) (keep : List DiagnosticSha256) : Store :=
  { store with snapshots := store.snapshots.filter fun snapshot => snapshot.1 ∈ keep }

/-- The end of `retain_snapshot_encoded`: a new snapshot, or the comparison with the one that is
there. -/
def putSnapshot (configuration : RegistryConfiguration)
    (digest : DiagnosticSha256) : Except String Store := do
  reject "encoded registry exceeds limit" (Limits.registryBytes < (configuration.text serde).length)
  match store.snapshots.lookup digest with
  | none => pure { store with snapshots := (digest, configuration.text serde) :: store.snapshots }
  | some existing => do
    let existingDigest ← configuration.snapshotDigest serde existing
    reject "immutable policy snapshot differs" (existingDigest ≠ digest)
    pure store

/-- `Lease::retain_snapshot_encoded` -/
def retainSnapshotEncoded (live : List (String × VersionedLiveBinding))
    (configuration : RegistryConfiguration) (digest : DiagnosticSha256) :
    Store × Except String Unit :=
  let keep := do
    store.checkCapacity serde live digest
    store.retained serde live digest
  match keep with
  | .error e => (store, .error e)
  | .ok keep =>
    match (store.prune keep).putSnapshot serde configuration digest with
    | .error e => (store.prune keep, .error e)
    | .ok store => (store, .ok ())

/-- The checks before anything is stored. -/
def checkCall (call : Call) : Except String DiagnosticSha256 := do
  call.configuration.validate
  let digest ← call.configuration.canonicalDigest
  store.checkCapacity serde call.live digest
  pure digest

/-- The activation that a call writes, with the bytes of its file. -/
def nextActivation (call : Call) (digest : DiagnosticSha256) :
    Except String (VersionedActivation × List UInt8) := do
  let previous ← store.read serde
  let live ← versionedLiveBindings call.live
  let revoked ← nextRevocationsVersioned previous call.configuration.disposition live
  let epoch ← nextEpoch call.serviceInstance previous call.random
  let value := call.configuration.activation digest epoch revoked
  match value with
  | .v1 _ => pure ()
  | .v2 value => value.validate
  -- `write_activation` compares the length before it adds the newline.
  reject "encoded activation exceeds limit" (activationLimit < (value.text serde).length)
  pure (value, value.text serde ++ [10])

/-- `Lease::activate` and `Lease::activate_v2` -/
def activateAny (call : Call) : Store × Except String VersionedActivation :=
  match store.checkCall serde call with
  | .error e => (store, .error e)
  | .ok digest =>
    match store.retainSnapshotEncoded serde call.live call.configuration digest with
    | (store, .error e) => (store, .error e)
    | (store, .ok ()) =>
      match store.nextActivation serde call digest with
      | .error e => (store, .error e)
      | .ok (value, bytes) => ({ store with activation := some bytes }, .ok value)

end Store

/-! ## Sequences of calls -/

/-- A call with the directory before and after it and what it returned. -/
structure Turn where
  before : Store
  call : Call
  after : Store
  result : Except String VersionedActivation

/-- The calls of a sequence, one after the other. -/
def history [Sha256] (serde : Serde) : Store → List Call → List Turn
  | _, [] => []
  | store, call :: calls =>
    ⟨store, call, (store.activateAny serde call).1, (store.activateAny serde call).2⟩ ::
      history serde (store.activateAny serde call).1 calls

end MemCordon.PolicyRegistry
