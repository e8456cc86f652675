import MemCordon.Foundations.CodedText
import MemCordon.Foundations.Fallible
import MemCordon.Foundations.Keyed
import Mathlib.Data.Vector.Basic

/-!
# Workload contracts

The contract a workload asks for, as in `workload_contract.rs`, with the limits of
`workload_limits.rs` and the bounded containers of `diagnostics.rs`.

A type that the source can only build through a check carries what the check found: an identifier is
a `LogicalId`, a set of TCP operations a `TcpOperations`, a bounded list a `BoundedVec`. Texts are
their bytes, and a fixed array is a vector of bytes. The loop over endpoint dependencies is `walk`,
with a step for every endpoint and one more.
-/

namespace MemCordon.Workload

open Fallible

/-! ## Limits -/

namespace Limits

def contractBytes : ℕ := 64 * 1024
def registryBytes : ℕ := 1024 * 1024
def requirements : ℕ := 64
def endpoints : ℕ := 32
def identifierBytes : ℕ := 64
def profiles : ℕ := 16
def executionIdentities : ℕ := 32
def groupsPerIdentity : ℕ := 32
def entrypointsPerIdentity : ℕ := 8
def entrypointPathBytes : ℕ := 4096
def grants : ℕ := 128
def plansPerGrant : ℕ := 16
def callersPerGrant : ℕ := 4
def snapshots : ℕ := 16
def liveBindings : ℕ := 256
def publicObjectBytes : ℕ := 128 * 1024
def conflicts : ℕ := 16

end Limits

/-! ## Containers -/

structure BoundedVec (α : Type*) (n : ℕ) where
  items : List α
  bounded : items.length ≤ n
  deriving DecidableEq

namespace BoundedVec

variable {α : Type*} {n : ℕ}

@[ext] theorem ext {a b : BoundedVec α n} (h : a.items = b.items) : a = b := by
  cases a
  cases b
  congr

/-- `BoundedVec::default` -/
def empty : BoundedVec α n := ⟨[], Nat.zero_le n⟩

/-- `BoundedVec::try_push`. Nothing is returned when the vector is full. -/
def tryPush (v : BoundedVec α n) (a : α) : Option (BoundedVec α n) :=
  if h : v.items.length = n then none
  else some ⟨v.items ++ [a], by
    have hbounded := v.bounded
    rw [List.length_append, List.length_singleton]
    omega⟩

theorem tryPush_eq_some {v w : BoundedVec α n} {a : α} :
    v.tryPush a = some w ↔ v.items.length < n ∧ w.items = v.items ++ [a] := by
  have hbounded := v.bounded
  unfold tryPush
  split_ifs with h
  · simp [h]
  · constructor
    · intro hw
      cases hw
      exact ⟨by omega, rfl⟩
    · rintro ⟨-, hw⟩
      exact congrArg some (BoundedVec.ext hw.symm)

/-- The turn of a loop that pushes what it selects. -/
def pushSelected {β : Type*} (e : String) (select : β → Option α) (v : BoundedVec α n) (b : β) :
    Except String (BoundedVec α n) :=
  match select b with
  | some a => okOr e (v.tryPush a)
  | none => .ok v

/-- A loop that pushes what it selects. -/
def collect {β : Type*} (e : String) (select : β → Option α) (items : List β) :
    Except String (BoundedVec α n) :=
  items.foldlM (pushSelected e select) .empty

end BoundedVec

/-- `BoundedText`, as its bytes. -/
structure BoundedText (n : ℕ) where
  bytes : List UInt8
  bounded : bytes.length ≤ n
  noNul : (0 : UInt8) ∉ bytes
  utf8 : CodedText.isUtf8 bytes = true
  deriving DecidableEq

theorem BoundedText.ext {n : ℕ} {a b : BoundedText n} (h : a.bytes = b.bytes) : a = b := by
  cases a
  cases b
  congr

abbrev DiagnosticSha256 := List.Vector UInt8 32

abbrev Nonce128 := List.Vector UInt8 16

abbrev NonZeroU16 := {v : UInt16 // v ≠ 0}
abbrev NonZeroU32 := {v : UInt32 // v ≠ 0}
abbrev NonZeroU64 := {v : UInt64 // v ≠ 0}

/-! ## Identifiers -/

/-- The checks of `LogicalId::new`: lowercase letters, digits and single inner hyphens. -/
def validIdentifier (value : List UInt8) : Bool :=
  !(value.isEmpty || decide (Limits.identifierBytes < value.length) || value.head? == some 45 ||
    value.getLast? == some 45 || value.tails.any (fun tail => [45, 45].isPrefixOf tail) ||
    !value.all fun byte => (97 ≤ byte && byte ≤ 122) || (48 ≤ byte && byte ≤ 57) || byte == 45)

structure LogicalId where
  bytes : List UInt8
  valid : validIdentifier bytes = true
  deriving DecidableEq

def LogicalId.new (value : List UInt8) : Except String LogicalId :=
  if h : validIdentifier value = true then .ok ⟨value, h⟩
  else .error "invalid workload logical identifier"

/-- The order of identifiers is that of their bytes. -/
def LogicalId.key (id : LogicalId) : List ℕ := id.bytes.map UInt8.toNat

/-! ## References -/

@[ext]
structure PolicyEpoch where
  serviceInstance : Nonce128
  revision : NonZeroU64
  deriving DecidableEq

@[ext]
structure ProfileRef where
  id : LogicalId
  semanticDigest : DiagnosticSha256
  deriving DecidableEq

@[ext]
structure AuthorizationRef where
  grantId : LogicalId
  grantRevision : NonZeroU64
  approvedPlanDigest : DiagnosticSha256
  deriving DecidableEq

/-! ## Ceilings -/

inductive DirectSocketCeiling
  | pinnedLegacySocketFilterAccepted
  | noNewInetSockets
  | attemptPrivateIpv4StackAllPorts
  | externalHostPolicyAccepted
  deriving DecidableEq

inductive UnixAuthorityCeiling
  | noNamedEndpointsSocketPairsOnly
  | existingHostUnixAuthorityAccepted
  deriving DecidableEq

inductive ExternalSocketCeiling
  | noSocketAtTargetEntry
  | existingStdioAuthorityAccepted
  deriving DecidableEq

inductive CredentialGainCeiling
  | noGain
  | existingCallerEnvelopeAccepted
  deriving DecidableEq

inductive MediatedCommunicationCeiling
  | externalFilesystemAndStdioPolicyAccepted
  | requireNoExternalCommunication
  deriving DecidableEq

structure NetworkCeilingV1 where
  directSocketAuthority : DirectSocketCeiling
  unixAuthority : UnixAuthorityCeiling
  externalSocketCustody : ExternalSocketCeiling
  credentialGains : CredentialGainCeiling
  mediatedCommunication : MediatedCommunicationCeiling
  deriving DecidableEq

/-! ## Requirements -/

inductive UnixSocketKind
  | stream
  | datagram
  | seqPacket
  deriving DecidableEq

inductive IpFamily
  | v4
  | v6
  deriving DecidableEq

inductive TcpScope
  | attemptPrivateStack
  | hostSharedLoopback
  deriving DecidableEq

inductive TcpOperation
  | create
  | bind
  | listen
  | accept
  | connect
  | streamRead
  | streamWrite
  deriving DecidableEq

def TcpOperation.tag : TcpOperation → UInt8
  | .create => 1
  | .bind => 2
  | .listen => 3
  | .accept => 4
  | .connect => 5
  | .streamRead => 6
  | .streamWrite => 7

/-- The checks of `TcpOperations::new`. -/
def validOperations (values : List TcpOperation) : Bool :=
  let has operation := values.contains operation
  !(values.isEmpty || (values.zipIdx.any fun entry => (values.take entry.2).contains entry.1) ||
    (has .listen && !has .bind) || (has .accept && !has .listen) ||
    ((has .streamRead || has .streamWrite) && !(has .accept || has .connect)))

structure TcpOperations where
  operations : BoundedVec TcpOperation 7
  valid : validOperations operations.items = true
  deriving DecidableEq

def TcpOperations.new (operations : BoundedVec TcpOperation 7) : Except String TcpOperations :=
  if h : validOperations operations.items = true then .ok ⟨operations, h⟩
  else .error "contradictory or duplicate TCP operation set"

inductive LocalPortRequirement
  | kernelAssigned
  | exact (port : NonZeroU16)
  | inclusiveRange (first last : NonZeroU16)
  deriving DecidableEq

inductive TcpEndpoint
  | v4 (address : List.Vector UInt8 4) (port : NonZeroU16)
  | v6 (address : List.Vector UInt8 16) (port : NonZeroU16)
  deriving DecidableEq

inductive TcpPeerRequirement
  | sameAttemptEndpoint (endpoint : LogicalId)
  | exactAddress (endpoint : TcpEndpoint)
  deriving DecidableEq

inductive DeniedOperation
  | inetSocketCreation
  | namedUnixSocketCreation
  | externalSocketImport
  deriving DecidableEq

inductive RequirementV1
  | unixSocketCreation (id : LogicalId) (socketKind : UnixSocketKind)
  | unixSocketPair (id : LogicalId) (socketKind : UnixSocketKind)
  | tcp (id : LogicalId) (family : IpFamily) (operations : TcpOperations) (scope : TcpScope)
      (localPorts : LocalPortRequirement) (peer : TcpPeerRequirement)
  | suppliedTcpListener (id endpoint : LogicalId) (scope : TcpScope)
  | denialExercise (id : LogicalId) (operation : DeniedOperation)
  deriving DecidableEq

def RequirementV1.id : RequirementV1 → LogicalId
  | .unixSocketCreation id _ => id
  | .unixSocketPair id _ => id
  | .tcp id .. => id
  | .suppliedTcpListener id .. => id
  | .denialExercise id _ => id

structure EndpointDeclarationV1 where
  id : LogicalId
  requirement : LogicalId
  deriving DecidableEq

/-! ## Contracts -/

@[ext]
structure ExecutionIdentityRefV2 where
  id : LogicalId
  semanticDigest : DiagnosticSha256
  deriving DecidableEq

inductive ExecutionIdentityRequestV2
  | preserveCaller
  | administratorProfile (reference : ExecutionIdentityRefV2)
  deriving DecidableEq

/-- `WorkloadContractV1`. The schema version is a type with one value. -/
structure WorkloadContractV1 where
  workloadPlanDigest : DiagnosticSha256
  authorizedProfile : ProfileRef
  authorization : AuthorizationRef
  ceiling : NetworkCeilingV1
  requirements : BoundedVec RequirementV1 Limits.requirements
  endpoints : BoundedVec EndpointDeclarationV1 Limits.endpoints
  expectedEpoch : PolicyEpoch
  deriving DecidableEq

/-- `WorkloadContractV2`, which adds an execution identity. -/
structure WorkloadContractV2 where
  workloadPlanDigest : DiagnosticSha256
  authorizedProfile : ProfileRef
  authorization : AuthorizationRef
  ceiling : NetworkCeilingV1
  requirements : BoundedVec RequirementV1 Limits.requirements
  endpoints : BoundedVec EndpointDeclarationV1 Limits.endpoints
  expectedEpoch : PolicyEpoch
  executionIdentity : ExecutionIdentityRequestV2
  deriving DecidableEq

/-! ## Validation -/

/-- `Ipv4Addr::is_loopback` -/
def isLoopbackV4 (address : List.Vector UInt8 4) : Bool := address.toList.head? == some 127

/-- `Ipv6Addr::is_loopback` -/
def isLoopbackV6 (address : List.Vector UInt8 16) : Bool :=
  address.toList == List.replicate 15 0 ++ [1]

/-- `Ipv6Addr::to_ipv4_mapped` finds an address. -/
def isMappedV6 (address : List.Vector UInt8 16) : Bool :=
  address.toList.take 12 == List.replicate 10 0 ++ [255, 255]

def validateExactPeerScope (scope : TcpScope) (endpoint : TcpEndpoint) : Except String Unit := do
  let loopback ← match endpoint with
    | .v4 address _ => .ok (isLoopbackV4 address)
    | .v6 address _ =>
      if isMappedV6 address then .error "IPv4-mapped IPv6 exact peer is ambiguous"
      else .ok (isLoopbackV6 address)
  reject "host-shared-loopback exact peer is not loopback"
    (scope = .hostSharedLoopback ∧ loopback = false)

/-- The check of a port range. -/
def RequirementV1.validatePorts : RequirementV1 → Except String Unit
  | .tcp _ _ _ _ (.inclusiveRange first last) _ =>
    reject "inverted TCP port range" (last.1 < first.1)
  | _ => .ok ()

def RequirementV1.validateExactPeer : RequirementV1 → Except String Unit
  | .tcp _ family _ scope _ (.exactAddress endpoint) =>
    match family, endpoint with
    | .v4, .v4 .. | .v6, .v6 .. => validateExactPeerScope scope endpoint
    | _, _ => .error "TCP family differs from exact peer family"
  | _ => .ok ()

def RequirementV1.referenced : RequirementV1 → Option LogicalId
  | .tcp _ _ _ _ _ (.sameAttemptEndpoint endpoint) => some endpoint
  | .suppliedTcpListener _ endpoint _ => some endpoint
  | _ => none

def RequirementV1.peerEndpoint : RequirementV1 → Option LogicalId
  | .tcp _ _ _ _ _ (.sameAttemptEndpoint endpoint) => some endpoint
  | _ => none

/-- The turn of the loop over requirements. -/
def validateRequirement (requirements : List RequirementV1) (endpoints : List EndpointDeclarationV1)
    (requirement : RequirementV1) (index : ℕ) : Except String Unit := do
  reject "duplicate workload requirement identifier"
    ((requirements.take index).any (fun prior => prior.id = requirement.id) = true)
  requirement.validatePorts
  requirement.validateExactPeer
  match requirement.referenced with
  | some reference =>
    reject "unresolved workload endpoint"
      (endpoints.any (fun endpoint => endpoint.id = reference) = false)
  | none => .ok ()

def ownerOf (requirements : List RequirementV1) (id : LogicalId) : Option RequirementV1 :=
  requirements.find? fun requirement => requirement.id = id

def declared (endpoints : List EndpointDeclarationV1) (id : LogicalId) :
    Option EndpointDeclarationV1 :=
  endpoints.find? fun endpoint => endpoint.id = id

/-- The loop over the dependencies of an endpoint: its verdict, or `none` when it has not ended
within the given number of steps. -/
def walk (owner : LogicalId → Option RequirementV1)
    (endpoint : LogicalId → Option EndpointDeclarationV1) :
    ℕ → List LogicalId → EndpointDeclarationV1 → Option (Except String Unit)
  | 0, _, _ => none
  | fuel + 1, visited, current =>
    if visited.contains current.id then some (.error "cyclic endpoint dependencies")
    else
      match owner current.requirement with
      | none => some (.error "unresolved endpoint owner")
      | some requirement =>
        match requirement.peerEndpoint with
        | none => some (.ok ())
        | some next =>
          match endpoint next with
          | none => some (.error "unresolved endpoint dependency")
          | some following => walk owner endpoint fuel (visited ++ [current.id]) following

/-- The check that a peer of an endpoint has its family and scope. -/
def validatePeer (id : LogicalId) (ownerFamily : IpFamily) (ownerScope : TcpScope)
    (requirement : RequirementV1) : Except String Unit :=
  match requirement with
  | .tcp _ family _ scope _ (.sameAttemptEndpoint reference) =>
    reject "endpoint peer family or scope differs"
      (reference = id ∧ (family ≠ ownerFamily ∨ scope ≠ ownerScope))
  | _ => .ok ()

/-- The turn of the loop over endpoints. -/
def validateEndpoint (requirements : List RequirementV1) (endpoints : List EndpointDeclarationV1)
    (endpoint : EndpointDeclarationV1) (index : ℕ) : Except String Unit := do
  reject "duplicate or unresolved endpoint declaration"
    ((endpoints.take index).any (fun prior => prior.id = endpoint.id) = true ∨
      requirements.any (fun requirement => requirement.id = endpoint.requirement) = false)
  let owner ← okOr "unresolved endpoint owner" (ownerOf requirements endpoint.requirement)
  match owner with
  | .tcp _ ownerFamily operations ownerScope _ _ =>
    reject "declared endpoint owner does not require listen"
      (operations.operations.items.contains .listen = false)
    requirements.forM (validatePeer endpoint.id ownerFamily ownerScope)
    -- the loop has no bound in the source; `walk_ends` says that this one is never met
    (walk (ownerOf requirements) (declared endpoints) (endpoints.length + 1) [] endpoint).getD
      (.error "endpoint dependencies not followed to their end")
  | _ => .error "declared endpoint owner is not a TCP listener"

def WorkloadContractV1.validate (contract : WorkloadContractV1) : Except String Unit := do
  reject "authorization and workload plan digests differ"
    (contract.workloadPlanDigest ≠ contract.authorization.approvedPlanDigest)
  contract.requirements.items.zipIdx.forM fun entry =>
    validateRequirement contract.requirements.items contract.endpoints.items entry.1 entry.2
  contract.endpoints.items.zipIdx.forM fun entry =>
    validateEndpoint contract.requirements.items contract.endpoints.items entry.1 entry.2

def WorkloadContractV2.toV1 (contract : WorkloadContractV2) : WorkloadContractV1 where
  workloadPlanDigest := contract.workloadPlanDigest
  authorizedProfile := contract.authorizedProfile
  authorization := contract.authorization
  ceiling := contract.ceiling
  requirements := contract.requirements
  endpoints := contract.endpoints
  expectedEpoch := contract.expectedEpoch

/-- `linux-tcp4-private-v1` -/
def privateProfileId : LogicalId :=
  ⟨[108, 105, 110, 117, 120, 45, 116, 99, 112, 52, 45, 112, 114, 105, 118, 97, 116, 101, 45, 118,
    49], by decide⟩

def WorkloadContractV2.validate (contract : WorkloadContractV2) : Except String Unit := do
  contract.toV1.validate
  reject "private TCP profile requires private socket and no-gain ceilings"
    (contract.authorizedProfile.id = privateProfileId ∧
      (contract.ceiling.directSocketAuthority ≠ .attemptPrivateIpv4StackAllPorts ∨
        contract.ceiling.credentialGains ≠ .noGain))

end MemCordon.Workload
