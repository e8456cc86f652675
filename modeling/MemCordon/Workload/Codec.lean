import MemCordon.Foundations.Encoding
import MemCordon.Workload.Validity

/-!
# The canonical codec

The bytes of a contract, as in `workload_codec.rs`: a domain and a version, then the fields in
order, each integer big-endian and each text and list with its length before it. The encoder orders
every set-like list; the decoder reads the fields back, checks the contract and compares the bytes
with its encoding.

The V1 and V2 functions share their fields in the source by repetition. Here the shared part is
`encodeFields` and `decodeFields`.
-/

namespace MemCordon.Workload

open Fallible Keyed Encoding

/-! ## The encoder -/

namespace Encoder

def raw (bytes : List UInt8) : Emit String Unit :=
  Encoding.raw "canonical workload value exceeds limit" bytes

def byte (value : UInt8) : Emit String Unit := raw [value]

def u16 (value : UInt16) : Emit String Unit := raw (beBytes 2 value.toNat)

def u64 (value : UInt64) : Emit String Unit := raw (beBytes 8 value.toNat)

def count (value : ℕ) : Emit String Unit :=
  if value < UInt16.size then u16 (UInt16.ofNat value) else throw "canonical count exceeds u16"

def id (value : LogicalId) : Emit String Unit := do
  count value.bytes.length
  raw value.bytes

def digest (value : DiagnosticSha256) : Emit String Unit := raw value.toList

/-- A list after its length, the loop every set-like list is written with. -/
def list {α : Type} (write : α → Emit String Unit) (values : List α) : Emit String Unit := do
  count values.length
  values.forM write

/-- `Encoder::new`: the domain, a zero byte and the version. -/
def new (domain : List UInt8) : Emit String Unit := do
  raw domain
  byte 0
  u16 1

end Encoder

def DirectSocketCeiling.code : DirectSocketCeiling → UInt8
  | .pinnedLegacySocketFilterAccepted => 1
  | .noNewInetSockets => 2
  | .attemptPrivateIpv4StackAllPorts => 3
  | .externalHostPolicyAccepted => 4

def UnixAuthorityCeiling.code : UnixAuthorityCeiling → UInt8
  | .noNamedEndpointsSocketPairsOnly => 1
  | .existingHostUnixAuthorityAccepted => 2

/-- The byte of a socket custody ceiling. -/
def ExternalSocketCeiling.code : ExternalSocketCeiling → UInt8
  | .noSocketAtTargetEntry => 1
  | .existingStdioAuthorityAccepted => 2

def CredentialGainCeiling.code : CredentialGainCeiling → UInt8
  | .noGain => 1
  | .existingCallerEnvelopeAccepted => 2

def MediatedCommunicationCeiling.code : MediatedCommunicationCeiling → UInt8
  | .externalFilesystemAndStdioPolicyAccepted => 1
  | .requireNoExternalCommunication => 2

def encodeCeiling (ceiling : NetworkCeilingV1) : Emit String Unit := do
  Encoder.byte ceiling.directSocketAuthority.code
  Encoder.byte ceiling.unixAuthority.code
  Encoder.byte ceiling.externalSocketCustody.code
  Encoder.byte ceiling.credentialGains.code
  Encoder.byte ceiling.mediatedCommunication.code

def TcpScope.code : TcpScope → UInt8
  | .attemptPrivateStack => 1
  | .hostSharedLoopback => 2

def UnixSocketKind.code : UnixSocketKind → UInt8
  | .stream => 1
  | .datagram => 2
  | .seqPacket => 3

def IpFamily.code : IpFamily → UInt8
  | .v4 => 1
  | .v6 => 2

def DeniedOperation.code : DeniedOperation → UInt8
  | .inetSocketCreation => 1
  | .namedUnixSocketCreation => 2
  | .externalSocketImport => 3

/-- `scope` -/
def encodeScope (value : TcpScope) : Emit String Unit := Encoder.byte value.code

/-- `unix_kind` -/
def encodeUnixKind (value : UnixSocketKind) : Emit String Unit := Encoder.byte value.code

def RequirementV1.code : RequirementV1 → UInt8
  | .unixSocketCreation .. => 1
  | .unixSocketPair .. => 2
  | .tcp .. => 3
  | .suppliedTcpListener .. => 4
  | .denialExercise .. => 5

def encodePorts : LocalPortRequirement → Emit String Unit
  | .kernelAssigned => Encoder.byte 1
  | .exact port => do
    Encoder.byte 2
    Encoder.u16 port.1
  | .inclusiveRange first last => do
    Encoder.byte 3
    Encoder.u16 first.1
    Encoder.u16 last.1

def encodePeer : TcpPeerRequirement → Emit String Unit
  | .sameAttemptEndpoint endpoint => do
    Encoder.byte 1
    Encoder.id endpoint
  | .exactAddress (.v4 address port) => do
    Encoder.byte 2
    Encoder.byte 1
    Encoder.raw address.toList
    Encoder.u16 port.1
  | .exactAddress (.v6 address port) => do
    Encoder.byte 2
    Encoder.byte 2
    Encoder.raw address.toList
    Encoder.u16 port.1

/-- The operations of a TCP requirement, in the order of their tags. -/
def encodeOperations (operations : TcpOperations) : Emit String Unit :=
  Encoder.list (fun operation => Encoder.byte operation.tag)
    (sortByKey (fun operation => operation.tag.toNat) operations.operations.items)

/-- What follows the kind and the identifier of a requirement. -/
def encodeRequirementBody : RequirementV1 → Emit String Unit
  | .unixSocketCreation _ socketKind => encodeUnixKind socketKind
  | .unixSocketPair _ socketKind => encodeUnixKind socketKind
  | .tcp _ family operations scope localPorts peer => do
    Encoder.byte family.code
    encodeOperations operations
    encodeScope scope
    encodePorts localPorts
    encodePeer peer
  | .suppliedTcpListener _ endpoint scope => do
    Encoder.id endpoint
    encodeScope scope
  | .denialExercise _ operation => Encoder.byte operation.code

/-- `requirement` -/
def encodeRequirement (value : RequirementV1) : Emit String Unit := do
  Encoder.byte value.code
  Encoder.id value.id
  encodeRequirementBody value

/-- The turn of the loop over endpoints. -/
def encodeEndpoint (endpoint : EndpointDeclarationV1) : Emit String Unit := do
  Encoder.id endpoint.id
  Encoder.id endpoint.requirement

/-- The fields that `encode_contract` and `encode_contract_v2` share. -/
def encodeFields (request : WorkloadContractV1) : Emit String Unit := do
  Encoder.digest request.workloadPlanDigest
  Encoder.id request.authorizedProfile.id
  Encoder.digest request.authorizedProfile.semanticDigest
  Encoder.id request.authorization.grantId
  Encoder.u64 request.authorization.grantRevision.1
  Encoder.digest request.authorization.approvedPlanDigest
  encodeCeiling request.ceiling
  Encoder.list encodeRequirement (sortRequirements request.requirements.items)
  Encoder.list encodeEndpoint (sortEndpoints request.endpoints.items)
  Encoder.raw request.expectedEpoch.serviceInstance.toList
  Encoder.u64 request.expectedEpoch.revision.1

/-- The identity that `encode_contract_v2` adds. -/
def encodeIdentity : ExecutionIdentityRequestV2 → Emit String Unit
  | .preserveCaller => Encoder.byte 1
  | .administratorProfile reference => do
    Encoder.byte 2
    Encoder.id reference.id
    Encoder.digest reference.semanticDigest

/-- `memcordon-workload-contract-v`, without its last character. -/
def domainStem : List UInt8 := CodedText.bytes "memcordon-workload-contract-v"

def domainV1 : List UInt8 := domainStem ++ [49]

def domainV2 : List UInt8 := domainStem ++ [50]

/-- An encoder of a checked request: its domain and its fields, within the limit. -/
def encodeWith (domain : List UInt8) (validated : Except String Unit) (write : Emit String Unit) :
    Except String (List UInt8) := do
  validated
  emitted Limits.contractBytes do
    Encoder.new domain
    write

def encodeContract (request : WorkloadContractV1) : Except String (List UInt8) :=
  encodeWith domainV1 request.validate (encodeFields request)

def encodeContractV2 (request : WorkloadContractV2) : Except String (List UInt8) :=
  encodeWith domainV2 request.validate do
    encodeFields request.toV1
    encodeIdentity request.executionIdentity

/-! ## The decoder -/

namespace Decoder

def take (count : ℕ) : Scan String (List UInt8) := fun remaining =>
  if count ≤ remaining.length then .ok (remaining.take count, remaining.drop count)
  else .error "truncated canonical workload"

def fixed (n : ℕ) : Scan String (List.Vector UInt8 n) := do
  let value ← take n
  if h : value.length = n then pure ⟨value, h⟩ else throw "invalid fixed canonical field"

def byte : Scan String UInt8 := do
  let value ← fixed 1
  pure value.head

def u16 : Scan String UInt16 := do
  let value ← fixed 2
  pure (UInt16.ofNat (beValue value.toList))

def u64 : Scan String UInt64 := do
  let value ← fixed 8
  pure (UInt64.ofNat (beValue value.toList))

/-- A value that was checked without reading. -/
def check {α : Type} (x : Except String α) : Scan String α := StateT.lift x

def id : Scan String LogicalId := do
  let count ← u16
  let bytes ← take count.toNat
  check (reject "canonical id is not UTF-8" (CodedText.isUtf8 bytes = false))
  check (LogicalId.new bytes)

def digest : Scan String DiagnosticSha256 := fixed 32

def port : Scan String NonZeroU16 := do
  let value ← u16
  if h : value ≠ 0 then pure ⟨value, h⟩ else throw "canonical port is zero"

def revision : Scan String NonZeroU64 := do
  let value ← u64
  if h : value ≠ 0 then pure ⟨value, h⟩ else throw "canonical revision is zero"

/-- A byte that stands for a value of an enumeration. -/
def tagged {α : Type} (e : String) (values : UInt8 → Option α) : Scan String α := do
  let tag ← byte
  check (okOr e (values tag))

def unixKind : Scan String UnixSocketKind := tagged "unknown canonical UNIX kind" fun
  | 1 => some .stream
  | 2 => some .datagram
  | 3 => some .seqPacket
  | _ => none

def scope : Scan String TcpScope := tagged "unknown canonical TCP scope" fun
  | 1 => some .attemptPrivateStack
  | 2 => some .hostSharedLoopback
  | _ => none

def ceiling : Scan String NetworkCeilingV1 := do
  let directSocketAuthority ← tagged "unknown direct socket ceiling" fun
    | 1 => some .pinnedLegacySocketFilterAccepted
    | 2 => some .noNewInetSockets
    | 3 => some .attemptPrivateIpv4StackAllPorts
    | 4 => some .externalHostPolicyAccepted
    | _ => none
  let unixAuthority ← tagged "unknown UNIX ceiling" fun
    | 1 => some .noNamedEndpointsSocketPairsOnly
    | 2 => some .existingHostUnixAuthorityAccepted
    | _ => none
  let externalSocketCustody ← tagged "unknown socket custody ceiling" fun
    | 1 => some .noSocketAtTargetEntry
    | 2 => some .existingStdioAuthorityAccepted
    | _ => none
  let credentialGains ← tagged "unknown credential ceiling" fun
    | 1 => some .noGain
    | 2 => some .existingCallerEnvelopeAccepted
    | _ => none
  let mediatedCommunication ← tagged "unknown mediated communication ceiling" fun
    | 1 => some .externalFilesystemAndStdioPolicyAccepted
    | 2 => some .requireNoExternalCommunication
    | _ => none
  pure { directSocketAuthority, unixAuthority, externalSocketCustody, credentialGains,
         mediatedCommunication }

def pushing {α : Type} {n : ℕ} (e : String) (reader : Scan String α) :
    ℕ → BoundedVec α n → Scan String (BoundedVec α n)
  | 0, values => pure values
  | count + 1, values => do
    let value ← reader
    let values ← check (okOr e (values.tryPush value))
    pushing e reader count values

/-- The family of a TCP requirement. -/
def family : Scan String IpFamily := tagged "unknown canonical IP family" fun
  | 1 => some .v4
  | 2 => some .v6
  | _ => none

def operation : Scan String TcpOperation := tagged "unknown canonical TCP operation" fun
  | 1 => some .create
  | 2 => some .bind
  | 3 => some .listen
  | 4 => some .accept
  | 5 => some .connect
  | 6 => some .streamRead
  | 7 => some .streamWrite
  | _ => none

def operations : Scan String TcpOperations := do
  let count ← u16
  check (reject "canonical TCP operation count exceeds bound" (7 < count.toNat))
  let operations ← pushing "canonical operation count exceeds bound" operation count.toNat .empty
  check (TcpOperations.new operations)

def localPorts : Scan String LocalPortRequirement := do
  match ← byte with
  | 1 => pure .kernelAssigned
  | 2 => do
    let port ← port
    pure (.exact port)
  | 3 => do
    let first ← port
    let last ← port
    pure (.inclusiveRange first last)
  | _ => throw "unknown canonical port selector"

/-- The address of an exact peer. -/
def address : Scan String TcpEndpoint := do
  match ← byte with
  | 1 => do
    let address ← fixed 4
    let port ← port
    pure (.v4 address port)
  | 2 => do
    let address ← fixed 16
    let port ← port
    pure (.v6 address port)
  | _ => throw "unknown canonical peer address family"

def peer : Scan String TcpPeerRequirement := do
  match ← byte with
  | 1 => do
    let endpoint ← id
    pure (.sameAttemptEndpoint endpoint)
  | 2 => do
    let endpoint ← address
    pure (.exactAddress endpoint)
  | _ => throw "unknown canonical peer selector"

def deniedOperation : Scan String DeniedOperation := tagged "unknown canonical denial operation" fun
  | 1 => some .inetSocketCreation
  | 2 => some .namedUnixSocketCreation
  | 3 => some .externalSocketImport
  | _ => none

/-- What follows the kind and the identifier of a requirement. -/
def requirementBody (tag : UInt8) (id : LogicalId) : Scan String RequirementV1 :=
  match tag with
  | 1 => do
    let socketKind ← unixKind
    pure (.unixSocketCreation id socketKind)
  | 2 => do
    let socketKind ← unixKind
    pure (.unixSocketPair id socketKind)
  | 3 => do
    let family ← family
    let operations ← operations
    let scope ← scope
    let localPorts ← localPorts
    let peer ← peer
    pure (.tcp id family operations scope localPorts peer)
  | 4 => do
    let endpoint ← Decoder.id
    let scope ← scope
    pure (.suppliedTcpListener id endpoint scope)
  | 5 => do
    let operation ← deniedOperation
    pure (.denialExercise id operation)
  | _ => throw "unknown canonical requirement"

def requirement : Scan String RequirementV1 := do
  let tag ← byte
  let id ← id
  requirementBody tag id

/-- The turn of the loop over endpoints. -/
def endpoint : Scan String EndpointDeclarationV1 := do
  let id ← id
  let requirement ← Decoder.id
  pure { id, requirement }

/-- A count that is checked against a bound, and as many values. -/
def bounded {α : Type} (n : ℕ) (e : String) (reader : Scan String α) :
    Scan String (BoundedVec α n) := do
  let count ← u16
  check (reject e (n < count.toNat))
  pushing e reader count.toNat .empty

/-- The fields that `decode_contract` and `decode_contract_v2` share. -/
def fields : Scan String WorkloadContractV1 := do
  let workloadPlanDigest ← digest
  let profileId ← id
  let semanticDigest ← digest
  let grantId ← id
  let grantRevision ← revision
  let approvedPlanDigest ← digest
  let ceiling ← ceiling
  let requirements
    ← bounded Limits.requirements "canonical requirement count exceeds bound" requirement
  let endpoints ← bounded Limits.endpoints "canonical endpoint count exceeds bound" endpoint
  let serviceInstance ← fixed 16
  let epochRevision ← revision
  pure {
    workloadPlanDigest
    authorizedProfile := { id := profileId, semanticDigest }
    authorization := { grantId, grantRevision, approvedPlanDigest }
    ceiling
    requirements
    endpoints
    expectedEpoch := { serviceInstance, revision := epochRevision } }

/-- The identity that `decode_contract_v2` adds. -/
def identity : Scan String ExecutionIdentityRequestV2 := do
  match ← byte with
  | 1 => pure .preserveCaller
  | 2 => do
    let id ← id
    let semanticDigest ← digest
    pure (.administratorProfile { id, semanticDigest })
  | _ => throw "unknown canonical execution identity tag"

/-- The domain and the version at the start. The version is read when the domain agrees. -/
def domain (expected : List UInt8) : Scan String Unit := do
  let found ← take (expected ++ [0]).length
  check (reject "canonical workload domain or version differs" (found ≠ expected ++ [0]))
  let version ← u16
  check (reject "canonical workload domain or version differs" (version ≠ 1))

def fieldsV2 : Scan String WorkloadContractV2 := do
  let fields ← fields
  let executionIdentity ← identity
  pure {
    workloadPlanDigest := fields.workloadPlanDigest
    authorizedProfile := fields.authorizedProfile
    authorization := fields.authorization
    ceiling := fields.ceiling
    requirements := fields.requirements
    endpoints := fields.endpoints
    expectedEpoch := fields.expectedEpoch
    executionIdentity }

/-- Everything up to the end of the bytes. -/
def complete {α : Type} (reader : Scan String α) (bytes : List UInt8) : Except String α := do
  reject "canonical workload exceeds byte limit" (Limits.contractBytes < bytes.length)
  let (value, remaining) ← reader bytes
  reject "unknown trailing canonical bytes" (remaining ≠ [])
  .ok value

end Decoder

/-- A decoder that checks what it has read and compares the bytes with its encoding. -/
def decodeWith {α : Type} (reader : Scan String α) (validate : α → Except String Unit)
    (encode : α → Except String (List UInt8)) (bytes : List UInt8) : Except String α := do
  let request ← Decoder.complete reader bytes
  validate request
  let encoded ← encode request
  reject "noncanonical workload set order" (encoded ≠ bytes)
  .ok request

def decodeContract : List UInt8 → Except String WorkloadContractV1 :=
  decodeWith (do Decoder.domain domainV1; Decoder.fields) WorkloadContractV1.validate encodeContract

def decodeContractV2 : List UInt8 → Except String WorkloadContractV2 :=
  decodeWith (do Decoder.domain domainV2; Decoder.fieldsV2) WorkloadContractV2.validate
    encodeContractV2

end MemCordon.Workload
