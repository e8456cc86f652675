import MemCordon.Workload.Codec

/-!
# The canonical codec is a bijection onto its image

* The encoder of a valid contract writes one string, `encoded`, which always fits
  (`encodeContract_eq_ok`).
* The decoder reads these fields back, in canonical order, whatever follows (`reads_fields`).
* `canonical_codec`: every contract has one string, up to the order of sets, and only these are
  accepted.
-/

namespace MemCordon.Workload

open Fallible Keyed Encoding

/-! ## What the encoder writes -/

def LogicalId.encoded (id : LogicalId) : List UInt8 := prefixed id.bytes

def encoded16 (value : UInt16) : List UInt8 := beBytes 2 value.toNat
def encoded64 (value : UInt64) : List UInt8 := beBytes 8 value.toNat

def NetworkCeilingV1.encoded (ceiling : NetworkCeilingV1) : List UInt8 :=
  [ceiling.directSocketAuthority.code, ceiling.unixAuthority.code,
    ceiling.externalSocketCustody.code,
    ceiling.credentialGains.code, ceiling.mediatedCommunication.code]

/-- The bytes of a selection of ports. -/
def LocalPortRequirement.encoded : LocalPortRequirement → List UInt8
  | .kernelAssigned => [1]
  | .exact port => [2] ++ encoded16 port.1
  | .inclusiveRange first last => [3] ++ (encoded16 first.1 ++ encoded16 last.1)

/-- The bytes of an exact address. -/
def TcpEndpoint.encoded : TcpEndpoint → List UInt8
  | .v4 address port => [1] ++ (address.toList ++ encoded16 port.1)
  | .v6 address port => [2] ++ (address.toList ++ encoded16 port.1)

def TcpPeerRequirement.encoded : TcpPeerRequirement → List UInt8
  | .sameAttemptEndpoint endpoint => [1] ++ endpoint.encoded
  | .exactAddress endpoint => [2] ++ endpoint.encoded

/-- The bytes of the operations, in order. -/
def TcpOperations.encoded (operations : TcpOperations) : List UInt8 :=
  counted (fun operation => [operation.tag]) operations.canonical.operations.items

/-- The bytes of a requirement after its identifier. -/
def RequirementV1.body : RequirementV1 → List UInt8
  | .unixSocketCreation _ socketKind => [socketKind.code]
  | .unixSocketPair _ socketKind => [socketKind.code]
  | .tcp _ family operations scope localPorts peer =>
    [family.code] ++ (operations.encoded ++ ([scope.code] ++ (localPorts.encoded ++ peer.encoded)))
  | .suppliedTcpListener _ endpoint scope => endpoint.encoded ++ [scope.code]
  | .denialExercise _ operation => [operation.code]

def RequirementV1.encoded (requirement : RequirementV1) : List UInt8 :=
  [requirement.code] ++ (requirement.id.encoded ++ requirement.body)

def EndpointDeclarationV1.encoded (endpoint : EndpointDeclarationV1) : List UInt8 :=
  endpoint.id.encoded ++ endpoint.requirement.encoded

/-- The bytes of the shared fields. -/
def WorkloadContractV1.fields (contract : WorkloadContractV1) : List UInt8 :=
  contract.workloadPlanDigest.toList ++ (contract.authorizedProfile.id.encoded ++
    (contract.authorizedProfile.semanticDigest.toList ++ (contract.authorization.grantId.encoded ++
      (encoded64 contract.authorization.grantRevision.1 ++
        (contract.authorization.approvedPlanDigest.toList ++ (contract.ceiling.encoded ++
          (counted RequirementV1.encoded (sortRequirements contract.requirements.items) ++
            (counted EndpointDeclarationV1.encoded (sortEndpoints contract.endpoints.items) ++
              (contract.expectedEpoch.serviceInstance.toList ++
                encoded64 contract.expectedEpoch.revision.1)))))))))

def ExecutionIdentityRequestV2.encoded : ExecutionIdentityRequestV2 → List UInt8
  | .preserveCaller => [1]
  | .administratorProfile reference =>
    [2] ++ (reference.id.encoded ++ reference.semanticDigest.toList)

/-- The bytes of a domain and of the version. -/
def header (domain : List UInt8) : List UInt8 := domain ++ ([0] ++ encoded16 1)

section Written

theorem raw_seq (a b : List UInt8) : (do Encoder.raw a; Encoder.raw b) = Encoder.raw (a ++ b) :=
  raw_bind_raw a b

theorem toNat_count {n : ℕ} (h : n < 65536) : (UInt16.ofNat n).toNat = n :=
  UInt16.toNat_ofNat_of_lt h

theorem count_eq {n : ℕ} (h : n < 65536) : Encoder.count n = Encoder.raw (beBytes 2 n) := by
  have hsize : n < UInt16.size := h
  unfold Encoder.count Encoder.u16
  rw [if_pos hsize, toNat_count h]

theorem LogicalId.length_le (id : LogicalId) : id.bytes.length ≤ 64 := by
  have hvalid := id.valid
  unfold validIdentifier at hvalid
  simp only [Bool.not_eq_true', Bool.or_eq_false_iff, decide_eq_false_iff_not] at hvalid
  exact Nat.le_of_not_lt hvalid.1.1.1.1.2

theorem encode_id (id : LogicalId) : Encoder.id id = Encoder.raw id.encoded := by
  have hlength := id.length_le
  unfold Encoder.id
  rw [count_eq (by omega), raw_seq]
  rfl

/-- A loop of writes after their number. -/
theorem encode_list {α : Type} {write : α → Emit String Unit} {encode : α → List UInt8}
    {as : List α}
    (hwrite : ∀ a ∈ as, write a = Encoder.raw (encode a)) (hlength : as.length < 65536) :
    Encoder.list write as = Encoder.raw (counted encode as) := by
  unfold Encoder.list
  rw [count_eq hlength, forM_raw hwrite]
  exact raw_seq _ _

/-- A loop over a bounded list, in the order of keys. -/
theorem encode_sorted {α κ : Type} [LinearOrder κ] {key : α → κ} {n : ℕ}
    {write : α → Emit String Unit}
    {encode : α → List UInt8} (as : BoundedVec α n)
    (hwrite : ∀ a ∈ as.items, write a = Encoder.raw (encode a)) (hn : n < 65536) :
    Encoder.list write (sortByKey key as.items) =
      Encoder.raw (counted encode (sortByKey key as.items)) := by
  apply encode_list
  · intro a hmem
    exact hwrite a (mem_sortByKey.1 hmem)
  · rw [length_sortByKey]
    exact Nat.lt_of_le_of_lt as.bounded hn

theorem encode_ceiling (ceiling : NetworkCeilingV1) :
    encodeCeiling ceiling = Encoder.raw ceiling.encoded := by
  unfold encodeCeiling Encoder.byte
  simp only [raw_seq]
  rfl

theorem encode_ports (ports : LocalPortRequirement) :
    encodePorts ports = Encoder.raw ports.encoded := by
  cases ports with
  | kernelAssigned => rfl
  | exact port => exact raw_seq _ _
  | inclusiveRange first last =>
    unfold encodePorts Encoder.u16 Encoder.byte
    simp only [raw_seq]
    rfl

theorem encode_peer (peer : TcpPeerRequirement) : encodePeer peer = Encoder.raw peer.encoded := by
  rcases peer with endpoint | (⟨address, port⟩ | ⟨address, port⟩)
  all_goals
    unfold encodePeer Encoder.byte Encoder.u16
    simp only [encode_id, raw_seq]
    rfl

theorem encode_operations (operations : TcpOperations) :
    encodeOperations operations = Encoder.raw operations.encoded := by
  have hbounded : operations.canonical.operations.items.length ≤ 7 :=
    operations.canonical.operations.bounded
  exact encode_list (fun _ _ => rfl) (Nat.lt_of_le_of_lt hbounded (by decide))

theorem encode_body (requirement : RequirementV1) :
    encodeRequirementBody requirement = Encoder.raw requirement.body := by
  cases requirement with
  | tcp id family operations scope localPorts peer =>
    unfold encodeRequirementBody encodeScope Encoder.byte
    simp only [encode_operations, encode_ports, encode_peer, raw_seq]
    rfl
  | suppliedTcpListener id endpoint scope =>
    unfold encodeRequirementBody encodeScope Encoder.byte
    simp only [encode_id, raw_seq]
    rfl
  | _ => rfl

theorem encode_requirement (requirement : RequirementV1) :
    encodeRequirement requirement = Encoder.raw requirement.encoded := by
  unfold encodeRequirement Encoder.byte
  simp only [encode_id, encode_body, raw_seq]
  rfl

theorem encode_endpoint (endpoint : EndpointDeclarationV1) :
    encodeEndpoint endpoint = Encoder.raw endpoint.encoded := by
  unfold encodeEndpoint
  rw [encode_id, encode_id, raw_seq]
  rfl

theorem encode_fields (contract : WorkloadContractV1) :
    encodeFields contract = Encoder.raw contract.fields := by
  unfold encodeFields Encoder.digest Encoder.u64 sortRequirements sortEndpoints
  simp only [encode_id, encode_ceiling,
    encode_sorted contract.requirements (fun r _ => encode_requirement r) (by decide),
    encode_sorted contract.endpoints (fun e _ => encode_endpoint e) (by decide), raw_seq]
  rfl

theorem encode_header (domain : List UInt8) : Encoder.new domain = Encoder.raw (header domain) := by
  unfold Encoder.new Encoder.byte Encoder.u16
  simp only [raw_seq]
  rfl

theorem encode_identity (identity : ExecutionIdentityRequestV2) :
    encodeIdentity identity = Encoder.raw identity.encoded := by
  cases identity with
  | preserveCaller => rfl
  | administratorProfile reference =>
    unfold encodeIdentity Encoder.byte Encoder.digest
    simp only [encode_id, raw_seq]
    rfl

end Written

/-! ## The encoding always fits -/

def WorkloadContractV1.encoded (contract : WorkloadContractV1) : List UInt8 :=
  header domainV1 ++ contract.fields

def WorkloadContractV2.encoded (contract : WorkloadContractV2) : List UInt8 :=
  header domainV2 ++ (contract.toV1.fields ++ contract.executionIdentity.encoded)

section Length

theorem LogicalId.length_encoded_le (id : LogicalId) : id.encoded.length ≤ 66 := by
  have hlength := id.length_le
  simp only [LogicalId.encoded, prefixed, List.length_append, length_beBytes]
  omega

@[simp] theorem length_encoded16 (value : UInt16) : (encoded16 value).length = 2 :=
  length_beBytes _ _

@[simp] theorem length_encoded64 (value : UInt64) : (encoded64 value).length = 8 :=
  length_beBytes _ _

theorem length_sorted_le {α κ : Type} [LinearOrder κ] {key : α → κ} {k n : ℕ}
    {encode : α → List UInt8} (hencode : ∀ a, (encode a).length ≤ k) (as : BoundedVec α n) :
    (counted encode (sortByKey key as.items)).length ≤ 2 + n * k := by
  apply length_counted_le hencode
  rw [length_sortByKey]
  exact as.bounded

theorem LocalPortRequirement.length_encoded_le (ports : LocalPortRequirement) :
    ports.encoded.length ≤ 5 := by
  cases ports <;> simp [LocalPortRequirement.encoded]

theorem TcpPeerRequirement.length_encoded_le (peer : TcpPeerRequirement) :
    peer.encoded.length ≤ 67 := by
  rcases peer with endpoint | (⟨address, port⟩ | ⟨address, port⟩)
  · have hid := endpoint.length_encoded_le
    simp only [TcpPeerRequirement.encoded, List.length_append, List.length_singleton]
    omega
  all_goals
    simp [TcpPeerRequirement.encoded, TcpEndpoint.encoded]

theorem TcpOperations.length_encoded_le (operations : TcpOperations) :
    operations.encoded.length ≤ 9 := by
  have hbounded : operations.canonical.operations.items.length ≤ 7 :=
    operations.canonical.operations.bounded
  have hone (operation : TcpOperation) : [operation.tag].length ≤ 1 := Nat.le_refl 1
  exact length_counted_le hone hbounded

theorem RequirementV1.length_encoded_le (requirement : RequirementV1) :
    requirement.encoded.length ≤ 150 := by
  have hid := requirement.id.length_encoded_le
  have hbody : requirement.body.length ≤ 83 := by
    cases requirement with
    | tcp id family operations scope localPorts peer =>
      have hoperations := operations.length_encoded_le
      have hports := localPorts.length_encoded_le
      have hpeer := peer.length_encoded_le
      simp only [RequirementV1.body, List.length_append, List.length_singleton]
      omega
    | suppliedTcpListener id endpoint scope =>
      have hendpoint := endpoint.length_encoded_le
      simp only [RequirementV1.body, List.length_append, List.length_singleton]
      omega
    | _ => simp [RequirementV1.body]
  simp only [RequirementV1.encoded, List.length_append, List.length_singleton]
  omega

theorem WorkloadContractV1.length_fields_le (contract : WorkloadContractV1) :
    contract.fields.length ≤ 15000 := by
  have hprofile := contract.authorizedProfile.id.length_encoded_le
  have hgrant := contract.authorization.grantId.length_encoded_le
  have hrequirements :
      (counted RequirementV1.encoded (sortRequirements contract.requirements.items)).length ≤
      2 + 64 * 150 := length_sorted_le RequirementV1.length_encoded_le contract.requirements
  have hendpoints :
      (counted EndpointDeclarationV1.encoded (sortEndpoints contract.endpoints.items)).length ≤
      2 + 32 * 132 := by
    refine length_sorted_le (fun endpoint => ?_) contract.endpoints
    have hid := endpoint.id.length_encoded_le
    have hrequirement := endpoint.requirement.length_encoded_le
    simp only [EndpointDeclarationV1.encoded, List.length_append]
    omega
  unfold WorkloadContractV1.fields
  simp only [List.length_append, List.Vector.toList_length, length_encoded64]
  have hceiling : contract.ceiling.encoded.length = 5 := rfl
  omega

theorem ExecutionIdentityRequestV2.length_encoded_le (identity : ExecutionIdentityRequestV2) :
    identity.encoded.length ≤ 99 := by
  cases identity with
  | preserveCaller => simp [ExecutionIdentityRequestV2.encoded]
  | administratorProfile reference =>
    have hid := reference.id.length_encoded_le
    simp only [ExecutionIdentityRequestV2.encoded, List.length_append, List.length_singleton,
      List.Vector.toList_length]
    omega

theorem WorkloadContractV1.length_encoded_le (contract : WorkloadContractV1) :
    contract.encoded.length ≤ Limits.contractBytes := by
  have hfields := contract.length_fields_le
  have hheader : (header domainV1).length = 33 := by decide
  simp only [WorkloadContractV1.encoded, Limits.contractBytes, List.length_append, hheader]
  omega

theorem WorkloadContractV2.length_encoded_le (contract : WorkloadContractV2) :
    contract.encoded.length ≤ Limits.contractBytes := by
  have hfields := contract.toV1.length_fields_le
  have hidentity := contract.executionIdentity.length_encoded_le
  have hheader : (header domainV2).length = 33 := by decide
  simp only [WorkloadContractV2.encoded, Limits.contractBytes, List.length_append, hheader]
  omega

end Length

/-- A request is encoded when it is valid, to the bytes of its domain and fields, when they fit. -/
theorem encodeWith_eq_ok {domain fields bytes : List UInt8} {validated : Except String Unit}
    {write : Emit String Unit} (hwrite : write = Encoder.raw fields)
    (hlength : (header domain ++ fields).length ≤ Limits.contractBytes) :
    encodeWith domain validated write = .ok bytes ↔ validated = .ok () ∧
      header domain ++ fields = bytes := by
  unfold encodeWith
  rw [unit_bind_eq_ok, hwrite, encode_header, raw_seq, Encoder.raw, emitted_raw, if_pos hlength,
    Except.ok.injEq]

theorem encodeContract_eq_ok {contract : WorkloadContractV1} {bytes : List UInt8} :
    encodeContract contract = .ok bytes ↔ contract.validate = .ok () ∧ contract.encoded = bytes :=
  encodeWith_eq_ok (encode_fields contract) contract.length_encoded_le

theorem encodeContractV2_eq_ok {contract : WorkloadContractV2} {bytes : List UInt8} :
    encodeContractV2 contract = .ok bytes ↔ contract.validate = .ok () ∧
      contract.encoded = bytes := by
  refine encodeWith_eq_ok ?_ contract.length_encoded_le
  rw [encode_fields, encode_identity, raw_seq]

/-! ## What the decoder reads -/

section Read

variable {n : ℕ}

theorem reads_take {bytes : List UInt8} (h : bytes.length = n) :
    Reads (Decoder.take n) bytes bytes := by
  intro rest
  simp [Decoder.take, ← h]

theorem reads_fixed (v : List.Vector UInt8 n) : Reads (Decoder.fixed n) v.toList v := by
  refine (reads_take v.toList_length).bind_pure ?_
  intro rest
  rw [dif_pos v.toList_length]
  rfl

theorem reads_byte (b : UInt8) : Reads Decoder.byte [b] b :=
  (reads_fixed (⟨[b], rfl⟩ : List.Vector UInt8 1)).bind_pure .pure

theorem reads_u16 (value : UInt16) : Reads Decoder.u16 (encoded16 value) value := by
  have hlt : value.toNat < 256 ^ 2 := value.toNat_lt
  refine (reads_fixed ⟨encoded16 value, length_encoded16 value⟩).bind_pure fun rest => ?_
  simp [encoded16, beValue_beBytes hlt]
  rfl

theorem reads_u64 (value : UInt64) : Reads Decoder.u64 (encoded64 value) value := by
  have hlt : value.toNat < 256 ^ 8 := value.toNat_lt
  refine (reads_fixed ⟨encoded64 value, length_encoded64 value⟩).bind_pure fun rest => ?_
  simp [encoded64, beValue_beBytes hlt]
  rfl

theorem reads_count (h : n < 65536) : Reads Decoder.u16 (beBytes 2 n) (UInt16.ofNat n) := by
  have hread := reads_u16 (UInt16.ofNat n)
  unfold encoded16 at hread
  rwa [toNat_count h] at hread

variable {e : String}

theorem reads_reject {bad : Prop} [Decidable bad] (h : ¬bad) :
    Reads (Decoder.check (reject e bad)) [] () :=
  reads_lift (reject_eq_ok.2 h)

theorem LogicalId.ascii (id : LogicalId) : ∀ byte ∈ id.bytes, byte.toNat < 128 := by
  have hvalid := id.valid
  unfold validIdentifier at hvalid
  simp only [Bool.not_eq_true', Bool.or_eq_false_iff, Bool.not_eq_false', List.all_eq_true]
    at hvalid
  intro byte hbyte
  have hrange := hvalid.2 byte hbyte
  simp only [Bool.or_eq_true, Bool.and_eq_true, decide_eq_true_eq, beq_iff_eq,
    UInt8.le_iff_toNat_le] at hrange
  rcases hrange with (⟨-, hle⟩ | ⟨-, hle⟩) | rfl
  · exact Nat.lt_of_le_of_lt hle (by decide)
  · exact Nat.lt_of_le_of_lt hle (by decide)
  · decide

theorem new_bytes (id : LogicalId) : LogicalId.new id.bytes = .ok id := dif_pos id.valid

theorem reads_id (id : LogicalId) : Reads Decoder.id id.encoded id := by
  have hlength : id.bytes.length < 65536 := Nat.lt_of_le_of_lt id.length_le (by decide)
  refine (reads_count hlength).bind ?_
  refine (reads_take (toNat_count hlength).symm).bind_pure ?_
  refine (reads_reject ?_).bind (reads_lift (new_bytes id))
  rw [CodedText.isUtf8_of_ascii id.ascii]
  exact Bool.noConfusion

theorem reads_port (port : NonZeroU16) : Reads Decoder.port (encoded16 port.1) port := by
  refine (reads_u16 port.1).bind_pure ?_
  intro rest
  rw [dif_pos port.2]
  rfl

theorem reads_revision (revision : NonZeroU64) :
    Reads Decoder.revision (encoded64 revision.1) revision := by
  refine (reads_u64 revision.1).bind_pure ?_
  intro rest
  rw [dif_pos revision.2]
  rfl

theorem reads_tagged {α : Type} {values : UInt8 → Option α} {tag : UInt8} {a : α}
    (h : values tag = some a) : Reads (Decoder.tagged e values) [tag] a :=
  (reads_byte tag).bind_pure (reads_lift (okOr_eq_ok.2 h))

variable {α β : Type} {encode : α → List UInt8} {f : α → β} {reader : Scan String β}

/-- A loop that pushes what it reads adds it in order. -/
theorem reads_pushing (hreader : ∀ a, Reads reader (encode a) (f a)) (as : List α)
    (values result : BoundedVec β n) (hresult : result.items = values.items ++ as.map f) :
    Reads (Decoder.pushing e reader as.length values) (as.flatMap encode) result := by
  induction as generalizing values with
  | nil =>
    have hsame : result = values := BoundedVec.ext (by simpa using hresult)
    rw [hsame]
    exact .pure
  | cons a as ih =>
    have hlength : values.items.length < n := by
      have hbounded := result.bounded
      rw [hresult, List.length_append, List.length_map, List.length_cons] at hbounded
      omega
    have hpush : values.tryPush (f a) = some ⟨values.items ++ [f a], by
        rw [List.length_append, List.length_singleton]
        omega⟩ :=
      BoundedVec.tryPush_eq_some.2 ⟨hlength, rfl⟩
    rw [List.flatMap_cons]
    refine (hreader a).bind ((reads_lift (okOr_eq_ok.2 hpush)).bind (ih _ ?_))
    rw [hresult]
    simp

/-- A counted list within its bound. -/
theorem reads_bounded (hreader : ∀ a, Reads reader (encode a) (f a)) {as : List α}
    (result : BoundedVec β n) (hresult : result.items = as.map f) (hn : n < 65536) :
    Reads (Decoder.bounded n e reader) (counted encode as) result := by
  have hlength : as.length ≤ n := by
    have hbounded := result.bounded
    rwa [hresult, List.length_map] at hbounded
  have hcount : (UInt16.ofNat as.length).toNat = as.length := toNat_count (by omega)
  refine (reads_count (by omega)).bind ?_
  rw [hcount]
  exact (reads_reject (by omega)).bind (reads_pushing hreader as .empty result hresult)

theorem reads_unixKind (kind : UnixSocketKind) : Reads Decoder.unixKind [kind.code] kind :=
  reads_tagged (by cases kind <;> rfl)

theorem reads_scope (scope : TcpScope) : Reads Decoder.scope [scope.code] scope :=
  reads_tagged (by cases scope <;> rfl)

theorem reads_family (family : IpFamily) : Reads Decoder.family [family.code] family :=
  reads_tagged (by cases family <;> rfl)

theorem reads_operation (operation : TcpOperation) :
    Reads Decoder.operation [operation.tag] operation :=
  reads_tagged (by cases operation <;> rfl)

theorem reads_deniedOperation (operation : DeniedOperation) :
    Reads Decoder.deniedOperation [operation.code] operation :=
  reads_tagged (by cases operation <;> rfl)

theorem reads_ceiling (ceiling : NetworkCeilingV1) :
    Reads Decoder.ceiling ceiling.encoded ceiling := by
  obtain ⟨direct, unix, custody, gains, mediated⟩ := ceiling
  show Reads Decoder.ceiling ([direct.code] ++ ([unix.code] ++ ([custody.code] ++ ([gains.code] ++
    [mediated.code])))) _
  refine (reads_tagged (a := direct) ?_).bind ((reads_tagged (a := unix) ?_).bind
    ((reads_tagged (a := custody) ?_).bind ((reads_tagged (a := gains) ?_).bind
      ((reads_tagged (a := mediated) ?_).bind_pure .pure))))
  · cases direct <;> rfl
  · cases unix <;> rfl
  · cases custody <;> rfl
  · cases gains <;> rfl
  · cases mediated <;> rfl

theorem reads_operations (operations : TcpOperations) :
    Reads Decoder.operations operations.encoded operations.canonical := by
  have hbounded : operations.canonical.operations.items.length ≤ 7 :=
    operations.canonical.operations.bounded
  have hcount := toNat_count (n := operations.canonical.operations.items.length) (by omega)
  refine (reads_count (by omega)).bind ?_
  rw [hcount]
  refine (reads_reject (by omega)).bind ((reads_pushing reads_operation _ .empty
    operations.canonical.operations (by simp [BoundedVec.empty])).bind_pure ?_)
  exact reads_lift (dif_pos operations.canonical.valid)

theorem reads_localPorts (ports : LocalPortRequirement) :
    Reads Decoder.localPorts ports.encoded ports := by
  cases ports with
  | kernelAssigned => exact (reads_byte 1).bind_pure .pure
  | exact port => exact (reads_byte 2).bind ((reads_port port).bind_pure .pure)
  | inclusiveRange first last =>
    exact (reads_byte 3).bind ((reads_port first).bind ((reads_port last).bind_pure .pure))

theorem reads_address (endpoint : TcpEndpoint) :
    Reads Decoder.address endpoint.encoded endpoint := by
  cases endpoint with
  | v4 address port =>
    exact (reads_byte 1).bind ((reads_fixed address).bind ((reads_port port).bind_pure .pure))
  | v6 address port =>
    exact (reads_byte 2).bind ((reads_fixed address).bind ((reads_port port).bind_pure .pure))

theorem reads_peer (peer : TcpPeerRequirement) : Reads Decoder.peer peer.encoded peer := by
  cases peer with
  | sameAttemptEndpoint endpoint => exact (reads_byte 1).bind ((reads_id endpoint).bind_pure .pure)
  | exactAddress endpoint => exact (reads_byte 2).bind ((reads_address endpoint).bind_pure .pure)

/-- A requirement is read with its operations in order. -/
theorem reads_requirement (requirement : RequirementV1) :
    Reads Decoder.requirement requirement.encoded requirement.canonical := by
  refine (reads_byte requirement.code).bind ((reads_id requirement.id).bind ?_)
  cases requirement with
  | unixSocketCreation id socketKind | unixSocketPair id socketKind =>
    exact (reads_unixKind socketKind).bind_pure .pure
  | tcp id family operations scope localPorts peer =>
    exact (reads_family family).bind ((reads_operations operations).bind ((reads_scope scope).bind
      ((reads_localPorts localPorts).bind ((reads_peer peer).bind_pure .pure))))
  | suppliedTcpListener id endpoint scope =>
    exact (reads_id endpoint).bind ((reads_scope scope).bind_pure .pure)
  | denialExercise id operation => exact (reads_deniedOperation operation).bind_pure .pure

theorem reads_endpoint (endpoint : EndpointDeclarationV1) :
    Reads Decoder.endpoint endpoint.encoded endpoint :=
  (reads_id endpoint.id).bind ((reads_id endpoint.requirement).bind_pure .pure)

/-- **The fields of a contract are read back in canonical order.** -/
theorem reads_fields {contract : WorkloadContractV1} (h : contract.validate = .ok ()) :
    Reads Decoder.fields contract.fields contract.canonical := by
  obtain ⟨-, hcoherent⟩ := WorkloadContractV1.validate_eq_ok.1 h
  have hsorted : contract.canonical.requirements.items =
      (sortRequirements contract.requirements.items).map RequirementV1.canonical :=
    sortByKey_map (fun r => by rw [RequirementV1.id_canonical])
      (nodup_keys hcoherent.requirementIds)
  have hendpoints : contract.canonical.endpoints.items =
      (sortEndpoints contract.endpoints.items).map fun endpoint => endpoint := (List.map_id' _).symm
  exact (reads_fixed _).bind ((reads_id _).bind ((reads_fixed _).bind ((reads_id _).bind
    ((reads_revision _).bind ((reads_fixed _).bind ((reads_ceiling _).bind
      ((reads_bounded reads_requirement _ hsorted (by decide)).bind
        ((reads_bounded reads_endpoint _ hendpoints (by decide)).bind
          ((reads_fixed _).bind ((reads_revision _).bind_pure .pure))))))))))

theorem reads_identity (identity : ExecutionIdentityRequestV2) :
    Reads Decoder.identity identity.encoded identity := by
  cases identity with
  | preserveCaller => exact (reads_byte 1).bind_pure .pure
  | administratorProfile reference =>
    exact (reads_byte 2).bind ((reads_id reference.id).bind
      ((reads_fixed reference.semanticDigest).bind_pure .pure))

theorem reads_fieldsV2 {contract : WorkloadContractV2} (h : contract.validate = .ok ()) :
    Reads Decoder.fieldsV2 (contract.toV1.fields ++ contract.executionIdentity.encoded)
      contract.canonical :=
  (reads_fields (WorkloadContractV2.validate_eq_ok.1 h).1).bind
    ((reads_identity contract.executionIdentity).bind_pure .pure)

theorem reads_header (domain : List UInt8) : Reads (Decoder.domain domain) (header domain) () := by
  have happend : header domain = (domain ++ [0]) ++ encoded16 1 := by
    unfold header
    rw [List.append_assoc]
  rw [happend]
  exact (reads_take rfl).bind ((reads_reject (not_not.2 rfl)).bind
    ((reads_u16 1).bind_pure (reads_reject (not_not.2 rfl))))

end Read

/-! ## One string for every contract -/

section Bijection

theorem TcpOperations.encoded_canonical (operations : TcpOperations) :
    operations.canonical.encoded = operations.encoded := by
  unfold TcpOperations.encoded
  rw [TcpOperations.canonical_canonical]

theorem RequirementV1.encoded_canonical (requirement : RequirementV1) :
    requirement.canonical.encoded = requirement.encoded := by
  cases requirement with
  | tcp id family operations scope localPorts peer =>
    simp only [RequirementV1.encoded, RequirementV1.canonical, RequirementV1.body,
      TcpOperations.encoded_canonical]
    rfl
  | _ => rfl

/-- A contract and its canonical form have the same bytes. -/
theorem WorkloadContractV1.fields_canonical {contract : WorkloadContractV1}
    (h : contract.validate = .ok ()) : contract.canonical.fields = contract.fields := by
  obtain ⟨-, hcoherent⟩ := WorkloadContractV1.validate_eq_ok.1 h
  have hkeys := nodup_keys hcoherent.requirementIds
  have hrequirements :
      counted RequirementV1.encoded (sortRequirements contract.canonical.requirements.items) =
      counted RequirementV1.encoded (sortRequirements contract.requirements.items) := by
    have hsorted : sortRequirements contract.canonical.requirements.items =
        (sortRequirements contract.requirements.items).map RequirementV1.canonical := by
      have hmap : contract.canonical.requirements.items =
          (sortRequirements contract.requirements.items).map RequirementV1.canonical :=
        sortByKey_map (fun r => by rw [RequirementV1.id_canonical]) hkeys
      rw [hmap, sortRequirements, sortRequirements,
        sortByKey_map (fun r => by rw [RequirementV1.id_canonical]), sortByKey_sortByKey hkeys]
      exact ((sortByKey_perm _ _).map _).nodup_iff.2 hkeys
    rw [hsorted, counted, counted, List.length_map, List.flatMap_map]
    simp only [RequirementV1.encoded_canonical]
  have hendpoints :
      sortEndpoints contract.canonical.endpoints.items = sortEndpoints contract.endpoints.items :=
    sortByKey_sortByKey (nodup_keys hcoherent.endpointIds)
  unfold WorkloadContractV1.fields
  rw [hrequirements, hendpoints]
  rfl

/-- A decoder accepts what it reads, when this is valid and has the bytes for its encoding. -/
theorem decodeWith_eq_ok {α : Type} {reader : Scan String α} {validate : α → Except String Unit}
    {encode : α → Except String (List UInt8)} {encoded : α → List UInt8}
    (hencode : ∀ a bytes, encode a = .ok bytes ↔ validate a = .ok () ∧ encoded a = bytes)
    {bytes : List UInt8} {a : α} :
    decodeWith reader validate encode bytes = .ok a ↔
      Decoder.complete reader bytes = .ok a ∧ validate a = .ok () ∧ encoded a = bytes := by
  unfold decodeWith
  simp only [bind_eq_ok, hencode]
  constructor
  · rintro ⟨_, hread, ⟨⟩, hvalid, _, ⟨-, rfl⟩, ⟨⟩, hsame, ⟨⟩⟩
    exact ⟨hread, hvalid, not_not.1 (reject_eq_ok.1 hsame)⟩
  · rintro ⟨hread, hvalid, rfl⟩
    exact ⟨a, hread, (), hvalid, _, ⟨hvalid, rfl⟩, (), reject_eq_ok.2 (not_not.2 rfl), rfl⟩

/-- A reader of a whole string that fits. -/
theorem complete_eq_ok {α : Type} {reader : Scan String α} {bytes : List UInt8} {a : α}
    (h : Reads reader bytes a) (hlength : bytes.length ≤ Limits.contractBytes) :
    Decoder.complete reader bytes = .ok a := by
  have hread := h []
  rw [List.append_nil] at hread
  unfold Decoder.complete
  rw [hread, unit_bind_eq_ok, reject_eq_ok]
  exact ⟨Nat.not_lt.2 hlength, rfl⟩

theorem canonicalCodec_v1 :
    CanonicalCodec (fun contract => contract.validate = .ok ()) WorkloadContractV1.canonical
      WorkloadContractV1.Reordered encodeContract decodeContract := by
  refine canonicalCodec_of (fun _ _ => encodeContract_eq_ok)
    (fun _ _ => decodeWith_eq_ok fun _ _ => encodeContract_eq_ok) ?_
    (fun _ => WorkloadContractV1.validate_canonical.2) ?_ (fun _ _ =>
      WorkloadContractV1.reordered_iff)
  · intro contract h
    exact complete_eq_ok ((reads_header domainV1).bind (reads_fields h)) contract.length_encoded_le
  · intro contract h
    unfold WorkloadContractV1.encoded
    rw [WorkloadContractV1.fields_canonical h]

theorem canonicalCodec_v2 :
    CanonicalCodec (fun contract => contract.validate = .ok ()) WorkloadContractV2.canonical
      WorkloadContractV2.Reordered encodeContractV2 decodeContractV2 := by
  refine canonicalCodec_of (fun _ _ => encodeContractV2_eq_ok)
    (fun _ _ => decodeWith_eq_ok fun _ _ => encodeContractV2_eq_ok) ?_
    (fun _ => WorkloadContractV2.validate_canonical.2) ?_ (fun _ _ =>
      WorkloadContractV2.reordered_iff)
  · intro contract h
    exact complete_eq_ok ((reads_header domainV2).bind (reads_fieldsV2 h))
      contract.length_encoded_le
  · intro contract h
    obtain ⟨hfields, -⟩ := WorkloadContractV2.validate_eq_ok.1 h
    unfold WorkloadContractV2.encoded
    rw [WorkloadContractV2.toV1_canonical, WorkloadContractV1.fields_canonical hfields]
    rfl

/-- The bytes of the two versions differ in their domain. -/
theorem encoded_ne (a : WorkloadContractV1) (b : WorkloadContractV2) : a.encoded ≠ b.encoded := by
  intro h
  have hheader : (header domainV1).length = (header domainV2).length := by decide
  have hdomains : header domainV1 = header domainV2 := (List.append_inj h hheader).1
  exact absurd hdomains (by decide)

/-- **The canonical codec is a bijection onto its image**, for both versions: a valid contract is
encoded and its bytes are decoded to its canonical form, a string is accepted when it is the
encoding of what is decoded, contracts have the same bytes when they differ in the order of sets,
and no string is accepted as both versions. -/
theorem canonical_codec :
    CanonicalCodec (fun contract => contract.validate = .ok ()) WorkloadContractV1.canonical
        WorkloadContractV1.Reordered encodeContract decodeContract ∧
      CanonicalCodec (fun contract => contract.validate = .ok ()) WorkloadContractV2.canonical
        WorkloadContractV2.Reordered encodeContractV2 decodeContractV2 ∧
      ∀ (bytes : List UInt8) (a : WorkloadContractV1) (b : WorkloadContractV2),
        ¬(decodeContract bytes = .ok a ∧ decodeContractV2 bytes = .ok b) := by
  refine ⟨canonicalCodec_v1, canonicalCodec_v2, ?_⟩
  rintro bytes a b ⟨ha, hb⟩
  obtain ⟨-, -, ha⟩ := (decodeWith_eq_ok fun _ _ => encodeContract_eq_ok).1 ha
  obtain ⟨-, -, hb⟩ := (decodeWith_eq_ok fun _ _ => encodeContractV2_eq_ok).1 hb
  exact encoded_ne a b (ha.trans hb.symm)

end Bijection

end MemCordon.Workload
