import MemCordon.Workload.RegistryLaws

/-!
# The canonical bytes of a registry

The string that a registry is identified by the hash of: `canonical_digest` of
`workload_registry.rs` and `canonical_bytes` of `workload_registry_v2.rs`.

* The encoder writes one string, `encoded` (`canonicalBytes_eq`). That of a V1 registry always fits
  its limit; that of a V2 registry may not, and is then not built.
* `encoded_reordered` and `reordered_of_encoded`: registries have the same string exactly when they
  differ in the order of sets.
* `canonical_registry_exact` puts the two versions together. Their strings have different domains.
-/

namespace MemCordon.Workload

open Fallible Keyed Encoding

/-! ## The encoders -/

/-- `u8::from` of a truth value. -/
def boolByte (value : Bool) : UInt8 := if value then 1 else 0

def GrantChangeDisposition.code : GrantChangeDisposition → UInt8
  | .drainExisting => 1
  | .revokeActive => 2

def bytesKey (bytes : List UInt8) : List ℕ := bytes.map UInt8.toNat

/-- The profiles in the order of their identifiers. -/
def sortProfiles {κ : Type} (profiles : List (ProfileDefinition κ)) : List (ProfileDefinition κ) :=
  sortByKey (fun profile => profile.reference.id.key) profiles

/-- The turn of the loop over profiles. -/
def encodeProfile {κ : Type} (profile : ProfileDefinition κ) : Emit String Unit := do
  Encoder.id profile.reference.id
  Encoder.digest profile.reference.semanticDigest
  Encoder.byte (boolByte profile.enabled)

/-- The fields of a grant before its callers. -/
def encodeGrantHead (grant : PolicyGrantV1) : Emit String Unit := do
  Encoder.id grant.id
  Encoder.u64 grant.revision.1
  Encoder.id grant.profile.id
  Encoder.digest grant.profile.semanticDigest
  encodeCeiling grant.ceiling
  Encoder.byte (boolByte grant.enabled)

/-- The plans in the order of their bytes. -/
def sortPlans (plans : List DiagnosticSha256) : List DiagnosticSha256 :=
  sortByKey (fun plan => bytesKey plan.toList) plans

/-- The bytes of a caller of a V1 grant. -/
def callerBytes : CallerSelector → Except String (List UInt8)
  | .linux uid => .ok (1 :: beBytes 4 uid.toNat)
  | .windows sid =>
    if sid.bytes.length < UInt16.size then .ok (2 :: (beBytes 2 sid.bytes.length ++ sid.bytes))
    else .error "caller SID exceeds canonical length"

/-- The turn of the loop over the grants of a V1 registry. -/
def encodeGrant (grant : PolicyGrantV1) : Emit String Unit := do
  encodeGrantHead grant
  let callers ← StateT.lift (grant.callers.items.mapM callerBytes)
  Encoder.list Encoder.raw (sortByKey bytesKey callers)
  Encoder.list Encoder.digest (sortPlans grant.approvedPlans.items)

/-- The grants in the order of their identifiers. -/
def sortGrants (grants : List PolicyGrantV1) : List PolicyGrantV1 :=
  sortByKey (fun grant => grant.id.key) grants

/-- The string that `RuntimePolicyRegistry::canonical_digest` hashes. -/
def RuntimePolicyRegistry.canonicalBytes [Sha256] (registry : RuntimePolicyRegistry) :
    Except String (List UInt8) := do
  registry.validate
  emitted Limits.registryBytes do
    Encoder.new (CodedText.bytes "memcordon.local-policy/revision1")
    Encoder.list encodeProfile (sortProfiles registry.profiles.items)
    Encoder.list encodeGrant (sortGrants registry.grants.items)
    Encoder.byte registry.activeAttemptDisposition.code

def RuntimePolicyRegistry.canonicalDigest [Sha256] (registry : RuntimePolicyRegistry) :
    Except String DiagnosticSha256 :=
  registry.canonicalBytes.map hashBytes

/-- The user of a caller. A Windows caller has none: the source panics there, and a valid V2
registry has no such caller. -/
def CallerSelector.uid : CallerSelector → UInt32
  | .linux uid => uid
  | .windows _ => 0

/-- The callers of a V2 grant in the order of their users. -/
def sortCallersV2 (callers : List CallerSelector) : List CallerSelector :=
  sortByKey (fun caller => caller.uid.toNat) callers

/-- The turn of the loop over the callers of a V2 grant. -/
def encodeCallerV2 : CallerSelector → Emit String Unit
  | .linux uid => do
    Encoder.byte 1
    Encoder.raw (beBytes 4 uid.toNat)
  | .windows _ => throw "internal error: entered unreachable code: validated V2 caller"

/-- The turn of the loop over the grants of a V2 registry. `encode_identity_request` is
`encodeIdentity`. -/
def encodeGrantV2 (grant : PolicyGrantV2) : Emit String Unit := do
  encodeGrantHead grant.toPolicyGrantV1
  Encoder.list encodeCallerV2 (sortCallersV2 grant.callers.items)
  Encoder.list Encoder.digest (sortPlans grant.approvedPlans.items)
  encodeIdentity grant.executionIdentity

/-- The turn of the loop over execution identities. -/
def encodeExecutionIdentity (identity : LinuxExecutionIdentityV2) : Emit String Unit := do
  Encoder.id identity.reference.id
  Encoder.digest identity.reference.semanticDigest
  Encoder.byte (boolByte identity.enabled)
  encodeAuthority identity

/-- The identities in the order of their identifiers. -/
def sortIdentities (identities : List LinuxExecutionIdentityV2) : List LinuxExecutionIdentityV2 :=
  sortByKey (fun identity => identity.reference.id.key) identities

/-- The V2 grants in the order of their identifiers. -/
def sortGrantsV2 (grants : List PolicyGrantV2) : List PolicyGrantV2 :=
  sortByKey (fun grant => grant.id.key) grants

def RuntimePrivatePolicyRegistry.canonicalBytes [Sha256] (registry : RuntimePrivatePolicyRegistry) :
    Except String (List UInt8) := do
  registry.validate
  emitted Limits.registryBytes do
    Encoder.new (CodedText.bytes "memcordon.local-private-policy/revision1")
    Encoder.list encodeProfile (sortProfiles registry.profiles.items)
    Encoder.list encodeExecutionIdentity (sortIdentities registry.executionIdentities.items)
    Encoder.list encodeGrantV2 (sortGrantsV2 registry.grants.items)
    Encoder.byte registry.activeAttemptDisposition.code

def RuntimePrivatePolicyRegistry.canonicalDigest [Sha256]
    (registry : RuntimePrivatePolicyRegistry) :
    Except String DiagnosticSha256 :=
  registry.canonicalBytes.map hashBytes

/-! ## What the encoders write -/

def ProfileDefinition.encoded {κ : Type} (profile : ProfileDefinition κ) : List UInt8 :=
  profile.reference.id.encoded ++
    (profile.reference.semanticDigest.toList ++ [boolByte profile.enabled])

/-- The bytes of a grant before its callers. -/
def PolicyGrantV1.head (grant : PolicyGrantV1) : List UInt8 :=
  grant.id.encoded ++ (encoded64 grant.revision.1 ++ (grant.profile.id.encoded ++
    (grant.profile.semanticDigest.toList ++ (grant.ceiling.encoded ++ [boolByte grant.enabled]))))

def CallerSelector.encoded : CallerSelector → List UInt8
  | .linux uid => 1 :: beBytes 4 uid.toNat
  | .windows sid => 2 :: prefixed sid.bytes

/-- The callers of a V1 grant in the order of their bytes. -/
def sortCallers (callers : List CallerSelector) : List CallerSelector :=
  sortByKey (fun caller => bytesKey caller.encoded) callers

def PolicyGrantV1.encoded (grant : PolicyGrantV1) : List UInt8 :=
  grant.head ++ (counted CallerSelector.encoded (sortCallers grant.callers.items) ++
    counted List.Vector.toList (sortPlans grant.approvedPlans.items))

def PolicyGrantV2.encoded (grant : PolicyGrantV2) : List UInt8 :=
  grant.head ++ (counted CallerSelector.encoded (sortCallersV2 grant.callers.items) ++
    (counted List.Vector.toList (sortPlans grant.approvedPlans.items) ++
      grant.executionIdentity.encoded))

def LinuxExecutionIdentityV2.encoded (identity : LinuxExecutionIdentityV2) : List UInt8 :=
  identity.reference.id.encoded ++ (identity.reference.semanticDigest.toList ++
    ([boolByte identity.enabled] ++ identity.authority))

/-- The bytes of a V1 registry. -/
def RuntimePolicyRegistry.encoded (registry : RuntimePolicyRegistry) : List UInt8 :=
  header (CodedText.bytes "memcordon.local-policy/revision1") ++
    (counted ProfileDefinition.encoded (sortProfiles registry.profiles.items) ++
      (counted PolicyGrantV1.encoded (sortGrants registry.grants.items) ++
        [registry.activeAttemptDisposition.code]))

/-- The bytes of a V2 registry. -/
def RuntimePrivatePolicyRegistry.encoded (registry : RuntimePrivatePolicyRegistry) : List UInt8 :=
  header (CodedText.bytes "memcordon.local-private-policy/revision1") ++
    (counted ProfileDefinition.encoded (sortProfiles registry.profiles.items) ++
      (counted LinuxExecutionIdentityV2.encoded
        (sortIdentities registry.executionIdentities.items) ++
        (counted PolicyGrantV2.encoded (sortGrantsV2 registry.grants.items) ++
          [registry.activeAttemptDisposition.code])))

section Written

theorem encode_profile {κ : Type} (profile : ProfileDefinition κ) :
    encodeProfile profile = Encoder.raw profile.encoded := by
  unfold encodeProfile Encoder.digest Encoder.byte
  simp only [encode_id, raw_seq]
  rfl

theorem encode_grantHead (grant : PolicyGrantV1) :
    encodeGrantHead grant = Encoder.raw grant.head := by
  unfold encodeGrantHead Encoder.digest Encoder.byte Encoder.u64
  simp only [encode_id, encode_ceiling, raw_seq]
  rfl

theorem callerBytes_eq (caller : CallerSelector) : callerBytes caller = .ok caller.encoded := by
  cases caller with
  | linux uid => rfl
  | windows sid => exact if_pos (Nat.lt_of_le_of_lt sid.bounded (by decide))

theorem encode_plans (plans : BoundedVec DiagnosticSha256 Limits.plansPerGrant) :
    Encoder.list Encoder.digest (sortPlans plans.items) =
      Encoder.raw (counted List.Vector.toList (sortPlans plans.items)) :=
  encode_sorted plans (fun _ _ => rfl) (by decide)

/-- The order of the bytes of callers is the bytes of their order. -/
theorem sortByKey_callerBytes (callers : List CallerSelector) :
    sortByKey bytesKey (callers.map CallerSelector.encoded) =
      (sortCallers callers).map CallerSelector.encoded :=
  (List.map_insertionSort _ _ CallerSelector.encoded callers fun _ _ _ _ => Iff.rfl).symm

theorem encode_grant (grant : PolicyGrantV1) : encodeGrant grant = Encoder.raw grant.encoded := by
  have hcallers :
      grant.callers.items.mapM callerBytes =
        .ok (grant.callers.items.map CallerSelector.encoded) := by
    rw [show callerBytes = fun caller => pure caller.encoded from funext callerBytes_eq]
    exact List.mapM_pure
  have hlength : ((sortCallers grant.callers.items).map CallerSelector.encoded).length < 65536 := by
    rw [List.length_map, sortCallers, length_sortByKey]
    exact Nat.lt_of_le_of_lt grant.callers.bounded (by decide)
  have hcounted :
      counted (fun bytes => bytes) ((sortCallers grant.callers.items).map CallerSelector.encoded) =
      counted CallerSelector.encoded (sortCallers grant.callers.items) := by
    unfold counted
    rw [List.length_map, List.flatMap_map]
  have hlist :
      Encoder.list Encoder.raw ((sortCallers grant.callers.items).map CallerSelector.encoded) =
      Encoder.raw (counted CallerSelector.encoded (sortCallers grant.callers.items)) := by
    rw [← hcounted]
    exact encode_list (fun _ _ => rfl) hlength
  unfold encodeGrant
  rw [encode_grantHead, hcallers]
  show (Encoder.raw grant.head >>= fun _ =>
    Encoder.list Encoder.raw
        (sortByKey bytesKey (grant.callers.items.map CallerSelector.encoded)) >>= fun _ =>
      Encoder.list Encoder.digest (sortPlans grant.approvedPlans.items)) = _
  rw [sortByKey_callerBytes, hlist, encode_plans, raw_seq, raw_seq]
  rfl

theorem encode_callerV2 {caller : CallerSelector} (h : caller.isLinux = true) :
    encodeCallerV2 caller = Encoder.raw caller.encoded := by
  cases caller with
  | linux uid => exact raw_seq _ _
  | windows sid => cases h

theorem encode_grantV2 {grant : PolicyGrantV2}
    (h : ∀ caller ∈ grant.callers.items, caller.isLinux = true) :
    encodeGrantV2 grant = Encoder.raw grant.encoded := by
  unfold encodeGrantV2 sortCallersV2
  simp only [encode_grantHead,
    encode_sorted grant.callers (fun caller hmem => encode_callerV2 (h caller hmem)) (by decide),
    encode_plans, encode_identity, raw_seq]
  rfl

theorem encode_executionIdentity (identity : LinuxExecutionIdentityV2) :
    encodeExecutionIdentity identity = Encoder.raw identity.encoded := by
  unfold encodeExecutionIdentity Encoder.digest Encoder.byte
  simp only [encode_id, encode_authority, raw_seq]
  rfl

theorem CallerSelector.length_encoded_le (caller : CallerSelector) :
    caller.encoded.length ≤ 187 := by
  cases caller with
  | linux uid => simp [CallerSelector.encoded]
  | windows sid =>
    have hbounded := sid.bounded
    simp only [CallerSelector.encoded, prefixed, List.length_cons, List.length_append,
      length_beBytes]
    omega

theorem PolicyGrantV1.length_encoded_le (grant : PolicyGrantV1) : grant.encoded.length ≤ 1442 := by
  have hid := grant.id.length_encoded_le
  have hprofile := grant.profile.id.length_encoded_le
  have hceiling : grant.ceiling.encoded.length = 5 := rfl
  have hcallers : (counted CallerSelector.encoded (sortCallers grant.callers.items)).length ≤
      2 + 4 * 187 :=
    length_sorted_le CallerSelector.length_encoded_le grant.callers
  have hplans : (counted List.Vector.toList (sortPlans grant.approvedPlans.items)).length ≤
      2 + 16 * 32 :=
    length_sorted_le (fun plan => plan.toList_length.le) grant.approvedPlans
  unfold PolicyGrantV1.encoded PolicyGrantV1.head
  simp only [List.length_append, List.length_singleton, List.Vector.toList_length, length_encoded64]
  omega

theorem RuntimePolicyRegistry.length_encoded_le (registry : RuntimePolicyRegistry) :
    registry.encoded.length ≤ Limits.registryBytes := by
  have hheader : (header (CodedText.bytes "memcordon.local-policy/revision1")).length = 35 := by
    decide +kernel
  have hprofiles :
      (counted ProfileDefinition.encoded (sortProfiles registry.profiles.items)).length ≤
      2 + 16 * 99 := by
    refine length_sorted_le (fun profile => ?_) registry.profiles
    have hid := profile.reference.id.length_encoded_le
    unfold ProfileDefinition.encoded
    simp only [List.length_append, List.length_singleton, List.Vector.toList_length]
    omega
  have hgrants : (counted PolicyGrantV1.encoded (sortGrants registry.grants.items)).length ≤
      2 + 128 * 1442 :=
    length_sorted_le PolicyGrantV1.length_encoded_le registry.grants
  unfold RuntimePolicyRegistry.encoded Limits.registryBytes
  rw [List.length_append, List.length_append, List.length_append, hheader, List.length_singleton]
  omega

variable [Sha256]

/-- The string of a V1 registry is always built. -/
theorem RuntimePolicyRegistry.canonicalBytes_eq {registry : RuntimePolicyRegistry}
    (h : registry.validate = .ok ()) : registry.canonicalBytes = .ok registry.encoded := by
  unfold RuntimePolicyRegistry.canonicalBytes Encoder.byte sortProfiles sortGrants
  simp only [h, encode_header,
    encode_sorted registry.profiles (fun p _ => encode_profile p) (by decide),
    encode_sorted registry.grants (fun g _ => encode_grant g) (by decide), raw_seq]
  show emitted _ (Encoder.raw registry.encoded) = _
  rw [Encoder.raw, emitted_raw, if_pos registry.length_encoded_le]

/-- The string of a V2 registry is built when it fits. -/
theorem RuntimePrivatePolicyRegistry.canonicalBytes_eq {registry : RuntimePrivatePolicyRegistry}
    (h : registry.validate = .ok ()) : registry.canonicalBytes =
      if registry.encoded.length ≤ Limits.registryBytes then .ok registry.encoded
      else .error "canonical workload value exceeds limit" := by
  have hvalid := RuntimePrivatePolicyRegistry.validate_eq_ok.1 h
  have hgrant (grant : PolicyGrantV2) (hmem : grant ∈ registry.grants.items) :
      encodeGrantV2 grant = Encoder.raw grant.encoded :=
        encode_grantV2 (hvalid.grant grant hmem).caller
  unfold RuntimePrivatePolicyRegistry.canonicalBytes Encoder.byte sortProfiles sortIdentities
    sortGrantsV2
  simp only [h, encode_header,
    encode_sorted registry.profiles (fun p _ => encode_profile p) (by decide),
    encode_sorted registry.executionIdentities (fun i _ => encode_executionIdentity i) (by decide),
    encode_sorted registry.grants hgrant (by decide), raw_seq]
  show emitted _ (Encoder.raw registry.encoded) = _
  rw [Encoder.raw, emitted_raw]

end Written

/-! ## What the strings determine -/

section Determined

theorem delimits_id : Delimits LogicalId.encoded := delimits_of_reads reads_id

theorem delimits_encoded64 : Delimits encoded64 := delimits_of_reads reads_u64

theorem delimits_ceiling : Delimits NetworkCeilingV1.encoded := delimits_of_reads reads_ceiling

theorem delimits_identityRequest : Delimits ExecutionIdentityRequestV2.encoded :=
  delimits_of_reads reads_identity

theorem delimits_digest : Delimits (List.Vector.toList : DiagnosticSha256 → List UInt8) :=
  delimits_vector

theorem BoundedText.length_lt {n : ℕ} (text : BoundedText n) (h : n < 65536) :
    text.bytes.length < 65536 :=
  Nat.lt_of_le_of_lt text.bounded h

theorem delimits_text {n : ℕ} (hn : n < 65536) : Delimits fun text : BoundedText n =>
    prefixed text.bytes := by
  intro a b s t h
  obtain ⟨hbytes, hst⟩ := delimits_prefixed (a.length_lt hn) (b.length_lt hn) h
  exact ⟨BoundedText.ext hbytes, hst⟩

theorem delimits_bool : Delimits fun value => [boolByte value] := by
  apply delimits_of_length (k := 1)
  · intro _
    rfl
  · intro a b h
    revert h
    cases a <;> cases b <;> decide

/-- The tag tells what kind of caller follows. -/
theorem delimits_caller : Delimits CallerSelector.encoded := by
  intro a b s t h
  cases a with
  | linux uid =>
    cases b with
    | linux uid' =>
      obtain ⟨hvalue, hst⟩ := delimits_beBytes uid.toNat_lt uid'.toNat_lt (List.cons.inj h).2
      exact ⟨congrArg CallerSelector.linux (UInt32.toNat_inj.1 hvalue), hst⟩
    | windows sid => exact absurd (List.cons.inj h).1 (by decide)
  | windows sid =>
    cases b with
    | linux uid => exact absurd (List.cons.inj h).1 (by decide)
    | windows sid' =>
      obtain ⟨hsid, hst⟩ := delimits_text (by decide) (List.cons.inj h).2
      exact ⟨congrArg CallerSelector.windows hsid, hst⟩

theorem delimits_group : Delimits encodedGroup := by
  intro a b s t h
  obtain ⟨hvalue, hst⟩ := delimits_encoded64 h
  have hnat := congrArg UInt64.toNat hvalue
  rw [UInt32.toNat_toUInt64, UInt32.toNat_toUInt64] at hnat
  exact ⟨Subtype.ext (UInt32.toNat_inj.1 hnat), hst⟩

theorem delimits_entrypoint : Delimits ApprovedEntrypointV2.encoded := by
  intro a b s t h
  unfold ApprovedEntrypointV2.encoded at h
  simp only [List.append_assoc] at h
  obtain ⟨hid, h⟩ := delimits_id h
  obtain ⟨hpath, h⟩ := delimits_text (by decide) h
  obtain ⟨hsize, h⟩ := delimits_encoded64 h
  obtain ⟨hsha, h⟩ := delimits_digest h
  refine ⟨?_, h⟩
  cases a
  cases b
  congr
  exact Subtype.ext hsize

section Sorted

variable {s t : List UInt8} {α κ : Type} [LinearOrder κ] {key : α → κ} {n : ℕ} {p : α → Prop}
  {r : α → α → Prop} {encode : α → List UInt8} {a b : BoundedVec α n}

/-- Bounded lists with the same string, in the order of keys. -/
theorem rel_of_sorted (h : DelimitsOn p r encode) (hn : n < 256 ^ 2) (ha : ∀ x ∈ a.items, p x)
    (hb : ∀ x ∈ b.items, p x)
    (hab : counted encode (sortByKey key a.items) ++ s =
      counted encode (sortByKey key b.items) ++ t) :
    Multiset.Rel r (a.items : Multiset α) b.items ∧ s = t := by
  have hlength (as : BoundedVec α n) : (sortByKey key as.items).length < 256 ^ 2 := by
    rw [length_sortByKey]
    exact Nat.lt_of_le_of_lt as.bounded hn
  obtain ⟨hall, hst⟩ := h.counted (fun x hmem => ha x (mem_sortByKey.1 hmem))
    (fun x hmem => hb x (mem_sortByKey.1 hmem)) (hlength a) (hlength b) hab
  exact ⟨rel_of_forall₂_sortByKey hall, hst⟩

theorem perm_of_sorted (h : DelimitsOn p (· = ·) encode) (hn : n < 256 ^ 2)
    (ha : ∀ x ∈ a.items, p x) (hb : ∀ x ∈ b.items, p x)
    (hab : counted encode (sortByKey key a.items) ++ s =
      counted encode (sortByKey key b.items) ++ t) :
    a.items.Perm b.items ∧ s = t := by
  obtain ⟨hrel, hst⟩ := rel_of_sorted h hn ha hb hab
  exact ⟨Multiset.coe_eq_coe.1 (Multiset.rel_eq.1 hrel), hst⟩

/-- Bounded sets with the same string. -/
theorem perm_of_set (h : Delimits encode) (hn : n < 256 ^ 2)
    (hab : counted encode (sortByKey key a.items) ++ s =
      counted encode (sortByKey key b.items) ++ t) :
    a.items.Perm b.items ∧ s = t :=
  perm_of_sorted (p := fun _ => True) h.on hn (fun _ _ => trivial) (fun _ _ => trivial) hab

end Sorted

variable {s t : List UInt8}

theorem delimits_head {a b : PolicyGrantV1} (h : a.head ++ s = b.head ++ t) :
    a.id = b.id ∧ a.revision = b.revision ∧ a.profile = b.profile ∧ a.ceiling = b.ceiling ∧
      a.enabled = b.enabled ∧ s = t := by
  unfold PolicyGrantV1.head at h
  simp only [List.append_assoc] at h
  obtain ⟨hid, h⟩ := delimits_id h
  obtain ⟨hrevision, h⟩ := delimits_encoded64 h
  obtain ⟨hprofile, h⟩ := delimits_id h
  obtain ⟨hdigest, h⟩ := delimits_digest h
  obtain ⟨hceiling, h⟩ := delimits_ceiling h
  obtain ⟨henabled, h⟩ := delimits_bool h
  exact ⟨hid, Subtype.ext hrevision, ProfileRef.ext hprofile hdigest, hceiling, henabled, h⟩

theorem delimits_grant :
    DelimitsOn (fun _ => True) PolicyGrantV1.Reordered PolicyGrantV1.encoded := by
  intro a b s t _ _ h
  unfold PolicyGrantV1.encoded at h
  simp only [List.append_assoc] at h
  obtain ⟨hid, hrevision, hprofile, hceiling, henabled, h⟩ := delimits_head h
  obtain ⟨hcallers, h⟩ := perm_of_set delimits_caller (by decide) h
  obtain ⟨hplans, h⟩ := perm_of_set delimits_digest (by decide) h
  exact ⟨⟨hid, hrevision, hprofile, hceiling, henabled, hcallers, hplans⟩, h⟩

theorem delimits_grantV2 :
    DelimitsOn (fun _ => True) PolicyGrantV2.Reordered PolicyGrantV2.encoded := by
  intro a b s t _ _ h
  unfold PolicyGrantV2.encoded at h
  simp only [List.append_assoc] at h
  obtain ⟨hid, hrevision, hprofile, hceiling, henabled, h⟩ := delimits_head h
  obtain ⟨hcallers, h⟩ := perm_of_set delimits_caller (by decide) h
  obtain ⟨hplans, h⟩ := perm_of_set delimits_digest (by decide) h
  obtain ⟨hidentity, h⟩ := delimits_identityRequest h
  exact ⟨⟨⟨hid, hrevision, hprofile, hceiling, henabled, hcallers, hplans⟩, hidentity⟩, h⟩

/-- The kind of a profile is not written. A reference that passes its check determines it. -/
theorem delimits_profile {κ : Type} {reference : κ → ProfileRef}
    (hinjective : Function.Injective reference) :
    DelimitsOn (fun profile : ProfileDefinition κ => profile.reference = reference profile.profile)
      (· = ·) ProfileDefinition.encoded := by
  intro a b s t ha hb h
  unfold ProfileDefinition.encoded at h
  simp only [List.append_assoc] at h
  obtain ⟨hid, h⟩ := delimits_id h
  obtain ⟨hdigest, h⟩ := delimits_digest h
  obtain ⟨henabled, h⟩ := delimits_bool h
  have hreference : a.reference = b.reference := ProfileRef.ext hid hdigest
  have hprofile : a.profile = b.profile := by
    apply hinjective
    rw [← ha, ← hb, hreference]
  exact ⟨ProfileDefinition.ext hprofile hreference henabled, h⟩

theorem delimits_executionIdentity :
    DelimitsOn (fun _ => True) LinuxExecutionIdentityV2.Reordered
      LinuxExecutionIdentityV2.encoded := by
  intro a b s t _ _ h
  unfold LinuxExecutionIdentityV2.encoded LinuxExecutionIdentityV2.authority at h
  simp only [List.append_assoc] at h
  obtain ⟨hid, h⟩ := delimits_id h
  obtain ⟨hdigest, h⟩ := delimits_digest h
  obtain ⟨henabled, h⟩ := delimits_bool h
  obtain ⟨huid, h⟩ := delimits_group h
  obtain ⟨hgid, h⟩ := delimits_group h
  obtain ⟨hgroups, h⟩ := perm_of_set delimits_group (by decide) h
  obtain ⟨hentrypoints, h⟩ := perm_of_set delimits_entrypoint (by decide) h
  exact ⟨⟨ExecutionIdentityRefV2.ext hid hdigest, henabled, huid, hgid, hgroups, hentrypoints⟩, h⟩

theorem disposition_of_code {a b : GrantChangeDisposition} (h : [a.code] = [b.code]) : a = b := by
  revert h
  cases a <;> cases b <;> decide

end Determined

/-! ## Reordering does not change the strings -/

section Unordered

theorem bytesKey_injective : Function.Injective bytesKey :=
  List.map_injective_iff.2 fun _ _ => UInt8.toNat_inj.1

theorem sortPlans_eq {a b : List DiagnosticSha256} (hnodup : a.Nodup) (hperm : a.Perm b) :
    sortPlans a = sortPlans b :=
  sortByKey_eq_of_perm (hnodup.map fun _ _ h =>
    delimits_digest.injective (bytesKey_injective h)) hperm

theorem sortCallers_eq {a b : List CallerSelector} (hnodup : a.Nodup) (hperm : a.Perm b) :
    sortCallers a = sortCallers b :=
  sortByKey_eq_of_perm (hnodup.map fun _ _ h =>
    delimits_caller.injective (bytesKey_injective h)) hperm

/-- Users tell Linux callers apart. -/
theorem sortCallersV2_eq {a b : List CallerSelector} (hlinux : ∀ caller ∈ a, caller.isLinux = true)
    (hnodup : a.Nodup) (hperm : a.Perm b) : sortCallersV2 a = sortCallersV2 b := by
  refine sortByKey_eq_of_perm (hnodup.map_on ?_) hperm
  intro caller hcaller caller' hcaller' huid
  have h := hlinux caller hcaller
  have h' := hlinux caller' hcaller'
  cases caller with
  | windows sid => cases h
  | linux uid =>
    cases caller' with
    | windows sid => cases h'
    | linux uid' => exact congrArg CallerSelector.linux (UInt32.toNat_inj.1 huid)

theorem PolicyGrantV1.Reordered.head {a b : PolicyGrantV1} (h : a.Reordered b) :
    a.head = b.head := by
  unfold PolicyGrantV1.head
  rw [h.id, h.revision, h.profile, h.ceiling, h.enabled]

theorem PolicyGrantV1.Reordered.encoded {a b : PolicyGrantV1} (h : a.Reordered b)
    (hcallers : a.callers.items.Nodup) (hplans : a.approvedPlans.items.Nodup) :
    a.encoded = b.encoded := by
  unfold PolicyGrantV1.encoded
  rw [h.head, sortCallers_eq hcallers h.callers, sortPlans_eq hplans h.approvedPlans]

theorem PolicyGrantV2.Reordered.encoded {a b : PolicyGrantV2} (h : a.Reordered b)
    (hlinux : ∀ caller ∈ a.callers.items, caller.isLinux = true) (hcallers : a.callers.items.Nodup)
    (hplans : a.approvedPlans.items.Nodup) : a.encoded = b.encoded := by
  unfold PolicyGrantV2.encoded
  rw [h.base.head, sortCallersV2_eq hlinux hcallers h.base.callers,
    sortPlans_eq hplans h.base.approvedPlans, h.executionIdentity]

theorem LinuxExecutionIdentityV2.Reordered.encoded {a b : LinuxExecutionIdentityV2}
    (h : a.Reordered b) (hfields : a.FieldsValid) : a.encoded = b.encoded := by
  unfold LinuxExecutionIdentityV2.encoded
  rw [h.reference, h.enabled, h.authority hfields]

theorem sortProfiles_eq {κ : Type} {reference : κ → ProfileRef} {a b : List (ProfileDefinition κ)}
    (h : ProfilesValid reference a) (hperm : a.Perm b) : sortProfiles a = sortProfiles b :=
  sortByKey_eq_of_perm (nodup_keys h.ids) hperm

end Unordered

/-! ## Exactness -/

section Exact

variable [Sha256]

theorem BaselineProfile.reference_injective : Function.Injective BaselineProfile.reference := by
  intro a b h
  have hid : a.id = b.id := congrArg ProfileRef.id h
  revert hid
  cases a <;> cases b <;> decide +kernel

theorem ProfileKindV2.id_reference (profile : ProfileKindV2) :
    profile.reference.id = profile.id := by
  cases profile <;> rfl

theorem ProfileKindV2.reference_injective : Function.Injective ProfileKindV2.reference := by
  intro a b h
  have hid : a.id = b.id := by
    rw [← a.id_reference, ← b.id_reference, h]
  revert hid
  cases a <;> cases b <;> decide +kernel

namespace RuntimePolicyRegistry

variable {a b : RuntimePolicyRegistry}

theorem encoded_reordered (ha : a.Valid) (h : a.Reordered b) : a.encoded = b.encoded := by
  have hgrants : counted PolicyGrantV1.encoded (sortGrants a.grants.items) =
      counted PolicyGrantV1.encoded (sortGrants b.grants.items) := by
    apply counted_congr
    refine map_sortByKey_eq_of_rel h.grants (nodup_keys ha.grantIds) ?_
    intro grant hmem grant' _ hrel
    have hsound := ha.grant grant hmem
    exact ⟨congrArg LogicalId.key hrel.id, hrel.encoded hsound.nodupCallers hsound.nodupPlans⟩
  unfold RuntimePolicyRegistry.encoded
  rw [sortProfiles_eq ha.profiles h.profiles, hgrants, h.activeAttemptDisposition]

theorem reordered_of_encoded (ha : a.Valid) (hb : b.Valid) (h : a.encoded = b.encoded) :
    a.Reordered b := by
  unfold RuntimePolicyRegistry.encoded at h
  replace h := List.append_cancel_left h
  obtain ⟨hprofiles, h⟩ :=
    perm_of_sorted (delimits_profile BaselineProfile.reference_injective) (by decide)
    ha.profiles.reference hb.profiles.reference h
  obtain ⟨hgrants, h⟩ :=
    rel_of_sorted delimits_grant (by decide) (fun _ _ => trivial) (fun _ _ => trivial) h
  exact ⟨ha.format.trans hb.format.symm, ha.revision.trans hb.revision.symm, hprofiles, hgrants,
    disposition_of_code h⟩

/-- **The strings of V1 registries are the same exactly when the registries are, up to order.** -/
theorem encoded_eq_iff (ha : a.Valid) (hb : b.Valid) : a.encoded = b.encoded ↔ a.Reordered b :=
  ⟨reordered_of_encoded ha hb, encoded_reordered ha⟩

end RuntimePolicyRegistry

namespace RuntimePrivatePolicyRegistry

variable {a b : RuntimePrivatePolicyRegistry}

theorem encoded_reordered (ha : a.Valid) (h : a.Reordered b) : a.encoded = b.encoded := by
  have hidentities :
      counted LinuxExecutionIdentityV2.encoded (sortIdentities a.executionIdentities.items) =
      counted LinuxExecutionIdentityV2.encoded (sortIdentities b.executionIdentities.items) := by
    apply counted_congr
    refine map_sortByKey_eq_of_rel h.executionIdentities (nodup_keys ha.identityIds) ?_
    intro identity hmem identity' _ hrel
    have hfields := (validateIdentity_eq_ok.1 (ha.identity identity hmem)).1
    exact ⟨congrArg (fun reference => reference.id.key) hrel.reference, hrel.encoded hfields⟩
  have hgrants : counted PolicyGrantV2.encoded (sortGrantsV2 a.grants.items) =
      counted PolicyGrantV2.encoded (sortGrantsV2 b.grants.items) := by
    apply counted_congr
    refine map_sortByKey_eq_of_rel h.grants (nodup_keys ha.grantIds) ?_
    intro grant hmem grant' _ hrel
    have hsound := ha.grant grant hmem
    exact ⟨congrArg LogicalId.key hrel.base.id,
      hrel.encoded hsound.caller hsound.nodupCallers hsound.nodupPlans⟩
  unfold RuntimePrivatePolicyRegistry.encoded
  rw [sortProfiles_eq ha.profiles h.profiles, hidentities, hgrants, h.activeAttemptDisposition]

theorem reordered_of_encoded (ha : a.Valid) (hb : b.Valid) (h : a.encoded = b.encoded) :
    a.Reordered b := by
  unfold RuntimePrivatePolicyRegistry.encoded at h
  replace h := List.append_cancel_left h
  obtain ⟨hprofiles, h⟩ :=
    perm_of_sorted (delimits_profile ProfileKindV2.reference_injective) (by decide)
    ha.profiles.reference hb.profiles.reference h
  obtain ⟨hidentities, h⟩ :=
    rel_of_sorted delimits_executionIdentity (by decide) (fun _ _ => trivial) (fun _ _ => trivial) h
  obtain ⟨hgrants, h⟩ :=
    rel_of_sorted delimits_grantV2 (by decide) (fun _ _ => trivial) (fun _ _ => trivial) h
  exact ⟨ha.format.trans hb.format.symm, ha.revision.trans hb.revision.symm, hprofiles,
    hidentities, hgrants, disposition_of_code h⟩

/-- **The strings of V2 registries are the same exactly when the registries are, up to order.** -/
theorem encoded_eq_iff (ha : a.Valid) (hb : b.Valid) : a.encoded = b.encoded ↔ a.Reordered b :=
  ⟨reordered_of_encoded ha hb, encoded_reordered ha⟩

theorem encoded_of_canonicalBytes {bytes : List UInt8} (h : a.canonicalBytes = .ok bytes) :
    a.validate = .ok () ∧ bytes = a.encoded := by
  have hvalid : a.validate = .ok () := (unit_bind_eq_ok.1 h).1
  refine ⟨hvalid, ?_⟩
  rw [canonicalBytes_eq hvalid] at h
  split at h
  · exact (Except.ok.inj h).symm
  · cases h

end RuntimePrivatePolicyRegistry

omit [Sha256] in
/-- The domains of the two versions differ before either ends. -/
theorem registry_encoded_ne (a : RuntimePolicyRegistry) (b : RuntimePrivatePolicyRegistry) :
    a.encoded ≠ b.encoded := by
  intro h
  have htake := congrArg (List.take 35) h
  unfold RuntimePolicyRegistry.encoded RuntimePrivatePolicyRegistry.encoded at htake
  rw [List.take_append_of_le_length (by decide +kernel),
    List.take_append_of_le_length (by decide +kernel)] at htake
  revert htake
  decide +kernel

/-- **Registries have the same canonical bytes exactly when they are the same up to the order of
their sets**, and a V1 registry never has those of a V2 registry. The string of a V1 registry is
always built; that of a V2 registry is built exactly when it fits its limit. -/
theorem canonical_registry_exact :
    (∀ a b : RuntimePolicyRegistry, a.validate = .ok () → b.validate = .ok () →
      ∃ bytes bytes', a.canonicalBytes = .ok bytes ∧ b.canonicalBytes = .ok bytes' ∧
        (bytes = bytes' ↔ a.Reordered b)) ∧
    (∀ a b : RuntimePrivatePolicyRegistry, a.validate = .ok () → b.validate = .ok () →
      (a.canonicalBytes = if a.encoded.length ≤ Limits.registryBytes then .ok a.encoded
        else .error "canonical workload value exceeds limit") ∧
      (a.encoded = b.encoded ↔ a.Reordered b) ∧
      (a.Reordered b → a.canonicalBytes = b.canonicalBytes) ∧
        ∀ bytes bytes', a.canonicalBytes = .ok bytes → b.canonicalBytes = .ok bytes' →
          (bytes = bytes' ↔ a.Reordered b)) ∧
    ∀ (a : RuntimePolicyRegistry) (b : RuntimePrivatePolicyRegistry),
      a.encoded ≠ b.encoded ∧ ∀ bytes bytes',
        a.canonicalBytes = .ok bytes → b.canonicalBytes = .ok bytes' → bytes ≠ bytes' := by
  refine ⟨?_, ?_, ?_⟩
  · intro a b ha hb
    exact ⟨a.encoded, b.encoded, RuntimePolicyRegistry.canonicalBytes_eq ha,
      RuntimePolicyRegistry.canonicalBytes_eq hb, RuntimePolicyRegistry.encoded_eq_iff
        (RuntimePolicyRegistry.validate_eq_ok.1 ha) (RuntimePolicyRegistry.validate_eq_ok.1 hb)⟩
  · intro a b ha hb
    have hvalid := RuntimePrivatePolicyRegistry.validate_eq_ok.1 ha
    have hvalid' := RuntimePrivatePolicyRegistry.validate_eq_ok.1 hb
    have hiff := RuntimePrivatePolicyRegistry.encoded_eq_iff hvalid hvalid'
    refine ⟨RuntimePrivatePolicyRegistry.canonicalBytes_eq ha, hiff, ?_, ?_⟩
    · intro h
      rw [RuntimePrivatePolicyRegistry.canonicalBytes_eq ha,
        RuntimePrivatePolicyRegistry.canonicalBytes_eq hb, hiff.2 h]
    · intro bytes bytes' hbytes hbytes'
      rw [(RuntimePrivatePolicyRegistry.encoded_of_canonicalBytes hbytes).2,
        (RuntimePrivatePolicyRegistry.encoded_of_canonicalBytes hbytes').2]
      exact hiff
  · refine fun a b => ⟨registry_encoded_ne a b, ?_⟩
    intro bytes bytes' hbytes hbytes'
    have ha : a.validate = .ok () := (unit_bind_eq_ok.1 hbytes).1
    rw [RuntimePolicyRegistry.canonicalBytes_eq ha] at hbytes
    rw [← Except.ok.inj hbytes, (RuntimePrivatePolicyRegistry.encoded_of_canonicalBytes hbytes').2]
    exact registry_encoded_ne a b

end Exact

/-! ## A sample -/

section Sample

attribute [local instance] zeroHash

/-- An identity that runs one program, in these groups. -/
def sampleIdentity (groups : BoundedVec NonZeroU32 Limits.groupsPerIdentity) :
    LinuxExecutionIdentityV2 where
  reference := { id := privateProfileId, semanticDigest := List.Vector.replicate 32 0 }
  enabled := true
  uid := ⟨1000, by decide⟩
  gid := ⟨1000, by decide⟩
  supplementaryGroups := groups
  entrypoints := ⟨[{
    id := privateProfileId
    absolutePath := ⟨[47, 98], by decide, by decide, CodedText.isUtf8_of_ascii (by simp)⟩
    sha256 := List.Vector.replicate 32 0
    size := oneU64 }], by decide⟩

/-- A registry with that identity, whose grant names these callers. -/
def sharedRegistry (groups : BoundedVec NonZeroU32 Limits.groupsPerIdentity)
    (callers : BoundedVec CallerSelector Limits.callersPerGrant) : RuntimePrivatePolicyRegistry :=
  { sampleRegistry with
    executionIdentities := ⟨[sampleIdentity groups], (by decide : 1 ≤ Limits.executionIdentities)⟩
    grants := ⟨[{ sampleGrant with callers := callers }], (by decide : 1 ≤ Limits.grants)⟩ }

/-- The registry with two groups and two callers. -/
def listedRegistry : RuntimePrivatePolicyRegistry :=
  sharedRegistry ⟨[⟨4, by decide⟩, ⟨27, by decide⟩],
    by decide⟩ ⟨[.linux 1000, .linux 1001], by decide⟩

/-- The same registry with both lists in the other order. -/
def reversedRegistry : RuntimePrivatePolicyRegistry :=
  sharedRegistry ⟨[⟨27, by decide⟩, ⟨4, by decide⟩],
    by decide⟩ ⟨[.linux 1001, .linux 1000], by decide⟩

/-- The two orders have one string, and the registry without the identity has another. -/
theorem canonical_registry_exact_reversed :
    listedRegistry ≠ reversedRegistry ∧ ∃ bytes bytes', bytes ≠ bytes' ∧
      listedRegistry.canonicalBytes = .ok bytes ∧ reversedRegistry.canonicalBytes = .ok bytes ∧
      sampleRegistry.canonicalBytes = .ok bytes' := by
  have hlisted : listedRegistry.validate = .ok () := by decide +kernel
  have hreversed : reversedRegistry.validate = .ok () := by decide +kernel
  obtain ⟨-, hprivate, -⟩ := canonical_registry_exact
  obtain ⟨hbuilt, -, hsame, -⟩ := hprivate _ _ hlisted hreversed
  obtain ⟨hbuilt', -, -, hiff⟩ := hprivate _ _ sampleRegistry_validate hlisted
  rw [if_pos (by decide +kernel)] at hbuilt hbuilt'
  have hreordered : listedRegistry.Reordered reversedRegistry := by
    refine ⟨rfl, rfl, .refl _, ?_, ?_, rfl⟩
    · exact Multiset.rel_cons_left.2 ⟨_, 0, ⟨rfl, rfl, rfl, rfl, .swap _ _ _, .refl _⟩, .zero, rfl⟩
    · exact Multiset.rel_cons_left.2
        ⟨_, 0, ⟨⟨rfl, rfl, rfl, rfl, rfl, .swap _ _ _, .refl _⟩, rfl⟩, .zero, rfl⟩
  refine ⟨by decide +kernel, _, _, ?_, hbuilt, (hsame hreordered).symm.trans hbuilt, hbuilt'⟩
  intro heq
  have hrel := ((hiff _ _ hbuilt' hbuilt).1 heq.symm).executionIdentities
  exact absurd (Multiset.card_eq_card_of_rel hrel) (by decide)

end Sample

end MemCordon.Workload
