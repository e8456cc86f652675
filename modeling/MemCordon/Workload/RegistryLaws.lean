import MemCordon.Workload.CodecLaws
import MemCordon.Workload.Registry

/-!
# Valid registries

What the checks of a registry come to, and that the order of its set-like lists does not matter for
them.

* `RuntimePolicyRegistry.validate_eq_ok` and `RuntimePrivatePolicyRegistry.validate_eq_ok` list the
  conditions.
* `Reordered` relates two registries that differ in the order of profiles, grants, callers, plans,
  identities, groups and entrypoints only. A registry is valid when one of its reorderings is
  (`Reordered.validate`).
-/

namespace MemCordon.Workload

open Fallible Keyed Encoding

/-! ## Execution identities -/

def encodedGroup (group : NonZeroU32) : List UInt8 := encoded64 group.1.toUInt64

def ApprovedEntrypointV2.encoded (entrypoint : ApprovedEntrypointV2) : List UInt8 :=
  entrypoint.id.encoded ++ (prefixed entrypoint.absolutePath.bytes ++
    (encoded64 entrypoint.size.1 ++ entrypoint.sha256.toList))

/-- The bytes of the user, the group and the set-like lists of an identity. -/
def LinuxExecutionIdentityV2.authority (identity : LinuxExecutionIdentityV2) : List UInt8 :=
  encoded64 identity.uid.1.toUInt64 ++ (encoded64 identity.gid.1.toUInt64 ++
    (counted encodedGroup (sortGroups identity.supplementaryGroups.items) ++
      counted ApprovedEntrypointV2.encoded (sortEntrypoints identity.entrypoints.items)))

/-- The identities differ in the order of groups and entrypoints only. -/
structure LinuxExecutionIdentityV2.Reordered (a b : LinuxExecutionIdentityV2) : Prop where
  reference : a.reference = b.reference
  enabled : a.enabled = b.enabled
  uid : a.uid = b.uid
  gid : a.gid = b.gid
  supplementaryGroups : a.supplementaryGroups.items.Perm b.supplementaryGroups.items
  entrypoints : a.entrypoints.items.Perm b.entrypoints.items

section Identities

theorem encode_entrypoint (entrypoint : ApprovedEntrypointV2) :
    encodeEntrypoint entrypoint = Encoder.raw entrypoint.encoded := by
  have hbounded : entrypoint.absolutePath.bytes.length < 65536 :=
    Nat.lt_of_le_of_lt entrypoint.absolutePath.bounded (by decide)
  unfold encodeEntrypoint Encoder.u64 Encoder.digest
  simp only [encode_id, count_eq hbounded, raw_seq]
  unfold ApprovedEntrypointV2.encoded prefixed
  rw [List.append_assoc (beBytes 2 _)]
  rfl

theorem encode_authority (identity : LinuxExecutionIdentityV2) :
    encodeAuthority identity = Encoder.raw identity.authority := by
  have hgroup (group : NonZeroU32) : encodeGroup group = Encoder.raw (encodedGroup group) := rfl
  unfold encodeAuthority Encoder.u64 sortGroups sortEntrypoints
  simp only [encode_sorted identity.supplementaryGroups (fun group _ => hgroup group) (by decide),
    encode_sorted identity.entrypoints (fun entrypoint _ => encode_entrypoint entrypoint)
      (by decide), raw_seq]
  rfl

theorem ApprovedEntrypointV2.length_encoded_le (entrypoint : ApprovedEntrypointV2) :
    entrypoint.encoded.length ≤ 4204 := by
  have hid := entrypoint.id.length_encoded_le
  have hpath : entrypoint.absolutePath.bytes.length ≤ 4096 := entrypoint.absolutePath.bounded
  unfold ApprovedEntrypointV2.encoded prefixed
  simp only [List.length_append, length_beBytes, length_encoded64, List.Vector.toList_length]
  omega

theorem LinuxExecutionIdentityV2.length_authority_le (identity : LinuxExecutionIdentityV2) :
    identity.authority.length ≤ 33908 := by
  have hgroups : (counted encodedGroup (sortGroups identity.supplementaryGroups.items)).length ≤
      2 + 32 * 8 :=
    length_sorted_le (fun group => (length_encoded64 _).le) identity.supplementaryGroups
  have hentrypoints :
      (counted ApprovedEntrypointV2.encoded (sortEntrypoints identity.entrypoints.items)).length ≤
        2 + 8 * 4204 :=
    length_sorted_le ApprovedEntrypointV2.length_encoded_le identity.entrypoints
  unfold LinuxExecutionIdentityV2.authority
  simp only [List.length_append, length_encoded64]
  omega

/-- What `semantic_digest` hashes. -/
def LinuxExecutionIdentityV2.semanticBytes (identity : LinuxExecutionIdentityV2) : List UInt8 :=
  header (CodedText.bytes "execution-identity-v2") ++
    (identity.reference.id.encoded ++ identity.authority)

/-- The fields of an identity that pass their checks. -/
@[mk_iff]
structure LinuxExecutionIdentityV2.FieldsValid (identity : LinuxExecutionIdentityV2) : Prop where
  nonempty : identity.entrypoints.items ≠ []
  groups : identity.supplementaryGroups.items.Nodup
  paths : ∀ entrypoint ∈ identity.entrypoints.items, validPath entrypoint.absolutePath.bytes = true
  entrypoints : (identity.entrypoints.items.map ApprovedEntrypointV2.id).Nodup

variable {identity : LinuxExecutionIdentityV2}

theorem validateFields_eq_ok :
    identity.validateFields = .ok () ↔ identity.FieldsValid := by
  unfold LinuxExecutionIdentityV2.validateFields
  rw [unit_bind_eq_ok, unit_bind_eq_ok, reject_eq_ok, forM_zipIdx_eq_ok, forM_zipIdx_eq_ok]
  simp only [reject_eq_ok, not_or, Bool.not_eq_false, Bool.not_eq_true, Nat.zero_add]
  rw [forall_getElem?_and', forall_take_iff_nodup, ← nodup_iff_take]
  rw [LinuxExecutionIdentityV2.fieldsValid_iff]

theorem semanticDigest_eq_ok [Sha256] {digest : DiagnosticSha256} :
    identity.semanticDigest = .ok digest ↔ identity.FieldsValid ∧
      hashBytes identity.semanticBytes = digest := by
  have hlength : identity.semanticBytes.length ≤ Limits.registryBytes := by
    have hid := identity.reference.id.length_encoded_le
    have hauthority := identity.length_authority_le
    have hheader : (header (CodedText.bytes "execution-identity-v2")).length = 24 := by
      decide +kernel
    unfold LinuxExecutionIdentityV2.semanticBytes Limits.registryBytes
    rw [List.length_append, List.length_append, hheader]
    omega
  unfold LinuxExecutionIdentityV2.semanticDigest
  rw [unit_bind_eq_ok, validateFields_eq_ok, encode_header, encode_id, encode_authority,
    raw_seq, raw_seq]
  show _ ∧ (emitted _ (Encoder.raw identity.semanticBytes) >>= _) = _ ↔ _
  rw [Encoder.raw, emitted_raw, if_pos hlength]
  apply and_congr_right
  intro _
  exact ⟨Except.ok.inj, congrArg Except.ok⟩

/-- What the checks of an identity come to. -/
theorem validateIdentity_eq_ok [Sha256] : identity.validate = .ok () ↔
      identity.FieldsValid ∧
      hashBytes identity.semanticBytes = identity.reference.semanticDigest := by
  unfold LinuxExecutionIdentityV2.validate
  simp only [bind_eq_ok, reject_eq_ok, not_not, exists_eq_right, semanticDigest_eq_ok]

theorem toNat_group_injective : Function.Injective fun group : NonZeroU32 => group.1.toNat := by
  intro a b h
  exact Subtype.ext (UInt32.toNat_inj.1 h)

namespace LinuxExecutionIdentityV2.Reordered

variable {a b : LinuxExecutionIdentityV2}

theorem fieldsValid (h : Reordered a b) (ha : a.FieldsValid) : b.FieldsValid where
  nonempty := by
    intro hnil
    have hperm := h.entrypoints
    rw [hnil] at hperm
    exact ha.nonempty hperm.eq_nil
  groups := h.supplementaryGroups.nodup_iff.1 ha.groups
  paths := fun entrypoint hmem => ha.paths entrypoint (h.entrypoints.mem_iff.2 hmem)
  entrypoints := (h.entrypoints.map _).nodup_iff.1 ha.entrypoints

theorem authority (h : Reordered a b) (ha : a.FieldsValid) : a.authority = b.authority := by
  have hgroups : sortGroups a.supplementaryGroups.items = sortGroups b.supplementaryGroups.items :=
    sortByKey_eq_of_perm (ha.groups.map toNat_group_injective) h.supplementaryGroups
  have hentrypoints : sortEntrypoints a.entrypoints.items = sortEntrypoints b.entrypoints.items :=
    sortByKey_eq_of_perm (nodup_keys ha.entrypoints) h.entrypoints
  unfold LinuxExecutionIdentityV2.authority
  rw [hgroups, hentrypoints, h.uid, h.gid]

theorem validate [Sha256] (h : Reordered a b) (ha : a.validate = .ok ()) : b.validate = .ok () := by
  obtain ⟨hfields, hdigest⟩ := validateIdentity_eq_ok.1 ha
  refine validateIdentity_eq_ok.2 ⟨h.fieldsValid hfields, ?_⟩
  rw [← h.reference, ← hdigest]
  unfold LinuxExecutionIdentityV2.semanticBytes
  rw [h.reference, h.authority hfields]

end LinuxExecutionIdentityV2.Reordered

end Identities

/-! ## Profiles and grants -/

@[mk_iff]
structure ProfilesValid {κ : Type} (reference : κ → ProfileRef)
    (profiles : List (ProfileDefinition κ)) :
    Prop where
  reference : ∀ profile ∈ profiles, profile.reference = reference profile.profile
  ids : (profiles.map fun profile => profile.reference.id).Nodup

/-- A grant of a valid registry: it selects callers and plans, once each, and has a profile within
its ceiling. -/
@[mk_iff]
structure PolicyGrantV1.Sound {κ : Type} (ceiling : κ → NetworkCeilingV1)
    (caller : CallerSelector → Prop)
    (profiles : List (ProfileDefinition κ)) (grant : PolicyGrantV1) : Prop where
  callers : grant.callers.items ≠ []
  plans : grant.approvedPlans.items ≠ []
  profile : ∃ profile ∈ profiles, profile.grants ceiling grant = true
  caller : ∀ selector ∈ grant.callers.items, caller selector
  nodupCallers : grant.callers.items.Nodup
  nodupPlans : grant.approvedPlans.items.Nodup

/-- The grants differ in the order of callers and plans only. -/
structure PolicyGrantV1.Reordered (a b : PolicyGrantV1) : Prop where
  id : a.id = b.id
  revision : a.revision = b.revision
  profile : a.profile = b.profile
  ceiling : a.ceiling = b.ceiling
  enabled : a.enabled = b.enabled
  callers : a.callers.items.Perm b.callers.items
  approvedPlans : a.approvedPlans.items.Perm b.approvedPlans.items

section Loops

variable {κ : Type} {e : String} {reference : κ → ProfileRef} {ceiling : κ → NetworkCeilingV1}
  {profiles profiles' : List (ProfileDefinition κ)} {caller : CallerSelector → Prop}

theorem validateProfiles_eq_ok :
    (profiles.zipIdx.forM fun entry => validateProfile e reference profiles entry.1 entry.2) = .ok
      () ↔ ProfilesValid reference profiles := by
  rw [forM_zipIdx_eq_ok]
  simp only [validateProfile, reject_eq_ok, not_or, not_not, Bool.not_eq_true, Nat.zero_add]
  rw [forall_getElem?_and', forall_take_iff_nodup, profilesValid_iff]

theorem validatePlans_eq_ok {plans : List DiagnosticSha256} : validatePlans e plans = .ok () ↔
    plans.Nodup := by
  unfold validatePlans
  rw [forM_zipIdx_eq_ok, nodup_iff_take]
  simp only [reject_eq_ok, Nat.zero_add]

theorem validateCallers_eq_ok {callers : List CallerSelector} : validateCallers callers = .ok () ↔
      (∀ selector ∈ callers, selector.validateSid = .ok ()) ∧ callers.Nodup := by
  unfold validateCallers
  rw [forM_zipIdx_eq_ok, nodup_iff_take]
  simp only [unit_bind_eq_ok, reject_eq_ok, Nat.zero_add, forall_getElem?_and']

theorem validateCallersV2_eq_ok {callers : List CallerSelector} :
    validateCallersV2 callers = .ok () ↔
      (∀ selector ∈ callers, selector.isLinux = true) ∧ callers.Nodup := by
  unfold validateCallersV2
  rw [forM_zipIdx_eq_ok, nodup_iff_take]
  simp only [reject_eq_ok, not_or, Bool.not_eq_false, Nat.zero_add, forall_getElem?_and']

theorem validateSelectors_eq_ok {priors : List PolicyGrantV1} {grant : PolicyGrantV1} :
    validateSelectors e ceiling profiles priors grant = .ok () ↔
      priors.any (fun prior => prior.id = grant.id) = false ∧ grant.callers.items ≠ [] ∧
        grant.approvedPlans.items ≠ [] ∧ ∃ profile ∈ profiles, profile.grants ceiling grant =
          true := by
  unfold validateSelectors
  rw [reject_eq_ok, not_or, not_or, not_or, Bool.not_eq_true, Bool.not_eq_false, List.any_eq_true]

theorem ProfilesValid.perm (h : ProfilesValid reference profiles)
    (hperm : profiles.Perm profiles') :
    ProfilesValid reference profiles' where
  reference := fun profile hmem => h.reference profile (hperm.mem_iff.2 hmem)
  ids := (hperm.map _).nodup_iff.1 h.ids

/-- A grant stays sound when callers, plans and profiles are reordered. -/
theorem PolicyGrantV1.Sound.reordered {a b : PolicyGrantV1} (h : a.Sound ceiling caller profiles)
    (hgrant : a.Reordered b) (hprofiles : profiles.Perm profiles') :
    b.Sound ceiling caller profiles' where
  callers := by
    intro hnil
    have hperm := hgrant.callers
    rw [hnil] at hperm
    exact h.callers hperm.eq_nil
  plans := by
    intro hnil
    have hperm := hgrant.approvedPlans
    rw [hnil] at hperm
    exact h.plans hperm.eq_nil
  profile := by
    obtain ⟨profile, hmem, hgrants⟩ := h.profile
    refine ⟨profile, hprofiles.mem_iff.1 hmem, ?_⟩
    unfold ProfileDefinition.grants at hgrants ⊢
    rwa [← hgrant.profile, ← hgrant.ceiling]
  caller := fun selector hmem => h.caller selector (hgrant.callers.mem_iff.2 hmem)
  nodupCallers := hgrant.callers.nodup_iff.1 h.nodupCallers
  nodupPlans := hgrant.approvedPlans.nodup_iff.1 h.nodupPlans

end Loops

/-! ## The registries -/

namespace RuntimePolicyRegistry

/-- The conditions on a V1 registry. -/
@[mk_iff]
structure Valid [Sha256] (registry : RuntimePolicyRegistry) : Prop where
  format : registry.format = "memcordon.local-policy"
  revision : registry.revision = 1
  profiles : ProfilesValid BaselineProfile.reference registry.profiles.items
  grantIds : (registry.grants.items.map PolicyGrantV1.id).Nodup
  grant : ∀ grant ∈ registry.grants.items, grant.Sound BaselineProfile.ceiling
    (fun selector => selector.validateSid = .ok ()) registry.profiles.items

/-- The registries differ in the order of profiles, grants, callers and plans only. -/
structure Reordered (a b : RuntimePolicyRegistry) : Prop where
  format : a.format = b.format
  revision : a.revision = b.revision
  profiles : a.profiles.items.Perm b.profiles.items
  grants :
    Multiset.Rel PolicyGrantV1.Reordered (a.grants.items : Multiset PolicyGrantV1) b.grants.items
  activeAttemptDisposition : a.activeAttemptDisposition = b.activeAttemptDisposition

variable [Sha256]

/-- **What the checks of a V1 registry come to.** -/
theorem validate_eq_ok {registry : RuntimePolicyRegistry} : registry.validate = .ok () ↔
    registry.Valid := by
  unfold RuntimePolicyRegistry.validate
  rw [unit_bind_eq_ok, unit_bind_eq_ok, reject_eq_ok, validateProfiles_eq_ok, forM_zipIdx_eq_ok]
  simp only [unit_bind_eq_ok, validateSelectors_eq_ok, validateCallers_eq_ok,
    validatePlans_eq_ok, not_or, not_not, Nat.zero_add, and_assoc]
  rw [forall_getElem?_and, forall_take_iff_nodup, valid_iff]
  simp only [PolicyGrantV1.sound_iff]

end RuntimePolicyRegistry

/-- The V2 grants differ in the order of callers and plans only. -/
structure PolicyGrantV2.Reordered (a b : PolicyGrantV2) : Prop where
  base : a.toPolicyGrantV1.Reordered b.toPolicyGrantV1
  executionIdentity : a.executionIdentity = b.executionIdentity

namespace RuntimePrivatePolicyRegistry

/-- The conditions on a V2 registry. -/
@[mk_iff]
structure Valid [Sha256] (registry : RuntimePrivatePolicyRegistry) : Prop where
  format : registry.format = "memcordon.local-private-policy"
  revision : registry.revision = 1
  profiles : ProfilesValid ProfileKindV2.reference registry.profiles.items
  identity : ∀ identity ∈ registry.executionIdentities.items, identity.validate = .ok ()
  identityIds : (registry.executionIdentities.items.map fun identity => identity.reference.id).Nodup
  grantIds : (registry.grants.items.map fun grant => grant.id).Nodup
  grant : ∀ grant ∈ registry.grants.items, grant.toPolicyGrantV1.Sound ProfileKindV2.ceiling
    (fun selector => selector.isLinux = true) registry.profiles.items
  grantIdentity : ∀ grant ∈ registry.grants.items, validateGrantIdentity registry grant = .ok ()

/-- The registries differ in the order of profiles, identities, groups, entrypoints, grants, callers
and plans only. -/
structure Reordered (a b : RuntimePrivatePolicyRegistry) : Prop where
  format : a.format = b.format
  revision : a.revision = b.revision
  profiles : a.profiles.items.Perm b.profiles.items
  executionIdentities : Multiset.Rel LinuxExecutionIdentityV2.Reordered
    (a.executionIdentities.items : Multiset LinuxExecutionIdentityV2) b.executionIdentities.items
  grants :
    Multiset.Rel PolicyGrantV2.Reordered (a.grants.items : Multiset PolicyGrantV2) b.grants.items
  activeAttemptDisposition : a.activeAttemptDisposition = b.activeAttemptDisposition

variable [Sha256]

variable {registry : RuntimePrivatePolicyRegistry}

/-- **What the checks of a V2 registry come to.** -/
theorem validate_eq_ok : registry.validate = .ok () ↔ registry.Valid := by
  unfold RuntimePrivatePolicyRegistry.validate
  rw [unit_bind_eq_ok, unit_bind_eq_ok, unit_bind_eq_ok, reject_eq_ok, validateProfiles_eq_ok,
    forM_zipIdx_eq_ok, forM_zipIdx_eq_ok]
  simp only [unit_bind_eq_ok, reject_eq_ok, validateSelectors_eq_ok, validateCallersV2_eq_ok,
    validatePlans_eq_ok, List.any_map, Function.comp_def, not_or, not_not, Bool.not_eq_true,
    Nat.zero_add, and_assoc]
  rw [forall_getElem?_and', forall_take_iff_nodup, forall_getElem?_and, forall_take_iff_nodup]
  simp only [valid_iff, PolicyGrantV1.sound_iff, ← forall₂_and, and_assoc]

omit [Sha256] in
theorem validateGrantIdentity_eq_ok {grant : PolicyGrantV2} :
    validateGrantIdentity registry grant = .ok () ↔
      ∀ reference, grant.executionIdentity = .administratorProfile reference →
        (∃ identity ∈ registry.executionIdentities.items, identity.reference = reference ∧
          (grant.enabled = true → identity.enabled = true)) ∧
        ∃ profile ∈ registry.profiles.items, profile.reference = grant.profile ∧
          profile.profile = .linuxTcp4PrivateV1 := by
  unfold validateGrantIdentity
  cases grant.executionIdentity with
  | preserveCaller => simp
  | administratorProfile reference =>
    simp only [unit_bind_eq_ok, reject_eq_ok, Bool.not_eq_false, List.any_eq_true, Bool.and_eq_true,
      decide_eq_true_eq, Bool.or_eq_true, Bool.not_eq_true',
      ExecutionIdentityRequestV2.administratorProfile.injEq, forall_eq']
    cases grant.enabled <;> simp

theorem Reordered.valid {a b : RuntimePrivatePolicyRegistry} (h : Reordered a b)
    (ha : a.Valid) : b.Valid where
  format := h.format ▸ ha.format
  revision := h.revision ▸ ha.revision
  profiles := ha.profiles.perm h.profiles
  identity := by
    intro identity hmem
    obtain ⟨identity', hmem', hrel⟩ := exists_of_rel_right h.executionIdentities hmem
    exact hrel.validate (ha.identity identity' hmem')
  identityIds :=
    (map_perm_of_rel h.executionIdentities fun _ _ _ _ hab => by rw [hab.reference]).nodup_iff.1
    ha.identityIds
  grantIds := (map_perm_of_rel h.grants fun _ _ _ _ hab => hab.base.id).nodup_iff.1 ha.grantIds
  grant := by
    intro grant hmem
    obtain ⟨grant', hmem', hrel⟩ := exists_of_rel_right h.grants hmem
    exact (ha.grant grant' hmem').reordered hrel.base h.profiles
  grantIdentity := by
    intro grant hmem
    obtain ⟨grant', hmem', hrel⟩ := exists_of_rel_right h.grants hmem
    rw [validateGrantIdentity_eq_ok]
    intro reference hreference
    obtain ⟨⟨identity, hidentity, href, henabled⟩, profile, hprofile, hpref, hkind⟩ :=
      validateGrantIdentity_eq_ok.1 (ha.grantIdentity grant' hmem') reference
        (hrel.executionIdentity.trans hreference)
    constructor
    · obtain ⟨identity', hidentity', hid⟩ := exists_of_rel h.executionIdentities hidentity
      refine ⟨identity', hidentity', hid.reference ▸ href, fun hgrant => ?_⟩
      rw [← hid.enabled]
      exact henabled (hrel.base.enabled.trans hgrant)
    · exact ⟨profile, h.profiles.mem_iff.1 hprofile, hpref.trans hrel.base.profile, hkind⟩

end RuntimePrivatePolicyRegistry

/-! ## A sample -/

/-- A hash function with one value. -/
abbrev zeroHash : Sha256 := ⟨fun _ => List.Vector.replicate 32 0⟩

/-- A grant of the baseline profile to one user. -/
def oneU64 : NonZeroU64 := ⟨1, by decide⟩

def sampleGrant : PolicyGrantV2 where
  id := privateProfileId
  revision := oneU64
  profile := @BaselineProfile.reference zeroHash .linuxUnixCreate
  ceiling := BaselineProfile.ceiling .linuxUnixCreate
  enabled := true
  callers := ⟨[.linux 1000], by decide⟩
  approvedPlans := ⟨[List.Vector.replicate 32 0], by decide⟩
  executionIdentity := .preserveCaller

def sampleRegistry : RuntimePrivatePolicyRegistry where
  format := "memcordon.local-private-policy"
  revision := 1
  profiles := ⟨[{
    profile := .linuxUnixCreateV1
    reference := @BaselineProfile.reference zeroHash .linuxUnixCreate
    enabled := true }], by decide⟩
  executionIdentities := .empty
  grants := ⟨[sampleGrant], by decide⟩
  activeAttemptDisposition := .drainExisting

theorem sampleRegistry_validate :
    @RuntimePrivatePolicyRegistry.validate zeroHash sampleRegistry = .ok () := by
  decide +kernel

end MemCordon.Workload
