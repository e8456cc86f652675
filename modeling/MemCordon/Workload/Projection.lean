import MemCordon.Workload.Admission

/-!
# The baseline projection

A V2 registry keeps the V1 Linux baseline authority: `baseline_v1_projection` of
`workload_registry_v2.rs` selects its baseline profile and the grants that preserve the caller.

* `baselineV1Projection_eq_ok`: the projection of a valid registry succeeds, and is again valid.
* `projection_agrees`: the V1 decision on the projection and the V2 decision on the registry agree,
  and no grant of the private profile or of an administrator identity authorizes a V1 request.
-/

namespace MemCordon.Workload

open Fallible Keyed

def ProfileDefinition.toBaseline (profile : RuntimePrivateProfileDefinition) :
    Option RuntimeProfileDefinition :=
  if profile.profile = .linuxUnixCreateV1 then
    some { profile := .linuxUnixCreate, reference := profile.reference, enabled := profile.enabled }
  else none

/-- A grant of the baseline profile that preserves the caller, as a V1 grant. -/
def PolicyGrantV2.toBaseline [Sha256] (grant : PolicyGrantV2) : Option PolicyGrantV1 :=
  if grant.profile = BaselineProfile.reference .linuxUnixCreate ∧
      grant.executionIdentity = .preserveCaller then
    some grant.toPolicyGrantV1
  else none

def RuntimePrivatePolicyRegistry.baselineV1Projection [Sha256]
    (registry : RuntimePrivatePolicyRegistry) :
    Except String RuntimePolicyRegistry := do
  registry.validate
  let profiles ← BoundedVec.collect "V1 baseline profile projection exceeds bound"
    ProfileDefinition.toBaseline registry.profiles.items
  let grants ← BoundedVec.collect "V1 baseline grant projection exceeds bound"
    PolicyGrantV2.toBaseline registry.grants.items
  let projected : RuntimePolicyRegistry := {
    format := "memcordon.local-policy"
    revision := 1
    profiles
    grants
    activeAttemptDisposition := registry.activeAttemptDisposition }
  projected.validate
  .ok projected

/-! ## The projection succeeds -/

variable {α β : Type} {e : String} {n : ℕ} {select : β → Option α}

/-- The loop has pushed what it selected of the items before, so that there is room for the next. -/
theorem BoundedVec.foldlM_pushSelected
    (items : List β) (v w : BoundedVec α n) (hroom : v.items.length + items.length ≤ n)
    (hw : w.items = v.items ++ items.filterMap select) :
    items.foldlM (BoundedVec.pushSelected e select) v = .ok w := by
  induction items generalizing v with
  | nil =>
    have hsame : w = v := BoundedVec.ext (hw.trans (List.append_nil _))
    rw [hsame]
    rfl
  | cons b items ih =>
    rw [List.length_cons] at hroom
    rw [List.foldlM_cons]
    cases hselect : select b with
    | none =>
      have hstep : BoundedVec.pushSelected e select v b = .ok v := by
        unfold BoundedVec.pushSelected
        rw [hselect]
      rw [hstep]
      refine ih v (by omega) ?_
      rwa [List.filterMap_cons_none hselect] at hw
    | some a =>
      have hlength : (v.items ++ [a]).length ≤ n := by
        rw [List.length_append, List.length_singleton]
        omega
      have hpush : v.tryPush a = some ⟨v.items ++ [a], hlength⟩ :=
        BoundedVec.tryPush_eq_some.2 ⟨by omega, rfl⟩
      have hstep : BoundedVec.pushSelected e select v b = .ok ⟨v.items ++ [a], hlength⟩ := by
        unfold BoundedVec.pushSelected
        rw [hselect]
        exact okOr_eq_ok.2 hpush
      rw [hstep]
      refine ih ⟨v.items ++ [a], hlength⟩ ?_ ?_
      · rw [List.length_append, List.length_singleton]
        omega
      · rw [hw, List.filterMap_cons_some hselect, List.append_assoc]
        rfl

/-- A loop over no more items than fit selects all of them. -/
theorem BoundedVec.collect_eq_ok {items : List β} (h : items.length ≤ n) :
    (BoundedVec.collect e select items : Except String (BoundedVec α n)) =
      .ok ⟨items.filterMap select, (List.length_filterMap_le _ _).trans h⟩ :=
  BoundedVec.foldlM_pushSelected items .empty _ (by simpa [BoundedVec.empty] using h) rfl

section Projection

variable [Sha256] {registry : RuntimePrivatePolicyRegistry}

/-- The registry that the projection selects. -/
def RuntimePrivatePolicyRegistry.baseline (registry : RuntimePrivatePolicyRegistry) :
    RuntimePolicyRegistry where
  format := "memcordon.local-policy"
  revision := 1
  profiles := ⟨registry.profiles.items.filterMap ProfileDefinition.toBaseline,
    (List.length_filterMap_le _ _).trans registry.profiles.bounded⟩
  grants := ⟨registry.grants.items.filterMap PolicyGrantV2.toBaseline,
    (List.length_filterMap_le _ _).trans registry.grants.bounded⟩
  activeAttemptDisposition := registry.activeAttemptDisposition

omit [Sha256] in
theorem toBaseline_profile_eq_some {profile : RuntimePrivateProfileDefinition}
    {baseline : RuntimeProfileDefinition} :
    profile.toBaseline = some baseline ↔ profile.profile = .linuxUnixCreateV1 ∧
      baseline = { profile := .linuxUnixCreate, reference := profile.reference,
                   enabled := profile.enabled } := by
  unfold ProfileDefinition.toBaseline
  rw [Option.ite_none_right_eq_some, Option.some.injEq]
  exact and_congr_right fun _ => eq_comm

theorem toBaseline_grant_eq_some {grant : PolicyGrantV2} {baseline : PolicyGrantV1} :
    grant.toBaseline = some baseline ↔ grant.profile = BaselineProfile.reference .linuxUnixCreate ∧
      grant.executionIdentity = .preserveCaller ∧ baseline = grant.toPolicyGrantV1 := by
  unfold PolicyGrantV2.toBaseline
  rw [Option.ite_none_right_eq_some, Option.some.injEq, and_assoc]
  exact and_congr_right fun _ => and_congr_right fun _ => eq_comm

theorem mem_baseline_grants {baseline : PolicyGrantV1} :
    baseline ∈ registry.baseline.grants.items ↔ ∃ grant ∈ registry.grants.items,
      grant.profile = BaselineProfile.reference .linuxUnixCreate ∧
        grant.executionIdentity = .preserveCaller ∧ baseline = grant.toPolicyGrantV1 := by
  show baseline ∈ registry.grants.items.filterMap _ ↔ _
  simp only [List.mem_filterMap, toBaseline_grant_eq_some]

theorem mem_baseline_profiles {baseline : RuntimeProfileDefinition} :
    baseline ∈ registry.baseline.profiles.items ↔ ∃ profile ∈ registry.profiles.items,
      profile.profile = .linuxUnixCreateV1 ∧
        baseline = { profile := .linuxUnixCreate, reference := profile.reference,
                     enabled := profile.enabled } := by
  show baseline ∈ registry.profiles.items.filterMap _ ↔ _
  simp only [List.mem_filterMap, toBaseline_profile_eq_some]

/-- The references of the two profiles differ in their identifier. -/
theorem reference_ne :
    ProfileKindV2.reference .linuxTcp4PrivateV1 ≠ BaselineProfile.reference .linuxUnixCreate := by
  intro h
  have hid : privateProfileId = BaselineProfile.id .linuxUnixCreate := congrArg ProfileRef.id h
  exact absurd hid (by decide +kernel)

theorem eq_baseline_of_reference (h : registry.Valid) {profile : RuntimePrivateProfileDefinition}
    (hmem : profile ∈ registry.profiles.items)
    (href : profile.reference = BaselineProfile.reference .linuxUnixCreate) :
    profile.profile = .linuxUnixCreateV1 := by
  have hkind := h.profiles.reference profile hmem
  cases hprofile : profile.profile with
  | linuxUnixCreateV1 => rfl
  | linuxTcp4PrivateV1 =>
    rw [hprofile, href] at hkind
    exact absurd hkind.symm reference_ne

/-- **The projection of a valid registry is valid.** -/
theorem baseline_valid (h : registry.Valid) : registry.baseline.Valid where
  format := rfl
  revision := rfl
  profiles := {
    reference := by
      intro baseline hmem
      obtain ⟨profile, hprofile, hkind, rfl⟩ := mem_baseline_profiles.1 hmem
      have href := h.profiles.reference profile hprofile
      rw [hkind] at href
      exact href
    ids := by
      apply nodup_map_filterMap h.profiles.ids
      intro profile baseline hbaseline
      obtain ⟨-, rfl⟩ := toBaseline_profile_eq_some.1 hbaseline
      rfl }
  grantIds := by
    apply nodup_map_filterMap h.grantIds
    intro grant baseline hbaseline
    obtain ⟨-, -, rfl⟩ := toBaseline_grant_eq_some.1 hbaseline
    rfl
  grant := by
    intro baseline hmem
    obtain ⟨grant, hgrant, hprofile, -, rfl⟩ := mem_baseline_grants.1 hmem
    obtain ⟨hcallers, hplans, ⟨profile, hlisted, hgrants⟩, hcaller, hnodup, hnodupPlans⟩ :=
      h.grant grant hgrant
    refine ⟨hcallers, hplans, ?_, ?_, hnodup, hnodupPlans⟩
    · unfold ProfileDefinition.grants at hgrants
      rw [Bool.and_eq_true, decide_eq_true_eq] at hgrants
      have hkind := eq_baseline_of_reference h hlisted (hgrants.1.trans hprofile)
      refine ⟨_, mem_baseline_profiles.2 ⟨profile, hlisted, hkind, rfl⟩, ?_⟩
      unfold ProfileDefinition.grants
      rw [hkind] at hgrants
      rw [Bool.and_eq_true, decide_eq_true_eq]
      exact hgrants
    · intro selector hselector
      have hlinux := hcaller selector hselector
      cases selector with
      | linux uid => rfl
      | windows sid => cases hlinux

theorem baselineV1Projection_eq_ok (h : registry.validate = .ok ()) :
    registry.baselineV1Projection = .ok registry.baseline := by
  have hvalid := RuntimePrivatePolicyRegistry.validate_eq_ok.1 h
  have hbaseline := RuntimePolicyRegistry.validate_eq_ok.2 (baseline_valid hvalid)
  unfold RuntimePrivatePolicyRegistry.baselineV1Projection
  rw [h, BoundedVec.collect_eq_ok registry.profiles.bounded,
    BoundedVec.collect_eq_ok registry.grants.bounded]
  show (registry.baseline.validate >>= fun _ => .ok registry.baseline) = _
  rw [hbaseline]
  rfl

/-! ## The two decisions agree -/

/-- The V1 and the V2 request ask for the same, endpoints apart. -/
structure SameAsk (request : WorkloadContractV1) (request' : WorkloadContractV2) : Prop where
  authorization : request.authorization = request'.authorization
  workloadPlanDigest : request.workloadPlanDigest = request'.workloadPlanDigest
  expectedEpoch : request.expectedEpoch = request'.expectedEpoch
  authorizedProfile : request.authorizedProfile = request'.authorizedProfile
  ceiling : request.ceiling = request'.ceiling
  requirements : request.requirements = request'.requirements

variable {currentEpoch : PolicyEpoch} {caller : CallerSelector} {request : WorkloadContractV1}
  {request' : WorkloadContractV2}

theorem authorizes_baseline_iff (h : registry.Valid) (hask : SameAsk request request')
    (hidentity : request'.executionIdentity = .preserveCaller) {baseline : PolicyGrantV1} :
    Authorizes registry.baseline currentEpoch request caller .linuxUnixCreate baseline ↔
      ∃ grant, AuthorizesV2 registry currentEpoch request' caller .linuxUnixCreateV1 grant ∧
        grant.toPolicyGrantV1 = baseline := by
  obtain ⟨hauthorization, hplan, hepoch, hprofile, hceiling, -⟩ := hask
  simp only [authorizes_fields, authorizesV2_fields, mem_baseline_grants, mem_baseline_profiles,
    hauthorization, hplan, hepoch, hprofile, hceiling, hidentity]
  constructor
  · rintro ⟨⟨grant, hgrant, -, hpreserve, rfl⟩, hid, hrevision, henabled, hcaller, hmem, happroved,
      hcurrent, hauthorized,
      ⟨_, ⟨profile, hlisted, hkind, rfl⟩, href, hprofileEnabled, -⟩, hceilings⟩
    exact ⟨grant, ⟨hgrant, hid, hrevision, henabled, hcaller, hmem, happroved, hcurrent,
      hauthorized,
      ⟨profile, hlisted, href, hprofileEnabled, hkind⟩, hpreserve, nofun, hceilings⟩, rfl⟩
  · rintro ⟨grant, ⟨hgrant, hid, hrevision, henabled, hcaller, hmem, happroved, hcurrent,
      hauthorized, ⟨profile, hlisted, href, hprofileEnabled, hkind⟩, hpreserve, -, hceilings⟩, rfl⟩
    have hreference : grant.profile = BaselineProfile.reference .linuxUnixCreate := by
      rw [← href, h.profiles.reference profile hlisted, hkind]
      rfl
    exact ⟨⟨grant, hgrant, hreference, hpreserve, rfl⟩, hid, hrevision, henabled, hcaller, hmem,
      happroved, hcurrent,
      hauthorized, ⟨_, ⟨profile, hlisted, hkind, rfl⟩, href, hprofileEnabled, rfl⟩, hceilings⟩

omit [Sha256] in
theorem supports_baseline (requirement : RequirementV1) :
    BaselineProfile.supports .linuxUnixCreate requirement =
      ProfileKindV2.supports .linuxUnixCreateV1 requirement := by
  cases requirement <;> rfl

/-- **The V1 decision on the projection and the V2 decision on the registry agree.** The projection
of a valid registry succeeds. A V1 request is granted from it exactly when the V2 request that asks
for the same and preserves the caller is granted from the registry, under the same identifier. A
grant of the private profile or of an administrator identity authorizes no V1 request. -/
theorem projection_agrees (registry : RuntimePrivatePolicyRegistry)
    (h : registry.validate = .ok ()) :
    ∃ projection, registry.baselineV1Projection = .ok projection ∧
      (∀ request request', request.validate = .ok () → request'.validate = .ok () →
        SameAsk request request' →
        request'.executionIdentity = .preserveCaller →
          ∀ currentEpoch caller, caller.isLinux = true → ∀ id,
          (∃ grant, resolve projection currentEpoch request caller .linuxUnixCreate = .ok grant ∧
          grant.id = id) ↔
          ∃ grant, resolveV2 registry currentEpoch request' caller .linuxUnixCreateV1 = .ok grant ∧
      grant.id = id) ∧
      ∀ grant ∈ registry.grants.items, grant.profile = ProfileKindV2.reference .linuxTcp4PrivateV1 ∨
          (∃ reference, grant.executionIdentity = .administratorProfile reference) →
        ∀ request currentEpoch caller nativeProfile granted,
          resolve projection currentEpoch request caller nativeProfile = .ok granted →
          granted.id ≠ grant.id := by
  have hvalid := RuntimePrivatePolicyRegistry.validate_eq_ok.1 h
  refine ⟨registry.baseline, baselineV1Projection_eq_ok h, ?_, ?_⟩
  · intro request request' _ hrequest' hask hidentity currentEpoch caller _ id
    simp only [(resolve_exact (baseline_valid hvalid)).ok_iff,
      (resolveV2_exact hvalid hrequest').ok_iff,
      authorizes_baseline_iff hvalid hask hidentity, hask.requirements, supports_baseline]
    constructor
    · rintro ⟨baseline, ⟨⟨grant, hgrant, rfl⟩, hsupported⟩, hid⟩
      exact ⟨grant, ⟨hgrant, hsupported⟩, hid⟩
    · rintro ⟨grant, ⟨hgrant, hsupported⟩, hid⟩
      exact ⟨grant.toPolicyGrantV1, ⟨⟨grant, hgrant, rfl⟩, hsupported⟩, hid⟩
  · intro grant hgrant hkind request currentEpoch caller nativeProfile granted hgranted hid
    obtain ⟨hauthorizes, -⟩ := ((resolve_exact (baseline_valid hvalid)).ok_iff granted).1 hgranted
    obtain ⟨grant', hgrant', hprofile, hpreserve, rfl⟩ := mem_baseline_grants.1 hauthorizes.listed
    have hsame : grant' = grant := List.inj_on_of_nodup_map hvalid.grantIds hgrant' hgrant hid
    subst hsame
    rcases hkind with hprivate | ⟨reference, hadministrator⟩
    · exact reference_ne (hprivate.symm.trans hprofile)
    · rw [hpreserve] at hadministrator
      cases hadministrator

end Projection

/-- A registry with a projection that grants. -/
theorem projection_agrees_sample :
    @RuntimePrivatePolicyRegistry.validate zeroHash sampleRegistry = .ok () ∧
      ∃ projection, @RuntimePrivatePolicyRegistry.baselineV1Projection zeroHash sampleRegistry =
        .ok projection ∧
        ∃ grant, resolve projection sampleRequest.expectedEpoch sampleRequest.toV1 (.linux 1000)
          .linuxUnixCreate = .ok grant ∧ grant.id = sampleGrant.id := by
  obtain ⟨projection, hprojection, hagrees, -⟩ :=
    @projection_agrees zeroHash sampleRegistry sampleRegistry_validate
  refine ⟨sampleRegistry_validate, projection, hprojection, ?_⟩
  refine (hagrees sampleRequest.toV1 sampleRequest (by decide +kernel) sampleRequest_validate
    ⟨rfl, rfl, rfl, rfl, rfl, rfl⟩ rfl _ _ rfl _).2 ⟨sampleGrant, ?_, rfl⟩
  decide +kernel

end MemCordon.Workload
