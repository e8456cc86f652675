import MemCordon.Workload.RegistryLaws

/-!
# Admission

The decision whether a registry authorizes a request, as in `resolve` of `workload_registry.rs` and
`resolve_v2` of `workload_registry_v2.rs`.

* `Authorizes` and `AuthorizesV2` state the conditions on a grant, as facts about the registry, the
  request, the caller and the native profile that mention no order.
* `ExactAdmission`: the decision is a grant exactly when the conditions hold of it and the native
  profile supports every requirement. When only requirements fail, the rejection reports the first
  sixteen of them, in the order of their identifiers, and counts the rest.
* `admission_exact`: both decisions are exact, and do not depend on the order of set-like lists.
-/

namespace MemCordon.Workload

open Fallible Keyed

/-! ## Rejections -/

inductive AdmissionCode
  | profileNotAuthorized
  | profileDigestMismatch
  | policyEpochStale
  | policyIncompatible
  | featureNotEnforceable
  | callerEnvelopeIncompatible
  | descriptorAuthorityIncompatible
  | hostPrerequisiteUnavailable
  | enforcementInstallFailed
  | enforcementReadbackFailed
  | policyDrift
  deriving DecidableEq

inductive AdmissionCodeV2
  | profileNotAuthorized
  | planNotApproved
  | profileDigestMismatch
  | policyEpochStale
  | policyIncompatible
  | featureNotEnforceable
  | callerEnvelopeIncompatible
  | descriptorAuthorityIncompatible
  | hostPrerequisiteUnavailable
  | enforcementInstallFailed
  | enforcementReadbackFailed
  | policyDrift
  | executionIdentityNotAuthorized
  | executionIdentityUnavailable
  | entrypointAuthorityMismatch
  deriving DecidableEq

/-- `AdmissionConflictV1` and `AdmissionConflictV2`, over the codes of a version. -/
structure AdmissionConflict (κ : Type) where
  requirement : Option LogicalId
  code : κ
  deriving DecidableEq

/-- `AdmissionRejectionV1` and `AdmissionRejectionV2`, over the codes of a version. -/
structure AdmissionRejection (κ : Type) where
  code : κ
  conflicts : BoundedVec (AdmissionConflict κ) Limits.conflicts
  remainingConflicts : UInt32
  deriving DecidableEq

/-- `AdmissionRejectionV1::single` and `AdmissionRejectionV2::single` -/
def AdmissionRejection.single {κ : Type} (code : κ) : AdmissionRejection κ where
  code
  conflicts := .empty
  remainingConflicts := 0

section Conflicts

variable {κ : Type}

/-- The turn of the loop over requirements: a conflict is kept, or counted when there is no room. -/
def noteConflict (verdict : RequirementV1 → Option κ)
    (found : BoundedVec (AdmissionConflict κ) Limits.conflicts × UInt32)
    (requirement : RequirementV1) :
    BoundedVec (AdmissionConflict κ) Limits.conflicts × UInt32 :=
  match verdict requirement with
  | none => found
  | some code =>
    match found.1.tryPush { requirement := some requirement.id, code } with
    | some conflicts => (conflicts, found.2)
    | none => (found.1, found.2 + 1)

/-- The loop over requirements in the order of their identifiers, and the rejection on the first
conflict. -/
def rejectConflicts (verdict : RequirementV1 → Option κ) (requirements : List RequirementV1) :
    Except (AdmissionRejection κ) Unit :=
  let (conflicts, remainingConflicts) :=
    (sortRequirements requirements).foldl (noteConflict verdict) (.empty, 0)
  match conflicts.items.head? with
  | some first => .error { code := first.code, conflicts, remainingConflicts }
  | none => .ok ()

end Conflicts

/-! ## The V1 decision -/

def BaselineProfile.verdict (nativeProfile : BaselineProfile) : RequirementV1 → Option AdmissionCode
  | .unixSocketCreation .. | .unixSocketPair .. =>
    if nativeProfile = .linuxUnixCreate then none else some .featureNotEnforceable
  | .tcp _ _ _ scope _ _ =>
    if scope = .hostSharedLoopback ∧ nativeProfile = .windowsHostNetworkExternal then none
    else some .policyIncompatible
  | .denialExercise _ operation =>
    if operation = .inetSocketCreation ∧ nativeProfile = .linuxUnixCreate then none
    else some .featureNotEnforceable
  | .suppliedTcpListener .. => some .featureNotEnforceable

/-- The grant that the request names, for the caller and the plan. -/
def authorizingGrant (grants : List PolicyGrantV1) (request : WorkloadContractV1)
    (caller : CallerSelector) :
    Option PolicyGrantV1 :=
  grants.find? fun grant =>
    grant.id = request.authorization.grantId && grant.revision =
      request.authorization.grantRevision && grant.enabled && grant.callers.items.contains caller &&
      grant.approvedPlans.items.contains request.workloadPlanDigest &&
      request.authorization.approvedPlanDigest = request.workloadPlanDigest

def enabledProfile {κ : Type} (profiles : List (ProfileDefinition κ)) (reference : ProfileRef) :
    Option (ProfileDefinition κ) :=
  profiles.find? fun profile => profile.reference = reference && profile.enabled

/-- What `resolve` checks of a grant. -/
def checkAdmission (registry : RuntimePolicyRegistry) (currentEpoch : PolicyEpoch)
    (request : WorkloadContractV1) (nativeProfile : BaselineProfile) (grant : PolicyGrantV1) :
    Except (AdmissionRejection AdmissionCode) Unit := do
  reject (.single .policyEpochStale) (currentEpoch ≠ request.expectedEpoch)
  reject (.single .profileDigestMismatch) (grant.profile ≠ request.authorizedProfile)
  let profile ← okOr (.single .profileNotAuthorized) (enabledProfile registry.profiles.items
    grant.profile)
  reject (.single .hostPrerequisiteUnavailable) (profile.profile ≠ nativeProfile)
  reject (.single .policyIncompatible) (ceilingContains grant.ceiling request.ceiling = false ∨
    ceilingContains request.ceiling profile.profile.ceiling = false)

def resolve (registry : RuntimePolicyRegistry) (currentEpoch : PolicyEpoch)
    (request : WorkloadContractV1) (caller : CallerSelector) (nativeProfile : BaselineProfile) :
    Except (AdmissionRejection AdmissionCode) PolicyGrantV1 := do
  let grant ← okOr (.single .profileNotAuthorized) (authorizingGrant registry.grants.items
    request caller)
  checkAdmission registry currentEpoch request nativeProfile grant
  rejectConflicts nativeProfile.verdict request.requirements.items
  .ok grant

/-! ## The V2 decision -/

def ProfileKindV2.verdict : ProfileKindV2 → RequirementV1 → Option AdmissionCodeV2
  | .linuxUnixCreateV1, .unixSocketCreation .. => none
  | .linuxUnixCreateV1, .unixSocketPair .. => none
  | .linuxUnixCreateV1, .denialExercise _ .inetSocketCreation => none
  | .linuxTcp4PrivateV1, .tcp _ .v4 _ .attemptPrivateStack _ peer =>
    match peer with
    | .exactAddress (.v4 address _) =>
      if isLoopbackV4 address then none else some .policyIncompatible
    | _ => none
  | .linuxTcp4PrivateV1, .denialExercise _ .namedUnixSocketCreation => none
  | _, .tcp .. => some .policyIncompatible
  | .linuxTcp4PrivateV1, .denialExercise _ .inetSocketCreation => some .policyIncompatible
  | _, _ => some .featureNotEnforceable

def authorizingGrantV2 (grants : List PolicyGrantV2) (request : WorkloadContractV2)
    (caller : CallerSelector) :
    Option PolicyGrantV2 :=
  grants.find? fun grant =>
    grant.id = request.authorization.grantId && grant.revision =
      request.authorization.grantRevision && grant.enabled && grant.callers.items.contains caller

def checkIdentity (identities : List LinuxExecutionIdentityV2)
    (request : ExecutionIdentityRequestV2) :
    Except (AdmissionRejection AdmissionCodeV2) Unit :=
  match request with
  | .preserveCaller => .ok ()
  | .administratorProfile reference => reject (.single .executionIdentityUnavailable)
      (identities.any (fun identity => identity.enabled && identity.reference = reference) = false)

/-- What `resolve_v2` checks of a grant. -/
def checkAdmissionV2 (registry : RuntimePrivatePolicyRegistry) (currentEpoch : PolicyEpoch)
    (request : WorkloadContractV2) (nativeProfile : ProfileKindV2) (grant : PolicyGrantV2) :
    Except (AdmissionRejection AdmissionCodeV2) Unit := do
  reject (.single .planNotApproved) (grant.approvedPlans.items.contains request.workloadPlanDigest =
    false ∨ request.authorization.approvedPlanDigest ≠ request.workloadPlanDigest)
  reject (.single .policyEpochStale) (currentEpoch ≠ request.expectedEpoch)
  reject (.single .profileDigestMismatch) (grant.profile ≠ request.authorizedProfile)
  let profile ← okOr (.single .profileNotAuthorized) (enabledProfile registry.profiles.items
    grant.profile)
  reject (.single .hostPrerequisiteUnavailable) (profile.profile ≠ nativeProfile)
  reject (.single .executionIdentityNotAuthorized) (grant.executionIdentity ≠
    request.executionIdentity)
  checkIdentity registry.executionIdentities.items request.executionIdentity
  reject (.single .policyIncompatible) (ceilingContains grant.ceiling request.ceiling = false ∨
    ceilingContains request.ceiling profile.profile.ceiling = false)

def resolveV2 [Sha256] (registry : RuntimePrivatePolicyRegistry) (currentEpoch : PolicyEpoch)
    (request : WorkloadContractV2) (authenticatedCaller : CallerSelector)
    (nativeProfile : ProfileKindV2) :
    Except (AdmissionRejection AdmissionCodeV2) PolicyGrantV2 := do
  reject (.single .policyIncompatible) (registry.validate.isOk = false ∨
    request.validate.isOk = false)
  reject (.single .profileNotAuthorized) (authenticatedCaller.isLinux = false)
  let grant ← okOr (.single .profileNotAuthorized)
    (authorizingGrantV2 registry.grants.items request authenticatedCaller)
  checkAdmissionV2 registry currentEpoch request nativeProfile grant
  rejectConflicts nativeProfile.verdict request.requirements.items
  .ok grant

/-! ## What a rejection reports -/

section Reports

variable {κ : Type} {verdict : RequirementV1 → Option κ} {supports : RequirementV1 → Bool}
  {requirements requirements' : List RequirementV1}

/-- The requirements that are not supported, in the order of their identifiers. -/
def failing (supports : RequirementV1 → Bool) (requirements : List RequirementV1) :
    List RequirementV1 :=
  (sortRequirements requirements).filter fun requirement => !supports requirement

/-- The rejection names the first requirements that fail, each with its code, counts all of them,
and has the code of the first. -/
structure AdmissionRejection.Reports (supports : RequirementV1 → Bool)
    (verdict : RequirementV1 → Option κ)
    (requirements : List RequirementV1) (rejection : AdmissionRejection κ) : Prop where
  conflicts : List.Forall₂ (fun conflict requirement => conflict.requirement = some requirement.id ∧
      verdict requirement = some conflict.code)
    rejection.conflicts.items ((failing supports requirements).take Limits.conflicts)
  remaining : rejection.conflicts.items.length + rejection.remainingConflicts.toNat =
    (failing supports requirements).length
  code : ∃ first, rejection.conflicts.items.head? = some first ∧ first.code = rejection.code

def conflictOf (verdict : RequirementV1 → Option κ) (requirement : RequirementV1) :
    Option (AdmissionConflict κ) :=
  (verdict requirement).map fun code => { requirement := some requirement.id, code }

/-- The state of the loop after the conflicts it has met. -/
def tally (met : List (AdmissionConflict κ)) :
    BoundedVec (AdmissionConflict κ) Limits.conflicts × UInt32 :=
  (⟨met.take Limits.conflicts, List.length_take_le _ _⟩,
    UInt32.ofNat (met.length - Limits.conflicts))

/-- A conflict for which there is room is kept. -/
theorem tryPush_tally {met : List (AdmissionConflict κ)} (conflict : AdmissionConflict κ)
    (hroom : met.length < Limits.conflicts) :
    (tally met).1.tryPush conflict = some (tally (met ++ [conflict])).1 ∧
      (tally met).2 = (tally (met ++ [conflict])).2 := by
  have hlong : (met ++ [conflict]).length ≤ Limits.conflicts := by
    rw [List.length_append, List.length_singleton]
    omega
  have htake : met.take Limits.conflicts = met := List.take_of_length_le hroom.le
  have hbefore : met.length - Limits.conflicts = 0 := by omega
  have hafter : (met ++ [conflict]).length - Limits.conflicts = 0 := by omega
  constructor
  · apply BoundedVec.tryPush_eq_some.2
    show (met.take Limits.conflicts).length < _ ∧
      List.take _ (met ++ _) = met.take Limits.conflicts ++ _
    rw [htake, List.take_of_length_le hlong]
    exact ⟨hroom, rfl⟩
  · unfold tally
    rw [hbefore, hafter]

/-- A conflict for which there is none is counted. -/
theorem tryPush_tally_full {met : List (AdmissionConflict κ)} (conflict : AdmissionConflict κ)
    (hfull : Limits.conflicts ≤ met.length) :
    (tally met).1.tryPush conflict = none ∧ (tally met).1 = (tally (met ++ [conflict])).1 ∧
      (tally met).2 + 1 = (tally (met ++ [conflict])).2 := by
  have hlength : (tally met).1.items.length = Limits.conflicts := by
    show (met.take Limits.conflicts).length = _
    rw [List.length_take]
    omega
  refine ⟨dif_pos hlength, ?_, ?_⟩
  · apply BoundedVec.ext
    show met.take Limits.conflicts = (met ++ _).take Limits.conflicts
    rw [List.take_append_of_le_length hfull]
  · unfold tally
    rw [List.length_append, List.length_singleton, Nat.sub_add_comm hfull]
    exact (UInt32.ofNat_add _ _).symm

theorem noteConflict_tally (met : List (AdmissionConflict κ)) (requirement : RequirementV1) :
    noteConflict verdict (tally met) requirement =
      tally (met ++ (conflictOf verdict requirement).toList) := by
  unfold noteConflict conflictOf
  cases verdict requirement with
  | none => simp
  | some code =>
    simp only [Option.map_some, Option.toList_some]
    rcases Nat.lt_or_ge met.length Limits.conflicts with hroom | hfull
    · obtain ⟨hsome, hcount⟩ := tryPush_tally { requirement := some requirement.id, code } hroom
      rw [hsome]
      exact Prod.ext rfl hcount
    · obtain ⟨hnone, hitems, hcount⟩ :=
        tryPush_tally_full { requirement := some requirement.id, code } hfull
      rw [hnone]
      exact Prod.ext hitems hcount

/-- The loop keeps the conflicts in order. -/
theorem foldl_noteConflict (met : List (AdmissionConflict κ)) (requirements : List RequirementV1) :
    requirements.foldl (noteConflict verdict) (tally met) =
      tally (met ++ requirements.filterMap (conflictOf verdict)) := by
  induction requirements generalizing met with
  | nil => simp
  | cons requirement requirements ih =>
    rw [List.foldl_cons, noteConflict_tally, ih, List.append_assoc]
    cases h : conflictOf verdict requirement <;> simp [h]

def conflictsOf (verdict : RequirementV1 → Option κ) (requirements : List RequirementV1) :
    List (AdmissionConflict κ) :=
  (sortRequirements requirements).filterMap (conflictOf verdict)

theorem rejectConflicts_eq : rejectConflicts verdict requirements =
      match (conflictsOf verdict requirements).head? with
      | some first => .error {
          code := first.code
          conflicts := (tally (conflictsOf verdict requirements)).1
          remainingConflicts := (tally (conflictsOf verdict requirements)).2 }
      | none => .ok () := by
  have hloop : (sortRequirements requirements).foldl (noteConflict verdict) (.empty, 0) =
      tally (conflictsOf verdict requirements) := foldl_noteConflict [] _
  have hhead : (tally (conflictsOf verdict requirements)).1.items.head? =
      (conflictsOf verdict requirements).head? := by
    show ((conflictsOf verdict requirements).take Limits.conflicts).head? = _
    cases conflictsOf verdict requirements <;> rfl
  unfold rejectConflicts
  rw [hloop]
  simp only [hhead]

variable (hverdict : ∀ requirement, verdict requirement = none ↔ supports requirement = true)
include hverdict

/-- The requirements that fail are those with a conflict. -/
theorem forall₂_conflictsOf :
    List.Forall₂ (fun conflict requirement => conflict.requirement = some requirement.id ∧
        verdict requirement = some conflict.code)
      (conflictsOf verdict requirements) (failing supports requirements) := by
  unfold conflictsOf failing
  generalize sortRequirements requirements = sorted
  induction sorted with
  | nil => exact .nil
  | cons requirement sorted ih =>
    cases hcode : verdict requirement with
    | none =>
      have hsupports := (hverdict requirement).1 hcode
      simpa [conflictOf, hcode, hsupports] using ih
    | some code =>
      have hsupports : supports requirement = false := by
        rw [← Bool.not_eq_true, ← hverdict, hcode]
        exact Option.some_ne_none code
      simp only [conflictOf, List.filterMap_cons, hcode, Option.map_some, List.filter_cons,
        hsupports, Bool.not_false, if_true]
      exact .cons ⟨rfl, hcode⟩ ih

/-- No conflict is found when every requirement is supported. -/
theorem rejectConflicts_eq_ok : rejectConflicts verdict requirements = .ok () ↔
      ∀ requirement ∈ requirements, supports requirement = true := by
  have hlength :
      (conflictsOf verdict requirements).length = (failing supports requirements).length :=
    (forall₂_conflictsOf hverdict).length_eq
  have hnil : conflictsOf verdict requirements = [] ↔ ∀ r ∈ requirements, supports r = true := by
    rw [← List.length_eq_zero_iff, hlength, List.length_eq_zero_iff, failing,
      List.filter_eq_nil_iff]
    simp only [sortRequirements, mem_sortByKey, Bool.not_eq_true', Bool.not_eq_false]
  rw [rejectConflicts_eq, ← hnil]
  cases conflictsOf verdict requirements <;> simp

/-- **A rejection for conflicts reports them.** -/
theorem rejectConflicts_eq_error (hbounded : requirements.length ≤ Limits.requirements)
    (hfails : ∃ requirement ∈ requirements, supports requirement = false) :
    ∃ rejection, rejectConflicts verdict requirements = .error rejection ∧
      rejection.Reports supports verdict requirements := by
  have hconflicts :
      List.Forall₂ _ (conflictsOf verdict requirements) (failing supports requirements) :=
    forall₂_conflictsOf hverdict
  have hlength := hconflicts.length_eq
  have hcount : (failing supports requirements).length ≤ 64 := by
    refine (List.length_filter_le _ _).trans ?_
    rw [sortRequirements, length_sortByKey]
    exact hbounded
  rw [rejectConflicts_eq]
  cases hhead : conflictsOf verdict requirements with
  | nil =>
    obtain ⟨requirement, hmem, hfalse⟩ := hfails
    have hok : rejectConflicts verdict requirements = .ok () := by
      rw [rejectConflicts_eq, hhead]; rfl
    have htrue := (rejectConflicts_eq_ok hverdict).1 hok requirement hmem
    rw [hfalse] at htrue
    cases htrue
  | cons first rest =>
    rw [hhead] at hconflicts hlength
    refine ⟨_, rfl, ?_, ?_, first, rfl, rfl⟩
    · exact List.forall₂_take Limits.conflicts hconflicts
    · have hsmall : (first :: rest).length - Limits.conflicts < UInt32.size := by
        have hsize : 64 < UInt32.size := by decide
        omega
      have hvalue : (UInt32.ofNat ((first :: rest).length - Limits.conflicts)).toNat =
          (first :: rest).length - Limits.conflicts := UInt32.toNat_ofNat_of_lt hsmall
      show ((first :: rest).take Limits.conflicts).length + (UInt32.ofNat _).toNat = _
      rw [hvalue, List.length_take, hlength]
      omega

end Reports

/-! ## The conditions of a decision -/

def BaselineProfile.supports : BaselineProfile → RequirementV1 → Bool
  | .linuxUnixCreate, .unixSocketCreation .. => true
  | .linuxUnixCreate, .unixSocketPair .. => true
  | .linuxUnixCreate, .denialExercise _ operation => operation = .inetSocketCreation
  | .windowsHostNetworkExternal, .tcp _ _ _ scope _ _ => scope = .hostSharedLoopback
  | _, _ => false

/-- The requirements that a V2 profile supports: the private one supports TCP over IPv4 inside the
attempt, to no address but loopback. -/
def ProfileKindV2.supports : ProfileKindV2 → RequirementV1 → Bool
  | .linuxUnixCreateV1, .unixSocketCreation .. => true
  | .linuxUnixCreateV1, .unixSocketPair .. => true
  | .linuxUnixCreateV1, .denialExercise _ operation => operation = .inetSocketCreation
  | .linuxTcp4PrivateV1, .tcp _ family _ scope _ peer =>
    family = .v4 && scope = .attemptPrivateStack && match peer with
      | .exactAddress (.v4 address _) => isLoopbackV4 address
      | _ => true
  | .linuxTcp4PrivateV1, .denialExercise _ operation => operation = .namedUnixSocketCreation
  | _, _ => false

theorem BaselineProfile.verdict_eq_none {nativeProfile : BaselineProfile}
    (requirement : RequirementV1) :
    nativeProfile.verdict requirement = none ↔ nativeProfile.supports requirement = true := by
  cases nativeProfile <;> cases requirement <;>
    simp [BaselineProfile.verdict, BaselineProfile.supports]

theorem ProfileKindV2.verdict_eq_none {nativeProfile : ProfileKindV2}
    (requirement : RequirementV1) :
    nativeProfile.verdict requirement = none ↔ nativeProfile.supports requirement = true := by
  cases nativeProfile with
  | linuxUnixCreateV1 =>
    cases requirement with
    | denialExercise id operation =>
      cases operation <;> simp [ProfileKindV2.verdict, ProfileKindV2.supports]
    | _ => simp [ProfileKindV2.verdict, ProfileKindV2.supports]
  | linuxTcp4PrivateV1 =>
    cases requirement with
    | denialExercise id operation =>
      cases operation <;> simp [ProfileKindV2.verdict, ProfileKindV2.supports]
    | tcp id family operations scope localPorts peer =>
      cases family <;> cases scope <;> rcases peer with _ | (_ | _) <;>
        simp [ProfileKindV2.verdict, ProfileKindV2.supports]
    | _ => simp [ProfileKindV2.verdict, ProfileKindV2.supports]

/-- A grant of a V1 registry that authorizes the request, requirements apart. -/
@[mk_iff authorizes_fields]
structure Authorizes (registry : RuntimePolicyRegistry) (currentEpoch : PolicyEpoch)
    (request : WorkloadContractV1) (caller : CallerSelector) (nativeProfile : BaselineProfile)
    (grant : PolicyGrantV1) : Prop where
  listed : grant ∈ registry.grants.items
  id : grant.id = request.authorization.grantId
  revision : grant.revision = request.authorization.grantRevision
  enabled : grant.enabled = true
  caller : caller ∈ grant.callers.items
  plan : request.workloadPlanDigest ∈ grant.approvedPlans.items
  approvedPlan : request.authorization.approvedPlanDigest = request.workloadPlanDigest
  epoch : currentEpoch = request.expectedEpoch
  profile : grant.profile = request.authorizedProfile
  native : ∃ profile ∈ registry.profiles.items, profile.reference = grant.profile ∧
    profile.enabled = true ∧ profile.profile = nativeProfile
  requestCeiling : ceilingContains grant.ceiling request.ceiling = true
  profileCeiling : ceilingContains request.ceiling nativeProfile.ceiling = true

/-- A grant of a V2 registry that authorizes the request, requirements apart. -/
@[mk_iff authorizesV2_fields]
structure AuthorizesV2 (registry : RuntimePrivatePolicyRegistry) (currentEpoch : PolicyEpoch)
    (request : WorkloadContractV2) (caller : CallerSelector) (nativeProfile : ProfileKindV2)
    (grant : PolicyGrantV2) : Prop where
  listed : grant ∈ registry.grants.items
  id : grant.id = request.authorization.grantId
  revision : grant.revision = request.authorization.grantRevision
  enabled : grant.enabled = true
  caller : caller ∈ grant.callers.items
  plan : request.workloadPlanDigest ∈ grant.approvedPlans.items
  approvedPlan : request.authorization.approvedPlanDigest = request.workloadPlanDigest
  epoch : currentEpoch = request.expectedEpoch
  profile : grant.profile = request.authorizedProfile
  native : ∃ profile ∈ registry.profiles.items, profile.reference = grant.profile ∧
    profile.enabled = true ∧ profile.profile = nativeProfile
  identity : grant.executionIdentity = request.executionIdentity
  identityEnabled : ∀ reference, request.executionIdentity = .administratorProfile reference →
    ∃ identity ∈ registry.executionIdentities.items, identity.enabled = true ∧
      identity.reference = reference
  requestCeiling : ceilingContains grant.ceiling request.ceiling = true
  profileCeiling : ceilingContains request.ceiling nativeProfile.ceiling = true

/-- The decision is the grant that authorizes, when every requirement is supported, and reports the
requirements that fail, when only they do. -/
structure ExactAdmission {γ κ : Type} (authorizes : γ → Prop) (supports : RequirementV1 → Bool)
    (verdict : RequirementV1 → Option κ) (requirements : List RequirementV1)
    (result : Except (AdmissionRejection κ) γ) : Prop where
  ok_iff : ∀ grant, result = .ok grant ↔ authorizes grant ∧
    ∀ requirement ∈ requirements, supports requirement = true
  conflicts : (∃ grant, authorizes grant) →
    (∃ requirement ∈ requirements, supports requirement = false) →
    ∃ rejection, result = .error rejection ∧ rejection.Reports supports verdict requirements

/-- A decision that finds a grant, checks it and looks for conflicts is exact. -/
theorem exactAdmission_of {γ κ : Type} {authorizes : γ → Prop} {supports : RequirementV1 → Bool}
    {verdict : RequirementV1 → Option κ} {requirements : List RequirementV1}
    {e : AdmissionRejection κ} {found : Option γ} {check : γ → Except (AdmissionRejection κ) Unit}
    (hauthorizes : ∀ grant, authorizes grant ↔ found = some grant ∧ check grant = .ok ())
    (hverdict : ∀ requirement, verdict requirement = none ↔ supports requirement = true)
    (hbounded : requirements.length ≤ Limits.requirements) :
    ExactAdmission authorizes supports verdict requirements (do
      let grant ← okOr e found
      check grant
      rejectConflicts verdict requirements
      .ok grant) where
  ok_iff := by
    intro grant
    rw [hauthorizes, bind_eq_ok]
    constructor
    · rintro ⟨grant', hfound, hrest⟩
      obtain ⟨hchecked, hrest⟩ := unit_bind_eq_ok.1 hrest
      obtain ⟨hconflicts, hgrant⟩ := unit_bind_eq_ok.1 hrest
      cases hgrant
      exact ⟨⟨okOr_eq_ok.1 hfound, hchecked⟩, (rejectConflicts_eq_ok hverdict).1 hconflicts⟩
    · rintro ⟨⟨hfound, hchecked⟩, hsupported⟩
      refine ⟨grant, okOr_eq_ok.2 hfound, unit_bind_eq_ok.2 ⟨hchecked, unit_bind_eq_ok.2 ⟨?_, rfl⟩⟩⟩
      exact (rejectConflicts_eq_ok hverdict).2 hsupported
  conflicts := by
    rintro ⟨grant, hgrant⟩ hfails
    obtain ⟨hfound, hchecked⟩ := (hauthorizes grant).1 hgrant
    obtain ⟨rejection, herror, hreports⟩ := rejectConflicts_eq_error hverdict hbounded hfails
    refine ⟨rejection, ?_, hreports⟩
    rw [hfound, okOr]
    show (check grant >>= _) = _
    rw [hchecked]
    show (rejectConflicts _ _ >>= _) = _
    rw [herror]
    rfl

section Decision

variable [Sha256]

variable {registry : RuntimePolicyRegistry} {currentEpoch : PolicyEpoch}
  {request : WorkloadContractV1}
  {caller : CallerSelector} {nativeProfile : BaselineProfile} {grant : PolicyGrantV1}

omit [Sha256] in
theorem enabledProfile_eq_some {κ : Type} {reference : κ → ProfileRef}
    {profiles : List (ProfileDefinition κ)}
    (h : ProfilesValid reference profiles) {ref : ProfileRef} {profile : ProfileDefinition κ} :
    enabledProfile profiles ref = some profile ↔
      profile ∈ profiles ∧ profile.reference = ref ∧ profile.enabled = true := by
  have hone :
      AtMostOne (fun profile : ProfileDefinition κ => profile.reference = ref && profile.enabled)
      profiles := by
    refine atMostOne_of_key h.ids (k := ref.id) fun profile hp => ?_
    rw [Bool.and_eq_true, decide_eq_true_eq] at hp
    rw [hp.1]
  unfold enabledProfile
  rw [find?_eq_some_iff hone, Bool.and_eq_true, decide_eq_true_eq]

/-- The grant that is found and passes its checks is the one that authorizes. -/
theorem authorizes_iff (h : registry.Valid) :
    Authorizes registry currentEpoch request caller nativeProfile grant ↔
      authorizingGrant registry.grants.items request caller = some grant ∧
        checkAdmission registry currentEpoch request nativeProfile grant = .ok () := by
  unfold authorizingGrant checkAdmission
  rw [find?_eq_some_iff]
  · simp only [Bool.and_eq_true, decide_eq_true_eq, List.contains_iff_mem, reject_bind_eq_ok,
      okOr_bind_eq_ok,
      reject_eq_ok, enabledProfile_eq_some h.profiles, authorizes_fields, not_not, not_or,
      Bool.not_eq_false, and_assoc]
    grind
  · refine atMostOne_of_key h.grantIds (k := request.authorization.grantId) fun grant hp => ?_
    simp only [Bool.and_eq_true, decide_eq_true_eq] at hp
    exact hp.1.1.1.1.1

theorem resolve_exact (h : registry.Valid) :
    ExactAdmission (Authorizes registry currentEpoch request caller nativeProfile)
      nativeProfile.supports nativeProfile.verdict request.requirements.items
      (resolve registry currentEpoch request caller nativeProfile) :=
  exactAdmission_of (fun _ => authorizes_iff h) BaselineProfile.verdict_eq_none
    request.requirements.bounded

end Decision

section DecisionV2

variable [Sha256]

variable {registry : RuntimePrivatePolicyRegistry} {currentEpoch : PolicyEpoch}
  {request : WorkloadContractV2}
  {caller : CallerSelector} {nativeProfile : ProfileKindV2} {grant : PolicyGrantV2}

omit [Sha256] in
theorem checkIdentity_eq_ok {identities : List LinuxExecutionIdentityV2}
    {identity : ExecutionIdentityRequestV2} :
    checkIdentity identities identity = .ok () ↔
        ∀ reference, identity = .administratorProfile reference →
        ∃ identity ∈ identities, identity.enabled = true ∧ identity.reference = reference := by
  cases identity with
  | preserveCaller => simp [checkIdentity]
  | administratorProfile reference =>
    simp only [checkIdentity, reject_eq_ok, Bool.not_eq_false, List.any_eq_true, Bool.and_eq_true,
      decide_eq_true_eq, ExecutionIdentityRequestV2.administratorProfile.injEq, forall_eq']

/-- The grant that is found and passes its checks is the one that authorizes. -/
theorem authorizesV2_iff (h : registry.Valid) :
    AuthorizesV2 registry currentEpoch request caller nativeProfile grant ↔
      authorizingGrantV2 registry.grants.items request caller = some grant ∧
        checkAdmissionV2 registry currentEpoch request nativeProfile grant = .ok () := by
  unfold authorizingGrantV2 checkAdmissionV2
  rw [find?_eq_some_iff]
  · simp only [Bool.and_eq_true, decide_eq_true_eq, List.contains_iff_mem, okOr_bind_eq_ok,
      unit_bind_eq_ok,
      reject_eq_ok, enabledProfile_eq_some h.profiles, checkIdentity_eq_ok, authorizesV2_fields,
      not_not, not_or, Bool.not_eq_false, and_assoc]
    grind
  · refine atMostOne_of_key h.grantIds (k := request.authorization.grantId) fun grant hp => ?_
    simp only [Bool.and_eq_true, decide_eq_true_eq] at hp
    exact hp.1.1.1

/-- On a valid registry and request, the decision for a Linux caller is to find a grant, check it
and look for conflicts; for another caller it is a rejection. -/
theorem resolveV2_eq (hregistry : registry.validate = .ok ())
    (hrequest : request.validate = .ok ()) :
    resolveV2 registry currentEpoch request caller nativeProfile =
      if caller.isLinux = true then do
        let grant ← okOr (.single .profileNotAuthorized)
          (authorizingGrantV2 registry.grants.items request caller)
        checkAdmissionV2 registry currentEpoch request nativeProfile grant
        rejectConflicts nativeProfile.verdict request.requirements.items
        .ok grant
      else .error (.single .profileNotAuthorized) := by
  unfold resolveV2
  rw [hregistry, hrequest]
  cases caller <;> rfl

theorem resolveV2_exact (h : registry.Valid) (hrequest : request.validate = .ok ()) :
    ExactAdmission (AuthorizesV2 registry currentEpoch request caller nativeProfile)
      nativeProfile.supports nativeProfile.verdict request.requirements.items
      (resolveV2 registry currentEpoch request caller nativeProfile) := by
  rw [resolveV2_eq (RuntimePrivatePolicyRegistry.validate_eq_ok.2 h) hrequest]
  by_cases hlinux : caller.isLinux = true
  · rw [if_pos hlinux]
    exact exactAdmission_of (fun _ => authorizesV2_iff h) ProfileKindV2.verdict_eq_none
      request.requirements.bounded
  · -- The callers of a V2 grant are Linux users, so that none authorizes another caller.
    have hnone (grant : PolicyGrantV2) :
        ¬AuthorizesV2 registry currentEpoch request caller nativeProfile grant := fun hgrant =>
      hlinux ((h.grant grant hgrant.listed).caller caller hgrant.caller)
    rw [if_neg hlinux]
    exact ⟨fun grant => ⟨fun hok => (nomatch hok), fun hgrant => absurd hgrant.1 (hnone grant)⟩,
      fun ⟨grant, hgrant⟩ _ => absurd hgrant (hnone grant)⟩

end DecisionV2

/-! ## The order of sets -/

section Order

variable {κ γ : Type}

theorem BaselineProfile.verdict_canonical (nativeProfile : BaselineProfile)
    (requirement : RequirementV1) :
    nativeProfile.verdict requirement.canonical = nativeProfile.verdict requirement := by
  cases requirement <;> rfl

theorem ProfileKindV2.verdict_canonical (nativeProfile : ProfileKindV2)
    (requirement : RequirementV1) :
    nativeProfile.verdict requirement.canonical = nativeProfile.verdict requirement := by
  cases requirement with
  | tcp id family operations scope localPorts peer =>
    cases nativeProfile <;> cases family <;> cases scope <;> rcases peer with _ | (_ | _) <;> rfl
  | _ => rfl

/-- The conflicts do not depend on the order of requirements or of their operations. -/
theorem rejectConflicts_reordered {verdict : RequirementV1 → Option κ} {as bs : List RequirementV1}
    (hverdict : ∀ requirement, verdict requirement.canonical = verdict requirement)
    (hids : (as.map RequirementV1.id).Nodup)
    (h : Multiset.Rel RequirementV1.Reordered (as : Multiset RequirementV1) bs) :
    rejectConflicts verdict as = rejectConflicts verdict bs := by
  have hids' : (bs.map RequirementV1.id).Nodup := by
    refine (map_perm_of_rel h fun a _ b _ hab => ?_).nodup_iff.1 hids
    rw [← RequirementV1.id_canonical a, RequirementV1.reordered_iff.1 hab,
      RequirementV1.id_canonical]
  have hkey (requirement : RequirementV1) : requirement.canonical.id.key = requirement.id.key := by
    rw [RequirementV1.id_canonical]
  have hsorted : (sortRequirements as).map RequirementV1.canonical =
      (sortRequirements bs).map RequirementV1.canonical := by
    unfold sortRequirements
    rw [← sortByKey_map hkey (nodup_keys hids), ← sortByKey_map hkey (nodup_keys hids')]
    exact (rel_requirements_iff hids).1 h
  have hconflict (requirement : RequirementV1) :
      conflictOf verdict requirement = conflictOf verdict requirement.canonical := by
    unfold conflictOf
    rw [hverdict, RequirementV1.id_canonical]
  have hconflicts (requirements : List RequirementV1) : conflictsOf verdict requirements =
      ((sortRequirements requirements).map RequirementV1.canonical).filterMap
        (conflictOf verdict) := by
    unfold conflictsOf
    rw [List.filterMap_map]
    exact List.filterMap_congr fun requirement _ => hconflict requirement
  rw [rejectConflicts_eq, rejectConflicts_eq, hconflicts as, hconflicts bs, hsorted]

/-- Decisions that find related grants, and check them alike, are the same. -/
theorem sameUpTo_of {r : γ → γ → Prop} {e : AdmissionRejection κ} {found found' : Option γ}
    {check check' : γ → Except (AdmissionRejection κ) Unit}
    {conflicts conflicts' : Except (AdmissionRejection κ) Unit} (hfound : Option.Rel r found found')
    (hchecked : ∀ a b, r a b → check a = check' b) (hconflicts : conflicts = conflicts') :
    SameUpTo r
      (do let grant ← okOr e found; check grant; conflicts; .ok grant)
      (do let grant ← okOr e found'; check' grant; conflicts'; .ok grant) := by
  cases hfound with
  | none => exact .error e
  | some hab =>
    rename_i a b
    show SameUpTo r (check a >>= fun _ => conflicts >>= fun _ => .ok a)
      (check' b >>= fun _ => conflicts' >>= fun _ => .ok b)
    rw [hchecked a b hab, hconflicts]
    cases check' b with
    | error e => exact .error e
    | ok =>
      cases conflicts' with
      | error e => exact .error e
      | ok => exact .ok hab

theorem enabledProfile_perm {reference : κ → ProfileRef}
    {profiles profiles' : List (ProfileDefinition κ)}
    (h : ProfilesValid reference profiles) (hperm : profiles.Perm profiles') (ref : ProfileRef) :
    enabledProfile profiles ref = enabledProfile profiles' ref := by
  ext profile
  rw [enabledProfile_eq_some h, enabledProfile_eq_some (h.perm hperm), hperm.mem_iff]

theorem contains_eq_of_perm {α : Type} [DecidableEq α] {as bs : List α} (h : as.Perm bs) (a : α) :
    as.contains a = bs.contains a := by
  rw [List.contains_eq_mem, List.contains_eq_mem]
  simp only [h.mem_iff]

theorem checkIdentity_reordered {as bs : List LinuxExecutionIdentityV2}
    (h : Multiset.Rel LinuxExecutionIdentityV2.Reordered
    (as : Multiset LinuxExecutionIdentityV2) bs)
    (identity : ExecutionIdentityRequestV2) :
    checkIdentity as identity = checkIdentity bs identity := by
  cases identity with
  | preserveCaller => rfl
  | administratorProfile reference =>
    have hany : (as.any fun identity => identity.enabled && identity.reference = reference) =
        bs.any fun identity => identity.enabled && identity.reference = reference :=
      any_eq_of_rel h fun a b hab => by rw [hab.enabled, hab.reference]
    simp only [checkIdentity, hany]

variable [Sha256] {currentEpoch : PolicyEpoch} {caller : CallerSelector}

theorem resolve_reordered {registry registry' : RuntimePolicyRegistry}
    {request request' : WorkloadContractV1}
    (nativeProfile : BaselineProfile) (h : registry.Valid) (hrequest : request.validate = .ok ())
    (hregistry : registry.Reordered registry') (hrequests : request.Reordered request') :
    SameUpTo PolicyGrantV1.Reordered (resolve registry currentEpoch request caller nativeProfile)
      (resolve registry' currentEpoch request' caller nativeProfile) := by
  obtain ⟨-, hformed⟩ := WorkloadContractV1.validate_eq_ok.1 hrequest
  apply sameUpTo_of
  · unfold authorizingGrant
    rw [← hrequests.authorization, ← hrequests.workloadPlanDigest]
    refine find?_rel (k := request.authorization.grantId) hregistry.grants h.grantIds
      (fun a b hab => ⟨hab.id, ?_⟩) fun a ha => ?_
    · rw [hab.id, hab.revision, hab.enabled, contains_eq_of_perm hab.callers,
        contains_eq_of_perm hab.approvedPlans]
    · simp only [Bool.and_eq_true, decide_eq_true_eq] at ha
      exact ha.1.1.1.1.1
  · intro a b hab
    unfold checkAdmission
    rw [hab.profile, hab.ceiling, hrequests.expectedEpoch, hrequests.authorizedProfile,
      hrequests.ceiling, enabledProfile_perm h.profiles hregistry.profiles]
  · exact rejectConflicts_reordered nativeProfile.verdict_canonical hformed.requirementIds
      hrequests.requirements

theorem resolveV2_reordered {registry registry' : RuntimePrivatePolicyRegistry}
    {request request' : WorkloadContractV2} (nativeProfile : ProfileKindV2) (h : registry.Valid)
    (hrequest : request.validate = .ok ()) (hregistry : registry.Reordered registry')
    (hrequests : request.Reordered request') :
    SameUpTo PolicyGrantV2.Reordered (resolveV2 registry currentEpoch request caller nativeProfile)
      (resolveV2 registry' currentEpoch request' caller nativeProfile) := by
  obtain ⟨-, hformed⟩ :=
    WorkloadContractV1.validate_eq_ok.1 (WorkloadContractV2.validate_eq_ok.1 hrequest).1
  obtain ⟨hplan, hprofile, hauthorization, hceiling, hrequirements, -, hepoch⟩ := hrequests.toV1
  dsimp only [WorkloadContractV2.toV1] at hplan hprofile hauthorization hceiling hepoch
  rw [resolveV2_eq (RuntimePrivatePolicyRegistry.validate_eq_ok.2 h) hrequest,
    resolveV2_eq (RuntimePrivatePolicyRegistry.validate_eq_ok.2 (hregistry.valid h))
      (hrequests.validate hrequest)]
  by_cases hlinux : caller.isLinux = true
  · rw [if_pos hlinux, if_pos hlinux]
    apply sameUpTo_of
    · unfold authorizingGrantV2
      rw [← hauthorization]
      refine find?_rel (k := request.authorization.grantId) hregistry.grants h.grantIds
        (fun a b hab => ⟨hab.base.id, ?_⟩) fun a ha => ?_
      · rw [hab.base.id, hab.base.revision, hab.base.enabled, contains_eq_of_perm hab.base.callers]
      · simp only [Bool.and_eq_true, decide_eq_true_eq] at ha
        exact ha.1.1.1
    · intro a b hab
      unfold checkAdmissionV2
      rw [hab.base.profile, hab.base.ceiling, hab.executionIdentity, hepoch, hprofile,
        hceiling, hplan,
        hauthorization, hrequests.executionIdentity, contains_eq_of_perm hab.base.approvedPlans,
        checkIdentity_reordered hregistry.executionIdentities,
        enabledProfile_perm h.profiles hregistry.profiles]
    · exact rejectConflicts_reordered nativeProfile.verdict_canonical hformed.requirementIds
        hrequirements
  · rw [if_neg hlinux, if_neg hlinux]
    exact .error _

/-- **The decisions are exact.** For a valid registry and request, the decision is a grant exactly
when it is the grant of the registry that authorizes the request and the native profile supports
every requirement. When only requirements fail, the rejection reports them. Reordering the sets of
the registry and of the request leaves a rejection as it is, and a grant up to the order of its
callers and plans. -/
theorem admission_exact :
    (∀ (registry : RuntimePolicyRegistry) (currentEpoch : PolicyEpoch)
        (request : WorkloadContractV1) (caller : CallerSelector) (nativeProfile : BaselineProfile),
      registry.validate = .ok () → request.validate = .ok () →
        ExactAdmission (Authorizes registry currentEpoch request caller nativeProfile)
          nativeProfile.supports nativeProfile.verdict request.requirements.items
          (resolve registry currentEpoch request caller nativeProfile) ∧
        ∀ registry' request', registry.Reordered registry' → request.Reordered request' →
          SameUpTo PolicyGrantV1.Reordered
            (resolve registry currentEpoch request caller nativeProfile)
            (resolve registry' currentEpoch request' caller nativeProfile)) ∧
    ∀ (registry : RuntimePrivatePolicyRegistry) (currentEpoch : PolicyEpoch)
        (request : WorkloadContractV2) (caller : CallerSelector) (nativeProfile : ProfileKindV2),
      registry.validate = .ok () → request.validate = .ok () →
        ExactAdmission (AuthorizesV2 registry currentEpoch request caller nativeProfile)
          nativeProfile.supports nativeProfile.verdict request.requirements.items
          (resolveV2 registry currentEpoch request caller nativeProfile) ∧
        ∀ registry' request', registry.Reordered registry' → request.Reordered request' →
          SameUpTo PolicyGrantV2.Reordered
            (resolveV2 registry currentEpoch request caller nativeProfile)
            (resolveV2 registry' currentEpoch request' caller nativeProfile) := by
  constructor
  · intro registry currentEpoch request caller nativeProfile hregistry hrequest
    have hvalid := RuntimePolicyRegistry.validate_eq_ok.1 hregistry
    exact ⟨resolve_exact hvalid,
      fun registry' request' => resolve_reordered nativeProfile hvalid hrequest⟩
  · intro registry currentEpoch request caller nativeProfile hregistry hrequest
    have hvalid := RuntimePrivatePolicyRegistry.validate_eq_ok.1 hregistry
    exact ⟨resolveV2_exact hvalid hrequest,
      fun registry' request' => resolveV2_reordered nativeProfile hvalid hrequest⟩

end Order

def sampleRequest : WorkloadContractV2 where
  workloadPlanDigest := List.Vector.replicate 32 0
  authorizedProfile := @BaselineProfile.reference zeroHash .linuxUnixCreate
  authorization := {
    grantId := privateProfileId
    grantRevision := oneU64
    approvedPlanDigest := List.Vector.replicate 32 0 }
  ceiling := BaselineProfile.ceiling .linuxUnixCreate
  requirements := ⟨[.unixSocketCreation privateProfileId .stream], by decide⟩
  endpoints := .empty
  expectedEpoch := { serviceInstance := List.Vector.replicate 16 0, revision := oneU64 }
  executionIdentity := .preserveCaller

theorem sampleRequest_validate : sampleRequest.validate = .ok () := by decide +kernel

/-- The request is granted. -/
theorem admission_exact_sample :
    @resolveV2 zeroHash sampleRegistry sampleRequest.expectedEpoch sampleRequest (.linux 1000)
      .linuxUnixCreateV1 = .ok sampleGrant := by
  have hexact :=
    ((@admission_exact zeroHash).2 sampleRegistry sampleRequest.expectedEpoch sampleRequest
    (.linux 1000) .linuxUnixCreateV1 sampleRegistry_validate sampleRequest_validate).1
  refine (hexact.ok_iff sampleGrant).2 ⟨?_, by decide⟩
  refine ⟨List.mem_singleton.2 rfl, rfl, rfl, rfl, List.mem_singleton.2 rfl,
    List.mem_singleton.2 rfl, rfl, rfl,
    rfl, ⟨_, List.mem_singleton.2 rfl, rfl, rfl, rfl⟩, rfl, ?_, by decide, by decide⟩
  intro reference hreference
  cases hreference

end MemCordon.Workload
