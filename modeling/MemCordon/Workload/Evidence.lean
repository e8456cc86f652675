import MemCordon.Core.Runtime
import MemCordon.Workload.Admission
import MemCordon.Workload.CanonicalRegistry

/-!
# Evidence of admission and enforcement

What an attempt is bound to, what was verified before its target ran and how its policy ended, as in
`workload_evidence.rs`.

* `RuntimeAttemptBinding.canonicalDigest` hashes one string, `encoded`, which determines every field
  (`RuntimeAttemptBinding.encoded_injOn`).
* `VerifiedCheckpointV1` is what its deserializer accepts: it carries what `try_from` has checked.
* `evidence_not_transplanted`: terminal evidence is accepted for one contract, attempt and boot
  only, and a checkpoint matches one binding only, when the hash function tells the strings in
  question apart.
* `retired_consistent_iff`: the evidence that `retired` builds is accepted exactly when the
  checkpoint has the controls of the bound profile. `retired` itself compares the attempt only.
-/

namespace MemCordon.Workload

open Fallible Keyed Encoding

/-! ## Bindings -/

@[ext]
structure PublicProviderBindingV1 where
  generation : BoundedText 256
  sourceCommit : BoundedText 64
  runtimeManifestSha256 : DiagnosticSha256
  deriving DecidableEq

def PublicProviderBindingV1.isConsistent (provider : PublicProviderBindingV1) : Bool :=
  let generation := provider.generation.bytes
  let commit := provider.sourceCommit.bytes
  !generation.isEmpty && generation.all (fun byte =>
      (48 ≤ byte && byte ≤ 57) || (65 ≤ byte && byte ≤ 90) ||
      (97 ≤ byte && byte ≤ 122) || byte == 46 || byte == 45 || byte == 95 || byte == 58) &&
    (commit.length == 40 || commit.length == 64) &&
    commit.all fun byte => (48 ≤ byte && byte ≤ 57) || (97 ≤ byte && byte ≤ 102)

inductive BaselineRestrictionObservationV1
  | linuxUnixOnlySocketSyscallFilterAlternatePathsUnknown
  | windowsNetworkExternallyGoverned
  | unmanagedStandardBackend
  deriving DecidableEq

@[ext]
structure RequestBindingV1 where
  (requestDigest workloadPlanDigest : DiagnosticSha256)
  profile : ProfileRef
  authorization : AuthorizationRef
  epoch : PolicyEpoch
  deriving DecidableEq

def RequestBindingV1.fromContract [Sha256] (contract : WorkloadContractV1) :
    Except String RequestBindingV1 := do
  let requestDigest ← contractDigest contract
  pure {
    requestDigest
    workloadPlanDigest := contract.workloadPlanDigest
    profile := contract.authorizedProfile
    authorization := contract.authorization
    epoch := contract.expectedEpoch }

@[ext]
structure RuntimePlanBinding where
  format : String
  revision : UInt32
  request : RequestBindingV1
  registryDigest : DiagnosticSha256
  provider : PublicProviderBindingV1
  bootIdentity : BoundedText 128
  effectivePolicyDigest : DiagnosticSha256
  deriving DecidableEq

def baselineFor [Sha256] (reference : ProfileRef) : Option BaselineProfile :=
  [BaselineProfile.linuxUnixCreate, .windowsHostNetworkExternal].find? fun profile =>
    profile.reference = reference

def baselineObservation : BaselineProfile → BaselineRestrictionObservationV1
  | .linuxUnixCreate => .linuxUnixOnlySocketSyscallFilterAlternatePathsUnknown
  | .windowsHostNetworkExternal => .windowsNetworkExternallyGoverned

def RuntimePlanBinding.fromLocalGrant [Sha256] (contract : WorkloadContractV1)
    (registryDigest : DiagnosticSha256)
    (provider : PublicProviderBindingV1) (bootIdentity : BoundedText 128) :
    Except String RuntimePlanBinding := do
  reject "provider/boot binding unavailable" (provider.isConsistent = false ∨
    bootIdentity.bytes = [])
  let profile ← okOr "unknown qualified baseline profile" (baselineFor contract.authorizedProfile)
  let request ← RequestBindingV1.fromContract contract
  let effective ← emitted Limits.publicObjectBytes do
    Encoder.new (CodedText.bytes "effective-workload-policy-v1")
    Encoder.digest request.requestDigest
    Encoder.digest request.profile.semanticDigest
    Encoder.digest registryDigest
    encodeCeiling profile.ceiling
  pure {
    format := "memcordon.local-plan"
    revision := 1
    request
    registryDigest
    provider
    bootIdentity
    effectivePolicyDigest := hashBytes effective }

def RuntimePlanBinding.matchesContract [Sha256] (plan : RuntimePlanBinding)
    (contract : WorkloadContractV1) :
    Bool :=
  isOkAnd (fromLocalGrant contract plan.registryDigest plan.provider plan.bootIdentity)
    fun expected => expected = plan

@[ext]
structure RuntimeAttemptBinding where
  format : String
  revision : UInt32
  plan : RuntimePlanBinding
  attemptId : BoundedText 128
  restartAttempt : UInt64
  admissionNonce : Nonce128
  callerInvocationReference : Nonce128
  deriving DecidableEq

/-- `text` -/
def encodeText (value : List UInt8) : Emit String Unit :=
  if value.all (· < 128) = true then do
    Encoder.count value.length
    Encoder.raw value
  else throw "canonical public binding text must be ASCII"

variable (binding : RuntimeAttemptBinding)

/-- What `canonical_digest` of an attempt binding writes. -/
def RuntimeAttemptBinding.write : Emit String Unit := do
  Encoder.new (CodedText.bytes "memcordon.local-attempt-binding/revision1")
  Encoder.digest binding.plan.request.requestDigest
  Encoder.digest binding.plan.request.workloadPlanDigest
  Encoder.id binding.plan.request.profile.id
  Encoder.digest binding.plan.request.profile.semanticDigest
  Encoder.id binding.plan.request.authorization.grantId
  Encoder.u64 binding.plan.request.authorization.grantRevision.1
  Encoder.digest binding.plan.request.authorization.approvedPlanDigest
  Encoder.raw binding.plan.request.epoch.serviceInstance.toList
  Encoder.u64 binding.plan.request.epoch.revision.1
  Encoder.digest binding.plan.registryDigest
  encodeText binding.plan.provider.generation.bytes
  encodeText binding.plan.provider.sourceCommit.bytes
  Encoder.digest binding.plan.provider.runtimeManifestSha256
  encodeText binding.plan.bootIdentity.bytes
  Encoder.digest binding.plan.effectivePolicyDigest
  encodeText binding.attemptId.bytes
  Encoder.u64 binding.restartAttempt
  Encoder.raw binding.admissionNonce.toList
  Encoder.raw binding.callerInvocationReference.toList

/-- The string that `canonical_digest` of an attempt binding hashes. -/
def RuntimeAttemptBinding.preimage : Except String (List UInt8) :=
  emitted Limits.publicObjectBytes binding.write

def RuntimeAttemptBinding.canonicalDigest [Sha256] (binding : RuntimeAttemptBinding) :
    Except String DiagnosticSha256 := do
  reject "local attempt binding format differs"
    (binding.format ≠ "memcordon.local-attempt-binding" ∨
    binding.revision ≠ 1 ∨ binding.plan.format ≠ "memcordon.local-plan" ∨ binding.plan.revision ≠ 1)
  binding.preimage.map hashBytes

/-! ## Checkpoints -/

/-- The byte of the controls that a checkpoint commits to. -/
def encodeControls : BaselineRestrictionObservationV1 → Emit String Unit
  | .linuxUnixOnlySocketSyscallFilterAlternatePathsUnknown => Encoder.byte 1
  | .windowsNetworkExternallyGoverned => Encoder.byte 2
  | .unmanagedStandardBackend => throw "unmanaged controls cannot make a verified checkpoint"

def checkpointDigest [Sha256] (attempt : DiagnosticSha256)
    (controls : BaselineRestrictionObservationV1) :
    Except String DiagnosticSha256 :=
  (emitted Limits.publicObjectBytes do
    Encoder.new (CodedText.bytes "attempt-policy-enforcement-v1")
    Encoder.digest attempt
    encodeControls controls
    Encoder.raw [1, 1, 1, 1, 1, 1]).map hashBytes

structure CheckpointWire where
  (attemptBinding digest : DiagnosticSha256)
  controls : BaselineRestrictionObservationV1
  (targetGated callerVerified resourcesVerified guardianVerified epochVerified durable : Bool)
  deriving DecidableEq

/-- Every gate has been observed, over controls that someone manages. -/
def CheckpointWire.complete (wire : CheckpointWire) : Bool :=
  wire.targetGated && wire.callerVerified && wire.resourcesVerified && wire.guardianVerified &&
    wire.epochVerified && wire.durable && wire.controls != .unmanagedStandardBackend

/-- `VerifiedCheckpointV1`. Its fields are private: a value has passed `try_from`. -/
structure VerifiedCheckpointV1 [Sha256] extends CheckpointWire where
  isComplete : toCheckpointWire.complete = true
  digestEq : checkpointDigest attemptBinding controls = .ok digest

namespace VerifiedCheckpointV1

variable [Sha256]

/-- `TryFrom<CheckpointWire>` -/
def tryFrom (wire : CheckpointWire) : Except String VerifiedCheckpointV1 :=
  if hcomplete : wire.complete = true then
    match hdigest : checkpointDigest wire.attemptBinding wire.controls with
    | .error e => .error e
    | .ok digest =>
      if hsame : digest = wire.digest then .ok ⟨wire, hcomplete, hsame ▸ hdigest⟩
      else .error "workload checkpoint digest differs"
  else .error "incomplete workload preauthorization checkpoint"

def observed (controls : BaselineRestrictionObservationV1)
    (targetGated callerVerified resourcesVerified guardianVerified epochVerified durable : Bool) :
    Except String VerifiedCheckpointV1 := do
  let attemptBinding ← binding.canonicalDigest
  let digest ← checkpointDigest attemptBinding controls
  tryFrom ⟨attemptBinding, digest, controls, targetGated, callerVerified, resourcesVerified,
    guardianVerified, epochVerified, durable⟩

def matchesBinding (checkpoint : VerifiedCheckpointV1) (binding : RuntimeAttemptBinding) : Bool :=
  (baselineFor binding.plan.request.profile).any
      (fun profile => checkpoint.controls = baselineObservation profile) &&
    isOkAnd binding.canonicalDigest fun digest => digest = checkpoint.attemptBinding &&
      checkpointDigest digest checkpoint.controls = .ok checkpoint.digest

end VerifiedCheckpointV1

/-! ## Enforcement -/

inductive AdmissionAvailabilityFailure
  | providerUnavailable
  | transportLost
  | unqualifiedHost
  | bindingUnavailable
  | terminalUnavailable
  deriving DecidableEq

inductive PolicyTerminalEvidenceV1
  | retired (attemptBinding checkpoint : DiagnosticSha256)
    (controlsPreserved providerResourcesClosed : Bool)
  | unavailable (reason : AdmissionAvailabilityFailure)
  deriving DecidableEq

inductive RuntimePolicyEnforcement [Sha256]
  | legacyUnspecified
  | notAuthorized (request : RequestBindingV1) (rejection : AdmissionRejection AdmissionCode)
  | authorized (admission : RuntimeAttemptBinding) (beforeAuthorization : VerifiedCheckpointV1)
      (terminal : PolicyTerminalEvidenceV1)
  | authorizationUncertain (request : Option RequestBindingV1)
    (failure : AdmissionAvailabilityFailure)

namespace RuntimePolicyEnforcement

variable [Sha256]

def isConsistent : RuntimePolicyEnforcement → Bool
  | .legacyUnspecified => true
  | .notAuthorized request _ =>
    request.authorization.approvedPlanDigest = request.workloadPlanDigest
  | .authorizationUncertain _ _ => true
  | .authorized admission beforeAuthorization terminal =>
    isOkAnd admission.canonicalDigest fun digest =>
      beforeAuthorization.matchesBinding admission &&
        match terminal with
        | .retired attemptBinding checkpoint controlsPreserved providerResourcesClosed =>
          attemptBinding = digest && checkpoint = beforeAuthorization.digest && controlsPreserved &&
            providerResourcesClosed
        | .unavailable _ => true

/-- The policy of an authorized attempt was retired. -/
def isRetired : RuntimePolicyEnforcement → Bool
  | .authorized _ _ (.retired _ _ _ _) => true
  | _ => false

def terminalSuccess (enforcement : RuntimePolicyEnforcement) : Bool :=
  enforcement.isConsistent && enforcement.isRetired

def retired (checkpoint : VerifiedCheckpointV1)
    (controlsPreserved providerResourcesClosed : Bool) :
    Except String RuntimePolicyEnforcement := do
  reject "terminal workload enforcement is incomplete"
    ((controlsPreserved && providerResourcesClosed) = false)
  let digest ← binding.canonicalDigest
  reject "checkpoint belongs to another attempt" (checkpoint.attemptBinding ≠ digest)
  pure (.authorized binding checkpoint
    (.retired digest checkpoint.digest controlsPreserved providerResourcesClosed))

def matchesTerminalRequest (enforcement : RuntimePolicyEnforcement)
    (contract : Option WorkloadContractV1) : Bool :=
  match enforcement, contract with
  | .legacyUnspecified, none => true
  | .authorized admission _ _, some contract =>
    enforcement.terminalSuccess &&
      isOkAnd (RequestBindingV1.fromContract contract) fun request =>
        request = admission.plan.request
  | _, _ => false

def validNativeTerminal (enforcement : RuntimePolicyEnforcement)
    (contract : Option WorkloadContractV1)
    (profile : BaselineProfile) (attemptId : List UInt8) (restartAttempt : UInt64)
    (boot : List UInt8) : Bool :=
  enforcement.matchesTerminalRequest contract &&
    match enforcement, contract with
    | .legacyUnspecified, none => true
    | .authorized admission beforeAuthorization _, some contract =>
      admission.plan.matchesContract contract && contract.authorizedProfile = profile.reference &&
        admission.attemptId.bytes = attemptId && admission.restartAttempt = restartAttempt &&
        admission.plan.bootIdentity.bytes = boot && beforeAuthorization.controls =
          baselineObservation profile
    | _, _ => false

end RuntimePolicyEnforcement

/-! ## What is hashed -/

def RuntimeAttemptBinding.texts : List (List UInt8) :=
  [binding.plan.provider.generation.bytes, binding.plan.provider.sourceCommit.bytes,
    binding.plan.bootIdentity.bytes, binding.attemptId.bytes]

def RequestBindingV1.encoded (request : RequestBindingV1) : List UInt8 :=
  request.requestDigest.toList ++
    (request.workloadPlanDigest.toList ++ (request.profile.id.encoded ++
    (request.profile.semanticDigest.toList ++ (request.authorization.grantId.encoded ++
      (encoded64 request.authorization.grantRevision.1 ++
        (request.authorization.approvedPlanDigest.toList ++
        (request.epoch.serviceInstance.toList ++ encoded64 request.epoch.revision.1)))))))

def RuntimePlanBinding.encoded (plan : RuntimePlanBinding) : List UInt8 :=
  plan.request.encoded ++ (plan.registryDigest.toList ++ (prefixed plan.provider.generation.bytes ++
    (prefixed plan.provider.sourceCommit.bytes ++ (plan.provider.runtimeManifestSha256.toList ++
      (prefixed plan.bootIdentity.bytes ++ plan.effectivePolicyDigest.toList)))))

def RuntimeAttemptBinding.encoded : List UInt8 :=
  header (CodedText.bytes "memcordon.local-attempt-binding/revision1") ++ (binding.plan.encoded ++
    (prefixed binding.attemptId.bytes ++ (encoded64 binding.restartAttempt ++
      (binding.admissionNonce.toList ++ binding.callerInvocationReference.toList))))

/-- The header of an attempt binding and its texts are as `canonical_digest` requires. -/
@[mk_iff]
structure RuntimeAttemptBinding.WellFormed (binding : RuntimeAttemptBinding) : Prop where
  format : binding.format = "memcordon.local-attempt-binding"
  revision : binding.revision = 1
  planFormat : binding.plan.format = "memcordon.local-plan"
  planRevision : binding.plan.revision = 1
  ascii : ∀ text ∈ binding.texts, text.all (· < 128) = true

section Hashed

theorem encode_text {value : List UInt8} (hlength : value.length < 65536)
    (h : value.all (· < 128) = true) :
    encodeText value = Encoder.raw (prefixed value) := by
  unfold encodeText
  rw [if_pos h, count_eq hlength, raw_seq]
  rfl

theorem fails_text {value : List UInt8} (h : ¬value.all (· < 128) = true) :
    Fails (encodeText value) := by
  unfold encodeText
  rw [if_neg h]
  exact fails_throw

namespace RuntimeAttemptBinding

variable {binding a b : RuntimeAttemptBinding}

/-- A text that is not ASCII stops the encoder. -/
theorem fails_write {text : List UInt8} (hmem : text ∈ binding.texts)
    (h : ¬text.all (· < 128) = true) :
    Fails binding.write := by
  have htext := fails_text h
  unfold texts at hmem
  simp only [List.mem_cons, List.not_mem_nil, or_false] at hmem
  unfold write
  rcases hmem with rfl | rfl | rfl | rfl <;>
    repeat first
      | with_reducible exact htext.bind
      | refine Fails.after fun _ => ?_

theorem write_eq (h : ∀ text ∈ binding.texts, text.all (· < 128) = true) :
    binding.write = Encoder.raw binding.encoded := by
  simp only [texts, List.forall_mem_cons, List.not_mem_nil, false_implies, implies_true, and_true]
    at h
  obtain ⟨hgeneration, hcommit, hboot, hattempt⟩ := h
  unfold write Encoder.digest Encoder.u64
  simp only [encode_header, encode_id,
    encode_text (BoundedText.length_lt _ (by decide)) hgeneration,
    encode_text (BoundedText.length_lt _ (by decide)) hcommit,
    encode_text (BoundedText.length_lt _ (by decide)) hboot,
    encode_text (BoundedText.length_lt _ (by decide)) hattempt, raw_seq]
  unfold encoded RuntimePlanBinding.encoded RequestBindingV1.encoded
  simp only [List.append_assoc]
  rfl

theorem length_encoded_le : binding.encoded.length ≤ Limits.publicObjectBytes := by
  have hheader :
      (header (CodedText.bytes "memcordon.local-attempt-binding/revision1")).length = 44 := by
    decide +kernel
  have hprofile := binding.plan.request.profile.id.length_encoded_le
  have hgrant := binding.plan.request.authorization.grantId.length_encoded_le
  have hgeneration := binding.plan.provider.generation.bounded
  have hcommit := binding.plan.provider.sourceCommit.bounded
  have hboot := binding.plan.bootIdentity.bounded
  have hattempt := binding.attemptId.bounded
  unfold encoded RuntimePlanBinding.encoded RequestBindingV1.encoded prefixed
    Limits.publicObjectBytes
  simp only [List.length_append, hheader, List.Vector.toList_length, length_encoded64,
    length_beBytes]
  omega

theorem preimage_eq_ok {bytes : List UInt8} : binding.preimage = .ok bytes ↔
    (∀ text ∈ binding.texts, text.all (· < 128) = true) ∧ binding.encoded = bytes := by
  unfold preimage
  constructor
  · intro hbytes
    have hascii : ∀ text ∈ binding.texts, text.all (· < 128) = true := by
      intro text hmem
      by_contra hnot
      exact emitted_ne_of_fails (fails_write hmem hnot) hbytes
    rw [write_eq hascii, Encoder.raw, emitted_raw, if_pos binding.length_encoded_le] at hbytes
    exact ⟨hascii, Except.ok.inj hbytes⟩
  · rintro ⟨hascii, hbytes⟩
    rw [write_eq hascii, Encoder.raw, emitted_raw, if_pos binding.length_encoded_le, hbytes]

/-- **The digest of a binding is the hash of one string.** -/
theorem canonicalDigest_eq_ok [Sha256] {digest : DiagnosticSha256} :
    binding.canonicalDigest = .ok digest ↔ binding.WellFormed ∧
      hashBytes binding.encoded = digest := by
  unfold canonicalDigest
  rw [unit_bind_eq_ok, reject_eq_ok, map_eq_ok, wellFormed_iff]
  simp only [not_or, not_not, preimage_eq_ok, and_assoc, exists_and_left, exists_eq_left']

end RuntimeAttemptBinding

theorem delimits_nonce : Delimits (List.Vector.toList : Nonce128 → List UInt8) := delimits_vector

theorem delimits_requestBinding : Delimits RequestBindingV1.encoded := by
  intro a b s t h
  unfold RequestBindingV1.encoded at h
  simp only [List.append_assoc] at h
  obtain ⟨hrequest, h⟩ := delimits_digest h
  obtain ⟨hplan, h⟩ := delimits_digest h
  obtain ⟨hprofile, h⟩ := delimits_id h
  obtain ⟨hprofileDigest, h⟩ := delimits_digest h
  obtain ⟨hgrant, h⟩ := delimits_id h
  obtain ⟨hgrantRevision, h⟩ := delimits_encoded64 h
  obtain ⟨happroved, h⟩ := delimits_digest h
  obtain ⟨hinstance, h⟩ := delimits_nonce h
  obtain ⟨hrevision, h⟩ := delimits_encoded64 h
  refine ⟨RequestBindingV1.ext hrequest hplan (ProfileRef.ext hprofile hprofileDigest) ?_ ?_, h⟩
  · exact AuthorizationRef.ext hgrant (Subtype.ext hgrantRevision) happroved
  · exact PolicyEpoch.ext hinstance (Subtype.ext hrevision)

/-- The bytes of a plan determine it, but for its header. -/
theorem delimits_plan {a b : RuntimePlanBinding} (hformat : a.format = b.format)
    (hrevision : a.revision = b.revision)
    {s t : List UInt8} (h : a.encoded ++ s = b.encoded ++ t) : a = b ∧ s = t := by
  unfold RuntimePlanBinding.encoded at h
  simp only [List.append_assoc] at h
  obtain ⟨hrequest, h⟩ := delimits_requestBinding h
  obtain ⟨hregistry, h⟩ := delimits_digest h
  obtain ⟨hgeneration, h⟩ := delimits_text (by decide) h
  obtain ⟨hcommit, h⟩ := delimits_text (by decide) h
  obtain ⟨hmanifest, h⟩ := delimits_digest h
  obtain ⟨hboot, h⟩ := delimits_text (by decide) h
  obtain ⟨heffective, h⟩ := delimits_digest h
  have hprovider : a.provider = b.provider :=
    PublicProviderBindingV1.ext hgeneration hcommit hmanifest
  exact ⟨RuntimePlanBinding.ext hformat hrevision hrequest hregistry hprovider hboot heffective, h⟩

/-- **The hashed string determines every field of a well-formed binding.** -/
theorem RuntimeAttemptBinding.encoded_injOn : Set.InjOn encoded {binding | binding.WellFormed} := by
  intro a ha b hb hab
  have h : a.encoded ++ [] = b.encoded ++ [] := congrArg (· ++ []) hab
  unfold encoded at h
  simp only [List.append_assoc] at h
  replace h := List.append_cancel_left h
  obtain ⟨hplan, h⟩ := delimits_plan (ha.planFormat.trans hb.planFormat.symm)
    (ha.planRevision.trans hb.planRevision.symm) h
  obtain ⟨hattempt, h⟩ := delimits_text (by decide) h
  obtain ⟨hrestart, h⟩ := delimits_encoded64 h
  obtain ⟨hnonce, h⟩ := delimits_nonce h
  obtain ⟨hreference, h⟩ := delimits_nonce h
  exact RuntimeAttemptBinding.ext (ha.format.trans hb.format.symm)
    (ha.revision.trans hb.revision.symm) hplan hattempt hrestart hnonce hreference

end Hashed

/-! ## Evidence is bound to one attempt -/

/-- The hash function tells two strings apart, when both are built. -/
def CollisionFree [Sha256] (a b : Except String (List UInt8)) : Prop :=
  ∀ bytes bytes', a = .ok bytes → b = .ok bytes' →
    hashBytes bytes = hashBytes bytes' → bytes = bytes'

section Bound

variable [Sha256]

variable {contract : WorkloadContractV1} {request : RequestBindingV1}

theorem fromContract_eq_ok :
    RequestBindingV1.fromContract contract = .ok request ↔
      ∃ bytes, encodeContract contract = .ok bytes ∧
      request = ⟨hashBytes bytes, contract.workloadPlanDigest, contract.authorizedProfile,
        contract.authorization, contract.expectedEpoch⟩ := by
  unfold RequestBindingV1.fromContract contractDigest
  simp only [bind_eq_ok, map_eq_ok, pure_eq_ok, ← exists_and_right, and_assoc]
  rw [exists_comm]
  simp only [exists_and_left, exists_eq_left']

theorem encodeContract_eq_of_fromContract {contract contract' : WorkloadContractV1}
    (hfree : CollisionFree (encodeContract contract) (encodeContract contract'))
    (h : RequestBindingV1.fromContract contract = .ok request)
    (h' : RequestBindingV1.fromContract contract' = .ok request) :
    ∃ bytes, encodeContract contract = .ok bytes ∧ encodeContract contract' = .ok bytes := by
  obtain ⟨bytes, hbytes, hrequest⟩ := fromContract_eq_ok.1 h
  obtain ⟨bytes', hbytes', hrequest'⟩ := fromContract_eq_ok.1 h'
  have hdigest : hashBytes bytes = hashBytes bytes' :=
    congrArg RequestBindingV1.requestDigest (hrequest.symm.trans hrequest')
  rw [← hfree bytes bytes' hbytes hbytes' hdigest] at hbytes'
  exact ⟨bytes, hbytes, hbytes'⟩

/-- What terminal evidence has been compared with. -/
theorem RuntimePolicyEnforcement.of_validNativeTerminal {enforcement : RuntimePolicyEnforcement}
    {profile : BaselineProfile} {attemptId boot : List UInt8}
    {restartAttempt : UInt64}
    (h : enforcement.validNativeTerminal (some contract) profile attemptId restartAttempt boot =
      true) :
    ∃ admission checkpoint terminal, enforcement = .authorized admission checkpoint terminal ∧
      RequestBindingV1.fromContract contract = .ok admission.plan.request ∧
      admission.attemptId.bytes = attemptId ∧ admission.restartAttempt = restartAttempt ∧
      admission.plan.bootIdentity.bytes = boot := by
  unfold RuntimePolicyEnforcement.validNativeTerminal at h
  cases enforcement with
  | legacyUnspecified | notAuthorized request rejection | authorizationUncertain request failure =>
    cases h
  | authorized admission checkpoint terminal =>
    simp only [RuntimePolicyEnforcement.matchesTerminalRequest, Bool.and_eq_true, decide_eq_true_eq,
      isOkAnd_eq_true] at h
    obtain ⟨⟨-, request, hrequest, rfl⟩, ⟨⟨⟨-, hattempt⟩, hrestart⟩, hboot⟩, -⟩ := h
    exact ⟨admission, checkpoint, terminal, rfl, hrequest, hattempt, hrestart, hboot⟩

theorem VerifiedCheckpointV1.matchesBinding_eq_true {checkpoint : VerifiedCheckpointV1}
    {binding : RuntimeAttemptBinding} : checkpoint.matchesBinding binding = true ↔
      (∃ profile, baselineFor binding.plan.request.profile = some profile ∧
        checkpoint.controls = baselineObservation profile) ∧
      binding.canonicalDigest = .ok checkpoint.attemptBinding := by
  unfold VerifiedCheckpointV1.matchesBinding
  simp only [Bool.and_eq_true, Option.any_eq_true, decide_eq_true_eq, isOkAnd_eq_true]
  simp [checkpoint.digestEq]

/-- **Terminal evidence cannot be transplanted.** Evidence that is accepted for two contracts,
attempts and boots is accepted for the same encoding, attempt, restart and boot, and a checkpoint
matches one binding only, when the hash function tells the two encodings, respectively the two
bindings, apart. -/
theorem evidence_not_transplanted :
    (∀ (enforcement : RuntimePolicyEnforcement) (contract contract' : WorkloadContractV1)
      (profile profile' : BaselineProfile) (attempt attempt' : List UInt8)
      (restart restart' : UInt64) (boot boot' : List UInt8),
      CollisionFree (encodeContract contract) (encodeContract contract') →
      enforcement.validNativeTerminal (some contract) profile attempt restart boot = true →
      enforcement.validNativeTerminal (some contract') profile' attempt' restart' boot' = true →
      (∃ bytes, encodeContract contract = .ok bytes ∧ encodeContract contract' = .ok bytes) ∧
        attempt = attempt' ∧ restart = restart' ∧ boot = boot') ∧
    ∀ (checkpoint : VerifiedCheckpointV1) (binding binding' : RuntimeAttemptBinding),
      CollisionFree binding.preimage binding'.preimage →
      checkpoint.matchesBinding binding = true → checkpoint.matchesBinding binding' = true →
      binding = binding' := by
  constructor
  · intro enforcement contract contract' profile profile' attempt attempt' restart restart' boot
      boot' hfree h h'
    obtain ⟨admission, checkpoint, terminal, rfl, hrequest, rfl, rfl, rfl⟩ :=
      RuntimePolicyEnforcement.of_validNativeTerminal h
    obtain ⟨_, _, _, hsame, hrequest', hattempt, hrestart, hboot⟩ :=
      RuntimePolicyEnforcement.of_validNativeTerminal h'
    cases hsame
    exact ⟨encodeContract_eq_of_fromContract hfree hrequest hrequest', hattempt, hrestart, hboot⟩
  · intro checkpoint binding binding' hfree h h'
    obtain ⟨hwell, hdigest⟩ := RuntimeAttemptBinding.canonicalDigest_eq_ok.1
      (VerifiedCheckpointV1.matchesBinding_eq_true.1 h).2
    obtain ⟨hwell', hdigest'⟩ := RuntimeAttemptBinding.canonicalDigest_eq_ok.1
      (VerifiedCheckpointV1.matchesBinding_eq_true.1 h').2
    apply RuntimeAttemptBinding.encoded_injOn hwell hwell'
    exact hfree _ _ (RuntimeAttemptBinding.preimage_eq_ok.2 ⟨hwell.ascii, rfl⟩)
      (RuntimeAttemptBinding.preimage_eq_ok.2 ⟨hwell'.ascii, rfl⟩) (hdigest.trans hdigest'.symm)

end Bound

/-! ## Evidence of retirement -/

section Retired

variable [Sha256] {binding : RuntimeAttemptBinding} {checkpoint : VerifiedCheckpointV1}
  {controlsPreserved providerResourcesClosed : Bool} {enforcement : RuntimePolicyEnforcement}

/-- The deserializer accepts the fields of a checkpoint, and nothing else. -/
theorem VerifiedCheckpointV1.tryFrom_eq_ok {wire : CheckpointWire} :
    VerifiedCheckpointV1.tryFrom wire = .ok checkpoint ↔ checkpoint.toCheckpointWire = wire := by
  unfold VerifiedCheckpointV1.tryFrom
  constructor
  · intro h
    split at h
    · split at h
      · cases h
      · split at h
        · cases h
          rfl
        · cases h
    · cases h
  · rintro rfl
    rw [dif_pos checkpoint.isComplete]
    split
    · next e he =>
      rw [checkpoint.digestEq] at he
      cases he
    · next digest hdigest =>
      rw [checkpoint.digestEq] at hdigest
      rw [dif_pos (Except.ok.inj hdigest).symm]

theorem RuntimePolicyEnforcement.retired_eq_ok :
    RuntimePolicyEnforcement.retired binding checkpoint controlsPreserved providerResourcesClosed =
      .ok enforcement ↔ controlsPreserved = true ∧ providerResourcesClosed = true ∧
        binding.canonicalDigest = .ok checkpoint.attemptBinding ∧
        enforcement = .authorized binding checkpoint
          (.retired checkpoint.attemptBinding checkpoint.digest true true) := by
  unfold RuntimePolicyEnforcement.retired
  rw [unit_bind_eq_ok, reject_eq_ok, Bool.not_eq_false, Bool.and_eq_true, bind_eq_ok, and_assoc]
  simp only [unit_bind_eq_ok, reject_eq_ok, not_not, pure_eq_ok]
  constructor
  · rintro ⟨rfl, rfl, _, hdigest, rfl, rfl⟩
    exact ⟨rfl, rfl, hdigest, rfl⟩
  · rintro ⟨rfl, rfl, hdigest, rfl⟩
    exact ⟨rfl, rfl, _, hdigest, rfl, rfl⟩

/-- **What `retired` builds is accepted exactly when the checkpoint has the controls of the bound
profile.** A receipt over other controls, or for a profile that is not a baseline profile, is built
and then refused. -/
theorem retired_consistent_iff
    (h : RuntimePolicyEnforcement.retired binding checkpoint controlsPreserved
      providerResourcesClosed = .ok enforcement) :
    enforcement.terminalSuccess = enforcement.isConsistent ∧
      (enforcement.isConsistent = true ↔
        ∃ profile, baselineFor binding.plan.request.profile = some profile ∧
        checkpoint.controls = baselineObservation profile) := by
  obtain ⟨-, -, hdigest, rfl⟩ := RuntimePolicyEnforcement.retired_eq_ok.1 h
  refine ⟨Bool.and_true _, ?_⟩
  unfold RuntimePolicyEnforcement.isConsistent
  simp only [isOkAnd_eq_true, Bool.and_eq_true, VerifiedCheckpointV1.matchesBinding_eq_true,
    decide_eq_true_eq]
  constructor
  · rintro ⟨digest, -, ⟨hcontrols, -⟩, -⟩
    exact hcontrols
  · intro hcontrols
    exact ⟨checkpoint.attemptBinding, hdigest, ⟨hcontrols, hdigest⟩,
      ⟨⟨rfl, trivial⟩, trivial⟩, trivial⟩

end Retired

/-! ## A sample -/

section Sample

attribute [local instance] zeroHash

def sampleProvider : PublicProviderBindingV1 where
  generation := ⟨[103], by decide, by decide, CodedText.isUtf8_of_ascii (by simp)⟩
  sourceCommit := ⟨List.replicate 40 97, by decide, by decide, CodedText.isUtf8_of_ascii (by simp)⟩
  runtimeManifestSha256 := sampleRequest.workloadPlanDigest

/-- The name of a boot and of an attempt. -/
def sampleName : BoundedText 128 :=
  ⟨[98], by decide, by decide, CodedText.isUtf8_of_ascii (by simp)⟩

/-- A binding of the Linux baseline profile. -/
def sampleBinding : RuntimeAttemptBinding where
  format := "memcordon.local-attempt-binding"
  revision := 1
  plan := {
    format := "memcordon.local-plan"
    revision := 1
    request := {
      requestDigest := hashBytes []
      workloadPlanDigest := sampleRequest.workloadPlanDigest
      profile := sampleRequest.authorizedProfile
      authorization := sampleRequest.authorization
      epoch := sampleRequest.expectedEpoch }
    registryDigest := sampleRequest.workloadPlanDigest
    provider := sampleProvider
    bootIdentity := sampleName
    effectivePolicyDigest := hashBytes [] }
  attemptId := sampleName
  restartAttempt := 2
  admissionNonce := sampleRequest.expectedEpoch.serviceInstance
  callerInvocationReference := sampleRequest.expectedEpoch.serviceInstance

theorem sampleBinding_digest : sampleBinding.canonicalDigest = .ok (hashBytes []) :=
  RuntimeAttemptBinding.canonicalDigest_eq_ok.2 ⟨⟨rfl, rfl, rfl, rfl, by decide⟩, rfl⟩

/-- A checkpoint of the binding over the Linux controls. -/
def sampleCheckpoint : VerifiedCheckpointV1 where
  attemptBinding := hashBytes []
  digest := hashBytes []
  controls := .linuxUnixOnlySocketSyscallFilterAlternatePathsUnknown
  targetGated := true
  callerVerified := true
  resourcesVerified := true
  guardianVerified := true
  epochVerified := true
  durable := true
  isComplete := rfl
  digestEq := by decide +kernel

/-- A checkpoint of the same binding over the Windows controls. -/
def crossProfileCheckpoint : VerifiedCheckpointV1 where
  toCheckpointWire :=
    { sampleCheckpoint.toCheckpointWire with controls := .windowsNetworkExternallyGoverned }
  isComplete := rfl
  digestEq := by decide +kernel

/-- The evidence that the attempt has retired, over a checkpoint. -/
def sampleEnforcement (checkpoint : VerifiedCheckpointV1) : RuntimePolicyEnforcement :=
  .authorized sampleBinding checkpoint
    (.retired checkpoint.attemptBinding checkpoint.digest true true)

theorem sampleCheckpoint_matches : sampleCheckpoint.matchesBinding sampleBinding = true :=
  VerifiedCheckpointV1.matchesBinding_eq_true.2
    ⟨⟨.linuxUnixCreate, by decide +kernel, rfl⟩, sampleBinding_digest⟩

theorem sampleEnforcement_retired {checkpoint : VerifiedCheckpointV1}
    (h : checkpoint.attemptBinding = hashBytes []) :
    RuntimePolicyEnforcement.retired sampleBinding checkpoint true true =
      .ok (sampleEnforcement checkpoint) :=
  RuntimePolicyEnforcement.retired_eq_ok.2 ⟨rfl, rfl, h ▸ sampleBinding_digest, rfl⟩

/-- Evidence over the controls of the bound profile. -/
theorem retired_consistent_iff_sample :
    RuntimePolicyEnforcement.retired sampleBinding sampleCheckpoint true true =
        .ok (sampleEnforcement sampleCheckpoint) ∧
      (sampleEnforcement sampleCheckpoint).isConsistent = true ∧
      (sampleEnforcement sampleCheckpoint).terminalSuccess = true := by
  have hretired := sampleEnforcement_retired (rfl : sampleCheckpoint.attemptBinding = _)
  obtain ⟨hsuccess, hiff⟩ := retired_consistent_iff hretired
  have hconsistent : (sampleEnforcement sampleCheckpoint).isConsistent = true :=
    hiff.2 (VerifiedCheckpointV1.matchesBinding_eq_true.1 sampleCheckpoint_matches).1
  exact ⟨hretired, hconsistent, hsuccess.trans hconsistent⟩

/-- `observed` and `retired` accept controls of another profile than the bound one, and the reader
refuses what they build. -/
theorem retired_cross_profile_refused :
    VerifiedCheckpointV1.observed sampleBinding .windowsNetworkExternallyGoverned true true true
        true true true = .ok crossProfileCheckpoint ∧
      RuntimePolicyEnforcement.retired sampleBinding crossProfileCheckpoint true true =
        .ok (sampleEnforcement crossProfileCheckpoint) ∧
      (sampleEnforcement crossProfileCheckpoint).isConsistent = false ∧
      (sampleEnforcement crossProfileCheckpoint).terminalSuccess = false := by
  have hrefused : (sampleEnforcement crossProfileCheckpoint).isConsistent = false := by
    decide +kernel
  refine ⟨?_, sampleEnforcement_retired rfl, hrefused,
    by rw [RuntimePolicyEnforcement.terminalSuccess, hrefused]; rfl⟩
  refine bind_eq_ok.2 ⟨hashBytes [], sampleBinding_digest, ?_⟩
  refine bind_eq_ok.2 ⟨hashBytes [], crossProfileCheckpoint.digestEq, ?_⟩
  exact VerifiedCheckpointV1.tryFrom_eq_ok.2 rfl

end Sample

/-! ## Evidence that is told apart -/

section Told

variable [Sha256] in
theorem collisionFree_of_ne {x y : Except String (List UInt8)}
    (h : x.map hashBytes ≠ y.map hashBytes) : CollisionFree x y := by
  rintro bytes bytes' rfl rfl hsame
  exact absurd (congrArg Except.ok hsame) h

/-- A hash function that reads its string as a number. -/
abbrev numberHash : Sha256 :=
  ⟨fun bytes =>
    let number := bytes.foldl (fun number byte => number * 257 + byte.toNat + 1) 0
    List.Vector.ofFn fun i => UInt8.ofNat (number / 256 ^ i.val)⟩

attribute [local instance] numberHash

/-- A request of one socket. -/
def socketRequest (socket : UnixSocketKind) : WorkloadContractV1 :=
  { sampleRequest.toV1 with
    authorizedProfile := BaselineProfile.reference .linuxUnixCreate
    requirements :=
      ⟨[.unixSocketCreation privateProfileId socket], (by decide : 1 ≤ Limits.requirements)⟩ }

/-- The binding of the request for a stream socket, for a restart. -/
def restartBinding (restart : UInt64) : RuntimeAttemptBinding :=
  let plan := RuntimePlanBinding.fromLocalGrant (socketRequest .stream)
    sampleRequest.workloadPlanDigest sampleProvider sampleName
  { sampleBinding with plan := plan.toOption.getD sampleBinding.plan, restartAttempt := restart }

/-- The fields of a checkpoint of the second restart. -/
def restartWire : CheckpointWire :=
  let attemptBinding := (restartBinding 2).canonicalDigest.toOption.getD (hashBytes [])
  let controls := .linuxUnixOnlySocketSyscallFilterAlternatePathsUnknown
  { attemptBinding, controls
    digest := (checkpointDigest attemptBinding controls).toOption.getD (hashBytes [])
    targetGated := true, callerVerified := true, resourcesVerified := true
    guardianVerified := true, epochVerified := true, durable := true }

def restartCheckpoint : VerifiedCheckpointV1 where
  toCheckpointWire := restartWire
  isComplete := rfl
  digestEq := by decide +kernel

def restartEnforcement : RuntimePolicyEnforcement :=
  .authorized (restartBinding 2) restartCheckpoint
    (.retired restartCheckpoint.attemptBinding restartCheckpoint.digest true true)

/-- The evidence of a request is refused for another one, and the checkpoint of a restart for the
next restart. -/
theorem evidence_not_transplanted_restart :
    restartEnforcement.validNativeTerminal (some (socketRequest .stream)) .linuxUnixCreate
        [98] 2 [98] = true ∧
      restartEnforcement.validNativeTerminal (some (socketRequest .datagram)) .linuxUnixCreate
        [98] 2 [98] = false ∧
      restartCheckpoint.matchesBinding (restartBinding 2) = true ∧
      restartCheckpoint.matchesBinding (restartBinding 3) = false := by
  obtain ⟨hterminals, hcheckpoints⟩ := evidence_not_transplanted
  have hterminal : restartEnforcement.validNativeTerminal (some (socketRequest .stream))
      .linuxUnixCreate [98] 2 [98] = true := by decide +kernel
  have hmatches : restartCheckpoint.matchesBinding (restartBinding 2) = true := by decide +kernel
  refine ⟨hterminal, ?_, hmatches, ?_⟩
  · rw [← Bool.not_eq_true]
    intro hother
    have hfree : CollisionFree (encodeContract (socketRequest .stream))
        (encodeContract (socketRequest .datagram)) := collisionFree_of_ne (by decide +kernel)
    obtain ⟨⟨bytes, hbytes, hbytes'⟩, -⟩ := hterminals _ _ _ _ _ _ _ _ _ _ _ hfree hterminal hother
    exact absurd (hbytes.trans hbytes'.symm) (by decide +kernel)
  · rw [← Bool.not_eq_true]
    intro hother
    have hfree : CollisionFree (restartBinding 2).preimage (restartBinding 3).preimage :=
      collisionFree_of_ne (by decide +kernel)
    have hsame :=
      congrArg RuntimeAttemptBinding.restartAttempt (hcheckpoints _ _ _ hfree hmatches hother)
    exact absurd hsame (by decide)

end Told

end MemCordon.Workload
