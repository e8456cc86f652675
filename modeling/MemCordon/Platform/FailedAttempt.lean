import MemCordon.Platform.Acceptance
import MemCordon.Platform.SealedRun

/-!
# Attempts that return an error

When an attempt returns an error the loop derives launch facts, a retirement proof and boundary
evidence from it, and hands the record to the constructor of executions. The constructor compares
them with each other and with the selected backend, so an error whose evidence the derivation does
not carry over is replaced by a model error.

* `Recordable` says when a record is made at all: the error is not a supervision deadline, and its
  release agrees with its authorization offset.
* `Surfaces` says what the constructor then asks of the error, in terms of the error and of the
  selected backend.
* `failure_surfaces_iff`: in every run whose earlier attempts are presentable, the execution that is
  returned shows the error exactly when it is recordable and surfaces, and a recordable error that
  does not becomes a model error.
-/

namespace MemCordon.Supervisor

open Clock Counter Fallible

variable {r : Run} {s s₀ : LoopState} {t : Turn} {e : Error} {turns : List Turn}
  {platform : Platform} {backend : Option BackendCapabilityReport}

/-! ## What is asked of an error -/

/-- The mechanism an error names is the one that the selected backend names. Without a selected
backend there is none to name but that of the launch. -/
def MechanismAgrees (platform : Platform) (backend : Option BackendCapabilityReport) (e : Error) :
    Prop :=
  match e.boundarySetupFailure.bind (·.mechanism) with
  | none => (namedMechanism backend).isSome = true
  | some mechanism => mechanism = (namedMechanism backend).getD (launchMechanism platform)

/-- What is asked of the boundary evidence of an error: under a standard boundary no sealed
evidence; under a sealed one, evidence that agrees with the backend, in which safe and retired mean
the same. -/
def EvidenceAgrees (platform : Platform) (requested : BoundaryRequirement)
    (backend : Option BackendCapabilityReport) (class_ : BoundaryClass) (e : Error) : Prop :=
  match requested, windowsFailedExecutionDetail e with
  | .standard, _ =>
    e.boundarySetupFailure = none ∧ (∀ b, backend = some b → b.name ≠ "") ∧
      e.restartSafety.any (·.sealedBoundaryRetired) = false
  | .sealed, some native =>
    class_ = .sealed ∧ native.isConsistent true = true ∧
      e.restartSafety.any (·.isSafeFor .sealed) = true
  | .sealed, none =>
    MechanismAgrees platform backend e ∧
      e.restartSafety.any (·.isSafe) = e.restartSafety.any (·.sealedBoundaryRetired) ∧
      (e.targetReleased = true → class_ = .sealed ∧ e.cgroupVerifiedBeforeRelease = true ∧
        e.guardianReadyBeforeRelease = true)

/-- The boundary was verified before the release, as far as the error says. -/
def verifiedBeforeRelease (requested : BoundaryRequirement) (e : Error) : Bool :=
  (requested == .sealed && (windowsFailedExecutionDetail e).isSome) ||
    (e.cgroupVerifiedBeforeRelease && e.guardianReadyBeforeRelease)

def RuntimeAgrees (requested : BoundaryRequirement) (e : Error)
    (runtime : RuntimeEvidenceV1) : Prop :=
  runtime.isConsistent = true ∧
    (∀ pid, e.targetPid = some pid → runtime.targetPid.map PNat.val = some pid) ∧
    match runtime.release with
    | .issued .. =>
      e.targetReleased = true ∧ e.authorizationOffset.isSome = true ∧
        verifiedBeforeRelease requested e = true
    | .notIssued => e.targetReleased = false ∧ e.authorizationOffset = none
    | .unknown =>
      e.targetReleased = false ∧ e.authorizationOffset = none ∧
        e.restartSafety.any (·.isSafe) = false

/-- The provider rejected the spawn of the target. The classification of an initial spawn failure is
kept for the first attempt only, and two of the codes need it. -/
@[mk_iff]
structure SpawnRejected (kind : AttemptKind) (e : Error)
    (x : ProviderRejectionEvidence) : Prop where
  category : e.category = .spawn
  phase : e.launchPhase = some "target-spawn-failed" ∧ x.phase = .targetCreation
  created : (x.targetCreated = true ∧ x.targetReleased = true ∧ x.cleanupAttempted = true) ∨
    (x.targetCreated = false ∧ x.targetReleased = false)
  classified :
    (kind = .initial ∧ e.code = "MCSPAWN-NOT-FOUND" ∧ e.initialSpawnFailure = some .notFound) ∨
      (kind = .initial ∧ e.code = "MCSPAWN-NOT-EXECUTABLE" ∧
      e.initialSpawnFailure = some .notExecutable) ∨
      (e.code = "MCSPAWN-FAILED" ∧ (kind = .initial → e.initialSpawnFailure = none))
  code : e.code = x.code

/-- What is asked of the provider's rejection an error carries. -/
@[mk_iff]
structure RejectionAgrees (kind : AttemptKind) (e : Error)
    (x : ProviderRejectionEvidence) : Prop where
  origin : (e.code = "MCSEALED-PROVIDER-REJECTION" ∧
    e.launchPhase = some (boundarySetupPhaseName x.phase)) ∨ SpawnRejected kind e x
  released : e.targetReleased = x.targetReleased
  alive : e.workloadMayBeAlive = (x.targetCreated && x.restartSafety.workloadEmpty != some true)
  consistent : x.isConsistent = true

/-- What is asked of the origin of an error. -/
@[mk_iff]
structure ProvenanceAgrees (kind : AttemptKind) (e : Error) : Prop where
  spawn : kind = .initial → e.initialSpawnFailure.isSome = true →
    e.category = .spawn ∧ e.launchPhase = some "target-spawn-failed"
  rejection : ∀ x, e.providerRejection = some x → RejectionAgrees kind e x
  drift : e.code ≠ "MCBACKEND-SELECTION-DRIFT"
  startup : ∀ d, e.nativeStartup = some d →
    d.matchesErrorObservations e.targetReleased e.workloadMayBeAlive e.osCode = true

/-- What is asked of the record of an error, origin and terminal apart. -/
structure RecordAgrees (r : Run) (s : LoopState) (t : Turn) (e : Error) : Prop where
  diagnostics : e.operationalFailure ≠ some false
  enforcement : ∀ p, e.policyEnforcement = some p → p.isConsistent = true
  pid : e.targetPid ≠ some 0
  runtime : ∀ runtime, e.runtime = some runtime → RuntimeAgrees r.policy.boundary e runtime
  authorized : ∀ offset, e.authorizationOffset = some offset →
    millis (t.attemptStarted + offset) ≤ millis t.finishedAt
  evidence :
    EvidenceAgrees r.platform r.policy.boundary s.backend s.reportedBackend.boundary.class_ e

/-- A record is made of the error: it is not a supervision deadline, there is a number for the
attempt, and the release agrees with the authorization offset. -/
structure Recordable (r : Run) (s : LoopState) (t : Turn) (e : Error) : Prop where
  deadline : e.code ≠ "MCSUPERVISION-DEADLINE-BEFORE-AUTHORIZATION"
  rejection : sealedDeadlineRejectionIsOutsideAttempt r.policy (attemptContext r s t) e = false
  room : s.history.total + 1 < u64Bound
  authorization : e.targetReleased = e.authorizationOffset.isSome ∨ recoveredWithoutClock e = true

/-- The constructor takes the record of the error. -/
structure Surfaces (r : Run) (s : LoopState) (t : Turn) (e : Error) : Prop where
  backend : s.reportedBackend.boundary.isConsistent = true
  record : RecordAgrees r s t e
  provenance : ProvenanceAgrees s.kind e

/-! ## Boundary evidence -/

/-- A proof that an error does not carry proves nothing. -/
theorem proofFromError_any {proves : RestartSafetyProof → Bool}
    (h : ∀ errors, proves { errors } = false) :
    proves (proofFromError e) = e.restartSafety.any proves := by
  unfold proofFromError
  cases e.restartSafety with
  | none => exact h _
  | some p => rfl

theorem proofFromError_isSafe : (proofFromError e).isSafe = e.restartSafety.any (·.isSafe) :=
  proofFromError_any fun _ => rfl

theorem proofFromError_retired :
    (proofFromError e).sealedBoundaryRetired = e.restartSafety.any (·.sealedBoundaryRetired) :=
  proofFromError_any fun _ => rfl

theorem proofFromError_isSafeFor_sealed :
    (proofFromError e).isSafeFor .sealed = e.restartSafety.any (·.isSafeFor .sealed) :=
  @proofFromError_any e (·.isSafeFor .sealed) fun _ => rfl

theorem launchMechanism_ne (platform : Platform) :
    launchMechanism platform ≠ "" ∧ launchMechanism platform ≠ "unresolved-sealed-setup" ∧
      launchMechanism platform ≠ "unresolved-boundary-setup" := by
  cases platform <;> decide

theorem namedMechanism_ne {mechanism : String} (h : namedMechanism backend = some mechanism) :
    mechanism ≠ "" := by
  obtain ⟨-, hne⟩ := Option.filter_eq_some_iff.1 h
  simpa using hne

theorem getD_namedMechanism_ne : (namedMechanism backend).getD (launchMechanism platform) ≠ "" := by
  cases h : namedMechanism backend with
  | none => exact (launchMechanism_ne platform).1
  | some mechanism => exact namedMechanism_ne h

/-- The mechanism of the evidence of a sealed setup failure is the one of the launch. -/
theorem mechanismAgrees_iff : MechanismAgrees platform backend e ↔
    (match e.boundarySetupFailure with
        | some failure => (failure.mechanism.or (backend.map (·.boundary.mechanism))).getD
            "unresolved-boundary-setup"
        | none => (namedMechanism backend).getD "unresolved-sealed-setup") =
        (namedMechanism backend).getD (launchMechanism platform) := by
  obtain ⟨hempty, hsealed, hboundary⟩ := launchMechanism_ne platform
  unfold MechanismAgrees
  cases hf : e.boundarySetupFailure with
  | none =>
    cases hn : namedMechanism backend with
    | none => simp [hsealed.symm]
    | some mechanism => simp
  | some failure =>
    cases hm : failure.mechanism with
    | some mechanism => simp [hm]
    | none =>
      simp only [hm, Option.bind_some, Option.none_or]
      cases backend with
      | none => simp [namedMechanism, hboundary.symm]
      | some b =>
        by_cases hb : b.boundary.mechanism = ""
        · simp [namedMechanism, Option.filter_some, hb, hempty.symm]
        · simp [namedMechanism, Option.filter_some, hb]

/-- What is asked of the evidence that is derived from an error. -/
def DerivedEvidenceFits (platform : Platform) (requested : BoundaryRequirement)
    (backend : Option BackendCapabilityReport) (class_ : BoundaryClass) (e : Error) : Prop :=
  boundaryEvidenceIsConsistent (launchFromError platform e requested backend) (proofFromError e)
      (boundaryFailureDetail e requested backend) = true ∧
    ObligationsKept class_ (launchFromError platform e requested backend) (proofFromError e)

variable {class_ : BoundaryClass}

/-- Under a standard boundary the derived evidence fits unless the error carries sealed evidence. -/
theorem derivedEvidenceFits_standard : DerivedEvidenceFits platform .standard backend class_ e ↔
      EvidenceAgrees platform .standard backend class_ e := by
  unfold DerivedEvidenceFits EvidenceAgrees
  constructor
  · rintro ⟨hconsistent, -⟩
    unfold boundaryFailureDetail at hconsistent
    cases hf : e.boundarySetupFailure with
    | some failure => simp [hf, boundaryEvidenceIsConsistent, launchFromError] at hconsistent
    | none =>
      simp only [hf, boundaryEvidenceIsConsistent, Bool.and_eq_true, bne_iff_ne,
        Bool.not_eq_true', proofFromError_retired] at hconsistent
      obtain ⟨⟨⟨⟨hname, -⟩, -⟩, -⟩, hretired⟩ := hconsistent
      refine ⟨rfl, ?_, hretired⟩
      rintro b rfl
      exact hname
  · rintro ⟨hf, hname, hretired⟩
    refine ⟨?_, by simp [launchFromError], by simp [launchFromError], by simp [launchFromError]⟩
    have hnamed : (backend.map (·.name)).getD "setup-failed-before-selection" ≠ "" := by
      cases backend with
      | none => simp
      | some b => exact hname b rfl
    unfold boundaryFailureDetail
    simp [hf, boundaryEvidenceIsConsistent, launchFromError, hnamed, getD_namedMechanism_ne,
      proofFromError_retired, hretired]

/-- A sealed error without a Windows execution is a setup failure. -/
theorem derivedEvidenceFits_setup (hw : windowsFailedExecutionDetail e = none) :
    DerivedEvidenceFits platform .sealed backend class_ e ↔
    EvidenceAgrees platform .sealed backend class_ e := by
  have hdetail : boundaryFailureDetail e .sealed backend = .setupFailure
      (match e.boundarySetupFailure with
        | some failure => (failure.mechanism.or (backend.map (·.boundary.mechanism))).getD
            "unresolved-boundary-setup"
        | none => (namedMechanism backend).getD "unresolved-sealed-setup") .sealed := by
    unfold boundaryFailureDetail
    rw [hw]
    cases e.boundarySetupFailure <;> rfl
  unfold DerivedEvidenceFits EvidenceAgrees
  rw [hw, hdetail, mechanismAgrees_iff, ← proofFromError_isSafe, ← proofFromError_retired]
  simp only [launchFromError, hw, boundaryEvidenceIsConsistent, RestartSafetyProof.isSafeFor_sealed,
    Bool.and_eq_true,
    bne_iff_ne, beq_iff_eq, beq_self_eq_true, Bool.true_and, Bool.and_true, if_true]
  constructor
  · rintro ⟨⟨⟨⟨-, hmechanism⟩, hretired⟩, hreleased⟩, hkept⟩
    refine ⟨hmechanism.symm, ?_, fun hrel => ?_⟩
    · have hsafe := hkept.retired rfl
      cases hp : (proofFromError e).isSafe <;> cases hq :
        (proofFromError e).sealedBoundaryRetired <;> simp [hp, hq] at hretired hsafe ⊢
    · simp only [hrel, if_true, Bool.and_eq_true, beq_self_eq_true, true_and] at hreleased
      exact ⟨(hkept.released hrel rfl).1, hreleased.1.1.1.1.1, hreleased.1.1.1.1.2⟩
  · rintro ⟨hmechanism, hproof, hreleased⟩
    refine ⟨⟨⟨⟨?_, hmechanism.symm⟩, ?_⟩, ?_⟩, ?_, fun hrel _ => ?_, fun _ hsafe => ?_⟩
    · rw [hmechanism]
      exact getD_namedMechanism_ne
    · rw [hproof]
      cases (proofFromError e).sealedBoundaryRetired <;> rfl
    · cases hrel : e.targetReleased with
      | false => rfl
      | true =>
        obtain ⟨-, hcgroup, hguardian⟩ := hreleased hrel
        simp [hcgroup, hguardian]
    · intro heffective
      cases hrel : e.targetReleased with
      | false => simp [hrel] at heffective
      | true => exact (hreleased hrel).1
    · obtain ⟨hclass, hcgroup, hguardian⟩ := hreleased hrel
      simp only at hrel
      simp [hclass, hcgroup, hguardian, hrel]
    · rw [← hproof]
      exact hsafe

variable {native : WindowsSealedEvidenceV2}

theorem windowsFailedExecutionDetail_released (h : windowsFailedExecutionDetail e = some native) :
    e.targetReleased = true := by
  unfold windowsFailedExecutionDetail at h
  split at h
  · split_ifs at h
    split at h
    · split_ifs at h with hagrees
      exact hagrees.2.1
    · cases h
  · cases h

/-- The native facts of a consistent Windows execution are all there. -/
theorem launchFromError_windows (hw : windowsFailedExecutionDetail e = some native)
    (hn : native.isConsistent true = true) :
    launchFromError platform e .sealed backend =
      { mechanism := "windows-job-object-v2"
        targetReleased := true
        containmentVerifiedBeforeAuthorization := true
        guardianStartedBeforeAuthorization := true
        targetSpawnErrorReported := true
        boundaryRequested := .sealed
        boundaryEffective := .sealed
        boundaryAssignmentVerified := true
        boundaryReconfigurationDenied := true
        inheritedResourcesRestricted := true
        frontendLossCleanupAuthorityVerified := true } := by
  simp only [WindowsSealedEvidenceV2.isConsistent, Bool.and_eq_true, beq_iff_eq] at hn
  simp [launchFromError, hw, hn]

theorem derivedEvidenceFits_windows (hw : windowsFailedExecutionDetail e = some native) :
    DerivedEvidenceFits platform .sealed backend class_ e ↔
    EvidenceAgrees platform .sealed backend class_ e := by
  have hdetail : boundaryFailureDetail e .sealed backend = .windowsJobObjectV2 native := by
    unfold boundaryFailureDetail
    rw [hw]
  unfold DerivedEvidenceFits EvidenceAgrees
  rw [hw, hdetail]
  simp only [boundaryEvidenceIsConsistent, Bool.and_eq_true, ← proofFromError_isSafeFor_sealed]
  constructor
  · rintro ⟨⟨⟨hgeneric, -⟩, hnative⟩, hkept⟩
    have hsafe := sealedGeneric_isSafeFor hgeneric
    simp only [sealedGenericEvidenceIsConsistent, Bool.and_eq_true, beq_iff_eq] at hgeneric
    rw [hgeneric.1.1.1.1.1.1.1.1.2] at hnative
    exact ⟨hkept.effective hgeneric.1.1.1.1.1.1.1.1.1.2, hnative, hsafe⟩
  · rintro ⟨hclass, hnative, hsafe⟩
    rw [launchFromError_windows hw hnative]
    have hretired : (proofFromError e).sealedBoundaryRetired = true := by
      rw [RestartSafetyProof.isSafeFor_sealed, Bool.and_eq_true] at hsafe
      exact hsafe.2
    refine ⟨⟨⟨?_, rfl⟩, hnative⟩, fun _ => hclass, fun _ _ => ⟨hclass, rfl, rfl, rfl, rfl, rfl⟩,
      fun _ _ => hretired⟩
    simp [sealedGenericEvidenceIsConsistent, hsafe]

/-- **Boundary evidence.** The evidence that is derived from an error passes the validator and keeps
the sealed obligations exactly when the evidence of the error agrees with the backend. -/
theorem derivedEvidenceFits_iff {requested : BoundaryRequirement} :
    DerivedEvidenceFits platform requested backend class_ e ↔
    EvidenceAgrees platform requested backend class_ e := by
  cases requested with
  | standard => exact derivedEvidenceFits_standard
  | sealed =>
    cases hw : windowsFailedExecutionDetail e with
    | none => exact derivedEvidenceFits_setup hw
    | some native => exact derivedEvidenceFits_windows hw

/-! ## The record -/

section Record

variable {number : ℕ}

/-- The derived launch facts have the release of the error and what was verified before it, once the
evidence agrees. -/
theorem launchFromError_released {requested : BoundaryRequirement}
    (h : EvidenceAgrees platform requested backend class_ e) :
    (launchFromError platform e requested backend).targetReleased = e.targetReleased ∧
      ((launchFromError platform e requested backend).containmentVerifiedBeforeAuthorization &&
        (launchFromError platform e requested backend).guardianStartedBeforeAuthorization) =
        verifiedBeforeRelease requested e := by
  unfold verifiedBeforeRelease
  cases requested with
  | standard => simp [launchFromError]
  | sealed =>
    cases hw : windowsFailedExecutionDetail e with
    | none => simp [launchFromError, hw]
    | some native =>
      simp only [EvidenceAgrees, hw] at h
      rw [launchFromError_windows hw h.2.1]
      simp [windowsFailedExecutionDetail_released hw]

/-- The runtime evidence fits the record exactly when it agrees with the error. -/
theorem failedRecord_runtimeAgrees {runtime : RuntimeEvidenceV1} (hr : e.runtime = some runtime)
    (h : EvidenceAgrees r.platform r.policy.boundary s.backend class_ e) :
    (failedRecord r s t e number).runtimeAgrees runtime = true ↔
    RuntimeAgrees r.policy.boundary e runtime := by
  have hpid : (runtime.targetPid.map PNat.val == (failedRecord r s t e number).targetPid) = true ↔
      ∀ pid, e.targetPid = some pid → runtime.targetPid.map PNat.val = some pid := by
    rw [beq_iff_eq]
    cases hp : e.targetPid with
    | none => simp [failedRecord, hp, hr]
    | some pid => simp [failedRecord, hp]
  obtain ⟨hreleased, hverified⟩ := launchFromError_released h
  have hfailing : (failedRecord r s t e number).failingStatus = true := rfl
  unfold AttemptRecord.runtimeAgrees RuntimeAgrees
  rw [hfailing]
  simp only [Bool.and_eq_true, Bool.or_true, and_true, hpid, and_assoc]
  simp only [failedRecord, hreleased, proofFromError_isSafe, Option.isSome_map, Option.isNone_map]
  cases runtime.release with
  | issued at_ exec => simp only [← hverified, Bool.and_eq_true, and_true, and_assoc]
  | notIssued => simp
  | unknown => simp [and_assoc]

/-- The offsets of the record are in order when the authorization is not after the end. -/
theorem failedRecord_offsetsAgree (ht : t.attemptStarted ≤ t.finishedAt) :
    (failedRecord r s t e number).offsetsAgree = true ↔
        ∀ offset, e.authorizationOffset = some offset →
        millis (t.attemptStarted + offset) ≤ millis t.finishedAt := by
  have hstart : millis t.attemptStarted ≤ millis t.finishedAt := millis_mono ht
  unfold AttemptRecord.offsetsAgree failedRecord
  cases e.authorizationOffset with
  | none => simp [hstart]
  | some offset =>
    have hauth : millis t.attemptStarted ≤ millis (t.attemptStarted + offset) :=
      millis_mono (Nat.le_add_right _ _)
    simp [hstart, hauth]

theorem failedRecord_shapeAgrees (hn : 0 < number) :
    (failedRecord r s t e number).shapeAgrees = true := by
  simp [AttemptRecord.shapeAgrees, failedRecord, errorRecord, hn]

theorem failedRecord_enforcement :
    (failedRecord r s t e number).policyEnforcement.isConsistent = true ↔
      ∀ p, e.policyEnforcement = some p → p.isConsistent = true := by
  unfold failedRecord
  cases e.policyEnforcement with
  | some p => simp
  | none => cases r.policy.hasWorkloadContract <;> simp [RuntimePolicyEnforcement.isConsistent]

theorem failedRecord_targetPid :
    (failedRecord r s t e number).targetPid.all (fun pid => decide (0 < pid)) = true ↔
      e.targetPid ≠ some 0 := by
  unfold failedRecord
  cases e.targetPid with
  | some pid => simp [Nat.pos_iff_ne_zero]
  | none =>
    cases e.runtime with
    | none => simp
    | some runtime =>
      cases hp : runtime.targetPid with
      | none | some pid => simp [hp]

/-- **Keeping the record.** The constructor keeps the record of an error exactly when the facts of
the error agree with each other and with the selected backend. -/
theorem failedRecord_kept_iff (hn : 0 < number) (ht : t.attemptStarted ≤ t.finishedAt) :
    (failedRecord r s t e number).Kept s.reportedBackend.boundary.class_ ↔
    RecordAgrees r s t e := by
  have hoperational : (failedRecord r s t e number).operationalFailure.all
      (fun valid => valid && (failedRecord r s t e number).error.isSome) = true ↔
      e.operationalFailure ≠ some false := by
    unfold failedRecord
    cases e.operationalFailure with
    | none => simp
    | some valid => cases valid <;> simp
  have hruntime : EvidenceAgrees r.platform r.policy.boundary s.backend
      s.reportedBackend.boundary.class_ e →
      ((failedRecord r s t e number).runtime.all (failedRecord r s t e number).runtimeAgrees =
        true ↔
        ∀ runtime, e.runtime = some runtime → RuntimeAgrees r.policy.boundary e runtime) := by
    intro hevidence
    cases hr : e.runtime with
    | none => simp [failedRecord, hr]
    | some runtime =>
      have hsame : (failedRecord r s t e number).runtime = some runtime := hr
      rw [hsame, Option.all_some, failedRecord_runtimeAgrees hr hevidence]
      simp
  have hevidence : boundaryEvidenceIsConsistent (failedRecord r s t e number).launch
      (failedRecord r s t e number).restartSafety (failedRecord r s t e number).boundaryDetail =
        true ∧
      ObligationsKept s.reportedBackend.boundary.class_ (failedRecord r s t e number).launch
        (failedRecord r s t e number).restartSafety ↔ _ := derivedEvidenceFits_iff
  rw [AttemptRecord.kept_iff]
  unfold AttemptRecord.isConsistent
  simp only [Bool.and_eq_true, failedRecord_enforcement, failedRecord_targetPid, hoperational,
    failedRecord_shapeAgrees hn, failedRecord_offsetsAgree ht]
  constructor
  · rintro ⟨⟨⟨⟨⟨⟨⟨hop, henf⟩, hpid⟩, hrun⟩, -⟩, hoffsets⟩, hconsistent⟩, hkept⟩
    have hagrees := hevidence.1 ⟨hconsistent, hkept⟩
    exact ⟨hop, henf, hpid, (hruntime hagrees).1 hrun, hoffsets, hagrees⟩
  · intro h
    obtain ⟨hconsistent, hkept⟩ := hevidence.2 h.evidence
    exact ⟨⟨⟨⟨⟨⟨⟨h.diagnostics, h.enforcement⟩, h.pid⟩, (hruntime h.evidence).2 h.runtime⟩,
      trivial⟩, h.authorized⟩, hconsistent⟩, hkept⟩

/-! ## The origin of the error -/

theorem name_eq_spawn {category : ErrorCategory} : category.name = "spawn" ↔ category = .spawn := by
  cases category <;> decide

variable {kind : AttemptKind} {x : ProviderRejectionEvidence}

theorem errorRecord_spawnIsConsistent :
    (errorRecord e (some number) .attemptSetup kind).spawnIsConsistent x = true ↔
      SpawnRejected kind e x := by
  unfold SupervisionErrorRecord.spawnIsConsistent errorRecord
  rw [spawnRejected_iff]
  -- the record keeps the classification of the first attempt only
  by_cases hkind : kind = .initial
  · simp [hkind, name_eq_spawn, and_assoc, or_assoc]
  · simp [hkind, name_eq_spawn, and_assoc]

theorem errorRecord_providerRejection :
    (errorRecord e (some number) .attemptSetup kind).providerRejectionIsConsistent = true ↔
      ∀ x, e.providerRejection = some x → RejectionAgrees kind e x := by
  have hrejection :
    (errorRecord e (some number) .attemptSetup kind).providerRejection = e.providerRejection := rfl
  unfold SupervisionErrorRecord.providerRejectionIsConsistent
  rw [hrejection]
  cases e.providerRejection with
  | none => simp
  | some x =>
    have hwrapper : (errorRecord e (some number) .attemptSetup kind).wrapperIsConsistent x = true ↔
        e.code = "MCSEALED-PROVIDER-REJECTION" ∧
        e.launchPhase = some (boundarySetupPhaseName x.phase) := by
      simp [SupervisionErrorRecord.wrapperIsConsistent, errorRecord]
    simp only [Option.all_some, Bool.and_eq_true, Bool.or_eq_true, beq_iff_eq, hwrapper,
      errorRecord_spawnIsConsistent, Option.some.injEq, forall_eq', rejectionAgrees_iff, and_assoc]
    rfl

theorem errorRecord_initialSpawn :
    (errorRecord e (some number) .attemptSetup kind).initialSpawnIsConsistent = true ↔
      (kind = .initial → e.initialSpawnFailure.isSome = true →
        e.category = .spawn ∧ e.launchPhase = some "target-spawn-failed") := by
  unfold SupervisionErrorRecord.initialSpawnIsConsistent errorRecord
  by_cases hkind : kind = .initial
  · cases e.initialSpawnFailure with
    | none => simp
    | some failure => simp [hkind, name_eq_spawn]
  · simp [hkind]

/-- **Provenance.** The record of an error passes the check of its origin exactly when the origin of
the error agrees with the kind of the attempt. -/
theorem errorRecord_provenance_iff :
    (errorRecord e (some number) .attemptSetup kind).provenanceIsConsistent = true ↔
      ProvenanceAgrees kind e := by
  have hdrift : (errorRecord e (some number) .attemptSetup kind).backendDriftIsConsistent = true ↔
      e.code ≠ "MCBACKEND-SELECTION-DRIFT" := by
    simp [SupervisionErrorRecord.backendDriftIsConsistent, errorRecord]
  unfold SupervisionErrorRecord.provenanceIsConsistent
  simp only [Bool.and_eq_true, errorRecord_initialSpawn, errorRecord_providerRejection, hdrift,
    Option.all_eq_true, provenanceAgrees_iff, and_assoc]
  rfl

end Record

/-! ## The end of the run -/

/-- The candidate of a run that ends with a failed attempt. -/
def failedCandidate (s : LoopState) (t : Turn) (e : Error) (number targets : ℕ)
    (history : AttemptHistory) (aggregates : SupervisionAggregates) : Candidate where
  backend := s.reportedBackend
  terminal := .error (some number) (errorRecord e (some number) .attemptSetup s.kind)
  attempts := history
  aggregates := aggregates
  restart := s.summary
  deadline := none
  durationMs := millis t.endedAt
  targetsAuthorized := targets

/-- The execution ends with the error, and its latest record is the one of the attempt that returned
it. -/
structure ShowsFailure (r : Run) (s : LoopState) (t : Turn) (e : Error) (x : SupervisionExecution) :
    Prop where
  terminal : x.terminal = .error (some (s.history.total + 1))
    (errorRecord e (some (s.history.total + 1)) .attemptSetup s.kind)
  latest : x.attempts.records.getLast? = some (failedRecord r s t e (s.history.total + 1))

theorem step_failed (hdispatched : dispatches r s t = true) (hres : t.result = .error e) :
    step r s t = (match failedAttempt r s t e with
      | .error x => .done (.error x)
      | .ok ending => .done (conclude ending)) := by
  have hhead : ¬expiredAtHead r s t = true := by simpa [dispatches] using hdispatched
  unfold step turnResult
  rw [if_neg hhead, hres]
  cases hfailed : failedAttempt r s t e <;> simp [hfailed, bind, Except.bind, pure, Except.pure]

variable {records : List AttemptRecord}

theorem failedAttempt_recorded (hlog : RunLog r turns s records) (h : Recordable r s t e) :
    ∃ targets history aggregates, failedAttempt r s t e = .ok (.candidate
        (failedCandidate s t e (s.history.total + 1) targets history aggregates)) ∧
      authorizedAfter s e.targetReleased = .ok targets ∧
      HistoryOf history aggregates (records ++ [failedRecord r s t e (s.history.total + 1)]) := by
  have hnumber : nextNumber s = .ok (s.history.total + 1) := by
    unfold nextNumber
    rw [checkedAdd_of_lt h.room]
    rfl
  have htotal : s.targetsAuthorized = s.history.total := by
    rw [hlog.targets, hlog.history.total, hlog.length]
  have hfits : s.targetsAuthorized + e.targetReleased.toNat < u64Bound := by
    have hroom := h.room
    have hbit := Bool.toNat_le e.targetReleased
    omega
  have htargets :
      authorizedAfter s e.targetReleased = .ok (s.targetsAuthorized + e.targetReleased.toNat) := by
    unfold authorizedAfter
    rw [checkedAdd_of_lt hfits]
    rfl
  obtain ⟨history, aggregates, happ, hof⟩ : ∃ history aggregates,
      AttemptHistory.append s.history (failedRecord r s t e (s.history.total + 1)) s.aggregates =
        .ok (history, aggregates) ∧
      HistoryOf history aggregates (records ++ [failedRecord r s t e (s.history.total + 1)]) :=
    hlog.append hnumber rfl (.inr rfl)
  refine ⟨_, history, aggregates, ?_, htargets, hof⟩
  have hagree :
      ¬(e.targetReleased ≠ e.authorizationOffset.isSome ∧ recoveredWithoutClock e = false) := by
    rintro ⟨hne, hclock⟩
    rcases h.authorization with hsame | hrecovered
    · exact hne hsame
    · simp [hrecovered] at hclock
  unfold failedAttempt
  rw [if_neg (by simp [h.deadline, h.rejection]), hnumber, htargets]
  simp only [bind, Except.bind, if_neg hagree, happ, Except.mapError, pure, Except.pure]
  rfl

variable {aggregates : SupervisionAggregates} {history : AttemptHistory} {targets : ℕ}

/-- The terminal fits exactly when the origin of the error agrees with the attempt. -/
theorem failedCandidate_terminalFits (hlog : RunLog r turns s records)
    (H : HistoryOf history aggregates (records ++ [failedRecord r s t e (s.history.total + 1)])) :
    (failedCandidate s t e (s.history.total + 1) targets history aggregates).TerminalFits ↔
      ProvenanceAgrees s.kind e := by
  have htotal : s.history.total + 1 = history.total := by
    rw [H.total, List.length_append, List.length_singleton, hlog.history.total]
  have hlatest : history.records.getLast? = some (failedRecord r s t e (s.history.total + 1)) := by
    rw [H.latest, List.getLast?_concat]
  have hmatches : (failedCandidate s t e (s.history.total + 1) targets history
      aggregates).terminal.matchesLatest history.records.getLast? =
      (errorRecord e (some (s.history.total + 1)) .attemptSetup s.kind).provenanceIsConsistent := by
    rw [hlatest]
    simp [failedCandidate, SupervisionTerminal.matchesLatest, failedRecord, errorRecord]
  have hprovenance : (errorRecord e (some (s.history.total + 1)) .attemptSetup
      s.kind).provenanceIsConsistent = true ↔ ProvenanceAgrees s.kind e :=
        errorRecord_provenance_iff
  rw [← hprovenance, ← hmatches]
  refine ⟨fun h => h.latest, fun h => ⟨rfl, ?_, h, rfl⟩⟩
  rintro n ⟨⟩
  exact ⟨Nat.succ_ne_zero _, htotal⟩

/-- A release that the record confirms is not unknown to its runtime evidence. -/
theorem RecordAgrees.known (h : RecordAgrees r s t e) (number : ℕ)
    (hauth : (failedRecord r s t e number).isAuthorized = true) :
    (failedRecord r s t e number).authorizationUnknown = false := by
  have hreleased : e.targetReleased = true :=
    (launchFromError_released h.evidence).1.symm.trans hauth
  have hruntime : (failedRecord r s t e number).runtime = e.runtime := rfl
  unfold AttemptRecord.authorizationUnknown
  rw [hruntime]
  cases hr : e.runtime with
  | none => rfl
  | some runtime =>
    obtain ⟨-, -, hrelease⟩ := h.runtime runtime hr
    cases hrel : runtime.release with
    | issued at_ exec | notIssued => simp [hrel]
    | unknown => simp [hrel, hreleased] at hrelease

/-- **The record of a failed attempt.** The constructor accepts it exactly when the error
surfaces. -/
theorem failedCandidate_acceptable_iff
    (hlog : RunLog r turns s records) (hcount : LaunchCount r turns s)
    (hsound : ∀ t ∈ turns, t.Sound)
    (hturns : ∀ t ∈ turns, t.Presentable r) (ht : t.attemptStarted ≤ t.finishedAt)
    (htargets : authorizedAfter s e.targetReleased = .ok targets)
    (H : HistoryOf history aggregates (records ++ [failedRecord r s t e (s.history.total + 1)])) :
    (failedCandidate s t e (s.history.total + 1) targets history aggregates).Acceptable ↔
    Surfaces r s t e := by
  have hkept : (failedRecord r s t e (s.history.total + 1)).Kept s.reportedBackend.boundary.class_ ↔
      RecordAgrees r s t e := failedRecord_kept_iff (Nat.succ_pos _) ht
  have hfits :
      (failedCandidate s t e (s.history.total + 1) targets history aggregates).TerminalFits ↔
      ProvenanceAgrees s.kind e := failedCandidate_terminalFits hlog H
  by_cases hrecord : RecordAgrees r s t e
  · have hauth : (failedRecord r s t e (s.history.total + 1)).isAuthorized = e.targetReleased :=
      (launchFromError_released hrecord.evidence).1
    have hbackend : ∀ b, s.backend = some b → b.boundary = s.reportedBackend.boundary := by
      intro b hb
      simp [LoopState.reportedBackend, hb]
    rw [hlog.acceptable_iff hsound hturns H rfl (hrecord.known _) (hauth.symm ▸ htargets)
      hcount.summary_le hbackend, hfits]
    exact ⟨fun ⟨hboundary, _, hprovenance⟩ => ⟨hboundary, hrecord, hprovenance⟩,
      fun h => ⟨h.backend, hkept.2 h.record, h.provenance⟩⟩
  · -- the record is the latest one, so an accepted candidate would keep it
    refine ⟨fun h => absurd ?_ hrecord, fun h => absurd h.record hrecord⟩
    have hlast : failedRecord r s t e (s.history.total + 1) ∈ history.records := by
      refine List.mem_of_getLast? ?_
      rw [H.latest, List.getLast?_concat]
    exact hkept.1 ⟨H.validate_iff.1 h.history _ hlast, h.sealedProof _ hlast,
      fun hclass => h.sealedBackend hclass _ hlast⟩

/-- An execution that shows the error of an attempt comes from a recordable error. -/
theorem recordable_of_failedAttempt {ending : Ending} {x : SupervisionExecution}
    (h : failedAttempt r s t e = .ok ending) (hx : conclude ending = .execution x)
    (hshows : ShowsFailure r s t e x) : Recordable r s t e := by
  obtain ⟨c, rfl, rfl⟩ := conclude_execution hx
  have hterminal := hshows.terminal
  unfold failedAttempt at h
  split_ifs at h with hdeadline hagree
  · obtain ⟨evidence, -, h⟩ := bind_eq_ok.1 h
    obtain ⟨d, -, rfl⟩ := endOutsideAttempt_eq_candidate (Except.ok.inj h)
    cases hterminal
  · obtain ⟨number, -, h⟩ := bind_eq_ok.1 h
    cases h
  · obtain ⟨number, hn, -⟩ := bind_eq_ok.1 h
    rw [not_or] at hdeadline
    refine ⟨hdeadline.1, by simpa using hdeadline.2, (nextNumber_eq_ok hn).2, ?_⟩
    by_contra hnot
    rw [not_or, Bool.not_eq_true] at hnot
    exact hagree hnot

/-- The candidate of a recordable error shows it, and is accepted exactly when the error
surfaces. -/
theorem failedAttempt_candidate (hlog : RunLog r turns s records) (hcount : LaunchCount r turns s)
    (hsound : ∀ t ∈ turns, t.Sound) (hturns : ∀ t ∈ turns, t.Presentable r)
    (ht : t.attemptStarted ≤ t.finishedAt)
    (h : Recordable r s t e) : ∃ c, failedAttempt r s t e = .ok (.candidate c) ∧
      (c.Acceptable ↔ Surfaces r s t e) ∧ ShowsFailure r s t e (.ofCandidate c) := by
  obtain ⟨targets, history, aggregates, hbuilt, htargets, hof⟩ := failedAttempt_recorded hlog h
  refine ⟨_, hbuilt, failedCandidate_acceptable_iff hlog hcount hsound hturns ht htargets hof, rfl,
    ?_⟩
  change history.records.getLast? = _
  rw [hof.latest, List.getLast?_concat]

/-- **When the error of an attempt reaches the caller.** In every run of validated attempts with
ordered offsets whose earlier attempts are presentable, an attempt that returns an error ends the
run with an execution that shows it if and only if the error is recordable and surfaces. A
recordable error that does not surface is replaced by a model error. -/
theorem failure_surfaces_iff {observed : ℕ} (hstart : start r observed = .again s₀)
    (hreach : Loop.Reaches (step r) s₀ turns s) (hsound : ∀ t ∈ turns, t.Sound)
    (hturns : ∀ t ∈ turns, t.Presentable r) (ht : t.Ordered) (hdispatched : dispatches r s t = true)
    (hres : t.result = .error e) :
    ((∃ x, step r s t = .done (.execution x) ∧ ShowsFailure r s t e x) ↔ Recordable r s t e ∧
      Surfaces r s t e) ∧
      (Recordable r s t e → ¬Surfaces r s t e → ∃ x, step r s t = .done (.error x) ∧
        x.code = "MCRESTART-MODEL") := by
  obtain ⟨records, hlog⟩ := RunLog.of_reaches hstart hreach
  have hcount := LaunchCount.of_reaches hstart hreach
  have hstep := step_failed hdispatched hres
  have hcandidate (hrecordable : Recordable r s t e) :=
    failedAttempt_candidate hlog hcount hsound hturns (ht.observed.trans ht.observed_le_finished)
      hrecordable
  refine ⟨⟨?_, ?_⟩, fun hrecordable hnot => ?_⟩
  · rintro ⟨x, hdone, hshows⟩
    cases hfailed : failedAttempt r s t e with
    | error y => simp [hstep, hfailed] at hdone
    | ok ending =>
      have hx : conclude ending = .execution x := by simpa [hstep, hfailed] using hdone
      have hrecordable := recordable_of_failedAttempt hfailed hx hshows
      obtain ⟨c, hbuilt, haccepted, -⟩ := hcandidate hrecordable
      obtain rfl := Except.ok.inj (hfailed.symm.trans hbuilt)
      exact ⟨hrecordable, haccepted.1 (conclude_candidate.1 ⟨x, hx⟩)⟩
  · rintro ⟨hrecordable, hsurfaces⟩
    obtain ⟨c, hbuilt, haccepted, hshows⟩ := hcandidate hrecordable
    obtain ⟨x, hx⟩ := conclude_candidate.2 (haccepted.2 hsurfaces)
    obtain ⟨c', hc, rfl⟩ := conclude_execution hx
    obtain rfl := Ending.candidate.inj hc
    exact ⟨_, by simp only [hstep, hbuilt, hx], hshows⟩
  · obtain ⟨c, hbuilt, haccepted, -⟩ := hcandidate hrecordable
    obtain ⟨x, hx⟩ := conclude_refused fun hacceptable => hnot (haccepted.1 hacceptable)
    exact ⟨modelError x, by simp only [hstep, hbuilt, hx], rfl⟩

/-! ## Two restarts that fail -/

/-- The receipt of a sealed attempt whose exec failed, and that was retired. -/
def execFailed (failure : SealedLaunch.ExecFailureClass) (osCode : ℕ)
    (h : 0 < osCode ∧ osCode < 2 ^ 31 ∧ SealedClient.classifyTerminalExecError osCode = failure) :
    SealedClient.TerminalReceipt where
  childStatus := some 127
  policyRevoked := false
  execStatus := .failed failure osCode
  cgroupEmpty := true
  initReaped := true
  guardianReaped := true
  memoryLimitExceeded := false
  deadlineExceeded := false
  policyEnforcement := .legacyUnspecified
  spawnErrorReported := true
  targetPid := 42
  authorizationOffsetMillis := 5
  assignmentVerified := true
  namespacesVerified := true
  targetInitialCredentialsVerified := true
  initialProviderCapabilitiesAbsent := true
  targetNoNewPrivsMatched := true
  targetCapabilityBoundingSetMatched := true
  targetMountContextDerivedFromCaller := true
  boundaryIndependentOfCredentials := true
  descriptorsVerified := true
  writableAncestorCgroupDenied := true
  parentNamespaceHandlesDenied := true
  recursiveProviderRequestDenied := true
  guardianReady := true
  frontendLossAuthority := true
  cgroupKill := true
  boundaryRetired := true
  enforcement_consistent := rfl
  spawnError_reported := rfl
  revoked_iff := rfl
  exec_classified := by
    rintro _ _ ⟨⟩
    exact h
  revoked_retired := by
    rintro ⟨⟩

/-- The command is gone when the restart is launched. -/
def notFoundError : Error :=
  SealedClient.terminalSpawnError (execFailed .notFound 2 (by decide)) .notFound 2

/-- The provider is gone when the restart is launched. -/
def transportError : Error :=
  SealedClient.launchError sealedRun.policy true (.transport "connection refused")

/-- A restart that returns an error. -/
def failedTurn (e : Error) : Turn := { sealedTurn true (ofSecs 2) with result := .error e }

theorem failedTurn_ordered (e : Error) : (failedTurn e).Ordered := by
  obtain ⟨h₁, h₂, h₃, h₄, h₅, h₆, h₇, h₈, h₉⟩ := sealedTurn_ordered true (ofSecs 2)
  exact ⟨h₁, h₂, h₃, h₄, h₅, h₆, h₇, h₈, h₉⟩

/-- An exec failure of the first attempt is reported. That of a restart is lost: its record drops
the classification that its code needs. -/
theorem lost_restartSpawn : (∃ s₀, start { sealedRun with
          resolvedBackend := some (capabilitiesFor .linux sealedBackend .sealed) } 0 = .again s₀ ∧
        ∃ x, step { sealedRun with
            resolvedBackend := some (capabilitiesFor .linux sealedBackend .sealed) } s₀
          (failedTurn notFoundError) = .done (.execution x) ∧
          x.terminal =
            .error (some 1) (errorRecord notFoundError (some 1) .attemptSetup .initial)) ∧
      ∃ s₀ s, start sealedRun 0 = .again s₀ ∧
        Loop.Reaches (step sealedRun) s₀ [sealedTurn true 0] s ∧
        (sealedTurn true 0).Sound ∧ (sealedTurn true 0).Presentable sealedRun ∧
        (rejected (step sealedRun s (failedTurn notFoundError))).map
          (fun e => (e.code, e.message)) = some ("MCRESTART-MODEL",
            "supervision invariant failed: terminal matches latest attempt and provenance") := by
  refine ⟨⟨_, rfl, step_execution (by decide +kernel)⟩, ?_⟩
  obtain ⟨s₀, s, hstart, hreach, hlost⟩ :
      ∃ s₀ s, start sealedRun 0 = .again s₀ ∧
        Loop.Reaches (step sealedRun) s₀ [sealedTurn true 0] s ∧
        (rejected (step sealedRun s (failedTurn notFoundError))).map
          (fun e => (e.code, e.message)) =
          some ("MCRESTART-MODEL",
            "supervision invariant failed: terminal matches latest attempt and provenance") :=
    reaches_of_headAfter (by decide +kernel)
  exact ⟨s₀, s, hstart, hreach, sealedTurn_sound true 0, sealedTurn_presentable 0, hlost⟩

/-- An error of the transport on a restart surfaces. -/
theorem failure_surfaces_transport :
    ∃ s₀ s, start sealedRun 0 = .again s₀ ∧ Loop.Reaches (step sealedRun) s₀ [sealedTurn true 0] s ∧
      ∃ x, step sealedRun s (failedTurn transportError) = .done (.execution x) ∧
        ShowsFailure sealedRun s (failedTurn transportError) transportError x := by
  obtain ⟨s₀, s, hstart, hreach, hdispatched, hroom, hbackend⟩ :
      ∃ s₀ s, start sealedRun 0 = .again s₀ ∧
        Loop.Reaches (step sealedRun) s₀ [sealedTurn true 0] s ∧
        dispatches sealedRun s (failedTurn transportError) = true ∧
        s.history.total + 1 < u64Bound ∧
        s.backend = some (capabilitiesFor .linux sealedBackend .sealed) :=
    reaches_of_headAfter (by decide +kernel)
  have honly : ∀ t ∈ [sealedTurn true 0], t = sealedTurn true 0 := fun t => List.mem_singleton.1
  have hrecordable : Recordable sealedRun s (failedTurn transportError) transportError := by
    refine ⟨?_, rfl, hroom, .inl rfl⟩
    change "MCSEALED-PROVIDER-TRANSACTION" ≠ "MCSUPERVISION-DEADLINE-BEFORE-AUTHORIZATION"
    decide
  have hrecord : RecordAgrees sealedRun s (failedTurn transportError) transportError := by
    refine ⟨nofun, nofun, nofun, ?_, ?_, ?_⟩
    · rintro runtime ⟨⟩
    · rintro offset ⟨⟩
    · rw [hbackend]
      exact ⟨rfl, rfl, nofun⟩
  have hprovenance : ProvenanceAgrees s.kind transportError := by
    refine ⟨nofun, ?_, ?_, nofun⟩
    · rintro x ⟨⟩
    · change "MCSEALED-PROVIDER-TRANSACTION" ≠ "MCBACKEND-SELECTION-DRIFT"
      decide
  have hconsistent : s.reportedBackend.boundary.isConsistent = true := by
    simp only [LoopState.reportedBackend, hbackend]
    decide
  exact ⟨s₀, s, hstart, hreach, (failure_surfaces_iff hstart hreach
    (fun t ht => honly t ht ▸ sealedTurn_sound true 0)
    (fun t ht => honly t ht ▸ sealedTurn_presentable 0) (failedTurn_ordered _) hdispatched rfl).1.2
    ⟨hrecordable, hconsistent, hrecord, hprovenance⟩⟩

end MemCordon.Supervisor
