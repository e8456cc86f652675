import MemCordon.Core.WindowsRecord

/-!
# Authentication of attempt records

`authenticate_decoded_windows_attempt_record_v4` of `windows_sealed.rs` and the checks it is made
of: the bindings of the record, the order of its states, the owner manifest, the recovery
authorization, the terminal seed, the retirement proof, the staged response and the integrity
digest.

* `stateError` is the check of the states, and `StateOrdered` what a record without a state error
  has.
* `Authentic` is what an accepted record has, one field for every check.
* `authentic_causal_order_iff`: an accepted record is in causal order exactly when it does not join
  an authorization with the preauthorization disposition, which no check forbids.
-/

namespace MemCordon.WindowsRecord

open Workload CausalDiagnostics Fallible

/-! ## The order of states -/

namespace Record

/-- An abort before authorization that has requested termination. -/
def preauthorizationAbort (r : Record) : Bool :=
  !r.resumeAttempted && r.authorizationUnixMillis.isNone && r.terminalDisposition ==
    some .preauthorizationAbort &&
    (r.state == .terminating || r.state == .empty) && r.cleanupState.terminationRequested

/-- The state, or what was done in it, needs a guardian. -/
def guardianRequired (r : Record) : Bool :=
  r.state == .guardianReady || r.state == .targetCreatedSuspended || r.state == .authorized

/-- The state, or what was done in it, needs a target. -/
def targetRequired (r : Record) : Bool :=
  r.state == .targetCreatedSuspended || r.state == .authorized || r.resumeAttempted ||
    r.targetReleased

/-- The checkpoint of the terminalization comes after the boundary is empty. -/
def checkpointNeedsEmpty (r : Record) : Bool :=
  r.terminalization.checkpoint == .cleanupProofReady || r.terminalization.checkpoint ==
    .rejectionBuilding ||
    r.terminalization.checkpoint == .outboxStaging || r.terminalization.checkpoint ==
      .outboxStaged || r.terminalization.checkpoint == .ackRetiring

/-- `windows_durable_attempt_v4_state_error` -/
def stateError (r : Record) : Except String Unit := do
  reject "MCSEALED-WINDOWS-ATTEMPT-RECORD-AUTH: reason=lifecycle-guardian-missing"
    (r.guardianRequired = true ∧ r.guardianIdentity = none)
  reject "MCSEALED-WINDOWS-ATTEMPT-RECORD-AUTH: reason=lifecycle-target-missing"
    (r.targetRequired = true ∧ r.targetIdentity = none ∧ r.preauthorizationAbort = false)
  reject "MCSEALED-WINDOWS-ATTEMPT-RECORD-AUTH: reason=lifecycle-release-without-intent"
    (r.targetReleased = true ∧ r.resumeAttempted = false ∧ r.preauthorizationAbort = false)
  reject "MCSEALED-WINDOWS-ATTEMPT-RECORD-AUTH: reason=lifecycle-resume-without-authorization"
    (r.resumeAttempted = true ∧ r.authorizationUnixMillis = none)
  reject "MCSEALED-WINDOWS-ATTEMPT-RECORD-AUTH: reason=lifecycle-authorized-without-timestamp"
    (r.state = .authorized ∧ r.authorizationUnixMillis = none)
  reject "MCSEALED-WINDOWS-ATTEMPT-RECORD-AUTH: reason=lifecycle-authorization-before-state"
    (r.authorizationUnixMillis.isSome = true ∧ r.state ≠ .authorized ∧ r.state ≠ .terminating ∧
      r.state ≠ .empty)
  reject "MCSEALED-WINDOWS-ATTEMPT-RECORD-AUTH: reason=lifecycle-abort-before-termination"
    (r.terminalDisposition = some .preauthorizationAbort ∧ r.state ≠ .terminating ∧
      r.state ≠ .empty)
  reject "MCSEALED-WINDOWS-ATTEMPT-RECORD-AUTH: reason=lifecycle-final-handles-before-empty"
    (r.cleanupState.finalHandlesClosed = true ∧ ¬ (r.cleanupState.terminationRequested = true ∧
      r.cleanupState.activeProcessesZero = true ∧ r.cleanupState.guardianReaped = true ∧
      r.state = .empty))
  reject "MCSEALED-WINDOWS-ATTEMPT-RECORD-AUTH: reason=terminalization-status"
    (r.terminalization.isConsistent = false)
  reject "MCSEALED-WINDOWS-ATTEMPT-RECORD-AUTH: reason=terminalization-outbox-checkpoint"
    (r.terminalResponseJson.isSome ≠ (r.terminalization.checkpoint == .outboxStaged))
  reject "MCSEALED-WINDOWS-ATTEMPT-RECORD-AUTH: reason=terminalization-checkpoint-before-empty"
    (r.checkpointNeedsEmpty = true ∧ r.state ≠ .empty)
  reject "MCSEALED-WINDOWS-ATTEMPT-RECORD-AUTH: reason=terminal-outbox-before-empty"
    (r.terminalResponseJson.isSome = true ∧ (r.state ≠ .empty ∨ r.terminalDisposition = none))

/-- What a record without a state error has. -/
@[mk_iff]
structure StateOrdered (r : Record) : Prop where
  guardian : r.guardianRequired = true → r.guardianIdentity ≠ none
  target : r.targetRequired = true → r.targetIdentity ≠ none ∨ r.preauthorizationAbort = true
  release : r.targetReleased = true → r.resumeAttempted = true ∨ r.preauthorizationAbort = true
  resume : r.resumeAttempted = true → r.authorizationUnixMillis ≠ none
  timestamp : r.state = .authorized → r.authorizationUnixMillis ≠ none
  authorization : r.authorizationUnixMillis.isSome = true → r.state = .authorized ∨
    r.state = .terminating ∨ r.state = .empty
  abort : r.terminalDisposition = some .preauthorizationAbort → r.state = .terminating ∨
    r.state = .empty
  finalHandles : r.cleanupState.finalHandlesClosed = true →
    r.cleanupState.terminationRequested = true ∧
    r.cleanupState.activeProcessesZero = true ∧ r.cleanupState.guardianReaped = true ∧
    r.state = .empty
  terminalization : r.terminalization.isConsistent = true
  outbox : r.terminalResponseJson.isSome = (r.terminalization.checkpoint == .outboxStaged)
  checkpoint : r.checkpointNeedsEmpty = true → r.state = .empty
  staged : r.terminalResponseJson.isSome = true → r.state = .empty ∧ r.terminalDisposition ≠ none

theorem stateError_eq_ok {r : Record} : r.stateError = .ok () ↔ r.StateOrdered := by
  unfold stateError
  simp only [unit_bind_eq_ok, reject_eq_ok, stateOrdered_iff]
  -- the conditions are those of the checks, one by one
  repeat refine and_congr (by grind) ?_
  grind

end Record

/-! ## The authenticator -/

/-- The values that the record, its manifest, its seed, its proof and its response are bound to each
other by. -/
def Record.bindingsValid (r : Record) (attemptId providerGeneration : String) : Bool :=
  r.schemaVersion == 4 && r.attemptId == attemptId && r.providerGeneration == providerGeneration &&
    sha256TextIsValid r.attemptId && sha256TextIsValid r.requestSha256 &&
      sha256TextIsValid r.jobIdentitySha256 &&
    sha256TextIsValid r.callerTokenSha256 && sha256TextIsValid r.providerIncarnation &&
      r.bootIdentity != "" &&
    r.launchIncarnation != "" && r.nonce != "" && r.recordRevision !=
      0 && r.callerProcessIdentity.isValid &&
    r.guardianIdentity.all ProcessIdentity.isValid &&
      r.workerIdentity.all ProcessIdentity.isValid &&
    r.targetIdentity.all ProcessIdentity.isValid && r.causalDiagnostics.isConsistent &&
    r.diagnosticRetention.isConsistent

/-- The release of a target that was aborted before any authorization. -/
def Record.preauthorizationAbortRelease (r : Record) : Bool :=
  r.targetReleased && r.authorizationUnixMillis.isNone && !r.resumeAttempted &&
    r.terminalDisposition == some .preauthorizationAbort

/-- The record shows that the target was or may have been let go. -/
def Record.authorizedIntent (r : Record) : Bool :=
  r.authorizationUnixMillis.isSome || r.resumeAttempted ||
    (r.targetReleased && !r.preauthorizationAbortRelease)

section Authentication

variable [Sha256] [Wire]

def Record.manifestBound (r : Record) (m : OwnerManifest) : Bool :=
  m.validate.isOk && m.attemptId == r.attemptId && m.providerGeneration == r.providerGeneration &&
    m.launchIncarnation == r.launchIncarnation

def Record.seedBound (r : Record) (seed : TerminalSeed) : Bool :=
  seed.schemaVersion == 2 && seed.attemptId == r.attemptId && seed.nonce == r.nonce &&
    seed.requestSha256 == r.requestSha256 &&
    (seed.processObservation.validate r.attemptId r.nonce r.requestSha256).isOk &&
    seed.primaryFailure.all ProviderFailure.isConsistent

def Record.proofBound (r : Record) (proof : RetirementProof) : Bool :=
  proof.schemaVersion == 2 && proof.attemptId == r.attemptId && proof.nonce == r.nonce &&
    proof.requestSha256 == r.requestSha256 && proof.providerGeneration == r.providerGeneration &&
    proof.launchIncarnation == r.launchIncarnation && proof.originalBootId == r.bootIdentity &&
    proof.jobIdentity == r.jobIdentitySha256 &&
    (r.ownerManifest.any fun m => isOkAnd m.canonicalSha256 fun digest =>
      digest == proof.ownerManifestSha256)

/-- The seed and the proof that the lifecycle asks for. -/
def Record.proofCheckpointValid (r : Record) : Bool :=
  let hasCompleteProof := r.terminalSeed.isSome && r.retirementProof.isSome
  match r.lifecycle with
  | .proofReady => hasCompleteProof
  | .outboxStaged | .ackCommitted | .retirementComplete =>
    if r.terminalDisposition = some .preauthorizationAbort then
      r.terminalSeed.isNone && r.retirementProof.isNone
    else hasCompleteProof
  | _ => true

/-- The lifecycle says that a response was staged. -/
def TerminalLifecycle.needsOutbox (l : TerminalLifecycle) : Bool :=
  l == .outboxStaged || l == .ackCommitted || l == .retirementComplete

def Record.receiptBound (r : Record) (receipt : TerminalReceipt) : Bool :=
  receipt.attemptId == r.attemptId && receipt.nonce == r.nonce && receipt.requestSha256 ==
    r.requestSha256 &&
    r.retirementProof == some receipt.retirementProof && receipt.validateForAttempt.isOk

/-- `windows_terminal_outbox_is_bound_v3` -/
def Record.outboxIsBound (r : Record) : LauncherResponse → Bool
  | .terminal receipt => r.terminalDisposition == some .posttarget && r.receiptBound receipt
  | .reject _ attemptId nonce requestSha256 rejection =>
    attemptId == r.attemptId && nonce == r.nonce && requestSha256 ==
      r.requestSha256 && rejection.isConsistent &&
      match r.terminalDisposition, rejection.disposition with
      | some .preauthorizationAbort, .preauthorization _ => true
      | some .posttarget, .postauthorizationFailure receipt => r.receiptBound receipt
      | _, _ => false
  | .other _ => false

/-- The check of the staged response. -/
def Record.checkOutbox (r : Record) : Except String Unit :=
  match r.terminalResponseJson with
  | none => .ok ()
  | some json => do
    let response
      ← okOr "MCSEALED-WINDOWS-ATTEMPT-RECORD-AUTH: reason=outbox-json" (Wire.decodeResponse json)
    reject "MCSEALED-WINDOWS-ATTEMPT-RECORD-AUTH: reason=outbox-binding"
      (r.outboxIsBound response = false)

/-- The text that the integrity digest is made of: the record without the digest. -/
def Record.canonicalBytes (r : Record) : Except String (List UInt8) :=
  (okOr "MCSEALED-WINDOWS-ATTEMPT-RECORD-AUTH: reason=canonicalization-failed"
    (boundedJson (Wire.record { r with integritySha256 := "" }) maxFrameBytes)).map List.dropLast

def Record.checkIntegrity (r : Record) : Except String Unit := do
  let canonical ← r.canonicalBytes
  reject "MCSEALED-WINDOWS-ATTEMPT-RECORD-AUTH: reason=integrity-digest"
    (r.integritySha256 ≠ sha256Text canonical)

/-- `authenticate_decoded_windows_attempt_record_v4` -/
def Record.authenticate (r : Record) (attemptId providerGeneration : String) :
    Except String Unit := do
  reject "MCSEALED-WINDOWS-ATTEMPT-RECORD-AUTH: reason=v4-binding"
    (r.bindingsValid attemptId providerGeneration = false)
  r.stateError
  reject "MCSEALED-WINDOWS-ATTEMPT-RECORD-AUTH: reason=owner-manifest"
    (r.ownerManifest.all r.manifestBound = false)
  reject "MCSEALED-WINDOWS-ATTEMPT-RECORD-AUTH: reason=owner-manifest-absent"
    (r.authorizedIntent = true ∧ r.ownerManifest = none)
  reject "MCSEALED-WINDOWS-ATTEMPT-RECORD-AUTH: reason=recovery-authorization"
    (r.recoveryAuthorization.all RecoveryAuthorization.isConsistent = false)
  reject "MCSEALED-WINDOWS-ATTEMPT-RECORD-AUTH: reason=authorization-reservation"
    (r.authorizedIntent = true ∧
    (r.recoveryAuthorization = none ∨ r.terminalPublicationReserved = false ∨
      r.workerIdentity = none))
  reject "MCSEALED-WINDOWS-ATTEMPT-RECORD-AUTH: reason=terminal-seed"
    (r.terminalSeed.all r.seedBound = false)
  reject "MCSEALED-WINDOWS-ATTEMPT-RECORD-AUTH: reason=retirement-proof"
    (r.retirementProof.all r.proofBound = false)
  reject "MCSEALED-WINDOWS-ATTEMPT-RECORD-AUTH: reason=proof-checkpoint"
    (r.proofCheckpointValid = false)
  reject "MCSEALED-WINDOWS-ATTEMPT-RECORD-AUTH: reason=outbox-checkpoint"
    (r.lifecycle.needsOutbox = true ∧ r.terminalResponseJson = none)
  r.checkOutbox
  r.checkIntegrity

/-! ## What an accepted record has -/

/-- What an accepted record has, check by check. -/
@[mk_iff]
structure Record.Authentic (r : Record) (attemptId providerGeneration : String) : Prop where
  bindings : r.bindingsValid attemptId providerGeneration = true
  ordered : r.StateOrdered
  manifest : ∀ m ∈ r.ownerManifest, r.manifestBound m = true
  intent : r.authorizedIntent = true → r.ownerManifest ≠ none ∧ r.recoveryAuthorization ≠ none ∧
    r.terminalPublicationReserved = true ∧ r.workerIdentity ≠ none
  authorization : ∀ a ∈ r.recoveryAuthorization, a.isConsistent = true
  seed : ∀ seed ∈ r.terminalSeed, r.seedBound seed = true
  proof : ∀ proof ∈ r.retirementProof, r.proofBound proof = true
  proofCheckpoint : r.proofCheckpointValid = true
  outboxCheckpoint : r.lifecycle.needsOutbox = true → r.terminalResponseJson ≠ none
  outbox : ∀ json ∈ r.terminalResponseJson, ∃ response, Wire.decodeResponse json = some response ∧
    r.outboxIsBound response = true
  integrity : ∃ canonical, r.canonicalBytes = .ok canonical ∧
    r.integritySha256 = sha256Text canonical

variable {r : Record}

theorem Record.checkOutbox_eq_ok : r.checkOutbox = .ok () ↔
    ∀ json ∈ r.terminalResponseJson, ∃ response, Wire.decodeResponse json = some response ∧
      r.outboxIsBound response = true := by
  unfold checkOutbox
  cases r.terminalResponseJson with
  | none => simp
  | some json =>
    simp only [bind_eq_ok, okOr_eq_ok, reject_eq_ok, Bool.not_eq_false, Option.mem_some_iff,
      forall_eq']

theorem Record.checkIntegrity_eq_ok : r.checkIntegrity = .ok () ↔
    ∃ canonical, r.canonicalBytes = .ok canonical ∧ r.integritySha256 = sha256Text canonical := by
  unfold checkIntegrity
  simp only [bind_eq_ok, reject_eq_ok, not_not]

variable {attemptId providerGeneration : String}

/-- **What an accepted record has.** -/
theorem Record.authenticate_eq_ok :
    r.authenticate attemptId providerGeneration = .ok () ↔
    r.Authentic attemptId providerGeneration := by
  unfold authenticate
  simp only [unit_bind_eq_ok, reject_eq_ok, stateError_eq_ok, checkOutbox_eq_ok,
    checkIntegrity_eq_ok,
    Bool.not_eq_false, Option.all_eq_true, not_and, not_or, Record.authentic_iff, imp_and]
  -- the two checks of an intended authorization are one condition
  tauto

theorem Record.Authentic.ids (h : r.Authentic attemptId providerGeneration) :
    r.attemptId = attemptId ∧ r.providerGeneration = providerGeneration := by
  have hbindings := h.bindings
  simp only [bindingsValid, Bool.and_eq_true, beq_iff_eq] at hbindings
  grind

/-! ## Causal order -/

/-- The record shows durable authorization or the intent to resume the target. -/
def Record.authorizedOrResumed (r : Record) : Bool :=
  r.authorizationUnixMillis.isSome || r.resumeAttempted

/-- The response rejects an attempt as one that was not authorized. -/
def LauncherResponse.isPreauthorizationRejection : LauncherResponse → Bool
  | .reject _ _ _ _ rejection =>
    match rejection.disposition with
    | .preauthorization _ => true
    | _ => false
  | _ => false

/-- What the steps of an attempt rest on was recorded before them. -/
structure Record.CausalOrder (r : Record) : Prop where
  disposition : r.authorizedOrResumed = true → r.terminalDisposition ≠ some .preauthorizationAbort
  staged : r.authorizedOrResumed = true → ∀ json ∈ r.terminalResponseJson, ∀ response,
    Wire.decodeResponse json = some response → response.isPreauthorizationRejection = false
  resume : r.resumeAttempted = true → r.authorizationUnixMillis ≠ none
  authorization : r.authorizationUnixMillis ≠ none → r.ownerManifest ≠ none ∧
    r.recoveryAuthorization ≠ none ∧ r.terminalPublicationReserved = true ∧ r.workerIdentity ≠ none
  release : r.targetReleased = true → r.resumeAttempted = true ∨
    r.terminalDisposition = some .preauthorizationAbort ∧ r.authorizationUnixMillis = none ∧
    r.resumeAttempted = false

/-- A staged rejection before authorization belongs to that disposition. -/
theorem Record.outboxIsBound_preauthorization {response : LauncherResponse}
    (h : r.outboxIsBound response = true)
    (hresponse : response.isPreauthorizationRejection = true) :
    r.terminalDisposition = some .preauthorizationAbort := by
  cases response with
  | terminal receipt | other kind => cases hresponse
  | reject schemaVersion attemptId nonce requestSha256 rejection =>
    simp only [outboxIsBound, Bool.and_eq_true] at h
    obtain ⟨-, hmatch⟩ := h
    split at hmatch
    · assumption
    · rename_i hdisposition
      simp [LauncherResponse.isPreauthorizationRejection, hdisposition] at hresponse
    · cases hmatch

omit [Sha256] [Wire] in
theorem Record.preauthorizationAbort_eq_true (h : r.preauthorizationAbort = true) :
    r.terminalDisposition = some .preauthorizationAbort ∧ r.authorizationUnixMillis = none ∧
      r.resumeAttempted = false := by
  simp only [preauthorizationAbort, Bool.and_eq_true, Bool.not_eq_true', Option.isNone_iff_eq_none,
    beq_iff_eq] at h
  exact ⟨h.1.1.2, h.1.1.1.2, h.1.1.1.1⟩

/-- **An accepted record is in causal order exactly when it does not join an authorization with the
disposition of an abort before authorization.** The authenticator asks for the rest, and never
compares these two. -/
theorem Record.authentic_causal_order_iff (r : Record) (attemptId providerGeneration : String)
    (h : r.authenticate attemptId providerGeneration = .ok ()) :
    r.CausalOrder ↔ r.authorizationUnixMillis = none ∨
      r.terminalDisposition ≠ some .preauthorizationAbort := by
  have hauthentic := authenticate_eq_ok.1 h
  constructor
  · intro horder
    by_contra hcond
    rw [not_or, not_not] at hcond
    refine horder.disposition ?_ hcond.2
    rw [authorizedOrResumed, Option.isSome_iff_ne_none.2 hcond.1, Bool.true_or]
  · intro hcond
    have hdisposition : r.authorizedOrResumed = true →
        r.terminalDisposition ≠ some .preauthorizationAbort := by
      intro hintent
      refine hcond.resolve_left ?_
      rcases Bool.or_eq_true_iff.1 hintent with hsome | hresume
      · exact Option.isSome_iff_ne_none.1 hsome
      · exact hauthentic.ordered.resume hresume
    refine ⟨hdisposition, fun hintent json hjson response hresponse => ?_,
      hauthentic.ordered.resume, fun hsome => hauthentic.intent ?_, fun hreleased => ?_⟩
    · obtain ⟨response', hresponse', hbound⟩ := hauthentic.outbox json hjson
      cases hresponse.symm.trans hresponse'
      by_contra hrejection
      exact hdisposition hintent
        (outboxIsBound_preauthorization hbound (Bool.not_eq_false _ ▸ hrejection))
    · rw [authorizedIntent, Option.isSome_iff_ne_none.2 hsome, Bool.true_or, Bool.true_or]
    · exact (hauthentic.ordered.release hreleased).imp_right preauthorizationAbort_eq_true

end Authentication

/-! ## A record that joins both -/

namespace Sample

/-- A hash of zeros. -/
abbrev zeroSha : Sha256 := ⟨fun _ => List.Vector.replicate 32 0⟩

/-- The text of a digest of zeros. -/
def zeros : String := String.ofList (List.replicate 64 '0')

def rejection : ProviderRejection where
  schemaVersion := 2
  providerFailure := none
  code := "MCSEALED-WINDOWS-POLICY"
  phase := .authorization
  detail := "policy was refused"
  osCode := none
  loaderQualificationConsistent := none
  targetCreated := false
  targetReleased := false
  cleanupAttempted := true
  restartSafety := {}
  disposition := .preauthorization true

/-- An encoder that knows one response. -/
abbrev wire : Wire where
  manifest _ := []
  observation _ := []
  proof _ := []
  failure _ := []
  response _ := "rejected"
  record _ := []
  decodeResponse json :=
    if json = "rejected" then some (.reject 3 zeros "nonce" zeros rejection) else none

/-- A record after its first publication. -/
def created : Record where
  schemaVersion := 4
  attemptId := zeros
  providerGeneration := "generation"
  bootIdentity := "boot"
  launchIncarnation := "launch"
  nonce := "nonce"
  requestSha256 := zeros
  callerProcessIdentity := ⟨1, 1⟩
  callerTokenSha256 := zeros
  jobIdentitySha256 := zeros
  guardianIdentity := none
  workerIdentity := none
  workerThreadIdentity := none
  targetIdentity := none
  state := .boundaryCreated
  lifecycle := .executing
  authorizationUnixMillis := none
  resumeAttempted := false
  targetReleased := false
  cleanupState := {}
  ownerManifest := none
  recoveryAuthorization := none
  terminalPublicationReserved := false
  terminalSeed := none
  retirementProof := none
  terminalResponseJson := none
  terminalDisposition := none
  terminalization := ⟨1, .launcherWorker, 1, .executing, none, []⟩
  causalDiagnostics := {}
  diagnosticRetention := ⟨0, diagnosticPayloadRetentionMillis, none⟩
  workloadAdmission := none
  workloadCheckpoint := none
  recordRevision := 1
  providerIncarnation := zeros
  integritySha256 := zeros

/-- The owner manifest with every role present. -/
def manifest : OwnerManifest :=
  ⟨1, zeros, "generation", "launch",
    ⟨OwnerRole.all.map fun role => ⟨role, true, none, some zeros⟩, rfl⟩⟩

def authorization : RecoveryAuthorization :=
  ⟨1, "S-1-5-18", 1, zeros, ⟨"S-1-16-12288", false, false, none, false, none⟩⟩

def authorized : Record :=
  { created with
    guardianIdentity := some ⟨3, 1⟩, workerIdentity := some ⟨2, 1⟩, targetIdentity := some ⟨4, 1⟩
    state := .authorized, authorizationUnixMillis := some 1, ownerManifest := some manifest
    recoveryAuthorization := some authorization, terminalPublicationReserved := true }

/-- The record of an authorized attempt that was ended as one that was not. -/
def abortedAfterAuthorization : Record :=
  { authorized with
    state := .empty, lifecycle := .outboxStaged, terminalDisposition := some .preauthorizationAbort
    terminalResponseJson := some "rejected",
    terminalization := ⟨1, .launcherWorker, 5, .outboxStaged, none, []⟩ }

end Sample

open Sample in
/-- A fresh record and the record of an authorized attempt are in causal order. -/
theorem Record.authentic_causal_order_authorized :
    @Record.CausalOrder wire created ∧
      @Record.authenticate zeroSha wire authorized zeros "generation" = .ok () ∧
      authorized.authorizationUnixMillis = some 1 ∧ @Record.CausalOrder wire authorized := by
  let := zeroSha
  let := wire
  have hauthorized : authorized.authenticate zeros "generation" = .ok () := by decide +kernel
  refine ⟨?_, hauthorized, rfl, ?_⟩
  · exact (authentic_causal_order_iff created zeros "generation" (by decide +kernel)).2 (.inl rfl)
  · exact (authentic_causal_order_iff authorized zeros "generation" hauthorized).2 (.inr nofun)

open Sample in
/-- The record is accepted with an authorization, the disposition of an abort before it, and a
staged rejection that says so. -/
theorem Record.authorized_preauthorization_accepted :
    @Record.authenticate zeroSha wire abortedAfterAuthorization zeros "generation" = .ok () ∧
      abortedAfterAuthorization.authorizationUnixMillis = some 1 ∧
      abortedAfterAuthorization.terminalDisposition = some .preauthorizationAbort ∧
      (wire.decodeResponse "rejected").map LauncherResponse.isPreauthorizationRejection =
        some true ∧ abortedAfterAuthorization.terminalResponseJson = some "rejected" := by
  refine ⟨?_, rfl, rfl, rfl, rfl⟩
  decide +kernel

end MemCordon.WindowsRecord
