import MemCordon.Agent.DiagnosticScope
import MemCordon.Agent.Rejection
import MemCordon.Core.RecordAuthentication
import MemCordon.Foundations.Interaction

/-!
# The operations on an attempt record

The methods of `WindowsAttemptRecordV1` in `windows/record.rs` that change the record in memory and
hand it to its writer. Each is a script over the record and the diagnostics of the thread that owns
it; `store` is the only call it makes, and what the writer does with the record is left to the
handler the script is run with.

A method that fails halfway leaves what it had changed: the script keeps the record as it was at the
error.
-/

namespace MemCordon.WindowsAttempt

open WindowsRecord Workload CausalDiagnostics DiagnosticScope Fallible Counter

/-- An attempt record in memory, with the diagnostics of the thread that owns it. -/
structure Owner where
  record : Record
  scope : Local
  deriving DecidableEq

/-- A method of the record. -/
abbrev Edit (α : Type) : Type := Script Owner (Except String Unit) String α

def record : Edit Record := Script.inspect Owner.record

def edit (f : Record → Record) : Edit Unit := Script.modify fun o => { o with record := f o.record }

/-- End with an error on a condition. -/
def refuse (error : String) (bad : Prop) [Decidable bad] : Edit Unit :=
  Script.lift (reject error bad)

def store : Edit Unit := Script.demand

/-! ## States and checkpoints -/

def stateName : AttemptState → String
  | .boundaryCreated => "BoundaryCreated"
  | .guardianReady => "GuardianReady"
  | .targetCreatedSuspended => "TargetCreatedSuspended"
  | .authorized => "Authorized"
  | .terminating => "Terminating"
  | .empty => "Empty"

def advanceTerminalization (owner : TerminalizationOwner) (checkpoint : TerminalizationCheckpoint) :
    Edit Unit := do
  let r ← record
  let sequence ← Script.lift (okOr "terminalization sequence exhausted"
    (checkedAdd r.terminalization.sequence 1))
  edit fun r => { r with terminalization := { r.terminalization with sequence, owner, checkpoint } }

def transition (state : AttemptState) : Edit Unit := do
  let r ← record
  refuse s!"attempt state transition is invalid: {stateName r.state} -> {stateName state}"
    (transitionAllowed r.state state = false)
  edit fun r => { r with state }
  if state = .terminating ∧ r.terminalization.checkpoint = .executing then
    advanceTerminalization .launcherWorker .cleanupRequested

/-! ## Retained errors -/

def boundedNonemptyDetail (detail : String) (maxBytes : ℕ) (defaultDetail : String) : String :=
  let sanitized := String.ofList (detail.toList.map fun c => if c = '\x00' then '\ufffd' else c)
  let sanitized := if sanitized = "" then defaultDetail else sanitized
  if sanitized.utf8ByteSize ≤ maxBytes then sanitized
  else String.ofList (Rejection.takeBytes maxBytes sanitized.toList)

/-- `bounded_terminalization_error`. `observed` is the wall clock, in milliseconds. -/
def boundedTerminalizationError (stage : TerminalizationErrorStage) (errorCode detail : String)
    (nativeCode : Option ℤ) (observed : Option ℕ) : TerminalizationError where
  stage
  errorCode :=
    if errorCode ≠ "" ∧ errorCode.utf8ByteSize ≤ 128 ∧ errorCode.toList.all isCodeChar then
      errorCode
    else "MCSEALED-WINDOWS-TERMINALIZATION"
  detail := boundedNonemptyDetail detail (2 * 1024) "unspecified terminalization failure"
  nativeCode
  observedUnixMillis := observed

def stageEvent : TerminalizationErrorStage → FailureCategory × FailureOperation × FailureCode
  | .launchRelay => (.transport, .readControlFrame, .controlTransport)
  | .cleanupFinalize => (.cleanup, .closeFinalHandles, .unexpectedProviderFailure)
  | .receiptBuild => (.terminalization, .buildRejection, .terminalBinding)
  | .rejectionBuild => (.terminalization, .buildRejection, .terminalBinding)
  | .responseValidate => (.terminalization, .validateTerminalResponse, .terminalBinding)
  | .responseSerialize => (.terminalization, .serializeTerminalResponse, .terminalBinding)
  | .recordAuthenticate => (.persistence, .inspectRecoveryRecord, .recordAuthentication)
  | .atomicStore => (.persistence, .storeRecord, .recordIo)
  | .liveDelivery => (.transport, .deliverResponse, .controlTransport)
  | .terminalAck => (.transport, .acknowledgeTerminal, .controlTransport)
  | .outboxRetirement => (.terminalization, .retireOutbox, .recordIo)

def ownerOrigin : TerminalizationOwner → DiagnosticOrigin
  | .launcherWorker => .launcher
  | .controlService => .controlRelay
  | .startupRecovery => .startupRecovery
  | .guardianRecovery => .guardianRecovery

/-- The place that the next retained error will have. -/
def TerminalizationStatus.nextReference (s : TerminalizationStatus) :
    Option TerminalizationReference :=
  if s.lastError = none then some .firstError
  else if s.secondaryErrors.length < maxTerminalizationSecondaryErrors then
    some (.secondaryError (UInt8.ofNat s.secondaryErrors.length))
  else none

/-- The status with an error retained where there is room. -/
def TerminalizationStatus.retain (s : TerminalizationStatus) (error : TerminalizationError) :
    TerminalizationStatus :=
  if s.lastError = none then { s with lastError := some error }
  else if s.secondaryErrors.length < maxTerminalizationSecondaryErrors then
    { s with secondaryErrors := s.secondaryErrors ++ [error] }
  else s

/-- The event that `retain_terminalization_error` observes. -/
def retainedEvent (s : TerminalizationStatus) (error : TerminalizationError) : CausalEvent :=
  let (category, operation, code) := stageEvent error.stage
  { sequence := 0, origin := ownerOrigin s.owner, category, operation, code
    nativeCode := error.nativeCode.map fun code => .legacyUntyped (Int32.ofInt code)
    observedPhase := .terminalizing, safeDetail := .noAdditionalDetail, detailRedacted := true
    detailTruncated := false, terminalizationReference := TerminalizationStatus.nextReference s }

/-- The record and the thread's journal after `observe_record`. -/
def Owner.observe (o : Owner) (event : CausalEvent) : Owner :=
  let observed := observeRecord o.scope o.record.causalDiagnostics (.primary event)
  { record := { o.record with causalDiagnostics := observed.2 }, scope := observed.1 }

/-- `retain_terminalization_error`; whether there was room is not used. -/
def retainTerminalizationError (error : TerminalizationError) : Edit Unit := do
  let r ← record
  Script.modify (Owner.observe · (retainedEvent r.terminalization error))
  edit fun r => { r with terminalization := TerminalizationStatus.retain r.terminalization error }

def persistTerminalizationFailure (owner : TerminalizationOwner) (error : TerminalizationError)
    (primary : String) :
    Edit String := do
  let r ← record
  let checkpoint := if r.terminalResponseJson.isSome then
    TerminalizationCheckpoint.outboxStaged else .retainedFailure
  let outcome ← Script.attempt do
    advanceTerminalization owner checkpoint
    retainTerminalizationError error
    store
  match outcome with
  | .ok () => return primary
  | .error secondary =>
    return s!"{primary}; secondary authenticated terminalization diagnostic failure: {secondary}"

/-- `record_terminalization_failure`, on the record that was read. -/
def recordTerminalizationFailure (owner : TerminalizationOwner) (error : TerminalizationError) :
    Edit Unit := do
  let r ← record
  advanceTerminalization owner (if r.terminalResponseJson.isSome then .outboxStaged else
    .retainedFailure)
  retainTerminalizationError error
  store

/-- `record_terminalization_diagnostic`, on the record that was read. -/
def recordTerminalizationDiagnostic (error : TerminalizationError) : Edit Unit := do
  let r ← record
  if r.terminalization.lastError.isSome ∧
      maxTerminalizationSecondaryErrors ≤ r.terminalization.secondaryErrors.length then return
  let sequence ← Script.lift (okOr "terminalization sequence exhausted"
    (checkedAdd r.terminalization.sequence 1))
  edit fun r => { r with terminalization := { r.terminalization with sequence } }
  retainTerminalizationError error
  store

/-! ## Authorization and release -/

/-- `authorize`. `now` is the wall clock, in milliseconds. -/
def authorize (now : Except String ℕ) : Edit Unit := do
  let r ← record
  refuse "authorization requires an exact launcher worker thread identity"
    (r.workerThreadIdentity.any (fun identity => identity.threadId !=
      0 && identity.creationTime100ns != 0) = false)
  let manifest ← Script.lift (okOr "authorization requires a frozen capability owner manifest"
    r.ownerManifest)
  Script.lift manifest.validate
  transition .authorized
  let now ← Script.lift now
  refuse "authorization timestamp exceeds record range" (u64Bound ≤ now)
  edit fun r => { r with authorizationUnixMillis := some now }
  store

def markReleased : Edit Unit := do
  edit fun r => { r with targetReleased := true }
  store

def markResumeAttempted : Edit Unit := do
  edit fun r => { r with resumeAttempted := true }
  store

/-- `bind_workload_admission`. `checked` is the verdict on the snapshot itself. -/
def bindWorkloadAdmission (snapshot : List UInt8) (checked : Except String Unit) : Edit Unit := do
  let r ← record
  refuse "workload admission must be frozen exactly once before authorization"
    (r.authorizationUnixMillis.isSome = true ∨ r.resumeAttempted = true ∨
      r.workloadAdmission.isSome = true)
  Script.lift checked
  edit fun r => { r with workloadAdmission := some snapshot }
  store

/-- `bind_workload_checkpoint`. `bound` says that the checkpoint belongs to the admission and to
this attempt. -/
def bindWorkloadCheckpoint (checkpoint : List UInt8) (bound : Bool) : Edit Unit := do
  let r ← record
  refuse "workload checkpoint must bind the frozen attempt exactly once before authorization"
    (r.workloadAdmission = none ∨ bound = false ∨ r.workloadCheckpoint.isSome = true ∨
      r.authorizationUnixMillis.isSome = true ∨ r.resumeAttempted = true)
  edit fun r => { r with workloadCheckpoint := some checkpoint }
  store

/-! ## Dispositions -/

def cleanedUp : CleanupState := ⟨true, true, true, true⟩

/-- `prepare_cleanup_completion`. The disposition is set whatever it was. -/
def prepareCleanupCompletion (disposition : TerminalDisposition) : Edit Unit := do
  transition .empty
  edit fun r => { r with cleanupState := cleanedUp, terminalDisposition := some disposition }
  advanceTerminalization .launcherWorker .cleanupProofReady

def completeRetirement : Edit Unit := do
  prepareCleanupCompletion .posttarget
  edit fun r => { r with lifecycle := .retiring }
  store

def completePreauthorizationAbort : Edit Unit := do
  prepareCleanupCompletion .preauthorizationAbort
  store

/-- The end of `prepare_preauthorization_abort` and of `prepare_postauthorization_retirement`. -/
def terminateAs (disposition : TerminalDisposition) : Edit Unit := do
  let r ← record
  if r.state ≠ .terminating then transition .terminating
  edit fun r =>
    { r with cleanupState := { r.cleanupState with terminationRequested := true }
             terminalDisposition := some disposition }

/-- `begin_preauthorization_abort`, with `prepare_preauthorization_abort`. -/
def beginPreauthorizationAbort : Edit Unit := do
  let r ← record
  refuse "preauthorization abort cannot replace durable authorization intent"
    (r.authorizationUnixMillis.isSome = true ∨ r.resumeAttempted = true)
  refuse "preauthorization abort conflicts with posttarget terminal disposition"
    (r.terminalDisposition = some .posttarget)
  terminateAs .preauthorizationAbort
  store

/-- `begin_postauthorization_retirement`, with `prepare_postauthorization_retirement`. -/
def beginPostauthorizationRetirement : Edit Unit := do
  let r ← record
  refuse "postauthorization retirement requires durable authorization intent"
    (r.authorizationUnixMillis = none)
  refuse "pre-resume postauthorization retirement conflicts with target release intent"
    (r.resumeAttempted = true ∨ r.targetReleased = true)
  refuse "postauthorization retirement conflicts with preauthorization abort"
    (r.terminalDisposition = some .preauthorizationAbort)
  refuse s!"postauthorization retirement requires authorized state, observed {stateName r.state}"
    (r.state ≠ .authorized ∧ r.state ≠ .terminating)
  terminateAs .posttarget
  store

/-- `complete_rejection_cleanup`, with `prepare_rejection_cleanup_completion`. -/
def completeRejectionCleanup : Edit Unit := do
  let r ← record
  refuse ("MCSEALED-WINDOWS-REJECTION-CLEANUP: expected terminating record before final-handle " ++
    "proof, observed " ++ stateName r.state) (r.state ≠ .terminating)
  let intent := r.authorizationUnixMillis.isSome || r.resumeAttempted
  match r.terminalDisposition with
  | some .preauthorizationAbort =>
    refuse ("MCSEALED-WINDOWS-REJECTION-CLEANUP: preauthorization disposition conflicts with " ++
      "durable authorization intent") (intent = true)
    prepareCleanupCompletion .preauthorizationAbort
  | some .posttarget => prepareCleanupCompletion .posttarget
  | none =>
    refuse
      "MCSEALED-WINDOWS-REJECTION-CLEANUP: terminating record has no typed terminal disposition"
      (intent = false)
    prepareCleanupCompletion .posttarget
  store

/-! ## Seed, proof and response -/

section Terminal

variable [Sha256] [Wire]

def stageTerminalProof (receipt : TerminalReceipt) (primaryFailure : Option ProviderFailure) :
    Edit Unit := do
  let r ← record
  refuse "terminal proof cannot be staged outside exact retired attempt"
    (r.state ≠ .empty ∨ r.lifecycle ≠ .retiring ∨ r.ownerManifest = none ∨
      r.retirementProof.isSome = true ∨
      receipt.attemptId ≠ r.attemptId ∨ receipt.nonce ≠ r.nonce ∨
      receipt.requestSha256 ≠ r.requestSha256)
  Script.lift receipt.validateForAttempt
  let seed : TerminalSeed :=
    ⟨2, r.attemptId, r.nonce, r.requestSha256, receipt.processObservation, primaryFailure⟩
  refuse "terminal proof differs from the frozen seed" (r.terminalSeed.all (· == seed) = false)
  edit fun r =>
    { r with terminalSeed := some seed, retirementProof := some receipt.retirementProof,
             lifecycle := .proofReady }
  store

def freezeTerminalSeed (processObservation : ProcessObservation)
    (primaryFailure : Option ProviderFailure) :
    Edit Unit := do
  let r ← record
  refuse "terminal seed cannot be frozen outside retiring authority"
    (r.state ≠ .terminating ∨ r.authorizationUnixMillis = none ∨ r.ownerManifest = none ∨
      r.terminalSeed.isSome = true ∨
      r.retirementProof.isSome = true ∨ r.terminalResponseJson.isSome = true)
  Script.lift (processObservation.validate r.attemptId r.nonce r.requestSha256)
  edit fun r =>
    { r with
          terminalSeed :=
            some ⟨2, r.attemptId, r.nonce, r.requestSha256, processObservation, primaryFailure⟩ }
  store

/-- The response without the diagnostics that expire. -/
def LauncherResponse.authority : LauncherResponse → LauncherResponse
  | .reject schemaVersion attemptId nonce requestSha256 rejection =>
    .reject schemaVersion attemptId nonce requestSha256 { rejection with providerFailure := none }
  | response => response

/-- `terminal_authority_json` -/
def LauncherResponse.authorityJson (response : LauncherResponse) : Except String String :=
  let json := Wire.response (LauncherResponse.authority response)
  if json.utf8ByteSize + 1 ≤ maxTerminalFrameBytes then .ok json else
    .error "serialized JSON exceeds reserved capacity"

def prepareTerminalResponse (r : Record) (response : LauncherResponse) : Except String String := do
  reject "attempt is not ready for a create-once terminal outbox"
    (r.state ≠ .empty ∨ r.terminalResponseJson.isSome = true)
  reject "terminal outbox response is not bound and consistent for the attempt"
    (r.outboxIsBound response = false)
  let json ← LauncherResponse.authorityJson response
  if maxFrameBytes / 2 < json.utf8ByteSize then
    .error "terminal outbox response exceeds the bounded frame size"
  else .ok json

/-- The steps of `stage_terminal_response_with_store` after the response was prepared: the
checkpoint is stored first, then the response. `observed` is the wall clock at the failure that is
kept. -/
def stagePreparedResponse (json : String) (observed : Option ℕ) : Edit Unit := do
  advanceTerminalization .launcherWorker .outboxStaging
  match ← Script.attempt store with
  | .error primary =>
    let error ← persistTerminalizationFailure .launcherWorker
      (boundedTerminalizationError .atomicStore "MCSEALED-WINDOWS-TERMINAL-CHECKPOINT"
        s!"failed to persist the outbox-staging checkpoint: {primary}" none observed) primary
    Script.fail error
  | .ok () =>
    let lifecycle := (← record).lifecycle
    edit fun r => { r with terminalResponseJson := some json, lifecycle := .outboxStaged }
    advanceTerminalization .launcherWorker .outboxStaged
    match ← Script.attempt store with
    | .error primary =>
      edit fun r => { r with terminalResponseJson := none, lifecycle }
      let error ← persistTerminalizationFailure .launcherWorker
        (boundedTerminalizationError .atomicStore "MCSEALED-WINDOWS-TERMINAL-OUTBOX-STORE"
          s!"failed to publish the create-once terminal outbox: {primary}" none observed) primary
      Script.fail error
    | .ok () => return

def stageTerminalResponseWithStore (response : LauncherResponse) (observed : Option ℕ) :
    Edit Unit := do
  match prepareTerminalResponse (← record) response with
  | .error primary =>
    let error ← persistTerminalizationFailure .launcherWorker
      (boundedTerminalizationError .responseValidate "MCSEALED-WINDOWS-TERMINAL-RESPONSE" primary
        none observed) primary
    Script.fail error
  | .ok json => stagePreparedResponse json observed

/-- `stage_terminal_response`. `relayRetired` is the result of `retire_relay_retirement_event`. -/
def stageTerminalResponse (response : LauncherResponse) (observed : Option ℕ)
    (relayRetired : Except String Unit) :
    Edit Unit := do
  stageTerminalResponseWithStore response observed
  Script.lift relayRetired

end Terminal

/-- The first steps of `acknowledge_terminal_response`, on the record itself. -/
def commitAcknowledgement : Edit Unit := do
  let r ← record
  refuse "attempt has no durable terminal outbox to acknowledge" (r.terminalResponseJson = none)
  if r.lifecycle ≠ .ackCommitted then
    edit fun r => { r with lifecycle := .ackCommitted }
    store

end MemCordon.WindowsAttempt
