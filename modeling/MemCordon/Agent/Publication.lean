import MemCordon.Agent.RecoveredClosure
import MemCordon.Foundations.Storage

/-!
# Publication of attempt records

`publish_at` of `windows/record.rs` and the writer lanes of `windows/attempt_store.rs`: a record is
published only when the comparison with the record before it passes, and a writer that failed once
publishes nothing more.

What the store and the writer's thread do is an input, a `Turn` for each publication: the lane or
the queue may refuse, an operation on the file may fail before or after the rename, the result may
come too late.

What a later record keeps of an earlier one is the subject of `PublicationLaw`.
-/

namespace MemCordon.WindowsAttempt

open WindowsRecord Workload CausalDiagnostics DiagnosticScope Fallible Counter

/-! ## The comparison with the record before -/

/-- What `diagnostic_export_eligible` reads: the boot, and the monotonic clock in milliseconds. -/
structure Moment where
  bootIdentity : Option String
  monotonicMillis : ℕ

/-- `DiagnosticRetentionV1::export_eligible` -/
def DiagnosticRetention.exportEligible (d : DiagnosticRetention) (sameBoot : Bool)
    (now : ℕ) : Bool :=
  d.isConsistent && d.tombstone.isNone && sameBoot && decide (d.admittedMonotonicMillis ≤ now) &&
    decide (now < d.expiresMonotonicMillis)

def diagnosticExportEligible (m : Moment) (r : Record) : Bool :=
  DiagnosticRetention.exportEligible r.diagnosticRetention (m.bootIdentity == some r.bootIdentity)
    m.monotonicMillis

/-- The new record drops the diagnostics of the previous one, which were kept for long enough. -/
def expires (m : Moment) (previous r : Record) : Bool :=
  previous.diagnosticRetention.tombstone.isNone && r.diagnosticRetention.tombstone ==
    some .retentionExpired &&
    !diagnosticExportEligible m previous && r.causalDiagnostics.sequence == 0 &&
    r.causalDiagnostics.secondary.items.isEmpty && r.causalDiagnostics.original ==
      .unavailable .retentionExpired

def keepsValue {α : Type} [DecidableEq α] (previous next : Option α) : Bool :=
  previous.all fun a => next == some a

/-- A flag that is set stays set. -/
def keepsFlag (previous next : Bool) : Bool := !previous || next

/-- The diagnostics that a record keeps of the previous one, unless they expire. -/
def keepsDiagnostics (previous r : Record) : Bool :=
  decide (previous.causalDiagnostics.secondary.items <+: r.causalDiagnostics.secondary.items) &&
    decide (previous.causalDiagnostics.sequence ≤ r.causalDiagnostics.sequence) &&
    (previous.causalDiagnostics.original.event?.isNone ||
      previous.causalDiagnostics.original == r.causalDiagnostics.original)

/-- The values that were there before the attempt started. -/
def keepsBindings (previous r : Record) : Bool :=
  previous.diagnosticRetention.admittedMonotonicMillis ==
    r.diagnosticRetention.admittedMonotonicMillis &&
    previous.diagnosticRetention.expiresMonotonicMillis ==
      r.diagnosticRetention.expiresMonotonicMillis &&
    previous.providerIncarnation == r.providerIncarnation && previous.launchIncarnation ==
      r.launchIncarnation &&
    previous.nonce == r.nonce && previous.requestSha256 == r.requestSha256 &&
    previous.callerProcessIdentity == r.callerProcessIdentity && previous.callerTokenSha256 ==
      r.callerTokenSha256 &&
    previous.jobIdentitySha256 == r.jobIdentitySha256 && previous.bootIdentity == r.bootIdentity

/-- The values that are set once. -/
def keepsValues (previous r : Record) : Bool :=
  keepsValue previous.workloadCheckpoint r.workloadCheckpoint &&
    (previous.authorizationUnixMillis.isNone || previous.workloadCheckpoint ==
      r.workloadCheckpoint) && keepsValue previous.workloadAdmission r.workloadAdmission &&
    (previous.authorizationUnixMillis.isNone || previous.workloadAdmission ==
      r.workloadAdmission) && keepsValue previous.ownerManifest r.ownerManifest &&
    keepsValue previous.recoveryAuthorization r.recoveryAuthorization &&
    keepsValue previous.terminalSeed r.terminalSeed && keepsValue previous.retirementProof
      r.retirementProof && keepsValue previous.workerIdentity r.workerIdentity &&
    keepsValue previous.workerThreadIdentity r.workerThreadIdentity &&
    keepsValue previous.authorizationUnixMillis r.authorizationUnixMillis &&
    keepsValue previous.terminalResponseJson r.terminalResponseJson

def keepsFlags (previous r : Record) : Bool :=
  keepsFlag previous.terminalPublicationReserved r.terminalPublicationReserved &&
    keepsFlag previous.resumeAttempted r.resumeAttempted && keepsFlag previous.targetReleased
      r.targetReleased &&
    keepsFlag previous.cleanupState.terminationRequested r.cleanupState.terminationRequested &&
    keepsFlag previous.cleanupState.activeProcessesZero r.cleanupState.activeProcessesZero &&
    keepsFlag previous.cleanupState.guardianReaped r.cleanupState.guardianReaped &&
    keepsFlag previous.cleanupState.finalHandlesClosed r.cleanupState.finalHandlesClosed

/-- The comparison of `publish_at`: the new record keeps the evidence of the previous one. -/
def mayReplace (m : Moment) (previous r : Record) (expectedRevision : ℕ) : Bool :=
  let expiry := expires m previous r
  previous.recordRevision == expectedRevision && keepsBindings previous r &&
    keepsValues previous r && keepsFlags previous r &&
    (previous.diagnosticRetention.tombstone == r.diagnosticRetention.tombstone || expiry) &&
    (expiry || keepsDiagnostics previous r) &&
    (previous.state == r.state || transitionAllowed previous.state r.state)

/-! ## What is published -/

/-- How the writer failed: an operation on a file, or a check. -/
inductive WriterFailure
  | io (error : String) (nativeCode : Option UInt32)
  | refused (error : String)
  deriving DecidableEq

namespace WriterFailure

def message : WriterFailure → String
  | io error _ => error
  | refused error => error

/-- The event that the writer's thread leaves for the owner of the record. -/
def event (failure : WriterFailure) : CausalEvent where
  sequence := 0
  origin := .recordWriter
  category := .persistence
  operation := .storeRecord
  code := match failure with
    | io _ _ => .recordIo
    | refused _ => .unexpectedProviderFailure
  nativeCode := match failure with
    | io _ nativeCode => nativeCode.map .win32
    | refused _ => none
  observedPhase := .terminalizing
  safeDetail := match failure with
    | io _ _ => .noAdditionalDetail
    | refused _ => .providerMessage .commitNotConfirmed
  detailRedacted := true
  detailTruncated := false
  terminalizationReference := none

end WriterFailure

section Publish

variable [Sha256] [Wire] [TextLength Record] (generation : String)

/-- The record with the watermark of its diagnostics and without a digest. -/
def unsealed (r : Record) : Record :=
  { r with
    causalDiagnostics :=
      { r.causalDiagnostics with durableThroughSequence := some r.causalDiagnostics.sequence }
    integritySha256 := "" }

/-- `authenticated_store_bytes`: the record with its digest, when it is accepted and its text
fits. -/
def authenticatedStore (r : Record) : Except String Record := do
  let canonical ← r.canonicalBytes
  let r := { r with integritySha256 := sha256Text canonical }
  (r.authenticate r.attemptId generation).mapError
    fun detail => s!"MCSEALED-WINDOWS-ATTEMPT-RECORD-STORE: phase=validate-before-publish {detail}"
  if TextLength.length r + 1 ≤ maxFrameBytes then .ok r else
    .error "serialized JSON exceeds reserved capacity"

/-- The first half of `publish_at`, in the words of the source: the record before it is read and
compared. -/
def checkPrevious (m : Moment) (previous : Option Record) (r : Record) (expectedRevision : ℕ) :
    Except WriterFailure Unit :=
  match previous with
  | some previous => do
    (previous.authenticate r.attemptId generation).mapError .refused
    reject (.refused "attempt snapshot violates exclusive revision or immutable evidence")
      (mayReplace m previous r expectedRevision = false)
  | none => reject (.io "record not found" (some 2)) (expectedRevision ≠ 0)

/-- The revision check of `publish_at`. -/
def checkRevision (r : Record) (expectedRevision : ℕ) : Except WriterFailure Unit :=
  match checkedAdd expectedRevision 1 with
  | none => .error (.refused "attempt revision exhausted")
  | some next => reject (.refused "attempt revision is not contiguous") (r.recordRevision ≠ next)

/-- `publish_at` up to the first operation on the staging file: the image that will be written. -/
def publishImage (m : Moment) (previous : Option Record) (r : Record) (expectedRevision : ℕ) :
    Except WriterFailure Record := do
  checkPrevious generation m previous r expectedRevision
  checkRevision r expectedRevision
  (authenticatedStore generation (unsealed r)).mapError .refused

end Publish

/-! ## The writer -/

/-- How the operations on the files went, and whether the owner saw the result in time. `renamed`
says that the image became the record although the result is an error or was not seen. -/
inductive WriterOutcome
  | confirmed
  | failed (failure : WriterFailure) (renamed : Bool)
  | unobserved (renamed : Bool)

/-- What the environment decides at one publication: the clock, the results of `lane` and of
`try_submit`, the writer's operations on the files, and whether the writer's event could be
taken. -/
structure Turn where
  moment : Moment
  (lane submission : Except String Unit)
  outcome : WriterOutcome
  eventTaken : Bool

/-- The published images of one attempt, the last one first, its lane, and the turns to come. -/
structure World where
  images : List Record
  quarantined : Bool
  turns : ℕ → Turn

namespace World

def turn (w : World) : Turn := w.turns 0

def next (w : World) : World := { w with turns := fun n => w.turns (n + 1) }

def publish (w : World) (image : Record) (renamed : Bool) : World :=
  if renamed then { w with images := image :: w.images } else w

def quarantine (w : World) : World := { w with quarantined := true }

end World

/-- What the owner does with an error of its writer. -/
def Owner.notePersistenceFailure (o : Owner) (event : Option CausalEvent) : Owner :=
  let o := match event with
    | some event => o.observe event
    | none => o
  { o with record.causalDiagnostics.loss.persistenceFailureObserved := true }

/-- The snapshot that a commit hands to the writer. -/
def snapshot (r : Record) (revision : ℕ) : Record := { r with recordRevision := revision }

section Commit

variable [Sha256] [Wire] [TextLength Record] (generation : String)

/-- `commit`, on a lane that is not quarantined: the writer publishes the snapshot and the owner
takes its result. -/
def commitSnapshot (w : World) (o : Owner) (revision : ℕ) : World × Except String Unit × Owner :=
  let taken (failure : WriterFailure) := if w.turn.eventTaken then some failure.event else none
  match publishImage generation w.turn.moment w.images.head? (snapshot o.record revision)
    o.record.recordRevision with
  | .error failure =>
    (w.next.quarantine, .error failure.message, o.notePersistenceFailure (taken failure))
  | .ok image =>
    match w.turn.outcome with
    | .confirmed => (w.next.publish image true, .ok (), { o with record := image })
    | .failed failure renamed =>
      ((w.next.publish image renamed).quarantine, .error failure.message,
        o.notePersistenceFailure (taken failure))
    | .unobserved renamed =>
      ((w.next.publish image renamed).quarantine,
        .error "attempt commit not confirmed; writer quarantined",
        { o with record.causalDiagnostics := o.record.causalDiagnostics.loseWriter })

def commit (w : World) (o : Owner) : World × Except String Unit × Owner :=
  match w.turn.lane, w.quarantined, checkedAdd o.record.recordRevision 1, w.turn.submission with
  | .error error, _, _, _ => (w.next, .error error, o)
  | .ok (), true, _, _ => (w.next, .error "attempt writer is quarantined", o)
  | .ok (), false, none, _ => (w.next, .error "attempt revision exhausted", o)
  | .ok (), false, some _, .error error => (w.next, .error error, o)
  | .ok (), false, some revision, .ok () => commitSnapshot generation w o revision

/-- `try_commit_diagnostics`: the snapshot is queued, and the owner goes on with the next revision
without a result. A queued snapshot is published before any later one, or never. -/
def tryCommitDiagnostics (w : World) (o : Owner) : World × Owner :=
  match w.turn.lane, w.quarantined, checkedAdd o.record.recordRevision 1, w.turn.submission with
  | .ok (), false, some revision, .ok () =>
    let queued := { o with record := snapshot o.record revision }
    match publishImage generation w.turn.moment w.images.head? (snapshot o.record revision)
      o.record.recordRevision with
    | .error _ => (w.next.quarantine, queued)
    | .ok image =>
      match w.turn.outcome with
      | .confirmed => (w.next.publish image true, queued)
      | .failed _ renamed => ((w.next.publish image renamed).quarantine, queued)
      | .unobserved renamed => ((w.next.publish image renamed).quarantine, queued)
  | _, _, _, _ =>
    (w.next, { o with record.causalDiagnostics := o.record.causalDiagnostics.loseWriter })

end Commit

/-! ## Runs -/

/-- The launcher's assignments to the record: each sets its fields and leaves the others. -/
inductive Assignment
  | worker (identity : ProcessIdentity) (thread : WorkerThreadIdentity)
  | reservation (authorization : RecoveryAuthorization)
  | manifest (frozen : OwnerManifest)
  | cleanup (terminationRequested activeProcessesZero guardianReaped : Bool)
  | journal (merged : Journal)
  | guardian (identity : ProcessIdentity)
  | target (identity : ProcessIdentity)

def Assignment.apply (r : Record) : Assignment → Record
  | worker identity thread =>
    { r with workerIdentity := some identity, workerThreadIdentity := some thread }
  | reservation authorization =>
    { r with recoveryAuthorization := some authorization, terminalPublicationReserved := true }
  | manifest frozen => { r with ownerManifest := some frozen }
  | cleanup terminationRequested activeProcessesZero guardianReaped =>
    { r with
      cleanupState :=
        { r.cleanupState with terminationRequested, activeProcessesZero, guardianReaped } }
  | journal merged => { r with causalDiagnostics := merged }
  | guardian identity => { r with guardianIdentity := some identity }
  | target identity => { r with targetIdentity := some identity }

/-- The operations on the record of one attempt. -/
inductive Operation
  | assign (assignment : Assignment)
  | store
  | transition (state : AttemptState)
  | authorize (now : Except String ℕ)
  | markReleased
  | markResumeAttempted
  | bindWorkloadAdmission (snapshot : List UInt8) (checked : Except String Unit)
  | bindWorkloadCheckpoint (checkpoint : List UInt8) (bound : Bool)
  | beginPreauthorizationAbort
  | completePreauthorizationAbort
  | beginPostauthorizationRetirement
  | completeRetirement
  | completeRejectionCleanup
  | freezeTerminalSeed (observation : ProcessObservation) (primaryFailure : Option ProviderFailure)
  | stageTerminalProof (receipt : TerminalReceipt) (primaryFailure : Option ProviderFailure)
  | stageTerminalResponse (response : LauncherResponse) (observed : Option ℕ)
    (relayRetired : Except String Unit)
  | recordTerminalizationFailure (owner : TerminalizationOwner) (error : TerminalizationError)
  | recordTerminalizationDiagnostic (error : TerminalizationError)
  | commitAcknowledgement
  | stageRecoveredClosure (context : RecoveryContext)
  | expireDiagnostics (moment : Moment)
  | tryCommitDiagnostics
  | reload (scope : Local)
  | restart (scope : Local)

section Runs

variable [Sha256] [Wire] [TextLength Record] (generation : String)

/-- The turn of `sweep_expired_diagnostics` for one record. -/
def expireDiagnostics (m : Moment) : Edit Unit := do
  let r ← record
  if r.diagnosticRetention.tombstone.isSome ∨ diagnosticExportEligible m r = true ∨ r.state ≠ .empty
    then return
  edit fun r =>
    { r with
      causalDiagnostics := { original := .unavailable .retentionExpired }
      diagnosticRetention := { r.diagnosticRetention with tombstone := some .retentionExpired } }
  store

/-- The operations that are methods of the record. -/
def Operation.script : Operation → Edit Unit
  | assign assignment => edit (Assignment.apply · assignment)
  | store => WindowsAttempt.store
  | transition state => WindowsAttempt.transition state
  | authorize now => WindowsAttempt.authorize now
  | markReleased => WindowsAttempt.markReleased
  | markResumeAttempted => WindowsAttempt.markResumeAttempted
  | bindWorkloadAdmission snapshot checked => WindowsAttempt.bindWorkloadAdmission snapshot checked
  | bindWorkloadCheckpoint checkpoint bound =>
    WindowsAttempt.bindWorkloadCheckpoint checkpoint bound
  | beginPreauthorizationAbort => WindowsAttempt.beginPreauthorizationAbort
  | completePreauthorizationAbort => WindowsAttempt.completePreauthorizationAbort
  | beginPostauthorizationRetirement => WindowsAttempt.beginPostauthorizationRetirement
  | completeRetirement => WindowsAttempt.completeRetirement
  | completeRejectionCleanup => WindowsAttempt.completeRejectionCleanup
  | freezeTerminalSeed observation primaryFailure =>
    WindowsAttempt.freezeTerminalSeed observation primaryFailure
  | stageTerminalProof receipt primaryFailure =>
    WindowsAttempt.stageTerminalProof receipt primaryFailure
  | stageTerminalResponse response observed relayRetired =>
    WindowsAttempt.stageTerminalResponse response observed relayRetired
  | recordTerminalizationFailure owner error =>
    WindowsAttempt.recordTerminalizationFailure owner error
  | recordTerminalizationDiagnostic error => WindowsAttempt.recordTerminalizationDiagnostic error
  | commitAcknowledgement => WindowsAttempt.commitAcknowledgement
  | stageRecoveredClosure context => WindowsAttempt.stageRecoveredClosure context
  | expireDiagnostics moment => WindowsAttempt.expireDiagnostics moment
  | tryCommitDiagnostics => return
  | reload _ => return
  | restart _ => return

/-- The published images of an attempt and the record in its owner's memory. -/
structure Session where
  world : World
  owner : Owner

namespace Session

/-- The record is read from the store, by a recovery or by another service. -/
def reload (s : Session) (scope : Local) : Session :=
  match s.world.images.head? with
  | some image => { s with owner := ⟨image, scope⟩ }
  | none => s

/-- One operation. Its result is left out: an operation that failed has done what the session
shows. -/
def step (s : Session) (operation : Operation) : Session :=
  match operation with
  | .tryCommitDiagnostics =>
    let (world, owner) := WindowsAttempt.tryCommitDiagnostics generation s.world s.owner
    ⟨world, owner⟩
  | .reload scope => s.reload scope
  -- A new process has no lanes, and no record in memory but the one it reads.
  | .restart scope => { s with world := { s.world with quarantined := false } }.reload scope
  | operation =>
    let (world, _, owner) := Interaction.run (commit generation) s.world (operation.script s.owner)
    ⟨world, owner⟩

/-- A session before anything was published. -/
def start (turns : ℕ → Turn) (owner : Owner) : Session := ⟨⟨[], false, turns⟩, owner⟩

end Session

end Runs

end MemCordon.WindowsAttempt
