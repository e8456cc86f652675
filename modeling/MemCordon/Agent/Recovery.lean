import MemCordon.Agent.AttemptFiles

/-!
# Recovery of the attempts

`recover_until` of `windows/record.rs` on the files of the attempts: staged acknowledgements of the
ledger first, then guardian receipts without a record, then the admissions, then the records, then
the ledger's incomplete tombstones. What could not be settled is noted; the recovery as a whole
fails when anything was. `completes_recoverUntil`: a recovery that is not stopped leaves every
attempt as its own turns do.

What the recovery reads outside of the files is an input: the boot, the installed provider, the
processes that are alive, what a guardian receipt shows, what the reservations come to, and the
pass over the admissions. An error of one of these stops the recovery.
-/

namespace MemCordon.WindowsAttempt

open WindowsRecord Workload CausalDiagnostics DiagnosticScope Fallible Counter MemCordon.Task

/-- What the recovery of an attempt reads outside of its files. -/
structure RecoveryEvidence where
  moment : Moment
  currentBoot : String
  binding : Except String PublicProviderBindingV1
  observed : Option ℕ
  relayRetired : Except String Unit
  /-- The digest of the guardian receipt, when it belongs to the record and the owners in the
  manifest are gone. -/
  guardian : Except String (Option String)
  /-- `record_has_live_process`, at first and after the wait. -/
  live : Except String Bool
  liveAfterWait : Except String Bool
  /-- The guardian receipt belongs to the record and shows that the job is empty. -/
  jobZero : Except String Bool
  /-- The listing of the directory has the staging file of the record before the record. -/
  stagingListedFirst : Bool
  reservations : Reservations

/-- What the recovery as a whole reads outside of the files of the attempts. -/
structure InstallationEvidence where
  /-- `ensure_no_quarantined_writer` -/
  writers : Except String Unit
  /-- The files in the quarantine. -/
  quarantined : List String
  /-- The pass over the admissions: what it noted. -/
  admissions : Except String (List String)

def RecoveryEvidence.context (e : RecoveryEvidence) (guardianReceipt : Option String) :
    RecoveryContext :=
  ⟨e.currentBoot, guardianReceipt, e.binding, e.observed, e.relayRetired⟩

/-- The staging file of the record is moved to the quarantine. -/
def removeStaging : Change Files :=
  { apply := fun f => { f with record := { f.record with staging := none } } }

section Recovery

variable [Sha256] [Wire] [LedgerWire] [TextLength Record] [TextLength ReplayRecord]
  (generation : String)

/-! ## The ledger -/

/-- The turn of `recover_staged_ack_tombstones` for one attempt. -/
def recoverStagedAckTombstone (attemptId : String) :
    Task (Cell ReplayRecord) String (List String) := do
  let staging ← Task.inspect Cell.staging
  if staging.isSome then
    Task.lift (validateAttemptId attemptId)
    let staged ← Task.lift (readReplay staging)
    Task.lift (reject "staged ACK tombstone lacks exact attempt binding"
      (staged.attemptId ≠ attemptId ∨ staged.acknowledged = none))
    let _ ← replayRecord attemptId staged.requestSha256
    return []
  else return []

def ReplayRecord.isIncomplete (r : ReplayRecord) : Bool :=
  r.acknowledged.any fun tombstone => !tombstone.retirementComplete

/-- The last loop's turn for one attempt; a file of the ledger is named after the attempt in it. -/
def recoverTombstone : Task Files String (List String) := do
  let files ← Task.inspect fun files : Files => files
  if files.replay.file.isSome then
    let replay ← Task.lift (readReplay files.replay.file)
    if replay.isIncomplete then
      match ← Task.attempt (recoverIncompleteAckTombstone replay.attemptId replay.requestSha256)
        with
      | .ok _ => return []
      | .error error => return [s!"incomplete ACK tombstone {replay.attemptId}: {error}"]
    else return []
  else return []

/-! ## Records -/

/-- `commit` on files: a writer that failed is quarantined. The event it leaves stays in memory. -/
def serveCommit (m : Moment) (lane : Except String Unit) (quarantined : Bool) (o : Owner) :
    Program (Cell Record) (Bool × Except String Unit × Owner) :=
  match lane, quarantined, checkedAdd o.record.recordRevision 1 with
  | .error error, _, _ => .done (quarantined, .error error, o)
  | .ok (), true, _ => .done (true, .error "attempt writer is quarantined", o)
  | .ok (), false, none => .done (false, .error "attempt revision exhausted", o)
  | .ok (), false, some revision =>
    Program.andThen (fun
      | .ok image => .done (false, .ok (), { o with record := image })
      | .error error => .done (true, .error error, o.notePersistenceFailure none))
      (publishAt generation m (snapshot o.record revision) o.record.recordRevision)

/-- A method of a record that was read, on its files. -/
def runEdit {α : Type} (e : RecoveryEvidence) (script : Edit α) (r : Record) :
    Task Files String α :=
  .within Files.recordPart
    (script.perform (serveCommit generation e.moment e.reservations.lane) false ⟨r, enter⟩)

/-- The read of a record under its name: its text is whole, and it is accepted. -/
def readAuthentic (file : Option (Draft Record)) (attemptId : String) : Except String Record := do
  validateAttemptId attemptId
  let r ← readRecord file
  r.authenticate attemptId generation
  return r

/-- The closure of a record that shows authorization or release, and what is noted. -/
def recoverAuthorized (e : RecoveryEvidence) (r : Record) : Task Files String (List String) := do
  let files ← Task.inspect fun files : Files => files
  let closure (guardianReceipt : Option String) : Task Files String (Except String Unit) :=
    Task.attempt (runEdit generation e (stageRecoveredClosure (e.context guardianReceipt)) r)
  let progress ←
    if r.bootIdentity ≠ e.currentBoot then closure none
    else if files.guardianReceipt then do
      match ← Task.lift e.guardian with
      | some digest => closure (some digest)
      | none => pure (Except.error "guardian or owner closure evidence is incomplete")
    else pure (Except.error "guardian native zero receipt is unavailable")
  match progress with
  | .ok () => return ["recovered terminal authority staged; exact caller ACK pending"]
  | .error error => return [s!"postauthorization authority retained: {error}"]

/-- The steps that reconcile a record without authorization with its guardian. -/
def reconcile (e : RecoveryEvidence) : Edit Unit := do
  let r ← record
  if r.authorizationUnixMillis = none ∧ r.resumeAttempted = false then beginPreauthorizationAbort
  else
    if r.state ≠ .terminating then transition .terminating
    edit fun r => { r with cleanupState := { r.cleanupState with terminationRequested := true } }
    store
  let live ← Script.lift e.liveAfterWait
  refuse s!"guardian authority for live attempt {r.attemptId} did not retire" (live = true)
  let zero ← Script.lift e.jobZero
  refuse s!"guardian authority for attempt {r.attemptId} did not durably prove Job zero"
    (zero = false)
  edit fun r =>
    { r with
      cleanupState := { r.cleanupState with
        terminationRequested := true, activeProcessesZero := true, guardianReaped := true } }
  store

/-- The files of an attempt that left nothing behind are removed. -/
def retireFiles (e : RecoveryEvidence) (r : Record) : Task Files String (List String) := do
  Task.lift e.reservations.writerRetired
  if r.workloadAdmission.isSome then Task.act retireReference
  Task.act removeRecord
  Task.act removeGuardianReceipt
  return []

/-- A record without authorization: it is removed when nothing of the attempt is alive, or after the
guardian retired it; else it goes to the quarantine. -/
def recoverUnauthorized (e : RecoveryEvidence) (r : Record) : Task Files String (List String) := do
  let live ← Task.lift e.live
  let durablyEmpty :=
    r.state == .empty && r.cleanupState.terminationRequested &&
      r.cleanupState.activeProcessesZero &&
    r.cleanupState.guardianReaped && r.cleanupState.finalHandlesClosed
  let killOnCloseReconciled := r.state == .terminating && r.cleanupState.terminationRequested &&
    r.guardianIdentity.isSome && r.targetIdentity.isSome
  if live = false ∧ (r.bootIdentity ≠ e.currentBoot ∨ durablyEmpty = true ∨
      killOnCloseReconciled = true) then
    retireFiles e r
  else
    match ← Task.attempt (runEdit generation e (reconcile e) r) with
    | .ok () => retireFiles e r
    | .error error => do
      Task.act removeRecord
      return [error]

/-- The turn of `recover_until` for a record. -/
def recoverRecord (e : RecoveryEvidence) (attemptId : String) :
    Task Files String (List String) := do
  let file ← Task.inspect fun files : Files => files.record.file
  if file.isSome then
    -- only a file under the name of a record is charged to a reader
    if validateAttemptId attemptId = .ok () then e.reservations.acquireReader
    match readAuthentic generation file attemptId with
    | .error error =>
      Task.act removeRecord
      return [error]
    | .ok r =>
      if r.lifecycle = .ackCommitted then
        acknowledgeRecord generation e.reservations e.moment r
        return []
      else if r.terminalResponseJson.isSome then return ["unacknowledged durable terminal outbox"]
      else if r.authorizationUnixMillis.isSome ∨ r.resumeAttempted = true ∨
          r.targetReleased = true then
        recoverAuthorized generation e r
      else recoverUnauthorized generation e r
  else return []

/-- The turn of `recover_until` for a staging file of a record, whose name is not one of a
record. -/
def recoverStaging : Task Files String (List String) := do
  let staging ← Task.inspect fun files : Files => files.record.staging
  if staging.isSome then
    Task.act removeStaging
    return ["attempt directory contains an unrecognized entry"]
  else return []

/-- The turns of `recover_until` for the files of the record of one attempt, in the order of the
listing. -/
def recoverAttempt (e : RecoveryEvidence) (attemptId : String) :
    Task Files String (List String) := do
  if e.stagingListedFirst then
    let staged ← recoverStaging
    let recovered ← recoverRecord generation e attemptId
    return staged ++ recovered
  else
    let recovered ← recoverRecord generation e attemptId
    let staged ← recoverStaging
    return recovered ++ staged

/-- A guardian receipt without a record is removed. -/
def recoverGuardianReceipt : Task Files String (List String) := do
  let files ← Task.inspect fun files : Files => files
  if files.guardianReceipt = true ∧ files.record.file = none then Task.act removeGuardianReceipt
  return []

/-- `recover_until`: what could not be settled. -/
def recoverUntil (installation : InstallationEvidence) (evidence : String → RecoveryEvidence)
    (attempts : List String) : Task (String → Files) String (List String) := do
  Task.lift installation.writers
  let _ ← Task.forEach
    (fun attemptId => .within Files.replayPart (recoverStagedAckTombstone attemptId)) attempts
  let _ ← Task.forEach (fun _ => recoverGuardianReceipt) attempts
  let admissions ← Task.lift installation.admissions
  let records ← Task.forEach
    (fun attemptId => recoverAttempt generation (evidence attemptId) attemptId) attempts
  let tombstones ← Task.forEach (fun _ => recoverTombstone) attempts
  return installation.quarantined ++ admissions ++ records ++ tombstones

/-- The turns of `recover_until` for one attempt. -/
def recoverAlone (e : RecoveryEvidence) (attemptId : String) : Task Files String (List String) := do
  let _ ← .within Files.replayPart (recoverStagedAckTombstone attemptId)
  let _ ← recoverGuardianReceipt
  let records ← recoverAttempt generation e attemptId
  let tombstones ← recoverTombstone
  return records ++ tombstones

variable {generation}

omit [LedgerWire] [TextLength ReplayRecord] in
/-- An accepted record is read under its name. -/
theorem readAuthentic_eq_ok {file : Option (Draft Record)} {attemptId : String} {r : Record}
    (hread : readRecord file = .ok r) (h : r.Authentic attemptId generation) :
    readAuthentic generation file attemptId = .ok r := by
  have hvalid : sha256TextIsValid attemptId = true := by
    have hbindings := h.bindings
    simp only [Record.bindingsValid, Bool.and_eq_true, beq_iff_eq] at hbindings
    grind
  have hname : validateAttemptId attemptId = .ok () := reject_eq_ok.2 (by simp [hvalid])
  exact unit_bind_eq_ok.2 ⟨hname,
    bind_eq_ok.2 ⟨r, hread, unit_bind_eq_ok.2 ⟨Record.authenticate_eq_ok.2 h, rfl⟩⟩⟩

omit [Sha256] [Wire] [LedgerWire] [TextLength Record] [TextLength ReplayRecord] in
theorem run_recoverStaging {w : Files} (h : w.record.staging = none) :
    recoverStaging.run w = (w, .ok []) := by
  unfold recoverStaging
  rw [run_inspect_bind, h]
  rfl

/-- **Attempts do not meet in the recovery**, once nothing of the installation stops it. -/
theorem completes_recoverUntil {installation : InstallationEvidence}
    {evidence : String → RecoveryEvidence} {attempts notes : List String}
    (hwriters : installation.writers = .ok ()) (hadmissions : installation.admissions = .ok notes)
    (hattempts : attempts.Nodup) :
      (recoverUntil generation installation evidence attempts).Completes =
      Pass (fun attemptId => (recoverAlone generation (evidence attemptId) attemptId).Completes)
        attempts := by
  have halone :
    (fun attemptId => (recoverAlone generation (evidence attemptId) attemptId).Completes) =
      fun attemptId =>
      Relation.Comp (Completes (.within Files.replayPart (recoverStagedAckTombstone attemptId)))
        (Relation.Comp (Completes recoverGuardianReceipt)
          (Relation.Comp (Completes (recoverAttempt generation (evidence attemptId) attemptId))
            (Completes recoverTombstone))) := by
    funext attemptId
    exact completes_bind rfl fun _ => completes_bind rfl fun _ => completes_bind rfl fun _ =>
      completes_bind_pure
  rw [halone, ← pass_comp, ← pass_comp, ← pass_comp]
  refine (completes_lift_bind hwriters).trans ?_
  refine completes_bind (completes_forEach hattempts) fun _ => ?_
  refine completes_bind (completes_forEach hattempts) fun _ => ?_
  refine (completes_lift_bind hadmissions).trans ?_
  exact completes_bind (completes_forEach hattempts) fun _ =>
    completes_bind_pure.trans (completes_forEach hattempts)

end Recovery

end MemCordon.WindowsAttempt
