import MemCordon.Agent.PublicationLaw

/-!
# The files of an attempt

The record of an attempt and its entry in the replay ledger, as files with their staging files, and
the functions of `windows/record.rs` on them: the publication of a record, the acknowledgement
tombstone of the ledger and the acknowledgement of a terminal response.

A run without interruption is a run without an input or output failure: the locks are there, and
nobody else writes. A file is written in several parts and flushed; only the rename decides what it
holds. What the reservations of readers and writers come to is an input (`Reservations`): they
depend on every file of the installation, and may be refused without any failure.
-/

namespace MemCordon.WindowsAttempt

open WindowsRecord Workload CausalDiagnostics DiagnosticScope Fallible Counter

/-! ## The replay ledger -/

/-- `WindowsTerminalRetiredV1` -/
structure TerminalRetired where
  schemaVersion : ℕ
  (attemptId nonce requestSha256 terminalResponseSha256 : String)
  disposition : TerminalDisposition
  deriving DecidableEq

/-- `WindowsTerminalRetiredV2`; its completion has one value only. -/
structure CompletedRetired where
  schemaVersion : ℕ
  (attemptId nonce requestSha256 terminalResponseSha256 : String)
  disposition : TerminalDisposition
  (providerGeneration originalBootId launchIncarnation jobIdentity ownerManifestSha256 : String)
  (retirementProofSha256 ledgerGeneration : String)
  deriving DecidableEq

/-- `WindowsTerminalRetiredV2::is_consistent_for` -/
def CompletedRetired.isConsistentFor (r : CompletedRetired)
    (attemptId nonce requestSha256 responseSha256 : String) :
    Bool :=
  r.schemaVersion == 2 && r.attemptId == attemptId && r.nonce == nonce && r.requestSha256 ==
    requestSha256 &&
    r.terminalResponseSha256 == responseSha256 && sha256TextIsValid r.attemptId &&
      sha256TextIsValid r.requestSha256 &&
    sha256TextIsValid r.terminalResponseSha256 && r.providerGeneration !=
      "" && r.originalBootId != "" &&
    r.launchIncarnation != "" && sha256TextIsValid r.jobIdentity &&
      sha256TextIsValid r.ownerManifestSha256 &&
    sha256TextIsValid r.retirementProofSha256 && sha256TextIsValid r.ledgerGeneration

/-- `TerminalAckTombstoneV1` -/
structure AckTombstone where
  schemaVersion : ℕ
  retired : TerminalRetired
  (providerGeneration launchIncarnation originalBootId proofSha256 jobIdentity : String)
  (ownerManifestSha256 ledgerGeneration : String)
  retirementComplete : Bool
  callerProcessIdentity : ProcessIdentity
  callerTokenSha256 : String
  recoveryAuthorization : RecoveryAuthorization
  deriving DecidableEq

namespace AckTombstone

/-- The tombstone names the same terminal authority. -/
def agrees (existing t : AckTombstone) : Bool :=
  existing.retired == t.retired && existing.proofSha256 == t.proofSha256 &&
    existing.launchIncarnation == t.launchIncarnation &&
    existing.callerProcessIdentity == t.callerProcessIdentity && existing.callerTokenSha256 ==
      t.callerTokenSha256 &&
    existing.recoveryAuthorization == t.recoveryAuthorization && existing.jobIdentity ==
      t.jobIdentity &&
    existing.ownerManifestSha256 == t.ownerManifestSha256 && existing.ledgerGeneration ==
      t.ledgerGeneration

def completed (t : AckTombstone) : CompletedRetired where
  schemaVersion := 2
  attemptId := t.retired.attemptId
  nonce := t.retired.nonce
  requestSha256 := t.retired.requestSha256
  terminalResponseSha256 := t.retired.terminalResponseSha256
  disposition := t.retired.disposition
  providerGeneration := t.providerGeneration
  originalBootId := t.originalBootId
  launchIncarnation := t.launchIncarnation
  jobIdentity := t.jobIdentity
  ownerManifestSha256 := t.ownerManifestSha256
  retirementProofSha256 := t.proofSha256
  ledgerGeneration := t.ledgerGeneration

end AckTombstone

/-- `ReplayRecordV1` -/
structure ReplayRecord where
  attemptId : String
  requestSha256 : String
  acknowledged : Option AckTombstone
  deriving DecidableEq

/-- The entry belongs to the attempt and the request. -/
def ReplayRecord.isFor (r : ReplayRecord) (attemptId requestSha256 : String) : Bool :=
  r.attemptId == attemptId && r.requestSha256 == requestSha256

/-- A staged acknowledgement may follow the one that is there. -/
def acknowledgementFollows : Option AckTombstone → Option AckTombstone → Bool
  | none, some next => !next.retirementComplete
  | some prior, some next =>
    !prior.retirementComplete && next.retirementComplete &&
      { next with retirementComplete := false } == prior
  | _, none => false

def validateAttemptId (value : String) : Except String Unit :=
  reject "attempt record has an invalid identity" (sha256TextIsValid value = false)

section Ledger

variable [TextLength ReplayRecord]

/-- Read an entry of the ledger: the file is there, within the limit, and its text is whole. -/
def readReplay (file : Option (Draft ReplayRecord)) : Except String ReplayRecord := do
  let draft ← okOr "replay record not found" file
  reject "invalid attempt record file" (maxTerminalFrameBytes < draft.written)
  okOr "EOF while parsing a value" draft.parse

variable (attemptId requestSha256 : String)

/-- The first half of `replay_record`: a staged entry is checked and becomes the entry. -/
def settleStaged : Task (Cell ReplayRecord) String Unit := do
  let cell ← Task.inspect fun cell : Cell ReplayRecord => cell
  if cell.staging.isSome then
    let prior ← Task.lift (readReplay cell.file)
    let next ← Task.lift (readReplay cell.staging)
    Task.lift (reject "staged ACK tombstone conflicts with replay ledger"
      (prior.isFor attemptId requestSha256 = false ∨ next.isFor attemptId requestSha256 = false ∨
        acknowledgementFollows prior.acknowledged next.acknowledged = false))
    Task.act Cell.rename

/-- The second half of `replay_record`: the entry is read, and belongs to the attempt. -/
def boundReplay : Task (Cell ReplayRecord) String ReplayRecord := do
  let file ← Task.inspect Cell.file
  let replay ← Task.lift (readReplay file)
  Task.lift (reject "replay record is not bound to the acknowledged attempt"
    (replay.isFor attemptId requestSha256 = false))
  return replay

def replayRecord : Task (Cell ReplayRecord) String ReplayRecord := do
  Task.lift (validateAttemptId attemptId)
  Task.lift (validateAttemptId requestSha256)
  settleStaged attemptId requestSha256
  boundReplay attemptId requestSha256

/-- The second half of `stage_ack_tombstone`: the tombstone is there already, or is published. -/
def publishTombstone (tombstone : AckTombstone) : Task (Cell ReplayRecord) String Unit := do
  let replay ← replayRecord attemptId requestSha256
  match replay.acknowledged with
  | some existing =>
    Task.lift (reject "ACK tombstone conflicts with prior terminal authority"
      (existing.agrees tombstone = false))
  | none =>
    Cell.replace { replay with acknowledged := some tombstone }
    let committed ← replayRecord attemptId requestSha256
    Task.lift (reject "ACK tombstone readback is absent" (committed.acknowledged = none))

/-- The end of `complete_ack_tombstone`: the completed tombstone is read back as a receipt. -/
def completedReceipt : Task (Cell ReplayRecord) String CompletedRetired := do
  let committed ← replayRecord attemptId requestSha256
  let tombstone ← Task.lift (okOr "completed ACK tombstone readback is absent"
    committed.acknowledged)
  Task.lift (reject "ACK tombstone completion did not survive readback"
    (tombstone.retirementComplete = false))
  let retired := tombstone.completed
  Task.lift (reject "completed ACK tombstone does not bind V2 retirement"
    (retired.isConsistentFor attemptId retired.nonce requestSha256 retired.terminalResponseSha256 =
      false))
  return retired

/-- The ledger's part of `complete_ack_tombstone`: the tombstone is complete already, or is
published so. -/
def completeTombstone : Task (Cell ReplayRecord) String CompletedRetired := do
  let replay ← replayRecord attemptId requestSha256
  let tombstone ← Task.lift (okOr "ACK tombstone completion has no committed ACK"
    replay.acknowledged)
  if tombstone.retirementComplete = false then
    Cell.replace { replay with acknowledged := some { tombstone with retirementComplete := true } }
  completedReceipt attemptId requestSha256

end Ledger

/-! ## The files -/

/-- The files of one attempt: its record, its entry in the ledger, a guardian receipt and a
reference of the policy registry. -/
structure Files where
  record : Cell Record
  replay : Cell ReplayRecord
  guardianReceipt : Bool
  policyReference : Bool
  deriving DecidableEq

namespace Files

def recordPart : Part Files (Cell Record) :=
  ⟨record, fun f cell => { f with record := cell }, fun _ _ => rfl, fun _ _ _ => rfl, fun _ => rfl⟩

def replayPart : Part Files (Cell ReplayRecord) :=
  ⟨replay, fun f cell => { f with replay := cell }, fun _ _ => rfl, fun _ _ _ => rfl, fun _ => rfl⟩

end Files

/-- What the reservations for one attempt come to. They scan the admissions, the attempts and the
quarantine, and are refused when the scan meets a file that is not a record, or when what is
reserved and retained is above the budget of the installation. -/
structure Reservations where
  /-- `RecordReaderReservation::acquire`, but for what the files of the attempt itself say. -/
  reader : Except String Unit
  /-- `lane`, with the reservation of its writer. -/
  lane : Except String Unit
  /-- `retire` of `windows/attempt_store.rs`, which gives the writer's reservation back. -/
  writerRetired : Except String Unit

/-- `RecordReaderReservation::acquire`: the scan ends at a staging file of the record. -/
def Reservations.acquireReader (reservations : Reservations) : Task Files String Unit := do
  Task.lift reservations.reader
  let staging ← Task.inspect fun files : Files => files.record.staging
  Task.lift (reject "attempt directory contains an unrecognized entry" (staging.isSome = true))

/-- Encodings that only the ledger uses. -/
class LedgerWire where
  /-- The text of the values that a ledger generation is the digest of. -/
  generation : String → String → String → String → List UInt8

section Acknowledge

variable [Sha256] [Wire] [LedgerWire] [TextLength Record] [TextLength ReplayRecord]
  (generation : String) (reservations : Reservations)

/-- Read a record: the file is there, within the limit, and its text is whole. -/
def readRecord (file : Option (Draft Record)) : Except String Record := do
  let draft ← okOr "record not found" file
  reject "invalid attempt record file" (maxFrameBytes < draft.written)
  okOr "EOF while parsing a value" draft.parse

/-- `publish_at` on the files of the record. -/
def publishAt (m : Moment) (r : Record) (expectedRevision : ℕ) :
    Task (Cell Record) String Record := do
  let file ← Task.inspect Cell.file
  let previous ← Task.lift (match file with
    | none => .ok none
    | some draft => (readRecord (some draft)).map some)
  let image ← Task.lift ((publishImage generation m previous r expectedRevision).mapError
    WriterFailure.message)
  Cell.replace image
  return image

/-- `commit` of a record in memory on files, once it has its lane. -/
def commitFile (m : Moment) (o : Owner) : Task (Cell Record) String Owner := do
  let revision ← Task.lift (okOr "attempt revision exhausted"
    (checkedAdd o.record.recordRevision 1))
  let image ← publishAt generation m (snapshot o.record revision) o.record.recordRevision
  return { o with record := image }

def terminalRetiredReceipt (r : Record) (nonce : String) : Except String TerminalRetired := do
  reject "terminal ACK nonce does not match durable attempt" (nonce ≠ r.nonce)
  let json ← okOr "attempt has no durable terminal outbox" r.terminalResponseJson
  let disposition ← okOr "attempt terminal disposition is absent" r.terminalDisposition
  return ⟨1, r.attemptId, nonce, r.requestSha256, sha256Text json.toUTF8.toList, disposition⟩

/-- The tombstone that `stage_ack_tombstone` builds from the record. -/
def buildTombstone (r : Record) (retired : TerminalRetired) : Except String AckTombstone := do
  let proof ← okOr "ACK tombstone requires checked retirement proof" r.retirementProof
  let proofSha256 := sha256Text (Wire.proof proof)
  let manifest ← okOr "ACK tombstone requires frozen owner manifest" r.ownerManifest
  let ownerManifestSha256 ← manifest.canonicalSha256
  let ledgerGeneration :=
    sha256Text
      (LedgerWire.generation r.attemptId r.providerGeneration r.launchIncarnation proofSha256)
  let recoveryAuthorization ←
    okOr "ACK tombstone has no admitted recovery authorization" r.recoveryAuthorization
  return {
    schemaVersion := 1, retired, providerGeneration := r.providerGeneration
    launchIncarnation := r.launchIncarnation, originalBootId := r.bootIdentity, proofSha256
    jobIdentity := r.jobIdentitySha256, ownerManifestSha256, ledgerGeneration,
    retirementComplete := false
    callerProcessIdentity := r.callerProcessIdentity, callerTokenSha256 := r.callerTokenSha256
    recoveryAuthorization }

def stageAckTombstone (r : Record) (retired : TerminalRetired) : Task Files String Unit := do
  let tombstone ← Task.lift (buildTombstone r retired)
  .within Files.replayPart (publishTombstone r.attemptId r.requestSha256 tombstone)

def completeAckTombstone (attemptId requestSha256 : String) :
    Task Files String CompletedRetired := do
  let files ← Task.inspect fun files : Files => files
  Task.lift (reject "ACK tombstone completion still has active record or guardian receipt"
    (files.record.file.isSome = true ∨ files.guardianReceipt = true))
  .within Files.replayPart (completeTombstone attemptId requestSha256)

def removeGuardianReceipt : Change Files :=
  { apply := fun f => { f with guardianReceipt := false } }

/-- `retire_reference` of the policy registry. -/
def retireReference : Change Files := { apply := fun f => { f with policyReference := false } }

def removeRecord : Change Files :=
  { apply := fun f => { f with record := { f.record with file := none } } }

/-- The record's own part of `acknowledge_terminal_response`: the record as it is then stored. -/
def commitAckRecord (m : Moment) (r : Record) : Task Files String Record := do
  Task.lift (reject "attempt has no durable terminal outbox to acknowledge"
    (r.terminalResponseJson = none))
  if r.lifecycle ≠ .ackCommitted then
    Task.lift reservations.lane
    let owner ← .within Files.recordPart (commitFile generation m
      ⟨{ r with lifecycle := .ackCommitted }, enter⟩)
    return owner.record
  else return r

/-- The rest of `acknowledge_terminal_response`, once the record says that it is acknowledged. -/
def retireAcknowledged (r : Record) : Task Files String Unit := do
  let retired ← Task.lift (terminalRetiredReceipt r r.nonce)
  stageAckTombstone r retired
  Task.act removeGuardianReceipt
  Task.lift reservations.writerRetired
  if r.workloadAdmission.isSome then Task.act retireReference
  Task.act removeRecord
  let _ ← completeAckTombstone r.attemptId r.requestSha256
  return

/-- `WindowsAttemptRecordV1::acknowledge_terminal_response` -/
def acknowledgeRecord (m : Moment) (r : Record) : Task Files String Unit := do
  let r ← commitAckRecord generation reservations m r
  retireAcknowledged reservations r

def recoverIncompleteAckTombstone (attemptId requestSha256 : String) :
    Task Files String CompletedRetired := do
  let replay ← .within Files.replayPart (replayRecord attemptId requestSha256)
  let tombstone ← Task.lift (okOr "terminal acknowledgment has no ACK tombstone"
    replay.acknowledged)
  if tombstone.retirementComplete = false then
    let files ← Task.inspect fun files : Files => files
    Task.lift (reject "ACK tombstone still has a durable attempt record"
      (files.record.file.isSome = true))
    Task.act removeGuardianReceipt
    Task.act retireReference
  completeAckTombstone attemptId requestSha256

def acknowledgeStored (m : Moment) (draft : Draft Record) (attemptId nonce requestSha256 : String) :
    Task Files String CompletedRetired := do
  let r ← Task.lift (readRecord (some draft))
  Task.lift (r.authenticate attemptId generation)
  Task.lift (reject "terminal acknowledgment request digest is not exact"
    (r.requestSha256 ≠ requestSha256))
  let receipt ← Task.lift (terminalRetiredReceipt r nonce)
  acknowledgeRecord generation reservations m r
  let retired ← completeAckTombstone attemptId requestSha256
  Task.lift (reject "ACK tombstone changed terminal authority digest"
    (retired.terminalResponseSha256 ≠ receipt.terminalResponseSha256))
  return retired

def acknowledgeTerminalResponse (m : Moment) (attemptId nonce requestSha256 : String) :
    Task Files String CompletedRetired := do
  reservations.acquireReader
  Task.lift (validateAttemptId attemptId)
  let files ← Task.inspect fun files : Files => files
  match files.record.file with
  | some draft => acknowledgeStored generation reservations m draft attemptId nonce requestSha256
  | none =>
    let retired ← recoverIncompleteAckTombstone attemptId requestSha256
    Task.lift (reject "terminal ACK tombstone nonce does not match" (retired.nonce ≠ nonce))
    return retired

end Acknowledge

end MemCordon.WindowsAttempt
