import MemCordon.Agent.PrivateRecord
import MemCordon.Foundations.Storage

/-!
# The durable journal of a private attempt

`DurablePrivateAttempt` of `linux/private_attempt.rs`: the record in memory, its file and the file
`.new` beside it. An operation checks the record in memory, builds its successor and replaces the
file: it creates the file `.new`, writes and syncs it, renames it over the journal and syncs the
directory. What every call returns is an input.

* `replace_cases` says all that a `replace` can leave behind.
* `Update` is an operation that replaces the record once, `Operation` any of them.
-/

namespace MemCordon.PrivateAttempt

open Workload Fallible MemCordon.Task

section Journal

variable [Sha256] [JournalWire]

/-! ## Files -/

/-- The record in memory, the file of the journal, and the file `.new`. -/
structure Journal where
  record : PrivateAttemptRecordV4
  (file temporary : Option (List UInt8))

/-- What the calls of one `replace` return. A write that fails has written some of the bytes. -/
structure ReplaceIo where
  opened : Except String Unit
  written : Except (ℕ × String) Unit
  (synced renamed directorySynced : Except String Unit)

/-- Every call succeeds. -/
def ReplaceIo.allOk : ReplaceIo := ⟨.ok (), .ok (), .ok (), .ok (), .ok ()⟩

/-- The open with `create_new`, which also fails when there is a file. -/
def createTemporary (opened : Except String Unit) : Task Journal String Unit := do
  Task.lift opened
  let present ← Task.inspect fun j => j.temporary.isSome
  Task.lift (reject "File exists (os error 17)" (present = true))
  Task.act { apply := fun j => { j with temporary := some [] } }

/-- `write_all` of the file `.new`. -/
def writeTemporary (bytes : List UInt8) : Except (ℕ × String) Unit → Task Journal String Unit
  | .ok () => Task.act { apply := fun j => { j with temporary := some bytes } }
  | .error (count, e) => do
    Task.act { apply := fun j => { j with temporary := some (bytes.take count) } }
    Task.lift (.error e)

/-- The rename of the file `.new` over the journal. -/
def renameTemporary (renamed : Except String Unit) : Task Journal String Unit := do
  Task.lift renamed
  Task.act { apply := fun j => { j with file := j.temporary, temporary := none } }

/-- `DurablePrivateAttempt::replace` -/
def replace (io : ReplaceIo) (next : PrivateAttemptRecordV4) : Task Journal String Unit := do
  let bytes ← Task.lift next.encode
  createTemporary io.opened
  writeTemporary bytes io.written
  Task.lift io.synced
  renameTemporary io.renamed
  Task.lift io.directorySynced
  Task.act { apply := fun j => { j with record := next } }

/-- What the calls of `read_back` return, and whether owner, mode and links of the file are the
expected ones. -/
structure ReadIo where
  (opened metadata : Except String Unit)
  secure : Bool
  read : Except String Unit

/-- `DurablePrivateAttempt::read_back` -/
def Journal.readBack (io : ReadIo) (j : Journal) : Except String PrivateAttemptRecordV4 := do
  io.opened
  let bytes ← okOr "No such file or directory (os error 2)" j.file
  io.metadata
  reject "V4 record ownership or mode differs" (io.secure = false)
  io.read
  let record ← PrivateAttemptRecordV4.parse (bytes.take (maxPrivateRecordBytes + 1))
  reject "V4 durable record differs from owned state" (record ≠ j.record)
  return record

/-- The read as a step, which changes nothing. -/
def readBack (io : ReadIo) : Task Journal String PrivateAttemptRecordV4 := do
  let result ← Task.inspect (Journal.readBack io)
  Task.lift result

/-! ## Creation -/

/-- What the calls of `create_in` return, and whether the directory has the expected permissions. -/
structure CreateIo where
  (directory metadata : Except String Unit)
  secure : Bool
  (opened persisted : Except String Unit)

/-- `DurablePrivateAttempt::create_in`, in a directory with these files. -/
def createIn (io : CreateIo) (file temporary : Option (List UInt8))
    (record : PrivateAttemptRecordV4) :
    Except String Journal := do
  reject "V4 record creation requires allocated phase" (record.phase ≠ .allocated)
  io.directory
  io.metadata
  reject "V4 state directory permissions differ" (io.secure = false)
  io.opened
  reject "File exists (os error 17)" (file.isSome = true)
  let bytes ← record.encode
  io.persisted
  return ⟨record, some bytes, temporary⟩

/-! ## Successors -/

namespace PrivateAttemptRecordV4

/-- The successor in `attach_admission_metadata`. -/
def attachAdmissionMetadata (metadata : RuntimePrivateAdmissionSnapshot)
    (r : PrivateAttemptRecordV4) :
    Except String PrivateAttemptRecordV4 := do
  reject "private admission metadata must precede native allocation"
    (r.phase ≠ .allocated ∨ r.admissionMetadata.isSome = true)
  metadata.validate
  let admissionDigest ← metadata.canonicalDigest
  return { r with
    binding := some {
      attemptId := r.attemptId
      admissionDigest
      callerEnvelopeDigest := r.callerEnvelopeDigest
      nativeInvocationDigest := metadata.invocationSha256 }
    admissionMetadata := some metadata }

/-- A successor that requires a phase. -/
def follows (phase : Phase) (e : String) (edit : PrivateAttemptRecordV4 → PrivateAttemptRecordV4)
    (r : PrivateAttemptRecordV4) : Except String PrivateAttemptRecordV4 := do
  reject e (r.phase ≠ phase)
  return edit r

omit [Sha256] [JournalWire]

/-- The successor in `boundary_created`. -/
def boundaryCreated : PrivateAttemptRecordV4 → Except String PrivateAttemptRecordV4 :=
  follows .allocated "native boundary requires an allocated journal" fun r =>
    { r with phase := .boundaryCreated }

/-- The successor in `commit_gated_facts`. -/
def commitGatedFacts (facts : OperationalGatedFacts) (r : PrivateAttemptRecordV4) :
    Except String PrivateAttemptRecordV4 := do
  reject "private commit requires actual gated target and descriptive local metadata"
    (r.phase ≠ .targetGated ∨ r.admissionMetadata = none)
  return { r with gatedFacts := some facts, phase := .checkpointCommitted }

/-- The successor in `release_intent`. -/
def releaseIntent : PrivateAttemptRecordV4 → Except String PrivateAttemptRecordV4 :=
  follows .checkpointCommitted "private release requires durable gated observations" fun r =>
    { r with phase := .releaseIntent, releaseKnowledge := .possiblyReleased }

/-- The successor in `guardian_ready`. -/
def guardianReady (guardian : ProcessIdentity) : PrivateAttemptRecordV4 →
    Except String PrivateAttemptRecordV4 :=
  follows .boundaryCreated "V4 guardian requires dedicated boundary" fun r =>
    { r with guardian := some guardian, phase := .guardianReady }

/-- The successor in `target_gated`. -/
def targetGated (namespaceInit target : ProcessIdentity) (networkNamespaceInode : UInt64) :
    PrivateAttemptRecordV4 → Except String PrivateAttemptRecordV4 :=
  follows .guardianReady "V4 target requires live guardian" fun r =>
    { r with
      namespaceInit := some namespaceInit
      target := some target
      networkNamespaceInode := some networkNamespaceInode
      phase := .targetGated }

/-- The successor in `retiring`. -/
def retiring (r : PrivateAttemptRecordV4) : Except String PrivateAttemptRecordV4 := do
  reject "V4 record is already terminal" (r.phase = .retired ∨ r.phase = .cleanupIncomplete)
  return { r with phase := .retiring }

/-- The successor in `execution_observed`. -/
def executionObserved : PrivateAttemptRecordV4 → Except String PrivateAttemptRecordV4 :=
  follows .releaseIntent "V4 exec observation requires release intent" fun r =>
    { r with phase := .executionObserved, releaseKnowledge := .execObserved }

/-- The successor in `cleanup_incomplete`. -/
def cleanupIncomplete (detail : String) (r : PrivateAttemptRecordV4) :
    Except String PrivateAttemptRecordV4 := do
  reject "V4 retired record cannot become incomplete" (r.phase = .retired)
  let error ← boundedText 4096 detail
  return { r with phase := .cleanupIncomplete, cleanupError := some error }

/-- The successor in `remove_retired`. -/
def retired : PrivateAttemptRecordV4 → Except String PrivateAttemptRecordV4 :=
  follows .retiring "V4 record removal requires retiring phase" fun r =>
    { r with phase := .retired }

end PrivateAttemptRecordV4

/-! ## Operations -/

/-- An operation that replaces the record once. -/
inductive Update
  | attachAdmissionMetadata (metadata : RuntimePrivateAdmissionSnapshot)
  | boundaryCreated
  | commitGatedFacts (facts : OperationalGatedFacts)
  | releaseIntent
  | guardianReady (guardian : ProcessIdentity)
  | targetGated (namespaceInit target : ProcessIdentity) (networkNamespaceInode : UInt64)
  | retiring
  | executionObserved
  | cleanupIncomplete (detail : String)

/-- The successor that the operation installs. -/
def Update.next : Update → PrivateAttemptRecordV4 → Except String PrivateAttemptRecordV4
  | attachAdmissionMetadata metadata => PrivateAttemptRecordV4.attachAdmissionMetadata metadata
  | boundaryCreated => PrivateAttemptRecordV4.boundaryCreated
  | commitGatedFacts facts => PrivateAttemptRecordV4.commitGatedFacts facts
  | releaseIntent => PrivateAttemptRecordV4.releaseIntent
  | guardianReady guardian => PrivateAttemptRecordV4.guardianReady guardian
  | targetGated namespaceInit target inode =>
    PrivateAttemptRecordV4.targetGated namespaceInit target inode
  | retiring => PrivateAttemptRecordV4.retiring
  | executionObserved => PrivateAttemptRecordV4.executionObserved
  | cleanupIncomplete detail => PrivateAttemptRecordV4.cleanupIncomplete detail

/-- Replace the record by a successor of the one in memory. -/
def install (io : ReplaceIo)
    (next : PrivateAttemptRecordV4 → Except String PrivateAttemptRecordV4) :
    Task Journal String Unit := do
  let record ← Task.inspect Journal.record
  let successor ← Task.lift (next record)
  replace io successor

/-- `DurablePrivateAttempt::commit_gated_facts`, the update that reads back what it has written. -/
def commitGatedFacts (io : ReplaceIo) (read : ReadIo) (facts : OperationalGatedFacts) :
    Task Journal String Unit := do
  install io (PrivateAttemptRecordV4.commitGatedFacts facts)
  let record ← readBack read
  let owned ← Task.inspect Journal.record
  Task.lift (reject "private gated journal durable readback differs" (record ≠ owned))

def Update.task (io : ReplaceIo) (read : ReadIo) : Update → Task Journal String Unit
  | .commitGatedFacts facts => PrivateAttempt.commitGatedFacts io read facts
  | update => install io update.next

/-- What the calls of `remove_retired` return. -/
structure RemoveIo where
  replace : ReplaceIo
  (removed directorySynced : Except String Unit)

/-- `DurablePrivateAttempt::remove_retired` -/
def removeRetired (io : RemoveIo) : Task Journal String Unit := do
  install io.replace PrivateAttemptRecordV4.retired
  Task.lift io.removed
  Task.act { apply := fun j => { j with file := none } }
  Task.lift io.directorySynced

/-- `DurablePrivateAttempt::retire_unallocated` -/
def retireUnallocated (io : ReplaceIo) (remove : RemoveIo) : Task Journal String Unit := do
  let record ← Task.inspect Journal.record
  Task.lift (reject "V4 direct retirement requires a pre-boundary record"
    (record.phase ≠ .allocated))
  install io PrivateAttemptRecordV4.retiring
  removeRetired remove

structure VerifiedPrivateRetirement where
  attemptId : List UInt8
  checkpointDigest : Option DiagnosticSha256
  deriving DecidableEq

def VerifiedPrivateRetirement.observed (r : PrivateAttemptRecordV4) : VerifiedPrivateRetirement :=
  ⟨r.attemptId.bytes, r.checkpointDigest⟩

/-- `DurablePrivateAttempt::retire_after_native_cleanup`. The permit matches the record it was
observed from. -/
def retireAfterNativeCleanup (io : RemoveIo) (permit : VerifiedPrivateRetirement) :
    Task Journal String Unit := do
  let record ← Task.inspect Journal.record
  Task.lift (reject "V4 retirement permit differs from durable attempt"
    (permit ≠ VerifiedPrivateRetirement.observed record))
  removeRetired io

/-- An operation of the journal, with what its calls return. -/
inductive Operation
  | update (u : Update) (io : ReplaceIo) (read : ReadIo)
  | readBack (io : ReadIo)
  | retireUnallocated (io : ReplaceIo) (remove : RemoveIo)
  | retireAfterNativeCleanup (io : RemoveIo) (permit : VerifiedPrivateRetirement)

def Operation.task : Operation → Task Journal String Unit
  | .update u io read => u.task io read
  | .readBack io => do
    let _ ← PrivateAttempt.readBack io
    return ()
  | .retireUnallocated io remove => PrivateAttempt.retireUnallocated io remove
  | .retireAfterNativeCleanup io permit => PrivateAttempt.retireAfterNativeCleanup io permit

/-- The records that an operation installs, one after the other. -/
def Operation.successors (r : PrivateAttemptRecordV4) : Operation → List PrivateAttemptRecordV4
  | .update u _ _ => (u.next r).toOption.toList
  | .readBack _ => []
  | .retireUnallocated _ _ =>
    (r.retiring.toOption.toList).flatMap fun retiring =>
      retiring :: retiring.retired.toOption.toList
  | .retireAfterNativeCleanup _ _ => r.retired.toOption.toList

/-! ## What a replacement leaves -/

/-- The states in which `replace` can end, and its result. -/
inductive Replaced (j : Journal) (next : PrivateAttemptRecordV4) :
    Journal → Except String Unit → Prop
  | untouched (e : String) : Replaced j next j (.error e)
  | leftover (bytes : List UInt8) (e : String) :
    Replaced j next { j with temporary := some bytes } (.error e)
  | unsynced (bytes : List UInt8) (e : String) (hnext : next.encode = .ok bytes) :
    Replaced j next { j with file := some bytes, temporary := none } (.error e)
  | done (bytes : List UInt8) (hnext : next.encode = .ok bytes) :
    Replaced j next ⟨next, some bytes, none⟩ (.ok ())

/-- **All that a replacement can leave behind**: nothing, a file `.new`, the successor without the
sync of the directory, or the successor. -/
theorem replace_cases (io : ReplaceIo) (next : PrivateAttemptRecordV4) (j : Journal) :
    Replaced j next ((replace io next).run j).1 ((replace io next).run j).2 := by
  obtain ⟨opened, written, synced, renamed, directorySynced⟩ := io
  obtain ⟨record, file, temporary⟩ := j
  unfold replace
  cases hnext : next.encode with
  | error e => exact .untouched e
  | ok bytes =>
    cases opened with
    | error e => exact .untouched e
    | ok u =>
      cases temporary with
      | some present => exact .untouched _
      | none =>
        cases written with
        | error failure => exact .leftover _ _
        | ok u =>
          cases synced with
          | error e => exact .leftover bytes e
          | ok u =>
            cases renamed with
            | error e => exact .leftover bytes e
            | ok u =>
              cases directorySynced with
              | error e => exact .unsynced bytes e hnext
              | ok u => exact .done bytes hnext

/-- The states in which the installation of a successor can end, and its result. -/
inductive Installed (j : Journal)
    (next : PrivateAttemptRecordV4 → Except String PrivateAttemptRecordV4) :
    Journal → Except String Unit → Prop
  | untouched (e : String) : Installed j next j (.error e)
  | leftover (bytes : List UInt8) (e : String) :
    Installed j next { j with temporary := some bytes } (.error e)
  | unsynced {successor : PrivateAttemptRecordV4} {bytes : List UInt8} (e : String)
    (hnext : next j.record = .ok successor) (hbytes : successor.encode = .ok bytes) :
    Installed j next { j with file := some bytes, temporary := none } (.error e)
  | done {successor : PrivateAttemptRecordV4} {bytes : List UInt8}
    (hnext : next j.record = .ok successor)
    (hbytes : successor.encode = .ok bytes) :
    Installed j next ⟨successor, some bytes, none⟩ (.ok ())

theorem install_cases (io : ReplaceIo)
    (next : PrivateAttemptRecordV4 → Except String PrivateAttemptRecordV4)
    (j : Journal) : Installed j next ((install io next).run j).1 ((install io next).run j).2 := by
  unfold install
  rw [run_inspect_bind]
  cases hnext : next j.record with
  | error e => exact .untouched e
  | ok successor =>
    rw [run_lift_bind rfl]
    have hcases := replace_cases io successor j
    generalize (replace io successor).run j = result at hcases
    obtain ⟨j', outcome⟩ := result
    cases hcases with
    | untouched e => exact .untouched e
    | leftover bytes e => exact .leftover bytes e
    | unsynced bytes e hbytes => exact .unsynced e hnext hbytes
    | done bytes hbytes => exact .done hnext hbytes

/-! ## What the file says -/

/-- The file of the journal is read as this record. -/
def Journal.Shows (j : Journal) (r : PrivateAttemptRecordV4) : Prop :=
  ∃ bytes, j.file = some bytes ∧ PrivateAttemptRecordV4.parse bytes = .ok r

variable {j : Journal}

theorem Journal.Shows.unique {r r' : PrivateAttemptRecordV4} (h : j.Shows r)
    (h' : j.Shows r') : r = r' := by
  obtain ⟨bytes, hfile, hparse⟩ := h
  obtain ⟨bytes', hfile', hparse'⟩ := h'
  cases hfile.symm.trans hfile'
  exact Except.ok.inj (hparse.symm.trans hparse')

variable {r : PrivateAttemptRecordV4} {bytes : List UInt8}

theorem shows_encoded [LawfulJournalWire] (hbytes : r.encode = .ok bytes)
    (hfile : j.file = some bytes) : j.Shows r :=
  ⟨bytes, hfile, PrivateAttemptRecordV4.parse_encode hbytes⟩

theorem run_readBack (io : ReadIo) (j : Journal) : (readBack io).run j = (j, j.readBack io) :=
  run_inspect_bind _

/-- A text that is read in full or up to the bound is read in full. -/
theorem parse_take
    (h : PrivateAttemptRecordV4.parse (bytes.take (maxPrivateRecordBytes + 1)) = .ok r) :
    PrivateAttemptRecordV4.parse bytes = .ok r := by
  have hlength := (PrivateAttemptRecordV4.parse_eq_ok.1 h).1
  rw [List.length_take] at hlength
  rwa [List.take_of_length_le (by omega)] at h

/-- A read that succeeds finds the record in memory. -/
theorem readBack_eq_ok {io : ReadIo} (h : j.readBack io = .ok r) :
    r = j.record ∧ j.Shows j.record := by
  simp only [Journal.readBack, bind_eq_ok, okOr_eq_ok] at h
  obtain ⟨-, -, bytes, hfile, -, -, -, -, -, -, record, hparse, ⟨⟩, hsame, ⟨⟩⟩ := h
  rw [reject_eq_ok, not_not] at hsame
  subst hsame
  exact ⟨rfl, bytes, hfile, parse_take hparse⟩

/-! ## Operations on the file -/

/-- What an operation can do to the record in memory and to its file. -/
inductive Moved (op : Operation) (j : Journal) : Journal → Except String Unit → Prop
  /-- It failed before it changed either. -/
  | kept {j' : Journal} {e : String} (hrecord : j'.record = j.record) (hfile : j'.file = j.file) :
    Moved op j j' (.error e)
  /-- The file says what is in memory. -/
  | settled {j' : Journal} (result : Except String Unit)
    (hrecord : j'.record = j.record ∨ j'.record ∈ op.successors j.record)
      (hshows : j'.Shows j'.record) :
    Moved op j j' result
  /-- It failed after a rename: the file says what it was installing. -/
  | ahead {j' : Journal} {r : PrivateAttemptRecordV4} {e : String}
    (hrecord : j'.record = j.record ∨ j'.record ∈ op.successors j.record)
    (hknown : j'.record.releaseKnowledge = j.record.releaseKnowledge)
      (hmem : r ∈ op.successors j.record) (hshows : j'.Shows r) : Moved op j j' (.error e)
  /-- The file is removed. -/
  | removed {j' : Journal} (result : Except String Unit) (hretired : j'.record.phase = .retired)
    (hmem : j'.record ∈ op.successors j.record) (hfile : j'.file = none) : Moved op j j' result

omit [Sha256] [JournalWire] in
theorem toOption_mem {x : Except String PrivateAttemptRecordV4} (h : x = .ok r) :
    r ∈ x.toOption.toList := by
  rw [h]
  exact List.mem_singleton.2 rfl

variable [LawfulJournalWire]

variable {result : Except String Unit}

theorem moved_install {op : Operation}
    {next : PrivateAttemptRecordV4 → Except String PrivateAttemptRecordV4}
    {j j' : Journal} (h : Installed j next j' result)
    (hnext : ∀ r, next j.record = .ok r → r ∈ op.successors j.record) : Moved op j j' result := by
  cases h with
  | untouched e | leftover bytes e => exact .kept rfl rfl
  | unsynced e h hbytes => exact .ahead (.inl rfl) rfl (hnext _ h) (shows_encoded hbytes rfl)
  | done h hbytes => exact .settled _ (.inr (hnext _ h)) (shows_encoded hbytes rfl)

omit [LawfulJournalWire] in
/-- What follows a part of an operation that has settled. -/
theorem Moved.after {op op' : Operation} {j j₁ j' : Journal} (h : Moved op' j₁ j' result)
    (hshows : j₁.Shows j₁.record) (hknown : j₁.record.releaseKnowledge = j.record.releaseKnowledge)
    (hmem : j₁.record ∈ op.successors j.record)
    (hsuccessors : ∀ r ∈ op'.successors j₁.record, r ∈ op.successors j.record) :
    Moved op j j' result := by
  cases h with
  | kept hrecord hfile =>
    refine .settled _ (.inr (hrecord ▸ hmem)) ?_
    obtain ⟨bytes, hbytes, hparse⟩ := hshows
    exact ⟨bytes, hfile.trans hbytes, hrecord ▸ hparse⟩
  | settled result hrecord hshows =>
    refine .settled _ (.inr ?_) hshows
    rcases hrecord with hsame | hin
    · exact hsame ▸ hmem
    · exact hsuccessors _ hin
  | ahead hrecord hsame hin hshows =>
    refine .ahead (.inr ?_) (hsame.trans hknown) (hsuccessors _ hin) hshows
    rcases hrecord with hold | hnew
    · exact hold ▸ hmem
    · exact hsuccessors _ hnew
  | removed result hretired hin hfile => exact .removed _ hretired (hsuccessors _ hin) hfile

theorem moved_removeRetired (io : RemoveIo) (permit : VerifiedPrivateRetirement) (j : Journal) :
    Moved (.retireAfterNativeCleanup io permit) j ((removeRetired io).run j).1
      ((removeRetired io).run j).2 := by
  have hcases := install_cases io.replace PrivateAttemptRecordV4.retired j
  unfold removeRetired
  rw [run_bind]
  generalize (install io.replace PrivateAttemptRecordV4.retired).run j = stop at hcases
  obtain ⟨j₁, outcome⟩ := stop
  cases outcome with
  | error e => exact moved_install hcases fun r hr => toOption_mem hr
  | ok u =>
    cases hcases with
    | @done successor bytes hnext hbytes =>
      have hretired : successor.phase = .retired := by
        unfold PrivateAttemptRecordV4.retired PrivateAttemptRecordV4.follows at hnext
        obtain ⟨-, ⟨⟩⟩ := reject_bind_eq_ok.1 hnext
        rfl
      dsimp only
      cases io.removed with
      | error e => exact .settled _ (.inr (toOption_mem hnext)) (shows_encoded hbytes rfl)
      | ok u =>
        cases io.directorySynced with
        | error e | ok u => exact .removed _ hretired (toOption_mem hnext) rfl

theorem moved_retireUnallocated (io : ReplaceIo) (remove : RemoveIo) (j : Journal) :
    Moved (.retireUnallocated io remove) j ((retireUnallocated io remove).run j).1
      ((retireUnallocated io remove).run j).2 := by
  unfold retireUnallocated
  rw [run_inspect_bind, run_bind, run_lift]
  cases reject "V4 direct retirement requires a pre-boundary record" (j.record.phase ≠ .allocated)
    with
  | error e => exact .kept rfl rfl
  | ok u =>
    have hcases := install_cases io PrivateAttemptRecordV4.retiring j
    dsimp only
    rw [run_bind]
    generalize (install io PrivateAttemptRecordV4.retiring).run j = stop at hcases
    obtain ⟨j₁, outcome⟩ := stop
    cases outcome with
    | error e =>
      refine moved_install hcases fun r hr => ?_
      exact List.mem_flatMap.2 ⟨r, toOption_mem hr, List.mem_cons_self ..⟩
    | ok u =>
      cases hcases with
      | @done successor bytes hnext hbytes =>
        have hknown : successor.releaseKnowledge = j.record.releaseKnowledge := by
          obtain ⟨-, ⟨⟩⟩ := reject_bind_eq_ok.1 hnext
          rfl
        refine (moved_removeRetired remove (.observed successor) _).after (shows_encoded hbytes rfl)
          hknown ?_ ?_
        · exact List.mem_flatMap.2 ⟨successor, toOption_mem hnext, List.mem_cons_self ..⟩
        · intro r hr
          exact List.mem_flatMap.2 ⟨successor, toOption_mem hnext, List.mem_cons_of_mem _ hr⟩

theorem moved_commitGatedFacts (io : ReplaceIo) (read : ReadIo) (facts : OperationalGatedFacts)
    (j : Journal) :
    Moved (.update (.commitGatedFacts facts) io read) j ((commitGatedFacts io read facts).run j).1
      ((commitGatedFacts io read facts).run j).2 := by
  have hcases := install_cases io (PrivateAttemptRecordV4.commitGatedFacts facts) j
  unfold commitGatedFacts
  rw [run_bind]
  generalize (install io (PrivateAttemptRecordV4.commitGatedFacts facts)).run j = stop at hcases
  obtain ⟨j₁, outcome⟩ := stop
  have hmoved : Moved (.update (.commitGatedFacts facts) io read) j j₁ outcome :=
    moved_install hcases fun r hr => toOption_mem hr
  cases outcome with
  | error e => exact hmoved
  | ok u =>
    -- the file is read back, and stays as it is
    cases hcases with
    | @done successor bytes hnext hbytes =>
      have hsettled :
          ∀ result, Moved (.update (.commitGatedFacts facts) io read) j
            ⟨successor, some bytes, none⟩ result :=
        fun result => .settled result (.inr (toOption_mem hnext)) (shows_encoded hbytes rfl)
      dsimp only
      rw [run_bind, run_readBack]
      cases Journal.readBack read ⟨successor, some bytes, none⟩ with
      | error e | ok r => exact hsettled _

/-- **All that an operation can do to the record in memory and to its file.** -/
theorem moved_task (op : Operation) (j : Journal) :
    Moved op j (op.task.run j).1 (op.task.run j).2 := by
  cases op with
  | update u io read =>
    cases u with
    | commitGatedFacts facts => exact moved_commitGatedFacts io read facts j
    | _ => exact moved_install (install_cases io _ j) fun r hr => toOption_mem hr
  | readBack io =>
    change Moved _ j ((readBack io >>= fun _ => pure ()).run j).1
      ((readBack io >>= fun _ => pure ()).run j).2
    rw [run_bind, run_readBack]
    cases hread : j.readBack io with
    | error e => exact .kept rfl rfl
    | ok r => exact .settled _ (.inl rfl) (readBack_eq_ok hread).2
  | retireUnallocated io remove => exact moved_retireUnallocated io remove j
  | retireAfterNativeCleanup io permit =>
    unfold Operation.task retireAfterNativeCleanup
    rw [run_inspect_bind, run_bind, run_lift]
    cases reject "V4 retirement permit differs from durable attempt"
        (permit ≠ VerifiedPrivateRetirement.observed j.record) with
    | error e => exact .kept rfl rfl
    | ok u => exact moved_removeRetired io permit j

omit [LawfulJournalWire] in
/-- The record in memory stays, or becomes one that the operation installs. -/
theorem Moved.record {op : Operation} {j j' : Journal} (h : Moved op j j' result) :
    j'.record = j.record ∨ j'.record ∈ op.successors j.record := by
  cases h with
  | kept hrecord hfile => exact .inl hrecord
  | settled result hrecord hshows | ahead hrecord hknown hmem hshows => exact hrecord
  | removed result hretired hmem hfile => exact .inr hmem

/-! ## A record of failure after a failure -/

/-- The record that `cleanup_incomplete` installs. -/
def incomplete (r : PrivateAttemptRecordV4) (error : BoundedText 4096) : PrivateAttemptRecordV4 :=
  { r with phase := .cleanupIncomplete, cleanupError := some error }

omit [JournalWire] [LawfulJournalWire] in
/-- An incomplete cleanup can be recorded at any phase. -/
theorem validate_incomplete (h : r.validate = .ok ()) (error : BoundedText 4096) :
    (incomplete r error).validate = .ok () := by
  obtain ⟨hnative, -, -, hfacts, hcheckpoint, hrelease, -⟩ :=
    PrivateAttemptRecordV4.validate_eq_ok.1 h
  have hknowledge := (unit_bind_eq_ok.1 hrelease).1
  refine PrivateAttemptRecordV4.validate_eq_ok.2 ⟨hnative, rfl, rfl, hfacts, hcheckpoint, ?_, rfl⟩
  exact unit_bind_eq_ok.2 ⟨hknowledge, rfl⟩

variable {next : PrivateAttemptRecordV4}

omit [LawfulJournalWire] in
theorem run_replace_allOk (hnext : next.encode = .ok bytes) (htemporary : j.temporary = none) :
    (replace .allOk next).run j = (⟨next, some bytes, none⟩, .ok ()) := by
  obtain ⟨record, file, temporary⟩ := j
  subst htemporary
  unfold replace
  rw [hnext]
  rfl

omit [LawfulJournalWire] in
theorem run_install_allOk
    {successor : PrivateAttemptRecordV4 → Except String PrivateAttemptRecordV4}
    (hsuccessor : successor j.record = .ok next) (hnext : next.encode = .ok bytes)
    (htemporary : j.temporary = none) :
    (install .allOk successor).run j = (⟨next, some bytes, none⟩, .ok ()) := by
  unfold install
  rw [run_inspect_bind, run_lift_bind hsuccessor]
  exact run_replace_allOk hnext htemporary

/-- A record that was written is read back. -/
theorem readBack_encoded (hnext : next.encode = .ok bytes) (temporary : Option (List UInt8)) :
    Journal.readBack ⟨.ok (), .ok (), true, .ok ()⟩ ⟨next, some bytes, temporary⟩ = .ok next := by
  have hshort : bytes.length ≤ maxPrivateRecordBytes := by
    obtain ⟨-, payload, -, hlength, rfl⟩ := PrivateAttemptRecordV4.encode_eq_ok.1 hnext
    exact hlength
  have hparse : PrivateAttemptRecordV4.parse (bytes.take (maxPrivateRecordBytes + 1)) =
      .ok next := by
    rw [List.take_of_length_le (by omega)]
    exact PrivateAttemptRecordV4.parse_encode hnext
  simp [Journal.readBack, okOr, hparse, reject, bind, Except.bind, pure, Except.pure]

/-- An update whose calls all succeed. -/
theorem run_task_allOk {u : Update} (hsuccessor : u.next j.record = .ok next)
    (hnext : next.encode = .ok bytes) (htemporary : j.temporary = none) :
    (u.task .allOk ⟨.ok (), .ok (), true, .ok ()⟩).run j = (⟨next, some bytes, none⟩, .ok ()) := by
  have hinstall : (install .allOk u.next).run j = (⟨next, some bytes, none⟩, .ok ()) :=
    run_install_allOk hsuccessor hnext htemporary
  cases u with
  | commitGatedFacts facts =>
    refine (run_bind_ok hinstall).trans ?_
    rw [run_bind_ok ((run_readBack _ _).trans (congrArg _ (readBack_encoded hnext none))),
      run_inspect_bind]
    simp [reject]
  | _ => exact hinstall

omit [LawfulJournalWire] in
/-- A file `.new` is in the way of every replacement. -/
theorem run_replace_leftover (io : ReplaceIo) (next : PrivateAttemptRecordV4)
    (htemporary : j.temporary.isSome = true) : ∃ e, (replace io next).run j = (j, .error e) := by
  obtain ⟨record, file, _ | present⟩ := j
  · cases htemporary
  · unfold replace
    cases next.encode with
    | error e => exact ⟨e, rfl⟩
    | ok bytes =>
      cases io.opened with
      | error e => exact ⟨e, rfl⟩
      | ok u => exact ⟨"File exists (os error 17)", rfl⟩

/-- The failed call of a replacement leaves no file `.new`: it is the open, or the sync of the
directory. -/
def ReplaceIo.LeavesNothing (io : ReplaceIo) : Prop :=
  io.opened ≠ .ok () ∨ (io.written = .ok () ∧ io.synced = .ok () ∧ io.renamed = .ok ())

omit [LawfulJournalWire] in
theorem run_replace_fails {io : ReplaceIo} (hfails : io ≠ .allOk) (hnext : next.encode = .ok bytes)
    (htemporary : j.temporary = none) :
    ∃ j₁ e, (replace io next).run j = (j₁, .error e) ∧ j₁.record = j.record ∧
      (j₁.temporary = none ↔ io.LeavesNothing) := by
  obtain ⟨opened, written, synced, renamed, directorySynced⟩ := io
  obtain ⟨record, file, temporary⟩ := j
  subst htemporary
  unfold replace ReplaceIo.LeavesNothing
  rw [hnext]
  cases opened with
  | error e => exact ⟨_, e, rfl, rfl, by simp⟩
  | ok u =>
    cases written with
    | error failure => exact ⟨_, failure.2, rfl, rfl, by simp⟩
    | ok u =>
      cases synced with
      | error e => exact ⟨_, e, rfl, rfl, by simp⟩
      | ok u =>
        cases renamed with
        | error e => exact ⟨_, e, rfl, rfl, by simp⟩
        | ok u =>
          cases directorySynced with
          | error e => exact ⟨_, e, rfl, rfl, by simp⟩
          | ok u => exact absurd rfl hfails

omit [LawfulJournalWire] in
/-- An update whose replacement fails ends there. -/
theorem run_task_of_error (read : ReadIo) {u : Update} {io : ReplaceIo} {j j₁ : Journal}
    {e : String}
    (hnext : u.next j.record = .ok next) (h : (replace io next).run j = (j₁, .error e)) :
    (u.task io read).run j = (j₁, .error e) := by
  have hinstall : (install io u.next).run j = (j₁, .error e) := by
    unfold install
    rw [run_inspect_bind, run_lift_bind hnext]
    exact h
  cases u with
  | commitGatedFacts facts => exact run_bind_error hinstall
  | _ => exact hinstall

/-- The file says that the cleanup is incomplete, with this detail. -/
def Journal.SaysIncomplete (j : Journal) (detail : String) : Prop :=
  ∃ r error, j.Shows r ∧ r.phase = .cleanupIncomplete ∧ r.cleanupError = some error ∧
    error.bytes = CodedText.bytes detail

/-- **A failed update can be followed by a record of the failure exactly when it left no file
`.new`.** -/
theorem cleanupIncomplete_after_failure_iff (j : Journal) (hvalid : j.record.validate = .ok ())
    (hphase : j.record.phase ≠ .retired) (htemporary : j.temporary = none)
    (u : Update) (next : PrivateAttemptRecordV4) (bytes : List UInt8)
    (hnext : u.next j.record = .ok next)
    (hencode : next.encode = .ok bytes) (io : ReplaceIo) (read read' : ReadIo)
    (hfails : io ≠ .allOk)
    (detail : String) (error : BoundedText 4096) (hdetail : boundedText 4096 detail = .ok error)
    (payload : List UInt8)
    (hpayload : JournalWire.payload (incomplete j.record error) = .ok payload)
    (hshort : ((incomplete j.record error).text payload).length ≤ maxPrivateRecordBytes) :
    (∃ j', ((Update.cleanupIncomplete detail).task .allOk read').run ((u.task io read).run j).1 =
      (j', .ok ()) ∧ j'.SaysIncomplete detail) ↔ io.LeavesNothing := by
  obtain ⟨j₁, e, hrun, hrecord, hiff⟩ := run_replace_fails hfails hencode htemporary
  rw [run_task_of_error read hnext hrun]
  have hcleanup :
      (Update.cleanupIncomplete detail).next j₁.record = .ok (incomplete j.record error) := by
    rw [hrecord]
    change (reject _ (j.record.phase = .retired) >>= fun _ => _) = _
    rw [reject_bind_eq_ok]
    exact ⟨hphase, by rw [hdetail]; rfl⟩
  have hinstall : ((Update.cleanupIncomplete detail).task .allOk read').run j₁ =
      (replace .allOk (incomplete j.record error)).run j₁ := by
    change (install .allOk (Update.cleanupIncomplete detail).next).run j₁ = _
    unfold install
    rw [run_inspect_bind, run_lift_bind hcleanup]
  rw [hinstall, ← hiff]
  constructor
  · rintro ⟨j', hok, -⟩
    by_contra hleft
    obtain ⟨e', herror⟩ := run_replace_leftover .allOk (incomplete j.record error)
      (Option.isSome_iff_ne_none.2 hleft)
    cases hok.symm.trans herror
  · intro hnone
    have hbytes := PrivateAttemptRecordV4.encode_eq_ok.2
      ⟨validate_incomplete hvalid error, payload, hpayload, hshort, rfl⟩
    refine ⟨_, run_replace_allOk hbytes hnone, incomplete j.record error, error,
      shows_encoded hbytes rfl, rfl, rfl, ?_⟩
    exact boundedText_eq_ok.1 hdetail

end Journal

namespace Sample

/-- A detail of an incomplete cleanup. -/
def detail : BoundedText 4096 :=
  ⟨CodedText.bytes "lost", by decide, by decide, CodedText.isUtf8_bytes _⟩

def bounded : PrivateAttemptRecordV4 := { allocated with phase := .boundaryCreated }

def early : List PrivateAttemptRecordV4 := [allocated, bounded, incomplete allocated detail]

/-- A wire for these records. -/
@[reducible] def earlyWire : JournalWire := tableWire early

theorem isTable_early : isTable early = true := by decide +kernel

theorem lawful_earlyWire : @LawfulJournalWire earlyWire := lawful_tableWire isTable_early

/-- A journal whose file has the text of the record. -/
def journal [Sha256] (record : PrivateAttemptRecordV4) : Journal :=
  ⟨record, some (record.text (json record)), none⟩

def reads : ReadIo := ⟨.ok (), .ok (), true, .ok ()⟩

end Sample

section

attribute [local instance] zeroHash Sample.earlyWire Sample.lawful_earlyWire

open Sample

theorem encode_bounded : bounded.encode = .ok (bounded.text (json bounded)) :=
  encode_of_mem isTable_early (by decide +kernel) (by decide +kernel)

/-- A failed sync of the directory can be followed by a record of it. -/
theorem unsynced_directory_recorded :
    ∃ j', ((Update.cleanupIncomplete "lost").task .allOk reads).run
      ((Update.boundaryCreated.task { ReplaceIo.allOk with
          directorySynced := .error "io" } reads).run
        (journal allocated)).1 = (j', .ok ()) ∧ j'.SaysIncomplete "lost" := by
  refine (cleanupIncomplete_after_failure_iff (journal allocated) (by decide +kernel)
    (by decide) rfl .boundaryCreated bounded _ rfl encode_bounded _ reads reads ?_ "lost" detail
    (boundedText_eq_ok.2 rfl) (json (incomplete allocated detail)) rfl (by decide +kernel)).2
    (.inr ⟨rfl, rfl, rfl⟩)
  intro h
  cases congrArg ReplaceIo.directorySynced h

/-- A failed write leaves the file `.new`, and the failure cannot be recorded. -/
theorem failed_write_not_recorded : allocated.validate = .ok () ∧ ∃ j₁,
    (Update.boundaryCreated.task { ReplaceIo.allOk with written := .error (10, "io") } reads).run
      (journal allocated) = (j₁, .error "io") ∧
    ¬ ∃ j', ((Update.cleanupIncomplete "lost").task .allOk reads).run j₁ = (j', .ok ()) := by
  have hrun : (replace { ReplaceIo.allOk with written := .error (10, "io") } bounded).run
      (journal allocated) =
        ({ journal allocated with temporary := some ((bounded.text (json bounded)).take 10) },
          .error "io") := by
    unfold replace
    rw [encode_bounded]
    rfl
  refine ⟨by decide +kernel, _, run_task_of_error reads (u := .boundaryCreated) rfl hrun, ?_⟩
  rintro ⟨j', hok⟩
  obtain ⟨e, herror⟩ := run_replace_leftover .allOk (incomplete allocated detail)
    (j := { journal allocated with temporary := some ((bounded.text (json bounded)).take 10) }) rfl
  have hrefused := run_task_of_error reads (u := .cleanupIncomplete "lost") rfl herror
  cases hok.symm.trans hrefused

end

end MemCordon.PrivateAttempt
