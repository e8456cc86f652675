import MemCordon.Agent.PrivateJournal
import MemCordon.Foundations.Runs

/-!
# The owner of a private attempt

`PrivateAttemptOwner` of `linux/private_lifecycle.rs`: it holds the durable journal and the native
resources, sends the byte that releases the target. Its retirement is in `PrivateRetirement`.

* `journal_tracks_memory`: in every run of journal operations and releases the file of the journal
  is read as the record in memory, or as one that an operation which failed since was installing;
  the byte is sent only when the file says that the target may be released, and the file says so
  from then on.
-/

namespace MemCordon.PrivateAttempt

open Workload Fallible

/-! ## Release -/

section Release

variable [Sha256] [JournalWire]

/-- What the checks and calls of a release return: the identity of the target behind its pidfd, the
guardian, the channel, the decision of the admission, the clock and the send. -/
structure ReleaseIo where
  liveTarget : Except String Unit
  guardianLive : Bool
  control : Bool
  admitted : Except String Unit
  monotonicMillis : Except String ℕ
  sent : Except String Unit

/-- `PrivateAttemptOwner::release_operational`. It returns the clock of the release, after the byte
was sent. -/
def releaseOperational (io : ReleaseIo) (r : PrivateAttemptRecordV4) : Except String ℕ := do
  reject "MCSEALED-PRIVATE-RELEASE: durable release intent absent" (r.phase ≠ .releaseIntent)
  io.liveTarget
  reject "MCSEALED-PRIVATE-RELEASE: guardian no longer live" (io.guardianLive = false)
  reject "MCSEALED-PRIVATE-RELEASE: setup channel absent" (io.control = false)
  io.admitted
  let sampled ← io.monotonicMillis
  io.sent
  return sampled

variable {r : PrivateAttemptRecordV4}

omit [Sha256] [JournalWire] in
theorem phase_of_releaseOperational {io : ReleaseIo}
    (h : (releaseOperational io r).isOk = true) : r.phase = .releaseIntent := by
  by_contra hphase
  simp [releaseOperational, reject, hphase, bind, Except.bind, Except.isOk, Except.toBool] at h

/-- A step of the owner: an operation of the journal, or an attempt to send the byte. -/
inductive Event
  | operation (op : Operation)
  | release (io : ReleaseIo)

/-- The journal, the records that the operations which failed since the last success were
installing, and whether the byte was sent. -/
structure OwnerState where
  journal : Journal
  failed : List PrivateAttemptRecordV4
  sent : Bool

def Event.apply (s : OwnerState) : Event → OwnerState
  | operation op => {
      journal := (op.task.run s.journal).1
      failed := match (op.task.run s.journal).2 with
        | .ok () => []
        | .error _ => s.failed ++ op.successors s.journal.record
      sent := s.sent }
  | release io => { s with sent := s.sent || (releaseOperational io s.journal.record).isOk }

variable {s : OwnerState}

theorem apply_of_error {j : Journal} {e : String} (op : Operation)
    (h : op.task.run s.journal = (j, .error e)) :
    Event.apply s (.operation op) = ⟨j, s.failed ++ op.successors s.journal.record, s.sent⟩ := by
  simp only [Event.apply, h]

def OwnerState.run (s : OwnerState) (events : List Event) : OwnerState := events.foldl Event.apply s

/-! ## What is known about the release -/

/-- What is known about the release in a record and in a successor: it is not forgotten, a release
intent comes with it, and an observed exec is that of the record or comes from this operation. -/
structure Remembers (op : Operation) (r r' : PrivateAttemptRecordV4) : Prop where
  known : r.releaseKnowledge ≠ .notReleased → r'.releaseKnowledge ≠ .notReleased
  intent : r'.phase = .releaseIntent → r'.releaseKnowledge = .possiblyReleased
  observed : r'.releaseKnowledge = .execObserved →
    r.releaseKnowledge = .execObserved ∨ ∃ io read, op = .update .executionObserved io read

variable {r r' : PrivateAttemptRecordV4} {op : Operation}

omit [Sha256] [JournalWire] in
/-- A successor in another phase, with the same knowledge. -/
theorem Remembers.same (hknown : r'.releaseKnowledge = r.releaseKnowledge)
    (hphase : r'.phase ≠ .releaseIntent) : Remembers op r r' :=
  ⟨fun h => hknown ▸ h, fun h => absurd h hphase, fun h => .inl (hknown ▸ h)⟩

omit [JournalWire] in
theorem remembers_next {u : Update} {io : ReplaceIo} {read : ReadIo} (h : u.next r = .ok r') :
    Remembers (.update u io read) r r' := by
  cases u with
  | attachAdmissionMetadata metadata =>
    obtain ⟨hphase, hrest⟩ := reject_bind_eq_ok.1 h
    obtain ⟨-, hrest⟩ := unit_bind_eq_ok.1 hrest
    obtain ⟨digest, -, ⟨⟩⟩ := bind_eq_ok.1 hrest
    rw [not_or, not_not] at hphase
    exact .same rfl (by simp [hphase.1])
  | boundaryCreated | commitGatedFacts facts =>
    obtain ⟨-, ⟨⟩⟩ := reject_bind_eq_ok.1 h
    exact .same rfl nofun
  | releaseIntent =>
    obtain ⟨-, ⟨⟩⟩ := reject_bind_eq_ok.1 h
    exact ⟨fun _ => nofun, fun _ => rfl, nofun⟩
  | guardianReady guardian | targetGated namespaceInit target inode | retiring =>
    obtain ⟨-, ⟨⟩⟩ := reject_bind_eq_ok.1 h
    exact .same rfl nofun
  | executionObserved =>
    obtain ⟨-, ⟨⟩⟩ := reject_bind_eq_ok.1 h
    exact ⟨fun _ => nofun, nofun, fun _ => .inr ⟨io, read, rfl⟩⟩
  | cleanupIncomplete detail =>
    obtain ⟨-, hrest⟩ := reject_bind_eq_ok.1 h
    obtain ⟨error, -, ⟨⟩⟩ := bind_eq_ok.1 hrest
    exact .same rfl nofun

omit [Sha256] [JournalWire] in
theorem mem_toOption {x : Except String PrivateAttemptRecordV4} (h : r ∈ x.toOption.toList) :
    x = .ok r := by
  cases x with
  | error e => cases h
  | ok a => rw [List.mem_singleton.1 h]

omit [JournalWire] in
/-- Every record that an operation installs remembers what is known about the release. -/
theorem remembers_successors (h : r' ∈ op.successors r) : Remembers op r r' := by
  cases op with
  | update u io read => exact remembers_next (mem_toOption h)
  | readBack io => cases h
  | retireUnallocated io remove =>
    obtain ⟨retiring, hretiring, hmem⟩ := List.mem_flatMap.1 h
    obtain ⟨-, ⟨⟩⟩ := reject_bind_eq_ok.1 (mem_toOption hretiring)
    rcases List.mem_cons.1 hmem with rfl | hretired
    · exact .same rfl nofun
    · obtain ⟨-, ⟨⟩⟩ := reject_bind_eq_ok.1 (mem_toOption hretired)
      exact .same rfl nofun
  | retireAfterNativeCleanup io permit =>
    obtain ⟨-, ⟨⟩⟩ := reject_bind_eq_ok.1 (mem_toOption h)
    exact .same rfl nofun

/-! ## Runs -/

/-- No operation of the run is to observe an exec. -/
def NoExecObserved (events : List Event) : Prop :=
  ∀ io read, .operation (.update .executionObserved io read) ∉ events

/-- The record in memory and what its file says, after a run. -/
structure Tracked (events : List Event) (s : OwnerState) : Prop where
  file : (s.journal.file = none ∧ s.journal.record.phase = .retired) ∨
    ∃ r, s.journal.Shows r ∧ (r = s.journal.record ∨ r ∈ s.failed)
  intent : s.journal.record.phase = .releaseIntent →
    s.journal.record.releaseKnowledge = .possiblyReleased
  known : ∀ r, s.journal.Shows r → s.journal.record.releaseKnowledge ≠ .notReleased →
    r.releaseKnowledge ≠ .notReleased
  unobserved : NoExecObserved events → s.journal.record.releaseKnowledge ≠ .execObserved ∧
    ∀ r, s.journal.Shows r → r.releaseKnowledge ≠ .execObserved
  sent : s.sent = true → s.journal.record.releaseKnowledge ≠ .notReleased

variable [LawfulJournalWire]

variable {events : List Event}

omit [Sha256] [JournalWire] [LawfulJournalWire] in
theorem noExecObserved_append {event : Event} (h : NoExecObserved (events ++ [event])) :
    NoExecObserved events ∧ ∀ io read, event ≠ .operation (.update .executionObserved io read) := by
  refine ⟨fun io read hmem => h io read (List.mem_append_left _ hmem), fun io read heq => ?_⟩
  exact h io read (List.mem_append_right _ (List.mem_singleton.2 heq.symm))

variable {result : Except String Unit} {j j' : Journal}

omit [LawfulJournalWire] in
/-- The record in memory remembers, as the records that an operation installs do. -/
theorem Moved.remembers (h : Moved op j j' result)
    (hintent : j.record.phase = .releaseIntent → j.record.releaseKnowledge = .possiblyReleased) :
    Remembers op j.record j'.record := by
  rcases h.record with hsame | hmem
  · rw [hsame]
    exact ⟨id, hintent, .inl⟩
  · exact remembers_successors hmem

omit [LawfulJournalWire] in
/-- What the file says after an operation: what it said, what is in memory, or what the operation
was installing. -/
theorem Moved.shows (h : Moved op j j' result) (hr : j'.Shows r) :
    (j.Shows r ∧ j'.record = j.record) ∨ r = j'.record ∨
      (r ∈ op.successors j.record ∧ j'.record.releaseKnowledge = j.record.releaseKnowledge) := by
  cases h with
  | kept hrecord hfile =>
    obtain ⟨bytes, hbytes, hparse⟩ := hr
    exact .inl ⟨⟨bytes, hfile ▸ hbytes, hparse⟩, hrecord⟩
  | settled result hrecord hshows => exact .inr (.inl (hr.unique hshows))
  | ahead hrecord hknown hmem hshows => exact .inr (.inr ⟨hr.unique hshows ▸ hmem, hknown⟩)
  | removed result hretired hmem hfile =>
    obtain ⟨bytes, hbytes, -⟩ := hr
    cases hfile.symm.trans hbytes

omit [LawfulJournalWire] in
/-- The file after an operation, as it is tracked: it is removed, or it says what is in memory or
what a failed operation was installing. -/
theorem Moved.file (h : Moved op j j' result) {failed : List PrivateAttemptRecordV4}
    (hfile : (j.file = none ∧ j.record.phase = .retired) ∨ ∃ r, j.Shows r ∧
    (r = j.record ∨ r ∈ failed)) :
    (j'.file = none ∧ j'.record.phase = .retired) ∨ ∃ r, j'.Shows r ∧
      (r = j'.record ∨ r ∈ match result with
        | .ok () => []
        | .error _ => failed ++ op.successors j.record) := by
  cases h with
  | kept hrecord hsame =>
    rw [hrecord, hsame]
    refine hfile.imp id ?_
    rintro ⟨r, ⟨bytes, hbytes, hparse⟩, hr⟩
    exact ⟨r, ⟨bytes, hsame.trans hbytes, hparse⟩, hr.imp id (List.mem_append_left _)⟩
  | settled result hrecord hshows => exact .inr ⟨_, hshows, .inl rfl⟩
  | ahead hrecord hknown hmem hshows => exact .inr ⟨_, hshows, .inr (List.mem_append_right _ hmem)⟩
  | removed result hretired hmem hnone => exact .inl ⟨hnone, hretired⟩

theorem tracked_operation (h : Tracked events s) (op : Operation) :
    Tracked (events ++ [.operation op]) (Event.apply s (.operation op)) := by
  have hmoved := moved_task op s.journal
  have hremembers := hmoved.remembers h.intent
  refine ⟨hmoved.file h.file, hremembers.intent, fun r hr hknown => ?_, fun hnone => ?_,
    fun hsent => ?_⟩
  · rcases hmoved.shows hr with ⟨hold, hsame⟩ | rfl | ⟨hmem, hsame⟩
    · exact h.known r hold (hsame ▸ hknown)
    · exact hknown
    · exact (remembers_successors hmem).known (hsame ▸ hknown)
  · obtain ⟨hbefore, hop⟩ := noExecObserved_append hnone
    have hnot : ¬ ∃ io read, op = .update .executionObserved io read := by
      rintro ⟨io, read, rfl⟩
      exact hop io read rfl
    have hrecord :
        (Event.apply s (.operation op)).journal.record.releaseKnowledge ≠ .execObserved :=
          fun hexec =>
      (hremembers.observed hexec).elim (h.unobserved hbefore).1 hnot
    refine ⟨hrecord, fun r hr => ?_⟩
    rcases hmoved.shows hr with ⟨hold, -⟩ | rfl | ⟨hmem, -⟩
    · exact (h.unobserved hbefore).2 r hold
    · exact hrecord
    · exact fun hexec =>
        ((remembers_successors hmem).observed hexec).elim (h.unobserved hbefore).1 hnot
  · exact hremembers.known (h.sent hsent)

omit [LawfulJournalWire] in
theorem tracked_release (h : Tracked events s) (io : ReleaseIo) :
    Tracked (events ++ [.release io]) (Event.apply s (.release io)) := by
  refine ⟨h.file, h.intent, h.known, fun hnone => h.unobserved (noExecObserved_append hnone).1,
    fun hsent => ?_⟩
  rcases Bool.or_eq_true_iff.1 hsent with hbefore | hnow
  · exact h.sent hbefore
  · change s.journal.record.releaseKnowledge ≠ _
    rw [h.intent (phase_of_releaseOperational hnow)]
    nofun

/-- The state after a successful `create`. -/
def created (j : Journal) : OwnerState := ⟨j, [], false⟩

theorem tracked_created {io : CreateIo} {file temporary : Option (List UInt8)}
    {record : PrivateAttemptRecordV4}
    {j : Journal} (h : createIn io file temporary record = .ok j) : Tracked [] (created j) := by
  unfold createIn at h
  obtain ⟨hphase, h⟩ := reject_bind_eq_ok.1 h
  obtain ⟨-, h⟩ := unit_bind_eq_ok.1 h
  obtain ⟨-, h⟩ := unit_bind_eq_ok.1 h
  obtain ⟨-, h⟩ := reject_bind_eq_ok.1 h
  obtain ⟨-, h⟩ := unit_bind_eq_ok.1 h
  obtain ⟨-, h⟩ := reject_bind_eq_ok.1 h
  obtain ⟨bytes, hbytes, h⟩ := bind_eq_ok.1 h
  obtain ⟨-, ⟨⟩⟩ := unit_bind_eq_ok.1 h
  have hallocated : record.phase = .allocated := not_not.1 hphase
  have hshows : (⟨record, some bytes, temporary⟩ : Journal).Shows record := shows_encoded hbytes rfl
  have hknown : record.releaseKnowledge = .notReleased := by
    have hrelease :=
      (PrivateAttemptRecordV4.validate_eq_ok.1
        (PrivateAttemptRecordV4.encode_eq_ok.1 hbytes).1).2.2.2.2.2.1
    have hcheck := (unit_bind_eq_ok.1 hrelease).2
    rw [hallocated] at hcheck
    exact not_not.1 (reject_eq_ok.1 hcheck)
  refine ⟨.inr ⟨record, hshows, .inl rfl⟩, ?_, ?_, ?_, nofun⟩
  · intro hintent
    cases hallocated.symm.trans hintent
  · intro r hr hreleased
    exact absurd hknown hreleased
  · intro _
    refine ⟨by rw [show (created _).journal.record = record from rfl, hknown]; nofun,
      fun r hr => ?_⟩
    rw [hr.unique hshows, hknown]
    nofun

theorem tracked_run {j : Journal} (h : Tracked [] (created j)) (events : List Event) :
    Tracked events ((created j).run events) := by
  have hallowed : Calls.AllAllowed Event.apply (created j) (fun _ _ => True) events :=
    fun _ _ _ _ => trivial
  refine Calls.invariant Tracked h (fun events s event htracked _ => ?_) hallowed
  cases event with
  | operation op => exact tracked_operation htracked op
  | release io => exact tracked_release htracked io

/-- **The journal of a private attempt in every run after its creation.** -/
theorem journal_tracks_memory (io : CreateIo) (file temporary : Option (List UInt8))
    (record : PrivateAttemptRecordV4)
    (j : Journal) (hcreate : createIn io file temporary record = .ok j) (events : List Event) :
    let s := (created j).run events
    ((s.journal.file = none ∧ s.journal.record.phase = .retired) ∨
      ∃ r, s.journal.Shows r ∧ (r = s.journal.record ∨ r ∈ s.failed)) ∧
    (∀ release, (releaseOperational release s.journal.record).isOk = true →
      ∃ r, s.journal.Shows r ∧ r.releaseKnowledge ≠ .notReleased ∧
        (NoExecObserved events → r.releaseKnowledge = .possiblyReleased)) ∧
    (s.sent = true → ∀ r, s.journal.Shows r → r.releaseKnowledge ≠ .notReleased) := by
  intro s
  have htracked : Tracked events s := tracked_run (tracked_created hcreate) events
  refine ⟨htracked.file, fun release hok => ?_,
    fun hsent r hr => htracked.known r hr (htracked.sent hsent)⟩
  have hphase : s.journal.record.phase = .releaseIntent := phase_of_releaseOperational hok
  have hknown : s.journal.record.releaseKnowledge ≠ .notReleased := by
    rw [htracked.intent hphase]
    nofun
  rcases htracked.file with ⟨-, hretired⟩ | ⟨r, hr, -⟩
  · cases hphase.symm.trans hretired
  · refine ⟨r, hr, htracked.known r hr hknown, fun hnone => ?_⟩
    have hreleased := htracked.known r hr hknown
    have hunobserved := (htracked.unobserved hnone).2 r hr
    cases hr' : r.releaseKnowledge with
    | notReleased => exact absurd hr' hreleased
    | possiblyReleased => rfl
    | execObserved => exact absurd hr' hunobserved

end Release

namespace Sample

/-- A creation without failures. -/
def creates : CreateIo := ⟨.ok (), .ok (), true, .ok (), .ok ()⟩

/-- A boundary whose directory is not synced. -/
def boundaryUnsynced : Operation :=
  .update .boundaryCreated ⟨.ok (), .ok (), .ok (), .ok (), .error "io"⟩ reads

/-- A record of a failure whose file cannot be opened. -/
def cleanupUnopened : Operation :=
  .update (.cleanupIncomplete "lost") ⟨.error "io", .ok (), .ok (), .ok (), .ok ()⟩ reads

/-- The observations of a gated target. -/
def facts : OperationalGatedFacts where
  format := "memcordon.private-gated-observation"
  revision := 1
  attemptBinding := List.Vector.replicate 32 0
  target := ⟨13, 14⟩
  init := ⟨11, 12⟩
  networkNamespaceInode := 15
  entrypointSha256 := List.Vector.replicate 32 0
  filterSha256 := List.Vector.replicate 32 0
  topologySha256 := List.Vector.replicate 32 0
  gatedDescriptorCount := 5

/-! The records of an attempt on its way to the release. -/

def attached : PrivateAttemptRecordV4 :=
  { allocated with
    binding :=
      some ⟨allocated.attemptId, List.Vector.replicate 32 0, allocated.callerEnvelopeDigest,
      metadata.invocationSha256⟩
    admissionMetadata := some metadata }

def attachedBounded : PrivateAttemptRecordV4 := { attached with phase := .boundaryCreated }

def guarded : PrivateAttemptRecordV4 :=
  { attached with guardian := some ⟨9, 10⟩, phase := .guardianReady }

def gated : PrivateAttemptRecordV4 :=
  { guarded with
    namespaceInit := some facts.init
    target := some facts.target
    networkNamespaceInode := some facts.networkNamespaceInode
    phase := .targetGated }

def committed : PrivateAttemptRecordV4 :=
  { gated with gatedFacts := some facts, phase := .checkpointCommitted }

def intended : PrivateAttemptRecordV4 :=
  { committed with phase := .releaseIntent, releaseKnowledge := .possiblyReleased }

def written : List PrivateAttemptRecordV4 :=
  [allocated, bounded, attached, attachedBounded, guarded, gated, committed, intended]

/-- A wire for these records. -/
@[reducible] def writtenWire : JournalWire := tableWire written

theorem isTable_written : isTable written = true := by decide +kernel

theorem lawful_writtenWire : @LawfulJournalWire writtenWire := lawful_tableWire isTable_written

/-- An update whose calls all succeed. -/
def updated (u : Update) : Event := .operation (.update u .allOk reads)

/-- A release whose checks pass and whose byte is sent. -/
def granted : ReleaseIo := ⟨.ok (), true, true, .ok (), .ok 50, .ok ()⟩

/-- The steps up to the release. The first attempt to record the boundary fails. -/
def toRelease : List Event :=
  [.operation boundaryUnsynced, updated (.attachAdmissionMetadata metadata),
    updated .boundaryCreated, updated (.guardianReady ⟨9, 10⟩),
    updated (.targetGated ⟨11, 12⟩ ⟨13, 14⟩ 15), updated (.commitGatedFacts facts),
    updated .releaseIntent, .release granted]

end Sample

section

attribute [local instance] zeroHash Sample.writtenWire Sample.lawful_writtenWire

open Sample

theorem encode_written {r : PrivateAttemptRecordV4} (h : r ∈ written) :
    r.encode = .ok (r.text (json r)) := by
  have hvalid : ∀ r ∈ written, r.validate = .ok () := by decide +kernel
  exact encode_of_mem isTable_written h (hvalid r h)

/-- The journal after a boundary whose directory was not synced. -/
def ahead : Journal := { journal allocated with file := some (bounded.text (json bounded)) }

theorem create_allocated : createIn creates none none allocated = .ok (journal allocated) := by
  unfold createIn
  rw [encode_written (by decide +kernel)]
  rfl

theorem run_boundaryUnsynced :
    boundaryUnsynced.task.run (journal allocated) = (ahead, .error "io") := by
  refine run_task_of_error reads (u := .boundaryCreated) rfl ?_
  change (replace _ bounded).run _ = _
  unfold replace
  rw [encode_written (by decide +kernel)]
  rfl

/-- A step to one of the records. -/
theorem apply_updated {s : OwnerState} {u : Update} {r : PrivateAttemptRecordV4}
    (hnext : u.next s.journal.record = .ok r) (hmem : r ∈ written)
    (htemporary : s.journal.temporary = none) :
    Event.apply s (updated u) = ⟨journal r, [], s.sent⟩ := by
  have hrun : (Operation.update u .allOk reads).task.run s.journal = (journal r, .ok ()) :=
    run_task_allOk hnext (encode_written hmem) htemporary
  simp only [updated, Event.apply, hrun]

theorem run_toRelease :
    (created (journal allocated)).run toRelease = ⟨journal intended, [], true⟩ := by
  have hfailed : Event.apply (created (journal allocated)) (.operation boundaryUnsynced) =
      ⟨ahead, [bounded], false⟩ := apply_of_error boundaryUnsynced run_boundaryUnsynced
  have hattached :
      Event.apply ⟨ahead, [bounded], false⟩ (updated (.attachAdmissionMetadata metadata)) =
      ⟨journal attached, [], false⟩ := apply_updated (by decide +kernel) (by decide +kernel) rfl
  have hbounded : Event.apply ⟨journal attached, [], false⟩ (updated .boundaryCreated) =
      ⟨journal attachedBounded, [], false⟩ := apply_updated rfl (by decide +kernel) rfl
  have hguarded :
      Event.apply ⟨journal attachedBounded, [], false⟩ (updated (.guardianReady ⟨9, 10⟩)) =
      ⟨journal guarded, [], false⟩ := apply_updated rfl (by decide +kernel) rfl
  have hgated :
      Event.apply ⟨journal guarded, [], false⟩ (updated (.targetGated ⟨11, 12⟩ ⟨13, 14⟩ 15)) =
      ⟨journal gated, [], false⟩ := apply_updated rfl (by decide +kernel) rfl
  have hcommitted : Event.apply ⟨journal gated, [], false⟩ (updated (.commitGatedFacts facts)) =
      ⟨journal committed, [], false⟩ := apply_updated rfl (by decide +kernel) rfl
  have hintended : Event.apply ⟨journal committed, [], false⟩ (updated .releaseIntent) =
      ⟨journal intended, [], false⟩ := apply_updated rfl (by decide +kernel) rfl
  simp only [OwnerState.run, toRelease, List.foldl_cons, List.foldl_nil, hfailed, hattached,
    hbounded, hguarded, hgated, hcommitted, hintended]
  rfl

/-- A run that goes on after a failure and sends the byte. The file says before and after the send
that the target may be released. -/
theorem journal_tracks_memory_released :
    let s := (created (journal allocated)).run toRelease
    s = ⟨journal intended, [], true⟩ ∧ (∃ r, s.journal.Shows r ∧ r = s.journal.record) ∧
      (∃ r, s.journal.Shows r ∧ r.releaseKnowledge = .possiblyReleased) ∧
      ∀ r, s.journal.Shows r → r.releaseKnowledge ≠ .notReleased := by
  intro s
  have hs : s = ⟨journal intended, [], true⟩ := run_toRelease
  have hexec : NoExecObserved toRelease := fun io read hmem => by
    simp [toRelease, updated, boundaryUnsynced] at hmem
  obtain ⟨hfile, hrelease, hsent⟩ :=
    journal_tracks_memory creates none none allocated _ create_allocated toRelease
  refine ⟨hs, ?_, ?_, hsent (congrArg OwnerState.sent hs)⟩
  · rcases hfile with ⟨hnone, -⟩ | ⟨r, hr, hmem⟩
    · cases (congrArg (fun s => s.journal.file) hs).symm.trans hnone
    · refine ⟨r, hr, hmem.resolve_right fun hfailed => ?_⟩
      rw [congrArg OwnerState.failed hs] at hfailed
      cases hfailed
  · obtain ⟨r, hr, -, hknown⟩ := hrelease granted (by rw [run_toRelease]; rfl)
    exact ⟨r, hr, hknown hexec⟩

theorem run_cleanupUnopened : ∃ e, cleanupUnopened.task.run ahead = (ahead, .error e) := by
  obtain ⟨e, herror⟩ : ∃ e, (replace ⟨.error "io", .ok (), .ok (), .ok (), .ok ()⟩
      (incomplete allocated detail)).run ahead = (ahead, .error e) := by
    unfold replace
    cases (incomplete allocated detail).encode with
    | error e => exact ⟨e, rfl⟩
    | ok bytes => exact ⟨"io", rfl⟩
  exact ⟨e, run_task_of_error reads (u := .cleanupIncomplete "lost") rfl herror⟩

/-- After two failures the file is neither the record in memory nor what the last failed operation
was installing. -/
theorem file_behind_last_failure :
    createIn creates none none allocated = .ok (journal allocated) ∧
    ∃ s, Event.apply (created (journal allocated)) (.operation boundaryUnsynced) = s ∧
      ∃ s' e, cleanupUnopened.task.run s.journal = (s'.journal, .error e) ∧
        Event.apply s (.operation cleanupUnopened) = s' ∧ s'.journal.Shows bounded ∧
        bounded ≠ s'.journal.record ∧
        bounded ∉ cleanupUnopened.successors s.journal.record := by
  obtain ⟨e, hcleanup⟩ := run_cleanupUnopened
  refine ⟨create_allocated, _, apply_of_error boundaryUnsynced run_boundaryUnsynced, _, e, ?_,
    apply_of_error cleanupUnopened hcleanup,
    shows_encoded (encode_written (by decide +kernel)) rfl, fun hsame => ?_, fun hmem => ?_⟩
  · exact hcleanup
  · cases congrArg PrivateAttemptRecordV4.phase hsame
  · have hnext : (Update.cleanupIncomplete "lost").next allocated =
        .ok (incomplete allocated detail) := rfl
    cases congrArg PrivateAttemptRecordV4.phase
      (Except.ok.inj (hnext.symm.trans (mem_toOption hmem)))

end

end MemCordon.PrivateAttempt
