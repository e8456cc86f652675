import MemCordon.Agent.PrivateJournal
import MemCordon.Agent.PrivateMonitor

/-!
# Retirement of private attempts

`PrivateAttemptOwner::retire` of `linux/private_lifecycle.rs` and the destructor. The owner settles
its native resources and removes the journal, or records why it could not. As `retire` consumes the
owner, the destructor runs at its end on every path (`retireOwned`).

* `exitCode_of_completed`: the retirement of a completed target returns a wait status.
* `dropped_error_iff`: the destructor writes an error of its own over the one that the retirement
  recorded.
-/

namespace MemCordon.PrivateAttempt

open Workload Fallible MemCordon.Task
open PrivateMonitor (PrivateMonitorOutcome)

/-! ## The owner -/

/-- `PrivateAttemptOwner`: its journal with the file on disk, whether it still holds it, and which
of its handles it has. -/
structure PrivateAttemptOwner where
  journal : Journal
  (record cgroup namespaceInit guardian targetPidfd network stdio relay control startup
    status : Bool)
  observedNativeWaitStatus : Option ℤ
  expectedDescriptors : Bool
  monitorOutcome : Option PrivateMonitorOutcome

def journalPart : Part PrivateAttemptOwner Journal where
  get o := o.journal
  set o j := { o with journal := j }
  get_set _ _ := rfl
  set_set _ _ _ := rfl
  set_get _ := rfl

def adjust (f : PrivateAttemptOwner → PrivateAttemptOwner) : Task PrivateAttemptOwner String Unit :=
  Task.act { apply := f }

/-- What the calls that settle the native resources return. -/
structure SettleIo where
  (cgroupRetired targetExited initReaped : Except String Unit)
  status : Except String (Option ℤ)
  (guardianFinished guardianStopped : Except String Unit)

/-- A call for a handle that is held. -/
def ifHeld (held : PrivateAttemptOwner → Bool) (result : Except String Unit) :
    Task PrivateAttemptOwner String Unit := do
  let present ← Task.inspect held
  Task.lift (if present then result else .ok ())

/-- The status channel is read when it is still there, also when a status was observed before. -/
def takeStatus (io : SettleIo) : Task PrivateAttemptOwner String (Option ℤ) := do
  let present ← Task.inspect PrivateAttemptOwner.status
  adjust fun o => { o with status := false }
  let read ← Task.lift (if present then io.status else .ok none)
  let observed ← Task.inspect PrivateAttemptOwner.observedNativeWaitStatus
  return observed.or read

/-- The end of the guardian, which has seen the loss of the frontend or has to be stopped. -/
def takeGuardian (io : SettleIo) : Task PrivateAttemptOwner String Unit := do
  let present ← Task.inspect PrivateAttemptOwner.guardian
  let outcome ← Task.inspect PrivateAttemptOwner.monitorOutcome
  adjust fun o => { o with guardian := false }
  Task.lift (if present then if outcome = some .frontendLost then io.guardianFinished else
    io.guardianStopped else .ok ())

/-- The processes of the attempt: the boundary, the target and the init of the namespace. -/
def settleProcesses (io : SettleIo) : Task PrivateAttemptOwner String Unit := do
  ifHeld PrivateAttemptOwner.cgroup io.cgroupRetired
  adjust fun o => { o with cgroup := false }
  ifHeld PrivateAttemptOwner.targetPidfd io.targetExited
  adjust fun o => { o with targetPidfd := false }
  ifHeld PrivateAttemptOwner.namespaceInit io.initReaped
  adjust fun o => { o with namespaceInit := false, startup := false }

/-- `PrivateAttemptOwner::settle_native_resources` -/
def settleNativeResources (io : SettleIo) : Task PrivateAttemptOwner String (Option ℤ) := do
  settleProcesses io
  let candidateExitCode ← takeStatus io
  let outcome ← Task.inspect PrivateAttemptOwner.monitorOutcome
  Task.lift (reject "MCSEALED-PRIVATE-OWNER: completed target status absent"
    (outcome = some .completed ∧ candidateExitCode = none))
  adjust fun o =>
    { o with control := false, expectedDescriptors := false, stdio := false, relay := false,
             network := false }
  takeGuardian io
  return candidateExitCode

/-! ## Retirement -/

structure PrivateRetirementObservation where
  attemptId : List UInt8
  retired : Option PrivateTcpRetiredV2
  candidateExitCode : Option ℤ
  deriving DecidableEq

/-- What the calls of a retirement return: those of the journal, those of the native resources, and
those of the journal in the destructor. -/
structure RetireIo where
  retiring : ReplaceIo
  settle : SettleIo
  failed : ReplaceIo
  remove : RemoveIo
  dropped : ReplaceIo

section Retire

variable [Sha256] [JournalWire]

def retiredEvidence : Option PrivateTcpCheckpointV2 → Except String (Option PrivateTcpRetiredV2)
  | none => .ok none
  | some checkpoint =>
    (PrivateTcpRetiredV2.observed checkpoint true true true true true true).map some

/-- The end of `retire` when the native resources are settled. -/
def retireSettled (io : RemoveIo) (checkpoint : Option PrivateTcpCheckpointV2)
    (candidateExitCode : Option ℤ) :
    Task PrivateAttemptOwner String PrivateRetirementObservation := do
  let record ← Task.inspect fun o => o.journal.record
  adjust fun o => { o with record := false }
  Task.within journalPart (retireAfterNativeCleanup io (VerifiedPrivateRetirement.observed record))
  let retired ← Task.lift (retiredEvidence checkpoint)
  return ⟨record.attemptId.bytes, retired, candidateExitCode⟩

/-- The end of `retire` when they are not. -/
def retireFailed (io : ReplaceIo) (error : String) :
    Task PrivateAttemptOwner String PrivateRetirementObservation := do
  -- What the write returns is dropped.
  let _ ← (Task.within journalPart
    (install io (PrivateAttemptRecordV4.cleanupIncomplete error))).attempt
  Task.lift (.error error)

/-- `PrivateAttemptOwner::retire`, up to the end of its scope. -/
def retire (io : RetireIo) : Task PrivateAttemptOwner String PrivateRetirementObservation := do
  Task.within journalPart (install io.retiring PrivateAttemptRecordV4.retiring)
  let checkpoint ← Task.inspect fun o => o.journal.record.checkpoint
  let completed ← (settleNativeResources io.settle).attempt
  match completed with
  | .error error => retireFailed io.failed error
  | .ok candidateExitCode => retireSettled io.remove checkpoint candidateExitCode

/-- What the destructor records. -/
def dropDetail : String := "private owner dropped without verified terminal retirement"

/-- `PrivateAttemptOwner::drop`. What it does to the handles is best effort. -/
def drop (io : ReplaceIo) : Task PrivateAttemptOwner String Unit := do
  adjust fun o =>
    { o with
      control := false, startup := false, status := false, stdio := false, relay := false,
      network := false
      targetPidfd := false, guardian := false, cgroup := false, namespaceInit := false }
  let record ← Task.inspect PrivateAttemptOwner.record
  if record then
    let _ ← (Task.within journalPart
      (install io (PrivateAttemptRecordV4.cleanupIncomplete dropDetail))).attempt
    return ()
  else return ()

/-- A call of `retire` with the destructor at the end of its scope. -/
def retireOwned (io : RetireIo) : Task PrivateAttemptOwner String PrivateRetirementObservation := do
  let result ← (retire io).attempt
  drop io.dropped
  Task.lift result

end Retire

/-! ## Settled resources -/

/-- The journal, whether it is held, and the outcome of the monitor are the same. -/
structure SameRecord (o o' : PrivateAttemptOwner) : Prop where
  journal : o'.journal = o.journal
  record : o'.record = o.record
  monitorOutcome : o'.monitorOutcome = o.monitorOutcome

section Settled

variable {o : PrivateAttemptOwner}

theorem stays_adjust {f : PrivateAttemptOwner → PrivateAttemptOwner} (h : ∀ o, SameRecord o (f o)) :
    (adjust f).Stays (SameRecord o) := by
  refine stays_apply fun o' ho' => ⟨?_, ?_, ?_⟩
  · exact (h o').journal.trans ho'.journal
  · exact (h o').record.trans ho'.record
  · exact (h o').monitorOutcome.trans ho'.monitorOutcome

theorem stays_ifHeld (held : PrivateAttemptOwner → Bool) (result : Except String Unit) :
    (ifHeld held result).Stays (SameRecord o) :=
  stays_inspect_bind fun _ _ => stays_lift _

theorem stays_settleProcesses (io : SettleIo) : (settleProcesses io).Stays (SameRecord o) := by
  unfold settleProcesses
  refine stays_bind (stays_ifHeld _ _) fun _ =>
    stays_bind (stays_adjust fun _ => ⟨rfl, rfl, rfl⟩) fun _ => ?_
  refine stays_bind (stays_ifHeld _ _) fun _ =>
    stays_bind (stays_adjust fun _ => ⟨rfl, rfl, rfl⟩) fun _ => ?_
  exact stays_bind (stays_ifHeld _ _) fun _ => stays_adjust fun _ => ⟨rfl, rfl, rfl⟩

theorem stays_takeStatus (io : SettleIo) : (takeStatus io).Stays (SameRecord o) := by
  refine stays_inspect_bind fun _ _ => stays_bind (stays_adjust fun _ => ⟨rfl, rfl, rfl⟩) fun _ =>
    ?_
  exact stays_bind (stays_lift _) fun _ => stays_inspect_bind fun _ _ => stays_pure _

theorem stays_takeGuardian (io : SettleIo) : (takeGuardian io).Stays (SameRecord o) := by
  refine stays_inspect_bind fun _ _ => stays_inspect_bind fun _ _ => ?_
  exact stays_bind (stays_adjust fun _ => ⟨rfl, rfl, rfl⟩) fun _ => stays_lift _

/-- The native resources are settled without the journal. -/
theorem stays_settleNativeResources (io : SettleIo) :
    (settleNativeResources io).Stays (SameRecord o) := by
  refine stays_bind (stays_settleProcesses io) fun _ => stays_bind (stays_takeStatus io) fun _ => ?_
  refine stays_inspect_bind fun _ _ => stays_bind (stays_lift _) fun _ => ?_
  refine stays_bind (stays_adjust fun _ => ⟨rfl, rfl, rfl⟩) fun _ => ?_
  exact stays_bind (stays_takeGuardian io) fun _ => stays_pure _

variable {io : SettleIo} {o' : PrivateAttemptOwner}

theorem sameRecord_settle {result : Except String (Option ℤ)}
    (h : (settleNativeResources io).run o = (o', result)) : SameRecord o o' :=
  (stays_settleNativeResources io).run_eq ⟨rfl, rfl, rfl⟩ h

/-- The wait status of a completed target was read. -/
theorem settle_completed {code : Option ℤ}
    (h : (settleNativeResources io).run o = (o', .ok code))
    (hcompleted : o.monitorOutcome = some .completed) :
    code.isSome = true := by
  obtain ⟨o₁, _, hprocesses, h⟩ := run_bind_eq_ok.1 h
  obtain ⟨o₂, status, hstatus, h⟩ := run_bind_eq_ok.1 h
  have hsame : SameRecord o o₂ :=
    (stays_takeStatus io).run_eq
      ((stays_settleProcesses io).run_eq ⟨rfl, rfl, rfl⟩ hprocesses) hstatus
  rw [run_inspect_bind, hsame.monitorOutcome, hcompleted] at h
  obtain ⟨_, hpresent, h⟩ := run_lift_bind_eq_ok.1 h
  obtain ⟨o₃, _, -, h⟩ := run_bind_eq_ok.1 h
  obtain ⟨o₄, _, -, h⟩ := run_bind_eq_ok.1 h
  cases h
  cases code with
  | none => exact absurd ⟨rfl, rfl⟩ (reject_eq_ok.1 hpresent)
  | some status => rfl

end Settled

section Law

variable [Sha256] [JournalWire]

variable {io : RetireIo} {o : PrivateAttemptOwner} {observation : PrivateRetirementObservation}

/-- An attempt is retired when its journal was marked, its resources are settled, and the journal
was removed. -/
theorem settled_of_retire (h : ((retire io).run o).2 = .ok observation) :
    ∃ j o₁, (settleNativeResources io.settle).run { o with journal := j } =
      (o₁, .ok observation.candidateExitCode) := by
  obtain ⟨o', hretire⟩ : ∃ o', (retire io).run o = (o', .ok observation) := ⟨_, Prod.ext rfl h⟩
  obtain ⟨o₁, _, hretiring, hretire⟩ := run_bind_eq_ok.1 hretire
  obtain ⟨j, -, rfl⟩ := run_within_eq_ok.1 hretiring
  rw [run_inspect_bind, run_bind_ok run_attempt] at hretire
  generalize hsettle : (settleNativeResources io.settle).run (journalPart.set o j) = settled
    at hretire
  obtain ⟨o₂, error | code⟩ := settled
  · obtain ⟨o₃, _, -, hfail⟩ := run_bind_eq_ok.1 hretire
    cases hfail
  · obtain ⟨o₃, record, -, hretire⟩ := run_bind_eq_ok.1 hretire
    obtain ⟨o₄, _, -, hretire⟩ := run_bind_eq_ok.1 hretire
    obtain ⟨o₅, _, -, hretire⟩ := run_bind_eq_ok.1 hretire
    obtain ⟨retired, -, hend⟩ := run_lift_bind_eq_ok.1 hretire
    cases hend
    exact ⟨j, o₂, hsettle⟩

/-- The destructor does not fail, and records its detail when the journal is still held. -/
theorem run_drop (io : ReplaceIo) (o : PrivateAttemptOwner) : ∃ o', (drop io).run o = (o', .ok ()) ∧
    o'.journal = if o.record then
      ((install io (PrivateAttemptRecordV4.cleanupIncomplete dropDetail)).run o.journal).1
      else o.journal := by
  obtain ⟨journal, record, _⟩ := o
  unfold drop adjust
  rw [run_act_bind, run_inspect_bind]
  cases record with
  | false => exact ⟨_, rfl, rfl⟩
  | true =>
    refine ⟨_, run_bind_ok run_attempt, ?_⟩
    rw [run_within]
    rfl

theorem run_retireOwned (io : RetireIo) (o : PrivateAttemptOwner) : ∃ o', (retireOwned io).run o =
    (o', ((retire io).run o).2) ∧ (drop io.dropped).run ((retire io).run o).1 = (o', .ok ()) := by
  obtain ⟨o', hdrop, -⟩ := run_drop io.dropped ((retire io).run o).1
  refine ⟨o', ?_, hdrop⟩
  unfold retireOwned
  rw [run_bind_ok run_attempt, run_bind_ok hdrop]
  rfl

/-- **The retirement of a completed target returns a wait status.** -/
theorem exitCode_of_completed
    (h : ((retireOwned io).run o).2 = .ok observation)
    (hcompleted : o.monitorOutcome = some .completed) :
    observation.candidateExitCode.isSome = true := by
  obtain ⟨o', hrun, -⟩ := run_retireOwned io o
  rw [hrun] at h
  obtain ⟨j, o₁, hsettle⟩ := settled_of_retire h
  exact settle_completed hsettle hcompleted

/-! ## A failed retirement -/

/-- The journal writes of a retirement whose resources are not settled, which all succeed: the mark
of the start, the error, and what the destructor has to say. -/
structure WritesSucceed (io : RetireIo) (error : String) (j j₁ j₂ j₃ : Journal) : Prop where
  retiring : (install io.retiring PrivateAttemptRecordV4.retiring).run j = (j₁, .ok ())
  failed : (install io.failed (PrivateAttemptRecordV4.cleanupIncomplete error)).run j₁ =
    (j₂, .ok ())
  dropped : (install io.dropped (PrivateAttemptRecordV4.cleanupIncomplete dropDetail)).run j₂ =
    (j₃, .ok ())

/-- A failed retirement returns the error, and ends with the journal that the destructor has
written. -/
theorem run_retireOwned_failed {o o₁ : PrivateAttemptOwner} {error : String} {j₁ j₂ j₃ : Journal}
    (hheld : o.record = true) (hwrites : WritesSucceed io error o.journal j₁ j₂ j₃)
    (hsettle : (settleNativeResources io.settle).run { o with journal := j₁ } =
    (o₁, .error error)) :
    ∃ o', (retireOwned io).run o = (o', .error error) ∧ o'.journal = j₃ := by
  have hsame := sameRecord_settle hsettle
  have hretiring :
      (Task.within journalPart (install io.retiring PrivateAttemptRecordV4.retiring)).run o =
      ({ o with journal := j₁ }, .ok ()) := run_within_eq hwrites.retiring
  have hfailed :
      (Task.within journalPart
        (install io.failed (PrivateAttemptRecordV4.cleanupIncomplete error))).run o₁ =
      ({ o₁ with journal := j₂ }, .ok ()) := by
    refine run_within_eq ?_
    change (install _ _).run o₁.journal = _
    rw [hsame.journal]
    exact hwrites.failed
  have hretire : (retire io).run o = ({ o₁ with journal := j₂ }, .error error) := by
    unfold retire
    rw [run_bind_ok hretiring, run_inspect_bind, run_bind_ok run_attempt, hsettle]
    change (retireFailed io.failed error).run o₁ = _
    unfold retireFailed
    rw [run_bind_ok run_attempt, hfailed]
    rfl
  obtain ⟨o', hrun, hdrop⟩ := run_retireOwned io o
  obtain ⟨o'', hdrop', hjournal⟩ := run_drop io.dropped ((retire io).run o).1
  rw [hretire] at hrun hdrop hdrop' hjournal
  cases hdrop.symm.trans hdrop'
  refine ⟨o', hrun, ?_⟩
  have hrecord : o₁.record = true := hsame.record.trans hheld
  rw [hjournal, if_pos hrecord]
  exact congrArg Prod.fst hwrites.dropped

/-- A written record of a failure is what the file says. -/
theorem saysIncomplete_of_install [LawfulJournalWire] {io : ReplaceIo} {detail : String}
    {j j' : Journal}
    (h : (install io (PrivateAttemptRecordV4.cleanupIncomplete detail)).run j = (j', .ok ())) :
    j'.SaysIncomplete detail := by
  have hcases := install_cases io (PrivateAttemptRecordV4.cleanupIncomplete detail) j
  rw [h] at hcases
  cases hcases with
  | done hnext hbytes =>
    obtain ⟨-, hnext⟩ := reject_bind_eq_ok.1 hnext
    obtain ⟨text, htext, ⟨⟩⟩ := bind_eq_ok.1 hnext
    exact ⟨_, text, shows_encoded hbytes rfl, rfl, rfl, boundedText_eq_ok.1 htext⟩

theorem Journal.SaysIncomplete.unique {j : Journal} {detail detail' : String}
    (h : j.SaysIncomplete detail) (h' : j.SaysIncomplete detail') : detail = detail' := by
  obtain ⟨r, text, hshows, -, herror, hbytes⟩ := h
  obtain ⟨r', text', hshows', -, herror', hbytes'⟩ := h'
  cases hshows.unique hshows'
  cases herror.symm.trans herror'
  exact CodedText.bytes_injective (hbytes.symm.trans hbytes')

/-- **The error of a failed retirement stays in the journal exactly when it is the text of the
destructor.** -/
theorem dropped_error_iff [LawfulJournalWire] (io : RetireIo) (o o₁ : PrivateAttemptOwner)
    (error : String)
    (j₁ j₂ j₃ : Journal) (hheld : o.record = true)
    (hwrites : WritesSucceed io error o.journal j₁ j₂ j₃)
    (hsettle : (settleNativeResources io.settle).run { o with journal := j₁ } =
    (o₁, .error error)) :
    ∃ o', (retireOwned io).run o = (o', .error error) ∧
      (o'.journal.SaysIncomplete error ↔ error = dropDetail) := by
  obtain ⟨o', hrun, rfl⟩ := run_retireOwned_failed hheld hwrites hsettle
  have hsays : o'.journal.SaysIncomplete dropDetail := saysIncomplete_of_install hwrites.dropped
  refine ⟨o', hrun, fun herror => herror.unique hsays, fun hsame => ?_⟩
  rw [hsame]
  exact hsays

end Law

namespace Sample

def retiring : PrivateAttemptRecordV4 := { allocated with phase := .retiring }

/-- What the destructor records. -/
def dropText : BoundedText 4096 :=
  ⟨CodedText.bytes dropDetail, by decide +kernel, by decide +kernel, CodedText.isUtf8_bytes _⟩

def unsettled : List PrivateAttemptRecordV4 :=
  [retiring, incomplete retiring detail, incomplete (incomplete retiring detail) dropText]

/-- A wire for these records. -/
@[reducible] def unsettledWire : JournalWire := tableWire unsettled

theorem isTable_unsettled : isTable unsettled = true := by decide +kernel

theorem lawful_unsettledWire : @LawfulJournalWire unsettledWire :=
  lawful_tableWire isTable_unsettled

/-- An owner of an allocated attempt with a boundary. -/
def owner [Sha256] : PrivateAttemptOwner :=
  ⟨journal allocated, true, true, false, false, false, false, false, false, false, false,
    false, none, false, none⟩

/-- The boundary cannot be retired; all writes succeed. -/
def boundaryStays : RetireIo :=
  ⟨.allOk, ⟨.error "lost", .ok (), .ok (), .ok none, .ok (), .ok ()⟩, .allOk,
    ⟨.allOk, .ok (), .ok ()⟩, .allOk⟩

end Sample

section

attribute [local instance] zeroHash Sample.unsettledWire Sample.lawful_unsettledWire

open Sample

/-- A write of one of the records. -/
theorem run_install_unsettled {j : Journal} {r : PrivateAttemptRecordV4}
    {next : PrivateAttemptRecordV4 → Except String PrivateAttemptRecordV4}
    (hnext : next j.record = .ok r) (hmem : r ∈ unsettled) (htemporary : j.temporary = none) :
    (install .allOk next).run j = (journal r, .ok ()) := by
  have hvalid : ∀ r ∈ unsettled, r.validate = .ok () := by decide +kernel
  exact run_install_allOk hnext (encode_of_mem isTable_unsettled hmem (hvalid r hmem)) htemporary

theorem writesSucceed_sample : WritesSucceed boundaryStays "lost" owner.journal (journal retiring)
    (journal (incomplete retiring detail))
    (journal (incomplete (incomplete retiring detail) dropText)) where
  retiring := run_install_unsettled rfl (by decide +kernel) rfl
  failed := run_install_unsettled rfl (by decide +kernel) rfl
  dropped := run_install_unsettled rfl (by decide +kernel) rfl

theorem settle_boundaryStays : (settleNativeResources boundaryStays.settle).run
    { owner with journal := journal retiring } =
      ({ owner with journal := journal retiring }, .error "lost") := rfl

/-- A boundary that stays, with the error of it in the journal only when it is the text of the
destructor. -/
theorem dropped_error_boundary : ∃ o', (retireOwned boundaryStays).run owner = (o', .error "lost") ∧
    (o'.journal.SaysIncomplete "lost" ↔ "lost" = dropDetail) :=
  dropped_error_iff boundaryStays owner _ "lost" _ _ _ rfl writesSucceed_sample settle_boundaryStays

/-- The error that the retirement returns is not the one in the journal. -/
theorem returned_error_overwritten :
    ∃ o', (retireOwned boundaryStays).run owner = (o', .error "lost") ∧
    o'.journal.SaysIncomplete dropDetail ∧ ¬ o'.journal.SaysIncomplete "lost" := by
  obtain ⟨o', hrun, hjournal⟩ :=
    run_retireOwned_failed (o := owner) rfl writesSucceed_sample settle_boundaryStays
  have hsays : o'.journal.SaysIncomplete dropDetail := by
    rw [hjournal]
    exact saysIncomplete_of_install writesSucceed_sample.dropped
  refine ⟨o', hrun, hsays, fun hlost => ?_⟩
  exact absurd (hlost.unique hsays) (by decide)

end

end MemCordon.PrivateAttempt
