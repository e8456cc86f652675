import MemCordon.Agent.AckLiveness
import MemCordon.Agent.Recovery

/-!
# Interrupted acknowledgements

What an acknowledgement that is cut off leaves in the files (`Underway`), and what the next
acknowledgement or the next recovery makes of it. The ledger's staging file is read before anything
else, and nothing removes one that is torn.

* `leaves_retireAcknowledged`: every crash point leaves an acknowledgement that is under way.
* `interrupted_acknowledgement_iff`: it goes on, and the other attempts are recovered, exactly when
  no torn staging file was left.
-/

namespace MemCordon.WindowsAttempt

open WindowsRecord Workload CausalDiagnostics DiagnosticScope Fallible Counter MemCordon.Task

section Interrupted

variable {m : Moment} {w w' : Files} {r : Record} {k : LedgerKey} {s : Stage} {record : Cell Record}
  {reservations : Reservations}

/-- The loop over guardian receipts keeps an acknowledgement under way. -/
theorem run_recoverGuardianReceipt (w : Files) :
    ∃ guardian, recoverGuardianReceipt.run w = ({ w with guardianReceipt := guardian }, .ok []) ∧
      (w.guardianReceipt = false → guardian = false) := by
  unfold recoverGuardianReceipt
  rw [run_inspect_bind]
  by_cases hloose : w.guardianReceipt = true ∧ w.record.file = none
  · rw [if_pos hloose]
    exact ⟨false, rfl, fun _ => rfl⟩
  · rw [if_neg hloose]
    exact ⟨w.guardianReceipt, rfl, id⟩

/-! ## The ledger -/

variable [TextLength ReplayRecord]

/-- An acknowledgement between two of its operations: the record is still there, or the tombstone is
in the ledger and the guardian receipt is gone. -/
structure Underway (k : LedgerKey) (record : Cell Record) (s : Stage) (w : Files) : Prop where
  ledger : LedgerAt k s w.replay
  record : w.record = record ∨ w.record = { record with file := none } ∧ s ≠ .reserved ∧
    w.guardianReceipt = false

/-- A completion that is cut off is still under way. -/
theorem leaves_completeAckTombstone (hk : k.Valid) (hw : LedgerAt k s w.replay)
    (hstaging : w.replay.staging = none)
    (hs : s ≠ .reserved) (h : (completeAckTombstone k.attemptId k.requestSha256).Leaves w w') :
    ∃ s' c, s' ≠ .reserved ∧ LedgerAt k s' c ∧ w' = { w with replay := c } := by
  unfold completeAckTombstone at h
  rw [leaves_inspect_bind] at h
  rcases leaves_bind.1 h with hsame | ⟨w₁, done, hcheck, h⟩
  · exact ⟨s, w.replay, hs, hw, hsame⟩
  cases (Prod.mk.inj hcheck).1
  obtain ⟨c, hcut, rfl⟩ := leaves_within.1 h
  obtain ⟨s', hs', hc⟩ := leaves_completeTombstone hk hw hstaging hs hcut
  exact ⟨s', c, hs', hc, rfl⟩

/-- The last steps of an acknowledgement, cut off. -/
theorem leaves_removeAndComplete (hk : k.Valid) (hw : LedgerAt k s w.replay)
    (hstaging : w.replay.staging = none)
    (hs : s ≠ .reserved) (hguardian : w.guardianReceipt = false)
    (h : (do
      Task.act removeRecord
      let _ ← completeAckTombstone k.attemptId k.requestSha256
      return : Task Files String Unit).Leaves w w') : ∃ s, Underway k w.record s w' := by
  rcases (leaves_act_bind _).1 h with rfl | hfalse | h
  · exact ⟨s, hw, .inl rfl⟩
  · exact False.elim hfalse
  · obtain ⟨s', c, hs', hc, rfl⟩ :=
      leaves_completeAckTombstone hk (w := removeRecord.apply w) hw hstaging hs (leaves_bind_pure h)
    exact ⟨s', hc, .inr ⟨rfl, hs', hguardian⟩⟩

/-- The tombstone is complete, and the record is gone. -/
structure Retired (k : LedgerKey) (w : Files) : Prop where
  record : w.record.file = none
  ledger : LedgerAt k .completed w.replay

/-- **`recover_incomplete_ack_tombstone`** goes through when the record is gone and no torn staging
file is there. -/
theorem run_recoverIncomplete (hk : k.Valid) (hw : LedgerAt k s w.replay)
    (htorn : ¬ Cell.IsTorn w.replay)
    (hs : s ≠ .reserved) (hrecord : w.record.file = none) (hguardian : w.guardianReceipt = false) :
    ∃ w', (recoverIncompleteAckTombstone k.attemptId k.requestSha256).run w =
      (w', .ok k.tombstone.completed) ∧ w'.record = w.record ∧ Retired k w' := by
  obtain ⟨s₁, c₁, hreplay, hc₁, hstaging₁, hsame, hnext⟩ := run_replayRecord hk hw htorn
  have hs₁ : s₁ ≠ .reserved := by
    by_cases hnone : w.replay.staging = none
    · exact (hsame hnone).2 ▸ hs
    · exact Stage.ne_reserved_of_next (hnext hnone)
  have htorn₁ : ¬ Cell.IsTorn c₁ := by simp [Cell.IsTorn, hstaging₁]
  have hgone :
      reject "ACK tombstone still has a durable attempt record" (w.record.file.isSome = true) =
        .ok () := by
    rw [reject_eq_ok, hrecord]
    simp
  unfold recoverIncompleteAckTombstone
  rw [run_bind_ok (run_within_eq hreplay)]
  cases s₁ with
  | reserved => exact absurd rfl hs₁
  | acknowledged =>
    have hthere :
        okOr "terminal acknowledgment has no ACK tombstone" (k.entry .acknowledged).acknowledged =
        .ok k.tombstone := rfl
    obtain ⟨c, hcomplete, hc, -⟩ :=
      run_completeAckTombstone hk (w := ⟨w.record, c₁, false, false⟩) hc₁ htorn₁ hs₁ hrecord rfl
    refine ⟨⟨w.record, c, false, false⟩, ?_, rfl, hrecord, hc⟩
    rw [run_lift_bind hthere, if_pos hk.incomplete, run_inspect_bind]
    refine (run_lift_bind hgone).trans ?_
    rw [run_act_bind, run_act_bind]
    exact hcomplete
  | completed =>
    have hthere :
        okOr "terminal acknowledgment has no ACK tombstone" (k.entry .completed).acknowledged =
        .ok { k.tombstone with retirementComplete := true } := rfl
    obtain ⟨c, hcomplete, hc, -⟩ := run_completeAckTombstone hk
      (w := ⟨w.record, c₁, w.guardianReceipt, w.policyReference⟩) hc₁ htorn₁ hs₁ hrecord hguardian
    refine ⟨⟨w.record, c, w.guardianReceipt, w.policyReference⟩, ?_, rfl, hrecord, hc⟩
    rw [run_lift_bind hthere, if_neg (by simp)]
    exact hcomplete

/-- The turn of `recover_staged_ack_tombstones`: the staged entry becomes the entry. -/
theorem run_recoverStagedAckTombstone {c : Cell ReplayRecord} (hk : k.Valid) (hc : LedgerAt k s c)
    (htorn : ¬ Cell.IsTorn c) :
    ∃ s' c', (recoverStagedAckTombstone k.attemptId).run c = (c', .ok []) ∧ LedgerAt k s' c' ∧
      c'.staging = none ∧ (s ≠ .reserved → s' ≠ .reserved) := by
  unfold recoverStagedAckTombstone
  rw [run_inspect_bind]
  cases hstaging : c.staging with
  | none => exact ⟨s, c, rfl, hc, hstaging, id⟩
  | some e =>
    obtain ⟨s', hnext, hread, -⟩ := run_settleStaged hk hc hstaging fun h => htorn ⟨e, hstaging, h⟩
    obtain ⟨s₁, c₁, hreplay, hc₁, hstaging₁, -, hnext₁⟩ := run_replayRecord hk hc htorn
    cases hnext.symm.trans (hnext₁ (by simp [hstaging]))
    have hs' := Stage.ne_reserved_of_next hnext
    have hexact : reject "staged ACK tombstone lacks exact attempt binding"
        ((k.entry s').attemptId ≠ k.attemptId ∨ (k.entry s').acknowledged = none) = .ok () := by
      rw [reject_eq_ok]
      rintro (hid | hnone)
      · exact hid rfl
      · cases s' with
        | reserved => exact hs' rfl
        | acknowledged | completed => cases hnone
    refine ⟨s', c₁, ?_, hc₁, hstaging₁, fun _ => hs'⟩
    simp only [Option.isSome_some, if_true]
    rw [run_lift_bind (validateAttemptId_eq_ok hk.attemptId), run_lift_bind hread,
      run_lift_bind hexact]
    exact run_bind_ok hreplay

/-- A torn staging file ends the recovery of staged tombstones, and stays. -/
theorem run_recoverStagedAckTombstone_torn {c : Cell ReplayRecord} (hk : k.Valid)
    (htorn : Cell.IsTorn c) :
    ∃ error, (recoverStagedAckTombstone k.attemptId).run c = (c, .error error) := by
  obtain ⟨e, he, hcut⟩ := htorn
  obtain ⟨error, herror⟩ := readReplay_torn hcut
  refine ⟨error, ?_⟩
  unfold recoverStagedAckTombstone
  rw [run_inspect_bind, Option.mem_def.1 he]
  simp only [Option.isSome_some, if_true]
  rw [run_lift_bind (validateAttemptId_eq_ok hk.attemptId), herror]
  exact run_bind_error rfl

/-- The last loop completes a tombstone whose record is gone. -/
theorem completes_recoverTombstone (hk : k.Valid) (hw : LedgerAt k s w.replay)
    (hstaging : w.replay.staging = none)
    (hs : s ≠ .reserved) (hrecord : w.record.file = none) (hguardian : w.guardianReceipt = false) :
    ∃ w', recoverTombstone.Completes w w' ∧ Retired k w' := by
  have hthere : w.replay.file.isSome = true := by
    obtain ⟨d, hd, -, -⟩ := readReplay_eq_ok.1 hw.file
    rw [hd]
    rfl
  have hincomplete := hk.incomplete
  cases s with
  | reserved => exact absurd rfl hs
  | acknowledged =>
    obtain ⟨w', hrun, -, hdone⟩ :=
      run_recoverIncomplete hk hw (by simp [Cell.IsTorn, hstaging]) hs hrecord hguardian
    refine ⟨w', ⟨[], ?_⟩, hdone⟩
    unfold recoverTombstone
    rw [run_inspect_bind, if_pos hthere, run_lift_bind hw.file,
      if_pos (by simp [ReplayRecord.isIncomplete, LedgerKey.entry, LedgerKey.tombstoneAt,
        hincomplete])]
    have hattempt :
        (Task.attempt (recoverIncompleteAckTombstone k.attemptId k.requestSha256)).run w =
        (w', .ok (.ok k.tombstone.completed)) := by rw [run_attempt, hrun]
    exact run_bind_ok hattempt
  | completed =>
    refine ⟨w, ⟨[], ?_⟩, hrecord, hw⟩
    unfold recoverTombstone
    rw [run_inspect_bind, if_pos hthere, run_lift_bind hw.file,
      if_neg (by simp [ReplayRecord.isIncomplete, LedgerKey.entry, LedgerKey.tombstoneAt])]
    rfl

variable [Sha256] [Wire] [LedgerWire] [TextLength Record] {generation : String}

/-! ## Crash points -/

omit [TextLength Record] in
/-- **Every crash point of an acknowledgement** that started from the reserved entry leaves it under
way. -/
theorem leaves_retireAcknowledged (hkey : ackKey r = .ok k) (hk : k.Valid)
    (hw : LedgerAt k .reserved w.replay)
    (hstaging : w.replay.staging = none) (h : (retireAcknowledged reservations r).Leaves w w') :
    ∃ s, Underway k w.record s w' := by
  obtain ⟨retired, hretired, hbuild, hid, hrequest⟩ := ackKey_eq_ok.1 hkey
  obtain ⟨s₁, c₁, hstage, hc₁, hstaging₁, hs₁⟩ := run_stageAckTombstone hkey hretired hk hw
    (by simp [Cell.IsTorn, hstaging])
  unfold retireAcknowledged at h
  rw [leaves_lift_bind hretired] at h
  rcases leaves_bind.1 h with hcut | ⟨w₁, done, hrun, h⟩
  · unfold stageAckTombstone at hcut
    rw [leaves_lift_bind hbuild, ← hid, ← hrequest] at hcut
    obtain ⟨c, hledger, rfl⟩ := leaves_within.1 hcut
    rcases leaves_publishTombstone hk hw hstaging hledger with hc | ⟨hc, -⟩
    · exact ⟨.reserved, hc, .inl rfl⟩
    · exact ⟨.acknowledged, hc, .inl rfl⟩
  cases hstage.symm.trans hrun
  rw [← hid, ← hrequest] at h
  rcases (leaves_act_bind _).1 h with rfl | hfalse | h
  · exact ⟨s₁, hc₁, .inl rfl⟩
  · exact False.elim hfalse
  cases hwriter : reservations.writerRetired with
  | error error =>
    rw [hwriter] at h
    cases h
    exact ⟨s₁, hc₁, .inl rfl⟩
  | ok released =>
  rw [leaves_lift_bind hwriter] at h
  by_cases hadmission : r.workloadAdmission.isSome
  · rw [if_pos hadmission] at h
    rcases (leaves_act_bind _).1 h with rfl | hfalse | h
    · exact ⟨s₁, hc₁, .inl rfl⟩
    · exact False.elim hfalse
    · exact leaves_removeAndComplete (w := ⟨w.record, c₁, false, false⟩) hk hc₁ hstaging₁ hs₁ rfl h
  · rw [if_neg hadmission] at h
    exact leaves_removeAndComplete (w := ⟨w.record, c₁, false, w.policyReference⟩) hk hc₁ hstaging₁
      hs₁ rfl h

/-! ## The next acknowledgement -/

/-- An acknowledgement whose record says so, before its tombstone is in the ledger. -/
structure AckStarted (generation : String) (w : Files) (r : Record) (k : LedgerKey) : Prop where
  read : readRecord w.record.file = .ok r
  authentic : r.Authentic r.attemptId generation
  lifecycle : r.lifecycle = .ackCommitted
  key : ackKey r = .ok k
  valid : k.Valid
  staging : w.record.staging = none

/-- The acknowledgement is done but for the last loop of the recovery. -/
structure Settled (k : LedgerKey) (w : Files) : Prop where
  record : w.record = ⟨none, none⟩
  guardian : w.guardianReceipt = false
  ledger : ∃ s, s ≠ .reserved ∧ LedgerAt k s w.replay
  staging : w.replay.staging = none

section

variable (h : AckStarted generation w r k)

include h

theorem AckStarted.commitsAck (hgranted : reservations.Granted) (hrecord : w'.record = w.record) :
    CommitsAck generation reservations w' r := by
  refine ⟨hrecord ▸ h.read, h.authentic, h.authentic.outboxCheckpoint (by rw [h.lifecycle]; rfl),
    ?_, hrecord ▸ h.staging, .inl h.lifecycle, hgranted.writerRetired⟩
  have hcheckpoint := h.authentic.proofCheckpoint
  simpa only [ackProofValid, Record.proofCheckpointValid, h.lifecycle] using hcheckpoint

/-- No staging file lies beside the record while the acknowledgement is under way. -/
theorem AckStarted.run_acquireReader (hgranted : reservations.Granted)
    (hw : Underway k w.record s w') : reservations.acquireReader.run w' = (w', .ok ()) := by
  refine run_acquireReader_eq_ok.2 ⟨hgranted.reader, ?_, rfl⟩
  rcases hw.record with hrecord | ⟨hrecord, -, -⟩
  · rw [hrecord, h.staging]
  · rw [hrecord, h.staging]

/-- **The next acknowledgement** goes through when no torn staging file was left. -/
theorem run_acknowledge_underway (hgranted : reservations.Granted) (hw : Underway k w.record s w')
    (htorn : ¬ Cell.IsTorn w'.replay) :
    ∃ w'', (acknowledgeTerminalResponse generation reservations m r.attemptId r.nonce
      r.requestSha256).run w' = (w'', .ok k.tombstone.completed) ∧ Retired k w'' := by
  rcases hw.record with hrecord | ⟨hrecord, hs, hguardian⟩
  · obtain ⟨w'', hrun, hgone, hledger⟩ := run_acknowledgeTerminalResponse (m := m)
      (h.commitsAck hgranted hrecord) hgranted.reader h.key h.valid hw.ledger htorn
    exact ⟨w'', hrun, hgone, hledger⟩
  · have hgone : w'.record.file = none := by rw [hrecord]
    obtain ⟨retired, hretired, hbuild, hid, hrequest⟩ := ackKey_eq_ok.1 h.key
    obtain ⟨w'', hrun, -, hdone⟩ := run_recoverIncomplete h.valid hw.ledger htorn hs hgone hguardian
    have hnonce :
        reject "terminal ACK tombstone nonce does not match"
          (k.tombstone.completed.nonce ≠ r.nonce) = .ok () := by
      obtain ⟨-, json, disposition, -, -, rfl⟩ := terminalRetiredReceipt_eq_ok.1 hretired
      obtain ⟨proof, manifest, digest, authorization, -, -, -, -, htombstone⟩ :=
        buildTombstone_eq_ok.1 hbuild
      rw [reject_eq_ok, htombstone]
      exact not_not.2 rfl
    refine ⟨w'', ?_, hdone⟩
    unfold acknowledgeTerminalResponse
    rw [run_bind_ok (h.run_acquireReader hgranted hw),
      run_lift_bind (validateAttemptId_eq_ok (hid ▸ h.valid.attemptId)), run_inspect_bind,
      hgone, ← hid, ← hrequest]
    refine (run_bind_ok hrun).trans ?_
    exact run_lift_bind hnonce

/-- A torn staging file ends `stage_ack_tombstone`. -/
theorem run_retireAcknowledged_torn (hw : LedgerAt k s w'.replay)
    (htorn : Cell.IsTorn w'.replay) :
    ∃ error, (retireAcknowledged reservations r).run w' = (w', .error error) := by
  obtain ⟨retired, hretired, hbuild, hid, hrequest⟩ := ackKey_eq_ok.1 h.key
  obtain ⟨error, hreplay⟩ := run_replayRecord_torn h.valid hw htorn
  have hstage : (stageAckTombstone r retired).run w' = (w', .error error) := by
    unfold stageAckTombstone
    rw [run_lift_bind hbuild, ← hid, ← hrequest]
    exact run_within_eq (run_bind_error hreplay)
  refine ⟨error, ?_⟩
  unfold retireAcknowledged
  rw [run_lift_bind hretired]
  exact run_bind_error hstage

/-- **A torn staging file ends the next acknowledgement**, and stays. -/
theorem run_acknowledge_torn (hgranted : reservations.Granted) (hw : Underway k w.record s w')
    (htorn : Cell.IsTorn w'.replay) :
    ∃ error, (acknowledgeTerminalResponse generation reservations m r.attemptId r.nonce
      r.requestSha256).run w' = (w', .error error) := by
  obtain ⟨retired, hretired, hbuild, hid, hrequest⟩ := ackKey_eq_ok.1 h.key
  have hvalid := validateAttemptId_eq_ok (hid ▸ h.valid.attemptId)
  unfold acknowledgeTerminalResponse
  rw [run_bind_ok (h.run_acquireReader hgranted hw), run_lift_bind hvalid, run_inspect_bind]
  rcases hw.record with hrecord | ⟨hrecord, -, -⟩
  · have hready := h.commitsAck hgranted hrecord
    obtain ⟨draft, hdraft, -, -⟩ := readRecord_eq_ok.1 hready.read
    obtain ⟨error, hretire⟩ :
        ∃ error, (retireAcknowledged reservations r).run w' = (w', .error error) :=
      run_retireAcknowledged_torn h hw.ledger htorn
    have hexact :
        reject "terminal acknowledgment request digest is not exact"
          (r.requestSha256 ≠ r.requestSha256) = .ok () := by simp [reject_eq_ok]
    have hcommit : (commitAckRecord generation reservations m r).run w' = (w', .ok r) :=
      (commitAckRecord_eq_ok hready.read h.authentic hready.staged).2 (.inl ⟨h.lifecycle, rfl, rfl⟩)
    have hrun : (acknowledgeRecord generation reservations m r).run w' = (w', .error error) := by
      unfold acknowledgeRecord
      rw [run_bind_ok hcommit, hretire]
    refine ⟨error, ?_⟩
    rw [hdraft]
    change (acknowledgeStored generation reservations m draft r.attemptId r.nonce
      r.requestSha256).run w' = _
    unfold acknowledgeStored
    rw [run_lift_bind (hdraft ▸ hready.read),
      run_lift_bind (Record.authenticate_eq_ok.2 h.authentic),
      run_lift_bind hexact, run_lift_bind hretired]
    exact run_bind_error hrun
  · have hgone : w'.record.file = none := by rw [hrecord]
    obtain ⟨error, hreplay⟩ := run_replayRecord_torn h.valid hw.ledger htorn
    refine ⟨error, ?_⟩
    rw [hgone, ← hid, ← hrequest]
    refine run_bind_error ?_
    exact run_bind_error (run_within_eq hreplay)

/-! ## The next recovery -/

variable {e : RecoveryEvidence}

/-- The turn for the record: one that says that it is acknowledged is taken to its end, and one that
is gone is passed over. -/
theorem run_recoverRecord (hgranted : e.reservations.Granted) (hw : Underway k w.record s w')
    (hsettled : w'.replay.staging = none) :
    ∃ w'', (recoverRecord generation e r.attemptId).run w' = (w'', .ok []) ∧ Settled k w'' := by
  unfold recoverRecord
  rw [run_inspect_bind]
  rcases hw.record with hrecord | ⟨hrecord, hs, hguardian⟩
  · have hready := h.commitsAck hgranted hrecord
    obtain ⟨draft, hdraft, -, -⟩ := readRecord_eq_ok.1 hready.read
    obtain ⟨-, -, -, hid, -⟩ := ackKey_eq_ok.1 h.key
    have hname := validateAttemptId_eq_ok (hid ▸ h.valid.attemptId)
    have hread := readAuthentic_eq_ok hready.read h.authentic
    obtain ⟨w'', hrun, hrecord', hguardian, hledger, hnone⟩ :=
      run_acknowledgeRecord (m := e.moment) hready h.key h.valid
      hw.ledger (by simp [Cell.IsTorn, hsettled])
    refine ⟨w'', ?_, ?_, hguardian, ⟨.completed, by simp, hledger⟩, hnone⟩
    · rw [if_pos (by rw [hdraft]; rfl), if_pos hname,
        run_bind_ok (h.run_acquireReader hgranted hw), hread]
      refine (congrArg (Task.run · w') (if_pos h.lifecycle)).trans ?_
      exact run_bind_ok hrun
    · exact hrecord'
  · refine ⟨w', ?_, ?_, hguardian, ⟨s, hs, hw.ledger⟩, hsettled⟩
    · rw [hrecord]
      rfl
    · rw [hrecord, h.staging]

/-- The turns for the files of the record, in both orders of the listing. -/
theorem completes_recoverAttempt (hgranted : e.reservations.Granted) (hw : Underway k w.record s w')
    (hsettled : w'.replay.staging = none) :
    ∃ w'', (recoverAttempt generation e r.attemptId).Completes w' w'' ∧ Settled k w'' := by
  obtain ⟨w'', hrun, hdone⟩ := run_recoverRecord (e := e) h hgranted hw hsettled
  have hbefore : recoverStaging.run w' = (w', .ok []) := by
    refine run_recoverStaging ?_
    rcases hw.record with hrecord | ⟨hrecord, -, -⟩
    · rw [hrecord, h.staging]
    · rw [hrecord, h.staging]
  have hafter : recoverStaging.run w'' = (w'', .ok []) := run_recoverStaging (by rw [hdone.record])
  refine ⟨w'', ⟨[], ?_⟩, hdone⟩
  unfold recoverAttempt
  by_cases hfirst : e.stagingListedFirst = true
  · rw [if_pos hfirst, run_bind_ok hbefore, run_bind_ok hrun]
    rfl
  · rw [if_neg hfirst, run_bind_ok hrun, run_bind_ok hafter]
    rfl

/-- **The next recovery** takes an acknowledgement that is under way to its end, when no torn
staging file was left. -/
theorem completes_recoverAlone (hgranted : e.reservations.Granted) (hw : Underway k w.record s w')
    (htorn : ¬ Cell.IsTorn w'.replay) :
    ∃ w'', (recoverAlone generation e r.attemptId).Completes w' w'' ∧ Retired k w'' := by
  obtain ⟨-, -, -, hid, -⟩ := ackKey_eq_ok.1 h.key
  obtain ⟨s₁, c₁, hstaged, hc₁, hsettled₁, hs₁⟩ :=
    run_recoverStagedAckTombstone h.valid hw.ledger htorn
  obtain ⟨guardian, hguardian, hgone⟩ := run_recoverGuardianReceipt { w' with replay := c₁ }
  have hunderway :
      Underway k w.record s₁ { w' with replay := c₁, guardianReceipt := guardian } := by
    refine ⟨hc₁, ?_⟩
    rcases hw.record with hrecord | ⟨hrecord, hs, hnone⟩
    · exact .inl hrecord
    · exact .inr ⟨hrecord, hs₁ hs, hgone hnone⟩
  obtain ⟨w₂, ⟨records, hrecords⟩, hdone⟩ :=
    completes_recoverAttempt (e := e) h hgranted hunderway hsettled₁
  obtain ⟨s₂, hs₂, hledger₂⟩ := hdone.ledger
  obtain ⟨w₃, ⟨tombstones, htombstones⟩, hretired⟩ :=
    completes_recoverTombstone h.valid hledger₂ hdone.staging hs₂
    (by rw [hdone.record]) hdone.guardian
  refine ⟨w₃, ⟨records ++ tombstones, ?_⟩, hretired⟩
  unfold recoverAlone
  rw [← hid] at hrecords ⊢
  refine (run_bind_ok (run_within_eq hstaged)).trans ?_
  refine (run_bind_ok hguardian).trans ?_
  refine (run_bind_ok hrecords).trans ?_
  exact run_bind_ok htombstones

/-- **A torn staging file stops the recovery** at its first loop. -/
theorem not_completes_recoverAlone
    (htorn : Cell.IsTorn w'.replay) (w'' : Files) :
    ¬ (recoverAlone generation e r.attemptId).Completes w' w'' := by
  rintro ⟨notes, hrun⟩
  obtain ⟨-, -, -, hid, -⟩ := ackKey_eq_ok.1 h.key
  obtain ⟨error, herror⟩ := run_recoverStagedAckTombstone_torn h.valid htorn
  unfold recoverAlone at hrun
  rw [← hid, run_bind_error (run_within_eq herror)] at hrun
  cases (Prod.mk.inj hrun).2

end

/-- **An acknowledgement that is cut off anywhere** goes on with the next acknowledgement, and with
the next recovery without harm to the other attempts, exactly when it left no torn staging file in
the ledger. The recovery of an attempt alone is that of the other attempts' turns, so the torn file
of one attempt stops the recovery of all. The reservations are granted in the next run, and nothing
else of the installation stops the recovery. -/
theorem interrupted_acknowledgement_iff (before reservations : Reservations) (m : Moment)
    (installation : InstallationEvidence) (evidence : String → RecoveryEvidence)
    (attempts : List String)
    (d : String → Files) (w : Files) (r : Record) (k : LedgerKey) (attemptId : String)
    (hread : readRecord w.record.file = .ok r)
    (hauthentic : r.authenticate attemptId generation = .ok ())
    (hlifecycle : r.lifecycle = .ackCommitted) (hkey : ackKey r = .ok k) (hfits : k.Fits)
    (hstaging : w.record.staging = none)
    (hreplay : readReplay w.replay.file = .ok ⟨attemptId, r.requestSha256, none⟩)
    (hsettled : w.replay.staging = none)
    (hcrash : (retireAcknowledged before r).Leaves w (d attemptId))
    (hgranted : reservations.Granted) (hrecovery : (evidence attemptId).reservations.Granted)
    (hwriters : installation.writers = .ok ())
    (hadmissions : ∃ notes, installation.admissions = .ok notes)
    (hattempts : attempts.Nodup) (hmem : attemptId ∈ attempts)
    (hothers : ∀ other ∈ attempts, other ≠ attemptId →
      ∃ f, (recoverAlone generation (evidence other) other).Completes (d other) f) :
    ((∃ w' retired, (acknowledgeTerminalResponse generation reservations m attemptId r.nonce
        r.requestSha256).run (d attemptId) = (w', .ok retired) ∧ Retired k w') ↔
      ¬ Cell.IsTorn (d attemptId).replay) ∧
    ((∃ d', (recoverUntil generation installation evidence attempts).Completes d d' ∧
        Retired k (d' attemptId) ∧ ∀ other ∈ attempts, other ≠ attemptId →
          (recoverAlone generation (evidence other) other).Completes (d other) (d' other)) ↔
      ¬ Cell.IsTorn (d attemptId).replay) := by
  have h := Record.authenticate_eq_ok.1 hauthentic
  obtain ⟨rfl, -⟩ := h.ids
  have hstarted : AckStarted generation w r k :=
    ⟨hread, h, hlifecycle, hkey, ackKey_valid h hkey hfits, hstaging⟩
  obtain ⟨notes, hadmissions⟩ := hadmissions
  have hw : LedgerAt k .reserved w.replay := by
    obtain ⟨-, -, -, hid, hrequest⟩ := ackKey_eq_ok.1 hkey
    refine ⟨?_, by simp [hsettled]⟩
    rw [hreplay, LedgerKey.entry, hid, hrequest]
    rfl
  obtain ⟨s, hunderway⟩ := leaves_retireAcknowledged hkey hstarted.valid hw hsettled hcrash
  refine ⟨⟨?_, fun htorn => ?_⟩, ?_, fun htorn => ?_⟩
  · rintro ⟨w', retired, hrun, -⟩ htorn
    obtain ⟨error, herror⟩ := run_acknowledge_torn (m := m) hstarted hgranted hunderway htorn
    cases herror.symm.trans hrun
  · obtain ⟨w', hrun, hretired⟩ :=
      run_acknowledge_underway (m := m) hstarted hgranted hunderway htorn
    exact ⟨w', _, hrun, hretired⟩
  · rintro ⟨d', hcompletes, -⟩ htorn
    rw [completes_recoverUntil hwriters hadmissions hattempts] at hcompletes
    exact not_completes_recoverAlone hstarted htorn _ (hcompletes.1 r.attemptId hmem)
  · obtain ⟨w', hcompletes, hretired⟩ :=
      completes_recoverAlone (e := evidence r.attemptId) hstarted hrecovery hunderway htorn
    have hall :
        ∀ other ∈ attempts, ∃ f, (recoverAlone generation (evidence other) other).Completes
          (d other) f ∧ (other = r.attemptId → f = w') := by
      intro other hother
      by_cases hsame : other = r.attemptId
      · subst hsame
        exact ⟨w', hcompletes, fun _ => rfl⟩
      · obtain ⟨f, hf⟩ := hothers other hother hsame
        exact ⟨f, hf, fun heq => absurd heq hsame⟩
    choose f hf hown using hall
    refine ⟨fun other => if hother : other ∈ attempts then f other hother else
      d other, ?_, ?_, fun other hother _ => ?_⟩
    · rw [completes_recoverUntil hwriters hadmissions hattempts]
      refine ⟨fun other hother => ?_, fun other hother => by simp [hother]⟩
      simpa [hother] using hf other hother
    · simpa [hmem, hown r.attemptId hmem rfl] using hretired
    · simpa [hother] using hf other hother

end Interrupted

namespace Sample

open WindowsRecord.Sample

/-- The closed record, once it says that it is acknowledged. -/
def acknowledged : Record := { closed with lifecycle := .ackCommitted }

def evidence : RecoveryEvidence where
  moment := moment
  currentBoot := "next boot"
  binding := .error "provider is not installed"
  observed := none
  relayRetired := .ok ()
  guardian := .ok none
  live := .ok false
  liveAfterWait := .ok false
  jobZero := .ok false
  stagingListedFirst := false
  reservations := granted

/-- Nothing is in the quarantine or among the admissions. -/
def installation : InstallationEvidence := ⟨.ok (), [], .ok []⟩

/-- Two attempts: the one in the files, and one that left a guardian receipt only. -/
def directory (w : Files) (attemptId : String) : Files :=
  if attemptId = zeros then w else ⟨⟨none, none⟩, ⟨none, none⟩, true, false⟩

theorem directory_zeros (w : Files) : directory w zeros = w := if_pos rfl

attribute [local instance] recordText replayText in
/-- The files of the acknowledged record after a crash inside of the staging of its tombstone. -/
def interrupted (k : LedgerKey) (written : ℕ) : Files :=
  { files acknowledged with
        replay := ⟨(files acknowledged).replay.file, some ⟨k.entry .acknowledged, written⟩⟩ }

end Sample

section

open WindowsRecord.Sample Sample

attribute [local instance] zeroSha responseWire ledgerWire recordText replayText

theorem acknowledged_authentic : acknowledged.authenticate zeros "generation" = .ok () := by
    decide +kernel

theorem fits_sample (k : LedgerKey) : k.Fits :=
  fun _ _ => (by decide : 1 + 1 ≤ maxTerminalFrameBytes)

/-- The tombstone of the acknowledged record, and a crash after it is staged. -/
theorem acknowledged_leaves : ∃ k, ackKey acknowledged = .ok k ∧
      (retireAcknowledged granted acknowledged).Leaves (files acknowledged) (interrupted k 2) := by
  have hafter : (ackKey acknowledged).map (interrupted · 2) =
      .ok (Program.after (files acknowledged) 2 (retireAcknowledged granted acknowledged)) := by
    decide +kernel
  obtain ⟨k, hkey, hk⟩ := map_eq_ok.1 hafter
  exact ⟨k, hkey, hk ▸ Program.leaves_after ..⟩

/-- The other attempt alone: its guardian receipt is removed. -/
theorem other_recovers (w : Files) :
    (recoverAlone "generation" evidence "other").Completes (directory w "other")
    ⟨⟨none, none⟩, ⟨none, none⟩, false, false⟩ := ⟨[], rfl⟩

theorem interrupted_acknowledgement_whole :
    ∃ k w, (retireAcknowledged granted acknowledged).Leaves (files acknowledged) w ∧
      (∃ w' retired,
        (acknowledgeTerminalResponse "generation" granted moment zeros acknowledged.nonce
        acknowledged.requestSha256).run (directory w zeros) = (w', .ok retired) ∧ Retired k w') ∧
      ∃ d', (recoverUntil "generation" installation (fun _ => evidence) [zeros, "other"]).Completes
          (directory w) d' ∧ Retired k (d' zeros) ∧ ∀ other ∈ [zeros, "other"], other ≠ zeros →
          (recoverAlone "generation" evidence other).Completes (directory w other) (d' other) := by
  obtain ⟨k, hkey, hleaves⟩ := acknowledged_leaves
  have hother : ∀ w, ∀ other ∈ [zeros, "other"], other ≠ zeros →
      ∃ f, (recoverAlone "generation" evidence other).Completes (directory w other) f := by
    intro w other hmem hne
    have hname : other = "other" := by simpa [hne] using hmem
    subst hname
    exact ⟨_, other_recovers w⟩
  have htorn : ¬ Cell.IsTorn (directory (interrupted k 2) zeros).replay := by
    rw [directory_zeros]
    rintro ⟨e, he, hcut⟩
    cases he
    exact absurd hcut (by decide : ¬ 2 < 1)
  have hgranted : granted.Granted := ⟨rfl, rfl, rfl⟩
  have hboth := @interrupted_acknowledgement_iff _ _ _ _ _ "generation" granted granted moment
    installation (fun _ => evidence) [zeros, "other"] (directory (interrupted k 2))
      (files acknowledged)
    acknowledged k zeros rfl acknowledged_authentic rfl hkey (fits_sample k) rfl rfl rfl
    (directory_zeros _ ▸ hleaves) hgranted hgranted rfl ⟨[], rfl⟩ (by decide +kernel) (by simp)
      (hother _)
  exact ⟨k, interrupted k 2, hleaves, hboth.1.2 htorn, hboth.2.2 htorn⟩

/-- A crash before the first byte of the staged tombstone: the next acknowledgement fails, and the
recovery fails before it comes to the other attempt. -/
theorem torn_ledger_blocks_recovery :
    ∃ w, (retireAcknowledged granted acknowledged).Leaves (files acknowledged) w ∧
      (∃ error, (acknowledgeTerminalResponse "generation" granted moment zeros acknowledged.nonce
        acknowledged.requestSha256).run w = (w, .error error)) ∧
      (∃ error, (recoverUntil "generation" installation (fun _ => evidence) [zeros, "other"]).run
        (directory w) = (directory w, .error error)) ∧
      (recoverAlone "generation" evidence "other").Completes (directory w "other")
        ⟨⟨none, none⟩, ⟨none, none⟩, false, false⟩ := by
  generalize hw : Program.after (files acknowledged) 1 (retireAcknowledged granted acknowledged) = w
  have hacknowledge :
      (acknowledgeTerminalResponse "generation" granted moment zeros acknowledged.nonce
      acknowledged.requestSha256).run w = (w, .error "EOF while parsing a value") := by
    rw [← hw]
    decide +kernel
  have hstaged : (Task.within Files.replayPart (recoverStagedAckTombstone zeros)).run w =
      (w, .error "EOF while parsing a value") := by
    rw [← hw]
    decide +kernel
  refine ⟨w, hw ▸ Program.leaves_after .., ⟨_, hacknowledge⟩, ⟨"EOF while parsing a value", ?_⟩,
    other_recovers w⟩
  have hfirst :
      (Task.within (Part.entry zeros)
        (.within Files.replayPart (recoverStagedAckTombstone zeros))).run
      (directory w) = (directory w, .error "EOF while parsing a value") := by
    rw [run_within_eq ((directory_zeros w).symm ▸ hstaged : (Task.within Files.replayPart _).run
      ((Part.entry zeros).get (directory w)) = (directory w zeros, _))]
    exact Prod.ext ((Part.entry zeros).set_get _) rfl
  exact (run_lift_bind rfl).trans (run_bind_error (run_bind_error hfirst))

end

end MemCordon.WindowsAttempt
