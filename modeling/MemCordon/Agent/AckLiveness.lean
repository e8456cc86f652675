import MemCordon.Agent.Acknowledgement
import MemCordon.Agent.Republication

/-!
# Acknowledgement of a staged response

`acknowledge_terminal_response` on the files of an attempt. It asks for a retirement proof, an owner
manifest and a recovery authorization; the authenticator asks for none of them, and refuses the
proof of an attempt that was aborted before authorization.

* `ackKey` is what the acknowledgement of a record writes to the ledger.
* `run_retireAcknowledged`: once the record says that it is acknowledged, the rest goes through.
* `acknowledge_iff`: the acknowledgement of an accepted record with a staged response succeeds
  exactly when the record is `Acknowledgeable`.
-/

namespace MemCordon.WindowsAttempt

open WindowsRecord Workload CausalDiagnostics DiagnosticScope Fallible Counter MemCordon.Task

section Liveness

variable [Sha256] [Wire] [LedgerWire] {generation : String}

/-! ## The tombstone of a record -/

/-- What the acknowledgement of a record writes to the ledger. -/
def ackKey (r : Record) : Except String LedgerKey := do
  let retired ← terminalRetiredReceipt r r.nonce
  let tombstone ← buildTombstone r retired
  return ⟨r.attemptId, r.requestSha256, tombstone⟩

variable {r : Record} {k : LedgerKey}

theorem ackKey_eq_ok : ackKey r = .ok k ↔
    ∃ retired, terminalRetiredReceipt r r.nonce = .ok retired ∧
      buildTombstone r retired = .ok k.tombstone ∧ k.attemptId = r.attemptId ∧
      k.requestSha256 = r.requestSha256 := by
  unfold ackKey
  simp only [bind_eq_ok, pure_eq_ok]
  cases k
  simp

variable {retired : TerminalRetired}

omit [Wire] [LedgerWire] in
theorem terminalRetiredReceipt_eq_ok {nonce : String} :
    terminalRetiredReceipt r nonce = .ok retired ↔ nonce = r.nonce ∧ ∃ json disposition,
      r.terminalResponseJson = some json ∧ r.terminalDisposition = some disposition ∧
      retired = ⟨1, r.attemptId, nonce, r.requestSha256, sha256Text json.toUTF8.toList,
        disposition⟩ := by
  unfold terminalRetiredReceipt
  simp only [reject_bind_eq_ok, okOr_bind_eq_ok, pure_eq_ok, not_not, exists_and_left]

def tombstoneOf (r : Record) (retired : TerminalRetired) (proof : RetirementProof)
    (manifestSha256 : String) (authorization : RecoveryAuthorization) : AckTombstone where
  schemaVersion := 1
  retired
  providerGeneration := r.providerGeneration
  launchIncarnation := r.launchIncarnation
  originalBootId := r.bootIdentity
  proofSha256 := sha256Text (Wire.proof proof)
  jobIdentity := r.jobIdentitySha256
  ownerManifestSha256 := manifestSha256
  ledgerGeneration := sha256Text
    (LedgerWire.generation r.attemptId r.providerGeneration r.launchIncarnation
      (sha256Text (Wire.proof proof)))
  retirementComplete := false
  callerProcessIdentity := r.callerProcessIdentity
  callerTokenSha256 := r.callerTokenSha256
  recoveryAuthorization := authorization

theorem buildTombstone_eq_ok {t : AckTombstone} :
    buildTombstone r retired = .ok t ↔ ∃ proof manifest manifestSha256 authorization,
      r.retirementProof = some proof ∧ r.ownerManifest = some manifest ∧
      manifest.canonicalSha256 = .ok manifestSha256 ∧ r.recoveryAuthorization = some authorization ∧
      t = tombstoneOf r retired proof manifestSha256 authorization := by
  unfold buildTombstone
  simp only [bind_eq_ok, okOr_eq_ok, pure_eq_ok, exists_and_left]
  rfl

variable {attemptId : String}

/-- **What the acknowledgement asks of an accepted record with a staged response**: a retirement
proof, and a recovery authorization. The proof is bound to a manifest. -/
theorem ackKey_isOk_iff (h : r.Authentic attemptId generation)
    (hstaged : r.terminalResponseJson ≠ none) :
    (∃ k, ackKey r = .ok k) ↔ r.retirementProof ≠ none ∧ r.recoveryAuthorization ≠ none := by
  constructor
  · rintro ⟨k, hk⟩
    obtain ⟨retired, -, hbuild, -, -⟩ := ackKey_eq_ok.1 hk
    obtain ⟨proof, -, -, authorization, hproof, -, -, hauthorization, -⟩ :=
      buildTombstone_eq_ok.1 hbuild
    simp [hproof, hauthorization]
  · rintro ⟨hproof, hauthorization⟩
    obtain ⟨json, hjson⟩ := Option.ne_none_iff_exists'.1 hstaged
    obtain ⟨disposition, hdisposition⟩ :=
      Option.ne_none_iff_exists'.1 (h.ordered.staged (by simp [hjson])).2
    obtain ⟨proof, hproof⟩ := Option.ne_none_iff_exists'.1 hproof
    obtain ⟨authorization, hauthorization⟩ := Option.ne_none_iff_exists'.1 hauthorization
    have hbound := h.proof proof hproof
    simp only [Record.proofBound, Bool.and_eq_true, Option.any_eq_true, isOkAnd_eq_true] at hbound
    obtain ⟨-, manifest, hmanifest, digest, hdigest, -⟩ := hbound
    exact ⟨⟨r.attemptId, r.requestSha256, _⟩, ackKey_eq_ok.2 ⟨_,
      terminalRetiredReceipt_eq_ok.2 ⟨rfl, json, disposition, hjson, hdisposition, rfl⟩,
      buildTombstone_eq_ok.2 ⟨proof, manifest, digest, authorization, hproof, hmanifest, hdigest,
      hauthorization, rfl⟩, rfl, rfl⟩⟩

omit [Sha256] [Wire] [LedgerWire] in
theorem validate_eq_ok {m : OwnerManifest} : m.validate = .ok () ↔
    (m.schemaVersion = 1 ∧ hexadecimalDigest m.attemptId = true ∧ m.providerGeneration ≠ "" ∧
      m.launchIncarnation ≠ "") ∧
    (m.entries.toList.zip OwnerRole.all).all (fun entry => entry.1.isValid entry.2) = true := by
  unfold OwnerManifest.validate
  simp only [reject_bind_eq_ok, reject_eq_ok, not_or, not_not, Bool.not_eq_false]

omit [LedgerWire] in
theorem canonicalSha256_eq_ok {m : OwnerManifest} {digest : String} :
    m.canonicalSha256 = .ok digest ↔
    m.validate = .ok () ∧ digest = sha256Text (Wire.manifest m) := by
  unfold OwnerManifest.canonicalSha256
  rw [unit_bind_eq_ok, pure_eq_ok]

section Ledger

variable [TextLength ReplayRecord]

/-- The tombstone of an accepted record is one that the ledger goes through, when its entries
fit. -/
theorem ackKey_valid (h : r.Authentic attemptId generation) (hk : ackKey r = .ok k)
    (hfits : k.Fits) : k.Valid := by
  obtain ⟨retired, hretired, hbuild, hid, hrequest⟩ := ackKey_eq_ok.1 hk
  obtain ⟨-, json, disposition, -, -, rfl⟩ := terminalRetiredReceipt_eq_ok.1 hretired
  obtain ⟨proof, manifest, digest, authorization, -, hmanifest, hdigest, -, htombstone⟩ :=
    buildTombstone_eq_ok.1 hbuild
  have hbindings := h.bindings
  simp only [Record.bindingsValid, Bool.and_eq_true, bne_iff_ne] at hbindings
  have hbound := h.manifest manifest hmanifest
  simp only [Record.manifestBound, Bool.and_eq_true, beq_iff_eq] at hbound
  obtain ⟨hvalidate, rfl⟩ := canonicalSha256_eq_ok.1 hdigest
  have hgeneration : r.providerGeneration ≠ "" := by
    rw [← hbound.1.2]
    exact (validate_eq_ok.1 hvalidate).1.2.2.1
  refine ⟨hid ▸ (by grind), hrequest ▸ (by grind), htombstone ▸ rfl, ?_, hfits⟩
  simp only [htombstone, hid, hrequest, tombstoneOf, AckTombstone.completed,
    CompletedRetired.isConsistentFor,
    sha256TextIsValid_sha256Text, Bool.and_eq_true, bne_iff_ne, beq_self_eq_true, and_true,
    true_and]
  grind

/-! ## After the record says that it is acknowledged -/

variable {s : Stage} {w : Files} {reservations : Reservations}

/-- The reservations for an attempt are granted. -/
structure Reservations.Granted (reservations : Reservations) : Prop where
  reader : reservations.reader = .ok ()
  lane : reservations.lane = .ok ()
  writerRetired : reservations.writerRetired = .ok ()

omit [Sha256] [Wire] [LedgerWire] [TextLength ReplayRecord] in
theorem run_acquireReader_eq_ok {w' : Files} :
    reservations.acquireReader.run w = (w', .ok ()) ↔
      reservations.reader = .ok () ∧ w.record.staging = none ∧ w = w' := by
  unfold Reservations.acquireReader
  rw [run_lift_bind_eq_ok, Unique.exists_iff, run_inspect_bind, run_lift, Prod.mk.injEq,
    reject_eq_ok]
  simp only [Bool.not_eq_true, Option.isSome_eq_false_iff, Option.isNone_iff_eq_none]
  exact and_congr_right fun _ => and_comm

omit [Sha256] [Wire] [LedgerWire] in
/-- **`complete_ack_tombstone`** goes through once the record and the guardian receipt are gone. -/
theorem run_completeAckTombstone (hk : k.Valid) (hw : LedgerAt k s w.replay)
    (htorn : ¬ Cell.IsTorn w.replay)
    (hs : s ≠ .reserved) (hrecord : w.record.file = none) (hguardian : w.guardianReceipt = false) :
    ∃ c, (completeAckTombstone k.attemptId k.requestSha256).run w =
      ({ w with replay := c }, .ok k.tombstone.completed) ∧ LedgerAt k .completed c ∧
      c.staging = none := by
  obtain ⟨c, hrun, hc, hstaging⟩ := run_completeTombstone hk hw htorn hs
  refine ⟨c, ?_, hc, hstaging⟩
  have hgone : reject "ACK tombstone completion still has active record or guardian receipt"
      (w.record.file.isSome = true ∨ w.guardianReceipt = true) = .ok () := by
    rw [reject_eq_ok, hrecord, hguardian]
    simp
  unfold completeAckTombstone
  rw [run_inspect_bind, run_lift_bind hgone]
  exact run_within_eq hrun

def referenceAfter (r : Record) (w : Files) : Bool :=
  if r.workloadAdmission.isSome then false else w.policyReference

/-- **`stage_ack_tombstone`** goes through from every state of the ledger without a torn staging
file. -/
theorem run_stageAckTombstone (hkey : ackKey r = .ok k)
    (hretired : terminalRetiredReceipt r r.nonce = .ok retired)
    (hk : k.Valid) (hw : LedgerAt k s w.replay) (htorn : ¬ Cell.IsTorn w.replay) :
    ∃ s' c, (stageAckTombstone r retired).run w = ({ w with replay := c }, .ok ()) ∧
      LedgerAt k s' c ∧ c.staging = none ∧ s' ≠ .reserved := by
  obtain ⟨retired', hretired', hbuild, hid, hrequest⟩ := ackKey_eq_ok.1 hkey
  cases hretired.symm.trans hretired'
  obtain ⟨s', c, hpublish, hc, hstaging, hs'⟩ := run_publishTombstone hk hw htorn
  refine ⟨s', c, ?_, hc, hstaging, hs'⟩
  unfold stageAckTombstone
  rw [run_lift_bind hbuild, ← hid, ← hrequest]
  exact run_within_eq hpublish

/-- **The rest of the acknowledgement** goes through from every state of the ledger without a torn
staging file, when the writer can be retired. -/
theorem run_retireAcknowledged (hwriter : reservations.writerRetired = .ok ())
    (hkey : ackKey r = .ok k) (hk : k.Valid) (hw : LedgerAt k s w.replay)
    (htorn : ¬ Cell.IsTorn w.replay) :
    ∃ c, (retireAcknowledged reservations r).run w =
      (⟨{ w.record with file := none }, c, false, referenceAfter r w⟩, .ok ()) ∧
      LedgerAt k .completed c ∧ c.staging = none := by
  obtain ⟨retired, hretired, hbuild, hid, hrequest⟩ := ackKey_eq_ok.1 hkey
  obtain ⟨s₁, c₁, hstage, hc₁, hstaging₁, hs₁⟩ := run_stageAckTombstone hkey hretired hk hw htorn
  have htorn₁ : ¬ Cell.IsTorn c₁ := by simp [Cell.IsTorn, hstaging₁]
  obtain ⟨c, hcomplete, hc, hstaging⟩ := run_completeAckTombstone hk
    (w := ⟨{ w.record with file := none }, c₁, false, referenceAfter r w⟩) hc₁ htorn₁ hs₁ rfl rfl
  refine ⟨c, ?_, hc, hstaging⟩
  unfold retireAcknowledged
  rw [run_lift_bind hretired, run_bind_ok hstage, run_act_bind, run_lift_bind hwriter]
  have hend : Task.run (do
      Task.act removeRecord
      let _ ← completeAckTombstone r.attemptId r.requestSha256
      return) (⟨w.record, c₁, false, referenceAfter r w⟩ : Files) =
      (⟨{ w.record with file := none }, c, false, referenceAfter r w⟩, .ok ()) := by
    rw [run_act_bind, ← hid, ← hrequest]
    exact run_bind_ok hcomplete
  by_cases hadmission : r.workloadAdmission.isSome
  · rw [if_pos hadmission, run_act_bind]
    simpa [removeGuardianReceipt, retireReference, referenceAfter, hadmission] using hend
  · rw [if_neg hadmission]
    simpa [removeGuardianReceipt, referenceAfter, hadmission] using hend

/-- A rest of the acknowledgement that went through from the reserved entry: the writer was retired,
the record has its tombstone, and the entries are within the limit. -/
theorem retireAcknowledged_inv {w w' : Files} {u : Unit}
    (hreplay : readReplay w.replay.file = .ok ⟨r.attemptId, r.requestSha256, none⟩)
    (hstaging : w.replay.staging = none)
    (h : (retireAcknowledged reservations r).run w = (w', .ok u)) :
    reservations.writerRetired = .ok () ∧ ∃ k, ackKey r = .ok k ∧ k.Fits := by
  unfold retireAcknowledged at h
  obtain ⟨retired, hretired, h⟩ := run_lift_bind_eq_ok.1 h
  obtain ⟨w₁, done, hstage, h⟩ := run_bind_eq_ok.1 h
  unfold stageAckTombstone at hstage
  obtain ⟨tombstone, hbuild, hstage⟩ := run_lift_bind_eq_ok.1 hstage
  obtain ⟨proof, manifest, manifestSha256, authorization, -, -, -, -, htombstone⟩ :=
    buildTombstone_eq_ok.1 hbuild
  let k : LedgerKey := ⟨r.attemptId, r.requestSha256, tombstone⟩
  obtain ⟨c₁, hpublish, rfl⟩ := run_within_eq_ok.1 hstage
  obtain ⟨rfl, hacknowledged⟩ := publishTombstone_inv (k := k) hreplay hstaging hpublish
  rw [run_act_bind] at h
  obtain ⟨released, hwriter, h⟩ := run_lift_bind_eq_ok.1 h
  have hcomplete : ∃ w₂ w₃ receipt, w₂.replay = ⟨some (.whole (k.entry .acknowledged)), none⟩ ∧
      (completeAckTombstone r.attemptId r.requestSha256).run w₂ = (w₃, .ok receipt) := by
    by_cases hadmission : r.workloadAdmission.isSome
    · rw [if_pos hadmission, run_act_bind, run_act_bind] at h
      obtain ⟨w₃, receipt, hrun, -⟩ := run_bind_eq_ok.1 h
      exact ⟨_, w₃, receipt, rfl, hrun⟩
    · rw [if_neg hadmission, run_act_bind] at h
      obtain ⟨w₃, receipt, hrun, -⟩ := run_bind_eq_ok.1 h
      exact ⟨_, w₃, receipt, rfl, hrun⟩
  obtain ⟨w₂, w₃, receipt, hledger, hrun⟩ := hcomplete
  unfold completeAckTombstone at hrun
  rw [run_inspect_bind] at hrun
  obtain ⟨-, -, hrun⟩ := run_lift_bind_eq_ok.1 hrun
  obtain ⟨c₂, hrun, -⟩ := run_within_eq_ok.1 hrun
  have hthere : Files.replayPart.get w₂ = ⟨some (.whole (k.entry .acknowledged)), none⟩ := hledger
  rw [hthere] at hrun
  have hincomplete : tombstone.retirementComplete = false := by rw [htombstone]; rfl
  have hcompleted := completeTombstone_inv (k := k) hincomplete hrun
  refine ⟨hwriter, k, ackKey_eq_ok.2 ⟨retired, hretired, hbuild, rfl, rfl⟩, ?_⟩
  rintro (_ | _ | _) hs
  · exact absurd rfl hs
  · exact hacknowledged
  · exact hcompleted

end Ledger

/-! ## The record that says that it is acknowledged -/

def ackSnapshot (r : Record) : Record :=
  snapshot { r with lifecycle := .ackCommitted } (r.recordRevision + 1)

/-- The committed record has the same tombstone. -/
theorem ackKey_sealedImage (r : Record) : ackKey (sealedImage (ackSnapshot r)) = ackKey r := by
  unfold sealedImage
  split
  · rfl
  · rfl

/-- The seed and the proof that an acknowledged record has. -/
def ackProofValid (r : Record) : Bool :=
  ({ r with lifecycle := .ackCommitted } : Record).proofCheckpointValid

omit [LedgerWire] in
/-- An accepted record with a staged response can say that it is acknowledged when it has the seed
and the proof for it. -/
theorem coherent_ackSnapshot (h : r.Authentic r.attemptId generation)
    (hstaged : r.terminalResponseJson ≠ none) :
    Coherent (unsealed (ackSnapshot r)) r.attemptId generation ↔ ackProofValid r = true := by
  constructor
  · exact fun hcoherent => hcoherent.proofCheckpoint
  · intro hproof
    have hbindings := h.bindings
    refine ⟨?_, { h.ordered with }, h.manifest, h.intent, h.authorization, h.seed, h.proof, hproof,
      fun _ => hstaged, h.outbox⟩
    simp only [Record.bindingsValid, Bool.and_eq_true] at hbindings ⊢
    have hjournal := isConsistent_durable (j := r.causalDiagnostics) (by grind)
      (d := some r.causalDiagnostics.sequence) (by simp)
    simp only [unsealed, ackSnapshot, snapshot, hjournal]
    simp
    grind

omit [LedgerWire] in
/-- **The record's own part of the acknowledgement.** -/
theorem commitAckRecord_eq_ok [TextLength Record] {m : Moment} {r r' : Record}
    {w w' : Files} {reservations : Reservations} (hread : readRecord w.record.file = .ok r)
    (h : r.Authentic r.attemptId generation) (hstaged : r.terminalResponseJson ≠ none) :
    (commitAckRecord generation reservations m r).run w = (w', .ok r') ↔
      r.lifecycle = .ackCommitted ∧ w' = w ∧ r' = r ∨
      r.lifecycle ≠ .ackCommitted ∧ reservations.lane = .ok () ∧ ackProofValid r = true ∧
        r.recordRevision + 1 < u64Bound ∧ Fits (unsealed (ackSnapshot r)) ∧
        w.record.staging = none ∧
        w' = { w with record := ⟨some (.whole (sealedImage (ackSnapshot r))), none⟩ } ∧
        r' = sealedImage (ackSnapshot r) := by
  have hthere :
      reject "attempt has no durable terminal outbox to acknowledge"
        (r.terminalResponseJson = none) = .ok () := reject_eq_ok.2 hstaged
  unfold commitAckRecord
  rw [run_lift_bind hthere]
  by_cases hlifecycle : r.lifecycle = .ackCommitted
  · rw [if_neg (not_not.2 hlifecycle), run_pure]
    simp only [hlifecycle, ne_eq, not_true_eq_false, false_and, or_false, true_and, Prod.mk.injEq,
      Except.ok.injEq]
    exact and_congr eq_comm eq_comm
  · rw [if_pos hlifecycle, run_lift_bind_eq_ok]
    simp only [hlifecycle, false_and, false_or, ne_eq, not_false_eq_true, true_and]
    rw [Unique.exists_iff, and_congr_right_iff]
    intro hlane
    rw [run_bind_eq_ok]
    have hcommitted : ∀ cell o', (commitFile generation m _).run w.record = (cell, .ok o') ↔
        _ := fun _ _ =>
      commitFile_eq_ok (o := ⟨{ r with lifecycle := .ackCommitted }, enter⟩) hread h
    constructor
    · rintro ⟨w₁, owner, hcommit, hdone⟩
      cases hdone
      obtain ⟨cell, hrun, rfl⟩ := run_within_eq_ok.1 hcommit
      obtain ⟨-, hroom, hcoherent, hfits, hstaging, rfl, rfl⟩ := (hcommitted cell owner).1 hrun
      exact ⟨(coherent_ackSnapshot h hstaged).1 hcoherent, hroom, hfits, hstaging, rfl, rfl⟩
    · rintro ⟨hproof, hroom, hfits, hstaging, rfl, rfl⟩
      refine ⟨_, _, run_within_eq_ok.2 ⟨_, (hcommitted _ _).2 ⟨mayReplace_self m r, hroom,
        (coherent_ackSnapshot h hstaged).2 hproof, hfits, hstaging, rfl, rfl⟩, rfl⟩, rfl⟩

omit [LedgerWire] in
/-- A staged response of an attempt that had a target comes with a proof. -/
theorem proof_ne_none (h : r.Authentic attemptId generation)
    (hstaged : r.terminalResponseJson ≠ none)
    (hposttarget : r.terminalDisposition = some .posttarget) :
    r.retirementProof ≠ none := by
  obtain ⟨json, hjson⟩ := Option.ne_none_iff_exists'.1 hstaged
  obtain ⟨response, -, hbound⟩ := h.outbox json hjson
  have hreceipt : ∀ receipt, r.receiptBound receipt = true → r.retirementProof ≠ none := by
    intro receipt hreceipt
    simp only [Record.receiptBound, Bool.and_eq_true, beq_iff_eq] at hreceipt
    rw [hreceipt.1.2]
    nofun
  cases response with
  | terminal receipt =>
    rw [Record.outboxIsBound, Bool.and_eq_true] at hbound
    exact hreceipt receipt hbound.2
  | reject schemaVersion attemptId nonce requestSha256 rejection =>
    simp only [Record.outboxIsBound, hposttarget, Bool.and_eq_true] at hbound
    obtain ⟨-, hmatch⟩ := hbound
    split at hmatch
    · rename_i habort _
      cases habort
    · exact hreceipt _ hmatch
    · cases hmatch
  | other kind => cases hbound

omit [Sha256] [Wire] [LedgerWire] in
theorem ackProofValid_eq_true (hproof : r.retirementProof ≠ none) :
    ackProofValid r = true ↔ r.terminalDisposition ≠ some .preauthorizationAbort ∧
      r.terminalSeed ≠ none := by
  obtain ⟨proof, hproof⟩ := Option.ne_none_iff_exists'.1 hproof
  simp only [ackProofValid, Record.proofCheckpointValid, hproof]
  by_cases habort : r.terminalDisposition = some .preauthorizationAbort
  · simp [habort]
  · simp [habort, Option.isSome_iff_ne_none]

/-! ## The acknowledgement -/

variable [TextLength Record] [TextLength ReplayRecord]

/-- What an accepted record with a staged response needs to be acknowledged. -/
structure Acknowledgeable (reservations : Reservations) (w : Files) (r : Record) : Prop where
  reader : reservations.reader = .ok ()
  staging : w.record.staging = none
  posttarget : r.terminalDisposition = some .posttarget
  seed : r.terminalSeed ≠ none
  authorization : r.recoveryAuthorization ≠ none
  commits : r.lifecycle = .ackCommitted ∨
    reservations.lane = .ok () ∧ r.recordRevision + 1 < u64Bound ∧ Fits (unsealed (ackSnapshot r))
  writerRetired : reservations.writerRetired = .ok ()
  ledger : ∀ k, ackKey r = .ok k → k.Fits

/-- The record in the store can say that it is acknowledged, and its writer be retired. -/
structure CommitsAck (generation : String) (reservations : Reservations) (w : Files) (r : Record) :
    Prop where
  read : readRecord w.record.file = .ok r
  authentic : r.Authentic r.attemptId generation
  staged : r.terminalResponseJson ≠ none
  proof : ackProofValid r = true
  staging : w.record.staging = none
  room : r.lifecycle = .ackCommitted ∨
    reservations.lane = .ok () ∧ r.recordRevision + 1 < u64Bound ∧ Fits (unsealed (ackSnapshot r))
  writerRetired : reservations.writerRetired = .ok ()

variable {m : Moment} {w : Files} {r : Record} {k : LedgerKey} {s : Stage}
  {reservations : Reservations}

section

variable (h : CommitsAck generation reservations w r)

include h

omit [TextLength ReplayRecord] in
theorem CommitsAck.run_commitAckRecord :
    ∃ cell r', (commitAckRecord generation reservations m r).run w =
      ({ w with record := cell }, .ok r') ∧ ackKey r' = ackKey r ∧ cell.staging = none := by
  have hiff : ∀ w' r', (commitAckRecord generation reservations m r).run w = (w', .ok r') ↔ _ :=
    fun _ _ => commitAckRecord_eq_ok h.read h.authentic h.staged
  by_cases hlifecycle : r.lifecycle = .ackCommitted
  · exact ⟨w.record, r, (hiff _ _).2 (.inl ⟨hlifecycle, rfl, rfl⟩), rfl, h.staging⟩
  · obtain ⟨hlane, hroom, hfits⟩ := h.room.resolve_left hlifecycle
    exact ⟨_, _, (hiff _ _).2
      (.inr ⟨hlifecycle, hlane, h.proof, hroom, hfits, h.staging, rfl, rfl⟩),
      ackKey_sealedImage r, rfl⟩

/-- **`WindowsAttemptRecordV1::acknowledge_terminal_response`** goes through from every state of the
ledger without a torn staging file. -/
theorem run_acknowledgeRecord (hkey : ackKey r = .ok k) (hk : k.Valid)
    (hw : LedgerAt k s w.replay) (htorn : ¬ Cell.IsTorn w.replay) :
    ∃ w', (acknowledgeRecord generation reservations m r).run w = (w', .ok ()) ∧
      w'.record = ⟨none, none⟩ ∧ w'.guardianReceipt = false ∧ LedgerAt k .completed w'.replay ∧
      w'.replay.staging = none := by
  obtain ⟨cell, r', hcommit, hsame, hcell⟩ := h.run_commitAckRecord (m := m)
  obtain ⟨c, hretire, hc, hstaging⟩ := run_retireAcknowledged (w := { w with record := cell })
    h.writerRetired (hsame.trans hkey) hk hw htorn
  refine ⟨⟨{ cell with file := none }, c, false, referenceAfter r' w⟩, ?_, by rw [hcell], rfl, hc,
    hstaging⟩
  unfold acknowledgeRecord
  exact (run_bind_ok hcommit).trans hretire

/-- **The acknowledgement of a record that is there** goes through from every state of the ledger
without a torn staging file, when its reader is admitted. -/
theorem run_acknowledgeTerminalResponse (hreader : reservations.reader = .ok ())
    (hkey : ackKey r = .ok k) (hk : k.Valid)
    (hw : LedgerAt k s w.replay) (htorn : ¬ Cell.IsTorn w.replay) :
    ∃ w', (acknowledgeTerminalResponse generation reservations m r.attemptId r.nonce
        r.requestSha256).run w = (w', .ok k.tombstone.completed) ∧ w'.record.file = none ∧
        LedgerAt k .completed w'.replay := by
  obtain ⟨draft, hdraft, -, -⟩ := readRecord_eq_ok.1 h.read
  obtain ⟨retired, hretired, hbuild, hid, hrequest⟩ := ackKey_eq_ok.1 hkey
  obtain ⟨w₁, hrecord, hrecordAfter, hguardian, hledger, hstaging⟩ :=
    run_acknowledgeRecord (m := m) h hkey hk hw htorn
  have hgone : w₁.record.file = none := by rw [hrecordAfter]
  obtain ⟨c, hcomplete, hc, -⟩ :=
    run_completeAckTombstone hk hledger (by simp [Cell.IsTorn, hstaging]) nofun hgone hguardian
  have hexact :
      reject "terminal acknowledgment request digest is not exact"
        (r.requestSha256 ≠ r.requestSha256) = .ok () := by simp [reject_eq_ok]
  have hdigest : reject "ACK tombstone changed terminal authority digest"
      (k.tombstone.completed.terminalResponseSha256 ≠ retired.terminalResponseSha256) = .ok () := by
    obtain ⟨proof, manifest, digest, authorization, -, -, -, -, htombstone⟩ :=
      buildTombstone_eq_ok.1 hbuild
    rw [reject_eq_ok, htombstone]
    exact not_not.2 rfl
  refine ⟨{ w₁ with replay := c }, ?_, hgone, hc⟩
  unfold acknowledgeTerminalResponse
  rw [run_bind_ok (run_acquireReader_eq_ok.2 ⟨hreader, h.staging, rfl⟩),
    run_lift_bind (validateAttemptId_eq_ok (hid ▸ hk.attemptId)), run_inspect_bind, hdraft]
  change (acknowledgeStored generation reservations m draft r.attemptId r.nonce r.requestSha256).run
    w = _
  unfold acknowledgeStored
  rw [run_lift_bind (hdraft ▸ h.read), run_lift_bind (Record.authenticate_eq_ok.2 h.authentic),
    run_lift_bind hexact, run_lift_bind hretired, run_bind_ok hrecord, ← hid, ← hrequest,
    run_bind_ok hcomplete, run_lift_bind hdigest]
  rfl

end

theorem Acknowledgeable.commitsAck (hready : Acknowledgeable reservations w r)
    (hread : readRecord w.record.file = .ok r)
    (h : r.Authentic r.attemptId generation) (hstaged : r.terminalResponseJson ≠ none) :
    CommitsAck generation reservations w r := by
  refine ⟨hread, h, hstaged, ?_, hready.staging, hready.commits, hready.writerRetired⟩
  rw [ackProofValid_eq_true (proof_ne_none h hstaged hready.posttarget), hready.posttarget]
  exact ⟨nofun, hready.seed⟩

/-- An acknowledgement that went through was one of a record that can be acknowledged. -/
theorem acknowledgeable_of_run {w' : Files} {retired : CompletedRetired}
    (hread : readRecord w.record.file = .ok r)
    (h : r.Authentic r.attemptId generation) (hstaged : r.terminalResponseJson ≠ none)
    (hreplay : readReplay w.replay.file = .ok ⟨r.attemptId, r.requestSha256, none⟩)
    (hstaging : w.replay.staging = none)
    (hrun : (acknowledgeTerminalResponse generation reservations m r.attemptId r.nonce
      r.requestSha256).run w = (w', .ok retired)) : Acknowledgeable reservations w r := by
  obtain ⟨draft, hdraft, -, -⟩ := readRecord_eq_ok.1 hread
  unfold acknowledgeTerminalResponse at hrun
  obtain ⟨w₀, admitted, hacquire, hrest⟩ := run_bind_eq_ok.1 hrun
  obtain ⟨hreader, hfree, rfl⟩ := run_acquireReader_eq_ok.1 hacquire
  obtain ⟨-, -, hrun⟩ := run_lift_bind_eq_ok.1 hrest
  rw [run_inspect_bind, hdraft] at hrun
  change (acknowledgeStored generation reservations m draft r.attemptId r.nonce
    r.requestSha256).run _ = _ at hrun
  unfold acknowledgeStored at hrun
  rw [run_lift_bind (hdraft ▸ hread)] at hrun
  obtain ⟨-, -, hrun⟩ := run_lift_bind_eq_ok.1 hrun
  obtain ⟨-, -, hrun⟩ := run_lift_bind_eq_ok.1 hrun
  obtain ⟨receipt, -, hrun⟩ := run_lift_bind_eq_ok.1 hrun
  obtain ⟨w₂, done, hrecord, -⟩ := run_bind_eq_ok.1 hrun
  unfold acknowledgeRecord at hrecord
  obtain ⟨w₁, r', hcommit, hretire⟩ := run_bind_eq_ok.1 hrecord
  have hcases := (commitAckRecord_eq_ok hread h hstaged).1 hcommit
  have hsame : w₁.replay = w.replay ∧ r'.attemptId = r.attemptId ∧
      r'.requestSha256 = r.requestSha256 ∧ ackKey r' = ackKey r := by
    rcases hcases with ⟨-, rfl, rfl⟩ | ⟨-, -, -, -, -, -, rfl, rfl⟩
    · exact ⟨rfl, rfl, rfl, rfl⟩
    · exact ⟨rfl, by unfold sealedImage; split <;> rfl, by unfold sealedImage; split <;> rfl,
        ackKey_sealedImage r⟩
  obtain ⟨hsameReplay, hid, hrequest, hsameKey⟩ := hsame
  obtain ⟨hwriter, k, hkey, hfits⟩ :=
    retireAcknowledged_inv (by rw [hsameReplay, hid, hrequest, hreplay])
    (by rw [hsameReplay, hstaging]) hretire
  rw [hsameKey] at hkey
  obtain ⟨hproof, hauthorization⟩ := (ackKey_isOk_iff h hstaged).1 ⟨k, hkey⟩
  have hvalid : ackProofValid r = true := by
    rcases hcases with ⟨hlifecycle, -, -⟩ | ⟨-, -, hvalid, -⟩
    · have hcheckpoint := h.proofCheckpoint
      simpa only [ackProofValid, Record.proofCheckpointValid, hlifecycle] using hcheckpoint
    · exact hvalid
  obtain ⟨habort, hseed⟩ := (ackProofValid_eq_true hproof).1 hvalid
  refine ⟨hreader, hfree, ?_, hseed, hauthorization, ?_, hwriter, ?_⟩
  · obtain ⟨disposition, hdisposition⟩ := Option.ne_none_iff_exists'.1
      (h.ordered.staged (Option.isSome_iff_ne_none.2 hstaged)).2
    cases disposition with
    | preauthorizationAbort => exact absurd hdisposition habort
    | posttarget => exact hdisposition
  · rcases hcases with ⟨hlifecycle, -, -⟩ | ⟨-, hlane, -, hroom, hfits, -⟩
    · exact .inl hlifecycle
    · exact .inr ⟨hlane, hroom, hfits⟩
  · intro k' hkey'
    cases hkey.symm.trans hkey'
    exact hfits

/-- **The acknowledgement of an accepted record with a staged response** succeeds, removes the
record and completes the tombstone exactly when its reservations are granted and the record can be
acknowledged: an attempt that was aborted before authorization never can, for its record is accepted
only without the proof that the tombstone asks for. -/
theorem acknowledge_iff (reservations : Reservations) (m : Moment) (w : Files) (r : Record)
    (attemptId : String)
    (hread : readRecord w.record.file = .ok r)
    (hauthentic : r.authenticate attemptId generation = .ok ())
    (hstaged : r.terminalResponseJson ≠ none)
    (hreplay : readReplay w.replay.file = .ok ⟨attemptId, r.requestSha256, none⟩)
    (hstaging : w.replay.staging = none) :
    (∃ w' retired tombstone,
      (acknowledgeTerminalResponse generation reservations m attemptId r.nonce r.requestSha256).run
        w = (w', .ok retired) ∧
      w'.record.file = none ∧
      readReplay w'.replay.file = .ok ⟨attemptId, r.requestSha256, some tombstone⟩ ∧
      tombstone.retirementComplete = true) ↔ Acknowledgeable reservations w r := by
  have h := Record.authenticate_eq_ok.1 hauthentic
  obtain ⟨rfl, -⟩ := h.ids
  constructor
  · rintro ⟨w', retired, -, hrun, -⟩
    exact acknowledgeable_of_run hread h hstaged hreplay hstaging hrun
  · intro hready
    obtain ⟨k, hkey⟩ := (ackKey_isOk_iff h hstaged).2
      ⟨proof_ne_none h hstaged hready.posttarget, hready.authorization⟩
    have hk := ackKey_valid h hkey (hready.ledger k hkey)
    obtain ⟨-, -, -, hid, hrequest⟩ := ackKey_eq_ok.1 hkey
    have hw : LedgerAt k .reserved w.replay := by
      refine ⟨?_, by simp [hstaging]⟩
      rw [hreplay, LedgerKey.entry, hid, hrequest]
      rfl
    obtain ⟨w', hrun, hgone, hledger⟩ := run_acknowledgeTerminalResponse (m := m)
      (hready.commitsAck hread h hstaged) hready.reader hkey hk hw (by simp [Cell.IsTorn, hstaging])
    refine ⟨w', _, { k.tombstone with retirementComplete := true }, hrun, hgone, ?_, rfl⟩
    rw [hledger.file, LedgerKey.entry, hid, hrequest]
    rfl

end Liveness

namespace Sample

open WindowsRecord.Sample

abbrev replayText : TextLength ReplayRecord := ⟨fun _ => 1, fun _ => Nat.one_pos⟩

abbrev ledgerWire : LedgerWire := ⟨fun _ _ _ _ => []⟩

/-- The receipt of an attempt whose boot ended before its terminal delivery. -/
def receipt : TerminalReceipt where
  schemaVersion := 2
  attemptId := zeros
  nonce := "nonce"
  requestSha256 := zeros
  payload := .recoveredClosure (.unavailable .workerLostBeforeObservation) true false
  processObservation := .unavailable .workerLostBeforeFreeze
  cleanupProcessCreation := none
  restartSafety := {}
  retirementProof := {
    schemaVersion := 2, source := .priorBoot, attemptId := zeros, nonce := "nonce",
    requestSha256 := zeros
    providerGeneration := "generation", launchIncarnation := "launch", originalBootId := "boot",
    jobIdentity := zeros
    ownerManifestSha256 := zeros, guardianReceiptSha256 := none, currentBootId := some "next boot"
    targetCompletionObserved := false, nativeJobEmptyObserved := false,
    relayClosureObserved := false
    guardianCompletionObserved := false, ownerCapabilitiesClosed := true, launchGateClosed := true
    policyReferenceBound := true }

/-- An encoder that knows the responses of two attempts. -/
abbrev responseWire : Wire :=
  { wire with
    decodeResponse := fun json => if json = "closed" then some (.terminal receipt) else
      wire.decodeResponse json }

/-- The record of an authorized attempt with its staged response. -/
def closed : Record :=
  { authorized with
    state := .empty, lifecycle := .outboxStaged, terminalDisposition := some .posttarget
    terminalSeed := some ⟨2, zeros, "nonce", zeros, .unavailable .workerLostBeforeFreeze, none⟩
    retirementProof := some receipt.retirementProof, terminalResponseJson := some "closed"
    terminalization := ⟨1, .launcherWorker, 5, .outboxStaged, none, []⟩ }

/-- The record of an attempt that was aborted before authorization, with its staged response. -/
def aborted : Record :=
  { created with
    state := .empty, lifecycle := .outboxStaged, terminalDisposition := some .preauthorizationAbort
    terminalResponseJson := some "rejected",
    terminalization := ⟨1, .launcherWorker, 5, .outboxStaged, none, []⟩ }

attribute [local instance] recordText replayText in
/-- The files of an attempt whose ledger entry is reserved. -/
def files (r : Record) : Files :=
  ⟨⟨some (.whole r), none⟩, ⟨some (.whole ⟨r.attemptId, r.requestSha256, none⟩), none⟩, true, false⟩

def moment : Moment := ⟨some "boot", 0⟩

/-- Every reservation is granted. -/
def granted : Reservations := ⟨.ok (), .ok (), .ok ()⟩

end Sample

section

open WindowsRecord.Sample Sample

attribute [local instance] zeroSha responseWire ledgerWire recordText replayText

theorem acknowledge_closed : ∃ w' retired tombstone,
      (acknowledgeTerminalResponse "generation" granted moment zeros closed.nonce
        closed.requestSha256).run (files closed) = (w', .ok retired) ∧
      w'.record.file = none ∧ readReplay w'.replay.file = .ok ⟨zeros, closed.requestSha256,
      some tombstone⟩ ∧ tombstone.retirementComplete = true := by
  refine (acknowledge_iff granted moment (files closed) closed zeros rfl (by decide +kernel)
    nofun rfl rfl).2 ?_
  exact ⟨rfl, rfl, rfl, nofun, nofun, .inr ⟨rfl, by decide, ⟨[], rfl, by decide⟩⟩, rfl,
    fun _ _ _ _ => (by decide : 1 + 1 ≤ maxTerminalFrameBytes)⟩

/-- The record of an attempt that was aborted before authorization is accepted with its staged
response, and its acknowledgement fails. -/
theorem aborted_not_acknowledged :
    aborted.authenticate zeros "generation" = .ok () ∧
      aborted.terminalResponseJson = some "rejected" ∧
      readReplay (files aborted).replay.file = .ok ⟨zeros, aborted.requestSha256, none⟩ ∧
      ((acknowledgeTerminalResponse "generation" granted moment zeros aborted.nonce
        aborted.requestSha256).run
        (files aborted)).2 = .error "ACK tombstone requires checked retirement proof" := by
  refine ⟨?_, rfl, rfl, ?_⟩
  · decide +kernel
  · decide +kernel

end

end MemCordon.WindowsAttempt
