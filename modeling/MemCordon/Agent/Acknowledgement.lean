import MemCordon.Agent.AttemptFiles

/-!
# The acknowledgement tombstone

The replay ledger goes through three entries for an attempt: reserved, acknowledged, completed.
`LedgerAt` says which one its file holds, and that a staging file is a start of the text of the next
one.

* `run_replayRecord`, `run_publishTombstone` and `run_completeTombstone`: from every such state the
  functions go on to their entry, when the staging file is not torn.
-/

namespace MemCordon.WindowsAttempt

open WindowsRecord Workload Fallible MemCordon.Task

/-! ## The entries of an attempt -/

section Ledger

variable [TextLength ReplayRecord]

/-- The entries that the ledger goes through. -/
inductive Stage
  | reserved | acknowledged | completed
  deriving DecidableEq

def Stage.next : Stage → Option Stage
  | reserved => some acknowledged
  | acknowledged => some completed
  | completed => none

omit [TextLength ReplayRecord] in
theorem Stage.ne_reserved_of_next {s s' : Stage} (h : s.next = some s') : s' ≠ .reserved := by
  cases s <;> cases h <;> nofun

/-- What an attempt that acknowledges a tombstone has in the ledger. -/
structure LedgerKey where
  attemptId : String
  requestSha256 : String
  tombstone : AckTombstone

namespace LedgerKey

variable (k : LedgerKey)

def tombstoneAt : Stage → Option AckTombstone
  | .reserved => none
  | .acknowledged => some k.tombstone
  | .completed => some { k.tombstone with retirementComplete := true }

def entry (s : Stage) : ReplayRecord := ⟨k.attemptId, k.requestSha256, k.tombstoneAt s⟩

/-- The entries that are written are within the limit of the ledger. -/
def Fits : Prop := ∀ s, s ≠ .reserved → TextLength.length (k.entry s) + 1 ≤ maxTerminalFrameBytes

/-- What the functions ask of the identities, the tombstone and the lengths of the entries. -/
structure Valid : Prop where
  attemptId : sha256TextIsValid k.attemptId = true
  requestSha256 : sha256TextIsValid k.requestSha256 = true
  incomplete : k.tombstone.retirementComplete = false
  consistent :
    k.tombstone.completed.isConsistentFor k.attemptId k.tombstone.retired.nonce k.requestSha256
    k.tombstone.retired.terminalResponseSha256 = true
  fits : k.Fits

end LedgerKey

/-- The file of the ledger holds the entry of a stage, and a staging file is a start of the next
one. -/
structure LedgerAt (k : LedgerKey) (s : Stage) (c : Cell ReplayRecord) : Prop where
  file : readReplay c.file = .ok (k.entry s)
  staging : ∀ e ∈ c.staging, ∃ s', s.next = some s' ∧ e.value = k.entry s' ∧
    e.written ≤ TextLength.length (k.entry s') + 1

/-- The staging file is cut off. -/
def Cell.IsTorn {α : Type} [TextLength α] (c : Cell α) : Prop := ∃ e ∈ c.staging, e.IsTorn

variable {k : LedgerKey} {s : Stage} {c : Cell ReplayRecord}

variable {r : ReplayRecord}

theorem readReplay_eq_ok {file : Option (Draft ReplayRecord)} :
    readReplay file = .ok r ↔ ∃ d, file = some d ∧ d.written ≤ maxTerminalFrameBytes ∧
      d.parse = some r := by
  unfold readReplay
  simp only [okOr_bind_eq_ok, reject_bind_eq_ok, okOr_eq_ok, not_lt]

theorem readReplay_whole (h : TextLength.length r + 1 ≤ maxTerminalFrameBytes) :
    readReplay (some (Draft.whole r)) = .ok r :=
  readReplay_eq_ok.2 ⟨_, rfl, h, Draft.parse_whole r⟩

theorem readReplay_torn {e : Draft ReplayRecord} (h : e.IsTorn) :
    ∃ error, readReplay (some e) = .error error := by
  cases hresult : readReplay (some e) with
  | error error => exact ⟨error, rfl⟩
  | ok r =>
    obtain ⟨d, hd, -, hparse⟩ := readReplay_eq_ok.1 hresult
    cases hd
    rw [Draft.parse_eq_none.2 h] at hparse
    cases hparse

omit [TextLength ReplayRecord] in
theorem validateAttemptId_eq_ok {value : String} (h : sha256TextIsValid value = true) :
    validateAttemptId value = .ok () := by
  simp [validateAttemptId, reject_eq_ok, h]

omit [TextLength ReplayRecord] in
theorem entry_isFor (k : LedgerKey) (s : Stage) :
    (k.entry s).isFor k.attemptId k.requestSha256 = true := by
  simp [ReplayRecord.isFor, LedgerKey.entry]

/-- Each entry may follow the one before it. -/
theorem entry_follows (hk : k.Valid) {s' : Stage} (h : s.next = some s') :
    acknowledgementFollows (k.entry s).acknowledged (k.entry s').acknowledged = true := by
  have hincomplete := hk.incomplete
  cases s with
  | reserved =>
    cases h
    simp [LedgerKey.entry, LedgerKey.tombstoneAt, acknowledgementFollows, hincomplete]
  | acknowledged =>
    cases h
    simp only [LedgerKey.entry, LedgerKey.tombstoneAt, acknowledgementFollows, hincomplete,
      Bool.not_false, Bool.true_and, beq_iff_eq]
    rw [← hincomplete]
  | completed => cases h

theorem run_boundReplay (h : readReplay c.file = .ok (k.entry s)) :
    (boundReplay k.attemptId k.requestSha256).run c = (c, .ok (k.entry s)) := by
  have hbound : reject "replay record is not bound to the acknowledged attempt"
      ((k.entry s).isFor k.attemptId k.requestSha256 = false) = .ok () := by
    rw [reject_eq_ok, entry_isFor]
    simp
  unfold boundReplay
  rw [run_inspect_bind, run_lift_bind h, run_lift_bind hbound]
  rfl

/-- A staged entry that is whole becomes the entry. -/
theorem run_settleStaged (hk : k.Valid) (hc : LedgerAt k s c) {e : Draft ReplayRecord}
    (he : c.staging = some e) (htorn : ¬ e.IsTorn) :
    ∃ s', s.next = some s' ∧ readReplay (some e) = .ok (k.entry s') ∧
      (settleStaged k.attemptId k.requestSha256).run c = (⟨some e, none⟩, .ok ()) := by
  obtain ⟨s', hnext, hvalue, hwritten⟩ := hc.staging e he
  have hread : readReplay (some e) = .ok (k.entry s') := by
    rw [readReplay_eq_ok]
    exact ⟨e, rfl, hwritten.trans (hk.fits s' (Stage.ne_reserved_of_next hnext)), hvalue ▸
      Draft.parse_of_not_isTorn htorn⟩
  have hfollows : reject "staged ACK tombstone conflicts with replay ledger"
      ((k.entry s).isFor k.attemptId k.requestSha256 = false ∨
        (k.entry s').isFor k.attemptId k.requestSha256 = false ∨
        acknowledgementFollows (k.entry s).acknowledged (k.entry s').acknowledged = false) =
          .ok () := by
    rw [reject_eq_ok, entry_isFor, entry_isFor, entry_follows hk hnext]
    simp
  refine ⟨s', hnext, hread, ?_⟩
  unfold settleStaged
  rw [run_inspect_bind, he]
  simp only [Option.isSome_some, if_true]
  rw [run_lift_bind hc.file, run_lift_bind hread, run_lift_bind hfollows, run_act]
  simp only [Cell.rename, he]

/-- **`replay_record`**: without a torn staging file it returns the entry that is there or staged,
and leaves it as the only one. -/
theorem run_replayRecord (hk : k.Valid) (hc : LedgerAt k s c) (htorn : ¬ Cell.IsTorn c) :
    ∃ s' c', (replayRecord k.attemptId k.requestSha256).run c = (c', .ok (k.entry s')) ∧
      LedgerAt k s' c' ∧
      c'.staging = none ∧ (c.staging = none → c' = c ∧ s' = s) ∧
      (c.staging ≠ none → s.next = some s') := by
  unfold replayRecord
  rw [run_lift_bind (validateAttemptId_eq_ok hk.attemptId),
    run_lift_bind (validateAttemptId_eq_ok hk.requestSha256)]
  cases hstaging : c.staging with
  | none =>
    have hsettle : (settleStaged k.attemptId k.requestSha256).run c = (c, .ok ()) := by
      unfold settleStaged
      rw [run_inspect_bind, hstaging]
      rfl
    refine ⟨s, c, ?_, hc, hstaging, fun _ => ⟨rfl, rfl⟩, fun h => absurd rfl h⟩
    rw [run_bind_ok hsettle, run_boundReplay hc.file]
  | some e =>
    obtain ⟨s', hnext, hread, hsettle⟩ := run_settleStaged hk hc hstaging fun h =>
      htorn ⟨e, hstaging, h⟩
    refine ⟨s', ⟨some e, none⟩, ?_, ⟨hread, by rintro e ⟨⟩⟩, rfl, nofun, fun _ => hnext⟩
    rw [run_bind_ok hsettle, run_boundReplay hread]

/-- A torn staging file ends `replay_record`, and stays. -/
theorem run_replayRecord_torn (hk : k.Valid) (hc : LedgerAt k s c) (htorn : Cell.IsTorn c) :
    ∃ error, (replayRecord k.attemptId k.requestSha256).run c = (c, .error error) := by
  obtain ⟨e, he, hcut⟩ := htorn
  obtain ⟨error, herror⟩ := readReplay_torn hcut
  have hsettle : (settleStaged k.attemptId k.requestSha256).run c = (c, .error error) := by
    unfold settleStaged
    rw [run_inspect_bind, Option.mem_def.1 he]
    simp only [Option.isSome_some, if_true]
    rw [run_lift_bind hc.file, herror]
    exact run_bind_error rfl
  refine ⟨error, ?_⟩
  unfold replayRecord
  rw [run_lift_bind (validateAttemptId_eq_ok hk.attemptId),
    run_lift_bind (validateAttemptId_eq_ok hk.requestSha256)]
  exact run_bind_error hsettle

/-! ## The tombstone -/

theorem ledgerAt_whole (hk : k.Valid) (hs : s ≠ .reserved) :
    LedgerAt k s ⟨some (.whole (k.entry s)), none⟩ :=
  ⟨readReplay_whole (hk.fits s hs), by rintro e ⟨⟩⟩

/-- Reading an entry without a staging file changes nothing. -/
theorem run_replayRecord_settled (hk : k.Valid) (hc : LedgerAt k s c)
    (hstaging : c.staging = none) :
    (replayRecord k.attemptId k.requestSha256).run c = (c, .ok (k.entry s)) := by
  have htorn : ¬ Cell.IsTorn c := by
    rintro ⟨e, he, -⟩
    rw [hstaging] at he
    cases he
  obtain ⟨s', c', hrun, -, -, hsame, -⟩ := run_replayRecord hk hc htorn
  obtain ⟨rfl, rfl⟩ := hsame hstaging
  exact hrun

omit [TextLength ReplayRecord] in
theorem tombstone_agrees (t : AckTombstone) (complete : Bool) :
    ({ t with retirementComplete := complete } : AckTombstone).agrees t = true := by
  simp [AckTombstone.agrees]

/-- **The tombstone is published** from every state without a torn staging file. -/
theorem run_publishTombstone (hk : k.Valid) (hc : LedgerAt k s c) (htorn : ¬ Cell.IsTorn c) :
    ∃ s' c', (publishTombstone k.attemptId k.requestSha256 k.tombstone).run c = (c', .ok ()) ∧
      LedgerAt k s' c' ∧ c'.staging = none ∧ s' ≠ .reserved := by
  obtain ⟨s₁, c₁, hrun, hc₁, hstaging, -, -⟩ := run_replayRecord hk hc htorn
  unfold publishTombstone
  rw [run_bind_ok hrun]
  have hthere :
      ∀ complete, (Task.lift (reject "ACK tombstone conflicts with prior terminal authority"
      (({ k.tombstone with retirementComplete := complete } : AckTombstone).agrees k.tombstone =
        false)) :
        Task (Cell ReplayRecord) String Unit).run c₁ = (c₁, .ok ()) := fun complete => by
    rw [run_lift, tombstone_agrees, reject_eq_ok.2 (by simp)]
  cases s₁ with
  | reserved =>
    refine ⟨.acknowledged, ⟨some (.whole (k.entry .acknowledged)), none⟩, ?_,
      ledgerAt_whole hk nofun, rfl, nofun⟩
    change Task.run (Cell.replace (k.entry .acknowledged) >>= _) c₁ = _
    rw [run_bind_ok (Cell.run_replace hstaging),
      run_bind_ok (run_replayRecord_settled hk (ledgerAt_whole (s := .acknowledged) hk nofun) rfl)]
    rfl
  | acknowledged =>
    exact ⟨.acknowledged, c₁, hthere k.tombstone.retirementComplete, hc₁, hstaging, nofun⟩
  | completed => exact ⟨.completed, c₁, hthere true, hc₁, hstaging, nofun⟩

theorem run_completedReceipt (hk : k.Valid) (hc : LedgerAt k .completed c)
    (hstaging : c.staging = none) :
    (completedReceipt k.attemptId k.requestSha256).run c = (c, .ok k.tombstone.completed) := by
  have hconsistent : reject "completed ACK tombstone does not bind V2 retirement"
      (k.tombstone.completed.isConsistentFor k.attemptId k.tombstone.retired.nonce k.requestSha256
        k.tombstone.retired.terminalResponseSha256 = false) = .ok () := by
    rw [reject_eq_ok, hk.consistent]
    simp
  have hthere :
      okOr "completed ACK tombstone readback is absent" (k.entry .completed).acknowledged =
      .ok { k.tombstone with retirementComplete := true } := rfl
  have hsurvived : reject "ACK tombstone completion did not survive readback" (true = false) =
    .ok () := rfl
  unfold completedReceipt
  rw [run_bind_ok (run_replayRecord_settled hk hc hstaging), run_lift_bind hthere,
    run_lift_bind hsurvived]
  exact run_lift_bind hconsistent

/-- **The tombstone is completed** from every state that has one, without a torn staging file. -/
theorem run_completeTombstone (hk : k.Valid) (hc : LedgerAt k s c) (htorn : ¬ Cell.IsTorn c)
    (hs : s ≠ .reserved) :
    ∃ c', (completeTombstone k.attemptId k.requestSha256).run c = (c', .ok k.tombstone.completed) ∧
      LedgerAt k .completed c' ∧ c'.staging = none := by
  obtain ⟨s₁, c₁, hrun, hc₁, hstaging, hsame, hnext⟩ := run_replayRecord hk hc htorn
  unfold completeTombstone
  rw [run_bind_ok hrun]
  cases s₁ with
  | reserved =>
    -- The entry never goes back to the first one.
    by_cases hnone : c.staging = none
    · exact absurd (hsame hnone).2.symm hs
    · cases s <;> cases hnext hnone
  | acknowledged =>
    have hthere :
        okOr "ACK tombstone completion has no committed ACK" (k.entry .acknowledged).acknowledged =
        .ok k.tombstone := rfl
    refine ⟨⟨some (.whole (k.entry .completed)), none⟩, ?_, ledgerAt_whole hk nofun, rfl⟩
    rw [run_lift_bind hthere, if_pos hk.incomplete]
    change Task.run (Cell.replace (k.entry .completed) >>= _) c₁ = _
    rw [run_bind_ok (Cell.run_replace hstaging)]
    exact run_completedReceipt hk (ledgerAt_whole (s := .completed) hk nofun) rfl
  | completed =>
    have hthere :
        okOr "ACK tombstone completion has no committed ACK" (k.entry .completed).acknowledged =
        .ok { k.tombstone with retirementComplete := true } := rfl
    refine ⟨c₁, ?_, hc₁, hstaging⟩
    rw [run_lift_bind hthere, if_neg (by simp)]
    exact run_completedReceipt hk hc₁ hstaging

/-! ## Ledgers that were gone through -/

theorem readReplay_whole_eq_ok {r r' : ReplayRecord} :
    readReplay (some (Draft.whole r)) = .ok r' ↔
    TextLength.length r + 1 ≤ maxTerminalFrameBytes ∧ r' = r := by
  rw [readReplay_eq_ok]
  constructor
  · rintro ⟨d, hd, hwritten, hparse⟩
    cases hd
    rw [Draft.parse_whole, Option.some_inj] at hparse
    exact ⟨hwritten, hparse.symm⟩
  · rintro ⟨hfits, rfl⟩
    exact ⟨_, rfl, hfits, Draft.parse_whole r'⟩

/-- What `replay_record` returns when nothing is staged. -/
theorem replayRecord_settled_inv {attemptId requestSha256 : String} {c c' : Cell ReplayRecord}
    (hstaging : c.staging = none) (h : (replayRecord attemptId requestSha256).run c = (c', .ok r)) :
    c' = c ∧ readReplay c.file = .ok r := by
  unfold replayRecord at h
  obtain ⟨-, -, h⟩ := run_lift_bind_eq_ok.1 h
  obtain ⟨-, -, h⟩ := run_lift_bind_eq_ok.1 h
  obtain ⟨c₁, done, hsettle, h⟩ := run_bind_eq_ok.1 h
  unfold settleStaged at hsettle
  rw [run_inspect_bind, hstaging] at hsettle
  cases hsettle
  unfold boundReplay at h
  rw [run_inspect_bind] at h
  obtain ⟨replay, hread, h⟩ := run_lift_bind_eq_ok.1 h
  obtain ⟨-, -, h⟩ := run_lift_bind_eq_ok.1 h
  cases h
  exact ⟨rfl, hread⟩

/-- A tombstone that was published from the reserved entry: its entry is within the limit. -/
theorem publishTombstone_inv {c c' : Cell ReplayRecord} {u : Unit}
    (hread : readReplay c.file = .ok (k.entry .reserved)) (hstaging : c.staging = none)
    (h : (publishTombstone k.attemptId k.requestSha256 k.tombstone).run c = (c', .ok u)) :
    c' = ⟨some (.whole (k.entry .acknowledged)), none⟩ ∧
      TextLength.length (k.entry .acknowledged) + 1 ≤ maxTerminalFrameBytes := by
  obtain ⟨c₁, replay, hrun, h⟩ := run_bind_eq_ok.1 h
  obtain ⟨rfl, hreplay⟩ := replayRecord_settled_inv hstaging hrun
  cases hread.symm.trans hreplay
  obtain ⟨c₂, done, hreplace, h⟩ := run_bind_eq_ok.1 h
  cases (Cell.run_replace hstaging).symm.trans hreplace
  obtain ⟨c₃, committed, hrun, h⟩ := run_bind_eq_ok.1 h
  obtain ⟨rfl, hcommitted⟩ := replayRecord_settled_inv rfl hrun
  rw [run_lift, Prod.mk.injEq] at h
  exact ⟨h.1.symm, (readReplay_whole_eq_ok.1 hcommitted).1⟩

/-- A tombstone that was completed: the last entry is within the limit. -/
theorem completeTombstone_inv {c : Cell ReplayRecord} {receipt : CompletedRetired}
    (hincomplete : k.tombstone.retirementComplete = false)
    (h : (completeTombstone k.attemptId k.requestSha256).run ⟨some (.whole (k.entry .acknowledged)),
      none⟩ = (c, .ok receipt)) :
    TextLength.length (k.entry .completed) + 1 ≤ maxTerminalFrameBytes := by
  obtain ⟨c₁, replay, hrun, h⟩ := run_bind_eq_ok.1 h
  obtain ⟨rfl, hreplay⟩ := replayRecord_settled_inv rfl hrun
  obtain ⟨-, rfl⟩ := readReplay_whole_eq_ok.1 hreplay
  obtain ⟨tombstone, htombstone, h⟩ := run_lift_bind_eq_ok.1 h
  cases htombstone
  rw [if_pos hincomplete] at h
  obtain ⟨c₂, done, hreplace, h⟩ := run_bind_eq_ok.1 h
  cases (Cell.run_replace rfl).symm.trans hreplace
  obtain ⟨c₃, committed, hrun, -⟩ := run_bind_eq_ok.1 h
  exact (readReplay_whole_eq_ok.1 (replayRecord_settled_inv rfl hrun).2).1

/-! ## Interrupted ledgers -/

theorem leaves_replayRecord (hstaging : c.staging = none) :
    ∀ c', (replayRecord k.attemptId k.requestSha256).Leaves c c' → c' = c := by
  have hsettle : ∀ c', (settleStaged k.attemptId k.requestSha256).Leaves c c' → c' = c := by
    intro c' h
    unfold settleStaged at h
    rw [leaves_inspect_bind, hstaging] at h
    exact h
  refine leaves_bind_same (fun _ h => h) fun _ => leaves_bind_same (fun _ h => h) fun _ =>
    leaves_bind_same hsettle fun _ => ?_
  exact leaves_bind_same (fun _ h => h) fun _ => leaves_bind_same (fun _ h => h) fun _ =>
    leaves_bind_same (fun _ h => h) fun _ _ h => h

theorem leaves_completedReceipt (hstaging : c.staging = none) :
    ∀ c', (completedReceipt k.attemptId k.requestSha256).Leaves c c' → c' = c :=
  leaves_bind_same (leaves_replayRecord hstaging) fun _ => leaves_bind_same (fun _ h => h) fun _ =>
    leaves_bind_same (fun _ h => h) fun _ => leaves_bind_same (fun _ h => h) fun _ _ h => h

variable {c' : Cell ReplayRecord}

/-- A new entry that is cut off leaves the old one, perhaps with a start of the new one beside it,
or the new one. -/
theorem leaves_replace_entry (hc : LedgerAt k s c) (hstaging : c.staging = none) {s' : Stage}
    (hnext : s.next = some s') (h : (Cell.replace (k.entry s')).Leaves c c') :
    LedgerAt k s c' ∨ c' = ⟨some (.whole (k.entry s')), none⟩ := by
  rcases (Cell.leaves_replace hstaging).1 h with rfl | ⟨written, hwritten, rfl⟩ | rfl
  · exact .inl hc
  · refine .inl ⟨hc.file, ?_⟩
    rintro e ⟨⟩
    exact ⟨s', hnext, rfl, hwritten⟩
  · exact .inr rfl

/-- A tombstone that is cut off leaves the reserved entry, perhaps with a start of the next one
beside it, or the acknowledged one. -/
theorem leaves_publishTombstone (hk : k.Valid) (hc : LedgerAt k .reserved c)
    (hstaging : c.staging = none)
    (h : (publishTombstone k.attemptId k.requestSha256 k.tombstone).Leaves c c') :
    LedgerAt k .reserved c' ∨ LedgerAt k .acknowledged c' ∧ c'.staging = none := by
  rcases leaves_bind.1 h with h | ⟨c₁, r, hrun, h⟩
  · exact .inl (leaves_replayRecord hstaging c' h ▸ hc)
  cases (run_replayRecord_settled hk hc hstaging).symm.trans hrun
  change Leaves (Cell.replace (k.entry .acknowledged) >>= _) c c' at h
  rcases leaves_bind.1 h with h | ⟨c₂, u, hrun, h⟩
  · rcases leaves_replace_entry hc hstaging rfl h with hold | rfl
    · exact .inl hold
    · exact .inr ⟨ledgerAt_whole hk nofun, rfl⟩
  cases (Cell.run_replace hstaging).symm.trans hrun
  refine .inr ?_
  have hsame : c' = ⟨some (.whole (k.entry .acknowledged)), none⟩ := by
    refine leaves_bind_same (leaves_replayRecord rfl) ?_ c' h
    exact fun _ _ hread => hread
  subst hsame
  exact ⟨ledgerAt_whole hk nofun, rfl⟩

/-- A completion that is cut off leaves the acknowledged entry, perhaps with a start of the next one
beside it, or the completed one. -/
theorem leaves_completeTombstone (hk : k.Valid) (hc : LedgerAt k s c) (hstaging : c.staging = none)
    (hs : s ≠ .reserved)
    (h : (completeTombstone k.attemptId k.requestSha256).Leaves c c') :
    ∃ s', s' ≠ .reserved ∧ LedgerAt k s' c' := by
  rcases leaves_bind.1 h with h | ⟨c₁, r, hrun, h⟩
  · exact ⟨s, hs, leaves_replayRecord hstaging c' h ▸ hc⟩
  cases (run_replayRecord_settled hk hc hstaging).symm.trans hrun
  cases s with
  | reserved => exact absurd rfl hs
  | completed =>
    have hthere :
        okOr "ACK tombstone completion has no committed ACK" (k.entry .completed).acknowledged =
        .ok { k.tombstone with retirementComplete := true } := rfl
    have hreceipt := (leaves_lift_bind hthere).1 h
    rw [if_neg (by simp)] at hreceipt
    exact ⟨.completed, nofun, leaves_completedReceipt hstaging c' hreceipt ▸ hc⟩
  | acknowledged =>
    have hthere :
        okOr "ACK tombstone completion has no committed ACK" (k.entry .acknowledged).acknowledged =
        .ok k.tombstone := rfl
    have hreplace := (leaves_lift_bind hthere).1 h
    rw [if_pos hk.incomplete] at hreplace
    change Leaves (Cell.replace (k.entry .completed) >>= _) c c' at hreplace
    rcases leaves_bind.1 hreplace with hcut | ⟨c₂, u, hrun, hreceipt⟩
    · rcases leaves_replace_entry hc hstaging rfl hcut with hold | rfl
      · exact ⟨.acknowledged, nofun, hold⟩
      · exact ⟨.completed, nofun, ledgerAt_whole hk nofun⟩
    cases (Cell.run_replace hstaging).symm.trans hrun
    exact ⟨.completed, nofun, leaves_completedReceipt rfl c' hreceipt ▸ ledgerAt_whole hk nofun⟩

end Ledger

end MemCordon.WindowsAttempt
