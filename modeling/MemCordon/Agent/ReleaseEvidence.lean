import MemCordon.Agent.SealedLaunch

/-!
# What a failed sealed launch tells about the release

The receipt of a failed launch says whether the target was created and released. It is computed from
the error text alone, so it is right exactly when the text that ends the launch is filed on its side
of the release. Most texts are: `unreleased_of_named` for the calls up to the release,
`released_of_late` for those after it. Two things go wrong.

* Some calls after the release report under a code, or a text without one, that is filed as not
  released: the clock before the exec status, a policy lease that cannot be read, the grace of the
  command's exit, the guardian's disarm, the enforcement evidence.
* A failure whose cleanup proves nothing is reported under the code of the boundary, which is filed
  as released, whether or not the byte was written.

* `told_iff_reported` says exactly when the receipt tells the truth.
-/

namespace MemCordon.SealedLaunch

open CodedText Rejection Fallible

/-! ## Calls -/

section Calls

variable {calls : List (Except String Unit)} {error code : String} {codes : List String}

theorem firstError_eq_ok_iff : firstError calls = .ok () ↔ ∀ call ∈ calls, call = .ok () := by
  induction calls with
  | nil => simp [firstError]
  | cons call calls ih =>
    rcases call with e | ⟨⟩
    · simp [firstError]
    · simp [firstError, ih]

theorem mem_of_firstError (h : firstError calls = .error error) : .error error ∈ calls := by
  induction calls with
  | nil => simp [firstError] at h
  | cons call calls ih =>
    rcases call with e | ⟨⟩
    · simp only [firstError, Except.error.injEq] at h
      simp [h]
    · exact List.mem_cons_of_mem _ (ih h)

theorem exists_firstError (h : ¬ ∀ call ∈ calls, call = .ok ()) :
    ∃ e, firstError calls = .error e := by
  rw [← firstError_eq_ok_iff] at h
  cases hfirst : firstError calls with
  | error e => exact ⟨e, rfl⟩
  | ok _ => exact absurd hfirst h

theorem underCode_eq_error {α : Type} {result : Except String α}
    (h : underCode code result = .error error) : ∃ detail, error = coded code detail := by
  obtain ⟨detail, -, rfl⟩ := mapError_eq_error.1 h
  exact ⟨detail, rfl⟩

theorem ensure_eq_error {detail : String} {check : Bool}
    (h : ensure code detail check = .error error) : error = coded code detail := by
  unfold ensure at h
  cases check with
  | false => simpa using h.symm
  | true => simp at h

/-- Every error of a call is under one of some codes, or without a code. -/
def FailsNamed (codes : List String) {α : Type} (call : Except String α) : Prop :=
  ∀ error, call = .error error → Named codes error

section Call

variable {α : Type}

theorem named_underCode {result : Except String α} (hcode : code ∈ codes) :
    FailsNamed codes (underCode code result) := by
  intro error h
  obtain ⟨detail, rfl⟩ := underCode_eq_error h
  exact .inr ⟨code, hcode, detail, rfl⟩

theorem named_ensure {detail : String} {check : Bool} (hcode : code ∈ codes) :
    FailsNamed codes (ensure code detail check) :=
  fun _ h => .inr ⟨code, hcode, detail, ensure_eq_error h⟩

theorem named_asPrinted {own : List String} {result : Except (Fault own) α} (hown : own ⊆ codes) :
    FailsNamed codes (asPrinted result) := by
  intro error h
  obtain ⟨fault, -, rfl⟩ := mapError_eq_error.1 h
  exact fault.named.mono hown

end Call

/-- Every error of a sequence of calls is under one of some codes, or without a code. -/
def AllNamed (codes : List String) (calls : List (Except String Unit)) : Prop :=
  ∀ error, .error error ∈ calls → Named codes error

@[simp] theorem allNamed_nil : AllNamed codes [] := by
  intro e he
  simp at he

@[simp] theorem allNamed_cons {call : Except String Unit} :
    AllNamed codes (call :: calls) ↔ FailsNamed codes call ∧ AllNamed codes calls := by
  simp [AllNamed, FailsNamed, or_imp, forall_and, eq_comm]

end Calls

/-! ## Codes -/

/-- The codes of the calls up to the release. -/
def earlyCodes : List String :=
  cgroupCodes ++ cloneCodes ++ namespaceInitCodes ++ verifyCodes ++ revalidationCodes ++
    ["MCSEALED-LAUNCH-DESCRIPTOR-SET", "MCSEALED-RECORD-ALLOCATE",
      "MCSEALED-RECORD-CALLER-ENVELOPE", "MCSEALED-RECORD-BOUNDARY", "MCSEALED-TARGET-CONTROL",
      "MCSEALED-TARGET-STATUS", "MCSEALED-FRONTEND-PIDFD", "MCSEALED-CGROUP-OPEN",
      "MCSEALED-GUARDIAN-CONTROL", "MCSEALED-GUARDIAN-READY", "MCSEALED-GUARDIAN-TERMINAL",
      "MCSEALED-GUARDIAN", "MCSEALED-GUARDIAN-PLACEMENT", "MCSEALED-RECORD-GUARDIAN",
      "MCSEALED-TARGET-WAIT", "MCSEALED-RECORD-TARGET", "MCSEALED-TARGET-READY",
      "MCSEALED-RECORD-ASSIGNMENT", "MCSEALED-RECORD-RESOURCE", "MCSEALED-AUTHORIZATION-CLOCK",
      "MCSEALED-AUTHORIZATION"]

/-- The codes of the calls after the release that are filed as released. -/
def lateCodes : List String :=
  ["MCSEALED-AUTHORIZATION-RECORD", "MCSEALED-TARGET-EXEC-STATUS", "MCSEALED-POLICY-DRIFT",
    "MCSEALED-MONITOR-POLL", "MCSEALED-MONITOR-CLOCK", "MCSEALED-MONITOR-STATUS",
    "MCSEALED-MEMORY-READBACK", "MCSEALED-BOUNDARY-NOT-RETIRED"]

/-- The codes of the calls after the release that are filed as not released. -/
def unfiledCodes : List String :=
  ["MCSEALED-TARGET-EXEC-STATUS-CLOCK", "MCSEALED-COMMAND-EXIT-GRACE",
    "MCSEALED-COMMAND-EXIT-GRACE-CLOCK", "MCSEALED-GUARDIAN-DISARM"]

theorem filed_early : ∀ code ∈ earlyCodes ++ unfiledCodes,
    validCode code = true ∧ exactLoss code = none ∧ (filedAs code).released = false := by
  decide +kernel

theorem filed_late : ∀ code ∈ lateCodes,
    validCode code = true ∧ exactLoss code = none ∧ filedAs code = ⟨true, true⟩ := by
  decide +kernel

/-- The receipt of a text says that the target was created and released. -/
def Released (error : String) : Prop :=
  ∀ residue, ∃ receipt, rejectionForLaunchError error residue = .ok receipt ∧
    receipt.targetCreated = true ∧ receipt.targetReleased = true

/-- The receipt of a text says that the target was not released. -/
def Unreleased (error : String) : Prop :=
  ∀ residue, ∃ receipt, rejectionForLaunchError error residue = .ok receipt ∧
    receipt.targetReleased = false

/-- A text of a call after the release that is filed as released. -/
def Late (error : String) : Prop := ∃ code ∈ lateCodes, ∃ detail, error = coded code detail

section Texts

variable {error : String}

theorem not_unreleased_of_released (h : Released error) : ¬ Unreleased error := by
  intro hnot
  obtain ⟨receipt, hreceipt, -, hreleased⟩ := h ⟨false, false⟩
  obtain ⟨receipt', hreceipt', hreleased'⟩ := hnot ⟨false, false⟩
  rw [hreceipt, Except.ok.injEq] at hreceipt'
  rw [hreceipt', hreleased'] at hreleased
  exact Bool.false_ne_true hreleased

theorem released_of_late (h : Late error) : Released error := by
  obtain ⟨code, hcode, detail, rfl⟩ := h
  obtain ⟨hvalid, hloss, hfiled⟩ := filed_late code hcode
  intro residue
  obtain ⟨receipt, hreceipt, htold⟩ := rejection_coded hvalid hloss detail residue
  rw [hfiled, Filed.mk.injEq] at htold
  exact ⟨receipt, hreceipt, htold.1, htold.2⟩

theorem unreleased_of_named (h : Named (earlyCodes ++ unfiledCodes) error) : Unreleased error := by
  intro residue
  rcases h with hplain | ⟨code, hcode, detail, rfl⟩
  · obtain ⟨receipt, hreceipt, htold⟩ := rejection_plain hplain residue
    rw [Filed.mk.injEq] at htold
    exact ⟨receipt, hreceipt, htold.2⟩
  · obtain ⟨hvalid, hloss, hfiled⟩ := filed_early code hcode
    obtain ⟨receipt, hreceipt, htold⟩ := rejection_coded hvalid hloss detail residue
    rw [← htold] at hfiled
    exact ⟨receipt, hreceipt, hfiled⟩

/-- The loss of the frontend is recognised by its whole text. -/
theorem released_frontendLoss : Released (coded "MCSEALED-FRONTEND-LOSS-AFTER-AUTHORIZATION"
    "authenticated loss with complete retirement") := by
  intro residue
  have hloss : exactLoss "MCSEALED-FRONTEND-LOSS-AFTER-AUTHORIZATION" =
      some ("MCSEALED-FRONTEND-LOSS-AFTER-AUTHORIZATION", .monitoring, true) := by
    decide +kernel
  have hvalid : (fromLaunchFacts "MCSEALED-FRONTEND-LOSS-AFTER-AUTHORIZATION" .monitoring
      (coded "MCSEALED-FRONTEND-LOSS-AFTER-AUTHORIZATION"
        "authenticated loss with complete retirement") true true retiredCleanup).map
      (fun receipt => (receipt.targetCreated, receipt.targetReleased)) = .ok (true, true) := by
    decide +kernel
  unfold rejectionForLaunchError
  rw [exactLoss_coded, hloss]
  obtain ⟨receipt, hreceipt, htold⟩ := map_eq_ok.1 hvalid
  rw [Prod.mk.injEq] at htold
  exact ⟨receipt, hreceipt, htold.1, htold.2⟩

/-- The encoding of the invocation reports without a code. -/
theorem plain_encodingFailed (detail : String) :
    Plain (coded "native invocation encoding failed" detail) where
  uncoded := by
    rw [beforeColon_coded (by decide)]
    decide
  foreign := by
    rw [startsWith_coded (by decide)]
    decide

theorem named_encode {codes : List String} {result : Except String Unit} :
    FailsNamed codes (underCode "native invocation encoding failed" result) := by
  intro error h
  obtain ⟨detail, rfl⟩ := underCode_eq_error h
  exact .inl (plain_encodingFailed detail)

end Texts

/-! ## Up to the release -/

theorem named_targetWait {result : Except (Fault namespaceInitCodes) Unit} :
    FailsNamed earlyCodes ((asPrinted result).mapError targetWaitError) := by
  intro error h
  obtain ⟨text, htext, rfl⟩ := mapError_eq_error.1 h
  unfold targetWaitError
  by_cases hstart : startsWith text "MCSEALED-" = true
  · rw [if_pos hstart]
    exact named_asPrinted (fun _ hx => by simp [earlyCodes, hx]) text htext
  · rw [if_neg hstart]
    exact .inr ⟨_, by simp [earlyCodes], text, rfl⟩

theorem named_authorizationDeadline {deadline : ℕ} {clock : Except String ℕ} :
    FailsNamed earlyCodes (authorizationDeadline deadline clock) := by
  intro error h
  rcases bind_eq_error.1 h with hclock | ⟨now, -, hnow⟩
  · exact named_underCode (by simp [earlyCodes]) error hclock
  · exact named_ensure (by simp [earlyCodes]) error hnow

section Early

attribute [local simp] named_underCode named_ensure named_encode named_asPrinted named_targetWait
  named_authorizationDeadline

theorem allNamed_setup (c : SetupCalls) : AllNamed earlyCodes c.steps := by
  unfold SetupCalls.steps
  cases c.recordAllocate <;> cases c.admission <;> simp (disch := decide +kernel)
    [AdmissionCalls.steps]

theorem allNamed_gate (c : GateCalls) (policy : LaunchPolicy) (admitted : Bool) :
    AllNamed earlyCodes (c.steps policy admitted) := by
  unfold GateCalls.steps
  cases policy.absoluteDeadlineMillis <;> cases admitted <;>
    simp (disch := decide +kernel) [CheckpointCalls.steps]

end Early

/-! ## The watch -/

def Fails {ε α : Type} (result : Except ε α) : Prop := ∃ e, result = .error e

/-- A read of the policy lease fails with a text without a code, in a round that is reached. -/
inductive LeaseUnread (policy : LaunchPolicy) : List Round → Prop
  | here {r : Round} {rounds : List Round} {fault : Fault leaseCodes}
      (hread : r.revokedLinux = .error fault) (hplain : Plain fault.text) :
      LeaseUnread policy (r :: rounds)
  | later {r : Round} {rounds : List Round} (hidle : r.turn policy true = .ok .idle)
      (hlater : LeaseUnread policy rounds) : LeaseUnread policy (r :: rounds)

/-- The failures of the watch whose texts are filed as not released. -/
inductive WatchCalls.Unfiled (c : WatchCalls) (policy : LaunchPolicy) (admitted : Bool) : Prop
  /-- The clock cannot be read before the exec status. -/
  | execClock (hauthorized : c.authorized = .ok ())
      (hdeadline : policy.absoluteDeadlineMillis.isSome = true) (hclock : Fails c.execClock)
  /-- The policy lease of an executed target cannot be read. -/
  | lease (hauthorized : c.authorized = .ok ())
      (hdeadline : execStatusDeadline policy c.execClock = .ok ())
      (hexec : c.receiveExecStatus = .ok .succeeded) (hadmitted : admitted = true)
      (hlease : LeaseUnread policy c.rounds)
  /-- The command exited, and the wait for its descendants fails. -/
  | grace (hauthorized : c.authorized = .ok ())
      (hdeadline : execStatusDeadline policy c.execClock = .ok ()) (execStatus : TargetExecStatus)
      (hexec : c.receiveExecStatus = .ok execStatus)
      (hmonitor : monitor policy (execStatus == .succeeded && admitted) c.rounds = .ok .exited)
      (status : ℤ) (hstatus : c.readStatus = .ok status) (hmemory : c.memoryOomKilled = .ok false)
      (hlifetime : policy.lifetime = .command) (hgrace : 0 < policy.commandExitGraceMillis)
      (hwait : Fails (waitCommandExitGrace policy c.grace))

section Watch

variable {policy : LaunchPolicy} {watchesLease admitted : Bool} {r : Round} {rounds : List Round}
  {error : String} {c : WatchCalls}

theorem late_underCode {α : Type} {code : String} {result : Except String α}
    (hcode : code ∈ lateCodes) (h : underCode code result = .error error) : Late error := by
  obtain ⟨detail, rfl⟩ := underCode_eq_error h
  exact ⟨code, hcode, detail, rfl⟩

theorem late_ensure {code detail : String} {check : Bool} (hcode : code ∈ lateCodes)
    (h : ensure code detail check = .error error) : Late error :=
  ⟨code, hcode, detail, ensure_eq_error h⟩

theorem execStatusDeadline_error {clock : Except String ℕ}
    (h : execStatusDeadline policy clock = .error error) :
    Late error ∨ Named unfiledCodes error ∧ policy.absoluteDeadlineMillis.isSome = true ∧
    Fails clock := by
  unfold execStatusDeadline at h
  cases hdeadline : policy.absoluteDeadlineMillis with
  | none => simp [hdeadline] at h
  | some deadline =>
    rw [hdeadline] at h
    rcases bind_eq_error.1 h with hclock | ⟨now, -, hnow⟩
    · obtain ⟨e, he, -⟩ := mapError_eq_error.1 hclock
      exact .inr ⟨named_underCode (by simp [unfiledCodes]) error hclock, rfl, e, he⟩
    · exact .inl (late_ensure (by simp [lateCodes]) hnow)

theorem pollExit_error (h : r.pollExit policy = .error error) : Late error := by
  unfold Round.pollExit at h
  rcases bind_eq_error.1 h with hpoll | ⟨ready, -, hready⟩
  · exact late_underCode (by simp [lateCodes]) hpoll
  · cases ready with
    | true => simp at hready
    | false =>
      simp only [Bool.false_eq_true, if_false, Round.checkDeadline] at hready
      cases hdeadline : policy.absoluteDeadlineMillis with
      | none => simp [hdeadline] at hready
      | some deadline =>
        rw [hdeadline] at hready
        exact late_underCode (by simp [lateCodes]) (map_eq_error.1 hready)

/-- A round fails with a text that is filed as released, or its lease cannot be read. -/
theorem turn_error (h : r.turn policy watchesLease = .error error) :
    Late error ∨ watchesLease = true ∧ Plain error ∧
      ∃ fault, r.revokedLinux = .error fault ∧ fault.text = error := by
  unfold Round.turn at h
  rcases bind_eq_error.1 h with hread | ⟨revoked, -, hrest⟩
  · unfold Round.revoked at hread
    cases watchesLease with
    | false => simp at hread
    | true =>
      rw [if_pos rfl] at hread
      obtain ⟨fault, hfault, rfl⟩ := mapError_eq_error.1 hread
      rcases fault.named with hplain | ⟨code, hcode, detail, htext⟩
      · exact .inr ⟨rfl, hplain, fault, hfault, rfl⟩
      · rw [List.mem_singleton.1 hcode] at htext
        exact .inl ⟨_, by simp [lateCodes], detail, htext⟩
  · cases revoked with
    | true => simp at hrest
    | false => exact .inl (pollExit_error (by simpa using hrest))

/-- The loop fails in a round it reaches. -/
theorem monitor_error (h : monitor policy watchesLease rounds = .error error) :
    Late error ∨ watchesLease = true ∧ Plain error ∧ LeaseUnread policy rounds := by
  induction rounds with
  | nil => simp [monitor] at h
  | cons r rounds ih =>
    unfold monitor at h
    rcases bind_eq_error.1 h with hturn | ⟨turn, hturn, hrest⟩
    · rcases turn_error hturn with hlate | ⟨hwatches, hplain, fault, hfault, htext⟩
      · exact .inl hlate
      · exact .inr ⟨hwatches, hplain, .here hfault (htext ▸ hplain)⟩
    · by_cases hidle : turn = .idle
      · rw [if_pos hidle] at hrest
        rcases ih hrest with hlate | ⟨hwatches, hplain, hlease⟩
        · exact .inl hlate
        · rw [hwatches, hidle] at hturn
          exact .inr ⟨hwatches, hplain, .later hturn hlease⟩
      · rw [if_neg hidle] at hrest
        cases hrest

/-- A lease that cannot be read ends the loop with its text. -/
theorem monitor_of_leaseUnread (h : LeaseUnread policy rounds) :
    ∃ e, monitor policy true rounds = .error e ∧ Plain e := by
  induction h with
  | @here r rounds fault hread hplain =>
    have hturn : r.turn policy true = .error fault.text := by
      simp [Round.turn, Round.revoked, asPrinted, hread, bind, Except.bind]
    refine ⟨fault.text, ?_, hplain⟩
    simp [monitor, hturn, bind, Except.bind]
  | @later r rounds hidle hlater ih =>
    obtain ⟨e, he, hplain⟩ := ih
    refine ⟨e, ?_, hplain⟩
    simp [monitor, hidle, he, bind, Except.bind]

theorem await_error {g : GraceCalls} {deadline : ℕ} {bound : Bool}
    (h : g.await deadline bound = .error error) : Named unfiledCodes error :=
  named_underCode (by simp [unfiledCodes]) error (map_eq_error.1 h)

/-- Whatever fails in the grace wait is filed as not released. -/
theorem waitCommandExitGrace_error {g : GraceCalls}
    (h : waitCommandExitGrace policy g = .error error) : Named unfiledCodes error := by
  unfold waitCommandExitGrace at h
  cases hdeadline : policy.absoluteDeadlineMillis with
  | none =>
    rw [hdeadline] at h
    exact await_error h
  | some deadline =>
    rw [hdeadline] at h
    rcases bind_eq_error.1 h with hclock | ⟨now, -, hnow⟩
    · exact named_underCode (by simp [unfiledCodes]) error hclock
    · by_cases hlate : deadline ≤ now
      · rw [if_pos hlate] at hnow
        cases hnow
      · rw [if_neg hlate] at hnow
        by_cases hbound : deadline - now ≤ policy.commandExitGraceMillis
        · rw [if_pos hbound] at hnow
          exact await_error hnow
        · rw [if_neg hbound] at hnow
          exact await_error hnow

/-- The descendants are waited for exactly after the exit of a command within its memory limit. -/
theorem settle_error {memoryLimitExceeded : Bool} {turn : Turn}
    (h : c.settle policy memoryLimitExceeded turn = .error error) :
    turn = .exited ∧ memoryLimitExceeded = false ∧ policy.lifetime = .command ∧
      0 < policy.commandExitGraceMillis ∧ waitCommandExitGrace policy c.grace = .error error := by
  cases turn with
  | idle | revoked | late now => simp [WatchCalls.settle] at h
  | exited =>
    unfold WatchCalls.settle at h
    dsimp only at h
    split_ifs at h with hgrace
    · simp only [Bool.and_eq_true, Bool.not_eq_true', beq_iff_eq, decide_eq_true_eq] at hgrace
      exact ⟨rfl, hgrace.1.1, hgrace.1.2, hgrace.2, h⟩

theorem childStatus_error {turn : Turn} (h : c.childStatus turn = .error error) : Late error := by
  cases turn with
  | revoked | late now => simp [WatchCalls.childStatus] at h
  | idle | exited => exact late_underCode (by simp [lateCodes]) (map_eq_error.1 h)

theorem readStatus_of_exited {status : Option ℤ} (h : c.childStatus .exited = .ok status) :
    ∃ value, c.readStatus = .ok value := by
  obtain ⟨value, hvalue, -⟩ := map_eq_ok.1 h
  exact ⟨value, mapError_eq_ok.1 hvalue⟩

/-- **The watch fails with a text that is filed as released, or in one of the unfiled ways.** -/
theorem watch_error (h : c.watch policy admitted = .error error) :
    Late error ∨ Named unfiledCodes error ∧ c.Unfiled policy admitted := by
  unfold WatchCalls.watch at h
  rcases bind_eq_error.1 h with hrecord | ⟨⟨⟩, hrecord, h⟩
  · exact .inl (late_underCode (by simp [lateCodes]) hrecord)
  have hauthorized := mapError_eq_ok.1 hrecord
  rcases bind_eq_error.1 h with hexec | ⟨⟨⟩, hexec, h⟩
  · rcases execStatusDeadline_error hexec with hlate | ⟨hnamed, hdeadline, hclock⟩
    · exact .inl hlate
    · exact .inr ⟨hnamed, .execClock hauthorized hdeadline hclock⟩
  rcases bind_eq_error.1 h with hstatus | ⟨execStatus, hstatus, h⟩
  · exact .inl (late_underCode (by simp [lateCodes]) hstatus)
  have hstatus := mapError_eq_ok.1 hstatus
  rcases bind_eq_error.1 h with hmonitor | ⟨turn, hmonitor, h⟩
  · rcases monitor_error hmonitor with hlate | ⟨hwatches, hplain, hlease⟩
    · exact .inl hlate
    · rw [Bool.and_eq_true, beq_iff_eq] at hwatches
      rw [hwatches.1] at hstatus
      exact .inr ⟨.inl hplain, .lease hauthorized hexec hstatus hwatches.2 hlease⟩
  by_cases hidle : turn = .idle
  · rw [if_pos hidle] at h
    cases h
  rw [if_neg hidle] at h
  unfold WatchCalls.afterMonitor at h
  rcases bind_eq_error.1 h with hchild | ⟨child, hchild, h⟩
  · exact .inl (childStatus_error hchild)
  rcases bind_eq_error.1 h with hmemory | ⟨memory, hmemory, h⟩
  · exact .inl (late_underCode (by simp [lateCodes]) hmemory)
  have hmemory := mapError_eq_ok.1 hmemory
  rcases bind_eq_error.1 h with hsettle | ⟨grace, -, h⟩
  · obtain ⟨rfl, rfl, hlifetime, hgrace, hwait⟩ := settle_error hsettle
    obtain ⟨value, hvalue⟩ := readStatus_of_exited hchild
    exact .inr ⟨waitCommandExitGrace_error hwait, .grace hauthorized hexec execStatus hstatus
      hmonitor value hvalue hmemory hlifetime hgrace ⟨error, hwait⟩⟩
  · cases grace <;> simp at h

/-- Each of the unfiled ways ends the watch with a text that is filed as not released. -/
theorem watch_of_unfiled (h : c.Unfiled policy admitted) :
    ∃ e, c.watch policy admitted = .error e ∧ Named unfiledCodes e := by
  cases h with
  | execClock hauthorized hdeadline hclock =>
    obtain ⟨deadline, hdeadline⟩ := Option.isSome_iff_exists.1 hdeadline
    obtain ⟨e, he⟩ := hclock
    refine ⟨coded "MCSEALED-TARGET-EXEC-STATUS-CLOCK" e, ?_,
      .inr ⟨_, by simp [unfiledCodes], e, rfl⟩⟩
    simp [WatchCalls.watch, underCode, hauthorized, execStatusDeadline, hdeadline, he, bind,
      Except.bind]
  | lease hauthorized hdeadline hexec hadmitted hlease =>
    obtain ⟨e, he, hplain⟩ := monitor_of_leaseUnread hlease
    refine ⟨e, ?_, .inl hplain⟩
    simp [WatchCalls.watch, underCode, hauthorized, hdeadline, hexec, hadmitted, he, bind,
      Except.bind]
  | grace hauthorized hdeadline execStatus hexec hmonitor status hstatus hmemory hlifetime hgrace
      hwait =>
    obtain ⟨e, he⟩ := hwait
    refine ⟨e, ?_, waitCommandExitGrace_error he⟩
    simp [WatchCalls.watch, WatchCalls.afterMonitor, WatchCalls.childStatus, WatchCalls.settle,
      underCode, hauthorized, hdeadline, hexec, hmonitor, hstatus, hmemory, hlifetime, hgrace, he,
      Except.map, bind, Except.bind]

end Watch

/-! ## Cleanup -/

/-- The record of a cleaned up attempt is written and removed. -/
def CleanupCalls.Recorded (c : CleanupCalls) : Prop :=
  c.recordRetired = .ok () ∧ c.recordRemoved = .ok ()

/-- The calls of the cleanup prove the retirement of what the guard owns: its processes are reaped,
and either the provider retired the cgroup and told the guardian to stop, or the guardian's claim
proves that the cgroup is gone. -/
def CleanupGuard.Retires (g : CleanupGuard) (c : CleanupCalls) (attempt : AttemptId) : Prop :=
  (g.guardianPid = true → c.guardianReaped = true) ∧ (g.initPid = true → c.initReaped = true) ∧
    if g.disarmed c = true then c.Recorded
    else ∃ claim, c.guardianClaim = some claim ∧
        (verifiedGuardianRetirement claim .providerLoss attempt true = true ∨
        c.Recorded ∧ (verifiedGuardianRetirement claim .frontendLoss attempt false = true ∨
            g.providerRetired c = true ∧
            verifiedGuardianObservedProviderRetirement claim attempt = true))

section Cleanup

variable {g : CleanupGuard} {c : CleanupCalls} {attempt : AttemptId}

theorem firstError_records :
    firstError [c.recordRetired, c.recordRemoved] = .ok () ↔ c.Recorded := by
  simp [firstError_eq_ok_iff, CleanupCalls.Recorded]

theorem providerRetired_of_disarmed (h : g.disarmed c = true) : g.providerRetired c = true := by
  unfold CleanupGuard.disarmed at h
  rw [Bool.and_eq_true] at h
  exact h.1

/-- **The cleanup of an armed guard succeeds exactly when its calls prove the retirement.** -/
theorem finalizeFailure_eq_ok_iff (harmed : g.armed = true) :
    g.finalizeFailure c attempt = .ok () ↔ g.Retires c attempt := by
  have hreaped : g.guardianReaped c = true ↔ (g.guardianPid = true → c.guardianReaped = true) := by
    unfold CleanupGuard.guardianReaped
    cases g.guardianPid <;> simp
  have hinit : (!g.initPid || c.initReaped) = true ↔ (g.initPid = true → c.initReaped = true) := by
    cases g.initPid <;> simp
  unfold CleanupGuard.finalizeFailure CleanupGuard.Retires
  rw [if_pos harmed, ← hreaped, ← hinit]
  by_cases hguardian : g.guardianReaped c = true
  swap
  · simp [hguardian]
  by_cases hinits : (!g.initPid || c.initReaped) = true
  swap
  · simp [hinits]
  by_cases hdisarmed : g.disarmed c = true
  · -- the guardian was told to stop, so its claim is not read
    have hclaim : g.guardianClaim c = none := by simp [CleanupGuard.guardianClaim, hdisarmed]
    have hretired := providerRetired_of_disarmed hdisarmed
    simp [CleanupGuard.containmentRetired, CleanupGuard.guardianOwned, hclaim, hdisarmed, hretired,
      hguardian, hinits, firstError_records]
  · have hclaim : g.guardianClaim c = c.guardianClaim := by
      simp [CleanupGuard.guardianClaim, hguardian, hdisarmed]
    cases hread : c.guardianClaim with
    | none =>
      simp [CleanupGuard.containmentRetired, CleanupGuard.guardianOwned, hclaim, hread, hdisarmed]
    | some claim =>
      by_cases howned : verifiedGuardianRetirement claim .providerLoss attempt true = true
      · simp [CleanupGuard.containmentRetired, CleanupGuard.guardianOwned, hclaim, hread, hdisarmed,
          howned, hguardian, hinits]
      · by_cases hcontained : verifiedGuardianRetirement claim .frontendLoss attempt false = true ∨
            g.providerRetired c = true ∧
            verifiedGuardianObservedProviderRetirement claim attempt = true
        · simp [CleanupGuard.containmentRetired, CleanupGuard.guardianOwned, hclaim, hread,
            hdisarmed, howned, hguardian, hinits, hcontained, firstError_records]
        · simp [CleanupGuard.containmentRetired, CleanupGuard.guardianOwned, hclaim, hread,
            hdisarmed, howned, hcontained]

variable (L : Launch)

/-- A failure keeps its text when the cleanup proves the retirement, and is otherwise reported under
the code of the boundary. -/
theorem finalized_cases (harmed : g.armed = true) (error : String) :
    g.Retires L.cleanup L.attempt ∧ L.finalized g error = error ∨
      ¬ g.Retires L.cleanup L.attempt ∧ Late (L.finalized g error) := by
  rw [← finalizeFailure_eq_ok_iff harmed]
  unfold Launch.finalized
  cases g.finalizeFailure L.cleanup L.attempt with
  | ok _ => exact .inl ⟨rfl, rfl⟩
  | error cleanup => exact .inr ⟨by simp, _, by simp [lateCodes], _, rfl⟩

theorem late_finalized {error : String} (harmed : g.armed = true) (h : Late error) :
    Late (L.finalized g error) := by
  rcases finalized_cases L harmed error with ⟨-, heq⟩ | ⟨-, hlate⟩
  · rw [heq]
    exact h
  · exact hlate

theorem finalized_of_disarmed (hdisarmed : g.armed = false) (error : String) :
    L.finalized g error = error := by
  simp [Launch.finalized, CleanupGuard.finalizeFailure, hdisarmed]

end Cleanup

/-! ## The receipt -/

namespace Launch

variable (L : Launch)

/-- The receipt of a failed launch tells the truth about the release. -/
def Told : Prop :=
  ∀ released error, L.executeInner = (released, .error error) →
    if released = true then Released error else Unreleased error

/-- Every call up to the fork of the guardian succeeds. -/
def Starts : Prop := ∀ call ∈ L.setup.steps, call = .ok ()

/-- Every call at the gate succeeds, the write of the authorization byte included. -/
def Opens : Prop := ∀ call ∈ L.gate.steps L.policy L.admitted, call = .ok ()

/-- When the receipt tells the truth. -/
structure Reported : Prop where
  /-- A failure at the gate is cleaned up provably. -/
  gate : L.Starts → ¬ L.Opens → CleanupGuard.full.Retires L.cleanup L.attempt
  /-- An unfiled failure of the watch is not. -/
  watch : L.Starts → L.Opens → L.watch.Unfiled L.policy L.admitted →
    ¬ CleanupGuard.full.Retires L.cleanup L.attempt
  /-- Nor is a refusal of the guardian. -/
  disarm : L.Starts → L.Opens → ∀ w, L.watch.watch L.policy L.admitted = .ok (some w) →
    L.retirement.refused L.attempt = true →
    ¬ L.retirement.released.Retires L.cleanup L.attempt
  /-- The enforcement evidence of a retired attempt can be taken. -/
  enforcement : L.Starts → L.Opens → ∀ w, L.watch.watch L.policy L.admitted = .ok (some w) →
    L.retirement.refused L.attempt = false →
    (∀ call ∈ L.retirement.steps L.attempt, call = .ok ()) →
    L.retirement.frontendLossObserved L.attempt = false → L.admitted = true →
    L.retirement.enforcement = .ok ()

variable {L}

variable {error : String}

theorem told_of_error {released : Bool} (h : L.executeInner = (released, .error error)) :
    L.Told ↔ if released = true then Released error else Unreleased error := by
  constructor
  · intro htold
    exact htold released error h
  · intro hshown released' error' h'
    rw [h, Prod.mk.injEq, Except.error.injEq] at h'
    obtain ⟨rfl, rfl⟩ := h'
    exact hshown

theorem told_of_ok {released : Bool} {outcome : Outcome}
    (h : L.executeInner = (released, .ok outcome)) : L.Told := by
  intro released' error' h'
  rw [h, Prod.mk.injEq] at h'
  cases h'.2

theorem executeInner_of_gate (hstarts : L.Starts)
    (h : firstError (L.gate.steps L.policy L.admitted) = .error error) :
    L.executeInner = (false, .error (L.finalized .full error)) := by
  simp [executeInner, firstError_eq_ok_iff.2 hstarts, guarded, h]

theorem unreleased_of_unfiled (h : Named unfiledCodes error) : Unreleased error :=
  unreleased_of_named (h.mono fun _ hx => List.mem_append_right _ hx)

theorem unreleased_of_early (h : Named earlyCodes error) : Unreleased error :=
  unreleased_of_named (h.mono fun _ hx => List.mem_append_left _ hx)

/-- An unfiled text after the release is filed right exactly when the cleanup proves nothing. -/
theorem released_finalized_iff {g : CleanupGuard} (harmed : g.armed = true) (h : Unreleased error) :
    Released (L.finalized g error) ↔ ¬ g.Retires L.cleanup L.attempt := by
  rcases finalized_cases L harmed error with ⟨hretires, heq⟩ | ⟨hretires, hlate⟩
  · rw [heq]
    exact iff_of_false (fun hreleased => not_unreleased_of_released hreleased h)
      (not_not_intro hretires)
  · exact iff_of_true (released_of_late hlate) hretires

/-- A text before the release is filed right exactly when the cleanup proves the retirement. -/
theorem unreleased_finalized_iff {g : CleanupGuard} (harmed : g.armed = true)
    (h : Unreleased error) :
    Unreleased (L.finalized g error) ↔ g.Retires L.cleanup L.attempt := by
  rcases finalized_cases L harmed error with ⟨hretires, heq⟩ | ⟨hretires, hlate⟩
  · rw [heq]
    exact iff_of_true h hretires
  · exact iff_of_false (not_unreleased_of_released (released_of_late hlate)) hretires

theorem told_of_not_starts (h : ¬ L.Starts) : L.Told := by
  obtain ⟨e, he⟩ := exists_firstError h
  have hexecute : L.executeInner = (false, .error e) := by simp [executeInner, he]
  have hnamed := allNamed_setup L.setup e (mem_of_firstError he)
  rw [told_of_error hexecute]
  simpa using unreleased_of_early hnamed

theorem retire_steps_late {e : String}
    (h : firstError (L.retirement.steps L.attempt) = .error e) : Late e := by
  have hmem := mem_of_firstError h
  simp only [RetirementCalls.steps, List.mem_cons, List.not_mem_nil, or_false] at hmem
  rcases hmem with hproof | hrecord | hremove
  · exact late_ensure (by simp [lateCodes]) hproof.symm
  · exact late_underCode (by simp [lateCodes]) hrecord.symm
  · exact late_underCode (by simp [lateCodes]) hremove.symm

theorem told_gate_iff (hstarts : L.Starts) (h : ¬ L.Opens) :
    L.Told ↔ CleanupGuard.full.Retires L.cleanup L.attempt := by
  obtain ⟨e, he⟩ := exists_firstError h
  have hnamed := allNamed_gate L.gate L.policy L.admitted e (mem_of_firstError he)
  rw [told_of_error (executeInner_of_gate hstarts he)]
  simpa using unreleased_finalized_iff rfl (unreleased_of_early hnamed)

section Opened

variable (hstarts : L.Starts) (hopens : L.Opens)
include hstarts hopens

theorem executeInner_of_opens :
    L.executeInner = (true, L.afterRelease.2.mapError (L.finalized L.afterRelease.1)) := by
  simp [executeInner, firstError_eq_ok_iff.2 hstarts, guarded, firstError_eq_ok_iff.2 hopens]

theorem told_watch_iff
    (h : L.watch.watch L.policy L.admitted = .error error) :
    L.Told ↔
    (L.watch.Unfiled L.policy L.admitted → ¬ CleanupGuard.full.Retires L.cleanup L.attempt) := by
  have hexecute : L.executeInner = (true, .error (L.finalized .full error)) := by
    rw [executeInner_of_opens hstarts hopens]
    simp [afterRelease, h]
  rw [told_of_error hexecute, if_pos rfl]
  rcases watch_error h with hlate | ⟨hnamed, hunfiled⟩
  · -- the text decides whether the failure is an unfiled one
    have harmed : CleanupGuard.full.armed = true := rfl
    refine iff_of_true (released_of_late (late_finalized L harmed hlate)) fun hunfiled => ?_
    obtain ⟨e, he, hnamed⟩ := watch_of_unfiled hunfiled
    rw [h, Except.error.injEq] at he
    rw [← he] at hnamed
    exact absurd (unreleased_of_unfiled hnamed)
      (not_unreleased_of_released (released_of_late hlate))
  · rw [released_finalized_iff rfl (unreleased_of_unfiled hnamed)]
    exact ⟨fun hnot _ => hnot, fun hnot => hnot hunfiled⟩

theorem told_of_running
    (h : L.watch.watch L.policy L.admitted = .ok none) : L.Told := by
  have hexecute : L.executeInner = (true, .ok .running) := by
    rw [executeInner_of_opens hstarts hopens]
    simp [afterRelease, h]
  exact told_of_ok hexecute

variable {w : Watched} (h : L.watch.watch L.policy L.admitted = .ok (some w))
include h

theorem executeInner_of_watched {guard : CleanupGuard}
    {facts : Except String TerminalFacts}
    (hretire : L.retirement.retire L.attempt L.admitted w = (guard, facts)) :
    L.executeInner = (true, (facts.map .terminal).mapError (L.finalized guard)) := by
  rw [executeInner_of_opens hstarts hopens]
  simp [afterRelease, h, hretire]

theorem told_refused_iff (hrefused : L.retirement.refused L.attempt = true) :
    L.Told ↔ ¬ L.retirement.released.Retires L.cleanup L.attempt := by
  have hretire : L.retirement.retire L.attempt L.admitted w = (L.retirement.released,
      .error (coded "MCSEALED-GUARDIAN-DISARM" "guardian did not authenticate retirement")) := by
    simp [RetirementCalls.retire, hrefused]
  have hnamed : Named unfiledCodes
      (coded "MCSEALED-GUARDIAN-DISARM" "guardian did not authenticate retirement") :=
    .inr ⟨_, by simp [unfiledCodes], _, rfl⟩
  rw [told_of_error (executeInner_of_watched hstarts hopens h hretire), if_pos rfl]
  exact released_finalized_iff rfl (unreleased_of_unfiled hnamed)

theorem told_of_not_proved (hrefused : L.retirement.refused L.attempt = false)
    (hsteps : ¬ ∀ call ∈ L.retirement.steps L.attempt, call = .ok ()) : L.Told := by
  obtain ⟨e, he⟩ := exists_firstError hsteps
  have hretire :
      L.retirement.retire L.attempt L.admitted w = (L.retirement.settled L.attempt, .error e) := by
    simp [RetirementCalls.retire, hrefused, he]
  rw [told_of_error (executeInner_of_watched hstarts hopens h hretire), if_pos rfl]
  have harmed : (L.retirement.settled L.attempt).armed = true := rfl
  exact released_of_late (late_finalized L harmed (retire_steps_late he))

theorem told_proved_iff
    (hrefused : L.retirement.refused L.attempt = false)
    (hsteps : ∀ call ∈ L.retirement.steps L.attempt, call = .ok ()) :
    L.Told ↔ (L.retirement.frontendLossObserved L.attempt = false → L.admitted = true →
      L.retirement.enforcement = .ok ()) := by
  have hretire : L.retirement.retire L.attempt L.admitted w = ({ L.retirement.settled L.attempt with
      armed := false },
        L.retirement.terminal L.attempt L.admitted w) := by
    simp [RetirementCalls.retire, hrefused, firstError_eq_ok_iff.2 hsteps]
  have hexecute := executeInner_of_watched hstarts hopens h hretire
  unfold RetirementCalls.terminal at hexecute
  cases hloss : L.retirement.frontendLossObserved L.attempt with
  | true =>
    rw [hloss] at hexecute
    rw [told_of_error hexecute, if_pos rfl, finalized_of_disarmed L rfl]
    exact iff_of_true released_frontendLoss (by simp)
  | false =>
    cases hadmitted : L.admitted with
    | false =>
      rw [hloss, hadmitted] at hexecute
      exact iff_of_true (told_of_ok hexecute) (by simp)
    | true =>
      cases henforcement : L.retirement.enforcement with
      | ok _ =>
        rw [hloss, hadmitted, henforcement] at hexecute
        exact iff_of_true (told_of_ok hexecute) (by simp)
      | error fault =>
        rw [hloss, hadmitted, henforcement] at hexecute
        have hnamed : Named unfiledCodes fault.text := fault.named.mono (by simp)
        rw [told_of_error hexecute, if_pos rfl, finalized_of_disarmed L rfl]
        refine iff_of_false ?_ (by simp)
        intro hreleased
        exact not_unreleased_of_released hreleased (unreleased_of_unfiled hnamed)

end Opened

theorem Told.reported (h : L.Told) : L.Reported where
  gate hstarts hopens := (told_gate_iff hstarts hopens).1 h
  watch hstarts hopens hunfiled := by
    obtain ⟨e, he, -⟩ := watch_of_unfiled hunfiled
    exact (told_watch_iff hstarts hopens he).1 h hunfiled
  disarm hstarts hopens w hwatch hrefused := (told_refused_iff hstarts hopens hwatch hrefused).1 h
  enforcement hstarts hopens w hwatch hrefused hsteps :=
    (told_proved_iff hstarts hopens hwatch hrefused hsteps).1 h

theorem Reported.told (h : L.Reported) : L.Told := by
  by_cases hstarts : L.Starts
  swap
  · exact told_of_not_starts hstarts
  by_cases hopens : L.Opens
  swap
  · exact (told_gate_iff hstarts hopens).2 (h.gate hstarts hopens)
  cases hwatch : L.watch.watch L.policy L.admitted with
  | error e => exact (told_watch_iff hstarts hopens hwatch).2 (h.watch hstarts hopens)
  | ok watched =>
    cases watched with
    | none => exact told_of_running hstarts hopens hwatch
    | some w =>
      cases hrefused : L.retirement.refused L.attempt with
      | true =>
        exact (told_refused_iff hstarts hopens hwatch hrefused).2
          (h.disarm hstarts hopens w hwatch hrefused)
      | false =>
        by_cases hsteps : ∀ call ∈ L.retirement.steps L.attempt, call = .ok ()
        · exact (told_proved_iff hstarts hopens hwatch hrefused hsteps).2
            (h.enforcement hstarts hopens w hwatch hrefused hsteps)
        · exact told_of_not_proved hstarts hopens hwatch hrefused hsteps

/-- **A failed launch tells the truth about the release exactly in these cases.** -/
theorem told_iff_reported (L : Launch) : L.Told ↔ L.Reported :=
  ⟨Told.reported, Reported.told⟩

/-! ## Two launches that tell the opposite -/

/-- The command exits, and the events of its cgroup cannot be read during the grace. -/
def graceUnread : Launch :=
  { calm with
    watch := { calm.watch with
      grace := ⟨0, .ok 0, [⟨.error "cgroup.events omitted populated state", 0⟩]⟩ } }

/-- The authorization byte cannot be written, and the cgroup cannot be retired either. -/
def releaseUnwritten : Launch :=
  { calm with
    gate := { calm.gate with release := .error "Broken pipe (os error 32)" }
    cleanup := { calm.cleanup with killAndRetire := false } }

/-- A released target is reported as not released, and a target at the gate as released. -/
theorem release_told_wrong : (graceUnread.executeInner =
        (true, .error "MCSEALED-COMMAND-EXIT-GRACE: cgroup.events omitted populated state") ∧
      Unreleased "MCSEALED-COMMAND-EXIT-GRACE: cgroup.events omitted populated state" ∧
      ¬ graceUnread.Told) ∧
    ∃ error, releaseUnwritten.executeInner = (false, .error error) ∧ Released error ∧
      ¬ releaseUnwritten.Told := by
  have hgrace : graceUnread.executeInner =
      (true, .error "MCSEALED-COMMAND-EXIT-GRACE: cgroup.events omitted populated state") := by
    decide +kernel
  have hgate : releaseUnwritten.executeInner =
      (false, .error (notRetired "MCSEALED-AUTHORIZATION: Broken pipe (os error 32)"
        "guardian/provider cleanup did not prove complete attempt retirement")) := by
    decide +kernel
  have hunreleased :
      Unreleased "MCSEALED-COMMAND-EXIT-GRACE: cgroup.events omitted populated state" := by
    refine unreleased_of_unfiled (.inr ⟨"MCSEALED-COMMAND-EXIT-GRACE", by simp [unfiledCodes],
      "cgroup.events omitted populated state", ?_⟩)
    decide
  have hreleased : Released (notRetired "MCSEALED-AUTHORIZATION: Broken pipe (os error 32)"
      "guardian/provider cleanup did not prove complete attempt retirement") :=
    released_of_late ⟨_, by simp [lateCodes], _, rfl⟩
  refine ⟨⟨hgrace, hunreleased, ?_⟩, _, hgate, hreleased, ?_⟩
  · rw [told_of_error hgrace, if_pos rfl]
    exact fun h => not_unreleased_of_released h hunreleased
  · rw [told_of_error hgate, if_neg (by decide)]
    exact not_unreleased_of_released hreleased

end Launch

end MemCordon.SealedLaunch
