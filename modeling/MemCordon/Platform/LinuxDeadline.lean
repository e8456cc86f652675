import MemCordon.Platform.LinuxCgroup

/-!
# The deadline branch of the Linux monitor

A restart attempt under a supervision deadline is told what is left of the deadline when it starts.
The monitor counts that remainder from the authorization of the target, and reports its offsets on
the clock of the supervision.

* `supervisionDeadline_branch`: the branch is never taken early, its evidence names the expiry of
  the supervision deadline on the supervision's clock, and an attempt that is authorized as it
  starts takes the branch in the first cycle at or after the expiry.
* `deadlineCleanup_unconfirmed`: the cleanup of that branch is clamped to the deadline that has just
  expired, so it never sees the workload empty.
-/

namespace MemCordon.LinuxCgroup

open Clock Supervisor
open AttemptEventKind (seenIf)

variable {A : Attempt} {st : MonitorState} {c : Cycle} {d : DeadlinePolicy}

/-! ## Taking the branch -/

/-- The direct child after the cycle's own attempt to reap it. -/
def reapedChild (st : MonitorState) (c : Cycle) : Option ChildTermination :=
  st.stored.or (c.tryWait.toOption.getD none)

/-- The attempt to reap the direct child fails. -/
def waitFailed (st : MonitorState) (c : Cycle) : Bool :=
  st.stored.isNone && c.tryWait.toOption.isNone

/-- The attempt to reap the direct child never ends a cycle; its failure is kept for later. -/
theorem tryReap_eq (st : MonitorState) (c : Cycle) : ∃ failure, failure.isSome = waitFailed st c ∧
      tryReap st c = .note (seenIf (waitFailed st c) .monitorFailure)
        ⟨reapedChild st c, failure⟩ := by
  unfold tryReap reapedChild waitFailed
  cases st.stored with
  | some status => exact ⟨none, rfl, rfl⟩
  | none =>
    cases c.tryWait with
    | ok status => exact ⟨none, rfl, rfl⟩
    | error e => exact ⟨_, rfl, rfl⟩

/-- The cycle takes the deadline branch: its deadline check ends it. -/
def TakesDeadlineBranch (A : Attempt) (st : MonitorState) (c : Cycle) : Prop :=
  ∃ seen r, (checkDeadline A st c (reapedChild st c)).Ended seen r

theorem takesDeadlineBranch_iff : TakesDeadlineBranch A st c ↔
      ∃ d, A.policy.deadline = some d ∧ A.expired c d = true ∧
        A.confirms c.firstEvents = false := by
  unfold TakesDeadlineBranch checkDeadline
  cases hd : A.policy.deadline with
  | none => simp
  | some d =>
    simp only [Option.some.injEq, exists_eq_left']
    split_ifs with hbranch
    · rw [Bool.and_eq_true, Bool.not_eq_true'] at hbranch
      simp [hbranch]
    · rw [Bool.and_eq_true, Bool.not_eq_true'] at hbranch
      simp [hbranch]

/-- A cycle that takes the branch ends with what the branch ends with. -/
theorem step_of_takesDeadlineBranch (h : TakesDeadlineBranch A st c)
    (hd : A.policy.deadline = some d) :
    step A st c = .done (A.deadlineOutcome st c (reapedChild st c) d) := by
  obtain ⟨d', hd', hexp, hconf⟩ := takesDeadlineBranch_iff.1 h
  obtain rfl : d' = d := Option.some.inj (hd'.symm.trans hd)
  obtain ⟨failure, -, hreap⟩ := tryReap_eq st c
  have hcheck : checkDeadline A st c (reapedChild st c) =
      .stop (A.eventsSeen c.firstEvents ++ seenIf true .deadline ++ signalSeen c.branchSignal)
        (A.deadlineOutcome st c (reapedChild st c) d') := by
    unfold checkDeadline
    simp [hd, hexp, hconf]
  unfold step cycle
  rw [hreap, Watch.note_bind, hcheck, Watch.stop_bind]
  rfl

/-! ## Evidence -/

/-- The evidence of an expired deadline can always be built. -/
theorem deadlineEvidence_eq_some (hc : c.Ordered A) (hexp : A.expired c d = true) :
    ∃ evidence, A.deadlineEvidence c d = some evidence ∧ evidence.scope = d.scope ∧
      evidence.expiresOffsetMs = millis (A.context.supervisionOffset + A.context.activeDuration d) ∧
      evidence.observedOffsetMs =
        millis (A.context.supervisionOffset + elapsed A.authorized c.observedAt) := by
  have hobserved : c.deadlineAt ≤ c.observedAt :=
    hc.graceStarted.trans (hc.graceBound.trans (hc.clamped.trans hc.observed))
  have hexpired : A.context.activeDuration d ≤ elapsed A.authorized c.observedAt := by
    have := of_decide_eq_true hexp
    unfold elapsed at this ⊢
    omega
  have hclamp : A.clampGrace A.policy.limitGrace c.graceBoundAt ≤ A.policy.limitGrace := by
    unfold Attempt.clampGrace
    split
    · exact le_rfl
    · exact min_le_left _ _
  have hgrace : millis (min (elapsed c.graceStartedAt c.graceEndedAt)
      (A.clampGrace A.policy.limitGrace c.graceBoundAt)) ≤ millis A.policy.limitGrace :=
    millis_mono ((min_le_right _ _).trans hclamp)
  have haction : 0 < millis (min (elapsed c.graceStartedAt c.graceEndedAt)
      (A.clampGrace A.policy.limitGrace c.graceBoundAt)) →
      (if A.policy.limitGrace ≠ 0 then some "sigterm-process-group" else none).isSome = true := by
    intro hpos
    split_ifs with hzero
    · rfl
    · have hnone : millis A.policy.limitGrace = 0 := by
        rw [not_not.1 hzero]
        rfl
      omega
  have hsome : (A.deadlineEvidence c d).isSome = true := by
    unfold Attempt.deadlineEvidence DeadlineEvidence.new
    rw [dif_pos ⟨by decide, millis_mono (Nat.add_le_add_left hexpired _), hgrace, haction⟩]
    rfl
  obtain ⟨evidence, he⟩ := Option.isSome_iff_exists.1 hsome
  obtain ⟨-, hscope, -, hexpires, hobs⟩ := DeadlineEvidence.new_eq_some he
  exact ⟨evidence, he, hscope, hexpires, hobs⟩

/-- A restart attempt under a supervision deadline: the supervision started at `supervised`, its
deadline counts from `origin`, and the attempt was told at its start what was left. -/
structure RestartUnder (A : Attempt) (d : DeadlinePolicy) (supervised origin : ℕ) : Prop where
  deadline : A.policy.deadline = some d
  scope : d.scope = .supervision
  offset : A.started = supervised + A.context.supervisionOffset
  remaining : ∃ r, A.context.supervisionDeadlineRemaining = some r ∧
    A.started + r = origin + d.duration

/-- The remainder, on the clock of the supervision. -/
theorem RestartUnder.activeDuration {supervised origin : ℕ}
    (h : RestartUnder A d supervised origin) :
    A.started + A.context.activeDuration d = origin + d.duration := by
  obtain ⟨r, hr, hsum⟩ := h.remaining
  unfold AttemptContext.activeDuration
  rw [hr]
  exact hsum

/-- **The deadline branch of a restart attempt.** For every cycle with nondecreasing readings,
whatever the loop's variables are: the branch is taken only at or after the expiry of the
supervision deadline, and only without a confirmed memory event; without a signal it then reports a
deadline whose expiry offset is that expiry on the supervision's clock, and whose observed offset
lies between the expiry and the real time. When the target was authorized as the attempt started,
every cycle at or after the expiry that sees no confirmed memory event takes the branch, and the
observed offset is the real time. -/
theorem supervisionDeadline_branch {supervised origin : ℕ} (h : RestartUnder A d supervised origin)
    (hc : c.Ordered A) :
    (TakesDeadlineBranch A st c → origin + d.duration ≤ c.deadlineAt ∧
        A.confirms c.firstEvents = false ∧ (c.branchSignal = none → ∃ evidence child peak cleanup,
          step A st c = .done (.ok (.deadlineExceeded evidence child peak cleanup)) ∧
            evidence.scope = .supervision ∧
            evidence.expiresOffsetMs = millis (elapsed supervised (origin + d.duration)) ∧
            evidence.expiresOffsetMs ≤ evidence.observedOffsetMs ∧
            evidence.observedOffsetMs ≤ millis (elapsed supervised c.observedAt) ∧
            (A.authorized = A.started →
    evidence.observedOffsetMs = millis (elapsed supervised c.observedAt)))) ∧
    (A.authorized = A.started → origin + d.duration ≤ c.deadlineAt →
      A.confirms c.firstEvents = false → TakesDeadlineBranch A st c) := by
  have hactive := h.activeDuration
  have hstarted := h.offset
  have hle := A.started_le
  have hdeadline := hc.deadline
  refine ⟨fun htake => ?_, fun hauth hlate hconf => ?_⟩
  · obtain ⟨d', hd', hexp, hconf⟩ := takesDeadlineBranch_iff.1 htake
    obtain rfl : d' = d := Option.some.inj (hd'.symm.trans h.deadline)
    have hlate : A.context.activeDuration d' ≤ c.deadlineAt - A.authorized := of_decide_eq_true hexp
    refine ⟨by omega, hconf, fun hsignal => ?_⟩
    obtain ⟨evidence, hev, hscope, hexpires, hobserved⟩ := deadlineEvidence_eq_some hc hexp
    have hstep := step_of_takesDeadlineBranch htake h.deadline
    have hreading : A.authorized ≤ c.observedAt := hdeadline.trans (hc.graceStarted.trans
      (hc.graceBound.trans (hc.clamped.trans hc.observed)))
    unfold Attempt.deadlineOutcome at hstep
    simp only [hsignal, hev] at hstep
    refine ⟨evidence, _, _, _, hstep, hscope.trans h.scope, ?_, ?_, ?_, fun hauth => ?_⟩
    · rw [hexpires]
      congr 1
      unfold elapsed
      omega
    · exact evidence.overshoot_eq ▸ Nat.le_add_right _ _
    · rw [hobserved]
      refine millis_mono ?_
      unfold elapsed
      omega
    · rw [hobserved]
      congr 1
      unfold elapsed
      omega
  · refine takesDeadlineBranch_iff.2 ⟨d, h.deadline, decide_eq_true ?_, hconf⟩
    unfold elapsed
    omega

/-- The second attempt of a supervision with a deadline of twenty seconds. The supervision started
at zero, its deadline counts from one second, and the attempt starts at ten seconds. -/
def secondAttempt : Attempt :=
  { policy :=
      { memory := none
        deadline := some ⟨ofSecs 20, .supervision, by decide, by decide⟩ }
    context :=
      { macosRunOriginNs := none
        macosWorkExpiresNs := none
        restartAttempt := 1
        supervisionOffset := ofSecs 10
        supervisionDeadlineRemaining := some (ofSecs 11) }
    started := ofSecs 10
    authorized := ofSecs 10
    baseline := none
    baseline_iff := rfl
    started_le := le_rfl }

theorem secondAttempt_restartUnder :
    RestartUnder secondAttempt ⟨ofSecs 20, .supervision, by decide, by decide⟩ 0 (ofSecs 1) :=
  ⟨rfl, rfl, rfl, ofSecs 11, rfl, rfl⟩

/-- A cycle that makes all its readings at `now`, and in which every probe shows that the command
succeeded and left nothing behind. -/
def quietCycle (now : ℕ) : Cycle :=
  { tryWait := .ok (some (.exitCode 0))
    firstEvents := .ok fun _ => none
    deadlineAt := now
    graceStartedAt := now
    graceBoundAt := now
    branchSignal := none
    cleanup :=
      { clampedAt := now
        populated := .ok false
        kill := .killFile (.ok ())
        members := [⟨now, .ok false, .killFile (.ok ()), now⟩]
        reaps := [⟨now, .ok (some (.exitCode 0))⟩] }
    observedAt := now
    graceEndedAt := now
    secondEvents := .ok fun _ => none
    current := .ok 0
    peakRead := .ok 0
    signal := none
    populated := .ok false
    exitGraceStartedAt := now
    exitGraceAt := now
    nextSignal := none }

theorem quietCycle_ordered {now : ℕ} (h : A.authorized ≤ now) : (quietCycle now).Ordered A := by
  constructor <;> simp [quietCycle, h]

/-- In the cycle that reads the clock at the expiry, the attempt takes the branch. -/
theorem secondAttempt_takesDeadlineBranch :
    TakesDeadlineBranch secondAttempt {} (quietCycle (ofSecs 21)) :=
  takesDeadlineBranch_iff.2 ⟨_, rfl, rfl, rfl⟩

/-- The expiry is reported at twenty-one seconds: it counts from the start of the supervision, not
from the origin of the deadline of twenty seconds. -/
theorem expiresOffset_ne_duration :
    RestartUnder secondAttempt ⟨ofSecs 20, .supervision, by decide, by decide⟩ 0 (ofSecs 1) ∧
      (quietCycle (ofSecs 21)).Ordered secondAttempt ∧
      ∃ evidence child peak cleanup, step secondAttempt {} (quietCycle (ofSecs 21)) =
          .done (.ok (.deadlineExceeded evidence child peak cleanup)) ∧
        evidence.expiresOffsetMs = 21000 ∧ evidence.observedOffsetMs = 21000 ∧
        millis (ofSecs 20) = 20000 ∧
        millis (elapsed (ofSecs 1) (quietCycle (ofSecs 21)).observedAt) = 20000 := by
  have hc : (quietCycle (ofSecs 21)).Ordered secondAttempt := quietCycle_ordered (by decide)
  obtain ⟨evidence, hev, -, hexpires, hobserved⟩ :=
    @deadlineEvidence_eq_some _ _ ⟨ofSecs 20, .supervision, by decide, by decide⟩ hc rfl
  have hstep := step_of_takesDeadlineBranch secondAttempt_takesDeadlineBranch rfl
  unfold Attempt.deadlineOutcome at hstep
  simp only [hev, show (quietCycle (ofSecs 21)).branchSignal = none from rfl] at hstep
  exact ⟨secondAttempt_restartUnder, hc, evidence, _, _, _, hstep, hexpires.trans (by decide),
    hobserved.trans (by decide), by decide, by decide⟩

theorem supervisionDeadline_branch_secondAttempt :
    RestartUnder secondAttempt ⟨ofSecs 20, .supervision, by decide, by decide⟩ 0 (ofSecs 1) ∧
      TakesDeadlineBranch secondAttempt {} (quietCycle (ofSecs 21)) :=
  ⟨secondAttempt_restartUnder,
    (supervisionDeadline_branch secondAttempt_restartUnder (quietCycle_ordered (by decide))).2 rfl
      (by decide) rfl⟩

/-! ## Cleanup in the branch -/

theorem awaitEmpty_late {deadline : ℕ} {rounds : List MemberRound}
    (h : ∀ round ∈ rounds, deadline ≤ round.now) : (awaitEmpty deadline rounds).1 = false := by
  cases rounds with
  | nil => rfl
  | cons round rounds =>
    have hnow : ¬round.now < deadline := not_lt.2 (h round (List.mem_cons_self ..))
    unfold awaitEmpty
    rw [if_neg hnow]

/-- A cleanup whose deadline has passed never sees the workload empty. -/
theorem cleanupWorkload_late {deadline : ℕ} {p : CleanupProbes} {stored : Option ChildTermination}
    {force : Bool} (h : ∀ round ∈ p.members, deadline ≤ round.now) :
    (cleanupWorkload stored force deadline p).1.workloadEmpty = some false := by
  unfold cleanupWorkload
  simp only [awaitEmpty_late h]

/-- The errors of ending the guardian and removing the cgroup are added to the outcome's cleanup. -/
def finishOutcome (disarm remove : Except String Unit) (outcome : RunOutcome) : CleanupSummary :=
  let failed (operation : String) : Except String Unit → List CleanupErrorRecord
    | .ok () => []
    | .error e => [⟨operation, e⟩]
  { outcome.cleanup with
    errors :=
      outcome.cleanup.errors ++ failed "guardian-disarm" disarm ++ failed "remove-cgroup" remove }

/-- The cleanup confirmed that nothing is left of the workload. -/
def Confirmed (cleanup : CleanupSummary) : Prop :=
  cleanup.workloadEmpty = some true ∧ cleanup.directChildReaped = true ∧ cleanup.errors = []

/-- When the deadline branch is taken in a restart attempt, the supervision deadline has passed, and
with it every deadline clamped to it. -/
theorem clampDeadline_le (hc : c.Ordered A) {r : ℕ}
    (hr : A.context.supervisionDeadlineRemaining = some r) (hexp : A.expired c d = true)
    (local_ : ℕ) :
    A.context.clampDeadline A.started local_ c.cleanup.clampedAt ≤ c.cleanup.clampedAt := by
  have hlate : A.context.activeDuration d ≤ c.deadlineAt - A.authorized := of_decide_eq_true hexp
  unfold AttemptContext.activeDuration at hlate
  rw [hr, Option.getD_some] at hlate
  have hle := A.started_le
  have hdeadline := hc.deadline
  have hclamped : c.deadlineAt ≤ c.cleanup.clampedAt :=
    hc.graceStarted.trans (hc.graceBound.trans hc.clamped)
  have hpast : A.started + r ≤ c.cleanup.clampedAt := by omega
  unfold AttemptContext.clampDeadline AttemptContext.supervisionDeadline
  rw [hr]
  exact (min_le_right _ _).trans hpast

/-- **Cleanup after a supervision deadline.** Whenever the deadline branch is taken in a restart
attempt, whatever the probes of the cleanup show, the attempt ends with a cleanup that did not see
the workload empty, so it is never confirmed. -/
theorem deadlineCleanup_unconfirmed {r : ℕ} {disarm remove : Except String Unit}
    (hr : A.context.supervisionDeadlineRemaining = some r) (hc : c.Ordered A)
    (htake : TakesDeadlineBranch A st c) :
    ∃ outcome, step A st c = .done (.ok outcome) ∧
      (finishOutcome disarm remove outcome).workloadEmpty = some false ∧
      ¬Confirmed (finishOutcome disarm remove outcome) := by
  obtain ⟨d, hd, hexp, -⟩ := takesDeadlineBranch_iff.1 htake
  have hpast := clampDeadline_le hc hr hexp cleanupDeadline
  have hcleanup : (A.cleanup (reapedChild st c) true c).1.workloadEmpty = some false :=
    cleanupWorkload_late fun round hround => hpast.trans (hc.members round hround)
  obtain ⟨evidence, hev, -⟩ := deadlineEvidence_eq_some hc hexp
  have hstep := step_of_takesDeadlineBranch htake hd
  have hempty : ∃ outcome, A.deadlineOutcome st c (reapedChild st c) d = .ok outcome ∧
      outcome.cleanup.workloadEmpty = some false := by
    unfold Attempt.deadlineOutcome
    cases c.branchSignal with
    | some signal => exact ⟨_, rfl, hcleanup⟩
    | none =>
      rw [hev]
      exact ⟨_, rfl, hcleanup⟩
  obtain ⟨outcome, hout, hfalse⟩ := hempty
  refine ⟨outcome, by rw [hstep, hout], hfalse, ?_⟩
  rintro ⟨htrue, -⟩
  rw [show (finishOutcome disarm remove outcome).workloadEmpty = some false from hfalse] at htrue
  cases htrue

/-- Every probe of the cleanup shows that the workload is empty and the direct child exited. -/
def CleanupProbes.Quiet (p : CleanupProbes) : Prop :=
  p.populated = .ok false ∧ (∀ round ∈ p.members, round.populated = .ok false) ∧
    ∀ round ∈ p.reaps, ∃ status, round.tryWait = .ok (some status)

/-- With such probes the second attempt still ends with a cleanup that saw no empty workload. -/
theorem quietCleanup_unconfirmed :
    (quietCycle (ofSecs 21)).Ordered secondAttempt ∧ (quietCycle (ofSecs 21)).cleanup.Quiet ∧
      ∃ evidence child peak cleanup, step secondAttempt {} (quietCycle (ofSecs 21)) =
          .done (.ok (.deadlineExceeded evidence child peak cleanup)) ∧
        cleanup.workloadEmpty = some false ∧
        ¬Confirmed (finishOutcome (.ok ()) (.ok ())
          (.deadlineExceeded evidence child peak cleanup)) := by
  refine ⟨quietCycle_ordered (by decide), ⟨rfl, ?_, ?_⟩, _, _, _, _, rfl, rfl, ?_⟩
  · intro round hround
    rw [List.mem_singleton.1 hround]
  · intro round hround
    rw [List.mem_singleton.1 hround]
    exact ⟨_, rfl⟩
  · rintro ⟨htrue, -⟩
    cases htrue

theorem deadlineCleanup_unconfirmed_secondAttempt :
    ∃ outcome, step secondAttempt {} (quietCycle (ofSecs 21)) = .done (.ok outcome) ∧
      ¬Confirmed (finishOutcome (.ok ()) (.ok ()) outcome) := by
  obtain ⟨outcome, hstep, -, hnot⟩ := @deadlineCleanup_unconfirmed secondAttempt {}
    (quietCycle (ofSecs 21)) (ofSecs 11) (.ok ()) (.ok ()) rfl (quietCycle_ordered (by decide))
    secondAttempt_takesDeadlineBranch
  exact ⟨outcome, hstep, hnot⟩

end MemCordon.LinuxCgroup
