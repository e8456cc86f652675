import MemCordon.Platform.WindowsJob

/-!
# The precedence of events in the Windows monitor

A cycle of the Windows monitor looks at the deadline in two places only: when the direct process has
exited, and after its bounded wait. A failed probe or a console event that ends the cycle before the
second place overtakes a deadline that has expired, and the exit of the direct process overtakes a
console event that is pending.

* `cycle_ended` is the inversion of a cycle.
* `kind_eq_select_iff_inOrder` says exactly when the outcome's kind is the one that comes first.
-/

namespace MemCordon.WindowsJob

open Clock Supervisor AttemptEventKind Watch

variable {A : Attempt} {st : MonitorState} {c : Cycle} {k : AttemptEventKind}

/-! ## Inversion of a cycle -/

theorem mem_standing : k ∈ standing A st c ↔
      (A.memoryDue st c = true ∧ k = .memoryLimit) ∨ (A.expiredAt c.now = true ∧ k = .deadline) ∨
        (((drainedBy st c).failure.isSome || c.wait.isFailed) = true ∧ k = .monitorFailure) ∨
        (c.console.isSome = true ∧ k = .interruption) ∨
        (c.wait.isExited = true ∧ k = .completion) := by
  unfold standing
  simp only [List.mem_append, mem_seenIf, Bool.or_eq_true]
  tauto

/-- The exit of the direct process completes the attempt: the job is empty, its accounting cannot be
queried, or the grace of the remaining members is over. -/
def Attempt.completes (A : Attempt) (st : MonitorState) (c : Cycle) : Bool :=
  match jobEmptyAfterCompletion (drainedBy st c).workloadEmpty c.active with
  | .error _ => true
  | .ok true => true
  | .ok false => (A.graceExpired st c).1

/-- The direct process does not end the cycle. -/
def Attempt.goesOn (A : Attempt) (st : MonitorState) (c : Cycle) : Bool :=
  match c.wait with
  | .exited => !A.expiredAt c.now && !A.completes st c
  | .timeout => true
  | .failed _ => false

/-- The drain of the port lets the cycle go on. -/
structure Calm (A : Attempt) (st : MonitorState) (c : Cycle) : Prop where
  notDue : A.memoryDue st c = false
  notFailed : (drainedBy st c).failure.isSome = false

/-- The stage that ends a cycle: the events seen until then, and the kind of the outcome. -/
inductive Ends (A : Attempt) (st : MonitorState) (c : Cycle) :
    List AttemptEventKind → AttemptEventKind → Prop
  | drainedLimit (due : A.memoryDue st c = true) : Ends A st c (standing A st c) .memoryLimit
  | drainFailed (notDue : A.memoryDue st c = false)
      (failed : (drainedBy st c).failure.isSome = true) :
      Ends A st c (standing A st c) .monitorFailure
  | exitedLate (calm : Calm A st c) (exited : c.wait.isExited = true)
      (expired : A.expiredAt c.now = true) : Ends A st c (standing A st c) .deadline
  | completed (calm : Calm A st c) (exited : c.wait.isExited = true)
      (inTime : A.expiredAt c.now = false) (completes : A.completes st c = true) :
      Ends A st c (standing A st c) .completion
  | waitFailed (calm : Calm A st c) (failed : c.wait.isFailed = true) :
      Ends A st c (standing A st c) .monitorFailure
  | interrupted (calm : Calm A st c) (goesOn : A.goesOn st c = true)
      (pending : c.console.isSome = true) : Ends A st c (standing A st c) .interruption
  | messageFailed (calm : Calm A st c) (goesOn : A.goesOn st c = true) (free : c.console = none)
      (failed : c.message.toOption.isNone = true) :
      Ends A st c (standing A st c ++ arriving A c) .monitorFailure
  | messageLimit (calm : Calm A st c) (goesOn : A.goesOn st c = true) (free : c.console = none)
      (message : c.message.toOption = some (some .memoryLimit))
      (limited : A.policy.memory.isSome = true) :
      Ends A st c (standing A st c ++ arriving A c) .memoryLimit
  | late (calm : Calm A st c) (goesOn : A.goesOn st c = true) (free : c.console = none)
      {message : Option JobMessage} (answered : c.message.toOption = some message)
      (other : message ≠ some .memoryLimit) (expired : A.expiredAt c.lateAt = true) :
      Ends A st c (standing A st c ++ arriving A c) .deadline

variable {outcome : RunOutcome}

theorem kind_of_deadlineExceeded {d : DeadlinePolicy} {peak observedAt grace : ℕ}
    {action : Option String}
    (h : A.deadlineExceeded c d peak observedAt grace action = .ok outcome) :
    outcome.kind = .deadline := by
  unfold Attempt.deadlineExceeded at h
  split at h
  · cases h
    rfl
  · cases h

/-- The completion check ends a cycle exactly when the exit completes the attempt. -/
theorem checkCompletion_cases (A : Attempt) (st : MonitorState) (c : Cycle) :
    (A.completes st c = true ∧ ∃ child peak cleanup,
        checkCompletion A st c = .stop [] (.ok (.exited child peak cleanup))) ∨
      (A.completes st c = false ∧
        ∃ graceStarted, checkCompletion A st c = .note [] graceStarted) := by
  unfold checkCompletion Attempt.completes
  cases jobEmptyAfterCompletion (drainedBy st c).workloadEmpty c.active with
  | error e => exact .inl ⟨rfl, _, _, _, rfl⟩
  | ok empty =>
    cases empty with
    | true => exact .inl ⟨rfl, _, _, _, rfl⟩
    | false =>
      obtain ⟨expired, graceStarted⟩ := A.graceExpired st c
      cases expired with
      | true => exact .inl ⟨rfl, _, _, _, rfl⟩
      | false => exact .inr ⟨rfl, _, rfl⟩

/-- The direct process lets the cycle go on, or ends it. -/
theorem checkProcess_cases (A : Attempt) (st : MonitorState) (c : Cycle) :
    (A.goesOn st c = true ∧ ∃ graceStarted, checkProcess A st c = .note [] graceStarted) ∨
      ∃ r, checkProcess A st c = .stop [] r ∧
        ∀ outcome, r = .ok outcome → Calm A st c → Ends A st c (standing A st c) outcome.kind := by
  cases hw : c.wait with
  | timeout => exact .inl ⟨by rw [Attempt.goesOn, hw], _, by rw [checkProcess, hw]⟩
  | failed e =>
    refine .inr ⟨_, by rw [checkProcess, hw], fun outcome hout hcalm => ?_⟩
    cases hout
    exact .waitFailed hcalm (by rw [hw]; rfl)
  | exited =>
    have hexited : c.wait.isExited = true := by rw [hw]; rfl
    have hlate : (A.expiredAt c.now = true ∧ ∃ d, checkProcess A st c =
          .stop [] (A.deadlineExceeded c d st.peak c.observedAt 0 none)) ∨
        (A.expiredAt c.now = false ∧ checkProcess A st c = checkCompletion A st c) := by
      unfold checkProcess
      rw [hw]
      cases hd : A.policy.deadline with
      | none => exact .inr ⟨by simp [Attempt.expiredAt, hd], rfl⟩
      | some d =>
        cases A.expiredAt c.now with
        | true => exact .inl ⟨rfl, d, rfl⟩
        | false => exact .inr ⟨rfl, rfl⟩
    rcases hlate with ⟨hexp, d, heq⟩ | ⟨hexp, heq⟩
    · refine .inr ⟨_, heq, fun outcome hout hcalm => ?_⟩
      rw [kind_of_deadlineExceeded hout]
      exact .exitedLate hcalm hexited hexp
    rcases checkCompletion_cases A st c with ⟨hcompletes, _, _, _, hdone⟩ | ⟨hnot, _, hdone⟩
    · refine .inr ⟨_, heq.trans hdone, fun outcome hout hcalm => ?_⟩
      cases hout
      exact .completed hcalm hexited hexp hcompletes
    · exact .inl ⟨by simp [Attempt.goesOn, hw, hexp, hnot], _, heq.trans hdone⟩

variable {seen : List AttemptEventKind}

/-- The last stage: the bounded wait, and the deadline check after it. -/
theorem awaitMessage_ended (hcalm : Calm A st c) (hgoes : A.goesOn st c = true)
    (hfree : c.console = none)
    {st' : MonitorState} (h : (awaitMessage A st' c).Ended seen (.ok outcome)) :
    seen = [] ∧ Ends A st c (standing A st c ++ arriving A c) outcome.kind := by
  unfold awaitMessage at h
  cases hm : c.message with
  | error e =>
    simp only [hm] at h
    obtain ⟨rfl, hout⟩ := ended_stop.1 h
    cases hout
    exact ⟨rfl, .messageFailed hcalm hgoes hfree (by rw [hm]; rfl)⟩
  | ok message =>
    by_cases hlimit : message = some .memoryLimit
    · subst hlimit
      simp only [hm] at h
      cases hmem : A.policy.memory with
      | none =>
        simp only [hmem] at h
        exact absurd h ended_note
      | some limit =>
        simp only [hmem] at h
        obtain ⟨rfl, hout⟩ := ended_stop.1 h
        cases hout
        exact ⟨rfl, .messageLimit hcalm hgoes hfree (by rw [hm]; rfl) (by rw [hmem]; rfl)⟩
    · have hcheck : ∃ st'', (checkDeadline A st'' c).Ended seen (.ok outcome) := by
        rcases message with _ | (_ | _ | _)
        · exact ⟨_, by simpa only [hm] using h⟩
        · exact absurd rfl hlimit
        · exact ⟨_, by simpa only [hm] using h⟩
        · exact ⟨_, by simpa only [hm] using h⟩
      obtain ⟨st'', hcheck⟩ := hcheck
      unfold checkDeadline at hcheck
      cases hd : A.policy.deadline with
      | none =>
        simp only [hd] at hcheck
        exact absurd hcheck ended_note
      | some d =>
        simp only [hd] at hcheck
        by_cases hexp : A.expiredAt c.lateAt = true
        · rw [if_pos hexp] at hcheck
          obtain ⟨rfl, hout⟩ := ended_stop.1 hcheck
          rw [kind_of_deadlineExceeded hout]
          exact ⟨rfl, .late hcalm hgoes hfree (by rw [hm]; rfl) hlimit hexp⟩
        · rw [if_neg hexp] at hcheck
          exact absurd hcheck ended_note

theorem checkMemory_cases (A : Attempt) (st : MonitorState) (c : Cycle) :
    (A.memoryDue st c = true ∧ ∃ limit detail,
        checkMemory A st c = .stop [] (A.limitExceeded st c limit detail)) ∨
      (A.memoryDue st c = false ∧ checkMemory A st c = .note [] ⟨⟩) := by
  unfold checkMemory Attempt.memoryDue
  cases (drainedBy st c).memoryDue with
  | false => exact .inr ⟨Bool.and_false _, rfl⟩
  | true =>
    cases A.policy.memory with
    | none => exact .inr ⟨rfl, rfl⟩
    | some limit => exact .inl ⟨rfl, limit, _, rfl⟩

theorem checkDrain_cases (A : Attempt) (st : MonitorState) (c : Cycle) :
    ((drainedBy st c).failure.isSome = true ∧
      ∃ message, checkDrain A st c = .stop [] (A.monitorFailed c message)) ∨
      ((drainedBy st c).failure.isSome = false ∧ checkDrain A st c = .note [] ⟨⟩) := by
  unfold checkDrain
  cases (drainedBy st c).failure with
  | some e => exact .inl ⟨rfl, _, rfl⟩
  | none => exact .inr ⟨rfl, rfl⟩

/-- **Inversion of a cycle.** A cycle that ends with an outcome was ended by one of its stages. -/
theorem cycle_ended (h : (cycle A st c).Ended seen (.ok outcome)) :
    Ends A st c seen outcome.kind := by
  unfold cycle at h
  obtain ⟨after, h₁, rfl⟩ := ended_note_bind.1 h
  rcases checkMemory_cases A st c with ⟨hdue, limit, detail, hcheck⟩ | ⟨hdue, hcheck⟩
  · obtain ⟨rfl, hout⟩ := h₁.of_stop hcheck
    cases hout
    rw [List.append_nil]
    exact .drainedLimit hdue
  obtain ⟨after, h₂, rfl⟩ := h₁.of_note hcheck
  rcases checkDrain_cases A st c with ⟨hfailed, message, hcheck⟩ | ⟨hfailed, hcheck⟩
  · obtain ⟨rfl, hout⟩ := h₂.of_stop hcheck
    cases hout
    rw [List.append_nil]
    exact .drainFailed hdue hfailed
  obtain ⟨after, h₃, rfl⟩ := h₂.of_note hcheck
  have hcalm : Calm A st c := ⟨hdue, hfailed⟩
  rcases checkProcess_cases A st c with ⟨hgoes, graceStarted, hcheck⟩ | ⟨r, hcheck, hends⟩
  swap
  · obtain ⟨rfl, hout⟩ := h₃.of_stop hcheck
    simpa using hends outcome hout hcalm
  obtain ⟨after, h₄, rfl⟩ := h₃.of_note hcheck
  unfold checkConsole at h₄
  cases hconsole : c.console with
  | some event =>
    simp only [hconsole, stop_bind] at h₄
    obtain ⟨rfl, hout⟩ := ended_stop.1 h₄
    cases hout
    simp only [List.append_nil]
    exact .interrupted hcalm hgoes (by rw [hconsole]; rfl)
  | none =>
    simp only [hconsole] at h₄
    obtain ⟨after, h₅, rfl⟩ := ended_note_bind.1 h₄
    obtain ⟨after, h₆, rfl⟩ := ended_note_bind.1 h₅
    obtain ⟨rfl, hends⟩ := awaitMessage_ended hcalm hgoes hconsole h₆
    simpa using hends

/-! ## Precedence -/

/-- What the probes of a cycle must show for its stages to follow the precedence: no deadline has
expired when a failed probe or a console event ends the cycle, and no console event is pending when
the exit of the direct process ends it before its deadline. -/
def Attempt.InOrder (A : Attempt) (st : MonitorState) (c : Cycle) : Prop :=
  if A.memoryDue st c then True
  else if (drainedBy st c).failure.isSome || c.wait.isFailed then A.expiredAt c.now = false
  else if A.goesOn st c then
    if c.console.isSome then A.expiredAt c.now = false
    else c.message.toOption.isNone = true → A.expiredAt c.now = false ∧ A.expiredAt c.lateAt = false
  else A.expiredAt c.now = true ∨ c.console = none

theorem inOrder_of_calm (hcalm : Calm A st c) (hwait : c.wait.isFailed = false) : A.InOrder st c ↔
      if A.goesOn st c then
        if c.console.isSome then A.expiredAt c.now = false
        else c.message.toOption.isNone = true → A.expiredAt c.now = false ∧
          A.expiredAt c.lateAt = false
      else A.expiredAt c.now = true ∨ c.console = none := by
  unfold Attempt.InOrder
  rw [if_neg (by simp [hcalm.notDue]), if_neg (by simp [hcalm.notFailed, hwait])]

theorem isFailed_of_goesOn (h : A.goesOn st c = true) : c.wait.isFailed = false := by
  unfold Attempt.goesOn at h
  cases hw : c.wait with
  | failed e => simp [hw] at h
  | exited | timeout => rfl

theorem wait_eq_exited (h : c.wait.isExited = true) : c.wait = .exited := by
  cases hw : c.wait with
  | exited => rfl
  | timeout | failed e => simp [hw, ProcessWait.isExited] at h

theorem mem_arriving : k ∈ arriving A c ↔ (c.message.toOption.isNone = true ∧ k = .monitorFailure) ∨
        (A.policy.memory.isSome = true ∧ c.message.toOption = some (some .memoryLimit) ∧
        k = .memoryLimit) ∨ (A.expiredAt c.lateAt = true ∧ k = .deadline) := by
  unfold arriving
  rw [List.mem_append, mem_seenIf]
  cases c.message with
  | error e => simp [Except.toOption]
  | ok message => simp [Except.toOption, and_assoc]

/-- **Precedence in a cycle.** In every cycle that ends with an outcome, whatever the loop's
variables are, the outcome's kind is the first in precedence among the events that were there
exactly when the cycle's probes are `InOrder`. -/
theorem kind_eq_select_iff_inOrder {seen : List AttemptEventKind} {outcome : RunOutcome}
    (h : (cycle A st c).Ended seen (.ok outcome)) :
    select seen = some outcome.kind ↔ A.InOrder st c := by
  have hends := cycle_ended h
  generalize outcome.kind = kind at hends
  cases hends with
  | drainedLimit due =>
    unfold Attempt.InOrder
    rw [if_pos due]
    simp [select_eq_some_iff, earlier, mem_standing, due]
  | drainFailed notDue failed =>
    unfold Attempt.InOrder
    rw [if_neg (by simp [notDue]), if_pos (by simp [failed])]
    simp [select_eq_some_iff, earlier, mem_standing, notDue, failed]
  | waitFailed calm failed =>
    unfold Attempt.InOrder
    rw [if_neg (by simp [calm.notDue]), if_pos (by simp [failed])]
    simp [select_eq_some_iff, earlier, mem_standing, calm.notDue, failed]
  | exitedLate calm exited expired =>
    have hw := wait_eq_exited exited
    rw [inOrder_of_calm calm (by rw [hw]; rfl), if_neg (by simp [Attempt.goesOn, hw, expired])]
    simp [select_eq_some_iff, earlier, mem_standing, calm.notDue, expired]
  | completed calm exited inTime completes =>
    have hw := wait_eq_exited exited
    have hwait : c.wait.isFailed = false := by
      rw [hw]
      rfl
    rw [inOrder_of_calm calm hwait, if_neg (by simp [Attempt.goesOn, hw, completes])]
    simp [select_eq_some_iff, earlier, mem_standing, calm.notDue, calm.notFailed, hwait,
      inTime, exited]
  | interrupted calm goesOn pending =>
    have hwait := isFailed_of_goesOn goesOn
    rw [inOrder_of_calm calm hwait, if_pos goesOn, if_pos pending]
    simp [select_eq_some_iff, earlier, mem_standing, calm.notDue, calm.notFailed, hwait, pending]
  | messageFailed calm goesOn free failed =>
    have hwait := isFailed_of_goesOn goesOn
    rw [inOrder_of_calm calm hwait, if_pos goesOn, if_neg (by simp [free])]
    have hmessage : c.message.toOption ≠ some (some .memoryLimit) := by
      intro hsome
      simp [hsome] at failed
    simp [select_eq_some_iff, earlier, mem_standing, mem_arriving, calm.notDue, failed, hmessage]
  | messageLimit calm goesOn free message limited =>
    have hwait := isFailed_of_goesOn goesOn
    rw [inOrder_of_calm calm hwait, if_pos goesOn, if_neg (by simp [free])]
    simp [select_eq_some_iff, earlier, mem_arriving, message, limited]
  | late calm goesOn free answered other expired =>
    have hwait := isFailed_of_goesOn goesOn
    rw [inOrder_of_calm calm hwait, if_pos goesOn, if_neg (by simp [free])]
    simp [select_eq_some_iff, earlier, mem_standing, mem_arriving, calm.notDue, answered,
      other, expired]

/-- An attempt with a deadline of one second, authorized 5 ms after it started. -/
def boundedAttempt : Attempt :=
  { policy :=
      { memory := none
        deadline := some .oneSecond }
    context :=
      { macosRunOriginNs := none
        macosWorkExpiresNs := none
        restartAttempt := 0
        supervisionOffset := 0
        supervisionDeadlineRemaining := none }
    started := 0
    authorized := ofMillis 5
    started_le := Nat.zero_le _ }

/-- A cycle at `now` in which the direct process still runs, with `console` pending. -/
def runningCycle (now : ℕ) (console : Option ConsoleEvent) : Cycle :=
  { drained := []
    peakCommit := .ok 0
    graceStartedAt := now
    graceEndedAt := now
    wait := .timeout
    now := now
    observedAt := now
    exitStatus := .ok (.windowsStatus 259)
    active := .ok 1
    exitGraceStartedAt := now
    exitGraceAt := now
    console := console
    message := .ok none
    lateAt := now
    lateObservedAt := now
    cleanup := ⟨now, .ok (), true, []⟩ }

/-- A console event that is pending when the deadline has expired is reported in place of the
deadline. -/
theorem interrupted_after_deadline : ∃ seen outcome,
      (cycle boundedAttempt {} (runningCycle (ofSecs 2) (some .ctrlC))).Ended seen (.ok outcome) ∧
      select seen = some .deadline ∧ outcome.kind = .interruption :=
  ⟨_, _, ⟨rfl, rfl⟩, by decide, rfl⟩

/-- A wait that fails while a console event is pending: both are seen, and the failure is
reported. -/
theorem kind_eq_select_wait_failed :
    let failing := { runningCycle 0 (some .ctrlC) with wait := .failed "handle is invalid" }
    ∃ seen outcome, (cycle boundedAttempt {} failing).Ended seen (.ok outcome) ∧
      .monitorFailure ∈ seen ∧ .interruption ∈ seen ∧ select seen = some outcome.kind := by
  intro failing
  have horder : boundedAttempt.InOrder {} failing := by
    unfold Attempt.InOrder
    decide
  exact ⟨_, _, ⟨rfl, rfl⟩, by decide, by decide, (kind_eq_select_iff_inOrder ⟨rfl, rfl⟩).2 horder⟩

end MemCordon.WindowsJob
