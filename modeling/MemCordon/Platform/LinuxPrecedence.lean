import MemCordon.Platform.LinuxDeadline

/-!
# The precedence of events in the Linux monitor

Within one observation cycle confirmed memory evidence is to come before the deadline, a failure of
a probe, an interruption and the ordinary completion of the command. The cycle has no such
comparison: it follows the order of its stages, reads `memory.events` twice, and asks for a signal
inside the branches that terminate the workload.

* `cycle_ended` is the inversion of a cycle: the stage that ended it, with the events seen until
  then.
* `kind_eq_select_iff` says exactly when the outcome's kind is the one that comes first.
-/

namespace MemCordon.LinuxCgroup

open Clock Supervisor AttemptEventKind Watch

variable {A : Attempt} {st : MonitorState} {c : Cycle} {k : AttemptEventKind}

/-! ## What the probes show -/

/-- A read of `memory.events` is made and fails. -/
def Attempt.readFailed (A : Attempt) (read : Except String Counters) : Bool :=
  A.baseline.isSome && read.toOption.isNone

/-- There is a deadline, and the cycle's reading is past it. -/
def Attempt.deadlineExpired (A : Attempt) (c : Cycle) : Bool := A.policy.deadline.any (A.expired c)

/-- The guard of the deadline branch. -/
def Attempt.deadlineDue (A : Attempt) (c : Cycle) : Bool :=
  A.deadlineExpired c && !A.confirms c.firstEvents

/-- The events of the probes before the limit check. -/
def early (A : Attempt) (st : MonitorState) (c : Cycle) : List AttemptEventKind :=
  seenIf (waitFailed st c) .monitorFailure ++
    (A.eventsSeen c.firstEvents ++ seenIf (A.deadlineExpired c) .deadline)

theorem mem_signalSeen {signal : Option ℤ} : k ∈ signalSeen signal ↔ signal.isSome = true ∧
    k = .interruption := by
  cases signal <;> simp [signalSeen]

theorem mem_failureSeen {α : Type} {read : Except String α} :
    k ∈ failureSeen read ↔ read.toOption.isNone = true ∧ k = .monitorFailure := by
  cases read <;> simp [failureSeen, Except.toOption]

theorem mem_eventsSeen {read : Except String Counters} : k ∈ A.eventsSeen read ↔
      (A.readFailed read = true ∧ k = .monitorFailure) ∨
      (A.confirms read = true ∧ k = .memoryLimit) := by
  unfold Attempt.eventsSeen Attempt.readFailed
  cases hb : A.baseline with
  | none => simp [Attempt.confirms, hb]
  | some baseline => simp [mem_failureSeen, mem_seenIf]

theorem mem_early : k ∈ early A st c ↔
      ((waitFailed st c || A.readFailed c.firstEvents) = true ∧ k = .monitorFailure) ∨
        (A.confirms c.firstEvents = true ∧ k = .memoryLimit) ∨
        (A.deadlineExpired c = true ∧ k = .deadline) := by
  unfold early
  rw [List.mem_append, List.mem_append, mem_eventsSeen, mem_seenIf, mem_seenIf, Bool.or_eq_true]
  tauto

/-! ## Inversion of a cycle -/

/-- The limit check lets the cycle go on. -/
structure Calm (A : Attempt) (c : Cycle) : Prop where
  notDue : A.deadlineDue c = false
  notFailed : A.readFailed c.secondEvents = false
  notConfirmed : A.confirms c.secondEvents = false

/-- The signal the cycle looks at when no branch was taken. -/
def heldSignal (st : MonitorState) (c : Cycle) : Option ℤ := st.pendingSignal.or c.signal

/-- The usage of the workload is sampled, and the read fails. -/
def Attempt.usageFailed (A : Attempt) (c : Cycle) : Bool :=
  A.policy.memory.isSome && c.current.toOption.isNone

/-- The stage that ends a cycle: the events seen until then, and the kind of the outcome. -/
inductive Ends (A : Attempt) (st : MonitorState) (c : Cycle) :
    List AttemptEventKind → AttemptEventKind → Prop
  | deadline (due : A.deadlineDue c = true) :
      Ends A st c (early A st c ++ signalSeen c.branchSignal)
        (if c.branchSignal.isSome then .interruption else .deadline)
  | readFailed (notDue : A.deadlineDue c = false) (failed : A.readFailed c.secondEvents = true) :
      Ends A st c (early A st c ++ A.eventsSeen c.secondEvents) .monitorFailure
  | limit (notDue : A.deadlineDue c = false) (confirmed : A.confirms c.secondEvents = true) :
      Ends A st c
        (early A st c ++ (A.eventsSeen c.secondEvents ++ failureSeen c.current ++
          signalSeen c.branchSignal))
        (if c.branchSignal.isSome then .interruption else .memoryLimit)
  | waitFailed (calm : Calm A c) (failed : waitFailed st c = true) :
      Ends A st c (early A st c) .monitorFailure
  | usageFailed (calm : Calm A c) (waited : LinuxCgroup.waitFailed st c = false)
      (failed : A.usageFailed c = true) :
      Ends A st c (early A st c ++ [.monitorFailure]) .monitorFailure
  | signal (calm : Calm A c) (waited : LinuxCgroup.waitFailed st c = false)
      (sampled : A.usageFailed c = false) (held : (heldSignal st c).isSome = true) :
      Ends A st c (early A st c ++ [.interruption]) .interruption
  | populatedFailed (calm : Calm A c) (waited : LinuxCgroup.waitFailed st c = false)
      (sampled : A.usageFailed c = false) (free : heldSignal st c = none)
      (reaped : (reapedChild st c).isSome = true) (failed : c.populated.toOption.isNone = true) :
      Ends A st c (early A st c ++ [.monitorFailure]) .monitorFailure
  | completed (calm : Calm A c) (waited : LinuxCgroup.waitFailed st c = false)
      (sampled : A.usageFailed c = false) (free : heldSignal st c = none)
      (reaped : (reapedChild st c).isSome = true) (read : c.populated.toOption.isSome = true) :
      Ends A st c (early A st c ++ [.completion]) .completion

variable {stored : Option ChildTermination} {outcome : RunOutcome}

theorem kind_of_deadlineOutcome {d : DeadlinePolicy}
    (h : A.deadlineOutcome st c stored d = .ok outcome) :
    outcome.kind = if c.branchSignal.isSome then .interruption else .deadline := by
  unfold Attempt.deadlineOutcome at h
  cases hs : c.branchSignal with
  | some signal =>
    simp only [hs] at h
    cases h
    rfl
  | none =>
    simp only [hs] at h
    split at h
    · cases h
      rfl
    · cases h

theorem kind_of_limitOutcome {limit : ℕ} {detail : String}
    (h : A.limitOutcome st c stored limit detail = .ok outcome) :
    outcome.kind = if c.branchSignal.isSome then .interruption else .memoryLimit := by
  unfold Attempt.limitOutcome at h
  cases hs : c.branchSignal with
  | some signal | none =>
    simp only [hs] at h
    cases h
    rfl

theorem kind_of_monitorFailed {message : String}
    (h : A.monitorFailed stored c message = .ok outcome) :
    outcome.kind = .monitorFailure := by
  cases h
  rfl

theorem checkDeadline_of_due (h : A.deadlineDue c = true) (stored : Option ChildTermination) :
    ∃ d, checkDeadline A st c stored =
        .stop (A.eventsSeen c.firstEvents ++ seenIf (A.deadlineExpired c) .deadline ++
        signalSeen c.branchSignal) (A.deadlineOutcome st c stored d) := by
  unfold Attempt.deadlineDue Attempt.deadlineExpired at h
  unfold checkDeadline Attempt.deadlineExpired
  cases hd : A.policy.deadline with
  | none => simp [hd] at h
  | some d =>
    rw [hd, Option.any_some] at h
    refine ⟨d, ?_⟩
    rw [Option.any_some]
    exact if_pos h

theorem checkDeadline_of_not_due (h : A.deadlineDue c = false) (stored : Option ChildTermination) :
    checkDeadline A st c stored =
      .note (A.eventsSeen c.firstEvents ++ seenIf (A.deadlineExpired c) .deadline) ⟨⟩ := by
  unfold Attempt.deadlineDue Attempt.deadlineExpired at h
  unfold checkDeadline Attempt.deadlineExpired
  cases hd : A.policy.deadline with
  | none => simp [seenIf]
  | some d =>
    rw [hd, Option.any_some] at h
    rw [Option.any_some]
    exact if_neg (by simp [h])

/-- The limit check ends a cycle on a failed read or on a limit that was hit. -/
theorem checkLimit_cases (A : Attempt) (st : MonitorState) (c : Cycle)
    (stored : Option ChildTermination) :
    (A.readFailed c.secondEvents = true ∧ ∃ message, checkLimit A st c stored =
          .stop (A.eventsSeen c.secondEvents) (A.monitorFailed stored c message)) ∨
      (A.confirms c.secondEvents = true ∧ ∃ limit detail, checkLimit A st c stored =
          .stop (A.eventsSeen c.secondEvents ++ failureSeen c.current ++ signalSeen c.branchSignal)
            (A.limitOutcome st c stored limit detail)) ∨
      (A.readFailed c.secondEvents = false ∧ A.confirms c.secondEvents = false ∧
        checkLimit A st c stored = .note [] ⟨⟩) := by
  have hiff := A.baseline_iff
  unfold checkLimit Attempt.readFailed Attempt.confirms
  cases hb : A.baseline with
  | none => exact .inr (.inr ⟨rfl, rfl, rfl⟩)
  | some baseline =>
    rw [hb] at hiff
    obtain ⟨limit, hlimit⟩ := Option.isSome_iff_exists.1 hiff.symm
    cases c.secondEvents with
    | error e =>
      refine .inl ⟨rfl, "memory.events read failed: " ++ e, ?_⟩
      rw [hlimit]
    | ok events =>
      cases hdelta : limitDelta baseline events with
      | some detail =>
        refine .inr (.inl ⟨?_, limit, detail, ?_⟩)
        · simp [Except.toOption, hdelta]
        · simp only [hlimit, hdelta]
      | none =>
        refine .inr (.inr ⟨rfl, ?_, ?_⟩)
        · simp [Except.toOption, hdelta]
        · simp only [hlimit, hdelta]

theorem checkWait_cases (A : Attempt) (c : Cycle) (reaped : Reaped) :
    (reaped.failure.isSome = true ∧ ∃ message,
        checkWait A c reaped = .stop [] (A.monitorFailed reaped.stored c message)) ∨
      (reaped.failure.isSome = false ∧ checkWait A c reaped = .note [] ⟨⟩) := by
  unfold checkWait
  cases reaped.failure with
  | some message => exact .inl ⟨rfl, message, rfl⟩
  | none => exact .inr ⟨rfl, rfl⟩

theorem sampleUsage_cases (A : Attempt) (st : MonitorState) (c : Cycle)
    (stored : Option ChildTermination) :
    (A.usageFailed c = true ∧ ∃ message,
        sampleUsage A st c stored = .stop [.monitorFailure] (A.monitorFailed stored c message)) ∨
      (A.usageFailed c = false ∧ ∃ peak, sampleUsage A st c stored = .note [] peak) := by
  unfold sampleUsage Attempt.usageFailed
  cases A.policy.memory with
  | none => exact .inr ⟨rfl, _, rfl⟩
  | some limit =>
    cases c.current with
    | ok usage => exact .inr ⟨rfl, _, rfl⟩
    | error e => exact .inl ⟨rfl, _, rfl⟩

theorem checkSignal_cases (A : Attempt) (st : MonitorState) (c : Cycle)
    (stored : Option ChildTermination) :
    ((heldSignal st c).isSome = true ∧ ∃ signal child cleanup, checkSignal A st c stored =
          .stop [.interruption] (.ok (.interrupted signal child cleanup))) ∨
      (heldSignal st c = none ∧ checkSignal A st c stored = .note [] ⟨⟩) := by
  unfold checkSignal heldSignal
  cases st.pendingSignal.or c.signal with
  | some signal => exact .inl ⟨rfl, _, _, _, rfl⟩
  | none => exact .inr ⟨rfl, rfl⟩

variable {seen : List AttemptEventKind}

/-- The completion check ends a cycle once the direct child was reaped: when the read of the members
fails, or as completed. -/
theorem checkCompletion_ended {peak : ℕ}
    (h : (checkCompletion A st c peak stored).Ended seen (.ok outcome)) :
    stored.isSome = true ∧ ((c.populated.toOption.isNone = true ∧ seen = [.monitorFailure] ∧
          outcome.kind = .monitorFailure) ∨
        (c.populated.toOption.isSome = true ∧ seen = [.completion] ∧
          outcome.kind = .completion)) := by
  unfold checkCompletion at h
  cases stored with
  | none => exact absurd h ended_note
  | some status =>
    refine ⟨rfl, ?_⟩
    cases hp : c.populated with
    | error e =>
      rw [hp] at h
      obtain ⟨rfl, hout⟩ := ended_stop.1 h
      exact .inl ⟨rfl, rfl, kind_of_monitorFailed hout⟩
    | ok populated =>
      simp only [hp] at h
      split_ifs at h
      · obtain ⟨rfl, hout⟩ := ended_stop.1 h
        cases hout
        exact .inr ⟨rfl, rfl, rfl⟩
      · exact absurd h ended_note

/-- The stages after a limit check that let the cycle go on. -/
theorem calm_ended {failure : Option String} (hcalm : Calm A c)
    (hfailure : failure.isSome = waitFailed st c) (h : (do
      let _ ← checkWait A c ⟨reapedChild st c, failure⟩
      let peak ← sampleUsage A st c (reapedChild st c)
      let _ ← checkSignal A st c (reapedChild st c)
      let graceStarted ← checkCompletion A st c peak (reapedChild st c)
      Watch.note [] (⟨reapedChild st c, peak, c.nextSignal, graceStarted⟩ : MonitorState)).Ended
        seen (.ok outcome)) :
    Ends A st c (early A st c ++ seen) outcome.kind := by
  rcases checkWait_cases A c ⟨reapedChild st c, failure⟩ with
    ⟨hwait, message, hcheck⟩ | ⟨hwait, hcheck⟩
  · obtain ⟨rfl, hout⟩ := h.of_stop hcheck
    rw [kind_of_monitorFailed hout, List.append_nil]
    exact .waitFailed hcalm (hfailure.symm.trans hwait)
  obtain ⟨after, h₁, rfl⟩ := h.of_note hcheck
  have hwaited : waitFailed st c = false := hfailure.symm.trans hwait
  rcases sampleUsage_cases A st c (reapedChild st c) with
    ⟨husage, message, hcheck⟩ | ⟨husage, peak, hcheck⟩
  · obtain ⟨rfl, hout⟩ := h₁.of_stop hcheck
    rw [kind_of_monitorFailed hout]
    exact .usageFailed hcalm hwaited husage
  obtain ⟨after, h₂, rfl⟩ := h₁.of_note hcheck
  rcases checkSignal_cases A st c (reapedChild st c) with
    ⟨hheld, signal, child, cleanup, hcheck⟩ | ⟨hheld, hcheck⟩
  · obtain ⟨rfl, hout⟩ := h₂.of_stop hcheck
    cases hout
    exact .signal hcalm hwaited husage hheld
  obtain ⟨after, h₃, rfl⟩ := h₂.of_note hcheck
  rcases ended_bind.1 h₃ with h₃ | ⟨before, graceStarted, after, -, h₃, -⟩
  · obtain ⟨hreaped, ⟨hpop, rfl, hkind⟩ | ⟨hpop, rfl, hkind⟩⟩ := checkCompletion_ended h₃
    · rw [hkind]
      exact .populatedFailed hcalm hwaited husage hheld hreaped hpop
    · rw [hkind]
      exact .completed hcalm hwaited husage hheld hreaped hpop
  · exact absurd h₃ ended_note

/-- **Inversion of a cycle.** A cycle that ends with an outcome was ended by one of its stages. -/
theorem cycle_ended (h : (cycle A st c).Ended seen (.ok outcome)) :
    Ends A st c seen outcome.kind := by
  obtain ⟨failure, hfailure, hreap⟩ := tryReap_eq st c
  unfold cycle at h
  obtain ⟨after, h₁, rfl⟩ := h.of_note hreap
  cases hdue : A.deadlineDue c with
  | true =>
    obtain ⟨d, hcheck⟩ := @checkDeadline_of_due A st c hdue (reapedChild st c)
    obtain ⟨rfl, hout⟩ := h₁.of_stop hcheck
    rw [kind_of_deadlineOutcome hout, ← List.append_assoc]
    exact .deadline hdue
  | false =>
    obtain ⟨after, h₂, rfl⟩ := h₁.of_note (checkDeadline_of_not_due hdue _)
    rw [← List.append_assoc]
    -- what was seen so far is `early`
    change Ends A st c (early A st c ++ after) _
    rcases checkLimit_cases A st c (reapedChild st c) with
      ⟨hfailed, message, hcheck⟩ | ⟨hconf, limit, detail, hcheck⟩ | ⟨hfailed, hconf, hcheck⟩
    · obtain ⟨rfl, hout⟩ := h₂.of_stop hcheck
      rw [kind_of_monitorFailed hout]
      exact .readFailed hdue hfailed
    · obtain ⟨rfl, hout⟩ := h₂.of_stop hcheck
      rw [kind_of_limitOutcome hout]
      exact .limit hdue hconf
    · have hcalm : Calm A c := ⟨hdue, hfailed, hconf⟩
      obtain ⟨after, h₃, rfl⟩ := h₂.of_note hcheck
      exact calm_ended hcalm hfailure h₃

/-! ## Precedence -/

/-- A probe after the limit check fails and ends the cycle. -/
def Attempt.laterFailure (A : Attempt) (st : MonitorState) (c : Cycle) : Bool :=
  waitFailed st c || A.usageFailed c ||
    ((heldSignal st c).isNone && (reapedChild st c).isSome && c.populated.toOption.isNone)

/-- What the probes of a cycle must show for its stages to follow the precedence: no signal during
the termination of the workload, no confirmed limit in the first read of `memory.events` that the
second read loses, and no failure of the first read in a cycle without a later failure. -/
def Attempt.InOrder (A : Attempt) (st : MonitorState) (c : Cycle) : Prop :=
  if A.deadlineDue c then c.branchSignal = none
  else if A.readFailed c.secondEvents then A.confirms c.firstEvents = false
  else if A.confirms c.secondEvents then c.branchSignal = none
  else A.confirms c.firstEvents = false ∧ (A.readFailed c.firstEvents = true →
    A.laterFailure st c = true)

theorem readFailed_of_confirms {read : Except String Counters} (h : A.confirms read = true) :
    A.readFailed read = false := by
  unfold Attempt.confirms at h
  unfold Attempt.readFailed
  cases read with
  | error e => simp [Except.toOption] at h
  | ok events => simp [Except.toOption]

/-- A deadline that expired without ending the cycle was deferred by a confirmed limit. -/
theorem confirms_of_not_due (h : A.deadlineDue c = false) (hexp : A.deadlineExpired c = true) :
    A.confirms c.firstEvents = true := by
  unfold Attempt.deadlineDue at h
  simpa [hexp] using h

/-- Past the limit check, without a confirmed limit in the first read, only failures have been
seen. -/
theorem mem_early_of_calm (hcalm : Calm A c) (hconf : A.confirms c.firstEvents = false) :
    k ∈ early A st c ↔
      (waitFailed st c || A.readFailed c.firstEvents) = true ∧ k = .monitorFailure := by
  have hexp : A.deadlineExpired c = false := by
    rw [← Bool.not_eq_true]
    intro hexp
    rw [confirms_of_not_due hcalm.notDue hexp] at hconf
    cases hconf
  rw [mem_early, hconf, hexp]
  simp

theorem inOrder_of_calm (hcalm : Calm A c) : A.InOrder st c ↔ A.confirms c.firstEvents = false ∧
      (A.readFailed c.firstEvents = true → A.laterFailure st c = true) := by
  unfold Attempt.InOrder
  rw [if_neg (by simp [hcalm.notDue]), if_neg (by simp [hcalm.notFailed]),
    if_neg (by simp [hcalm.notConfirmed])]

/-- An event seen past the limit check comes first unless the first read of `memory.events` showed
more. -/
theorem select_early_append (hcalm : Calm A c) (hwaited : waitFailed st c = false)
    (hk : k = .monitorFailure ∨ .monitorFailure ∈ k.earlier) :
    select (early A st c ++ [k]) = some k ↔
      A.confirms c.firstEvents = false ∧
      (k = .monitorFailure ∨ A.readFailed c.firstEvents = false) := by
  have hlimit : AttemptEventKind.memoryLimit ∈ k.earlier := by
    rcases hk with rfl | hk
    · decide
    · revert hk
      cases k <;> decide
  rw [select_eq_some_iff]
  cases hconf : A.confirms c.firstEvents with
  | true =>
    refine ⟨fun h => absurd ?_ (h.2 _ hlimit), fun h => absurd h.1 (by decide)⟩
    exact List.mem_append_left _ (mem_early.2 (.inr (.inl ⟨hconf, rfl⟩)))
  | false =>
    have hmem : ∀ e', e' ∈ early A st c ↔ A.readFailed c.firstEvents = true ∧
        e' = .monitorFailure := by
      intro e'
      rw [mem_early_of_calm hcalm hconf, hwaited, Bool.false_or]
    have hself : k ∉ k.earlier := fun h => lt_irrefl _ (mem_earlier.1 h)
    simp only [List.mem_append, hmem, List.mem_singleton, true_and, or_true]
    constructor
    · intro h
      rcases hk with rfl | hk
      · exact .inl rfl
      · exact .inr (Bool.eq_false_iff.2 fun hr => h _ hk (.inl ⟨hr, rfl⟩))
    · rintro hfirst e' he' (⟨hr, rfl⟩ | rfl)
      · rcases hfirst with rfl | hfirst
        · exact hself he'
        · rw [hfirst] at hr
          cases hr
      · exact hself he'

/-- **Precedence in a cycle.** In every cycle that ends with an outcome, whatever the loop's
variables are, the outcome's kind is the first in precedence among the events that the cycle's
probes showed exactly when those probes are `InOrder`. -/
theorem kind_eq_select_iff {seen : List AttemptEventKind} {outcome : RunOutcome}
    (h : (cycle A st c).Ended seen (.ok outcome)) :
    select seen = some outcome.kind ↔ A.InOrder st c := by
  have hends := cycle_ended h
  generalize outcome.kind = kind at hends
  cases hends with
  | deadline due =>
    have hdue : A.deadlineExpired c = true ∧ A.confirms c.firstEvents = false := by
      simpa [Attempt.deadlineDue] using due
    unfold Attempt.InOrder
    rw [if_pos due]
    cases hs : c.branchSignal with
    | none => simp [select_eq_some_iff, earlier, mem_early, mem_signalSeen, hdue]
    | some signal => simp [select_eq_some_iff, earlier, mem_early, hdue]
  | readFailed notDue failed =>
    have hsecond : A.confirms c.secondEvents = false := by
      rw [← Bool.not_eq_true]
      intro hconf
      rw [readFailed_of_confirms hconf] at failed
      cases failed
    have hexp := @confirms_of_not_due A c notDue
    unfold Attempt.InOrder
    rw [if_neg (by simp [notDue]), if_pos failed]
    cases hconf : A.confirms c.firstEvents with
    | true => simp [select_eq_some_iff, earlier, mem_early, hconf]
    | false =>
      have hnot : A.deadlineExpired c = false := by simpa [hconf] using hexp
      simp [select_eq_some_iff, earlier, mem_early, mem_eventsSeen, hconf, hnot, failed, hsecond]
  | limit notDue confirmed =>
    have horder : A.InOrder st c ↔ c.branchSignal = none := by
      unfold Attempt.InOrder
      rw [if_neg (by simp [notDue]), if_neg (by simp [readFailed_of_confirms confirmed]),
        if_pos confirmed]
    rw [horder]
    cases hs : c.branchSignal with
    | none | some signal => simp [select_eq_some_iff, earlier, mem_eventsSeen, confirmed]
  | waitFailed calm failed =>
    have hlater : A.laterFailure st c = true := by simp [Attempt.laterFailure, failed]
    rw [inOrder_of_calm calm, hlater]
    cases hconf : A.confirms c.firstEvents with
    | true => simp [select_eq_some_iff, earlier, mem_early, hconf]
    | false => simp [select_eq_some_iff, earlier, mem_early_of_calm calm hconf, failed]
  | usageFailed calm waited failed =>
    have hlater : A.laterFailure st c = true := by simp [Attempt.laterFailure, failed]
    rw [inOrder_of_calm calm, hlater, select_early_append calm waited (.inl rfl)]
    simp
  | populatedFailed calm waited sampled free reaped failed =>
    have hlater : A.laterFailure st c = true := by
      simp only [Attempt.laterFailure, free, reaped, failed]
      simp
    rw [inOrder_of_calm calm, hlater, select_early_append calm waited (.inl rfl)]
    simp
  | signal calm waited sampled held =>
    have hlater : A.laterFailure st c = false := by
      have hnone : (heldSignal st c).isNone = false := by simpa using held
      simp only [Attempt.laterFailure, waited, sampled, hnone]
      rfl
    rw [inOrder_of_calm calm, hlater, select_early_append calm waited (.inr (by decide))]
    simp
  | completed calm waited sampled free reaped read =>
    have hlater : A.laterFailure st c = false := by
      have hnone : c.populated.toOption.isNone = false := by simpa using read
      simp only [Attempt.laterFailure, waited, sampled, hnone, Bool.and_false]
      rfl
    rw [inOrder_of_calm calm, hlater, select_early_append calm waited (.inr (by decide))]
    simp

/-- An attempt with a memory limit and a deadline of one second. -/
def limitedAttempt : Attempt :=
  { policy :=
      { memory := some 4096
        deadline := some .oneSecond }
    context :=
      { macosRunOriginNs := none
        macosWorkExpiresNs := none
        restartAttempt := 0
        supervisionOffset := 0
        supervisionDeadlineRemaining := none }
    started := 0
    authorized := 0
    baseline := some fun _ => none
    baseline_iff := rfl
    started_le := le_rfl }

/-- A signal that arrives while the workload is terminated at its deadline is reported in place of
the deadline. -/
theorem interrupted_at_deadline : ∃ seen outcome,
      (cycle limitedAttempt {} { quietCycle (ofSecs 1) with branchSignal := some 15 }).Ended seen
        (.ok outcome) ∧
      select seen = some .deadline ∧ outcome.kind = .interruption :=
  ⟨_, _, ⟨rfl, rfl⟩, by decide, rfl⟩

/-- A limit that both reads confirm when the deadline has expired: both are seen, and the limit is
reported. -/
theorem kind_eq_select_limit_at_deadline :
    let limited := { quietCycle (ofSecs 1) with
      firstEvents := .ok fun _ => some 1, secondEvents := .ok fun _ => some 1 }
    ∃ seen outcome, (cycle limitedAttempt {} limited).Ended seen (.ok outcome) ∧
      .deadline ∈ seen ∧ .memoryLimit ∈ seen ∧ select seen = some outcome.kind := by
  intro limited
  have horder : limitedAttempt.InOrder {} limited := by
    unfold Attempt.InOrder
    decide
  exact ⟨_, _, ⟨rfl, rfl⟩, by decide, by decide, (kind_eq_select_iff ⟨rfl, rfl⟩).2 horder⟩

end MemCordon.LinuxCgroup
