import MemCordon.Platform.SupervisorTurns

/-!
# Whole runs of the supervision loop

Two invariants of the loop head. `LaunchCount` ties the controller's counters to the number of turns
taken and bounds them by the restart limit. `RunLog` ties the history and the counters the loop
accumulates to the attempts it made: every record is the record of a turn that went round again, and
every such turn ran under the boundary of the selected backend.
-/

namespace MemCordon.Supervisor

open Clock Counter

variable {r : Run} {s s' s₀ : LoopState} {t u : Turn} {a : AttemptExecution} {turns : List Turn}

/-! ## Counting launches -/

theorem hasRemainingLaunch_count {c : RestartController} {n : ℕ+}
    (hc : c.settings.limit = .count n) (h : c.hasRemainingLaunch = true) :
    c.restartsLaunched < n := by
  unfold RestartController.hasRemainingLaunch at h
  rw [hc] at h
  exact of_decide_eq_true h

/-- After `turns` that all went round again, the controller has launched as many restarts, and no
more than its limit. -/
structure LaunchCount (r : Run) (turns : List Turn) (s : LoopState) : Prop where
  configured : ∀ c, s.coordinator = some c → r.restart = .onLimits c.controller.settings
  launched : ∀ c, s.coordinator = some c → c.controller.restartsLaunched = turns.length
  counted : ∀ c, s.coordinator = some c → c.summary.restartsLaunched = turns.length
  bounded : ∀ settings n, r.restart = .onLimits settings → settings.limit = .count n →
    turns.length ≤ n

variable {observed : ℕ}

theorem start_again (h : start r observed = .again s₀) :
    ∃ coordinator, startCoordinator r = .ok coordinator ∧ s₀ = initialState r coordinator := by
  unfold start at h
  cases hm : macosWorkExpiresNs r with
  | error e => simp [hm] at h
  | ok w =>
    cases hc : startCoordinator r with
    | error e => simp [hm, hc] at h
    | ok coordinator =>
      simp only [hm, hc] at h
      split_ifs at h
      · cases hp : preAttemptEvidence r observed <;> simp [hp] at h
      · exact ⟨coordinator, rfl, (Flow.again.inj h).symm⟩

theorem startCoordinator_some {c : RestartCoordinator} (h : startCoordinator r = .ok (some c)) :
    r.restart = .onLimits c.controller.settings ∧ c.controller.restartsLaunched = 0 ∧
      c.summary.restartsLaunched = 0 := by
  unfold startCoordinator at h
  cases hr : r.restart with
  | never => simp [hr] at h
  | onLimits settings =>
    simp only [hr] at h
    obtain ⟨c', hnew, hc'⟩ := Fallible.bind_eq_ok.1 h
    obtain rfl : c' = c := Option.some.inj (Except.ok.inj hc')
    rw [Fallible.mapError_eq_ok] at hnew
    obtain ⟨hsettings, hlaunched, hcounted⟩ := RestartCoordinator.new_spec hnew
    exact ⟨by rw [hsettings], hlaunched, hcounted⟩

theorem LaunchCount.initial (h : start r observed = .again s₀) : LaunchCount r [] s₀ := by
  obtain ⟨coordinator, hc, rfl⟩ := start_again h
  refine ⟨?_, ?_, ?_, fun _ _ _ _ => Nat.zero_le _⟩
  all_goals
    intro c hcoord
    obtain rfl : coordinator = some c := hcoord
    obtain ⟨hconf, hlaunch, hcount⟩ := startCoordinator_some hc
    first
    | exact hconf
    | exact hlaunch
    | exact hcount

theorem LaunchCount.next (h : LaunchCount r turns s) (hs : step r s t = .again s') :
    LaunchCount r (turns ++ [t]) s' := by
  obtain ⟨a, d, ⟨hcont⟩⟩ := step_again hs
  obtain ⟨re⟩ := hcont.relaunched
  have hbefore := h.launched _ re.had
  have hconf : r.restart = .onLimits re.before.controller.settings := h.configured _ re.had
  have hlen : (turns ++ [t]).length = turns.length + 1 := by
    rw [List.length_append, List.length_singleton]
  refine ⟨?_, ?_, ?_, ?_⟩
  · intro c hc
    obtain rfl : re.after = c := Option.some.inj (re.kept.symm.trans hc)
    rw [re.settings]
    exact hconf
  · intro c hc
    obtain rfl : re.after = c := Option.some.inj (re.kept.symm.trans hc)
    rw [re.launched, hbefore, hlen]
  · intro c hc
    obtain rfl : re.after = c := Option.some.inj (re.kept.symm.trans hc)
    rw [re.counted, hbefore, hlen]
  · intro settings n hset hlimit
    obtain rfl : re.before.controller.settings = settings :=
      RestartPolicy.onLimits.inj (hconf.symm.trans hset)
    obtain ⟨keeps, -⟩ := RestartCoordinator.onLimit_spec re.limit
    have hlt := hasRemainingLaunch_count (by rw [keeps.settings]; exact hlimit) re.remaining
    rw [keeps.launched, hbefore] at hlt
    omega

theorem LaunchCount.of_reaches (hstart : start r observed = .again s₀)
    (h : Loop.Reaches (step r) s₀ turns s) : LaunchCount r turns s :=
  h.invariant (P := fun _ => True) (LaunchCount.initial hstart)
    (fun _ _ _ _ hi _ hs => hi.next hs) (fun _ _ => trivial)

/-! ## What was recorded -/

/-- `record` is the record of a turn of `turns` that went round again, under the boundary that the
state `s` has selected. -/
def LoggedFrom (r : Run) (turns : List Turn) (s : LoopState) (record : AttemptRecord) : Prop :=
  ∃ s₁ t a d s₂, t ∈ turns ∧ s.backend.map (·.boundary) = some (observedBackend r a).boundary ∧
    ∃ c : Continued r s₁ t a d s₂, record = completedRecord s₁ t a c.recorded.number d.record

/-- After `turns` that all went round again, the loop has recorded `records`, one a turn, and
counted one authorization for each. -/
structure RunLog (r : Run) (turns : List Turn) (s : LoopState) (records : List AttemptRecord) :
    Prop where
  history : HistoryOf s.history s.aggregates records
  length : records.length = turns.length
  logged : ∀ record ∈ records, LoggedFrom r turns s record
  head : ∀ record, records.head? = some record → record.kind = .initial
  fresh : turns = [] → s.kind = .initial
  targets : s.targetsAuthorized = turns.length

theorem RunLog.initial (h : start r observed = .again s₀) : RunLog r [] s₀ [] := by
  obtain ⟨coordinator, -, rfl⟩ := start_again h
  exact ⟨.empty, rfl, by simp, by simp, fun _ => rfl, rfl⟩

variable {n : ℕ}

theorem nextNumber_eq_ok (h : nextNumber s = .ok n) : n = s.history.total + 1 ∧
    s.history.total + 1 < u64Bound := by
  obtain ⟨hlt, rfl⟩ := checkedAdd_eq_some.1 (Fallible.okOr_eq_ok.1 h)
  exact ⟨rfl, hlt⟩

theorem nextNumber_pos (h : nextNumber s = .ok n) : 0 < n := by
  have := (nextNumber_eq_ok h).1
  omega

theorem authorizedAfter_eq_ok {released : Bool} (h : authorizedAfter s released = .ok n) :
    n = s.targetsAuthorized + released.toNat :=
  (checkedAdd_eq_some.1 (Fallible.okOr_eq_ok.1 h)).2

/-- Without drift, the selected and the observed backend offer the same boundary. -/
theorem boundary_eq_of_drift_none {selected observed : BackendCapabilityReport}
    (hs : s.backend = some selected) (h : drift r s observed = none) :
    observed.boundary = selected.boundary := by
  unfold drift at h
  rw [hs, Option.filter_some] at h
  split_ifs at h with hne
  have hsame : backendSelectionDriftFields selected observed r.policy.metric = [] := by
    simpa using hne
  rw [← capabilityMismatches_eq_nil.1 hsame, selectedBackendForMetric_boundary]

variable {records : List AttemptRecord} {record : AttemptRecord}

theorem RunLog.append (h : RunLog r turns s records) {number : ℕ} (hn : nextNumber s = .ok number)
    (hrec : record.number = number) (hres : record.outcome.isSome ∨ record.error.isSome) :
    ∃ history aggregates, AttemptHistory.append s.history record s.aggregates =
        .ok (history, aggregates) ∧ HistoryOf history aggregates (records ++ [record]) := by
  obtain ⟨hnum, hfit⟩ := nextNumber_eq_ok hn
  rw [h.history.total] at hnum hfit
  exact h.history.append (hrec.trans hnum) hfit hres

theorem RunLog.appended (h : RunLog r turns s records) {number : ℕ} (hn : nextNumber s = .ok number)
    (hrec : record.number = number) (hres : record.outcome.isSome ∨ record.error.isSome)
    {history : AttemptHistory} {aggregates : SupervisionAggregates}
    (happ : AttemptHistory.append s.history record s.aggregates = .ok (history, aggregates)) :
    HistoryOf history aggregates (records ++ [record]) := by
  obtain ⟨h', a', happ', hof⟩ := h.append hn hrec hres
  obtain ⟨rfl, rfl⟩ := Prod.mk.inj (Except.ok.inj (happ'.symm.trans happ))
  exact hof

/-- Recording an attempt appends its record. -/
theorem RunLog.recorded (h : RunLog r turns s records) {d : Decided} (c : Recorded r s t a d s') :
    HistoryOf s'.history s'.aggregates
      (records ++ [completedRecord s t a c.number d.record]) :=
  h.appended c.numbered rfl (.inl rfl) c.appended

theorem RunLog.next (h : RunLog r turns s records) (hs : step r s t = .again s') :
    ∃ records', RunLog r (turns ++ [t]) s' records' := by
  obtain ⟨a, d, ⟨c⟩⟩ := step_again hs
  obtain ⟨re⟩ := c.relaunched
  have hboundary : s'.backend.map (·.boundary) = some (observedBackend r a).boundary := by
    rw [c.recorded.backend]
    rfl
  refine ⟨records ++ [completedRecord s t a c.recorded.number d.record],
    h.recorded c.recorded, ?_, ?_, ?_, by simp, ?_⟩
  · simp only [List.length_append, List.length_singleton, h.length]
  · intro record hmem
    rcases List.mem_append.1 hmem with hold | hnew
    · -- earlier turns: the boundary has not changed in this one
      obtain ⟨s₁, t₁, a₁, d₁, s₂, ht, hb, hrec⟩ := h.logged record hold
      refine ⟨s₁, t₁, a₁, d₁, s₂, List.mem_append_left _ ht, ?_, hrec⟩
      obtain ⟨selected, hsel, hsame⟩ := Option.map_eq_some_iff.1 hb
      rw [hboundary, boundary_eq_of_drift_none hsel c.noDrift, hsame]
    · obtain rfl := List.mem_singleton.1 hnew
      exact ⟨s, t, a, d, s', by simp, hboundary, c, rfl⟩
  · intro record hhead
    cases hrs : records with
    | nil =>
      have hempty : turns = [] := List.length_eq_zero_iff.1 (by rw [← h.length, hrs]; rfl)
      rw [hrs] at hhead
      cases hhead
      exact h.fresh hempty
    | cons b bs =>
      refine h.head record ?_
      rw [hrs] at hhead ⊢
      exact hhead
  · have htargets := authorizedAfter_eq_ok c.recorded.targets
    rw [re.released] at htargets
    rw [htargets, h.targets, List.length_append, List.length_singleton]
    rfl

/-- **The log of a run.** -/
theorem RunLog.of_reaches (hstart : start r observed = .again s₀)
    (h : Loop.Reaches (step r) s₀ turns s) : ∃ records, RunLog r turns s records :=
  h.invariant (I := fun turns s => ∃ records, RunLog r turns s records) (P := fun _ => True)
    ⟨[], .initial hstart⟩ (fun _ _ _ _ ⟨_, hi⟩ _ hs => hi.next hs) (fun _ _ => trivial)

/-- No attempt that another one followed was recorded as stopped by a supervision deadline. -/
theorem RunLog.decision_ne (h : RunLog r turns s records) (hmem : record ∈ records) :
    record.restartDecision.decision ≠ .noneTerminalDeadline := by
  obtain ⟨s₁, t, a, d, s₂, -, -, c, rfl⟩ := h.logged record hmem
  obtain ⟨re⟩ := c.relaunched
  exact re.decision

/-! ## Evaluating runs -/

/-- The state at the loop head after some turns, if the loop is still running. -/
def headAfter (r : Run) (observed : ℕ) (turns : List Turn) : Option LoopState :=
  match start r observed with
  | .done _ => none
  | .again s₀ =>
    match Loop.run (step r) s₀ turns with
    | .done _ => none
    | .again s => some s

/-- A run reaches a state with a property, when evaluating it says so. -/
theorem reaches_of_headAfter {p : LoopState → Prop} [DecidablePred p]
    (h : (headAfter r observed turns).any (fun s => decide (p s)) = true) :
    ∃ s₀ s, start r observed = .again s₀ ∧ Loop.Reaches (step r) s₀ turns s ∧ p s := by
  obtain ⟨s, hs, hp⟩ := (Option.any_eq_true _ _).1 h
  unfold headAfter at hs
  cases hstart : start r observed with
  | done o => simp [hstart] at hs
  | again s₀ =>
    cases hrun : Loop.run (step r) s₀ turns with
    | done o => simp [hstart, hrun] at hs
    | again s' =>
      simp only [hstart, hrun, Option.some.injEq] at hs
      subst hs
      exact ⟨s₀, s', rfl, .of_run hrun, of_decide_eq_true hp⟩

end MemCordon.Supervisor
