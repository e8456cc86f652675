import MemCordon.Platform.SupervisorRuns

/-!
# When another attempt is dispatched

Over every run of the supervision loop, an attempt is followed by another one only if it was
released and ended in a limit the policy restarts on, left a safe proof, and the scheduled wait
elapsed; and a finite restart limit bounds the number of attempts.

The controller asks only for a proof that is safe for a standard attempt. That the proof of a sealed
attempt also says its boundary was retired has to come from the evidence validator, which demands it
of every kind of evidence but the setup failure's. `dispatch_law` states what holds and exactly
when: the law holds over a run if and only if no attempt of the run is an `UnretiredSetupFailure`.
-/

namespace MemCordon.Supervisor

open Clock Counter

variable {r : Run} {s s' s₀ : LoopState} {t u : Turn} {a : AttemptExecution} {turns : List Turn}

/-! ## The dispatch law -/

/-- The wait that the limit event of a turn schedules. -/
def SchedulesWait (r : Run) (s : LoopState) (t : Turn) (a : AttemptExecution) (duration : ℕ) :
    Prop :=
  ∃ c c' condition kind record, s.coordinator = some c ∧
    restartCondition a.execution.outcome = some condition ∧
    c.onLimit r.arithmetic condition t.observedAt a.restartSafety {} =
      .ok (.wait duration kind, c', record)

/-- What the attempt of a turn has to be for another one to follow it. -/
structure RestartJustified (r : Run) (s : LoopState) (t : Turn) (a : AttemptExecution) : Prop where
  released : a.launch.targetReleased = true
  selected : ∃ settings condition, r.restart = .onLimits settings ∧
    restartCondition a.execution.outcome = some condition ∧
    settings.effectiveConditions.contains condition = true
  safe : a.restartSafety.isSafeFor a.launch.boundaryRequested = true
  waited : ∃ duration, SchedulesWait r s t a duration ∧
    duration ≤ elapsed t.waitStartedAt t.actualAt

/-- Attempt `turns.length + 1` is dispatched: the loop went round again on each of `turns`, and the
next turn calls the backend. -/
def Dispatched (r : Run) (s₀ : LoopState) (turns : List Turn) (u : Turn) : Prop :=
  ∃ s, Loop.Reaches (step r) s₀ turns s ∧ dispatches r s u = true

/-- Every attempt of the run was allowed to be followed by another one. -/
def DispatchLaw (r : Run) (s₀ : LoopState) (turns : List Turn) : Prop :=
  ∀ pre t post s, turns = pre ++ t :: post → Loop.Reaches (step r) s₀ pre s →
    ∃ a, t.result = .ok a ∧ RestartJustified r s t a

/-- The attempt returned a setup failure for a sealed request, with a proof that is safe for a
standard attempt but does not say the sealed boundary was retired. -/
def UnretiredSetupFailure (a : AttemptExecution) : Prop :=
  a.execution.boundaryDetail.isSetupFailure = true ∧ a.launch.boundaryRequested = .sealed ∧
    a.restartSafety.isSafe = true ∧ a.restartSafety.sealedBoundaryRetired = false

instance (a : AttemptExecution) : Decidable (UnretiredSetupFailure a) :=
  inferInstanceAs (Decidable (_ ∧ _ ∧ _ ∧ _))

/-- Results the backend returned in the turn passed validation. -/
def Turn.Validated (t : Turn) : Prop := ∀ a, t.result = .ok a → a.Validated

/-- A validated attempt that another one follows is justified unless it is an unretired setup
failure. -/
theorem justified_iff (hcount : LaunchCount r turns s) (hvalid : a.Validated)
    {d : Decided} (re : Relaunched r s t a d s') :
    RestartJustified r s t a ↔ ¬UnretiredSetupFailure a := by
  have hcheck := hvalid.checked
  obtain ⟨-, -, -, hscheduled⟩ := RestartCoordinator.onLimit_spec re.limit
  obtain ⟨heffective, hsafe, -⟩ := hscheduled re.duration re.kind rfl
  constructor
  · rintro hj ⟨-, hsealed, -, hretired⟩
    have := hj.safe
    rw [hsealed, RestartSafetyProof.isSafeFor_sealed, hretired, Bool.and_false] at this
    cases this
  · intro hno
    refine ⟨?_, ?_, ?_, ?_⟩
    · rw [hcheck.launch]
      exact re.released
    · exact ⟨_, re.condition, hcount.configured _ re.had, re.triggered, heffective⟩
    · refine RestartSafetyProof.isSafeFor_of_isSafe hsafe fun hsealed => ?_
      cases hdetail : a.execution.boundaryDetail.isSetupFailure with
      | true =>
        by_contra hretired
        exact hno ⟨hdetail, hsealed, hsafe, Bool.not_eq_true _ ▸ hretired⟩
      | false =>
        rw [hcheck.launch] at hsealed
        rw [hcheck.restartSafety] at hsafe ⊢
        exact retired_of_consistent hcheck.evidence hdetail hsealed hsafe
    · exact ⟨re.duration, ⟨re.before, re.limited, re.condition, re.kind, re.record, re.had,
        re.triggered, re.limit⟩, re.lasted⟩

/-- **The dispatch law.** In every run whose results passed validation, when an attempt is
dispatched after `turns`, the law holds over the run if and only if none of its attempts is an
unretired setup failure; and a restart limit of `n` never lets more than `n + 1` attempts be
dispatched. -/
theorem dispatch_law {observed : ℕ} (hstart : start r observed = .again s₀)
    (hdispatch : Dispatched r s₀ turns u) (hvalid : ∀ t ∈ turns, t.Validated) :
    (DispatchLaw r s₀ turns ↔ ∀ t ∈ turns, ∀ a, t.result = .ok a → ¬UnretiredSetupFailure a) ∧
    ∀ settings n, r.restart = .onLimits settings → settings.limit = .count n →
    turns.length + 1 ≤ n + 1 := by
  obtain ⟨s, hreach, -⟩ := hdispatch
  have relaunch : ∀ pre t post, turns = pre ++ t :: post →
      ∃ s₁ s₂ a d, Loop.Reaches (step r) s₀ pre s₁ ∧ t.result = .ok a ∧
        Nonempty (Relaunched r s₁ t a d s₂) := by
    rintro pre t post rfl
    obtain ⟨s₁, s₂, hpre, hstep⟩ := hreach.split
    obtain ⟨a, d, ⟨hcont⟩⟩ := step_again hstep
    exact ⟨s₁, s₂, a, d, hpre, hcont.result, hcont.relaunched⟩
  refine ⟨⟨?_, ?_⟩, ?_⟩
  · intro hlaw t ht a hres
    obtain ⟨pre, post, rfl⟩ := List.append_of_mem ht
    obtain ⟨s₁, s₂, a', d, hpre, hres', ⟨re⟩⟩ := relaunch pre t post rfl
    obtain rfl : a' = a := Except.ok.inj (hres'.symm.trans hres)
    obtain ⟨a'', hres'', hj⟩ := hlaw pre t post s₁ rfl hpre
    obtain rfl : a'' = a' := Except.ok.inj (hres''.symm.trans hres)
    exact (justified_iff (LaunchCount.of_reaches hstart hpre) (hvalid t ht a'' hres) re).1 hj
  · intro hno pre t post s₁ hsplit hpre
    have ht : t ∈ turns := by
      rw [hsplit]
      exact List.mem_append_right _ (List.mem_cons_self ..)
    obtain ⟨s₂, s₃, a, d, hpre', hres, ⟨re⟩⟩ := relaunch pre t post hsplit
    obtain rfl : s₂ = s₁ := Loop.Reaches.unique hpre' hpre
    refine ⟨a, hres, ?_⟩
    exact (justified_iff (LaunchCount.of_reaches hstart hpre) (hvalid t ht a hres) re).2
      (hno t ht a hres)
  · intro settings n hset hlimit
    have := (LaunchCount.of_reaches hstart hreach).bounded settings n hset hlimit
    omega

/-! ## A sealed attempt that is followed without retirement -/

/-- A sealed run that restarts once on a memory limit, after one second. -/
def sealedRun : Run where
  arithmetic := ⟨fun _ _ _ _ _ _ => 1000, fun _ _ => 0⟩
  platform := .linux
  policy := { memory := some 4096, boundary := .sealed }
  restart := .onLimits
    { configuredConditions := ⟨true, false⟩, effectiveConditions := ⟨true, false⟩,
      limit := .count 1 }
  resolvedBackend := none
  macosRunOriginNs := none

/-- A backend that offers the sealed boundary. -/
def sealedBackend : BackendInfo where
  name := "linux-cgroup-v2"
  containmentSupported := true
  memorySupported := true
  class_ := "hard"
  metric := "cgroup"
  startupContainment := "atomic"
  limitations := []
  boundarySupport :=
    { standard := { class_ := .standard, mechanism := "cgroup-v2" }
      sealed := .available
        { class_ := .sealed, mechanism := "linux-pid-namespace-cgroup-v2", targetGated := true,
          boundaryVerifiedBeforeAuthorization := true, frontendLossCleanupAuthority := true,
          workloadEmptyProof := true } }

/-- The facts of a sealed attempt that was released. -/
def sealedLaunch : LaunchEvidence where
  mechanism := "linux-pid-namespace-cgroup-v2"
  targetReleased := true
  containmentVerifiedBeforeAuthorization := true
  guardianStartedBeforeAuthorization := true
  boundaryRequested := .sealed
  boundaryEffective := .sealed
  boundaryAssignmentVerified := true
  boundaryReconfigurationDenied := true
  inheritedResourcesRestricted := true
  frontendLossCleanupAuthorityVerified := true

/-- A sealed attempt that ended at its memory limit, reported as a setup failure; `retired` says
whether its boundary was. -/
def sealedExecution (retired : Bool) : Execution where
  outcome := .limitExceeded 4096 none none ⟨"linux-cgroup-v2", "cgroup", "oom_kill"⟩ none
    { forceAttempted := true, directChildReaped := true, workloadEmpty := some true }
  backend := sealedBackend
  childPid := some 100
  duration := ofSecs 1
  authorizationOffset := some (ofMillis 5)
  launch := sealedLaunch
  restartSafety :=
    { directChildReaped := true, workloadEmpty := some true, helpersReaped := true,
      containmentRemoved := true, sealedBoundaryRetired := retired }
  boundaryDetail := .setupFailure "linux-pid-namespace-cgroup-v2" .sealed

/-- The turn of that attempt: it takes one second, and so does the wait after it. -/
def sealedTurn (retired : Bool) (started : ℕ) : Turn where
  attemptStarted := started
  result :=
    .ok ⟨sealedExecution retired, (sealedExecution retired).launch,
      (sealedExecution retired).restartSafety⟩
  observedAt := started + ofSecs 1
  waitStartedAt := started + ofSecs 1
  budgetAt := started + ofSecs 1
  waitResult := .ok none
  classifiedAt := started + ofSecs 2
  evidenceAt := started + ofSecs 2
  actualAt := started + ofSecs 2
  remainingAt := started + ofSecs 2
  finishedAt := started + ofSecs 2
  endedAt := started + ofSecs 2

theorem sealedTurn_validated (retired : Bool) (started : ℕ) :
    (sealedTurn retired started).Validated := by
  rintro a ⟨⟩
  cases retired <;> rfl

theorem sealedTurn_ordered (retired : Bool) (started : ℕ) :
    (sealedTurn retired started).Ordered := by
  constructor <;> simp only [sealedTurn, ofSecs, nanosPerMilli] <;> omega

/-- A second attempt is dispatched after a sealed one whose boundary was not retired. -/
theorem dispatch_law_unretired : ∃ s₀, start sealedRun 0 = .again s₀ ∧
      Dispatched sealedRun s₀ [sealedTurn false 0] (sealedTurn false (ofSecs 2)) ∧
      (∀ t ∈ [sealedTurn false 0], t.Validated) ∧
      OrderedRun [sealedTurn false 0, sealedTurn false (ofSecs 2)] ∧
      ¬DispatchLaw sealedRun s₀ [sealedTurn false 0] := by
  refine ⟨_, rfl, ⟨_, .of_run rfl, rfl⟩, ?_, ?_, ?_⟩
  · intro t ht
    obtain rfl := List.mem_singleton.1 ht
    exact sealedTurn_validated false 0
  · exact ⟨sealedTurn_ordered _ _, le_of_eq (Nat.zero_add _), sealedTurn_ordered _ _⟩
  · intro hlaw
    obtain ⟨a, ha, hj⟩ := hlaw [] _ [] _ rfl .start
    cases ha
    exact absurd hj.safe (by decide)

/-- The law holds of the same run once the boundary is retired. -/
theorem dispatch_law_retired : ∃ s₀, start sealedRun 0 = .again s₀ ∧
      Dispatched sealedRun s₀ [sealedTurn true 0] (sealedTurn true (ofSecs 2)) ∧
      DispatchLaw sealedRun s₀ [sealedTurn true 0] := by
  refine ⟨_, rfl, ⟨_, .of_run rfl, rfl⟩,
    (dispatch_law (u := sealedTurn true (ofSecs 2)) (show start sealedRun 0 = .again _ from rfl)
      ⟨_, .of_run rfl, rfl⟩ ?_).1.2 ?_⟩
  all_goals
    intro t ht
    obtain rfl := List.mem_singleton.1 ht
  · exact sealedTurn_validated true 0
  · intro a ha
    cases ha
    decide

end MemCordon.Supervisor
