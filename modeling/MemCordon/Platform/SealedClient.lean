import MemCordon.Agent.SealedLaunch
import MemCordon.Platform.Supervisor

/-!
# The sealed client and its deadline

The client turns the duration of a deadline into an absolute time of the monotonic clock before it
sends the launch. The agent reads the same clock, and finds the deadline exceeded by it. From the
terminal the client builds the evidence, and it takes both of its offsets from the configured
duration.

* `late_cases` says when the agent finds an attempt late.
* `offsets_real_iff` says exactly when the deadline and the offsets of its evidence count from the
  release of the target.
-/

namespace MemCordon.SealedClient

open Clock Counter Fallible SealedLaunch
open Supervisor (AttemptContext)

/-! ## The launch -/

/-- `effective_deadline_duration`: a deadline of the attempt is never shortened. -/
def effectiveDeadlineDuration (policy : Policy) (context : AttemptContext)
    (setupElapsed : ℕ) : Option ℕ :=
  policy.deadline.map fun d =>
    match d.scope with
    | .attempt => d.duration
    | .supervision =>
      match context.supervisionDeadlineRemaining with
      | none => d.duration
      | some remaining => remaining - setupElapsed

/-- The deadline of `encode_launch`, in milliseconds of the monotonic clock. -/
def absoluteDeadlineMillis (budget : Option ℕ) (clock : Except String ℕ) :
    Except String (Option ℕ) :=
  match budget with
  | none => .ok none
  | some duration => do
    let now ← clock
    if asMillis duration < u64Bound then .ok (some (min (now + asMillis duration) u64Max))
    else .error "sealed deadline exceeds protocol range"

/-- `encode_launch`, as far as the agent decides by it. -/
def encodeLaunch (policy : Policy) (budget : Option ℕ) (clock : Except String ℕ) :
    Except String LaunchPolicy :=
  (absoluteDeadlineMillis budget clock).map fun deadline =>
    { absoluteDeadlineMillis := deadline
      lifetime := policy.lifetime
      commandExitGraceMillis := asMillis policy.commandExitGrace % u64Bound }

/-! ## The terminal -/

/-- What the client makes of a terminal. -/
inductive Report
  | limitExceeded (limit : ℕ)
  | deadlineExceeded (evidence : DeadlineEvidence)
  | exited (code : Option ℤ)
  deriving DecidableEq

/-- The error the client makes of a terminal. -/
inductive ReportError
  | revoked
  | spawn (failure : ExecFailureClass) (osCode : ℕ)
  | monitor (code detail : String)
  deriving DecidableEq

def deadlineEvidence (policy : Policy) : Except ReportError DeadlineEvidence :=
  match policy.deadline with
  | none =>
    .error (.monitor "MCSEALED-DEADLINE-EVIDENCE"
      "provider reported a deadline without a configured deadline")
  | some d =>
    okOr (.monitor "MCSEALED-DEADLINE-EVIDENCE" "provider deadline evidence was inconsistent")
      (DeadlineEvidence.new (asMillis d.duration % u64Bound) d.scope "provider-absolute-deadline"
        (asMillis d.duration % u64Bound) (asMillis d.duration % u64Bound)
        (asMillis policy.limitGrace % u64Bound) 0 none (some "cgroup.kill"))

/-- The end of `run`, from the terminal on. -/
def report (policy : Policy) (facts : TerminalFacts) : Except ReportError Report :=
  if facts.policyRevoked then .error .revoked
  else
    match facts.execStatus with
    | .failed failure osCode => .error (.spawn failure osCode)
    | .succeeded =>
      if facts.memoryLimitExceeded then
        (okOr (.monitor "MCSEALED-MEMORY-EVIDENCE"
          "provider reported a memory limit without a configured limit") policy.memory).map
          .limitExceeded
      else if facts.deadlineExceeded then (deadlineEvidence policy).map .deadlineExceeded
      else .ok (.exited facts.childStatus)

/-! ## When the agent finds an attempt late -/

/-- The readings of the clock in the watch of a launch, in their order. -/
def readings (c : WatchCalls) : List ℕ :=
  c.execClock.toOption.toList ++ c.rounds.filterMap (·.clock.toOption) ++
    c.grace.started :: c.grace.clock.toOption.toList ++ c.grace.looks.map Look.now

section Late

variable {policy : LaunchPolicy} {watchesLease admitted : Bool} {c : WatchCalls} {t : ℕ}

theorem turn_late {r : Round} (h : r.turn policy watchesLease = .ok (.late t)) :
    r.clock = .ok t ∧ ∃ deadline, policy.absoluteDeadlineMillis = some deadline ∧ deadline ≤ t := by
  unfold Round.turn at h
  obtain ⟨revoked, -, h⟩ := bind_eq_ok.1 h
  cases revoked with
  | true => simp at h
  | false =>
    simp only [Bool.false_eq_true, if_false, Round.pollExit] at h
    obtain ⟨ready, -, h⟩ := bind_eq_ok.1 h
    cases ready with
    | true => simp at h
    | false =>
      simp only [Bool.false_eq_true, if_false, Round.checkDeadline] at h
      cases hdeadline : policy.absoluteDeadlineMillis with
      | none => simp [hdeadline] at h
      | some deadline =>
        rw [hdeadline] at h
        obtain ⟨now, hnow, hlate⟩ := map_eq_ok.1 h
        by_cases hle : deadline ≤ now
        · rw [if_pos hle, Turn.late.injEq] at hlate
          rw [← hlate]
          exact ⟨mapError_eq_ok.1 hnow, deadline, rfl, hle⟩
        · rw [if_neg hle] at hlate
          cases hlate

/-- The loop finds the attempt late by the clock of one of its rounds. -/
theorem monitor_late {rounds : List Round}
    (h : monitor policy watchesLease rounds = .ok (.late t)) :
    (∃ r ∈ rounds, r.clock = .ok t) ∧ ∃ deadline, policy.absoluteDeadlineMillis = some deadline ∧
      deadline ≤ t := by
  induction rounds with
  | nil => simp [monitor] at h
  | cons r rounds ih =>
    unfold monitor at h
    obtain ⟨turn, hturn, h⟩ := bind_eq_ok.1 h
    by_cases hidle : turn = .idle
    · rw [if_pos hidle] at h
      obtain ⟨⟨r', hr', hclock⟩, hdeadline⟩ := ih h
      exact ⟨⟨r', List.mem_cons_of_mem _ hr', hclock⟩, hdeadline⟩
    · rw [if_neg hidle, Except.ok.injEq] at h
      rw [h] at hturn
      obtain ⟨hclock, hdeadline⟩ := turn_late hturn
      exact ⟨⟨r, List.mem_cons_self .., hclock⟩, hdeadline⟩

theorem waitUntilEmpty_expired {deadline : ℕ} {looks : List Look}
    (h : waitUntilEmpty deadline looks = .ok (.expired t)) :
    deadline ≤ t ∧ ∃ look ∈ looks, look.now = t := by
  induction looks with
  | nil => simp [waitUntilEmpty] at h
  | cons look looks ih =>
    unfold waitUntilEmpty at h
    obtain ⟨populated, -, h⟩ := bind_eq_ok.1 h
    cases populated with
    | false => simp at h
    | true =>
      rw [if_pos rfl] at h
      by_cases hle : deadline ≤ look.now
      · rw [if_pos hle, Except.ok.injEq, Waited.expired.injEq] at h
        rw [← h]
        exact ⟨hle, look, List.mem_cons_self .., rfl⟩
      · rw [if_neg hle] at h
        obtain ⟨hdeadline, look', hlook', hnow⟩ := ih h
        exact ⟨hdeadline, look', List.mem_cons_of_mem _ hlook', hnow⟩

theorem await_late {g : GraceCalls} {deadline : ℕ} {bound : Bool}
    (h : g.await deadline bound = .ok (.ended (some t))) :
    bound = true ∧ deadline ≤ t ∧ ∃ look ∈ g.looks, look.now = t := by
  obtain ⟨waited, hwaited, h⟩ := map_eq_ok.1 h
  cases waited with
  | waiting | emptied => simp at h
  | expired now =>
    cases bound with
    | false => simp at h
    | true =>
      simp only [if_true, Grace.ended.injEq, Option.some.injEq] at h
      rw [h] at hwaited
      exact ⟨rfl, waitUntilEmpty_expired (mapError_eq_ok.1 hwaited)⟩

/-- The grace wait finds the attempt late by its first reading, or after the time that was left of
the deadline then. That time counts from the wait's start, which may be earlier than the reading. -/
theorem waitCommandExitGrace_late {g : GraceCalls}
    (h : waitCommandExitGrace policy g = .ok (.ended (some t))) :
    ∃ deadline now, policy.absoluteDeadlineMillis = some deadline ∧ g.clock = .ok now ∧
        (t = now ∧ deadline ≤ t ∨
        (∃ look ∈ g.looks, look.now = t) ∧ g.started + (deadline - now) ≤ t) := by
  unfold waitCommandExitGrace at h
  cases hdeadline : policy.absoluteDeadlineMillis with
  | none =>
    rw [hdeadline] at h
    exact absurd (await_late h).1 Bool.false_ne_true
  | some deadline =>
    rw [hdeadline] at h
    obtain ⟨now, hnow, h⟩ := bind_eq_ok.1 h
    refine ⟨deadline, now, rfl, mapError_eq_ok.1 hnow, ?_⟩
    by_cases hle : deadline ≤ now
    · rw [if_pos hle, Except.ok.injEq, Grace.ended.injEq, Option.some.injEq] at h
      rw [← h]
      exact .inl ⟨rfl, hle⟩
    · rw [if_neg hle] at h
      by_cases hbound : deadline - now ≤ policy.commandExitGraceMillis
      · rw [if_pos hbound] at h
        obtain ⟨-, hwait, hlook⟩ := await_late h
        exact .inr ⟨hlook, hwait⟩
      · rw [if_neg hbound] at h
        exact absurd (await_late h).1 Bool.false_ne_true

/-- How the agent can find an attempt late at `t`: by the clock in a round of the monitor or at the
start of the grace wait, or at the end of a grace wait that the deadline bounds. -/
inductive FoundLate (policy : LaunchPolicy) (c : WatchCalls) (t : ℕ) : Prop
  | monitor (deadline : ℕ) (hdeadline : policy.absoluteDeadlineMillis = some deadline)
      (r : Round) (hr : r ∈ c.rounds) (hclock : r.clock = .ok t) (hlate : deadline ≤ t)
  | grace (deadline : ℕ) (hdeadline : policy.absoluteDeadlineMillis = some deadline)
      (hclock : c.grace.clock = .ok t) (hlate : deadline ≤ t)
  | bounded (deadline now : ℕ) (hdeadline : policy.absoluteDeadlineMillis = some deadline)
      (hclock : c.grace.clock = .ok now) (look : Look) (hlook : look ∈ c.grace.looks)
      (hnow : look.now = t) (hlate : c.grace.started + (deadline - now) ≤ t)

theorem settle_late {memory : Bool} {turn : Turn}
    (h : c.settle policy memory turn = .ok (.ended (some t))) :
    turn = .late t ∨ waitCommandExitGrace policy c.grace = .ok (.ended (some t)) := by
  cases turn with
  | idle | revoked => simp [WatchCalls.settle] at h
  | late now =>
    simp only [WatchCalls.settle, Except.ok.injEq, Grace.ended.injEq, Option.some.injEq] at h
    exact .inl (by rw [h])
  | exited =>
    unfold WatchCalls.settle at h
    dsimp only at h
    split_ifs at h
    · exact .inr h
    · cases h

/-- **The watch finds an attempt late only in one of these ways.** -/
theorem late_cases {w : Watched} (h : c.watch policy admitted = .ok (some w))
    (hlate : w.late = some t) : FoundLate policy c t := by
  unfold WatchCalls.watch at h
  obtain ⟨-, -, h⟩ := bind_eq_ok.1 h
  obtain ⟨-, -, h⟩ := bind_eq_ok.1 h
  obtain ⟨execStatus, -, h⟩ := bind_eq_ok.1 h
  obtain ⟨turn, hmonitor, h⟩ := bind_eq_ok.1 h
  by_cases hidle : turn = .idle
  · rw [if_pos hidle] at h
    cases h
  rw [if_neg hidle] at h
  unfold WatchCalls.afterMonitor at h
  obtain ⟨child, -, h⟩ := bind_eq_ok.1 h
  obtain ⟨memory, -, h⟩ := bind_eq_ok.1 h
  obtain ⟨grace, hsettle, h⟩ := bind_eq_ok.1 h
  cases grace with
  | waiting => simp at h
  | ended late =>
    simp only [Except.ok.injEq, Option.some.injEq] at h
    have hover : late = some t := by
      rw [← h] at hlate
      exact hlate
    rw [hover] at hsettle
    rcases settle_late hsettle with rfl | hwait
    · obtain ⟨⟨r, hr, hclock⟩, deadline, hdeadline, hle⟩ := monitor_late hmonitor
      exact .monitor deadline hdeadline r hr hclock hle
    · obtain ⟨deadline, now, hdeadline, hclock, ⟨rfl, hle⟩ | ⟨⟨look, hlook, hnow⟩, hle⟩⟩ :=
        waitCommandExitGrace_late hwait
      · exact .grace deadline hdeadline hclock hle
      · exact .bounded deadline now hdeadline hclock look hlook hnow hle

theorem FoundLate.mem_readings (h : FoundLate policy c t) : t ∈ readings c := by
  unfold readings
  cases h with
  | monitor deadline hdeadline r hr hclock hlate =>
    have hmem : t ∈ c.rounds.filterMap (·.clock.toOption) :=
      List.mem_filterMap.2 ⟨r, hr, by simp [hclock, Except.toOption]⟩
    simp [hmem]
  | grace deadline hdeadline hclock hlate => simp [hclock, Except.toOption]
  | bounded deadline now hdeadline hclock look hlook hnow hlate =>
    have hmem : t ∈ c.grace.looks.map Look.now := List.mem_map.2 ⟨look, hlook, hnow⟩
    simp only [List.mem_append]
    exact .inr hmem

end Late

/-! ## An attempt -/

/-- A sealed attempt: what the client asks for, its reading of the clock, and the agent's launch,
whose policy is the one the client sends. The readings of the clock that client and agent share do
not decrease and fit 64 bits. -/
structure SealedAttempt where
  policy : Policy
  context : AttemptContext
  setupElapsed : ℕ
  encodedAt : ℕ
  /-- The time of the write of the authorization byte. -/
  releasedAt : ℕ
  calls : Launch
  nondecreasing : (encodedAt :: calls.gate.clock.toOption.toList ++
    releasedAt :: readings calls.watch).Pairwise (· ≤ ·)
  fits : ∀ t ∈ readings calls.watch, t < u64Bound

namespace SealedAttempt

variable (A : SealedAttempt)

/-- The policy the client sends. -/
def sent : Except String LaunchPolicy :=
  encodeLaunch A.policy (effectiveDeadlineDuration A.policy A.context A.setupElapsed)
    (.ok A.encodedAt)

def launch (p : LaunchPolicy) : Launch := { A.calls with policy := p }

/-- The agent finds the attempt late at `late`, and the client reports `evidence`. -/
structure EndsLate (p : LaunchPolicy) (late : ℕ) (evidence : DeadlineEvidence) : Prop where
  sent : A.sent = .ok p
  watched : ∃ w, A.calls.watch.watch p A.calls.admitted = .ok (some w) ∧ w.late = some late
  reported : ∃ facts, (A.launch p).executeInner = (true, .ok (.terminal facts)) ∧
    report A.policy facts = .ok (.deadlineExceeded evidence)

/-- The deadline and its evidence count from the release: the attempt is found late no earlier than
the deadline's duration after the release, and the offsets of the evidence are those of the deadline
and of the finding. -/
structure OffsetsReal (d : DeadlinePolicy) (p : LaunchPolicy) (late : ℕ)
    (evidence : DeadlineEvidence) : Prop where
  elapsed : A.releasedAt + asMillis d.duration ≤ late
  expires : p.absoluteDeadlineMillis = some (A.releasedAt + evidence.expiresOffsetMs)
  observed : A.releasedAt + evidence.observedOffsetMs = late

variable {A} {d : DeadlinePolicy} {p : LaunchPolicy} {late : ℕ} {evidence : DeadlineEvidence}

theorem encodedAt_le_releasedAt (A : SealedAttempt) : A.encodedAt ≤ A.releasedAt := by
  have hsorted := List.pairwise_cons.1 A.nondecreasing
  exact hsorted.1 A.releasedAt (by simp)

/-- The deadline of an attempt counts from the client's reading. -/
theorem absoluteDeadlineMillis_of_sent (hdeadline : A.policy.deadline = some d)
    (hscope : d.scope = .attempt) (h : A.sent = .ok p) :
    p.absoluteDeadlineMillis = some (min (A.encodedAt + asMillis d.duration) u64Max) := by
  have hbudget : effectiveDeadlineDuration A.policy A.context A.setupElapsed = some d.duration := by
    simp [effectiveDeadlineDuration, hdeadline, hscope]
  unfold sent encodeLaunch at h
  rw [hbudget] at h
  obtain ⟨deadline, hencoded, rfl⟩ := map_eq_ok.1 h
  have hok : absoluteDeadlineMillis (some d.duration) (.ok A.encodedAt) =
      .ok (some (min (A.encodedAt + asMillis d.duration) u64Max)) := by
    simp [absoluteDeadlineMillis, bind, Except.bind, d.millis_fit]
  rw [hok, Except.ok.injEq] at hencoded
  exact hencoded.symm

theorem deadlineEvidence_of_report {policy : Policy} {facts : TerminalFacts}
    (h : report policy facts = .ok (.deadlineExceeded evidence)) :
    deadlineEvidence policy = .ok evidence := by
  unfold report at h
  cases hrevoked : facts.policyRevoked with
  | true => simp [hrevoked] at h
  | false =>
    cases hexec : facts.execStatus with
    | failed failure osCode => simp [hrevoked, hexec] at h
    | succeeded =>
      cases hmemory : facts.memoryLimitExceeded with
      | true =>
        simp only [hrevoked, hexec, hmemory, Bool.false_eq_true, if_false, if_true] at h
        obtain ⟨limit, -, hlimit⟩ := map_eq_ok.1 h
        cases hlimit
      | false =>
        cases hlate : facts.deadlineExceeded with
        | false => simp [hrevoked, hexec, hmemory, hlate] at h
        | true =>
          simp only [hrevoked, hexec, hmemory, hlate, Bool.false_eq_true, if_false, if_true] at h
          obtain ⟨built, hbuilt, heq⟩ := map_eq_ok.1 h
          rw [Report.deadlineExceeded.injEq] at heq
          rw [hbuilt, heq]

/-- Both offsets of the evidence are the configured duration. -/
theorem offsets_of_report (hdeadline : A.policy.deadline = some d) {facts : TerminalFacts}
    (h : report A.policy facts = .ok (.deadlineExceeded evidence)) :
    evidence.expiresOffsetMs = asMillis d.duration ∧
    evidence.observedOffsetMs = asMillis d.duration := by
  have hmod : asMillis d.duration % u64Bound = asMillis d.duration :=
    Nat.mod_eq_of_lt d.millis_fit
  have hevidence := deadlineEvidence_of_report h
  unfold deadlineEvidence at hevidence
  rw [hdeadline] at hevidence
  obtain ⟨-, -, -, hexpires, hobserved⟩ := DeadlineEvidence.new_eq_some (okOr_eq_ok.1 hevidence)
  rw [hexpires, hobserved, hmod]
  exact ⟨rfl, rfl⟩

theorem late_lt (h : A.EndsLate p late evidence) : late < u64Bound := by
  obtain ⟨w, hwatch, hlate⟩ := h.watched
  exact A.fits late (late_cases hwatch hlate).mem_readings

/-- **The deadline and its evidence count from the release exactly when the client read its clock in
the millisecond of the release, and the agent found the attempt late in the millisecond of its
deadline.** -/
theorem offsets_real_iff (hdeadline : A.policy.deadline = some d) (hscope : d.scope = .attempt)
    (h : A.EndsLate p late evidence) :
    A.OffsetsReal d p late evidence ↔ A.encodedAt = A.releasedAt ∧
      late = A.releasedAt + asMillis d.duration := by
  have habsolute := absoluteDeadlineMillis_of_sent hdeadline hscope h.sent
  obtain ⟨facts, -, hreport⟩ := h.reported
  obtain ⟨hexpires, hobserved⟩ := offsets_of_report hdeadline hreport
  have horder := A.encodedAt_le_releasedAt
  have hfits : late ≤ u64Max := Nat.le_sub_one_of_lt (late_lt h)
  constructor
  · intro hreal
    have hexpiry := hreal.expires
    have hfound := hreal.observed
    rw [habsolute, Option.some.injEq, hexpires] at hexpiry
    rw [hobserved] at hfound
    have hle : A.releasedAt + asMillis d.duration ≤ A.encodedAt + asMillis d.duration :=
      hexpiry ▸ min_le_left _ _
    exact ⟨by omega, hfound.symm⟩
  · rintro ⟨hencoded, hlate⟩
    refine ⟨hlate.ge, ?_, ?_⟩
    · rw [habsolute, hexpires, hencoded, min_eq_left (hlate ▸ hfits)]
    · rw [hobserved, hlate]

/-! ## Two attempts -/

def tenthSecond : DeadlinePolicy := ⟨ofMillis 100, .attempt, by decide, by decide⟩

/-- A launch that is released at `released` and found late at `found`. -/
def lateCalls (checked released found : ℕ) : Launch :=
  { Launch.calm with
    gate := { Launch.calm.gate with clock := .ok checked }
    watch := { Launch.calm.watch with
      execClock := .ok released
      rounds := [⟨.ok false, .ok false, .ok found⟩]
      grace := ⟨found, .ok found, []⟩ } }

/-- The setup of the provider takes 30 ms. -/
def delayed : SealedAttempt where
  policy := { memory := none, deadline := some tenthSecond }
  context := ⟨none, none, 0, 0, none⟩
  setupElapsed := 0
  encodedAt := 0
  releasedAt := 30
  calls := lateCalls 20 30 100
  nondecreasing := by decide
  fits := by decide

/-- The provider releases at once, and the agent looks in the millisecond of the deadline. -/
def prompt : SealedAttempt where
  policy := { memory := none, deadline := some tenthSecond }
  context := ⟨none, none, 0, 0, none⟩
  setupElapsed := 0
  encodedAt := 30
  releasedAt := 30
  calls := lateCalls 30 30 130
  nondecreasing := by decide
  fits := by decide

def lateFacts : TerminalFacts := ⟨some 125, false, .succeeded, true, true, true, false, true⟩

theorem report_lateFacts :
    ∃ evidence, report delayed.policy lateFacts = .ok (.deadlineExceeded evidence) ∧
      evidence.expiresOffsetMs = 100 ∧ evidence.observedOffsetMs = 100 :=
  ⟨_, rfl, rfl, rfl⟩

/-- The attempt is found late 70 ms after the release, and its evidence says 100 ms. -/
theorem delayed_found_early : ∃ evidence, delayed.EndsLate ⟨some 100, .command, 0⟩ 100 evidence ∧
    evidence.observedOffsetMs = 100 ∧ delayed.releasedAt + 70 = 100 ∧
    ¬ delayed.OffsetsReal tenthSecond ⟨some 100, .command, 0⟩ 100 evidence := by
  obtain ⟨evidence, hreport, hexpires, hobserved⟩ := report_lateFacts
  refine ⟨evidence, ⟨by decide, ?_, lateFacts, by decide +kernel, hreport⟩, hobserved,
    by decide, ?_⟩
  · exact ⟨⟨.succeeded, false, some 125, false, some 100⟩, by decide +kernel, rfl⟩
  · intro hreal
    have helapsed := hreal.elapsed
    exact absurd helapsed (by decide)

theorem offsets_real_prompt : ∃ evidence, prompt.EndsLate ⟨some 130, .command, 0⟩ 130 evidence ∧
    prompt.OffsetsReal tenthSecond ⟨some 130, .command, 0⟩ 130 evidence := by
  obtain ⟨evidence, hreport, -, -⟩ := report_lateFacts
  have hends : prompt.EndsLate ⟨some 130, .command, 0⟩ 130 evidence := by
    refine ⟨by decide, ?_, lateFacts, by decide +kernel, hreport⟩
    exact ⟨⟨.succeeded, false, some 125, false, some 130⟩, by decide +kernel, rfl⟩
  exact ⟨evidence, hends, (offsets_real_iff rfl rfl hends).2 ⟨rfl, by decide⟩⟩

end SealedAttempt

end MemCordon.SealedClient
