import MemCordon.Core.CausalDiagnostics
import MemCordon.Foundations.Runs

/-!
# Diagnostics of one attempt

The two journals of an attempt, as in `windows/diagnostics.rs`: the slot of the thread's scope,
which errors are captured into at their source, and the journal of the attempt record. `mergeInto`
moves the slot's events to the record when the slot has seen more, `observeRecord` adds an event to
the record and copies the record to the slot. `AttemptCleanup::observe_failure` of
`windows/launcher_service.rs` looks at a `LaunchAttemptError`, and every such error was captured
when it was made.

A `RefCell` is borrowed for the length of one of these functions only, none of which calls another
while it holds the borrow, so a borrow never fails here.

* `Kept` is the invariant: the slot has counted every event, the record is not ahead of it, and both
  agree on a first failure that was observed.
* `accounted`: every event is counted and the first failure stays, after every sequence of calls.
-/

namespace MemCordon.DiagnosticScope

open CausalDiagnostics Counter

/-! ## The functions -/

/-- `CURRENT`, `PHASE` and `CAPTURE_LOST` of a thread. -/
structure Local where
  current : Option Journal
  phase : ObservationPhase
  captureLost : Bool
  deriving DecidableEq

/-- The thread's values after `AttemptDiagnosticScope::enter`. -/
def enter : Local := ⟨some {}, .beforeAuthorization, false⟩

def capture (l : Local) (event : CausalEvent) : Local :=
  match l.current with
  | none => l
  | some slot =>
    let event := { event with observedPhase := l.phase }
    let slot := if event.category = .persistence then
      { slot with loss := { slot.loss with persistenceFailureObserved := true } } else slot
    { l with current := some (slot.settle (slot.observe event)) }

def mergeInto (l : Local) (target : Journal) : Journal :=
  let loss :=
    { target.loss with writerUnavailable := target.loss.writerUnavailable || l.captureLost }
  match l.current with
  | none => { target with loss }
  | some slot =>
    if target.sequence < slot.sequence then
      { slot with
        durableThroughSequence := target.durableThroughSequence
        loss := { slot.loss with
          writerUnavailable := slot.loss.writerUnavailable || loss.writerUnavailable
          persistenceFailureObserved :=
            slot.loss.persistenceFailureObserved || loss.persistenceFailureObserved } }
    else { target with loss }

def observeRecord (l : Local) (target : Journal) (note : Note) : Local × Journal :=
  let merged := mergeInto l target
  let target := merged.settle (merged.note note)
  ({ l with current := l.current.map fun _ => target }, target)

/-- The fields of the attempt record that date a failure. -/
structure RecordProgress where
  targetReleased : Bool
  resumeAttempted : Bool
  authorizationUnixMillis : Option ℕ
  deriving DecidableEq

def RecordProgress.phase (progress : RecordProgress) : ObservationPhase :=
  if progress.targetReleased then .monitoring
  else if progress.resumeAttempted then .resumeAttempted
  else if progress.authorizationUnixMillis.isSome then .authorizedBeforeResume
  else .beforeAuthorization

/-- `LaunchAttemptError`: the event that stands for it in the journals. -/
structure LaunchAttemptError where
  observation : CausalEvent
  deriving DecidableEq

/-- `LaunchAttemptError::captured`, which every constructor ends in. -/
def captured (l : Local) (failure : LaunchAttemptError) : Local := capture l failure.observation

/-- `AttemptCleanup::observe_failure`. `committed` says whether `try_commit_diagnostics` took the
record. -/
def observeFailure (l : Local) (target : Journal) (progress : RecordProgress)
    (failure : LaunchAttemptError) (committed : Bool) : Journal :=
  let merged := mergeInto l target
  let observation := { failure.observation with observedPhase := progress.phase }
  let target := if merged.sequence = 0 then merged.settle (merged.observe observation) else merged
  if committed then target else target.loseWriter

/-! ## Sequences of calls -/

/-- The journals of an attempt, and the errors that it has made so far. -/
structure State where
  scope : Local
  record : Journal
  failures : List LaunchAttemptError
  deriving DecidableEq

/-- An attempt that has entered its scope, with a new record. -/
def start : State := ⟨enter, {}, []⟩

inductive Call
  | setPhase (phase : ObservationPhase)
  | capture (event : CausalEvent)
  | fail (failure : LaunchAttemptError)
  | mergeInto
  | observeRecord (note : Note)
  | observeFailure (progress : RecordProgress) (failure : LaunchAttemptError) (committed : Bool)
  deriving DecidableEq

namespace State

def merged (s : State) : Journal := DiagnosticScope.mergeInto s.scope s.record

def step (s : State) : Call → State
  | .setPhase phase => { s with scope := { s.scope with phase } }
  | .capture event => { s with scope := DiagnosticScope.capture s.scope event }
  | .fail failure =>
    { s with scope := captured s.scope failure, failures := failure :: s.failures }
  | .mergeInto => { s with record := s.merged }
  | .observeRecord note =>
    let (scope, record) := DiagnosticScope.observeRecord s.scope s.record note
    { s with scope, record }
  | .observeFailure progress failure committed =>
    { s with record := DiagnosticScope.observeFailure s.scope s.record progress failure committed }

/-- The events that a call observes or captures. A failure is observed when nothing else was. -/
def events (s : State) : Call → ℕ
  | .capture _ | .fail _ | .observeRecord _ => 1
  | .observeFailure _ _ _ => if s.merged.sequence = 0 then 1 else 0
  | .setPhase _ | .mergeInto => 0

/-- A call that the attempt can make: an error that it observes is one that it has made. -/
def Possible (s : State) : Call → Prop
  | .observeFailure _ failure _ => failure ∈ s.failures
  | _ => True

end State

def eventCount (s : State) : List Call → ℕ
  | [] => 0
  | call :: calls => s.events call + eventCount (s.step call) calls

theorem eventCount_append_singleton (s : State) (calls : List Call) (call : Call) :
    eventCount s (calls ++ [call]) =
      eventCount s calls + (calls.foldl State.step s).events call := by
  induction calls generalizing s with
  | nil => simp [eventCount]
  | cons head calls ih =>
    simp only [List.cons_append, eventCount, ih, List.foldl_cons, Nat.add_assoc]

/-! ## One call -/

/-- The number of an event in a `u64`, which stays at its largest value. -/
def counter (count : ℕ) : ℕ := min count (u64Bound - 1)

/-- The second journal agrees with the first on a first failure that was observed. -/
def Agrees (record slot : Journal) : Prop :=
  ∀ event, record.original = .observed event → slot.original = .observed event

/-- After `count` events the slot has counted them all and the record no more, they agree on the
first failure, and an error that was made is among the events. -/
structure Kept (s : State) (slot : Journal) (count : ℕ) : Prop where
  live : s.scope.current = some slot
  counted : slot.sequence = counter count
  covered : s.record.sequence ≤ slot.sequence
  agrees : Agrees s.record slot
  failed : s.failures ≠ [] → 0 < slot.sequence

theorem counter_succ {count : ℕ} (h : counter count + 1 < u64Bound) :
    counter (count + 1) = counter count + 1 := by
  unfold counter at h ⊢
  omega

theorem counter_full {count : ℕ} (h : u64Bound ≤ counter count + 1) :
    counter (count + 1) = counter count := by
  unfold counter u64Bound at h ⊢
  omega

/-- The journal after a call that only marks its error: one more event, unless the numbers have run
out. -/
theorem settle_note {j : Journal} {count : ℕ} (hcount : j.sequence = counter count) (note : Note) :
    (j.settle (j.note note)).sequence = counter (count + 1) ∧ Agrees j
    (j.settle (j.note note)) := by
  by_cases hroom : j.sequence + 1 < u64Bound
  · rw [Journal.note_of_room j note hroom]
    refine ⟨?_, fun event hevent => Journal.noted_original hevent note⟩
    rw [counter_succ (hcount ▸ hroom), ← hcount]
    exact Journal.noted_sequence j note
  · rw [Journal.note_of_full j note (not_lt.1 hroom)]
    refine ⟨?_, fun event hevent => hevent⟩
    rw [counter_full (hcount ▸ not_lt.1 hroom)]
    exact hcount

section Kept

variable {s : State} {slot : Journal} {count : ℕ} (h : Kept s slot count)

include h

/-- A merge takes what the slot has seen. -/
theorem Kept.merged : s.merged.sequence = counter count ∧ Agrees s.record s.merged ∧
    Agrees s.merged slot := by
  unfold State.merged mergeInto
  simp only [h.live]
  split_ifs with hbehind
  · exact ⟨h.counted, h.agrees, fun _ hevent => hevent⟩
  · exact ⟨(h.covered.antisymm (not_lt.1 hbehind)).trans h.counted, fun _ hevent => hevent,
      h.agrees⟩

/-- A captured event is the next one of the slot. -/
theorem Kept.capture (event : CausalEvent) :
    ∃ slot', (DiagnosticScope.capture s.scope event).current = some slot' ∧
      slot'.sequence = counter (count + 1) ∧ s.record.sequence ≤ slot'.sequence ∧
      Agrees s.record slot' := by
  have hnext : ∀ j : Journal, j.sequence = slot.sequence → j.original = slot.original → ∀ note,
      (j.settle (j.note note)).sequence = counter (count + 1) ∧
        s.record.sequence ≤ (j.settle (j.note note)).sequence ∧
        Agrees s.record (j.settle (j.note note)) := by
    intro j hsequence horiginal note
    obtain ⟨hcount, hagrees⟩ := settle_note (hsequence.trans h.counted) note
    refine ⟨hcount, ?_, fun first hfirst => ?_⟩
    · have hcovered := h.covered
      rw [h.counted] at hcovered
      rw [hcount]
      unfold counter at hcovered ⊢
      omega
    · exact hagrees first (horiginal.trans (h.agrees first hfirst))
  unfold DiagnosticScope.capture
  simp only [h.live]
  refine ⟨_, rfl, ?_⟩
  -- the mark of a persistence failure is of no account
  split_ifs
  · refine hnext _ ?_ ?_ (.primary _) <;> rfl
  · refine hnext _ ?_ ?_ (.primary _) <;> rfl

/-- A merge that the record keeps, perhaps with a mark of loss. -/
theorem Kept.of_merged {record : Journal} (hsequence : record.sequence = s.merged.sequence)
    (horiginal : record.original = s.merged.original) :
    Kept { s with record } slot count ∧ Agrees s.record record := by
  obtain ⟨hcount, hrecord, hslot⟩ := h.merged
  refine ⟨⟨h.live, h.counted, ?_, fun event hevent => ?_, h.failed⟩, fun event hevent => ?_⟩
  · exact (hsequence.trans (hcount.trans h.counted.symm)).le
  · exact hslot event (horiginal ▸ hevent)
  · exact horiginal.trans (hrecord event hevent)

theorem Kept.observeRecord (note : Note) :
    (∃ slot', Kept (s.step (.observeRecord note)) slot' (count + 1)) ∧
      Agrees s.record (s.step (.observeRecord note)).record := by
  obtain ⟨hcount, hrecord, -⟩ := h.merged
  obtain ⟨hsequence, hagrees⟩ := settle_note hcount note
  have hlive : (s.step (.observeRecord note)).scope.current =
      some (s.merged.settle (s.merged.note note)) := by
    simp only [State.step, DiagnosticScope.observeRecord, h.live, Option.map_some]
    rfl
  refine ⟨⟨_, hlive, hsequence, le_rfl, fun _ hevent => hevent, fun _ => ?_⟩,
    fun event hevent => ?_⟩
  · rw [hsequence]
    unfold counter u64Bound
    omega
  · exact hagrees event (hrecord event hevent)

/-- An error that was made is in the slot, so that its observation only merges. -/
theorem Kept.observeFailure {progress : RecordProgress} {failure : LaunchAttemptError}
    {committed : Bool} (hmade : failure ∈ s.failures) :
    (∃ slot', Kept (s.step (.observeFailure progress failure committed)) slot'
        (count + s.events (.observeFailure progress failure committed))) ∧
      Agrees s.record (s.step (.observeFailure progress failure committed)).record := by
  have hseen : s.merged.sequence ≠ 0 := by
    rw [h.merged.1, ← h.counted]
    exact (h.failed (List.ne_nil_of_mem hmade)).ne'
  have hnone : s.events (.observeFailure progress failure committed) = 0 := if_neg hseen
  generalize hrecord : (s.step (.observeFailure progress failure committed)).record = record
  have hmerged : record = if committed then s.merged else s.merged.loseWriter := by
    rw [← hrecord]
    simp only [State.step, DiagnosticScope.observeFailure]
    rw [if_neg (show ¬ (mergeInto s.scope s.record).sequence = 0 from hseen)]
    rfl
  have hsequence : record.sequence = s.merged.sequence := by rw [hmerged]; cases committed <;> rfl
  have horiginal : record.original = s.merged.original := by rw [hmerged]; cases committed <;> rfl
  obtain ⟨hkept, hagrees⟩ := h.of_merged hsequence horiginal
  rw [hnone]
  refine ⟨⟨slot, ?_⟩, hagrees⟩
  rw [← hrecord] at hkept
  exact hkept

/-- What every possible call keeps, and the record's first failure in particular. -/
theorem Kept.step {call : Call} (hpossible : s.Possible call) :
    (∃ slot', Kept (s.step call) slot' (count + s.events call)) ∧
      Agrees s.record (s.step call).record := by
  cases call with
  | setPhase phase =>
    exact ⟨⟨slot, h.live, h.counted, h.covered, h.agrees, h.failed⟩, fun _ hevent => hevent⟩
  | capture event =>
    obtain ⟨slot', hlive, hcounted, hcovered, hagrees⟩ := h.capture event
    refine ⟨⟨slot', hlive, hcounted, hcovered, hagrees, fun _ => ?_⟩, fun _ hevent => hevent⟩
    rw [hcounted]
    unfold counter u64Bound
    omega
  | fail failure =>
    obtain ⟨slot', hlive, hcounted, hcovered, hagrees⟩ := h.capture failure.observation
    refine ⟨⟨slot', hlive, hcounted, hcovered, hagrees, fun _ => ?_⟩, fun _ hevent => hevent⟩
    rw [hcounted]
    unfold counter u64Bound
    omega
  | mergeInto =>
    obtain ⟨hkept, hagrees⟩ := h.of_merged rfl rfl
    exact ⟨⟨slot, hkept⟩, hagrees⟩
  | observeRecord note => exact h.observeRecord note
  | observeFailure progress failure committed => exact h.observeFailure hpossible

end Kept

/-! ## Every sequence of calls -/

def KeptAfter (calls : List Call) (s : State) : Prop :=
  s = calls.foldl State.step start ∧ ∃ slot, Kept s slot (eventCount start calls)

theorem keptAfter_start : KeptAfter [] start :=
  ⟨rfl, {}, rfl, rfl, le_rfl, fun _ hevent => hevent, fun h => absurd rfl h⟩

theorem KeptAfter.step {calls : List Call} {s : State} {call : Call} (h : KeptAfter calls s)
    (hpossible : s.Possible call) : KeptAfter (calls ++ [call]) (s.step call) := by
  obtain ⟨rfl, slot, hkept⟩ := h
  refine ⟨by rw [List.foldl_append]; rfl, ?_⟩
  rw [eventCount_append_singleton]
  exact (hkept.step hpossible).1

/-- **Every event is counted and the first failure stays.** After any calls that an attempt can
make, a merge gives the record the number of events so far, and a first failure that the record had
observed is never replaced. -/
theorem accounted (calls : List Call)
    (hpossible : Calls.AllAllowed State.step start State.Possible calls) :
    (∀ pre post, pre ++ post = calls →
      (pre.foldl State.step start).merged.sequence = counter (eventCount start pre)) ∧
    ∀ pre post, pre ++ post = calls → ∀ event,
      (pre.foldl State.step start).record.original = .observed event →
        (calls.foldl State.step start).record.original = .observed event := by
  have hkept : ∀ pre post, pre ++ post = calls → KeptAfter pre (pre.foldl State.step start) := by
    rintro pre post rfl
    exact Calls.invariant KeptAfter keptAfter_start (fun _ _ _ => KeptAfter.step) hpossible.left
  refine ⟨fun pre post heq => ?_, ?_⟩
  · obtain ⟨-, slot, hslot⟩ := hkept pre post heq
    exact hslot.merged.1
  · rintro pre post rfl event hevent
    -- along the rest of the calls, the first failure is an invariant beside `KeptAfter`
    have hinvariant := Calls.invariant
      (fun calls s => KeptAfter (pre ++ calls) s ∧ s.record.original = .observed event)
      ⟨(List.append_nil pre).symm ▸ hkept pre post rfl, hevent⟩ ?_ hpossible.right
    · rw [List.foldl_append]
      exact hinvariant.2
    · rintro calls s call ⟨hs, horiginal⟩ hcall
      refine ⟨?_, ?_⟩
      · rw [← List.append_assoc]
        exact hs.step hcall
      · obtain ⟨-, slot, hslot⟩ := hs
        exact (hslot.step hcall).2 event horiginal

/-- The calls of an attempt whose cleanup observes an error before it captures two more. -/
def failureThenCaptures : List Call :=
  [.fail ⟨cleanupEvent⟩, .observeFailure ⟨false, false, none⟩ ⟨cleanupEvent⟩ true,
    .capture { cleanupEvent with operation := .waitJobEmpty },
    .observeRecord (.secondary { cleanupEvent with operation := .retireGuardian }), .mergeInto]

theorem failureThenCaptures_possible :
    Calls.AllAllowed State.step start State.Possible failureThenCaptures := by
  refine .cons trivial (.cons ?_ (.cons trivial (.cons trivial (.cons trivial .nil))))
  exact List.mem_singleton_self _

/-- Three events, the first of which the record still has in the end. -/
theorem accounted_failureThenCaptures :
    (failureThenCaptures.foldl State.step start).merged.sequence = 3 ∧
      (failureThenCaptures.foldl State.step start).record.original = .observed { cleanupEvent with
        sequence := 1, observedPhase := .beforeAuthorization } := by
  obtain ⟨hcount, hfirst⟩ := accounted failureThenCaptures failureThenCaptures_possible
  exact ⟨hcount _ [] (List.append_nil _), hfirst (failureThenCaptures.take 2) _
    (List.take_append_drop ..) _ (by decide +kernel)⟩

end MemCordon.DiagnosticScope
