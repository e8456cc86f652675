import MemCordon.Foundations.Fallible
import MemCordon.Foundations.Watch
import MemCordon.Core.Outcome

/-!
# The monitor of a private sealed attempt

The agent watches a private attempt through resources it owns: the exchange with the broker, the
pidfds of the frontend, of the namespace's init and of the target, the live grant, the attempt's
cgroup, and the relay of the standard streams. An iteration of the loop looks at them one after the
other, and returns at the first that ends the attempt.

An event is there whether or not the iteration looks at it, so `iteration` notes the events that
stand when it begins.

* `iteration_ended` is the inversion of an iteration.
* `kind_eq_select_iff_cleared` says exactly when the terminal's kind is the one that comes first.
-/

namespace MemCordon.PrivateMonitor

open Watch
open AttemptEventKind (seenIf select earlier select_eq_some_iff mem_seenIf)

/-! ## Cancellation -/

/-- What peeking at the exchange gives. -/
inductive Peek
  | closed
  | byte (value : ℕ)
  | wouldBlock
  | failed (error : String)

/-- `cancellation_requested`: the cancellation byte, or the end of the exchange. -/
def cancellationRequested : Peek → Except String Bool
  | .closed => .ok true
  | .byte 1 => .ok true
  | .byte _ => .error "MCSEALED-PRIVATE-CANCEL: invalid exchange byte"
  | .wouldBlock => .ok false
  | .failed e => .error e

inductive PrivateCancellation
  | controlled
  | frontendLost
  deriving DecidableEq

/-- `observe_cancellation`: the frontend is looked at only once cancellation was requested. -/
def observeCancellation (peek : Peek) (frontendExited : Except String Bool) :
    Except String (Option PrivateCancellation) :=
  match cancellationRequested peek with
  | .error e => .error e
  | .ok false => .ok none
  | .ok true =>
    frontendExited.map fun exited => some (if exited then .frontendLost else .controlled)

/-! ## The loop -/

/-- How the monitor of a private attempt ends. -/
inductive PrivateMonitorOutcome
  | completed
  | deadlineExceeded
  | memoryOom
  | controlledCancellation
  | frontendLost
  | revoked
  deriving DecidableEq

/-- The kind the runtime reports an outcome as. -/
def PrivateMonitorOutcome.kind : PrivateMonitorOutcome → AttemptEventKind
  | completed => .completion
  | deadlineExceeded => .deadline
  | memoryOom => .memoryLimit
  | controlledCancellation => .interruption
  | frontendLost => .interruption
  | revoked => .interruption

def PrivateCancellation.outcome : PrivateCancellation → PrivateMonitorOutcome
  | controlled => .controlledCancellation
  | frontendLost => .frontendLost

/-- Which resources the owner of the attempt holds while it monitors. -/
structure Owner where
  (namespaceInit guardian cgroup targetPidfd relay : Bool)

/-- What the loop changes: the wait status it has read, and the channel that status comes
through. -/
structure MonitorState where
  observedNativeWaitStatus : Option ℤ
  status : Bool

/-- What the probes of one iteration return, in the order in which the source makes them. Probes an
iteration does not make are not looked at. -/
structure Iteration where
  peek : Peek
  frontendAtRequest : Except String Bool
  now : ℕ
  (frontendExited initExited : Except String Bool)
  initStatus : Except String (Option ℤ)
  guardianLive : Bool
  (revoked oomKilled targetExited : Except String Bool)
  relayCompleted : Bool
  members : Except String (List ℕ)
  finalStatus : Except String (Option ℤ)
  tick : Except String Unit

def held (b : Bool) (message : String) : Except String Unit := if b then .ok () else .error message

/-- `require_target_status`: the status that was read before, or the one the channel still gives. -/
def requireTargetStatus (st : MonitorState) (read : Except String (Option ℤ)) :
    Except String MonitorState :=
  let absent :=
    "MCSEALED-PRIVATE-MONITOR: retained namespace init exited without actual target " ++
      "wait status"
  match st.observedNativeWaitStatus with
  | some _ => .ok st
  | none =>
    if st.status then
      match read with
      | .error e => .error e
      | .ok none => .error absent
      | .ok (some status) => .ok ⟨some status, false⟩
    else .error absent

/-- The init of the namespace: once it has exited, the target's status has to be there. -/
def checkInit (o : Owner) (st : MonitorState) (t : Iteration) : Except String MonitorState := do
  held o.namespaceInit "MCSEALED-PRIVATE-MONITOR: retained namespace init absent"
  let initExited ← t.initExited
  if initExited && st.status then requireTargetStatus st t.initStatus else .ok st

/-- The guardian has to live as long as the target. -/
def checkGuardian (o : Owner) (t : Iteration) : Except String Unit :=
  held (!o.guardian || t.guardianLive)
    "MCSEALED-PRIVATE-MONITOR: pinned guardian exited while target active"

/-- The relay has passed on all streams and the cgroup has no members left. -/
def Iteration.drained (t : Iteration) : Except String Bool :=
  if t.relayCompleted then t.members.map List.isEmpty else .ok false

/-- The status of the target at the end: an attempt that has drained has to have one. -/
def finalStatus (st : MonitorState) (t : Iteration) (drained : Bool) : Except String MonitorState :=
  if drained then requireTargetStatus st t.finalStatus else .ok st

def checkCompletion (o : Owner) (st : MonitorState) (t : Iteration) : Except String Bool := do
  held o.targetPidfd "MCSEALED-PRIVATE-MONITOR: target pidfd absent"
  let _ ← t.targetExited
  held o.relay "MCSEALED-PRIVATE-MONITOR: relay absent"
  let drained ← t.drained
  let _ ← finalStatus st t drained
  return drained

/-- The deadline has passed at a reading of the clock. -/
def expired (deadline : Option ℕ) (now : ℕ) : Bool := deadline.any fun d => decide (d ≤ now)

/-- A probe that answers yes. -/
def shows (probe : Except String Bool) : Bool := probe.toOption.getD false

/-- Some party has cancelled the attempt: the exchange, the frontend, or the grant. -/
def Iteration.cancelled (t : Iteration) : Bool :=
  shows (cancellationRequested t.peek) || shows t.frontendExited || shows t.revoked

def standing (deadline : Option ℕ) (t : Iteration) : List AttemptEventKind :=
  seenIf (shows t.oomKilled) .memoryLimit ++ seenIf (expired deadline t.now) .deadline ++
    seenIf t.cancelled .interruption ++ seenIf (shows t.drained) .completion

/-- What an iteration ends with: an outcome, or the error of a probe. -/
abbrev Stage (α : Type) := Watch AttemptEventKind (Except String PrivateMonitorOutcome) α

/-- End with an outcome when a condition holds. -/
def endIf (b : Bool) (outcome : PrivateMonitorOutcome) : Stage PUnit :=
  .stopWith (if b then some (.ok outcome) else none)

/-- **One iteration of `monitor_native`.** -/
def iteration (o : Owner) (deadline : Option ℕ) (st : MonitorState) (t : Iteration) :
    Stage MonitorState := do
  let _ ← .note (standing deadline t) PUnit.unit
  let cancellation ← .attempt (observeCancellation t.peek t.frontendAtRequest)
  let _ ← .stopWith (cancellation.map fun c => .ok c.outcome)
  let _ ← endIf (expired deadline t.now) .deadlineExceeded
  let frontendExited ← .attempt t.frontendExited
  let _ ← endIf frontendExited .frontendLost
  let st ← .attempt (checkInit o st t)
  let _ ← .attempt (checkGuardian o t)
  let revoked ← .attempt t.revoked
  let _ ← endIf revoked .revoked
  let _ ← .attempt (held o.cgroup "MCSEALED-PRIVATE-MONITOR: cgroup absent")
  let oomKilled ← .attempt t.oomKilled
  let _ ← endIf oomKilled .memoryOom
  let completed ← .attempt (checkCompletion o st t)
  let _ ← endIf completed .completed
  let _ ← .attempt t.tick
  .note [] st

/-! ## Inversion of an iteration -/

variable {o : Owner} {deadline : Option ℕ} {st : MonitorState} {t : Iteration}

/-- What ends an iteration, in the order in which the source looks. -/
inductive Ends (deadline : Option ℕ) (t : Iteration) : AttemptEventKind → Prop
  | requested (request : shows (cancellationRequested t.peek) = true) :
      Ends deadline t .interruption
  | deadline (free : shows (cancellationRequested t.peek) = false)
      (late : expired deadline t.now = true) : Ends deadline t .deadline
  | dropped (free : shows (cancellationRequested t.peek) = false)
      (inTime : expired deadline t.now = false) (cancelled : t.cancelled = true) :
      Ends deadline t .interruption
  | oomKilled (inTime : expired deadline t.now = false) (uncancelled : t.cancelled = false)
      (killed : shows t.oomKilled = true) : Ends deadline t .memoryLimit
  | completed (inTime : expired deadline t.now = false) (uncancelled : t.cancelled = false)
      (unkilled : shows t.oomKilled = false) (drained : shows t.drained = true) :
      Ends deadline t .completion

variable {outcome : PrivateMonitorOutcome} {seen : List AttemptEventKind}

/-- An outcome of `endIf` is its own; otherwise its condition fails and the rest goes on. -/
theorem ended_endIf_bind {b : Bool} {r : PrivateMonitorOutcome} {α : Type} {f : PUnit → Stage α} :
    (endIf b r >>= f).Ended seen (.ok outcome) ↔
      (b = true ∧ r = outcome ∧ seen = []) ∨ (b = false ∧ (f ⟨⟩).Ended seen (.ok outcome)) := by
  unfold endIf
  rw [ended_stopWith_bind]
  cases b <;> simp

theorem observeCancellation_eq_ok {peek : Peek} {probe : Except String Bool}
    {cancellation : Option PrivateCancellation}
    (h : observeCancellation peek probe = .ok cancellation) :
    shows (cancellationRequested peek) = cancellation.isSome := by
  unfold observeCancellation at h
  cases hr : cancellationRequested peek with
  | error e => simp [hr] at h
  | ok requested =>
    cases requested with
    | false =>
      simp only [hr, Except.ok.injEq] at h
      rw [← h]
      rfl
    | true =>
      simp only [hr] at h
      cases probe with
      | error e => cases h
      | ok exited =>
        cases h
        rfl

theorem checkCompletion_eq_ok {completed : Bool} (h : checkCompletion o st t = .ok completed) :
    shows t.drained = completed := by
  unfold checkCompletion at h
  obtain ⟨-, -, h⟩ := Fallible.bind_eq_ok.1 h
  obtain ⟨-, -, h⟩ := Fallible.bind_eq_ok.1 h
  obtain ⟨-, -, h⟩ := Fallible.bind_eq_ok.1 h
  obtain ⟨drained, hdrained, h⟩ := Fallible.bind_eq_ok.1 h
  obtain ⟨-, -, h⟩ := Fallible.bind_eq_ok.1 h
  cases h
  rw [hdrained]
  rfl

/-- **Inversion of an iteration.** The events seen are those that stand at its beginning, and the
outcome comes from the first probe that ends the attempt. -/
theorem iteration_ended (h : (iteration o deadline st t).Ended seen (.ok outcome)) :
    seen = standing deadline t ∧ Ends deadline t outcome.kind := by
  unfold iteration at h
  rw [ended_note_bind] at h
  obtain ⟨after, h, rfl⟩ := h
  rw [ended_attempt_bind_ok] at h
  obtain ⟨cancellation, hcancel, h⟩ := h
  have hrequest := observeCancellation_eq_ok hcancel
  rw [ended_stopWith_bind] at h
  rcases h with ⟨hsome, rfl⟩ | ⟨hnone, h⟩
  · obtain ⟨c, rfl, hout⟩ := Option.map_eq_some_iff.1 hsome
    have hkind : outcome.kind = .interruption := by
      cases hout
      cases c <;> rfl
    rw [hkind, List.append_nil]
    exact ⟨rfl, .requested hrequest⟩
  obtain rfl : cancellation = none := Option.map_eq_none_iff.1 hnone
  rw [ended_endIf_bind] at h
  rcases h with ⟨hexp, rfl, rfl⟩ | ⟨hexp, h⟩
  · rw [List.append_nil]
    exact ⟨rfl, .deadline hrequest hexp⟩
  rw [ended_attempt_bind_ok] at h
  obtain ⟨lost, hlost, h⟩ := h
  rw [ended_endIf_bind] at h
  rcases h with ⟨rfl, rfl, rfl⟩ | ⟨rfl, h⟩
  · have hcancelled : t.cancelled = true := by
      simp [Iteration.cancelled, hlost, shows, Except.toOption]
    rw [List.append_nil]
    exact ⟨rfl, .dropped hrequest hexp hcancelled⟩
  rw [ended_attempt_bind_ok] at h
  obtain ⟨st', -, h⟩ := h
  rw [ended_attempt_bind_ok] at h
  obtain ⟨-, -, h⟩ := h
  rw [ended_attempt_bind_ok] at h
  obtain ⟨revoked, hrevoked, h⟩ := h
  rw [ended_endIf_bind] at h
  rcases h with ⟨rfl, rfl, rfl⟩ | ⟨rfl, h⟩
  · have hcancelled : t.cancelled = true := by
      simp [Iteration.cancelled, hrevoked, shows, Except.toOption]
    rw [List.append_nil]
    exact ⟨rfl, .dropped hrequest hexp hcancelled⟩
  have hfree : t.cancelled = false := by
    unfold Iteration.cancelled
    rw [hrequest, hlost, hrevoked]
    rfl
  rw [ended_attempt_bind_ok] at h
  obtain ⟨-, -, h⟩ := h
  rw [ended_attempt_bind_ok] at h
  obtain ⟨killed, hkilled, h⟩ := h
  have hshows : shows t.oomKilled = killed := by rw [hkilled]; rfl
  rw [ended_endIf_bind] at h
  rcases h with ⟨rfl, rfl, rfl⟩ | ⟨rfl, h⟩
  · rw [List.append_nil]
    exact ⟨rfl, .oomKilled hexp hfree hshows⟩
  rw [ended_attempt_bind_ok] at h
  obtain ⟨completed, hcompleted, h⟩ := h
  rw [ended_endIf_bind] at h
  rcases h with ⟨rfl, rfl, rfl⟩ | ⟨rfl, h⟩
  · rw [List.append_nil]
    exact ⟨rfl, .completed hexp hfree hshows (checkCompletion_eq_ok hcompleted)⟩
  rw [ended_attempt_bind_ok] at h
  obtain ⟨-, -, h⟩ := h
  exact absurd h ended_note

/-! ## Precedence -/

/-- What has to hold for the order of the probes to be the precedence: no deadline has passed when
the exchange requests cancellation, and no OOM kill is recorded when the attempt is cancelled or
late. -/
structure Cleared (deadline : Option ℕ) (t : Iteration) : Prop where
  inTime : shows (cancellationRequested t.peek) = true → expired deadline t.now = false
  unkilled : (t.cancelled || expired deadline t.now) = true → shows t.oomKilled = false

/-- **Precedence in an iteration.** In every iteration that returns an outcome, whatever the owner
holds and has read before, the outcome's kind is the first in precedence among the events that stand
exactly when the iteration is `Cleared`. -/
theorem kind_eq_select_iff_cleared {seen : List AttemptEventKind} {outcome : PrivateMonitorOutcome}
    (h : (iteration o deadline st t).Ended seen (.ok outcome)) :
    select seen = some outcome.kind ↔ Cleared deadline t := by
  obtain ⟨rfl, hends⟩ := iteration_ended h
  have hcleared : Cleared deadline t ↔
      (shows (cancellationRequested t.peek) = true → expired deadline t.now = false) ∧
        ((t.cancelled || expired deadline t.now) = true → shows t.oomKilled = false) :=
    ⟨fun hc => ⟨hc.inTime, hc.unkilled⟩, fun hc => ⟨hc.1, hc.2⟩⟩
  rw [hcleared, select_eq_some_iff]
  generalize outcome.kind = kind at hends
  unfold standing
  cases hends with
  | requested request =>
    have hcancelled : t.cancelled = true := by simp [Iteration.cancelled, request]
    simp [earlier, request, hcancelled]
    tauto
  | deadline free late => simp [earlier, free, late]
  | dropped free inTime cancelled => simp [earlier, free, inTime, cancelled]
  | oomKilled inTime uncancelled killed => simp [earlier, inTime, uncancelled, killed]
  | completed inTime uncancelled unkilled drained =>
    simp [earlier, inTime, uncancelled, unkilled, drained]

/-- A private attempt that holds all its resources. -/
def fullOwner : Owner := ⟨true, true, true, true, true⟩

/-- An iteration at `now` in which the target runs on undisturbed. -/
def quietIteration (now : ℕ) : Iteration :=
  { peek := .wouldBlock
    frontendAtRequest := .ok false
    now := now
    frontendExited := .ok false
    initExited := .ok false
    initStatus := .ok none
    guardianLive := true
    revoked := .ok false
    oomKilled := .ok false
    targetExited := .ok false
    relayCompleted := false
    members := .ok [7]
    finalStatus := .ok none
    tick := .ok () }

/-- An attempt whose cgroup already records an OOM kill is reported as late. -/
theorem oomKill_reported_as_deadline : ∃ seen outcome, (iteration fullOwner (some 5) ⟨none, true⟩
        { quietIteration 5 with oomKilled := .ok true }).Ended seen (.ok outcome) ∧
      select seen = some .memoryLimit ∧ outcome.kind = .deadline :=
  ⟨_, _, ⟨rfl, rfl⟩, by decide, rfl⟩

theorem kind_eq_select_late : ∃ seen outcome,
      (iteration fullOwner (some 5) ⟨none, true⟩ (quietIteration 5)).Ended seen (.ok outcome) ∧
      select seen = some outcome.kind :=
  ⟨_, _, ⟨rfl, rfl⟩, (kind_eq_select_iff_cleared ⟨rfl, rfl⟩).2 ⟨by decide, by decide⟩⟩

end MemCordon.PrivateMonitor
