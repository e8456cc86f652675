import MemCordon.Foundations.Watch
import MemCordon.Platform.Supervisor

/-!
# The Linux cgroup backend

The part of an attempt that follows the release of the target: the monitor loop over the attempt's
cgroup, and the cleanup every outcome goes through. Instants are readings of one clock, in
nanoseconds.

A turn of the loop (`cycle`) is a function of the loop's variables and of what its probes return
(`Cycle`). It is written as a series of stages in the order of the source, and each stage notes the
events its probes show, so the events of a cycle are those its probes showed before it ended.
Signals sent to the workload are effects on the outside world and are left out.

The cleanup loops test the clock before each round of probes. A round is one element of a list; when
the list is used up, the next reading is past the cleanup's deadline.
-/

namespace MemCordon.LinuxCgroup

open Clock Supervisor
open AttemptEventKind (seenIf)

/-! ## Cleanup -/

/-- How long cleanup may take. -/
def cleanupDeadline : ℕ := ofSecs 5

/-- One round of killing members by their pids. -/
structure KillRound where
  now : ℕ
  procs : Except String (List ℤ)

/-- What killing all members meets: the kernel's kill file, or the list of members. -/
inductive KillProbe
  | killFile (write : Except String Unit)
  | members (rounds : List KillRound)

/-- The errors of killing members by their pids, round by round. -/
def killRounds (deadline : ℕ) : List KillRound → List CleanupErrorRecord
  | [] => []
  | round :: rounds =>
    if deadline ≤ round.now then []
    else
      match round.procs with
      | .error e => [⟨"read-cgroup.procs", e⟩]
      | .ok [] => []
      | .ok (_ :: _) => killRounds deadline rounds

/-- `kill_all`: what it adds to the errors of the cleanup. -/
def killAll (deadline : ℕ) : KillProbe → List CleanupErrorRecord
  | .killFile (.ok ()) => []
  | .killFile (.error e) => [⟨"cgroup.kill", e⟩]
  | .members rounds => killRounds deadline (rounds.take 20)

/-- One round of waiting for the cgroup to become empty. -/
structure MemberRound where
  now : ℕ
  populated : Except String Bool
  kill : KillProbe
  after : ℕ

/-- The wait for the cgroup to become empty: whether it was seen empty, and the errors. -/
def awaitEmpty (deadline : ℕ) : List MemberRound → Bool × List CleanupErrorRecord
  | [] => (false, [])
  | round :: rounds =>
    if round.now < deadline then
      match round.populated with
      | .ok false => (true, [])
      | .error e => (false, [⟨"verify-cgroup-empty", e⟩])
      | .ok true =>
        let errors := killAll deadline round.kill
        if deadline ≤ round.after then (false, errors)
        else
          let (empty, more) := awaitEmpty deadline rounds
          (empty, errors ++ more)
    else (false, [])

/-- One round of reaping the direct child. -/
structure ReapRound where
  now : ℕ
  tryWait : Except String (Option ChildTermination)

/-- The wait for the direct child: how it ended, if that was seen, and the errors. -/
def awaitChild (deadline : ℕ) : List ReapRound → Option ChildTermination × List CleanupErrorRecord
  | [] => (none, [])
  | round :: rounds =>
    if round.now < deadline then
      match round.tryWait with
      | .ok (some status) => (some status, [])
      | .ok none => awaitChild deadline rounds
      | .error e => (none, [⟨"reap-direct-child", e⟩])
    else (none, [])

structure CleanupProbes where
  /-- The reading the cleanup's deadline is counted from. -/
  clampedAt : ℕ
  populated : Except String Bool
  kill : KillProbe
  members : List MemberRound
  reaps : List ReapRound

/-- `cleanup_workload`: the summary, and what is then known about the direct child. -/
def cleanupWorkload (stored : Option ChildTermination) (force : Bool) (deadline : ℕ)
    (p : CleanupProbes) : CleanupSummary × Option ChildTermination :=
  -- a read that fails counts as populated
  let populated := p.populated.toOption.getD true
  let killErrors := if populated then killAll deadline p.kill else []
  let (empty, memberErrors) := awaitEmpty deadline p.members
  let (child, childErrors) :=
    match stored with
    | some status => (some status, [])
    | none => awaitChild deadline p.reaps
  let late : List CleanupErrorRecord :=
    if child.isNone then [⟨"reap-direct-child", "cleanup deadline expired"⟩] else []
  ({ forceAttempted := force || populated
     directChildReaped := child.isSome
     workloadEmpty := some empty
     errors := killErrors ++ memberErrors ++ childErrors ++ late }, child)

/-! ## The monitored attempt -/

/-- The counters of `memory.events`, by name. -/
abbrev Counters := String → Option ℕ

/-- A counter, zero when it is absent. -/
def counter (c : Counters) (key : String) : ℕ := (c key).getD 0

/-- `limit_delta`: the first counter of a limit that has grown, in words. -/
def limitDelta (baseline current : Counters) : Option String :=
  (["max", "oom", "oom_kill", "oom_group_kill"].find? fun key =>
    decide (counter baseline key < counter current key)).map fun key =>
      "memory.events " ++ key ++ " increased from " ++ toString (counter baseline key) ++ " to " ++
        toString (counter current key)

/-- What is fixed for an attempt once its target was released. -/
structure Attempt where
  policy : Policy
  context : AttemptContext
  started : ℕ
  authorized : ℕ
  baseline : Option Counters
  /-- The baseline is read exactly when there is a memory limit. -/
  baseline_iff : baseline.isSome = policy.memory.isSome
  started_le : started ≤ authorized

/-- The variables of the monitor loop. -/
structure MonitorState where
  stored : Option ChildTermination := none
  peak : ℕ := 0
  pendingSignal : Option ℤ := none
  commandExitGraceStarted : Option ℕ := none

/-- What the probes of one cycle return, in the order in which the source makes them. Probes a cycle
does not make are not looked at. -/
structure Cycle where
  tryWait : Except String (Option ChildTermination)
  firstEvents : Except String Counters
  /-- The reading the deadline is checked against. -/
  deadlineAt : ℕ
  graceStartedAt : ℕ
  graceBoundAt : ℕ
  /-- What the signal source gives in a limit or deadline branch: during the grace, or at once when
  there is none. -/
  branchSignal : Option ℤ
  cleanup : CleanupProbes
  observedAt : ℕ
  graceEndedAt : ℕ
  secondEvents : Except String Counters
  (current peakRead : Except String ℕ)
  /-- What the signal source gives when no limit or deadline branch is taken. -/
  signal : Option ℤ
  populated : Except String Bool
  exitGraceStartedAt : ℕ
  exitGraceAt : ℕ
  /-- What the wait at the end of the cycle gives. -/
  nextSignal : Option ℤ

/-- The readings of a cycle do not decrease. -/
structure Cycle.Ordered (A : Attempt) (c : Cycle) : Prop where
  deadline : A.authorized ≤ c.deadlineAt
  graceStarted : c.deadlineAt ≤ c.graceStartedAt
  graceBound : c.graceStartedAt ≤ c.graceBoundAt
  clamped : c.graceBoundAt ≤ c.cleanup.clampedAt
  members : ∀ round ∈ c.cleanup.members, c.cleanup.clampedAt ≤ round.now
  reaps : ∀ round ∈ c.cleanup.reaps, c.cleanup.clampedAt ≤ round.now
  observed : c.cleanup.clampedAt ≤ c.observedAt
  graceEnded : c.observedAt ≤ c.graceEndedAt

/-! ## The stages of a cycle -/

/-- What a cycle ends with: an outcome, or the error of evidence that could not be built. -/
abbrev Stage (α : Type) := Watch AttemptEventKind (Except Error RunOutcome) α

def failureSeen {α : Type} : Except String α → List AttemptEventKind
  | .ok _ => []
  | .error _ => [.monitorFailure]

def signalSeen : Option ℤ → List AttemptEventKind
  | some _ => [.interruption]
  | none => []

/-- The cleanup of a cycle that ends, clamped to the supervision deadline. -/
def Attempt.cleanup (A : Attempt) (stored : Option ChildTermination) (force : Bool) (c : Cycle) :
    CleanupSummary × Option ChildTermination :=
  cleanupWorkload stored force
    (A.context.clampDeadline A.started cleanupDeadline c.cleanup.clampedAt) c.cleanup

/-- The direct child, as `try_reap` leaves it, and the text of a failed wait. -/
structure Reaped where
  stored : Option ChildTermination
  failure : Option String

def tryReap (st : MonitorState) (c : Cycle) : Stage Reaped :=
  match st.stored with
  | some status => .note [] ⟨some status, none⟩
  | none =>
    match c.tryWait with
    | .ok status => .note [] ⟨status, none⟩
    | .error e => .note [.monitorFailure] ⟨none, some ("direct-child wait failed: " ++ e)⟩

/-- A read of `memory.events` shows a limit that was hit. -/
def Attempt.confirms (A : Attempt) (read : Except String Counters) : Bool :=
  A.baseline.any fun baseline =>
    read.toOption.any fun events => (limitDelta baseline events).isSome

/-- What a read of `memory.events` shows; it is made only with a memory limit. -/
def Attempt.eventsSeen (A : Attempt) (read : Except String Counters) : List AttemptEventKind :=
  if A.baseline.isSome then failureSeen read ++ seenIf (A.confirms read) .memoryLimit else []

def Attempt.expired (A : Attempt) (c : Cycle) (d : DeadlinePolicy) : Bool :=
  decide (A.context.activeDuration d ≤ elapsed A.authorized c.deadlineAt)

/-- A grace, clamped to what is left of the supervision deadline. -/
def Attempt.clampGrace (A : Attempt) (grace now : ℕ) : ℕ :=
  match A.context.supervisionDeadline A.started with
  | none => grace
  | some deadline => min grace (deadline - now)

/-- The evidence of a deadline that expired during the attempt. -/
def Attempt.deadlineEvidence (A : Attempt) (c : Cycle) (d : DeadlinePolicy) :
    Option DeadlineEvidence :=
  DeadlineEvidence.new (millis d.duration) d.scope "installed-cli-release-byte"
    (millis (A.context.supervisionOffset + A.context.activeDuration d))
    (millis (A.context.supervisionOffset + elapsed A.authorized c.observedAt))
    (millis A.policy.limitGrace)
    (millis (min (elapsed c.graceStartedAt c.graceEndedAt)
      (A.clampGrace A.policy.limitGrace c.graceBoundAt)))
    (if A.policy.limitGrace ≠ 0 then some "sigterm-process-group" else none) (some "cgroup-kill")

variable (A : Attempt) (st : MonitorState) (c : Cycle)

/-- What the deadline branch ends with. -/
def Attempt.deadlineOutcome (stored : Option ChildTermination) (d : DeadlinePolicy) :
    Except Error RunOutcome :=
  let (cleanup, child) := A.cleanup stored true c
  match c.branchSignal with
  | some signal => .ok (.interrupted ⟨signal⟩ child cleanup)
  | none =>
    match A.deadlineEvidence c d with
    | some evidence =>
      .ok (.deadlineExceeded evidence child (A.policy.memory.map fun _ => st.peak) cleanup)
    | none =>
      .error
        { category := .monitor
          code := "MCLIMIT-DEADLINE-EVIDENCE"
          message := "deadline evidence is inconsistent" }

/-- The deadline check, with the first read of `memory.events` that can defer it. -/
def checkDeadline (stored : Option ChildTermination) : Stage PUnit :=
  let first := A.eventsSeen c.firstEvents
  match A.policy.deadline with
  | none => .note first ⟨⟩
  | some d =>
    let seen := first ++ seenIf (A.expired c d) .deadline
    if A.expired c d && !A.confirms c.firstEvents then
      .stop (seen ++ signalSeen c.branchSignal) (A.deadlineOutcome st c stored d)
    else .note seen ⟨⟩

/-- A cycle that ends because a probe failed. -/
def Attempt.monitorFailed (A : Attempt) (stored : Option ChildTermination) (c : Cycle)
    (message : String) : Except Error RunOutcome :=
  let (cleanup, child) := A.cleanup stored true c
  .ok (.monitorFailed message child cleanup)

/-- The larger of the peak the kernel reports and the one that was sampled. -/
def reportedPeak (c : Cycle) (peak : ℕ) : ℕ := max (c.peakRead.toOption.getD peak) peak

/-- What the limit branch ends with. -/
def Attempt.limitOutcome (stored : Option ChildTermination) (limit : ℕ) (detail : String) :
    Except Error RunOutcome :=
  let (observed, peak, detail) :=
    match c.current with
    | .ok usage => (some usage, max st.peak usage, detail)
    | .error e =>
      (none, st.peak, detail ++ "; memory.current unavailable after confirmed limit: " ++ e)
  let (cleanup, child) := A.cleanup stored true c
  match c.branchSignal with
  | some signal => .ok (.interrupted ⟨signal⟩ child cleanup)
  | none =>
    .ok (.limitExceeded limit observed (some (reportedPeak c peak))
      ⟨"linux-cgroup-v2", "linux-cgroup-memory", detail⟩ child cleanup)

/-- The limit check, on the second read of `memory.events`. -/
def checkLimit (stored : Option ChildTermination) : Stage PUnit :=
  match A.baseline, A.policy.memory with
  | some baseline, some limit =>
    match c.secondEvents with
    | .error e =>
      .stop (A.eventsSeen c.secondEvents)
        (A.monitorFailed stored c ("memory.events read failed: " ++ e))
    | .ok events =>
      match limitDelta baseline events with
      | some detail =>
        .stop (A.eventsSeen c.secondEvents ++ failureSeen c.current ++ signalSeen c.branchSignal)
          (A.limitOutcome st c stored limit detail)
      | none => .note [] ⟨⟩
  | _, _ => .note [] ⟨⟩

/-- A failed wait ends the cycle once no limit was confirmed. -/
def checkWait (A : Attempt) (c : Cycle) (reaped : Reaped) : Stage PUnit :=
  match reaped.failure with
  | some message => .stop [] (A.monitorFailed reaped.stored c message)
  | none => .note [] ⟨⟩

/-- Sample `memory.current` into the peak. -/
def sampleUsage (stored : Option ChildTermination) : Stage ℕ :=
  match A.policy.memory with
  | none => .note [] st.peak
  | some _ =>
    match c.current with
    | .ok usage => .note [] (max st.peak usage)
    | .error e =>
      .stop [.monitorFailure] (A.monitorFailed stored c ("memory.current read failed: " ++ e))

/-- A signal that is pending, from the last wait or from the source, ends the cycle. -/
def checkSignal (stored : Option ChildTermination) : Stage PUnit :=
  match st.pendingSignal.or c.signal with
  | some signal =>
    let (cleanup, child) := A.cleanup stored true c
    .stop [.interruption] (.ok (.interrupted ⟨signal⟩ child cleanup))
  | none => .note [] ⟨⟩

/-- Whether a command that exited completes the attempt, and the start of its exit grace. -/
def Attempt.completed (workloadEmpty : Bool) : Bool × Option ℕ :=
  if A.policy.lifetime = .workload ∨ workloadEmpty = true then
    (workloadEmpty, st.commandExitGraceStarted)
  else if A.policy.commandExitGrace = 0 then (true, st.commandExitGraceStarted)
  else
    let graceStarted := st.commandExitGraceStarted.getD c.exitGraceStartedAt
    (decide (A.policy.commandExitGrace ≤ elapsed graceStarted c.exitGraceAt), some graceStarted)

/-- What a completed attempt ends with. -/
def Attempt.exited (A : Attempt) (c : Cycle) (status : ChildTermination) (peak : ℕ)
    (workloadEmpty : Bool) : Except Error RunOutcome :=
  let cleanup :=
    if workloadEmpty then { directChildReaped := true, workloadEmpty := some true }
    else (A.cleanup (some status) false c).1
  .ok (.exited status (A.policy.memory.map fun _ => reportedPeak c peak) cleanup)

/-- The completion check; what is left is the start of the command's exit grace. -/
def checkCompletion (peak : ℕ)
    (stored : Option ChildTermination) : Stage (Option ℕ) :=
  match stored with
  | none => .note [] st.commandExitGraceStarted
  | some status =>
    match c.populated with
    | .error e =>
      .stop [.monitorFailure]
        (A.monitorFailed (some status) c ("cgroup.events read failed: " ++ e))
    | .ok populated =>
      let (completed, graceStarted) := A.completed st c (!populated)
      if completed then .stop [.completion] (A.exited c status peak (!populated))
      else .note [] graceStarted

/-- **One cycle of the monitor loop.** -/
def cycle : Stage MonitorState := do
  let reaped ← tryReap st c
  let _ ← checkDeadline A st c reaped.stored
  let _ ← checkLimit A st c reaped.stored
  let _ ← checkWait A c reaped
  let peak ← sampleUsage A st c reaped.stored
  let _ ← checkSignal A st c reaped.stored
  let graceStarted ← checkCompletion A st c peak reaped.stored
  .note [] ⟨reaped.stored, peak, c.nextSignal, graceStarted⟩

/-- The monitor loop as a step function. -/
def step : Flow MonitorState (Except Error RunOutcome) :=
  (cycle A st c).flow

end MemCordon.LinuxCgroup
