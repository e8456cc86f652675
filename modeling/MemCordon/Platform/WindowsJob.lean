import MemCordon.Foundations.Watch
import MemCordon.Platform.Supervisor

/-!
# The Windows job object backend

The part of an attempt that follows the resumption of the target's first thread: the monitor loop
over the attempt's job object, and the forced cleanup of the job. Instants are readings of one
clock, in nanoseconds.

A cycle drains the job's completion port, looks at the direct process, at the console and, after a
bounded wait on the port, at the clock. Most outcomes end a cycle before its later probes are made.
An event is there whether or not the cycle looks at it, so `cycle` notes all events that stand when
it begins, and those that arrive with its bounded wait when it makes one. Console events sent to the
target are effects on the outside world and are left out.
-/

namespace MemCordon.WindowsJob

open Clock Supervisor
open AttemptEventKind (seenIf)

/-! ## Cleanup -/

/-- A message of the job's completion port. -/
inductive JobMessage
  | memoryLimit
  | activeProcessZero
  | other
  deriving DecidableEq

/-- One round of waiting for the job to become empty. -/
structure EmptyRound where
  active : Except String ℕ
  now : ℕ
  message : Except String (Option JobMessage)

/-- `wait_until_job_empty`: the accounting is queried before the clock is looked at. When the list
of rounds is used up, the deadline has passed. -/
def waitUntilJobEmpty (deadline : ℕ) : List EmptyRound → Except String Bool
  | [] => .ok false
  | round :: rounds =>
    match round.active with
    | .error e => .error e
    | .ok 0 => .ok true
    | .ok (_ + 1) =>
      if deadline ≤ round.now then .ok false
      else
        match round.message with
        | .error e => .error e
        | .ok (some .activeProcessZero) => .ok true
        | .ok _ => waitUntilJobEmpty deadline rounds

/-- What a forced cleanup observes. -/
structure CleanupProbes where
  /-- The reading the cleanup's deadline is counted from. -/
  clampedAt : ℕ
  terminate : Except String Unit
  /-- The wait for the direct process ends with its exit. -/
  waited : Bool
  rounds : List EmptyRound

def forceCleanup (deadline : ℕ) (p : CleanupProbes) : CleanupSummary :=
  { forceAttempted := true
    directChildReaped := p.waited
    workloadEmpty := some ((waitUntilJobEmpty deadline p.rounds).toOption.getD false)
    errors :=
      match p.terminate with
      | .ok () => []
      | .error e => [⟨"TerminateJobObject", e⟩] }

/-! ## The monitored attempt -/

/-- What is fixed for an attempt once its target runs. -/
structure Attempt where
  policy : Policy
  context : AttemptContext
  started : ℕ
  authorized : ℕ
  started_le : started ≤ authorized

/-- The variables of the monitor loop. -/
structure MonitorState where
  peak : ℕ := 0
  commandExitGraceStarted : Option ℕ := none
  workloadEmptyObserved : Bool := false

/-- The answer of a wait on the direct process with no timeout. -/
inductive ProcessWait
  | exited
  | timeout
  | failed (error : String)

def ProcessWait.isExited : ProcessWait → Bool
  | exited => true
  | _ => false

def ProcessWait.isFailed : ProcessWait → Bool
  | failed _ => true
  | _ => false

inductive ConsoleEvent
  | ctrlC
  | ctrlBreak
  | ctrlClose
  deriving DecidableEq

def ConsoleEvent.signal : ConsoleEvent → ℤ
  | ctrlClose => 15
  | _ => 2

/-- What the probes of one cycle return. Probes a cycle does not make are not looked at. -/
structure Cycle where
  /-- The reads of the port with no timeout, up to the first that gives no message. -/
  drained : List (Except String JobMessage)
  peakCommit : Except String ℕ
  /-- The readings around the grace before a termination. -/
  graceStartedAt : ℕ
  graceEndedAt : ℕ
  wait : ProcessWait
  /-- The clock when the cycle looks at the direct process. -/
  now : ℕ
  observedAt : ℕ
  exitStatus : Except String ChildTermination
  active : Except String ℕ
  exitGraceStartedAt : ℕ
  exitGraceAt : ℕ
  /-- The console event that is pending. -/
  console : Option ConsoleEvent
  /-- The answer of the bounded wait on the port. -/
  message : Except String (Option JobMessage)
  /-- The clock after the bounded wait. -/
  lateAt : ℕ
  lateObservedAt : ℕ
  cleanup : CleanupProbes

/-- What the drain of the port collected. -/
structure Drained where
  memoryDue : Bool
  workloadEmpty : Bool
  failure : Option String

def drain (workloadEmpty : Bool) : List (Except String JobMessage) → Drained
  | [] => ⟨false, workloadEmpty, none⟩
  | .error e :: _ => ⟨false, workloadEmpty, some e⟩
  | .ok .memoryLimit :: rest => { drain workloadEmpty rest with memoryDue := true }
  | .ok .activeProcessZero :: rest => drain true rest
  | .ok .other :: rest => drain workloadEmpty rest

def drainedBy (st : MonitorState) (c : Cycle) : Drained := drain st.workloadEmptyObserved c.drained

/-! ## The stages of a cycle -/

/-- What a cycle ends with: an outcome, or the error of evidence that could not be built. -/
abbrev Stage (α : Type) := Watch AttemptEventKind (Except Error RunOutcome) α

/-- The deadline has expired at a reading of the clock. -/
def Attempt.expiredAt (A : Attempt) (now : ℕ) : Bool :=
  A.policy.deadline.any fun d =>
    decide (A.context.activeDuration d ≤ elapsed A.authorized now)

variable (A : Attempt) (st : MonitorState) (c : Cycle)

/-- A limit is configured, and the drain shows that it was hit. -/
def Attempt.memoryDue : Bool :=
  A.policy.memory.isSome && (drainedBy st c).memoryDue

/-- The events that stand when a cycle begins. -/
def standing : List AttemptEventKind :=
  seenIf (A.memoryDue st c) .memoryLimit ++ seenIf (A.expiredAt c.now) .deadline ++
    seenIf (drainedBy st c).failure.isSome .monitorFailure ++
    seenIf c.wait.isFailed .monitorFailure ++ seenIf c.wait.isExited .completion ++
    seenIf c.console.isSome .interruption

/-- The events that arrive with the bounded wait of a cycle. -/
def arriving (A : Attempt) (c : Cycle) : List AttemptEventKind :=
  (match c.message with
    | .error _ => [.monitorFailure]
    | .ok message =>
      seenIf (A.policy.memory.isSome && decide (message = some .memoryLimit)) .memoryLimit) ++
    seenIf (A.expiredAt c.lateAt) .deadline

/-- The cleanup of a cycle that ends, clamped to the supervision deadline. -/
def Attempt.cleanup (A : Attempt) (c : Cycle) : CleanupSummary :=
  forceCleanup (A.context.clampDeadline A.started (ofSecs 5) c.cleanup.clampedAt) c.cleanup

/-- The sampled peak, raised to what the job reports. -/
def sampledPeak (c : Cycle) (peak : ℕ) : ℕ := max peak (c.peakCommit.toOption.getD 0)

/-- A cycle that ends at the memory limit. -/
def Attempt.limitExceeded (limit : ℕ)
    (detail : String) : Except Error RunOutcome :=
  .ok (.limitExceeded limit none (some (sampledPeak c st.peak))
    ⟨"windows-job-object", "windows-job-commit", detail ++ "; limit grace elapsed " ++
        toString (millis (elapsed c.graceStartedAt c.graceEndedAt)) ++ "ms"⟩
    c.exitStatus.toOption (A.cleanup c))

/-- A cycle that ends because a probe failed. -/
def Attempt.monitorFailed (A : Attempt) (c : Cycle) (message : String) : Except Error RunOutcome :=
  .ok (.monitorFailed message c.exitStatus.toOption (A.cleanup c))

/-- A cycle that ends at a deadline. The grace is none when the direct process had exited. -/
def Attempt.deadlineExceeded (A : Attempt) (c : Cycle) (d : DeadlinePolicy) (peak observedAt : ℕ)
    (graceElapsed : ℕ) (gracefulAction : Option String) : Except Error RunOutcome :=
  match DeadlineEvidence.new (millis d.duration) d.scope "suspended-thread-resume"
      (millis (A.context.supervisionOffset + A.context.activeDuration d))
      (millis (A.context.supervisionOffset + elapsed A.authorized observedAt))
      (millis A.policy.limitGrace) graceElapsed gracefulAction (some "terminate-job-object") with
  | some evidence =>
    .ok (.deadlineExceeded evidence c.exitStatus.toOption (A.policy.memory.map fun _ => peak)
      (A.cleanup c))
  | none =>
    .error
      { category := .monitor
        code := "MCLIMIT-DEADLINE-EVIDENCE"
        message := "deadline evidence is inconsistent" }

/-- The limit check, on what the drain collected. -/
def checkMemory : Stage PUnit :=
  if (drainedBy st c).memoryDue then
    match A.policy.memory with
    | some limit =>
      .stop [] (A.limitExceeded st c limit
        "Job Object memory notification drained before completion")
    | none => .note [] ⟨⟩
  else .note [] ⟨⟩

/-- A drain that failed ends the cycle once no limit was confirmed. -/
def checkDrain : Stage PUnit :=
  match (drainedBy st c).failure with
  | some e => .stop [] (A.monitorFailed c ("completion-port drain failed: " ++ e))
  | none => .note [] ⟨⟩

def jobEmptyAfterCompletion (workloadEmptyObserved : Bool) (active : Except String ℕ) :
    Except String Bool :=
  if workloadEmptyObserved then .ok true else active.map fun n => decide (n = 0)

/-- Whether the exit of the direct process completes the attempt by the grace, and the start of that
grace. -/
def Attempt.graceExpired : Bool × Option ℕ :=
  if A.policy.commandExitGrace = 0 then (true, st.commandExitGraceStarted)
  else
    let graceStarted := st.commandExitGraceStarted.getD c.exitGraceStartedAt
    (decide (A.policy.commandExitGrace ≤ elapsed graceStarted c.exitGraceAt), some graceStarted)

/-- The completion of an attempt whose direct process has exited. -/
def checkCompletion : Stage (Option ℕ) :=
  let child := c.exitStatus.toOption.getD .unavailable
  let peak (n : ℕ) := A.policy.memory.map fun _ => n
  match jobEmptyAfterCompletion (drainedBy st c).workloadEmpty c.active with
  | .error e =>
    let cleanup := A.cleanup c
    .stop [] (.ok (.exited child (peak st.peak)
      { cleanup with errors := cleanup.errors ++ [⟨"QueryInformationJobObject", e⟩] }))
  | .ok true =>
    .stop [] (.ok (.exited child (peak (sampledPeak c st.peak))
      { directChildReaped := true, workloadEmpty := some true }))
  | .ok false =>
    let (expired, graceStarted) := A.graceExpired st c
    if expired then .stop [] (.ok (.exited child (peak (sampledPeak c st.peak)) (A.cleanup c)))
    else .note [] graceStarted

/-- The direct process: its deadline and completion when it has exited, and a failed wait. -/
def checkProcess : Stage (Option ℕ) :=
  match c.wait with
  | .exited =>
    match A.policy.deadline with
    | some d =>
      if A.expiredAt c.now then
        .stop [] (A.deadlineExceeded c d st.peak c.observedAt 0 none)
      else checkCompletion A st c
    | none => checkCompletion A st c
  | .timeout => .note [] st.commandExitGraceStarted
  | .failed e => .stop [] (A.monitorFailed c ("direct process wait failed: " ++ e))

/-- A pending console event ends the cycle. -/
def checkConsole (A : Attempt) (c : Cycle) : Stage PUnit :=
  match c.console with
  | some event =>
    .stop [] (.ok (.interrupted ⟨event.signal⟩ c.exitStatus.toOption (A.cleanup c)))
  | none => .note [] ⟨⟩

/-- The deadline check at the end of a cycle. -/
def checkDeadline : Stage MonitorState :=
  match A.policy.deadline with
  | some d =>
    if A.expiredAt c.lateAt then
      .stop [] (A.deadlineExceeded c d st.peak c.lateObservedAt
        (millis (min (elapsed c.graceStartedAt c.graceEndedAt) A.policy.limitGrace))
        (if A.policy.limitGrace ≠ 0 then some "ctrl-break-process-group" else none))
    else .note [] st
  | none => .note [] st

/-- The bounded wait on the port, and what it answers. -/
def awaitMessage : Stage MonitorState :=
  match c.message with
  | .error e => .stop [] (A.monitorFailed c ("completion-port monitoring failed: " ++ e))
  | .ok (some .memoryLimit) =>
    match A.policy.memory with
    | some limit =>
      .stop [] (A.limitExceeded st c limit "Job Object emitted JOB_OBJECT_MSG_JOB_MEMORY_LIMIT")
    -- without a limit the loop goes round at once
    | none => .note [] st
  | .ok message =>
    checkDeadline A
      { st with
        peak := sampledPeak c st.peak
        workloadEmptyObserved :=
          st.workloadEmptyObserved || decide (message = some .activeProcessZero) } c

/-- **One cycle of the monitor loop.** -/
def cycle : Stage MonitorState := do
  let _ ← .note (standing A st c) PUnit.unit
  let _ ← checkMemory A st c
  let _ ← checkDrain A st c
  let graceStarted ← checkProcess A st c
  let _ ← checkConsole A c
  let _ ← .note (arriving A c) PUnit.unit
  awaitMessage A ⟨st.peak, graceStarted, (drainedBy st c).workloadEmpty⟩ c

end MemCordon.WindowsJob
