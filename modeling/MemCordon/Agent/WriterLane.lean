import MemCordon.Agent.PublicationLaw
import MemCordon.Foundations.Threads

/-!
# Writer lanes

`windows/attempt_store.rs`: the records of an attempt are published by one thread, which takes
snapshots from a bounded queue. Callers submit snapshots and wait for the result or not, wait until
nothing is pending, or retire the lane; a lane is quarantined after a failed publication, and when a
caller has waited for too long.

The model is one lane with its writer and any number of callers, each of which makes one call. Every
access to an atomic, a mutex, a channel or a file is an access of its own, so that a schedule can
put any other between two of them. `publish_exclusive` is `publishImage` between a read and a rename
of the record.
-/

namespace MemCordon.WriterLane

open WindowsRecord WindowsAttempt CausalDiagnostics Counter Workload

/-- The threads: the writer of the lane and the callers. -/
inductive Party
  | writer
  | caller (n : ℕ)
  deriving DecidableEq

/-- `Snapshot`, with its place among all submissions and the caller it is from. `confirm` says that
the caller waits for the completion. -/
structure Snapshot where
  (ticket submitter expectedRevision : ℕ)
  record : Record
  confirm : Bool

/-- A snapshot that became the record, with the image that was written. -/
structure Publication where
  snapshot : Snapshot
  image : Record

/-- The end of `publish` for a snapshot. -/
structure Attempt where
  snapshot : Snapshot
  ok : Bool

/-- The lane, the channels, the record on the disk, and the history. -/
structure Lane where
  /-- The lane is in the registry. -/
  registered : Bool
  registryLocked : Bool
  quarantined : Bool
  pending : ℕ
  /-- Who holds the mutex of the completion signal. -/
  guard : Option Party
  failure : Option CausalEvent
  queue : List Snapshot
  /-- The writer has not dropped its end of the queue. -/
  receiving : Bool
  completions : ℕ → Option (Except String Record)
  /-- The record before the lane was made. -/
  origin : Option Record
  /-- What was published, the last one first. -/
  images : List Publication
  /-- The snapshots that were queued, by caller, and their number. -/
  sent : ℕ → Option Snapshot
  submitted : ℕ
  /-- How many of them the writer has taken, and the one that it has not yet counted down. -/
  taken : ℕ
  working : Option Snapshot
  /-- The publications that have returned, the first one first. -/
  attempts : List Attempt
  /-- A caller has counted a snapshot that it has not yet queued. -/
  adding : Bool
  /-- A caller has found nothing pending in a lane that it has just closed. -/
  closed : Bool

/-- A lane before any call. -/
def Lane.start (origin : Option Record) : Lane where
  registered := true
  registryLocked := false
  quarantined := false
  pending := 0
  guard := none
  failure := none
  queue := []
  receiving := true
  completions _ := none
  origin := origin
  images := []
  sent _ := none
  submitted := 0
  taken := 0
  working := none
  attempts := []
  adding := false
  closed := false

def Lane.durable (s : Lane) : Option Record :=
  match s.images with
  | [] => s.origin
  | last :: _ => some last.image

/-- What the environment decides at an access: whether another lane's caller holds the registry or
the slot of the failure, the clock, the operations on files, and whether a wait has taken too
long. -/
structure Answer where
  registryBusy : Bool
  failureBusy : Bool
  moment : Moment
  /-- `PublicationGuard::acquire` and `record_path`. -/
  owned : Except WriterFailure Unit
  /-- The operations up to the rename; one that fails may have renamed. -/
  renamed : Except (WriterFailure × Bool) Unit
  readback : Except WriterFailure Unit
  expired : Bool
  /-- Every handle of the lane is dropped. -/
  dropped : Bool
  /-- `retire_writer_admission` -/
  admission : Except String Unit

abbrev Act := Thread Lane Answer

/-! ## Accesses -/

def tryLockRegistry : Act Bool := Thread.access fun s w =>
  if s.registryLocked || w.registryBusy then some (false, s) else
    some (true, { s with registryLocked := true })

def unlockRegistry : Act Unit := Thread.store fun s => { s with registryLocked := false }

/-- `try_lock` of the mutex of the completion signal. -/
def tryLock (p : Party) : Act Bool := Thread.update fun s =>
  if s.guard.isSome then (false, s) else (true, { s with guard := some p })

def lock (p : Party) : Act Unit :=
  Thread.await (fun s => s.guard.isNone) fun s => { s with guard := some p }

def unlock : Act Unit := Thread.store fun s => { s with guard := none }

def quarantine : Act Unit := Thread.store fun s => { s with quarantined := true }

/-- `quarantined.swap(true)` -/
def swapQuarantined : Act Bool :=
  Thread.update fun s => (s.quarantined, { s with quarantined := true })

/-- `pending.fetch_add(1)` -/
def addPending : Act Unit :=
  Thread.store fun s => { s with pending := s.pending + 1, adding := true }

/-- `pending.fetch_sub(1)` of a caller that could not queue its snapshot. -/
def withdrawPending : Act Unit :=
  Thread.store fun s => { s with pending := s.pending - 1, adding := false }

/-- `pending.fetch_sub(1)` of the writer. -/
def finishPending : Act Unit :=
  Thread.store fun s => { s with pending := s.pending - 1, working := none }

def pendingSnapshots : ℕ := 2

/-- The results of `try_send`. -/
inductive Sent
  | ok
  | full
  | disconnected
  deriving DecidableEq

/-- `sender.try_send` -/
def trySend (n : ℕ) (snapshot : ℕ → Snapshot) : Act Sent := Thread.update fun s =>
  if s.receiving = false then (.disconnected, s)
  else if pendingSnapshots ≤ s.queue.length then (.full, s)
  else (.ok, { s with
    queue := s.queue ++ [snapshot s.submitted]
    sent := Function.update s.sent n (some (snapshot s.submitted))
    submitted := s.submitted + 1
    adding := false })

/-- `receiver.recv`, which fails when every sender is gone. -/
def recv : Act (Option Snapshot) := Thread.access fun s w =>
  match s.queue with
  | next :: rest =>
    some (some next, { s with queue := rest, taken := s.taken + 1, working := some next })
  | [] => if w.dropped && !s.registered then some (none, s) else none

/-- `observed.recv_timeout`, which fails after the deadline and when the writer has dropped the
snapshot. -/
def recvCompletion (n : ℕ) : Act (Option (Except String Record)) := Thread.access fun s w =>
  match s.completions n with
  | some result => some (some result, s)
  | none => if w.expired then some (none, s) else none

/-- `completion.try_send` -/
def complete (n : ℕ) (result : Except String Record) : Act Unit :=
  Thread.store fun s => { s with completions := Function.update s.completions n (some result) }

def takeFailure : Act (Option CausalEvent) := Thread.access fun s w =>
  if w.failureBusy then some (none, s) else some (s.failure, { s with failure := none })

/-- The end of the writer's thread: what is still queued is dropped. -/
def hangUp : Act Unit := Thread.store fun s => { s with receiving := false, queue := [] }

/-- The load of `pending` under the mutex after the lane was quarantined. -/
def loadClosing : Act ℕ :=
  Thread.update fun s => (s.pending, if s.pending = 0 then { s with closed := true } else s)

/-- `lanes.remove` -/
def removeLane : Act Unit := Thread.store fun s => { s with registered := false }

/-! ## The writer -/

section Writer

variable [Sha256] [Wire] [TextLength Record] (generation : String)

/-- The rename of the staging file. -/
def rename (snapshot : Snapshot) (image : Record) : Act (Except WriterFailure Unit) :=
  Thread.access fun s w =>
  match w.renamed with
  | .ok () => some (.ok (), { s with images := ⟨snapshot, image⟩ :: s.images })
  | .error (failure, true) =>
    some (.error failure, { s with images := ⟨snapshot, image⟩ :: s.images })
  | .error (failure, false) => some (.error failure, s)

def publishExclusive (next : Snapshot) : Act (Except WriterFailure Record) := do
  match ← Thread.ask Answer.owned with
  | .error failure => return .error failure
  | .ok () =>
    let previous ← Thread.load Lane.durable
    let moment ← Thread.ask Answer.moment
    match publishImage generation moment previous next.record next.expectedRevision with
    | .error failure => return .error failure
    | .ok image =>
      match ← rename next image with
      | .error failure => return .error failure
      | .ok () => (·.map fun _ => image) <$> Thread.ask Answer.readback

/-- `publish` has returned. This is history, which no thread reads. -/
def settle (next : Snapshot) (ok : Bool) : Act Unit :=
  Thread.store fun s => { s with attempts := s.attempts ++ [⟨next, ok⟩] }

/-- The writer after an error of `publish`. -/
def noteFailure : Except WriterFailure Record → Act Unit
  | .ok _ => return ()
  | .error failure => do
    Thread.store fun s => { s with failure := some failure.event }
    quarantine

/-- The completion of a snapshot, for a caller that waits for it. -/
def confirm (next : Snapshot) (result : Except WriterFailure Record) : Act Unit :=
  if next.confirm then complete next.submitter (result.mapError WriterFailure.message) else
    return ()

/-- The loop of the writer's thread. -/
def writerLoop : ℕ → Act Unit
  | 0 => Thread.halt
  | fuel + 1 => do
    match ← recv with
    | none => hangUp
    | some next =>
      let quarantined ← Thread.load Lane.quarantined
      if quarantined then hangUp
      else
        let result ← publishExclusive generation next
        settle next result.isOk
        noteFailure result
        lock .writer
        finishPending
        unlock
        confirm next result
        writerLoop fuel

end Writer

/-! ## Callers -/

/-- What a call returns. A call for an attempt that has no lane any more makes another one. -/
inductive Reply
  | ok
  | error (e : String)
  | elsewhere
  deriving DecidableEq

/-- The result of a thread, with the record of the caller. -/
structure Returned where
  reply : Reply
  owner : Option Owner

/-- The registry, as `lane` finds it. -/
inductive Found
  | unavailable
  | here
  | elsewhere
  deriving DecidableEq

/-- `lane` and the other lookups in the registry. -/
def lane : Act Found := do
  let locked ← tryLockRegistry
  if locked then
    let registered ← Thread.load Lane.registered
    unlockRegistry
    return if registered then .here else .elsewhere
  else return .unavailable

def trySubmit (n : ℕ) (snapshot : ℕ → Snapshot) : Act (Except String Unit) := do
  let locked ← tryLock (.caller n)
  if locked then
    let quarantined ← Thread.load Lane.quarantined
    if quarantined then
      unlock
      return .error "attempt writer is quarantined"
    else
      addPending
      match ← trySend n snapshot with
      | .ok =>
        unlock
        return .ok ()
      | .full =>
        withdrawPending
        unlock
        return .error "attempt writer queue full"
      | .disconnected =>
        withdrawPending
        unlock
        return .error "attempt writer unavailable"
  else return .error "attempt writer completion is busy"

def submission (n : ℕ) (r : Record) (revision : ℕ) (confirm : Bool) (ticket : ℕ) : Snapshot where
  ticket := ticket
  submitter := n
  expectedRevision := r.recordRevision
  record := snapshot r revision
  confirm := confirm

/-- The caller of `commit` waits for the completion. -/
def observe (n : ℕ) (o : Owner) : Act Returned := do
  match ← recvCompletion n with
  | some (.ok record) => return ⟨.ok, some { o with record }⟩
  | some (.error e) =>
    let event ← takeFailure
    return ⟨.error e, some (o.notePersistenceFailure event)⟩
  | none =>
    quarantine
    return ⟨.error "attempt commit not confirmed; writer quarantined",
      some { o with record.causalDiagnostics := o.record.causalDiagnostics.loseWriter }⟩

/-- What `commit` and `try_commit_diagnostics` do up to the queue, with what they do after it. -/
def submitThen (n : ℕ) (o : Owner) (confirm : Bool) (next : ℕ → Act Returned) : Act Returned := do
  match ← lane with
  | .unavailable => return ⟨.error "diagnostic writer registry unavailable", some o⟩
  | .elsewhere => return ⟨.elsewhere, some o⟩
  | .here =>
    let quarantined ← Thread.load Lane.quarantined
    if quarantined then return ⟨.error "attempt writer is quarantined", some o⟩
    else
      match checkedAdd o.record.recordRevision 1 with
      | none => return ⟨.error "attempt revision exhausted", some o⟩
      | some revision =>
        match ← trySubmit n (submission n o.record revision confirm) with
        | .error e => return ⟨.error e, some o⟩
        | .ok () => next revision

def commit (n : ℕ) (o : Owner) : Act Returned := submitThen n o true fun _ => observe n o

def tryCommitDiagnostics (n : ℕ) (o : Owner) : Act Returned :=
  submitThen n o false fun revision =>
    return ⟨.ok, some { o with record := snapshot o.record revision }⟩

/-- `wait_timeout_while`: the mutex is given up for every wait. It returns whether the wait has
taken too long. -/
def waitWhilePending (n : ℕ) : ℕ → Act Bool
  | 0 => Thread.halt
  | fuel + 1 => do
    let pending ← Thread.load Lane.pending
    if pending = 0 then return false
    else
      let quarantined ← Thread.load Lane.quarantined
      if quarantined then return false
      else
        let expired ← Thread.ask Answer.expired
        if expired then return true
        else
          unlock
          lock (.caller n)
          waitWhilePending n fuel

def waitForPending (n fuel : ℕ) : Act Returned := do
  match ← lane with
  | .unavailable => return ⟨.error "attempt writer registry unavailable", none⟩
  | .elsewhere => return ⟨.ok, none⟩
  | .here =>
    lock (.caller n)
    let expired ← waitWhilePending n fuel
    let quarantined ← if expired then pure true else Thread.load Lane.quarantined
    if quarantined then
      quarantine
      let _ ← takeFailure
      unlock
      return ⟨.error "attempt cleanup publication is unconfirmed", none⟩
    else
      unlock
      return ⟨.ok, none⟩

def closeLane (n : ℕ) : Act (Except String Unit) := do
  let locked ← tryLock (.caller n)
  if locked then
    let quarantined ← swapQuarantined
    if quarantined then
      unlock
      return .error "cannot retire an unconfirmed attempt writer"
    else
      let pending ← loadClosing
      unlock
      return if pending = 0 then .ok () else .error "cannot retire an unconfirmed attempt writer"
  else return .error "attempt writer publication is completing"

def retire (n : ℕ) : Act Returned := do
  let locked ← tryLockRegistry
  if locked then
    let registered ← Thread.load Lane.registered
    let closing ← if registered then closeLane n else pure (.ok ())
    match closing with
    | .error e =>
      unlockRegistry
      return ⟨.error e, none⟩
    | .ok () =>
      removeLane
      let admission ← Thread.ask Answer.admission
      unlockRegistry
      match admission with
      | .error e => return ⟨.error e, none⟩
      | .ok () => return ⟨.ok, none⟩
  else return ⟨.error "attempt writer registry unavailable", none⟩

/-! ## The system -/

inductive Call
  | commit (o : Owner)
  | tryCommitDiagnostics (o : Owner)
  | waitForPending
  | retire

def Call.thread (n fuel : ℕ) : Call → Act Returned
  | commit o => WriterLane.commit n o
  | tryCommitDiagnostics o => WriterLane.tryCommitDiagnostics n o
  | waitForPending => WriterLane.waitForPending n fuel
  | retire => WriterLane.retire n

/-- The writer and the callers. Loops run as often as `fuel` says, which is any number. -/
def system [Sha256] [Wire] [TextLength Record] (generation : String) (origin : Option Record)
    (calls : ℕ → Call) (fuel : ℕ) :
    System Lane Answer Returned Party where
  shared := .start origin
  threads
    | .writer => do
      writerLoop generation fuel
      return ⟨.ok, none⟩
    | .caller n => (calls n).thread n fuel

end MemCordon.WriterLane
