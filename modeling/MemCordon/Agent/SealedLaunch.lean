import MemCordon.Agent.Rejection
import MemCordon.Core.Policy

/-!
# The sealed launch on Linux

`execute_inner` prepares an attempt, starts its guardian, waits at the gate until the target is
verified, and releases it by writing one byte. It then watches the target and retires the boundary.
Every call it makes can fail, and it ends at the first that does; what it returns then is a text,
mostly under the code of the call. When the failure comes after the guardian was started, the
cleanup guard retires the attempt, and a cleanup that proves nothing wraps the text into another
one.

A launch is modelled by the results of its calls. Times are whole milliseconds of the monotonic
clock.
-/

namespace MemCordon.SealedLaunch

open CodedText Rejection

/-! ## Calls that fail under a code -/

/-- The error of a call under a code. -/
def underCode {α : Type} (code : String) (result : Except String α) : Except String α :=
  result.mapError (coded code)

/-- The error of a call under its own codes. -/
def asPrinted {α : Type} {codes : List String} (result : Except (Fault codes) α) :
    Except String α :=
  result.mapError Fault.text

/-- A check of the launch itself, under a code. -/
def ensure (code detail : String) (check : Bool) : Except String Unit :=
  if check then .ok () else .error (coded code detail)

/-- The first error of a sequence of calls. -/
def firstError : List (Except String Unit) → Except String Unit
  | [] => .ok ()
  | .ok () :: calls => firstError calls
  | .error e :: _ => .error e

/-! ## Requests and records -/

/-- `LaunchPolicyV2`, as far as the launch decides by it. -/
structure LaunchPolicy where
  absoluteDeadlineMillis : Option ℕ
  lifetime : Lifetime
  commandExitGraceMillis : ℕ
  deriving DecidableEq

abbrev AttemptId := BitVec 128

inductive GuardianTrigger
  | frontendLoss
  | providerLoss
  deriving DecidableEq

/-- What the guardian writes when it retires an attempt itself. -/
structure GuardianTerminalClaim where
  trigger : GuardianTrigger
  attemptId : AttemptId
  (cgroupKillInvoked populatedZeroObserved containmentRemoved recordRetired : Bool)
  deriving DecidableEq

def verifiedGuardianRetirement (claim : GuardianTerminalClaim) (trigger : GuardianTrigger)
    (attempt : AttemptId) (recordRetired : Bool) : Bool :=
  claim.trigger == trigger && claim.attemptId == attempt && claim.cgroupKillInvoked &&
    claim.populatedZeroObserved && claim.containmentRemoved && claim.recordRetired == recordRetired

def verifiedGuardianObservedProviderRetirement (claim : GuardianTerminalClaim)
    (attempt : AttemptId) : Bool :=
  claim.trigger == .providerLoss && claim.attemptId == attempt && !claim.cgroupKillInvoked &&
    !claim.populatedZeroObserved && claim.containmentRemoved && !claim.recordRetired

inductive ExecFailureClass
  | notFound
  | notExecutable
  | other
  deriving DecidableEq

inductive TargetExecStatus
  | succeeded
  | failed (failure : ExecFailureClass) (osCode : ℕ)
  deriving DecidableEq

/-! ## Before the guardian -/

/-- The calls that freeze an admission, made when the request has a workload contract. -/
structure AdmissionCalls where
  authenticatedBroker : Bool
  (encode plan encodeAgain : Except String Unit)
  bindPolicy : Except (Fault []) Unit

def AdmissionCalls.steps (c : AdmissionCalls) : List (Except String Unit) :=
  [ensure "MCSEALED-POLICY-ADMISSION" "authenticated broker required" c.authenticatedBroker,
    underCode "native invocation encoding failed" c.encode,
    underCode "MCSEALED-POLICY-ADMISSION" c.plan,
    underCode "native invocation encoding failed" c.encodeAgain,
    asPrinted c.bindPolicy]

/-- The codes of `AttemptCgroup::create`. -/
def cgroupCodes : List String :=
  ["MCSEALED-CGROUP-CREATE", "MCSEALED-CGROUP-READBACK", "MCSEALED-CGROUP-CONFIGURE"]

/-- The codes of the clone into the attempt's cgroup. -/
def cloneCodes : List String := ["MCSEALED-CLONE3", "MCSEALED-CALLER-MOUNT-NAMESPACE-ADOPTION"]

/-- The calls up to the fork of the guardian. -/
structure SetupCalls where
  descriptors : ℕ
  /-- The allocation of a record, when the caller brings none. -/
  recordAllocate : Option (Except String Unit)
  callerEnvelopeCaptured : Except String Unit
  admission : Option AdmissionCalls
  cgroupCreate : Except (Fault cgroupCodes) Unit
  (boundaryCreated controlSocketpair controlInode statusPipe startupSocketpair : Except String Unit)
  (duplicateFrontendPidfd cgroupOpen : Except String Unit)
  cloneIntoCgroup : Except (Fault cloneCodes) Unit
  (guardianControlPipe guardianReadyPipe guardianTerminalPipe guardianFork : Except String Unit)

def SetupCalls.steps (c : SetupCalls) : List (Except String Unit) :=
  [ensure "MCSEALED-LAUNCH-DESCRIPTOR-SET" "exact descriptor inventory required"
      (c.descriptors == 5)] ++
    c.recordAllocate.toList.map (underCode "MCSEALED-RECORD-ALLOCATE") ++
    [underCode "MCSEALED-RECORD-CALLER-ENVELOPE" c.callerEnvelopeCaptured] ++
    (c.admission.map AdmissionCalls.steps).getD [] ++
    [asPrinted c.cgroupCreate, underCode "MCSEALED-RECORD-BOUNDARY" c.boundaryCreated,
      underCode "MCSEALED-TARGET-CONTROL" c.controlSocketpair,
      underCode "MCSEALED-TARGET-CONTROL" c.controlInode,
      underCode "MCSEALED-TARGET-STATUS" c.statusPipe,
      underCode "MCSEALED-NAMESPACE-INIT-STATUS" c.startupSocketpair,
      underCode "MCSEALED-FRONTEND-PIDFD" c.duplicateFrontendPidfd,
      underCode "MCSEALED-CGROUP-OPEN" c.cgroupOpen,
      asPrinted c.cloneIntoCgroup,
      underCode "MCSEALED-GUARDIAN-CONTROL" c.guardianControlPipe,
      underCode "MCSEALED-GUARDIAN-READY" c.guardianReadyPipe,
      underCode "MCSEALED-GUARDIAN-TERMINAL" c.guardianTerminalPipe,
      underCode "MCSEALED-GUARDIAN" c.guardianFork]

/-! ## At the gate -/

/-- The codes of `wait_for_target`. -/
def namespaceInitCodes : List String :=
  ["MCSEALED-NAMESPACE-INIT-STATUS", "MCSEALED-NAMESPACE-INIT-MOUNT-ISOLATION",
    "MCSEALED-NAMESPACE-INIT-CGROUP-VIEW", "MCSEALED-NAMESPACE-INIT-PROC-MOUNT",
    "MCSEALED-NAMESPACE-INIT-SUBREAPER", "MCSEALED-NAMESPACE-INIT-TARGET-FORK",
    "MCSEALED-NAMESPACE-INIT-PIDFD", "MCSEALED-NAMESPACE-INIT-EXIT"]

/-- The codes of `verify_gated_target`. -/
def verifyCodes : List String :=
  ["MCSEALED-TARGET-CREDENTIAL-READBACK", "MCSEALED-TARGET-IDENTITY",
    "MCSEALED-TARGET-CGROUP-READBACK", "MCSEALED-TARGET-DESCRIPTORS-READBACK",
    "MCSEALED-DESCRIPTOR-SET", "MCSEALED-TARGET-CONTROL-READBACK",
    "MCSEALED-TARGET-NAMESPACE-READBACK", "MCSEALED-CGROUP-VIEW"]

def packageCodes : List String :=
  ["MCSEALED-PACKAGE-VERIFY", "MCSEALED-PACKAGE-INSPECT", "MCSEALED-PACKAGE-VERSION-MISMATCH"]

/-- The codes of `revalidate_linux`. -/
def revalidationCodes : List String :=
  packageCodes ++ ["MCSEALED-POLICY-NOT-AUTHORIZED", "MCSEALED-POLICY-EPOCH-STALE",
    "MCSEALED-POLICY-ADMISSION"]

/-- The calls that revalidate an admission and bind its checkpoint to the record. -/
structure CheckpointCalls where
  revalidate : Except (Fault revalidationCodes) Unit
  readBootId : Except (Fault []) Unit
  installedBinding : Except (Fault packageCodes) Unit
  (boundBootId boundIdentity fromSnapshot observed bindPolicyCheckpoint : Except (Fault []) Unit)

def CheckpointCalls.steps (c : CheckpointCalls) : List (Except String Unit) :=
  [asPrinted c.revalidate, asPrinted c.readBootId, asPrinted c.installedBinding,
    asPrinted c.boundBootId, asPrinted c.boundIdentity, asPrinted c.fromSnapshot,
    asPrinted c.observed, asPrinted c.bindPolicyCheckpoint]

/-- The calls from the guardian's readiness to the release. -/
structure GateCalls where
  guardianPid : ℕ
  readReady : Except String ℕ
  memberPids : Except String (List ℕ)
  guardianReady : Except String Unit
  waitForTarget : Except (Fault namespaceInitCodes) Unit
  (pidfdOpen targetCreatedGated receiveTargetReady : Except String Unit)
  verifyGatedTarget : Except (Fault verifyCodes) Unit
  (assignmentVerified resourceInheritanceVerified callerEnvelopeVerified : Except String Unit)
  clock : Except String ℕ
  checkpoint : CheckpointCalls
  /-- The write of the authorization byte. -/
  release : Except String Unit

/-- The guardian wrote its ready byte, and stands outside of the attempt's cgroup. -/
def GateCalls.guardianPlaced (c : GateCalls) : Bool :=
  match c.readReady, c.memberPids with
  | .ok byte, .ok members => byte == 1 && !members.contains c.guardianPid
  | _, _ => true

/-- The text of a failed wait for the target: a text without a code gets one. -/
def targetWaitError (error : String) : String :=
  if startsWith error "MCSEALED-" then error else coded "MCSEALED-TARGET-WAIT" error

/-- The deadline as it is checked before the release. -/
def authorizationDeadline (deadline : ℕ) (clock : Except String ℕ) : Except String Unit := do
  let now ← underCode "MCSEALED-AUTHORIZATION-CLOCK" clock
  ensure "MCSEALED-AUTHORIZATION"
    "deadline expired before authorization; target was not authorized" (decide (now < deadline))

/-- The calls at the gate; those of the checkpoint are made for an attempt with an admission. -/
def GateCalls.steps (c : GateCalls) (policy : LaunchPolicy) (admitted : Bool) :
    List (Except String Unit) :=
  [underCode "MCSEALED-GUARDIAN" (c.readReady.map fun _ => ()),
    underCode "MCSEALED-GUARDIAN-PLACEMENT" (c.memberPids.map fun _ => ()),
    ensure "MCSEALED-GUARDIAN" "guardian readiness or placement verification failed"
      c.guardianPlaced, underCode "MCSEALED-RECORD-GUARDIAN" c.guardianReady,
    (asPrinted c.waitForTarget).mapError targetWaitError,
    underCode "MCSEALED-TARGET-IDENTITY" c.pidfdOpen,
    underCode "MCSEALED-RECORD-TARGET" c.targetCreatedGated,
    underCode "MCSEALED-TARGET-READY" c.receiveTargetReady,
    asPrinted c.verifyGatedTarget,
    underCode "MCSEALED-RECORD-ASSIGNMENT" c.assignmentVerified,
    underCode "MCSEALED-RECORD-RESOURCE" c.resourceInheritanceVerified,
    underCode "MCSEALED-RECORD-CALLER-ENVELOPE" c.callerEnvelopeVerified] ++
    policy.absoluteDeadlineMillis.toList.map (fun deadline =>
    authorizationDeadline deadline c.clock) ++ (if admitted then c.checkpoint.steps else []) ++
    [underCode "MCSEALED-AUTHORIZATION" c.release]

/-! ## Watching the released target -/

/-- `exec_status_deadline`: the error before the record of the exec is waited for. -/
def execStatusDeadline (policy : LaunchPolicy) (clock : Except String ℕ) : Except String Unit :=
  match policy.absoluteDeadlineMillis with
  | none => .ok ()
  | some deadline => do
    let now ← underCode "MCSEALED-TARGET-EXEC-STATUS-CLOCK" clock
    ensure "MCSEALED-TARGET-EXEC-STATUS" "deadline expired before exec result"
      (decide (now < deadline))

/-- The code of `revoked_linux`. -/
def leaseCodes : List String := ["MCSEALED-POLICY-DRIFT"]

/-- The calls of a round of the monitor. -/
structure Round where
  revokedLinux : Except (Fault leaseCodes) Bool
  poll : Except String Bool
  clock : Except String ℕ

/-- How a round leaves the monitor. -/
inductive Turn
  | idle
  | revoked
  | exited
  | late (now : ℕ)
  deriving DecidableEq

/-- The admission is looked at only for a target that was executed. -/
def Round.revoked (r : Round) (watchesLease : Bool) : Except String Bool :=
  if watchesLease then asPrinted r.revokedLinux else .ok false

/-- The end of a round that found neither a revocation nor an exit. -/
def Round.checkDeadline (r : Round) (policy : LaunchPolicy) : Except String Turn :=
  match policy.absoluteDeadlineMillis with
  | none => .ok .idle
  | some deadline =>
    (underCode "MCSEALED-MONITOR-CLOCK" r.clock).map fun now =>
      if deadline ≤ now then .late now else .idle

/-- The poll for the target's exit. -/
def Round.pollExit (r : Round) (policy : LaunchPolicy) : Except String Turn := do
  let ready ← underCode "MCSEALED-MONITOR-POLL" r.poll
  if ready then .ok .exited else r.checkDeadline policy

/-- A round of the monitor's loop. -/
def Round.turn (r : Round) (policy : LaunchPolicy) (watchesLease : Bool) : Except String Turn := do
  let revoked ← r.revoked watchesLease
  if revoked then .ok .revoked else r.pollExit policy

/-- The monitor's loop. It is still going on when the rounds are over and none left it. -/
def monitor (policy : LaunchPolicy) (watchesLease : Bool) : List Round → Except String Turn
  | [] => .ok .idle
  | r :: rounds => do
    let turn ← r.turn policy watchesLease
    if turn = .idle then monitor policy watchesLease rounds else .ok turn

/-- A look at the attempt's cgroup, and the time after it. -/
structure Look where
  populated : Except String Bool
  now : ℕ

/-- How a wait for the cgroup to be empty stands. -/
inductive Waited
  | waiting
  | emptied
  | expired (now : ℕ)
  deriving DecidableEq

def waitUntilEmpty (deadline : ℕ) : List Look → Except String Waited
  | [] => .ok .waiting
  | look :: looks => do
    let populated ← look.populated
    if populated then
      if deadline ≤ look.now then .ok (.expired look.now) else waitUntilEmpty deadline looks
    else .ok .emptied

/-- The calls of `wait_command_exit_grace`. -/
structure GraceCalls where
  started : ℕ
  clock : Except String ℕ
  looks : List Look

/-- The end of a grace wait: still waiting, or over, with the time at which it found the attempt's
deadline exceeded. -/
inductive Grace
  | waiting
  | ended (late : Option ℕ)
  deriving DecidableEq

/-- The wait of `wait_command_exit_grace`. It finds the attempt late only when the attempt's
deadline bounds it. -/
def GraceCalls.await (c : GraceCalls) (deadline : ℕ) (bound : Bool) : Except String Grace :=
  (underCode "MCSEALED-COMMAND-EXIT-GRACE" (waitUntilEmpty deadline c.looks)).map fun
    | .waiting => .waiting
    | .emptied => .ended none
    | .expired now => .ended (if bound then some now else none)

def waitCommandExitGrace (policy : LaunchPolicy) (c : GraceCalls) : Except String Grace :=
  match policy.absoluteDeadlineMillis with
  | none => c.await (c.started + policy.commandExitGraceMillis) false
  | some deadline => do
    let now ← underCode "MCSEALED-COMMAND-EXIT-GRACE-CLOCK" c.clock
    if deadline ≤ now then .ok (.ended (some now))
    else if deadline - now ≤ policy.commandExitGraceMillis then
      c.await (c.started + (deadline - now)) true
    else c.await (c.started + policy.commandExitGraceMillis) false

/-- The calls from the release to the retirement. -/
structure WatchCalls where
  authorized : Except String Unit
  execClock : Except String ℕ
  receiveExecStatus : Except String TargetExecStatus
  rounds : List Round
  readStatus : Except String ℤ
  memoryOomKilled : Except String Bool
  grace : GraceCalls

/-- What the watch found. The attempt's deadline was exceeded when there is a time at which it was
found so. -/
structure Watched where
  execStatus : TargetExecStatus
  policyRevoked : Bool
  childStatus : Option ℤ
  memoryLimitExceeded : Bool
  late : Option ℕ
  deriving DecidableEq

/-- The status of the child: none after a revocation, 125 after the deadline. -/
def WatchCalls.childStatus (c : WatchCalls) : Turn → Except String (Option ℤ)
  | .revoked => .ok none
  | .late _ => .ok (some 125)
  | _ => (underCode "MCSEALED-MONITOR-STATUS" c.readStatus).map some

/-- The grace a command's descendants have after its exit. -/
def WatchCalls.settle (c : WatchCalls) (policy : LaunchPolicy) (memoryLimitExceeded : Bool) :
    Turn → Except String Grace
  | .exited =>
    if !memoryLimitExceeded && policy.lifetime == .command &&
        decide (0 < policy.commandExitGraceMillis) then
      waitCommandExitGrace policy c.grace
    else .ok (.ended none)
  | .late now => .ok (.ended (some now))
  | _ => .ok (.ended none)

/-- What follows the monitor's loop. -/
def WatchCalls.afterMonitor (c : WatchCalls) (policy : LaunchPolicy) (execStatus : TargetExecStatus)
    (turn : Turn) : Except String (Option Watched) := do
  let childStatus ← c.childStatus turn
  let memoryLimitExceeded ← underCode "MCSEALED-MEMORY-READBACK" c.memoryOomKilled
  let grace ← c.settle policy memoryLimitExceeded turn
  match grace with
  | .waiting => .ok none
  | .ended late =>
    .ok (some
      { execStatus, policyRevoked := turn == .revoked, childStatus, memoryLimitExceeded, late })

/-- The watch from the release on; no result while it goes on. -/
def WatchCalls.watch (c : WatchCalls) (policy : LaunchPolicy) (admitted : Bool) :
    Except String (Option Watched) := do
  underCode "MCSEALED-AUTHORIZATION-RECORD" c.authorized
  execStatusDeadline policy c.execClock
  let execStatus ← underCode "MCSEALED-TARGET-EXEC-STATUS" c.receiveExecStatus
  let turn ← monitor policy (execStatus == .succeeded && admitted) c.rounds
  if turn = .idle then .ok none else c.afterMonitor policy execStatus turn

/-! ## Retirement -/

/-- What the cleanup guard still owns. -/
structure CleanupGuard where
  (cgroup initPid guardianPid guardianControl armed : Bool)
  deriving DecidableEq

/-- The guard once the guardian runs. -/
def CleanupGuard.full : CleanupGuard := ⟨true, true, true, true, true⟩

/-- The calls that retire an attempt after the watch. -/
structure RetirementCalls where
  (killAndRetire disarm guardianReaped : Bool)
  guardianClaim : Option GuardianTerminalClaim
  /-- The attempt's cgroup is gone from the file system. -/
  boundaryAbsent : Bool
  initReaped : Bool
  (recordRetired recordRemoved : Except String Unit)
  /-- The enforcement evidence, taken for an attempt with an admission. -/
  enforcement : Except (Fault []) Unit

/-- The facts of a terminal. Those that hold of every terminal are left out. -/
structure TerminalFacts where
  childStatus : Option ℤ
  policyRevoked : Bool
  execStatus : TargetExecStatus
  (cgroupEmpty initReaped guardianReaped memoryLimitExceeded deadlineExceeded : Bool)
  deriving DecidableEq

variable (c : RetirementCalls) (attempt : AttemptId)

/-- The guardian retired the attempt after the loss of the frontend. -/
def RetirementCalls.guardianRetired : Bool :=
  c.guardianClaim.any fun claim =>
    verifiedGuardianRetirement claim .frontendLoss attempt false && c.boundaryAbsent

def RetirementCalls.frontendLossObserved : Bool :=
  c.guardianClaim.any fun claim => claim.trigger == .frontendLoss && claim.attemptId == attempt

def RetirementCalls.cgroupEmpty : Bool :=
  c.killAndRetire || c.guardianRetired attempt

/-- The guard once the guardian's control was dropped and the guardian waited for. -/
def RetirementCalls.released (c : RetirementCalls) : CleanupGuard :=
  { CleanupGuard.full with guardianControl := false, guardianPid := !c.guardianReaped }

/-- The guard once the cgroup was found empty and the init waited for. -/
def RetirementCalls.settled : CleanupGuard :=
  { c.released with cgroup := !c.cgroupEmpty attempt, initPid := !c.initReaped }

/-- What follows once the guard was disarmed. -/
def RetirementCalls.terminal (admitted : Bool)
    (w : Watched) : Except String TerminalFacts := do
  ensure "MCSEALED-FRONTEND-LOSS-AFTER-AUTHORIZATION" "authenticated loss with complete retirement"
    (!c.frontendLossObserved attempt)
  if admitted then asPrinted c.enforcement else .ok ()
  .ok
    { childStatus := w.childStatus
      policyRevoked := w.policyRevoked
      execStatus := w.execStatus
      cgroupEmpty := c.cgroupEmpty attempt
      initReaped := c.initReaped
      guardianReaped := c.guardianReaped
      memoryLimitExceeded := w.memoryLimitExceeded
      deadlineExceeded := w.late.isSome }

/-- The guardian refused: neither the provider nor the guardian retired the attempt, and the
guardian could not be told to stop. -/
def RetirementCalls.refused : Bool :=
  !c.disarm && !c.cgroupEmpty attempt

/-- The proof of retirement, and its record. -/
def RetirementCalls.steps : List (Except String Unit) :=
  [ensure "MCSEALED-BOUNDARY-NOT-RETIRED" "incomplete terminal proof"
      (c.cgroupEmpty attempt && c.initReaped && c.guardianReaped),
    underCode "MCSEALED-BOUNDARY-NOT-RETIRED" c.recordRetired,
    underCode "MCSEALED-BOUNDARY-NOT-RETIRED" c.recordRemoved]

/-- The retirement, with the guard it leaves. -/
def RetirementCalls.retire (admitted : Bool)
    (w : Watched) : CleanupGuard × Except String TerminalFacts :=
  if c.refused attempt then
    (c.released,
      .error (coded "MCSEALED-GUARDIAN-DISARM" "guardian did not authenticate retirement"))
  else
    match firstError (c.steps attempt) with
    | .error e => (c.settled attempt, .error e)
    | .ok () => ({ c.settled attempt with armed := false }, c.terminal attempt admitted w)

/-! ## Cleanup of a failed attempt -/

/-- The calls of `finalize_failure`. -/
structure CleanupCalls where
  (killAndRetire disarm guardianReaped : Bool)
  guardianClaim : Option GuardianTerminalClaim
  initReaped : Bool
  (recordRetired recordRemoved : Except String Unit)

variable (g : CleanupGuard) (c : CleanupCalls) (attempt : AttemptId)

def CleanupGuard.providerRetired : Bool := !g.cgroup || c.killAndRetire

def CleanupGuard.disarmed : Bool :=
  g.providerRetired c && (!g.guardianPid || (g.guardianControl && c.disarm))

def CleanupGuard.guardianReaped : Bool := !g.guardianPid || c.guardianReaped

/-- The claim is read only from a guardian that ended without being told to. -/
def CleanupGuard.guardianClaim : Option GuardianTerminalClaim :=
  if g.guardianReaped c && !g.disarmed c then c.guardianClaim else none

def CleanupGuard.guardianOwned : Bool :=
  (g.guardianClaim c).any fun claim => verifiedGuardianRetirement claim .providerLoss attempt true

def CleanupGuard.containmentRetired : Bool :=
  (g.providerRetired c && g.disarmed c) || g.guardianOwned c attempt ||
    (g.guardianClaim c).any
      (fun claim => verifiedGuardianRetirement claim .frontendLoss attempt false) ||
    (g.providerRetired c &&
      (g.guardianClaim c).any fun claim => verifiedGuardianObservedProviderRetirement claim attempt)

/-- `finalize_failure`. The record of an attempt the guardian retired is the guardian's. -/
def CleanupGuard.finalizeFailure : Except String Unit :=
  if g.armed then
    if g.containmentRetired c attempt && (!g.initPid || c.initReaped) && g.guardianReaped c then
      if g.guardianOwned c attempt then .ok () else firstError [c.recordRetired, c.recordRemoved]
    else .error "guardian/provider cleanup did not prove complete attempt retirement"
  else .ok ()

/-! ## The launch -/

/-- A launch: what was asked for, and the results of its calls. -/
structure Launch where
  attempt : AttemptId
  policy : LaunchPolicy
  setup : SetupCalls
  gate : GateCalls
  watch : WatchCalls
  retirement : RetirementCalls
  cleanup : CleanupCalls

/-- How a launch stands that did not fail. -/
inductive Outcome
  | running
  | terminal (facts : TerminalFacts)
  deriving DecidableEq

namespace Launch

variable (L : Launch)

def admitted : Bool := L.setup.admission.isSome

def afterRelease : CleanupGuard × Except String Outcome :=
  match L.watch.watch L.policy L.admitted with
  | .error e => (.full, .error e)
  | .ok none => (.full, .ok .running)
  | .ok (some w) =>
    let (guard, facts) := L.retirement.retire L.attempt L.admitted w
    (guard, facts.map .terminal)

/-- The part of the launch that the cleanup guard watches over: whether the target was released, the
guard, and the outcome. -/
def guarded : Bool × CleanupGuard × Except String Outcome :=
  match firstError (L.gate.steps L.policy L.admitted) with
  | .error e => (false, .full, .error e)
  | .ok () => (true, L.afterRelease)

/-- The text of a failure the cleanup of which failed too. -/
def notRetired (primary cleanup : String) : String :=
  coded "MCSEALED-BOUNDARY-NOT-RETIRED" ("primary=" ++ primary ++ "; cleanup=" ++ cleanup)

/-- The text of a failure after the cleanup. -/
def finalized (guard : CleanupGuard) (error : String) : String :=
  match guard.finalizeFailure L.cleanup L.attempt with
  | .ok () => error
  | .error cleanup => notRetired error cleanup

/-- `execute_inner`, with the fact whether the authorization byte was written. -/
def executeInner : Bool × Except String Outcome :=
  match firstError L.setup.steps with
  | .error e => (false, .error e)
  | .ok () => (L.guarded.1, L.guarded.2.2.mapError (L.finalized L.guarded.2.1))

/-- A launch of a command in which every call succeeds. -/
def calm : Launch where
  attempt := 1
  policy := ⟨none, .command, 1000⟩
  setup :=
    { descriptors := 5, recordAllocate := some (.ok ()), callerEnvelopeCaptured := .ok ()
      admission := none, cgroupCreate := .ok (), boundaryCreated := .ok ()
      controlSocketpair := .ok (), controlInode := .ok (), statusPipe := .ok ()
      startupSocketpair := .ok (), duplicateFrontendPidfd := .ok (), cgroupOpen := .ok ()
      cloneIntoCgroup := .ok (), guardianControlPipe := .ok (), guardianReadyPipe := .ok ()
      guardianTerminalPipe := .ok (), guardianFork := .ok () }
  gate :=
    { guardianPid := 7, readReady := .ok 1, memberPids := .ok [8], guardianReady := .ok ()
      waitForTarget := .ok (), pidfdOpen := .ok (), targetCreatedGated := .ok ()
      receiveTargetReady := .ok (), verifyGatedTarget := .ok (), assignmentVerified := .ok ()
      resourceInheritanceVerified := .ok (), callerEnvelopeVerified := .ok (), clock := .ok 0
      checkpoint := ⟨.ok (), .ok (), .ok (), .ok (), .ok (), .ok (), .ok (), .ok ()⟩
      release := .ok () }
  watch :=
    { authorized := .ok (), execClock := .ok 0, receiveExecStatus := .ok .succeeded
      rounds := [⟨.ok false, .ok true, .ok 0⟩], readStatus := .ok 0, memoryOomKilled := .ok false
      grace := ⟨0, .ok 0, [⟨.ok false, 0⟩]⟩ }
  retirement := ⟨true, true, true, none, true, true, .ok (), .ok (), .ok ()⟩
  cleanup := ⟨true, true, true, none, true, .ok (), .ok ()⟩

end Launch

end MemCordon.SealedLaunch
