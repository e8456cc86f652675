import Mathlib.Data.PNat.Defs
import MemCordon.Core.Boundary

/-!
# Runtime and policy evidence

Versioned observations a backend attaches to an attempt: the clocked life of the target
(`RuntimeEvidenceV1`) and how the workload policy was enforced (`RuntimePolicyEnforcement`). Both
come with the check that reports and records apply to them. Digests are strings; the computation of
a binding's canonical digest and the match of a checkpoint against it are carried as values.
-/

namespace MemCordon

/-- The continuous clock the ticks of the evidence are read from. -/
structure ClockDomain where
  bootIdentity : String
  ticksPerSecond : ℕ
  deriving DecidableEq

/-- What is known about the release of the target. -/
inductive ReleaseEvidence
  | notIssued
  | issued (at_ : ℕ) (execConfirmed : Bool)
  | unknown
  deriving DecidableEq

def ReleaseEvidence.isIssued : ReleaseEvidence → Bool
  | issued .. => true
  | _ => false

inductive RetirementObligation
  | pendingCreation
  | rootExit
  | rootReap
  | groupReconciliation
  | detachedIdentity
  | inspectorReap
  | guardianReap
  | controlTransport
  | workloadPolicy
  deriving DecidableEq

inductive RetirementEvidence
  | complete (at_ : ℕ) (targetReapedOrAbsent groupReconciled detachedIdentitiesDischarged
      nativeObligationsSettled policyRetired : Bool)
  | pending (obligations : List RetirementObligation)
  | unconfirmed
  deriving DecidableEq

/-- Every part of a complete retirement was observed. -/
def RetirementEvidence.isComplete : RetirementEvidence → Bool
  | complete _ target group detached native policy =>
    target && group && detached && native && policy
  | _ => false

def maxRetirementObligations : ℕ := 64

structure RuntimeEvidenceV1 where
  schemaVersion : ℕ
  clock : ClockDomain
  runOrigin : ℕ
  attemptOrigin : ℕ
  workExpires : Option ℕ
  startupExpires : ℕ
  release : ReleaseEvidence
  targetPid : Option ℕ+
  (terminalObserved forceRequested forceExpires retirementExpires deliveryExpires : Option ℕ)
  retirement : RetirementEvidence

namespace RuntimeEvidenceV1

def releaseValid (e : RuntimeEvidenceV1) : Bool :=
  match e.release with
  | .issued t _ =>
    e.targetPid.isSome && decide (e.attemptOrigin ≤ t) && decide (t < e.startupExpires) &&
      e.workExpires.all (fun expiry => decide (t < expiry))
  | .notIssued => true
  | .unknown => !e.retirement.isComplete

def retirementValid (e : RuntimeEvidenceV1) : Bool :=
  match e.retirement with
  | .complete t .. =>
    e.retirement.isComplete && e.terminalObserved.any (fun terminal => decide (terminal ≤ t)) &&
      e.retirementExpires.any (fun expiry => decide (t ≤ expiry))
  | .pending obligations =>
    !obligations.isEmpty && decide (obligations.length ≤ maxRetirementObligations)
  | .unconfirmed => true

def boundariesValid (e : RuntimeEvidenceV1) : Bool :=
  match e.forceExpires, e.retirementExpires, e.deliveryExpires with
  | none, none, none => e.terminalObserved.isNone
  | some force, some retire, some deliver => decide (force ≤ retire) && decide (retire ≤ deliver)
  | _, _, _ => false

def isConsistent (e : RuntimeEvidenceV1) : Bool :=
  e.schemaVersion ==
      1 && (e.clock.bootIdentity != "" && decide (e.clock.bootIdentity.utf8ByteSize ≤ 128) &&
      decide (0 < e.clock.ticksPerSecond)) &&
    e.releaseValid && e.retirementValid && e.boundariesValid &&
    decide (e.runOrigin ≤ e.attemptOrigin) && decide (e.attemptOrigin ≤ e.startupExpires) &&
    e.workExpires.all (fun expiry => decide (e.startupExpires ≤ expiry)) &&
    e.terminalObserved.all (fun t => decide (e.attemptOrigin ≤ t)) &&
    e.forceRequested.all fun t => e.terminalObserved.any fun terminal => decide (terminal ≤ t)

end RuntimeEvidenceV1

/-- How the policy of an authorized attempt ended. -/
inductive PolicyTerminalEvidenceV1
  | retired (attemptBinding checkpoint : String) (controlsPreserved providerResourcesClosed : Bool)
  | unavailable
  deriving DecidableEq

inductive RuntimePolicyEnforcement
  | legacyUnspecified
  | notAuthorized (approvedPlanDigest workloadPlanDigest : String)
  | authorizationUncertain
  /-- The binding's canonical digest (`none` when it cannot be computed), whether the checkpoint
  matches the binding, the checkpoint's digest and the terminal evidence. -/
  | authorized (bindingDigest : Option String) (checkpointMatches : Bool)
      (checkpointDigest : String) (terminal : PolicyTerminalEvidenceV1)
  deriving DecidableEq

def RuntimePolicyEnforcement.isConsistent : RuntimePolicyEnforcement → Bool
  | legacyUnspecified => true
  | notAuthorized approved plan => approved == plan
  | authorizationUncertain => true
  | authorized none _ _ _ => false
  | authorized (some digest) checkpointMatches checkpointDigest terminal =>
    checkpointMatches &&
      match terminal with
      | .retired attemptBinding checkpoint controlsPreserved providerResourcesClosed =>
        attemptBinding == digest && checkpoint == checkpointDigest && controlsPreserved &&
          providerResourcesClosed
      | .unavailable => true

end MemCordon
