import MemCordon.Core.Outcome

/-!
# Private runtime terminals

The terminal facts of a privately networked Linux attempt and the relations its validator checks
among launch, authorization, exec and retirement. The header (format, revision, attempt id,
provider binding, native ABI) and the admission metadata are checked by code of their own; the model
carries the verdicts of those two checks.
-/

namespace MemCordon

inductive LaunchStateV1
  | notCreated
  | gatedUnreleased
  | releaseIssued
  | execObserved
  | execFailed
  | unknown
  deriving DecidableEq

inductive OutcomeKindV1
  | completed
  | deadline
  | confirmedMemoryLimit
  | interrupted
  | launchFailure
  | providerFailure
  | unknown
  deriving DecidableEq

inductive CleanupStateV1
  | complete
  | incomplete
  | unknown
  deriving DecidableEq

structure PrivateNetworkNamespaceIdentity where
  device : ℕ
  inode : ℕ
  deriving DecidableEq

structure PrivateRuntimeTerminal where
  /-- Format, revision, attempt id, provider binding and ABI are the expected ones. -/
  headerValid : Bool
  /-- The admission metadata passes its own validation. -/
  admissionValid : Bool
  launch : LaunchStateV1
  (authorizationOffsetMillis authorizationMonotonicMillis targetPid : Option ℕ)
  networkNamespace : Option PrivateNetworkNamespaceIdentity
  execObserved : Bool
  postExecDescriptorCount : Option ℕ
  outcome : OutcomeKindV1
  nativeTermination : Option ChildTermination
  cleanup : CleanupStateV1
  accountReservationRetired : Bool
  namespaceReferencesClosed : Bool
  deriving DecidableEq

namespace PrivateRuntimeTerminal

/-- The launch state says that the release byte was sent. -/
def released (t : PrivateRuntimeTerminal) : Bool :=
  t.launch == .releaseIssued || t.launch == .execObserved || t.launch == .execFailed

def validate (t : PrivateRuntimeTerminal) : Bool :=
  t.headerValid && t.admissionValid && (t.execObserved == (t.launch == .execObserved)) &&
    (t.authorizationOffsetMillis.isSome == t.authorizationMonotonicMillis.isSome) &&
    (t.authorizationOffsetMillis.isSome == t.released) &&
    (t.postExecDescriptorCount == if t.execObserved then some 3 else none) &&
    (!t.execObserved || t.networkNamespace.isSome) &&
    (t.networkNamespace.all (·.inode != 0)) &&
    (t.targetPid.isSome || t.launch == .notCreated || t.launch == .unknown) &&
    (t.cleanup != .complete || (t.accountReservationRetired && t.namespaceReferencesClosed)) &&
    (t.outcome != .completed ||
      (t.execObserved && t.cleanup == .complete && t.nativeTermination.isSome))

end PrivateRuntimeTerminal

/-- A terminal together with what the frontend observed of the byte relay and of signals. -/
structure PrivateRuntimeExecution where
  terminal : PrivateRuntimeTerminal
  frontendRelayDrained : Bool
  frontendInterruption : Option ℤ
  deriving DecidableEq

namespace PrivateRuntimeExecution

def validate (e : PrivateRuntimeExecution) : Bool :=
  e.frontendInterruption.all (fun signal => decide (0 < signal ∧ signal < 128)) &&
    e.terminal.validate

/-- Native cleanup counts as complete only once the relay is drained. -/
def cleanupState (e : PrivateRuntimeExecution) : CleanupStateV1 :=
  if e.terminal.cleanup = .complete ∧ e.frontendRelayDrained = false then .incomplete
  else e.terminal.cleanup

end PrivateRuntimeExecution

end MemCordon
