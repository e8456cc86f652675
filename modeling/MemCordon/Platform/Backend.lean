import MemCordon.Core.Execution

/-!
# Backends

What a backend says about itself (`BackendInfo`), what it returns for one attempt (`Execution`), and
the check every result passes before the supervision loop sees it (`validateBackendExecution`).
-/

namespace MemCordon

open Clock

/-- The operating systems the supervisor is built for. -/
inductive Platform
  | linux
  | macos
  | windows
  | otherUnix
  deriving DecidableEq

/-- Where the clock of a deadline starts, as evidence names it. -/
def deadlineOrigin : Platform → String
  | .linux => "installed-cli-release-byte"
  | .macos => "pre-spawn"
  | .windows => "suspended-thread-resume"
  | .otherUnix => "unsupported"

/-- The launch mechanism reported when no backend was selected. -/
def launchMechanism : Platform → String
  | .linux => "installed-cli-launcher-release-gate"
  | .macos => "process-group-pre-spawn"
  | .windows => "suspended-process-job-assignment"
  | .otherUnix => "unsupported-unix"

inductive SealedAvailability
  | available (capability : BoundaryCapability)
  | unavailable (reason : String) (prerequisites : List String)

structure BoundarySupport where
  standard : BoundaryCapability
  sealed : SealedAvailability

structure BackendInfo where
  name : String
  containmentSupported : Bool
  memorySupported : Bool
  (class_ metric startupContainment : String)
  limitations : List String
  boundarySupport : BoundarySupport

def boundaryFor (info : BackendInfo) : BoundaryRequirement → BoundaryCapability
  | .standard => info.boundarySupport.standard
  | .sealed =>
    match info.boundarySupport.sealed with
    | .available capability => capability
    | .unavailable reason prerequisites =>
      { class_ := .unavailable
        mechanism := "sealed-provider-unavailable"
        limitations := reason :: prerequisites.map ("prerequisite: " ++ ·) }

/-- The capability report of a backend, for the boundary a policy asks for. -/
def capabilitiesFor (platform : Platform) (info : BackendInfo) (requirement : BoundaryRequirement) :
    BackendCapabilityReport where
  name := info.name
  containment := ⟨info.containmentSupported, none⟩
  boundary := boundaryFor info requirement
  memory := some ⟨info.memorySupported, info.class_, info.metric, none⟩
  deadline := ⟨true, none⟩
  restart := ⟨true, none⟩
  deadlineScopes := [.attempt, .supervision]
  deadlineOrigin := some (deadlineOrigin platform)
  restartConditions := .both
  persistentRestartState := false
  startupContainment := info.startupContainment
  restartCleanupCondition :=
    "direct child and helpers reaped, workload empty, containment removed or inert"
  limitations := info.limitations
  boundaryQualification := none
  sealedUnavailable :=
    match info.boundarySupport.sealed with
    | .available _ => none
    | .unavailable reason prerequisites => some ⟨reason, prerequisites⟩

/-- The capability reported when no backend was ever observed. -/
def unsupportedCapability : BackendCapabilityReport where
  name := "unresolved"
  containment := ⟨false, some "attempt setup failed before backend selection"⟩
  boundary :=
    { class_ := .unavailable
      mechanism := "unavailable"
      limitations := ["certified sealed supervision is unavailable"] }

/-- What a backend returns for one attempt. -/
structure Execution where
  privateExecution : Option PrivateRuntimeExecution := none
  policyEnforcement : RuntimePolicyEnforcement := .legacyUnspecified
  outcome : RunOutcome
  backend : BackendInfo
  childPid : Option ℕ+
  runtime : Option RuntimeEvidenceV1 := none
  duration : ℕ
  authorizationOffset : Option ℕ
  launch : LaunchEvidence
  restartSafety : RestartSafetyProof
  boundaryDetail : BoundaryMechanismEvidence

/-- Release, pid and runtime evidence of a result agree. -/
def Execution.authorizationAgrees (e : Execution) : Bool :=
  e.launch.targetReleased == e.authorizationOffset.isSome &&
    (!e.launch.targetReleased || e.childPid.isSome) && e.runtime.all fun runtime =>
      runtime.isConsistent && runtime.targetPid == e.childPid && runtime.release.isIssued ==
        e.launch.targetReleased

def validateBackendExecution (e : Execution) : Except Error Unit :=
  if e.authorizationAgrees = false then
    .error
      { category := .monitor
        code := "MCRESTART-AUTHORIZATION-EVIDENCE"
        message := "backend release, target identity, and runtime evidence disagree" }
  else if boundaryEvidenceIsConsistent e.launch e.restartSafety e.boundaryDetail then .ok ()
  else
    .error
      { category := .monitor
        code := "MCBOUNDARY-EVIDENCE"
        message := "backend returned contradictory launch or retirement evidence" }

/-- A result the supervision loop works on. -/
structure AttemptExecution where
  execution : Execution
  launch : LaunchEvidence
  restartSafety : RestartSafetyProof

/-- `attempt_execution`: a validated result, with the launch facts and the proof beside it. -/
def attemptExecution (e : Execution) : Except Error AttemptExecution := do
  validateBackendExecution e
  return ⟨e, e.launch, e.restartSafety⟩

/-- The result passed `validate_backend_execution` on its way to the loop. -/
def AttemptExecution.Validated (a : AttemptExecution) : Prop :=
  attemptExecution a.execution = .ok a

/-- **What validation gives.** -/
structure AttemptExecution.Checked (a : AttemptExecution) : Prop where
  launch : a.launch = a.execution.launch
  restartSafety : a.restartSafety = a.execution.restartSafety
  authorization : a.execution.authorizationAgrees = true
  evidence : boundaryEvidenceIsConsistent a.execution.launch a.execution.restartSafety
    a.execution.boundaryDetail = true

theorem AttemptExecution.Validated.checked {a : AttemptExecution} (h : a.Validated) :
    a.Checked := by
  obtain ⟨_, hv, ha⟩ := Fallible.bind_eq_ok.1 h
  unfold validateBackendExecution at hv
  split_ifs at hv with hauth hevid
  have hsame :
      (⟨a.execution, a.execution.launch, a.execution.restartSafety⟩ : AttemptExecution) = a :=
    Except.ok.inj ha
  refine ⟨?_, ?_, ?_, hevid⟩
  · rw [← hsame]
  · rw [← hsame]
  · exact Bool.not_eq_false _ ▸ hauth

end MemCordon
