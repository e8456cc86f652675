import Mathlib.Data.List.Sort
import MemCordon.Core.Restart

/-!
# Backend capabilities and selection drift

The capability report of a backend, the fields in which two reports differ, and the evidence kept
when the backend observed at run time is not the one that was selected. Before the comparison the
selected report's memory metric is adjusted to the metric the policy asks for
(`selectedBackendForMetric`); `driftEvidence_isConsistent` says exactly when the evidence built from
a drift passes its own check.
-/

namespace MemCordon

structure CapabilityStatusReport where
  supported : Bool := false
  reason : Option String := none
  deriving DecidableEq

structure MemoryCapabilityReport where
  supported : Bool
  class_ : String
  metric : String
  reason : Option String
  deriving DecidableEq

structure BoundaryCapability where
  class_ : BoundaryClass := .standard
  mechanism : String := ""
  targetGated : Bool := false
  boundaryVerifiedBeforeAuthorization : Bool := false
  targetCanReconfigureBoundary : Bool := false
  frontendLossCleanupAuthority : Bool := false
  workloadEmptyProof : Bool := false
  limitations : List String := []
  deriving DecidableEq

/-- A sealed capability gates its target, verifies and keeps its boundary, and can prove it
empty. -/
def BoundaryCapability.isConsistent (c : BoundaryCapability) : Bool :=
  c.class_ != .sealed ||
    (c.targetGated && c.boundaryVerifiedBeforeAuthorization && !c.targetCanReconfigureBoundary &&
      c.frontendLossCleanupAuthority && c.workloadEmptyProof)

structure BoundaryQualificationReport where
  (providerIdentity receiptDigest mechanism : String)
  deriving DecidableEq

structure SealedUnavailableReport where
  reason : String
  prerequisites : List String
  deriving DecidableEq

structure BackendCapabilityReport where
  name : String
  containment : CapabilityStatusReport := {}
  boundary : BoundaryCapability := {}
  memory : Option MemoryCapabilityReport := none
  deadline : CapabilityStatusReport := {}
  restart : CapabilityStatusReport := {}
  deadlineScopes : List DeadlineScope := []
  deadlineOrigin : Option String := none
  restartConditions : RestartConditions := .none
  persistentRestartState : Bool := false
  startupContainment : String := ""
  restartCleanupCondition : String := ""
  limitations : List String := []
  boundaryQualification : Option BoundaryQualificationReport := none
  sealedUnavailable : Option SealedUnavailableReport := none
  deriving DecidableEq

/-- The names of the fields in which two reports differ, sorted. The supervisor and the core model
each have a copy of this comparison. -/
def capabilityMismatches (expected observed : BackendCapabilityReport) : List String :=
  let push (differs : Bool) (name : String) : List String := if differs then [name] else []
  (push (expected.name != observed.name) "name" ++
    push (expected.containment != observed.containment) "containment" ++
    push (expected.boundary != observed.boundary) "boundary" ++
    push (expected.memory != observed.memory) "memory" ++
    push (expected.deadline != observed.deadline) "deadline" ++
    push (expected.restart != observed.restart) "restart" ++
    push (expected.deadlineScopes != observed.deadlineScopes) "deadline_scopes" ++
    push (expected.deadlineOrigin != observed.deadlineOrigin) "deadline_origin" ++
    push (expected.restartConditions != observed.restartConditions) "restart_conditions" ++
    push (expected.persistentRestartState != observed.persistentRestartState)
      "persistent_restart_state" ++
    push (expected.startupContainment != observed.startupContainment) "startup_containment" ++
    push (expected.restartCleanupCondition != observed.restartCleanupCondition)
      "restart_cleanup_condition" ++
    push (expected.limitations != observed.limitations) "limitations" ++
    push (expected.boundaryQualification != observed.boundaryQualification)
      "boundary_qualification" ++
    push (expected.sealedUnavailable != observed.sealedUnavailable)
      "sealed_unavailable").insertionSort (· ≤ ·)

/-- `backend_capability_mismatched_fields`, the core model's comparison. -/
def backendCapabilityMismatchedFields (expected observed : BackendCapabilityReport) : List String :=
  capabilityMismatches expected observed

/-- Two reports differ in no field exactly when they are equal. -/
theorem capabilityMismatches_eq_nil {expected observed : BackendCapabilityReport} :
    capabilityMismatches expected observed = [] ↔ expected = observed := by
  constructor
  · intro h
    have hnil := List.length_eq_zero_iff.2 h
    simp only [capabilityMismatches, List.length_insertionSort, List.length_eq_zero_iff,
      List.append_eq_nil_iff, ite_eq_right_iff, List.cons_ne_nil, imp_false, Bool.not_eq_true,
      bne_eq_false_iff_eq] at hnil
    cases expected
    cases observed
    simp_all
  · rintro rfl
    simp [capabilityMismatches]

/-! ## Drift evidence -/

structure BackendSelectionDriftEvidence where
  (selected comparisonExpected observed : BackendCapabilityReport)
  mismatchedFields : List String
  deriving DecidableEq

namespace BackendSelectionDriftEvidence

/-- The report compared against differs from the selected one in the memory metric at most. -/
def normalizationIsValid (e : BackendSelectionDriftEvidence) : Bool :=
  if e.selected = e.comparisonExpected then true
  else
    match e.selected.memory, e.comparisonExpected.memory with
    | some selected, some expected =>
      decide ({ e.comparisonExpected with
        memory := some { expected with metric := selected.metric } } = e.selected)
    | _, _ => false

def isConsistent (e : BackendSelectionDriftEvidence) : Bool :=
  e.normalizationIsValid && e.selected != e.observed &&
    e.mismatchedFields == backendCapabilityMismatchedFields e.comparisonExpected e.observed

end BackendSelectionDriftEvidence

/-- The metric name a watchdog reports. -/
def watchdogMetric : Metric → String
  | .native => "physical-footprint-sum"
  | .physicalFootprint => "physical-footprint-sum"
  | .rss => "rss-sum"
  | .virtual => "virtual-size-sum"

/-- The selected report, with the memory metric a watchdog would report for the policy's metric. -/
def selectedBackendForMetric (selected : BackendCapabilityReport) (metric : Metric) :
    BackendCapabilityReport :=
  if metric = .native then selected
  else
    match selected.memory with
    | some memory =>
      if memory.class_ = "watchdog" then
        { selected with memory := some { memory with metric := watchdogMetric metric } }
      else selected
    | none => selected

/-- `backend_selection_drift_fields`, the supervisor's comparison. -/
def backendSelectionDriftFields (selected observed : BackendCapabilityReport)
    (metric : Metric) : List String :=
  capabilityMismatches (selectedBackendForMetric selected metric) observed

/-- The metric adjustment touches the memory report only. -/
theorem selectedBackendForMetric_boundary (selected : BackendCapabilityReport) (metric : Metric) :
    (selectedBackendForMetric selected metric).boundary = selected.boundary := by
  unfold selectedBackendForMetric
  repeat' split
  all_goals rfl

theorem normalizationIsValid_selectedBackendForMetric (selected observed : BackendCapabilityReport)
    (metric : Metric) (fields : List String) :
    BackendSelectionDriftEvidence.normalizationIsValid
      ⟨selected, selectedBackendForMetric selected metric, observed, fields⟩ = true := by
  unfold BackendSelectionDriftEvidence.normalizationIsValid
  split_ifs with heq
  · rfl
  · cases hm : selected.memory with
    | none =>
      have : selectedBackendForMetric selected metric = selected := by
        unfold selectedBackendForMetric
        split_ifs <;> simp [hm]
      exact absurd this.symm heq
    | some memory =>
      have hexp : selectedBackendForMetric selected metric =
          { selected with memory := some { memory with metric := watchdogMetric metric } } := by
        unfold selectedBackendForMetric at heq ⊢
        simp only [hm] at heq ⊢
        split_ifs at heq ⊢
        · exact absurd rfl heq
        · rfl
        · exact absurd rfl heq
      simp only [hexp, decide_eq_true_eq]
      cases selected
      cases hm
      rfl

/-- **Drift evidence.** The evidence of a drift is consistent exactly when the observed report is
not the selected one: a drift that only the metric adjustment produced fails its own check. -/
theorem driftEvidence_isConsistent (selected observed : BackendCapabilityReport) (metric : Metric) :
    BackendSelectionDriftEvidence.isConsistent
        ⟨selected, selectedBackendForMetric selected metric, observed,
          backendSelectionDriftFields selected observed metric⟩ = true ↔
      selected ≠ observed := by
  simp [BackendSelectionDriftEvidence.isConsistent, backendSelectionDriftFields,
    backendCapabilityMismatchedFields, normalizationIsValid_selectedBackendForMetric]

end MemCordon
