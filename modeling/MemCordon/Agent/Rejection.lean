import MemCordon.Foundations.CodedText
import MemCordon.Foundations.Fallible

/-!
# Rejections of the sealed provider

A launch that fails ends with an error text. The provider turns that text into a typed receipt: the
code before the first colon decides the phase, and code and phase decide whether the receipt says
that a target was created and released. No fact about the launch itself enters, only the text.

* `rejection_coded` says what a text `CODE: detail` is filed as: only the code counts.
* `rejection_plain` says that a text without a code is filed as a request that was refused.
-/

namespace MemCordon.Rejection

open CodedText

/-- The phase of a launch a rejection belongs to. -/
inductive RejectionPhase
  | requestValidation
  | callerEnvelopeCapture
  | launcherServiceAuthentication
  | callerMountNamespaceAdoption
  | callerCapabilityEnvelope
  | credentialTransitionPolicy
  | boundaryCreation
  | guardianStartup
  | targetCreation
  | assignmentVerification
  | resourceVerification
  | authorization
  | monitoring
  | retirement
  deriving DecidableEq

structure RejectionCleanup where
  attempted : Bool
  directChildReaped : Bool
  workloadEmpty : Option Bool
  (helpersReaped containmentRemoved sealedBoundaryRetired : Bool)
  errors : List String
  deriving DecidableEq

/-- The receipt. Its schema version is one, and a launch error gives it no OS code and no workload
admission. -/
structure Receipt where
  code : String
  phase : RejectionPhase
  detail : String
  targetCreated : Bool
  targetReleased : Bool
  cleanup : RejectionCleanup
  deriving DecidableEq

/-! ## Codes -/

def maxCodeBytes : ℕ := 128
def maxDetailBytes : ℕ := 8 * 1024
def maxCleanupErrors : ℕ := 16
def maxCleanupErrorBytes : ℕ := 1024

/-- A byte of a code: an upper case letter, a digit or a hyphen. -/
def codeByte (b : UInt8) : Bool :=
  (decide (65 ≤ b) && decide (b ≤ 90)) || (decide (48 ≤ b) && decide (b ≤ 57)) || b == 45

def validCode (code : String) : Bool :=
  !(bytes code).isEmpty && decide ((bytes code).length ≤ maxCodeBytes) && (bytes code).all codeByte

/-- The code of a text that has none of its own. -/
def providerRejection : String := "MCSEALED-PROVIDER-REJECTION"

def stableCode (error : String) : String :=
  if validCode (beforeColon error) then beforeColon error else providerRejection

/-- `phase_for_code`: the first test that matches decides. -/
def phaseForCode (code : String) : RejectionPhase :=
  let has (sub : String) := contains code sub
  if has "CALLER-ENVELOPE-CAPTURE" then .callerEnvelopeCapture
  else if has "LAUNCHER-SERVICE-AUTHENTICATION" || has "LAUNCHER-CONNECTION" ||
      has "LAUNCHER-AUTHORIZATION" then .launcherServiceAuthentication
  else if has "CALLER-MOUNT-NAMESPACE-ADOPTION" then .callerMountNamespaceAdoption
  else if has "CALLER-CAPABILITY-ENVELOPE" then .callerCapabilityEnvelope
  else if has "CREDENTIAL-TRANSITION-POLICY" then .credentialTransitionPolicy
  else if same code "MCSEALED-FRONTEND-LOSS-BEFORE-AUTHORIZATION" ||
      same code "MCSEALED-GUARDIAN-LOSS-BEFORE-AUTHORIZATION" then .authorization
  else if same code "MCSEALED-FRONTEND-LOSS-AFTER-AUTHORIZATION" ||
      same code "MCSEALED-GUARDIAN-LOSS-AFTER-AUTHORIZATION" then .monitoring
  else if same code "MCSEALED-CGROUP-KILL-FAILURE" || same code "MCSEALED-CGROUP-NOT-EMPTY" ||
      same code "MCSEALED-NAMESPACE-INIT-REAP-DELAY" ||
      same code "MCSEALED-GUARDIAN-REAP-FAILURE" then .retirement
  else if same code "MCSEALED-LAUNCH-DESCRIPTOR-SET" then .requestValidation
  else if startsWith code "MCSEALED-NAMESPACE-INIT-" then .targetCreation
  else if has "DESCRIPTOR" || has "CGROUP-VIEW" || has "TARGET-CREDENTIAL-READBACK" ||
      has "TARGET-CGROUP-READBACK" || has "TARGET-NAMESPACE-READBACK" ||
      has "RECORD-RESOURCE" then .resourceVerification
  else if has "TARGET-IDENTITY" || has "RECORD-ASSIGNMENT" then .assignmentVerification
  else if has "GUARDIAN" || has "RECORD-GUARDIAN" then .guardianStartup
  else if has "AUTHORIZATION" then .authorization
  else if has "BOUNDARY-NOT-RETIRED" || has "CGROUP-NOT-EMPTY" then .retirement
  else if has "TARGET-CONTROL" || has "TARGET-STATUS" || has "FRONTEND-PIDFD" || has "CGROUP" ||
      has "RECORD-ALLOCATE" || has "RECORD-BOUNDARY" || has "RECOVERY" then .boundaryCreation
  else if has "MONITOR" || has "DEADLINE" || has "MEMORY" || same code "MCSEALED-POLICY-DRIFT" then
    .monitoring
  else if has "TARGET" || has "RECORD-TARGET" then .targetCreation
  else .requestValidation

def targetWasObserved (code : String) (phase : RejectionPhase) : Bool :=
  if same code "MCSEALED-TARGET-WAIT" ||
      (startsWith code "MCSEALED-NAMESPACE-INIT-" &&
        !same code "MCSEALED-NAMESPACE-INIT-REAP-DELAY") then false
  else
    match phase with
    | .targetCreation | .assignmentVerification | .resourceVerification | .authorization
    | .monitoring | .retirement => true
    | _ => false

/-- The released flag of `from_launch_error`. -/
def targetWasReleased (code : String) (phase : RejectionPhase) : Bool :=
  same code "MCSEALED-AUTHORIZATION-RECORD" ||
    same code "MCSEALED-FRONTEND-LOSS-AFTER-AUTHORIZATION" ||
    same code "MCSEALED-GUARDIAN-LOSS-AFTER-AUTHORIZATION" ||
      same code "MCSEALED-TARGET-EXEC-STATUS" || match phase with
    | .monitoring | .retirement => true
    | _ => false

/-! ## Receipts -/

/-- What the provider finds of an attempt when it writes the receipt. -/
structure Residue where
  recordAbsent : Bool
  containmentRemoved : Bool

def cleanupEvidence (residue : Residue) (phase : RejectionPhase) : RejectionCleanup :=
  if phase = .requestValidation then ⟨false, false, none, false, false, false, []⟩
  else
    let retired := residue.recordAbsent && residue.containmentRemoved
    { attempted := true
      directChildReaped := retired
      workloadEmpty := some residue.containmentRemoved
      helpersReaped := retired
      containmentRemoved := residue.containmentRemoved
      sealedBoundaryRetired := retired
      errors :=
        if retired then []
        else ["MCSEALED-BOUNDARY-NOT-RETIRED: authenticated attempt residue remains"] }

/-- The longest start of a text that fits into a number of bytes. -/
def takeBytes : ℕ → List Char → List Char
  | _, [] => []
  | budget, c :: cs => if c.utf8Size ≤ budget then c :: takeBytes (budget - c.utf8Size) cs else []

def bounded (value : String) (maximum : ℕ) : String :=
  if value.utf8ByteSize ≤ maximum then value
  else
    String.ofList (takeBytes (maximum - "...[truncated]".utf8ByteSize) value.toList) ++
      "...[truncated]"

def fromLaunchError (error : String) (residue : Residue) : Receipt :=
  let code := stableCode error
  let phase := phaseForCode code
  { code, phase
    detail := bounded error maxDetailBytes
    targetCreated := targetWasObserved code phase
    targetReleased := targetWasReleased code phase
    cleanup := cleanupEvidence residue phase }

def Receipt.validate (r : Receipt) : Except String Unit :=
  let nul (s : String) := s.toList.contains (Char.ofNat 0)
  let cleaned := r.cleanup.directChildReaped || r.cleanup.workloadEmpty.isSome ||
    r.cleanup.helpersReaped || r.cleanup.containmentRemoved || r.cleanup.sealedBoundaryRetired ||
    !r.cleanup.errors.isEmpty
  let expectedFault : Option (RejectionPhase × Bool × Bool) :=
    if same r.code "MCSEALED-FRONTEND-LOSS-BEFORE-AUTHORIZATION" ||
        same r.code "MCSEALED-GUARDIAN-LOSS-BEFORE-AUTHORIZATION" then
      some (.authorization, true, false)
    else if same r.code "MCSEALED-FRONTEND-LOSS-AFTER-AUTHORIZATION" ||
        same r.code "MCSEALED-GUARDIAN-LOSS-AFTER-AUTHORIZATION" then
      some (.monitoring, true, true)
    else none
  if !validCode r.code || decide (maxDetailBytes < r.detail.utf8ByteSize) || nul r.detail ||
      (r.targetReleased && !r.targetCreated) ||
      decide (maxCleanupErrors < r.cleanup.errors.length) ||
      r.cleanup.errors.any (fun e => decide (maxCleanupErrorBytes < e.utf8ByteSize) || nul e) then
    .error "MCSEALED-PROVIDER-REJECTION: invalid typed receipt"
  else if !r.cleanup.attempted && cleaned then
    .error "MCSEALED-PROVIDER-REJECTION: contradictory cleanup receipt"
  else if r.cleanup.sealedBoundaryRetired &&
      (!r.cleanup.directChildReaped || decide (r.cleanup.workloadEmpty ≠ some true) ||
        !r.cleanup.helpersReaped || !r.cleanup.containmentRemoved ||
        !r.cleanup.errors.isEmpty) then
    .error "MCSEALED-PROVIDER-REJECTION: incomplete retirement receipt"
  else if expectedFault.any (fun expected =>
      decide (expected ≠ (r.phase, r.targetCreated, r.targetReleased)) ||
        !r.cleanup.sealedBoundaryRetired) then
    .error "MCSEALED-PROVIDER-REJECTION: contradictory loss receipt"
  else .ok ()

def fromLaunchFacts (code : String) (phase : RejectionPhase) (detail : String)
    (targetCreated targetReleased : Bool) (cleanup : RejectionCleanup) : Except String Receipt :=
  let receipt : Receipt :=
    { code := if validCode code then code else providerRejection
      phase
      detail := bounded detail maxDetailBytes
      targetCreated, targetReleased, cleanup }
  receipt.validate.map fun _ => receipt

def retiredCleanup : RejectionCleanup := ⟨true, true, some true, true, true, true, []⟩

/-- The losses whose texts are recognised as a whole: code, phase and released flag. -/
def exactLoss (error : String) : Option (String × RejectionPhase × Bool) :=
  if startsWith error "MCSEALED-FRONTEND-LOSS-BEFORE-AUTHORIZATION" then
    some ("MCSEALED-FRONTEND-LOSS-BEFORE-AUTHORIZATION", .authorization, false)
  else if startsWith error "MCSEALED-GUARDIAN-LOSS-BEFORE-AUTHORIZATION" then
    some ("MCSEALED-GUARDIAN-LOSS-BEFORE-AUTHORIZATION", .authorization, false)
  else if startsWith error "MCSEALED-FRONTEND-LOSS-AFTER-AUTHORIZATION" then
    some ("MCSEALED-FRONTEND-LOSS-AFTER-AUTHORIZATION", .monitoring, true)
  else if startsWith error "MCSEALED-GUARDIAN-LOSS-AFTER-AUTHORIZATION" then
    some ("MCSEALED-GUARDIAN-LOSS-AFTER-AUTHORIZATION", .monitoring, true)
  else none

/-- `rejection_for_launch_error`. An error is the panic on a loss receipt that does not validate. -/
def rejectionForLaunchError (error : String) (residue : Residue) : Except String Receipt :=
  match exactLoss error with
  | some (code, phase, released) => fromLaunchFacts code phase error true released retiredCleanup
  | none => .ok (fromLaunchError error residue)

/-! ## How a text is filed -/

/-- What a receipt says about the target. -/
structure Filed where
  created : Bool
  released : Bool
  deriving DecidableEq

def filedAs (code : String) : Filed :=
  ⟨targetWasObserved code (phaseForCode code), targetWasReleased code (phaseForCode code)⟩

/-- `FiledUnder error residue filed`: the text yields a receipt that says `filed`. -/
def FiledUnder (error : String) (residue : Residue) (filed : Filed) : Prop :=
  ∃ receipt, rejectionForLaunchError error residue = .ok receipt ∧
    (⟨receipt.targetCreated, receipt.targetReleased⟩ : Filed) = filed

theorem exactLoss_coded (code detail : String) :
    exactLoss (coded code detail) = exactLoss code := by
  unfold exactLoss
  rw [startsWith_coded (by decide), startsWith_coded (by decide), startsWith_coded (by decide),
    startsWith_coded (by decide)]

theorem not_mem_of_validCode {code : String} (h : validCode code = true) :
    (58 : UInt8) ∉ bytes code := by
  intro hmem
  have hall : (bytes code).all codeByte = true := by
    unfold validCode at h
    rw [Bool.and_eq_true] at h
    exact h.2
  have hcolon := List.all_eq_true.1 hall 58 hmem
  exact absurd hcolon (by decide)

/-- **A coded text is filed by its code.** -/
theorem rejection_coded {code : String} (hvalid : validCode code = true)
    (hloss : exactLoss code = none) (detail : String) (residue : Residue) :
    FiledUnder (coded code detail) residue (filedAs code) := by
  have hbefore := beforeColon_coded (not_mem_of_validCode hvalid) detail
  have hstable : stableCode (coded code detail) = code := by
    unfold stableCode
    rw [hbefore, if_pos hvalid]
  refine ⟨fromLaunchError (coded code detail) residue, ?_, ?_⟩
  · unfold rejectionForLaunchError
    rw [exactLoss_coded, hloss]
  · unfold fromLaunchError filedAs
    rw [hstable]

/-- A text without a code: nothing of the provider's own stands before its first colon. -/
structure Plain (text : String) : Prop where
  uncoded : validCode (beforeColon text) = false
  foreign : startsWith text "MCSEALED-" = false

/-- **A text without a code is filed as a refused request.** -/
theorem rejection_plain {text : String} (h : Plain text) (residue : Residue) :
    FiledUnder text residue ⟨false, false⟩ := by
  have hstable : stableCode text = providerRejection := by
    unfold stableCode
    rw [h.uncoded]
    rfl
  have hloss : exactLoss text = none := by
    have hnot : ∀ pre : String, bytes "MCSEALED-" <+: bytes pre → startsWith text pre = false := by
      intro pre hpre
      have hforeign := h.foreign
      unfold startsWith at hforeign ⊢
      rw [Bool.eq_false_iff, ne_eq, List.isPrefixOf_iff_prefix] at hforeign ⊢
      exact fun hstart => hforeign (hpre.trans hstart)
    unfold exactLoss
    rw [hnot _ (by decide), hnot _ (by decide), hnot _ (by decide), hnot _ (by decide)]
    rfl
  refine ⟨fromLaunchError text residue, ?_, ?_⟩
  · unfold rejectionForLaunchError
    rw [hloss]
  · have hfiled : filedAs providerRejection = ⟨false, false⟩ := by decide +kernel
    rw [← hfiled]
    unfold fromLaunchError filedAs
    rw [hstable]

/-- A text under one of some codes, or without a code. -/
def Named (codes : List String) (text : String) : Prop :=
  Plain text ∨ ∃ code ∈ codes, ∃ detail, text = coded code detail

theorem Named.mono {own codes : List String} {text : String} (hown : own ⊆ codes)
    (h : Named own text) : Named codes text := by
  rcases h with hplain | ⟨code, hcode, detail, rfl⟩
  · exact .inl hplain
  · exact .inr ⟨code, hown hcode, detail, rfl⟩

/-- The error of a call that reports under codes of its own, or prints a text without a code. -/
structure Fault (codes : List String) where
  text : String
  named : Named codes text

end MemCordon.Rejection
