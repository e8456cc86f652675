import MemCordon.Agent.AttemptMutators

/-!
# The closure of a lost attempt

`stage_recovered_closure` of `windows/record.rs`: the recovery of an authorized attempt whose worker
is gone. It builds a retirement proof, a receipt and a rejection from the record, brings the record
to its end state, and stages the rejection as the terminal response, with one publication for every
step.
-/

namespace MemCordon.WindowsAttempt

open WindowsRecord Workload CausalDiagnostics Fallible Counter

/-- What the recovery reads outside of the record: the boot it runs in, the digest of a guardian
receipt, the binding of the installed provider, the wall clock and the result of
`retire_relay_retirement_event`. -/
structure RecoveryContext where
  currentBoot : String
  guardianReceipt : Option String
  binding : Except String PublicProviderBindingV1
  observed : Option ℕ
  relayRetired : Except String Unit

/-- The original failure that a closure reports: a journal without one says that the worker was lost
before it could observe any. -/
def closureOriginal (r : Record) : OriginalFailure :=
  if r.causalDiagnostics.original = .unavailable .noEarlierErrorObserved then
    .unavailable .workerLostBeforeObservation
  else r.causalDiagnostics.original

def closureJournal (r : Record) : Journal :=
  { r.causalDiagnostics with original := closureOriginal r }

/-- The frozen observation, or that there is none, with the target as its root. -/
def closureObservation (r : Record) : ProcessObservation :=
  let observation := match r.terminalSeed with
    | some seed => seed.processObservation
    | none => ProcessObservation.unavailable .workerLostBeforeFreeze
  if observation.rootIdentity = none then { observation with rootIdentity := r.targetIdentity } else
    observation

def closureProof (c : RecoveryContext) (r : Record) (manifestSha256 : String) :
    RetirementProof where
  schemaVersion := 2
  source := if c.guardianReceipt.isSome then .guardianRecovery else .priorBoot
  attemptId := r.attemptId
  nonce := r.nonce
  requestSha256 := r.requestSha256
  providerGeneration := r.providerGeneration
  launchIncarnation := r.launchIncarnation
  originalBootId := r.bootIdentity
  jobIdentity := r.jobIdentitySha256
  ownerManifestSha256 := manifestSha256
  guardianReceiptSha256 := c.guardianReceipt
  currentBootId := if c.guardianReceipt.isSome then none else some c.currentBoot
  targetCompletionObserved := false
  nativeJobEmptyObserved := c.guardianReceipt.isSome
  relayClosureObserved := c.guardianReceipt.isSome
  guardianCompletionObserved := c.guardianReceipt.isSome
  ownerCapabilitiesClosed := true
  launchGateClosed := true
  policyReferenceBound := r.workloadAdmission.isNone || r.workloadCheckpoint.isSome

def closureSafety : RestartSafetyProof where
  directChildReaped := false
  workloadEmpty := some true
  helpersReaped := false
  containmentRemoved := true
  containmentIncapableOfLiveMembers := true
  sealedBoundaryRetired := false
  errors := []

def closureReceipt (c : RecoveryContext) (r : Record) (manifestSha256 : String) :
    TerminalReceipt where
  schemaVersion := 2
  attemptId := r.attemptId
  nonce := r.nonce
  requestSha256 := r.requestSha256
  payload := .recoveredClosure (closureOriginal r) true r.resumeAttempted
  processObservation := closureObservation r
  cleanupProcessCreation := none
  restartSafety := closureSafety
  retirementProof := closureProof c r manifestSha256

def closureRejection (c : RecoveryContext) (r : Record) (failure : ProviderFailure)
    (receipt : TerminalReceipt) :
    ProviderRejection where
  schemaVersion := 2
  providerFailure := some failure
  code := "MCSEALED-WINDOWS-OWNER-LOST"
  phase := .retirement
  detail :=
    if c.guardianReceipt.isSome then
      "original worker exited before authenticated terminal delivery; guardian proved Job zero " ++
        "and owner processes exited"
    else "prior boot ended before authenticated terminal delivery; execution outcome unavailable"
  osCode := none
  loaderQualificationConsistent := none
  targetCreated := true
  targetReleased := r.targetReleased
  cleanupAttempted := true
  restartSafety := closureSafety
  disposition := .postauthorizationFailure receipt

/-- `WINDOWS_PRIVATE_PROTOCOL_VERSION` -/
def privateProtocolVersion : ℕ := 3

section Closure

variable [Sha256] [Wire]

/-- What the recovery builds from the record before it changes it. -/
structure Closure where
  failure : ProviderFailure
  receipt : TerminalReceipt
  rejection : ProviderRejection

/-- The first half of `stage_recovered_closure`. -/
def buildClosure (c : RecoveryContext) (r : Record) : Except String Closure := do
  reject "recovery lacks exact authorized closure preconditions"
    (c.currentBoot = "" ∨ decide (c.currentBoot = r.bootIdentity) ≠ c.guardianReceipt.isSome ∨
      r.authorizationUnixMillis = none ∨ r.targetIdentity = none ∨ r.ownerManifest = none ∨
      r.terminalResponseJson.isSome = true)
  let manifest ← okOr "checked frozen manifest" r.ownerManifest
  let manifestSha256 ← manifest.canonicalSha256
  let binding ← c.binding
  reject "prior-boot recovery provider generation differs"
    (binding.generation.bytes ≠ r.providerGeneration.toUTF8.toList)
  let failure ← ProviderFailure.fromJournal binding r.attemptId r.requestSha256 (closureJournal r)
  let receipt := closureReceipt c r manifestSha256
  receipt.validateForAttempt
  let rejection := closureRejection c r failure receipt
  reject "recovered closure rejection lacks canonical original failure"
    (rejection.isConsistent = false)
  return ⟨failure, receipt, rejection⟩

/-- The steps to the state without processes. -/
def emptyRecord : Edit Unit := do
  let r ← record
  if r.state ≠ .empty then
    if r.state ≠ .terminating then
      transition .terminating
      store
    transition .empty

/-- The proof of a closure: it is staged, added to a frozen seed, or already there. -/
def closeProof (closure : Closure) : Edit Unit := do
  let r ← record
  match r.terminalSeed, r.retirementProof with
  | none, none => stageTerminalProof closure.receipt (some closure.failure)
  | some seed, none =>
    -- The seed was frozen before the owner was lost, and stays as it is.
    refuse "recovered closure proof conflicts with durable terminal seed"
      (seed.processObservation ≠ closure.receipt.processObservation ∨ seed.attemptId ≠ r.attemptId ∨
        seed.nonce ≠ r.nonce ∨ seed.requestSha256 ≠ r.requestSha256)
    edit fun r => { r with retirementProof := some closure.receipt.retirementProof,
                           lifecycle := .proofReady }
    store
  | some _, some proof =>
    refuse "recovered closure proof conflicts with durable terminal seed"
      (proof ≠ closure.receipt.retirementProof)
  | none, some _ => Script.fail "recovered closure proof conflicts with durable terminal seed"

/-- The second half of `stage_recovered_closure`. -/
def applyClosure (c : RecoveryContext) (closure : Closure) (journal : Journal) : Edit Unit := do
  emptyRecord
  edit fun r =>
    { r with causalDiagnostics := journal, lifecycle := .retiring,
             terminalDisposition := some .posttarget }
  store
  closeProof closure
  let r ← record
  stageTerminalResponse
    (.reject privateProtocolVersion r.attemptId r.nonce r.requestSha256 closure.rejection)
    c.observed c.relayRetired

def stageRecoveredClosure (c : RecoveryContext) : Edit Unit := do
  let r ← record
  let closure ← Script.lift (buildClosure c r)
  applyClosure c closure (closureJournal r)

end Closure

end MemCordon.WindowsAttempt
