import MemCordon.Agent.PrivateOwner
import MemCordon.Agent.PrivateRetirement
import MemCordon.Foundations.Postcondition

/-!
# The terminal of a private attempt

`execute_brokered` of `linux/private_runtime.rs`, from its setup on: the setup works on variables
that record how far the launch got, the owner is retired on every path, and a terminal is built from
what was recorded.

* `setupAttempt` is the closure of the setup; `ends_setupAttempt` says in which states it can stop.
* `terminal_validates`: the terminal that is built passes its own validation, and it says that the
  target was released exactly when the byte was sent.
-/

namespace MemCordon.PrivateRuntime

open Workload Fallible PrivateAttempt MemCordon.Task
open PrivateMonitor (PrivateMonitorOutcome expired)

/-! ## Admitted attempts -/

/-- What is known of the attempt when the setup starts. The provider is that of `installed_binding`,
which checks it; the admission refuses an empty attempt id, and `OperationalAdmission::metadata`
validates what it returns. -/
structure Admitted [Sha256] where
  provider : PublicProviderBindingV1
  attemptId : Nonce128
  requestSha256 : DiagnosticSha256
  metadata : RuntimePrivateAdmissionSnapshot
  provider_consistent : provider.isConsistent = true
  attemptId_ne : attemptId ≠ List.Vector.replicate 16 0
  metadata_valid : metadata.validate = .ok ()

/-! ## Setup -/

/-- The architecture that the agent was built for. -/
inductive Arch
  | x8664
  | aarch64
  | other
  deriving DecidableEq

inductive PrivateExecObservation
  | execObservedAndDetached
  | failed (phase : UInt8) (detail : String)

/-- The variables that the setup assigns: those of `execute_brokered`, the outcome that the monitor
leaves in the owner, and whether the byte was sent. -/
structure Progress where
  launch : LaunchStateV1
  (releaseObserved releaseMonotonicMillis targetPid : Option ℕ)
  networkNamespace : Option PrivateNetworkNamespaceIdentity
  execObserved : Bool
  outcome : OutcomeKindV1
  monitorOutcome : Option PrivateMonitorOutcome
  byteSent : Bool

/-- The variables before the setup. -/
def Progress.start : Progress :=
  ⟨.notCreated, none, none, none, none, false, .launchFailure, none, false⟩

/-- What the steps of the setup return. Times are in milliseconds from the start of
`execute_brokered`, and `instantLimit` is the last one that the clock can represent. -/
structure SetupIo where
  arch : Arch
  gnu : Bool
  (filter prelaunch prepared boundary providerNetwork namespaceSpawned : Except String Unit)
  (workerPidfd guardianStarted : Except String Unit)
  observed : Except String (ℕ × PrivateNetworkNamespaceIdentity)
  (relay releasePrepared : Except String Unit)
  cancelled : Except String Bool
  record : PrivateAttemptRecordV4
  release : ReleaseIo
  releasedAt : ℕ
  attemptDeadlineMillis : Option ℕ
  executionDeadline : Option ℕ
  instantLimit : ℕ
  nowReleased : ℕ
  execObservation : Except String PrivateExecObservation
  nowObserved : ℕ
  monitored : Except String PrivateMonitorOutcome

abbrev Setup := Task Progress String

def assign (f : Progress → Progress) : Setup Unit := Task.act { apply := f }

/-- The part of the setup that ends with a gated target. -/
def gateTarget (io : SetupIo) : Setup Unit := do
  Task.lift (reject "MCSEALED-PRIVATE-ABI: native GNU target required"
    (io.arch = .other ∨ io.gnu = false))
  Task.lift io.filter
  Task.lift io.prelaunch
  Task.lift io.prepared
  Task.lift io.boundary
  assign fun p => { p with launch := .unknown }
  Task.lift io.providerNetwork
  Task.lift io.namespaceSpawned
  Task.lift io.workerPidfd
  Task.lift io.guardianStarted
  let (pid, namespaceIdentity) ← Task.lift io.observed
  assign fun p =>
    { p with
      targetPid := if pid = 0 then none else some pid
      networkNamespace := some namespaceIdentity
      launch := .gatedUnreleased }

/-- The release of the target, unless the frontend has cancelled before. -/
def releaseTarget (io : SetupIo) : Setup Unit := do
  Task.lift io.relay
  Task.lift io.releasePrepared
  let cancelled ← Task.lift io.cancelled
  if cancelled then
    assign fun p => { p with outcome := .interrupted }
    Task.lift (.error "MCSEALED-PRIVATE-CANCELLED: frontend cancelled before release")
  -- Both clocks are recorded once the byte is sent, and not when the release fails.
  let release := releaseOperational io.release io.record
  assign fun p =>
    match release with
    | .ok sampled =>
      { p with
        releaseMonotonicMillis := some sampled
        releaseObserved := some io.releasedAt
        launch := .releaseIssued
        byteSent := true }
    | .error _ => p
  let _ ← Task.lift release
  return ()

/-- The deadline of the execution: an attempt duration starts at the release. -/
def releasedDeadline (io : SetupIo) (released : Option ℕ) : Except String (Option ℕ) :=
  match io.attemptDeadlineMillis with
  | none => .ok io.executionDeadline
  | some duration => do
    let at' ← okOr "MCSEALED-PRIVATE-DEADLINE: successful release has no native instant" released
    reject "MCSEALED-PRIVATE-DEADLINE: released attempt deadline exceeds native range"
      (io.instantLimit < at' + duration)
    return some (at' + duration)

/-- A deadline that has passed replaces the outcome of a failed exec. -/
def noteDeadline (deadline : Option ℕ) (now : ℕ) : Setup Unit :=
  assign fun p => if expired deadline now then { p with outcome := .deadline } else p

def monitorResult : PrivateMonitorOutcome → OutcomeKindV1
  | .completed => .completed
  | .deadlineExceeded => .deadline
  | .memoryOom => .confirmedMemoryLimit
  | .controlledCancellation | .frontendLost | .revoked => .interrupted

/-- The observation of the exec, and the monitor of the target. -/
def runTarget (io : SetupIo) (deadline : Option ℕ) : Setup Unit := do
  match io.execObservation with
  | .ok .execObservedAndDetached =>
    assign fun p =>
      { p with execObserved := true, launch := .execObserved, outcome := .providerFailure }
    let outcome ← Task.lift io.monitored
    assign fun p => { p with monitorOutcome := some outcome, outcome := monitorResult outcome }
  | .ok (.failed phase detail) =>
    assign fun p => { p with launch := .execFailed }
    noteDeadline deadline io.nowObserved
    Task.lift (.error ("MCSEALED-PRIVATE-EXEC: phase " ++ toString phase.toNat ++ ": " ++ detail))
  | .error e =>
    noteDeadline deadline io.nowObserved
    Task.lift (.error e)

def setupAttempt (io : SetupIo) : Setup Unit := do
  gateTarget io
  releaseTarget io
  let released ← Task.inspect Progress.releaseObserved
  let deadline ← Task.lift (releasedDeadline io released)
  if expired deadline io.nowReleased then
    assign fun p => { p with outcome := .deadline }
  else runTarget io deadline

/-! ## The terminal -/

/-- The fields of a terminal that do not depend on the run. -/
structure TerminalHeader where
  format : String
  revision : ℕ
  provider : PublicProviderBindingV1
  nativeAbi : String
  attemptId : Nonce128
  requestSha256 : DiagnosticSha256
  admissionMetadata : RuntimePrivateAdmissionSnapshot

/-- The first check of `PrivateRuntimeTerminal::validate`. -/
def TerminalHeader.isValid (h : TerminalHeader) : Bool :=
  decide (h.format = "memcordon.private-runtime-terminal" ∧ h.revision = 1 ∧
    h.attemptId ≠ List.Vector.replicate 16 0 ∧ h.provider.isConsistent = true ∧
    (h.nativeAbi = "x86_64-unknown-linux-gnu" ∨ h.nativeAbi = "aarch64-unknown-linux-gnu"))

/-- A terminal with its header and its error. -/
structure BuiltTerminal where
  header : TerminalHeader
  facts : PrivateRuntimeTerminal
  error : Option (BoundedText 4096)

/-- The termination in a raw wait status: `WIFEXITED` and `WEXITSTATUS`, or `WIFSIGNALED` and
`WTERMSIG`. -/
def nativeTermination (raw : ℤ) : Option ChildTermination :=
  if raw % 128 = 0 then some (.exitCode (raw / 256 % 256))
  else if raw % 128 ≠ 127 then some (.unixSignal (raw % 128))
  else none

/-- What the steps after the setup and of the owner return. -/
structure BrokerIo where
  setup : SetupIo
  retire : RetireIo
  account : Except String Unit

def errorOf {α : Type} : Except String α → List String
  | .ok _ => []
  | .error e => [e]

/-- The errors of the setup, of the retirement, and of the account of a retired attempt. -/
def errors (setup : Except String Unit) (retired : Except String PrivateRetirementObservation)
    (account : Except String Unit) : List String :=
  errorOf setup ++ match retired with
    | .ok _ => errorOf account
    | .error e => [e]

/-- The error of a terminal: all errors in one text. -/
def joined (texts : List String) : Except String (Option (BoundedText 4096)) :=
  if texts = [] then .ok none
  else
    let detail := "; ".intercalate texts
    (boundedText 4096 (if (CodedText.bytes detail).length ≤ 4096 then detail
      else "private runtime failure detail exceeded diagnostic bound")).map some

def nativeAbi : Arch → Except String String
  | .x8664 => .ok "x86_64-unknown-linux-gnu"
  | .aarch64 => .ok "aarch64-unknown-linux-gnu"
  | .other => .error "private native ABI unsupported"

section Terminal

variable [Sha256]

def TerminalHeader.facts (h : TerminalHeader) (p : Progress) (texts : List String)
    (retired : Except String PrivateRetirementObservation) (account : Except String Unit) :
    PrivateRuntimeTerminal where
  headerValid := h.isValid
  admissionValid := h.admissionMetadata.validate.isOk
  launch := p.launch
  authorizationOffsetMillis := p.releaseObserved.map (min · (2 ^ 64 - 1))
  authorizationMonotonicMillis := p.releaseMonotonicMillis
  targetPid := p.targetPid
  networkNamespace := p.networkNamespace
  execObserved := p.execObserved
  postExecDescriptorCount := if p.execObserved then some 3 else none
  outcome := if texts ≠ [] ∧ p.outcome = .completed then .providerFailure else p.outcome
  nativeTermination := retired.toOption.bind fun observation =>
    observation.candidateExitCode.bind nativeTermination
  cleanup := if retired.isOk ∧ account.isOk then .complete else .incomplete
  accountReservationRetired := retired.isOk && account.isOk
  namespaceReferencesClosed := retired.isOk

/-- The terminal that `execute_brokered` builds after the setup and the retirement. -/
def buildTerminal (a : Admitted) (arch : Arch) (p : Progress) (setup : Except String Unit)
    (retired : Except String PrivateRetirementObservation) (account : Except String Unit) :
    Except String BuiltTerminal := do
  let texts := errors setup retired account
  let error ← joined texts
  let abi ← nativeAbi arch
  let header : TerminalHeader :=
    ⟨"memcordon.private-runtime-terminal", 1, a.provider, abi, a.attemptId, a.requestSha256,
      a.metadata⟩
  return ⟨header, header.facts p texts retired account, error⟩

/-- `PrivateRuntimeTerminal::validate` -/
def BuiltTerminal.validate (t : BuiltTerminal) : Except String Unit := do
  reject "private terminal namespace/provider/attempt differs" (t.header.isValid = false)
  t.header.admissionMetadata.validate
  reject "private terminal actual launch/exec/retirement facts conflict" (t.facts.validate = false)

variable [JournalWire]

/-- The result of `retire`, for the owner as its operations in the setup have left it. -/
def retirement (io : BrokerIo) (o : PrivateAttemptOwner) :
    Except String PrivateRetirementObservation :=
  ((retireOwned io.retire).run
    { o with monitorOutcome := ((setupAttempt io.setup).run .start).1.monitorOutcome }).2

/-- The terminal of `execute_brokered`. -/
def builtTerminal (a : Admitted) (io : BrokerIo) (o : PrivateAttemptOwner) :
    Except String BuiltTerminal :=
  let (p, setup) := (setupAttempt io.setup).run .start
  buildTerminal a io.setup.arch p setup (retirement io o) io.account

/-- `execute_brokered`, from its setup on. -/
def executeBrokered (a : Admitted) (io : BrokerIo) (o : PrivateAttemptOwner) :
    Except String BuiltTerminal := do
  let terminal ← builtTerminal a io o
  terminal.validate
  return terminal

end Terminal

/-! ## Where the setup stops -/

/-- All the states that the setup can stop in. -/
inductive Reached : Progress → Prop
  | notCreated : Reached .start
  | unknown : Reached { Progress.start with launch := .unknown }
  | gated {pid : ℕ} {net : PrivateNetworkNamespaceIdentity} {outcome : OutcomeKindV1}
    (hnet : net.inode ≠ 0) (houtcome : outcome ≠ .completed) :
    Reached ⟨.gatedUnreleased, none, none, some pid, some net, false, outcome, none, false⟩
  | released {launch : LaunchStateV1} {observed sampled pid : ℕ}
    {net : PrivateNetworkNamespaceIdentity}
    {outcome : OutcomeKindV1} (hlaunch : launch = .releaseIssued ∨
    launch = .execFailed) (hnet : net.inode ≠ 0) (houtcome : outcome ≠ .completed) :
    Reached ⟨launch, some observed, some sampled, some pid, some net, false, outcome, none, true⟩
  | executed {observed sampled pid : ℕ} {net : PrivateNetworkNamespaceIdentity}
    (hnet : net.inode ≠ 0) :
    Reached ⟨.execObserved, some observed, some sampled, some pid, some net, true, .providerFailure,
      none, true⟩
  | monitored {observed sampled pid : ℕ} {net : PrivateNetworkNamespaceIdentity}
    (hnet : net.inode ≠ 0) (outcome : PrivateMonitorOutcome) :
    Reached ⟨.execObserved, some observed, some sampled, some pid, some net, true,
      monitorResult outcome, some outcome, true⟩

/-- A text without a NUL, as `BoundedText` requires. -/
def Acceptable (text : String) : Prop := (0 : UInt8) ∉ CodedText.bytes text

instance decidableAcceptable (text : String) : Decidable (Acceptable text) :=
  inferInstanceAs (Decidable ((0 : UInt8) ∉ CodedText.bytes text))

def Texts {α : Type} (x : Except String α) : Prop := ∀ e, x = .error e → Acceptable e

/-- The errors of the steps of a setup are acceptable. -/
structure SetupIo.AcceptableTexts (io : SetupIo) : Prop where
  filter : Texts io.filter
  prelaunch : Texts io.prelaunch
  prepared : Texts io.prepared
  boundary : Texts io.boundary
  providerNetwork : Texts io.providerNetwork
  namespaceSpawned : Texts io.namespaceSpawned
  workerPidfd : Texts io.workerPidfd
  guardianStarted : Texts io.guardianStarted
  observed : Texts io.observed
  relay : Texts io.relay
  releasePrepared : Texts io.releasePrepared
  cancelled : Texts io.cancelled
  release : Texts (releaseOperational io.release io.record)
  execObservation : Texts io.execObservation
  execFailed : ∀ phase detail, io.execObservation = .ok (.failed phase detail) → Acceptable detail
  monitored : Texts io.monitored

/-- What holds where the setup stops: with an acceptable error, or without one. -/
def Stops (p : Progress) (e : String) : Prop := Reached p ∧ Acceptable e

variable {io : SetupIo}

/-- The observed target has a pid, and its namespace an inode. -/
def SetupIo.ObservesTarget (io : SetupIo) : Prop :=
  ∀ pid net, io.observed = .ok (pid, net) → pid ≠ 0 ∧ net.inode ≠ 0

/-- A gated target that is not released. -/
inductive Gated : Progress → Prop
  | intro {pid : ℕ} {net : PrivateNetworkNamespaceIdentity} (hnet : net.inode ≠ 0) :
    Gated ⟨.gatedUnreleased, none, none, some pid, some net, false, .launchFailure, none, false⟩

theorem ends_gateTarget (htexts : io.AcceptableTexts) (htarget : io.ObservesTarget) :
    (gateTarget io).Ends .start (fun p _ => Gated p) Stops := by
  unfold gateTarget
  refine ends_lift_bind (fun e he => ⟨.notCreated, ?_⟩) fun _ _ => ?_
  · rw [← (reject_eq_error.1 he).2]
    decide +kernel
  refine ends_lift_bind (fun e he => ⟨.notCreated, htexts.filter e he⟩) fun _ _ => ?_
  refine ends_lift_bind (fun e he => ⟨.notCreated, htexts.prelaunch e he⟩) fun _ _ => ?_
  refine ends_lift_bind (fun e he => ⟨.notCreated, htexts.prepared e he⟩) fun _ _ => ?_
  refine ends_lift_bind (fun e he => ⟨.notCreated, htexts.boundary e he⟩) fun _ _ => ?_
  refine ends_act_bind ?_
  refine ends_lift_bind (fun e he => ⟨.unknown, htexts.providerNetwork e he⟩) fun _ _ => ?_
  refine ends_lift_bind (fun e he => ⟨.unknown, htexts.namespaceSpawned e he⟩) fun _ _ => ?_
  refine ends_lift_bind (fun e he => ⟨.unknown, htexts.workerPidfd e he⟩) fun _ _ => ?_
  refine ends_lift_bind (fun e he => ⟨.unknown, htexts.guardianStarted e he⟩) fun _ _ => ?_
  refine ends_lift_bind (fun e he => ⟨.unknown, htexts.observed e he⟩) fun (pid, net) hobserved =>
    ?_
  obtain ⟨hpid, hnet⟩ := htarget pid net hobserved
  change Gated ⟨.gatedUnreleased, none, none, if pid = 0 then none else
    some pid, some net, false, .launchFailure, none, false⟩
  rw [if_neg hpid]
  exact .intro hnet

/-- A released target, before its exec was observed. -/
inductive Released : Progress → Prop
  | intro {observed sampled pid : ℕ} {net : PrivateNetworkNamespaceIdentity}
    (hnet : net.inode ≠ 0) :
    Released ⟨.releaseIssued, some observed, some sampled, some pid, some net, false,
      .launchFailure, none, true⟩

theorem ends_releaseTarget (htexts : io.AcceptableTexts) {p : Progress} (hp : Gated p) :
    (releaseTarget io).Ends p (fun p' _ => Released p') Stops := by
  obtain ⟨hnet⟩ := hp
  unfold releaseTarget
  refine ends_lift_bind (fun e he => ⟨.gated hnet nofun, htexts.relay e he⟩) fun _ _ => ?_
  refine ends_lift_bind (fun e he => ⟨.gated hnet nofun, htexts.releasePrepared e he⟩) fun _ _ => ?_
  refine ends_lift_bind (fun e he => ⟨.gated hnet nofun, htexts.cancelled e he⟩) fun cancelled _ =>
    ?_
  cases cancelled with
  | true =>
    refine ends_act_bind (ends_lift_bind (fun e he => ?_) fun _ hnever => nomatch hnever)
    cases he
    exact ⟨.gated hnet nofun, by decide +kernel⟩
  | false =>
    refine ends_act_bind (ends_lift_bind (fun e he => ?_) fun sampled hsampled => ends_pure ?_)
    · rw [he]
      exact ⟨.gated hnet nofun, htexts.release e he⟩
    · rw [hsampled]
      exact .intro hnet

theorem texts_releasedDeadline (released : Option ℕ) : Texts (releasedDeadline io released) := by
  intro e he
  unfold releasedDeadline at he
  cases hduration : io.attemptDeadlineMillis with
  | none =>
    rw [hduration] at he
    cases he
  | some duration =>
    rw [hduration] at he
    cases released with
    | none =>
      cases he
      decide +kernel
    | some observed =>
      rcases bind_eq_error.1 he with habsent | ⟨_, _, he⟩
      · cases habsent
      · rcases bind_eq_error.1 he with hreject | ⟨_, _, hok⟩
        · rw [← (reject_eq_error.1 hreject).2]
          decide +kernel
        · cases hok

/-- The deadline changes the outcome of a released target, and nothing else. -/
theorem reached_noteDeadline {launch : LaunchStateV1} {observed sampled pid : ℕ}
    {net : PrivateNetworkNamespaceIdentity}
    (hlaunch : launch = .releaseIssued ∨ launch = .execFailed) (hnet : net.inode ≠ 0)
    (late : Bool) :
    Reached (if late then ⟨launch, some observed, some sampled, some pid, some net, false,
      .deadline, none, true⟩
      else ⟨launch, some observed, some sampled, some pid, some net, false, .launchFailure, none,
        true⟩) := by
  cases late with
  | true | false => exact .released hlaunch hnet nofun

theorem acceptable_append {a b : String} (ha : Acceptable a) (hb : Acceptable b) :
    Acceptable (a ++ b) := by
  unfold Acceptable at ha hb ⊢
  rw [CodedText.bytes_append, List.mem_append, not_or]
  exact ⟨ha, hb⟩

theorem acceptable_phase (phase : UInt8) : Acceptable (toString phase.toNat) := by
  have hall : ∀ n : Fin 256, Acceptable (toString n.val) := by decide +kernel
  exact hall ⟨phase.toNat, phase.toNat_lt⟩

theorem acceptable_execFailure (phase : UInt8) {detail : String} (h : Acceptable detail) :
    Acceptable ("MCSEALED-PRIVATE-EXEC: phase " ++ toString phase.toNat ++ ": " ++ detail) :=
  acceptable_append
    (acceptable_append (acceptable_append (by decide +kernel) (acceptable_phase phase))
    (by decide +kernel)) h

theorem ends_runTarget (htexts : io.AcceptableTexts) {p : Progress} (hp : Released p)
    (deadline : Option ℕ) :
    (runTarget io deadline).Ends p (fun p' _ => Reached p') Stops := by
  obtain ⟨hnet⟩ := hp
  unfold runTarget
  cases hexec : io.execObservation with
  | ok observation =>
    cases observation with
    | execObservedAndDetached =>
      refine ends_act_bind (ends_lift_bind (fun e he => ⟨.executed hnet, htexts.monitored e he⟩) ?_)
      exact fun outcome _ => Reached.monitored hnet outcome
    | failed phase detail =>
      refine ends_act_bind (ends_act_bind (ends_lift (fun e he => ?_) nofun))
      cases he
      exact ⟨reached_noteDeadline (.inr rfl) hnet _,
        acceptable_execFailure phase (htexts.execFailed phase detail hexec)⟩
  | error e =>
    refine ends_act_bind (ends_lift (fun e' he => ?_) nofun)
    cases he
    exact ⟨reached_noteDeadline (.inl rfl) hnet _, htexts.execObservation e hexec⟩

/-- **All the states that the setup stops in**, with or without an error. -/
theorem ends_setupAttempt (htexts : io.AcceptableTexts) (htarget : io.ObservesTarget) :
    (setupAttempt io).Ends .start (fun p _ => Reached p) Stops := by
  refine ends_bind ((ends_gateTarget htexts htarget).mono ?_ fun _ _ h => h)
  intro p _ hgated
  refine ends_bind ((ends_releaseTarget htexts hgated).mono ?_ fun _ _ h => h)
  intro p _ hreleased
  obtain ⟨hnet⟩ := hreleased
  refine ends_inspect_bind (ends_lift_bind (fun e he => ?_) fun deadline _ => ?_)
  · exact ⟨.released (.inl rfl) hnet nofun, texts_releasedDeadline _ e he⟩
  · cases hlate : expired deadline io.nowReleased with
    | true => exact Reached.released (.inl rfl) hnet nofun
    | false => exact ends_runTarget htexts (.intro hnet) deadline

/-! ## What the terminal says -/

theorem acceptable_intercalate {mark : String} (hmark : Acceptable mark) {texts : List String}
    (htexts : ∀ text ∈ texts, Acceptable text) : Acceptable (mark.intercalate texts) := by
  induction texts with
  | nil =>
    rw [String.intercalate_nil]
    decide
  | cons text rest ih =>
    have hrest := ih fun other hother => htexts other (List.mem_cons_of_mem text hother)
    cases rest with
    | nil =>
      rw [String.intercalate_singleton]
      exact htexts text List.mem_cons_self
    | cons next rest =>
      rw [String.intercalate_cons_cons]
      exact acceptable_append (acceptable_append (htexts text List.mem_cons_self) hmark) hrest

/-- Acceptable errors are joined to an error of a terminal. -/
theorem joined_eq_ok {texts : List String} (htexts : ∀ text ∈ texts, Acceptable text) :
    ∃ error, joined texts = .ok error := by
  cases texts with
  | nil => exact ⟨none, rfl⟩
  | cons text rest =>
    have hdetail : Acceptable ("; ".intercalate (text :: rest)) :=
      acceptable_intercalate (by decide +kernel) htexts
    unfold joined
    rw [if_neg (List.cons_ne_nil text rest)]
    dsimp only
    split_ifs with hshort
    · unfold boundedText
      rw [dif_pos ⟨hshort, hdetail⟩]
      exact ⟨_, rfl⟩
    · unfold boundedText
      rw [dif_pos ⟨by decide +kernel, by decide +kernel⟩]
      exact ⟨_, rfl⟩

section Facts

variable {setup account : Except String Unit} {retired : Except String PrivateRetirementObservation}

theorem acceptable_errors (hsetup : Texts setup) (hretired : Texts retired)
    (haccount : Texts account) :
    ∀ text ∈ errors setup retired account, Acceptable text := by
  have hone : ∀ {α : Type} {x : Except String α}, Texts x →
      ∀ text ∈ errorOf x, Acceptable text := by
    intro α x hx text htext
    cases x with
    | ok a => cases htext
    | error e =>
      rw [List.mem_singleton.1 htext]
      exact hx e rfl
  intro text htext
  rcases List.mem_append.1 htext with hfirst | hsecond
  · exact hone hsetup text hfirst
  · cases retired with
    | ok observation => exact hone haccount text hsecond
    | error e => exact hone hretired text hsecond

/-- Without errors the attempt and its account are retired. -/
theorem retired_of_errors_eq_nil (h : errors setup retired account = []) :
    ∃ observation, retired = .ok observation ∧ account = .ok () := by
  obtain ⟨-, hrest⟩ := List.append_eq_nil_iff.1 h
  cases retired with
  | error e => cases hrest
  | ok observation =>
    cases account with
    | error e => cases hrest
    | ok u => exact ⟨observation, rfl, rfl⟩

theorem isSome_nativeTermination {raw : ℤ} (h : raw % 128 ≠ 127) :
    (nativeTermination raw).isSome = true := by
  unfold nativeTermination
  split_ifs <;> rfl

/-- What the recorded variables have in common, wherever the setup stops. -/
structure Agrees (p : Progress) : Prop where
  exec : p.execObserved = (p.launch == .execObserved)
  clocks : p.releaseObserved.isSome = p.releaseMonotonicMillis.isSome
  released : p.releaseObserved.isSome =
    (p.launch == .releaseIssued || p.launch == .execObserved || p.launch == .execFailed)
  sent : p.byteSent = p.releaseObserved.isSome
  network : (!p.execObserved || p.networkNamespace.isSome) = true
  inode : p.networkNamespace.all (·.inode != 0) = true
  pid : (p.targetPid.isSome || p.launch == .notCreated || p.launch == .unknown) = true
  completed : p.outcome = .completed → p.execObserved = true ∧ p.monitorOutcome = some .completed

theorem Reached.agrees {p : Progress} (h : Reached p) : Agrees p := by
  cases h with
  | notCreated | unknown => exact ⟨rfl, rfl, rfl, rfl, rfl, rfl, rfl, nofun⟩
  | gated hnet houtcome =>
    exact ⟨rfl, rfl, rfl, rfl, rfl, bne_iff_ne.2 hnet, rfl,
      fun hcompleted => absurd hcompleted houtcome⟩
  | released hlaunch hnet houtcome =>
    rcases hlaunch with rfl | rfl
    · exact ⟨rfl, rfl, rfl, rfl, rfl, bne_iff_ne.2 hnet, rfl,
        fun hcompleted => absurd hcompleted houtcome⟩
    · exact ⟨rfl, rfl, rfl, rfl, rfl, bne_iff_ne.2 hnet, rfl,
        fun hcompleted => absurd hcompleted houtcome⟩
  | executed hnet => exact ⟨rfl, rfl, rfl, rfl, rfl, bne_iff_ne.2 hnet, rfl, nofun⟩
  | monitored hnet outcome =>
    refine ⟨rfl, rfl, rfl, rfl, rfl, bne_iff_ne.2 hnet, rfl, fun hcompleted => ⟨rfl, ?_⟩⟩
    cases outcome with
    | completed => rfl
    | _ => cases hcompleted

/-- An attempt whose cleanup is complete has its account and its namespace released. -/
theorem cleanup_facts (retired account : Bool) :
    ((if retired = true ∧ account = true then CleanupStateV1.complete else .incomplete) !=
      .complete || (retired && account && retired)) = true := by
  cases retired <;> cases account <;> rfl

variable [Sha256]

/-- The facts of a terminal agree with each other in every state that the setup stops in. -/
theorem validate_facts {h : TerminalHeader} {p : Progress} (hheader : h.isValid = true)
    (hmetadata : h.admissionMetadata.validate = .ok ()) (hp : Agrees p)
    (hcompleted : p.monitorOutcome = some .completed → ∀ observation, retired = .ok observation →
      ∃ raw, observation.candidateExitCode = some raw ∧ raw % 128 ≠ 127) :
    (h.facts p (errors setup retired account) retired account).validate = true := by
  have hvalid : h.admissionMetadata.validate.isOk = true := by
    rw [hmetadata]
    rfl
  unfold PrivateRuntimeTerminal.validate PrivateRuntimeTerminal.released TerminalHeader.facts
  simp only [Bool.and_eq_true, beq_iff_eq, Option.isSome_map]
  refine ⟨⟨⟨⟨⟨⟨⟨⟨⟨⟨hheader, hvalid⟩, hp.exec⟩, hp.clocks⟩, hp.released⟩, trivial⟩, hp.network⟩,
    hp.inode⟩, hp.pid⟩, cleanup_facts _ _⟩, ?_⟩
  by_cases houtcome : p.outcome = .completed
  · obtain ⟨hexec, hmonitor⟩ := hp.completed houtcome
    by_cases herrors : errors setup retired account = []
    · obtain ⟨observation, rfl, rfl⟩ := retired_of_errors_eq_nil herrors
      obtain ⟨raw, hraw, hstatus⟩ := hcompleted hmonitor observation rfl
      have hterminated : (observation.candidateExitCode.bind nativeTermination).isSome = true := by
        rw [hraw]
        exact isSome_nativeTermination hstatus
      have hcomplete :
          (p.execObserved && true &&
            (observation.candidateExitCode.bind nativeTermination).isSome) =
          true := by
        rw [hexec, hterminated]
        rfl
      exact Bool.or_eq_true_iff.2 (.inr hcomplete)
    · rw [if_pos ⟨herrors, houtcome⟩]
      rfl
  · rw [if_neg fun hboth => houtcome hboth.2]
    exact Bool.or_eq_true_iff.2 (.inl (bne_iff_ne.2 houtcome))

omit [Sha256] in
theorem setup_stops {io : SetupIo} (htexts : io.AcceptableTexts) (htarget : io.ObservesTarget) :
    Agrees ((setupAttempt io).run .start).1 ∧ Texts ((setupAttempt io).run .start).2 := by
  have hends := ends_setupAttempt htexts htarget
  generalize hstop : (setupAttempt io).run .start = stop
  obtain ⟨p, e | u⟩ := stop
  · obtain ⟨hreached, htext⟩ := hends.of_error hstop
    exact ⟨hreached.agrees, fun e' he => Except.error.inj he ▸ htext⟩
  · exact ⟨(hends.of_ok hstop).agrees, nofun⟩

/-- A terminal that is built from what the setup left passes its validation. -/
theorem validate_buildTerminal {a : Admitted} {arch : Arch} {p : Progress} {t : BuiltTerminal}
    (hp : Agrees p)
    (hcompleted : p.monitorOutcome = some .completed → ∀ observation, retired = .ok observation →
      ∃ raw, observation.candidateExitCode = some raw ∧ raw % 128 ≠ 127)
    (h : buildTerminal a arch p setup retired account = .ok t) :
    t.validate = .ok () ∧ t.facts.released = p.byteSent := by
  obtain ⟨error, -, h⟩ := bind_eq_ok.1 h
  obtain ⟨abi, habi, h⟩ := bind_eq_ok.1 h
  cases h
  have hnative : abi = "x86_64-unknown-linux-gnu" ∨ abi = "aarch64-unknown-linux-gnu" := by
    cases arch with
    | x8664 => exact .inl (Except.ok.inj habi).symm
    | aarch64 => exact .inr (Except.ok.inj habi).symm
    | other => cases habi
  have hheader : TerminalHeader.isValid ⟨"memcordon.private-runtime-terminal", 1, a.provider, abi,
      a.attemptId, a.requestSha256, a.metadata⟩ = true :=
    decide_eq_true ⟨rfl, rfl, a.attemptId_ne, a.provider_consistent, hnative⟩
  refine ⟨?_, hp.released.symm.trans hp.sent.symm⟩
  unfold BuiltTerminal.validate
  rw [reject_bind_eq_ok, unit_bind_eq_ok, reject_eq_ok]
  refine ⟨by rw [hheader]; nofun, a.metadata_valid, ?_⟩
  rw [validate_facts hheader a.metadata_valid hp hcompleted]
  nofun

variable [JournalWire]

/-- **The terminal of a started attempt passes its own validation, and says that the target was
released exactly when the byte was sent.** -/
theorem terminal_validates (a : Admitted) (io : BrokerIo) (o : PrivateAttemptOwner)
    (htexts : io.setup.AcceptableTexts)
    (hretired : Texts (retirement io o)) (haccount : Texts io.account)
    (htarget : io.setup.ObservesTarget)
    (hstatus : ∀ observation raw, retirement io o = .ok observation →
      observation.candidateExitCode = some raw → raw % 128 ≠ 127) :
    (io.setup.arch ≠ .other → ∃ t, executeBrokered a io o = .ok t ∧ builtTerminal a io o = .ok t) ∧
    ∀ t, builtTerminal a io o = .ok t → t.validate = .ok () ∧
      (t.facts.released = true ↔ ((setupAttempt io.setup).run .start).1.byteSent = true) := by
  obtain ⟨hagrees, hsetup⟩ := setup_stops htexts htarget
  have hcompleted : ((setupAttempt io.setup).run .start).1.monitorOutcome = some .completed →
      ∀ observation, retirement io o = .ok observation →
        ∃ raw, observation.candidateExitCode = some raw ∧ raw % 128 ≠ 127 := by
    intro hmonitor observation hobservation
    obtain ⟨raw, hraw⟩ := Option.isSome_iff_exists.1 (exitCode_of_completed hobservation hmonitor)
    exact ⟨raw, hraw, hstatus observation raw hobservation hraw⟩
  have hvalid : ∀ t, builtTerminal a io o = .ok t → t.validate = .ok () ∧
      t.facts.released = ((setupAttempt io.setup).run .start).1.byteSent := fun t ht =>
    validate_buildTerminal hagrees hcompleted ht
  refine ⟨fun harch => ?_, fun t ht => ⟨(hvalid t ht).1, by rw [(hvalid t ht).2]⟩⟩
  obtain ⟨error, herror⟩ := joined_eq_ok (acceptable_errors hsetup hretired haccount)
  obtain ⟨abi, habi⟩ : ∃ abi, nativeAbi io.setup.arch = .ok abi := by
    cases harch' : io.setup.arch with
    | x8664 | aarch64 => exact ⟨_, rfl⟩
    | other => exact absurd harch' harch
  obtain ⟨t, ht⟩ : ∃ t, builtTerminal a io o = .ok t :=
    ⟨_, bind_eq_ok.2 ⟨error, herror, bind_eq_ok.2 ⟨abi, habi, rfl⟩⟩⟩
  exact ⟨t, bind_eq_ok.2 ⟨t, ht, unit_bind_eq_ok.2 ⟨(hvalid t ht).1, rfl⟩⟩, ht⟩

end Facts

namespace Sample

/-- The record of an attempt whose target runs. -/
def observed : PrivateAttempt.PrivateAttemptRecordV4 :=
  { PrivateAttempt.Sample.intended with
    phase := .executionObserved
    releaseKnowledge := .execObserved }

@[reducible] def retiredWire : JournalWire :=
  PrivateAttempt.Sample.tableWire
    [{ observed with phase := .retiring }, { observed with phase := .retired }]

section

attribute [local instance] zeroHash

def admitted : Admitted where
  provider := sampleProvider
  attemptId := List.Vector.replicate 16 1
  requestSha256 := List.Vector.replicate 32 0
  metadata := PrivateAttempt.Sample.metadata
  provider_consistent := by decide +kernel
  attemptId_ne := by decide
  metadata_valid := by decide +kernel

end

def completes : SetupIo where
  arch := .x8664
  gnu := true
  filter := .ok ()
  prelaunch := .ok ()
  prepared := .ok ()
  boundary := .ok ()
  providerNetwork := .ok ()
  namespaceSpawned := .ok ()
  workerPidfd := .ok ()
  guardianStarted := .ok ()
  observed := .ok (7, ⟨4, 9⟩)
  relay := .ok ()
  releasePrepared := .ok ()
  cancelled := .ok false
  record := PrivateAttempt.Sample.intended
  release := ⟨.ok (), true, true, .ok (), .ok 50, .ok ()⟩
  releasedAt := 20
  attemptDeadlineMillis := some 1000
  executionDeadline := none
  instantLimit := 100000
  nowReleased := 21
  execObservation := .ok .execObservedAndDetached
  nowObserved := 22
  monitored := .ok .completed

/-- A run whose target exits with the code 3 and which is retired. -/
def completed : BrokerIo where
  setup := completes
  retire :=
    ⟨.allOk, ⟨.ok (), .ok (), .ok (), .ok none, .ok (), .ok ()⟩, .allOk,
      ⟨.allOk, .ok (), .ok ()⟩, .allOk⟩
  account := .ok ()

/-- The owner of it, with the wait status that the monitor has read. -/
def reaped [Sha256] : PrivateAttemptOwner :=
  ⟨PrivateAttempt.Sample.journal observed, true, true, true, true, true, true, true, true,
    true, true, true, some 768, true, some .completed⟩

theorem acceptableTexts_completes : completes.AcceptableTexts :=
  ⟨nofun, nofun, nofun, nofun, nofun, nofun, nofun, nofun, nofun, nofun, nofun, nofun, nofun, nofun,
    nofun, nofun⟩

end Sample

section

attribute [local instance] zeroHash Sample.retiredWire

open Sample

theorem retirement_completed : retirement completed reaped =
    .ok ⟨PrivateAttempt.Sample.allocated.attemptId.bytes, none, some 768⟩ := by
  decide +kernel

/-- The terminal of a completed attempt is built, passes its validation, and says that the target
was released. -/
theorem completed_terminal_validates : (∃ t, executeBrokered admitted completed reaped = .ok t ∧
      builtTerminal admitted completed reaped = .ok t) ∧
    ∀ t, builtTerminal admitted completed reaped = .ok t →
      t.validate = .ok () ∧ t.facts.released = true := by
  have hlaw := terminal_validates admitted completed reaped acceptableTexts_completes
    (fun e he => nomatch retirement_completed.symm.trans he) nofun ?_ ?_
  · refine ⟨hlaw.1 nofun, fun t ht => ?_⟩
    obtain ⟨hvalid, hreleased⟩ := hlaw.2 t ht
    exact ⟨hvalid, hreleased.2 rfl⟩
  · rintro pid net ⟨⟩
    exact ⟨by decide, by decide⟩
  · intro observation raw hobservation hraw
    cases retirement_completed.symm.trans hobservation
    cases hraw
    decide

end

end MemCordon.PrivateRuntime
