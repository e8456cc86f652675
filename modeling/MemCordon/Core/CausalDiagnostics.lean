import MemCordon.Foundations.Counter
import MemCordon.Workload.Contract

/-!
# The causal journal of an attempt

The journal of `diagnostics.rs` that an attempt record carries: the first failure, at most eight
later events, the number of events so far, and a count of the events that found no room.

* `Numbered` says that events carry consecutive numbers, and `Ordered` what `isConsistent` asks of a
  journal.
* `Ordered.push` and `Ordered.first` are the two ways in which an event keeps the order; `Late` is
  the state that no call leaves again.
* `noteAll_isConsistent_iff`: a journal is consistent exactly when its first event filled the
  original failure, or none did.
-/

namespace MemCordon.CausalDiagnostics

open Workload Fallible Counter

/-! ## Events -/

def causalDiagnosticSchema : ℕ := 1

def maxDiagnosticSecondaryEvents : ℕ := 8

/-- `WINDOWS_MAX_TERMINALIZATION_SECONDARY_ERRORS` -/
def maxTerminalizationSecondaryErrors : ℕ := 4

/-- The largest value of an unsigned 32-bit counter. -/
def u32Max : ℕ := 2 ^ 32 - 1

/-- `DiagnosticOriginV1` -/
inductive DiagnosticOrigin
  | launcher | controlRelay | guardianRecovery | startupRecovery | recordWriter | clientTransport
  deriving DecidableEq

/-- `FailureCategoryV1` -/
inductive FailureCategory
  | admission | launch | monitor | cleanup | terminalization | transport | persistence | recovery
  deriving DecidableEq

/-- `FailureOperationV1` -/
inductive FailureOperation
  | authenticateCaller | resolveAdmission | installPolicy | verifyPolicy | startGuardian
    | createTarget
  | verifySuspendedTarget | authorizeTarget | resumeTarget | queryJobProcessIds
    | observeProcessIdentity
  | accumulateProcessInventory | readJobNotification | queryPeakMemory | pollTarget | readTargetExit
  | checkGuardian | checkDesktopAuthority | readControlFrame | terminateJob | waitJobEmpty
    | retireGuardian
  | closeFinalHandles | buildRejection | validateTerminalResponse | serializeTerminalResponse
    | storeRecord
  | deliverResponse | acknowledgeTerminal | retireOutbox | inspectRecoveryRecord | unexpectedUnwind
  | unclassifiedProviderOperation | queryJobAccounting
  deriving DecidableEq

/-- `FailureCodeV1` -/
inductive FailureCode
  | processInventoryObservation | processInventoryCapacity | jobQuery | guardianLoss | targetCreate
    | targetResume
  | targetQuery | controlTransport | policyAdmission | policyReadback | terminalBinding | recordIo
  | recordAuthentication | unexpectedProviderFailure | policyRevoked
  deriving DecidableEq

/-- `SafeMessageIdV1` -/
inductive SafeMessageId
  | originalFailureCaptured | receiptRequiredForPosttarget | peerDisconnected | commitNotConfirmed
  | observationUnavailableAfterOwnerLoss
  deriving DecidableEq

/-- `AttemptObservationPhaseV1` -/
inductive ObservationPhase
  | beforeAuthorization | authorizedBeforeResume | resumeAttempted | monitoring | targetExitObserved
    | cleaning
  | terminalizing | recovery
  deriving DecidableEq

/-- `OriginalUnavailableReasonV1` -/
inductive OriginalUnavailableReason
  | noEarlierErrorObserved | workerLostBeforeObservation | observationNotDurableBeforeServiceLoss
  | recordUnavailable | recordAuthenticationFailed | legacyProvider | retentionExpired
  deriving DecidableEq

/-- `NativeFailureCodeV1` -/
inductive NativeFailureCode
  | win32 (code : UInt32)
  | ntStatus (code : UInt32)
  | hResult (code : UInt32)
  | winsock (code : Int32)
  | errno (code : Int32)
  | legacyUntyped (code : Int32)
  deriving DecidableEq

/-- `SafeDiagnosticDetailV1` -/
inductive SafeDiagnosticDetail
  | noAdditionalDetail
  | countAndLimit (observed limit : UInt32)
  | providerMessage (id : SafeMessageId)
  deriving DecidableEq

/-- `TerminalizationReferenceV1` -/
inductive TerminalizationReference
  | firstError
  | secondaryError (index : UInt8)
  deriving DecidableEq

/-- `CausalEventV1` -/
structure CausalEvent where
  sequence : ℕ
  origin : DiagnosticOrigin
  category : FailureCategory
  operation : FailureOperation
  code : FailureCode
  nativeCode : Option NativeFailureCode
  observedPhase : ObservationPhase
  safeDetail : SafeDiagnosticDetail
  detailRedacted : Bool
  detailTruncated : Bool
  terminalizationReference : Option TerminalizationReference
  deriving DecidableEq

/-- The event names a secondary error past the bound of a terminalization failure. -/
def CausalEvent.misplaced (e : CausalEvent) : Bool :=
  match e.terminalizationReference with
  | some (.secondaryError index) => maxTerminalizationSecondaryErrors ≤ index.toNat
  | _ => false

/-! ## The journal -/

/-- `OriginalFailureV1` -/
inductive OriginalFailure
  | observed (event : CausalEvent)
  | unavailable (reason : OriginalUnavailableReason)
  deriving DecidableEq

def OriginalFailure.event? : OriginalFailure → Option CausalEvent
  | observed event => some event
  | unavailable _ => none

/-- `DiagnosticLossV1` -/
structure DiagnosticLoss where
  secondaryEventsOmitted : ℕ := 0
  secondaryCountSaturated : Bool := false
  persistenceFailureObserved : Bool := false
  writerUnavailable : Bool := false
  deriving DecidableEq

/-- One more event was left out: the count stays at its largest value and says so. -/
def DiagnosticLoss.countOmitted (loss : DiagnosticLoss) : DiagnosticLoss :=
  if loss.secondaryEventsOmitted < u32Max then
    { loss with secondaryEventsOmitted := loss.secondaryEventsOmitted + 1 }
  else
    { loss with secondaryEventsOmitted := u32Max, secondaryCountSaturated := true }

/-- `WindowsCausalDiagnosticsV1`. A journal without values is
`WindowsCausalDiagnosticsV1::default`. -/
structure Journal where
  schemaVersion : ℕ := causalDiagnosticSchema
  original : OriginalFailure := .unavailable .noEarlierErrorObserved
  secondary : BoundedVec CausalEvent maxDiagnosticSecondaryEvents := .empty
  sequence : ℕ := 0
  durableThroughSequence : Option ℕ := none
  loss : DiagnosticLoss := {}
  deriving DecidableEq

namespace Journal

/-- The numbered event is kept as a secondary one, or counted as left out. -/
def keep (j : Journal) (event : CausalEvent) : Journal :=
  match j.secondary.tryPush event with
  | some secondary => { j with secondary }
  | none => { j with loss := j.loss.countOmitted }

/-- The number of the next event. -/
def nextSequence (j : Journal) : Except String ℕ :=
  okOr "diagnostic sequence exhausted" (checkedAdd j.sequence 1)

/-- `WindowsCausalDiagnosticsV1::observe_secondary`. A call that fails changes nothing. -/
def observeSecondary (j : Journal) (event : CausalEvent) : Except String Journal := do
  let sequence ← j.nextSequence
  return keep { j with sequence } { event with sequence }

/-- `WindowsCausalDiagnosticsV1::observe`. A call that fails changes nothing. -/
def observe (j : Journal) (event : CausalEvent) : Except String Journal := do
  let sequence ← j.nextSequence
  return if j.original = .unavailable .noEarlierErrorObserved then
    { j with sequence, original := .observed { event with sequence } }
  else
    keep { j with sequence } { event with sequence }

/-- The journal says that its writer was not available. -/
def loseWriter (j : Journal) : Journal :=
  { j with loss := { j.loss with writerUnavailable := true } }

/-- The journal after a call whose error is only marked. -/
def settle (j : Journal) : Except String Journal → Journal
  | .ok next => next
  | .error _ => j.loseWriter

/-- The loop of `is_consistent`: the number of the last event, when every event has the number after
the one before it, within the journal's count. -/
def lastSequence (sequence : ℕ) : ℕ → List CausalEvent → Option ℕ
  | previous, [] => some previous
  | previous, event :: events =>
    if event.sequence ≠ previous + 1 ∨ sequence < event.sequence ∨ event.misplaced then none
    else lastSequence sequence event.sequence events

/-- The events that the journal holds, the original failure first. -/
def events (j : Journal) : List CausalEvent := j.original.event?.toList ++ j.secondary.items

/-- `WindowsCausalDiagnosticsV1::is_consistent` -/
def isConsistent (j : Journal) : Bool :=
  if j.schemaVersion ≠ causalDiagnosticSchema ∨
    j.durableThroughSequence.any (fun v => j.sequence < v) then false
  else
    match lastSequence j.sequence 0 j.events with
    | none => false
    | some previous =>
      if 0 < j.loss.secondaryEventsOmitted ∧ j.secondary.items.length ≠ maxDiagnosticSecondaryEvents
        then false
      else if j.loss.secondaryCountSaturated then
        j.loss.secondaryEventsOmitted = u32Max ∧ previous + u32Max < j.sequence
      else j.sequence = previous + j.loss.secondaryEventsOmitted

end Journal

/-! ## Consecutive numbers -/

/-- The events carry the numbers after `previous`, and name no error past the bound. -/
def Numbered : ℕ → List CausalEvent → Prop
  | _, [] => True
  | previous, event :: events =>
    event.sequence = previous + 1 ∧ event.misplaced = false ∧ Numbered (previous + 1) events

theorem numbered_append_singleton {previous : ℕ} {events : List CausalEvent} {event : CausalEvent} :
    Numbered previous (events ++ [event]) ↔
      Numbered previous events ∧ event.sequence = previous + events.length + 1 ∧
      event.misplaced = false := by
  induction events generalizing previous with
  | nil => simp [Numbered]
  | cons head events ih =>
    simp only [List.cons_append, Numbered, ih, List.length_cons, and_assoc]
    rw [show previous + 1 + events.length = previous + (events.length + 1) by omega]

theorem Numbered.lastSequence {sequence previous : ℕ} {events : List CausalEvent}
    (h : Numbered previous events) (hbound : previous + events.length ≤ sequence) :
    Journal.lastSequence sequence previous events = some (previous + events.length) := by
  induction events generalizing previous with
  | nil => rfl
  | cons event events ih =>
    obtain ⟨hnumber, hplaced, htail⟩ := h
    rw [List.length_cons] at hbound ⊢
    have hpass :
        ¬ (event.sequence ≠ previous + 1 ∨ sequence < event.sequence ∨ event.misplaced = true) := by
      rw [hnumber, hplaced]
      simp only [ne_eq, not_true_eq_false, Bool.false_eq_true, or_false, false_or, not_lt]
      omega
    rw [Journal.lastSequence, if_neg hpass, hnumber, ih htail (by omega)]
    congr 1
    omega

/-- What `isConsistent` asks of a journal that left out `omitted` events. -/
structure Ordered (j : Journal) (omitted : ℕ) : Prop where
  schema : j.schemaVersion = causalDiagnosticSchema
  durable : ∀ v ∈ j.durableThroughSequence, v ≤ j.sequence
  numbered : Numbered 0 j.events
  counted : j.sequence = j.events.length + omitted
  full : 0 < omitted → j.secondary.items.length = maxDiagnosticSecondaryEvents
  left : j.loss.secondaryEventsOmitted = min omitted u32Max
  saturated : j.loss.secondaryCountSaturated = decide (u32Max < omitted)

/-- The original failure carries another number than the first. -/
def Late (j : Journal) : Prop := ∃ event, j.original = .observed event ∧ event.sequence ≠ 1

theorem ordered_default : Ordered {} 0 :=
  ⟨rfl, by simp, trivial, rfl, fun h => absurd h (lt_irrefl 0), by simp, by decide⟩

variable {j : Journal} {omitted : ℕ}

theorem Ordered.isConsistent (h : Ordered j omitted) : j.isConsistent = true := by
  have hdurable : j.durableThroughSequence.any (fun v => decide (j.sequence < v)) = false := by
    rw [Option.any_eq_false]
    intro v hv
    simpa using h.durable v hv
  have hlast : Journal.lastSequence j.sequence 0 j.events = some j.events.length := by
    rw [h.numbered.lastSequence (by rw [h.counted]; omega), Nat.zero_add]
  have hfull :
      ¬ (0 < min omitted u32Max ∧ j.secondary.items.length ≠ maxDiagnosticSecondaryEvents) := by
    rintro ⟨hpos, hne⟩
    exact hne (h.full (lt_of_lt_of_le hpos (min_le_left _ _)))
  unfold Journal.isConsistent
  rw [hdurable, hlast, h.left, h.saturated, h.schema]
  simp only [ne_eq, not_true_eq_false, Bool.false_eq_true, or_self, if_false, if_neg hfull,
    decide_eq_true_eq]
  by_cases hsaturated : u32Max < omitted
  · rw [if_pos hsaturated, h.counted]
    exact decide_eq_true ⟨min_eq_right hsaturated.le, by omega⟩
  · rw [if_neg hsaturated, min_eq_left (not_lt.1 hsaturated)]
    exact decide_eq_true h.counted

theorem Late.isConsistent (h : Late j) : j.isConsistent = false := by
  obtain ⟨event, horiginal, hsequence⟩ := h
  have hlast : Journal.lastSequence j.sequence 0 j.events = none := by
    unfold Journal.events
    rw [horiginal]
    exact if_pos (.inl hsequence)
  unfold Journal.isConsistent
  rw [hlast]
  exact ite_self _

/-! ## One event -/

/-- A call of `observe` or of `observe_secondary`. -/
inductive Note
  | primary (event : CausalEvent)
  | secondary (event : CausalEvent)
  deriving DecidableEq

namespace Note

def event : Note → CausalEvent
  | primary event => event
  | secondary event => event

def isPrimary : Note → Bool
  | primary _ => true
  | secondary _ => false

end Note

namespace Journal

def note (j : Journal) : Note → Except String Journal
  | .primary event => j.observe event
  | .secondary event => j.observeSecondary event

/-- The calls in turn. -/
def noteAll (j : Journal) (notes : List Note) : Except String Journal := notes.foldlM note j

/-- The event with the next number is kept as a secondary one. -/
def push (j : Journal) (event : CausalEvent) : Journal :=
  keep { j with sequence := j.sequence + 1 } { event with sequence := j.sequence + 1 }

/-- The journal after a call, while there are numbers left. -/
def noted (j : Journal) (note : Note) : Journal :=
  if note.isPrimary ∧ j.original = .unavailable .noEarlierErrorObserved then
    { j with sequence := j.sequence + 1, original := .observed { note.event with
          sequence := j.sequence + 1 } }
  else j.push note.event

theorem note_of_room (j : Journal) (note : Note) (h : j.sequence + 1 < u64Bound) :
    j.note note = .ok (j.noted note) := by
  have hnext : j.nextSequence = .ok (j.sequence + 1) := okOr_eq_ok.2 (checkedAdd_of_lt h)
  cases note with
  | primary event =>
    simp only [Journal.note, observe, hnext, noted, Note.isPrimary, true_and]
    rfl
  | secondary event =>
    simp only [Journal.note, observeSecondary, hnext, noted, Note.isPrimary, Bool.false_eq_true,
      false_and, if_false]
    rfl

theorem note_of_full (j : Journal) (note : Note) (h : u64Bound ≤ j.sequence + 1) :
    j.note note = .error "diagnostic sequence exhausted" := by
  have hnext : j.nextSequence = .error "diagnostic sequence exhausted" := by
    unfold nextSequence
    rw [checkedAdd_eq_none.2 h]
    rfl
  cases note <;> simp only [Journal.note, observe, observeSecondary, hnext] <;> rfl

theorem keep_sequence (j : Journal) (event : CausalEvent) :
    (j.keep event).sequence = j.sequence := by
  unfold keep
  split <;> rfl

theorem keep_original (j : Journal) (event : CausalEvent) :
    (j.keep event).original = j.original := by
  unfold keep
  split <;> rfl

theorem noted_sequence (j : Journal) (note : Note) : (j.noted note).sequence = j.sequence + 1 := by
  unfold noted
  split
  · rfl
  · exact keep_sequence _ _

/-- The first failure is not replaced. -/
theorem noted_original {j : Journal} {event : CausalEvent} (h : j.original = .observed event)
    (note : Note) :
    (j.noted note).original = .observed event := by
  unfold noted
  rw [h, if_neg fun hcond => OriginalFailure.noConfusion hcond.2]
  exact (keep_original _ _).trans h

theorem noteAll_of_room (j : Journal) (notes : List Note)
    (h : j.sequence + notes.length < u64Bound) :
    j.noteAll notes = .ok (notes.foldl noted j) := by
  induction notes generalizing j with
  | nil => rfl
  | cons note notes ih =>
    rw [List.length_cons] at h
    unfold noteAll
    rw [List.foldlM_cons, note_of_room j note (by omega)]
    exact ih (j.noted note) (by rw [noted_sequence]; omega)

end Journal

/-! ## What an event keeps -/

theorem Ordered.push (h : Ordered j omitted) {event : CausalEvent}
    (hplaced : event.misplaced = false) : ∃ omitted', Ordered (j.push event) omitted' := by
  have hdurable : ∀ v ∈ j.durableThroughSequence, v ≤ j.sequence + 1 :=
    fun v hv => (h.durable v hv).trans (Nat.le_succ _)
  unfold Journal.push Journal.keep
  split
  · rename_i secondary hpush
    obtain ⟨hlength, hitems⟩ := BoundedVec.tryPush_eq_some.1 hpush
    have hnone : omitted = 0 := by
      by_contra hne
      exact absurd (h.full (Nat.pos_of_ne_zero hne)) hlength.ne
    subst hnone
    -- there was room, so nothing was left out and the event comes after all others
    have hevents : Journal.events { j with sequence := j.sequence + 1, secondary } =
        j.events ++ [{ event with sequence := j.sequence + 1 }] := by
      simp only [Journal.events, hitems, List.append_assoc]
    refine ⟨0, ⟨h.schema, hdurable, ?_, ?_, fun hpos => absurd hpos (lt_irrefl 0), h.left,
      h.saturated⟩⟩
    · rw [hevents, numbered_append_singleton]
      exact ⟨h.numbered, by simp only [h.counted]; omega, hplaced⟩
    · rw [hevents, List.length_append, List.length_singleton]
      simp only [h.counted, Nat.add_zero]
  · rename_i hpush
    have hlength : j.secondary.items.length = maxDiagnosticSecondaryEvents := by
      by_contra hne
      have hroom := lt_of_le_of_ne j.secondary.bounded hne
      rw [BoundedVec.tryPush, dif_neg hne] at hpush
      cases hpush
    refine ⟨omitted + 1, ⟨h.schema, hdurable, h.numbered, ?_, fun _ => hlength, ?_, ?_⟩⟩
    · change j.sequence + 1 = j.events.length + (omitted + 1)
      rw [h.counted]
      omega
    · unfold DiagnosticLoss.countOmitted
      rw [h.left]
      split_ifs with hcount <;> simp only <;> omega
    · unfold DiagnosticLoss.countOmitted
      rw [h.left]
      split_ifs with hcount
      · simp only [h.saturated, decide_eq_decide]
        omega
      · exact (decide_eq_true (by omega)).symm

/-- The first event of all may fill the original failure. -/
theorem Ordered.first (h : Ordered j omitted) (hfirst : j.sequence = 0)
    {event : CausalEvent} (hplaced : event.misplaced = false) :
    Ordered { j with
        sequence :=
  j.sequence + 1, original := .observed { event with sequence := j.sequence + 1 } } 0 := by
  have hcounted := h.counted
  have hnone : omitted = 0 := by omega
  have hevents : j.events = [] := List.eq_nil_of_length_eq_zero (by omega)
  have hsecondary : j.secondary.items = [] := (List.append_eq_nil_iff.1 hevents).2
  subst hnone
  refine ⟨h.schema, fun v hv => (h.durable v hv).trans (Nat.le_succ _), ?_, ?_,
    fun hpos => absurd hpos (lt_irrefl 0), h.left, h.saturated⟩
  · simp only [Journal.events, OriginalFailure.event?, Option.toList_some, hsecondary,
      List.append_nil, hfirst]
    exact ⟨rfl, hplaced, trivial⟩
  · simp only [Journal.events, OriginalFailure.event?, Option.toList_some, hsecondary,
      List.append_nil, hfirst]
    rfl

theorem Late.noted (h : Late j) (note : Note) : Late (j.noted note) := by
  obtain ⟨event, horiginal, hsequence⟩ := h
  exact ⟨event, Journal.noted_original horiginal note, hsequence⟩

/-- A primary event after others makes the journal late. -/
theorem late_of_primary {event : CausalEvent}
    (hempty : j.original = .unavailable .noEarlierErrorObserved)
    (hlater : 0 < j.sequence) : Late (j.noted (.primary event)) := by
  refine ⟨_, congrArg Journal.original (if_pos ⟨rfl, hempty⟩), ?_⟩
  simp only [ne_eq]
  omega

/-! ## Every sequence of events -/

/-- The original failure is filled, and the journal is in order. -/
def Started (j : Journal) : Prop :=
  (∃ event, j.original = .observed event) ∧ ∃ omitted, Ordered j omitted

/-- The original failure is not filled, and the journal is in order. -/
def Pending (j : Journal) : Prop :=
  j.original = .unavailable .noEarlierErrorObserved ∧ ∃ omitted, Ordered j omitted

theorem Started.noted (h : Started j) {note : Note} (hplaced : note.event.misplaced = false) :
    Started (j.noted note) := by
  obtain ⟨⟨event, horiginal⟩, omitted, hordered⟩ := h
  refine ⟨⟨event, Journal.noted_original horiginal note⟩, ?_⟩
  unfold Journal.noted
  rw [horiginal, if_neg fun hcond => OriginalFailure.noConfusion hcond.2]
  exact hordered.push hplaced

theorem Pending.noted (h : Pending j) {note : Note} (hplaced : note.event.misplaced = false)
    (hsecondary : note.isPrimary = false) : Pending (j.noted note) := by
  obtain ⟨hempty, omitted, hordered⟩ := h
  unfold Journal.noted
  rw [hsecondary, if_neg fun hcond => Bool.false_ne_true hcond.1]
  exact ⟨(Journal.keep_original _ _).trans hempty, hordered.push hplaced⟩

theorem Pending.first (h : Pending j) (hfirst : j.sequence = 0) {event : CausalEvent}
    (hplaced : event.misplaced = false) : Started (j.noted (.primary event)) := by
  obtain ⟨hempty, omitted, hordered⟩ := h
  unfold Journal.noted
  rw [if_pos ⟨rfl, hempty⟩]
  exact ⟨⟨_, rfl⟩, 0, hordered.first hfirst hplaced⟩

theorem Started.foldl (h : Started j) (notes : List Note)
    (hplaced : ∀ note ∈ notes, note.event.misplaced = false) :
    Started (notes.foldl Journal.noted j) := by
  induction notes generalizing j with
  | nil => exact h
  | cons note notes ih =>
    rw [List.forall_mem_cons] at hplaced
    exact ih (h.noted hplaced.1) hplaced.2

theorem Late.foldl (h : Late j) (notes : List Note) : Late (notes.foldl Journal.noted j) := by
  induction notes generalizing j with
  | nil => exact h
  | cons note notes ih => exact ih (h.noted note)

/-- After a secondary event the journal stays in order until the first primary one. -/
theorem Pending.foldl (h : Pending j) (hlater : 0 < j.sequence) (notes : List Note)
    (hplaced : ∀ note ∈ notes, note.event.misplaced = false) :
    (∀ note ∈ notes, note.isPrimary = false) ∧ Pending (notes.foldl Journal.noted j) ∨
      ¬ (∀ note ∈ notes, note.isPrimary = false) ∧ Late (notes.foldl Journal.noted j) := by
  induction notes generalizing j with
  | nil => exact .inl ⟨by simp, h⟩
  | cons note notes ih =>
    rw [List.forall_mem_cons] at hplaced ⊢
    cases note with
    | primary event =>
      refine .inr ⟨fun hall => Bool.noConfusion hall.1, ?_⟩
      exact (late_of_primary h.1 hlater).foldl notes
    | secondary event =>
      have hpending : Pending (j.noted (.secondary event)) := h.noted hplaced.1 rfl
      have hlater' : 0 < (j.noted (.secondary event)).sequence := by
        rw [Journal.noted_sequence]
        omega
      rcases ih hpending hlater' hplaced.2 with ⟨hall, hend⟩ | ⟨hnot, hend⟩
      · exact .inl ⟨⟨rfl, hall⟩, hend⟩
      · exact .inr ⟨fun hall => hnot hall.2, hend⟩

theorem foldl_isConsistent_iff (notes : List Note)
    (hplaced : ∀ note ∈ notes, note.event.misplaced = false) :
    (notes.foldl Journal.noted {}).isConsistent = true ↔
      notes.head?.any Note.isPrimary = true ∨ ∀ note ∈ notes, note.isPrimary = false := by
  have hdefault : Pending {} := ⟨rfl, 0, ordered_default⟩
  cases notes with
  | nil => exact iff_of_true ordered_default.isConsistent (.inr (by simp))
  | cons note notes =>
    rw [List.forall_mem_cons] at hplaced ⊢
    cases note with
    | primary event =>
      obtain ⟨-, omitted, hordered⟩ := (hdefault.first rfl hplaced.1).foldl notes hplaced.2
      exact iff_of_true hordered.isConsistent (.inl rfl)
    | secondary event =>
      have hpending := hdefault.noted hplaced.1 rfl
      have hlater : 0 < (Journal.noted {} (.secondary event)).sequence := by
        rw [Journal.noted_sequence]
        exact Nat.zero_lt_one
      rcases hpending.foldl hlater notes hplaced.2 with ⟨hall, -, omitted, hordered⟩ | ⟨hnot, hlate⟩
      · exact iff_of_true hordered.isConsistent (.inr ⟨rfl, hall⟩)
      · refine iff_of_false (fun hcon => ?_) ?_
        · rw [List.foldl_cons, hlate.isConsistent] at hcon
          exact Bool.false_ne_true hcon
        · rintro (hhead | hall)
          · exact Bool.noConfusion hhead
          · exact hnot hall.2

/-- **A journal is consistent exactly when its first event filled the original failure, or none
did.** An event that is observed as secondary before the first primary one takes the number that
`isConsistent` wants of the original failure. -/
theorem noteAll_isConsistent_iff (notes : List Note)
    (hplaced : ∀ note ∈ notes, note.event.misplaced = false) (hroom : notes.length < u64Bound) :
    ∃ j, Journal.noteAll {} notes = .ok j ∧
      (j.isConsistent = true ↔ notes.head?.any Note.isPrimary = true ∨
        ∀ note ∈ notes, note.isPrimary = false) := by
  refine ⟨_, Journal.noteAll_of_room {} notes ?_, foldl_isConsistent_iff notes hplaced⟩
  rw [Nat.zero_add]
  exact hroom

/-- The event of `AttemptCleanup::observe_cleanup` for a job that was not terminated. -/
def cleanupEvent : CausalEvent where
  sequence := 0
  origin := .launcher
  category := .cleanup
  operation := .terminateJob
  code := .unexpectedProviderFailure
  nativeCode := none
  observedPhase := .cleaning
  safeDetail := .noAdditionalDetail
  detailRedacted := true
  detailTruncated := false
  terminalizationReference := none

/-- An error, and then more failures of the cleanup than the journal has room for. -/
def failedCleanup : List Note := .primary cleanupEvent :: List.replicate 9 (.secondary cleanupEvent)

theorem noteAll_failedCleanup : ∃ j, Journal.noteAll {} failedCleanup = .ok j ∧
    j.isConsistent = true := by
  obtain ⟨j, hnoted, hiff⟩ := noteAll_isConsistent_iff failedCleanup (by decide) (by decide)
  exact ⟨j, hnoted, hiff.2 (.inl rfl)⟩

/-- A cleanup that fails before any other error, and then an error that is observed. -/
theorem secondary_before_primary_inconsistent :
    ∃ j, Journal.noteAll {} [.secondary cleanupEvent, .primary cleanupEvent] = .ok j ∧
      j.isConsistent = false :=
  ⟨_, rfl, by decide⟩

end MemCordon.CausalDiagnostics
