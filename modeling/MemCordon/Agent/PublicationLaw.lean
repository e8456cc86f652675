import Mathlib.Data.List.Chain
import MemCordon.Agent.Publication

/-!
# What publication preserves

Every published record has the revision after the one before it and keeps its bindings, proofs,
flags and response. The comparison of `publish_at` covers all of it but three values, the
disposition, the guardian and the target, so for these it depends on the operations:
`begin_preauthorization_abort`, `begin_postauthorization_retirement` and
`complete_rejection_cleanup` refuse to change a disposition, and `complete_retirement`,
`complete_preauthorization_abort` and `stage_recovered_closure` overwrite it.

* `Preserves` is what a later record keeps of an earlier one.
* `Sound` is the invariant: the published records follow each other, and the record in memory has
  the three values of the last one.
* `published_preserves`: the law holds in every run in which no operation overwrites one of the
  three values.
* `complete_retirement_replaces_disposition` is a run in which one does.
-/

namespace MemCordon.WindowsAttempt

open WindowsRecord Workload CausalDiagnostics DiagnosticScope Fallible Counter

/-! ## The law -/

/-- A value that was there is still there. -/
def Kept {α : Type} (previous next : Option α) : Prop := ∀ a ∈ previous, next = some a

theorem Kept.refl {α : Type} (x : Option α) : Kept x x := fun _ h => h

theorem Kept.trans {α : Type} {x y z : Option α} (h : Kept x y) (h' : Kept y z) : Kept x z :=
  fun a ha => h' a (h a ha)

/-- A value may be set where there is none, or the same. -/
theorem Kept.set {α : Type} {x y : Option α} {a : α} (h : Kept x y)
    (hfree : y = none ∨ y = some a) :
    Kept x (some a) := by
  intro b hb
  rcases hfree with hnone | hsome
  · cases hnone.symm.trans (h b hb)
  · exact hsome.symm.trans (h b hb)

theorem keepsValue_eq_true {α : Type} [DecidableEq α] {previous next : Option α} :
    keepsValue previous next = true ↔ Kept previous next := by
  simp [keepsValue, Kept, Option.all_eq_true]

theorem keepsFlag_eq_true {previous next : Bool} :
    keepsFlag previous next = true ↔ (previous = true → next = true) := by
  cases previous <;> simp [keepsFlag]

/-- The values of a record that its publication does not compare. -/
structure Marks where
  disposition : Option TerminalDisposition
  (guardian target : Option ProcessIdentity)

def marks (r : Record) : Marks := ⟨r.terminalDisposition, r.guardianIdentity, r.targetIdentity⟩

/-- The marks that are set stay. -/
structure Marks.Kept (previous next : Marks) : Prop where
  disposition : WindowsAttempt.Kept previous.disposition next.disposition
  guardian : WindowsAttempt.Kept previous.guardian next.guardian
  target : WindowsAttempt.Kept previous.target next.target

theorem Marks.Kept.refl (m : Marks) : m.Kept m := ⟨.refl _, .refl _, .refl _⟩

/-- What every later record keeps of an earlier one. -/
structure Preserves (previous next : Record) : Prop where
  attemptId : next.attemptId = previous.attemptId
  providerGeneration : next.providerGeneration = previous.providerGeneration
  providerIncarnation : next.providerIncarnation = previous.providerIncarnation
  launchIncarnation : next.launchIncarnation = previous.launchIncarnation
  nonce : next.nonce = previous.nonce
  requestSha256 : next.requestSha256 = previous.requestSha256
  callerProcessIdentity : next.callerProcessIdentity = previous.callerProcessIdentity
  callerTokenSha256 : next.callerTokenSha256 = previous.callerTokenSha256
  jobIdentitySha256 : next.jobIdentitySha256 = previous.jobIdentitySha256
  bootIdentity : next.bootIdentity = previous.bootIdentity
  workerIdentity : Kept previous.workerIdentity next.workerIdentity
  workerThreadIdentity : Kept previous.workerThreadIdentity next.workerThreadIdentity
  ownerManifest : Kept previous.ownerManifest next.ownerManifest
  recoveryAuthorization : Kept previous.recoveryAuthorization next.recoveryAuthorization
  authorizationUnixMillis : Kept previous.authorizationUnixMillis next.authorizationUnixMillis
  workloadAdmission : Kept previous.workloadAdmission next.workloadAdmission
  workloadCheckpoint : Kept previous.workloadCheckpoint next.workloadCheckpoint
  terminalSeed : Kept previous.terminalSeed next.terminalSeed
  retirementProof : Kept previous.retirementProof next.retirementProof
  terminalResponseJson : Kept previous.terminalResponseJson next.terminalResponseJson
  terminalPublicationReserved : previous.terminalPublicationReserved = true →
    next.terminalPublicationReserved = true
  resumeAttempted : previous.resumeAttempted = true → next.resumeAttempted = true
  targetReleased : previous.targetReleased = true → next.targetReleased = true
  terminationRequested :
    previous.cleanupState.terminationRequested = true →
    next.cleanupState.terminationRequested = true
  activeProcessesZero :
    previous.cleanupState.activeProcessesZero = true → next.cleanupState.activeProcessesZero = true
  guardianReaped : previous.cleanupState.guardianReaped = true →
    next.cleanupState.guardianReaped = true
  finalHandlesClosed : previous.cleanupState.finalHandlesClosed = true →
    next.cleanupState.finalHandlesClosed = true
  terminalDisposition : Kept previous.terminalDisposition next.terminalDisposition
  guardianIdentity : Kept previous.guardianIdentity next.guardianIdentity
  targetIdentity : Kept previous.targetIdentity next.targetIdentity

theorem Preserves.trans {p q r : Record} (h : Preserves p q) (h' : Preserves q r) :
    Preserves p r := by
  -- Bindings are equal, values are kept and flags stay, each by way of the record in between.
  obtain ⟨⟩ := h
  obtain ⟨⟩ := h'
  constructor <;>
    first
    | exact Eq.trans (by assumption) (by assumption)
    | exact Kept.trans (by assumption) (by assumption)
    | exact Function.comp (by assumption) (by assumption)

/-- One publication after another: the next revision, and all that was there. -/
structure Follows (next previous : Record) : Prop where
  revision : next.recordRevision = previous.recordRevision + 1
  preserves : Preserves previous next

/-! ## One publication -/

/-- **The comparison of `publish_at`**: it covers all that a later record must keep but the
marks. -/
theorem mayReplace_preserves {m : Moment} {previous r : Record} {expectedRevision : ℕ}
    (h : mayReplace m previous r expectedRevision = true) (hid : r.attemptId = previous.attemptId)
    (hgeneration : r.providerGeneration = previous.providerGeneration)
    (hmarks : (marks previous).Kept (marks r)) :
    Preserves previous r ∧ previous.recordRevision = expectedRevision := by
  simp only [mayReplace, keepsBindings, keepsValues, keepsFlags, Bool.and_eq_true, beq_iff_eq,
    keepsValue_eq_true, keepsFlag_eq_true, and_assoc] at h
  obtain ⟨hrevision, -, -, hprovider, hlaunch, hnonce, hrequest, hcaller, htoken, hjob, hboot,
    hcheckpoint, -,
    hadmission, -, hmanifest, hauthorization, hseed, hproof, hworker, hthread, htime, hresponse,
    hreserved, hresumed, hreleased, htermination, hzero, hreaped, hclosed, -⟩ := h
  exact ⟨⟨hid, hgeneration, hprovider.symm, hlaunch.symm, hnonce.symm, hrequest.symm, hcaller.symm,
    htoken.symm,
    hjob.symm, hboot.symm, hworker, hthread, hmanifest, hauthorization, htime, hadmission,
    hcheckpoint, hseed, hproof,
    hresponse, hreserved, hresumed, hreleased, htermination, hzero, hreaped, hclosed,
    hmarks.disposition, hmarks.guardian, hmarks.target⟩, hrevision⟩

section Publish

variable [Sha256] [Wire] [TextLength Record] {generation : String}

variable {r image : Record}

/-- What the writer stores: the record under its digest, accepted and within the limit. -/
theorem authenticatedStore_eq_ok : authenticatedStore generation r = .ok image ↔
      ∃ canonical, r.canonicalBytes = .ok canonical ∧
        image = { r with integritySha256 := sha256Text canonical } ∧
        image.Authentic r.attemptId generation ∧ TextLength.length image + 1 ≤ maxFrameBytes := by
  unfold authenticatedStore
  simp only [bind_eq_ok]
  refine exists_congr fun canonical => and_congr_right fun _ => ?_
  constructor
  · rintro ⟨u, hauth, hlength⟩
    split_ifs at hlength with hfits
    cases hlength
    exact ⟨rfl, Record.authenticate_eq_ok.1 (mapError_eq_ok.1 hauth), hfits⟩
  · rintro ⟨rfl, hauth, hfits⟩
    exact ⟨(), mapError_eq_ok.2 (Record.authenticate_eq_ok.2 hauth), if_pos hfits⟩

variable {expectedRevision : ℕ} {previous : Option Record} {m : Moment}

/-- The image of a record: its revision is the next one, and it is published only over a record that
it may replace. -/
theorem publishImage_eq_ok : publishImage generation m previous r expectedRevision = .ok image ↔
      (∀ p ∈ previous, p.Authentic r.attemptId generation ∧
      mayReplace m p r expectedRevision = true) ∧ (previous = none → expectedRevision = 0) ∧
      expectedRevision + 1 < u64Bound ∧ r.recordRevision = expectedRevision + 1 ∧
      authenticatedStore generation (unsealed r) = .ok image := by
  have hprevious : checkPrevious generation m previous r expectedRevision = .ok () ↔
      (∀ p ∈ previous, p.Authentic r.attemptId generation ∧
      mayReplace m p r expectedRevision = true) ∧ (previous = none → expectedRevision = 0) := by
    cases previous with
    | none => simp [checkPrevious, reject_eq_ok]
    | some p =>
      simp [checkPrevious, unit_bind_eq_ok, reject_eq_ok, mapError_eq_ok, Record.authenticate_eq_ok]
  have hrevision : checkRevision r expectedRevision = .ok () ↔
      expectedRevision + 1 < u64Bound ∧ r.recordRevision = expectedRevision + 1 := by
    unfold checkRevision
    cases hnext : checkedAdd expectedRevision 1 with
    | none => simpa using fun h => absurd (checkedAdd_eq_none.1 hnext) (by omega)
    | some next =>
      obtain ⟨hroom, rfl⟩ := checkedAdd_eq_some.1 hnext
      simp [reject_eq_ok, hroom]
  unfold publishImage
  rw [unit_bind_eq_ok, unit_bind_eq_ok, mapError_eq_ok, hprevious, hrevision, and_assoc, and_assoc]

theorem marks_publishImage (h : publishImage generation m previous r expectedRevision = .ok image) :
    marks image = marks r := by
  obtain ⟨-, -, -, -, hstore⟩ := publishImage_eq_ok.1 h
  obtain ⟨canonical, -, rfl, -⟩ := authenticatedStore_eq_ok.1 hstore
  rfl

theorem publishImage_follows {r image p : Record}
    (h : publishImage generation m previous r expectedRevision = .ok image) (hp : p ∈ previous)
    (hmarks : (marks p).Kept (marks r)) : Follows image p := by
  obtain ⟨hprevious, -, -, hrevision, hstore⟩ := publishImage_eq_ok.1 h
  obtain ⟨hauthentic, hreplace⟩ := hprevious p hp
  obtain ⟨canonical, -, rfl, himage, -⟩ := authenticatedStore_eq_ok.1 hstore
  have hids := hauthentic.ids
  obtain ⟨hpreserves, hexpected⟩ :=
    mayReplace_preserves hreplace hids.1.symm (himage.ids.2.trans hids.2.symm) hmarks
  refine ⟨?_, ?_⟩
  · rw [hexpected]
    exact hrevision
  · exact { hpreserves with }

/-! ## The invariant -/

/-- The published records follow each other, and the record in memory has the marks of the last
one. -/
structure Sound (w : World) (m : Marks) : Prop where
  chain : w.images.IsChain Follows
  kept : ∀ p ∈ w.images.head?, (marks p).Kept m

variable {w : World}

theorem Sound.publish (h : Sound w (marks r))
    (himage : publishImage generation m w.images.head? r expectedRevision = .ok image)
    (renamed : Bool) :
    Sound (w.next.publish image renamed) (marks r) := by
  cases renamed with
  | false => exact ⟨h.chain, h.kept⟩
  | true =>
    refine ⟨List.isChain_cons.2 ⟨fun p hp => publishImage_follows himage hp (h.kept p hp), h.chain⟩,
      ?_⟩
    rintro p ⟨⟩
    rw [marks_publishImage himage]
    exact .refl _

omit [Sha256] [Wire] [TextLength Record] in
theorem marks_notePersistenceFailure (o : Owner) (event : Option CausalEvent) :
    marks (o.notePersistenceFailure event).record = marks o.record := by
  cases event <;> rfl

variable {o : Owner}

/-- The writer keeps the invariant and the marks of the record, whatever its turn is. -/
theorem commitSnapshot_sound {revision : ℕ} (h : Sound w (marks o.record)) :
    Sound (commitSnapshot generation w o revision).1 (marks o.record) ∧
      marks (commitSnapshot generation w o revision).2.2.record = marks o.record := by
  unfold commitSnapshot
  cases himage : publishImage generation w.turn.moment w.images.head? (snapshot o.record revision)
      o.record.recordRevision with
  | error failure => exact ⟨⟨h.chain, h.kept⟩, marks_notePersistenceFailure o _⟩
  | ok image =>
    have hpublish : ∀ renamed, Sound (w.next.publish image renamed) (marks o.record) :=
        fun renamed =>
      Sound.publish (r := snapshot o.record revision) h himage renamed
    cases w.turn.outcome with
    | confirmed =>
      exact ⟨hpublish true, marks_publishImage (r := snapshot o.record revision) himage⟩
    | failed failure renamed =>
      exact ⟨⟨(hpublish renamed).chain, (hpublish renamed).kept⟩, marks_notePersistenceFailure o _⟩
    | unobserved renamed => exact ⟨⟨(hpublish renamed).chain, (hpublish renamed).kept⟩, rfl⟩

theorem tryCommitDiagnostics_sound (h : Sound w (marks o.record)) :
    Sound (tryCommitDiagnostics generation w o).1
      (marks (tryCommitDiagnostics generation w o).2.record) := by
  unfold tryCommitDiagnostics
  split
  · rename_i revision _ _ _ _
    cases himage : publishImage generation w.turn.moment w.images.head? (snapshot o.record revision)
        o.record.recordRevision with
    | error failure => exact ⟨h.chain, h.kept⟩
    | ok image =>
      have hpublish : ∀ renamed, Sound (w.next.publish image renamed) (marks o.record) :=
          fun renamed =>
        Sound.publish (r := snapshot o.record revision) h himage renamed
      cases w.turn.outcome with
      | confirmed => exact hpublish true
      | failed failure renamed | unobserved renamed =>
        exact ⟨(hpublish renamed).chain, (hpublish renamed).kept⟩
  · exact ⟨h.chain, h.kept⟩

/-! ## The operations -/

/-- The invariant, with a condition on the disposition in memory. -/
def Holds (D : Option TerminalDisposition → Prop) (w : World) (o : Owner) : Prop :=
  Sound w (marks o.record) ∧ D o.record.terminalDisposition

/-- The operation keeps the invariant and the condition. -/
abbrev Quiet (generation : String) (D : Option TerminalDisposition → Prop) {α : Type}
    (m : Edit α) : Prop :=
  Script.Keeps (commit generation) (Holds D) m

def Free (d : TerminalDisposition) (x : Option TerminalDisposition) : Prop := x = none ∨ x = some d

variable {D : Option TerminalDisposition → Prop}

open Script

theorem quiet_store : Quiet generation D store := by
  refine keeps_demand fun w o h => ?_
  obtain ⟨hsound, hmarks⟩ : Sound (commit generation w o).1 (marks o.record) ∧
      marks (commit generation w o).2.2.record = marks o.record := by
    unfold commit
    split
    case h_5 => exact commitSnapshot_sound h.1
    all_goals exact ⟨⟨h.1.chain, h.1.kept⟩, rfl⟩
  refine ⟨hmarks ▸ hsound, ?_⟩
  have hdisposition := congrArg Marks.disposition hmarks
  exact (show (commit generation w o).2.2.record.terminalDisposition = o.record.terminalDisposition
    from hdisposition) ▸ h.2

variable {f : Record → Record}

theorem quiet_edit (hf : ∀ r, marks (f r) = marks r) : Quiet generation D (edit f) := by
  refine keeps_modify fun w o h => ?_
  have hdisposition : (f o.record).terminalDisposition = o.record.terminalDisposition :=
    congrArg Marks.disposition (hf o.record)
  exact ⟨(hf o.record).symm ▸ h.1, hdisposition.symm ▸ h.2⟩

theorem quiet_record_bind {α : Type} {f : Record → Edit α} (hf : ∀ r, Quiet generation D (f r)) :
    Quiet generation D (record >>= f) := keeps_bind (keeps_inspect _) hf

theorem quiet_lift_bind {α β : Type} {x : Except String α} {f : α → Edit β}
    (hf : ∀ a, Quiet generation D (f a)) :
    Quiet generation D (lift x >>= f) := keeps_bind (keeps_lift _) hf

theorem quiet_refuse_bind {α : Type} {error : String} {bad : Prop} [Decidable bad]
    {f : Unit → Edit α}
    (hf : Quiet generation D (f ())) : Quiet generation D (refuse error bad >>= f) :=
  keeps_bind (keeps_lift _) fun _ => hf

theorem quiet_edit_bind {α : Type} {m : Unit → Edit α} (hf : ∀ r, marks (f r) = marks r)
    (hm : Quiet generation D (m ())) : Quiet generation D (edit f >>= m) :=
  keeps_bind (quiet_edit hf) fun _ => hm

theorem quiet_edit_store (hf : ∀ r, marks (f r) = marks r) :
    Quiet generation D (edit f >>= fun _ => store) := quiet_edit_bind hf quiet_store

theorem quiet_advanceTerminalization (owner : TerminalizationOwner)
    (checkpoint : TerminalizationCheckpoint) :
    Quiet generation D (advanceTerminalization owner checkpoint) :=
  quiet_record_bind fun _ => quiet_lift_bind fun _ => quiet_edit fun _ => rfl

theorem quiet_transition (state : AttemptState) : Quiet generation D (transition state) := by
  refine quiet_record_bind fun r => quiet_refuse_bind (quiet_edit_bind (fun _ => rfl) ?_)
  split_ifs
  · exact quiet_advanceTerminalization _ _
  · exact keeps_pure _

theorem quiet_retainTerminalizationError (error : TerminalizationError) :
    Quiet generation D (retainTerminalizationError error) :=
  quiet_record_bind fun _ => keeps_bind (keeps_modify fun _ _ h => h) fun _ =>
    quiet_edit fun _ => rfl

theorem quiet_persistTerminalizationFailure (owner : TerminalizationOwner)
    (error : TerminalizationError)
    (primary : String) :
    Quiet generation D (persistTerminalizationFailure owner error primary) := by
  refine quiet_record_bind fun r => keeps_bind (keeps_attempt ?_) fun outcome => ?_
  · exact keeps_bind (quiet_advanceTerminalization _ _) fun _ =>
      keeps_bind (quiet_retainTerminalizationError _) fun _ => quiet_store
  · cases outcome <;> exact keeps_pure _

theorem quiet_recordTerminalizationFailure (owner : TerminalizationOwner)
    (error : TerminalizationError) :
    Quiet generation D (recordTerminalizationFailure owner error) :=
  quiet_record_bind fun _ => keeps_bind (quiet_advanceTerminalization _ _) fun _ =>
    keeps_bind (quiet_retainTerminalizationError _) fun _ => quiet_store

theorem quiet_recordTerminalizationDiagnostic (error : TerminalizationError) :
    Quiet generation D (recordTerminalizationDiagnostic error) := by
  refine quiet_record_bind fun r => ?_
  split_ifs
  · exact keeps_pure _
  · exact quiet_lift_bind fun _ => quiet_edit_bind (fun _ => rfl)
      (keeps_bind (quiet_retainTerminalizationError _) fun _ => quiet_store)

theorem quiet_authorize (now : Except String ℕ) : Quiet generation D (authorize now) :=
  quiet_record_bind fun _ => quiet_refuse_bind <| quiet_lift_bind fun _ => quiet_lift_bind fun _ =>
    keeps_bind (quiet_transition _) fun _ => quiet_lift_bind fun _ => quiet_refuse_bind <|
      quiet_edit_store fun _ => rfl

theorem quiet_markReleased : Quiet generation D markReleased := quiet_edit_store fun _ => rfl

theorem quiet_markResumeAttempted : Quiet generation D markResumeAttempted :=
  quiet_edit_store fun _ => rfl

theorem quiet_bindWorkloadAdmission (bytes : List UInt8) (checked : Except String Unit) :
    Quiet generation D (bindWorkloadAdmission bytes checked) :=
  quiet_record_bind fun _ => quiet_refuse_bind <| quiet_lift_bind fun _ =>
    quiet_edit_store fun _ => rfl

theorem quiet_bindWorkloadCheckpoint (bytes : List UInt8) (bound : Bool) :
    Quiet generation D (bindWorkloadCheckpoint bytes bound) :=
  quiet_record_bind fun _ => quiet_refuse_bind <| quiet_edit_store fun _ => rfl

theorem quiet_stageTerminalProof (receipt : TerminalReceipt)
    (primaryFailure : Option ProviderFailure) :
    Quiet generation D (stageTerminalProof receipt primaryFailure) :=
  quiet_record_bind fun _ => quiet_refuse_bind <| quiet_lift_bind fun _ => quiet_refuse_bind <|
    quiet_edit_store fun _ => rfl

theorem quiet_freezeTerminalSeed (observation : ProcessObservation)
    (primaryFailure : Option ProviderFailure) :
    Quiet generation D (freezeTerminalSeed observation primaryFailure) :=
  quiet_record_bind fun _ => quiet_refuse_bind <| quiet_lift_bind fun _ =>
    quiet_edit_store fun _ => rfl

theorem quiet_stagePreparedResponse (json : String) (observed : Option ℕ) :
    Quiet generation D (stagePreparedResponse json observed) := by
  refine keeps_bind (quiet_advanceTerminalization _ _) fun _ =>
    keeps_bind (keeps_attempt quiet_store) fun checked => ?_
  cases checked with
  | error primary =>
    exact keeps_bind (quiet_persistTerminalizationFailure _ _ _) fun _ => keeps_fail _
  | ok _ =>
    refine quiet_record_bind fun r => quiet_edit_bind (fun _ => rfl) <|
      keeps_bind (quiet_advanceTerminalization _ _) fun _ =>
        keeps_bind (keeps_attempt quiet_store) fun staged => ?_
    cases staged with
    | error primary =>
      exact quiet_edit_bind (fun _ => rfl) <|
        keeps_bind (quiet_persistTerminalizationFailure _ _ _) fun _ => keeps_fail _
    | ok _ => exact keeps_pure _

theorem quiet_stageTerminalResponse (response : LauncherResponse) (observed : Option ℕ)
    (relayRetired : Except String Unit) :
    Quiet generation D (stageTerminalResponse response observed relayRetired) := by
  refine keeps_bind (quiet_record_bind fun r => ?_) fun _ => keeps_lift _
  cases prepareTerminalResponse r response with
  | error primary =>
    exact keeps_bind (quiet_persistTerminalizationFailure _ _ _) fun _ => keeps_fail _
  | ok json => exact quiet_stagePreparedResponse json observed

theorem quiet_commitAcknowledgement : Quiet generation D commitAcknowledgement := by
  refine quiet_record_bind fun r => quiet_refuse_bind ?_
  split_ifs
  · exact quiet_edit_store fun _ => rfl
  · exact keeps_pure _

theorem quiet_expireDiagnostics (m : Moment) : Quiet generation D (expireDiagnostics m) := by
  refine quiet_record_bind fun r => ?_
  split_ifs
  · exact keeps_pure _
  · exact quiet_edit_store fun _ => rfl

/-! ## Operations that set the disposition -/

omit [Sha256] [Wire] [TextLength Record] in
theorem Sound.setDisposition {m : Marks} {d : TerminalDisposition} (h : Sound w m)
    (hfree : Free d m.disposition) : Sound w { m with disposition := some d } :=
  ⟨h.chain, fun p hp => ⟨(h.kept p hp).disposition.set hfree, (h.kept p hp).guardian,
    (h.kept p hp).target⟩⟩

theorem quiet_edit_disposition {d : TerminalDisposition}
    (hf : ∀ r, marks (f r) = { marks r with disposition := some d }) :
    Quiet generation (Free d) (edit f) := by
  refine keeps_modify fun w o h => ⟨?_, .inr (congrArg Marks.disposition (hf o.record))⟩
  change Sound w (marks (f o.record))
  rw [hf]
  exact h.1.setDisposition h.2

theorem quiet_prepareCleanupCompletion (d : TerminalDisposition) :
    Quiet generation (Free d) (prepareCleanupCompletion d) :=
  keeps_bind (quiet_transition _) fun _ => keeps_bind (quiet_edit_disposition fun _ => rfl) fun _ =>
    quiet_advanceTerminalization _ _

theorem quiet_completeRetirement : Quiet generation (Free .posttarget) completeRetirement :=
  keeps_bind (quiet_prepareCleanupCompletion _) fun _ => quiet_edit_store fun _ => rfl

theorem quiet_completePreauthorizationAbort :
    Quiet generation (Free .preauthorizationAbort) completePreauthorizationAbort :=
  keeps_bind (quiet_prepareCleanupCompletion _) fun _ => quiet_store

theorem quiet_terminateAs (d : TerminalDisposition) :
    Quiet generation (Free d) (terminateAs d) := by
  refine quiet_record_bind fun r => ?_
  split_ifs
  · exact keeps_bind (quiet_transition _) fun _ => quiet_edit_disposition fun _ => rfl
  · exact quiet_edit_disposition fun _ => rfl

omit [Sha256] [Wire] [TextLength Record] in
theorem free_of_ne {x : Option TerminalDisposition} {d d' : TerminalDisposition} (hd : d ≠ d')
    (h : x ≠ some d') :
    Free d x := by
  cases x with
  | none => exact .inl rfl
  | some y =>
    cases y <;> cases d <;> cases d' <;> simp_all [Free]

theorem quiet_beginPreauthorizationAbort :
    Quiet generation (fun _ => True) beginPreauthorizationAbort := by
  refine keeps_inspect_bind fun w o h => ?_
  by_cases hconflict : o.record.terminalDisposition = some .posttarget
  · refine (keeps_bind (keeps_lift _) fun _ => keeps_lift_bind fun _ hpass =>
      ?_ : Quiet generation _ _) w o h
    exact absurd hconflict (reject_eq_ok.1 hpass)
  · have hfree : Free .preauthorizationAbort o.record.terminalDisposition :=
      free_of_ne (by decide) hconflict
    refine And.imp_right (fun _ => trivial)
      ((?_ : Quiet generation (Free .preauthorizationAbort) _) w o ⟨h.1, hfree⟩)
    exact quiet_refuse_bind <| quiet_refuse_bind <| keeps_bind (quiet_terminateAs _) fun _ =>
      quiet_store

theorem quiet_beginPostauthorizationRetirement :
    Quiet generation (fun _ => True) beginPostauthorizationRetirement := by
  refine keeps_inspect_bind fun w o h => ?_
  by_cases hconflict : o.record.terminalDisposition = some .preauthorizationAbort
  · refine (keeps_bind (keeps_lift _) fun _ => keeps_bind (keeps_lift _) fun _ =>
      keeps_lift_bind fun _ hpass => ?_ : Quiet generation _ _) w o h
    exact absurd hconflict (reject_eq_ok.1 hpass)
  · have hfree : Free .posttarget o.record.terminalDisposition := free_of_ne (by decide) hconflict
    refine And.imp_right (fun _ => trivial)
      ((?_ : Quiet generation (Free .posttarget) _) w o ⟨h.1, hfree⟩)
    exact quiet_refuse_bind <| quiet_refuse_bind <| quiet_refuse_bind <| quiet_refuse_bind <|
      keeps_bind (quiet_terminateAs _) fun _ => quiet_store

theorem quiet_completeRejectionCleanup :
    Quiet generation (fun _ => True) completeRejectionCleanup := by
  refine keeps_inspect_bind fun w o h => ?_
  have hset : ∀ (d : TerminalDisposition) (m : Edit Unit), Free d o.record.terminalDisposition →
      Quiet generation (Free d) m →
        Holds (fun _ => True) (Interaction.run (commit generation) w (m o)).1
        (Interaction.run (commit generation) w (m o)).2.2 := fun d m hfree hm =>
    (hm w o ⟨h.1, hfree⟩).imp_right fun _ => trivial
  cases hdisposition : o.record.terminalDisposition with
  | none =>
    refine hset .posttarget _ (.inl hdisposition) (quiet_refuse_bind ?_)
    exact quiet_refuse_bind <| keeps_bind (quiet_prepareCleanupCompletion _) fun _ => quiet_store
  | some d =>
    refine hset d _ (.inr hdisposition) (quiet_refuse_bind ?_)
    cases d with
    | preauthorizationAbort =>
      exact quiet_refuse_bind <| keeps_bind (quiet_prepareCleanupCompletion _) fun _ => quiet_store
    | posttarget => exact keeps_bind (quiet_prepareCleanupCompletion _) fun _ => quiet_store

theorem quiet_emptyRecord : Quiet generation D emptyRecord := by
  refine quiet_record_bind fun r => ?_
  split_ifs
  · exact keeps_bind (quiet_transition _) fun _ => keeps_bind quiet_store fun _ =>
      quiet_transition _
  · exact quiet_transition _
  · exact keeps_pure _

theorem quiet_closeProof (closure : Closure) : Quiet generation D (closeProof closure) := by
  refine quiet_record_bind fun r => ?_
  rcases r.terminalSeed with _ | seed <;> rcases r.retirementProof with _ | proof
  · exact quiet_stageTerminalProof _ _
  · exact keeps_fail _
  · exact quiet_refuse_bind <| quiet_edit_store fun _ => rfl
  · exact keeps_lift _

theorem quiet_stageRecoveredClosure (c : RecoveryContext) :
    Quiet generation (Free .posttarget) (stageRecoveredClosure c) :=
  quiet_record_bind fun _ => quiet_lift_bind fun _ => keeps_bind quiet_emptyRecord fun _ =>
    keeps_bind (quiet_edit_disposition fun _ => rfl) fun _ => keeps_bind quiet_store fun _ =>
      keeps_bind (quiet_closeProof _) fun _ => quiet_record_bind fun _ =>
        quiet_stageTerminalResponse _ _ _

/-! ## Runs -/

/-- The operation does not overwrite a disposition, a guardian or a target. The launcher names each
of its processes once; the other three set the disposition without looking at it. -/
def Operation.Allowed (s : Session) : Operation → Prop
  | completeRetirement => Free .posttarget s.owner.record.terminalDisposition
  | completePreauthorizationAbort => Free .preauthorizationAbort s.owner.record.terminalDisposition
  | stageRecoveredClosure _ => Free .posttarget s.owner.record.terminalDisposition
  | assign (.guardian identity) =>
    s.owner.record.guardianIdentity = none ∨ s.owner.record.guardianIdentity = some identity
  | assign (.target identity) =>
    s.owner.record.targetIdentity = none ∨ s.owner.record.targetIdentity = some identity
  | _ => True

def Session.Sound (s : Session) : Prop := WindowsAttempt.Sound s.world (marks s.owner.record)

variable {s : Session}

omit [Sha256] [Wire] [TextLength Record] in
theorem Session.reload_sound (h : s.Sound) (scope : Local) : (s.reload scope).Sound := by
  unfold Session.reload
  cases himages : s.world.images.head? with
  | none => exact h
  | some image =>
    refine ⟨h.chain, fun p hp => ?_⟩
    cases himages.symm.trans hp
    exact .refl _

omit [Sha256] [Wire] [TextLength Record] in
theorem Session.assign_sound {assignment : Assignment} (h : s.Sound)
    (hallowed : Operation.Allowed s (.assign assignment)) :
    WindowsAttempt.Sound s.world (marks (assignment.apply s.owner.record)) := by
  cases assignment with
  | guardian identity =>
    exact ⟨h.chain, fun p hp => ⟨(h.kept p hp).disposition, (h.kept p hp).guardian.set hallowed,
      (h.kept p hp).target⟩⟩
  | target identity =>
    exact ⟨h.chain, fun p hp => ⟨(h.kept p hp).disposition, (h.kept p hp).guardian,
      (h.kept p hp).target.set hallowed⟩⟩
  | worker identity thread | reservation authorization | manifest frozen => exact h
  | cleanup terminationRequested activeProcessesZero guardianReaped | journal merged => exact h

/-- **One operation keeps the invariant** unless it overwrites a mark. -/
theorem Session.step_sound {operation : Operation} (h : s.Sound) (hallowed : operation.Allowed s) :
    (s.step generation operation).Sound := by
  have hplain : ∀ {D : Option TerminalDisposition → Prop} {m : Edit Unit}, Quiet generation D m →
      D s.owner.record.terminalDisposition →
      WindowsAttempt.Sound (Interaction.run (commit generation) s.world (m s.owner)).1
        (marks (Interaction.run (commit generation) s.world (m s.owner)).2.2.record) :=
    fun hm hD => (hm s.world s.owner ⟨h, hD⟩).1
  have hquiet {m : Edit Unit} (hm : Quiet generation (fun _ => True) m) := hplain hm trivial
  cases operation with
  | assign assignment => exact Session.assign_sound h hallowed
  | store => exact hquiet quiet_store
  | transition state => exact hquiet (quiet_transition state)
  | authorize now => exact hquiet (quiet_authorize now)
  | markReleased => exact hquiet quiet_markReleased
  | markResumeAttempted => exact hquiet quiet_markResumeAttempted
  | bindWorkloadAdmission bytes checked => exact hquiet (quiet_bindWorkloadAdmission bytes checked)
  | bindWorkloadCheckpoint bytes bound => exact hquiet (quiet_bindWorkloadCheckpoint bytes bound)
  | beginPreauthorizationAbort => exact hquiet quiet_beginPreauthorizationAbort
  | completePreauthorizationAbort => exact hplain quiet_completePreauthorizationAbort hallowed
  | beginPostauthorizationRetirement => exact hquiet quiet_beginPostauthorizationRetirement
  | completeRetirement => exact hplain quiet_completeRetirement hallowed
  | completeRejectionCleanup => exact hquiet quiet_completeRejectionCleanup
  | freezeTerminalSeed observation failure =>
    exact hquiet (quiet_freezeTerminalSeed observation failure)
  | stageTerminalProof receipt failure => exact hquiet (quiet_stageTerminalProof receipt failure)
  | stageTerminalResponse response observed relay =>
    exact hquiet (quiet_stageTerminalResponse response observed relay)
  | recordTerminalizationFailure owner error =>
    exact hquiet (quiet_recordTerminalizationFailure owner error)
  | recordTerminalizationDiagnostic error =>
    exact hquiet (quiet_recordTerminalizationDiagnostic error)
  | commitAcknowledgement => exact hquiet quiet_commitAcknowledgement
  | stageRecoveredClosure context => exact hplain (quiet_stageRecoveredClosure context) hallowed
  | expireDiagnostics moment => exact hquiet (quiet_expireDiagnostics moment)
  | tryCommitDiagnostics => exact tryCommitDiagnostics_sound h
  | reload scope => exact Session.reload_sound h scope
  | restart scope =>
    exact Session.reload_sound (s := { s with world := { s.world with quarantined := false } })
      ⟨h.chain, h.kept⟩ scope

/-- **What publication preserves.** In every run whose operations do not overwrite a disposition, a
guardian or a target, every published record has the revision after the one before it and preserves
every record that was published before. -/
theorem published_preserves (generation : String) (turns : ℕ → Turn) (owner : Owner)
    (operations : List Operation)
    (hallowed : Calls.AllAllowed (Session.step generation) (.start turns owner)
      (fun s i => Operation.Allowed s i) operations) :
    (operations.foldl (Session.step generation) (.start turns owner)).world.images.IsChain
        (fun next previous => next.recordRevision = previous.recordRevision + 1) ∧
      (operations.foldl (Session.step generation) (.start turns owner)).world.images.Pairwise
        fun later earlier => Preserves earlier later := by
  have hsound : (operations.foldl (Session.step generation) (.start turns owner)).Sound :=
    Calls.invariant (fun _ s => s.Sound) ⟨.nil, by rintro p ⟨⟩⟩
      (fun _ _ _ h hi => Session.step_sound h hi) hallowed
  refine ⟨hsound.chain.imp fun _ _ h => h.revision, ?_⟩
  have hchain := hsound.chain.imp fun _ _ h => h.preserves
  have htrans : IsTrans Record fun later earlier => Preserves earlier later :=
    ⟨fun _ _ _ h h' => h'.trans h⟩
  exact List.isChain_iff_pairwise.1 hchain

end Publish

/-! ## A disposition that is replaced -/

namespace Sample

/-- Every publication is confirmed. -/
def confirmed : ℕ → Turn := fun _ => ⟨⟨some "boot", 0⟩, .ok (), .ok (), .confirmed, true⟩

/-- The owner of a record that was not published yet. -/
def owner : Owner := ⟨{ WindowsRecord.Sample.created with recordRevision := 0 }, enter⟩

abbrev recordText : TextLength Record := ⟨fun _ => 1, fun _ => Nat.one_pos⟩

end Sample

section

open WindowsRecord.Sample Sample

attribute [local instance] zeroSha wire recordText

/-- An abort before authorization, from the first publication to the last. -/
theorem published_preserves_abort :
    let operations := [Operation.store, .beginPreauthorizationAbort, .completePreauthorizationAbort]
    let images :=
      (operations.foldl (Session.step "generation") (.start confirmed owner)).world.images
    images.IsChain (fun next previous => next.recordRevision = previous.recordRevision + 1) ∧
      images.Pairwise fun later earlier => Preserves earlier later := by
  refine published_preserves "generation" confirmed owner _
    (.cons trivial (.cons trivial (.cons (.inr ?_) .nil)))
  decide +kernel

/-- `complete_retirement` after `begin_preauthorization_abort`: the published disposition is
replaced. -/
theorem complete_retirement_replaces_disposition :
    ((([Operation.store, .beginPreauthorizationAbort, .completeRetirement].foldl
        (Session.step "generation")
        (.start confirmed owner)).world.images).map fun r =>
      (r.recordRevision, r.terminalDisposition)) =
      [(3, some .posttarget), (2, some .preauthorizationAbort), (1, none)] := by
  decide +kernel

end

end MemCordon.WindowsAttempt
