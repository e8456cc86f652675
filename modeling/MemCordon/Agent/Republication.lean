import MemCordon.Agent.AttemptFiles

/-!
# Records that can be published again

When a record that was read from its file and changed is published: `Coherent` is all that the
authenticator asks but the digest, and `Fits` that its texts are within the limits.

* `mayReplace_self`: a record may replace itself, so also with any of the fields that publication
  does not compare.
* `commitFile_eq_ok`: a commit succeeds exactly when there is no staging file, the revision has
  room, the record may replace the one before it, and it is accepted under its new digest.
-/

namespace MemCordon.WindowsAttempt

open WindowsRecord Workload CausalDiagnostics DiagnosticScope Fallible Counter

/-! ## Acceptance but for the digest -/

section Coherent

variable [Sha256] [Wire]

/-- What an accepted record has, the digest apart. -/
structure Coherent (r : Record) (attemptId generation : String) : Prop where
  bindings : r.bindingsValid attemptId generation = true
  ordered : r.StateOrdered
  manifest : ∀ m ∈ r.ownerManifest, r.manifestBound m = true
  intent : r.authorizedIntent = true → r.ownerManifest ≠ none ∧ r.recoveryAuthorization ≠ none ∧
    r.terminalPublicationReserved = true ∧ r.workerIdentity ≠ none
  authorization : ∀ a ∈ r.recoveryAuthorization, a.isConsistent = true
  seed : ∀ seed ∈ r.terminalSeed, r.seedBound seed = true
  proof : ∀ proof ∈ r.retirementProof, r.proofBound proof = true
  proofCheckpoint : r.proofCheckpointValid = true
  outboxCheckpoint : r.lifecycle.needsOutbox = true → r.terminalResponseJson ≠ none
  outbox : ∀ json ∈ r.terminalResponseJson, ∃ response, Wire.decodeResponse json = some response ∧
    r.outboxIsBound response = true

variable {r : Record} {attemptId generation : String}

theorem coherent_of_authentic (h : r.Authentic attemptId generation) :
    Coherent r attemptId generation :=
  ⟨h.bindings, h.ordered, h.manifest, h.intent, h.authorization, h.seed, h.proof, h.proofCheckpoint,
    h.outboxCheckpoint, h.outbox⟩

/-- A coherent record is accepted under its digest. -/
theorem Coherent.authentic {canonical : List UInt8} (h : Coherent r attemptId generation)
    (hcanonical : r.canonicalBytes = .ok canonical) :
    ({ r with integritySha256 := sha256Text canonical } : Record).Authentic attemptId generation :=
  ⟨h.bindings, { h.ordered with }, h.manifest, h.intent, h.authorization, h.seed, h.proof,
    h.proofCheckpoint, h.outboxCheckpoint, h.outbox, canonical, hcanonical, rfl⟩

/-- The texts of a record are within their limits. -/
def Fits [TextLength Record] (r : Record) : Prop :=
  ∃ canonical, r.canonicalBytes = .ok canonical ∧
    TextLength.length { r with integritySha256 := sha256Text canonical } + 1 ≤ maxFrameBytes

/-- The record under its digest; a record without a text has none. -/
def sealedImage (r : Record) : Record :=
  match (unsealed r).canonicalBytes with
  | .ok canonical => { unsealed r with integritySha256 := sha256Text canonical }
  | .error _ => unsealed r

/-- **What is stored**: a record that is coherent and fits. -/
theorem authenticatedStore_unsealed [TextLength Record] {image : Record} :
    authenticatedStore generation (unsealed r) = .ok image ↔
      Coherent (unsealed r) r.attemptId generation ∧ Fits (unsealed r) ∧ image = sealedImage r := by
  rw [authenticatedStore_eq_ok]
  constructor
  · rintro ⟨canonical, hcanonical, rfl, hauthentic, hfits⟩
    refine ⟨?_, ⟨canonical, hcanonical, hfits⟩, ?_⟩
    · exact { coherent_of_authentic hauthentic with ordered := { hauthentic.ordered with } }
    · rw [sealedImage, hcanonical]
  · rintro ⟨hcoherent, ⟨canonical, hcanonical, hfits⟩, rfl⟩
    refine ⟨canonical, hcanonical, ?_, ?_⟩
    · rw [sealedImage, hcanonical]
    · rw [sealedImage, hcanonical]
      exact ⟨hcoherent.authentic hcanonical, hfits⟩

end Coherent

/-! ## The watermark of the journal -/

/-- The start of the check of a journal: its format, and a watermark within its count. -/
theorem isConsistent_head {j : Journal} (h : j.isConsistent = true) :
    j.schemaVersion = causalDiagnosticSchema ∧ ∀ v ∈ j.durableThroughSequence, v ≤ j.sequence := by
  unfold Journal.isConsistent at h
  split at h
  · cases h
  · rename_i hhead
    simpa [not_or, Option.any_eq_false] using hhead

/-- A journal may have another watermark within its count. -/
theorem isConsistent_durable {j : Journal} (h : j.isConsistent = true) {d : Option ℕ}
    (hdurable : ∀ v ∈ d, v ≤ j.sequence) :
    ({ j with durableThroughSequence := d } : Journal).isConsistent = true := by
  obtain ⟨hschema, hold⟩ := isConsistent_head h
  have hpass : ∀ durable : Option ℕ, (∀ v ∈ durable, v ≤ j.sequence) →
      ¬ (j.schemaVersion ≠ causalDiagnosticSchema ∨ durable.any (fun v => decide (j.sequence < v)) =
        true) := by
    intro durable hbound
    simpa [hschema, Option.any_eq_false] using hbound
  unfold Journal.isConsistent at h ⊢
  rw [if_neg (hpass _ hold)] at h
  rw [if_neg (hpass _ hdurable)]
  exact h

/-! ## Replacing a record -/

@[simp] theorem keepsValue_self {α : Type} [DecidableEq α] (x : Option α) : keepsValue x x = true :=
  keepsValue_eq_true.2 (.refl x)

@[simp] theorem keepsFlag_self (b : Bool) : keepsFlag b b = true := by cases b <;> rfl

theorem keepsDiagnostics_self (r : Record) : keepsDiagnostics r r = true := by
  simp [keepsDiagnostics]

theorem mayReplace_self (m : Moment) (r : Record) : mayReplace m r r r.recordRevision = true := by
  simp [mayReplace, keepsBindings, keepsValues, keepsFlags, keepsDiagnostics_self]

/-! ## Commits -/

section Commit

variable [Sha256] [Wire] [TextLength Record] {generation : String}

omit [Sha256] [Wire] in
theorem readRecord_eq_ok {file : Option (Draft Record)} {r : Record} :
    readRecord file = .ok r ↔ ∃ d, file = some d ∧ d.written ≤ maxFrameBytes ∧
      d.parse = some r := by
  unfold readRecord
  simp only [okOr_bind_eq_ok, reject_bind_eq_ok, okOr_eq_ok, not_lt]

variable {cell cell' : Cell Record}

omit [Sha256] [Wire] in
theorem run_replace_eq_ok {image : Record} :
    (Cell.replace image).run cell = (cell', .ok ()) ↔ cell.staging = none ∧
      cell' = ⟨some (.whole image), none⟩ := by
  cases hstaging : cell.staging with
  | none =>
    rw [Cell.run_replace hstaging]
    simp [eq_comm]
  | some d =>
    rw [Cell.run_replace_error hstaging]
    simp

theorem publishAt_eq_ok {m : Moment} {p r image : Record} {expectedRevision : ℕ}
    (hread : readRecord cell.file = .ok p) :
    (publishAt generation m r expectedRevision).run cell = (cell', .ok image) ↔
      publishImage generation m (some p) r expectedRevision = .ok image ∧ cell.staging = none ∧
        cell' = ⟨some (.whole image), none⟩ := by
  obtain ⟨d, hfile, hbound, hparse⟩ := readRecord_eq_ok.1 hread
  have hprevious : (readRecord (some d)).map some = .ok (some p) := by
    rw [← hfile, hread]
    rfl
  unfold publishAt
  rw [Task.run_inspect_bind, hfile, Task.run_lift_bind hprevious]
  simp [Task.run_bind_eq_ok, mapError_eq_ok, Unique.exists_iff, run_replace_eq_ok]
  exact fun _ _ => eq_comm

/-- A record that may replace the one before it, is accepted and fits, is published. -/
theorem publishImage_of_coherent {m : Moment} {p r : Record}
    (hp : p.Authentic r.attemptId generation)
    (hreplace : mayReplace m p r r.recordRevision = true) (hroom : r.recordRevision + 1 < u64Bound)
    (hcoherent : Coherent (unsealed (snapshot r (r.recordRevision + 1))) r.attemptId generation)
    (hfits : Fits (unsealed (snapshot r (r.recordRevision + 1)))) :
    publishImage generation m (some p) (snapshot r (r.recordRevision + 1)) r.recordRevision =
      .ok (sealedImage (snapshot r (r.recordRevision + 1))) := by
  refine publishImage_eq_ok.2 ⟨?_, nofun, hroom, rfl,
    authenticatedStore_unsealed.2 ⟨hcoherent, hfits, rfl⟩⟩
  rintro p' ⟨⟩
  exact ⟨hp, hreplace⟩

/-- **A commit of a record that was read**: it may replace the one in the file, has room for its
revision, is accepted and fits, and no staging file is in the way. -/
theorem commitFile_eq_ok {m : Moment} {p : Record} {o o' : Owner}
    (hread : readRecord cell.file = .ok p) (hp : p.Authentic o.record.attemptId generation) :
    (commitFile generation m o).run cell = (cell', .ok o') ↔
      mayReplace m p o.record o.record.recordRevision = true ∧
      o.record.recordRevision + 1 < u64Bound ∧
      Coherent (unsealed (snapshot o.record (o.record.recordRevision + 1))) o.record.attemptId
        generation ∧
      Fits (unsealed (snapshot o.record (o.record.recordRevision + 1))) ∧ cell.staging = none ∧
      cell' = ⟨some (.whole (sealedImage (snapshot o.record (o.record.recordRevision + 1)))),
      none⟩ ∧
      o' = { o with record := sealedImage (snapshot o.record (o.record.recordRevision + 1)) } := by
  unfold commitFile
  rw [Task.run_lift_bind_eq_ok]
  simp only [okOr_eq_ok, checkedAdd_eq_some]
  constructor
  · rintro ⟨revision, ⟨hroom, rfl⟩, hrest⟩
    obtain ⟨cell₁, image, hpublish, hdone⟩ := Task.run_bind_eq_ok.1 hrest
    obtain ⟨himage, hstaging, rfl⟩ := (publishAt_eq_ok hread).1 hpublish
    obtain ⟨hprevious, -, -, -, hstore⟩ := publishImage_eq_ok.1 himage
    obtain ⟨hcoherent, hfits, rfl⟩ := authenticatedStore_unsealed.1 hstore
    cases hdone
    exact ⟨(hprevious p rfl).2, hroom, hcoherent, hfits, hstaging, rfl, rfl⟩
  · rintro ⟨hreplace, hroom, hcoherent, hfits, hstaging, rfl, rfl⟩
    refine ⟨_, ⟨hroom, rfl⟩, ?_⟩
    have himage := publishImage_of_coherent hp hreplace hroom hcoherent hfits
    rw [Task.run_bind_ok ((publishAt_eq_ok hread).2 ⟨himage, hstaging, rfl⟩)]
    rfl

end Commit

end MemCordon.WindowsAttempt
