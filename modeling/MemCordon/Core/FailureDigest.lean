import MemCordon.Core.RecordAuthentication

/-!
# The digest of a provider failure

`ProviderFailureDiagnosticV1` of `diagnostics.rs`: what its canonical digest hashes, and how a
diagnostic is read back.

* `ProviderFailure.preimage` is what `canonical_digest` hashes. Every part of it can be told from
  what follows it (`delimits_event` and the lemmas around it), so that it determines each field of
  a diagnostic but the digest that the diagnostic carries (`preimage_eq_iff`).
* `ProviderFailure.fromJournal_eq_ok` says when `from_journal` builds a diagnostic, and which one.
* `ProviderFailure.digest_covers_and_reads_back` joins the two: `parse_bound` returns what
  `from_journal` built.
-/

namespace MemCordon.WindowsRecord

open Workload CausalDiagnostics Fallible Encoding

/-- The bytes that `canonical_digest` hashes. -/
def ProviderFailure.preimage (f : ProviderFailure) : List UInt8 :=
  failureDomain ++ beBytes 4 f.schemaVersion ++
    beBytes 8 f.providerBinding.generation.bytes.length ++ f.providerBinding.generation.bytes ++
    beBytes 8 f.providerBinding.sourceCommit.bytes.length ++ f.providerBinding.sourceCommit.bytes ++
    f.providerBinding.runtimeManifestSha256.toList ++ f.attemptId.toList ++
    f.requestSha256.toList ++ beBytes 8 f.diagnosticSequence ++
    (f.durableThroughSequence.elim [0] fun value => 1 :: beBytes 8 value) ++
    (match f.original with
      | .observed event => 0 :: eventBytes event
      | .unavailable reason => 1 :: beBytes 2 reason.ctorIdx) ++
    beBytes 8 f.secondary.items.length ++ f.secondary.items.flatMap eventBytes ++
    beBytes 4 f.loss.secondaryEventsOmitted ++
    [flagByte f.loss.secondaryCountSaturated, flagByte f.loss.persistenceFailureObserved,
      flagByte f.loss.writerUnavailable]

theorem ProviderFailure.canonicalDigest_eq [Sha256] (f : ProviderFailure) :
    f.canonicalDigest = Sha256.digest f.preimage := rfl

/-- `ProviderFailureDiagnosticV1::parse_bound`, with what `serde_json::from_slice` reads. -/
def ProviderFailure.parseBound [Sha256] (read : List UInt8 → Option ProviderFailure)
    (bytes : List UInt8) (provider : PublicProviderBindingV1)
    (attempt request : DiagnosticSha256) : Except String ProviderFailure := do
  reject "diagnostic projection byte bound exceeded" (maxDiagnosticProjectionBytes < bytes.length)
  let value ← okOr "malformed diagnostic projection" (read bytes)
  reject "unbound or invalid diagnostic projection" (value.isConsistent = false ∨
    value.providerBinding ≠ provider ∨ value.attemptId ≠ attempt ∨ value.requestSha256 ≠ request ∨
    value.projectionSha256 ≠ value.canonicalDigest)
  return value

/-! ## Parts of the preimage -/

/-- The numbers are of the types that the source gives them. -/
structure ProviderFailure.Fits (f : ProviderFailure) : Prop where
  schemaVersion : f.schemaVersion < 256 ^ 4
  sequence : f.diagnosticSequence < 256 ^ 8
  durable : ∀ value ∈ f.durableThroughSequence, value < 256 ^ 8
  original : ∀ event ∈ f.original.event?, event.sequence < 256 ^ 8
  secondary : ∀ event ∈ f.secondary.items, event.sequence < 256 ^ 8
  omitted : f.loss.secondaryEventsOmitted < 256 ^ 4

variable {s t : List UInt8}

/-- The number of a word of a vocabulary. -/
theorem delimits_word {α : Type} {index : α → ℕ} {word : ℕ → α} (h : ∀ a, word (index a) = a)
    (hbound : ∀ a, index a < 256 ^ 2) : Delimits fun a => beBytes 2 (index a) := by
  intro a b s t hab
  obtain ⟨hindex, hst⟩ := delimits_beBytes (hbound a) (hbound b) hab
  exact ⟨Function.LeftInverse.injective h hindex, hst⟩

theorem delimits_origin : Delimits fun x : DiagnosticOrigin => beBytes 2 x.ctorIdx :=
  delimits_word DiagnosticOrigin.ofNat_ctorIdx (by intro x; cases x <;> decide)

theorem delimits_category : Delimits fun x : FailureCategory => beBytes 2 x.ctorIdx :=
  delimits_word FailureCategory.ofNat_ctorIdx (by intro x; cases x <;> decide)

theorem delimits_operation : Delimits fun x : FailureOperation => beBytes 2 x.ctorIdx :=
  delimits_word FailureOperation.ofNat_ctorIdx (by intro x; cases x <;> decide)

theorem delimits_code : Delimits fun x : FailureCode => beBytes 2 x.ctorIdx :=
  delimits_word FailureCode.ofNat_ctorIdx (by intro x; cases x <;> decide)

theorem delimits_message : Delimits fun x : SafeMessageId => beBytes 2 x.ctorIdx :=
  delimits_word SafeMessageId.ofNat_ctorIdx (by intro x; cases x <;> decide)

theorem delimits_phase : Delimits fun x : ObservationPhase => beBytes 2 x.ctorIdx :=
  delimits_word ObservationPhase.ofNat_ctorIdx (by intro x; cases x <;> decide)

theorem delimits_reason : Delimits fun x : OriginalUnavailableReason => beBytes 2 x.ctorIdx :=
  delimits_word OriginalUnavailableReason.ofNat_ctorIdx (by intro x; cases x <;> decide)

theorem delimits_u32 : Delimits fun x : UInt32 => beBytes 4 x.toNat := by
  intro a b s t h
  obtain ⟨hnat, hst⟩ := delimits_beBytes a.toNat_lt b.toNat_lt h
  exact ⟨UInt32.toNat_inj.1 hnat, hst⟩

theorem delimits_flag : Delimits fun flag => [flagByte flag] := by
  intro a b s t h
  cases a <;> cases b <;> simp_all [flagByte]

/-- The tag says which type of code follows. -/
theorem delimits_native : Delimits fun code : Option NativeFailureCode =>
    code.elim [0] NativeFailureCode.bytes := by
  have hsigned {a b : Int32} (h : a.toUInt32 = b.toUInt32) : a = b :=
    Int32.toBitVec_inj.1 (congrArg UInt32.toBitVec h)
  rintro (_ | a) (_ | b) s t h
  · simpa using h
  · cases b <;> simp [NativeFailureCode.bytes] at h
  · cases a <;> simp [NativeFailureCode.bytes] at h
  · cases a <;> cases b <;> simp [NativeFailureCode.bytes] at h ⊢ 
    iterate 3 exact delimits_u32 h
    iterate 3 exact (delimits_u32 h).imp_left hsigned

theorem delimits_detail : Delimits SafeDiagnosticDetail.bytes := by
  rintro (_ | ⟨observed, limit⟩ | id) (_ | ⟨observed', limit'⟩ | id') s t h <;>
    simp only [SafeDiagnosticDetail.bytes, List.cons_append, List.cons.injEq, List.append_assoc,
      true_and] at h
  all_goals try cases h.1
  · exact ⟨rfl, h⟩
  · obtain ⟨hobserved, hrest⟩ := delimits_u32 h
    obtain ⟨hlimit, hst⟩ := delimits_u32 hrest
    exact ⟨by rw [hobserved, hlimit], hst⟩
  · obtain ⟨rfl, rfl⟩ := delimits_message h
    exact ⟨rfl, rfl⟩

theorem delimits_reference :
    Delimits fun x : Option TerminalizationReference =>
      x.elim [0] TerminalizationReference.bytes := by
  rintro (_ | _ | index) (_ | _ | index') s t h <;> simp_all [TerminalizationReference.bytes]

theorem delimits_event : DelimitsOn (fun event => event.sequence < 256 ^ 8) (· = ·) eventBytes := by
  intro a b s t ha hb h
  simp only [eventBytes, List.append_assoc] at h
  obtain ⟨hsequence, h⟩ := delimits_beBytes ha hb h
  obtain ⟨horigin, h⟩ := delimits_origin h
  obtain ⟨hcategory, h⟩ := delimits_category h
  obtain ⟨hoperation, h⟩ := delimits_operation h
  obtain ⟨hcode, h⟩ := delimits_code h
  obtain ⟨hnative, h⟩ := delimits_native h
  obtain ⟨hphase, h⟩ := delimits_phase h
  obtain ⟨hdetail, h⟩ := delimits_detail h
  obtain ⟨hredacted, h⟩ := delimits_flag h
  obtain ⟨htruncated, h⟩ := delimits_flag h
  obtain ⟨hreference, h⟩ := delimits_reference h
  cases a
  cases b
  simp_all

/-- The bytes of the original failure. -/
theorem delimits_original :
    DelimitsOn (fun x : OriginalFailure => ∀ event ∈ x.event?, event.sequence < 256 ^ 8)
    (· = ·) fun x => match x with
      | .observed event => 0 :: eventBytes event
      | .unavailable reason => 1 :: beBytes 2 reason.ctorIdx := by
  rintro (a | a) (b | b) s t ha hb h
  · simpa using delimits_event (ha a rfl) (hb b rfl) (by simpa using h)
  · simp at h
  · simp at h
  · simpa using delimits_reason (by simpa using h)

/-- A text of the binding, with its length before it. -/
theorem delimits_bound_text {n : ℕ} (hn : n < 256 ^ 8) {a b : BoundedText n}
    (h : beBytes 8 a.bytes.length ++ (a.bytes ++ s) = beBytes 8 b.bytes.length ++ (b.bytes ++ t)) :
    a = b ∧ s = t := by
  obtain ⟨hlength, hrest⟩ := delimits_beBytes (a.bounded.trans_lt hn) (b.bounded.trans_lt hn) h
  obtain ⟨hbytes, hst⟩ := List.append_inj hrest hlength
  exact ⟨BoundedText.ext hbytes, hst⟩

theorem delimits_durable : DelimitsOn (fun d : Option ℕ => ∀ value ∈ d, value < 256 ^ 8) (· = ·)
    fun d => d.elim [0] fun value => 1 :: beBytes 8 value := by
  rintro (_ | a) (_ | b) s t ha hb h
  · simpa using h
  · simp at h
  · simp at h
  · simpa using delimits_beBytes (ha a rfl) (hb b rfl) (by simpa using h)

/-- **The preimage determines the diagnostic**, but for the digest that it carries. -/
theorem ProviderFailure.preimage_eq_iff {a b : ProviderFailure} (ha : a.Fits) (hb : b.Fits) :
    a.preimage = b.preimage ↔ { a with projectionSha256 := b.projectionSha256 } = b := by
  refine ⟨fun h => ?_, fun h => h ▸ rfl⟩
  replace h := congrArg (· ++ ([] : List UInt8)) h
  simp only [preimage, List.append_assoc] at h
  replace h := List.append_cancel_left h
  obtain ⟨hschema, h⟩ := delimits_beBytes ha.schemaVersion hb.schemaVersion h
  obtain ⟨hgeneration, h⟩ := delimits_bound_text (by decide) h
  obtain ⟨hcommit, h⟩ := delimits_bound_text (by decide) h
  obtain ⟨hmanifest, h⟩ := delimits_vector h
  obtain ⟨hattempt, h⟩ := delimits_vector h
  obtain ⟨hrequest, h⟩ := delimits_vector h
  obtain ⟨hsequence, h⟩ := delimits_beBytes ha.sequence hb.sequence h
  obtain ⟨hdurable, h⟩ := delimits_durable ha.durable hb.durable h
  obtain ⟨horiginal, h⟩ := delimits_original ha.original hb.original h
  obtain ⟨hlength, h⟩ := delimits_beBytes (a.secondary.bounded.trans_lt (by decide))
    (b.secondary.bounded.trans_lt (by decide)) h
  obtain ⟨hsecondary, h⟩ := delimits_event.flatMap hlength ha.secondary hb.secondary h
  obtain ⟨homitted, h⟩ := delimits_beBytes ha.omitted hb.omitted h
  obtain ⟨hsaturated, h⟩ := delimits_flag h
  obtain ⟨hpersistence, h⟩ := delimits_flag h
  obtain ⟨hwriter, -⟩ := delimits_flag h
  have hitems : a.secondary = b.secondary := BoundedVec.ext (List.forall₂_eq_eq_eq ▸ hsecondary)
  have hbinding : a.providerBinding = b.providerBinding :=
    PublicProviderBindingV1.ext hgeneration hcommit hmanifest
  have hloss : a.loss = b.loss := by
    cases hl : a.loss
    cases hl' : b.loss
    simp_all
  cases a
  cases b
  simp_all

/-- Two diagnostics with the digests that belong to them. -/
theorem ProviderFailure.eq_of_preimage_eq [Sha256] {a b : ProviderFailure} (ha : a.Fits)
    (hb : b.Fits) (hown : a.projectionSha256 = a.canonicalDigest)
    (hown' : b.projectionSha256 = b.canonicalDigest) (h : a.preimage = b.preimage) : a = b := by
  have heq := (preimage_eq_iff ha hb).1 h
  have hdigest : a.projectionSha256 = b.projectionSha256 := by
    rw [hown, hown', canonicalDigest_eq, canonicalDigest_eq, h]
  rwa [← hdigest] at heq

/-! ## Reading back what a journal gives -/

/-- What `from_journal` fills in before the digest. -/
def ProviderFailure.undigested (binding : PublicProviderBindingV1)
    (attemptId requestSha256 : DiagnosticSha256) (journal : Journal) : ProviderFailure :=
  { schemaVersion := causalDiagnosticSchema, providerBinding := binding, attemptId, requestSha256,
    diagnosticSequence := journal.sequence,
    durableThroughSequence := journal.durableThroughSequence,
    original := journal.original, secondary := journal.secondary, loss := journal.loss,
    projectionSha256 := List.Vector.replicate 32 0 }

/-- The diagnostic of a journal. -/
def ProviderFailure.ofJournal [Sha256] (binding : PublicProviderBindingV1)
    (attemptId requestSha256 : DiagnosticSha256) (journal : Journal) : ProviderFailure :=
  let projection := undigested binding attemptId requestSha256 journal
  { projection with projectionSha256 := projection.canonicalDigest }

section Journals

variable [Sha256] {read : List UInt8 → Option ProviderFailure}
  {binding : PublicProviderBindingV1} {attemptId requestSha256 : String}
  {attempt request : DiagnosticSha256} {journal : Journal} {f : ProviderFailure}

/-- The journal's own schema version is not looked at. -/
theorem ProviderFailure.isConsistent_ofJournal :
    (ofJournal binding attempt request journal).isConsistent = true ↔
      binding.isConsistent = true ∧
        Journal.isConsistent { journal with schemaVersion := causalDiagnosticSchema } = true := by
  simp [isConsistent, ofJournal, undigested]

theorem ProviderFailure.projectionSha256_ofJournal :
    (ofJournal binding attempt request journal).projectionSha256 =
      (ofJournal binding attempt request journal).canonicalDigest := rfl

/-- `parse_bound` accepts a text that is read as a consistent diagnostic with its own digest. -/
theorem ProviderFailure.parseBound_of_read {bytes : List UInt8}
    (hlength : bytes.length ≤ maxDiagnosticProjectionBytes) (hread : read bytes = some f)
    (hconsistent : f.isConsistent = true) (hdigest : f.projectionSha256 = f.canonicalDigest) :
    parseBound read bytes f.providerBinding f.attemptId f.requestSha256 = .ok f := by
  refine reject_bind_eq_ok.2 ⟨not_lt.2 hlength, okOr_bind_eq_ok.2 ⟨f, hread, ?_⟩⟩
  refine reject_bind_eq_ok.2 ⟨?_, rfl⟩
  simp [hconsistent, ← hdigest]

variable [Wire]

/-- When `from_journal` builds a diagnostic, and which one. -/
theorem ProviderFailure.fromJournal_eq_ok (hattempt : parseSha256 attemptId = .ok attempt)
    (hrequest : parseSha256 requestSha256 = .ok request) :
    fromJournal binding attemptId requestSha256 journal = .ok f ↔
      (binding.isConsistent = true ∧
        Journal.isConsistent { journal with schemaVersion := causalDiagnosticSchema } = true) ∧
      (Wire.failure f).length ≤ maxDiagnosticProjectionBytes ∧
      f = ofJournal binding attempt request journal := by
  have hconsistent : (undigested binding attempt request journal).isConsistent =
      (ofJournal binding attempt request journal).isConsistent := rfl
  have hunfold : fromJournal binding attemptId requestSha256 journal = (do
      reject "invalid diagnostic projection binding or journal"
        ((undigested binding attempt request journal).isConsistent = false)
      reject "diagnostic projection byte bound exceeded" (maxDiagnosticProjectionBytes <
        (Wire.failure (ofJournal binding attempt request journal)).length)
      return ofJournal binding attempt request journal) := by
    unfold fromJournal
    rw [hattempt, hrequest]
    rfl
  rw [hunfold, reject_bind_eq_ok, reject_bind_eq_ok, pure_eq_ok, hconsistent, Bool.not_eq_false,
    isConsistent_ofJournal, not_lt]
  constructor
  · rintro ⟨hvalid, hlength, rfl⟩
    exact ⟨hvalid, hlength, rfl⟩
  · rintro ⟨hvalid, hlength, rfl⟩
    exact ⟨hvalid, hlength, rfl⟩

/-- A diagnostic that `from_journal` built is read back. -/
theorem ProviderFailure.parseBound_fromJournal (hattempt : parseSha256 attemptId = .ok attempt)
    (hrequest : parseSha256 requestSha256 = .ok request)
    (h : fromJournal binding attemptId requestSha256 journal = .ok f)
    (hread : read (Wire.failure f) = some f) :
    parseBound read (Wire.failure f) binding attempt request = .ok f := by
  obtain ⟨hvalid, hlength, rfl⟩ := (fromJournal_eq_ok hattempt hrequest).1 h
  exact parseBound_of_read hlength hread (isConsistent_ofJournal.2 hvalid)
    projectionSha256_ofJournal

end Journals

namespace Sample

/-- The journal of a cleanup that failed. -/
def failedJournal : Journal :=
  { original := .observed { cleanupEvent with sequence := 1 }, sequence := 1 }

def zeroDigest : DiagnosticSha256 := List.Vector.replicate 32 0

/-- Its diagnostic, with a hash of zeros. -/
def failure : ProviderFailure :=
  @ProviderFailure.ofJournal zeroSha sampleProvider zeroDigest zeroDigest failedJournal

def failureText : List UInt8 :=
  [CodedText.bytes "\x7b\"schema_version\":1,\"provider_binding\":\x7b\"generation\":\"g\",",
    CodedText.bytes "\"source_commit\":\"", List.replicate 40 97,
    CodedText.bytes "\",\"runtime_manifest_sha256\":\"", List.replicate 64 48,
    CodedText.bytes "\"\x7d,\"attempt_id\":\"", List.replicate 64 48,
    CodedText.bytes "\",\"request_sha256\":\"", List.replicate 64 48,
    CodedText.bytes "\",\"diagnostic_sequence\":1,\"durable_through_sequence\":null,",
    CodedText.bytes "\"original\":\x7b\"observed\":\x7b\"event\":\x7b\"sequence\":1,",
    CodedText.bytes "\"origin\":\"launcher\",\"category\":\"cleanup\",",
    CodedText.bytes "\"operation\":\"terminate-job\",\"code\":\"unexpected-provider-failure\",",
    CodedText.bytes "\"native_code\":null,\"observed_phase\":\"cleaning\",",
    CodedText.bytes "\"safe_detail\":\"no-additional-detail\",\"detail_redacted\":true,",
    CodedText.bytes "\"detail_truncated\":false,\"terminalization_reference\":null\x7d\x7d\x7d,",
    CodedText.bytes "\"secondary\":[],\"loss\":\x7b\"secondary_events_omitted\":0,",
    CodedText.bytes "\"secondary_count_saturated\":false,\"persistence_failure_observed\":false,",
    CodedText.bytes "\"writer_unavailable\":false\x7d,\"projection_sha256\":\"",
    List.replicate 64 48, CodedText.bytes "\"\x7d"].flatten

/-- An encoder that knows this diagnostic. -/
abbrev failureWire : Wire :=
  { wire with failure := fun f => if f = failure then failureText else [] }

def readFailure (bytes : List UInt8) : Option ProviderFailure :=
  if bytes = failureText then some failure else none

theorem wire_failure : failureWire.failure failure = failureText := if_pos rfl

end Sample

end MemCordon.WindowsRecord
