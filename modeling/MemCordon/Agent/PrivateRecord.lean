import MemCordon.Foundations.LineText
import MemCordon.Workload.Evidence
import MemCordon.Workload.PrivateEvidence

/-!
# Journal records of private attempts

The record of `linux/private_attempt.rs` and its text. A record is written as four lines and a line
with the checksum of these; `parse` takes the text apart at the last mark of a checksum.

* `PrivateAttemptRecordV4.validate` is the sequence of checks in the order of the source;
  `validate_eq_ok` lists them.
* `parse_encode`: what `encode` writes is read back.

The payload is the work of `serde_json`, which is not part of the source: it is the instance of
`JournalWire` that the definitions run with, and `LawfulJournalWire` says what is expected of it.
-/

namespace MemCordon.PrivateAttempt

open Workload Fallible LineText CodedText

/-! ## Texts -/

/-- `BoundedText::new` -/
def boundedText (n : ℕ) (value : String) : Except String (BoundedText n) :=
  if h : (CodedText.bytes value).length ≤ n ∧ (0 : UInt8) ∉ CodedText.bytes value then
    .ok ⟨CodedText.bytes value, h.1, h.2, CodedText.isUtf8_bytes value⟩
  else .error "invalid diagnostic text"

theorem boundedText_eq_ok {n : ℕ} {value : String} {text : BoundedText n} :
    boundedText n value = .ok text ↔ text.bytes = CodedText.bytes value := by
  unfold boundedText
  constructor
  · intro h
    split_ifs at h
    cases h
    rfl
  · intro h
    rw [dif_pos ⟨h ▸ text.bounded, h ▸ text.noNul⟩]
    exact congrArg Except.ok (BoundedText.ext h.symm)

def validAttemptIdentity (identity : List UInt8) : Bool :=
  identity.length == 32 && identity.all isHexDigit

/-! ## The record -/

/-- `PrivateAttemptPhase` -/
inductive Phase
  | allocated
  | boundaryCreated
  | guardianReady
  | targetGated
  | checkpointCommitted
  | releaseIntent
  | executionObserved
  | retiring
  | retired
  | cleanupIncomplete
  deriving DecidableEq

inductive ReleaseKnowledge
  | notReleased
  | possiblyReleased
  | execObserved
  deriving DecidableEq

/-- `ProcessIdentityV4` -/
structure ProcessIdentity where
  pid : UInt32
  startTime : UInt64
  deriving DecidableEq

/-- `ProcessIdentityV4::validate` -/
def ProcessIdentity.validate (identity : ProcessIdentity) : Except String Unit :=
  reject "V4 process identity is incomplete" (identity.pid = 0 ∨ identity.startTime = 0)

structure OperationalGatedFacts where
  format : String
  revision : UInt32
  attemptBinding : DiagnosticSha256
  (target init : ProcessIdentity)
  networkNamespaceInode : UInt64
  (entrypointSha256 filterSha256 topologySha256 : DiagnosticSha256)
  gatedDescriptorCount : UInt8
  deriving DecidableEq

def OperationalGatedFacts.validate (facts : OperationalGatedFacts) : Except String Unit := do
  reject "private gated observation format or inventory differs"
    (facts.format ≠ "memcordon.private-gated-observation" ∨ facts.revision ≠ 1 ∨
      facts.gatedDescriptorCount ≠ 5 ∨ facts.networkNamespaceInode = 0)
  facts.target.validate
  facts.init.validate

structure PrivateAttemptRecordV4 where
  attemptId : BoundedText Limits.identifierBytes
  bootIdentity : BoundedText 128
  frontend : ProcessIdentity
  callerEnvelopeDigest : DiagnosticSha256
  admissionMetadata : Option RuntimePrivateAdmissionSnapshot
  phase : Phase
  releaseKnowledge : ReleaseKnowledge
  binding : Option AttemptBindingV2
  (guardian namespaceInit target : Option ProcessIdentity)
  networkNamespaceInode : Option UInt64
  checkpoint : Option PrivateTcpCheckpointV2
  checkpointDigest : Option DiagnosticSha256
  gatedFacts : Option OperationalGatedFacts
  cleanupError : Option (BoundedText 4096)
  deriving DecidableEq

namespace PrivateAttemptRecordV4

/-! ## Validation -/

section Validation

variable [Sha256]

variable (r : PrivateAttemptRecordV4)

/-- The local admission that the record describes, and its association with the binding. -/
def validateMetadata : Except String Unit :=
  match r.admissionMetadata with
  | none => .ok ()
  | some metadata => do
    metadata.validate
    match r.binding with
    | none => .ok ()
    | some binding =>
      let digest ← metadata.canonicalDigest
      reject "private journal local admission association differs"
        (binding.admissionDigest ≠ digest ∨
          binding.nativeInvocationDigest ≠ metadata.invocationSha256)

/-- The binding names this attempt and its caller. -/
def bindingCorrelates : Prop :=
  ∀ binding ∈ r.binding, binding.attemptId = r.attemptId ∧
    binding.callerEnvelopeDigest = r.callerEnvelopeDigest

instance : Decidable r.bindingCorrelates :=
  inferInstanceAs (Decidable (∀ binding ∈ r.binding, _))

/-- The checks that do not look at the phase, up to the correlation of the binding. -/
def validateNative : Except String Unit := do
  reject "V4 attempt or boot identity invalid"
    (validAttemptIdentity r.attemptId.bytes = false ∨ r.bootIdentity.bytes = [])
  r.frontend.validate
  r.validateMetadata
  ([r.guardian, r.namespaceInit, r.target].filterMap id).forM ProcessIdentity.validate
  reject "V4 network namespace inode is zero" (r.networkNamespaceInode = some 0)
  reject "native journal attempt correlation differs" (¬ r.bindingCorrelates)

/-- The record holds a resource that only a target has. -/
def HasTargetResource : Prop :=
  r.namespaceInit.isSome ∨ r.target.isSome ∨ r.networkNamespaceInode.isSome ∨ r.checkpoint.isSome

instance : Decidable r.HasTargetResource := inferInstanceAs (Decidable (_ ∨ _))

/-- The resources that a phase may have. -/
def validateInventory : Except String Unit :=
  match r.phase with
  | .allocated =>
    reject "V4 preboundary phase contains native resources"
      (r.guardian.isSome ∨ r.HasTargetResource)
  | .boundaryCreated =>
    reject "V4 boundary phase contains later resources" (r.guardian.isSome ∨ r.HasTargetResource)
  | .guardianReady =>
    reject "V4 guardian phase resource inventory differs" (r.guardian = none ∨ r.HasTargetResource)
  | .targetGated =>
    reject "V4 gated phase contains uncommitted checkpoint" (r.checkpoint.isSome = true)
  | _ => .ok ()

/-- The phases with a target behind its gate or beyond. -/
def Phase.gated (phase : Phase) : Bool :=
  phase == .targetGated || phase == .checkpointCommitted || phase == .releaseIntent || phase ==
    .executionObserved

def Phase.committed (phase : Phase) : Bool :=
  phase == .checkpointCommitted || phase == .releaseIntent || phase == .executionObserved

/-- The resources and observations that a phase has to have. -/
def validateGated : Except String Unit := do
  reject "V4 gated target lacks native resource identities"
    (Phase.gated r.phase = true ∧
      (r.guardian = none ∨ r.namespaceInit = none ∨ r.target = none ∨
        r.networkNamespaceInode = none))
  reject "private committed phase lacks actual gated observations"
    (Phase.committed r.phase = true ∧ r.gatedFacts = none)

/-- The observations of a gated target are those of this attempt. -/
def validateFacts : Except String Unit :=
  match r.gatedFacts with
  | none => .ok ()
  | some facts => do
    facts.validate
    let digest ← r.binding.mapM AttemptBindingV2.canonicalDigest
    reject "private gated observations differ from native journal"
      (digest ≠ some facts.attemptBinding ∨ r.target ≠ some facts.target ∨
        r.namespaceInit ≠ some facts.init ∨
        r.networkNamespaceInode ≠ some facts.networkNamespaceInode)

/-- The checkpoint is valid and bound to this attempt. -/
def validateCheckpoint : Except String Unit :=
  match r.checkpoint with
  | none => reject "V4 checkpoint digest lacks payload" (r.checkpointDigest.isSome = true)
  | some checkpoint => do
    checkpoint.validate
    let binding ← okOr "V4 checkpoint lacks binding" r.binding
    let bound ← binding.canonicalDigest
    reject "V4 checkpoint digest or attempt binding differs" (checkpoint.attemptBinding ≠ bound)
    let digest ← checkpoint.canonicalDigest
    reject "V4 checkpoint digest or attempt binding differs" (r.checkpointDigest ≠ some digest)

/-- What is known about the release, at the phase of the record. -/
def validateRelease : Except String Unit := do
  reject "private release knowledge lacks native gated observations"
    (r.releaseKnowledge ≠ .notReleased ∧ r.gatedFacts = none)
  match r.phase with
  | .allocated | .boundaryCreated | .guardianReady | .targetGated | .checkpointCommitted =>
    reject "V4 release knowledge precedes release intent" (r.releaseKnowledge ≠ .notReleased)
  | .releaseIntent =>
    reject "V4 release intent lacks uncertainty" (r.releaseKnowledge ≠ .possiblyReleased)
  | .executionObserved =>
    reject "V4 exec phase lacks observation" (r.releaseKnowledge ≠ .execObserved)
  | _ => .ok ()

/-- An error of the cleanup, exactly at an incomplete one. -/
def validateCleanup : Except String Unit := do
  reject "V4 incomplete cleanup lacks an error" (r.phase = .cleanupIncomplete ∧
    r.cleanupError = none)
  reject "V4 cleanup error appears outside incomplete phase"
    (r.cleanupError.isSome = true ∧ r.phase ≠ .cleanupIncomplete)

def validate : Except String Unit := do
  r.validateNative
  r.validateInventory
  r.validateGated
  r.validateFacts
  r.validateCheckpoint
  r.validateRelease
  r.validateCleanup

theorem validate_eq_ok {r : PrivateAttemptRecordV4} : r.validate = .ok () ↔
    r.validateNative = .ok () ∧ r.validateInventory = .ok () ∧ r.validateGated = .ok () ∧
      r.validateFacts = .ok () ∧
      r.validateCheckpoint = .ok () ∧ r.validateRelease = .ok () ∧ r.validateCleanup = .ok () := by
  simp only [validate, unit_bind_eq_ok]

end Validation

def allocated [Sha256] (attemptId : BoundedText Limits.identifierBytes)
    (bootIdentity : BoundedText 128)
    (frontend : ProcessIdentity) (callerEnvelopeDigest : DiagnosticSha256) :
    Except String PrivateAttemptRecordV4 := do
  let record : PrivateAttemptRecordV4 := {
    attemptId, bootIdentity, frontend, callerEnvelopeDigest
    admissionMetadata := none
    phase := .allocated
    releaseKnowledge := .notReleased
    binding := none
    guardian := none
    namespaceInit := none
    target := none
    networkNamespaceInode := none
    checkpoint := none
    checkpointDigest := none
    gatedFacts := none
    cleanupError := none }
  record.validate
  return record

end PrivateAttemptRecordV4

/-! ## The text of a record -/

/-- What `serde_json`, with the check for duplicate keys, makes of records. -/
class JournalWire where
  payload : PrivateAttemptRecordV4 → Except String (List UInt8)
  decode : List UInt8 → Except String PrivateAttemptRecordV4
  /-- The text of a `Utf8Error`. -/
  utf8Error : List UInt8 → String

/-- A payload is a text on one line. -/
structure IsPayload (bytes : List UInt8) : Prop where
  isLine : IsLine bytes
  ne_nil : bytes ≠ []
  utf8 : CodedText.isUtf8 bytes = true

/-- A payload that is written is a text on one line, and is read back. -/
class LawfulJournalWire [JournalWire] : Prop where
  isPayload : ∀ {r bytes}, JournalWire.payload r = .ok bytes → IsPayload bytes
  decode_payload : ∀ {r bytes}, JournalWire.payload r = .ok bytes → JournalWire.decode bytes = .ok r

def maxPrivateRecordBytes : ℕ := Limits.registryBytes + Limits.publicObjectBytes * 2

namespace PrivateAttemptRecordV4

section Text

variable [Sha256] [JournalWire]

/-- The line that says what kind of record it is. -/
def formatLine : List UInt8 := CodedText.bytes "format=memcordon.private-native-journal"

/-- The lines of a record with this payload, without the checksum. -/
def body (r : PrivateAttemptRecordV4) (payload : List UInt8) : List UInt8 :=
  formatLine ++ 10 ::
    (CodedText.bytes "revision=1" ++ 10 :: ((CodedText.bytes "cgroup=" ++ r.attemptId.bytes) ++
    10 :: ((CodedText.bytes "payload=" ++ payload) ++ [10])))

def checksum (body : List UInt8) : List UInt8 := hex (hashBytes body).toList ++ [10]

def digestMark : List UInt8 := CodedText.bytes "digest="

def text (r : PrivateAttemptRecordV4) (payload : List UInt8) : List UInt8 :=
  r.body payload ++ (digestMark ++ checksum (r.body payload))

def encode (r : PrivateAttemptRecordV4) : Except String (List UInt8) := do
  r.validate
  let payload ← JournalWire.payload r
  reject "V4 record exceeds bound" (maxPrivateRecordBytes < (r.text payload).length)
  return r.text payload

def parse (bytes : List UInt8) : Except String PrivateAttemptRecordV4 := do
  reject "V4 record exceeds bound" (maxPrivateRecordBytes < bytes.length)
  reject (JournalWire.utf8Error bytes) (CodedText.isUtf8 bytes = false)
  let (body, digest) ← okOr "V4 record checksum absent" (rsplitOnce digestMark bytes)
  reject "V4 record checksum differs" (digest ≠ checksum body)
  let fields := lines body
  reject "V4 record version differs"
    (fields[0]? ≠ some formatLine ∨ fields[1]? ≠ some (CodedText.bytes "revision=1"))
  let identity ← okOr "V4 cgroup binding absent" (fields[2]?.bind
    (stripPrefix (CodedText.bytes "cgroup=")))
  let payload ← okOr "V4 payload absent" (fields[3]?.bind
    (stripPrefix (CodedText.bytes "payload=")))
  reject "V4 record has extra fields" (fields[4]?.isSome = true)
  let record ← JournalWire.decode payload
  record.validate
  reject "V4 cgroup and payload identity differ" (record.attemptId.bytes ≠ identity)
  return record

variable {r : PrivateAttemptRecordV4} {bytes : List UInt8}

theorem encode_eq_ok : r.encode = .ok bytes ↔ r.validate = .ok () ∧
    ∃ payload, JournalWire.payload r = .ok payload ∧
      (r.text payload).length ≤ maxPrivateRecordBytes ∧ bytes = r.text payload := by
  simp only [encode, unit_bind_eq_ok, bind_eq_ok (x := JournalWire.payload r), reject_eq_ok, not_lt]
  refine and_congr_right' (exists_congr fun payload => and_congr_right' (and_congr_right' ⟨?_, ?_⟩))
  · rintro ⟨⟩
    rfl
  · rintro rfl
    rfl

omit [JournalWire] in
theorem isHexDigit_of_valid (h : r.validate = .ok ()) {byte : UInt8}
    (hmem : byte ∈ r.attemptId.bytes) : isHexDigit byte = true := by
  have hnative := (validate_eq_ok.1 h).1
  simp only [validateNative, unit_bind_eq_ok, reject_eq_ok, not_or, Bool.not_eq_false] at hnative
  have hvalid := hnative.1.1
  simp only [validAttemptIdentity, Bool.and_eq_true, List.all_eq_true] at hvalid
  exact hvalid.2 byte hmem

omit [Sha256] [JournalWire] in
theorem isHexDigit_lt {byte : UInt8} (h : isHexDigit byte = true) : byte.toNat < 128 ∧ byte ≠ 10 ∧
    byte ≠ 13 ∧ byte ≠ 61 := by
  have hall : ∀ n : Fin 256, isHexDigit (UInt8.ofNat n) = true →
      (UInt8.ofNat n).toNat < 128 ∧ UInt8.ofNat n ≠ 10 ∧ UInt8.ofNat n ≠ 13 ∧
      UInt8.ofNat n ≠ 61 := by decide +kernel
  have hbyte := hall ⟨byte.toNat, byte.toNat_lt⟩
  rw [UInt8.ofNat_toNat] at hbyte
  exact hbyte h

omit [Sha256] [JournalWire] in
/-- A list of hexadecimal digits stands on a line of its own. -/
theorem isLine_of_hex {text : List UInt8} (h : ∀ byte ∈ text, isHexDigit byte = true) :
    IsLine text := by
  refine ⟨fun hmem => (isHexDigit_lt (h _ hmem)).2.1 rfl, fun hlast => ?_⟩
  exact (isHexDigit_lt (h _ (List.mem_of_getLast? hlast))).2.2.1 rfl

omit [JournalWire] in
theorem lines_body {payload : List UInt8} (h : r.validate = .ok ()) (hpayload : IsPayload payload) :
    lines (r.body payload) =
    [formatLine, CodedText.bytes "revision=1", CodedText.bytes "cgroup=" ++ r.attemptId.bytes,
      CodedText.bytes "payload=" ++ payload] := by
  have hid : r.attemptId.bytes ≠ [] := by
    intro hnil
    have hnative := (validate_eq_ok.1 h).1
    simp [validateNative, unit_bind_eq_ok, reject_eq_ok, hnil, validAttemptIdentity] at hnative
  unfold body
  rw [lines_line ⟨by decide, by decide⟩, lines_line ⟨by decide, by decide⟩,
    lines_line (isLine_append (by decide) (isLine_of_hex fun _ => isHexDigit_of_valid h) hid),
    lines_line (isLine_append (by decide) hpayload.isLine hpayload.ne_nil)]
  rfl

omit [JournalWire] in
theorem rsplitOnce_digestMark (body : List UInt8) :
    rsplitOnce digestMark (body ++ (digestMark ++ checksum body)) = some (body, checksum body) := by
  have hequals : (61 : UInt8) ∉ checksum body := by
    intro hmem
    rcases List.mem_append.1 hmem with hhex | hfeed
    · exact (isHexDigit_lt (isHexDigit_of_mem_hex hhex)).2.2.2 rfl
    · exact absurd (List.mem_singleton.1 hfeed) (by decide)
  exact rsplitOnce_mark [100, 105, 103, 101, 115, 116] (by decide) hequals body

omit [JournalWire] in
theorem isUtf8_text (r : PrivateAttemptRecordV4) {payload : List UInt8}
    (hpayload : IsPayload payload) :
    CodedText.isUtf8 (r.text payload) = true := by
  have hchecksum : CodedText.isUtf8 (hex (hashBytes (r.body payload)).toList) = true :=
    isUtf8_of_ascii fun _ hmem => (isHexDigit_lt (isHexDigit_of_mem_hex hmem)).1
  have hid : CodedText.isUtf8 r.attemptId.bytes = true := r.attemptId.utf8
  have hfeed : CodedText.isUtf8 [10] = true := isUtf8_of_ascii (by simp)
  have hcons : ∀ {rest : List UInt8}, CodedText.isUtf8 rest = true →
      CodedText.isUtf8 (10 :: rest) = true :=
    fun hrest => isUtf8_append hfeed hrest
  refine isUtf8_append ?_ (isUtf8_append (isUtf8_bytes _)
    (isUtf8_append hchecksum hfeed))
  refine isUtf8_append (isUtf8_bytes _) (hcons ?_)
  refine isUtf8_append (isUtf8_bytes _) (hcons ?_)
  refine isUtf8_append (isUtf8_append (isUtf8_bytes _) hid) (hcons ?_)
  exact isUtf8_append (isUtf8_append (isUtf8_bytes _) hpayload.utf8) hfeed

/-- What a text has to be, to be read as a record. -/
theorem parse_eq_ok : parse bytes = .ok r ↔ bytes.length ≤ maxPrivateRecordBytes ∧
    CodedText.isUtf8 bytes = true ∧
      ∃ body payload, rsplitOnce digestMark bytes = some (body, checksum body) ∧
        (lines body)[0]? = some formatLine ∧ (lines body)[1]? = some
        (CodedText.bytes "revision=1") ∧
        (lines body)[2]?.bind (stripPrefix (CodedText.bytes "cgroup=")) = some r.attemptId.bytes ∧
        (lines body)[3]?.bind (stripPrefix (CodedText.bytes "payload=")) = some payload ∧
        (lines body)[4]? = none ∧ JournalWire.decode payload = .ok r ∧ r.validate = .ok () := by
  unfold parse
  simp only [reject_bind_eq_ok, okOr_bind_eq_ok, bind_eq_ok (x := JournalWire.decode _)]
  simp only [unit_bind_eq_ok, reject_eq_ok, not_lt, Bool.not_eq_false, not_or, not_not,
    Bool.not_eq_true, Option.isSome_eq_false_iff, Option.isNone_iff_eq_none, Prod.exists]
  refine and_congr_right' (and_congr_right' ⟨?_, ?_⟩)
  · rintro ⟨body, digest, hsplit, rfl, ⟨hformat, hrevision⟩, identity, hidentity, payload, hpayload,
      hextra, record, hdecode, hvalid, rfl, ⟨⟩⟩
    exact ⟨body, payload, hsplit, hformat, hrevision, hidentity, hpayload, hextra, hdecode, hvalid⟩
  · rintro ⟨body, payload, hsplit, hformat, hrevision, hidentity, hpayload, hextra, hdecode, hvalid⟩
    exact ⟨body, _, hsplit, rfl, ⟨hformat, hrevision⟩, _, hidentity, payload, hpayload, hextra, r,
      hdecode, hvalid, rfl, rfl⟩

/-- **A written record is read back.** -/
theorem parse_encode [LawfulJournalWire] (h : r.encode = .ok bytes) : parse bytes = .ok r := by
  obtain ⟨hvalid, payload, hpayload, hlength, rfl⟩ := encode_eq_ok.1 h
  have hline : IsPayload payload := LawfulJournalWire.isPayload hpayload
  refine parse_eq_ok.2 ⟨hlength, isUtf8_text r hline, r.body payload, payload,
    rsplitOnce_digestMark _, ?_⟩
  simp [lines_body hvalid hline, LawfulJournalWire.decode_payload hpayload, hvalid]

end Text

end PrivateAttemptRecordV4

/-! ## A lawful wire -/

namespace Sample

def phaseName : Phase → String
  | .allocated => "allocated"
  | .boundaryCreated => "boundary-created"
  | .guardianReady => "guardian-ready"
  | .targetGated => "target-gated"
  | .checkpointCommitted => "checkpoint-committed"
  | .releaseIntent => "release-intent"
  | .executionObserved => "execution-observed"
  | .retiring => "retiring"
  | .retired => "retired"
  | .cleanupIncomplete => "cleanup-incomplete"

def knowledgeName : ReleaseKnowledge → String
  | .notReleased => "not-released"
  | .possiblyReleased => "possibly-released"
  | .execObserved => "exec-observed"

/-- A text of a record as JSON, when nothing in it is to be escaped. -/
def quoted (text : List UInt8) : List UInt8 := 34 :: (text ++ [34])

def digits (n : ℕ) : List UInt8 := CodedText.bytes (toString n)

def quotedHex (digest : DiagnosticSha256) : List UInt8 := quoted (hex digest.toList)

def nullable {α : Type} (write : α → List UInt8) (value : Option α) : List UInt8 :=
  value.elim (CodedText.bytes "null") write

/-- A key of an object with what stands before it, and the value of the key. -/
def entry (key : String) (value : List UInt8) : List UInt8 := CodedText.bytes key ++ 58 :: value

def processJson (identity : ProcessIdentity) : List UInt8 :=
  [entry "\x7b\"pid\"" (digits identity.pid.toNat),
    entry ",\"start_time\"" (digits identity.startTime.toNat),
    CodedText.bytes "\x7d"].flatten

def bindingJson (binding : AttemptBindingV2) : List UInt8 :=
  [entry "\x7b\"attempt_id\"" (quoted binding.attemptId.bytes),
    entry ",\"admission_digest\"" (quotedHex binding.admissionDigest),
    entry ",\"caller_envelope_digest\"" (quotedHex binding.callerEnvelopeDigest),
    entry ",\"native_invocation_digest\"" (quotedHex binding.nativeInvocationDigest),
    CodedText.bytes "\x7d"].flatten

def factsJson (facts : OperationalGatedFacts) : List UInt8 :=
  [entry "\x7b\"format\"" (quoted (CodedText.bytes facts.format)),
    entry ",\"revision\"" (digits facts.revision.toNat),
    entry ",\"attempt_binding\"" (quotedHex facts.attemptBinding),
    entry ",\"target\"" (processJson facts.target),
    entry ",\"init\"" (processJson facts.init),
    entry ",\"network_namespace_inode\"" (digits facts.networkNamespaceInode.toNat),
    entry ",\"entrypoint_sha256\"" (quotedHex facts.entrypointSha256),
    entry ",\"filter_sha256\"" (quotedHex facts.filterSha256),
    entry ",\"topology_sha256\"" (quotedHex facts.topologySha256),
    entry ",\"gated_descriptor_count\"" (digits facts.gatedDescriptorCount.toNat),
    CodedText.bytes "\x7d"].flatten

/-- The admission that the sample records name. -/
def metadata : RuntimePrivateAdmissionSnapshot where
  format := "memcordon.private-admission-metadata"
  revision := 1
  request := sampleRequest
  requestSha256 := List.Vector.replicate 32 0
  invocationSha256 := List.Vector.replicate 32 0
  caller := .linux 1000
  registryDigest := List.Vector.replicate 32 0
  epoch := sampleRequest.expectedEpoch
  admissionNonce := List.Vector.replicate 16 0
  profileId := sampleRequest.authorizedProfile

def zeros : List UInt8 := quotedHex (List.Vector.replicate 32 0)

def nonceJson : List UInt8 := CodedText.bytes "[0,0,0,0,0,0,0,0,0,0,0,0,0,0,0,0]"

def epochJson : List UInt8 :=
  [entry "\x7b\"service_instance\"" nonceJson,
    CodedText.bytes ",\"revision\":1\x7d"].flatten

def profileJson : List UInt8 :=
  [CodedText.bytes "\x7b\"id\":\"linux-unix-create-v1\"",
    entry ",\"semantic_digest\"" zeros,
    CodedText.bytes "\x7d"].flatten

/-- The text of `sampleRequest`. -/
def requestJson : List UInt8 :=
  [entry "\x7b\"schema_version\":2,\"workload_plan_digest\"" zeros,
    entry ",\"authorized_profile\"" profileJson,
    CodedText.bytes ",\"authorization\":\x7b\"grant_id\":\"linux-tcp4-private-v1\"",
    entry ",\"grant_revision\":1,\"approved_plan_digest\"" zeros,
    CodedText.bytes "\x7d,\"ceiling\":\x7b",
    CodedText.bytes "\"direct_socket_authority\":\"pinned-legacy-socket-filter-accepted\"",
    CodedText.bytes ",\"unix_authority\":\"existing-host-unix-authority-accepted\"",
    CodedText.bytes ",\"external_socket_custody\":\"existing-stdio-authority-accepted\"",
    CodedText.bytes ",\"credential_gains\":\"existing-caller-envelope-accepted\"",
    CodedText.bytes ",\"mediated_communication\":\"external-filesystem-and-stdio-policy-accepted\"",
    CodedText.bytes "\x7d,\"requirements\":[\x7b\"kind\":\"unix-socket-creation\"",
    CodedText.bytes
      ",\"id\":\"linux-tcp4-private-v1\",\"socket_kind\":\"stream\"\x7d],\"endpoints\":[]",
    entry ",\"expected_epoch\"" epochJson,
    CodedText.bytes ",\"execution_identity\":\x7b\"kind\":\"preserve-caller\"\x7d\x7d"].flatten

/-- The text of `metadata`. -/
def metadataJson : List UInt8 :=
  [CodedText.bytes "\x7b\"format\":\"memcordon.private-admission-metadata\",\"revision\":1",
    entry ",\"request\"" requestJson,
    entry ",\"request_sha256\"" zeros,
    entry ",\"invocation_sha256\"" zeros,
    CodedText.bytes ",\"caller\":\x7b\"platform\":\"linux\",\"uid\":1000\x7d",
    entry ",\"registry_digest\"" zeros,
    entry ",\"epoch\"" epochJson,
    entry ",\"admission_nonce\"" nonceJson,
    entry ",\"profile_id\"" profileJson,
    CodedText.bytes "\x7d"].flatten

/-- The fields of the text that `serde_json` makes of a record, in the order of the source. The
record has no checkpoint, and its admission is none or `metadata`. -/
def fields (r : PrivateAttemptRecordV4) : List UInt8 :=
  [entry "\x7b\"attempt_id\"" (quoted r.attemptId.bytes),
    entry ",\"boot_identity\"" (quoted r.bootIdentity.bytes),
    entry ",\"frontend\"" (processJson r.frontend),
    entry ",\"caller_envelope_digest\"" (quotedHex r.callerEnvelopeDigest),
    entry ",\"admission_metadata\"" (nullable (fun _ => metadataJson) r.admissionMetadata),
    entry ",\"phase\"" (quoted (CodedText.bytes (phaseName r.phase))),
    entry ",\"release_knowledge\"" (quoted (CodedText.bytes (knowledgeName r.releaseKnowledge))),
    entry ",\"binding\"" (nullable bindingJson r.binding),
    entry ",\"guardian\"" (nullable processJson r.guardian),
    entry ",\"namespace_init\"" (nullable processJson r.namespaceInit),
    entry ",\"target\"" (nullable processJson r.target),
    entry ",\"network_namespace_inode\"" (nullable (digits ·.toNat) r.networkNamespaceInode),
    CodedText.bytes ",\"checkpoint\":null,\"checkpoint_digest\":null",
    entry ",\"gated_facts\"" (nullable factsJson r.gatedFacts),
    entry ",\"cleanup_error\"" (nullable (quoted ·.bytes) r.cleanupError)].flatten

def json (r : PrivateAttemptRecordV4) : List UInt8 := fields r ++ CodedText.bytes "\x7d"

/-- A character that may stand in a line of ASCII text. -/
def isPlain (byte : UInt8) : Bool := byte != 10 && decide (byte.toNat < 128)

theorem isPayload_json {r : PrivateAttemptRecordV4} (h : (json r).all isPlain = true) :
    IsPayload (json r) := by
  have hplain : ∀ byte ∈ json r, byte ≠ 10 ∧ byte.toNat < 128 := fun byte hmem => by
    simpa [isPlain] using List.all_eq_true.1 h byte hmem
  have hfeed : (10 : UInt8) ∉ fields r := fun hmem =>
    (hplain 10 (List.mem_append_left _ hmem)).1 rfl
  refine ⟨isLine_append hfeed ⟨by decide, by decide⟩ (by decide), ?_, ?_⟩
  · exact List.append_ne_nil_of_right_ne_nil _ (by decide)
  · exact isUtf8_of_ascii fun byte hmem => (hplain byte hmem).2

/-- A wire that writes the records of a list, and reads the texts of these. -/
@[reducible] def tableWire (records : List PrivateAttemptRecordV4) : JournalWire where
  payload r := if r ∈ records then .ok (json r) else .error "unsupported"
  decode bytes := okOr "unsupported" (records.find? fun r => json r = bytes)
  utf8Error _ := "invalid utf-8"

/-- The texts of the records are lines of ASCII text, are short, and differ in their length. -/
def isTable (records : List PrivateAttemptRecordV4) : Bool :=
  records.all (fun r => (json r).all isPlain && decide ((json r).length ≤ 8192)) &&
    decide (records.map fun r => (json r).length).Nodup

theorem length_text [Sha256] (r : PrivateAttemptRecordV4) (payload : List UInt8) :
    (r.text payload).length = payload.length + r.attemptId.bytes.length + 140 := by
  have hmarks : PrivateAttemptRecordV4.formatLine.length = 39 ∧
      (CodedText.bytes "revision=1").length = 10 ∧ (CodedText.bytes "cgroup=").length = 7 ∧
      (CodedText.bytes "payload=").length = 8 ∧ PrivateAttemptRecordV4.digestMark.length = 7 := by
    decide +kernel
  obtain ⟨hformat, hrevision, hcgroup, hpayload, hdigest⟩ := hmarks
  simp only [PrivateAttemptRecordV4.text, PrivateAttemptRecordV4.body,
    PrivateAttemptRecordV4.checksum,
    List.length_append, List.length_cons, List.length_nil, length_hex, List.Vector.toList_length,
    hformat, hrevision, hcgroup, hpayload, hdigest]
  omega

section Table

variable {records : List PrivateAttemptRecordV4} {r : PrivateAttemptRecordV4}

theorem isTable_iff : isTable records = true ↔
    (∀ r ∈ records, (json r).all isPlain = true ∧ (json r).length ≤ 8192) ∧
      (records.map fun r => (json r).length).Nodup := by
  simp [isTable]

theorem lawful_tableWire (h : isTable records = true) : @LawfulJournalWire (tableWire records) := by
  obtain ⟨hplain, hlength⟩ := isTable_iff.1 h
  let _ := tableWire records
  have hplace : ∀ {r bytes}, JournalWire.payload r = .ok bytes → r ∈ records ∧ bytes = json r := by
    intro r bytes h
    change (if r ∈ records then _ else _) = _ at h
    split_ifs at h with hmem
    cases h
    exact ⟨hmem, rfl⟩
  refine ⟨fun h => ?_, fun {r bytes} h => ?_⟩
  · obtain ⟨hmem, rfl⟩ := hplace h
    exact isPayload_json (hplain _ hmem).1
  · obtain ⟨hmem, rfl⟩ := hplace h
    change okOr _ (records.find? _) = _
    obtain ⟨found, hfound⟩ : ∃ found, records.find? (fun r' => json r' = json r) = some found :=
      Option.isSome_iff_exists.1 (List.find?_isSome.2 ⟨r, hmem, by simp⟩)
    have hjson : json found = json r := by simpa using List.find?_some hfound
    -- The texts differ, so that the record that is found is the one that was written.
    have hsame : found = r := List.inj_on_of_nodup_map hlength (List.mem_of_find?_eq_some hfound)
      hmem (congrArg List.length hjson)
    rw [hfound, hsame]
    rfl

theorem encode_of_mem [Sha256] (h : isTable records = true) (hmem : r ∈ records)
    (hvalid : r.validate = .ok ()) :
    @PrivateAttemptRecordV4.encode _ (tableWire records) r = .ok (r.text (json r)) := by
  have hshort : (json r).length ≤ 8192 := ((isTable_iff.1 h).1 r hmem).2
  have hid : r.attemptId.bytes.length ≤ 64 := r.attemptId.bounded
  have hlength : (r.text (json r)).length ≤ maxPrivateRecordBytes := by
    rw [length_text]
    unfold maxPrivateRecordBytes Limits.registryBytes Limits.publicObjectBytes
    omega
  let _ := tableWire records
  exact PrivateAttemptRecordV4.encode_eq_ok.2 ⟨hvalid, json r, if_pos hmem, hlength, rfl⟩

end Table

def allocated : PrivateAttemptRecordV4 where
  attemptId := ⟨List.replicate 32 97, by decide, by decide, CodedText.isUtf8_of_ascii (by simp)⟩
  bootIdentity := sampleName
  frontend := ⟨7, 8⟩
  callerEnvelopeDigest := List.Vector.replicate 32 1
  admissionMetadata := none
  phase := .allocated
  releaseKnowledge := .notReleased
  binding := none
  guardian := none
  namespaceInit := none
  target := none
  networkNamespaceInode := none
  checkpoint := none
  checkpointDigest := none
  gatedFacts := none
  cleanupError := none

end Sample

end MemCordon.PrivateAttempt
