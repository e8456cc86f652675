import MemCordon.Agent.PrivateRecord

/-!
# Attempt records of the Linux launcher

The text of an attempt record of `linux/attempt.rs`: lines of fields, and a line with the checksum
of them. `parseDurablePolicy` takes it apart. The recovery does not use the fields but looks through
the lines of the whole text again (`lookLine`).

* `RuntimeAdmissionSnapshot` is the admission that a record with a policy holds.
* `get_eq_lookLine`: a field of a record is what its first line with this key says.
* `frontend_of_record`: an allocated record has a line with the pid of its frontend, when its
  checksum stands on a line of its own.

The decoders of the JSON values are not part of the source; they are the instance of `PolicyWire`.
-/

namespace MemCordon.Workload

open Fallible Encoding

structure RuntimeAdmissionSnapshot where
  format : String
  revision : UInt32
  request : WorkloadContractV1
  (requestDigest registryDigest : DiagnosticSha256)
  admissionNonce : Nonce128
  callerInvocationReference : Nonce128
  privateInvocationDigest : DiagnosticSha256
  caller : CallerSelector
  nativeProfile : BaselineProfile
  deriving DecidableEq

variable [Sha256]

def RuntimeAdmissionSnapshot.validate (snapshot : RuntimeAdmissionSnapshot) :
    Except String Unit := do
  snapshot.request.validate
  reject "provider admission snapshot request binding differs"
    (snapshot.format ≠ "memcordon.local-admission" ∨ snapshot.revision ≠ 1)
  let requestDigest ← contractDigest snapshot.request
  reject "provider admission snapshot request binding differs"
    (requestDigest ≠ snapshot.requestDigest ∨
      snapshot.request.authorizedProfile ≠ snapshot.nativeProfile.reference)

def RuntimeAttemptBinding.matchesSnapshot (binding : RuntimeAttemptBinding)
    (snapshot : RuntimeAdmissionSnapshot) :
    Bool :=
  binding.format = "memcordon.local-attempt-binding" && binding.revision =
    1 && snapshot.validate.isOk &&
    binding.admissionNonce = snapshot.admissionNonce &&
      binding.plan.matchesContract snapshot.request &&
    binding.callerInvocationReference = snapshot.callerInvocationReference &&
    binding.plan.registryDigest = snapshot.registryDigest &&
    isOkAnd (RequestBindingV1.fromContract snapshot.request) fun request =>
      request = binding.plan.request

end MemCordon.Workload

namespace MemCordon.DurableRecord

open Workload Fallible LineText
open PrivateAttempt.PrivateAttemptRecordV4 (digestMark checksum isLine_of_hex rsplitOnce_digestMark)

/-! ## Fields -/

/-- The fields of a record, by their keys. -/
abbrev Fields := List (List UInt8 × List UInt8)

def Fields.get (fields : Fields) (key : String) : Option (List UInt8) :=
  fields.lookup (CodedText.bytes key)

def Fields.remove (fields : Fields) (key : String) : Fields :=
  fields.filter fun field => field.1 ≠ CodedText.bytes key

/-- The fields of lines, after those that were read before. -/
def readFields (seen : Fields) : List (List UInt8) → Except String Fields
  | [] => .ok seen
  | line :: rest => do
    let (key, value) ← okOr "malformed durable record field" (splitOnce 61 line)
    reject "duplicate durable record field" ((seen.lookup key).isSome = true)
    readFields (seen ++ [(key, value)]) rest

/-! ## Records -/

/-- The decoders of the values of a record with a policy: `serde_json` after the check for duplicate
keys. -/
class PolicyWire [Sha256] where
  admission : List UInt8 → Except String RuntimeAdmissionSnapshot
  checkpoint : List UInt8 → Except String (RuntimeAttemptBinding × VerifiedCheckpointV1)

inductive Version
  | one
  | two
  | localPolicy
  | other
  deriving DecidableEq

/-- The version, and the fields without those that say it. -/
def readVersion (fields : Fields) : Except String (Version × Fields) :=
  match fields.get "format" with
  | some format => do
    reject "unsupported durable record format or revision"
      (format ≠ CodedText.bytes "memcordon.linux-workload-journal" ∨
        fields.get "revision" ≠ some (CodedText.bytes "1"))
    return (.localPolicy, (fields.remove "format").remove "revision")
  | none => do
    let version ← okOr "durable version absent" (fields.get "version")
    let read : Version := if version = CodedText.bytes "1" then .one
      else if version = CodedText.bytes "2" then .two
      else .other
    return (read, fields.remove "version")

/-- `validate_identity`, without an envelope digest. -/
def validateIdentity (identity : List UInt8) : Except String Unit :=
  reject "attempt identity must be 128-bit lowercase hexadecimal"
    (PrivateAttempt.validAttemptIdentity identity = false)

/-- The frontend of a record, which it has exactly while it is allocated. -/
def checkFrontend (state : List UInt8) (frontend : Option (List UInt8)) : Except String Unit :=
  match frontend with
  | some pid => reject "durable frontend identity differs from allocated state"
      ¬ (state = CodedText.bytes "allocated" ∧ ((parseI32 pid).any fun pid => 0 < pid) = true)
  | none =>
    reject "durable frontend identity differs from allocated state"
      (state = CodedText.bytes "allocated")

/-- The value of a hexadecimal digit. -/
def hexValue (byte : UInt8) : ℕ := if byte ≤ 57 then byte.toNat - 48 else byte.toNat - 87

/-- `DiagnosticSha256::try_from`, of a bounded text. -/
def readDigest (text : List UInt8) : Except String DiagnosticSha256 := do
  reject "invalid diagnostic text" (64 < text.length ∨ (0 : UInt8) ∈ text)
  reject "invalid SHA-256 length" (text.length ≠ 64)
  reject "invalid SHA-256 encoding" (text.all isHexDigit = false)
  return List.Vector.ofFn fun i : Fin 32 =>
    UInt8.ofNat (hexValue (text.getD (2 * i) 48) * 16 + hexValue (text.getD (2 * i + 1) 48))

/-- The digest of the caller, in the versions that have one. -/
def checkEnvelope (version : Version) (fields : Fields) : Except String Fields := do
  if version = .two ∨ version = .localPolicy then
    let digest ← okOr "durable caller envelope absent" (fields.get "caller-envelope-digest")
    let _ ← readDigest digest
    return fields.remove "caller-envelope-digest"
  else return fields

section Parse

variable [Sha256] [PolicyWire]

/-- The checkpoint of a policy, which an authorized record has. -/
def checkCheckpoint (identity state : List UInt8) (snapshot : RuntimeAdmissionSnapshot)
    (checkpoint : Option (List UInt8)) :
    Except String Unit :=
  match checkpoint with
  | some bytes => do
    reject "durable checkpoint exceeds bound" (Limits.contractBytes < bytes.length)
    let (binding, checkpoint) ← PolicyWire.checkpoint bytes
    reject "durable policy checkpoint binding differs"
      (binding.attemptId.bytes ≠ identity ∨ binding.matchesSnapshot snapshot = false ∨
        checkpoint.matchesBinding binding = false)
  | none => reject "durable authorization checkpoint absent"
      (state = CodedText.bytes "authorized" ∨
        state = CodedText.bytes "policy-verified-before-authorization")

def readPolicy (identity state : List UInt8) (fields : Fields) :
    Except String (RuntimeAdmissionSnapshot × Fields) := do
  let bytes ← okOr "durable policy admission absent" (fields.get "policy-binding")
  reject "durable policy admission exceeds bound" (Limits.publicObjectBytes < bytes.length)
  let snapshot ← PolicyWire.admission bytes
  snapshot.validate
  let uid ← okOr "durable authenticated UID absent" (fields.get "authenticated-uid")
  let uid ← okOr "invalid durable authenticated UID" (parseU32 uid)
  let invocation ← okOr "durable native invocation absent" (fields.get "private-invocation-digest")
  let invocation ← readDigest invocation
  reject "durable caller or native invocation binding differs"
    (snapshot.caller ≠ .linux uid ∨ snapshot.privateInvocationDigest ≠ invocation)
  checkCheckpoint identity state snapshot (fields.get "policy-checkpoint")
  return (snapshot, ["policy-binding", "authenticated-uid", "private-invocation-digest",
    "policy-checkpoint"].foldl Fields.remove fields)

/-- The admission of a record, and the fields that are left. -/
def readAdmission (version : Version) (identity state : List UInt8) (fields : Fields) :
    Except String (Option RuntimeAdmissionSnapshot × Fields) :=
  match version with
  | .one | .two => .ok (none, fields)
  | .localPolicy => do
    let (snapshot, fields) ← readPolicy identity state fields
    return (some snapshot, fields)
  | .other => .error "unsupported durable record version"

def readRecord (fields : Fields) : Except String (Option RuntimeAdmissionSnapshot) := do
  let (version, fields) ← readVersion fields
  let identity ← okOr "durable attempt identity absent" (fields.get "cgroup")
  validateIdentity identity
  let fields := fields.remove "cgroup"
  let state ← okOr "durable state absent" (fields.get "state")
  reject "durable state empty" (state = [])
  let fields := fields.remove "state"
  checkFrontend state (fields.get "frontend-pid")
  let fields ← checkEnvelope version (fields.remove "frontend-pid")
  let (admission, fields) ← readAdmission version identity state fields
  reject "unknown durable record fields" (fields ≠ [])
  return admission

def parseDurablePolicy (record : List UInt8) : Except String (Option RuntimeAdmissionSnapshot) := do
  reject "durable record lacks newline" (record.getLast? ≠ some 10)
  let (body, digest) ← okOr "durable record digest absent" (rsplitOnce digestMark record)
  reject "durable record digest differs" (digest ≠ checksum body)
  let fields ← readFields [] (lines body)
  readRecord fields

def recordText (body : List UInt8) : List UInt8 := body ++ (digestMark ++ checksum body)

def privateJournalMark : List UInt8 :=
  CodedText.bytes "format=memcordon.private-native-journal\nrevision=1\n"

def isPrivateJournal (record : List UInt8) : Bool := privateJournalMark.isPrefixOf record

def integrityValid [PrivateAttempt.JournalWire] (record : List UInt8) : Bool :=
  if isPrivateJournal record then (PrivateAttempt.PrivateAttemptRecordV4.parse record).isOk
  else (parseDurablePolicy record).isOk

end Parse

/-! ## What the lines say -/

theorem readFields_eq_ok {seen fields : Fields} {text : List (List UInt8)}
    (h : readFields seen text = .ok fields) :
    fields = seen ++ text.filterMap (splitOnce 61) ∧
    ∀ line ∈ text, (splitOnce 61 line).isSome = true := by
  induction text generalizing seen with
  | nil =>
    cases h
    exact ⟨(List.append_nil _).symm, nofun⟩
  | cons line rest ih =>
    obtain ⟨⟨key, value⟩, hline, h⟩ := okOr_bind_eq_ok.1 h
    obtain ⟨-, h⟩ := reject_bind_eq_ok.1 h
    obtain ⟨hfields, hall⟩ := ih h
    refine ⟨?_, ?_⟩
    · rw [hfields, List.filterMap_cons_some hline, List.append_assoc]
      rfl
    · intro other hother
      rcases List.mem_cons.1 hother with rfl | hrest
      · rw [hline]
        rfl
      · exact hall other hrest

/-- **A field is what follows its key on the first line that starts with it.** -/
theorem get_eq_lookLine {fields : Fields} {body : List UInt8}
    (h : readFields [] (lines body) = .ok fields) (key : String)
    (hkey : (61 : UInt8) ∉ CodedText.bytes key) :
    fields.get key = lookLine (CodedText.bytes key ++ [61]) body := by
  obtain ⟨rfl, hall⟩ := readFields_eq_ok h
  unfold Fields.get lookLine
  rw [List.nil_append]
  generalize lines body = text at hall
  induction text with
  | nil => rfl
  | cons line rest ih =>
    obtain ⟨⟨first, value⟩, hline⟩ := Option.isSome_iff_exists.1 (hall line List.mem_cons_self)
    obtain ⟨rfl, hfirst⟩ := splitOnce_eq_some.1 hline
    have hrest := ih fun other hother => hall other (List.mem_cons_of_mem _ hother)
    rw [List.filterMap_cons_some hline, List.findSome?_cons]
    by_cases hsame : CodedText.bytes key = first
    · subst hsame
      have hvalue : stripPrefix (CodedText.bytes key ++ [61]) (CodedText.bytes key ++ 61 :: value) =
          some value :=
        stripPrefix_eq_some.2 (by simp)
      rw [List.lookup_cons_self, hvalue]
    · have hvalue : stripPrefix (CodedText.bytes key ++ [61]) (first ++ 61 :: value) = none := by
        rw [Option.eq_none_iff_forall_ne_some]
        intro tail htail
        -- a key without the mark would be the other one
        have hboth : first ++ 61 :: value = CodedText.bytes key ++ 61 :: tail := by
          simpa using stripPrefix_eq_some.1 htail
        have hkeys :=
          (splitOnce_eq_some.2 ⟨rfl, hfirst⟩).symm.trans (splitOnce_eq_some.2 ⟨hboth, hkey⟩)
        exact hsame (Prod.mk.inj (Option.some.inj hkeys)).1.symm
      rw [hvalue]
      have hlookup :
          List.lookup (CodedText.bytes key) ((first, value) :: rest.filterMap (splitOnce 61)) =
          List.lookup (CodedText.bytes key) (rest.filterMap (splitOnce 61)) := by
        rw [List.lookup_cons, beq_false_of_ne hsame]
      exact hlookup.trans hrest

theorem get_remove {fields : Fields} {key other : String}
    (h : CodedText.bytes key ≠ CodedText.bytes other) :
    (fields.remove other).get key = fields.get key := by
  unfold Fields.get Fields.remove
  induction fields with
  | nil => rfl
  | cons field fields ih =>
    obtain ⟨first, value⟩ := field
    by_cases hremoved : first = CodedText.bytes other
    · have hkey : (CodedText.bytes key == first) = false := beq_false_of_ne (hremoved ▸ h)
      rw [List.filter_cons_of_neg (by simpa using hremoved), ih, List.lookup_cons, hkey]
    · rw [List.filter_cons_of_pos (by simpa using hremoved), List.lookup_cons, List.lookup_cons, ih]

theorem get_of_readVersion {fields rest : Fields} {version : Version}
    (h : readVersion fields = .ok (version, rest))
    {key : String} (hformat : CodedText.bytes key ≠ CodedText.bytes "format")
    (hrevision : CodedText.bytes key ≠ CodedText.bytes "revision")
    (hversion : CodedText.bytes key ≠ CodedText.bytes "version") :
    rest.get key = fields.get key := by
  unfold readVersion at h
  cases hf : fields.get "format" with
  | some format =>
    rw [hf] at h
    obtain ⟨-, ⟨⟩⟩ := reject_bind_eq_ok.1 h
    rw [get_remove hrevision, get_remove hformat]
  | none =>
    rw [hf] at h
    obtain ⟨text, -, ⟨⟩⟩ := okOr_bind_eq_ok.1 h
    rw [get_remove hversion]

/-- An allocated record names its frontend by its pid. -/
theorem frontend_of_checkFrontend {frontend : Option (List UInt8)}
    (h : checkFrontend (CodedText.bytes "allocated") frontend = .ok ()) :
    ∃ text pid, frontend = some text ∧ parseI32 text = some pid ∧ 0 < pid := by
  cases frontend with
  | none => exact absurd rfl (reject_eq_ok.1 h)
  | some text =>
    obtain ⟨-, hpid⟩ := not_not.1 (reject_eq_ok.1 h)
    cases hparse : parseI32 text with
    | none =>
      rw [hparse] at hpid
      cases hpid
    | some pid =>
      rw [hparse] at hpid
      exact ⟨text, pid, rfl, hparse, of_decide_eq_true hpid⟩

section Law

variable [Sha256] [PolicyWire]

omit [PolicyWire] in
/-- A line of a record whose checksum stands on a line of its own is a line of its body. -/
theorem lookLine_recordText {body mark : List UInt8} (hbody : body.getLast? = some 10)
    (hmark : mark.head? ≠ some 100)
    (hne : mark ≠ []) : lookLine mark (recordText body) = lookLine mark body := by
  unfold lookLine recordText
  have hlength : (hex (hashBytes body).toList).length = 64 := by
    rw [length_hex, List.Vector.toList_length]
  have hline : IsLine (digestMark ++ hex (hashBytes body).toList) :=
    isLine_append (by decide) (isLine_of_hex fun _ => isHexDigit_of_mem_hex)
      (List.ne_nil_of_length_pos (by omega))
  have hlines :
      lines (digestMark ++ checksum body) = [digestMark ++ hex (hashBytes body).toList] := by
    have hcons := lines_line hline []
    rwa [List.append_assoc] at hcons
  rw [lines_append_of_feed hbody, hlines, List.findSome?_append]
  have hnone : stripPrefix mark (digestMark ++ hex (hashBytes body).toList) =
      none := by
    rw [Option.eq_none_iff_forall_ne_some]
    intro tail htail
    have hsame := stripPrefix_eq_some.1 htail
    obtain ⟨byte, mark, rfl⟩ := List.exists_cons_of_ne_nil hne
    have hhead := congrArg List.head? hsame
    exact hmark hhead.symm
  simp [hnone]

variable {admission : Option RuntimeAdmissionSnapshot}

/-- A record has a state, and it names a frontend exactly while it is allocated. -/
theorem frontend_of_readRecord {fields : Fields}
    (h : readRecord fields = .ok admission) :
    ∃ state, fields.get "state" = some state ∧ checkFrontend state (fields.get "frontend-pid") =
      .ok () := by
  obtain ⟨⟨version, rest⟩, hversion, h⟩ := bind_eq_ok.1 h
  obtain ⟨identity, -, h⟩ := okOr_bind_eq_ok.1 h
  obtain ⟨-, h⟩ := unit_bind_eq_ok.1 h
  obtain ⟨state, hstate, h⟩ := okOr_bind_eq_ok.1 h
  obtain ⟨-, h⟩ := reject_bind_eq_ok.1 h
  obtain ⟨hfrontend, -⟩ := unit_bind_eq_ok.1 h
  refine ⟨state, ?_, ?_⟩
  · rwa [get_remove (by decide), get_of_readVersion hversion (by decide) (by decide) (by decide)]
      at hstate
  · rwa [get_remove (by decide), get_remove (by decide),
      get_of_readVersion hversion (by decide) (by decide) (by decide)] at hfrontend

/-- The body of a record, whose checksum stands behind it. -/
theorem body_of_parse {record : List UInt8}
    (h : parseDurablePolicy record = .ok admission) : ∃ body fields, record = recordText body ∧
      readFields [] (lines body) = .ok fields ∧ readRecord fields = .ok admission := by
  obtain ⟨-, h⟩ := reject_bind_eq_ok.1 h
  obtain ⟨⟨body, digest⟩, hsplit, h⟩ := okOr_bind_eq_ok.1 h
  obtain ⟨hdigest, h⟩ := reject_bind_eq_ok.1 h
  obtain ⟨fields, hfields, h⟩ := bind_eq_ok.1 h
  refine ⟨body, fields, ?_, hfields, h⟩
  rw [eq_append_of_rsplitOnce hsplit, not_not.1 hdigest, recordText]

/-- **A valid record names its frontend exactly while it is allocated**, on the line where the
recovery looks for it, when its checksum stands on a line of its own. -/
theorem frontend_of_record {body : List UInt8}
    (h : parseDurablePolicy (recordText body) = .ok admission) (hbody : body.getLast? = some 10) :
    ∃ state, lookLine (CodedText.bytes "state=") (recordText body) = some state ∧
      checkFrontend state (lookLine (CodedText.bytes "frontend-pid=") (recordText body)) =
        .ok () := by
  obtain ⟨body', fields, hrecord, hfields, hread⟩ := body_of_parse h
  have hsame : body = body' := by
    have hsplit := congrArg (rsplitOnce digestMark) hrecord
    rw [recordText, recordText, rsplitOnce_digestMark, rsplitOnce_digestMark] at hsplit
    exact (Prod.mk.inj (Option.some.inj hsplit)).1
  subst hsame
  obtain ⟨state, hstate, hfrontend⟩ := frontend_of_readRecord hread
  rw [lookLine_recordText hbody (by decide) (by decide),
    lookLine_recordText hbody (by decide) (by decide)]
  rw [get_eq_lookLine hfields "state" (by decide)] at hstate
  rw [get_eq_lookLine hfields "frontend-pid" (by decide)] at hfrontend
  exact ⟨state, hstate, hfrontend⟩

end Law

end MemCordon.DurableRecord
