import MemCordon.Foundations.RawMemory

/-!
# Token information responses

The functions of `sealed/windows.rs` that read counts and pointers out of a token information
response, with the layout that its types have on 64-bit Windows.

* `HoldsSid` and `HoldsEntries` are what a range of a response holds.
* `token_reads_bounded`: whatever a response says, no function faults, and what it returns lies in
  the response.
-/

namespace MemCordon.TokenBuffer

open Counter Fallible RawMemory

structure Range where
  (start stop : ℕ)
  deriving DecidableEq

/-- `SID_AND_ATTRIBUTES` -/
structure Entry where
  (sid attributes : ℕ)
  deriving DecidableEq

/-- `offset_of!(TOKEN_GROUPS, Groups)` -/
def groupsOffset : ℕ := 8

/-- `size_of::<SID_AND_ATTRIBUTES>()` -/
def entrySize : ℕ := 16

/-- `offset_of!(SID, SubAuthority)` -/
def subAuthorityOffset : ℕ := 8

/-- The routines of Windows, on the bytes of the SID that they are given. -/
structure Native where
  isValidSid : List UInt8 → Bool
  getLengthSid : List UInt8 → ℕ
  equalSid : List UInt8 → List UInt8 → Bool

def entryOf (bytes : List UInt8) : Entry :=
  ⟨leValue (bytes.take 8), leValue ((bytes.drop 8).take 4)⟩

/-! ## Reading a response -/

variable (native : Native) (storage : Storage) (byteLength : ℕ)

def checkedTokenGroupEntriesRange (entryCount : ℕ) : Except (Stop String) Range := do
  reject (.error "token group response is truncated") (byteLength < groupsOffset)
  let entriesByteLength ← okOr (.error "token group entry count overflows response bounds")
    (checkedMul entryCount entrySize)
  let entriesEnd ← okOr (.error "token group response length overflows")
    (checkedAdd groupsOffset entriesByteLength)
  reject (.error "token group response is truncated") (byteLength < entriesEnd)
  return ⟨groupsOffset, entriesEnd⟩

/-- `token_group_entries`: where the entries are, and the entries. -/
def tokenGroupEntries : Except (Stop String) (Range × List Entry) := do
  reject (.error "token information response exceeds its allocation")
    (storage.bytes.length < byteLength)
  reject (.error "token group response is truncated") (byteLength < groupsOffset)
  let count ← storage.read byteLength 0 4
  let entryCount := leValue count
  let range ← checkedTokenGroupEntriesRange byteLength entryCount
  let pointer ← storage.pointer range.start
  reject (.error "token group response entries are misaligned") (pointer % 8 ≠ 0)
  -- `from_raw_parts` asks for all of the entries to be readable.
  let bytes ← storage.read byteLength range.start (entryCount * entrySize)
  return (range, (List.range entryCount).map fun i => entryOf (bytes.drop (i * entrySize)))

def checkedTokenSidRange (sid : ℕ) : Except (Stop String) Range := do
  reject (.error "token information response exceeds its allocation")
    (storage.bytes.length < byteLength)
  let storageEnd ← okOr (.error "token information response address overflows")
    (checkedAdd storage.address byteLength)
  reject (.error "token SID pointer is outside its response")
    (sid < storage.address ∨ storageEnd ≤ sid)
  -- The subtraction is not a checked one.
  let sidOffset ← okOr .fault (checkedSub sid storage.address)
  let sidHeadEnd ← okOr (.error "token SID prefix overflows response bounds")
    (checkedAdd sidOffset subAuthorityOffset)
  reject (.error "token SID response is truncated") (byteLength < sidHeadEnd)
  let _ ← storage.pointer sidOffset
  let count ← storage.read byteLength (sidOffset + 1) 1
  let subAuthoritiesByteLength ← okOr (.error "token SID sub-authority count overflows")
    (checkedMul (leValue count) 4)
  let sidEnd ← okOr (.error "token SID length overflows response bounds")
    (checkedAdd sidHeadEnd subAuthoritiesByteLength)
  reject (.error "token SID response is truncated") (byteLength < sidEnd)
  return ⟨sidOffset, sidEnd⟩

/-- The bytes of a range. -/
def readRange (range : Range) : Except (Stop String) (List UInt8) :=
  storage.read byteLength range.start (range.stop - range.start)

def validatedTokenSidRange (sid : ℕ) : Except (Stop String) Range := do
  let range ← checkedTokenSidRange storage byteLength sid
  let bounded ← readRange storage byteLength range
  reject (.error "token SID is invalid") (native.isValidSid bounded = false)
  reject (.error "token SID length differs from its bounded response")
    (native.getLengthSid bounded ≠ range.stop - range.start)
  return range

/-- `token_user_sid`: where the SID is, and its bytes. -/
def tokenUserSid : Except (Stop String) (Range × List UInt8) := do
  reject (.error "token information response exceeds its allocation")
    (storage.bytes.length < byteLength)
  let userEnd ← okOr (.error "token user response length overflows") (checkedAdd 0 entrySize)
  reject (.error "token user response is truncated") (byteLength < userEnd)
  let user ← storage.read byteLength 0 entrySize
  let range ← validatedTokenSidRange native storage byteLength (entryOf user).sid
  let sid ← readRange storage byteLength range
  return (range, sid)

/-- The loop of `token_group_storage_contains`. -/
def entriesContain (expected : List UInt8) : List Entry → Except (Stop String) Bool
  | [] => .ok false
  | entry :: entries => do
    let range ← validatedTokenSidRange native storage byteLength entry.sid
    let sid ← readRange storage byteLength range
    if native.equalSid sid expected = true ∧ entry.attributes &&& 0x4 ≠ 0 ∧
        entry.attributes &&& 0x10 = 0 then
      .ok true
    else entriesContain expected entries

def tokenGroupStorageContains (expected : List UInt8) : Except (Stop String) Bool := do
  let entries ← tokenGroupEntries storage byteLength
  entriesContain native storage byteLength expected entries.2

/-! ## What is read lies in the response -/

variable {storage byteLength}

/-- A range of the response that holds a SID with as many sub-authorities as it says. -/
def HoldsSid (storage : Storage) (byteLength : ℕ) (range : Range) : Prop :=
  range.stop ≤ byteLength ∧ byteLength ≤ storage.bytes.length ∧
    ∃ count, storage.bytes[range.start + 1]? = some count ∧
      range.stop = range.start + subAuthorityOffset + 4 * count.toNat

theorem meets_readRange {range : Range} (h : HoldsSid storage byteLength range) :
    Meets (readRange storage byteLength range)
      (· = (storage.bytes.drop range.start).take (range.stop - range.start)) := by
  obtain ⟨hstop, hlength, count, -, heq⟩ := h
  exact meets_read (by omega) hlength

theorem meets_checkedTokenSidRange (sid : ℕ) :
    Meets (checkedTokenSidRange storage byteLength sid) (HoldsSid storage byteLength) := by
  refine meets_bind meets_reject fun _ hlength => ?_
  refine meets_bind (meets_okOr fun _ h => h) fun storageEnd hend => ?_
  refine meets_bind meets_reject fun _ hinside => ?_
  rw [not_or, not_lt] at hinside
  have hoffset : checkedSub sid storage.address = some (sid - storage.address) :=
    checkedSub_eq_some.2 ⟨hinside.1, rfl⟩
  refine meets_bind (meets_of_eq (okOr_eq_ok.2 hoffset)) fun sidOffset _ => ?_
  refine meets_bind (meets_okOr fun _ h => h) fun sidHeadEnd hhead => ?_
  obtain ⟨-, rfl⟩ := checkedAdd_eq_some.1 hhead
  refine meets_bind meets_reject fun _ htruncated => ?_
  -- The head of the SID is in the response, and with it the count.
  have hcount : sidOffset + 1 < byteLength := by
    unfold subAuthorityOffset at htruncated
    omega
  refine meets_bind (meets_pointer (by omega)) fun _ _ => ?_
  refine meets_bind (meets_read hcount (by omega)) fun count hread => ?_
  refine meets_bind (meets_okOr fun _ h => h) fun length hsub => ?_
  refine meets_bind (meets_okOr fun _ h => h) fun sidEnd hstop => ?_
  obtain ⟨-, rfl⟩ := checkedAdd_eq_some.1 hstop
  refine meets_bind meets_reject fun _ hend => ?_
  have hbyte : sidOffset + 1 < storage.bytes.length := by omega
  refine ⟨not_lt.1 hend, not_lt.1 hlength, _, List.getElem?_eq_getElem hbyte, ?_⟩
  have hvalue : leValue count = storage.bytes[sidOffset + 1].toNat := by
    rw [hread, leValue_read_one hbyte]
  change sidOffset + subAuthorityOffset + length = sidOffset + subAuthorityOffset + 4 * _
  rw [(checkedMul_eq_some.1 hsub).2, hvalue, Nat.mul_comm]

theorem meets_validatedTokenSidRange (sid : ℕ) :
    Meets (validatedTokenSidRange native storage byteLength sid) (HoldsSid storage byteLength) := by
  refine meets_bind (meets_checkedTokenSidRange sid) fun range hrange => ?_
  refine meets_bind (meets_readRange hrange) fun _ _ => ?_
  exact meets_bind meets_reject fun _ _ => meets_bind meets_reject fun _ _ => hrange

/-- A SID of the response, and the bytes that are returned for it. -/
theorem meets_tokenUserSid : Meets (tokenUserSid native storage byteLength) fun user =>
    HoldsSid storage byteLength user.1 ∧
      user.2 = (storage.bytes.drop user.1.start).take (user.1.stop - user.1.start) := by
  refine meets_bind meets_reject fun _ hlength => ?_
  refine meets_bind (meets_okOr fun _ h => h) fun userEnd huser => ?_
  obtain ⟨-, rfl⟩ := checkedAdd_eq_some.1 huser
  refine meets_bind meets_reject fun _ hend => ?_
  refine meets_bind (meets_read (by omega) (by omega)) fun user _ => ?_
  refine meets_bind (meets_validatedTokenSidRange native _) fun range hrange => ?_
  exact meets_bind (meets_readRange hrange) fun sid hsid => ⟨hrange, hsid⟩

/-- The entries lie behind the count, in the response, and are as many as it says. -/
def HoldsEntries (storage : Storage) (byteLength : ℕ) (entries : Range × List Entry) : Prop :=
  entries.1.start = groupsOffset ∧ entries.1.stop = groupsOffset + entries.2.length * entrySize ∧
    entries.2.length = leValue (storage.bytes.take 4) ∧ entries.1.stop ≤ byteLength ∧
    byteLength ≤ storage.bytes.length

theorem meets_checkedTokenGroupEntriesRange (entryCount : ℕ) :
    Meets (checkedTokenGroupEntriesRange byteLength entryCount) fun range =>
      range = ⟨groupsOffset, groupsOffset + entryCount * entrySize⟩ ∧ range.stop ≤ byteLength := by
  refine meets_bind meets_reject fun _ _ => ?_
  refine meets_bind (meets_okOr fun _ h => h) fun length hmul => ?_
  refine meets_bind (meets_okOr fun _ h => h) fun stop hstop => ?_
  obtain ⟨-, rfl⟩ := checkedAdd_eq_some.1 hstop
  refine meets_bind meets_reject fun _ hend => ⟨?_, not_lt.1 hend⟩
  rw [← (checkedMul_eq_some.1 hmul).2]

theorem meets_tokenGroupEntries :
    Meets (tokenGroupEntries storage byteLength) (HoldsEntries storage byteLength) := by
  refine meets_bind meets_reject fun _ hlength => meets_bind meets_reject fun _ hoffset => ?_
  unfold groupsOffset at hoffset
  refine meets_bind (meets_read (by omega) (by omega)) fun count hcount => ?_
  refine meets_bind (meets_checkedTokenGroupEntriesRange _) ?_
  rintro range ⟨rfl, hend⟩
  refine meets_bind (meets_pointer (show 8 ≤ _ by omega)) fun _ _ => ?_
  refine meets_bind meets_reject fun _ _ => ?_
  refine meets_bind (meets_read hend (by omega)) fun _ _ => ⟨rfl, ?_, ?_, hend, not_lt.1 hlength⟩
  · simp
  · simp [hcount]

theorem meets_entriesContain (expected : List UInt8) (entries : List Entry) :
    Meets (entriesContain native storage byteLength expected entries) fun _ => True := by
  induction entries with
  | nil => trivial
  | cons entry entries ih =>
    refine meets_bind (meets_validatedTokenSidRange native entry.sid) fun range hrange => ?_
    refine meets_bind (meets_readRange hrange) fun sid _ => ?_
    split_ifs
    · trivial
    · exact ih

/-- The first check of each function: a length beyond the storage. -/
def exceeds {α : Type} : Except (Stop String) α :=
  .error (.error "token information response exceeds its allocation")

theorem exceeds_of_lt (h : storage.bytes.length < byteLength) (sid : ℕ) (expected : List UInt8) :
    tokenGroupEntries storage byteLength = exceeds ∧
      checkedTokenSidRange storage byteLength sid = exceeds ∧
      tokenUserSid native storage byteLength = exceeds ∧
      tokenGroupStorageContains native storage byteLength expected = exceeds := by
  have hfirst : ∀ {α : Type} {f : Unit → Except (Stop String) α},
      (reject (.error "token information response exceeds its allocation")
        (storage.bytes.length < byteLength) >>= f) = exceeds := by
    intro α f
    rw [reject, if_pos h]
    rfl
  have hentries : tokenGroupEntries storage byteLength = exceeds := hfirst
  refine ⟨hentries, hfirst, hfirst, ?_⟩
  rw [tokenGroupStorageContains, hentries]
  rfl

/-- **Token responses are read within their bounds.** Whatever a response holds, no function reads
outside it, takes a pointer outside the storage or overflows, and what is returned lies in the
response: the entries as many as their count says, a SID as long as its sub-authorities say. A
length beyond the storage is refused before anything is read. -/
theorem token_reads_bounded (storage : Storage) (byteLength sid : ℕ) (expected : List UInt8) :
    Meets (tokenGroupEntries storage byteLength) (HoldsEntries storage byteLength) ∧
      Meets (checkedTokenSidRange storage byteLength sid) (HoldsSid storage byteLength) ∧
      Meets (tokenUserSid native storage byteLength) (fun user =>
        HoldsSid storage byteLength user.1 ∧
          user.2 = (storage.bytes.drop user.1.start).take (user.1.stop - user.1.start)) ∧
      Meets (tokenGroupStorageContains native storage byteLength expected) (fun _ => True) ∧
      (storage.bytes.length < byteLength →
        tokenGroupEntries storage byteLength = exceeds ∧
          checkedTokenSidRange storage byteLength sid = exceeds ∧
          tokenUserSid native storage byteLength = exceeds ∧
          tokenGroupStorageContains native storage byteLength expected = exceeds) := by
  refine ⟨meets_tokenGroupEntries, meets_checkedTokenSidRange sid, meets_tokenUserSid native, ?_,
    fun h => exceeds_of_lt native h sid expected⟩
  exact meets_bind meets_tokenGroupEntries fun entries _ =>
    meets_entriesContain native expected entries.2

-- A response of 28 bytes at 0x1000 whose SID has one sub-authority.
example : tokenUserSid ⟨fun _ => true, List.length, (· == ·)⟩
    ⟨0x1000, [16, 16, 0, 0, 0, 0, 0, 0, 7, 0, 0, 0, 0, 0, 0, 0,
      1, 1, 0, 0, 0, 0, 0, 5, 18, 0, 0, 0], by decide⟩ 28 =
      .ok (⟨16, 28⟩, [1, 1, 0, 0, 0, 0, 0, 5, 18, 0, 0, 0]) := by
  decide +kernel

end MemCordon.TokenBuffer
