import Mathlib.Data.List.Infix

/-!
# Texts that start with a code

An error text of the form `CODE: detail` is read back by tests on the text: the part before the
first colon, a text at its start, a text anywhere in it, all of them on the bytes of the text. A
test that looks for no colon sees only the code of such a text, whatever the detail is
(`beforeColon_coded`, `startsWith_coded`), so it can be evaluated on the code alone. The colon is
the byte 58.
-/

namespace MemCordon.CodedText

def bytes (s : String) : List UInt8 := s.toByteArray.data.toList

/-- The texts agree. -/
def same (s t : String) : Bool := bytes s == bytes t

/-- The text starts with another one. -/
def startsWith (s pre : String) : Bool := (bytes pre).isPrefixOf (bytes s)

/-- The text contains another one. -/
def contains (s sub : String) : Bool := (bytes s).tails.any fun tail => (bytes sub).isPrefixOf tail

/-- The text before the first colon, all of it when there is none. -/
def beforeColon (s : String) : String := String.ofList (s.toList.takeWhile (· ≠ ':'))

def coded (code detail : String) : String := code ++ ": " ++ detail

variable {code pre : String}

theorem bytes_append (a b : String) : bytes (a ++ b) = bytes a ++ bytes b := by
  simp [bytes]

theorem bytes_injective : Function.Injective bytes := by
  intro s t h
  exact String.toByteArray_inj.1 (ByteArray.ext (Array.toList_inj.1 h))

theorem bytes_eq_flatMap (s : String) : bytes s = s.toList.flatMap String.utf8EncodeChar := by
  unfold bytes
  rw [← String.utf8Encode_toList]
  simp [List.utf8Encode]

theorem bytes_coded (code detail : String) :
    bytes (coded code detail) = bytes code ++ 58 :: 32 :: bytes detail := by
  have hsep : bytes ": " = [58, 32] := by decide
  unfold coded
  rw [bytes_append, bytes_append, hsep]
  simp

theorem not_mem_toList_of_not_mem_bytes {s : String} (h : (58 : UInt8) ∉ bytes s) :
    ':' ∉ s.toList := by
  intro hmem
  have hcolon : (58 : UInt8) ∈ String.utf8EncodeChar ':' := by decide
  rw [bytes_eq_flatMap] at h
  exact h (List.mem_flatMap.2 ⟨':', hmem, hcolon⟩)

theorem beforeColon_coded (hcode : (58 : UInt8) ∉ bytes code) (detail : String) :
    beforeColon (coded code detail) = code := by
  have hall : ∀ c ∈ code.toList, decide (c ≠ ':') = true := by
    intro c hc
    exact decide_eq_true fun h => not_mem_toList_of_not_mem_bytes hcode (h ▸ hc)
  have hlist : (coded code detail).toList = code.toList ++ ':' :: ' ' :: detail.toList := by
    simp [coded]
  unfold beforeColon
  rw [hlist, List.takeWhile_append_of_pos hall]
  simp

/-- A list without an element starts what is put before that element, or does not start the
whole. -/
theorem isPrefix_append_cons_iff {α : Type*} {p l rest : List α} {a : α} (hp : a ∉ p) :
    p <+: l ++ a :: rest ↔ p <+: l := by
  constructor
  · intro h
    rcases le_total p.length l.length with hlen | hlen
    · exact List.prefix_of_prefix_length_le h (List.prefix_append l _) hlen
    · have hl : l <+: p := List.prefix_of_prefix_length_le (List.prefix_append l _) h hlen
      obtain ⟨tail, rfl⟩ := hl
      rw [List.prefix_append_right_inj] at h
      cases tail with
      | nil => simp
      | cons b tail =>
        -- the first element of the tail would be the one `p` does not have
        obtain ⟨rfl, -⟩ := List.cons_prefix_cons.1 h
        exact absurd (List.mem_append_right _ (List.mem_cons_self ..)) hp
  · intro h
    exact h.trans (List.prefix_append l _)

theorem startsWith_coded (hpre : (58 : UInt8) ∉ bytes pre) (code detail : String) :
    startsWith (coded code detail) pre = startsWith code pre := by
  unfold startsWith
  rw [bytes_coded, Bool.eq_iff_iff, List.isPrefixOf_iff_prefix, List.isPrefixOf_iff_prefix]
  exact isPrefix_append_cons_iff hpre

/-! ## Bytes that are a text -/

/-- The bytes are those of a text. -/
def isUtf8 (bytes : List UInt8) : Bool := ByteArray.validateUTF8 ⟨bytes.toArray⟩

theorem utf8EncodeChar_ascii {byte : UInt8} (h : byte.toNat < 128) :
    String.utf8EncodeChar (Char.ofNat byte.toNat) = [byte] := by
  have hall : ∀ n : Fin 128, String.utf8EncodeChar (Char.ofNat n) = [UInt8.ofNat n] := by decide
  have hbyte := hall ⟨byte.toNat, h⟩
  rwa [UInt8.ofNat_toNat] at hbyte

/-- ASCII bytes are those of a text. -/
theorem isUtf8_of_ascii {bytes : List UInt8} (h : ∀ byte ∈ bytes, byte.toNat < 128) :
    isUtf8 bytes = true := by
  have hchars : (bytes.map fun byte => Char.ofNat byte.toNat).flatMap String.utf8EncodeChar =
      bytes := by
    induction bytes with
    | nil => rfl
    | cons byte bytes ih =>
      rw [List.forall_mem_cons] at h
      rw [List.map_cons, List.flatMap_cons, ih h.2, utf8EncodeChar_ascii h.1]
      rfl
  apply ByteArray.validateUTF8_eq_true_iff.2
  refine .intro (bytes.map fun byte => Char.ofNat byte.toNat) ?_
  rw [List.utf8Encode, hchars]
  apply ByteArray.ext
  simp

theorem isUtf8_bytes (s : String) : isUtf8 (bytes s) = true := by
  apply ByteArray.validateUTF8_eq_true_iff.2
  exact s.isValidUTF8

theorem isUtf8_append {a b : List UInt8} (ha : isUtf8 a = true) (hb : isUtf8 b = true) :
    isUtf8 (a ++ b) = true := by
  have hvalid :=
    (ByteArray.validateUTF8_eq_true_iff.1 ha).append (ByteArray.validateUTF8_eq_true_iff.1 hb)
  have happend : (⟨(a ++ b).toArray⟩ : ByteArray) = ⟨a.toArray⟩ ++ ⟨b.toArray⟩ := by
    apply ByteArray.ext
    simp
  apply ByteArray.validateUTF8_eq_true_iff.2
  rw [happend]
  exact hvalid

end MemCordon.CodedText
