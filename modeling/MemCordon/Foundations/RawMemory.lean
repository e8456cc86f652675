import Mathlib.Data.Nat.Digits.Defs
import MemCordon.Foundations.Counter
import MemCordon.Foundations.Fallible

/-!
# Raw memory

Functions that read memory through raw pointers. A read outside the memory that it may touch, a
pointer that leaves its allocation and arithmetic that overflows are no errors of such a function
but the stop `fault`, which nothing handles.

* `Storage.read` and `Storage.pointer` fault where the access is not allowed.
* `Meets` says that a function does not come to a fault, with a condition on what it returns. Its
  rules take a function apart from its start, so that a proof follows the text of the function.
-/

namespace MemCordon.RawMemory

open Counter Fallible

/-- Why a function ends without a value. -/
inductive Stop (ε : Type)
  | error (e : ε)
  | fault
  deriving DecidableEq

/-- A borrowed slice. An allocation does not wrap around the end of the addresses. -/
structure Storage where
  address : ℕ
  bytes : List UInt8
  fits : address + bytes.length < u64Bound

variable {ε α β : Type}

/-- A read of `width` bytes, which has to stay within the first `limit` bytes of the slice. -/
def Storage.read (storage : Storage) (limit offset width : ℕ) : Except (Stop ε) (List UInt8) :=
  if offset + width ≤ limit ∧ limit ≤ storage.bytes.length then
    .ok ((storage.bytes.drop offset).take width)
  else .error .fault

/-- The address of a place in the slice, or of its end. -/
def Storage.pointer (storage : Storage) (offset : ℕ) : Except (Stop ε) ℕ :=
  if offset ≤ storage.bytes.length ∧ storage.address + offset < u64Bound then
    .ok (storage.address + offset)
  else .error .fault

/-- The little-endian number that bytes stand for. -/
def leValue (bytes : List UInt8) : ℕ := Nat.ofDigits 256 (bytes.map UInt8.toNat)

/-- The function does not fault, and what it returns satisfies the condition. -/
def Meets (x : Except (Stop ε) α) (Q : α → Prop) : Prop :=
  match x with
  | .ok a => Q a
  | .error (.error _) => True
  | .error .fault => False

variable {x : Except (Stop ε) α} {f : α → Except (Stop ε) β} {Q : β → Prop} {P : α → Prop} {e : ε}

theorem meets_bind (h : Meets x P) (hf : ∀ a, P a → Meets (f a) Q) : Meets (x >>= f) Q := by
  cases x with
  | ok a => exact hf a h
  | error stop =>
    cases stop with
    | error e => trivial
    | fault => exact h

theorem meets_of_eq {a : α} (h : x = .ok a) : Meets x (· = a) := by
  rw [h]
  rfl

theorem meets_okOr {o : Option α} (h : ∀ a, o = some a → P a) : Meets (okOr (.error e) o) P := by
  cases o with
  | none => trivial
  | some a => exact h a rfl

theorem meets_reject {bad : Prop} [Decidable bad] :
    Meets (reject (.error e) bad) fun _ => ¬ bad := by
  unfold reject
  split_ifs with h
  · trivial
  · exact h

variable {storage : Storage} {limit offset width : ℕ}

theorem meets_read (h : offset + width ≤ limit) (hlimit : limit ≤ storage.bytes.length) :
    Meets (storage.read limit offset width : Except (Stop ε) _)
      (· = (storage.bytes.drop offset).take width) :=
  meets_of_eq (if_pos ⟨h, hlimit⟩)

theorem meets_pointer (h : offset ≤ storage.bytes.length) :
    Meets (storage.pointer offset : Except (Stop ε) _) (· = storage.address + offset) := by
  have hfits := storage.fits
  exact meets_of_eq (if_pos ⟨h, by omega⟩)

/-- A byte that is read. -/
theorem leValue_read_one (h : offset < storage.bytes.length) :
    leValue ((storage.bytes.drop offset).take 1) = storage.bytes[offset].toNat := by
  rw [List.drop_eq_getElem_cons h]
  exact Nat.ofDigits_singleton

end MemCordon.RawMemory
