import Mathlib.Data.List.Induction
import Mathlib.Data.Vector.Basic
import Mathlib.Tactic.Ring

/-!
# Byte encodings

Encodings as strings of bytes, with what writes and reads them.

* `beBytes` and `beValue` are big-endian numbers of a fixed width.
* `Delimits encode`: an encoding can be told from what follows it, so that a concatenation of
  encodings determines its parts, one after the other.
* `Emit` writes bytes up to a limit. A writer that is built from writes of fixed strings is the
  write of their concatenation (`raw_bind_raw`, `forM_raw`), so a whole encoder is one string and
  one comparison.
* `Scan` reads bytes. `Reads reader bytes a` says that a reader takes exactly these bytes for `a`,
  whatever follows, and composes along `bind`.
* `CanonicalCodec`: every value has one string, up to an equivalence, and only these strings are
  accepted.
-/

namespace MemCordon.Encoding

/-! ## Big-endian numbers -/

/-- The last `k` digits of a number in base 256, the most significant first. -/
def beBytes : ℕ → ℕ → List UInt8
  | 0, _ => []
  | k + 1, n => beBytes k (n / 256) ++ [UInt8.ofNat n]

/-- The number whose digits these are. -/
def beValue (bytes : List UInt8) : ℕ := bytes.foldl (fun n byte => n * 256 + byte.toNat) 0

@[simp] theorem length_beBytes (k n : ℕ) : (beBytes k n).length = k := by
  induction k generalizing n with
  | zero => rfl
  | succ k ih => simp [beBytes, ih]

theorem beValue_beBytes {k n : ℕ} (h : n < 256 ^ k) : beValue (beBytes k n) = n := by
  induction k generalizing n with
  | zero =>
    have hzero : n = 0 := by simpa using h
    rw [hzero]
    rfl
  | succ k ih =>
    have hdiv : n / 256 < 256 ^ k := by
      apply Nat.div_lt_of_lt_mul
      rwa [Nat.mul_comm, ← Nat.pow_succ]
    have hlast : (UInt8.ofNat n).toNat = n % 256 := by simp
    have happend : beValue (beBytes k (n / 256) ++ [UInt8.ofNat n]) =
        beValue (beBytes k (n / 256)) * 256 + (UInt8.ofNat n).toNat := by
      simp [beValue]
    rw [beBytes, happend, ih hdiv, hlast]
    omega

/-! ## Encodings that end where they end -/

/-- The encoding of a value can be told from what follows it, and determines the value up to a
relation, among the values with a property. -/
def DelimitsOn {α : Type*} (p : α → Prop) (r : α → α → Prop) (encode : α → List UInt8) : Prop :=
  ∀ ⦃a b : α⦄ ⦃s t : List UInt8⦄, p a → p b → encode a ++ s = encode b ++ t → r a b ∧ s = t

/-- The encoding of a value can be told from what follows it, and determines the value. -/
def Delimits {α : Type*} (encode : α → List UInt8) : Prop :=
  ∀ ⦃a b : α⦄ ⦃s t : List UInt8⦄, encode a ++ s = encode b ++ t → a = b ∧ s = t

section Delimits

variable {α β : Type*} {p : α → Prop} {r : α → α → Prop} {encode : α → List UInt8}

theorem Delimits.on (h : Delimits encode) : DelimitsOn p (· = ·) encode :=
  fun _ _ _ _ _ _ hab => h hab

variable {k : ℕ}

/-- An encoding of one length, that tells values apart. -/
theorem delimits_of_length (hlength : ∀ a, (encode a).length = k)
    (hinjective : Function.Injective encode) : Delimits encode := by
  intro a b s t h
  obtain ⟨hab, hst⟩ := List.append_inj h ((hlength a).trans (hlength b).symm)
  exact ⟨hinjective hab, hst⟩

theorem Delimits.injective (h : Delimits encode) : Function.Injective encode := by
  intro a b hab
  exact (h (congrArg (· ++ []) hab)).1

variable {s t : List UInt8} {as bs : List α}

/-- Lists of one length, element by element. -/
theorem DelimitsOn.flatMap (h : DelimitsOn p r encode) (hlength : as.length = bs.length)
    (has : ∀ a ∈ as, p a)
    (hbs : ∀ b ∈ bs, p b) (hab : as.flatMap encode ++ s = bs.flatMap encode ++ t) :
    List.Forall₂ r as bs ∧ s = t := by
  induction as generalizing bs with
  | nil =>
    have hnil : bs = [] := List.length_eq_zero_iff.1 hlength.symm
    subst hnil
    exact ⟨.nil, hab⟩
  | cons a as ih =>
    cases bs with
    | nil => simp at hlength
    | cons b bs =>
      rw [List.forall_mem_cons] at has hbs
      rw [List.flatMap_cons, List.flatMap_cons, List.append_assoc, List.append_assoc] at hab
      obtain ⟨hfirst, hrest⟩ := h has.1 hbs.1 hab
      obtain ⟨hall, hst⟩ := ih (by simpa using hlength) has.2 hbs.2 hrest
      exact ⟨.cons hfirst hall, hst⟩

theorem delimits_beBytes {m n : ℕ} (hm : m < 256 ^ k) (hn : n < 256 ^ k)
    (h : beBytes k m ++ s = beBytes k n ++ t) : m = n ∧ s = t := by
  obtain ⟨hbytes, hst⟩ := List.append_inj h (by rw [length_beBytes, length_beBytes])
  refine ⟨?_, hst⟩
  rw [← beValue_beBytes hm, hbytes, beValue_beBytes hn]

def counted (encode : α → List UInt8) (as : List α) : List UInt8 :=
  beBytes 2 as.length ++ as.flatMap encode

theorem DelimitsOn.counted (h : DelimitsOn p r encode) (has : ∀ a ∈ as, p a) (hbs : ∀ b ∈ bs, p b)
    (halength : as.length < 256 ^ 2) (hblength : bs.length < 256 ^ 2)
    (hab : counted encode as ++ s = counted encode bs ++ t) :
    List.Forall₂ r as bs ∧ s = t := by
  unfold Encoding.counted at hab
  rw [List.append_assoc, List.append_assoc] at hab
  obtain ⟨hlength, hrest⟩ := delimits_beBytes halength hblength hab
  exact h.flatMap hlength has hbs hrest

/-- Counted lists are the same when the encodings of their elements are. -/
theorem counted_congr (h : as.map encode = bs.map encode) :
    counted encode as = counted encode bs := by
  have hlength : as.length = bs.length := by
    rw [← List.length_map encode, h, List.length_map]
  unfold Encoding.counted
  rw [hlength, List.flatMap_def, List.flatMap_def, h]

/-- A counted list of bounded encodings is bounded. -/
theorem length_counted_le {k n : ℕ} {as : List α} (hencode : ∀ a, (encode a).length ≤ k)
    (hlength : as.length ≤ n) : (Encoding.counted encode as).length ≤ 2 + n * k := by
  have hflat : (as.flatMap encode).length ≤ as.length * k := by
    clear hlength
    induction as with
    | nil => simp
    | cons a as ih =>
      have ha := hencode a
      rw [List.flatMap_cons, List.length_append, List.length_cons, Nat.succ_mul]
      omega
  have hmul : as.length * k ≤ n * k := Nat.mul_le_mul_right k hlength
  unfold Encoding.counted
  rw [List.length_append, length_beBytes]
  omega

/-- The bytes of a text, with their number before them. -/
def prefixed (text : List UInt8) : List UInt8 := beBytes 2 text.length ++ text

theorem delimits_prefixed {a b : List UInt8} (ha : a.length < 256 ^ 2) (hb : b.length < 256 ^ 2)
    (hab : prefixed a ++ s = prefixed b ++ t) : a = b ∧ s = t := by
  unfold prefixed at hab
  rw [List.append_assoc, List.append_assoc] at hab
  obtain ⟨hlength, hrest⟩ := delimits_beBytes ha hb hab
  exact List.append_inj hrest hlength

theorem delimits_vector : Delimits (fun v : List.Vector UInt8 k => v.toList) :=
  delimits_of_length (fun v => v.toList_length) Subtype.val_injective

end Delimits

/-! ## Writing up to a limit -/

/-- What has been written, and how much may be. -/
structure Sink where
  bytes : List UInt8
  limit : ℕ

/-- A writer that may run into the limit. -/
abbrev Emit (ε : Type) := StateT Sink (Except ε)

variable {ε : Type} {e : ε}

/-- Write a string, or fail when it does not fit. -/
def raw (e : ε) (bytes : List UInt8) : Emit ε Unit := fun sink =>
  if sink.limit - sink.bytes.length < bytes.length then .error e
  else .ok ((), { sink with bytes := sink.bytes ++ bytes })

theorem raw_nil : raw e [] = pure () := by
  funext sink
  rw [raw, if_neg (by simp), List.append_nil]
  rfl

theorem raw_bind_raw (a b : List UInt8) : (do raw e a; raw e b) = raw e (a ++ b) := by
  funext sink
  show (raw e a sink >>= fun p => raw e b p.2) = raw e (a ++ b) sink
  by_cases ha : sink.limit - sink.bytes.length < a.length
  · have hab : sink.limit - sink.bytes.length < a.length + b.length := by omega
    simp [raw, ha, hab, bind, Except.bind]
  · have hab : sink.limit - (sink.bytes.length + a.length) < b.length ↔
        sink.limit - sink.bytes.length < a.length + b.length := by omega
    simp [raw, ha, hab, bind, Except.bind]

/-- A loop of writes is the write of their concatenation. -/
theorem forM_raw {α : Type*} {encode : α → List UInt8} {write : α → Emit ε Unit} {as : List α}
    (hwrite : ∀ a ∈ as, write a = raw e (encode a)) :
    as.forM write = raw e (as.flatMap encode) := by
  induction as with
  | nil => exact raw_nil.symm
  | cons a as ih =>
    rw [List.forall_mem_cons] at hwrite
    show (write a >>= fun _ => as.forM write) = _
    rw [hwrite.1, ih hwrite.2]
    exact raw_bind_raw _ _

/-- What a writer has written at the end, from nothing. -/
def emitted (limit : ℕ) (w : Emit ε Unit) : Except ε (List UInt8) :=
  (w ⟨[], limit⟩).map fun p => p.2.bytes

theorem emitted_raw {limit : ℕ} {bytes : List UInt8} :
    emitted limit (raw e bytes) = if bytes.length ≤ limit then .ok bytes else .error e := by
  simp only [emitted, raw, List.length_nil, Nat.sub_zero, ← Nat.not_le]
  split_ifs <;> rfl

/-- The writer fails whatever has been written before. -/
def Fails {α : Type} (w : Emit ε α) : Prop := ∀ sink r, w sink ≠ .ok r

section Fails

variable {α β : Type} {w : Emit ε α} {k : α → Emit ε β}

theorem fails_throw : Fails (throw e : Emit ε α) := fun _ _ h => nomatch h

theorem Fails.bind (h : Fails w) : Fails (w >>= k) := by
  intro sink r
  change (w sink >>= fun p => k p.1 p.2) ≠ .ok r
  cases hw : w sink with
  | error e => exact fun hr => nomatch hr
  | ok p => exact absurd hw (h sink p)

theorem Fails.after (h : ∀ a, Fails (k a)) : Fails (w >>= k) := by
  intro sink r
  change (w sink >>= fun p => k p.1 p.2) ≠ .ok r
  cases w sink with
  | error e => exact fun hr => nomatch hr
  | ok p => exact h p.1 p.2 r

theorem emitted_ne_of_fails {w : Emit ε Unit} (h : Fails w) {limit : ℕ} {bytes : List UInt8} :
    emitted limit w ≠ .ok bytes := by
  unfold emitted
  cases hw : w ⟨[], limit⟩ with
  | error e => exact fun hr => nomatch hr
  | ok p => exact absurd hw (h _ p)

end Fails

/-! ## Reading -/

/-- A reader of the bytes that remain. -/
abbrev Scan (ε : Type) := StateT (List UInt8) (Except ε)

/-- The reader takes these bytes for the value, whatever follows. -/
def Reads {α : Type} (reader : Scan ε α) (bytes : List UInt8) (a : α) : Prop :=
  ∀ rest, reader (bytes ++ rest) = .ok (a, rest)

section Reads

variable {α β : Type} {a : α} {b : β} {reader : Scan ε α} {next : α → Scan ε β}
  {as bs : List UInt8}

theorem Reads.pure : Reads (Pure.pure a : Scan ε α) [] a := fun _ => rfl

theorem Reads.bind (h : Reads reader as a) (hnext : Reads (next a) bs b) :
    Reads (reader >>= next) (as ++ bs) b := by
  intro rest
  show (reader (as ++ bs ++ rest) >>= fun p => next p.1 p.2) = _
  rw [List.append_assoc, h]
  exact hnext rest

/-- A reader followed by something that reads nothing. -/
theorem Reads.bind_pure (h : Reads reader as a) (hnext : Reads (next a) [] b) :
    Reads (reader >>= next) as b := by
  have hbind := h.bind hnext
  rwa [List.append_nil] at hbind

/-- A value or an error that reads nothing. -/
theorem reads_lift {x : Except ε α} (h : x = .ok a) : Reads (StateT.lift x : Scan ε α) [] a := by
  intro rest
  rw [h]
  rfl

/-- An encoding that a reader takes back can be told from what follows it. -/
theorem delimits_of_reads {encode : α → List UInt8} (h : ∀ a, Reads reader (encode a) a) :
    Delimits encode := by
  intro a b s t hab
  have hreads : (.ok (a, s) : Except ε (α × List UInt8)) = .ok (b, t) := by
    rw [← h a s, hab, h b t]
  exact Prod.ext_iff.1 (Except.ok.inj hreads)

end Reads

/-! ## Canonical codecs -/

/-- A codec with one string for every value up to an equivalence: the values have canonical forms, a
valid value is encoded and decoded to its canonical form, and the decoder accepts encodings only. -/
structure CanonicalCodec {α : Type} (valid : α → Prop) (canonical : α → α) (same : α → α → Prop)
    (encode : α → Except ε (List UInt8)) (decode : List UInt8 → Except ε α) : Prop where
  decode_encode : ∀ a, valid a → ∃ bytes, encode a = .ok bytes ∧ decode bytes = .ok (canonical a)
  decode_eq_ok : ∀ bytes a, decode bytes = .ok a ↔ encode a = .ok bytes ∧ canonical a = a
  accepted_iff : ∀ bytes, (∃ a, decode bytes = .ok a) ↔ ∃ a, encode a = .ok bytes
  encode_eq_iff : ∀ a b, valid a → valid b → (encode a = encode b ↔ same a b)

section Canonical

variable {α : Type} {valid : α → Prop} {canonical : α → α} {same : α → α → Prop}
  {encode : α → Except ε (List UInt8)} {decode : List UInt8 → Except ε α}

/-- **A codec whose decoder reads canonical forms and compares with their encoding is
canonical.** -/
theorem canonicalCodec_of {encoded : α → List UInt8} {read : List UInt8 → Except ε α}
    (hencode : ∀ a bytes, encode a = .ok bytes ↔ valid a ∧ encoded a = bytes)
    (hdecode : ∀ bytes a, decode bytes = .ok a ↔ read bytes = .ok a ∧ valid a ∧ encoded a = bytes)
    (hread : ∀ a, valid a → read (encoded a) = .ok (canonical a))
    (hvalid : ∀ a, valid a → valid (canonical a))
    (hencoded : ∀ a, valid a → encoded (canonical a) = encoded a)
    (hsame : ∀ a b, valid a → (same a b ↔ canonical a = canonical b)) :
    CanonicalCodec valid canonical same encode decode where
  decode_encode := by
    intro a ha
    exact ⟨encoded a, (hencode _ _).2 ⟨ha, rfl⟩,
      (hdecode _ _).2 ⟨hread a ha, hvalid a ha, hencoded a ha⟩⟩
  decode_eq_ok := by
    intro bytes a
    rw [hdecode, hencode]
    constructor
    · rintro ⟨hbytes, ha, rfl⟩
      rw [hread a ha] at hbytes
      exact ⟨⟨ha, rfl⟩, Except.ok.inj hbytes⟩
    · rintro ⟨⟨ha, rfl⟩, hcanonical⟩
      refine ⟨?_, ha, rfl⟩
      rw [hread a ha, hcanonical]
  accepted_iff := by
    intro bytes
    constructor
    · rintro ⟨a, ha⟩
      exact ⟨a, (hencode _ _).2 ((hdecode _ _).1 ha).2⟩
    · rintro ⟨a, hbytes⟩
      obtain ⟨ha, rfl⟩ := (hencode _ _).1 hbytes
      exact ⟨canonical a, (hdecode _ _).2 ⟨hread a ha, hvalid a ha, hencoded a ha⟩⟩
  encode_eq_iff := by
    intro a b ha hb
    rw [hsame a b ha, (hencode a _).2 ⟨ha, rfl⟩, (hencode b _).2 ⟨hb, rfl⟩, Except.ok.injEq]
    constructor
    · intro h
      have hreads : (.ok (canonical a) : Except ε α) = .ok (canonical b) := by
        rw [← hread a ha, ← hread b hb, h]
      exact Except.ok.inj hreads
    · intro h
      rw [← hencoded a ha, h, hencoded b hb]

end Canonical

end MemCordon.Encoding
