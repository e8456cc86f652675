import Mathlib.Data.List.Infix
import Mathlib.Data.Vector.Basic

/-!
# Texts made of lines

Texts as their bytes: the lines of a text, the last place where a mark stands, and the hexadecimal
digits of bytes. A text that is put together from lines and a mark is taken apart again:
`lines_line` gives back a line, and `rsplitOnce_append` the two parts around the last mark.
-/

namespace MemCordon.LineText

/-! ## Lines -/

/-- The lines of a text. A line ends with a line feed, or a carriage return and a line feed, or the
end of the text. -/
def lines : List UInt8 → List (List UInt8)
  | [] => []
  | byte :: rest =>
    if byte = 10 then [] :: lines rest
    else if byte = 13 ∧ rest.head? = some 10 then lines rest
    else
      match lines rest with
      | [] => [[byte]]
      | line :: others => (byte :: line) :: others

/-- A text that can stand on a line of its own. -/
structure IsLine (text : List UInt8) : Prop where
  noLineFeed : (10 : UInt8) ∉ text
  noReturn : text.getLast? ≠ some 13

theorem lines_line {line : List UInt8} (h : IsLine line) (rest : List UInt8) :
    lines (line ++ 10 :: rest) = line :: lines rest := by
  obtain ⟨hfeed, hreturn⟩ := h
  induction line with
  | nil => rfl
  | cons byte line ih =>
    have hbyte : byte ≠ 10 := fun h => hfeed (h ▸ List.mem_cons_self ..)
    have hrest : (10 : UInt8) ∉ line := fun h => hfeed (List.mem_cons_of_mem _ h)
    cases line with
    | nil =>
      have hend : byte ≠ 13 := fun h => hreturn (h ▸ rfl)
      simp [lines, hbyte, hend]
    | cons next line =>
      have hnext : next ≠ 10 := fun h => hrest (h ▸ List.mem_cons_self ..)
      have htail := ih hrest (by simpa using hreturn)
      have hhead : (next :: line ++ 10 :: rest).head? ≠ some 10 := by simpa using hnext
      rw [List.cons_append, lines, if_neg hbyte, if_neg fun h => hhead h.2, htail]

theorem isLine_append {a b : List UInt8} (ha : (10 : UInt8) ∉ a) (hb : IsLine b) (hne : b ≠ []) :
    IsLine (a ++ b) := by
  refine ⟨fun h => (List.mem_append.1 h).elim ha hb.noLineFeed, ?_⟩
  rw [List.getLast?_append_of_ne_nil _ hne]
  exact hb.noReturn

/-! ## Marks -/

/-- `str::strip_prefix` -/
def stripPrefix (mark text : List UInt8) : Option (List UInt8) :=
  if mark.isPrefixOf text then some (text.drop mark.length) else none

@[simp] theorem stripPrefix_append (mark rest : List UInt8) :
    stripPrefix mark (mark ++ rest) = some rest := by
  simp [stripPrefix, List.isPrefixOf_iff_prefix]

/-- `str::rsplit_once`: the parts before and after the last place where the mark stands. -/
def rsplitOnce (mark : List UInt8) : List UInt8 → Option (List UInt8 × List UInt8)
  | [] => if mark = [] then some ([], []) else none
  | byte :: rest =>
    match rsplitOnce mark rest with
    | some (before, after) => some (byte :: before, after)
    | none =>
      if mark.isPrefixOf (byte :: rest) then some ([], (byte :: rest).drop mark.length) else none

theorem rsplitOnce_eq_none {mark text : List UInt8} : rsplitOnce mark text = none ↔
    ¬ mark <:+: text := by
  induction text with
  | nil => simp [rsplitOnce]
  | cons byte rest ih =>
    rw [List.infix_cons_iff, not_or, ← ih, rsplitOnce]
    cases rsplitOnce mark rest with
    | some parts => simp
    | none => simp [List.isPrefixOf_iff_prefix]

theorem eq_append_of_rsplitOnce {mark text before after : List UInt8}
    (h : rsplitOnce mark text = some (before, after)) :
    text = before ++ (mark ++ after) := by
  induction text generalizing before with
  | nil =>
    rw [rsplitOnce] at h
    split_ifs at h with hmark
    cases h
    rw [hmark]
    rfl
  | cons byte rest ih =>
    rw [rsplitOnce] at h
    cases hrest : rsplitOnce mark rest with
    | some parts =>
      rw [hrest] at h
      cases h
      rw [ih hrest, List.cons_append]
    | none =>
      rw [hrest] at h
      dsimp only at h
      split_ifs at h with hmark
      cases h
      obtain ⟨tail, htail⟩ := List.isPrefixOf_iff_prefix.1 hmark
      rw [← htail, List.drop_left, List.nil_append]

/-- The mark stands before a text in which it does not stand again: not in the text, and not across
its start. -/
theorem rsplitOnce_append {mark after : List UInt8} (before : List UInt8)
    (h : ¬ mark <:+: (mark ++ after).tail) (hmark : mark ≠ []) :
    rsplitOnce mark (before ++ (mark ++ after)) = some (before, after) := by
  induction before with
  | nil =>
    obtain ⟨byte, mark, rfl⟩ := List.exists_cons_of_ne_nil hmark
    rw [List.nil_append, List.cons_append, rsplitOnce]
    rw [List.cons_append, List.tail_cons, ← rsplitOnce_eq_none] at h
    rw [h]
    simp [List.isPrefixOf_iff_prefix]
  | cons byte before ih => rw [List.cons_append, rsplitOnce, ih]

/-- A mark whose last byte stands neither earlier in the mark nor after it is the last one. -/
theorem rsplitOnce_mark (start : List UInt8) {after : List UInt8} {last : UInt8}
    (hstart : last ∉ start) (hafter : last ∉ after) (before : List UInt8) :
    rsplitOnce (start ++ [last]) (before ++ ((start ++ [last]) ++ after)) =
      some (before, after) := by
  refine rsplitOnce_append before ?_ (by simp)
  rintro ⟨s, t, heq⟩
  cases start with
  | nil =>
    -- the text after the mark would hold its byte
    have hmem : last ∈ s ++ ([] ++ [last]) ++ t := by simp
    rw [heq] at hmem
    exact hafter hmem
  | cons byte start =>
    have hsplit : start ++ last :: after = (s ++ byte :: start) ++ last :: t := by
      simpa using heq.symm
    have htail : last ∉ start := fun h => hstart (List.mem_cons_of_mem _ h)
    obtain ⟨hlength, -⟩ := (List.append_cons_inj_of_notMem htail hafter).1 hsplit
    have := congrArg List.length hlength
    simp at this
    omega

theorem stripPrefix_eq_some {mark text rest : List UInt8} : stripPrefix mark text = some rest ↔
    text = mark ++ rest := by
  unfold stripPrefix
  constructor
  · intro h
    split_ifs at h with hmark
    obtain ⟨tail, rfl⟩ := List.isPrefixOf_iff_prefix.1 hmark
    rw [List.drop_left] at h
    rw [Option.some.inj h]
  · rintro rfl
    exact stripPrefix_append mark rest

/-- `str::split_once` with a mark of one byte: the parts before and after the first place where it
stands. -/
def splitOnce (mark : UInt8) : List UInt8 → Option (List UInt8 × List UInt8)
  | [] => none
  | byte :: rest =>
    if byte = mark then some ([], rest)
    else (splitOnce mark rest).map fun (before, after) => (byte :: before, after)

theorem splitOnce_eq_some {mark : UInt8} {text before after : List UInt8} :
    splitOnce mark text = some (before, after) ↔ text = before ++ mark :: after ∧
      mark ∉ before := by
  induction text generalizing before with
  | nil => simp [splitOnce]
  | cons byte rest ih =>
    by_cases hbyte : byte = mark
    · cases before <;> simp +contextual [splitOnce, hbyte, eq_comm]
    · cases before with
      | nil => simp [splitOnce, hbyte]
      | cons first before =>
        simp [splitOnce, hbyte, ih]
        grind

/-- What follows a mark at the start of a line, on the first such line. -/
def lookLine (mark text : List UInt8) : Option (List UInt8) :=
  (lines text).findSome? (stripPrefix mark)

theorem lines_ne_nil {text : List UInt8} (h : text ≠ []) : lines text ≠ [] := by
  induction text with
  | nil => exact absurd rfl h
  | cons byte rest ih =>
    rw [lines]
    split_ifs with hfeed hreturn
    · nofun
    · refine ih ?_
      rintro rfl
      cases hreturn.2
    · cases lines rest with
      | nil | cons line others => nofun

/-- The lines of a text that is continued after a line feed. -/
theorem lines_append_of_feed {text : List UInt8} (h : text.getLast? = some 10) (rest : List UInt8) :
    lines (text ++ rest) = lines text ++ lines rest := by
  induction text with
  | nil => cases h
  | cons byte text ih =>
    cases text with
    | nil =>
      cases Option.some.inj h
      rfl
    | cons next text =>
      have htail := ih (by simpa using h)
      have hhead : (next :: text ++ rest).head? = (next :: text).head? := rfl
      rw [List.cons_append, lines, lines, hhead, htail]
      split_ifs
      · rfl
      · rfl
      · obtain ⟨line, others, hlines⟩ :=
          List.exists_cons_of_ne_nil (lines_ne_nil (List.cons_ne_nil next text))
        rw [hlines]
        rfl

/-! ## Decimal numbers -/

/-- The value of decimal digits. -/
def decimal (text : List UInt8) : Option ℕ :=
  if text ≠ [] ∧ text.all (fun byte => 48 ≤ byte && byte ≤ 57) then
    some (text.foldl (fun n byte => n * 10 + (byte.toNat - 48)) 0)
  else none

/-- `str::parse::<i32>` -/
def parseI32 (text : List UInt8) : Option ℤ :=
  match text with
  | 45 :: digits => (decimal digits).bind fun n => if n ≤ 2 ^ 31 then some (-n) else none
  | 43 :: digits => (decimal digits).bind fun n => if n < 2 ^ 31 then some n else none
  | digits => (decimal digits).bind fun n => if n < 2 ^ 31 then some n else none

/-- `str::parse::<u32>` -/
def parseU32 (text : List UInt8) : Option UInt32 :=
  match text with
  | 43 :: digits =>
    (decimal digits).bind fun n => if n < 2 ^ 32 then some (UInt32.ofNat n) else none
  | digits => (decimal digits).bind fun n => if n < 2 ^ 32 then some (UInt32.ofNat n) else none

/-! ## Hexadecimal digits -/

/-- The lower-case digit of a value below sixteen. -/
def hexDigit (n : ℕ) : UInt8 := if n < 10 then UInt8.ofNat (48 + n) else UInt8.ofNat (87 + n)

/-- `format!("{byte:02x}")` -/
def hexByte (byte : UInt8) : List UInt8 := [hexDigit (byte.toNat / 16), hexDigit (byte.toNat % 16)]

def hex (bytes : List UInt8) : List UInt8 := bytes.flatMap hexByte

theorem length_hex (bytes : List UInt8) : (hex bytes).length = 2 * bytes.length := by
  simp [hex, hexByte, List.length_flatMap, Nat.mul_comm]

/-- A lower-case hexadecimal digit. -/
def isHexDigit (byte : UInt8) : Bool := (48 ≤ byte && byte ≤ 57) || (97 ≤ byte && byte ≤ 102)

theorem isHexDigit_hexDigit {n : ℕ} (h : n < 16) : isHexDigit (hexDigit n) = true := by
  have hall : ∀ n : Fin 16, isHexDigit (hexDigit n) = true := by decide
  exact hall ⟨n, h⟩

theorem isHexDigit_of_mem_hex {bytes : List UInt8} {byte : UInt8} (h : byte ∈ hex bytes) :
    isHexDigit byte = true := by
  obtain ⟨source, -, hmem⟩ := List.mem_flatMap.1 h
  have hbound : source.toNat < 256 := source.toNat_lt
  rcases List.mem_cons.1 hmem with rfl | hmem
  · exact isHexDigit_hexDigit (by omega)
  · rw [List.mem_singleton.1 hmem]
    exact isHexDigit_hexDigit (Nat.mod_lt _ (by decide))

end MemCordon.LineText
