import Mathlib.Algebra.Ring.Nat
import Mathlib.Data.List.Basic

/-!
# Classic BPF

The fragment of classic BPF that a system call filter is written in: absolute loads, tests of the
accumulator with relative forward jumps, a mask and a constant result.

* `step` and `run` are the machine, with a program counter into the whole program.
* `exec` runs what is left of a program, a jump being a number of instructions to skip. It is a
  recursion on the program, and `action_eq_exec` says that it is the machine.
* The remaining lemmas run the patterns a compiler emits: a guard, a list of accepted values, a
  block that is entered on one value and skipped on the others, and the dispatch over several such
  blocks.
* `WithinBounds` says that no jump leaves the program, and `run_withinBounds` how such a program
  runs.
-/

namespace MemCordon.Bpf

abbrev Word := BitVec 32

/-- An instruction, in the layout of the kernel. -/
structure Instruction where
  code : BitVec 16
  jt : BitVec 8
  jf : BitVec 8
  k : Word
  deriving DecidableEq, Repr

inductive Operation
  | load
  | jumpEqual
  | jumpSet
  | jump
  | mask
  | result
  deriving DecidableEq, Repr

def Operation.ofCode (code : BitVec 16) : Option Operation :=
  if code = 0x20 then some .load
  else if code = 0x15 then some .jumpEqual
  else if code = 0x45 then some .jumpSet
  else if code = 0x05 then some .jump
  else if code = 0x54 then some .mask
  else if code = 0x06 then some .result
  else none

/-- The word a program finds at an offset of its input, if there is one. -/
abbrev Input := Word → Option Word

/-- What an instruction does: go on after skipping some instructions, with a new accumulator, return
a value, or fault. -/
inductive Effect
  | goto (skip : ℕ) (acc : Word)
  | done (action : Word)
  | fault
  deriving DecidableEq, Repr

/-- The effect of an instruction. Jumps are relative to the next instruction. -/
def Instruction.effect (i : Instruction) (input : Input) (acc : Word) : Effect :=
  match Operation.ofCode i.code with
  | none => .fault
  | some .load =>
    match input i.k with
    | none => .fault
    | some w => .goto 0 w
  | some .jumpEqual => .goto (if acc = i.k then i.jt.toNat else i.jf.toNat) acc
  | some .jumpSet => .goto (if acc &&& i.k = 0 then i.jf.toNat else i.jt.toNat) acc
  | some .jump => .goto i.k.toNat acc
  | some .mask => .goto 0 (acc &&& i.k)
  | some .result => .done i.k

/-! ## The machine -/

/-- A program that runs at an instruction with an accumulator, one that has returned, or one that
has left the program or met an instruction it cannot run. -/
inductive Status
  | running (pc : ℕ) (acc : Word)
  | returned (action : Word)
  | fault
  deriving DecidableEq, Repr

def step (program : List Instruction) (input : Input) (pc : ℕ) (acc : Word) : Status :=
  match program[pc]? with
  | none => .fault
  | some i =>
    match i.effect input acc with
    | .goto skip acc' => .running (pc + 1 + skip) acc'
    | .done a => .returned a
    | .fault => .fault

/-- At most `n` steps. -/
def run (program : List Instruction) (input : Input) : ℕ → Status → Status
  | n + 1, .running pc acc => run program input n (step program input pc acc)
  | _, status => status

/-- The value a status has returned. -/
def Status.action : Status → Option Word
  | .returned a => some a
  | _ => none

/-- The value a program returns on an input. Every step moves forward, so a program takes at most as
many steps as it has instructions. -/
def action (program : List Instruction) (input : Input) : Option Word :=
  (run program input program.length (.running 0 0)).action

/-! ## Running what is left of a program -/

/-- Run the program after skipping some instructions. -/
def exec (input : Input) : List Instruction → ℕ → Word → Option Word
  | [], _, _ => none
  | _ :: rest, n + 1, acc => exec input rest n acc
  | i :: rest, 0, acc =>
    match i.effect input acc with
    | .goto skip acc' => exec input rest skip acc'
    | .done a => some a
    | .fault => none

variable {input : Input} {program rest : List Instruction} {acc : Word}

variable {i : Instruction}

@[simp] theorem exec_cons_succ {n : ℕ} :
    exec input (i :: rest) (n + 1) acc = exec input rest n acc := rfl

theorem exec_eq_exec_drop (n : ℕ) :
    exec input program n acc = exec input (program.drop n) 0 acc := by
  induction program generalizing n with
  | nil => simp [exec]
  | cons i rest ih =>
    cases n with
    | zero => rfl
    | succ n =>
      rw [exec_cons_succ, List.drop_succ_cons]
      exact ih n

theorem exec_append_length (block : List Instruction) :
    exec input (block ++ rest) block.length acc = exec input rest 0 acc := by
  rw [exec_eq_exec_drop, List.drop_left]

@[simp] theorem run_returned (n : ℕ) (a : Word) :
    run program input n (.returned a) = .returned a := by
  cases n <;> rfl

@[simp] theorem run_fault (n : ℕ) : run program input n .fault = .fault := by
  cases n <;> rfl

/-- The machine at an instruction does what is left of the program, given a step for each
instruction left. -/
theorem action_run {n pc : ℕ} (hn : program.length ≤ n + pc) :
    (run program input n (.running pc acc)).action = exec input (program.drop pc) 0 acc := by
  induction n generalizing pc acc with
  | zero =>
    rw [List.drop_eq_nil_of_le (by omega)]
    rfl
  | succ n ih =>
    rw [run]
    by_cases hpc : pc < program.length
    · rw [List.drop_eq_getElem_cons hpc]
      unfold step exec
      rw [List.getElem?_eq_getElem hpc]
      cases heffect : program[pc].effect input acc with
      | goto skip acc' =>
        -- a jump target is a skip in what is left
        simp only [heffect]
        rw [ih (by omega), exec_eq_exec_drop skip, List.drop_drop]
      | done a | fault => simp [heffect, Status.action]
    · rw [List.drop_eq_nil_of_le (by omega), step, List.getElem?_eq_none (by omega)]
      simp [Status.action, exec]

/-- **The machine runs a program as the recursion on it does.** -/
theorem action_eq_exec (program : List Instruction) (input : Input) :
    action program input = exec input program 0 0 := by
  unfold action
  rw [action_run (by omega), List.drop_zero]

/-! ## Instructions -/

namespace Instruction

def load (offset : Word) : Instruction := ⟨0x20, 0, 0, offset⟩

/-- Skip `jt` instructions on a value and `jf` on the others. -/
def jumpEqual (value : Word) (jt jf : BitVec 8) : Instruction := ⟨0x15, jt, jf, value⟩

/-- Skip `jt` instructions when a bit of the mask is set and `jf` when none is. -/
def jumpSet (bits : Word) (jt jf : BitVec 8) : Instruction := ⟨0x45, jt, jf, bits⟩

def jump (skip : Word) : Instruction := ⟨0x05, 0, 0, skip⟩

def mask (bits : Word) : Instruction := ⟨0x54, 0, 0, bits⟩

/-- Return a value. -/
def result (action : Word) : Instruction := ⟨0x06, 0, 0, action⟩

end Instruction

open Instruction

variable {value bits offset word action : Word} {jt jf : BitVec 8}

theorem exec_load (h : input offset = some word) :
    exec input (load offset :: rest) 0 acc = exec input rest 0 word := by
  have heffect : (load offset).effect input acc = .goto 0 word := by
    simp [load, effect, Operation.ofCode, h]
  rw [exec, heffect]

@[simp] theorem exec_jumpEqual : exec input (jumpEqual value jt jf :: rest) 0 acc =
      exec input rest (if acc = value then jt.toNat else jf.toNat) acc := rfl

@[simp] theorem exec_jumpSet : exec input (jumpSet bits jt jf :: rest) 0 acc =
      exec input rest (if acc &&& bits = 0 then jf.toNat else jt.toNat) acc := rfl

@[simp] theorem exec_jump :
    exec input (jump value :: rest) 0 acc = exec input rest value.toNat acc := rfl

@[simp] theorem exec_mask :
    exec input (mask bits :: rest) 0 acc = exec input rest 0 (acc &&& bits) := rfl

@[simp] theorem exec_result : exec input (result action :: rest) 0 acc = some action := rfl

/-! ## Guards and lists of accepted values -/

/-- A value is required, and anything else is answered at once. -/
theorem exec_require : exec input (jumpEqual value 1 0 :: result action :: rest) 0 acc =
      if acc = value then exec input rest 0 acc else some action := by
  by_cases h : acc = value <;> simp [h]

/-- One of two values is required, and anything else is answered at once. -/
theorem exec_requireEither {other : Word} :
    exec input (jumpEqual value 2 0 :: jumpEqual other 1 0 :: result action :: rest) 0 acc =
      if acc = value ∨ acc = other then exec input rest 0 acc else some action := by
  by_cases h : acc = value
  · simp [h]
  · rw [exec_jumpEqual, if_neg h]
    show exec input (jumpEqual other 1 0 :: result action :: rest) 0 acc = _
    rw [exec_require]
    simp only [h, false_or]

/-- Bits are required to be clear, and anything else is answered at once. -/
theorem exec_requireClear : exec input (jumpSet bits 0 1 :: result action :: rest) 0 acc =
      if acc &&& bits = 0 then exec input rest 0 acc else some action := by
  by_cases h : acc &&& bits = 0
  · rw [exec_jumpSet, if_pos h, if_pos h]
    rfl
  · rw [exec_jumpSet, if_neg h, if_neg h]
    rfl

/-- A value is answered at once. -/
theorem exec_answer : exec input (jumpEqual value 0 1 :: result action :: rest) 0 acc =
      if acc = value then some action else exec input rest 0 acc := by
  by_cases h : acc = value <;> simp [h]

/-- Answer every value of a list in the same way. -/
def answerAll (values : List Word) (action : Word) : List Instruction :=
  values.flatMap fun value => [jumpEqual value 0 1, result action]

theorem exec_answerAll (values : List Word) : exec input (answerAll values action ++ rest) 0 acc =
      if acc ∈ values then some action else exec input rest 0 acc := by
  induction values with
  | nil => simp [answerAll]
  | cons value values ih =>
    have hcons : answerAll (value :: values) action =
        jumpEqual value 0 1 :: result action :: answerAll values action := rfl
    rw [hcons, List.cons_append, List.cons_append, exec_answer, ih]
    by_cases h : acc = value <;> simp [h]

theorem length_answerAll (values : List Word) :
    (answerAll values action).length = 2 * values.length := by
  simp [answerAll, List.length_flatMap, Nat.mul_comm]

/-! ## Blocks -/

/-- Enter the checks on one value and skip them on the others. -/
def enterOn (value : Word) (checks : List Instruction) : List Instruction :=
  jumpEqual value 1 0 :: jump (BitVec.ofNat 32 checks.length) :: checks

theorem exec_enterOn {checks : List Instruction} (hlength : checks.length < 2 ^ 32) :
    exec input (enterOn value checks ++ rest) 0 acc =
      if acc = value then exec input (checks ++ rest) 0 acc else exec input rest 0 acc := by
  by_cases h : acc = value
  · simp [enterOn, h]
  · have hskip : (BitVec.ofNat 32 checks.length).toNat = checks.length := by
      rw [BitVec.toNat_ofNat, Nat.mod_eq_of_lt hlength]
    rw [enterOn, List.cons_append, List.cons_append, exec_jumpEqual, if_neg h, if_neg h]
    show exec input (jump (BitVec.ofNat 32 checks.length) :: (checks ++ rest)) 0 acc = _
    rw [exec_jump, hskip]
    exact exec_append_length checks

/-- The checks return a value, whatever comes after them. -/
def Decides (input : Input) (checks : List Instruction) (action : Word) : Prop :=
  ∀ rest acc, exec input (checks ++ rest) 0 acc = some action

/-- Blocks entered on their own value each, with the value loaded again between them. -/
def dispatch (offset : Word) (blocks : List (Word × List Instruction)) : List Instruction :=
  blocks.flatMap fun block => enterOn block.1 block.2 ++ [load offset]

/-- A block of a dispatch, with the value it decides on. -/
structure Block (input : Input) (block : Word × List Instruction)
    (verdict : Word × Word) : Prop where
  value : block.1 = verdict.1
  length : block.2.length < 2 ^ 32
  decides : Decides input block.2 verdict.2

theorem lookup_cons_eq_ite {α : Type*} {word : Word} {verdict : Word × α}
    {verdicts : List (Word × α)} :
    (verdict :: verdicts).lookup word =
      if word = verdict.1 then some verdict.2 else verdicts.lookup word := by
  by_cases h : word = verdict.1
  · rw [if_pos h, List.lookup_cons, beq_iff_eq.2 h]
  · rw [if_neg h, List.lookup_cons, beq_eq_false_iff_ne.2 h]

/-- **A dispatch answers as the first block for the value decides**, and goes on where there is
none. -/
theorem exec_dispatch {blocks : List (Word × List Instruction)} {verdicts : List (Word × Word)}
    (hblocks : List.Forall₂ (Block input) blocks verdicts) (hload : input offset = some acc) :
    exec input (dispatch offset blocks ++ rest) 0 acc =
      match verdicts.lookup acc with
      | some action => some action
      | none => exec input rest 0 acc := by
  induction hblocks with
  | nil => rfl
  | @cons block verdict blocks verdicts hblock _ ih =>
    have hcons : dispatch offset (block :: blocks) ++ rest =
        enterOn block.1 block.2 ++ load offset :: (dispatch offset blocks ++ rest) := by
      simp [dispatch]
    rw [hcons, exec_enterOn hblock.length, exec_load hload, ih, hblock.value, lookup_cons_eq_ite]
    by_cases h : acc = verdict.1
    · rw [if_pos h, if_pos h, hblock.decides]
    · rw [if_neg h, if_neg h]

/-! ## Jumps within a program -/

/-- The instruction stays in the program when `after` instructions follow it. -/
def Instruction.staysWithin (i : Instruction) (after : ℕ) : Bool :=
  match Operation.ofCode i.code with
  | none => false
  | some .result => true
  | some .load | some .mask => decide (0 < after)
  | some .jumpEqual | some .jumpSet => decide (i.jt.toNat < after) && decide (i.jf.toNat < after)
  | some .jump => decide (i.k.toNat < after)

/-- The numbers of instructions an instruction may skip. -/
def Instruction.skips (i : Instruction) : List ℕ :=
  match Operation.ofCode i.code with
  | none | some .result => []
  | some .load | some .mask => [0]
  | some .jumpEqual | some .jumpSet => [i.jt.toNat, i.jf.toNat]
  | some .jump => [i.k.toNat]

theorem staysWithin_iff {after : ℕ} : i.staysWithin after = true ↔
      (Operation.ofCode i.code).isSome ∧ ∀ skip ∈ i.skips, skip < after := by
  unfold staysWithin skips
  cases Operation.ofCode i.code with
  | none => simp
  | some operation => cases operation <;> simp

theorem effect_goto {skip : ℕ} {acc' : Word} (h : i.effect input acc = .goto skip acc') :
    skip ∈ i.skips := by
  unfold effect at h
  unfold skips
  cases hop : Operation.ofCode i.code with
  | none => simp [hop] at h
  | some operation =>
    rw [hop] at h
    cases operation with
    | load => cases hword : input i.k <;> simp_all
    | jumpEqual | jumpSet => split_ifs at h <;> simp_all
    | jump | mask | result => simp_all

/-- An instruction the machine knows fails only at a load. -/
theorem effect_fault (hop : (Operation.ofCode i.code).isSome)
    (h : i.effect input acc = .fault) : Operation.ofCode i.code = some .load ∧
    input i.k = none := by
  obtain ⟨operation, hop⟩ := Option.isSome_iff_exists.1 hop
  unfold effect at h
  rw [hop] at h
  cases operation with
  | load => cases hword : input i.k <;> simp_all
  | jumpEqual | jumpSet | jump | mask | result => simp at h

/-- No instruction leaves the program when `after` instructions follow it. -/
def WithinBounds (after : ℕ) : List Instruction → Prop
  | [] => True
  | i :: rest => i.staysWithin (rest.length + after) = true ∧ WithinBounds after rest

instance decidableWithinBounds (after : ℕ) : ∀ program, Decidable (WithinBounds after program)
  | [] => isTrue trivial
  | i :: rest =>
    have := decidableWithinBounds after rest
    inferInstanceAs (Decidable (i.staysWithin (rest.length + after) = true ∧
      WithinBounds after rest))

/-- Every instruction of a program within its bounds is one the machine runs and skips to an
instruction. -/
theorem withinBounds_iff {after : ℕ} : WithinBounds after program ↔ ∀ pc i, program[pc]? = some i →
      (Operation.ofCode i.code).isSome ∧
      ∀ skip ∈ i.skips, pc + 1 + skip < program.length + after := by
  induction program with
  | nil => simp [WithinBounds]
  | cons i rest ih =>
    rw [WithinBounds, ih, staysWithin_iff, List.length_cons]
    constructor
    · rintro ⟨⟨hop, hskips⟩, hrest⟩ pc j hj
      cases pc with
      | zero =>
        obtain rfl : i = j := Option.some.inj hj
        exact ⟨hop, fun skip hskip => by have := hskips skip hskip; omega⟩
      | succ pc =>
        obtain ⟨hop, hskips⟩ := hrest pc j hj
        exact ⟨hop, fun skip hskip => by have := hskips skip hskip; omega⟩
    · intro h
      refine ⟨⟨(h 0 i rfl).1, fun skip hskip => ?_⟩,
        fun pc j hj => ⟨(h (pc + 1) j hj).1, fun skip hskip => ?_⟩⟩
      · have := (h 0 i rfl).2 skip hskip
        omega
      · have := (h (pc + 1) j hj).2 skip hskip
        omega

/-- **A program within its bounds is followed instruction by instruction.** After `n` steps it is at
an instruction that is `n` further at least, or has returned, or has stopped at a load of a word
that is not there. -/
theorem run_withinBounds (h : WithinBounds 0 program) {pc : ℕ} (hpc : pc < program.length) (n : ℕ) :
    (∃ pc' acc', run program input n (.running pc acc) = .running pc' acc' ∧ pc + n ≤ pc' ∧
        pc' < program.length) ∨
      (∃ a, run program input n (.running pc acc) = .returned a) ∨
      run program input n (.running pc acc) = .fault ∧ ∃ m pc' acc' i,
        run program input m (.running pc acc) = .running pc' acc' ∧ program[pc']? = some i ∧
          Operation.ofCode i.code = some .load ∧ input i.k = none := by
  induction n generalizing pc acc with
  | zero => exact .inl ⟨pc, acc, rfl, le_rfl, hpc⟩
  | succ n ih =>
    have hi := List.getElem?_eq_getElem hpc
    obtain ⟨hop, hskips⟩ := withinBounds_iff.1 h pc _ hi
    have hstep : ∀ m, run program input (m + 1) (.running pc acc) =
        run program input m (step program input pc acc) := fun _ => rfl
    unfold step at hstep
    rw [hi] at hstep
    cases heffect : program[pc].effect input acc with
    | goto skip acc' =>
      simp only [heffect] at hstep
      rw [hstep]
      obtain ⟨pc', acc'', hrun, hle, hlt⟩ | hreturned | ⟨hfault, m, pc', acc'', i, hrun, hrest⟩ :=
        @ih acc' _ (hskips skip (effect_goto heffect))
      · exact .inl ⟨pc', acc'', hrun, by omega, hlt⟩
      · exact .inr (.inl hreturned)
      · exact .inr (.inr ⟨hfault, m + 1, pc', acc'', i, (hstep m).trans hrun, hrest⟩)
    | done a =>
      simp only [heffect] at hstep
      exact .inr (.inl ⟨a, (hstep n).trans (run_returned n a)⟩)
    | fault =>
      simp only [heffect] at hstep
      exact .inr (.inr ⟨(hstep n).trans (run_fault n), 0, pc, acc, _, rfl, hi,
        effect_fault hop heffect⟩)

/-! ## Arguments of two words -/

def low (argument : BitVec 64) : Word := argument.setWidth 32

def high (argument : BitVec 64) : Word := (argument >>> 32).setWidth 32

def widen (word : Word) : BitVec 64 := word.setWidth 64

variable {argument : BitVec 64}

/-- The high word is clear exactly when the argument is its low word. -/
theorem high_eq_zero_iff : high argument = 0 ↔ argument = widen (low argument) := by
  simp only [high, low, widen]
  bv_omega

theorem low_widen (word : Word) : low (widen word) = word := by
  simp [low, widen]

theorem high_widen (word : Word) : high (widen word) = 0 :=
  high_eq_zero_iff.2 (by rw [low_widen])

theorem eq_widen_iff {word : Word} :
    argument = widen word ↔ high argument = 0 ∧ low argument = word := by
  constructor
  · rintro rfl
    exact ⟨high_widen word, low_widen word⟩
  · rintro ⟨hhigh, rfl⟩
    exact high_eq_zero_iff.1 hhigh

theorem widen_inj {v w : Word} : widen v = widen w ↔ v = w := by
  rw [eq_widen_iff, low_widen, high_widen]
  simp

theorem widen_and (v w : Word) : widen v &&& widen w = widen (v &&& w) := by
  simp [widen, BitVec.setWidth_and]

/-- What is left of an argument outside the bits of a word. -/
theorem and_not_widen_eq_widen_iff {bits word : Word} :
    argument &&& ~~~widen bits = widen word ↔ high argument = 0 ∧
      low argument &&& ~~~bits = word := by
  rw [eq_widen_iff]
  have hhigh : high (argument &&& ~~~widen bits) = high argument := by
    ext i hi
    simp [high, widen]
    grind
  have hlow : low (argument &&& ~~~widen bits) = low argument &&& ~~~bits := by
    ext i hi
    simp [low, widen]
  rw [hhigh, hlow]

theorem mem_map_widen_iff {words : List Word} :
    argument ∈ words.map widen ↔ high argument = 0 ∧ low argument ∈ words := by
  rw [List.mem_map]
  constructor
  · rintro ⟨word, hword, rfl⟩
    rw [high_widen, low_widen]
    exact ⟨rfl, hword⟩
  · rintro ⟨hhigh, hlow⟩
    exact ⟨low argument, hlow, (high_eq_zero_iff.1 hhigh).symm⟩

/-- A field of a word has a value and nothing else is set, but for some extra bits. -/
theorem and_field_eq_iff {word field value extra : Word} (hvalue : value &&& field = value)
    (hextra : extra &&& field = 0) :
    (word &&& ~~~(value ||| extra) = 0 ∧ word &&& field = value) ↔ word &&& ~~~extra = value := by
  have bit {v w : Word} : v = w ↔ ∀ i (hi : i < 32), v[i] = w[i] :=
    ⟨fun h => by simp [h], BitVec.eq_of_getElem_eq⟩
  simp only [bit, BitVec.getElem_and, BitVec.getElem_not, BitVec.getElem_or, ← forall₂_and] at *
  refine forall₂_congr fun i hi => ?_
  have hv := hvalue i hi
  have he := hextra i hi
  grind

end MemCordon.Bpf
