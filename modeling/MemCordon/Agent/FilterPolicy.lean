import MemCordon.Agent.NetworkFilter
import MemCordon.Foundations.Fallible
import MemCordon.Foundations.Keyed

/-!
# The policy of the network filter

What the private profile allows, call by call and in terms of the whole 64-bit arguments (`policy`),
and that the compiled program decides exactly so on every architecture, number and argument
(`compiled_eq_policy`).

Each block of checks decides what the policy says of its call (the `decides_` lemmas), the blocks
form one dispatch over the number, and the program around it is run by the rules of
`Foundations/ClassicBpf.lean`.
-/

namespace MemCordon.NetworkFilter

open Bpf Fallible Keyed Libc

/-! ## What a filter reads and answers -/

/-- `seccomp_data`, as the kernel fills it. -/
structure SeccompData where
  nr : Word
  arch : Word
  instructionPointer : BitVec 64
  args : Fin 6 → BitVec 64

/-- The words of the data, at their offsets on a little-endian machine. -/
def SeccompData.input (data : SeccompData) : Input := fun offset =>
  match offset.toNat with
  | 0 => some data.nr
  | 4 => some data.arch
  | 8 => some (low data.instructionPointer)
  | 12 => some (high data.instructionPointer)
  | 16 => some (low (data.args 0))
  | 20 => some (high (data.args 0))
  | 24 => some (low (data.args 1))
  | 28 => some (high (data.args 1))
  | 32 => some (low (data.args 2))
  | 36 => some (high (data.args 2))
  | 40 => some (low (data.args 3))
  | 44 => some (high (data.args 3))
  | 48 => some (low (data.args 4))
  | 52 => some (high (data.args 4))
  | 56 => some (low (data.args 5))
  | 60 => some (high (data.args 5))
  | _ => none

/-- What a filter answers. -/
inductive Action
  | killProcess
  | errno (value : Word)
  | allow
  deriving DecidableEq, Repr

/-- The value the kernel reads an answer from. -/
def Action.code : Action → Word
  | .killProcess => 0x80000000
  | .errno value => 0x00050000 ||| value
  | .allow => 0x7fff0000

/-! ## The policy -/

/-- Allow a call, or refuse it with an error. -/
def permit (p : Prop) [Decidable p] (otherwise : Word) : Action :=
  if p then .allow else .errno otherwise

def Listed (argument : BitVec 64) (values : List Word) : Prop := argument ∈ values.map widen

/-- The argument has no bit but the listed ones. -/
def Within (argument : BitVec 64) (bits : Word) : Prop := argument &&& ~~~widen bits = 0

instance (argument : BitVec 64) (values : List Word) : Decidable (Listed argument values) :=
  inferInstanceAs (Decidable (argument ∈ values.map widen))

instance (argument : BitVec 64) (bits : Word) : Decidable (Within argument bits) :=
  inferInstanceAs (Decidable (_ = _))

/-- A socket is an IPv4 stream, with at most the two descriptor flags added, over TCP. -/
def socketPolicy (args : Fin 6 → BitVec 64) : Action :=
  if args 0 = widen afInet then
    permit (args 1 &&& ~~~widen (sockNonblock ||| sockCloexec) = widen sockStream ∧
      Listed (args 2) [0, ipprotoTcp]) eprotonosupport
  else .errno eafnosupport

/-- The signal a clone announces its exit with. -/
def exitSignal (flags : BitVec 64) : BitVec 64 := flags &&& 0xff

/-- A clone keeps to the listed flags, announces its exit with `SIGCHLD` or not at all, and is a
thread only with shared memory and signal handlers and without an exit signal. -/
def ClonePermitted (flags : BitVec 64) : Prop :=
  Within flags (allowedFlags ||| 0xff) ∧ Listed (exitSignal flags) [0, sigchld] ∧
      (flags &&& widen cloneThread ≠ 0 →
      flags &&& widen requiredThreadFlags = widen requiredThreadFlags ∧ exitSignal flags = 0)

instance (flags : BitVec 64) : Decidable (ClonePermitted flags) :=
  inferInstanceAs (Decidable (_ ∧ _))

/-- The commands that read, and those that set listed bits. -/
def FcntlPermitted (oLargefile : Word) (args : Fin 6 → BitVec 64) : Prop :=
  Listed (args 1) fcntlCommands ∨ (args 1 = widen fSetfd ∧ Within (args 2) fdCloexec) ∨
    (args 1 = widen fSetfl ∧ Within (args 2) (oAccmode ||| oAppend ||| oNonblock ||| oLargefile))

instance (oLargefile : Word) (args : Fin 6 → BitVec 64) :
    Decidable (FcntlPermitted oLargefile args) :=
  inferInstanceAs (Decidable (_ ∨ _))

/-- The options of the socket level and of TCP. -/
def OptionPermitted (read : Bool) (args : Fin 6 → BitVec 64) : Prop :=
  (args 1 = widen solSocket ∧ Listed (args 2) (socketOptions read)) ∨
    (args 1 = widen ipprotoTcp ∧ Listed (args 2) tcpOptions)

instance (read : Bool) (args : Fin 6 → BitVec 64) : Decidable (OptionPermitted read args) :=
  inferInstanceAs (Decidable (_ ∨ _))

/-- The calls with a command, an option or flags in one argument, with what is answered to them. -/
def scalarPolicy (oLargefile : Word) (numbers : Syscalls) (args : Fin 6 → BitVec 64) :
    List (Word × Action) :=
  [(numbers.fcntl, permit (FcntlPermitted oLargefile args) eperm),
    (numbers.ioctl, permit (Listed (args 1) ioctlCommands) eperm),
    (numbers.getsockopt, permit (OptionPermitted true args) eperm),
    (numbers.setsockopt, permit (OptionPermitted false args) eperm),
    (numbers.prctl, permit (Listed (args 0) prctlCommands) eperm),
    (numbers.prlimit64, permit (args 0 = 0) eperm),
    (numbers.accept4, permit (Within (args 3) (sockCloexec ||| sockNonblock)) eperm),
    (numbers.pipe2, permit (Within (args 1) (oCloexec ||| oNonblock)) eperm),
    (numbers.dup3, permit (Within (args 2) oCloexec) eperm),
    (numbers.eventfd2, permit (Within (args 1) (efdCloexec ||| efdNonblock)) eperm),
    (numbers.epollCreate1, permit (Within (args 0) epollCloexec) eperm),
    (numbers.signalfd4, permit (Within (args 3) (sfdCloexec ||| sfdNonblock)) eperm),
    (numbers.timerfdCreate, permit (Within (args 1) (tfdCloexec ||| tfdNonblock)) eperm)]

/-- The calls whose arguments are examined, with what is answered to them. -/
def conditional (oLargefile : Word) (numbers : Syscalls) (args : Fin 6 → BitVec 64) :
    List (Word × Action) :=
  (numbers.clone, permit (ClonePermitted (args 0)) eperm) :: scalarPolicy oLargefile numbers args ++
    (numbers.archPrctl.toList.map fun number =>
      (number, permit (Listed (args 0) archPrctlCommands) eperm)) ++
    [(numbers.socket, socketPolicy args)]

/-- The number of a call of the x32 ABI. -/
def isX32 (nr : Word) : Prop := nr &&& 0x40000000 ≠ 0

instance (nr : Word) : Decidable (isX32 nr) := inferInstanceAs (Decidable (_ ≠ _))

/-- What the private profile answers to a call. -/
def policy (oLargefile : Word) (abi : NativeAbi) (data : SeccompData) : Action :=
  if data.arch ≠ abi.auditArch then .killProcess
  else if abi = .x86_64 ∧ isX32 data.nr then .killProcess
  else if data.nr = abi.syscalls.clone3 then .errno enosys
  else if data.nr = abi.syscalls.socketpair then .errno eperm
  else
    match (conditional oLargefile abi.syscalls data.args).lookup data.nr with
    | some action => action
    | none => permit (data.nr ∈ (unconditionalCatalogue abi).map Prod.snd) eperm

/-! ## The blocks of checks -/

section Blocks

variable {data : SeccompData} {rest : List Instruction} {acc : Word}

/-- The offsets of the two words of an argument. -/
structure Argument (lowOffset highOffset : Word) (i : Fin 6) : Prop where
  low : ∀ data : SeccompData, data.input lowOffset = some (low (data.args i))
  high : ∀ data : SeccompData, data.input highOffset = some (high (data.args i))

theorem arg0 : Argument arg0Low arg0High 0 := ⟨fun _ => rfl, fun _ => rfl⟩
theorem arg1 : Argument arg1Low arg1High 1 := ⟨fun _ => rfl, fun _ => rfl⟩
theorem arg2 : Argument arg2Low arg2High 2 := ⟨fun _ => rfl, fun _ => rfl⟩
theorem arg3 : Argument arg3Low arg3High 3 := ⟨fun _ => rfl, fun _ => rfl⟩

/-- The high word of an argument is required to be clear. -/
theorem exec_requireNarrow {lowOffset highOffset denied : Word} {i : Fin 6}
    (hi : Argument lowOffset highOffset i) :
    exec data.input (load highOffset :: jumpEqual 0 1 0 :: returnAction denied :: rest) 0 acc =
      if high (data.args i) = 0 then exec data.input rest 0 (high (data.args i)) else
        some denied := by
  show exec data.input (Instruction.load highOffset :: Instruction.jumpEqual 0 1 0 ::
    Instruction.result denied :: rest) 0 acc = _
  rw [exec_load (hi.high data), exec_require]

variable {lowOffset highOffset : Word}

theorem exec_loadLow {i : Fin 6} (hi : Argument lowOffset highOffset i) :
    exec data.input (load lowOffset :: rest) 0 acc = exec data.input rest 0 (low (data.args i)) :=
  exec_load (hi.low data)

theorem exec_requireValue {value denied : Word} :
    exec data.input (jumpEqual value 1 0 :: returnAction denied :: rest) 0 acc =
      if acc = value then exec data.input rest 0 acc else some denied :=
  exec_require

theorem exec_requireEitherValue {value other denied : Word} :
    exec data.input (jumpEqual value 2 0 :: jumpEqual other 1 0 :: returnAction denied ::
      rest) 0 acc = if acc = value ∨ acc = other then exec data.input rest 0 acc else some denied :=
  exec_requireEither

theorem exec_keep {bits : Word} :
    exec data.input (instruction bpfAluAndK 0 0 bits :: rest) 0 acc =
      exec data.input rest 0 (acc &&& bits) :=
  exec_mask

theorem exec_requireWithin {bits denied : Word} :
    exec data.input (instruction bpfJmpJsetK 0 1 bits :: returnAction denied :: rest) 0 acc =
      if acc &&& bits = 0 then exec data.input rest 0 acc else some denied :=
  exec_requireClear

theorem exec_return {value : Word} :
    exec data.input (returnAction value :: rest) 0 acc = some value :=
  exec_result

theorem exec_allowEach (values : List Word) : exec data.input (allowEach values ++ rest) 0 acc =
      if acc ∈ values then some seccompRetAllow else exec data.input rest 0 acc :=
  exec_answerAll values

/-- A list of accepted values, and an error for the others. -/
theorem exec_listed (values : List Word) {denied : Word} :
    exec data.input (allowEach values ++ returnAction denied :: rest) 0 acc =
      some (if acc ∈ values then seccompRetAllow else denied) := by
  rw [exec_allowEach, exec_return]
  split_ifs <;> rfl

theorem flatMap_rule (blocks : List (Word × List Instruction)) (reload : Word) :
    (blocks.flatMap fun block => rule block.1 block.2 reload) = dispatch reload blocks := rfl

theorem within_iff {argument : BitVec 64} {bits : Word} :
    Within argument bits ↔ high argument = 0 ∧ low argument &&& ~~~bits = 0 := by
  have hzero : (0 : BitVec 64) = widen 0 := rfl
  unfold Within
  rw [hzero, and_not_widen_eq_widen_iff]

theorem listed_iff {argument : BitVec 64} {values : List Word} :
    Listed argument values ↔ high argument = 0 ∧ low argument ∈ values := mem_map_widen_iff

theorem permit_code {p : Prop} [Decidable p] {e : Word} :
    (permit p e).code = if p then seccompRetAllow else errno e := by
  unfold permit
  split_ifs <;> rfl

theorem length_scalarFlagsChecks {lowOffset highOffset bits : Word} :
    (scalarFlagsChecks lowOffset highOffset bits).length < 2 ^ 32 :=
  show 7 < 2 ^ 32 by decide

theorem decides_scalarFlagsChecks {i : Fin 6} (hi : Argument lowOffset highOffset i) (bits : Word) :
    Decides data.input (scalarFlagsChecks lowOffset highOffset bits)
      (permit (Within (data.args i) bits) eperm).code := by
  intro rest acc
  rw [permit_code]
  simp only [scalarFlagsChecks, List.cons_append, List.nil_append, exec_requireNarrow hi,
    exec_loadLow hi, exec_requireWithin, exec_return, within_iff]
  split_ifs <;> simp_all

theorem decides_firstArgumentZeroChecks :
    Decides data.input firstArgumentZeroChecks (permit (data.args 0 = 0) eperm).code := by
  intro rest acc
  have hzero : data.args 0 = 0 ↔ high (data.args 0) = 0 ∧ low (data.args 0) = 0 :=
    @eq_widen_iff (data.args 0) 0
  rw [permit_code]
  simp only [firstArgumentZeroChecks, List.cons_append, List.nil_append, exec_requireNarrow arg0,
    exec_loadLow arg0, exec_requireValue, exec_return, hzero]
  split_ifs <;> simp_all

/-- A command read from an argument, among the listed ones. -/
theorem decides_commandChecks {i : Fin 6} (hi : Argument lowOffset highOffset i)
    (commands : List Word) :
    Decides data.input ([load highOffset, jumpEqual 0 1 0, returnAction (errno eperm),
      load lowOffset] ++ allowEach commands ++ [returnAction (errno eperm)])
      (permit (Listed (data.args i) commands) eperm).code := by
  intro rest acc
  rw [permit_code, List.append_assoc, List.append_assoc]
  simp only [List.cons_append, List.nil_append, exec_requireNarrow hi, exec_loadLow hi, listed_iff,
    exec_listed]
  split_ifs <;> simp_all

theorem decides_fcntlChecks (oLargefile : Word) : Decides data.input (fcntlChecks oLargefile)
      (permit (FcntlPermitted oLargefile data.args) eperm).code := by
  intro rest acc
  -- the two commands with an argument form a dispatch over the command
  let blocks := (fcntlArgumentCommands oLargefile).map fun command =>
    (command.1, scalarFlagsChecks arg2Low arg2High command.2)
  let verdicts := (fcntlArgumentCommands oLargefile).map fun command =>
    (command.1, (permit (Within (data.args 2) command.2) eperm).code)
  have hblocks : List.Forall₂ (Block data.input) blocks verdicts :=
    .cons ⟨rfl, length_scalarFlagsChecks, decides_scalarFlagsChecks arg2 _⟩
      (.cons ⟨rfl, length_scalarFlagsChecks, decides_scalarFlagsChecks arg2 _⟩ .nil)
  have hflat : ((fcntlArgumentCommands oLargefile).flatMap fun command =>
      rule command.1 (scalarFlagsChecks arg2Low arg2High command.2) arg1Low) =
      dispatch arg1Low blocks := rfl
  rw [permit_code]
  simp only [fcntlChecks, hflat, List.append_assoc, List.cons_append, List.nil_append,
    exec_requireNarrow arg1, exec_loadLow arg1, exec_allowEach]
  rw [exec_dispatch hblocks (arg1.low data), exec_return]
  simp only [FcntlPermitted, listed_iff, eq_widen_iff, verdicts, fcntlArgumentCommands,
    List.map_cons, List.map_nil, lookup_cons_eq_ite, List.lookup_nil, permit_code]
  by_cases hhigh : high (data.args 1) = 0
  · have hne : fSetfd ≠ fSetfl := by decide
    generalize low (data.args 1) = command
    simp only [hhigh, if_true, true_and]
    split_ifs <;> simp_all
  · simp only [hhigh, if_false, false_and, or_false]

/-- An option among the listed ones, under its level. -/
theorem decides_optionChecks (options : List Word) :
    Decides data.input (load arg2Low :: (allowEach options ++ [returnAction (errno eperm)]))
      (if low (data.args 2) ∈ options then seccompRetAllow else errno eperm) := by
  intro rest acc
  rw [List.cons_append, exec_loadLow arg2, List.append_assoc]
  exact exec_listed options

theorem length_optionChecks {options : List Word} (h : options.length ≤ 64) :
    (load arg2Low :: (allowEach options ++ [returnAction (errno eperm)])).length < 2 ^ 32 := by
  have hlength : (allowEach options).length = 2 * options.length := length_answerAll options
  simp only [List.length_cons, List.length_append, hlength, List.length_nil]
  omega

theorem decides_socketOptionChecks (read : Bool) :
    Decides data.input (socketOptionChecks read)
      (permit (OptionPermitted read data.args) eperm).code := by
  intro rest acc
  -- the two levels form a dispatch over the level
  let levels := [(solSocket, socketOptions read), (ipprotoTcp, tcpOptions)]
  let blocks := levels.map fun level =>
    (level.1, load arg2Low :: (allowEach level.2 ++ [returnAction (errno eperm)]))
  let verdicts := levels.map fun level =>
    (level.1, if low (data.args 2) ∈ level.2 then seccompRetAllow else errno eperm)
  have hsocket : (socketOptions read).length ≤ 64 := by cases read <;> decide
  have hblocks : List.Forall₂ (Block data.input) blocks verdicts :=
    .cons ⟨rfl, length_optionChecks hsocket, decides_optionChecks _⟩
      (.cons ⟨rfl, length_optionChecks (by decide), decides_optionChecks _⟩ .nil)
  have hflat : (levels.flatMap fun level =>
      rule level.1 (load arg2Low :: (allowEach level.2 ++ [returnAction (errno eperm)])) arg1Low) =
      dispatch arg1Low blocks := rfl
  rw [permit_code]
  simp only [socketOptionChecks]
  rw [hflat]
  simp only [List.append_assoc, List.cons_append, List.nil_append, exec_requireNarrow arg1,
    exec_requireNarrow arg2, exec_loadLow arg1]
  rw [exec_dispatch hblocks (arg1.low data), exec_return]
  simp only [OptionPermitted, listed_iff, eq_widen_iff, verdicts, levels, List.map_cons,
    List.map_nil, lookup_cons_eq_ite, List.lookup_nil]
  by_cases hhigh : high (data.args 1) = 0
  · have hne : solSocket ≠ ipprotoTcp := by decide
    generalize low (data.args 1) = level
    simp only [hhigh, if_true, true_and]
    by_cases hhigh' : high (data.args 2) = 0
    · simp only [hhigh', if_true, true_and]
      split_ifs <;> simp_all
    · simp only [hhigh', if_false, false_and, and_false, or_false]
  · simp only [hhigh, if_false, false_and, or_false]

theorem decides_socketChecks : Decides data.input socketChecks (socketPolicy data.args).code := by
  intro rest acc
  -- the two tests of the type are one: the kind is a stream and only the descriptor flags are added
  have hkind : (data.args 1 &&& ~~~widen (sockNonblock ||| sockCloexec) = widen sockStream) ↔
      high (data.args 1) = 0 ∧
        low (data.args 1) &&& ~~~(sockStream ||| sockNonblock ||| sockCloexec) = 0 ∧
        low (data.args 1) &&& 0xf = sockStream := by
    rw [and_not_widen_eq_widen_iff, BitVec.or_assoc, and_field_eq_iff (by decide) (by decide)]
  simp only [socketChecks, List.cons_append, List.nil_append, exec_requireNarrow arg0,
    exec_loadLow arg0,
    exec_requireNarrow arg1, exec_loadLow arg1, exec_requireNarrow arg2, exec_loadLow arg2,
    exec_requireValue, exec_requireWithin, exec_keep, exec_requireEitherValue, exec_return]
  unfold socketPolicy
  rw [apply_ite Action.code, permit_code]
  simp only [hkind, eq_widen_iff, listed_iff, List.mem_pair]
  split_ifs <;> first | rfl | simp_all

/-- The flags of a clone whose high word is clear, word by word. -/
theorem clonePermitted_widen (flags : Word) :
    ClonePermitted (widen flags) ↔ flags &&& ~~~(allowedFlags ||| 0xff) = 0 ∧
      (flags &&& 0xff = 0 ∨ flags &&& 0xff = sigchld) ∧
      (flags &&& cloneThread ≠ 0 → flags &&& requiredThreadFlags = requiredThreadFlags ∧
        flags &&& 0xff = 0) := by
  have hzero : (0 : BitVec 64) = widen 0 := rfl
  have hbyte : (0xff : BitVec 64) = widen 0xff := rfl
  unfold ClonePermitted exitSignal
  rw [within_iff, high_widen, low_widen, hbyte, widen_and, widen_and, widen_and, listed_iff,
    high_widen, low_widen, List.mem_pair, hzero, ne_eq, widen_inj, widen_inj, widen_inj]
  simp only [true_and]

/-- The end of the checks of a clone: without a thread the jump lands on the last instruction. -/
theorem exec_threadChecks :
    exec data.input (instruction bpfJmpJsetK 0 8 cloneThread :: load arg0Low ::
      instruction bpfAluAndK 0 0 requiredThreadFlags :: jumpEqual requiredThreadFlags 1 0 ::
      returnAction (errno eperm) :: load arg0Low :: instruction bpfAluAndK 0 0 0xff ::
        jumpEqual 0 1 0 ::
      returnAction (errno eperm) :: returnAction seccompRetAllow :: rest) 0 (low (data.args 0)) =
      some (if low (data.args 0) &&& cloneThread ≠ 0 →
          low (data.args 0) &&& requiredThreadFlags = requiredThreadFlags ∧
        low (data.args 0) &&& 0xff = 0 then seccompRetAllow else errno eperm) := by
  refine exec_jumpSet.trans ?_
  by_cases hthread : low (data.args 0) &&& cloneThread = 0
  · rw [if_pos hthread, if_pos fun h => absurd hthread h]
    rfl
  · rw [if_neg hthread]
    show exec data.input (load arg0Low :: _) 0 _ = _
    simp only [exec_loadLow arg0, exec_keep, exec_requireValue, exec_return]
    split_ifs <;> simp_all

theorem decides_cloneChecks :
    Decides data.input cloneChecks (permit (ClonePermitted (data.args 0)) eperm).code := by
  intro rest acc
  rw [permit_code]
  by_cases hhigh : high (data.args 0) = 0
  · have hiff := clonePermitted_widen (low (data.args 0))
    rw [← high_eq_zero_iff.1 hhigh] at hiff
    simp only [cloneChecks, List.cons_append, List.nil_append, exec_requireNarrow arg0,
      exec_loadLow arg0,
      exec_requireWithin, exec_keep, exec_requireEitherValue, hhigh, if_true, hiff]
    rw [exec_threadChecks]
    split_ifs <;> simp_all
  · have hdenied : ¬ClonePermitted (data.args 0) := by
      intro h
      exact hhigh (within_iff.1 h.1).1
    simp only [cloneChecks, List.cons_append, exec_requireNarrow arg0, if_neg hhigh, if_neg hdenied]

end Blocks

/-! ## The program -/

section Program

variable {data : SeccompData} {rest : List Instruction} {acc : Word} {oLargefile : Word}
  {abi : NativeAbi}

/-- The rules of the program, in its order. -/
def ruleBlocks (oLargefile : Word) (numbers : Syscalls) : List (Word × List Instruction) :=
  (numbers.clone, cloneChecks) :: scalarRules oLargefile numbers ++
    (numbers.archPrctl.toList.map fun number => (number, archPrctlChecks)) ++
    [(numbers.socket, socketChecks)]

/-- Kill the calls of the x32 ABI, where there is one. -/
def x32Checks (abi : NativeAbi) : List Instruction :=
  if abi = .x86_64 then
    [instruction bpfJmpJsetK 0 1 0x40000000, returnAction seccompRetKillProcess] else []

/-- The program: the architecture, the two calls that are never made, one dispatch over the calls
whose arguments are examined, the catalogue, and the refusal of the rest. -/
theorem initialClosedProgram_eq : initialClosedProgram oLargefile abi =
      [load archOffset, jumpEqual abi.auditArch 1 0, returnAction seccompRetKillProcess,
        load nrOffset] ++
        (x32Checks abi ++ ([jumpEqual abi.syscalls.clone3 0 1, returnAction (errno enosys),
            jumpEqual abi.syscalls.socketpair 0 1, returnAction (errno eperm)] ++
            (dispatch nrOffset (ruleBlocks oLargefile abi.syscalls) ++
              (allowEach ((unconditionalCatalogue abi).map Prod.snd) ++
                [returnAction (errno eperm)])))) := by
  have hcatalogue : ((unconditionalCatalogue abi).flatMap fun entry =>
      [jumpEqual entry.2 0 1, returnAction seccompRetAllow]) =
      allowEach ((unconditionalCatalogue abi).map Prod.snd) := by
    simp [allowEach, List.flatMap_map]
  have hrules : dispatch nrOffset (ruleBlocks oLargefile abi.syscalls) =
      rule abi.syscalls.clone cloneChecks nrOffset ++
        (((scalarRules oLargefile abi.syscalls).flatMap fun entry =>
          rule entry.1 entry.2 nrOffset) ++
          (abi.syscalls.archPrctl.elim [] (rule · archPrctlChecks nrOffset) ++
            rule abi.syscalls.socket socketChecks nrOffset)) := by
    rw [← flatMap_rule, ruleBlocks]
    cases abi.syscalls.archPrctl <;> simp
  rw [hrules, ← hcatalogue]
  simp only [initialClosedProgram, x32Checks, List.append_assoc]
  cases abi <;> rfl

theorem length_fcntlChecks : (fcntlChecks oLargefile).length < 2 ^ 32 :=
  show 47 < 2 ^ 32 by decide

/-- A rule that decides as an answer says. -/
theorem block_of {number : Word} {checks : List Instruction} {answer : Action}
    (hlength : checks.length < 2 ^ 32) (hdecides : Decides data.input checks answer.code) :
    Block data.input (number, checks) (number, answer.code) :=
  ⟨rfl, hlength, hdecides⟩

/-- Every scalar rule decides as the policy says of its call. -/
theorem forall_scalarRule (oLargefile : Word) (numbers : Syscalls) :
    List.Forall₂ (Block data.input) (scalarRules oLargefile numbers)
      ((scalarPolicy oLargefile numbers data.args).map fun verdict =>
        (verdict.1, verdict.2.code)) := by
  have flags :
      ∀ {number lowOffset highOffset bits : Word} {i : Fin 6}, Argument lowOffset highOffset i →
      Block data.input (number, scalarFlagsChecks lowOffset highOffset bits)
        (number, (permit (Within (data.args i) bits) eperm).code) :=
    fun hi => block_of length_scalarFlagsChecks (decides_scalarFlagsChecks hi _)
  exact .cons (block_of length_fcntlChecks (decides_fcntlChecks oLargefile)) <|
    .cons (block_of (by decide) (decides_commandChecks arg1 ioctlCommands)) <|
    .cons (block_of (by decide) (decides_socketOptionChecks true)) <|
    .cons (block_of (by decide) (decides_socketOptionChecks false)) <|
    .cons (block_of (by decide) (decides_commandChecks arg0 prctlCommands)) <|
    .cons (block_of (by decide) decides_firstArgumentZeroChecks) <|
    .cons (flags arg3) <| .cons (flags arg1) <| .cons (flags arg2) <| .cons (flags arg1) <|
    .cons (flags arg0) <| .cons (flags arg3) <| .cons (flags arg1) .nil

/-- Every rule decides as the policy says of its call. -/
theorem forall_block (numbers : Syscalls) :
    List.Forall₂ (Block data.input) (ruleBlocks oLargefile numbers)
      ((conditional oLargefile numbers data.args).map fun verdict =>
        (verdict.1, verdict.2.code)) := by
  have hclone : Block data.input (numbers.clone, cloneChecks)
      (numbers.clone, (permit (ClonePermitted (data.args 0)) eperm).code) :=
    block_of (by decide) decides_cloneChecks
  have harch : List.Forall₂ (Block data.input)
      (numbers.archPrctl.toList.map fun number => (number, archPrctlChecks))
      (numbers.archPrctl.toList.map fun number =>
        (number, (permit (Listed (data.args 0) archPrctlCommands) eperm).code)) := by
    cases numbers.archPrctl with
    | none => exact .nil
    | some number =>
      exact .cons (block_of (by decide) (decides_commandChecks arg0 archPrctlCommands)) .nil
  have hsocket : List.Forall₂ (Block data.input) [(numbers.socket, socketChecks)]
      [(numbers.socket, (socketPolicy data.args).code)] :=
    .cons (block_of (by decide) decides_socketChecks) .nil
  have hall :=
    List.rel_append (List.rel_append (.cons hclone (forall_scalarRule oLargefile numbers)) harch)
      hsocket
  simpa [ruleBlocks, conditional, Function.comp_def] using hall

theorem lookup_map_code {verdicts : List (Word × Action)} :
    (verdicts.map fun verdict => (verdict.1, verdict.2.code)).lookup acc =
    (verdicts.lookup acc).map Action.code := by
  induction verdicts with
  | nil => rfl
  | cons verdict verdicts ih =>
    rw [List.map_cons, lookup_cons_eq_ite, lookup_cons_eq_ite, ih]
    split_ifs <;> rfl

theorem exec_x32Checks : exec data.input (x32Checks abi ++ rest) 0 acc =
      if abi = .x86_64 ∧ isX32 acc then some seccompRetKillProcess else
        exec data.input rest 0 acc := by
  unfold x32Checks isX32
  cases abi with
  | x86_64 =>
    rw [if_pos rfl, List.cons_append, List.cons_append, List.nil_append, exec_requireWithin]
    by_cases h : acc &&& 0x40000000 = 0
    · rw [if_pos h, if_neg fun hx => hx.2 h]
    · rw [if_neg h, if_pos ⟨rfl, h⟩]
  | aarch64 => simp

/-- The program decides as the policy says, on every input. -/
theorem exec_initialClosedProgram : exec data.input (initialClosedProgram oLargefile abi) 0 0 =
      some (policy oLargefile abi data).code := by
  have harch : data.input archOffset = some data.arch := rfl
  have hnr : data.input nrOffset = some data.nr := rfl
  have hanswer : ∀ {value action : Word} {tail : List Instruction}, exec data.input
      (jumpEqual value 0 1 :: returnAction action :: tail) 0 data.nr =
      if data.nr = value then some action else exec data.input tail 0 data.nr := exec_answer
  have hload : ∀ {offset word acc : Word} {tail : List Instruction}, data.input offset = some word →
      exec data.input (load offset :: tail) 0 acc = exec data.input tail 0 word := exec_load
  rw [initialClosedProgram_eq, List.cons_append, hload harch, List.cons_append, List.cons_append,
    exec_requireValue, List.cons_append, List.nil_append, hload hnr, exec_x32Checks,
    List.cons_append,
    List.cons_append, hanswer, List.cons_append, List.cons_append, List.nil_append, hanswer,
    exec_dispatch (forall_block abi.syscalls) hnr, lookup_map_code]
  unfold policy
  by_cases hnative : data.arch = abi.auditArch
  · rw [if_pos hnative, if_neg (not_not.2 hnative)]
    split_ifs with hx32 hclone3 hpair
    · rfl
    · rfl
    · rfl
    · cases (conditional oLargefile abi.syscalls data.args).lookup data.nr with
      | some answer => rfl
      | none =>
        show exec data.input (allowEach _ ++ [returnAction (errno eperm)]) 0 data.nr = _
        rw [exec_listed, permit_code]
  · rw [if_neg hnative, if_pos hnative]
    rfl

/-! ### The validation -/

theorem checkTarget_eq_ok {length position delta : ℕ} :
    checkTarget length position delta = .ok () ↔ position + 1 + delta < length := by
  simp [checkTarget]

/-- An instruction passes its checks where the machine runs it and every jump of it stays in the
program. -/
theorem validateInstruction_eq_ok {i : Instruction} {length position : ℕ} :
    validateInstruction length i position = .ok () ↔
      (Operation.ofCode i.code).isSome ∧ ∀ skip ∈ i.skips, position + 1 + skip < length := by
  unfold validateInstruction Instruction.skips Operation.ofCode bpfRetK bpfLdWAbs bpfAluAndK
    bpfJmpJeqK bpfJmpJsetK bpfJmpJa
  by_cases hret : i.code = 0x06
  · simp [hret]
  by_cases hnext : i.code = 0x20 ∨ i.code = 0x54
  · rcases hnext with hcode | hcode <;> simp [hcode, checkTarget_eq_ok]
  by_cases htest : i.code = 0x15 ∨ i.code = 0x45
  · rcases htest with hcode | hcode <;> simp [hcode, unit_bind_eq_ok, checkTarget_eq_ok]
  by_cases hjump : i.code = 0x05
  · simp [hjump, checkTarget_eq_ok]
  · simp_all

/-- **The validation accepts the programs of a valid length that stay within their bounds.** -/
theorem validateProgram_eq_ok {program : List Instruction} : validateProgram program = .ok () ↔
      (program ≠ [] ∧ program.length ≤ kernelFilterInstructionLimit) ∧ WithinBounds 0 program := by
  unfold validateProgram
  rw [ite_error_eq_ok, not_or, Nat.not_lt, forM_zipIdx_eq_ok, withinBounds_iff]
  simp only [validateInstruction_eq_ok, Nat.zero_add, Nat.add_zero]

set_option maxRecDepth 20000 in
theorem withinBounds_initialClosedProgram :
    WithinBounds 0 (initialClosedProgram oLargefile abi) := by
  cases abi with
  | x86_64 | aarch64 => exact of_decide_eq_true (Eq.refl true)

set_option maxRecDepth 20000 in
theorem length_initialClosedProgram :
    (initialClosedProgram oLargefile abi).length ≤ kernelFilterInstructionLimit := by
  cases abi with
  | x86_64 | aarch64 => exact Nat.le_of_ble_eq_true rfl

/-- The program of the compiler passes its validation. -/
theorem validateProgram_initialClosedProgram :
    validateProgram (initialClosedProgram oLargefile abi) = .ok () := by
  have hne : initialClosedProgram oLargefile abi ≠ [] := by
    rw [initialClosedProgram_eq]
    simp
  exact validateProgram_eq_ok.2
    ⟨⟨hne, length_initialClosedProgram⟩, withinBounds_initialClosedProgram⟩

/-- **The compiler returns its program.** -/
theorem compileInitialClosedFilter_eq :
    compileInitialClosedFilter oLargefile abi = some (initialClosedProgram oLargefile abi) := by
  unfold compileInitialClosedFilter
  rw [validateProgram_initialClosedProgram]

/-! ### The catalogue -/

/-- The catalogue lists no x32 call, and none that is never made or whose arguments are examined. -/
theorem catalogue_disjoint (oLargefile : Word) {number : Word}
    (h : number ∈ (unconditionalCatalogue abi).map Prod.snd) :
    ¬isX32 number ∧ number ∉ [abi.syscalls.clone3, abi.syscalls.socketpair] ∧
      number ∉ (ruleBlocks oLargefile abi.syscalls).map Prod.fst := by
  have hall : ((unconditionalCatalogue abi).all fun entry => entry.2 &&& 0x40000000 == 0 &&
      !([abi.syscalls.clone3, abi.syscalls.socketpair] ++
        (ruleBlocks 0 abi.syscalls).map Prod.fst).contains entry.2) = true := by
    cases abi <;> decide +kernel
  have hsame :
    (ruleBlocks 0 abi.syscalls).map Prod.fst = (ruleBlocks oLargefile abi.syscalls).map Prod.fst :=
      rfl
  obtain ⟨entry, hentry, rfl⟩ := List.mem_map.1 h
  have hcheck := List.all_eq_true.1 hall entry hentry
  rw [hsame] at hcheck
  simp only [Bool.and_eq_true, beq_iff_eq, Bool.not_eq_true', List.contains_eq_mem,
    decide_eq_false_iff_not, List.mem_append, not_or] at hcheck
  exact ⟨fun hx => hx hcheck.1, hcheck.2⟩

theorem policy_catalogue (harch : data.arch = abi.auditArch)
    (h : data.nr ∈ (unconditionalCatalogue abi).map Prod.snd) :
    policy oLargefile abi data = .allow := by
  obtain ⟨hx32, hnever, hrules⟩ := catalogue_disjoint oLargefile h
  simp only [List.mem_cons, List.not_mem_nil, or_false, not_or] at hnever
  have hnumbers : (conditional oLargefile abi.syscalls data.args).map Prod.fst =
      (ruleBlocks oLargefile abi.syscalls).map Prod.fst := by
    cases abi <;> rfl
  have hnone : (conditional oLargefile abi.syscalls data.args).lookup data.nr = none := by
    rw [List.lookup_eq_none_iff]
    intro verdict hverdict
    have hne : data.nr ≠ verdict.1 := by
      rintro hnr
      rw [hnr, ← hnumbers] at hrules
      exact hrules (List.mem_map_of_mem hverdict)
    simpa using hne
  unfold policy
  rw [if_neg (not_not.2 harch), if_neg fun hx => hx32 hx.2, if_neg hnever.1, if_neg hnever.2, hnone]
  exact if_pos h

/-- **The compiled filter is the policy.** For both targets the compiler returns a program, on every
architecture, number and argument the program answers what the policy says, and a call of the
catalogue is allowed whatever its arguments are. -/
theorem compiled_eq_policy (oLargefile : Word) (abi : NativeAbi) :
    ∃ program, compileInitialClosedFilter oLargefile abi = some program ∧ ∀ data : SeccompData,
        Bpf.action program data.input = some (policy oLargefile abi data).code ∧
          (data.arch = abi.auditArch → data.nr ∈ (unconditionalCatalogue abi).map Prod.snd →
            policy oLargefile abi data = .allow) := by
  refine ⟨initialClosedProgram oLargefile abi, compileInitialClosedFilter_eq, fun data => ⟨?_, ?_⟩⟩
  · rw [action_eq_exec, exec_initialClosedProgram]
  · exact policy_catalogue

/-- **The control flow of the validated programs.** A program the validation accepts stays at its
own instructions on every input, and returns within as many steps as it has instructions unless it
comes to a load at an offset with no word. A program of accepted operations that is refused is empty
or too long, or has an instruction that leaves it. -/
theorem validateProgram_controlFlow (program : List Instruction) :
    (validateProgram program = .ok () → ∀ data : SeccompData,
      (∀ n pc acc, run program data.input n (.running 0 0) = .running pc acc →
      pc < program.length) ∧
      ((∃ a, run program data.input program.length (.running 0 0) = .returned a) ∨
        ∃ n pc acc i, run program data.input n (.running 0 0) = .running pc acc ∧
          program[pc]? = some i ∧ Operation.ofCode i.code = some .load ∧ data.input i.k = none)) ∧
    (validateProgram program ≠ .ok () → program ≠ [] →
      program.length ≤ kernelFilterInstructionLimit →
      (∀ i ∈ program, (Operation.ofCode i.code).isSome) →
      ∃ pc i, program[pc]? = some i ∧ ∃ skip ∈ i.skips, program.length ≤ pc + 1 + skip) := by
  rw [Ne, validateProgram_eq_ok]
  constructor
  · rintro ⟨⟨hne, -⟩, hbounds⟩ data
    have hrun :=
      fun n => @run_withinBounds data.input program 0 hbounds 0 (List.length_pos_iff.2 hne) n
    refine ⟨fun n pc acc hpc => ?_, ?_⟩
    · obtain ⟨pc', acc', hn, -, hlt⟩ | ⟨a, hn⟩ | ⟨hn, -⟩ := hrun n
      · cases hn.symm.trans hpc
        exact hlt
      · cases hn.symm.trans hpc
      · cases hn.symm.trans hpc
    · obtain ⟨pc, acc, -, hle, hlt⟩ | hreturned | ⟨-, hload⟩ := hrun program.length
      · omega
      · exact .inl hreturned
      · exact .inr hload
  · intro hrefused hne hlength hops
    have hbounds : ¬WithinBounds 0 program := fun h => hrefused ⟨⟨hne, hlength⟩, h⟩
    rw [withinBounds_iff] at hbounds
    push Not at hbounds
    obtain ⟨pc, i, hi, hskip⟩ := hbounds
    exact ⟨pc, i, hi, hskip (hops i (List.mem_of_getElem? hi))⟩

/-- A program with a jump that is accepted and returns, the whole filter, which never leaves its
instructions, and a program with a jump behind its end. -/
theorem validateProgram_controlFlow_jumps :
    (∃ a, run [load 0, jumpEqual 42 0 1, returnAction 7, returnAction 8]
      (SeccompData.input ⟨0, 0, 0, fun _ => 0⟩) 4 (.running 0 0) = .returned a) ∧
      (∀ n pc acc, run (initialClosedProgram 0 .x86_64) (SeccompData.input ⟨0, 0, 0, fun _ => 0⟩) n
        (.running 0 0) = .running pc acc → pc < (initialClosedProgram 0 .x86_64).length) ∧
      ∃ pc i, [load 0, jumpEqual 42 0 1, returnAction 7][pc]? = some i ∧
        ∃ skip ∈ i.skips, 3 ≤ pc + 1 + skip := by
  refine ⟨?_, ?_, ?_⟩
  · have haccepted := (validateProgram_controlFlow
      [load 0, jumpEqual 42 0 1, returnAction 7, returnAction 8]).1 (by decide) ⟨0, 0, 0,
      fun _ => 0⟩
    refine haccepted.2.resolve_right ?_
    rintro ⟨n, pc, acc, i, -, hi, hload, hnone⟩
    have hmem := List.mem_of_getElem? hi
    simp only [List.mem_cons, List.not_mem_nil, or_false] at hmem
    rcases hmem with rfl | rfl | rfl | rfl
    · cases hnone
    all_goals cases hload
  · exact ((validateProgram_controlFlow _).1 validateProgram_initialClosedProgram _).1
  · exact (validateProgram_controlFlow [load 0, jumpEqual 42 0 1, returnAction 7]).2 (by decide)
      (by decide) (by decide) (by decide)

/-- A load behind the end of the data is accepted, and the program stops there without an answer.
The empty program is refused and has no instruction that leaves it. -/
theorem accepted_load_faults :
    validateProgram [load 64, returnAction seccompRetAllow] = .ok () ∧
      (∀ data : SeccompData, run [load 64, returnAction seccompRetAllow] data.input 2
      (.running 0 0) = .fault) ∧ validateProgram [] ≠ .ok () :=
  ⟨by decide, fun _ => rfl, by decide⟩

end Program

end MemCordon.NetworkFilter
