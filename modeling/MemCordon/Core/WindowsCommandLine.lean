import Mathlib.Data.List.Basic

/-!
# Windows command lines

`encode_windows_command_line` and `decode_windows_command_line` of `windows_sealed.rs`, and
`encode_command_line` of `windows_job.rs`. Both encoders quote an argument that is empty or has a
blank or a quote in it; inside quotes a run of backslashes is doubled before a quote and at the end,
and nowhere else. The decoder reads every line that they write back to its arguments
(`decode_encode`): what one turn of the encoder has written, the decoder reads with the backslashes
that the encoder has held back (`scanArgument_quoteUnits`).
-/

namespace MemCordon.WindowsCommandLine

def space : UInt16 := 32
def backslash : UInt16 := 92
def quote : UInt16 := 34

def isBlank (unit : UInt16) : Bool := unit == space || unit == 9

/-! ## Encoders -/

/-- The loop over the units of a quoted argument, with the number of backslashes held back; it ends
with them doubled. -/
def quoteUnits : ℕ → List UInt16 → List UInt16
  | backslashes, [] => List.replicate (backslashes * 2) backslash
  | backslashes, value :: argument =>
    if value = backslash then quoteUnits (backslashes + 1) argument
    else if value = quote then
      List.replicate (backslashes * 2 + 1) backslash ++ value :: quoteUnits 0 argument
    else List.replicate backslashes backslash ++ value :: quoteUnits 0 argument

def encodeWindowsArgument (argument : List UInt16) : List UInt16 :=
  if argument.isEmpty || argument.any fun value => isBlank value || value == quote then
    quote :: (quoteUnits 0 argument ++ [quote])
  else argument

def encodeWindowsCommandLine : List (List UInt16) → List UInt16
  | [] => []
  | argument :: arguments =>
    encodeWindowsArgument argument ++ arguments.flatMap (space :: encodeWindowsArgument ·)

structure CommandSpec where
  program : List UInt16
  arguments : List (List UInt16)

/-- One turn of the loop of the job backend, over the output and the backslashes held back. -/
def appendUnit (state : List UInt16 × ℕ) (unit : UInt16) : List UInt16 × ℕ :=
  if unit = backslash then (state.1, state.2 + 1)
  else if unit = quote then (state.1 ++ List.replicate (state.2 * 2 + 1) backslash ++ [quote], 0)
  else (state.1 ++ List.replicate state.2 backslash ++ [unit], 0)

def appendWindowsArgument (output units : List UInt16) : List UInt16 :=
  if units.isEmpty || units.any fun unit => isBlank unit || unit == quote then
    let (output, backslashes) := units.foldl appendUnit (output ++ [quote], 0)
    output ++ List.replicate (backslashes * 2) backslash ++ [quote]
  else output ++ units

/-- `encode_command_line` of the job backend: the line and its terminator. -/
def encodeCommandLine (command : CommandSpec) : List UInt16 :=
  command.arguments.foldl (fun encoded argument =>
    appendWindowsArgument (encoded ++ [space]) argument)
    (appendWindowsArgument [] command.program) ++ [0]

/-! ## The decoder -/

/-- What one turn of the outer loop finds. -/
structure Scanned where
  argument : List UInt16
  quoted : Bool
  rest : List UInt16

/-- Units in front of an argument. -/
def Scanned.after (units : List UInt16) (scanned : Scanned) : Scanned :=
  { scanned with argument := units ++ scanned.argument }

/-- The loop over an argument, with the number of backslashes that were counted and not yet
copied. -/
def scanArgument : Bool → ℕ → List UInt16 → Scanned
  | quoted, backslashes, [] => ⟨List.replicate backslashes backslash, quoted, []⟩
  | quoted, backslashes, value :: rest =>
    if value = backslash then scanArgument quoted (backslashes + 1) rest
    else if value = quote then
      if backslashes % 2 = 0 then
        (scanArgument (!quoted) 0 rest).after (List.replicate (backslashes / 2) backslash)
      else (scanArgument quoted 0 rest).after (List.replicate
        (backslashes / 2) backslash ++ [quote])
    else if !quoted && isBlank value then
      ⟨List.replicate backslashes backslash, quoted, value :: rest⟩
    else (scanArgument quoted 0 rest).after (List.replicate backslashes backslash ++ [value])

/-- The outer loop. Every turn takes a unit, so the length of the line is enough turns. -/
def decodeArguments : ℕ → List UInt16 → Except String (List (List UInt16))
  | 0, _ => .ok []
  | turns + 1, line =>
    match line.dropWhile isBlank with
    | [] => .ok []
    | unit :: rest =>
      let scanned := scanArgument false 0 (unit :: rest)
      if scanned.quoted then .error "Windows command line has an unterminated quote"
      else (decodeArguments turns scanned.rest).map (scanned.argument :: ·)

def decodeWindowsCommandLine (line : List UInt16) : Except String (List (List UInt16)) :=
  if 0 ∈ line then .error "Windows command line contains NUL" else decodeArguments line.length line

/-! ## Reading an argument back -/

variable {a tail : List UInt16} {n : ℕ}

/-- An argument ends here: the line does, or a blank follows. -/
def Ends (tail : List UInt16) : Prop := ∀ unit ∈ tail.head?, isBlank unit = true

theorem isBlank_backslash : isBlank backslash = false := by decide

theorem isBlank_quote : isBlank quote = false := by decide

theorem scanArgument_ends (h : Ends tail) :
    scanArgument false n tail = ⟨List.replicate n backslash, false, tail⟩ := by
  cases tail with
  | nil => rfl
  | cons unit tail =>
    have hblank : isBlank unit = true := h unit rfl
    have hslash : unit ≠ backslash := by
      rintro rfl
      simp [isBlank_backslash] at hblank
    have hquote : unit ≠ quote := by
      rintro rfl
      simp [isBlank_quote] at hblank
    simp [scanArgument, hslash, hquote, hblank]

/-- An argument without blanks and quotes stands for itself. -/
theorem scanArgument_plain (ha : ∀ value ∈ a, isBlank value = false ∧ value ≠ quote)
    (h : Ends tail) :
    scanArgument false n (a ++ tail) = ⟨List.replicate n backslash ++ a, false, tail⟩ := by
  induction a generalizing n with
  | nil => simp [scanArgument_ends h]
  | cons value a ih =>
    obtain ⟨⟨hblank, hquote⟩, ha⟩ := List.forall_mem_cons.1 ha
    by_cases hslash : value = backslash
    · simp [scanArgument, hslash, ih ha, List.replicate_succ']
    · simp [scanArgument, hslash, hquote, hblank, ih ha, Scanned.after]

/-- A run of backslashes is counted. -/
theorem scanArgument_replicate {quoted : Bool} {k : ℕ} :
    scanArgument quoted n (List.replicate k backslash ++ tail) =
      scanArgument quoted (n + k) tail := by
  induction k generalizing n with
  | zero => rfl
  | succ k ih => simp [List.replicate_succ, scanArgument, ih, Nat.add_right_comm, Nat.add_assoc]

/-- **What was quoted is read back**, after the backslashes that the encoder has held back. -/
theorem scanArgument_quoteUnits (h : Ends tail) :
    scanArgument true 0 (quoteUnits n a ++ quote :: tail) = ⟨List.replicate n backslash ++ a, false,
      tail⟩ := by
  have hquote : quote ≠ backslash := by decide
  induction a generalizing n with
  | nil =>
    simp [quoteUnits, scanArgument_replicate, scanArgument, hquote, scanArgument_ends h,
      Scanned.after]
  | cons value a ih =>
    unfold quoteUnits
    split_ifs with hslash hvalue
    · simp [ih, hslash, List.replicate_succ']
    · have hodd : (n * 2 + 1) / 2 = n := by omega
      simp [hvalue, scanArgument_replicate, scanArgument, hquote, ih, Scanned.after, hodd]
    · simp [scanArgument_replicate, scanArgument, hslash, hvalue, ih, Scanned.after]

/-- **An argument is read back**, and the decoder stops where the argument ends. -/
theorem scanArgument_encode (h : Ends tail) :
    scanArgument false 0 (encodeWindowsArgument a ++ tail) = ⟨a, false, tail⟩ := by
  have hquote : quote ≠ backslash := by decide
  unfold encodeWindowsArgument
  split_ifs with hquoted
  · simp [scanArgument, hquote, scanArgument_quoteUnits h, Scanned.after]
  · rw [scanArgument_plain _ h]
    · rfl
    · simp only [Bool.or_eq_true, not_or, List.any_eq_true, not_exists, not_and] at hquoted
      intro value hmem
      obtain ⟨hblank, hvalue⟩ := hquoted.2 value hmem
      exact ⟨Bool.eq_false_iff.2 hblank, by simpa using hvalue⟩

theorem encodeWindowsArgument_head (a : List UInt16) :
    ∃ unit rest, encodeWindowsArgument a = unit :: rest ∧ isBlank unit = false := by
  unfold encodeWindowsArgument
  split_ifs with hquoted
  · exact ⟨quote, _, rfl, isBlank_quote⟩
  · cases a with
    | nil => simp at hquoted
    | cons unit rest =>
      refine ⟨unit, rest, rfl, ?_⟩
      simp at hquoted
      tauto

/-! ## Reading a line back -/

theorem ends_flatMap (arguments : List (List UInt16)) :
    Ends (arguments.flatMap (space :: encodeWindowsArgument ·)) := by
  cases arguments with
  | nil => simp [Ends]
  | cons a arguments => simp [Ends, isBlank]

/-- One turn of the outer loop takes one argument. -/
theorem decodeArguments_encode {turns : ℕ} (h : Ends tail) :
    decodeArguments (turns + 1) (encodeWindowsArgument a ++ tail) =
      (decodeArguments turns tail).map (a :: ·) := by
  have hscan := scanArgument_encode (a := a) h
  obtain ⟨unit, rest, ha, hunit⟩ := encodeWindowsArgument_head a
  rw [ha, List.cons_append] at hscan ⊢
  simp [decodeArguments, hunit, hscan]

theorem decodeArguments_space (turns : ℕ) (line : List UInt16) :
    decodeArguments turns (space :: line) = decodeArguments turns line := by
  cases turns with
  | zero => rfl
  | succ turns => simp [decodeArguments, isBlank]

/-- A run of the outer loop, over arguments that each stand behind a space. -/
theorem decodeArguments_flatMap (arguments : List (List UInt16)) {turns : ℕ}
    (h : arguments.length ≤ turns) :
    decodeArguments turns (arguments.flatMap (space :: encodeWindowsArgument ·)) =
      .ok arguments := by
  induction arguments generalizing turns with
  | nil => cases turns <;> rfl
  | cons a arguments ih =>
    cases turns with
    | zero => simp at h
    | succ turns =>
      rw [List.flatMap_cons, List.cons_append, decodeArguments_space,
        decodeArguments_encode (ends_flatMap arguments), ih (Nat.le_of_succ_le_succ h)]
      rfl

/-- The length of a line is enough turns: an argument takes its space and at least one unit. -/
theorem length_le_flatMap (arguments : List (List UInt16)) :
    2 * arguments.length ≤ (arguments.flatMap (space :: encodeWindowsArgument ·)).length := by
  induction arguments with
  | nil => simp
  | cons a arguments ih =>
    obtain ⟨unit, rest, ha, -⟩ := encodeWindowsArgument_head a
    simp only [List.flatMap_cons, List.length_append, List.length_cons, ha]
    omega

theorem mem_quoteUnits {unit : UInt16} (h : unit ∈ quoteUnits n a) :
    unit = backslash ∨ unit ∈ a := by
  induction a generalizing n with
  | nil => exact .inl (List.eq_of_mem_replicate h)
  | cons value a ih =>
    unfold quoteUnits at h
    split_ifs at h <;> grind

theorem nul_notMem_encode (h : 0 ∉ a) : 0 ∉ encodeWindowsArgument a := by
  have hunits : 0 ∉ quoteUnits 0 a := fun hmem => (mem_quoteUnits hmem).elim (by decide) h
  unfold encodeWindowsArgument
  split_ifs
  · simpa [quote] using hunits
  · exact h

theorem decode_encode {arguments : List (List UInt16)} (h : ∀ a ∈ arguments, 0 ∉ a) :
    decodeWindowsCommandLine (encodeWindowsCommandLine arguments) = .ok arguments := by
  cases arguments with
  | nil => rfl
  | cons a arguments =>
    have hnul : 0 ∉ (a :: arguments).flatMap (space :: encodeWindowsArgument ·) := by
      simpa [space] using fun b hb => nul_notMem_encode (h b (List.mem_cons.2 hb))
    have hlen := length_le_flatMap (a :: arguments)
    rw [List.flatMap_cons, List.cons_append] at hnul hlen
    rw [decodeWindowsCommandLine, encodeWindowsCommandLine,
      if_neg (List.not_mem_of_not_mem_cons hnul), ← decodeArguments_space]
    exact decodeArguments_flatMap (a :: arguments)
      (by simp only [List.length_cons] at hlen ⊢; omega)

/-! ## The job backend -/

theorem foldl_appendUnit (output : List UInt16) :
    (a.foldl appendUnit (output, n)).1 ++ List.replicate
      ((a.foldl appendUnit (output, n)).2 * 2) backslash = output ++ quoteUnits n a := by
  induction a generalizing output n with
  | nil => rfl
  | cons value a ih =>
    simp only [List.foldl_cons, appendUnit, quoteUnits]
    split_ifs with hslash hquote
    · exact ih output
    · rw [ih, hquote]
      simp
    · rw [ih]
      simp

/-- The loop of the job backend writes what `encode_windows_argument` writes. -/
theorem appendWindowsArgument_eq (output units : List UInt16) :
    appendWindowsArgument output units = output ++ encodeWindowsArgument units := by
  unfold appendWindowsArgument encodeWindowsArgument
  split_ifs
  · simp [foldl_appendUnit]
  · rfl

theorem encodeCommandLine_eq (command : CommandSpec) :
    encodeCommandLine command = encodeWindowsCommandLine (command.program :: command.arguments) ++
      [0] := by
  simp only [encodeCommandLine, appendWindowsArgument_eq, encodeWindowsCommandLine, List.nil_append,
    List.append_assoc, List.singleton_append, List.foldl_append_eq_append, List.flatMap_def]

/-- **Command lines round-trip.** The decoder gives back every list of arguments without NUL, from
the line of `encode_windows_command_line` and from the line that the job backend writes in front of
its terminator. -/
theorem command_lines_round_trip (arguments : List (List UInt16)) (hnul : ∀ a ∈ arguments, 0 ∉ a) :
    decodeWindowsCommandLine (encodeWindowsCommandLine arguments) = .ok arguments ∧
      ∀ command : CommandSpec, command.program :: command.arguments = arguments →
        ∃ line, encodeCommandLine command = line ++ [0] ∧
          decodeWindowsCommandLine line = .ok arguments := by
  refine ⟨decode_encode hnul, ?_⟩
  rintro command rfl
  exact ⟨_, encodeCommandLine_eq command, decode_encode hnul⟩

/-- An argument with a backslash before a quote and one at its end. -/
theorem command_lines_round_trip_escaped :
    decodeWindowsCommandLine (encodeWindowsCommandLine [[97], [], [92, 34, 32, 92]]) =
      .ok [[97], [], [92, 34, 32, 92]] :=
  (command_lines_round_trip [[97], [], [92, 34, 32, 92]] (by decide)).1

end MemCordon.WindowsCommandLine
