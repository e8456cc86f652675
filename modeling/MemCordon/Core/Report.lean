import MemCordon.Core.Execution
import MemCordon.Core.HistoryRuns

/-!
# The attempt history of a report

A report copies the summary of an execution next to its retained records, and
`validate_attempt_history` compares the two: it repeats the checks of `SupervisionExecution::new`
over the fields of the report. They differ in the window (`validateAttemptHistory_iff`): only the
report asks for a total of one when one record is retained.
-/

namespace MemCordon

open Counter

inductive ReportModelError
  | attemptHistory
  deriving DecidableEq

structure AttemptHistoryReport where
  (capacity retained total omitted : ℕ)
  truncated : Bool

structure SupervisionReport where
  phase : SupervisionPhase
  (durationMs attemptRecordsCreated targetsAuthorized : ℕ)
  wrapperExitCode : ℤ
  terminal : SupervisionTerminal
  attemptHistory : AttemptHistoryReport
  aggregate : SupervisionAggregates
  restart : RestartSummary

namespace SupervisionReport

def fromExecution (e : SupervisionExecution) : SupervisionReport where
  phase := e.phase
  durationMs := e.durationMs
  attemptRecordsCreated := e.attempts.total
  targetsAuthorized := e.targetsAuthorized
  wrapperExitCode := e.wrapperExitCode
  terminal := e.terminal
  attemptHistory :=
    { capacity := detailedAttemptCapacity
      retained := e.attempts.retained
      total := e.attempts.total
      omitted := e.attempts.omitted
      truncated := e.attempts.omitted != 0 }
  aggregate := e.aggregates
  restart := e.restart

/-- The first check of `validate_attempt_history`: the counters disagree. -/
def Miscounted (s : SupervisionReport) (attempts : List AttemptRecord) : Prop :=
  let h := s.attemptHistory
  let a := s.aggregate
  detailedAttemptCapacity < attempts.length ∨ h.retained ≠ attempts.length ∨
    h.capacity ≠ detailedAttemptCapacity ∨
    h.truncated ≠ (h.omitted != 0) ∨ h.total ≠ s.attemptRecordsCreated ∨
    a.outcomeTotal ≠ some h.total ∨
    h.total < s.targetsAuthorized ∨ s.targetsAuthorized ≠ a.confirmedAuthorizations ∨
    a.authorizationsMatch attempts h.total h.omitted = false ∨
    h.total - s.targetsAuthorized < a.unknownAuthorizationAttempts ∨
    s.targetsAuthorized < a.confirmedRetryAuthorizations ∨
    a.retryAttemptsStarted < a.confirmedRetryAuthorizations ∨
    checkedAdd attempts.length h.omitted ≠ some h.total ∨
    s.targetsAuthorized < s.restart.restartsLaunched ∨
    s.phase ≠ .completed ∨ s.terminal.exitCode ≠ s.wrapperExitCode

instance instDecidableMiscounted (s : SupervisionReport) (attempts : List AttemptRecord) :
    Decidable (s.Miscounted attempts) := inferInstanceAs (Decidable (_ ∨ _))

/-- The second check: the first attempt has number one, and the numbers of the others end at the
total. -/
def numbered (total : ℕ) (attempts : List AttemptRecord) : Bool :=
  if total = 0 then attempts.isEmpty
  else
    match attempts with
    | [] => false
    | first :: tail => first.number == 1 &&
      if tail = [] then total == 1
      else ((checkedSub total tail.length).bind (checkedAdd · 1)).any fun start =>
        tail.zipIdx.all fun (record, index) => checkedAdd start index == some record.number

/-- The third check: a terminal of an attempt repeats what the last record says. -/
def terminalMatches (total : ℕ) (last : Option AttemptRecord) : SupervisionTerminal → Bool
  | .attemptOutcome n outcome =>
    n == total && last.any fun r => r.number == n && r.outcome == some outcome
  | .deadlineOutsideAttempt _ => true
  | .error (some n) e => n == total && last.any fun r => r.number == n && r.error == some e
  | .error none _ => true

def validateAttemptHistory (s : SupervisionReport) (attempts : List AttemptRecord) :
    Except ReportModelError Unit :=
  if s.Miscounted attempts then .error .attemptHistory
  else if numbered s.attemptHistory.total attempts = false then .error .attemptHistory
  else if terminalMatches s.attemptHistory.total attempts.getLast? s.terminal = false then
    .error .attemptHistory
  else .ok ()

end SupervisionReport

/-! ## Reports of executions -/

namespace SupervisionAggregates

variable {a : SupervisionAggregates} {total : ℕ}

theorem lt_of_outcomeTotal (h : a.outcomeTotal = some total) : total < u64Bound := by
  simp only [outcomeTotal, Option.bind_eq_bind, Option.bind_eq_some_iff] at h
  obtain ⟨_, -, _, -, _, -, _, -, h⟩ := h
  obtain ⟨hlt, rfl⟩ := checkedAdd_eq_some.1 h
  exact hlt

theorem le_of_authorizationsMatch {rs : List AttemptRecord} {omitted : ℕ}
    (h : a.authorizationsMatch rs total omitted = true) :
    a.confirmedAuthorizations + a.unknownAuthorizationAttempts ≤ total ∧
      a.confirmedRetryAuthorizations ≤ a.confirmedAuthorizations ∧
      a.confirmedRetryAuthorizations ≤ a.retryAttemptsStarted := by
  unfold authorizationsMatch at h
  split at h
  · cases h
  · simp only [Bool.and_eq_true, decide_eq_true_eq] at h
    obtain ⟨⟨⟨⟨⟨⟨⟨hsum, -⟩, hconfirmed⟩, hretried⟩, -⟩, -⟩, -⟩, -⟩ := h
    refine ⟨?_, hconfirmed, hretried⟩
    split at hsum
    · rename_i count hcount
      obtain ⟨-, rfl⟩ := checkedAdd_eq_some.1 hcount
      exact of_decide_eq_true hsum
    · cases hsum

end SupervisionAggregates

namespace SupervisionReport

variable {c : Candidate}

theorem not_miscounted (h : c.Acceptable) :
    ¬(fromExecution (.ofCandidate c)).Miscounted c.attempts.records := by
  have hlength : c.attempts.records.length = c.attempts.retained := List.length_append
  have hretained := (AttemptHistory.validate_eq_true.1 h.history).1.retained
  have homitted := h.omitted
  have htotal := SupervisionAggregates.lt_of_outcomeTotal h.outcomes
  obtain ⟨hcount, hconfirmed, hretried⟩ :=
    SupervisionAggregates.le_of_authorizationsMatch h.authorizations
  have htargets := h.targets
  simp only [Miscounted, fromExecution, SupervisionExecution.ofCandidate, not_or, not_not, not_lt,
    Bool.not_eq_false, hlength, h.outcomes, h.authorizations, true_and, and_true]
  refine ⟨h.retained, by omega, htargets, by omega, by omega, hretried, ?_, h.restarts⟩
  exact checkedAdd_eq_some.2 ⟨by omega, by omega⟩

/-- The numbers of a valid history agree unless it lacks recent records. -/
theorem numbered_records {h : AttemptHistory} (hvalid : h.Plausible) (htotal : h.total < u64Bound) :
    numbered h.total h.records = true ↔ (h.recent = [] → h.total ≤ 1) := by
  obtain ⟨first, recent, total, omitted⟩ := h
  obtain ⟨hfirst, hretained, -, hrecent⟩ := hvalid
  unfold numbered
  dsimp only [Window.retained] at hfirst hretained hrecent htotal ⊢
  split_ifs at hfirst ⊢ with h0
  · have hnil : recent = [] := List.length_eq_zero_iff.1 (by omega)
    simp [Option.map_eq_none_iff.1 hfirst, hnil, h0, Window.records]
  obtain ⟨first, rfl, hnumber⟩ := Option.map_eq_some_iff.1 hfirst
  rw [Option.toList_some, List.length_singleton] at hretained
  simp only [Window.records, Option.toList_some, List.singleton_append, hnumber, beq_self_eq_true,
    Bool.true_and]
  split_ifs with htail
  · simp only [htail, beq_iff_eq, forall_const]
    omega
  · refine iff_of_true ?_ fun hnil => absurd hnil htail
    have hpos := List.length_pos_iff.2 htail
    rw [checkedSub_eq_some.2 ⟨by omega, rfl⟩, Option.bind_some, checkedAdd_of_lt (by omega),
      Option.any_some, List.all_eq_true]
    rintro ⟨record, index⟩ hmem
    obtain ⟨hindex, hrecord⟩ := List.mem_zipIdx' hmem
    have hnumber : recent[index].number = total - recent.length + 1 + index := by
      simpa [hindex] using congrArg (·[index]?) hrecent
    rw [beq_iff_eq, hrecord, hnumber]
    exact checkedAdd_of_lt (by omega)

theorem terminalMatches_latest (h : c.Acceptable) :
    terminalMatches c.attempts.total c.attempts.records.getLast? c.terminal = true := by
  have hattempt := h.attempt
  have hlatest := h.latest
  unfold terminalMatches
  split
  · rename_i n outcome hterminal
    rw [hterminal] at hattempt hlatest
    exact Bool.and_eq_true_iff.2 ⟨beq_iff_eq.2 (hattempt n rfl).2, hlatest⟩
  · rfl
  · rename_i n e hterminal
    rw [hterminal] at hattempt hlatest
    exact Bool.and_eq_true_iff.2 ⟨beq_iff_eq.2 (hattempt n rfl).2,
      (Bool.and_eq_true_iff.1 hlatest).2⟩
  · rfl

/-- **A report of an accepted execution** passes the check of its attempt history unless several
attempts were made and only the first is retained. -/
theorem validateAttemptHistory_iff {e : SupervisionExecution}
    (h : SupervisionExecution.new c = .ok e) :
    (fromExecution e).validateAttemptHistory e.attempts.records = .ok () ↔
      (c.attempts.recent = [] → c.attempts.total ≤ 1) := by
  obtain ⟨hc, rfl⟩ := SupervisionExecution.new_iff.1 h
  have htotal := SupervisionAggregates.lt_of_outcomeTotal hc.outcomes
  rw [← numbered_records (AttemptHistory.validate_eq_true.1 hc.history).1 htotal]
  unfold validateAttemptHistory
  simp only [Fallible.ite_error_eq_ok, Bool.not_eq_false, and_true]
  exact ⟨fun h => h.2.1, fun h => ⟨not_miscounted hc, h, terminalMatches_latest hc⟩⟩

/-- Only the first of the attempts is retained, and the run ended with an error after them. -/
def firstRetained (total : ℕ) : Candidate where
  backend := { name := "process" }
  terminal := .error none
    { category := "usage", code := "", message := "", attemptNumber := none,
      supervisionPhase := .backoff
      launchPhase := none, targetReleased := false, workloadMayBeAlive := false }
  attempts := { first := some (AttemptHistory.exitedRecord 1), total, omitted := total - 1 }
  aggregates := { childExits := total }
  restart := {}
  deadline := none
  durationMs := 0
  targetsAuthorized := 0

/-- Of four attempts, all but the second are retained. -/
def oneEvicted : Candidate :=
  { firstRetained 4 with
    attempts :=
      { first := some (AttemptHistory.exitedRecord 1)
        recent := [AttemptHistory.exitedRecord 3, AttemptHistory.exitedRecord 4]
        total := 4, omitted := 1 } }

theorem validateAttemptHistory_evicted : ∃ e, SupervisionExecution.new oneEvicted = .ok e ∧
    (fromExecution e).validateAttemptHistory e.attempts.records = .ok () :=
  ⟨_, rfl, (validateAttemptHistory_iff (c := oneEvicted) rfl).2 nofun⟩

theorem validateAttemptHistory_lacking : ∃ e, SupervisionExecution.new (firstRetained 3) = .ok e ∧
    (fromExecution e).validateAttemptHistory e.attempts.records = .error .attemptHistory :=
  ⟨_, rfl, by decide⟩

end SupervisionReport

end MemCordon
