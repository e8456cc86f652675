import MemCordon.Core.Attempt
import MemCordon.Foundations.Window

/-!
# Attempt history and aggregates

The bounded history of a supervision run (the first attempt and the last 255 others) and the
counters kept over all its attempts, retained or not. `HistoryOf history aggregates rs` says that
both were built from the list `rs` of all records appended so far; appending the next record keeps
that (`HistoryOf.append`), and the checks an execution makes on its history and counters follow from
it (`HistoryOf.validate_iff`, `HistoryOf.authorizationsMatch`).
-/

namespace MemCordon

open Counter

/-! ## Aggregates -/

/-- Counters over every attempt of a run. -/
structure SupervisionAggregates where
  confirmedAuthorizations : ℕ := 0
  unknownAuthorizationAttempts : ℕ := 0
  retryAttemptsStarted : ℕ := 0
  confirmedRetryAuthorizations : ℕ := 0
  childExits : ℕ := 0
  memoryLimits : ℕ := 0
  deadlines : ℕ := 0
  interruptions : ℕ := 0
  monitorFailures : ℕ := 0
  setupFailures : ℕ := 0
  maxPeak : Option ℕ := none
  deriving DecidableEq

/-- Why an execution could not be assembled. -/
inductive SupervisionModelError
  | counterRange
  | attemptNumber
  | rejectedExecution (invariant : String)
  deriving DecidableEq

/-- The text of a model error; the summary of the rejected candidate is left out. -/
def SupervisionModelError.display : SupervisionModelError → String
  | counterRange => "supervision counter is out of range"
  | attemptNumber => "attempt numbers must be nonzero and strictly consecutive"
  | rejectedExecution invariant => "supervision invariant failed: " ++ invariant

def AttemptRecord.isRetry (r : AttemptRecord) : Bool := r.kind != .initial

def AttemptRecord.isAuthorizedRetry (r : AttemptRecord) : Bool :=
  r.isRetry && r.launch.targetReleased

def AttemptRecord.isAuthorized (r : AttemptRecord) : Bool := r.launch.targetReleased

/-- A counter raised when the condition holds. -/
def bump (counter : ℕ) (increment : Bool) : Except SupervisionModelError ℕ :=
  match checkedAdd counter increment.toNat with
  | some n => .ok n
  | none => .error .counterRange

def largerPeak : Option ℕ → Option ℕ → Option ℕ
  | none, b => b
  | a, none => a
  | some a, some b => some (max a b)

namespace SupervisionAggregates

variable (a : SupervisionAggregates)

def observeAuthorization (r : AttemptRecord) :
    Except SupervisionModelError SupervisionAggregates := do
  let confirmedAuthorizations ← bump a.confirmedAuthorizations r.isAuthorized
  let unknownAuthorizationAttempts ←
    bump a.unknownAuthorizationAttempts r.authorizationUnknown
  let retryAttemptsStarted ← bump a.retryAttemptsStarted r.isRetry
  let confirmedRetryAuthorizations ← bump a.confirmedRetryAuthorizations r.isAuthorizedRetry
  return { a with
    confirmedAuthorizations, unknownAuthorizationAttempts, retryAttemptsStarted,
    confirmedRetryAuthorizations }

/-- One of the outcome counters. -/
inductive OutcomeCounter
  | childExits
  | memoryLimits
  | deadlines
  | interruptions
  | monitorFailures
  | setupFailures
  deriving DecidableEq

def counter : OutcomeCounter → ℕ
  | .childExits => a.childExits
  | .memoryLimits => a.memoryLimits
  | .deadlines => a.deadlines
  | .interruptions => a.interruptions
  | .monitorFailures => a.monitorFailures
  | .setupFailures => a.setupFailures

def setCounter (n : ℕ) : OutcomeCounter → SupervisionAggregates
  | .childExits => { a with childExits := n }
  | .memoryLimits => { a with memoryLimits := n }
  | .deadlines => { a with deadlines := n }
  | .interruptions => { a with interruptions := n }
  | .monitorFailures => { a with monitorFailures := n }
  | .setupFailures => { a with setupFailures := n }

/-- Raise one outcome counter. -/
def raise (c : OutcomeCounter) : Except SupervisionModelError SupervisionAggregates := do
  let n ← bump (a.counter c) true
  return a.setCounter n c

def counterOf : RunOutcome → OutcomeCounter
  | .exited .. => .childExits
  | .limitExceeded .. => .memoryLimits
  | .deadlineExceeded .. => .deadlines
  | .interrupted .. => .interruptions
  | .monitorFailed .. => .monitorFailures

/-- The memory peak an outcome reports. -/
def peakOf : RunOutcome → Option ℕ
  | .exited _ peak _ => peak
  | .limitExceeded _ _ peak _ _ _ => peak
  | .deadlineExceeded _ _ peak _ => peak
  | .interrupted .. => none
  | .monitorFailed .. => none

def observeOutcome (o : RunOutcome) : Except SupervisionModelError SupervisionAggregates := do
  let a ← a.raise (counterOf o)
  return { a with maxPeak := largerPeak a.maxPeak (peakOf o) }

def observeError (e : SupervisionErrorRecord) :
    Except SupervisionModelError SupervisionAggregates :=
  a.raise (if e.supervisionPhase = .activeAttempt then .monitorFailures else .setupFailures)

/-- The outcome or the error of a record, whichever it has. -/
def observeResult (r : AttemptRecord) : Except SupervisionModelError SupervisionAggregates :=
  match r.outcome, r.error with
  | some o, _ => a.observeOutcome o
  | none, some e => a.observeError e
  | none, none => .ok a

/-- The sum of the six outcome counters. -/
def outcomeSum : ℕ :=
  a.childExits + a.memoryLimits + a.deadlines + a.interruptions + a.monitorFailures +
    a.setupFailures

/-- The sum of the outcome counters by checked additions. -/
def outcomeTotal : Option ℕ := do
  let v ← checkedAdd a.childExits a.memoryLimits
  let v ← checkedAdd v a.deadlines
  let v ← checkedAdd v a.interruptions
  let v ← checkedAdd v a.monitorFailures
  checkedAdd v a.setupFailures

/-- Authorization counters of a list of records. -/
def ofRecords (rs : List AttemptRecord) : Except SupervisionModelError SupervisionAggregates :=
  rs.foldlM observeAuthorization {}

/-- The counter, less what is visible of it, is at most what was omitted. -/
def evictedWithin (all visible omitted : ℕ) : Bool :=
  match checkedSub all visible with
  | some evicted => decide (evicted ≤ omitted)
  | none => false

/-- `authorizations_match`: the counters agree with the retained records, up to the omitted ones. -/
def authorizationsMatch (rs : List AttemptRecord)
    (total omitted : ℕ) : Bool :=
  match ofRecords rs with
  | .error _ => false
  | .ok retained =>
    (match checkedAdd a.confirmedAuthorizations a.unknownAuthorizationAttempts with
      | some count => decide (count ≤ total)
      | none => false) &&
      decide (a.retryAttemptsStarted ≤ total - 1) &&
      decide (a.confirmedRetryAuthorizations ≤ a.confirmedAuthorizations) &&
      decide (a.confirmedRetryAuthorizations ≤ a.retryAttemptsStarted) &&
      evictedWithin a.confirmedAuthorizations retained.confirmedAuthorizations omitted &&
      evictedWithin a.unknownAuthorizationAttempts retained.unknownAuthorizationAttempts omitted &&
      evictedWithin a.retryAttemptsStarted retained.retryAttemptsStarted omitted &&
      evictedWithin a.confirmedRetryAuthorizations retained.confirmedRetryAuthorizations omitted

end SupervisionAggregates

/-! ## History -/

/-- How many attempts are kept in detail. -/
def detailedAttemptCapacity : ℕ := 256

/-- The first attempt, the recent ones, and how many there were and were dropped. -/
abbrev AttemptHistory := Window AttemptRecord

namespace AttemptHistory

/-- The recent records carry consecutive numbers from `start` on and are consistent. -/
def recentValid : ℕ → List AttemptRecord → Bool
  | _, [] => true
  | start, r :: rs => r.number == start && r.isConsistent && recentValid (start + 1) rs

def validate (h : AttemptHistory) : Bool :=
  if h.total = 0 then h.first.isNone && h.recent.isEmpty && h.omitted == 0
  else if h.first.map (·.number) ≠ some 1 then false
  else if h.total < h.retained ∨ h.omitted ≠ h.total - h.retained then false
  else recentValid (h.total - h.recent.length + 1) h.recent && h.first.any (·.isConsistent)

/-- `AttemptHistory::append`: the record takes the next number, the counters observe it, and the
oldest recent record makes room when the history is full. -/
def append (h : AttemptHistory) (record : AttemptRecord) (aggregates : SupervisionAggregates) :
    Except SupervisionModelError (AttemptHistory × SupervisionAggregates) :=
  match checkedAdd h.total 1 with
  | none => .error .counterRange
  | some number =>
    if record.number ≠ 0 ∧ record.number ≠ number then .error .attemptNumber
    else do
      let record := { record with number }
      let next ← aggregates.observeAuthorization record
      let next ← next.observeResult record
      if h.first.isSome ∧ h.recent.length = detailedAttemptCapacity - 1 ∧
          checkedAdd h.omitted 1 = none then
        .error .counterRange
      else return (Window.push (detailedAttemptCapacity - 1) h record, next)

end AttemptHistory

/-! ## What the counters count -/

theorem bump_of_lt {c : ℕ} {b : Bool} (h : c + b.toNat < u64Bound) :
    bump c b = .ok (c + b.toNat) := by
  unfold bump
  rw [checkedAdd_of_lt h]

namespace SupervisionAggregates

/-- The counters of `a` count the records `rs`. -/
structure CountsOf (a : SupervisionAggregates) (rs : List AttemptRecord) : Prop where
  confirmed : a.confirmedAuthorizations = rs.countP AttemptRecord.isAuthorized
  unknown : a.unknownAuthorizationAttempts = rs.countP AttemptRecord.authorizationUnknown
  retries : a.retryAttemptsStarted = rs.countP AttemptRecord.isRetry
  authorizedRetries :
    a.confirmedRetryAuthorizations = rs.countP AttemptRecord.isAuthorizedRetry

theorem CountsOf.nil : CountsOf {} [] := ⟨rfl, rfl, rfl, rfl⟩

variable {a : SupervisionAggregates} {rs : List AttemptRecord}

/-- The authorization counters with one more record. -/
def authorized (a : SupervisionAggregates) (r : AttemptRecord) : SupervisionAggregates :=
  { a with
    confirmedAuthorizations := a.confirmedAuthorizations + r.isAuthorized.toNat
    unknownAuthorizationAttempts := a.unknownAuthorizationAttempts + r.authorizationUnknown.toNat
    retryAttemptsStarted := a.retryAttemptsStarted + r.isRetry.toNat
    confirmedRetryAuthorizations := a.confirmedRetryAuthorizations + r.isAuthorizedRetry.toNat }

variable {r : AttemptRecord}

theorem CountsOf.authorized (h : CountsOf a rs) : CountsOf (a.authorized r) (rs ++ [r]) := by
  have hcount (p : AttemptRecord → Bool) : (rs ++ [r]).countP p = rs.countP p + (p r).toNat := by
    rw [List.countP_append, List.countP_singleton]
    cases p r <;> rfl
  refine ⟨?_, ?_, ?_, ?_⟩
  · rw [hcount, ← h.confirmed]; rfl
  · rw [hcount, ← h.unknown]; rfl
  · rw [hcount, ← h.retries]; rfl
  · rw [hcount, ← h.authorizedRetries]; rfl

/-- One observation counts one more record. -/
theorem observeAuthorization_eq (h : CountsOf a rs) (hlen : rs.length + 1 < u64Bound) :
    a.observeAuthorization r = .ok (a.authorized r) := by
  have hbump {n : ℕ} {p : AttemptRecord → Bool} (hn : n = rs.countP p) :
      bump n (p r) = .ok (n + (p r).toNat) := by
    have hcount := List.countP_le_length (p := p) (l := rs)
    have hbit := Bool.toNat_le (p r)
    exact bump_of_lt (by omega)
  unfold observeAuthorization
  rw [hbump h.confirmed, hbump h.unknown, hbump h.retries, hbump h.authorizedRetries]
  rfl

/-- The counter that the outcome or the error of a record raises. -/
def countedBy (r : AttemptRecord) : Option OutcomeCounter :=
  match r.outcome, r.error with
  | some o, _ => some (counterOf o)
  | none, some e =>
    some (if e.supervisionPhase = .activeAttempt then .monitorFailures else .setupFailures)
  | none, none => none

def reportedPeak (r : AttemptRecord) : Option ℕ := r.outcome.bind peakOf

/-- What a record adds to the counters. -/
def contribute (a : SupervisionAggregates) (r : AttemptRecord) : SupervisionAggregates :=
  let hits (c : OutcomeCounter) := (decide (countedBy r = some c)).toNat
  { a.authorized r with
    childExits := a.childExits + hits .childExits
    memoryLimits := a.memoryLimits + hits .memoryLimits
    deadlines := a.deadlines + hits .deadlines
    interruptions := a.interruptions + hits .interruptions
    monitorFailures := a.monitorFailures + hits .monitorFailures
    setupFailures := a.setupFailures + hits .setupFailures
    maxPeak := largerPeak a.maxPeak (reportedPeak r) }

theorem CountsOf.contribute (h : CountsOf a rs) : CountsOf (a.contribute r) (rs ++ [r]) :=
  ⟨h.authorized.confirmed, h.authorized.unknown, h.authorized.retries,
    h.authorized.authorizedRetries⟩

theorem contribute_eq {c : OutcomeCounter} (hc : countedBy r = some c) : a.contribute r =
      { (a.authorized r).setCounter (a.counter c + 1) c with
            maxPeak := largerPeak a.maxPeak (reportedPeak r) } := by
  unfold SupervisionAggregates.contribute
  rw [hc]
  cases c <;> rfl

theorem outcomeSum_contribute :
    (a.contribute r).outcomeSum = a.outcomeSum + (countedBy r).isSome.toNat := by
  cases hc : countedBy r with
  | none =>
    simp [SupervisionAggregates.contribute, outcomeSum, SupervisionAggregates.authorized, hc]
  | some c =>
    rw [contribute_eq hc]
    cases c <;> simp only [counter, setCounter, outcomeSum, SupervisionAggregates.authorized,
      Option.isSome_some, Bool.toNat_true] <;> omega

theorem raise_eq {c : OutcomeCounter} (h : a.counter c + 1 < u64Bound) :
    a.raise c = .ok (a.setCounter (a.counter c + 1) c) := by
  have hbump : bump (a.counter c) true = .ok (a.counter c + 1) := bump_of_lt h
  unfold raise
  rw [hbump]
  rfl

theorem largerPeak_none (peak : Option ℕ) : largerPeak peak none = peak := by cases peak <;> rfl

/-- **The two observations of a record add its contribution.** -/
theorem observe_eq (h : CountsOf a rs) (hlen : rs.length + 1 < u64Bound)
    (hsum : a.outcomeSum ≤ rs.length) :
    (a.observeAuthorization r).bind (·.observeResult r) = .ok (a.contribute r) := by
  rw [observeAuthorization_eq h hlen]
  change (a.authorized r).observeResult r = _
  have hraise (c : OutcomeCounter) :
      (a.authorized r).raise c = .ok ((a.authorized r).setCounter (a.counter c + 1) c) := by
    have hle : a.counter c ≤ a.outcomeSum := by
      cases c <;> simp only [counter, outcomeSum] <;> omega
    have hsame : (a.authorized r).counter c = a.counter c := by cases c <;> rfl
    rw [← hsame]
    exact raise_eq (by omega)
  cases ho : r.outcome with
  | some o =>
    rw [contribute_eq (show countedBy r = some (counterOf o) by simp [countedBy, ho])]
    simp only [observeResult, ho, observeOutcome, hraise, reportedPeak]
    cases counterOf o <;> rfl
  | none =>
    have hpeak : reportedPeak r = none := by simp [reportedPeak, ho]
    cases he : r.error with
    | some e =>
      rw [contribute_eq (by simp [countedBy, ho, he]; rfl), hpeak, largerPeak_none]
      simp only [observeResult, ho, he, observeError, hraise]
      split_ifs <;> rfl
    | none =>
      have hc : countedBy r = none := by simp [countedBy, ho, he]
      simp only [observeResult, ho, he, SupervisionAggregates.contribute, hc, hpeak,
        largerPeak_none]
      rfl

/-- The checked sum of the outcome counters is their sum, when that fits. -/
theorem outcomeTotal_of_lt (h : a.outcomeSum < u64Bound) : a.outcomeTotal = some a.outcomeSum := by
  unfold outcomeSum at *
  simp only [outcomeTotal, Option.bind_eq_bind]
  rw [checkedAdd_of_lt (by omega), Option.bind_some, checkedAdd_of_lt (by omega), Option.bind_some,
    checkedAdd_of_lt (by omega), Option.bind_some, checkedAdd_of_lt (by omega), Option.bind_some,
    checkedAdd_of_lt (by omega)]

/-- The counters folded over a list count that list. -/
theorem ofRecords_spec (rs : List AttemptRecord) (h : rs.length < u64Bound) :
    ∃ a, ofRecords rs = .ok a ∧ CountsOf a rs := by
  induction rs using List.reverseRecOn with
  | nil => exact ⟨{}, rfl, .nil⟩
  | append_singleton rs r ih =>
    rw [List.length_append, List.length_singleton] at h
    obtain ⟨a, ha, hc⟩ := ih (by omega)
    have ha' := observeAuthorization_eq (r := r) hc h
    refine ⟨a.authorized r, ?_, hc.authorized⟩
    unfold ofRecords at ha ⊢
    rw [List.foldlM_append, ha]
    simp only [List.foldlM_cons, List.foldlM_nil, bind, Except.bind, ha', pure, Except.pure]

end SupervisionAggregates

/-! ## What a valid history shows -/

namespace AttemptHistory

/-- The numbers and the counts of a valid history. -/
structure Plausible (h : AttemptHistory) : Prop where
  first : h.first.map (·.number) = if h.total = 0 then none else some 1
  retained : h.retained ≤ h.total
  omitted : h.omitted = h.total - h.retained
  recent : h.recent.map (·.number) = List.range' (h.total - h.recent.length + 1) h.recent.length

theorem recentValid_iff {start : ℕ} {l : List AttemptRecord} : recentValid start l = true ↔
      l.map (·.number) = List.range' start l.length ∧ ∀ r ∈ l, r.isConsistent = true := by
  induction l generalizing start with
  | nil => simp [recentValid]
  | cons r rs ih =>
    simp only [recentValid, Bool.and_eq_true, beq_iff_eq, ih, List.map_cons, List.length_cons,
      List.range'_succ, List.cons.injEq, List.forall_mem_cons]
    tauto

/-- **A history is valid exactly when it is plausible and its records are consistent.** -/
theorem validate_eq_true {h : AttemptHistory} :
    validate h = true ↔ Plausible h ∧ ∀ r ∈ h.records, r.isConsistent = true := by
  obtain ⟨first, recent, total, omitted⟩ := h
  unfold validate
  by_cases htotal : total = 0
  · subst htotal
    rw [if_pos rfl]
    constructor
    · intro h
      simp only [Bool.and_eq_true, Option.isNone_iff_eq_none, List.isEmpty_iff, beq_iff_eq] at h
      obtain ⟨⟨rfl, rfl⟩, rfl⟩ := h
      exact ⟨⟨rfl, Nat.le_refl 0, rfl, rfl⟩, by simp [Window.records]⟩
    · rintro ⟨h, -⟩
      have hfirst : first = none := by simpa using h.first
      have hretained := h.retained
      have homitted : omitted = 0 := h.omitted.trans (Nat.zero_sub _)
      simp only [Window.retained, Nat.le_zero, Nat.add_eq_zero_iff, List.length_eq_zero_iff]
        at hretained
      simp [hfirst, hretained.2, homitted]
  · rw [if_neg htotal]
    split_ifs with hfirst hcounts
    · refine iff_of_false not_false fun h => hfirst ?_
      simpa [htotal] using h.1.first
    · refine iff_of_false not_false fun h => ?_
      exact hcounts.elim (fun hlt => absurd h.1.retained (not_le.2 hlt)) fun hne => hne h.1.omitted
    · obtain ⟨hretained, homitted⟩ := not_or.1 hcounts
      obtain ⟨b, rfl, hb⟩ := Option.map_eq_some_iff.1 (not_not.1 hfirst)
      rw [Bool.and_eq_true, recentValid_iff]
      simp only [Option.any_some, Window.records, Option.toList_some, List.singleton_append,
        List.forall_mem_cons]
      constructor
      · rintro ⟨⟨hnumbers, hrecent⟩, hb'⟩
        exact ⟨⟨by simp [htotal, hb], not_lt.1 hretained, not_not.1 homitted, hnumbers⟩,
          hb', hrecent⟩
      · rintro ⟨h, hb', hrecent⟩
        exact ⟨⟨h.recent, hrecent⟩, hb'⟩

/-- The window of numbered records is plausible. -/
theorem plausible_ofList {k : ℕ} {rs : List AttemptRecord}
    (hnum : ∀ i r, rs[i]? = some r → r.number = i + 1) :
    Plausible (Window.ofList k rs) := by
  refine ⟨?_, ?_, Window.omitted_ofList, ?_⟩
  · cases rs with
    | nil => rfl
    | cons b bs => simpa [Window.ofList] using hnum 0 b rfl
  · rw [Window.retained_ofList, Window.total_ofList]
    exact Nat.sub_le ..
  · refine List.ext_getElem? fun i => ?_
    have hlen : (Window.ofList k rs).recent.length = _ := Window.length_recent_ofList
    rw [List.getElem?_map]
    by_cases hi : i < (Window.ofList k rs).recent.length
    · obtain ⟨r, hr⟩ : ∃ r, (Window.ofList k rs).recent[i]? = some r :=
        ⟨_, List.getElem?_eq_getElem hi⟩
      have hn := hnum _ _ (Window.getElem?_recent_ofList ▸ hr)
      rw [hr, Option.map_some, hn, List.getElem?_range' (by omega), Window.total_ofList]
      congr 1
      omega
    · rw [List.getElem?_eq_none (not_lt.1 hi), Option.map_none,
        List.getElem?_eq_none (by simpa using hi)]

end AttemptHistory

/-! ## Histories of whole runs -/

/-- The history and the counters were built from the records `rs`, in order. -/
structure HistoryOf (h : AttemptHistory) (a : SupervisionAggregates) (rs : List AttemptRecord) :
    Prop where
  window : h = Window.ofList (detailedAttemptCapacity - 1) rs
  counts : a.CountsOf rs
  outcomes : a.outcomeSum = rs.length
  numbered : ∀ i r, rs[i]? = some r → r.number = i + 1
  fits : rs.length < u64Bound

namespace HistoryOf

variable {h h' : AttemptHistory} {a a' : SupervisionAggregates} {rs : List AttemptRecord}

theorem empty : HistoryOf {} {} [] :=
  ⟨by simp, .nil, rfl, by simp, by decide⟩

variable (H : HistoryOf h a rs)

include H

theorem total : h.total = rs.length := by
  rw [H.window]
  rfl

/-- Every retained record is one of those appended. -/
theorem mem_of_mem_records {r : AttemptRecord} (hr : r ∈ h.records) : r ∈ rs := by
  rw [H.window] at hr
  exact Window.mem_of_mem_records hr

theorem latest : h.records.getLast? = rs.getLast? := by
  rw [H.window]
  exact Window.getLast?_records_ofList (by decide)

/-- **Appending.** The next record is accepted, and history and counters are those of the longer
run. -/
theorem append {r : AttemptRecord} (hnum : r.number = rs.length + 1)
    (hfit : rs.length + 1 < u64Bound) (hres : r.outcome.isSome ∨ r.error.isSome) :
    ∃ h' a', h.append r a = .ok (h', a') ∧ HistoryOf h' a' (rs ++ [r]) := by
  obtain ⟨a₁, ha₁, ha₂⟩ :=
    Fallible.bind_eq_ok.1 (SupervisionAggregates.observe_eq (r := r) H.counts hfit H.outcomes.le)
  have hcounted : (SupervisionAggregates.countedBy r).isSome = true := by
    cases ho : r.outcome with
    | some o => simp [SupervisionAggregates.countedBy, ho]
    | none =>
      obtain ⟨e, he⟩ := Option.isSome_iff_exists.1 (hres.resolve_left (by simp [ho]))
      simp [SupervisionAggregates.countedBy, ho, he]
  have hrecord : { r with number := rs.length + 1 } = r := by
    cases r
    cases hnum
    rfl
  have homitted : h.omitted + 1 < u64Bound := by
    have hle : h.omitted ≤ rs.length := by
      rw [H.window, Window.omitted_ofList]
      omega
    omega
  refine ⟨Window.push (detailedAttemptCapacity - 1) h r, a.contribute r, ?_, ?_⟩
  · unfold AttemptHistory.append
    rw [H.total, checkedAdd_of_lt hfit]
    simp only [hnum, ne_eq, not_true_eq_false, and_false, if_false, hrecord, ha₁, ha₂, bind,
      Except.bind, checkedAdd_of_lt homitted, reduceCtorEq]
    rfl
  · refine ⟨?_, H.counts.contribute, ?_, ?_, ?_⟩
    · rw [H.window, Window.push_ofList (by decide)]
    · rw [SupervisionAggregates.outcomeSum_contribute, hcounted, H.outcomes, List.length_append]
      rfl
    · intro i r' hi
      rw [List.getElem?_append, List.getElem?_singleton] at hi
      split_ifs at hi with hlt
      · exact H.numbered i r' hi
      · cases hi
        omega
    · rw [List.length_append, List.length_singleton]
      exact hfit

/-- **Validity.** The history of a run is valid exactly when the records it retains are
consistent. -/
theorem validate_iff :
    AttemptHistory.validate h = true ↔ ∀ r ∈ h.records, r.isConsistent = true := by
  rw [AttemptHistory.validate_eq_true, H.window]
  exact and_iff_right (AttemptHistory.plausible_ofList H.numbered)

/-- The authorization counters agree with what is retained, when the run starts with its only
initial attempt and no release is both confirmed and unknown. -/
theorem authorizationsMatch
    (hinitial : ∀ b, rs.head? = some b → b.kind = .initial)
    (hknown : ∀ r ∈ rs, r.isAuthorized = true → r.authorizationUnknown = false) :
    a.authorizationsMatch h.records h.total h.omitted = true := by
  have hkept : h.records.length < u64Bound := by
    have hsub : h.records.length ≤ rs.length := by
      rw [H.window]
      exact Window.records_sublist_ofList.length_le
    exact lt_of_le_of_lt hsub H.fits
  obtain ⟨kept, hk, hkc⟩ := SupervisionAggregates.ofRecords_spec h.records hkept
  have hevicted (p : AttemptRecord → Bool) :
      SupervisionAggregates.evictedWithin (rs.countP p) (h.records.countP p) h.omitted = true := by
    have hle : h.records.countP p ≤ rs.countP p := by
      rw [H.window]
      exact Window.countP_records_le p
    have hge : rs.countP p ≤ h.records.countP p + h.omitted := by
      rw [H.window]
      exact Window.countP_le_records p
    unfold SupervisionAggregates.evictedWithin
    rw [checkedSub_eq_some.2 ⟨hle, rfl⟩]
    exact decide_eq_true (by omega)
  have hsum : a.confirmedAuthorizations + a.unknownAuthorizationAttempts ≤ rs.length := by
    rw [H.counts.confirmed, H.counts.unknown,
      List.length_eq_countP_add_countP AttemptRecord.isAuthorized]
    refine Nat.add_le_add_left (List.countP_mono_left fun r hr hunknown => ?_) _
    refine decide_eq_true_iff.2 fun hauth => ?_
    cases hunknown.symm.trans (hknown r hr hauth)
  have hretry : a.retryAttemptsStarted ≤ rs.length - 1 := by
    rw [H.counts.retries]
    cases rs with
    | nil => simp
    | cons b bs =>
      have hb : b.isRetry = false := by simp [AttemptRecord.isRetry, hinitial b rfl]
      rw [List.countP_cons, hb]
      simpa using List.countP_le_length
  have hconfirmed : a.confirmedRetryAuthorizations ≤ a.confirmedAuthorizations := by
    rw [H.counts.confirmed, H.counts.authorizedRetries]
    refine List.countP_mono_left fun r _ hr => ?_
    simp only [AttemptRecord.isAuthorizedRetry, Bool.and_eq_true] at hr
    exact hr.2
  have hretried : a.confirmedRetryAuthorizations ≤ a.retryAttemptsStarted := by
    rw [H.counts.retries, H.counts.authorizedRetries]
    refine List.countP_mono_left fun r _ hr => ?_
    simp only [AttemptRecord.isAuthorizedRetry, Bool.and_eq_true] at hr
    exact hr.1
  have hfits := H.fits
  unfold SupervisionAggregates.authorizationsMatch
  rw [hk, H.total]
  simp only
  rw [checkedAdd_of_lt (lt_of_le_of_lt hsum H.fits), hkc.confirmed, hkc.unknown, hkc.retries,
    hkc.authorizedRetries]
  simp only [hsum, hretry, hconfirmed, hretried, decide_true, Bool.true_and]
  rw [H.counts.confirmed, H.counts.unknown, H.counts.retries, H.counts.authorizedRetries]
  simp only [hevicted, Bool.and_self]

end HistoryOf

end MemCordon
