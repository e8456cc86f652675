import MemCordon.Core.History

/-!
# Sequences of appends, and histories that are read

A history is filled by `AttemptHistory::append` and read back by its `Deserialize`, which ends in
`validate`. What a sequence of appends leaves is known exactly (`append_calls`): the window of the
records and the counters of all of them, evicted ones included. What the reader accepts is more than
that (`deserialize_iff`): it does not ask how many recent records there are, and its arithmetic
overflows at the largest total.
-/

namespace MemCordon

open Counter

/-! ## Sequences of appends -/

namespace AttemptHistory

/-- `AttemptHistory::append` on the history and the counters that it writes to: every assignment of
the source follows its last check. -/
def appendTo (record : AttemptRecord) (s : AttemptHistory × SupervisionAggregates) :
    Except SupervisionModelError ℕ × (AttemptHistory × SupervisionAggregates) :=
  match checkedAdd s.1.total 1 with
  | none => (.error .counterRange, s)
  | some number =>
    if record.number ≠ 0 ∧ record.number ≠ number then (.error .attemptNumber, s)
    else
      let record := { record with number }
      match (s.2.observeAuthorization record).bind (·.observeResult record) with
      | .error e => (.error e, s)
      | .ok next =>
        if s.1.first.isSome ∧ s.1.recent.length = detailedAttemptCapacity - 1 ∧
            checkedAdd s.1.omitted 1 = none then
          (.error .counterRange, s)
        else (.ok number, Window.push (detailedAttemptCapacity - 1) s.1 record, next)

/-- The history and the counters after a sequence of appends. -/
def appendAll (rs : List AttemptRecord) : AttemptHistory × SupervisionAggregates :=
  rs.foldl (fun s r => (appendTo r s).2) ({}, {})

variable {rs : List AttemptRecord} {r : AttemptRecord} {s : AttemptHistory × SupervisionAggregates}

/-- `append` is the same call, without what an error leaves. -/
theorem append_eq_appendTo : s.1.append r s.2 = (appendTo r s).1.map fun _ => (appendTo r s).2 := by
  unfold append appendTo
  cases checkedAdd s.1.total 1 with
  | none => rfl
  | some number =>
    dsimp only
    by_cases hgiven : r.number ≠ 0 ∧ r.number ≠ number
    · simp only [if_pos hgiven]
      rfl
    · simp only [if_neg hgiven]
      cases s.2.observeAuthorization { r with number } with
      | error e => rfl
      | ok next =>
        cases hsecond : next.observeResult { r with number } with
        | error e => simp [bind, Except.bind, hsecond, Except.map]
        | ok next' =>
          simp only [bind, Except.bind, hsecond]
          split_ifs <;> rfl

theorem appendTo_error {e : SupervisionModelError} (h : (appendTo r s).1 = .error e) :
    (appendTo r s).2 = s := by
  unfold appendTo at h ⊢
  cases hnumber : checkedAdd s.1.total 1 with
  | none => rfl
  | some number =>
    simp only [hnumber] at h ⊢
    by_cases hgiven : r.number ≠ 0 ∧ r.number ≠ number
    · rw [if_pos hgiven]
    · rw [if_neg hgiven] at h ⊢
      cases hnext :
        (s.2.observeAuthorization { r with number }).bind (·.observeResult { r with number }) with
      | error e => rfl
      | ok next =>
        simp only [hnext] at h ⊢
        split_ifs at h ⊢
        rfl

/-- The counters of the records of a sequence. -/
def contributions (rs : List AttemptRecord) : SupervisionAggregates :=
  rs.foldl SupervisionAggregates.contribute {}

theorem contributions_concat : contributions (rs ++ [r]) = (contributions rs).contribute r := by
  simp [contributions]

theorem countsOf_contributions (rs : List AttemptRecord) :
    (contributions rs).CountsOf rs ∧ (contributions rs).outcomeSum ≤ rs.length := by
  induction rs using List.reverseRecOn with
  | nil => exact ⟨.nil, le_rfl⟩
  | append_singleton rs r ih =>
    rw [contributions_concat, SupervisionAggregates.outcomeSum_contribute, List.length_append]
    exact ⟨ih.1.contribute, Nat.add_le_add ih.2 (Bool.toNat_le _)⟩

/-- The next record is appended. -/
theorem appendTo_next (hnum : r.number = rs.length + 1) (hfit : rs.length + 1 < u64Bound) :
    appendTo r (Window.ofList (detailedAttemptCapacity - 1) rs, contributions rs) =
      (.ok r.number, Window.ofList (detailedAttemptCapacity - 1) (rs ++ [r]),
        contributions (rs ++ [r])) := by
  have hrecord : { r with number := rs.length + 1 } = r := by rw [← hnum]
  have homitted : checkedAdd (Window.ofList (detailedAttemptCapacity - 1) rs).omitted 1 ≠ none := by
    rw [Ne, checkedAdd_eq_none, Window.omitted_ofList]
    omega
  unfold appendTo
  simp only [Window.total_ofList, checkedAdd_of_lt hfit, hnum, ne_eq, not_true_eq_false, and_false,
    if_false, hrecord]
  rw [← hnum]
  obtain ⟨hcounts, hsum⟩ := countsOf_contributions rs
  simp only [SupervisionAggregates.observe_eq hcounts hfit hsum, homitted, and_false, if_false,
    contributions_concat, Window.push_ofList (show 0 < detailedAttemptCapacity - 1 by decide)]

/-- A plausible history that keeps as many recent records as it can. -/
structure Shaped (h : AttemptHistory) : Prop extends Plausible h where
  window : h.recent.length = min (detailedAttemptCapacity - 1) (h.total - 1)

theorem shaped_ofList (hnum : ∀ i r, rs[i]? = some r → r.number = i + 1) :
    Shaped (Window.ofList (detailedAttemptCapacity - 1) rs) := by
  refine ⟨plausible_ofList hnum, ?_⟩
  simp only [Window.ofList, List.length_drop, List.length_tail]
  omega

theorem appendAll_eq (hnum : ∀ i r, rs[i]? = some r → r.number = i + 1)
    (hfit : rs.length < u64Bound) :
    appendAll rs = (Window.ofList (detailedAttemptCapacity - 1) rs, contributions rs) := by
  induction rs using List.reverseRecOn with
  | nil => simp [appendAll, contributions]
  | append_singleton rs r ih =>
    rw [List.length_append, List.length_singleton] at hfit
    have hinit : ∀ i r', rs[i]? = some r' → r'.number = i + 1 := fun i r' hi =>
      hnum i r' (by rw [List.getElem?_append_left (List.getElem?_eq_some_iff.1 hi).1]; exact hi)
    have hlast : r.number = rs.length + 1 := hnum rs.length r (by simp)
    have hprefix := ih hinit (Nat.lt_of_succ_lt hfit)
    unfold appendAll at hprefix ⊢
    rw [List.foldl_append, hprefix, List.foldl_cons, List.foldl_nil, appendTo_next hlast hfit]

/-- **Sequences of appends.** Records that are numbered from one on, in 64 bits, are all accepted.
The history then keeps the first of them and as many of the last ones as there is room for, and the
counters are the contributions of all of them. An append that fails, in whatever state, leaves the
history and the counters. -/
theorem append_calls (hnum : ∀ i r, rs[i]? = some r → r.number = i + 1)
    (hfit : ∀ r ∈ rs, r.number < u64Bound) :
    (∀ before r after, rs = before ++ r :: after →
      (appendTo r (appendAll before)).1 = .ok r.number) ∧
      (appendAll rs).1.Shaped ∧ (appendAll rs).1.total = rs.length ∧
      (appendAll rs).1.first = rs.head? ∧
      (appendAll rs).1.recent = rs.drop
      (rs.length - min (detailedAttemptCapacity - 1) (rs.length - 1)) ∧
      (appendAll rs).1.retained ≤ detailedAttemptCapacity ∧ (appendAll rs).2 = contributions rs ∧
      ∀ r s e, (appendTo r s).1 = .error e → (appendTo r s).2 = s := by
  have hlength : rs.length < u64Bound := by
    rcases List.eq_nil_or_concat rs with rfl | ⟨init, last, rfl⟩
    · decide
    · have hlast := hnum init.length last (by simp)
      have := hfit last (by simp)
      simp only [List.concat_eq_append, List.length_append, List.length_singleton]
      omega
  rw [appendAll_eq hnum hlength]
  refine ⟨?_, shaped_ofList hnum, rfl, rfl, Window.recent_ofList, Window.retained_ofList_le, rfl,
    fun r s e => appendTo_error⟩
  rintro before r after rfl
  have hbefore : ∀ i r', before[i]? = some r' → r'.number = i + 1 := fun i r' hi =>
    hnum i r' (by rw [List.getElem?_append_left (List.getElem?_eq_some_iff.1 hi).1]; exact hi)
  have hr : r.number = before.length + 1 := hnum before.length r (by simp)
  simp only [List.length_append, List.length_cons] at hlength
  rw [appendAll_eq hbefore (by omega), appendTo_next hr (by omega)]

/-- A record of an attempt that exited. -/
def exitedRecord (number : ℕ) : AttemptRecord where
  runtime := none
  policyEnforcement := .legacyUnspecified
  number := number
  kind := .initial
  phase := .completed
  targetPid := none
  startedOffsetMs := none
  authorizedOffsetMs := none
  terminalOffsetMs := none
  finishedOffsetMs := 0
  outcome := some
    (.exited (.exitCode 0) (some 4096) { directChildReaped := true, workloadEmpty := some true })
  error := none
  restartDecision := {}
  launch := { mechanism := "process" }
  restartSafety := {}
  boundaryDetail := .standard "process"

/-- The records of the first attempts, when all of them exited. -/
def exitedRecords (count : ℕ) : List AttemptRecord :=
  (List.range count).map fun i => exitedRecord (i + 1)

/-- Two records more than there is room for: the second and the third are evicted, and counted. -/
theorem append_calls_evicted :
    (appendAll (exitedRecords 258)).1.Shaped ∧
      (appendAll (exitedRecords 258)).1.first = some (exitedRecord 1) ∧
      (appendAll (exitedRecords 258)).1.recent.head? = some (exitedRecord 4) ∧
      (appendAll (exitedRecords 258)).2 = { childExits := 258, maxPeak := some 4096 } := by
  have hnum : ∀ i r, (exitedRecords 258)[i]? = some r → r.number = i + 1 := by
    intro i r hi
    obtain ⟨hi, rfl⟩ := List.getElem?_eq_some_iff.1 hi
    simp [exitedRecords, exitedRecord]
  have hfit : ∀ r ∈ exitedRecords 258, r.number < u64Bound := by
    simp only [exitedRecords, List.mem_map, List.mem_range]
    rintro _ ⟨i, hi, rfl⟩
    exact (by omega : i + 1 < 259).trans (by decide)
  obtain ⟨-, hshaped, -, hfirst, hrecent, -, hcounts, -⟩ := append_calls hnum hfit
  refine ⟨hshaped, hfirst, ?_, hcounts.trans (by decide +kernel)⟩
  rw [hrecent, List.head?_drop]
  simp [exitedRecords, detailedAttemptCapacity]

/-! ## Reading a history -/

/-- The fields that the derived reader gives: its records pass their own reader, and a total has 64
bits. -/
structure HistoryWire where
  history : AttemptHistory
  consistent : ∀ r ∈ history.records, r.isConsistent = true
  total_lt : history.total < u64Bound

/-- `validate` with the addition that it makes for the first recent number, which is nothing when it
overflows. -/
def validateExact (h : AttemptHistory) : Option Bool :=
  if h.total = 0 ∨ h.first.map (·.number) ≠ some 1 ∨ h.total < h.retained ∨
      h.omitted ≠ h.total - h.retained then
    some (validate h)
  else (checkedAdd (h.total - h.recent.length) 1).map fun start =>
    recentValid start h.recent && h.first.any (·.isConsistent)

variable {Json : Type} (read : Json → Except String HistoryWire)

/-- `AttemptHistory::deserialize`; nothing when the arithmetic overflows. -/
def deserialize (json : Json) : Option (Except String AttemptHistory) :=
  match read json with
  | .error e => some (.error e)
  | .ok wire => (validateExact wire.history).map fun valid =>
    if valid then .ok wire.history else .error "invalid attempt history"

/-- The reader does not overflow, and accepts only histories that appends produce. -/
structure ReadsOnlyShaped (json : Json) : Prop where
  total : (deserialize read json).isSome = true
  shaped : ∀ h, deserialize read json = some (.ok h) → h.Shaped

theorem validateExact_eq_some {h : AttemptHistory} {valid : Bool}
    (hvalid : validateExact h = some valid) :
    valid = validate h := by
  unfold validateExact at hvalid
  split_ifs at hvalid with hearly
  · exact (Option.some.inj hvalid).symm
  · simp only [not_or] at hearly
    obtain ⟨start, hstart, rfl⟩ := Option.map_eq_some_iff.1 hvalid
    rw [(checkedAdd_eq_some.1 hstart).2, validate, if_neg hearly.1, if_neg hearly.2.1,
      if_neg (not_or.2 hearly.2.2)]

/-- The addition overflows for a history that is plausible and lacks recent records. -/
theorem validateExact_eq_none {h : AttemptHistory} (hlt : h.total < u64Bound) :
    validateExact h = none ↔ h.Plausible ∧ u64Bound ≤ h.total - h.recent.length + 1 := by
  unfold validateExact
  split_ifs with hearly
  · refine iff_of_false nofun fun ⟨hshape, hlarge⟩ => ?_
    have htotal : h.total ≠ 0 :=
      fun h0 => by rw [h0, Nat.zero_sub] at hlarge; exact absurd hlarge (by decide)
    rcases hearly with h0 | hfirst | hretained | homitted
    · exact htotal h0
    · exact hfirst (by rw [hshape.first, if_neg htotal])
    · exact absurd hshape.retained (not_le.2 hretained)
    · exact homitted hshape.omitted
  · simp only [not_or, not_not, not_lt] at hearly
    obtain ⟨htotal, hfirst, hretained, homitted⟩ := hearly
    rw [Option.map_eq_none_iff, checkedAdd_eq_none]
    refine ⟨fun hlarge => ⟨⟨by rw [hfirst, if_neg htotal], hretained, homitted, ?_⟩, hlarge⟩,
      fun h => h.2⟩
    have hrecent : h.recent.length = 0 := by omega
    rw [List.length_eq_zero_iff.1 hrecent]
    rfl

/-- **What the reader accepts.** It reads only histories that appends produce, without overflowing,
exactly when a plausible history that it is given has all the recent records it can have. -/
theorem deserialize_iff (json : Json) :
    ReadsOnlyShaped read json ↔ ∀ wire, read json = .ok wire → wire.history.Plausible →
      wire.history.recent.length = min (detailedAttemptCapacity - 1) (wire.history.total - 1) := by
  constructor
  · rintro ⟨htotal, hshaped⟩ wire hread hshape
    simp only [deserialize, hread] at htotal hshaped
    cases hexact : validateExact wire.history with
    | none => simp [hexact] at htotal
    | some valid =>
      have hvalid : valid = true :=
        (validateExact_eq_some hexact).trans (validate_eq_true.2 ⟨hshape, wire.consistent⟩)
      exact (hshaped wire.history (by simp [hexact, hvalid])).window
  · intro hwindow
    cases hread : read json with
    | error e =>
      exact ⟨by simp [deserialize, hread],
        fun h haccepted => by simp [deserialize, hread] at haccepted⟩
    | ok wire =>
      cases hexact : validateExact wire.history with
      | none =>
        obtain ⟨hshape, hlarge⟩ := (validateExact_eq_none wire.total_lt).1 hexact
        have hlength := hwindow wire hread hshape
        have htotal := wire.total_lt
        unfold detailedAttemptCapacity at hlength
        unfold u64Bound at htotal hlarge
        omega
      | some valid =>
        refine ⟨by simp [deserialize, hread, hexact], fun h haccepted => ?_⟩
        simp only [deserialize, hread, hexact, Option.map_some, Option.some.injEq] at haccepted
        split_ifs at haccepted with hvalid
        cases haccepted
        have hshape := (validate_eq_true.1 ((validateExact_eq_some hexact).symm.trans hvalid)).1
        exact ⟨hshape, hwindow wire hread hshape⟩

/-- A history of several attempts that keeps only the first. -/
def lacking (total : ℕ) (htotal : total < u64Bound) : HistoryWire where
  history := { first := some (exitedRecord 1), total, omitted := total - 1 }
  consistent := List.forall_mem_singleton.2 (by decide)
  total_lt := htotal

/-- A history of three attempts is accepted with none of the later two, and the largest total
overflows. -/
theorem deserialize_lacking :
    deserialize (fun _ : Unit => .ok (lacking 3 (by decide))) () =
      some (.ok (lacking 3 (by decide)).history) ∧
      ¬ReadsOnlyShaped (fun _ : Unit => .ok (lacking 3 (by decide))) () ∧
      deserialize (fun _ : Unit => .ok (lacking u64Max (by decide))) () = none := by
  refine ⟨rfl, fun h => ?_, rfl⟩
  exact absurd (h.shaped _ rfl).window (by decide)

end AttemptHistory

end MemCordon
