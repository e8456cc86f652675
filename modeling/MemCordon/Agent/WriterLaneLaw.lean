import MemCordon.Agent.WriterLane

/-!
# What the threads of a writer lane do

The law of `WriterLane.system`. `Step` is the protocol of the lane, one rule for each kind of access
with what its thread knows then; `Consistent` is the invariant: the counter of pending snapshots
counts them, a failed publication is the last one, a closed lane has nothing left to publish.

* `Step.consistent`: every step keeps the invariant.
* `follows_writerLoop`, `follows_thread`: the writer and the callers take only steps of the
  protocol.
* `lane_safe`: under every schedule nothing is published after a failure, `commit` returns `Ok` only
  for a snapshot that was published, the revisions on the disk are contiguous, and a lane is removed
  only when everything was published.
-/

namespace MemCordon.WriterLane

open WindowsRecord WindowsAttempt CausalDiagnostics Counter Workload Fallible Thread

/-! ## The protocol -/

/-- Every publication that has returned was successful. -/
def Clean (s : Lane) : Prop := ∀ a ∈ s.attempts, a.ok = true

/-- A snapshot became the record. -/
def Published (x : Snapshot) (s : Lane) : Prop := ∃ p ∈ s.images, p.snapshot = x

/-- Nothing is left to publish, and all that was submitted was published. -/
def Quiet (s : Lane) : Prop :=
  s.pending = 0 ∧ s.queue = [] ∧ s.working = none ∧ s.adding = false ∧
    ∀ n x, s.sent n = some x → Published x s

/-- The revisions on the disk, the last one first. A record that is not there has revision zero. -/
def revisions (s : Lane) : List ℕ :=
  s.images.map (·.image.recordRevision) ++ [s.origin.elim 0 Record.recordRevision]

def revision (s : Lane) : ℕ := s.durable.elim 0 Record.recordRevision

/-- The accesses of a thread to the lane. -/
inductive Step : Party → Lane → Lane → Prop
  | stay {p : Party} {s : Lane} : Step p s s
  | registry {p : Party} {s : Lane} (locked : Bool) : Step p s { s with registryLocked := locked }
  | failure {p : Party} {s : Lane} (event : Option CausalEvent) :
    Step p s { s with failure := event }
  | quarantine {p : Party} {s : Lane} : Step p s { s with quarantined := true }
  | acquire {p : Party} {s : Lane} (hfree : s.guard = none) : Step p s { s with guard := some p }
  | release {p : Party} {s : Lane} (hguard : s.guard = some p) (hadding : s.adding = false) :
      Step p s { s with guard := none }
  | add {p : Party} {s : Lane} (hguard : s.guard = some p) (hopen : s.closed = false)
      (hadding : s.adding = false) :
      Step p s { s with pending := s.pending + 1, adding := true }
  | send {n : ℕ} {s : Lane} {x : Snapshot} (hguard : s.guard = some (.caller n))
      (hadding : s.adding = true)
      (hreceiving : s.receiving = true) (hnew : s.sent n = none) (hticket : x.ticket = s.submitted)
      (hsubmitter : x.submitter = n) : Step (.caller n) s { s with
        queue := s.queue ++ [x], sent := Function.update s.sent n (some x),
        submitted := s.submitted + 1, adding := false }
  | withdraw {p : Party} {s : Lane} (hguard : s.guard = some p) (hadding : s.adding = true) :
      Step p s { s with pending := s.pending - 1, adding := false }
  | close {p : Party} {s : Lane} (hguard : s.guard = some p) (hquarantined : s.quarantined = true)
      (hquiet : Quiet s) :
      Step p s { s with closed := true }
  | remove {p : Party} {s : Lane} (hclosed : s.closed = true) :
    Step p s { s with registered := false }
  | recv {s : Lane} {x : Snapshot} {rest : List Snapshot} (hqueue : s.queue = x :: rest)
      (hworking : s.working = none) :
      Step .writer s { s with queue := rest, taken := s.taken + 1, working := some x }
  | rename {s : Lane} {x : Snapshot} {image : Record} (hworking : s.working = some x)
      (hclean : Clean s)
      (hticket : x.ticket = s.attempts.length) (hrevision : image.recordRevision = revision s + 1) :
      Step .writer s { s with images := ⟨x, image⟩ :: s.images }
  | settle {s : Lane} {x : Snapshot} (ok : Bool) (hworking : s.working = some x) (hclean : Clean s)
      (hticket : x.ticket = s.attempts.length) (hpublished : ok = true → Published x s) :
      Step .writer s { s with attempts := s.attempts ++ [⟨x, ok⟩] }
  | finish {s : Lane} {x : Snapshot} (hguard : s.guard = some .writer)
      (hworking : s.working = some x)
      (htaken : s.taken = s.attempts.length) (hsettled : ∃ a ∈ s.attempts, a.snapshot = x)
      (hquarantined : ¬ Clean s → s.quarantined = true) :
      Step .writer s { s with pending := s.pending - 1, working := none }
  | complete {s : Lane} (n : ℕ) (result : Except String Record)
      (hpublished : ∀ r, result = .ok r →
      ∃ p ∈ s.images, s.sent n = some p.snapshot ∧ p.image = r) :
      Step .writer s { s with completions := Function.update s.completions n (some result) }
  | hangUp {s : Lane} (hquarantined : s.quarantined = true) :
    Step .writer s { s with receiving := false, queue := [] }

/-- The invariant of a lane. -/
structure Consistent (s : Lane) : Prop where
  /-- While the writer receives, the counter counts what is queued, taken, or about to be queued. -/
  counted : s.receiving = true →
    s.pending = s.queue.length + s.working.toList.length + s.adding.toNat
  queued : s.receiving = true → s.queue.map Snapshot.ticket = List.range' s.taken s.queue.length
  submitted : s.receiving = true → s.submitted = s.taken + s.queue.length
  taken : s.working = none → s.taken = s.attempts.length
  receiving : s.receiving = false → s.quarantined = true
  adding : s.guard = none → s.adding = false
  /-- A failure is known when the writer has counted it down. -/
  failed : s.working = none → ¬ Clean s → s.quarantined = true
  numbered : ∀ (k : ℕ) (a : Attempt), s.attempts[k]? = some a → a.snapshot.ticket = k
  last : ∀ (k : ℕ) (a : Attempt), s.attempts[k]? = some a → a.ok = false → k + 1 = s.attempts.length
  published : ∀ p ∈ s.images, p.snapshot.ticket ≤ s.attempts.length
  written : ∀ a ∈ s.attempts, a.ok = true → Published a.snapshot s
  stopped : ¬ Clean s → ∀ p ∈ s.images, p.snapshot.ticket < s.attempts.length
  /-- Where the snapshots are that were sent. -/
  placed : s.receiving = true → ∀ n x, s.sent n = some x →
    x ∈ s.queue ∨ s.working = some x ∨ ∃ a ∈ s.attempts, a.snapshot = x
  sentQueue : ∀ x ∈ s.queue, s.sent x.submitter = some x
  sentWorking : ∀ x, s.working = some x → s.sent x.submitter = some x
  completions : ∀ n r, s.completions n = some (.ok r) →
    ∃ p ∈ s.images, s.sent n = some p.snapshot ∧ p.image = r
  revisions : (revisions s).IsChain fun a b => a = b + 1
  closed : s.closed = true → s.quarantined = true ∧ Quiet s
  registered : s.registered = false → s.closed = true

theorem consistent_start (origin : Option Record) : Consistent (.start origin) := by
  constructor <;> simp [Lane.start, revisions, Clean]

theorem head?_revisions (s : Lane) : (revisions s).head? = some (revision s) := by
  unfold revisions revision Lane.durable
  cases s.images with
  | nil | cons p images => rfl

theorem getElem?_concat_cases {α : Type} {l : List α} {a b : α} {k : ℕ}
    (h : (l ++ [b])[k]? = some a) :
    l[k]? = some a ∨ (k = l.length ∧ a = b) := by
  rw [List.getElem?_append, List.getElem?_singleton] at h
  split_ifs at h with hlt hend
  · exact .inl h
  · exact .inr ⟨by omega, (Option.some.inj h).symm⟩

/-- What a closed lane is not doing. -/
theorem Consistent.closed_idle {s : Lane} (h : Consistent s) (hclosed : s.closed = true) :
    s.queue = [] ∧ s.working = none ∧ s.adding = false :=
  ⟨(h.closed hclosed).2.2.1, (h.closed hclosed).2.2.2.1, (h.closed hclosed).2.2.2.2.1⟩

/-- **Every step keeps the invariant.** -/
theorem Step.consistent {p : Party} {s s' : Lane} (h : Consistent s) (hstep : Step p s s') :
    Consistent s' := by
  cases hstep with
  | stay => exact h
  | registry locked | failure event => exact { h with }
  | quarantine =>
    exact { h with
      receiving := fun _ => rfl
      failed := fun _ _ => rfl
      closed := fun hclosed => ⟨rfl, (h.closed hclosed).2⟩ }
  | acquire hfree => exact { h with adding := fun hguard => nomatch hguard }
  | release hguard hadding => exact { h with adding := fun _ => hadding }
  | add hguard hopen hadding =>
    refine { h with counted := fun hreceiving => ?_, adding := fun hfree => ?_,
                    closed := fun hclosed => ?_ }
    · simp [h.counted hreceiving, hadding]
    · cases hguard.symm.trans hfree
    · cases hopen.symm.trans hclosed
  | @send n _ x hguard hadding hreceiving hnew hticket hsubmitter =>
    -- what was sent before is from another caller
    have hother : ∀ {m : ℕ} {y : Snapshot}, s.sent m = some y →
        Function.update s.sent n (some x) m = some y := by
      intro m y hsent
      rw [Function.update_of_ne, hsent]
      rintro rfl
      cases hnew.symm.trans hsent
    have hsubmitted := h.submitted hreceiving
    refine { h with
      counted := fun _ => ?_
      queued := fun _ => ?_
      submitted := fun _ => ?_
      adding := fun _ => rfl
      placed := fun _ m y hm => ?_
      sentQueue := fun y hy => ?_
      sentWorking := fun y hy => hother (h.sentWorking y hy)
      completions := fun m r hm => ?_
      closed := fun hclosed => ?_ }
    · simp [h.counted hreceiving, hadding, Nat.add_right_comm]
    · rw [List.map_append, h.queued hreceiving, List.length_append, List.length_singleton,
        List.range'_1_concat, List.map_singleton, hticket, hsubmitted]
    · rw [hsubmitted, List.length_append, List.length_singleton, Nat.add_assoc]
    · by_cases hmn : m = n
      · subst hmn
        cases (Function.update_self ..).symm.trans hm
        exact .inl (List.mem_append_right _ List.mem_cons_self)
      · refine (h.placed hreceiving m y ((Function.update_of_ne hmn _ _).symm.trans hm)).imp_left
          fun hy => ?_
        exact List.mem_append_left _ hy
    · rcases List.mem_append.1 hy with hy | hy
      · exact hother (h.sentQueue y hy)
      · rw [List.mem_singleton.1 hy, hsubmitter]
        exact Function.update_self ..
    · obtain ⟨p, hp, hsent, himage⟩ := h.completions m r hm
      exact ⟨p, hp, hother hsent, himage⟩
    · simp [(h.closed_idle hclosed).2.2] at hadding
  | withdraw hguard hadding =>
    refine { h with counted := fun hreceiving => ?_, adding := fun _ => rfl,
                    closed := fun hclosed => ?_ }
    · simp [h.counted hreceiving, hadding]
    · simp [(h.closed_idle hclosed).2.2] at hadding
  | close hguard hquarantined hquiet =>
    exact { h with closed := fun _ => ⟨hquarantined, hquiet⟩, registered := fun _ => rfl }
  | remove hclosed => exact { h with registered := fun _ => hclosed }
  | @recv _ x rest hqueue hworking =>
    refine { h with
      counted := fun hreceiving => ?_
      queued := fun hreceiving => ?_
      submitted := fun hreceiving => ?_
      taken := fun hnone => nomatch hnone
      failed := fun hnone => nomatch hnone
      placed := fun hreceiving n y hy => ?_
      sentQueue := fun y hy => h.sentQueue y (hqueue ▸ List.mem_cons_of_mem _ hy)
      sentWorking := fun y hy => ?_
      closed := fun hclosed => ?_ }
    · have hcounted := h.counted hreceiving
      rw [hqueue, hworking] at hcounted
      simpa [Nat.add_right_comm] using hcounted
    · have hqueued := h.queued hreceiving
      rw [hqueue, List.map_cons, List.length_cons, List.range'_succ] at hqueued
      exact (List.cons.inj hqueued).2
    · simp only [h.submitted hreceiving, hqueue, List.length_cons]
      omega
    · have hplaced := h.placed hreceiving n y hy
      rw [hqueue, hworking] at hplaced
      rcases hplaced with hy | hy | hy
      · rcases List.mem_cons.1 hy with rfl | hy
        · exact .inr (.inl rfl)
        · exact .inl hy
      · cases hy
      · exact .inr (.inr hy)
    · cases hy
      exact h.sentQueue x (hqueue ▸ List.mem_cons_self)
    · simp [(h.closed_idle hclosed).1] at hqueue
  | rename hworking hclean hticket hrevision =>
    refine { h with
      published := List.forall_mem_cons.2 ⟨hticket.le, h.published⟩
      written := fun a ha hok => (h.written a ha hok).imp fun p hp =>
        ⟨List.mem_cons_of_mem _ hp.1, hp.2⟩
      stopped := fun hfailed => absurd hclean hfailed
      completions := fun n r hn => (h.completions n r hn).imp fun p hp =>
        ⟨List.mem_cons_of_mem _ hp.1, hp.2⟩
      revisions := ?_
      closed := fun hclosed => ?_ }
    · refine List.isChain_cons.2 ⟨fun r hr => ?_, h.revisions⟩
      have hhead : some (revision s) = some r := (head?_revisions s).symm.trans hr
      rw [← Option.some.inj hhead]
      exact hrevision
    · simp [(h.closed_idle hclosed).2.1] at hworking
  | settle ok hworking hclean hticket hpublished =>
    refine { h with
      taken := fun hnone => ?_
      failed := fun hnone => ?_
      numbered := fun k a hk => ?_
      last := fun k a hk hfailed => ?_
      published := fun p hp => ?_
      written := fun a ha hok => ?_
      stopped := fun _ p hp => ?_
      placed := fun hreceiving n y hy => ?_
      closed := fun hclosed => ?_ }
    · cases hworking.symm.trans hnone
    · cases hworking.symm.trans hnone
    · rcases getElem?_concat_cases hk with hk | ⟨rfl, rfl⟩
      · exact h.numbered k a hk
      · exact hticket
    · rcases getElem?_concat_cases hk with hk | ⟨rfl, rfl⟩
      · cases hfailed.symm.trans (hclean a (List.mem_of_getElem? hk))
      · rw [List.length_append, List.length_singleton]
    · simpa using Nat.le_succ_of_le (h.published p hp)
    · rcases List.mem_append.1 ha with ha | ha
      · exact h.written a ha hok
      · cases List.mem_singleton.1 ha
        exact hpublished hok
    · simpa using Nat.lt_succ_of_le (h.published p hp)
    · refine (h.placed hreceiving n y hy).imp_right (Or.imp_right ?_)
      rintro ⟨a, ha, hsnapshot⟩
      exact ⟨a, List.mem_append_left _ ha, hsnapshot⟩
    · simp [(h.closed_idle hclosed).2.1] at hworking
  | finish hguard hworking htaken hsettled hquarantined =>
    refine { h with
      counted := fun hreceiving => ?_
      taken := fun _ => htaken
      failed := fun _ => hquarantined
      placed := fun hreceiving n y hy => ?_
      sentWorking := fun _ hnone => nomatch hnone
      closed := fun hclosed => ?_ }
    · simp [h.counted hreceiving, hworking, Nat.add_right_comm]
    · rcases h.placed hreceiving n y hy with hy | hy | hy
      · exact .inl hy
      · cases hworking.symm.trans hy
        exact .inr (.inr hsettled)
      · exact .inr (.inr hy)
    · simp [(h.closed_idle hclosed).2.1] at hworking
  | complete n result hpublished =>
    refine { h with completions := fun m r hm => ?_ }
    dsimp only at hm
    by_cases hmn : m = n
    · subst hmn
      rw [Function.update_self] at hm
      exact hpublished r (Option.some.inj hm)
    · rw [Function.update_of_ne hmn] at hm
      exact h.completions m r hm
  | hangUp hquarantined =>
    refine { h with
      counted := fun hreceiving => nomatch hreceiving
      queued := fun hreceiving => nomatch hreceiving
      submitted := fun hreceiving => nomatch hreceiving
      receiving := fun _ => hquarantined
      placed := fun hreceiving => nomatch hreceiving
      sentQueue := fun x hx => nomatch hx
      closed := fun hclosed => ?_ }
    obtain ⟨-, hpending, -, hrest⟩ := h.closed hclosed
    exact ⟨hquarantined, hpending, rfl, hrest⟩

theorem keeping : Keeping Step Consistent := fun _ _ _ h hstep => hstep.consistent h

/-- The thread takes only steps of the protocol, and returns with `Q`. -/
abbrev Does (p : Party) {α : Type} (Q : α → Lane → Prop) (m : Act α) (s : Lane) : Prop :=
  Follows Step Consistent p Q m s

/-- The other threads do not break the condition. -/
abbrev Kept (p : Party) (P : Lane → Prop) : Prop := Stable Step Consistent p P

/-! ## Callers -/

variable {j p : Party} {s s' : Lane}

section Caller

variable {n : ℕ} {o : Owner}

/-- Caller `n` has not submitted its snapshot. -/
def Unsent (n : ℕ) (s : Lane) : Prop := s.sent n = none

theorem stable_unsent : Kept (.caller n) (Unsent n) := by
  intro j s s' hj _ hstep hP
  cases hstep with
  | @send m _ x =>
    have hne : n ≠ m := fun h => hj (h ▸ rfl)
    exact (Function.update_of_ne hne _ _).trans hP
  | _ => exact hP

/-- Caller `n` holds the mutex. -/
def Held (n : ℕ) (s : Lane) : Prop := s.guard = some (.caller n) ∧ s.adding = false ∧ Unsent n s

/-- Only the holder of the mutex can count, queue or close, and give the mutex back. -/
theorem Step.guarded (hstep : Step j s s') (hguard : s.guard = some p) (hj : j ≠ p) :
    s'.guard = s.guard ∧ s'.adding = s.adding ∧ s'.pending = s.pending ∧ s'.closed = s.closed ∧
      s'.submitted = s.submitted := by
  have hother : s.guard ≠ some j := fun h => hj (Option.some.inj (h.symm.trans hguard))
  cases hstep with
  | acquire hfree => cases hguard.symm.trans hfree
  | release h | add h | send h | withdraw h | close h | finish h => exact absurd h hother
  | _ => exact ⟨rfl, rfl, rfl, rfl, rfl⟩

theorem stable_mutex {adding : Bool} : Kept p fun s => s.guard = some p ∧ s.adding = adding := by
  intro j s s' hj _ hstep hP
  obtain ⟨hguard, hadding, -⟩ := hstep.guarded hP.1 hj
  exact ⟨hguard.trans hP.1, hadding.trans hP.2⟩

theorem stable_held : Kept (.caller n) (Held n) := fun j s s' hj hinv hstep h =>
  and_assoc.1 (stable_mutex.and stable_unsent j s s' hj hinv hstep (and_assoc.2 h))

/-- Caller `n` holds the mutex of a lane that is not closed, and may have counted its snapshot. -/
def Counting (n : ℕ) (adding : Bool) (s : Lane) : Prop :=
  s.guard = some (.caller n) ∧ s.adding = adding ∧ s.closed = false ∧ Unsent n s

theorem stable_counting {adding : Bool} : Kept (.caller n) (Counting n adding) := by
  intro j s s' hj hinv hstep hP
  obtain ⟨hguard, hadding, hopen, hunsent⟩ := hP
  obtain ⟨hguard', hadding', -, hopen', -⟩ := hstep.guarded hguard hj
  exact ⟨hguard'.trans hguard, hadding'.trans hadding, hopen'.trans hopen,
    stable_unsent j s s' hj hinv hstep hunsent⟩

/-- Caller `n` has submitted a snapshot. -/
def SentBy (n : ℕ) (x : Snapshot) (s : Lane) : Prop := s.sent n = some x

variable {i : Party}

theorem stable_sentBy : Kept i (SentBy n x) := by
  intro j s s' _ _ hstep hP
  cases hstep with
  | @send m _ y hguard hadding hreceiving hnew =>
    have hne : n ≠ m := by
      rintro rfl
      cases hnew.symm.trans hP
    exact (Function.update_of_ne hne _ _).trans hP
  | _ => exact hP

theorem stable_true : Kept i fun _ => True := fun _ _ _ _ _ _ _ => trivial

variable {P : Lane → Prop}

variable {α : Type} {Q : α → Lane → Prop}

/-- A caller that gives up the mutex and returns. -/
theorem follows_unlock_return {a : α} (hP : Kept (.caller n) P)
    (hQ : Kept (.caller n) (Q a)) (hheld : ∀ s, P s → s.guard = some (.caller n) ∧ s.adding = false)
    (hreturn : ∀ s, P s → Q a { s with guard := none }) (h : P s) :
    Does (.caller n) Q (do unlock; return a) s := by
  refine follows_store_bind hP h fun s hinv h => ?_
  obtain ⟨hguard, hadding⟩ := hheld s h
  exact ⟨.release hguard hadding, follows_done hQ (hreturn s h)⟩

/-- The mutex is free, and the caller has it then, or the caller goes on without it. -/
theorem follows_tryLock_bind {next : Bool → Act α} (hstable : Kept (.caller n) P)
    (hP : P s) (hbusy : ∀ s, Consistent s → P s → Does (.caller n) Q (next false) s)
    (hlocked : ∀ s, Consistent s → P s → s.guard = none →
      Does (.caller n) Q (next true) { s with guard := some (.caller n) }) :
    Does (.caller n) Q (tryLock (.caller n) >>= next) s := by
  refine follows_update_bind hstable hP fun s hinv hP => ?_
  by_cases hguard : s.guard.isSome = true
  · rw [if_pos hguard]
    exact ⟨.stay, hbusy s hinv hP⟩
  · have hfree := Option.not_isSome_iff_eq_none.1 hguard
    rw [if_neg hguard]
    exact ⟨.acquire hfree, hlocked s hinv hP hfree⟩

theorem follows_lane (hstable : Kept (.caller n) P)
    (hregistry : ∀ s locked, P s → P { s with registryLocked := locked }) (hP : P s) :
    Does (.caller n) (fun _ s => P s) lane s := by
  refine follows_access_bind hstable (fun s w locked s' hinv hP haccess => ?_) hP
  split at haccess
  · cases haccess
    exact ⟨.stay, follows_done hstable hP⟩
  · cases haccess
    refine ⟨.registry true, follows_load_bind (fun _ => .stay) hstable (hregistry s true hP)
      fun s hinv hP => ?_⟩
    refine follows_store_bind hstable hP fun s hinv hP => ⟨.registry false, ?_⟩
    exact follows_done hstable (hregistry s false hP)

/-- What `try_submit` returns with. -/
def Submitted (n : ℕ) (x : ℕ → Snapshot) (result : Except String Unit) (s : Lane) : Prop :=
  result = .ok () → ∃ t, SentBy n (x t) s

variable {x : ℕ → Snapshot}

theorem stable_submitted {result : Except String Unit} :
    Kept (.caller n) (Submitted n x result) := by
  intro j s s' hj hinv hstep hP hok
  obtain ⟨t, ht⟩ := hP hok
  exact ⟨t, stable_sentBy j s s' hj hinv hstep ht⟩

variable {e : String}

theorem follows_unlock_error (h : Held n s) :
    Does (.caller n) (Submitted n x) (do unlock; return .error e) s :=
  follows_unlock_return (a := .error e) stable_held stable_submitted (fun _ h => ⟨h.1, h.2.1⟩)
    (fun _ _ h => nomatch h) h

/-- A caller that could not queue its snapshot takes its count back. -/
theorem follows_withdraw (h : Counting n true s) :
    Does (.caller n) (Submitted n x) (do withdrawPending; unlock; return .error e) s := by
  refine follows_store_bind stable_counting h fun s hinv h => ⟨.withdraw h.1 h.2.1, ?_⟩
  exact follows_unlock_error ⟨h.1, rfl, h.2.2.2⟩

/-- The queue, for a caller that has counted its snapshot. -/
theorem follows_trySend (hx : ∀ t, (x t).ticket = t ∧ (x t).submitter = n) (h : Counting n true s) :
      Does (.caller n) (Submitted n x) (do
        match ← trySend n x with
        | .ok =>
          unlock
          return .ok ()
        | .full =>
          withdrawPending
          unlock
          return .error "attempt writer queue full"
        | .disconnected =>
          withdrawPending
          unlock
          return .error "attempt writer unavailable") s := by
  refine follows_update_bind stable_counting h fun s hinv h => ?_
  by_cases hreceiving : s.receiving = false
  · rw [if_pos hreceiving]
    exact ⟨.stay, follows_withdraw h⟩
  rw [if_neg hreceiving]
  by_cases hfull : pendingSnapshots ≤ s.queue.length
  · rw [if_pos hfull]
    exact ⟨.stay, follows_withdraw h⟩
  rw [if_neg hfull]
  obtain ⟨hguard, hadding, -, hunsent⟩ := h
  obtain ⟨hticket, hsubmitter⟩ := hx s.submitted
  refine ⟨.send hguard hadding (eq_true_of_ne_false hreceiving) hunsent hticket hsubmitter, ?_⟩
  -- the snapshot is queued, and the mutex still held
  exact follows_unlock_return (stable_mutex.and stable_sentBy) stable_submitted (fun _ h => h.1)
    (fun _ h _ => ⟨_, h.2⟩) ⟨⟨hguard, rfl⟩, Function.update_self ..⟩

/-- `try_submit` either queues the snapshot or leaves the counter as it was. -/
theorem follows_trySubmit (hx : ∀ t, (x t).ticket = t ∧ (x t).submitter = n) (h : Unsent n s) :
    Does (.caller n) (Submitted n x) (trySubmit n x) s := by
  refine follows_tryLock_bind stable_unsent h (fun s hinv h => ?_) fun s hinv h hguard => ?_
  · exact follows_done stable_submitted fun h => nomatch h
  · have hheld : Held n { s with guard := some (.caller n) } := ⟨rfl, hinv.adding hguard, h⟩
    refine follows_load_bind (fun _ => .stay) stable_held hheld fun s hinv hheld => ?_
    cases hquarantined : s.quarantined with
    | true => exact follows_unlock_error hheld
    | false =>
      have hopen : s.closed = false := by
        by_contra hclosed
        cases hquarantined.symm.trans (hinv.closed (eq_true_of_ne_false hclosed)).1
      refine follows_store_bind (P := Counting n false) stable_counting
        ⟨hheld.1, hheld.2.1, hopen, hheld.2.2⟩ fun s hinv h => ⟨.add h.1 h.2.2.1 h.2.1, ?_⟩
      exact follows_trySend hx ⟨h.1, rfl, h.2.2⟩

theorem follows_submission (r : Record) (revision : ℕ) (confirm : Bool) (h : Unsent n s) :
    Does (.caller n) (Submitted n (submission n r revision confirm))
      (trySubmit n (submission n r revision confirm)) s :=
  follows_trySubmit (x := submission n r revision confirm) (fun _ => ⟨rfl, rfl⟩) h

/-- The snapshot of a commit was published, and the caller has its image. -/
def Confirmed (n : ℕ) (o : Owner) (returned : Returned) (s : Lane) : Prop :=
  ∃ p ∈ s.images, ∃ t, p.snapshot = submission n o.record (o.record.recordRevision + 1) true t ∧
    returned.owner = some { o with record := p.image }

theorem Step.images (hstep : Step j s s') : ∀ p ∈ s.images, p ∈ s'.images := by
  cases hstep with
  | rename => exact fun p hp => List.mem_cons_of_mem _ hp
  | _ => exact fun p hp => hp

/-- What `commit` returns with. -/
def CommitPost (n : ℕ) (o : Owner) (returned : Returned) (s : Lane) : Prop :=
  returned.reply = .ok → Confirmed n o returned s

variable {returned : Returned}

theorem stable_commitPost : Kept i (CommitPost n o returned) := by
  intro j s s' _ _ hstep hP hok
  obtain ⟨p, hp, hfacts⟩ := hP hok
  exact ⟨p, hstep.images p hp, hfacts⟩

theorem follows_refused {owner : Option Owner} :
    Does (.caller n) (CommitPost n o) (return ⟨.error e, owner⟩ : Act Returned) s :=
  follows_done stable_commitPost fun h => nomatch h

theorem follows_observe {t : ℕ}
    (h : SentBy n (submission n o.record (o.record.recordRevision + 1) true t) s) :
    Does (.caller n) (CommitPost n o) (observe n o) s := by
  refine follows_access_bind stable_sentBy (fun s w result s' hinv h haccess => ?_) h
  cases hcompletion : s.completions n with
  | some completion =>
    rw [hcompletion] at haccess
    cases haccess
    refine ⟨.stay, ?_⟩
    cases completion with
    | ok record =>
      -- the completion is that of the caller's own snapshot
      obtain ⟨p, hp, hsent, rfl⟩ := hinv.completions n record hcompletion
      have hsame := Option.some.inj (hsent.symm.trans h)
      exact follows_done stable_commitPost fun _ => ⟨p, hp, t, hsame, rfl⟩
    | error e =>
      refine follows_access_bind stable_true (fun s w event s' hinv _ haccess => ?_) trivial
      split at haccess
      · cases haccess
        exact ⟨.stay, follows_refused⟩
      · cases haccess
        exact ⟨.failure none, follows_refused⟩
  | none =>
    rw [hcompletion] at haccess
    dsimp only at haccess
    split at haccess
    · cases haccess
      exact ⟨.stay, follows_store_bind stable_true trivial fun s _ _ =>
        ⟨.quarantine, follows_refused⟩⟩
    · cases haccess

theorem follows_submitThen {confirm : Bool} {next : ℕ → Act Returned} {Q : Returned → Lane → Prop}
    (hstable : ∀ returned, Kept (.caller n) (Q returned))
    (hrefused : ∀ reply s, reply ≠ .ok → Q ⟨reply, some o⟩ s)
    (hnext : ∀ t s, SentBy n (submission n o.record (o.record.recordRevision + 1) confirm t) s →
      Does (.caller n) Q (next (o.record.recordRevision + 1)) s) (hinv :
    Consistent s) (h : Unsent n s) :
    Does (.caller n) Q (submitThen n o confirm next) s := by
  have hstop : ∀ {reply : Reply} {s : Lane}, reply ≠ .ok →
      Does (.caller n) Q (return ⟨reply, some o⟩) s :=
    fun {_ _} h => follows_done (hstable _) (hrefused _ _ h)
  refine follows_bind keeping hinv (follows_lane stable_unsent (fun _ _ h => h) h)
    fun found s hinv h => ?_
  cases found with
  | unavailable | elsewhere => exact hstop nofun
  | here =>
    refine follows_load_bind (fun _ => .stay) stable_unsent h fun s hinv h => ?_
    split
    · exact hstop nofun
    · cases hrevision : checkedAdd o.record.recordRevision 1 with
      | none => exact hstop nofun
      | some revision =>
        obtain ⟨-, rfl⟩ := checkedAdd_eq_some.1 hrevision
        refine follows_bind keeping hinv (follows_submission _ _ _ h)
          fun result s hinv hsubmitted => ?_
        cases result with
        | error e => exact hstop nofun
        | ok value =>
          obtain ⟨t, ht⟩ := hsubmitted rfl
          exact hnext t s ht

/-- **`commit` returns `Ok` only with the image of its own snapshot.** -/
theorem follows_commit (o : Owner) (hinv : Consistent s) (h : Unsent n s) :
    Does (.caller n) (CommitPost n o) (commit n o) s :=
  follows_submitThen (fun _ => stable_commitPost) (fun _ _ h hok => absurd hok h)
    (fun _ _ => follows_observe) hinv h

/-- A call without a promise about its result. -/
abbrev Anything : Returned → Lane → Prop := fun _ _ => True

theorem follows_return : Does i Anything (return returned : Act Returned) s :=
  follows_done stable_true trivial

theorem follows_tryCommitDiagnostics (o : Owner) (hinv : Consistent s) (h : Unsent n s) :
    Does (.caller n) Anything (tryCommitDiagnostics n o) s :=
  follows_submitThen (fun _ => stable_true) (fun _ _ _ => trivial)
    (fun _ _ _ => follows_return) hinv h

theorem follows_lock_bind {next : Unit → Act α} (h : Unsent n s)
    (hnext : ∀ s, Consistent s → Held n s → Does (.caller n) Q (next ()) s) :
    Does (.caller n) Q (lock (.caller n) >>= next) s := by
  refine follows_await_bind stable_unsent h fun s hinv h hfree => ?_
  have hguard := Option.isNone_iff_eq_none.1 hfree
  have hstep : Step (.caller n) s { s with guard := some (.caller n) } := .acquire hguard
  exact ⟨hstep, hnext _ (hstep.consistent hinv) ⟨rfl, hinv.adding hguard, h⟩⟩

theorem follows_waitWhilePending (fuel : ℕ) (h : Held n s) :
    Does (.caller n) (fun _ s => Held n s) (waitWhilePending n fuel) s := by
  induction fuel generalizing s with
  | zero => exact follows_halt
  | succ fuel ih =>
    refine follows_load_bind (fun _ => .stay) stable_held h fun s hinv h => ?_
    split
    · exact follows_done (Q := fun _ => Held n) stable_held h
    · refine follows_load_bind (fun _ => .stay) stable_held h fun s hinv h => ?_
      split
      · exact follows_done (Q := fun _ => Held n) stable_held h
      · refine follows_ask_bind (fun _ => .stay) stable_held h fun expired s hinv h => ?_
        split
        · exact follows_done (Q := fun _ => Held n) stable_held h
        · refine follows_store_bind stable_held h fun s hinv h => ⟨.release h.1 h.2.1, ?_⟩
          exact follows_lock_bind h.2.2 fun s _ h => ih h

theorem follows_unlock_anything (h : Held n s) :
    Does (.caller n) Anything (do unlock; return returned) s :=
  follows_unlock_return (a := returned) stable_held stable_true (fun _ h => ⟨h.1, h.2.1⟩)
    (fun _ _ => trivial) h

theorem follows_waitForPending (fuel : ℕ) (hinv : Consistent s) (h : Unsent n s) :
    Does (.caller n) Anything (waitForPending n fuel) s := by
  refine follows_bind keeping hinv (follows_lane stable_unsent (fun _ _ h => h) h)
    fun found s hinv h => ?_
  cases found with
  | unavailable | elsewhere => exact follows_return
  | here =>
    refine follows_lock_bind h fun s hinv h => ?_
    refine follows_bind keeping hinv (follows_waitWhilePending fuel h) fun expired s hinv h => ?_
    -- a wait that was too long, or found the lane quarantined, quarantines it
    have hafter : ∀ (quarantined : Bool) (s : Lane), Consistent s → Held n s →
          Does (.caller n) Anything (if quarantined then do
            quarantine
            let _ ← takeFailure
            unlock
            return ⟨.error "attempt cleanup publication is unconfirmed", none⟩
          else do
            unlock
            return ⟨.ok, none⟩) s := by
      intro quarantined s hinv h
      split
      · refine follows_store_bind stable_held h fun s hinv h => ⟨.quarantine, ?_⟩
        refine follows_access_bind (P := Held n) stable_held
          (fun s w event s' hinv h haccess => ?_) h
        split at haccess
        · cases haccess
          exact ⟨.stay, follows_unlock_anything h⟩
        · cases haccess
          exact ⟨.failure none, follows_unlock_anything h⟩
      · exact follows_unlock_anything h
    cases expired with
    | true => exact hafter true s hinv h
    | false =>
      exact follows_load_bind (fun _ => .stay) stable_held h fun s hinv h =>
        hafter s.quarantined s hinv h

/-! ## Retirement -/

/-- The caller has quarantined a lane that was not quarantined, and has held the mutex since. -/
def Closing (n : ℕ) (s : Lane) : Prop := Held n s ∧ s.quarantined = true ∧ (s.pending = 0 → Quiet s)

/-- Nothing moves in a quiet lane while the mutex is held. -/
theorem Step.quiet (hstep : Step j s s') (hguard : s.guard = some p) (hj : j ≠ p)
    (h : Quiet s) : Quiet s' := by
  have hother : s.guard ≠ some j := fun h => hj (Option.some.inj (h.symm.trans hguard))
  obtain ⟨hpending, hqueue, hworking, hrest⟩ := h
  cases hstep with
  | acquire hfree => cases hguard.symm.trans hfree
  | release h | add h | send h | withdraw h | finish h => exact absurd h hother
  | recv hnext => cases hqueue.symm.trans hnext
  | rename hnext | settle ok hnext => cases hworking.symm.trans hnext
  | hangUp => exact ⟨hpending, rfl, hworking, hrest⟩
  | _ => exact ⟨hpending, hqueue, hworking, hrest⟩

theorem Step.quarantined (hstep : Step j s s') (h : s.quarantined = true) :
    s'.quarantined = true := by
  cases hstep with
  | quarantine => rfl
  | _ => exact h

theorem stable_closing : Kept (.caller n) (Closing n) := by
  intro j s s' hj hinv hstep hP
  obtain ⟨hheld, hquarantined, hquiet⟩ := hP
  refine ⟨stable_held j s s' hj hinv hstep hheld, hstep.quarantined hquarantined,
    fun hpending => ?_⟩
  rw [(hstep.guarded hheld.1 hj).2.2.1] at hpending
  exact hstep.quiet hheld.1 hj (hquiet hpending)

/-- In a lane that is not quarantined and has nothing pending, everything was published. -/
theorem Consistent.quiet (h : Consistent s) (hquarantined : s.quarantined = false)
    (hpending : s.pending = 0) :
    Quiet s := by
  have hreceiving : s.receiving = true := by
    by_contra hgone
    cases hquarantined.symm.trans (h.receiving (eq_false_of_ne_true hgone))
  have hcounted := h.counted hreceiving
  rw [hpending] at hcounted
  have hqueue : s.queue = [] := List.eq_nil_of_length_eq_zero (by omega)
  have hworking : s.working = none := by
    cases hworking : s.working with
    | none => rfl
    | some x =>
      simp only [hworking, Option.toList_some, List.length_singleton] at hcounted
      omega
  have hadding : s.adding = false := by
    cases hadding : s.adding with
    | false => rfl
    | true =>
      simp only [hadding, Bool.toNat_true] at hcounted
      omega
  have hclean : Clean s := by
    by_contra hfailed
    cases hquarantined.symm.trans (h.failed hworking hfailed)
  refine ⟨hpending, hqueue, hworking, hadding, fun n x hx => ?_⟩
  rcases h.placed hreceiving n x hx with hx | hx | ⟨a, ha, rfl⟩
  · rw [hqueue] at hx
    cases hx
  · cases hworking.symm.trans hx
  · exact h.written a ha (hclean a ha)

/-- What `close_lane` returns with. -/
def ClosedBy (n : ℕ) (result : Except String Unit) (s : Lane) : Prop :=
  Unsent n s ∧ (result = .ok () → s.closed = true)

theorem Step.closed (hstep : Step j s s') (h : s.closed = true) : s'.closed = true := by
  cases hstep with
  | close => rfl
  | _ => exact h

theorem stable_closedBy {result : Except String Unit} : Kept (.caller n) (ClosedBy n result) :=
  stable_unsent.and fun _ _ _ _ _ hstep h hok => hstep.closed (h hok)

theorem follows_closeLane (h : Unsent n s) : Does (.caller n) (ClosedBy n) (closeLane n) s := by
  refine follows_tryLock_bind stable_unsent h (fun s hinv h => ?_) fun s hinv h hguard => ?_
  · exact follows_done stable_closedBy ⟨h, fun h => nomatch h⟩
  have hheld : Held n { s with guard := some (.caller n) } := ⟨rfl, hinv.adding hguard, h⟩
  refine follows_update_bind stable_held hheld fun s hinv h => ⟨.quarantine, ?_⟩
  dsimp only
  cases hquarantined : s.quarantined with
  | true =>
    exact follows_unlock_return (a := .error _) stable_held stable_closedBy
      (fun _ h => ⟨h.1, h.2.1⟩) (fun _ h => ⟨h.2.2, fun h => nomatch h⟩) h
  | false =>
    have hclosing : Closing n { s with quarantined := true } := ⟨h, rfl, hinv.quiet hquarantined⟩
    refine follows_update_bind stable_closing hclosing fun s hinv h => ?_
    obtain ⟨hheld, hquarantined, hquiet⟩ := h
    by_cases hpending : s.pending = 0
    · rw [if_pos hpending, if_pos hpending]
      refine ⟨.close hheld.1 hquarantined (hquiet hpending), ?_⟩
      have hstable : Kept (.caller n) fun s => Held n s ∧ s.closed = true :=
        stable_held.and fun _ _ _ _ _ hstep h => hstep.closed h
      exact follows_unlock_return (s := { s with closed := true })
        (a := .ok ()) hstable stable_closedBy (fun _ h => ⟨h.1.1, h.1.2.1⟩)
        (fun _ h => ⟨h.1.2.2, fun _ => h.2⟩) ⟨hheld, rfl⟩
    · rw [if_neg hpending, if_neg hpending]
      refine ⟨.stay, ?_⟩
      exact follows_unlock_return (a := .error _) stable_held stable_closedBy
        (fun _ h => ⟨h.1, h.2.1⟩) (fun _ h => ⟨h.2.2, fun h => nomatch h⟩) hheld

/-- What follows in `retire` when the lane is closed, or was removed before. -/
theorem follows_closed (closing : Except String Unit) : ClosedBy n closing s →
    Does (.caller n) Anything (match closing with
    | .error e => do
      unlockRegistry
      return ⟨.error e, none⟩
    | .ok () => do
      removeLane
      let admission ← Thread.ask Answer.admission
      unlockRegistry
      match admission with
      | .error e => return ⟨.error e, none⟩
      | .ok () => return ⟨.ok, none⟩) s := by
  intro h
  cases closing with
  | error e =>
    exact follows_store_bind stable_true trivial fun s _ _ => ⟨.registry false, follows_return⟩
  | ok value =>
    refine follows_store_bind stable_closedBy h fun s hinv h => ⟨.remove (h.2 rfl), ?_⟩
    refine follows_ask_bind (fun _ => .stay) stable_true trivial fun admission s _ _ => ?_
    refine follows_store_bind stable_true trivial fun s _ _ => ⟨.registry false, ?_⟩
    cases admission with
    | error e | ok value => exact follows_return

theorem follows_retire (h : Unsent n s) : Does (.caller n) Anything (retire n) s := by
  refine follows_access_bind stable_unsent (fun s w locked s' hinv h haccess => ?_) h
  split at haccess
  · cases haccess
    exact ⟨.stay, follows_return⟩
  · cases haccess
    have hlocked : Unsent n { s with registryLocked := true } := h
    refine ⟨.registry true, follows_load_bind (fun _ => .stay) stable_unsent hlocked
      fun s hinv h => ?_⟩
    cases hregistered : s.registered with
    | true =>
      exact follows_bind keeping hinv (follows_closeLane h) fun closing _ _ =>
        follows_closed closing
    | false => exact follows_closed (.ok ()) ⟨h, fun _ => hinv.registered hregistered⟩

end Caller

/-! ## The writer -/

/-- Only the writer takes snapshots and publishes them. -/
theorem Step.unwritten (hstep : Step j s s') (hj : j ≠ .writer) :
    s'.receiving = s.receiving ∧ s'.working = s.working ∧ s'.attempts = s.attempts ∧
      s'.taken = s.taken ∧ s'.images = s.images ∧ s'.origin = s.origin := by
  cases hstep with
  | recv | rename | settle | finish | complete | hangUp => exact absurd rfl hj
  | _ => exact ⟨rfl, rfl, rfl, rfl, rfl, rfl⟩

theorem follows_hangUp (h : s.quarantined = true) : Does .writer (fun _ _ => True) hangUp s := by
  refine follows_access (P := fun s => s.quarantined = true) (fun j s s' _ _ hstep h =>
    hstep.quarantined h) ?_ h
  rintro s w value s' hinv h ⟨⟩
  exact ⟨.hangUp h, follows_done stable_true trivial⟩

/-- The writer waits for a snapshot. -/
def Waiting (s : Lane) : Prop := s.receiving = true ∧ s.working = none

theorem stable_waiting : Kept .writer Waiting := by
  intro j s s' hj _ hstep hP
  obtain ⟨hreceiving, hworking, -⟩ := hstep.unwritten hj
  exact ⟨hreceiving.trans hP.1, hworking.trans hP.2⟩

variable {x : Snapshot} {result : Except WriterFailure Record}

/-- The writer has taken a snapshot. -/
def Taken (x : Snapshot) (s : Lane) : Prop :=
  s.receiving = true ∧ s.working = some x ∧ x.ticket = s.attempts.length ∧
    s.taken = s.attempts.length + 1

/-- A failure is known. -/
def Warned (s : Lane) : Prop := ¬ Clean s → s.quarantined = true

theorem stable_taken : Kept .writer (Taken x) := by
  intro j s s' hj _ hstep hP
  obtain ⟨hreceiving, hworking, hattempts, htaken, -⟩ := hstep.unwritten hj
  unfold Taken
  rwa [hreceiving, hworking, hattempts, htaken]

theorem stable_warned : Kept .writer Warned := by
  intro j s s' hj _ hstep h hfailed
  unfold Clean at hfailed
  rw [(hstep.unwritten hj).2.2.1] at hfailed
  exact hstep.quarantined (h hfailed)

/-- The writer publishes a snapshot, and nothing has failed before. -/
def Publishing (x : Snapshot) (s : Lane) : Prop := Taken x s ∧ Clean s

theorem stable_publishing : Kept .writer (Publishing x) := by
  refine stable_taken.and fun j s s' hj _ hstep h => ?_
  unfold Clean
  rwa [(hstep.unwritten hj).2.2.1]

/-- The snapshot was published when the result is its image. -/
def Written (x : Snapshot) (result : Except WriterFailure Record) (s : Lane) : Prop :=
  ∀ image, result = .ok image → ⟨x, image⟩ ∈ s.images

theorem stable_written : Kept i (Written x result) :=
  fun _ _ _ _ _ hstep hP image h => hstep.images _ (hP image h)

theorem stable_published : Kept .writer fun s => Publishing x s ∧ Written x result s :=
  stable_publishing.and stable_written

/-- The writer has read the record on the disk. -/
theorem stable_read (previous : Option Record) : Kept .writer fun s => Publishing x s ∧
    s.durable = previous := by
  refine stable_publishing.and fun j s s' hj _ hstep h => ?_
  obtain ⟨-, -, -, -, himages, horigin⟩ := hstep.unwritten hj
  unfold Lane.durable
  rwa [himages, horigin]

theorem Written.published (h : Written x result s)
    (hok : result.isOk = true) : Published x s := by
  cases result with
  | error e => cases hok
  | ok image => exact ⟨_, h image rfl, rfl⟩

/-- The publication of a snapshot has returned. -/
def Settled (x : Snapshot) (result : Except WriterFailure Record) (s : Lane) : Prop :=
  s.receiving = true ∧ s.working = some x ∧ s.taken = s.attempts.length ∧
    (∃ a ∈ s.attempts, a.snapshot = x) ∧ Written x result s

theorem settled_settle {ok : Bool} (htaken : Taken x s)
    (hwritten : Written x result s) :
    Settled x result { s with attempts := s.attempts ++ [⟨x, ok⟩] } := by
  obtain ⟨hreceiving, hworking, -, htaken⟩ := htaken
  refine ⟨hreceiving, hworking, ?_, ⟨_, List.mem_concat_self, rfl⟩, hwritten⟩
  rw [List.length_append]
  exact htaken

theorem clean_settle {ok : Bool} (h : Clean s) (hok : ok = true) :
    Clean { s with attempts := s.attempts ++ [⟨x, ok⟩] } := by
  intro a ha
  rcases List.mem_append.1 ha with ha | ha
  · exact h a ha
  · rw [List.mem_singleton.1 ha]
    exact hok

theorem stable_settled : Kept .writer (Settled x result) := by
  intro j s s' hj _ hstep hP
  obtain ⟨hreceiving, hworking, hattempts, htaken, himages, -⟩ := hstep.unwritten hj
  unfold Settled Written
  rw [hreceiving, hworking, hattempts, htaken, himages]
  exact hP

theorem stable_settled_warned : Kept .writer fun s => Settled x result s ∧ Warned s :=
  stable_settled.and stable_warned

theorem follows_noteFailure (h : Settled x result s)
    (hwarned : result.isOk = true → Warned s) :
    Does .writer (fun _ s => Settled x result s ∧ Warned s) (noteFailure result) s := by
  cases result with
  | ok image =>
    exact follows_done (Q := fun _ s => Settled x (.ok image) s ∧ Warned s) stable_settled_warned
      ⟨h, hwarned rfl⟩
  | error failure =>
    refine follows_store_bind stable_settled h fun s hinv h => ⟨.failure _, ?_⟩
    refine follows_access (P := Settled x (.error failure)) stable_settled ?_ h
    rintro s w value s' hinv h ⟨⟩
    exact ⟨.quarantine, follows_done stable_settled_warned ⟨h, fun _ => rfl⟩⟩

/-- The writer holds the mutex. -/
def Locked (s : Lane) : Prop := s.guard = some .writer ∧ s.adding = false

theorem stable_locked : Kept .writer Locked := stable_mutex

/-- The writer has counted a snapshot down that was published when the result is its image. -/
def Finished (x : Snapshot) (result : Except WriterFailure Record) (s : Lane) : Prop :=
  Waiting s ∧ SentBy x.submitter x s ∧ Written x result s

theorem stable_finished : Kept .writer (Finished x result) :=
  stable_waiting.and (stable_sentBy.and stable_written)

/-- The end of a turn of the writer. -/
theorem follows_finish {α : Type} {Q : α → Lane → Prop} {rest : Act α}
    (hrest : ∀ s, Waiting s → Does .writer Q rest s)
    (h : Settled x result s ∧ Warned s) : Does .writer Q
      (do lock .writer; finishPending; unlock; confirm x result; rest) s := by
  refine follows_await_bind stable_settled_warned h fun s hinv h hfree => ?_
  have hguard := Option.isNone_iff_eq_none.1 hfree
  have hlocked : Locked { s with guard := some .writer } := ⟨rfl, hinv.adding hguard⟩
  refine ⟨.acquire hguard, follows_store_bind (stable_locked.and stable_settled_warned) ⟨hlocked, h⟩
    fun s hinv h => ?_⟩
  obtain ⟨⟨hguard, hadding⟩, ⟨hreceiving, hworking, htaken, hsettled, hwritten⟩, hwarned⟩ := h
  have hfinished : Locked { s with pending := s.pending - 1, working := none } ∧
      Finished x result { s with pending := s.pending - 1, working := none } :=
    ⟨⟨hguard, hadding⟩, ⟨hreceiving, rfl⟩, hinv.sentWorking x hworking, hwritten⟩
  refine ⟨.finish hguard hworking htaken hsettled hwarned, follows_store_bind
    (stable_locked.and stable_finished) hfinished fun s hinv h => ⟨.release h.1.1 h.1.2, ?_⟩⟩
  have hfinished : Finished x result { s with guard := none } := h.2
  unfold confirm
  split
  · refine follows_store_bind stable_finished hfinished fun s hinv h =>
      ⟨.complete _ _ fun r hr => ?_, ?_⟩
    · exact ⟨_, h.2.2 r (mapError_eq_ok.1 hr), h.2.1, rfl⟩
    · exact hrest _ h.1
  · exact hrest _ hfinished.1

section Writer

variable [Sha256] [Wire] [TextLength Record] {generation : String}

/-- The image of a snapshot has the revision after that of the record on the disk. -/
theorem recordRevision_publishImage {m : Moment} {r image : Record} {expectedRevision : ℕ}
    (h : publishImage generation m s.durable r expectedRevision = .ok image) :
    image.recordRevision = revision s + 1 := by
  obtain ⟨hprevious, hnone, -, hrevision, hstore⟩ := publishImage_eq_ok.1 h
  obtain ⟨canonical, -, rfl, -⟩ := authenticatedStore_eq_ok.1 hstore
  have hexpected : expectedRevision = revision s := by
    unfold revision
    cases hdurable : s.durable with
    | none => exact hnone hdurable
    | some p =>
      obtain ⟨-, hreplace⟩ := hprevious p hdurable
      unfold mayReplace at hreplace
      simp only [Bool.and_eq_true, beq_iff_eq] at hreplace
      exact hreplace.1.1.1.1.1.1.symm
  rw [← hexpected]
  exact hrevision

/-- **A publication adds the next revision.** -/
theorem follows_publishExclusive (h : Publishing x s) :
    Does .writer (fun result s => Publishing x s ∧
      Written x result s) (publishExclusive generation x) s := by
  have hfail : ∀ {e : WriterFailure} {s : Lane}, Publishing x s →
      Does .writer (fun result s => Publishing x s ∧ Written x result s) (return .error e) s :=
    fun {_ _} h => follows_done stable_published ⟨h, fun _ h => nomatch h⟩
  refine follows_ask_bind (fun _ => .stay) stable_publishing h fun owned s hinv h => ?_
  cases owned with
  | error e => exact hfail h
  | ok value =>
    refine follows_load_bind (fun _ => .stay) stable_publishing h fun s hinv h => ?_
    refine follows_ask_bind (fun _ => .stay) (stable_read s.durable) ⟨h, rfl⟩
      fun moment s' hinv h => ?_
    cases himage : publishImage generation moment s.durable x.record x.expectedRevision with
    | error e => exact hfail h.1
    | ok image =>
      refine follows_access_bind (stable_read s.durable) (fun s w result s' hinv h haccess => ?_) h
      obtain ⟨⟨htaken, hclean⟩, hdurable⟩ := h
      rw [← hdurable] at himage
      have hstep : Step .writer s { s with images := ⟨x, image⟩ :: s.images } :=
        .rename htaken.2.1 hclean htaken.2.2.1 (recordRevision_publishImage himage)
      cases hrenamed : w.renamed with
      | ok value =>
        rw [hrenamed] at haccess
        cases haccess
        have hwritten : Publishing x { s with images := ⟨x, image⟩ :: s.images } ∧
            Written x (.ok image) { s with images := ⟨x, image⟩ :: s.images } :=
          ⟨⟨htaken, hclean⟩, fun _ h => Except.ok.inj h ▸ List.mem_cons_self⟩
        refine ⟨hstep, follows_ask_bind (fun _ => .stay) stable_published hwritten
          fun readback s hinv h => ?_⟩
        cases readback with
        | error e => exact hfail h.1
        | ok value => exact follows_done (a := Except.ok image) stable_published h
      | error failure =>
        obtain ⟨failure, renamed⟩ := failure
        rw [hrenamed] at haccess
        cases renamed with
        | true =>
          cases haccess
          exact ⟨hstep, hfail ⟨htaken, hclean⟩⟩
        | false =>
          cases haccess
          exact ⟨.stay, hfail ⟨htaken, hclean⟩⟩

/-- **The writer takes only steps of the protocol.** -/
theorem follows_writerLoop (fuel : ℕ) (h : Waiting s) :
    Does .writer (fun _ _ => True) (writerLoop generation fuel) s := by
  induction fuel generalizing s with
  | zero => exact follows_halt
  | succ fuel ih =>
    refine follows_access_bind stable_waiting (fun s w next s' hinv h haccess => ?_) h
    obtain ⟨hreceiving, hworking⟩ := h
    cases hqueue : s.queue with
    | nil =>
      rw [hqueue] at haccess
      dsimp only at haccess
      split at haccess
      next hgone =>
        cases haccess
        have hregistered : s.registered = false := by
          simp only [Bool.and_eq_true, Bool.not_eq_true'] at hgone
          exact hgone.2
        exact ⟨.stay, follows_hangUp (hinv.closed (hinv.registered hregistered)).1⟩
      next => cases haccess
    | cons x rest =>
      rw [hqueue] at haccess
      cases haccess
      -- the snapshot is the next one that was submitted
      have hqueued := hinv.queued hreceiving
      rw [hqueue, List.map_cons, List.length_cons, List.range'_succ, hinv.taken hworking] at hqueued
      have htaken : Taken x { s with queue := rest, taken := s.taken + 1, working := some x } :=
        ⟨hreceiving, rfl, (List.cons.inj hqueued).1, congrArg (· + 1) (hinv.taken hworking)⟩
      refine ⟨.recv hqueue hworking,
        follows_load_bind (fun _ => .stay) (stable_taken.and stable_warned)
        ⟨htaken, hinv.failed hworking⟩ fun s hinv h => ?_⟩
      obtain ⟨htaken, hwarned⟩ := h
      cases hquarantined : s.quarantined with
      | true => exact follows_hangUp hquarantined
      | false =>
        have hclean : Clean s := by
          by_contra hfailed
          cases hquarantined.symm.trans (hwarned hfailed)
        refine follows_bind keeping hinv (follows_publishExclusive ⟨htaken, hclean⟩)
          fun result s hinv h => ?_
        refine follows_store_bind stable_published h fun s hinv h => ?_
        obtain ⟨⟨htaken, hclean⟩, hwritten⟩ := h
        have hstep : Step .writer s { s with attempts := s.attempts ++ [⟨x, result.isOk⟩] } :=
          .settle _ htaken.2.1 hclean htaken.2.2.1 hwritten.published
        refine ⟨hstep, follows_bind keeping (hstep.consistent hinv)
          (follows_noteFailure (settled_settle htaken hwritten) fun hok => ?_) fun _ s hinv h => ?_⟩
        · exact fun hfailed => absurd (clean_settle hclean hok) hfailed
        · exact follows_finish (fun _ h => ih h) h

/-! ## The law of a lane -/

/-- What the threads return with. -/
def Post (calls : ℕ → Call) : Party → Returned → Lane → Prop
  | .writer, _, _ => True
  | .caller n, returned, s => ∀ o, calls n = .commit o → CommitPost n o returned s

omit [Sha256] [Wire] [TextLength Record] in
theorem follows_thread (calls : ℕ → Call) (n fuel : ℕ) (hinv : Consistent s) (h : Unsent n s) :
    Does (.caller n) (Post calls (.caller n)) ((calls n).thread n fuel) s := by
  cases hcall : calls n with
  | commit o =>
    refine (follows_commit o hinv h).mono fun returned s _ hpost o' ho' => ?_
    cases hcall.symm.trans ho'
    exact hpost
  | tryCommitDiagnostics o =>
    exact (follows_tryCommitDiagnostics o hinv h).mono fun _ _ _ _ _ ho =>
      nomatch hcall.symm.trans ho
  | waitForPending =>
    exact (follows_waitForPending fuel hinv h).mono fun _ _ _ _ _ ho => nomatch hcall.symm.trans ho
  | retire => exact (follows_retire h).mono fun _ _ _ _ _ ho => nomatch hcall.symm.trans ho

theorem obeys_system (generation : String) (origin : Option Record) (calls : ℕ → Call) (fuel : ℕ) :
    (system generation origin calls fuel).Obeys Step Consistent (Post calls) where
  inv := consistent_start origin
  follows
    | .writer => follows_bind keeping (consistent_start origin) (follows_writerLoop fuel ⟨rfl, rfl⟩)
        fun _ _ _ _ => follows_done stable_true trivial
    | .caller n => follows_thread calls n fuel (consistent_start origin) rfl

/-- **The writer lane is safe under every schedule.** Nothing that was queued after a snapshot whose
publication failed is published; `commit` returns `Ok` only with the image of its own snapshot; the
revisions on the disk are contiguous; and a lane that was removed has nothing in flight and nothing
submitted that was not published. -/
theorem lane_safe (generation : String) (origin : Option Record) (calls : ℕ → Call) (fuel : ℕ)
    (schedule : List (Party × Answer)) {S : System Lane Answer Returned Party}
    (hrun : (system generation origin calls fuel).run schedule = some S) :
    (∀ a ∈ S.shared.attempts, a.ok = false →
      ∀ p ∈ S.shared.images, p.snapshot.ticket ≤ a.snapshot.ticket) ∧
      (∀ n o returned, calls n = .commit o → (S.threads (.caller n)).value? = some returned →
        returned.reply = .ok → Confirmed n o returned S.shared) ∧
      (revisions S.shared).IsChain (fun next previous => next = previous + 1) ∧
      (S.shared.registered = false → Quiet S.shared) := by
  have hobeys := (obeys_system generation origin calls fuel).run keeping hrun
  have hinv := hobeys.inv
  refine ⟨fun a ha hfailed p hp => ?_, fun n o returned hcall hvalue hok => ?_, hinv.revisions,
    fun hremoved => (hinv.closed (hinv.registered hremoved)).2⟩
  · obtain ⟨k, hk⟩ := List.mem_iff_getElem?.1 ha
    have hlast := hinv.last k a hk hfailed
    have hticket := hinv.numbered k a hk
    have hstopped := hinv.stopped (fun hclean => nomatch hfailed.symm.trans (hclean a ha)) p hp
    omega
  · exact hobeys.value hvalue o hcall hok

/-- **The lane is consistent under every schedule**, so no snapshot is lost or attempted twice. -/
theorem lane_consistent (generation : String) (origin : Option Record) (calls : ℕ → Call) (fuel : ℕ)
    (schedule : List (Party × Answer)) {S : System Lane Answer Returned Party}
    (hrun : (system generation origin calls fuel).run schedule = some S) : Consistent S.shared :=
  ((obeys_system generation origin calls fuel).run keeping hrun).inv

end Writer

/-! ## A commit, and the retirement after it -/

namespace Sample

/-- Nothing is busy and every operation succeeds. -/
def granted : Answer where
  registryBusy := false
  failureBusy := false
  moment := ⟨some "boot", 0⟩
  owned := .ok ()
  renamed := .ok ()
  readback := .ok ()
  expired := false
  dropped := false
  admission := .ok ()

def calls : ℕ → Call
  | 0 => .commit WindowsAttempt.Sample.owner
  | _ => .retire

/-- The first caller submits, the writer publishes, the caller sees it, and the second caller
retires the lane. -/
def schedule : List (Party × Answer) :=
  List.replicate 9 (.caller 0, granted) ++ List.replicate 12 (.writer, granted) ++
    [(.caller 0, granted)] ++ List.replicate 9 (.caller 1, granted)

end Sample

section

open WindowsRecord.Sample WindowsAttempt.Sample Sample

attribute [local instance] zeroSha wire recordText

theorem lane_safe_retired : ∃ S, (system "generation" none calls 2).run schedule = some S ∧
    revisions S.shared = [1, 0] ∧ S.shared.registered = false ∧ Quiet S.shared := by
  have hevaluated : ((system "generation" none calls 2).run schedule).map
      (fun S => (revisions S.shared, S.shared.registered)) = some ([1, 0], false) := by
        decide +kernel
  obtain ⟨S, hrun, hfacts⟩ := Option.map_eq_some_iff.1 hevaluated
  obtain ⟨hrevisions, hremoved⟩ := Prod.ext_iff.1 hfacts
  have hsafe := lane_safe "generation" none calls 2 schedule hrun
  exact ⟨S, hrun, hrevisions, hremoved, hsafe.2.2.2 hremoved⟩

/-- In the middle of a commit. -/
theorem lane_consistent_submitted :
    ∃ S, (system "generation" none calls 2).run (schedule.take 12) = some S ∧
    Consistent S.shared := by
  have hruns : ((system "generation" none calls 2).run (schedule.take 12)).isSome := by
    decide +kernel
  obtain ⟨S, hrun⟩ := Option.isSome_iff_exists.1 hruns
  exact ⟨S, hrun, lane_consistent "generation" none calls 2 _ hrun⟩

end

end MemCordon.WriterLane
