import MemCordon.Agent.RootRecovery

/-!
# What a recovery removes and reports

The law of `recoverRoots`. `Removed` lists the reasons for which a file leaves the state root, with
what was read before; `Progress` says that a part of the recovery removes files for these reasons
only, and accounts for the cgroups of the records it has authenticated. Each pass is followed from
entry to entry, and leaves an entry removed or reported (`Settled`).

* `recoverRoots_spec`: when the recovery ends well, everything that is still in the roots is in its
  list, a record is removed only when its attempt is dead, and a private journal only when it is
  that of a lost reservation.
* `journal_without_reservation`: a journal may be removed although its reservation stays.
-/

namespace MemCordon.RootRecovery

open Workload Fallible LineText DurableRecord PrivateAttempt

/-! ## Steps -/

/-- A task that ends well ends with a condition. -/
def Yields {α : Type} (m : Recovery α) (w : Roots) (Q : Roots → α → Prop) : Prop :=
  m.Ends w Q fun _ _ => True

section Rules

variable {α β : Type} {m : Recovery α} {f : α → Recovery β} {w : Roots} {R S : Roots → α → Prop}
  {Q : Roots → β → Prop}

theorem Yields.mono (hm : Yields m w R) (h : ∀ w' a, R w' a → S w' a) : Yields m w S :=
  Task.Ends.mono hm h fun _ _ h => h

theorem yields_bind (hm : Yields m w R) (hf : ∀ w' a, R w' a → Yields (f a) w' Q) :
    Yields (m >>= f) w Q :=
  Task.ends_bind (Task.Ends.mono hm hf fun _ _ h => h)

theorem yields_lift_bind {x : Except String α} (hf : ∀ a, x = .ok a → Yields (f a) w Q) :
    Yields (Task.lift x >>= f) w Q :=
  Task.ends_lift_bind (fun _ _ => trivial) hf

theorem yields_error {e : String} : Yields (Task.lift (.error e)) w Q := trivial

theorem yields_removeFile (removed : Except String Unit) (name : Name) :
    Yields (removeFile removed name) w fun w' _ =>
      w' = { w with files := w.files.filter (· ≠ name) } :=
  yields_lift_bind fun _ _ => rfl

theorem yields_killAndRetire (killed : Except String Unit) (name : Name) :
    Yields (killAndRetire killed name) w fun w' _ =>
      w' = { w with cgroups := w.cgroups.filter (· ≠ name) } :=
  yields_lift_bind fun _ _ => rfl

end Rules

/-- The directories shrink, and the report grows. -/
structure Later (w w' : Roots) : Prop where
  files : ∀ name ∈ w'.files, name ∈ w.files
  cgroups : ∀ name ∈ w'.cgroups, name ∈ w.cgroups
  ambiguous : ∀ name ∈ w.ambiguous, name ∈ w'.ambiguous

theorem Later.refl (w : Roots) : Later w w := ⟨fun _ h => h, fun _ h => h, fun _ h => h⟩

theorem Later.trans {w w' w'' : Roots} (h : Later w w') (h' : Later w' w'') : Later w w'' :=
  ⟨fun name hname => h.files name (h'.files name hname),
    fun name hname => h.cgroups name (h'.cgroups name hname),
    fun name hname => h'.ambiguous name (h.ambiguous name hname)⟩

section Law

variable {name identity : Name} {w : Roots} {p : ReservationProbe}

theorem later_report (w : Roots) (name : Name) :
    Later w { w with ambiguous := w.ambiguous ++ [name] } :=
  ⟨fun _ h => h, fun _ h => h, fun _ h => List.mem_append_left _ h⟩

theorem later_removeFile (w : Roots) (name : Name) :
    Later w { w with files := w.files.filter (· ≠ name) } :=
  ⟨fun _ h => (List.mem_filter.1 h).1, fun _ h => h, fun _ h => h⟩

theorem later_retire (w : Roots) (name : Name) :
    Later w { w with cgroups := w.cgroups.filter (· ≠ name) } :=
  ⟨fun _ h => h, fun _ h => (List.mem_filter.1 h).1, fun _ h => h⟩

def Roots.without (w : Roots) (name : Name) : Roots := { w with files := w.files.filter (· ≠ name) }

theorem mem_without {name other : Name} : other ∈ (w.without name).files ↔ other ∈ w.files ∧
    other ≠ name := by
  simp [Roots.without]

/-- A file that is gone without a name is the one with this name. -/
theorem eq_of_without {name other : Name} (hother : other ∈ w.files)
    (hgone : other ∉ (w.without name).files) :
    other = name :=
  not_not.1 fun hne => hgone (mem_without.2 ⟨hother, hne⟩)

theorem yields_retireReservation (p : ReservationProbe) (name : Name) (held : Metadata)
    (w : Roots) :
    Yields (retireReservation p name held) w fun w' recovered =>
      (recovered = true ∧ w' = w.without name) ∨
        (recovered = false ∧ w' = w ∧ ∃ current, p.again = .ok current ∧
          current.stamp ≠ held.stamp) := by
  refine yields_lift_bind fun current hcurrent => ?_
  by_cases hchanged : current.stamp ≠ held.stamp
  · rw [if_pos hchanged]
    exact .inr ⟨rfl, rfl, current, hcurrent, hchanged⟩
  · rw [if_neg hchanged]
    refine yields_bind (yields_removeFile _ _) fun w' _ hw' => ?_
    subst hw'
    exact yields_lift_bind fun _ _ => .inl ⟨rfl, rfl⟩

theorem isAbsent_look {present : Bool} {probe : Except String Metadata}
    (h : isAbsent (look present probe) = true) :
    present = false := by
  cases probe with
  | error e => exact absurd h Bool.false_ne_true
  | ok metadata => cases present with
    | false => rfl
    | true => exact absurd h Bool.false_ne_true

theorem boundaryAbsent_cgroup (h : boundaryAbsent w p identity = true) : identity ∉ w.cgroups :=
  of_decide_eq_false (isAbsent_look (Bool.and_eq_true_iff.1 h).2)

def Roots.retired (w : Roots) (identity : Name) : Roots :=
  { w with cgroups := w.cgroups.filter (· ≠ identity) }

theorem not_mem_retired (w : Roots) (identity : Name) :
    identity ∉ (w.retired identity).cgroups := by
  simp [Roots.retired]

theorem retired_eq_self (h : identity ∉ w.cgroups) : w.retired identity = w := by
  have hall : ∀ name ∈ w.cgroups, decide (name ≠ identity) = true := by
    intro name hname
    exact decide_eq_true fun hsame => h (hsame ▸ hname)
  rw [Roots.retired, List.filter_eq_self.2 hall]

theorem yields_retireBoundary {unexpected : Recovery Bool} {R : Roots → Bool → Prop}
    (hunexpected : Yields unexpected w R) (cgroup : Except String Metadata)
    (killed : Except String Unit)
    (identity : Name) : Yields (retireBoundary cgroup killed identity unexpected) w fun w' gone =>
      (gone = true ∧ w' = w.retired identity) ∨ R w' gone := by
  refine Task.ends_inspect_bind ?_
  rw [id_eq]
  cases hlook : look (decide (identity ∈ w.cgroups)) cgroup with
  | ok metadata =>
    simp only []
    split
    · refine yields_bind (yields_killAndRetire killed identity) fun w' _ hw' => .inl ⟨rfl, hw'⟩
    · exact hunexpected.mono fun _ _ => .inr
  | error fault => cases fault with
    | notFound =>
      have habsent : identity ∉ w.cgroups := of_decide_eq_false (isAbsent_look (by rw [hlook]; rfl))
      exact .inl ⟨rfl, (retired_eq_self habsent).symm⟩
    | other e => exact trivial

theorem mem_squeeze {names : List Name} : name ∈ squeeze names ↔ name ∈ names := by
  induction names using squeeze.induct with
  | case1 a rest ih =>
    rw [squeeze, if_pos rfl, ih]
    simp
  | case2 a b rest hne ih =>
    rw [squeeze, if_neg hne, List.mem_cons, ih, List.mem_cons (b := a)]
  | case3 names hshort => rw [squeeze.eq_2 names hshort]

theorem not_isReservation (h : validAttemptIdentity name = true) : isReservation name = false := by
  by_contra hname
  have hprefix := (Bool.and_eq_true_iff.1 (Bool.and_eq_true_iff.1 (eq_true_of_ne_false hname)).1).2
  have hmark : (45 : UInt8) ∈ name := (List.isPrefixOf_iff_prefix.1 hprefix).subset (by decide)
  exact absurd (List.all_eq_true.1 (Bool.and_eq_true_iff.1 h).2 45 hmark) (by decide)

theorem transitionOf_valid (h : validAttemptIdentity name = true) : transitionOf name = none := by
  refine if_neg fun hname => ?_
  have hmark : (46 : UInt8) ∈ name := (List.isSuffixOf_iff_suffix.1 hname.2.1).subset (by decide)
  exact absurd (List.all_eq_true.1 (Bool.and_eq_true_iff.1 h).2 46 hmark) (by decide)

theorem frontendLive_eq_false {live : ℤ → Bool} {record text : List UInt8} {pid : ℤ}
    (h : frontendLive live record = false)
    (hline : lookLine (CodedText.bytes "frontend-pid=") record = some text)
    (hpid : parseI32 text = some pid) (hpos : 0 < pid) : live pid = false := by
  have hprocess : processIsLive live pid = false := by
    simpa [frontendLive, hline, hpid] using h
  simpa [processIsLive, hpos] using hprocess

variable [LossyNames]

/-- The cgroup of an authenticated record is gone, or the record is reported. -/
def Accounted (w : Roots) : Prop :=
  ∀ name ∈ w.authenticated, name ∉ w.cgroups ∨ LossyNames.lossy name ∈ w.ambiguous

variable {w w' : Roots}

theorem Accounted.mono (h : Accounted w) (hlater : Later w w')
    (hsame : w'.authenticated = w.authenticated) : Accounted w' := by
  intro name hname
  rw [hsame] at hname
  rcases h name hname with hgone | hnamed
  · exact .inl fun hin => hgone (hlater.cgroups _ hin)
  · exact .inr (hlater.ambiguous _ hnamed)

/-- The entry is removed or reported. -/
def Settled (w : Roots) (name : Name) : Prop := name ∈ w.files → LossyNames.lossy name ∈ w.ambiguous

theorem Settled.mono (h : Settled w name) (hlater : Later w w') : Settled w' name :=
  fun hin => hlater.ambiguous _ (h (hlater.files _ hin))

/-- A record that is authenticated and then retired or reported. -/
theorem Accounted.snoc (h : Accounted w) (hlater : Later w w')
    (hauthenticated : w'.authenticated = w.authenticated ++ [identity])
    (hidentity : identity ∉ w'.cgroups ∨ LossyNames.lossy identity ∈ w'.ambiguous) :
    Accounted w' := by
  intro name hname
  rw [hauthenticated] at hname
  rcases List.mem_append.1 hname with hold | hnew
  · rcases h name hold with hgone | hnamed
    · exact .inl fun hin => hgone (hlater.cgroups _ hin)
    · exact .inr (hlater.ambiguous _ hnamed)
  · rw [List.mem_singleton.1 hnew]
    exact hidentity

theorem settled_of_reported (h : LossyNames.lossy identity = identity)
    (hnamed : identity ∈ w.ambiguous) : Settled w identity := by
  intro _
  rwa [h]

theorem lossy_transition {name identity : Name} (h : transitionOf name = some identity) :
    LossyNames.lossy name = name := by
  refine LossyNames.lossy_eq name ?_
  by_contra hutf8
  unfold transitionOf at h
  rw [if_neg fun hall => hutf8 hall.1] at h
  cases h

variable [Sha256] [JournalWire] [PolicyWire] [ReservationWire] {P : Probes} {all : List Name}

/-! ## Reasons -/

/-- The journal of a reservation was removed: its creator is lost, its boundary is absent, and it
was allocated only. The reservation is removed as well, unless it is no longer the file that was
read. -/
structure JournalRetired (p : ReservationProbe) (name identity : Name) (w : Roots) : Prop where
  isReservation : isReservation name = true
  retired : ∃ held r bytes record, readReservation p name = .ok (some (held, r)) ∧
    creatorLost p r = .ok true ∧
    identity = r.identity ∧ readRecordNoFollow p.journalRead = .ok bytes ∧
    PrivateAttemptRecordV4.parse bytes = .ok record ∧ AllocationOnly record r ∧
    (name ∉ w.files ∨ LossyNames.lossy name ∈ w.ambiguous ∧ ∃ current, p.again = .ok current ∧
      current.stamp ≠ held.stamp)
  boundary : identity ∉ w.cgroups

/-- The record of a dead attempt was removed. -/
structure RecordRetired (p : RecordProbe) (identity : Name) (w : Roots) : Prop where
  dead : ∃ text, readRecordNoFollow p.read = .ok text ∧ integrityValid text = true ∧
    isPrivateJournal text = false ∧
    boundIdentity text = some identity ∧ frontendLive p.live text = false
  boundary : identity ∉ w.cgroups

/-- The file of an interrupted transition of a dead attempt was removed. -/
structure TransitionRetired (p : TransitionProbe) (name identity : Name) (w : Roots) : Prop where
  isTransition : transitionOf name = some identity
  dead : canonicalDead p identity = true ∧ interruptedBelongs p identity = true
  boundary : identity ∉ w.cgroups

/-- The reasons for which a file is removed, among all that were there at the start. -/
inductive Removed (P : Probes) (all : List Name) (w : Roots) : Name → Prop
  | reservation {name : Name} (h : isReservation name = true) : Removed P all w name
  | journal {name identity : Name} (hlisted : name ∈ all)
    (h : JournalRetired (P.reservation name) name identity w) : Removed P all w identity
  | transition {name identity : Name} (h : TransitionRetired (P.transition name) name identity w) :
    Removed P all w name
  | record {name : Name} (h : RecordRetired (P.record name) name w) : Removed P all w name

theorem Removed.mono (h : Removed P all w name) (hlater : Later w w') : Removed P all w' name := by
  cases h with
  | reservation h => exact .reservation h
  | journal hlisted h =>
    obtain ⟨hname, ⟨held, r, bytes, record, hread, hlost, hidentity, hbytes, hrecord, honly, hkept⟩,
      hboundary⟩ := h
    refine .journal hlisted ⟨hname, ⟨held, r, bytes, record, hread, hlost, hidentity, hbytes,
      hrecord, honly, ?_⟩, fun hin => hboundary (hlater.cgroups _ hin)⟩
    rcases hkept with hgone | ⟨hnamed, hchanged⟩
    · exact .inl fun hin => hgone (hlater.files _ hin)
    · exact .inr ⟨hlater.ambiguous _ hnamed, hchanged⟩
  | transition h =>
    exact .transition ⟨h.isTransition, h.dead, fun hin => h.boundary (hlater.cgroups _ hin)⟩
  | record h => exact .record ⟨h.dead, fun hin => h.boundary (hlater.cgroups _ hin)⟩

/-- A part of the recovery. -/
structure Progress (P : Probes) (all : List Name) (w w' : Roots) : Prop where
  later : Later w w'
  removed : ∀ name ∈ w.files, name ∉ w'.files → Removed P all w' name
  accounted : Accounted w → Accounted w'

theorem Progress.refl (w : Roots) : Progress P all w w :=
  ⟨.refl w, fun _ h h' => absurd h h', fun h => h⟩

theorem Progress.trans {w w' w'' : Roots} (h : Progress P all w w') (h' : Progress P all w' w'') :
    Progress P all w w'' := by
  refine ⟨h.later.trans h'.later, fun name hname hgone => ?_,
    fun haccounted => h'.accounted (h.accounted haccounted)⟩
  by_cases hstill : name ∈ w'.files
  · exact h'.removed name hstill hgone
  · exact (h.removed name hname hstill).mono h'.later

theorem progress_report (w : Roots) (name : Name) :
    Progress P all w { w with ambiguous := w.ambiguous ++ [name] } :=
  ⟨later_report w name, fun _ h h' => absurd h h', fun h => h.mono (later_report w name) rfl⟩

/-- A pass over some entries, which settles those of one kind. -/
def Passed (P : Probes) (all : List Name) (kind : Name → Prop) (names : List Name)
    (w w' : Roots) : Prop :=
  Progress P all w w' ∧ ∀ name ∈ names, kind name → Settled w' name

variable {kind : Name → Prop} {rest : List Name}

theorem Passed.nil (w : Roots) : Passed P all kind [] w w :=
  ⟨.refl w, fun _ h => absurd h List.not_mem_nil⟩

theorem Passed.cons {w₁ w' : Roots} (hfirst : Progress P all w w₁ ∧ (kind name → Settled w₁ name))
    (hrest : Passed P all kind rest w₁ w') : Passed P all kind (name :: rest) w w' := by
  refine ⟨hfirst.1.trans hrest.1, fun other hother hkind => ?_⟩
  rcases List.mem_cons.1 hother with rfl | hother
  · exact (hfirst.2 hkind).mono hrest.1.later
  · exact hrest.2 other hother hkind

/-! ## Reservations -/

/-- What the recovery of a reservation does, and whether the reservation is removed. -/
inductive ReservationStep (p : ReservationProbe) (name : Name) (w : Roots) : Roots → Bool → Prop
  | kept : ReservationStep p name w w false
  | retired : ReservationStep p name w (w.without name) true
  | journalKept {held : Metadata} {r : Reservation} (hread : readReservation p name =
    .ok (some (held, r)))
    (hlost : creatorLost p r = .ok true) (hboundary : boundaryAbsent w p r.identity = true)
    (hclaim : journalClaim w p r = .ok .retire) {current : Metadata}
      (hagain : p.again = .ok current)
    (hchanged : current.stamp ≠ held.stamp) : ReservationStep p name w (w.without r.identity) false
  | journalRetired {held : Metadata} {r : Reservation} (hread : readReservation p name =
    .ok (some (held, r)))
    (hlost : creatorLost p r = .ok true) (hboundary : boundaryAbsent w p r.identity = true)
    (hclaim : journalClaim w p r = .ok .retire) :
    ReservationStep p name w ((w.without r.identity).without name) true

omit [PolicyWire] [LossyNames] in
theorem yields_recoverAccountReservation (p : ReservationProbe) (name : Name) (w : Roots) :
    Yields (recoverAccountReservation p name) w fun w' recovered =>
      ReservationStep p name w w' recovered := by
  refine yields_lift_bind fun read hread => ?_
  cases read with
  | none => exact .kept
  | some both =>
    obtain ⟨held, r⟩ := both
    refine yields_lift_bind fun lost hlost => Task.ends_inspect_bind ?_
    rw [id_eq]
    by_cases hdead : lost = true ∧ boundaryAbsent w p r.identity = true
    · obtain ⟨rfl, hboundary⟩ := hdead
      rw [if_pos ⟨rfl, hboundary⟩]
      refine yields_lift_bind fun claim hclaim => ?_
      cases claim with
      | keep => exact .kept
      | absent =>
        refine (yields_retireReservation p name held w).mono ?_
        rintro w' recovered (⟨rfl, rfl⟩ | ⟨rfl, rfl, -⟩)
        · exact .retired
        · exact .kept
      | retire =>
        refine yields_bind (yields_removeFile _ _) fun w₁ _ hw₁ => ?_
        subst hw₁
        refine yields_lift_bind fun _ _ =>
          (yields_retireReservation p name held (w.without r.identity)).mono ?_
        rintro w' recovered (⟨rfl, rfl⟩ | ⟨rfl, rfl, current, hagain, hchanged⟩)
        · exact .journalRetired hread hlost hboundary hclaim
        · exact .journalKept hread hlost hboundary hclaim hagain hchanged
    · rw [if_neg hdead]
      exact .kept

omit [PolicyWire] [ReservationWire] [LossyNames] in
theorem journalClaim_retire {r : Reservation} (h : journalClaim w p r = .ok .retire) :
    ∃ bytes record, readRecordNoFollow p.journalRead = .ok bytes ∧
      PrivateAttemptRecordV4.parse bytes = .ok record ∧ AllocationOnly record r := by
  unfold journalClaim at h
  split at h
  · cases h
  · cases h
  · split at h
    · obtain ⟨bytes, hbytes, h⟩ := bind_eq_ok.1 h
      cases hrecord : PrivateAttemptRecordV4.parse bytes with
      | error e =>
        rw [hrecord] at h
        cases h
      | ok record =>
        rw [hrecord] at h
        by_cases honly : AllocationOnly record r
        · exact ⟨bytes, record, hbytes, hrecord, honly⟩
        · simp only [if_neg honly] at h
          cases h
    · cases h

theorem progress_without (h : Removed P all (w.without name) name) :
    Progress P all w (w.without name) := by
  refine ⟨later_removeFile w name, fun other hother hgone => ?_,
    fun haccounted => haccounted.mono (later_removeFile w name) rfl⟩
  rw [eq_of_without hother hgone]
  exact h

/-- The state after a reservation: it is removed, or it is reported. -/
def Roots.noted (w : Roots) (name : Name) (recovered : Bool) : Roots :=
  if recovered then w else { w with ambiguous := w.ambiguous ++ [LossyNames.lossy name] }

theorem ReservationStep.progress {recovered : Bool}
    (h : ReservationStep (P.reservation name) name w w' recovered) (hlisted : name ∈ all)
    (hname : isReservation name = true) : Progress P all w (w'.noted name recovered) := by
  cases h with
  | kept => exact progress_report w _
  | retired => exact progress_without (.reservation hname)
  | @journalKept held r hread hlost hboundary hclaim current hagain hchanged =>
    obtain ⟨bytes, record, hbytes, hrecord, honly⟩ := journalClaim_retire hclaim
    have hcgroup : r.identity ∉ w.cgroups := boundaryAbsent_cgroup hboundary
    have hlater :=
      (later_removeFile w r.identity).trans
        (later_report (w.without r.identity) (LossyNames.lossy name))
    refine ⟨hlater, fun other hother hgone => ?_, fun haccounted => haccounted.mono hlater rfl⟩
    rw [eq_of_without hother hgone]
    exact .journal hlisted ⟨hname,
      ⟨held, r, bytes, record, hread, hlost, rfl, hbytes, hrecord, honly,
      .inr ⟨List.mem_concat_self, current, hagain, hchanged⟩⟩, hcgroup⟩
  | @journalRetired held r hread hlost hboundary hclaim =>
    obtain ⟨bytes, record, hbytes, hrecord, honly⟩ := journalClaim_retire hclaim
    have hcgroup : r.identity ∉ w.cgroups := boundaryAbsent_cgroup hboundary
    have hlater :=
      (later_removeFile w r.identity).trans (later_removeFile (w.without r.identity) name)
    refine ⟨hlater, fun other hother hgone => ?_, fun haccounted => haccounted.mono hlater rfl⟩
    by_cases hfirst : other ∈ (w.without r.identity).files
    · rw [eq_of_without hfirst hgone]
      exact .reservation hname
    · rw [eq_of_without hother hfirst]
      exact .journal hlisted ⟨hname,
        ⟨held, r, bytes, record, hread, hlost, rfl, hbytes, hrecord, honly,
        .inl fun hin => (mem_without.1 hin).2 rfl⟩, hcgroup⟩

omit [PolicyWire] in
theorem ReservationStep.settled {recovered : Bool} (h : ReservationStep p name w w' recovered) :
    Settled (w'.noted name recovered) name := by
  cases h with
  | kept => exact fun _ => List.mem_concat_self
  | retired => exact fun hin => absurd rfl (mem_without.1 hin).2
  | journalKept => exact fun _ => List.mem_concat_self
  | journalRetired => exact fun hin => absurd rfl (mem_without.1 hin).2

theorem yields_recoverReservation (hlisted : name ∈ all) (w : Roots) :
    Yields (recoverReservation (P.reservation name) name) w fun w' _ =>
      Progress P all w w' ∧ (isReservation name = true → Settled w' name) := by
  unfold recoverReservation
  by_cases hname : isReservation name = true
  · rw [if_pos hname]
    refine yields_bind (yields_recoverAccountReservation _ name w) fun w' recovered hstep => ?_
    have hprogress := hstep.progress hlisted hname
    have hsettled := hstep.settled
    cases recovered with
    | true | false => exact ⟨hprogress, fun _ => hsettled⟩
  · rw [if_neg hname]
    exact ⟨.refl w, fun h => absurd h hname⟩

/-- The first pass removes or reports every reservation. -/
theorem yields_recoverReservations {names : List Name} (hlisted : ∀ name ∈ names, name ∈ all)
    (w : Roots) :
    Yields (recoverReservations P.reservation names) w fun w' _ =>
      Passed P all (isReservation · = true) names w w' := by
  induction names generalizing w with
  | nil => exact .nil w
  | cons name rest ih =>
    obtain ⟨hname, hrest⟩ := List.forall_mem_cons.1 hlisted
    exact yields_bind (yields_recoverReservation hname w) fun w₁ _ hfirst =>
      (ih hrest w₁).mono fun _ _ => .cons hfirst

/-! ## Boundaries -/

theorem progress_retired (w : Roots) (identity : Name) : Progress P all w (w.retired identity) :=
  ⟨later_retire w identity, fun _ h h' => absurd h h',
    fun h => h.mono (later_retire w identity) rfl⟩

/-! ## Interrupted transitions -/

omit [ReservationWire] [LossyNames] in
theorem transitionDead_true {p : TransitionProbe} (h : transitionDead w p identity = .ok true) :
    canonicalDead p identity = true ∧ interruptedBelongs p identity = true := by
  unfold transitionDead at h
  split at h
  · cases h
  · split at h
    · cases h
    · obtain ⟨temporary, -, h⟩ := bind_eq_ok.1 h
      obtain ⟨kind, -, h⟩ := bind_eq_ok.1 h
      simp only [pure, Except.pure, Except.ok.injEq, Bool.and_eq_true] at h
      exact ⟨h.1.2, h.2⟩

omit [ReservationWire] [LossyNames] in
theorem yields_interruptedTransition (p : TransitionProbe) (identity : Name) (w : Roots) :
    Yields (interruptedTransitionIsRecoverable p identity) w fun w' recoverable =>
      (recoverable = true ∧ w' = w.retired identity ∧ canonicalDead p identity = true ∧
        interruptedBelongs p identity = true) ∨ (recoverable = false ∧ w' = w) := by
  refine Task.ends_inspect_bind (yields_lift_bind fun dead hdead => ?_)
  cases dead with
  | false => exact .inr ⟨rfl, rfl⟩
  | true =>
    have hfacts := transitionDead_true hdead
    have hunexpected : Yields (pure false) w fun w' gone => gone = false ∧ w' = w := ⟨rfl, rfl⟩
    refine (yields_retireBoundary hunexpected p.cgroup p.killed identity).mono ?_
    rintro w' gone (⟨rfl, rfl⟩ | ⟨rfl, rfl⟩)
    · exact .inl ⟨rfl, rfl, hfacts⟩
    · exact .inr ⟨rfl, rfl⟩

/-- The second pass removes or reports every file of a transition. -/
theorem yields_recoverTransitions (all : List Name) (names : List Name) (w : Roots) :
    Yields (recoverTransitions P.transition names) w fun w' _ =>
      Passed P all (fun name => (transitionOf name).isSome = true) names w w' := by
  induction names generalizing w with
  | nil => exact .nil w
  | cons name rest ih =>
    unfold recoverTransitions
    cases hname : transitionOf name with
    | none =>
      refine (ih w).mono fun _ _ => .cons ⟨.refl w, fun htransition => ?_⟩
      rw [hname] at htransition
      cases htransition
    | some identity =>
      refine yields_bind (yields_interruptedTransition (P.transition name) identity w)
        fun w₁ recoverable hstep => ?_
      rcases hstep with ⟨rfl, rfl, hdead⟩ | ⟨rfl, rfl⟩
      · refine yields_bind (yields_removeFile _ _) fun w₂ _ hw₂ => ?_
        subst hw₂
        have hremoved : Removed P all ((w.retired identity).without name) name :=
          .transition ⟨hname, hdead, not_mem_retired w identity⟩
        have hprogress := (progress_retired w identity).trans (progress_without hremoved)
        refine yields_lift_bind fun _ _ => (ih _).mono fun _ _ => .cons ⟨hprogress, fun _ hin => ?_⟩
        exact absurd rfl (mem_without.1 hin).2
      · refine Task.ends_act_bind ?_
        have hsettled : Settled { w₁ with ambiguous := w₁.ambiguous ++ [name] } name := by
          intro _
          rw [lossy_transition hname]
          exact List.mem_concat_self
        exact yields_bind (ih _) fun w' _ hnext =>
          .cons ⟨progress_report w₁ name, fun _ => hsettled⟩ hnext

/-! ## Attempt records -/

/-- A record that stays is reported, whether or not it is authenticated. -/
theorem progress_report_authenticated (h : LossyNames.lossy identity = identity) :
    Progress P all w { w with authenticated := w.authenticated ++ [identity],
                              ambiguous := w.ambiguous ++ [identity] } := by
  have hlater : Later w { w with
      authenticated := w.authenticated ++ [identity], ambiguous := w.ambiguous ++ [identity] } :=
    ⟨fun _ h => h, fun _ h => h, fun _ h => List.mem_append_left _ h⟩
  refine ⟨hlater, fun _ h h' => absurd h h', fun haccounted => haccounted.snoc hlater rfl (.inr ?_)⟩
  rw [h]
  exact List.mem_concat_self

theorem yields_keepPrivate (hlossy : LossyNames.lossy identity = identity) (record : List UInt8)
    (w : Roots) : Yields (keepPrivate identity record) w fun w' _ => Progress P all w w' ∧
    Settled w' identity := by
  refine Task.ends_act_bind ?_
  have hnamed : identity ∈ w.ambiguous ++ [identity] := List.mem_concat_self
  simp only []
  split
  · exact ⟨progress_report_authenticated hlossy, settled_of_reported hlossy hnamed⟩
  · exact ⟨progress_report w identity, settled_of_reported hlossy hnamed⟩

/-- A record whose text was read is removed when its attempt is dead, and reported otherwise. -/
theorem yields_recoverText (hlossy : LossyNames.lossy identity = identity) {text : List UInt8}
    (hread : readRecordNoFollow (P.record identity).read = .ok text) (w : Roots) :
    Yields (recoverText (P.record identity) identity text) w fun w' _ => Progress P all w w' ∧
    Settled w' identity := by
  have hnamed : identity ∈ w.ambiguous ++ [identity] := List.mem_concat_self
  unfold recoverText
  by_cases hinvalid : integrityValid text = false ∨ boundIdentity text ≠ some identity
  · rw [if_pos hinvalid]
    exact ⟨progress_report w identity, settled_of_reported hlossy hnamed⟩
  rw [if_neg hinvalid]
  by_cases hprivate : isPrivateJournal text = true
  · rw [if_pos hprivate]
    exact yields_keepPrivate hlossy text w
  rw [if_neg hprivate]
  refine Task.ends_act_bind ?_
  by_cases hlive : frontendLive (P.record identity).live text = true
  · rw [if_pos hlive]
    exact ⟨progress_report_authenticated hlossy, settled_of_reported hlossy hnamed⟩
  rw [if_neg hlive]
  refine yields_bind (yields_retireBoundary (yields_error (Q := fun _ _ => False)) _ _ identity)
    fun w₁ gone hgone => ?_
  rcases hgone with ⟨-, rfl⟩ | hfalse
  · refine (yields_removeFile _ identity).mono ?_
    rintro w' - rfl
    obtain ⟨hvalid, hidentity⟩ := not_or.1 hinvalid
    have hlater : Later w ((w.retired identity).without identity) :=
      (later_retire w identity).trans (later_removeFile _ identity)
    have hboundary := not_mem_retired w identity
    refine ⟨⟨⟨hlater.files, hlater.cgroups, hlater.ambiguous⟩, fun other hother hgone => ?_,
      fun haccounted => ?_⟩, fun hin => absurd rfl (mem_without.1 hin).2⟩
    · rw [eq_of_without (w := w.retired identity) hother hgone]
      exact .record ⟨⟨text, hread, eq_true_of_ne_false hvalid, eq_false_of_ne_true hprivate,
        not_not.1 hidentity, eq_false_of_ne_true hlive⟩, hboundary⟩
    · exact haccounted.snoc ⟨hlater.files, hlater.cgroups, hlater.ambiguous⟩ rfl (.inl hboundary)
  · exact hfalse.elim

theorem yields_recoverRecord (all : List Name) (hlossy : LossyNames.lossy identity = identity)
    (blocked : List Name)
    (w : Roots) : Yields (recoverRecord (P.record identity) blocked identity) w fun w' _ =>
      Progress P all w w' ∧ Settled w' identity := by
  have hreport : Yields (report identity) w fun w' _ => Progress P all w w' ∧ Settled w' identity :=
    ⟨progress_report w identity, settled_of_reported hlossy List.mem_concat_self⟩
  unfold recoverRecord
  split
  · exact hreport
  · refine yields_lift_bind fun kind _ => ?_
    split
    · exact hreport
    · exact yields_lift_bind fun text hread => yields_recoverText hlossy hread w

/-- An entry of the third pass. -/
def Other (name : Name) : Prop := ¬ (isReservation name = true ∨ (transitionOf name).isSome = true)

theorem yields_recoverEntry (all blocked : List Name) (name : Name) (w : Roots) :
    Yields (recoverEntry (P.record name) blocked name) w fun w' _ =>
      Progress P all w w' ∧ (Other name → Settled w' name) := by
  unfold recoverEntry
  by_cases hearlier : isReservation name = true ∨ (transitionOf name).isSome = true
  · rw [if_pos hearlier]
    exact ⟨.refl w, fun h => absurd hearlier h⟩
  rw [if_neg hearlier]
  by_cases hname : CodedText.isUtf8 name = true ∧ validAttemptIdentity name = true
  · rw [if_pos hname]
    refine (yields_recoverRecord all (LossyNames.lossy_eq name hname.1) blocked w).mono
      fun w' _ h => ⟨h.1, fun _ => h.2⟩
  · rw [if_neg hname]
    exact ⟨progress_report w _, fun _ _ => List.mem_concat_self⟩

/-- The third pass removes or reports every other entry. -/
theorem yields_recoverRecords (all blocked names : List Name) (w : Roots) :
    Yields (recoverRecords P.record blocked names) w fun w' _ => Passed P all Other names w w' := by
  induction names generalizing w with
  | nil => exact .nil w
  | cons name rest ih =>
    exact yields_bind (yields_recoverEntry all blocked name w) fun w₁ _ hfirst =>
      (ih w₁).mono fun _ _ => .cons hfirst

/-- **Every entry of the state root is removed or reported.** -/
theorem yields_recoverStateRoot (w : Roots) : Yields (recoverStateRoot P) w fun w' _ =>
      Progress P w.files w w' ∧ ∀ name ∈ w'.files, LossyNames.lossy name ∈ w'.ambiguous := by
  refine yields_lift_bind fun _ _ => Task.ends_inspect_bind ?_
  refine yields_bind (yields_recoverReservations (fun _ h => h) w) fun w₁ _ hfirst => ?_
  refine yields_lift_bind fun _ _ => Task.ends_inspect_bind ?_
  refine yields_bind (yields_recoverTransitions w.files w₁.files w₁) fun w₂ blocked hsecond => ?_
  refine (yields_recoverRecords w.files blocked w₁.files w₂).mono fun w' _ hthird => ?_
  have hsince := hsecond.1.trans hthird.1
  refine ⟨hfirst.1.trans hsince, fun name hname => ?_⟩
  have hlisted := hsince.later.files name hname
  -- the pass that an entry belongs to
  by_cases hreservation : isReservation name = true
  · exact (hfirst.2 name (hfirst.1.later.files name hlisted) hreservation).mono hsince.later hname
  by_cases htransition : (transitionOf name).isSome = true
  · exact (hsecond.2 name hlisted htransition).mono hthird.1.later hname
  · exact hthird.2 name hlisted (not_or.2 ⟨hreservation, htransition⟩) hname

/-! ## The cgroup root -/

/-- The cgroup root is only read: each directory in it belongs to an authenticated record, or is
reported. -/
structure Inspected (kind : Name → Except String Kind) (names : List Name)
    (w w' : Roots) : Prop where
  later : Later w w'
  files : w'.files = w.files
  authenticated : w'.authenticated = w.authenticated
  named : ∀ name ∈ names, kind name = .ok .directory → name ∈ w.authenticated ∨
    LossyNames.lossy name ∈ w'.ambiguous

omit [Sha256] [JournalWire] [PolicyWire] [ReservationWire] in
theorem yields_inspectCgroup (kind : Name → Except String Kind) (name : Name) (w : Roots) :
    Yields (inspectCgroup (kind name) name) w fun w' _ => Inspected kind [name] w w' := by
  refine yields_lift_bind fun found hfound => ?_
  have hkind : kind name = .ok found := by
    cases hname : kind name with
    | error e =>
      rw [hname] at hfound
      cases hfound
    | ok value =>
      rw [hname] at hfound
      cases hfound
      rfl
  cases found with
  | file =>
    refine ⟨.refl w, rfl, rfl, fun other hother hdirectory => ?_⟩
    rw [List.mem_singleton.1 hother, hkind] at hdirectory
    cases hdirectory
  | other => exact yields_error
  | directory =>
    simp only []
    split
    · refine Task.ends_inspect_bind ?_
      split
      · rename_i hauthenticated
        exact ⟨.refl w, rfl, rfl, fun other hother _ => .inl (List.mem_singleton.1 hother ▸
          hauthenticated)⟩
      · refine ⟨later_report w _, rfl, rfl, fun other hother _ => .inr ?_⟩
        rw [List.mem_singleton.1 hother]
        exact List.mem_concat_self
    · exact yields_error

omit [Sha256] [JournalWire] [PolicyWire] [ReservationWire] in
theorem yields_inspectCgroups (kind : Name → Except String Kind) (names : List Name) (w : Roots) :
    Yields (inspectCgroups kind names) w fun w' _ => Inspected kind names w w' := by
  induction names generalizing w with
  | nil => exact ⟨.refl w, rfl, rfl, fun _ h => absurd h List.not_mem_nil⟩
  | cons name rest ih =>
    refine yields_bind (yields_inspectCgroup kind name w) fun w₁ _ hfirst =>
      (ih w₁).mono fun w' _ hrest => ?_
    refine ⟨hfirst.later.trans hrest.later, hrest.files.trans hfirst.files,
      hrest.authenticated.trans hfirst.authenticated, fun other hother hdirectory => ?_⟩
    rcases List.mem_cons.1 hother with rfl | hother
    · exact (hfirst.named other List.mem_cons_self hdirectory).imp_right (hrest.later.ambiguous _)
    · rw [← hfirst.authenticated]
      exact hrest.named other hother hdirectory

/-! ## Roots -/

theorem yields_recoverState (state cgroup : Root) :
    Yields (recoverState P state) (start state cgroup) fun w' _ =>
      Progress P state.names (start state cgroup) w' ∧
      ∀ name ∈ w'.files, LossyNames.lossy name ∈ w'.ambiguous := by
  cases state with
  | directory names => exact yields_recoverStateRoot _
  | absent => exact ⟨.refl _, fun _ h => absurd h List.not_mem_nil⟩
  | notDirectory | failed e => exact yields_error

omit [Sha256] [JournalWire] [PolicyWire] [ReservationWire] in
theorem yields_inspectCgroupRoot (cgroup : Root)
    (hcgroups : ∀ name ∈ w.cgroups, name ∈ cgroup.names) :
    Yields (inspectCgroupRoot P cgroup) w fun w' _ => Inspected P.cgroupKind w.cgroups w w' := by
  cases cgroup with
  | directory names =>
    exact yields_lift_bind fun _ _ =>
      Task.ends_inspect_bind (yields_inspectCgroups P.cgroupKind w.cgroups w)
  | absent =>
    exact ⟨.refl w, rfl, rfl, fun name hname => absurd (hcgroups name hname) List.not_mem_nil⟩
  | notDirectory | failed e => exact yields_error

/-- The frontend of a removed record is gone, and the record names it while it is allocated, when
its checksum stands on a line of its own. -/
def FrontendGone (p : RecordProbe) : Prop :=
  ∃ body, readRecordNoFollow p.read = .ok (recordText body) ∧ (body.getLast? = some 10 →
    lookLine (CodedText.bytes "state=") (recordText body) = some (CodedText.bytes "allocated") →
    ∃ text pid, lookLine (CodedText.bytes "frontend-pid=") (recordText body) = some text ∧
      parseI32 text = some pid ∧ 0 < pid ∧ p.live pid = false)

omit [ReservationWire] [LossyNames] in
theorem RecordRetired.frontendGone {p : RecordProbe} (h : RecordRetired p identity w) :
    FrontendGone p := by
  obtain ⟨text, hread, hvalid, hprivate, -, hlive⟩ := h.dead
  unfold integrityValid at hvalid
  rw [hprivate, if_neg Bool.false_ne_true] at hvalid
  cases hparse : parseDurablePolicy text with
  | error e =>
    rw [hparse] at hvalid
    cases hvalid
  | ok admission =>
    obtain ⟨body, fields, rfl, -, -⟩ := body_of_parse hparse
    refine ⟨body, hread, fun hbody hallocated => ?_⟩
    obtain ⟨state, hstate, hfrontend⟩ := frontend_of_record hparse hbody
    obtain rfl := Option.some.inj (hallocated.symm.trans hstate)
    obtain ⟨value, pid, hline, hpid, hpos⟩ := frontend_of_checkFrontend hfrontend
    exact ⟨value, pid, hline, hpid, hpos, frontendLive_eq_false hlive hline hpid hpos⟩

/-- **What a recovery leaves is reported, and what it removes is dead.** When the recovery ends
well, every file and every attempt directory that is still there is in its list. A file with the
name of an attempt is gone for one of two reasons. Either its record is valid, is not a private
journal, names the attempt and has no live frontend, which it names while it is allocated, and the
cgroup is gone. Or it was the journal of a reservation whose creator is lost, allocated only and
without a boundary; and then the reservation is gone too, or it has changed since it was read, and
is in the list. -/
theorem recoverRoots_spec (P : Probes) (state cgroup : Root) (w' : Roots) (list : List Name)
    (h : (recoverRoots P state cgroup).run (start state cgroup) = (w', .ok list)) :
    (∀ name ∈ w'.files, LossyNames.lossy name ∈ list) ∧
      (∀ name ∈ w'.cgroups, P.cgroupKind name = .ok .directory → LossyNames.lossy name ∈ list) ∧
      (∀ name ∈ state.names, name ∉ w'.files → validAttemptIdentity name = true →
        (RecordRetired (P.record name) name w' ∧ FrontendGone (P.record name)) ∨
          ∃ reservation ∈ state.names, JournalRetired (P.reservation reservation) reservation name
            w') := by
  have hends : Yields (recoverRoots P state cgroup) (start state cgroup) fun w' list =>
      list = squeeze (w'.ambiguous.mergeSort fun a b => decide (a ≤ b)) ∧
        ∃ w₁, Progress P state.names (start state cgroup) w₁ ∧
        (∀ name ∈ w₁.files, LossyNames.lossy name ∈ w₁.ambiguous) ∧
        Inspected P.cgroupKind w₁.cgroups w₁ w' := by
    refine yields_bind (yields_recoverState state cgroup) fun w₁ _ hstate => ?_
    refine yields_bind (yields_inspectCgroupRoot cgroup hstate.1.later.cgroups) fun w₂ _ hcgroup =>
      ?_
    exact ⟨rfl, w₁, hstate.1, hstate.2, hcgroup⟩
  obtain ⟨rfl, w₁, hprogress, hfiles, hinspected⟩ := hends.of_ok h
  have hlist :
      ∀ name ∈ w'.ambiguous, name ∈ squeeze (w'.ambiguous.mergeSort fun a b => decide (a ≤ b)) :=
    fun name hname => mem_squeeze.2 (List.mem_mergeSort.2 hname)
  refine ⟨fun name hname => ?_, fun name hname hdirectory => ?_, fun name hname hgone hvalid => ?_⟩
  · rw [hinspected.files] at hname
    exact hlist _ (hinspected.later.ambiguous _ (hfiles name hname))
  · have hbefore := hinspected.later.cgroups name hname
    rcases hinspected.named name hbefore hdirectory with hauthenticated | hnamed
    · -- an authenticated record whose cgroup is there was reported in the third pass
      rcases hprogress.accounted (fun _ h => absurd h List.not_mem_nil) name hauthenticated
        with habsent | hnamed
      · exact absurd hbefore habsent
      · exact hlist _ (hinspected.later.ambiguous _ hnamed)
    · exact hlist _ hnamed
  · rw [hinspected.files] at hgone
    rcases (hprogress.removed name hname hgone).mono hinspected.later with hreservation
      | ⟨hlisted, hjournal⟩ | htransition | hrecord
    · rw [not_isReservation hvalid] at hreservation
      cases hreservation
    · exact .inr ⟨_, hlisted, hjournal⟩
    · have hnone := transitionOf_valid hvalid
      rw [htransition.isTransition] at hnone
      cases hnone
    · exact .inl ⟨hrecord, hrecord.frontendGone⟩

end Law

/-! ## A reservation that changes -/

namespace Sample

def bootText : BoundedText 128 :=
  ⟨CodedText.bytes "00000000-0000-0000-0000-000000000001", by decide, by decide,
    CodedText.isUtf8_bytes _⟩

/-- A journal of an attempt that was only allocated. -/
def reserved : PrivateAttemptRecordV4 :=
  { PrivateAttempt.Sample.allocated with bootIdentity := bootText }

def reservation : Reservation where
  format := CodedText.bytes "memcordon.account-reservation"
  revision := 1
  userNamespaceDevice := 4
  userNamespaceInode := 5
  uid := 1000
  attempt := List.Vector.replicate 16 170
  ownerPid := 7
  ownerBirth := 8
  bootIdentity := bootText.bytes

@[reducible] def reservedWire : JournalWire := PrivateAttempt.Sample.tableWire [reserved]

theorem isTable_reserved : PrivateAttempt.Sample.isTable [reserved] = true := by decide +kernel

/-- The text of the journal. -/
def reservedText [Sha256] : List UInt8 := reserved.text (PrivateAttempt.Sample.json reserved)

/-- The text of the reservation: an object with its keys in order. -/
def reservationText : List UInt8 :=
  [CodedText.bytes
    "\x7b\"attempt\":[170,170,170,170,170,170,170,170,170,170,170,170,170,170,170,170]",
    CodedText.bytes ",\"boot_identity\":\"00000000-0000-0000-0000-000000000001\"",
    CodedText.bytes ",\"format\":\"memcordon.account-reservation\"",
    CodedText.bytes ",\"owner_birth\":8,\"owner_pid\":7,\"revision\":1,\"uid\":1000",
    CodedText.bytes ",\"user_namespace_device\":4,\"user_namespace_inode\":5\x7d"].flatten

@[reducible] def reservationWire : ReservationWire :=
  ⟨fun bytes => if bytes = reservationText then some reservation else none⟩

@[reducible] def plainNames : LossyNames := ⟨id, fun _ _ => rfl⟩

@[reducible] def policyWire : @PolicyWire zeroHash :=
  @PolicyWire.mk zeroHash (fun _ => .error "unsupported") fun _ => .error "unsupported"

/-- A private file of the root user. -/
def file (content : List UInt8) (mtime : ℤ) : Metadata :=
  ⟨.file, 0, 0o600, 1, ⟨1, 2, content.length, mtime, 0⟩⟩

def readOf (content : List UInt8) : RecordRead := ⟨.ok (), .ok true, .ok content⟩

/-- The calls for the reservation, which changes in the meantime. -/
def changing (journal : List UInt8) : ReservationProbe where
  directoryOpened := .ok ()
  directoryMetadata := .ok ⟨.directory, 0, 0o755, 1, ⟨1, 1, 1, 0, 0⟩⟩
  opened := true
  held := .ok (file reservationText 1)
  content := .ok reservationText
  boot := .ok bootText.bytes
  ownerBirth := .error "gone"
  ownerExists := false
  staged := .ok (file [] 1)
  boundary := .ok ⟨.directory, 0, 0o755, 2, ⟨1, 9, 1, 0, 0⟩⟩
  journal := .ok (file journal 1)
  journalRead := readOf journal
  journalAgain := .ok (file journal 1)
  journalRemoved := .ok ()
  journalSynced := .ok ()
  again := .ok (file reservationText 2)
  removed := .ok ()
  synced := .ok ()

/-- An attempt of the launcher. -/
def deadName : Name := List.replicate 32 98

/-- The body of its record: it is allocated, and its frontend is named. -/
def deadBody : List UInt8 :=
  CodedText.bytes "version=1\ncgroup=" ++ deadName ++
    CodedText.bytes "\nstate=allocated\nfrontend-pid=7\n"

/-- The calls of a recovery with a reservation, its journal, and a record of a dead attempt. -/
def changingProbes (journal dead : List UInt8) : Probes where
  reservationsListed := .ok ()
  entriesListed := .ok ()
  cgroupsListed := .ok ()
  reservation _ := changing journal
  transition _ :=
    ⟨.error "gone", .error "gone", .error "gone", readOf [], fun _ => false, readOf [],
    .error "gone", .ok (), .ok (), .ok ()⟩
  record _ :=
    ⟨.ok .file, readOf dead, fun _ => false, .ok ⟨.directory, 0, 0o755, 2, ⟨1, 9, 1, 0, 0⟩⟩,
      .ok (), .ok ()⟩
  cgroupKind _ := .ok .directory

def stateRoot : Root := .directory [reservation.fileName, reservation.identity, deadName]

def cgroupRoot : Root := .directory [deadName]

end Sample

section

attribute [local instance] zeroHash Sample.reservedWire Sample.reservationWire Sample.plainNames
  Sample.policyWire

open Sample

theorem encode_reserved : reserved.encode = .ok reservedText :=
  PrivateAttempt.Sample.encode_of_mem isTable_reserved (List.mem_singleton.2 rfl)
    (by decide +kernel)

theorem parse_reserved : PrivateAttemptRecordV4.parse reservedText = .ok reserved :=
  @PrivateAttemptRecordV4.parse_encode _ _ _ _
    (PrivateAttempt.Sample.lawful_tableWire isTable_reserved) encode_reserved

theorem read_reserved : readRecordNoFollow (readOf reservedText) = .ok reservedText := by
  obtain ⟨hshort, hutf8, -⟩ := PrivateAttemptRecordV4.parse_eq_ok.1 parse_reserved
  have hlength : reservedText.length ≤ maxRecordBytes := by
    unfold maxRecordBytes
    omega
  have htake : reservedText.take (maxRecordBytes + 1) = reservedText :=
    List.take_of_length_le (by omega)
  unfold readRecordNoFollow readOf
  rw [unit_bind_eq_ok, bind_eq_ok]
  refine ⟨rfl, true, rfl, ?_⟩
  rw [reject_bind_eq_ok, bind_eq_ok]
  refine ⟨nofun, reservedText, rfl, ?_⟩
  rw [htake, reject_bind_eq_ok, reject_bind_eq_ok]
  exact ⟨by rw [hutf8]; nofun, by omega, rfl⟩

/-- The journal is that of an allocation, and may be removed. -/
theorem journalClaim_changing {w : Roots} (h : reservation.identity ∈ w.files) :
    journalClaim w (changing reservedText) reservation = .ok .retire := by
  have hlook : look (decide (reservation.identity ∈ w.files)) (changing reservedText).journal =
      .ok (file reservedText 1) := by
    rw [decide_eq_true h]
    rfl
  have hallocation : AllocationOnly reserved reservation := by decide +kernel
  unfold journalClaim
  rw [hlook]
  refine (if_pos ⟨rfl, rfl, rfl, by decide⟩).trans (bind_eq_ok.2 ⟨reservedText, read_reserved, ?_⟩)
  rw [parse_reserved]
  exact (if_pos hallocation).trans (bind_eq_ok.2 ⟨_, rfl, if_pos rfl⟩)

theorem readReservation_changing : readReservation (changing reservedText) reservation.fileName =
    .ok (some (file reservationText 1, reservation)) := by
  have hvalid : reservation.isValid reservation.fileName := by decide +kernel
  have hshort : reservationText.take 4097 = reservationText := by decide +kernel
  have hlength : ¬ 4096 < reservationText.length := by decide +kernel
  unfold readReservation
  rw [unit_bind_eq_ok, bind_eq_ok]
  refine ⟨rfl, _, rfl, (if_neg (by decide)).trans (bind_eq_ok.2 ⟨_, rfl, ?_⟩)⟩
  refine (if_neg (by simp [file, hlength])).trans (bind_eq_ok.2 ⟨_, rfl, ?_⟩)
  rw [hshort]
  refine (if_neg hlength).trans ?_
  rw [show ReservationWire.reservation reservationText = some reservation from if_pos rfl]
  exact if_pos hvalid

/-- The journal is removed, and the reservation turns out to have changed. -/
theorem run_recoverAccountReservation_changing :
    (recoverAccountReservation (changing reservedText) reservation.fileName).run
        (start stateRoot cgroupRoot) =
      (⟨[reservation.fileName, deadName], [deadName], [], []⟩, .ok false) := by
  have hlost : creatorLost (changing reservedText) reservation = .ok true := rfl
  have hboundary : boundaryAbsent (start stateRoot cgroupRoot) (changing reservedText)
      reservation.identity = true := by decide +kernel
  have hclaim := journalClaim_changing (w := start stateRoot cgroupRoot) (by decide +kernel)
  unfold recoverAccountReservation
  rw [Task.run_lift_bind readReservation_changing]
  dsimp only
  rw [Task.run_lift_bind hlost, Task.run_inspect_bind, id]
  rw [if_pos ⟨rfl, hboundary⟩, Task.run_lift_bind hclaim]
  decide +kernel

/-- The journal and the record are removed, and the reservation stays. -/
theorem run_changing :
    (recoverRoots (changingProbes reservedText (recordText deadBody)) stateRoot cgroupRoot).run
        (start stateRoot cgroupRoot) =
      (⟨[reservation.fileName], [], [deadName], [reservation.fileName]⟩,
        .ok [reservation.fileName]) := by
  have hreported : (recoverReservation (changing reservedText) reservation.fileName).run
      (start stateRoot cgroupRoot) =
        (⟨[reservation.fileName, deadName], [deadName], [], [reservation.fileName]⟩, .ok ()) := by
    unfold recoverReservation
    rw [if_pos (by decide +kernel), Task.run_bind_ok run_recoverAccountReservation_changing]
    rfl
  have hfirst : (recoverReservations (fun _ => changing reservedText)
      [reservation.fileName, reservation.identity, deadName]).run (start stateRoot cgroupRoot) =
        (⟨[reservation.fileName, deadName], [deadName], [], [reservation.fileName]⟩, .ok ()) := by
    unfold recoverReservations
    rw [Task.run_bind_ok hreported]
    decide +kernel
  have hstate : (recoverStateRoot (changingProbes reservedText (recordText deadBody))).run
      (start stateRoot cgroupRoot) =
        (⟨[reservation.fileName], [], [deadName], [reservation.fileName]⟩, .ok ()) := by
    unfold recoverStateRoot
    refine (Task.run_lift_bind rfl).trans ((Task.run_inspect_bind _).trans ?_)
    refine (Task.run_bind_ok hfirst).trans ?_
    decide +kernel
  unfold recoverRoots
  refine (Task.run_bind_ok hstate).trans ?_
  decide +kernel

/-- The recovery names the reservation, and both others are gone for a reason. -/
theorem recoverRoots_changing : ∃ w' list,
    (recoverRoots (changingProbes reservedText (recordText deadBody)) stateRoot cgroupRoot).run
        (start stateRoot cgroupRoot) = (w', .ok list) ∧
      (∀ name ∈ w'.files, LossyNames.lossy name ∈ list) ∧
      ∀ name ∈ [reservation.identity, deadName],
        (RecordRetired ((changingProbes reservedText (recordText deadBody)).record name) name w' ∧
          FrontendGone ((changingProbes reservedText (recordText deadBody)).record name)) ∨
        ∃ reservation ∈ stateRoot.names,
        JournalRetired (changing reservedText) reservation name w' := by
  obtain ⟨hfiles, -, hremoved⟩ := recoverRoots_spec _ stateRoot cgroupRoot _ _ run_changing
  refine ⟨_, _, run_changing, hfiles, fun name hname => hremoved name ?_ ?_ ?_⟩
  · exact List.mem_cons_of_mem _ hname
  · revert name
    decide +kernel
  · revert name
    decide +kernel

/-- A private journal may be removed although its reservation stays: the journal is removed first,
and then the reservation turns out to have changed. -/
theorem journal_without_reservation : ∃ (P : Probes) (state cgroup : Root) (w' : Roots)
    (list : List Name) (reservation journal : Name) (bytes : List UInt8)
    (record : PrivateAttemptRecordV4),
    (recoverRoots P state cgroup).run (start state cgroup) = (w', .ok list) ∧
      reservation ∈ w'.files ∧ isReservation reservation = true ∧ journal ∈ state.names ∧
      journal ∉ w'.files ∧
      readRecordNoFollow (P.reservation reservation).journalRead = .ok bytes ∧
      PrivateAttemptRecordV4.parse bytes = .ok record ∧ record.attemptId.bytes = journal :=
  ⟨_, _, _, _, _, reservation.fileName, reservation.identity, reservedText, reserved, run_changing,
    by decide +kernel, by decide +kernel, by decide +kernel, by decide +kernel, read_reserved,
    parse_reserved, by decide +kernel⟩

end

end MemCordon.RootRecovery
