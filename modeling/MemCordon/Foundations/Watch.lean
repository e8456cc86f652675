import MemCordon.Foundations.Runs

/-!
# Watching computations

One turn of a monitor makes a series of probes. Each probe may show an event, and may end the turn
early. A `Watch` is such a series: the events its probes showed, in order, and whether it goes on
with a value or has ended with a result. Probes made after the end show nothing, so `seen` is
exactly what the turn could know when it ended.

`Watch.ended_bind` is the inversion rule all case analyses over a turn use: a sequence has ended
because its first part did, or because the first part went on and the second part ended.
-/

namespace MemCordon

universe u

/-- A series of probes: what they showed, and whether the series goes on or has ended. -/
structure Watch (ε ρ α : Type u) where
  seen : List ε
  flow : Flow α ρ

namespace Watch

variable {ε ρ α β : Type u}

/-- Go on with a value, having seen nothing. -/
protected def pure (a : α) : Watch ε ρ α := ⟨[], .again a⟩

/-- Note events and go on. -/
def note (events : List ε) (a : α) : Watch ε ρ α := ⟨events, .again a⟩

/-- Note events and end. -/
def stop (events : List ε) (r : ρ) : Watch ε ρ α := ⟨events, .done r⟩

/-- One part after the other. -/
protected def bind (x : Watch ε ρ α) (f : α → Watch ε ρ β) : Watch ε ρ β :=
  match x.flow with
  | .done r => ⟨x.seen, .done r⟩
  | .again a => ⟨x.seen ++ (f a).seen, (f a).flow⟩

instance : Monad (Watch ε ρ) where
  pure := Watch.pure
  bind := Watch.bind

@[simp] theorem note_bind (events : List ε) (a : α) (f : α → Watch ε ρ β) :
    (note events a >>= f) = ⟨events ++ (f a).seen, (f a).flow⟩ := rfl

@[simp] theorem stop_bind (events : List ε) (r : ρ) (f : α → Watch ε ρ β) :
    ((stop events r : Watch ε ρ α) >>= f) = stop events r := rfl

/-- `x.Ended seen r`: the series ended with `r`, having seen `seen`. -/
def Ended (x : Watch ε ρ α) (seen : List ε) (r : ρ) : Prop := x.seen = seen ∧ x.flow = .done r

/-- `x.Went seen a`: the series went on with `a`, having seen `seen`. -/
def Went (x : Watch ε ρ α) (seen : List ε) (a : α) : Prop := x.seen = seen ∧ x.flow = .again a

variable {r : ρ}

variable {f : α → Watch ε ρ β} {seen : List ε} {x : Watch ε ρ α}

theorem ended_bind : (x >>= f).Ended seen r ↔ x.Ended seen r ∨
      ∃ before a after, x.Went before a ∧ (f a).Ended after r ∧ seen = before ++ after := by
  obtain ⟨events, flow⟩ := x
  constructor
  · rintro ⟨rfl, hr⟩
    cases flow with
    | done r' =>
      obtain rfl : r' = r := Flow.done.inj hr
      exact .inl ⟨rfl, rfl⟩
    | again a => exact .inr ⟨events, a, (f a).seen, ⟨rfl, rfl⟩, ⟨rfl, hr⟩, rfl⟩
  · rintro (⟨rfl, hr⟩ | ⟨before, a, after, ⟨rfl, ha⟩, ⟨rfl, hr⟩, rfl⟩)
    · obtain rfl : flow = .done r := hr
      exact ⟨rfl, rfl⟩
    · obtain rfl : flow = .again a := ha
      exact ⟨rfl, hr⟩

variable {events seen : List ε} {a : α}

/-- A sequence whose first part only notes events ends as its second part does. -/
theorem ended_note_bind :
    (note events a >>= f).Ended seen r ↔ ∃ after, (f a).Ended after r ∧ seen = events ++ after := by
  constructor
  · rintro ⟨rfl, hr⟩
    exact ⟨_, ⟨rfl, hr⟩, rfl⟩
  · rintro ⟨after, ⟨rfl, hr⟩, rfl⟩
    exact ⟨rfl, hr⟩

@[simp] theorem ended_stop {r r' : ρ} : (stop events r : Watch ε ρ α).Ended seen r' ↔
    events = seen ∧ r = r' := by
  simp [Ended, stop]

@[simp] theorem ended_note : ¬(note events a : Watch ε ρ α).Ended seen r := by
  simp [Ended, note]

theorem Ended.of_stop {r' : ρ} (h : (x >>= f).Ended seen r) (hx : x = stop events r') :
    events = seen ∧ r' = r := by
  rw [hx, stop_bind] at h
  exact ended_stop.1 h

theorem Ended.of_note (h : (x >>= f).Ended seen r) (hx : x = note events a) :
    ∃ after, (f a).Ended after r ∧ seen = events ++ after := by
  rwa [hx, ended_note_bind] at h

/-- End with a result when there is one. -/
def stopWith : Option ρ → Watch ε ρ PUnit
  | some r => stop [] r
  | none => note [] ⟨⟩

theorem ended_stopWith_bind {x : Option ρ} {f : PUnit → Watch ε ρ β} :
    (stopWith x >>= f).Ended seen r ↔ (x = some r ∧ seen = []) ∨
      (x = none ∧ (f ⟨⟩).Ended seen r) := by
  cases x with
  | none =>
    change (note [] ⟨⟩ >>= f).Ended seen r ↔ _
    rw [ended_note_bind]
    simp
  | some r' =>
    change (stop [] r' : Watch ε ρ β).Ended seen r ↔ _
    rw [ended_stop]
    simp [eq_comm, and_comm]

variable {ξ : Type u}

/-- A probe whose failure ends the series. -/
def attempt : Except ξ α → Watch ε (Except ξ ρ) α
  | .ok a => note [] a
  | .error e => stop [] (.error e)

/-- A series that ends with success made none of its probes fail. -/
theorem ended_attempt_bind_ok {x : Except ξ α} {f : α → Watch ε (Except ξ ρ) β} :
    (attempt x >>= f).Ended seen (.ok r) ↔ ∃ a, x = .ok a ∧ (f a).Ended seen (.ok r) := by
  cases x with
  | ok a =>
    change (note [] a >>= f).Ended seen _ ↔ _
    rw [ended_note_bind]
    simp
  | error e =>
    change (stop [] (.error e) : Watch ε (Except ξ ρ) β).Ended seen _ ↔ _
    rw [ended_stop]
    simp

end Watch

end MemCordon
