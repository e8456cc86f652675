import MemCordon.Core.Outcome

/-!
# Execution policy

The caller's request: memory limit, deadline, boundary and the grace periods. Durations are
nanoseconds. A `DeadlinePolicy` is zero or at least a millisecond long, and its milliseconds fit
64 bits; both are fields, as its constructor is the only way to make one.
-/

namespace MemCordon

open Clock Counter

/-- The boundary the caller asks for. -/
inductive BoundaryRequirement
  | standard
  | sealed
  deriving DecidableEq, Inhabited

/-- When an attempt whose direct command exited is complete. -/
inductive Lifetime
  | command
  | workload
  deriving DecidableEq

inductive Metric
  | native
  | physicalFootprint
  | rss
  | virtual
  deriving DecidableEq

structure DeadlinePolicy where
  duration : ℕ
  scope : DeadlineScope
  zero_or_millis : asMillis duration = 0 → duration = 0
  millis_fit : asMillis duration < u64Bound
  deriving DecidableEq

def DeadlinePolicy.new (duration : ℕ) (scope : DeadlineScope) : Option DeadlinePolicy :=
  if h : (asMillis duration = 0 → duration = 0) ∧ asMillis duration < u64Bound then
    some ⟨duration, scope, h.1, h.2⟩
  else none

def DeadlinePolicy.oneSecond : DeadlinePolicy := ⟨ofSecs 1, .attempt, by decide, by decide⟩

/-- The execution policy. Of the workload contracts only their presence is kept: the supervision
loop reads nothing else of them. -/
structure Policy where
  hasWorkloadContract : Bool := false
  hasPrivateWorkloadContract : Bool := false
  memory : Option ℕ
  deadline : Option DeadlinePolicy := none
  boundary : BoundaryRequirement := .standard
  lifetime : Lifetime := .command
  metric : Metric := .native
  pollInterval : ℕ := ofMillis 50
  signalGrace : ℕ := ofSecs 2
  commandExitGrace : ℕ := 0
  limitGrace : ℕ := 0

/-- The deadline, when it bounds the whole supervision. -/
def Policy.supervisionDeadline (p : Policy) : Option DeadlinePolicy :=
  p.deadline.filter (·.scope = .supervision)

end MemCordon
