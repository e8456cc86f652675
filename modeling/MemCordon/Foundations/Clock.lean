import Mathlib.Order.MinMax
import MemCordon.Foundations.Counter

/-!
# Durations and clock readings

A duration is a natural number of nanoseconds. Readings of a monotonic clock are offsets from one
fixed instant, in nanoseconds too, so the time between two readings is their truncated difference
(`elapsed`). Reports carry whole milliseconds: `millis` truncates, and saturates at the largest
64-bit value.
-/

namespace MemCordon.Clock

open Counter

def nanosPerMilli : ℕ := 1000000

/-- Whole milliseconds of a duration. -/
def asMillis (d : ℕ) : ℕ := d / nanosPerMilli

/-- The duration of a number of milliseconds. -/
def ofMillis (n : ℕ) : ℕ := n * nanosPerMilli

/-- The duration of a number of seconds. -/
def ofSecs (n : ℕ) : ℕ := n * 1000 * nanosPerMilli

/-- Whole milliseconds of a duration, saturating at the largest 64-bit value. -/
def millis (d : ℕ) : ℕ := min (asMillis d) u64Max

/-- The time from the reading `earlier` to the reading `later`, zero when they are out of order. -/
def elapsed (earlier later : ℕ) : ℕ := later - earlier

theorem asMillis_mono {d e : ℕ} (h : d ≤ e) : asMillis d ≤ asMillis e :=
  Nat.div_le_div_right h

theorem millis_mono {d e : ℕ} (h : d ≤ e) : millis d ≤ millis e :=
  min_le_min (asMillis_mono h) le_rfl

end MemCordon.Clock
