import Mathlib.Algebra.Order.Ring.Int
import Mathlib.Tactic.Linarith

/-! Instants of Go's `time`, and the windows that truncation rounds them down to. -/
namespace Portage.Go

/-- An instant in nanoseconds since the start of 1970. -/
abbrev Instant := Int

/-- Go's zero time, the start of the year 1. -/
def zeroTime : Instant := -62135596800000000000

/-- `Time.Truncate`: round down to a multiple of `d` since the zero time. -/
def truncate (t : Instant) (d : Int) : Instant := if d ≤ 0 then t else t - (t - zeroTime) % d

/-- `Time.Unix`. -/
def unix (t : Instant) : Int := t / 1000000000

/-- The number of the window of length `d` that an instant falls in, counted from the
zero time. -/
def window (d : Int) (t : Instant) : Int := (t - zeroTime) / d

variable {d : Int}

theorem truncate_eq (positive : 0 < d) (t : Instant) : truncate t d = zeroTime + d * window d t := by
  have parts := Int.mul_ediv_add_emod (t - zeroTime) d
  rw [truncate, if_neg (by omega), window]
  linarith

/-- A later window starts at a later second, as long as windows last a second. -/
theorem unix_lt_of_window_lt (long : 1000000000 ≤ d) {s t : Instant} (earlier : window d s < window d t) :
    unix (truncate s d) < unix (truncate t d) := by
  have apart : d * window d s + d ≤ d * window d t := by
    have next : window d s + 1 ≤ window d t := earlier
    have scaled := Int.mul_le_mul_of_nonneg_left next (by omega : 0 ≤ d)
    linarith
  rw [truncate_eq (by omega), truncate_eq (by omega), unix, unix]
  omega

/-- The second at which a window starts identifies it. -/
theorem unix_truncate_inj (long : 1000000000 ≤ d) {s t : Instant} :
    unix (truncate s d) = unix (truncate t d) ↔ window d s = window d t := by
  constructor
  · intro same
    rcases lt_trichotomy (window d s) (window d t) with earlier | equal | later
    · exact absurd same (unix_lt_of_window_lt long earlier).ne
    · exact equal
    · exact absurd same (unix_lt_of_window_lt long later).ne'
  · intro same
    rw [truncate_eq (by omega), truncate_eq (by omega), same]

end Portage.Go
