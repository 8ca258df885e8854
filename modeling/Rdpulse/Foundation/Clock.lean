import Mathlib.Algebra.Group.Int.Defs
import Mathlib.Algebra.Group.Nat.Defs
import Mathlib.Data.Int.DivMod

namespace Rdpulse.Foundation

/-! Readings of the clock and durations: integers that count nanoseconds. -/

/-- What arithmetic on an `int64` leaves of a value. -/
def int64 (value : Int) : Int := value.bmod (2 ^ 64)

theorem int64_of_range {value : Int} (low : -(2 ^ 63) ≤ value) (high : value < 2 ^ 63) :
    int64 value = value := by
  apply Int.bmod_eq_of_le <;> omega

namespace Clock

def second : Int := 1000000000
def minute : Int := 60 * second

/-- `Sub`, which answers the nearest duration where the difference is none. -/
def sub (later earlier : Int) : Int :=
  max (-(2 ^ 63)) (min (2 ^ 63 - 1) (later - earlier))

theorem le_sub {later earlier duration : Int} (ordered : earlier ≤ later)
    (bound : duration < 2 ^ 63) :
    duration ≤ sub later earlier ↔ duration ≤ later - earlier := by
  simp only [sub]
  omega

theorem lt_sub {later earlier duration : Int} (ordered : earlier ≤ later)
    (bound : duration < 2 ^ 63 - 1) :
    duration < sub later earlier ↔ duration < later - earlier := by
  simp only [sub]
  omega

@[simp] theorem sub_self (reading : Int) : sub reading reading = 0 := by
  simp only [sub]
  omega

end Clock

end Rdpulse.Foundation
