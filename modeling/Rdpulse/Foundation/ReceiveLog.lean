import Mathlib.Data.Int.Init
import Mathlib.Data.List.Nodup
import Mathlib.Tactic.Ring

namespace Rdpulse.Foundation

/-! What a receiver of numbered messages has accepted, over unbounded numbers.
Messages travel with the low bits of their number, and a receiver that keeps a
bounded window of its log may refuse what lies behind the window. -/

structure ReceiveLog where
  highest : Int
  marked : List Int
  bounded : ∀ number ∈ marked, number ≤ highest
  nodup : marked.Nodup

namespace ReceiveLog

variable (log : ReceiveLog)

def starting (number : Int) : ReceiveLog where
  highest := number
  marked := [number]
  bounded := by simp
  nodup := List.nodup_singleton number

/-- Ahead of everything so far, or in the window and not yet marked. -/
def Accepts (window : Nat) (number : Int) : Prop :=
  log.highest < number ∨ log.highest < number + window ∧ number ∉ log.marked

instance (window : Nat) (number : Int) : Decidable (log.Accepts window number) :=
  inferInstanceAs (Decidable (_ ∨ _))

variable {log}

theorem not_mem_of_ahead {number : Int} (ahead : log.highest < number) : number ∉ log.marked :=
  fun member => absurd (log.bounded number member) (by omega)

theorem not_mem_of_accepts {window : Nat} {number : Int} (accepts : log.Accepts window number) :
    number ∉ log.marked :=
  accepts.elim not_mem_of_ahead And.right

variable (log)

def mark (number : Int) (fresh : number ∉ log.marked) : ReceiveLog where
  highest := max log.highest number
  marked := number :: log.marked
  bounded := by
    intro other member
    rcases List.mem_cons.mp member with rfl | member
    · exact le_max_right _ _
    · exact le_trans (log.bounded other member) (le_max_left _ _)
  nodup := List.nodup_cons.mpr ⟨fresh, log.nodup⟩

/-- The number closest to the highest so far that has these low bits. -/
def extend (bits : Nat) (low : Int) : Int :=
  log.highest + Int.bmod (low - log.highest) (2 ^ bits)

variable {log}

/-- Numbers that never drift half the space apart are their own extension. -/
theorem extend_of_near {bits : Nat} {low : Int} (above : -(2 ^ bits : Nat) ≤ 2 * (low - log.highest))
    (below : 2 * (low - log.highest) < (2 ^ bits : Nat)) : log.extend bits low = low := by
  rw [extend, Int.bmod_eq_of_le_mul_two (by omega) (by omega)]
  ring

end ReceiveLog

end Rdpulse.Foundation
