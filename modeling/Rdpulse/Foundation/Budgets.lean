import Rdpulse.Foundation.Threads

namespace Rdpulse.Foundation

/-! Runs in which a kind of event can happen only so often. A budget that such an
event spends, and that no other event raises, bounds how often it happens. -/

namespace Machine.Run

variable {State : Type u} {Event : Type v} {machine : Machine State Event}
  {allowed : State → Event → Prop}

/-- The budget rule. -/
theorem countP_le {start finish : State} {events : List Event}
    (run : machine.Run allowed start events finish) (counts : Event → Bool) (left : State → Nat)
    (spends : ∀ state event next, allowed state event → machine.step state event = some next →
      left next + (if counts event then 1 else 0) ≤ left state) :
    events.countP counts + left finish ≤ left start := by
  induction run with
  | nil => simp
  | snoc past permitted step induction =>
      have spent := spends _ _ _ permitted step
      rw [List.countP_append, List.countP_singleton]
      omega

end Machine.Run

variable {Thread : Type u} {Choice : Type v}

def PoolEvent.isTurn (self : Nat) : PoolEvent Thread Choice → Bool
  | .spawn _ => false
  | .advance other _ => other = self

def turns (self : Nat) (events : List (PoolEvent Thread Choice)) : Nat :=
  events.countP (PoolEvent.isTurn self)

end Rdpulse.Foundation
