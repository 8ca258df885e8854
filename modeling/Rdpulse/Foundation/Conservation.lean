import Mathlib.Algebra.BigOperators.Group.List.Basic
import Mathlib.Algebra.GroupWithZero.Nat
import Mathlib.Algebra.Order.BigOperators.Group.List
import Mathlib.Algebra.Order.Group.Nat
import Rdpulse.Foundation.Threads

namespace Rdpulse.Foundation

/-! Quantities summed over the threads of a pool, for laws that say what the threads
hold between them. -/

namespace Pool

variable {Shared : Type u} {Thread : Type v}

def total (pool : Pool Shared Thread) (amount : Thread → Nat) : Nat :=
  (pool.threads.map amount).sum

theorem total_start (pool : Pool Shared Thread) (amount : Thread → Nat) (thread : Thread) :
    (pool.start thread).total amount = pool.total amount + amount thread := by
  simp [total, start]

theorem total_update {pool : Pool Shared Thread} {self : Nat} {thread : Thread}
    (present : pool.threads[self]? = some thread) (amount : Thread → Nat) (shared : Shared)
    (next : Thread) :
    (pool.update self shared next).total amount + amount thread =
      pool.total amount + amount next := by
  rcases List.getElem?_eq_some_iff.mp present with ⟨bound, found⟩
  have split : pool.threads =
      pool.threads.take self ++ thread :: pool.threads.drop (self + 1) := by
    rw [← found, ← List.drop_eq_getElem_cons bound, List.take_append_drop]
  simp only [total, update]
  rw [List.set_eq_take_append_cons_drop, if_pos bound]
  conv => rhs; rw [split]
  simp only [List.map_append, List.map_cons, List.sum_append, List.sum_cons]
  omega

theorem le_total {pool : Pool Shared Thread} {self : Nat} {thread : Thread}
    (present : pool.threads[self]? = some thread) (amount : Thread → Nat) :
    amount thread ≤ pool.total amount :=
  List.le_sum_of_mem (List.mem_map_of_mem (mem_of_getElem? present))

theorem total_eq_zero {pool : Pool Shared Thread} {amount : Thread → Nat} :
    pool.total amount = 0 ↔ ∀ thread ∈ pool.threads, amount thread = 0 := by
  simp [total, List.sum_eq_zero_iff_forall_eq_nat]

end Pool

end Rdpulse.Foundation
