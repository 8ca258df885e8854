import Rdpulse.Foundation.Threads

namespace Rdpulse.Foundation

/-! A lock in the shared state of a program. Whoever is between taking it and giving
it back is its holder, so no two threads are there at once. -/

structure Lock (Shared : Type u) (Thread : Type v) where
  holder : Shared → Option Nat
  inside : Thread → Bool

namespace Lock

variable {Shared : Type u} {Thread : Type v} {Choice : Type w} (lock : Lock Shared Thread)

/-- An action leaves the lock alone, takes it while it is free, or gives it back. -/
def Step (self : Nat) (shared moved : Shared) (thread next : Thread) : Prop :=
  (lock.holder moved = lock.holder shared ∧ lock.inside next = lock.inside thread) ∨
    (lock.holder shared = none ∧ lock.holder moved = some self ∧ lock.inside thread = false) ∨
    (lock.inside thread = true ∧ lock.inside next = false)

structure Respected (program : Program Shared Thread Choice) : Prop where
  entry : ∀ thread, program.entry thread = true → lock.inside thread = false
  step : ∀ self shared thread choice moved next,
    program.step self shared thread choice = some (moved, next) →
    lock.Step self shared moved thread next

def outline : Program.Outline Shared Thread where
  global _ := True
  assertion self pool thread := lock.inside thread = true → lock.holder pool.shared = some self

variable {lock} {program : Program Shared Thread Choice} {pool : Pool Shared Thread}

theorem Respected.outline_valid (respected : lock.Respected program)
    (allowed : Pool Shared Thread → PoolEvent Thread Choice → Prop) :
    lock.outline.Valid program allowed where
  started pool thread _ enters _ :=
    ⟨trivial, fun inside => by simp [respected.entry thread enters] at inside⟩
  undisturbedByStart pool thread other bystander holds _ _ found :=
    holds.thread other bystander found
  sequential pool self thread choice shared next holds present _ taken := by
    refine ⟨trivial, fun inside => ?_⟩
    have own := holds.thread self thread present
    rcases respected.step _ _ _ _ _ _ taken with
      ⟨kept, same⟩ | ⟨_, acquired, _⟩ | ⟨_, released⟩
    · exact kept.trans (own (same ▸ inside))
    · exact acquired
    · rw [released] at inside
      cases inside
  interferenceFree pool self thread choice shared next other bystander holds present _
      taken different found := by
    intro inside
    have theirs := holds.thread other bystander found inside
    rcases respected.step _ _ _ _ _ _ taken with ⟨kept, _⟩ | ⟨free, _, _⟩ | ⟨held, _⟩
    · exact kept.trans theirs
    · rw [free] at theirs
      cases theirs
    · -- Only the holder gives the lock back, and `other` is the holder.
      have own := holds.thread self thread present held
      rw [theirs] at own
      exact absurd (Option.some.inj own) different

theorem outline_initial (empty : pool.threads = []) : lock.outline.Holds pool :=
  ⟨trivial, fun self thread present => by simp [empty] at present⟩

theorem exclusive (holds : lock.outline.Holds pool) {self other : Nat} {thread bystander : Thread}
    (present : pool.threads[self]? = some thread)
    (found : pool.threads[other]? = some bystander)
    (inside : lock.inside thread = true) (also : lock.inside bystander = true) :
    other = self := by
  have own := holds.thread self thread present inside
  have theirs := holds.thread other bystander found also
  rw [own] at theirs
  exact (Option.some.inj theirs).symm

def Kept (lock : Lock Shared Thread) (self : Nat) (shared moved : Shared) (thread next : Thread) : Prop :=
  (lock.holder moved = lock.holder shared ∧ lock.inside next = lock.inside thread) ∨
    (lock.holder moved = some self ∧ lock.inside next = true) ∨
    lock.holder moved = none

def HeldInside (lock : Lock Shared Thread) (pool : Pool Shared Thread) : Prop :=
  ∀ holder, lock.holder pool.shared = some holder →
    ∃ thread, pool.threads[holder]? = some thread ∧ lock.inside thread = true

theorem HeldInside.step {pool next : Pool Shared Thread} {event : PoolEvent Thread Choice}
    (before : lock.HeldInside pool)
    (kept : ∀ self shared thread choice moved next,
      program.step self shared thread choice = some (moved, next) →
      lock.Kept self shared moved thread next)
    (step : program.machine.step pool event = some next) : lock.HeldInside next := by
  intro holder holds
  rcases Program.step_cases step with
    ⟨added, rfl, _, rfl⟩ | ⟨self, choice, thread, shared, moved, rfl, present, taken, rfl⟩
  · rcases before holder holds with ⟨thread, present, inside⟩
    exact ⟨thread, Pool.start_old present added, inside⟩
  · rcases kept _ _ _ _ _ _ taken with ⟨same, stays⟩ | ⟨acquired, inside⟩ | free
    · rcases before holder (same.symm.trans holds) with ⟨holding, there, inside⟩
      by_cases own : holder = self
      · subst own
        rw [present] at there
        cases there
        exact ⟨moved, Pool.update_self present shared moved, stays.trans inside⟩
      · exact ⟨holding, (Pool.update_other pool own shared moved).trans there, inside⟩
    · rw [Pool.update_shared, acquired] at holds
      cases holds
      exact ⟨moved, Pool.update_self present shared moved, inside⟩
    · rw [Pool.update_shared, free] at holds
      cases holds

end Lock

end Rdpulse.Foundation
