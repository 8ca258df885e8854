import Rdpulse.Foundation.Threads

namespace Rdpulse.Foundation

/-! The step of a run at which a thread came by something that it keeps. -/

namespace Program

variable {Shared : Type u} {Thread : Type v} {Choice : Type w} {Mark : Type x}

structure Marks (program : Program Shared Thread Choice) (mark : Thread → Option Mark) : Prop where
  entry : ∀ thread, program.entry thread = true → mark thread = none
  kept : ∀ self shared thread choice moved next value,
    program.step self shared thread choice = some (moved, next) →
    mark thread = some value → mark next = some value

variable {program : Program Shared Thread Choice} {mark : Thread → Option Mark}
  {allowed : Pool Shared Thread → PoolEvent Thread Choice → Prop}

theorem Marks.exists_step (marks : Marks program mark) {start pool : Pool Shared Thread}
    (unmarked : ∀ thread ∈ start.threads, mark thread = none)
    {events : List (PoolEvent Thread Choice)} (run : program.machine.Run allowed start events pool)
    {self : Nat} {thread : Thread} {value : Mark} (found : pool.threads[self]? = some thread)
    (marked : mark thread = some value) :
    ∃ past choice rest before source moved next,
      events = past ++ .advance self choice :: rest ∧
      program.machine.Run allowed start past before ∧
      before.threads[self]? = some source ∧ mark source = none ∧
      program.step self before.shared source choice = some (moved, next) ∧
      mark next = some value ∧
      program.machine.Run allowed (before.update self moved next) rest pool := by
  induction run generalizing thread with
  | nil =>
      rw [unmarked thread (List.mem_of_getElem? found)] at marked
      cases marked
  | @snoc events middle event finish earlier permitted step induction =>
      have extend {source : Thread} (there : middle.threads[self]? = some source)
          (already : mark source = some value) :
          ∃ past choice rest before source moved next,
            events ++ [event] = past ++ .advance self choice :: rest ∧
            program.machine.Run allowed start past before ∧
            before.threads[self]? = some source ∧ mark source = none ∧
            program.step self before.shared source choice = some (moved, next) ∧
            mark next = some value ∧
            program.machine.Run allowed (before.update self moved next) rest finish := by
        rcases induction there already with
          ⟨past, choice, rest, before, source, moved, next, rfl, run, present, none, taken, made,
            later⟩
        exact ⟨past, choice, rest ++ [event], before, source, moved, next, by simp, run, present,
          none, taken, made, later.snoc permitted step⟩
      rcases step_cases step with
        ⟨added, rfl, enters, rfl⟩ | ⟨other, choice, source, moved, next, rfl, present, taken, rfl⟩
      · rcases Pool.start_cases found with old | ⟨rfl, rfl⟩
        · exact extend old marked
        · rw [marks.entry _ enters] at marked
          cases marked
      · by_cases same : self = other
        · subst same
          rw [Pool.update_self present] at found
          cases found
          cases already : mark source with
          | none =>
              exact ⟨events, choice, [], middle, source, moved, thread, rfl, earlier, present, already,
                taken, marked, .nil⟩
          | some held =>
              rw [marks.kept _ _ _ _ _ _ _ taken already] at marked
              cases marked
              exact extend present already
        · rw [Pool.update_other middle same] at found
          exact extend found marked

end Program

end Rdpulse.Foundation
