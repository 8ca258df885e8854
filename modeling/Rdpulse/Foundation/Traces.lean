import Mathlib.Data.Nat.Find
import Mathlib.Tactic.Choose
import Mathlib.Tactic.Push
import Rdpulse.Foundation.Threads

namespace Rdpulse.Foundation

/-! Infinite runs: what persists, what happens only finitely often, and what a fair
scheduler brings about. -/

/-- An infinite run, with its state before each event. -/
structure Machine.Trace {State : Type u} {Event : Type v} (machine : Machine State Event) where
  state : Nat → State
  event : Nat → Event
  step : ∀ time, machine.step (state time) (event time) = some (state (time + 1))

def FinitelyOften (happens : Nat → Prop) : Prop :=
  ∃ bound, ∀ time, bound ≤ time → ¬happens time

/-- Whoever can act from some time on acts again. -/
def WeaklyFair (enabled acts : Nat → Prop) : Prop :=
  ∀ start, (∀ time, start ≤ time → enabled time) → ∃ time, start ≤ time ∧ acts time

section Times

variable {holds happens : Nat → Prop} {start : Nat}

theorem persists (kept : ∀ time, start ≤ time → holds time → holds (time + 1))
    (initially : holds start) : ∀ time, start ≤ time → holds time := by
  intro time later
  induction time, later using Nat.le_induction with
  | base => exact initially
  | succ time later induction => exact kept time later induction

/-- A number that nothing raises and every occurrence lowers. -/
theorem finitelyOften_of_rank {rank : Nat → Nat}
    (falls : ∀ time, start ≤ time → rank (time + 1) ≤ rank time)
    (spends : ∀ time, start ≤ time → happens time → rank (time + 1) < rank time) :
    FinitelyOften happens := by
  by_contra often
  -- By then it has happened that often, each time at the cost of one.
  have spent (count : Nat) : ∃ time, start ≤ time ∧ rank time + count ≤ rank start := by
    induction count with
    | zero => exact ⟨start, Nat.le_refl start, by omega⟩
    | succ count induction =>
        rcases induction with ⟨time, later, low⟩
        rw [FinitelyOften] at often
        push Not at often
        rcases often time with ⟨next, after, happened⟩
        have reached : rank next ≤ rank time :=
          @persists (fun moment => rank moment ≤ rank time) time
            (fun moment since below => Nat.le_trans (falls moment (by omega)) below)
            (Nat.le_refl _) next after
        have fewer := spends next (by omega) happened
        exact ⟨next + 1, by omega, by omega⟩
  rcases spent (rank start + 1) with ⟨time, _, low⟩
  omega

/-- A fair actor that stays able to act takes its next action after each time, and
until then nothing has changed. -/
theorem next_action {enabled acts : Nat → Prop} (fair : WeaklyFair enabled acts)
    (able : ∀ time, start ≤ time → enabled time)
    (waits : ∀ time, start ≤ time → ¬acts time → holds time → holds (time + 1))
    (now : holds start) : ∃ time, start ≤ time ∧ acts time ∧ holds time := by
  classical
  have again := fair start able
  rcases Nat.find_spec again with ⟨later, acted⟩
  refine ⟨Nat.find again, later, acted, ?_⟩
  have before (time : Nat) (since : start ≤ time) : time ≤ Nat.find again → holds time := by
    induction time, since using Nat.le_induction with
    | base => exact fun _ => now
    | succ time since induction =>
        intro early
        have idle : ¬acts time := fun acted =>
          Nat.find_min again (show time < Nat.find again by omega) ⟨since, acted⟩
        exact waits time since idle (induction (by omega))
  exact before _ later (Nat.le_refl _)

theorem change_of_fair {enabled acts changes : Nat → Prop} (fair : WeaklyFair enabled acts)
    (able : ∀ time, start ≤ time → holds time → enabled time)
    (counts : ∀ time, acts time → changes time)
    (kept : ∀ time, start ≤ time → ¬changes time → holds time → holds (time + 1))
    (now : holds start) : ∃ time, start ≤ time ∧ changes time ∧ holds time := by
  by_contra never
  push Not at never
  have always : ∀ time, start ≤ time → holds time :=
    persists (fun time later held => kept time later (fun changed => never time later changed held)
      held) now
  rcases fair start (fun time later => able time later (always time later)) with
    ⟨time, later, acted⟩
  exact never time later (counts time acted) (always time later)

end Times

namespace Machine

variable {State : Type u} {Event : Type v} {machine : Machine State Event}

theorem execute_append {start : State} {before after : List Event} :
    machine.execute start (before ++ after) =
      (machine.execute start before).bind fun middle => machine.execute middle after := by
  induction before generalizing start with
  | nil => rfl
  | cons event rest induction =>
      simp only [List.cons_append, execute]
      cases machine.step start event with
      | none => rfl
      | some next => exact induction

/-- A finite run whose last state an event leaves as it is can go on with this event. -/
theorem exists_idling {start finish : State} {events : List Event} {idle : Event}
    (executed : machine.execute start events = some finish)
    (idles : machine.step finish idle = some finish) :
    ∃ trace : machine.Trace, trace.state 0 = start ∧
      (∀ time, events.length ≤ time → trace.state time = finish ∧ trace.event time = idle) ∧
      ∀ time state, machine.execute start (events.take time) = some state →
        trace.state time = state := by
  have reached (time : Nat) :
      ∃ state, machine.execute start (events.take time) = some state := by
    have split := @execute_append _ _ machine start (events.take time) (events.drop time)
    rw [List.take_append_drop, executed] at split
    cases found : machine.execute start (events.take time) with
    | none => simp [found] at split
    | some state => exact ⟨state, rfl⟩
  choose state reaches using reached
  have last (time : Nat) (after : events.length ≤ time) : state time = finish := by
    have all := reaches time
    rw [List.take_of_length_le after, executed] at all
    exact (Option.some.inj all).symm
  refine ⟨⟨state, fun time => (events[time]?).getD idle, fun time => ?_⟩, ?_, fun time after => ?_,
    fun time other found => ?_⟩
  · by_cases inside : time < events.length
    · have next := reaches (time + 1)
      rw [List.take_succ_eq_append_getElem inside, execute_append, reaches, Option.bind_some,
        execute] at next
      rw [List.getElem?_eq_getElem inside, Option.getD_some]
      cases stepped : machine.step (state time) events[time] with
      | none => simp [stepped] at next
      | some after =>
          simp only [stepped, execute] at next
          exact next
    · rw [List.getElem?_eq_none (by omega), Option.getD_none, last time (by omega),
        last (time + 1) (by omega)]
      exact idles
  · have none := reaches 0
    rw [List.take_zero] at none
    exact (Option.some.inj none).symm
  · have none := List.getElem?_eq_none after
    exact ⟨last time after, by simp only [none, Option.getD_none]⟩
  · have known := reaches time
    rw [found] at known
    exact (Option.some.inj known).symm

theorem exists_cycle {start : State} {events : List Event} (nonempty : events ≠ [])
    (returns : machine.execute start events = some start) :
    ∃ trace : machine.Trace, trace.state 0 = start ∧
      ∀ time, (machine.execute start (events.take (time % events.length)) =
          some (trace.state time)) ∧
        events[time % events.length]? = some (trace.event time) := by
  have positive : 0 < events.length := List.length_pos_iff.mpr nonempty
  have reached (index : Nat) : ∃ state, machine.execute start (events.take index) = some state := by
    have split := @execute_append _ _ machine start (events.take index) (events.drop index)
    rw [List.take_append_drop, returns] at split
    cases found : machine.execute start (events.take index) with
    | none => simp [found] at split
    | some state => exact ⟨state, rfl⟩
  choose state reaches using reached
  have first : state 0 = start := by
    have none := reaches 0
    rw [List.take_zero] at none
    exact (Option.some.inj none).symm
  have last : state events.length = start := by
    have all := reaches events.length
    rw [List.take_length, returns] at all
    exact (Option.some.inj all).symm
  refine ⟨⟨fun time => state (time % events.length),
    fun time => events.get ⟨time % events.length, Nat.mod_lt _ positive⟩, fun time => ?_⟩,
    by simpa using first, fun time => ⟨reaches _, List.getElem?_eq_getElem _⟩⟩
  have bound := Nat.mod_lt time positive
  have step : machine.step (state (time % events.length)) events[time % events.length] =
      some (state (time % events.length + 1)) := by
    have next := reaches (time % events.length + 1)
    rw [List.take_succ_eq_append_getElem bound, execute_append, reaches, Option.bind_some,
      execute] at next
    cases stepped : machine.step (state (time % events.length)) events[time % events.length] with
    | none => simp [stepped] at next
    | some after =>
        simp only [stepped, execute] at next
        exact next
  have following : (time + 1) % events.length = (time % events.length + 1) % events.length := by
    rw [Nat.mod_add_mod]
  refine step.trans (congrArg some ?_)
  by_cases wraps : time % events.length + 1 = events.length
  · rw [following, wraps, Nat.mod_self, last, first]
  · have inside : time % events.length + 1 < events.length := by omega
    change state (time % events.length + 1) = state ((time + 1) % events.length)
    rw [following, Nat.mod_eq_of_lt inside]

theorem Trace.settles (trace : machine.Trace) {rank : State → Nat}
    (spends : ∀ time, trace.state (time + 1) ≠ trace.state time →
      rank (trace.state (time + 1)) < rank (trace.state time)) :
    ∃ bound, ∀ time, bound ≤ time → trace.state time = trace.state bound := by
  have falls (time : Nat) : rank (trace.state (time + 1)) ≤ rank (trace.state time) := by
    by_cases same : trace.state (time + 1) = trace.state time
    · rw [same]
    · exact Nat.le_of_lt (spends time same)
  rcases @finitelyOften_of_rank (fun time => trace.state (time + 1) ≠ trace.state time) 0
      (fun time => rank (trace.state time)) (fun time _ => falls time)
      (fun time _ => spends time) with ⟨bound, quiet⟩
  refine ⟨bound, fun time later => ?_⟩
  induction time, later using Nat.le_induction with
  | base => rfl
  | succ time later induction => exact (Classical.not_not.mp (quiet time later)).trans induction

end Machine

namespace Program

variable {Shared : Type u} {Thread : Type v} {Choice : Type w}
  {program : Program Shared Thread Choice} {trace : program.machine.Trace}

theorem Outline.Valid.always {outline : Outline Shared Thread}
    (valid : outline.Valid program Machine.Unrestricted) (trace : program.machine.Trace)
    (initially : outline.Holds (trace.state 0)) (time : Nat) : outline.Holds (trace.state time) := by
  induction time with
  | zero => exact initially
  | succ time induction => exact valid.step induction trivial (trace.step time)

def Able (program : Program Shared Thread Choice) (pool : Pool Shared Thread) (self : Nat) : Prop :=
  ∃ choice next, program.machine.step pool (.advance self choice) = some next

/-- A thread that has an action from some time on takes one. -/
def FairTo (trace : program.machine.Trace) (self : Nat) : Prop :=
  WeaklyFair (fun time => program.Able (trace.state time) self)
    fun time => ∃ choice, trace.event time = .advance self choice

theorem FairTo.idles {self bound : Nat} (fair : FairTo trace self)
    (settled : ∀ time, bound ≤ time → trace.state time = trace.state bound)
    (able : program.Able (trace.state bound) self) :
    ∃ choice, program.machine.step (trace.state bound) (.advance self choice) =
      some (trace.state bound) := by
  have always (time : Nat) (later : bound ≤ time) : program.Able (trace.state time) self := by
    rw [settled time later]
    exact able
  rcases fair bound always with ⟨time, later, choice, acts⟩
  have step := trace.step time
  rw [acts, settled time later, settled (time + 1) (by omega)] at step
  exact ⟨choice, step⟩

end Program

end Rdpulse.Foundation
