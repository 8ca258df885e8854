import Mathlib.Logic.Basic

namespace Rdpulse.Foundation

/-! Machines driven by events, their runs, and the rules that carry an
invariant along a run. Whatever a machine leaves open (a schedule, a random
draw, an answer from outside) is part of the event, so `step` is a function. -/

/-- An executable transition system. `step` answers `none` where the event is
not enabled. -/
structure Machine (State : Type u) (Event : Type v) where
  step : State → Event → Option State

namespace Machine

variable {State : Type u} {Event : Type v}

def execute (machine : Machine State Event) : State → List Event → Option State
  | state, [] => some state
  | state, event :: rest =>
      match machine.step state event with
      | none => none
      | some next => machine.execute next rest

/-- Runs whose steps all meet `allowed`, which may state what the environment
never does or the condition under which a result is claimed. -/
inductive Run (machine : Machine State Event) (allowed : State → Event → Prop)
    (start : State) : List Event → State → Prop
  | nil : Run machine allowed start [] start
  | snoc {events middle event finish} :
      Run machine allowed start events middle →
      allowed middle event →
      machine.step middle event = some finish →
      Run machine allowed start (events ++ [event]) finish

/-- No restriction on the steps of a run. -/
def Unrestricted (_ : State) (_ : Event) : Prop := True

instance (state : State) (event : Event) : Decidable (Unrestricted state event) :=
  inferInstanceAs (Decidable True)

/-- Every step that `execute` takes meets `allowed`. -/
def Permits (machine : Machine State Event) (allowed : State → Event → Prop) :
    State → List Event → Prop
  | _, [] => True
  | state, event :: rest =>
      allowed state event ∧
        ∀ next, machine.step state event = some next → machine.Permits allowed next rest

variable {machine : Machine State Event} {allowed : State → Event → Prop}

namespace Run

theorem append {start middle finish : State} {before after : List Event}
    (first : Run machine allowed start before middle)
    (second : Run machine allowed middle after finish) :
    Run machine allowed start (before ++ after) finish := by
  induction second with
  | nil => simpa using first
  | snoc _ permitted step induction =>
      rw [← List.append_assoc]
      exact induction.snoc permitted step

theorem single {start finish : State} {event : Event}
    (permitted : allowed start event)
    (step : machine.step start event = some finish) :
    Run machine allowed start [event] finish :=
  Run.nil.snoc permitted step

theorem weaken {weaker : State → Event → Prop} {start finish : State}
    {events : List Event} (run : Run machine allowed start events finish)
    (implies : ∀ state event, allowed state event → weaker state event) :
    Run machine weaker start events finish := by
  induction run with
  | nil => exact .nil
  | snoc _ permitted step induction =>
      exact induction.snoc (implies _ _ permitted) step

/-- The induction rule for runs. The invariant may speak of the events taken
so far, and a step may use that its source was reached. -/
theorem invariant {holds : List Event → State → Prop} {start finish : State}
    {events : List Event} (run : Run machine allowed start events finish)
    (initially : holds [] start)
    (preserved : ∀ past middle event next,
      Run machine allowed start past middle → holds past middle →
      allowed middle event → machine.step middle event = some next →
      holds (past ++ [event]) next) :
    holds events finish := by
  induction run with
  | nil => exact initially
  | snoc past permitted step induction =>
      exact preserved _ _ _ _ past induction permitted step

/-- The invariant rule for a property of states alone. -/
theorem preserves {holds : State → Prop} {start finish : State}
    {events : List Event} (run : Run machine allowed start events finish)
    (initially : holds start)
    (preserved : ∀ middle event next, holds middle → allowed middle event →
      machine.step middle event = some next → holds next) :
    holds finish := by
  induction run with
  | nil => exact initially
  | snoc _ permitted step induction => exact preserved _ _ _ induction permitted step

/-- A fact established for every state that the run's condition can reach may
be added to that condition, so that invariants are proved one after another. -/
theorem strengthen {known : State → Prop} {start finish : State}
    {events : List Event} (run : Run machine allowed start events finish)
    (established : ∀ past middle, Run machine allowed start past middle → known middle) :
    Run machine (fun state event => allowed state event ∧ known state)
      start events finish := by
  induction run with
  | nil => exact .nil
  | snoc past permitted step induction =>
      exact induction.snoc ⟨permitted, established _ _ past⟩ step

/-- Either no step of a run is exceptional, or there is a first one that is. -/
theorem all_or_first {exceptional : State → Event → Prop} {start finish : State}
    {events : List Event} (run : Run machine allowed start events finish) :
    Run machine (fun state event => allowed state event ∧ ¬exceptional state event)
        start events finish ∨
      ∃ before event after middle next,
        Run machine (fun state event => allowed state event ∧ ¬exceptional state event)
          start before middle ∧
        allowed middle event ∧ exceptional middle event ∧
        machine.step middle event = some next ∧ Run machine allowed next after finish := by
  induction run with
  | nil => exact .inl .nil
  | @snoc events middle event finish past permitted step induction =>
      rcases induction with kept | ⟨before, first, after, source, next, kept, was, strange, moved,
        later⟩
      · by_cases strange : exceptional middle event
        · exact .inr ⟨events, event, [], middle, finish, kept, permitted, strange, step, .nil⟩
        · exact .inl (kept.snoc ⟨permitted, strange⟩ step)
      · exact .inr ⟨before, first, _, source, next, kept, was, strange, moved,
          later.snoc permitted step⟩

end Run

theorem run_of_execute {start finish : State} {events : List Event}
    (executed : machine.execute start events = some finish)
    (permitted : machine.Permits allowed start events) :
    Run machine allowed start events finish := by
  induction events generalizing start with
  | nil =>
      cases executed
      exact .nil
  | cons event rest induction =>
      rw [execute] at executed
      cases step : machine.step start event with
      | none => simp [step] at executed
      | some next =>
          simp only [step] at executed
          exact (Run.single permitted.1 step).append
            (induction executed (permitted.2 next step))

theorem permits_unrestricted (start : State) (events : List Event) :
    machine.Permits Unrestricted start events := by
  induction events generalizing start with
  | nil => trivial
  | cons event rest induction => exact ⟨trivial, fun next _ => induction next⟩

def Attains (machine : Machine State Event) (allowed : State → Event → Prop)
    (holds : State → Prop) : State → List Event → Prop
  | state, [] => holds state
  | state, event :: rest =>
      allowed state event ∧
        ∃ next, machine.step state event = some next ∧
          machine.Attains allowed holds next rest

/-- Each step is evaluated once, for its condition and for what follows it. -/
instance Attains.decidable {holds : State → Prop} [DecidablePred holds]
    [∀ state event, Decidable (allowed state event)] :
    ∀ state events, Decidable (machine.Attains allowed holds state events)
  | state, [] => inferInstanceAs (Decidable (holds state))
  | state, event :: rest =>
      match step : machine.step state event with
      | none => isFalse (by simp [Attains, step])
      | some next =>
          have : Decidable (machine.Attains allowed holds next rest) :=
            Attains.decidable next rest
          decidable_of_iff (allowed state event ∧ machine.Attains allowed holds next rest)
            (by simp [Attains, step])

/-- A run found by evaluation or by rewriting, with a property of its last state. -/
theorem exists_run (machine : Machine State Event) (allowed : State → Event → Prop)
    (holds : State → Prop) (start : State) (events : List Event)
    (attains : machine.Attains allowed holds start events) :
    ∃ finish, Run machine allowed start events finish ∧ holds finish := by
  induction events generalizing start with
  | nil => exact ⟨start, .nil, attains⟩
  | cons event rest induction =>
      rcases attains with ⟨permitted, next, step, later⟩
      rcases induction next later with ⟨finish, run, found⟩
      exact ⟨finish, (Run.single permitted step).append run, found⟩

end Machine

end Rdpulse.Foundation
