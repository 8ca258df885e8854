import Rdpulse.Foundation.Threads

namespace Rdpulse.Foundation

/-! What the steps of a run put out, in the order of the steps. A law between
the outputs and the state reached is an invariant of the events so far. -/

namespace Machine

variable {State : Type u} {Event : Type v} {Output : Type w}

/-- The outputs of the events, up to one that is not enabled. -/
def outputs (machine : Machine State Event) (output : State → Event → List Output) :
    State → List Event → List Output
  | _, [] => []
  | state, event :: rest =>
      match machine.step state event with
      | none => []
      | some next => output state event ++ machine.outputs output next rest

variable {machine : Machine State Event} {allowed : State → Event → Prop}

theorem outputs_append (output : State → Event → List Output) {start middle : State}
    {before : List Event} (run : Run machine allowed start before middle) (after : List Event) :
    machine.outputs output start (before ++ after) =
      machine.outputs output start before ++ machine.outputs output middle after := by
  induction run generalizing after with
  | nil => rfl
  | @snoc events middle event finish _ _ step induction =>
      rw [List.append_assoc, induction, induction, List.singleton_append]
      simp [outputs, step]

theorem Run.outputs_snoc (output : State → Event → List Output) {start middle finish : State}
    {past : List Event} {event : Event} (run : Run machine allowed start past middle)
    (step : machine.step middle event = some finish) :
    machine.outputs output start (past ++ [event]) =
      machine.outputs output start past ++ output middle event := by
  rw [outputs_append output run]
  simp [outputs, step]

end Machine

namespace Program

variable {Shared : Type u} {Thread : Type v} {Choice : Type w} {Output : Type x}

/-- What a step of a thread puts out, read off the shared state that it acts on,
the thread, and what becomes of the thread. -/
def output (program : Program Shared Thread Choice) (label : Shared → Thread → Thread → List Output)
    (pool : Pool Shared Thread) : PoolEvent Thread Choice → List Output
  | .spawn _ => []
  | .advance self choice =>
      ((pool.threads[self]?).bind fun thread =>
        (program.step self pool.shared thread choice).map fun taken =>
          label pool.shared thread taken.2).getD []

variable {program : Program Shared Thread Choice} {label : Shared → Thread → Thread → List Output}

@[simp] theorem output_spawn (pool : Pool Shared Thread) (thread : Thread) :
    program.output label pool (.spawn thread) = [] := rfl

theorem output_advance {pool : Pool Shared Thread} {self : Nat} {choice : Choice}
    {thread next : Thread} {moved : Shared} (present : pool.threads[self]? = some thread)
    (taken : program.step self pool.shared thread choice = some (moved, next)) :
    program.output label pool (.advance self choice) = label pool.shared thread next := by
  simp [output, present, taken]

end Program

end Rdpulse.Foundation
