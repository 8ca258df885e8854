import Mathlib.Data.List.Basic
import Rdpulse.Foundation.Execution

namespace Rdpulse.Foundation

/-! Threads over shared memory. A step of the pool is one atomic action of one
thread; the scheduler is the event. The rule at the end is the method of Owicki
and Gries: assertions attached to threads survive their own steps and the steps
of every other thread. -/

/-- The code all threads run. `entry` says in which local states a thread may
be started; `step self` is the next atomic action of thread number `self`, with
`choice` deciding what the code leaves open. -/
structure Program (Shared : Type u) (Thread : Type v) (Choice : Type w) where
  entry : Thread → Bool
  step : Nat → Shared → Thread → Choice → Option (Shared × Thread)

structure Pool (Shared : Type u) (Thread : Type v) where
  shared : Shared
  threads : List Thread

inductive PoolEvent (Thread : Type v) (Choice : Type w)
  | spawn (thread : Thread)
  | advance (self : Nat) (choice : Choice)

variable {Shared : Type u} {Thread : Type v} {Choice : Type w}

namespace Pool

def update (pool : Pool Shared Thread) (self : Nat) (shared : Shared)
    (next : Thread) : Pool Shared Thread where
  shared := shared
  threads := pool.threads.set self next

def start (pool : Pool Shared Thread) (thread : Thread) : Pool Shared Thread where
  shared := pool.shared
  threads := pool.threads ++ [thread]

@[simp] theorem update_shared (pool : Pool Shared Thread) (self : Nat)
    (shared : Shared) (next : Thread) :
    (pool.update self shared next).shared = shared := rfl

@[simp] theorem start_shared (pool : Pool Shared Thread) (thread : Thread) :
    (pool.start thread).shared = pool.shared := rfl

@[simp] theorem update_length (pool : Pool Shared Thread) (self : Nat)
    (shared : Shared) (next : Thread) :
    (pool.update self shared next).threads.length = pool.threads.length := by
  simp [update]

theorem update_self {pool : Pool Shared Thread} {self : Nat} {thread : Thread}
    (present : pool.threads[self]? = some thread) (shared : Shared) (next : Thread) :
    (pool.update self shared next).threads[self]? = some next := by
  have bound := (List.getElem?_eq_some_iff.mp present).1
  simp [update, bound]

theorem update_other (pool : Pool Shared Thread) {self other : Nat}
    (different : other ≠ self) (shared : Shared) (next : Thread) :
    (pool.update self shared next).threads[other]? = pool.threads[other]? := by
  simp [update, List.getElem?_set_ne (Ne.symm different)]

theorem start_new (pool : Pool Shared Thread) (thread : Thread) :
    (pool.start thread).threads[pool.threads.length]? = some thread := by
  simp [start]

theorem start_old {pool : Pool Shared Thread} {self : Nat} {thread : Thread}
    (present : pool.threads[self]? = some thread) (added : Thread) :
    (pool.start added).threads[self]? = some thread := by
  have bound := (List.getElem?_eq_some_iff.mp present).1
  simp only [start]
  rw [List.getElem?_append_left bound]
  exact present

theorem start_cases {pool : Pool Shared Thread} {added thread : Thread} {self : Nat}
    (present : (pool.start added).threads[self]? = some thread) :
    pool.threads[self]? = some thread ∨
      self = pool.threads.length ∧ thread = added := by
  simp only [start] at present
  rcases Nat.lt_trichotomy self pool.threads.length with before | at_end | after
  · rw [List.getElem?_append_left before] at present
    exact .inl present
  · subst at_end
    rw [List.getElem?_append_right (Nat.le_refl _)] at present
    simp only [Nat.sub_self, List.getElem?_cons_zero, Option.some.injEq] at present
    exact .inr ⟨rfl, present.symm⟩
  · rw [List.getElem?_eq_none (by simp; omega)] at present
    cases present

theorem mem_of_getElem? {pool : Pool Shared Thread} {self : Nat} {thread : Thread}
    (present : pool.threads[self]? = some thread) : thread ∈ pool.threads :=
  List.mem_of_getElem? present

end Pool

namespace Program

def machine (program : Program Shared Thread Choice) :
    Machine (Pool Shared Thread) (PoolEvent Thread Choice) where
  step pool
    | .spawn thread =>
        if program.entry thread then some (pool.start thread) else none
    | .advance self choice =>
        match pool.threads[self]? with
        | none => none
        | some thread =>
            match program.step self pool.shared thread choice with
            | none => none
            | some (shared, next) => some (pool.update self shared next)

variable {program : Program Shared Thread Choice}

theorem machine_advance {pool : Pool Shared Thread} {self : Nat} {choice : Choice}
    {thread next : Thread} {shared : Shared} (present : pool.threads[self]? = some thread)
    (taken : program.step self pool.shared thread choice = some (shared, next)) :
    program.machine.step pool (.advance self choice) =
      some (pool.update self shared next) := by
  simp only [machine, present, taken]

/-- Everything a step of the pool can be. -/
theorem step_cases {pool next : Pool Shared Thread} {event : PoolEvent Thread Choice}
    (step : program.machine.step pool event = some next) :
    (∃ thread, event = .spawn thread ∧ program.entry thread = true ∧
      next = pool.start thread) ∨
    (∃ self choice thread shared moved, event = .advance self choice ∧
      pool.threads[self]? = some thread ∧
      program.step self pool.shared thread choice = some (shared, moved) ∧
      next = pool.update self shared moved) := by
  cases event with
  | spawn thread =>
      simp only [machine] at step
      split at step
      · rename_i enters
        cases step
        exact .inl ⟨thread, rfl, enters, rfl⟩
      · cases step
  | advance self choice =>
      simp only [machine] at step
      split at step
      · cases step
      · rename_i thread present
        split at step
        · cases step
        · rename_i shared moved taken
          cases step
          exact .inr ⟨self, choice, thread, shared, moved, rfl, present, taken, rfl⟩

/-- The steps of one thread with nothing in between. -/
def alone (program : Program Shared Thread Choice) (self : Nat) :
    Shared → Thread → List Choice → Option (Shared × Thread)
  | shared, thread, [] => some (shared, thread)
  | shared, thread, choice :: rest =>
      match program.step self shared thread choice with
      | none => none
      | some (moved, next) => program.alone self moved next rest

variable {allowed : Pool Shared Thread → PoolEvent Thread Choice → Prop}

/-- The steps of one thread make a run, if each is allowed to threads of the kind that
this one stays of. -/
theorem run_alone_of (kind : Thread → Prop)
    (kept : ∀ self shared thread choice moved next, kind thread →
      program.step self shared thread choice = some (moved, next) → kind next)
    {pool : Pool Shared Thread} {self : Nat} {thread next : Thread} {moved : Shared}
    {choices : List Choice} (present : pool.threads[self]? = some thread) (of : kind thread)
    (taken : program.alone self pool.shared thread choices = some (moved, next))
    (permitted : ∀ (middle : Pool Shared Thread) (thread : Thread), ∀ choice ∈ choices,
      middle.threads[self]? = some thread → kind thread →
        allowed middle (.advance self choice)) :
    program.machine.Run allowed pool (choices.map (.advance self))
      (pool.update self moved next) := by
  induction choices generalizing pool thread with
  | nil =>
      cases taken
      have unchanged : pool.update self pool.shared next = pool := by
        have same : pool.threads.set self next = pool.threads := by
          rw [← (List.getElem?_eq_some_iff.mp present).2]
          exact List.set_getElem_self _
        simp [Pool.update, same]
      rw [unchanged]
      exact .nil
  | cons choice rest induction =>
      simp only [alone] at taken
      split at taken
      · cases taken
      · rename_i middle between step
        have first := Machine.Run.single (permitted pool thread choice List.mem_cons_self present of)
          (machine_advance present step)
        have moves : (pool.update self middle between).threads[self]? = some between :=
          Pool.update_self present middle between
        have later := induction moves (kept _ _ _ _ _ _ of step) taken
          (fun middle thread choice member =>
            permitted middle thread choice (List.mem_cons_of_mem _ member))
        have twice : (pool.update self middle between).update self moved next =
            pool.update self moved next := by simp [Pool.update]
        rw [twice] at later
        exact first.append later

theorem run_alone {pool : Pool Shared Thread} {self : Nat} {thread next : Thread}
    {moved : Shared} {choices : List Choice} (present : pool.threads[self]? = some thread)
    (taken : program.alone self pool.shared thread choices = some (moved, next))
    (permitted : ∀ middle, ∀ choice ∈ choices, allowed middle (.advance self choice)) :
    program.machine.Run allowed pool (choices.map (.advance self))
      (pool.update self moved next) :=
  run_alone_of (fun _ => True) (fun _ _ _ _ _ _ _ _ => trivial) present trivial taken
    fun middle _ choice member _ _ => permitted middle choice member

theorem run_call {pool : Pool Shared Thread} {thread next : Thread} {moved : Shared}
    {choices : List Choice}
    (taken : program.alone pool.threads.length pool.shared thread choices =
      some (moved, next))
    (enters : program.entry thread = true) (starts : allowed pool (.spawn thread))
    (permitted : ∀ middle, ∀ choice ∈ choices,
      allowed middle (.advance pool.threads.length choice)) :
    program.machine.Run allowed pool
      (.spawn thread :: choices.map (.advance pool.threads.length))
      ((pool.start thread).update pool.threads.length moved next) := by
  have spawned : program.machine.step pool (.spawn thread) = some (pool.start thread) := by
    simp [machine, enters]
  exact (Machine.Run.single starts spawned).append
    (run_alone (pool.start_new thread) taken permitted)

/-- A proof outline: `global` speaks of the pool, `assertion self pool thread`
of the thread numbered `self` at its current point. -/
structure Outline (Shared : Type u) (Thread : Type v) where
  global : Pool Shared Thread → Prop
  assertion : Nat → Pool Shared Thread → Thread → Prop

structure Outline.Holds (outline : Outline Shared Thread)
    (pool : Pool Shared Thread) : Prop where
  global : outline.global pool
  thread : ∀ self thread, pool.threads[self]? = some thread →
    outline.assertion self pool thread

/-- The four obligations of a proof outline: a started thread meets its
assertion and disturbs no other, and a step re-establishes the thread's own
assertion and disturbs no other. -/
structure Outline.Valid (outline : Outline Shared Thread)
    (program : Program Shared Thread Choice)
    (allowed : Pool Shared Thread → PoolEvent Thread Choice → Prop) : Prop where
  started : ∀ pool thread, outline.Holds pool → program.entry thread = true →
    allowed pool (.spawn thread) →
    outline.global (pool.start thread) ∧
      outline.assertion pool.threads.length (pool.start thread) thread
  undisturbedByStart : ∀ pool thread other bystander, outline.Holds pool →
    program.entry thread = true → allowed pool (.spawn thread) →
    pool.threads[other]? = some bystander →
    outline.assertion other (pool.start thread) bystander
  sequential : ∀ pool self thread choice shared next, outline.Holds pool →
    pool.threads[self]? = some thread → allowed pool (.advance self choice) →
    program.step self pool.shared thread choice = some (shared, next) →
    outline.global (pool.update self shared next) ∧
      outline.assertion self (pool.update self shared next) next
  interferenceFree : ∀ pool self thread choice shared next other bystander,
    outline.Holds pool → pool.threads[self]? = some thread →
    allowed pool (.advance self choice) →
    program.step self pool.shared thread choice = some (shared, next) →
    other ≠ self → pool.threads[other]? = some bystander →
    outline.assertion other (pool.update self shared next) bystander

/-- One step keeps a valid outline. -/
theorem Outline.Valid.step {outline : Outline Shared Thread}
    {allowed : Pool Shared Thread → PoolEvent Thread Choice → Prop}
    (valid : outline.Valid program allowed) {pool next : Pool Shared Thread}
    {event : PoolEvent Thread Choice} (holds : outline.Holds pool)
    (permitted : allowed pool event)
    (step : program.machine.step pool event = some next) : outline.Holds next := by
  rcases step_cases step with
    ⟨thread, rfl, enters, rfl⟩ | ⟨self, choice, thread, shared, moved, rfl, present, taken, rfl⟩
  · have added := valid.started pool thread holds enters permitted
    refine ⟨added.1, fun other bystander found => ?_⟩
    rcases Pool.start_cases found with old | ⟨rfl, rfl⟩
    · exact valid.undisturbedByStart pool thread other bystander holds enters permitted old
    · exact added.2
  · have own := valid.sequential pool self thread choice shared moved holds present
      permitted taken
    refine ⟨own.1, fun other bystander found => ?_⟩
    by_cases same : other = self
    · subst same
      rw [Pool.update_self present] at found
      cases found
      exact own.2
    · rw [Pool.update_other pool same] at found
      exact valid.interferenceFree pool self thread choice shared moved other bystander
        holds present permitted taken same found

/-- A valid outline describes every pool that a run reaches. -/
theorem Outline.Valid.run {outline : Outline Shared Thread}
    {allowed : Pool Shared Thread → PoolEvent Thread Choice → Prop}
    (valid : outline.Valid program allowed) {start finish : Pool Shared Thread}
    {events : List (PoolEvent Thread Choice)} (initially : outline.Holds start)
    (run : program.machine.Run allowed start events finish) : outline.Holds finish :=
  run.preserves initially fun _ _ _ holds permitted step =>
    valid.step holds permitted step

end Program

end Rdpulse.Foundation
