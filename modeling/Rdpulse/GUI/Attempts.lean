import Rdpulse.GUI.CleanUp

namespace Rdpulse.GUI

open Foundation

/-! Attempts one after another. As long as each attempt starts after the one before it has
come to its end, the fields of `App` hold nothing of any other. -/

def Thread.established : Thread → Bool
  | .connect .watching | .connect .cleanUp => true
  | _ => false

/-- The call of `onTargetStart` or its goroutine has not come to its end. -/
def Thread.unfinished : Thread → Bool
  | .targetStart .launch => true
  | .targetStart (.launched (.returned _) _ run) => run ≠ .returned
  | .targetStart (.launched _ _ _) => true
  | _ => false

/-- `onControllerConnect` and `onTargetStart` pass their check of the flag while the
failure branch or the clean-up of no earlier attempt is still to come. -/
def StartsAlone (pool : AppPool) : AppEvent → Prop
  | .spawn _ => True
  | .advance self choice =>
      (pool.threads[self]? = some (.connect .enter) → pool.shared.controller.running = false →
        choice ≠ .configError → ∀ thread ∈ pool.threads, thread.connects = false) ∧
      (pool.threads[self]? = some (.targetStart .enter) → pool.shared.target.running = false →
        choice ≠ .configError → ∀ thread ∈ pool.threads, thread.unfinished = false)

instance (pool : AppPool) (event : AppEvent) : Decidable (StartsAlone pool event) := by
  rcases event with _ | ⟨self, choice⟩ <;> unfold StartsAlone <;> infer_instance

/-! ## One step -/

def Kept (inside : Thread → Bool) (self : Nat) (next : Thread) (was now : Option Nat) : Prop :=
  ∀ attempt, now = some attempt →
    attempt = self ∧ inside next = true ∨ attempt ≠ self ∧ was = some attempt

section Steps

variable {inside : Thread → Bool} {self : Nat} {thread next : Thread} {was : Option Nat}
  {app moved : App} {choice : Choice}

theorem Kept.none : Kept inside self next was none := fun _ stored => by cases stored

theorem Kept.own (within : inside next = true) : Kept inside self next was (some self) := by
  intro attempt stored
  cases stored
  exact .inl ⟨rfl, within⟩

theorem Kept.same (within : was = some self → inside next = true) :
    Kept inside self next was was := by
  intro attempt stored
  by_cases own : attempt = self
  · subst own
    exact .inl ⟨rfl, within stored⟩
  · exact .inr ⟨own, stored⟩

structure FieldsKept (mover : Nat) (app moved : App) (next : Thread) : Prop where
  cancel : Kept Thread.connects mover next app.controller.cancel moved.controller.cancel
  proxy : Kept Thread.established mover next app.controllerProxy moved.controllerProxy
  pathMgr : Kept Thread.established mover next app.controllerPathMgr moved.controllerPathMgr
  targetCancel : Kept Thread.serves mover next app.target.cancel moved.target.cancel

/-- A thread's own attempt is stored only while it is in progress or live. -/
structure OwnStored (attempt : Nat) (app : App) (thread : Thread) : Prop where
  cancel : app.controller.cancel = some attempt → thread.connects = true
  proxy : app.controllerProxy = some attempt → thread.established = true
  pathMgr : app.controllerPathMgr = some attempt → thread.established = true
  targetCancel : app.target.cancel = some attempt → thread.serves = true

theorem OwnStored.still (own : OwnStored self app thread)
    (controller : moved.controller = app.controller)
    (proxy : moved.controllerProxy = app.controllerProxy)
    (pathMgr : moved.controllerPathMgr = app.controllerPathMgr)
    (target : moved.target = app.target) (connects : thread.connects = true → next.connects = true)
    (established : thread.established = true → next.established = true)
    (serves : thread.serves = true → next.serves = true) : FieldsKept self app moved next where
  cancel := by
    rw [controller]
    exact .same fun stored => connects (own.cancel stored)
  proxy := by
    rw [proxy]
    exact .same fun stored => established (own.proxy stored)
  pathMgr := by
    rw [pathMgr]
    exact .same fun stored => established (own.pathMgr stored)
  targetCancel := by
    rw [target]
    exact .same fun stored => serves (own.targetCancel stored)

theorem stepConnect_kept {point after : ConnectPoint}
    (taken : stepConnect self app choice point = some (moved, after))
    (own : OwnStored self app (.connect point)) : FieldsKept self app moved (.connect after) := by
  have target {now : Thread} : Kept Thread.serves self now app.target.cancel app.target.cancel :=
    .same fun stored => (by cases own.targetCancel stored)
  cases point with
  | enter =>
      simp only [stepConnect] at taken
      split at taken
      · cases taken
        exact own.still rfl rfl rfl rfl id id id
      · split at taken
        · cases taken
          exact own.still rfl rfl rfl rfl id id id
        · cases taken
          exact ⟨.own rfl, .same fun stored => (by cases own.proxy stored),
            .same fun stored => (by cases own.pathMgr stored), target⟩
  | connecting =>
      simp only [stepConnect] at taken
      split at taken <;> cases taken <;> exact own.still rfl rfl rfl rfl id id id
  | failed =>
      cases taken
      exact ⟨.none, .same fun stored => (by cases own.proxy stored),
        .same fun stored => (by cases own.pathMgr stored), target⟩
  | established =>
      cases taken
      exact ⟨.same fun _ => rfl, .own rfl, .own rfl, target⟩
  | watching =>
      simp only [stepConnect] at taken
      split at taken <;> cases taken
      exact own.still rfl rfl rfl rfl id id id
  | cleanUp =>
      cases taken
      exact ⟨.none, .none, .none, target⟩
  | returned => cases taken

theorem stepDisconnect_kept {point after : DisconnectPoint}
    (taken : stepDisconnect app point = some (moved, after))
    (own : OwnStored self app (.disconnect point)) :
    FieldsKept self app moved (.disconnect after) := by
  cases point with
  | take =>
      cases taken
      exact ⟨.none, .none, .none, .same fun stored => (by cases own.targetCancel stored)⟩
  | returned => cases taken
  | _ =>
      cases taken
      exact own.still rfl rfl rfl rfl id id id

theorem stepStop_kept {wanted : List Nat} {point after : StopPoint}
    (taken : stepStop app wanted point = some (moved, after)) (own : OwnStored self app thread)
    (connects : thread.connects = true → next.connects = true)
    (established : thread.established = true → next.established = true)
    (serves : thread.serves = true → next.serves = true) : FieldsKept self app moved next := by
  cases point with
  | take =>
      cases taken
      exact ⟨.same fun stored => connects (own.cancel stored),
        .same fun stored => established (own.proxy stored),
        .same fun stored => established (own.pathMgr stored), .none⟩
  | cancel =>
      cases taken
      exact own.still rfl rfl rfl rfl connects established serves
  | returned => cases taken

theorem stepCall_kept {readyCh left : Option Bool} {call after : CallPoint} {run : RunPoint}
    (called : stepCall self app choice readyCh call = some (moved, after, left))
    (own : OwnStored self app (.targetStart (.launched call readyCh run))) :
    FieldsKept self app moved (.targetStart (.launched after left run)) := by
  cases call with
  | select =>
      simp only [stepCall] at called
      repeat' split at called
      all_goals cases called
      all_goals exact own.still rfl rfl rfl rfl id id id
  | stop inner =>
      simp only [stepCall, Option.map_eq_some_iff] at called
      rcases called with ⟨⟨stopped, last⟩, taken, equal⟩
      cases equal
      exact stepStop_kept taken own id id id
  | returned => cases called

theorem stepStart_kept {point after : StartPoint}
    (taken : stepStart self app choice point = some (moved, after))
    (own : OwnStored self app (.targetStart point)) :
    FieldsKept self app moved (.targetStart after) := by
  cases point with
  | enter =>
      simp only [stepStart] at taken
      split at taken
      · cases taken
        exact own.still rfl rfl rfl rfl id id id
      · split at taken
        · cases taken
          exact own.still rfl rfl rfl rfl id id id
        · cases taken
          exact ⟨.same fun stored => (by cases own.cancel stored),
            .same fun stored => (by cases own.proxy stored),
            .same fun stored => (by cases own.pathMgr stored), .own rfl⟩
  | launch =>
      cases taken
      exact own.still rfl rfl rfl rfl id id fun _ => rfl
  | launched call readyCh run =>
      have byCall (called : (stepCall self app choice readyCh call).map (fun left =>
          (left.1, StartPoint.launched left.2.1 left.2.2 run)) = some (moved, after)) :
          FieldsKept self app moved (.targetStart after) := by
        rw [Option.map_eq_some_iff] at called
        rcases called with ⟨⟨stepped, next, ready⟩, called, equal⟩
        cases equal
        exact stepCall_kept called own
      cases choice with
      | goroutine =>
          simp only [stepStart, Option.map_eq_some_iff] at taken
          rcases taken with ⟨⟨stepped, left⟩, ran, equal⟩
          cases equal
          cases run with
          | running reported =>
              simp only [stepRun] at ran
              split at ran <;> cases ran
              exact own.still rfl rfl rfl rfl id id fun _ => rfl
          | ended =>
              cases ran
              exact ⟨.same fun stored => (by cases own.cancel stored),
                .same fun stored => (by cases own.proxy stored),
                .same fun stored => (by cases own.pathMgr stored), .none⟩
          | returned => cases ran
      | report failed =>
          simp only [stepStart] at taken
          split at taken <;> cases taken
          exact own.still rfl rfl rfl rfl id id fun _ => rfl
      | _ => exact byCall taken
  | returned => cases taken

theorem step_kept (taken : step self app thread choice = some (moved, next))
    (own : OwnStored self app thread) : FieldsKept self app moved next := by
  cases thread with
  | connect point =>
      simp only [step, Option.map_eq_some_iff] at taken
      rcases taken with ⟨⟨stepped, after⟩, connects, equal⟩
      cases equal
      exact stepConnect_kept connects own
  | disconnect point =>
      simp only [step, Option.map_eq_some_iff] at taken
      rcases taken with ⟨⟨stepped, after⟩, disconnects, equal⟩
      cases equal
      exact stepDisconnect_kept disconnects own
  | targetStart point =>
      simp only [step, Option.map_eq_some_iff] at taken
      rcases taken with ⟨⟨stepped, after⟩, starts, equal⟩
      cases equal
      exact stepStart_kept starts own
  | targetStop point =>
      simp only [step, Option.map_eq_some_iff] at taken
      rcases taken with ⟨⟨stepped, after⟩, stopped, equal⟩
      cases equal
      exact stepStop_kept stopped own id id id

theorem step_begins (taken : step self app thread choice = some (moved, next)) :
    (next.connects = true → thread.connects = true ∨ thread = .connect .enter ∧
      app.controller.running = false ∧ choice ≠ .configError) ∧
    (next.unfinished = true → thread.unfinished = true ∨ thread = .targetStart .enter ∧
      app.target.running = false ∧ choice ≠ .configError) := by
  cases thread with
  | connect point =>
      simp only [step, Option.map_eq_some_iff] at taken
      rcases taken with ⟨⟨stepped, after⟩, connecting, equal⟩
      cases equal
      refine ⟨fun inside => ?_, fun inside => by cases inside⟩
      cases point with
      | enter =>
          simp only [stepConnect] at connecting
          split at connecting
          · cases connecting
            cases inside
          · rename_i idle
            split at connecting
            · cases connecting
              cases inside
            · rename_i configured
              exact .inr ⟨rfl, by simpa using idle, configured⟩
      | returned => cases connecting
      | _ => exact .inl rfl
  | disconnect point =>
      simp only [step, Option.map_eq_some_iff] at taken
      rcases taken with ⟨⟨stepped, after⟩, disconnects, equal⟩
      cases equal
      exact ⟨fun inside => (by cases inside), fun inside => by cases inside⟩
  | targetStart point =>
      simp only [step, Option.map_eq_some_iff] at taken
      rcases taken with ⟨⟨stepped, after⟩, starts, equal⟩
      cases equal
      refine ⟨fun inside => (by cases inside), fun inside => ?_⟩
      cases point with
      | enter =>
          simp only [stepStart] at starts
          split at starts
          · cases starts
            cases inside
          · rename_i idle
            split at starts
            · cases starts
              cases inside
            · rename_i configured
              exact .inr ⟨rfl, by simpa using idle, configured⟩
      | launch => exact .inl rfl
      | launched call readyCh run =>
          cases call with
          | select | stop => exact .inl rfl
          | returned err =>
              left
              cases run with
              | returned =>
                  cases choice with
                  | goroutine => simp [stepStart, stepRun] at starts
                  | report => simp [stepStart] at starts
                  | _ => simp [stepStart, stepCall] at starts
              | running | ended => rfl
      | returned => cases starts
  | targetStop point =>
      simp only [step, Option.map_eq_some_iff] at taken
      rcases taken with ⟨⟨stepped, after⟩, stopped, equal⟩
      cases equal
      exact ⟨fun inside => (by cases inside), fun inside => by cases inside⟩

end Steps

/-! ## Runs -/

def Single (inside : Thread → Bool) (pool : AppPool) : Prop :=
  ∀ (first second : Nat) (one other : Thread), pool.threads[first]? = some one →
    pool.threads[second]? = some other → inside one = true → inside other = true → first = second

def StoredBy (inside : Thread → Bool) (stored : Option Nat) (pool : AppPool) : Prop :=
  ∀ attempt, stored = some attempt →
    ∃ thread, pool.threads[attempt]? = some thread ∧ inside thread = true

/-- There is one attempt at a time, and it alone is stored. -/
structure Alone (pool : AppPool) : Prop where
  connects : Single Thread.connects pool
  unfinished : Single Thread.unfinished pool
  cancel : StoredBy Thread.connects pool.shared.controller.cancel pool
  proxy : StoredBy Thread.established pool.shared.controllerProxy pool
  pathMgr : StoredBy Thread.established pool.shared.controllerPathMgr pool
  targetCancel : StoredBy Thread.serves pool.shared.target.cancel pool

section Runs

variable {inside : Thread → Bool} {pool : AppPool} {self : Nat} {thread next : Thread}
  {moved : App} {choice : Choice} {was now stored : Option Nat}

theorem Single.start (single : Single inside pool) (outside : inside thread = false) :
    Single inside (pool.start thread) := by
  intro first second one other here there within also
  rcases Pool.start_cases here with here | ⟨_, rfl⟩
  · rcases Pool.start_cases there with there | ⟨_, rfl⟩
    · exact single first second one other here there within also
    · rw [outside] at also
      cases also
  · rw [outside] at within
    cases within

theorem Single.update (single : Single inside pool) (present : pool.threads[self]? = some thread)
    (begins : inside next = true →
      inside thread = true ∨ ∀ one ∈ pool.threads, inside one = false) :
    Single inside (pool.update self moved next) := by
  -- Who is inside after the step: an old thread, or the one that has moved.
  have before : ∀ first one, (pool.update self moved next).threads[first]? = some one →
      inside one = true →
      first = self ∧ inside next = true ∨ first ≠ self ∧ pool.threads[first]? = some one := by
    intro first one here within
    by_cases same : first = self
    · subst same
      rw [Pool.update_self present, Option.some.injEq] at here
      subst here
      exact .inl ⟨rfl, within⟩
    · rw [Pool.update_other pool same] at here
      exact .inr ⟨same, here⟩
  have apart : inside next = true → ∀ second other, second ≠ self →
      pool.threads[second]? = some other → inside other = true → False := by
    intro within second other different there also
    rcases begins within with mine | nobody
    · exact different (single second self other thread there present also mine)
    · rw [nobody other (List.mem_of_getElem? there)] at also
      cases also
  intro first second one other here there within also
  rcases before first one here within with ⟨rfl, mine⟩ | ⟨different, old⟩
  · rcases before second other there also with ⟨rfl, _⟩ | ⟨elsewhere, old⟩
    · rfl
    · exact (apart mine second other elsewhere old also).elim
  · rcases before second other there also with ⟨rfl, mine⟩ | ⟨_, older⟩
    · exact (apart mine first one different old within).elim
    · exact single first second one other old older within also

theorem StoredBy.start (owner : StoredBy inside stored pool) :
    StoredBy inside stored (pool.start thread) := by
  intro attempt held
  rcases owner attempt held with ⟨one, present, within⟩
  exact ⟨one, Pool.start_old present thread, within⟩

theorem StoredBy.update (owner : StoredBy inside was pool)
    (present : pool.threads[self]? = some thread) (kept : Kept inside self next was now) :
    StoredBy inside now (pool.update self moved next) := by
  intro attempt held
  rcases kept attempt held with ⟨rfl, within⟩ | ⟨different, before⟩
  · exact ⟨next, Pool.update_self present _ _, within⟩
  · rcases owner attempt before with ⟨one, there, within⟩
    exact ⟨one, (Pool.update_other pool different _ _).trans there, within⟩

theorem StoredBy.own (owner : StoredBy inside stored pool)
    (present : pool.threads[self]? = some thread) (held : stored = some self) :
    inside thread = true := by
  rcases owner self held with ⟨one, there, within⟩
  rw [present, Option.some.injEq] at there
  rw [there]
  exact within

theorem StoredBy.weaken {outer : Thread → Bool} (owner : StoredBy inside stored pool)
    (implies : ∀ thread, inside thread = true → outer thread = true) :
    StoredBy outer stored pool := by
  intro attempt held
  rcases owner attempt held with ⟨one, there, within⟩
  exact ⟨one, there, implies one within⟩

theorem StoredBy.ownOrNone (owner : StoredBy inside stored pool) (single : Single inside pool)
    (present : pool.threads[self]? = some thread) (within : inside thread = true) :
    OwnOrNone self stored := by
  cases held : stored with
  | none => exact .inl rfl
  | some attempt =>
      rcases owner attempt held with ⟨one, there, also⟩
      rw [single attempt self one thread there present also within]
      exact .inr rfl

theorem connects_of_established (thread : Thread) (established : thread.established = true) :
    thread.connects = true := by
  cases thread with
  | connect point => cases point <;> first | rfl | cases established
  | _ => cases established

theorem unfinished_of_serves (thread : Thread) (serves : thread.serves = true) :
    thread.unfinished = true := by
  cases thread with
  | targetStart point =>
      cases point with
      | launch => rfl
      | launched call readyCh run => cases call <;> first | rfl | exact serves
      | _ => cases serves
  | _ => cases serves

theorem Alone.start (alone : Alone pool) (enters : sessions.entry thread = true) :
    Alone (pool.start thread) := by
  have outside : thread.connects = false ∧ thread.unfinished = false := by
    cases thread with
    | connect point | disconnect point | targetStart point | targetStop point =>
        simp only [sessions, entry, decide_eq_true_eq] at enters
        subst enters
        exact ⟨rfl, rfl⟩
  exact ⟨alone.connects.start outside.1, alone.unfinished.start outside.2, alone.cancel.start,
    alone.proxy.start, alone.pathMgr.start, alone.targetCancel.start⟩

theorem Alone.advance (alone : Alone pool) (present : pool.threads[self]? = some thread)
    (starts : StartsAlone pool (.advance self choice))
    (taken : step self pool.shared thread choice = some (moved, next)) :
    Alone (pool.update self moved next) := by
  have own : OwnStored self pool.shared thread :=
    ⟨alone.cancel.own present, alone.proxy.own present, alone.pathMgr.own present,
      alone.targetCancel.own present⟩
  have kept := step_kept taken own
  rcases step_begins taken with ⟨connects, unfinished⟩
  refine ⟨alone.connects.update present fun within => ?_,
    alone.unfinished.update present fun within => ?_, alone.cancel.update present kept.cancel,
    alone.proxy.update present kept.proxy, alone.pathMgr.update present kept.pathMgr,
    alone.targetCancel.update present kept.targetCancel⟩
  · refine (connects within).imp id fun enters => ?_
    rcases enters with ⟨rfl, idle, configured⟩
    exact starts.1 present idle configured
  · refine (unfinished within).imp id fun enters => ?_
    rcases enters with ⟨rfl, idle, configured⟩
    exact starts.2 present idle configured

/-- The clean-up of the one attempt finds its own, or nothing. -/
theorem Alone.findsOwn (alone : Alone pool) (event : AppEvent) : FindsOwn pool event := by
  cases event with
  | spawn => trivial
  | advance self choice =>
      intro thread present
      have controller (within : thread.connects = true) :
          OwnOrNone self pool.shared.controller.cancel ∧
            OwnOrNone self pool.shared.controllerProxy ∧
            OwnOrNone self pool.shared.controllerPathMgr :=
        ⟨alone.cancel.ownOrNone alone.connects present within,
          (alone.proxy.weaken connects_of_established).ownOrNone alone.connects present within,
          (alone.pathMgr.weaken connects_of_established).ownOrNone alone.connects present within⟩
      have target (within : thread.unfinished = true) : OwnOrNone self pool.shared.target.cancel :=
        (alone.targetCancel.weaken unfinished_of_serves).ownOrNone alone.unfinished present within
      cases thread with
      | connect point =>
          cases point with
          | failed => exact (controller rfl).1
          | cleanUp => exact controller rfl
          | _ => trivial
      | targetStart point =>
          cases point with
          | launched call readyCh run =>
              refine ⟨fun _ ended => target ?_, fun _ takes => target ?_⟩
              · subst ended
                cases call <;> rfl
              · subst takes
                rfl
          | _ => trivial
      | _ => trivial

end Runs

/-- In every run in which an attempt starts only after the last one has come to its end: a
session's failure or end spares every other session, and the running flags are set as long
as an attempt that was not disconnected is in progress or live. -/
theorem clean_up_spares_others {events : List AppEvent} {pool : AppPool}
    (run : sessions.machine.Run StartsAlone initialPool events pool) :
    sessions.machine.Run SparesOthers initialPool events pool := by
  have alone : ∀ past middle, sessions.machine.Run StartsAlone initialPool past middle →
      Alone middle := by
    intro past middle reached
    refine reached.preserves ?_ fun before event after alone starts taken => ?_
    · refine ⟨fun _ _ _ _ here => ?_, fun _ _ _ _ here => ?_, fun _ held => ?_, fun _ held => ?_,
        fun _ held => ?_, fun _ held => ?_⟩
      · simp [initialPool] at here
      · simp [initialPool] at here
      all_goals cases held
    · rcases Program.step_cases taken with
        ⟨thread, rfl, enters, rfl⟩ | ⟨self, choice, thread, moved, next, rfl, present, step, rfl⟩
      · exact alone.start enters
      · exact alone.advance present starts step
  have finds := (run.strengthen alone).weaken fun _ event permitted => permitted.2.findsOwn event
  have known := finds.strengthen fun _ _ past => sessionOutline_valid.run
    (⟨trivial, fun self thread present => by simp [initialPool] at present⟩) past
  exact known.weaken fun _ _ permitted => spares_of_findsOwn permitted.2 permitted.1

def inTurn : List AppEvent :=
  [.spawn (.connect .enter), .advance 0 .proceed, .advance 0 .proceed, .advance 0 .proceed,
    .spawn (.disconnect .take), .advance 1 .proceed, .advance 1 .proceed, .advance 1 .proceed,
    .advance 1 .proceed, .advance 0 .proceed, .advance 0 .proceed,
    .spawn (.targetStart .enter), .advance 2 .proceed, .advance 2 .proceed,
    .advance 2 (.report false), .advance 2 .proceed,
    .spawn (.targetStop .take), .advance 3 .proceed, .advance 3 .proceed,
    .advance 2 .goroutine, .advance 2 .goroutine,
    .spawn (.connect .enter), .advance 4 .proceed, .advance 4 .proceed,
    .spawn (.targetStart .enter), .advance 5 .proceed, .advance 5 .proceed]

theorem clean_up_spares_others_in_turn :
    ∃ pool, sessions.machine.Run SparesOthers initialPool inTurn pool ∧
      pool.shared.controller.cancel = some 4 ∧ pool.shared.target.cancel = some 5 := by
  rcases sessions.machine.exists_run StartsAlone
    (fun pool => pool.shared.controller.cancel = some 4 ∧ pool.shared.target.cancel = some 5)
    initialPool inTurn (by decide +kernel) with ⟨pool, run, connection, target⟩
  exact ⟨pool, clean_up_spares_others run, connection, target⟩

/-! ## Two other runs -/

/-- An established connection is disconnected, and a second one is on its way when the
goroutine of the first takes the lock. -/
def reconnect : List AppEvent :=
  [.spawn (.connect .enter), .advance 0 .proceed, .advance 0 .proceed, .advance 0 .proceed,
    .spawn (.disconnect .take), .advance 1 .proceed, .advance 1 .proceed, .advance 1 .proceed,
    .advance 1 .proceed,
    .spawn (.connect .enter), .advance 2 .proceed, .advance 0 .proceed]

/-- A target is stopped and started again before the first `Run` has returned. -/
def restart : List AppEvent :=
  [.spawn (.targetStart .enter), .advance 0 .proceed, .advance 0 .proceed,
    .advance 0 (.report false), .advance 0 .proceed,
    .spawn (.targetStop .take), .advance 1 .proceed, .advance 1 .proceed,
    .spawn (.targetStart .enter), .advance 2 .proceed, .advance 2 .proceed, .advance 0 .goroutine]

/-- The clean-up of the first connection cancels the second one and resets its flag. The end
of the first target run forgets the cancel function of the second, which runs on. -/
theorem clean_up_ends_next_session :
    (∃ pool next, sessions.machine.Run Machine.Unrestricted initialPool reconnect pool ∧
      sessions.machine.step pool (.advance 0 .proceed) = some next ∧
      pool.threads[0]? = some (.connect .cleanUp) ∧
      pool.shared.controller.cancel = some 2 ∧ 2 ∉ pool.shared.canceled ∧
      next.threads[2]? = some (.connect .connecting) ∧ 2 ∈ next.shared.controller.wanted ∧
      next.shared.controller.cancel = none ∧ 2 ∈ next.shared.canceled ∧
      next.shared.controller.running = false ∧ ¬SparesOthers pool (.advance 0 .proceed)) ∧
    ∃ pool next, sessions.machine.Run Machine.Unrestricted initialPool restart pool ∧
      sessions.machine.step pool (.advance 0 .goroutine) = some next ∧
      pool.shared.target.cancel = some 2 ∧
      next.threads[2]? = some (.targetStart (.launched .select none (.running false))) ∧
      2 ∈ next.shared.target.wanted ∧ next.shared.target.cancel = none ∧
      2 ∉ next.shared.canceled ∧ next.shared.target.running = false ∧
      ¬SparesOthers pool (.advance 0 .goroutine) := by
  constructor
  · refine ⟨_, _, Machine.run_of_execute rfl (Machine.permits_unrestricted _ _), rfl, rfl, rfl,
      by decide, rfl, by decide, rfl, by decide, rfl, fun spares => ?_⟩
    have flagged := (spares _ rfl).1.controller 2 (.connect .connecting) rfl rfl (by decide)
    cases flagged
  · refine ⟨_, _, Machine.run_of_execute rfl (Machine.permits_unrestricted _ _), rfl, rfl, rfl,
      by decide, rfl, by decide, rfl, fun spares => ?_⟩
    have flagged := (spares _ rfl).1.target 2 _ rfl rfl (by decide)
    cases flagged

end Rdpulse.GUI
