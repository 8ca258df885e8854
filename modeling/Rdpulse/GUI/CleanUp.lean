import Rdpulse.GUI.Sessions

namespace Rdpulse.GUI

open Foundation

/-! What the clean-up of a session does to the others. The fields of `App` carry no mark of
the attempt that filled them, so a clean-up that comes late works on those of a later
attempt. It spares every other attempt where it finds its own or nothing. -/

/-! ## The claim -/

def Choice.ofCall : Choice → Bool
  | .goroutine | .report _ => false
  | _ => true

def CallPoint.isStop : CallPoint → Bool
  | .stop _ => true
  | _ => false

/-- The step belongs to the failure or the end of the thread's own attempt. -/
def Thread.ends (choice : Choice) : Thread → Bool
  | .connect point => point = .failed || point = .cleanUp
  | .targetStart (.launched call _ run) =>
      (choice = .goroutine && run = .ended) || (choice.ofCall && call.isStop)
  | _ => false

/-- What an attempt stored is still stored, and none of it was canceled or closed. -/
structure Spared (attempt : Nat) (app moved : App) : Prop where
  controllerCancel : app.controller.cancel = some attempt →
    moved.controller.cancel = some attempt
  controllerProxy : app.controllerProxy = some attempt → moved.controllerProxy = some attempt
  controllerPathMgr : app.controllerPathMgr = some attempt →
    moved.controllerPathMgr = some attempt
  targetCancel : app.target.cancel = some attempt → moved.target.cancel = some attempt
  canceled : attempt ∈ moved.canceled → attempt ∈ app.canceled
  proxiesClosed : attempt ∈ moved.proxiesClosed → attempt ∈ app.proxiesClosed
  pathMgrsClosed : attempt ∈ moved.pathMgrsClosed → attempt ∈ app.pathMgrsClosed

def Thread.connects : Thread → Bool
  | .connect point =>
      match point with
      | .enter | .returned _ => false
      | _ => true
  | _ => false

def Thread.serves : Thread → Bool
  | .targetStart point =>
      match point with
      | .launch => true
      | .launched _ _ run => run ≠ .returned
      | _ => false
  | _ => false

/-- The running flags are set as long as an attempt that was not disconnected is in
progress or live. -/
structure Flagged (pool : AppPool) : Prop where
  controller : ∀ (self : Nat) (thread : Thread), pool.threads[self]? = some thread →
    thread.connects = true → self ∈ pool.shared.controller.wanted →
      pool.shared.controller.running = true
  target : ∀ (self : Nat) (thread : Thread), pool.threads[self]? = some thread →
    thread.serves = true → self ∈ pool.shared.target.wanted →
      pool.shared.target.running = true

/-- A step does nothing to other attempts for the failure or end of one, and leaves the
flags set. -/
def SparesOthers (pool : AppPool) (event : AppEvent) : Prop :=
  ∀ next, sessions.machine.step pool event = some next →
    Flagged next ∧
      ∀ (self : Nat) (choice : Choice) (thread : Thread), event = .advance self choice →
        pool.threads[self]? = some thread → thread.ends choice = true →
          ∀ other, other ≠ self → Spared other pool.shared next.shared

/-! ## What a clean-up finds -/

def OwnOrNone (self : Nat) (stored : Option Nat) : Prop := stored = none ∨ stored = some self

instance (self : Nat) (stored : Option Nat) : Decidable (OwnOrNone self stored) :=
  inferInstanceAs (Decidable (_ ∨ _))

def OwnFields (self : Nat) (app : App) (choice : Choice) : Thread → Prop
  | .connect point =>
      match point with
      | .failed => OwnOrNone self app.controller.cancel
      | .cleanUp =>
          OwnOrNone self app.controller.cancel ∧ OwnOrNone self app.controllerProxy ∧
            OwnOrNone self app.controllerPathMgr
      | _ => True
  | .targetStart (.launched call _ run) =>
      (choice = .goroutine → run = .ended → OwnOrNone self app.target.cancel) ∧
        (choice.ofCall = true → call = .stop .take → OwnOrNone self app.target.cancel)
  | _ => True

/-- A clean-up finds the cancel function, proxy and path manager of its own attempt, or
none. -/
def FindsOwn (pool : AppPool) : AppEvent → Prop
  | .spawn _ => True
  | .advance self choice => ∀ thread, pool.threads[self]? = some thread →
      OwnFields self pool.shared choice thread

/-! ## Steps -/

inductive SessionStep (self : Nat) (session : Session) : Session → Prop
  | same : SessionStep self session session
  | start : session.running = false → SessionStep self session (session.start self)
  | stop (wanted : List Nat) : OwnOrNone self session.cancel → wanted ⊆ session.wanted →
      SessionStep self session (.stopped wanted)
  | drop : SessionStep self session (.stopped [])

def Registered (self : Nat) (session : Session) (inside : Bool) : Prop :=
  inside = true → self ∈ session.wanted →
    session.running = true ∧ session.cancel = some self

section Steps

variable {self other : Nat} {session later : Session} {inside : Bool} {stored : Option Nat}
  {app moved : App} {thread next : Thread} {choice : Choice}

theorem OwnOrNone.not_other (own : OwnOrNone self stored) (different : other ≠ self) :
    stored ≠ some other := by
  rintro rfl
  rcases own with none | same
  · cases none
  · exact different (Option.some.inj same)

theorem OwnOrNone.mem_append {attempts : List Nat} (own : OwnOrNone self stored)
    (different : other ≠ self) (member : other ∈ stored.toList ++ attempts) :
    other ∈ attempts := by
  rcases List.mem_append.mp member with new | old
  · exact absurd (Option.mem_toList.mp new) (own.not_other different)
  · exact old

theorem SessionStep.registered (step : SessionStep self session later) (different : other ≠ self)
    (known : Registered other session inside) : Registered other later inside := by
  intro within wanted
  cases step with
  | same => exact known within wanted
  | start idle =>
      have before : other ∈ session.wanted := by simpa [Session.start, different] using wanted
      rw [(known within before).1] at idle
      cases idle
  | stop remaining own fewer =>
      exact absurd (known within (fewer wanted)).2 (own.not_other different)
  | drop => cases wanted

theorem Registered.vacuous (outside : inside = false) : Registered self session inside := by
  intro within
  rw [outside] at within
  cases within

theorem Registered.of_start : Registered self (session.start self) inside := fun _ _ => ⟨rfl, rfl⟩

theorem stepConnect_sessions {point after : ConnectPoint}
    (taken : stepConnect self app choice point = some (moved, after))
    (own : OwnFields self app choice (.connect point))
    (known : Registered self app.controller (Thread.connects (.connect point))) :
    SessionStep self app.controller moved.controller ∧
      Registered self moved.controller (Thread.connects (.connect after)) := by
  cases point with
  | enter =>
      simp only [stepConnect] at taken
      split at taken
      · cases taken
        exact ⟨.same, .vacuous rfl⟩
      · rename_i idle
        split at taken
        · cases taken
          exact ⟨.same, .vacuous rfl⟩
        · cases taken
          exact ⟨.start (by simpa using idle), .of_start⟩
  | connecting =>
      simp only [stepConnect] at taken
      split at taken <;> cases taken <;> exact ⟨.same, known⟩
  | failed =>
      cases taken
      exact ⟨.stop _ own (List.Subset.refl _), .vacuous rfl⟩
  | established =>
      cases taken
      exact ⟨.same, known⟩
  | watching =>
      simp only [stepConnect] at taken
      split at taken <;> cases taken
      exact ⟨.same, known⟩
  | cleanUp =>
      cases taken
      exact ⟨.stop _ own.1 (List.Subset.refl _), .vacuous rfl⟩
  | returned => cases taken

theorem stepDisconnect_sessions {point after : DisconnectPoint}
    (taken : stepDisconnect app point = some (moved, after)) :
    SessionStep self app.controller moved.controller ∧ moved.target = app.target := by
  cases point with
  | take =>
      cases taken
      exact ⟨.drop, rfl⟩
  | returned => cases taken
  | _ =>
      cases taken
      exact ⟨.same, rfl⟩

theorem stepStop_sessions {wanted : List Nat} {point after : StopPoint}
    (taken : stepStop app wanted point = some (moved, after)) :
    moved.controller = app.controller ∧
      (point = .take ∧ moved.target = .stopped wanted ∧ after = .cancel app.target.cancel ∨
        moved.target = app.target ∧ after = .returned) := by
  cases point with
  | take =>
      cases taken
      exact ⟨rfl, .inl ⟨rfl, rfl, rfl⟩⟩
  | cancel =>
      cases taken
      exact ⟨rfl, .inr ⟨rfl, rfl⟩⟩
  | returned => cases taken

theorem stepConnect_target {point after : ConnectPoint}
    (taken : stepConnect self app choice point = some (moved, after)) :
    moved.target = app.target := by
  cases point <;> grind [stepConnect, App.cancel, App.closeProxy, App.closePathMgr]

def CallPoint.stopping : CallPoint → Option Nat
  | .stop (.cancel stored) => stored
  | _ => none

def StopKnown (self : Nat) : Thread → Prop
  | .targetStart (.launched call _ _) => OwnOrNone self call.stopping
  | _ => True

theorem stepStart_sessions {point after : StartPoint}
    (taken : stepStart self app choice point = some (moved, after))
    (own : OwnFields self app choice (.targetStart point))
    (known : Registered self app.target (Thread.serves (.targetStart point)))
    (stops : StopKnown self (.targetStart point)) :
    moved.controller = app.controller ∧ SessionStep self app.target moved.target ∧
      Registered self moved.target (Thread.serves (.targetStart after)) ∧
      StopKnown self (.targetStart after) := by
  cases point with
  | enter =>
      simp only [stepStart] at taken
      split at taken
      · cases taken
        exact ⟨rfl, .same, .vacuous rfl, trivial⟩
      · rename_i idle
        split at taken
        · cases taken
          exact ⟨rfl, .same, .vacuous rfl, trivial⟩
        · cases taken
          exact ⟨rfl, .start (by simpa using idle), .of_start, trivial⟩
  | launch =>
      cases taken
      exact ⟨rfl, .same, known, .inl rfl⟩
  | launched call readyCh run =>
      have byCall (isCall : choice.ofCall = true)
          (called : (stepCall self app choice readyCh call).map (fun left =>
            (left.1, StartPoint.launched left.2.1 left.2.2 run)) = some (moved, after)) :
          moved.controller = app.controller ∧ SessionStep self app.target moved.target ∧
            Registered self moved.target (Thread.serves (.targetStart after)) ∧
            StopKnown self (.targetStart after) := by
        simp only [Option.map_eq_some_iff] at called
        rcases called with ⟨⟨stepped, next, ready⟩, called, equal⟩
        cases equal
        cases call with
        | select =>
            simp only [stepCall] at called
            repeat' split at called
            all_goals cases called
            all_goals exact ⟨rfl, .same, known, .inl rfl⟩
        | stop inner =>
            simp only [stepCall, Option.map_eq_some_iff] at called
            rcases called with ⟨⟨left, last⟩, stopped, equal⟩
            cases equal
            rcases stepStop_sessions stopped with
              ⟨controller, ⟨rfl, target, rfl⟩ | ⟨target, rfl⟩⟩
            · have mine := own.2 isCall rfl
              refine ⟨controller, ?_, ?_, mine⟩
              · rw [target]
                exact .stop _ mine ((List.filter_sublist).subset)
              · intro _ wanted
                rw [target] at wanted
                simp [Session.stopped] at wanted
            · refine ⟨controller, ?_, ?_, .inl rfl⟩
              · rw [target]
                exact .same
              · rw [target]
                exact known
        | returned => cases called
      cases choice with
      | goroutine =>
          simp only [stepStart, Option.map_eq_some_iff] at taken
          rcases taken with ⟨⟨stepped, next⟩, ran, equal⟩
          cases equal
          cases run with
          | running reported =>
              simp only [stepRun] at ran
              split at ran <;> cases ran
              exact ⟨rfl, .same, fun _ => known rfl, stops⟩
          | ended =>
              cases ran
              exact ⟨rfl, .stop _ (own.1 rfl rfl) (List.Subset.refl _), .vacuous rfl, stops⟩
          | returned => cases ran
      | report failed =>
          simp only [stepStart] at taken
          split at taken
          · rename_i running
            cases taken
            exact ⟨rfl, .same, fun _ => known (by rw [running]; rfl), stops⟩
          · cases taken
      | _ => exact byCall rfl taken
  | returned => cases taken

theorem stepConnect_spared {point after : ConnectPoint}
    (taken : stepConnect self app choice point = some (moved, after))
    (own : OwnFields self app choice (.connect point))
    (ends : Thread.ends choice (.connect point) = true) (different : other ≠ self) :
    Spared other app moved := by
  cases point with
  | failed =>
      cases taken
      have mine : OwnOrNone self app.controller.cancel := own
      exact {
        controllerCancel := fun stored => absurd stored (mine.not_other different)
        controllerProxy := id
        controllerPathMgr := id
        targetCancel := id
        canceled := mine.mem_append different
        proxiesClosed := id
        pathMgrsClosed := id }
  | cleanUp =>
      cases taken
      rcases own with ⟨cancel, proxy, pathMgr⟩
      exact {
        controllerCancel := fun stored => absurd stored (cancel.not_other different)
        controllerProxy := fun stored => absurd stored (proxy.not_other different)
        controllerPathMgr := fun stored => absurd stored (pathMgr.not_other different)
        targetCancel := id
        canceled := cancel.mem_append different
        proxiesClosed := proxy.mem_append different
        pathMgrsClosed := pathMgr.mem_append different }
  | _ => cases ends

theorem stepStop_spared {wanted : List Nat} {point after : StopPoint}
    (taken : stepStop app wanted point = some (moved, after))
    (own : point = .take → OwnOrNone self app.target.cancel)
    (stops : OwnOrNone self (CallPoint.stopping (.stop point))) (different : other ≠ self) :
    Spared other app moved := by
  cases point with
  | take =>
      cases taken
      exact ⟨id, id, id, fun stored => absurd stored ((own rfl).not_other different), id, id, id⟩
  | cancel stored =>
      cases taken
      exact ⟨id, id, id, id, OwnOrNone.mem_append stops different, id, id⟩
  | returned => cases taken

theorem stepStart_spared {point after : StartPoint}
    (taken : stepStart self app choice point = some (moved, after))
    (own : OwnFields self app choice (.targetStart point))
    (stops : StopKnown self (.targetStart point))
    (ends : Thread.ends choice (.targetStart point) = true) (different : other ≠ self) :
    Spared other app moved := by
  cases point with
  | launched call readyCh run =>
      simp only [Thread.ends, Bool.or_eq_true, Bool.and_eq_true, decide_eq_true_eq] at ends
      rcases ends with ⟨rfl, rfl⟩ | ⟨ofCall, isStop⟩
      · cases taken
        have mine := own.1 rfl rfl
        exact ⟨id, id, id, fun stored => absurd stored (mine.not_other different), id, id, id⟩
      · cases call with
        | stop inner =>
            have called : ∃ after, stepStop app (app.target.wanted.filter
                fun attempt => attempt ≠ self) inner = some (moved, after) := by
              cases choice with
              | goroutine | report => cases ofCall
              | _ =>
                  simp only [stepStart, stepCall, Option.map_map, Option.map_eq_some_iff] at taken
                  rcases taken with ⟨⟨stepped, last⟩, stopped, equal⟩
                  cases equal
                  exact ⟨last, stopped⟩
            rcases called with ⟨last, stopped⟩
            refine stepStop_spared stopped (fun take => own.2 ofCall ?_) stops different
            rw [take]
        | _ => cases isStop
  | _ => cases ends

theorem step_spared (taken : step self app thread choice = some (moved, next))
    (own : OwnFields self app choice thread) (stops : StopKnown self thread)
    (ends : thread.ends choice = true) (different : other ≠ self) : Spared other app moved := by
  cases thread with
  | connect point =>
      simp only [step, Option.map_eq_some_iff] at taken
      rcases taken with ⟨⟨stepped, after⟩, connects, equal⟩
      cases equal
      exact stepConnect_spared connects own ends different
  | targetStart point =>
      simp only [step, Option.map_eq_some_iff] at taken
      rcases taken with ⟨⟨stepped, after⟩, starts, equal⟩
      cases equal
      exact stepStart_spared starts own stops ends different
  | _ => cases ends

theorem step_sessions (taken : step self app thread choice = some (moved, next))
    (own : OwnFields self app choice thread) (stops : StopKnown self thread)
    (connects : Registered self app.controller thread.connects)
    (serves : Registered self app.target thread.serves) :
    SessionStep self app.controller moved.controller ∧
      SessionStep self app.target moved.target ∧
      Registered self moved.controller next.connects ∧
      Registered self moved.target next.serves ∧ StopKnown self next := by
  cases thread with
  | connect point =>
      simp only [step, Option.map_eq_some_iff] at taken
      rcases taken with ⟨⟨stepped, after⟩, connecting, equal⟩
      cases equal
      rcases stepConnect_sessions connecting own connects with ⟨session, known⟩
      refine ⟨session, ?_, known, .vacuous rfl, trivial⟩
      rw [stepConnect_target connecting]
      exact .same
  | disconnect point =>
      simp only [step, Option.map_eq_some_iff] at taken
      rcases taken with ⟨⟨stepped, after⟩, disconnects, equal⟩
      cases equal
      rcases stepDisconnect_sessions disconnects with ⟨session, target⟩
      refine ⟨session, ?_, .vacuous rfl, .vacuous rfl, trivial⟩
      rw [target]
      exact .same
  | targetStart point =>
      simp only [step, Option.map_eq_some_iff] at taken
      rcases taken with ⟨⟨stepped, after⟩, starts, equal⟩
      cases equal
      rcases stepStart_sessions starts own serves stops with ⟨controller, session, known, later⟩
      refine ⟨?_, session, .vacuous rfl, known, later⟩
      rw [controller]
      exact .same
  | targetStop point =>
      simp only [step, Option.map_eq_some_iff] at taken
      rcases taken with ⟨⟨stepped, after⟩, stopped, equal⟩
      cases equal
      rcases stepStop_sessions stopped with ⟨controller, target⟩
      refine ⟨?_, ?_, .vacuous rfl, .vacuous rfl, trivial⟩
      · rw [controller]
        exact .same
      · rcases target with ⟨_, target, _⟩ | ⟨target, _⟩
        · rw [target]
          exact .drop
        · rw [target]
          exact .same

end Steps

/-! ## Runs -/

def sessionOutline : Program.Outline App Thread where
  global _ := True
  assertion self pool thread :=
    Registered self pool.shared.controller thread.connects ∧
      Registered self pool.shared.target thread.serves ∧ StopKnown self thread

theorem entry_outside {thread : Thread} (enters : sessions.entry thread = true) :
    thread.connects = false ∧ thread.serves = false ∧ ∀ self, StopKnown self thread := by
  cases thread with
  | connect point | disconnect point | targetStart point | targetStop point =>
      simp only [sessions, entry, decide_eq_true_eq] at enters
      subst enters
      exact ⟨rfl, rfl, fun _ => trivial⟩

theorem sessionOutline_valid : sessionOutline.Valid sessions FindsOwn where
  started pool thread _ enters _ := by
    rcases entry_outside enters with ⟨connects, serves, stops⟩
    exact ⟨trivial, .vacuous connects, .vacuous serves, stops _⟩
  undisturbedByStart pool thread other bystander holds _ _ found :=
    holds.thread other bystander found
  sequential pool self thread choice shared next holds present own taken := by
    rcases holds.thread self thread present with ⟨connects, serves, stops⟩
    rcases step_sessions taken (own thread present) stops connects serves with
      ⟨_, _, known⟩
    exact ⟨trivial, known⟩
  interferenceFree pool self thread choice shared next other bystander holds present own taken
      different found := by
    rcases holds.thread self thread present with ⟨connects, serves, stops⟩
    rcases step_sessions taken (own thread present) stops connects serves with
      ⟨controller, target, _⟩
    rcases holds.thread other bystander found with ⟨theirs, also, stopping⟩
    exact ⟨controller.registered different theirs, target.registered different also, stopping⟩

theorem Flagged.of_outline {pool : AppPool} (holds : sessionOutline.Holds pool) : Flagged pool where
  controller self thread present inside wanted :=
    ((holds.thread self thread present).1 inside wanted).1
  target self thread present inside wanted :=
    ((holds.thread self thread present).2.1 inside wanted).1

theorem spares_of_findsOwn {pool : AppPool} {event : AppEvent}
    (holds : sessionOutline.Holds pool) (own : FindsOwn pool event) :
    SparesOthers pool event := by
  intro next step
  refine ⟨.of_outline (sessionOutline_valid.step holds own step), ?_⟩
  rintro self choice thread rfl present ends other different
  rcases Program.step_cases step with
    ⟨_, wrong, _⟩ | ⟨mover, taken, acting, shared, after, same, there, moves, rfl⟩
  · cases wrong
  · cases same
    rw [present] at there
    cases there
    exact step_spared moves (own thread present) (holds.thread self thread present).2.2 ends
      different

end Rdpulse.GUI
