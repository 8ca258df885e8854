import Rdpulse.Controller.ServeUDP
import Rdpulse.Foundation.Traces

namespace Rdpulse.Controller

open Foundation Protocol UDP Rdpulse.Path

/-! # The receive goroutine on a lost relay connection

The goroutine calls `ReceiveUDP` again after every error but `io.EOF` and
`context.Canceled`. A lost connection is neither, and nobody closes the path manager
for it, so the goroutine spins. Only a `Close` of the manager ends it. -/

/-- The relay transport is permanently closed, the path is Relay and the context is
not cancelled. -/
structure RelayGone (pool : ServePool) : Prop where
  relayClosed : pool.shared.relayClosed = true
  udpPath : pool.shared.manager.udpPath = .relay
  relayTransport : pool.shared.manager.relayTransport.isSome = true
  contextDone : pool.shared.manager.contextDone = false

section Trace

variable {remoteAddr : PunchResult → AddrPort} (trace : (serving remoteAddr).machine.Trace)
  (self : Nat)

def Acts (time : Nat) : Prop := ∃ choice, trace.event time = .advance self choice

/-- The goroutine begins an iteration of its loop. -/
def Iterates (time : Nat) : Prop :=
  Acts trace self time ∧ (trace.state time).threads[self]? = some (.receiver .select)

def CanAct (time : Nat) : Prop :=
  ∃ choice next,
    (serving remoteAddr).machine.step (trace.state time) (.advance self choice) = some next

end Trace

/-! ## One action -/

/-- How many actions of a spinning goroutine lie ahead of its next iteration. -/
def ahead : ServePoint → Option Nat
  | .select => some 0
  | .classify .other => some 1
  | .receive .relayReceive => some 2
  | .receive .loadPath => some 3
  | .receive .selectDone => some 4
  | _ => none

def iterationsLeft : ServePoint → Nat
  | .receive .selectDone => 0
  | .classify .endOfFile => 0
  | .classify .canceled => 0
  | .returned => 0
  | _ => 1

section Step

variable {remoteAddr : PunchResult → AddrPort} {pool : ServePool} {self : Nat}
  {state moved : ServeState} {choice : ServeChoice} {point next : ServePoint}

theorem stepServe_spin (gone : RelayGone pool)
    (opened : pool.shared.manager.managerDone = false) {count : Nat}
    (here : ahead point = some count)
    (taken : stepServe remoteAddr self pool.shared choice point = some (moved, next)) :
    moved = pool.shared ∧ ahead next = some (if count = 0 then 4 else count - 1) := by
  have path := gone.udpPath
  have transport := gone.relayTransport
  cases point with
  | select =>
      cases here
      simp only [stepServe, gone.contextDone, Bool.false_eq_true, if_false] at taken
      cases taken
      exact ⟨rfl, rfl⟩
  | classify err =>
      cases err with
      | other =>
          cases here
          simp only [stepServe, reduceCtorEq, or_self, if_false] at taken
          cases taken
          exact ⟨rfl, rfl⟩
      | _ => cases here
  | receive inner =>
      cases inner with
      | selectDone =>
          cases here
          simp only [stepServe, stepReceive, gone.contextDone, opened, Bool.or_self,
            Bool.false_eq_true, if_false] at taken
          cases taken
          exact ⟨rfl, rfl⟩
      | loadPath =>
          cases here
          have present : pool.shared.manager.relayTransport.isNone = false := by
            rw [← Option.not_isSome, transport]
            rfl
          simp only [stepServe, stepReceive, path, present, Bool.false_eq_true, if_false] at taken
          cases taken
          exact ⟨rfl, rfl⟩
      | relayReceive =>
          cases here
          simp only [stepServe, stepReceive, gone.relayClosed, if_true, gone.contextDone,
            Bool.false_eq_true, and_false, if_false] at taken
          cases taken
          exact ⟨rfl, rfl⟩
      | _ => cases here
  | _ => cases here

theorem stepServe_enabled (gone : RelayGone pool) {count : Nat}
    (here : ahead point = some count) :
    ∃ after, stepServe remoteAddr self pool.shared .proceed point = some after := by
  have path := gone.udpPath
  cases point with
  | select =>
      simp only [stepServe]
      split <;> exact ⟨_, rfl⟩
  | classify err =>
      simp only [stepServe]
      split <;> exact ⟨_, rfl⟩
  | receive inner =>
      cases inner with
      | selectDone =>
          simp only [stepServe, stepReceive]
          split <;> exact ⟨_, rfl⟩
      | loadPath =>
          simp only [stepServe, stepReceive, path]
          split <;> exact ⟨_, rfl⟩
      | relayReceive =>
          simp only [stepServe, stepReceive, gone.relayClosed, if_true]
          split <;> exact ⟨_, rfl⟩
      | _ => cases here
  | _ => cases here

theorem stepServe_closed (closed : state.manager.managerDone = true)
    (taken : stepServe remoteAddr self state choice point = some (moved, next)) :
    iterationsLeft next ≤ iterationsLeft point ∧
      (point = .select → iterationsLeft next < iterationsLeft point) := by
  have atMost (point : ServePoint) : iterationsLeft point ≤ 1 := by
    unfold iterationsLeft
    split <;> decide
  cases point with
  | select =>
      simp only [stepServe] at taken
      split at taken <;> cases taken <;> exact ⟨Nat.zero_le _, fun _ => Nat.one_pos⟩
  | receive inner =>
      refine ⟨?_, fun same => by cases same⟩
      cases inner with
      | selectDone =>
          simp only [stepServe, stepReceive, closed, Bool.or_true, if_true] at taken
          cases taken
          exact Nat.le_refl _
      | _ => exact atMost next
  | classify err =>
      refine ⟨?_, fun same => by cases same⟩
      cases err with
      | other => exact atMost next
      | _ =>
          cases taken
          exact Nat.le_refl _
  | deliver payload => exact ⟨atMost next, fun same => by cases same⟩
  | returned => cases taken

theorem stepFallback_managerDone {manager after : Manager} {inner resumed : FallbackPoint}
    (taken : stepFallback self manager inner = some (after, resumed)) :
    after.managerDone = manager.managerDone := by
  cases inner <;>
    grind [stepFallback, Manager.lock, Manager.unlock, Manager.closePunch,
      Manager.notifyPathChanged]

theorem pathWaiter_managerDone (manager : Manager) :
    manager.pathWaiter.1.managerDone = manager.managerDone := by
  rcases manager.pathWaiter_cases with ⟨waiter, _, equal⟩ | ⟨_, equal⟩ <;> rw [equal]

theorem stepClose_managerDone {manager after : Manager} {inner resumed : ClosePoint}
    (taken : stepClose self manager inner = some (after, resumed))
    (done : manager.managerDone = true) : after.managerDone = true := by
  cases inner <;>
    grind [stepClose, Manager.lock, Manager.unlock, Manager.closePunch]

theorem step_managerDone {manager after : Manager} {thread resumed : Thread} {inner : Choice}
    (taken : step self manager thread inner = some (after, resumed))
    (done : manager.managerDone = true) : after.managerDone = true := by
  cases thread with
  | setDirectUDP res isLAN point =>
      cases point <;>
        grind [step, stepSetDirectUDP, Manager.lock, Manager.unlock, Manager.closePunch,
          Manager.notifyPathChanged]
  | setDirectTCP isLAN point =>
      cases point <;> grind [step, stepSetDirectTCP, Manager.notifyPathChanged]
  | fallbackUDPFromDirect point =>
      rcases step_fallbackUDPFromDirect taken with ⟨_, fell, rfl⟩
      exact (stepFallback_managerDone fell).trans done
  | setQUICRelay point =>
      cases point <;>
        grind [step, stepSetQUICRelay, Manager.lock, Manager.unlock, Manager.notifyPathChanged]
  | close point =>
      simp only [step, Option.map_eq_some_iff] at taken
      rcases taken with ⟨⟨shared, next⟩, closes, equal⟩
      cases equal
      exact stepClose_managerDone closes done
  | receiveUDP point =>
      rcases step_receiveUDP taken with ⟨_, received, rfl⟩
      rcases stepReceiveUDP_cases received with
        ⟨_, _, rfl, fell, rfl⟩ | ⟨rfl, rfl, rfl⟩ | ⟨rfl, _, _⟩
      · exact (stepFallback_managerDone fell).trans done
      · exact (pathWaiter_managerDone manager).trans done
      · exact done
  | cancelContext cancelled => cases cancelled <;> grind [step]

theorem stepReceive_managerDone {inner : ReceivePoint}
    (taken : stepReceive remoteAddr self state choice inner = some (moved, next))
    (done : state.manager.managerDone = true) : moved.manager.managerDone = true := by
  cases inner with
  | readDirect res codec =>
      cases choice with
      | packet source packet now =>
          cases taken
          simp only [ServeState.receiveDirect]
          repeat' split
          all_goals exact done
      | readError err =>
          cases taken
          exact done
      | _ => cases taken
  | relayReceive =>
      simp only [stepReceive] at taken
      split at taken
      · split at taken <;> cases taken <;> exact done
      · cases choice with
        | datagram datagram now =>
            cases taken
            exact done
        | contextDone =>
            simp only at taken
            split at taken <;> cases taken
            exact done
        | readError err =>
            cases taken
            exact done
        | _ => cases taken
  | register =>
      cases taken
      exact (pathWaiter_managerDone state.manager).trans done
  | fallback point =>
      simp only [stepReceive, Option.map_eq_some_iff] at taken
      rcases taken with ⟨⟨manager, resumed⟩, fell, equal⟩
      cases equal
      exact (stepFallback_managerDone fell).trans done
  | wait waiter =>
      simp only [stepReceive] at taken
      split at taken
      · split at taken <;> cases taken
        exact done
      · split at taken <;> cases taken
        exact done
  | _ => grind [stepReceive]

theorem stepServing_managerDone {thread resumed : ServeThread}
    (taken : stepServing remoteAddr self state thread choice = some (moved, resumed))
    (done : state.manager.managerDone = true) : moved.manager.managerDone = true := by
  cases thread with
  | operation operation =>
      cases choice with
      | operation inner =>
          simp only [stepServing, Option.map_eq_some_iff] at taken
          rcases taken with ⟨⟨manager, after⟩, stepped, equal⟩
          cases equal
          exact step_managerDone stepped done
      | _ => cases taken
  | receiver point =>
      simp only [stepServing, Option.map_eq_some_iff] at taken
      rcases taken with ⟨⟨after, following⟩, served, equal⟩
      cases equal
      cases point with
      | receive inner => exact stepReceive_managerDone served done
      | deliver payload =>
          cases served
          simp only [ServeState.deliver]
          repeat' split
          all_goals exact done
      | _ => grind [stepServe]
  | controlLoop own point =>
      simp only [stepServing, Option.map_eq_some_iff] at taken
      rcases taken with ⟨⟨after, following⟩, controlled, equal⟩
      cases equal
      cases point with
      | close inner =>
          simp only [stepControl, Option.map_eq_some_iff] at controlled
          rcases controlled with ⟨⟨manager, resumed⟩, closes, equal⟩
          cases equal
          exact stepClose_managerDone closes done
      | handle sessionID type => cases type <;> grind [stepControl]
      | read => cases choice <;> grind [stepControl]
      | _ => grind [stepControl]
  | localPacket addr stored =>
      cases stored <;> cases taken
      exact done
  | loseRelay lost =>
      cases lost <;> cases taken
      exact done

end Step

/-! ## Runs -/

section Runs

variable {remoteAddr : PunchResult → AddrPort} {trace : (serving remoteAddr).machine.Trace}
  {self since : Nat}

theorem receiver_waits {time : Nat} {point : ServePoint} (idle : ¬Acts trace self time)
    (present : (trace.state time).threads[self]? = some (.receiver point)) :
    (trace.state (time + 1)).threads[self]? = some (.receiver point) := by
  rcases Program.step_cases (trace.step time) with
    ⟨added, _, _, later⟩ | ⟨mover, choice, thread, shared, moved, event, _, _, later⟩
  · rw [later]
    exact Pool.start_old present added
  · have other : self ≠ mover := fun same => idle ⟨choice, same ▸ event⟩
    rw [later, Pool.update_other _ other]
    exact present

theorem receiver_acts {time : Nat} {point : ServePoint} (acts : Acts trace self time)
    (present : (trace.state time).threads[self]? = some (.receiver point)) :
    ∃ choice moved next,
      stepServe remoteAddr self (trace.state time).shared choice point = some (moved, next) ∧
      (trace.state (time + 1)).threads[self]? = some (.receiver next) ∧
      (trace.state (time + 1)).shared = moved := by
  rcases acts with ⟨taken, acting⟩
  rcases Program.step_cases (trace.step time) with
    ⟨added, event, _⟩ | ⟨mover, choice, thread, shared, moved, event, there, stepped, later⟩
  · rw [acting] at event
    cases event
  · rw [acting] at event
    cases event
    rw [present] at there
    cases there
    change stepServing remoteAddr self (trace.state time).shared (.receiver point) taken = _
      at stepped
    simp only [stepServing, Option.map_eq_some_iff] at stepped
    rcases stepped with ⟨⟨after, next⟩, served, equal⟩
    cases equal
    refine ⟨taken, after, next, served, ?_, by rw [later]; rfl⟩
    rw [later]
    exact Pool.update_self present after (.receiver next)

theorem receiver_stays {time : Nat}
    (present : ∃ point, (trace.state time).threads[self]? = some (.receiver point)) :
    ∃ point, (trace.state (time + 1)).threads[self]? = some (.receiver point) := by
  rcases present with ⟨point, here⟩
  by_cases acts : Acts trace self time
  · rcases receiver_acts acts here with ⟨_, _, next, _, there, _⟩
    exact ⟨next, there⟩
  · exact ⟨point, receiver_waits acts here⟩

theorem managerDone_persists {time later : Nat} (after : time ≤ later)
    (done : (trace.state time).shared.manager.managerDone = true) :
    (trace.state later).shared.manager.managerDone = true := by
  refine @persists (fun moment => (trace.state moment).shared.manager.managerDone = true) time
    (fun moment _ closed => ?_) done later after
  rcases Program.step_cases (trace.step moment) with
    ⟨added, _, _, next⟩ | ⟨mover, choice, thread, shared, moved, _, _, taken, next⟩
  · rw [next]
    exact closed
  · rw [next]
    exact stepServing_managerDone taken closed

def left (trace : (serving remoteAddr).machine.Trace) (self time : Nat) : Nat :=
  match (trace.state time).threads[self]? with
  | some (.receiver point) => iterationsLeft point
  | _ => 0

theorem iterates_finitely_of_closed
    (starts : ∃ point, (trace.state since).threads[self]? = some (.receiver point)) {time : Nat}
    (done : (trace.state time).shared.manager.managerDone = true) :
    FinitelyOften (Iterates trace self) := by
  have there (moment : Nat) (later : since ≤ moment) :
      ∃ point, (trace.state moment).threads[self]? = some (.receiver point) :=
    @persists (fun moment => ∃ point, (trace.state moment).threads[self]? = some (.receiver point))
      since (fun _ _ here => receiver_stays here) starts moment later
  apply @finitelyOften_of_rank (Iterates trace self) (max since time) (left trace self)
  · intro moment late
    rcases there moment (by omega) with ⟨point, here⟩
    by_cases acts : Acts trace self moment
    · rcases receiver_acts acts here with ⟨choice, moved, next, served, now, _⟩
      have closed := managerDone_persists (show time ≤ moment by omega) done
      simpa only [left, here, now] using (stepServe_closed closed served).1
    · simp only [left, here, receiver_waits acts here, Nat.le_refl]
  · intro moment late iterates
    rcases receiver_acts iterates.1 iterates.2 with ⟨choice, moved, next, served, now, _⟩
    have closed := managerDone_persists (show time ≤ moment by omega) done
    simpa only [left, iterates.2, now] using (stepServe_closed closed served).2 rfl

/-- The goroutine is on its way round the loop. -/
def Spinning (trace : (serving remoteAddr).machine.Trace) (self time : Nat) : Prop :=
  ∃ point count, (trace.state time).threads[self]? = some (.receiver point) ∧
    ahead point = some count

theorem spinning_persists (gone : ∀ time, since ≤ time → RelayGone (trace.state time))
    (opened : ∀ time, (trace.state time).shared.manager.managerDone = false)
    (spins : Spinning trace self since) (time : Nat) (later : since ≤ time) :
    Spinning trace self time := by
  refine @persists (Spinning trace self) since (fun moment after spins => ?_) spins time later
  rcases spins with ⟨point, count, here, distance⟩
  by_cases acts : Acts trace self moment
  · rcases receiver_acts acts here with ⟨choice, moved, next, served, now, _⟩
    exact ⟨next, _, now, (stepServe_spin (gone moment after) (opened moment) distance served).2⟩
  · exact ⟨point, count, receiver_waits acts here, distance⟩

theorem canAct_of_spinning {time : Nat} (gone : RelayGone (trace.state time))
    (spins : Spinning trace self time) : CanAct trace self time := by
  rcases spins with ⟨point, count, here, distance⟩
  rcases @stepServe_enabled remoteAddr _ self point gone count distance with
    ⟨⟨moved, next⟩, served⟩
  have taken : stepServing remoteAddr self (trace.state time).shared (.receiver point) .proceed =
      some (moved, .receiver next) := by
    simp only [stepServing, served]
    rfl
  exact ⟨.proceed, _, Program.machine_advance here taken⟩

theorem next_turn (gone : ∀ time, since ≤ time → RelayGone (trace.state time))
    (opened : ∀ time, (trace.state time).shared.manager.managerDone = false)
    (fair : WeaklyFair (CanAct trace self) (Acts trace self)) {count time : Nat}
    {point : ServePoint} (after : since ≤ time)
    (here : (trace.state time).threads[self]? = some (.receiver point))
    (distance : ahead point = some count) :
    ∃ later, time ≤ later ∧ Acts trace self later ∧
      (trace.state later).threads[self]? = some (.receiver point) := by
  have goneFrom (later : Nat) (from_ : time ≤ later) : RelayGone (trace.state later) :=
    gone later (by omega)
  have able (later : Nat) (from_ : time ≤ later) : CanAct trace self later :=
    canAct_of_spinning (goneFrom later from_)
      (spinning_persists goneFrom opened ⟨point, count, here, distance⟩ later from_)
  exact @next_action (fun later => (trace.state later).threads[self]? = some (.receiver point))
    time _ _ fair able (fun _ _ idle there => receiver_waits idle there) here

theorem iterates_again (gone : ∀ time, since ≤ time → RelayGone (trace.state time))
    (opened : ∀ time, (trace.state time).shared.manager.managerDone = false)
    (fair : WeaklyFair (CanAct trace self) (Acts trace self)) {count time : Nat}
    {point : ServePoint} (after : since ≤ time)
    (here : (trace.state time).threads[self]? = some (.receiver point))
    (distance : ahead point = some count) :
    ∃ later, time ≤ later ∧ Iterates trace self later := by
  induction count generalizing time point with
  | zero =>
      have atHead : point = .select := by
        unfold ahead at distance
        split at distance <;> simp_all
      subst atHead
      rcases next_turn gone opened fair after here distance with ⟨later, from_, acts, there⟩
      exact ⟨later, from_, acts, there⟩
  | succ count induction =>
      rcases next_turn gone opened fair after here distance with ⟨moment, from_, acts, there⟩
      rcases receiver_acts acts there with ⟨choice, moved, next, served, now, _⟩
      have nearer :=
        (stepServe_spin (gone moment (by omega)) (opened moment) distance served).2
      rcases induction (show since ≤ moment + 1 by omega) now nearer with ⟨later, onward, iterates⟩
      exact ⟨later, by omega, iterates⟩

end Runs

/-- On a relay connection that is lost for good, a goroutine that is anywhere on its loop
performs finitely many further iterations exactly where somebody closes the path manager. -/
theorem receive_loop_ends_iff (remoteAddr : PunchResult → AddrPort)
    (trace : (serving remoteAddr).machine.Trace) (self since : Nat)
    (gone : ∀ time, since ≤ time → RelayGone (trace.state time))
    (spins : Spinning trace self since)
    (fair : WeaklyFair (CanAct trace self) (Acts trace self)) :
    FinitelyOften (Iterates trace self) ↔
      ∃ time, (trace.state time).shared.manager.managerDone = true := by
  constructor
  · intro finitely
    by_contra never
    have opened (time : Nat) : (trace.state time).shared.manager.managerDone = false := by
      by_contra closed
      exact never ⟨time, Bool.not_eq_false _ ▸ closed⟩
    rcases finitely with ⟨bound, none⟩
    rcases spinning_persists gone opened spins (max since bound) (by omega) with
      ⟨point, count, here, distance⟩
    rcases iterates_again gone opened fair (show since ≤ max since bound by omega) here distance
      with ⟨later, from_, iterates⟩
    exact none later (by omega) iterates
  · rintro ⟨time, done⟩
    rcases spins with ⟨point, _, here, _⟩
    exact iterates_finitely_of_closed ⟨point, here⟩ done

/-! ## A run that spins -/

/-- The path is Relay, the connection is lost, the control loop has returned. -/
def lostPool : ServePool where
  shared := {
    manager := {
      mu := none
      tcpPath := .relay
      udpPath := .relay
      directUDPPunch := none
      relayTransport := some ⟨true⟩
      p2pCodec := false
      pathChanged := none
      waitersMade := 0
      closed := false
      managerDone := false
      contextDone := false
      punchesClosed := [] }
    p2pCodec := none
    reassembler := .new 100
    replayWindow := .new
    relayClosed := true
    lastClientAddr := none
    written := [] }
  threads := [.operation (.setQUICRelay .returned), .receiver .select,
    .controlLoop 7 .returned, .loseRelay true]

def oneIteration : List ServeEvent := List.replicate 5 (.advance 1 .proceed)

theorem oneIteration_returns (remoteAddr : PunchResult → AddrPort) :
    (serving remoteAddr).machine.execute lostPool oneIteration = some lostPool := rfl

theorem lostPool_reached (remoteAddr : PunchResult → AddrPort) :
    (serving remoteAddr).machine.execute (initialServing (some ⟨true⟩) none 100)
      (.spawn (.operation (.setQUICRelay .lock)) ::
        List.replicate 7 (.advance 0 (.operation .proceed)) ++
        [.spawn (.receiver .select), .spawn (.controlLoop 7 .read), .spawn (.loseRelay false),
          .advance 3 .proceed, .advance 2 (.readError .other)]) = some lostPool := rfl

structure Lost {remoteAddr : PunchResult → AddrPort} (trace : (serving remoteAddr).machine.Trace)
    (time : Nat) : Prop where
  gone : RelayGone (trace.state time)
  opened : (trace.state time).shared.manager.managerDone = false
  spins : Spinning trace 1 time

theorem exists_lost_trace (remoteAddr : PunchResult → AddrPort) :
    ∃ trace : (serving remoteAddr).machine.Trace, trace.state 0 = lostPool ∧
      ∀ time, Lost trace time ∧ Acts trace 1 time := by
  rcases Machine.exists_cycle (by simp [oneIteration]) (oneIteration_returns remoteAddr) with
    ⟨trace, first, events⟩
  have acts (time : Nat) : Acts trace 1 time :=
    ⟨.proceed, List.eq_of_mem_replicate (List.mem_of_getElem? (events time).2)⟩
  refine ⟨trace, first, fun time => ⟨?_, acts time⟩⟩
  refine @persists (Lost trace) 0 (fun moment _ lost => ?_) ⟨?_, ?_, ?_⟩ time (Nat.zero_le _)
  · rcases lost.spins with ⟨point, count, here, distance⟩
    rcases receiver_acts (acts moment) here with ⟨choice, moved, next, served, now, shared⟩
    have spun := stepServe_spin lost.gone lost.opened distance served
    have same := shared.trans spun.1
    refine ⟨⟨?_, ?_, ?_, ?_⟩, ?_, ⟨next, _, now, spun.2⟩⟩
    · rw [same]
      exact lost.gone.relayClosed
    · rw [same]
      exact lost.gone.udpPath
    · rw [same]
      exact lost.gone.relayTransport
    · rw [same]
      exact lost.gone.contextDone
    · rw [same]
      exact lost.opened
  · rw [first]
    exact ⟨rfl, rfl, rfl, rfl⟩
  · rw [first]
    rfl
  · rw [Spinning, first]
    exact ⟨.select, 0, rfl, rfl⟩

/-- The iterations of a goroutine on the lost connection, which never end. -/
theorem receive_loop_ends_iff_lost :
    ∃ trace : (serving fun _ => ⟨.v4 0, 0⟩).machine.Trace, trace.state 0 = lostPool ∧
      (FinitelyOften (Iterates trace 1) ↔
        ∃ time, (trace.state time).shared.manager.managerDone = true) ∧
      ∀ time, (trace.state time).shared.manager.managerDone = false := by
  rcases exists_lost_trace fun _ => ⟨.v4 0, 0⟩ with ⟨trace, first, lost⟩
  exact ⟨trace, first, receive_loop_ends_iff _ trace 1 0 (fun time _ => (lost time).1.gone)
    (lost 0).1.spins fun start _ => ⟨start, Nat.le_refl _, (lost start).2⟩,
    fun time => (lost time).1.opened⟩

/-- The relay connection is lost, the control loop returns without closing the path
manager, and the goroutine iterates for ever without blocking once. -/
theorem receive_loop_spins :
    ∃ events, (serving fun _ => ⟨.v4 0, 0⟩).machine.Run Machine.Unrestricted
        (initialServing (some ⟨true⟩) none 100) events lostPool ∧
      ∃ trace : (serving fun _ => ⟨.v4 0, 0⟩).machine.Trace, trace.state 0 = lostPool ∧
        (∀ time, RelayGone (trace.state time)) ∧ (∀ time, CanAct trace 1 time) ∧
        ¬FinitelyOften (Iterates trace 1) := by
  refine ⟨_, Machine.run_of_execute (lostPool_reached _) (Machine.permits_unrestricted _ _), ?_⟩
  rcases exists_lost_trace fun _ => ⟨.v4 0, 0⟩ with ⟨trace, first, lost⟩
  refine ⟨trace, first, fun time => (lost time).1.gone,
    fun time => canAct_of_spinning (lost time).1.gone (lost time).1.spins, ?_⟩
  rintro ⟨bound, none⟩
  rcases (lost bound).1.spins with ⟨point, count, here, distance⟩
  rcases iterates_again (fun time (_ : bound ≤ time) => (lost time).1.gone)
    (fun time => (lost time).1.opened) (fun start _ => ⟨start, Nat.le_refl _, (lost start).2⟩)
    (Nat.le_refl bound) here distance with ⟨later, after, iterates⟩
  exact none later after iterates

end Rdpulse.Controller
