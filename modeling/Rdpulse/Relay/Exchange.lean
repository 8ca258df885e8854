import Rdpulse.Relay.OnlineTables
import Rdpulse.Relay.Routing

namespace Rdpulse.Relay

open Foundation Protocol Storage
open Signaling (ActiveSession SessionCoordinator)

/-! What the coordinator sends for controllers and agents: who is notified of a
session, and to whom candidates are forwarded. -/

inductive Role
  | controller
  | agent
  deriving DecidableEq

/-- The connection serves this device in this role. What a handler served that has
ended is not known any more. -/
def Thread.Serves (role : Role) (deviceID : GoString) : Thread → Prop
  | .handler (.controller login _ _) => role = .controller ∧ login.deviceID = deviceID
  | .handler (.agent login _ _) => role = .agent ∧ login.deviceID = deviceID
  | .handler (.refuse _) | .handler .finished => True
  | _ => False

def Serves (pool : RelayPool) (writer : Nat) (role : Role) (deviceID : GoString) : Prop :=
  ∃ thread, pool.threads[writer]? = some thread ∧ thread.Serves role deviceID

def Action.writes (self : Nat) : Action → List (Nat × ControlMessage)
  | .send message _ => [(self, message)]
  | .coordinate _ sent => sent.toList.map fun sent => (sent.writer, sent.message)
  | _ => []

def Thread.forwarding? : Thread → Option (GoString × ControlMessage × Signaling.ForwardPoint)
  | .handler (.controller login _ (.forward _ _ message point)) =>
      some (login.deviceID, message, point)
  | .handler (.agent login _ (.forward _ message point)) => some (login.deviceID, message, point)
  | _ => none

def exchange (session : ActiveSession) (deviceID : GoString) (message : ControlMessage)
    (candidates : List CandidateInfo) : ControlMessage where
  type := .candidateExchange
  deviceID := deviceID
  targetDeviceID := (session.counterpart deviceID).1
  sessionID := message.sessionID
  candidates := candidates

/-- `past` has a step of thread `self` in which it asked the authorizer, as `asking`
tells, and in which the policy allowed the controller its target. `after` is what
came later. -/
def Asked (netip : Signaling.Netip) (start : RelayPool) (past : List (PoolEvent Thread Choice))
    (after : List (PoolEvent Thread Choice)) (self : Nat) (asking : Thread → Prop)
    (controllerID targetID : GoString) : Prop :=
  ∃ before choice middle thread, past = before ++ .advance self choice :: after ∧
    (program netip).machine.Run Machine.Unrestricted start before middle ∧
    middle.threads[self]? = some thread ∧ asking thread ∧
    middle.shared.controllerCanAccess controllerID targetID = true

def AskedBefore (netip : Signaling.Netip) (start : RelayPool)
    (past : List (PoolEvent Thread Choice)) (self : Nat) (asking : Thread → Prop)
    (controllerID targetID : GoString) : Prop :=
  ∃ after, Asked netip start past after self asking controllerID targetID

def AskedLast (netip : Signaling.Netip) (start : RelayPool)
    (past : List (PoolEvent Thread Choice)) (self : Nat) (asking : Thread → Prop)
    (controllerID targetID : GoString) : Prop :=
  ∃ after, (∀ choice, .advance self choice ∉ after) ∧
    Asked netip start past after self asking controllerID targetID

/-- An agent looks up the session of its exchange: if that is one of its own sessions,
the controller is another device. -/
def Thread.TwoDevices (m : AgentManager) (self : Nat) : Thread → Prop
  | .handler (.agent _ _ (.forward _ message (.lookup _))) =>
      ∀ session ∈ m.coordinator.sessions.lookup message.sessionID,
        session.targetWriter = some self → session.controllerID ≠ session.targetID
  | _ => True

instance (m : AgentManager) (self : Nat) (thread : Thread) :
    Decidable (thread.TwoDevices m self) := by
  unfold Thread.TwoDevices
  split <;> infer_instance

def TwoDevices (pool : RelayPool) : PoolEvent Thread Choice → Prop
  | .advance self _ => ∀ thread ∈ pool.threads[self]?, thread.TwoDevices pool.shared self
  | .spawn _ => True

instance (pool : RelayPool) (event : PoolEvent Thread Choice) :
    Decidable (TwoDevices pool event) := by
  rcases event with _ | ⟨self, choice⟩ <;> unfold TwoDevices <;> infer_instance

structure Proper (netip : Signaling.Netip) (start : RelayPool)
    (past : List (PoolEvent Thread Choice)) (own : Nat) (thread : Thread) (writer : Nat)
    (message : ControlMessage) : Prop where
  /-- A CONNECT_NOTIFY is written within a request for which the policy allowed it. -/
  notify : message.type = .connectNotify →
    ∃ login request target candidates peer sessionID token,
      thread = .handler (.controller login request
        (.connect target (.notify candidates peer sessionID token))) ∧
      peer.writer = some writer ∧
      message.deviceID = login.deviceID ∧ message.targetDeviceID = request.targetDeviceID ∧
      AskedBefore netip start past own
        (fun asking => asking = .handler (.controller login request
          (.connect target (.authorize candidates true (some peer)))))
        login.deviceID request.targetDeviceID
  /-- A CANDIDATE_EXCHANGE is written by a connection that forwards it, after the policy
  allowed it in the connection's last step, and to the other connection of the session. -/
  exchange : message.type = .candidateExchange →
    ∃ deviceID received candidates session,
      thread.forwarding? = some (deviceID, received, .write candidates session) ∧
      session.id = received.sessionID ∧
      message = exchange session deviceID received candidates ∧
      AskedLast netip start past own
        (fun asking =>
          asking.forwarding? = some (deviceID, received, .authorize candidates true session))
        session.controllerID session.targetID ∧
      (session.controllerWriter = some own → session.targetWriter = some writer) ∧
      (session.targetWriter = some own → session.controllerWriter = some writer) ∧
      (session.controllerWriter = some writer ∨ session.targetWriter = some writer) ∧
      writer ≠ own

/-- An exchange that one connection of a session has sent for the device of the other
one is written, unless the session has gone or the policy has changed. -/
structure Delivers (pool : RelayPool) (own : Nat) (thread : Thread) (action : Action)
    (next : Thread) : Prop where
  found : ∀ deviceID received candidates session,
    thread.forwarding? = some (deviceID, received, .lookup candidates) →
    pool.shared.coordinator.sessions.lookup received.sessionID = some session →
    received.targetDeviceID ≠ [] →
    (session.controllerWriter = some own ∧ received.targetDeviceID = session.targetID ∨
      session.targetWriter = some own ∧ received.targetDeviceID = session.controllerID) →
    next.forwarding? = some (deviceID, received,
      .authorize candidates pool.shared.coordinator.authorizes session)
  allowed : ∀ deviceID received candidates session,
    thread.forwarding? = some (deviceID, received, .authorize candidates true session) →
    pool.shared.controllerCanAccess session.controllerID session.targetID = true →
    next.forwarding? = some (deviceID, received, .write candidates session)
  written : ∀ deviceID received candidates session,
    thread.forwarding? = some (deviceID, received, .write candidates session) →
    ∃ writer, action.writes own = [(writer, exchange session deviceID received candidates)]

/-! ## What the handlers know -/

section Handlers

variable {netip : Signaling.Netip} {start pool : RelayPool}
  {past after : List (PoolEvent Thread Choice)} {self : Nat} {choice : Choice} {action : Action}
  {thread next : Thread}

structure SessionSound (serves : Nat → Role → GoString → Prop) (session : ActiveSession) :
    Prop where
  controller : ∃ writer, session.controllerWriter = some writer ∧
    serves writer .controller session.controllerID
  target : ∃ writer, session.targetWriter = some writer ∧ serves writer .agent session.targetID

structure CoordinatorSound (serves : Nat → Role → GoString → Prop) (c : SessionCoordinator) :
    Prop where
  peers : ∀ deviceID peer, c.peers.lookup deviceID = some peer →
    ∃ writer, peer.writer = some writer ∧ serves writer .agent deviceID
  sessions : ∀ sessionID session, c.sessions.lookup sessionID = some session →
    session.id = sessionID ∧ SessionSound serves session

structure Held (serves : Nat → Role → GoString → Prop) (own : Nat) (deviceID : GoString)
    (message : ControlMessage) (session : ActiveSession) : Prop where
  id : session.id = message.sessionID
  sound : SessionSound serves session
  side : (session.counterpart deviceID).2 ≠ none
  twoDevices : session.targetWriter = some own → session.controllerID ≠ session.targetID

def Thread.pending? : Thread → Option ControlMessage
  | .handler (.refuse message) | .handler (.controller _ _ (.registerRoute _ message))
  | .handler (.controller _ _ (.respond _ message)) | .handler (.agent _ _ (.reply _ message)) =>
      some message
  | _ => none

structure SignalAssertion (netip : Signaling.Netip) (start : RelayPool)
    (past : List (PoolEvent Thread Choice)) (serves : Nat → Role → GoString → Prop) (own : Nat)
    (thread : Thread) : Prop where
  connecting : ∀ login request target point,
    thread = .handler (.controller login request (.connect target point)) →
    Signaling.ConnectAssertion
      (fun peer => ∃ writer, peer.writer = some writer ∧
        serves writer .agent request.targetDeviceID)
      (fun candidates peer => AskedBefore netip start past own
        (fun asking => asking = .handler (.controller login request
          (.connect target (.authorize candidates true (some peer)))))
        login.deviceID request.targetDeviceID) point
  forwarding : ∀ deviceID message point, thread.forwarding? = some (deviceID, message, point) →
    Signaling.ForwardAssertion (Held serves own deviceID message)
      (fun candidates session => AskedLast netip start past own
        (fun asking =>
          asking.forwarding? = some (deviceID, message, .authorize candidates true session))
        session.controllerID session.targetID) point
  pending : ∀ message ∈ thread.pending?, Signaling.ordinary message = true

theorem Asked.later {asking : Thread → Prop} {controllerID targetID : GoString}
    (asked : Asked netip start past after self asking controllerID targetID)
    (event : PoolEvent Thread Choice) :
    Asked netip start (past ++ [event]) (after ++ [event]) self asking controllerID targetID := by
  rcases asked with ⟨before, choice, middle, thread, rfl, rest⟩
  exact ⟨before, choice, middle, thread, by simp, rest⟩

theorem AskedBefore.later {asking : Thread → Prop} {controllerID targetID : GoString}
    (asked : AskedBefore netip start past self asking controllerID targetID)
    (event : PoolEvent Thread Choice) :
    AskedBefore netip start (past ++ [event]) self asking controllerID targetID := by
  rcases asked with ⟨after, asked⟩
  exact ⟨_, asked.later event⟩

theorem AskedLast.later {asking : Thread → Prop} {controllerID targetID : GoString}
    (asked : AskedLast netip start past self asking controllerID targetID)
    {event : PoolEvent Thread Choice} (other : ∀ choice, event ≠ .advance self choice) :
    AskedLast netip start (past ++ [event]) self asking controllerID targetID := by
  rcases asked with ⟨after, since, asked⟩
  refine ⟨_, fun choice member => ?_, asked.later event⟩
  rcases List.mem_append.mp member with old | new
  · exact since choice old
  · exact other choice (List.mem_singleton.mp new).symm

theorem asked_now (run : (program netip).machine.Run Machine.Unrestricted start past pool)
    (present : pool.threads[self]? = some thread) {asking : Thread → Prop} (asks : asking thread)
    {controllerID targetID : GoString}
    (allowed : pool.shared.controllerCanAccess controllerID targetID = true) (choice : Choice) :
    Asked netip start (past ++ [.advance self choice]) [] self asking controllerID targetID :=
  ⟨past, choice, pool, thread, rfl, run, present, asks, allowed⟩

theorem SessionSound.mono {serves wider : Nat → Role → GoString → Prop} {session : ActiveSession}
    (sound : SessionSound serves session)
    (implies : ∀ writer role deviceID, serves writer role deviceID → wider writer role deviceID) :
    SessionSound wider session := by
  rcases sound with ⟨⟨first, writes, controls⟩, second, reads, targets⟩
  exact ⟨⟨first, writes, implies _ _ _ controls⟩, second, reads, implies _ _ _ targets⟩

theorem CoordinatorSound.mono {serves wider : Nat → Role → GoString → Prop}
    {c : SessionCoordinator} (sound : CoordinatorSound serves c)
    (implies : ∀ writer role deviceID, serves writer role deviceID → wider writer role deviceID) :
    CoordinatorSound wider c := by
  refine ⟨fun deviceID peer found => ?_, fun sessionID session found => ?_⟩
  · rcases sound.peers deviceID peer found with ⟨writer, writes, serving⟩
    exact ⟨writer, writes, implies _ _ _ serving⟩
  · rcases sound.sessions sessionID session found with ⟨same, sound⟩
    exact ⟨same, sound.mono implies⟩

theorem SignalAssertion.mono {serves wider : Nat → Role → GoString → Prop}
    (known : SignalAssertion netip start past serves self thread)
    (implies : ∀ writer role deviceID, serves writer role deviceID → wider writer role deviceID) :
    SignalAssertion netip start past wider self thread := by
  refine ⟨fun login request target point same => ?_, fun deviceID message point same => ?_,
    known.pending⟩
  · refine (known.connecting login request target point same).mono (fun peer named => ?_)
      fun _ _ asked => asked
    rcases named with ⟨writer, writes, serving⟩
    exact ⟨writer, writes, implies _ _ _ serving⟩
  · refine (known.forwarding deviceID message point same).mono (fun session held => ?_)
      fun _ _ asked => asked
    exact ⟨held.id, held.sound.mono implies, held.side, held.twoDevices⟩

theorem SignalAssertion.later {serves : Nat → Role → GoString → Prop}
    (known : SignalAssertion netip start past serves self thread)
    {event : PoolEvent Thread Choice} (other : ∀ choice, event ≠ .advance self choice) :
    SignalAssertion netip start (past ++ [event]) serves self thread := by
  refine ⟨fun login request target point same => ?_, fun deviceID message point same => ?_,
    known.pending⟩
  · exact (known.connecting login request target point same).mono (fun _ named => named)
      fun candidates peer asked => asked.later event
  · exact (known.forwarding deviceID message point same).mono (fun _ held => held)
      fun candidates session asked => asked.later other

/-! ## One step of a handler -/

structure SignalStep (netip : Signaling.Netip) (start : RelayPool)
    (past : List (PoolEvent Thread Choice)) (pool : RelayPool) (own : Nat) (choice : Choice)
    (thread : Thread) (action : Action) (next : Thread) : Prop where
  coordinator : CoordinatorSound (Serves pool) (action.apply own pool.shared).coordinator
  known : SignalAssertion netip start (past ++ [.advance own choice]) (Serves pool) own next
  serves : ∀ role deviceID, thread.Serves role deviceID → next.Serves role deviceID
  proper : ∀ writer message, (writer, message) ∈ action.writes own →
    Signaling.ordinary message = true ∨ Proper netip start past own thread writer message

def Action.mute : Action → Bool
  | .send message _ => Signaling.ordinary message
  | .coordinate _ _ => false
  | _ => true

theorem mute_coordinator {m : AgentManager} (mute : action.mute = true) :
    (action.apply self m).coordinator = m.coordinator := by
  cases action with
  | coordinate => cases mute
  | registerOnline session => exact registerOnline_coordinator session
  | removeOnline session => exact removeOnline_coordinator session
  | removeDevice deviceID => exact removeDevice_coordinator deviceID
  | unregisterControllerRoute target sessionID =>
      simp only [Action.apply]
      split <;> rfl
  | _ => rfl

theorem mute_writes (mute : action.mute = true) {writer : Nat} {message : ControlMessage}
    (written : (writer, message) ∈ action.writes self) : Signaling.ordinary message = true := by
  cases action with
  | send sent delivered =>
      rw [Action.writes, List.mem_singleton, Prod.mk.injEq] at written
      rw [written.2]
      exact mute
  | coordinate => cases mute
  | _ => cases written

def HandlerPoint.idle : HandlerPoint → Bool
  | .controller _ _ (.connect _ point) => point = .start
  | .controller _ _ (.forward _ _ _ point) | .agent _ _ (.forward _ _ point) => point = .start
  | .controller _ _ (.registerRoute _ message) | .controller _ _ (.respond _ message)
  | .agent _ _ (.reply _ message) | .refuse message => Signaling.ordinary message
  | _ => true

theorem idle_assertion {serves : Nat → Role → GoString → Prop} {point : HandlerPoint}
    (idle : point.idle = true) : SignalAssertion netip start past serves self (.handler point) := by
  refine ⟨fun login request target at_ same => ?_, fun deviceID message at_ same => ?_,
    fun message pending => ?_⟩
  · cases same
    rw [of_decide_eq_true idle]
    trivial
  · cases point with
    | controller login request point =>
        cases point <;> cases same
        rw [of_decide_eq_true idle]
        trivial
    | agent login register point =>
        cases point <;> cases same
        rw [of_decide_eq_true idle]
        trivial
    | _ => cases same
  · cases point with
    | controller login request point =>
        cases point <;> cases pending
        all_goals exact idle
    | agent login register point =>
        cases point <;> cases pending
        exact idle
    | refuse => cases pending; exact idle
    | _ => cases pending

theorem SignalStep.still {point : HandlerPoint}
    (sound : CoordinatorSound (Serves pool) pool.shared.coordinator) (mute : action.mute = true)
    (idle : point.idle = true)
    (serves : ∀ role deviceID, thread.Serves role deviceID →
      (Thread.handler point).Serves role deviceID) :
    SignalStep netip start past pool self choice thread action (.handler point) where
  coordinator := by rw [mute_coordinator mute]; exact sound
  known := idle_assertion idle
  serves := serves
  proper _ _ written := .inl (mute_writes mute written)

theorem write_mute {message : ControlMessage} {delivered : Bool}
    (written : write message choice = some (action, delivered))
    (of : Signaling.ordinary message = true) : action.mute = true := by
  cases choice <;> simp only [write, reduceCtorEq, Option.some.injEq, Prod.mk.injEq] at written
  all_goals rw [← written.1]; exact of

theorem planAuth_signals {m : AgentManager} {point : AuthPoint} {after : HandlerPoint}
    (planned : planAuth m choice point = some (action, after)) :
    action.mute = true ∧ after.idle = true := by
  rcases planAuth_outcome planned with ⟨acts, outcome⟩
  refine ⟨?_, ?_⟩
  · cases acts with
    | send message delivered type =>
        rcases type with type | type <;> simp [Action.mute, Signaling.ordinary, type]
    | _ => rfl
  · cases outcome <;> rfl

theorem authorize_true {m : AgentManager} {controllerID targetID : GoString}
    {choice : Signaling.Choice}
    (answered : m.authorize controllerID targetID choice = .authorized true) :
    m.controllerCanAccess controllerID targetID = true := by
  cases choice with
  | authorized answer =>
      simp only [AgentManager.authorize, Signaling.Choice.authorized.injEq] at answered
      exact answered
  | _ => cases answered

theorem forwarding_serves (present : pool.threads[self]? = some thread) {deviceID other : GoString}
    {message : ControlMessage} {point : Signaling.ForwardPoint} {role : Role}
    (forwards : thread.forwarding? = some (deviceID, message, point))
    (serves : Serves pool self role other) : other = deviceID := by
  rcases serves with ⟨one, there, serving⟩
  rw [present, Option.some.injEq] at there
  subst there
  cases thread with
  | handler handler =>
      cases handler with
      | controller login request at_ =>
          cases at_ <;> cases forwards
          exact serving.2.symm
      | agent login register at_ =>
          cases at_ <;> cases forwards
          exact serving.2.symm
      | _ => cases forwards
  | _ => cases forwards

theorem Held.direction {deviceID : GoString} {message : ControlMessage} {session : ActiveSession}
    {point : Signaling.ForwardPoint} {writer : Nat}
    (held : Held (Serves pool) self deviceID message session)
    (present : pool.threads[self]? = some thread)
    (forwards : thread.forwarding? = some (deviceID, message, point))
    (sent : (session.counterpart deviceID).2 = some writer) :
    (session.controllerWriter = some self → session.targetWriter = some writer) ∧
    (session.targetWriter = some self → session.controllerWriter = some writer) ∧
    (session.controllerWriter = some writer ∨ session.targetWriter = some writer) ∧
    writer ≠ self := by
  have controls : session.controllerWriter = some self → session.controllerID = deviceID := by
    intro own
    rcases held.sound.controller with ⟨one, writes, serving⟩
    rw [own, Option.some.injEq] at writes
    subst writes
    exact forwarding_serves present forwards serving
  have targets : session.targetWriter = some self → session.targetID = deviceID := by
    intro own
    rcases held.sound.target with ⟨one, writes, serving⟩
    rw [own, Option.some.injEq] at writes
    subst writes
    exact forwarding_serves present forwards serving
  unfold ActiveSession.counterpart at sent
  split at sent
  · rename_i same
    have apart : session.targetWriter ≠ some self := fun own =>
      held.twoDevices own (same.symm.trans (targets own).symm)
    refine ⟨fun _ => sent, fun own => absurd own apart, .inr sent, ?_⟩
    rintro rfl
    exact apart sent
  · rename_i other
    split at sent
    · have apart : session.controllerWriter ≠ some self := fun own => other (controls own).symm
      refine ⟨fun own => absurd own apart, fun _ => sent, .inl sent, ?_⟩
      rintro rfl
      exact apart sent
    · cases sent

theorem forward_signals
    (run : (program netip).machine.Run Machine.Unrestricted start past pool)
    (present : pool.threads[self]? = some thread)
    (sound : CoordinatorSound (Serves pool) pool.shared.coordinator)
    (known : SignalAssertion netip start past (Serves pool) self thread)
    {deviceID : GoString} {message : ControlMessage} {point later : Signaling.ForwardPoint}
    (forwards : thread.forwarding? = some (deviceID, message, point))
    (planned : planForward netip pool.shared message deviceID choice point = some (action, later))
    (twoDevices : ∀ valid, point = .lookup valid →
      ∀ session ∈ pool.shared.coordinator.sessions.lookup message.sessionID,
        session.targetWriter = some self → session.controllerID ≠ session.targetID)
    (goesOn : next.forwarding? = some (deviceID, message, later))
    (serves : ∀ role deviceID, thread.Serves role deviceID → next.Serves role deviceID) :
    SignalStep netip start past pool self choice thread action next := by
  cases choice with
  | signal choice =>
      simp only [planForward, Option.map_eq_some_iff] at planned
      rcases planned with ⟨step, taken, equal⟩
      cases equal
      have known := known.forwarding deviceID message point forwards
      have stepped := @Signaling.planForward_step netip _ _ _ _ _ _
        (Held (Serves pool) self deviceID message) _
        (fun candidates session =>
          AskedLast netip start (past ++ [.advance self (.signal choice)]) self
            (fun asking =>
              asking.forwarding? = some (deviceID, message, .authorize candidates true session))
            session.controllerID session.targetID) _ _ taken known
        (fun valid same session there side => by
          rcases sound.sessions _ session there with ⟨named, held⟩
          exact ⟨named, held, side, twoDevices valid same session there⟩)
        (fun valid session same answered => by
          subst same
          have allowed := authorize_true answered
          exact ⟨[], fun _ member => (by cases member),
            asked_now run present forwards allowed _⟩)
      refine ⟨?_, ⟨fun login request target at_ same => ?_, fun one received at_ same => ?_,
        fun pending member => ?_⟩, serves, fun writer sent written => ?_⟩
      · change CoordinatorSound (Serves pool) step.coordinator
        rw [Signaling.planForward_sessions taken]
        exact sound
      · rw [same] at goesOn
        cases goesOn
      · rw [goesOn, Option.some.injEq, Prod.mk.injEq, Prod.mk.injEq] at same
        rcases same with ⟨rfl, rfl, rfl⟩
        exact stepped.1
      · cases next with
        | handler handler =>
            cases handler with
            | controller login request at_ =>
                cases at_ <;> first | cases goesOn; done | cases member
            | agent login register at_ =>
                cases at_ <;> first | cases goesOn; done | cases member
            | _ => cases goesOn
        | _ => cases goesOn
      · simp only [Action.writes, List.mem_map, Option.mem_toList] at written
        rcases written with ⟨one, member, equal⟩
        cases equal
        rcases stepped.2 one member with ⟨valid, session, rfl, writes, text⟩
        refine .inr ⟨fun type => ?_, fun _ => ?_⟩
        · rw [text] at type
          cases type
        · exact ⟨deviceID, message, valid, session, forwards, known.1.id, text, known.2,
            known.1.direction present forwards writes⟩
  | _ => cases planned

theorem CoordinatorSound.fewer {serves : Nat → Role → GoString → Prop}
    {c less : SessionCoordinator} (sound : CoordinatorSound serves c)
    (peers : ∀ deviceID peer, less.peers.lookup deviceID = some peer →
      c.peers.lookup deviceID = some peer)
    (sessions : ∀ sessionID session, less.sessions.lookup sessionID = some session →
      c.sessions.lookup sessionID = some session) : CoordinatorSound serves less :=
  ⟨fun deviceID peer found => sound.peers deviceID peer (peers deviceID peer found),
    fun sessionID session found => sound.sessions sessionID session (sessions _ _ found)⟩

theorem SignalStep.coordinate {point : HandlerPoint} {c : SessionCoordinator}
    {sent : Option Signaling.Sent} (sound : CoordinatorSound (Serves pool) c)
    (quiet : ∀ one ∈ sent, Signaling.ordinary one.message = true) (idle : point.idle = true)
    (serves : ∀ role deviceID, thread.Serves role deviceID →
      (Thread.handler point).Serves role deviceID) :
    SignalStep netip start past pool self choice thread (.coordinate c sent) (.handler point) where
  coordinator := sound
  known := idle_assertion idle
  serves := serves
  proper writer message written := by
    simp only [Action.writes, List.mem_map, Option.mem_toList] at written
    rcases written with ⟨one, member, equal⟩
    cases equal
    exact .inl (quiet one member)

theorem connect_signals
    (run : (program netip).machine.Run Machine.Unrestricted start past pool) {login : Login}
    {request : ControlMessage} {target : AgentSession} {point : Signaling.ConnectPoint}
    (same : thread = .handler (.controller login request (.connect target point)))
    (present : pool.threads[self]? = some thread)
    (sound : CoordinatorSound (Serves pool) pool.shared.coordinator)
    (known : SignalAssertion netip start past (Serves pool) self thread)
    {choice : Signaling.Choice} {step : Signaling.CallStep Signaling.ConnectPoint}
    (taken : Signaling.planHandleConnectRequest netip pool.shared.coordinator
      (connectRequest pool.shared self login request)
      (pool.shared.authorize login.deviceID request.targetDeviceID choice) point = some step) :
    SignalStep netip start past pool self (.signal choice) thread
      (.coordinate step.coordinator step.sent)
      (.handler (resumeConnect login request target step.next)) := by
  have before := known.connecting login request target point same
  have stepped := Signaling.planHandleConnectRequest_step taken
    (before.mono (fun _ named => named) fun _ _ asked =>
      asked.later (.advance self (.signal choice)))
    (fun peer there => sound.peers _ peer there)
    (fun candidates peer at_ answered => by
      subst at_
      exact ⟨[], asked_now run present same (authorize_true answered) _⟩)
  refine ⟨⟨fun deviceID peer found => ?_, fun sessionID session found => ?_⟩, ?_,
    fun role deviceID serving => ?_, fun writer message written => ?_⟩
  · change step.coordinator.peers.lookup deviceID = some peer at found
    rw [stepped.peers] at found
    exact sound.peers deviceID peer found
  · rcases stepped.sessions sessionID session found with
      old | ⟨peer, ⟨writer, writes, serving⟩, rfl⟩
    · exact sound.sessions sessionID session old
    · exact ⟨rfl, ⟨self, rfl, thread, present, by rw [same]; exact ⟨rfl, rfl⟩⟩,
        writer, writes, serving⟩
  · cases answered : step.next with
    | returned result =>
        cases result with
        | error => exact idle_assertion rfl
        | ok resp =>
            have type := stepped.answer resp answered
            simp only [resumeConnect]
            split
            · rename_i refused
              exact idle_assertion (by simp [HandlerPoint.idle, Signaling.ordinary, refused])
            · rename_i responded
              refine idle_assertion ?_
              simp [HandlerPoint.idle, Signaling.ordinary, type.resolve_left responded]
    | _ =>
        have later := stepped.known
        rw [answered] at later
        refine ⟨fun one received other at_ equal => ?_, fun _ _ _ equal => (by cases equal),
          fun _ member => (by cases member)⟩
        cases equal
        exact later
  · rw [same] at serving
    unfold resumeConnect
    repeat' split
    all_goals first | exact serving | trivial
  · simp only [Action.writes, List.mem_map, Option.mem_toList] at written
    rcases written with ⟨one, member, equal⟩
    cases equal
    rcases stepped.sent one member with
      quiet | ⟨candidates, peer, sessionID, token, rfl, writes, text⟩
    · exact .inl quiet
    · refine .inr ⟨fun _ => ?_, fun type => ?_⟩
      · exact ⟨login, request, target, candidates, peer, sessionID, token, same, writes,
          by rw [text]; rfl, by rw [text]; rfl, before.2⟩
      · rw [text] at type
        cases type

theorem planController_signals
    (run : (program netip).machine.Run Machine.Unrestricted start past pool) {login : Login}
    {request : ControlMessage} {point : ControllerPoint} {after : HandlerPoint}
    (same : thread = .handler (.controller login request point))
    (present : pool.threads[self]? = some thread)
    (sound : CoordinatorSound (Serves pool) pool.shared.coordinator)
    (known : SignalAssertion netip start past (Serves pool) self thread)
    (planned : planController netip pool.shared self login request choice point =
      some (action, after)) :
    SignalStep netip start past pool self choice thread action (.handler after) := by
  have keeps : ∀ at_ : ControllerPoint, ∀ role deviceID, thread.Serves role deviceID →
      (Thread.handler (.controller login request at_)).Serves role deviceID := by
    intro at_ role deviceID serving
    rw [same] at serving
    exact serving
  cases point with
  | authorize | findTarget | enroll =>
      simp only [planController] at planned
      repeat' split at planned
      all_goals cases planned
      all_goals exact .still sound rfl rfl (by first | exact keeps _ | exact fun _ _ _ => trivial)
  | connect target point =>
      cases choice <;> simp only [planController, reduceCtorEq, Option.map_eq_some_iff] at planned
      rcases planned with ⟨step, taken, equal⟩
      cases equal
      exact connect_signals run same present sound known taken
  | registerRoute target resp =>
      cases planned
      exact .still sound rfl (known.pending resp (by rw [same]; rfl)) (keeps _)
  | respond target resp =>
      simp only [planController, Option.map_eq_some_iff] at planned
      rcases planned with ⟨⟨written, delivered⟩, writes, equal⟩
      cases equal
      have quiet := write_mute writes (known.pending resp (by rw [same]; rfl))
      cases delivered <;> exact .still sound quiet rfl (keeps _)
  | controlLoop target sessionID =>
      simp only [planController] at planned
      split at planned <;> cases planned
      · rename_i ctrlMsg
        refine .still sound rfl ?_ (keeps _)
        by_cases ping : ctrlMsg.type = .ping
        · rw [if_pos ping]
          rfl
        · rw [if_neg ping]
          split <;> rfl
      · exact .still sound rfl rfl (keeps _)
  | pong target sessionID =>
      simp only [planController, Option.map_eq_some_iff] at planned
      rcases planned with ⟨⟨written, delivered⟩, writes, equal⟩
      cases equal
      exact .still sound (write_mute writes rfl) rfl (keeps _)
  | forward target sessionID message point =>
      cases point with
      | returned _ =>
          cases planned
          exact .still sound rfl rfl (keeps _)
      | start | lookup | authorize | write =>
          simp only [planController, Option.map_eq_some_iff] at planned
          rcases planned with ⟨⟨forwarded, later⟩, forwards, equal⟩
          cases equal
          refine forward_signals run present sound known (by rw [same]; rfl) forwards ?_ rfl
            (keeps _)
          -- A controller's connection is the target of no session.
          intro valid _ session there own
          rcases (sound.sessions _ session there).2.target with ⟨writer, writes, one, here, serving⟩
          rw [own, Option.some.injEq] at writes
          rw [← writes, present, Option.some.injEq] at here
          rw [← here, same] at serving
          cases serving.1
  | closeSession target sessionID point =>
      cases point with
      | returned =>
          cases planned
          exact .still sound rfl rfl (keeps _)
      | lock | notify =>
          cases choice <;>
            simp only [planController, reduceCtorEq, Option.map_eq_some_iff] at planned
          rcases planned with ⟨step, taken, equal⟩
          cases equal
          refine .coordinate (sound.fewer (fun deviceID peer found => ?_)
            (Signaling.planCloseSession_subset taken)) (Signaling.planCloseSession_sent taken) rfl (keeps _)
          rw [Signaling.planCloseSession_peers taken] at found
          exact found
  | unregisterRoute target sessionID =>
      cases planned
      exact .still sound rfl rfl fun _ _ _ => trivial

theorem planAgent_signals
    (run : (program netip).machine.Run Machine.Unrestricted start past pool) {login : Login}
    {register : ControlMessage} {point : AgentPoint} {after : HandlerPoint}
    (same : thread = .handler (.agent login register point))
    (present : pool.threads[self]? = some thread)
    (sound : CoordinatorSound (Serves pool) pool.shared.coordinator)
    (known : SignalAssertion netip start past (Serves pool) self thread)
    (twoDevices : thread.TwoDevices pool.shared self)
    (planned : planAgent netip pool.shared self login register choice point =
      some (action, after)) :
    SignalStep netip start past pool self choice thread action (.handler after) := by
  have keeps : ∀ at_ : AgentPoint, ∀ role deviceID, thread.Serves role deviceID →
      (Thread.handler (.agent login register at_)).Serves role deviceID := by
    intro at_ role deviceID serving
    rw [same] at serving
    exact serving
  cases point with
  | portAssign publicPort =>
      simp only [planAgent, Option.map_eq_some_iff] at planned
      rcases planned with ⟨⟨written, delivered⟩, writes, equal⟩
      cases equal
      exact .still sound (write_mute writes rfl) rfl (keeps _)
  | reply publicPort message =>
      simp only [planAgent, Option.map_eq_some_iff] at planned
      rcases planned with ⟨⟨written, delivered⟩, writes, equal⟩
      cases equal
      exact .still sound (write_mute writes (known.pending message (by rw [same]; rfl))) rfl
        (keeps _)
  | controlLoop publicPort =>
      simp only [planAgent] at planned
      split at planned <;> cases planned
      · refine .still sound rfl ?_ (keeps _)
        unfold dispatch
        repeat' split
        all_goals rfl
      · exact .still sound rfl rfl (keeps _)
  | forward publicPort message point =>
      have two : ∀ valid, point = .lookup valid →
          ∀ session ∈ pool.shared.coordinator.sessions.lookup message.sessionID,
            session.targetWriter = some self → session.controllerID ≠ session.targetID := by
        rintro valid rfl
        rw [same] at twoDevices
        exact twoDevices
      cases point with
      | returned _ =>
          cases planned
          exact .still sound rfl rfl (keeps _)
      | start | lookup | authorize | write =>
          simp only [planAgent, Option.map_eq_some_iff] at planned
          rcases planned with ⟨⟨forwarded, later⟩, forwards, equal⟩
          cases equal
          exact forward_signals run present sound known (by rw [same]; rfl) forwards two rfl
            (keeps _)
  | registerPeer publicPort =>
      cases planned
      refine .coordinate ⟨fun deviceID peer found => ?_, sound.sessions⟩
        (fun _ none => by cases none) rfl (keeps _)
      simp only [Signaling.registerPeer, SessionCoordinator.setPeer] at found
      by_cases own : deviceID = login.deviceID
      · subst own
        rw [AList.lookup_insert, Option.some.injEq] at found
        rw [← found]
        exact ⟨self, rfl, thread, present, by rw [same]; exact ⟨rfl, rfl⟩⟩
      · rw [AList.lookup_insert_ne own] at found
        exact sound.peers deviceID peer found
  | unregisterPeer publicPort point =>
      cases point with
      | returned _ =>
          cases planned
          exact .still sound rfl rfl (keeps _)
      | lock | notify =>
          cases choice <;> simp only [planAgent, reduceCtorEq, Option.map_eq_some_iff] at planned
          rcases planned with ⟨step, taken, equal⟩
          cases equal
          refine .coordinate (sound.fewer (fun deviceID peer found => ?_)
            fun _ _ found => (Signaling.planUnregisterPeer_sessions taken found).1)
            (Signaling.planUnregisterPeer_sent taken) rfl (keeps _)
          rcases Signaling.planUnregisterPeer_peers taken with ⟨_, _, peers⟩ | ⟨_, _, peers⟩
          · rw [peers, Tables.dropPeer_lookup] at found
            split at found
            · cases found
            · exact found
          · rw [peers] at found
            exact found
  | allocatePort | findExisting | closeExisting | persist | listenTCP | listenUDP
  | registerOnline | unregisterOnline | close =>
      simp only [planAgent] at planned
      repeat' split at planned
      all_goals cases planned
      all_goals exact .still sound rfl rfl (by first | exact keeps _ | exact fun _ _ _ => trivial)

theorem console_assertion {serves : Nat → Role → GoString → Prop}
    (console : thread.isHandler = false) :
    SignalAssertion netip start past serves self thread := by
  cases thread with
  | handler => cases console
  | deleteDevice | disconnectDevice | toggleDevice | editInvitation | updateAccessPolicy =>
      refine ⟨fun _ _ _ _ same => ?_, fun _ _ _ same => ?_, fun _ member => ?_⟩
      · cases same
      · cases same
      · cases member

theorem plan_signals (run : (program netip).machine.Run Machine.Unrestricted start past pool)
    (present : pool.threads[self]? = some thread)
    (sound : CoordinatorSound (Serves pool) pool.shared.coordinator)
    (known : SignalAssertion netip start past (Serves pool) self thread)
    (twoDevices : thread.TwoDevices pool.shared self)
    (planned : plan netip pool.shared self choice thread = some (action, next)) :
    SignalStep netip start past pool self choice thread action next := by
  rcases plan_step planned with ⟨point, after, rfl, rfl, stepped⟩ | ⟨console, still, _⟩
  · cases point with
    | auth point =>
        rcases planAuth_signals stepped with ⟨mute, idle⟩
        exact .still sound mute idle (fun _ _ wrong => by cases wrong)
    | controller login request point =>
        exact planController_signals run rfl present sound known stepped
    | agent login register point =>
        exact planAgent_signals run rfl present sound known twoDevices stepped
    | refuse message =>
        simp only [planHandler, Option.map_eq_some_iff] at stepped
        rcases stepped with ⟨⟨written, delivered⟩, writes, equal⟩
        cases equal
        exact .still sound (write_mute writes (known.pending message rfl)) rfl fun _ _ _ => trivial
    | finished => cases stepped
  · have mute : action.mute = true := by
      have taken := plan_console planned console
      cases action <;> first | rfl | cases taken
    refine ⟨?_, console_assertion still, ?_, fun _ _ written => .inl (mute_writes mute written)⟩
    · rw [mute_coordinator mute]
      exact sound
    · intro role deviceID serving
      cases thread <;> first | cases console; done | cases serving

end Handlers

/-! ## Runs -/

section Runs

variable {netip : Signaling.Netip} {start pool : RelayPool}
  {past : List (PoolEvent Thread Choice)} {self : Nat} {choice : Choice} {action : Action}
  {thread next : Thread} {session : ActiveSession}

structure Signaled (netip : Signaling.Netip) (start : RelayPool)
    (past : List (PoolEvent Thread Choice)) (pool : RelayPool) : Prop where
  coordinator : CoordinatorSound (Serves pool) pool.shared.coordinator
  thread : ∀ (own : Nat) (thread : Thread), pool.threads[own]? = some thread →
    SignalAssertion netip start past (Serves pool) own thread

theorem serves_start (added : Thread) {writer : Nat} {role : Role} {deviceID : GoString}
    (serves : Serves pool writer role deviceID) :
    Serves (pool.start added) writer role deviceID := by
  rcases serves with ⟨one, present, serving⟩
  exact ⟨one, Pool.start_old present added, serving⟩

theorem serves_update (present : pool.threads[self]? = some thread) {shared : AgentManager}
    (keeps : ∀ role deviceID, thread.Serves role deviceID → next.Serves role deviceID)
    {writer : Nat} {role : Role} {deviceID : GoString}
    (serves : Serves pool writer role deviceID) :
    Serves (pool.update self shared next) writer role deviceID := by
  rcases serves with ⟨one, there, serving⟩
  by_cases same : writer = self
  · subst same
    rw [present, Option.some.injEq] at there
    exact ⟨next, Pool.update_self present _ _, keeps role deviceID (there ▸ serving)⟩
  · exact ⟨one, (Pool.update_other pool same _ _).trans there, serving⟩

theorem Signaled.spawn (signaled : Signaled netip start past pool) {added : Thread}
    (enters : entry added = true) :
    Signaled netip start (past ++ [.spawn added]) (pool.start added) := by
  refine ⟨signaled.coordinator.mono fun _ _ _ => serves_start added, fun own one found => ?_⟩
  rcases Pool.start_cases found with old | ⟨_, rfl⟩
  · exact ((signaled.thread own one old).mono fun _ _ _ => serves_start added).later
      fun _ => by simp
  · cases one with
    | handler point =>
        simp only [entry, decide_eq_true_eq] at enters
        rw [enters]
        exact idle_assertion rfl
    | _ => exact console_assertion rfl

theorem Signaled.advance (signaled : Signaled netip start past pool)
    (present : pool.threads[self]? = some thread)
    (step : SignalStep netip start past pool self choice thread action next) :
    Signaled netip start (past ++ [.advance self choice])
      (pool.update self (action.apply self pool.shared) next) := by
  have keeps : ∀ writer role deviceID, Serves pool writer role deviceID →
      Serves (pool.update self (action.apply self pool.shared) next) writer role deviceID :=
    fun _ _ _ => serves_update present step.serves
  refine ⟨step.coordinator.mono keeps, fun own one found => ?_⟩
  by_cases same : own = self
  · subst same
    rw [Pool.update_self present, Option.some.injEq] at found
    subst found
    exact step.known.mono keeps
  · rw [Pool.update_other pool same] at found
    refine ((signaled.thread own one found).mono keeps).later fun other equal => ?_
    cases equal
    exact same rfl

theorem plan_forward {m : AgentManager} {deviceID : GoString} {received : ControlMessage}
    {point : Signaling.ForwardPoint}
    (planned : plan netip m self choice thread = some (action, next))
    (forwards : thread.forwarding? = some (deviceID, received, point))
    (inside : ∀ err, point ≠ .returned err) :
    ∃ later, planForward netip m received deviceID choice point = some (action, later) ∧
      next.forwarding? = some (deviceID, received, later) := by
  cases thread with
  | handler handler =>
      simp only [plan, Option.map_eq_some_iff] at planned
      rcases planned with ⟨⟨inner, after⟩, stepped, equal⟩
      cases equal
      cases handler with
      | controller login request at_ =>
          cases at_ <;> cases forwards
          cases point with
          | returned err => exact absurd rfl (inside err)
          | start | lookup | authorize | write =>
              simp only [planHandler, planController, Option.map_eq_some_iff] at stepped
              rcases stepped with ⟨⟨written, later⟩, forwarded, equal⟩
              cases equal
              exact ⟨later, forwarded, rfl⟩
      | agent login register at_ =>
          cases at_ <;> cases forwards
          cases point with
          | returned err => exact absurd rfl (inside err)
          | start | lookup | authorize | write =>
              simp only [planHandler, planAgent, Option.map_eq_some_iff] at stepped
              rcases stepped with ⟨⟨written, later⟩, forwarded, equal⟩
              cases equal
              exact ⟨later, forwarded, rfl⟩
      | _ => cases forwards
  | _ => cases forwards

theorem counterpart_other (sound : SessionSound (Serves pool) session)
    (present : pool.threads[self]? = some thread) {deviceID : GoString} {received : ControlMessage}
    {point : Signaling.ForwardPoint}
    (forwards : thread.forwarding? = some (deviceID, received, point))
    (two : session.targetWriter = some self → session.controllerID ≠ session.targetID)
    {other : GoString}
    (own : session.controllerWriter = some self ∧ other = session.targetID ∨
      session.targetWriter = some self ∧ other = session.controllerID) :
    (session.counterpart deviceID).1 = other ∧ (session.counterpart deviceID).2 ≠ none := by
  rcases sound.controller with ⟨first, writes, controls⟩
  rcases sound.target with ⟨second, reads, targets⟩
  unfold ActiveSession.counterpart
  rcases own with ⟨mine, rfl⟩ | ⟨mine, rfl⟩
  · rw [mine, Option.some.injEq] at writes
    subst writes
    rw [if_pos (forwarding_serves present forwards controls).symm, reads]
    exact ⟨rfl, by simp⟩
  · have apart := two mine
    rw [mine, Option.some.injEq] at reads
    subst reads
    have same := forwarding_serves present forwards targets
    rw [if_neg (by rw [← same]; exact Ne.symm apart), if_pos same.symm, writes]
    exact ⟨rfl, by simp⟩

theorem delivers_step (present : pool.threads[self]? = some thread)
    (signaled : Signaled netip start past pool) (two : thread.TwoDevices pool.shared self)
    (planned : plan netip pool.shared self choice thread = some (action, next)) :
    Delivers pool self thread action next where
  found deviceID received candidates session forwards there named own := by
    rcases signaled.coordinator.sessions _ session there with ⟨_, sound⟩
    rcases plan_forward planned forwards (by simp) with ⟨later, forwarded, goesOn⟩
    have apart : session.targetWriter = some self → session.controllerID ≠ session.targetID := by
      intro mine
      rcases sound.target with ⟨writer, writes, one, here, serving⟩
      rw [mine, Option.some.injEq] at writes
      rw [← writes, present, Option.some.injEq] at here
      subst here
      cases thread with
      | handler handler =>
          cases handler with
          | controller => cases serving.1
          | agent login register at_ =>
              cases at_ <;> cases forwards
              exact two session there mine
          | _ => cases forwards
      | _ => cases forwards
    rcases counterpart_other sound present forwards apart own with ⟨expected, side⟩
    rw [goesOn]
    cases choice <;> simp only [planForward, reduceCtorEq, Option.map_eq_some_iff] at forwarded
    rcases forwarded with ⟨step, taken, equal⟩
    cases equal
    simp only [Signaling.planForwardCandidateExchange, there] at taken
    rw [if_neg (by simp [side, expected, named]), if_neg (by simp [expected])] at taken
    cases taken
    rfl
  allowed deviceID received candidates session forwards may := by
    rcases plan_forward planned forwards (by simp) with ⟨later, forwarded, goesOn⟩
    rw [goesOn]
    cases choice <;> simp only [planForward, reduceCtorEq, Option.map_eq_some_iff] at forwarded
    rcases forwarded with ⟨step, taken, equal⟩
    cases equal
    simp only [Signaling.planForwardCandidateExchange] at taken
    split at taken
    · rename_i answer answered
      have yes : answer = true := by
        rename_i asked _
        cases asked <;> simp only [AgentManager.authorize, reduceCtorEq,
          Signaling.Choice.authorized.injEq] at answered
        rw [← answered, may]
      rw [yes] at taken
      cases taken
      rfl
    · cases taken
  written deviceID received candidates session forwards := by
    have side := ((signaled.thread self thread present).forwarding _ _ _ forwards).1.side
    rcases Option.ne_none_iff_exists'.mp side with ⟨writer, there⟩
    rcases plan_forward planned forwards (by simp) with ⟨later, forwarded, _⟩
    cases choice with
    | signal choice =>
        simp only [planForward, Option.map_eq_some_iff] at forwarded
        rcases forwarded with ⟨step, taken, equal⟩
        cases equal
        simp only [Signaling.planForwardCandidateExchange, Option.map_eq_some_iff] at taken
        rcases taken with ⟨⟨sent, delivered⟩, written, rfl⟩
        rw [there] at written
        cases choice <;> cases written <;> exact ⟨writer, rfl⟩
    | _ => cases forwarded

/-- What the handlers know in every run in which no agent sends candidates for a session
that its own device controls. -/
theorem signaled_of_run (quiet : pool.threads = [])
    (fresh : pool.shared.coordinator.peers = ∅ ∧ pool.shared.coordinator.sessions = ∅)
    {finish : RelayPool} {events : List (PoolEvent Thread Choice)}
    (run : (program netip).machine.Run TwoDevices pool events finish) :
    Signaled netip pool events finish := by
  have initially : Signaled netip pool [] pool := by
    refine ⟨⟨fun deviceID peer found => ?_, fun sessionID session found => ?_⟩,
      fun own thread present => ?_⟩
    · rw [fresh.1] at found
      cases found
    · rw [fresh.2] at found
      cases found
    · rw [quiet] at present
      cases present
  refine run.invariant initially fun past middle event next ran signaled two taken => ?_
  rcases Program.step_cases taken with
    ⟨thread, rfl, enters, rfl⟩ | ⟨self, choice, thread, moved, later, rfl, present, step, rfl⟩
  · exact signaled.spawn enters
  · simp only [program, Option.map_eq_some_iff] at step
    rcases step with ⟨⟨action, after⟩, planned, equal⟩
    cases equal
    exact signaled.advance present (plan_signals (ran.weaken fun _ _ _ => trivial) present
      signaled.coordinator (signaled.thread self thread present) (two thread present) planned)

/-- A CONNECT_NOTIFY is written within a request that the policy allowed, and a
CANDIDATE_EXCHANGE right after the policy allowed it and to the other connection of its
session: in every run in which no agent sends candidates for a session that its own
device controls. -/
theorem signaling_is_proper {db : Database} {portManager : PortManager}
    {nanoseconds : UInt32} {policy : AccessPolicy} {publicHost : GoString}
    {invitations : List (GoString × GoString × Time)} {events : List (PoolEvent Thread Choice)}
    (run : (program netip).machine.Run TwoDevices
      (initialPool (newAgentManager db portManager nanoseconds policy publicHost invitations))
      events pool)
    (permitted : TwoDevices pool (.advance self choice))
    (present : pool.threads[self]? = some thread)
    (planned : plan netip pool.shared self choice thread = some (action, next)) :
    (∀ writer message, (writer, message) ∈ action.writes self →
      Proper netip
        (initialPool (newAgentManager db portManager nanoseconds policy publicHost invitations))
        events self thread writer message) ∧
    Delivers pool self thread action next := by
  have signaled := signaled_of_run rfl ⟨rfl, rfl⟩ run
  have two := permitted thread present
  have step := plan_signals (run.weaken fun _ _ _ => trivial) present signaled.coordinator
    (signaled.thread self thread present) two planned
  refine ⟨fun writer message written => ?_, delivers_step present signaled two planned⟩
  rcases step.proper writer message written with quiet | proper
  · refine ⟨fun type => ?_, fun type => ?_⟩ <;> simp [Signaling.ordinary, type] at quiet
  · exact proper

end Runs

/-! ## Runs that were found -/

def exchangeFor (controllerID : GoString) : ControlMessage where
  type := .candidateExchange
  targetDeviceID := controllerID
  sessionID := 0x80000001

def aboutToForward (controllerID : GoString) : Thread :=
  .handler (.agent ⟨[65], [7], [], false⟩ { type := .register } (.forward 10
    (exchangeFor controllerID) (.write [] ⟨0x80000001, controllerID, [65], some 1, some 0⟩)))

def forwards (controllerID : GoString) : List Choice :=
  [.receive (exchangeFor controllerID), .signal .proceed, .signal .proceed,
    .signal (.authorized true)]

theorem signaling_is_proper_forwarded :
    ∃ events pool action next,
      (program noCandidates).machine.Run TwoDevices openRelay events pool ∧
      plan noCandidates pool.shared 0 (.signal .written) (aboutToForward [66]) =
        some (action, next) ∧
      (∀ writer message, (writer, message) ∈ action.writes 0 →
        Proper noCandidates openRelay events 0 (aboutToForward [66]) writer message) ∧
      ∃ message, action.writes 0 = [(1, message)] := by
  rcases (program noCandidates).machine.exists_run TwoDevices
    (fun pool => pool.threads[0]? = some (aboutToForward [66])) openRelay
    ([newConnection, newConnection] ++ turn 0 (signsIn ++ comesOnline ++ becomesPeer) ++
      turn 1 (findsTarget ++ coordinates ++ [.proceed]) ++ turn 0 (forwards [66]))
    (by decide +kernel) with ⟨pool, run, present⟩
  have permitted : TwoDevices pool (.advance 0 (.signal .written)) := by
    intro thread there
    rw [present] at there
    cases there
    trivial
  refine ⟨_, pool, _, _, run, rfl, ?_, _, rfl⟩
  exact (signaling_is_proper run permitted present rfl).1

def findsItself : List Choice :=
  signsIn ++ [.receive { type := .connectRequest, targetDeviceID := [65] }, .proceed, .proceed]

/-- "A" controls "A". What its agent sends to the controller comes back to the agent. -/
theorem exchange_comes_back :
    ∃ events pool action next message,
      (program noCandidates).machine.Run Machine.Unrestricted openRelay events pool ∧
      pool.shared.coordinator.sessions.lookup 0x80000001 =
        some ⟨0x80000001, [65], [65], some 1, some 0⟩ ∧
      pool.threads[0]? = some (aboutToForward [65]) ∧
      plan noCandidates pool.shared 0 (.signal .written) (aboutToForward [65]) =
        some (action, next) ∧
      action.writes 0 = [(0, message)] ∧ message.type = .candidateExchange ∧
      ¬Proper noCandidates openRelay events 0 (aboutToForward [65]) 0 message := by
  rcases (program noCandidates).machine.exists_run Machine.Unrestricted
    (fun pool => pool.shared.coordinator.sessions.lookup 0x80000001 =
        some ⟨0x80000001, [65], [65], some 1, some 0⟩ ∧
      pool.threads[0]? = some (aboutToForward [65])) openRelay
    ([newConnection, newConnection] ++ turn 0 (signsIn ++ comesOnline ++ becomesPeer) ++
      turn 1 (findsItself ++ coordinates ++ [.proceed]) ++ turn 0 (forwards [65]))
    (by decide +kernel) with ⟨pool, run, session, present⟩
  refine ⟨_, pool, _, _, _, run, session, present, rfl, rfl, rfl, fun proper => ?_⟩
  rcases proper.exchange rfl with ⟨_, _, _, _, _, _, _, _, _, _, _, apart⟩
  exact apart rfl

end Rdpulse.Relay
