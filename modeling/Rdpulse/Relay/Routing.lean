import Rdpulse.Relay.Lookups

namespace Rdpulse.Relay

open Foundation Protocol Storage

/-! The agent connection that a controller is routed to, and the one that is told of
the controller. The handler finds the first among the online sessions; the coordinator
finds the second among its peers, later and under another lock. -/

structure Notifies (login : Login) (request : ControlMessage) (sessionID : UInt32)
    (token : GoString) (message : ControlMessage) : Prop where
  type : message.type = .connectNotify
  deviceID : message.deviceID = login.deviceID
  targetDeviceID : message.targetDeviceID = request.targetDeviceID
  sessionID : message.sessionID = sessionID
  token : message.sessionToken = token

/-- The agent connection with this writer has received the CONNECT_NOTIFY. -/
def Notified (m : AgentManager) (writer : Nat) (login : Login) (request : ControlMessage)
    (sessionID : UInt32) (token : GoString) : Prop :=
  ∃ notify, (writer, .sent notify true) ∈ m.transcript ∧
    Notifies login request sessionID token notify

/-- The session on which a handler has registered its controller route, with the
session id. -/
def ControllerPoint.route? : ControllerPoint → Option (AgentSession × UInt32)
  | .respond target resp => some (target, resp.sessionID)
  | .controlLoop target sessionID | .pong target sessionID | .forward target sessionID _ _
  | .closeSession target sessionID _ | .unregisterRoute target sessionID =>
      some (target, sessionID)
  | _ => none

def HandlerPoint.route? : HandlerPoint → Option (AgentSession × UInt32)
  | .controller _ _ point => point.route?
  | _ => none

def Thread.route? : Thread → Option (AgentSession × UInt32)
  | .handler point => point.route?
  | _ => none

/-- Routes and notifications name the same agent connections. -/
structure RoutesNotified (pool : RelayPool) : Prop where
  /-- A CONNECT_NOTIFY goes to the session on which its handler will route. -/
  notify : ∀ (self : Nat) (login : Login) (request : ControlMessage) (target : AgentSession)
    (candidates : List CandidateInfo) (peer : Signaling.Target) (sessionID : UInt32)
    (token : GoString),
    pool.threads[self]? = some (.handler (.controller login request
      (.connect target (.notify candidates peer sessionID token)))) →
    peer.writer = some target.writer
  /-- A CONNECT_RESPONSE is for a session that the routed connection was told of. -/
  respond : ∀ (self : Nat) (login : Login) (request : ControlMessage) (target : AgentSession)
    (resp : ControlMessage),
    pool.threads[self]? = some (.handler (.controller login request (.respond target resp))) →
    resp.type = .connectResponse ∧
      Notified pool.shared target.writer login request resp.sessionID resp.sessionToken
  /-- So is every route, as long as it is registered. -/
  route : ∀ (writer : Nat) (sessionID : UInt32) (self : Nat),
    pool.shared.controllerRoutes.lookup (writer, sessionID) = some self →
    ∃ login request point target token,
      pool.threads[self]? = some (.handler (.controller login request point)) ∧
      point.route? = some (target, sessionID) ∧ target.writer = writer ∧
      Notified pool.shared writer login request sessionID token

/-! ## The coordinator's part -/

def Names (writer : Nat) : Signaling.ConnectPoint → Prop
  | .authorize _ _ (some target) => target.writer = some writer
  | .number _ target | .draw _ target _ | .insert _ target _ _ | .notify _ target _ _ =>
      target.writer = some writer
  | _ => True

variable {netip : Signaling.Netip}

theorem planHandleConnectRequest_names {c : Signaling.SessionCoordinator}
    {request : Signaling.ConnectRequest} {choice : Signaling.Choice}
    {point : Signaling.ConnectPoint} {step : Signaling.CallStep Signaling.ConnectPoint}
    {writer : Nat}
    (planned : Signaling.planHandleConnectRequest netip c request choice point = some step)
    (names : Names writer point)
    (found : ∀ candidates, point = .lookup candidates →
      ∀ peer ∈ c.peers.lookup request.req.targetDeviceID, peer.writer = some writer) :
    Names writer step.next ∧
      ∀ resp, step.next = .returned (.ok resp) → resp.type ≠ .error →
        ∃ candidates target sessionID token,
          step.sent =
            some ⟨writer, Signaling.connectNotify request candidates sessionID token, true⟩ ∧
          resp = Signaling.connectResponse request target sessionID token := by
  cases point with
  | start =>
      simp only [Signaling.planHandleConnectRequest] at planned
      repeat' split at planned
      all_goals cases planned
      · exact ⟨trivial, fun _ same => by cases same⟩
      · exact ⟨trivial, fun resp same refused => absurd (by cases same; rfl) refused⟩
      · exact ⟨trivial, fun _ same => by cases same⟩
  | lookup candidates =>
      cases planned
      refine ⟨?_, fun _ same => by cases same⟩
      cases present : c.peers.lookup request.req.targetDeviceID with
      | none => trivial
      | some peer => exact found candidates rfl peer present
  | authorize candidates authorizes target =>
      simp only [Signaling.planHandleConnectRequest] at planned
      repeat' split at planned
      all_goals cases planned
      · exact ⟨trivial, fun resp same refused => absurd (by cases same; rfl) refused⟩
      · exact ⟨names, fun _ same => by cases same⟩
      · exact ⟨trivial, fun resp same refused => absurd (by cases same; rfl) refused⟩
      · exact ⟨trivial, fun resp same refused => absurd (by cases same; rfl) refused⟩
  | number candidates target =>
      cases planned
      exact ⟨names, fun _ same => by cases same⟩
  | draw candidates target sessionID =>
      simp only [Signaling.planHandleConnectRequest] at planned
      split at planned <;> cases planned
      · exact ⟨names, fun _ same => by cases same⟩
      · exact ⟨trivial, fun _ same => by cases same⟩
  | insert candidates target sessionID token =>
      simp only [Signaling.planHandleConnectRequest] at planned
      split at planned <;> cases planned
      · exact ⟨trivial, fun resp same refused => absurd (by cases same; rfl) refused⟩
      · exact ⟨names, fun _ same => by cases same⟩
  | notify candidates target sessionID token =>
      simp only [Signaling.planHandleConnectRequest, Option.map_eq_some_iff] at planned
      rcases planned with ⟨⟨sent, delivered⟩, written, rfl⟩
      have writes : target.writer = some writer := names
      rw [writes] at written
      cases choice with
      | written =>
          cases written
          exact ⟨trivial, fun resp same _ =>
            ⟨candidates, target, sessionID, token, rfl, by cases same; rfl⟩⟩
      | fail =>
          cases written
          exact ⟨trivial, fun _ same => by cases same⟩
      | _ => cases written
  | rollback sessionID point =>
      simp only [Signaling.planHandleConnectRequest, Option.map_eq_some_iff] at planned
      rcases planned with ⟨inner, _, rfl⟩
      cases inner.next <;> exact ⟨trivial, fun _ same => by cases same⟩
  | returned => cases planned

/-! ## One step of a handler -/

variable {m : AgentManager} {self : Nat} {choice : Choice} {action : Action}

theorem apply_transcript {entry : Nat × Line} (recorded : entry ∈ m.transcript) :
    entry ∈ (action.apply self m).transcript := by
  cases action with
  | receive | send | coordinate => exact List.mem_append_left _ recorded
  | registerOnline session =>
      simp only [Action.apply, AgentManager.registerOnline, AgentManager.closeOld]
      split <;> exact recorded
  | removeOnline session =>
      simp only [Action.apply, AgentManager.removeOnline]
      split <;> exact recorded
  | removeDevice deviceID =>
      simp only [Action.apply, AgentManager.removeDevice]
      split <;> exact recorded
  | unregisterControllerRoute target sessionID =>
      simp only [Action.apply]
      split <;> exact recorded
  | _ => exact recorded

theorem Notified.later {writer : Nat} {login : Login} {request : ControlMessage}
    {sessionID : UInt32} {token : GoString}
    (notified : Notified m writer login request sessionID token) :
    Notified (action.apply self m) writer login request sessionID token := by
  rcases notified with ⟨notify, recorded, notifies⟩
  exact ⟨notify, apply_transcript recorded, notifies⟩

def ControllerPoint.RouteAssertion (m : AgentManager) (login : Login) (request : ControlMessage) :
    ControllerPoint → Prop
  | .connect target point => Names target.writer point
  | .registerRoute target resp | .respond target resp =>
      resp.type = .connectResponse ∧
        Notified m target.writer login request resp.sessionID resp.sessionToken
  | .controlLoop target sessionID | .pong target sessionID | .forward target sessionID _ _
  | .closeSession target sessionID _ | .unregisterRoute target sessionID =>
      ∃ token, Notified m target.writer login request sessionID token
  | .authorize | .enroll | .findTarget => True

def HandlerPoint.RouteAssertion (m : AgentManager) : HandlerPoint → Prop
  | .controller login request point => point.RouteAssertion m login request
  | _ => True

def Thread.RouteAssertion (m : AgentManager) : Thread → Prop
  | .handler point => point.RouteAssertion m
  | _ => True

theorem Thread.RouteAssertion.later {thread : Thread} (known : thread.RouteAssertion m) :
    thread.RouteAssertion (action.apply self m) := by
  cases thread with
  | handler point =>
      cases point with
      | controller login request point =>
          cases point with
          | connect | authorize | enroll | findTarget => exact known
          | registerRoute | respond => exact ⟨known.1, known.2.later⟩
          | controlLoop | pong | forward | closeSession | unregisterRoute =>
              rcases known with ⟨token, notified⟩
              exact ⟨token, notified.later⟩
      | _ => trivial
  | _ => trivial

inductive RouteStep (self : Nat) (m next : AgentManager) :
    Option (AgentSession × UInt32) → Option (AgentSession × UInt32) → Prop
  | stay {route} (same : next.controllerRoutes = m.controllerRoutes) :
      RouteStep self m next route route
  | register {target sessionID} (inserted : next.controllerRoutes =
      m.controllerRoutes.insert (target.writer, sessionID) self) :
      RouteStep self m next none (some (target, sessionID))
  | unregister {target sessionID} (erased : next.controllerRoutes =
      if m.controllerRoutes.lookup (target.writer, sessionID) = some self then
        m.controllerRoutes.erase (target.writer, sessionID)
      else m.controllerRoutes) :
      RouteStep self m next (some (target, sessionID)) none

def Action.routes : Action → Bool
  | .registerControllerRoute _ _ | .unregisterControllerRoute _ _ => true
  | _ => false

theorem apply_controllerRoutes (other : action.routes = false) :
    (action.apply self m).controllerRoutes = m.controllerRoutes := by
  cases action with
  | registerOnline session =>
      simp only [Action.apply, AgentManager.registerOnline, AgentManager.closeOld]
      split <;> rfl
  | removeOnline session =>
      simp only [Action.apply, AgentManager.removeOnline]
      split <;> rfl
  | removeDevice deviceID =>
      simp only [Action.apply, AgentManager.removeDevice]
      split <;> rfl
  | registerControllerRoute | unregisterControllerRoute => cases other
  | _ => rfl

def HandlerPoint.unrouted : HandlerPoint → Bool
  | .controller _ _ .authorize | .controller _ _ .enroll | .controller _ _ .findTarget => true
  | .controller _ _ _ => false
  | _ => true

theorem write_routes {message : ControlMessage} {delivered : Bool}
    (written : write message choice = some (action, delivered)) : action.routes = false := by
  cases choice <;> simp only [write, reduceCtorEq, Option.some.injEq, Prod.mk.injEq] at written
  all_goals rw [← written.1]; rfl

inductive AuthOutcome : HandlerPoint → Prop
  | auth (point : AuthPoint) : AuthOutcome (.auth point)
  | controller (login : Login) (request : ControlMessage) :
      AuthOutcome (.controller login request .authorize)
  | agent (login : Login) (register : ControlMessage) :
      AuthOutcome (.agent login register .allocatePort)
  | refuse (code : Nat) (text : String) : AuthOutcome (refuse code text)
  | finished : AuthOutcome .finished

inductive AuthAction : Action → Prop
  | nothing : AuthAction .nothing
  | receive (message : ControlMessage) : AuthAction (.receive message)
  | send (message : ControlMessage) (delivered : Bool)
      (type : message.type = .authOK ∨ message.type = .error) : AuthAction (.send message delivered)

theorem checkToken_outcome (login : Login) : AuthOutcome (checkToken login) := by
  unfold checkToken
  split
  · exact .refuse _ _
  · exact .auth _

theorem write_action {message : ControlMessage} {delivered : Bool}
    (type : message.type = .authOK ∨ message.type = .error)
    (written : write message choice = some (action, delivered)) : AuthAction action := by
  cases choice <;> simp only [write, reduceCtorEq, Option.some.injEq, Prod.mk.injEq] at written
  all_goals rw [← written.1]; exact .send _ _ type

theorem planAuth_outcome {point : AuthPoint} {next : HandlerPoint}
    (planned : planAuth m choice point = some (action, next)) :
    AuthAction action ∧ AuthOutcome next := by
  cases point with
  | challenge login =>
      simp only [planAuth, Option.map_eq_some_iff] at planned
      rcases planned with ⟨⟨written, delivered⟩, writes, equal⟩
      cases equal
      exact ⟨write_action (.inr rfl) writes, .auth _⟩
  | authOK login =>
      simp only [planAuth, Option.map_eq_some_iff] at planned
      rcases planned with ⟨⟨written, delivered⟩, writes, equal⟩
      cases equal
      refine ⟨write_action (.inl rfl) writes, ?_⟩
      cases delivered
      · exact .finished
      · exact .auth _
  | readAuth =>
      simp only [planAuth] at planned
      split at planned <;> cases planned
      · refine ⟨.receive _, ?_⟩
        unfold checkAuth
        repeat' split
        all_goals first | exact .refuse _ _ | exact .auth _
      · exact ⟨.nothing, .finished⟩
  | lookup login =>
      simp only [planAuth] at planned
      split at planned <;> cases planned
      · refine ⟨.nothing, ?_⟩
        unfold checkRecord
        repeat' split
        all_goals first | exact .refuse _ _ | exact .auth _
      · exact ⟨.nothing, .refuse _ _⟩
  | readRetry login =>
      simp only [planAuth] at planned
      split at planned <;> cases planned
      · refine ⟨.receive _, ?_⟩
        unfold checkRetry
        split
        · exact .refuse _ _
        · exact checkToken_outcome _
      · exact ⟨.nothing, .finished⟩
  | readInit login =>
      simp only [planAuth] at planned
      split at planned <;> cases planned
      · refine ⟨.receive _, ?_⟩
        unfold checkInit
        repeat' split
        all_goals first
          | exact .refuse _ _
          | exact .controller _ _
          | exact .agent _ _
          | exact .finished
      · exact ⟨.nothing, .finished⟩
  | enrollmentGuard login =>
      simp only [planAuth] at planned
      split at planned <;> cases planned
      · refine ⟨.nothing, ?_⟩
        split
        · exact .auth _
        · exact checkToken_outcome _
      · exact ⟨.nothing, .refuse _ _⟩
  | secretAsToken login =>
      simp only [planAuth] at planned
      repeat' split at planned
      all_goals cases planned
      · exact ⟨.nothing, checkToken_outcome _⟩
      · exact ⟨.nothing, .auth _⟩
      · exact ⟨.nothing, .auth _⟩
  | connectionGuard | acceptStream | validateToken | validateSecret | listInvitations
  | validateInvitation =>
      simp only [planAuth] at planned
      repeat' split at planned
      all_goals cases planned
      all_goals
        refine ⟨.nothing, ?_⟩
        first | exact .auth _ | exact .refuse _ _ | exact .finished

theorem planAuth_unrouted {point : AuthPoint} {next : HandlerPoint}
    (planned : planAuth m choice point = some (action, next)) :
    action.routes = false ∧ next.unrouted = true := by
  rcases planAuth_outcome planned with ⟨acts, outcome⟩
  refine ⟨?_, ?_⟩
  · cases acts <;> rfl
  · cases outcome <;> rfl

theorem planForward_routes {message : ControlMessage} {deviceID : GoString}
    {point next : Signaling.ForwardPoint}
    (planned : planForward netip m message deviceID choice point = some (action, next)) :
    action.routes = false := by
  cases choice <;> simp only [planForward, reduceCtorEq, Option.map_eq_some_iff] at planned
  rcases planned with ⟨step, _, equal⟩
  cases equal
  rfl

theorem planAgent_unrouted {login : Login} {register : ControlMessage} {point : AgentPoint}
    {next : HandlerPoint}
    (planned : planAgent netip m self login register choice point = some (action, next)) :
    action.routes = false ∧ next.unrouted = true := by
  cases point with
  | portAssign | reply =>
      simp only [planAgent, Option.map_eq_some_iff] at planned
      rcases planned with ⟨⟨written, delivered⟩, writes, equal⟩
      cases equal
      exact ⟨write_routes writes, rfl⟩
  | forward publicPort message point =>
      cases point with
      | returned _ =>
          cases planned
          exact ⟨rfl, rfl⟩
      | start | lookup | authorize | write =>
          simp only [planAgent, Option.map_eq_some_iff] at planned
          rcases planned with ⟨⟨forwarded, later⟩, forwards, equal⟩
          cases equal
          exact ⟨planForward_routes forwards, rfl⟩
  | unregisterPeer publicPort point =>
      cases point with
      | returned _ =>
          cases planned
          exact ⟨rfl, rfl⟩
      | lock | notify =>
          cases choice <;> simp only [planAgent, reduceCtorEq, Option.map_eq_some_iff] at planned
          rcases planned with ⟨step, _, equal⟩
          cases equal
          exact ⟨rfl, rfl⟩
  | allocatePort | findExisting | closeExisting | persist | listenTCP | listenUDP
  | registerOnline | registerPeer | controlLoop | unregisterOnline | close =>
      simp only [planAgent] at planned
      repeat' split at planned
      all_goals cases planned
      all_goals exact ⟨rfl, rfl⟩

theorem unrouted_assertion {point : HandlerPoint} (unrouted : point.unrouted = true) :
    point.route? = none ∧ point.RouteAssertion m := by
  cases point with
  | controller login request point =>
      cases point <;> first | exact ⟨rfl, trivial⟩ | cases unrouted
  | _ => exact ⟨rfl, trivial⟩

theorem resumeConnect_asserts {login : Login} {request : ControlMessage} {target : AgentSession}
    {c : Signaling.SessionCoordinator} {sent : Option Signaling.Sent}
    {point : Signaling.ConnectPoint} (names : Names target.writer point)
    (answers : ∀ resp, point = .returned (.ok resp) → resp.type ≠ .error →
      ∃ candidates peer sessionID token,
        sent = some ⟨target.writer, Signaling.connectNotify (connectRequest m self login request)
          candidates sessionID token, true⟩ ∧
        resp = Signaling.connectResponse (connectRequest m self login request) peer sessionID
          token) :
    (resumeConnect login request target point).route? = none ∧
      (resumeConnect login request target point).RouteAssertion
        (Action.apply self m (.coordinate c sent)) := by
  cases point with
  | returned result =>
      cases result with
      | error => exact ⟨rfl, trivial⟩
      | ok resp =>
          simp only [resumeConnect]
          split
          · exact ⟨rfl, trivial⟩
          · rename_i answered
            rcases answers resp rfl answered with
              ⟨candidates, peer, sessionID, token, rfl, rfl⟩
            refine ⟨rfl, rfl, _, List.mem_append_right _ (List.mem_singleton_self _), ?_⟩
            exact ⟨rfl, rfl, rfl, rfl, rfl⟩
  | _ => exact ⟨rfl, names⟩

theorem planController_routes {login : Login} {request : ControlMessage}
    {point : ControllerPoint} {next : HandlerPoint}
    (planned : planController netip m self login request choice point = some (action, next))
    (known : point.RouteAssertion m login request)
    (finds : Thread.FindsSame m.coordinator.peers (.handler (.controller login request point))) :
    RouteStep self m (action.apply self m) point.route? next.route? ∧
      next.RouteAssertion (action.apply self m) := by
  cases point with
  | authorize | enroll | findTarget =>
      have unrouted : action.routes = false ∧ next.unrouted = true ∨
          action = .nothing ∧ ∃ target, next =
            .controller login request (.connect target .start) := by
        simp only [planController] at planned
        repeat' split at planned
        all_goals cases planned
        all_goals first | exact .inl ⟨rfl, rfl⟩ | exact .inr ⟨rfl, _, rfl⟩
      rcases unrouted with ⟨other, unrouted⟩ | ⟨rfl, target, rfl⟩
      · rcases unrouted_assertion unrouted with ⟨none, asserts⟩
        rw [none]
        exact ⟨.stay (apply_controllerRoutes other), asserts⟩
      · exact ⟨.stay rfl, trivial⟩
  | connect target point =>
      cases choice <;> simp only [planController, reduceCtorEq, Option.map_eq_some_iff] at planned
      rcases planned with ⟨step, taken, equal⟩
      cases equal
      rcases planHandleConnectRequest_names taken known
        (fun candidates same => by subst same; exact finds _ _ rfl) with ⟨names, answers⟩
      rcases resumeConnect_asserts names answers with ⟨none, asserts⟩
      rw [none]
      exact ⟨.stay rfl, asserts⟩
  | registerRoute target resp =>
      cases planned
      exact ⟨.register rfl, known.1, known.2.later⟩
  | respond target resp =>
      simp only [planController, Option.map_eq_some_iff] at planned
      rcases planned with ⟨⟨written, delivered⟩, writes, equal⟩
      cases equal
      have stays := @apply_controllerRoutes m self _ (write_routes writes)
      cases delivered <;> exact ⟨.stay stays, _, known.2.later⟩
  | controlLoop target sessionID =>
      simp only [planController] at planned
      rcases known with ⟨token, notified⟩
      split at planned
      · cases planned
        refine ⟨?_, ?_⟩
        · simp only [HandlerPoint.route?]
          repeat' split
          all_goals exact .stay rfl
        · simp only [HandlerPoint.RouteAssertion]
          repeat' split
          all_goals exact ⟨token, notified.later⟩
      · cases planned
        exact ⟨.stay rfl, token, notified⟩
      · cases planned
  | pong target sessionID =>
      simp only [planController, Option.map_eq_some_iff] at planned
      rcases planned with ⟨⟨written, delivered⟩, writes, equal⟩
      cases equal
      rcases known with ⟨token, notified⟩
      exact ⟨.stay (apply_controllerRoutes (write_routes writes)), token, notified.later⟩
  | forward target sessionID message point =>
      rcases known with ⟨token, notified⟩
      cases point with
      | returned _ =>
          cases planned
          exact ⟨.stay rfl, token, notified⟩
      | start | lookup | authorize | write =>
          simp only [planController, Option.map_eq_some_iff] at planned
          rcases planned with ⟨⟨forwarded, later⟩, forwards, equal⟩
          cases equal
          exact ⟨.stay (apply_controllerRoutes (planForward_routes forwards)), token,
            notified.later⟩
  | closeSession target sessionID point =>
      rcases known with ⟨token, notified⟩
      cases point with
      | returned =>
          cases planned
          exact ⟨.stay rfl, token, notified⟩
      | lock | notify =>
          cases choice <;>
            simp only [planController, reduceCtorEq, Option.map_eq_some_iff] at planned
          rcases planned with ⟨step, _, equal⟩
          cases equal
          exact ⟨.stay rfl, token, notified.later⟩
  | unregisterRoute target sessionID =>
      cases planned
      refine ⟨.unregister ?_, trivial⟩
      simp only [Action.apply]
      split <;> rfl

theorem planHandler_routes {point next : HandlerPoint}
    (planned : planHandler netip m self choice point = some (action, next))
    (known : point.RouteAssertion m) (finds : Thread.FindsSame m.coordinator.peers (.handler point)) :
    RouteStep self m (action.apply self m) point.route? next.route? ∧
      next.RouteAssertion (action.apply self m) := by
  cases point with
  | auth point =>
      rcases planAuth_unrouted planned with ⟨other, unrouted⟩
      rcases unrouted_assertion unrouted with ⟨none, asserts⟩
      rw [none]
      exact ⟨.stay (apply_controllerRoutes other), asserts⟩
  | controller login request point => exact planController_routes planned known finds
  | agent login register point =>
      rcases planAgent_unrouted planned with ⟨other, unrouted⟩
      rcases unrouted_assertion unrouted with ⟨none, asserts⟩
      rw [none]
      exact ⟨.stay (apply_controllerRoutes other), asserts⟩
  | refuse message =>
      simp only [planHandler, Option.map_eq_some_iff] at planned
      rcases planned with ⟨⟨written, delivered⟩, writes, equal⟩
      cases equal
      exact ⟨.stay (apply_controllerRoutes (write_routes writes)), trivial⟩
  | finished => cases planned

def Action.console : Action → Bool
  | .nothing | .setDatabase _ | .setPorts _ | .closeSession _ | .removeDevice _ | .setPolicy _ =>
      true
  | _ => false

theorem planDisconnectDevice_console {deviceID : GoString} {point next : DisconnectPoint}
    (planned : planDisconnectDevice m deviceID point = some (action, next)) :
    action.console = true := by
  cases point <;> cases planned <;> rfl

theorem plan_console {thread next : Thread}
    (planned : plan netip m self choice thread = some (action, next))
    (console : thread.isHandler = false) : action.console = true := by
  cases thread with
  | handler point => cases console
  | deleteDevice deviceID point =>
      simp only [plan, Option.map_eq_some_iff] at planned
      rcases planned with ⟨⟨inner, after⟩, stepped, equal⟩
      cases equal
      unfold planDelete at stepped
      repeat' split at stepped
      all_goals first
        | cases stepped; rfl
        | cases stepped
        | rw [Option.map_eq_some_iff] at stepped
      rcases stepped with ⟨⟨one, later⟩, inner, equal⟩
      cases equal
      exact planDisconnectDevice_console inner
  | disconnectDevice deviceID point =>
      simp only [plan, Option.map_eq_some_iff] at planned
      rcases planned with ⟨⟨inner, after⟩, stepped, equal⟩
      cases equal
      exact planDisconnectDevice_console stepped
  | toggleDevice deviceID enabled point =>
      simp only [plan, Option.map_eq_some_iff] at planned
      rcases planned with ⟨⟨inner, after⟩, stepped, equal⟩
      cases equal
      simp only [planToggle] at stepped
      repeat' split at stepped
      all_goals first
        | cases stepped; rfl
        | cases stepped
        | rw [Option.map_eq_some_iff] at stepped
      rcases stepped with ⟨⟨one, later⟩, inner, equal⟩
      cases equal
      exact planDisconnectDevice_console inner
  | editInvitation edit returned =>
      cases returned <;> cases choice <;> cases planned <;> rfl
  | updateAccessPolicy allowAll accessMap returned =>
      cases returned <;> cases planned
      rfl

theorem plan_routes {thread next : Thread}
    (planned : plan netip m self choice thread = some (action, next))
    (known : thread.RouteAssertion m) (finds : thread.FindsSame m.coordinator.peers) :
    RouteStep self m (action.apply self m) thread.route? next.route? ∧
      next.RouteAssertion (action.apply self m) := by
  rcases plan_step planned with ⟨point, after, rfl, rfl, stepped⟩ | ⟨console, still, _⟩
  · exact planHandler_routes stepped known finds
  · have other : action.routes = false := by
      have taken := plan_console planned console
      cases action <;> first | rfl | cases taken
    have none : ∀ one : Thread, one.isHandler = false →
        one.route? = none ∧ one.RouteAssertion (action.apply self m) := by
      intro one not
      cases one <;> first | exact ⟨rfl, trivial⟩ | cases not
    rw [(none thread console).1, (none next still).1]
    exact ⟨.stay (apply_controllerRoutes other), (none next still).2⟩

theorem resumeConnect_looksUp {login : Login} {request : ControlMessage}
    {target found : AgentSession} {point : Signaling.ConnectPoint} {deviceID : GoString}
    (looks : (Thread.handler (resumeConnect login request target point)).looksUp =
      some (deviceID, found)) :
    (deviceID = request.targetDeviceID ∧ found = target) ∧
      (point = .start ∨ ∃ candidates, point = .lookup candidates) := by
  cases point with
  | start =>
      cases looks
      exact ⟨⟨rfl, rfl⟩, .inl rfl⟩
  | lookup candidates =>
      cases looks
      exact ⟨⟨rfl, rfl⟩, .inr ⟨candidates, rfl⟩⟩
  | returned result =>
      cases result with
      | error => cases looks
      | ok resp =>
          simp only [resumeConnect] at looks
          split at looks <;> cases looks
  | _ => cases looks

theorem unrouted_looksUp {point : HandlerPoint} (unrouted : point.unrouted = true) :
    (Thread.handler point).looksUp = none := by
  cases point with
  | controller login request point =>
      cases point <;> first | rfl | cases unrouted
  | _ => rfl

theorem planController_looksUp {login : Login} {request : ControlMessage}
    {point : ControllerPoint} {next : HandlerPoint} {deviceID : GoString} {found : AgentSession}
    (planned : planController netip m self login request choice point = some (action, next))
    (looks : (Thread.handler next).looksUp = some (deviceID, found)) :
    (Thread.handler (.controller login request point)).looksUp = some (deviceID, found) ∨
      (Thread.handler (.controller login request point)).findsTarget = some deviceID ∧
        m.agentsByDevice.lookup deviceID = some found := by
  cases point with
  | findTarget =>
      simp only [planController] at planned
      split at planned
      · cases planned
        cases looks
      · rename_i target online
        cases planned
        cases looks
        exact .inr ⟨rfl, online⟩
  | connect target point =>
      cases choice <;> simp only [planController, reduceCtorEq, Option.map_eq_some_iff] at planned
      rcases planned with ⟨step, taken, equal⟩
      cases equal
      rcases resumeConnect_looksUp looks with ⟨⟨rfl, rfl⟩, connects⟩
      rw [Signaling.planHandleConnectRequest_looks taken connects]
      exact .inl rfl
  | authorize | enroll =>
      simp only [planController] at planned
      repeat' split at planned
      all_goals cases planned
      all_goals cases looks
  | registerRoute | unregisterRoute =>
      cases planned
      cases looks
  | respond | pong =>
      simp only [planController, Option.map_eq_some_iff] at planned
      rcases planned with ⟨⟨_, delivered⟩, _, equal⟩
      cases equal
      cases delivered <;> cases looks
  | controlLoop =>
      simp only [planController] at planned
      split at planned
      · cases planned
        revert looks
        repeat' split
        all_goals exact fun looks => by cases looks
      · cases planned
        cases looks
      · cases planned
  | forward target sessionID message point =>
      cases point with
      | returned =>
          cases planned
          cases looks
      | start | lookup | authorize | write =>
          simp only [planController, Option.map_eq_some_iff] at planned
          rcases planned with ⟨_, _, equal⟩
          cases equal
          cases looks
  | closeSession target sessionID point =>
      cases point with
      | returned =>
          cases planned
          cases looks
      | lock | notify =>
          cases choice <;>
            simp only [planController, reduceCtorEq, Option.map_eq_some_iff] at planned
          rcases planned with ⟨_, _, equal⟩
          cases equal
          cases looks

theorem plan_looksUp {thread next : Thread} {deviceID : GoString} {found : AgentSession}
    (planned : plan netip m self choice thread = some (action, next))
    (looks : next.looksUp = some (deviceID, found)) :
    thread.looksUp = some (deviceID, found) ∨
      thread.findsTarget = some deviceID ∧ m.agentsByDevice.lookup deviceID = some found := by
  rcases plan_step planned with ⟨point, after, rfl, rfl, stepped⟩ | ⟨_, still, _⟩
  · cases point with
    | controller login request point => exact planController_looksUp stepped looks
    | auth =>
        rw [unrouted_looksUp (planAuth_unrouted stepped).2] at looks
        cases looks
    | agent =>
        rw [unrouted_looksUp (planAgent_unrouted stepped).2] at looks
        cases looks
    | refuse =>
        simp only [planHandler, Option.map_eq_some_iff] at stepped
        rcases stepped with ⟨_, _, equal⟩
        cases equal
        cases looks
    | finished => cases stepped
  · cases next <;> first | cases looks | cases still

/-! ## Runs -/

variable {pool : RelayPool}

structure RoutesKnown (pool : RelayPool) : Prop where
  thread : ∀ (self : Nat) (thread : Thread), pool.threads[self]? = some thread →
    thread.RouteAssertion pool.shared
  route : ∀ (writer : Nat) (sessionID : UInt32) (self : Nat),
    pool.shared.controllerRoutes.lookup (writer, sessionID) = some self →
    ∃ thread target, pool.threads[self]? = some thread ∧
      thread.route? = some (target, sessionID) ∧ target.writer = writer

theorem RoutesKnown.start (known : RoutesKnown pool) {thread : Thread}
    (enters : entry thread = true) : RoutesKnown (pool.start thread) := by
  refine ⟨fun self one found => ?_, fun writer sessionID self found => ?_⟩
  · rcases Pool.start_cases found with old | ⟨_, rfl⟩
    · exact known.thread self one old
    · cases one with
      | handler point =>
          simp only [entry, decide_eq_true_eq] at enters
          rw [enters]
          trivial
      | _ => trivial
  · rcases known.route writer sessionID self found with ⟨one, target, present, routed⟩
    exact ⟨one, target, Pool.start_old present thread, routed⟩

theorem RoutesKnown.advance (known : RoutesKnown pool) {thread next : Thread}
    (present : pool.threads[self]? = some thread)
    (planned : plan netip pool.shared self choice thread = some (action, next))
    (finds : thread.FindsSame pool.shared.coordinator.peers) :
    RoutesKnown (pool.update self (action.apply self pool.shared) next) := by
  rcases plan_routes planned (known.thread self thread present) finds with ⟨moves, asserts⟩
  refine ⟨fun other one found => ?_, fun writer sessionID owner found => ?_⟩
  · by_cases same : other = self
    · subst same
      rw [Pool.update_self present, Option.some.injEq] at found
      rw [← found]
      exact asserts
    · rw [Pool.update_other pool same] at found
      exact (known.thread other one found).later
  · rw [Pool.update_shared] at found
    -- A route that was there before, of a handler that keeps its own.
    have old : pool.shared.controllerRoutes.lookup (writer, sessionID) = some owner →
        (owner = self → next.route? = thread.route?) →
        ∃ thread target,
          (pool.update self (action.apply self pool.shared) next).threads[owner]? = some thread ∧
          thread.route? = some (target, sessionID) ∧ target.writer = writer := by
      intro before keeps
      rcases known.route writer sessionID owner before with ⟨one, target, there, routed, own⟩
      by_cases same : owner = self
      · subst same
        rw [present, Option.some.injEq] at there
        subst there
        exact ⟨next, target, Pool.update_self present _ _, by rw [keeps rfl, routed], own⟩
      · exact ⟨one, target, (Pool.update_other pool same _ _).trans there, routed, own⟩
    generalize before : thread.route? = was at moves
    generalize after : next.route? = now at moves
    cases moves with
    | stay same =>
        rw [same] at found
        exact old found fun _ => by rw [before, after]
    | register inserted =>
        rename_i target registered
        rw [inserted] at found
        by_cases new : (writer, sessionID) = (target.writer, registered)
        · cases new
          rw [AList.lookup_insert, Option.some.injEq] at found
          subst found
          exact ⟨next, target, Pool.update_self present _ _, after, rfl⟩
        · rw [AList.lookup_insert_ne new] at found
          refine old found fun same => ?_
          subst same
          rcases known.route writer sessionID owner found with ⟨one, _, there, routed, _⟩
          rw [present, Option.some.injEq] at there
          rw [← there, before] at routed
          cases routed
    | unregister erased =>
        rename_i target registered
        have remains : pool.shared.controllerRoutes.lookup (writer, sessionID) = some owner ∧
            owner ≠ self := by
          -- The handler has no other route than the one it takes away.
          have elsewhere : pool.shared.controllerRoutes.lookup (writer, sessionID) =
              some owner → owner = self → (writer, sessionID) = (target.writer, registered) := by
            rintro there rfl
            rcases known.route writer sessionID owner there with ⟨one, held, here, routed, own⟩
            rw [present, Option.some.injEq] at here
            rw [← here, before, Option.some.injEq, Prod.mk.injEq] at routed
            rw [← own, routed.1, routed.2]
          rw [erased] at found
          split at found
          · by_cases gone : (writer, sessionID) = (target.writer, registered)
            · rw [gone, AList.lookup_erase] at found
              cases found
            · rw [AList.lookup_erase_ne gone] at found
              exact ⟨found, fun same => gone (elsewhere found same)⟩
          · rename_i foreign
            refine ⟨found, fun same => foreign ?_⟩
            rw [← elsewhere found same, found, same]
        exact old remains.1 fun same => absurd same remains.2

theorem RoutesKnown.notified (known : RoutesKnown pool) : RoutesNotified pool where
  notify self login request target candidates peer sessionID token present :=
    known.thread self _ present
  respond self login request target resp present := known.thread self _ present
  route writer sessionID self found := by
    rcases known.route writer sessionID self found with ⟨thread, target, present, routed, own⟩
    have asserts := known.thread self thread present
    cases thread with
    | handler point =>
        cases point with
        | controller login request point =>
            have told : ∃ token,
                Notified pool.shared target.writer login request sessionID token := by
              cases point with
              | respond => cases routed; exact ⟨_, asserts.2⟩
              | controlLoop | pong | forward | closeSession | unregisterRoute =>
                  cases routed
                  exact asserts
              | _ => cases routed
            rcases told with ⟨token, notified⟩
            rw [own] at notified
            exact ⟨login, request, point, target, token, present, routed, own, notified⟩
        | _ => cases routed
    | _ => cases routed

theorem findsTarget_unregistered {thread : Thread} {deviceID : GoString}
    (finds : thread.findsTarget = some deviceID) (session : AgentSession) :
    thread.stage self ≠ .registered session := by
  cases thread with
  | handler point =>
      cases point with
      | controller login request point =>
          intro registers
          cases point with
          | findTarget => cases registers
          | _ => cases finds
      | _ => cases finds
  | _ => cases finds

/-- The online table is ahead of the peers only where a handler has yet to call
`RegisterPeer`, and a controller's handler between its lookups has found the connection
that is the peer, if there is one. -/
structure LookupsAgree (pool : RelayPool) : Prop where
  follows : Follows pool.shared.agentsByDevice pool.shared.coordinator.peers (stageOf pool)
  finds : ∀ (self : Nat) (thread : Thread), pool.threads[self]? = some thread →
    thread.FindsSame pool.shared.coordinator.peers

theorem LookupsAgree.start (agree : LookupsAgree pool) {thread : Thread}
    (enters : entry thread = true) : LookupsAgree (pool.start thread) := by
  refine ⟨?_, fun self one found => ?_⟩
  · rw [stageOf_start enters]
    exact agree.follows
  · rcases Pool.start_cases found with old | ⟨_, rfl⟩
    · exact agree.finds self one old
    · intro deviceID target looks
      cases one with
      | handler point =>
          simp only [entry, decide_eq_true_eq] at enters
          rw [enters] at looks
          cases looks
      | _ => cases looks

theorem LookupsAgree.advance (agree : LookupsAgree pool) {thread next : Thread}
    (undisturbed : LookupsUndisturbed pool (.advance self choice))
    (present : pool.threads[self]? = some thread)
    (planned : plan netip pool.shared self choice thread = some (action, next)) :
    LookupsAgree (pool.update self (action.apply self pool.shared) next) := by
  rcases undisturbed with ⟨turn, past⟩
  have taken : (program netip).step self pool.shared thread choice =
      some (action.apply self pool.shared, next) := by
    simp only [program, planned, Option.map_some]
  -- The handler that calls `RegisterPeer` disturbs nobody's lookups.
  have kept : ∀ deviceID peer,
      (∀ session, stageOf pool self = .registered session → session.deviceID ≠ deviceID) →
      (action.apply self pool.shared).coordinator.peers.lookup deviceID = some peer →
      pool.shared.coordinator.peers.lookup deviceID = some peer := by
    intro deviceID peer other found
    rcases step_stages present taken with ⟨stage, moves, _⟩ | ⟨moves, _⟩
    · exact moves.peer_kept other found
    · rw [moves.peers] at found
      exact found
  have between : ∀ one ∈ pool.threads, one.FindsSame pool.shared.coordinator.peers →
      one.FindsSame (action.apply self pool.shared).coordinator.peers := by
    intro one member finds deviceID target looks peer found
    refine finds deviceID target looks peer (kept deviceID peer (fun session registers => ?_) found)
    rintro rfl
    exact (turn session registers).2 one member (by rw [looks]; rfl)
  refine ⟨?_, fun other one found => ?_⟩
  · rcases step_stages present taken with ⟨stage, moves, stages⟩ | ⟨moves, stages⟩
    · rw [stages]
      exact agree.follows.handler moves fun session registers =>
        (turn session registers).1
    · rw [stages]
      exact agree.follows.console moves
  · by_cases same : other = self
    · subst same
      rw [Pool.update_self present, Option.some.injEq] at found
      subst found
      intro deviceID target looks peer found
      rcases plan_looksUp planned looks with looked | ⟨finds, online⟩
      · exact between thread (Pool.mem_of_getElem? present) (agree.finds other thread present)
          deviceID target looked peer found
      · -- `GetAgentByDeviceID`: its session is past `RegisterPeer`.
        refine agree.follows.peer deviceID target online
          (past thread present deviceID finds target online) peer
          (kept deviceID peer (fun session registers => ?_) found)
        rw [stageOf_present present] at registers
        exact absurd registers (findsTarget_unregistered finds session)
    · rw [Pool.update_other pool same] at found
      exact between one (Pool.mem_of_getElem? found) (agree.finds other one found)

structure RoutesAgree (pool : RelayPool) : Prop extends RoutesKnown pool, LookupsAgree pool

theorem RoutesAgree.step (agree : RoutesAgree pool) {event : PoolEvent Thread Choice}
    {after : RelayPool} (undisturbed : LookupsUndisturbed pool event)
    (taken : (program netip).machine.step pool event = some after) : RoutesAgree after := by
  rcases Program.step_cases taken with
    ⟨thread, rfl, enters, rfl⟩ | ⟨self, choice, thread, moved, later, rfl, present, step, rfl⟩
  · exact ⟨agree.toRoutesKnown.start enters, agree.toLookupsAgree.start enters⟩
  · simp only [program, Option.map_eq_some_iff] at step
    rcases step with ⟨⟨action, after⟩, planned, equal⟩
    cases equal
    exact ⟨agree.toRoutesKnown.advance present planned (agree.finds self thread present),
      agree.toLookupsAgree.advance undisturbed present planned⟩

/-- Where no handler of the target gets between the two lookups: a controller is routed
to the agent connection that was told of it. -/
theorem routes_follow_notifications {db : Database} {portManager : PortManager}
    {nanoseconds : UInt32} {policy : AccessPolicy} {publicHost : GoString}
    {invitations : List (GoString × GoString × Time)} {events : List (PoolEvent Thread Choice)}
    (run : (program netip).machine.Run LookupsUndisturbed
      (initialPool (newAgentManager db portManager nanoseconds policy publicHost invitations))
      events pool) : RoutesNotified pool := by
  have initially : RoutesAgree (initialPool
      (newAgentManager db portManager nanoseconds policy publicHost invitations)) := by
    refine ⟨⟨fun self thread present => ?_, fun writer sessionID self found => ?_⟩,
      .empty _, fun self thread present => ?_⟩
    · cases present
    · cases found
    · cases present
  have agree := run.preserves initially fun _ _ _ agree undisturbed taken =>
    agree.step undisturbed taken
  exact agree.toRoutesKnown.notified

/-! ## Runs that were found -/

def twoDevices : Database :=
  ⟨((∅ : AgentTable).insert [65] ⟨[], hashSecret [7], 0, true⟩).insert [66]
    ⟨[], hashSecret [8], 0, true⟩, ∅⟩

def openRelay : RelayPool :=
  initialPool
    (newAgentManager twoDevices lowPorts 0 ⟨true, ∅⟩ [] [])

/-- Device "B" up to `GetAgentByDeviceID` for "A". -/
def findsTarget : List Choice :=
  [.proceed, .proceed, .receive { type := .auth, deviceID := [66], secret := [8] }, .proceed,
    .proceed, .receive { type := .connectRequest, targetDeviceID := [65] }, .proceed, .proceed]

def coordinates : List Choice :=
  [.signal .proceed, .signal .proceed, .signal (.authorized true), .signal .proceed,
    .signal (.token [1]), .signal .proceed, .signal .written, .proceed]

theorem routes_follow_notifications_connected :
    ∃ events pool, (program noCandidates).machine.Run LookupsUndisturbed openRelay events pool ∧
      pool.shared.controllerRoutes.lookup (0, 0x80000001) = some 1 ∧ RoutesNotified pool := by
  rcases (program noCandidates).machine.exists_run LookupsUndisturbed
    (fun pool => pool.shared.controllerRoutes.lookup (0, 0x80000001) = some 1) openRelay
    ([newConnection, newConnection] ++ turn 0 (signsIn ++ comesOnline ++ becomesPeer) ++
      turn 1 (findsTarget ++ coordinates))
    (by decide +kernel) with ⟨pool, run, route⟩
  exact ⟨_, pool, run, route, routes_follow_notifications run⟩

def Line.isNotify : Line → Bool
  | .sent message delivered => delivered && message.type = .connectNotify
  | .received _ => false

/-- "A" connects again between the two lookups. The controller is then routed to the
first connection, and the second one is notified. -/
theorem routed_elsewhere :
    ∃ events pool,
      (program noCandidates).machine.Run Machine.Unrestricted openRelay events pool ∧
      (pool.threads[1]?.bind Thread.route?) = some (⟨[65], [], 10, 0⟩, 0x80000001) ∧
      pool.shared.agentsByDevice.lookup [65] = some ⟨[65], [], 10, 2⟩ ∧
      (pool.shared.lines 1).any (fun line =>
        match line with
        | .sent message delivered => delivered && message.type = .connectResponse
        | .received _ => false) = true ∧
      (pool.shared.lines 2).any Line.isNotify = true ∧ ¬RoutesNotified pool := by
  rcases (program noCandidates).machine.exists_run Machine.Unrestricted
    (fun pool => (pool.threads[1]?.bind Thread.route?) = some (⟨[65], [], 10, 0⟩, 0x80000001) ∧
      pool.shared.agentsByDevice.lookup [65] = some ⟨[65], [], 10, 2⟩ ∧
      (pool.shared.lines 1).any (fun line =>
        match line with
        | .sent message delivered => delivered && message.type = .connectResponse
        | .received _ => false) = true ∧
      (pool.shared.lines 2).any Line.isNotify = true ∧
      pool.shared.controllerRoutes.lookup (0, 0x80000001) = some 1 ∧
      (pool.shared.lines 0).any Line.isNotify = false) openRelay
    ([newConnection, newConnection, newConnection] ++
      turn 0 (signsIn ++ comesOnline ++ becomesPeer) ++ turn 1 findsTarget ++
      turn 2 (signsIn ++ replaces ++ becomesPeer) ++ turn 1 (coordinates ++ [.proceed]))
    (by decide +kernel) with
    ⟨pool, run, routed, online, responded, notified, route, untold⟩
  refine ⟨_, pool, run, routed, online, responded, notified, fun holds => ?_⟩
  rcases holds.route 0 0x80000001 1 route with
    ⟨login, request, point, target, token, _, _, _, notify, recorded, notifies⟩
  have line : Line.sent notify true ∈ pool.shared.lines 0 := by
    refine List.mem_map.mpr ⟨(0, .sent notify true), ?_, rfl⟩
    exact List.mem_filter.mpr ⟨recorded, by simp⟩
  have told := List.any_eq_false.mp untold _ line
  exact told (by simp [Line.isNotify, notifies.type])

end Rdpulse.Relay
