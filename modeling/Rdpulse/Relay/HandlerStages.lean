import Rdpulse.Relay.Program
import Rdpulse.Signaling.Steps

namespace Rdpulse.Relay

open Foundation Protocol Storage

/-! How far a connection handler is with the tables of the Relay, and everything
that one of its steps can do to them. -/

/-- `admitted` has read its record and registered nothing, `holding` has a port,
`registered` is in the online tables only, `listening` also with the coordinator,
`leaving` no longer with the coordinator. -/
inductive Stage
  | outside
  | admitted (deviceID : GoString)
  | holding (deviceID : GoString) (publicPort : UInt16)
  | registered (session : AgentSession)
  | listening (session : AgentSession)
  | leaving (session : AgentSession)
  deriving DecidableEq

def AuthPoint.stage : AuthPoint → Stage
  | .connectionGuard | .acceptStream | .readAuth | .lookup _ => .outside
  | .validateToken login | .validateSecret login | .listInvitations login
  | .enrollmentGuard login | .secretAsToken login | .challenge login | .readRetry login
  | .validateInvitation login | .authOK login | .readInit login => .admitted login.deviceID

/-- A controller is in the tables of agents only where it enrolls. -/
def ControllerPoint.stage (login : Login) : ControllerPoint → Stage
  | .authorize => if login.newDevice then .admitted login.deviceID else .outside
  | .enroll => .admitted login.deviceID
  | _ => .outside

def AgentPoint.stage (self : Nat) (login : Login) (register : ControlMessage) :
    AgentPoint → Stage
  | .allocatePort => .admitted login.deviceID
  | .findExisting port | .closeExisting port _ | .persist port | .listenTCP port
  | .listenUDP port | .registerOnline port => .holding login.deviceID port
  | .registerPeer port => .registered (agentSession self login register port)
  | .portAssign port | .controlLoop port | .reply port _ | .forward port _ _
  | .unregisterPeer port .lock => .listening (agentSession self login register port)
  | .unregisterPeer port (.notify _ _) | .unregisterPeer port (.returned _)
  | .unregisterOnline port => .leaving (agentSession self login register port)
  | .close _ => .outside

def HandlerPoint.stage (self : Nat) : HandlerPoint → Stage
  | .auth point => point.stage
  | .controller login _ point => point.stage login
  | .agent login register point => point.stage self login register
  | .refuse _ | .finished => .outside

structure SameStores (m next : AgentManager) : Prop where
  db : next.db = m.db
  portManager : next.portManager = m.portManager
  agentsByDevice : next.agentsByDevice = m.agentsByDevice
  agentsByPort : next.agentsByPort = m.agentsByPort

structure SameTables (m next : AgentManager) : Prop extends SameStores m next where
  peers : next.coordinator.peers = m.coordinator.peers

theorem SameTables.refl (m : AgentManager) : SameTables m m := ⟨⟨rfl, rfl, rfl, rfl⟩, rfl⟩

inductive StageStep (self : Nat) (m : AgentManager) : Stage → AgentManager → Stage → Prop
  | stay {stage next} (same : SameTables m next) : StageStep self m stage next stage
  | drop {stage next} (same : SameTables m next) (unregistered : ∀ session,
      stage ≠ .registered session ∧ stage ≠ .listening session ∧ stage ≠ .leaving session) :
      StageStep self m stage next .outside
  | accept {deviceID next} (same : SameTables m next)
      (enabled : ∀ row, m.db.agents.lookup deviceID = some row → row.enabled = true) :
      StageStep self m .outside next (.admitted deviceID)
  | enroll {a token now failure db}
      (created : m.db.createAgentWithEnrollment a token now failure = .ok db)
      (portless : a.publicPort = 0) :
      StageStep self m (.admitted a.deviceID) { m with db } .outside
  | allocate {deviceID port portManager}
      (allocated : m.portManager.getOrAllocatePort deviceID = some (port, portManager)) :
      StageStep self m (.admitted deviceID) { m with portManager } (.holding deviceID port)
  | create {a token now failure db}
      (created : m.db.createAgentWithEnrollment a token now failure = .ok db) :
      StageStep self m (.holding a.deviceID a.publicPort) { m with db }
        (.holding a.deviceID a.publicPort)
  | update {deviceID hostname port} :
      StageStep self m (.holding deviceID port)
        { m with db := m.db.updateAgentRegistration deviceID hostname port }
        (.holding deviceID port)
  | register {session} (own : session.writer = self) :
      StageStep self m (.holding session.deviceID session.publicPort) (m.registerOnline session)
        (.registered session)
  | announce {session next peer} (same : SameStores m next)
      (peers : next.coordinator.peers = m.coordinator.peers.insert session.deviceID peer)
      (writer : peer.writer = some session.writer) :
      StageStep self m (.registered session) next (.listening session)
  | withdraw {session next} (same : SameStores m next)
      (peers : next.coordinator.peers =
        (m.coordinator.dropPeer session.deviceID (some session.writer)).peers) :
      StageStep self m (.listening session) next (.leaving session)
  | leave {session} : StageStep self m (.leaving session) (m.removeOnline session) .outside

theorem StageStep.stay' {self : Nat} {m next : AgentManager} {before after : Stage}
    (unmoved : after = before) (same : SameTables m next) : StageStep self m before next after := by
  rw [unmoved]
  exact .stay same

theorem StageStep.dropAdmitted {self : Nat} {m next : AgentManager} {deviceID : GoString}
    (same : SameTables m next) : StageStep self m (.admitted deviceID) next .outside :=
  .drop same (by simp)

theorem StageStep.dropHolding {self : Nat} {m next : AgentManager} {deviceID : GoString}
    {port : UInt16} (same : SameTables m next) :
    StageStep self m (.holding deviceID port) next .outside :=
  .drop same (by simp)

/-! ## Actions that the tables do not notice -/

def Action.quiet : Action → Bool
  | .nothing | .receive _ | .send _ _ | .listenTCP _ | .closeTCP _ | .listenUDP _
  | .closeSession _ | .registerControllerRoute _ _ | .unregisterControllerRoute _ _
  | .setPolicy _ => true
  | _ => false

variable {netip : Signaling.Netip} {m : AgentManager} {self : Nat} {choice : Choice}
  {action : Action}

theorem sameTables_of_quiet (quiet : action.quiet = true) :
    SameTables m (action.apply self m) := by
  cases action with
  | unregisterControllerRoute target sessionID =>
      simp only [Action.apply]
      split <;> exact ⟨⟨rfl, rfl, rfl, rfl⟩, rfl⟩
  | nothing | receive | send | listenTCP | closeTCP | listenUDP | closeSession
  | registerControllerRoute | setPolicy => exact ⟨⟨rfl, rfl, rfl, rfl⟩, rfl⟩
  | _ => cases quiet

theorem sameTables_coordinate {coordinator : Signaling.SessionCoordinator}
    {sent : Option Signaling.Sent} (peers : coordinator.peers = m.coordinator.peers) :
    SameTables m ((Action.coordinate coordinator sent).apply self m) :=
  ⟨⟨rfl, rfl, rfl, rfl⟩, peers⟩

theorem write_quiet {message : ControlMessage} {delivered : Bool}
    (written : write message choice = some (action, delivered)) : action.quiet = true := by
  cases choice <;> cases written <;> rfl

/-! ## Authentication -/

theorem checkToken_stage (login : Login) :
    (checkToken login).stage self = .outside ∨
      (checkToken login).stage self = .admitted login.deviceID := by
  unfold checkToken
  split
  · exact .inl rfl
  · exact .inr rfl

theorem checkRetry_stage (login : Login) (retry : ControlMessage) :
    (checkRetry login retry).stage self = .outside ∨
      (checkRetry login retry).stage self = .admitted login.deviceID := by
  unfold checkRetry
  split
  · exact .inl rfl
  · exact checkToken_stage { login with enrollmentToken := retry.enrollmentToken }

theorem checkAuth_stage (hasDB : Bool) (authMsg : ControlMessage) :
    (checkAuth hasDB authMsg).stage self = .outside := by
  unfold checkAuth
  repeat' split
  all_goals rfl

theorem checkInit_stage (login : Login) (initMsg : ControlMessage) :
    (checkInit login initMsg).stage self = .outside ∨
      (checkInit login initMsg).stage self = .admitted login.deviceID := by
  unfold checkInit
  repeat' split
  all_goals first | exact .inl rfl | exact .inr rfl | skip
  simp only [HandlerPoint.stage, ControllerPoint.stage]
  split
  · exact .inr rfl
  · exact .inl rfl

theorem checkRecord_stage (login : Login) :
    (checkRecord login (m.db.getAgentByDeviceID login.deviceID)).stage self = .outside ∨
      (checkRecord login (m.db.getAgentByDeviceID login.deviceID)).stage self =
          .admitted login.deviceID ∧
        ∀ row, m.db.agents.lookup login.deviceID = some row → row.enabled = true := by
  unfold Database.getAgentByDeviceID
  cases found : m.db.agents.lookup login.deviceID with
  | none => exact .inr ⟨rfl, fun _ absent => by cases absent⟩
  | some row =>
      cases enabled : row.enabled with
      | false => exact .inl (by simp [checkRecord, enabled, refuse, HandlerPoint.stage])
      | true =>
          refine .inr ⟨?_, fun _ present => by cases present; exact enabled⟩
          simp only [Option.map_some, checkRecord, enabled, Bool.not_true, Bool.false_eq_true,
            if_false]
          repeat' split
          all_goals rfl

theorem accepted_or_refused {deviceID : GoString} {stage : Stage}
    (goes : stage = .outside ∨ stage = .admitted deviceID) (quiet : action.quiet = true) :
    StageStep self m (.admitted deviceID) (action.apply self m) stage := by
  rcases goes with out | on
  · rw [out]
    exact .dropAdmitted (sameTables_of_quiet quiet)
  · rw [on]
    exact .stay (sameTables_of_quiet quiet)

theorem planAuth_stage {point : AuthPoint} {next : HandlerPoint}
    (planned : planAuth m choice point = some (action, next)) :
    StageStep self m point.stage (action.apply self m) (next.stage self) := by
  cases point with
  | connectionGuard | acceptStream =>
      cases choice <;> cases planned <;> exact .stay (.refl m)
  | readAuth =>
      cases choice <;> cases planned
      · exact .stay (.refl m)
      · rw [checkAuth_stage]
        exact .stay (sameTables_of_quiet rfl)
  | lookup login =>
      cases choice <;> cases planned
      · rcases @checkRecord_stage m self login with out | ⟨on, enabled⟩
        · rw [out]
          exact .stay (.refl m)
        · rw [on]
          exact .accept (.refl m) enabled
      · exact .stay (.refl m)
  | validateToken login | validateSecret login | listInvitations login =>
      cases choice <;> simp only [planAuth, reduceCtorEq] at planned
      · cases planned
        exact accepted_or_refused (by simp [refuse, HandlerPoint.stage, AuthPoint.stage]) rfl
      · split at planned <;> cases planned <;>
          exact accepted_or_refused (by simp [refuse, HandlerPoint.stage, AuthPoint.stage]) rfl
  | enrollmentGuard login =>
      cases choice <;> cases planned
      · split
        · exact .stay (.refl m)
        · exact accepted_or_refused (checkToken_stage login) rfl
      · exact accepted_or_refused (.inl rfl) rfl
  | secretAsToken login =>
      cases choice <;> simp only [planAuth, reduceCtorEq] at planned
      · cases planned
        exact .stay (.refl m)
      · split at planned <;> cases planned
        · exact accepted_or_refused
            (checkToken_stage { login with enrollmentToken := login.secret }) rfl
        · exact .stay (.refl m)
  | challenge login =>
      simp only [planAuth, Option.map_eq_some_iff] at planned
      rcases planned with ⟨⟨taken, delivered⟩, written, equal⟩
      cases equal
      exact .stay (sameTables_of_quiet (write_quiet written))
  | readRetry login =>
      cases choice <;> cases planned
      · exact accepted_or_refused (.inl rfl) rfl
      · exact accepted_or_refused (checkRetry_stage login _) rfl
  | validateInvitation login =>
      cases choice <;> simp only [planAuth, reduceCtorEq] at planned
      · cases planned
        exact accepted_or_refused (.inl rfl) rfl
      · repeat' split at planned
        all_goals cases planned
        · exact accepted_or_refused (.inl rfl) rfl
        · exact accepted_or_refused (.inl rfl) rfl
        · exact .stay (.refl m)
  | authOK login =>
      simp only [planAuth, Option.map_eq_some_iff] at planned
      rcases planned with ⟨⟨taken, delivered⟩, written, equal⟩
      cases equal
      refine accepted_or_refused ?_ (write_quiet written)
      split
      · exact .inr rfl
      · exact .inl rfl
  | readInit login =>
      cases choice <;> cases planned
      · exact accepted_or_refused (.inl rfl) rfl
      · exact accepted_or_refused (checkInit_stage login _) rfl

/-! ## The coordinator's peers -/

theorem planForward_peers {message : ControlMessage} {deviceID : GoString}
    {point next : Signaling.ForwardPoint}
    (planned : planForward netip m message deviceID choice point = some (action, next)) :
    SameTables m (action.apply self m) := by
  cases choice <;> simp only [planForward, reduceCtorEq, Option.map_eq_some_iff] at planned
  rcases planned with ⟨step, taken, equal⟩
  cases equal
  exact sameTables_coordinate (by rw [Signaling.planForward_sessions taken])

/-! ## Controllers and agents -/

theorem planController_stage {login : Login} {request : ControlMessage} {point : ControllerPoint}
    {next : HandlerPoint}
    (planned : planController netip m self login request choice point = some (action, next)) :
    StageStep self m (point.stage login) (action.apply self m) (next.stage self) := by
  cases point with
  | authorize =>
      simp only [planController, ControllerPoint.stage] at planned ⊢
      repeat' split at planned
      all_goals cases planned
      · split
        · exact .dropAdmitted (.refl m)
        · exact .stay (.refl m)
      · rename_i new
        rw [if_pos new]
        exact .stay (.refl m)
      · rename_i known
        rw [if_neg known]
        exact .stay (.refl m)
  | enroll =>
      simp only [planController] at planned
      repeat' split at planned
      all_goals cases planned
      · rename_i created
        exact .enroll created rfl
      · exact .dropAdmitted (.refl m)
  | findTarget =>
      simp only [planController] at planned
      split at planned <;> cases planned <;> exact .stay (.refl m)
  | connect target point =>
      simp only [planController] at planned
      split at planned
      · rw [Option.map_eq_some_iff] at planned
        rcases planned with ⟨step, taken, equal⟩
        cases equal
        have out : (resumeConnect login request target step.next).stage self = .outside := by
          unfold resumeConnect
          repeat' split
          all_goals rfl
        rw [out]
        exact .stay (sameTables_coordinate (Signaling.planHandleConnectRequest_peers taken))
      · cases planned
  | registerRoute | unregisterRoute =>
      cases planned
      exact .stay (sameTables_of_quiet rfl)
  | respond | pong =>
      simp only [planController, Option.map_eq_some_iff] at planned
      rcases planned with ⟨⟨taken, delivered⟩, written, equal⟩
      cases equal
      refine .stay' ?_ (sameTables_of_quiet (write_quiet written))
      first | rfl | (split <;> rfl)
  | controlLoop target sessionID =>
      cases choice <;> cases planned
      · exact .stay (.refl m)
      · refine .stay' ?_ (sameTables_of_quiet rfl)
        simp only [HandlerPoint.stage]
        repeat' split
        all_goals rfl
  | forward target sessionID message point =>
      simp only [planController] at planned
      split at planned
      · cases planned
        exact .stay (.refl m)
      · rw [Option.map_eq_some_iff] at planned
        rcases planned with ⟨⟨taken, after⟩, forwarded, equal⟩
        cases equal
        exact .stay (planForward_peers forwarded)
  | closeSession target sessionID point =>
      simp only [planController] at planned
      split at planned
      · cases planned
        exact .stay (.refl m)
      · rw [Option.map_eq_some_iff] at planned
        rcases planned with ⟨step, taken, equal⟩
        cases equal
        exact .stay (sameTables_coordinate (Signaling.planCloseSession_peers taken))
      · cases planned

theorem planAgent_stage {login : Login} {register : ControlMessage} {point : AgentPoint}
    {next : HandlerPoint}
    (planned : planAgent netip m self login register choice point = some (action, next)) :
    StageStep self m (point.stage self login register) (action.apply self m)
      (next.stage self) := by
  cases point with
  | allocatePort =>
      simp only [planAgent] at planned
      split at planned <;> cases planned
      · exact .dropAdmitted (.refl m)
      · rename_i allocated
        exact .allocate allocated
  | findExisting port =>
      simp only [planAgent] at planned
      split at planned <;> cases planned <;> exact .stay (.refl m)
  | closeExisting port old =>
      cases planned
      exact .stay (sameTables_of_quiet rfl)
  | persist port =>
      simp only [planAgent] at planned
      repeat' split at planned
      all_goals cases planned
      · rename_i created
        exact @StageStep.create self m (enrolledAgent login register.hostname port) _ _ _ _ created
      · exact .dropHolding (.refl m)
      · exact .update
      · exact .dropHolding (.refl m)
  | listenTCP port | listenUDP port =>
      simp only [planAgent] at planned
      repeat' split at planned
      all_goals cases planned
      · exact .stay (sameTables_of_quiet rfl)
      · exact .dropHolding (sameTables_of_quiet rfl)
  | registerOnline port =>
      cases planned
      exact @StageStep.register self m (agentSession self login register port) rfl
  | registerPeer port =>
      cases planned
      exact .announce ⟨rfl, rfl, rfl, rfl⟩ rfl rfl
  | portAssign port | reply port message =>
      simp only [planAgent, Option.map_eq_some_iff] at planned
      rcases planned with ⟨⟨taken, delivered⟩, written, equal⟩
      cases equal
      exact .stay (sameTables_of_quiet (write_quiet written))
  | controlLoop port =>
      cases choice <;> cases planned
      · exact .stay (.refl m)
      · refine .stay' ?_ (sameTables_of_quiet rfl)
        simp only [HandlerPoint.stage, dispatch]
        repeat' split
        all_goals rfl
  | forward port message point =>
      simp only [planAgent] at planned
      split at planned
      · cases planned
        exact .stay (.refl m)
      · rw [Option.map_eq_some_iff] at planned
        rcases planned with ⟨⟨taken, after⟩, forwarded, equal⟩
        cases equal
        exact .stay (planForward_peers forwarded)
  | unregisterPeer port point =>
      simp only [planAgent] at planned
      split at planned
      · cases planned
        exact .stay (.refl m)
      · rw [Option.map_eq_some_iff] at planned
        rcases planned with ⟨step, taken, equal⟩
        cases equal
        have left : step.next ≠ .lock → (AgentPoint.unregisterPeer port step.next).stage self
            login register = .leaving (agentSession self login register port) := by
          intro past
          cases after : step.next with
          | lock => exact absurd after past
          | notify | returned => rfl
        rcases Signaling.planUnregisterPeer_peers taken with ⟨rfl, past, peers⟩ | ⟨before, past, peers⟩
        · simp only [HandlerPoint.stage, left past]
          exact .withdraw ⟨rfl, rfl, rfl, rfl⟩ peers
        · refine .stay' ?_ (sameTables_coordinate peers)
          simp only [HandlerPoint.stage, left past]
          cases point with
          | lock => exact absurd rfl before
          | notify | returned => rfl
      · cases planned
  | unregisterOnline port =>
      cases planned
      exact .leave
  | close port =>
      cases planned
      exact .stay (sameTables_of_quiet rfl)

/-- Everything that a handler does to the tables in one step. -/
theorem planHandler_stage {point next : HandlerPoint}
    (planned : planHandler netip m self choice point = some (action, next)) :
    StageStep self m (point.stage self) (action.apply self m) (next.stage self) := by
  cases point with
  | auth point => exact planAuth_stage planned
  | controller login request point => exact planController_stage planned
  | agent login register point => exact planAgent_stage planned
  | refuse message =>
      simp only [planHandler, Option.map_eq_some_iff] at planned
      rcases planned with ⟨⟨taken, delivered⟩, written, equal⟩
      cases equal
      exact .stay (sameTables_of_quiet (write_quiet written))
  | finished => cases planned

/-! ## The console -/

def Thread.isHandler : Thread → Bool
  | .handler _ => true
  | _ => false

def Thread.disconnecting : Thread → Option GoString
  | .deleteDevice deviceID (.disconnect .lock) | .disconnectDevice deviceID .lock
  | .toggleDevice deviceID _ (.disconnect .lock) => some deviceID
  | _ => none

inductive ConsoleStep (m : AgentManager) : Thread → AgentManager → Prop
  | quiet {thread next} (same : SameTables m next) : ConsoleStep m thread next
  | disconnect {thread deviceID} (held : thread.disconnecting = some deviceID) :
      ConsoleStep m thread (m.removeDevice deviceID)
  | deleteAgent {deviceID} :
      ConsoleStep m (.deleteDevice deviceID .deleteAgent)
        { m with db := m.db.deleteAgent deviceID }
  | releasePort {deviceID} :
      ConsoleStep m (.deleteDevice deviceID .releasePort)
        { m with portManager := m.portManager.releasePort deviceID }
  | setEnabled {deviceID enabled} :
      ConsoleStep m (.toggleDevice deviceID enabled .setEnabled)
        { m with db := m.db.setAgentEnabled deviceID enabled }
  | editInvitation {edit} :
      ConsoleStep m (.editInvitation edit false) { m with db := edit.apply m.db }

theorem planDisconnectDevice_step {deviceID : GoString} {point next : DisconnectPoint}
    {thread : Thread} (planned : planDisconnectDevice m deviceID point = some (action, next))
    (held : point = .lock → thread.disconnecting = some deviceID) :
    ConsoleStep m thread (action.apply self m) := by
  cases point with
  | lock =>
      cases planned
      exact .disconnect (held rfl)
  | close session =>
      cases planned
      exact .quiet (sameTables_of_quiet rfl)
  | returned => cases planned

theorem plan_step {thread next : Thread}
    (planned : plan netip m self choice thread = some (action, next)) :
    (∃ point after, thread = .handler point ∧ next = .handler after ∧
      planHandler netip m self choice point = some (action, after)) ∨
    (thread.isHandler = false ∧ next.isHandler = false ∧
      ConsoleStep m thread (action.apply self m)) := by
  cases thread with
  | handler point =>
      simp only [plan, Option.map_eq_some_iff] at planned
      rcases planned with ⟨⟨taken, after⟩, stepped, equal⟩
      cases equal
      exact .inl ⟨point, after, rfl, rfl, stepped⟩
  | deleteDevice deviceID point =>
      simp only [plan, Option.map_eq_some_iff] at planned
      rcases planned with ⟨⟨taken, after⟩, stepped, equal⟩
      cases equal
      refine .inr ⟨rfl, rfl, ?_⟩
      cases point with
      | deleteAgent =>
          simp only [planDelete] at stepped
          repeat' split at stepped
          all_goals cases stepped
          · exact .quiet (.refl m)
          · exact .deleteAgent
          · exact .quiet (.refl m)
      | disconnect point =>
          simp only [planDelete] at stepped
          split at stepped
          · cases stepped
            exact .quiet (.refl m)
          · rw [Option.map_eq_some_iff] at stepped
            rcases stepped with ⟨⟨one, later⟩, inner, equal⟩
            cases equal
            exact planDisconnectDevice_step inner fun lock => by rw [lock]; rfl
      | releasePort =>
          cases stepped
          exact .releasePort
      | answered | failed => cases stepped
  | disconnectDevice deviceID point =>
      simp only [plan, Option.map_eq_some_iff] at planned
      rcases planned with ⟨⟨taken, after⟩, stepped, equal⟩
      cases equal
      exact .inr ⟨rfl, rfl, planDisconnectDevice_step stepped fun lock => by rw [lock]; rfl⟩
  | toggleDevice deviceID enabled point =>
      simp only [plan, Option.map_eq_some_iff] at planned
      rcases planned with ⟨⟨taken, after⟩, stepped, equal⟩
      cases equal
      refine .inr ⟨rfl, rfl, ?_⟩
      cases point with
      | setEnabled =>
          unfold planToggle at stepped
          cases stored : m.hasDB with
          | false =>
              rw [stored] at stepped
              cases stepped
              exact .quiet (.refl m)
          | true =>
              rw [stored] at stepped
              cases choice <;> cases stepped
              · exact .setEnabled
              · exact .quiet (.refl m)
      | disconnect point =>
          simp only [planToggle] at stepped
          split at stepped
          · cases stepped
            exact .quiet (.refl m)
          · rw [Option.map_eq_some_iff] at stepped
            rcases stepped with ⟨⟨one, later⟩, inner, equal⟩
            cases equal
            exact planDisconnectDevice_step inner fun lock => by rw [lock]; rfl
      | answered | failed => cases stepped
  | editInvitation edit returned =>
      cases returned <;> cases choice <;> cases planned
      · exact .inr ⟨rfl, rfl, .editInvitation⟩
      · exact .inr ⟨rfl, rfl, .quiet (.refl m)⟩
  | updateAccessPolicy allowAll accessMap returned =>
      cases returned <;> cases planned
      exact .inr ⟨rfl, rfl, .quiet (sameTables_of_quiet rfl)⟩

/-! ## Stages of the handlers in a pool -/

def Stage.session? : Stage → Option AgentSession
  | .registered session | .listening session | .leaving session => some session
  | _ => none

def Thread.stage (self : Nat) : Thread → Stage
  | .handler point => point.stage self
  | _ => .outside

def stageOf (pool : RelayPool) (self : Nat) : Stage :=
  match pool.threads[self]? with
  | some thread => thread.stage self
  | none => .outside

def stages (pool : RelayPool) : List Stage :=
  pool.threads.mapIdx fun self thread => thread.stage self

theorem handler_session {point : HandlerPoint} {session : AgentSession}
    (registers : (point.stage self).session? = some session) : session.writer = self := by
  cases point with
  | auth point => cases point <;> cases registers
  | controller login request point =>
      cases point <;> simp only [HandlerPoint.stage, ControllerPoint.stage] at registers <;>
        first | cases registers | (split at registers <;> cases registers)
  | agent login register point =>
      cases point with
      | unregisterPeer port point => cases point <;> cases registers <;> rfl
      | _ => cases registers <;> rfl
  | refuse | finished => cases registers

theorem stageOf_session {pool : RelayPool} {session : AgentSession}
    (registers : (stageOf pool self).session? = some session) : session.writer = self := by
  unfold stageOf at registers
  split at registers
  · rename_i thread _
    cases thread with
    | handler point => exact handler_session registers
    | _ => cases registers
  · cases registers

theorem stageOf_present {pool : RelayPool} {thread : Thread}
    (present : pool.threads[self]? = some thread) : stageOf pool self = thread.stage self := by
  simp only [stageOf, present]

theorem forall_stageOf {pool : RelayPool} {holds : Stage → Prop} (outside : holds .outside)
    (all : ∀ stage ∈ stages pool, holds stage) (self : Nat) : holds (stageOf pool self) := by
  cases present : pool.threads[self]? with
  | none =>
      simp only [stageOf, present]
      exact outside
  | some thread =>
      rw [stageOf_present present]
      refine all _ (List.mem_iff_getElem?.mpr ⟨self, ?_⟩)
      simp [stages, present]

theorem stageOf_update {pool : RelayPool} {thread : Thread}
    (present : pool.threads[self]? = some thread) (moved : AgentManager) (next : Thread) :
    stageOf (pool.update self moved next) =
      Function.update (stageOf pool) self (next.stage self) := by
  funext other
  by_cases same : other = self
  · subst same
    rw [Function.update_self, stageOf_present (Pool.update_self present moved next)]
  · rw [Function.update_of_ne same]
    simp only [stageOf, Pool.update_other pool same]

theorem stage_console {thread : Thread} (console : thread.isHandler = false) :
    thread.stage self = .outside := by
  cases thread with
  | handler point => cases console
  | _ => rfl

/-- A step of a pool: one handler moves on to its next stage, or the console does
something and every handler stays where it is. -/
theorem step_stages {pool : RelayPool} {thread next : Thread} {moved : AgentManager}
    (present : pool.threads[self]? = some thread)
    (taken : (program netip).step self pool.shared thread choice = some (moved, next)) :
    (∃ stage, StageStep self pool.shared (stageOf pool self) moved stage ∧
      stageOf (pool.update self moved next) = Function.update (stageOf pool) self stage) ∨
    (ConsoleStep pool.shared thread moved ∧
      stageOf (pool.update self moved next) = stageOf pool) := by
  simp only [program, Option.map_eq_some_iff] at taken
  rcases taken with ⟨⟨action, after⟩, planned, equal⟩
  cases equal
  rcases plan_step planned with ⟨point, later, rfl, rfl, stepped⟩ | ⟨before, beyond, stepped⟩
  · left
    refine ⟨later.stage self, ?_, stageOf_update present _ _⟩
    rw [stageOf_present present]
    exact planHandler_stage stepped
  · right
    refine ⟨stepped, ?_⟩
    have unmoved : after.stage self = stageOf pool self := by
      rw [stage_console beyond, stageOf_present present, stage_console before]
    rw [stageOf_update present, unmoved, Function.update_eq_self]

theorem stageOf_start {pool : RelayPool} {thread : Thread} (enters : entry thread = true) :
    stageOf (pool.start thread) = stageOf pool := by
  have outside : ∀ self, thread.stage self = .outside := by
    intro self
    cases thread with
    | handler point =>
        simp only [entry, decide_eq_true_eq] at enters
        rw [enters]
        rfl
    | _ => rfl
  funext self
  cases before : pool.threads[self]? with
  | some old => rw [stageOf_present before, stageOf_present (Pool.start_old before thread)]
  | none =>
      cases after : (pool.start thread).threads[self]? with
      | none => simp only [stageOf, before, after]
      | some new =>
          rcases Pool.start_cases after with old | ⟨_, rfl⟩
          · rw [before] at old
            cases old
          · rw [stageOf_present after, outside]
            simp only [stageOf, before]

end Rdpulse.Relay
