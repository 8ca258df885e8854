import Rdpulse.Relay.PortManager
import Rdpulse.Signaling.Coordinator

namespace Rdpulse.Relay

open Foundation Protocol Storage

/-! The tables of the Relay's agent manager, and the actions that connection
handlers and the web console take on them. -/

/-- A registered agent. A handler makes one session at most, so the number of the
handler in `writer` tells sessions apart as their pointers do. -/
structure AgentSession where
  deviceID : GoString
  hostname : GoString
  publicPort : UInt16
  writer : Nat
  deriving DecidableEq, Repr

abbrev ControllerAccess := AList fun _ : GoString => List GoString

structure AccessPolicy where
  allowAllControllerTargets : Bool
  controllerAccess : ControllerAccess
  deriving DecidableEq

/-- A message on a control stream, from the Relay's side. -/
inductive Line
  | received (message : ControlMessage)
  | sent (message : ControlMessage) (delivered : Bool)
  deriving DecidableEq, Repr

abbrev OnlineTable := AList fun _ : GoString => AgentSession
abbrev OnlinePorts := AList fun _ : UInt16 => AgentSession
abbrev ControllerRoutes := AList fun _ : Nat × UInt32 => Nat

/-- `controllerRoutes` holds the routes of all sessions, under the number of the
session's handler. A listener belongs to the handler that opened it. `transcript`
records what went over the control stream of each handler. -/
structure AgentManager where
  hasDB : Bool
  db : Database
  portManager : PortManager
  coordinator : Signaling.SessionCoordinator
  agentsByDevice : OnlineTable
  agentsByPort : OnlinePorts
  controllerRoutes : ControllerRoutes
  tcpListeners : List (UInt16 × Nat)
  udpListeners : List (UInt16 × Nat)
  policy : AccessPolicy
  publicHost : GoString
  transcript : List (Nat × Line)

/-- `NewAgentManager` on this database, with the invitations of the configuration
installed. -/
def newAgentManager (db : Database) (portManager : PortManager) (nanoseconds : UInt32)
    (policy : AccessPolicy) (publicHost : GoString)
    (invitations : List (GoString × GoString × Time)) : AgentManager where
  hasDB := true
  db := invitations.foldl (fun db (deviceID, token, expiresAt) =>
    db.upsertEnrollmentInvitation deviceID token expiresAt) db
  portManager := portManager
  coordinator := { Signaling.newSessionCoordinator nanoseconds with authorizes := true }
  agentsByDevice := ∅
  agentsByPort := ∅
  controllerRoutes := ∅
  tcpListeners := []
  udpListeners := []
  policy := policy
  publicHost := publicHost
  transcript := []

namespace AgentManager

variable (m : AgentManager)

def lines (handler : Nat) : List Line :=
  (m.transcript.filter fun entry => entry.1 = handler).map Prod.snd

/-- "*" -/
def anyone : GoString := [0x2a]

def controllerCanAccess (controllerID targetID : GoString) : Bool :=
  let isAllowed (controllers : List GoString) : Bool :=
    controllers.any fun allowed => allowed = anyone || allowed = controllerID
  if controllerID = [] || targetID = [] then false
  else if m.policy.allowAllControllerTargets then true
  else
    isAllowed ((m.policy.controllerAccess.lookup targetID).getD []) ||
      isAllowed ((m.policy.controllerAccess.lookup anyone).getD [])

/-- The authorizer of the coordinator is `controllerCanAccess`. -/
def authorize (controllerID targetID : GoString) : Signaling.Choice → Signaling.Choice
  | .authorized _ => .authorized (m.controllerCanAccess controllerID targetID)
  | choice => choice

/-- `AgentSession.Close`, as far as others can see it: the public listeners go. -/
def close (session : AgentSession) : AgentManager :=
  { m with
    tcpListeners := m.tcpListeners.filter fun listener => listener.2 ≠ session.writer
    udpListeners := m.udpListeners.filter fun listener => listener.2 ≠ session.writer }

def closeOld : Option AgentSession → AgentManager
  | some old => m.close old
  | none => m

def registerOnline (session : AgentSession) : AgentManager :=
  { m.closeOld (m.agentsByDevice.lookup session.deviceID) with
    agentsByDevice := m.agentsByDevice.insert session.deviceID session
    agentsByPort := m.agentsByPort.insert session.publicPort session }

def removeOnline (session : AgentSession) : AgentManager :=
  if m.agentsByDevice.lookup session.deviceID = some session then
    { m with
      agentsByDevice := m.agentsByDevice.erase session.deviceID
      agentsByPort := m.agentsByPort.erase session.publicPort }
  else m

def removeDevice (deviceID : GoString) : AgentManager :=
  match m.agentsByDevice.lookup deviceID with
  | some session =>
      { m with
        agentsByDevice := m.agentsByDevice.erase deviceID
        agentsByPort := m.agentsByPort.erase session.publicPort }
  | none => m

end AgentManager

inductive Action
  | nothing
  | receive (message : ControlMessage)
  | send (message : ControlMessage) (delivered : Bool)
  | setDatabase (db : Database)
  | setPorts (portManager : PortManager)
  | coordinate (coordinator : Signaling.SessionCoordinator) (sent : Option Signaling.Sent)
  | listenTCP (port : UInt16)
  | closeTCP (port : UInt16)
  | listenUDP (port : UInt16)
  | closeSession (session : AgentSession)
  | registerOnline (session : AgentSession)
  | removeOnline (session : AgentSession)
  | removeDevice (deviceID : GoString)
  | registerControllerRoute (target : AgentSession) (sessionID : UInt32)
  | unregisterControllerRoute (target : AgentSession) (sessionID : UInt32)
  | setPolicy (policy : AccessPolicy)

def Action.apply (self : Nat) (m : AgentManager) : Action → AgentManager
  | .nothing => m
  | .receive message => { m with transcript := m.transcript ++ [(self, .received message)] }
  | .send message delivered =>
      { m with transcript := m.transcript ++ [(self, .sent message delivered)] }
  | .setDatabase db => { m with db }
  | .setPorts portManager => { m with portManager }
  | .coordinate coordinator sent =>
      { m with
        coordinator
        transcript := m.transcript ++ sent.toList.map fun sent =>
          (sent.writer, .sent sent.message sent.delivered) }
  | .listenTCP port => { m with tcpListeners := (port, self) :: m.tcpListeners }
  | .closeTCP port => { m with tcpListeners := m.tcpListeners.erase (port, self) }
  | .listenUDP port => { m with udpListeners := (port, self) :: m.udpListeners }
  | .closeSession session => m.close session
  | .registerOnline session => m.registerOnline session
  | .removeOnline session => m.removeOnline session
  | .removeDevice deviceID => m.removeDevice deviceID
  | .registerControllerRoute target sessionID =>
      { m with
        controllerRoutes := m.controllerRoutes.insert (target.writer, sessionID) self }
  | .unregisterControllerRoute target sessionID =>
      if m.controllerRoutes.lookup (target.writer, sessionID) = some self then
        { m with controllerRoutes := m.controllerRoutes.erase (target.writer, sessionID) }
      else m
  | .setPolicy policy => { m with policy }

/-! ## What the actions change -/

variable {m : AgentManager}

@[simp] theorem close_agentsByDevice (session : AgentSession) :
    (m.close session).agentsByDevice = m.agentsByDevice := rfl

@[simp] theorem registerOnline_agentsByDevice (session : AgentSession) :
    (m.registerOnline session).agentsByDevice =
      m.agentsByDevice.insert session.deviceID session := rfl

@[simp] theorem registerOnline_agentsByPort (session : AgentSession) :
    (m.registerOnline session).agentsByPort =
      m.agentsByPort.insert session.publicPort session := rfl

@[simp] theorem closeOld_db (old : Option AgentSession) :
    (m.closeOld old).db = m.db := by
  unfold AgentManager.closeOld
  split <;> rfl

@[simp] theorem closeOld_portManager (old : Option AgentSession) :
    (m.closeOld old).portManager = m.portManager := by
  unfold AgentManager.closeOld
  split <;> rfl

@[simp] theorem closeOld_coordinator (old : Option AgentSession) :
    (m.closeOld old).coordinator = m.coordinator := by
  unfold AgentManager.closeOld
  split <;> rfl

@[simp] theorem registerOnline_db (session : AgentSession) :
    (m.registerOnline session).db = m.db := closeOld_db _

@[simp] theorem registerOnline_portManager (session : AgentSession) :
    (m.registerOnline session).portManager = m.portManager := closeOld_portManager _

@[simp] theorem registerOnline_coordinator (session : AgentSession) :
    (m.registerOnline session).coordinator = m.coordinator := closeOld_coordinator _

@[simp] theorem removeOnline_db (session : AgentSession) :
    (m.removeOnline session).db = m.db := by
  unfold AgentManager.removeOnline
  split <;> rfl

@[simp] theorem removeOnline_portManager (session : AgentSession) :
    (m.removeOnline session).portManager = m.portManager := by
  unfold AgentManager.removeOnline
  split <;> rfl

@[simp] theorem removeOnline_coordinator (session : AgentSession) :
    (m.removeOnline session).coordinator = m.coordinator := by
  unfold AgentManager.removeOnline
  split <;> rfl

@[simp] theorem removeDevice_db (deviceID : GoString) :
    (m.removeDevice deviceID).db = m.db := by
  unfold AgentManager.removeDevice
  split <;> rfl

@[simp] theorem removeDevice_portManager (deviceID : GoString) :
    (m.removeDevice deviceID).portManager = m.portManager := by
  unfold AgentManager.removeDevice
  split <;> rfl

@[simp] theorem removeDevice_coordinator (deviceID : GoString) :
    (m.removeDevice deviceID).coordinator = m.coordinator := by
  unfold AgentManager.removeDevice
  split <;> rfl

@[simp] theorem apply_hasDB (self : Nat) (action : Action) :
    (action.apply self m).hasDB = m.hasDB := by
  cases action with
  | registerOnline session =>
      simp only [Action.apply, AgentManager.registerOnline, AgentManager.closeOld]
      split <;> rfl
  | removeOnline session =>
      simp only [Action.apply, AgentManager.removeOnline]
      split <;> rfl
  | removeDevice deviceID =>
      simp only [Action.apply, AgentManager.removeDevice]
      split <;> rfl
  | unregisterControllerRoute target sessionID =>
      simp only [Action.apply]
      split <;> rfl
  | _ => rfl

theorem removeOnline_lookup (session : AgentSession) (deviceID : GoString) :
    (m.removeOnline session).agentsByDevice.lookup deviceID =
      if deviceID = session.deviceID ∧ m.agentsByDevice.lookup deviceID = some session then none
      else m.agentsByDevice.lookup deviceID := by
  unfold AgentManager.removeOnline
  by_cases device : deviceID = session.deviceID
  · subst device
    by_cases current : m.agentsByDevice.lookup session.deviceID = some session
    · simp [current]
    · simp [current]
  · by_cases current : m.agentsByDevice.lookup session.deviceID = some session
    · simp [current, device, AList.lookup_erase_ne device]
    · simp [current, device]

theorem removeDevice_lookup (deviceID one : GoString) :
    (m.removeDevice deviceID).agentsByDevice.lookup one =
      if one = deviceID then none else m.agentsByDevice.lookup one := by
  unfold AgentManager.removeDevice
  by_cases device : one = deviceID
  · subst device
    cases present : m.agentsByDevice.lookup one with
    | none => simp [present]
    | some session => simp
  · rw [if_neg device]
    split
    · exact AList.lookup_erase_ne device
    · rfl

end Rdpulse.Relay
