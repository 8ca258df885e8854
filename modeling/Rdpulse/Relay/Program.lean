import Rdpulse.Relay.Handler

namespace Rdpulse.Relay

open Foundation Protocol Storage

/-! The running Relay: connection handlers and console requests as threads over one
agent manager, and restarts. -/

/-- `DisconnectDevice`, which closes the session outside its lock. -/
inductive DisconnectPoint
  | lock
  | close (session : AgentSession)
  | returned
  deriving DecidableEq

def planDisconnectDevice (m : AgentManager) (deviceID : GoString) :
    DisconnectPoint → Option (Action × DisconnectPoint)
  | .lock =>
      some (.removeDevice deviceID,
        match m.agentsByDevice.lookup deviceID with
        | some session => .close session
        | none => .returned)
  | .close session => some (.closeSession session, .returned)
  | .returned => none

inductive DeletePoint
  | deleteAgent
  | disconnect (point : DisconnectPoint)
  | releasePort
  | answered
  | failed
  deriving DecidableEq

/-- The DELETE request of the console. -/
def planDelete (m : AgentManager) (deviceID : GoString) (choice : Choice) :
    DeletePoint → Option (Action × DeletePoint)
  | .deleteAgent =>
      if !m.hasDB then some (.nothing, .disconnect .lock)
      else
        match choice with
        | .proceed => some (.setDatabase (m.db.deleteAgent deviceID), .disconnect .lock)
        | .fail => some (.nothing, .failed)
        | _ => none
  | .disconnect point =>
      match point with
      | .returned => some (.nothing, .releasePort)
      | point =>
          (planDisconnectDevice m deviceID point).map fun (action, next) =>
            (action, .disconnect next)
  | .releasePort => some (.setPorts (m.portManager.releasePort deviceID), .answered)
  | .answered | .failed => none

inductive TogglePoint
  | setEnabled
  | disconnect (point : DisconnectPoint)
  | answered
  | failed
  deriving DecidableEq

/-- The toggle request of the console. -/
def planToggle (m : AgentManager) (deviceID : GoString) (enabled : Bool) (choice : Choice) :
    TogglePoint → Option (Action × TogglePoint)
  | .setEnabled =>
      let next : TogglePoint := if enabled then .answered else .disconnect .lock
      if !m.hasDB then some (.nothing, next)
      else
        match choice with
        | .proceed => some (.setDatabase (m.db.setAgentEnabled deviceID enabled), next)
        | .fail => some (.nothing, .failed)
        | _ => none
  | .disconnect point =>
      match point with
      | .returned => some (.nothing, .answered)
      | point =>
          (planDisconnectDevice m deviceID point).map fun (action, next) =>
            (action, .disconnect next)
  | .answered | .failed => none

inductive InvitationEdit
  | upsert (deviceID token : GoString) (expiresAt : Time)
  | updateExpiry (deviceID : GoString) (expiresAt : Time)
  | delete (deviceID : GoString)
  deriving DecidableEq

def InvitationEdit.apply (db : Database) : InvitationEdit → Database
  | .upsert deviceID token expiresAt => db.upsertEnrollmentInvitation deviceID token expiresAt
  | .updateExpiry deviceID expiresAt =>
      match db.updateEnrollmentInvitationExpiry deviceID expiresAt with
      | .ok db => db
      | .error _ => db
  | .delete deviceID => db.deleteEnrollmentInvitation deviceID

@[simp] theorem editInvitation_agents (db : Database) (edit : InvitationEdit) :
    (edit.apply db).agents = db.agents := by
  cases edit with
  | upsert | delete => rfl
  | updateExpiry deviceID expiresAt =>
      simp only [InvitationEdit.apply, Database.updateEnrollmentInvitationExpiry]
      cases db.invitations.lookup deviceID <;> rfl

inductive Thread
  | handler (point : HandlerPoint)
  | deleteDevice (deviceID : GoString) (point : DeletePoint)
  | disconnectDevice (deviceID : GoString) (point : DisconnectPoint)
  | toggleDevice (deviceID : GoString) (enabled : Bool) (point : TogglePoint)
  | editInvitation (edit : InvitationEdit) (returned : Bool)
  | updateAccessPolicy (allowAll : Bool) (accessMap : Option ControllerAccess) (returned : Bool)
  deriving DecidableEq

def plan (netip : Signaling.Netip) (m : AgentManager) (self : Nat) (choice : Choice) :
    Thread → Option (Action × Thread)
  | .handler point =>
      (planHandler netip m self choice point).map fun (action, next) => (action, .handler next)
  | .deleteDevice deviceID point =>
      (planDelete m deviceID choice point).map fun (action, next) =>
        (action, .deleteDevice deviceID next)
  | .disconnectDevice deviceID point =>
      (planDisconnectDevice m deviceID point).map fun (action, next) =>
        (action, .disconnectDevice deviceID next)
  | .toggleDevice deviceID enabled point =>
      (planToggle m deviceID enabled choice point).map fun (action, next) =>
        (action, .toggleDevice deviceID enabled next)
  | .editInvitation edit returned =>
      if returned then none
      else
        match choice with
        | .proceed => some (.setDatabase (edit.apply m.db), .editInvitation edit true)
        | .fail => some (.nothing, .editInvitation edit true)
        | _ => none
  | .updateAccessPolicy allowAll accessMap returned =>
      if returned then none
      else
        some
          (.setPolicy ⟨allowAll, accessMap.getD m.policy.controllerAccess⟩,
            .updateAccessPolicy allowAll accessMap true)

/-- A connection is accepted, or the console asks for something. A device is named
by a path segment that is not empty. -/
def entry : Thread → Bool
  | .handler point => point = .auth .connectionGuard
  | .deleteDevice deviceID point => deviceID ≠ [] && point = .deleteAgent
  | .disconnectDevice deviceID point => deviceID ≠ [] && point = .lock
  | .toggleDevice deviceID _ point => deviceID ≠ [] && point = .setEnabled
  | .editInvitation _ returned => !returned
  | .updateAccessPolicy _ _ returned => !returned

def program (netip : Signaling.Netip) : Program AgentManager Thread Choice where
  entry := entry
  step self m thread choice :=
    (plan netip m self choice thread).map fun (action, next) => (action.apply self m, next)

abbrev RelayPool := Pool AgentManager Thread

def initialPool (m : AgentManager) : RelayPool := ⟨m, []⟩

structure RelayConfig where
  startPort : UInt16
  endPort : UInt16
  policy : AccessPolicy
  publicHost : GoString
  invitations : List (GoString × GoString × Time)

/-- A start of the program on this database, whose rows come in some order. -/
def startRelay (db : Database) (cfg : RelayConfig) (rows : List AgentRecord)
    (nanoseconds : UInt32) : Option RelayPool :=
  if rows.isPerm db.getAllAgents then
    (newPortManager cfg.startPort cfg.endPort rows).map fun portManager =>
      initialPool
        (newAgentManager db portManager nanoseconds cfg.policy cfg.publicHost cfg.invitations)
  else none

inductive RelayEvent
  | pool (event : PoolEvent Thread Choice)
  | restart (cfg : RelayConfig) (rows : List AgentRecord) (nanoseconds : UInt32)

/-- The Relay over its whole life. A restart leaves the database alone. -/
def relay (netip : Signaling.Netip) : Machine RelayPool RelayEvent where
  step pool
    | .pool event => (program netip).machine.step pool event
    | .restart cfg rows nanoseconds => startRelay pool.shared.db cfg rows nanoseconds

/-! ## Sample runs -/

def turn (self : Nat) (choices : List Choice) : List (PoolEvent Thread Choice) :=
  choices.map (.advance self)

def knownDevice : Database := ⟨(∅ : AgentTable).insert [65] ⟨[], hashSecret [7], 0, true⟩, ∅⟩

def smallRelay (db : Database) : RelayPool :=
  initialPool
    (newAgentManager db lowPorts 0 ⟨false, ∅⟩ [] [])

def noCandidates : Signaling.Netip := ⟨fun _ => none, fun _ => []⟩

def newConnection : PoolEvent Thread Choice := .spawn (.handler (.auth .connectionGuard))

def signsIn : List Choice :=
  [.proceed, .proceed, .receive { type := .auth, deviceID := [65], secret := [7] }, .proceed,
    .proceed]

def signsInNew : List Choice :=
  [.proceed, .proceed,
    .receive
      { type := .auth, deviceID := [65], secret := List.replicate 32 7, enrollmentToken := [1] },
    .proceed, .proceed, .now 0, .proceed]

def enrolls : List Choice :=
  [.receive { type := .register }, .proceed, .proceed, .enroll 0 none, .proceed, .proceed, .proceed]

def comesOnline : List Choice :=
  [.receive { type := .register }, .proceed, .proceed, .proceed, .proceed, .proceed, .proceed]

def replaces : List Choice := comesOnline ++ [.proceed]

def becomesPeer : List Choice := [.proceed, .proceed]

def goesOffline : List Choice :=
  [.fail, .signal (.visit []), .signal .proceed, .proceed, .proceed, .proceed]

example : ((program noCandidates).machine.execute (smallRelay knownDevice)
    (newConnection :: turn 0 (signsIn ++ comesOnline ++ becomesPeer ++ goesOffline))).map
      (fun pool => pool.threads) = some [.handler .finished] := by
  decide +kernel

end Rdpulse.Relay
