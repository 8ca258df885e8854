import Rdpulse.Foundation.Threads
import Rdpulse.Relay.AgentManager

namespace Rdpulse.Relay

open Foundation Protocol Storage

/-! `HandleIncomingConnection`, with the console's requests beside it: at each
program point, the action taken and the point that follows. -/

/-- What a step leaves open: the client's next message, whether a call on the
stream or the database fails or a rate limit refuses, what the clock says. -/
inductive Choice
  | proceed
  | fail
  | receive (message : ControlMessage)
  | now (time : Time)
  | enroll (now : Time) (failure : Option Database.TransactionStage)
  | bindError (text : String)
  | signal (choice : Signaling.Choice)
  deriving DecidableEq

structure Login where
  deviceID : GoString
  secret : GoString
  enrollmentToken : GoString
  newDevice : Bool
  deriving DecidableEq, Repr

inductive AuthPoint
  | connectionGuard
  | acceptStream
  | readAuth
  | lookup (login : Login)
  | validateToken (login : Login)
  | validateSecret (login : Login)
  | listInvitations (login : Login)
  | enrollmentGuard (login : Login)
  | secretAsToken (login : Login)
  | challenge (login : Login)
  | readRetry (login : Login)
  | validateInvitation (login : Login)
  | authOK (login : Login)
  | readInit (login : Login)
  deriving DecidableEq

inductive ControllerPoint
  | authorize
  | enroll
  | findTarget
  | connect (target : AgentSession) (point : Signaling.ConnectPoint)
  | registerRoute (target : AgentSession) (resp : ControlMessage)
  | respond (target : AgentSession) (resp : ControlMessage)
  | controlLoop (target : AgentSession) (sessionID : UInt32)
  | pong (target : AgentSession) (sessionID : UInt32)
  | forward (target : AgentSession) (sessionID : UInt32) (message : ControlMessage)
      (point : Signaling.ForwardPoint)
  | closeSession (target : AgentSession) (sessionID : UInt32) (point : Signaling.ClosePoint)
  | unregisterRoute (target : AgentSession) (sessionID : UInt32)
  deriving DecidableEq

inductive AgentPoint
  | allocatePort
  | findExisting (publicPort : UInt16)
  | closeExisting (publicPort : UInt16) (old : AgentSession)
  | persist (publicPort : UInt16)
  | listenTCP (publicPort : UInt16)
  | listenUDP (publicPort : UInt16)
  | registerOnline (publicPort : UInt16)
  | registerPeer (publicPort : UInt16)
  | portAssign (publicPort : UInt16)
  | controlLoop (publicPort : UInt16)
  | reply (publicPort : UInt16) (message : ControlMessage)
  | forward (publicPort : UInt16) (message : ControlMessage) (point : Signaling.ForwardPoint)
  | unregisterPeer (publicPort : UInt16) (point : Signaling.UnregisterPoint)
  | unregisterOnline (publicPort : UInt16)
  | close (publicPort : UInt16)
  deriving DecidableEq

/-- `refuse` writes an error, after which the handler returns. -/
inductive HandlerPoint
  | auth (point : AuthPoint)
  | controller (login : Login) (request : ControlMessage) (point : ControllerPoint)
  | agent (login : Login) (register : ControlMessage) (point : AgentPoint)
  | refuse (message : ControlMessage)
  | finished
  deriving DecidableEq

def minDeviceSecretBytes : Nat := 32
def maxDeviceSecretBytes : Nat := 4096
def maxEnrollmentTokenBytes : Nat := 4096
def maxDeviceIDBytes : Nat := 128

def hashSecret (secret : GoString) : GoString := hexEncode (Sha256.sum256 secret)

def validDeviceByte (ch : UInt8) : Bool :=
  (0x61 ≤ ch && ch ≤ 0x7a) || (0x41 ≤ ch && ch ≤ 0x5a) || (0x30 ≤ ch && ch ≤ 0x39) ||
    ch = 0x2d || ch = 0x5f || ch = 0x2e

def validDeviceID (deviceID : GoString) : Bool :=
  deviceID ≠ [] && deviceID.length ≤ maxDeviceIDBytes && deviceID.all validDeviceByte

def refuse (code : Nat) (message : String) : HandlerPoint :=
  .refuse (errorMessage code message)

def write (message : ControlMessage) : Choice → Option (Action × Bool)
  | .proceed => some (.send message true, true)
  | .fail => some (.send message false, false)
  | _ => none

/-! ## Authentication -/

def checkAuth (hasDB : Bool) (authMsg : ControlMessage) : HandlerPoint :=
  if authMsg.type ≠ .auth then refuse 400 "expected AUTH message"
  else if !validDeviceID authMsg.deviceID || authMsg.secret = [] then
    refuse 400 "invalid device_id or missing secret"
  else if maxDeviceSecretBytes < authMsg.secret.length then
    refuse 400 "secret exceeds maximum size"
  else if authMsg.secretHash ≠ [] then refuse 400 "secret_hash authentication is not supported"
  else if !hasDB then refuse 503 "authentication service unavailable"
  else .auth (.lookup ⟨authMsg.deviceID, authMsg.secret, authMsg.enrollmentToken, false⟩)

def checkRecord (login : Login) : Option AgentRecord → HandlerPoint
  | none => .auth (.enrollmentGuard { login with newDevice := true })
  | some record =>
      if !record.enabled then refuse 403 "device is disabled"
      else if record.secretHash = hashSecret login.secret then .auth (.authOK login)
      else if login.enrollmentToken ≠ [] then .auth (.validateToken login)
      else .auth (.validateSecret login)

/-- The size of a token is checked before its invitation. -/
def checkToken (login : Login) : HandlerPoint :=
  if maxEnrollmentTokenBytes < login.enrollmentToken.length then
    refuse 400 "enrollment invitation exceeds maximum size"
  else .auth (.validateInvitation login)

def checkRetry (login : Login) (retry : ControlMessage) : HandlerPoint :=
  if retry.type ≠ .auth || retry.deviceID ≠ login.deviceID || retry.secretHash ≠ [] ||
      retry.secret ≠ login.secret then
    refuse 400 "invalid enrollment retry"
  else checkToken { login with enrollmentToken := retry.enrollmentToken }

def checkInit (login : Login) (initMsg : ControlMessage) : HandlerPoint :=
  if initMsg.type = .connectRequest then
    if initMsg.deviceID ≠ [] && initMsg.deviceID ≠ login.deviceID then
      refuse 400 "device_id does not match authenticated device"
    else if !validDeviceID initMsg.targetDeviceID then refuse 400 "invalid target_device_id"
    else .controller login initMsg .authorize
  else if initMsg.type ≠ .register then .finished
  else if initMsg.deviceID ≠ [] && initMsg.deviceID ≠ login.deviceID then
    refuse 400 "device_id does not match authenticated device"
  else .agent login initMsg .allocatePort

def planAuth (m : AgentManager) (choice : Choice) : AuthPoint → Option (Action × HandlerPoint)
  | .connectionGuard =>
      match choice with
      | .proceed => some (.nothing, .auth .acceptStream)
      | .fail => some (.nothing, .finished)
      | _ => none
  | .acceptStream =>
      match choice with
      | .proceed => some (.nothing, .auth .readAuth)
      | .fail => some (.nothing, .finished)
      | _ => none
  | .readAuth =>
      match choice with
      | .receive authMsg => some (.receive authMsg, checkAuth m.hasDB authMsg)
      | .fail => some (.nothing, .finished)
      | _ => none
  | .lookup login =>
      match choice with
      | .proceed => some (.nothing, checkRecord login (m.db.getAgentByDeviceID login.deviceID))
      | .fail => some (.nothing, refuse 503 "authentication service unavailable")
      | _ => none
  | .validateToken login =>
      match choice with
      | .now now =>
          if m.db.validateEnrollmentInvitation login.deviceID login.enrollmentToken now then
            some (.nothing, .auth (.enrollmentGuard { login with newDevice := true }))
          else some (.nothing, refuse 401 "invalid secret")
      | .fail => some (.nothing, refuse 401 "invalid secret")
      | _ => none
  | .validateSecret login =>
      match choice with
      | .now now =>
          if m.db.validateEnrollmentInvitation login.deviceID login.secret now then
            some (.nothing,
              .auth (.enrollmentGuard
                { login with enrollmentToken := login.secret, newDevice := true }))
          else some (.nothing, .auth (.listInvitations login))
      | .fail => some (.nothing, .auth (.listInvitations login))
      | _ => none
  | .listInvitations login =>
      match choice with
      | .now now =>
          if m.db.hasActiveInvitation login.deviceID now then
            some (.nothing, .auth (.enrollmentGuard { login with newDevice := true }))
          else some (.nothing, refuse 401 "invalid secret")
      | .fail => some (.nothing, refuse 401 "invalid secret")
      | _ => none
  | .enrollmentGuard login =>
      match choice with
      | .proceed =>
          some (.nothing,
            if login.enrollmentToken = [] then .auth (.secretAsToken login)
            else checkToken login)
      | .fail => some (.nothing, refuse 429 "enrollment attempt rate exceeded")
      | _ => none
  | .secretAsToken login =>
      match choice with
      | .now now =>
          if m.db.validateEnrollmentInvitation login.deviceID login.secret now then
            some (.nothing, checkToken { login with enrollmentToken := login.secret })
          else some (.nothing, .auth (.challenge login))
      | .fail => some (.nothing, .auth (.challenge login))
      | _ => none
  | .challenge login =>
      (write (errorMessage 428 "device enrollment invitation required") choice).map
        fun (action, _) => (action, .auth (.readRetry login))
  | .readRetry login =>
      match choice with
      | .receive retry => some (.receive retry, checkRetry login retry)
      | .fail => some (.nothing, .finished)
      | _ => none
  | .validateInvitation login =>
      match choice with
      | .now now =>
          if !m.db.validateEnrollmentInvitation login.deviceID login.enrollmentToken now then
            some (.nothing,
              refuse 401 "enrollment invitation is invalid, expired, or already consumed")
          else if login.secret.length < minDeviceSecretBytes then
            some (.nothing, refuse 400 "new device secret must be at least 32 bytes")
          else some (.nothing, .auth (.authOK login))
      | .fail => some (.nothing, refuse 503 "enrollment service unavailable")
      | _ => none
  | .authOK login =>
      (write { type := .authOK } choice).map fun (action, delivered) =>
        (action, if delivered then .auth (.readInit login) else .finished)
  | .readInit login =>
      match choice with
      | .receive initMsg => some (.receive initMsg, checkInit login initMsg)
      | .fail => some (.nothing, .finished)
      | _ => none

/-! ## Controllers -/

def enrolledAgent (login : Login) (hostname : GoString) (publicPort : UInt16) : AgentRecord where
  deviceID := login.deviceID
  hostname := hostname
  secretHash := hashSecret login.secret
  publicPort := publicPort
  enabled := true

def connectRequest (m : AgentManager) (self : Nat) (login : Login) (request : ControlMessage) :
    Signaling.ConnectRequest where
  controller :=
    { deviceID := login.deviceID
      hostname := request.hostname
      writer := some self
      candidates := request.candidates }
  req := request
  publicHost := m.publicHost

def resumeConnect (login : Login) (request : ControlMessage) (target : AgentSession) :
    Signaling.ConnectPoint → HandlerPoint
  | .returned (.error _) => refuse 500 "coordination failed"
  | .returned (.ok resp) =>
      if resp.type = .error then .refuse resp
      else .controller login request (.registerRoute target resp)
  | point => .controller login request (.connect target point)

/-- A step of `ForwardCandidateExchange`, whose authorizer is `controllerCanAccess`. -/
def planForward (netip : Signaling.Netip) (m : AgentManager) (message : ControlMessage)
    (fromDeviceID : GoString) (choice : Choice) (point : Signaling.ForwardPoint) :
    Option (Action × Signaling.ForwardPoint) :=
  match choice with
  | .signal choice =>
      let answered :=
        match point with
        | .authorize _ _ session => m.authorize session.controllerID session.targetID choice
        | _ => choice
      (Signaling.planForwardCandidateExchange netip m.coordinator message.sessionID fromDeviceID
        message.targetDeviceID message.candidates answered point).map fun step =>
          (.coordinate step.coordinator step.sent, step.next)
  | _ => none

def planController (netip : Signaling.Netip) (m : AgentManager) (self : Nat) (login : Login)
    (request : ControlMessage) (choice : Choice) :
    ControllerPoint → Option (Action × HandlerPoint)
  | .authorize =>
      if !m.controllerCanAccess login.deviceID request.targetDeviceID then
        some (.nothing, refuse 403 "controller is not authorized for target")
      else if login.newDevice then some (.nothing, .controller login request .enroll)
      else some (.nothing, .controller login request .findTarget)
  | .enroll =>
      match choice with
      | .enroll now failure =>
          match m.db.createAgentWithEnrollment (enrolledAgent login request.hostname 0)
            login.enrollmentToken now failure with
          | .ok db => some (.setDatabase db, .controller login request .findTarget)
          | .error _ => some (.nothing, refuse 503 "failed to enroll controller")
      | _ => none
  | .findTarget =>
      match m.agentsByDevice.lookup request.targetDeviceID with
      | none => some (.nothing, refuse 404 "target agent is offline")
      | some target => some (.nothing, .controller login request (.connect target .start))
  | .connect target point =>
      match choice with
      | .signal choice =>
          (Signaling.planHandleConnectRequest netip m.coordinator
            (connectRequest m self login request)
            (m.authorize login.deviceID request.targetDeviceID choice) point).map fun step =>
              (.coordinate step.coordinator step.sent,
                resumeConnect login request target step.next)
      | _ => none
  | .registerRoute target resp =>
      some (.registerControllerRoute target resp.sessionID,
        .controller login request (.respond target resp))
  | .respond target resp =>
      (write resp choice).map fun (action, delivered) =>
        (action,
          .controller login request
            (if delivered then .controlLoop target resp.sessionID
            else .closeSession target resp.sessionID .lock))
  | .controlLoop target sessionID =>
      match choice with
      | .receive ctrlMsg =>
          let next : ControllerPoint :=
            if ctrlMsg.type = .ping then .pong target sessionID
            else if ctrlMsg.type = .candidateExchange &&
                ctrlMsg.targetDeviceID = request.targetDeviceID &&
                m.controllerCanAccess login.deviceID ctrlMsg.targetDeviceID then
              .forward target sessionID ctrlMsg .start
            else .controlLoop target sessionID
          some (.receive ctrlMsg, .controller login request next)
      | .fail =>
          some (.nothing, .controller login request (.closeSession target sessionID .lock))
      | _ => none
  | .pong target sessionID =>
      (write { type := .pong } choice).map fun (action, _) =>
        (action, .controller login request (.controlLoop target sessionID))
  | .forward target sessionID message point =>
      match point with
      | .returned _ =>
          some (.nothing, .controller login request (.controlLoop target sessionID))
      | point =>
          (planForward netip m message login.deviceID choice point).map fun (action, next) =>
            (action, .controller login request (.forward target sessionID message next))
  -- The deferred calls run in the reverse order of their `defer` statements.
  | .closeSession target sessionID point =>
      match point, choice with
      | .returned, _ =>
          some (.nothing, .controller login request (.unregisterRoute target sessionID))
      | point, .signal choice =>
          (Signaling.planCloseSession m.coordinator sessionID login.deviceID choice point).map
            fun step =>
              (.coordinate step.coordinator step.sent,
                .controller login request (.closeSession target sessionID step.next))
      | _, _ => none
  | .unregisterRoute target sessionID =>
      some (.unregisterControllerRoute target sessionID, .finished)

/-! ## Agents -/

def agentSession (self : Nat) (login : Login) (register : ControlMessage) (publicPort : UInt16) :
    AgentSession where
  deviceID := login.deviceID
  hostname := register.hostname
  publicPort := publicPort
  writer := self

def portAssign (m : AgentManager) (publicPort : UInt16) : ControlMessage where
  type := .portAssign
  -- "127.0.0.1" where no host is configured.
  publicHost :=
    if m.publicHost = [] then [0x31, 0x32, 0x37, 0x2e, 0x30, 0x2e, 0x30, 0x2e, 0x31]
    else m.publicHost
  publicPort := publicPort

def dispatch (m : AgentManager) (deviceID : GoString) (publicPort : UInt16)
    (msg : ControlMessage) : AgentPoint :=
  match msg.type with
  | .ping => .reply publicPort { type := .pong }
  | .connectRequest =>
      .reply publicPort
        (errorMessage 409 "open a dedicated controller connection for CONNECT_REQUEST")
  | .candidateExchange =>
      if m.controllerCanAccess msg.targetDeviceID deviceID then .forward publicPort msg .start
      else .controlLoop publicPort
  | _ => .controlLoop publicPort

def planAgent (netip : Signaling.Netip) (m : AgentManager) (self : Nat) (login : Login)
    (register : ControlMessage) (choice : Choice) : AgentPoint → Option (Action × HandlerPoint)
  | .allocatePort =>
      match m.portManager.getOrAllocatePort login.deviceID with
      | none => some (.nothing, refuse 503 errNoAvailablePort)
      | some (publicPort, portManager) =>
          some (.setPorts portManager, .agent login register (.findExisting publicPort))
  | .findExisting publicPort =>
      match m.agentsByDevice.lookup login.deviceID with
      | none => some (.nothing, .agent login register (.persist publicPort))
      | some old => some (.nothing, .agent login register (.closeExisting publicPort old))
  | .closeExisting publicPort old =>
      some (.closeSession old, .agent login register (.persist publicPort))
  | .persist publicPort =>
      if login.newDevice then
        match choice with
        | .enroll now failure =>
            match m.db.createAgentWithEnrollment
              (enrolledAgent login register.hostname publicPort) login.enrollmentToken now
              failure with
            | .ok db => some (.setDatabase db, .agent login register (.listenTCP publicPort))
            | .error _ => some (.nothing, refuse 503 "failed to persist registration")
        | _ => none
      else
        match choice with
        | .proceed =>
            some
              (.setDatabase
                (m.db.updateAgentRegistration login.deviceID register.hostname publicPort),
                .agent login register (.listenTCP publicPort))
        | .fail => some (.nothing, refuse 503 "failed to persist registration")
        | _ => none
  | .listenTCP publicPort =>
      match choice with
      | .proceed =>
          if m.tcpListeners.any fun listener => listener.1 = publicPort then none
          else some (.listenTCP publicPort, .agent login register (.listenUDP publicPort))
      | .bindError text => some (.nothing, refuse 500 ("failed to bind tcp port: " ++ text))
      | _ => none
  | .listenUDP publicPort =>
      match choice with
      | .proceed =>
          if m.udpListeners.any fun listener => listener.1 = publicPort then none
          else some (.listenUDP publicPort, .agent login register (.registerOnline publicPort))
      | .bindError text =>
          some (.closeTCP publicPort, refuse 500 ("failed to bind udp port: " ++ text))
      | _ => none
  | .registerOnline publicPort =>
      some (.registerOnline (agentSession self login register publicPort),
        .agent login register (.registerPeer publicPort))
  | .registerPeer publicPort =>
      some
        (.coordinate (Signaling.registerPeer netip m.coordinator login.deviceID register.hostname
          (some self) register.candidates publicPort) none,
          .agent login register (.portAssign publicPort))
  | .portAssign publicPort =>
      (write (portAssign m publicPort) choice).map fun (action, _) =>
        (action, .agent login register (.controlLoop publicPort))
  | .controlLoop publicPort =>
      match choice with
      | .receive msg =>
          some (.receive msg, .agent login register (dispatch m login.deviceID publicPort msg))
      | .fail => some (.nothing, .agent login register (.unregisterPeer publicPort .lock))
      | _ => none
  | .reply publicPort message =>
      (write message choice).map fun (action, _) =>
        (action, .agent login register (.controlLoop publicPort))
  | .forward publicPort message point =>
      match point with
      | .returned _ => some (.nothing, .agent login register (.controlLoop publicPort))
      | point =>
          (planForward netip m message login.deviceID choice point).map fun (action, next) =>
            (action, .agent login register (.forward publicPort message next))
  | .unregisterPeer publicPort point =>
      match point, choice with
      | .returned _, _ => some (.nothing, .agent login register (.unregisterOnline publicPort))
      | point, .signal choice =>
          (Signaling.planUnregisterPeer m.coordinator login.deviceID (some self) choice
            point).map fun step =>
              (.coordinate step.coordinator step.sent,
                .agent login register (.unregisterPeer publicPort step.next))
      | _, _ => none
  | .unregisterOnline publicPort =>
      some (.removeOnline (agentSession self login register publicPort),
        .agent login register (.close publicPort))
  | .close publicPort =>
      some (.closeSession (agentSession self login register publicPort), .finished)

def planHandler (netip : Signaling.Netip) (m : AgentManager) (self : Nat) (choice : Choice) :
    HandlerPoint → Option (Action × HandlerPoint)
  | .auth point => planAuth m choice point
  | .controller login request point => planController netip m self login request choice point
  | .agent login register point => planAgent netip m self login register choice point
  | .refuse message => (write message choice).map fun (action, _) => (action, .finished)
  | .finished => none

end Rdpulse.Relay
