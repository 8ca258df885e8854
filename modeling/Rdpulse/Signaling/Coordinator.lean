import Mathlib.Data.List.AList
import Rdpulse.Path.AddrPort
import Rdpulse.Protocol.Control

namespace Rdpulse.Signaling

open Foundation Protocol Rdpulse.Path

/-! The Relay's session coordinator: its tables, and at each program point of its
operations the step taken and the point that follows. -/

def maxCandidateCount : Nat := 16
def maxActiveSessions : Nat := 2048
def maxActiveSessionsPerPeer : Nat := 64

/-- A `*protocol.ControlWriter`, `none` where it is nil. -/
abbrev Writer := Option Nat

structure ActivePeer where
  deviceID : GoString
  hostname : GoString := []
  writer : Writer
  candidates : List CandidateInfo := []
  publicPort : UInt16 := 0
  deriving DecidableEq, Repr

structure ActiveSession where
  id : UInt32
  controllerID : GoString
  targetID : GoString
  controllerWriter : Writer
  targetWriter : Writer
  deriving DecidableEq, Repr

abbrev PeerTable := AList fun _ : GoString => ActivePeer
abbrev SessionTable := AList fun _ : UInt32 => ActiveSession

/-- `authorizes` tells whether an authorizer is installed. -/
structure SessionCoordinator where
  peers : PeerTable
  sessions : SessionTable
  nextSessionID : UInt32
  authorizes : Bool
  deriving DecidableEq

/-- `NewSessionCoordinator` at this time, before `SetAuthorizer`. -/
def newSessionCoordinator (nanoseconds : UInt32) : SessionCoordinator :=
  ⟨∅, ∅, nanoseconds &&& 0x7fffffff, false⟩

/-! ## Candidates -/

structure Netip where
  parseAddrPort : GoString → Option AddrPort
  string : AddrPort → GoString

/-- "udp" -/
def protocolUDP : GoString := [0x75, 0x64, 0x70]
/-- "tcp" -/
def protocolTCP : GoString := [0x74, 0x63, 0x70]
/-- "lan" -/
def candidateLAN : GoString := [0x6c, 0x61, 0x6e]
/-- "reflexive" -/
def candidateReflexive : GoString := [0x72, 0x65, 0x66, 0x6c, 0x65, 0x78, 0x69, 0x76, 0x65]

/-- The loop of `validateCandidates`, with the keys seen and the candidates kept. -/
def validateLoop (netip : Netip) (seen : List GoString) (validated : List CandidateInfo) :
    List CandidateInfo → Except String (List CandidateInfo)
  | [] => .ok validated
  | candidate :: rest =>
      if candidate.protocol ≠ protocolUDP && candidate.protocol ≠ protocolTCP then
        .error "candidate protocol must be udp or tcp"
      else if candidate.type ≠ candidateLAN && candidate.type ≠ candidateReflexive then
        .error "candidate type must be lan or reflexive"
      else
        match netip.parseAddrPort candidate.address with
        | none => .error "candidate address must be a unicast IP and non-zero port"
        | some address =>
            if address.addr.isUnspecified || address.addr.isMulticast || address.port = 0 then
              .error "candidate address must be a unicast IP and non-zero port"
            else
              -- The key is the protocol, "|" and the address.
              let key := candidate.protocol ++ 0x7c :: netip.string address
              if key ∈ seen then validateLoop netip seen validated rest
              else
                validateLoop netip (key :: seen)
                  (validated ++ [{ candidate with address := netip.string address }]) rest

def validateCandidates (netip : Netip) (candidates : List CandidateInfo) :
    Except String (List CandidateInfo) :=
  if maxCandidateCount < candidates.length then .error "candidate count exceeds limit 16"
  else validateLoop netip [] [] candidates

/-! ## Critical sections -/

namespace SessionCoordinator

variable (c : SessionCoordinator)

def setPeer (peer : ActivePeer) : SessionCoordinator :=
  { c with peers := c.peers.insert peer.deviceID peer }

def owned (deviceID : GoString) (writer : Writer) : List (UInt32 × ActiveSession) :=
  (c.sessions.entries.filter fun entry =>
    entry.2.targetID = deviceID && entry.2.targetWriter = writer).map
      fun entry => (entry.1, entry.2)

/-- Sessions leave the table one by one. -/
def dropSessions (gone : List (UInt32 × ActiveSession)) : SessionCoordinator :=
  { c with sessions := gone.foldl (fun sessions entry => sessions.erase entry.1) c.sessions }

def dropPeer (deviceID : GoString) (writer : Writer) : SessionCoordinator :=
  match c.peers.lookup deviceID with
  | some peer =>
      if peer.writer = writer then { c with peers := c.peers.erase deviceID } else c
  | none => c

def sessionCount (deviceID : GoString) : Nat :=
  (c.sessions.entries.filter fun entry =>
    entry.2.controllerID = deviceID || entry.2.targetID = deviceID).length

def full (controllerID targetID : GoString) : Bool :=
  maxActiveSessions ≤ c.sessions.entries.length ||
    maxActiveSessionsPerPeer ≤ c.sessionCount controllerID ||
    maxActiveSessionsPerPeer ≤ c.sessionCount targetID

def addSession (session : ActiveSession) : SessionCoordinator :=
  { c with sessions := c.sessions.insert session.id session }

def removeSession (sessionID : UInt32) : SessionCoordinator :=
  { c with sessions := c.sessions.erase sessionID }

end SessionCoordinator

/-! ## Operations -/

/-- What the code leaves open: the order in which a map is visited, what the
authorizer answers, the random token, and whether `WriteMessage` fails. -/
inductive Choice
  | proceed
  | visit (order : List (UInt32 × ActiveSession))
  | authorized (answer : Bool)
  | token (text : GoString)
  | fail
  | written
  deriving DecidableEq

/-- A message given to a writer, and whether `WriteMessage` returned nil. -/
structure Sent where
  writer : Nat
  message : ControlMessage
  delivered : Bool
  deriving DecidableEq, Repr

/-- `WriteMessage`; a nil writer fails. -/
def write (writer : Writer) (message : ControlMessage) : Choice → Option (Option Sent × Bool)
  | .written => writer.map fun stream => (some ⟨stream, message, true⟩, true)
  | .fail => some (writer.map fun stream => ⟨stream, message, false⟩, false)
  | _ => none

structure CallStep (Point : Type) where
  coordinator : SessionCoordinator
  sent : Option Sent := none
  next : Point

def registerPeer (netip : Netip) (c : SessionCoordinator) (deviceID hostname : GoString)
    (writer : Writer) (candidates : List CandidateInfo) (publicPort : UInt16) :
    SessionCoordinator :=
  let valid :=
    match validateCandidates netip candidates with
    | .ok valid => valid
    | .error _ => []
  c.setPeer { deviceID, hostname, writer, candidates := valid, publicPort }

def sessionClose (sessionID : UInt32) : ControlMessage where
  type := .sessionClose
  sessionID := sessionID

inductive UnregisterPoint
  | lock
  | notify (removed pending : List (UInt32 × ActiveSession))
  | returned (removed : List (UInt32 × ActiveSession))
  deriving DecidableEq

def planUnregisterPeer (c : SessionCoordinator) (deviceID : GoString) (writer : Writer)
    (choice : Choice) : UnregisterPoint → Option (CallStep UnregisterPoint)
  | .lock =>
      match choice with
      | .visit order =>
          if order.isPerm (c.owned deviceID writer) then
            some { coordinator := (c.dropPeer deviceID writer).dropSessions order
                   next := .notify order order }
          else none
      | _ => none
  | .notify removed [] => some { coordinator := c, next := .returned removed }
  | .notify removed ((sessionID, session) :: rest) =>
      match session.controllerWriter with
      | none => some { coordinator := c, next := .notify removed rest }
      | some stream =>
          (write (some stream) (sessionClose sessionID) choice).map fun (sent, _) =>
            { coordinator := c, sent, next := .notify removed rest }
  | .returned _ => none

inductive ClosePoint
  | lock
  | notify (session : ActiveSession)
  | returned
  deriving DecidableEq

def planCloseSession (c : SessionCoordinator) (sessionID : UInt32) (controllerID : GoString)
    (choice : Choice) : ClosePoint → Option (CallStep ClosePoint)
  | .lock =>
      match c.sessions.lookup sessionID with
      | none => some { coordinator := c, next := .returned }
      | some session =>
          if controllerID ≠ [] && session.controllerID ≠ controllerID then
            some { coordinator := c, next := .returned }
          else
            some { coordinator := c.removeSession sessionID
                   next := if session.targetWriter.isSome then .notify session else .returned }
  | .notify session =>
      (write session.targetWriter
        { type := .sessionClose
          deviceID := session.controllerID
          targetDeviceID := session.targetID
          sessionID } choice).map fun (sent, _) => { coordinator := c, sent, next := .returned }
  | .returned => none

structure Target where
  candidates : List CandidateInfo
  publicPort : UInt16
  writer : Writer
  deriving DecidableEq

structure ConnectRequest where
  controller : ActivePeer
  req : ControlMessage
  publicHost : GoString
  deriving DecidableEq

inductive ConnectPoint
  | start
  | lookup (candidates : List CandidateInfo)
  | authorize (candidates : List CandidateInfo) (authorizes : Bool) (target : Option Target)
  | number (candidates : List CandidateInfo) (target : Target)
  | draw (candidates : List CandidateInfo) (target : Target) (sessionID : UInt32)
  | insert (candidates : List CandidateInfo) (target : Target) (sessionID : UInt32)
      (token : GoString)
  | notify (candidates : List CandidateInfo) (target : Target) (sessionID : UInt32)
      (token : GoString)
  | rollback (sessionID : UInt32) (point : ClosePoint)
  | returned (result : Except String ControlMessage)
  deriving DecidableEq

def connectNotify (request : ConnectRequest) (candidates : List CandidateInfo)
    (sessionID : UInt32) (token : GoString) : ControlMessage where
  type := .connectNotify
  deviceID := request.controller.deviceID
  targetDeviceID := request.req.targetDeviceID
  sessionID := sessionID
  sessionToken := token
  candidates := candidates
  punchRole := .controlled

def connectResponse (request : ConnectRequest) (target : Target) (sessionID : UInt32)
    (token : GoString) : ControlMessage where
  type := .connectResponse
  deviceID := request.controller.deviceID
  targetDeviceID := request.req.targetDeviceID
  sessionID := sessionID
  sessionToken := token
  candidates := target.candidates
  publicHost := request.publicHost
  publicPort := target.publicPort
  punchRole := .controller

def ConnectRequest.session (request : ConnectRequest) (target : Target) (sessionID : UInt32) :
    ActiveSession where
  id := sessionID
  controllerID := request.controller.deviceID
  targetID := request.req.targetDeviceID
  controllerWriter := request.controller.writer
  targetWriter := target.writer

def planHandleConnectRequest (netip : Netip) (c : SessionCoordinator) (request : ConnectRequest)
    (choice : Choice) : ConnectPoint → Option (CallStep ConnectPoint)
  | .start =>
      if request.req.targetDeviceID = [] then
        some { coordinator := c, next := .returned (.error "missing target_device_id") }
      else
        match validateCandidates netip request.req.candidates with
        | .error message =>
            some { coordinator := c, next := .returned (.ok (errorMessage 400 message)) }
        | .ok candidates => some { coordinator := c, next := .lookup candidates }
  | .lookup candidates =>
      let target := (c.peers.lookup request.req.targetDeviceID).map fun peer =>
        { candidates := peer.candidates, publicPort := peer.publicPort, writer := peer.writer }
      some { coordinator := c, next := .authorize candidates c.authorizes target }
  | .authorize candidates authorizes target =>
      match choice with
      | .authorized answer =>
          if !authorizes || !answer then
            some { coordinator := c
                   next := .returned
                    (.ok (errorMessage 403 "controller is not authorized for target")) }
          else
            match target with
            | some target =>
                if target.writer.isSome then
                  some { coordinator := c, next := .number candidates target }
                else
                  some { coordinator := c
                         next := .returned
                          (.ok (errorMessage 404 "target peer is currently offline")) }
            | none =>
                some { coordinator := c
                       next := .returned
                        (.ok (errorMessage 404 "target peer is currently offline")) }
      | _ => none
  | .number candidates target =>
      let drawn := c.nextSessionID + 1
      some { coordinator := { c with nextSessionID := drawn }
             next := .draw candidates target (drawn ||| 0x80000000) }
  | .draw candidates target sessionID =>
      match choice with
      | .token token => some { coordinator := c, next := .insert candidates target sessionID token }
      | .fail => some { coordinator := c, next := .returned (.error "generate session token") }
      | _ => none
  | .insert candidates target sessionID token =>
      if c.full request.controller.deviceID request.req.targetDeviceID then
        some { coordinator := c
               next := .returned
                (.ok (errorMessage 429 "active signaling session limit exceeded")) }
      else
        some { coordinator := c.addSession (request.session target sessionID)
               next := .notify candidates target sessionID token }
  | .notify candidates target sessionID token =>
      (write target.writer (connectNotify request candidates sessionID token) choice).map
        fun (sent, delivered) =>
          { coordinator := c
            sent
            next :=
              if delivered then .returned (.ok (connectResponse request target sessionID token))
              else .rollback sessionID .lock }
  | .rollback sessionID point =>
      (planCloseSession c sessionID request.controller.deviceID choice point).map fun step =>
        { coordinator := step.coordinator
          sent := step.sent
          next :=
            match step.next with
            | .returned => .returned (.error "notify target failed")
            | point => .rollback sessionID point }
  | .returned _ => none

def ActiveSession.counterpart (session : ActiveSession) (fromDeviceID : GoString) :
    GoString × Writer :=
  if fromDeviceID = session.controllerID then (session.targetID, session.targetWriter)
  else if fromDeviceID = session.targetID then (session.controllerID, session.controllerWriter)
  else ([], none)

inductive ForwardPoint
  | start
  | lookup (candidates : List CandidateInfo)
  | authorize (candidates : List CandidateInfo) (authorizes : Bool) (session : ActiveSession)
  | write (candidates : List CandidateInfo) (session : ActiveSession)
  | returned (err : Option String)
  deriving DecidableEq

def planForwardCandidateExchange (netip : Netip) (c : SessionCoordinator) (sessionID : UInt32)
    (fromDeviceID toDeviceID : GoString) (candidates : List CandidateInfo) (choice : Choice) :
    ForwardPoint → Option (CallStep ForwardPoint)
  | .start =>
      match validateCandidates netip candidates with
      | .error message => some { coordinator := c, next := .returned (some message) }
      | .ok valid => some { coordinator := c, next := .lookup valid }
  | .lookup valid =>
      match c.sessions.lookup sessionID with
      | none => some { coordinator := c, next := .returned (some "session not found") }
      | some session =>
          let (expected, writer) := session.counterpart fromDeviceID
          if writer = none || expected = [] then
            some { coordinator := c, next := .returned (some "session not found") }
          else if toDeviceID ≠ [] && toDeviceID ≠ expected then
            some { coordinator := c
                   next := .returned
                    (some "candidate exchange target does not match session") }
          else some { coordinator := c, next := .authorize valid c.authorizes session }
  | .authorize valid authorizes session =>
      match choice with
      | .authorized answer =>
          if !authorizes || !answer then
            some { coordinator := c
                   next := .returned (some "candidate exchange is not authorized") }
          else some { coordinator := c, next := .write valid session }
      | _ => none
  | .write valid session =>
      let (expected, writer) := session.counterpart fromDeviceID
      (write writer
        { type := .candidateExchange
          deviceID := fromDeviceID
          targetDeviceID := expected
          sessionID
          candidates := valid } choice).map fun (sent, delivered) =>
            { coordinator := c
              sent
              next := .returned (if delivered then none else some "write failed") }
  | .returned _ => none

end Rdpulse.Signaling
