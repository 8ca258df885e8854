import Rdpulse.Foundation.Threads
import Rdpulse.Signaling.Coordinator

namespace Rdpulse.Agent.CandidateRefresh

open Foundation Protocol
open Signaling (Netip ConnectRequest SessionCoordinator ActiveSession ConnectPoint ForwardPoint
  ClosePoint UnregisterPoint Sent)

/-! The refresh loop of a controlled agent, the coordinator, and the connections of
the controllers. The agent's messages and the coordinator's reach the other side in
order, over the agent's control stream. -/

def filterLANCandidates (candidates : List CandidateInfo) : List CandidateInfo :=
  candidates.filter fun candidate => candidate.type = Signaling.candidateLAN

/-- `candidateSetsEqual`, which counts every candidate. -/
def candidateSetsEqual (left right : List CandidateInfo) : Bool :=
  left.isPerm right

abbrev Registry := AList fun _ : UInt32 => GoString

/-- `given` records what was written to controllers. -/
structure State where
  coordinator : SessionCoordinator
  deviceID : GoString
  previous : List CandidateInfo
  p2pSessions : Registry
  toAgent : List ControlMessage
  toRelay : List ControlMessage
  given : List (Nat × ControlMessage)

inductive RefreshPoint
  | waiting
  | routes
  | pushing (routes : List (UInt32 × GoString))
  deriving DecidableEq

inductive LoopPoint
  | reading
  | forward (message : ControlMessage) (point : ForwardPoint)
  deriving DecidableEq

inductive ControllerPoint
  | connect (point : ConnectPoint)
  | respond (resp : ControlMessage)
  | serving (sessionID : UInt32)
  | closing (sessionID : UInt32) (point : ClosePoint)
  | finished
  deriving DecidableEq

inductive Party
  | controlLoop (point : LoopPoint)
  | messageReader
  | refresh (point : RefreshPoint)
  | controller (deviceID : GoString) (req : ControlMessage) (publicHost : GoString)
      (point : ControllerPoint)
  /-- Other connections register and unregister peers, also of this device. -/
  | registerPeer (deviceID hostname : GoString) (candidates : List CandidateInfo)
      (publicPort : UInt16) (returned : Bool)
  | unregisterPeer (deviceID : GoString) (writer : Nat) (point : UnregisterPoint)
  deriving DecidableEq

/-- A discovery may fail, and a map is visited in some order. -/
inductive Choice
  | proceed
  | discovered (candidates : Option (List CandidateInfo))
  | visit (routes : List (UInt32 × GoString))
  | signal (choice : Signaling.Choice)
  deriving DecidableEq

/-- The number of the thread that runs the agent's control loop, and its writer. -/
def agentWriter : Nat := 0

def State.deliver (state : State) : Option Sent → State
  | none => state
  | some sent =>
      if !sent.delivered then state
      else if sent.writer = agentWriter then
        { state with toAgent := state.toAgent ++ [sent.message] }
      else { state with given := state.given ++ [(sent.writer, sent.message)] }

def State.after {Point : Type} (state : State) (step : Signaling.CallStep Point) : State :=
  { state with coordinator := step.coordinator }.deliver step.sent

def candidateUpdate (state : State) (route : UInt32 × GoString) : ControlMessage where
  type := .candidateExchange
  deviceID := state.deviceID
  targetDeviceID := route.2
  sessionID := route.1
  candidates := state.previous

def refreshStep (state : State) (choice : Choice) : RefreshPoint → Option (State × RefreshPoint)
  | .waiting =>
      match choice with
      | .discovered none => some (state, .waiting)
      | .discovered (some candidates) =>
          if candidateSetsEqual state.previous candidates then some (state, .waiting)
          else some ({ state with previous := candidates }, .routes)
      | _ => none
  | .routes =>
      match choice with
      | .visit routes =>
          if routes.isPerm (state.p2pSessions.entries.map fun entry => (entry.1, entry.2)) then
            some (state, .pushing routes)
          else none
      | _ => none
  | .pushing [] => some (state, .waiting)
  | .pushing (route :: rest) =>
      match choice with
      | .signal .written =>
          some ({ state with toRelay := state.toRelay ++ [candidateUpdate state route] },
            .pushing rest)
      | .signal .fail => some (state, .pushing rest)
      | _ => none

def readerStep (state : State) : Option State :=
  match state.toAgent with
  | [] => none
  | msg :: rest =>
      let state := { state with toAgent := rest }
      match msg.type with
      | .connectNotify =>
          some { state with p2pSessions := state.p2pSessions.insert msg.sessionID msg.deviceID }
      | .sessionClose => some { state with p2pSessions := state.p2pSessions.erase msg.sessionID }
      | _ => some state

/-- `runControlLoop` and the candidates that it forwards. The answer of the policy is a
choice. -/
def loopStep (netip : Netip) (state : State) (choice : Choice) :
    LoopPoint → Option (State × LoopPoint)
  | .reading =>
      match state.toRelay, choice with
      | msg :: rest, .signal (.authorized answer) =>
          some ({ state with toRelay := rest },
            if answer then .forward msg .start else .reading)
      | _, _ => none
  | .forward _ (.returned _) => some (state, .reading)
  | .forward msg point =>
      match choice with
      | .signal choice =>
          (Signaling.planForwardCandidateExchange netip state.coordinator msg.sessionID
            state.deviceID msg.targetDeviceID msg.candidates choice point).map fun step =>
              (state.after step, .forward msg step.next)
      | _ => none

def connectRequest (self : Nat) (deviceID : GoString) (req : ControlMessage)
    (publicHost : GoString) : ConnectRequest where
  controller := { deviceID, writer := some self, candidates := req.candidates }
  req := req
  publicHost := publicHost

def resume : ConnectPoint → ControllerPoint
  | .returned (.error _) => .finished
  | .returned (.ok resp) => if resp.type = .error then .finished else .respond resp
  | point => .connect point

def controllerStep (netip : Netip) (self : Nat) (state : State) (deviceID : GoString)
    (req : ControlMessage) (publicHost : GoString) (choice : Choice) :
    ControllerPoint → Option (State × ControllerPoint)
  | .connect point =>
      match choice with
      | .signal choice =>
          (Signaling.planHandleConnectRequest netip state.coordinator
            (connectRequest self deviceID req publicHost) choice point).map fun step =>
              (state.after step, resume step.next)
      | _ => none
  | .respond resp =>
      match choice with
      | .signal choice =>
          (Signaling.write (some self) resp choice).map fun (sent, delivered) =>
            (state.deliver sent,
              if delivered then .serving resp.sessionID else .closing resp.sessionID .lock)
      | _ => none
  | .serving sessionID =>
      match choice with
      | .proceed => some (state, .closing sessionID .lock)
      | _ => none
  | .closing _ .returned => some (state, .finished)
  | .closing sessionID point =>
      match choice with
      | .signal choice =>
          (Signaling.planCloseSession state.coordinator sessionID deviceID choice point).map
            fun step => (state.after step, .closing sessionID step.next)
      | _ => none
  | .finished => none

def step (netip : Netip) (self : Nat) (state : State) (party : Party) (choice : Choice) :
    Option (State × Party) :=
  match party with
  | .controlLoop point =>
      (loopStep netip state choice point).map fun (state, point) => (state, .controlLoop point)
  | .messageReader => (readerStep state).map fun state => (state, .messageReader)
  | .refresh point =>
      (refreshStep state choice point).map fun (state, point) => (state, .refresh point)
  | .controller deviceID req publicHost point =>
      (controllerStep netip self state deviceID req publicHost choice point).map
        fun (state, point) => (state, .controller deviceID req publicHost point)
  | .registerPeer deviceID hostname candidates publicPort returned =>
      if returned then none
      else
        some ({ state with
          coordinator := Signaling.registerPeer netip state.coordinator deviceID hostname
            (some self) candidates publicPort },
          .registerPeer deviceID hostname candidates publicPort true)
  | .unregisterPeer deviceID writer point =>
      match choice with
      | .signal choice =>
          (Signaling.planUnregisterPeer state.coordinator deviceID (some writer) choice
            point).map fun step => (state.after step, .unregisterPeer deviceID writer step.next)
      | _ => none

/-- A controller has authenticated as a device with a name, and another connection is
not the agent's. -/
def Party.entry : Party → Bool
  | .controller deviceID _ _ (.connect .start) => deviceID ≠ []
  | .registerPeer _ _ _ _ returned => !returned
  | .unregisterPeer _ writer .lock => writer ≠ agentWriter
  | _ => false

def program (netip : Netip) : Program State Party Choice where
  entry := Party.entry
  step := step netip

abbrev RefreshPool := Pool State Party

def initialPool (netip : Netip) (nanoseconds : UInt32) (deviceID hostname : GoString)
    (initial : List CandidateInfo) (publicPort : UInt16) : RefreshPool where
  shared :=
    { coordinator := Signaling.registerPeer netip
        { Signaling.newSessionCoordinator nanoseconds with authorizes := true } deviceID hostname
        (some agentWriter) initial publicPort
      deviceID
      previous := filterLANCandidates initial
      p2pSessions := ∅
      toAgent := []
      toRelay := []
      given := [] }
  threads := [.controlLoop .reading, .messageReader, .refresh .waiting]

end Rdpulse.Agent.CandidateRefresh
