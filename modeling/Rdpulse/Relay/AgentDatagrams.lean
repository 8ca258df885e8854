import Rdpulse.UDP.Fragment
import Rdpulse.UDP.Provenance
import Rdpulse.UDP.SessionRuns

namespace Rdpulse.Relay.AgentDatagrams

open Foundation Protocol UDP
open Rdpulse.Path (AddrPort)

/-! The datagrams of one agent session: its loop over what the agent sends, its public
UDP listener, its session table, and the controllers that connect to it. -/

inductive Sender
  | client (sess : Nat)
  | controller (tr : Nat)
  deriving DecidableEq

structure Forwarded where
  sess : Nat
  sessionID : UInt32
  clientAddr : ClientAddr
  packet : Bytes
  deriving DecidableEq

/-- `nextSessionID` is the counter of the coordinator, which all agents share. The
transport of a controller has the number of the thread that serves it. The last four
fields record what came from the agent and where everything went. -/
structure AgentState where
  deviceID : GoString
  publicPort : UInt16
  sessions : SessionManager
  reassembler : Reassembler
  fragmenter : Fragmenter
  nextPacketID : UInt32
  controllerRoutes : AList fun _ : UInt32 => Nat
  nextSessionID : UInt32
  fromAgent : List Bytes
  toControllers : List (Nat × Bytes)
  toClients : List Forwarded
  toAgent : List (Sender × Bytes)

inductive DatagramLoop
  | receiving
  | holding (datagram : Bytes)
  | stopped
  deriving DecidableEq

inductive RelayThread
  /-- `StartUDPReceiveFromAgent` -/
  | receiveFromAgent
  | routing (hdr : UDPHeader) (payload datagram : Bytes)
  | toController (tr : Nat) (datagram : Bytes)
  | assembling (hdr : UDPHeader) (payload : Bytes)
  | lookup (sessionID : UInt32) (assembled : Bytes)
  | writing (sess : Nat) (sessionID : UInt32) (assembled : Bytes)
  /-- `StartUDPClientListener` -/
  | receiveFromClients
  | fromClient (client : AddrPort) (packet : Bytes)
  | sending (sess : Nat) (datagrams : List Bytes)
  /-- `Remove` on a UDP_CLOSE message, the sweeper, and `Close` -/
  | sessions (thread : SessionThread)
  /-- The cleaner of the reassembler -/
  | cleaning
  /-- `HandleConnectRequest` for other agents, or without success -/
  | otherRequests
  /-- A connection with a CONNECT_REQUEST for this agent: before its session id is
  drawn, before its route is registered, and until it ends. -/
  | connect
  | issued (sessionID : UInt32)
  | controller (sessionID : UInt32) (registered : Bool) (loop : DatagramLoop)
  | refused
  | stopped
  deriving DecidableEq

def RelayThread.entry : RelayThread → Bool
  | .sessions (.remove _) | .sessions .sweep | .sessions .close | .connect => true
  | _ => false

/-- What the code leaves open: what a receive returns, whether the ACL or the rest of
`HandleConnectRequest` refuses, whether both transports have datagrams, and which of the
two goroutines of a controller moves. -/
structure RelayChoice where
  datagram : Option Bytes
  client : AddrPort
  accepted : Bool
  datagrams : Bool
  loopMoves : Bool
  now : Nat
  session : SessionChoice

def step (self : Nat) (state : AgentState) (thread : RelayThread) (choice : RelayChoice) :
    Option (AgentState × RelayThread) :=
  match thread with
  | .receiveFromAgent =>
      match choice.datagram with
      | none => some (state, .stopped)
      | some datagram =>
          let state := { state with fromAgent := state.fromAgent ++ [datagram] }
          match decodeUDP datagram with
          | .error _ => some (state, .receiveFromAgent)
          | .ok (hdr, payload) => some (state, .routing hdr payload datagram)
  | .routing hdr payload datagram =>
      match state.controllerRoutes.lookup hdr.sessionID with
      | some tr => some (state, .toController tr datagram)
      | none => some (state, .assembling hdr payload)
  | .toController tr datagram =>
      some ({ state with toControllers := state.toControllers ++ [(tr, datagram)] },
        .receiveFromAgent)
  | .assembling hdr payload =>
      match state.reassembler.feedAppend false hdr payload choice.now with
      | (reassembler, .ok (some assembled)) =>
          some ({ state with reassembler }, .lookup hdr.sessionID assembled)
      | (reassembler, _) => some ({ state with reassembler }, .receiveFromAgent)
  | .lookup sessionID assembled =>
      match state.sessions.getByID sessionID (choice.session.clock 0) with
      | (none, sessions) => some ({ state with sessions }, .receiveFromAgent)
      | (some sess, sessions) => some ({ state with sessions }, .writing sess sessionID assembled)
  | .writing sess sessionID assembled =>
      match state.sessions.sessions[sess]? with
      | none => none
      | some s =>
          some ({ state with
            toClients := state.toClients ++ [⟨sess, sessionID, s.clientAddr, assembled⟩] },
            .receiveFromAgent)
  | .receiveFromClients =>
      match choice.datagram with
      | none => some (state, .stopped)
      | some packet =>
          if choice.accepted then some (state, .fromClient choice.client packet)
          else some (state, .receiveFromClients)
  | .fromClient client packet =>
      let key : SessionKey :=
        { deviceID := state.deviceID
          publicPort := state.publicPort
          clientAddr := { addr := some client.addr, port := client.port } }
      match state.sessions.getOrCreateByKey key (choice.session.clock 0) (choice.session.clock 1)
          choice.session.draws with
      | none => none
      | some ((none, _), sessions) => some ({ state with sessions }, .receiveFromClients)
      | some ((some sess, _), sessions) =>
          let packetID := state.nextPacketID + 1
          let state := { state with sessions, nextPacketID := packetID }
          match sessions.sessions[sess]? with
          | none => none
          | some s =>
              match state.fragmenter.fragment s.id packetID packet with
              | .error _ => some (state, .receiveFromClients)
              | .ok datagrams => some (state, .sending sess datagrams)
  | .sending sess datagrams =>
      match datagrams with
      | [] => some (state, .receiveFromClients)
      | datagram :: rest =>
          some ({ state with toAgent := state.toAgent ++ [(.client sess, datagram)] },
            .sending sess rest)
  | .sessions thread =>
      match SessionThread.step self state.sessions thread choice.session with
      | none => none
      | some (sessions, thread) => some ({ state with sessions }, .sessions thread)
  | .cleaning =>
      if choice.accepted then
        some ({ state with reassembler := state.reassembler.sweep choice.now }, .cleaning)
      else some ({ state with reassembler := state.reassembler.close }, .stopped)
  | .otherRequests =>
      some ({ state with nextSessionID := state.nextSessionID + 1 }, .otherRequests)
  | .connect =>
      some ({ state with nextSessionID := state.nextSessionID + 1 },
        .issued ((state.nextSessionID + 1) ||| 0x80000000))
  | .issued sessionID =>
      if choice.accepted then
        some ({ state with controllerRoutes := state.controllerRoutes.insert sessionID self },
          .controller sessionID true (if choice.datagrams then .receiving else .stopped))
      else some (state, .refused)
  | .controller sessionID registered loop =>
      if choice.loopMoves then
        match loop with
        | .receiving =>
            match choice.datagram with
            | none => some (state, .controller sessionID registered .stopped)
            | some datagram =>
                match decodeUDP datagram with
                | .error _ => some (state, .controller sessionID registered .receiving)
                | .ok (hdr, _) =>
                    if hdr.sessionID ≠ sessionID then
                      some (state, .controller sessionID registered .receiving)
                    else some (state, .controller sessionID registered (.holding datagram))
        | .holding datagram =>
            some ({ state with toAgent := state.toAgent ++ [(.controller self, datagram)] },
              .controller sessionID registered (if choice.accepted then .receiving else .stopped))
        | .stopped => none
      else if registered then
        some ({ state with
          controllerRoutes :=
            if state.controllerRoutes.lookup sessionID = some self then
              state.controllerRoutes.erase sessionID
            else state.controllerRoutes }, .controller sessionID false loop)
      else none
  | .refused | .stopped => none

def program : Program AgentState RelayThread RelayChoice where
  entry := RelayThread.entry
  step := step

abbrev RelayPool := Pool AgentState RelayThread

def initialPool (deviceID : GoString) (publicPort : UInt16) (idleTimeout : Int)
    (limits : SessionLimits) (reassemblyTimeout : Nat) (datagramPayload : Int)
    (counter : UInt32) : RelayPool where
  shared :=
    { deviceID, publicPort
      sessions := newSessionManagerWithLimits idleTimeout limits
      reassembler := Reassembler.new reassemblyTimeout
      fragmenter := newFragmenter datagramPayload
      nextPacketID := 0
      controllerRoutes := ∅
      nextSessionID := counter
      fromAgent := []
      toControllers := []
      toClients := []
      toAgent := [] }
  threads := [.receiveFromAgent, .receiveFromClients, .otherRequests, .cleaning]

end Rdpulse.Relay.AgentDatagrams
