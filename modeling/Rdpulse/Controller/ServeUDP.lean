import Rdpulse.Path.DirectUDP
import Rdpulse.Path.Effects
import Rdpulse.Protocol.Control

namespace Rdpulse.Controller

open Foundation Protocol UDP Rdpulse.Path

/-! The controller's way from the path manager back to mstsc: the receive goroutine
of `serveUDP`, which calls `ReceiveUDP` over and over, beside the other operations on
the manager and the loop that reads the control stream. -/

/-- What the goroutine and the control loop share. `relayClosed` says that the
connection to the relay is lost for good: its `ReceiveDatagram` and its streams then
answer at once with an error that is neither `io.EOF` nor `context.Canceled`. -/
structure ServeState where
  manager : Manager
  p2pCodec : Option P2PCodec
  reassembler : Reassembler
  replayWindow : ReplayWindow
  relayClosed : Bool
  lastClientAddr : Option AddrPort
  /-- What was written to mstsc, latest first. -/
  written : List (AddrPort × Bytes)

inductive ReceiveError
  | endOfFile
  | canceled
  | other
  deriving DecidableEq, Repr

inductive ReceivePoint
  | selectDone
  | loadPath
  | readPunch
  | readDirect (res : PunchResult) (codec : P2PCodec)
  | relayReceive
  | disabled
  | register
  | recheck (waiter : Nat)
  | wait (waiter : Nat)
  | fallback (point : FallbackPoint)
  deriving DecidableEq, Repr

inductive ServePoint
  | select
  | receive (point : ReceivePoint)
  | classify (err : ReceiveError)
  | deliver (payload : Bytes)
  | returned
  deriving DecidableEq, Repr

inductive ControlPoint
  | read
  | handle (sessionID : UInt32) (type : MsgType)
  | close (point : ClosePoint)
  | select
  | returned
  deriving DecidableEq, Repr

inductive ServeThread
  | operation (thread : Thread)
  | receiver (point : ServePoint)
  | controlLoop (sessionID : UInt32) (point : ControlPoint)
  /-- The main loop of `serveUDP` reads a packet of mstsc from this address. -/
  | localPacket (addr : AddrPort) (stored : Bool)
  /-- The connection to the relay is lost. -/
  | loseRelay (lost : Bool)
  deriving DecidableEq, Repr

/-- What the code leaves open: what a read yields, and which of several ready
channels a select takes. -/
inductive ServeChoice
  | operation (choice : Choice)
  | proceed
  | contextDone
  | packet (source : AddrPort) (packet : Bytes) (now : Nat)
  | datagram (datagram : Bytes) (now : Nat)
  | readError (err : ReceiveError)
  | message (sessionID : UInt32) (type : MsgType)
  deriving DecidableEq, Repr

namespace ServeState

variable (state : ServeState)

/-- A packet read from the punched socket, and the payload that it completes. -/
def receiveDirect (remote source : AddrPort) (codec : P2PCodec) (packet : Bytes) (now : Nat) :
    ServeState × Option Bytes :=
  if sameAddrPort source remote = false then (state, none)
  else if isPunchPacket packet = true then (state, none)
  else
    match codec.decode packet with
    | .error _ => (state, none)
    | .ok datagram =>
        match decodeUDP datagram with
        | .error _ => (state, none)
        | .ok (hdr, fragPayload) =>
            if state.replayWindow.seen hdr.packetID = true then (state, none)
            else
              let fed := state.reassembler.feedAppend false hdr fragPayload now
              match fed.2 with
              | .error _ => ({ state with reassembler := fed.1 }, none)
              | .ok none => ({ state with reassembler := fed.1 }, none)
              | .ok (some assembled) =>
                  let marked := state.replayWindow.markCompleted hdr.packetID
                  ({ state with reassembler := fed.1, replayWindow := marked.2 },
                    if marked.1 = true then some assembled else none)

/-- A datagram from the relay, and the payload that it completes. -/
def receiveRelay (datagram : Bytes) (now : Nat) : ServeState × Option Bytes :=
  let received := state.reassembler.receive false datagram now
  ({ state with reassembler := received.1 },
    match received.2 with
    | .ok assembled => assembled
    | .error _ => none)

def deliver (payload : Bytes) : ServeState :=
  match state.lastClientAddr with
  | some clientAddr =>
      if 0 < payload.length then { state with written := (clientAddr, payload) :: state.written }
      else state
  | none => state

def withManager (manager : Manager) : ServeState := { state with manager := manager }

end ServeState

/-- `ReceiveUDP` goes on with its loop, or returns the payload. -/
def continueOr : Option Bytes → ServePoint
  | none => .receive .selectDone
  | some payload => .deliver payload

/-- `FallbackUDPFromDirect` inside `ReceiveUDP`. -/
def resumeServe : FallbackPoint → ServePoint
  | .returned => .receive .selectDone
  | point => .receive (.fallback point)

def stepReceive (remoteAddr : PunchResult → AddrPort) (self : Nat) (state : ServeState)
    (choice : ServeChoice) : ReceivePoint → Option (ServeState × ServePoint)
  | .selectDone =>
      if state.manager.contextDone || state.manager.managerDone then
        some (state, .classify .canceled)
      else some (state, .receive .loadPath)
  | .loadPath =>
      match state.manager.udpPath with
      | .directLAN | .directUDP => some (state, .receive .readPunch)
      | .relay =>
          if state.manager.relayTransport.isNone then some (state, .receive .register)
          else some (state, .receive .relayReceive)
      | .disabled => some (state, .receive .disabled)
      | .unknown | .directTCP => some (state, .receive .register)
  | .readPunch =>
      if state.manager.mu.isSome then none
      else
        match state.manager.directUDPPunch with
        | none => some (state, .receive (.fallback .lock))
        | some res =>
            if res.conn = false then some (state, .receive (.fallback .lock))
            else
              match state.p2pCodec with
              | none => some (state, .receive (.fallback .lock))
              | some codec => some (state, .receive (.readDirect res codec))
  | .readDirect res codec =>
      match choice with
      | .packet source packet now =>
          let received := state.receiveDirect (remoteAddr res) source codec packet now
          some (received.1, continueOr received.2)
      | .readError _ => some (state, .receive .selectDone)
      | _ => none
  | .relayReceive =>
      if state.relayClosed then
        if choice = .contextDone ∧ state.manager.contextDone then
          some (state, .classify .canceled)
        else some (state, .classify .other)
      else
        match choice with
        | .datagram datagram now =>
            let received := state.receiveRelay datagram now
            some (received.1, continueOr received.2)
        | .contextDone =>
            if state.manager.contextDone then some (state, .classify .canceled) else none
        | .readError err => some (state, .classify err)
        | _ => none
  | .disabled => if state.manager.contextDone then some (state, .classify .canceled) else none
  | .register =>
      let (registered, waiter) := state.manager.pathWaiter
      some (state.withManager registered, .receive (.recheck waiter))
  | .recheck waiter =>
      if state.manager.udpPath ≠ .unknown ∧ state.manager.relayTransport.isSome then
        some (state, .receive .selectDone)
      else some (state, .receive (.wait waiter))
  | .wait waiter =>
      match choice with
      | .contextDone =>
          if state.manager.contextDone || state.manager.managerDone then
            some (state, .classify .canceled)
          else none
      | _ => if state.manager.waiterClosed waiter then some (state, .receive .selectDone) else none
  | .fallback point =>
      (stepFallback self state.manager point).map fun (moved, next) =>
        (state.withManager moved, resumeServe next)

/-- The goroutine. It returns on `io.EOF` and `context.Canceled` only. -/
def stepServe (remoteAddr : PunchResult → AddrPort) (self : Nat) (state : ServeState)
    (choice : ServeChoice) : ServePoint → Option (ServeState × ServePoint)
  | .select =>
      if state.manager.contextDone then some (state, .returned)
      else some (state, .receive .selectDone)
  | .receive point => stepReceive remoteAddr self state choice point
  | .classify err =>
      if err = .endOfFile ∨ err = .canceled then some (state, .returned)
      else some (state, .select)
  | .deliver payload => some (state.deliver payload, .select)
  | .returned => none

/-- `controllerControlLoop`. A failed read ends it, and the path manager stays open. -/
def stepControl (self : Nat) (state : ServeState) (choice : ServeChoice) (own : UInt32) :
    ControlPoint → Option (ServeState × ControlPoint)
  | .read =>
      match choice with
      | .message sessionID type =>
          if state.relayClosed then none else some (state, .handle sessionID type)
      | .readError _ => some (state, .returned)
      | _ => none
  | .handle sessionID type =>
      if sessionID ≠ 0 ∧ sessionID ≠ own then some (state, .read)
      else
        match type with
        | .candidateExchange =>
            -- `AddCandidates` takes the mutex for fields that nothing here reads.
            if state.manager.mu.isSome then none else some (state, .select)
        | .sessionClose => some (state, .close .swap)
        | _ => some (state, .select)
  | .close point =>
      (stepClose self state.manager point).map fun (moved, next) =>
        (state.withManager moved, if next = .returned then .returned else .close next)
  | .select =>
      if state.manager.contextDone then some (state, .returned) else some (state, .read)
  | .returned => none

def stepServing (remoteAddr : PunchResult → AddrPort) (self : Nat) (state : ServeState)
    (thread : ServeThread) (choice : ServeChoice) : Option (ServeState × ServeThread) :=
  match thread with
  | .operation thread =>
      match choice with
      | .operation choice =>
          (step self state.manager thread choice).map fun (moved, next) =>
            (state.withManager moved, .operation next)
      | _ => none
  | .receiver point =>
      (stepServe remoteAddr self state choice point).map fun (moved, next) =>
        (moved, .receiver next)
  | .controlLoop own point =>
      (stepControl self state choice own point).map fun (moved, next) =>
        (moved, .controlLoop own next)
  | .localPacket addr false =>
      some ({ state with lastClientAddr := some addr }, .localPacket addr true)
  | .localPacket _ true => none
  | .loseRelay false => some ({ state with relayClosed := true }, .loseRelay true)
  | .loseRelay true => none

def ServeThread.entry : ServeThread → Bool
  | .operation thread => Path.entry thread
  | .receiver point => point = .select
  | .controlLoop _ point => point = .read
  | .localPacket _ stored => !stored
  | .loseRelay lost => !lost

def serving (remoteAddr : PunchResult → AddrPort) :
    Program ServeState ServeThread ServeChoice where
  entry := ServeThread.entry
  step := stepServing remoteAddr

abbrev ServePool := Pool ServeState ServeThread

abbrev ServeEvent := PoolEvent ServeThread ServeChoice

def initialServing (relayTransport : Option RelayTransport) (p2pCodec : Option P2PCodec)
    (timeout : Nat) : ServePool where
  shared := {
    manager := .new relayTransport p2pCodec.isSome
    p2pCodec := p2pCodec
    reassembler := .new timeout
    replayWindow := .new
    relayClosed := false
    lastClientAddr := none
    written := [] }
  threads := []

end Rdpulse.Controller
