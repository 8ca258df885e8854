import Rdpulse.Foundation.Threads
import Rdpulse.Protocol.TCP
import Rdpulse.TCP.Proxy

namespace Rdpulse.TCP

open Foundation Pipes Protocol

/-! The way of an RDP connection through the system. A visitor (mstsc) connects to the
public port of an Agent at the Relay, or to the local port of a Controller; the Controller
opens a stream to the Relay, the Relay one to the Agent, and the Agent a connection to its
RDP service. Any number of Agents, Controllers and connections are there at once.

These are the relayed connections. `proxyViaDirectTCP` and `handleDirectTCP`, which join a
Controller and an Agent without the Relay by `Bridge`, are left out: a connection to a local
port that takes the direct path is one that nobody accepts here, and the connection that
`handleDirectTCP` makes to the RDP service is none of these pipes. -/

inductive Place
  | publicPort (agent : Nat)
  | localPort (controller : Nat)
  | relay (controller : Nat)
  | agent (agent : Nat)
  | rdp (agent : Nat)
  deriving DecidableEq, Repr

/-- What the deployment fixes: the `target` of each Controller's stream loop, and what the
streams are carried by. -/
structure Deployment where
  target : Nat → Nat
  controllerCarrier : Nat → Carrier
  agentCarrier : Nat → Carrier
  window : Nat

variable (deployment : Deployment)

def carrier : Place → Carrier
  | .publicPort _ | .localPort _ | .rdp _ => .tcp
  | .relay controller => deployment.controllerCarrier controller
  | .agent agent => deployment.agentCarrier agent

/-- Where a handler of connections to this place opens its own. -/
def onward : Place → Place
  | .publicPort agent => .agent agent
  | .localPort controller => .relay controller
  | .relay controller => .agent (deployment.target controller)
  | .agent agent | .rdp agent => .rdp agent

/-- A connection, and which thread holds each of its ends. -/
structure PipeInfo where
  place : Place
  opener : Nat
  accepter : Option Nat
  deriving DecidableEq, Repr

structure Network where
  pipes : Pipes PipeInfo
  /-- `nextConnID` of each Agent's session. -/
  nextConnID : Nat → UInt32

def Network.initial : Network where
  pipes := Pipes.initial
  nextConnID := fun _ => 0

def Network.withPipes (network : Network) (pipes : Pipes PipeInfo) : Network :=
  { network with pipes := pipes }

@[simp] theorem Network.withPipes_pipes (network : Network) (pipes : Pipes PipeInfo) :
    (network.withPipes pipes).pipes = pipes := rfl

def Network.fresh (network : Network) : Nat := network.pipes.infos.length

def Network.dial (network : Network) (self : Nat) (place : Place) : Network :=
  network.withPipes
    (network.pipes.openPipe ⟨place, self, none⟩ deployment.window (carrier deployment place).prompt)

/-! ## Handlers -/

/-- What the function that started the copying does meanwhile and afterwards. -/
inductive CallerPoint
  | waiting
  | cancelling (ops : List EndOp)
  | leaving (ops : List EndOp)
  deriving DecidableEq, Repr

inductive SinglePoint
  | checking
  | opening
  | readOpen (got : Bytes)
  | dialing (hdr : TCPHeader)
  | writeError (call : WriteCall)
  | leaving (ops : List EndOp)
  deriving DecidableEq, Repr

/-- A handler that has opened the next connection, too. -/
inductive DoublePoint
  | writeOpen (call : WriteCall)
  | readAnswer (got : Bytes)
  | writeOK (call : WriteCall)
  | proxying (splice : Splice) (caller : CallerPoint)
  | leaving (ops : List EndOp)
  deriving DecidableEq, Repr

/-- `visitor` and `service` are mstsc and the RDP service before they have a connection, and
`user` is either with its end. `accepting`, `single` and `double` are `handleTCPClient` of the
Relay, `handleTCPClient` of a Controller where it comes to `proxyViaRelay`,
`handleControllerRelayStream` and `handleIncomingStream`, by where they accept. -/
inductive Thread
  | visitor (place : Place)
  | service (agent : Nat)
  | user (e : End)
  | faults
  | accepting (place : Place)
  | single (place : Place) (accepted : Nat) (point : SinglePoint)
  | double (place : Place) (accepted opened : Nat) (point : DoublePoint)
  deriving DecidableEq, Repr

inductive Choice
  | go
  | accept (index : Nat)
  | answer (yes : Bool)
  | io (choice : IOChoice)
  | splice (choice : SpliceChoice)
  | cancel
  | caller
  | send (bytes : Bytes)
  | receive (count : Nat)
  | shut (writing : Bool)
  | fault (e : End) (broken : Bool)
  deriving DecidableEq, Repr

/-- `Accept` and `AcceptStream` hand out each connection once. -/
def acceptPipe (network : Network) (self : Nat) (place : Place) (index : Nat) : Option Network :=
  match network.pipes.infos[index]? with
  | none => none
  | some info =>
      if info.place = place ∧ info.accepter = none then
        some (network.withPipes (network.pipes.setInfo index { info with accepter := some self }))
      else none

def acceptedEnd (accepted : Nat) : End := ⟨accepted, .far⟩
def openedEnd (opened : Nat) : End := ⟨opened, .near⟩

def rdpPort : UInt16 := 3389

def openHeader (connectionID : UInt32) : TCPHeader where
  version := tcpProtocolVersion
  type := tcpTypeOpen
  connectionID := connectionID
  targetPort := rdpPort

def okHeader (hdr : TCPHeader) : TCPHeader where
  version := tcpProtocolVersion
  type := tcpTypeOpenOK
  connectionID := hdr.connectionID
  targetPort := hdr.targetPort

def errorHeader (hdr : TCPHeader) : TCPHeader where
  version := tcpProtocolVersion
  type := tcpTypeError
  connectionID := hdr.connectionID
  targetPort := 0

def wiring (place : Place) (accepted opened : Nat) : Wiring :=
  match place with
  | .relay _ =>
      relayStreams (acceptedEnd accepted) (openedEnd opened) (carrier deployment place)
        (carrier deployment (onward deployment place))
  | .agent _ => proxyRun (openedEnd opened) (acceptedEnd accepted) (carrier deployment place)
  | .publicPort _ | .localPort _ | .rdp _ =>
      proxyRun (acceptedEnd accepted) (openedEnd opened) (carrier deployment (onward deployment place))

/-- The counters of the function that copies; the copying of the Relay's streams has none. -/
def stats (place : Place) (splice : Splice) : Option ProxyStats :=
  match place with
  | .relay _ => none
  | .publicPort _ | .localPort _ | .agent _ | .rdp _ => some (proxyStats splice)

def closeAccepted (place : Place) (accepted : Nat) : List EndOp :=
  match place with
  | .relay _ | .agent _ => closeStream (carrier deployment place) (acceptedEnd accepted)
  | .publicPort _ | .localPort _ | .rdp _ => closeConn (acceptedEnd accepted)

/-- The deferred calls of a handler with both connections; the last deferred comes first. -/
def closeBoth (place : Place) (accepted opened : Nat) : List EndOp :=
  let openedOps :=
    match place with
    | .agent _ => closeConn (openedEnd opened)
    | _ => closeStream (carrier deployment (onward deployment place)) (openedEnd opened)
  openedOps ++ closeAccepted deployment place accepted

def firstPoint : Place → SinglePoint
  | .publicPort _ => .checking
  | .localPort _ | .relay _ | .rdp _ => .opening
  | .agent _ => .readOpen []

/-- What is left to do at the end of a handler, or `none` where it is not at its end. -/
def nextOp : List EndOp → Option (EndOp × List EndOp)
  | [] => none
  | op :: ops => some (op, ops)

def stepSingle (self : Nat) (network : Network) (place : Place) (accepted : Nat)
    (choice : Choice) : SinglePoint → Option (Network × Thread)
  | .checking =>
      match choice with
      | .answer true => some (network, .single place accepted .opening)
      | .answer false =>
          some (network, .single place accepted (.leaving (closeAccepted deployment place accepted)))
      | _ => none
  | .opening =>
      match choice with
      | .answer false =>
          some (network, .single place accepted (.leaving (closeAccepted deployment place accepted)))
      | .answer true =>
          let opened := network.fresh
          let dialed := network.dial deployment self (onward deployment place)
          match onward deployment place with
          | .agent agent =>
              let connID := network.nextConnID agent + 1
              some ({ dialed with nextConnID := Function.update network.nextConnID agent connID },
                .double place accepted opened (.writeOpen (.starting (openHeader connID).encode)))
          | _ => some (dialed, .double place accepted opened (.proxying .start .waiting))
      | _ => none
  | .readOpen got =>
      match choice with
      | .io io =>
          match network.pipes.readFull (acceptedEnd accepted) tcpHeaderSize got io with
          | none => none
          | some (pipes, .pending got) =>
              some (network.withPipes pipes, .single place accepted (.readOpen got))
          | some (pipes, .complete buf) =>
              match readTCPHeader buf with
              | .ok hdr =>
                  if hdr.type = tcpTypeOpen then
                    some (network.withPipes pipes, .single place accepted (.dialing hdr))
                  else some (network.withPipes pipes,
                    .single place accepted (.leaving (closeAccepted deployment place accepted)))
              | .error _ => some (network.withPipes pipes,
                  .single place accepted (.leaving (closeAccepted deployment place accepted)))
          | some (pipes, .failed) => some (network.withPipes pipes,
              .single place accepted (.leaving (closeAccepted deployment place accepted)))
      | _ => none
  | .dialing hdr =>
      match choice with
      | .answer true =>
          some (network.dial deployment self (onward deployment place),
            .double place accepted network.fresh (.writeOK (.starting (okHeader hdr).encode)))
      | .answer false =>
          some (network, .single place accepted (.writeError (.starting (errorHeader hdr).encode)))
      | _ => none
  | .writeError call =>
      match choice with
      | .io io =>
          match network.pipes.write (acceptedEnd accepted) call io with
          | none => none
          | some (pipes, .pending later) =>
              some (network.withPipes pipes, .single place accepted (.writeError later))
          | some (pipes, _) => some (network.withPipes pipes,
              .single place accepted (.leaving (closeAccepted deployment place accepted)))
      | _ => none
  | .leaving ops =>
      match choice, nextOp ops with
      | .go, some (op, later) =>
          some (network.withPipes (network.pipes.apply op), .single place accepted (.leaving later))
      | _, _ => none

/-- The caller of the copying waits for it, or for its context where it looks at that, and
then closes both connections. -/
def stepCaller (place : Place) (accepted opened : Nat) (network : Network) (splice : Splice)
    (choice : Choice) : CallerPoint → Option (Network × CallerPoint)
  | .waiting =>
      match choice, place, splice.owner with
      | .caller, _, .returned _ => some (network, .leaving (closeBoth deployment place accepted opened))
      | .cancel, .localPort _, _ =>
          some (network, .cancelling (wiring deployment place accepted opened).closing)
      | _, _, _ => none
  | .cancelling ops =>
      match choice, nextOp ops with
      | .caller, some (op, later) =>
          some (network.withPipes (network.pipes.apply op), .cancelling later)
      | .caller, none => some (network, .leaving (closeBoth deployment place accepted opened))
      | _, _ => none
  | .leaving ops =>
      match choice, nextOp ops with
      | .caller, some (op, later) =>
          some (network.withPipes (network.pipes.apply op), .leaving later)
      | _, _ => none

def stepDouble (network : Network) (place : Place) (accepted opened : Nat)
    (choice : Choice) : DoublePoint → Option (Network × DoublePoint)
  | .writeOpen call =>
      match choice with
      | .io io =>
          match network.pipes.write (openedEnd opened) call io with
          | none => none
          | some (pipes, .pending later) => some (network.withPipes pipes, .writeOpen later)
          | some (pipes, .succeeded) => some (network.withPipes pipes, .readAnswer [])
          | some (pipes, .failed _) => some (network.withPipes pipes,
              .leaving (closeBoth deployment place accepted opened))
      | _ => none
  | .readAnswer got =>
      match choice with
      | .io io =>
          match network.pipes.readFull (openedEnd opened) tcpHeaderSize got io with
          | none => none
          | some (pipes, .pending got) => some (network.withPipes pipes, .readAnswer got)
          | some (pipes, .complete buf) =>
              match readTCPHeader buf with
              | .ok hdr =>
                  if hdr.type = tcpTypeOpenOK then
                    some (network.withPipes pipes, .proxying .start .waiting)
                  else some (network.withPipes pipes,
                    .leaving (closeBoth deployment place accepted opened))
              | .error _ => some (network.withPipes pipes,
                  .leaving (closeBoth deployment place accepted opened))
          | some (pipes, .failed) => some (network.withPipes pipes,
              .leaving (closeBoth deployment place accepted opened))
      | _ => none
  | .writeOK call =>
      match choice with
      | .io io =>
          match network.pipes.write (acceptedEnd accepted) call io with
          | none => none
          | some (pipes, .pending later) => some (network.withPipes pipes, .writeOK later)
          | some (pipes, .succeeded) =>
              some (network.withPipes pipes, .proxying .start .waiting)
          | some (pipes, .failed _) => some (network.withPipes pipes,
              .leaving (closeBoth deployment place accepted opened))
      | _ => none
  | .proxying splice caller =>
      match choice with
      | .splice goroutine =>
          match splice.step network.pipes (wiring deployment place accepted opened) goroutine with
          | none => none
          | some (pipes, moved) => some (network.withPipes pipes, .proxying moved caller)
      | _ =>
          match stepCaller deployment place accepted opened network splice choice caller with
          | none => none
          | some (moved, next) => some (moved, .proxying splice next)
  | .leaving ops =>
      match choice, nextOp ops with
      | .go, some (op, later) =>
          some (network.withPipes (network.pipes.apply op), .leaving later)
      | _, _ => none

def stepUser (network : Network) (e : End) : Choice → Option Network
  | .send bytes =>
      let lane := network.pipes.lanes e
      if lane.ended ∨ lane.window < lane.waiting.length + bytes.length then none
      else some (network.withPipes (network.pipes.push e bytes))
  | .receive count => some (network.withPipes (network.pipes.pull e count))
  | .shut true => some (network.withPipes (network.pipes.apply (.endWriting e)))
  | .shut false => some (network.withPipes (network.pipes.apply (.endReading e)))
  | _ => none

def step (self : Nat) (network : Network) (thread : Thread) (choice : Choice) :
    Option (Network × Thread) :=
  match thread with
  | .visitor place =>
      some (network.dial deployment self place, .user (openedEnd network.fresh))
  | .service agent =>
      match choice with
      | .accept index =>
          (acceptPipe network self (.rdp agent) index).map fun next => (next, .user (acceptedEnd index))
      | _ => none
  | .user e => (stepUser network e choice).map fun next => (next, .user e)
  | .faults =>
      match choice with
      | .fault e broken => some (network.withPipes (network.pipes.setBroken e broken), .faults)
      | _ => none
  | .accepting place =>
      match choice with
      | .accept index =>
          (acceptPipe network self place index).map fun next =>
            (next, .single place index (firstPoint place))
      | _ => none
  | .single place accepted point => stepSingle deployment self network place accepted choice point
  | .double place accepted opened point =>
      (stepDouble deployment network place accepted opened choice point).map fun result =>
        (result.1, .double place accepted opened result.2)

def entry : Thread → Bool
  | .visitor (.publicPort _) | .visitor (.localPort _) => true
  | .service _ | .faults => true
  | .accepting (.publicPort _) | .accepting (.localPort _) => true
  | .accepting (.relay _) | .accepting (.agent _) => true
  | _ => false

def program : Program Network Thread Choice where
  entry := entry
  step := step deployment

abbrev NetworkPool := Pool Network Thread

def initialPool : NetworkPool where
  shared := Network.initial
  threads := []

end Rdpulse.TCP
