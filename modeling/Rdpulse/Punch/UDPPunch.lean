import Rdpulse.Foundation.Threads
import Rdpulse.Path.DirectUDP
import Rdpulse.Protocol.Control
import Rdpulse.Punch.UDPDispatcher

namespace Rdpulse.Punch.UDPPunch

open Foundation Protocol
open Rdpulse.Path (AddrPort Side)

/-! UDP hole punching: any number of runs of `PunchUDPDispatched` at the two ends of
a connection, each with its receive goroutine, over one dispatcher at each end. A
datagram may be lost, delayed and repeated, and a host may send whatever it likes
from its own address. -/

structure Creation where
  author : Side
  sessionID : UInt64
  token : Bytes
  packet : PunchPacket
  deriving DecidableEq

/-- Who put a datagram on the wire: the end that made the packet, or a host at this
address. -/
inductive Sender
  | creator (creation : Creation)
  | host (address : AddrPort)
  deriving DecidableEq

/-- `source` is the address from which the datagram arrives, after any translation. -/
structure Flight where
  source : AddrPort
  destination : AddrPort
  data : Bytes
  sender : Sender
  deriving DecidableEq

def Flight.read (flight : Flight) : Bytes := flight.data.take readBufferSize

/-- `flights` holds every datagram ever sent, `arrivals` what each end has read. -/
structure Network where
  dispatchers : Side → UDPDispatcher
  flights : List Flight
  created : List Creation
  arrivals : Side → List Flight

def Network.initial : Network where
  dispatchers _ := newUDPDispatcher
  flights := []
  created := []
  arrivals _ := []

def Network.setDispatcher (network : Network) (side : Side) (d : UDPDispatcher) : Network :=
  { network with dispatchers := Function.update network.dispatchers side d }

inductive Action
  | nothing
  | register (side : Side) (sessionID : UInt64) (key : Bytes)
  | create (creation : Creation)
  | write (creation : Creation) (source destination : AddrPort)
  | receive (side : Side) (packets : Nat)
  | release (side : Side) (sessionID : UInt64) (packets : Nat)
  | drainPackets (side : Side) (packets : Nat)
  | close (side : Side)
  | arrive (side : Side) (flight : Flight)
  | dispatch (side : Side) (packet : UDPPacket)
  | send (source destination : AddrPort) (data : Bytes)
  deriving DecidableEq

/-- A write to a closed socket fails, which no caller looks at. -/
def Action.apply (network : Network) : Action → Network
  | .nothing => network
  | .register side sessionID key =>
      match (network.dispatchers side).register sessionID key with
      | .ok (_, registered) => network.setDispatcher side registered
      | .error _ => network
  | .create creation => { network with created := creation :: network.created }
  | .write creation source destination =>
      if (network.dispatchers creation.author).done then network
      else
        { network with
          flights := network.flights ++
            [⟨source, destination, creation.packet.encode, .creator creation⟩] }
  | .receive side packets =>
      network.setDispatcher side ((network.dispatchers side).receive packets)
  | .release side sessionID packets =>
      network.setDispatcher side ((network.dispatchers side).release sessionID packets)
  | .drainPackets side packets =>
      network.setDispatcher side ((network.dispatchers side).drainPackets packets)
  | .close side => network.setDispatcher side (network.dispatchers side).close
  | .arrive side flight =>
      { network with
        arrivals := Function.update network.arrivals side (flight :: network.arrivals side) }
  | .dispatch side packet =>
      network.setDispatcher side ((network.dispatchers side).dispatch packet)
  | .send source destination data =>
      { network with flights := network.flights ++ [⟨source, destination, data, .host source⟩] }

/-! ## Candidates -/

/-- "udp" -/
def protocolUDP : GoString := [0x75, 0x64, 0x70]

/-- `net.ResolveUDPAddr`, which may answer differently each time. -/
abbrev Resolver := GoString → Option AddrPort

def resolveUDPCandidates (resolve : Resolver) (candidates : List CandidateInfo) :
    List AddrPort :=
  candidates.filterMap fun candidate =>
    if candidate.protocol = protocolUDP then resolve candidate.address else none

/-- Two addresses of one text: an IPv4 address in IPv6 form is printed as IPv4. -/
def sameUDPAddr (a b : AddrPort) : Bool :=
  a.addr.unmap = b.addr.unmap && a.port = b.port

def mergeUDPAddrs (current additions : List AddrPort) : List AddrPort :=
  (current ++ additions).foldl
    (fun merged addr => if merged.any (sameUDPAddr addr) then merged else merged ++ [addr]) []

/-! ## `PunchUDPDispatched` -/

inductive PunchFailure
  | dispatcherRequired
  | registration (err : RegisterError)
  | noCandidates
  | timeout
  deriving DecidableEq, Repr

/-- What became of a successful result: in use, released, drained. -/
inductive ClosePoint
  | kept
  | released
  | drained
  deriving DecidableEq, Repr

inductive PunchPoint
  | checkDispatcher
  | register
  | resolve
  | select
  | newPunch
  | punch (packet : PunchPacket) (left : List AddrPort)
  | newAck (peer : AddrPort)
  | acks (peer : AddrPort) (packet : PunchPacket) (left : Nat)
  | cancel (err : PunchFailure)
  | release (err : PunchFailure)
  | drain (err : PunchFailure)
  | failed (err : PunchFailure)
  | returned (remoteAddr : AddrPort) (closing : ClosePoint)
  | keepalive (remoteAddr : AddrPort) (packet : PunchPacket)
  deriving DecidableEq

inductive ReceivePoint
  | notStarted
  | select
  | decode (packet : UDPPacket)
  | newAck (remote : AddrPort)
  | ack (remote : AddrPort) (packet : PunchPacket)
  | confirm (remote : AddrPort)
  | push (remote : AddrPort)
  | exited
  deriving DecidableEq

/-- One call with its local variables. `candidateUpdates` tells whether that channel
is not nil; `once` and `done` are the `sync.Once` and the end of `punchCtx`. -/
structure Call where
  side : Side
  dispatcherNil : Bool
  candidates : List CandidateInfo
  candidateUpdates : Bool
  sessionID : UInt64
  sessionToken : Bytes
  packets : Nat
  targets : List AddrPort
  successCh : Option AddrPort
  confirmedPeer : Option AddrPort
  once : Bool
  done : Bool
  main : PunchPoint
  goroutine : ReceivePoint
  deriving DecidableEq

inductive Choice
  | proceed
  | resolved (resolve : Resolver)
  | success
  | update (candidates : List CandidateInfo) (resolve : Resolver)
  | updatesClosed
  | tick
  | done
  | nonce (nonce : UInt64)
  | fail
  | source (address : AddrPort)
  | keepalive (nonce : UInt64)
  | close

def Call.make (call : Call) (pktType : UInt8) (nonce : UInt64) : Option PunchPacket :=
  (newPunchPacket pktType call.sessionID call.sessionToken nonce).toOption

def Call.creation (call : Call) (packet : PunchPacket) : Creation :=
  ⟨call.side, call.sessionID, call.sessionToken, packet⟩

/-- The calling goroutine. Where an ACK cannot be made after success, the code uses a
nil packet, and the process ends. -/
def planMain (network : Network) (call : Call) (choice : Choice) : Option (Action × Call) :=
  match call.main with
  | .checkDispatcher =>
      if call.dispatcherNil then
        some (.nothing, { call with main := .failed .dispatcherRequired })
      else some (.nothing, { call with main := .register })
  | .register =>
      match (network.dispatchers call.side).register call.sessionID call.sessionToken with
      | .error err => some (.nothing, { call with main := .failed (.registration err) })
      | .ok (packets, _) =>
          some (.register call.side call.sessionID call.sessionToken,
            { call with packets := packets, main := .resolve })
  | .resolve =>
      match choice with
      | .resolved resolve =>
          let targets := resolveUDPCandidates resolve call.candidates
          if targets.length = 0 && !call.candidateUpdates then
            some (.nothing, { call with targets := targets, main := .cancel .noCandidates })
          else
            some (.nothing,
              { call with targets := targets, main := .select, goroutine := .select })
      | _ => none
  | .select =>
      match choice with
      | .success =>
          call.successCh.map fun peer =>
            (.nothing, { call with successCh := none, main := .newAck peer })
      | .update candidates resolve =>
          if call.candidateUpdates then
            some (.nothing,
              { call with
                targets := mergeUDPAddrs call.targets (resolveUDPCandidates resolve candidates) })
          else none
      | .updatesClosed =>
          if call.candidateUpdates then some (.nothing, { call with candidateUpdates := false })
          else none
      | .tick =>
          if call.confirmedPeer.isSome then some (.nothing, call)
          else some (.nothing, { call with main := .newPunch })
      | .done => if call.done then some (.nothing, { call with main := .cancel .timeout }) else none
      | _ => none
  | .newPunch =>
      match choice with
      | .nonce nonce =>
          match call.make punchTypePunch nonce with
          | none => some (.nothing, { call with main := .select })
          | some packet =>
              some (.create (call.creation packet),
                { call with main := .punch packet call.targets })
      | .fail => some (.nothing, { call with main := .select })
      | _ => none
  | .punch packet left =>
      match left with
      | [] => some (.nothing, { call with main := .select })
      | target :: rest =>
          match choice with
          | .source address =>
              some (.write (call.creation packet) address target,
                { call with main := .punch packet rest })
          | _ => none
  | .newAck peer =>
      match choice with
      | .nonce nonce =>
          (call.make punchTypePunchAck nonce).map fun packet =>
            (.create (call.creation packet), { call with main := .acks peer packet 3 })
      | _ => none
  | .acks peer packet left =>
      match left with
      | 0 => some (.nothing, { call with done := true, main := .returned peer .kept })
      | left + 1 =>
          match choice with
          | .source address =>
              some (.write (call.creation packet) address peer,
                { call with main := .acks peer packet left })
          | _ => none
  | .cancel err => some (.nothing, { call with done := true, main := .release err })
  | .release err =>
      some (.release call.side call.sessionID call.packets, { call with main := .drain err })
  | .drain err =>
      some (.drainPackets call.side call.packets, { call with main := .failed err })
  | .failed _ => none
  | .returned remoteAddr closing =>
      match closing, choice with
      | .kept, .keepalive nonce =>
          match call.make punchTypeKeepalive nonce with
          | none => none
          | some packet =>
              some (.create (call.creation packet),
                { call with main := .keepalive remoteAddr packet })
      | .kept, .close =>
          some (.release call.side call.sessionID call.packets,
            { call with main := .returned remoteAddr .released })
      | .released, .proceed =>
          some (.drainPackets call.side call.packets,
            { call with main := .returned remoteAddr .drained })
      | _, _ => none
  | .keepalive remoteAddr packet =>
      match choice with
      | .source address =>
          some (.write (call.creation packet) address remoteAddr,
            { call with main := .returned remoteAddr .kept })
      | _ => none

/-- The receive goroutine. An address read from a socket is always valid. -/
def planGoroutine (network : Network) (call : Call) (choice : Choice) : Option (Action × Call) :=
  match call.goroutine with
  | .notStarted | .exited => none
  | .select =>
      match choice with
      | .done => if call.done then some (.nothing, { call with goroutine := .exited }) else none
      | .proceed =>
          match (network.dispatchers call.side).channels[call.packets]? with
          | none => none
          | some channel =>
              match channel.queue with
              | packet :: _ =>
                  some (.receive call.side call.packets,
                    { call with goroutine := .decode packet })
              | [] =>
                  if channel.closed then some (.nothing, { call with goroutine := .exited })
                  else none
      | _ => none
  | .decode packet =>
      match decodePunchPacket packet.data call.sessionToken with
      | .error _ => some (.nothing, { call with goroutine := .select })
      | .ok pkt =>
          if pkt.sessionID ≠ call.sessionID then
            some (.nothing, { call with goroutine := .select })
          else if pkt.type = punchTypePunch then
            some (.nothing, { call with goroutine := .newAck packet.addr })
          else if pkt.type = punchTypePunchAck then
            some (.nothing, { call with goroutine := .confirm packet.addr })
          else some (.nothing, { call with goroutine := .select })
  | .newAck remote =>
      match choice with
      | .nonce nonce =>
          match call.make punchTypePunchAck nonce with
          | none => some (.nothing, { call with goroutine := .confirm remote })
          | some packet =>
              some (.create (call.creation packet),
                { call with goroutine := .ack remote packet })
      | .fail => some (.nothing, { call with goroutine := .confirm remote })
      | _ => none
  | .ack remote packet =>
      match choice with
      | .source address =>
          some (.write (call.creation packet) address remote,
            { call with goroutine := .confirm remote })
      | _ => none
  | .confirm remote =>
      if call.once then some (.nothing, { call with goroutine := .select })
      else
        some (.nothing,
          { call with once := true, confirmedPeer := some remote, goroutine := .push remote })
  | .push remote =>
      some (.nothing, { call with successCh := some remote, goroutine := .select })

/-! ## The program -/

inductive ReadPoint
  | read
  | dispatch (flight : Flight)
  | stopped
  deriving DecidableEq

/-- A `host` has stored what reached its address. It may forward that, or send bytes
of its own making. -/
inductive Thread
  | punchUDPDispatched (call : Call)
  | readLoop (side : Side) (point : ReadPoint)
  | closeDispatcher (side : Side) (closed : Bool)
  | host (address : AddrPort) (stored : List Bytes)
  deriving DecidableEq

inductive ThreadChoice
  | main (choice : Choice)
  | goroutine (choice : Choice)
  | expire
  | read (index : Nat)
  | proceed
  | store (index : Nat)
  | forward (index : Nat) (destination : AddrPort)
  | send (data : Bytes) (destination : AddrPort)

/-- Which datagrams the network takes to an end is left open, since a translation may
stand before it; a host is reached by what is sent to its address. -/
def plan (network : Network) (thread : Thread) (choice : ThreadChoice) :
    Option (Action × Thread) :=
  match thread with
  | .punchUDPDispatched call =>
      match choice with
      | .main choice =>
          (planMain network call choice).map fun (action, next) =>
            (action, .punchUDPDispatched next)
      | .goroutine choice =>
          (planGoroutine network call choice).map fun (action, next) =>
            (action, .punchUDPDispatched next)
      | .expire => some (.nothing, .punchUDPDispatched { call with done := true })
      | _ => none
  | .readLoop side point =>
      match point, choice with
      | .read, .read index =>
          if (network.dispatchers side).done then none
          else
            (network.flights[index]?).map fun flight =>
              (.arrive side flight, .readLoop side (.dispatch flight))
      | .read, .proceed =>
          if (network.dispatchers side).done then some (.nothing, .readLoop side .stopped)
          else none
      | .dispatch flight, .proceed =>
          some (.dispatch side ⟨flight.read, flight.source⟩, .readLoop side .read)
      | _, _ => none
  | .closeDispatcher side closed =>
      if closed then none else some (.close side, .closeDispatcher side true)
  | .host address stored =>
      match choice with
      | .store index =>
          match network.flights[index]? with
          | none => none
          | some flight =>
              if flight.destination = address then
                some (.nothing, .host address (flight.data :: stored))
              else none
      | .forward index destination =>
          (stored[index]?).map fun data =>
            (.send address destination data, .host address stored)
      | .send data destination => some (.send address destination data, .host address stored)
      | _ => none

def entry : Thread → Bool
  | .punchUDPDispatched call =>
      call.main = .checkDispatcher && call.goroutine = .notStarted && call.successCh = none &&
        call.confirmedPeer = none && !call.once && !call.done
  | .readLoop _ _ => false
  | .closeDispatcher _ closed => !closed
  | .host _ stored => stored = []

def program : Program Network Thread ThreadChoice where
  entry := entry
  step _ network thread choice :=
    (plan network thread choice).map fun (action, next) => (action.apply network, next)

abbrev NetworkPool := Pool Network Thread

/-- `NewUDPDispatcher` has started one `readLoop` at each end. -/
def initialPool : NetworkPool where
  shared := .initial
  threads := [.readLoop .controller .read, .readLoop .agent .read]

end Rdpulse.Punch.UDPPunch
