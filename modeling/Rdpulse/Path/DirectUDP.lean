import Rdpulse.Foundation.Execution
import Rdpulse.Path.AddrPort
import Rdpulse.Protocol.P2PData
import Rdpulse.UDP.Delivery
import Rdpulse.UDP.Replay

namespace Rdpulse.Path

open Foundation Protocol UDP

/-! The direct UDP path between two ends of one session: `SendUDP` and
`ReceiveUDP` of the controller, the two loops of `handleIncomingP2PPunch` of the
controlled agent. The network belongs to an attacker, so what a receive reads, and
from which address it seems to come, is part of the event. -/

def sameAddrPort (a b : AddrPort) : Bool :=
  a.port = b.port && a.addr.unmap = b.addr.unmap

def punchPacketSize : Nat := 40

/-- `n >= protocol.PunchPacketSize` and the magic "RDPU". -/
def isPunchPacket (packet : Bytes) : Bool :=
  punchPacketSize ≤ packet.length && packet.take 4 = [0x52, 0x44, 0x50, 0x55]

inductive Side
  | controller
  | agent
  deriving DecidableEq, Repr

def Side.other : Side → Side
  | .controller => .agent
  | .agent => .controller

@[simp] theorem Side.other_other (side : Side) : side.other.other = side := by
  cases side <;> rfl

theorem Side.other_ne (side : Side) : side.other ≠ side := by
  cases side <;> decide

theorem Side.eq_or_other (side each : Side) : each = side ∨ each = side.other := by
  cases side <;> cases each <;> decide

structure DirectSession where
  codec : P2PCodec
  fragmenter : Side → Fragmenter
  timeout : Nat

/-- One end. The last four fields record what it did: the packets passed to its
senders with their numbers, the datagrams it had the codec encode or gave to the
relay transport, and what its direct receive loop returned. -/
structure DirectEnd where
  remoteAddrs : List AddrPort
  nextPacketID : UInt32
  reassembler : Reassembler
  replayWindow : ReplayWindow
  passed : List (UInt32 × Bytes)
  encoded : List Bytes
  relayed : List Bytes
  delivered : List (UInt32 × Bytes)

def DirectEnd.new (session : DirectSession) : DirectEnd where
  remoteAddrs := []
  nextPacketID := 0
  reassembler := .new session.timeout
  replayWindow := .new
  passed := []
  encoded := []
  relayed := []
  delivered := []

namespace DirectEnd

variable (holder : DirectEnd)

/-- `nextPacketID.Add(1)`, for a packet or for another session of the same agent. -/
def drawPacketID : DirectEnd := { holder with nextPacketID := holder.nextPacketID + 1 }

/-- The datagrams of one packet, up to the one whose write fails. -/
def datagrams (session : DirectSession) (side : Side) (payload : Bytes) (written : Nat) :
    List Bytes :=
  match (session.fragmenter side).fragment session.codec.sessionID holder.nextPacketID payload with
  | .error _ => []
  | .ok datagrams => datagrams.take written

/-- `SendUDP` on a direct path, and the loop from the local RDP service. -/
def sendDirect (session : DirectSession) (side : Side) (payload : Bytes) (written : Nat) :
    DirectEnd :=
  let drawn := holder.drawPacketID
  { drawn with
    passed := (drawn.nextPacketID, payload) :: drawn.passed
    encoded := drawn.datagrams session side payload written ++ drawn.encoded }

/-- `SendUDP` over the relay, and `readFromLocalUDPLoop`. -/
def sendRelay (session : DirectSession) (side : Side) (payload : Bytes) (written : Nat) :
    DirectEnd :=
  let drawn := holder.drawPacketID
  { drawn with
    passed := (drawn.nextPacketID, payload) :: drawn.passed
    relayed := drawn.datagrams session side payload written ++ drawn.relayed }

def acceptDatagram (hdr : UDPHeader) (fragPayload : Bytes) (now : Nat) : DirectEnd :=
  if holder.replayWindow.seen hdr.packetID = true then holder
  else
    let fed := holder.reassembler.feedAppend false hdr fragPayload now
    match fed.2 with
    | .error _ => { holder with reassembler := fed.1 }
    | .ok none => { holder with reassembler := fed.1 }
    | .ok (some assembled) =>
        let marked := holder.replayWindow.markCompleted hdr.packetID
        { holder with
          reassembler := fed.1
          replayWindow := marked.2
          delivered :=
            if marked.1 = true then (hdr.packetID, assembled) :: holder.delivered
            else holder.delivered }

/-- One turn of the direct receive loop on a socket whose peer is `remote`. -/
def receiveDirect (session : DirectSession) (remote source : AddrPort) (packet : Bytes)
    (now : Nat) : DirectEnd :=
  if sameAddrPort source remote = false then holder
  else if isPunchPacket packet = true then holder
  else
    match session.codec.decode packet with
    | .error _ => holder
    | .ok datagram =>
        match decodeUDP datagram with
        | .error _ => holder
        | .ok (hdr, fragPayload) => holder.acceptDatagram hdr fragPayload now

/-- The receive loop of the relay transport. It feeds the same reassembler. -/
def receiveRelay (datagram : Bytes) (now : Nat) : DirectEnd :=
  { holder with reassembler := (holder.reassembler.receive false datagram now).1 }

end DirectEnd

inductive DirectEvent
  | setDirectUDP (remote : AddrPort)
  | sendDirect (payload : Bytes) (written : Nat)
  | sendRelay (payload : Bytes) (written : Nat)
  | otherPacket
  | receiveDirect (remote source : AddrPort) (packet : Bytes) (now : Nat)
  | receiveRelay (datagram : Bytes) (now : Nat)
  | sweep (now : Nat)
  | close
  deriving DecidableEq, Repr

abbrev DirectEnds := Side → DirectEnd

/-- A receive may still use the result of an earlier punch. -/
def DirectEnd.step (session : DirectSession) (side : Side) (holder : DirectEnd) :
    DirectEvent → Option DirectEnd
  | .setDirectUDP remote => some { holder with remoteAddrs := remote :: holder.remoteAddrs }
  | .sendDirect payload written =>
      if holder.remoteAddrs = [] then none
      else some (holder.sendDirect session side payload written)
  | .sendRelay payload written => some (holder.sendRelay session side payload written)
  | .otherPacket => some holder.drawPacketID
  | .receiveDirect remote source packet now =>
      if remote ∈ holder.remoteAddrs then
        some (holder.receiveDirect session remote source packet now)
      else none
  | .receiveRelay datagram now => some (holder.receiveRelay datagram now)
  | .sweep now => some { holder with reassembler := holder.reassembler.sweep now }
  | .close => some { holder with reassembler := holder.reassembler.close }

def directMachine (session : DirectSession) : Machine DirectEnds (Side × DirectEvent) where
  step ends event :=
    (DirectEnd.step session event.1 (ends event.1) event.2).map (Function.update ends event.1)

/-- What is assumed of an event: an end numbers fewer than 2^31 packets, what the
codec verifies some end has encoded, and for this session the relay hands over what
the other end gave to it. -/
def Honest (session : DirectSession) (ends : DirectEnds) : Side × DirectEvent → Prop
  | (side, .sendDirect _ _) | (side, .sendRelay _ _) | (side, .otherPacket) =>
      (ends side).nextPacketID.toNat + 1 < 2 ^ 31
  | (side, .receiveDirect _ _ packet _) =>
      ∀ datagram, session.codec.decode packet = .ok datagram →
        datagram ∈ (ends side).encoded ∨ datagram ∈ (ends side.other).encoded
  | (side, .receiveRelay datagram _) =>
      ∀ hdr payload, decodeUDP datagram = .ok (hdr, payload) →
        hdr.sessionID = session.codec.sessionID → datagram ∈ (ends side.other).relayed
  | _ => True

/-- No end receives from its peer's address a packet that it encoded itself and the
peer did not. -/
def NotReflected (session : DirectSession) (ends : DirectEnds) : Side × DirectEvent → Prop
  | (side, .receiveDirect remote source packet _) =>
      ∀ datagram, sameAddrPort source remote = true →
        session.codec.decode packet = .ok datagram →
        datagram ∈ (ends side).encoded → datagram ∈ (ends side.other).encoded
  | _ => True

/-- Every payload delivered over the direct path is one that the other end passed to
its sender, under the number it got there, and no packet is delivered twice. -/
def DirectAuthentic (ends : DirectEnds) : Prop :=
  ∀ side, (∀ packet ∈ (ends side).delivered, packet ∈ (ends side.other).passed) ∧
    ((ends side).delivered.map Prod.fst).Nodup

end Rdpulse.Path
