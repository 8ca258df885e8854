import Mathlib.Data.List.AList
import Rdpulse.Path.AddrPort
import Rdpulse.Protocol.P2PData
import Rdpulse.Protocol.Punch
import Rdpulse.Protocol.UDP

namespace Rdpulse.Punch

open Foundation Protocol Rdpulse.Path

/-! The dispatcher of a punch socket: one reader that hands each datagram to the
session registered for it. -/

def dispatcherQueueSize : Nat := 256

/-- The size of `readLoop`'s buffer; what does not fit in is cut off. -/
def readBufferSize : Nat := maxUDPPacketSize + p2pDataHeaderSize

structure UDPPacket where
  data : Bytes
  addr : AddrPort
  deriving DecidableEq

structure PacketChannel where
  queue : List UDPPacket
  closed : Bool
  deriving DecidableEq

/-- `packets` is the number of the session's channel. -/
structure DispatchSession where
  packets : Nat
  key : Bytes
  codec : Option P2PCodec
  deriving DecidableEq

structure UDPDispatcher where
  sessions : AList fun _ : UInt64 => DispatchSession
  channels : List PacketChannel
  done : Bool

def newUDPDispatcher : UDPDispatcher := ⟨∅, [], false⟩

inductive RegisterError
  | missingKey
  | closed
  | sessionRegistered
  deriving DecidableEq, Repr

/-- Only ids of 32 bits have data packets. -/
def newDispatchSession (packets : Nat) (sessionID : UInt64) (key : Bytes) : DispatchSession where
  packets := packets
  key := key
  codec :=
    if sessionID.toNat < 2 ^ 32 then (newP2PCodec sessionID.toUInt32 key).toOption else none

def packetSessionID (packet : Bytes) : Option UInt64 :=
  if packet.length < 8 then none
  else if Bytes.uint32 packet = punchMagic then
    if packet.length < punchPacketSize then none else some (Bytes.uint64 (packet.drop 8))
  else if Bytes.uint32 packet = p2pDataMagic then
    some (Bytes.uint32 (packet.drop 4)).toUInt64
  else none

def DispatchSession.validPacket (entry : DispatchSession) (packet : Bytes)
    (sessionID : UInt64) : Bool :=
  if packet.length < 4 then false
  else if Bytes.uint32 packet = punchMagic then
    match decodePunchPacket packet entry.key with
    | .ok decoded => decoded.sessionID = sessionID
    | .error _ => false
  else if Bytes.uint32 packet = p2pDataMagic then
    match entry.codec with
    | none => false
    | some codec => (codec.decode packet).isOk
  else false

namespace UDPDispatcher

variable (d : UDPDispatcher)

/-- `Register`, with the number of the new channel. -/
def register (sessionID : UInt64) (key : Bytes) : Except RegisterError (Nat × UDPDispatcher) :=
  if key.length = 0 then .error .missingKey
  else if d.done then .error .closed
  else if (d.sessions.lookup sessionID).isSome then .error .sessionRegistered
  else
    .ok (d.channels.length,
      { d with
        sessions :=
          d.sessions.insert sessionID (newDispatchSession d.channels.length sessionID key)
        channels := d.channels ++ [⟨[], false⟩] })

/-- The locked part of a release: the entry goes only if it is the caller's. -/
def release (sessionID : UInt64) (packets : Nat) : UDPDispatcher :=
  match d.sessions.lookup sessionID with
  | none => d
  | some current =>
      if current.packets = packets then
        { d with
          sessions := d.sessions.erase sessionID
          channels := d.channels.modify packets fun channel => { channel with closed := true } }
      else d

def drainPackets (packets : Nat) : UDPDispatcher :=
  { d with channels := d.channels.modify packets fun channel => { channel with queue := [] } }

def close : UDPDispatcher where
  sessions := ∅
  channels := (d.sessions.entries.map fun entry => entry.2.packets).foldl
    (fun channels packets => channels.modify packets fun _ => ⟨[], true⟩) d.channels
  done := true

def receive (packets : Nat) : UDPDispatcher :=
  { d with
    channels := d.channels.modify packets fun channel =>
      { channel with queue := channel.queue.tail } }

/-- What `readLoop` does with a datagram it has read, under the read lock. A full
queue loses the packet. -/
def dispatch (packet : UDPPacket) : UDPDispatcher :=
  match packetSessionID packet.data with
  | none => d
  | some sessionID =>
      match d.sessions.lookup sessionID with
      | none => d
      | some entry =>
          if entry.validPacket packet.data sessionID then
            { d with
              channels := d.channels.modify entry.packets fun channel =>
                if channel.queue.length < dispatcherQueueSize then
                  { channel with queue := channel.queue ++ [packet] }
                else channel }
          else d

def queued (packets : Nat) : List UDPPacket :=
  ((d.channels[packets]?).map PacketChannel.queue).getD []

end UDPDispatcher

/-! ## The two readers of a header agree -/

section Decoded

variable {data key : Bytes} {packet : PunchPacket} {entry : DispatchSession}

theorem decoded_long (decoded : decodePunchPacket data key = .ok packet) :
    punchPacketSize ≤ data.length ∧ Bytes.uint32 data = punchMagic ∧
      Bytes.uint64 (data.drop 8) = packet.sessionID := by
  simp only [decodePunchPacket] at decoded
  split at decoded
  · cases decoded
  split at decoded
  · cases decoded
  rename_i long
  split at decoded
  · cases decoded
  rename_i magic
  repeat' split at decoded
  all_goals cases decoded
  exact ⟨Nat.le_of_not_lt long, not_not.mp magic, rfl⟩

theorem packetSessionID_of_decoded (decoded : decodePunchPacket data key = .ok packet) :
    packetSessionID data = some packet.sessionID := by
  rcases decoded_long decoded with ⟨long, magic, session⟩
  have beyond : ¬ data.length < 8 := by
    rw [punchPacketSize] at long
    omega
  rw [packetSessionID, if_neg beyond, if_pos magic, if_neg (Nat.not_lt_of_le long), session]

theorem validPacket_of_decoded (decoded : decodePunchPacket data entry.key = .ok packet) :
    entry.validPacket data packet.sessionID = true := by
  rcases decoded_long decoded with ⟨long, magic, _⟩
  have beyond : ¬ data.length < 4 := by
    rw [punchPacketSize] at long
    omega
  rw [DispatchSession.validPacket, if_neg beyond, if_pos magic, decoded]
  exact decide_eq_true rfl

end Decoded

/-! ## What each operation leaves in a channel -/

theorem mem_modify {channels : List PacketChannel} {changed packets : Nat}
    {change : PacketChannel → PacketChannel} {packet : UDPPacket}
    (member : packet ∈ (((channels.modify changed change)[packets]?).map
      PacketChannel.queue).getD []) :
    ∃ channel, channels[packets]? = some channel ∧
      (packet ∈ channel.queue ∨ packet ∈ (change channel).queue) := by
  rw [List.getElem?_modify] at member
  cases found : channels[packets]? with
  | none => simp [found] at member
  | some channel =>
      refine ⟨channel, rfl, ?_⟩
      by_cases same : changed = packets
      · simp only [found, if_pos same] at member
        exact .inr member
      · simp only [found, if_neg same] at member
        exact .inl member

namespace UDPDispatcher

variable {d : UDPDispatcher} {packets : Nat} {packet : UDPPacket}

theorem mem_queued {channel : PacketChannel} (found : d.channels[packets]? = some channel) :
    packet ∈ d.queued packets ↔ packet ∈ channel.queue := by
  simp [queued, found]

theorem release_queued {sessionID : UInt64} {released : Nat}
    (member : packet ∈ (d.release sessionID released).queued packets) :
    packet ∈ d.queued packets := by
  unfold release at member
  split at member
  · exact member
  split at member
  · rcases mem_modify member with ⟨channel, found, inside | inside⟩ <;>
      exact (mem_queued found).mpr inside
  · exact member

theorem drainPackets_queued {drained : Nat}
    (member : packet ∈ (d.drainPackets drained).queued packets) : packet ∈ d.queued packets := by
  rcases mem_modify member with ⟨channel, found, inside | inside⟩
  · exact (mem_queued found).mpr inside
  · cases inside

theorem receive_queued {received : Nat}
    (member : packet ∈ (d.receive received).queued packets) : packet ∈ d.queued packets := by
  rcases mem_modify member with ⟨channel, found, inside | inside⟩
  · exact (mem_queued found).mpr inside
  · exact (mem_queued found).mpr (List.mem_of_mem_tail inside)

theorem close_queued (member : packet ∈ d.close.queued packets) : packet ∈ d.queued packets := by
  suffices general : ∀ (closing : List Nat) (channels : List PacketChannel),
      packet ∈ (((closing.foldl (fun channels packets =>
        channels.modify packets fun _ => ⟨[], true⟩) channels)[packets]?).map
          PacketChannel.queue).getD [] →
      packet ∈ ((channels[packets]?).map PacketChannel.queue).getD [] from
    general _ _ member
  intro closing
  induction closing with
  | nil => exact fun _ member => member
  | cons closed rest induction =>
      intro channels member
      rcases mem_modify (induction _ member) with ⟨channel, found, inside | inside⟩
      · rw [found]
        exact inside
      · cases inside

theorem dispatch_queued {added : UDPPacket}
    (member : packet ∈ (d.dispatch added).queued packets) :
    packet ∈ d.queued packets ∨ packet = added := by
  unfold dispatch at member
  split at member
  · exact .inl member
  split at member
  · exact .inl member
  split at member
  · rcases mem_modify member with ⟨channel, found, inside | inside⟩
    · exact .inl ((mem_queued found).mpr inside)
    · split at inside
      · rcases List.mem_append.mp inside with old | new
        · exact .inl ((mem_queued found).mpr old)
        · exact .inr (List.mem_singleton.mp new)
      · exact .inl ((mem_queued found).mpr inside)
  · exact .inl member

/-! Channels are never forgotten. -/

@[simp] theorem release_channels (sessionID : UInt64) (released : Nat) :
    (d.release sessionID released).channels.length = d.channels.length := by
  unfold release
  split
  · rfl
  split
  · exact List.length_modify _ _ _
  · rfl

@[simp] theorem drainPackets_channels (drained : Nat) :
    (d.drainPackets drained).channels.length = d.channels.length :=
  List.length_modify _ _ _

@[simp] theorem receive_channels (received : Nat) :
    (d.receive received).channels.length = d.channels.length :=
  List.length_modify _ _ _

@[simp] theorem close_channels : d.close.channels.length = d.channels.length := by
  suffices general : ∀ (closing : List Nat) (channels : List PacketChannel),
      (closing.foldl (fun channels packets => channels.modify packets fun _ => ⟨[], true⟩)
        channels).length = channels.length from
    general _ _
  intro closing
  induction closing with
  | nil => exact fun _ => rfl
  | cons closed rest induction =>
      intro channels
      exact (induction _).trans (List.length_modify _ _ _)

@[simp] theorem dispatch_channels (added : UDPPacket) :
    (d.dispatch added).channels.length = d.channels.length := by
  unfold dispatch
  split
  · rfl
  split
  · rfl
  split
  · exact List.length_modify _ _ _
  · rfl

theorem register_queued {sessionID : UInt64} {key : Bytes} {opened : Nat}
    {registered : UDPDispatcher} (answer : d.register sessionID key = .ok (opened, registered)) :
    opened = d.channels.length ∧ registered.queued opened = [] ∧
      registered.channels.length = d.channels.length + 1 ∧
      ∀ packets < d.channels.length, registered.queued packets = d.queued packets := by
  unfold register at answer
  split at answer
  · cases answer
  split at answer
  · cases answer
  split at answer
  · cases answer
  cases answer
  refine ⟨rfl, by simp [queued], by simp, fun packets bound => ?_⟩
  simp only [queued]
  rw [List.getElem?_append_left bound]

end UDPDispatcher

end Rdpulse.Punch
