import Rdpulse.Protocol.PunchFormat
import Rdpulse.Punch.TCPAuth

namespace Rdpulse.Punch

open Foundation Protocol

/-! # What one session token authenticates

Punch packets, data packets and the tags of the TCP handshake are keyed with the same
token, and no label says which of them a byte string is. -/

/-- A message whose tag the code makes or checks under a session token. -/
inductive KeyedMessage
  | punch (pktType : UInt8) (sessionID nonce : UInt64)
  | data (sessionID : UInt32) (datagram : Bytes)
  | tcp (sessionID : UInt64) (role : UInt8) (challenge : Bytes)
  deriving DecidableEq, Repr

namespace KeyedMessage

def bytes : KeyedMessage → Bytes
  | .punch pktType sessionID nonce =>
      punchHeader punchMagic punchVersion pktType sessionID nonce
  | .data sessionID datagram =>
      Bytes.putUint32 p2pDataMagic ++ Bytes.putUint32 sessionID ++ datagram
  | .tcp sessionID role challenge => role :: Bytes.putUint64 sessionID ++ challenge

/-- What the code can pass: a role of the handshake and a challenge of its size. -/
def Possible : KeyedMessage → Prop
  | .tcp _ role challenge =>
      (role = tcpRoleClient ∨ role = tcpRoleServer ∨ role = tcpRoleProbe ∨
        role = tcpRoleProbeAck) ∧ challenge.length = tcpChallengeSize
  | _ => True

section Injectivity

variable {message other : KeyedMessage}

theorem punch_injective {pktType pktType' : UInt8} {sessionID sessionID' nonce nonce' : UInt64}
    (same : (punch pktType sessionID nonce).bytes = (punch pktType' sessionID' nonce').bytes) :
    punch pktType sessionID nonce = punch pktType' sessionID' nonce' := by
  simp only [bytes, punchHeader] at same
  rcases List.append_inj same rfl with ⟨_, fields⟩
  rcases List.append_inj fields rfl with ⟨front, numbers⟩
  rcases List.append_inj numbers (by simp) with ⟨session, drawn⟩
  simp only [List.cons.injEq, true_and, and_true] at front
  rw [front, Bytes.putUint64_injective session, Bytes.putUint64_injective drawn]

theorem data_injective {sessionID sessionID' : UInt32} {datagram datagram' : Bytes}
    (same : (data sessionID datagram).bytes = (data sessionID' datagram').bytes) :
    data sessionID datagram = data sessionID' datagram' := by
  simp only [bytes, List.append_assoc] at same
  have rest := List.append_cancel_left same
  rcases List.append_inj rest (by simp) with ⟨session, inner⟩
  rw [Bytes.putUint32_injective session, inner]

theorem tcp_injective {sessionID sessionID' : UInt64} {role role' : UInt8}
    {challenge challenge' : Bytes}
    (same : (tcp sessionID role challenge).bytes = (tcp sessionID' role' challenge').bytes) :
    tcp sessionID role challenge = tcp sessionID' role' challenge' := by
  simp only [bytes, List.cons_append, List.cons.injEq] at same
  rcases same with ⟨roles, rest⟩
  rcases List.append_inj rest (by simp) with ⟨session, drawn⟩
  rw [roles, Bytes.putUint64_injective session, drawn]

theorem punch_ne_data {pktType : UInt8} {sessionID nonce : UInt64} {session : UInt32}
    {datagram : Bytes} : (punch pktType sessionID nonce).bytes ≠ (data session datagram).bytes := by
  intro same
  have fourth := congrArg (·[3]?) same
  exact absurd fourth (by simp [bytes, punchHeader, List.getElem?_append]; decide)

theorem tcp_ne {sessionID : UInt64} {role : UInt8} {challenge : Bytes}
    (possible : (tcp sessionID role challenge).Possible) :
    (tcp sessionID role challenge).bytes.head? ≠ some 0x52 := by
  simp only [bytes, List.cons_append, List.head?_cons, ne_eq, Option.some.injEq]
  rcases possible.1 with rfl | rfl | rfl | rfl <;> decide

theorem punch_head (pktType : UInt8) (sessionID nonce : UInt64) :
    (punch pktType sessionID nonce).bytes.head? = some 0x52 := rfl

theorem data_head (sessionID : UInt32) (datagram : Bytes) :
    (data sessionID datagram).bytes.head? = some 0x52 := rfl

theorem bytes_injective (possible : message.Possible) (possible' : other.Possible)
    (same : message.bytes = other.bytes) : message = other := by
  cases message with
  | punch pktType sessionID nonce =>
      cases other with
      | punch => exact punch_injective same
      | data => exact absurd same punch_ne_data
      | tcp => exact absurd (same ▸ punch_head _ _ _) (tcp_ne possible')
  | data sessionID datagram =>
      cases other with
      | punch => exact absurd same.symm punch_ne_data
      | data => exact data_injective same
      | tcp => exact absurd (same ▸ data_head _ _) (tcp_ne possible')
  | tcp sessionID role challenge =>
      cases other with
      | punch => exact absurd (same.symm ▸ punch_head _ _ _) (tcp_ne possible)
      | data => exact absurd (same.symm ▸ data_head _ _) (tcp_ne possible)
      | tcp => exact tcp_injective same

end Injectivity

/-! ## The tags of the code -/

def tcpAuthTag (mac : MACFunction) (sessionID : UInt64) (token : Bytes) (role : UInt8)
    (challenge : Bytes) : Bytes :=
  Bytes.putUint64 sessionID ++
    (mac.sum token (role :: Bytes.putUint64 sessionID ++ challenge)).take 16

theorem tcpAuthTag_hmacSHA256 (sessionID : UInt64) (token : Bytes) (role : UInt8)
    (challenge : Bytes) : tcpAuthTag hmacSHA256 sessionID token role challenge =
      Punch.tcpAuthTag sessionID token role challenge := rfl

/-- What the code sums for a message is its byte string: where it signs and reads punch
packets, where it encodes and decodes data packets, and in the handshake. -/
structure Summed (mac : MACFunction) (token : Bytes) : Prop where
  computePunchMAC : ∀ pktType sessionID nonce,
    mac.computePunchMAC token punchMagic punchVersion pktType sessionID nonce =
      mac.tag token (punch pktType sessionID nonce).bytes
  decodePunchPacket : ∀ b packet, mac.decodePunchPacket b token = .ok packet →
    packet.mac = mac.tag token (punch packet.type packet.sessionID packet.nonce).bytes
  encode : ∀ dst sessionID datagram, ((mac.encode ⟨sessionID, token⟩ dst datagram).drop 8).take 16 =
    mac.tag token (data sessionID datagram).bytes
  decode : ∀ b sessionID datagram, mac.decode ⟨sessionID, token⟩ b = .ok datagram →
    (b.drop 8).take 16 = mac.tag token (data sessionID datagram).bytes
  tcpAuthTag : ∀ sessionID role challenge, (tcpAuthTag mac sessionID token role challenge).drop 8 =
    mac.tag token (tcp sessionID role challenge).bytes

theorem packet_tag (mac : MACFunction) (token : Bytes) (sessionID : UInt32) (datagram : Bytes) :
    ((mac.packet ⟨sessionID, token⟩ datagram).drop 8).take 16 =
      mac.tag token (data sessionID datagram).bytes := by
  rw [MACFunction.packet, List.drop_left' (P2PCodec.header_length _)]
  exact List.take_left' (mac.tag_length _ _)

theorem summed (mac : MACFunction) (token : Bytes) : Summed mac token where
  computePunchMAC _ _ _ := rfl
  decodePunchPacket b packet accepted := by
    have keyed : token ≠ [] := by
      rintro rfl
      cases accepted
    rcases (PunchPacket.decode_iff keyed).mp accepted with ⟨authentic, _⟩
    rw [authentic.mac, PunchPacket.header, authentic.magic, authentic.version]
    rfl
  encode dst sessionID datagram := by
    rw [mac.encode_eq]
    exact packet_tag mac token sessionID datagram
  decode b sessionID datagram accepted := by
    rw [(mac.decode_iff b datagram).mp accepted]
    exact packet_tag mac token sessionID datagram
  tcpAuthTag sessionID role challenge := List.drop_left' (Bytes.putUint64_length _)

/-- Under one token the messages that the code authenticates are different byte strings,
of one kind or of two, and a tag for one of them fits another only where the keyed hash
collides. -/
theorem token_domains_apart (mac : MACFunction) (token : Bytes) :
    Summed mac token ∧
    (∀ message other : KeyedMessage, message.Possible → other.Possible →
      (message.bytes = other.bytes ↔ message = other)) ∧
    (∀ message other : KeyedMessage, message.Possible → other.Possible → message ≠ other →
      mac.tag token message.bytes = mac.tag token other.bytes →
      mac.Collides token message.bytes other.bytes) := by
  refine ⟨summed mac token, fun message other possible possible' => ⟨?_, ?_⟩,
    fun message other possible possible' different same => ⟨?_, same⟩⟩
  · exact bytes_injective possible possible'
  · exact congrArg bytes
  · exact fun equal => different (bytes_injective possible possible' equal)

end KeyedMessage

end Rdpulse.Punch
