import Rdpulse.Foundation.Buffers
import Rdpulse.Protocol.P2PData
import Rdpulse.Protocol.UDP

namespace Rdpulse.Protocol

open Foundation

/-! # The data packets, read and written in place

`P2PCodec` over any keyed hash, and the encoders with the destination that their caller
gives them. The datagram does not lie in that destination. -/

structure MACFunction where
  sum : Bytes → Bytes → Bytes
  sized : ∀ key message, (sum key message).length = 32

def hmacSHA256 : MACFunction := ⟨Sha256.hmac, Sha256.hmac_length⟩

def MACFunction.tag (mac : MACFunction) (key message : Bytes) : Bytes :=
  (mac.sum key message).take 16

@[simp] theorem MACFunction.tag_length (mac : MACFunction) (key message : Bytes) :
    (mac.tag key message).length = 16 := by
  rw [tag, List.length_take, mac.sized]
  rfl

/-- Two messages that one tag authenticates. -/
def MACFunction.Collides (mac : MACFunction) (key message other : Bytes) : Prop :=
  message ≠ other ∧ mac.tag key message = mac.tag key other

namespace MACFunction

variable (mac : MACFunction) (codec : P2PCodec)

/-- `P2PCodec.Encode`, which sums what it has written. -/
def encode (dst datagram : Bytes) : Bytes :=
  let totalLen := p2pDataHeaderSize + datagram.length
  let dst := Buffer.reslice dst totalLen
  let dst := Buffer.write dst 0 (Bytes.putUint32 p2pDataMagic)
  let dst := Buffer.write dst 4 (Bytes.putUint32 codec.sessionID)
  let dst := Buffer.write dst p2pDataHeaderSize datagram
  let sum := mac.sum codec.key (dst.take 8 ++ dst.drop p2pDataHeaderSize)
  Buffer.write dst 8 (sum.take p2pDataMACSize)

def decode (packet : Bytes) : Except P2PDataError Bytes :=
  if packet.length < p2pDataHeaderSize then .error .tooShort
  else if Bytes.uint32 packet ≠ p2pDataMagic then .error .badMagic
  else if Bytes.uint32 (packet.drop 4) ≠ codec.sessionID then .error .badSession
  else
    let datagram := packet.drop p2pDataHeaderSize
    let sum := mac.sum codec.key (packet.take 8 ++ datagram)
    if (packet.drop 8).take p2pDataMACSize ≠ sum.take p2pDataMACSize then .error .badMAC
    else .ok datagram

def packet (datagram : Bytes) : Bytes :=
  codec.header ++ (mac.tag codec.key (codec.header ++ datagram) ++ datagram)

variable {codec}

theorem encode_eq (dst datagram : Bytes) :
    mac.encode codec dst datagram = mac.packet codec datagram := by
  have long : 8 ≤ (Buffer.reslice dst (p2pDataHeaderSize + datagram.length)).length := by
    rw [Buffer.reslice_length]
    simp [p2pDataHeaderSize, p2pDataMACSize]
    omega
  rcases Buffer.exists_split long with ⟨front, rest, split, frontSize, restSize⟩
  rw [Buffer.reslice_length, p2pDataHeaderSize, p2pDataMACSize] at restSize
  have fits : 16 ≤ rest.length := by omega
  rcases Buffer.exists_split fits with ⟨gap, old, rfl, gapSize, oldSize⟩
  rw [restSize] at oldSize
  have header : Buffer.write (Buffer.write (front ++ (gap ++ old)) 0 (Bytes.putUint32 p2pDataMagic))
      4 (Bytes.putUint32 codec.sessionID) = codec.header ++ (gap ++ old) := by
    have first := @Buffer.write_append [] (front ++ (gap ++ old)) (Bytes.putUint32 p2pDataMagic) 0
      rfl (by simp [frontSize]; omega)
    rw [List.nil_append, List.nil_append] at first
    rw [first, Buffer.write_append (Bytes.putUint32_length _) (by simp [frontSize]; omega),
      Bytes.putUint32_length, Bytes.putUint32_length, List.drop_drop, List.drop_left' frontSize]
    rfl
  have body : Buffer.write (codec.header ++ (gap ++ old)) p2pDataHeaderSize datagram =
      codec.header ++ (gap ++ datagram) := by
    rw [← List.append_assoc, Buffer.write_append
      (by simp [gapSize, p2pDataHeaderSize, p2pDataMACSize]) (by omega),
      List.drop_of_length_le (by omega), List.append_nil, List.append_assoc]
  have summed : (codec.header ++ (gap ++ datagram)).take 8 ++
      (codec.header ++ (gap ++ datagram)).drop p2pDataHeaderSize = codec.header ++ datagram := by
    rw [List.take_left' codec.header_length, p2pDataHeaderSize, p2pDataMACSize, ← List.append_assoc,
      List.drop_left' (by simp [gapSize])]
  simp only [encode]
  rw [split, header, body, summed]
  exact Buffer.write_gap codec.header_length (by rw [gapSize]; exact (mac.tag_length _ _).symm)

theorem decode_iff (b datagram : Bytes) :
    mac.decode codec b = .ok datagram ↔ b = mac.packet codec datagram := by
  constructor
  · intro decoded
    simp only [decode] at decoded
    split at decoded
    · cases decoded
    rename_i long
    split at decoded
    · cases decoded
    rename_i magic
    split at decoded
    · cases decoded
    rename_i session
    split at decoded
    · cases decoded
    rename_i tag
    cases decoded
    simp only [p2pDataHeaderSize, p2pDataMACSize, Nat.not_lt] at long
    have start : b.take 4 = Bytes.putUint32 p2pDataMagic := by
      rw [← Bytes.putUint32_uint32 (by omega), not_not.mp magic]
    have next : (b.drop 4).take 4 = Bytes.putUint32 codec.sessionID := by
      rw [← Bytes.putUint32_uint32 (by rw [List.length_drop]; omega), not_not.mp session]
    have header : b.take 8 = codec.header := by
      rw [P2PCodec.header, ← start, ← next, show (8 : Nat) = 4 + 4 from rfl, List.take_add]
    have sum : (b.drop 8).take 16 = mac.tag codec.key
        (codec.header ++ b.drop p2pDataHeaderSize) := by
      rw [← header]
      exact not_not.mp tag
    have rest : b.drop 8 = (b.drop 8).take 16 ++ b.drop p2pDataHeaderSize := by
      conv_lhs => rw [← List.take_append_drop 16 (b.drop 8)]
      rw [List.drop_drop]
      rfl
    rw [packet, ← sum, ← rest, ← header, List.take_append_drop]
  · rintro rfl
    have sum : ((mac.packet codec datagram).drop 8).take p2pDataMACSize =
        mac.tag codec.key (codec.header ++ datagram) := by
      rw [packet, List.drop_left' codec.header_length]
      exact List.take_left' (mac.tag_length _ _)
    have front : (mac.packet codec datagram).take 8 = codec.header :=
      List.take_left' codec.header_length
    have back : (mac.packet codec datagram).drop p2pDataHeaderSize = datagram := by
      rw [packet, ← List.append_assoc]
      exact List.drop_left' (by simp [p2pDataHeaderSize, p2pDataMACSize])
    have long : ¬(mac.packet codec datagram).length < p2pDataHeaderSize := by
      simp [packet, p2pDataHeaderSize, p2pDataMACSize]
      omega
    have magic : Bytes.uint32 (mac.packet codec datagram) = p2pDataMagic := by
      simp [packet, P2PCodec.header]
    have session : Bytes.uint32 ((mac.packet codec datagram).drop 4) = codec.sessionID := by
      rw [packet, P2PCodec.header, List.append_assoc, List.drop_left' (Bytes.putUint32_length _)]
      exact Bytes.uint32_putUint32 _ _
    simp only [decode, if_neg long, magic, session, front, back, ne_eq, not_true_eq_false, if_false]
    exact if_neg (not_not.mpr sum)

theorem decode_hmacSHA256 (b : Bytes) : hmacSHA256.decode codec b = codec.decode b := rfl

theorem packet_hmacSHA256 (datagram : Bytes) :
    hmacSHA256.packet codec datagram = codec.encode datagram := by
  rw [packet, P2PCodec.encode, List.append_assoc]
  rfl

end MACFunction

/-! ## Datagrams -/

/-- `EncodeUDP`, field by field into its destination. -/
def encodeUDPInto (dst : Bytes) (sessionID packetID : UInt32) (fragID fragCount : UInt8)
    (payload : Bytes) : Bytes :=
  let totalLen := udpHeaderSize + payload.length
  let dst := Buffer.reslice dst totalLen
  let dst := Buffer.write dst 0 [udpProtocolVersion]
  let dst := Buffer.write dst 1 [udpTypeData]
  let dst := Buffer.write dst 2 (Bytes.putUint32 sessionID)
  let dst := Buffer.write dst 6 (Bytes.putUint32 packetID)
  let dst := Buffer.write dst 10 [fragID]
  let dst := Buffer.write dst 11 [fragCount]
  Buffer.write dst udpHeaderSize payload

theorem encodeUDPInto_eq (dst : Bytes) (sessionID packetID : UInt32) (fragID fragCount : UInt8)
    (payload : Bytes) :
    encodeUDPInto dst sessionID packetID fragID fragCount payload =
      encodeUDP sessionID packetID fragID fragCount payload := by
  have sized : (Buffer.reslice dst (udpHeaderSize + payload.length)).length =
      12 + payload.length := Buffer.reslice_length _ _
  simp only [encodeUDPInto]
  generalize Buffer.reslice dst (udpHeaderSize + payload.length) = buffer at sized ⊢
  have version := @Buffer.write_append [] buffer [udpProtocolVersion] 0 rfl (by simp; omega)
  rw [List.nil_append, List.nil_append] at version
  rw [version]
  rw [Buffer.write_append (by simp) (by simp; omega)]
  rw [Buffer.write_append (by simp) (by simp; omega)]
  rw [Buffer.write_append (by simp) (by simp; omega)]
  rw [Buffer.write_append (by simp) (by simp; omega)]
  rw [Buffer.write_append (by simp) (by simp; omega)]
  rw [Buffer.write_append (by simp [udpHeaderSize]) (by simp; omega)]
  rw [List.drop_of_length_le (by simp; omega)]
  simp [encodeUDP]

theorem decodeUDP_iff (d : Bytes) (hdr : UDPHeader) (payload : Bytes) :
    decodeUDP d = .ok (hdr, payload) ↔
      hdr.version = udpProtocolVersion ∧ hdr.type = udpTypeData ∧
        ValidFragment hdr.fragmentID hdr.fragmentCount ∧
        d = encodeUDP hdr.sessionID hdr.packetID hdr.fragmentID hdr.fragmentCount payload := by
  constructor
  · intro decoded
    have valid := decodeUDP_header decoded
    simp only [decodeUDP] at decoded
    split at decoded
    · cases decoded
    rename_i long
    split at decoded
    · cases decoded
    rename_i version
    split at decoded
    · cases decoded
    rename_i type
    split at decoded
    · cases decoded
    cases decoded
    simp only [udpHeaderSize, Nat.not_lt] at long
    refine ⟨not_not.mp version, not_not.mp type, valid, ?_⟩
    have session := Bytes.putUint32_uint32 (show 4 ≤ (d.drop 2).length by
      rw [List.length_drop]; omega)
    have packet := Bytes.putUint32_uint32 (show 4 ≤ (d.drop 6).length by
      rw [List.length_drop]; omega)
    have byteAt (index : Nat) (inside : index < d.length) :
        d.drop index = d.getD index 0 :: d.drop (index + 1) := by
      rw [List.drop_eq_getElem_cons inside, List.getD_eq_getElem?_getD,
        List.getElem?_eq_getElem inside, Option.getD_some]
    have first : d = d.getD 0 0 :: d.getD 1 0 :: d.drop 2 := by
      conv_lhs => rw [← List.drop_zero (l := d), byteAt 0 (by omega), byteAt 1 (by omega)]
    have middle : d.drop 2 = (d.drop 2).take 4 ++ ((d.drop 6).take 4 ++ d.drop 10) := by
      have upper : d.drop 10 = (d.drop 6).drop 4 := by rw [List.drop_drop]
      have lower : d.drop 6 = (d.drop 2).drop 4 := by rw [List.drop_drop]
      rw [upper, List.take_append_drop, lower, List.take_append_drop]
    rw [encodeUDP, session, packet, ← not_not.mp version, ← not_not.mp type]
    conv_lhs => rw [first, middle, byteAt 10 (by omega), byteAt 11 (by omega)]
    rfl
  · rintro ⟨version, type, valid, rfl⟩
    rw [decodeUDP_encodeUDP valid]
    rcases hdr with ⟨_, _, _, _, _, _⟩
    cases version
    cases type
    rfl

/-- Both codecs decode what they encode and nothing else, and what they encode does not
depend on where they write it. -/
theorem codecs_exact (mac : MACFunction) (codec : P2PCodec) :
    (∀ b d, mac.decode codec b = .ok d ↔ b = mac.encode codec [] d) ∧
    (∀ d hdr p, decodeUDP d = .ok (hdr, p) ↔
      hdr.version = udpProtocolVersion ∧ hdr.type = udpTypeData ∧
        1 ≤ hdr.fragmentCount.toNat ∧ hdr.fragmentCount.toNat ≤ 64 ∧
        hdr.fragmentID < hdr.fragmentCount ∧
        d = encodeUDPInto [] hdr.sessionID hdr.packetID hdr.fragmentID hdr.fragmentCount p) ∧
    (∀ dst d, mac.encode codec dst d = mac.encode codec [] d) ∧
    (∀ dst sessionID packetID fragID fragCount p,
      encodeUDPInto dst sessionID packetID fragID fragCount p =
        encodeUDPInto [] sessionID packetID fragID fragCount p) := by
  refine ⟨fun b d => ?_, fun d hdr p => ?_, fun dst d => ?_, fun dst _ _ _ _ p => ?_⟩
  · rw [mac.decode_iff, mac.encode_eq]
  · have positive : hdr.fragmentID < hdr.fragmentCount → 1 ≤ hdr.fragmentCount.toNat := by
      rw [UInt8.lt_iff_toNat_lt]
      omega
    rw [decodeUDP_iff, encodeUDPInto_eq]
    constructor
    · rintro ⟨version, type, ⟨inside, few⟩, same⟩
      exact ⟨version, type, positive inside, few, inside, same⟩
    · rintro ⟨version, type, _, few, inside, same⟩
      exact ⟨version, type, ⟨inside, few⟩, same⟩
  · rw [mac.encode_eq, mac.encode_eq]
  · rw [encodeUDPInto_eq, encodeUDPInto_eq]

end Rdpulse.Protocol
