import Rdpulse.Foundation.Bytes

namespace Rdpulse.Protocol

open Foundation

/-! The 12-byte header of a UDP datagram and its payload. -/

def udpProtocolVersion : UInt8 := 1
def udpHeaderSize : Nat := 12
def udpTypeData : UInt8 := 0x11
def defaultMaxUDPPayload : Nat := 1150
def maxUDPFragments : Nat := 64
def maxUDPPacketSize : Nat := 65535

inductive UDPError
  | dataTooShort
  | unsupportedVersion (version : UInt8)
  | unsupportedType (type : UInt8)
  | invalidFragment
  deriving DecidableEq, Repr

structure UDPHeader where
  version : UInt8
  type : UInt8
  sessionID : UInt32
  packetID : UInt32
  fragmentID : UInt8
  fragmentCount : UInt8
  deriving DecidableEq, Repr

/-- Fragment metadata that a reassembler can place. -/
def ValidFragment (fragmentID fragmentCount : UInt8) : Prop :=
  fragmentID < fragmentCount ∧ fragmentCount.toNat ≤ maxUDPFragments

instance (fragmentID fragmentCount : UInt8) : Decidable (ValidFragment fragmentID fragmentCount) :=
  inferInstanceAs (Decidable (_ ∧ _))

def encodeUDP (sessionID packetID : UInt32) (fragID fragCount : UInt8) (payload : Bytes) : Bytes :=
  udpProtocolVersion :: udpTypeData ::
    (Bytes.putUint32 sessionID ++
      (Bytes.putUint32 packetID ++ (fragID :: fragCount :: payload)))

def decodeUDP (data : Bytes) : Except UDPError (UDPHeader × Bytes) :=
  if data.length < udpHeaderSize then .error .dataTooShort
  else
    let version := data.getD 0 0
    if version ≠ udpProtocolVersion then .error (.unsupportedVersion version)
    else
      let type := data.getD 1 0
      if type ≠ udpTypeData then .error (.unsupportedType type)
      else
        let fragID := data.getD 10 0
        let fragCount := data.getD 11 0
        if fragCount = 0 ∨ fragCount ≤ fragID ∨ maxUDPFragments < fragCount.toNat then
          .error .invalidFragment
        else
          .ok ({ version, type
                 sessionID := Bytes.uint32 (data.drop 2)
                 packetID := Bytes.uint32 (data.drop 6)
                 fragmentID := fragID
                 fragmentCount := fragCount }, data.drop udpHeaderSize)

theorem refused_iff_not_valid (fragmentID fragmentCount : UInt8) :
    (fragmentCount = 0 ∨ fragmentCount ≤ fragmentID ∨ maxUDPFragments < fragmentCount.toNat) ↔
      ¬ValidFragment fragmentID fragmentCount := by
  simp only [ValidFragment, UInt8.lt_iff_toNat_lt, UInt8.le_iff_toNat_le, ← UInt8.toNat_inj,
    UInt8.toNat_zero]
  omega

@[simp] theorem encodeUDP_length (sessionID packetID : UInt32) (fragID fragCount : UInt8)
    (payload : Bytes) :
    (encodeUDP sessionID packetID fragID fragCount payload).length = 12 + payload.length := by
  simp [encodeUDP]
  omega

theorem encodeUDP_fields (sessionID packetID : UInt32) (fragID fragCount : UInt8)
    (payload : Bytes) :
    let data := encodeUDP sessionID packetID fragID fragCount payload
    data.getD 0 0 = udpProtocolVersion ∧ data.getD 1 0 = udpTypeData ∧
      Bytes.uint32 (data.drop 2) = sessionID ∧ Bytes.uint32 (data.drop 6) = packetID ∧
      data.getD 10 0 = fragID ∧ data.getD 11 0 = fragCount ∧
      data.drop udpHeaderSize = payload := by
  have ids : encodeUDP sessionID packetID fragID fragCount payload =
      (udpProtocolVersion :: udpTypeData :: Bytes.putUint32 sessionID ++
        Bytes.putUint32 packetID) ++ (fragID :: fragCount :: payload) := by
    simp [encodeUDP]
  have offset : (udpProtocolVersion :: udpTypeData :: Bytes.putUint32 sessionID ++
      Bytes.putUint32 packetID).length = 10 := by
    simp
  have packet : (encodeUDP sessionID packetID fragID fragCount payload).drop 6 =
      Bytes.putUint32 packetID ++ (fragID :: fragCount :: payload) := by
    have grouped : encodeUDP sessionID packetID fragID fragCount payload =
        (udpProtocolVersion :: udpTypeData :: Bytes.putUint32 sessionID) ++
          (Bytes.putUint32 packetID ++ (fragID :: fragCount :: payload)) := rfl
    rw [grouped]
    exact List.drop_left' (by simp)
  refine ⟨rfl, rfl, Bytes.uint32_putUint32 _ _, ?_, ?_, ?_, ?_⟩
  · rw [packet]
    exact Bytes.uint32_putUint32 _ _
  · rw [ids, List.getD_eq_getElem?_getD, List.getElem?_append_right (by omega), offset]
    rfl
  · rw [ids, List.getD_eq_getElem?_getD, List.getElem?_append_right (by omega), offset]
    rfl
  · rw [ids, show udpHeaderSize = 10 + 2 from rfl, ← List.drop_drop, List.drop_left' offset]
    rfl

theorem decodeUDP_encodeUDP {sessionID packetID : UInt32} {fragID fragCount : UInt8}
    (valid : ValidFragment fragID fragCount) (payload : Bytes) :
    decodeUDP (encodeUDP sessionID packetID fragID fragCount payload) =
      .ok (⟨udpProtocolVersion, udpTypeData, sessionID, packetID, fragID, fragCount⟩, payload) := by
  have long : ¬(encodeUDP sessionID packetID fragID fragCount payload).length < udpHeaderSize := by
    rw [encodeUDP_length, udpHeaderSize]
    omega
  rcases encodeUDP_fields sessionID packetID fragID fragCount payload with
    ⟨version, type, session, packet, fragment, count, rest⟩
  simp only [decodeUDP, if_neg long, version, type, session, packet, fragment, count, rest,
    refused_iff_not_valid, valid, not_true_eq_false, ne_eq, if_false]

theorem decodeUDP_header {data payload : Bytes} {hdr : UDPHeader}
    (decoded : decodeUDP data = .ok (hdr, payload)) :
    ValidFragment hdr.fragmentID hdr.fragmentCount := by
  simp only [decodeUDP] at decoded
  split at decoded
  · cases decoded
  split at decoded
  · cases decoded
  split at decoded
  · cases decoded
  split at decoded
  · cases decoded
  rename_i accepted
  cases decoded
  rwa [refused_iff_not_valid, not_not] at accepted

end Rdpulse.Protocol
