import Rdpulse.Foundation.Sha256

namespace Rdpulse.Protocol

open Foundation

/-! The packets of UDP hole punching and of its keepalive. -/

def punchMagic : UInt32 := 0x52445055
def punchVersion : UInt8 := 1
def punchTypePunch : UInt8 := 1
def punchTypePunchAck : UInt8 := 2
def punchTypeKeepalive : UInt8 := 3
def punchPacketSize : Nat := 40
def punchMACSize : Nat := 16

inductive PunchError
  | tooShort
  | badMagic
  | badVersion (version : UInt8)
  | badType (pktType : UInt8)
  | badMAC
  | missingKey
  deriving DecidableEq, Repr

structure PunchPacket where
  magic : UInt32
  version : UInt8
  type : UInt8
  sessionID : UInt64
  nonce : UInt64
  mac : Bytes
  sized : mac.length = punchMACSize
  deriving DecidableEq

/-- The 24 bytes before the MAC, two of them reserved. -/
def punchHeader (magic : UInt32) (version pktType : UInt8) (sessionID nonce : UInt64) : Bytes :=
  Bytes.putUint32 magic ++ ([version, pktType, 0, 0] ++
    (Bytes.putUint64 sessionID ++ Bytes.putUint64 nonce))

/-- The MAC covers no role and nothing that the receiver chose. -/
def computePunchMAC (key : Bytes) (magic : UInt32) (version pktType : UInt8)
    (sessionID nonce : UInt64) : Bytes :=
  (Sha256.hmac key (punchHeader magic version pktType sessionID nonce)).take punchMACSize

@[simp] theorem punchHeader_length (magic : UInt32) (version pktType : UInt8)
    (sessionID nonce : UInt64) :
    (punchHeader magic version pktType sessionID nonce).length = 24 := by
  simp [punchHeader]

@[simp] theorem computePunchMAC_length (key : Bytes) (magic : UInt32) (version pktType : UInt8)
    (sessionID nonce : UInt64) :
    (computePunchMAC key magic version pktType sessionID nonce).length = punchMACSize := by
  simp [computePunchMAC, punchMACSize]

/-- `nonce` is what `rand.Read` filled in. -/
def newPunchPacket (pktType : UInt8) (sessionID : UInt64) (key : Bytes) (nonce : UInt64) :
    Except PunchError PunchPacket :=
  if key.length = 0 then .error .missingKey
  else
    .ok
      { magic := punchMagic
        version := punchVersion
        type := pktType
        sessionID := sessionID
        nonce := nonce
        mac := computePunchMAC key punchMagic punchVersion pktType sessionID nonce
        sized := computePunchMAC_length _ _ _ _ _ _ }

def PunchPacket.encode (packet : PunchPacket) : Bytes :=
  punchHeader packet.magic packet.version packet.type packet.sessionID packet.nonce ++ packet.mac

theorem receivedMAC_length {data : Bytes} (long : ¬data.length < punchPacketSize) :
    ((data.drop 24).take punchMACSize).length = punchMACSize := by
  have long := Nat.le_of_not_lt long
  simp only [punchPacketSize] at long
  simp only [List.length_take, List.length_drop, punchMACSize]
  omega

/-- The reserved bytes and whatever follows the fortieth byte are not looked at. -/
def decodePunchPacket (data key : Bytes) : Except PunchError PunchPacket :=
  if key.length = 0 then .error .missingKey
  else if short : data.length < punchPacketSize then .error .tooShort
  else
    let magic := Bytes.uint32 data
    let version := data.getD 4 0
    let pktType := data.getD 5 0
    let sessionID := Bytes.uint64 (data.drop 8)
    let nonce := Bytes.uint64 (data.drop 16)
    let receivedMAC := (data.drop 24).take punchMACSize
    if magic ≠ punchMagic then .error .badMagic
    else if version ≠ punchVersion then .error (.badVersion version)
    else if pktType ≠ punchTypePunch ∧ pktType ≠ punchTypePunchAck ∧
        pktType ≠ punchTypeKeepalive then .error (.badType pktType)
    else if receivedMAC ≠ computePunchMAC key magic version pktType sessionID nonce then
      .error .badMAC
    else
      .ok
        { magic := magic
          version := version
          type := pktType
          sessionID := sessionID
          nonce := nonce
          mac := receivedMAC
          sized := receivedMAC_length short }

namespace PunchPacket

variable {packet : PunchPacket} {key data : Bytes} {pktType : UInt8} {sessionID nonce : UInt64}

@[simp] theorem encode_length (packet : PunchPacket) : packet.encode.length = punchPacketSize := by
  simp [encode, packet.sized, punchPacketSize, punchMACSize]

theorem new_sessionID (made : newPunchPacket pktType sessionID key nonce = .ok packet) :
    packet.sessionID = sessionID := by
  simp only [newPunchPacket] at made
  split at made <;> cases made
  rfl

theorem new_of_decode (decoded : decodePunchPacket data key = .ok packet) :
    newPunchPacket packet.type packet.sessionID key packet.nonce = .ok packet := by
  simp only [decodePunchPacket] at decoded
  split at decoded
  · cases decoded
  rename_i keyed
  split at decoded
  · cases decoded
  split at decoded
  · cases decoded
  rename_i magic
  split at decoded
  · cases decoded
  rename_i version
  split at decoded
  · cases decoded
  split at decoded
  · cases decoded
  rename_i tag
  cases decoded
  simp only [ne_eq, not_not] at magic version tag
  simp only [newPunchPacket, if_neg keyed, magic, version] at tag ⊢
  rw [Except.ok.injEq]
  congr 1
  rw [tag]

/-! The fields of a packet, read back from where they stand. -/

section Fields

variable (magic : UInt32) (version first second : UInt8) (tail : Bytes)

theorem version_getD :
    (Bytes.putUint32 magic ++ ([version, pktType, first, second] ++ tail)).getD 4 0 = version := by
  rw [List.getD_eq_getElem?_getD, List.getElem?_append_right (by simp)]
  simp

theorem type_getD :
    (Bytes.putUint32 magic ++ ([version, pktType, first, second] ++ tail)).getD 5 0 = pktType := by
  rw [List.getD_eq_getElem?_getD, List.getElem?_append_right (by simp)]
  simp

theorem sessionID_drop :
    (Bytes.putUint32 magic ++ ([version, pktType, first, second] ++ tail)).drop 8 = tail := by
  rw [← List.append_assoc]
  exact List.drop_left' (by simp)

theorem nonce_drop :
    (Bytes.putUint32 magic ++ ([version, pktType, first, second] ++
      (Bytes.putUint64 sessionID ++ tail))).drop 16 = tail := by
  rw [← List.append_assoc, ← List.append_assoc]
  exact List.drop_left' (by simp)

theorem mac_drop :
    (Bytes.putUint32 magic ++ ([version, pktType, first, second] ++
      (Bytes.putUint64 sessionID ++ (Bytes.putUint64 nonce ++ tail)))).drop 24 = tail := by
  rw [← List.append_assoc, ← List.append_assoc, ← List.append_assoc]
  exact List.drop_left' (by simp)

end Fields

theorem decode_encode (made : newPunchPacket pktType sessionID key nonce = .ok packet)
    (known : pktType = punchTypePunch ∨ pktType = punchTypePunchAck ∨
      pktType = punchTypeKeepalive) (rest : Bytes) :
    decodePunchPacket (packet.encode ++ rest) key = .ok packet := by
  simp only [newPunchPacket] at made
  split at made
  · cases made
  rename_i keyed
  cases made
  have long : ∀ packet : PunchPacket, ¬(packet.encode ++ rest).length < punchPacketSize := by
    intro packet
    rw [List.length_append, encode_length]
    omega
  have typed : ¬(pktType ≠ punchTypePunch ∧ pktType ≠ punchTypePunchAck ∧
      pktType ≠ punchTypeKeepalive) := by
    rintro ⟨notPunch, notAck, notKeepalive⟩
    rcases known with same | same | same <;> contradiction
  have taken : (computePunchMAC key punchMagic punchVersion pktType sessionID nonce ++
      rest).take punchMACSize =
        computePunchMAC key punchMagic punchVersion pktType sessionID nonce :=
    List.take_left' (computePunchMAC_length _ _ _ _ _ _)
  rw [decodePunchPacket, if_neg keyed, dif_neg (long _)]
  simp only [PunchPacket.encode, punchHeader, List.append_assoc, Bytes.uint32_putUint32,
    version_getD, type_getD, sessionID_drop, nonce_drop, mac_drop, Bytes.uint64_putUint64, taken,
    if_neg typed, ne_eq, not_true_eq_false, if_false]

end PunchPacket

end Rdpulse.Protocol
