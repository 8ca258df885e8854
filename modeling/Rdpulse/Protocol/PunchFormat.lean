import Rdpulse.Protocol.Codecs
import Rdpulse.Protocol.Punch

namespace Rdpulse.Protocol

open Foundation

/-! # Which bytes are a punch packet

`DecodePunchPacket` over any keyed hash. It sums the header that it has read, not the
one that has arrived. -/

namespace MACFunction

variable (mac : MACFunction)

def computePunchMAC (key : Bytes) (magic : UInt32) (version pktType : UInt8)
    (sessionID nonce : UInt64) : Bytes :=
  mac.tag key (punchHeader magic version pktType sessionID nonce)

def decodePunchPacket (data key : Bytes) : Except PunchError PunchPacket :=
  if key.length = 0 then .error .missingKey
  else if short : data.length < punchPacketSize then .error .tooShort
  else
    let magic := Bytes.uint32 data
    let version := data.getD 4 0
    let pktType := data.getD 5 0
    let sessionID := Bytes.uint64 (data.drop 8)
    let nonce := Bytes.uint64 (data.drop 16)
    let receivedMAC := (data.drop 24).take punchMACSize
    if magic ≠ punchMagic then .error .badMagic
    else if version ≠ punchVersion then .error (.badVersion version)
    else if pktType ≠ punchTypePunch ∧ pktType ≠ punchTypePunchAck ∧
        pktType ≠ punchTypeKeepalive then .error (.badType pktType)
    else if receivedMAC ≠ mac.computePunchMAC key magic version pktType sessionID nonce then
      .error .badMAC
    else
      .ok
        { magic := magic
          version := version
          type := pktType
          sessionID := sessionID
          nonce := nonce
          mac := receivedMAC
          sized := receivedMAC_length short }

theorem decodePunchPacket_hmacSHA256 (data key : Bytes) :
    hmacSHA256.decodePunchPacket data key = Protocol.decodePunchPacket data key := rfl

end MACFunction

namespace PunchPacket

variable {mac : MACFunction} {key data : Bytes} {packet : PunchPacket}

def header (packet : PunchPacket) : Bytes :=
  punchHeader packet.magic packet.version packet.type packet.sessionID packet.nonce

/-- The right magic and version, one of the three types, and the MAC of its fields. -/
structure Authentic (mac : MACFunction) (key : Bytes) (packet : PunchPacket) : Prop where
  magic : packet.magic = punchMagic
  version : packet.version = punchVersion
  type : packet.type = punchTypePunch ∨ packet.type = punchTypePunchAck ∨
    packet.type = punchTypeKeepalive
  mac : packet.mac = mac.tag key packet.header

/-- The packet with these bytes in the reserved places and after its end. -/
def wire (packet : PunchPacket) (first second : UInt8) (rest : Bytes) : Bytes :=
  Bytes.putUint32 packet.magic ++ ([packet.version, packet.type, first, second] ++
    (Bytes.putUint64 packet.sessionID ++ (Bytes.putUint64 packet.nonce ++ (packet.mac ++ rest))))

theorem wire_eq (packet : PunchPacket) (first second : UInt8) (rest : Bytes) :
    packet.wire first second rest = (packet.encode.set 6 first).set 7 second ++ rest := by
  have split : packet.encode = Bytes.putUint32 packet.magic ++ ([packet.version, packet.type, 0, 0] ++
      (Bytes.putUint64 packet.sessionID ++ (Bytes.putUint64 packet.nonce ++ packet.mac))) := by
    simp [encode, punchHeader]
  rw [split, List.set_append_right _ _ (by simp), List.set_append_right _ _ (by simp)]
  simp [wire]

theorem wire_length (packet : PunchPacket) (first second : UInt8) (rest : Bytes) :
    (packet.wire first second rest).length = 40 + rest.length := by
  rw [wire_eq, List.length_append, List.length_set, List.length_set, encode_length]
  rfl

theorem wire_getElem? (packet : PunchPacket) (first second : UInt8) (rest : Bytes) {index : Nat}
    (inside : index < 40) (notFirst : index ≠ 6) (notSecond : index ≠ 7) :
    (packet.wire first second rest)[index]? = packet.encode[index]? := by
  have sized : index < ((packet.encode.set 6 first).set 7 second).length := by
    rw [List.length_set, List.length_set, encode_length]
    exact inside
  rw [wire_eq, List.getElem?_append_left sized, List.getElem?_set_ne (Ne.symm notSecond),
    List.getElem?_set_ne (Ne.symm notFirst)]

theorem read_wire (long : 40 ≤ data.length) :
    data = Bytes.putUint32 (Bytes.uint32 data) ++
      ([data.getD 4 0, data.getD 5 0, data.getD 6 0, data.getD 7 0] ++
        (Bytes.putUint64 (Bytes.uint64 (data.drop 8)) ++
          (Bytes.putUint64 (Bytes.uint64 (data.drop 16)) ++
            ((data.drop 24).take punchMACSize ++ data.drop 40)))) := by
  have byteAt (index : Nat) (inside : index < data.length) :
      data.drop index = data.getD index 0 :: data.drop (index + 1) := by
    rw [List.drop_eq_getElem_cons inside, List.getD_eq_getElem?_getD,
      List.getElem?_eq_getElem inside, Option.getD_some]
  have next (front width : Nat) :
      data.drop front = (data.drop front).take width ++ data.drop (front + width) := by
    rw [← List.drop_drop, List.take_append_drop]
  have bytes : data.drop 4 =
      [data.getD 4 0, data.getD 5 0, data.getD 6 0, data.getD 7 0] ++ data.drop 8 := by
    rw [byteAt 4 (by omega), byteAt 5 (by omega), byteAt 6 (by omega), byteAt 7 (by omega)]
    rfl
  have magic := Bytes.putUint32_uint32 (show 4 ≤ data.length by omega)
  have session := Bytes.putUint64_uint64 (show 8 ≤ (data.drop 8).length by
    rw [List.length_drop]; omega)
  have nonce := Bytes.putUint64_uint64 (show 8 ≤ (data.drop 16).length by
    rw [List.length_drop]; omega)
  rw [magic, session, nonce, show punchMACSize = 16 from rfl, ← next 24 16, ← next 16 8, ← next 8 8,
    ← bytes, List.take_append_drop]

theorem decode_iff (keyed : key ≠ []) :
    mac.decodePunchPacket data key = .ok packet ↔
      packet.Authentic mac key ∧ ∃ first second rest, data = packet.wire first second rest := by
  have present : key.length ≠ 0 := fun empty => keyed (List.length_eq_zero_iff.mp empty)
  constructor
  · intro decoded
    simp only [MACFunction.decodePunchPacket, if_neg present] at decoded
    split at decoded
    · cases decoded
    rename_i long
    split at decoded
    · cases decoded
    rename_i magic
    split at decoded
    · cases decoded
    rename_i version
    split at decoded
    · cases decoded
    rename_i type
    split at decoded
    · cases decoded
    rename_i tag
    cases decoded
    refine ⟨⟨not_not.mp magic, not_not.mp version, ?_, not_not.mp tag⟩, data.getD 6 0,
      data.getD 7 0, data.drop 40, read_wire (Nat.le_of_not_lt long)⟩
    by_contra unknown
    rw [not_or, not_or] at unknown
    exact type unknown
  · rintro ⟨authentic, first, second, rest, rfl⟩
    have long : ¬(packet.wire first second rest).length < punchPacketSize := by
      rw [wire_length, punchPacketSize]
      omega
    have typed : ¬(packet.type ≠ punchTypePunch ∧ packet.type ≠ punchTypePunchAck ∧
        packet.type ≠ punchTypeKeepalive) := by
      rintro ⟨notPunch, notAck, notKeepalive⟩
      rcases authentic.type with same | same | same <;> contradiction
    have taken : (packet.mac ++ rest).take punchMACSize = packet.mac :=
      List.take_left' packet.sized
    have tag : packet.mac = mac.computePunchMAC key punchMagic punchVersion packet.type
        packet.sessionID packet.nonce := by
      rw [authentic.mac, header, authentic.magic, authentic.version]
      rfl
    rw [MACFunction.decodePunchPacket, if_neg present, dif_neg long]
    simp only [wire, Bytes.uint32_putUint32, version_getD, type_getD, sessionID_drop, nonce_drop,
      mac_drop, Bytes.uint64_putUint64, taken, if_neg typed, authentic.magic, authentic.version,
      ne_eq, not_true_eq_false, if_false]
    rw [if_neg (not_not.mpr tag)]
    congr 1
    rcases packet with ⟨_, _, _, _, _, _, _⟩
    cases authentic.magic
    cases authentic.version
    rfl

/-- Another byte in an accepted packet, in none of the reserved places, is accepted only
if the tags of two headers collide. -/
theorem collides_of_set {changed : PunchPacket} {index : Nat} {byte value : UInt8} (keyed : key ≠ [])
    (accepted : mac.decodePunchPacket data key = .ok packet)
    (again : mac.decodePunchPacket (data.set index value) key = .ok changed)
    (stood : data[index]? = some byte) (different : byte ≠ value) (inside : index < 40)
    (notFirst : index ≠ 6) (notSecond : index ≠ 7) :
    mac.Collides key packet.header changed.header := by
  rcases (decode_iff keyed).mp accepted with ⟨authentic, first, second, rest, rfl⟩
  rcases (decode_iff keyed).mp again with ⟨other, first', second', rest', equal⟩
  have bound : index < (packet.wire first second rest).length :=
    (List.getElem?_eq_some_iff.mp stood).1
  have old : packet.encode[index]? = some byte := by
    rw [← wire_getElem? packet first second rest inside notFirst notSecond, stood]
  have new : changed.encode[index]? = some value := by
    rw [← wire_getElem? changed first' second' rest' inside notFirst notSecond, ← equal,
      List.getElem?_set_self bound]
  have kept : ∀ place, place < 40 → place ≠ index → place ≠ 6 → place ≠ 7 →
      packet.encode[place]? = changed.encode[place]? := by
    intro place within apart notFirst notSecond
    rw [← wire_getElem? packet first second rest within notFirst notSecond,
      ← wire_getElem? changed first' second' rest' within notFirst notSecond, ← equal,
      List.getElem?_set_ne (Ne.symm apart)]
  have headerSize : ∀ one : PunchPacket, one.header.length = 24 := fun _ => punchHeader_length _ _ _ _ _
  have inHeader : ∀ (one : PunchPacket) (place : Nat), place < 24 →
      one.encode[place]? = one.header[place]? := fun one place within =>
    List.getElem?_append_left (lt_of_lt_of_eq within (headerSize one).symm)
  have inMAC : ∀ (one : PunchPacket) (place : Nat),
      one.encode[24 + place]? = one.mac[place]? := by
    intro one place
    have behind : one.encode[24 + place]? = one.mac[24 + place - 24]? := by
      rw [encode, List.getElem?_append_right (by simp), punchHeader_length]
    rw [behind, Nat.add_sub_cancel_left]
  have apart : packet.header ≠ changed.header := by
    intro same
    have whole : packet.encode = changed.encode := by
      rw [encode, encode, authentic.mac, other.mac, same]
      exact congrArg (· ++ _) same
    rw [whole, new] at old
    exact different (Option.some.inj old).symm
  refine ⟨apart, ?_⟩
  rw [← authentic.mac, ← other.mac]
  by_cases front : index < 24
  · apply List.ext_getElem?
    intro place
    by_cases within : place < 16
    · rw [← inMAC, ← inMAC]
      exact kept _ (by omega) (by omega) (by omega) (by omega)
    · rw [List.getElem?_eq_none (by rw [packet.sized, punchMACSize]; omega),
        List.getElem?_eq_none (by rw [changed.sized, punchMACSize]; omega)]
  · refine absurd (List.ext_getElem? fun place => ?_) apart
    by_cases within : place < 24
    · by_cases reserved : place = 6 ∨ place = 7
      · rcases reserved with rfl | rfl <;> rfl
      · rw [not_or] at reserved
        rw [← inHeader _ _ within, ← inHeader _ _ within]
        exact kept place (by omega) (by omega) reserved.1 reserved.2
    · rw [List.getElem?_eq_none (by rw [headerSize]; omega),
        List.getElem?_eq_none (by rw [headerSize]; omega)]

/-- What `DecodePunchPacket` accepts is what `Encode` makes of an authentic packet, with
anything in the two reserved places and behind the fortieth byte. Any other byte that is
changed has it refused, unless the tags of two headers collide. -/
theorem punch_packets_exact (mac : MACFunction) (keyed : key ≠ []) (b : Bytes) :
    ((∃ packet, mac.decodePunchPacket b key = .ok packet) ↔
      ∃ (packet : PunchPacket) (first second : UInt8) (rest : Bytes),
        packet.Authentic mac key ∧ b = (packet.encode.set 6 first).set 7 second ++ rest) ∧
    (∀ packet changed index byte value, mac.decodePunchPacket b key = .ok packet →
      b[index]? = some byte → byte ≠ value → index < 40 → index ≠ 6 → index ≠ 7 →
      mac.decodePunchPacket (b.set index value) key = .ok changed →
      mac.Collides key packet.header changed.header) := by
  refine ⟨⟨?_, ?_⟩, fun packet changed index byte value accepted stood different inside notFirst
    notSecond again => collides_of_set keyed accepted again stood different inside notFirst notSecond⟩
  · rintro ⟨packet, accepted⟩
    rcases (decode_iff keyed).mp accepted with ⟨authentic, first, second, rest, equal⟩
    exact ⟨packet, first, second, rest, authentic, equal.trans (wire_eq _ _ _ _)⟩
  · rintro ⟨packet, first, second, rest, authentic, equal⟩
    exact ⟨packet, (decode_iff keyed).mpr
      ⟨authentic, first, second, rest, equal.trans (wire_eq _ _ _ _).symm⟩⟩

def signed (mac : MACFunction) (key : Bytes) (pktType : UInt8) (sessionID nonce : UInt64) :
    PunchPacket where
  magic := punchMagic
  version := punchVersion
  type := pktType
  sessionID := sessionID
  nonce := nonce
  mac := mac.computePunchMAC key punchMagic punchVersion pktType sessionID nonce
  sized := MACFunction.tag_length _ _ _

theorem signed_authentic (mac : MACFunction) (key : Bytes) (sessionID nonce : UInt64) :
    (signed mac key punchTypePunch sessionID nonce).Authentic mac key :=
  ⟨rfl, rfl, .inl rfl, rfl⟩

def samplePunch : PunchPacket := signed hmacSHA256 [0x6b] punchTypePunch 7 9

/-- A packet with a byte in a reserved place is accepted. -/
theorem punch_packets_exact_reserved :
    ∃ packet, hmacSHA256.decodePunchPacket ((samplePunch.encode.set 6 1).set 7 0 ++ []) [0x6b] =
      .ok packet :=
  (punch_packets_exact hmacSHA256 (by decide) _).1.mpr
    ⟨samplePunch, 1, 0, [], signed_authentic _ _ _ _, rfl⟩

/-- So is one with a byte behind it, and neither is what `Encode` makes of a packet. -/
theorem longer_packet_accepted :
    (∃ packet, hmacSHA256.decodePunchPacket (samplePunch.encode ++ [0]) [0x6b] = .ok packet) ∧
    (∀ packet : PunchPacket, samplePunch.encode ++ [0] ≠ packet.encode) ∧
    (∃ packet, hmacSHA256.decodePunchPacket (samplePunch.wire 1 0 []) [0x6b] = .ok packet) ∧
    ∀ packet : PunchPacket, samplePunch.wire 1 0 [] ≠ packet.encode := by
  have plain : samplePunch.encode ++ [0] = samplePunch.wire 0 0 [0] := by
    simp [encode, punchHeader, wire]
  refine ⟨⟨samplePunch, ?_⟩, fun packet same => ?_, ⟨samplePunch, ?_⟩, fun packet same => ?_⟩
  · rw [plain]
    exact (decode_iff (by decide)).mpr ⟨signed_authentic _ _ _ _, 0, 0, [0], rfl⟩
  · have sizes := congrArg List.length same
    rw [List.length_append, encode_length, encode_length] at sizes
    simp at sizes
  · exact (decode_iff (by decide)).mpr ⟨signed_authentic _ _ _ _, 1, 0, [], rfl⟩
  · have sixth := congrArg (·[6]?) same
    exact absurd sixth (by simp [wire, encode, punchHeader, List.getElem?_append])

end PunchPacket

end Rdpulse.Protocol
