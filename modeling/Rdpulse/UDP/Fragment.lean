import Rdpulse.Foundation.Clock
import Rdpulse.Protocol.UDP

namespace Rdpulse.UDP

open Foundation Protocol

/-! Splitting a packet into datagrams. -/

inductive FragmentError
  | packetTooLarge (fragments : Nat)
  deriving DecidableEq, Repr

/-- `NewFragmenter` replaces a payload limit that is not positive. -/
structure Fragmenter where
  maxPayload : Nat
  positive : 0 < maxPayload

def newFragmenter (maxPayload : Int) : Fragmenter :=
  if admissible : 0 < maxPayload.toNat then ⟨maxPayload.toNat, admissible⟩
  else ⟨defaultMaxUDPPayload, by decide⟩

namespace Fragmenter

variable (fragmenter : Fragmenter)

/-- How many fragments a packet takes. An empty packet is one empty fragment. A sum
beyond the range of `int` wraps to a negative number, for which the limit is no
obstacle and the loop makes no round. -/
def fragments (packet : Bytes) : Nat :=
  if packet.length = 0 then 1
  else if packet.length + fragmenter.maxPayload - 1 < 2 ^ 63 then
    (packet.length + fragmenter.maxPayload - 1) / fragmenter.maxPayload
  else 0

def chunk (packet : Bytes) (index : Nat) : Bytes :=
  (packet.drop (index * fragmenter.maxPayload)).take fragmenter.maxPayload

def datagram (sessionID packetID : UInt32) (packet : Bytes) (index : Nat) : Bytes :=
  encodeUDP sessionID packetID (UInt8.ofNat index) (UInt8.ofNat (fragmenter.fragments packet))
    (fragmenter.chunk packet index)

/-- The datagrams that `Fragment` hands to `handleFrag`, in order. -/
def fragment (sessionID packetID : UInt32) (packet : Bytes) : Except FragmentError (List Bytes) :=
  if maxUDPFragments < fragmenter.fragments packet then
    .error (.packetTooLarge (fragmenter.fragments packet))
  else
    .ok ((List.range (fragmenter.fragments packet)).map
      (fragmenter.datagram sessionID packetID packet))

def parts (packet : Bytes) : List Bytes :=
  (List.range (fragmenter.fragments packet)).map (fragmenter.chunk packet)

variable {fragmenter}

/-- The same number in the `int` arithmetic of the code. -/
theorem fragments_eq_int64 {packet : Bytes} (nonempty : packet.length ≠ 0)
    (long : packet.length < 2 ^ 63) (limit : fragmenter.maxPayload < 2 ^ 63) :
    fragmenter.fragments packet =
      ((int64 (packet.length + fragmenter.maxPayload - 1)).tdiv
        fragmenter.maxPayload).toNat := by
  rw [fragments, if_neg nonempty]
  split
  · rename_i small
    rw [int64_of_range (by omega) (by omega)]
    have sum : ((packet.length : Int) + fragmenter.maxPayload - 1) =
        ((packet.length + fragmenter.maxPayload - 1 : Nat) : Int) := by omega
    rw [sum, ← Int.ofNat_tdiv, Int.toNat_natCast]
  · have wrapped : int64 (packet.length + fragmenter.maxPayload - 1) ≤ 0 := by
      rw [int64, Int.bmod_def]
      split <;> omega
    have negative : 0 ≤ (-int64 (packet.length + fragmenter.maxPayload - 1)).tdiv
        fragmenter.maxPayload := Int.tdiv_nonneg (by omega) (by omega)
    rw [Int.neg_tdiv] at negative
    omega

theorem fragments_of_fits {packet : Bytes} (fits : packet.length + fragmenter.maxPayload ≤ 2 ^ 63) :
    fragmenter.fragments packet =
      max 1 ((packet.length + fragmenter.maxPayload - 1) / fragmenter.maxPayload) := by
  have positive := fragmenter.positive
  rw [fragments]
  split
  · rename_i empty
    rw [empty, Nat.div_eq_of_lt (by omega)]
    rfl
  · have some : 0 < (packet.length + fragmenter.maxPayload - 1) / fragmenter.maxPayload :=
      Nat.div_pos (by omega) positive
    rw [if_pos (by omega), Nat.max_eq_right some]

theorem length_le_fragments_mul {packet : Bytes} (some : 0 < fragmenter.fragments packet) :
    packet.length ≤ fragmenter.fragments packet * fragmenter.maxPayload := by
  have positive := fragmenter.positive
  rw [fragments] at some ⊢
  split
  · omega
  · rename_i nonempty
    rw [if_neg nonempty] at some
    split at some
    · rename_i small
      rw [if_pos small]
      have rest := Nat.mod_lt (packet.length + fragmenter.maxPayload - 1) positive
      have total := Nat.div_add_mod' (packet.length + fragmenter.maxPayload - 1)
        fragmenter.maxPayload
      omega
    · omega

theorem flatMap_chunk (packet : Bytes) (count : Nat) :
    (List.range count).flatMap (fragmenter.chunk packet) =
      packet.take (count * fragmenter.maxPayload) := by
  induction count with
  | zero => simp
  | succ count induction =>
      rw [List.range_succ, List.flatMap_append, induction, List.flatMap_singleton, chunk,
        Nat.succ_mul, List.take_add]

@[simp] theorem parts_length (packet : Bytes) :
    (fragmenter.parts packet).length = fragmenter.fragments packet := by
  simp [parts]

theorem parts_getElem? {packet : Bytes} {index : Nat}
    (bound : index < fragmenter.fragments packet) :
    (fragmenter.parts packet)[index]? = some (fragmenter.chunk packet index) := by
  simp [parts, List.getElem?_range bound]

theorem parts_flatten {packet : Bytes} (some : 0 < fragmenter.fragments packet) :
    (fragmenter.parts packet).flatten = packet := by
  rw [parts, ← List.flatMap_def, flatMap_chunk,
    List.take_of_length_le (length_le_fragments_mul some)]

theorem toNat_ofNat_fragments {packet : Bytes}
    (few : fragmenter.fragments packet ≤ maxUDPFragments) :
    (UInt8.ofNat (fragmenter.fragments packet)).toNat = fragmenter.fragments packet := by
  rw [maxUDPFragments] at few
  rw [UInt8.toNat_ofNat']
  omega

theorem toNat_ofNat_index {packet : Bytes} {index : Nat}
    (few : fragmenter.fragments packet ≤ maxUDPFragments)
    (bound : index < fragmenter.fragments packet) : (UInt8.ofNat index).toNat = index := by
  rw [maxUDPFragments] at few
  rw [UInt8.toNat_ofNat']
  omega

theorem validFragment_datagram {packet : Bytes} {index : Nat}
    (few : fragmenter.fragments packet ≤ maxUDPFragments)
    (bound : index < fragmenter.fragments packet) :
    ValidFragment (UInt8.ofNat index) (UInt8.ofNat (fragmenter.fragments packet)) := by
  rw [ValidFragment, UInt8.lt_iff_toNat_lt, toNat_ofNat_fragments few, toNat_ofNat_index few bound]
  exact ⟨bound, few⟩

def header (fragmenter : Fragmenter) (sessionID packetID : UInt32) (packet : Bytes)
    (index : Nat) : UDPHeader :=
  ⟨udpProtocolVersion, udpTypeData, sessionID, packetID, UInt8.ofNat index,
    UInt8.ofNat (fragmenter.fragments packet)⟩

theorem decodeUDP_datagram {packet : Bytes} {index : Nat} (sessionID packetID : UInt32)
    (few : fragmenter.fragments packet ≤ maxUDPFragments)
    (bound : index < fragmenter.fragments packet) :
    decodeUDP (fragmenter.datagram sessionID packetID packet index) =
      .ok (fragmenter.header sessionID packetID packet index, fragmenter.chunk packet index) :=
  decodeUDP_encodeUDP (validFragment_datagram few bound) _

theorem datagram_injective {packet : Bytes} {index other : Nat} {sessionID packetID : UInt32}
    (few : fragmenter.fragments packet ≤ maxUDPFragments)
    (bound : index < fragmenter.fragments packet) (otherBound : other < fragmenter.fragments packet)
    (equal : fragmenter.datagram sessionID packetID packet index =
      fragmenter.datagram sessionID packetID packet other) : index = other := by
  have decoded := decodeUDP_datagram sessionID packetID few bound
  rw [equal, decodeUDP_datagram sessionID packetID few otherBound] at decoded
  have fragmentID := congrArg (fun hdr : UDPHeader => hdr.fragmentID.toNat)
    (congrArg Prod.fst (Except.ok.inj decoded))
  simp only [header, toNat_ofNat_index few bound, toNat_ofNat_index few otherBound] at fragmentID
  exact fragmentID.symm

theorem fragment_eq_ok {sessionID packetID : UInt32} {packet : Bytes} {datagrams : List Bytes}
    (split : fragmenter.fragment sessionID packetID packet = .ok datagrams) :
    fragmenter.fragments packet ≤ maxUDPFragments ∧
      datagrams = (List.range (fragmenter.fragments packet)).map
        (fragmenter.datagram sessionID packetID packet) := by
  rw [fragment] at split
  by_cases many : maxUDPFragments < fragmenter.fragments packet
  · rw [if_pos many] at split
    cases split
  · rw [if_neg many] at split
    cases split
    exact ⟨by omega, rfl⟩

end Fragmenter

end Rdpulse.UDP
