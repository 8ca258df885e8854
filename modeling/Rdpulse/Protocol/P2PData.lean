import Rdpulse.Foundation.Sha256

namespace Rdpulse.Protocol

open Foundation

/-! Authentication of the datagrams of a direct peer-to-peer path. One codec per
session serves both ends and both directions. -/

def p2pDataMagic : UInt32 := 0x52445044
def p2pDataMACSize : Nat := 16
def p2pDataHeaderSize : Nat := 4 + 4 + p2pDataMACSize

inductive P2PDataError
  | tooShort
  | badMagic
  | badSession
  | missingKey
  | badMAC
  deriving DecidableEq, Repr

structure P2PCodec where
  sessionID : UInt32
  key : Bytes
  deriving DecidableEq, Repr

def newP2PCodec (sessionID : UInt32) (key : Bytes) : Except P2PDataError P2PCodec :=
  if key.length = 0 then .error .missingKey else .ok ⟨sessionID, key⟩

namespace P2PCodec

variable (codec : P2PCodec)

def header : Bytes := Bytes.putUint32 p2pDataMagic ++ Bytes.putUint32 codec.sessionID

/-- The MAC covers the header and the datagram. Nothing in it tells which end
built the packet. -/
def mac (header datagram : Bytes) : Bytes :=
  (Sha256.hmac codec.key (header ++ datagram)).take p2pDataMACSize

def encode (datagram : Bytes) : Bytes :=
  codec.header ++ codec.mac codec.header datagram ++ datagram

def decode (packet : Bytes) : Except P2PDataError Bytes :=
  if packet.length < p2pDataHeaderSize then .error .tooShort
  else if Bytes.uint32 packet ≠ p2pDataMagic then .error .badMagic
  else if Bytes.uint32 (packet.drop 4) ≠ codec.sessionID then .error .badSession
  else
    let datagram := packet.drop p2pDataHeaderSize
    if (packet.drop 8).take p2pDataMACSize ≠ codec.mac (packet.take 8) datagram then
      .error .badMAC
    else .ok datagram

@[simp] theorem header_length : codec.header.length = 8 := by
  simp [header]

@[simp] theorem mac_length (header datagram : Bytes) :
    (codec.mac header datagram).length = 16 := by
  simp [mac, p2pDataMACSize]

@[simp] theorem encode_length (datagram : Bytes) :
    (codec.encode datagram).length = 24 + datagram.length := by
  simp [encode]
  omega

@[simp] theorem uint32_encode (datagram : Bytes) :
    Bytes.uint32 (codec.encode datagram) = p2pDataMagic := by
  simp [encode, header]

theorem encode_take (datagram : Bytes) :
    (codec.encode datagram).take 4 = Bytes.putUint32 p2pDataMagic := by
  simp only [encode, header, List.append_assoc]
  exact List.take_left' (Bytes.putUint32_length _)

theorem encode_drop (datagram : Bytes) :
    (codec.encode datagram).drop p2pDataHeaderSize = datagram :=
  List.drop_left' (by simp [p2pDataHeaderSize, p2pDataMACSize])

theorem decode_encode (datagram : Bytes) : codec.decode (codec.encode datagram) = .ok datagram := by
  have long : ¬(codec.encode datagram).length < p2pDataHeaderSize := by
    rw [encode_length, p2pDataHeaderSize, p2pDataMACSize]
    omega
  have grouped : codec.encode datagram =
      Bytes.putUint32 p2pDataMagic ++ (Bytes.putUint32 codec.sessionID ++
        (codec.mac codec.header datagram ++ datagram)) := by
    simp [encode, header]
  have session : Bytes.uint32 ((codec.encode datagram).drop 4) = codec.sessionID := by
    rw [grouped, List.drop_left' (Bytes.putUint32_length _)]
    exact Bytes.uint32_putUint32 _ _
  have taken : (codec.encode datagram).take 8 = codec.header := by
    rw [encode, List.append_assoc]
    exact List.take_left' codec.header_length
  have tag : ((codec.encode datagram).drop 8).take p2pDataMACSize =
      codec.mac codec.header datagram := by
    rw [encode, List.append_assoc, List.drop_left' codec.header_length]
    exact List.take_left' (codec.mac_length _ _)
  simp only [decode, if_neg long, uint32_encode, ne_eq, not_true_eq_false, if_false, session, taken,
    tag, encode_drop]

end P2PCodec

end Rdpulse.Protocol
