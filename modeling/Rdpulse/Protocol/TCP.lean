import Rdpulse.Foundation.Bytes

namespace Rdpulse.Protocol

open Foundation

/-! The 8-byte header that opens a TCP connection on a stream, and that answers it. -/

def tcpProtocolVersion : UInt8 := 1
def tcpHeaderSize : Nat := 8
def tcpTypeOpen : UInt8 := 0x01
def tcpTypeOpenOK : UInt8 := 0x02
def tcpTypeError : UInt8 := 0x03
def tcpTypeClose : UInt8 := 0x04

structure TCPHeader where
  version : UInt8
  type : UInt8
  connectionID : UInt32
  targetPort : UInt16
  deriving DecidableEq, Repr

inductive TCPHeaderError
  | insufficientData
  | unsupportedVersion (version : UInt8)
  deriving DecidableEq, Repr

namespace TCPHeader

def encode (h : TCPHeader) : Bytes :=
  h.version :: h.type :: (Bytes.putUint32 h.connectionID ++ Bytes.putUint16 h.targetPort)

def decode (b : Bytes) : Except TCPHeaderError TCPHeader :=
  if b.length < tcpHeaderSize then .error .insufficientData
  else
    .ok { version := b.getD 0 0
          type := b.getD 1 0
          connectionID := Bytes.uint32 (b.drop 2)
          targetPort := Bytes.uint16 (b.drop 6) }

@[simp] theorem encode_length (h : TCPHeader) : h.encode.length = tcpHeaderSize := by
  simp [encode, tcpHeaderSize]

theorem decode_encode (h : TCPHeader) (rest : Bytes) : decode (h.encode ++ rest) = .ok h := by
  have long : ¬(h.encode ++ rest).length < tcpHeaderSize := by
    rw [List.length_append, encode_length]
    omega
  have port : (h.encode ++ rest).drop 6 = Bytes.putUint16 h.targetPort ++ rest := by
    have grouped : h.encode ++ rest =
        (h.version :: h.type :: Bytes.putUint32 h.connectionID) ++
          (Bytes.putUint16 h.targetPort ++ rest) := by
      simp [encode]
    rw [grouped]
    exact List.drop_left' (by simp)
  rw [decode, if_neg long, port, Bytes.uint16_putUint16]
  simp [encode]

theorem encode_injective : Function.Injective encode := by
  intro first second same
  have read := decode_encode first []
  rw [same, decode_encode second []] at read
  exact (Except.ok.inj read).symm

theorem encode_of_decode {b : Bytes} {h : TCPHeader} (decoded : decode b = .ok h)
    (sized : b.length = tcpHeaderSize) : h.encode = b := by
  rw [tcpHeaderSize] at sized
  rcases b with _ | ⟨version, _ | ⟨type, rest⟩⟩
  · cases sized
  · cases sized
  · simp only [List.length_cons] at sized
    have long : ¬(version :: type :: rest).length < tcpHeaderSize := by
      simp only [List.length_cons, tcpHeaderSize]
      omega
    rw [decode, if_neg long] at decoded
    cases decoded
    have front : Bytes.putUint32 (Bytes.uint32 rest) = rest.take 4 :=
      Bytes.putUint32_uint32 (by omega)
    have back : Bytes.putUint16 (Bytes.uint16 (rest.drop 4)) = rest.drop 4 := by
      rw [Bytes.putUint16_uint16 (by rw [List.length_drop]; omega)]
      exact List.take_of_length_le (by rw [List.length_drop]; omega)
    simp only [encode, List.getD_cons_zero, List.getD_cons_succ, List.drop_succ_cons, List.drop_zero,
      front, back, List.take_append_drop]

end TCPHeader

/-- `ReadTCPHeader` from the bytes that `io.ReadFull` has filled its buffer with. -/
def readTCPHeader (buf : Bytes) : Except TCPHeaderError TCPHeader :=
  match TCPHeader.decode buf with
  | .error err => .error err
  | .ok h => if h.version ≠ tcpProtocolVersion then .error (.unsupportedVersion h.version) else .ok h

theorem readTCPHeader_iff {buf : Bytes} {h : TCPHeader} (sized : buf.length = tcpHeaderSize) :
    readTCPHeader buf = .ok h ↔ h.version = tcpProtocolVersion ∧ buf = h.encode := by
  constructor
  · intro accepted
    unfold readTCPHeader at accepted
    split at accepted
    · cases accepted
    · rename_i found decoded
      split at accepted
      · cases accepted
      · rename_i version
        cases accepted
        exact ⟨not_not.mp version, (TCPHeader.encode_of_decode decoded sized).symm⟩
  · rintro ⟨version, rfl⟩
    have decoded := h.decode_encode []
    rw [List.append_nil] at decoded
    simp [readTCPHeader, decoded, version]

end Rdpulse.Protocol
