import Rdpulse.Foundation.Bytes

namespace Rdpulse.TLSMux

open Foundation

/-! Frames of the TLS mux: a type byte, the stream id and the payload length,
both as 32-bit big-endian numbers, and the payload. -/

def frameOpen : UInt8 := 1
def frameData : UInt8 := 2
def frameClose : UInt8 := 3
def frameDatagram : UInt8 := 4

def frameHeaderSize : Nat := 9
def maxFramePayload : Nat := 64 * 1024
def maxWriteChunk : Nat := 16 * 1024
def maxStreams : Nat := 256
def streamQueueSize : Nat := 64
def datagramQueueSize : Nat := 256
def acceptQueueSize : Nat := 128

structure Frame where
  frameType : UInt8
  streamID : UInt32
  payload : Bytes
  deriving DecidableEq, Repr

structure Header where
  frameType : UInt8
  streamID : UInt32
  length : Nat
  deriving DecidableEq, Repr

namespace Frame

def header (frame : Frame) : Header where
  frameType := frame.frameType
  streamID := frame.streamID
  length := frame.payload.length

def encodeHeader (frame : Frame) : Bytes :=
  frame.frameType :: (Bytes.putUint32 frame.streamID ++
    Bytes.putUint32 (UInt32.ofNat frame.payload.length))

def encode (frame : Frame) : Bytes := frame.encodeHeader ++ frame.payload

@[simp] theorem encodeHeader_length (frame : Frame) :
    frame.encodeHeader.length = frameHeaderSize := by
  simp [encodeHeader, frameHeaderSize]

@[simp] theorem encode_length (frame : Frame) :
    frame.encode.length = frameHeaderSize + frame.payload.length := by
  simp [encode]

end Frame

/-- `header[0]`, `header[1:5]` and `header[5:9]`. -/
def decodeHeader (bytes : Bytes) : Header where
  frameType := bytes.headD 0
  streamID := Bytes.uint32 (bytes.drop 1)
  length := (Bytes.uint32 (bytes.drop 5)).toNat

theorem decodeHeader_append {bytes : Bytes} (long : frameHeaderSize ≤ bytes.length)
    (rest : Bytes) : decodeHeader (bytes ++ rest) = decodeHeader bytes := by
  simp only [frameHeaderSize] at long
  cases bytes with
  | nil => simp at long
  | cons frameType tail =>
      simp only [List.length_cons] at long
      have dropped : ((frameType :: tail) ++ rest).drop 5 = tail.drop 4 ++ rest := by
        simp only [List.cons_append, List.drop_succ_cons]
        exact List.drop_append_of_le_length (by omega)
      have streamID : Bytes.uint32 (tail ++ rest) = Bytes.uint32 tail :=
        Bytes.uint32_append (by omega) rest
      have length : Bytes.uint32 (tail.drop 4 ++ rest) = Bytes.uint32 (tail.drop 4) :=
        Bytes.uint32_append (by simp; omega) rest
      simp only [decodeHeader, dropped, length]
      simp [streamID]

theorem decodeHeader_encode (frame : Frame) (rest : Bytes)
    (small : frame.payload.length ≤ maxFramePayload) :
    decodeHeader (frame.encode ++ rest) = frame.header := by
  have fits : frame.payload.length < 2 ^ 32 := by
    simp only [maxFramePayload] at small
    omega
  have afterID : (frame.encode ++ rest).drop 5 =
      Bytes.putUint32 (UInt32.ofNat frame.payload.length) ++ (frame.payload ++ rest) := by
    have split : frame.encode ++ rest =
        (frame.frameType :: Bytes.putUint32 frame.streamID) ++
          (Bytes.putUint32 (UInt32.ofNat frame.payload.length) ++ (frame.payload ++ rest)) := by
      simp [Frame.encode, Frame.encodeHeader]
    rw [split, List.drop_left' (by simp)]
  have number : (UInt32.ofNat frame.payload.length).toNat = frame.payload.length := by
    rw [UInt32.toNat_ofNat']
    exact Nat.mod_eq_of_lt fits
  simp only [decodeHeader, afterID, Bytes.uint32_putUint32, number, Frame.header]
  simp [Frame.encode, Frame.encodeHeader]

def encodeAll (frames : List Frame) : Bytes := frames.flatMap Frame.encode

@[simp] theorem encodeAll_nil : encodeAll [] = [] := rfl

@[simp] theorem encodeAll_cons (frame : Frame) (frames : List Frame) :
    encodeAll (frame :: frames) = frame.encode ++ encodeAll frames := rfl

@[simp] theorem encodeAll_append (before after : List Frame) :
    encodeAll (before ++ after) = encodeAll before ++ encodeAll after := by
  simp [encodeAll]

end Rdpulse.TLSMux
