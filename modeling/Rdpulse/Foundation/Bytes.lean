import Mathlib.Data.UInt
import Mathlib.Data.Nat.Basic
import Mathlib.Tactic.Ring

namespace Rdpulse.Foundation

/-! Byte strings and big-endian numbers in them. -/

abbrev Bytes := List UInt8

instance : LawfulBEq Bytes := inferInstance

namespace Bytes

/-- The low `width` bytes of a number, most significant first. -/
def putBigEndian : Nat → Nat → Bytes
  | 0, _ => []
  | width + 1, value => UInt8.ofNat (value / 256 ^ width) :: putBigEndian width value

def bigEndian : Bytes → Nat
  | [] => 0
  | byte :: rest => byte.toNat * 256 ^ rest.length + bigEndian rest

@[simp] theorem putBigEndian_length (width value : Nat) :
    (putBigEndian width value).length = width := by
  induction width with
  | zero => rfl
  | succ width induction => simp [putBigEndian, induction]

theorem bigEndian_lt (bytes : Bytes) : bigEndian bytes < 256 ^ bytes.length := by
  induction bytes with
  | nil => simp [bigEndian]
  | cons byte rest induction =>
      have small : byte.toNat < 256 := byte.toNat_lt
      have scaled : byte.toNat * 256 ^ rest.length ≤ 255 * 256 ^ rest.length :=
        Nat.mul_le_mul_right _ (by omega)
      simp only [bigEndian, List.length_cons, Nat.pow_succ]
      omega

theorem bigEndian_putBigEndian (width value : Nat) :
    bigEndian (putBigEndian width value) = value % 256 ^ width := by
  induction width with
  | zero => simp [putBigEndian, bigEndian, Nat.mod_one]
  | succ width induction =>
      simp only [putBigEndian, bigEndian, putBigEndian_length, induction,
        UInt8.toNat_ofNat', Nat.reducePow]
      rw [Nat.pow_succ, Nat.mod_mul]
      ring

theorem putBigEndian_bigEndian (bytes : Bytes) :
    putBigEndian bytes.length (bigEndian bytes) = bytes := by
  suffices general : ∀ (bytes : Bytes) (above : Nat),
      putBigEndian bytes.length (above * 256 ^ bytes.length + bigEndian bytes) = bytes by
    simpa using general bytes 0
  intro bytes
  induction bytes with
  | nil => intro above; rfl
  | cons byte rest induction =>
      intro above
      have regrouped : above * 256 ^ (rest.length + 1) +
          (byte.toNat * 256 ^ rest.length + bigEndian rest) =
          (above * 256 + byte.toNat) * 256 ^ rest.length + bigEndian rest := by
        rw [Nat.pow_succ]
        ring
      have leading : (above * 256 + byte.toNat) * 256 ^ rest.length + bigEndian rest =
          bigEndian rest + 256 ^ rest.length * (above * 256 + byte.toNat) := by ring
      simp only [List.length_cons, putBigEndian, bigEndian, regrouped, induction,
        List.cons.injEq, and_true]
      rw [leading, Nat.add_mul_div_left _ _ (Nat.pow_pos (by omega)),
        Nat.div_eq_of_lt (bigEndian_lt rest), Nat.zero_add]
      apply UInt8.toNat_inj.mp
      rw [UInt8.toNat_ofNat']
      have small : byte.toNat < 256 := byte.toNat_lt
      omega

/-! ## Fixed widths -/

def putUint16 (value : UInt16) : Bytes := putBigEndian 2 value.toNat
def putUint32 (value : UInt32) : Bytes := putBigEndian 4 value.toNat
def putUint64 (value : UInt64) : Bytes := putBigEndian 8 value.toNat

def uint16 (bytes : Bytes) : UInt16 := UInt16.ofNat (bigEndian (bytes.take 2))
def uint32 (bytes : Bytes) : UInt32 := UInt32.ofNat (bigEndian (bytes.take 4))
def uint64 (bytes : Bytes) : UInt64 := UInt64.ofNat (bigEndian (bytes.take 8))

@[simp] theorem putUint16_length (value : UInt16) : (putUint16 value).length = 2 :=
  putBigEndian_length _ _

@[simp] theorem putUint32_length (value : UInt32) : (putUint32 value).length = 4 :=
  putBigEndian_length _ _

@[simp] theorem putUint64_length (value : UInt64) : (putUint64 value).length = 8 :=
  putBigEndian_length _ _

theorem uint32_append {bytes : Bytes} (long : 4 ≤ bytes.length) (rest : Bytes) :
    uint32 (bytes ++ rest) = uint32 bytes := by
  rw [uint32, List.take_append_of_le_length long, ← uint32]

@[simp] theorem uint16_putUint16 (value : UInt16) (rest : Bytes) :
    uint16 (putUint16 value ++ rest) = value := by
  have small : value.toNat < 65536 := value.toNat_lt
  rw [uint16, List.take_left' (putUint16_length value), putUint16, bigEndian_putBigEndian]
  apply UInt16.toNat_inj.mp
  rw [UInt16.toNat_ofNat']
  omega

@[simp] theorem uint32_putUint32 (value : UInt32) (rest : Bytes) :
    uint32 (putUint32 value ++ rest) = value := by
  have small : value.toNat < 4294967296 := value.toNat_lt
  rw [uint32, List.take_left' (putUint32_length value), putUint32, bigEndian_putBigEndian]
  apply UInt32.toNat_inj.mp
  rw [UInt32.toNat_ofNat']
  omega

@[simp] theorem uint64_putUint64 (value : UInt64) (rest : Bytes) :
    uint64 (putUint64 value ++ rest) = value := by
  have small : value.toNat < 18446744073709551616 := value.toNat_lt
  rw [uint64, List.take_left' (putUint64_length value), putUint64, bigEndian_putBigEndian]
  apply UInt64.toNat_inj.mp
  rw [UInt64.toNat_ofNat']
  omega

theorem putUint16_uint16 {bytes : Bytes} (long : 2 ≤ bytes.length) :
    putUint16 (uint16 bytes) = bytes.take 2 := by
  have sized : (bytes.take 2).length = 2 := by
    rw [List.length_take, Nat.min_eq_left long]
  have small : bigEndian (bytes.take 2) < 65536 := by
    have bound := bigEndian_lt (bytes.take 2)
    rw [sized] at bound
    omega
  have whole := putBigEndian_bigEndian (bytes.take 2)
  rw [sized] at whole
  rw [putUint16, uint16, UInt16.toNat_ofNat', Nat.mod_eq_of_lt small, whole]

theorem putUint32_uint32 {bytes : Bytes} (long : 4 ≤ bytes.length) :
    putUint32 (uint32 bytes) = bytes.take 4 := by
  have sized : (bytes.take 4).length = 4 := by
    rw [List.length_take, Nat.min_eq_left long]
  have small : bigEndian (bytes.take 4) < 4294967296 := by
    have bound := bigEndian_lt (bytes.take 4)
    rw [sized] at bound
    omega
  have whole := putBigEndian_bigEndian (bytes.take 4)
  rw [sized] at whole
  rw [putUint32, uint32, UInt32.toNat_ofNat', Nat.mod_eq_of_lt small, whole]

theorem putUint64_uint64 {bytes : Bytes} (long : 8 ≤ bytes.length) :
    putUint64 (uint64 bytes) = bytes.take 8 := by
  have sized : (bytes.take 8).length = 8 := by
    rw [List.length_take, Nat.min_eq_left long]
  have small : bigEndian (bytes.take 8) < 18446744073709551616 := by
    have bound := bigEndian_lt (bytes.take 8)
    rw [sized] at bound
    omega
  have whole := putBigEndian_bigEndian (bytes.take 8)
  rw [sized] at whole
  rw [putUint64, uint64, UInt64.toNat_ofNat', Nat.mod_eq_of_lt small, whole]

theorem putUint32_injective : Function.Injective putUint32 := by
  intro one other same
  rw [← uint32_putUint32 one [], ← uint32_putUint32 other [], same]

theorem putUint64_injective : Function.Injective putUint64 := by
  intro one other same
  rw [← uint64_putUint64 one [], ← uint64_putUint64 other [], same]

end Bytes

end Rdpulse.Foundation
