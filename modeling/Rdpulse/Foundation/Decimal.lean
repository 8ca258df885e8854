import Rdpulse.Foundation.Bytes

namespace Rdpulse.Foundation.Bytes

/-! Decimal numerals in ASCII, and fields of them between separators. -/

def decimal (value : Nat) : Bytes :=
  (Nat.toDigits 10 value).map fun digit => UInt8.ofNat digit.toNat

def decimalValue (text : Bytes) : Nat :=
  Nat.ofDigitChars 10 (text.map fun byte => Char.ofNat byte.toNat) 0

theorem digit_bounds {digit : Char} {value : Nat} (member : digit ∈ Nat.toDigits 10 value) :
    48 ≤ digit.toNat ∧ digit.toNat ≤ 57 := by
  have isDigit := Nat.isDigit_of_mem_toDigits (by decide) (by decide) member
  simp only [Char.isDigit, Bool.and_eq_true, decide_eq_true_eq] at isDigit
  exact isDigit

theorem decimalValue_decimal (value : Nat) : decimalValue (decimal value) = value := by
  have same : (Nat.toDigits 10 value).map
      ((fun byte : UInt8 => Char.ofNat byte.toNat) ∘ fun digit => UInt8.ofNat digit.toNat) =
        Nat.toDigits 10 value := by
    conv_rhs => rw [← List.map_id (Nat.toDigits 10 value)]
    refine List.map_congr_left fun digit member => ?_
    have small : digit.toNat % 2 ^ 8 = digit.toNat :=
      Nat.mod_eq_of_lt (by have := (digit_bounds member).2; omega)
    simp only [Function.comp_apply, UInt8.toNat_ofNat', small, Char.ofNat_toNat, id]
  rw [decimalValue, decimal, List.map_map, same, Nat.ofDigitChars_ten_toDigits]

theorem mem_decimal {byte : UInt8} {value : Nat} (member : byte ∈ decimal value) :
    0x30 ≤ byte ∧ byte ≤ 0x39 := by
  rcases List.mem_map.mp member with ⟨digit, there, rfl⟩
  rcases digit_bounds there with ⟨lower, upper⟩
  simp only [UInt8.le_iff_toNat_le, UInt8.toNat_ofNat', UInt8.reduceToNat]
  omega

theorem splitOnP_decimal {separates : UInt8 → Bool}
    (apart : ∀ byte, 0x30 ≤ byte → byte ≤ 0x39 → separates byte = false)
    {separator : UInt8} (ends : separates separator = true) (value : Nat) (rest : Bytes) :
    (decimal value ++ separator :: rest).splitOnP separates =
      decimal value :: rest.splitOnP separates := by
  have whole : (decimal value).splitOnP separates = [decimal value] :=
    List.splitOnP_eq_singleton fun byte member =>
      apart byte (mem_decimal member).1 (mem_decimal member).2
  rw [List.splitOnP_append_cons _ _ ends, whole]
  rfl

theorem splitOnP_decimal_end {separates : UInt8 → Bool}
    (apart : ∀ byte, 0x30 ≤ byte → byte ≤ 0x39 → separates byte = false) (value : Nat) :
    (decimal value).splitOnP separates = [decimal value] :=
  List.splitOnP_eq_singleton fun byte member =>
    apart byte (mem_decimal member).1 (mem_decimal member).2

end Rdpulse.Foundation.Bytes
