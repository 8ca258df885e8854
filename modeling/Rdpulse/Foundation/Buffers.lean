import Rdpulse.Foundation.Bytes

namespace Rdpulse.Foundation.Buffer

/-! Byte slices that are written in place. A destination is given by the bytes of its
backing array up to its capacity, whatever they are. -/

/-- `dst[:length]` where the capacity allows it, and a new slice where it does not. -/
def reslice (dst : Bytes) (length : Nat) : Bytes :=
  if length ≤ dst.length then dst.take length else List.replicate length 0

/-- `copy(buffer[offset:], data)`, which writes no further than the buffer goes. -/
def write (buffer : Bytes) (offset : Nat) (data : Bytes) : Bytes :=
  buffer.take offset ++ data.take (buffer.length - offset) ++ buffer.drop (offset + data.length)

@[simp] theorem reslice_length (dst : Bytes) (length : Nat) :
    (reslice dst length).length = length := by
  unfold reslice
  split
  · rename_i fits
    rw [List.length_take, Nat.min_eq_left fits]
  · exact List.length_replicate

theorem write_append {before rest data : Bytes} {offset : Nat} (written : before.length = offset)
    (fits : data.length ≤ rest.length) :
    write (before ++ rest) offset data = (before ++ data) ++ rest.drop data.length := by
  subst written
  have kept : (before ++ rest).take before.length = before := List.take_left' rfl
  have whole : data.take ((before ++ rest).length - before.length) = data := by
    rw [List.length_append, Nat.add_sub_cancel_left]
    exact List.take_of_length_le fits
  rw [write, kept, whole, ← List.drop_drop, List.drop_left' rfl]

theorem write_gap {before gap after data : Bytes} {offset : Nat}
    (written : before.length = offset) (sized : gap.length = data.length) :
    write (before ++ (gap ++ after)) offset data = before ++ (data ++ after) := by
  rw [write_append written (by rw [List.length_append]; omega), ← sized, List.drop_left' rfl,
    List.append_assoc]

theorem exists_split {buffer : Bytes} {front : Nat} (long : front ≤ buffer.length) :
    ∃ gap after, buffer = gap ++ after ∧ gap.length = front ∧
      after.length = buffer.length - front := by
  refine ⟨buffer.take front, buffer.drop front, (List.take_append_drop _ _).symm, ?_, ?_⟩
  · rw [List.length_take, Nat.min_eq_left long]
  · exact List.length_drop

end Rdpulse.Foundation.Buffer
