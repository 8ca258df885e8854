import Mathlib.Data.List.AList

namespace Rdpulse.Foundation

/-! Two tables that are kept as each other's inverse. -/

variable {α : Type u} {β : Type v} [DecidableEq α] [DecidableEq β]

def Inverse (forward : AList fun _ : α => β) (back : AList fun _ : β => α) : Prop :=
  ∀ key value, forward.lookup key = some value ↔ back.lookup value = some key

namespace Inverse

variable {forward : AList fun _ : α => β} {back : AList fun _ : β => α} {key : α} {value : β}

theorem empty : Inverse (∅ : AList fun _ : α => β) (∅ : AList fun _ : β => α) := by
  intro key value
  simp

theorem injective (inverse : Inverse forward back) {one other : α}
    (first : forward.lookup one = some value) (second : forward.lookup other = some value) :
    one = other := by
  have back := (inverse one value).mp first
  rw [(inverse other value).mp second] at back
  exact (Option.some.inj back).symm

theorem insert (inverse : Inverse forward back) (newKey : forward.lookup key = none)
    (newValue : back.lookup value = none) :
    Inverse (forward.insert key value) (back.insert value key) := by
  intro one other
  by_cases sameKey : one = key
  · subst sameKey
    by_cases sameValue : other = value
    · subst sameValue
      simp
    · rw [AList.lookup_insert, AList.lookup_insert_ne sameValue, ← inverse, newKey]
      simp [Ne.symm sameValue]
  · by_cases sameValue : other = value
    · subst sameValue
      rw [AList.lookup_insert, AList.lookup_insert_ne sameKey, inverse, newValue]
      simp [Ne.symm sameKey]
    · rw [AList.lookup_insert_ne sameKey, AList.lookup_insert_ne sameValue]
      exact inverse one other

theorem erase (inverse : Inverse forward back) (present : forward.lookup key = some value) :
    Inverse (forward.erase key) (back.erase value) := by
  have there := (inverse key value).mp present
  intro one other
  by_cases sameKey : one = key
  · subst sameKey
    by_cases sameValue : other = value
    · subst sameValue
      simp
    · rw [AList.lookup_erase, AList.lookup_erase_ne sameValue, ← inverse, present]
      simp [Ne.symm sameValue]
  · by_cases sameValue : other = value
    · subst sameValue
      rw [AList.lookup_erase, AList.lookup_erase_ne sameKey, inverse, there]
      simp [Ne.symm sameKey]
    · rw [AList.lookup_erase_ne sameKey, AList.lookup_erase_ne sameValue]
      exact inverse one other

end Inverse

end Rdpulse.Foundation
