import Mathlib.Data.List.Basic

namespace Rdpulse.Foundation

/-! Lists without the later of two elements that have one key. -/

variable {α : Type u} {Key : Type v} [DecidableEq Key] (key : α → Key)

def firstOccurrences (seen : List Key) : List α → List α
  | [] => []
  | first :: rest =>
      if key first ∈ seen then firstOccurrences seen rest
      else first :: firstOccurrences (key first :: seen) rest

variable {key}

theorem firstOccurrences_sublist (seen : List Key) (elements : List α) :
    (firstOccurrences key seen elements).Sublist elements := by
  induction elements generalizing seen with
  | nil => exact .slnil
  | cons first rest induction =>
      rw [firstOccurrences]
      split
      · exact .cons _ (induction seen)
      · exact .cons_cons _ (induction (key first :: seen))

theorem key_notMem_seen {seen : List Key} {elements : List α} {element : α}
    (member : element ∈ firstOccurrences key seen elements) : key element ∉ seen := by
  induction elements generalizing seen with
  | nil => cases member
  | cons first rest induction =>
      rw [firstOccurrences] at member
      split at member
      · exact induction member
      · rename_i unseen
        rcases List.mem_cons.mp member with rfl | later
        · exact unseen
        · exact fun old => induction later (List.mem_cons_of_mem _ old)

theorem firstOccurrences_distinct (seen : List Key) (elements : List α) :
    (firstOccurrences key seen elements).Pairwise fun one other => key one ≠ key other := by
  induction elements generalizing seen with
  | nil => exact .nil
  | cons first rest induction =>
      rw [firstOccurrences]
      split
      · exact induction seen
      · refine .cons (fun other member same => ?_) (induction _)
        exact key_notMem_seen member (same ▸ List.mem_cons_self)

theorem first_mem {seen : List Key} {before after : List α} {element : α}
    (unseen : key element ∉ seen) (first : ∀ other ∈ before, key other ≠ key element) :
    element ∈ firstOccurrences key seen (before ++ element :: after) := by
  induction before generalizing seen with
  | nil =>
      rw [List.nil_append, firstOccurrences, if_neg unseen]
      exact List.mem_cons_self
  | cons other before induction =>
      have apart := first other List.mem_cons_self
      have later := fun one member => first one (List.mem_cons_of_mem other member)
      rw [List.cons_append, firstOccurrences]
      split
      · exact induction unseen later
      · refine List.mem_cons_of_mem _ (induction (fun member => ?_) later)
        rcases List.mem_cons.mp member with same | old
        · exact apart same.symm
        · exact unseen old

theorem exists_same_key {seen : List Key} {elements : List α} {element : α}
    (member : element ∈ elements) (unseen : key element ∉ seen) :
    ∃ kept ∈ firstOccurrences key seen elements, key kept = key element := by
  induction elements generalizing seen with
  | nil => cases member
  | cons first rest induction =>
      rw [firstOccurrences]
      split
      · rename_i old
        rcases List.mem_cons.mp member with rfl | later
        · exact absurd old unseen
        · exact induction later unseen
      · by_cases same : key first = key element
        · exact ⟨first, List.mem_cons_self, same⟩
        · rcases List.mem_cons.mp member with rfl | later
          · exact absurd rfl same
          · have new : key element ∉ key first :: seen :=
              List.not_mem_cons_of_ne_of_not_mem (Ne.symm same) unseen
            rcases induction later new with ⟨kept, there, equal⟩
            exact ⟨kept, List.mem_cons_of_mem _ there, equal⟩

theorem firstOccurrences_eq_self {seen : List Key} {elements : List α}
    (unseen : ∀ element ∈ elements, key element ∉ seen)
    (distinct : elements.Pairwise fun one other => key one ≠ key other) :
    firstOccurrences key seen elements = elements := by
  induction elements generalizing seen with
  | nil => rfl
  | cons first rest induction =>
      rw [List.pairwise_cons] at distinct
      rw [firstOccurrences, if_neg (unseen first List.mem_cons_self)]
      refine congrArg _ (induction (fun element member => ?_) distinct.2)
      refine List.not_mem_cons_of_ne_of_not_mem (distinct.1 element member).symm ?_
      exact unseen element (List.mem_cons_of_mem _ member)

end Rdpulse.Foundation
