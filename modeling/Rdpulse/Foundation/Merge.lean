import Mathlib.Logic.Function.Basic

namespace Rdpulse.Foundation

/-! Lists merged into one, each in its own order. -/

/-- The parts merged into a whole; what comes next in the whole comes next in its part. -/
inductive Merge {Index : Type u} {α : Type v} [DecidableEq Index] :
    (Index → List α) → List α → Prop
  | nil : Merge (fun _ => []) []
  | snoc {parts whole} (index : Index) (element : α) (merged : Merge parts whole) :
      Merge (Function.update parts index (parts index ++ [element])) (whole ++ [element])

namespace Merge

variable {Index : Type u} {α : Type v} [DecidableEq Index] {parts : Index → List α}
  {whole : List α}

theorem next {after : Index → List α} (merged : Merge parts whole) {index : Index} {element : α}
    (own : after index = parts index ++ [element])
    (others : ∀ other, other ≠ index → after other = parts other) :
    Merge after (whole ++ [element]) := by
  have known : after = Function.update parts index (parts index ++ [element]) := by
    funext other
    by_cases same : other = index
    · subst same
      rw [own, Function.update_self]
    · rw [others other same, Function.update_of_ne same]
  rw [known]
  exact merged.snoc index element

end Merge

end Rdpulse.Foundation
