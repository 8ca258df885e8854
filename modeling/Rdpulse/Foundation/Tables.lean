import Mathlib.Data.List.AList

namespace Rdpulse.Foundation

/-! Counting the entries of a table. -/

namespace Table

variable {Key : Type u} {Value : Type v}

def count (table : AList fun _ : Key => Value) (kind : Key → Bool) : Nat :=
  table.entries.countP fun entry => kind entry.1

@[simp] theorem count_empty (kind : Key → Bool) :
    count (∅ : AList fun _ : Key => Value) kind = 0 := rfl

variable [DecidableEq Key] {table : AList fun _ : Key => Value}

theorem perm_cons_erase {key : Key} {value : Value} (found : table.lookup key = some value) :
    table.entries.Perm (⟨key, value⟩ :: (table.erase key).entries) := by
  have member : key ∈ table.entries.keys :=
    AList.mem_keys.mp (AList.lookup_isSome.mp (by rw [found]; rfl))
  rcases List.exists_of_kerase member with ⟨other, before, after, apart, split, erased⟩
  have same : other = value := by
    have there : table.lookup key = some other :=
      AList.mem_lookup_iff.mpr (by rw [split]; simp)
    rw [found] at there
    exact (Option.some.inj there).symm
  subst same
  rw [show (table.erase key).entries = before ++ after from erased, split]
  exact List.perm_middle

theorem count_erase {key : Key} {value : Value} (found : table.lookup key = some value)
    (kind : Key → Bool) :
    count table kind = count (table.erase key) kind + if kind key then 1 else 0 := by
  rw [count, (perm_cons_erase found).countP_eq, List.countP_cons]
  rfl

theorem length_erase {key : Key} {value : Value} (found : table.lookup key = some value) :
    table.entries.length = (table.erase key).entries.length + 1 :=
  (perm_cons_erase found).length_eq

theorem entries_insert_new {key : Key} (absent : table.lookup key = none) (value : Value) :
    (table.insert key value).entries = ⟨key, value⟩ :: table.entries :=
  AList.entries_insert_of_notMem (AList.lookup_eq_none.mp absent)

theorem count_insert_new {key : Key} (absent : table.lookup key = none) (value : Value)
    (kind : Key → Bool) :
    count (table.insert key value) kind = count table kind + if kind key then 1 else 0 := by
  rw [count, entries_insert_new absent, List.countP_cons]
  rfl

theorem count_replace {key : Key} {old : Value} (found : table.lookup key = some old)
    (value : Value) (kind : Key → Bool) :
    count (table.insert key value) kind = count table kind := by
  rw [count_erase found, count, AList.entries_insert, List.countP_cons]
  rfl

theorem length_replace {key : Key} {old : Value} (found : table.lookup key = some old)
    (value : Value) : (table.insert key value).entries.length = table.entries.length := by
  rw [length_erase found, AList.entries_insert, List.length_cons]
  rfl

theorem lookup_foldl_insert (key : α → Key) (value : α → Value) (writes : List α)
    (table : AList fun _ : Key => Value) (wanted : Key) :
    (writes.foldl (fun table entry => table.insert (key entry) (value entry)) table).lookup
        wanted =
      ((writes.filterMap fun entry =>
        if key entry = wanted then some (value entry) else none).getLast?).or
          (table.lookup wanted) := by
  induction writes generalizing table with
  | nil => rfl
  | cons entry rest induction =>
      rw [List.foldl_cons, induction, List.filterMap_cons]
      by_cases same : key entry = wanted
      · subst same
        rw [if_pos rfl, AList.lookup_insert, List.getLast?_cons]
        cases (rest.filterMap _).getLast? <;> rfl
      · rw [if_neg same, AList.lookup_insert_ne (Ne.symm same)]

end Table

end Rdpulse.Foundation
