import Mathlib.Data.List.Basic

/-!
# Lists that change at one place

What is found in a list to which an item was added, or in which one was replaced.
-/

namespace List

variable {α : Type*} {items : List α} {added changed item : α} {number other : Nat}

theorem mem_concat_cases (listed : item ∈ items ++ [added]) : item ∈ items ∨ item = added :=
  (mem_append.mp listed).imp_right mem_singleton.mp

theorem getElem?_set_cases (found : (items.set number changed)[other]? = some item) :
    other = number ∧ item = changed ∨ other ≠ number ∧ items[other]? = some item := by
  by_cases same : other = number
  · subst same
    have bound := (getElem?_eq_some_iff.mp found).1
    rw [length_set] at bound
    rw [getElem?_set_self bound] at found
    exact .inl ⟨rfl, (Option.some.inj found).symm⟩
  · rw [getElem?_set_ne (Ne.symm same)] at found
    exact .inr ⟨same, found⟩

theorem getElem?_concat_cases (found : (items ++ [added])[number]? = some item) :
    number = items.length ∧ item = added ∨ number ≠ items.length ∧ items[number]? = some item := by
  rcases Nat.lt_trichotomy number items.length with before | rfl | beyond
  · rw [getElem?_append_left before] at found
    exact .inr ⟨Nat.ne_of_lt before, found⟩
  · rw [getElem?_concat_length] at found
    exact .inl ⟨rfl, (Option.some.inj found).symm⟩
  · have bound := (getElem?_eq_some_iff.mp found).1
    rw [length_append, length_singleton] at bound
    exact absurd bound (Nat.not_lt.mpr beyond)

end List
