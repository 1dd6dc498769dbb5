import Mathlib.Data.List.Dedup

/-!
# Folds over the set of the elements

When the steps of a fold commute and repeating one does nothing, the result depends on
which elements the list has only.
-/

namespace Distsys

variable {α β : Type*}

/-- The steps with the elements of the list commute, and a repeated one does nothing. -/
structure Absorbing (step : β → α → β) (items : List α) : Prop where
  commute : ∀ first ∈ items, ∀ second ∈ items, ∀ state,
    step (step state first) second = step (step state second) first
  repeated : ∀ item ∈ items, ∀ state, step (step state item) item = step state item

namespace Absorbing

variable {step : β → α → β} {items : List α} {item : α}

theorem tail (absorbing : Absorbing step (item :: items)) : Absorbing step items where
  commute first among second there :=
    absorbing.commute first (.tail item among) second (.tail item there)
  repeated item among := absorbing.repeated item (.tail _ among)

theorem congr {other : List α} (absorbing : Absorbing step items)
    (same : ∀ item, item ∈ items ↔ item ∈ other) : Absorbing step other where
  commute first among second there :=
    absorbing.commute first ((same first).mpr among) second ((same second).mpr there)
  repeated item among := absorbing.repeated item ((same item).mpr among)

/-- A step with an element that follows anyway changes nothing. -/
theorem foldl_step (absorbing : Absorbing step items) (among : item ∈ items) (state : β) :
    items.foldl step (step state item) = items.foldl step state := by
  induction items generalizing state with
  | nil => cases among
  | cons head rest ih =>
      rw [List.foldl_cons, List.foldl_cons]
      rcases List.mem_cons.mp among with rfl | later
      · rw [absorbing.repeated item (.head rest)]
      · rw [absorbing.commute item among head (.head rest), ih absorbing.tail later]

/-- Items that come again change nothing. -/
theorem foldl_dedup [DecidableEq α] (absorbing : Absorbing step items) (state : β) :
    items.dedup.foldl step state = items.foldl step state := by
  induction items generalizing state with
  | nil => rfl
  | cons head rest ih =>
      by_cases later : head ∈ rest
      · rw [List.dedup_cons_of_mem later, ih absorbing.tail, List.foldl_cons,
          absorbing.tail.foldl_step later]
      · rw [List.dedup_cons_of_notMem later, List.foldl_cons, ih absorbing.tail, List.foldl_cons]

/-- Only the set of items matters. -/
theorem foldl_eq [DecidableEq α] {other : List α} (absorbing : Absorbing step items)
    (same : ∀ item, item ∈ items ↔ item ∈ other) (state : β) :
    items.foldl step state = other.foldl step state := by
  have among : ∀ {item}, item ∈ items.dedup → item ∈ items := List.mem_dedup.mp
  have permuted : items.dedup.Perm other.dedup :=
    (List.perm_ext_iff_of_nodup items.nodup_dedup other.nodup_dedup).mpr fun item => by
      rw [List.mem_dedup, List.mem_dedup, same]
  calc items.foldl step state = items.dedup.foldl step state := (absorbing.foldl_dedup state).symm
    _ = other.dedup.foldl step state :=
        permuted.foldl_eq' (fun first here second there state =>
          absorbing.commute first (among here) second (among there) state) state
    _ = other.foldl step state := (absorbing.congr same).foldl_dedup state

end Absorbing

end Distsys
