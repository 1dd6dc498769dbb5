import Mathlib.Data.List.Rotate
import Mathlib.Data.List.Sort

/-!
# Walks around a ring

The points of a ring are a sorted list. A walk starts at the first point that is not
before a target and goes once around. Of the points it meets, the first with each key
counts. Both commute with leaving points out.
-/

namespace Distsys

namespace Walk

variable {α κ : Type*} [DecidableEq κ]

/-- The first element with each key, other than the keys that were seen before. -/
def firstBy (key : α → κ) (seen : List κ) : List α → List α
  | [] => []
  | item :: rest =>
      if key item ∈ seen then firstBy key seen rest
      else item :: firstBy key (key item :: seen) rest

variable {key : α → κ}

theorem mem_of_mem_firstBy {seen : List κ} {items : List α} {item : α}
    (found : item ∈ firstBy key seen items) : item ∈ items ∧ key item ∉ seen := by
  induction items generalizing seen with
  | nil => cases found
  | cons head rest ih =>
      rw [firstBy] at found
      split at found
      · obtain ⟨listed, unseen⟩ := ih found
        exact ⟨.tail _ listed, unseen⟩
      · next unseen =>
        rcases List.mem_cons.mp found with rfl | later
        · exact ⟨.head _, unseen⟩
        · obtain ⟨listed, fresh⟩ := ih later
          exact ⟨.tail _ listed, fun before => fresh (.tail _ before)⟩

/-- Every key that was not seen before is met. -/
theorem exists_mem_firstBy {seen : List κ} {items : List α} {item : α} (listed : item ∈ items)
    (unseen : key item ∉ seen) : ∃ first ∈ firstBy key seen items, key first = key item := by
  induction items generalizing seen with
  | nil => cases listed
  | cons head rest ih =>
      rw [firstBy]
      by_cases same : key head = key item
      · rw [if_neg (same ▸ unseen)]
        exact ⟨head, .head _, same⟩
      · have later : item ∈ rest := by
          rcases List.mem_cons.mp listed with rfl | later
          · exact absurd rfl same
          · exact later
        split
        · exact ih later unseen
        · have fresh : key item ∉ key head :: seen := by
            rw [List.mem_cons, not_or]
            exact ⟨Ne.symm same, unseen⟩
          obtain ⟨first, found, keyed⟩ := ih later fresh
          exact ⟨first, .tail _ found, keyed⟩

theorem nodup_firstBy (key : α → κ) (seen : List κ) (items : List α) :
    ((firstBy key seen items).map key).Nodup := by
  induction items generalizing seen with
  | nil => exact List.nodup_nil
  | cons head rest ih =>
      rw [firstBy]
      split
      · exact ih seen
      · rw [List.map_cons, List.nodup_cons]
        refine ⟨fun again => ?_, ih _⟩
        obtain ⟨item, found, same⟩ := List.mem_map.mp again
        exact (mem_of_mem_firstBy found).2 (same ▸ .head _)

theorem firstBy_map {β : Type*} (key : β → κ) (image : α → β) (seen : List κ) (items : List α) :
    firstBy key seen (items.map image) =
      (firstBy (fun item => key (image item)) seen items).map image := by
  induction items generalizing seen with
  | nil => rfl
  | cons head rest ih =>
      rw [List.map_cons, firstBy, firstBy]
      split
      · exact ih seen
      · rw [ih, List.map_cons]

/-- Leaving out all points of some keys leaves out the first ones of these keys. The keys
left out may be remembered as seen or not. -/
theorem firstBy_filter (keep : κ → Bool) {seen others : List κ} (items : List α)
    (same : ∀ name, keep name = true → (name ∈ seen ↔ name ∈ others)) :
    firstBy key seen (items.filter fun item => keep (key item)) =
      (firstBy key others items).filter fun item => keep (key item) := by
  induction items generalizing seen others with
  | nil => rfl
  | cons head rest ih =>
      rw [List.filter_cons, firstBy]
      by_cases kept : keep (key head) = true
      · rw [if_pos kept, firstBy]
        by_cases before : key head ∈ seen
        · rw [if_pos before, if_pos ((same _ kept).mp before), ih same]
        · rw [if_neg before, if_neg (mt (same _ kept).mpr before), List.filter_cons, if_pos kept]
          refine congrArg (head :: ·) (ih fun name keeps => ?_)
          rw [List.mem_cons, List.mem_cons, same name keeps]
      · rw [if_neg kept]
        split
        · exact ih same
        · rw [List.filter_cons, if_neg kept]
          refine ih fun name keeps => (same name keeps).trans ?_
          rw [List.mem_cons, or_iff_right]
          rintro rfl
          exact kept keeps

end Walk

section Rotation

variable {α : Type*}

/-- Where the elements that satisfy a predicate come first, they are an initial segment. -/
theorem takeWhile_dropWhile_eq_filter {early : α → Bool} {items : List α}
    (sorted : items.Pairwise fun left right => early right = true → early left = true) :
    items.takeWhile early = items.filter early ∧
      items.dropWhile early = items.filter fun item => !early item := by
  induction items with
  | nil => exact ⟨rfl, rfl⟩
  | cons head rest ih =>
      obtain ⟨first, tail⟩ := List.pairwise_cons.mp sorted
      obtain ⟨takes, drops⟩ := ih tail
      rw [List.takeWhile_cons, List.dropWhile_cons, List.filter_cons, List.filter_cons]
      cases before : early head with
      | true => exact ⟨congrArg (head :: ·) takes, drops⟩
      | false =>
          have late : ∀ item ∈ rest, early item = false := fun item listed =>
            Bool.eq_false_iff.mpr
              fun is => Bool.false_ne_true (before.symm.trans (first item listed is))
          constructor
          · exact (List.filter_eq_nil_iff.mpr fun item listed =>
              Bool.eq_false_iff.mp (late item listed)).symm
          · exact congrArg (head :: ·) (List.filter_eq_self.mpr fun item listed => by
              rw [late item listed, Bool.not_false]).symm

/-- `bisect.bisect_left` on a sorted list: how many positions are before the target. -/
def bisectLeft (positions : List Nat) (target : Nat) : Nat :=
  (positions.takeWhile fun position => position < target).length

/-- A walk from the bisection point meets the points that are not before the target, and
then the others. -/
theorem rotate_bisectLeft {position : α → Nat} {items : List α}
    (sorted : items.Pairwise fun left right => position left ≤ position right) (target : Nat) :
    items.rotate (bisectLeft (items.map position) target) =
      items.filter (fun item => !decide (position item < target)) ++
        items.filter (fun item => decide (position item < target)) := by
  have early : items.Pairwise fun left right => decide (position right < target) = true →
      decide (position left < target) = true :=
    sorted.imp fun le less => decide_eq_true (le.trans_lt (of_decide_eq_true less))
  obtain ⟨takes, drops⟩ := takeWhile_dropWhile_eq_filter early
  have counted : bisectLeft (items.map position) target =
      (items.filter fun item => decide (position item < target)).length := by
    rw [← takes, bisectLeft, List.takeWhile_map, List.length_map]
    rfl
  have whole : items = items.filter (fun item => decide (position item < target)) ++
      items.filter fun item => !decide (position item < target) := by
    rw [← takes, ← drops, List.takeWhile_append_dropWhile]
  rw [counted, List.rotate_eq_drop_append_take (List.length_filter_le _ _)]
  congr 1
  · exact (congrArg (List.drop _) whole).trans List.drop_left
  · exact (congrArg (List.take _) whole).trans List.take_left

/-- The elements at consecutive indices around a list, from an index on. -/
def around (items : List α) (start : Nat) : List α :=
  List.ofFn fun offset : Fin items.length =>
    items.get ⟨(start + offset) % items.length, Nat.mod_lt _ offset.pos⟩

theorem around_eq_rotate (items : List α) (start : Nat) :
    around items start = items.rotate start := by
  refine List.ext_getElem ?_ fun index first second => ?_
  · rw [around, List.length_ofFn, List.length_rotate]
  · rw [List.getElem_rotate]
    simp only [around, List.getElem_ofFn, List.get_eq_getElem, Nat.add_comm]

end Rotation

section Leading

variable {α : Type*} [DecidableEq α] {items : List α} {gone item : α}

/-- The first elements stay among the first ones when another element is left out. -/
theorem mem_take_erase {count : Nat} (among : item ∈ items.take count) (differs : item ≠ gone) :
    item ∈ (items.erase gone).take count := by
  induction items generalizing count with
  | nil => exact among
  | cons head rest ih =>
      cases count with
      | zero => cases among
      | succ count =>
          rw [List.take_succ_cons] at among
          by_cases same : head = gone
          · subst same
            rw [List.erase_cons_head]
            rcases List.mem_cons.mp among with here | later
            · exact absurd here differs
            · exact (List.take_prefix_take_left (Nat.le_succ count)).subset later
          · rw [List.erase_cons_tail (same ∘ beq_iff_eq.mp),
              List.take_succ_cons]
            rcases List.mem_cons.mp among with rfl | later
            · exact .head _
            · exact .tail _ (ih later)

/-- Only the next element can come in when an element is left out. -/
theorem mem_take_of_mem_take_erase {count : Nat} (among : item ∈ (items.erase gone).take count) :
    item ∈ items.take count ∨ items[count]? = some item := by
  induction items generalizing count with
  | nil => exact .inl among
  | cons head rest ih =>
      cases count with
      | zero => cases among
      | succ count =>
          rw [List.take_succ_cons, List.getElem?_cons_succ]
          by_cases same : head = gone
          · subst same
            rw [List.erase_cons_head, List.take_add_one, List.mem_append, Option.mem_toList]
              at among
            exact among.imp (.tail _) id
          · rw [List.erase_cons_tail (same ∘ beq_iff_eq.mp), List.take_succ_cons] at among
            rcases List.mem_cons.mp among with rfl | later
            · exact .inl (.head _)
            · exact (ih later).imp (.tail _) id

end Leading

end Distsys
