import Mathlib.Algebra.GroupWithZero.Nat
import Mathlib.Order.Lattice
import Mathlib.Order.BoundedOrder.Basic
import Distsys.Lib.SortedMap

/-!
# Finite tallies

A tally counts finitely many keys, kept as a sorted map without zero counts.
The representation is canonical (`Tally.ext_get`), so tallies under the
pointwise order form a join semilattice with a least element, and the join is
computed by one pass over the keys of both sides.
-/

/-- A finitely supported function to `Nat` in canonical form: sorted, no zeros. -/
structure Tally (α : Type) [LinearOrder α] where
  counts : SortedMap α Nat
  positive : ∀ item ∈ counts.items, item.2 ≠ 0

namespace Tally

variable {α : Type} [LinearOrder α] {tally left right : Tally α} {key : α} {count : Nat}

instance : DecidableEq (Tally α) := fun left right =>
  decidable_of_iff (left.counts = right.counts)
    ⟨fun counts => by cases left; cases right; cases counts; rfl, congrArg counts⟩

/-- Drop the zero counts of a map. -/
def ofMap (map : SortedMap α Nat) : Tally α where
  counts := map.filter fun _ count => count != 0
  positive := by
    intro item member
    simpa only [bne_iff_ne] using (List.mem_filter.mp member).2

/-- The tally that counts nothing. -/
def empty : Tally α := ⟨SortedMap.empty, fun _ member => absurd member List.not_mem_nil⟩

/-- The count of a key, zero when it is not listed. -/
def get (tally : Tally α) (key : α) : Nat := (tally.counts.get? key).getD 0

/-- The counted keys with their counts, in key order. -/
def items (tally : Tally α) : List (α × Nat) := tally.counts.items

/-- The counted keys in order. -/
def keys (tally : Tally α) : List α := tally.counts.keys

/-- Store one count. -/
def put (tally : Tally α) (key : α) (count : Nat) : Tally α :=
  ofMap (tally.counts.insert key count)

/-- The pointwise maximum, taken over the keys of both sides. -/
def merge (left right : Tally α) : Tally α :=
  ofMap (SortedMap.ofKeys (left.keys ++ right.keys) fun key => max (left.get key) (right.get key))

theorem get?_eq_some_iff :
    tally.counts.get? key = some count ↔ tally.get key = count ∧ count ≠ 0 := by
  unfold get
  cases found : tally.counts.get? key with
  | none =>
      simp only [reduceCtorEq, Option.getD_none, false_iff, not_and, not_not]
      exact Eq.symm
  | some stored =>
      have nonzero := tally.positive (key, stored) (SortedMap.mem_items_iff.mpr found)
      simp only [Option.some.injEq, Option.getD_some]
      constructor
      · rintro rfl
        exact ⟨rfl, nonzero⟩
      · exact And.left

theorem get?_eq (tally : Tally α) (key : α) :
    tally.counts.get? key = if tally.get key = 0 then none else some (tally.get key) := by
  refine Option.ext fun count => ?_
  rw [get?_eq_some_iff]
  split
  · next zero => simp only [zero, reduceCtorEq, iff_false, not_and, not_not]; exact Eq.symm
  · next nonzero =>
    simp only [Option.some.injEq]
    exact ⟨And.left, fun same => ⟨same, same ▸ nonzero⟩⟩

/-- Tallies with the same counts are equal. -/
theorem ext_get (same : ∀ key, left.get key = right.get key) :
    left = right := by
  obtain ⟨leftCounts, leftPositive⟩ := left
  obtain ⟨rightCounts, rightPositive⟩ := right
  have counts : leftCounts = rightCounts := by
    refine SortedMap.ext_get? fun key => ?_
    have leftLookup := get?_eq ⟨leftCounts, leftPositive⟩ key
    have rightLookup := get?_eq ⟨rightCounts, rightPositive⟩ key
    rw [same key] at leftLookup
    exact leftLookup.trans rightLookup.symm
  subst counts
  rfl

theorem get_ofMap (map : SortedMap α Nat) (key : α) :
    (ofMap map).get key = (map.get? key).getD 0 := by
  unfold get ofMap
  rw [SortedMap.get?_filter]
  cases map.get? key with
  | none => rfl
  | some count =>
      by_cases zero : count = 0
      · subst zero
        rfl
      · simp only [Option.filter_some, bne_iff_ne, ne_eq, zero, not_false_eq_true, ↓reduceIte]

theorem mem_items_iff :
    (key, count) ∈ tally.items ↔ tally.get key = count ∧ count ≠ 0 :=
  SortedMap.mem_items_iff.trans get?_eq_some_iff

theorem mem_keys_iff : key ∈ tally.keys ↔ tally.get key ≠ 0 := by
  simp only [keys, SortedMap.mem_keys_iff, get?_eq_some_iff]
  constructor
  · rintro ⟨count, rfl, nonzero⟩
    exact nonzero
  · intro nonzero
    exact ⟨_, rfl, nonzero⟩

theorem get_put (tally : Tally α) (key : α) (count : Nat) (query : α) :
    (tally.put key count).get query = if key = query then count else tally.get query := by
  unfold put
  rw [get_ofMap, SortedMap.get?_insert]
  split <;> rfl

@[simp] theorem get_merge (left right : Tally α) (key : α) :
    (left.merge right).get key = max (left.get key) (right.get key) := by
  unfold merge
  rw [get_ofMap, SortedMap.get?_ofKeys]
  split
  · rfl
  · next absent =>
    simp only [List.mem_append, mem_keys_iff, not_or, not_not] at absent
    rw [absent.1, absent.2]
    rfl

/-- Rebuilding a tally from its own items gives it back. -/
@[simp] theorem ofMap_ofList_items (tally : Tally α) :
    ofMap (SortedMap.ofList tally.items) = tally := by
  refine ext_get fun key => ?_
  rw [get_ofMap, items, SortedMap.ofList_items]
  rfl

instance : LE (Tally α) := ⟨fun left right => ∀ key, left.get key ≤ right.get key⟩

theorem le_def : left ≤ right ↔ ∀ key, left.get key ≤ right.get key :=
  Iff.rfl

instance : DecidableLE (Tally α) := fun left right =>
  decidable_of_iff (∀ key ∈ left.keys, left.get key ≤ right.get key) <| by
    constructor
    · intro listed key
      by_cases member : key ∈ left.keys
      · exact listed key member
      · rw [mem_keys_iff, not_not] at member
        exact member ▸ Nat.zero_le _
    · exact fun below key _ => below key

instance : SemilatticeSup (Tally α) where
  le_refl _ _ := Nat.le_refl _
  le_trans _ _ _ first second key := (first key).trans (second key)
  le_antisymm _ _ forward backward :=
    ext_get fun key => Nat.le_antisymm (forward key) (backward key)
  sup := merge
  le_sup_left left right key := by
    rw [get_merge]
    exact Nat.le_max_left _ _
  le_sup_right left right key := by
    rw [get_merge]
    exact Nat.le_max_right _ _
  sup_le left right bound leftLe rightLe key := by
    rw [get_merge]
    exact Nat.max_le.mpr ⟨leftLe key, rightLe key⟩

theorem merge_eq_sup (left right : Tally α) : left.merge right = left ⊔ right := rfl

@[simp] theorem get_sup (left right : Tally α) (key : α) :
    (left ⊔ right).get key = max (left.get key) (right.get key) := get_merge left right key

instance : OrderBot (Tally α) where
  bot := empty
  bot_le _ _ := Nat.zero_le _

@[simp] theorem get_bot (key : α) : (⊥ : Tally α).get key = 0 := rfl

/-- Add up the amounts given for each key. -/
def ofCounts (amounts : List (α × Nat)) : Tally α :=
  amounts.foldl (fun tally item => tally.put item.1 (tally.get item.1 + item.2)) ⊥

theorem get_foldl_add (amounts : List (α × Nat)) (tally : Tally α) (key : α) :
    (amounts.foldl (fun tally item => tally.put item.1 (tally.get item.1 + item.2)) tally).get key =
      tally.get key + ((amounts.filter fun item => item.1 = key).map Prod.snd).sum := by
  induction amounts generalizing tally with
  | nil => rfl
  | cons item rest ih =>
      rw [List.foldl_cons, ih, get_put]
      by_cases same : item.1 = key
      · simp only [same, ↓reduceIte, List.filter_cons, decide_true, List.map_cons, List.sum_cons,
          Nat.add_assoc]
      · simp only [same, ↓reduceIte, List.filter_cons, decide_false, Bool.false_eq_true]

/-- The count of a key is the sum of its amounts. -/
theorem get_ofCounts (amounts : List (α × Nat)) (key : α) :
    (ofCounts amounts).get key = ((amounts.filter fun item => item.1 = key).map Prod.snd).sum := by
  rw [ofCounts, get_foldl_add, get_bot, Nat.zero_add]

theorem ofCounts_concat (amounts : List (α × Nat)) (key : α) (amount : Nat) :
    ofCounts (amounts ++ [(key, amount)]) =
      (ofCounts amounts).put key ((ofCounts amounts).get key + amount) := by
  rw [ofCounts, List.foldl_append]
  rfl

@[simp] theorem put_get (tally : Tally α) (key : α) : tally.put key (tally.get key) = tally := by
  refine ext_get fun query => ?_
  rw [get_put]
  split
  · next same => rw [same]
  · rfl

end Tally
