import Mathlib.Data.List.Lex
import Mathlib.Data.List.Perm.Subperm
import Mathlib.Data.List.Sort
import Mathlib.Data.Option.Basic

/-!
# Finite maps as sorted association lists

A map is the list of its items in strictly increasing key order. The list is a
canonical form: two maps with the same lookups are equal
(`SortedMap.ext_get?`), so list equality is extensional equality. A dictionary
that is only read through lookups and sorted traversals is such a map, whatever
order its items were inserted in.
-/

/-- A finite map stored as its items in strictly increasing key order. -/
structure SortedMap (α β : Type) [LinearOrder α] where
  items : List (α × β)
  sorted : (items.map Prod.fst).Pairwise (· < ·)

namespace SortedMap

variable {α β γ : Type} [LinearOrder α] {query key : α} {value : β} {map : SortedMap α β}

/-- The first value listed under a key. -/
def lookupItems : List (α × β) → α → Option β
  | [], _ => none
  | (key, value) :: rest, query => if key = query then some value else lookupItems rest query

/-- Put a value at the sorted position of its key, replacing the value there. -/
def insertItems (key : α) (value : β) : List (α × β) → List (α × β)
  | [] => [(key, value)]
  | (head, stored) :: rest =>
      if key < head then (key, value) :: (head, stored) :: rest
      else if key = head then (key, value) :: rest
      else (head, stored) :: insertItems key value rest

theorem mem_keys_insertItems (key : α) (value : β) (items : List (α × β)) (query : α) :
    query ∈ (insertItems key value items).map Prod.fst ↔
      query = key ∨ query ∈ items.map Prod.fst := by
  induction items with
  | nil => simp only [insertItems, List.map_cons, List.map_nil, List.mem_singleton,
      List.not_mem_nil, or_false]
  | cons item rest ih =>
      obtain ⟨head, stored⟩ := item
      simp only [insertItems]
      split
      · simp only [List.map_cons, List.mem_cons]
      · split
        · next same => simp only [List.map_cons, List.mem_cons, same, or_self_left]
        · simp only [List.map_cons, List.mem_cons, ih]
          exact or_left_comm

theorem sorted_insertItems (key : α) (value : β) (items : List (α × β))
    (sorted : (items.map Prod.fst).Pairwise (· < ·)) :
    ((insertItems key value items).map Prod.fst).Pairwise (· < ·) := by
  induction items with
  | nil => exact List.pairwise_singleton _ _
  | cons item rest ih =>
      obtain ⟨head, stored⟩ := item
      obtain ⟨above, tail⟩ := List.pairwise_cons.mp sorted
      simp only [insertItems]
      split
      · next below =>
        refine List.pairwise_cons.mpr ⟨?_, sorted⟩
        intro other member
        rcases List.mem_cons.mp member with rfl | member
        · exact below
        · exact below.trans (above other member)
      · split
        · next same =>
          subst same
          exact List.pairwise_cons.mpr ⟨above, tail⟩
        · next notBelow differs =>
          refine List.pairwise_cons.mpr ⟨?_, ih tail⟩
          intro other member
          rcases (mem_keys_insertItems key value rest other).mp member with rfl | member
          · exact lt_of_le_of_ne (not_lt.mp notBelow) (Ne.symm differs)
          · exact above other member

theorem lookupItems_insertItems (key : α) (value : β) (items : List (α × β)) (query : α) :
    lookupItems (insertItems key value items) query =
      if key = query then some value else lookupItems items query := by
  induction items with
  | nil => rfl
  | cons item rest ih =>
      obtain ⟨head, stored⟩ := item
      simp only [insertItems]
      split
      · rfl
      · split
        · next same =>
          subst same
          by_cases found : key = query <;> simp only [lookupItems, found, ↓reduceIte]
        · next differs =>
          simp only [lookupItems, ih]
          by_cases atHead : head = query
          · subst atHead
            simp only [↓reduceIte, if_neg differs]
          · simp only [if_neg atHead]

theorem lookupItems_eq_none {items : List (α × β)} (absent : query ∉ items.map Prod.fst) :
    lookupItems items query = none := by
  induction items with
  | nil => rfl
  | cons item rest ih =>
      obtain ⟨head, stored⟩ := item
      simp only [List.map_cons, List.mem_cons, not_or] at absent
      simp only [lookupItems, if_neg (Ne.symm absent.1), ih absent.2]

theorem lookupItems_eq_some_iff {items : List (α × β)}
    (sorted : (items.map Prod.fst).Pairwise (· < ·)) :
    lookupItems items query = some value ↔ (query, value) ∈ items := by
  induction items with
  | nil => simp only [lookupItems, reduceCtorEq, List.not_mem_nil]
  | cons item rest ih =>
      obtain ⟨head, stored⟩ := item
      obtain ⟨above, tail⟩ := List.pairwise_cons.mp sorted
      by_cases atHead : head = query
      · subst atHead
        have absent : (head, value) ∉ rest := fun member =>
          lt_irrefl head (above head (List.mem_map.mpr ⟨_, member, rfl⟩))
        simp only [lookupItems, ↓reduceIte, Option.some.injEq, List.mem_cons, Prod.mk.injEq,
          true_and, absent, or_false]
        exact eq_comm
      · simp only [lookupItems, if_neg atHead, ih tail, List.mem_cons, Prod.mk.injEq,
          Ne.symm atHead, false_and, false_or]

/-- Sorted item lists with the same members are the same list. -/
theorem items_eq_of_mem_iff {left right : List (α × β)}
    (leftSorted : (left.map Prod.fst).Pairwise (· < ·))
    (rightSorted : (right.map Prod.fst).Pairwise (· < ·))
    (same : ∀ item, item ∈ left ↔ item ∈ right) : left = right := by
  let below : α × β → α × β → Prop := fun first second => first.1 < second.1
  have irrefl : Std.Irrefl below := ⟨fun item => lt_irrefl item.1⟩
  have asymm : Std.Antisymm below := ⟨fun _ _ forward backward => absurd backward forward.asymm⟩
  exact List.Pairwise.eq_of_mem_iff (List.pairwise_map.mp leftSorted)
    (List.pairwise_map.mp rightSorted) (fun item => same item)

/-- The map without items. -/
def empty : SortedMap α β := ⟨[], List.Pairwise.nil⟩

/-- The value under a key, if there is one. -/
def get? (map : SortedMap α β) (key : α) : Option β := lookupItems map.items key

/-- Store a value under a key. -/
def insert (map : SortedMap α β) (key : α) (value : β) : SortedMap α β :=
  ⟨insertItems key value map.items, sorted_insertItems key value map.items map.sorted⟩

/-- The keys in increasing order. -/
def keys (map : SortedMap α β) : List α := map.items.map Prod.fst

/-- Keep the items that satisfy a test. -/
def filter (map : SortedMap α β) (test : α → β → Bool) : SortedMap α β :=
  ⟨map.items.filter fun item => test item.1 item.2,
    map.sorted.sublist (List.filter_sublist.map Prod.fst)⟩

/-- Insert the items of a list from left to right; a later item replaces an
earlier one with its key. -/
def ofList (items : List (α × β)) : SortedMap α β :=
  items.foldl (fun map item => map.insert item.1 item.2) empty

/-- The map that sends each listed key to its value under `value`. -/
def ofKeys (keys : List α) (value : α → β) : SortedMap α β :=
  ofList (keys.map fun key => (key, value key))

/-- Combine each item of a list into the map, from left to right. -/
def absorb (combine : Option β → γ → β) (map : SortedMap α β) (items : List (α × γ)) :
    SortedMap α β :=
  items.foldl (fun map item => map.insert item.1 (combine (map.get? item.1) item.2)) map

@[simp] theorem get?_empty (key : α) : (empty : SortedMap α β).get? key = none := rfl

theorem get?_insert (map : SortedMap α β) (key : α) (value : β) (query : α) :
    (map.insert key value).get? query = if key = query then some value else map.get? query :=
  lookupItems_insertItems key value map.items query

@[simp] theorem get?_insert_self (map : SortedMap α β) (key : α) (value : β) :
    (map.insert key value).get? key = some value := by
  rw [get?_insert, if_pos rfl]

theorem get?_insert_of_ne (map : SortedMap α β) (value : β) (differs : key ≠ query) :
    (map.insert key value).get? query = map.get? query := by
  rw [get?_insert, if_neg differs]

theorem mem_items_iff :
    (key, value) ∈ map.items ↔ map.get? key = some value :=
  (lookupItems_eq_some_iff map.sorted).symm

theorem mem_keys_iff :
    key ∈ map.keys ↔ ∃ value, map.get? key = some value := by
  simp only [keys, List.mem_map, Prod.exists, exists_and_right, exists_eq_right, mem_items_iff]

theorem get?_eq_none_iff :
    map.get? key = none ↔ key ∉ map.keys := by
  rw [mem_keys_iff, ← Option.ne_none_iff_exists', not_not]

theorem nodup_keys (map : SortedMap α β) : map.keys.Nodup :=
  map.sorted.imp fun below => below.ne

/-- Maps with the same lookups are equal. -/
theorem ext_get? {left right : SortedMap α β} (same : ∀ key, left.get? key = right.get? key) :
    left = right := by
  obtain ⟨leftItems, leftSorted⟩ := left
  obtain ⟨rightItems, rightSorted⟩ := right
  have items : leftItems = rightItems := by
    refine items_eq_of_mem_iff leftSorted rightSorted ?_
    rintro ⟨key, value⟩
    rw [← lookupItems_eq_some_iff leftSorted, ← lookupItems_eq_some_iff rightSorted]
    exact iff_of_eq (congrArg (· = some value) (same key))
  subst items
  rfl

instance [DecidableEq β] : DecidableEq (SortedMap α β) := fun left right =>
  decidable_of_iff (left.items = right.items)
    ⟨fun items => by cases left; cases right; cases items; rfl, congrArg items⟩

theorem get?_filter (map : SortedMap α β) (test : α → β → Bool) (key : α) :
    (map.filter test).get? key = (map.get? key).filter (test key) := by
  refine Option.ext fun value => ?_
  rw [Option.filter_eq_some_iff, ← mem_items_iff, ← mem_items_iff]
  simp only [filter, List.mem_filter]

theorem get?_foldl_insert (items : List (α × β)) (map : SortedMap α β) (key : α)
    (absent : key ∉ items.map Prod.fst) :
    (items.foldl (fun map item => map.insert item.1 item.2) map).get? key = map.get? key := by
  induction items generalizing map with
  | nil => rfl
  | cons item rest ih =>
      simp only [List.map_cons, List.mem_cons, not_or] at absent
      rw [List.foldl_cons, ih _ absent.2, get?_insert_of_ne _ _ (Ne.symm absent.1)]

theorem get?_foldl_insert_of_mem {items : List (α × β)} (nodup : (items.map Prod.fst).Nodup)
    (map : SortedMap α β) (member : (key, value) ∈ items) :
    (items.foldl (fun map item => map.insert item.1 item.2) map).get? key = some value := by
  induction items generalizing map with
  | nil => exact absurd member List.not_mem_nil
  | cons item rest ih =>
      rw [List.map_cons, List.nodup_cons] at nodup
      rw [List.foldl_cons]
      rcases List.mem_cons.mp member with rfl | member
      · rw [get?_foldl_insert rest _ _ nodup.1, get?_insert_self]
      · exact ih nodup.2 _ member

theorem get?_ofList_of_mem {items : List (α × β)} (nodup : (items.map Prod.fst).Nodup)
    (member : (key, value) ∈ items) : (ofList items).get? key = some value :=
  get?_foldl_insert_of_mem nodup empty member

theorem get?_ofList_of_not_mem {items : List (α × β)} (absent : key ∉ items.map Prod.fst) :
    (ofList items).get? key = none :=
  get?_foldl_insert items empty key absent

theorem get?_absorb_of_not_mem (combine : Option β → γ → β) (map : SortedMap α β)
    {items : List (α × γ)} (absent : key ∉ items.map Prod.fst) :
    (map.absorb combine items).get? key = map.get? key := by
  unfold absorb
  induction items generalizing map with
  | nil => rfl
  | cons item rest ih =>
      simp only [List.map_cons, List.mem_cons, not_or] at absent
      rw [List.foldl_cons, ih _ absent.2, get?_insert_of_ne _ _ (Ne.symm absent.1)]

theorem get?_absorb_of_mem (combine : Option β → γ → β) (map : SortedMap α β) {items : List (α × γ)}
    (nodup : (items.map Prod.fst).Nodup) {value : γ} (member : (key, value) ∈ items) :
    (map.absorb combine items).get? key = some (combine (map.get? key) value) := by
  induction items generalizing map with
  | nil => exact absurd member List.not_mem_nil
  | cons item rest ih =>
      rw [List.map_cons, List.nodup_cons] at nodup
      change ((map.insert item.1 (combine (map.get? item.1) item.2)).absorb combine rest).get? key =
        some (combine (map.get? key) value)
      rcases List.mem_cons.mp member with rfl | member
      · rw [get?_absorb_of_not_mem combine _ nodup.1, get?_insert_self]
      · have differs : item.1 ≠ key := by
          rintro rfl
          exact nodup.1 (List.mem_map.mpr ⟨_, member, rfl⟩)
        rw [ih _ nodup.2 member, get?_insert_of_ne _ _ differs]

/-- Absorbing the items of a map combines the two values key by key. -/
theorem get?_absorb (combine : Option β → γ → β) (map : SortedMap α β) (other : SortedMap α γ)
    (key : α) :
    (map.absorb combine other.items).get? key =
      match other.get? key with
      | none => map.get? key
      | some value => some (combine (map.get? key) value) := by
  cases found : other.get? key with
  | none => exact get?_absorb_of_not_mem combine map (get?_eq_none_iff.mp found)
  | some value =>
      exact get?_absorb_of_mem combine map other.nodup_keys (mem_items_iff.mpr found)

/-- A map built from a list holds only items of that list. -/
theorem mem_of_get?_ofList {items : List (α × β)} (found : (ofList items).get? key = some value) :
    (key, value) ∈ items := by
  have general : ∀ map : SortedMap α β,
      (items.foldl (fun map item => map.insert item.1 item.2) map).get? key = some value →
        (key, value) ∈ items ∨ map.get? key = some value := by
    clear found
    induction items with
    | nil => intro map found; exact .inr found
    | cons item rest ih =>
        intro map found
        rcases ih _ found with member | kept
        · exact .inl (List.mem_cons_of_mem _ member)
        · rw [get?_insert] at kept
          split at kept
          · next same =>
            cases kept
            subst same
            exact .inl List.mem_cons_self
          · exact .inr kept
  exact (general empty found).resolve_right (by simp only [get?_empty, reduceCtorEq,
    not_false_eq_true])

/-- Rebuilding a map from its own items gives it back. -/
@[simp] theorem ofList_items (map : SortedMap α β) : ofList map.items = map := by
  refine ext_get? fun key => ?_
  cases found : map.get? key with
  | none => exact get?_ofList_of_not_mem (get?_eq_none_iff.mp found)
  | some value => exact get?_ofList_of_mem map.nodup_keys (mem_items_iff.mpr found)

theorem get?_ofKeys (keys : List α) (value : α → β) (key : α) :
    (ofKeys keys value).get? key = if key ∈ keys then some (value key) else none := by
  have general : ∀ map : SortedMap α β,
      ((keys.map fun key => (key, value key)).foldl
          (fun map item => map.insert item.1 item.2) map).get? key =
        if key ∈ keys then some (value key) else map.get? key := by
    induction keys with
    | nil => intro map; simp only [List.map_nil, List.foldl_nil, List.not_mem_nil, ↓reduceIte]
    | cons head rest ih =>
        intro map
        rw [List.map_cons, List.foldl_cons, ih, get?_insert]
        by_cases inRest : key ∈ rest
        · simp only [inRest, ↓reduceIte, List.mem_cons, or_true]
        · by_cases atHead : head = key
          · subst atHead
            simp only [inRest, ↓reduceIte, List.mem_cons, or_false]
          · simp only [inRest, atHead, Ne.symm atHead, ↓reduceIte, List.mem_cons, or_self]
  exact general empty

/-- Change the values. -/
def mapValues (change : β → γ) (map : SortedMap α β) : SortedMap α γ where
  items := map.items.map fun item => (item.1, change item.2)
  sorted := by
    rw [List.map_map]
    exact map.sorted

theorem get?_mapValues (change : β → γ) (map : SortedMap α β) (key : α) :
    (map.mapValues change).get? key = (map.get? key).map change := by
  refine Option.ext fun value => ?_
  rw [← mem_items_iff, Option.map_eq_some_iff]
  constructor
  · intro listed
    obtain ⟨item, member, same⟩ := List.mem_map.mp listed
    cases same
    exact ⟨item.2, mem_items_iff.mp member, rfl⟩
  · rintro ⟨old, found, rfl⟩
    exact List.mem_map.mpr ⟨(key, old), mem_items_iff.mpr found, rfl⟩

/-- A map with no keys but those of another map and of a list is no longer than both. -/
theorem length_le_of_keys {earlier : SortedMap α β} {later : SortedMap α γ} {extra : List α}
    (keys : ∀ key value, later.get? key = some value →
      (∃ old, earlier.get? key = some old) ∨ key ∈ extra) :
    later.items.length ≤ earlier.items.length + extra.length := by
  have subset : later.keys ⊆ earlier.keys ++ extra := by
    intro key listed
    obtain ⟨value, found⟩ := mem_keys_iff.mp listed
    rw [List.mem_append, mem_keys_iff]
    exact keys key value found
  have bound := (later.nodup_keys.subperm subset).length_le
  simp only [SortedMap.keys, List.length_append, List.length_map] at bound
  exact bound

end SortedMap

/-- Erasing repetitions leaves none. -/
theorem List.nodup_eraseDups {α : Type} [BEq α] [LawfulBEq α] (items : List α) :
    items.eraseDups.Nodup := by
  induction length : items.length using Nat.strong_induction_on generalizing items with
  | _ size ih =>
      cases items with
      | nil => exact List.nodup_nil
      | cons first rest =>
          rw [List.eraseDups_cons, List.nodup_cons]
          refine ⟨?_, ih _ ?_ _ rfl⟩
          · rw [List.mem_eraseDups, List.mem_filter]
            rintro ⟨_, differs⟩
            simp only [beq_self_eq_true, Bool.not_true, Bool.false_eq_true] at differs
          · rw [← length, List.length_cons]
            exact Nat.lt_succ_of_le (List.length_filter_le _ _)
