import Mathlib.Data.Prod.Lex
import Mathlib.Order.Bounds.Basic
import Mathlib.Order.MinMax
import Distsys.Text
import Distsys.Lib.Tally

/-!
# Actors, dots and version vectors

A dot names one mutation of one actor. A version vector stores, for each actor,
the highest counter it knows, and so covers every dot of that actor up to it.
Vectors are kept in the canonical form of the constructor (sorted by actor, no
zero counters), hence `==` on vectors is equality of their counters.
-/

namespace Distsys

/-- A node identifier, never the empty string. -/
abbrev NodeId := { id : PyStr // id ≠ [] }

instance : LawfulBEq NodeId := inferInstance

theorem NodeId.ne_nil (id : NodeId) : id.val ≠ [] := id.property

/-- A node whose name is one letter. -/
def NodeId.letter (letter : CodePoint) : NodeId := ⟨[letter], PyStr.letter_ne_nil letter⟩

/-- One running incarnation of a node. -/
structure CausalActor where
  nodeId : PyStr
  incarnation : Nat
  named : nodeId ≠ []

namespace CausalActor

/-- An incarnation of a node whose name is one letter. -/
def letter (letter : CodePoint) (incarnation : Nat) : CausalActor :=
  ⟨[letter], incarnation, PyStr.letter_ne_nil letter⟩

/-- The fields compared by the generated ordering of the dataclass, in order. -/
def orderKey (actor : CausalActor) : Lex (PyStr × Nat) := toLex (actor.nodeId, actor.incarnation)

theorem orderKey_injective : Function.Injective orderKey := by
  rintro ⟨leftId, leftIncarnation, leftNamed⟩ ⟨rightId, rightIncarnation, rightNamed⟩ same
  have fields := Prod.mk.inj (toLex_inj.mp same)
  obtain ⟨rfl, rfl⟩ := fields
  rfl

instance : LinearOrder CausalActor := LinearOrder.lift' orderKey orderKey_injective

end CausalActor

/-- A causal event of one actor. -/
structure Dot where
  actor : CausalActor
  counter : Nat
  positive : 1 ≤ counter

namespace Dot

/-- The fields compared by the generated ordering of the dataclass, in order. -/
def orderKey (dot : Dot) : Lex (CausalActor × Nat) := toLex (dot.actor, dot.counter)

theorem orderKey_injective : Function.Injective orderKey := by
  rintro ⟨leftActor, leftCounter, leftPositive⟩ ⟨rightActor, rightCounter, rightPositive⟩ same
  have fields := Prod.mk.inj (toLex_inj.mp same)
  obtain ⟨rfl, rfl⟩ := fields
  rfl

instance : LinearOrder Dot := LinearOrder.lift' orderKey orderKey_injective

instance : IsTrans Dot (· ≤ ·) := inferInstance
instance : Std.Antisymm fun left right : Dot => left ≤ right := inferInstance

end Dot

/-- A vector clock indexed by causal actors. -/
abbrev VersionVector := Tally CausalActor

/-- The result of `VersionVector.compare`. -/
inductive VersionRelation
  | before
  | after
  | equal
  | concurrent
  deriving DecidableEq, Repr

namespace VersionVector

variable {left right vector : VersionVector} {actors : List CausalActor} {dot : Dot}

/-- The constructor applied to a dictionary given by its items. -/
def ofItems (items : List (CausalActor × Nat)) : VersionVector :=
  Tally.ofMap (SortedMap.ofList items)

/-- `bool(vector)`: whether the vector lists any actor. -/
def nonempty (vector : VersionVector) : Bool := !vector.items.isEmpty

/-- Raise the counter of the dot's actor to the dot. -/
def withDot (vector : VersionVector) (dot : Dot) : VersionVector :=
  vector.put dot.actor (max (vector.get dot.actor) dot.counter)

/-- The loop of `compare` over the actors still to visit, with its two flags. -/
def compareLoop (left right : VersionVector) : List CausalActor → Bool → Bool → VersionRelation
  | [], less, greater =>
      if less then .before else if greater then .after else .equal
  | actor :: rest, less, greater =>
      let less := less || decide (left.get actor < right.get actor)
      let greater := greater || decide (right.get actor < left.get actor)
      if less && greater then .concurrent else compareLoop left right rest less greater

/-- The relation of two vectors, computed over the actors of both. -/
def compare (left right : VersionVector) : VersionRelation :=
  compareLoop left right (left.keys ++ right.keys) false false

/-- Whether every counter of the other vector is known. -/
def dominates (left right : VersionVector) : Bool :=
  match left.compare right with
  | .after | .equal => true
  | .before | .concurrent => false

/-- The counters of the required vector that are not known, as a dictionary from actors to the
first and the last of them. -/
def missingFrom (vector required : VersionVector) : List (CausalActor × (Nat × Nat)) :=
  required.items.filterMap fun item =>
    if vector.get item.1 < item.2 then some (item.1, (vector.get item.1 + 1, item.2)) else none

/-- The dot is among the mutations the vector knows. -/
def Covers (vector : VersionVector) (dot : Dot) : Prop := dot.counter ≤ vector.get dot.actor

instance (vector : VersionVector) (dot : Dot) : Decidable (vector.Covers dot) :=
  inferInstanceAs (Decidable (_ ≤ _))

/-- The four answers of the loop, told by what lies below and above at the
remaining actors. -/
theorem compareLoop_eq (left right : VersionVector) (actors : List CausalActor)
    (less greater : Bool) (single : (less && greater) = false) :
    compareLoop left right actors less greater =
      if (less = true ∨ ∃ actor ∈ actors, left.get actor < right.get actor) then
        if (greater = true ∨ ∃ actor ∈ actors, right.get actor < left.get actor) then .concurrent
        else .before
      else if (greater = true ∨ ∃ actor ∈ actors, right.get actor < left.get actor) then .after
      else .equal := by
  induction actors generalizing less greater with
  | nil =>
      cases less <;> cases greater <;>
        simp_all only [compareLoop, Bool.and_self, List.not_mem_nil, false_and, exists_false,
          or_false, or_self, ↓reduceIte, Bool.false_eq_true, Bool.true_eq_false, Bool.and_false,
          Bool.false_and]
  | cons actor rest ih =>
      simp only [compareLoop, List.mem_cons, exists_eq_or_imp]
      by_cases both : ((less || decide (left.get actor < right.get actor)) &&
          (greater || decide (right.get actor < left.get actor))) = true
      · rw [if_pos both]
        simp only [Bool.and_eq_true, Bool.or_eq_true, decide_eq_true_eq] at both
        rw [if_pos (both.1.elim Or.inl fun below => Or.inr (Or.inl below)),
          if_pos (both.2.elim Or.inl fun above => Or.inr (Or.inl above))]
      · rw [if_neg both, ih _ _ (Bool.not_eq_true _ ▸ both)]
        simp only [Bool.or_eq_true, decide_eq_true_eq, or_assoc]

/-- The actors of a visit are those that either vector lists. -/
def Visits (left right : VersionVector) (actors : List CausalActor) : Prop :=
  ∀ actor, actor ∈ actors ↔ actor ∈ left.keys ∨ actor ∈ right.keys

theorem Visits.symm (visits : Visits left right actors) : Visits right left actors :=
  fun actor => (visits actor).trans or_comm

theorem visits_keys (left right : VersionVector) : Visits left right (left.keys ++ right.keys) :=
  fun _ => List.mem_append

theorem Visits.exists_lt_iff (visits : Visits left right actors) :
    (∃ actor ∈ actors, left.get actor < right.get actor) ↔ ¬ right ≤ left := by
  simp only [Tally.le_def, not_forall, not_le]
  constructor
  · rintro ⟨actor, _, below⟩
    exact ⟨actor, below⟩
  · rintro ⟨actor, below⟩
    refine ⟨actor, (visits actor).mpr (.inr (Tally.mem_keys_iff.mpr ?_)), below⟩
    exact Nat.ne_of_gt (Nat.zero_lt_of_lt below)

/-- The loop decides the pointwise order in both directions at once, in whatever order it
visits the actors. -/
theorem Visits.compareLoop_eq (visits : Visits left right actors) :
    compareLoop left right actors false false =
      if right ≤ left then (if left ≤ right then .equal else .after)
      else (if left ≤ right then .before else .concurrent) := by
  rw [VersionVector.compareLoop_eq _ _ _ _ _ rfl]
  simp only [Bool.false_eq_true, false_or, visits.exists_lt_iff, visits.symm.exists_lt_iff]
  by_cases above : right ≤ left <;> by_cases below : left ≤ right <;>
    simp only [above, below, not_true_eq_false, not_false_eq_true, ↓reduceIte]

theorem compare_eq (left right : VersionVector) :
    left.compare right =
      if right ≤ left then (if left ≤ right then .equal else .after)
      else (if left ≤ right then .before else .concurrent) :=
  (visits_keys left right).compareLoop_eq

theorem compare_eq_equal_iff :
    left.compare right = .equal ↔ left = right := by
  rw [compare_eq]
  by_cases above : right ≤ left <;> by_cases below : left ≤ right <;>
    simp only [above, below, ↓reduceIte, reduceCtorEq, false_iff, true_iff]
  · exact le_antisymm below above
  all_goals rintro rfl; exact absurd le_rfl ‹_›

/-- `dominates` is the pointwise order. -/
@[simp] theorem dominates_iff :
    left.dominates right = true ↔ right ≤ left := by
  unfold dominates
  rw [compare_eq]
  by_cases above : right ≤ left <;> by_cases below : left ≤ right <;>
    simp only [above, below, ↓reduceIte, Bool.false_eq_true]

theorem get_withDot (vector : VersionVector) (dot : Dot) (actor : CausalActor) :
    (vector.withDot dot).get actor =
      if dot.actor = actor then max (vector.get actor) dot.counter else vector.get actor := by
  unfold withDot
  rw [Tally.get_put]
  split
  · next same => rw [same]
  · rfl

theorem le_withDot (vector : VersionVector) (dot : Dot) : vector ≤ vector.withDot dot := by
  intro actor
  rw [get_withDot]
  split
  · exact Nat.le_max_left _ _
  · exact Nat.le_refl _

theorem nonempty_eq_false_iff : vector.nonempty = false ↔ vector = ⊥ := by
  unfold nonempty
  rw [Bool.not_eq_false', List.isEmpty_iff]
  constructor
  · intro none
    refine Tally.ext_get fun actor => ?_
    by_contra nonzero
    have member := Tally.mem_items_iff.mpr ⟨rfl, nonzero⟩
    rw [none] at member
    exact List.not_mem_nil member
  · rintro rfl
    rfl

theorem Covers.mono (below : left ≤ right) (covered : left.Covers dot) : right.Covers dot :=
  covered.trans (below dot.actor)

theorem covers_sup :
    (left ⊔ right).Covers dot ↔ left.Covers dot ∨ right.Covers dot := by
  unfold Covers
  rw [Tally.get_sup, le_max_iff]

theorem covers_withDot {other : Dot} :
    (vector.withDot dot).Covers other ↔
      vector.Covers other ∨ (dot.actor = other.actor ∧ other.counter ≤ dot.counter) := by
  unfold Covers
  rw [get_withDot]
  split
  · next same => simp only [le_max_iff, same, true_and]
  · next differs => simp only [differs, false_and, or_false]

theorem withDot_le {bound : VersionVector} (below : vector ≤ bound) (covers : bound.Covers dot) :
    vector.withDot dot ≤ bound := by
  intro actor
  rw [get_withDot]
  split
  · next same =>
    subst same
    exact Nat.max_le.mpr ⟨below _, covers⟩
  · exact below actor

theorem covers_withDot_self (vector : VersionVector) (dot : Dot) :
    (vector.withDot dot).Covers dot :=
  covers_withDot.mpr (.inr ⟨rfl, Nat.le_refl _⟩)

theorem not_covers_bot (dot : Dot) : ¬ (⊥ : VersionVector).Covers dot := by
  unfold Covers
  rw [Tally.get_bot]
  exact Nat.not_le.mpr dot.positive

theorem not_le_iff_exists :
    ¬ left ≤ right ↔ ∃ actor, right.get actor < left.get actor := by
  simp only [Tally.le_def, not_forall, not_le]

section Compare

variable {left right : VersionVector}

theorem compare_eq_before_iff :
    left.compare right = .before ↔ left ≤ right ∧ ¬ right ≤ left := by
  rw [compare_eq]
  by_cases above : right ≤ left <;> by_cases below : left ≤ right <;>
    simp only [above, below, ↓reduceIte, reduceCtorEq, not_true_eq_false, not_false_eq_true,
      and_self, and_true, and_false]

theorem compare_eq_after_iff :
    left.compare right = .after ↔ right ≤ left ∧ ¬ left ≤ right := by
  rw [compare_eq]
  by_cases above : right ≤ left <;> by_cases below : left ≤ right <;>
    simp only [above, below, ↓reduceIte, reduceCtorEq, not_true_eq_false, not_false_eq_true,
      and_self, and_true, and_false]

theorem compare_eq_concurrent_iff :
    left.compare right = .concurrent ↔ ¬ right ≤ left ∧ ¬ left ≤ right := by
  rw [compare_eq]
  by_cases above : right ≤ left <;> by_cases below : left ≤ right <;>
    simp only [above, below, ↓reduceIte, reduceCtorEq, not_true_eq_false, not_false_eq_true,
      and_self, and_true, and_false]

end Compare

theorem isLeast_withDot (vector : VersionVector) (dot : Dot) :
    IsLeast { bound : VersionVector | bound.dominates vector = true ∧ bound.Covers dot }
      (vector.withDot dot) := by
  refine ⟨⟨dominates_iff.mpr (vector.le_withDot dot), vector.covers_withDot_self dot⟩, ?_⟩
  rintro bound ⟨above, covers⟩
  exact withDot_le (dominates_iff.mp above) covers

section Missing

variable {vector required : VersionVector}

theorem mem_missingFrom_iff {actor : CausalActor} {first last : Nat} :
    (actor, (first, last)) ∈ vector.missingFrom required ↔
      vector.get actor < required.get actor ∧ first = vector.get actor + 1 ∧
        last = required.get actor := by
  unfold missingFrom
  rw [List.mem_filterMap]
  constructor
  · rintro ⟨⟨other, counter⟩, listed, kept⟩
    obtain ⟨known, _⟩ := Tally.mem_items_iff.mp listed
    dsimp only at kept
    split at kept
    · next lacks =>
      cases kept
      exact ⟨known ▸ lacks, rfl, known.symm⟩
    · cases kept
  · rintro ⟨lacks, rfl, rfl⟩
    refine ⟨(actor, required.get actor), Tally.mem_items_iff.mpr ⟨rfl, ?_⟩, if_pos lacks⟩
    exact Nat.ne_of_gt (Nat.zero_lt_of_lt lacks)

theorem missingFrom_eq_nil_iff :
    vector.missingFrom required = [] ↔ vector.dominates required = true := by
  rw [dominates_iff, List.eq_nil_iff_forall_not_mem]
  constructor
  · intro none actor
    by_contra lacks
    exact none _ (mem_missingFrom_iff.mpr ⟨Nat.lt_of_not_le lacks, rfl, rfl⟩)
  · rintro below ⟨actor, first, last⟩ listed
    exact Nat.not_lt.mpr (below actor) (mem_missingFrom_iff.mp listed).1

/-- Every actor is listed once. -/
theorem nodup_missingFrom (vector required : VersionVector) :
    ((vector.missingFrom required).map Prod.fst).Nodup := by
  refine List.pairwise_map.mpr (List.pairwise_filterMap.mpr ?_)
  refine (List.pairwise_map.mp required.counts.nodup_keys).imp fun differs => ?_
  intro first kept second other
  split at kept
  · split at other
    · cases kept
      cases other
      exact differs
    · cases other
  · cases kept

/-- The counters listed for an actor are those that the required vector covers and this one does
not. -/
theorem listed_missingFrom_iff :
    (∃ first last, (dot.actor, (first, last)) ∈ vector.missingFrom required ∧
      first ≤ dot.counter ∧ dot.counter ≤ last) ↔ required.Covers dot ∧ ¬ vector.Covers dot := by
  unfold Covers
  constructor
  · rintro ⟨first, last, listed, least, most⟩
    obtain ⟨_, rfl, rfl⟩ := mem_missingFrom_iff.mp listed
    exact ⟨most, Nat.not_le.mpr least⟩
  · rintro ⟨most, least⟩
    have above : vector.get dot.actor < dot.counter := Nat.not_le.mp least
    exact ⟨_, _, mem_missingFrom_iff.mpr ⟨above.trans_le most, rfl, rfl⟩, above, most⟩

end Missing

/-- Version vectors are a lattice of finite maps: `compare` tells the pointwise order whatever the
order of the visit, `dominates` is a partial order, `merge` is the join, `with_dot` the least
vector above the old one that covers the dot, and `missing_from` lists what is not covered. -/
theorem versionVector_lattice {left right : VersionVector} {actors : List CausalActor}
    (visits : Visits left right actors) :
    compareLoop left right actors false false = left.compare right ∧
    (left.compare right = .equal ↔ ∀ actor, left.get actor = right.get actor) ∧
    (left.compare right = .before ↔ (∀ actor, left.get actor ≤ right.get actor) ∧
      ∃ actor, left.get actor < right.get actor) ∧
    (left.compare right = .after ↔ (∀ actor, right.get actor ≤ left.get actor) ∧
      ∃ actor, right.get actor < left.get actor) ∧
    (left.compare right = .concurrent ↔ (∃ actor, left.get actor < right.get actor) ∧
      ∃ actor, right.get actor < left.get actor) ∧
    (left.dominates right = true ↔ ∀ actor, right.get actor ≤ left.get actor) ∧
    left.dominates left = true ∧
    (∀ third : VersionVector, left.dominates right = true → right.dominates third = true →
      left.dominates third = true) ∧
    (left.dominates right = true → right.dominates left = true → (left == right) = true) ∧
    IsLUB { left, right } (left.merge right) ∧
    (∀ dot, IsLeast { bound : VersionVector | bound.dominates left = true ∧ bound.Covers dot }
      (left.withDot dot)) ∧
    (left.missingFrom right = [] ↔ left.dominates right = true) ∧
    ((left.missingFrom right).map Prod.fst).Nodup ∧
    ∀ dot : Dot, (∃ first last, (dot.actor, (first, last)) ∈ left.missingFrom right ∧
      first ≤ dot.counter ∧ dot.counter ≤ last) ↔ right.Covers dot ∧ ¬ left.Covers dot := by
  refine ⟨visits.compareLoop_eq.trans (compare_eq left right).symm, ?_, ?_, ?_, ?_,
    dominates_iff.trans Tally.le_def, dominates_iff.mpr le_rfl, ?_, ?_, isLUB_pair,
    left.isLeast_withDot, missingFrom_eq_nil_iff, left.nodup_missingFrom right,
    fun dot => listed_missingFrom_iff⟩
  · rw [compare_eq_equal_iff]
    exact ⟨fun same _ => same ▸ rfl, Tally.ext_get⟩
  · rw [compare_eq_before_iff, not_le_iff_exists, Tally.le_def]
  · rw [compare_eq_after_iff, not_le_iff_exists, Tally.le_def]
  · rw [compare_eq_concurrent_iff, not_le_iff_exists, not_le_iff_exists]
  · intro third above below
    exact dominates_iff.mpr ((dominates_iff.mp below).trans (dominates_iff.mp above))
  · intro above below
    rw [beq_iff_eq]
    exact le_antisymm (dominates_iff.mp below) (dominates_iff.mp above)

/-- Two concurrent vectors, visited from the right. -/
theorem concurrent_visited_from_right :
    let east : CausalActor := ⟨[101], 1, List.cons_ne_nil 101 []⟩
    let west : CausalActor := ⟨[119], 1, List.cons_ne_nil 119 []⟩
    let left := ofItems [(east, 2), (west, 1)]
    let right := ofItems [(west, 3)]
    compareLoop left right (right.keys ++ left.keys) false false = .concurrent ∧
      left.missingFrom right = [(west, (2, 3))] ∧ IsLUB { left, right } (left.merge right) := by
  intro east west left right
  have facts := versionVector_lattice (visits_keys right left).symm
  refine ⟨facts.1.trans ?_, ?_, facts.2.2.2.2.2.2.2.2.2.1⟩ <;> decide +kernel

end VersionVector

/-- The causal knowledge a client session carries. -/
structure CausalToken where
  version : VersionVector
  deriving DecidableEq

namespace CausalToken

/-- The token that demands nothing. -/
def empty : CausalToken := ⟨⊥⟩

/-- `CausalToken.merge`. -/
def merge (left right : CausalToken) : CausalToken := ⟨left.version.merge right.version⟩

end CausalToken

end Distsys
