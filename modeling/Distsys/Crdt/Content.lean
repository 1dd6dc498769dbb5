import Mathlib.Data.Finset.Lattice.Basic
import Mathlib.Data.Set.Lattice
import Mathlib.Order.ConditionallyCompleteLattice.Basic
import Mathlib.Order.WithBot
import Distsys.Crdt.Types

/-!
# The information order of replicated states

Every state is read as an element of one join semilattice, its content: two
tallies, the dots that added each element, the tombstones and the payloads.
Merging states joins their contents (`CrdtState.merge_content`), and a state is
determined by its type and its content (`CrdtState.eq_of_content`). The element
map keeps "not listed" apart from "listed without dots", as `==` does.
-/

namespace Distsys

/-- What a state holds: positive counts, negative counts, added dots by element,
tombstones, and register payloads. -/
abbrev Content :=
  Tally CausalActor × Tally CausalActor × (PyStr → WithBot (Finset Dot)) × Finset Dot ×
    Set (Dot × PyStr)

namespace Content

/-- The increments of each actor. -/
def positive (content : Content) : Tally CausalActor := content.1
/-- The decrements of each actor. -/
def negative (content : Content) : Tally CausalActor := content.2.1
/-- The dots under which elements were added. -/
def adds (content : Content) : PyStr → WithBot (Finset Dot) := content.2.2.1
/-- The dots that are removed or superseded. -/
def tombstones (content : Content) : Finset Dot := content.2.2.2.1
/-- The payloads of a register by their dots. -/
def payloads (content : Content) : Set (Dot × PyStr) := content.2.2.2.2

@[simp] theorem payloads_sup (left right : Content) :
    (left ⊔ right).payloads = left.payloads ∪ right.payloads := rfl

/-- No dot carries two payloads in the two contents. -/
def Compatible (left right : Content) : Prop :=
  ∀ dot first second, (dot, first) ∈ left.payloads → (dot, second) ∈ right.payloads →
    first = second

end Content

namespace ORSet

/-- The listed elements with their dots. -/
def addsContent (set : ORSet) : PyStr → WithBot (Finset Dot) := fun element => set.adds.get? element

theorem addsContent_merge (left right : ORSet) :
    (left.merge right).addsContent = left.addsContent ⊔ right.addsContent := by
  funext element
  change (left.adds.absorb _ right.adds.items).get? element =
    left.addsContent element ⊔ right.addsContent element
  rw [SortedMap.get?_absorb]
  cases added : right.adds.get? element with
  | none =>
      have nothing : right.addsContent element = ⊥ := added
      rw [nothing, sup_bot_eq]
      rfl
  | some dots =>
      have joined : right.addsContent element = (dots : WithBot (Finset Dot)) := added
      cases stored : left.adds.get? element with
      | none =>
          have nothing : left.addsContent element = ⊥ := stored
          rw [nothing, joined, bot_sup_eq]
          exact congrArg some (Finset.empty_union dots)
      | some existing =>
          have kept : left.addsContent element = (existing : WithBot (Finset Dot)) := stored
          rw [kept, joined]
          rfl

end ORSet

namespace MVRegister

/-- The stored payloads. -/
def payloadSet (register : MVRegister) : Set (Dot × PyStr) :=
  {item | register.values.get? item.1 = some item.2}

/-- A merge that succeeds keeps the entries of both sides and nothing else. -/
theorem get?_of_mergeValues {items : List (Dot × PyStr)} {values merged : SortedMap Dot PyStr}
    (result : mergeValues items values = .ok merged) (dot : Dot) (payload : PyStr) :
    merged.get? dot = some payload ↔
      (dot, payload) ∈ items ∨ values.get? dot = some payload := by
  induction items generalizing values with
  | nil =>
      cases result
      simp only [List.not_mem_nil, false_or]
  | cons item rest ih =>
      obtain ⟨head, encoded⟩ := item
      rw [mergeValues] at result
      -- in both surviving branches the loop goes on with `encoded` stored at `head`
      have continued : mergeValues rest (values.insert head encoded) = .ok merged ∧
          (values.get? head = none ∨ values.get? head = some encoded) := by
        cases found : values.get? head with
        | none =>
            rw [found] at result
            exact ⟨result, .inl rfl⟩
        | some existing =>
            rw [found] at result
            by_cases same : existing = encoded
            · subst same
              simp only [ne_eq, not_true_eq_false, ↓reduceIte] at result
              exact ⟨result, .inr rfl⟩
            · simp only [ne_eq, same, not_false_eq_true, ↓reduceIte, reduceCtorEq] at result
      rw [ih continued.1, SortedMap.get?_insert]
      by_cases atHead : head = dot
      · subst atHead
        simp only [↓reduceIte, Option.some.injEq, List.mem_cons, Prod.mk.injEq, true_and]
        rcases continued.2 with absent | stored
        · simp only [absent, reduceCtorEq, or_false]
          rw [or_comm, eq_comm]
        · simp only [stored, Option.some.injEq]
          rw [eq_comm (a := payload), or_right_comm, or_self, or_comm]
      · simp only [if_neg atHead, List.mem_cons, Prod.mk.injEq, Ne.symm atHead, false_and, false_or]

theorem mergeValues_succeeds {items : List (Dot × PyStr)} (nodup : (items.map Prod.fst).Nodup)
    {values : SortedMap Dot PyStr}
    (agree : ∀ dot first second, (dot, first) ∈ items → values.get? dot = some second →
      first = second) :
    ∃ merged, mergeValues items values = .ok merged := by
  induction items generalizing values with
  | nil => exact ⟨values, rfl⟩
  | cons item rest ih =>
      obtain ⟨head, encoded⟩ := item
      rw [List.map_cons, List.nodup_cons] at nodup
      have later : ∀ dot first second, (dot, first) ∈ rest →
          (values.insert head encoded).get? dot = some second → first = second := by
        intro dot first second member stored
        have differs : head ≠ dot := by
          rintro rfl
          exact nodup.1 (List.mem_map.mpr ⟨_, member, rfl⟩)
        rw [SortedMap.get?_insert_of_ne _ _ differs] at stored
        exact agree dot first second (List.mem_cons_of_mem _ member) stored
      rw [mergeValues]
      cases found : values.get? head with
      | none => exact ih nodup.2 later
      | some existing =>
          have same := agree head encoded existing List.mem_cons_self found
          simp only [same, ne_eq, not_true_eq_false, ↓reduceIte]
          exact ih nodup.2 (same ▸ later)

theorem payloadSet_merge {left right merged : MVRegister} (result : left.merge right = .ok merged) :
    merged.payloadSet = left.payloadSet ∪ right.payloadSet ∧
      merged.superseded = left.superseded ∪ right.superseded := by
  unfold merge at result
  cases loop : mergeValues right.values.items left.values with
  | error error =>
      rw [loop] at result
      cases result
  | ok values =>
      rw [loop] at result
      cases result
      refine ⟨?_, rfl⟩
      ext ⟨dot, payload⟩
      change values.get? dot = some payload ↔
        left.values.get? dot = some payload ∨ right.values.get? dot = some payload
      rw [get?_of_mergeValues loop, SortedMap.mem_items_iff, or_comm]

end MVRegister

namespace CrdtState

/-- The content of a state; the parts its type does not use are empty. -/
def content : CrdtState → Content
  | .gcounter counter => (counter.components, ⊥, ⊥, ∅, ∅)
  | .pncounter counter => (counter.positive.components, counter.negative.components, ⊥, ∅, ∅)
  | .orset set => (⊥, ⊥, set.addsContent, set.removed, ∅)
  | .mvregister register => (⊥, ⊥, ⊥, register.superseded, register.payloadSet)

@[simp] theorem content_empty (crdtType : CrdtType) : (empty crdtType).content = ⊥ := by
  have payloads : MVRegister.empty.payloadSet = ∅ := by
    ext item
    simp only [MVRegister.payloadSet, MVRegister.empty, SortedMap.get?_empty, reduceCtorEq,
      Set.ofPred_false, Set.mem_empty_iff_false]
  cases crdtType
  · rfl
  · rfl
  · rfl
  · exact congrArg (fun set : Set (Dot × PyStr) => ((⊥, ⊥, ⊥, ∅, set) : Content)) payloads

/-- A state is determined by its type and its content. -/
theorem eq_of_content {left right : CrdtState} (types : left.crdtType = right.crdtType)
    (contents : left.content = right.content) : left = right := by
  cases left <;> cases right <;> simp only [crdtType, reduceCtorEq] at types
  case gcounter.gcounter left right =>
    obtain ⟨components⟩ := left
    have same : components = right.components := congrArg Content.positive contents
    subst same
    rfl
  case pncounter.pncounter left right =>
    obtain ⟨⟨positive⟩, ⟨negative⟩⟩ := left
    have first : positive = right.positive.components := congrArg Content.positive contents
    have second : negative = right.negative.components := congrArg Content.negative contents
    subst first second
    rfl
  case orset.orset left right =>
    obtain ⟨adds, removed⟩ := left
    have tombstones : removed = right.removed := congrArg Content.tombstones contents
    have lookups : adds = right.adds :=
      SortedMap.ext_get? fun element => congrFun (congrArg Content.adds contents) element
    subst tombstones lookups
    rfl
  case mvregister.mvregister left right =>
    obtain ⟨values, superseded⟩ := left
    have tombstones : superseded = right.superseded := congrArg Content.tombstones contents
    have lookups : values = right.values := by
      refine SortedMap.ext_get? fun dot => Option.ext fun payload => ?_
      have stored : MVRegister.payloadSet ⟨values, superseded⟩ = right.payloadSet :=
        congrArg Content.payloads contents
      exact iff_of_eq (congrArg (fun set => (dot, payload) ∈ set) stored)
    subst tombstones lookups
    rfl

/-- A merge that succeeds joins the contents of two states of one type. -/
theorem merge_content {left right merged : CrdtState} (result : left.merge right = .ok merged) :
    left.crdtType = right.crdtType ∧ merged.crdtType = left.crdtType ∧
      merged.content = left.content ⊔ right.content := by
  cases left <;> cases right <;> simp only [merge, reduceCtorEq] at result
  case gcounter.gcounter left right =>
    cases result
    refine ⟨rfl, rfl, ?_⟩
    simp only [content, GCounter.merge, Tally.merge_eq_sup, Prod.mk_sup_mk, sup_idem]
  case pncounter.pncounter left right =>
    cases result
    refine ⟨rfl, rfl, ?_⟩
    simp only [content, PNCounter.merge, GCounter.merge, Tally.merge_eq_sup, Prod.mk_sup_mk,
      sup_idem]
  case orset.orset left right =>
    cases result
    refine ⟨rfl, rfl, ?_⟩
    simp only [content, ORSet.addsContent_merge, Prod.mk_sup_mk, sup_idem]
    rfl
  case mvregister.mvregister left right =>
    cases loop : left.merge right with
    | error error =>
        rw [loop] at result
        cases result
    | ok register =>
        rw [loop] at result
        cases result
        obtain ⟨payloads, superseded⟩ := MVRegister.payloadSet_merge loop
        refine ⟨rfl, rfl, ?_⟩
        simp only [content, payloads, superseded, Prod.mk_sup_mk, sup_idem]
        rfl

/-- States of one type merge unless a dot carries two payloads. -/
theorem merge_succeeds {left right : CrdtState} (types : left.crdtType = right.crdtType)
    (compatible : left.content.Compatible right.content) :
    ∃ merged, left.merge right = .ok merged := by
  cases left <;> cases right <;> simp only [crdtType, reduceCtorEq] at types
  case gcounter.gcounter left right => exact ⟨_, rfl⟩
  case pncounter.pncounter left right => exact ⟨_, rfl⟩
  case orset.orset left right => exact ⟨_, rfl⟩
  case mvregister.mvregister left right =>
    obtain ⟨values, loop⟩ := MVRegister.mergeValues_succeeds right.values.nodup_keys
      (fun dot first second member stored =>
        (compatible dot second first stored (SortedMap.mem_items_iff.mp member)).symm)
    refine ⟨.mvregister ⟨values, left.superseded ∪ right.superseded⟩, ?_⟩
    simp only [merge, MVRegister.merge, loop]
    rfl

end CrdtState

end Distsys
