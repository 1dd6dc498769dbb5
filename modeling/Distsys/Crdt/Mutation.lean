import Mathlib.Data.Multiset.Lattice
import Mathlib.Order.CompletePartialOrder
import Distsys.Lib.Codec
import Distsys.Replication.Messages

/-!
# Mutations and their combined effect

What a mutation request does to a state, and what a list of committed mutations
amounts to: counters add up the amounts of each actor, the other parts are the
unions of what the mutations added, tombstoned and wrote.
-/

namespace Distsys

/-- `_apply_mutation`. -/
def applyMutation (actor : CausalActor) (state : CrdtState) (request : CrdtMutationData)
    (dot : Dot) :
    Except PyError CrdtState :=
  match request.crdtType with
  | .gcounter =>
      if request.operation ≠ .increment ∨ request.amount < 1 then
        .error ⟨.valueError, "GCounter requires increment amount >= 1"⟩
      else match state with
        | .gcounter counter => do
            let next ← counter.increment actor request.amount
            return .gcounter next
        | _ => .error ⟨.assertionError, ""⟩
  | .pncounter =>
      match state with
      | .pncounter counter =>
          if request.operation = .increment ∧ 1 ≤ request.amount then do
            let next ← counter.increment actor request.amount
            return .pncounter next
          else if request.operation = .decrement ∧ 1 ≤ request.amount then do
            let next ← counter.decrement actor request.amount
            return .pncounter next
          else .error ⟨.valueError, "PNCounter requires increment/decrement amount >= 1"⟩
      | _ => .error ⟨.assertionError, ""⟩
  | .orset =>
      match state, request.value, request.operation with
      | .orset set, .str element, .add => .ok (.orset (set.add element dot))
      | .orset set, .str element, .remove => .ok (.orset (set.remove element))
      | .orset _, .str _, _ => .error ⟨.valueError, "ORSet requires add/remove"⟩
      | .orset _, _, _ => .error ⟨.valueError, "ORSet value must be a string"⟩
      | _, _, _ => .error ⟨.assertionError, ""⟩
  | .mvregister =>
      match state, request.operation with
      | .mvregister register, .write => .ok (.mvregister (register.write request.value dot))
      | .mvregister _, _ => .error ⟨.valueError, "MVRegister requires write"⟩
      | _, _ => .error ⟨.assertionError, ""⟩

/-- The ways in which a request changes a state. -/
inductive Applied (actor : CausalActor) (request : CrdtMutationData) (dot : Dot) :
    CrdtState → CrdtState → Prop
  | increment (counter : GCounter) (type : request.crdtType = .gcounter)
      (operation : request.operation = .increment) :
      Applied actor request dot (.gcounter counter)
        (.gcounter ⟨counter.components.put actor (counter.component actor + request.amount)⟩)
  | increase (counter : PNCounter) (type : request.crdtType = .pncounter)
      (operation : request.operation = .increment) :
      Applied actor request dot (.pncounter counter) (.pncounter
        ⟨⟨counter.positive.components.put actor
          (counter.positive.component actor + request.amount)⟩,
          counter.negative⟩)
  | decrease (counter : PNCounter) (type : request.crdtType = .pncounter)
      (operation : request.operation = .decrement) :
      Applied actor request dot (.pncounter counter) (.pncounter
        ⟨counter.positive,
          ⟨counter.negative.components.put actor
            (counter.negative.component actor + request.amount)⟩⟩)
  | add (set : ORSet) (element : PyStr) (type : request.crdtType = .orset)
      (operation : request.operation = .add) (value : request.value = .str element) :
      Applied actor request dot (.orset set) (.orset (set.add element dot))
  | remove (set : ORSet) (element : PyStr) (type : request.crdtType = .orset)
      (operation : request.operation = .remove) (value : request.value = .str element) :
      Applied actor request dot (.orset set) (.orset (set.remove element))
  | write (register : MVRegister) (type : request.crdtType = .mvregister)
      (operation : request.operation = .write) :
      Applied actor request dot (.mvregister register)
        (.mvregister (register.write request.value dot))

theorem Applied.types {actor : CausalActor} {request : CrdtMutationData} {dot : Dot}
    {state next : CrdtState} (applied : Applied actor request dot state next) :
    state.crdtType = request.crdtType ∧ next.crdtType = request.crdtType := by
  cases applied with
  | increment counter type | increase counter type | decrease counter type
  | add set element type | remove set element type | write register type =>
      exact ⟨type.symm, type.symm⟩

theorem GCounter.increment_eq_ok {counter next : GCounter} {actor : CausalActor} {amount : Nat}
    (result : counter.increment actor amount = .ok next) :
    next = ⟨counter.components.put actor (counter.component actor + amount)⟩ := by
  unfold increment at result
  split at result
  · cases result
  · cases result
    rfl

theorem applied_of_applyMutation {actor : CausalActor} {request : CrdtMutationData} {dot : Dot}
    {state next : CrdtState} (result : applyMutation actor state request dot = .ok next) :
    Applied actor request dot state next := by
  unfold applyMutation at result
  split at result
  · next type =>
    split at result
    · cases result
    · next valid =>
      cases state with
      | gcounter counter =>
          obtain ⟨counted, incremented, result⟩ := Codec.bind_eq_ok.mp result
          cases result
          cases GCounter.increment_eq_ok incremented
          exact .increment counter type (not_not.mp (not_or.mp valid).1)
      | pncounter | orset | mvregister => cases result
  · next type =>
    cases state with
    | pncounter counter =>
        simp only at result
        split at result
        · next valid =>
          obtain ⟨counted, incremented, result⟩ := Codec.bind_eq_ok.mp result
          obtain ⟨positive, component, counted⟩ := Codec.bind_eq_ok.mp incremented
          cases result
          cases counted
          cases GCounter.increment_eq_ok component
          exact .increase counter type valid.1
        · split at result
          · next valid =>
            obtain ⟨counted, decremented, result⟩ := Codec.bind_eq_ok.mp result
            obtain ⟨negative, component, counted⟩ := Codec.bind_eq_ok.mp decremented
            cases result
            cases counted
            cases GCounter.increment_eq_ok component
            exact .decrease counter type valid.1
          · cases result
    | gcounter | orset | mvregister => cases result
  · next type =>
    split at result
    · next set element value operation =>
      cases result
      exact .add set element type operation value
    · next set element value operation =>
      cases result
      exact .remove set element type operation value
    all_goals cases result
  · next type =>
    split at result
    · next register operation =>
      cases result
      exact .write register type operation
    all_goals cases result

/-- The part of a content that only grows by unions. -/
abbrev Marks := (PyStr → WithBot (Finset Dot)) × Finset Dot × Set (Dot × PyStr)

/-- The part of a content that sets and registers use. -/
def Content.marks (content : Content) : Marks := content.2.2

/-- A committed mutation: its dot and request, the entry it found under the key
and the entry it left there. -/
structure Mutation where
  dot : Dot
  request : CrdtMutationData
  before : Option StoredCrdtEntry
  after : StoredCrdtEntry

namespace Mutation

/-- The key that is mutated. -/
def key (mutation : Mutation) : PyStr := mutation.request.key

/-- The actor that mutates it. -/
def actor (mutation : Mutation) : CausalActor := mutation.dot.actor

/-- The type that the request names. -/
def crdtType (mutation : Mutation) : CrdtType := mutation.request.crdtType

/-- The state the mutation was applied to. -/
def prior (mutation : Mutation) : CrdtState :=
  match mutation.before with
  | some entry => entry.state
  | none => .empty mutation.crdtType

/-- The state version the mutation was applied to. -/
def priorVersion (mutation : Mutation) : VersionVector :=
  match mutation.before with
  | some entry => entry.stateVersion
  | none => ⊥

/-- What it adds to the positive component. -/
def increments (mutation : Mutation) : Nat :=
  match mutation.crdtType, mutation.request.operation with
  | .gcounter, .increment | .pncounter, .increment => mutation.request.amount
  | _, _ => 0

/-- What it adds to the negative component. -/
def decrements (mutation : Mutation) : Nat :=
  match mutation.crdtType, mutation.request.operation with
  | .pncounter, .decrement => mutation.request.amount
  | _, _ => 0

/-- The dot an add gives to its element. -/
def additions (mutation : Mutation) : PyStr → WithBot (Finset Dot) :=
  match mutation.crdtType, mutation.request.operation, mutation.request.value with
  | .orset, .add, .str element =>
      Function.update ⊥ element (({mutation.dot} : Finset Dot) : WithBot (Finset Dot))
  | _, _, _ => ⊥

/-- The dots a remove or a write puts out of sight: those of the removed element, or
those of all writes, in the state it was applied to. -/
def tombstones (mutation : Mutation) : Finset Dot :=
  match mutation.crdtType, mutation.request.operation, mutation.request.value, mutation.prior with
  | .orset, .remove, .str element, .orset set => set.dots element
  | .mvregister, .write, _, .mvregister register => register.values.keys.toFinset
  | _, _, _, _ => ∅

/-- The payload a write stores. -/
def payloads (mutation : Mutation) : Set (Dot × PyStr) :=
  match mutation.crdtType, mutation.request.operation with
  | .mvregister, .write => {(mutation.dot, mutation.request.value.dumps)}
  | _, _ => ∅

/-- What it adds to the marks. -/
def marks (mutation : Mutation) : Marks :=
  (mutation.additions, mutation.tombstones, mutation.payloads)

/-- The recorded result is what the code computes. -/
def Applies (mutation : Mutation) : Prop :=
  applyMutation mutation.actor mutation.prior mutation.request mutation.dot =
    .ok mutation.after.state

end Mutation

/-- What a list of mutations amounts to. -/
def combined (mutations : List Mutation) : Content :=
  (.ofCounts (mutations.map fun mutation => (mutation.actor, mutation.increments)),
    .ofCounts (mutations.map fun mutation => (mutation.actor, mutation.decrements)),
    (mutations.map Mutation.marks : Multiset Marks).sup)

/-- The content of a state after one more mutation. -/
def Content.extend (content : Content) (mutation : Mutation) : Content :=
  (content.positive.put mutation.actor
      (content.positive.get mutation.actor + mutation.increments),
    content.negative.put mutation.actor
      (content.negative.get mutation.actor + mutation.decrements),
    content.marks ⊔ mutation.marks)

theorem combined_nil : combined [] = ⊥ := rfl

theorem combined_concat (mutations : List Mutation) (mutation : Mutation) :
    combined (mutations ++ [mutation]) = (combined mutations).extend mutation := by
  unfold combined Content.extend
  simp only [List.map_append, List.map_cons, List.map_nil, Tally.ofCounts_concat,
    ← Multiset.coe_add, Multiset.sup_add, Multiset.coe_singleton, Multiset.sup_singleton]
  rfl

theorem ORSet.addsContent_add (set : ORSet) (element : PyStr) (dot : Dot) :
    (set.add element dot).addsContent =
      set.addsContent ⊔ Function.update ⊥ element
        (({dot} : Finset Dot) : WithBot (Finset Dot)) := by
  funext query
  change (set.adds.insert element (set.dots element ∪ {dot})).get? query =
    set.addsContent query ⊔ Function.update (⊥ : PyStr → WithBot (Finset Dot)) element _ query
  rw [SortedMap.get?_insert]
  by_cases same : element = query
  · subst same
    rw [if_pos rfl, Function.update_self]
    unfold addsContent dots
    cases set.adds.get? element with
    | none => exact congrArg some (Finset.empty_union _)
    | some dots => rfl
  · rw [if_neg same, Function.update_of_ne (Ne.symm same)]
    exact (sup_bot_eq (set.addsContent query)).symm

theorem ORSet.removed_remove (set : ORSet) (element : PyStr) :
    (set.remove element).removed = set.removed ∪ set.dots element :=
  Finset.union_sdiff_self_eq_union

theorem MVRegister.superseded_write (register : MVRegister) (value : Json) (dot : Dot) :
    (register.write value dot).superseded =
      register.superseded ∪ register.values.keys.toFinset := by
  ext other
  simp only [write, visible, Finset.mem_union, List.mem_toFinset, List.mem_filter,
    decide_eq_true_eq]
  tauto

theorem MVRegister.payloadSet_write {register : MVRegister} {dot : Dot}
    (fresh : ∀ payload, (dot, payload) ∉ register.payloadSet) (value : Json) :
    (register.write value dot).payloadSet = register.payloadSet ∪ {(dot, value.dumps)} := by
  ext ⟨other, payload⟩
  change (register.values.insert dot value.dumps).get? other = some payload ↔
    register.values.get? other = some payload ∨ (other, payload) = (dot, value.dumps)
  rw [SortedMap.get?_insert, Prod.mk.injEq]
  by_cases same : dot = other
  · subst same
    rw [if_pos rfl, Option.some_inj, eq_comm]
    exact ⟨fun written => .inr ⟨rfl, written⟩, fun either => either.elim
      (fun stored => absurd stored (fresh payload)) And.right⟩
  · rw [if_neg same]
    exact ⟨.inl, fun either => either.elim id fun written => absurd written.1.symm same⟩

/-- What an applied mutation does to the content, and the types it relates. -/
theorem Mutation.Applies.content {mutation : Mutation} (applies : mutation.Applies)
    (fresh : ∀ payload, (mutation.dot, payload) ∉ mutation.prior.content.payloads) :
    mutation.prior.crdtType = mutation.crdtType ∧
      mutation.after.state.crdtType = mutation.crdtType ∧
      mutation.after.state.content = mutation.prior.content.extend mutation := by
  have applied := applied_of_applyMutation applies
  unfold Content.extend increments decrements marks additions tombstones payloads crdtType
  generalize mutation.prior = prior at applied fresh
  generalize mutation.after.state = next at applied
  cases applied with
  | increment counter type operation | increase counter type operation
  | decrease counter type operation =>
      simp only [type, operation, Nat.add_zero, Tally.put_get]
      refine ⟨rfl, rfl, ?_⟩
      exact congrArg (Prod.mk _) (congrArg (Prod.mk _) (sup_bot_eq _).symm)
  | add set element type operation value =>
      simp only [type, operation, value, Nat.add_zero, Tally.put_get]
      refine ⟨rfl, rfl, congrArg (Prod.mk _) (congrArg (Prod.mk _) ?_)⟩
      exact Prod.ext (ORSet.addsContent_add set element mutation.dot)
        (Prod.ext (Finset.union_empty _).symm (Set.union_empty _).symm)
  | remove set element type operation value =>
      simp only [type, operation, value, Nat.add_zero, Tally.put_get]
      refine ⟨rfl, rfl, congrArg (Prod.mk _) (congrArg (Prod.mk _) ?_)⟩
      exact Prod.ext (sup_bot_eq _).symm
        (Prod.ext (ORSet.removed_remove set element) (Set.union_empty _).symm)
  | write register type operation =>
      simp only [type, operation, Nat.add_zero, Tally.put_get]
      refine ⟨rfl, rfl, congrArg (Prod.mk _) (congrArg (Prod.mk _) ?_)⟩
      exact Prod.ext (sup_bot_eq _).symm
        (Prod.ext (MVRegister.superseded_write register mutation.request.value mutation.dot)
          (MVRegister.payloadSet_write fresh _))

end Distsys
