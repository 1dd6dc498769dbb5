import Distsys.Guarantees.Cancellation
import Distsys.Node.Recorded

/-!
# No lost update

Whatever mutations, merges and merges of metadata run on a node, in any interleaving, the entry
of a key only grows: its type stays, its versions, counters, added dots and tombstones contain
those of every entry that it has replaced, of every entry whose merge has finished and of every
mutation that was committed. A register payload stays if the context of its entry covers its
dot. A write replaces the payload of its own dot, and a dot that no context covers can be given
out again.
-/

namespace Distsys

namespace StoredCrdtEntry

/-- The context of the entry covers the dot of every register payload. -/
def accounts (entry : StoredCrdtEntry) : Bool :=
  match entry.state with
  | .mvregister register =>
      register.values.items.all fun item => decide (entry.causalContext.Covers item.1)
  | _ => true

/-- The later entry of the key retains the earlier one, and absorbs its state if the context of
the earlier one accounts for its payloads. -/
structure Absorbed (old entry : StoredCrdtEntry) : Prop where
  retained : old.Retained entry
  state : old.accounts = true → entry.state.merge old.state = .ok entry.state

end StoredCrdtEntry

namespace CrdtState

/-- A state has one payload for a dot. -/
theorem payload_unique {state : CrdtState} {dot : Dot} {first second : PyStr}
    (one : (dot, first) ∈ state.content.payloads) (other : (dot, second) ∈ state.content.payloads) :
    first = second := by
  cases state with
  | gcounter | pncounter | orset => exact absurd one (Set.notMem_empty _)
  | mvregister register => exact Option.some.inj (one.symm.trans other)

/-- A state absorbs every state of its type whose content it has. -/
theorem merge_of_le {old state : CrdtState} (types : state.crdtType = old.crdtType)
    (below : old.content ≤ state.content) : state.merge old = .ok state := by
  have compatible : state.content.Compatible old.content := fun dot first second one other =>
    payload_unique one (below.2.2.2.2 other)
  obtain ⟨merged, result⟩ := merge_succeeds types compatible
  obtain ⟨_, kind, contents⟩ := merge_content result
  rw [sup_eq_left.mpr below] at contents
  rw [result, eq_of_content kind contents]

end CrdtState

/-- An entry absorbs the state of every entry that it contains. -/
theorem StoredCrdtEntry.Grown.merge_state {old entry : StoredCrdtEntry} (grown : old.Grown entry) :
    entry.state.merge old.state = .ok entry.state :=
  CrdtState.merge_of_le grown.crdtType grown.content

/-- The test of the payloads is the property. -/
theorem StoredCrdtEntry.accounted_of_accounts {entry : StoredCrdtEntry}
    (accounts : entry.accounts = true) : entry.Accounted := by
  intro dot payload stored
  unfold StoredCrdtEntry.accounts at accounts
  split at accounts
  · next register same =>
    rw [same] at stored
    have listed := SortedMap.mem_items_iff.mpr stored
    exact of_decide_eq_true (List.all_eq_true.mp accounts _ listed)
  · next other =>
    cases same : entry.state with
    | gcounter | pncounter | orset =>
        rw [same] at stored
        exact absurd stored (Set.notMem_empty _)
    | mvregister register => exact absurd same (other register)

/-- What is retained is absorbed. -/
theorem StoredCrdtEntry.Retained.absorbed {old entry : StoredCrdtEntry}
    (retained : old.Retained entry) : old.Absorbed entry :=
  ⟨retained, fun accounts => (retained.grown (accounted_of_accounts accounts)).merge_state⟩

section Continues

variable {deployment : Deployment} {id : NodeId}
  {system next : NodeSystem} {watch later : Watch} {label : NodeLabel}

/-- What a later state keeps of the node, as it was at some point of the run. -/
structure Continues (deployment : Deployment) (id : NodeId) (start system : NodeSystem)
    (watch : Watch) : Prop where
  recorded : Recorded deployment id system watch
  grows : start.Grows id system
  entered : ∀ mutation ∈ start.world.ledger.history, system.Retains id mutation.after ∨
    Underway deployment id system watch mutation ∧
      (system.world.nodes id).store.get mutation.key = (start.world.nodes id).store.get mutation.key

/-- Every state continues itself. -/
theorem Recorded.continues (recorded : Recorded deployment id system watch) :
    Continues deployment id system system watch :=
  ⟨recorded, .of_store rfl, fun mutation member =>
    (recorded.entered mutation member).2.imp_right fun underway => ⟨underway, rfl⟩⟩

/-- Every step continues the node. -/
theorem Continues.moves {start : NodeSystem}
    (continues : Continues deployment id start system watch)
    (watched : Watched deployment id system watch)
    (moves : Moves deployment id label system watch next later) :
    Continues deployment id start next later := by
  have grows := watched.grows moves
  refine ⟨continues.recorded.moves watched moves, continues.grows.trans grows,
    fun mutation member => ?_⟩
  rcases continues.entered mutation member with retained | ⟨underway, same⟩
  · exact .inl (retained.grows grows)
  · refine (underway.moves watched continues.recorded moves).imp_right ?_
    exact fun kept => ⟨kept.1, kept.2.trans same⟩

end Continues

/-- What a call of the store that has finished has brought into the entry. -/
def Errand.Brings (entry : StoredCrdtEntry) : Errand → Prop
  | .merge incoming => incoming.Absorbed entry
  | .metadata key causalContext => entry.key = key ∧ causalContext ≤ entry.causalContext
  | _ => True

section Results

variable {deployment : Deployment} {id : NodeId} {system last : NodeSystem}

/-- What the store retains is absorbed by the entry in it. -/
theorem NodeSystem.Retains.absorbed {entry : StoredCrdtEntry} (retains : last.Retains id entry) :
    ∃ stored, (last.world.nodes id).store.get entry.key = some stored ∧ entry.Absorbed stored := by
  obtain ⟨stored, found, retained⟩ := retains
  exact ⟨stored, found, retained.absorbed⟩

/-- What a call of the store has left in an entry is in every one that retains it. -/
theorem Errand.Leaves.brings {errand : Errand} {entry stored : StoredCrdtEntry}
    (leaves : errand.Leaves entry) (retained : entry.Retained stored) : errand.Brings stored := by
  cases errand with
  | merge incoming => exact (leaves.retained.trans retained).absorbed
  | metadata key causalContext =>
      exact ⟨retained.key.trans leaves.1, leaves.2.trans retained.causalContext⟩
  | message | commit | replicator | antiEntropy | recovery => exact trivial

end Results

end Distsys
