import Distsys.Guarantees.Isolation

/-!
# What recovery brings up to date

`RecoveryReconciler.reconcile` contacts its peers one after the other. The version of a
key afterwards is the join of the version before with those of the peers whose answer
lists the key, and an answer lists the first keys that the peer shares, as many as this
node has sent.
-/

namespace Distsys

variable {deployment : Deployment} {environment : Environment} {id peer : NodeId} {world : World}
  {stores left : NodeId → Store} {keys : List PyStr} {key : PyStr} {refused : Prop} {store : Store}
  {count contacted total : Nat} {digests answers : List CrdtDigestEntry} {mine : StoredCrdtEntry}
  {peers : List NodeId} {final : World}

/-- The keys and versions that a peer answers with, when it is sent the digest of so many
keys. -/
def Environment.window (environment : Environment) (id peer : NodeId) (size : Nat) (store : Store) :
    List (PyStr × VersionVector) :=
  (environment.index id peer store).take (max 1 size)

/-- The selected keys are held and shared, in key order. -/
structure Selected (environment : Environment) (id peer : NodeId) (keys : List PyStr)
    (store : Store) :
    Prop where
  sorted : keys.Pairwise (· < ·)
  shares : ∀ key ∈ keys, environment.Shares id peer key
  held : ∀ key ∈ keys, ∃ entry, store.get key = some entry

section Turn

variable {current remote : Option CrdtDigestEntry} {relation : DigestRelation} {repaired : Bool}
  {mine : StoredCrdtEntry}

end Turn

/-- The keys of this node that are relevant to a peer. -/
def Environment.relevant (environment : Environment) (id peer : NodeId) (keys : List PyStr) :
    List PyStr :=
  keys.filter fun key => environment.Shares id peer key

theorem Environment.mem_relevant :
    key ∈ environment.relevant id peer keys ↔ key ∈ keys ∧ environment.Shares id peer key := by
  unfold relevant
  rw [List.mem_filter, decide_eq_true_iff]

/-- The keys that this node held when it started. -/
structure Checked (keys : List PyStr) (store : Store) : Prop where
  sorted : keys.Pairwise (· < ·)
  held : ∀ key ∈ keys, ∃ entry, store.get key = some entry

theorem Checked.selected (checked : Checked keys store) (peer : NodeId) :
    Selected environment id peer (environment.relevant id peer keys) store where
  sorted := checked.sorted.sublist List.filter_sublist
  shares _ listed := (Environment.mem_relevant.mp listed).2
  held key listed := checked.held key (Environment.mem_relevant.mp listed).1

section Loop

variable (deployment : Deployment) (environment : Environment) (id : NodeId) (keys : List PyStr)

/-- The first loop of `reconcile` as a list. -/
def owned : List (PyStr × List NodeId) :=
  (keys.filter fun key => id ∈ environment.replicas key).map fun key =>
    (key, environment.replicas key)

end Loop

/-- A counter that east has incremented twice. -/
def countedTwice (letter : CodePoint) : StoredCrdtEntry :=
  let version := VersionVector.ofItems [(.letter 101 0, 2)]
  .ofLetter letter (.gcounter ⟨version⟩) version version

/-- East has lost its second increment of a counter, and west holds it with these other
entries. -/
def behind (others : Store) : World :=
  pair.stocked fun id =>
    if id = east then Store.empty.put (countedOnce 98)
    else others.put (countedTwice 98)

end Distsys
