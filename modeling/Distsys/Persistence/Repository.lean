import Distsys.Persistence.Codec
import Distsys.Storage.Store

/-!
# The durable repository

The three tables of the database: the identity of the node, the clock row and the
rows of the entries. A commit writes the clock row and one entry row in a single
transaction, so in the model it is one function. `restore` rebuilds the memory of a
node from the tables.
-/

namespace Distsys

/-- `DurableNodeIdentity`. -/
structure DurableNodeIdentity where
  configuredNodeId : NodeId
  causalIncarnation : Nat
  positive : 1 ≤ causalIncarnation

/-- `actor`. -/
def DurableNodeIdentity.actor (identity : DurableNodeIdentity) : CausalActor :=
  ⟨identity.configuredNodeId.val, identity.causalIncarnation, identity.configuredNodeId.property⟩

/-- The state of a clock, whose local counter is the component of its own actor. -/
structure DurableCausalState where
  actor : CausalActor
  localCounter : Nat
  frontier : VersionVector
  agrees : frontier.get actor = localCounter

/-- The state of the actor's clock at a frontier. -/
def DurableCausalState.at (actor : CausalActor) (frontier : VersionVector) : DurableCausalState :=
  ⟨actor, frontier.get actor, frontier, rfl⟩

/-- The row of the clock. -/
structure ClockRow where
  localCounter : Nat
  frontierJson : Json

/-- The tables. -/
structure Repository where
  identity : Option DurableNodeIdentity
  clock : Option ClockRow
  rows : SortedMap PyStr EncodedCrdtEntry

namespace Repository

/-- `_upsert_clock`. -/
def upsertClock (repository : Repository) (state : DurableCausalState) : Repository :=
  { repository with clock := some ⟨state.localCounter, encodeVersionVector state.frontier⟩ }

/-- `_upsert_entry`. -/
def upsertEntry (repository : Repository) (encoded : EncodedCrdtEntry) : Repository :=
  { repository with rows := repository.rows.insert encoded.key encoded }

/-- The transaction of `commit_mutation` and of `commit_observed_entry`. -/
def commitEntryAndClock (repository : Repository) (entry : StoredCrdtEntry)
    (state : DurableCausalState) : Repository :=
  (repository.upsertClock state).upsertEntry (encodeEntry entry)

/-- `load_clock`. -/
def loadClock (repository : Repository) : Except PyError (Option DurableCausalState) :=
  match repository.identity, repository.clock with
  | some identity, some row => do
      let frontier ← decodeVersionVector row.frontierJson
      if agrees : frontier.get identity.actor = row.localCounter then
        return some ⟨identity.actor, row.localCounter, frontier, agrees⟩
      else throw ⟨.valueError, "frontier local actor component must equal local_counter"⟩
  | _, _ => .ok none

/-- `load_entries`. -/
def loadEntries (json : JsonReader) (repository : Repository) :
    Except PyError (List StoredCrdtEntry) :=
  (repository.rows.items.map Prod.snd).mapM (decodeEntry json)

/-- The identity of the database; a new database is given one that starts now. -/
def ensureIdentity (configured : NodeId) (now : Nat) (repository : Repository) :
    Except PyError DurableNodeIdentity :=
  match repository.identity with
  | none => .ok ⟨configured, max 1 now, Nat.le_max_left _ _⟩
  | some identity =>
      if identity.configuredNodeId = configured then .ok identity
      else .error ⟨.runtimeError, "durable database belongs to a different configured node id"⟩

end Repository

/-- The memory of a restarted node, and the database as the restart leaves it. -/
structure RestoredNodeState where
  identity : DurableNodeIdentity
  causalState : DurableCausalState
  memoryStore : Store
  repository : Repository

/-- `memory.replace` for every loaded entry. -/
def restoreEntries : List StoredCrdtEntry → Store → Except PyError Store
  | [], memory => .ok memory
  | entry :: rest, memory => do
      let memory ← memory.replace entry (some entry.crdtType)
      restoreEntries rest memory

/-- `RestoreService.restore`. The clock of the restored node stands at
`causalState.frontier`. -/
def restore (json : JsonReader) (configured : NodeId) (now : Nat) (repository : Repository) :
    Except PyError RestoredNodeState := do
  let identity ← repository.ensureIdentity configured now
  let repository := { repository with identity := some identity }
  let loaded ← repository.loadClock
  let causalState := loaded.getD (.at identity.actor ⊥)
  let repository := if loaded.isSome then repository else repository.upsertClock causalState
  let entries ← repository.loadEntries json
  let mergedFrontier : VersionVector :=
    entries.foldl (fun frontier entry => frontier.merge entry.causalContext) causalState.frontier
  let moved := decide (mergedFrontier ≠ causalState.frontier)
  let causalState := if moved then .at identity.actor mergedFrontier else causalState
  let repository := if moved then repository.upsertClock causalState else repository
  let memoryStore ← restoreEntries entries .empty
  return ⟨identity, causalState, memoryStore, repository⟩

namespace Repository

/-- The tables hold these entries, and the clock of this actor at this frontier. -/
structure Holds (repository : Repository) (identity : DurableNodeIdentity) (disk : Store)
    (frontier : VersionVector) : Prop where
  named : repository.identity = some identity
  rows : repository.rows = disk.entries.mapValues encodeEntry
  clock : repository.clock =
    some ⟨frontier.get identity.actor, encodeVersionVector frontier⟩

theorem Holds.commit {repository : Repository} {identity : DurableNodeIdentity} {disk : Store}
    {frontier : VersionVector} (holds : repository.Holds identity disk frontier)
    (entry : StoredCrdtEntry) (next : VersionVector) :
    (repository.commitEntryAndClock entry (.at identity.actor next)).Holds identity
      (disk.put entry) next := by
  refine ⟨holds.named, ?_, rfl⟩
  refine SortedMap.ext_get? fun key => ?_
  change (repository.rows.insert entry.key (encodeEntry entry)).get? key = _
  rw [holds.rows, SortedMap.get?_insert, SortedMap.get?_mapValues, SortedMap.get?_mapValues]
  change _ = ((disk.entries.insert entry.key entry).get? key).map encodeEntry
  rw [SortedMap.get?_insert]
  split <;> rfl

end Repository

theorem restoreEntries_eq {entries : List StoredCrdtEntry} {memory : Store}
    (nodup : (entries.map StoredCrdtEntry.key).Nodup)
    (apart : ∀ entry ∈ entries, memory.get entry.key = none) :
    restoreEntries entries memory = .ok (entries.foldl Store.put memory) := by
  induction entries generalizing memory with
  | nil => rfl
  | cons entry rest ih =>
      obtain ⟨fresh, nodup⟩ := List.nodup_cons.mp nodup
      obtain ⟨absent, apart⟩ := List.forall_mem_cons.mp apart
      unfold restoreEntries
      rw [Store.replace, absent]
      refine ih nodup fun other member => ?_
      rw [Store.get_put_of_ne]
      · exact apart other member
      · intro same
        exact fresh (List.mem_map.mpr ⟨other, member, same.symm⟩)

theorem foldl_put_entries (entries : List StoredCrdtEntry) (memory : Store) :
    (entries.foldl Store.put memory).entries =
      (entries.map fun entry => (entry.key, entry)).foldl
        (fun map item => map.insert item.1 item.2) memory.entries := by
  induction entries generalizing memory with
  | nil => rfl
  | cons entry rest ih => exact ih (memory.put entry)

theorem items_eq_snapshotAll (store : Store) :
    store.entries.items = store.snapshotAll.map fun entry => (entry.key, entry) := by
  unfold Store.snapshotAll
  rw [List.map_map]
  refine (List.map_id _).symm.trans (List.map_congr_left fun item listed => ?_)
  have key := store.keyed item.1 item.2 (SortedMap.mem_items_iff.mp listed)
  exact Prod.ext key.symm rfl

theorem restoreEntries_snapshotAll (disk : Store) :
    restoreEntries disk.snapshotAll .empty = .ok disk := by
  have keys : disk.snapshotAll.map StoredCrdtEntry.key = disk.entries.keys := by
    rw [SortedMap.keys, items_eq_snapshotAll, List.map_map]
    rfl
  rw [restoreEntries_eq (keys ▸ disk.entries.nodup_keys) fun _ _ => rfl]
  refine congrArg Except.ok (Store.ext_get fun key => ?_)
  unfold Store.get
  rw [foldl_put_entries, ← items_eq_snapshotAll]
  exact congrArg (fun map => SortedMap.get? map key) (SortedMap.ofList_items disk.entries)

theorem foldl_merge_eq_self {entries : List StoredCrdtEntry} {frontier : VersionVector}
    (below : ∀ entry ∈ entries, entry.causalContext ≤ frontier) :
    entries.foldl (fun frontier entry => frontier.merge entry.causalContext) frontier =
      frontier := by
  induction entries with
  | nil => rfl
  | cons entry rest ih =>
      obtain ⟨first, below⟩ := List.forall_mem_cons.mp below
      rw [List.foldl_cons, Tally.merge_eq_sup, sup_eq_left.mpr first]
      exact ih below

/-- A restart from tables whose clock dominates their entries gives back those entries
and that clock, and leaves the tables as they are. -/
theorem restore_eq {json : JsonReader} {repository : Repository} {identity : DurableNodeIdentity}
    {disk : Store} {frontier : VersionVector}
    (holds : repository.Holds identity disk frontier)
    (readable : ∀ entry ∈ disk.snapshotAll, entry.state.Readable json)
    (below : ∀ entry ∈ disk.snapshotAll, entry.causalContext ≤ frontier) (now : Nat) :
    restore json identity.configuredNodeId now repository =
      .ok ⟨identity, .at identity.actor frontier, disk, repository⟩ := by
  have clock : repository.loadClock = .ok (some (.at identity.actor frontier)) := by
    unfold Repository.loadClock
    simp only [holds.named, holds.clock, decodeVersionVector_encodeVersionVector, Codec.ok_bind]
    rfl
  have entries : repository.loadEntries json = .ok disk.snapshotAll := by
    unfold Repository.loadEntries
    have rows : repository.rows.items.map Prod.snd = disk.snapshotAll.map encodeEntry := by
      rw [holds.rows]
      change (disk.entries.items.map _).map Prod.snd =
        (disk.entries.items.map Prod.snd).map encodeEntry
      rw [List.map_map, List.map_map]
      rfl
    rw [rows]
    exact Codec.mapM_map fun entry listed => decodeEntry_encodeEntry (readable entry listed)
  have same : { repository with identity := some identity } = repository := by
    rw [← holds.named]
  unfold restore Repository.ensureIdentity
  simp only [holds.named, ↓reduceIte, Codec.ok_bind, same, clock, Option.getD_some,
    Option.isSome_some, entries, DurableCausalState.at, foldl_merge_eq_self below, ne_eq,
    not_true_eq_false, decide_false, Bool.false_eq_true, restoreEntries_snapshotAll]
  rfl

namespace Repository

/-- The frontier in the clock row. -/
def frontier (repository : Repository) : VersionVector :=
  match repository.clock with
  | none => ⊥
  | some row =>
      match decodeVersionVector row.frontierJson with
      | .ok frontier => frontier
      | .error _ => ⊥

/-- The entry in the row of a key. -/
def entry (json : JsonReader) (repository : Repository) (key : PyStr) : Option StoredCrdtEntry :=
  match repository.rows.get? key with
  | none => none
  | some row => (decodeEntry json row).toOption

/-- The tables hold readable entries and the clock of the identity. -/
def Consistent (json : JsonReader) (identity : DurableNodeIdentity) (repository : Repository) :
    Prop :=
  ∃ disk : Store, repository.Holds identity disk repository.frontier ∧
    (∀ key, repository.entry json key = disk.get key) ∧
    ∀ entry ∈ disk.snapshotAll, entry.state.Readable json

variable {json : JsonReader} {identity : DurableNodeIdentity} {repository : Repository}

@[simp] theorem frontier_commit (repository : Repository) (entry : StoredCrdtEntry)
    (state : DurableCausalState) :
    (repository.commitEntryAndClock entry state).frontier = state.frontier := by
  unfold frontier commitEntryAndClock upsertEntry upsertClock
  simp only [decodeVersionVector_encodeVersionVector]

theorem entry_commit (repository : Repository) {entry : StoredCrdtEntry}
    (readable : entry.state.Readable json) (state : DurableCausalState) (key : PyStr) :
    (repository.commitEntryAndClock entry state).entry json key =
      if entry.key = key then some entry else repository.entry json key := by
  change (match (repository.rows.insert entry.key (encodeEntry entry)).get? key with
    | none => none
    | some row => (decodeEntry json row).toOption) = _
  by_cases same : entry.key = key
  · rw [SortedMap.get?_insert, if_pos same, if_pos same]
    simp only [decodeEntry_encodeEntry readable]
    rfl
  · rw [SortedMap.get?_insert, if_neg same, if_neg same]
    rfl

theorem Consistent.commit (consistent : repository.Consistent json identity)
    {entry : StoredCrdtEntry} (readable : entry.state.Readable json) (next : VersionVector) :
    (repository.commitEntryAndClock entry (.at identity.actor next)).Consistent json identity := by
  obtain ⟨disk, holds, entries, readables⟩ := consistent
  refine ⟨disk.put entry, ?_, fun key => ?_, fun other listed => ?_⟩
  · rw [frontier_commit]
    exact holds.commit entry next
  · rw [entry_commit repository readable, Store.get_put, entries]
  · have found := Store.mem_snapshotAll.mp listed
    rw [Store.get_put] at found
    split at found
    · cases found
      exact readable
    · exact readables other (Store.mem_snapshotAll.mpr found)

theorem Consistent.readable (consistent : repository.Consistent json identity) {key : PyStr}
    {entry : StoredCrdtEntry} (found : repository.entry json key = some entry) :
    entry.state.Readable json := by
  obtain ⟨disk, _, entries, readables⟩ := consistent
  have stored := (entries key).symm.trans found
  refine readables entry (Store.mem_snapshotAll.mpr ?_)
  rw [Store.key_of_get stored]
  exact stored

/-- A restart gives back the entries in the rows and the clock in its row. -/
theorem Consistent.restore (consistent : repository.Consistent json identity)
    (below : ∀ key entry, repository.entry json key = some entry →
      entry.causalContext ≤ repository.frontier) (now : Nat) :
    ∃ memory : Store, (∀ key, memory.get key = repository.entry json key) ∧
      restore json identity.configuredNodeId now repository =
        .ok ⟨identity, .at identity.actor repository.frontier, memory, repository⟩ := by
  obtain ⟨disk, holds, entries, readables⟩ := consistent
  refine ⟨disk, fun key => (entries key).symm, restore_eq holds readables ?_ now⟩
  intro entry listed
  exact below entry.key entry ((entries _).trans (Store.mem_snapshotAll.mp listed))

end Repository

end Distsys
