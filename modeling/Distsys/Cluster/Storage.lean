import Distsys.Cluster.Writing

/-!
# Safety of the clock and of the stores

What the coroutines of `CausalClock`, `CrdtStore` and `DurableCrdtStore` leave
behind, in terms that stay true as the cluster goes on.
-/

namespace Distsys

variable {vector : VersionVector} {entry : StoredCrdtEntry} {key : PyStr}

section Lasting

variable (deployment : Deployment) (discipline : Discipline) (id : NodeId)

/-- The clock in the tables of a durable node has taken the vector in. -/
def World.Absorbed (vector : VersionVector) (world : World) : Prop :=
  deployment.durable id = true → vector ≤ (world.nodes id).repository.frontier

/-- The node has the entry or more of its key. -/
structure World.Stores (entry : StoredCrdtEntry) (world : World) : Prop where
  sound : entry.Sound deployment.json discipline world.past
  version : entry.stateVersion ≤ (world.nodes id).version entry.key
  absorbed : world.Absorbed deployment id entry.causalContext

/-- The node may answer for the vector: it is known, and what the node stores under
the key backs it. -/
structure World.Vouched (key : PyStr) (vector : VersionVector) (world : World) : Prop where
  known : world.past.Knows vector
  backs : world.past.Backs discipline key ((world.nodes id).version key) vector

end Lasting

section Progress

variable {deployment : Deployment} {discipline : Discipline} {id : NodeId} {before after : World}

theorem World.Absorbed.later (absorbed : before.Absorbed deployment id vector)
    (moved : World.Progress id before after) : after.Absorbed deployment id vector :=
  fun durable => (absorbed durable).trans moved.disk

theorem World.Stores.later (stores : before.Stores deployment discipline id entry)
    (moved : World.Progress id before after) : after.Stores deployment discipline id entry :=
  ⟨stores.sound.grows moved.past, stores.version.trans (moved.version _),
    stores.absorbed.later moved⟩

theorem World.Vouched.later (vouched : before.Vouched discipline id key vector)
    (moved : World.Progress id before after) :
    after.Vouched discipline id key vector :=
  ⟨vouched.known.grows moved.past,
    (vouched.backs.grows vouched.known moved.past).mono (moved.version key) le_rfl⟩

theorem World.Vouched.sup {left right : VersionVector}
    (first : before.Vouched discipline id key left)
    (second : before.Vouched discipline id key right) :
    before.Vouched discipline id key (left ⊔ right) :=
  ⟨first.known.sup second.known, first.backs.sup second.backs⟩

/-- A node may answer for the context of an entry that it has. -/
theorem World.Stores.vouched (stores : before.Stores deployment discipline id entry) :
    before.Vouched discipline id entry.key entry.causalContext :=
  ⟨stores.sound.context, stores.sound.backed.mono stores.version le_rfl⟩

/-- Every stored entry is one that the node has. -/
theorem World.Inv.stores (inv : World.Inv deployment discipline before)
    (found : (before.nodes id).store.get key = some entry) :
    before.Stores deployment discipline id entry := by
  refine ⟨(inv.nodes id).entries key entry found, ?_, fun durable =>
    (inv.durable id durable).memory key entry found⟩
  rw [Node.version, Store.key_of_get found, found]
  exact le_rfl

end Progress

variable {deployment : Deployment} {discipline : Discipline} {thread : Thread} {α β : Type}
  {good : α → World → Prop} {bad : PyError → World → Prop} {world : World} {id : NodeId}
  {incoming : StoredCrdtEntry} {context : VersionVector}

/-- The clock of a node never counts more than the node has committed. -/
theorem World.Inv.counted_sup (inv : World.Inv deployment discipline world)
    (unclocked : world.ledger.unclocked id = none) (known : world.past.Knows vector)
    (honest : world.past.honest = true) :
    ((world.nodes id).frontier ⊔ vector).get (deployment.actor id) =
      world.past.history.count (deployment.actor id) := by
  rw [Tally.get_sup, (inv.nodes id).counted honest unclocked]
  exact Nat.max_eq_left ((known honest).2 _)

theorem yields_clockFrontier :
    Yields deployment discipline thread
      (fun frontier later => later.past.Knows frontier ∧
        later.Absorbed deployment thread.node frontier) CausalClock.frontier world := by
  have lasts : ∀ (frontier : VersionVector) (now later : World),
      World.Progress thread.node now later →
      now.past.Knows frontier ∧ now.Absorbed deployment thread.node frontier →
      later.past.Knows frontier ∧ later.Absorbed deployment thread.node frontier :=
    fun _ _ _ moved both => ⟨both.1.grows moved.past, both.2.later moved⟩
  refine yields_of_safe (safe_withClock (World.lasting_const True) trivial
    (fun frontier => .of_progress (lasts frontier _ _)) (fun _ => World.lasting_const False)
    fun now _ _ _ held => ?_) lasts
  change SafeCode deployment discipline thread _ _ (perform .readFrontier >>= pure) now
  refine safe_readFrontier fun read inv rely later _ further => ?_
  have settled := (held.rely rely).settled
  exact ⟨(held.rely rely).rely further, lasts _ _ _ further.progress
    ⟨(inv.nodes thread.node).frontier, fun durable => (settled.frontier durable).le⟩⟩

/-- Observing a vector that the tables have taken in leaves the clock where it is. -/
theorem yields_observe (known : world.past.Knows vector)
    (absorbed : world.Absorbed deployment thread.node vector) :
    Harmless deployment discipline thread (CausalClock.observe vector) world := by
  have lasting : World.Lasting deployment thread fun later =>
      later.past.Knows vector ∧ later.Absorbed deployment thread.node vector :=
    .of_progress fun moved both => ⟨both.1.grows moved.past, both.2.later moved⟩
  refine yields_of_safe (safe_withClock lasting ⟨known, absorbed⟩
    (fun _ => World.lasting_const True) (fun _ => World.lasting_const False)
    fun now _ _ facts held => ?_) fun _ _ _ _ => id
  refine safe_readFrontier fun read _ rely => ?_
  replace facts := lasting.rely rely facts
  replace held := held.rely rely
  refine safe_setFrontier fun set inv rely => ?_
  have unmoved := (rely.clock held.holder).frontier
  replace facts := lasting.rely rely facts
  replace held := held.rely rely
  rw [← unmoved, Tally.merge_eq_sup]
  refine ⟨held.holder, (inv.nodes thread.node).frontier.sup facts.1, fun durable => ?_,
    inv.counted_sup held.settled.unclocked facts.1, fun _ mutation _ waits => ?_, ?_⟩
  · rw [held.settled.frontier durable]
    exact sup_eq_left.mpr (facts.2 durable)
  · cases held.settled.unclocked.symm.trans waits
  · rintro after rfl _ later _ further
    refine ⟨World.ClockHeld.rely ⟨?_, Function.update_self .., fun durable => ?_⟩ further, trivial⟩
    · rw [World.nodes_atNode_self]
      exact held.holder
    · rw [World.nodes_atNode_self, World.nodes_settle]
      refine (sup_eq_left.mpr ?_).trans (held.settled.frontier durable)
      rw [held.settled.frontier durable]
      exact facts.2 durable

section Store

variable {entry : StoredCrdtEntry} {existing : Option StoredCrdtEntry}

/-- Under the lock of its key, the entry may take the place of the existing one. -/
structure World.Storable (deployment : Deployment) (discipline : Discipline) (thread : Thread)
    (entry : StoredCrdtEntry) (existing : Option StoredCrdtEntry) (world : World) : Prop where
  held : world.KeyHeld deployment thread entry.key
  stored : (world.nodes thread.node).store.get entry.key = existing
  sound : entry.Sound deployment.json discipline world.past
  types : ∀ found, existing = some found → found.crdtType = entry.crdtType
  above : existing.elim ⊥ (·.stateVersion) ≤ entry.stateVersion

/-- An entry is stored in memory only. -/
theorem safe_replaceMemory {expectedType : Option CrdtType}
    (storable : world.Storable deployment discipline thread entry existing)
    (expected : ∀ crdtType, expectedType = some crdtType → crdtType = entry.crdtType)
    (memory : deployment.durable thread.node = false) :
    SafeCode deployment discipline thread
      (fun result later => later.KeyHeld deployment thread entry.key ∧ result = entry ∧
        later.Stores deployment discipline thread.node entry)
      (fun _ _ => False) (CrdtStore.replace entry expectedType) world := by
  obtain ⟨held, stored, sound, types, above⟩ := storable
  refine safe_replace fun now inv rely => ?_
  have kept := (rely.key entry.key held.holder).stored.trans stored
  refine ⟨sound.grows rely.progress.past, ⟨(held.rely rely).holder, expected, ?_, ?_, ?_⟩, ?_⟩
  · intro found lookup
    exact types found (kept.symm.trans lookup)
  · rw [Node.version, kept]
    exact above
  · exact fun durable => absurd (memory.symm.trans durable) Bool.false_ne_true
  · rintro after rfl reached later _ further
    have lookup : ((now.atNode thread.node (·.put entry)).nodes thread.node).store.get entry.key =
        some entry := by
      rw [World.nodes_atNode_self]
      exact Store.get_put_self _ entry
    refine ⟨World.KeyHeld.rely ⟨?_,
      fun durable => absurd (memory.symm.trans durable) Bool.false_ne_true⟩ further, rfl,
      (reached.stores lookup).later further.progress⟩
    rw [World.nodes_atNode_self]
    exact (held.rely rely).holder

/-- An entry is stored in the tables and then in memory, and the clock takes its
context in. -/
theorem safe_storeDurable (wrap : StoredCrdtEntry → β)
    (storable : world.Storable deployment discipline thread entry existing)
    (durable : deployment.durable thread.node = true) :
    SafeCode deployment discipline thread
      (fun value later => later.KeyHeld deployment thread entry.key ∧ value = wrap entry ∧
        later.Stores deployment discipline thread.node entry)
      (fun _ later => later.KeyHeld deployment thread entry.key)
      (CausalClock.stagedObserve entry.causalContext fun frontier => do
        let result ← DurableCrdtStore.commitThenReplace entry
          (.at (deployment.actor thread.node) frontier) entry.crdtType
        return (wrap result, true)) world := by
  obtain ⟨held, stored, sound, types, above⟩ := storable
  have storesLasting : World.Lasting deployment thread fun later =>
      later.Stores deployment discipline thread.node entry :=
    .of_progress fun moved stores => stores.later moved
  have soundLasting : World.Lasting deployment thread fun later =>
      entry.Sound deployment.json discipline later.past :=
    .of_progress fun moved sound => sound.grows moved.past
  refine safe_withClock ((World.lasting_keyHeld entry.key existing).and soundLasting)
    ⟨⟨held, stored⟩, sound⟩
    (fun value => (World.lasting_held _).and ((World.lasting_const _).and storesLasting))
    (fun _ => World.lasting_held _) fun now _ _ facts clock => ?_
  obtain ⟨⟨held, stored⟩, sound⟩ := facts
  refine safe_readFrontier fun read inv rely => ?_
  replace stored := (rely.key entry.key held.holder).stored.trans stored
  replace sound := sound.grows rely.progress.past
  have known := (inv.nodes thread.node).frontier
  generalize unread : (read.nodes thread.node).frontier = current at known
  obtain ⟨row, disk, count, locked, agree⟩ :=
    World.Locked.of_held (held.rely rely) (clock.rely rely) stored unread
  obtain ⟨rfl, rfl⟩ := agree durable
  rw [Tally.merge_eq_sup]
  refine safe_commitRows fun commit _ rely => ?_
  replace locked := locked.rely rely
  replace sound := sound.grows rely.progress.past
  replace known := known.grows rely.progress.past
  refine ⟨⟨locked.keyHolder, locked.clockHolder, sound.readable, ?_, le_sup_right,
    locked.disk.trans_le le_sup_left⟩, ?_, ?_⟩
  · intro found lookup
    cases locked.row.symm.trans lookup
    exact above
  · intro error later _ further
    exact ⟨(locked.clockHeld fun _ => rfl).rely further, (locked.keyHeld fun _ => rfl).rely further⟩
  rintro after rfl _
  replace locked := locked.commitRows sound.readable (disk ⊔ entry.causalContext)
  refine safe_replace fun put _ rely => ?_
  replace locked := locked.rely rely
  replace sound := sound.grows rely.progress.past
  replace known := known.grows rely.progress.past
  refine ⟨sound, ⟨locked.keyHolder, ?_, ?_, ?_,
    fun _ => le_sup_right.trans_eq locked.disk.symm⟩, ?_⟩
  · rintro crdtType ⟨⟩
    rfl
  · exact fun found lookup => types found (locked.stored.symm.trans lookup)
  · exact locked.version.trans_le above
  rintro after rfl _
  replace locked := locked.put
  refine safe_setFrontier fun set inv rely => ?_
  have counted := inv.counted_sup (locked.rely rely).unclocked
    (sound.context.grows rely.progress.past)
  rw [(locked.rely rely).frontier] at counted
  replace locked := locked.rely rely
  refine ⟨locked.clockHolder, (known.sup sound.context).grows rely.progress.past,
    fun _ => locked.disk.symm, counted, fun _ mutation _ waits => ?_, ?_⟩
  · cases locked.unclocked.symm.trans waits
  · rintro after rfl _ later invLater further
    have final := locked.setFrontier.rely further
    exact ⟨final.clockHeld fun _ => rfl, final.keyHeld fun _ => rfl, rfl,
      invLater.stores final.stored⟩

/-- An entry is stored, in the way of the store of the node. -/
theorem safe_storeEntry {expectedType : Option CrdtType} (wrap : StoredCrdtEntry → β)
    (inv : World.Inv deployment discipline world)
    (storable : world.Storable deployment discipline thread entry existing)
    (expected : ∀ crdtType, expectedType = some crdtType → crdtType = entry.crdtType) :
    SafeCode deployment discipline thread
      (fun value later => later.KeyHeld deployment thread entry.key ∧ value = wrap entry ∧
        later.Stores deployment discipline thread.node entry)
      (fun _ later => later.KeyHeld deployment thread entry.key)
      (storeEntry deployment thread.node expectedType wrap entry) world := by
  unfold storeEntry
  split
  · next durable => exact safe_storeDurable wrap storable durable
  · next memory =>
    refine Prog.Safe.bind (safe_replaceMemory storable expected (Bool.eq_false_iff.mpr memory)) inv
      ?_ fun _ _ _ _ => False.elim
    rintro _ later _ _ ⟨held, rfl, stores⟩ final _ further
    exact ⟨held.rely further, rfl, stores.later further.progress⟩

end Store

/-- What is stored after a merge under the lock of the key of the incoming entry. -/
def World.Merges (deployment : Deployment) (discipline : Discipline) (thread : Thread)
    (incoming merged : StoredCrdtEntry) (world : World) : Prop :=
  world.Stores deployment discipline thread.node merged ∧ merged.key = incoming.key ∧
    incoming.stateVersion ≤ merged.stateVersion

/-- Merging a sound entry leaves a sound entry that has it. -/
theorem yields_mergeEntry (sound : incoming.Sound deployment.json discipline world.past) :
    Yields deployment discipline thread
      (fun merged later => later.Merges deployment discipline thread incoming merged)
      (mergeEntry deployment thread.node incoming) world := by
  have lasts : ∀ merged (now later : World), World.Progress thread.node now later →
      now.Merges deployment discipline thread incoming merged →
      later.Merges deployment discipline thread incoming merged :=
    fun _ _ _ moved merges => ⟨merges.1.later moved, merges.2⟩
  rw [mergeEntry_eq]
  refine yields_of_safe (safe_withKeyLock lasts (fun _ _ _ _ => (id : True → True))
    fun now _ moved held => safe_get fun read inv rely => ?_) lasts
  replace held := held.rely rely
  replace sound := sound.grows (moved.past.trans rely.progress.past)
  generalize found : (read.nodes thread.node).store.get incoming.key = copy
  cases joined : copy.elim (.ok incoming) (·.merge incoming) with
  | error error => exact fun later _ rely => ⟨held.rely rely, trivial⟩
  | ok merged =>
      have facts : merged.key = incoming.key ∧ incoming.stateVersion ≤ merged.stateVersion ∧
          merged.Sound deployment.json discipline read.past ∧
          (∀ existing, copy = some existing → existing.crdtType = merged.crdtType) ∧
          copy.elim ⊥ (·.stateVersion) ≤ merged.stateVersion := by
        cases copy with
        | none =>
            cases joined
            exact ⟨rfl, le_rfl, sound, nofun, bot_le⟩
        | some existing =>
            have merges := StoredCrdtEntry.merged_of_merge joined
            refine ⟨merges.key.trans merges.keys, le_sup_right.trans_eq merges.stateVersion.symm,
              ((inv.nodes thread.node).entries _ existing found).merge sound merges, ?_,
              le_sup_left.trans_eq merges.stateVersion.symm⟩
            rintro _ ⟨⟩
            exact merges.crdtType.symm
      obtain ⟨key, above, whole, types, grown⟩ := facts
      rw [← key] at found held
      refine (safe_storeEntry _ inv ⟨held, found, whole, types, grown⟩ ?_).weaken ?_ ?_
      · intro crdtType is
        obtain ⟨existing, there, rfl⟩ := Option.map_eq_some_iff.mp is
        exact types existing there
      · rintro result later _ _ ⟨held, rfl, stores⟩
        exact ⟨key ▸ held, stores, key, above⟩
      · exact fun _ _ _ _ held => ⟨key ▸ held, trivial⟩

/-- Entries may take in a context that the node may answer for. -/
theorem World.Inv.withContext (inv : World.Inv deployment discipline world)
    (vouched : world.Vouched discipline id key context)
    (found : (world.nodes id).store.get key = some entry) :
    (entry.withContext (entry.causalContext.merge context)).Sound deployment.json discipline
      world.past := by
  refine ((inv.nodes id).entries key entry found).withContext vouched.known ?_
  have backs := vouched.backs
  rw [Node.version, found] at backs
  rw [Store.key_of_get found]
  exact backs

/-- Merging a context that the node may answer for. -/
theorem yields_mergeMetadata (vouched : world.Vouched discipline thread.node key context) :
    Yields deployment discipline thread
      (fun result later => ∀ updated, result = some updated →
        later.Stores deployment discipline thread.node updated ∧ updated.key = key)
      (mergeMetadata deployment thread.node key context) world := by
  have lasts : ∀ (result : Option StoredCrdtEntry) (now later : World),
      World.Progress thread.node now later →
      (∀ updated, result = some updated →
        now.Stores deployment discipline thread.node updated ∧ updated.key = key) →
      ∀ updated, result = some updated →
        later.Stores deployment discipline thread.node updated ∧ updated.key = key :=
    fun _ _ _ moved stores updated is =>
      ⟨(stores updated is).1.later moved, (stores updated is).2⟩
  rw [mergeMetadata_eq]
  refine yields_of_safe (safe_withKeyLock lasts (fun _ _ _ _ => (id : True → True))
    fun now _ moved held => safe_get fun read inv rely => ?_) lasts
  replace held := held.rely rely
  cases found : (read.nodes thread.node).store.get key with
  | none => exact fun later _ further => ⟨held.rely further, nofun⟩
  | some existing =>
      have sound := inv.withContext (vouched.later (moved.trans rely.progress)) found
      have same : existing.key = key := Store.key_of_get found
      cases same
      have storable : read.Storable deployment discipline thread
          (existing.withContext (existing.causalContext.merge context)) (some existing) := by
        refine ⟨held, found, sound, ?_, le_rfl⟩
        rintro _ ⟨⟩
        rfl
      refine (safe_storeEntry some inv storable ?_).weaken ?_ fun _ _ _ _ held => ⟨held, trivial⟩
      · rintro crdtType ⟨⟩
        rfl
      · rintro result later _ _ ⟨held, rfl, stores⟩
        refine ⟨held, ?_⟩
        rintro updated ⟨⟩
        exact ⟨stores, rfl⟩

end Distsys
