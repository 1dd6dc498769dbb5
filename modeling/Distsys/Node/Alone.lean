import Distsys.Lib.Sequential
import Distsys.Node.Service

/-!
# A node that runs one coroutine

The coroutines of the stores when nothing else runs on the node. Every lock is free,
so a body under a lock runs as it would without it, and what a coroutine leaves behind
is a change of its node.
-/

namespace Distsys

variable {change : Node → Node}

/-- What the environment decides when a coroutine runs alone: whether commits fail, the
replicas of every key, the peers that are alive, the peer that is chosen and the time
that is left. -/
structure Environment where
  commitFailure : Option PyError := none
  replicas : PyStr → List NodeId := fun _ => []
  alive : List NodeId := []
  target : NodeId
  left : Nat := 1

/-- What the environment chooses for an operation. -/
def Environment.choice (environment : Environment) : Op → Choice
  | .commitRows .. =>
      match environment.commitFailure with
      | some error => .failure error
      | none => .nothing
  | .replicas key => .nodes (environment.replicas key)
  | .alivePeers => .nodes environment.alive
  | .choosePeer _ => .node environment.target
  | .remaining => .millis environment.left
  | _ => .nothing

/-- One operation of a coroutine that runs alone. -/
def World.alone (environment : Environment) (self : Thread) (op : Op) (world : World) :
    Option (op.Answer × World) :=
  world.exec self op (environment.choice op)

/-- The coroutine runs alone to its end and leaves the postcondition. -/
abbrev EndsAlone {α : Type} (environment : Environment) (self : Thread)
    (post : Except PyError α → World → Prop) (code : Code α) (world : World) : Prop :=
  Prog.Ends (World.alone environment self) post code world

/-- No coroutine of the node holds a lock. -/
structure Node.Idle (node : Node) : Prop where
  keys : ∀ key, node.keyHolder key = none
  clock : node.clockHolder = none

namespace World

/-- The coroutine holds the lock of a key. -/
def lockKey (world : World) (self : Thread) (key : PyStr) : World :=
  world.atNode self.node fun node =>
    { node with keyHolder := Function.update node.keyHolder key (some self.index) }

/-- The coroutine holds the lock of the clock. -/
def lockClock (world : World) (self : Thread) : World :=
  world.atNode self.node ({ · with clockHolder := some self.index })

theorem atNode_atNode (world : World) (id : NodeId) (first second : Node → Node) :
    (world.atNode id first).atNode id second = world.atNode id (second ∘ first) := by
  unfold atNode
  simp only [Function.update_idem, Function.update_self, Function.comp_apply]

theorem atNode_comm (world : World) (id : NodeId) {first second : Node → Node}
    (commute : ∀ node, second (first node) = first (second node)) :
    (world.atNode id first).atNode id second = (world.atNode id second).atNode id first := by
  rw [atNode_atNode, atNode_atNode]
  exact congrArg (world.atNode id) (funext commute)

theorem atNode_eq_self (world : World) (id : NodeId)
    (same : change (world.nodes id) = world.nodes id) : world.atNode id change = world := by
  unfold atNode
  rw [same, Function.update_eq_self]

end World

variable {α β : Type} {environment : Environment} {self : Thread} {world : World}
  {post : Except PyError α → World → Prop} {key : PyStr} {body : Code α}
  {final : Except PyError StoredCrdtEntry → World → Prop} {entry incoming : StoredCrdtEntry}
  {expectedType : Option CrdtType} {commit : Option Mutation} {actor : CausalActor}

theorem ends_perform {handle : (op : Op) → World → Option (op.Answer × World)} {op : Op}
    {next : op.Answer → Code α} {answer : op.Answer} {after : World}
    (answered : handle op world = some (answer, after))
    (rest : Prog.Ends handle post (next answer) after) :
    Prog.Ends handle post (perform op >>= next) world :=
  Prog.ends_act answered rest

/-- The postcondition once the lock of the key, which is held, is released. -/
abbrev UnderKey (self : Thread) (key : PyStr) (post : Except PyError α → World → Prop)
    (result : Except PyError α) (after : World) : Prop :=
  ∃ final : World, after = final.lockKey self key ∧ (final.nodes self.node).keyHolder key = none ∧
    post result final

/-- The postcondition once the lock of the clock, which is held, is released. -/
abbrev UnderClock (self : Thread) (post : Except PyError α → World → Prop)
    (result : Except PyError α) (after : World) : Prop :=
  ∃ final : World, after = final.lockClock self ∧ (final.nodes self.node).clockHolder = none ∧
    post result final

/-- A body between two operations, of which the second undoes the first. -/
theorem ends_within {acquire : Op} {begun : acquire.Answer} (release : Op) (ended : release.Answer)
    {lock : World → World} {free : World → Prop}
    (acquired : world.alone environment self acquire = some (begun, lock world))
    (released : ∀ final, free final →
      (lock final).alone environment self release = some (ended, final))
    (runs : EndsAlone environment self (fun result after =>
      ∃ final, after = lock final ∧ free final ∧ post result final) body (lock world)) :
    EndsAlone environment self post (do
      let _ ← perform acquire
      let result ← body.attempt
      let _ ← perform release
      Prog.ofExcept result) world := by
  refine ends_perform acquired (Prog.Ends.bind (Prog.Ends.attempt (runs.mono ?_)))
  rintro result after ⟨final, rfl, unlocked, holds⟩
  exact ends_perform (released final unlocked) (Prog.ends_done holds)

/-- A body under a free lock. -/
theorem ends_withKeyLock (free : (world.nodes self.node).keyHolder key = none)
    (runs : EndsAlone environment self (UnderKey self key post) body (world.lockKey self key)) :
    EndsAlone environment self post (withKeyLock key body) world := by
  have acquired : world.alone environment self (.acquireKey key) =
      some ((), world.lockKey self key) := if_pos free
  refine ends_within (.releaseKey key) () acquired (fun final unlocked => ?_) runs
  have holder : ((final.lockKey self key).nodes self.node).keyHolder key = some self.index := by
    rw [World.lockKey, World.nodes_atNode_self]
    exact Function.update_self ..
  refine (if_pos holder).trans (congrArg (fun world => some ((), world)) ?_)
  rw [World.lockKey, World.atNode_atNode]
  refine World.atNode_eq_self _ _ ?_
  simp only [Function.comp_apply, Function.update_idem]
  rw [← unlocked, Function.update_eq_self]

/-- A body under the free lock of the clock. -/
theorem ends_withClock (free : (world.nodes self.node).clockHolder = none)
    (runs : EndsAlone environment self (UnderClock self post) body (world.lockClock self)) :
    EndsAlone environment self post (withClock body) world := by
  have acquired : world.alone environment self .acquireClock =
      some ((), world.lockClock self) := if_pos free
  refine ends_within .releaseClock () acquired (fun final unlocked => ?_) runs
  have holder : ((final.lockClock self).nodes self.node).clockHolder = some self.index := by
    rw [World.lockClock, World.nodes_atNode_self]
  refine (if_pos holder).trans (congrArg (fun world => some ((), world)) ?_)
  rw [World.lockClock, World.atNode_atNode]
  refine World.atNode_eq_self _ _ ?_
  simp only [Function.comp_apply]
  rw [← unlocked]

namespace World

variable (world : World) (self : Thread) (key : PyStr)

@[simp] theorem store_lockKey :
    ((world.lockKey self key).nodes self.node).store = (world.nodes self.node).store := by
  rw [lockKey, nodes_atNode_self]

@[simp] theorem frontier_lockKey :
    ((world.lockKey self key).nodes self.node).frontier = (world.nodes self.node).frontier := by
  rw [lockKey, nodes_atNode_self]

@[simp] theorem clockHolder_lockKey :
    ((world.lockKey self key).nodes self.node).clockHolder =
      (world.nodes self.node).clockHolder := by
  rw [lockKey, nodes_atNode_self]

@[simp] theorem store_lockClock :
    ((world.lockClock self).nodes self.node).store = (world.nodes self.node).store := by
  rw [lockClock, nodes_atNode_self]

@[simp] theorem frontier_lockClock :
    ((world.lockClock self).nodes self.node).frontier = (world.nodes self.node).frontier := by
  rw [lockClock, nodes_atNode_self]

theorem settle_lockKey (id : NodeId) :
    (world.lockKey self key).settle id = (world.settle id).lockKey self key := rfl

/-- A change that does not touch the locks, under the lock of a key. -/
theorem atNode_lockKey (commute : ∀ node holder, change { node with keyHolder := holder } =
      { change node with keyHolder := holder })
    (kept : ∀ node, (change node).keyHolder = node.keyHolder) :
    (world.lockKey self key).atNode self.node change =
      (world.atNode self.node change).lockKey self key := by
  refine atNode_comm _ _ fun node => ?_
  rw [commute, kept]

theorem atNode_lockClock (commute : ∀ node holder, change { node with clockHolder := holder } =
      { change node with clockHolder := holder }) :
    (world.lockClock self).atNode self.node change =
      (world.atNode self.node change).lockClock self :=
  atNode_comm _ _ fun node => commute node _

theorem installing_lockClock (entry : StoredCrdtEntry) (state : DurableCausalState)
    (commit : Option Mutation) :
    (((world.lockClock self).record self.node commit).atNode self.node
      (·.commitRows entry state)).atNode self.node (·.put entry) =
    (((world.record self.node commit).atNode self.node (·.commitRows entry state)).atNode self.node
      (·.put entry)).lockClock self := by
  have recorded : (world.lockClock self).record self.node commit =
      (world.record self.node commit).lockClock self := by
    cases commit <;> rfl
  rw [recorded, atNode_lockClock _ _ fun _ _ => rfl, atNode_lockClock _ _ fun _ _ => rfl]

end World

/-- What a body under the clock leaves: the frontier moves if it has committed. -/
abbrev Staged (self : Thread) (frontier : VersionVector) (post : Except PyError α → World → Prop)
    (result : Except PyError (α × Bool)) (final : World) : Prop :=
  match result with
  | .ok (value, true) =>
      post (.ok value) ((final.settle self.node).atNode self.node ({ · with frontier }))
  | .ok (value, false) => post (.ok value) final
  | .error error => post (.error error) final

/-- The common part of `staged_observe` and `staged_allocation`. -/
theorem ends_staged {next : VersionVector → VersionVector} {body : VersionVector → Code (α × Bool)}
    (free : (world.nodes self.node).clockHolder = none)
    (runs : EndsAlone environment self
      (UnderClock self (Staged self (next (world.nodes self.node).frontier) post))
      (body (world.nodes self.node).frontier) (world.lockClock self)) :
    EndsAlone environment self post (withClock do
      let current ← perform .readFrontier
      let (value, committed) ← body current
      if committed then perform (.setFrontier (next current))
      return value) world := by
  refine ends_withClock free (ends_perform rfl ?_)
  rw [World.frontier_lockClock]
  refine Prog.Ends.bind (runs.mono ?_)
  rintro (error | ⟨value, _ | _⟩) after ⟨final, rfl, unlocked, holds⟩
  · exact ⟨final, rfl, unlocked, holds⟩
  · exact Prog.ends_pure ⟨final, rfl, unlocked, holds⟩
  · refine ends_perform rfl (Prog.ends_pure ⟨_, ?_, ?_, holds⟩)
    · exact World.atNode_lockClock (final.settle self.node) self fun _ _ => rfl
    · rw [World.nodes_atNode_self]
      exact unlocked

/-- `staged_observe` with a free clock. -/
theorem ends_stagedObserve {version : VersionVector} {body : VersionVector → Code (α × Bool)}
    (free : (world.nodes self.node).clockHolder = none)
    (runs : EndsAlone environment self
      (UnderClock self (Staged self ((world.nodes self.node).frontier.merge version) post))
      (body ((world.nodes self.node).frontier.merge version)) (world.lockClock self)) :
    EndsAlone environment self post (CausalClock.stagedObserve version body) world :=
  ends_staged free runs

theorem ends_observe {version : VersionVector}
    {final : Except PyError VersionVector → World → Prop}
    (free : (world.nodes self.node).clockHolder = none)
    (holds : final (.ok ((world.nodes self.node).frontier.merge version))
      ((world.settle self.node).atNode self.node
        ({ · with frontier := (world.nodes self.node).frontier.merge version }))) :
    EndsAlone environment self final (CausalClock.observe version) world :=
  ends_stagedObserve free (Prog.ends_pure ⟨world, rfl, free, holds⟩)

theorem ends_clockFrontier {final : Except PyError VersionVector → World → Prop}
    (free : (world.nodes self.node).clockHolder = none)
    (holds : final (.ok (world.nodes self.node).frontier) world) :
    EndsAlone environment self final CausalClock.frontier world := by
  refine ends_withClock free (ends_perform rfl (Prog.ends_done ⟨world, rfl, free, ?_⟩))
  rw [World.frontier_lockClock]
  exact holds

/-- `replace` where the types agree. -/
theorem ends_replace (replaced : (world.nodes self.node).store.replace entry expectedType =
      .ok ((world.nodes self.node).store.put entry))
    (holds : final (.ok entry) ((world.record self.node commit).atNode self.node (·.put entry))) :
    EndsAlone environment self final (CrdtStore.replace entry expectedType commit) world := by
  have answered : world.alone environment self (.replace entry expectedType commit) =
      some (.ok (), (world.record self.node commit).atNode self.node (·.put entry)) := by
    change world.exec self (.replace entry expectedType commit) .nothing = _
    simp only [World.exec, replaced]
    unfold World.atNode Node.put
    simp only [World.nodes_record]
  exact ends_perform answered (Prog.ends_pure holds)

/-- The rows are committed and then the memory, or the commit fails. -/
theorem ends_commitThenReplace {state : DurableCausalState}
    (types : ∀ existing, (world.nodes self.node).store.get entry.key = some existing →
      existing.crdtType = entry.crdtType) (holds : match environment.commitFailure with
      | some error => final (.error error) world
      | none => final (.ok entry) (((world.record self.node commit).atNode self.node
          (·.commitRows entry state)).atNode self.node (·.put entry))) :
    EndsAlone environment self final
      (DurableCrdtStore.commitThenReplace entry state entry.crdtType commit) world := by
  cases fate : environment.commitFailure with
  | some error =>
      rw [fate] at holds
      have answered : world.alone environment self (.commitRows entry state commit) =
          some (.error error, world) := by
        unfold World.alone Environment.choice
        simp only [fate]
        rfl
      exact ends_perform answered (Prog.ends_done holds)
  | none =>
      rw [fate] at holds
      have answered : world.alone environment self (.commitRows entry state commit) =
          some (.ok (), (world.record self.node commit).atNode self.node
            (·.commitRows entry state)) := by
        unfold World.alone Environment.choice
        simp only [fate]
        rfl
      refine ends_perform answered (ends_replace ?_ holds)
      rw [World.nodes_atNode_self, World.nodes_record]
      refine Store.replace_of_types ?_ types
      rintro _ ⟨⟩
      rfl

/-- What `merge_entry` stores. -/
def Store.absorb (store : Store) (incoming : StoredCrdtEntry) : Except PyError StoredCrdtEntry :=
  match store.get incoming.key with
  | none => .ok incoming
  | some existing => existing.merge incoming

theorem Store.elim_get (store : Store) (incoming : StoredCrdtEntry) :
    (store.get incoming.key).elim (.ok incoming) (·.merge incoming) = store.absorb incoming := by
  unfold absorb
  cases store.get incoming.key <;> rfl

theorem Store.absorb_eq_ok {store : Store} {merged : StoredCrdtEntry}
    (absorbed : store.absorb incoming = .ok merged) :
    merged.key = incoming.key ∧ ∀ existing, store.get incoming.key = some existing →
      StoredCrdtEntry.Merged existing incoming merged := by
  unfold absorb at absorbed
  cases found : store.get incoming.key with
  | none =>
      rw [found] at absorbed
      cases absorbed
      exact ⟨rfl, nofun⟩
  | some existing =>
      rw [found] at absorbed
      have merges := StoredCrdtEntry.merged_of_merge absorbed
      refine ⟨merges.key.trans merges.keys, ?_⟩
      rintro _ ⟨⟩
      exact merges

/-- A durable node after it has stored an entry with a frontier of its clock. -/
def Node.installAt (node : Node) (actor : CausalActor) (entry : StoredCrdtEntry)
    (frontier : VersionVector) : Node :=
  { ((node.commitRows entry (.at actor frontier)).put entry) with frontier }

/-- A node after it has stored an entry: in memory, or first on disk with the clock. -/
def Node.install (node : Node) (durable : Bool) (actor : CausalActor) (entry : StoredCrdtEntry) :
    Node :=
  if durable then node.installAt actor entry (node.frontier.merge entry.causalContext)
  else node.put entry

/-- The world has changed at one node only. -/
structure World.Becomes (id : NodeId) (node : Node) (world after : World) : Prop where
  here : after.nodes id = node
  elsewhere : ∀ other, other ≠ id → after.nodes other = world.nodes other
  requests : after.requests = world.requests
  replies : after.replies = world.replies

theorem World.becomes_put (world : World) (id : NodeId) (entry : StoredCrdtEntry) :
    World.Becomes id ((world.nodes id).put entry) world (world.atNode id (·.put entry)) :=
  ⟨nodes_atNode_self .., fun _ differs => nodes_atNode_of_ne _ _ _ differs, rfl, rfl⟩

theorem Node.Idle.install {node : Node} (idle : node.Idle) (durable : Bool) (actor : CausalActor)
    (entry : StoredCrdtEntry) : (node.install durable actor entry).Idle := by
  unfold Node.install
  cases durable
  · exact ⟨idle.keys, idle.clock⟩
  · exact ⟨idle.keys, idle.clock⟩

@[simp] theorem Node.store_install (node : Node) (durable : Bool) (actor : CausalActor)
    (entry : StoredCrdtEntry) :
    (node.install durable actor entry).store = node.store.put entry := by
  unfold Node.install
  cases durable <;> rfl

/-- The world in which a durable node has stored an entry with the clock. -/
def World.installed (world : World) (id : NodeId) (actor : CausalActor) (entry : StoredCrdtEntry)
    (frontier : VersionVector) (commit : Option Mutation) : World :=
  ((((world.record id commit).atNode id (·.commitRows entry (.at actor frontier))).atNode id
    (·.put entry)).settle id).atNode id ({ · with frontier })

section Installed

variable (world : World) (id : NodeId) (actor : CausalActor) (entry : StoredCrdtEntry)
  (frontier : VersionVector) (commit : Option Mutation)

theorem World.becomes_installed :
    World.Becomes id ((world.nodes id).installAt actor entry frontier) world
      (world.installed id actor entry frontier commit) := by
  refine ⟨?_, fun other differs => ?_, ?_, ?_⟩
  · unfold installed
    simp only [nodes_atNode_self, nodes_settle, nodes_record]
    rfl
  · unfold installed
    rw [nodes_atNode_of_ne _ _ _ differs, nodes_settle, nodes_atNode_of_ne _ _ _ differs,
      nodes_atNode_of_ne _ _ _ differs, nodes_record]
  · cases commit <;> rfl
  · cases commit <;> rfl

theorem World.installed_lockKey (self : Thread) (key : PyStr) :
    (world.lockKey self key).installed self.node actor entry frontier commit =
      (world.installed self.node actor entry frontier commit).lockKey self key := by
  have recorded : (world.lockKey self key).record self.node commit =
      (world.record self.node commit).lockKey self key := by
    cases commit <;> rfl
  have rows : ∀ (world : World) state,
      (world.lockKey self key).atNode self.node (·.commitRows entry state) =
        (world.atNode self.node (·.commitRows entry state)).lockKey self key :=
    fun _ _ => atNode_lockKey _ _ _ (fun _ _ => rfl) fun _ => rfl
  have memory : ∀ world : World, (world.lockKey self key).atNode self.node (·.put entry) =
      (world.atNode self.node (·.put entry)).lockKey self key :=
    fun _ => atNode_lockKey _ _ _ (fun _ _ => rfl) fun _ => rfl
  have clock : ∀ world : World, (world.lockKey self key).atNode self.node ({ · with frontier }) =
      (world.atNode self.node ({ · with frontier })).lockKey self key :=
    fun _ => atNode_lockKey _ _ _ (fun _ _ => rfl) fun _ => rfl
  unfold installed
  rw [recorded, rows, memory, settle_lockKey, clock]

theorem World.keyHolder_installed :
    ((world.installed id actor entry frontier commit).nodes id).keyHolder =
      (world.nodes id).keyHolder := by
  rw [(becomes_installed world id actor entry frontier commit).here]
  rfl

end Installed

section Stores

variable {deployment : Deployment}

/-- The failure of the commits of a node, which only a durable one makes. -/
def Environment.failure (environment : Environment) (durable : Bool) : Option PyError :=
  if durable then environment.commitFailure else none

/-- An entry of the type of what is stored is written under the lock of its key. -/
theorem ends_storeEntry (wrap : StoredCrdtEntry → α) (idle : (world.nodes self.node).Idle)
    (types : ∀ existing, (world.nodes self.node).store.get entry.key = some existing →
      existing.crdtType = entry.crdtType)
    (expected : ∀ crdtType, expectedType = some crdtType → crdtType = entry.crdtType)
    (holds : match environment.failure (deployment.durable self.node) with
      | some error => post (.error error) world
      | none => ∀ after, World.Becomes self.node ((world.nodes self.node).install
          (deployment.durable self.node) (deployment.actor self.node) entry) world after →
          post (.ok (wrap entry)) after) :
    EndsAlone environment self (UnderKey self key post)
      (storeEntry deployment self.node expectedType wrap entry) (world.lockKey self key) := by
  have clock : ((world.lockKey self key).nodes self.node).clockHolder = none :=
    (World.clockHolder_lockKey ..).trans idle.clock
  unfold storeEntry
  cases durable : deployment.durable self.node with
  | true =>
      rw [durable] at holds
      rw [if_pos rfl]
      refine ends_stagedObserve clock (Prog.Ends.bind (ends_commitThenReplace ?_ ?_))
      · rw [World.store_lockClock, World.store_lockKey]
        exact types
      · unfold Environment.failure at holds
        rw [if_pos rfl] at holds
        cases fate : environment.commitFailure with
        | some error =>
            rw [fate] at holds
            exact ⟨world.lockKey self key, rfl, clock, world, rfl, idle.keys key, holds⟩
        | none =>
            rw [fate] at holds
            refine Prog.ends_pure ⟨_, World.installing_lockClock .., ?_, world.installed self.node
              (deployment.actor self.node) entry
              ((world.nodes self.node).frontier.merge entry.causalContext) none, ?_, ?_, ?_⟩
            · rw [World.nodes_atNode_self, World.nodes_atNode_self]
              exact clock
            · rw [World.frontier_lockKey]
              exact World.installed_lockKey ..
            · rw [World.keyHolder_installed]
              exact idle.keys key
            · exact holds _ (World.becomes_installed ..)
  | false =>
      rw [durable] at holds
      refine Prog.Ends.bind (ends_replace ?_ (Prog.ends_pure
        ⟨world.atNode self.node (·.put entry), ?_, ?_, ?_⟩))
      · rw [World.store_lockKey]
        exact Store.replace_of_types expected types
      · exact World.atNode_lockKey _ _ _ (fun _ _ => rfl) fun _ => rfl
      · rw [World.nodes_atNode_self]
        exact idle.keys key
      · exact holds _ (World.becomes_put world self.node entry)

/-- The look-up under the lock of a key. -/
theorem ends_getLocked {next : Option StoredCrdtEntry → Code α}
    (rest : EndsAlone environment self post (next ((world.nodes self.node).store.get key))
      (world.lockKey self key)) :
    EndsAlone environment self post (perform (.get key) >>= next) (world.lockKey self key) := by
  refine ends_perform rfl ?_
  rw [World.store_lockKey]
  exact rest

/-- `merge_entry` of a node alone. -/
theorem ends_mergeEntry (idle : (world.nodes self.node).Idle)
    (holds : match (world.nodes self.node).store.absorb incoming with
      | .error error => final (.error error) world
      | .ok merged => match environment.failure (deployment.durable self.node) with
        | some error => final (.error error) world
        | none => ∀ after, World.Becomes self.node ((world.nodes self.node).install
            (deployment.durable self.node) (deployment.actor self.node) merged) world after →
            final (.ok merged) after) :
    EndsAlone environment self final (mergeEntry deployment self.node incoming) world := by
  rw [mergeEntry_eq]
  refine ends_withKeyLock (idle.keys _) (ends_getLocked ?_)
  rw [Store.elim_get]
  cases absorbed : (world.nodes self.node).store.absorb incoming with
  | error error =>
      rw [absorbed] at holds
      exact Prog.ends_done ⟨world, rfl, idle.keys _, holds⟩
  | ok merged =>
      rw [absorbed] at holds
      obtain ⟨key, merges⟩ := Store.absorb_eq_ok absorbed
      refine ends_storeEntry _ idle (fun existing found => ?_) (fun crdtType is => ?_) holds
      · rw [key] at found
        exact (merges existing found).crdtType.symm
      · obtain ⟨existing, found, rfl⟩ := Option.map_eq_some_iff.mp is
        exact (merges existing found).crdtType.symm

/-- `merge_metadata` of a node alone. -/
theorem ends_mergeMetadata {context : VersionVector}
    {final : Except PyError (Option StoredCrdtEntry) → World → Prop}
    (idle : (world.nodes self.node).Idle) (holds : match (world.nodes self.node).store.get key with
      | none => final (.ok none) world
      | some existing => match environment.failure (deployment.durable self.node) with
        | some error => final (.error error) world
        | none => ∀ after, World.Becomes self.node ((world.nodes self.node).install
            (deployment.durable self.node) (deployment.actor self.node)
              (existing.withContext (existing.causalContext.merge context))) world after →
            final (.ok (some (existing.withContext (existing.causalContext.merge context))))
              after) :
    EndsAlone environment self final (mergeMetadata deployment self.node key context) world := by
  rw [mergeMetadata_eq]
  refine ends_withKeyLock (idle.keys _) (ends_getLocked ?_)
  cases found : (world.nodes self.node).store.get key with
  | none =>
      rw [found] at holds
      exact Prog.ends_pure ⟨world, rfl, idle.keys _, holds⟩
  | some existing =>
      rw [found] at holds
      refine ends_storeEntry some idle (fun other is => ?_) ?_ holds
      · have keys : existing.key = key := Store.key_of_get found
        change (world.nodes self.node).store.get existing.key = some other at is
        rw [keys, found] at is
        cases is
        rfl
      · rintro _ ⟨⟩
        rfl

end Stores

end Distsys
