import Distsys.Guarantees.Recovery
import Distsys.Node.Alone

/-!
# Disk, memory and clock in lockstep

The stores of a durable node are driven one call after the other, with commits that
may fail, beside a plain store that is given the calls that succeeded. After every
call the tables hold what the memory holds, which is what the plain store holds, and
the clock row is the clock. A call that raises changes none of them.
-/

namespace Distsys

variable {α : Type} {deployment : Deployment} {environment : Environment} {self : Thread}
  {world : World} {request : CrdtMutationData} {mutation : Mutation} {frontier : VersionVector}

/-- `staged_allocation` with a free clock: the frontier moves if the body has committed. -/
theorem ends_stagedAllocation {actor : CausalActor} {observed : VersionVector}
    {body : Dot → VersionVector → VersionVector → Code (α × Bool)}
    {post : Except PyError α → World → Prop} (base : VersionVector) {dot : Dot}
    (based : base = (world.nodes self.node).frontier.merge observed)
    (dotted : dot = CausalClock.nextDot actor base)
    (free : (world.nodes self.node).clockHolder = none)
    (runs : EndsAlone environment self (UnderClock self (Staged self (base.withDot dot) post))
      (body dot (base.withDot dot) (world.nodes self.node).frontier) (world.lockClock self)) :
    EndsAlone environment self post (CausalClock.stagedAllocation actor observed body) world := by
  subst based dotted
  exact ends_staged free runs

/-- The frontier that the clock of a node stages for a mutation, without the new dot. -/
def Node.staged (node : Node) (request : CrdtMutationData) : VersionVector :=
  node.frontier.merge
    (((node.store.get request.key).elim ⊥ (·.causalContext)).merge request.causalToken.version)

/-- The mutation that a node alone commits for a request. -/
def Node.prepare (deployment : Deployment) (id : NodeId) (request : CrdtMutationData)
    (node : Node) : Except PyError Mutation := do
  let existing := node.store.get request.key
  checkType request existing
  let dot := CausalClock.nextDot (deployment.actor id) (node.staged request)
  prepareMutation deployment id request existing dot ((node.staged request).withDot dot)

/-- What a prepared mutation is. -/
theorem Node.prepare_eq_ok {node : Node} {id : NodeId}
    (prepared : node.prepare deployment id request = .ok mutation) :
    mutation.after.key = request.key ∧
      (∀ existing, node.store.get mutation.after.key = some existing →
        existing.crdtType = mutation.after.crdtType) ∧
      mutation.after.causalContext ≤
        (node.staged request).withDot
          (CausalClock.nextDot (deployment.actor id) (node.staged request)) := by
  obtain ⟨_, checked, prepared⟩ := Codec.bind_eq_ok.mp prepared
  obtain ⟨state, applied, prepared⟩ := Codec.bind_eq_ok.mp prepared
  obtain ⟨after, built, prepared⟩ := Codec.bind_eq_ok.mp prepared
  cases prepared
  unfold nextEntry at built
  split at built
  · cases built
    refine ⟨rfl, fun existing found => ?_, ?_⟩
    · change node.store.get request.key = some existing at found
      have types := (applied_of_applyMutation applied).types.2
      unfold checkType at checked
      rw [found] at checked
      simp only at checked
      split at checked
      · cases checked
      · next same => exact (not_not.mp same).trans types.symm
    · refine VersionVector.withDot_le ?_ (VersionVector.covers_withDot_self _ _)
      rw [Tally.merge_eq_sup]
      refine sup_le (le_trans ?_ (VersionVector.le_withDot _ _)) le_rfl
      unfold Node.staged
      rw [Tally.merge_eq_sup node.frontier]
      exact le_sup_right
  · cases built

/-- The clock as it stands once the node has committed a request. -/
def Node.advanced (node : Node) (actor : CausalActor) (request : CrdtMutationData) :
    VersionVector :=
  (node.staged request).withDot (CausalClock.nextDot actor (node.staged request))

/-- `_commit_local` of a durable node with the handler of `mutate` around it. -/
theorem ends_commitLocal {dot : Dot} {final : Except PyError StoredCrdtEntry → World → Prop}
    (durable : deployment.durable self.node = true)
    (types : ∀ existing, (world.nodes self.node).store.get mutation.after.key = some existing →
      existing.crdtType = mutation.after.crdtType) (holds : match environment.commitFailure with
      | some error => ∀ ledger, final (.error error) { world with ledger }
      | none => final (.ok mutation.after) (((world.record self.node (some mutation)).atNode
          self.node (·.commitRows mutation.after
            (.at (deployment.actor self.node) frontier))).atNode self.node
              (·.put mutation.after))) :
    EndsAlone environment self final
      ((commitLocal deployment self.node mutation frontier).catching fun error => do
        perform (.abort dot)
        throw error) world := by
  unfold commitLocal
  rw [if_pos durable]
  refine Prog.Ends.catching (ends_commitThenReplace types ?_)
  cases fate : environment.commitFailure with
  | some error =>
      rw [fate] at holds
      exact ends_perform rfl (Prog.ends_done (holds _))
  | none =>
      rw [fate] at holds
      exact holds

/-- `mutate` under the lock of the key, on a durable node alone. -/
theorem ends_mutateLocked {post : Except PyError Mutation → World → Prop}
    (durable : deployment.durable self.node = true) (idle : (world.nodes self.node).Idle)
    (holds : match (world.nodes self.node).prepare deployment self.node request with
      | .error error => ∀ ledger, post (.error error) { world with ledger }
      | .ok mutation => match environment.commitFailure with
        | some error => ∀ ledger, post (.error error) { world with ledger }
        | none => post (.ok mutation) (world.installed self.node (deployment.actor self.node)
            mutation.after ((world.nodes self.node).advanced (deployment.actor self.node) request)
            (some mutation))) :
    EndsAlone environment self post (mutateLocked deployment self.node request) world := by
  refine ends_withKeyLock (idle.keys _) (ends_getLocked ?_)
  cases checked : checkType request ((world.nodes self.node).store.get request.key) with
  | error error =>
      unfold Node.prepare at holds
      dsimp only at holds
      rw [checked] at holds
      exact Prog.ends_done ⟨world, rfl, idle.keys _, holds _⟩
  | ok _ =>
      have prepares : (world.nodes self.node).prepare deployment self.node request =
          prepareMutation deployment self.node request
            ((world.nodes self.node).store.get request.key)
            (CausalClock.nextDot (deployment.actor self.node)
              ((world.nodes self.node).staged request))
            ((world.nodes self.node).advanced (deployment.actor self.node) request) := by
        unfold Node.prepare
        dsimp only
        rw [checked]
        rfl
      rw [Prog.ofExcept_ok_bind]
      refine ends_stagedAllocation ((world.nodes self.node).staged request)
        (by rw [World.frontier_lockKey]; rfl) rfl ?_ ?_
      · rw [World.clockHolder_lockKey]
        exact idle.clock
      · cases prepared : (world.nodes self.node).prepare deployment self.node request with
        | error error =>
            rw [prepared] at holds
            rw [prepares] at prepared
            unfold Node.advanced at prepared
            rw [prepared]
            refine Prog.ends_done ⟨world.lockKey self request.key, rfl, ?_, world, rfl, ?_, holds _⟩
            · rw [World.clockHolder_lockKey]
              exact idle.clock
            · exact idle.keys _
        | ok mutation =>
            rw [prepared] at holds
            have facts := Node.prepare_eq_ok prepared
            rw [prepares] at prepared
            unfold Node.advanced at prepared
            rw [prepared, Prog.ofExcept_ok_bind]
            refine ends_perform rfl (Prog.Ends.bind (ends_commitLocal durable ?_ ?_))
            · rw [World.store_lockClock, World.store_lockKey]
              exact facts.2.1
            · cases fate : environment.commitFailure with
              | some error =>
                  rw [fate] at holds
                  refine fun ledger => ⟨{ world.lockKey self request.key with ledger }, rfl, ?_,
                    { world with ledger }, rfl, idle.keys _, holds ledger⟩
                  exact (World.clockHolder_lockKey ..).trans idle.clock
              | none =>
                  rw [fate] at holds
                  refine Prog.ends_pure ⟨_, World.installing_lockClock .., ?_, _,
                    World.installed_lockKey .., ?_, holds⟩
                  · rw [World.nodes_atNode_self, World.nodes_atNode_self, World.nodes_record]
                    exact (World.clockHolder_lockKey ..).trans idle.clock
                  · rw [World.keyHolder_installed]
                    exact idle.keys _

/-- The deployment whose nodes have no database. -/
def Deployment.inMemory (deployment : Deployment) : Deployment :=
  { deployment with durable := fun _ => false, settled := nofun }

/-- The calls of a durable store that write. -/
inductive StoreCall
  | commit (request : CrdtMutationData)
  | merge (incoming : StoredCrdtEntry)
  | metadata (key : PyStr) (causalContext : VersionVector)

namespace StoreCall

/-- The call on the durable store; `commit_local` is called as `mutate` calls it. -/
def durable (deployment : Deployment) (id : NodeId) : StoreCall → Code (Option StoredCrdtEntry)
  | .commit request => do
      let mutation ← mutateLocked deployment id request
      return some mutation.after
  | .merge incoming => do
      let merged ← DurableCrdtStore.mergeEntry (deployment.actor id) incoming
      return some merged
  | .metadata key causalContext =>
      DurableCrdtStore.mergeMetadata (deployment.actor id) key causalContext

/-- The same call on a plain store; for a commit it is given the committed entry. -/
def plain (committed : Option StoredCrdtEntry) : StoreCall → Code (Option StoredCrdtEntry)
  | .commit request => withKeyLock request.key do
      match committed with
      | none => return none
      | some entry => do
          let stored ← CrdtStore.replace entry (some entry.crdtType)
          return some stored
  | .merge incoming => do
      let merged ← CrdtStore.mergeEntry incoming
      return some merged
  | .metadata key causalContext => CrdtStore.mergeMetadata key causalContext

end StoreCall

/-- A durable node and a plain one. -/
structure TwoStores where
  durable : World
  plain : World

namespace TwoStores

variable (deployment : Deployment) (id : NodeId)

/-- One call on the durable store, and on the plain one if it succeeds. The result of
both is given. -/
def call (failure : Option PyError) (call : StoreCall) (stores : TwoStores) :
    Option ((Except PyError (Option StoredCrdtEntry) × Except PyError (Option StoredCrdtEntry)) ×
      TwoStores) :=
  match (call.durable deployment id).run
      (World.alone { commitFailure := failure, target := id } ⟨id, 0⟩) stores.durable with
  | none => none
  | some (.error error, after) =>
      some ((.error error, .error error), { stores with durable := after })
  | some (.ok result, after) =>
      match (call.plain result).run (World.alone { target := id } ⟨id, 0⟩) stores.plain with
      | none => none
      | some (copied, plain) => some ((.ok result, copied), ⟨after, plain⟩)

/-- One call after the other, each with the failure of its commit. -/
def calls : List (StoreCall × Option PyError) → TwoStores → Option TwoStores
  | [], stores => some stores
  | (request, failure) :: rest, stores =>
      match stores.call deployment id failure request with
      | none => none
      | some (_, after) => calls rest after

/-- Two stores that are both new. -/
def initial : TwoStores := ⟨deployment.initialWorld, deployment.initialWorld⟩

/-- The rows, the memory and the plain store hold the same entries, the clock row and the
clock the same frontier, which dominates every context; no lock is held. -/
structure Lockstep (durable : deployment.durable id = true) (stores : TwoStores) : Prop where
  tables : (stores.durable.nodes id).repository.Holds (deployment.identity id durable)
    (stores.durable.nodes id).store (stores.durable.nodes id).frontier
  copied : (stores.durable.nodes id).store = (stores.plain.nodes id).store
  below : ∀ key entry, (stores.durable.nodes id).store.get key = some entry →
    entry.causalContext ≤ (stores.durable.nodes id).frontier
  idle : (stores.durable.nodes id).Idle
  plainIdle : (stores.plain.nodes id).Idle

/-- A call left the tables, the memory and the clock as they were. -/
structure Unchanged (before after : TwoStores) : Prop where
  tables : (after.durable.nodes id).repository = (before.durable.nodes id).repository
  memory : (after.durable.nodes id).store = (before.durable.nodes id).store
  clock : (after.durable.nodes id).frontier = (before.durable.nodes id).frontier

end TwoStores

namespace TwoStores

variable {id : NodeId} {durable : deployment.durable id = true} {stores : TwoStores}
  {entry : StoredCrdtEntry} {after : World}

theorem lockstep_initial (durable : deployment.durable id = true) :
    (TwoStores.initial deployment).Lockstep deployment id durable := by
  have tables : (deployment.initialNode id).repository =
      { identity := some (deployment.identity id durable)
        clock := some ⟨0, encodeVersionVector ⊥⟩
        rows := .empty } := dif_pos durable
  refine ⟨⟨?_, ?_, ?_⟩, rfl, ?_, ⟨fun _ => rfl, rfl⟩, ⟨fun _ => rfl, rfl⟩⟩
  · exact congrArg Repository.identity tables
  · exact congrArg Repository.rows tables
  · exact congrArg Repository.clock tables
  · intro key entry found
    cases found

/-- The stores keep in step when both store an entry, the durable one with a frontier that
dominates what it did and the context of the entry. -/
theorem Lockstep.install (lockstep : stores.Lockstep deployment id durable) {plain : World}
    (advances : (stores.durable.nodes id).frontier ≤ frontier)
    (covers : entry.causalContext ≤ frontier) (becomes : World.Becomes id
      ((stores.durable.nodes id).installAt (deployment.actor id) entry frontier)
      stores.durable after)
    (copies : World.Becomes id ((stores.plain.nodes id).put entry) stores.plain plain) :
    Lockstep deployment id durable ⟨after, plain⟩ := by
  constructor
  · rw [becomes.here]
    exact lockstep.tables.commit entry frontier
  · rw [becomes.here, copies.here]
    exact congrArg (·.put entry) lockstep.copied
  · rw [becomes.here]
    intro key other found
    change ((stores.durable.nodes id).store.put entry).get key = some other at found
    rw [Store.get_put] at found
    split at found
    · cases found
      exact covers
    · exact (lockstep.below key other found).trans advances
  · rw [becomes.here]
    exact ⟨lockstep.idle.keys, lockstep.idle.clock⟩
  · rw [copies.here]
    exact ⟨lockstep.plainIdle.keys, lockstep.plainIdle.clock⟩

/-- What a call does, from what it does to each of the stores. -/
theorem call_of_ends {failure : Option PyError} {request : StoreCall}
    {post : Except PyError (Option StoredCrdtEntry) × Except PyError (Option StoredCrdtEntry) →
      TwoStores → Prop}
    (ends : EndsAlone { commitFailure := failure, target := id } ⟨id, 0⟩ (fun result after =>
      match result with
      | .error error => post (.error error, .error error) { stores with durable := after }
      | .ok value => EndsAlone { target := id } ⟨id, 0⟩ (fun copied plain =>
          post (.ok value, copied) ⟨after, plain⟩) (request.plain value) stores.plain)
      (request.durable deployment id) stores.durable) :
    ∃ results after, stores.call deployment id failure request = some (results, after) ∧
      post results after := by
  obtain ⟨result, after, ran, holds⟩ := ends
  unfold call
  rw [ran]
  cases result with
  | error error => exact ⟨_, _, rfl, holds⟩
  | ok value =>
      obtain ⟨copied, plain, copies, holds⟩ := holds
      dsimp only
      rw [copies]
      exact ⟨_, _, rfl, holds⟩

/-- What a call leaves: stores in step, changed together if it succeeds and not at all if
it raises. -/
def Kept (durable : deployment.durable id = true) (before : TwoStores)
    (results : Except PyError (Option StoredCrdtEntry) × Except PyError (Option StoredCrdtEntry))
    (after : TwoStores) : Prop :=
  after.Lockstep deployment id durable ∧
    match results with
    | (.error _, _) => before.Unchanged id after
    | (.ok value, copied) => copied = .ok value

theorem Lockstep.kept (lockstep : stores.Lockstep deployment id durable) (error : PyError)
    (copied : Except PyError (Option StoredCrdtEntry)) (ledger : Ledger) :
    stores.Kept durable (.error error, copied)
      { stores with durable := { stores.durable with ledger } } :=
  ⟨⟨lockstep.tables, lockstep.copied, lockstep.below, lockstep.idle, lockstep.plainIdle⟩,
    ⟨rfl, rfl, rfl⟩⟩

theorem Lockstep.call_commit (lockstep : stores.Lockstep deployment id durable)
    (request : CrdtMutationData) (failure : Option PyError) :
    ∃ results after, stores.call deployment id failure (.commit request) = some (results, after) ∧
      stores.Kept durable results after := by
  refine call_of_ends (Prog.Ends.bind (ends_mutateLocked durable lockstep.idle ?_))
  cases prepared : (stores.durable.nodes id).prepare deployment id request with
  | error error => exact lockstep.kept error _
  | ok mutation =>
      cases failure with
      | some error => exact lockstep.kept error _
      | none =>
          obtain ⟨key, types, context⟩ := Node.prepare_eq_ok prepared
          refine Prog.ends_pure (ends_withKeyLock (lockstep.plainIdle.keys _)
            (?_ : EndsAlone _ _ _ (storeEntry deployment.inMemory id
              (some mutation.after.crdtType) some mutation.after) _))
          refine ends_storeEntry some lockstep.plainIdle ?_ ?_ fun plain copies => ?_
          · rw [← lockstep.copied]
            exact types
          · rintro _ ⟨⟩
            rfl
          · refine ⟨lockstep.install ?_ context (World.becomes_installed ..) copies, rfl⟩
            refine le_trans ?_ (VersionVector.le_withDot _ _)
            unfold Node.staged
            rw [Tally.merge_eq_sup]
            exact le_sup_left

/-- Both stores store an entry, with the frontier that `staged_observe` stages. -/
theorem Lockstep.observe (lockstep : stores.Lockstep deployment id durable) {plain : World}
    (becomes : World.Becomes id
      ((stores.durable.nodes id).install true (deployment.actor id) entry) stores.durable after)
    (copies : World.Becomes id ((stores.plain.nodes id).put entry) stores.plain plain) :
    Lockstep deployment id durable ⟨after, plain⟩ := by
  refine lockstep.install ?_ ?_ becomes copies
  · rw [Tally.merge_eq_sup]
    exact le_sup_left
  · rw [Tally.merge_eq_sup]
    exact le_sup_right

theorem Lockstep.call_merge (lockstep : stores.Lockstep deployment id durable)
    (incoming : StoredCrdtEntry) (failure : Option PyError) :
    ∃ results after, stores.call deployment id failure (.merge incoming) = some (results, after) ∧
      stores.Kept durable results after := by
  have plain : ∀ {merged : StoredCrdtEntry} {after : World},
      (stores.durable.nodes id).store.absorb incoming = .ok merged →
      World.Becomes id ((stores.durable.nodes id).install true (deployment.actor id) merged)
        stores.durable after →
      EndsAlone { target := id } ⟨id, 0⟩ (fun copied plain =>
        stores.Kept durable (.ok (some merged), copied) ⟨after, plain⟩)
        (StoreCall.plain (some merged) (.merge incoming)) stores.plain := by
    intro merged after absorbed becomes
    refine Prog.Ends.bind (?_ : EndsAlone _ _ _ (mergeEntry deployment.inMemory id incoming) _)
    refine ends_mergeEntry lockstep.plainIdle ?_
    rw [← lockstep.copied, absorbed]
    intro plain copies
    exact Prog.ends_pure ⟨lockstep.observe becomes copies, rfl⟩
  refine call_of_ends (Prog.Ends.bind ?_)
  have unfolded : mergeEntry deployment id incoming =
      DurableCrdtStore.mergeEntry (deployment.actor id) incoming := if_pos durable
  rw [← unfolded]
  refine ends_mergeEntry lockstep.idle ?_
  cases absorbed : (stores.durable.nodes id).store.absorb incoming with
  | error error => exact lockstep.kept error _ _
  | ok merged =>
      rw [durable]
      cases failure with
      | some error => exact lockstep.kept error _ _
      | none => exact fun after becomes => Prog.ends_pure (plain absorbed becomes)

theorem Lockstep.call_metadata (lockstep : stores.Lockstep deployment id durable) (key : PyStr)
    (causalContext : VersionVector) (failure : Option PyError) :
    ∃ results after, stores.call deployment id failure (.metadata key causalContext) =
      some (results, after) ∧ stores.Kept durable results after := by
  have unfolded : mergeMetadata deployment id key causalContext =
      DurableCrdtStore.mergeMetadata (deployment.actor id) key causalContext := if_pos durable
  refine call_of_ends ?_
  change EndsAlone _ _ _ (DurableCrdtStore.mergeMetadata (deployment.actor id) key causalContext) _
  rw [← unfolded]
  refine ends_mergeMetadata lockstep.idle ?_
  cases found : (stores.durable.nodes id).store.get key with
  | none =>
      change EndsAlone _ _ _ (mergeMetadata deployment.inMemory id key causalContext) _
      refine ends_mergeMetadata lockstep.plainIdle ?_
      rw [← lockstep.copied, found]
      exact ⟨lockstep, rfl⟩
  | some existing =>
      rw [durable]
      cases failure with
      | some error => exact lockstep.kept error _ _
      | none =>
          intro after becomes
          change EndsAlone _ _ _ (mergeMetadata deployment.inMemory id key causalContext) _
          refine ends_mergeMetadata lockstep.plainIdle ?_
          rw [← lockstep.copied, found]
          exact fun plain copies => ⟨lockstep.observe becomes copies, rfl⟩

theorem Lockstep.call (lockstep : stores.Lockstep deployment id durable) (request : StoreCall)
    (failure : Option PyError) :
    ∃ results after, stores.call deployment id failure request = some (results, after) ∧
      stores.Kept durable results after := by
  cases request with
  | commit request => exact lockstep.call_commit request failure
  | merge incoming => exact lockstep.call_merge incoming failure
  | metadata key causalContext => exact lockstep.call_metadata key causalContext failure

theorem Lockstep.calls (lockstep : stores.Lockstep deployment id durable)
    (requests : List (StoreCall × Option PyError)) :
    ∃ after, stores.calls deployment id requests = some after ∧
      after.Lockstep deployment id durable := by
  induction requests generalizing stores with
  | nil => exact ⟨stores, rfl, lockstep⟩
  | cons first rest ih =>
      obtain ⟨results, middle, called, kept⟩ := lockstep.call first.1 first.2
      obtain ⟨after, continued, final⟩ := ih kept.1
      refine ⟨after, ?_, final⟩
      unfold TwoStores.calls
      rw [called]
      exact continued

end TwoStores

/-- A new durable store is in step with a new plain one. From stores in step, after any
calls, the rows, the memory and a plain store that was given the calls that succeeded are
in step, and so they are after the next call: it changes them together, or raises and
changes nothing. -/
theorem durable_lockstep (id : NodeId) (durable : deployment.durable id = true) :
    (TwoStores.initial deployment).Lockstep deployment id durable ∧
    ∀ start : TwoStores, start.Lockstep deployment id durable →
      ∀ (requests : List (StoreCall × Option PyError)) (next : StoreCall)
        (failure : Option PyError),
        ∃ before results after, start.calls deployment id requests = some before ∧
          before.call deployment id failure next = some (results, after) ∧
          after.Lockstep deployment id durable ∧
          (after.durable.nodes id).repository.frontier = (after.durable.nodes id).frontier ∧
          (∀ key, (after.durable.nodes id).repository.rows.get? key =
            ((after.durable.nodes id).store.get key).map encodeEntry) ∧
          match results with
          | (.error _, _) => before.Unchanged id after
          | (.ok value, copied) => copied = .ok value := by
  refine ⟨TwoStores.lockstep_initial durable, fun start lockstep requests next failure => ?_⟩
  obtain ⟨before, reached, lockstep⟩ := lockstep.calls requests
  obtain ⟨results, after, called, kept⟩ := lockstep.call next failure
  refine ⟨before, results, after, reached, called, kept.1, ?_, fun key => ?_, kept.2⟩
  · unfold Repository.frontier
    rw [kept.1.tables.clock]
    simp only [decodeVersionVector_encodeVersionVector]
  · rw [kept.1.tables.rows, SortedMap.get?_mapValues]
    rfl

/-- An increment is committed, and the commit of a second one fails. -/
theorem failedCommit_lockstep :
    ∃ before results after,
      (TwoStores.initial archives).calls archives east
        [(.commit ⟨[107], .gcounter, .increment, .null, 1, .empty, false, [], 0⟩, none)] =
          some before ∧
      before.call archives east (some ⟨.persistenceUnavailable, "disk"⟩)
        (.commit ⟨[107], .gcounter, .increment, .null, 2, .empty, false, [], 0⟩) =
          some (results, after) ∧
      after.Lockstep archives east rfl := by
  obtain ⟨fresh, lockstep⟩ := @durable_lockstep archives east rfl
  obtain ⟨before, results, after, reached, called, kept, _⟩ := lockstep _ fresh _ _ _
  exact ⟨before, results, after, reached, called, kept⟩

end Distsys
