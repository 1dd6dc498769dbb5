import Distsys.Guarantees.Windows

/-!
# Keys that block an anti-entropy pass

The loop of a pass deals with its keys in order, and an exception of one key ends it.
So the keys that are dealt with are those before the first key whose digests cannot be
compared or whose entry the other side rejects.
-/

namespace Distsys

section Pass

variable (deployment : Deployment) (environment : Environment) (id target : NodeId)
  (currentMap remoteMap : SortedMap PyStr CrdtDigestEntry)

/-- The fetch of an entry that the target can give away brings it. -/
def FetchSucceeds (key : PyStr) (next : StoredCrdtEntry → World → Prop) (world : World) : Prop :=
  ∀ other, (world.nodes target).store.get key = some other →
    (fetchOutcome deployment.json key other).isOk →
    ∃ after, (AntiEntropyPeer.fetchState deployment target key).run
      (World.overNetwork deployment environment ⟨id, 0⟩) world = some (.ok (some other), after) ∧
      next other after

/-- An entry that the target can take is acknowledged. -/
def PushSucceeds (entry : StoredCrdtEntry) (world : World) : Prop :=
  (pushOutcome deployment.json ((world.nodes target).store.get entry.key) entry).isOk →
    ∃ after, (AntiEntropyPeer.sendState deployment target entry).run
      (World.overNetwork deployment environment ⟨id, 0⟩) world = some (.ok (), after)

/-- The network calls that the loop makes for a key succeed. A request that the target rejects
is answered: what becomes of the key then is not a matter of the network. -/
def CallsSucceed (key : PyStr) (world : World) : Prop :=
  match prescribed (currentMap.get? key) (remoteMap.get? key) with
  | .error _ | .ok .equal => True
  | .ok .remoteAhead => FetchSucceeds deployment environment id target key (fun _ _ => True) world
  | .ok .localAhead => ∀ held, (world.nodes id).store.get key = some held →
      PushSucceeds deployment environment id target held world
  | .ok .concurrent => FetchSucceeds deployment environment id target key (fun state fetched =>
      ∀ merged stored, (mergeEntry deployment id state).run
        (World.overNetwork deployment environment ⟨id, 0⟩) fetched = some (.ok merged, stored) →
        PushSucceeds deployment environment id target merged stored) world
  | .ok .metadataOnly =>
      ∀ updated stored, (mergeMetadata deployment id key
        (joinedContext (currentMap.get? key) (remoteMap.get? key))).run
        (World.overNetwork deployment environment ⟨id, 0⟩) world = some (.ok updated, stored) →
        ∃ after, (AntiEntropyPeer.sendMetadata id target key
          (joinedContext (currentMap.get? key) (remoteMap.get? key))).run
          (World.overNetwork deployment environment ⟨id, 0⟩) stored = some (.ok (), after)

/-- The network calls of the loop succeed, as far as it gets. -/
def LoopSucceeds : List PyStr → World → Prop
  | [], _ => True
  | key :: rest, world =>
      CallsSucceed deployment environment id target currentMap remoteMap key world ∧
        ∀ repaired after, (reconcileKey deployment id target key (currentMap.get? key)
          (remoteMap.get? key)).run (World.overNetwork deployment environment ⟨id, 0⟩) world =
            some (.ok repaired, after) → LoopSucceeds rest after

/-- The digests show a difference that can be repaired. -/
def Differs (key : PyStr) : Prop :=
  ∃ relation, prescribed (currentMap.get? key) (remoteMap.get? key) = .ok relation ∧
    relation ≠ .equal

/-- The entry that is to be fetched or sent for the key is rejected: it cannot be written or read
on its way, or the side that receives it cannot merge it with its own. -/
def Rejected (stores : NodeId → Store) (key : PyStr) : Prop :=
  match prescribed (currentMap.get? key) (remoteMap.get? key) with
  | .error _ | .ok .equal | .ok .metadataOnly => False
  | .ok .localAhead => ∃ held error, (stores id).get key = some held ∧
      pushOutcome deployment.json ((stores target).get key) held = .error error
  | .ok .remoteAhead => ∃ other error, (stores target).get key = some other ∧
      fetchOutcome deployment.json key other >>= combine ((stores id).get key) = .error error
  | .ok .concurrent => ∃ other error, (stores target).get key = some other ∧
      (fetchOutcome deployment.json key other >>= combine ((stores id).get key)) >>=
        pushOutcome deployment.json ((stores target).get key) = .error error

end Pass

variable {deployment : Deployment} {environment : Environment} {id target : NodeId}
  {currentMap remoteMap : SortedMap PyStr CrdtDigestEntry} {world : World}
  {stores : NodeId → Store} {key : PyStr} {state : StoredCrdtEntry} {left : NodeId → Store}
  {rest keys : List PyStr}

section Calls

variable {other entry : StoredCrdtEntry} {next : StoredCrdtEntry → World → Prop}

end Calls

section Ended

variable {relation : DigestRelation}

/-- A key whose entry is rejected is one that differs. -/
theorem Rejected.differs (rejected : Rejected deployment id target currentMap remoteMap
    stores key) :
    Differs currentMap remoteMap key := by
  unfold Rejected at rejected
  split at rejected
  · exact rejected.elim
  · exact rejected.elim
  · exact rejected.elim
  all_goals next prescribes => exact ⟨_, prescribes, nofun⟩

end Ended

/-- The digests of a key are those of its entries. -/
def Faithful (id target : NodeId) (currentMap remoteMap : SortedMap PyStr CrdtDigestEntry)
    (stores : NodeId → Store) (key : PyStr) : Prop :=
  (∀ digest, currentMap.get? key = some digest → ∃ entry, (stores id).get key = some entry ∧
    digest = .fromEntry entry) ∧
  ∀ digest, remoteMap.get? key = some digest → ∃ entry, (stores target).get key = some entry ∧
    digest = .fromEntry entry

theorem Faithful.congr (faithful : Faithful id target currentMap remoteMap stores key)
    (same : ∀ node, (left node).get key = (stores node).get key) :
    Faithful id target currentMap remoteMap left key := by
  unfold Faithful
  rw [same, same]
  exact faithful

theorem Faithful.held (faithful : Faithful id target currentMap remoteMap stores key)
    (digest : CrdtDigestEntry) (lists : currentMap.get? key = some digest) :
    ∃ entry, (stores id).get key = some entry := by
  obtain ⟨entry, found, _⟩ := faithful.1 digest lists
  exact ⟨entry, found⟩

theorem Rejected.congr (same : ∀ node, (left node).get key = (stores node).get key) :
    Rejected deployment id target currentMap remoteMap left key ↔
      Rejected deployment id target currentMap remoteMap stores key := by
  unfold Rejected
  rw [same, same]

/-- One turn of a loop and the rest of it. -/
theorem run_reconcileKeys_cons {repairs total : Nat} {after : World}
    (ran : (reconcileKeys deployment id target currentMap remoteMap (key :: rest) repairs).run
      (World.overNetwork deployment environment ⟨id, 0⟩) world = some (.ok total, after)) :
    ∃ repaired middle repairs, (reconcileKey deployment id target key (currentMap.get? key)
      (remoteMap.get? key)).run (World.overNetwork deployment environment ⟨id, 0⟩) world =
        some (.ok repaired, middle) ∧
      (reconcileKeys deployment id target currentMap remoteMap rest repairs).run
        (World.overNetwork deployment environment ⟨id, 0⟩) middle = some (.ok total, after) := by
  rcases Prog.run_bind_eq_some _ ran with ⟨repaired, middle, first, continued⟩ | ⟨_, _, fails⟩
  · exact ⟨repaired, middle, _, first, continued⟩
  · cases fails

theorem LoopSucceeds.earlier {earlier later : List PyStr}
    (succeeds : LoopSucceeds deployment environment id target currentMap remoteMap
      (earlier ++ later) world) :
    LoopSucceeds deployment environment id target currentMap remoteMap earlier world := by
  induction earlier generalizing world with
  | nil => trivial
  | cons key rest ih =>
      exact ⟨succeeds.1, fun repaired after ran => ih (succeeds.2 repaired after ran)⟩

/-- The calls of the keys that are left succeed in the world that the loop has reached. -/
theorem LoopSucceeds.later {earlier later : List PyStr} {repairs total : Nat} {after : World}
    (succeeds : LoopSucceeds deployment environment id target currentMap remoteMap
      (earlier ++ later) world)
    (ran : (reconcileKeys deployment id target currentMap remoteMap earlier repairs).run
      (World.overNetwork deployment environment ⟨id, 0⟩) world = some (.ok total, after)) :
    LoopSucceeds deployment environment id target currentMap remoteMap later after := by
  induction earlier generalizing world repairs with
  | nil =>
      cases ran
      exact succeeds
  | cons key rest ih =>
      obtain ⟨repaired, middle, repairs, first, continued⟩ := run_reconcileKeys_cons ran
      exact ih (succeeds.2 repaired middle first) continued

/-- Entries whose digests differ in their contexts only. -/
theorem Faithful.metadata (faithful : Faithful id target currentMap remoteMap stores key)
    (prescribes : prescribed (currentMap.get? key) (remoteMap.get? key) = .ok .metadataOnly)
    {held : StoredCrdtEntry} (found : (stores id).get key = some held) :
    ∃ other, (stores target).get key = some other ∧ other.crdtType = held.crdtType ∧
      other.stateVersion = held.stateVersion := by
  match mine : currentMap.get? key, theirs : remoteMap.get? key with
  | none, none => rw [mine, theirs] at prescribes; cases prescribes
  | none, some _ => rw [mine, theirs] at prescribes; cases prescribes
  | some _, none => rw [mine, theirs] at prescribes; cases prescribes
  | some current, some remote =>
      rw [mine, theirs] at prescribes
      obtain ⟨entry, here, rfl⟩ := faithful.1 current mine
      obtain ⟨other, there, rfl⟩ := faithful.2 remote theirs
      cases here.symm.trans found
      exact ⟨other, there, (agree_of_compareDigest prescribes).2.symm,
        (stateVersion_eq_of_compareDigest prescribes).symm⟩

/-- The two ways to start a pass. -/
inductive Pass
  | runOnce
  | reconcilePeer (keys : Option (List PyStr))

namespace Pass

/-- The coroutine of the pass. -/
def code (deployment : Deployment) (id target : NodeId) : Pass → Code ReconcileStats
  | .runOnce => Distsys.runOnce deployment id
  | .reconcilePeer keys => Distsys.reconcilePeer deployment id target keys

/-- The digest that the pass sends. -/
def digests (deployment : Deployment) (environment : Environment) (id target : NodeId)
    (store : Store) : Pass → List CrdtDigestEntry
  | .runOnce => (environment.digestOf id target store).take deployment.batchSize
  | .reconcilePeer none => environment.digestOf id target store
  | .reconcilePeer (some keys) =>
      (environment.digestOf id target store).filter fun item => item.key ∈ keys

/-- How many keys it looks at. -/
def limit (deployment : Deployment) : Pass → Option Nat
  | .runOnce => some deployment.batchSize
  | .reconcilePeer _ => none

theorem mem_digestOf {pass : Pass} {store : Store} {digest : CrdtDigestEntry}
    (listed : digest ∈ pass.digests deployment environment id target store) :
    digest ∈ environment.digestOf id target store := by
  match pass with
  | .runOnce => exact List.mem_of_mem_take listed
  | .reconcilePeer none => exact listed
  | .reconcilePeer (some _) => exact List.mem_of_mem_filter listed

end Pass

end Distsys
