import Distsys.Cluster.Handling

/-!
# Safety of the background coroutines

The replication worker, the rounds of anti-entropy and the reconciliation after a
recovery keep the invariant, whatever they find.
-/

namespace Distsys

variable {deployment : Deployment} {discipline : Discipline} {thread : Thread} {world : World}

section Replicator

theorem harmless_sendWithRetry {item : PendingReplication} (attempts : Nat)
    (sound : item.state.Sound deployment.json discipline world.past) :
    Harmless deployment discipline thread (sendWithRetry deployment item attempts) world := by
  induction attempts generalizing world with
  | zero => exact yields_throw _
  | succ attempts ih =>
      refine (yields_replicate sound).catching fun error failed moved => ?_
      split
      · exact yields_throw error
      · exact ih (sound.grows moved.past)

theorem harmless_workerTurn :
    Harmless deployment discipline thread (workerTurn deployment) world := by
  refine yields_nextReady.bind fun ready now _ sound => ?_
  cases ready with
  | none => exact harmless_pure _
  | some item =>
      refine (harmless_sendWithRetry _ (sound item rfl)).attempt.bind fun outcome _ _ _ => ?_
      cases outcome with
      | ok _ => exact yields_complete.bind fun _ _ _ _ => harmless_pure _
      | error error =>
          dsimp only
          cases expectedSendFailure error with
          | true => exact yields_abandon.bind fun _ _ _ _ => harmless_pure _
          | false => exact yields_throw error

end Replicator

section Keys

variable {target : NodeId} {key : PyStr}

theorem yields_sharedDigest (digests : List CrdtDigestEntry) :
    Yields deployment discipline thread (fun shared _ => shared ⊆ digests)
      (sharedDigest thread.node target digests) world := by
  induction digests generalizing world with
  | nil => exact yields_pure fun _ _ => List.Subset.refl []
  | cons digest rest ih =>
      refine (yields_ask (.replicas digest.key) trivial).bind fun replicas _ _ _ => ?_
      refine ih.bind fun shared _ _ among => ?_
      split
      · exact yields_pure fun _ _ => List.cons_subset_cons digest among
      · exact yields_pure fun _ _ => List.subset_cons_of_subset digest among

theorem harmless_pull :
    Harmless deployment discipline thread
      (reconcileKey.pull deployment thread.node target key) world := by
  refine yields_fetchState.bind fun state _ _ sound => ?_
  cases state with
  | none => exact harmless_pure _
  | some entry => exact (yields_mergeEntry (sound entry rfl)).bind fun _ _ _ _ => harmless_pure _

theorem harmless_push :
    Harmless deployment discipline thread (reconcileKey.push deployment target key) world := by
  refine yields_get fun now inv _ => ?_
  cases found : (now.nodes thread.node).store.get key with
  | none => exact harmless_pure _
  | some entry =>
      exact (yields_replicate (inv.stores found).sound).bind fun _ _ _ _ => harmless_pure _

/-- The metadata that is sent is backed by the version it is sent with. -/
theorem harmless_sendMetadata {context : VersionVector}
    (vouched : world.Vouched discipline thread.node key context) :
    Harmless deployment discipline thread
      (AntiEntropyPeer.sendMetadata thread.node target key context) world := by
  refine yields_get fun now inv moved => ?_
  replace vouched := vouched.later moved
  cases found : (now.nodes thread.node).store.get key with
  | none => exact harmless_pure _
  | some entry =>
      have same := Store.key_of_get found
      have backs := vouched.backs
      rw [Node.version, found] at backs
      refine (yields_digest ?_).bind fun _ _ _ _ => harmless_pure _
      refine List.forall_mem_singleton.mpr ⟨(inv.stores found).sound.version, vouched.known, ?_⟩
      exact same ▸ backs

/-- The local side of a comparison is known to this node and the remote side is sound. -/
theorem harmless_reconcileKey {current remote : Option CrdtDigestEntry}
    (lists : ∀ digest, current = some digest →
      digest.key = key ∧ world.Lists discipline thread.node digest)
    (sound : ∀ digest, remote = some digest →
      digest.key = key ∧ digest.Sound discipline world.past) :
    Harmless deployment discipline thread
      (reconcileKey deployment thread.node target key current remote) world := by
  cases current with
  | none =>
      cases remote with
      | none => exact yields_throw _
      | some remote => exact harmless_pull
  | some current =>
      cases remote with
      | none => exact harmless_push
      | some remote =>
          obtain ⟨rfl, listed⟩ := lists current rfl
          obtain ⟨same, remoteSound⟩ := sound remote rfl
          rw [reconcileKey]
          refine yields_compute fun relation compared => ?_
          cases relation with
          | equal => exact harmless_pure _
          | localAhead => exact harmless_push
          | remoteAhead => exact harmless_pull
          | concurrent =>
              refine yields_fetchState.bind fun state _ _ sound => ?_
              cases state with
              | none => exact harmless_pure _
              | some entry =>
                  refine (yields_mergeEntry (sound entry rfl)).bind ?_
                  rintro merged _ _ ⟨stores, _⟩
                  exact (yields_replicate stores.sound).bind fun _ _ _ _ => harmless_pure _
          | metadataOnly =>
              have versions := stateVersion_eq_of_compareDigest compared
              have vouched : world.Vouched discipline thread.node current.key
                  (current.causalContext ⊔ remote.causalContext) := by
                refine World.Vouched.sup
                  ⟨listed.sound.context, listed.sound.backed.mono listed.version le_rfl⟩
                  ⟨remoteSound.context, ?_⟩
                have backs := remoteSound.backed
                rw [same, ← versions] at backs
                exact backs.mono listed.version le_rfl
              dsimp only
              rw [Tally.merge_eq_sup]
              exact (yields_mergeMetadata vouched).bind fun _ _ moved _ =>
                (harmless_sendMetadata (vouched.later moved)).bind fun _ _ _ _ => harmless_pure _

theorem harmless_reconcileKeys {currentMap remoteMap : SortedMap PyStr CrdtDigestEntry}
    (keys : List PyStr) (repairs : Nat)
    (lists : ∀ key digest, currentMap.get? key = some digest →
      digest.key = key ∧ world.Lists discipline thread.node digest)
    (sound : ∀ key digest, remoteMap.get? key = some digest →
      digest.key = key ∧ digest.Sound discipline world.past) :
    Harmless deployment discipline thread
      (reconcileKeys deployment thread.node target currentMap remoteMap keys repairs) world := by
  induction keys generalizing world repairs with
  | nil => exact harmless_pure _
  | cons key rest ih =>
      refine (harmless_reconcileKey (lists key) (sound key)).bind fun _ now moved _ => ?_
      refine ih _ (fun key digest found => ?_) fun key digest found => ?_
      · exact ⟨(lists key digest found).1, (lists key digest found).2.later moved⟩
      · exact ⟨(sound key digest found).1, (sound key digest found).2.grows moved.past⟩

end Keys

section Rounds

variable {target : NodeId}

theorem harmless_reconcileDigest {digests : List CrdtDigestEntry} {limit : Option Nat}
    (lists : ∀ digest ∈ digests, world.Lists discipline thread.node digest) :
    Harmless deployment discipline thread
      (reconcileDigest deployment thread.node target digests limit) world := by
  refine (yields_digest fun digest listed => (lists digest listed).sound).attempt.bind ?_
  intro outcome exchanged moved sound
  cases outcome with
  | error error =>
      dsimp only
      split
      · exact harmless_pure _
      · exact yields_throw error
  | ok received =>
      refine (yields_sharedDigest received).bind fun shared walked further among => ?_
      refine (harmless_reconcileKeys _ 0 ?_ ?_).bind fun _ _ _ _ => harmless_pure _
      · intro key digest found
        obtain ⟨listed, same⟩ := mem_of_digestMap found
        exact ⟨same, (lists digest listed).later (moved.trans further)⟩
      · intro key digest found
        obtain ⟨listed, same⟩ := mem_of_digestMap found
        exact ⟨same, (sound received rfl digest (among listed)).grows further.past⟩

theorem harmless_reconcilePeer {keys : Option (List PyStr)} :
    Harmless deployment discipline thread
      (reconcilePeer deployment thread.node target keys) world := by
  refine yields_digestSnapshot.bind fun digests _ _ lists => ?_
  refine harmless_reconcileDigest fun digest member => lists digest ?_
  cases keys with
  | none => exact member
  | some keys => exact List.mem_of_mem_filter member

theorem harmless_runOnce :
    Harmless deployment discipline thread (runOnce deployment thread.node) world := by
  refine (yields_ask .alivePeers trivial).bind fun alive _ _ _ => ?_
  dsimp only
  split
  · exact harmless_pure _
  refine (yields_ask (.choosePeer _) trivial).bind fun target chosen _ _ => ?_
  have digest : Yields deployment discipline thread
      (fun digests later => ∀ digest ∈ digests, later.Lists discipline thread.node digest)
      (localDigestFor deployment thread.node target) chosen :=
    yields_digestSnapshot.bind fun digests _ _ lists => yields_pure fun _ moved digest member =>
      (lists digest (List.mem_of_mem_take member)).later moved
  exact digest.bind fun _ _ _ lists => harmless_reconcileDigest lists

theorem harmless_markAuthority (keys : List PyStr) :
    Harmless deployment discipline thread (markAuthority thread.node keys) world := by
  induction keys generalizing world with
  | nil => exact harmless_pure _
  | cons key rest ih =>
      refine (yields_ask (.replicas key) trivial).bind fun replicas _ _ _ => ?_
      refine (yields_ask (.markAuthority key _) trivial).bind fun outcome _ _ _ => ?_
      exact yields_compute fun _ _ => ih.bind fun _ _ _ _ => harmless_pure _

theorem harmless_reconcilePeers {authoritative : List (PyStr × List NodeId)} (peers : List NodeId)
    (contacted failures : Nat) :
    Harmless deployment discipline thread
      (reconcilePeers deployment thread.node authoritative peers contacted failures) world := by
  induction peers generalizing world contacted failures with
  | nil => exact harmless_pure _
  | cons peer rest ih =>
      rw [reconcilePeers]
      split
      · exact ih _ _
      refine harmless_reconcilePeer.attempt.bind fun outcome _ _ _ => ?_
      cases outcome with
      | ok stats => exact ih _ _
      | error error =>
          dsimp only
          split
          · exact ih _ _
          · exact yields_throw error

theorem harmless_reconcile {peers : List NodeId} :
    Harmless deployment discipline thread (reconcile deployment thread.node peers) world :=
  (yields_ask .keys trivial).bind fun _ _ _ _ => (harmless_markAuthority _).bind fun _ _ _ _ =>
    (harmless_reconcilePeers peers 0 0).bind fun _ _ _ _ => harmless_pure _

end Rounds

end Distsys
