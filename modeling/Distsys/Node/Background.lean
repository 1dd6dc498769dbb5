import Distsys.Node.Conduct

/-!
# Background coroutines keep to the protocol

The coroutines of `Replicator`, `AntiEntropyService` and `RecoveryReconciler`. A worker
gives back the item that it has taken.
-/

namespace Distsys

variable {α : Type} {deployment : Deployment} {id : NodeId} {session : Session}

section Replicator

/-- `_send_with_retry`. -/
theorem passes_sendWithRetry (item : PendingReplication) (attempts : Nat) :
    Passes deployment id (sendWithRetry deployment item attempts) := by
  induction attempts with
  | zero => exact visits_throw _
  | succ attempts ih =>
      refine Visits.catching (passes_replicate item.peerNodeId item.state) fun error => ?_
      split
      · exact visits_throw error
      · exact ih

/-- One turn of `_worker`. -/
theorem inOrder_workerTurn {post : Except PyError Unit → Session → Prop} (idle : session.Idle)
    (worker : session.worker = true) (free : session.work.item = none)
    (rest : ∀ work view result, post result { session with work, view }) :
    InOrder deployment id post (workerTurn deployment) session := by
  refine inOrder_perform ⟨worker, free⟩ fun ready _ => ?_
  match ready with
  | none => exact Prog.obeys_pure (rest _ _ _)
  | some item =>
      have taken : ({ session with work := { session.work with item } } : Session).Idle := idle
      refine Prog.Obeys.bind (Prog.Obeys.attempt ((passes_sendWithRetry item
        deployment.maxAttempts).inOrder taken (fun view _ _ => ?_) fun view error => ?_))
      · exact Prog.obeys_act rfl fun _ _ => Prog.obeys_done (rest _ _ _)
      · by_cases expected : expectedSendFailure error
        · simp only [expected]
          exact Prog.obeys_act rfl fun _ _ => Prog.obeys_done (rest _ _ _)
        · simp only [expected, Bool.false_eq_true]
          exact Prog.obeys_done (rest _ _ _)

end Replicator

section AntiEntropy

/-- The part of a digest that a peer shares. -/
theorem passes_sharedDigest (target : NodeId) (digests : List CrdtDigestEntry) :
    Passes deployment id (sharedDigest id target digests) := by
  induction digests with
  | nil => exact passes_pure _
  | cons digest others ih =>
      refine (passes_perform rfl).pass fun (replicas : List NodeId) => ih.pass fun shared => ?_
      split
      · exact passes_pure _
      · exact passes_pure _

/-- `send_metadata`. -/
theorem passes_sendMetadata (target : NodeId) (key : PyStr) (context : VersionVector) :
    Passes deployment id (AntiEntropyPeer.sendMetadata id target key context) := by
  refine (passes_get key).pass fun current => ?_
  cases current with
  | none => exact passes_pure _
  | some entry => exact (passes_digest ..).pass fun _ => passes_pure _

/-- One key of a digest. -/
theorem passes_reconcileKey (target : NodeId) (key : PyStr)
    (current remote : Option CrdtDigestEntry) :
    Passes deployment id (reconcileKey deployment id target key current remote) := by
  have pulls : Passes deployment id (reconcileKey.pull deployment id target key) := by
    refine (passes_fetchState target key).pass fun state => ?_
    cases state with
    | none => exact passes_pure _
    | some entry => exact (visits_mergeEntry entry).pass fun _ => passes_pure _
  have pushes : Passes deployment id (reconcileKey.push deployment target key) := by
    refine (passes_get key).pass fun stored => ?_
    cases stored with
    | none => exact passes_pure _
    | some state => exact (passes_replicate target state).pass fun _ => passes_pure _
  match current, remote with
  | none, none => exact visits_throw _
  | none, some _ => exact pulls
  | some _, none => exact pushes
  | some current, some remote =>
      refine (passes_ofExcept _).pass fun comparison => ?_
      cases comparison with
      | equal => exact passes_pure _
      | metadataOnly =>
          exact (visits_mergeMetadata ..).pass fun _ => (passes_sendMetadata ..).pass fun _ =>
            passes_pure _
      | localAhead => exact pushes
      | remoteAhead => exact pulls
      | concurrent =>
          refine (passes_fetchState target key).pass fun state => ?_
          cases state with
          | none => exact passes_pure _
          | some entry =>
              exact (visits_mergeEntry entry).pass fun merged =>
                (passes_replicate target merged).pass fun _ => passes_pure _

/-- The keys of a digest, one after the other. -/
theorem passes_reconcileKeys (target : NodeId)
    (currentMap remoteMap : SortedMap PyStr CrdtDigestEntry) (keys : List PyStr) (repairs : Nat) :
    Passes deployment id
      (reconcileKeys deployment id target currentMap remoteMap keys repairs) := by
  induction keys generalizing repairs with
  | nil => exact passes_pure _
  | cons key keys ih => exact (passes_reconcileKey ..).pass fun _ => ih _

/-- `_reconcile_digest`. -/
theorem passes_reconcileDigest (target : NodeId) (digest : List CrdtDigestEntry)
    (limit : Option Nat) :
    Passes deployment id (reconcileDigest deployment id target digest limit) := by
  refine (passes_digest target digest _).attempt.pass fun answered => ?_
  cases answered with
  | ok heard =>
      exact (passes_sharedDigest target heard).pass fun _ => (passes_reconcileKeys ..).pass fun _ =>
        passes_pure _
  | error error =>
      dsimp only
      split
      · exact passes_pure _
      · exact visits_throw _

/-- `reconcile_peer`. -/
theorem passes_reconcilePeer (target : NodeId) (keys : Option (List PyStr)) :
    Passes deployment id (reconcilePeer deployment id target keys) :=
  (passes_digestSnapshot target.val).pass fun _ => passes_reconcileDigest ..

/-- `run_once`. -/
theorem passes_runOnce : Passes deployment id (runOnce deployment id) := by
  refine (passes_perform rfl).pass fun (alive : List NodeId) => ?_
  dsimp only
  split
  · exact passes_pure _
  · refine (passes_perform rfl).pass fun target => ?_
    have digests : Passes deployment id (localDigestFor deployment id target) :=
      (passes_digestSnapshot _).pass fun _ => passes_pure _
    exact digests.pass fun _ => passes_reconcileDigest ..

/-- The keys that this node has authority for are marked. -/
theorem passes_markAuthority (keys : List PyStr) :
    Passes deployment id (markAuthority id keys) := by
  induction keys with
  | nil => exact passes_pure _
  | cons key keys ih =>
      exact (passes_perform rfl).pass fun _ => (passes_perform rfl).pass fun _ =>
        (passes_ofExcept _).pass fun _ => ih.pass fun _ => passes_pure _

/-- The peers of a recovery, one after the other. -/
theorem passes_reconcilePeers (authoritative : List (PyStr × List NodeId)) (peers : List NodeId)
    (contacted failures : Nat) :
    Passes deployment id (reconcilePeers deployment id authoritative peers contacted failures) := by
  induction peers generalizing contacted failures with
  | nil => exact passes_pure _
  | cons peer peers ih =>
      unfold reconcilePeers
      dsimp only
      split
      · exact ih _ _
      · refine (passes_reconcilePeer peer _).attempt.pass fun result => ?_
        cases result with
        | ok stats => exact ih _ _
        | error error =>
            dsimp only
            split
            · exact ih _ _
            · exact visits_throw _

/-- `RecoveryReconciler.reconcile`. -/
theorem passes_reconcile (peers : List NodeId) :
    Passes deployment id (reconcile deployment id peers) :=
  (passes_perform rfl).pass fun _ => (passes_markAuthority _).pass fun _ =>
    (passes_reconcilePeers ..).pass fun _ => passes_pure _

end AntiEntropy

end Distsys
