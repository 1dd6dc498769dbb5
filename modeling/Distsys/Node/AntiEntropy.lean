import Distsys.Node.Service

/-!
# Background replication

The coroutines of `Replicator`, `AntiEntropyService` and `RecoveryReconciler`.
-/

namespace Distsys

/-- `ReconcileStats`. -/
structure ReconcileStats where
  keysChecked : Nat := 0
  repairs : Nat := 0
  failures : Nat := 0
  deriving DecidableEq

/-- `RecoveryReconciliationResult`. -/
structure RecoveryReconciliationResult where
  keysChecked : Nat
  authoritativeKeys : Nat
  peersContacted : Nat
  failures : Nat
  deriving DecidableEq

section

variable (deployment : Deployment) (id : NodeId)

/-- The failures of a send that the worker expects; any other ends it. -/
def expectedSendFailure (error : PyError) : Bool :=
  match error.kind with
  | .connectionError | .deadlineExceeded | .crdtRemoteError _ | .decodeError => true
  | _ => false

/-- `retry_async` around one send: only transport failures are tried again. -/
def sendWithRetry (item : PendingReplication) : Nat → Code Unit
  | 0 => throw ⟨.runtimeError, "retry loop exhausted unexpectedly"⟩
  | attempts + 1 =>
      (CrdtPeerClient.replicate deployment item.peerNodeId item.state).catching fun error =>
        if attempts = 0 || !error.isTransport then throw error
        else sendWithRetry item attempts

/-- One turn of `_worker`. -/
def workerTurn : Code Unit := do
  let ready : Option PendingReplication ← perform .nextReady
  match ready with
  | none => return ()
  | some item =>
      match ← (sendWithRetry deployment item deployment.maxAttempts).attempt with
      | .ok _ => perform (.complete item)
      | .error error =>
          if expectedSendFailure error then perform (.abandon item) else throw error

/-- The items of a digest that are about keys both nodes replicate. -/
def sharedDigest (target : NodeId) : List CrdtDigestEntry → Code (List CrdtDigestEntry)
  | [] => return []
  | item :: rest => do
      let replicas : List NodeId ← perform (.replicas item.key)
      let others ← sharedDigest target rest
      if id ∈ replicas ∧ target ∈ replicas then return item :: others
      else return others

/-- What the loop of `_reconcile_digest` does for one key, and whether it repaired. -/
def reconcileKey (target : NodeId) (key : PyStr) (current remote : Option CrdtDigestEntry) :
    Code Bool :=
  match current, remote with
  | none, none => throw ⟨.assertionError, ""⟩
  | none, some _ => pull
  | some _, none => push
  | some current, some remote => do
      match ← Prog.ofExcept (compareDigest current remote) with
      | .equal => return false
      | .metadataOnly => do
          let mergedContext : VersionVector := current.causalContext.merge remote.causalContext
          let _ ← mergeMetadata deployment id key mergedContext
          AntiEntropyPeer.sendMetadata id target key mergedContext
          return true
      | .localAhead => push
      | .remoteAhead => pull
      | .concurrent => do
          match ← AntiEntropyPeer.fetchState deployment target key with
          | none => return false
          | some state => do
              let merged ← mergeEntry deployment id state
              AntiEntropyPeer.sendState deployment target merged
              return true
where
  pull : Code Bool := do
    match ← AntiEntropyPeer.fetchState deployment target key with
    | none => return false
    | some state => do
        let _ ← mergeEntry deployment id state
        return true
  push : Code Bool := do
    let stored : Option StoredCrdtEntry ← perform (.get key)
    match stored with
    | none => return false
    | some state => do
        AntiEntropyPeer.sendState deployment target state
        return true

/-- The loop of `_reconcile_digest`, with the repairs made so far. -/
def reconcileKeys (target : NodeId) (currentMap remoteMap : SortedMap PyStr CrdtDigestEntry) :
    List PyStr → Nat → Code Nat
  | [], repairs => return repairs
  | key :: rest, repairs => do
      let repaired ← reconcileKey deployment id target key (currentMap.get? key)
        (remoteMap.get? key)
      reconcileKeys target currentMap remoteMap rest (if repaired then repairs + 1 else repairs)

/-- `{item.key: item for item in digest}`. -/
def digestMap (digest : List CrdtDigestEntry) : SortedMap PyStr CrdtDigestEntry :=
  .ofList (digest.map fun item => (item.key, item))

theorem mem_of_digestMap {digests : List CrdtDigestEntry} {key : PyStr} {digest : CrdtDigestEntry}
    (found : (digestMap digests).get? key = some digest) : digest ∈ digests ∧ digest.key = key := by
  obtain ⟨other, listed, same⟩ := List.mem_map.mp (SortedMap.mem_of_get?_ofList found)
  cases same
  exact ⟨listed, rfl⟩

/-- `sorted(set(local_map) | set(remote_map))`, cut to the limit. -/
def reconciledKeys (currentMap remoteMap : SortedMap PyStr CrdtDigestEntry) (limit : Option Nat) :
    List PyStr :=
  let all := (SortedMap.ofKeys (currentMap.keys ++ remoteMap.keys) fun _ => ()).keys
  match limit with
  | none => all
  | some limit => all.take limit

/-- `_reconcile_digest`. -/
def reconcileDigest (target : NodeId) (currentDigest : List CrdtDigestEntry) (limit : Option Nat) :
    Code ReconcileStats := do
  match ← (AntiEntropyPeer.exchangeDigest id target currentDigest).attempt with
  | .error error => if error.isTransport then return { failures := 1 } else throw error
  | .ok remoteDigest => do
      let remoteShared ← sharedDigest id target remoteDigest
      let currentMap := digestMap currentDigest
      let remoteMap := digestMap remoteShared
      let keys := reconciledKeys currentMap remoteMap limit
      let repairs ← reconcileKeys deployment id target currentMap remoteMap keys 0
      return { keysChecked := keys.length, repairs }

/-- `_local_digest_for`. -/
def localDigestFor (target : NodeId) : Code (List CrdtDigestEntry) := do
  let digest ← digestSnapshot id target.val
  return digest.take deployment.batchSize

/-- `reconcile_peer`. -/
def reconcilePeer (target : NodeId) (keys : Option (List PyStr)) : Code ReconcileStats := do
  let digest ← digestSnapshot id target.val
  let selected := match keys with
    | none => digest
    | some keys => digest.filter fun item => item.key ∈ keys
  reconcileDigest deployment id target selected none

/-- `run_once`. -/
def runOnce : Code ReconcileStats := do
  let alive : List NodeId ← perform .alivePeers
  let peers := alive.filter (· ≠ id)
  if peers = [] then return {}
  else do
    let target : NodeId ← perform (.choosePeer peers)
    let digest ← localDigestFor deployment id target
    reconcileDigest deployment id target digest (some deployment.batchSize)

/-- The first loop of `reconcile`: the replicas of every key this node is to own. -/
def markAuthority : List PyStr → Code (List (PyStr × List NodeId))
  | [] => return []
  | key :: rest => do
      let replicas : List NodeId ← perform (.replicas key)
      let marked ← perform (.markAuthority key (id ∈ replicas))
      let _ ← Prog.ofExcept marked
      let others ← markAuthority rest
      return if id ∈ replicas then (key, replicas) :: others else others

/-- The second loop of `reconcile`, with the peers contacted and the failures so far. -/
def reconcilePeers (authoritative : List (PyStr × List NodeId)) :
    List NodeId → Nat → Nat → Code (Nat × Nat)
  | [], contacted, failures => return (contacted, failures)
  | peer :: rest, contacted, failures =>
      let relevant := (authoritative.filter fun item => peer ∈ item.2).map Prod.fst
      if peer = id ∨ relevant = [] then reconcilePeers authoritative rest contacted failures
      else do
        match ← (reconcilePeer deployment id peer (some relevant)).attempt with
        | .ok stats => reconcilePeers authoritative rest (contacted + 1) (failures + stats.failures)
        | .error error =>
            if error.isTransport then
              reconcilePeers authoritative rest (contacted + 1) (failures + 1)
            else throw error

/-- `RecoveryReconciler.reconcile`, given the peers that are alive. -/
def reconcile (peers : List NodeId) : Code RecoveryReconciliationResult := do
  let keys : List PyStr ← perform .keys
  let authoritative ← markAuthority id keys
  let (contacted, failures) ← reconcilePeers deployment id authoritative peers 0 0
  return ⟨keys.length, authoritative.length, contacted, failures⟩

end

end Distsys
