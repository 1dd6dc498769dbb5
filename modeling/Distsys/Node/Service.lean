import Distsys.Node.Peers

/-!
# The CRDT service of a node

The coroutines of `CrdtService` and `CausalRepairService`: routing, the causal
check with its repair, mutations, reads and the handling of peer messages.
-/

namespace Distsys

/-- A fetch that a peer answered. -/
structure PeerCrdtFetch where
  peerNodeId : NodeId
  entry : Option StoredCrdtEntry
  causalFrontier : VersionVector

/-- `CausalRepairResult`. -/
structure CausalRepairResult where
  mergedVersion : VersionVector
  contactedNodes : List NodeId
  successfulNodes : List NodeId

/-- `_materialize`. -/
def materialize (json : JsonReader) (entry : StoredCrdtEntry) : Except PyError Json :=
  match entry.state with
  | .gcounter counter => .ok (.int counter.value)
  | .pncounter counter => .ok (.int counter.value)
  | .orset set => .ok (.list (set.value.map .str))
  | .mvregister register => do
      let values ← register.visiblePayloads.mapM fun payload =>
        (json.loads payload).mapError JsonFailure.raised
      return .list values

section

variable (deployment : Deployment) (id : NodeId)

/-- `_error`. -/
def errorResponse (code : ErrorCode) (message : String) : Code CrdtResponseData := do
  let frontier ← CausalClock.frontier
  return {
    success := false
    errorCode := some code
    errorMessage := message
    servedBy := id.val
    peerFrontier := frontier }

/-- `_success`. -/
def successResponse (entry : StoredCrdtEntry) (repairPerformed includeState : Bool) :
    Code CrdtResponseData := do
  let _ ← CausalClock.observe entry.causalContext
  let current ← CausalClock.frontier
  let frontier : VersionVector := current.merge entry.causalContext
  let value ← Prog.ofExcept (materialize deployment.json entry)
  return {
    success := true
    crdtType := some entry.crdtType
    value
    causalToken := ⟨frontier⟩
    servedBy := id.val
    repairPerformed
    state := if includeState then some entry else none
    peerFrontier := frontier }

/-- What a routing coroutine makes of an exception of the forwarded request. -/
def forwardingFailure (error : PyError) : Code CrdtResponseData :=
  match error.kind with
  | .crdtRemoteError code => errorResponse id code error.message
  | .connectionError => errorResponse id .peerUnavailable error.message
  | _ => throw error

/-- The common body of `_route_mutation` and `_route_read`. -/
def routeRequest (key : PyStr) (forwarded : Bool) (misrouted : String)
    (forward : NodeId → Code CrdtResponseData) : Code (Option CrdtResponseData) := do
  let replicas : List NodeId ← perform (.replicas key)
  match replicas with
  | [] => throw ⟨.noRouteError, "no ALIVE CRDT replica is available"⟩
  | target :: _ =>
      if id ∈ replicas then return none
      else if forwarded then do
        let response ← errorResponse id .noRoute misrouted
        return some response
      else do
        let response ← (forward target).catching (forwardingFailure id)
        return some response

/-- `_route_mutation`. -/
def routeMutation (request : CrdtMutationData) : Code (Option CrdtResponseData) :=
  routeRequest id request.key request.forwarded "forwarded CRDT mutation reached a non-replica"
    fun target => CrdtPeerClient.forwardMutation deployment id target request

/-- `_route_read`. -/
def routeRead (request : CrdtReadData) : Code (Option CrdtResponseData) :=
  routeRequest id request.key request.forwarded "forwarded CRDT read reached a non-replica"
    fun target => CrdtPeerClient.forwardRead deployment id target request

/-- Send the fetches of a repair. -/
def startFetches (key : PyStr) : List NodeId → Code (List (NodeId × Except PyError Nat))
  | [] => return []
  | peer :: rest => do
      let started ← (do
        let msg ← Prog.ofExcept (fetchRequestToProto key)
        perform (.send peer (.fetch msg)) : Code Nat).attempt
      let others ← startFetches key rest
      return (peer, started) :: others

/-- Wait for one fetch. -/
def finishFetch (peer : NodeId) (started : Except PyError Nat) : Code PeerCrdtFetch := do
  let correlation ← Prog.ofExcept started
  let outcome ← perform (.receive correlation)
  let reply ← Prog.ofExcept outcome
  let response ← Prog.ofExcept (CrdtPeerClient.readResponse deployment false reply)
  return ⟨peer, if response.success then response.state else none, response.peerFrontier⟩

/-- Wait for all fetches and keep the results of those that were answered. -/
def collectFetches : List (NodeId × Except PyError Nat) → Code (List PeerCrdtFetch)
  | [] => return []
  | (peer, started) :: rest => do
      let result ← (finishFetch deployment peer started).attempt
      let others ← collectFetches rest
      match result with
      | .ok fetch => return fetch :: others
      | .error _ => return others

/-- Merge what the peers sent into the store, and collect what it covers. -/
def mergeFetches : List PeerCrdtFetch → VersionVector → Code VersionVector
  | [], mergedVersion => return mergedVersion
  | fetch :: rest, mergedVersion => do
      let mergedVersion : VersionVector := mergedVersion.merge fetch.causalFrontier
      match fetch.entry with
      | none => mergeFetches rest mergedVersion
      | some entry => do
          let merged ← mergeEntry deployment id entry
          mergeFetches rest (mergedVersion.merge merged.causalContext)

/-- The last part of a repair: bring the context of the stored entry up to date. -/
def absorbVersion (key : PyStr) (mergedVersion : VersionVector) : Code VersionVector := do
  match ← perform (.get key) with
  | none => return mergedVersion
  | some current =>
      let mergedVersion : VersionVector := mergedVersion.merge current.causalContext
      if current.causalContext ≠ mergedVersion then do
        match ← mergeMetadata deployment id key mergedVersion with
        | none => return mergedVersion
        | some updated => return updated.causalContext
      else return mergedVersion

/-- `CausalRepairService.ensure`. -/
def repairEnsure (key : PyStr) (required : VersionVector) : Code CausalRepairResult := do
  let current : Option StoredCrdtEntry ← perform (.get key)
  let localVersion : VersionVector := current.elim ⊥ (·.causalContext)
  if localVersion.dominates required then return ⟨localVersion, [], []⟩
  let replicas : List NodeId ← perform (.replicas key)
  let peers := replicas.filter (· ≠ id)
  if peers = [] then throw ⟨.causalUnavailable, "required causal frontier is unavailable"⟩
  let started ← startFetches key peers
  let fetches ← collectFetches deployment started
  let left : Nat ← perform .remaining
  if left = 0 then
    throw ⟨.causalUnavailable,
      "required causal frontier was not obtained before the request deadline"⟩
  let fetched ← mergeFetches deployment id fetches localVersion
  let mergedVersion ← absorbVersion deployment id key fetched
  if mergedVersion.dominates required then
    return ⟨mergedVersion, peers, fetches.map (·.peerNodeId)⟩
  else throw ⟨.causalUnavailable, "required causal frontier is unavailable"⟩

/-- Whether the clock of the node stands for an absent key. The node then relies on
its frontier for the key. -/
def frontierVouches (key : PyStr) (required : VersionVector) : Code Bool := do
  let frontier ← CausalClock.frontier
  if frontier.dominates required then do
    perform (.vouch key ⊥ frontier)
    return true
  else return false

/-- The last grounds of `_ensure_causal`: a repair from the other replicas. -/
def ensureByRepair (key : PyStr) (required : VersionVector) :
    Code (Option StoredCrdtEntry × Bool) := do
  let result ← repairEnsure deployment id key required
  let contacted := !result.contactedNodes.isEmpty
  let repaired : Option StoredCrdtEntry ← perform (.get key)
  match repaired with
  | some entry =>
      if entry.causalContext.dominates required then return (some entry, contacted)
      else throw ⟨.causalUnavailable, "required causal frontier is unavailable"⟩
  | none =>
      if result.mergedVersion.dominates required then return (none, contacted)
      else throw ⟨.causalUnavailable, "required causal frontier is unavailable"⟩

/-- The grounds of `_ensure_causal` on which an absent key is accepted as it is. -/
def acceptAbsent (key : PyStr) (required : VersionVector) (requireExisting : Bool)
    (remoteReplicas : List NodeId) : Code Bool := do
  let accepted ← if !requireExisting then frontierVouches key required else pure false
  if accepted then return true
  else if remoteReplicas = [] then frontierVouches key required
  else return false

/-- `_ensure_causal`. -/
def ensureCausal (key : PyStr) (token : CausalToken) (requireExisting : Bool) :
    Code (Option StoredCrdtEntry × Bool) := do
  let current : Option StoredCrdtEntry ← perform (.get key)
  let required := token.version
  match current with
  | some entry =>
      if entry.causalContext.dominates required then return (some entry, false)
      else do
        let _ ← perform (.replicas key)
        ensureByRepair deployment id key required
  | none =>
      if !VersionVector.nonempty required && !requireExisting then return (none, false)
      else do
        let replicas : List NodeId ← perform (.replicas key)
        let accepted ← acceptAbsent key required requireExisting (replicas.filter (· ≠ id))
        if accepted then return (none, false)
        else ensureByRepair deployment id key required

/-- The constructor of the entry that a mutation leaves. -/
def nextEntry (request : CrdtMutationData) (state : CrdtState)
    (stateVersion causalContext : VersionVector) : Except PyError StoredCrdtEntry :=
  if keyed : request.key ≠ [] then .ok ⟨request.key, state, stateVersion, causalContext, keyed⟩
  else .error ⟨.valueError, "key must not be empty"⟩

/-- The mutation that a request amounts to, given the entry of its key, the dot and
the frontier with the dot. -/
def prepareMutation (request : CrdtMutationData) (existing : Option StoredCrdtEntry) (dot : Dot)
    (frontier : VersionVector) : Except PyError Mutation := do
  let previousVersion : VersionVector := existing.elim ⊥ (·.stateVersion)
  let previousContext : VersionVector := existing.elim ⊥ (·.causalContext)
  let state := existing.elim (.empty request.crdtType) (·.state)
  let nextState ← applyMutation (deployment.actor id) state request dot
  let causalContext : VersionVector :=
    (previousContext.merge request.causalToken.version).merge frontier
  let after ← nextEntry request nextState (previousVersion.withDot dot) (causalContext.withDot dot)
  return ⟨dot, request, existing, after⟩

/-- An entry of another type makes the mutation raise. -/
def checkType (request : CrdtMutationData) (existing : Option StoredCrdtEntry) :
    Except PyError Unit :=
  match existing with
  | some entry =>
      if entry.crdtType ≠ request.crdtType then
        .error ⟨.typeError, "cannot change CRDT type for existing key"⟩
      else .ok ()
  | none => .ok ()

/-- The part of `mutate` under the lock of the key. The node relies on the frontier
of its clock for the key. -/
def mutateLocked (request : CrdtMutationData) : Code Mutation :=
  withKeyLock request.key do
    let existing : Option StoredCrdtEntry ← perform (.get request.key)
    let _ ← Prog.ofExcept (checkType request existing)
    let previousContext : VersionVector := existing.elim ⊥ (·.causalContext)
    let observed := previousContext.merge request.causalToken.version
    CausalClock.stagedAllocation (deployment.actor id) observed fun dot frontier current => do
      let mutation ← Prog.ofExcept (prepareMutation deployment id request existing dot frontier)
      perform (.vouch request.key (existing.elim ⊥ (·.stateVersion)) current)
      let _ ← (commitLocal deployment id mutation frontier).catching fun error => do
        perform (.abort dot)
        throw error
      return (mutation, true)

/-- The part of `mutate` between the reservation and the response. -/
def mutateReserved (request : CrdtMutationData) (reservation : OutboxReservation) :
    Code Mutation :=
  Prog.catching (do
      let mutation ← mutateLocked deployment id request
      let published ← perform (.publish reservation mutation.after)
      let _ ← Prog.ofExcept published
      return mutation)
    fun error => do
      perform (.cancel reservation)
      throw error

/-- The body of `mutate` for a request that this node serves. -/
def mutateHere (request : CrdtMutationData) : Code CrdtResponseData := do
  let (existing, repairPerformed) ← ensureCausal deployment id request.key request.causalToken
    (request.operation == .remove)
  let _ ← Prog.ofExcept (checkType request existing)
  let replicas : List NodeId ← perform (.replicas request.key)
  let pairs : List Pair := (replicas.filter (· ≠ id)).map fun peer => toLex (peer, request.key)
  let reserved ← perform (.reserve pairs)
  let reservation ← Prog.ofExcept reserved
  let mutation ← mutateReserved deployment id request reservation
  let response ← successResponse deployment id mutation.after repairPerformed false
  perform (.acknowledge ⟨id, request.key, mutation.dot,
    response.causalToken.version.get (deployment.actor id)⟩)
  return response

/-- The exception handlers of `mutate`. -/
def mutationFailure (error : PyError) : Code CrdtResponseData :=
  match error.kind with
  | .persistenceBackpressure => errorResponse id .persistenceBackpressure error.message
  | .persistenceUnavailable => errorResponse id .persistenceUnavailable error.message
  | .replicationBackpressure => errorResponse id .replicationBackpressure error.message
  | .causalUnavailable => errorResponse id .causalUnavailable error.message
  | .noRouteError => errorResponse id .noRoute error.message
  | .deadlineExceeded => errorResponse id .timeout "request deadline exceeded"
  | .typeError | .valueError => errorResponse id .invalidRequest error.message
  | _ => throw error

/-- `mutate`. -/
def mutate (request : CrdtMutationData) : Code CrdtResponseData :=
  Prog.catching (do
      match ← routeMutation deployment id request with
      | some routed => return routed
      | none => mutateHere deployment id request)
    (mutationFailure id)

/-- An absent key, as the answer to a read. -/
def keyNotFound (request : CrdtReadData) : Code CrdtResponseData := do
  perform (.serve ⟨id, request, none⟩)
  errorResponse id .keyNotFound "CRDT key not found"

/-- The body of `read` for a request that this node serves. -/
def readHere (request : CrdtReadData) : Code CrdtResponseData := do
  let current : Option StoredCrdtEntry ← perform (.get request.key)
  if current.isNone && !VersionVector.nonempty request.causalToken.version then
    keyNotFound id request
  else do
    let (current, repairPerformed) ← ensureCausal deployment id request.key request.causalToken true
    match current with
    | none => keyNotFound id request
    | some entry => do
        perform (.serve ⟨id, request, some entry⟩)
        successResponse deployment id entry repairPerformed false

/-- The exception handlers of `read`. -/
def readFailure (error : PyError) : Code CrdtResponseData :=
  match error.kind with
  | .causalUnavailable => errorResponse id .causalUnavailable error.message
  | .noRouteError => errorResponse id .noRoute error.message
  | .deadlineExceeded => errorResponse id .timeout "request deadline exceeded"
  | _ => throw error

/-- `read`. -/
def read (request : CrdtReadData) : Code CrdtResponseData :=
  Prog.catching (do
      match ← routeRead deployment id request with
      | some routed => return routed
      | none => readHere deployment id request)
    (readFailure id)

/-- The response as it is sent. -/
def wireResponse (response : CrdtResponseData) : Code Reply := do
  let msg ← Prog.ofExcept (responseToProto response)
  return .response msg

/-- The response to a replication. -/
def replicateResponse (entry : StoredCrdtEntry) : Code CrdtResponseData := do
  let merged ← mergeEntry deployment id entry
  let _ ← CausalClock.observe merged.causalContext
  successResponse deployment id merged false true

/-- The node relies on the frontier it answers with for the key. -/
def fetchResponse (key : PyStr) : Code CrdtResponseData := do
  let entry : Option StoredCrdtEntry ← perform (.get key)
  let frontier ← CausalClock.frontier
  match entry with
  | none => do
      perform (.vouch key ⊥ frontier)
      return {
        success := true
        causalToken := ⟨frontier⟩
        servedBy := id.val
        peerFrontier := frontier }
  | some entry => do
      let response ← successResponse deployment id entry false true
      perform (.vouch key entry.stateVersion response.peerFrontier)
      return response

/-- The metadata of an incoming digest, for the entries that agree in their version. -/
def absorbDigest : List CrdtDigestEntry → Code Unit
  | [] => return ()
  | remote :: rest => do
      let current : Option StoredCrdtEntry ← perform (.get remote.key)
      match current with
      | some entry =>
          if entry.crdtType = remote.crdtType ∧ entry.stateVersion = remote.stateVersion then do
            let _ ← mergeMetadata deployment id remote.key remote.causalContext
            absorbDigest rest
          else absorbDigest rest
      | none => absorbDigest rest

/-- The entries of keys that this node and the peer both replicate. -/
def sharedEntries (peer : PyStr) : List StoredCrdtEntry → Code (List StoredCrdtEntry)
  | [] => return []
  | entry :: rest => do
      let replicas : List NodeId ← perform (.replicas entry.key)
      let others ← sharedEntries peer rest
      if id ∈ replicas ∧ peer ∈ replicas.map Subtype.val then return entry :: others
      else return others

/-- `digest_snapshot`. -/
def digestSnapshot (peer : PyStr) : Code (List CrdtDigestEntry) := do
  let entries : List StoredCrdtEntry ← perform .snapshotAll
  let relevant ← sharedEntries id peer entries
  return relevant.map .fromEntry

/-- The number of entries a digest request may be answered with. -/
def digestLimit (batchSize : Nat) : Nat :=
  if batchSize ≠ 0 then max 1 batchSize else deployment.batchSize

/-- The answer to a digest. -/
def handleDigest (msg : Proto.CrdtDigest) : Code Reply := do
  let (requester, incoming, batchSize) ← Prog.ofExcept (digestRequestFromProto msg)
  if requester = [] then
    throw ⟨.decodeError, "CRDT digest requester_node_id is required"⟩
  absorbDigest deployment id incoming
  let snapshot ← digestSnapshot id requester
  let reply ← Prog.ofExcept
    (digestResponseToProto (snapshot.take (digestLimit deployment batchSize)))
  return .digest reply

/-- A forwarded request must come with time left. -/
def checkForwarded (forwarded : Bool) (remainingTimeoutMs : Nat) : Except PyError Unit :=
  if forwarded && remainingTimeoutMs = 0 then
    .error ⟨.deadlineExceeded, "forwarded CRDT request deadline exceeded"⟩
  else .ok ()

/-- The body of `handle_message`. -/
def dispatch : Request → Code Reply
  | .mutate msg => do
      let request ← Prog.ofExcept (mutationRequestFromProto deployment.json msg)
      let _ ← Prog.ofExcept (checkForwarded request.forwarded request.remainingTimeoutMs)
      let response ← mutate deployment id request
      wireResponse response
  | .read msg => do
      let request ← Prog.ofExcept (readRequestFromProto msg)
      let _ ← Prog.ofExcept (checkForwarded request.forwarded request.remainingTimeoutMs)
      let response ← read deployment id request
      wireResponse response
  | .replicate msg => do
      let entry ← Prog.ofExcept (replicationFromProto deployment.json msg)
      let response ← replicateResponse deployment id entry
      wireResponse response
  | .fetch msg => do
      let key ← Prog.ofExcept (fetchRequestFromProto msg)
      let response ← fetchResponse deployment id key
      wireResponse response
  | .digest msg => handleDigest deployment id msg

/-- The exception handlers of `handle_message`. -/
def handlingFailure (error : PyError) : Code Reply := do
  let response ← match error.kind with
    | .decodeError | .typeError | .valueError => errorResponse id .invalidRequest error.message
    | .deadlineExceeded => errorResponse id .timeout "request deadline exceeded"
    | _ => errorResponse id .internalError "internal server error"
  wireResponse response

/-- `handle_message`, with the reply sent back. -/
def handleMessage (correlation : Nat) (request : Request) : Code Unit := do
  let reply ← (dispatch deployment id request).catching (handlingFailure id)
  perform (.reply correlation reply)

end

/-- The mutation that `prepareMutation` makes of a request. -/
structure PreparedFrom (deployment : Deployment) (id : NodeId) (request : CrdtMutationData)
    (existing : Option StoredCrdtEntry) (dot : Dot) (frontier : VersionVector)
    (mutation : Mutation) : Prop where
  numbered : mutation.dot = dot
  asked : mutation.request = request
  found : mutation.before = existing
  applies : applyMutation (deployment.actor id) mutation.prior mutation.request dot =
    .ok mutation.after.state
  key : mutation.after.key = request.key
  version : mutation.after.stateVersion = mutation.priorVersion.withDot dot
  context : mutation.after.causalContext =
    ((existing.elim ⊥ (·.causalContext) ⊔ request.causalToken.version) ⊔ frontier).withDot dot

theorem preparedFrom_of_prepareMutation {deployment : Deployment} {id : NodeId}
    {request : CrdtMutationData} {existing : Option StoredCrdtEntry} {dot : Dot}
    {frontier : VersionVector} {mutation : Mutation}
    (result : prepareMutation deployment id request existing dot frontier = .ok mutation) :
    PreparedFrom deployment id request existing dot frontier mutation := by
  obtain ⟨state, applied, result⟩ := Codec.bind_eq_ok.mp result
  obtain ⟨after, built, result⟩ := Codec.bind_eq_ok.mp result
  cases result
  unfold nextEntry at built
  split at built
  · cases built
    refine ⟨rfl, rfl, rfl, ?_, rfl, ?_, rfl⟩
    · cases existing <;> exact applied
    · cases existing <;> rfl
  · cases built

end Distsys
