import Distsys.Node.Protocol

/-!
# The service and its clients keep to the protocol

The coroutines of `CrdtPeerClient`, `CausalRepairService` and `CrdtService`. All but a
mutation leave what the coroutine has undertaken as it is.
-/

namespace Distsys

variable {α β : Type} {deployment : Deployment} {id : NodeId} {session : Session}
  {post : Except PyError α → Session → Prop} {key : PyStr} {msg : Proto.CrdtResponse}
  {response : CrdtResponseData} {entry : StoredCrdtEntry}

section Peers

/-- A request and its reply. -/
theorem passes_exchange (target : NodeId) (request : Request) :
    Passes deployment id (exchange target request) :=
  (passes_perform rfl).pass fun _ => (passes_perform rfl).pass fun _ => passes_ofExcept _

/-- A request that is answered by a `CrdtResponse`. -/
theorem passes_crdtRoundTrip (target : NodeId) (request : Request) (raiseRemote : Bool) :
    Passes deployment id (CrdtPeerClient.crdtRoundTrip deployment target request raiseRemote) :=
  (passes_exchange target request).pass fun _ => passes_ofExcept _

/-- `replicate`. -/
theorem passes_replicate (target : NodeId) (state : StoredCrdtEntry) :
    Passes deployment id (CrdtPeerClient.replicate deployment target state) :=
  (passes_ofExcept _).pass fun _ => (passes_crdtRoundTrip ..).pass fun _ => passes_pure _

/-- `fetch_state`. -/
theorem passes_fetchState (target : NodeId) (key : PyStr) :
    Passes deployment id (AntiEntropyPeer.fetchState deployment target key) := by
  have fetches : Passes deployment id (CrdtPeerClient.fetch deployment target key) :=
    (passes_ofExcept _).pass fun _ => passes_crdtRoundTrip ..
  exact fetches.pass fun _ => passes_pure _

/-- `digest`. -/
theorem passes_digest (target : NodeId) (entries : List CrdtDigestEntry) (batchSize : Nat) :
    Passes deployment id (CrdtPeerClient.digest id target entries batchSize) := by
  refine (passes_ofExcept _).pass fun msg => (passes_exchange target _).pass fun reply => ?_
  cases reply with
  | response => exact visits_throw _
  | digest answer => exact passes_ofExcept _

/-- What is left of the deadline for a forwarded request. -/
theorem passes_forwardingTime : Passes deployment id CrdtPeerClient.forwardingTime := by
  refine (passes_perform rfl).pass fun (left : Nat) => ?_
  dsimp only
  split
  · exact visits_throw _
  · exact passes_pure _

/-- `forward_mutation`. -/
theorem passes_forwardMutation (target : NodeId) (request : CrdtMutationData) :
    Passes deployment id (CrdtPeerClient.forwardMutation deployment id target request) :=
  passes_forwardingTime.pass fun _ => (passes_ofExcept _).pass fun _ => passes_crdtRoundTrip ..

/-- `forward_read`. -/
theorem passes_forwardRead (target : NodeId) (request : CrdtReadData) :
    Passes deployment id (CrdtPeerClient.forwardRead deployment id target request) :=
  passes_forwardingTime.pass fun _ => (passes_ofExcept _).pass fun _ => passes_crdtRoundTrip ..

end Peers

section Responses

/-- `_error`, which always answers. -/
theorem inOrder_errorResponse {post : Except PyError CrdtResponseData → Session → Prop}
    (idle : session.Idle) (code : ErrorCode) (message : String)
    (rest : ∀ view response, response.success = false → post (.ok response) { session with view }) :
    InOrder deployment id post (errorResponse id code message) session :=
  Prog.Obeys.bind (inOrder_frontier idle fun _ => Prog.obeys_pure (rest _ _ rfl))

/-- `_error`, whatever comes of it. -/
theorem passes_errorResponse (code : ErrorCode) (message : String) :
    Passes deployment id (errorResponse id code message) :=
  passes_frontier.pass fun _ => passes_pure _

/-- `_success`, whose frontier is the clock as it was read last with the context of the entry. -/
theorem inOrder_successResponse {post : Except PyError CrdtResponseData → Session → Prop}
    (idle : session.Idle) (repairPerformed includeState : Bool)
    (rest : ∀ current response, response.success = true →
      response.state = (if includeState then some entry else none) →
      response.peerFrontier = current ⊔ entry.causalContext →
      post (.ok response) { session with view := { session.view with frontier := some current } })
    (fails : ∀ view error, post (.error error) { session with view }) :
    InOrder deployment id post (successResponse deployment id entry repairPerformed includeState)
      session := by
  have later : ∀ view, ({ session with view } : Session).Idle := fun _ => idle
  refine Prog.Obeys.bind (inOrder_observe idle fun _ => ?_)
  refine Prog.Obeys.bind (inOrder_frontier (later _) fun current => ?_)
  exact inOrder_ofExcept (fun value _ => Prog.obeys_pure (rest current _ rfl rfl rfl))
    fun error _ => fails _ error

/-- `_success`, whatever comes of it. -/
theorem passes_successResponse (entry : StoredCrdtEntry) (repairPerformed includeState : Bool) :
    Passes deployment id (successResponse deployment id entry repairPerformed includeState) :=
  ⟨fun _ idle => inOrder_successResponse idle repairPerformed includeState
    (fun _ _ _ _ _ => ⟨⟨_, rfl⟩, fun _ _ => trivial⟩)
      fun view _ => ⟨⟨view, rfl⟩, fun _ _ => trivial⟩⟩

/-- The common body of `_route_mutation` and `_route_read`. -/
theorem passes_routeRequest (key : PyStr) (forwarded : Bool) (misrouted : String)
    {forward : NodeId → Code CrdtResponseData}
    (forwards : ∀ target, Passes deployment id (forward target)) :
    Passes deployment id (routeRequest id key forwarded misrouted forward) := by
  refine (passes_perform rfl).pass fun (replicas : List NodeId) => ?_
  cases replicas with
  | nil => exact visits_throw _
  | cons target others =>
      dsimp only
      split
      · exact passes_pure _
      · split
        · exact (passes_errorResponse ..).pass fun _ => passes_pure _
        · refine ((forwards target).catching fun error => ?_).pass fun _ => passes_pure _
          unfold forwardingFailure
          split
          · exact passes_errorResponse ..
          · exact passes_errorResponse ..
          · exact visits_throw error

end Responses

section Repair

/-- The fetches of a repair are sent one after the other. -/
theorem passes_startFetches (key : PyStr) (peers : List NodeId) :
    Passes deployment id (startFetches key peers) := by
  induction peers with
  | nil => exact passes_pure _
  | cons peer peers ih =>
      have sends : Passes deployment id (do
          let msg ← Prog.ofExcept (fetchRequestToProto key)
          perform (.send peer (.fetch msg)) : Code Nat) :=
        (passes_ofExcept _).pass fun _ => passes_perform rfl
      exact sends.attempt.pass fun _ => ih.pass fun _ => passes_pure _

/-- The reply to one fetch of a repair. -/
theorem passes_finishFetch (peer : NodeId) (started : Except PyError Nat) :
    Passes deployment id (finishFetch deployment peer started) :=
  (passes_ofExcept _).pass fun _ => (passes_perform rfl).pass fun _ =>
    (passes_ofExcept _).pass fun _ => (passes_ofExcept _).pass fun _ => passes_pure _

/-- The replies to the fetches of a repair. -/
theorem passes_collectFetches (fetches : List (NodeId × Except PyError Nat)) :
    Passes deployment id (collectFetches deployment fetches) := by
  induction fetches with
  | nil => exact passes_pure _
  | cons first others ih =>
      refine (passes_finishFetch first.1 first.2).attempt.pass fun result => ih.pass fun _ => ?_
      cases result with
      | error | ok => exact passes_pure _

/-- The entries that a repair has fetched are merged. -/
theorem passes_mergeFetches (fetches : List PeerCrdtFetch) (mergedVersion : VersionVector) :
    Passes deployment id (mergeFetches deployment id fetches mergedVersion) := by
  induction fetches generalizing mergedVersion with
  | nil => exact passes_pure _
  | cons fetch others ih =>
      unfold mergeFetches
      dsimp only
      cases fetch.entry with
      | none => exact ih _
      | some entry => exact (visits_mergeEntry entry).pass fun _ => ih _

/-- The version that a repair has found goes into the context of the entry. -/
theorem passes_absorbVersion (key : PyStr) (mergedVersion : VersionVector) :
    Passes deployment id (absorbVersion deployment id key mergedVersion) := by
  refine (passes_get key).pass fun current => ?_
  cases current with
  | none => exact passes_pure _
  | some entry =>
      dsimp only
      split
      · refine (visits_mergeMetadata key _).pass fun updated => ?_
        cases updated with
        | none | some => exact passes_pure _
      · exact passes_pure _

/-- `ensure` of the repair service. -/
theorem passes_repairEnsure (key : PyStr) (required : VersionVector) :
    Passes deployment id (repairEnsure deployment id key required) := by
  refine (passes_get key).pass fun (current : Option StoredCrdtEntry) => ?_
  dsimp only
  split
  · exact passes_pure _
  · refine (passes_perform rfl).pass fun (replicas : List NodeId) => ?_
    split
    · exact visits_throw _
    · refine (passes_startFetches ..).pass fun _ => (passes_collectFetches _).pass fun _ => ?_
      refine (passes_perform rfl).pass fun (left : Nat) => ?_
      split
      · exact visits_throw _
      · refine (passes_mergeFetches ..).pass fun _ => (passes_absorbVersion ..).pass fun _ => ?_
        split
        · exact passes_pure _
        · exact visits_throw _

/-- The clock of this node covers what is required of a key that it does not have. -/
theorem passes_frontierVouches (key : PyStr) (required : VersionVector) :
    Passes deployment id (frontierVouches key required) := by
  refine passes_frontier.pass fun frontier => ?_
  split
  · exact (passes_perform rfl).pass fun _ => passes_pure _
  · exact passes_pure _

/-- The part of `_ensure_causal` that repairs. -/
theorem passes_ensureByRepair (key : PyStr) (required : VersionVector) :
    Passes deployment id (ensureByRepair deployment id key required) := by
  refine (passes_repairEnsure key required).pass fun _ => (passes_get key).pass fun repaired => ?_
  cases repaired with
  | none | some entry =>
      dsimp only
      split
      · exact passes_pure _
      · exact visits_throw _

/-- The part of `_ensure_causal` for a key that is absent. -/
theorem passes_acceptAbsent (key : PyStr) (required : VersionVector) (requireExisting : Bool)
    (remoteReplicas : List NodeId) :
    Passes deployment id (acceptAbsent key required requireExisting remoteReplicas) := by
  have last : ∀ accepted : Bool, Passes deployment id (show Code Bool from
      if accepted then return true
      else if remoteReplicas = [] then frontierVouches key required else return false) := by
    intro accepted
    split
    · exact passes_pure _
    · split
      · exact passes_frontierVouches key required
      · exact passes_pure _
  unfold acceptAbsent
  dsimp only
  split
  · exact (passes_frontierVouches key required).pass last
  · exact last false

/-- `_ensure_causal`. -/
theorem passes_ensureCausal (key : PyStr) (token : CausalToken) (requireExisting : Bool) :
    Passes deployment id (ensureCausal deployment id key token requireExisting) := by
  refine (passes_get key).pass fun current => ?_
  cases current with
  | some entry =>
      dsimp only
      split
      · exact passes_pure _
      · exact (passes_perform rfl).pass fun _ => passes_ensureByRepair key token.version
  | none =>
      dsimp only
      split
      · exact passes_pure _
      · refine (passes_perform rfl).pass fun (replicas : List NodeId) => ?_
        refine (passes_acceptAbsent ..).pass fun accepted => ?_
        split
        · exact passes_pure _
        · exact passes_ensureByRepair key token.version

end Repair

section Mutation

variable {request : CrdtMutationData}

/-- The part of `mutate` between the reservation and the response. -/
theorem inOrder_mutateReserved {post : Except PyError Mutation → Session → Prop}
    (idle : session.Idle) {reservation : OutboxReservation}
    (reserved : session.work.reserved = some reservation)
    (keyed : ∀ pair ∈ reservation.pairs, (ofLex pair).2 = request.key)
    (commits : ∀ work view mutation, work.committed = some mutation →
      mutation.key = request.key → post (.ok mutation) { session with work, view })
    (fails : ∀ work view error, post (.error error) { session with work, view }) :
    InOrder deployment id post (mutateReserved deployment id request reservation) session := by
  refine Prog.Obeys.catching (Prog.Obeys.bind (inOrder_mutateLocked idle
    (fun view mutation _ key asking => ?_) fun view error => ?_))
  · refine inOrder_perform ⟨reserved, fun pair listed => ?_⟩ fun result legal => ?_
    · rw [keyed pair listed, key]
    · cases legal
      exact Prog.obeys_pure (commits _ _ mutation rfl asking)
  · exact inOrder_perform reserved fun _ _ => Prog.obeys_done (fails _ view error)

/-- A mutation that this node serves. -/
theorem inOrder_mutateHere {post : Except PyError CrdtResponseData → Session → Prop}
    (idle : session.Idle) (unreserved : session.work.reserved = none)
    (rest : ∀ work view result, post result { session with work, view }) :
    InOrder deployment id post (mutateHere deployment id request) session := by
  refine Prog.Obeys.bind ((passes_ensureCausal request.key request.causalToken _).inOrder idle
    (fun view found _ => ?_) fun view error => rest _ view _)
  refine inOrder_ofExcept (fun _ _ => ?_) fun error _ => rest _ view _
  refine inOrder_perform trivial fun replicas _ => ?_
  refine inOrder_perform unreserved fun result legal => ?_
  match result with
  | .error error => exact rest _ view _
  | .ok reservation =>
      have keyed : ∀ pair ∈ reservation.pairs, (ofLex pair).2 = request.key := by
        intro pair listed
        obtain ⟨peer, _, rfl⟩ := List.mem_map.mp (legal reservation rfl pair listed)
        rfl
      have reserved : ({ session with
          work := { session.work with reserved := some reservation }, view } : Session).Idle := idle
      refine Prog.Obeys.bind (Prog.obeys_ofExcept (Prog.Obeys.bind (inOrder_mutateReserved reserved
        rfl keyed (fun work view mutation committed key => ?_) fun work view error =>
          rest work view _)))
      have committing : ({ session with work, view } : Session).Idle := idle
      refine Prog.Obeys.bind ((passes_successResponse mutation.after _ false).inOrder committing
        (fun view response _ => ?_) fun view error => rest work view _)
      exact inOrder_perform ⟨rfl, congrArg Locks.row idle, mutation, committed, rfl, key⟩ fun _ _ =>
        Prog.obeys_pure (rest _ _ _)

/-- `mutate`. -/
theorem inOrder_mutate {post : Except PyError CrdtResponseData → Session → Prop}
    (idle : session.Idle) (unreserved : session.work.reserved = none)
    (rest : ∀ work view result, post result { session with work, view }) :
    InOrder deployment id post (mutate deployment id request) session := by
  have failure : ∀ work view error, InOrder deployment id post (mutationFailure id error)
      { session with work, view } := by
    intro work view error
    have later : ({ session with work, view } : Session).Idle := idle
    unfold mutationFailure
    split
    all_goals first
      | exact inOrder_errorResponse later _ _ fun view response _ => rest work view _
      | exact Prog.obeys_done (rest work view _)
  refine Prog.Obeys.catching (Prog.Obeys.bind ((passes_routeRequest _ _ _ fun target =>
    passes_forwardMutation target request).inOrder idle (fun view routed _ => ?_)
    fun view error => failure session.work view error))
  match routed with
  | some response => exact Prog.obeys_pure (rest session.work view _)
  | none =>
      have later : ({ session with view } : Session).Idle := idle
      refine inOrder_mutateHere later unreserved fun work view result => ?_
      cases result with
      | ok response => exact rest work view _
      | error error => exact failure work view error

end Mutation

section Handlers

/-- The answer to a read of a key that is absent. -/
theorem passes_keyNotFound (request : CrdtReadData) :
    Passes deployment id (keyNotFound id request) :=
  (passes_perform rfl).pass fun _ => passes_errorResponse ..

/-- A read that this node serves. -/
theorem passes_readHere (request : CrdtReadData) :
    Passes deployment id (readHere deployment id request) := by
  refine (passes_get request.key).pass fun (current : Option StoredCrdtEntry) => ?_
  dsimp only
  split
  · exact passes_keyNotFound request
  · refine (passes_ensureCausal request.key _ _).pass fun found => ?_
    obtain ⟨current, repaired⟩ := found
    cases current with
    | none => exact passes_keyNotFound request
    | some entry =>
        exact (passes_perform rfl).pass fun _ => passes_successResponse ..

/-- `read`. -/
theorem passes_read (request : CrdtReadData) :
    Passes deployment id (read deployment id request) := by
  refine Visits.catching ((passes_routeRequest _ _ _ fun target =>
    passes_forwardRead target request).pass fun routed => ?_) fun error => ?_
  · cases routed with
    | none => exact passes_readHere request
    | some response => exact passes_pure response
  · unfold readFailure
    split
    case h_4 => exact visits_throw error
    all_goals exact passes_errorResponse ..

/-- The state and the frontier of a success as they are sent. -/
theorem state_of_responseToProto (success : response.success = true)
    (encoded : responseToProto response = .ok msg) :
    Codec.whenPresent stateToProto response.state = .ok msg.state ∧
      ∃ peerFrontier, msg.peerFrontier = some peerFrontier ∧
        versionToProto response.peerFrontier = .ok peerFrontier := by
  unfold responseToProto at encoded
  dsimp only at encoded
  rw [if_pos success] at encoded
  obtain ⟨_, _, encoded⟩ := Codec.bind_eq_ok.mp encoded
  obtain ⟨_, _, encoded⟩ := Codec.bind_eq_ok.mp encoded
  obtain ⟨_, _, encoded⟩ := Codec.bind_eq_ok.mp encoded
  obtain ⟨state, states, encoded⟩ := Codec.bind_eq_ok.mp encoded
  obtain ⟨frontier, frontiers, encoded⟩ := Codec.bind_eq_ok.mp encoded
  cases encoded
  exact ⟨states, frontier, rfl, frontiers⟩

/-- A failure can always be sent. -/
theorem responseToProto_of_failure (failure : response.success = false) :
    ∃ msg, responseToProto response = .ok msg ∧ msg.success = false := by
  unfold responseToProto
  dsimp only
  rw [failure, if_neg Bool.false_ne_true]
  exact ⟨_, rfl, rfl⟩

/-- The exception handlers of `handle_message` answer with a failure. -/
theorem inOrder_handlingFailure {post : Except PyError Reply → Session → Prop} (idle : session.Idle)
    (error : PyError)
    (rest : ∀ view msg, msg.success = false → post (.ok (.response msg)) { session with view }) :
    InOrder deployment id post (handlingFailure id error) session := by
  have answered : ∀ code message, InOrder deployment id post (do
      let response ← errorResponse id code message
      wireResponse response) session := by
    intro code message
    refine Prog.Obeys.bind (inOrder_errorResponse idle code message fun view response failure => ?_)
    obtain ⟨msg, encoded, failed⟩ := responseToProto_of_failure failure
    refine inOrder_ofExcept (fun other same => ?_) fun error raised => ?_
    · cases same.symm.trans encoded
      exact Prog.obeys_pure (rest view msg failed)
    · cases raised.symm.trans encoded
  unfold handlingFailure
  dsimp only
  split
  all_goals exact answered _ _

/-- The answer to a `CRDT_REPLICATE`. -/
theorem passes_replicateResponse (entry : StoredCrdtEntry) :
    Passes deployment id (replicateResponse deployment id entry) := by
  have observes : ∀ version, Passes deployment id (CausalClock.observe version) := fun version =>
    ⟨fun _ idle => inOrder_observe idle fun _ => ⟨⟨_, rfl⟩, fun _ _ => trivial⟩⟩
  exact (visits_mergeEntry entry).pass fun _ => (observes _).pass fun _ => passes_successResponse ..

/-- The answer to a `CRDT_FETCH`: the entry that was looked up, and the clock as it was read
afterwards with the context of the entry. -/
theorem inOrder_fetchResponse {post : Except PyError CrdtResponseData → Session → Prop}
    (idle : session.Idle) (key : PyStr)
    (rest : ∀ view response entry frontier, view.lookup = some (key, entry) →
      view.frontier = some frontier → response.success = true → response.state = entry →
      response.peerFrontier = frontier ⊔ entry.elim ⊥ (·.causalContext) →
      post (.ok response) { session with view })
    (fails : ∀ view error, post (.error error) { session with view }) :
    InOrder deployment id post (fetchResponse deployment id key) session := by
  obtain ⟨request, worker, locks, work, view⟩ := session
  cases idle
  refine inOrder_perform (by rintro _ _ ⟨⟩) fun entry _ => ?_
  refine Prog.Obeys.bind (inOrder_frontier rfl fun frontier => ?_)
  match entry with
  | none =>
      refine inOrder_perform trivial fun _ _ => Prog.obeys_pure ?_
      exact rest _ _ none frontier rfl rfl rfl rfl (sup_bot_eq frontier).symm
  | some entry =>
      refine Prog.Obeys.bind (inOrder_successResponse ?_ false true
        (fun current response success state frontier => ?_) fails)
      · exact rfl
      · refine inOrder_perform trivial fun _ _ => Prog.obeys_pure ?_
        exact rest _ response (some entry) current rfl rfl success state frontier

/-- The metadata of an incoming digest. -/
theorem passes_absorbDigest (digests : List CrdtDigestEntry) :
    Passes deployment id (absorbDigest deployment id digests) := by
  induction digests with
  | nil => exact passes_pure _
  | cons digest others ih =>
      refine (passes_get digest.key).pass fun current => ?_
      cases current with
      | none => exact ih
      | some entry =>
          dsimp only
          split
          · exact (visits_mergeMetadata ..).pass fun _ => ih
          · exact ih

/-- The entries that a peer shares. -/
theorem passes_sharedEntries (peer : PyStr) (entries : List StoredCrdtEntry) :
    Passes deployment id (sharedEntries id peer entries) := by
  induction entries with
  | nil => exact passes_pure _
  | cons entry others ih =>
      refine (passes_perform rfl).pass fun (replicas : List NodeId) => ih.pass fun shared => ?_
      split
      · exact passes_pure _
      · exact passes_pure _

/-- The digest of what a peer shares. -/
theorem passes_digestSnapshot (peer : PyStr) : Passes deployment id (digestSnapshot id peer) :=
  (passes_perform rfl).pass fun _ => (passes_sharedEntries peer _).pass fun _ => passes_pure _

/-- The answer to a `CRDT_DIGEST`. -/
theorem passes_handleDigest (msg : Proto.CrdtDigest) :
    Passes deployment id (handleDigest deployment id msg) := by
  refine (passes_ofExcept _).pass fun decoded => ?_
  dsimp only
  split
  · exact visits_throw _
  · exact (passes_absorbDigest _).pass fun _ => (passes_digestSnapshot _).pass fun _ =>
      (passes_ofExcept _).pass fun _ => passes_pure _

/-- The key of a fetch as it was sent. -/
theorem key_of_fetchRequestFromProto {msg : Proto.CrdtFetch}
    (decoded : fetchRequestFromProto msg = .ok key) : key = msg.key.val := by
  unfold fetchRequestFromProto at decoded
  split at decoded
  · cases decoded
  · exact (Except.ok.inj decoded).symm

/-- The body of `handle_message`. The answer to a fetch is what was looked up and read. -/
theorem inOrder_dispatch {post : Except PyError Reply → Session → Prop} (idle : session.Idle)
    (unreserved : session.work.reserved = none) {request : Request}
    (answers : ∀ work view reply,
      (∀ msg response, request = .fetch msg → reply = .response response →
        { session with work, view }.Fetched msg response) →
      post (.ok reply) { session with work, view })
    (fails : ∀ work view error, post (.error error) { session with work, view }) :
    InOrder deployment id post (dispatch deployment id request) session := by
  have wire : ∀ {response : CrdtResponseData} work view, (∀ msg, request ≠ .fetch msg) →
      InOrder deployment id post (wireResponse response) { session with work, view } :=
    fun work view other => inOrder_ofExcept
      (fun _ _ => Prog.obeys_pure (answers work view _ fun msg _ same => absurd same (other msg)))
      fun error _ => fails work view error
  match request with
  | .mutate msg =>
      refine inOrder_ofExcept (fun request _ => ?_) fun error _ => fails _ _ error
      refine inOrder_ofExcept (fun _ _ => ?_) fun error _ => fails _ _ error
      refine Prog.Obeys.bind (inOrder_mutate idle unreserved fun work view result => ?_)
      cases result with
      | ok response => exact wire work view nofun
      | error error => exact fails work view error
  | .read msg =>
      refine inOrder_ofExcept (fun request _ => ?_) fun error _ => fails _ _ error
      refine inOrder_ofExcept (fun _ _ => ?_) fun error _ => fails _ _ error
      exact Prog.Obeys.bind ((passes_read request).inOrder idle (fun view _ _ => wire _ view nofun)
        fun view error => fails _ view error)
  | .replicate msg =>
      refine inOrder_ofExcept (fun entry _ => ?_) fun error _ => fails _ _ error
      exact Prog.Obeys.bind ((passes_replicateResponse entry).inOrder idle
        (fun view _ _ => wire _ view nofun) fun view error => fails _ view error)
  | .fetch msg =>
      refine inOrder_ofExcept (fun key decoded => ?_) fun error _ => fails _ _ error
      refine Prog.Obeys.bind (inOrder_fetchResponse idle key
        (fun view response entry frontier looked read success state peerFrontier => ?_)
        fun view error => fails _ view error)
      refine inOrder_ofExcept (fun sent encoded => Prog.obeys_pure (answers _ view _ ?_))
        fun error _ => fails _ view error
      rintro _ _ ⟨⟩ ⟨⟩
      obtain ⟨states, sentFrontier, sends, encodes⟩ := state_of_responseToProto success encoded
      rw [state] at states
      rw [peerFrontier] at encodes
      rw [key_of_fetchRequestFromProto decoded] at looked
      exact ⟨entry, frontier, looked, read, states, sentFrontier, sends, encodes⟩
  | .digest msg =>
      refine (passes_handleDigest msg).inOrder idle (fun view reply _ => answers _ view _ ?_)
        fun view error => fails _ view error
      rintro _ _ ⟨⟩

/-- `handle_message`. -/
theorem inOrder_handleMessage {post : Except PyError Unit → Session → Prop} (idle : session.Idle)
    (unreserved : session.work.reserved = none) {request : Request}
    (handles : session.request = some request) (correlation : Nat)
    (rest : ∀ state result, post result state) :
    InOrder deployment id post (handleMessage deployment id correlation request) session := by
  have sends : ∀ work view reply, (∀ msg response, request = .fetch msg →
      reply = .response response → response.success = true →
      { session with work, view }.Fetched msg response) →
      InOrder deployment id post (perform (.reply correlation reply))
        { session with work, view } := by
    intro work view reply answers
    refine Prog.obeys_act ?_ fun _ _ => Prog.obeys_done (rest _ _)
    cases reply with
    | digest => exact trivial
    | response response =>
        intro msg same
        exact answers msg response (Option.some.inj (handles.symm.trans same)) rfl
  refine Prog.Obeys.bind (Prog.Obeys.catching (inOrder_dispatch idle unreserved
    (fun work view reply answers => sends work view reply fun msg response is same _ =>
      answers msg response is same) fun work view error => ?_))
  have later : ({ session with work, view } : Session).Idle := idle
  refine inOrder_handlingFailure later error fun view msg failed => sends work view _ ?_
  rintro _ _ _ ⟨⟩ success
  cases failed.symm.trans success

end Handlers

end Distsys
