import Distsys.Node.Alone
import Distsys.Node.AntiEntropy
import Distsys.Node.Effects
import Distsys.Wire.RoundTrip

/-!
# A node that exchanges messages with idle peers

A coroutine of one node runs alone, and every request it sends is answered by the
handler of the target, which runs alone too. What such an exchange does is said in
terms of the stores of the nodes: a fetch returns what the peer holds, a replication
that is acknowledged is absorbed by the peer, and a digest brings contexts to the peer
and back a part of its versions.
-/

namespace Distsys

/-- What a node answers to a request. -/
def answerTo (deployment : Deployment) (id : NodeId) (request : Request) : Code Reply :=
  (dispatch deployment id request).catching (handlingFailure id)

/-- One operation of a coroutine that runs alone among idle peers. -/
def World.overNetwork (deployment : Deployment) (environment : Environment) (self : Thread) :
    (op : Op) → World → Option (op.Answer × World)
  | .receive correlation, world =>
      match world.requests[correlation]? with
      | none => none
      | some envelope =>
          match (answerTo deployment envelope.target envelope.request).run
              (World.alone environment ⟨envelope.target, 0⟩) world with
          | none => none
          | some (.ok reply, after) =>
              some (.ok reply, { after with replies := after.replies ++ [⟨correlation, reply⟩] })
          | some (.error error, after) => some (.error ⟨.connectionError, error.message⟩, after)
  | op, world => world.alone environment self op

/-- The coroutine ends among idle peers and leaves the postcondition. -/
abbrev EndsAmong {α : Type} (deployment : Deployment) (environment : Environment) (self : Thread)
    (post : Except PyError α → World → Prop) (code : Code α) (world : World) : Prop :=
  Prog.Ends (World.overNetwork deployment environment self) post code world

/-- The nodes have these stores, and no coroutine holds a lock. -/
structure World.Holding (stores : NodeId → Store) (world : World) : Prop where
  store : ∀ id, (world.nodes id).store = stores id
  idle : ∀ id, (world.nodes id).Idle

variable {α : Type} {deployment : Deployment} {environment : Environment} {self : Thread}
  {world : World} {stores : NodeId → Store} {post : Except PyError Reply → World → Prop}
  {request : Request} {peer : NodeId} {reply : Reply} {raiseRemote : Bool}
  {response : CrdtResponseData} {op : Op} {answer : op.Answer} {after : World}

/-- `merge_entries` where there may be no entry yet. -/
def combine (existing : Option StoredCrdtEntry) (incoming : StoredCrdtEntry) :
    Except PyError StoredCrdtEntry :=
  match existing with
  | none => .ok incoming
  | some existing => existing.merge incoming

theorem Store.absorb_eq_combine (store : Store) (incoming : StoredCrdtEntry) :
    store.absorb incoming = combine (store.get incoming.key) incoming := rfl

/-- What is read of an entry from the reply that carries it, with the value that stands beside
it. -/
def replyOutcome (json : JsonReader) (entry : StoredCrdtEntry) :
    Except PyError StoredCrdtEntry := do
  let value ← materialize json entry
  let valueJson ← jsonDump value
  let msg ← stateToProto entry
  let _ ← jsonLoad json valueJson
  stateFromProto json msg

/-- What a fetch brings of the entry that a peer holds. -/
def fetchOutcome (json : JsonReader) (key : PyStr) (entry : StoredCrdtEntry) :
    Except PyError StoredCrdtEntry := do
  let _ ← fetchRequestToProto key
  replyOutcome json entry

/-- What a peer that holds `existing` acknowledges of an entry that is pushed to it. -/
def pushOutcome (json : JsonReader) (existing : Option StoredCrdtEntry) (entry : StoredCrdtEntry) :
    Except PyError StoredCrdtEntry := do
  let msg ← replicationToProto entry
  let received ← replicationFromProto json msg
  let merged ← combine existing received
  replyOutcome json merged

/-- What a coroutine does alone it does among peers. -/
theorem EndsAlone.among {post : Except PyError α → World → Prop} {code : Code α}
    (ends : EndsAlone environment self post code world) :
    EndsAmong deployment environment self post code world := by
  refine Prog.Ends.extend (fun op world outcome answered => ?_) ends
  cases op with
  | receive correlation => cases answered
  | _ => exact answered

theorem World.Holding.becomes (holding : world.Holding stores) {id : NodeId} {node : Node}
    {after : World} (becomes : World.Becomes id node world after) (idle : node.Idle) :
    after.Holding (Function.update stores id node.store) := by
  constructor
  · intro other
    by_cases same : other = id
    · subst same
      rw [becomes.here, Function.update_self]
    · rw [becomes.elsewhere other same, Function.update_of_ne same]
      exact holding.store other
  · intro other
    by_cases same : other = id
    · subst same
      rw [becomes.here]
      exact idle
    · rw [becomes.elsewhere other same]
      exact holding.idle other

/-- A change of a clock or of the ledger. -/
theorem World.Holding.frontier (holding : world.Holding stores) (id : NodeId)
    (frontier : VersionVector) :
    ((world.settle id).atNode id ({ · with frontier })).Holding stores := by
  constructor
  · intro other
    by_cases same : other = id
    · subst same
      rw [World.nodes_atNode_self]
      exact holding.store other
    · rw [World.nodes_atNode_of_ne _ _ _ same]
      exact holding.store other
  · intro other
    by_cases same : other = id
    · subst same
      rw [World.nodes_atNode_self]
      exact ⟨(holding.idle other).keys, (holding.idle other).clock⟩
    · rw [World.nodes_atNode_of_ne _ _ _ same]
      exact holding.idle other

theorem World.Holding.put (holding : world.Holding stores) {id : NodeId} {durable : Bool}
    {actor : CausalActor} {entry : StoredCrdtEntry} {after : World}
    (becomes : World.Becomes id ((world.nodes id).install durable actor entry) world after) :
    after.Holding (Function.update stores id ((stores id).put entry)) := by
  have moved := holding.becomes becomes ((holding.idle id).install durable actor entry)
  rw [Node.store_install, holding.store] at moved
  exact moved

theorem World.Holding.of_idle (idle : ∀ id, (world.nodes id).Idle) :
    world.Holding fun id => (world.nodes id).store :=
  ⟨fun _ => rfl, idle⟩

/-- `merge_entry`: the store absorbs the entry, unless that or the commit raises. -/
theorem ends_absorb (holding : world.Holding stores) (incoming : StoredCrdtEntry) :
    EndsAlone environment self (fun result after => match result with
      | .ok merged => (stores self.node).absorb incoming = .ok merged ∧
          after.Holding (Function.update stores self.node ((stores self.node).put merged))
      | .error error => after.Holding stores ∧ (environment.commitFailure = none →
          (stores self.node).absorb incoming = .error error))
      (mergeEntry deployment self.node incoming) world := by
  refine ends_mergeEntry (holding.idle _) ?_
  rw [holding.store]
  cases absorbed : (stores self.node).absorb incoming with
  | error error => exact ⟨holding, fun _ => rfl⟩
  | ok merged =>
      dsimp only
      cases failing : environment.failure (deployment.durable self.node) with
      | none => exact fun after becomes => ⟨rfl, holding.put becomes⟩
      | some error =>
          refine ⟨holding, fun works => ?_⟩
          unfold Environment.failure at failing
          rw [works, ite_self] at failing
          cases failing

/-- The store after `merge_metadata`. -/
def Store.withMetadata (store : Store) (key : PyStr) (context : VersionVector) : Store :=
  match store.get key with
  | none => store
  | some existing => store.put (existing.withContext (existing.causalContext.merge context))

theorem ends_metadata (holding : world.Holding stores) (key : PyStr) (context : VersionVector) :
    EndsAlone environment self (fun result after => match result with
      | .ok _ => after.Holding
          (Function.update stores self.node ((stores self.node).withMetadata key context))
      | .error _ => after.Holding stores ∧ environment.commitFailure ≠ none)
      (mergeMetadata deployment self.node key context) world := by
  refine ends_mergeMetadata (holding.idle _) ?_
  unfold Store.withMetadata
  rw [holding.store]
  cases found : (stores self.node).get key with
  | none =>
      dsimp only
      rw [Function.update_eq_self]
      exact holding
  | some existing =>
      dsimp only
      cases failing : environment.failure (deployment.durable self.node) with
      | none => exact fun after becomes => holding.put becomes
      | some error =>
          refine ⟨holding, fun works => ?_⟩
          unfold Environment.failure at failing
          rw [works, ite_self] at failing
          cases failing

/-- A reply that reports a failure. -/
def Reply.Refuses : Reply → Prop
  | .response msg => msg.success = false
  | .digest _ => False

theorem ends_errorResponse (holding : world.Holding stores) (code : ErrorCode) (message : String) :
    EndsAlone environment self (fun result after => after.Holding stores ∧
      ∃ response, result = .ok response ∧ response.success = false)
      (errorResponse self.node code message) world :=
  Prog.Ends.bind (ends_clockFrontier (holding.idle _).clock
    (Prog.ends_pure ⟨holding, _, rfl, rfl⟩))

theorem ends_handlingFailure (holding : world.Holding stores) (error : PyError) :
    EndsAlone environment self (fun result after => after.Holding stores ∧
      ∃ reply, result = .ok reply ∧ reply.Refuses) (handlingFailure self.node error) world := by
  have refuses : ∀ code message, EndsAlone environment self (fun result after =>
      after.Holding stores ∧ ∃ reply, result = .ok reply ∧ reply.Refuses)
      (errorResponse self.node code message >>= wireResponse) world := by
    intro code message
    refine Prog.Ends.bind ((ends_errorResponse holding code message).mono ?_)
    rintro _ after ⟨holding, response, rfl, failed⟩
    have encoded : ∃ msg, responseToProto response = .ok msg ∧ msg.success = false := by
      unfold responseToProto
      simp only [failed]
      exact ⟨_, rfl, rfl⟩
    obtain ⟨msg, encoded, fails⟩ := encoded
    dsimp only
    unfold wireResponse
    rw [encoded]
    exact Prog.ends_pure ⟨holding, _, rfl, fails⟩
  unfold handlingFailure
  cases error.kind with
  | decodeError => exact refuses .invalidRequest error.message
  | typeError => exact refuses .invalidRequest error.message
  | valueError => exact refuses .invalidRequest error.message
  | deadlineExceeded => exact refuses .timeout "request deadline exceeded"
  | _ => exact refuses .internalError "internal server error"

/-- What a node answers, from what the body of its handler does: an exception of the body
becomes a refusal. -/
theorem ends_answerTo (body : EndsAlone environment self (fun result after => match result with
      | .ok reply => post (.ok reply) after
      | .error _ => ∃ left, after.Holding left ∧ ∀ reply : Reply, reply.Refuses →
          ∀ final : World, final.Holding left → post (.ok reply) final)
      (dispatch deployment self.node request) world) :
    EndsAlone environment self post (answerTo deployment self.node request) world := by
  refine Prog.Ends.catching (body.mono ?_)
  rintro (error | reply) after holds
  · obtain ⟨left, holding, refused⟩ := holds
    refine (ends_handlingFailure holding error).mono ?_
    rintro _ final ⟨holding, reply, rfl, refuses⟩
    exact refused reply refuses final holding
  · exact holds

theorem ends_successResponse (holding : world.Holding stores) (entry : StoredCrdtEntry)
    (repairPerformed includeState : Bool) :
    EndsAlone environment self (fun result after => after.Holding stores ∧
      ∀ response, result = .ok response → response.success = true ∧
        (response.state = if includeState then some entry else none) ∧
        materialize deployment.json entry = .ok response.value)
      (successResponse deployment self.node entry repairPerformed includeState) world := by
  refine Prog.Ends.bind (ends_observe (holding.idle _).clock ?_)
  have moved := holding.frontier self.node
    ((world.nodes self.node).frontier.merge entry.causalContext)
  refine Prog.Ends.bind (ends_clockFrontier (moved.idle _).clock ?_)
  cases materialize deployment.json entry with
  | error error =>
      refine Prog.ends_done ⟨moved, ?_⟩
      rintro _ ⟨⟩
  | ok value =>
      refine Prog.ends_pure ⟨moved, ?_⟩
      rintro _ ⟨⟩
      exact ⟨rfl, rfl, rfl⟩

theorem ends_fetchResponse (holding : world.Holding stores) (key : PyStr) :
    EndsAlone environment self (fun result after => after.Holding stores ∧
      ∀ response, result = .ok response → response.success = true ∧
        response.state = (stores self.node).get key ∧ ∀ entry, response.state = some entry →
          materialize deployment.json entry = .ok response.value)
      (fetchResponse deployment self.node key) world := by
  refine ends_perform rfl (Prog.Ends.bind (ends_clockFrontier (holding.idle _).clock ?_))
  rw [holding.store]
  cases found : (stores self.node).get key with
  | none =>
      refine ends_perform rfl (Prog.ends_pure ⟨holding, ?_⟩)
      rintro _ ⟨⟩
      exact ⟨rfl, rfl, nofun⟩
  | some entry =>
      refine Prog.Ends.bind ((ends_successResponse holding entry false true).mono ?_)
      rintro (error | response) after ⟨holding, facts⟩
      · refine ⟨holding, ?_⟩
        rintro _ ⟨⟩
      · refine ends_perform rfl (Prog.ends_pure ⟨holding, ?_⟩)
        rintro _ ⟨⟩
        obtain ⟨success, state, value⟩ := facts response rfl
        refine ⟨success, state, fun other carried => ?_⟩
        cases state.symm.trans carried
        exact value

theorem ends_replicateResponse (holding : world.Holding stores) (entry : StoredCrdtEntry) :
    EndsAlone environment self (fun result after => (∃ left, after.Holding left) ∧
      ∀ response, result = .ok response → response.success = true ∧
        ∃ merged, (stores self.node).absorb entry = .ok merged ∧
          after.Holding (Function.update stores self.node ((stores self.node).put merged)) ∧
          response.state = some merged ∧ materialize deployment.json merged = .ok response.value)
      (replicateResponse deployment self.node entry) world := by
  refine Prog.Ends.bind ((ends_absorb holding entry).mono ?_)
  rintro (error | merged) after merges
  · refine ⟨⟨stores, merges.1⟩, ?_⟩
    rintro _ ⟨⟩
  · obtain ⟨absorbed, stored⟩ := merges
    refine Prog.Ends.bind (ends_observe (stored.idle _).clock ?_)
    refine (ends_successResponse (stored.frontier self.node _) merged false true).mono ?_
    rintro result final ⟨kept, facts⟩
    exact ⟨⟨_, kept⟩, fun response made =>
      ⟨(facts response made).1, merged, absorbed, kept, (facts response made).2⟩⟩

/-- The store after the metadata of a digest has been absorbed. -/
def Store.refresh (store : Store) : List CrdtDigestEntry → Store
  | [] => store
  | remote :: rest =>
      match store.get remote.key with
      | some entry =>
          if entry.crdtType = remote.crdtType ∧ entry.stateVersion = remote.stateVersion then
            (store.withMetadata remote.key remote.causalContext).refresh rest
          else store.refresh rest
      | none => store.refresh rest

theorem ends_absorbDigest (holding : world.Holding stores) (incoming : List CrdtDigestEntry) :
    EndsAlone environment self (fun result after => (∃ left, after.Holding left) ∧
      (result = .ok () → after.Holding
        (Function.update stores self.node ((stores self.node).refresh incoming))))
      (absorbDigest deployment self.node incoming) world := by
  induction incoming generalizing world stores with
  | nil =>
      refine Prog.ends_pure ⟨⟨_, holding⟩, fun _ => ?_⟩
      unfold Store.refresh
      rw [Function.update_eq_self]
      exact holding
  | cons remote rest ih =>
      refine ends_perform rfl ?_
      unfold Store.refresh
      rw [holding.store]
      cases found : (stores self.node).get remote.key with
      | none => exact ih holding
      | some entry =>
          dsimp only
          split
          · refine Prog.Ends.bind
              ((ends_metadata holding remote.key remote.causalContext).mono ?_)
            rintro (error | updated) after kept
            · refine ⟨⟨_, kept.1⟩, ?_⟩
              rintro ⟨⟩
            · have rest := ih kept
              rw [Function.update_self, Function.update_idem] at rest
              exact rest
          · exact ih holding

/-- Both nodes replicate the key. -/
def Environment.Shares (environment : Environment) (left right : NodeId) (key : PyStr) : Prop :=
  left ∈ environment.replicas key ∧ right ∈ environment.replicas key

instance (left right : NodeId) (key : PyStr) : Decidable (environment.Shares left right key) :=
  inferInstanceAs (Decidable (_ ∧ _))

/-- The digest of the keys that two nodes share, from the store of one of them. -/
def Environment.digestOf (environment : Environment) (left right : NodeId) (store : Store) :
    List CrdtDigestEntry :=
  (store.snapshotAll.filter fun entry => environment.Shares left right entry.key).map .fromEntry

theorem ends_sharedEntries {entries : List StoredCrdtEntry}
    {post : Except PyError (List StoredCrdtEntry) → World → Prop}
    (holds : post (.ok (entries.filter fun entry =>
      environment.Shares self.node peer entry.key)) world) :
    EndsAlone environment self post (sharedEntries self.node peer.val entries) world := by
  induction entries generalizing post with
  | nil => exact Prog.ends_pure holds
  | cons entry rest ih =>
      refine ends_perform rfl (Prog.Ends.bind (ih ?_))
      have listed : (self.node ∈ environment.replicas entry.key ∧
          peer.val ∈ (environment.replicas entry.key).map Subtype.val) ↔
          environment.Shares self.node peer entry.key := by
        unfold Environment.Shares
        rw [List.mem_map_of_injective Subtype.val_injective]
      rw [List.filter_cons] at holds
      by_cases shared : environment.Shares self.node peer entry.key
      · simp only [shared, decide_true, ↓reduceIte] at holds
        simp only [listed, shared, ↓reduceIte]
        exact Prog.ends_pure holds
      · simp only [shared, decide_false, Bool.false_eq_true, ↓reduceIte] at holds
        simp only [listed, shared, ↓reduceIte]
        exact Prog.ends_pure holds

theorem ends_digestSnapshot (holding : world.Holding stores)
    {post : Except PyError (List CrdtDigestEntry) → World → Prop}
    (holds : post (.ok (environment.digestOf self.node peer (stores self.node))) world) :
    EndsAlone environment self post (digestSnapshot self.node peer.val) world := by
  refine ends_perform rfl (Prog.Ends.bind (ends_sharedEntries (Prog.ends_pure ?_)))
  rw [holding.store]
  exact holds

/-- A refusal is never read as a success. -/
theorem Reply.Refuses.readResponse (refuses : reply.Refuses)
    (read : CrdtPeerClient.readResponse deployment raiseRemote reply = .ok response) :
    response.success = false ∧ raiseRemote = false := by
  cases reply with
  | digest msg => cases read
  | response msg =>
      have fails : msg.success = false := refuses
      obtain ⟨decoded, decodes, read⟩ := Codec.bind_eq_ok.mp read
      unfold responseFromProto at decodes
      rw [fails] at decodes
      cases decodes
      cases raiseRemote
      · cases read
        exact ⟨rfl, rfl⟩
      · cases read

theorem refuses_of_readResponse
    (read : CrdtPeerClient.readResponse deployment false reply = .ok response)
    (fails : response.success = false) : reply.Refuses := by
  cases reply with
  | digest msg => cases read
  | response msg =>
      obtain ⟨decoded, decodes, made⟩ := Codec.bind_eq_ok.mp read
      cases made
      change msg.success = false
      cases success : msg.success with
      | false => rfl
      | true =>
          unfold responseFromProto at decodes
          rw [if_pos success] at decodes
          obtain ⟨_, _, decodes⟩ := Codec.bind_eq_ok.mp decodes
          obtain ⟨_, _, decodes⟩ := Codec.bind_eq_ok.mp decodes
          obtain ⟨_, _, decodes⟩ := Codec.bind_eq_ok.mp decodes
          obtain ⟨_, _, decodes⟩ := Codec.bind_eq_ok.mp decodes
          obtain ⟨_, _, decodes⟩ := Codec.bind_eq_ok.mp decodes
          cases decodes
          cases fails

/-- The entry of a response that is written and read. -/
theorem replyOutcome_of_received {json : JsonReader} {received : CrdtResponseData}
    {msg : Proto.CrdtResponse} {entry : StoredCrdtEntry}
    (value : materialize json entry = .ok response.value) (carried : response.state = some entry)
    (success : response.success = true) (encoded : responseToProto response = .ok msg)
    (decoded : responseFromProto json msg = .ok received) : (replyOutcome json entry).isOk := by
  unfold responseToProto at encoded
  rw [if_pos success, carried] at encoded
  obtain ⟨valueJson, dumped, encoded⟩ := Codec.bind_eq_ok.mp encoded
  obtain ⟨_, _, encoded⟩ := Codec.bind_eq_ok.mp encoded
  obtain ⟨_, _, encoded⟩ := Codec.bind_eq_ok.mp encoded
  obtain ⟨_, present, encoded⟩ := Codec.bind_eq_ok.mp encoded
  obtain ⟨state, written, same⟩ := Codec.bind_eq_ok.mp present
  obtain ⟨_, _, encoded⟩ := Codec.bind_eq_ok.mp encoded
  cases same
  cases encoded
  unfold responseFromProto at decoded
  rw [if_pos rfl] at decoded
  obtain ⟨_, _, decoded⟩ := Codec.bind_eq_ok.mp decoded
  obtain ⟨_, loaded, decoded⟩ := Codec.bind_eq_ok.mp decoded
  obtain ⟨_, _, decoded⟩ := Codec.bind_eq_ok.mp decoded
  obtain ⟨_, present, _⟩ := Codec.bind_eq_ok.mp decoded
  obtain ⟨_, read, _⟩ := Codec.bind_eq_ok.mp present
  unfold replyOutcome
  rw [value, Codec.ok_bind, dumped, Codec.ok_bind, written, Codec.ok_bind, loaded, Codec.ok_bind,
    read]
  rfl

/-- What is read from the reply that carries a response. -/
theorem readResponse_of_encoded {received : CrdtResponseData} {msg : Proto.CrdtResponse}
    (encoded : responseToProto response = .ok msg)
    (read : CrdtPeerClient.readResponse deployment raiseRemote (.response msg) = .ok received)
    (success : response.success = true) : received.state = response.state ∧
      ∀ entry, response.state = some entry →
        materialize deployment.json entry = .ok response.value →
        (replyOutcome deployment.json entry).isOk := by
  obtain ⟨decoded, decodes, read⟩ := Codec.bind_eq_ok.mp read
  obtain ⟨same, fields⟩ := received_of_responseFromProto encoded decodes
  rw [if_pos success] at fields
  rw [same, success, Bool.not_true, Bool.and_false] at read
  cases read
  exact ⟨fields.1, fun entry carried value =>
    replyOutcome_of_received value carried success encoded decodes⟩

/-- The answer to a fetch carries what the node holds. -/
theorem ends_answerFetch (holding : world.Holding stores) {key : PyStr} {msg : Proto.CrdtFetch}
    (encoded : fetchRequestToProto key = .ok msg) :
    EndsAlone environment self (fun result after => after.Holding stores ∧
      ∃ reply, result = .ok reply ∧ ∀ response,
        CrdtPeerClient.readResponse deployment false reply = .ok response →
        response.success = true → response.state = (stores self.node).get key ∧
          ∀ entry, response.state = some entry → (replyOutcome deployment.json entry).isOk)
      (answerTo deployment self.node (.fetch msg)) world := by
  have refused : ∀ reply : Reply, reply.Refuses → ∀ final : World, final.Holding stores →
      final.Holding stores ∧ ∃ other, (.ok reply : Except PyError Reply) = .ok other ∧ ∀ response,
        CrdtPeerClient.readResponse deployment false other = .ok response →
        response.success = true → response.state = (stores self.node).get key ∧
          ∀ entry, response.state = some entry → (replyOutcome deployment.json entry).isOk := by
    intro reply refuses final kept
    refine ⟨kept, reply, rfl, fun response read success => ?_⟩
    exact absurd ((refuses.readResponse read).1.symm.trans success) Bool.false_ne_true
  have decoded : fetchRequestFromProto msg = .ok key := by
    unfold fetchRequestToProto at encoded
    split at encoded
    · cases encoded
    · next named =>
      obtain ⟨field, assigned, made⟩ := Codec.bind_eq_ok.mp encoded
      cases made
      unfold fetchRequestFromProto
      rw [setString_val assigned, if_neg named]
  refine ends_answerTo ?_
  rw [dispatch, decoded, Prog.ofExcept_ok_bind]
  refine Prog.Ends.bind ((ends_fetchResponse holding key).mono ?_)
  rintro (error | response) after ⟨kept, facts⟩
  · exact ⟨stores, kept, refused⟩
  · obtain ⟨success, state, value⟩ := facts response rfl
    dsimp only
    unfold wireResponse
    cases written : responseToProto response with
    | error error => exact Prog.ends_done ⟨stores, kept, refused⟩
    | ok msg =>
        refine Prog.ends_pure ⟨kept, _, rfl, fun received read _ => ?_⟩
        obtain ⟨same, replies⟩ := readResponse_of_encoded written read success
        rw [same]
        exact ⟨state, fun entry carried => replies entry carried (value entry carried)⟩

/-- A replication that is acknowledged is absorbed. -/
theorem ends_answerReplicate (holding : world.Holding stores) {entry : StoredCrdtEntry}
    {msg : Proto.CrdtReplicate} (encoded : replicationToProto entry = .ok msg) :
    EndsAlone environment self (fun result after => (∃ left, after.Holding left) ∧
      ∃ reply, result = .ok reply ∧ ∀ response,
        CrdtPeerClient.readResponse deployment true reply = .ok response →
        ∃ merged, (stores self.node).absorb entry = .ok merged ∧
          after.Holding (Function.update stores self.node ((stores self.node).put merged)) ∧
          (pushOutcome deployment.json ((stores self.node).get entry.key) entry).isOk)
      (answerTo deployment self.node (.replicate msg)) world := by
  have refused : ∀ left (reply : Reply), reply.Refuses → ∀ final : World, final.Holding left →
      (∃ left, final.Holding left) ∧ ∃ other, (.ok reply : Except PyError Reply) = .ok other ∧
        ∀ response, CrdtPeerClient.readResponse deployment true other = .ok response →
        ∃ merged, (stores self.node).absorb entry = .ok merged ∧
          final.Holding (Function.update stores self.node ((stores self.node).put merged)) ∧
          (pushOutcome deployment.json ((stores self.node).get entry.key) entry).isOk := by
    intro left reply refuses final kept
    refine ⟨⟨left, kept⟩, reply, rfl, fun response read => ?_⟩
    exact nomatch (refuses.readResponse read).2
  obtain ⟨state, encodes, made⟩ := Codec.bind_eq_ok.mp encoded
  cases made
  refine ends_answerTo ?_
  rw [dispatch]
  cases decoded : replicationFromProto deployment.json ⟨state⟩ with
  | error error => exact Prog.ends_done ⟨stores, holding, refused stores⟩
  | ok received =>
      obtain rfl : received = entry := eq_of_stateFromProto encodes decoded
      rw [Prog.ofExcept_ok_bind]
      refine Prog.Ends.bind ((ends_replicateResponse holding received).mono ?_)
      rintro (error | response) after ⟨⟨left, kept⟩, facts⟩
      · exact ⟨left, kept, refused left⟩
      · obtain ⟨success, merged, absorbed, stored, carried, value⟩ := facts response rfl
        dsimp only
        unfold wireResponse
        cases written : responseToProto response with
        | error error => exact Prog.ends_done ⟨left, kept, refused left⟩
        | ok msg =>
            refine Prog.ends_pure ⟨⟨left, kept⟩, _, rfl, fun _ read =>
              ⟨merged, absorbed, stored, ?_⟩⟩
            unfold pushOutcome
            rw [encoded, Codec.ok_bind, decoded, Codec.ok_bind, ← Store.absorb_eq_combine, absorbed,
              Codec.ok_bind]
            exact (readResponse_of_encoded written read success).2 merged carried value

/-- What a node reads from the reply to a digest request. -/
def Reply.digested : Reply → Except PyError (List CrdtDigestEntry)
  | .response _ => .error ⟨.connectionError, "expected CRDT_DIGEST_RESPONSE"⟩
  | .digest msg => digestResponseFromProto msg

/-- A digest that is answered is absorbed, and the answer is the first part of the digest
of the keys that both nodes share. -/
theorem ends_answerDigest (holding : world.Holding stores) {requester : NodeId}
    {entries : List CrdtDigestEntry} {batchSize : Nat} {msg : Proto.CrdtDigest}
    (encoded : digestRequestToProto requester.val entries batchSize = .ok msg) :
    EndsAlone environment self (fun result after => (∃ left, after.Holding left) ∧
      ∃ reply, result = .ok reply ∧ ∀ received, reply.digested = .ok received →
        after.Holding (Function.update stores self.node ((stores self.node).refresh entries)) ∧
        received = (environment.digestOf self.node requester
          ((stores self.node).refresh entries)).take (digestLimit deployment batchSize))
      (answerTo deployment self.node (.digest msg)) world := by
  have refused : ∀ left (reply : Reply), reply.Refuses → ∀ final : World, final.Holding left →
      (∃ left, final.Holding left) ∧ ∃ other, (.ok reply : Except PyError Reply) = .ok other ∧
        ∀ received, other.digested = .ok received →
        final.Holding (Function.update stores self.node ((stores self.node).refresh entries)) ∧
        received = (environment.digestOf self.node requester
          ((stores self.node).refresh entries)).take (digestLimit deployment batchSize) := by
    intro left reply refuses final kept
    refine ⟨⟨left, kept⟩, reply, rfl, fun received read => ?_⟩
    cases reply with
    | digest msg => exact refuses.elim
    | response msg => cases read
  refine ends_answerTo ?_
  change EndsAlone _ _ _ (handleDigest deployment self.node msg) _
  unfold handleDigest
  rw [digestRequestFromProto_of_encoded encoded, Prog.ofExcept_ok_bind]
  dsimp only
  rw [if_neg requester.property]
  refine Prog.Ends.bind ((ends_absorbDigest holding entries).mono ?_)
  rintro (error | ⟨⟨⟩⟩) after ⟨⟨left, kept⟩, facts⟩
  · exact ⟨left, kept, refused left⟩
  · have refreshed := facts rfl
    refine Prog.Ends.bind (ends_digestSnapshot refreshed ?_)
    rw [Function.update_self]
    dsimp only
    cases written : digestResponseToProto ((environment.digestOf self.node requester
        ((stores self.node).refresh entries)).take (digestLimit deployment batchSize)) with
    | error error => exact Prog.ends_done ⟨_, refreshed, refused _⟩
    | ok msg =>
        refine Prog.ends_pure ⟨⟨_, refreshed⟩, _, rfl, fun received read => ⟨refreshed, ?_⟩⟩
        have sent := (digestResponseFromProto_of_encoded written).symm.trans read
        cases sent
        rfl

theorem World.Holding.congr (holding : world.Holding stores) {final : World}
    (same : final.nodes = world.nodes) : final.Holding stores :=
  ⟨fun id => same ▸ holding.store id, fun id => same ▸ holding.idle id⟩

/-- The world with one more request on its way. -/
def World.sent (world : World) (target : NodeId) (request : Request) : World :=
  { world with requests := world.requests ++ [⟨target, request⟩] }

theorem World.Holding.sent (holding : world.Holding stores) (target : NodeId) (request : Request) :
    (world.sent target request).Holding stores := holding.congr rfl

/-- A request is sent, and its target answers. -/
theorem ends_exchange {target : NodeId}
    (answers : EndsAlone environment ⟨target, 0⟩ (fun result after =>
      ∃ reply, result = .ok reply ∧ ∀ final : World, final.nodes = after.nodes →
        ⟨world.requests.length, reply⟩ ∈ final.replies → post (.ok reply) final)
      (answerTo deployment target request) (world.sent target request)) :
    EndsAmong deployment environment self post (exchange target request) world := by
  obtain ⟨_, after, ran, reply, rfl, holds⟩ := answers
  have sent : World.overNetwork deployment environment self (.send target request) world =
      some (world.requests.length, world.sent target request) := rfl
  have received : World.overNetwork deployment environment self (.receive world.requests.length)
      (world.sent target request) =
      some (.ok reply, { after with
        replies := after.replies ++ [⟨world.requests.length, reply⟩] }) := by
    unfold World.overNetwork
    have listed : (world.sent target request).requests[world.requests.length]? =
        some ⟨target, request⟩ := List.getElem?_concat_length ..
    simp only [listed, ran]
  exact Prog.ends_act sent (Prog.ends_act received (Prog.ends_done
    (holds _ rfl (List.mem_append_right _ (List.mem_singleton_self _)))))

/-- A reply among those delivered reports a failure. -/
def World.Refused (world : World) : Prop := ∃ delivery ∈ world.replies, delivery.reply.Refuses

/-- A fetch brings what the peer holds, unless the peer refuses. -/
theorem ends_fetchState (holding : world.Holding stores) (target : NodeId) (key : PyStr) :
    EndsAmong deployment environment self (fun result after => after.Holding stores ∧
      ∀ state, result = .ok state → ((stores target).get key = state ∧
        ∀ entry, state = some entry → (fetchOutcome deployment.json key entry).isOk) ∨
        (state = none ∧ after.Refused))
      (AntiEntropyPeer.fetchState deployment target key) world := by
  refine Prog.Ends.bind ?_
  unfold CrdtPeerClient.fetch
  cases encoded : fetchRequestToProto key with
  | error error =>
      refine Prog.ends_done ⟨holding, ?_⟩
      rintro _ ⟨⟩
  | ok msg =>
      rw [Prog.ofExcept_ok_bind]
      refine Prog.Ends.bind (ends_exchange
        ((ends_answerFetch (holding.sent target (.fetch msg)) encoded).mono ?_))
      rintro _ after ⟨kept, reply, rfl, facts⟩
      refine ⟨reply, rfl, fun final same delivered => ?_⟩
      dsimp only
      cases read : CrdtPeerClient.readResponse deployment false reply with
      | error error =>
          refine Prog.ends_done ⟨kept.congr same, ?_⟩
          rintro _ ⟨⟩
      | ok response =>
          refine Prog.ends_pure (Prog.ends_pure ⟨kept.congr same, ?_⟩)
          intro state made
          cases success : response.success with
          | false =>
              rw [success] at made
              cases made
              exact .inr ⟨rfl, _, delivered, refuses_of_readResponse read success⟩
          | true =>
              rw [success] at made
              cases made
              obtain ⟨same, replies⟩ := facts response read success
              refine .inl ⟨same.symm, fun entry carried => ?_⟩
              unfold fetchOutcome
              rw [encoded]
              exact replies entry carried

/-- A state that is acknowledged has been absorbed. -/
theorem ends_sendState (holding : world.Holding stores) (target : NodeId)
    (entry : StoredCrdtEntry) :
    EndsAmong deployment environment self (fun result after => (∃ left, after.Holding left) ∧
      (result = .ok () → ∃ merged, (stores target).absorb entry = .ok merged ∧
        after.Holding (Function.update stores target ((stores target).put merged)) ∧
        (pushOutcome deployment.json ((stores target).get entry.key) entry).isOk))
      (AntiEntropyPeer.sendState deployment target entry) world := by
  unfold AntiEntropyPeer.sendState CrdtPeerClient.replicate
  cases encoded : replicationToProto entry with
  | error error =>
      refine Prog.ends_done ⟨⟨_, holding⟩, ?_⟩
      rintro ⟨⟩
  | ok msg =>
      rw [Prog.ofExcept_ok_bind]
      refine Prog.Ends.bind (Prog.Ends.bind (ends_exchange
        ((ends_answerReplicate (holding.sent target (.replicate msg)) encoded).mono ?_)))
      rintro _ after ⟨⟨left, kept⟩, reply, rfl, facts⟩
      refine ⟨reply, rfl, fun final same _ => ?_⟩
      dsimp only
      cases read : CrdtPeerClient.readResponse deployment true reply with
      | error error =>
          refine Prog.ends_done ⟨⟨left, kept.congr same⟩, ?_⟩
          rintro ⟨⟩
      | ok response =>
          obtain ⟨merged, absorbed, stored, takes⟩ := facts response read
          exact Prog.ends_pure (Prog.ends_pure
            ⟨⟨left, kept.congr same⟩, fun _ => ⟨merged, absorbed, stored.congr same, takes⟩⟩)

/-- A digest that is answered has been absorbed. -/
theorem ends_digest (holding : world.Holding stores) (target : NodeId)
    (entries : List CrdtDigestEntry) (batchSize : Nat) :
    EndsAmong deployment environment self (fun result after => (∃ left, after.Holding left) ∧
      ∀ received, result = .ok received →
        after.Holding (Function.update stores target ((stores target).refresh entries)) ∧
        received = (environment.digestOf target self.node
          ((stores target).refresh entries)).take (digestLimit deployment batchSize))
      (CrdtPeerClient.digest self.node target entries batchSize) world := by
  unfold CrdtPeerClient.digest
  cases encoded : digestRequestToProto self.node.val entries batchSize with
  | error error =>
      refine Prog.ends_done ⟨⟨_, holding⟩, ?_⟩
      rintro _ ⟨⟩
  | ok msg =>
      rw [Prog.ofExcept_ok_bind]
      refine Prog.Ends.bind (ends_exchange
        ((ends_answerDigest (holding.sent target (.digest msg)) encoded).mono ?_))
      rintro _ after ⟨⟨left, kept⟩, reply, rfl, facts⟩
      refine ⟨reply, rfl, fun final same _ => ?_⟩
      cases reply with
      | response msg =>
          refine Prog.ends_done ⟨⟨left, kept.congr same⟩, ?_⟩
          rintro _ ⟨⟩
      | digest msg =>
          refine Prog.ends_done ⟨⟨left, kept.congr same⟩, fun received read => ?_⟩
          obtain ⟨refreshed, is⟩ := facts received read
          exact ⟨refreshed.congr same, is⟩

theorem ends_exchangeDigest (holding : world.Holding stores) (target : NodeId)
    (entries : List CrdtDigestEntry) :
    EndsAmong deployment environment self (fun result after => (∃ left, after.Holding left) ∧
      ∀ received, result = .ok received →
        after.Holding (Function.update stores target ((stores target).refresh entries)) ∧
        received = (environment.digestOf target self.node
          ((stores target).refresh entries)).take (max 1 entries.length))
      (AntiEntropyPeer.exchangeDigest self.node target entries) world := by
  refine (ends_digest holding target entries _).mono fun result after facts => ?_
  have limit : digestLimit deployment (max 1 entries.length) = max 1 entries.length := by
    unfold digestLimit
    rw [if_pos (Nat.pos_iff_ne_zero.mp (Nat.lt_of_lt_of_le Nat.zero_lt_one (Nat.le_max_left _ _))),
      ← Nat.max_assoc, Nat.max_self]
  rw [limit] at facts
  exact facts

/-- The metadata of the local entry is sent, if there is one. -/
theorem ends_sendMetadata (holding : world.Holding stores) (target : NodeId) (key : PyStr)
    (context : VersionVector) :
    EndsAmong deployment environment self (fun result after => (∃ left, after.Holding left) ∧
      (result = .ok () → ∀ current, (stores self.node).get key = some current →
        after.Holding (Function.update stores target ((stores target).refresh
          [⟨current.key, current.crdtType, current.stateVersion, context⟩]))))
      (AntiEntropyPeer.sendMetadata self.node target key context) world := by
  refine ends_perform rfl ?_
  rw [holding.store]
  cases found : (stores self.node).get key with
  | none => exact Prog.ends_pure ⟨⟨_, holding⟩, fun _ _ => nofun⟩
  | some current =>
      refine Prog.Ends.bind ((ends_digest holding target _ 1).mono ?_)
      rintro (error | received) after ⟨kept, facts⟩
      · refine ⟨kept, ?_⟩
        rintro ⟨⟩
      · refine Prog.ends_pure ⟨kept, fun _ other is => ?_⟩
        cases is
        exact (facts received rfl).1

/-- Replies are never taken back. -/
theorem World.replies_exec {choice : Choice}
    (executed : world.exec self op choice = some (answer, after)) :
    world.replies <+: after.replies := by
  have recorded : ∀ commit, world.replies <+: (world.record self.node commit).replies := by
    intro commit
    cases commit <;> exact List.prefix_rfl
  cases World.executes_of_exec executed with
  | reply correlation reply => exact List.prefix_append _ _
  | replace commit replaced => exact recorded commit
  | commitRows entry state commit => exact recorded commit
  | _ => exact List.prefix_rfl

theorem World.replies_alone (answered : world.alone environment self op = some (answer, after)) :
    world.replies <+: after.replies :=
  World.replies_exec answered

theorem World.replies_overNetwork
    (answered : World.overNetwork deployment environment self op world = some (answer, after)) :
    world.replies <+: after.replies := by
  cases op with
  | receive correlation =>
      unfold World.overNetwork at answered
      dsimp only at answered
      split at answered
      · cases answered
      · next envelope _ =>
        have grown : ∀ {result after}, (answerTo deployment envelope.target envelope.request).run
            (World.alone environment ⟨envelope.target, 0⟩) world = some (result, after) →
            world.replies <+: after.replies :=
          Prog.related_of_run (fun before after : World => before.replies <+: after.replies)
            (fun _ => List.prefix_rfl) List.IsPrefix.trans fun _ _ _ _ => World.replies_alone
        split at answered
        · cases answered
        · next ran =>
          cases answered
          exact (grown ran).trans (List.prefix_append _ _)
        · next ran =>
          cases answered
          exact grown ran
  | _ => exact World.replies_alone answered

theorem World.Refused.later {program : Code α} {result : Except PyError α} (refused : world.Refused)
    (ran : program.run (World.overNetwork deployment environment self) world =
      some (result, after)) : after.Refused := by
  obtain ⟨delivery, listed, refuses⟩ := refused
  have grown := Prog.related_of_run
    (fun before after : World => before.replies <+: after.replies) (fun _ => List.prefix_rfl)
    List.IsPrefix.trans (fun _ _ _ _ => World.replies_overNetwork) ran
  exact ⟨delivery, grown.subset listed, refuses⟩

/-- A refusal is still among the replies when a coroutine ends. -/
theorem EndsAmong.refused {post : Except PyError α → World → Prop} {code : Code α}
    (ends : EndsAmong deployment environment self post code world) :
    EndsAmong deployment environment self (fun result after => post result after ∧
      (world.Refused → after.Refused)) code world := by
  obtain ⟨result, after, ran, holds⟩ := ends
  exact ⟨result, after, ran, holds, fun refused => refused.later ran⟩

end Distsys
