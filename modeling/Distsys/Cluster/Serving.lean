import Distsys.Cluster.Mutating

/-!
# Safety of the messages between nodes

What the coroutines of `CrdtPeerClient` bring back, what the responses of a node say,
and the routing of a request.
-/

namespace Distsys

open Codec

variable {deployment : Deployment} {discipline : Discipline} {thread : Thread} {world : World}
  {target : NodeId}
  {request : Request} {response : CrdtResponseData} {past : Past} {key : PyStr} {json : JsonReader}

section Peers

variable {raiseRemote : Bool} {msg : Proto.CrdtFetch}

theorem yields_exchange (sound : request.Sound deployment.json discipline world.past) :
    Yields deployment discipline thread
      (fun reply later => reply.Sound deployment.json discipline later.past request)
      (exchange target request) world := by
  refine (yields_send request sound).bind fun correlation sent _ posted => ?_
  refine (yields_receive posted).bind fun outcome received _ sound => ?_
  cases outcome with
  | error error => exact yields_throw error
  | ok reply => exact yields_pure fun later moved => (sound reply rfl).grows moved.past

theorem eq_ok_of_readResponse {reply : Reply}
    (read : CrdtPeerClient.readResponse deployment raiseRemote reply = .ok response) :
    ∃ msg, reply = .response msg ∧ responseFromProto deployment.json msg = .ok response := by
  unfold CrdtPeerClient.readResponse at read
  split at read
  · cases read
  · next msg =>
    obtain ⟨decoded, decodes, read⟩ := bind_eq_ok.mp read
    split at read
    · cases read
    · cases read
      exact ⟨msg, rfl, decodes⟩

/-- A response as it arrives: a failure brings no state. -/
structure CrdtResponseData.Arrived (json : JsonReader) (discipline : Discipline) (past : Past)
    (request : Request) (response : CrdtResponseData) : Prop where
  sound : response.Sound json discipline past request
  failed : response.success = false → response.state = none

theorem CrdtResponseData.Arrived.grows {request : Request} {response : CrdtResponseData}
    {json : JsonReader} {past later : Past}
    (arrived : response.Arrived json discipline past request)
    (grows : past.Grows later) : response.Arrived json discipline later request :=
  ⟨arrived.sound.grows grows, arrived.failed⟩

theorem Reply.Sound.arrived {reply : Reply}
    (sound : reply.Sound deployment.json discipline past request)
    (read : CrdtPeerClient.readResponse deployment raiseRemote reply = .ok response) :
    response.Arrived deployment.json discipline past request := by
  obtain ⟨msg, rfl, decoded⟩ := eq_ok_of_readResponse read
  exact ⟨(sound response decoded).1, (sound response decoded).2⟩

theorem yields_crdtRoundTrip (request : Request)
    (sound : request.Sound deployment.json discipline world.past) :
    Yields deployment discipline thread
      (fun response later => response.Arrived deployment.json discipline later.past request)
      (CrdtPeerClient.crdtRoundTrip deployment target request raiseRemote) world := by
  refine (yields_exchange sound).bind fun reply arrived _ sound => ?_
  cases read : CrdtPeerClient.readResponse deployment raiseRemote reply with
  | error error => exact yields_throw error
  | ok response => exact yields_pure fun later moved => (sound.arrived read).grows moved.past

theorem yields_replicate {state : StoredCrdtEntry}
    (sound : state.Sound deployment.json discipline world.past) :
    Harmless deployment discipline thread
      (CrdtPeerClient.replicate deployment target state) world :=
  yields_compute fun msg encoded =>
    (yields_crdtRoundTrip (.replicate msg) (sound_replicate sound encoded)).bind
      fun _ _ _ _ => harmless_pure _

theorem key_of_fetchRequestToProto (encoded : fetchRequestToProto key = .ok msg) :
    msg.key.val = key := by
  unfold fetchRequestToProto at encoded
  split at encoded
  · cases encoded
  · obtain ⟨field, assigned, encoded⟩ := bind_eq_ok.mp encoded
    cases encoded
    exact setString_val assigned

/-- What a fetch brings. -/
structure FetchSound (json : JsonReader) (discipline : Discipline) (past : Past) (key : PyStr)
    (copy : Option StoredCrdtEntry) (frontier : VersionVector) : Prop where
  sound : ∀ entry, copy = some entry → entry.Sound json discipline past
  keyed : past.honest = true → ∀ entry, copy = some entry → entry.key = key
  known : past.Knows frontier
  backs : past.Backs discipline key (copy.elim ⊥ (·.stateVersion)) frontier

theorem FetchSound.grows {json : JsonReader} {past later : Past} {key : PyStr}
    {copy : Option StoredCrdtEntry} {frontier : VersionVector}
    (sound : FetchSound json discipline past key copy frontier) (grows : past.Grows later) :
    FetchSound json discipline later key copy frontier :=
  ⟨fun entry found => (sound.sound entry found).grows grows, sound.keyed ∘ grows.honest,
    sound.known.grows grows, sound.backs.grows sound.known grows⟩

theorem CrdtResponseData.Arrived.fetched
    (arrived : response.Arrived json discipline past (.fetch msg))
    (encoded : fetchRequestToProto key = .ok msg) :
    FetchSound json discipline past key (if response.success then response.state else none)
      response.peerFrontier := by
  have same : (if response.success then response.state else none) = response.state := by
    split
    · rfl
    · next failed => exact (arrived.failed (Bool.eq_false_iff.mpr failed)).symm
  obtain ⟨keys, backs⟩ := arrived.sound.fetched msg rfl
  rw [key_of_fetchRequestToProto encoded] at keys backs
  rw [same]
  exact ⟨arrived.sound.state, keys, arrived.sound.frontier, backs⟩

theorem yields_fetchState :
    Yields deployment discipline thread
      (fun state later => ∀ entry, state = some entry →
        entry.Sound deployment.json discipline later.past)
      (AntiEntropyPeer.fetchState deployment target key) world := by
  have fetched : Yields deployment discipline thread
      (fun response later => FetchSound deployment.json discipline later.past key
        (if response.success then response.state else none) response.peerFrontier)
      (CrdtPeerClient.fetch deployment target key) world :=
    yields_compute fun msg encoded => (yields_crdtRoundTrip (.fetch msg) trivial).mono
      fun _ _ _ arrived => arrived.fetched encoded
  exact fetched.bind fun _ _ _ sound => yields_pure fun _ moved => (sound.grows moved.past).sound

theorem yields_digest {entries : List CrdtDigestEntry} {batchSize : Nat}
    (sound : ∀ digest ∈ entries, digest.Sound discipline world.past) :
    Yields deployment discipline thread
      (fun received later => ∀ digest ∈ received, digest.Sound discipline later.past)
      (CrdtPeerClient.digest thread.node target entries batchSize) world := by
  refine yields_compute fun msg encoded => (yields_exchange (sound_digest sound encoded)).bind ?_
  rintro (response | reply) arrived _ sound
  · exact yields_throw _
  · dsimp only
    cases decoded : digestResponseFromProto reply with
    | error error => exact yields_throw error
    | ok received =>
        exact yields_pure fun later moved digest listed =>
          (sound received decoded digest listed).grows moved.past

end Peers

section Responses

variable {entry : StoredCrdtEntry} {includeState : Bool}

/-- A response of this node: sound as an answer to the request when it reports success. -/
def CrdtResponseData.Answers (json : JsonReader) (discipline : Discipline) (past : Past)
    (request : Request) (response : CrdtResponseData) : Prop :=
  response.success = true → response.Sound json discipline past request

/-- The coroutine answers the request. -/
abbrev AnswersTo (deployment : Deployment) (discipline : Discipline) (thread : Thread)
    (request : Request) (code : Code CrdtResponseData) (world : World) : Prop :=
  Yields deployment discipline thread
    (fun response later => response.Answers deployment.json discipline later.past request)
    code world

theorem answers_errorResponse {code : ErrorCode} {message : String} :
    AnswersTo deployment discipline thread request (errorResponse thread.node code message) world :=
  yields_clockFrontier.bind fun _ _ _ _ => yields_pure (by rintro _ _ ⟨⟩)

/-- What a successful response says. -/
structure Succeeded (deployment : Deployment) (discipline : Discipline) (id : NodeId)
    (entry : StoredCrdtEntry) (includeState : Bool) (response : CrdtResponseData) (world : World) :
    Prop where
  state : response.state = if includeState then some entry else none
  token : response.causalToken.version = response.peerFrontier
  known : world.past.Knows response.peerFrontier
  absorbed : world.Absorbed deployment id response.peerFrontier

theorem yields_successResponse {repairPerformed : Bool}
    (stores : world.Stores deployment discipline thread.node entry) :
    Yields deployment discipline thread
      (fun response later =>
        Succeeded deployment discipline thread.node entry includeState response later)
      (successResponse deployment thread.node entry repairPerformed includeState) world := by
  refine (yields_observe stores.sound.context stores.absorbed).bind fun _ observed moved _ => ?_
  replace stores := stores.later moved
  refine yields_clockFrontier.bind fun current read moved known => ?_
  replace stores := stores.later moved
  rw [Tally.merge_eq_sup]
  refine yields_compute fun value _ => yields_pure fun later moved => ⟨rfl, rfl, ?_, ?_⟩
  · exact (known.1.sup stores.sound.context).grows moved.past
  · exact World.Absorbed.later (fun durable => sup_le (known.2 durable) (stores.absorbed durable))
      moved

/-- A successful response that is not the answer to a fetch. -/
theorem Succeeded.answers {id : NodeId}
    (succeeded : Succeeded deployment discipline id entry includeState response world)
    (stores : world.Stores deployment discipline id entry) (other : ∀ msg, request ≠ .fetch msg) :
    response.Answers deployment.json discipline world.past request := by
  refine fun _ => ⟨fun found is => ?_, succeeded.known, succeeded.token ▸ succeeded.known,
    fun msg is => absurd is (other msg)⟩
  rw [succeeded.state] at is
  split at is
  · cases is
    exact stores.sound
  · cases is

end Responses

section Routing

variable {original : Request}

/-- A response that arrived is an answer to any request that is not a fetch. -/
theorem CrdtResponseData.Arrived.answers (arrived : response.Arrived json discipline past request)
    (other : ∀ msg, original ≠ .fetch msg) : response.Answers json discipline past original :=
  fun _ => ⟨arrived.sound.state, arrived.sound.frontier, arrived.sound.token,
    fun msg is => absurd is (other msg)⟩

theorem CrdtResponseData.Answers.grows {json : JsonReader} {past later : Past} {request : Request}
    {response : CrdtResponseData} (answers : response.Answers json discipline past request)
    (grows : past.Grows later) : response.Answers json discipline later request :=
  fun success => (answers success).grows grows

theorem yields_forwardingTime : Harmless deployment discipline thread
    CrdtPeerClient.forwardingTime world := by
  refine (yields_ask .remaining trivial).bind fun left _ _ _ => ?_
  split
  · exact yields_throw _
  · exact harmless_pure _

theorem answers_forwardMutation {request : CrdtMutationData}
    (other : ∀ msg, original ≠ .fetch msg) :
    AnswersTo deployment discipline thread original
      (CrdtPeerClient.forwardMutation deployment thread.node target request) world :=
  yields_forwardingTime.bind fun _ _ _ _ => yields_compute fun msg _ =>
    (yields_crdtRoundTrip (.mutate msg) trivial).mono fun _ _ _ arrived => arrived.answers other

theorem answers_forwardRead {request : CrdtReadData} (other : ∀ msg, original ≠ .fetch msg) :
    AnswersTo deployment discipline thread original
      (CrdtPeerClient.forwardRead deployment thread.node target request) world :=
  yields_forwardingTime.bind fun _ _ _ _ => yields_compute fun msg _ =>
    (yields_crdtRoundTrip (.read msg) trivial).mono fun _ _ _ arrived => arrived.answers other

theorem answers_forwardingFailure {error : PyError} :
    AnswersTo deployment discipline thread original
      (forwardingFailure thread.node error) world := by
  unfold forwardingFailure
  split
  · exact answers_errorResponse
  · exact answers_errorResponse
  · exact yields_throw error

theorem yields_routeRequest {forwarded : Bool} {misrouted : String}
    {forward : NodeId → Code CrdtResponseData}
    (forwards : ∀ target now,
      AnswersTo deployment discipline thread original (forward target) now) :
    Yields deployment discipline thread
      (fun routed later => ∀ response, routed = some response →
        response.Answers deployment.json discipline later.past original)
      (routeRequest thread.node key forwarded misrouted forward) world := by
  refine (yields_ask (.replicas key) trivial).bind fun ids now _ _ => ?_
  have wraps : ∀ {code : Code CrdtResponseData},
      AnswersTo deployment discipline thread original code now →
      Yields deployment discipline thread
        (fun routed later => ∀ response, routed = some response →
          response.Answers deployment.json discipline later.past original)
        (code >>= fun response => pure (some response)) now := by
    refine fun answers => answers.bind fun response _ _ answers => yields_pure ?_
    rintro later moved _ ⟨⟩
    exact answers.grows moved.past
  split
  · exact yields_throw _
  · split
    · exact yields_pure (by rintro _ _ _ ⟨⟩)
    · split
      · exact wraps answers_errorResponse
      · exact wraps ((forwards _ now).catching fun _ _ _ => answers_forwardingFailure)

end Routing

end Distsys
