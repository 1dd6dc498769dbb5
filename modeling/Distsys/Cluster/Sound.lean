import Distsys.Cluster.Past
import Distsys.Lib.Lists

/-!
# Sound mutations and messages

A mutation is sound when it was computed from a sound entry and the dot after all
earlier dots of its node; committing a prepared mutation makes it part of the past
and sound there. A message is sound when whatever is decoded from it is.
-/

namespace Distsys

open Codec

/-- Whatever is decoded as the value of a write is written as a document again. -/
theorem accepted_of_mutationRequestFromProto {json : JsonReader} {msg : Proto.CrdtMutationRequest}
    {request : CrdtMutationData} (decoded : mutationRequestFromProto json msg = .ok request)
    (operation : request.operation = .write) : (json.loads request.value.dumps).isOk := by
  unfold mutationRequestFromProto at decoded
  split at decoded
  · cases decoded
  obtain ⟨crdtType, _, decoded⟩ := bind_eq_ok.mp decoded
  obtain ⟨⟨described, value, amount⟩, field, decoded⟩ := bind_eq_ok.mp decoded
  obtain ⟨token, _, decoded⟩ := bind_eq_ok.mp decoded
  cases decoded
  cases operation
  unfold mutationFromProto at field
  split at field
  · cases field
  · cases field
  · cases field
  · cases field
  · obtain ⟨loaded, loads, field⟩ := bind_eq_ok.mp field
    cases field
    unfold jsonLoad at loads
    split at loads
    · cases loads
      rw [json.loads_null]
      rfl
    · split at loads
      · cases loads
      · next text _ => exact json.loads_dumps text _ (JsonReader.loadsOr_eq_ok.mp loads)
  · cases field

theorem Applied.readable {json : JsonReader} {actor : CausalActor} {request : CrdtMutationData}
    {dot : Dot} {prior next : CrdtState} (applied : Applied actor request dot prior next)
    (readable : prior.Readable json)
    (accepted : request.operation = .write → (json.loads request.value.dumps).isOk) :
    next.Readable json := by
  cases applied with
  | increment | increase | decrease | add | remove => exact readable
  | write register type operation =>
      rintro ⟨other, payload⟩ stored
      change (register.values.insert dot request.value.dumps).get? other = some payload at stored
      rw [SortedMap.get?_insert] at stored
      split at stored
      · cases stored
        exact accepted operation
      · exact readable (other, payload) stored

theorem accepted_of_registerValueFromProto {json : JsonReader} {msg : Proto.RegisterValue}
    {item : Dot × PyStr} (decoded : registerValueFromProto json msg = .ok item) :
    (json.loads item.2).isOk := by
  unfold registerValueFromProto at decoded
  split at decoded
  · cases decoded
  · obtain ⟨value, loaded, decoded⟩ := bind_eq_ok.mp decoded
    obtain ⟨dot, _, decoded⟩ := bind_eq_ok.mp decoded
    cases decoded
    exact isOk_iff.mpr ⟨value, JsonReader.loadsOr_eq_ok.mp loaded⟩

/-- Every payload that a message brings is a document. -/
theorem readable_of_stateFromProto {json : JsonReader} {msg : Proto.CrdtState}
    {entry : StoredCrdtEntry} (decoded : stateFromProto json msg = .ok entry) :
    entry.state.Readable json := by
  unfold stateFromProto at decoded
  split at decoded
  · obtain ⟨crdtType, _, decoded⟩ := bind_eq_ok.mp decoded
    obtain ⟨state, field, decoded⟩ := bind_eq_ok.mp decoded
    obtain ⟨stateVersion, _, decoded⟩ := bind_eq_ok.mp decoded
    obtain ⟨causalContext, _, decoded⟩ := bind_eq_ok.mp decoded
    cases decoded
    unfold stateFieldFromProto at field
    split at field
    · obtain ⟨counter, _, field⟩ := bind_eq_ok.mp field
      cases field
      exact fun item stored => absurd stored (Set.notMem_empty item)
    · obtain ⟨positive, _, field⟩ := bind_eq_ok.mp field
      obtain ⟨negative, _, field⟩ := bind_eq_ok.mp field
      cases field
      exact fun item stored => absurd stored (Set.notMem_empty item)
    · obtain ⟨adds, _, field⟩ := bind_eq_ok.mp field
      obtain ⟨removed, _, field⟩ := bind_eq_ok.mp field
      cases field
      exact fun item stored => absurd stored (Set.notMem_empty item)
    · obtain ⟨values, decodes, field⟩ := bind_eq_ok.mp field
      obtain ⟨superseded, _, field⟩ := bind_eq_ok.mp field
      cases field
      intro item stored
      exact forall_of_mapM decodes (fun _ _ => accepted_of_registerValueFromProto) item
        (SortedMap.mem_of_get?_ofList stored)
    · cases field
  · cases decoded

variable (deployment : Deployment) (discipline : Discipline) (past : Past)

/-- What the invariant says of a committed mutation. -/
structure Mutation.Sound (mutation : Mutation) : Prop where
  actor : ∃ id, mutation.actor = deployment.actor id
  decoded : ∃ msg, mutationRequestFromProto deployment.json msg = .ok mutation.request
  applies : mutation.Applies
  key : mutation.after.key = mutation.key
  version : mutation.after.stateVersion = mutation.priorVersion.withDot mutation.dot
  before : ∀ entry, mutation.before = some entry →
    entry.key = mutation.key ∧ entry.Sound deployment.json discipline past
  after : mutation.after.Sound deployment.json discipline past
  token : past.Knows mutation.request.causalToken.version
  claimed : past.honest = true → ∃ earlier : History, earlier ++ [mutation] <+: past.history ∧
    earlier.Known mutation.request.causalToken.version
  session : past.Backs discipline mutation.key mutation.priorVersion
    mutation.request.causalToken.version
  own : past.honest = true → ∀ earlier ∈ past.history, earlier.key = mutation.key →
    earlier.actor = mutation.actor → earlier.dot.counter < mutation.dot.counter →
    mutation.priorVersion.Covers earlier.dot
  bounded : discipline.bounded = true → mutation.Bounded

/-- What holds of a mutation that is about to be committed. Everything its entry knows
besides its own dot is `base`. -/
structure Mutation.Prepared (mutation : Mutation) (base : VersionVector) : Prop where
  actor : ∃ id, mutation.actor = deployment.actor id
  decoded : ∃ msg, mutationRequestFromProto deployment.json msg = .ok mutation.request
  applies : mutation.Applies
  key : mutation.after.key = mutation.key
  version : mutation.after.stateVersion = mutation.priorVersion.withDot mutation.dot
  context : mutation.after.causalContext = base.withDot mutation.dot
  before : ∀ entry, mutation.before = some entry →
    entry.key = mutation.key ∧ entry.Sound deployment.json discipline past
  token : mutation.request.causalToken.version ≤ base
  known : past.Knows base
  session : past.Backs discipline mutation.key mutation.priorVersion base
  numbered : past.honest = true →
    mutation.dot.counter = past.history.count mutation.actor + 1
  own : past.honest = true → ∀ earlier ∈ past.history, earlier.key = mutation.key →
    earlier.actor = mutation.actor → mutation.priorVersion.Covers earlier.dot
  bounded : discipline.bounded = true → mutation.Bounded

/-- The past with one more mutation. -/
def Past.commit (mutation : Mutation) : Past :=
  ⟨past.history ++ [mutation], past.honest⟩

variable {deployment discipline past}

namespace Mutation

theorem Sound.grows {mutation : Mutation} {later : Past}
    (sound : mutation.Sound deployment discipline past) (member : mutation ∈ past.history)
    (grows : past.Grows later) : mutation.Sound deployment discipline later where
  actor := sound.actor
  decoded := sound.decoded
  applies := sound.applies
  key := sound.key
  version := sound.version
  before entry found := ⟨(sound.before entry found).1, (sound.before entry found).2.grows grows⟩
  after := sound.after.grows grows
  token := sound.token.grows grows
  claimed honest := by
    obtain ⟨earlier, prefixed, known⟩ := sound.claimed (grows.honest honest)
    exact ⟨earlier, prefixed.trans grows.history, known⟩
  session := sound.session.grows sound.token grows
  own honest earlier listed key actor less := by
    have honestBefore := grows.honest honest
    obtain ⟨extra, whole⟩ := grows.history
    rw [← whole] at listed
    rcases List.mem_append.mp listed with old | new
    · exact sound.own honestBefore earlier old key actor less
    -- A later mutation of the actor has a larger counter.
    · have dense := (sound.token honestBefore).1
      have denseLater := grows.dense honest dense
      rw [← whole] at denseLater
      obtain ⟨front, back, rfl⟩ := List.append_of_mem new
      have numbered := denseLater (past.history ++ front) earlier back (List.append_assoc ..).symm
      have bound := dense.counter_le member
      rw [History.count_append, actor] at numbered
      omega
  bounded := sound.bounded

namespace Prepared

variable {mutation : Mutation} {base : VersionVector}

theorem dense (prepared : mutation.Prepared deployment discipline past base)
    (honest : past.honest = true) : (past.history ++ [mutation]).Dense :=
  History.dense_concat.mpr ⟨(prepared.known honest).1, prepared.numbered honest⟩

theorem grows (prepared : mutation.Prepared deployment discipline past base) :
    past.Grows (past.commit mutation) :=
  ⟨List.prefix_append _ _, id, fun honest _ => prepared.dense honest⟩

theorem known_withDot (prepared : mutation.Prepared deployment discipline past base)
    {vector : VersionVector} (known : past.Knows vector) :
    (past.commit mutation).Knows (vector.withDot mutation.dot) := by
  intro honest
  refine ⟨prepared.dense honest, fun actor => ?_⟩
  have numbered := prepared.numbered honest
  have bound := (known honest).2 actor
  change _ ≤ (past.history ++ [mutation]).count actor
  rw [VersionVector.get_withDot, History.count_append, History.count_singleton]
  change (if mutation.actor = actor then _ else _) ≤ _
  split
  · next same =>
    rw [same] at numbered
    exact Nat.max_le.mpr ⟨bound.trans (Nat.le_add_right _ _), numbered.le⟩
  · exact bound

theorem after (prepared : mutation.Prepared deployment discipline past base) :
    mutation.after.Sound deployment.json discipline (past.commit mutation) where
  readable := by
    obtain ⟨msg, decoded⟩ := prepared.decoded
    refine (applied_of_applyMutation prepared.applies).readable ?_
      (accepted_of_mutationRequestFromProto decoded)
    unfold Mutation.prior
    cases found : mutation.before with
    | none =>
        intro item stored
        rw [CrdtState.content_empty] at stored
        exact absurd stored (Set.notMem_empty item)
    | some entry => exact (prepared.before entry found).2.readable
  represents honest :=
    History.represents_after (prepared.dense honest) prepared.applies prepared.key prepared.version
      (fun entry found => ⟨(prepared.before entry found).1,
        (prepared.before entry found).2.represents honest⟩)
      (prepared.own honest)
  version := by
    rw [prepared.version]
    refine prepared.known_withDot ?_
    unfold Mutation.priorVersion
    cases found : mutation.before with
    | none => exact prepared.known.mono bot_le
    | some entry => exact (prepared.before entry found).2.version
  context := by
    rw [prepared.context]
    exact prepared.known_withDot prepared.known
  backed := by
    intro honest backed other member sameKey covers
    rw [prepared.key] at sameKey
    rw [prepared.context, VersionVector.covers_withDot] at covers
    rw [prepared.version, VersionVector.covers_withDot]
    rcases List.mem_concat_cases member with old | rfl
    · rcases covers with covers | ⟨actor, _⟩
      · exact .inl (prepared.session honest backed other old sameKey covers)
      · exact .inl (prepared.own honest other old sameKey actor.symm)
    · exact .inr ⟨rfl, Nat.le_refl _⟩

/-- A prepared mutation is sound in the past that it makes. -/
theorem sound (prepared : mutation.Prepared deployment discipline past base) :
    mutation.Sound deployment discipline (past.commit mutation) where
  actor := prepared.actor
  decoded := prepared.decoded
  applies := prepared.applies
  key := prepared.key
  version := prepared.version
  before entry found :=
    ⟨(prepared.before entry found).1, (prepared.before entry found).2.grows prepared.grows⟩
  after := prepared.after
  token := (prepared.known.mono prepared.token).grows prepared.grows
  claimed honest := ⟨past.history, List.prefix_rfl, ((prepared.known honest).2).mono prepared.token⟩
  session := (prepared.session.mono le_rfl prepared.token).grows
    (prepared.known.mono prepared.token) prepared.grows
  own honest earlier listed key actor less := by
    rcases List.mem_concat_cases listed with old | rfl
    · exact prepared.own honest earlier old key actor
    · exact absurd less (Nat.lt_irrefl _)
  bounded := prepared.bounded

end Prepared

end Mutation

section Messages

variable (json : JsonReader) (discipline : Discipline) (past : Past)

/-- What a request brings is sound. -/
def Request.Sound : Request → Prop
  | .replicate msg => ∀ entry, replicationFromProto json msg = .ok entry →
      entry.Sound json discipline past
  | .digest msg => ∀ requester entries batchSize,
      digestRequestFromProto msg = .ok (requester, entries, batchSize) →
      ∀ digest ∈ entries, digest.Sound discipline past
  | .mutate _ | .read _ | .fetch _ => True

/-- What a response brings is sound. The frontier in the response to a fetch is backed
by the state that comes with it. -/
structure CrdtResponseData.Sound (request : Request) (response : CrdtResponseData) : Prop where
  state : ∀ entry, response.state = some entry → entry.Sound json discipline past
  frontier : past.Knows response.peerFrontier
  token : past.Knows response.causalToken.version
  fetched : ∀ msg, request = .fetch msg →
    (past.honest = true → ∀ entry, response.state = some entry → entry.key = msg.key.val) ∧
      past.Backs discipline msg.key.val (response.state.elim ⊥ (·.stateVersion))
        response.peerFrontier

/-- What a reply brings is sound; a failure brings no state. -/
def Reply.Sound (request : Request) : Reply → Prop
  | .response msg => ∀ response, responseFromProto json msg = .ok response →
      response.Sound json discipline past request ∧
        (response.success = false → response.state = none)
  | .digest msg => ∀ entries, digestResponseFromProto msg = .ok entries →
      ∀ digest ∈ entries, digest.Sound discipline past

variable {json discipline past} {later : Past}

theorem Request.Sound.grows {request : Request} (sound : request.Sound json discipline past)
    (grows : past.Grows later) : request.Sound json discipline later := by
  cases request with
  | mutate | read | fetch => trivial
  | replicate msg => exact fun entry decoded => (sound entry decoded).grows grows
  | digest msg =>
      exact fun requester entries batchSize decoded digest listed =>
        (sound requester entries batchSize decoded digest listed).grows grows

theorem CrdtResponseData.Sound.grows {request : Request} {response : CrdtResponseData}
    (sound : response.Sound json discipline past request) (grows : past.Grows later) :
    response.Sound json discipline later request where
  state entry found := (sound.state entry found).grows grows
  frontier := sound.frontier.grows grows
  token := sound.token.grows grows
  fetched msg is :=
    have fetched := sound.fetched msg is
    ⟨fetched.1 ∘ grows.honest, fetched.2.grows sound.frontier grows⟩

theorem Reply.Sound.grows {request : Request} {reply : Reply}
    (sound : reply.Sound json discipline past request) (grows : past.Grows later) :
    reply.Sound json discipline later request := by
  cases reply with
  | response msg =>
      exact fun response decoded =>
        ⟨(sound response decoded).1.grows grows, (sound response decoded).2⟩
  | digest msg =>
      exact fun entries decoded digest listed => (sound entries decoded digest listed).grows grows

theorem sound_replicate {entry : StoredCrdtEntry} (sound : entry.Sound json discipline past)
    {msg : Proto.CrdtReplicate} (encoded : replicationToProto entry = .ok msg) :
    (Request.replicate msg).Sound json discipline past := by
  intro received decoded
  obtain ⟨state, encodes, made⟩ := bind_eq_ok.mp encoded
  cases made
  rw [eq_of_stateFromProto encodes decoded]
  exact sound

theorem sound_digest {requester : PyStr} {entries : List CrdtDigestEntry} {batchSize : Nat}
    (sound : ∀ digest ∈ entries, digest.Sound discipline past) {msg : Proto.CrdtDigest}
    (encoded : digestRequestToProto requester entries batchSize = .ok msg) :
    (Request.digest msg).Sound json discipline past := by
  intro sender received limit decoded
  rw [digestRequestFromProto_of_encoded encoded] at decoded
  cases decoded
  exact sound

theorem sound_digestResponse {entries : List CrdtDigestEntry} {request : Request}
    (sound : ∀ digest ∈ entries, digest.Sound discipline past) {msg : Proto.CrdtDigestResponse}
    (encoded : digestResponseToProto entries = .ok msg) :
    (Reply.digest msg).Sound json discipline past request := by
  intro received decoded
  rw [digestResponseFromProto_of_encoded encoded] at decoded
  cases decoded
  exact sound

/-- A response that is sound when it reports success is sound on the wire. -/
theorem sound_response {response : CrdtResponseData} {request : Request}
    (dense : past.honest = true → past.history.Dense)
    (sound : response.success = true → response.Sound json discipline past request)
    {msg : Proto.CrdtResponse} (encoded : responseToProto response = .ok msg) :
    (Reply.response msg).Sound json discipline past request := by
  intro received decoded
  obtain ⟨same, fields⟩ := received_of_responseFromProto encoded decoded
  cases success : response.success with
  | false =>
      rw [success] at same fields
      obtain ⟨state, token, frontier⟩ := fields
      have known : past.Knows ⊥ := fun honest => ⟨dense honest, History.known_bot _⟩
      refine ⟨⟨?_, ?_, ?_, fun _ _ => ⟨?_, ?_⟩⟩, fun _ => state⟩
      · rw [state]
        exact nofun
      · rw [frontier]
        exact known
      · rw [token]
        exact known
      · rw [state]
        exact fun _ => nofun
      · rw [frontier]
        exact fun _ _ => History.backed_bot _ _ _
  | true =>
      have original := sound success
      rw [success] at same fields
      obtain ⟨state, token, frontier⟩ := fields
      refine ⟨⟨?_, ?_, ?_, ?_⟩, fun failed => nomatch same.symm.trans failed⟩
      · rw [state]
        exact original.state
      · rw [frontier]
        exact original.frontier
      · rw [token]
        exact original.token
      · rw [state, frontier]
        exact original.fetched

end Messages

end Distsys
