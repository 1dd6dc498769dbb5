import Distsys.Cluster.Repairing

/-!
# Safety of the handlers

What the handlers of `CrdtService` answer: mutations, reads and the messages of peers.
-/

namespace Distsys

variable {deployment : Deployment} {discipline : Discipline} {thread : Thread} {world : World}
  {original : Request} {error : PyError}

/-- A request is served by another replica or here. -/
theorem answers_routed {request : Request} {route : Code (Option CrdtResponseData)}
    {here : Code CrdtResponseData} {failure : PyError → Code CrdtResponseData}
    (routes : Yields deployment discipline thread
      (fun routed later => ∀ response, routed = some response →
        response.Answers deployment.json discipline later.past request) route world)
    (serves : ∀ now, AnswersTo deployment discipline thread request here now)
    (fails : ∀ error now, AnswersTo deployment discipline thread request (failure error) now) :
    AnswersTo deployment discipline thread request
      (Prog.catching (do
        match ← route with
        | some routed => return routed
        | none => here) failure) world := by
  refine (routes.bind fun routed now _ answers => ?_).catching
    fun error later _ => fails error later
  cases routed with
  | some response => exact yields_pure fun later moved => (answers response rfl).grows moved.past
  | none => exact serves now

section Mutation

variable {request : CrdtMutationData}

theorem yields_mutateReserved {reservation : OutboxReservation}
    (decoded : ∃ msg, mutationRequestFromProto deployment.json msg = .ok request)
    (vouched : world.Vouched discipline thread.node request.key request.causalToken.version) :
    Yields deployment discipline thread
      (fun mutation later => later.Mutated deployment discipline thread.node request.key mutation)
      (mutateReserved deployment thread.node request reservation) world := by
  refine ((yields_mutateLocked decoded vouched).bind
    fun mutation committed _ mutated => ?_).catching
    fun error _ _ => yields_cancel.bind fun _ _ _ _ => yields_throw error
  refine (yields_publish mutated.stores.sound).bind fun published now moved _ => ?_
  exact yields_compute fun _ _ => yields_pure fun later further =>
    mutated.later (moved.trans further)

theorem answers_mutateHere (other : ∀ msg, original ≠ .fetch msg)
    (decoded : ∃ msg, mutationRequestFromProto deployment.json msg = .ok request) :
    AnswersTo deployment discipline thread original
      (mutateHere deployment thread.node request) world := by
  refine yields_ensureCausal.bind ?_
  rintro ⟨existing, repairPerformed⟩ checked _ ensured
  refine yields_compute fun _ _ => ?_
  refine (yields_ask (.replicas request.key) trivial).bind fun replicas asked routed _ => ?_
  refine yields_reserve.bind fun reserved now moved _ => yields_compute fun reservation _ => ?_
  refine (yields_mutateReserved decoded (ensured.vouched.later (routed.trans moved))).bind ?_
  intro mutation committed _ mutated
  refine (yields_successResponse mutated.stores).bind fun response answered moved succeeded => ?_
  replace mutated := mutated.later moved
  refine (yields_acknowledge fun now moved durable => ⟨?_, mutation, ?_⟩).bind
    fun _ told moved _ => yields_pure fun later further => ?_
  · have below := (succeeded.absorbed.later moved) durable
    rw [← succeeded.token] at below
    exact below _
  · have later := mutated.later moved
    exact ⟨later.member, later.actor, later.key, rfl⟩
  · exact (succeeded.answers mutated.stores other).grows (moved.past.trans further.past)

theorem answers_mutationFailure :
    AnswersTo deployment discipline thread original (mutationFailure thread.node error) world := by
  unfold mutationFailure
  split
  all_goals first
    | exact answers_errorResponse
    | exact yields_throw error

theorem answers_mutate (other : ∀ msg, original ≠ .fetch msg)
    (decoded : ∃ msg, mutationRequestFromProto deployment.json msg = .ok request) :
    AnswersTo deployment discipline thread original (mutate deployment thread.node request) world :=
  answers_routed (yields_routeRequest fun _ _ => answers_forwardMutation other)
    (fun _ => answers_mutateHere other decoded) fun _ _ => answers_mutationFailure

end Mutation

section Read

variable {request : CrdtReadData} {original : Request}

theorem Ensured.served {copy : Option StoredCrdtEntry}
    (ensured : Ensured deployment discipline thread.node request.key request.causalToken.version
      copy world) :
    Served.Sound deployment discipline world.past ⟨thread.node, request, copy⟩ :=
  ⟨fun entry is => ⟨(ensured.stores entry is).1, (ensured.stores entry is).2.sound⟩,
    ensured.known, ensured.backs⟩

theorem answers_keyNotFound
    (ensured : Ensured deployment discipline thread.node request.key request.causalToken.version
      none world) :
    AnswersTo deployment discipline thread original (keyNotFound thread.node request) world :=
  (yields_serve ensured.served).bind fun _ _ _ _ => answers_errorResponse

theorem answers_readHere (other : ∀ msg, original ≠ .fetch msg) :
    AnswersTo deployment discipline thread original
      (readHere deployment thread.node request) world := by
  refine yields_get fun now inv _ => ?_
  dsimp only
  split
  · next unasked =>
    simp only [Bool.and_eq_true, Bool.not_eq_true'] at unasked
    have empty := VersionVector.nonempty_eq_false_iff.mp unasked.2
    refine answers_keyNotFound ?_
    rw [empty]
    exact Ensured.of_bot inv
  · refine yields_ensureCausal.bind ?_
    rintro ⟨copy, repairPerformed⟩ checked _ ensured
    cases copy with
    | none => exact answers_keyNotFound ensured
    | some entry =>
        refine (yields_serve ensured.served).bind fun _ now moved _ => ?_
        have stores := (ensured.stores entry rfl).2.later moved
        exact (yields_successResponse stores).mono fun _ _ moved succeeded =>
          succeeded.answers (stores.later moved) other

theorem answers_readFailure :
    AnswersTo deployment discipline thread original (readFailure thread.node error) world := by
  unfold readFailure
  split
  all_goals first
    | exact answers_errorResponse
    | exact yields_throw error

theorem answers_read (other : ∀ msg, original ≠ .fetch msg) :
    AnswersTo deployment discipline thread original (read deployment thread.node request) world :=
  answers_routed (yields_routeRequest fun _ _ => answers_forwardRead other)
    (fun _ => answers_readHere other) fun _ _ => answers_readFailure

end Read

section Peers

variable {entry : StoredCrdtEntry}

theorem answers_replicateResponse (other : ∀ msg, original ≠ .fetch msg)
    (sound : entry.Sound deployment.json discipline world.past) :
    AnswersTo deployment discipline thread original
      (replicateResponse deployment thread.node entry) world := by
  refine (yields_mergeEntry sound).bind ?_
  rintro merged now _ ⟨stores, _⟩
  refine (yields_observe stores.sound.context stores.absorbed).bind fun _ observed moved _ => ?_
  replace stores := stores.later moved
  exact (yields_successResponse stores).mono fun _ _ moved succeeded =>
    succeeded.answers (stores.later moved) other

/-- The node vouches for the frontier in its answer to a fetch. -/
theorem answers_fetchResponse {msg : Proto.CrdtFetch} :
    AnswersTo deployment discipline thread (.fetch msg)
      (fetchResponse deployment thread.node msg.key.val) world := by
  refine yields_get fun now stored _ => ?_
  generalize found : (now.nodes thread.node).store.get msg.key.val = copy
  refine yields_clockFrontier.bind fun frontier read moved known => ?_
  cases copy with
  | none =>
      refine yields_vouch fun vouched moved backs => yields_pure fun later further _ => ?_
      have grows := moved.past.trans further.past
      refine ⟨nofun, known.1.grows grows, known.1.grows grows, ?_⟩
      rintro _ ⟨⟩
      exact ⟨fun _ => nofun, backs.grows (known.1.grows moved.past) further.past⟩
  | some entry =>
      have same := Store.key_of_get found
      have stores := (stored.stores found).later moved
      refine (yields_successResponse stores).bind fun response answered moved succeeded => ?_
      replace stores := stores.later moved
      refine yields_vouch fun vouched moved backs => yields_pure fun later further _ => ?_
      have grows := moved.past.trans further.past
      have state : response.state = some entry := succeeded.state
      refine ⟨?_, succeeded.known.grows grows, succeeded.token ▸ succeeded.known.grows grows, ?_⟩
      · rw [state]
        rintro _ ⟨⟩
        exact stores.sound.grows grows
      · rw [state]
        rintro _ ⟨⟩
        refine ⟨?_, backs.grows (succeeded.known.grows moved.past) further.past⟩
        rintro _ _ ⟨⟩
        exact same

theorem yields_absorbDigest (digests : List CrdtDigestEntry)
    (sound : ∀ digest ∈ digests, digest.Sound discipline world.past) :
    Harmless deployment discipline thread
      (absorbDigest deployment thread.node digests) world := by
  induction digests generalizing world with
  | nil => exact harmless_pure _
  | cons digest rest ih =>
      obtain ⟨first, others⟩ := List.forall_mem_cons.mp sound
      refine yields_get fun now _ moved => ?_
      replace first := first.grows moved.past
      replace others := fun digest listed => (others digest listed).grows moved.past
      cases found : (now.nodes thread.node).store.get digest.key with
      | none => exact ih others
      | some entry =>
          dsimp only
          split
          · next agrees =>
            have vouched : now.Vouched discipline thread.node digest.key digest.causalContext := by
              refine ⟨first.context, ?_⟩
              rw [Node.version, found, Option.elim_some, agrees.2]
              exact first.backed
            exact (yields_mergeMetadata vouched).bind fun _ _ moved _ =>
              ih fun digest listed => (others digest listed).grows moved.past
          · exact ih others

/-- The entries of shared keys are among those of the snapshot. -/
theorem yields_sharedEntries {peer : PyStr} (entries : List StoredCrdtEntry) :
    Yields deployment discipline thread (fun shared _ => shared ⊆ entries)
      (sharedEntries thread.node peer entries) world := by
  induction entries generalizing world with
  | nil => exact yields_pure fun _ _ => List.Subset.refl []
  | cons entry rest ih =>
      refine (yields_ask (.replicas entry.key) trivial).bind fun replicas _ _ _ => ?_
      refine ih.bind fun shared _ _ among => ?_
      split
      · exact yields_pure fun _ _ => List.cons_subset_cons entry among
      · exact yields_pure fun _ _ => List.subset_cons_of_subset entry among

/-- The digest is sound, and the node has what it lists. -/
structure World.Lists (discipline : Discipline) (id : NodeId) (digest : CrdtDigestEntry)
    (world : World) : Prop where
  sound : digest.Sound discipline world.past
  version : digest.stateVersion ≤ (world.nodes id).version digest.key

theorem World.Lists.later {id : NodeId} {digest : CrdtDigestEntry} {now : World}
    (lists : world.Lists discipline id digest) (moved : World.Progress id world now) :
    now.Lists discipline id digest :=
  ⟨lists.sound.grows moved.past, lists.version.trans (moved.version _)⟩

theorem World.Stores.lists {id : NodeId} (stores : world.Stores deployment discipline id entry) :
    world.Lists discipline id (.fromEntry entry) :=
  ⟨stores.sound.digest, stores.version⟩

theorem yields_digestSnapshot {peer : PyStr} :
    Yields deployment discipline thread
      (fun digests later => ∀ digest ∈ digests, later.Lists discipline thread.node digest)
      (digestSnapshot thread.node peer) world := by
  refine yields_snapshotAll.bind fun entries now _ stored => ?_
  refine (yields_sharedEntries entries).bind fun shared _ moved among => ?_
  refine yields_pure fun later further => List.forall_mem_map.mpr fun entry listed => ?_
  obtain ⟨start, inv, reached, found⟩ := stored entry (among listed)
  exact ((inv.stores found).later (reached.trans (moved.trans further))).lists

theorem yields_handleDigest {msg : Proto.CrdtDigest}
    (sound : (Request.digest msg).Sound deployment.json discipline world.past) :
    Yields deployment discipline thread
      (fun reply later => reply.Sound deployment.json discipline later.past original)
      (handleDigest deployment thread.node msg) world := by
  refine yields_compute fun (requester, incoming, batchSize) decoded => ?_
  dsimp only
  split
  · exact yields_throw _
  refine (yields_absorbDigest incoming (sound requester incoming batchSize decoded)).bind ?_
  intro _ absorbed _ _
  refine yields_digestSnapshot.bind fun snapshot walked _ listed => ?_
  refine yields_compute fun reply encoded => yields_pure fun later further => ?_
  exact (sound_digestResponse (fun digest member =>
    (listed digest (List.mem_of_mem_take member)).sound) encoded).grows further.past

end Peers

section Messages

/-- A handler that answers, with its answer put on the wire. -/
theorem yields_answered {code : Code CrdtResponseData}
    (answers : AnswersTo deployment discipline thread original code world) :
    Yields deployment discipline thread
      (fun reply later => reply.Sound deployment.json discipline later.past original)
      (code >>= wireResponse) world := by
  refine answers.bind fun response answered _ answers => yields_of_inv fun inv => ?_
  refine yields_compute fun msg encoded => yields_pure fun later moved => ?_
  exact (sound_response inv.dense answers encoded).grows moved.past

theorem yields_dispatch (request : Request)
    (sound : request.Sound deployment.json discipline world.past) :
    Yields deployment discipline thread
      (fun reply later => reply.Sound deployment.json discipline later.past request)
      (dispatch deployment thread.node request) world := by
  cases request with
  | mutate msg =>
      exact yields_compute fun request decoded => yields_compute fun _ _ =>
        yields_answered (answers_mutate nofun ⟨msg, decoded⟩)
  | read msg =>
      exact yields_compute fun request _ => yields_compute fun _ _ =>
        yields_answered (answers_read nofun)
  | replicate msg =>
      exact yields_compute fun entry decoded =>
        yields_answered (answers_replicateResponse nofun (sound entry decoded))
  | fetch msg =>
      refine yields_compute fun key decoded => ?_
      unfold fetchRequestFromProto at decoded
      split at decoded
      · cases decoded
      · cases decoded
        exact yields_answered answers_fetchResponse
  | digest msg => exact yields_handleDigest sound

theorem yields_handlingFailure :
    Yields deployment discipline thread
      (fun reply later => reply.Sound deployment.json discipline later.past original)
      (handlingFailure thread.node error) world := by
  unfold handlingFailure
  dsimp only
  split
  all_goals exact yields_answered answers_errorResponse

/-- The handler of a message that was sent. -/
theorem yields_handleMessage {correlation : Nat} {envelope : Envelope}
    (sent : world.requests[correlation]? = some envelope) :
    Harmless deployment discipline thread
      (handleMessage deployment thread.node correlation envelope.request) world := by
  refine yields_of_inv fun inv => ?_
  have sound := inv.requests envelope (List.mem_of_getElem? sent)
  refine ((yields_dispatch envelope.request sound).catching fun _ _ _ =>
    yields_handlingFailure).bind fun reply handled moved sound => ?_
  exact yields_reply (moved.sent sent) sound

end Messages

end Distsys
