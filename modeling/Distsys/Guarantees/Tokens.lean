import Distsys.Client
import Distsys.Guarantees.Versions
import Distsys.Node.Alone
import Distsys.Node.Grounds

/-!
# Tokens are enforced

A read or a mutation that a node executes itself answers with success only from an entry
that knows all that the token of the request knows, and its own token knows all of the entry.
Nothing is assumed of the answers to the operations in between, so this holds in every state
and under every interleaving. Without grounds for the token there is no success and no commit.
-/

namespace Distsys

variable {deployment : Deployment} {self : Thread} {id : NodeId} {mutation : Mutation}
  {key : PyStr} {required : VersionVector} {events : List NodeEvent}

/-- The mutation that a request has led to. -/
structure Made (request : CrdtMutationData) (mutation : Mutation) (events : List NodeEvent) :
    Prop where
  asked : mutation.request = request
  committed : ∃ event ∈ events, Commits mutation event
  fresh : ∃ frontier : VersionVector, ⟨.readFrontier, frontier⟩ ∈ events ∧
    ¬ frontier.Covers mutation.dot
  above : request.causalToken.version ≤ mutation.after.causalContext
  covers : mutation.after.causalContext.Covers mutation.dot

theorem Made.mono {request : CrdtMutationData} {later : List NodeEvent}
    (made : Made request mutation events) (front : events <+: later) :
    Made request mutation later := by
  obtain ⟨event, listed, commits⟩ := made.committed
  obtain ⟨frontier, read, unknown⟩ := made.fresh
  exact { made with
    committed := ⟨event, front.subset listed, commits⟩
    fresh := ⟨frontier, front.subset read, unknown⟩ }

section Prepared

variable {request : CrdtMutationData} {existing : Option StoredCrdtEntry} {dot : Dot}
  {frontier : VersionVector}

theorem PreparedFrom.above
    (prepared : PreparedFrom deployment id request existing dot frontier mutation) :
    request.causalToken.version ≤ mutation.after.causalContext := by
  rw [prepared.context]
  exact (le_sup_right.trans le_sup_left).trans (VersionVector.le_withDot _ dot)

theorem PreparedFrom.covers
    (prepared : PreparedFrom deployment id request existing dot frontier mutation) :
    mutation.after.causalContext.Covers mutation.dot := by
  rw [prepared.context, prepared.numbered]
  exact VersionVector.covers_withDot_self _ dot

end Prepared

section Mutations

variable {request : CrdtMutationData}

theorem founded_commitLocal {frontier : VersionVector}
    (grounded : Grounded deployment key required events) :
    Founded deployment self key required (fun _ later => ∃ event ∈ later, Commits mutation event)
      (commitLocal deployment id mutation frontier) events := by
  unfold commitLocal
  split
  · exact (founded_commitThenReplace (.inr grounded)).mono fun _ _ _ holds =>
      ⟨_, holds.2, .disk _ _⟩
  · exact (founded_replace (.inr grounded)).mono fun _ _ _ holds => ⟨_, holds.2, .memory _ _⟩

/-- The part of `mutate` under the lock of the key. -/
theorem founded_mutateLocked
    (grounded : Grounded deployment request.key request.causalToken.version events) :
    Founded deployment self request.key request.causalToken.version
      (fun mutation later => Made request mutation later)
      (mutateLocked deployment id request) events := by
  have lasts : Lasts fun mutation later => Made request mutation later :=
    fun _ _ _ front made => made.mono front
  refine founded_withKeyLock lasts fun locked front => ?_
  refine (founded_perform rfl).bind fun existing found further _ => founded_compute fun _ _ => ?_
  refine founded_stagedAllocation lasts fun dot frontier current staged onward listed fresh => ?_
  refine founded_compute fun mutation result => ?_
  have prepared := preparedFrom_of_prepareMutation result
  refine (founded_perform rfl).bind fun _ vouched ahead _ => ?_
  have arrived := front.trans (further.trans (onward.trans ahead))
  refine ((founded_commitLocal (grounded.mono arrived)).catching fun error failed _ => ?_).bind
    fun stored last beyond commits => founded_pure ?_
  · exact (founded_perform rfl).bind fun _ _ _ _ => founded_throw error
  · exact {
      asked := prepared.asked
      committed := commits
      fresh := ⟨current, (ahead.trans beyond).subset listed, prepared.numbered ▸ fresh⟩
      above := prepared.above
      covers := prepared.covers }

/-- The part of `mutate` between the reservation and the response. -/
theorem founded_mutateReserved {reservation : OutboxReservation}
    (grounded : Grounded deployment request.key request.causalToken.version events) :
    Founded deployment self request.key request.causalToken.version
      (fun mutation later => Made request mutation later)
      (mutateReserved deployment id request reservation) events := by
  refine Prog.Reaches.catching ((founded_mutateLocked grounded).bind ?_) fun error _ _ =>
    (founded_perform rfl).bind fun _ _ _ _ => founded_throw error
  intro mutation later front made
  refine (founded_perform rfl).bind fun published last further _ => ?_
  exact founded_compute fun _ _ => founded_pure (made.mono further)

/-- The response to a mutation: the entry it left dominates the token of the request, and the
token of the response dominates the entry and covers the dot. -/
def MutationAnswered (deployment : Deployment) (request : CrdtMutationData)
    (response : CrdtResponseData) (events : List NodeEvent) : Prop :=
  ∃ mutation, Made request mutation events ∧
    materialize deployment.json mutation.after = .ok response.value ∧
    mutation.after.causalContext ≤ response.causalToken.version ∧
    response.causalToken.version.Covers mutation.dot

/-- `mutate`, for a request that this node serves. -/
theorem founded_mutateHere :
    Founded deployment self request.key request.causalToken.version
      (fun response later => Grounded deployment request.key request.causalToken.version later ∧
        MutationAnswered deployment request response later)
      (mutateHere deployment id request) events := by
  refine founded_ensureCausal.bind fun found start _ ensured => founded_compute fun _ _ => ?_
  refine (founded_perform rfl).bind fun replicas routed front _ => ?_
  refine (founded_perform rfl).bind fun reserved booked further _ => founded_compute fun _ _ => ?_
  have grounded := ensured.grounded.mono (front.trans further)
  refine (founded_mutateReserved grounded).bind fun mutation later ahead made => ?_
  refine founded_successResponse.bind fun response told beyond shown => ?_
  refine (founded_perform rfl).bind fun _ last final _ => founded_pure ⟨?_, mutation, ?_⟩
  · exact grounded.mono (ahead.trans (beyond.trans final))
  · exact ⟨made.mono (beyond.trans final), shown.2, shown.1, made.covers.mono shown.1⟩

end Mutations

section Reads

variable {request : CrdtReadData}

/-- The response to a read: it shows an entry of the store that dominates the token of the
request, and the token of the response dominates the entry. -/
def ReadAnswered (deployment : Deployment) (request : CrdtReadData) (response : CrdtResponseData)
    (events : List NodeEvent) : Prop :=
  ∃ entry : StoredCrdtEntry, ⟨.get request.key, some entry⟩ ∈ events ∧
    request.causalToken.version ≤ entry.causalContext ∧
    materialize deployment.json entry = .ok response.value ∧
    entry.causalContext ≤ response.causalToken.version

/-- A success had grounds, and the answer is as it should be. -/
def WellAnswered (deployment : Deployment) (key : PyStr) (required : VersionVector)
    (Answered : CrdtResponseData → List NodeEvent → Prop) (response : CrdtResponseData)
    (events : List NodeEvent) : Prop :=
  response.success = true → Grounded deployment key required events ∧ Answered response events

theorem wellAnswered_refused {Answered : CrdtResponseData → List NodeEvent → Prop}
    {response : CrdtResponseData} (refused : response.success = false) :
    WellAnswered deployment key required Answered response events :=
  fun success => absurd (refused.symm.trans success) Bool.false_ne_true

/-- `read`, for a request that this node serves. -/
theorem founded_readHere :
    Founded deployment self request.key request.causalToken.version
      (WellAnswered deployment request.key request.causalToken.version
        (ReadAnswered deployment request))
      (readHere deployment id request) events := by
  have absent : ∀ events, Founded deployment self request.key request.causalToken.version
      (WellAnswered deployment request.key request.causalToken.version
        (ReadAnswered deployment request)) (keyNotFound id request) events := fun events =>
    (founded_perform rfl).bind fun _ _ _ _ =>
      (founded_errorResponse _ _).mono fun _ _ _ refused => wellAnswered_refused refused
  refine (founded_perform rfl).bind fun current start _ _ => ?_
  split
  · exact absent start
  refine founded_ensureCausal.bind fun (found, contacted) later _ ensured => ?_
  cases found with
  | none => exact absent later
  | some entry =>
      obtain ⟨listed, above⟩ := ensured.entry entry rfl
      refine (founded_perform rfl).bind fun _ served front _ => ?_
      refine founded_successResponse.mono fun response last further shown _ => ?_
      have onward := front.trans further
      exact ⟨ensured.grounded.mono onward, entry, onward.subset listed, above, shown.2, shown.1⟩

end Reads

section Routing

variable {target : NodeId}

/-- The node found itself among the replicas of the key, so it executed the request itself. -/
def Local (id : NodeId) (key : PyStr) (events : List NodeEvent) : Prop :=
  ∃ ids : List NodeId, [⟨.replicas key, ids⟩] <+: events ∧ id ∈ ids

theorem not_local {ids : List NodeId} (front : [⟨.replicas key, ids⟩] <+: events)
    (absent : id ∉ ids) : ¬ Local id key events := by
  rintro ⟨others, beginning, listed⟩
  obtain ⟨rest, rfl⟩ := front
  obtain ⟨more, same⟩ := beginning
  cases same
  exact absent listed

theorem founded_forward {α : Type} {encode : Nat → Except PyError α} {request : α → Request} :
    Founded deployment self key required (fun _ _ => True) (do
      let left ← CrdtPeerClient.forwardingTime
      let msg ← Prog.ofExcept (encode left)
      CrdtPeerClient.crdtRoundTrip deployment target (request msg) true) events := by
  have timed : Founded deployment self key required (fun _ _ => True)
      CrdtPeerClient.forwardingTime events := by
    refine (founded_perform rfl).bind fun left later _ _ => ?_
    split
    · exact founded_throw _
    · exact founded_pure trivial
  refine timed.bind fun left later _ _ => founded_compute fun msg _ => ?_
  have exchanged : Founded deployment self key required (fun _ _ => True)
      (exchange target (request msg)) later :=
    (founded_perform rfl).bind fun _ _ _ _ => (founded_perform rfl).bind fun _ _ _ _ =>
      Prog.reaches_ofExcept fun _ _ => trivial
  exact exchanged.bind fun _ _ _ _ => Prog.reaches_ofExcept fun _ _ => trivial

theorem founded_routeRequest {forwarded : Bool} {misrouted : String}
    {forward : NodeId → Code CrdtResponseData}
    (forwards : ∀ target events, Founded deployment self key required (fun _ _ => True)
      (forward target) events) :
    Founded deployment self key required
      (fun routed later => ∀ response, routed = some response → ¬ Local id key later)
      (routeRequest id key forwarded misrouted forward) [] := by
  refine (founded_admitted (.replicas key) (.inl rfl)).bind ?_
  rintro ids _ _ rfl
  cases ids with
  | nil => exact founded_throw _
  | cons target others =>
      show Founded deployment self key required _ (if id ∈ target :: others then _ else _) _
      split
      · exact founded_pure (by rintro _ ⟨⟩)
      next absent =>
      split
      · exact (founded_errorResponse _ _).bind fun _ _ front _ =>
          founded_pure fun _ _ => not_local front absent
      · refine ((forwards target _).catching fun error later _ => ?_).bind fun _ _ front _ =>
          founded_pure fun _ _ => not_local front absent
        unfold forwardingFailure
        split
        · exact (founded_errorResponse _ _).mono fun _ _ _ _ => trivial
        · exact (founded_errorResponse _ _).mono fun _ _ _ _ => trivial
        · exact founded_throw error

/-- A request that is routed and then served, if the node is a replica of the key. -/
theorem founded_routed {Answered : CrdtResponseData → List NodeEvent → Prop} {forwarded : Bool}
    {misrouted : String} {forward : NodeId → Code CrdtResponseData} {here : Code CrdtResponseData}
    {handler : PyError → Code CrdtResponseData}
    (forwards : ∀ target events, Founded deployment self key required (fun _ _ => True)
      (forward target) events)
    (serves : ∀ events, Founded deployment self key required
      (WellAnswered deployment key required Answered) here events)
    (handles : ∀ error events, Founded deployment self key required
      (fun response _ => response.success = false) (handler error) events) :
    Founded deployment self key required
      (fun response later => Local id key later →
        WellAnswered deployment key required Answered response later)
      (Prog.catching (do
        match ← routeRequest id key forwarded misrouted forward with
        | some routed => return routed
        | none => here) handler) [] := by
  refine Prog.Reaches.catching ((founded_routeRequest forwards).bind ?_) fun error later _ =>
    (handles error later).mono fun _ _ _ refused _ => wellAnswered_refused refused
  intro routed later _ away
  cases routed with
  | some response => exact founded_pure fun executed => absurd executed (away response rfl)
  | none => exact (serves later).mono fun _ _ _ answered _ => answered

theorem founded_mutationFailure (error : PyError) :
    Founded deployment self key required (fun response _ => response.success = false)
      (mutationFailure id error) events := by
  unfold mutationFailure
  split
  case h_9 => exact founded_throw error
  all_goals exact founded_errorResponse _ _

theorem founded_readFailure (error : PyError) :
    Founded deployment self key required (fun response _ => response.success = false)
      (readFailure id error) events := by
  unfold readFailure
  split
  case h_4 => exact founded_throw error
  all_goals exact founded_errorResponse _ _

theorem founded_mutate (request : CrdtMutationData) :
    Founded deployment self request.key request.causalToken.version
      (fun response later => Local self.node request.key later →
        WellAnswered deployment request.key request.causalToken.version
          (MutationAnswered deployment request) response later)
      (mutate deployment self.node request) [] :=
  founded_routed (fun _ _ => founded_forward)
    (fun _ => founded_mutateHere.mono fun _ _ _ answered _ => answered)
    fun error _ => founded_mutationFailure error

theorem founded_read (request : CrdtReadData) :
    Founded deployment self request.key request.causalToken.version
      (fun response later => Local self.node request.key later →
        WellAnswered deployment request.key request.causalToken.version
          (ReadAnswered deployment request) response later)
      (read deployment self.node request) [] :=
  founded_routed (fun _ _ => founded_forward) (fun _ => founded_readHere)
    fun error _ => founded_readFailure error

end Routing

section Traces

variable {Answered : CrdtResponseData → List NodeEvent → Prop} {code rest : Code CrdtResponseData}
  (founded : Founded deployment self key required
    (fun response later => Local self.node key later →
      WellAnswered deployment key required Answered response later) code [])

/-- The coroutine has committed nothing, and its answer, if it has one, is an error. -/
def Refused (id : NodeId) (key : PyStr) (events : List NodeEvent) (rest : Code CrdtResponseData) :
    Prop :=
  (∀ event ∈ events, Op.commit event.op = none) ∧
  ∀ response, rest = .done (.ok response) → Local id key events → response.success = false

include founded

theorem wellAnswered_of_traces {response : CrdtResponseData}
    (traces : code.Traces self.Possible events (.done (.ok response)))
    (executed : Local self.node key events) :
    WellAnswered deployment key required Answered response events :=
  (Prog.Obeys.post_of_traces founded traces).2 response rfl executed

theorem refused_of_ungrounded (traces : code.Traces self.Possible events rest)
    (ungrounded : ¬ Grounded deployment key required events) :
    Refused self.node key events rest := by
  refine ⟨fun event listed => ?_, ?_⟩
  · obtain ⟨before, front, admitted⟩ := Prog.Obeys.guard_of_traces founded traces listed
    exact admitted.resolve_right fun grounded => ungrounded (grounded.mono front)
  · rintro response rfl executed
    refine Bool.eq_false_iff.mpr fun success => ungrounded ?_
    exact (wellAnswered_of_traces founded traces executed success).1

end Traces

/-- Tokens are enforced by the nodes and kept by the clients. A request that a node executes
itself is answered with success only from an entry that dominates the token of the request,
and the token of the response dominates the entry; that of a mutation covers its new dot.
Without grounds for the token there is no commit and no success. The token of a client session
never decreases. -/
theorem tokens_enforced (deployment : Deployment) :
    (∀ (self : Thread) (request : CrdtReadData) (events : List NodeEvent)
      (response : CrdtResponseData),
      (read deployment self.node request).Traces self.Possible events (.done (.ok response)) →
      Local self.node request.key events → response.success = true →
      ReadAnswered deployment request response events) ∧
    (∀ (self : Thread) (request : CrdtMutationData) (events : List NodeEvent)
      (response : CrdtResponseData),
      (mutate deployment self.node request).Traces self.Possible events (.done (.ok response)) →
      Local self.node request.key events → response.success = true →
      MutationAnswered deployment request response events) ∧
    (∀ (self : Thread) (request : CrdtReadData) (events : List NodeEvent)
      (rest : Code CrdtResponseData),
      (read deployment self.node request).Traces self.Possible events rest →
      ¬ Grounded deployment request.key request.causalToken.version events →
      Refused self.node request.key events rest) ∧
    (∀ (self : Thread) (request : CrdtMutationData) (events : List NodeEvent)
      (rest : Code CrdtResponseData),
      (mutate deployment self.node request).Traces self.Possible events rest →
      ¬ Grounded deployment request.key request.causalToken.version events →
      Refused self.node request.key events rest) ∧
    ∀ (setup : ClientSetup) (first last : ClientSession),
      RunsUnder (ClientSession.step setup) (fun _ _ => True) first last →
      first.client.causalToken.version ≤ last.client.causalToken.version := by
  refine ⟨?_, ?_, ?_, ?_, fun _ _ _ run => ClientSession.token_le_runs run⟩
  · intro self request events response traces executed success
    exact (wellAnswered_of_traces (founded_read request) traces executed success).2
  · intro self request events response traces executed success
    exact (wellAnswered_of_traces (founded_mutate request) traces executed success).2
  · intro self request events rest traces ungrounded
    exact refused_of_ungrounded (founded_read request) traces ungrounded
  · intro self request events rest traces ungrounded
    exact refused_of_ungrounded (founded_mutate request) traces ungrounded

/-- A coroutine that runs alone at east has a trace, and east executes its request itself. -/
theorem exists_local_trace (code : Code CrdtResponseData)
    {next : List NodeId → Code CrdtResponseData} (starts : code = .act (.replicas key) next)
    {start : World} (check : CrdtResponseData → Bool)
    (finished : (code.run (World.alone { replicas := fun _ => [east], target := east } ⟨east, 0⟩)
      start).any (fun ended => ended.1.toOption.any check) = true) :
    ∃ events response, code.Traces (Thread.Possible ⟨east, 0⟩) events (.done (.ok response)) ∧
      Local east key events ∧ check response = true := by
  cases ran : code.run (World.alone { replicas := fun _ => [east], target := east } ⟨east, 0⟩)
      start with
  | none => rw [ran] at finished; cases finished
  | some ended =>
      obtain ⟨result, after⟩ := ended
      rw [ran] at finished
      cases result with
      | error error => cases finished
      | ok response =>
          obtain ⟨events, traces, faithful⟩ := Prog.exists_traces_of_run
            (Thread.Possible ⟨east, 0⟩) (fun answered => ⟨_, _, _, answered⟩) ran
          refine ⟨events, response, traces, ?_, finished⟩
          subst starts
          cases traces with
          | cons answered later =>
              obtain ⟨before, following, same⟩ := faithful _ List.mem_cons_self
              cases same
              exact ⟨[east], ⟨_, rfl⟩, List.mem_singleton_self _⟩

/-- A client's increment of a counter. -/
def incrementWith (causalToken : CausalToken) : CrdtMutationData :=
  ⟨[107], .gcounter, .increment, .null, 1, causalToken, false, [], 0⟩

/-- East increments a counter, increments it again with the token of the first response, and
answers from the entry that this leaves. -/
theorem increment_is_answered :
    ∃ (first response : CrdtResponseData) (after : World) (events : List NodeEvent),
      (mutate pair east (incrementWith .empty)).run
        (World.alone { replicas := fun _ => [east], target := east } ⟨east, 0⟩)
        pair.initialWorld = some (.ok first, after) ∧
      first.causalToken ≠ .empty ∧ Local east [107] events ∧ response.success = true ∧
      MutationAnswered pair (incrementWith first.causalToken) response events := by
  have checked : ((mutate pair east (incrementWith .empty)).run
      (World.alone { replicas := fun _ => [east], target := east } ⟨east, 0⟩)
      pair.initialWorld).any (fun ended => ended.1.toOption.any fun first =>
        decide (first.causalToken ≠ .empty) &&
          ((mutate pair east (incrementWith first.causalToken)).run
            (World.alone { replicas := fun _ => [east], target := east } ⟨east, 0⟩) ended.2).any
              fun ended => ended.1.toOption.any (·.success)) = true := by decide +kernel
  obtain ⟨⟨result, after⟩, ran, checked⟩ := (Option.any_eq_true _ _).mp checked
  cases result with
  | error error => cases checked
  | ok first =>
      obtain ⟨named, finished⟩ := Bool.and_eq_true_iff.mp checked
      obtain ⟨events, response, traces, executed, success⟩ := exists_local_trace
        (mutate pair east (incrementWith first.causalToken)) rfl (·.success) finished
      exact ⟨first, response, after, events, ran, of_decide_eq_true named, executed, success,
        (tokens_enforced pair).2.1 ⟨east, 0⟩ _ events response traces executed success⟩

end Distsys
