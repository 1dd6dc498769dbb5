import Distsys.Lib.Trace
import Distsys.Node.Service

/-!
# The grounds of an answer

What a coroutine has been shown by the store, the clock and the peers, up to any point of its
execution, and the grounds on which it may take a token for satisfied: an entry of the key, the
frontier of the clock, or all that it has been shown together. The answers to its operations
are those of any states of the nodes, so nothing is assumed of what happens in between.
-/

namespace Distsys

/-- An operation of a coroutine with its answer. -/
abbrev NodeEvent := nodeSignature.Event

variable {later : List NodeEvent}

/-- The mutation that an operation commits. -/
def Op.commit : Op → Option Mutation
  | .replace _ _ commit => commit
  | .commitRows _ _ commit => commit
  | _ => none

/-- Some state of the nodes gives the answer. -/
def Thread.Possible (self : Thread) (op : Op) (answer : op.Answer) : Prop :=
  ∃ world choice after, World.exec world self op choice = some (answer, after)

/-- The mutation is committed, in memory or on the disk. -/
inductive Commits (mutation : Mutation) : NodeEvent → Prop
  | memory (entry : StoredCrdtEntry) (expectedType : Option CrdtType) :
      Commits mutation ⟨.replace entry expectedType (some mutation), .ok ()⟩
  | disk (entry : StoredCrdtEntry) (state : DurableCausalState) :
      Commits mutation ⟨.commitRows entry state (some mutation), .ok ()⟩

section

variable (deployment : Deployment) {events : List NodeEvent}

/-- What a response of a peer shows: its frontier, and the context of its entry. -/
def CrdtResponseData.shown (response : CrdtResponseData) : VersionVector :=
  response.peerFrontier ⊔ response.state.elim ⊥ (·.causalContext)

/-- What an event shows of the store and of the peers. -/
def NodeEvent.shown : NodeEvent → VersionVector
  | ⟨.get _, some entry⟩ => entry.causalContext
  | ⟨.receive _, .ok reply⟩ =>
      match CrdtPeerClient.readResponse deployment false reply with
      | .ok response => response.shown
      | .error _ => ⊥
  | _ => ⊥

/-- What the events show together. -/
def gathered : List NodeEvent → VersionVector
  | [] => ⊥
  | event :: rest => NodeEvent.shown deployment event ⊔ gathered rest

/-- The grounds on which the token is satisfied for the key. -/
def Grounded (key : PyStr) (required : VersionVector) (events : List NodeEvent) : Prop :=
  (∃ entry : StoredCrdtEntry, ⟨.get key, some entry⟩ ∈ events ∧ required ≤ entry.causalContext) ∨
  (∃ frontier : VersionVector, ⟨.readFrontier, frontier⟩ ∈ events ∧ required ≤ frontier) ∨
  required ≤ gathered deployment events

variable {deployment}

theorem shown_le_gathered {event : NodeEvent} (listed : event ∈ events) :
    NodeEvent.shown deployment event ≤ gathered deployment events := by
  induction events with
  | nil => cases listed
  | cons first rest ih =>
      rcases List.mem_cons.mp listed with rfl | listed
      · exact le_sup_left
      · exact (ih listed).trans le_sup_right

theorem gathered_mono (front : events <+: later) :
    gathered deployment events ≤ gathered deployment later := by
  obtain ⟨rest, rfl⟩ := front
  induction events with
  | nil => exact bot_le
  | cons first events ih => exact sup_le_sup_left ih _

theorem Grounded.mono {key : PyStr} {required : VersionVector}
    (grounded : Grounded deployment key required events) (front : events <+: later) :
    Grounded deployment key required later := by
  rcases grounded with ⟨entry, listed, below⟩ | ⟨frontier, listed, below⟩ | below
  · exact .inl ⟨entry, front.subset listed, below⟩
  · exact .inr (.inl ⟨frontier, front.subset listed, below⟩)
  · exact .inr (.inr (below.trans (gathered_mono front)))

end

/-- A trace is added to. -/
def growing : Prog.Frame (List NodeEvent) :=
  ⟨(· <+: ·), fun _ => List.prefix_rfl, List.IsPrefix.trans⟩

/-- The coroutine commits a mutation only with grounds for the token, whatever the answers to
its operations are, and what it returns has the property after its trace. -/
abbrev Founded {α : Type} (deployment : Deployment) (self : Thread) (key : PyStr)
    (required : VersionVector) (returns : α → List NodeEvent → Prop) (code : Code α)
    (events : List NodeEvent) : Prop :=
  Prog.Reaches (recorder nodeSignature self.Possible fun events op =>
    op.commit = none ∨ Grounded deployment key required events) growing returns code events

/-- The property stays when the trace is added to. -/
abbrev Lasts {α : Type} (returns : α → List NodeEvent → Prop) : Prop :=
  ∀ value events later, events <+: later → returns value events → returns value later

variable {α β : Type} {deployment : Deployment} {self : Thread} {id : NodeId} {key : PyStr}
  {required : VersionVector} {events : List NodeEvent} {returns : α → List NodeEvent → Prop}

section Rules

theorem founded_pure {value : α} (holds : returns value events) :
    Founded deployment self key required returns (pure value) events := by
  refine ⟨List.prefix_rfl, ?_⟩
  rintro _ ⟨⟩
  exact holds

theorem founded_throw (error : PyError) :
    Founded deployment self key required returns (throw error) events :=
  ⟨List.prefix_rfl, by rintro _ ⟨⟩⟩

theorem founded_admitted (op : Op)
    (admitted : op.commit = none ∨ Grounded deployment key required events) :
    Founded deployment self key required (fun answer later => later = events ++ [⟨op, answer⟩])
      (perform op) events := by
  refine ⟨admitted, fun answer _ => ⟨List.prefix_append _ _, ?_⟩⟩
  rintro _ ⟨⟩
  rfl

theorem mem_of_eq_concat {op : Op} {answer : op.Answer} (same : later = events ++ [⟨op, answer⟩]) :
    (⟨op, answer⟩ : NodeEvent) ∈ later :=
  same ▸ List.mem_append_right _ (List.mem_singleton_self _)

theorem founded_perform {op : Op} (silent : op.commit = none) :
    Founded deployment self key required (fun answer later => (⟨op, answer⟩ : NodeEvent) ∈ later)
      (perform op) events :=
  (founded_admitted op (.inl silent)).mono fun _ _ _ => mem_of_eq_concat

theorem founded_compute {result : Except PyError β} {next : β → Code α}
    (continues : ∀ value, result = .ok value →
      Founded deployment self key required returns (next value) events) :
    Founded deployment self key required returns (Prog.ofExcept result >>= next) events := by
  cases result with
  | ok value => exact continues value rfl
  | error error => exact founded_throw error

/-- A body between two operations. -/
theorem founded_within {acquire release : Op} (acquires : acquire.commit = none)
    (releases : release.commit = none) {code : Code α} (lasts : Lasts returns)
    (body : ∀ later, events <+: later → Founded deployment self key required returns code later) :
    Founded deployment self key required returns (do
      let _ ← perform acquire
      let result ← code.attempt
      let _ ← perform release
      Prog.ofExcept result) events := by
  refine (founded_perform acquires).bind fun _ locked front _ => ?_
  refine (body locked front).attempt.bind fun result later _ holds => ?_
  refine (founded_perform releases).bind fun _ last further _ => Prog.reaches_ofExcept ?_
  exact fun value same => lasts value later last further (holds value same)

theorem founded_withClock {code : Code α} (lasts : Lasts returns)
    (body : ∀ later, events <+: later → Founded deployment self key required returns code later) :
    Founded deployment self key required returns (withClock code) events :=
  founded_within rfl rfl lasts body

theorem founded_withKeyLock {locked : PyStr} {code : Code α} (lasts : Lasts returns)
    (body : ∀ later, events <+: later → Founded deployment self key required returns code later) :
    Founded deployment self key required returns (withKeyLock locked code) events :=
  founded_within rfl rfl lasts body

theorem founded_frontier :
    Founded deployment self key required
      (fun frontier later => (⟨.readFrontier, frontier⟩ : NodeEvent) ∈ later)
      CausalClock.frontier events :=
  founded_withClock (fun _ _ _ front listed => front.subset listed) fun _ _ => founded_perform rfl

/-- The end of a body that may advance the clock. -/
theorem founded_settle {value : α} {committed : Bool} {frontier : VersionVector}
    (lasts : Lasts returns) (holds : returns value events) :
    Founded deployment self key required returns (do
      if committed then perform (.setFrontier frontier)
      return value) events := by
  cases committed with
  | true =>
      exact (founded_perform rfl).bind fun _ later front _ =>
        founded_pure (lasts value events later front holds)
  | false => exact founded_pure holds

/-- `staged_observe`. -/
theorem founded_stagedObserve {version : VersionVector} {code : VersionVector → Code (α × Bool)}
    (lasts : Lasts returns)
    (body : ∀ frontier later, events <+: later →
      Founded deployment self key required (fun result => returns result.1) (code frontier) later) :
    Founded deployment self key required returns (CausalClock.stagedObserve version code) events :=
  founded_withClock lasts fun _ front => (founded_perform rfl).bind fun _ later further _ =>
    (body _ later (front.trans further)).bind fun _ _ _ holds => founded_settle lasts holds

/-- `observe`. -/
theorem founded_observe {version : VersionVector} :
    Founded deployment self key required (fun _ _ => True) (CausalClock.observe version) events :=
  founded_stagedObserve (fun _ _ _ _ => id) fun _ _ _ => founded_pure trivial

theorem not_covers_nextDot (actor : CausalActor) (current observed : VersionVector) :
    ¬ current.Covers (CausalClock.nextDot actor (current.merge observed)) := by
  intro covers
  have known : current ≤ current ⊔ observed := le_sup_left
  exact Nat.not_succ_le_self _ (covers.trans (known actor))

/-- `staged_allocation`: the dot is one that the clock does not know. -/
theorem founded_stagedAllocation {actor : CausalActor} {observed : VersionVector}
    {code : Dot → VersionVector → VersionVector → Code (α × Bool)} (lasts : Lasts returns)
    (body : ∀ (dot : Dot) frontier (current : VersionVector) later, events <+: later →
      (⟨.readFrontier, current⟩ : NodeEvent) ∈ later → ¬ current.Covers dot →
      Founded deployment self key required (fun result => returns result.1)
        (code dot frontier current) later) :
    Founded deployment self key required returns
      (CausalClock.stagedAllocation actor observed code) events :=
  founded_withClock lasts fun _ front =>
    (founded_perform rfl).bind fun current later further listed =>
      (body _ _ current later (front.trans further) listed
        (not_covers_nextDot actor current observed)).bind
        fun _ _ _ holds => founded_settle lasts holds

/-- `_error`. -/
theorem founded_errorResponse (code : ErrorCode) (message : String) :
    Founded deployment self key required (fun response _ => response.success = false)
      (errorResponse id code message) events :=
  founded_frontier.bind fun _ _ _ _ => founded_pure rfl

/-- `_success`: the token of the response dominates the context of the entry. -/
theorem founded_successResponse {entry : StoredCrdtEntry} {repairPerformed includeState : Bool} :
    Founded deployment self key required
      (fun response _ => entry.causalContext ≤ response.causalToken.version ∧
        materialize deployment.json entry = .ok response.value)
      (successResponse deployment id entry repairPerformed includeState) events :=
  founded_observe.bind fun _ _ _ _ => founded_frontier.bind fun _ _ _ _ =>
    founded_compute fun _ materialized => founded_pure ⟨le_sup_right, materialized⟩

end Rules

section Repair

variable {asked : PyStr} {expectedType : CrdtType} {commit : Option Mutation}
  {entry : StoredCrdtEntry} {version : VersionVector}

/-- All that a fetch holds has been shown. -/
structure PeerCrdtFetch.Shown (deployment : Deployment) (fetch : PeerCrdtFetch)
    (events : List NodeEvent) : Prop where
  frontier : fetch.causalFrontier ≤ gathered deployment events
  entry : ∀ entry, fetch.entry = some entry → entry.causalContext ≤ gathered deployment events

theorem PeerCrdtFetch.Shown.mono {fetch : PeerCrdtFetch} (shown : fetch.Shown deployment events)
    (front : events <+: later) :
    fetch.Shown deployment later where
  frontier := shown.frontier.trans (gathered_mono front)
  entry entry found := (shown.entry entry found).trans (gathered_mono front)

theorem founded_startFetches (peers : List NodeId) :
    Founded deployment self key required (fun _ _ => True) (startFetches asked peers) events := by
  induction peers generalizing events with
  | nil => exact founded_pure trivial
  | cons peer peers ih =>
      have sends : Founded deployment self key required (fun _ _ => True) (do
          let msg ← Prog.ofExcept (fetchRequestToProto asked)
          perform (.send peer (.fetch msg)) : Code Nat) events :=
        founded_compute fun _ _ => (founded_perform rfl).mono fun _ _ _ _ => trivial
      exact sends.attempt.bind fun _ _ _ _ => ih.bind fun _ _ _ _ => founded_pure trivial

theorem founded_finishFetch {peer : NodeId} {started : Except PyError Nat} :
    Founded deployment self key required (fun fetch later => fetch.Shown deployment later)
      (finishFetch deployment peer started) events := by
  refine founded_compute fun correlation _ => (founded_perform rfl).bind ?_
  refine fun outcome later front listed => founded_compute fun reply answered => ?_
  refine founded_compute fun response read => founded_pure ?_
  have below : response.shown ≤ gathered deployment later := by
    refine le_trans (le_of_eq ?_) (shown_le_gathered listed)
    cases answered
    simp only [NodeEvent.shown, read]
  refine ⟨le_sup_left.trans below, fun entry found => ?_⟩
  dsimp only at found
  split at found
  · refine le_trans (le_trans (le_of_eq ?_) le_sup_right) below
    rw [found]
    rfl
  · cases found

theorem founded_collectFetches (started : List (NodeId × Except PyError Nat)) :
    Founded deployment self key required
      (fun fetches later => ∀ fetch ∈ fetches, fetch.Shown deployment later)
      (collectFetches deployment started) events := by
  induction started generalizing events with
  | nil => exact founded_pure fun _ listed => absurd listed List.not_mem_nil
  | cons first started ih =>
      refine founded_finishFetch.attempt.bind fun result later _ shown => ?_
      refine ih.bind fun fetches last further others => ?_
      cases result with
      | error error => exact founded_pure others
      | ok fetch =>
          refine founded_pure fun other listed => ?_
          rcases List.mem_cons.mp listed with rfl | listed
          · exact (shown other rfl).mono further
          · exact others other listed

/-- `replace`, with the commit that it amounts to. -/
theorem founded_replace {expectedType : Option CrdtType}
    (admitted : commit = none ∨ Grounded deployment key required events) :
    Founded deployment self key required (fun stored later => stored = entry ∧
        (⟨.replace entry expectedType commit, .ok ()⟩ : NodeEvent) ∈ later)
      (CrdtStore.replace entry expectedType commit) events := by
  refine (founded_admitted (.replace entry expectedType commit) admitted).bind
    fun result later _ same => ?_
  refine founded_compute fun _ done => founded_pure ⟨rfl, ?_⟩
  cases done
  exact mem_of_eq_concat same

/-- The commit of the rows followed by `replace`. -/
theorem founded_commitThenReplace {state : DurableCausalState}
    (admitted : commit = none ∨ Grounded deployment key required events) :
    Founded deployment self key required (fun stored later => stored = entry ∧
        (⟨.commitRows entry state commit, .ok ()⟩ : NodeEvent) ∈ later)
      (DurableCrdtStore.commitThenReplace entry state expectedType commit) events := by
  refine (founded_admitted (.commitRows entry state commit) admitted).bind
    fun result later _ same => ?_
  refine founded_compute fun _ done => (founded_replace (.inl rfl)).mono ?_
  cases done
  exact fun stored last further holds => ⟨holds.1, further.subset (mem_of_eq_concat same)⟩

/-- The write of an entry that commits no mutation. -/
theorem founded_storeEntry {expectedType : Option CrdtType} {wrap : StoredCrdtEntry → α} :
    Founded deployment self key required (fun stored _ => stored = wrap entry)
      (storeEntry deployment id expectedType wrap entry) events := by
  unfold storeEntry
  split
  · refine founded_stagedObserve (fun _ _ _ _ same => same) fun frontier later _ => ?_
    exact (founded_commitThenReplace (.inl rfl)).bind fun _ _ _ holds =>
      founded_pure (congrArg wrap holds.1)
  · exact (founded_replace (.inl rfl)).bind fun _ _ _ holds => founded_pure (congrArg wrap holds.1)

/-- `merge_entry`: the context of the merged entry is made of what has been shown. -/
theorem founded_mergeEntry {incoming : StoredCrdtEntry}
    (shown : incoming.causalContext ≤ gathered deployment events) :
    Founded deployment self key required
      (fun merged later => merged.causalContext ≤ gathered deployment later)
      (mergeEntry deployment id incoming) events := by
  rw [mergeEntry_eq]
  refine founded_withKeyLock (fun _ _ _ front below => below.trans (gathered_mono front)) ?_
  refine fun locked front => (founded_perform rfl).bind fun existing later further listed => ?_
  refine founded_compute fun merged joined => founded_storeEntry.mono ?_
  rintro _ last onward rfl
  refine le_trans ?_ (gathered_mono onward)
  have known := shown.trans (gathered_mono (front.trans further))
  cases existing with
  | none =>
      cases joined
      exact known
  | some existing =>
      rw [(StoredCrdtEntry.merged_of_merge joined).causalContext]
      exact sup_le (shown_le_gathered listed) known

/-- `merge_metadata`, in the same way. -/
theorem founded_mergeMetadata {causalContext : VersionVector}
    (shown : causalContext ≤ gathered deployment events) :
    Founded deployment self key required (fun updated later => ∀ entry, updated = some entry →
        entry.causalContext ≤ gathered deployment later)
      (mergeMetadata deployment id asked causalContext) events := by
  rw [mergeMetadata_eq]
  refine founded_withKeyLock (fun _ _ _ front below entry found =>
    (below entry found).trans (gathered_mono front)) fun locked front => ?_
  refine (founded_perform rfl).bind fun existing later further listed => ?_
  cases existing with
  | none => exact founded_pure (by rintro _ ⟨⟩)
  | some existing =>
      refine founded_storeEntry.mono ?_
      rintro _ last onward rfl _ ⟨⟩
      exact (sup_le (shown_le_gathered listed)
        (shown.trans (gathered_mono (front.trans further)))).trans (gathered_mono onward)

theorem founded_mergeFetches (fetches : List PeerCrdtFetch)
    (shown : ∀ fetch ∈ fetches, fetch.Shown deployment events)
    (within : version ≤ gathered deployment events) :
    Founded deployment self key required (fun merged later => merged ≤ gathered deployment later)
      (mergeFetches deployment id fetches version) events := by
  induction fetches generalizing version events with
  | nil => exact founded_pure within
  | cons fetch fetches ih =>
      have first := shown fetch List.mem_cons_self
      have absorbed : version ⊔ fetch.causalFrontier ≤ gathered deployment events :=
        sup_le within first.frontier
      unfold mergeFetches
      split
      · exact ih (fun other listed => shown other (List.mem_cons_of_mem _ listed)) absorbed
      · next entry found =>
        refine (founded_mergeEntry (first.entry entry found)).bind
          fun merged later front below => ?_
        exact ih (fun other listed => (shown other (List.mem_cons_of_mem _ listed)).mono front)
          (sup_le (absorbed.trans (gathered_mono front)) below)

theorem founded_absorbVersion (within : version ≤ gathered deployment events) :
    Founded deployment self key required (fun merged later => merged ≤ gathered deployment later)
      (absorbVersion deployment id asked version) events := by
  refine (founded_perform rfl).bind fun current later front listed => ?_
  have known := within.trans (gathered_mono front)
  cases current with
  | none => exact founded_pure known
  | some current =>
      have absorbed : version ⊔ current.causalContext ≤ gathered deployment later :=
        sup_le known (shown_le_gathered listed)
      dsimp only
      split
      · refine (founded_mergeMetadata absorbed).bind fun updated last further below => ?_
        cases updated with
        | none => exact founded_pure (absorbed.trans (gathered_mono further))
        | some updated => exact founded_pure (below updated rfl)
      · exact founded_pure absorbed

/-- `ensure` of the repair service: what it merges has been shown. -/
theorem founded_repairEnsure {wanted : VersionVector} :
    Founded deployment self key required
      (fun result later => result.mergedVersion ≤ gathered deployment later)
      (repairEnsure deployment id asked wanted) events := by
  refine (founded_perform rfl).bind fun current start _ listed => ?_
  have known : Option.elim current ⊥ (·.causalContext) ≤ gathered deployment start := by
    cases current with
    | none => exact bot_le
    | some current => exact shown_le_gathered listed
  dsimp only
  split
  · exact founded_pure known
  refine (founded_perform rfl).bind fun replicas routed front _ => ?_
  split
  · exact founded_throw _
  refine (founded_startFetches _).bind fun started sent further _ => ?_
  refine (founded_collectFetches _).bind fun fetches heard onward shown => ?_
  refine (founded_perform rfl).bind fun left timed ahead _ => ?_
  split
  · exact founded_throw _
  have gone : start <+: timed := front.trans (further.trans (onward.trans ahead))
  refine (founded_mergeFetches fetches (fun fetch listed => (shown fetch listed).mono ahead)
    (known.trans (gathered_mono gone))).bind fun fetched merged _ below => ?_
  refine (founded_absorbVersion below).bind fun version last _ within => ?_
  split
  · exact founded_pure within
  · exact founded_throw _

end Repair

section Ensure

variable {requireExisting : Bool} {entry : StoredCrdtEntry}

/-- What `_ensure_causal` has established for the entry it returns. -/
structure TokenEnsured (deployment : Deployment) (key : PyStr) (required : VersionVector)
    (found : Option StoredCrdtEntry) (events : List NodeEvent) : Prop where
  grounded : Grounded deployment key required events
  entry : ∀ entry, found = some entry →
    ⟨.get key, some entry⟩ ∈ events ∧ required ≤ entry.causalContext

theorem tokenEnsured_some (listed : (⟨.get key, some entry⟩ : NodeEvent) ∈ events)
    (above : required ≤ entry.causalContext) :
    TokenEnsured deployment key required (some entry) events where
  grounded := .inl ⟨entry, listed, above⟩
  entry := by
    rintro _ ⟨⟩
    exact ⟨listed, above⟩

theorem tokenEnsured_none (grounded : Grounded deployment key required events) :
    TokenEnsured deployment key required none events := ⟨grounded, by rintro _ ⟨⟩⟩

theorem founded_frontierVouches :
    Founded deployment self key required
      (fun accepted later => accepted = true → Grounded deployment key required later)
      (frontierVouches key required) events := by
  refine founded_frontier.bind fun frontier later _ listed => ?_
  split
  · next dominated =>
    refine (founded_perform rfl).bind fun _ last further _ => founded_pure fun _ => ?_
    exact .inr (.inl ⟨frontier, further.subset listed, VersionVector.dominates_iff.mp dominated⟩)
  · exact founded_pure (by rintro ⟨⟩)

theorem founded_acceptAbsent {remoteReplicas : List NodeId} :
    Founded deployment self key required
      (fun accepted later => accepted = true → Grounded deployment key required later)
      (acceptAbsent key required requireExisting remoteReplicas) events := by
  have second : ∀ middle, Founded deployment self key required
      (fun accepted later => accepted = true → Grounded deployment key required later)
      (if remoteReplicas = [] then frontierVouches key required else pure false) middle := by
    intro middle
    split
    · exact founded_frontierVouches
    · exact founded_pure (by rintro ⟨⟩)
  unfold acceptAbsent
  cases requireExisting with
  | true => exact second events
  | false =>
      refine founded_frontierVouches.bind fun accepted later _ grounded => ?_
      cases accepted with
      | true => exact founded_pure grounded
      | false => exact second later

theorem founded_ensureByRepair :
    Founded deployment self key required
      (fun result later => TokenEnsured deployment key required result.1 later)
      (ensureByRepair deployment id key required) events := by
  refine founded_repairEnsure.bind fun result repaired _ within => ?_
  refine (founded_perform rfl).bind fun found later further listed => ?_
  cases found with
  | some entry =>
      dsimp only
      split
      · next dominated =>
        exact founded_pure (tokenEnsured_some listed (VersionVector.dominates_iff.mp dominated))
      · exact founded_throw _
  | none =>
      dsimp only
      split
      · next dominated =>
        exact founded_pure (tokenEnsured_none (.inr (.inr
          ((VersionVector.dominates_iff.mp dominated).trans
            (within.trans (gathered_mono further))))))
      · exact founded_throw _

/-- `_ensure_causal`. -/
theorem founded_ensureCausal {token : CausalToken} :
    Founded deployment self key token.version
      (fun result later => TokenEnsured deployment key token.version result.1 later)
      (ensureCausal deployment id key token requireExisting) events := by
  refine (founded_perform rfl).bind fun current later _ listed => ?_
  cases current with
  | some entry =>
      dsimp only
      split
      · next dominated =>
        exact founded_pure (tokenEnsured_some listed (VersionVector.dominates_iff.mp dominated))
      · exact (founded_perform rfl).bind fun _ _ _ _ => founded_ensureByRepair
  | none =>
      dsimp only
      split
      · next skipped =>
        rw [Bool.and_eq_true, Bool.not_eq_true'] at skipped
        refine founded_pure (tokenEnsured_none (.inr (.inr ?_)))
        rw [VersionVector.nonempty_eq_false_iff.mp skipped.1]
        exact bot_le
      · refine (founded_perform rfl).bind fun replicas middle _ _ => ?_
        refine founded_acceptAbsent.bind fun accepted last _ grounded => ?_
        split
        · next accepts => exact founded_pure (tokenEnsured_none (grounded accepts))
        · exact founded_ensureByRepair

end Ensure

end Distsys
