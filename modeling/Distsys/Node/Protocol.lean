import Distsys.Node.Session

/-!
# The coroutines of the clock and the stores keep to the protocol

One rule for each way in which the code uses an operation, and from them the coroutines
of `CausalClock`, `CrdtStore` and `DurableCrdtStore`. A rule takes what the coroutine
does next, for every answer that it may count on.
-/

namespace Distsys

/-- The coroutine of the node keeps to the protocol. -/
abbrev InOrder {α : Type} (deployment : Deployment) (id : NodeId)
    (post : Except PyError α → Session → Prop) (code : Code α) (session : Session) : Prop :=
  Prog.Obeys (sessionMonitor deployment id) post code session

variable {α β : Type} {deployment : Deployment} {id : NodeId} {session : Session}
  {post : Except PyError α → Session → Prop}

/-- An operation that is in order, for every answer that the coroutine may count on. -/
theorem inOrder_perform {op : Op} {next : op.Answer → Code α}
    (guard : session.Guard deployment id op)
    (rest : ∀ answer, session.Legal op answer →
      InOrder deployment id post (next answer) (session.next op answer)) :
    InOrder deployment id post (perform op >>= next) session :=
  ⟨guard, rest⟩

/-- Only what was seen last changes, in two steps as in one. -/
theorem Session.glances_trans {first second third : Session}
    (here : ∃ view, second = { first with view }) (there : ∃ view, third = { second with view }) :
    ∃ view, third = { first with view } := by
  obtain ⟨_, rfl⟩ := here
  exact there

/-- Nothing of a session changes but what was seen last. -/
def Session.glances : Prog.Frame Session where
  moves session later := ∃ view, later = { session with view }
  refl session := ⟨session.view, rfl⟩
  trans := glances_trans

/-- Without locks the coroutine keeps to the protocol and changes nothing but what was seen
last. A value that it returns has the property then. -/
structure Visits (deployment : Deployment) (id : NodeId) (returns : α → View → Prop)
    (code : Code α) : Prop where
  reaches : ∀ session : Session, session.Idle → Prog.Reaches (sessionMonitor deployment id)
    Session.glances (fun value later => returns value later.view) code session

/-- The same, whatever comes of it. -/
abbrev Passes (deployment : Deployment) (id : NodeId) (code : Code α) : Prop :=
  Visits deployment id (fun _ _ => True) code

section Visits

variable {code : Code α} {returns : α → View → Prop} {handler : PyError → Code α}

/-- A coroutine that visits, in a session without locks. -/
theorem Visits.inOrder (visits : Visits deployment id returns code) (idle : session.Idle)
    (rest : ∀ view value, returns value view → post (.ok value) { session with view })
    (fails : ∀ view error, post (.error error) { session with view }) :
    InOrder deployment id post code session := by
  refine (visits.reaches session idle).obeys ?_ ?_
  · rintro value _ ⟨view, rfl⟩ holds
    exact rest view value holds
  · rintro error _ ⟨view, rfl⟩
    exact fails view error

/-- A value that is returned without an operation. -/
theorem visits_pure {value : α} (holds : ∀ view, returns value view) :
    Visits deployment id returns (pure value) := by
  refine ⟨fun session _ => Prog.reaches_ofExcept ?_⟩
  rintro _ ⟨⟩
  exact holds session.view

theorem passes_pure (value : α) : Passes deployment id (pure value) :=
  visits_pure fun _ => trivial

/-- An exception that is raised without an operation. -/
theorem visits_throw (error : PyError) : Visits deployment id returns (throw error) :=
  ⟨fun _ _ => Prog.reaches_ofExcept (by rintro _ ⟨⟩)⟩

/-- A computation without an operation. -/
theorem passes_ofExcept (result : Except PyError α) :
    Passes deployment id (Prog.ofExcept result) :=
  ⟨fun _ _ => Prog.reaches_ofExcept fun _ _ => trivial⟩

/-- One coroutine after the other. -/
theorem Visits.bind {next : α → Code β} {final : β → View → Prop}
    (first : Visits deployment id returns code)
    (second : ∀ value view, returns value view → Visits deployment id final (next value)) :
    Visits deployment id final (code >>= next) := by
  refine ⟨fun session idle => (first.reaches session idle).bind ?_⟩
  rintro value _ ⟨view, rfl⟩ holds
  exact (second value view holds).reaches _ idle

/-- The same, whatever comes of the first. -/
theorem Visits.pass (first : Visits deployment id returns code) {next : α → Code β}
    (second : ∀ value, Passes deployment id (next value)) :
    Passes deployment id (code >>= next) :=
  first.bind fun value _ _ => second value

/-- `asyncio.gather(..., return_exceptions=True)`, which makes a value of the outcome. -/
theorem Visits.attempt (body : Visits deployment id returns code) :
    Passes deployment id code.attempt :=
  ⟨fun session idle => (body.reaches session idle).attempt.mono fun _ _ _ _ => trivial⟩

/-- `try` with handlers. -/
theorem Visits.catching (body : Visits deployment id returns code)
    (handles : ∀ error, Visits deployment id returns (handler error)) :
    Visits deployment id returns (code.catching handler) := by
  refine ⟨fun session idle => (body.reaches session idle).catching ?_⟩
  rintro error _ ⟨view, rfl⟩
  exact (handles error).reaches _ idle

/-- The operations that need nothing and leave the session as it is, but for what was seen. -/
def Op.plain : Op → Bool
  | .keys | .snapshotAll | .replicas _ | .alivePeers | .choosePeer _ | .remaining
  | .markAuthority .. | .vouch .. | .serve _ | .send .. | .receive _ => true
  | _ => false

/-- Such an operation. -/
theorem passes_perform {op : Op} (plain : op.plain = true) :
    Passes deployment id (perform op) := by
  cases op with
  | keys | snapshotAll | replicas | alivePeers | choosePeer | remaining | markAuthority | vouch
  | serve | send | receive =>
      exact ⟨fun session idle => Prog.obeys_act trivial fun _ _ =>
        ⟨⟨session.view, rfl⟩, fun _ _ => trivial⟩⟩
  | _ => cases plain

/-- Looking up an entry without its lock. -/
theorem passes_get (key : PyStr) : Passes deployment id (perform (.get key)) := by
  refine ⟨?_⟩
  rintro ⟨request, worker, locks, work, view⟩ ⟨⟩
  exact Prog.obeys_act (by rintro _ _ ⟨⟩) fun entry legal => ⟨⟨_, rfl⟩, fun _ _ => trivial⟩

end Visits

section Clock

variable {version : VersionVector}

/-- `async with self._lock` of the clock. -/
theorem inOrder_withClock {code : Code α} (free : session.locks.clock = none)
    (body : InOrder deployment id (fun result later => later.locks.clock ≠ none ∧
      later.locks.row = none ∧
        post result { later with locks := { later.locks with clock := none } })
      code { session with locks := { session.locks with clock := some none } }) :
    InOrder deployment id post (withClock code) session := by
  refine inOrder_perform free fun _ _ => Prog.Obeys.bind (Prog.Obeys.attempt ?_)
  refine Prog.Obeys.mono body ?_
  rintro result later ⟨held, rowless, holds⟩
  exact inOrder_perform ⟨held, rowless⟩ fun _ _ => holds

/-- `frontier`. -/
theorem inOrder_frontier {post : Except PyError VersionVector → Session → Prop}
    (idle : session.Idle)
    (rest : ∀ frontier, post (.ok frontier)
      { session with view := { session.view with frontier := some frontier } }) :
    InOrder deployment id post CausalClock.frontier session := by
  obtain ⟨request, worker, locks, work, view⟩ := session
  cases idle
  refine inOrder_withClock rfl (Prog.obeys_act (Option.some_ne_none _) fun frontier _ => ?_)
  exact ⟨nofun, rfl, rest frontier⟩

theorem passes_frontier : Passes deployment id CausalClock.frontier :=
  ⟨fun _ idle => inOrder_frontier idle fun _ => ⟨⟨_, rfl⟩, fun _ _ => trivial⟩⟩

/-- The body of `staged_observe` runs under the lock of the clock. -/
theorem inOrder_stagedObserve {code : VersionVector → Code (α × Bool)}
    (free : session.locks.clock = none)
    (body : ∀ current, InOrder deployment id (fun result later =>
      later.locks.clock = some (some current) ∧ later.locks.row = none ∧
      post (result.map Prod.fst) { later with locks := { later.locks with clock := none } })
      (code (current.merge version)) { session with
        locks := { session.locks with clock := some (some current) }
        view := { session.view with frontier := some current } }) :
    InOrder deployment id post (CausalClock.stagedObserve version code) session := by
  refine inOrder_withClock free ?_
  refine inOrder_perform (Option.some_ne_none _) fun current _ => ?_
  refine Prog.Obeys.bind ((body current).mono ?_)
  rintro (error | ⟨value, committed⟩) later ⟨held, rowless, holds⟩
  · exact ⟨held ▸ nofun, rowless, holds⟩
  · dsimp only
    split
    · exact inOrder_perform ⟨rowless, current, held, le_sup_left⟩ fun _ _ => ⟨nofun, rowless, holds⟩
    · exact ⟨held ▸ nofun, rowless, holds⟩

/-- `observe`. -/
theorem inOrder_observe {post : Except PyError VersionVector → Session → Prop} (idle : session.Idle)
    (rest : ∀ current, post (.ok (current.merge version))
      { session with view := { session.view with frontier := some current } }) :
    InOrder deployment id post (CausalClock.observe version) session := by
  obtain ⟨request, worker, locks, work, view⟩ := session
  cases idle
  exact inOrder_stagedObserve rfl fun current => Prog.obeys_pure ⟨rfl, rfl, rest current⟩

end Clock

section Store

variable {key : PyStr} {entry : StoredCrdtEntry} {commit : Option Mutation}

/-- `async with self.key_lock(key)`. -/
theorem inOrder_withKeyLock {code : Code α} (free : session.locks.key = none)
    (rowless : session.locks.row = none)
    (body : InOrder deployment id (fun result later =>
      (∃ read, later.locks.key = some (key, read)) ∧ later.locks.row = none ∧
      post result { later with locks := { later.locks with key := none } }) code
      { session with locks := { session.locks with key := some (key, none) } }) :
    InOrder deployment id post (withKeyLock key code) session := by
  refine inOrder_perform ⟨free, rowless⟩ fun _ _ => Prog.Obeys.bind (Prog.Obeys.attempt ?_)
  refine Prog.Obeys.mono body ?_
  rintro result later ⟨held, rowless, holds⟩
  exact inOrder_perform ⟨held, rowless⟩ fun _ _ => holds

/-- `replace`: it can fail only if the entry is not on the disk yet. -/
theorem inOrder_replace {post : Except PyError StoredCrdtEntry → Session → Prop}
    {expectedType : Option CrdtType}
    (guard : session.Guard deployment id (.replace entry expectedType commit))
    (stored : post (.ok entry) (session.stored entry commit))
    (fails : session.locks.row ≠ some entry → ∀ error, post (.error error) session) :
    InOrder deployment id post (CrdtStore.replace entry expectedType commit) session := by
  refine inOrder_perform guard fun result legal => ?_
  match result with
  | .ok () => exact stored
  | .error error => exact fails (fun row => nomatch legal row) error

/-- The two steps of a durable write: the rows, and only then the memory. -/
theorem inOrder_commitThenReplace {post : Except PyError StoredCrdtEntry → Session → Prop}
    {state : DurableCausalState} (durable : deployment.durable id = true)
    (writes : session.Writes deployment id entry commit) (clock : session.locks.clock ≠ none)
    (stored : post (.ok entry) (session.stored entry commit))
    (fails : ∀ error, post (.error error) session) :
    InOrder deployment id post
      (DurableCrdtStore.commitThenReplace entry state entry.crdtType commit) session := by
  refine inOrder_perform ⟨durable, writes, clock⟩ fun result _ => ?_
  match result with
  | .error error => exact fails error
  | .ok () =>
      obtain ⟨read, held, _, follows, _⟩ := writes
      exact inOrder_replace (.inr ⟨rfl, read, commit, held, rfl, rfl, follows⟩) stored
        fun absent => absurd rfl absent

/-- Reading the entry of the key whose lock is held. -/
theorem inOrder_getLocked {read : Option (Option StoredCrdtEntry)}
    {next : Option StoredCrdtEntry → Code α} (held : session.locks.key = some (key, read))
    (rest : ∀ entry, (∀ found, entry = some found → found.key = key) →
      InOrder deployment id post (next entry)
        { session with locks := { session.locks with key := some (key, some entry) } }) :
    InOrder deployment id post (perform (.get key) >>= next) session := by
  have same : ∀ other read, session.locks.key = some (other, read) → other = key := by
    rintro other read holds
    cases held.symm.trans holds
    rfl
  refine inOrder_perform same fun entry legal => ?_
  have reads : session.next (.get key) entry =
      { session with locks := { session.locks with key := some (key, some entry) } } := by
    unfold Session.next
    rw [held]
  rw [reads]
  exact rest entry legal

/-- Writing an entry without a mutation, in memory. -/
theorem Session.writes_of_grown {read : Option StoredCrdtEntry}
    (held : session.locks.key = some (entry.key, some read)) (rowless : session.locks.row = none)
    (grown : ∀ old, read = some old → old.Grown entry) :
    session.Writes deployment id entry none :=
  ⟨read, held, rowless, grown, by rintro mutation ⟨⟩⟩

/-- Storing an entry without a mutation, under the lock of its key. -/
theorem inOrder_storeEntry {wrap : StoredCrdtEntry → β} {post : Except PyError β → Session → Prop}
    {read : Option StoredCrdtEntry} {expectedType : Option CrdtType}
    (held : session.locks.key = some (entry.key, some read))
    (rowless : session.locks.row = none) (free : session.locks.clock = none)
    (grown : ∀ old, read = some old → old.Grown entry)
    (stored : ∀ view, view.installed = some entry → post (.ok (wrap entry)) { session with
      locks := { session.locks with key := some (entry.key, some (some entry)) }, view })
    (fails : ∀ view error, post (.error error) { session with view }) :
    InOrder deployment id post (storeEntry deployment id expectedType wrap entry) session := by
  obtain ⟨request, worker, ⟨key, row, clock⟩, work, view⟩ := session
  cases held
  cases rowless
  cases free
  unfold storeEntry
  split
  · next durable =>
    refine inOrder_stagedObserve rfl fun current =>
      Prog.Obeys.bind (inOrder_commitThenReplace durable
        (Session.writes_of_grown rfl rfl grown) (Option.some_ne_none _) ?_ fun error => ?_)
    · exact Prog.obeys_pure ⟨rfl, rfl, stored _ rfl⟩
    · exact ⟨rfl, rfl, fails _ error⟩
  · next volatile =>
    rw [Bool.not_eq_true] at volatile
    refine Prog.Obeys.bind (inOrder_replace (.inl ⟨volatile,
      Session.writes_of_grown rfl rfl grown⟩) ?_ fun _ error => ?_)
    · exact Prog.obeys_pure (stored _ rfl)
    · exact fails _ error

/-- A computation that raises or goes on with a value. -/
theorem inOrder_ofExcept {result : Except PyError β} {next : β → Code α}
    (ok : ∀ value, result = .ok value → InOrder deployment id post (next value) session)
    (error : ∀ error, result = .error error → post (.error error) session) :
    InOrder deployment id post (Prog.ofExcept result >>= next) session := by
  cases result with
  | ok value => exact ok value rfl
  | error raised => exact error raised rfl

/-- `merge_entry`, which leaves an entry that contains the incoming one. -/
theorem visits_mergeEntry (incoming : StoredCrdtEntry) :
    Visits deployment id (fun merged view => incoming.Grown merged ∧ view.installed = some merged)
      (mergeEntry deployment id incoming) := by
  refine ⟨?_⟩
  rintro ⟨request, worker, locks, work, view⟩ ⟨⟩
  rw [mergeEntry_eq]
  refine inOrder_withKeyLock rfl rfl (inOrder_getLocked rfl fun existing found => ?_)
  refine inOrder_ofExcept (fun merged result => ?_) fun error _ => ?_
  · obtain ⟨keyed, grown, contains⟩ : merged.key = incoming.key ∧
        (∀ old, existing = some old → old.Grown merged) ∧ incoming.Grown merged := by
      cases existing with
      | none =>
          cases result
          exact ⟨rfl, by rintro _ ⟨⟩, .refl incoming⟩
      | some old =>
          have grown := (StoredCrdtEntry.merged_of_merge result).grown
          refine ⟨grown.1.key.trans (found old rfl), ?_, grown.2⟩
          rintro _ ⟨⟩
          exact grown.1
    refine inOrder_storeEntry (by rw [keyed]) rfl rfl grown (fun view installed => ?_)
      fun view error => ?_
    · refine ⟨⟨_, congrArg some (congrArg (Prod.mk · _) keyed)⟩, rfl, ⟨view, rfl⟩, ?_⟩
      rintro _ ⟨⟩
      exact ⟨contains, installed⟩
    · exact ⟨⟨_, rfl⟩, rfl, ⟨view, rfl⟩, by rintro _ ⟨⟩⟩
  · exact ⟨⟨_, rfl⟩, rfl, ⟨_, rfl⟩, by rintro _ ⟨⟩⟩

/-- `merge_metadata`. -/
theorem visits_mergeMetadata (key : PyStr) (context : VersionVector) :
    Visits deployment id (fun updated view => ∀ entry, updated = some entry → entry.key = key ∧
      context ≤ entry.causalContext ∧ view.installed = some entry)
      (mergeMetadata deployment id key context) := by
  refine ⟨?_⟩
  rintro ⟨request, worker, locks, work, view⟩ ⟨⟩
  rw [mergeMetadata_eq]
  refine inOrder_withKeyLock rfl rfl (inOrder_getLocked rfl fun existing found => ?_)
  cases existing with
  | none =>
      refine Prog.obeys_pure ⟨⟨_, rfl⟩, rfl, ⟨_, rfl⟩, ?_⟩
      rintro _ ⟨⟩ _ ⟨⟩
  | some old =>
      obtain rfl := found old rfl
      refine inOrder_storeEntry rfl rfl rfl ?_ (fun view installed => ?_) fun view error => ?_
      · rintro _ ⟨⟩
        exact old.grown_withContext context
      · refine ⟨⟨_, rfl⟩, rfl, ⟨view, rfl⟩, ?_⟩
        rintro _ ⟨⟩ _ ⟨⟩
        exact ⟨rfl, le_sup_right, installed⟩
      · exact ⟨⟨_, rfl⟩, rfl, ⟨view, rfl⟩, by rintro _ ⟨⟩⟩

end Store

section Mutation

variable {request : CrdtMutationData} {current : VersionVector} {mutation : Mutation}

/-- The body of `staged_allocation` runs under the lock of the clock. -/
theorem inOrder_stagedAllocation {actor : CausalActor} {observed : VersionVector}
    {code : Dot → VersionVector → VersionVector → Code (α × Bool)}
    (free : session.locks.clock = none)
    (body : ∀ (current base : VersionVector) (dot : Dot), base = current.merge observed →
      dot = CausalClock.nextDot actor base →
      InOrder deployment id (fun result later =>
        later.locks.clock = some (some current) ∧ later.locks.row = none ∧
        post (result.map Prod.fst) { later with locks := { later.locks with clock := none } })
      (code dot (base.withDot dot) current) { session with
        locks := { session.locks with clock := some (some current) }
        view := { session.view with frontier := some current } }) :
    InOrder deployment id post (CausalClock.stagedAllocation actor observed code) session := by
  refine inOrder_withClock free ?_
  refine inOrder_perform (Option.some_ne_none _) fun current _ => ?_
  refine Prog.Obeys.bind ((body current _ _ rfl rfl).mono ?_)
  rintro (error | ⟨value, committed⟩) later ⟨held, rowless, holds⟩
  · exact ⟨held ▸ Option.some_ne_none _, rowless, holds⟩
  · dsimp only
    split
    · refine inOrder_perform ⟨rowless, current, held,
        le_sup_left.trans (VersionVector.le_withDot _ _)⟩ fun _ _ => ?_
      exact ⟨Option.some_ne_none _, rowless, holds⟩
    · exact ⟨held ▸ Option.some_ne_none _, rowless, holds⟩

/-- What `mutate` computes under the locks is made from the entry that it read. -/
theorem PreparedFrom.made {existing : Option StoredCrdtEntry} {base : VersionVector} {dot : Dot}
    (prepared : PreparedFrom deployment id request existing dot (base.withDot dot) mutation)
    (based : base = current.merge
      ((existing.elim ⊥ (·.causalContext) : VersionVector).merge request.causalToken.version))
    (numbered : dot = CausalClock.nextDot (deployment.actor id) base)
    (found : ∀ entry, existing = some entry → entry.key = request.key ∧
      entry.crdtType = request.crdtType) :
    mutation.Made deployment id ∧ current.get (deployment.actor id) < mutation.dot.counter := by
  have actor : mutation.actor = deployment.actor id := by
    rw [Mutation.actor, prepared.numbered, numbered]
    rfl
  have counter : mutation.dot.counter = base.get (deployment.actor id) + 1 := by
    rw [prepared.numbered, numbered]
    rfl
  have below : ∀ vector, vector ≤ base →
      vector.get (deployment.actor id) < mutation.dot.counter := fun vector below => by
    rw [counter]
    exact Nat.lt_succ_of_le (Tally.le_def.mp below _)
  have context : mutation.priorContext ≤ base := by
    rw [Mutation.priorContext, prepared.found, based]
    exact le_sup_left.trans le_sup_right
  refine ⟨⟨?_, actor, ?_, ?_, ?_, ?_, ?_, ?_⟩, below current (based ▸ le_sup_left)⟩
  · rw [Mutation.Applies, actor, prepared.numbered]
    exact prepared.applies
  · rw [prepared.key, Mutation.key, prepared.asked]
  · rw [prepared.version, prepared.numbered]
  · rw [prepared.context, Mutation.priorContext, prepared.found]
    exact (le_sup_left.trans le_sup_left).trans (VersionVector.le_withDot _ _)
  · rw [prepared.context, prepared.numbered]
    exact VersionVector.covers_withDot_self _ _
  · rw [actor]
    exact below _ context
  · intro entry holds
    rw [Mutation.key, Mutation.crdtType, prepared.asked]
    exact found entry (prepared.found ▸ holds)

/-- Writing the entry of a mutation, in memory or on the disk first. -/
theorem inOrder_commitLocal {post : Except PyError StoredCrdtEntry → Session → Prop}
    {frontier : VersionVector}
    (held : session.locks.key = some (mutation.after.key, some mutation.before))
    (rowless : session.locks.row = none) (clock : session.locks.clock = some (some current))
    (made : mutation.Made deployment id)
    (later : current.get (deployment.actor id) < mutation.dot.counter)
    (stored : post (.ok mutation.after) (session.stored mutation.after (some mutation)))
    (fails : ∀ error, post (.error error) session) :
    InOrder deployment id post (commitLocal deployment id mutation frontier) session := by
  have writes : session.Writes deployment id mutation.after (some mutation) := by
    refine ⟨mutation.before, held, rowless, ⟨rfl, rfl, made⟩, ?_⟩
    rintro _ ⟨⟩
    exact ⟨current, clock, later⟩
  unfold commitLocal
  split
  · next durable =>
    exact inOrder_commitThenReplace durable writes (clock ▸ Option.some_ne_none _) stored fails
  · next volatile =>
    rw [Bool.not_eq_true] at volatile
    exact inOrder_replace (.inl ⟨volatile, writes⟩) stored fun _ => fails

/-- The part of `mutate` under the lock of the key. -/
theorem inOrder_mutateLocked {post : Except PyError Mutation → Session → Prop} (idle : session.Idle)
    (commits : ∀ view mutation, view.installed = some mutation.after →
      mutation.after.key = request.key → mutation.key = request.key → post (.ok mutation)
        { session with work := { session.work with committed := some mutation }, view })
    (fails : ∀ view error, post (.error error) { session with view }) :
    InOrder deployment id post (mutateLocked deployment id request) session := by
  obtain ⟨requested, worker, locks, work, view⟩ := session
  cases idle
  unfold mutateLocked
  refine inOrder_withKeyLock rfl rfl (inOrder_getLocked rfl fun existing found => ?_)
  refine inOrder_ofExcept (fun _ typed => ?_) fun error _ => ⟨⟨_, rfl⟩, rfl, fails _ error⟩
  have types : ∀ entry, existing = some entry → entry.key = request.key ∧
      entry.crdtType = request.crdtType := by
    rintro entry rfl
    refine ⟨found entry rfl, ?_⟩
    unfold checkType at typed
    by_contra differs
    simp only [differs, ne_eq, not_false_eq_true, ↓reduceIte] at typed
    cases typed
  refine inOrder_stagedAllocation rfl fun current base dot based numbered => ?_
  refine inOrder_ofExcept (fun mutation prepares => ?_) fun error _ => ?_
  · have prepared := preparedFrom_of_prepareMutation prepares
    obtain ⟨made, later⟩ := prepared.made based numbered types
    refine inOrder_perform trivial fun _ _ => ?_
    refine Prog.Obeys.bind (Prog.Obeys.catching (inOrder_commitLocal ?_ rfl rfl made later ?_
      fun error => ?_))
    · rw [prepared.key, prepared.found]
      rfl
    · refine Prog.obeys_pure ⟨rfl, rfl, ⟨some (some mutation.after), ?_⟩, rfl, ?_⟩
      · exact congrArg some (congrArg (Prod.mk · _) prepared.key)
      · exact commits _ mutation rfl prepared.key (congrArg CrdtMutationData.key prepared.asked)
    · exact inOrder_perform trivial fun _ _ =>
        Prog.obeys_done ⟨rfl, rfl, ⟨_, rfl⟩, rfl, fails _ error⟩
  · exact ⟨rfl, rfl, ⟨_, rfl⟩, rfl, fails _ error⟩

end Mutation

end Distsys
