import Distsys.Guarantees.Workers
import Distsys.Node.Recorded

/-!
# The snapshot in the answer to a fetch

The handler of a `CRDT_FETCH` reads the entry of the key first, and the frontier of the clock
after waiting for its lock. A mutation of the key that gets into memory in between is covered by
the frontier and not contained in the entry. The answer is consistent if the entry of the key is
not replaced while a fetch of it is served.
-/

namespace Distsys

/-- The operation looks up an entry. -/
def Op.looksUp : Op → Bool
  | .get _ => true
  | _ => false

/-- The task serves a fetch of the key, and is past its lookup. -/
def NodeTask.serves (key : PyStr) : NodeTask → Bool
  | ⟨.message _ (.fetch msg), .act op _⟩ => decide (msg.key.val = key) && !op.looksUp
  | _ => false

/-- An entry is replaced only if no fetch of its key is served. -/
def NodeSystem.undisturbed (system : NodeSystem) : NodeLabel → Bool
  | .run index _ =>
      match system.next? index with
      | some (.replace entry _ _) => system.tasks.all fun task => !task.serves entry.key
      | _ => true
  | _ => true

variable {deployment : Deployment} {id : NodeId}
  {system after next : NodeSystem} {watch later : Watch} {label : NodeLabel} {task : NodeTask}

section Fetch

/-- An answer without success has no frontier. -/
def Reply.Honest : Reply → Prop
  | .response msg => msg.success = false → msg.peerFrontier = none
  | .digest _ => True

/-- An operation of the handler of a fetch: it takes no lock of a key, and answers honestly. -/
def Op.OfFetch : Op → Prop
  | .acquireKey _ => False
  | .reply _ answer => answer.Honest
  | _ => True

theorem Op.ofFetch_of_clock (op : Op) (is : op.ofClock = true) : op.OfFetch := by
  cases op with
  | acquireClock | releaseClock | readFrontier | setFrontier => exact trivial
  | _ => cases is

theorem honest_of_responseToProto {response : CrdtResponseData} {msg : Proto.CrdtResponse}
    (encoded : responseToProto response = .ok msg) : (Reply.response msg).Honest := by
  intro failed
  unfold responseToProto at encoded
  dsimp only at encoded
  split at encoded
  · obtain ⟨_, _, encoded⟩ := Codec.bind_eq_ok.mp encoded
    obtain ⟨_, _, encoded⟩ := Codec.bind_eq_ok.mp encoded
    obtain ⟨_, _, encoded⟩ := Codec.bind_eq_ok.mp encoded
    obtain ⟨_, _, encoded⟩ := Codec.bind_eq_ok.mp encoded
    obtain ⟨_, _, encoded⟩ := Codec.bind_eq_ok.mp encoded
    cases encoded
    cases failed
  · cases encoded
    rfl

/-- What ends with a response on the wire. -/
theorem obeys_wireResponse {response : Code CrdtResponseData}
    (uses : Prog.Uses Op.OfFetch response) :
    Prog.Obeys (Prog.plainMonitor Op.OfFetch)
      (fun result _ => ∀ reply, result = .ok reply → reply.Honest)
      (response >>= wireResponse) () := by
  refine Prog.Obeys.bind (uses.obeys.mono fun result _ _ => ?_)
  cases result with
  | error error => rintro _ ⟨⟩
  | ok response =>
      refine Prog.Obeys.bind (Prog.obeys_ofExcept ?_)
      cases encoded : responseToProto response with
      | error error => rintro _ ⟨⟩
      | ok msg =>
          refine Prog.obeys_pure ?_
          rintro _ ⟨⟩
          exact honest_of_responseToProto encoded

theorem uses_fetchResponse (key : PyStr) :
    Prog.Uses Op.OfFetch (fetchResponse deployment id key) := by
  refine (uses_perform (show Op.OfFetch (.get key) from trivial)).bind
    fun (entry : Option StoredCrdtEntry) =>
    (uses_frontier Op.ofFetch_of_clock).bind fun frontier => ?_
  cases entry with
  | none => exact (uses_perform trivial).bind fun _ => Prog.uses_pure _
  | some entry =>
      exact (uses_successResponse Op.ofFetch_of_clock ..).bind fun _ =>
        (uses_perform trivial).bind fun _ => Prog.uses_pure _

theorem obeys_handlingFailure (error : PyError) :
    Prog.Obeys (Prog.plainMonitor Op.OfFetch)
      (fun result _ => ∀ reply, result = .ok reply → reply.Honest)
      (handlingFailure id error) () := by
  unfold handlingFailure
  split
  all_goals exact obeys_wireResponse (uses_errorResponse Op.ofFetch_of_clock ..)

theorem obeys_fetch (correlation : Nat) (msg : Proto.CrdtFetch) :
    Prog.Obeys (Prog.plainMonitor Op.OfFetch) (fun _ _ => True)
      ((Errand.message correlation (.fetch msg)).code deployment id) () := by
  have served : Prog.Obeys (Prog.plainMonitor Op.OfFetch)
      (fun result _ => ∀ reply, result = .ok reply → reply.Honest)
      ((dispatch deployment id (.fetch msg)).catching (handlingFailure id)) () := by
    refine Prog.Obeys.catching (Prog.Obeys.bind (Prog.obeys_ofExcept ?_))
    cases fetchRequestFromProto msg with
    | error error => exact obeys_handlingFailure error
    | ok key =>
        refine (obeys_wireResponse (uses_fetchResponse key)).mono fun result _ honest => ?_
        cases result with
        | error error => exact obeys_handlingFailure error
        | ok reply => exact honest
  refine Prog.Obeys.bind (Prog.Obeys.bind (served.mono fun result _ honest => ?_))
  cases result with
  | error error => exact trivial
  | ok reply => exact ⟨honest reply rfl, fun _ _ => trivial⟩

end Fetch

section Session

variable (session : Session) (op : Op) (answer : op.Answer)

/-- The frontier that a coroutine saw last. -/
theorem Session.frontier_next (other : op ≠ .readFrontier) :
    (session.next op answer).view.frontier = session.view.frontier := by
  cases op with
  | readFrontier => exact absurd rfl other
  | get key =>
      unfold Session.next
      dsimp only
      split <;> rfl
  | replace entry expectedType commit | commitRows entry state commit | reserve pairs
  | publish reservation entry => cases answer <;> rfl
  | _ => rfl

theorem Session.lookup_next (other : op.looksUp = false) :
    (session.next op answer).view.lookup = session.view.lookup := by
  cases op with
  | get key => cases other
  | replace entry expectedType commit | commitRows entry state commit | reserve pairs
  | publish reservation entry => cases answer <;> rfl
  | _ => rfl

/-- A coroutine that takes no lock of a key has none. -/
theorem Session.unlocked_next (unlocked : session.locks.key = none)
    (guard : session.Guard deployment id op) (fetches : op.OfFetch) :
    (session.next op answer).locks.key = none := by
  cases op with
  | acquireKey key => cases fetches
  | replace entry expectedType commit =>
      obtain ⟨_, held⟩ := guard.keyed
      cases unlocked.symm.trans held
  | get key =>
      unfold Session.next
      dsimp only
      rw [unlocked]
      exact unlocked
  | commitRows entry state commit | reserve pairs | publish reservation entry =>
      cases answer <;> exact unlocked
  | releaseKey key => rfl
  | _ => exact unlocked

end Session

section Clock

/-- The clock of a node does not go back. -/
theorem Watched.frontier_le (watched : Watched deployment id system watch)
    (moves : Moves deployment id label system watch next later) :
    (system.world.nodes id).frontier ≤ (next.world.nodes id).frontier := by
  cases moves with
  | @run index _ _ _ _ _ op _ answer task ran =>
      dsimp only
      rw [ran.node]
      by_cases still : op.moves = false
      · rw [(unmoved_of_not_moves _ _ _ still).frontier]
      · cases op with
        | setFrontier frontier =>
            obtain ⟨_, read, held, grows⟩ := watched.guard task
            rw [(watched.holds index).frontier read held]
            exact grows
        | replace => cases answer <;> exact le_rfl
        | acquireKey | releaseKey | acquireClock | releaseClock => exact le_rfl
        | _ => exact absurd rfl still
  | finish found unfinished =>
      dsimp only
      rw [World.nodes_atNode_self, World.nodes_record]
      exact le_rfl
  | start | arrive | launch | reject | leave => exact le_rfl

end Clock

section Serving

variable {index : Nat} {errand : Errand}

/-- The request of a handler and the frontier that it has read; a handler that serves a fetch has
looked up the entry that is in the store. -/
structure NodeTask.Serving (node : Node) (task : NodeTask) (session : Session) : Prop where
  request : session.request = task.errand.session.request
  frontier : ∀ frontier, session.view.frontier = some frontier → frontier ≤ node.frontier
  fetch : ∀ correlation msg, task.errand = .message correlation (.fetch msg) →
    Prog.Obeys (Prog.plainMonitor Op.OfFetch) (fun _ _ => True) task.code () ∧
      session.locks.key = none ∧
      ∀ entry, task.serves msg.key.val = true →
        session.view.lookup = some (msg.key.val, entry) → node.store.get msg.key.val = entry

theorem NodeTask.Serving.mono {node other : Node} {session : Session}
    (serving : task.Serving node session) (grows : node.frontier ≤ other.frontier)
    (same : ∀ key, task.serves key = true → other.store.get key = node.store.get key) :
    task.Serving other session where
  request := serving.request
  frontier frontier read := (serving.frontier frontier read).trans grows
  fetch correlation msg is := by
    obtain ⟨obeys, unlocked, found⟩ := serving.fetch correlation msg is
    refine ⟨obeys, unlocked, fun entry serves lookup => ?_⟩
    rw [same _ serves]
    exact found entry serves lookup

theorem NodeTask.Serving.step {node : Node} {replies : List Delivery} {session : Session} {op : Op}
    {answer : op.Answer} {rest : op.Answer → Code (Option StoredCrdtEntry)}
    (serving : NodeTask.Serving node ⟨errand, .act op rest⟩ session)
    (guard : session.Guard deployment id op) (gives : node.Gives index replies op answer)
    (grows : node.frontier ≤ (node.after index op answer).frontier) :
    NodeTask.Serving (node.after index op answer) ⟨errand, rest answer⟩
      (session.next op answer) where
  request := (session.errand_next op answer).1.trans serving.request
  frontier frontier read := by
    by_cases reads : op = .readFrontier
    · subst reads
      cases read
      cases gives
      exact le_rfl
    · rw [session.frontier_next op answer reads] at read
      exact (serving.frontier frontier read).trans grows
  fetch correlation msg is := by
    obtain ⟨obeys, unlocked, found⟩ := serving.fetch correlation msg is
    refine ⟨obeys.step trivial, session.unlocked_next op answer unlocked guard obeys.guard,
      fun entry serves lookup => ?_⟩
    by_cases looks : op.looksUp = false
    · rw [session.lookup_next op answer looks] at lookup
      have served : NodeTask.serves msg.key.val ⟨errand, .act op rest⟩ = true := by
        cases is
        simp only [NodeTask.serves, looks, decide_true, Bool.not_false, Bool.and_self]
      rw [← found entry served lookup]
      by_cases reads : op.writes = false
      · rw [Node.store_after node index answer reads]
      · cases op with
        | replace stored expectedType commit =>
            obtain ⟨_, held⟩ := guard.keyed
            cases unlocked.symm.trans held
        | commitRows => rfl
        | _ => exact absurd rfl reads
    · cases op with
      | get key =>
          unfold Session.next at lookup
          dsimp only at lookup
          rw [unlocked] at lookup
          cases lookup
          exact gives.symm
      | _ => exact absurd rfl looks

/-- A handler that starts has looked up nothing. -/
theorem serving_start (errand : Errand) (node : Node) :
    NodeTask.Serving node ⟨errand, errand.code deployment id⟩ errand.session where
  request := rfl
  frontier frontier read := by cases errand <;> cases read
  fetch correlation msg is := by
    cases is
    exact ⟨obeys_fetch correlation msg, rfl, by rintro _ _ ⟨⟩⟩

/-- Every task serves what it has looked up. -/
def Serving (id : NodeId) (system : NodeSystem) (watch : Watch) : Prop :=
  ∀ (index : Nat) (task : NodeTask), system.tasks[index]? = some task →
    task.Serving (system.world.nodes id) (watch.sessions index)

/-- What a task serves is left alone by the other ones. -/
theorem get_of_undisturbed {choice : Choice} {op : Op} {answer : op.Answer}
    {rest : op.Answer → Code (Option StoredCrdtEntry)}
    (task : system.tasks[index]? = some ⟨errand, .act op rest⟩)
    (ran : Ran id system index op answer after)
    (meets : system.undisturbed (.run index choice) = true) {other : NodeTask}
    (listed : other ∈ system.tasks) {key : PyStr} (serves : other.serves key = true) :
    (after.world.nodes id).store.get key = (system.world.nodes id).store.get key := by
  refine ran.get_of_spared ?_
  rintro entry expectedType commit rfl rfl
  unfold NodeSystem.undisturbed at meets
  dsimp only at meets
  rw [next?_of_task task] at meets
  have free := List.all_eq_true.mp meets other listed
  rw [serves] at free
  cases free

theorem Serving.moves (serving : Serving id system watch)
    (watched : Watched deployment id system watch)
    (moves : Moves deployment id label system watch next later)
    (meets : system.undisturbed label = true) : Serving id next later := by
  have grows := watched.frontier_le moves
  cases moves with
  | start errand => exact forall_tasks_start serving (serving_start errand _)
  | arrive delivery => exact serving
  | launch task idle => exact serving
  | reject found unfinished => exact serving
  | finish found unfinished =>
      intro index task there
      refine (serving index task there).mono grows fun key _ => ?_
      dsimp only
      rw [World.nodes_atNode_self, World.nodes_record]
      rfl
  | @run index _ _ after _ _ op _ answer task ran =>
      have own := (serving index _ task).step (watched.guard task) ran.gives
        (ran.node ▸ grows)
      rw [← ran.node] at own
      rw [ran.tasks]
      exact forall_tasks_after serving own fun other listed _ serves =>
        serves.mono grows fun key => get_of_undisturbed task ran meets listed
  | @leave _ index _ _ _ errand entry state commit rest _ result task found owned left =>
      have gives : (system.world.nodes id).Gives index [] (.commitRows entry state commit) result :=
        trivial
      have own : NodeTask.Serving (system.world.nodes id) ⟨errand, rest result⟩
          ((watch.sessions index).next (.commitRows entry state commit) result) :=
        (serving index _ task).step (watched.guard task) gives le_rfl
      exact forall_tasks_after serving own fun _ _ _ serves => serves

end Serving

section Answered

variable {frontier : VersionVector} {entry : Option StoredCrdtEntry} {key : PyStr}
  {past : List Mutation}

/-- What the node has told about a key: the clock and the store contain it, and no mutation of
the key that is committed later is covered. -/
structure Answered (id : NodeId) (past : List Mutation) (key : PyStr) (frontier : VersionVector)
    (entry : Option StoredCrdtEntry) (system : NodeSystem) : Prop where
  clock : frontier ≤ (system.world.nodes id).frontier
  stored : ∀ found, entry = some found → found.key = key ∧ system.Retains id found
  uncovered : ∀ mutation ∈ system.world.ledger.history, mutation ∈ past ∨
    (mutation.key = key → ¬ (frontier ⊔ entry.elim ⊥ (·.causalContext)).Covers mutation.dot)

/-- A mutation that starts from the entry in the store is not covered by what was told. -/
theorem Answered.uncovered_of_made (answered : Answered id past key frontier entry system)
    {mutation : Mutation} (made : mutation.Made deployment id) (same : mutation.key = key)
    (before : (system.world.nodes id).store.get mutation.key = mutation.before)
    (below : (system.world.nodes id).frontier.get (deployment.actor id) < mutation.dot.counter) :
    ¬ (frontier ⊔ entry.elim ⊥ (·.causalContext)).Covers mutation.dot := by
  have actor : mutation.dot.actor = deployment.actor id := made.actor
  rw [VersionVector.covers_sup]
  rintro (covered | covered)
  · refine Nat.not_le.mpr below (covered.trans ?_)
    rw [actor]
    exact answered.clock _
  · cases found : entry with
    | none =>
        rw [found] at covered
        exact VersionVector.not_covers_bot _ covered
    | some old =>
        rw [found] at covered
        obtain ⟨keyed, stored, there, retained⟩ := answered.stored old found
        rw [keyed, ← same, before] at there
        have known : mutation.priorContext = stored.causalContext := by
          rw [Mutation.priorContext, there]
          rfl
        have later := made.later
        rw [known] at later
        exact Nat.not_le.mpr later (covered.trans (retained.causalContext _))

theorem Answered.moves (answered : Answered id past key frontier entry system)
    (recorded : Recorded deployment id system watch) (watched : Watched deployment id system watch)
    (moves : Moves deployment id label system watch next later) :
    Answered id past key frontier entry next where
  clock := answered.clock.trans (watched.frontier_le moves)
  stored found is :=
    ⟨(answered.stored found is).1, (answered.stored found is).2.grows (watched.grows moves)⟩
  uncovered mutation member := by
    rcases recorded.fresh watched moves member with member | ⟨made, before, below⟩
    · exact answered.uncovered mutation member
    · exact .inr fun same => answered.uncovered_of_made made same before below

end Answered

section Results

variable {last : NodeSystem}

/-- In a run in which no entry is replaced while a fetch of its key is served, the answer to a
fetch is a consistent snapshot: a mutation of the key that the node has committed, or commits
later, is contained in the state of the answer if the frontier of the answer covers it. -/
theorem snapshot_of_undisturbed {index correlation number : Nat} {msg : Proto.CrdtFetch}
    {response : Proto.CrdtResponse} {rest : Unit → Code (Option StoredCrdtEntry)}
    {wire : Proto.VersionVector} {covering : VersionVector} {mutation : Mutation}
    (run : NodeRun deployment id (fun system label => system.undisturbed label = true)
      (.initial deployment) system)
    (task : system.tasks[index]? = some ⟨.message correlation (.fetch msg),
      .act (.reply number (.response response)) rest⟩)
    (further : NodeRun deployment id (fun _ _ => True) system last)
    (member : mutation ∈ last.world.ledger.history) (same : mutation.key = msg.key.val)
    (told : response.peerFrontier = some wire) (read : versionFromProto wire = .ok covering)
    (covers : covering.Covers mutation.dot) :
    ∃ entry state, response.state = some state ∧ stateToProto entry = .ok state ∧
      entry.stateVersion.Covers mutation.dot ∧ mutation.after.Retained entry := by
  obtain ⟨watch, watched, recorded, serving⟩ := run.invariant
    (fun system watch => Recorded deployment id system watch ∧ Serving id system watch)
    (watched_initial deployment id)
    ⟨recorded_initial deployment id, fun index task found => by cases found⟩
    fun watched holds meets moves =>
      ⟨holds.1.moves watched moves, holds.2.moves watched moves meets⟩
  have serves := serving index _ task
  obtain ⟨obeys, _, looked⟩ := serves.fetch correlation msg rfl
  have success : response.success = true := by
    by_contra failed
    have honest : (Reply.response response).Honest := obeys.guard
    cases told.symm.trans (honest (Bool.eq_false_iff.mpr failed))
  obtain ⟨entry, frontier, lookup, seen, encoded, _, there, sent⟩ :=
    watched.guard task msg serves.request success
  cases told.symm.trans there
  cases read.symm.trans (retracts_version _ _ sent)
  have found := looked entry
    (Bool.and_eq_true_iff.mpr ⟨decide_eq_true rfl, rfl⟩) lookup
  have answered : Answered id system.world.ledger.history msg.key.val frontier entry system := by
    refine ⟨serves.frontier frontier seen, fun stored is => ?_, fun mutation member => .inl member⟩
    rw [is] at found
    have keyed := Store.key_of_get found
    exact ⟨keyed, stored, keyed.symm ▸ found, .refl stored⟩
  obtain ⟨_, _, _, later⟩ := further.invariant
    (fun system watch => Recorded deployment id system watch ∧
      Answered id _ msg.key.val frontier entry system) watched ⟨recorded, answered⟩
    fun watched holds _ moves => ⟨holds.1.moves watched moves, holds.2.moves holds.1 watched moves⟩
  have early : mutation ∈ system.world.ledger.history :=
    (later.uncovered mutation member).resolve_right fun uncovered => uncovered same covers
  obtain ⟨made, retained | ⟨holder, known, held, clock, below, _⟩⟩ :=
    recorded.entered mutation early
  · obtain ⟨stored, there, retained⟩ := retained
    rw [made.key, same, found] at there
    subst there
    obtain ⟨state, encoded, carried⟩ := Codec.bind_eq_ok.mp encoded
    refine ⟨stored, state, (Except.ok.inj carried).symm, encoded, ?_, retained⟩
    refine VersionVector.Covers.mono retained.stateVersion ?_
    rw [made.version]
    exact VersionVector.covers_withDot_self ..
  · rw [← (watched.holds holder).frontier known clock] at below
    exact absurd covers
      (answered.uncovered_of_made made same ((watched.holds holder).read _ _ held) below)

end Results

/-- The answer to a fetch that a task is about to give. -/
def NodeTask.snapshot? : NodeTask → Option (Proto.CrdtFetch × Proto.CrdtResponse)
  | ⟨.message _ (.fetch msg), .act (.reply _ (.response response)) _⟩ => some (msg, response)
  | _ => none

theorem NodeTask.eq_of_snapshot? {msg : Proto.CrdtFetch} {response : Proto.CrdtResponse}
    (found : task.snapshot? = some (msg, response)) :
    ∃ (correlation number : Nat) (rest : Unit → Code (Option StoredCrdtEntry)),
      task = ⟨.message correlation (.fetch msg),
        .act (.reply number (.response response)) rest⟩ := by
  unfold NodeTask.snapshot? at found
  split at found
  · cases found
    exact ⟨_, _, _, rfl⟩
  · cases found

/-- The second task is about to answer a fetch with a frontier that covers a mutation of the key,
and the answer passes the test. -/
def NodeSystem.tells (system : NodeSystem) (test : Proto.CrdtResponse → Bool) : Bool :=
  (system.tasks[1]?.bind NodeTask.snapshot?).any fun (msg, response) =>
    response.success && test response && system.world.ledger.history.any fun mutation =>
      mutation.key == msg.key.val && response.peerFrontier.any fun wire =>
        match versionFromProto wire with
        | .ok covering => decide (covering.Covers mutation.dot)
        | .error _ => false

theorem NodeSystem.exists_of_tells {test : Proto.CrdtResponse → Bool}
    (tells : system.tells test = true) :
    ∃ correlation number msg response rest mutation wire covering,
      system.tasks[1]? = some ⟨.message correlation (.fetch msg),
        .act (.reply number (.response response)) rest⟩ ∧
      response.success = true ∧ test response = true ∧
      mutation ∈ system.world.ledger.history ∧ mutation.key = msg.key.val ∧
      response.peerFrontier = some wire ∧ versionFromProto wire = .ok covering ∧
      covering.Covers mutation.dot := by
  unfold NodeSystem.tells at tells
  simp only [Option.any_eq_true, Option.bind_eq_some_iff, Bool.and_eq_true, List.any_eq_true,
    Prod.exists, beq_iff_eq] at tells
  obtain ⟨msg, response, ⟨task, found, answers⟩, ⟨success, passed⟩, mutation, member, same, wire,
    told, covers⟩ := tells
  obtain ⟨correlation, number, rest, rfl⟩ := NodeTask.eq_of_snapshot? answers
  cases read : versionFromProto wire with
  | error error =>
      rw [read] at covers
      cases covers
  | ok covering =>
      rw [read] at covers
      exact ⟨correlation, number, msg, response, rest, mutation, wire, covering, found, success,
        passed, member, same, told, read, of_decide_eq_true covers⟩

/-- East increments the counter, up to its commit. -/
def committingIncrement : List NodeLabel :=
  .start (.message 0 (incrementRequest (.letter 107) 1)) :: NodeLabel.turns 0 9 ++ [.launch 0]

/-- The commit ends, and the increment with it. -/
def committedIncrement : List NodeLabel :=
  [.finish 0 none, .resume 0 0] ++ NodeLabel.turns 0 14

/-- A fetch of the counter arrives. -/
def fetchStarts : NodeLabel := .start (.message 1 (.fetch ⟨.letter 107⟩))

/-- A fetch after the increment is answered with a state that contains it. -/
theorem fetch_after_increment_consistent : ∃ system response mutation entry state,
    NodeRun archives east (fun system label => system.undisturbed label = true)
      (.initial archives) system ∧
    (system.tasks[1]?.bind NodeTask.snapshot?).map Prod.snd = some response ∧
    mutation ∈ system.world.ledger.history ∧ response.state = some state ∧
    stateToProto entry = .ok state ∧ mutation.after.Retained entry := by
  obtain ⟨system, run, facts⟩ := NodeRun.exists_of_run archives east NodeSystem.undisturbed
    (committingIncrement ++ committedIncrement ++ [fetchStarts] ++ NodeLabel.turns 1 12)
    (·.tells fun _ => true) (by decide +kernel)
  obtain ⟨_, _, _, response, _, mutation, _, _, task, success, _, member, same, told, read,
    covers⟩ := NodeSystem.exists_of_tells facts
  obtain ⟨entry, state, carried, encoded, _, retained⟩ :=
    snapshot_of_undisturbed run task (.refl system) member same told read covers
  refine ⟨system, response, mutation, entry, state, run, ?_, member, carried, encoded, retained⟩
  rw [task]
  rfl

/-- A fetch that looks the key up while the increment is committed, and waits for the clock until
it is done, is answered with a frontier that covers the increment and no state. -/
theorem torn_snapshot : ∃ system correlation number msg response rest mutation wire covering,
    NodeRun archives east (fun _ _ => True) (.initial archives) system ∧
    system.tasks[1]? = some ⟨.message correlation (.fetch msg),
      .act (.reply number (.response response)) rest⟩ ∧
    response.success = true ∧ response.state = none ∧
    mutation ∈ system.world.ledger.history ∧ mutation.key = msg.key.val ∧
    response.peerFrontier = some wire ∧ versionFromProto wire = .ok covering ∧
    covering.Covers mutation.dot := by
  obtain ⟨system, run, facts⟩ := NodeRun.exists_of_run archives east (fun _ _ => true)
    (committingIncrement ++ [fetchStarts] ++ NodeLabel.turns 1 1 ++ committedIncrement ++
      NodeLabel.turns 1 4)
    (·.tells (·.state.isNone)) (by decide +kernel)
  obtain ⟨correlation, number, msg, response, rest, mutation, wire, covering, task, success, empty,
    facts⟩ := NodeSystem.exists_of_tells facts
  exact ⟨system, correlation, number, msg, response, rest, mutation, wire, covering,
    run.mono fun _ _ _ => trivial, task, success, Option.isNone_iff_eq_none.mp empty, facts⟩

end Distsys
