import Distsys.Guarantees.Cancellation
import Distsys.Node.Uses

/-!
# Workers and their slots

A worker of the replicator takes an item from the outbox, and its slot is in flight until the
worker completes or abandons it. The worker expects transport failures, remote errors and
protocol errors of a send. As long as encoding the item, the exchange and decoding the response
raise nothing else, every slot in flight is held by a worker that is running. Any other exception,
such as that of a host name that cannot be encoded, ends the worker and leaves the slot in
flight.
-/

namespace Distsys

variable {op : Op}

/-- Encoding the entry raises nothing that a worker does not expect. -/
def StoredCrdtEntry.sendable (entry : StoredCrdtEntry) : Bool :=
  match replicationToProto entry with
  | .ok _ => true
  | .error error => expectedSendFailure error

/-- Decoding the reply raises nothing that a worker does not expect. -/
def Reply.readable (deployment : Deployment) : Reply → Bool
  | .digest _ => true
  | .response msg =>
      match responseFromProto deployment.json msg with
      | .ok _ => true
      | .error error => expectedSendFailure error

/-- The item that a worker takes can be encoded, a reply that arrives can be decoded, and an
exchange of a worker raises nothing that it does not expect. -/
def NodeSystem.deliverable (deployment : Deployment) (id : NodeId) (system : NodeSystem) :
    NodeLabel → Bool
  | .arrive delivery => delivery.reply.readable deployment
  | .run index choice =>
      match system.tasks[index]?, choice with
      | some ⟨.replicator, .act .nextReady _⟩, _ =>
          match (system.world.nodes id).outbox.nextReady with
          | some (some item, _) => item.state.sendable
          | _ => true
      | some ⟨.replicator, .act (.receive _) _⟩, .failure error => expectedSendFailure error
      | _, _ => true
  | _ => true

/-- The item that a coroutine has after an operation. -/
def Op.takes : (op : Op) → op.Answer → Option PendingReplication → Option PendingReplication
  | .nextReady, item, _ => item
  | .complete _, _, _ | .abandon _, _, _ => none
  | _, _, held => held

/-- The item that was taken and has not been given back. -/
def taken (events : List NodeEvent) : Option PendingReplication :=
  events.foldl (fun held event => event.op.takes event.answer held) none

/-- The task is a worker that is running, and has the item. -/
def NodeTask.Holds (deployment : Deployment) (id : NodeId) (task : NodeTask)
    (item : PendingReplication) : Prop :=
  task.errand = .replicator ∧ (∃ op next, task.code = .act op next) ∧
    ∃ events, Prog.Traces (fun _ _ => True) (task.errand.code deployment id) events task.code ∧
      taken events = some item

section Worker

variable {deployment : Deployment} {id : NodeId} {held : Option PendingReplication}

/-- A worker gives back what it has. It may count on items that can be encoded, on replies that
can be decoded, and on failures that it expects. -/
def workerMonitor (deployment : Deployment) :
    Monitor nodeSignature (Option PendingReplication) where
  guard held op := match op with
    | .nextReady => held = none
    | .complete item | .abandon item => held = some item
    | _ => True
  legal _ op answer := match op, answer with
    | .nextReady, some item => item.state.sendable = true
    | .receive _, .ok reply => reply.readable deployment = true
    | .receive _, .error error => expectedSendFailure error = true
    | _, _ => True
  next held op answer := op.takes answer held

/-- The worker has returned, and has nothing. -/
def TurnServed {α : Type} (result : Except PyError α) (held : Option PendingReplication) : Prop :=
  (∃ value, result = .ok value) ∧ held = none

/-- A send fails as expected. -/
def Expected {α : Type} (held : Option PendingReplication) (result : Except PyError α)
    (later : Option PendingReplication) : Prop :=
  later = held ∧ ∀ error, result = .error error → expectedSendFailure error = true

theorem obeys_perform {α : Type} {next : op.Answer → Code α}
    {post : Except PyError α → Option PendingReplication → Prop}
    (guard : (workerMonitor deployment).guard held op)
    (rest : ∀ answer, (workerMonitor deployment).legal held op answer →
      Prog.Obeys (workerMonitor deployment) post (next answer) (op.takes answer held)) :
    Prog.Obeys (workerMonitor deployment) post (perform op >>= next) held := ⟨guard, rest⟩

theorem expected_of_readResponse {reply : Reply} (readable : reply.readable deployment = true)
    {error : PyError} (raised : CrdtPeerClient.readResponse deployment true reply = .error error) :
    expectedSendFailure error = true := by
  cases reply with
  | digest msg =>
      cases raised
      rfl
  | response msg =>
      unfold Reply.readable at readable
      unfold CrdtPeerClient.readResponse at raised
      dsimp only at readable raised
      cases decoded : responseFromProto deployment.json msg with
      | error failure =>
          rw [decoded] at readable raised
          cases raised
          exact readable
      | ok response =>
          rw [decoded] at raised
          change (if (true && !response.success) = true then _ else _) = Except.error error
            at raised
          split at raised
          · cases raised
            rfl
          · cases raised

theorem obeys_replicate {target : NodeId} {state : StoredCrdtEntry}
    (sendable : state.sendable = true) :
    Prog.Obeys (workerMonitor deployment) (Expected held)
      (CrdtPeerClient.replicate deployment target state) held := by
  unfold StoredCrdtEntry.sendable at sendable
  unfold CrdtPeerClient.replicate
  cases encoded : replicationToProto state with
  | error error =>
      rw [encoded] at sendable
      refine Prog.obeys_done ⟨rfl, ?_⟩
      rintro _ ⟨⟩
      exact sendable
  | ok msg =>
      refine Prog.obeys_act trivial fun correlation _ => Prog.obeys_act trivial
        fun outcome legal => ?_
      cases outcome with
      | error error =>
          refine Prog.obeys_done ⟨rfl, ?_⟩
          rintro _ ⟨⟩
          exact legal
      | ok reply =>
          change Prog.Obeys _ _ (Prog.ofExcept (CrdtPeerClient.readResponse deployment true reply)
            >>= fun _ => pure ()) held
          refine Prog.Obeys.bind (Prog.obeys_ofExcept ?_)
          cases read : CrdtPeerClient.readResponse deployment true reply with
          | error error =>
              refine ⟨rfl, ?_⟩
              rintro _ ⟨⟩
              exact expected_of_readResponse legal read
          | ok response => exact Prog.obeys_pure ⟨rfl, by rintro _ ⟨⟩⟩

theorem obeys_sendWithRetry {item : PendingReplication} (sendable : item.state.sendable = true)
    {attempts : Nat} (some : 0 < attempts) :
    Prog.Obeys (workerMonitor deployment) (Expected held) (sendWithRetry deployment item attempts)
      held := by
  induction attempts with
  | zero => cases some
  | succ attempts ih =>
      refine Prog.Obeys.catching ((obeys_replicate sendable).mono fun result later sent => ?_)
      obtain ⟨rfl, expected⟩ := sent
      cases result with
      | ok value => exact ⟨rfl, by rintro _ ⟨⟩⟩
      | error error =>
          dsimp only
          split
          · refine Prog.obeys_done ⟨rfl, ?_⟩
            rintro _ ⟨⟩
            exact expected error rfl
          · next again =>
            refine ih (Nat.pos_of_ne_zero fun last => again ?_)
            rw [last]
            rfl

/-- A turn of a worker ends with the item given back. -/
theorem obeys_workerTurn (attempts : 0 < deployment.maxAttempts) :
    Prog.Obeys (workerMonitor deployment) TurnServed (workerTurn deployment) none := by
  refine obeys_perform rfl fun ready legal => ?_
  cases ready with
  | none => exact Prog.obeys_done ⟨⟨(), rfl⟩, rfl⟩
  | some item =>
      refine Prog.Obeys.bind (Prog.Obeys.attempt
        ((obeys_sendWithRetry legal attempts).mono fun result later sent => ?_))
      obtain ⟨rfl, expected⟩ := sent
      cases result with
      | ok value =>
          exact Prog.obeys_act rfl fun _ _ => Prog.obeys_done ⟨⟨(), rfl⟩, rfl⟩
      | error error =>
          have usual : expectedSendFailure error = true := expected error rfl
          simp only [usual]
          exact Prog.obeys_act rfl fun _ _ => Prog.obeys_done ⟨⟨(), rfl⟩, rfl⟩

theorem obeys_replicator (attempts : 0 < deployment.maxAttempts) (id : NodeId) :
    Prog.Obeys (workerMonitor deployment) TurnServed
      (Errand.replicator.code deployment id) none := by
  refine Prog.Obeys.bind ((obeys_workerTurn attempts).mono fun result later served => ?_)
  obtain ⟨⟨value, rfl⟩, rfl⟩ := served
  exact Prog.obeys_done ⟨⟨none, rfl⟩, rfl⟩

end Worker

section Working

variable {deployment : Deployment} {id : NodeId} {system after next : NodeSystem}
  {watch later : Watch} {label : NodeLabel} {errand : Errand} {answer : op.Answer}
  {rest : op.Answer → Code (Option StoredCrdtEntry)} {index : Nat}

/-- The item in a session is the one that the operations have taken. -/
theorem Session.item_next (session : Session) (op : Op) (answer : op.Answer) :
    (session.next op answer).work.item = op.takes answer session.work.item := by
  cases op with
  | get key =>
      unfold Session.next
      dsimp only
      split <;> rfl
  | replace entry expectedType commit | commitRows entry state commit | reserve pairs
  | publish reservation entry => cases answer <;> rfl
  | _ => rfl

theorem taken_append (events : List NodeEvent) (op : Op) (answer : op.Answer) :
    taken (events ++ [⟨op, answer⟩]) = op.takes answer (taken events) := by
  rw [taken, List.foldl_append]
  rfl

/-- A worker keeps to its monitor, with the item that it has taken, and nobody else takes one. -/
structure NodeTask.Working (deployment : Deployment) (id : NodeId) (task : NodeTask)
    (session : Session) : Prop where
  worker : task.errand = .replicator →
    Prog.Obeys (workerMonitor deployment) TurnServed task.code session.work.item ∧
      ∃ events, Prog.Traces (fun _ _ => True) (task.errand.code deployment id) events task.code ∧
        taken events = session.work.item
  other : task.errand ≠ .replicator → session.worker = false ∧ session.work.item = none

/-- An operation of a coroutine keeps it at work. -/
theorem NodeTask.Working.step {session : Session}
    (working : NodeTask.Working deployment id ⟨errand, .act op rest⟩ session)
    (guard : session.Guard deployment id op)
    (legal : errand = .replicator → (workerMonitor deployment).legal session.work.item op answer) :
    NodeTask.Working deployment id ⟨errand, rest answer⟩ (session.next op answer) := by
  refine ⟨fun worker => ?_, fun other => ?_⟩
  · obtain ⟨obeys, events, traces, same⟩ := working.worker worker
    rw [session.item_next]
    refine ⟨obeys.step (legal worker), events ++ [⟨op, answer⟩], traces.snoc trivial, ?_⟩
    rw [taken_append, same]
  · obtain ⟨idle, nothing⟩ := working.other other
    refine ⟨(session.errand_next op answer).2.trans idle, ?_⟩
    rw [session.item_next, nothing]
    cases op with
    | nextReady => cases idle.symm.trans guard.1
    | _ => rfl

theorem working_start (attempts : 0 < deployment.maxAttempts) (errand : Errand) :
    NodeTask.Working deployment id ⟨errand, errand.code deployment id⟩ errand.session := by
  refine ⟨?_, fun other => ?_⟩
  · rintro rfl
    exact ⟨obeys_replicator attempts id, [], .nil _, rfl⟩
  · cases errand with
    | replicator => exact absurd rfl other
    | _ => exact ⟨rfl, rfl⟩

/-- Every task is at work with the item of its session, and the replies can be decoded. -/
structure Working (deployment : Deployment) (id : NodeId) (system : NodeSystem) (watch : Watch) :
    Prop where
  tasks : ∀ (index : Nat) (task : NodeTask), system.tasks[index]? = some task →
    task.Working deployment id (watch.sessions index)
  replies : ∀ delivery ∈ system.world.replies, delivery.reply.readable deployment = true

/-- The answers that a worker is given are those it may count on. -/
theorem Working.legal (working : Working deployment id system watch) {choice : Choice}
    (task : system.tasks[index]? = some ⟨.replicator, .act op rest⟩)
    (ran : Ran id system index op answer after) (raised : op.RaisedBy choice answer)
    (meets : system.deliverable deployment id (.run index choice) = true)
    (held : Option PendingReplication) : (workerMonitor deployment).legal held op answer := by
  have gives := ran.gives
  unfold NodeSystem.deliverable at meets
  dsimp only at meets
  rw [task] at meets
  cases op with
  | nextReady =>
      obtain ⟨outbox, ready⟩ := gives
      cases answer with
      | none => exact trivial
      | some item =>
          dsimp only at meets
          rw [ready] at meets
          exact meets
  | receive correlation =>
      cases answer with
      | ok reply =>
          obtain ⟨delivery, listed, rfl⟩ := gives
          exact working.replies delivery listed
      | error error =>
          rw [show choice = .failure error from raised] at meets
          exact meets
  | _ => exact trivial

theorem Working.moves (working : Working deployment id system watch)
    (attempts : 0 < deployment.maxAttempts) (watched : Watched deployment id system watch)
    (moves : Moves deployment id label system watch next later)
    (meets : system.deliverable deployment id label = true) : Working deployment id next later := by
  cases moves with
  | start errand =>
      exact ⟨forall_tasks_start working.tasks (working_start attempts errand), working.replies⟩
  | arrive delivery =>
      refine ⟨working.tasks, fun other listed => ?_⟩
      rcases List.mem_concat_cases listed with listed | rfl
      · exact working.replies other listed
      · exact meets
  | launch task idle => exact ⟨working.tasks, working.replies⟩
  | reject found unfinished => exact ⟨working.tasks, working.replies⟩
  | @finish _ _ _ job found unfinished =>
      refine ⟨working.tasks, ?_⟩
      have replies : ((system.world.record id job.commit).atNode id
          (·.commitRows job.entry job.state)).replies = system.world.replies := by
        cases job.commit <;> rfl
      exact replies ▸ working.replies
  | @run index _ _ after _ errand _ _ _ task ran raised =>
      have own := (working.tasks index _ task).step (watched.guard task) fun worker =>
        working.legal (worker ▸ task) ran raised meets _
      refine ⟨?_, ran.replies ▸ working.replies⟩
      rw [ran.tasks]
      exact forall_tasks_after working.tasks own fun _ _ _ held => held
  | @leave _ index _ _ _ _ _ _ _ _ _ _ task found owned left =>
      exact ⟨forall_tasks_after working.tasks
        ((working.tasks index _ task).step (watched.guard task) fun _ => trivial)
        fun _ _ _ held => held, working.replies⟩

/-- A slot in flight has an item that was handed out. -/
theorem PairView.Sound.inFlight {view : PairView} (sound : view.Sound) {slot : Pending}
    (pending : view.slot = some slot) (inFlight : slot.inFlight = true) :
    ∃ item, item ∈ view.held := by
  cases sound with
  | vacant => cases pending
  | reserved | waiting =>
      cases pending
      cases inFlight
  | sending item | superseded item => exact ⟨item, List.mem_singleton_self item⟩

/-- The item of a slot in flight is that of a session. -/
theorem Watch.Accounts.inFlight {capacity count : Nat} {outbox : Outbox}
    (accounts : watch.Accounts capacity count outbox) {pair : Pair} {slot : Pending}
    (pending : outbox.pending.get? pair = some slot) (inFlight : slot.inFlight = true) :
    ∃ index item, index < count ∧ (watch.sessions index).work.item = some item ∧
      item.pair = pair := by
  obtain ⟨claims, items, _, taken, exact⟩ := accounts
  obtain ⟨item, listed⟩ := (exact.sound pair).inFlight pending inFlight
  obtain ⟨among, same⟩ := List.mem_filter.mp listed
  obtain ⟨index, bound, found⟩ := List.mem_filterMap.mp (taken.subset among)
  exact ⟨index, item, List.mem_range.mp bound, found, beq_iff_eq.mp same⟩

end Working

section Results

variable {deployment : Deployment} {id : NodeId} {system : NodeSystem}

/-- In a run whose items can be encoded, whose replies can be decoded and whose workers' exchanges
raise only what is expected, every slot in flight is held by a worker that is running, and no turn
of a worker ends with an exception. -/
theorem slots_held_of_deliverable (attempts : 0 < deployment.maxAttempts)
    (run : NodeRun deployment id (fun system label => system.deliverable deployment id label = true)
      (.initial deployment) system) :
    (∀ pair slot, (system.world.nodes id).outbox.pending.get? pair = some slot →
      slot.inFlight = true →
      ∃ task ∈ system.tasks, ∃ item, task.Holds deployment id item ∧ item.pair = pair) ∧
    ∀ task ∈ system.tasks, task.errand = .replicator → ∀ result, task.code = .done result →
      ∃ value, result = .ok value := by
  obtain ⟨watch, watched, working⟩ := run.invariant (Working deployment id)
    (watched_initial deployment id)
    ⟨fun index task found => (by cases found), fun delivery listed => (by cases listed)⟩
    fun watched working meets moves => working.moves attempts watched moves meets
  refine ⟨fun pair slot pending inFlight => ?_, fun task listed worker result done => ?_⟩
  · obtain ⟨index, item, bound, held, same⟩ := watched.outbox.inFlight pending inFlight
    have found : system.tasks[index]? = some system.tasks[index] := List.getElem?_eq_getElem bound
    have at_work := working.tasks index _ found
    have worker : system.tasks[index].errand = .replicator := by
      by_contra other
      cases held.symm.trans (at_work.other other).2
    obtain ⟨obeys, events, traces, same_item⟩ := at_work.worker worker
    refine ⟨system.tasks[index], List.getElem_mem bound, item, ⟨worker, ?_, events, traces,
      same_item.trans held⟩, same⟩
    cases code : system.tasks[index].code with
    | act op rest => exact ⟨op, rest, rfl⟩
    | done result =>
        rw [code, held] at obeys
        cases obeys.2
  · obtain ⟨index, found⟩ := List.getElem?_of_mem listed
    obtain ⟨obeys, _⟩ := (working.tasks index task found).worker worker
    rw [done] at obeys
    exact obeys.1

end Results

/-- Whether the coroutine has ended. -/
def NodeTask.ended (task : NodeTask) : Bool :=
  match task.code with
  | .done _ => true
  | .act _ _ => false

theorem NodeTask.not_running {task : NodeTask} (ended : task.ended = true) (op : Op)
    (next : op.Answer → Code (Option StoredCrdtEntry)) : task.code ≠ .act op next := by
  intro running
  rw [NodeTask.ended, running] at ended
  cases ended

/-- The coroutine is a worker that has ended with an exception. -/
def NodeTask.broken (task : NodeTask) : Bool :=
  match task.errand, task.code with
  | .replicator, .done (.error _) => true
  | .replicator, .done (.ok _) | .replicator, .act _ _ | .message _ _, _ | .commit _, _
  | .merge _, _ | .metadata _ _, _ | .antiEntropy, _ | .recovery _, _ => false

theorem NodeTask.raised_of_broken {task : NodeTask} (broken : task.broken = true) :
    ∃ error, task.errand = .replicator ∧ task.code = .done (.error error) := by
  unfold NodeTask.broken at broken
  split at broken
  · next error errand code => exact ⟨error, errand, code⟩
  all_goals cases broken

/-- East increments a counter and answers. -/
def clientIncrement (number : Nat) (amount : UInt64Field) : List NodeLabel :=
  .start (.message number (incrementRequest (.letter 107) amount)) ::
    NodeLabel.turns number 23

/-- The pair of west and the key. -/
def westPair : Pair := toLex (west, [107])

/-- A worker takes the snapshot of an increment and holds its slot. -/
theorem slot_of_increment_held : ∃ system slot,
    NodeRun pair east (fun system label => system.deliverable pair east label = true)
      (.initial pair) system ∧
    (system.world.nodes east).outbox.pending.get? westPair = some slot ∧ slot.inFlight = true ∧
    ∃ task ∈ system.tasks, ∃ item, task.Holds pair east item ∧ item.pair = westPair := by
  obtain ⟨system, run, facts⟩ := NodeRun.exists_of_run pair east
    (fun system label => system.deliverable pair east label)
    (clientIncrement 0 1 ++ [.start .replicator] ++ NodeLabel.turns 1 1)
    (fun system => ((system.world.nodes east).outbox.pending.get? westPair).any (·.inFlight))
    (by decide +kernel)
  obtain ⟨slot, pending, inFlight⟩ := (Option.any_eq_true ..).mp facts
  have held := (slots_held_of_deliverable Nat.one_pos run).1 westPair slot pending inFlight
  exact ⟨system, slot, run, pending, inFlight, held⟩

/-- Two increments by the largest amount leave a count that cannot be encoded. The worker that
takes the snapshot ends with the exception of the encoder, and nobody gives the slot back. -/
theorem unencodable_item_strands_slot : ∃ system slot,
    NodeRun pair east (fun _ _ => True) (.initial pair) system ∧
    (system.world.nodes east).outbox.pending.get? westPair = some slot ∧ slot.inFlight = true ∧
    (∃ task ∈ system.tasks, ∃ error, task.errand = .replicator ∧ task.code = .done (.error error)) ∧
    ∀ task ∈ system.tasks, ∀ op next, task.code ≠ .act op next := by
  obtain ⟨system, run, facts⟩ := NodeRun.exists_of_run pair east (fun _ _ => true)
    (clientIncrement 0 18446744073709551615 ++ clientIncrement 1 18446744073709551615 ++
      [.start .replicator] ++ NodeLabel.turns 2 1)
    (fun system => ((system.world.nodes east).outbox.pending.get? westPair).any (·.inFlight) &&
      system.tasks.all NodeTask.ended && system.tasks.any NodeTask.broken) (by decide +kernel)
  simp only [Bool.and_eq_true, List.all_eq_true, List.any_eq_true, Option.any_eq_true] at facts
  obtain ⟨⟨⟨slot, pending, inFlight⟩, ended⟩, worker, listed, broken⟩ := facts
  exact ⟨system, slot, run.mono fun _ _ _ => trivial, pending, inFlight,
    ⟨worker, listed, NodeTask.raised_of_broken broken⟩,
    fun task among => NodeTask.not_running (ended task among)⟩

end Distsys
