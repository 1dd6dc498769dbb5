import Distsys.Lib.Lists
import Distsys.Node.Watch

/-!
# What the watch says stays true

Every step of the node keeps what the watch says about it. An operation of one coroutine
changes what its own session says, and nothing that the session of another one says.
-/

namespace Distsys

variable {deployment : Deployment} {id : NodeId}

section Holds

variable {node : Node} {index other : Nat} {session : Session} {replies : List Delivery}

/-- The node has the same locks, entries and clock. -/
structure Node.Unmoved (node after : Node) : Prop where
  keyHolder : after.keyHolder = node.keyHolder
  clockHolder : after.clockHolder = node.clockHolder
  store : after.store = node.store
  frontier : after.frontier = node.frontier

theorem Session.Holds.of_unmoved {after : Node} (holds : session.Holds node index)
    (unmoved : node.Unmoved after) : session.Holds after index :=
  ⟨unmoved.keyHolder ▸ holds.key, unmoved.clockHolder ▸ holds.clock, unmoved.store ▸ holds.read,
    unmoved.frontier ▸ holds.frontier⟩

theorem Session.Holds.of_locks {later : Session} (holds : session.Holds node index)
    (key : later.locks.key = session.locks.key) (clock : later.locks.clock = session.locks.clock) :
    later.Holds node index :=
  ⟨key ▸ holds.key, clock ▸ holds.clock, key ▸ holds.read, clock ▸ holds.frontier⟩

/-- The operations that move a lock, the store or the clock. -/
def Op.moves : Op → Bool
  | .replace .. | .acquireKey _ | .releaseKey _ | .acquireClock | .releaseClock
  | .setFrontier _ => true
  | _ => false

theorem unmoved_of_not_moves (node : Node) (index : Nat) {op : Op} (answer : op.Answer)
    (still : op.moves = false) : node.Unmoved (node.after index op answer) := by
  cases op with
  | replace | acquireKey | releaseKey | acquireClock | releaseClock | setFrontier => cases still
  | reserve pairs =>
      unfold Node.after
      dsimp only
      split <;> exact ⟨rfl, rfl, rfl, rfl⟩
  | nextReady =>
      unfold Node.after
      dsimp only
      split <;> exact ⟨rfl, rfl, rfl, rfl⟩
  | _ => exact ⟨rfl, rfl, rfl, rfl⟩

/-- The lock of the key of an entry that may be stored. -/
theorem Session.Guard.keyed {entry : StoredCrdtEntry} {expectedType : Option CrdtType}
    {commit : Option Mutation}
    (guard : session.Guard deployment id (.replace entry expectedType commit)) :
    ∃ read, session.locks.key = some (entry.key, some read) := by
  rcases guard with ⟨_, read, held, _⟩ | ⟨_, read, _, held, _⟩
  · exact ⟨read, held⟩
  · exact ⟨read, held⟩

/-- An operation of a coroutine keeps what its session says. -/
theorem Session.Holds.after (holds : session.Holds node index) {op : Op} {answer : op.Answer}
    (guard : session.Guard deployment id op) (gives : node.Gives index replies op answer) :
    (session.next op answer).Holds (node.after index op answer) index := by
  cases op with
  | get key =>
      cases gives
      unfold Session.next
      dsimp only
      split
      · exact holds.of_locks rfl rfl
      · next held read found =>
        have same : held = key := guard held read found
        refine ⟨?_, holds.clock, ?_, holds.frontier⟩
        · rintro _ _ ⟨⟩
          exact holds.key held read found
        · rintro _ _ ⟨⟩
          rw [same]
          rfl
  | replace entry expectedType commit =>
      cases answer with
      | error error => exact holds
      | ok stored =>
          obtain ⟨read, held⟩ := guard.keyed
          refine ⟨?_, holds.clock, ?_, holds.frontier⟩
          · rintro _ _ ⟨⟩
            exact holds.key entry.key _ held
          · rintro _ _ ⟨⟩
            exact Store.get_put_self _ _
  | acquireKey key =>
      refine ⟨?_, holds.clock, by rintro _ _ ⟨⟩, holds.frontier⟩
      rintro _ _ ⟨⟩
      exact Function.update_self ..
  | releaseKey key => exact ⟨by rintro _ _ ⟨⟩, holds.clock, by rintro _ _ ⟨⟩, holds.frontier⟩
  | acquireClock =>
      refine ⟨holds.key, fun _ => rfl, holds.read, ?_⟩
      rintro _ ⟨⟩
  | releaseClock =>
      refine ⟨holds.key, fun held => absurd rfl held, holds.read, ?_⟩
      rintro _ ⟨⟩
  | readFrontier =>
      cases gives
      refine ⟨holds.key, fun _ => holds.clock guard, holds.read, ?_⟩
      rintro _ ⟨⟩
      rfl
  | setFrontier frontier =>
      obtain ⟨_, read, held, _⟩ := guard
      refine ⟨holds.key, fun _ => holds.clock (held ▸ Option.some_ne_none _), holds.read, ?_⟩
      rintro _ ⟨⟩
      rfl
  | commitRows entry state commit =>
      cases answer <;> exact holds.of_locks rfl rfl
  | reserve pairs =>
      refine Session.Holds.of_unmoved ?_ (unmoved_of_not_moves node index answer rfl)
      cases answer <;> exact holds.of_locks rfl rfl
  | publish reservation entry =>
      refine Session.Holds.of_unmoved ?_ (unmoved_of_not_moves node index answer rfl)
      cases answer <;> exact holds.of_locks rfl rfl
  | _ =>
      exact Session.Holds.of_unmoved (holds.of_locks rfl rfl)
        (unmoved_of_not_moves node index answer rfl)

/-- An operation of a coroutine keeps what the session of another one says. -/
theorem Session.Holds.elsewhere {later : Session} (holds : session.Holds node index)
    (differs : other ≠ index) (kept : later.Holds node other) {op : Op} {answer : op.Answer}
    (guard : session.Guard deployment id op) (gives : node.Gives index replies op answer) :
    later.Holds (node.after index op answer) other := by
  have unequal : some other ≠ some index := fun same => differs (Option.some.inj same)
  cases op with
  | replace entry expectedType commit =>
      cases answer with
      | error error => exact kept
      | ok stored =>
          obtain ⟨read, held⟩ := guard.keyed
          refine ⟨kept.key, kept.clock, fun key entry found => ?_, kept.frontier⟩
          refine (Store.get_put_of_ne _ ?_).trans (kept.read key entry found)
          rintro rfl
          exact unequal ((kept.key _ _ found).symm.trans (holds.key _ _ held))
  | acquireKey key =>
      refine ⟨fun held read found => ?_, kept.clock, kept.read, kept.frontier⟩
      refine (Function.update_of_ne ?_ ..).trans (kept.key held read found)
      rintro rfl
      cases (kept.key _ _ found).symm.trans gives
  | releaseKey key =>
      refine ⟨fun held read found => ?_, kept.clock, kept.read, kept.frontier⟩
      refine (Function.update_of_ne ?_ ..).trans (kept.key held read found)
      rintro rfl
      exact unequal ((kept.key _ _ found).symm.trans gives)
  | acquireClock =>
      refine ⟨kept.key, fun held => ?_, kept.read, kept.frontier⟩
      cases (kept.clock held).symm.trans gives
  | releaseClock =>
      refine ⟨kept.key, fun held => ?_, kept.read, kept.frontier⟩
      exact absurd ((kept.clock held).symm.trans gives) unequal
  | setFrontier frontier =>
      obtain ⟨_, read, held, _⟩ := guard
      refine ⟨kept.key, kept.clock, kept.read, fun vector found => ?_⟩
      have own := holds.clock (held ▸ Option.some_ne_none _)
      exact absurd ((kept.clock (found ▸ Option.some_ne_none _)).symm.trans own) unequal
  | _ => exact kept.of_unmoved (unmoved_of_not_moves node index answer rfl)

end Holds

section Start

/-- A coroutine that returns nothing leaves nothing to show. -/
theorem inOrder_nothing {α : Type} {code : Code α} {session : Session} {errand : Errand}
    (obeys : InOrder deployment id (fun _ _ => True) code session) :
    InOrder deployment id errand.Done (do let _ ← code; return none) session := by
  refine Prog.Obeys.bind (obeys.mono ?_)
  rintro (error | value) later -
  · rintro entry ⟨⟩
  · exact Prog.obeys_pure (by rintro entry ⟨⟩)

/-- A coroutine that starts keeps to the protocol. -/
theorem inOrder_errand (errand : Errand) :
    InOrder deployment id errand.Done (errand.code deployment id) errand.session := by
  have idle : errand.session.Idle := by cases errand <;> exact rfl
  cases errand with
  | message correlation request =>
      exact inOrder_nothing (inOrder_handleMessage idle rfl rfl correlation fun _ _ => trivial)
  | commit msg =>
      refine inOrder_ofExcept (fun request _ => ?_) fun error _ => by rintro entry ⟨⟩
      refine Prog.Obeys.bind (inOrder_mutateLocked idle ?_ ?_)
      · intro view mutation installed _ _
        refine Prog.obeys_pure ?_
        rintro entry ⟨⟩
        exact ⟨installed, trivial⟩
      · rintro view error entry ⟨⟩
  | merge incoming =>
      refine Prog.Obeys.bind ((visits_mergeEntry incoming).inOrder idle
        (fun view merged facts => ?_)
        fun view error => ?_)
      · refine Prog.obeys_pure ?_
        rintro entry ⟨⟩
        exact ⟨facts.2, facts.1⟩
      · rintro entry ⟨⟩
  | metadata key causalContext =>
      refine (visits_mergeMetadata key causalContext).inOrder idle (fun view updated facts => ?_)
        fun view error => ?_
      · rintro entry ⟨⟩
        obtain ⟨keyed, contains, installed⟩ := facts entry rfl
        exact ⟨installed, keyed, contains⟩
      · rintro entry ⟨⟩
  | replicator => exact inOrder_nothing (inOrder_workerTurn idle rfl rfl fun _ _ _ => trivial)
  | antiEntropy =>
      exact inOrder_nothing (passes_runOnce.inOrder idle (fun _ _ _ => trivial) fun _ _ => trivial)
  | recovery peers =>
      exact inOrder_nothing ((passes_reconcile peers).inOrder idle (fun _ _ _ => trivial)
        fun _ _ => trivial)

end Start

section Steps

variable {system after next : NodeSystem} {watch later : Watch} {index number : Nat}
  {errand : Errand} {op : Op} {answer : op.Answer}
    {rest : op.Answer → Code (Option StoredCrdtEntry)}

section Tasks

variable {property still : NodeTask → Session → Prop}
  (each : ∀ index task, system.tasks[index]? = some task → property task (watch.sessions index))

include each

/-- What holds of every coroutine and its session, when one more starts. -/
theorem forall_tasks_start
    (begins : property ⟨errand, errand.code deployment id⟩ errand.session) :
    ∀ index task, (system.tasks ++ [⟨errand, errand.code deployment id⟩])[index]? = some task →
      property task ((watch.enter system.tasks.length errand.session).sessions index) := by
  intro index task found
  rcases List.getElem?_concat_cases found with ⟨rfl, rfl⟩ | ⟨differs, found⟩
  · rw [watch.sessions_enter_self]
    exact begins
  · rw [watch.sessions_enter_of_ne _ differs]
    exact each index task found

/-- What holds of every coroutine and its session, when one of them goes on. -/
theorem forall_tasks_after
    (own : still ⟨errand, rest answer⟩ ((watch.sessions index).next op answer))
    (others : ∀ task ∈ system.tasks, ∀ session, property task session → still task session) :
    ∀ other task, (system.tasks.set index ⟨errand, rest answer⟩)[other]? = some task →
      still task ((watch.after index op answer).sessions other) := by
  intro other task found
  rcases List.getElem?_set_cases found with ⟨rfl, rfl⟩ | ⟨differs, found⟩
  · rw [watch.sessions_after_self]
    exact own
  · rw [watch.sessions_after_of_ne index differs]
    exact others task (List.mem_of_getElem? found) _ (each other task found)

end Tasks

/-- What the sessions and the outbox say after an operation of a coroutine, in the node that
the operation leaves. -/
theorem Watched.goesOn (watched : Watched deployment id system watch)
    (task : system.tasks[index]? = some ⟨errand, .act op rest⟩)
    (legal : (watch.sessions index).Legal op answer)
    (gives : (system.world.nodes id).Gives index system.world.replies op answer) :
    (∀ other, system.tasks.length ≤ other → (watch.after index op answer).sessions other = {}) ∧
    (∀ other task, (system.tasks.set index ⟨errand, rest answer⟩)[other]? = some task →
      InOrder deployment id task.errand.Done task.code
        ((watch.after index op answer).sessions other)) ∧
    (∀ other, ((watch.after index op answer).sessions other).Holds
      ((system.world.nodes id).after index op answer) other) ∧
    (watch.after index op answer).Accounts deployment.queueCapacity system.tasks.length
      ((system.world.nodes id).after index op answer).outbox := by
  have obeys := watched.ordered index _ task
  have guard := watched.guard task
  have listed := lt_of_task task
  refine ⟨fun other late => ?_,
    forall_tasks_after watched.ordered (obeys.step legal) fun _ _ _ ordered => ordered,
    fun other => ?_, (watched.outbox.after listed guard gives).1⟩
  · rw [watch.sessions_after_of_ne index (Nat.ne_of_gt (Nat.lt_of_lt_of_le listed late))]
    exact watched.fresh other late
  · by_cases same : other = index
    · subst same
      rw [Watch.sessions_after_self]
      exact (watched.holds other).after guard gives
    · rw [watch.sessions_after_of_ne index same]
      exact (watched.holds index).elsewhere same (watched.holds other) guard gives

/-- What a task does next. -/
theorem next?_of_task (task : system.tasks[index]? = some ⟨errand, .act op rest⟩) :
    system.next? index = some op := by
  unfold NodeSystem.next?
  rw [task]

/-- An operation of a coroutine that is not a commit. -/
theorem Watched.run (watched : Watched deployment id system watch)
    (task : system.tasks[index]? = some ⟨errand, .act op rest⟩)
    (ran : Ran id system index op answer after) :
    Watched deployment id { after with tasks := after.tasks.set index ⟨errand, rest answer⟩ }
      (watch.after index op answer) := by
  obtain ⟨fresh, ordered, holds, outbox⟩ :=
    watched.goesOn task (watched.legal task ran) ran.gives
  rw [← ran.node] at holds outbox
  rw [ran.tasks]
  have length : (system.tasks.set index ⟨errand, rest answer⟩).length = system.tasks.length :=
    List.length_set
  refine ⟨length ▸ fresh, ordered, holds, ?_, ?_, length ▸ outbox⟩
  · rw [ran.jobs]
    intro number owner job found owned
    obtain ⟨errand, next, waits⟩ := watched.waiting number owner job found owned
    refine ⟨errand, next, ?_⟩
    have differs : index ≠ owner := by
      rintro rfl
      cases task.symm.trans waits
      exact ran.plain _ _ _ rfl
    rw [List.getElem?_set_ne differs]
    exact waits
  · rw [ran.jobs]
    exact watched.single

/-- One more coroutine. -/
theorem Watched.start (watched : Watched deployment id system watch) (errand : Errand) :
    Watched deployment id
      { system with tasks := system.tasks ++ [⟨errand, errand.code deployment id⟩] }
      (watch.enter system.tasks.length errand.session) := by
  have locks : errand.session.locks = {} := by cases errand <;> rfl
  have work : errand.session.work = {} := by cases errand <;> rfl
  have count : (system.tasks ++ [NodeTask.mk errand (errand.code deployment id)]).length =
      system.tasks.length + 1 := List.length_append
  refine ⟨fun other late => ?_, forall_tasks_start watched.ordered (inOrder_errand errand),
    fun other => ?_, fun number owner job found owned => ?_, watched.single, ?_⟩
  · rw [count] at late
    rw [watch.sessions_enter_of_ne _ (Nat.ne_of_gt late)]
    exact watched.fresh other (Nat.le_of_succ_le late)
  · by_cases same : other = system.tasks.length
    · subst same
      rw [watch.sessions_enter_self]
      refine ⟨?_, ?_, ?_, ?_⟩
      all_goals rw [locks]
      · rintro _ _ ⟨⟩
      · exact fun held => absurd rfl held
      · rintro _ _ ⟨⟩
      · rintro _ ⟨⟩
    · rw [watch.sessions_enter_of_ne _ same]
      exact watched.holds other
  · obtain ⟨errand, next, waits⟩ := watched.waiting number owner job found owned
    exact ⟨errand, next, (List.getElem?_append_left (lt_of_task waits)).trans waits⟩
  · rw [count]
    exact watched.outbox.start work

/-- A new job, whose coroutine is at its commit and waits for no other. -/
theorem Watched.launch (watched : Watched deployment id system watch) {entry : StoredCrdtEntry}
    {state : DurableCausalState} {commit : Option Mutation}
    {next : Except PyError Unit → Code (Option StoredCrdtEntry)}
    (task : system.tasks[index]? = some ⟨errand, .act (.commitRows entry state commit) next⟩)
    (idle : ∀ job ∈ system.jobs, job.owner ≠ some index) :
    Watched deployment id
      { system with jobs := system.jobs ++ [⟨some index, entry, state, commit, none⟩] } watch := by
  refine { watched with waiting := ?_, single := ?_ }
  · intro number owner job found owned
    rcases List.getElem?_concat_cases found with ⟨_, rfl⟩ | ⟨_, found⟩
    · cases owned
      exact ⟨errand, next, task⟩
    · exact watched.waiting number owner job found owned
  · intro first second job other owner foundFirst foundSecond ownedFirst ownedSecond
    rcases List.getElem?_concat_cases foundFirst with ⟨rfl, rfl⟩ | ⟨_, before⟩
    · rcases List.getElem?_concat_cases foundSecond with ⟨rfl, rfl⟩ | ⟨_, also⟩
      · rfl
      · cases ownedFirst
        exact absurd ownedSecond (idle other (List.mem_of_getElem? also))
    · rcases List.getElem?_concat_cases foundSecond with ⟨rfl, rfl⟩ | ⟨_, also⟩
      · cases ownedSecond
        exact absurd ownedFirst (idle job (List.mem_of_getElem? before))
      · exact watched.single first second job other owner before also ownedFirst ownedSecond

/-- The outcome of a job is of no concern to the sessions. -/
theorem Watched.settle (watched : Watched deployment id system watch) {job : CommitJob}
    (outcome : Except PyError Unit) (found : system.jobs[number]? = some job) :
    Watched deployment id
      { system with jobs := system.jobs.set number { job with outcome := some outcome } }
      watch := by
  refine { watched with waiting := ?_, single := ?_ }
  · intro place owner other there owned
    rcases List.getElem?_set_cases there with ⟨rfl, rfl⟩ | ⟨_, there⟩
    · exact watched.waiting place owner job found owned
    · exact watched.waiting place owner other there owned
  · intro first second one other owner foundFirst foundSecond ownedFirst ownedSecond
    -- a job in this place has the owner it had
    have before : ∀ {place : Nat} {one : CommitJob},
        (system.jobs.set number { job with outcome := some outcome })[place]? = some one →
        ∃ old, system.jobs[place]? = some old ∧ old.owner = one.owner := by
      intro place one there
      rcases List.getElem?_set_cases there with ⟨rfl, rfl⟩ | ⟨_, there⟩
      · exact ⟨job, found, rfl⟩
      · exact ⟨one, there, rfl⟩
    obtain ⟨old, placed, same⟩ := before foundFirst
    obtain ⟨later, also, still⟩ := before foundSecond
    exact watched.single first second old later owner placed also (same.trans ownedFirst)
      (still.trans ownedSecond)

/-- A change that only the tables, the ledger and the network see. -/
theorem Watched.of_world (watched : Watched deployment id system watch) {world : World}
    (unmoved : (system.world.nodes id).Unmoved (world.nodes id))
    (outbox : (world.nodes id).outbox = (system.world.nodes id).outbox) :
    Watched deployment id { system with world } watch :=
  { watched with
    holds := fun other => (watched.holds other).of_unmoved unmoved
    outbox := outbox ▸ watched.outbox }

/-- The database runs a job. -/
theorem Watched.finish (watched : Watched deployment id system watch) {job : CommitJob}
    (found : system.jobs[number]? = some job) :
    Watched deployment id
      { system with
        world := (system.world.record id job.commit).atNode id (·.commitRows job.entry job.state)
        jobs := system.jobs.set number { job with outcome := some (.ok ()) }
        effects := system.effects ++ [number] } watch := by
  have node : ((system.world.record id job.commit).atNode id
      (·.commitRows job.entry job.state)).nodes id =
      (system.world.nodes id).commitRows job.entry job.state := by
    rw [World.nodes_atNode_self, World.nodes_record]
  have unmoved : (system.world.nodes id).Unmoved (((system.world.record id job.commit).atNode id
      (·.commitRows job.entry job.state)).nodes id) := node ▸ ⟨rfl, rfl, rfl, rfl⟩
  have committed := (watched.settle (.ok ()) found).of_world unmoved (node ▸ rfl)
  exact { committed with }

/-- A coroutine that waits for a commit goes on. -/
theorem Watched.leave (watched : Watched deployment id system watch) {entry : StoredCrdtEntry}
    {state : DurableCausalState} {commit : Option Mutation}
    {next : Except PyError Unit → Code (Option StoredCrdtEntry)} {job : CommitJob}
    {result : Except PyError Unit}
    (task : system.tasks[index]? = some ⟨errand, .act (.commitRows entry state commit) next⟩)
    (found : system.jobs[number]? = some job) (owned : job.owner = some index) :
    Watched deployment id
      { system with
        tasks := system.tasks.set index ⟨errand, next result⟩
        jobs := system.jobs.set number { job with owner := none } }
      (watch.after index (.commitRows entry state commit) result) := by
  obtain ⟨fresh, ordered, holds, outbox⟩ := watched.goesOn task trivial trivial
  have length : (system.tasks.set index ⟨errand, next result⟩).length = system.tasks.length :=
    List.length_set
  refine ⟨length ▸ fresh, ordered, holds, ?_, ?_, length ▸ outbox⟩
  · intro place owner other there owns
    rcases List.getElem?_set_cases there with ⟨rfl, rfl⟩ | ⟨differs, there⟩
    · cases owns
    · obtain ⟨errand, next, waits⟩ := watched.waiting place owner other there owns
      refine ⟨errand, next, ?_⟩
      rw [List.getElem?_set_ne]
      · exact waits
      · rintro rfl
        exact differs (watched.single place number other job index there found owns owned)
  · intro first second one other owner foundFirst foundSecond ownedFirst ownedSecond
    rcases List.getElem?_set_cases foundFirst with ⟨_, rfl⟩ | ⟨_, placed⟩
    · cases ownedFirst
    · rcases List.getElem?_set_cases foundSecond with ⟨_, rfl⟩ | ⟨_, also⟩
      · cases ownedSecond
      · exact watched.single first second one other owner placed also ownedFirst ownedSecond

/-- Every step keeps what the watch says. -/
theorem Watched.moves (watched : Watched deployment id system watch) {label : NodeLabel}
    (moves : Moves deployment id label system watch next later) :
    Watched deployment id next later := by
  cases moves with
  | start errand => exact watched.start errand
  | arrive delivery => exact watched.of_world ⟨rfl, rfl, rfl, rfl⟩ rfl
  | run task ran => exact watched.run task ran
  | launch task idle => exact watched.launch task idle
  | reject found unfinished => exact watched.settle _ found
  | finish found unfinished => exact watched.finish found
  | leave task found owned left => exact watched.leave task found owned

end Steps

section Runs

/-- A node that starts has no coroutine. -/
theorem watched_initial (deployment : Deployment) (id : NodeId) :
    Watched deployment id (.initial deployment) {} where
  fresh _ _ := rfl
  ordered index task found := by cases found
  holds index := ⟨by rintro _ _ ⟨⟩, fun held => absurd rfl held, by rintro _ _ ⟨⟩, by rintro _ ⟨⟩⟩
  waiting number index job found := by cases found
  single first second job other index found := by cases found
  outbox := ⟨[], [], .refl _, .refl _, OutboxLedger.exact_initial _⟩

/-- What holds of a node and its watch at the start, and is kept by every step that meets the
condition of the run, holds after the run. -/
theorem NodeRun.invariant {Meets : NodeSystem → NodeLabel → Prop}
    (Inv : NodeSystem → Watch → Prop) {first last : NodeSystem} {watch : Watch}
    (run : NodeRun deployment id Meets first last) (watched : Watched deployment id first watch)
    (holds : Inv first watch)
    (step : ∀ {label system watch next later}, Watched deployment id system watch →
      Inv system watch →
      Meets system label → Moves deployment id label system watch next later → Inv next later) :
    ∃ watch, Watched deployment id last watch ∧ Inv last watch := by
  induction run with
  | refl => exact ⟨watch, watched, holds⟩
  | step label _ meets stepped ih =>
      obtain ⟨watch, watched, holds⟩ := ih
      obtain ⟨later, moves⟩ := exists_moves deployment id watch stepped
      exact ⟨later, watched.moves moves, step watched holds meets moves⟩

end Runs

end Distsys
