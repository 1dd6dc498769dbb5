import Distsys.Node.Growth
import Distsys.Node.Uses

/-!
# The record of a node

Every mutation in the history of a node is retained by its store, or is on its way there: the
coroutine that has committed it to the disk still holds the locks of the key and of the clock,
and the entry and the frontier that it has read are still in place.
-/

namespace Distsys

variable {deployment : Deployment} {id : NodeId} {system after next : NodeSystem}
  {watch later : Watch} {label : NodeLabel}
  {entry : StoredCrdtEntry} {mutation : Mutation} {op : Op} {answer : op.Answer}
  {index number : Nat} {key : PyStr} {errand : Errand} {commit : Option Mutation} {job : CommitJob}
  {expectedType : Option CrdtType}

/-- A coroutine with a row on the disk keeps its locks, and what it has read under them, until it
writes. -/
theorem Session.Guard.keeps_locks {session : Session} {node : Node} {replies : List Delivery}
    {read : Option StoredCrdtEntry} {frontier : VersionVector}
    (guard : session.Guard deployment id op) (holds : session.Holds node index)
    (gives : node.Gives index replies op answer) (reads : op.writes = false)
    (row : session.locks.row = some entry) (held : session.locks.key = some (key, some read))
    (clock : session.locks.clock = some (some frontier)) :
    (session.next op answer).locks = session.locks := by
  cases op with
  | replace | commitRows => cases reads
  | acquireKey other | releaseKey other => cases guard.2.symm.trans row
  | acquireClock =>
      have free : session.locks.clock = none := guard
      cases free.symm.trans clock
  | releaseClock => cases guard.2.symm.trans row
  | setFrontier other => cases guard.1.symm.trans row
  | get other =>
      cases guard key (some read) held
      cases gives
      unfold Session.next
      dsimp only
      rw [held]
      dsimp only
      rw [holds.read key read held, ← held]
  | readFrontier =>
      cases gives
      change { session.locks with clock := some (some node.frontier) } = session.locks
      rw [holds.frontier frontier clock, ← clock]
  | reserve pairs | publish reservation entry => cases answer <;> rfl
  | _ => rfl

/-- The mutation is on the disk, and a coroutine has still to bring it into memory. It holds the
locks of the key and of the clock, and what it has read under them is from before the mutation. -/
def Underway (deployment : Deployment) (id : NodeId) (system : NodeSystem) (watch : Watch)
    (mutation : Mutation) : Prop :=
  ∃ index frontier, (watch.sessions index).locks.key = some (mutation.key, some mutation.before) ∧
    (watch.sessions index).locks.clock = some (some frontier) ∧
    frontier.get (deployment.actor id) < mutation.dot.counter ∧
    ((watch.sessions index).locks.row = some mutation.after ∨
      ∃ (number : Nat) (job : CommitJob), system.jobs[number]? = some job ∧
        job.owner = some index ∧ job.outcome = some (.ok ()) ∧ job.commit = some mutation)

/-- What was committed is in memory, or on its way there. What may be cancelled commits no
mutation, so a commit of a mutation has an owner. -/
structure Recorded (deployment : Deployment) (id : NodeId) (system : NodeSystem)
    (watch : Watch) : Prop where
  entered : ∀ mutation ∈ system.world.ledger.history, mutation.Made deployment id ∧
    (system.Retains id mutation.after ∨ Underway deployment id system watch mutation)
  installed : ∀ index entry, (watch.sessions index).view.installed = some entry →
    system.Retains id entry
  owned : ∀ (number : Nat) (job : CommitJob), system.jobs[number]? = some job →
    job.outcome = none → job.commit ≠ none → job.owner ≠ none
  silent : ∀ task ∈ system.tasks, task.errand.cancellable = true → Silent task.code

/-- A coroutine that is cancelled was not committing a mutation. -/
theorem Recorded.uncancelled (recorded : Recorded deployment id system watch)
    {state : DurableCausalState}
    {rest : Except PyError Unit → Code (Option StoredCrdtEntry)} {result : Except PyError Unit}
    (task : system.tasks[index]? = some ⟨errand, .act (.commitRows entry state commit) rest⟩)
    (left : job.outcome = some result ∨
      result = .error NodeSystem.cancelled ∧ errand.cancellable = true)
    (committing : commit ≠ none) : job.outcome = some result := by
  rcases left with finished | ⟨_, cancellable⟩
  · exact finished
  · exact absurd (recorded.silent _ (List.mem_of_getElem? task) cancellable).1 committing

/-- What a coroutine that commits a mutation to the disk has read. -/
theorem Watched.committing (watched : Watched deployment id system watch)
    (found : system.jobs[number]? = some job) (owned : job.owner = some index)
    (committed : job.commit = some mutation) :
    mutation.Made deployment id ∧ mutation.after = job.entry ∧
      (watch.sessions index).locks.key = some (mutation.key, some mutation.before) ∧
      ∃ frontier, (watch.sessions index).locks.clock = some (some frontier) ∧
        frontier.get (deployment.actor id) < mutation.dot.counter := by
  obtain ⟨errand, rest, task⟩ := watched.waiting number index job found owned
  obtain ⟨_, ⟨read, held, _, follows, clocked⟩, _⟩ := watched.guard task
  rw [committed] at follows
  obtain ⟨before, same, made⟩ := follows
  refine ⟨made, same, ?_, clocked mutation committed⟩
  rw [held, ← same, made.key, before]

/-- While the lock of a key is held, another coroutine leaves its entry alone. -/
theorem Watched.get_of_held (watched : Watched deployment id system watch) {holder : Nat}
    {read : Option (Option StoredCrdtEntry)} {rest : op.Answer → Code (Option StoredCrdtEntry)}
    (task : system.tasks[index]? = some ⟨errand, .act op rest⟩)
    (ran : Ran id system index op answer after) (differs : holder ≠ index)
    (held : (watch.sessions holder).locks.key = some (key, read)) :
    (after.world.nodes id).store.get key = (system.world.nodes id).store.get key := by
  refine ran.get_of_spared ?_
  rintro entry expectedType commit rfl rfl
  obtain ⟨_, locked⟩ := (watched.guard task).keyed
  have mine := (watched.holds index).key _ _ locked
  have its := (watched.holds holder).key _ _ held
  exact differs (Option.some.inj (its.symm.trans mine))

/-- A coroutine that leaves its commit with the mutation on the disk has it in its row. -/
theorem Underway.leave (underway : Underway deployment id system watch mutation)
    (watched : Watched deployment id system watch) (recorded : Recorded deployment id system watch)
    {index number : Nat} {errand : Errand} {state : DurableCausalState} {commit : Option Mutation}
    {rest : Except PyError Unit → Code (Option StoredCrdtEntry)} {job : CommitJob}
    {result : Except PyError Unit}
    (task : system.tasks[index]? = some ⟨errand, .act (.commitRows entry state commit) rest⟩)
    (found : system.jobs[number]? = some job) (owned : job.owner = some index)
    (left : job.outcome = some result ∨
      result = .error NodeSystem.cancelled ∧ errand.cancellable = true)
    (jobs : next.jobs = system.jobs.set number { job with owner := none })
    (own : later.sessions index =
      (watch.sessions index).next (.commitRows entry state commit) result)
    (others : ∀ other, other ≠ index → later.sessions other = watch.sessions other) :
    Underway deployment id next later mutation := by
  obtain ⟨holder, frontier, held, clock, below, pending⟩ := underway
  by_cases same : holder = index
  · subst same
    obtain ⟨_, _, waits⟩ := watched.waiting number holder job found owned
    cases task.symm.trans waits
    obtain ⟨_, ⟨_, _, rowless, _⟩, _⟩ := watched.guard task
    rcases pending with row | ⟨place, other, there, owns, finished, committed⟩
    · cases rowless.symm.trans row
    · cases watched.single place number other job holder there found owns owned
      cases found.symm.trans there
      obtain ⟨_, after, _⟩ := watched.committing found owned committed
      have committing : job.commit ≠ none := by
        rw [committed]
        exact Option.some_ne_none _
      cases (recorded.uncancelled task left committing).symm.trans finished
      refine ⟨holder, frontier, ?_, ?_, below, .inl ?_⟩
      · rw [own]
        exact held
      · rw [own]
        exact clock
      · rw [own, after]
        rfl
  · refine ⟨holder, frontier, ?_, ?_, below, ?_⟩
    · rwa [others holder same]
    · rwa [others holder same]
    · rw [others holder same, jobs]
      refine pending.imp_right ?_
      rintro ⟨place, other, there, owns, facts⟩
      refine ⟨place, other, ?_, owns, facts⟩
      rw [List.getElem?_set_ne]
      · exact there
      · rintro rfl
        cases found.symm.trans there
        exact same (Option.some.inj (owns.symm.trans owned))

/-- A coroutine that has the mutation in its row brings it into memory. -/
theorem Underway.run (underway : Underway deployment id system watch mutation)
    (watched : Watched deployment id system watch) {index : Nat} {errand : Errand} {op : Op}
    {answer : op.Answer} {rest : op.Answer → Code (Option StoredCrdtEntry)}
    (task : system.tasks[index]? = some ⟨errand, .act op rest⟩)
    (ran : Ran id system index op answer after) (tasks : List NodeTask) :
    NodeSystem.Retains id { after with tasks } mutation.after ∨
      Underway deployment id { after with tasks } (watch.after index op answer) mutation ∧
      (after.world.nodes id).store.get mutation.key =
        (system.world.nodes id).store.get mutation.key := by
  obtain ⟨holder, frontier, held, clock, below, pending⟩ := underway
  by_cases same : holder = index
  · subst same
    rcases pending with row | ⟨number, job, there, owns, _⟩
    · have guard := watched.guard task
      by_cases reads : op.writes = false
      · have kept := guard.keeps_locks (watched.holds holder) ran.gives reads row held clock
        rw [← kept] at held clock row
        refine .inr ⟨⟨holder, frontier, ?_, ?_, below, .inl ?_⟩, ?_⟩
        · rw [watch.sessions_after_self]
          exact held
        · rw [watch.sessions_after_self]
          exact clock
        · rw [watch.sessions_after_self]
          exact row
        · rw [ran.node, Node.store_after _ _ _ reads]
      · obtain ⟨entry, expectedType, commit, rfl⟩ := ran.eq_replace reads
        rcases guard with ⟨_, _, _, rowless, _⟩ | ⟨_, _, _, _, there, _⟩
        · cases rowless.symm.trans row
        · cases watched.legal task ran there
          cases there.symm.trans row
          exact .inl ran.retains
    · obtain ⟨_, _, waits⟩ := watched.waiting number holder job there owns
      cases task.symm.trans waits
      exact absurd rfl (ran.plain _ _ _)
  · refine .inr ⟨⟨holder, frontier, ?_, ?_, below, ?_⟩, watched.get_of_held task ran same held⟩
    · rwa [watch.sessions_after_of_ne _ same]
    · rwa [watch.sessions_after_of_ne _ same]
    · rw [watch.sessions_after_of_ne _ same, ran.jobs]
      exact pending

/-- Another commit that ends does not concern it. -/
theorem Underway.settle (underway : Underway deployment id system watch mutation)
    (found : system.jobs[number]? = some job) (unfinished : job.outcome = none)
    {settled : CommitJob} (jobs : next.jobs = system.jobs.set number settled) :
    Underway deployment id next watch mutation := by
  obtain ⟨holder, frontier, held, clock, below, pending⟩ := underway
  refine ⟨holder, frontier, held, clock, below, pending.imp_right ?_⟩
  rintro ⟨place, other, there, owned, finished, committed⟩
  refine ⟨place, other, ?_, owned, finished, committed⟩
  rw [jobs, List.getElem?_set_ne]
  · exact there
  · rintro rfl
    cases found.symm.trans there
    cases unfinished.symm.trans finished

/-- A mutation that is on the disk gets into memory before the entry of its key changes
otherwise. -/
theorem Underway.moves (underway : Underway deployment id system watch mutation)
    (watched : Watched deployment id system watch) (recorded : Recorded deployment id system watch)
    (moves : Moves deployment id label system watch next later) :
    next.Retains id mutation.after ∨ Underway deployment id next later mutation ∧
      (next.world.nodes id).store.get mutation.key =
        (system.world.nodes id).store.get mutation.key := by
  cases moves with
  | run task ran => exact underway.run watched task ran _
  | leave task found owned left =>
      exact .inr ⟨underway.leave watched recorded task found owned left rfl
        (watch.sessions_after_self ..)
          fun other differs => watch.sessions_after_of_ne _ differs .., rfl⟩
  | reject found unfinished => exact .inr ⟨underway.settle found unfinished rfl, rfl⟩
  | finish found unfinished =>
      refine .inr ⟨underway.settle found unfinished rfl, ?_⟩
      dsimp only
      rw [World.nodes_atNode_self, World.nodes_record]
      rfl
  | start errand =>
      obtain ⟨holder, frontier, held, clock, below, pending⟩ := underway
      have differs : holder ≠ system.tasks.length := by
        rintro rfl
        rw [watched.fresh _ le_rfl] at held
        cases held
      refine .inr ⟨⟨holder, frontier, ?_, ?_, below, ?_⟩, rfl⟩
      · rwa [watch.sessions_enter_of_ne _ differs]
      · rwa [watch.sessions_enter_of_ne _ differs]
      · rwa [watch.sessions_enter_of_ne _ differs]
  | arrive delivery => exact .inr ⟨underway, rfl⟩
  | launch task idle =>
      obtain ⟨holder, frontier, held, clock, below, pending⟩ := underway
      refine .inr ⟨⟨holder, frontier, held, clock, below, pending.imp_right ?_⟩, rfl⟩
      rintro ⟨number, job, found, facts⟩
      refine ⟨number, job, ?_, facts⟩
      rw [List.getElem?_append_left (List.getElem?_eq_some_iff.mp found).1]
      exact found

/-- What the history says after a step that commits nothing new. -/
theorem Recorded.enter (recorded : Recorded deployment id system watch)
    (watched : Watched deployment id system watch)
    (moves : Moves deployment id label system watch next later)
    (member : mutation ∈ system.world.ledger.history) : mutation.Made deployment id ∧
      (next.Retains id mutation.after ∨ Underway deployment id next later mutation) := by
  obtain ⟨made, retained | underway⟩ := recorded.entered mutation member
  · exact ⟨made, .inl (retained.grows (watched.grows moves))⟩
  · exact ⟨made, (underway.moves watched recorded moves).imp_right And.left⟩

/-- What was stored before a step is retained after it. -/
theorem Recorded.still (recorded : Recorded deployment id system watch)
    (watched : Watched deployment id system watch)
    (moves : Moves deployment id label system watch next later) {index : Nat}
    (there : (watch.sessions index).view.installed = some entry) : next.Retains id entry :=
  (recorded.installed index entry there).grows (watched.grows moves)

/-- An operation of a coroutine keeps the record. -/
theorem Recorded.run (recorded : Recorded deployment id system watch)
    (watched : Watched deployment id system watch) {index : Nat}
    {errand : Errand} {op : Op} {answer : op.Answer}
    {rest : op.Answer → Code (Option StoredCrdtEntry)}
    (task : system.tasks[index]? = some ⟨errand, .act op rest⟩)
    (ran : Ran id system index op answer after)
    (moves : Moves deployment id label system watch
      { after with tasks := after.tasks.set index ⟨errand, rest answer⟩ }
      (watch.after index op answer)) :
    Recorded deployment id { after with tasks := after.tasks.set index ⟨errand, rest answer⟩ }
      (watch.after index op answer) := by
  have guard := watched.guard task
  refine ⟨fun mutation member => ?_, fun other entry there => ?_, ?_, fun other listed => ?_⟩
  · change mutation ∈ after.world.ledger.history at member
    rw [ran.history] at member
    rcases List.mem_append.mp member with member | member
    · exact recorded.enter watched moves member
    · cases op with
      | replace entry expectedType commit =>
          cases answer with
          | error error => cases member
          | ok stored =>
              cases Option.mem_toList.mp member
              rcases guard with ⟨_, read, _, _, ⟨_, same, made⟩, _⟩ | ⟨none, _⟩
              · subst same
                exact ⟨made, .inl ran.retains⟩
              · cases none
      | _ => cases member
  · by_cases same : other = index
    · subst same
      rw [watch.sessions_after_self] at there
      by_cases reads : op.writes = false
      · rw [(unwritten_of_not_writes (watch.sessions other) answer reads).1] at there
        exact recorded.still watched moves there
      · obtain ⟨stored, expectedType, commit, rfl⟩ := ran.eq_replace reads
        cases answer with
        | error error => exact recorded.still watched moves there
        | ok _ =>
            cases there
            exact ran.retains
    · rw [watch.sessions_after_of_ne index same] at there
      exact recorded.still watched moves there
  · change ∀ (number : Nat) (job : CommitJob), after.jobs[number]? = some job → _
    rw [ran.jobs]
    exact recorded.owned
  · dsimp only at listed
    rw [ran.tasks] at listed
    rcases List.mem_or_eq_of_mem_set listed with listed | rfl
    · exact recorded.silent other listed
    · exact fun cancellable =>
        (recorded.silent _ (List.mem_of_getElem? task) cancellable).2 answer

/-- The database runs a job. -/
theorem Recorded.finish (recorded : Recorded deployment id system watch)
    (watched : Watched deployment id system watch) {number : Nat} {job : CommitJob}
    (found : system.jobs[number]? = some job) (unfinished : job.outcome = none) :
    Recorded deployment id { system with
      world := (system.world.record id job.commit).atNode id (·.commitRows job.entry job.state)
      jobs := system.jobs.set number { job with outcome := some (.ok ()) }
      effects := system.effects ++ [number] } watch := by
  have moves : Moves deployment id (.finish number none) system watch _ watch :=
    .finish found unfinished
  refine ⟨fun mutation member => ?_, fun index entry there => recorded.still watched moves there,
    ?_, recorded.silent⟩
  · rw [World.ledger_atNode, World.history_record] at member
    rcases List.mem_append.mp member with member | committed
    · exact recorded.enter watched moves member
    · replace committed := Option.mem_toList.mp committed
      obtain ⟨index, owned⟩ := Option.ne_none_iff_exists'.mp
        (recorded.owned number job found unfinished (committed ▸ Option.some_ne_none _))
      obtain ⟨made, _, held, frontier, clock, below⟩ := watched.committing found owned committed
      refine ⟨made, .inr ⟨index, frontier, held, clock, below,
        .inr ⟨number, { job with outcome := some (.ok ()) }, ?_, owned, rfl, committed⟩⟩⟩
      exact List.getElem?_set_self (List.getElem?_eq_some_iff.mp found).1
  · intro place other there unfinished committing
    rcases List.getElem?_set_cases there with ⟨_, rfl⟩ | ⟨_, there⟩
    · cases unfinished
    · exact recorded.owned place other there unfinished committing

/-- A coroutine that waits for a commit goes on. -/
theorem Recorded.leave (recorded : Recorded deployment id system watch)
    (watched : Watched deployment id system watch) {index number : Nat}
    {errand : Errand} {state : DurableCausalState} {commit : Option Mutation}
    {rest : Except PyError Unit → Code (Option StoredCrdtEntry)} {job : CommitJob}
    {result : Except PyError Unit}
    (task : system.tasks[index]? = some ⟨errand, .act (.commitRows entry state commit) rest⟩)
    (found : system.jobs[number]? = some job) (owned : job.owner = some index)
    (left : job.outcome = some result ∨
      result = .error NodeSystem.cancelled ∧ errand.cancellable = true) :
    Recorded deployment id { system with
      tasks := system.tasks.set index ⟨errand, rest result⟩
      jobs := system.jobs.set number { job with owner := none } }
      (watch.after index (.commitRows entry state commit) result) := by
  have moves : Moves deployment id (.resume index number) system watch _ _ :=
    .leave task found owned left
  refine ⟨fun mutation member => recorded.enter watched moves member,
    fun other stored there => ?_, fun place other there unfinished committing => ?_,
    fun other listed => ?_⟩
  · refine @Recorded.still _ _ system _ watch _ _ _ recorded watched moves other ?_
    rw [← there]
    by_cases same : other = index
    · subst same
      have kept : ((watch.sessions other).next (.commitRows entry state commit)
          result).view.installed = (watch.sessions other).view.installed := by
        cases result <;> rfl
      exact kept.symm.trans (congrArg (·.view.installed) (watch.sessions_after_self other _ _).symm)
    · exact congrArg (·.view.installed) (watch.sessions_after_of_ne index same _ _).symm
  · rcases List.getElem?_set_cases there with ⟨_, rfl⟩ | ⟨_, there⟩
    · obtain ⟨_, _, waits⟩ := watched.waiting number index job found owned
      cases task.symm.trans waits
      cases (recorded.uncancelled task left committing).symm.trans unfinished
    · exact recorded.owned place other there unfinished committing
  · rcases List.mem_or_eq_of_mem_set listed with listed | rfl
    · exact recorded.silent other listed
    · exact fun cancellable =>
        (recorded.silent _ (List.mem_of_getElem? task) cancellable).2 result

/-- Every step keeps the record. -/
theorem Recorded.moves (recorded : Recorded deployment id system watch)
    (watched : Watched deployment id system watch)
    (moves : Moves deployment id label system watch next later) :
    Recorded deployment id next later := by
  have still : ∀ index entry, (watch.sessions index).view.installed = some entry →
      next.Retains id entry :=
    fun index entry there => recorded.still watched moves there
  have entered : ∀ mutation ∈ system.world.ledger.history, mutation.Made deployment id ∧
      (next.Retains id mutation.after ∨ Underway deployment id next later mutation) :=
    fun mutation member => recorded.enter watched moves member
  cases moves with
  | run task ran raised => exact recorded.run watched task ran (.run task ran raised)
  | finish found unfinished => exact recorded.finish watched found unfinished
  | leave task found owned left => exact recorded.leave watched task found owned left
  | start errand =>
      refine ⟨entered, fun index entry there => ?_, recorded.owned, fun task listed => ?_⟩
      · by_cases same : index = system.tasks.length
        · subst same
          rw [watch.sessions_enter_self] at there
          cases errand <;> cases there
        · rw [watch.sessions_enter_of_ne _ same] at there
          exact still index entry there
      · rcases List.mem_concat_cases listed with listed | rfl
        · exact recorded.silent task listed
        · exact silent_of_cancellable
  | arrive delivery => exact ⟨entered, still, recorded.owned, recorded.silent⟩
  | launch task idle =>
      refine ⟨entered, still, fun number job found => ?_, recorded.silent⟩
      rcases List.mem_concat_cases (List.mem_of_getElem? found) with listed | rfl
      · obtain ⟨place, there⟩ := List.getElem?_of_mem listed
        exact recorded.owned place job there
      · exact fun _ _ => Option.some_ne_none _
  | reject found unfinished =>
      refine ⟨entered, still, fun number job there => ?_, recorded.silent⟩
      rcases List.getElem?_set_cases there with ⟨_, rfl⟩ | ⟨_, there⟩
      · rintro ⟨⟩
      · exact recorded.owned number job there

/-- A mutation that a step commits starts from the entry in the store, and has a dot that the
clock does not cover. -/
theorem Recorded.fresh (recorded : Recorded deployment id system watch)
    (watched : Watched deployment id system watch)
    (moves : Moves deployment id label system watch next later)
    (member : mutation ∈ next.world.ledger.history) :
    mutation ∈ system.world.ledger.history ∨ mutation.Made deployment id ∧
      (system.world.nodes id).store.get mutation.key = mutation.before ∧
      (system.world.nodes id).frontier.get (deployment.actor id) < mutation.dot.counter := by
  cases moves with
  | @run index _ _ _ _ _ op _ answer task ran =>
      dsimp only at member
      rw [ran.history] at member
      refine (List.mem_append.mp member).imp_right fun member => ?_
      cases op with
      | replace entry expectedType commit =>
          cases answer with
          | error error => cases member
          | ok stored =>
              cases Option.mem_toList.mp member
              have guard := watched.guard task
              rcases guard with ⟨_, read, held, _, ⟨before, same, made⟩, clocked⟩ | ⟨none, _⟩
              · obtain ⟨frontier, clock, below⟩ := clocked mutation rfl
                rw [← (watched.holds index).frontier frontier clock] at below
                refine ⟨made, ?_, below⟩
                rw [before, ← made.key, same]
                exact (watched.holds index).read entry.key read held
              · cases none
      | _ => cases member
  | @finish number _ _ job found unfinished =>
      rw [World.ledger_atNode, World.history_record] at member
      refine (List.mem_append.mp member).imp_right fun committed => ?_
      replace committed := Option.mem_toList.mp committed
      obtain ⟨index, owned⟩ := Option.ne_none_iff_exists'.mp
        (recorded.owned number job found unfinished (committed ▸ Option.some_ne_none _))
      obtain ⟨made, _, held, frontier, clock, below⟩ := watched.committing found owned committed
      rw [← (watched.holds index).frontier frontier clock] at below
      exact ⟨made, (watched.holds index).read _ _ held, below⟩
  | start | arrive | launch | reject | leave => exact .inl member

/-- A node that starts has recorded nothing. -/
theorem recorded_initial (deployment : Deployment) (id : NodeId) :
    Recorded deployment id (.initial deployment) {} where
  entered mutation member := by cases member
  installed index entry there := by cases there
  owned number job found := by cases found
  silent task listed := by cases listed

end Distsys
