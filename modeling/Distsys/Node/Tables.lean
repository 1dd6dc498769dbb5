import Distsys.Node.Growth

/-!
# The rows of a durable node

The commits of a node are run by threads, and a commit whose coroutine was cancelled is
run at any later time. As long as no commit is handed over while an abandoned one of its
key is unfinished, the commits of each key take effect in the order in which they were
handed over, and the row of a key retains the entry in memory.
-/

namespace Distsys

variable {job : CommitJob} {index : Nat} {entry : StoredCrdtEntry} {state : DurableCausalState}
  {commit : Option Mutation}

/-- The commit was abandoned, and the database has not run it. -/
def CommitJob.loose (job : CommitJob) : Bool :=
  job.owner.isNone && job.outcome.isNone

theorem CommitJob.loose_iff :
    job.loose = true ↔ job.owner = none ∧ job.outcome = none := by
  unfold CommitJob.loose
  rw [Bool.and_eq_true, Option.isNone_iff_eq_none, Option.isNone_iff_eq_none]

/-- No commit is handed over while an abandoned one of its key is unfinished. -/
def NodeSystem.awaits (system : NodeSystem) : NodeLabel → Bool
  | .launch index =>
      match system.next? index with
      | some (.commitRows entry _ _) =>
          system.jobs.all fun job => !(job.loose && job.entry.key == entry.key)
      | _ => true
  | _ => true

theorem NodeSystem.not_loose_of_awaits {system : NodeSystem}
    (awaits : system.awaits (.launch index) = true)
    (next : system.next? index = some (.commitRows entry state commit)) :
    ∀ job ∈ system.jobs, job.loose = true → job.entry.key ≠ entry.key := by
  intro job listed loose same
  simp only [NodeSystem.awaits, next, List.all_eq_true] at awaits
  have free := awaits job listed
  rw [loose, same, beq_self_eq_true] at free
  cases free

/-- The first commit was handed over before the second one, if they are of one key. -/
def NodeSystem.Before (system : NodeSystem) (first second : Nat) : Prop :=
  ∀ job other, system.jobs[first]? = some job → system.jobs[second]? = some other →
    job.entry.key = other.entry.key → first < second

variable {deployment : Deployment} {id : NodeId}
  {system after next : NodeSystem} {watch later : Watch} {label : NodeLabel} {number : Nat}

section Order

variable {changed : CommitJob}

/-- Of two commits of a key, the earlier one is finished, and so the database runs the
commits of a key in their order. -/
structure NodeSystem.Queued (system : NodeSystem) : Prop where
  earlier : ∀ (first second : Nat) (job other : CommitJob), first < second →
    system.jobs[first]? = some job → system.jobs[second]? = some other →
    job.entry.key = other.entry.key → job.outcome ≠ none
  effects : system.effects.Pairwise system.Before
  ran : ∀ number ∈ system.effects, ∃ job, system.jobs[number]? = some job ∧ job.outcome ≠ none

/-- The jobs keep their entries, and a finished one stays finished. -/
def NodeSystem.Continues (system next : NodeSystem) : Prop :=
  ∀ (number : Nat) (job : CommitJob), system.jobs[number]? = some job →
    ∃ other, next.jobs[number]? = some other ∧ other.entry = job.entry ∧
      (job.outcome ≠ none → other.outcome ≠ none)

theorem NodeSystem.Continues.before (continues : system.Continues next) {first second : Nat}
    {one two : CommitJob} (there : system.jobs[first]? = some one)
    (also : system.jobs[second]? = some two) (before : system.Before first second) :
    next.Before first second := by
  intro job other found second keys
  obtain ⟨_, placed, same, _⟩ := continues _ _ there
  obtain ⟨_, beside, still, _⟩ := continues _ _ also
  cases placed.symm.trans found
  cases beside.symm.trans second
  rw [same, still] at keys
  exact before one two there also keys

/-- The effects so far stay in order. -/
theorem NodeSystem.Queued.ordered (queued : system.Queued) (continues : system.Continues next) :
    system.effects.Pairwise next.Before ∧
      ∀ number ∈ system.effects, ∃ job, next.jobs[number]? = some job ∧ job.outcome ≠ none := by
  refine ⟨queued.effects.imp_of_mem fun {first second} one two before => ?_,
    fun number listed => ?_⟩
  · obtain ⟨_, there, _⟩ := queued.ran first one
    obtain ⟨_, also, _⟩ := queued.ran second two
    exact continues.before there also before
  · obtain ⟨job, there, finished⟩ := queued.ran number listed
    obtain ⟨other, placed, _, stays⟩ := continues number job there
    exact ⟨other, placed, stays finished⟩

/-- One job is changed, and keeps its entry. -/
theorem NodeSystem.Continues.set (found : system.jobs[number]? = some job)
    (jobs : next.jobs = system.jobs.set number changed) (same : changed.entry = job.entry)
    (stays : job.outcome ≠ none → changed.outcome ≠ none) :
    system.Continues next := by
  intro place other there
  rw [jobs]
  by_cases here : place = number
  · subst here
    cases found.symm.trans there
    exact ⟨changed, List.getElem?_set_self (List.getElem?_eq_some_iff.mp found).1, same, stays⟩
  · exact ⟨other, (List.getElem?_set_ne (Ne.symm here)).trans there, rfl, fun finished => finished⟩

theorem NodeSystem.Queued.set (queued : system.Queued) (found : system.jobs[number]? = some job)
    (jobs : next.jobs = system.jobs.set number changed) (same : changed.entry = job.entry)
    (stays : job.outcome ≠ none → changed.outcome ≠ none)
    (effects : next.effects = system.effects) : next.Queued := by
  obtain ⟨ordered, ran⟩ := queued.ordered (.set found jobs same stays)
  refine ⟨fun first second one two lt there also keys => ?_, effects ▸ ordered, effects ▸ ran⟩
  -- the jobs as they were
  have old : ∀ {place : Nat} {one : CommitJob}, next.jobs[place]? = some one →
      ∃ before, system.jobs[place]? = some before ∧ before.entry = one.entry ∧
        (before.outcome ≠ none → one.outcome ≠ none) := by
    intro place one there
    rw [jobs] at there
    rcases List.getElem?_set_cases there with ⟨rfl, rfl⟩ | ⟨_, there⟩
    · exact ⟨job, found, same.symm, stays⟩
    · exact ⟨one, there, rfl, fun finished => finished⟩
  obtain ⟨before, placed, entry, finished⟩ := old there
  obtain ⟨beside, standing, other, _⟩ := old also
  refine finished (queued.earlier first second before beside lt placed standing ?_)
  rw [entry, other]
  exact keys

/-- The database runs a job that was unfinished. -/
theorem NodeSystem.Queued.finish (queued : system.Queued) {number : Nat} {job : CommitJob}
    (found : system.jobs[number]? = some job) (unfinished : job.outcome = none)
    (jobs : next.jobs = system.jobs.set number { job with outcome := some (.ok ()) })
    (effects : next.effects = system.effects ++ [number]) : next.Queued := by
  have settled : ({ next with effects := system.effects } : NodeSystem).Queued :=
    queued.set found jobs rfl (fun _ => Option.some_ne_none _) rfl
  have continues : system.Continues next :=
    .set found jobs rfl fun _ => Option.some_ne_none _
  obtain ⟨ordered, ran⟩ := queued.ordered continues
  refine ⟨settled.earlier, ?_, ?_⟩
  · rw [effects, List.pairwise_append]
    refine ⟨ordered, List.pairwise_singleton _ _, fun earlier listed last single => ?_⟩
    cases List.mem_singleton.mp single
    obtain ⟨one, there, finished⟩ := queued.ran earlier listed
    refine continues.before there found ?_
    intro before this placed _ keys
    cases there.symm.trans placed
    cases found.symm.trans ‹_›
    -- a later job of the key has no effect while this one is unfinished
    rcases Nat.lt_trichotomy earlier number with lt | rfl | gt
    · exact lt
    · cases found.symm.trans there
      exact absurd unfinished finished
    · exact absurd unfinished (queued.earlier number earlier job one gt found there keys.symm)
  · intro place listed
    rw [effects] at listed
    rcases List.mem_concat_cases listed with listed | rfl
    · exact ran place listed
    · obtain ⟨other, placed, _⟩ := continues place job found
      refine ⟨other, placed, ?_⟩
      rw [jobs, List.getElem?_set_self (List.getElem?_eq_some_iff.mp found).1] at placed
      cases placed
      exact Option.some_ne_none _

/-- A job is handed over when the other jobs of its key are finished. -/
theorem NodeSystem.Queued.launch (queued : system.Queued) {job : CommitJob}
    (finished : ∀ other ∈ system.jobs, other.entry.key = job.entry.key → other.outcome ≠ none)
    (jobs : next.jobs = system.jobs ++ [job]) (effects : next.effects = system.effects) :
    next.Queued := by
  have continues : system.Continues next := by
    intro number other there
    have bound := (List.getElem?_eq_some_iff.mp there).1
    refine ⟨other, ?_, rfl, fun finished => finished⟩
    rw [jobs, List.getElem?_append_left bound]
    exact there
  obtain ⟨ordered, ran⟩ := queued.ordered continues
  refine ⟨fun first second one two lt there also keys => ?_, effects ▸ ordered, effects ▸ ran⟩
  rw [jobs] at there also
  rcases List.getElem?_concat_cases also with ⟨rfl, rfl⟩ | ⟨_, also⟩
  · rw [List.getElem?_append_left lt] at there
    exact finished one (List.mem_of_getElem? there) keys
  · rw [List.getElem?_append_left (lt.trans (List.getElem?_eq_some_iff.mp also).1)] at there
    exact queued.earlier first second one two lt there also keys

end Order

section Rows

variable {other : StoredCrdtEntry}

/-- The entry is in the row of its key. -/
def Node.Row (node : Node) (entry : StoredCrdtEntry) : Prop :=
  node.repository.rows.get? entry.key = some (encodeEntry entry)

theorem Node.row_commitRows_self (node : Node) (entry : StoredCrdtEntry)
    (state : DurableCausalState) : (node.commitRows entry state).Row entry := by
  change (node.repository.rows.insert entry.key (encodeEntry entry)).get? entry.key = _
  rw [SortedMap.get?_insert, if_pos rfl]

theorem Node.Row.commitRows {node : Node} (row : node.Row other) (differs : entry.key ≠ other.key)
    (state : DurableCausalState) :
    (node.commitRows entry state).Row other := by
  change (node.repository.rows.insert entry.key (encodeEntry entry)).get? other.key = _
  rw [SortedMap.get?_insert, if_neg differs]
  exact row

/-- No operation of a coroutine but a commit writes a row. -/
theorem Node.repository_after (node : Node) (index : Nat) (op : Op) (answer : op.Answer) :
    (node.after index op answer).repository = node.repository := by
  cases op with
  | replace entry expectedType commit => cases answer <;> rfl
  | reserve pairs | nextReady =>
      unfold Node.after
      dsimp only
      split <;> rfl
  | _ => rfl

/-- The coroutine has handed over a commit of the entry and not stored it yet. -/
def NodeSystem.Committing (system : NodeSystem) (watch : Watch) (index : Nat)
    (entry : StoredCrdtEntry) : Prop :=
  (∃ (number : Nat) (job : CommitJob), system.jobs[number]? = some job ∧
      job.owner = some index ∧ job.entry = entry) ∨
    (watch.sessions index).locks.row = some entry

/-- What the rows of a durable node have to do with its memory. An abandoned commit that is
unfinished contains the entry in memory, and no coroutine is committing its key. -/
structure Tables (id : NodeId) (system : NodeSystem) (watch : Watch) : Prop where
  stored : ∀ key entry, (system.world.nodes id).store.get key = some entry →
    ∃ row, (system.world.nodes id).Row row ∧ entry.Retained row
  rows : ∀ index entry, (watch.sessions index).locks.row = some entry →
    (system.world.nodes id).Row entry
  keyed : ∀ index entry, (watch.sessions index).locks.row = some entry →
    ∃ read, (watch.sessions index).locks.key = some (entry.key, read)
  done : ∀ (number index : Nat) (job : CommitJob), system.jobs[number]? = some job →
    job.owner = some index → job.outcome = some (.ok ()) → (system.world.nodes id).Row job.entry
  loose : ∀ job ∈ system.jobs, job.loose = true →
    (∀ entry, (system.world.nodes id).store.get job.entry.key = some entry →
      entry.Retained job.entry) ∧
    ∀ index entry, system.Committing watch index entry → entry.key ≠ job.entry.key

/-- The guard of a commit that a coroutine waits for. -/
theorem Watched.writing (watched : Watched deployment id system watch)
    (found : system.jobs[number]? = some job) (owned : job.owner = some index) :
    (watch.sessions index).Guard deployment id (.commitRows job.entry job.state job.commit) := by
  obtain ⟨_, _, task⟩ := watched.waiting number index job found owned
  exact watched.guard task

/-- A commit that a coroutine may hand over contains the entry in memory. -/
theorem Watched.retained (watched : Watched deployment id system watch) {stored : StoredCrdtEntry}
    (guard : (watch.sessions index).Guard deployment id (.commitRows entry state commit))
    (found : (system.world.nodes id).store.get entry.key = some stored) :
    stored.Retained entry := by
  obtain ⟨_, ⟨read, held, _, follows, _⟩, _⟩ := guard
  exact Session.Follows.retained ((watched.holds index).read _ _ held ▸ follows) found

/-- A coroutine that commits an entry holds the lock of its key. -/
theorem Tables.holder (tables : Tables id system watch)
    (watched : Watched deployment id system watch)
    (committing : system.Committing watch index entry) :
    (system.world.nodes id).keyHolder entry.key = some index := by
  rcases committing with ⟨number, job, found, owned, rfl⟩ | row
  · obtain ⟨_, ⟨read, held, _⟩, _⟩ := watched.writing found owned
    exact (watched.holds index).key _ _ held
  · obtain ⟨read, held⟩ := tables.keyed index entry row
    exact (watched.holds index).key _ _ held

/-- Only one coroutine commits a key. -/
theorem Tables.alone (tables : Tables id system watch)
    (watched : Watched deployment id system watch)
    {first second : Nat} (committing : system.Committing watch first entry)
    (also : system.Committing watch second other) (keys : entry.key = other.key) :
    first = second := by
  have held := tables.holder watched committing
  rw [keys] at held
  exact Option.some.inj (held.symm.trans (tables.holder watched also))

/-- A coroutine whose commit is unfinished has no other one of the key, and no row. -/
theorem Tables.only (tables : Tables id system watch) (watched : Watched deployment id system watch)
    {other : Nat} (found : system.jobs[number]? = some job) (owned : job.owner = some index)
    (committing : system.Committing watch other entry) (keys : entry.key = job.entry.key) :
    other = index ∧ ∀ (place : Nat) (one : CommitJob), system.jobs[place]? = some one →
      one.owner = some other → place = number := by
  have mine : system.Committing watch index job.entry := Or.inl ⟨number, job, found, owned, rfl⟩
  have same := tables.alone watched committing mine keys
  refine ⟨same, fun place one there owns => ?_⟩
  exact watched.single place number one job index there found (same ▸ owns) owned

/-- A step after which the rows, the entries and the commits are the same. -/
theorem Tables.unchanged (tables : Tables id system watch)
    (store : (next.world.nodes id).store = (system.world.nodes id).store)
    (repository : (next.world.nodes id).repository = (system.world.nodes id).repository)
    (jobs : next.jobs = system.jobs)
    (row : ∀ index, (later.sessions index).locks.row = (watch.sessions index).locks.row)
    (keyed : ∀ index entry, (later.sessions index).locks.row = some entry →
      ∃ read, (later.sessions index).locks.key = some (entry.key, read)) :
    Tables id next later := by
  have same : ∀ entry, (system.world.nodes id).Row entry → (next.world.nodes id).Row entry := by
    intro entry there
    rw [Node.Row, repository]
    exact there
  refine ⟨fun key entry found => ?_, fun index entry found => ?_, keyed, ?_, ?_⟩
  · rw [store] at found
    obtain ⟨other, there, retained⟩ := tables.stored key entry found
    exact ⟨other, same other there, retained⟩
  · exact same entry (tables.rows index entry ((row index).symm.trans found))
  · rw [jobs]
    exact fun number index job found owned finished =>
      same job.entry (tables.done number index job found owned finished)
  · rw [jobs, store]
    intro job listed loose
    obtain ⟨retained, free⟩ := tables.loose job listed loose
    refine ⟨retained, fun index entry committing => free index entry ?_⟩
    rw [NodeSystem.Committing, jobs, row] at committing
    exact committing

/-- What an operation that writes nothing makes of the locks of a coroutine that has a row. -/
theorem Session.Guard.keeps_key {session : Session} {op : Op} {answer : op.Answer} {key : PyStr}
    {read : Option (Option StoredCrdtEntry)} (guard : session.Guard deployment id op)
    (reads : op.writes = false) (row : session.locks.row = some entry)
    (held : session.locks.key = some (key, read)) :
    ∃ read, (session.next op answer).locks.key = some (key, read) := by
  cases op with
  | replace | commitRows => cases reads
  | acquireKey other | releaseKey other => cases guard.2.symm.trans row
  | get other =>
      unfold Session.next
      dsimp only
      rw [held]
      exact ⟨some answer, rfl⟩
  | reserve pairs | publish reservation entry => cases answer <;> exact ⟨read, held⟩
  | _ => exact ⟨read, held⟩

/-- The entry in the row of a coroutine goes into memory. -/
theorem Tables.install (tables : Tables id system watch)
    (row : (watch.sessions index).locks.row = some entry)
    (node : next.world.nodes id = (system.world.nodes id).put entry)
    (jobs : next.jobs = system.jobs)
    (own : later.sessions index = (watch.sessions index).stored entry commit)
    (others : ∀ other, other ≠ index → later.sessions other = watch.sessions other) :
    Tables id next later := by
  have before : ∀ other found, (later.sessions other).locks.row = some found →
      other ≠ index ∧ (watch.sessions other).locks.row = some found := by
    intro other found there
    by_cases same : other = index
    · rw [same, own] at there
      cases there
    · rw [others other same] at there
      exact ⟨same, there⟩
  refine ⟨fun key stored found => ?_, fun other held there => ?_, fun other held there => ?_,
    ?_, ?_⟩
  · rw [node, Node.put, Store.get_put] at found
    rw [node]
    split at found
    · cases found
      exact ⟨entry, tables.rows index entry row, .refl entry⟩
    · exact tables.stored key stored found
  · rw [node]
    exact tables.rows other held (before other held there).2
  · obtain ⟨differs, there⟩ := before other held there
    rw [others other differs]
    exact tables.keyed other held there
  · rw [jobs, node]
    exact tables.done
  · rw [jobs, node]
    intro job listed loose
    obtain ⟨retained, free⟩ := tables.loose job listed loose
    refine ⟨fun stored found => ?_, fun other held committing => free other held ?_⟩
    · rw [Node.put, Store.get_put, if_neg (free index entry (Or.inr row))] at found
      exact retained stored found
    · rw [NodeSystem.Committing, jobs] at committing
      exact committing.imp_right fun there => (before other held there).2

theorem Tables.run (tables : Tables id system watch) (watched : Watched deployment id system watch)
    (durable : deployment.durable id = true) {index : Nat} {errand : Errand} {op : Op}
    {answer : op.Answer} {rest : op.Answer → Code (Option StoredCrdtEntry)}
    (task : system.tasks[index]? = some ⟨errand, .act op rest⟩)
    (ran : Ran id system index op answer after) :
    Tables id { after with tasks := after.tasks.set index ⟨errand, rest answer⟩ }
      (watch.after index op answer) := by
  have guard := watched.guard task
  by_cases reads : op.writes = false
  · have row : ∀ other, ((watch.after index op answer).sessions other).locks.row =
        (watch.sessions other).locks.row := by
      intro other
      by_cases same : other = index
      · subst same
        rw [watch.sessions_after_self]
        exact (unwritten_of_not_writes (watch.sessions other) answer reads).2.2.1
      · rw [watch.sessions_after_of_ne index same]
    refine tables.unchanged ?_ ?_ ran.jobs row fun other entry there => ?_
    · change (after.world.nodes id).store = _
      rw [ran.node]
      exact Node.store_after _ index answer reads
    · change (after.world.nodes id).repository = _
      rw [ran.node]
      exact Node.repository_after _ index op answer
    · rw [row] at there
      obtain ⟨read, held⟩ := tables.keyed other entry there
      by_cases same : other = index
      · subst same
        rw [watch.sessions_after_self]
        exact guard.keeps_key reads there held
      · rw [watch.sessions_after_of_ne index same]
        exact ⟨read, held⟩
  · obtain ⟨entry, expectedType, commit, rfl⟩ := ran.eq_replace reads
    -- a durable node stores what it has committed, and that does not fail
    rcases guard with ⟨memory, _⟩ | ⟨rfl, _, _, _, row, _⟩
    · cases durable.symm.trans memory
    · cases watched.legal task ran row
      exact tables.install row ran.node ran.jobs (watch.sessions_after_self ..)
        fun other differs => watch.sessions_after_of_ne index differs ..

/-- A commit is handed over that no abandoned one of its key precedes. -/
theorem Tables.launch (tables : Tables id system watch) {job : CommitJob} {index : Nat}
    (owned : job.owner = some index) (unfinished : job.outcome = none)
    (clear : ∀ other ∈ system.jobs, other.loose = true → other.entry.key ≠ job.entry.key) :
    Tables id { system with jobs := system.jobs ++ [job] } watch := by
  refine ⟨tables.stored, tables.rows, tables.keyed, ?_, ?_⟩
  · intro place owner one there owns finished
    rcases List.getElem?_concat_cases there with ⟨_, rfl⟩ | ⟨_, there⟩
    · cases unfinished.symm.trans finished
    · exact tables.done place owner one there owns finished
  · intro one listed loose
    rcases List.mem_concat_cases listed with before | rfl
    · obtain ⟨retained, free⟩ := tables.loose one before loose
      refine ⟨retained, ?_⟩
      rintro other entry (⟨place, other, there, owns, rfl⟩ | row)
      · rcases List.getElem?_concat_cases there with ⟨_, rfl⟩ | ⟨_, there⟩
        · exact (clear one before loose).symm
        · exact free _ _ (Or.inl ⟨place, other, there, owns, rfl⟩)
      · exact free _ entry (Or.inr row)
    · cases owned.symm.trans (CommitJob.loose_iff.mp loose).1

section Settle

variable {number : Nat} {job : CommitJob} {outcome : Except PyError Unit}

/-- The outcome of a job changes nothing about who is committing. -/
theorem NodeSystem.Committing.unsettle {index : Nat} {entry : StoredCrdtEntry}
    (found : system.jobs[number]? = some job)
    (jobs : next.jobs = system.jobs.set number { job with outcome := some outcome })
    (committing : next.Committing watch index entry) : system.Committing watch index entry := by
  refine committing.imp_left ?_
  rintro ⟨place, one, there, owned, same⟩
  rw [jobs] at there
  rcases List.getElem?_set_cases there with ⟨rfl, rfl⟩ | ⟨_, there⟩
  · exact ⟨place, job, found, owned, same⟩
  · exact ⟨place, one, there, owned, same⟩

/-- What is abandoned and unfinished after a job was settled. -/
theorem Tables.loose_settle (tables : Tables id system watch)
    (found : system.jobs[number]? = some job)
    (jobs : next.jobs = system.jobs.set number { job with outcome := some outcome })
    (store : (next.world.nodes id).store = (system.world.nodes id).store) :
    ∀ one ∈ next.jobs, one.loose = true →
      (∀ entry, (next.world.nodes id).store.get one.entry.key = some entry →
        entry.Retained one.entry) ∧
      ∀ index entry, next.Committing watch index entry → entry.key ≠ one.entry.key := by
  intro one listed loose
  rw [jobs] at listed
  rcases List.mem_or_eq_of_mem_set listed with listed | rfl
  · obtain ⟨retained, free⟩ := tables.loose one listed loose
    rw [store]
    exact ⟨retained, fun index entry committing =>
      free index entry (NodeSystem.Committing.unsettle found jobs committing)⟩
  · cases (CommitJob.loose_iff.mp loose).2

/-- The database rejects a commit. -/
theorem Tables.reject (tables : Tables id system watch) (error : PyError)
    (found : system.jobs[number]? = some job) :
    Tables id
      { system with jobs := system.jobs.set number { job with outcome := some (.error error) } }
      watch := by
  refine ⟨tables.stored, tables.rows, tables.keyed, ?_, tables.loose_settle found rfl rfl⟩
  intro place index one there owned finished
  rcases List.getElem?_set_cases there with ⟨rfl, rfl⟩ | ⟨_, there⟩
  · cases finished
  · exact tables.done place index one there owned finished

/-- The commit that the database runs contains the entry in memory. -/
theorem Tables.fits (tables : Tables id system watch) (watched : Watched deployment id system watch)
    (found : system.jobs[number]? = some job) (unfinished : job.outcome = none)
    (stored : (system.world.nodes id).store.get job.entry.key = some entry) :
    entry.Retained job.entry := by
  cases owned : job.owner with
  | none =>
      have loose := CommitJob.loose_iff.mpr ⟨owned, unfinished⟩
      exact (tables.loose job (List.mem_of_getElem? found) loose).1 entry stored
  | some index => exact watched.retained (watched.writing found owned) stored

/-- Only its coroutine, if it has one, is committing the key of an unfinished commit. -/
theorem Tables.owner (tables : Tables id system watch)
    (watched : Watched deployment id system watch)
    (found : system.jobs[number]? = some job) (unfinished : job.outcome = none) {index : Nat}
    {entry : StoredCrdtEntry} (committing : system.Committing watch index entry)
    (keys : entry.key = job.entry.key) :
    job.owner = some index ∧ (watch.sessions index).locks.row = none ∧
      ∀ (place : Nat) (one : CommitJob), system.jobs[place]? = some one →
        one.owner = some index → place = number := by
  cases owned : job.owner with
  | none =>
      have loose := CommitJob.loose_iff.mpr ⟨owned, unfinished⟩
      exact absurd keys ((tables.loose job
        (List.mem_of_getElem? found) loose).2 index entry committing)
  | some owner =>
      obtain ⟨rfl, only⟩ := tables.only watched found owned committing keys
      obtain ⟨_, ⟨_, _, rowless, _⟩, _⟩ := watched.writing found owned
      exact ⟨rfl, rowless, only⟩

/-- The database runs a commit. -/
theorem Tables.finish (tables : Tables id system watch)
    (watched : Watched deployment id system watch)
    (found : system.jobs[number]? = some job) (unfinished : job.outcome = none)
    (node : next.world.nodes id = (system.world.nodes id).commitRows job.entry job.state)
    (jobs : next.jobs = system.jobs.set number { job with outcome := some (.ok ()) }) :
    Tables id next watch := by
  have store : (next.world.nodes id).store = (system.world.nodes id).store := by
    rw [node]
    rfl
  have self : (next.world.nodes id).Row job.entry := by
    rw [node]
    exact Node.row_commitRows_self ..
  have other : ∀ {entry : StoredCrdtEntry}, job.entry.key ≠ entry.key →
      (system.world.nodes id).Row entry → (next.world.nodes id).Row entry := by
    intro entry differs row
    rw [node]
    exact row.commitRows differs job.state
  refine ⟨fun key entry there => ?_, fun index entry row => ?_, tables.keyed, ?_,
    tables.loose_settle found jobs store⟩
  · rw [store] at there
    by_cases same : job.entry.key = key
    · subst same
      exact ⟨job.entry, self, tables.fits watched found unfinished there⟩
    · obtain ⟨row, placed, retained⟩ := tables.stored key entry there
      refine ⟨row, other (fun keys => same ?_) placed, retained⟩
      rw [keys, retained.key, Store.key_of_get there]
  · by_cases same : job.entry.key = entry.key
    · obtain ⟨_, rowless, _⟩ := tables.owner watched found unfinished (Or.inr row) same.symm
      cases rowless.symm.trans row
    · exact other same (tables.rows index entry row)
  · intro place index one there owned finished
    rw [jobs] at there
    rcases List.getElem?_set_cases there with ⟨rfl, rfl⟩ | ⟨differs, there⟩
    · exact self
    · by_cases same : job.entry.key = one.entry.key
      · obtain ⟨_, _, only⟩ := tables.owner watched found unfinished
          (Or.inl ⟨place, one, there, owned, rfl⟩) same.symm
        exact absurd (only place one there owned) differs
      · exact other same (tables.done place index one there owned finished)

end Settle

/-- A coroutine that waits for a commit goes on. The commit stays, without an owner. -/
theorem Tables.leave (tables : Tables id system watch)
    (watched : Watched deployment id system watch)
    {number index : Nat} {job : CommitJob} {result : Except PyError Unit}
    (found : system.jobs[number]? = some job) (owned : job.owner = some index)
    (left : job.outcome = some result ∨ result = .error NodeSystem.cancelled)
    (world : next.world = system.world)
    (jobs : next.jobs = system.jobs.set number { job with owner := none })
    (own : later.sessions index =
      (watch.sessions index).next (.commitRows job.entry job.state job.commit) result)
    (others : ∀ other, other ≠ index → later.sessions other = watch.sessions other) :
    Tables id next later := by
  obtain ⟨_, ⟨read, held, rowless, _⟩, _⟩ := watched.writing found owned
  -- only the coroutine that goes on may have a new row
  have row : ∀ other entry, (later.sessions other).locks.row = some entry →
      (other ≠ index ∧ (watch.sessions other).locks.row = some entry) ∨
      (other = index ∧ job.outcome = some (.ok ()) ∧ entry = job.entry) := by
    intro other entry there
    by_cases same : other = index
    · subst same
      rw [own] at there
      cases result with
      | error error => cases rowless.symm.trans there
      | ok done =>
          refine .inr ⟨rfl, ?_, (Option.some.inj there).symm⟩
          rcases left with finished | cancelled
          · exact finished
          · cases cancelled
    · rw [others other same] at there
      exact .inl ⟨same, there⟩
  have before : ∀ other entry, next.Committing later other entry →
      system.Committing watch other entry := by
    rintro other entry (⟨place, one, there, owns, same⟩ | there)
    · rw [jobs] at there
      rcases List.getElem?_set_cases there with ⟨rfl, rfl⟩ | ⟨_, there⟩
      · cases owns
      · exact Or.inl ⟨place, one, there, owns, same⟩
    · rcases row other entry there with ⟨_, there⟩ | ⟨rfl, _, rfl⟩
      · exact Or.inr there
      · exact Or.inl ⟨number, job, found, owned, rfl⟩
  refine ⟨world ▸ tables.stored, fun other entry there => ?_, fun other entry there => ?_, ?_, ?_⟩
  · rw [world]
    rcases row other entry there with ⟨_, there⟩ | ⟨rfl, finished, rfl⟩
    · exact tables.rows other entry there
    · exact tables.done number other job found owned finished
  · rcases row other entry there with ⟨differs, there⟩ | ⟨rfl, _, rfl⟩
    · rw [others other differs]
      exact tables.keyed other entry there
    · rw [own]
      refine ⟨some read, ?_⟩
      cases result <;> exact held
  · intro place other one there owns finished
    rw [jobs] at there
    rw [world]
    rcases List.getElem?_set_cases there with ⟨rfl, rfl⟩ | ⟨_, there⟩
    · cases owns
    · exact tables.done place other one there owns finished
  · intro one listed loose
    rw [jobs] at listed
    rw [world]
    rcases List.mem_or_eq_of_mem_set listed with listed | rfl
    · obtain ⟨retained, free⟩ := tables.loose one listed loose
      exact ⟨retained, fun other entry committing =>
        free other entry (before other entry committing)⟩
    · -- the coroutine was cancelled, and has neither a commit nor a row any more
      have unfinished : job.outcome = none := (CommitJob.loose_iff.mp loose).2
      have guard := watched.writing found owned
      refine ⟨fun entry stored => watched.retained guard stored, ?_⟩
      intro other entry committing keys
      obtain ⟨rfl, only⟩ := tables.only watched found owned (before other entry committing) keys
      rcases committing with ⟨place, one, there, owns, _⟩ | there
      · rw [jobs] at there
        rcases List.getElem?_set_cases there with ⟨rfl, rfl⟩ | ⟨differs, there⟩
        · cases owns
        · exact differs (only place one there owns)
      · rcases row other entry there with ⟨differs, _⟩ | ⟨_, finished, _⟩
        · exact differs rfl
        · cases unfinished.symm.trans finished

end Rows

section Runs

theorem NodeSystem.Queued.unchanged (queued : system.Queued) (jobs : next.jobs = system.jobs)
    (effects : next.effects = system.effects) : next.Queued := by
  refine ⟨jobs ▸ queued.earlier, ?_, ?_⟩
  · unfold NodeSystem.Before
    rw [jobs, effects]
    exact queued.effects
  · rw [jobs, effects]
    exact queued.ran

/-- Every step of a durable node that does not overtake an abandoned commit keeps the order of
the commits and the rows. -/
theorem Tables.moves (tables : Tables id system watch) (queued : system.Queued)
    (watched : Watched deployment id system watch) (durable : deployment.durable id = true)
    (moves : Moves deployment id label system watch next later)
    (awaits : system.awaits label = true) :
    Tables id next later ∧ next.Queued := by
  cases moves with
  | run task ran =>
      exact ⟨tables.run watched durable task ran, queued.unchanged ran.jobs ran.effects⟩
  | start errand =>
      refine ⟨tables.unchanged rfl rfl rfl (fun other => ?_) fun other entry row => ?_,
        queued.unchanged rfl rfl⟩
      · by_cases same : other = system.tasks.length
        · subst same
          rw [watch.sessions_enter_self, watched.fresh _ le_rfl]
          cases errand <;> rfl
        · rw [watch.sessions_enter_of_ne _ same]
      · by_cases same : other = system.tasks.length
        · subst same
          rw [watch.sessions_enter_self] at row
          cases errand <;> cases row
        · rw [watch.sessions_enter_of_ne _ same] at row ⊢
          exact tables.keyed other entry row
  | arrive delivery =>
      exact ⟨tables.unchanged rfl rfl rfl (fun _ => rfl) tables.keyed, queued.unchanged rfl rfl⟩
  | @launch index _ _ errand entry state commit rest task idle =>
      have clear := NodeSystem.not_loose_of_awaits awaits (next?_of_task task)
      refine ⟨tables.launch rfl rfl clear, queued.launch (fun other listed keys => ?_) rfl rfl⟩
      -- an unfinished commit of the key belongs to nobody else
      intro unfinished
      obtain ⟨number, found⟩ := List.mem_iff_getElem?.mp listed
      cases owned : other.owner with
      | none => exact clear other listed (CommitJob.loose_iff.mpr ⟨owned, unfinished⟩) keys
      | some owner =>
          obtain ⟨_, ⟨read, held, _⟩, _⟩ := watched.guard task
          obtain ⟨_, ⟨also, holds, _⟩, _⟩ := watched.writing found owned
          have mine := (watched.holds index).key _ _ held
          have theirs := (watched.holds owner).key _ _ holds
          rw [keys] at theirs
          cases mine.symm.trans theirs
          exact idle other listed owned
  | reject found unfinished =>
      exact ⟨tables.reject _ found,
        queued.set found rfl rfl (fun _ => Option.some_ne_none _) rfl⟩
  | finish found unfinished =>
      refine ⟨tables.finish watched found unfinished ?_ rfl, queued.finish found unfinished rfl rfl⟩
      rw [World.nodes_atNode_self, World.nodes_record]
  | leave task found owned left =>
      obtain ⟨_, _, waits⟩ := watched.waiting _ _ _ found owned
      cases task.symm.trans waits
      exact ⟨tables.leave watched found owned (left.imp_right And.left) rfl rfl
          (watch.sessions_after_self ..)
            fun other differs => watch.sessions_after_of_ne _ differs ..,
        queued.set found rfl rfl (fun finished => finished) rfl⟩

theorem tables_initial (deployment : Deployment) (id : NodeId) :
    Tables id (.initial deployment) {} ∧ (NodeSystem.initial deployment).Queued := by
  refine ⟨⟨?_, ?_, ?_, ?_, ?_⟩, ⟨?_, .nil, ?_⟩⟩
  · rintro key entry found
    cases found
  · rintro index entry ⟨⟩
  · rintro index entry ⟨⟩
  · rintro number index job found
    cases found
  · rintro job listed
    cases listed
  · rintro first second job other _ found
    cases found
  · rintro number listed
    cases listed

end Runs

end Distsys
