import Distsys.Node.Background
import Distsys.Node.Running
import Distsys.Replication.Ledger

/-!
# Watching the coroutines of a node

A watch keeps the session of every coroutine and a log of the outbox. It moves with the
node, and what it says holds: each coroutine keeps to the protocol, a lock is held by the
coroutine whose session says so, what was read under a lock is still there, and the
outbox owes what the sessions say.
-/

namespace Distsys

/-- The sessions of the coroutines, and what was published and handed out. -/
structure Watch where
  sessions : Nat → Session := fun _ => {}
  log : List OutboxEvent := []

/-- The session of a coroutine that starts. -/
def Errand.session : Errand → Session
  | .message _ request => { request := some request }
  | .replicator => { worker := true }
  | _ => {}

/-- What an operation adds to the log of the outbox. -/
def Op.events : (op : Op) → op.Answer → List OutboxEvent
  | .publish reservation entry, .ok _ =>
      OutboxLedger.publications reservation.pairs (.ofList [(entry.key, entry)])
  | .nextReady, some item => [.handedOut item.pair]
  | _, _ => []

namespace Watch

variable (watch : Watch) (index : Nat) {other count : Nat}

/-- A watch that starts with this session. -/
def enter (session : Session) : Watch :=
  { watch with sessions := Function.update watch.sessions index session }

/-- The watch after an operation. -/
def after (op : Op) (answer : op.Answer) : Watch :=
  ⟨Function.update watch.sessions index ((watch.sessions index).next op answer),
    op.events answer ++ watch.log⟩

@[simp] theorem sessions_enter_self (session : Session) :
    (watch.enter index session).sessions index = session :=
  Function.update_self ..

theorem sessions_enter_of_ne (differs : other ≠ index) (session : Session) :
    (watch.enter index session).sessions other = watch.sessions other :=
  Function.update_of_ne differs ..

@[simp] theorem sessions_after_self (op : Op) (answer : op.Answer) :
    (watch.after index op answer).sessions index = (watch.sessions index).next op answer :=
  Function.update_self ..

theorem sessions_after_of_ne (differs : other ≠ index) (op : Op) (answer : op.Answer) :
    (watch.after index op answer).sessions other = watch.sessions other :=
  Function.update_of_ne differs ..

/-- The reservations that the first coroutines have to resolve. -/
def claims (count : Nat) : List OutboxReservation :=
  (List.range count).filterMap fun index => (watch.sessions index).work.reserved

/-- The items that they have taken. -/
def items (count : Nat) : List PendingReplication :=
  (List.range count).filterMap fun index => (watch.sessions index).work.item

/-- The entries of a list that the numbers below a bound contribute, one of them first. -/
theorem perm_filterMap_range {α : Type} (listed : index < count) {field : Nat → Option α}
    {rest : List α} (others : ((List.range count).erase index).filterMap field = rest) :
    ((List.range count).filterMap field).Perm ((field index).toList ++ rest) := by
  subst others
  refine ((List.perm_cons_erase (List.mem_range.mpr listed)).filterMap field).trans (.of_eq ?_)
  cases found : field index with
  | none => rw [List.filterMap_cons_none found]; rfl
  | some value => rw [List.filterMap_cons_some found]; rfl

/-- What the sessions contribute, one of them first: the others contribute the same whatever
its session is. -/
theorem exists_contributions {α : Type} (field : Session → Option α) (listed : index < count)
    (sessions : Nat → Session) :
    ∃ rest, ∀ session,
      ((List.range count).filterMap fun other =>
        field (Function.update sessions index session other)).Perm
          ((field session).toList ++ rest) := by
  refine ⟨((List.range count).erase index).filterMap fun other => field (sessions other),
    fun session => ?_⟩
  have first : field (Function.update sessions index session index) = field session := by
    rw [Function.update_self]
  rw [← first]
  refine perm_filterMap_range index listed (List.filterMap_congr fun other among => ?_)
  have differs : other ≠ index := (List.nodup_range.mem_erase_iff.mp among).1
  rw [Function.update_of_ne differs]

end Watch

variable (deployment : Deployment) (id : NodeId) {system : NodeSystem} {entry : StoredCrdtEntry}

/-- A step of the node, and of the watch. A coroutine that waits for a commit leaves with its
outcome, or because it is cancelled. -/
inductive Moves : NodeLabel → NodeSystem → Watch → NodeSystem → Watch → Prop
  | start (errand : Errand) (system : NodeSystem) (watch : Watch) :
      Moves (.start errand) system watch
        { system with tasks := system.tasks ++ [⟨errand, errand.code deployment id⟩] }
        (watch.enter system.tasks.length errand.session)
  | arrive (delivery : Delivery) (system : NodeSystem) (watch : Watch) :
      Moves (.arrive delivery) system watch
        { system with world := { system.world with
          replies := system.world.replies ++ [delivery] } } watch
  | run {index : Nat} {choice : Choice} {system after : NodeSystem} {watch : Watch}
      {errand : Errand} {op : Op} {next : op.Answer → Code (Option StoredCrdtEntry)}
      {answer : op.Answer} (task : system.tasks[index]? = some ⟨errand, .act op next⟩)
      (ran : Ran id system index op answer after)
      (raised : op.RaisedBy choice answer) :
      Moves (.run index choice) system watch
        { after with tasks := after.tasks.set index ⟨errand, next answer⟩ }
        (watch.after index op answer)
  | launch {index : Nat} {system : NodeSystem} {watch : Watch} {errand : Errand}
      {entry : StoredCrdtEntry} {state : DurableCausalState} {commit : Option Mutation}
      {next : Except PyError Unit → Code (Option StoredCrdtEntry)}
      (task : system.tasks[index]? = some ⟨errand, .act (.commitRows entry state commit) next⟩)
      (idle : ∀ job ∈ system.jobs, job.owner ≠ some index) :
      Moves (.launch index) system watch
        { system with jobs := system.jobs ++ [⟨some index, entry, state, commit, none⟩] } watch
  | reject {number : Nat} {error : PyError} {system : NodeSystem} {watch : Watch}
      {job : CommitJob} (found : system.jobs[number]? = some job)
      (unfinished : job.outcome = none) :
      Moves (.finish number (some error)) system watch
        { system with jobs := system.jobs.set number { job with outcome := some (.error error) } }
        watch
  | finish {number : Nat} {system : NodeSystem} {watch : Watch} {job : CommitJob}
      (found : system.jobs[number]? = some job) (unfinished : job.outcome = none) :
      Moves (.finish number none) system watch
        { system with
          world := (system.world.record id job.commit).atNode id
            (·.commitRows job.entry job.state)
          jobs := system.jobs.set number { job with outcome := some (.ok ()) }
          effects := system.effects ++ [number] } watch
  | leave {label : NodeLabel} {index number : Nat} {system : NodeSystem} {watch : Watch}
      {errand : Errand} {entry : StoredCrdtEntry} {state : DurableCausalState}
      {commit : Option Mutation} {next : Except PyError Unit → Code (Option StoredCrdtEntry)}
      {job : CommitJob} {result : Except PyError Unit}
      (task : system.tasks[index]? = some ⟨errand, .act (.commitRows entry state commit) next⟩)
      (found : system.jobs[number]? = some job) (owned : job.owner = some index)
      (left : job.outcome = some result ∨
        result = .error NodeSystem.cancelled ∧ errand.cancellable = true) :
      Moves label system watch
        { system with
          tasks := system.tasks.set index ⟨errand, next result⟩
          jobs := system.jobs.set number { job with owner := none } }
        (watch.after index (.commitRows entry state commit) result)

theorem exists_leave {next : NodeSystem} {index number : Nat}
    {outcome : CommitJob → Option (Except PyError Unit)} (label : NodeLabel) (watch : Watch)
    (only : ∀ errand code job result, system.tasks[index]? = some ⟨errand, code⟩ →
      outcome job = some result → job.outcome = some result ∨
        result = .error NodeSystem.cancelled ∧ errand.cancellable = true)
    (left : system.leave index number outcome = some next) :
    ∃ later, Moves deployment id label system watch next later := by
  unfold NodeSystem.leave at left
  split at left
  · next errand entry state commit rest job task found =>
    split at left
    · next owned =>
      split at left
      · next result given =>
        cases left
        exact ⟨_, .leave task found owned (only errand _ job result task given)⟩
      · cases left
    · cases left
  · cases left

/-- Every step of the node is watched. -/
theorem exists_moves {next : NodeSystem} {label : NodeLabel} (watch : Watch)
    (stepped : system.step deployment id label = some next) :
    ∃ later, Moves deployment id label system watch next later := by
  cases label with
  | start errand =>
      cases stepped
      exact ⟨_, .start errand system watch⟩
  | arrive delivery =>
      cases stepped
      exact ⟨_, .arrive delivery system watch⟩
  | run index choice =>
      unfold NodeSystem.step at stepped
      dsimp only at stepped
      split at stepped
      · next errand op rest task =>
        split at stepped
        · next answer after performed =>
          cases stepped
          exact ⟨_, .run task (ran_of_perform performed) (raisedBy_of_perform performed)⟩
        · cases stepped
      · cases stepped
  | launch index =>
      change system.launch index = some next at stepped
      unfold NodeSystem.launch at stepped
      split at stepped
      · next errand entry state commit rest task =>
        split at stepped
        · cases stepped
        · next idle =>
          cases stepped
          refine ⟨_, .launch task fun job listed owned => idle ?_⟩
          exact List.any_eq_true.mpr ⟨job, listed, decide_eq_true owned⟩
      · cases stepped
  | finish number failure =>
      change system.finish id number failure = some next at stepped
      unfold NodeSystem.finish at stepped
      split at stepped
      · next job found =>
        split at stepped
        · cases stepped
        · next unfinished =>
          have unfinished : job.outcome = none := Option.not_isSome_iff_eq_none.mp unfinished
          split at stepped
          · cases stepped
            exact ⟨_, .reject found unfinished⟩
          · cases stepped
            exact ⟨_, .finish found unfinished⟩
      · cases stepped
  | resume index number =>
      exact exists_leave deployment id _ watch (fun _ _ _ _ _ given => .inl given) stepped
  | cancel index number =>
      unfold NodeSystem.step at stepped
      dsimp only at stepped
      split at stepped
      · next cancellable =>
        refine exists_leave deployment id _ watch (fun errand _ _ result task given => ?_) stepped
        rw [task] at cancellable
        exact .inr ⟨(Option.some.inj given).symm, cancellable⟩
      · cases stepped

variable {deployment} {id}

/-- What the session of a coroutine says about its node. -/
structure Session.Holds (node : Node) (index : Nat) (session : Session) : Prop where
  key : ∀ key read, session.locks.key = some (key, read) → node.keyHolder key = some index
  clock : session.locks.clock ≠ none → node.clockHolder = some index
  read : ∀ key entry, session.locks.key = some (key, some entry) → node.store.get key = entry
  frontier : ∀ vector, session.locks.clock = some (some vector) → node.frontier = vector

/-- What the entry that a call of the store has left in it contains. -/
def Errand.Leaves (entry : StoredCrdtEntry) : Errand → Prop
  | .merge incoming => incoming.Grown entry
  | .metadata key causalContext => entry.key = key ∧ causalContext ≤ entry.causalContext
  | _ => True

/-- A call of the store that returns an entry has stored it. -/
def Errand.Done (errand : Errand) (result : Except PyError (Option StoredCrdtEntry))
    (session : Session) : Prop :=
  ∀ entry, result = .ok (some entry) →
    session.view.installed = some entry ∧ errand.Leaves entry

/-- The outbox owes what the sessions of the first coroutines say. -/
def Watch.Accounts (watch : Watch) (capacity count : Nat) (outbox : Outbox) : Prop :=
  ∃ claims items, claims.Perm (watch.claims count) ∧ items.Perm (watch.items count) ∧
    OutboxLedger.Exact capacity ⟨outbox, claims, items, watch.log⟩

/-- What the watch says about the node. -/
structure Watched (deployment : Deployment) (id : NodeId) (system : NodeSystem) (watch : Watch) :
    Prop where
  fresh : ∀ index, system.tasks.length ≤ index → watch.sessions index = {}
  ordered : ∀ index task, system.tasks[index]? = some task →
    InOrder deployment id task.errand.Done task.code (watch.sessions index)
  holds : ∀ index, (watch.sessions index).Holds (system.world.nodes id) index
  waiting : ∀ (number index : Nat) (job : CommitJob), system.jobs[number]? = some job →
    job.owner = some index → ∃ errand next,
      system.tasks[index]? = some ⟨errand, .act (.commitRows job.entry job.state job.commit) next⟩
  single : ∀ (first second : Nat) (job other : CommitJob) (index : Nat),
    system.jobs[first]? = some job →
    system.jobs[second]? = some other → job.owner = some index → other.owner = some index →
    first = second
  outbox : watch.Accounts deployment.queueCapacity system.tasks.length
    (system.world.nodes id).outbox

section Accounts

variable {watch : Watch} {capacity count index : Nat} {outbox : Outbox} {session : Session}
  {reservation : OutboxReservation}

/-- What one coroutine has to resolve, and what the others have. -/
theorem Watch.Accounts.split (accounts : watch.Accounts capacity count outbox)
    (listed : index < count) :
    ∃ (ledger : OutboxLedger) (claims : List OutboxReservation) (items : List PendingReplication),
      ledger.Exact capacity ∧ ledger.outbox = outbox ∧ ledger.log = watch.log ∧
      ledger.claims.Perm ((watch.sessions index).work.reserved.toList ++ claims) ∧
      ledger.items.Perm ((watch.sessions index).work.item.toList ++ items) ∧
      ∀ (session : Session) (next : OutboxLedger), next.Exact capacity →
        next.claims.Perm (session.work.reserved.toList ++ claims) →
        next.items.Perm (session.work.item.toList ++ items) →
        Watch.Accounts ⟨Function.update watch.sessions index session, next.log⟩ capacity count
          next.outbox := by
  obtain ⟨claims, items, claimed, taken, sums⟩ := accounts
  obtain ⟨others, claiming⟩ :=
    exists_contributions index (·.work.reserved) listed watch.sessions
  obtain ⟨further, taking⟩ := exists_contributions index (·.work.item) listed watch.sessions
  have same := Function.update_eq_self index watch.sessions
  have first := claiming (watch.sessions index)
  have second := taking (watch.sessions index)
  rw [same] at first second
  refine ⟨_, others, further, sums, rfl, rfl, claimed.trans first, taken.trans second, ?_⟩
  intro session next exact claims items
  exact ⟨next.claims, next.items, claims.trans (claiming session).symm,
    items.trans (taking session).symm, exact⟩

/-- An operation that is not one of the outbox. -/
theorem Watch.Accounts.keep (accounts : watch.Accounts capacity count outbox)
    (listed : index < count)
    (reserved : session.work.reserved = (watch.sessions index).work.reserved)
    (item : session.work.item = (watch.sessions index).work.item) :
    (watch.enter index session).Accounts capacity count outbox := by
  obtain ⟨ledger, claims, items, sums, rfl, logged, claimed, taken, rebuilds⟩ :=
    accounts.split listed
  have accounts := rebuilds session ledger sums (reserved ▸ claimed) (item ▸ taken)
  rw [logged] at accounts
  exact accounts

/-- A coroutine that starts has nothing to resolve. -/
theorem Watch.Accounts.start (accounts : watch.Accounts capacity count outbox)
    (work : session.work = {}) :
    (watch.enter count session).Accounts capacity (count + 1) outbox := by
  have same : ∀ {α : Type} (field : Session → Option α), field session = none →
      (List.range (count + 1)).filterMap (fun index =>
        field ((watch.enter count session).sessions index)) =
      (List.range count).filterMap fun index => field (watch.sessions index) := by
    intro α field nothing
    have last : [count].filterMap (fun index =>
        field ((watch.enter count session).sessions index)) = [] :=
      List.filterMap_cons_none (by rw [watch.sessions_enter_self, nothing])
    rw [List.range_succ, List.filterMap_append, last, List.append_nil]
    refine List.filterMap_congr fun index among => ?_
    rw [watch.sessions_enter_of_ne count (Nat.ne_of_lt (List.mem_range.mp among))]
  obtain ⟨claims, items, claimed, taken, sums⟩ := accounts
  refine ⟨claims, items, claimed.trans (.of_eq ?_), taken.trans (.of_eq ?_), sums⟩
  · exact (same (·.work.reserved) (by rw [work])).symm
  · exact (same (·.work.item) (by rw [work])).symm

/-- The snapshot of a key is there for a reservation of that key. -/
theorem covered_singleton (keyed : ∀ pair ∈ reservation.pairs, (ofLex pair).2 = entry.key) :
    OutboxLedger.Covered reservation (.ofList [(entry.key, entry)]) := by
  intro pair listed
  have found : (SortedMap.ofList [(entry.key, entry)]).get? entry.key = some entry := by
    refine SortedMap.get?_ofList_of_mem ?_ (.head _)
    exact List.nodup_singleton entry.key
  rw [keyed pair listed, found]
  rfl

theorem exists_of_reserve {pairs : List Pair}
    (gives : Except.ok reservation = (outbox.reserve pairs).map Prod.fst) :
    ∃ after, outbox.reserve pairs = .ok (reservation, after) := by
  cases reserved : outbox.reserve pairs with
  | error error =>
      rw [reserved] at gives
      cases gives
  | ok result =>
      rw [reserved] at gives
      cases gives
      exact ⟨result.2, rfl⟩

/-- The operations of the outbox. -/
def Op.ofOutbox : Op → Bool
  | .reserve _ | .cancel _ | .publish _ _ | .nextReady | .complete _ | .abandon _ => true
  | _ => false

theorem silent_of_not_outbox (node : Node) (session : Session) {op : Op} (answer : op.Answer)
    (other : op.ofOutbox = false) :
    (node.after index op answer).outbox = node.outbox ∧ op.events answer = [] ∧
      (session.next op answer).work.reserved = session.work.reserved ∧
      (session.next op answer).work.item = session.work.item := by
  cases op with
  | reserve | cancel | publish | nextReady | complete | abandon => cases other
  | get key =>
      refine ⟨rfl, rfl, ?_⟩
      unfold Session.next
      dsimp only
      split <;> exact ⟨rfl, rfl⟩
  | replace entry expectedType commit | commitRows entry state commit =>
      cases answer <;> exact ⟨rfl, rfl, rfl, rfl⟩
  | _ => exact ⟨rfl, rfl, rfl, rfl⟩

/-- An operation keeps the accounts of the outbox, and a reservation that is published is
still there. -/
theorem Watch.Accounts.after {node : Node} {replies : List Delivery} {op : Op} {answer : op.Answer}
    (accounts : watch.Accounts capacity count node.outbox) (listed : index < count)
    (guard : (watch.sessions index).Guard deployment id op)
    (gives : node.Gives index replies op answer) :
    (watch.after index op answer).Accounts capacity count (node.after index op answer).outbox ∧
      ∀ reservation entry, op = .publish reservation entry →
        (node.outbox.publish reservation (.ofList [(entry.key, entry)])).1 = .ok () := by
  by_cases other : op.ofOutbox = false
  · obtain ⟨kept, unlogged, reserved, item⟩ :=
      silent_of_not_outbox node (watch.sessions index) answer other
    have later := accounts.keep listed reserved item
    refine ⟨?_, fun reservation entry same => ?_⟩
    · rw [kept, Watch.after, unlogged]
      exact later
    · rw [same] at other
      cases other
  obtain ⟨ledger, claims, items, sums, same, logged, claimed, taken, rebuilds⟩ :=
    accounts.split listed
  cases op with
  | reserve pairs =>
      refine ⟨?_, by rintro _ _ ⟨⟩⟩
      have clear : (watch.sessions index).work.reserved = none := guard
      cases answer with
      | error error =>
          have kept : (node.after index (.reserve pairs) (.error error)).outbox = node.outbox := by
            cases reserved : node.outbox.reserve pairs with
            | error _ => simp only [Node.after, reserved]
            | ok result =>
                change Except.error error = (node.outbox.reserve pairs).map Prod.fst at gives
                rw [reserved] at gives
                cases gives
          rw [kept]
          exact accounts.keep listed rfl rfl
      | ok reservation =>
          obtain ⟨outbox, reserved⟩ := exists_of_reserve gives
          have next : (node.after index (.reserve pairs) (.ok reservation)).outbox = outbox := by
            simp only [Node.after, reserved]
          rw [clear] at claimed
          rw [next]
          have built := rebuilds ((watch.sessions index).next (.reserve pairs) (.ok reservation)) _
            (sums.reserve (same ▸ reserved)) (claimed.cons reservation) taken
          rw [logged] at built
          exact built
  | cancel reservation =>
      refine ⟨?_, by rintro _ _ ⟨⟩⟩
      have held : (watch.sessions index).work.reserved = some reservation := guard
      rw [held] at claimed
      have built := rebuilds ((watch.sessions index).next (.cancel reservation) answer) _
        (sums.cancel claimed) (.refl _) taken
      rw [logged, same] at built
      exact built
  | publish reservation entry =>
      have held : (watch.sessions index).work.reserved = some reservation := guard.1
      rw [held] at claimed
      obtain ⟨published, next⟩ := sums.publish claimed (covered_singleton guard.2)
      rw [same] at published next
      have built := rebuilds ((watch.sessions index).next (.publish reservation entry) (.ok ())) _
        next (.refl _) taken
      refine ⟨?_, by rintro _ _ ⟨⟩; exact published⟩
      cases (gives.trans published : answer = .ok ())
      rw [logged] at built
      exact built
  | nextReady =>
      refine ⟨?_, by rintro _ _ ⟨⟩⟩
      obtain ⟨outbox, ready⟩ := gives
      have none : (watch.sessions index).work.item = none := guard.2
      obtain ⟨item, rfl, _, _, next⟩ := sums.nextReady (same ▸ ready)
      have after : (node.after index .nextReady (some item)).outbox = outbox := by
        simp only [Node.after, ready]
      rw [none] at taken
      rw [after]
      have built := rebuilds ((watch.sessions index).next .nextReady (some item)) _ next claimed
        (taken.cons item)
      rw [logged] at built
      exact built
  | complete item | abandon item =>
      refine ⟨?_, by rintro _ _ ⟨⟩⟩
      have held : (watch.sessions index).work.item = some item := guard
      rw [held] at taken
      have built := rebuilds { watch.sessions index with
        work := { (watch.sessions index).work with item := none } } _ (sums.resolve taken) claimed
        (.refl _)
      rw [logged, same] at built
      exact built
  | _ => exact absurd rfl other

end Accounts

section Legal

variable {system after : NodeSystem} {watch : Watch} {index : Nat}

/-- What follows an entry is of its type. -/
theorem Session.Follows.types {read : Option StoredCrdtEntry} {commit : Option Mutation}
    (follows : Follows deployment id read entry commit) {old : StoredCrdtEntry}
    (found : read = some old) : old.crdtType = entry.crdtType := by
  cases commit with
  | none => exact (follows old found).crdtType.symm
  | some mutation =>
      obtain ⟨rfl, rfl, made⟩ := follows
      exact (made.found old found).2.trans (applied_of_applyMutation made.applies).types.2.symm

/-- A task is one of the first. -/
theorem lt_of_task {task : NodeTask} (found : system.tasks[index]? = some task) :
    index < system.tasks.length :=
  (List.getElem?_eq_some_iff.mp found).1

section

variable {errand : Errand} {op : Op} {next : op.Answer → Code (Option StoredCrdtEntry)}
  {answer : op.Answer}

/-- What a coroutine does next keeps to the protocol. -/
theorem Watched.guard (watched : Watched deployment id system watch)
    (task : system.tasks[index]? = some ⟨errand, .act op next⟩) :
    (watch.sessions index).Guard deployment id op :=
  (watched.ordered index _ task).guard

/-- The coroutine is given answers that it may count on. -/
theorem Watched.legal (watched : Watched deployment id system watch)
    (task : system.tasks[index]? = some ⟨errand, .act op next⟩)
    (ran : Ran id system index op answer after) : (watch.sessions index).Legal op answer := by
  have guard := watched.guard task
  have gives := ran.gives
  cases op with
  | get key =>
      cases gives
      exact fun found stored => Store.key_of_get stored
  | replace entry expectedType commit =>
      intro row
      rcases guard with ⟨_, read, _, rowless, _⟩ | ⟨_, read, commit, held, _, expected, follows⟩
      · cases rowless.symm.trans row
      · have stored : (system.world.nodes id).store.get entry.key = read :=
          (watched.holds index).read entry.key read held
        have types : ∀ existing, (system.world.nodes id).store.get entry.key = some existing →
            existing.crdtType = entry.crdtType :=
          fun existing found => follows.types (stored.symm.trans found)
        have replaced := Store.replace_of_types
          (fun crdtType same => by cases expected.symm.trans same; rfl)
          types
        exact gives.trans (congrArg (Except.map fun _ => ()) replaced)
  | reserve pairs =>
      rintro reservation rfl pair listed
      obtain ⟨outbox, reserved⟩ := exists_of_reserve gives
      exact ((Outbox.reserves_of_reserve reserved).mem_pairs pair).mp listed
  | publish reservation entry =>
      have published := (watched.outbox.after (lt_of_task task) guard gives).2 reservation entry rfl
      exact gives.trans published
  | _ => exact trivial

end

end Legal

end Distsys
