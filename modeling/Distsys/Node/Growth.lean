import Distsys.Node.Watched

/-!
# Entries that are retained

An entry of a store is only ever replaced by one that retains what it holds. A register
payload is retained if the context of its entry accounts for its dot: a payload that no
context accounts for can be written over. What a coroutine has stored, committed and
acknowledged is retained by the store from then on.
-/

namespace Distsys

variable {old entry : StoredCrdtEntry} {commit : Option Mutation}

/-- The later entry of the key holds what the earlier one does, as far as the context of the
earlier one accounts for it. -/
structure StoredCrdtEntry.Retained (old entry : StoredCrdtEntry) : Prop where
  key : entry.key = old.key
  crdtType : entry.crdtType = old.crdtType
  stateVersion : old.stateVersion ≤ entry.stateVersion
  causalContext : old.causalContext ≤ entry.causalContext
  positive : old.state.content.positive ≤ entry.state.content.positive
  negative : old.state.content.negative ≤ entry.state.content.negative
  adds : old.state.content.adds ≤ entry.state.content.adds
  tombstones : old.state.content.tombstones ⊆ entry.state.content.tombstones
  payloads : ∀ dot payload, (dot, payload) ∈ old.state.content.payloads →
    old.causalContext.Covers dot → (dot, payload) ∈ entry.state.content.payloads

namespace StoredCrdtEntry

theorem Grown.retained (grown : old.Grown entry) :
    old.Retained entry where
  key := grown.key
  crdtType := grown.crdtType
  stateVersion := grown.stateVersion
  causalContext := grown.causalContext
  positive := grown.content.1
  negative := grown.content.2.1
  adds := grown.content.2.2.1
  tombstones := grown.content.2.2.2.1
  payloads _ _ stored _ := grown.content.2.2.2.2 stored

theorem Retained.refl (entry : StoredCrdtEntry) : entry.Retained entry :=
  (Grown.refl entry).retained

theorem Retained.trans {first second third : StoredCrdtEntry} (early : first.Retained second)
    (late : second.Retained third) : first.Retained third where
  key := late.key.trans early.key
  crdtType := late.crdtType.trans early.crdtType
  stateVersion := early.stateVersion.trans late.stateVersion
  causalContext := early.causalContext.trans late.causalContext
  positive := early.positive.trans late.positive
  negative := early.negative.trans late.negative
  adds := early.adds.trans late.adds
  tombstones := early.tombstones.trans late.tombstones
  payloads dot payload stored covered :=
    late.payloads dot payload (early.payloads dot payload stored covered)
      (covered.mono early.causalContext)

/-- The context of the entry accounts for every payload. -/
def Accounted (entry : StoredCrdtEntry) : Prop :=
  ∀ dot payload, (dot, payload) ∈ entry.state.content.payloads → entry.causalContext.Covers dot

/-- An entry that accounts for its payloads is contained in whatever retains it. -/
theorem Retained.grown (retained : old.Retained entry) (accounted : old.Accounted) :
    old.Grown entry where
  key := retained.key
  crdtType := retained.crdtType
  stateVersion := retained.stateVersion
  causalContext := retained.causalContext
  content := ⟨retained.positive, retained.negative, retained.adds, retained.tombstones,
    fun item stored => retained.payloads item.1 item.2 stored (accounted item.1 item.2 stored)⟩

end StoredCrdtEntry

theorem Tally.le_put_add {α : Type} [LinearOrder α] (tally : Tally α) (key : α) (amount : Nat) :
    tally ≤ tally.put key (tally.get key + amount) := by
  refine Tally.le_def.mpr fun query => ?_
  rw [Tally.get_put]
  split
  · next same =>
    subst same
    exact Nat.le_add_right _ _
  · exact le_rfl

/-- What a mutation keeps of the state that it is applied to: everything but the payload of its
own dot. -/
structure CrdtState.Kept (dot : Dot) (old state : CrdtState) : Prop where
  positive : old.content.positive ≤ state.content.positive
  negative : old.content.negative ≤ state.content.negative
  adds : old.content.adds ≤ state.content.adds
  tombstones : old.content.tombstones ⊆ state.content.tombstones
  payloads : ∀ other payload, (other, payload) ∈ old.content.payloads → other ≠ dot →
    (other, payload) ∈ state.content.payloads

theorem Applied.kept {actor : CausalActor} {request : CrdtMutationData} {dot : Dot}
    {old state : CrdtState} (applied : Applied actor request dot old state) :
    CrdtState.Kept dot old state := by
  cases applied with
  | increment counter type operation =>
      exact ⟨Tally.le_put_add _ _ _, le_rfl, le_rfl, subset_rfl, fun _ _ stored _ => stored⟩
  | increase counter type operation =>
      exact ⟨Tally.le_put_add _ _ _, le_rfl, le_rfl, subset_rfl, fun _ _ stored _ => stored⟩
  | decrease counter type operation =>
      exact ⟨le_rfl, Tally.le_put_add _ _ _, le_rfl, subset_rfl, fun _ _ stored _ => stored⟩
  | add set element type operation value =>
      refine ⟨le_rfl, le_rfl, ?_, subset_rfl, fun _ _ stored _ => stored⟩
      change set.addsContent ≤ (set.add element dot).addsContent
      rw [ORSet.addsContent_add]
      exact le_sup_left
  | remove set element type operation value =>
      refine ⟨le_rfl, le_rfl, le_rfl, ?_, fun _ _ stored _ => stored⟩
      change set.removed ⊆ (set.remove element).removed
      rw [ORSet.removed_remove]
      exact Finset.subset_union_left
  | write register type operation =>
      refine ⟨le_rfl, le_rfl, le_rfl, ?_, fun other payload stored differs => ?_⟩
      · change register.superseded ⊆ (register.write request.value dot).superseded
        rw [MVRegister.superseded_write]
        exact Finset.subset_union_left
      · change (register.values.insert dot _).get? other = some payload
        rw [SortedMap.get?_insert_of_ne _ _ (Ne.symm differs)]
        exact stored

/-- What follows the entry of a key retains it. -/
theorem Session.Follows.retained {deployment : Deployment} {id : NodeId}
    {read : Option StoredCrdtEntry} (follows : Follows deployment id read entry commit)
    (found : read = some old) :
    old.Retained entry := by
  have types := follows.types found
  cases commit with
  | none => exact (follows old found).retained
  | some mutation =>
      obtain ⟨rfl, rfl, made⟩ := follows
      have prior : mutation.prior = old.state := by rw [Mutation.prior, found]
      have version : mutation.priorVersion = old.stateVersion := by
        rw [Mutation.priorVersion, found]
      have context : mutation.priorContext = old.causalContext := by
        rw [Mutation.priorContext, found]
        rfl
      have kept := (applied_of_applyMutation made.applies).kept
      rw [prior] at kept
      refine ⟨made.key.trans (made.found old found).1.symm, types.symm, ?_, context ▸ made.context,
        kept.positive, kept.negative, kept.adds, kept.tombstones, fun dot payload stored covered =>
          kept.payloads dot payload stored ?_⟩
      · rw [made.version, version]
        exact VersionVector.le_withDot _ _
      · rintro rfl
        exact absurd covered (Nat.not_le.mpr (context ▸ made.later))

section Growth

variable {deployment : Deployment} {id : NodeId}
  {system after next : NodeSystem} {watch later : Watch} {label : NodeLabel} {session : Session}
  {index : Nat} {op : Op} {answer : op.Answer} {expectedType : Option CrdtType}

/-- The store of the node retains the entry. -/
def NodeSystem.Retains (id : NodeId) (system : NodeSystem) (entry : StoredCrdtEntry) : Prop :=
  ∃ stored, (system.world.nodes id).store.get entry.key = some stored ∧ entry.Retained stored

/-- The entries of the later store retain those of the earlier one. -/
def NodeSystem.Grows (id : NodeId) (system next : NodeSystem) : Prop :=
  ∀ key old, (system.world.nodes id).store.get key = some old →
    ∃ entry, (next.world.nodes id).store.get key = some entry ∧ old.Retained entry

theorem NodeSystem.Grows.of_store
    (same : (next.world.nodes id).store = (system.world.nodes id).store) :
    system.Grows id next := by
  intro key old found
  rw [same]
  exact ⟨old, found, .refl old⟩

theorem NodeSystem.Grows.trans {last : NodeSystem} (early : system.Grows id next)
    (late : next.Grows id last) : system.Grows id last := by
  intro key old found
  obtain ⟨entry, stored, retained⟩ := early key old found
  obtain ⟨final, there, kept⟩ := late key entry stored
  exact ⟨final, there, retained.trans kept⟩

theorem NodeSystem.Retains.grows {entry : StoredCrdtEntry} (retains : system.Retains id entry)
    (grows : system.Grows id next) : next.Retains id entry := by
  obtain ⟨stored, found, retained⟩ := retains
  obtain ⟨later, there, kept⟩ := grows entry.key stored found
  exact ⟨later, there, retained.trans kept⟩

/-- The operations that write. -/
def Op.writes : Op → Bool
  | .replace .. | .commitRows .. => true
  | _ => false

/-- An operation that is not one of the store leaves it alone. -/
theorem Node.store_after (node : Node) (index : Nat) (answer : op.Answer)
    (reads : op.writes = false) : (node.after index op answer).store = node.store := by
  cases op with
  | replace | commitRows => cases reads
  | reserve pairs | nextReady =>
      unfold Node.after
      dsimp only
      split <;> rfl
  | _ => rfl

/-- An operation that writes, and is no commit, replaces an entry. -/
theorem Ran.eq_replace (ran : Ran id system index op answer after) (writes : ¬ op.writes = false) :
    ∃ entry expectedType commit, op = .replace entry expectedType commit := by
  cases op with
  | replace entry expectedType commit => exact ⟨entry, expectedType, commit, rfl⟩
  | commitRows entry state commit => exact absurd rfl (ran.plain entry state commit)
  | _ => exact absurd rfl writes

/-- The entry of a key stays when no other one is stored under it. -/
theorem Ran.get_of_spared {key : PyStr} (ran : Ran id system index op answer after)
    (spares : ∀ entry expectedType commit, op = .replace entry expectedType commit →
      entry.key ≠ key) :
    (after.world.nodes id).store.get key = (system.world.nodes id).store.get key := by
  rw [ran.node]
  by_cases reads : op.writes = false
  · rw [Node.store_after _ _ _ reads]
  · obtain ⟨entry, expectedType, commit, rfl⟩ := ran.eq_replace reads
    cases answer with
    | error error => rfl
    | ok stored => exact Store.get_put_of_ne _ (spares entry expectedType commit rfl)

/-- The entry that a coroutine has stored is in the store. -/
theorem Ran.stores (ran : Ran id system index (.replace entry expectedType commit) (.ok ()) after) :
    (after.world.nodes id).store.get entry.key = some entry := by
  rw [ran.node]
  exact Store.get_put_self _ _

theorem Ran.retains (ran : Ran id system index (.replace entry expectedType commit) (.ok ()) after)
    {tasks : List NodeTask} : NodeSystem.Retains id { after with tasks } entry :=
  ⟨entry, ran.stores, .refl entry⟩

/-- What is in the history stays there. -/
theorem Moves.remembers (moves : Moves deployment id label system watch next later)
    {mutation : Mutation} (member : mutation ∈ system.world.ledger.history) :
    mutation ∈ next.world.ledger.history := by
  cases moves with
  | run task ran =>
      dsimp only
      rw [ran.history]
      exact List.mem_append_left _ member
  | finish found unfinished =>
      rw [World.ledger_atNode, World.history_record]
      exact List.mem_append_left _ member
  | start | arrive | launch | reject | leave => exact member

/-- An entry that a coroutine may store follows the one that is there. -/
theorem Watched.follows (watched : Watched deployment id system watch)
    (guard : (watch.sessions index).Guard deployment id (.replace entry expectedType commit)) :
    ∃ committed, Session.Follows deployment id ((system.world.nodes id).store.get entry.key) entry
      committed := by
  rcases guard with ⟨_, read, held, _, follows, _⟩ | ⟨_, read, committed, held, _, _, follows⟩
  · exact ⟨commit, (watched.holds index).read _ _ held ▸ follows⟩
  · exact ⟨committed, (watched.holds index).read _ _ held ▸ follows⟩

/-- Every step of the node retains its entries. -/
theorem Watched.grows (watched : Watched deployment id system watch)
    (moves : Moves deployment id label system watch next later) : system.Grows id next := by
  cases moves with
  | start | arrive | launch | reject | leave => exact .of_store rfl
  | finish found unfinished =>
      refine .of_store ?_
      dsimp only
      rw [World.nodes_atNode_self, World.nodes_record]
      rfl
  | @run index choice _ after _ errand op rest answer task ran =>
      by_cases reads : op.writes = false
      · refine .of_store ?_
        change (after.world.nodes id).store = _
        rw [ran.node]
        exact Node.store_after _ index answer reads
      · intro key old found
        change ∃ entry, (after.world.nodes id).store.get key = some entry ∧ _
        obtain ⟨entry, expectedType, commit, rfl⟩ := ran.eq_replace reads
        rw [ran.node]
        cases answer with
        | error error => exact ⟨old, found, .refl old⟩
        | ok stored =>
            rw [Node.after, Node.put, Store.get_put]
            split
            · next same =>
              subst same
              obtain ⟨committed, follows⟩ := watched.follows (watched.guard task)
              exact ⟨entry, rfl, follows.retained found⟩
            · exact ⟨old, found, .refl old⟩

/-- The mutation that a coroutine has committed is retained. A mutation on the disk that is not
in memory yet is the row of its coroutine. -/
def Session.Kept (deployment : Deployment) (id : NodeId) (system : NodeSystem)
    (session : Session) : Prop :=
  ∀ mutation, session.work.committed = some mutation →
    mutation ∈ system.world.ledger.history ∧ mutation.Made deployment id ∧
      (system.Retains id mutation.after ∨ session.locks.row = some mutation.after)

/-- What was acknowledged is retained. -/
def NodeSystem.Honours (deployment : Deployment) (id : NodeId) (system : NodeSystem)
    (item : Acknowledged) : Prop :=
  item.node = id ∧ ∃ mutation ∈ system.world.ledger.history, mutation.dot = item.dot ∧
    mutation.key = item.key ∧ mutation.Made deployment id ∧ system.Retains id mutation.after

/-- What the coroutines have committed and acknowledged is retained. -/
structure Growth (deployment : Deployment) (id : NodeId) (system : NodeSystem) (watch : Watch) :
    Prop where
  sessions : ∀ index, (watch.sessions index).Kept deployment id system
  finished : ∀ job ∈ system.jobs, job.outcome = some (.ok ()) → ∀ mutation,
    job.commit = some mutation → mutation ∈ system.world.ledger.history
  acknowledged : ∀ item ∈ system.world.ledger.acknowledged, system.Honours deployment id item

theorem Session.Kept.mono (kept : session.Kept deployment id system) (grows : system.Grows id next)
    (history : ∀ mutation ∈ system.world.ledger.history, mutation ∈ next.world.ledger.history) :
    session.Kept deployment id next := by
  intro mutation found
  obtain ⟨member, made, held⟩ := kept mutation found
  exact ⟨history mutation member, made, held.imp_left fun retains => retains.grows grows⟩

theorem Session.Kept.congr {other : Session} (kept : session.Kept deployment id system)
    (committed : other.work.committed = session.work.committed)
    (row : other.locks.row = session.locks.row) : other.Kept deployment id system := by
  unfold Session.Kept
  rw [committed, row]
  exact kept

theorem NodeSystem.Honours.mono {item : Acknowledged} (honours : system.Honours deployment id item)
    (grows : system.Grows id next)
    (history : ∀ mutation ∈ system.world.ledger.history, mutation ∈ next.world.ledger.history) :
    next.Honours deployment id item := by
  obtain ⟨node, mutation, member, dot, key, made, retains⟩ := honours
  exact ⟨node, mutation, history mutation member, dot, key, made, retains.grows grows⟩

theorem unwritten_of_not_writes (session : Session) (answer : op.Answer)
    (reads : op.writes = false) :
    (session.next op answer).view.installed = session.view.installed ∧
      (session.next op answer).work.committed = session.work.committed ∧
      (session.next op answer).locks.row = session.locks.row ∧ op.commits answer = none := by
  cases op with
  | replace | commitRows => cases reads
  | get key =>
      unfold Session.next
      dsimp only
      split <;> exact ⟨rfl, rfl, rfl, rfl⟩
  | reserve pairs | publish reservation entry => cases answer <;> exact ⟨rfl, rfl, rfl, rfl⟩
  | _ => exact ⟨rfl, rfl, rfl, rfl⟩

/-- The session of a coroutine that has stored an entry. -/
theorem Session.Kept.stored
    (kept : session.Kept deployment id next)
    (guard : session.Guard deployment id (.replace entry expectedType commit))
    (retains : next.Retains id entry)
    (history : ∀ mutation, commit = some mutation → mutation ∈ next.world.ledger.history) :
    (session.stored entry commit).Kept deployment id next := by
  intro mutation found
  change commit.or session.work.committed = some mutation at found
  cases commit with
  | some committed =>
      cases found
      rcases guard with ⟨_, read, _, _, follows, _⟩ | ⟨none, _⟩
      · obtain ⟨_, rfl, made⟩ := follows
        exact ⟨history _ rfl, made, .inl retains⟩
      · cases none
  | none =>
      obtain ⟨member, made, retained | row⟩ := kept mutation found
      · exact ⟨member, made, .inl retained⟩
      · refine ⟨member, made, .inl ?_⟩
        rcases guard with ⟨_, _, _, rowless, _⟩ | ⟨_, _, _, _, there, _⟩
        · cases rowless.symm.trans row
        · cases there.symm.trans row
          exact retains

/-- The session of a coroutine after its commit. -/
theorem Session.Kept.committing {state : DurableCausalState}
    (kept : session.Kept deployment id system)
    (guard : session.Guard deployment id (.commitRows entry state commit))
    {result : Except PyError Unit} (history : result = .ok () → ∀ mutation, commit = some mutation →
      mutation ∈ system.world.ledger.history) :
    (session.next (.commitRows entry state commit) result).Kept deployment id system := by
  obtain ⟨_, ⟨read, held, rowless, follows, _⟩, _⟩ := guard
  cases result with
  | error error => exact kept
  | ok done =>
      intro mutation found
      change commit.or session.work.committed = some mutation at found
      cases commit with
      | some committed =>
          cases found
          obtain ⟨_, rfl, made⟩ := follows
          exact ⟨history rfl _ rfl, made, .inr rfl⟩
      | none =>
          obtain ⟨member, made, retained | row⟩ := kept mutation found
          · exact ⟨member, made, .inl retained⟩
          · cases rowless.symm.trans row

/-- The sessions after an operation of a coroutine, given the one that it leaves. -/
theorem Watch.kept_after
    (own : ((watch.sessions index).next op answer).Kept deployment id next)
    (others : ∀ other, (watch.sessions other).Kept deployment id next) (other : Nat) :
    ((watch.after index op answer).sessions other).Kept deployment id next := by
  by_cases same : other = index
  · subst same
    rw [watch.sessions_after_self]
    exact own
  · rw [watch.sessions_after_of_ne index same]
    exact others other

/-- An operation of a coroutine. -/
theorem Growth.run (growth : Growth deployment id system watch)
    (watched : Watched deployment id system watch) {errand : Errand}
    {rest : op.Answer → Code (Option StoredCrdtEntry)}
    (task : system.tasks[index]? = some ⟨errand, .act op rest⟩)
    (ran : Ran id system index op answer after)
    (moves : Moves deployment id label system watch
      { after with tasks := after.tasks.set index ⟨errand, rest answer⟩ }
      (watch.after index op answer)) :
    Growth deployment id { after with tasks := after.tasks.set index ⟨errand, rest answer⟩ }
      (watch.after index op answer) := by
  have guard := watched.guard task
  have grows := watched.grows moves
  have before : ∀ other, (watch.sessions other).Kept deployment id _ := fun other =>
    (growth.sessions other).mono grows fun _ => moves.remembers
  refine ⟨Watch.kept_after ?_ before, ?_, ?_⟩
  · by_cases reads : op.writes = false
    · obtain ⟨_, committed, row, _⟩ :=
        unwritten_of_not_writes (watch.sessions index) answer reads
      exact (before index).congr committed row
    · obtain ⟨entry, expectedType, commit, rfl⟩ := ran.eq_replace reads
      cases answer with
      | error error => exact before index
      | ok stored =>
          refine (before index).stored guard ran.retains ?_
          rintro mutation rfl
          change mutation ∈ after.world.ledger.history
          rw [ran.history]
          exact List.mem_append_right _ List.mem_cons_self
  · intro job listed finished mutation committed
    change job ∈ after.jobs at listed
    rw [ran.jobs] at listed
    exact moves.remembers (growth.finished job listed finished mutation committed)
  · intro item listed
    change item ∈ after.world.ledger.acknowledged at listed
    rw [ran.acknowledged] at listed
    rcases List.mem_append.mp listed with listed | listed
    · exact (growth.acknowledged item listed).mono grows fun _ => moves.remembers
    · cases op with
      | acknowledge stated =>
          cases List.mem_singleton.mp listed
          obtain ⟨node, rowless, mutation, committed, dot, key⟩ := guard
          obtain ⟨member, made, retained | row⟩ := before index mutation committed
          · exact ⟨node, mutation, member, dot, key, made, retained⟩
          · cases rowless.symm.trans row
      | _ => cases listed

/-- Every step of the node retains what was stored, committed and acknowledged. -/
theorem Growth.moves (growth : Growth deployment id system watch)
    (watched : Watched deployment id system watch)
    (moves : Moves deployment id label system watch next later) :
    Growth deployment id next later := by
  have grows := watched.grows moves
  have before : ∀ other, (watch.sessions other).Kept deployment id next := fun other =>
    (growth.sessions other).mono grows fun _ => moves.remembers
  have finished : ∀ job ∈ system.jobs, job.outcome = some (.ok ()) → ∀ mutation,
      job.commit = some mutation → mutation ∈ next.world.ledger.history :=
    fun job listed done mutation committed =>
      moves.remembers (growth.finished job listed done mutation committed)
  have acknowledged : ∀ item ∈ system.world.ledger.acknowledged, next.Honours deployment id item :=
    fun item listed => (growth.acknowledged item listed).mono grows fun _ => moves.remembers
  cases moves with
  | run task ran raised => exact growth.run watched task ran (.run task ran raised)
  | start errand =>
      refine ⟨fun other => ?_, finished, acknowledged⟩
      by_cases same : other = system.tasks.length
      · subst same
        rw [watch.sessions_enter_self]
        intro mutation found
        cases errand <;> cases found
      · rw [watch.sessions_enter_of_ne _ same]
        exact before other
  | arrive delivery => exact ⟨before, finished, acknowledged⟩
  | launch task idle =>
      refine ⟨before, fun job listed done => ?_, acknowledged⟩
      rcases List.mem_concat_cases listed with listed | rfl
      · exact finished job listed done
      · cases done
  | reject found unfinished =>
      refine ⟨before, fun job listed done => ?_, acknowledged⟩
      rcases List.mem_or_eq_of_mem_set listed with listed | rfl
      · exact finished job listed done
      · cases done
  | @finish number _ _ job found unfinished =>
      refine ⟨before, fun other listed done mutation committed => ?_, fun item listed => ?_⟩
      · rcases List.mem_or_eq_of_mem_set listed with listed | rfl
        · exact finished other listed done mutation committed
        · rw [World.ledger_atNode, World.history_record]
          exact List.mem_append_right _ (Option.mem_toList.mpr committed)
      · refine acknowledged item ?_
        have said : (system.world.record id job.commit).ledger.acknowledged =
            system.world.ledger.acknowledged := by
          cases job.commit <;> rfl
        exact said ▸ listed
  | @leave _ index number _ _ errand entry state commit rest job result task found owned left =>
      obtain ⟨_, _, waits⟩ := watched.waiting number index job found owned
      cases task.symm.trans waits
      have listed := List.mem_of_getElem? found
      refine ⟨Watch.kept_after ?_ before, fun other among done => ?_, acknowledged⟩
      · refine (before index).committing (watched.guard task) ?_
        rintro rfl
        rcases left with finished | cancelled
        · exact growth.finished job listed finished
        · cases cancelled.1
      · rcases List.mem_or_eq_of_mem_set among with among | rfl
        · exact finished other among done
        · exact finished job listed done

theorem growth_initial (deployment : Deployment) (id : NodeId) :
    Growth deployment id (.initial deployment) {} where
  sessions index := by rintro _ ⟨⟩
  finished job listed := by cases listed
  acknowledged item listed := by cases listed

end Growth

end Distsys
