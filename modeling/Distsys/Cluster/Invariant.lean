import Distsys.Cluster.Sound

/-!
# The invariant of a cluster and what its coroutines rely on

The invariant says of every node that its entries, its outbox and its clock are
sound, and of a durable node how its tables relate to its memory. Between its
operations a coroutine relies on the past, the versions of its node and the clock in
its tables only to grow, and on whatever it holds a lock for to stay.
-/

namespace Distsys

/-- What the world has committed so far. -/
def World.past (world : World) : Past := ⟨world.ledger.history, world.ledger.honest⟩

/-- The state version stored under a key. -/
def Node.version (node : Node) (key : PyStr) : VersionVector :=
  (node.store.get key).elim ⊥ (·.stateVersion)

section

variable (deployment : Deployment) (discipline : Discipline) (id : NodeId)

/-- No commit of the node waits for its clock. -/
structure Node.Settled (unclocked : Option Dot) (node : Node) : Prop where
  unclocked : unclocked = none
  frontier : deployment.durable id = true → node.frontier = node.repository.frontier

/-- What the invariant says of a node. -/
structure Node.Sound (past : Past) (unclocked : Option Dot) (node : Node) : Prop where
  entries : ∀ key entry, node.store.get key = some entry →
    entry.Sound deployment.json discipline past
  outbox : ∀ entry, node.outbox.Holds entry → entry.Sound deployment.json discipline past
  frontier : past.Knows node.frontier
  settled : node.clockHolder = none → node.Settled deployment id unclocked
  counted : past.honest = true → unclocked = none →
    node.frontier.get (deployment.actor id) = past.history.count (deployment.actor id)
  own : past.honest = true → ∀ mutation ∈ past.history,
    mutation.actor = deployment.actor id → unclocked ≠ some mutation.dot →
    (node.version mutation.key).Covers mutation.dot

/-- What the invariant says of a durable node. -/
structure Node.Durable (history : History) (acknowledged : List Acknowledged)
    (durable : deployment.durable id = true) (node : Node) : Prop where
  consistent : node.repository.Consistent deployment.json (deployment.identity id durable)
  synced : ∀ key, node.keyHolder key = none →
    node.repository.entry deployment.json key = node.store.get key
  below : ∀ key entry, node.repository.entry deployment.json key = some entry →
    entry.causalContext ≤ node.repository.frontier
  memory : ∀ key entry, node.store.get key = some entry →
    entry.causalContext ≤ node.repository.frontier
  committed : ∀ mutation ∈ history, mutation.actor = deployment.actor id →
    (∃ entry, node.repository.entry deployment.json mutation.key = some entry ∧
      entry.stateVersion.Covers mutation.dot) ∧
    node.repository.frontier.Covers mutation.dot
  acknowledged : ∀ item ∈ acknowledged, item.node = id →
    item.counter ≤ node.repository.frontier.get (deployment.actor id) ∧
      ∃ mutation ∈ history, mutation.actor = deployment.actor id ∧
        mutation.key = item.key ∧ mutation.dot = item.dot

/-- What the invariant says of a read that was answered. -/
structure Served.Sound (past : Past) (served : Served) : Prop where
  copy : ∀ entry, served.copy = some entry →
    entry.key = served.request.key ∧ entry.Sound deployment.json discipline past
  token : past.Knows served.request.causalToken.version
  backed : past.Backs discipline served.request.key
    (served.copy.elim ⊥ (·.stateVersion)) served.request.causalToken.version

/-- The invariant. -/
structure World.Inv (world : World) : Prop where
  dense : world.past.honest = true → world.past.history.Dense
  mutations : ∀ mutation ∈ world.past.history, mutation.Sound deployment discipline world.past
  nodes : ∀ id, (world.nodes id).Sound deployment discipline id world.past
    (world.ledger.unclocked id)
  durable : ∀ id durable, (world.nodes id).Durable deployment id world.past.history
    world.ledger.acknowledged durable
  requests : ∀ envelope ∈ world.requests,
    envelope.request.Sound deployment.json discipline world.past
  replies : ∀ delivery ∈ world.replies, ∃ envelope,
    world.requests[delivery.correlation]? = some envelope ∧
      delivery.reply.Sound deployment.json discipline world.past envelope.request
  served : ∀ served ∈ world.ledger.served, served.Sound deployment discipline world.past
  aborted : world.past.honest = true → ∀ item ∈ world.ledger.aborted,
    item.committed <+: world.past.history ∧
      item.dot.counter = History.count item.committed item.dot.actor + 1

/-- What only grows, as a coroutine of the node sees it. -/
structure World.Progress (before after : World) : Prop where
  past : before.past.Grows after.past
  version : ∀ key, (before.nodes id).version key ≤ (after.nodes id).version key
  disk : (before.nodes id).repository.frontier ≤ (after.nodes id).repository.frontier
  requests : before.requests <+: after.requests

/-- What is under the lock of a key stays as it is. -/
structure Node.KeyKept (json : JsonReader) (key : PyStr) (before after : Node) : Prop where
  holder : after.keyHolder key = before.keyHolder key
  stored : after.store.get key = before.store.get key
  row : after.repository.entry json key = before.repository.entry json key

/-- What is under the lock of the clock stays as it is. -/
structure World.ClockKept (before after : World) : Prop where
  holder : (after.nodes id).clockHolder = (before.nodes id).clockHolder
  frontier : (after.nodes id).frontier = (before.nodes id).frontier
  disk : (after.nodes id).repository.frontier = (before.nodes id).repository.frontier
  unclocked : after.ledger.unclocked id = before.ledger.unclocked id
  count : after.past.history.count (deployment.actor id) =
    before.past.history.count (deployment.actor id)

/-- What a coroutine relies on between its operations. -/
structure World.Rely (thread : Thread) (before after : World) : Prop where
  progress : World.Progress thread.node before after
  key : ∀ key, (before.nodes thread.node).keyHolder key = some thread.index →
    Node.KeyKept deployment.json key (before.nodes thread.node) (after.nodes thread.node)
  clock : (before.nodes thread.node).clockHolder = some thread.index →
    World.ClockKept deployment thread.node before after

/-- What one operation of a coroutine may do to the others. -/
structure World.Confined (thread : Thread) (before after : World) : Prop where
  progress : World.Progress thread.node before after
  elsewhere : ∀ id, id ≠ thread.node → after.nodes id = before.nodes id ∧
    after.ledger.unclocked id = before.ledger.unclocked id ∧
    after.past.history.count (deployment.actor id) =
      before.past.history.count (deployment.actor id)
  keys : ∀ key holder, (before.nodes thread.node).keyHolder key = some holder →
    holder ≠ thread.index →
    Node.KeyKept deployment.json key (before.nodes thread.node) (after.nodes thread.node)
  clock : ∀ holder, (before.nodes thread.node).clockHolder = some holder →
    holder ≠ thread.index → World.ClockKept deployment thread.node before after

end

section Relations

variable {deployment : Deployment}

theorem Node.KeyKept.refl (json : JsonReader) (key : PyStr) (node : Node) :
    Node.KeyKept json key node node := ⟨rfl, rfl, rfl⟩

theorem Node.KeyKept.trans {json : JsonReader} {key : PyStr} {first second third : Node}
    (early : Node.KeyKept json key first second) (late : Node.KeyKept json key second third) :
    Node.KeyKept json key first third :=
  ⟨late.holder.trans early.holder, late.stored.trans early.stored, late.row.trans early.row⟩

theorem World.ClockKept.refl (id : NodeId) (world : World) :
    World.ClockKept deployment id world world := ⟨rfl, rfl, rfl, rfl, rfl⟩

theorem World.ClockKept.trans {id : NodeId} {first second third : World}
    (early : World.ClockKept deployment id first second)
    (late : World.ClockKept deployment id second third) :
    World.ClockKept deployment id first third :=
  ⟨late.holder.trans early.holder, late.frontier.trans early.frontier,
    late.disk.trans early.disk, late.unclocked.trans early.unclocked,
    late.count.trans early.count⟩

theorem World.Progress.refl (id : NodeId) (world : World) : World.Progress id world world :=
  ⟨.refl _, fun _ => le_rfl, le_rfl, List.prefix_rfl⟩

theorem World.Progress.trans {id : NodeId} {first second third : World}
    (early : World.Progress id first second) (late : World.Progress id second third) :
    World.Progress id first third :=
  ⟨early.past.trans late.past, fun key => (early.version key).trans (late.version key),
    early.disk.trans late.disk, early.requests.trans late.requests⟩

/-- A request that was sent keeps its correlation identifier. -/
theorem World.Progress.sent {id : NodeId} {before after : World}
    (progress : World.Progress id before after) {correlation : Nat} {envelope : Envelope}
    (sent : before.requests[correlation]? = some envelope) :
    after.requests[correlation]? = some envelope := by
  obtain ⟨extra, whole⟩ := progress.requests
  obtain ⟨bound, _⟩ := List.getElem?_eq_some_iff.mp sent
  rw [← whole, List.getElem?_append_left bound, sent]

theorem World.Rely.refl (thread : Thread) (world : World) :
    World.Rely deployment thread world world :=
  ⟨.refl _ _, fun key _ => .refl _ key _, fun _ => .refl _ _⟩

theorem World.Rely.trans {thread : Thread} {first second third : World}
    (early : World.Rely deployment thread first second)
    (late : World.Rely deployment thread second third) :
    World.Rely deployment thread first third where
  progress := early.progress.trans late.progress
  key key held :=
    have kept := early.key key held
    kept.trans (late.key key (kept.holder.trans held))
  clock held :=
    have kept := early.clock held
    kept.trans (late.clock (kept.holder.trans held))

/-- A confined operation respects what every other coroutine relies on. -/
theorem World.Confined.rely {thread other : Thread} {before after : World}
    (confined : World.Confined deployment thread before after) (differs : other ≠ thread) :
    World.Rely deployment other before after := by
  by_cases node : other.node = thread.node
  · have index : other.index ≠ thread.index := by
      intro same
      obtain ⟨otherNode, otherIndex⟩ := other
      cases node
      cases same
      exact differs rfl
    refine ⟨node ▸ confined.progress, fun key held => ?_, fun held => ?_⟩
    · rw [node] at held ⊢
      exact confined.keys key other.index held index
    · rw [node] at held ⊢
      exact confined.clock other.index held index
  · obtain ⟨same, unclocked, count⟩ := confined.elsewhere other.node node
    refine ⟨⟨confined.progress.past, fun key => ?_, ?_, confined.progress.requests⟩,
      fun key _ => ?_, fun _ => ⟨?_, ?_, ?_, unclocked, count⟩⟩
    all_goals rw [same]
    exact .refl _ key _

end Relations

/-- The rules of the coroutines of a cluster whose steps meet the condition. -/
def clusterRules (deployment : Deployment) (discipline : Discipline) :
    Prog.Rules nodeSignature Thread World where
  exec thread op world answer after :=
    discipline.Allows world op ∧ ∃ choice, world.exec thread op choice = some (answer, after)
  Inv := World.Inv deployment discipline
  Progress thread := World.Progress thread.node
  Rely := World.Rely deployment
  rely_refl := World.Rely.refl
  rely_trans := World.Rely.trans
  progress_trans := World.Progress.trans
  progress_of_rely := World.Rely.progress

end Distsys
