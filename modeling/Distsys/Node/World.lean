import Distsys.Crdt.Mutation
import Distsys.Lib.Prog
import Distsys.Persistence.Repository
import Distsys.Replication.Outbox
import Distsys.Wire.Codec

/-!
# Nodes, the network and the atomic operations

The state of all nodes with the messages between them, and the operations a
coroutine of a node performs without suspending. Coroutines interleave between
operations. What a node does not decide itself is a choice of the environment:
its view of the ring, the time that is left, whether a commit or an exchange
fails, and which reply arrives.

The ledger is not part of any node. It records what has happened: the committed
mutations, the dots of mutations whose commit raised, the reads that were answered
from a local copy and the mutations that were acknowledged.
-/

namespace Distsys

/-- The configuration of a cluster. The actor of a node is its identifier with an
incarnation; the identity of a durable node is kept in its database. -/
structure Deployment where
  json : JsonReader
  incarnation : NodeId → Nat
  durable : NodeId → Bool
  settled : ∀ id, durable id = true → 1 ≤ incarnation id
  batchSize : Nat
  queueCapacity : Nat
  maxAttempts : Nat

namespace Deployment

/-- The actor of a node. -/
def actor (deployment : Deployment) (id : NodeId) : CausalActor :=
  ⟨id.val, deployment.incarnation id, NodeId.ne_nil id⟩

/-- The identity in the database of a node. -/
def identity (deployment : Deployment) (id : NodeId) (durable : deployment.durable id = true) :
    DurableNodeIdentity :=
  ⟨id, deployment.incarnation id, deployment.settled id durable⟩

/-- One actor runs at one node only. -/
theorem actor_injective (deployment : Deployment) : Function.Injective deployment.actor :=
  fun _ _ same => Subtype.ext (congrArg CausalActor.nodeId same)

end Deployment

/-- A running coroutine. -/
structure Thread where
  node : NodeId
  index : Nat
  deriving DecidableEq

/-- The messages a node handles. -/
inductive Request
  | mutate (msg : Proto.CrdtMutationRequest)
  | read (msg : Proto.CrdtReadRequest)
  | replicate (msg : Proto.CrdtReplicate)
  | fetch (msg : Proto.CrdtFetch)
  | digest (msg : Proto.CrdtDigest)

/-- The messages a node answers with. -/
inductive Reply
  | response (msg : Proto.CrdtResponse)
  | digest (msg : Proto.CrdtDigestResponse)

/-- A request on its way. Its position in the list of all requests is its
correlation identifier. -/
structure Envelope where
  target : NodeId
  request : Request

/-- A reply with the number of its request. -/
structure Delivery where
  correlation : Nat
  reply : Reply

/-- A read that was answered from the local copy, or from its absence. -/
structure Served where
  node : NodeId
  request : CrdtReadData
  copy : Option StoredCrdtEntry

/-- A mutation that was answered with success, and the counter of the clock then. -/
structure Acknowledged where
  node : NodeId
  key : PyStr
  dot : Dot
  counter : Nat

/-- The dot of a mutation whose commit raised, and the mutations committed by then. -/
structure Aborted where
  dot : Dot
  committed : List Mutation

/-- What has happened. `unclocked` holds, for each node, the dot of the mutation
between its commit and the advance of the clock. `honest` is false after a message
that no node sent or a restart. -/
structure Ledger where
  history : List Mutation := []
  unclocked : NodeId → Option Dot := fun _ => none
  aborted : List Aborted := []
  served : List Served := []
  acknowledged : List Acknowledged := []
  honest : Bool := true

/-- What one node holds. -/
structure Node where
  store : Store
  keyHolder : PyStr → Option Nat
  frontier : VersionVector
  clockHolder : Option Nat
  outbox : Outbox
  repository : Repository

namespace Node

/-- Store an entry in memory. -/
def put (node : Node) (entry : StoredCrdtEntry) : Node :=
  { node with store := node.store.put entry }

/-- Write the row of an entry and the clock row. -/
def commitRows (node : Node) (entry : StoredCrdtEntry) (state : DurableCausalState) : Node :=
  { node with repository := node.repository.commitEntryAndClock entry state }

end Node

/-- All nodes, and the messages between them. -/
structure World where
  nodes : NodeId → Node
  requests : List Envelope := []
  replies : List Delivery := []
  ledger : Ledger := {}

/-- The atomic operations. `commit` names the mutation that the write commits. -/
inductive Op
  | get (key : PyStr)
  | keys
  | snapshotAll
  | replace (entry : StoredCrdtEntry) (expectedType : Option CrdtType) (commit : Option Mutation)
  | acquireKey (key : PyStr)
  | releaseKey (key : PyStr)
  | acquireClock
  | releaseClock
  | readFrontier
  | setFrontier (frontier : VersionVector)
  | commitRows (entry : StoredCrdtEntry) (state : DurableCausalState) (commit : Option Mutation)
  | markAuthority (key : PyStr) (authoritative : Bool)
  | replicas (key : PyStr)
  | alivePeers
  | choosePeer (peers : List NodeId)
  | remaining
  | reserve (pairs : List Pair)
  | cancel (reservation : OutboxReservation)
  | publish (reservation : OutboxReservation) (entry : StoredCrdtEntry)
  | nextReady
  | complete (item : PendingReplication)
  | abandon (item : PendingReplication)
  | send (target : NodeId) (request : Request)
  | receive (correlation : Nat)
  | reply (correlation : Nat) (reply : Reply)
  | vouch (key : PyStr) (version frontier : VersionVector)
  | abort (dot : Dot)
  | serve (served : Served)
  | acknowledge (acknowledged : Acknowledged)

/-- What an operation returns; one that may raise returns the exception. -/
def Op.Answer : Op → Type
  | .get _ => Option StoredCrdtEntry
  | .keys => List PyStr
  | .snapshotAll => List StoredCrdtEntry
  | .replace .. | .commitRows .. | .markAuthority .. | .publish .. => Except PyError Unit
  | .readFrontier => VersionVector
  | .replicas _ | .alivePeers => List NodeId
  | .choosePeer _ => NodeId
  | .remaining => Nat
  | .reserve _ => Except PyError OutboxReservation
  | .nextReady => Option PendingReplication
  | .send .. => Nat
  | .receive _ => Except PyError Reply
  | .acquireKey _ | .releaseKey _ | .acquireClock | .releaseClock | .setFrontier _ | .cancel _
  | .complete _ | .abandon _ | .reply .. | .vouch .. | .abort _ | .serve _ | .acknowledge _ => Unit

/-- The operations of a node. -/
def nodeSignature : Signature := ⟨Op, Op.Answer⟩

/-- What the environment decides about an operation. -/
inductive Choice
  | nothing
  | nodes (ids : List NodeId)
  | node (id : NodeId)
  | millis (left : Nat)
  | failure (error : PyError)
  | delivery (index : Nat)

namespace World

/-- Change the state of one node. -/
def atNode (world : World) (id : NodeId) (change : Node → Node) : World :=
  { world with nodes := Function.update world.nodes id (change (world.nodes id)) }

/-- Enter a committed mutation into the ledger. -/
def record (world : World) (id : NodeId) : Option Mutation → World
  | none => world
  | some mutation =>
      { world with ledger := { world.ledger with
        history := world.ledger.history ++ [mutation]
        unclocked := Function.update world.ledger.unclocked id (some mutation.dot) } }

/-- The clock of the node has caught up with its commits. -/
def settle (world : World) (id : NodeId) : World :=
  { world with ledger := { world.ledger with
    unclocked := Function.update world.ledger.unclocked id none } }

section

variable (world : World) (id : NodeId) (change : Node → Node)

@[simp] theorem nodes_atNode_self : (world.atNode id change).nodes id = change (world.nodes id) :=
  Function.update_self ..

theorem nodes_atNode_of_ne {other : NodeId} (differs : other ≠ id) :
    (world.atNode id change).nodes other = world.nodes other :=
  Function.update_of_ne differs ..

@[simp] theorem ledger_atNode : (world.atNode id change).ledger = world.ledger := rfl

@[simp] theorem nodes_settle : (world.settle id).nodes = world.nodes := rfl

@[simp] theorem nodes_record (commit : Option Mutation) :
    (world.record id commit).nodes = world.nodes := by
  cases commit <;> rfl

theorem history_record (commit : Option Mutation) :
    (world.record id commit).ledger.history = world.ledger.history ++ commit.toList := by
  cases commit with
  | none => exact (List.append_nil _).symm
  | some mutation => rfl

end

end World

/-- One operation of a thread, under a choice of the environment; `none` when it
cannot take place now. An exchange may raise anything: besides the failures of the transport,
`open_connection` raises what the name of a host cannot be encoded with. The environment
may answer `replicas` with no node, which stands for a ring that has none and raises
`NoRouteError`; only `routeRequest` looks at that. -/
def World.exec (world : World) (self : Thread) :
    (op : Op) → Choice → Option (op.Answer × World)
  | .get key, _ => some ((world.nodes self.node).store.get key, world)
  | .keys, _ => some ((world.nodes self.node).store.keys, world)
  | .snapshotAll, _ => some ((world.nodes self.node).store.snapshotAll, world)
  | .replace entry expectedType commit, _ =>
      match (world.nodes self.node).store.replace entry expectedType with
      | .error error => some (.error error, world)
      | .ok store =>
          some (.ok (), (world.record self.node commit).atNode self.node ({ · with store }))
  | .acquireKey key, _ =>
      if (world.nodes self.node).keyHolder key = none then
        some ((), world.atNode self.node fun node =>
          { node with keyHolder := Function.update node.keyHolder key (some self.index) })
      else none
  | .releaseKey key, _ =>
      if (world.nodes self.node).keyHolder key = some self.index then
        some ((), world.atNode self.node fun node =>
          { node with keyHolder := Function.update node.keyHolder key none })
      else none
  | .acquireClock, _ =>
      if (world.nodes self.node).clockHolder = none then
        some ((), world.atNode self.node ({ · with clockHolder := some self.index }))
      else none
  | .releaseClock, _ =>
      if (world.nodes self.node).clockHolder = some self.index then
        some ((), world.atNode self.node ({ · with clockHolder := none }))
      else none
  | .readFrontier, _ => some ((world.nodes self.node).frontier, world)
  | .setFrontier frontier, _ =>
      some ((), (world.settle self.node).atNode self.node ({ · with frontier }))
  | .commitRows _ _ _, .failure error => some (.error error, world)
  | .commitRows entry state commit, _ =>
      some (.ok (), (world.record self.node commit).atNode self.node (·.commitRows entry state))
  | .markAuthority _ _, .failure error => some (.error error, world)
  | .markAuthority _ _, _ => some (.ok (), world)
  | .replicas _, .nodes ids => some (ids, world)
  | .alivePeers, .nodes ids => some (ids, world)
  | .choosePeer peers, .node id => if id ∈ peers then some (id, world) else none
  | .remaining, .millis left => some (left, world)
  | .reserve pairs, _ =>
      match (world.nodes self.node).outbox.reserve pairs with
      | .error error => some (.error error, world)
      | .ok (reservation, outbox) =>
          some (.ok reservation, world.atNode self.node ({ · with outbox }))
  | .cancel reservation, _ =>
      some ((), world.atNode self.node fun node =>
        { node with outbox := node.outbox.cancel reservation })
  | .publish reservation entry, _ =>
      match (world.nodes self.node).outbox.publish reservation (.ofList [(entry.key, entry)]) with
      | (result, outbox) => some (result, world.atNode self.node ({ · with outbox }))
  | .nextReady, _ =>
      match (world.nodes self.node).outbox.nextReady with
      | none => none
      | some (item, outbox) => some (item, world.atNode self.node ({ · with outbox }))
  | .complete item, _ =>
      some ((), world.atNode self.node fun node =>
        { node with outbox := node.outbox.complete item.peerNodeId item.key item.generation })
  | .abandon item, _ =>
      some ((), world.atNode self.node fun node =>
        { node with outbox := node.outbox.abandon item.peerNodeId item.key item.generation })
  | .send target request, _ =>
      some (world.requests.length, { world with requests := world.requests ++ [⟨target, request⟩] })
  | .receive _, .failure error => some (.error error, world)
  | .receive correlation, .delivery index =>
      match world.replies.drop index with
      | [] => none
      | delivery :: _ =>
          if delivery.correlation = correlation then some (.ok delivery.reply, world) else none
  | .reply correlation reply, _ =>
      some ((), { world with replies := world.replies ++ [⟨correlation, reply⟩] })
  | .vouch _ _ _, _ => some ((), world)
  | .abort dot, _ =>
      some ((), { world with ledger := { world.ledger with
        aborted := world.ledger.aborted ++ [⟨dot, world.ledger.history⟩] } })
  | .serve served, _ =>
      some ((), { world with
        ledger := { world.ledger with served := world.ledger.served ++ [served] } })
  | .acknowledge acknowledged, _ =>
      some ((), { world with ledger := { world.ledger with
        acknowledged := world.ledger.acknowledged ++ [acknowledged] } })
  | _, _ => none

/-- A node that has just been set up. -/
def Deployment.initialNode (deployment : Deployment) (id : NodeId) : Node where
  store := .empty
  keyHolder _ := none
  frontier := ⊥
  clockHolder := none
  outbox := .initial deployment.queueCapacity
  repository :=
    if durable : deployment.durable id = true then
      { identity := some (deployment.identity id durable)
        clock := some ⟨0, encodeVersionVector ⊥⟩
        rows := .empty }
    else { identity := none, clock := none, rows := .empty }

/-- The world when all nodes start. -/
def Deployment.initialWorld (deployment : Deployment) : World where
  nodes := deployment.initialNode

end Distsys
