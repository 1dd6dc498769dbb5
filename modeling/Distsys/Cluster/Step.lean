import Distsys.Crdt.History
import Distsys.Node.AntiEntropy

/-!
# Runs of a cluster

A cluster is the world with the coroutines that run in it. A step adds a client
request, delivers a request by starting its handler, lets one coroutine perform its
next operation, or starts one of the background coroutines. Requests may be
delivered in any order and any number of times, and any coroutine may be left
waiting for ever. Two further steps leave the runs of an honest cluster: a message
that no node sent, and the crash of a durable node with its restart.
-/

namespace Distsys

/-- A coroutine of a node. -/
structure Task where
  node : NodeId
  code : Code Unit

/-- The coroutines are numbered in the order in which they started. -/
structure Cluster where
  world : World
  tasks : List Task := []

/-- The steps of a cluster. -/
inductive Label
  | client (target : NodeId) (request : Request)
  | deliver (correlation : Nat)
  | run (index : Nat) (choice : Choice)
  | replicator (id : NodeId)
  | antiEntropy (id : NodeId)
  | recovery (id : NodeId) (peers : List NodeId)
  | inject (target : NodeId) (request : Request)
  | restart (id : NodeId) (now : Nat)

/-- The requests of clients; the others are sent by nodes only. -/
def Request.fromClient : Request → Bool
  | .mutate _ | .read _ => true
  | .replicate _ | .fetch _ | .digest _ => false

/-- The node after a restart, with the clock where `restore` put it. -/
def RestoredNodeState.node (restored : RestoredNodeState) (deployment : Deployment) : Node where
  store := restored.memoryStore
  keyHolder _ := none
  frontier := restored.causalState.frontier
  clockHolder := none
  outbox := .initial deployment.queueCapacity
  repository := restored.repository

/-- The run has left the runs of an honest cluster. -/
def World.distrust (world : World) : World :=
  { world with ledger := { world.ledger with honest := false } }

namespace Cluster

variable (deployment : Deployment)

/-- All nodes at their start. -/
def initial : Cluster := ⟨deployment.initialWorld, []⟩

/-- Start a coroutine. -/
def spawn (cluster : Cluster) (id : NodeId) (code : Code Unit) : Cluster :=
  { cluster with tasks := cluster.tasks ++ [⟨id, code⟩] }

/-- Put a request on the network. -/
def post (cluster : Cluster) (target : NodeId) (request : Request) : Cluster :=
  { cluster with world := { cluster.world with
    requests := cluster.world.requests ++ [⟨target, request⟩] } }

/-- The same of a cluster. -/
def distrust (cluster : Cluster) : Cluster :=
  { cluster with world := cluster.world.distrust }

/-- The coroutines of a node end, and it comes back with the given state. -/
def revive (cluster : Cluster) (id : NodeId) (node : Node) : Cluster where
  world := (cluster.world.settle id).atNode id fun _ => node
  tasks := cluster.tasks.map fun task =>
    if task.node = id then { task with code := .done (.ok ()) } else task

/-- Let one coroutine perform its next operation. -/
def runTask (cluster : Cluster) (index : Nat) (choice : Choice) : Option Cluster :=
  match cluster.tasks[index]? with
  | some ⟨id, .act op next⟩ =>
      match cluster.world.exec ⟨id, index⟩ op choice with
      | some (answer, world) => some ⟨world, cluster.tasks.set index ⟨id, next answer⟩⟩
      | none => none
  | _ => none

/-- One step, if it can take place. -/
def step (cluster : Cluster) : Label → Option Cluster
  | .client target request =>
      if request.fromClient then some (cluster.post target request) else none
  | .deliver correlation =>
      match cluster.world.requests[correlation]? with
      | some envelope =>
          some (cluster.spawn envelope.target
            (handleMessage deployment envelope.target correlation envelope.request))
      | none => none
  | .run index choice => cluster.runTask index choice
  | .replicator id => some (cluster.spawn id (workerTurn deployment))
  | .antiEntropy id => some (cluster.spawn id do
      let _ ← runOnce deployment id
      return ())
  | .recovery id peers => some (cluster.spawn id do
      let _ ← reconcile deployment id peers
      return ())
  | .inject target request => some (cluster.distrust.post target request)
  | .restart id now =>
      if deployment.durable id then
        match restore deployment.json id now (cluster.world.nodes id).repository with
        | .ok restored => some (cluster.distrust.revive id (restored.node deployment))
        | .error _ => none
      else none

end Cluster

/-- The integers and texts that a mutation adds to its entry fit the wire: its dot,
the components it raises and, for a write, its value. -/
structure Mutation.Bounded (mutation : Mutation) : Prop where
  dot : mutation.dot.counter < 2 ^ 64
  positive : mutation.prior.content.positive.get mutation.actor + mutation.increments < 2 ^ 64
  negative : mutation.prior.content.negative.get mutation.actor + mutation.decrements < 2 ^ 64
  value : mutation.crdtType = .mvregister → mutation.request.value.Encodable

instance (mutation : Mutation) : Decidable mutation.Bounded :=
  decidable_of_iff
    (mutation.dot.counter < 2 ^ 64 ∧
      mutation.prior.content.positive.get mutation.actor + mutation.increments < 2 ^ 64 ∧
      mutation.prior.content.negative.get mutation.actor + mutation.decrements < 2 ^ 64 ∧
      (mutation.crdtType = .mvregister → mutation.request.value.Encodable))
    ⟨fun ⟨dot, positive, negative, value⟩ => ⟨dot, positive, negative, value⟩,
      fun ⟨dot, positive, negative, value⟩ => ⟨dot, positive, negative, value⟩⟩

/-- The key, the version of the node's copy and the frontier, when the node relies on
the frontier for the key. -/
def Op.vouched : Op → Option (PyStr × VersionVector × VersionVector)
  | .vouch key version frontier => some (key, version, frontier)
  | _ => none

/-- The mutation that the operation commits. -/
def Op.committed : Op → Option Mutation
  | .replace _ _ commit | .commitRows _ _ commit => commit
  | _ => none

/-- Conditions on the steps of a run. -/
structure Discipline where
  backed : Bool := false
  bounded : Bool := false

/-- The condition on one operation, in the world before it. With `backed`, a node that
relies on its frontier for a key does so only when the frontier covers no committed
mutation of the key that the node's copy lacks. With `bounded`, only bounded mutations
are committed. -/
def Discipline.Allows (discipline : Discipline) (world : World) (op : Op) : Prop :=
  (discipline.backed = true → ∀ claim ∈ op.vouched,
    History.Backed world.ledger.history claim.1 claim.2.1 claim.2.2) ∧
  (discipline.bounded = true → ∀ mutation ∈ op.committed, mutation.Bounded)

instance (history : History) (key : PyStr) (version frontier : VersionVector) :
    Decidable (history.Backed key version frontier) :=
  inferInstanceAs (Decidable (∀ mutation ∈ history, _))

instance (discipline : Discipline) (world : World) (op : Op) :
    Decidable (discipline.Allows world op) :=
  inferInstanceAs (Decidable (_ ∧ _))

/-- The operation that a step of a cluster performs. -/
def Cluster.performed (cluster : Cluster) : Label → Option Op
  | .run index _ =>
      match cluster.tasks[index]? with
      | some ⟨_, .act op _⟩ => some op
      | _ => none
  | _ => none

/-- The clusters that runs reach whose steps all meet the condition. -/
inductive Reachable (deployment : Deployment) (discipline : Discipline) : Cluster → Prop
  | initial : Reachable deployment discipline (.initial deployment)
  | step {cluster next : Cluster} (label : Label)
      (reached : Reachable deployment discipline cluster)
      (stepped : cluster.step deployment label = some next)
      (meets : ∀ op ∈ cluster.performed label, discipline.Allows cluster.world op) :
      Reachable deployment discipline next

/-- Perform several steps that meet the condition. -/
def Cluster.run (deployment : Deployment) (discipline : Discipline) (cluster : Cluster) :
    List Label → Option Cluster
  | [] => some cluster
  | label :: rest =>
      if ∀ op ∈ cluster.performed label, discipline.Allows cluster.world op then
        match cluster.step deployment label with
        | some next => next.run deployment discipline rest
        | none => none
      else none

theorem Reachable.run {deployment : Deployment} {discipline : Discipline}
    {cluster final : Cluster} (reached : Reachable deployment discipline cluster)
    {labels : List Label} (result : cluster.run deployment discipline labels = some final) :
    Reachable deployment discipline final := by
  induction labels generalizing cluster with
  | nil =>
      cases result
      exact reached
  | cons label rest ih =>
      unfold Cluster.run at result
      split at result
      · next meets =>
        cases stepped : cluster.step deployment label with
        | none =>
            rw [stepped] at result
            cases result
        | some next =>
            rw [stepped] at result
            exact ih (.step label reached stepped meets) result
      · cases result

/-- A run that can be evaluated shows a cluster that is reached. -/
theorem Reachable.exists_of_run (deployment : Deployment) (discipline : Discipline)
    (labels : List Label) (check : Cluster → Bool)
    (checked : ((Cluster.initial deployment).run deployment discipline labels).any check = true) :
    ∃ cluster, Reachable deployment discipline cluster ∧ check cluster = true := by
  cases result : (Cluster.initial deployment).run deployment discipline labels with
  | none =>
      rw [result] at checked
      cases checked
  | some cluster =>
      rw [result] at checked
      exact ⟨cluster, .run .initial result, checked⟩

end Distsys
