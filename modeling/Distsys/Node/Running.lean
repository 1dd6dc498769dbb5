import Distsys.Node.System

/-!
# What an operation does to its node

The operations of a coroutine other than commits, seen from its node: the answers that the
node can give, and the node after them.
-/

namespace Distsys

variable {system : NodeSystem} {op : Op} {choice : Choice} {answer : op.Answer} {id : NodeId}
  {index : Nat} {world : World}

/-- The node after an operation of one of its coroutines that is not a commit. -/
def Node.after (node : Node) (index : Nat) : (op : Op) → op.Answer → Node
  | .replace entry _ _, .ok _ => node.put entry
  | .acquireKey key, _ =>
      { node with keyHolder := Function.update node.keyHolder key (some index) }
  | .releaseKey key, _ => { node with keyHolder := Function.update node.keyHolder key none }
  | .acquireClock, _ => { node with clockHolder := some index }
  | .releaseClock, _ => { node with clockHolder := none }
  | .setFrontier frontier, _ => { node with frontier }
  | .reserve pairs, _ =>
      match node.outbox.reserve pairs with
      | .ok (_, outbox) => { node with outbox }
      | .error _ => node
  | .cancel reservation, _ => { node with outbox := node.outbox.cancel reservation }
  | .publish reservation entry, _ =>
      { node with outbox := (node.outbox.publish reservation (.ofList [(entry.key, entry)])).2 }
  | .nextReady, _ =>
      match node.outbox.nextReady with
      | some (_, outbox) => { node with outbox }
      | none => node
  | .complete item, _ | .abandon item, _ =>
      { node with outbox := node.outbox.resolve item.peerNodeId item.key item.generation }
  | _, _ => node

/-- The node can answer an operation in this way, given the replies that have arrived. -/
def Node.Gives (node : Node) (index : Nat) (replies : List Delivery) :
    (op : Op) → op.Answer → Prop
  | .get key, entry => entry = node.store.get key
  | .keys, keys => keys = node.store.keys
  | .snapshotAll, entries => entries = node.store.snapshotAll
  | .replace entry expectedType _, result =>
      result = (node.store.replace entry expectedType).map fun _ => ()
  | .acquireKey key, _ => node.keyHolder key = none
  | .releaseKey key, _ => node.keyHolder key = some index
  | .acquireClock, _ => node.clockHolder = none
  | .releaseClock, _ => node.clockHolder = some index
  | .readFrontier, frontier => frontier = node.frontier
  | .reserve pairs, result => result = (node.outbox.reserve pairs).map Prod.fst
  | .publish reservation entry, result =>
      result = (node.outbox.publish reservation (.ofList [(entry.key, entry)])).1
  | .nextReady, item => ∃ outbox, node.outbox.nextReady = some (item, outbox)
  | .receive _, .ok reply => ∃ delivery ∈ replies, delivery.reply = reply
  | _, _ => True

/-- The mutation that the operation has committed. -/
def Op.commits : (op : Op) → op.Answer → Option Mutation
  | .replace _ _ commit, .ok _ => commit
  | _, _ => none

/-- The acknowledgement that an operation records. -/
def Op.acknowledges : Op → Option Acknowledged
  | .acknowledge item => some item
  | _ => none

/-- The reply that leaves the node. -/
def Op.leaves : Op → List Delivery
  | .reply correlation answer => [⟨correlation, answer⟩]
  | _ => []

theorem Op.leaves_of_ne (op : Op) (stays : ∀ correlation reply, op ≠ .reply correlation reply) :
    op.leaves = [] := by
  cases op with
  | reply correlation reply => exact absurd rfl (stays correlation reply)
  | _ => rfl

/-- What an operation of a coroutine that is not a commit does to the node. -/
structure Ran (id : NodeId) (system : NodeSystem) (index : Nat) (op : Op) (answer : op.Answer)
    (after : NodeSystem) : Prop where
  node : after.world.nodes id = (system.world.nodes id).after index op answer
  gives : (system.world.nodes id).Gives index system.world.replies op answer
  replies : after.world.replies = system.world.replies
  history : after.world.ledger.history =
    system.world.ledger.history ++ (op.commits answer).toList
  acknowledged : after.world.ledger.acknowledged =
    system.world.ledger.acknowledged ++ op.acknowledges.toList
  answers : after.answers = system.answers ++ op.leaves
  tasks : after.tasks = system.tasks
  jobs : after.jobs = system.jobs
  effects : after.effects = system.effects
  plain : ∀ entry state commit, op ≠ .commitRows entry state commit

theorem exec_of_perform {after : NodeSystem} {self : Thread}
    (performed : system.perform self op choice = some (answer, after))
    (stays : ∀ correlation reply, op ≠ .reply correlation reply) :
    (∀ entry state commit, op ≠ .commitRows entry state commit) ∧
      ∃ world, system.world.exec self op choice = some (answer, world) ∧
        after = { system with world } := by
  unfold NodeSystem.perform at performed
  split at performed
  · cases performed
  · next correlation reply => exact absurd rfl (stays correlation reply)
  · next committed _ =>
    refine ⟨fun entry state commit same => committed entry state commit same, ?_⟩
    split at performed
    · next executed =>
      cases performed
      exact ⟨_, executed, rfl⟩
    · cases performed

theorem Ran.of_world (plain : ∀ entry state commit, op ≠ .commitRows entry state commit)
    (stays : ∀ correlation reply, op ≠ .reply correlation reply)
    (node : world.nodes id = (system.world.nodes id).after index op answer)
    (gives : (system.world.nodes id).Gives index system.world.replies op answer)
    (replies : world.replies = system.world.replies)
    (history : world.ledger.history = system.world.ledger.history ++ (op.commits answer).toList)
    (acknowledged : world.ledger.acknowledged =
      system.world.ledger.acknowledged ++ op.acknowledges.toList) :
    Ran id system index op answer { system with world } :=
  ⟨node, gives, replies, history, acknowledged, by rw [op.leaves_of_ne stays, List.append_nil], rfl,
    rfl, rfl, plain⟩

/-- An operation that commits and acknowledges nothing. -/
theorem Ran.of_silent (plain : ∀ entry state commit, op ≠ .commitRows entry state commit)
    (stays : ∀ correlation reply, op ≠ .reply correlation reply)
    (node : world.nodes id = (system.world.nodes id).after index op answer)
    (gives : (system.world.nodes id).Gives index system.world.replies op answer)
    (replies : world.replies = system.world.replies)
    (history : world.ledger.history = system.world.ledger.history)
    (acknowledged : world.ledger.acknowledged = system.world.ledger.acknowledged)
    (commits : op.commits answer = none) (acknowledges : op.acknowledges = none) :
    Ran id system index op answer { system with world } := by
  refine .of_world plain stays node gives replies ?_ ?_
  · rw [commits, history]
    exact (List.append_nil _).symm
  · rw [acknowledges, acknowledged]
    exact (List.append_nil _).symm

/-- What `exec` does to the node of the coroutine. -/
theorem ran_of_exec (executed : system.world.exec ⟨id, index⟩ op choice = some (answer, world))
    (plain : ∀ entry state commit, op ≠ .commitRows entry state commit)
    (stays : ∀ correlation reply, op ≠ .reply correlation reply) :
    Ran id system index op answer { system with world } := by
  cases op with
  | commitRows entry state commit => exact absurd rfl (plain entry state commit)
  | reply correlation reply => exact absurd rfl (stays correlation reply)
  | replace entry expectedType commit =>
      unfold World.exec at executed
      dsimp only at executed
      split at executed
      · next error failed =>
        cases executed
        exact .of_silent plain stays rfl
          (by simp only [Node.Gives, failed]; rfl) rfl rfl rfl rfl rfl
      · next store stored =>
        cases executed
        refine .of_world plain stays ?_ (by simp only [Node.Gives, stored]; rfl) ?_ ?_ ?_
        · rw [World.nodes_atNode_self, World.nodes_record, (Store.replace_eq_ok stored).1]
          rfl
        · cases commit <;> rfl
        · cases commit with
          | none => exact (List.append_nil _).symm
          | some mutation => rfl
        · cases commit <;> exact (List.append_nil _).symm
  | acquireKey key | releaseKey key | acquireClock | releaseClock =>
      unfold World.exec at executed
      dsimp only at executed
      split at executed
      · next held =>
        cases executed
        exact .of_silent plain stays (World.nodes_atNode_self ..) held rfl rfl rfl rfl rfl
      · cases executed
  | reserve pairs =>
      unfold World.exec at executed
      dsimp only at executed
      split at executed
      · next error failed =>
        cases executed
        exact .of_silent plain stays (by simp only [Node.after, failed])
          (by simp only [Node.Gives, failed]; rfl) rfl rfl rfl rfl rfl
      · next reservation outbox reserved =>
        cases executed
        refine .of_silent plain stays ?_
          (by simp only [Node.Gives, reserved]; rfl) rfl rfl rfl rfl rfl
        rw [World.nodes_atNode_self]
        simp only [Node.after, reserved]
  | nextReady =>
      unfold World.exec at executed
      dsimp only at executed
      split at executed
      · cases executed
      · next item outbox ready =>
        cases executed
        refine .of_silent plain stays ?_ ⟨outbox, ready⟩ rfl rfl rfl rfl rfl
        rw [World.nodes_atNode_self]
        simp only [Node.after, ready]
  | receive correlation =>
      cases choice with
      | failure error =>
          cases executed
          exact .of_silent plain stays rfl trivial rfl rfl rfl rfl rfl
      | delivery position =>
          unfold World.exec at executed
          dsimp only at executed
          split at executed
          · cases executed
          · next delivery _ found =>
            split at executed
            · cases executed
              refine .of_silent plain stays rfl ?_ rfl rfl rfl rfl rfl
              exact ⟨delivery, List.mem_of_mem_drop (found ▸ List.mem_cons_self), rfl⟩
            · cases executed
      | _ => cases executed
  | choosePeer peers =>
      cases choice with
      | node chosen =>
          unfold World.exec at executed
          dsimp only at executed
          split at executed
          · cases executed
            exact .of_silent plain stays rfl trivial rfl rfl rfl rfl rfl
          · cases executed
      | _ => cases executed
  | acknowledge item =>
      cases choice <;> cases executed <;>
        exact .of_world plain stays rfl trivial rfl (List.append_nil _).symm rfl
  | setFrontier frontier | cancel reservation | publish reservation entry | complete item
  | abandon item =>
      cases choice <;> cases executed <;>
        exact .of_silent plain stays (World.nodes_atNode_self ..) (by first | exact trivial | rfl)
          rfl rfl rfl rfl rfl
  | _ =>
      cases choice <;> cases executed <;>
        exact .of_silent plain stays rfl (by first | exact trivial | rfl) rfl rfl rfl rfl rfl

/-- An exchange that raises, raises what the environment has chosen. -/
def Op.RaisedBy (choice : Choice) : (op : Op) → op.Answer → Prop
  | .receive _, .error error => choice = .failure error
  | _, _ => True

/-- Nothing else makes an exchange raise. -/
theorem raisedBy_of_perform {after : NodeSystem} {self : Thread}
    (performed : system.perform self op choice = some (answer, after)) :
    op.RaisedBy choice answer := by
  cases op with
  | receive correlation =>
      obtain ⟨_, world, executed, _⟩ := exec_of_perform performed (by rintro _ _ ⟨⟩)
      cases choice with
      | failure raised =>
          cases executed
          rfl
      | delivery position =>
          unfold World.exec at executed
          dsimp only at executed
          split at executed
          · cases executed
          · split at executed <;> cases executed
            exact trivial
      | _ => cases executed
  | _ => exact trivial

/-- What `perform` does to the node of the coroutine. -/
theorem ran_of_perform {after : NodeSystem}
    (performed : system.perform ⟨id, index⟩ op choice = some (answer, after)) :
    Ran id system index op answer after := by
  by_cases leaves : ∃ correlation reply, op = .reply correlation reply
  · obtain ⟨correlation, reply, rfl⟩ := leaves
    cases performed
    exact ⟨rfl, trivial, rfl, (List.append_nil _).symm, (List.append_nil _).symm, rfl, rfl, rfl,
      rfl, by rintro _ _ _ ⟨⟩⟩
  · have stays : ∀ correlation reply, op ≠ .reply correlation reply :=
      fun correlation reply same => leaves ⟨correlation, reply, same⟩
    obtain ⟨plain, world, executed, rfl⟩ := exec_of_perform performed stays
    exact ran_of_exec executed plain stays

end Distsys
