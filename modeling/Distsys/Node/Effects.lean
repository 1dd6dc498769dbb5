import Distsys.Node.World

/-!
# What the operations do

The outcomes of the atomic operations as a relation, one rule for each, so that facts
about all operations are proved by cases.
-/

namespace Distsys

/-- An operation of a thread with its answer and the world it leaves. -/
inductive World.Executes (world : World) (self : Thread) : (op : Op) → op.Answer → World → Prop
  | get (key : PyStr) : Executes world self (.get key) ((world.nodes self.node).store.get key) world
  | keys : Executes world self .keys (world.nodes self.node).store.keys world
  | snapshotAll :
      Executes world self .snapshotAll (world.nodes self.node).store.snapshotAll world
  | replace {entry : StoredCrdtEntry} {expectedType : Option CrdtType} {store : Store}
      (commit : Option Mutation)
      (replaced : (world.nodes self.node).store.replace entry expectedType = .ok store) :
      Executes world self (.replace entry expectedType commit) (.ok ())
        ((world.record self.node commit).atNode self.node ({ · with store }))
  | replaceFails {entry : StoredCrdtEntry} {expectedType : Option CrdtType} {error : PyError}
      (commit : Option Mutation)
      (fails : (world.nodes self.node).store.replace entry expectedType = .error error) :
      Executes world self (.replace entry expectedType commit) (.error error) world
  | acquireKey {key : PyStr} (free : (world.nodes self.node).keyHolder key = none) :
      Executes world self (.acquireKey key) () (world.atNode self.node fun node =>
        { node with keyHolder := Function.update node.keyHolder key (some self.index) })
  | releaseKey {key : PyStr} (held : (world.nodes self.node).keyHolder key = some self.index) :
      Executes world self (.releaseKey key) () (world.atNode self.node fun node =>
        { node with keyHolder := Function.update node.keyHolder key none })
  | acquireClock (free : (world.nodes self.node).clockHolder = none) :
      Executes world self .acquireClock ()
        (world.atNode self.node ({ · with clockHolder := some self.index }))
  | releaseClock (held : (world.nodes self.node).clockHolder = some self.index) :
      Executes world self .releaseClock () (world.atNode self.node ({ · with clockHolder := none }))
  | readFrontier : Executes world self .readFrontier (world.nodes self.node).frontier world
  | setFrontier (frontier : VersionVector) :
      Executes world self (.setFrontier frontier) ()
        ((world.settle self.node).atNode self.node ({ · with frontier }))
  | commitRows (entry : StoredCrdtEntry) (state : DurableCausalState) (commit : Option Mutation) :
      Executes world self (.commitRows entry state commit) (.ok ())
        ((world.record self.node commit).atNode self.node (·.commitRows entry state))
  | commitRowsFails (entry : StoredCrdtEntry) (state : DurableCausalState)
      (commit : Option Mutation) (error : PyError) :
      Executes world self (.commitRows entry state commit) (.error error) world
  | markAuthority (key : PyStr) (authoritative : Bool) (result : Except PyError Unit) :
      Executes world self (.markAuthority key authoritative) result world
  | replicas (key : PyStr) (ids : List NodeId) : Executes world self (.replicas key) ids world
  | alivePeers (ids : List NodeId) : Executes world self .alivePeers ids world
  | choosePeer {peers : List NodeId} {id : NodeId} (listed : id ∈ peers) :
      Executes world self (.choosePeer peers) id world
  | remaining (left : Nat) : Executes world self .remaining left world
  | reserve {pairs : List Pair} {reservation : OutboxReservation} {outbox : Outbox}
      (reserved : (world.nodes self.node).outbox.reserve pairs = .ok (reservation, outbox)) :
      Executes world self (.reserve pairs) (.ok reservation)
        (world.atNode self.node ({ · with outbox }))
  | reserveFails {pairs : List Pair} {error : PyError}
      (fails : (world.nodes self.node).outbox.reserve pairs = .error error) :
      Executes world self (.reserve pairs) (.error error) world
  | cancel (reservation : OutboxReservation) :
      Executes world self (.cancel reservation) () (world.atNode self.node fun node =>
        { node with outbox := node.outbox.cancel reservation })
  | publish {reservation : OutboxReservation} {entry : StoredCrdtEntry}
      {result : Except PyError Unit}
      {outbox : Outbox} (published : (world.nodes self.node).outbox.publish reservation
        (.ofList [(entry.key, entry)]) = (result, outbox)) :
      Executes world self (.publish reservation entry) result
        (world.atNode self.node ({ · with outbox }))
  | nextReady {item : Option PendingReplication} {outbox : Outbox}
      (ready : (world.nodes self.node).outbox.nextReady = some (item, outbox)) :
      Executes world self .nextReady item (world.atNode self.node ({ · with outbox }))
  | complete (item : PendingReplication) :
      Executes world self (.complete item) () (world.atNode self.node fun node =>
        { node with outbox := node.outbox.complete item.peerNodeId item.key item.generation })
  | abandon (item : PendingReplication) :
      Executes world self (.abandon item) () (world.atNode self.node fun node =>
        { node with outbox := node.outbox.abandon item.peerNodeId item.key item.generation })
  | send (target : NodeId) (request : Request) :
      Executes world self (.send target request) world.requests.length
        { world with requests := world.requests ++ [⟨target, request⟩] }
  | receive {correlation : Nat} {delivery : Delivery} (listed : delivery ∈ world.replies)
      (answers : delivery.correlation = correlation) :
      Executes world self (.receive correlation) (.ok delivery.reply) world
  | receiveFails (correlation : Nat) (error : PyError) :
      Executes world self (.receive correlation) (.error error) world
  | reply (correlation : Nat) (reply : Reply) :
      Executes world self (.reply correlation reply) ()
        { world with replies := world.replies ++ [⟨correlation, reply⟩] }
  | vouch (key : PyStr) (version frontier : VersionVector) :
      Executes world self (.vouch key version frontier) () world
  | abort (dot : Dot) :
      Executes world self (.abort dot) () { world with ledger := { world.ledger with
        aborted := world.ledger.aborted ++ [⟨dot, world.ledger.history⟩] } }
  | serve (served : Served) :
      Executes world self (.serve served) () { world with ledger := { world.ledger with
        served := world.ledger.served ++ [served] } }
  | acknowledge (acknowledged : Acknowledged) :
      Executes world self (.acknowledge acknowledged) () { world with ledger := { world.ledger with
        acknowledged := world.ledger.acknowledged ++ [acknowledged] } }

/-- Every operation that `exec` lets happen has one of these effects. -/
theorem World.executes_of_exec {world after : World} {self : Thread} {op : Op} {choice : Choice}
    {answer : op.Answer} (executed : world.exec self op choice = some (answer, after)) :
    world.Executes self op answer after := by
  cases op with
  | get key => cases executed; exact .get key
  | keys => cases executed; exact .keys
  | snapshotAll => cases executed; exact .snapshotAll
  | replace entry expectedType commit =>
      simp only [World.exec] at executed
      split at executed
      · next fails => cases executed; exact .replaceFails commit fails
      · next replaced => cases executed; exact .replace commit replaced
  | acquireKey key =>
      simp only [World.exec] at executed
      split at executed
      · next free => cases executed; exact .acquireKey free
      · cases executed
  | releaseKey key =>
      simp only [World.exec] at executed
      split at executed
      · next held => cases executed; exact .releaseKey held
      · cases executed
  | acquireClock =>
      simp only [World.exec] at executed
      split at executed
      · next free => cases executed; exact .acquireClock free
      · cases executed
  | releaseClock =>
      simp only [World.exec] at executed
      split at executed
      · next held => cases executed; exact .releaseClock held
      · cases executed
  | readFrontier => cases executed; exact .readFrontier
  | setFrontier frontier => cases executed; exact .setFrontier frontier
  | commitRows entry state commit =>
      cases choice with
      | failure error => cases executed; exact .commitRowsFails entry state commit error
      | _ => cases executed; exact .commitRows entry state commit
  | markAuthority key authoritative =>
      cases choice <;> cases executed <;> exact .markAuthority key authoritative _
  | replicas key =>
      cases choice <;> cases executed
      exact .replicas key _
  | alivePeers =>
      cases choice <;> cases executed
      exact .alivePeers _
  | choosePeer peers =>
      cases choice with
      | node id =>
          simp only [World.exec] at executed
          split at executed
          · next listed => cases executed; exact .choosePeer listed
          · cases executed
      | _ => cases executed
  | remaining =>
      cases choice <;> cases executed
      exact .remaining _
  | reserve pairs =>
      simp only [World.exec] at executed
      split at executed
      · next fails => cases executed; exact .reserveFails fails
      · next reserved => cases executed; exact .reserve reserved
  | cancel reservation => cases executed; exact .cancel reservation
  | publish reservation entry => cases executed; exact .publish rfl
  | nextReady =>
      simp only [World.exec] at executed
      split at executed
      · cases executed
      · next ready => cases executed; exact .nextReady ready
  | complete item => cases executed; exact .complete item
  | abandon item => cases executed; exact .abandon item
  | send target request => cases executed; exact .send target request
  | receive correlation =>
      cases choice with
      | failure error => cases executed; exact .receiveFails correlation _
      | delivery index =>
          simp only [World.exec] at executed
          split at executed
          · cases executed
          · next delivery rest drops =>
            split at executed
            · next answers =>
              cases executed
              refine .receive ?_ answers
              exact List.drop_subset index _ (drops ▸ List.mem_cons_self)
            · cases executed
      | _ => cases executed
  | reply correlation reply => cases executed; exact .reply correlation reply
  | vouch key version frontier => cases executed; exact .vouch key version frontier
  | abort dot => cases executed; exact .abort dot
  | serve served => cases executed; exact .serve served
  | acknowledge acknowledged => cases executed; exact .acknowledge acknowledged

end Distsys
