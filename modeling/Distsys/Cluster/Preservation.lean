import Distsys.Cluster.Invariant

/-!
# Changes of the world that keep the invariant

Every operation is made of a few changes: of one node, of the ledger and of the
network. Each change keeps the invariant under its own conditions and is confined to
the coroutine that makes it, and confined changes compose.
-/

namespace Distsys

variable {deployment : Deployment} {discipline : Discipline} {thread : Thread}
  {entry : StoredCrdtEntry} {world : World} {id : NodeId}

theorem Node.frontier_commitRows (node : Node) (entry : StoredCrdtEntry)
    (state : DurableCausalState) :
    (node.commitRows entry state).repository.frontier = state.frontier :=
  Repository.frontier_commit _ _ _

theorem Node.entry_commitRows (node : Node) {json : JsonReader}
    (readable : entry.state.Readable json) (state : DurableCausalState) (key : PyStr) :
    (node.commitRows entry state).repository.entry json key =
      if entry.key = key then some entry else node.repository.entry json key :=
  Repository.entry_commit _ readable _ _

namespace World

variable {change : Node → Node}

theorem Confined.refl (world : World) : Confined deployment thread world world :=
  ⟨.refl _ _, fun _ _ => ⟨rfl, rfl, rfl⟩, fun key _ _ _ => .refl _ key _, fun _ _ _ => .refl _ _⟩

theorem Confined.trans {first second third : World}
    (early : Confined deployment thread first second)
    (late : Confined deployment thread second third) : Confined deployment thread first third where
  progress := early.progress.trans late.progress
  elsewhere id differs := by
    obtain ⟨nodes, unclocked, count⟩ := early.elsewhere id differs
    obtain ⟨nodesLater, unclockedLater, countLater⟩ := late.elsewhere id differs
    exact ⟨nodesLater.trans nodes, unclockedLater.trans unclocked, countLater.trans count⟩
  keys key holder held other :=
    have kept := early.keys key holder held other
    kept.trans (late.keys key holder (kept.holder.trans held) other)
  clock holder held other :=
    have kept := early.clock holder held other
    kept.trans (late.clock holder (kept.holder.trans held) other)

/-- What a change of a node may do to the other coroutines of the node. -/
theorem confined_atNode (version : ∀ key, (world.nodes thread.node).version key ≤
      (change (world.nodes thread.node)).version key)
    (disk : (world.nodes thread.node).repository.frontier ≤
      (change (world.nodes thread.node)).repository.frontier)
    (keys : ∀ key holder, (world.nodes thread.node).keyHolder key = some holder →
      holder ≠ thread.index →
      Node.KeyKept deployment.json key (world.nodes thread.node) (change (world.nodes thread.node)))
    (clock : ∀ holder, (world.nodes thread.node).clockHolder = some holder →
      holder ≠ thread.index →
      (change (world.nodes thread.node)).clockHolder = (world.nodes thread.node).clockHolder ∧
      (change (world.nodes thread.node)).frontier = (world.nodes thread.node).frontier ∧
      (change (world.nodes thread.node)).repository.frontier =
        (world.nodes thread.node).repository.frontier) :
    Confined deployment thread world (world.atNode thread.node change) where
  progress := by
    refine ⟨.refl _, fun key => ?_, ?_, List.prefix_rfl⟩
    · rw [nodes_atNode_self]
      exact version key
    · rw [nodes_atNode_self]
      exact disk
  elsewhere id differs := ⟨nodes_atNode_of_ne _ _ _ differs, rfl, rfl⟩
  keys key holder held other := by
    rw [nodes_atNode_self]
    exact keys key holder held other
  clock holder held other := by
    obtain ⟨holders, frontiers, disks⟩ := clock holder held other
    refine ⟨?_, ?_, ?_, rfl, rfl⟩ <;> rw [nodes_atNode_self]
    · exact holders
    · exact frontiers
    · exact disks

/-- A change of one node keeps the invariant when that node stays sound. -/
theorem Inv.atNode (inv : Inv deployment discipline world)
    (sound : (change (world.nodes id)).Sound deployment discipline id world.past
      (world.ledger.unclocked id))
    (durable : ∀ durable, (change (world.nodes id)).Durable deployment id world.past.history
      world.ledger.acknowledged durable) :
    Inv deployment discipline (world.atNode id change) := by
  refine { inv with nodes := fun other => ?_, durable := fun other => ?_ }
  · by_cases same : other = id
    · subst same
      rw [nodes_atNode_self]
      exact sound
    · rw [nodes_atNode_of_ne _ _ _ same]
      exact inv.nodes other
  · by_cases same : other = id
    · subst same
      rw [nodes_atNode_self]
      exact durable
    · rw [nodes_atNode_of_ne _ _ _ same]
      exact inv.durable other

end World

theorem Served.Sound.grows {past later : Past} {served : Served}
    (sound : served.Sound deployment discipline past) (grows : past.Grows later) :
    served.Sound deployment discipline later :=
  ⟨fun entry found => ⟨(sound.copy entry found).1, (sound.copy entry found).2.grows grows⟩,
    sound.token.grows grows, sound.backed.grows sound.token grows⟩

section Nodes

variable {id : NodeId} {past later : Past} {node : Node}

/-- A node stays sound when the past grows by mutations of other nodes. -/
theorem Node.Sound.grows {unclocked : Option Dot}
    (sound : node.Sound deployment discipline id past unclocked) (grows : past.Grows later)
    (foreign : ∀ mutation ∈ later.history, mutation.actor = deployment.actor id →
      mutation ∈ past.history)
    (count : later.history.count (deployment.actor id) =
      past.history.count (deployment.actor id)) :
    node.Sound deployment discipline id later unclocked where
  entries key entry found := (sound.entries key entry found).grows grows
  outbox entry held := (sound.outbox entry held).grows grows
  frontier := sound.frontier.grows grows
  settled := sound.settled
  counted honest free := (sound.counted (grows.honest honest) free).trans count.symm
  own honest mutation member actor :=
    sound.own (grows.honest honest) mutation (foreign mutation member actor) actor

theorem Node.Durable.grows {history longer : History} {acknowledged : List Acknowledged}
    {durable : deployment.durable id = true}
    (sound : node.Durable deployment id history acknowledged durable)
    (grows : history <+: longer)
    (committed : ∀ mutation ∈ longer, mutation.actor = deployment.actor id →
      mutation ∈ history ∨
        (∃ entry, node.repository.entry deployment.json mutation.key = some entry ∧
          entry.stateVersion.Covers mutation.dot) ∧
        node.repository.frontier.Covers mutation.dot) :
    node.Durable deployment id longer acknowledged durable := by
  refine { sound with
    committed := fun mutation member actor => ?_, acknowledged := fun item listed is => ?_ }
  · rcases committed mutation member actor with old | new
    · exact sound.committed mutation old actor
    · exact new
  · obtain ⟨counter, mutation, member, rest⟩ := sound.acknowledged item listed is
    exact ⟨counter, mutation, grows.subset member, rest⟩

end Nodes

namespace World

variable {frontier : VersionVector}

/-- A mutation is entered into the ledger while its coroutine holds the clock. In a
durable node its row has been written. -/
theorem Inv.record {world : World} (inv : Inv deployment discipline world) {id : NodeId}
    {mutation : Mutation} {base : VersionVector}
    (prepared : mutation.Prepared deployment discipline world.past base)
    (actor : mutation.actor = deployment.actor id)
    (held : (world.nodes id).clockHolder ≠ none)
    (settled : world.ledger.unclocked id = none)
    (written : deployment.durable id = true →
      (∃ entry, (world.nodes id).repository.entry deployment.json mutation.key = some entry ∧
        entry.stateVersion.Covers mutation.dot) ∧
      (world.nodes id).repository.frontier.Covers mutation.dot) :
    Inv deployment discipline (world.record id (some mutation)) := by
  have grows : world.past.Grows (world.record id (some mutation)).past := prepared.grows
  have foreign : ∀ other, other ≠ id → ∀ found ∈ world.past.history ++ [mutation],
      found.actor = deployment.actor other → found ∈ world.past.history := by
    intro other differs found member is
    rcases List.mem_concat_cases member with old | rfl
    · exact old
    · exact absurd (deployment.actor_injective (is.symm.trans actor)) differs
  refine ⟨prepared.dense, fun found member => ?_, fun other => ?_, fun other durable => ?_,
    fun envelope listed => (inv.requests envelope listed).grows grows, fun delivery listed => ?_,
    fun served listed => ?_, fun honest item listed => ?_⟩
  · rcases List.mem_concat_cases member with old | rfl
    · exact (inv.mutations found old).grows old grows
    · exact prepared.sound
  · by_cases same : other = id
    · subst same
      have sound := inv.nodes other
      have waiting : (world.record other (some mutation)).ledger.unclocked other =
          some mutation.dot := Function.update_self ..
      rw [waiting]
      refine ⟨fun key entry found => (sound.entries key entry found).grows grows,
        fun entry stored => (sound.outbox entry stored).grows grows, sound.frontier.grows grows,
        fun free => absurd free held, nofun, fun honest found member is waits => ?_⟩
      rcases List.mem_concat_cases member with old | rfl
      · exact sound.own honest found old is (settled.trans_ne nofun)
      · exact absurd rfl waits
    · have unclocked : (world.record id (some mutation)).ledger.unclocked other =
          world.ledger.unclocked other := Function.update_of_ne same ..
      rw [unclocked]
      refine (inv.nodes other).grows grows (foreign other same) ?_
      change (world.past.history ++ [mutation]).count _ = _
      rw [History.count_append, History.count_singleton, if_neg, Nat.add_zero]
      exact fun is => same (deployment.actor_injective (is.symm.trans actor))
  · refine (inv.durable other durable).grows grows.history fun found member is => ?_
    by_cases same : other = id
    · subst same
      rcases List.mem_concat_cases member with old | rfl
      · exact .inl old
      · exact .inr (written durable)
    · exact .inl (foreign other same found member is)
  · obtain ⟨envelope, sent, sound⟩ := inv.replies delivery listed
    exact ⟨envelope, sent, sound.grows grows⟩
  · exact (inv.served served listed).grows grows
  · obtain ⟨seen, numbered⟩ := inv.aborted honest item listed
    exact ⟨seen.trans grows.history, numbered⟩

theorem confined_record {world : World} {mutation : Mutation} {base : VersionVector}
    (prepared : mutation.Prepared deployment discipline world.past base)
    (actor : mutation.actor = deployment.actor thread.node)
    (held : (world.nodes thread.node).clockHolder = some thread.index) :
    Confined deployment thread world (world.record thread.node (some mutation)) where
  progress := ⟨prepared.grows, fun _ => le_rfl, le_rfl, List.prefix_rfl⟩
  elsewhere id differs := by
    refine ⟨rfl, Function.update_of_ne differs .., ?_⟩
    change (world.past.history ++ [mutation]).count _ = _
    rw [History.count_append, History.count_singleton, if_neg, Nat.add_zero]
    exact fun is => differs (deployment.actor_injective (is.symm.trans actor))
  keys key _ _ _ := .refl _ key _
  clock holder found other := absurd (Option.some_inj.mp (found.symm.trans held)) other

theorem version_put {node : Node} (above : node.version entry.key ≤ entry.stateVersion)
    (key : PyStr) :
    node.version key ≤ (node.put entry).version key := by
  unfold Node.version Node.put
  simp only [Store.get_put]
  split
  · next same =>
    subst same
    exact above
  · exact le_rfl

/-- An entry replaces an older version of itself under the lock of its key. -/
theorem Inv.put {world : World} (inv : Inv deployment discipline world) {id : NodeId}
    {entry : StoredCrdtEntry} (sound : entry.Sound deployment.json discipline world.past)
    (held : (world.nodes id).keyHolder entry.key ≠ none)
    (above : (world.nodes id).version entry.key ≤ entry.stateVersion)
    (absorbed : deployment.durable id = true →
      entry.causalContext ≤ (world.nodes id).repository.frontier) :
    Inv deployment discipline (world.atNode id (·.put entry)) := by
  refine inv.atNode ?_ fun durable => ?_
  · have node := inv.nodes id
    refine { node with
      entries := fun key found lookup => ?_
      settled := fun free => { node.settled free with }
      own := fun honest mutation member actor waits => ?_ }
    · change ((world.nodes id).store.put entry).get key = some found at lookup
      rw [Store.get_put] at lookup
      split at lookup
      · cases lookup
        exact sound
      · exact node.entries key found lookup
    · exact (node.own honest mutation member actor waits).mono (version_put above mutation.key)
  · have node := inv.durable id durable
    refine { node with synced := fun key free => ?_, memory := fun key found lookup => ?_ }
    · have differs : entry.key ≠ key := by
        rintro rfl
        exact held free
      exact (node.synced key free).trans (Store.get_put_of_ne _ differs).symm
    · change ((world.nodes id).store.put entry).get key = some found at lookup
      rw [Store.get_put] at lookup
      split at lookup
      · cases lookup
        exact absorbed durable
      · exact node.memory key found lookup

theorem confined_put {world : World} {entry : StoredCrdtEntry}
    (held : (world.nodes thread.node).keyHolder entry.key = some thread.index)
    (above : (world.nodes thread.node).version entry.key ≤ entry.stateVersion) :
    Confined deployment thread world (world.atNode thread.node (·.put entry)) := by
  refine confined_atNode (version_put above) le_rfl (fun key holder found other => ?_)
    fun _ _ _ => ⟨rfl, rfl, rfl⟩
  refine ⟨rfl, Store.get_put_of_ne _ ?_, rfl⟩
  rintro rfl
  exact other (Option.some_inj.mp (found.symm.trans held))

/-- The row of an entry and the clock row are written under both locks. -/
theorem Inv.commit {world : World} (inv : Inv deployment discipline world) {id : NodeId}
    {entry : StoredCrdtEntry} {next : VersionVector}
    (readable : entry.state.Readable deployment.json)
    (heldKey : (world.nodes id).keyHolder entry.key ≠ none)
    (heldClock : (world.nodes id).clockHolder ≠ none)
    (above : ∀ row, (world.nodes id).repository.entry deployment.json entry.key = some row →
      row.stateVersion ≤ entry.stateVersion)
    (absorbed : entry.causalContext ≤ next)
    (advanced : (world.nodes id).repository.frontier ≤ next) :
    Inv deployment discipline
      (world.atNode id (·.commitRows entry (.at (deployment.actor id) next))) := by
  refine inv.atNode ?_ fun durable => ?_
  · exact { inv.nodes id with settled := fun free => absurd free heldClock }
  · have node := inv.durable id durable
    refine ⟨node.consistent.commit readable next, fun key free => ?_, fun key found lookup => ?_,
      fun key found lookup => ?_, fun mutation member actor => ?_, fun item listed is => ?_⟩
    · have differs : entry.key ≠ key := by
        rintro rfl
        exact heldKey free
      refine Eq.trans ?_ (node.synced key free)
      rw [Node.entry_commitRows _ readable, if_neg differs]
    · simp only [Node.entry_commitRows _ readable] at lookup
      simp only [Node.frontier_commitRows]
      split at lookup
      · cases lookup
        exact absorbed
      · exact (node.below key found lookup).trans advanced
    · simp only [Node.frontier_commitRows]
      exact (node.memory key found lookup).trans advanced
    · obtain ⟨⟨row, stored, covers⟩, known⟩ := node.committed mutation member actor
      simp only [Node.entry_commitRows _ readable, Node.frontier_commitRows]
      refine ⟨?_, known.mono advanced⟩
      by_cases same : entry.key = mutation.key
      · rw [if_pos same]
        rw [← same] at stored
        exact ⟨entry, rfl, covers.mono (above row stored)⟩
      · rw [if_neg same]
        exact ⟨row, stored, covers⟩
    · obtain ⟨counter, rest⟩ := node.acknowledged item listed is
      simp only [Node.frontier_commitRows]
      exact ⟨counter.trans (advanced _), rest⟩

theorem confined_commit {next : VersionVector} (readable : entry.state.Readable deployment.json)
    (heldKey : (world.nodes thread.node).keyHolder entry.key = some thread.index)
    (heldClock : (world.nodes thread.node).clockHolder = some thread.index)
    (advanced : (world.nodes thread.node).repository.frontier ≤ next) :
    Confined deployment thread world (world.atNode thread.node
      (·.commitRows entry (.at (deployment.actor thread.node) next))) := by
  refine confined_atNode (fun _ => le_rfl) ?_ (fun key holder found other => ?_)
    fun holder found other => absurd (Option.some_inj.mp (found.symm.trans heldClock)) other
  · simp only [Node.frontier_commitRows]
    exact advanced
  · refine ⟨rfl, rfl, ?_⟩
    simp only [Node.entry_commitRows _ readable]
    refine if_neg ?_
    rintro rfl
    exact other (Option.some_inj.mp (found.symm.trans heldKey))

/-- The clock moves to a new frontier while its coroutine holds it. -/
theorem Inv.setFrontier (inv : Inv deployment discipline world) (known : world.past.Knows frontier)
    (durable : deployment.durable id = true → frontier = (world.nodes id).repository.frontier)
    (counted : world.past.honest = true →
      frontier.get (deployment.actor id) = world.past.history.count (deployment.actor id))
    (own : world.past.honest = true → ∀ mutation ∈ world.past.history,
      world.ledger.unclocked id = some mutation.dot →
      ((world.nodes id).version mutation.key).Covers mutation.dot) :
    Inv deployment discipline ((world.settle id).atNode id ({ · with frontier })) := by
  refine { inv with nodes := fun other => ?_, durable := fun other isDurable => ?_ }
  · by_cases same : other = id
    · subst same
      have unclocked : (world.settle other).ledger.unclocked other = none := Function.update_self ..
      rw [nodes_atNode_self, ledger_atNode, unclocked]
      have node := inv.nodes other
      refine { node with
        frontier := known
        settled := fun _ => ⟨rfl, durable⟩
        counted := fun honest _ => counted honest
        own := fun honest mutation member actor _ => ?_ }
      by_cases waits : world.ledger.unclocked other = some mutation.dot
      · exact own honest mutation member waits
      · exact node.own honest mutation member actor waits
    · have unclocked : (world.settle id).ledger.unclocked other = world.ledger.unclocked other :=
        Function.update_of_ne same ..
      rw [nodes_atNode_of_ne _ _ _ same, ledger_atNode, unclocked]
      exact inv.nodes other
  · have node := inv.durable other isDurable
    by_cases same : other = id
    · subst same
      rw [nodes_atNode_self]
      exact { node with }
    · rw [nodes_atNode_of_ne _ _ _ same]
      exact node

theorem confined_setFrontier (held : (world.nodes thread.node).clockHolder = some thread.index) :
    Confined deployment thread world
      ((world.settle thread.node).atNode thread.node ({ · with frontier })) where
  progress := by
    refine ⟨.refl _, fun key => ?_, ?_, List.prefix_rfl⟩ <;> rw [nodes_atNode_self]
    · exact le_rfl
    · exact le_rfl
  elsewhere id differs :=
    ⟨nodes_atNode_of_ne _ _ _ differs, Function.update_of_ne differs .., rfl⟩
  keys key holder found other := by
    rw [nodes_atNode_self]
    exact ⟨rfl, rfl, rfl⟩
  clock holder found other := absurd (Option.some_inj.mp (found.symm.trans held)) other

/-- The outbox takes in sound snapshots only. -/
theorem Inv.setOutbox (inv : Inv deployment discipline world) {outbox : Outbox}
    (sound : ∀ entry, outbox.Holds entry → (world.nodes id).outbox.Holds entry ∨
      entry.Sound deployment.json discipline world.past) :
    Inv deployment discipline (world.atNode id ({ · with outbox })) := by
  have node := inv.nodes id
  refine inv.atNode ?_ fun durable => { inv.durable id durable with }
  refine { node with
    outbox := fun entry held => ?_, settled := fun free => { node.settled free with } }
  rcases sound entry held with old | new
  · exact node.outbox entry old
  · exact new

theorem confined_setOutbox {outbox : Outbox} :
    Confined deployment thread world (world.atNode thread.node ({ · with outbox })) :=
  confined_atNode (fun _ => le_rfl) le_rfl (fun _ _ _ _ => ⟨rfl, rfl, rfl⟩)
    fun _ _ _ => ⟨rfl, rfl, rfl⟩

/-- The lock of a key changes hands; when it becomes free, row and memory agree. -/
theorem Inv.setKeyHolder (inv : Inv deployment discipline world) (id : NodeId) (key : PyStr)
    (holder : Option Nat) (synced : holder = none → deployment.durable id = true →
      (world.nodes id).repository.entry deployment.json key = (world.nodes id).store.get key) :
    Inv deployment discipline (world.atNode id fun node =>
      { node with keyHolder := Function.update node.keyHolder key holder }) := by
  have node := inv.nodes id
  refine inv.atNode { node with settled := fun free => { node.settled free with } }
    fun durable => { inv.durable id durable with synced := fun other free => ?_ }
  change Function.update (world.nodes id).keyHolder key holder other = none at free
  by_cases same : other = key
  · subst same
    rw [Function.update_self] at free
    exact synced free durable
  · rw [Function.update_of_ne same] at free
    exact (inv.durable id durable).synced other free

theorem confined_setKeyHolder {world : World} (key : PyStr) (holder : Option Nat)
    (mine : ∀ other, (world.nodes thread.node).keyHolder key = some other → other = thread.index) :
    Confined deployment thread world (world.atNode thread.node fun node =>
      { node with keyHolder := Function.update node.keyHolder key holder }) := by
  refine confined_atNode (fun _ => le_rfl) le_rfl (fun other found held differs => ?_)
    fun _ _ _ => ⟨rfl, rfl, rfl⟩
  refine ⟨Function.update_of_ne ?_ .., rfl, rfl⟩
  rintro rfl
  exact differs (mine found held)

/-- The lock of the clock changes hands; when it becomes free, the clock is settled. -/
theorem Inv.setClockHolder (inv : Inv deployment discipline world) (id : NodeId)
    (clockHolder : Option Nat) (settled : clockHolder = none →
      (world.nodes id).Settled deployment id (world.ledger.unclocked id)) :
    Inv deployment discipline (world.atNode id ({ · with clockHolder })) :=
  inv.atNode { inv.nodes id with settled := fun free => { settled free with } }
    fun durable => { inv.durable id durable with }

theorem confined_setClockHolder {world : World} (clockHolder : Option Nat)
    (mine : ∀ other, (world.nodes thread.node).clockHolder = some other → other = thread.index) :
    Confined deployment thread world (world.atNode thread.node ({ · with clockHolder })) :=
  confined_atNode (fun _ => le_rfl) le_rfl (fun _ _ _ _ => ⟨rfl, rfl, rfl⟩)
    fun holder held differs => absurd (mine holder held) differs

/-- A sound request is put on the network. -/
theorem Inv.send {world : World} (inv : Inv deployment discipline world) (target : NodeId)
    {request : Request} (sound : request.Sound deployment.json discipline world.past) :
    Inv deployment discipline
      { world with requests := world.requests ++ [⟨target, request⟩] } := by
  refine { inv with
    requests := fun envelope listed => ?_, replies := fun delivery listed => ?_ }
  · rcases List.mem_concat_cases listed with old | rfl
    · exact inv.requests envelope old
    · exact sound
  · obtain ⟨envelope, sent, sound⟩ := inv.replies delivery listed
    obtain ⟨bound, _⟩ := List.getElem?_eq_some_iff.mp sent
    exact ⟨envelope, (List.getElem?_append_left bound).trans sent, sound⟩

/-- A sound reply is put on the network. -/
theorem Inv.reply {world : World} (inv : Inv deployment discipline world) {correlation : Nat}
    {envelope : Envelope} (sent : world.requests[correlation]? = some envelope) {reply : Reply}
    (sound : reply.Sound deployment.json discipline world.past envelope.request) :
    Inv deployment discipline
      { world with replies := world.replies ++ [⟨correlation, reply⟩] } := by
  refine { inv with replies := fun delivery listed => ?_ }
  rcases List.mem_concat_cases listed with old | rfl
  · exact inv.replies delivery old
  · exact ⟨envelope, sent, sound⟩

/-- A change that leaves the nodes and the committed mutations as they are. -/
theorem confined_of_nodes {before after : World} (nodes : after.nodes = before.nodes)
    (past : after.past = before.past) (unclocked : after.ledger.unclocked = before.ledger.unclocked)
    (requests : before.requests <+: after.requests) : Confined deployment thread before after where
  progress := by
    refine ⟨?_, fun key => ?_, ?_, requests⟩
    · rw [past]
      exact .refl _
    · rw [nodes]
    · rw [nodes]
  elsewhere id _ := by rw [nodes, past, unclocked]; exact ⟨rfl, rfl, rfl⟩
  keys key _ _ _ := by rw [nodes]; exact .refl _ key _
  clock _ _ _ := by
    refine ⟨?_, ?_, ?_, ?_, ?_⟩
    · rw [nodes]
    · rw [nodes]
    · rw [nodes]
    · rw [unclocked]
    · rw [past]

/-- The counter of a mutation whose commit raised is still the next one. -/
theorem Inv.abort (inv : Inv deployment discipline world) {dot : Dot}
    (next : world.past.honest = true →
      dot.counter = world.past.history.count dot.actor + 1) :
    Inv deployment discipline { world with ledger := { world.ledger with
      aborted := world.ledger.aborted ++ [⟨dot, world.ledger.history⟩] } } := by
  refine { inv with aborted := fun honest item listed => ?_ }
  rcases List.mem_concat_cases listed with old | rfl
  · exact inv.aborted honest item old
  · exact ⟨List.prefix_rfl, next honest⟩

theorem Inv.serve (inv : Inv deployment discipline world) {served : Served}
    (sound : served.Sound deployment discipline world.past) :
    Inv deployment discipline { world with ledger := { world.ledger with
      served := world.ledger.served ++ [served] } } := by
  refine { inv with served := fun item listed => ?_ }
  rcases List.mem_concat_cases listed with old | rfl
  · exact inv.served item old
  · exact sound

/-- A mutation is acknowledged when its clock is in the tables. -/
theorem Inv.acknowledge (inv : Inv deployment discipline world) {item : Acknowledged}
    (sound : deployment.durable item.node = true →
      item.counter ≤ (world.nodes item.node).repository.frontier.get (deployment.actor item.node) ∧
        ∃ mutation ∈ world.past.history, mutation.actor = deployment.actor item.node ∧
          mutation.key = item.key ∧ mutation.dot = item.dot) :
    Inv deployment discipline { world with ledger := { world.ledger with
      acknowledged := world.ledger.acknowledged ++ [item] } } := by
  refine { inv with durable := fun id durable =>
    { inv.durable id durable with acknowledged := fun other listed is => ?_ } }
  rcases List.mem_concat_cases listed with old | rfl
  · exact (inv.durable id durable).acknowledged other old is
  · cases is
    exact sound durable

end World

end Distsys
