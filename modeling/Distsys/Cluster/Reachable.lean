import Distsys.Cluster.Reconciling

/-!
# Every reachable cluster is sound

The invariant of the world, with the safety of every coroutine, holds at first and is
kept by every step: by the operations of coroutines because they are safe, by a
message that no node sent and by a restart because they end the honest part of a run.
-/

namespace Distsys

variable {deployment : Deployment} {discipline : Discipline}

section Start

theorem Deployment.frontier_initial (deployment : Deployment) (id : NodeId) :
    (deployment.initialNode id).repository.frontier = ⊥ := by
  unfold initialNode
  dsimp only
  split
  · rw [Repository.frontier]
    simp only [decodeVersionVector_encodeVersionVector]
  · rfl

theorem Deployment.entry_initial (deployment : Deployment) (id : NodeId) (key : PyStr) :
    (deployment.initialNode id).repository.entry deployment.json key = none := by
  unfold initialNode
  dsimp only
  split <;> rfl

theorem Deployment.consistent_initial (deployment : Deployment) (id : NodeId)
    (durable : deployment.durable id = true) :
    (deployment.initialNode id).repository.Consistent deployment.json
      (deployment.identity id durable) := by
  have repository : (deployment.initialNode id).repository =
      { identity := some (deployment.identity id durable)
        clock := some ⟨0, encodeVersionVector ⊥⟩
        rows := .empty } := dif_pos durable
  refine ⟨.empty, ⟨?_, ?_, ?_⟩, fun key => ?_, fun entry listed => ?_⟩
  · rw [repository]
  · rw [repository]
    rfl
  · rw [deployment.frontier_initial, repository]
    rfl
  · exact deployment.entry_initial id key
  · exact absurd listed List.not_mem_nil

theorem World.inv_initial (deployment : Deployment) (discipline : Discipline) :
    World.Inv deployment discipline deployment.initialWorld where
  dense _ := History.dense_nil
  mutations _ member := absurd member List.not_mem_nil
  nodes id := by
    refine ⟨fun _ _ found => absurd found (Option.some_ne_none _).symm, fun entry held => ?_,
      fun _ => ?_, fun _ => ⟨rfl, ?_⟩,
      fun _ _ => rfl, fun _ _ member => absurd member List.not_mem_nil⟩
    · exact absurd held (Outbox.not_holds_initial _ _)
    · exact ⟨History.dense_nil, History.known_bot _⟩
    · exact fun durable => (deployment.frontier_initial id).symm
  durable id durable := by
    have consistent := deployment.consistent_initial id durable
    refine ⟨consistent, fun key _ => deployment.entry_initial id key, fun key entry found => ?_,
      fun _ _ found => absurd found (Option.some_ne_none _).symm,
        fun _ member => absurd member List.not_mem_nil,
      fun _ listed => absurd listed List.not_mem_nil⟩
    cases (deployment.entry_initial id key).symm.trans found
  requests _ listed := absurd listed List.not_mem_nil
  replies _ listed := absurd listed List.not_mem_nil
  served _ listed := absurd listed List.not_mem_nil
  aborted _ _ listed := absurd listed List.not_mem_nil

end Start

section Distrust

/-- The past of a run that is not honest any more. -/
theorem Past.grows_distrust (past : Past) : past.Grows { past with honest := false } :=
  ⟨List.prefix_rfl, nofun, nofun⟩

theorem World.Inv.distrust {world : World} (inv : World.Inv deployment discipline world) :
    World.Inv deployment discipline world.distrust := by
  have grows : world.past.Grows world.distrust.past := Past.grows_distrust _
  exact {
    dense := nofun
    mutations := fun mutation member => (inv.mutations mutation member).grows member grows
    nodes := fun id => (inv.nodes id).grows grows (fun _ member _ => member) rfl
    durable := inv.durable
    requests := fun envelope listed => (inv.requests envelope listed).grows grows
    replies := fun delivery listed =>
      let ⟨envelope, sent, sound⟩ := inv.replies delivery listed
      ⟨envelope, sent, sound.grows grows⟩
    served := fun served listed => (inv.served served listed).grows grows
    aborted := nofun }

theorem World.rely_distrust (thread : Thread) (world : World) :
    World.Rely deployment thread world world.distrust :=
  ⟨⟨Past.grows_distrust _, fun _ => le_rfl, le_rfl, List.prefix_rfl⟩,
    fun key _ => .refl _ key _, fun _ => ⟨rfl, rfl, rfl, rfl, rfl⟩⟩

/-- Whatever its content, a message is sound once the run is not honest any more. -/
theorem Request.sound_of_dishonest {past : Past} (dishonest : past.honest = false)
    (request : Request) : request.Sound deployment.json discipline past := by
  have vacuous : ∀ {goal : Prop}, past.honest = true → goal :=
    fun honest => nomatch dishonest.symm.trans honest
  cases request with
  | mutate | read | fetch => trivial
  | replicate msg =>
      intro entry decoded
      exact ⟨readable_of_stateFromProto decoded, vacuous, vacuous, vacuous, vacuous⟩
  | digest msg => exact fun _ _ _ _ _ _ => ⟨vacuous, vacuous, vacuous⟩

end Distrust

section Restart

variable {world : World} {id : NodeId}

/-- The state that a durable node comes back with. -/
theorem World.Inv.restore (inv : World.Inv deployment discipline world)
    (durable : deployment.durable id = true) (now : Nat) :
    ∃ memory : Store,
      (∀ key, memory.get key = (world.nodes id).repository.entry deployment.json key) ∧
      Distsys.restore deployment.json id now (world.nodes id).repository =
        .ok ⟨deployment.identity id durable,
          .at (deployment.actor id) (world.nodes id).repository.frontier, memory,
          (world.nodes id).repository⟩ :=
  (inv.durable id durable).consistent.restore (inv.durable id durable).below now

/-- A restart of a durable node. -/
theorem World.Inv.revive (inv : World.Inv deployment discipline world)
    (dishonest : world.past.honest = false) (durable : deployment.durable id = true)
    {now : Nat} {restored : RestoredNodeState}
    (result : Distsys.restore deployment.json id now (world.nodes id).repository = .ok restored) :
    World.Inv deployment discipline
      ((world.settle id).atNode id fun _ => restored.node deployment) := by
  obtain ⟨memory, entries, restores⟩ := inv.restore durable now
  cases restores.symm.trans result
  have disk := inv.durable id durable
  have vacuous : ∀ {goal : Prop}, world.past.honest = true → goal :=
    fun honest => nomatch dishonest.symm.trans honest
  refine ⟨inv.dense, inv.mutations, fun other => ?_, fun other isDurable => ?_, inv.requests,
    inv.replies, inv.served, inv.aborted⟩
  · by_cases same : other = id
    · subst same
      have unclocked : (world.settle other).ledger.unclocked other = none := Function.update_self ..
      rw [World.nodes_atNode_self, World.ledger_atNode, unclocked]
      refine ⟨fun key entry found => ?_, fun entry held => ?_, vacuous,
        fun _ => ⟨rfl, fun _ => rfl⟩,
        vacuous, vacuous⟩
      · have readable := disk.consistent.readable ((entries key).symm.trans found)
        exact ⟨readable, vacuous, vacuous, vacuous, vacuous⟩
      · exact absurd held (Outbox.not_holds_initial _ _)
    · have unclocked : (world.settle id).ledger.unclocked other = world.ledger.unclocked other :=
        Function.update_of_ne same ..
      rw [World.nodes_atNode_of_ne _ _ _ same, World.ledger_atNode, unclocked]
      exact inv.nodes other
  · by_cases same : other = id
    · subst same
      rw [World.nodes_atNode_self]
      exact ⟨disk.consistent, fun key _ => (entries key).symm, disk.below,
        fun key entry found => disk.below key entry ((entries key).symm.trans found),
        disk.committed, disk.acknowledged⟩
    · rw [World.nodes_atNode_of_ne _ _ _ same]
      exact inv.durable other isDurable

/-- The coroutines of the other nodes do not notice a restart. -/
theorem World.rely_revive {thread : Thread} (elsewhere : thread.node ≠ id) (node : Node) :
    World.Rely deployment thread world ((world.settle id).atNode id fun _ => node) := by
  have same : ((world.settle id).atNode id fun _ => node).nodes thread.node =
      world.nodes thread.node := World.nodes_atNode_of_ne _ _ _ elsewhere
  have unclocked : ((world.settle id).atNode id fun _ => node).ledger.unclocked thread.node =
      world.ledger.unclocked thread.node := Function.update_of_ne elsewhere ..
  refine ⟨⟨.refl _, fun key => ?_, ?_, List.prefix_rfl⟩, fun key _ => ?_, fun _ =>
    ⟨?_, ?_, ?_, unclocked, rfl⟩⟩
  all_goals rw [same]
  exact .refl _ key _

end Restart

section Run

/-- The invariant of the world, and every coroutine is safe from here. -/
structure Cluster.Inv (deployment : Deployment) (discipline : Discipline) (cluster : Cluster) :
    Prop where
  world : World.Inv deployment discipline cluster.world
  tasks : ∀ index task, cluster.tasks[index]? = some task →
    SafeCode deployment discipline ⟨task.node, index⟩ (fun _ _ => True) (fun _ _ => True)
      task.code cluster.world

namespace Cluster.Inv

variable {cluster : Cluster}

theorem spawn (inv : Cluster.Inv deployment discipline cluster) {id : NodeId} {code : Code Unit}
    (harmless : Harmless deployment discipline ⟨id, cluster.tasks.length⟩ code cluster.world) :
    Cluster.Inv deployment discipline (cluster.spawn id code) := by
  refine ⟨inv.world, fun index task found => ?_⟩
  change (cluster.tasks ++ [_])[index]? = some task at found
  by_cases old : index < cluster.tasks.length
  · rw [List.getElem?_append_left old] at found
    exact inv.tasks index task found
  · obtain ⟨bound, _⟩ := List.getElem?_eq_some_iff.mp found
    rw [List.length_append, List.length_singleton] at bound
    have last : index = cluster.tasks.length := by omega
    subst last
    rw [List.getElem?_concat_length] at found
    cases found
    exact (harmless.safe inv.world).weaken (fun _ _ _ _ _ => trivial) fun _ _ _ _ _ => trivial

/-- A step of the environment that all coroutines can rely on. -/
theorem move (inv : Cluster.Inv deployment discipline cluster) {world : World}
    (kept : World.Inv deployment discipline world)
    (rely : ∀ thread, World.Rely deployment thread cluster.world world) :
    Cluster.Inv deployment discipline { cluster with world } :=
  ⟨kept, fun index task found => (inv.tasks index task found).later (rely _)⟩

theorem post (inv : Cluster.Inv deployment discipline cluster) (target : NodeId)
    {request : Request}
    (sound : request.Sound deployment.json discipline cluster.world.past) :
    Cluster.Inv deployment discipline (cluster.post target request) := by
  refine inv.move (inv.world.send target sound) fun thread => ?_
  refine ⟨⟨.refl _, fun _ => le_rfl, le_rfl, List.prefix_append _ _⟩, fun key _ => .refl _ key _,
    fun _ => ⟨rfl, rfl, rfl, rfl, rfl⟩⟩

theorem distrust (inv : Cluster.Inv deployment discipline cluster) :
    Cluster.Inv deployment discipline cluster.distrust :=
  inv.move inv.world.distrust fun thread => World.rely_distrust thread _

theorem revive (inv : Cluster.Inv deployment discipline cluster)
    (dishonest : cluster.world.past.honest = false) {id : NodeId}
    (durable : deployment.durable id = true) {now : Nat} {restored : RestoredNodeState}
    (result : restore deployment.json id now (cluster.world.nodes id).repository = .ok restored) :
    Cluster.Inv deployment discipline (cluster.revive id (restored.node deployment)) := by
  refine ⟨inv.world.revive dishonest durable result, fun index task found => ?_⟩
  change (cluster.tasks.map _)[index]? = some task at found
  obtain ⟨original, listed, rfl⟩ := Option.map_eq_some_iff.mp (List.getElem?_map ▸ found)
  split
  · exact fun _ _ _ => trivial
  · next elsewhere =>
    exact (inv.tasks index original listed).later (World.rely_revive elsewhere _)

/-- One operation of one coroutine. -/
theorem runTask (inv : Cluster.Inv deployment discipline cluster) {index : Nat} {choice : Choice}
    {next : Cluster} (stepped : cluster.runTask index choice = some next)
    (meets : ∀ op ∈ cluster.performed (.run index choice), discipline.Allows cluster.world op) :
    Cluster.Inv deployment discipline next := by
  unfold Cluster.runTask at stepped
  split at stepped
  · next id op rest found =>
    split at stepped
    · next answer world executed =>
      cases stepped
      have allows : discipline.Allows cluster.world op := by
        refine meets op ?_
        rw [Cluster.performed, found]
        rfl
      have safe := inv.tasks index _ found
      obtain ⟨guarantee, safe⟩ := Prog.Safe.step safe inv.world ⟨allows, choice, executed⟩
      refine ⟨guarantee.inv, fun other task listed => ?_⟩
      by_cases same : index = other
      · subst same
        have bound := (List.getElem?_eq_some_iff.mp found).1
        rw [List.getElem?_set_self bound] at listed
        cases listed
        exact safe
      · rw [List.getElem?_set_ne same] at listed
        refine (inv.tasks other task listed).later (guarantee.others _ fun is => same ?_)
        exact (congrArg Thread.index is).symm
    · cases stepped
  · cases stepped

theorem step (inv : Cluster.Inv deployment discipline cluster) {next : Cluster} (label : Label)
    (stepped : cluster.step deployment label = some next)
    (meets : ∀ op ∈ cluster.performed label, discipline.Allows cluster.world op) :
    Cluster.Inv deployment discipline next := by
  cases label with
  | client target request =>
      simp only [Cluster.step] at stepped
      split at stepped
      · next fromClient =>
        cases stepped
        refine inv.post target ?_
        cases request with
        | mutate | read => trivial
        | replicate | fetch | digest => cases fromClient
      · cases stepped
  | deliver correlation =>
      simp only [Cluster.step] at stepped
      split at stepped
      · next envelope sent =>
        cases stepped
        exact inv.spawn (yields_handleMessage sent)
      · cases stepped
  | run index choice => exact inv.runTask stepped meets
  | replicator id =>
      cases stepped
      exact inv.spawn harmless_workerTurn
  | antiEntropy id =>
      cases stepped
      exact inv.spawn (harmless_runOnce.bind fun _ _ _ _ => harmless_pure _)
  | recovery id peers =>
      cases stepped
      exact inv.spawn (harmless_reconcile.bind fun _ _ _ _ => harmless_pure _)
  | inject target request =>
      cases stepped
      exact inv.distrust.post target (Request.sound_of_dishonest rfl request)
  | restart id now =>
      simp only [Cluster.step] at stepped
      split at stepped
      · next durable =>
        split at stepped
        · next restored result =>
          cases stepped
          exact inv.distrust.revive rfl durable result
        · cases stepped
      · cases stepped

end Cluster.Inv

/-- The invariant holds in every cluster that is reached. -/
theorem Reachable.inv {cluster : Cluster} (reached : Reachable deployment discipline cluster) :
    Cluster.Inv deployment discipline cluster := by
  induction reached with
  | initial => exact ⟨World.inv_initial deployment discipline, fun _ _ found => nomatch found⟩
  | step label _ stepped meets ih => exact ih.step label stepped meets

end Run

end Distsys
