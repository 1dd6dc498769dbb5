import Distsys.Guarantees.Versions

/-!
# Crash recovery

A durable node may crash between any two operations, also between the commit of its
rows and the write to its memory. What it restores from its tables contains every
acknowledged mutation, and its clock is past every dot it has committed.
-/

namespace Distsys

variable {deployment : Deployment} {discipline : Discipline} {cluster : Cluster}

/-- The dot a clock allocates is past everything its frontier covers. -/
theorem CausalClock.nextDot_ne {actor : CausalActor} {frontier : VersionVector} {dot : Dot}
    (covers : dot.actor = actor → frontier.Covers dot) (observed : VersionVector) :
    nextDot actor (frontier.merge observed) ≠ dot := by
  rintro rfl
  have bound : (frontier.merge observed).get actor + 1 ≤ frontier.get actor := covers rfl
  rw [Tally.merge_eq_sup, Tally.get_sup] at bound
  omega

/-- What a durable node restores, at any point of a run in which coroutines are not cancelled. (A
write that is cancelled during its commit may reach the tables after a later one.) -/
theorem crash_recovery (reached : Reachable deployment discipline cluster) (id : NodeId)
    (durable : deployment.durable id = true) (now : Nat) :
    ∃ restored, restore deployment.json id now (cluster.world.nodes id).repository = .ok restored ∧
      (∀ key, restored.memoryStore.get key =
        (cluster.world.nodes id).repository.entry deployment.json key) ∧
      restored.causalState.actor = deployment.actor id ∧
      (∀ item ∈ cluster.world.ledger.acknowledged, item.node = id →
        (∃ entry, restored.memoryStore.get item.key = some entry ∧
          entry.stateVersion.Covers item.dot) ∧
        item.counter ≤ restored.causalState.localCounter) ∧
      (∀ key entry, restored.memoryStore.get key = some entry →
        entry.causalContext ≤ restored.causalState.frontier) ∧
      ∀ observed, ∀ mutation ∈ cluster.world.ledger.history,
        CausalClock.nextDot restored.causalState.actor
          (restored.causalState.frontier.merge observed) ≠ mutation.dot := by
  have inv := reached.inv.world
  have disk := inv.durable id durable
  obtain ⟨memory, entries, restores⟩ := inv.restore durable now
  refine ⟨_, restores, entries, rfl, fun item listed is => ?_, fun key entry found => ?_,
    fun observed mutation member => ?_⟩
  · obtain ⟨counter, mutation, member, actor, key, dot⟩ := disk.acknowledged item listed is
    obtain ⟨⟨entry, row, covers⟩, _⟩ := disk.committed mutation member actor
    rw [key] at row
    rw [dot] at covers
    exact ⟨⟨entry, (entries item.key).trans row, covers⟩, counter⟩
  · exact disk.below key entry ((entries key).symm.trans found)
  · exact CausalClock.nextDot_ne (fun actor => (disk.committed mutation member actor).2) observed

/-- Two nodes with databases. -/
def archives : Deployment :=
  { pair with incarnation := fun _ => 1, durable := fun _ => true, settled := fun _ _ => by decide }

/-- East increments a counter and answers. -/
def archivedIncrement : List Label :=
  [.client east (incrementRequest (.letter 107) 1), .deliver 0] ++ turns 0 24

/-- What this run acknowledges is restored. -/
theorem archivedIncrement_recovers :
    ∃ cluster restored entry item, Reachable archives {} cluster ∧
      item ∈ cluster.world.ledger.acknowledged ∧
      restore archives.json east 0 (cluster.world.nodes east).repository = .ok restored ∧
      restored.memoryStore.get item.key = some entry ∧ entry.stateVersion.Covers item.dot := by
  obtain ⟨cluster, reached, facts⟩ := Reachable.exists_of_run archives {} archivedIncrement
    (fun cluster => cluster.world.ledger.acknowledged.any fun item => item.node == east)
    (by decide +kernel)
  simp only [List.any_eq_true, beq_iff_eq] at facts
  obtain ⟨item, listed, is⟩ := facts
  obtain ⟨restored, restores, _, _, acknowledged, _⟩ := crash_recovery reached east rfl 0
  obtain ⟨⟨entry, found, covers⟩, _⟩ := acknowledged item listed is
  exact ⟨cluster, restored, entry, item, reached, listed, restores, found, covers⟩

end Distsys
