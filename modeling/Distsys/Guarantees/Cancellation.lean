import Distsys.Guarantees.Recovery
import Distsys.Node.Tables

/-!
# Cancelled merges

A merge that is cancelled while its commit is run by a thread gives up the locks of its key
and of the clock, and the commit is run all the same. A mutation of the key can be
committed and acknowledged before it, and the older commit then overwrites its row. It
cannot if commits of a key wait for the abandoned ones.
-/

namespace Distsys

variable {deployment : Deployment} {id : NodeId} {system : NodeSystem}

/-- In a run whose commits wait for the abandoned ones of their key, the commits of each key
take effect in the order of their critical sections, and the row of a key contains every
mutation that was acknowledged. -/
theorem acknowledged_rows_of_awaits (durable : deployment.durable id = true)
    (run : NodeRun deployment id (fun system label => system.awaits label = true)
      (.initial deployment) system) :
    system.effects.Pairwise system.Before ∧
      ∀ item ∈ system.world.ledger.acknowledged, ∃ mutation ∈ system.world.ledger.history,
        mutation.dot = item.dot ∧ mutation.key = item.key ∧
        ∃ row, (system.world.nodes id).Row row ∧ row.key = item.key ∧
          mutation.after.Retained row ∧ row.stateVersion.Covers item.dot := by
  obtain ⟨watch, watched, growth, tables, queued⟩ := run.invariant
    (fun system watch => Growth deployment id system watch ∧ Tables id system watch ∧ system.Queued)
    (watched_initial deployment id) ⟨growth_initial deployment id, tables_initial deployment id⟩
    fun watched inv meets moves =>
      ⟨inv.1.moves watched moves, inv.2.1.moves inv.2.2 watched durable moves meets⟩
  refine ⟨queued.effects, fun item listed => ?_⟩
  obtain ⟨_, mutation, member, dot, key, made, stored, found, retained⟩ :=
    growth.acknowledged item listed
  obtain ⟨row, placed, kept⟩ := tables.stored _ stored found
  have contains := retained.trans kept
  refine ⟨mutation, member, dot, key, row, placed, ?_, contains, ?_⟩
  · rw [contains.key, made.key, key]
  · have covers : mutation.after.stateVersion.Covers mutation.dot := by
      rw [made.version]
      exact VersionVector.covers_withDot_self _ _
    rw [← dot]
    exact covers.mono contains.stateVersion

/-- An entry of a counter that the other node has incremented once. -/
def remoteIncrement : StoredCrdtEntry :=
  let version := VersionVector.withDot ⊥ ⟨archives.actor west, 1, Nat.one_pos⟩
  .ofLetter 107 (.gcounter ⟨version⟩) version version

/-- Several operations of one coroutine of the node. -/
def NodeLabel.turns (index count : Nat) : List NodeLabel :=
  List.replicate count (.run index (.nodes [east, west]))

/-- East merges the entry, and the merge is cancelled while it is committed. -/
def cancelledMerge : List NodeLabel :=
  .start (.merge remoteIncrement) :: NodeLabel.turns 0 4 ++ [.launch 0, .cancel 0 0] ++
    NodeLabel.turns 0 2

/-- East increments the counter and acknowledges. -/
def laterIncrement : List NodeLabel :=
  .start (.message 0 (incrementRequest (.letter 107) 1)) :: NodeLabel.turns 1 9 ++
    [.launch 1, .finish 1 none, .resume 1 1] ++ NodeLabel.turns 1 14

/-- The abandoned commit finishes first, and the row contains the increment. -/
theorem finished_first_keeps_row : ∃ system item,
    NodeRun archives east (fun system label => system.awaits label = true)
      (.initial archives) system ∧ item ∈ system.world.ledger.acknowledged ∧
    ∃ row, (system.world.nodes east).Row row ∧ row.stateVersion.Covers item.dot := by
  obtain ⟨system, run, facts⟩ := NodeRun.exists_of_run archives east NodeSystem.awaits
    (cancelledMerge ++ [.finish 0 none] ++ laterIncrement)
    (fun system => system.world.ledger.acknowledged.length == 1) (by decide +kernel)
  obtain ⟨item, acknowledged⟩ := List.length_eq_one_iff.mp (beq_iff_eq.mp facts)
  have listed : item ∈ system.world.ledger.acknowledged :=
    acknowledged ▸ List.mem_singleton_self item
  obtain ⟨_, rows⟩ := @acknowledged_rows_of_awaits archives east system rfl run
  obtain ⟨_, _, _, _, row, placed, _, _, covers⟩ := rows item listed
  exact ⟨system, item, run, listed, row, placed, covers⟩

/-- The abandoned commit finishes last, and the row does not contain the increment. -/
theorem finished_last_loses_row : ∃ system item,
    NodeRun archives east (fun _ _ => True) (.initial archives) system ∧
    (∀ job ∈ system.jobs, job.outcome ≠ none) ∧ item ∈ system.world.ledger.acknowledged ∧
    ∃ entry, (system.world.nodes east).repository.entry archives.json item.key = some entry ∧
      ¬ entry.stateVersion.Covers item.dot := by
  obtain ⟨system, run, facts⟩ := NodeRun.exists_of_run archives east (fun _ _ => true)
    (cancelledMerge ++ laterIncrement ++ [.finish 0 none])
    (fun system => system.jobs.all (·.outcome.isSome) &&
      system.world.ledger.acknowledged.any fun item =>
        ((system.world.nodes east).repository.entry archives.json item.key).any fun entry =>
          ¬ entry.stateVersion.Covers item.dot) (by decide +kernel)
  simp only [Bool.and_eq_true, List.all_eq_true, List.any_eq_true, Option.any_eq_true,
    decide_eq_true_eq] at facts
  obtain ⟨finished, item, listed, entry, row, lost⟩ := facts
  refine ⟨system, item, run.mono fun _ _ _ => trivial, fun job among => ?_, listed, entry,
    row, lost⟩
  exact Option.isSome_iff_ne_none.mp (finished job among)

end Distsys
