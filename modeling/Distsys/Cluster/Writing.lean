import Distsys.Cluster.Locking

/-!
# Writes under the locks

The rules for the operations that change what a node stores: replacing the entry in
memory, committing its row with the clock, and moving the clock. `World.Locked` is
all that a coroutine with both locks knows of what they protect.
-/

namespace Distsys

variable {deployment : Deployment} {discipline : Discipline} {thread : Thread} {α β : Type}
  {good : α → World → Prop} {bad : PyError → World → Prop} {world : World} {entry : StoredCrdtEntry}
  {expectedType : Option CrdtType} {next : Except PyError Unit → Code α} {mutation : Mutation}

section Conditions

variable (deployment : Deployment) (discipline : Discipline) (thread : Thread)

/-- The entry may replace what is stored under its key. -/
structure World.Replaces (entry : StoredCrdtEntry) (expectedType : Option CrdtType)
    (world : World) : Prop where
  holder : (world.nodes thread.node).keyHolder entry.key = some thread.index
  expected : ∀ crdtType, expectedType = some crdtType → crdtType = entry.crdtType
  types : ∀ existing, (world.nodes thread.node).store.get entry.key = some existing →
    existing.crdtType = entry.crdtType
  above : (world.nodes thread.node).version entry.key ≤ entry.stateVersion
  absorbed : deployment.durable thread.node = true →
    entry.causalContext ≤ (world.nodes thread.node).repository.frontier

/-- The row of the entry may be written, with the clock at the frontier. -/
structure World.Commits (entry : StoredCrdtEntry) (frontier : VersionVector) (world : World) :
    Prop where
  keyHolder : (world.nodes thread.node).keyHolder entry.key = some thread.index
  clockHolder : (world.nodes thread.node).clockHolder = some thread.index
  readable : entry.state.Readable deployment.json
  above : ∀ row, (world.nodes thread.node).repository.entry deployment.json entry.key = some row →
    row.stateVersion ≤ entry.stateVersion
  absorbed : entry.causalContext ≤ frontier
  advanced : (world.nodes thread.node).repository.frontier ≤ frontier

/-- The mutation may be entered into the ledger. -/
structure World.Records (mutation : Mutation) (world : World) : Prop where
  prepared : ∃ base, mutation.Prepared deployment discipline world.past base
  actor : mutation.actor = deployment.actor thread.node
  clockHolder : (world.nodes thread.node).clockHolder = some thread.index
  unclocked : world.ledger.unclocked thread.node = none

end Conditions

theorem World.Replaces.result (replaces : world.Replaces deployment thread entry expectedType) :
    (world.nodes thread.node).store.replace entry expectedType =
      .ok ((world.nodes thread.node).store.put entry) :=
  Store.replace_of_types replaces.expected replaces.types

theorem safe_replace
    (steps : ∀ now, World.Inv deployment discipline now → World.Rely deployment thread world now →
      entry.Sound deployment.json discipline now.past ∧
        now.Replaces deployment thread entry expectedType ∧
        ∀ after, after = now.atNode thread.node
            (·.put entry) →
          World.Inv deployment discipline after →
          SafeCode deployment discipline thread good bad (next (.ok ())) after) :
    SafeCode deployment discipline thread good bad
      (perform (.replace entry expectedType none) >>= next) world := by
  refine safe_perform fun now inv rely _ choice answer after result => ?_
  obtain ⟨sound, replaces, continues⟩ := steps now inv rely
  simp only [World.exec, replaces.result] at result
  cases result
  have reached := inv.put sound
    (replaces.holder.trans_ne (Option.some_ne_none _)) replaces.above replaces.absorbed
  have confined := @World.confined_put deployment thread now entry replaces.holder replaces.above
  exact ⟨confined.guarantee reached, continues _ rfl reached⟩

/-- A commit to memory. -/
theorem safe_replace_commit (memory : deployment.durable thread.node = false)
    (steps : ∀ now, World.Inv deployment discipline now → World.Rely deployment thread world now →
      (discipline.bounded = true → mutation.Bounded) →
      now.Records deployment discipline thread mutation ∧
        now.Replaces deployment thread mutation.after expectedType ∧
        ∀ after, after = (now.record thread.node (some mutation)).atNode thread.node
            (·.put mutation.after) →
          World.Inv deployment discipline after →
          SafeCode deployment discipline thread good bad (next (.ok ())) after) :
    SafeCode deployment discipline thread good bad
      (perform (.replace mutation.after expectedType (some mutation)) >>= next) world := by
  refine safe_perform fun now inv rely allows choice answer after result => ?_
  obtain ⟨records, replaces, continues⟩ :=
    steps now inv rely fun bounded => allows.2 bounded mutation rfl
  obtain ⟨base, prepared⟩ := records.prepared
  simp only [World.exec, replaces.result] at result
  cases result
  have recorded := inv.record prepared records.actor
    (records.clockHolder.trans_ne (Option.some_ne_none _))
    records.unclocked fun durable => absurd (memory.symm.trans durable) Bool.false_ne_true
  have entered := World.confined_record prepared records.actor records.clockHolder
  have reached := @World.Inv.put deployment discipline _ recorded thread.node _ prepared.after
    (replaces.holder.trans_ne (Option.some_ne_none _))
    replaces.above replaces.absorbed
  have confined := @World.confined_put deployment thread (now.record thread.node (some mutation))
    mutation.after replaces.holder replaces.above
  exact ⟨(entered.trans confined).guarantee reached, continues _ rfl reached⟩

theorem safe_commitRows {frontier : VersionVector}
    (steps : ∀ now, World.Inv deployment discipline now → World.Rely deployment thread world now →
      now.Commits deployment thread entry frontier ∧
        (∀ error, SafeCode deployment discipline thread good bad (next (.error error)) now) ∧
        ∀ after, after = now.atNode thread.node
            (·.commitRows entry (.at (deployment.actor thread.node) frontier)) →
          World.Inv deployment discipline after →
          SafeCode deployment discipline thread good bad (next (.ok ())) after) :
    SafeCode deployment discipline thread good bad
      (perform (.commitRows entry (.at (deployment.actor thread.node) frontier) none) >>= next)
      world := by
  refine safe_perform fun now inv rely _ choice answer after result => ?_
  obtain ⟨commits, fails, continues⟩ := steps now inv rely
  have reached := @World.Inv.commit deployment discipline _ inv thread.node _ _ commits.readable
    (commits.keyHolder.trans_ne nofun) (commits.clockHolder.trans_ne nofun) commits.above
    commits.absorbed commits.advanced
  have confined := World.confined_commit commits.readable commits.keyHolder commits.clockHolder
    commits.advanced
  cases choice with
  | failure error =>
      cases result
      exact ⟨(World.Confined.refl now).guarantee inv, fails error⟩
  | nothing | nodes | node | millis | delivery =>
      cases result
      exact ⟨confined.guarantee reached, continues _ rfl reached⟩

/-- A commit to the tables. The mutation is part of the past from here on, although the
memory does not have it yet. -/
theorem safe_commitRows_commit {frontier : VersionVector}
    (steps : ∀ now, World.Inv deployment discipline now → World.Rely deployment thread world now →
      (discipline.bounded = true → mutation.Bounded) →
      now.Records deployment discipline thread mutation ∧
        now.Commits deployment thread mutation.after frontier ∧
        frontier.Covers mutation.dot ∧
        (∀ error, SafeCode deployment discipline thread good bad (next (.error error)) now) ∧
        ∀ after, after = (now.record thread.node (some mutation)).atNode thread.node
            (·.commitRows mutation.after (.at (deployment.actor thread.node) frontier)) →
          World.Inv deployment discipline after →
          SafeCode deployment discipline thread good bad (next (.ok ())) after) :
    SafeCode deployment discipline thread good bad
      (perform (.commitRows mutation.after (.at (deployment.actor thread.node) frontier)
        (some mutation)) >>= next) world := by
  refine safe_perform fun now inv rely allows choice answer after result => ?_
  obtain ⟨records, commits, covers, fails, continues⟩ :=
    steps now inv rely fun bounded => allows.2 bounded mutation rfl
  obtain ⟨base, prepared⟩ := records.prepared
  have committed := @World.Inv.commit deployment discipline _ inv thread.node _ _ commits.readable
    (commits.keyHolder.trans_ne nofun) (commits.clockHolder.trans_ne nofun) commits.above
    commits.absorbed commits.advanced
  have confined := World.confined_commit commits.readable commits.keyHolder commits.clockHolder
    commits.advanced
  have clockHolder : ((now.atNode thread.node (·.commitRows mutation.after
      (.at (deployment.actor thread.node) frontier))).nodes thread.node).clockHolder =
      some thread.index := by
    rw [World.nodes_atNode_self]
    exact records.clockHolder
  have reached := @World.Inv.record deployment discipline _ committed thread.node _ _ prepared
    records.actor
    (clockHolder.trans_ne nofun) records.unclocked fun _ => by
      rw [World.nodes_atNode_self]
      simp only [Node.entry_commitRows _ commits.readable, Node.frontier_commitRows,
        prepared.key, ↓reduceIte]
      refine ⟨⟨_, rfl, ?_⟩, covers⟩
      rw [prepared.version]
      exact VersionVector.covers_withDot_self _ _
  have entered := @World.confined_record deployment discipline thread
    (now.atNode thread.node _) _ _ prepared
    records.actor clockHolder
  cases choice with
  | failure error =>
      cases result
      exact ⟨(World.Confined.refl now).guarantee inv, fails error⟩
  | nothing | nodes | node | millis | delivery =>
      cases result
      exact ⟨(confined.trans entered).guarantee reached, continues _ rfl reached⟩

theorem safe_setFrontier {frontier : VersionVector} {next : Unit → Code α}
    (steps : ∀ now, World.Inv deployment discipline now → World.Rely deployment thread world now →
      (now.nodes thread.node).clockHolder = some thread.index ∧
        now.past.Knows frontier ∧
        (deployment.durable thread.node = true →
          frontier = (now.nodes thread.node).repository.frontier) ∧
        (now.past.honest = true → frontier.get (deployment.actor thread.node) =
          now.past.history.count (deployment.actor thread.node)) ∧
        (now.past.honest = true → ∀ mutation ∈ now.past.history,
          now.ledger.unclocked thread.node = some mutation.dot →
          ((now.nodes thread.node).version mutation.key).Covers mutation.dot) ∧
        ∀ after, after = (now.settle thread.node).atNode thread.node ({ · with frontier }) →
          World.Inv deployment discipline after →
          SafeCode deployment discipline thread good bad (next ()) after) :
    SafeCode deployment discipline thread good bad
      (perform (.setFrontier frontier) >>= next) world := by
  refine safe_perform fun now inv rely _ choice answer after result => ?_
  obtain ⟨holder, known, durable, counted, own, continues⟩ := steps now inv rely
  cases result
  have reached := inv.setFrontier known durable counted own
  exact ⟨(World.confined_setFrontier holder).guarantee reached, continues _ rfl reached⟩

/-- Everything under the lock of a key and the lock of the clock. -/
structure World.Locked (deployment : Deployment) (thread : Thread) (key : PyStr)
    (stored row : Option StoredCrdtEntry) (disk frontier : VersionVector) (unclocked : Option Dot)
    (count : Nat) (world : World) : Prop where
  keyHolder : (world.nodes thread.node).keyHolder key = some thread.index
  clockHolder : (world.nodes thread.node).clockHolder = some thread.index
  stored : (world.nodes thread.node).store.get key = stored
  row : (world.nodes thread.node).repository.entry deployment.json key = row
  disk : (world.nodes thread.node).repository.frontier = disk
  frontier : (world.nodes thread.node).frontier = frontier
  unclocked : world.ledger.unclocked thread.node = unclocked
  count : world.past.history.count (deployment.actor thread.node) = count

namespace World.Locked

variable {key : PyStr} {stored row : Option StoredCrdtEntry} {disk frontier : VersionVector}
  {unclocked : Option Dot} {count : Nat}

theorem rely {now : World}
    (locked : world.Locked deployment thread key stored row disk frontier unclocked count)
    (rely : World.Rely deployment thread world now) :
    now.Locked deployment thread key stored row disk frontier unclocked count := by
  have kept := rely.key key locked.keyHolder
  have clock := rely.clock locked.clockHolder
  exact ⟨kept.holder.trans locked.keyHolder, clock.holder.trans locked.clockHolder,
    kept.stored.trans locked.stored, kept.row.trans locked.row, clock.disk.trans locked.disk,
    clock.frontier.trans locked.frontier, clock.unclocked.trans locked.unclocked,
    clock.count.trans locked.count⟩

/-- Both locks have just been taken. -/
theorem of_held (held : world.KeyHeld deployment thread key)
    (clock : world.ClockHeld deployment thread)
    (found : (world.nodes thread.node).store.get key = stored)
    (read : (world.nodes thread.node).frontier = frontier) :
    ∃ row disk count, world.Locked deployment thread key stored row disk frontier none count ∧
      (deployment.durable thread.node = true → row = stored ∧ disk = frontier) :=
  ⟨_, _, _, ⟨held.holder, clock.holder, found, rfl, rfl, read, clock.settled.unclocked, rfl⟩,
    fun durable => ⟨(held.synced durable).trans found,
      (clock.settled.frontier durable).symm.trans read⟩⟩

theorem keyHeld
    (locked : world.Locked deployment thread key stored row disk frontier unclocked count)
    (synced : deployment.durable thread.node = true → row = stored) :
    world.KeyHeld deployment thread key :=
  ⟨locked.keyHolder, fun durable => locked.row.trans ((synced durable).trans locked.stored.symm)⟩

theorem clockHeld (locked : world.Locked deployment thread key stored row disk frontier none count)
    (settled : deployment.durable thread.node = true → disk = frontier) :
    world.ClockHeld deployment thread :=
  ⟨locked.clockHolder, locked.unclocked,
    fun durable => locked.frontier.trans ((settled durable).symm.trans locked.disk.symm)⟩

theorem version
    (locked : world.Locked deployment thread key stored row disk frontier unclocked count) :
    (world.nodes thread.node).version key = stored.elim ⊥ (·.stateVersion) := by
  rw [Node.version, locked.stored]

theorem put {entry : StoredCrdtEntry}
    (locked : world.Locked deployment thread entry.key stored row disk frontier unclocked count) :
    (world.atNode thread.node (·.put entry)).Locked deployment thread entry.key (some entry) row
      disk frontier unclocked count := by
  refine ⟨?_, ?_, ?_, ?_, ?_, ?_, locked.unclocked, locked.count⟩ <;> rw [nodes_atNode_self]
  · exact locked.keyHolder
  · exact locked.clockHolder
  · exact Store.get_put_self _ entry
  · exact locked.row
  · exact locked.disk
  · exact locked.frontier

theorem commitRows (readable : entry.state.Readable deployment.json) (next : VersionVector)
    (locked : world.Locked deployment thread entry.key stored row disk frontier unclocked count) :
    (world.atNode thread.node (·.commitRows entry (.at (deployment.actor thread.node) next))).Locked
      deployment thread entry.key stored (some entry) next frontier unclocked count := by
  refine ⟨?_, ?_, ?_, ?_, ?_, ?_, locked.unclocked, locked.count⟩ <;> rw [nodes_atNode_self]
  · exact locked.keyHolder
  · exact locked.clockHolder
  · exact locked.stored
  · rw [Node.entry_commitRows _ readable, if_pos rfl]
  · exact Node.frontier_commitRows _ _ _
  · exact locked.frontier

theorem record {mutation : Mutation} (actor : mutation.actor = deployment.actor thread.node)
    (locked : world.Locked deployment thread key stored row disk frontier unclocked count) :
    (world.record thread.node (some mutation)).Locked deployment thread key stored row disk frontier
      (some mutation.dot) (count + 1) := by
  refine ⟨locked.keyHolder, locked.clockHolder, locked.stored, locked.row, locked.disk,
    locked.frontier, Function.update_self .., ?_⟩
  change (world.past.history ++ [mutation]).count _ = _
  rw [History.count_append, History.count_singleton, if_pos actor, locked.count]

theorem setFrontier {next : VersionVector}
    (locked : world.Locked deployment thread key stored row disk frontier unclocked count) :
    ((world.settle thread.node).atNode thread.node
      (fun node => { node with frontier := next })).Locked
      deployment thread key stored row disk next none count := by
  refine ⟨?_, ?_, ?_, ?_, ?_, ?_, Function.update_self .., locked.count⟩ <;> rw [nodes_atNode_self]
  · exact locked.keyHolder
  · exact locked.clockHolder
  · exact locked.stored
  · exact locked.row
  · exact locked.disk

end World.Locked

end Distsys
