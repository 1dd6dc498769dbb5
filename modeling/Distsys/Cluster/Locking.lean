import Distsys.Cluster.Operations

/-!
# Locks and what is written under them

A coroutine that holds the lock of a key finds row and memory of the key in
agreement and must leave them so; one that holds the clock finds it settled. The
rules for the two locks and for the writes that happen under them.
-/

namespace Distsys

variable {deployment : Deployment} {discipline : Discipline} {thread : Thread} {α : Type}
  {good : α → World → Prop} {bad : PyError → World → Prop} {world : World} {property : World → Prop}
  {key : PyStr} {next : Unit → Code α} {body : Code α}

section Held

variable (deployment : Deployment) (discipline : Discipline) (thread : Thread)

/-- The coroutine holds the lock of the key, and row and memory agree. -/
structure World.KeyHeld (key : PyStr) (world : World) : Prop where
  holder : (world.nodes thread.node).keyHolder key = some thread.index
  synced : deployment.durable thread.node = true →
    (world.nodes thread.node).repository.entry deployment.json key =
      (world.nodes thread.node).store.get key

/-- The coroutine holds the clock, and no commit waits for it. -/
structure World.ClockHeld (world : World) : Prop where
  holder : (world.nodes thread.node).clockHolder = some thread.index
  settled : (world.nodes thread.node).Settled deployment thread.node
    (world.ledger.unclocked thread.node)

/-- What other coroutines do not disturb and the lock of the clock does not affect. -/
structure World.Lasting (property : World → Prop) : Prop where
  rely : ∀ {before after : World}, World.Rely deployment thread before after → property before →
    property after
  clock : ∀ {before : World} (clockHolder : Option Nat), property before →
    property (before.atNode thread.node ({ · with clockHolder }))

end Held

theorem World.KeyHeld.rely {key : PyStr} {before after : World}
    (held : before.KeyHeld deployment thread key)
    (rely : World.Rely deployment thread before after) : after.KeyHeld deployment thread key := by
  have kept := rely.key key held.holder
  refine ⟨kept.holder.trans held.holder, fun durable => ?_⟩
  rw [kept.row, kept.stored]
  exact held.synced durable

theorem World.ClockHeld.rely {before after : World} (held : before.ClockHeld deployment thread)
    (rely : World.Rely deployment thread before after) : after.ClockHeld deployment thread := by
  have kept := rely.clock held.holder
  refine ⟨kept.holder.trans held.holder, kept.unclocked.trans held.settled.unclocked,
    fun durable => ?_⟩
  rw [kept.frontier, kept.disk]
  exact held.settled.frontier durable

theorem World.progress_clockHolder (world : World) (id : NodeId) (clockHolder : Option Nat) :
    World.Progress id world (world.atNode id ({ · with clockHolder })) := by
  refine ⟨.refl _, fun key => ?_, ?_, List.prefix_rfl⟩ <;> rw [World.nodes_atNode_self]
  exact le_rfl

theorem World.Lasting.of_progress
    (grows : ∀ {before after : World}, World.Progress thread.node before after → property before →
      property after) : World.Lasting deployment thread property :=
  ⟨fun rely => grows rely.progress, fun clockHolder => grows (progress_clockHolder _ _ clockHolder)⟩

theorem World.lasting_const (fact : Prop) : World.Lasting deployment thread fun _ => fact :=
  ⟨fun _ => id, fun _ => id⟩

theorem World.Lasting.and {first second : World → Prop}
    (left : World.Lasting deployment thread first)
    (right : World.Lasting deployment thread second) :
    World.Lasting deployment thread fun world => first world ∧ second world :=
  ⟨fun rely both => ⟨left.rely rely both.1, right.rely rely both.2⟩,
    fun holder both => ⟨left.clock holder both.1, right.clock holder both.2⟩⟩

/-- The lock of a key with what is stored under it. -/
theorem World.lasting_keyHeld (key : PyStr) (stored : Option StoredCrdtEntry) :
    World.Lasting deployment thread fun world => world.KeyHeld deployment thread key ∧
      (world.nodes thread.node).store.get key = stored where
  rely rely both :=
    ⟨both.1.rely rely, (rely.key key both.1.holder).stored.trans both.2⟩
  clock clockHolder both := by
    refine ⟨⟨?_, fun durable => ?_⟩, ?_⟩ <;> rw [nodes_atNode_self]
    · exact both.1.holder
    · exact both.1.synced durable
    · exact both.2

/-- The lock of a key alone. -/
theorem World.lasting_held (key : PyStr) :
    World.Lasting deployment thread fun world => world.KeyHeld deployment thread key where
  rely rely held := held.rely rely
  clock clockHolder held := ((World.lasting_keyHeld key _).clock clockHolder ⟨held, rfl⟩).1

theorem safe_acquireKey (continues : ∀ now, World.Inv deployment discipline now →
      World.Progress thread.node world now → now.KeyHeld deployment thread key →
      SafeCode deployment discipline thread good bad (next ()) now) :
    SafeCode deployment discipline thread good bad (perform (.acquireKey key) >>= next) world := by
  refine safe_perform fun now inv rely _ choice answer after result => ?_
  simp only [World.exec] at result
  split at result
  · next free =>
    cases result
    have reached := inv.setKeyHolder thread.node key (some thread.index) (by rintro ⟨⟩)
    have confined := @World.confined_setKeyHolder deployment thread now key (some thread.index)
      fun other held => absurd (free.symm.trans held) (Option.some_ne_none other).symm
    refine ⟨confined.guarantee reached,
      continues _ reached (rely.progress.trans confined.progress) ⟨?_, fun durable => ?_⟩⟩
    · rw [World.nodes_atNode_self]
      exact Function.update_self ..
    · rw [World.nodes_atNode_self]
      exact (inv.durable thread.node durable).synced key free
  · cases result

theorem safe_releaseKey (held : world.KeyHeld deployment thread key)
    (continues : ∀ now, World.Inv deployment discipline now →
      World.Progress thread.node world now →
      SafeCode deployment discipline thread good bad (next ()) now) :
    SafeCode deployment discipline thread good bad (perform (.releaseKey key) >>= next) world := by
  refine safe_perform fun now inv rely _ choice answer after result => ?_
  simp only [World.exec] at result
  split at result
  · next mine =>
    cases result
    have reached := inv.setKeyHolder thread.node key none fun _ => (held.rely rely).synced
    have confined := @World.confined_setKeyHolder deployment thread now key none
      fun other found => Option.some_inj.mp (found.symm.trans mine)
    exact ⟨confined.guarantee reached, continues _ reached (rely.progress.trans confined.progress)⟩
  · cases result

theorem safe_acquireClock (lasting : World.Lasting deployment thread property)
    (holds : property world) (continues : ∀ now, World.Inv deployment discipline now →
      World.Progress thread.node world now → property now → now.ClockHeld deployment thread →
      SafeCode deployment discipline thread good bad (next ()) now) :
    SafeCode deployment discipline thread good bad (perform .acquireClock >>= next) world := by
  refine safe_perform fun now inv rely _ choice answer after result => ?_
  simp only [World.exec] at result
  split at result
  · next free =>
    cases result
    have reached := inv.setClockHolder thread.node (some thread.index) (by rintro ⟨⟩)
    have confined := @World.confined_setClockHolder deployment thread now (some thread.index)
      fun other held => absurd (free.symm.trans held) (Option.some_ne_none other).symm
    have settled := (inv.nodes thread.node).settled free
    refine ⟨confined.guarantee reached,
      continues _ reached (rely.progress.trans confined.progress)
        (lasting.clock _ (lasting.rely rely holds)) ⟨?_, settled.unclocked, fun durable => ?_⟩⟩
    · rw [World.nodes_atNode_self]
    · rw [World.nodes_atNode_self]
      exact settled.frontier durable
  · cases result

theorem safe_releaseClock (lasting : World.Lasting deployment thread property)
    (holds : property world) (held : world.ClockHeld deployment thread)
    (continues : ∀ now, World.Inv deployment discipline now →
      World.Progress thread.node world now → property now →
      SafeCode deployment discipline thread good bad (next ()) now) :
    SafeCode deployment discipline thread good bad (perform .releaseClock >>= next) world := by
  refine safe_perform fun now inv rely _ choice answer after result => ?_
  simp only [World.exec] at result
  split at result
  · next mine =>
    cases result
    have reached := inv.setClockHolder thread.node none fun _ => (held.rely rely).settled
    have confined := @World.confined_setClockHolder deployment thread now none
      fun other found => Option.some_inj.mp (found.symm.trans mine)
    exact ⟨confined.guarantee reached, continues _ reached (rely.progress.trans confined.progress)
      (lasting.clock _ (lasting.rely rely holds))⟩
  · cases result

/-- A body under the lock of a key. -/
theorem safe_withKeyLock (returns : ∀ value before after, World.Progress thread.node before after →
      good value before → good value after)
    (raises : ∀ error before after, World.Progress thread.node before after →
      bad error before → bad error after)
    (runs : ∀ now, World.Inv deployment discipline now → World.Progress thread.node world now →
      now.KeyHeld deployment thread key →
      SafeCode deployment discipline thread
        (fun value later => later.KeyHeld deployment thread key ∧ good value later)
        (fun error later => later.KeyHeld deployment thread key ∧ bad error later) body now) :
    SafeCode deployment discipline thread good bad (withKeyLock key body) world := by
  refine safe_acquireKey fun now inv moved held => ?_
  refine Prog.Safe.bind (runs now inv moved held).attempt inv ?_ fun _ _ _ _ => False.elim
  rintro (error | value) later invLater _ ⟨held, ended⟩
  · exact safe_releaseKey held fun final _ moved further _ rely =>
      raises error later further (moved.trans rely.progress) ended
  · exact safe_releaseKey held fun final _ moved further _ rely =>
      returns value later further (moved.trans rely.progress) ended

/-- A body under the lock of the clock. -/
theorem safe_withClock (lasting : World.Lasting deployment thread property) (holds : property world)
    (returns : ∀ value, World.Lasting deployment thread (good value))
    (raises : ∀ error, World.Lasting deployment thread (bad error))
    (runs : ∀ now, World.Inv deployment discipline now → World.Progress thread.node world now →
      property now → now.ClockHeld deployment thread →
      SafeCode deployment discipline thread
        (fun value later => later.ClockHeld deployment thread ∧ good value later)
        (fun error later => later.ClockHeld deployment thread ∧ bad error later) body now) :
    SafeCode deployment discipline thread good bad (withClock body) world := by
  refine safe_acquireClock lasting holds fun now inv moved holds held => ?_
  refine Prog.Safe.bind (runs now inv moved holds held).attempt inv ?_ fun _ _ _ _ => False.elim
  rintro (error | value) later invLater _ ⟨held, ended⟩
  · exact safe_releaseClock (raises error) ended held fun final _ _ ended further _ rely =>
      (raises error).rely rely ended
  · exact safe_releaseClock (returns value) ended held fun final _ _ ended further _ rely =>
      (returns value).rely rely ended

end Distsys
