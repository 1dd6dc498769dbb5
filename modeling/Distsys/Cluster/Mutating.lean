import Distsys.Cluster.Storage

/-!
# Safety of a local mutation

Under the lock of its key and the clock, a mutation is prepared from the stored entry
and the dot after all committed dots of the node, committed, and the clock moved past
its dot. A commit that raises leaves the dot to the next mutation.
-/

namespace Distsys

open Codec

variable {deployment : Deployment} {discipline : Discipline} {thread : Thread} {α : Type}
  {good : α → World → Prop} {bad : PyError → World → Prop} {world : World} {key : PyStr}
  {existing row : Option StoredCrdtEntry} {disk current : VersionVector} {count : Nat}
  {request : CrdtMutationData} {mutation : Mutation}

/-- Taking in the frontier that was built from a base and its dot adds nothing more. -/
theorem withDot_sup_withDot {part base : VersionVector} (below : part ≤ base) (dot : Dot) :
    (part ⊔ base.withDot dot).withDot dot = base.withDot dot := by
  rw [sup_eq_right.mpr (below.trans (VersionVector.le_withDot base dot))]
  refine Tally.ext_get fun actor => ?_
  simp only [VersionVector.get_withDot]
  split
  · exact Nat.max_eq_left (Nat.le_max_right _ _)
  · rfl

theorem get_withDot_nextDot (actor : CausalActor) (base : VersionVector) :
    (base.withDot (CausalClock.nextDot actor base)).get actor = base.get actor + 1 := by
  rw [VersionVector.get_withDot]
  exact (if_pos rfl).trans (Nat.max_eq_right (Nat.le_succ _))

/-- The base of a mutation: the clock, the context of the entry and the token. -/
def mutationBase (current : VersionVector) (existing : Option StoredCrdtEntry)
    (token : VersionVector) : VersionVector :=
  current ⊔ (existing.elim ⊥ (·.causalContext) ⊔ token)

/-- What is observed besides the clock is known. -/
theorem World.Locked.observed {token : VersionVector} {unclocked : Option Dot}
    (inv : World.Inv deployment discipline world)
    (locked : world.Locked deployment thread key existing row disk current unclocked count)
    (vouched : world.Vouched discipline thread.node key token) :
    world.past.Knows (existing.elim ⊥ (·.causalContext) ⊔ token) := by
  refine Past.Knows.sup ?_ vouched.known
  cases found : existing with
  | none => exact vouched.known.mono bot_le
  | some entry =>
      rw [found] at locked
      exact ((inv.nodes thread.node).entries key entry locked.stored).context

/-- The base of a mutation counts what its node has committed. -/
theorem World.Locked.counted {key : PyStr} {existing row : Option StoredCrdtEntry}
    {disk current token : VersionVector} {count : Nat}
    (inv : World.Inv deployment discipline world)
    (locked : world.Locked deployment thread key existing row disk current none count)
    (vouched : world.Vouched discipline thread.node key token)
    (honest : world.past.honest = true) :
    (mutationBase current existing token).get (deployment.actor thread.node) = count := by
  have counted := inv.counted_sup locked.unclocked (locked.observed inv vouched) honest
  rw [locked.frontier, locked.count] at counted
  exact counted

/-- A mutation prepared under both locks may be committed. -/
theorem World.Locked.prepared (inv : World.Inv deployment discipline world)
    (locked : world.Locked deployment thread request.key existing row disk current none count)
    (decoded : ∃ msg, mutationRequestFromProto deployment.json msg = .ok request)
    (vouched : world.Vouched discipline thread.node request.key request.causalToken.version)
    (clock : world.past.Backs discipline request.key (existing.elim ⊥ (·.stateVersion)) current)
    (made : PreparedFrom deployment thread.node request existing
      (CausalClock.nextDot (deployment.actor thread.node)
        (mutationBase current existing request.causalToken.version))
      ((mutationBase current existing request.causalToken.version).withDot
        (CausalClock.nextDot (deployment.actor thread.node)
          (mutationBase current existing request.causalToken.version))) mutation)
    (bounded : discipline.bounded = true → mutation.Bounded) :
    mutation.Prepared deployment discipline world.past
      (mutationBase current existing request.causalToken.version) := by
  have node := inv.nodes thread.node
  have key : mutation.key = request.key := congrArg CrdtMutationData.key made.asked
  have actor : mutation.actor = deployment.actor thread.node := congrArg Dot.actor made.numbered
  have frontier : world.past.Knows current := by
    rw [← locked.frontier]
    exact node.frontier
  have version : mutation.priorVersion = existing.elim ⊥ (·.stateVersion) := by
    rw [Mutation.priorVersion, made.found]
    cases existing <;> rfl
  have before : ∀ entry, existing = some entry →
      entry.key = request.key ∧ entry.Sound deployment.json discipline world.past := by
    rintro entry rfl
    exact ⟨Store.key_of_get locked.stored, node.entries _ entry locked.stored⟩
  have context : world.past.Backs discipline request.key (existing.elim ⊥ (·.stateVersion))
      (existing.elim ⊥ (·.causalContext)) := by
    cases found : existing with
    | none => exact fun _ _ => History.backed_bot _ _ _
    | some entry =>
        obtain ⟨entryKey, sound⟩ := before entry found
        exact entryKey ▸ sound.backed
  have token : world.past.Backs discipline request.key (existing.elim ⊥ (·.stateVersion))
      request.causalToken.version := locked.version ▸ vouched.backs
  refine ⟨⟨thread.node, actor⟩, made.asked ▸ decoded, ?_, made.key.trans key.symm,
    made.numbered ▸ made.version, ?_, ?_, ?_, frontier.sup (locked.observed inv vouched), ?_,
    fun honest => ?_, fun honest earlier member sameKey sameActor => ?_, bounded⟩
  · rw [Mutation.Applies, actor, made.numbered]
    exact made.applies
  · rw [made.numbered, made.context]
    exact withDot_sup_withDot le_sup_right _
  · rw [made.found, key]
    exact before
  · rw [made.asked]
    exact le_sup_right.trans le_sup_right
  · rw [key, version]
    exact clock.sup (context.sup token)
  · rw [made.numbered, actor, locked.count]
    exact congrArg (· + 1) (locked.counted inv vouched honest)
  · have covers := node.own honest earlier member (sameActor.trans actor)
      (locked.unclocked.trans_ne (Option.some_ne_none _).symm)
    rw [sameKey, key, locked.version] at covers
    rw [version]
    exact covers

/-- The mutation is committed and stored, and its clock has still to move. -/
structure World.Committed (deployment : Deployment) (thread : Thread) (mutation : Mutation)
    (frontier current : VersionVector) (count : Nat) (world : World) : Prop where
  locked : ∃ row disk, world.Locked deployment thread mutation.after.key (some mutation.after) row
    disk current (some mutation.dot) (count + 1) ∧
    (deployment.durable thread.node = true → row = some mutation.after ∧ disk = frontier)
  member : mutation ∈ world.past.history
  known : world.past.Knows frontier

theorem World.Committed.rely {mutation : Mutation} {frontier current : VersionVector} {count : Nat}
    {now : World} (committed : world.Committed deployment thread mutation frontier current count)
    (rely : World.Rely deployment thread world now) :
    now.Committed deployment thread mutation frontier current count := by
  obtain ⟨row, disk, locked, agree⟩ := committed.locked
  exact ⟨⟨row, disk, locked.rely rely, agree⟩,
    rely.progress.past.history.subset committed.member, committed.known.grows rely.progress.past⟩

section Commit

variable {mutation : Mutation} {row : Option StoredCrdtEntry} {disk current base : VersionVector}
  {count : Nat}

/-- What must hold until the mutation is committed, whatever the other coroutines do. -/
structure World.Committable (deployment : Deployment) (discipline : Discipline) (thread : Thread)
    (mutation : Mutation) (base : VersionVector) (row : Option StoredCrdtEntry)
    (disk current : VersionVector) (count : Nat) (world : World) : Prop where
  locked : world.Locked deployment thread mutation.after.key mutation.before row disk current none
    count
  agree : deployment.durable thread.node = true → row = mutation.before ∧ disk = current
  actor : mutation.actor = deployment.actor thread.node
  types : ∀ entry, mutation.before = some entry → entry.crdtType = mutation.after.crdtType
  clock : current ≤ base
  prepared : ∀ now, World.Inv deployment discipline now → World.Rely deployment thread world now →
    (discipline.bounded = true → mutation.Bounded) →
    mutation.Prepared deployment discipline now.past base

theorem World.Committable.records {now : World}
    (committable : world.Committable deployment discipline thread mutation base row disk
      current count)
    (inv : World.Inv deployment discipline now) (rely : World.Rely deployment thread world now)
    (bounded : discipline.bounded = true → mutation.Bounded) :
    now.Records deployment discipline thread mutation :=
  have locked := committable.locked.rely rely
  ⟨⟨base, committable.prepared now inv rely bounded⟩, committable.actor, locked.clockHolder,
    locked.unclocked⟩

/-- The version only grows by the dot. -/
theorem Mutation.Prepared.above {past : Past}
    (prepared : mutation.Prepared deployment discipline past base) :
    mutation.before.elim ⊥ (·.stateVersion) ≤ mutation.after.stateVersion := by
  rw [prepared.version, Mutation.priorVersion]
  refine le_trans ?_ (VersionVector.le_withDot _ _)
  cases mutation.before <;> exact le_rfl

theorem safe_commitLocal_memory (memory : deployment.durable thread.node = false)
    (committable : world.Committable deployment discipline thread mutation base row disk
      current count) :
    SafeCode deployment discipline thread
      (fun _ later => later.Committed deployment thread mutation (base.withDot mutation.dot) current
        count)
      (fun _ _ => False)
      (CrdtStore.replace mutation.after (some mutation.after.crdtType) (some mutation)) world := by
  refine safe_replace_commit memory fun now inv rely bounded => ?_
  have prepared := committable.prepared now inv rely bounded
  have locked := committable.locked.rely rely
  refine ⟨committable.records inv rely bounded, ⟨locked.keyHolder, ?_, ?_, ?_, ?_⟩, ?_⟩
  · rintro crdtType ⟨⟩
    rfl
  · exact fun entry found => committable.types entry (locked.stored.symm.trans found)
  · exact locked.version.trans_le prepared.above
  · exact fun durable => nomatch memory.symm.trans durable
  · rintro after rfl _ later _ further
    refine World.Committed.rely ⟨⟨row, disk, (locked.record committable.actor).put,
      fun durable => nomatch memory.symm.trans durable⟩, ?_, ?_⟩ further
    · exact List.mem_append_right _ List.mem_cons_self
    · exact prepared.known_withDot prepared.known

theorem safe_commitLocal_durable
    (committable : world.Committable deployment discipline thread mutation base row disk
      current count)
    (durable : deployment.durable thread.node = true) :
    SafeCode deployment discipline thread
      (fun _ later => later.Committed deployment thread mutation (base.withDot mutation.dot) current
        count)
      (fun _ later => later.Locked deployment thread mutation.after.key mutation.before row disk
        current none count)
      (DurableCrdtStore.commitThenReplace mutation.after
        (.at (deployment.actor thread.node) (base.withDot mutation.dot)) mutation.after.crdtType
        (some mutation)) world := by
  obtain ⟨rfl, rfl⟩ := committable.agree durable
  refine safe_commitRows_commit fun now inv rely bounded => ?_
  have prepared := committable.prepared now inv rely bounded
  have locked := committable.locked.rely rely
  have readable := prepared.after.readable
  refine ⟨committable.records inv rely bounded, ⟨locked.keyHolder, locked.clockHolder, readable, ?_,
    prepared.context.le, ?_⟩, VersionVector.covers_withDot_self _ _, ?_, ?_⟩
  · intro found lookup
    have above := prepared.above
    rw [locked.row.symm.trans lookup] at above
    exact above
  · exact locked.disk.trans_le (committable.clock.trans (VersionVector.le_withDot _ _))
  · exact fun error later _ further => locked.rely further
  rintro after rfl _
  have written := (locked.record committable.actor).commitRows readable (base.withDot mutation.dot)
  refine safe_replace fun put _ relyPut => ?_
  replace written := written.rely relyPut
  have sound := prepared.after.grows relyPut.progress.past
  refine ⟨sound, ⟨written.keyHolder, ?_, ?_, ?_, ?_⟩, ?_⟩
  · rintro crdtType ⟨⟩
    rfl
  · exact fun entry found => committable.types entry (written.stored.symm.trans found)
  · exact written.version.trans_le prepared.above
  · exact fun _ => prepared.context.trans_le written.disk.symm.le
  · rintro after rfl _ later _ further
    refine World.Committed.rely ⟨⟨_, _, written.put, fun _ => ⟨rfl, rfl⟩⟩, ?_, ?_⟩ further
    · exact relyPut.progress.past.history.subset
        (List.mem_append_right _ List.mem_cons_self)
    · exact (prepared.known_withDot prepared.known).grows relyPut.progress.past

/-- A commit that raises leaves everything as it was, and its dot is the next one still. -/
theorem safe_commitLocal (inv : World.Inv deployment discipline world)
    (committable : world.Committable deployment discipline thread mutation base row disk
      current count)
    (numbered : world.past.honest = true → mutation.dot.counter = count + 1) :
    SafeCode deployment discipline thread
      (fun pair later => pair = (mutation, true) ∧
        later.Committed deployment thread mutation (base.withDot mutation.dot) current count)
      (fun _ later => later.Locked deployment thread mutation.after.key mutation.before row disk
        current none count)
      (do
        let _ ← (commitLocal deployment thread.node mutation (base.withDot mutation.dot)).catching
          fun error => do
            perform (.abort mutation.dot)
            throw error
        return (mutation, true)) world := by
  have commits : SafeCode deployment discipline thread
      (fun _ later => later.Committed deployment thread mutation (base.withDot mutation.dot) current
        count)
      (fun _ later => later.Locked deployment thread mutation.after.key mutation.before row disk
        current none count)
      (commitLocal deployment thread.node mutation (base.withDot mutation.dot)) world := by
    unfold commitLocal
    split
    · next durable => exact safe_commitLocal_durable committable durable
    · next memory =>
      exact (safe_commitLocal_memory (Bool.eq_false_iff.mpr memory) committable).weaken
        (fun _ _ _ _ => id) fun _ _ _ _ => False.elim
  refine Prog.Safe.bind (commits.catching inv fun error later _ moved locked => ?_) inv ?_
    fun _ _ _ _ => id
  · refine safe_abort fun now _ rely => ?_
    replace locked := locked.rely rely
    refine ⟨fun honest => ?_, fun after nodes past unclocked final _ further => ?_⟩
    · have actor : mutation.dot.actor = deployment.actor thread.node := committable.actor
      rw [actor, locked.count]
      exact numbered ((moved.trans rely.progress).past.honest honest)
    · refine World.Locked.rely ⟨?_, ?_, ?_, ?_, ?_, ?_, ?_, ?_⟩ further
      · rw [nodes]; exact locked.keyHolder
      · rw [nodes]; exact locked.clockHolder
      · rw [nodes]; exact locked.stored
      · rw [nodes]; exact locked.row
      · rw [nodes]; exact locked.disk
      · rw [nodes]; exact locked.frontier
      · rw [unclocked]; exact locked.unclocked
      · rw [past]; exact locked.count
  · exact fun _ later _ _ committed final _ further => ⟨rfl, committed.rely further⟩

end Commit

/-- A committed mutation that the node has stored. -/
structure World.Mutated (deployment : Deployment) (discipline : Discipline) (id : NodeId)
    (key : PyStr) (mutation : Mutation) (world : World) : Prop where
  member : mutation ∈ world.past.history
  actor : mutation.actor = deployment.actor id
  key : mutation.key = key
  stores : world.Stores deployment discipline id mutation.after

theorem World.Mutated.later {id : NodeId} {after : World}
    (mutated : world.Mutated deployment discipline id key mutation)
    (moved : World.Progress id world after) :
    after.Mutated deployment discipline id key mutation :=
  ⟨moved.past.history.subset mutated.member, mutated.actor, mutated.key, mutated.stores.later moved⟩

theorem checkType_eq_ok (checked : checkType request existing = .ok ()) :
    ∀ entry, existing = some entry → entry.crdtType = request.crdtType := by
  rintro entry rfl
  unfold checkType at checked
  simp only at checked
  split at checked
  · cases checked
  · next same => exact not_not.mp same

/-- The clock moves past the dot of the committed mutation. -/
theorem safe_settle {frontier : VersionVector}
    (committed : world.Committed deployment thread mutation frontier current count)
    (counted : world.past.honest = true →
      frontier.get (deployment.actor thread.node) = count + 1) {next : Unit → Code α}
    (continues : ∀ now row disk,
      now.Locked deployment thread mutation.after.key (some mutation.after) row disk frontier none
        (count + 1) →
      (deployment.durable thread.node = true → row = some mutation.after ∧ disk = frontier) →
      mutation ∈ now.past.history →
      SafeCode deployment discipline thread good bad (next ()) now) :
    SafeCode deployment discipline thread good bad
      (perform (.setFrontier frontier) >>= next) world := by
  refine safe_setFrontier fun now inv rely => ?_
  replace committed := committed.rely rely
  obtain ⟨row, disk, locked, agree⟩ := committed.locked
  refine ⟨locked.clockHolder, committed.known, fun durable => ?_, fun honest => ?_,
    fun honest other member waits => ?_, ?_⟩
  · rw [locked.disk]
    exact (agree durable).2.symm
  · rw [locked.count]
    exact counted (rely.progress.past.honest honest)
  · have same : other.dot = mutation.dot :=
      Option.some_inj.mp (waits.symm.trans locked.unclocked)
    cases (inv.dense honest).eq_of_dot member committed.member same
    have sound := inv.mutations mutation member
    rw [← sound.key, locked.version, Option.elim_some, sound.version]
    exact VersionVector.covers_withDot_self _ _
  · rintro after rfl _
    exact continues _ row disk locked.setFrontier agree committed.member

/-- The part of a mutation under both locks. -/
theorem safe_allocate (decoded : ∃ msg, mutationRequestFromProto deployment.json msg = .ok request)
    (types : ∀ entry, existing = some entry → entry.crdtType = request.crdtType)
    (held : world.KeyHeld deployment thread request.key)
    (stored : (world.nodes thread.node).store.get request.key = existing)
    (vouched : world.Vouched discipline thread.node request.key request.causalToken.version) :
    SafeCode deployment discipline thread
      (fun mutation later => later.KeyHeld deployment thread request.key ∧
        later.Mutated deployment discipline thread.node request.key mutation)
      (fun _ later => later.KeyHeld deployment thread request.key)
      (CausalClock.stagedAllocation (deployment.actor thread.node)
        ((existing.elim ⊥ (·.causalContext) : VersionVector).merge request.causalToken.version)
        fun dot frontier current => do
          let mutation ← Prog.ofExcept
            (prepareMutation deployment thread.node request existing dot frontier)
          perform (.vouch request.key (existing.elim ⊥ (·.stateVersion)) current)
          let _ ← (commitLocal deployment thread.node mutation frontier).catching fun error => do
            perform (.abort dot)
            throw error
          return (mutation, true)) world := by
  have vouchedLasting : World.Lasting deployment thread fun later =>
      later.Vouched discipline thread.node request.key request.causalToken.version :=
    .of_progress fun moved vouched => vouched.later moved
  refine safe_withClock ((World.lasting_keyHeld request.key existing).and vouchedLasting)
    ⟨⟨held, stored⟩, vouched⟩
    (fun mutation => (World.lasting_held _).and
      (.of_progress fun moved mutated => mutated.later moved))
    (fun _ => World.lasting_held _) fun now _ _ facts clock => ?_
  obtain ⟨⟨held, stored⟩, vouched⟩ := facts
  refine safe_readFrontier fun read inv rely => ?_
  replace stored := (rely.key request.key held.holder).stored.trans stored
  replace vouched := vouched.later rely.progress
  generalize unread : (read.nodes thread.node).frontier = current
  obtain ⟨row, disk, count, locked, agree⟩ :=
    World.Locked.of_held (held.rely rely) (clock.rely rely) stored unread
  have known : read.past.Knows current := unread ▸ (inv.nodes thread.node).frontier
  generalize made : prepareMutation deployment thread.node request existing
    (CausalClock.nextDot (deployment.actor thread.node)
      (mutationBase current existing request.causalToken.version))
    ((mutationBase current existing request.causalToken.version).withDot
      (CausalClock.nextDot (deployment.actor thread.node)
        (mutationBase current existing request.causalToken.version))) = result
  change SafeCode deployment discipline thread _ _ (Prog.bind (Prog.bind (Prog.ofExcept
    (prepareMutation deployment thread.node request existing
      (CausalClock.nextDot (deployment.actor thread.node)
        (mutationBase current existing request.causalToken.version))
      ((mutationBase current existing request.causalToken.version).withDot
        (CausalClock.nextDot (deployment.actor thread.node)
          (mutationBase current existing request.causalToken.version))))) _) _) read
  rw [made]
  cases result with
  | error error =>
      intro later _ further
      have locked := locked.rely further
      exact ⟨locked.clockHeld fun durable => (agree durable).2,
        locked.keyHeld fun durable => (agree durable).1⟩
  | ok mutation =>
      replace made := preparedFrom_of_prepareMutation made
      refine safe_vouch fun vouch invVouch rely backs => ?_
      replace locked := locked.rely rely
      replace vouched := vouched.later rely.progress
      replace known := known.grows rely.progress.past
      have actor : mutation.actor = deployment.actor thread.node := congrArg Dot.actor made.numbered
      have committable : vouch.Committable deployment discipline thread mutation
          (mutationBase current existing request.causalToken.version) row disk current count := by
        refine ⟨?_, ?_, actor, ?_, le_sup_left, fun later inv rely bounded => ?_⟩
        · rw [made.key, made.found]
          exact locked
        · rw [made.found]
          exact agree
        · intro entry found
          have applied := applied_of_applyMutation made.applies
          rw [made.found] at found
          exact (types entry found).trans (made.asked ▸ applied.types.2).symm
        · exact (locked.rely rely).prepared inv decoded (vouched.later rely.progress)
            (backs.grows known rely.progress.past) made bounded
      have numbered : vouch.past.honest = true → mutation.dot.counter = count + 1 := by
        intro honest
        rw [made.numbered]
        exact congrArg (· + 1) (locked.counted invVouch vouched honest)
      have committed := safe_commitLocal invVouch committable numbered
      rw [made.numbered] at committed
      refine Prog.Safe.bind committed invVouch ?_ ?_
      · rintro _ later _ moved ⟨rfl, committed⟩
        refine safe_settle committed (fun honest => ?_) fun now row disk locked agree member => ?_
        · rw [get_withDot_nextDot, locked.counted invVouch vouched (moved.past.honest honest)]
        · intro final invFinal further
          replace locked := locked.rely further
          refine ⟨locked.clockHeld fun durable => (agree durable).2, ?_,
            further.progress.past.history.subset member, actor,
            congrArg CrdtMutationData.key made.asked, invFinal.stores locked.stored⟩
          rw [← made.key]
          exact locked.keyHeld fun durable => (agree durable).1
      · intro error later _ _ locked
        rw [made.key, made.found] at locked
        exact ⟨locked.clockHeld fun durable => (agree durable).2,
          locked.keyHeld fun durable => (agree durable).1⟩

/-- A mutation under the lock of its key. -/
theorem yields_mutateLocked
    (decoded : ∃ msg, mutationRequestFromProto deployment.json msg = .ok request)
    (vouched : world.Vouched discipline thread.node request.key request.causalToken.version) :
    Yields deployment discipline thread
      (fun mutation later => later.Mutated deployment discipline thread.node request.key mutation)
      (mutateLocked deployment thread.node request) world := by
  refine yields_of_safe (safe_withKeyLock (fun _ _ _ moved mutated => mutated.later moved)
    (fun _ _ _ _ => (id : True → True)) fun now _ moved held => ?_)
    fun _ _ _ moved mutated => mutated.later moved
  refine safe_get fun read _ rely => ?_
  replace held := held.rely rely
  replace vouched := vouched.later (moved.trans rely.progress)
  generalize stored : (read.nodes thread.node).store.get request.key = existing
  cases checked : checkType request existing with
  | error error => exact fun later _ further => ⟨held.rely further, trivial⟩
  | ok _ =>
      exact (safe_allocate decoded (checkType_eq_ok checked) held stored vouched).weaken
        (fun _ _ _ _ => id) fun _ _ _ _ held => ⟨held, trivial⟩

end Distsys
