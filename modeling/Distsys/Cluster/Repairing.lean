import Distsys.Cluster.Serving

/-!
# Safety of the causal check

The causal check of a request ends with a copy of the key that has every mutation the
token covers, in a cluster whose nodes only vouch for what they store.
-/

namespace Distsys

variable {deployment : Deployment} {discipline : Discipline} {thread : Thread} {key : PyStr}
  {world : World} {id : NodeId} {now : World} {entry : StoredCrdtEntry}

section Fetching

variable {started : Except PyError Nat}

/-- A fetch of the key that was sent has its correlation identifier. -/
def FetchStarted (key : PyStr) (world : World) (started : Except PyError Nat) : Prop :=
  ∀ correlation, started = .ok correlation → ∃ target msg,
    world.requests[correlation]? = some ⟨target, .fetch msg⟩ ∧ fetchRequestToProto key = .ok msg

theorem FetchStarted.later (sent : FetchStarted key world started)
    (moved : World.Progress id world now) :
    FetchStarted key now started := by
  intro correlation is
  obtain ⟨target, msg, posted, encoded⟩ := sent correlation is
  exact ⟨target, msg, moved.sent posted, encoded⟩

theorem yields_startFetches (peers : List NodeId) :
    Yields deployment discipline thread
      (fun started later => ∀ item ∈ started, FetchStarted key later item.2)
      (startFetches key peers) world := by
  induction peers generalizing world with
  | nil => exact yields_pure fun _ _ _ listed => absurd listed List.not_mem_nil
  | cons peer rest ih =>
      have starts : Yields deployment discipline thread
          (fun correlation later => FetchStarted key later (.ok correlation)) (do
            let msg ← Prog.ofExcept (fetchRequestToProto key)
            perform (.send peer (.fetch msg)) : Code Nat) world := by
        refine yields_compute fun msg encoded => (yields_send (.fetch msg) trivial).mono ?_
        rintro correlation later _ posted _ ⟨⟩
        exact ⟨peer, msg, posted, encoded⟩
      refine starts.attempt.bind fun started now _ sent => ?_
      refine ih.bind fun others after moved sentOthers => yields_pure fun later further => ?_
      refine List.forall_mem_cons.mpr ⟨fun correlation is => ?_, fun item listed => ?_⟩
      · exact (sent correlation is).later (moved.trans further) correlation rfl
      · exact (sentOthers item listed).later further

theorem yields_finishFetch {peer : NodeId} (sent : FetchStarted key world started) :
    Yields deployment discipline thread
      (fun fetch later => FetchSound deployment.json discipline later.past key fetch.entry
        fetch.causalFrontier) (finishFetch deployment peer started) world := by
  refine yields_compute fun correlation is => ?_
  obtain ⟨target, msg, posted, encoded⟩ := sent correlation is
  refine (yields_receive posted).bind fun outcome now _ sound => yields_compute fun reply is => ?_
  refine yields_compute fun response read => yields_pure fun later moved => ?_
  exact (((sound reply is).arrived read).fetched encoded).grows moved.past

theorem yields_collectFetches (started : List (NodeId × Except PyError Nat))
    (sent : ∀ item ∈ started, FetchStarted key world item.2) :
    Yields deployment discipline thread
      (fun fetches later => ∀ fetch ∈ fetches,
        FetchSound deployment.json discipline later.past key fetch.entry fetch.causalFrontier)
      (collectFetches deployment started) world := by
  induction started generalizing world with
  | nil => exact yields_pure fun _ _ _ listed => absurd listed List.not_mem_nil
  | cons item rest ih =>
      obtain ⟨sentFirst, sentRest⟩ := List.forall_mem_cons.mp sent
      refine (yields_finishFetch sentFirst).attempt.bind fun result now moved first => ?_
      refine (ih fun item listed => (sentRest item listed).later moved).bind ?_
      intro others after moved sound
      cases result with
      | error error =>
          exact yields_pure fun later further fetch listed =>
            (sound fetch listed).grows further.past
      | ok fetch =>
          refine yields_pure fun later further => List.forall_mem_cons.mpr ⟨?_, ?_⟩
          · exact (first fetch rfl).grows (moved.past.trans further.past)
          · exact fun other listed => (sound other listed).grows further.past

end Fetching

section Repair

variable {mergedVersion : VersionVector}

theorem World.Inv.vouched_bot (inv : World.Inv deployment discipline world) (id : NodeId)
    (key : PyStr) : world.Vouched discipline id key ⊥ :=
  ⟨fun honest => ⟨inv.dense honest, History.known_bot _⟩, fun _ _ => History.backed_bot _ _ _⟩

/-- What is known of one key, where the keys agree as long as the run is honest. -/
theorem World.Vouched.rekey {other : PyStr} {vector : VersionVector}
    (vouched : world.Vouched discipline id other vector)
    (same : world.past.honest = true → other = key) : world.Vouched discipline id key vector :=
  ⟨vouched.known, fun honest backed => same honest ▸ vouched.backs honest backed⟩

theorem World.Inv.vouched_local (inv : World.Inv deployment discipline world) (id : NodeId)
    (key : PyStr) : world.Vouched discipline id key
      (((world.nodes id).store.get key).elim ⊥ (·.causalContext)) := by
  cases found : (world.nodes id).store.get key with
  | none => exact inv.vouched_bot id key
  | some entry => exact (inv.stores found).vouched.rekey fun _ => Store.key_of_get found

/-- A node that has merged a fetched copy may answer for the frontier it came with. -/
theorem World.Merges.vouched {merged : StoredCrdtEntry} {frontier : VersionVector}
    (merges : world.Merges deployment discipline thread entry merged)
    (fetched : FetchSound deployment.json discipline world.past key (some entry) frontier) :
    world.Vouched discipline thread.node key (frontier ⊔ merged.causalContext) := by
  obtain ⟨stores, keys, above⟩ := merges
  have same : world.past.honest = true → merged.key = key :=
    fun honest => keys.trans (fetched.keyed honest entry rfl)
  refine World.Vouched.sup ⟨fetched.known, fun honest backed => ?_⟩ (stores.vouched.rekey same)
  have version := stores.version
  rw [same honest] at version
  exact (fetched.backs honest backed).mono (above.trans version) le_rfl

theorem yields_mergeFetches (fetches : List PeerCrdtFetch) (sound : ∀ fetch ∈ fetches,
      FetchSound deployment.json discipline world.past key fetch.entry fetch.causalFrontier)
    (vouched : world.Vouched discipline thread.node key mergedVersion) :
    Yields deployment discipline thread
      (fun result later => later.Vouched discipline thread.node key result)
      (mergeFetches deployment thread.node fetches mergedVersion) world := by
  induction fetches generalizing world mergedVersion with
  | nil => exact yields_pure fun later moved => vouched.later moved
  | cons fetch rest ih =>
      obtain ⟨first, others⟩ := List.forall_mem_cons.mp sound
      obtain ⟨peer, entry, frontier⟩ := fetch
      cases entry with
      | none =>
          refine ih others ?_
          rw [Tally.merge_eq_sup]
          exact vouched.sup ⟨first.known, first.backs.mono bot_le le_rfl⟩
      | some entry =>
          refine (yields_mergeEntry (first.sound entry rfl)).bind fun merged now moved merges => ?_
          refine ih (fun fetch listed => (others fetch listed).grows moved.past) ?_
          rw [Tally.merge_eq_sup, Tally.merge_eq_sup, sup_assoc]
          exact (vouched.later moved).sup (merges.vouched (first.grows moved.past))

theorem yields_absorbVersion (vouched : world.Vouched discipline thread.node key mergedVersion) :
    Yields deployment discipline thread
      (fun result later => later.Vouched discipline thread.node key result)
      (absorbVersion deployment thread.node key mergedVersion) world := by
  refine yields_get fun now inv moved => ?_
  replace vouched := vouched.later moved
  cases found : (now.nodes thread.node).store.get key with
  | none => exact yields_pure fun later moved => vouched.later moved
  | some current =>
      have whole := inv.vouched_local thread.node key
      rw [found] at whole
      replace vouched := vouched.sup whole
      dsimp only
      rw [Tally.merge_eq_sup]
      split
      · refine (yields_mergeMetadata vouched).bind fun result merged moved updates => ?_
        cases result with
        | none => exact yields_pure fun later further => vouched.later (moved.trans further)
        | some updated =>
            obtain ⟨stores, same⟩ := updates updated rfl
            exact yields_pure fun later further =>
              (stores.vouched.rekey fun _ => same).later further
      · exact yields_pure fun later moved => vouched.later moved

/-- A repair that returns has a version that covers what was required. -/
theorem yields_repairEnsure {required : VersionVector} :
    Yields deployment discipline thread
      (fun result later => later.Vouched discipline thread.node key result.mergedVersion)
      (repairEnsure deployment thread.node key required) world := by
  refine yields_get fun now inv _ => ?_
  have vouched := inv.vouched_local thread.node key
  dsimp only
  split
  · exact yields_pure fun later moved => vouched.later moved
  refine (yields_ask (.replicas key) trivial).bind fun replicas asked routed _ => ?_
  split
  · exact yields_throw _
  refine (yields_startFetches _).bind fun started begun posted sent => ?_
  refine (yields_collectFetches started sent).bind fun fetches collected heard sound => ?_
  refine (yields_ask .remaining trivial).bind fun left timed moved _ => ?_
  split
  · exact yields_throw _
  have reached := routed.trans (posted.trans (heard.trans moved))
  refine (yields_mergeFetches fetches (fun fetch listed => (sound fetch listed).grows moved.past)
    (vouched.later reached)).bind fun fetched merged _ vouched => ?_
  refine (yields_absorbVersion vouched).bind fun mergedVersion absorbed _ vouched => ?_
  split
  · exact yields_pure fun later moved => vouched.later moved
  · exact yields_throw _

end Repair

section Check

variable {requireExisting : Bool}

/-- What the causal check returns: a copy of the key that has every mutation the
required version covers. -/
structure Ensured (deployment : Deployment) (discipline : Discipline) (id : NodeId) (key : PyStr)
    (required : VersionVector) (copy : Option StoredCrdtEntry) (world : World) : Prop where
  stores : ∀ entry, copy = some entry →
    entry.key = key ∧ world.Stores deployment discipline id entry
  known : world.past.Knows required
  backs : world.past.Backs discipline key (copy.elim ⊥ (·.stateVersion)) required

namespace Ensured

variable {id : NodeId} {required : VersionVector} {copy : Option StoredCrdtEntry}

theorem later (ensured : Ensured deployment discipline id key required copy world)
    (moved : World.Progress id world now) :
    Ensured deployment discipline id key required copy now :=
  ⟨fun entry is => ⟨(ensured.stores entry is).1, (ensured.stores entry is).2.later moved⟩,
    ensured.known.grows moved.past, ensured.backs.grows ensured.known moved.past⟩

/-- The node may answer for the required version. -/
theorem vouched (ensured : Ensured deployment discipline id key required copy world) :
    world.Vouched discipline id key required := by
  refine ⟨ensured.known, ensured.backs.mono ?_ le_rfl⟩
  cases copy with
  | none => exact bot_le
  | some entry =>
      obtain ⟨same, stores⟩ := ensured.stores entry rfl
      exact same ▸ stores.version

/-- The context of the copy is above the required version. -/
theorem of_stored (inv : World.Inv deployment discipline world)
    (found : (world.nodes id).store.get key = some entry)
    (covers : entry.causalContext.dominates required = true) :
    Ensured deployment discipline id key required (some entry) world := by
  have stores := inv.stores found
  have same := Store.key_of_get found
  have below := VersionVector.dominates_iff.mp covers
  refine ⟨?_, stores.sound.context.mono below, ?_⟩
  · rintro _ ⟨⟩
    exact ⟨same, stores⟩
  · exact same ▸ stores.sound.backed.mono le_rfl below

/-- Nothing is stored, and the node may still answer for the required version. -/
theorem of_absent {version : VersionVector} (vouched : world.Vouched discipline id key version)
    (absent : (world.nodes id).store.get key = none)
    (covers : version.dominates required = true) :
    Ensured deployment discipline id key required none world := by
  have below := VersionVector.dominates_iff.mp covers
  refine ⟨nofun, vouched.known.mono below, ?_⟩
  have backs := vouched.backs.mono le_rfl below
  rw [Node.version, absent] at backs
  exact backs

theorem of_bot (inv : World.Inv deployment discipline world) :
    Ensured deployment discipline id key ⊥ none world :=
  ⟨nofun, (inv.vouched_bot id key).known, fun _ _ => History.backed_bot _ _ _⟩

end Ensured

section

variable {required : VersionVector}

theorem yields_frontierVouches :
    Yields deployment discipline thread
      (fun vouches later => vouches = true →
        Ensured deployment discipline thread.node key required none later)
      (frontierVouches key required) world := by
  refine yields_clockFrontier.bind fun frontier read _ known => ?_
  split
  · next covers =>
    refine yields_vouch fun now moved backs => yields_pure fun later further _ => ?_
    have below := VersionVector.dominates_iff.mp covers
    have ensured : Ensured deployment discipline thread.node key required none now :=
      ⟨nofun, (known.1.grows moved.past).mono below, backs.mono le_rfl below⟩
    exact ensured.later further
  · exact yields_pure fun _ _ is => absurd is Bool.false_ne_true

theorem yields_acceptAbsent {remoteReplicas : List NodeId} :
    Yields deployment discipline thread
      (fun accepted later => accepted = true →
        Ensured deployment discipline thread.node key required none later)
      (acceptAbsent key required requireExisting remoteReplicas) world := by
  have alone : ∀ now, Yields deployment discipline thread
      (fun accepted later => accepted = true →
        Ensured deployment discipline thread.node key required none later)
      (if remoteReplicas = [] then frontierVouches key required else pure false) now := by
    intro now
    split
    · exact yields_frontierVouches
    · exact yields_pure fun _ _ is => absurd is Bool.false_ne_true
  unfold acceptAbsent
  dsimp only
  split
  · refine yields_frontierVouches.bind fun accepted now _ ensures => ?_
    split
    · next yes => exact yields_pure fun later moved _ => (ensures yes).later moved
    · exact alone now
  · exact alone world

theorem yields_ensureByRepair :
    Yields deployment discipline thread
      (fun result later => Ensured deployment discipline thread.node key required result.1 later)
      (ensureByRepair deployment thread.node key required) world := by
  refine yields_repairEnsure.bind fun result repaired _ vouched => ?_
  refine yields_get fun now inv moved => ?_
  replace vouched := vouched.later moved
  cases found : (now.nodes thread.node).store.get key with
  | some entry =>
      dsimp only
      split
      · next covers =>
        exact yields_pure fun later further => (Ensured.of_stored inv found covers).later further
      · exact yields_throw _
  | none =>
      dsimp only
      split
      · next covers =>
        exact yields_pure fun later further =>
          (Ensured.of_absent vouched found covers).later further
      · exact yields_throw _

end

theorem yields_ensureCausal {token : CausalToken} :
    Yields deployment discipline thread
      (fun result later =>
        Ensured deployment discipline thread.node key token.version result.1 later)
      (ensureCausal deployment thread.node key token requireExisting) world := by
  refine yields_get fun now inv _ => ?_
  cases found : (now.nodes thread.node).store.get key with
  | some entry =>
      dsimp only
      split
      · next covers =>
        exact yields_pure fun later further => (Ensured.of_stored inv found covers).later further
      · exact (yields_ask (.replicas key) trivial).bind fun _ _ _ _ => yields_ensureByRepair
  | none =>
      dsimp only
      split
      · next unasked =>
        have empty : token.version = ⊥ := by
          simp only [Bool.and_eq_true, Bool.not_eq_true'] at unasked
          exact VersionVector.nonempty_eq_false_iff.mp unasked.1
        rw [empty]
        exact yields_pure fun later further => (Ensured.of_bot inv).later further
      · refine (yields_ask (.replicas key) trivial).bind fun replicas asked _ _ => ?_
        refine yields_acceptAbsent.bind fun accepted checked _ ensures => ?_
        split
        · next yes => exact yields_pure fun later moved => (ensures yes).later moved
        · exact yields_ensureByRepair

end Check

end Distsys
