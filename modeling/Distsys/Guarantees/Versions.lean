import Distsys.Cluster.Reachable

/-!
# What vectors and versions stand for

In every honest run the dots of an actor are its mutations, numbered without gaps,
every vector anywhere counts committed mutations only, and the state of every entry
is the combined effect of the mutations that its version covers.
-/

namespace Distsys

/-- The entry is stored in some node, waits in an outbox, or is on the network. -/
inductive World.Occurs (json : JsonReader) (world : World) (entry : StoredCrdtEntry) : Prop
  | stored (id : NodeId) (key : PyStr) (found : (world.nodes id).store.get key = some entry)
  | pending (id : NodeId) (held : (world.nodes id).outbox.Holds entry)
  | sent (target : NodeId) (msg : Proto.CrdtReplicate)
      (listed : ⟨target, .replicate msg⟩ ∈ world.requests)
      (decoded : replicationFromProto json msg = .ok entry)
  | answered (correlation : Nat) (msg : Proto.CrdtResponse)
      (listed : ⟨correlation, .response msg⟩ ∈ world.replies) (response : CrdtResponseData)
      (decoded : responseFromProto json msg = .ok response)
      (state : response.state = some entry)

/-- The vector is a component of something in the world: the clock of a node, an entry, a
digest or a response on the network. -/
inductive World.Mentions (json : JsonReader) (world : World) (vector : VersionVector) : Prop
  | clock (id : NodeId) (is : (world.nodes id).frontier = vector)
  | version (entry : StoredCrdtEntry) (occurs : world.Occurs json entry)
      (is : entry.stateVersion = vector)
  | context (entry : StoredCrdtEntry) (occurs : world.Occurs json entry)
      (is : entry.causalContext = vector)
  | digestSent (target : NodeId) (msg : Proto.CrdtDigest)
      (listed : ⟨target, .digest msg⟩ ∈ world.requests) (requester : PyStr)
      (entries : List CrdtDigestEntry) (batchSize : Nat)
      (decoded : digestRequestFromProto msg = .ok (requester, entries, batchSize))
      (digest : CrdtDigestEntry) (item : digest ∈ entries)
      (is : digest.stateVersion = vector ∨ digest.causalContext = vector)
  | digestAnswered (correlation : Nat) (msg : Proto.CrdtDigestResponse)
      (listed : ⟨correlation, .digest msg⟩ ∈ world.replies) (entries : List CrdtDigestEntry)
      (decoded : digestResponseFromProto msg = .ok entries)
      (digest : CrdtDigestEntry) (item : digest ∈ entries)
      (is : digest.stateVersion = vector ∨ digest.causalContext = vector)
  | response (correlation : Nat) (msg : Proto.CrdtResponse)
      (listed : ⟨correlation, .response msg⟩ ∈ world.replies) (response : CrdtResponseData)
      (decoded : responseFromProto json msg = .ok response)
      (is : response.causalToken.version = vector ∨ response.peerFrontier = vector)

variable {deployment : Deployment} {discipline : Discipline} {world : World} {cluster : Cluster}

theorem World.Inv.sound_of_occurs (inv : World.Inv deployment discipline world)
    {entry : StoredCrdtEntry} (occurs : world.Occurs deployment.json entry) :
    entry.Sound deployment.json discipline world.past := by
  cases occurs with
  | stored id key found => exact (inv.nodes id).entries key entry found
  | pending id held => exact (inv.nodes id).outbox entry held
  | sent target msg listed decoded => exact inv.requests _ listed entry decoded
  | answered correlation msg listed response decoded state =>
      obtain ⟨envelope, _, sound⟩ := inv.replies _ listed
      exact (sound response decoded).1.state entry state

theorem World.Inv.knows_of_mentions (inv : World.Inv deployment discipline world)
    {vector : VersionVector} (mentions : world.Mentions deployment.json vector) :
    world.past.Knows vector := by
  cases mentions with
  | clock id is => exact is ▸ (inv.nodes id).frontier
  | version entry occurs is => exact is ▸ (inv.sound_of_occurs occurs).version
  | context entry occurs is => exact is ▸ (inv.sound_of_occurs occurs).context
  | digestSent target msg listed requester entries batchSize decoded digest item is =>
      have sound := inv.requests _ listed requester entries batchSize decoded digest item
      rcases is with rfl | rfl
      · exact sound.version
      · exact sound.context
  | digestAnswered correlation msg listed entries decoded digest item is =>
      obtain ⟨envelope, _, sound⟩ := inv.replies _ listed
      rcases is with rfl | rfl
      · exact (sound entries decoded digest item).version
      · exact (sound entries decoded digest item).context
  | response correlation msg listed response decoded is =>
      obtain ⟨envelope, _, sound⟩ := inv.replies _ listed
      rcases is with rfl | rfl
      · exact (sound response decoded).1.token
      · exact (sound response decoded).1.frontier

/-- Two nodes that keep their entries in memory, called east and west. -/
def pair : Deployment where
  json := .lenient
  incarnation _ := 0
  durable _ := false
  settled _ durable := nomatch durable
  batchSize := 8
  queueCapacity := 8
  maxAttempts := 1

/-- One of the nodes. -/
def east : NodeId := .letter 101
/-- The other node. -/
def west : NodeId := .letter 119

/-- A client's request to increment a counter. -/
def incrementRequest (key : StringField) (amount : UInt64Field)
    (token : Proto.VersionVector := {}) : Request :=
  .mutate ⟨key, .known .gcounter, token, false, Proto.emptyString, 0, some (.increment amount)⟩

/-- Several operations of one coroutine while both nodes replicate every key. -/
def turns (index count : Nat) : List Label :=
  List.replicate count (.run index (.nodes [east, west]))

/-- East increments a counter. -/
def oneIncrement : List Label :=
  [.client east (incrementRequest (.letter 107) 1), .deliver 0] ++ turns 0 23

/-- The token of the response to the first mutation of a node. -/
def firstToken (actor : Proto.CausalActor) : Proto.VersionVector := ⟨[⟨actor, 1⟩]⟩

/-- East on the wire. -/
def eastActor : Proto.CausalActor := ⟨.letter 101, 0⟩

/-- A client increments a counter at east twice, the second time with the token it got. -/
def writeOnOwnWrite : List Label :=
  oneIncrement ++ [.client east (incrementRequest (.letter 107) 1 (firstToken eastActor)),
    .deliver 1] ++ turns 1 23

/-- The state of every entry is what the mutations that its version covers amount to, so
entries of one key with one version have one state, and merging an entry that is behind
changes nothing. -/
theorem version_determines_state (reached : Reachable deployment discipline cluster)
    (honest : cluster.world.ledger.honest = true) :
    (∀ entry, cluster.world.Occurs deployment.json entry →
        History.Represents cluster.world.ledger.history entry) ∧
      ∀ left right, cluster.world.Occurs deployment.json left →
        cluster.world.Occurs deployment.json right → left.key = right.key →
        (left.stateVersion = right.stateVersion → left.state = right.state) ∧
        (right.stateVersion ≤ left.stateVersion →
          ∃ merged, left.merge right = .ok merged ∧ merged.state = left.state) := by
  have inv := reached.inv.world
  have represents : ∀ entry, cluster.world.Occurs deployment.json entry →
      History.Represents cluster.world.ledger.history entry :=
    fun entry occurs => (inv.sound_of_occurs occurs).represents honest
  refine ⟨represents, fun left right first second keys => ⟨fun versions => ?_, fun below => ?_⟩⟩
  · exact (represents left first).state_eq (represents right second) keys versions
  · obtain ⟨merged, merges, same, _⟩ :=
      (represents left first).merge_of_le (inv.dense honest) (represents right second) keys below
    exact ⟨merged, merges, same⟩

theorem exists_oneIncrement : ∃ cluster, Reachable pair {} cluster ∧
    cluster.world.ledger.honest = true ∧ cluster.world.ledger.history.length = 1 ∧
    ((cluster.world.nodes east).store.get [107]).isSome = true := by
  obtain ⟨cluster, reached, facts⟩ := Reachable.exists_of_run pair {} oneIncrement
    (fun cluster => cluster.world.ledger.honest && (cluster.world.ledger.history.length == 1 &&
      ((cluster.world.nodes east).store.get [107]).isSome)) (by decide +kernel)
  simp only [Bool.and_eq_true, beq_iff_eq] at facts
  exact ⟨cluster, reached, facts⟩

/-- After one increment, the stored counter is one and stands for the one mutation. -/
theorem oneIncrement_determines_state :
    ∃ cluster entry, Reachable pair {} cluster ∧ cluster.world.ledger.history.length = 1 ∧
      (cluster.world.nodes east).store.get [107] = some entry ∧
      History.Represents cluster.world.ledger.history entry := by
  obtain ⟨cluster, reached, honest, length, stored⟩ := exists_oneIncrement
  obtain ⟨entry, found⟩ := Option.isSome_iff_exists.mp stored
  exact ⟨cluster, entry, reached, length, found,
    (version_determines_state reached honest).1 entry (.stored east _ found)⟩

/-- Dots are unique and without gaps, the clock of a node counts its own mutations, and the
dot of a mutation whose commit raised was still free then. -/
theorem dots_unique_gapless (reached : Reachable deployment discipline cluster)
    (honest : cluster.world.ledger.honest = true) :
    (cluster.world.ledger.history.map Mutation.dot).Nodup ∧
      (∀ actor, (cluster.world.ledger.history.filter fun mutation => mutation.actor = actor).map
          (fun mutation => mutation.dot.counter) =
        List.range' 1 (History.count cluster.world.ledger.history actor)) ∧
      (∀ id, cluster.world.ledger.unclocked id = none →
        (cluster.world.nodes id).frontier.get (deployment.actor id) =
          History.count cluster.world.ledger.history (deployment.actor id)) ∧
      ∀ item ∈ cluster.world.ledger.aborted,
        item.committed <+: cluster.world.ledger.history ∧
        (∀ mutation ∈ item.committed, mutation.dot ≠ item.dot) ∧
        ∀ entry, cluster.world.Occurs deployment.json entry →
          entry.stateVersion.Covers item.dot →
          ∃ mutation ∈ cluster.world.ledger.history.drop item.committed.length,
            mutation.dot = item.dot := by
  have inv := reached.inv.world
  have dense := inv.dense honest
  refine ⟨dense.nodup, dense.counters, fun id settled => (inv.nodes id).counted honest settled,
    fun item listed => ?_⟩
  obtain ⟨⟨later, whole⟩, numbered⟩ := inv.aborted honest item listed
  have whole : item.committed ++ later = cluster.world.ledger.history := whole
  have free : ∀ mutation ∈ item.committed, mutation.dot ≠ item.dot := by
    intro mutation member same
    obtain ⟨front, back, split⟩ := List.append_of_mem member
    have counter := dense front mutation (back ++ later)
      (by rw [← List.cons_append, ← List.append_assoc, ← split]; exact whole.symm)
    have counted := congrArg (fun history => History.count history item.dot.actor) split
    rw [← List.singleton_append, History.count_append, History.count_append,
      History.count_singleton] at counted
    have actor : mutation.actor = item.dot.actor := congrArg Dot.actor same
    rw [if_pos actor] at counted
    rw [same, actor] at counter
    omega
  refine ⟨⟨later, whole⟩, free, fun entry occurs covers => ?_⟩
  obtain ⟨_, known⟩ := (inv.sound_of_occurs occurs).version honest
  obtain ⟨mutation, member, same⟩ := dense.exists_of_le (covers.trans (known item.dot.actor))
  refine ⟨mutation, ?_, same⟩
  rw [← whole, List.drop_left]
  change mutation ∈ cluster.world.ledger.history at member
  rw [← whole] at member
  rcases List.mem_append.mp member with old | new
  · exact absurd same (free mutation old)
  · exact new

/-- The two increments have the dots one and two, which the clock counts. -/
theorem writeOnOwnWrite_dots : ∃ cluster, Reachable pair {} cluster ∧
    (cluster.world.ledger.history.map Mutation.dot).Nodup ∧
    (cluster.world.ledger.history.filter fun mutation => mutation.actor = pair.actor east).map
      (fun mutation => mutation.dot.counter) = [1, 2] ∧
    (cluster.world.nodes east).frontier.get (pair.actor east) = 2 := by
  obtain ⟨cluster, reached, facts⟩ := Reachable.exists_of_run pair {} writeOnOwnWrite
    (fun cluster => cluster.world.ledger.honest &&
      (History.count cluster.world.ledger.history (pair.actor east) == 2 &&
        (cluster.world.ledger.unclocked east).isNone)) (by decide +kernel)
  simp only [Bool.and_eq_true, beq_iff_eq, Option.isNone_iff_eq_none] at facts
  obtain ⟨honest, two, settled⟩ := facts
  obtain ⟨unique, gapless, clock, _⟩ := dots_unique_gapless reached honest
  refine ⟨cluster, reached, unique, ?_, ?_⟩
  · rw [gapless, two]
    rfl
  · rw [clock east settled, two]

/-- No vector anywhere counts a mutation that was not committed, and a mutation or a read is
accepted only when everything its token claims has been committed. -/
theorem no_phantom_causality (reached : Reachable deployment discipline cluster)
    (honest : cluster.world.ledger.honest = true) :
    (∀ vector, cluster.world.Mentions deployment.json vector →
        ∀ actor, vector.get actor ≤ History.count cluster.world.ledger.history actor) ∧
      (∀ mutation ∈ cluster.world.ledger.history, ∃ earlier : History,
        earlier ++ [mutation] <+: cluster.world.ledger.history ∧
        ∀ actor, mutation.request.causalToken.version.get actor ≤ earlier.count actor) ∧
      ∀ served ∈ cluster.world.ledger.served, ∀ actor,
        served.request.causalToken.version.get actor ≤
          History.count cluster.world.ledger.history actor := by
  have inv := reached.inv.world
  refine ⟨fun vector mentions => (inv.knows_of_mentions mentions honest).2,
    fun mutation member => (inv.mutations mutation member).claimed honest,
    fun served listed => ((inv.served served listed).token honest).2⟩

theorem oneIncrement_no_phantom : ∃ cluster, Reachable pair {} cluster ∧
    cluster.world.ledger.history.length = 1 ∧
    ∀ actor, (cluster.world.nodes east).frontier.get actor ≤
      History.count cluster.world.ledger.history actor := by
  obtain ⟨cluster, reached, honest, length, _⟩ := exists_oneIncrement
  exact ⟨cluster, reached, length,
    (no_phantom_causality reached honest).1 _ (.clock east rfl)⟩

end Distsys
