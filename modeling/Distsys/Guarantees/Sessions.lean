import Distsys.Guarantees.Versions

/-!
# What a session sees and what it writes on

A session hands a node the token of an earlier response. A read that is answered from
the local copy, and a mutation that is committed, rest on a context that dominates the
token. They see everything the token covers as long as no node relies on the frontier
of its clock for a key whose copy lacks something that the frontier covers.
-/

namespace Distsys

namespace History

variable {history : History} {mutation other : Mutation}

/-- A mutation whose prior version covers something found an entry of its type. -/
theorem type_of_covered (applies : mutation.Applies)
    (before : ∀ entry, mutation.before = some entry →
      entry.key = mutation.key ∧ Represents history entry)
    (member : other ∈ history.covered mutation.key mutation.priorVersion) :
    other.crdtType = mutation.crdtType := by
  have types := (applied_of_applyMutation applies).types.1
  cases found : mutation.before with
  | none =>
      rw [Mutation.priorVersion, found, covered_bot] at member
      cases member
  | some entry =>
      obtain ⟨key, represents⟩ := before entry found
      rw [Mutation.priorVersion, found, ← key] at member
      rw [Mutation.prior, found] at types
      exact (represents.types other member).trans types

/-- A write puts every earlier write that it found out of sight. -/
theorem mem_tombstones_of_write (applies : mutation.Applies) (earlier : other.Applies)
    (before : ∀ entry, mutation.before = some entry →
      entry.key = mutation.key ∧ Represents history entry)
    (member : other ∈ history.covered mutation.key mutation.priorVersion)
    (type : mutation.crdtType = .mvregister) : other.dot ∈ mutation.tombstones := by
  have otherType : other.request.crdtType = .mvregister :=
    (type_of_covered applies before member).trans type
  have written : (other.dot, other.request.value.dumps) ∈ mutation.prior.content.payloads := by
    rw [prior_content before, mem_payloads_combined]
    refine ⟨other, member, ?_⟩
    have applied := applied_of_applyMutation earlier
    generalize other.prior = prior at applied
    generalize other.after.state = next at applied
    cases applied with
    | increment _ type | increase _ type | decrease _ type | add _ _ type | remove _ _ type =>
        cases otherType.symm.trans type
    | write register _ operation =>
        simp only [Mutation.payloads, Mutation.crdtType, otherType, operation]
        exact Set.mem_singleton _
  have applied := applied_of_applyMutation applies
  unfold Mutation.tombstones Mutation.crdtType
  generalize mutation.prior = prior at applied written
  generalize mutation.after.state = next at applied
  cases applied with
  | increment _ differs | increase _ differs | decrease _ differs | add _ _ differs
  | remove _ _ differs => cases type.symm.trans differs
  | write register type operation =>
      simp only [type, operation, List.mem_toFinset]
      exact SortedMap.mem_keys_iff.mpr ⟨_, written⟩

/-- A remove puts every add of its element that it found out of sight. -/
theorem mem_tombstones_of_remove (applies : mutation.Applies)
    (before : ∀ entry, mutation.before = some entry →
      entry.key = mutation.key ∧ Represents history entry)
    (member : other ∈ history.covered mutation.key mutation.priorVersion)
    (type : mutation.crdtType = .orset) (removes : mutation.request.operation = .remove)
    (adds : other.request.operation = .add) (value : other.request.value = mutation.request.value) :
    other.dot ∈ mutation.tombstones := by
  have otherType : other.request.crdtType = .orset :=
    (type_of_covered applies before member).trans type
  have marked : other.marks ≤ (combined
      (history.covered mutation.key mutation.priorVersion)).marks :=
    Multiset.le_sup (Multiset.mem_coe.mpr (List.mem_map_of_mem member))
  rw [← prior_content before] at marked
  have applied := applied_of_applyMutation applies
  unfold Mutation.tombstones Mutation.crdtType
  generalize mutation.prior = prior at applied marked
  generalize mutation.after.state = next at applied
  cases applied with
  | increment _ differs | increase _ differs | decrease _ differs | write _ differs =>
      cases type.symm.trans differs
  | add _ _ _ operation => cases removes.symm.trans operation
  | remove set element type operation text =>
      have added : other.additions element ≤ set.addsContent element := marked.1 element
      rw [text] at value
      simp only [Mutation.additions, Mutation.crdtType, otherType, adds, value,
        Function.update_self] at added
      simp only [type, operation, text]
      unfold ORSet.addsContent at added
      unfold ORSet.dots
      cases found : set.adds.get? element with
      | none =>
          rw [found] at added
          exact absurd (le_bot_iff.mp added) WithBot.coe_ne_bot
      | some dots =>
          rw [found] at added
          exact Finset.singleton_subset_iff.mp (WithBot.coe_le_coe.mp added)

end History

variable {deployment : Deployment} {discipline : Discipline} {cluster : Cluster}

/-- A read that is answered from the local copy, or from its absence, misses nothing that its
token covers, in runs in which nodes rely on their frontiers only where their copies back
them. -/
theorem session_reads (reached : Reachable deployment discipline cluster)
    (backed : discipline.backed = true) (honest : cluster.world.ledger.honest = true) :
    (∀ served ∈ cluster.world.ledger.served, ∀ mutation ∈ cluster.world.ledger.history,
        mutation.key = served.request.key →
        served.request.causalToken.version.Covers mutation.dot →
        ∃ entry, served.copy = some entry ∧ entry.stateVersion.Covers mutation.dot) ∧
      ∀ entry, cluster.world.Occurs deployment.json entry →
        ∀ mutation ∈ cluster.world.ledger.history, mutation.key = entry.key →
          entry.causalContext.Covers mutation.dot → entry.stateVersion.Covers mutation.dot := by
  have inv := reached.inv.world
  refine ⟨fun served listed mutation member key covers => ?_, fun entry occurs => ?_⟩
  · have covered := (inv.served served listed).backed honest backed mutation member key covers
    cases copy : served.copy with
    | none =>
        rw [copy] at covered
        exact absurd covered (VersionVector.not_covers_bot _)
    | some entry =>
        rw [copy] at covered
        exact ⟨entry, rfl, covered⟩
  · exact (inv.sound_of_occurs occurs).backed honest backed

/-- West on the wire. -/
def westActor : Proto.CausalActor := ⟨.letter 119, 0⟩

/-- A client's request to read a counter. -/
def readRequest (key : StringField) (token : Proto.VersionVector) : Request :=
  .read ⟨key, token, false, Proto.emptyString, 0⟩

/-- A client increments a counter at east and reads it there with the token it got. -/
def readOwnWrite : List Label :=
  oneIncrement ++ [.client east (readRequest (.letter 107) (firstToken eastActor)),
    .deliver 1] ++ turns 1 12

theorem readOwnWrite_sees :
    ∃ cluster served mutation, Reachable pair { backed := true } cluster ∧
      served ∈ cluster.world.ledger.served ∧ mutation ∈ cluster.world.ledger.history ∧
      ∃ entry, served.copy = some entry ∧ entry.stateVersion.Covers mutation.dot := by
  obtain ⟨cluster, reached, facts⟩ := Reachable.exists_of_run pair { backed := true } readOwnWrite
    (fun cluster => cluster.world.ledger.honest && cluster.world.ledger.served.any fun served =>
      cluster.world.ledger.history.any fun mutation =>
        mutation.key == served.request.key &&
          decide (served.request.causalToken.version.Covers mutation.dot)) (by decide +kernel)
  simp only [Bool.and_eq_true, List.any_eq_true, beq_iff_eq, decide_eq_true_eq] at facts
  obtain ⟨honest, served, listed, mutation, member, key, covers⟩ := facts
  exact ⟨cluster, served, mutation, reached, listed, member,
    (session_reads reached rfl honest).1 served listed mutation member key covers⟩

/-- West increments two counters and replicates only the second to east. -/
def secondReplicated : List Label :=
  [.client west (incrementRequest (.letter 107) 1), .deliver 0] ++ turns 0 23 ++
    [.client west (incrementRequest (.letter 108) 1), .deliver 1] ++ turns 1 23 ++
    [.replicator west] ++ turns 2 2 ++ [.replicator west] ++ turns 3 2 ++ [.deliver 3] ++ turns 4 16

/-- Then east increments the first counter, and a client reads it at east with the token of
west's first response. -/
def staleRead : List Label :=
  secondReplicated ++ [.client east (incrementRequest (.letter 107) 1), .deliver 4] ++
    turns 5 23 ++
    [.client east (readRequest (.letter 107) (firstToken westActor)), .deliver 5] ++ turns 6 12

/-- Some response on the network brought the token. -/
def World.brought (json : JsonReader) (world : World) (token : VersionVector) : Bool :=
  world.replies.any fun delivery => match delivery.reply with
    | .digest _ => false
    | .response msg => match responseFromProto json msg with
      | .ok response => response.success && decide (response.causalToken.version = token)
      | .error _ => false

/-- The token is one that a response brought, it covers west's increment of the counter, and
the read is answered from a copy without it. -/
theorem staleRead_misses :
    ∃ cluster served entry mutation, Reachable pair {} cluster ∧
      cluster.world.ledger.honest = true ∧ served ∈ cluster.world.ledger.served ∧
      cluster.world.brought pair.json served.request.causalToken.version = true ∧
      served.copy = some entry ∧ mutation ∈ cluster.world.ledger.history ∧
      mutation.key = served.request.key ∧
      served.request.causalToken.version.Covers mutation.dot ∧
      ¬ entry.stateVersion.Covers mutation.dot := by
  obtain ⟨cluster, reached, facts⟩ := Reachable.exists_of_run pair {} staleRead
    (fun cluster => cluster.world.ledger.honest && cluster.world.ledger.served.any fun served =>
      cluster.world.brought pair.json served.request.causalToken.version &&
        cluster.world.ledger.history.any fun mutation =>
          served.copy.any fun entry : StoredCrdtEntry =>
          mutation.key == served.request.key &&
            (decide (served.request.causalToken.version.Covers mutation.dot) &&
              !decide (entry.stateVersion.Covers mutation.dot))) (by decide +kernel)
  simp only [Bool.and_eq_true, List.any_eq_true, Option.any_eq_true, beq_iff_eq,
    decide_eq_true_eq, Bool.not_eq_true', decide_eq_false_iff_not] at facts
  obtain ⟨honest, served, listed, brought, mutation, member, entry, copy, key, covers, misses⟩ :=
    facts
  exact ⟨cluster, served, entry, mutation, reached, honest, listed, brought, copy, member, key,
    covers, misses⟩

/-- A committed mutation was applied to everything its token covers; a write supersedes every
write that its session has seen, and a remove every add of its element. -/
theorem session_writes (reached : Reachable deployment discipline cluster)
    (backed : discipline.backed = true) (honest : cluster.world.ledger.honest = true) :
    ∀ mutation ∈ cluster.world.ledger.history, ∀ seen ∈ cluster.world.ledger.history,
      seen.key = mutation.key → mutation.request.causalToken.version.Covers seen.dot →
      mutation.priorVersion.Covers seen.dot ∧
        (mutation.crdtType = .mvregister → ∀ entry, cluster.world.Occurs deployment.json entry →
          entry.key = mutation.key → entry.stateVersion.Covers mutation.dot →
          ∃ register, entry.state = .mvregister register ∧ seen.dot ∉ register.visible) ∧
        (mutation.crdtType = .orset → mutation.request.operation = .remove →
          seen.request.operation = .add → seen.request.value = mutation.request.value →
          ∀ entry, cluster.world.Occurs deployment.json entry →
          entry.key = mutation.key → entry.stateVersion.Covers mutation.dot →
          ∃ set, entry.state = .orset set ∧ seen.dot ∈ set.removed) := by
  intro mutation member seen seenMember key covers
  have inv := reached.inv.world
  have sound := inv.mutations mutation member
  have prior := sound.session honest backed seen seenMember key covers
  have before : ∀ entry, mutation.before = some entry → entry.key = mutation.key ∧
      History.Represents cluster.world.ledger.history entry :=
    fun entry found => ⟨(sound.before entry found).1,
      (sound.before entry found).2.represents honest⟩
  have included := History.mem_covered.mpr ⟨seenMember, key, prior⟩
  have tombstoned : ∀ entry, cluster.world.Occurs deployment.json entry →
      entry.key = mutation.key → entry.stateVersion.Covers mutation.dot →
      seen.dot ∈ mutation.tombstones →
      entry.crdtType = mutation.crdtType ∧ seen.dot ∈ entry.state.content.tombstones := by
    intro entry occurs same covers tombstone
    have represents := (inv.sound_of_occurs occurs).represents honest
    have contained := History.mem_covered.mpr ⟨member, same.symm, covers⟩
    refine ⟨(represents.types mutation contained).symm, ?_⟩
    rw [represents.content, History.mem_tombstones_combined]
    exact ⟨mutation, contained, tombstone⟩
  refine ⟨prior, fun type entry occurs same covers => ?_,
    fun type removes adds value entry occurs same covers => ?_⟩
  · obtain ⟨types, hidden⟩ := tombstoned entry occurs same covers
      (History.mem_tombstones_of_write sound.applies (inv.mutations seen seenMember).applies before
        included type)
    rw [type] at types
    cases state : entry.state with
    | gcounter | pncounter | orset =>
        rw [StoredCrdtEntry.crdtType, state] at types
        cases types
    | mvregister register =>
        rw [state] at hidden
        refine ⟨register, rfl, fun visible => ?_⟩
        have kept := (List.mem_filter.mp (List.mem_toFinset.mp visible)).2
        exact of_decide_eq_true kept hidden
  · obtain ⟨types, hidden⟩ := tombstoned entry occurs same covers
      (History.mem_tombstones_of_remove sound.applies before included type removes adds value)
    rw [type] at types
    cases state : entry.state with
    | gcounter | pncounter | mvregister =>
        rw [StoredCrdtEntry.crdtType, state] at types
        cases types
    | orset set =>
        rw [state] at hidden
        exact ⟨set, rfl, hidden⟩

theorem writeOnOwnWrite_contains :
    ∃ cluster mutation seen, Reachable pair { backed := true } cluster ∧
      mutation ∈ cluster.world.ledger.history ∧ seen ∈ cluster.world.ledger.history ∧
      mutation.request.causalToken.version.Covers seen.dot ∧
      mutation.priorVersion.Covers seen.dot := by
  obtain ⟨cluster, reached, facts⟩ := Reachable.exists_of_run pair { backed := true }
    writeOnOwnWrite (fun cluster => cluster.world.ledger.honest &&
      cluster.world.ledger.history.any fun mutation => cluster.world.ledger.history.any fun seen =>
        seen.key == mutation.key &&
          decide (mutation.request.causalToken.version.Covers seen.dot)) (by decide +kernel)
  simp only [Bool.and_eq_true, List.any_eq_true, beq_iff_eq, decide_eq_true_eq] at facts
  obtain ⟨honest, mutation, member, seen, seenMember, key, covers⟩ := facts
  exact ⟨cluster, mutation, seen, reached, member, seenMember, covers,
    (session_writes reached rfl honest mutation member seen seenMember key covers).1⟩

/-- East has only west's second counter, and a client increments the first one there with the
token of west's first response. -/
def staleWrite : List Label :=
  secondReplicated ++
    [.client east (incrementRequest (.letter 107) 1 (firstToken westActor)), .deliver 4] ++
    turns 5 28

/-- The request was answered with success. -/
def World.acknowledged (world : World) (correlation : Nat) : Bool :=
  world.replies.any fun delivery => delivery.correlation == correlation &&
    match delivery.reply with
    | .digest _ => false
    | .response msg => msg.success

/-- The mutation is committed on a state without the increment that its token covers, and
acknowledged. -/
theorem staleWrite_misses :
    ∃ cluster mutation seen, Reachable pair {} cluster ∧ cluster.world.ledger.honest = true ∧
      mutation ∈ cluster.world.ledger.history ∧ seen ∈ cluster.world.ledger.history ∧
      cluster.world.acknowledged 4 = true ∧
      cluster.world.brought pair.json mutation.request.causalToken.version = true ∧
      seen.key = mutation.key ∧ mutation.request.causalToken.version.Covers seen.dot ∧
      ¬ mutation.priorVersion.Covers seen.dot := by
  obtain ⟨cluster, reached, facts⟩ := Reachable.exists_of_run pair {} staleWrite
    (fun cluster => cluster.world.ledger.honest && (cluster.world.acknowledged 4 &&
      cluster.world.ledger.history.any fun mutation => cluster.world.ledger.history.any fun seen =>
        cluster.world.brought pair.json mutation.request.causalToken.version &&
          (seen.key == mutation.key &&
            (decide (mutation.request.causalToken.version.Covers seen.dot) &&
              !decide (mutation.priorVersion.Covers seen.dot))))) (by decide +kernel)
  simp only [Bool.and_eq_true, List.any_eq_true, beq_iff_eq, decide_eq_true_eq,
    Bool.not_eq_true', decide_eq_false_iff_not] at facts
  obtain ⟨honest, answered, mutation, member, seen, seenMember, brought, key, covers, misses⟩ :=
    facts
  exact ⟨cluster, mutation, seen, reached, honest, member, seenMember, answered, brought, key,
    covers, misses⟩

end Distsys
