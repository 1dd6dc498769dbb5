import Distsys.Guarantees.Versions
import Distsys.Node.Reconciliation

/-!
# The windows of anti-entropy

A pass compares a first part of the sorted keys that two nodes share: as many as the
batch size on one side, and at most as many on the other. Passes that find nothing to
repair therefore show that the nodes agree on the first keys, and on all keys only if
those past the window agree as well.
-/

namespace Distsys

variable {deployment : Deployment} {environment : Environment} {world : World}
  {stores : NodeId → Store}

/-- The versions of a store by key. -/
def Store.versions (store : Store) : SortedMap PyStr VersionVector :=
  store.entries.mapValues (·.stateVersion)

theorem Store.get?_versions (store : Store) (key : PyStr) :
    store.versions.get? key = (store.get key).map (·.stateVersion) :=
  SortedMap.get?_mapValues ..

/-- The keys that two nodes share with their versions in the store of one, in key order. -/
def Environment.index (environment : Environment) (left right : NodeId) (store : Store) :
    List (PyStr × VersionVector) :=
  store.versions.items.filter fun item => environment.Shares left right item.1

theorem Environment.index_sorted (environment : Environment) (left right : NodeId) (store : Store) :
    ((environment.index left right store).map Prod.fst).Pairwise (· < ·) :=
  store.versions.sorted.sublist (List.filter_sublist.map Prod.fst)

theorem Environment.index_swap (environment : Environment) (left right : NodeId) (store : Store) :
    environment.index right left store = environment.index left right store :=
  List.filter_congr fun _ _ => decide_eq_decide.mpr and_comm

theorem Environment.mem_index {left right : NodeId} {store : Store} {key : PyStr}
    {version : VersionVector} :
    (key, version) ∈ environment.index left right store ↔
      environment.Shares left right key ∧
        ∃ entry, store.get key = some entry ∧ entry.stateVersion = version := by
  unfold index
  rw [List.mem_filter, SortedMap.mem_items_iff, Store.get?_versions, Option.map_eq_some_iff,
    decide_eq_true_iff, and_comm]

theorem Store.snapshotAll_sorted (store : Store) :
    (store.snapshotAll.map StoredCrdtEntry.key).Pairwise (· < ·) := by
  have all : store.snapshotAll.map StoredCrdtEntry.key = store.entries.keys := by
    rw [SortedMap.keys, items_eq_snapshotAll, List.map_map]
    rfl
  rw [all]
  exact store.entries.sorted

/-- The index is the digest without types and contexts. -/
theorem Environment.index_eq (environment : Environment) (left right : NodeId) (store : Store) :
    environment.index left right store =
      (environment.digestOf left right store).map fun digest =>
        (digest.key, digest.stateVersion) := by
  refine SortedMap.items_eq_of_mem_iff (environment.index_sorted left right store) ?_ ?_
  · have keys : ((environment.digestOf left right store).map fun digest =>
        (digest.key, digest.stateVersion)).map Prod.fst =
        (store.snapshotAll.filter fun entry => environment.Shares left right entry.key).map
          StoredCrdtEntry.key := by
      unfold digestOf
      rw [List.map_map, List.map_map]
      rfl
    rw [keys]
    exact store.snapshotAll_sorted.sublist (List.filter_sublist.map _)
  · rintro ⟨key, version⟩
    rw [mem_index, List.mem_map]
    constructor
    · rintro ⟨shared, entry, found, rfl⟩
      exact ⟨.fromEntry entry, mem_digestOf shared found, Prod.ext (Store.key_of_get found) rfl⟩
    · rintro ⟨digest, listed, same⟩
      cases same
      obtain ⟨entry, found, rfl, shared⟩ := held_of_digestOf listed
      exact ⟨shared, entry, found, rfl⟩

/-- A digest that is absorbed changes contexts only. -/
theorem Store.versions_refresh (store : Store) (digests : List CrdtDigestEntry) :
    (store.refresh digests).versions = store.versions := by
  induction digests generalizing store with
  | nil => rfl
  | cons digest rest ih =>
      unfold refresh
      split
      · next entry found =>
        split
        · rw [ih]
          refine SortedMap.ext_get? fun key => ?_
          rw [get?_versions, get?_versions]
          by_cases same : digest.key = key
          · subst same
            rw [get_withMetadata_self found, found]
            rfl
          · rw [get_withMetadata_of_ne same]
        · exact ih store
      · exact ih store

theorem Environment.index_refresh (environment : Environment) (left right : NodeId) (store : Store)
    (digests : List CrdtDigestEntry) :
    environment.index left right (store.refresh digests) = environment.index left right store := by
  unfold index
  rw [Store.versions_refresh]

/-- When a window of the union of two lists is part of both, it is all of both, provided
that the one fits into the window and the other is not longer. -/
theorem mem_iff_of_window {α : Type} [DecidableEq α] {all left right : List α} {size : Nat}
    (nodup : all.Nodup) (union : ∀ key, key ∈ all ↔ key ∈ left ∨ key ∈ right)
    (inLeft : all.take size ⊆ left) (inRight : all.take size ⊆ right)
    (boundLeft : left.length ≤ size) (boundRight : right.length ≤ max 1 left.length)
    (positive : 1 ≤ size) (key : α) :
    (key ∈ left ↔ key ∈ all.take size) ∧ (key ∈ right ↔ key ∈ all.take size) := by
  by_cases short : all.length ≤ size
  · rw [List.take_of_length_le short] at inLeft inRight ⊢
    exact ⟨⟨fun listed => (union key).mpr (.inl listed), fun listed => inLeft listed⟩,
      ⟨fun listed => (union key).mpr (.inr listed), fun listed => inRight listed⟩⟩
  · have taken : (all.take size).length = size := List.length_take_of_le (by omega)
    have window : (all.take size).Nodup := nodup.sublist (List.take_sublist _ _)
    have permLeft := (window.subperm inLeft).perm_of_length_le (by omega)
    have full := permLeft.length_eq
    have permRight := (window.subperm inRight).perm_of_length_le (by omega)
    exact ⟨permLeft.mem_iff.symm, permRight.mem_iff.symm⟩

/-- Digests that are found equal are of the same version. -/
theorem exists_of_prescribed_equal {current remote : Option CrdtDigestEntry}
    (prescribes : prescribed current remote = .ok .equal) :
    ∃ mine other, current = some mine ∧ remote = some other ∧
      mine.stateVersion = other.stateVersion := by
  match current, remote with
  | none, none => cases prescribes
  | none, some _ => cases prescribes
  | some _, none => cases prescribes
  | some mine, some other =>
      refine ⟨mine, other, rfl, rfl, ?_⟩
      change compareDigest mine other = .ok .equal at prescribes
      obtain ⟨keys, types⟩ := agree_of_compareDigest prescribes
      rw [compareDigest_eq keys types] at prescribes
      injection prescribes with relation
      split at relation
      · next above =>
        split at relation
        · next below => exact le_antisymm below above
        · cases relation
      · split at relation <;> cases relation

/-- A key is pulled only if the other side lists it. -/
theorem remote_of_prescribed {current remote : Option CrdtDigestEntry} {relation : DigestRelation}
    (prescribes : prescribed current remote = .ok relation)
    (pulled : relation = .remoteAhead ∨ relation = .concurrent) : ∃ other, remote = some other := by
  cases remote with
  | some other => exact ⟨other, rfl⟩
  | none =>
      cases current with
      | none => cases prescribes
      | some mine =>
          cases prescribes
          rcases pulled with pulled | pulled <;> cases pulled

/-- A key is pushed only if this side lists it. -/
theorem current_of_prescribed {current remote : Option CrdtDigestEntry}
    (prescribes : prescribed current remote = .ok .localAhead) : ∃ mine, current = some mine := by
  cases current with
  | some mine => exact ⟨mine, rfl⟩
  | none => cases remote <;> cases prescribes

section Quiet

variable {id target : NodeId} {digests answers : List CrdtDigestEntry} {refused : Prop}
  {keys : List PyStr} {left : NodeId → Store}

/-- A pass without repairs and refusals has found every key of its window on both sides,
and of the same version. -/
theorem versions_of_quiet
    (turns : Turns id target (digestMap digests) (digestMap answers) refused keys stores left 0)
    (apart : id ≠ target) (nodup : keys.Nodup) (accepted : ¬ refused)
    (held : ∀ digest ∈ digests, ∃ entry, (stores id).get digest.key = some entry)
    (answered : ∀ digest ∈ answers, ∃ entry, (stores target).get digest.key = some entry)
    (key : PyStr) (listed : key ∈ keys) :
    ∃ mine other, (digestMap digests).get? key = some mine ∧
      (digestMap answers).get? key = some other ∧ mine.stateVersion = other.stateVersion := by
  obtain ⟨before, after, relation, repaired, turn, starts, _, counted⟩ :=
    turns.at_key apart nodup listed
  have prescribes := turn.prescribes
  have effect := turn.effect
  cases repaired with
  | true => exact absurd (counted rfl) (Nat.lt_irrefl 0)
  | false =>
      cases effect.2 with
      | equal => exact exists_of_prescribed_equal prescribes
      | refused refuses pulled => exact absurd refuses accepted
      | absent missing pulled =>
          obtain ⟨other, lists⟩ := remote_of_prescribed prescribes pulled
          obtain ⟨member, rfl⟩ := mem_of_digestMap lists
          obtain ⟨entry, found⟩ := answered other member
          rw [starts, found] at missing
          cases missing
      | gone missing =>
          obtain ⟨mine, lists⟩ := current_of_prescribed prescribes
          obtain ⟨member, rfl⟩ := mem_of_digestMap lists
          obtain ⟨entry, found⟩ := held mine member
          rw [starts, found] at missing
          cases missing

theorem mem_keys_digestMap (nodup : (digests.map CrdtDigestEntry.key).Nodup) {key : PyStr} :
    key ∈ (digestMap digests).keys ↔ key ∈ digests.map CrdtDigestEntry.key := by
  rw [SortedMap.mem_keys_iff]
  constructor
  · rintro ⟨digest, found⟩
    obtain ⟨listed, rfl⟩ := mem_of_digestMap found
    exact List.mem_map_of_mem listed
  · intro listed
    obtain ⟨digest, member, rfl⟩ := List.mem_map.mp listed
    refine ⟨digest, SortedMap.get?_ofList_of_mem ?_ (List.mem_map.mpr ⟨digest, member, rfl⟩)⟩
    rw [List.map_map]
    exact nodup

theorem get?_digestMap_of_mem (nodup : (digests.map CrdtDigestEntry.key).Nodup)
    {digest : CrdtDigestEntry}
    (listed : digest ∈ digests) : (digestMap digests).get? digest.key = some digest := by
  refine SortedMap.get?_ofList_of_mem ?_ (List.mem_map.mpr ⟨digest, listed, rfl⟩)
  rw [List.map_map]
  exact nodup

/-- The keys and versions of digests. -/
abbrev versionsOf (digests : List CrdtDigestEntry) : List (PyStr × VersionVector) :=
  digests.map fun digest => (digest.key, digest.stateVersion)

/-- Digests that agree on every key of a window which is all of both have the same keys
and versions. -/
theorem versionsOf_eq {window : List PyStr}
    (sorted : (digests.map CrdtDigestEntry.key).Pairwise (· < ·))
    (sortedAnswers : (answers.map CrdtDigestEntry.key).Pairwise (· < ·))
    (mine : ∀ key, key ∈ digests.map CrdtDigestEntry.key ↔ key ∈ window)
    (theirs : ∀ key, key ∈ answers.map CrdtDigestEntry.key ↔ key ∈ window)
    (agree : ∀ key ∈ window, ∃ mine other, (digestMap digests).get? key = some mine ∧
      (digestMap answers).get? key = some other ∧ mine.stateVersion = other.stateVersion) :
    versionsOf digests = versionsOf answers := by
  have nodup : (digests.map CrdtDigestEntry.key).Nodup := sorted.imp fun below => below.ne
  have nodupAnswers : (answers.map CrdtDigestEntry.key).Nodup :=
    sortedAnswers.imp fun below => below.ne
  refine SortedMap.items_eq_of_mem_iff (by rwa [List.map_map]) (by rwa [List.map_map]) ?_
  rintro ⟨key, version⟩
  constructor
  · intro listed
    obtain ⟨digest, member, same⟩ := List.mem_map.mp listed
    cases same
    obtain ⟨mine, other, found, answered, versions⟩ :=
      agree digest.key ((mine _).mp (List.mem_map_of_mem member))
    rw [get?_digestMap_of_mem nodup member] at found
    cases found
    obtain ⟨listed, keys⟩ := mem_of_digestMap answered
    exact List.mem_map.mpr ⟨other, listed, Prod.ext keys versions.symm⟩
  · intro listed
    obtain ⟨digest, member, same⟩ := List.mem_map.mp listed
    cases same
    obtain ⟨mine, other, found, answered, versions⟩ :=
      agree digest.key ((theirs _).mp (List.mem_map_of_mem member))
    rw [get?_digestMap_of_mem nodupAnswers member] at answered
    cases answered
    obtain ⟨listed, keys⟩ := mem_of_digestMap found
    exact List.mem_map.mpr ⟨mine, listed, Prod.ext keys versions⟩

end Quiet

/-- The keys of a pass are those of both digests, cut to the limit. -/
theorem mem_reconciledKeys {currentMap remoteMap : SortedMap PyStr CrdtDigestEntry} {key : PyStr} :
    key ∈ reconciledKeys currentMap remoteMap none ↔
      key ∈ currentMap.keys ∨ key ∈ remoteMap.keys := by
  change key ∈ (SortedMap.ofKeys (currentMap.keys ++ remoteMap.keys) fun _ => ()).keys ↔ _
  rw [SortedMap.mem_keys_iff, ← List.mem_append, SortedMap.get?_ofKeys]
  by_cases listed : key ∈ currentMap.keys ++ remoteMap.keys
  · rw [if_pos listed]
    exact iff_of_true ⟨(), rfl⟩ listed
  · rw [if_neg listed]
    exact iff_of_false nofun listed

theorem digestOf_sorted (environment : Environment) (left right : NodeId) (store : Store) :
    ((environment.digestOf left right store).map CrdtDigestEntry.key).Pairwise (· < ·) := by
  have sorted := environment.index_sorted left right store
  rw [environment.index_eq, List.map_map] at sorted
  exact sorted

/-- What a pass without repairs and refusals shows: the first keys and versions of this
node are the first ones of the target. -/
theorem index_of_quiet {id target : NodeId} {size : Nat} {refused : Prop} {left : NodeId → Store}
    {digests answers : List CrdtDigestEntry}
    (taken : digests = (environment.digestOf id target (stores id)).take size)
    (given : answers = environment.answered id target (stores target) digests)
    (turns : Turns id target (digestMap digests) (digestMap answers) refused
      (reconciledKeys (digestMap digests) (digestMap answers) (some size))
      (Function.update stores target ((stores target).refresh digests)) left 0)
    (apart : id ≠ target) (accepted : ¬ refused) (positive : 1 ≤ size) :
    (environment.index id target (stores id)).take size =
      (environment.index id target (stores target)).take
        (max 1 (min size (environment.index id target (stores id)).length)) := by
  have sorted : (digests.map CrdtDigestEntry.key).Pairwise (· < ·) := by
    rw [taken, List.map_take]
    exact (digestOf_sorted environment id target (stores id)).sublist (List.take_sublist _ _)
  have sortedAnswers : (answers.map CrdtDigestEntry.key).Pairwise (· < ·) := by
    rw [given, Environment.answered, List.map_take]
    exact (digestOf_sorted environment target id _).sublist (List.take_sublist _ _)
  have nodup := sorted.imp fun below => below.ne
  have nodupAnswers := sortedAnswers.imp fun below => below.ne
  have held : ∀ digest ∈ digests, ∃ entry,
      (Function.update stores target ((stores target).refresh digests) id).get digest.key =
        some entry := by
    intro digest listed
    rw [taken] at listed
    obtain ⟨entry, found, _⟩ := held_of_digestOf (List.mem_of_mem_take listed)
    rw [Function.update_of_ne apart]
    exact ⟨entry, found⟩
  have answered : ∀ digest ∈ answers, ∃ entry,
      (Function.update stores target ((stores target).refresh digests) target).get digest.key =
        some entry := by
    intro digest listed
    rw [given] at listed
    obtain ⟨entry, found, _⟩ := held_of_digestOf (List.mem_of_mem_take listed)
    rw [Function.update_self]
    exact ⟨entry, found⟩
  have agree := versions_of_quiet turns apart (nodup_reconciledKeys _ _ _) accepted held answered
  have union : ∀ key, key ∈ reconciledKeys (digestMap digests) (digestMap answers) none ↔
      key ∈ digests.map CrdtDigestEntry.key ∨ key ∈ answers.map CrdtDigestEntry.key := by
    intro key
    rw [mem_reconciledKeys, mem_keys_digestMap nodup, mem_keys_digestMap nodupAnswers]
  have window : ∀ key,
      (key ∈ digests.map CrdtDigestEntry.key ↔
        key ∈ reconciledKeys (digestMap digests) (digestMap answers) (some size)) ∧
      (key ∈ answers.map CrdtDigestEntry.key ↔
        key ∈ reconciledKeys (digestMap digests) (digestMap answers) (some size)) := by
    refine mem_iff_of_window (nodup_reconciledKeys _ _ none) union ?_ ?_ ?_ ?_ positive
    · intro key listed
      obtain ⟨mine, _, found, _⟩ := agree key listed
      obtain ⟨member, rfl⟩ := mem_of_digestMap found
      exact List.mem_map_of_mem member
    · intro key listed
      obtain ⟨_, other, _, found, _⟩ := agree key listed
      obtain ⟨member, rfl⟩ := mem_of_digestMap found
      exact List.mem_map_of_mem member
    · rw [taken, List.length_map]
      exact List.length_take_le _ _
    · rw [List.length_map, List.length_map, given]
      exact List.length_take_le _ _
  have same := versionsOf_eq sorted sortedAnswers (fun key => (window key).1)
    (fun key => (window key).2) agree
  have mine : versionsOf digests = (environment.index id target (stores id)).take size := by
    rw [environment.index_eq, ← List.map_take, ← taken]
  have length : digests.length = min size (environment.index id target (stores id)).length := by
    rw [taken, List.length_take, environment.index_eq, List.length_map]
  have theirs : versionsOf answers =
      (environment.index id target (stores target)).take (max 1 digests.length) := by
    rw [given, Environment.answered, versionsOf, List.map_take, ← environment.index_eq,
      environment.index_refresh, environment.index_swap]
  rw [← mine, same, theirs, length]

/-- Two lists of which each starts with the first part of the other, as far as a window
reaches, start alike. -/
theorem take_eq_of_windows {α : Type} {left right : List α} {size : Nat}
    (forth : left.take size = right.take (max 1 (min size left.length)))
    (back : right.take size = left.take (max 1 (min size right.length))) (positive : 1 ≤ size) :
    left.take size = right.take size := by
  have forthLength := congrArg List.length forth
  have backLength := congrArg List.length back
  simp only [List.length_take] at forthLength backLength
  by_cases longer : size ≤ left.length
  · rw [forth, Nat.min_eq_left longer, Nat.max_eq_right positive]
  · by_cases other : size ≤ right.length
    · rw [back, Nat.min_eq_left other, Nat.max_eq_right positive]
    · -- both lists fit into the window, so each is a first part of the other
      rw [forth, List.take_of_length_le (by omega), List.take_of_length_le (by omega)]

theorem Turns.eq_of_quiet {id target : NodeId}
    {currentMap remoteMap : SortedMap PyStr CrdtDigestEntry} {refused : Prop} {keys : List PyStr}
    {left : NodeId → Store} {count : Nat}
    (turns : Turns id target currentMap remoteMap refused keys stores left count)
    (quiet : count = 0) : left = stores := by
  induction turns with
  | nil => rfl
  | @cons _ _ _ _ _ _ repaired _ turn _ ih =>
      cases repaired with
      | true => exact absurd quiet (by simp only [↓reduceIte]; omega)
      | false =>
          rw [ih (by simpa only [Bool.false_eq_true, ↓reduceIte, Nat.zero_add] using quiet)]
          exact turn.effect.1

/-- A round of `run_once` that completes with every call succeeding and repairs nothing. -/
structure QuietRound (deployment : Deployment) (environment : Environment) (id : NodeId)
    (world after : World) : Prop where
  alive : environment.target ∈ environment.alive
  apart : id ≠ environment.target
  completes : ∃ stats, (runOnce deployment id).run
    (World.overNetwork deployment environment ⟨id, 0⟩) world = some (.ok stats, after) ∧
      stats.repairs = 0 ∧ stats.failures = 0
  accepted : ¬ after.Refused

/-- What a quiet round shows, and that it changes no version. -/
theorem QuietRound.index {id : NodeId} {after : World}
    (round : QuietRound deployment environment id world after) (holding : world.Holding stores)
    (positive : 1 ≤ deployment.batchSize) :
    (∃ left, after.Holding left ∧ ∀ node, (left node).versions = (stores node).versions) ∧
      (environment.index id environment.target (stores id)).take deployment.batchSize =
        (environment.index id environment.target (stores environment.target)).take
          (max 1 (min deployment.batchSize
            (environment.index id environment.target (stores id)).length)) := by
  obtain ⟨stats, ran, quiet, failures⟩ := round.completes
  have ends : EndsAmong deployment environment ⟨id, 0⟩ _ (runOnce deployment id) world :=
    ends_runOnce holding round.apart round.alive rfl
  obtain ⟨left, kept, turns⟩ := (ends.of_run ran).2 stats rfl failures
  rw [quiet] at turns
  refine ⟨⟨left, kept, fun node => ?_⟩,
    index_of_quiet rfl rfl turns round.apart round.accepted positive⟩
  rw [turns.eq_of_quiet rfl]
  by_cases here : node = environment.target
  · subst here
    rw [Function.update_self, Store.versions_refresh]
  · rw [Function.update_of_ne here]

/-- Two stores agree on the keys that two nodes share when their indexes are the same. -/
theorem index_eq_iff {left right : NodeId} {mine theirs : Store} :
    environment.index left right mine = environment.index left right theirs ↔
      ∀ key, environment.Shares left right key →
        (∃ entry, mine.get key = some entry ∨ theirs.get key = some entry) →
        ∃ first second, mine.get key = some first ∧ theirs.get key = some second ∧
          first.stateVersion = second.stateVersion := by
  constructor
  · rintro same key shared ⟨entry, found | found⟩
    · have listed := Environment.mem_index.mpr ⟨shared, entry, found, rfl⟩
      rw [same] at listed
      obtain ⟨_, other, held, versions⟩ := Environment.mem_index.mp listed
      exact ⟨entry, other, found, held, versions.symm⟩
    · have listed := Environment.mem_index.mpr ⟨shared, entry, found, rfl⟩
      rw [← same] at listed
      obtain ⟨_, other, held, versions⟩ := Environment.mem_index.mp listed
      exact ⟨other, entry, held, found, versions⟩
  · intro agree
    refine SortedMap.items_eq_of_mem_iff (environment.index_sorted _ _ _)
      (environment.index_sorted _ _ _) ?_
    rintro ⟨key, version⟩
    rw [Environment.mem_index, Environment.mem_index]
    constructor
    · rintro ⟨shared, entry, found, rfl⟩
      obtain ⟨first, second, held, other, versions⟩ := agree key shared ⟨entry, .inl found⟩
      cases found.symm.trans held
      exact ⟨shared, second, other, versions.symm⟩
    · rintro ⟨shared, entry, found, rfl⟩
      obtain ⟨first, second, held, other, versions⟩ := agree key shared ⟨entry, .inr found⟩
      cases found.symm.trans other
      exact ⟨shared, first, held, versions⟩

theorem index_congr {first second : Environment} (view : second.replicas = first.replicas)
    {left right : NodeId} {mine theirs : Store} (versions : mine.versions = theirs.versions) :
    second.index left right mine = first.index left right theirs := by
  unfold Environment.index
  rw [versions]
  refine List.filter_congr fun item _ => decide_eq_decide.mpr ?_
  unfold Environment.Shares
  rw [view]

/-- After a quiet round of each of two nodes with the other they hold the same versions of
all keys they share exactly when they did so for the keys past the first batch. -/
theorem quiet_rounds_agree_iff {east west : NodeId} {first second : Environment}
    {middle final : World} (idle : ∀ id, (world.nodes id).Idle)
    (positive : 1 ≤ deployment.batchSize) (view : second.replicas = first.replicas)
    (forth : QuietRound deployment first east world middle) (westward : first.target = west)
    (back : QuietRound deployment second west middle final) (eastward : second.target = east) :
    (∀ key, first.Shares east west key →
      (∃ entry, (final.nodes east).store.get key = some entry ∨
        (final.nodes west).store.get key = some entry) →
      ∃ mine theirs, (final.nodes east).store.get key = some mine ∧
        (final.nodes west).store.get key = some theirs ∧
        mine.stateVersion = theirs.stateVersion) ↔
    (first.index east west (world.nodes east).store).drop deployment.batchSize =
      (first.index east west (world.nodes west).store).drop deployment.batchSize := by
  subst westward eastward
  obtain ⟨⟨between, holding, kept⟩, forth⟩ := forth.index (.of_idle idle) positive
  obtain ⟨⟨left, ends, still⟩, back⟩ := back.index holding positive
  rw [← index_eq_iff]
  have same : ∀ node, (final.nodes node).store.versions = (world.nodes node).store.versions := by
    intro node
    rw [ends.store, still, kept]
  have swap : ∀ node, second.index first.target second.target (between node) =
      first.index second.target first.target (world.nodes node).store := by
    intro node
    rw [second.index_swap, index_congr view (kept node)]
  rw [swap, swap] at back
  rw [index_congr rfl (same _), index_congr rfl (same _)]
  have start := take_eq_of_windows forth back positive
  constructor
  · intro equal
    rw [equal]
  · intro rest
    rw [← List.take_append_drop deployment.batchSize (first.index second.target first.target
      (world.nodes second.target).store), start, rest, List.take_append_drop]

instance (reply : Reply) : Decidable reply.Refuses :=
  match reply with
  | .response msg => inferInstanceAs (Decidable (msg.success = false))
  | .digest _ => isFalse id

/-- Run a round and check that it is quiet. -/
def quietRound (deployment : Deployment) (environment : Environment) (id : NodeId) (world : World) :
    Option World :=
  match (runOnce deployment id).run (World.overNetwork deployment environment ⟨id, 0⟩) world with
  | some (.ok stats, after) =>
      if stats.repairs = 0 ∧ stats.failures = 0 ∧
        ∀ delivery ∈ after.replies, ¬ delivery.reply.Refuses then some after else none
  | _ => none

theorem QuietRound.of_run {id : NodeId} {after : World}
    (alive : environment.target ∈ environment.alive) (apart : id ≠ environment.target)
    (ran : quietRound deployment environment id world = some after) :
    QuietRound deployment environment id world after := by
  unfold quietRound at ran
  split at ran
  · next stats final runs =>
    split at ran
    · next quiet =>
      cases ran
      refine ⟨alive, apart, ⟨stats, runs, quiet.1, quiet.2.1⟩, ?_⟩
      rintro ⟨delivery, listed, refuses⟩
      exact quiet.2.2 delivery listed refuses
    · cases ran
  · cases ran

/-- Idle nodes with the given stores. -/
def Deployment.stocked (deployment : Deployment) (stores : NodeId → Store) : World where
  nodes id := { deployment.initialNode id with store := stores id }

/-- A counter that east has incremented once. -/
def countedOnce (letter : CodePoint) : StoredCrdtEntry :=
  let version := VersionVector.ofItems [(.letter 101 0, 1)]
  .ofLetter letter (.gcounter ⟨version⟩) version version

/-- East and west replicate every key, and one of them contacts the other. -/
def towards (target : NodeId) : Environment where
  replicas _ := [east, west]
  alive := [east, west]
  target

/-- A batch of one key. -/
def narrow : Deployment := { pair with batchSize := 1 }

/-- Both nodes hold one counter, and east holds a second one. -/
def oneBehind : World :=
  narrow.stocked fun id =>
    if id = east then (Store.empty.put (countedOnce 97)).put
      (countedOnce 98)
    else Store.empty.put (countedOnce 97)

/-- Two rounds that can be evaluated and are quiet. -/
theorem exists_quietRounds (deployment : Deployment) (world : World) (check : World → Bool)
    (checked : ((quietRound deployment (towards west) east world).bind fun middle =>
      quietRound deployment (towards east) west middle).any check = true) :
    ∃ middle final, QuietRound deployment (towards west) east world middle ∧
      QuietRound deployment (towards east) west middle final ∧ check final = true := by
  obtain ⟨final, reached, facts⟩ := (Option.any_eq_true _ _).mp checked
  obtain ⟨middle, forth, back⟩ := Option.bind_eq_some_iff.mp reached
  exact ⟨middle, final, .of_run (by decide) (by decide) forth, .of_run (by decide) (by decide) back,
    facts⟩

/-- East holds a key that west lacks, and a round of each finds nothing to repair. -/
theorem oneBehind_stays_apart :
    ∃ middle final, QuietRound narrow (towards west) east oneBehind middle ∧
      QuietRound narrow (towards east) west middle final ∧
      (towards west).Shares east west [98] ∧
      (∃ entry, (final.nodes east).store.get [98] = some entry) ∧
      (final.nodes west).store.get [98] = none := by
  obtain ⟨middle, final, forth, back, facts⟩ := exists_quietRounds narrow oneBehind
    (fun final => ((final.nodes east).store.get [98]).isSome &&
      ((final.nodes west).store.get [98]).isNone) (by decide +kernel)
  rw [Bool.and_eq_true, Option.isSome_iff_exists, Option.isNone_iff_eq_none] at facts
  exact ⟨middle, final, forth, back, by decide, facts.1, facts.2⟩

/-- With a batch that holds all keys, two nodes that hold the same are found to. -/
theorem twoCounters_agree :
    ∃ middle final, QuietRound pair (towards west) east (pair.stocked fun _ =>
        (Store.empty.put (countedOnce 97)).put (countedOnce 98)) middle ∧
      QuietRound pair (towards east) west middle final ∧
      ∃ mine theirs, (final.nodes east).store.get [98] = some mine ∧
        (final.nodes west).store.get [98] = some theirs ∧
        mine.stateVersion = theirs.stateVersion := by
  obtain ⟨middle, final, forth, back, facts⟩ := exists_quietRounds pair (pair.stocked fun _ =>
    (Store.empty.put (countedOnce 97)).put (countedOnce 98))
    (fun final => ((final.nodes east).store.get [98]).isSome) (by decide +kernel)
  obtain ⟨entry, found⟩ := Option.isSome_iff_exists.mp facts
  have view : (towards east).replicas = (towards west).replicas := rfl
  have agree := (quiet_rounds_agree_iff (fun _ => ⟨fun _ => rfl, rfl⟩) (by decide) view forth rfl
    back rfl).mpr rfl
  exact ⟨middle, final, forth, back, agree [98] (by decide) ⟨entry, .inl found⟩⟩

end Distsys
