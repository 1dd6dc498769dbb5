import Mathlib.Algebra.Order.BigOperators.Group.List
import Mathlib.Algebra.Order.Ring.Nat
import Distsys.Crdt.Mutation

/-!
# The committed mutations and what entries say about them

The history lists all committed mutations of a cluster, oldest first. A vector is
known when it counts committed mutations only. An entry represents the history
when its state is the combined effect of the mutations of its key that its state
version covers, and its context is backed when it claims no mutation of its key
that the state does not contain. All three survive the commit of new mutations,
because a new dot is covered by no known vector.
-/

namespace Distsys

/-- The committed mutations, oldest first. -/
abbrev History := List Mutation

namespace History

variable {history earlier : History} {key : PyStr}
  {vector smaller larger version frontier : VersionVector} {mutation : Mutation}
  {left right : StoredCrdtEntry} {mutations : List Mutation} {item : Dot × PyStr}

/-- The number of mutations an actor has committed. -/
def count (history : History) (actor : CausalActor) : Nat :=
  history.countP fun mutation => mutation.actor = actor

/-- Every mutation is numbered by the earlier mutations of its actor. -/
def Dense (history : History) : Prop :=
  ∀ earlier mutation later, history = earlier ++ mutation :: later →
    mutation.dot.counter = count earlier mutation.actor + 1

/-- The vector counts committed mutations only. -/
def Known (history : History) (vector : VersionVector) : Prop :=
  ∀ actor, vector.get actor ≤ history.count actor

/-- The mutations of a key that a vector covers. -/
def covered (history : History) (key : PyStr) (vector : VersionVector) : List Mutation :=
  history.filter fun mutation => mutation.key = key ∧ vector.Covers mutation.dot

/-- Every mutation of the key that the frontier covers is covered by the version. -/
def Backed (history : History) (key : PyStr) (version frontier : VersionVector) : Prop :=
  ∀ mutation ∈ history, mutation.key = key → frontier.Covers mutation.dot →
    version.Covers mutation.dot

/-- The state of the entry is the combined effect of the covered mutations of its
key, of which there is at least one, all of the type of the entry. -/
structure Represents (history : History) (entry : StoredCrdtEntry) : Prop where
  content : entry.state.content = combined (history.covered entry.key entry.stateVersion)
  types : ∀ mutation ∈ history.covered entry.key entry.stateVersion,
    mutation.crdtType = entry.crdtType
  inhabited : ∃ mutation, mutation ∈ history.covered entry.key entry.stateVersion

theorem mem_covered :
    mutation ∈ history.covered key vector ↔
      mutation ∈ history ∧ mutation.key = key ∧ vector.Covers mutation.dot := by
  unfold covered
  rw [List.mem_filter, decide_eq_true_eq]

@[simp] theorem count_append (earlier later : History) (actor : CausalActor) :
    count (earlier ++ later) actor = count earlier actor + count later actor :=
  List.countP_append

theorem count_singleton (mutation : Mutation) (actor : CausalActor) :
    count [mutation] actor = if mutation.actor = actor then 1 else 0 := by
  unfold count
  rw [List.countP_singleton]
  simp only [decide_eq_true_eq]

theorem count_mono (grows : earlier <+: history) (actor : CausalActor) :
    earlier.count actor ≤ history.count actor := by
  obtain ⟨later, rfl⟩ := grows
  rw [count_append]
  exact Nat.le_add_right _ _

theorem dense_nil : Dense [] := by
  intro earlier mutation later same
  exact absurd same.symm (List.append_ne_nil_of_right_ne_nil _ (List.cons_ne_nil _ _))

theorem dense_concat :
    Dense (history ++ [mutation]) ↔
      Dense history ∧ mutation.dot.counter = history.count mutation.actor + 1 := by
  constructor
  · intro dense
    refine ⟨fun earlier other later same => ?_, dense history mutation [] rfl⟩
    refine dense earlier other (later ++ [mutation]) ?_
    rw [same, List.append_assoc, List.cons_append]
  · rintro ⟨dense, numbered⟩ earlier other later same
    induction later using List.reverseRecOn with
    | nil =>
        obtain ⟨rfl, last⟩ := List.append_inj' same rfl
        cases last
        exact numbered
    | append_singleton init last _ =>
        rw [← List.cons_append, ← List.append_assoc] at same
        obtain ⟨front, _⟩ := List.append_inj' same rfl
        exact dense earlier other init front

/-- A mutation committed later than a known vector is not covered by it. -/
theorem Known.not_covers {later : History} (known : Known history vector)
    (dense : Dense (history ++ later)) (member : mutation ∈ later) :
    ¬ vector.Covers mutation.dot := by
  obtain ⟨front, back, rfl⟩ := List.append_of_mem member
  have numbered := dense (history ++ front) mutation back (List.append_assoc ..).symm
  rw [count_append] at numbered
  have bound := known mutation.actor
  unfold VersionVector.Covers
  change ¬ mutation.dot.counter ≤ vector.get mutation.actor
  omega

theorem Known.extend (grows : earlier <+: history) (known : Known earlier vector) :
    Known history vector :=
  fun actor => (known actor).trans (count_mono grows actor)

theorem Known.mono (below : smaller ≤ larger) (known : Known history larger) :
    Known history smaller :=
  fun actor => (below actor).trans (known actor)

theorem Known.sup {left right : VersionVector} (first : Known history left)
    (second : Known history right) : Known history (left ⊔ right) := by
  intro actor
  rw [Tally.get_sup]
  exact Nat.max_le.mpr ⟨first actor, second actor⟩

theorem known_bot (history : History) : Known history ⊥ := fun _ => Nat.zero_le _

theorem covered_extend (grows : earlier <+: history) (dense : Dense history)
    (known : Known earlier vector) (key : PyStr) :
    history.covered key vector = earlier.covered key vector := by
  obtain ⟨later, rfl⟩ := grows
  unfold covered
  rw [List.filter_append]
  refine List.append_right_eq_self.mpr (List.filter_eq_nil_iff.mpr fun mutation member => ?_)
  simp only [decide_eq_true_eq, not_and]
  exact fun _ => known.not_covers dense member

theorem Represents.extend (grows : earlier <+: history) (dense : Dense history)
    {entry : StoredCrdtEntry} (known : Known earlier entry.stateVersion)
    (represents : Represents earlier entry) : Represents history entry := by
  have same := covered_extend grows dense known entry.key
  exact ⟨same ▸ represents.content, same ▸ represents.types, same ▸ represents.inhabited⟩

theorem Backed.extend (grows : earlier <+: history) (dense : Dense history)
    (known : Known earlier frontier) (backed : Backed earlier key version frontier) :
    Backed history key version frontier := by
  obtain ⟨later, rfl⟩ := grows
  intro mutation member sameKey covers
  rcases List.mem_append.mp member with old | new
  · exact backed mutation old sameKey covers
  · exact absurd covers (known.not_covers dense new)

theorem Backed.mono (above : version ≤ larger) (below : smaller ≤ frontier)
    (backed : Backed history key version frontier) :
    Backed history key larger smaller :=
  fun mutation member sameKey covers =>
    (backed mutation member sameKey (covers.mono below)).mono above

theorem Backed.sup {left right : VersionVector} (first : Backed history key version left)
    (second : Backed history key version right) :
    Backed history key version (left ⊔ right) := by
  intro mutation member sameKey covers
  rcases VersionVector.covers_sup.mp covers with covers | covers
  · exact first mutation member sameKey covers
  · exact second mutation member sameKey covers

theorem backed_bot (history : History) (key : PyStr) (version : VersionVector) :
    Backed history key version ⊥ :=
  fun mutation _ _ covers => absurd covers (VersionVector.not_covers_bot mutation.dot)

/-- The mutations of two vectors are those of their join. -/
theorem mem_covered_sup {left right : VersionVector} :
    mutation ∈ history.covered key (left ⊔ right) ↔
      mutation ∈ history.covered key left ∨ mutation ∈ history.covered key right := by
  simp only [mem_covered, VersionVector.covers_sup]
  tauto

/-- The sum over the mutations of one actor that a vector covers. -/
theorem get_ofCounts_covered (history : History) (key : PyStr) (vector : VersionVector)
    (amount : Mutation → Nat) (actor : CausalActor) :
    (Tally.ofCounts ((history.covered key vector).map fun m => (m.actor, amount m))).get actor =
      ((history.filter fun m =>
        m.key = key ∧ m.actor = actor ∧ m.dot.counter ≤ vector.get actor).map amount).sum := by
  rw [Tally.get_ofCounts, List.filter_map, List.map_map, covered, List.filter_filter]
  refine congrArg List.sum (congrArg (List.map amount) (List.filter_congr fun m _ => ?_))
  refine Bool.eq_iff_iff.mpr ?_
  simp only [Function.comp, Bool.and_eq_true, decide_eq_true_eq]
  constructor
  · rintro ⟨rfl, sameKey, covers⟩
    exact ⟨sameKey, rfl, covers⟩
  · rintro ⟨sameKey, rfl, covers⟩
    exact ⟨rfl, sameKey, covers⟩

/-- Joining two versions joins what their mutations amount to: the mutations of one
actor that they cover are nested, so the larger sum is the sum over both. -/
theorem combined_covered_sup (history : History) (key : PyStr) (left right : VersionVector) :
    combined (history.covered key (left ⊔ right)) =
      combined (history.covered key left) ⊔ combined (history.covered key right) := by
  have sums : ∀ amount : Mutation → Nat,
      Tally.ofCounts ((history.covered key (left ⊔ right)).map fun m => (m.actor, amount m)) =
        Tally.ofCounts ((history.covered key left).map fun m => (m.actor, amount m)) ⊔
          Tally.ofCounts ((history.covered key right).map fun m => (m.actor, amount m)) := by
    intro amount
    refine Tally.ext_get fun actor => ?_
    rw [Tally.get_sup]
    simp only [get_ofCounts_covered, Tally.get_sup]
    have monotone : ∀ {low high : Nat}, low ≤ high →
        ((history.filter fun m =>
          m.key = key ∧ m.actor = actor ∧ m.dot.counter ≤ low).map amount).sum ≤
        ((history.filter fun m =>
          m.key = key ∧ m.actor = actor ∧ m.dot.counter ≤ high).map amount).sum := by
      intro low high below
      refine List.Sublist.sum_le_sum ?_ fun _ _ => Nat.zero_le _
      refine List.Sublist.map _ (List.monotone_filter_right history fun m => ?_)
      simp only [decide_eq_true_eq]
      exact fun holds => ⟨holds.1, holds.2.1, holds.2.2.trans below⟩
    rcases Nat.le_total (left.get actor) (right.get actor) with below | below
    · rw [Nat.max_eq_right below, Nat.max_eq_right (monotone below)]
    · rw [Nat.max_eq_left below, Nat.max_eq_left (monotone below)]
  have unions : ((history.covered key (left ⊔ right)).map Mutation.marks : Multiset Marks).sup =
      ((history.covered key left).map Mutation.marks : Multiset Marks).sup ⊔
        ((history.covered key right).map Mutation.marks : Multiset Marks).sup := by
    refine le_antisymm (Multiset.sup_le.mpr fun marks member => ?_)
      (sup_le (Multiset.sup_le.mpr fun marks member => ?_)
        (Multiset.sup_le.mpr fun marks member => ?_))
    all_goals
      obtain ⟨mutation, listed, rfl⟩ := List.mem_map.mp (Multiset.mem_coe.mp member)
    · rcases mem_covered_sup.mp listed with listed | listed
      · exact le_sup_of_le_left (Multiset.le_sup (List.mem_map.mpr ⟨mutation, listed, rfl⟩))
      · exact le_sup_of_le_right (Multiset.le_sup (List.mem_map.mpr ⟨mutation, listed, rfl⟩))
    · exact Multiset.le_sup (List.mem_map.mpr ⟨mutation, mem_covered_sup.mpr (.inl listed), rfl⟩)
    · exact Multiset.le_sup (List.mem_map.mpr ⟨mutation, mem_covered_sup.mpr (.inr listed), rfl⟩)
  exact Prod.ext (sums Mutation.increments) (Prod.ext (sums Mutation.decrements) unions)

/-- Merging entries that represent the history gives one that does. -/
theorem Represents.merge {merged : StoredCrdtEntry} (first : Represents history left)
    (second : Represents history right) (merges : StoredCrdtEntry.Merged left right merged) :
    Represents history merged := by
  have split : merged.stateVersion = left.stateVersion ⊔ right.stateVersion := merges.stateVersion
  have members : ∀ mutation, mutation ∈ history.covered merged.key merged.stateVersion ↔
      mutation ∈ history.covered left.key left.stateVersion ∨
        mutation ∈ history.covered right.key right.stateVersion := by
    intro mutation
    rw [merges.key, split, mem_covered_sup, merges.keys]
  refine ⟨?_, fun mutation member => ?_, ?_⟩
  · rw [merges.state, merges.key, split, combined_covered_sup, first.content, second.content,
      merges.keys]
  · rw [merges.crdtType]
    rcases (members mutation).mp member with member | member
    · exact first.types mutation member
    · exact (second.types mutation member).trans merges.types.symm
  · obtain ⟨mutation, member⟩ := first.inhabited
    exact ⟨mutation, (members mutation).mpr (.inl member)⟩

theorem Dense.counter_le (dense : Dense history) (member : mutation ∈ history) :
    mutation.dot.counter ≤ history.count mutation.actor := by
  obtain ⟨earlier, later, rfl⟩ := List.append_of_mem member
  rw [dense earlier mutation later rfl, ← List.singleton_append, count_append, count_append,
    count_singleton, if_pos rfl]
  omega

/-- The counters of an actor's mutations, in order, are `1, 2, ...`. -/
theorem Dense.counters (dense : Dense history) (actor : CausalActor) :
    (history.filter fun mutation => mutation.actor = actor).map
    (fun mutation => mutation.dot.counter) =
      List.range' 1 (history.count actor) := by
  induction history using List.reverseRecOn with
  | nil => rfl
  | append_singleton history mutation ih =>
      obtain ⟨dense, numbered⟩ := dense_concat.mp dense
      rw [List.filter_append, List.map_append, ih dense, count_append, count_singleton]
      by_cases same : mutation.actor = actor
      · rw [same] at numbered
        simp only [same, List.filter_cons, decide_true, ↓reduceIte, List.filter_nil, List.map_cons,
          List.map_nil, numbered, List.range'_1_concat, Nat.add_comm 1]
      · simp only [same, List.filter_cons, decide_false, Bool.false_eq_true, ↓reduceIte,
          List.filter_nil, List.map_nil, List.append_nil, Nat.add_zero]

/-- No two positions of the history carry the same dot. -/
theorem Dense.nodup (dense : Dense history) :
    (history.map Mutation.dot).Nodup := by
  induction history using List.reverseRecOn with
  | nil => exact List.nodup_nil
  | append_singleton history mutation ih =>
      obtain ⟨dense, numbered⟩ := dense_concat.mp dense
      rw [List.map_append, List.map_singleton, List.nodup_append]
      refine ⟨ih dense, List.nodup_singleton _, ?_⟩
      intro dot listed other single same
      cases List.mem_singleton.mp single
      obtain ⟨earlier, member, rfl⟩ := List.mem_map.mp listed
      have bound := dense.counter_le member
      have actors : earlier.actor = mutation.actor := congrArg Dot.actor same
      have counters : earlier.dot.counter = mutation.dot.counter := congrArg Dot.counter same
      rw [actors] at bound
      omega

theorem Dense.eq_of_dot (dense : Dense history) {left right : Mutation} (first : left ∈ history)
    (second : right ∈ history) (same : left.dot = right.dot) :
    left = right :=
  List.inj_on_of_nodup_map dense.nodup first second same

/-- Every dot up to the count of its actor belongs to a mutation. -/
theorem Dense.exists_of_le (dense : Dense history) {dot : Dot}
    (bound : dot.counter ≤ history.count dot.actor) : ∃ mutation ∈ history, mutation.dot = dot := by
  have listed : dot.counter ∈ List.range' 1 (history.count dot.actor) := by
    rw [List.mem_range'_1]
    have positive := dot.positive
    omega
  rw [← dense.counters] at listed
  obtain ⟨mutation, member, counter⟩ := List.mem_map.mp listed
  obtain ⟨member, actor⟩ := List.mem_filter.mp member
  refine ⟨mutation, member, Dot.orderKey_injective ?_⟩
  exact congrArg toLex (Prod.ext (of_decide_eq_true actor) counter)

theorem mem_payloads_combined :
    item ∈ (combined mutations).payloads ↔ ∃ mutation ∈ mutations, item ∈ mutation.payloads := by
  induction mutations using List.reverseRecOn with
  | nil =>
      rw [combined_nil]
      exact ⟨fun inside => absurd inside (Set.notMem_empty item),
        fun ⟨_, listed, _⟩ => absurd listed List.not_mem_nil⟩
  | append_singleton init last ih =>
      rw [combined_concat]
      change item ∈ (combined init).payloads ∪ last.payloads ↔ _
      simp only [Set.mem_union, ih, List.mem_append, List.mem_singleton, or_and_right, exists_or,
        exists_eq_left]

theorem mem_tombstones_combined {dot : Dot} :
    dot ∈ (combined mutations).tombstones ↔ ∃ mutation ∈ mutations, dot ∈ mutation.tombstones := by
  induction mutations using List.reverseRecOn with
  | nil =>
      rw [combined_nil]
      exact ⟨fun inside => absurd inside (Finset.notMem_empty dot),
        fun ⟨_, listed, _⟩ => absurd listed List.not_mem_nil⟩
  | append_singleton init last ih =>
      rw [combined_concat]
      change dot ∈ (combined init).tombstones ∪ last.tombstones ↔ _
      simp only [Finset.mem_union, ih, List.mem_append, List.mem_singleton, or_and_right, exists_or,
        exists_eq_left]

theorem eq_of_mem_payloads (written : item ∈ mutation.payloads) :
    item = (mutation.dot, mutation.request.value.dumps) := by
  unfold Mutation.payloads at written
  split at written
  · exact written
  · exact absurd written (Set.notMem_empty item)

/-- Two entries that represent one history agree on the payload of every dot. -/
theorem Represents.compatible (dense : Dense history) (first : Represents history left)
    (second : Represents history right) : left.state.content.Compatible right.state.content := by
  intro dot payload other stored storedOther
  rw [first.content, mem_payloads_combined] at stored
  rw [second.content, mem_payloads_combined] at storedOther
  obtain ⟨mutation, member, written⟩ := stored
  obtain ⟨mutationOther, memberOther, writtenOther⟩ := storedOther
  obtain ⟨named, text⟩ := Prod.mk.inj (eq_of_mem_payloads written)
  obtain ⟨namedOther, textOther⟩ := Prod.mk.inj (eq_of_mem_payloads writtenOther)
  have same : mutation = mutationOther := dense.eq_of_dot (mem_covered.mp member).1
    (mem_covered.mp memberOther).1 (named.symm.trans namedOther)
  rw [text, textOther, same]

theorem covered_bot (history : History) (key : PyStr) : history.covered key ⊥ = [] := by
  refine List.filter_eq_nil_iff.mpr fun mutation _ => ?_
  simp only [decide_eq_true_eq, not_and]
  exact fun _ => VersionVector.not_covers_bot mutation.dot

/-- A version that has all earlier mutations of the actor on the key covers, with the
new dot, just one mutation more. -/
theorem covered_commit
    (own : ∀ earlier ∈ history, earlier.key = mutation.key → earlier.actor = mutation.actor →
      version.Covers earlier.dot) :
    (history ++ [mutation]).covered mutation.key (version.withDot mutation.dot) =
      history.covered mutation.key version ++ [mutation] := by
  unfold covered
  rw [List.filter_append]
  refine congrArg₂ (· ++ ·) (List.filter_congr fun earlier member => ?_) ?_
  · simp only [decide_eq_decide, VersionVector.covers_withDot]
    constructor
    · rintro ⟨key, covers | ⟨actor, _⟩⟩
      · exact ⟨key, covers⟩
      · exact ⟨key, own earlier member key actor.symm⟩
    · rintro ⟨key, covers⟩
      exact ⟨key, .inl covers⟩
  · refine List.filter_eq_self.mpr fun other listed => ?_
    cases List.mem_singleton.mp listed
    exact decide_eq_true ⟨rfl, VersionVector.covers_withDot_self _ _⟩

/-- The state a mutation was applied to, in terms of the history. -/
theorem prior_content (before : ∀ entry, mutation.before = some entry →
      entry.key = mutation.key ∧ Represents history entry) :
    mutation.prior.content = combined (history.covered mutation.key mutation.priorVersion) := by
  unfold Mutation.prior Mutation.priorVersion
  cases found : mutation.before with
  | none => rw [CrdtState.content_empty, covered_bot, combined_nil]
  | some entry =>
      obtain ⟨key, represents⟩ := before entry found
      rw [represents.content, key]

/-- The entry that a committed mutation leaves represents the history with it. -/
theorem represents_after (dense : Dense (history ++ [mutation])) (applies : mutation.Applies)
    (key : mutation.after.key = mutation.key)
    (version : mutation.after.stateVersion = mutation.priorVersion.withDot mutation.dot)
    (before : ∀ entry, mutation.before = some entry →
      entry.key = mutation.key ∧ Represents history entry)
    (own : ∀ earlier ∈ history, earlier.key = mutation.key → earlier.actor = mutation.actor →
      mutation.priorVersion.Covers earlier.dot) :
    Represents (history ++ [mutation]) mutation.after := by
  have prior := prior_content before
  have fresh : ∀ payload, (mutation.dot, payload) ∉ mutation.prior.content.payloads := by
    intro payload stored
    rw [prior, mem_payloads_combined] at stored
    obtain ⟨earlier, member, written⟩ := stored
    have same : mutation.dot = earlier.dot := congrArg Prod.fst (eq_of_mem_payloads written)
    obtain ⟨dense, numbered⟩ := dense_concat.mp dense
    have bound := dense.counter_le (mem_covered.mp member).1
    unfold Mutation.actor at bound numbered
    rw [← same] at bound
    omega
  obtain ⟨priorType, afterType, content⟩ := applies.content fresh
  have listed := covered_commit own
  refine ⟨?_, ?_, ?_⟩
  · rw [content, key, version, listed, combined_concat, prior]
  · rw [key, version, listed]
    intro other member
    change other.crdtType = mutation.after.state.crdtType
    rw [afterType]
    rcases List.mem_append.mp member with earlier | new
    · cases found : mutation.before with
      | none =>
          rw [Mutation.priorVersion, found, covered_bot] at earlier
          exact absurd earlier List.not_mem_nil
      | some entry =>
          obtain ⟨entryKey, represents⟩ := before entry found
          rw [Mutation.priorVersion, found, ← entryKey] at earlier
          rw [Mutation.prior, found] at priorType
          exact (represents.types other earlier).trans priorType
    · rw [List.mem_singleton.mp new]
  · exact ⟨mutation, by rw [key, version, listed]; exact List.mem_append_right _ List.mem_cons_self⟩

/-- An entry that is dominated in its state version has the type of the other. -/
theorem Represents.types_of_le (first : Represents history left) (second : Represents history right)
    (keys : left.key = right.key) (below : right.stateVersion ≤ left.stateVersion) :
    left.crdtType = right.crdtType := by
  obtain ⟨mutation, member⟩ := second.inhabited
  obtain ⟨listed, key, covers⟩ := mem_covered.mp member
  have included : mutation ∈ history.covered left.key left.stateVersion :=
    mem_covered.mpr ⟨listed, key.trans keys.symm, covers.mono below⟩
  exact (first.types mutation included).symm.trans (second.types mutation member)

/-- Merging a dominated entry leaves state and state version as they are. -/
theorem Represents.merge_of_le (dense : Dense history) (first : Represents history left)
    (second : Represents history right) (keys : left.key = right.key)
    (below : right.stateVersion ≤ left.stateVersion) :
    ∃ merged, left.merge right = .ok merged ∧ merged.state = left.state ∧
      merged.stateVersion = left.stateVersion := by
  have types := first.types_of_le second keys below
  obtain ⟨merged, result⟩ :=
    StoredCrdtEntry.merge_succeeds keys types (first.compatible dense second)
  have merges := StoredCrdtEntry.merged_of_merge result
  have version : merged.stateVersion = left.stateVersion := by
    rw [merges.stateVersion, sup_eq_left.mpr below]
  refine ⟨merged, result, CrdtState.eq_of_content merges.crdtType ?_, version⟩
  rw [(first.merge second merges).content, first.content, merges.key, version]

/-- Entries of one key with the same state version have the same state. -/
theorem Represents.state_eq (first : Represents history left) (second : Represents history right)
    (keys : left.key = right.key) (versions : left.stateVersion = right.stateVersion) :
    left.state = right.state := by
  refine CrdtState.eq_of_content (first.types_of_le second keys (versions ▸ le_rfl)) ?_
  rw [first.content, second.content, keys, versions]

end History

end Distsys
