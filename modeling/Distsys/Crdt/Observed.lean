import Distsys.Crdt.Mutation
import Distsys.Lib.Replicas

/-!
# What replicas of sets and registers show

A replica of an observed-remove set shows an element if an add of it has reached the
replica that no remove which has reached it had observed. A replica of a multi-value
register shows the writes that no other write which has reached it had observed. Both
are read off from the causal history of any run in which dots are globally fresh.
-/

namespace Distsys

section Set

/-- The operations of a set. -/
inductive SetOp
  | add (element : PyStr) (dot : Dot)
  | remove (element : PyStr)

namespace ORSet

/-- An operation, applied to a set. -/
def applyOp : SetOp → ORSet → ORSet
  | .add element dot, set => set.add element dot
  | .remove element, set => set.remove element

/-- The set as replicas keep it. -/
def object : ReplicatedObject SetOp Dot ORSet PyError where
  empty := .empty
  apply := applyOp
  merge left right := .ok (left.merge right)
  identifier
    | .add _ dot => some dot
    | .remove _ => none

theorem mem_dots_add {set : ORSet} {element other : PyStr} {dot query : Dot} :
    query ∈ (set.add element dot).dots other ↔
      (other = element ∧ query = dot) ∨ query ∈ set.dots other := by
  unfold add dots
  by_cases same : element = other
  · subst same
    rw [SortedMap.get?_insert_self, Option.getD_some, Finset.mem_union, Finset.mem_singleton,
      or_comm]
    simp only [true_and]
  · rw [SortedMap.get?_insert_of_ne _ _ same]
    simp only [Ne.symm same, false_and, false_or]

theorem mem_dots_merge {left right : ORSet} {element : PyStr} {query : Dot} :
    query ∈ (left.merge right).dots element ↔
      query ∈ left.dots element ∨ query ∈ right.dots element := by
  unfold merge dots
  rw [SortedMap.get?_absorb]
  cases right.adds.get? element with
  | none => simp only [Option.getD_none, Finset.notMem_empty, or_false]
  | some added => exact Finset.mem_union

theorem mem_value {set : ORSet} {element : PyStr} :
    element ∈ set.value ↔ ∃ dot ∈ set.dots element, dot ∉ set.removed := by
  unfold value dots
  rw [List.mem_map]
  constructor
  · rintro ⟨⟨listed, added⟩, member, rfl⟩
    rw [List.mem_filter, decide_eq_true_eq, SortedMap.mem_items_iff] at member
    obtain ⟨dot, present⟩ := Finset.nonempty_iff_ne_empty.mpr member.2
    rw [Finset.mem_sdiff] at present
    exact ⟨dot, by rw [member.1]; exact present.1, present.2⟩
  · rintro ⟨dot, present, live⟩
    cases found : set.adds.get? element with
    | none =>
        rw [found] at present
        cases present
    | some added =>
        rw [found] at present
        refine ⟨(element, added), ?_, rfl⟩
        rw [List.mem_filter, decide_eq_true_eq, SortedMap.mem_items_iff]
        exact ⟨found, Finset.ne_empty_of_mem (Finset.mem_sdiff.mpr ⟨present, live⟩)⟩

end ORSet

/-- An add of a dot is an add of one element. -/
def SetEvents (history : List (Occurrence SetOp ORSet)) : Prop :=
  ∀ first second dot seen others, ⟨.add first dot, seen⟩ ∈ history →
    ⟨.add second dot, others⟩ ∈ history → first = second

/-- A set and what has reached it: its dots are those of the adds, and its tombstones are the
dots that the removes had observed. -/
structure SetCopy (history : List (Occurrence SetOp ORSet)) (copy : Copy SetOp ORSet) : Prop where
  adds : ∀ element dot, dot ∈ copy.state.dots element ↔
    ∃ seen, ⟨.add element dot, seen⟩ ∈ copy.heard
  removes : ∀ dot, dot ∈ copy.state.removed ↔
    ∃ element seen, ⟨.remove element, seen⟩ ∈ copy.heard ∧ dot ∈ seen.dots element
  observed : ∀ element seen, ⟨.remove element, seen⟩ ∈ copy.heard →
    ∀ dot ∈ seen.dots element, dot ∈ copy.state.dots element
  known : ∀ occurrence ∈ copy.heard, occurrence ∈ history

variable {history : List (Occurrence SetOp ORSet)} {copy left right : Copy SetOp ORSet}

theorem SetCopy.later (good : SetCopy history copy) {occurrence : Occurrence SetOp ORSet} :
    SetCopy (occurrence :: history) copy :=
  { good with known := fun heard listed => List.mem_cons_of_mem _ (good.known heard listed) }

/-- An add of a fresh dot. -/
theorem SetCopy.add (good : SetCopy history copy) (element : PyStr) (dot : Dot) :
    SetCopy (⟨.add element dot, copy.state⟩ :: history)
      (copy.apply ORSet.object (.add element dot)) := by
  refine ⟨fun other query => ?_, fun query => ?_, fun other seen listed query member => ?_, ?_⟩
  · refine ORSet.mem_dots_add.trans ?_
    rw [good.adds]
    constructor
    · rintro (⟨rfl, rfl⟩ | ⟨seen, listed⟩)
      · exact ⟨copy.state, List.mem_cons_self⟩
      · exact ⟨seen, List.mem_cons_of_mem _ listed⟩
    · rintro ⟨seen, listed⟩
      rcases List.mem_cons.mp listed with same | listed
      · cases same
        exact .inl ⟨rfl, rfl⟩
      · exact .inr ⟨seen, listed⟩
  · refine (good.removes query).trans ?_
    constructor
    · rintro ⟨other, seen, listed, member⟩
      exact ⟨other, seen, List.mem_cons_of_mem _ listed, member⟩
    · rintro ⟨other, seen, listed, member⟩
      rcases List.mem_cons.mp listed with same | listed
      · cases same
      · exact ⟨other, seen, listed, member⟩
  · rcases List.mem_cons.mp listed with same | listed
    · cases same
    · exact ORSet.mem_dots_add.mpr (.inr (good.observed other seen listed query member))
  · exact fun occurrence listed => List.mem_cons.mpr
      ((List.mem_cons.mp listed).imp_right (good.known occurrence))

theorem SetCopy.remove (good : SetCopy history copy) (element : PyStr) :
    SetCopy (⟨.remove element, copy.state⟩ :: history)
      (copy.apply ORSet.object (.remove element)) := by
  refine ⟨fun other query => ?_, fun query => ?_, fun other seen listed query member => ?_, ?_⟩
  · refine (good.adds other query).trans ?_
    constructor
    · rintro ⟨seen, listed⟩
      exact ⟨seen, List.mem_cons_of_mem _ listed⟩
    · rintro ⟨seen, listed⟩
      rcases List.mem_cons.mp listed with same | listed
      · cases same
      · exact ⟨seen, listed⟩
  · change query ∈ (copy.state.remove element).removed ↔ _
    rw [ORSet.removed_remove, Finset.mem_union, good.removes]
    constructor
    · rintro (⟨other, seen, listed, member⟩ | member)
      · exact ⟨other, seen, List.mem_cons_of_mem _ listed, member⟩
      · exact ⟨element, copy.state, List.mem_cons_self, member⟩
    · rintro ⟨other, seen, listed, member⟩
      rcases List.mem_cons.mp listed with same | listed
      · cases same
        exact .inr member
      · exact .inl ⟨other, seen, listed, member⟩
  · rcases List.mem_cons.mp listed with same | listed
    · cases same
      exact member
    · exact good.observed other seen listed query member
  · exact fun occurrence listed => List.mem_cons.mpr
      ((List.mem_cons.mp listed).imp_right (good.known occurrence))

theorem SetCopy.merge (first : SetCopy history left) (second : SetCopy history right) :
    SetCopy history ⟨left.state.merge right.state, right.heard ++ left.heard⟩ := by
  refine ⟨fun element dot => ?_, fun dot => ?_, fun element seen listed dot member => ?_,
    fun occurrence listed => ?_⟩
  · rw [ORSet.mem_dots_merge, first.adds, second.adds, or_comm, ← exists_or]
    simp only [List.mem_append]
  · change dot ∈ left.state.removed ∪ right.state.removed ↔ _
    rw [Finset.mem_union, first.removes, second.removes, or_comm]
    simp only [List.mem_append, or_and_right, exists_or]
  · refine ORSet.mem_dots_merge.mpr ?_
    rcases List.mem_append.mp listed with listed | listed
    · exact .inr (second.observed element seen listed dot member)
    · exact .inl (first.observed element seen listed dot member)
  · rcases List.mem_append.mp listed with listed | listed
    · exact second.known occurrence listed
    · exact first.known occurrence listed

theorem SetEvents.apply (events : SetEvents history) {op : SetOp} {set : ORSet}
    (fresh : ORSet.object.Fresh history op) : SetEvents (⟨op, set⟩ :: history) := by
  intro first second dot seen others one two
  rcases List.mem_cons.mp one with same | earlier
  · cases same
    rcases List.mem_cons.mp two with same | earlier
    · cases same
      rfl
    · exact (fresh dot rfl _ earlier rfl).elim
  · rcases List.mem_cons.mp two with same | also
    · cases same
      exact (fresh dot rfl _ earlier rfl).elim
    · exact events first second dot seen others earlier also

theorem setCopy_of_replicated {ι : Type} [DecidableEq ι] {system : Replicas ι SetOp ORSet}
    (reached : Replicated ORSet.object system) :
    SetEvents system.history ∧ ∀ copy, system.Has copy → SetCopy system.history copy := by
  refine reached.invariant SetEvents SetCopy ⟨?_, ?_⟩ (fun good => good.later)
    (fun events good fresh => ?_)
    fun events first second merged => ?_
  · intro first second dot seen others one
    cases one
  · refine ⟨fun element dot => ?_, fun dot => ?_, ?_, ?_⟩
    · exact ⟨fun member => absurd member (Finset.notMem_empty _), by rintro ⟨_, ⟨⟩⟩⟩
    · exact ⟨fun member => absurd member (Finset.notMem_empty _), by rintro ⟨_, _, ⟨⟩, _⟩⟩
    · rintro _ _ ⟨⟩
    · rintro _ ⟨⟩
  · refine ⟨events.apply fresh, ?_⟩
    cases ‹SetOp› with
    | add element dot => exact good.add element dot
    | remove element => exact good.remove element
  · cases merged
    exact first.merge second

/-- An element is shown if an add of it has arrived that no remove of it which has arrived had
observed, and every tombstone is the dot of an add in the same set. -/
theorem orset_add_wins {ι : Type} [DecidableEq ι] {system : Replicas ι SetOp ORSet}
    (reached : Replicated ORSet.object system) (replica : ι) :
    (∀ element, element ∈ (system.copies replica).state.value ↔
      ∃ dot seen, ⟨.add element dot, seen⟩ ∈ (system.copies replica).heard ∧
        ∀ other, ⟨.remove element, other⟩ ∈ (system.copies replica).heard →
          dot ∉ other.dots element) ∧
    ∀ dot ∈ (system.copies replica).state.removed,
      ∃ element, dot ∈ (system.copies replica).state.dots element := by
  obtain ⟨events, copies⟩ := setCopy_of_replicated reached
  have good := copies _ (system.has_copies replica)
  refine ⟨fun element => ?_, fun dot removed => ?_⟩
  · rw [ORSet.mem_value]
    constructor
    · rintro ⟨dot, present, live⟩
      obtain ⟨seen, listed⟩ := (good.adds element dot).mp present
      refine ⟨dot, seen, listed, fun other removal member => live ?_⟩
      exact (good.removes dot).mpr ⟨element, other, removal, member⟩
    · rintro ⟨dot, seen, listed, unobserved⟩
      refine ⟨dot, (good.adds element dot).mpr ⟨seen, listed⟩, fun removed => ?_⟩
      -- the remove that had observed the dot was one of the element that the dot was added for
      obtain ⟨removedElement, other, removal, member⟩ := (good.removes dot).mp removed
      have present := good.observed removedElement other removal dot member
      obtain ⟨first, added⟩ := (good.adds removedElement dot).mp present
      cases events removedElement element dot first seen (good.known _ added) (good.known _ listed)
      exact unobserved other removal member
  · obtain ⟨element, seen, listed, member⟩ := (good.removes dot).mp removed
    exact ⟨element, good.observed element seen listed dot member⟩

/-- The dots of a node called east. -/
def eastDot (index : Nat) : Dot := ⟨.letter 101 0, index + 1, Nat.succ_pos index⟩

/-- An element is added on one replica, removed on another one that has received it, and
added again meanwhile. -/
theorem readded_element_is_shown : ∃ system : Replicas Bool SetOp ORSet,
    Replicated ORSet.object system ∧ [97] ∈ (system.copies true).state.value := by
  have added : Replicated ORSet.object (_ : Replicas Bool SetOp ORSet) :=
    .apply true (.add [97] (eastDot 0)) .initial (by rintro _ _ _ ⟨⟩)
  have removed := Replicated.apply false (.remove [97])
    (.receive false (.send true added) List.mem_cons_self rfl) (by rintro _ ⟨⟩)
  have again := Replicated.apply true (.add [97] (eastDot 1)) removed (by
    rintro _ ⟨⟩ occurrence listed
    rcases List.mem_cons.mp listed with rfl | listed
    · rintro ⟨⟩
    · cases List.mem_singleton.mp listed
      decide)
  have final := Replicated.receive true (.send false again) List.mem_cons_self rfl
  refine ⟨_, final, ((orset_add_wins final true).1 [97]).mpr ⟨eastDot 1, _,
    List.mem_append_right _ List.mem_cons_self, fun other listed => ?_⟩⟩
  -- the only remove had observed the first add
  rcases List.mem_append.mp listed with listed | listed
  · rcases List.mem_cons.mp listed with same | listed
    · cases same
      decide
    · cases List.mem_singleton.mp listed
  · rcases List.mem_cons.mp listed with same | listed
    · cases same
    · cases List.mem_singleton.mp listed

end Set

section Register

/-- A write of a register. -/
structure RegisterWrite where
  value : Json
  dot : Dot

namespace MVRegister

/-- The register as replicas keep it. -/
def object : ReplicatedObject RegisterWrite Dot MVRegister PyError where
  empty := .empty
  apply write register := register.write write.value write.dot
  merge := merge
  identifier write := some write.dot

/-- The visible writes, in dot order. -/
def visibleEntries (register : MVRegister) : List (Dot × PyStr) :=
  register.values.items.filter fun item => decide (item.1 ∉ register.superseded)

theorem visiblePayloads_eq (register : MVRegister) :
    register.visiblePayloads = register.visibleEntries.map Prod.snd := rfl

theorem mem_visibleEntries {register : MVRegister} {dot : Dot} {payload : PyStr} :
    (dot, payload) ∈ register.visibleEntries ↔
      register.values.get? dot = some payload ∧ dot ∉ register.superseded := by
  rw [visibleEntries, List.mem_filter, decide_eq_true_eq, SortedMap.mem_items_iff]

/-- The write is in the register, visible or not. -/
def Observes (register : MVRegister) (dot : Dot) : Prop := dot ∈ register.values.keys

theorem observes_iff {register : MVRegister} {dot : Dot} :
    register.Observes dot ↔ ∃ payload, register.values.get? dot = some payload := by
  rw [Observes, SortedMap.mem_keys_iff]

end MVRegister

/-- Every write has a dot of its own, and had observed earlier writes only. -/
structure RegisterEvents (history : List (Occurrence RegisterWrite MVRegister)) : Prop where
  distinct : (history.map (·.op.dot)).Nodup
  ordered : history.Pairwise fun later earlier => ¬ earlier.seen.Observes later.op.dot
  unseen : ∀ occurrence ∈ history, ¬ occurrence.seen.Observes occurrence.op.dot
  closed : ∀ occurrence ∈ history, ∀ dot, occurrence.seen.Observes dot →
    dot ∈ history.map (·.op.dot)

/-- A register and what has reached it: its values are those of the writes, and what the
writes had observed is superseded. -/
structure RegisterCopy (history : List (Occurrence RegisterWrite MVRegister))
    (copy : Copy RegisterWrite MVRegister) : Prop where
  written : ∀ dot payload, copy.state.values.get? dot = some payload ↔
    ∃ occurrence ∈ copy.heard, occurrence.op.dot = dot ∧ occurrence.op.value.dumps = payload
  superseded : ∀ dot, dot ∈ copy.state.superseded ↔
    ∃ occurrence ∈ copy.heard, occurrence.seen.Observes dot
  known : ∀ occurrence ∈ copy.heard, occurrence ∈ history

variable {history : List (Occurrence RegisterWrite MVRegister)}
  {copy left right : Copy RegisterWrite MVRegister}

theorem RegisterCopy.observes (good : RegisterCopy history copy) {dot : Dot} :
    copy.state.Observes dot ↔ ∃ occurrence ∈ copy.heard, occurrence.op.dot = dot := by
  rw [MVRegister.observes_iff]
  constructor
  · rintro ⟨payload, found⟩
    obtain ⟨occurrence, listed, same, _⟩ := (good.written dot payload).mp found
    exact ⟨occurrence, listed, same⟩
  · rintro ⟨occurrence, listed, same⟩
    exact ⟨_, (good.written dot _).mpr ⟨occurrence, listed, same, rfl⟩⟩

/-- Writes with one dot are one write. -/
theorem RegisterEvents.eq_of_dot (events : RegisterEvents history)
    {first second : Occurrence RegisterWrite MVRegister} (one : first ∈ history)
    (two : second ∈ history) (same : first.op.dot = second.op.dot) : first = second :=
  List.inj_on_of_nodup_map events.distinct one two same

theorem RegisterEvents.write (events : RegisterEvents history) (good : RegisterCopy history copy)
    {op : RegisterWrite} (fresh : op.dot ∉ history.map (·.op.dot)) :
    RegisterEvents (⟨op, copy.state⟩ :: history) := by
  have before : ∀ dot, copy.state.Observes dot → dot ∈ history.map (·.op.dot) := by
    intro dot observes
    obtain ⟨occurrence, listed, rfl⟩ := good.observes.mp observes
    exact List.mem_map_of_mem (good.known occurrence listed)
  refine ⟨?_, ?_, ?_, ?_⟩
  · rw [List.map_cons, List.nodup_cons]
    exact ⟨fresh, events.distinct⟩
  · rw [List.pairwise_cons]
    exact ⟨fun earlier listed observes => fresh (events.closed earlier listed _ observes),
      events.ordered⟩
  · intro occurrence listed
    rcases List.mem_cons.mp listed with rfl | listed
    · exact fun observes => fresh (before op.dot observes)
    · exact events.unseen occurrence listed
  · intro occurrence listed dot observes
    rw [List.map_cons]
    refine List.mem_cons_of_mem _ ?_
    rcases List.mem_cons.mp listed with rfl | listed
    · exact before dot observes
    · exact events.closed occurrence listed dot observes

theorem RegisterCopy.write (good : RegisterCopy history copy) {op : RegisterWrite}
    (fresh : op.dot ∉ history.map (·.op.dot)) :
    RegisterCopy (⟨op, copy.state⟩ :: history) (copy.apply MVRegister.object op) := by
  refine ⟨fun dot payload => ?_, fun dot => ?_, fun occurrence listed => ?_⟩
  · change (copy.state.values.insert op.dot op.value.dumps).get? dot = some payload ↔
      ∃ occurrence ∈ ⟨op, copy.state⟩ :: copy.heard, _
    rw [List.exists_mem_cons_iff, SortedMap.get?_insert]
    by_cases same : op.dot = dot
    · subst same
      rw [if_pos rfl, Option.some_inj]
      refine ⟨fun written => .inl ⟨rfl, written⟩, ?_⟩
      rintro (⟨_, written⟩ | ⟨occurrence, listed, used, _⟩)
      · exact written
      · exact absurd (used ▸ List.mem_map_of_mem (good.known occurrence listed)) fresh
    · rw [if_neg same, good.written]
      exact ⟨.inr, fun either => either.resolve_left fun found => same found.1⟩
  · change dot ∈ (copy.state.write op.value op.dot).superseded ↔
      ∃ occurrence ∈ ⟨op, copy.state⟩ :: copy.heard, _
    rw [List.exists_mem_cons_iff, MVRegister.superseded_write, Finset.mem_union, List.mem_toFinset,
      good.superseded, or_comm]
    rfl
  · exact List.mem_cons.mpr ((List.mem_cons.mp listed).imp_right (good.known occurrence))

theorem RegisterCopy.merge (first : RegisterCopy history left) (second : RegisterCopy history right)
    {merged : MVRegister} (result : left.state.merge right.state = .ok merged) :
    RegisterCopy history ⟨merged, right.heard ++ left.heard⟩ := by
  obtain ⟨payloads, superseded⟩ := MVRegister.payloadSet_merge result
  refine ⟨fun dot payload => ?_, fun dot => ?_, fun occurrence listed => ?_⟩
  · have both : merged.values.get? dot = some payload ↔
        left.state.values.get? dot = some payload ∨ right.state.values.get? dot = some payload :=
      iff_of_eq (congrArg (fun set => (dot, payload) ∈ set) payloads)
    rw [both, first.written, second.written, or_comm]
    simp only [List.mem_append, or_and_right, exists_or]
  · change dot ∈ merged.superseded ↔ _
    rw [superseded, Finset.mem_union, first.superseded, second.superseded, or_comm]
    simp only [List.mem_append, or_and_right, exists_or]
  · rcases List.mem_append.mp listed with listed | listed
    · exact second.known occurrence listed
    · exact first.known occurrence listed

/-- Copies of a register can be merged: a dot has one payload. -/
theorem RegisterCopy.mergeable (events : RegisterEvents history) (first : RegisterCopy history left)
    (second : RegisterCopy history right) :
    ∃ merged, left.state.merge right.state = .ok merged := by
  have agree : ∀ dot one two, (dot, one) ∈ right.state.values.items →
      left.state.values.get? dot = some two → one = two := by
    intro dot one two listed found
    obtain ⟨early, reached, used, rfl⟩ :=
      (second.written dot one).mp (SortedMap.mem_items_iff.mp listed)
    obtain ⟨late, also, same, rfl⟩ := (first.written dot two).mp found
    rw [events.eq_of_dot (second.known early reached) (first.known late also)
      (used.trans same.symm)]
  obtain ⟨values, loop⟩ :=
    MVRegister.mergeValues_succeeds right.state.values.nodup_keys agree
  refine ⟨⟨values, left.state.superseded ∪ right.state.superseded⟩, ?_⟩
  rw [MVRegister.merge, loop]
  rfl

theorem registerCopy_of_replicated {ι : Type} [DecidableEq ι]
    {system : Replicas ι RegisterWrite MVRegister} (reached : Replicated MVRegister.object system) :
    RegisterEvents system.history ∧
      ∀ copy, system.Has copy → RegisterCopy system.history copy := by
  refine reached.invariant RegisterEvents RegisterCopy ⟨?_, ?_⟩ (fun good => ?_)
    (fun {history copy op} events good fresh => ?_)
      fun _ first second merged => first.merge second merged
  · exact ⟨List.nodup_nil, .nil, by rintro _ ⟨⟩, by rintro _ ⟨⟩⟩
  · refine ⟨fun dot payload => ?_, fun dot => ?_, by rintro _ ⟨⟩⟩
    · exact ⟨by rintro ⟨⟩, by rintro ⟨_, ⟨⟩, _⟩⟩
    · exact ⟨fun member => absurd member (Finset.notMem_empty _), by rintro ⟨_, ⟨⟩, _⟩⟩
  · exact { good with
      known := fun occurrence listed => List.mem_cons_of_mem _ (good.known occurrence listed) }
  · have unused : op.dot ∉ history.map (·.op.dot) := by
      intro listed
      obtain ⟨occurrence, before, same⟩ := List.mem_map.mp listed
      exact fresh op.dot rfl occurrence before (congrArg some same)
    exact ⟨events.write good unused, good.write unused⟩

/-- Merging copies never fails, a replica shows the writes that have reached it and that no
other write which has reached it had observed, and shows something once a write has reached
it. -/
theorem mvregister_shows_unobserved {ι : Type} [DecidableEq ι]
    {system : Replicas ι RegisterWrite MVRegister} (reached : Replicated MVRegister.object system) :
    (∀ left right, system.Has left → system.Has right →
      ∃ merged, left.state.merge right.state = .ok merged) ∧
    ∀ replica,
      (∀ dot payload, (dot, payload) ∈ (system.copies replica).state.visibleEntries ↔
        ∃ occurrence ∈ (system.copies replica).heard, occurrence.op.dot = dot ∧
          occurrence.op.value.dumps = payload ∧
          ∀ other ∈ (system.copies replica).heard, other ≠ occurrence →
            ¬ other.seen.Observes dot) ∧
      ((system.copies replica).heard ≠ [] →
        (system.copies replica).state.visiblePayloads ≠ []) := by
  obtain ⟨events, copies⟩ := registerCopy_of_replicated reached
  refine ⟨fun left right one two => (copies left one).mergeable events (copies right two),
    fun replica => ?_⟩
  have good := copies _ (system.has_copies replica)
  have visible : ∀ occurrence ∈ (system.copies replica).heard,
      (∀ other ∈ (system.copies replica).heard, other ≠ occurrence →
        ¬ other.seen.Observes occurrence.op.dot) →
      (occurrence.op.dot, occurrence.op.value.dumps) ∈
        (system.copies replica).state.visibleEntries := by
    intro occurrence listed unobserved
    refine MVRegister.mem_visibleEntries.mpr
      ⟨(good.written _ _).mpr ⟨occurrence, listed, rfl, rfl⟩, fun superseded => ?_⟩
    obtain ⟨other, heard, observes⟩ := (good.superseded _).mp superseded
    by_cases same : other = occurrence
    · subst same
      exact events.unseen other (good.known other heard) observes
    · exact unobserved other heard same observes
  refine ⟨fun dot payload => ⟨fun shown => ?_, ?_⟩, fun some => ?_⟩
  · obtain ⟨found, live⟩ := MVRegister.mem_visibleEntries.mp shown
    obtain ⟨occurrence, listed, used, written⟩ := (good.written dot payload).mp found
    exact ⟨occurrence, listed, used, written, fun other heard _ observes =>
      live ((good.superseded dot).mpr ⟨other, heard, observes⟩)⟩
  · rintro ⟨occurrence, listed, rfl, rfl, unobserved⟩
    exact visible occurrence listed unobserved
  · -- no write had observed the latest one
    obtain ⟨latest, listed, unobserved⟩ := exists_latest
      (fun earlier later => ¬ earlier.seen.Observes later.op.dot) events.ordered good.known some
    rw [MVRegister.visiblePayloads_eq]
    exact fun empty => List.not_mem_nil
      (List.map_eq_nil_iff.mp empty ▸ visible latest listed unobserved)

/-- Two replicas write concurrently and exchange their states. -/
theorem concurrent_writes_are_shown : ∃ system : Replicas Bool RegisterWrite MVRegister,
    Replicated MVRegister.object system ∧
    (eastDot 0, (Json.str [97]).dumps) ∈ (system.copies true).state.visibleEntries ∧
    (eastDot 1, (Json.str [98]).dumps) ∈ (system.copies true).state.visibleEntries := by
  have first : Replicated MVRegister.object (_ : Replicas Bool RegisterWrite MVRegister) :=
    .apply true ⟨.str [97], eastDot 0⟩ .initial (by rintro _ _ _ ⟨⟩)
  have second := Replicated.apply false ⟨.str [98], eastDot 1⟩ first (by
    rintro _ ⟨⟩ occurrence listed
    cases List.mem_singleton.mp listed
    decide)
  have sent := Replicated.send false second
  obtain ⟨merged, result⟩ := (mvregister_shows_unobserved sent).1 _ _
    (Replicas.has_copies _ true) (.inr List.mem_cons_self)
  have final := Replicated.receive true sent List.mem_cons_self result
  obtain ⟨shown, _⟩ := (mvregister_shows_unobserved final).2 true
  refine ⟨_, final, (shown _ _).mpr ⟨⟨⟨.str [97], eastDot 0⟩, .empty⟩,
    List.mem_append_right _ List.mem_cons_self, rfl, rfl, fun other listed _ => ?_⟩,
    (shown _ _).mpr ⟨⟨⟨.str [98], eastDot 1⟩, .empty⟩,
    List.mem_append_left _ List.mem_cons_self, rfl, rfl, fun other listed _ => ?_⟩⟩
  -- neither write had observed anything
  all_goals
    rcases List.mem_append.mp listed with listed | listed
    · cases List.mem_singleton.mp listed
      exact List.not_mem_nil
    · cases List.mem_singleton.mp listed
      exact List.not_mem_nil

end Register

end Distsys
