import Distsys.Guarantees.Versions
import Distsys.Node.Alone
import Distsys.Replication.Ledger

/-!
# Strong convergence

What a store holds after any number of deliveries is the join of what was delivered.
It depends neither on the order of the deliveries, nor on duplicates, nor on which
entries were merged with each other on the way.
-/

namespace Distsys

/-- Deliver entries to the store of a node, one after the other. -/
def deliverAll (deployment : Deployment) (id : NodeId) : List StoredCrdtEntry → Code Unit
  | [] => return ()
  | entry :: rest => do
      let _ ← mergeEntry deployment id entry
      deliverAll deployment id rest

/-- The entries are of one key and one type, and no dot carries two payloads in them. -/
structure Agree (key : PyStr) (crdtType : CrdtType) (collection : List StoredCrdtEntry) : Prop where
  key : ∀ entry ∈ collection, entry.key = key
  crdtType : ∀ entry ∈ collection, entry.crdtType = crdtType
  compatible : ∀ left ∈ collection, ∀ right ∈ collection,
    left.state.content.Compatible right.state.content

/-- The entry is one of the collection, or was merged from such entries. -/
inductive Premerged (collection : List StoredCrdtEntry) :
    List StoredCrdtEntry → StoredCrdtEntry → Prop
  | single (entry : StoredCrdtEntry) (member : entry ∈ collection) :
      Premerged collection [entry] entry
  | merge {parts others : List StoredCrdtEntry} {left right merged : StoredCrdtEntry}
      (first : Premerged collection parts left) (second : Premerged collection others right)
      (merges : left.merge right = .ok merged) : Premerged collection (parts ++ others) merged

/-- Every delivery is made of entries of the collection, and every entry is in some delivery. -/
structure Delivers (collection deliveries : List StoredCrdtEntry) : Prop where
  made : ∀ delivery ∈ deliveries, ∃ parts, Premerged collection parts delivery
  complete : ∀ entry ∈ collection, ∃ delivery ∈ deliveries, ∃ parts,
    Premerged collection parts delivery ∧ entry ∈ parts

/-- An entry that holds nothing beyond the collection. -/
structure StoredCrdtEntry.Within (key : PyStr) (crdtType : CrdtType)
    (collection : List StoredCrdtEntry) (entry : StoredCrdtEntry) : Prop where
  key : entry.key = key
  crdtType : entry.crdtType = crdtType
  payloads : ∀ item ∈ entry.state.content.payloads,
    ∃ member ∈ collection, item ∈ member.state.content.payloads

section Within

variable {key : PyStr} {crdtType : CrdtType} {collection parts : List StoredCrdtEntry}
  {left right entry merged : StoredCrdtEntry}

theorem Agree.compatible_of_within (agree : Agree key crdtType collection)
    (first : left.Within key crdtType collection) (second : right.Within key crdtType collection) :
    left.state.content.Compatible right.state.content := by
  intro dot payload other stored storedOther
  obtain ⟨member, listed, source⟩ := first.payloads _ stored
  obtain ⟨memberOther, listedOther, sourceOther⟩ := second.payloads _ storedOther
  exact agree.compatible member listed memberOther listedOther dot payload other source sourceOther

theorem StoredCrdtEntry.Merged.within (merges : Merged left right merged)
    (first : left.Within key crdtType collection) (second : right.Within key crdtType collection) :
    merged.Within key crdtType collection := by
  refine ⟨merges.key.trans first.key, merges.crdtType.trans first.crdtType, fun item stored => ?_⟩
  rw [merges.state, Content.payloads_sup] at stored
  exact stored.elim (first.payloads item) (second.payloads item)

theorem Premerged.within (agree : Agree key crdtType collection)
    (made : Premerged collection parts entry) : entry.Within key crdtType collection := by
  induction made with
  | single entry member =>
      exact ⟨agree.key entry member, agree.crdtType entry member,
        fun item stored => ⟨entry, member, stored⟩⟩
  | merge _ _ merges first second =>
      exact (StoredCrdtEntry.merged_of_merge merges).within first second

/-- A merged entry knows what its parts know, and nothing that they all stay below. -/
theorem Premerged.content_le_iff (made : Premerged collection parts entry)
    (bound : Content × VersionVector × VersionVector) :
    entry.content ≤ bound ↔ ∀ part ∈ parts, part.content ≤ bound := by
  induction made with
  | single entry member => simp only [List.mem_singleton, forall_eq]
  | merge _ _ merges first second =>
      rw [(StoredCrdtEntry.merged_of_merge merges).content, sup_le_iff, first, second,
        List.forall_mem_append]

theorem Premerged.parts_mem (made : Premerged collection parts entry) :
    ∀ part ∈ parts, part ∈ collection := by
  induction made with
  | single entry member =>
      intro part listed
      rw [List.mem_singleton.mp listed]
      exact member
  | merge _ _ _ first second => exact List.forall_mem_append.mpr ⟨first, second⟩

/-- Where nothing is delivered there was nothing to deliver. -/
theorem Delivers.not_premerged (delivers : Delivers collection []) :
    ¬ Premerged collection parts entry := by
  intro made
  induction made with
  | single entry member =>
      obtain ⟨delivery, listed, _⟩ := delivers.complete entry member
      cases listed
  | merge _ _ _ first _ => exact first

theorem Delivers.eq_nil {deliveries : List StoredCrdtEntry} (delivers : Delivers collection [])
    (delivered : Delivers collection deliveries) : deliveries = [] := by
  refine List.eq_nil_iff_forall_not_mem.mpr fun delivery listed => ?_
  obtain ⟨parts, made⟩ := delivered.made delivery listed
  exact delivers.not_premerged made

/-- What bounds the deliveries is what bounds the collection. -/
theorem Delivers.content_le_iff {deliveries : List StoredCrdtEntry}
    (delivers : Delivers collection deliveries)
    (bound : Content × VersionVector × VersionVector) :
    (∀ delivery ∈ deliveries, delivery.content ≤ bound) ↔
      ∀ entry ∈ collection, entry.content ≤ bound := by
  constructor
  · intro above entry member
    obtain ⟨delivery, listed, parts, made, part⟩ := delivers.complete entry member
    exact (made.content_le_iff bound).mp (above delivery listed) entry part
  · intro above delivery listed
    obtain ⟨parts, made⟩ := delivers.made delivery listed
    exact (made.content_le_iff bound).mpr fun part member => above part (made.parts_mem part member)

end Within

/-- The store holds one entry at most, with everything of the deliveries and nothing else. -/
structure Store.Gathers (key : PyStr) (crdtType : CrdtType) (collection : List StoredCrdtEntry)
    (deliveries : List StoredCrdtEntry) (store : Store) : Prop where
  only : ∀ other, other ≠ key → store.get other = none
  absent : store.get key = none ↔ deliveries = []
  within : ∀ entry, store.get key = some entry → entry.Within key crdtType collection
  content : ∀ entry, store.get key = some entry → ∀ bound,
    entry.content ≤ bound ↔ ∀ delivery ∈ deliveries, delivery.content ≤ bound

section Delivering

variable {key : PyStr} {crdtType : CrdtType} {collection deliveries parts : List StoredCrdtEntry}
  {store : Store} {deployment : Deployment} {environment : Environment} {self : Thread}
  {world : World}

theorem Store.gathers_empty : Store.empty.Gathers key crdtType collection [] :=
  ⟨fun _ _ => rfl, ⟨fun _ => rfl, fun _ => rfl⟩, nofun, nofun⟩

/-- One more delivery. -/
theorem Store.Gathers.absorb (agree : Agree key crdtType collection)
    (gathers : store.Gathers key crdtType collection deliveries) {incoming : StoredCrdtEntry}
    (within : incoming.Within key crdtType collection) :
    ∃ merged, store.absorb incoming = .ok merged ∧
      (store.put merged).Gathers key crdtType collection (deliveries ++ [incoming]) := by
  have stores : ∀ merged : StoredCrdtEntry, merged.Within key crdtType collection →
      (∀ bound, merged.content ≤ bound ↔
        ∀ delivery ∈ deliveries ++ [incoming], delivery.content ≤ bound) →
      (store.put merged).Gathers key crdtType collection (deliveries ++ [incoming]) := by
    intro merged inside bounds
    have found : (store.put merged).get key = some merged := by
      rw [← inside.key, Store.get_put_self]
    refine ⟨fun other differs => ?_, ?_, fun entry is => ?_, fun entry is => ?_⟩
    · rw [Store.get_put_of_ne _ (inside.key.trans_ne differs.symm)]
      exact gathers.only other differs
    · rw [found]
      exact ⟨nofun, fun empty => absurd empty (List.append_ne_nil_of_right_ne_nil _ nofun)⟩
    · cases found.symm.trans is
      exact inside
    · cases found.symm.trans is
      exact bounds
  unfold Store.absorb
  rw [within.key]
  cases found : store.get key with
  | none =>
      refine ⟨incoming, rfl, stores incoming within fun bound => ?_⟩
      rw [gathers.absent.mp found]
      simp only [List.nil_append, List.mem_singleton, forall_eq]
  | some existing =>
      have inside := gathers.within existing found
      obtain ⟨merged, merging⟩ := StoredCrdtEntry.merge_succeeds (inside.key.trans within.key.symm)
        (inside.crdtType.trans within.crdtType.symm) (agree.compatible_of_within inside within)
      have merges := StoredCrdtEntry.merged_of_merge merging
      refine ⟨merged, merging, stores merged (merges.within inside within) fun bound => ?_⟩
      rw [merges.content, sup_le_iff, gathers.content existing found, List.forall_mem_append]
      simp only [List.mem_singleton, forall_eq]

/-- A delivery that the store has seen changes nothing. -/
theorem Store.Gathers.absorb_again (agree : Agree key crdtType collection)
    (gathers : store.Gathers key crdtType collection deliveries)
    (delivers : Delivers collection deliveries) {incoming : StoredCrdtEntry}
    (made : Premerged collection parts incoming) :
    ∃ entry, store.absorb incoming = .ok entry ∧ store.put entry = store := by
  have within := made.within agree
  have seen : ∀ existing, store.get key = some existing → incoming.content ≤ existing.content := by
    intro existing found
    refine (made.content_le_iff _).mpr fun part member => ?_
    exact (delivers.content_le_iff _).mp ((gathers.content existing found _).mp le_rfl) part
      (made.parts_mem part member)
  cases found : store.get key with
  | none =>
      rw [gathers.absent.mp found] at delivers
      exact absurd made delivers.not_premerged
  | some existing =>
      have inside := gathers.within existing found
      refine ⟨existing, ?_, Store.ext_get fun other => ?_⟩
      · unfold Store.absorb
        rw [within.key, found]
        exact StoredCrdtEntry.merge_eq_left (inside.key.trans within.key.symm)
          (inside.crdtType.trans within.crdtType.symm) (agree.compatible_of_within inside within)
          (seen existing found)
      · rw [Store.get_put]
        split
        · next same => rw [← same, inside.key, found]
        · rfl

/-- Deliveries to a node alone. -/
theorem ends_deliverAll (agree : Agree key crdtType collection)
    (works : environment.failure (deployment.durable self.node) = none)
    {done remaining : List StoredCrdtEntry} (idle : (world.nodes self.node).Idle)
    (gathers : (world.nodes self.node).store.Gathers key crdtType collection done)
    (within : ∀ incoming ∈ remaining, incoming.Within key crdtType collection) :
    EndsAlone environment self (fun result after => result = .ok () ∧
      (after.nodes self.node).Idle ∧
      (after.nodes self.node).store.Gathers key crdtType collection (done ++ remaining))
      (deliverAll deployment self.node remaining) world := by
  induction remaining generalizing world done with
  | nil =>
      rw [List.append_nil]
      exact Prog.ends_pure ⟨rfl, idle, gathers⟩
  | cons incoming rest ih =>
      obtain ⟨inside, within⟩ := List.forall_mem_cons.mp within
      obtain ⟨merged, absorbed, gathers⟩ := gathers.absorb agree inside
      refine Prog.Ends.bind (ends_mergeEntry idle ?_)
      rw [absorbed, works]
      intro after becomes
      have stored := congrArg Node.store becomes.here
      rw [Node.store_install] at stored
      rw [List.append_cons]
      refine ih (becomes.here ▸ idle.install ..) ?_ within
      rw [stored]
      exact gathers

end Delivering

/-- A store that gathered a collection holds its join. -/
theorem Store.Gathers.join {key : PyStr} {crdtType : CrdtType}
    {collection deliveries : List StoredCrdtEntry} {store : Store}
    (gathers : store.Gathers key crdtType collection deliveries)
    (delivers : Delivers collection deliveries) (filled : collection ≠ []) :
    ∃ entry, store.get key = some entry ∧ entry.crdtType = crdtType ∧
      ∀ bound, entry.content ≤ bound ↔ ∀ member ∈ collection, member.content ≤ bound := by
  cases found : store.get key with
  | none =>
      obtain ⟨member, listed⟩ := List.exists_mem_of_ne_nil _ filled
      rw [gathers.absent.mp found] at delivers
      exact absurd (.single member listed) delivers.not_premerged
  | some entry =>
      refine ⟨entry, rfl, (gathers.within entry found).crdtType, fun bound => ?_⟩
      rw [gathers.content entry found, delivers.content_le_iff]

/-- Two stores that gathered the same collection are equal. -/
theorem Store.Gathers.eq {key : PyStr} {crdtType : CrdtType}
    {collection first second : List StoredCrdtEntry} {left right : Store}
    (one : left.Gathers key crdtType collection first) (delivers : Delivers collection first)
    (two : right.Gathers key crdtType collection second)
    (delivered : Delivers collection second) : left = right := by
  refine Store.ext_get fun other => ?_
  by_cases same : other = key
  · subst same
    have bounds : ∀ entry, left.get other = some entry → ∀ copy, right.get other = some copy →
        ∀ bound, entry.content ≤ bound ↔ copy.content ≤ bound := by
      intro entry found copy stored bound
      rw [one.content entry found, two.content copy stored, delivers.content_le_iff,
        delivered.content_le_iff]
    cases found : left.get other with
    | none =>
        rw [one.absent.mp found] at delivers
        exact (two.absent.mpr (delivers.eq_nil delivered)).symm
    | some entry =>
        cases stored : right.get other with
        | none =>
            rw [two.absent.mp stored] at delivered
            exact (nomatch found.symm.trans (one.absent.mpr (delivered.eq_nil delivers)))
        | some copy =>
            have inside := one.within entry found
            have outside := two.within copy stored
            refine congrArg some (StoredCrdtEntry.eq_of_content (inside.key.trans outside.key.symm)
              (inside.crdtType.trans outside.crdtType.symm) (le_antisymm ?_ ?_))
            · exact (bounds entry found copy stored _).mpr le_rfl
            · exact (bounds entry found copy stored _).mp le_rfl
  · rw [one.only other same, two.only other same]

/-- Any two ways of delivering a collection to empty stores leave the same store, whose entry of
the key is the join of the collection, and any further delivery leaves it as it is. -/
theorem strong_convergence {key : PyStr} {crdtType : CrdtType}
    {collection first second : List StoredCrdtEntry} (agree : Agree key crdtType collection)
    (delivers : Delivers collection first) (delivered : Delivers collection second)
    {deployment : Deployment} {environment : Environment} {left right : Thread}
    {here there : World}
    (works : ∀ durable, environment.failure durable = none)
    (emptyHere : (here.nodes left.node).store = .empty) (idleHere : (here.nodes left.node).Idle)
    (emptyThere : (there.nodes right.node).store = .empty)
    (idleThere : (there.nodes right.node).Idle) :
    ∃ hereAfter thereAfter,
      (deliverAll deployment left.node first).run (World.alone environment left) here =
        some (.ok (), hereAfter) ∧
      (deliverAll deployment right.node second).run (World.alone environment right) there =
        some (.ok (), thereAfter) ∧
      (hereAfter.nodes left.node).store = (thereAfter.nodes right.node).store ∧
      (collection ≠ [] → ∃ entry, (hereAfter.nodes left.node).store.get key = some entry ∧
        entry.crdtType = crdtType ∧
        ∀ bound, entry.content ≤ bound ↔ ∀ member ∈ collection, member.content ≤ bound) ∧
      ∀ parts again, Premerged collection parts again → ∃ stored later,
        (mergeEntry deployment left.node again).run (World.alone environment left) hereAfter =
          some (.ok stored, later) ∧
        (later.nodes left.node).store = (hereAfter.nodes left.node).store := by
  have within : ∀ {deliveries}, Delivers collection deliveries → ∀ incoming ∈ deliveries,
      incoming.Within key crdtType collection := by
    intro deliveries delivers incoming listed
    obtain ⟨parts, made⟩ := delivers.made incoming listed
    exact made.within agree
  have start : ∀ {thread : Thread} {world : World}, (world.nodes thread.node).store = .empty →
      (world.nodes thread.node).store.Gathers key crdtType collection [] := by
    intro thread world empty
    rw [empty]
    exact Store.gathers_empty
  obtain ⟨_, hereAfter, ranHere, rfl, idle, gathers⟩ := @ends_deliverAll key crdtType collection
    deployment environment left here agree (works _) [] first idleHere (start emptyHere)
    (within delivers)
  obtain ⟨_, thereAfter, ranThere, rfl, _, gathered⟩ := @ends_deliverAll key crdtType collection
    deployment environment right there agree (works _) [] second idleThere (start emptyThere)
    (within delivered)
  refine ⟨hereAfter, thereAfter, ranHere, ranThere,
    gathers.eq delivers gathered delivered, gathers.join delivers, fun parts again made => ?_⟩
  obtain ⟨entry, absorbed, same⟩ := gathers.absorb_again agree delivers made
  have ends : EndsAlone environment left (fun result after => result = .ok entry ∧
      (after.nodes left.node).store = (hereAfter.nodes left.node).store)
      (mergeEntry deployment left.node again) hereAfter := by
    refine ends_mergeEntry idle ?_
    rw [absorbed, works]
    intro after becomes
    rw [becomes.here, Node.store_install]
    exact ⟨rfl, same⟩
  obtain ⟨_, later, ran, rfl, kept⟩ := ends
  exact ⟨entry, later, ran, kept⟩

/-- Deliveries that are entries of the collection themselves. -/
theorem delivers_of_mem {collection deliveries : List StoredCrdtEntry}
    (made : deliveries ⊆ collection) (complete : collection ⊆ deliveries) :
    Delivers collection deliveries :=
  ⟨fun delivery listed => ⟨[delivery], .single delivery (made listed)⟩,
    fun entry member => ⟨entry, complete member, [entry], .single entry member,
      List.mem_singleton_self entry⟩⟩

/-- Two snapshots of a counter, delivered to east in order and to west out of order and one of
them twice: both hold an entry that contains the snapshots. -/
theorem counted_converges :
    ∃ hereAfter thereAfter,
      (deliverAll pair east [counted 1, counted 2]).run
          (World.alone { target := east } ⟨east, 0⟩) pair.initialWorld = some (.ok (), hereAfter) ∧
      (deliverAll pair west [counted 2, counted 1, counted 2]).run
          (World.alone { target := east } ⟨west, 0⟩) pair.initialWorld =
        some (.ok (), thereAfter) ∧
      (hereAfter.nodes east).store = (thereAfter.nodes west).store ∧
      ∃ entry, (hereAfter.nodes east).store.get [107] = some entry ∧
        ∀ member ∈ [counted 1, counted 2], member.content ≤ entry.content := by
  have agree : Agree [107] .gcounter [counted 1, counted 2] := by
    refine ⟨by decide, by decide, fun left _ right listed dot first second _ stored => ?_⟩
    rcases List.mem_pair.mp listed with rfl | rfl
    · exact absurd stored (Set.notMem_empty _)
    · exact absurd stored (Set.notMem_empty _)
  obtain ⟨hereAfter, thereAfter, ranHere, ranThere, same, holds, _⟩ :=
    @strong_convergence [107] .gcounter _ _ _ agree
      (delivers_of_mem (List.Subset.refl _) (List.Subset.refl _))
      (@delivers_of_mem _ [counted 2, counted 1, counted 2] (by decide) (by decide))
      pair { target := east } ⟨east, 0⟩ ⟨west, 0⟩ pair.initialWorld pair.initialWorld
      (fun durable => by cases durable <;> rfl) rfl ⟨fun _ => rfl, rfl⟩ rfl ⟨fun _ => rfl, rfl⟩
  obtain ⟨entry, found, _, join⟩ := holds (List.cons_ne_nil _ _)
  exact ⟨hereAfter, thereAfter, ranHere, ranThere, same, entry, found, (join _).mp le_rfl⟩

end Distsys
