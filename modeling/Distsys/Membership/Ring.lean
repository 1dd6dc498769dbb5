import Distsys.Json
import Distsys.Lib.Walk
import Distsys.Membership.Invariant

/-!
# The consistent hash ring

Every ALIVE member has a number of points on the ring. The candidates of a key are the
members in the order in which a walk from the position of the key meets their points.
The positions are given by an arbitrary function of the text, and points may coincide.
-/

namespace Distsys

open Walk

/-- The ring, with the check of its constructor. The lists `_positions` and `_owners` of the
source are the two halves of `points`. -/
structure ConsistentHashRing where
  virtualNodes : Nat
  positive : 1 ≤ virtualNodes
  points : List (Nat × ClusterMember) := []

namespace ConsistentHashRing

/-- `_positions`. -/
def positions (ring : ConsistentHashRing) : List Nat := ring.points.map Prod.fst

/-- `_owners`. -/
def owners (ring : ConsistentHashRing) : List ClusterMember := ring.points.map Prod.snd

/-- The text whose hash is the position of a virtual node. -/
def virtualName (member : ClusterMember) (index : Nat) : PyStr :=
  member.nodeId ++ PyStr.ofString ("#" ++ toString index)

/-- The points of a member: only ALIVE ones have any. -/
def pointsOf (hash : PyStr → Nat) (virtualNodes : Nat) (member : ClusterMember) :
    List (Nat × ClusterMember) :=
  if member.status ≠ .alive then []
  else (List.range virtualNodes).map fun index => (hash (virtualName member index), member)

/-- What the points are sorted by. -/
def sortKey (point : Nat × ClusterMember) : Lex (Nat × NodeId) := toLex (point.1, point.2.nodeId)

/-- `rebuild`. The hash is a total function here; `_hash` raises `UnicodeEncodeError` on a name
that UTF-8 cannot encode. -/
def rebuild (hash : PyStr → Nat) (ring : ConsistentHashRing) (members : List ClusterMember) :
    ConsistentHashRing :=
  { ring with
    points := (members.flatMap (pointsOf hash ring.virtualNodes)).mergeSort
      fun left right => sortKey left ≤ sortKey right }

/-- `candidates`. Of a key that UTF-8 cannot encode there are candidates here, where `_hash` raises
`UnicodeEncodeError`. -/
def candidates (hash : PyStr → Nat) (ring : ConsistentHashRing) (key : PyStr) :
    Except PyError (List ClusterMember) :=
  if ring.positions = [] then
    .error ⟨.noRouteError, "no ALIVE cluster members are available"⟩
  else
    let start := bisectLeft ring.positions (hash key)
    .ok (firstBy ClusterMember.nodeId [] (around ring.owners start))

end ConsistentHashRing

/-- The replica selector over a ring, with the check of its constructor. -/
structure ReplicaSelector where
  ring : ConsistentHashRing
  replicationFactor : Nat := 3
  positive : 1 ≤ replicationFactor

/-- `replicas`: the first candidates. -/
def ReplicaSelector.replicas (hash : PyStr → Nat) (selector : ReplicaSelector) (key : PyStr) :
    Except PyError (List ClusterMember) := do
  let candidates ← selector.ring.candidates hash key
  return candidates.take selector.replicationFactor

namespace ConsistentHashRing

variable {hash : PyStr → Nat} {ring : ConsistentHashRing} {members others : List ClusterMember}
  {member : ClusterMember} {point : Nat × ClusterMember} {key : PyStr} {result : List ClusterMember}

theorem mem_pointsOf {virtualNodes : Nat} :
    point ∈ pointsOf hash virtualNodes member ↔
      member.status = .alive ∧ point.2 = member ∧
        ∃ index < virtualNodes, hash (virtualName member index) = point.1 := by
  unfold pointsOf
  split
  · next gone => exact iff_of_false List.not_mem_nil fun alive => gone alive.1
  · next alive =>
    rw [List.mem_map]
    constructor
    · rintro ⟨index, below, rfl⟩
      exact ⟨not_not.mp alive, rfl, index, List.mem_range.mp below, rfl⟩
    · rintro ⟨_, rfl, index, below, placed⟩
      exact ⟨index, List.mem_range.mpr below, Prod.ext placed rfl⟩

theorem mem_points :
    point ∈ (ring.rebuild hash members).points ↔
      point.2 ∈ members ∧ point.2.status = .alive ∧
        ∃ index < ring.virtualNodes, hash (virtualName point.2 index) = point.1 := by
  change point ∈ List.mergeSort _ _ ↔ _
  rw [List.mem_mergeSort, List.mem_flatMap]
  constructor
  · rintro ⟨owner, listed, placed⟩
    obtain ⟨alive, rfl, index⟩ := mem_pointsOf.mp placed
    exact ⟨listed, alive, index⟩
  · rintro ⟨listed, alive, index⟩
    exact ⟨point.2, listed, mem_pointsOf.mpr ⟨alive, rfl, index⟩⟩

/-- The members on the ring are the ALIVE ones. -/
theorem mem_owners :
    member ∈ (ring.rebuild hash members).owners ↔ member ∈ members ∧ member.status = .alive := by
  unfold owners
  rw [List.mem_map]
  constructor
  · rintro ⟨point, placed, rfl⟩
    obtain ⟨listed, alive, _⟩ := mem_points.mp placed
    exact ⟨listed, alive⟩
  · rintro ⟨listed, alive⟩
    refine ⟨(hash (virtualName member 0), member), mem_points.mpr ?_, rfl⟩
    exact ⟨listed, alive, 0, ring.positive, rfl⟩

theorem sorted_points (hash : PyStr → Nat) (ring : ConsistentHashRing)
    (members : List ClusterMember) :
    (ring.rebuild hash members).points.Pairwise fun left right =>
      sortKey left ≤ sortKey right := by
  refine (List.pairwise_mergeSort (fun a b c early late => ?_) (fun a b => ?_) _).imp
    of_decide_eq_true
  · exact decide_eq_true (le_trans (of_decide_eq_true early) (of_decide_eq_true late))
  · rw [Bool.or_eq_true, decide_eq_true_iff, decide_eq_true_iff]
    exact le_total (sortKey a) (sortKey b)

/-- Points of one ring with the same key are the same. -/
theorem eq_of_sortKey_eq (distinct : (members.map ClusterMember.nodeId).Nodup)
    {left right : Nat × ClusterMember} (here : left.2 ∈ members) (there : right.2 ∈ members)
    (same : sortKey left = sortKey right) : left = right := by
  obtain ⟨positions, nodes⟩ := Prod.mk.inj (toLex_inj.mp same)
  exact Prod.ext positions (List.inj_on_of_nodup_map distinct here there nodes)

/-- A ring has the points of the ALIVE members, in the one order in which they are sorted. -/
theorem points_eq (distinct : (members.map ClusterMember.nodeId).Nodup)
    {points : List (Nat × ClusterMember)}
    (same : points.Perm (members.flatMap (pointsOf hash ring.virtualNodes)))
    (sorted : points.Pairwise fun left right => sortKey left ≤ sortKey right) :
    (ring.rebuild hash members).points = points := by
  refine List.Perm.eq_of_pairwise (fun left right here there less more => ?_)
    (sorted_points hash ring members) sorted ((List.mergeSort_perm _ _).trans same.symm)
  have listed : ∀ {point}, point ∈ members.flatMap (pointsOf hash ring.virtualNodes) →
      point.2 ∈ members := fun {point} among =>
    (mem_points.mp (List.mem_mergeSort.mpr among :
      point ∈ (ring.rebuild hash members).points)).1
  exact eq_of_sortKey_eq distinct (mem_points.mp here).1 (listed (same.mem_iff.mp there))
    (le_antisymm less more)

/-- The order in which the members are given does not matter. -/
theorem rebuild_eq_of_perm (distinct : (members.map ClusterMember.nodeId).Nodup)
    (same : members.Perm others) : ring.rebuild hash members = ring.rebuild hash others := by
  have points : (ring.rebuild hash members).points = (ring.rebuild hash others).points :=
    points_eq distinct ((List.mergeSort_perm _ _).trans (same.symm.flatMap_right _))
      (sorted_points hash ring others)
  exact congrArg (fun points => { ring with points }) points

theorem filter_pointsOf {virtualNodes : Nat} (keep : NodeId → Bool) (member : ClusterMember) :
    (pointsOf hash virtualNodes member).filter (fun point => keep point.2.nodeId) =
      if keep member.nodeId then pointsOf hash virtualNodes member else [] := by
  have owned : ∀ point ∈ pointsOf hash virtualNodes member, point.2 = member :=
    fun point placed => (mem_pointsOf.mp placed).2.1
  split
  · next kept =>
    exact List.filter_eq_self.mpr fun point placed => by rw [owned point placed, kept]
  · next dropped =>
    exact List.filter_eq_nil_iff.mpr fun point placed => by rwa [owned point placed]

theorem flatMap_pointsOf_filter {virtualNodes : Nat} (keep : NodeId → Bool)
    (members : List ClusterMember) :
    (members.flatMap (pointsOf hash virtualNodes)).filter (fun point => keep point.2.nodeId) =
      (members.filter fun member => keep member.nodeId).flatMap (pointsOf hash virtualNodes) := by
  induction members with
  | nil => rfl
  | cons head rest ih =>
      rw [List.flatMap_cons, List.filter_append, ih, filter_pointsOf, List.filter_cons]
      split
      · rw [List.flatMap_cons]
      · rfl

/-- Leaving out members leaves out their points. -/
theorem points_rebuild_filter (distinct : (members.map ClusterMember.nodeId).Nodup)
    (keep : NodeId → Bool) :
    (ring.rebuild hash (members.filter fun member => keep member.nodeId)).points =
      (ring.rebuild hash members).points.filter fun point => keep point.2.nodeId := by
  refine points_eq (distinct.sublist (List.filter_sublist.map _)) ?_
    ((sorted_points hash ring members).filter _)
  refine ((List.mergeSort_perm _ _).filter _).trans ?_
  exact List.Perm.of_eq (flatMap_pointsOf_filter keep members)

/-- The points in the order in which a walk from the position meets them. -/
def walk (points : List (Nat × ClusterMember)) (target : Nat) : List (Nat × ClusterMember) :=
  points.filter (fun point => !decide (point.1 < target)) ++
    points.filter (fun point => decide (point.1 < target))

theorem mem_walk {points : List (Nat × ClusterMember)} {target : Nat} :
    point ∈ walk points target ↔ point ∈ points := by
  rw [walk, List.mem_append, List.mem_filter, List.mem_filter]
  cases decide (point.1 < target) <;> simp

theorem walk_filter (points : List (Nat × ClusterMember)) (target : Nat)
    (keep : Nat × ClusterMember → Bool) :
    walk (points.filter keep) target = (walk points target).filter keep := by
  rw [walk, walk, List.filter_append, List.filter_filter, List.filter_filter, List.filter_filter,
    List.filter_filter]
  simp only [Bool.and_comm]

/-- The candidates of a key: the owners of the points that a walk meets, each once. -/
theorem candidates_rebuild (hash : PyStr → Nat) (ring : ConsistentHashRing)
    (members : List ClusterMember) (key : PyStr)
    (some : ∃ member ∈ members, member.status = .alive) :
    (ring.rebuild hash members).candidates hash key =
      .ok ((firstBy (fun point => point.2.nodeId) []
        (walk (ring.rebuild hash members).points (hash key))).map Prod.snd) := by
  obtain ⟨member, listed, alive⟩ := some
  have placed : member ∈ (ring.rebuild hash members).owners := mem_owners.mpr ⟨listed, alive⟩
  have there : (ring.rebuild hash members).positions ≠ [] := by
    unfold owners at placed
    intro none
    rw [List.map_eq_nil_iff.mp none] at placed
    cases placed
  have sorted := (sorted_points hash ring members).imp fun {left right} less =>
    (Prod.Lex.monotone_fst_ofLex less : left.1 ≤ right.1)
  unfold candidates
  rw [if_neg there]
  dsimp only [owners, positions]
  rw [around_eq_rotate, ← List.map_rotate, rotate_bisectLeft sorted, firstBy_map]
  rfl

/-- Candidates are members on the ring. -/
theorem mem_owners_of_candidates (found : ring.candidates hash key = .ok result)
    (listed : member ∈ result) :
    member ∈ ring.owners := by
  unfold candidates at found
  split at found
  · cases found
  · cases found
    have met := (mem_of_mem_firstBy listed).1
    rw [around_eq_rotate] at met
    exact List.mem_rotate.mp met

/-- The candidates of a key are the ALIVE members, each once. -/
theorem mem_candidates (distinct : (members.map ClusterMember.nodeId).Nodup)
    (listed : result = (firstBy (fun point => point.2.nodeId) []
      (walk (ring.rebuild hash members).points (hash key))).map Prod.snd) :
    (result.map ClusterMember.nodeId).Nodup ∧
      ∀ member, member ∈ result ↔ member ∈ members ∧ member.status = .alive := by
  subst listed
  refine ⟨?_, fun member => ?_⟩
  · rw [List.map_map]
    exact nodup_firstBy _ _ _
  rw [← @mem_owners hash ring, List.mem_map, owners, List.mem_map]
  constructor
  · rintro ⟨point, met, owned⟩
    exact ⟨point, mem_walk.mp (mem_of_mem_firstBy met).1, owned⟩
  · rintro ⟨point, placed, rfl⟩
    obtain ⟨first, met, same⟩ := @exists_mem_firstBy _ _ _
      (fun point : Nat × ClusterMember => point.2.nodeId) _ _ _ (mem_walk.mpr placed)
      List.not_mem_nil
    -- the first point of the node belongs to the same member
    refine ⟨first, met, List.inj_on_of_nodup_map distinct ?_ (mem_points.mp placed).1 same⟩
    exact (mem_points.mp (mem_walk.mp (mem_of_mem_firstBy met).1)).1

/-- The candidates when some members are left out. -/
theorem candidates_filter (hash : PyStr → Nat) (ring : ConsistentHashRing)
    (distinct : (members.map ClusterMember.nodeId).Nodup)
    (before : (ring.rebuild hash members).candidates hash key = .ok result) (keep : NodeId → Bool)
    (some : ∃ member ∈ members, member.status = .alive ∧ keep member.nodeId = true) :
    (ring.rebuild hash (members.filter fun member => keep member.nodeId)).candidates hash key =
      .ok (result.filter fun member => keep member.nodeId) := by
  obtain ⟨member, listed, alive, kept⟩ := some
  rw [candidates_rebuild hash ring members key ⟨member, listed, alive⟩] at before
  cases before
  have commute := @firstBy_filter _ _ _ (fun point : Nat × ClusterMember => point.2.nodeId) keep
    [] [] (walk (ring.rebuild hash members).points (hash key)) fun _ _ => Iff.rfl
  rw [candidates_rebuild hash ring _ key ⟨member, List.mem_filter.mpr ⟨listed, kept⟩, alive⟩,
    points_rebuild_filter distinct, walk_filter, commute, List.filter_map]
  rfl

/-- The members when the record of one node has another status. -/
def marked (member : ClusterMember) (status : MemberStatus) (members : List ClusterMember) :
    List ClusterMember :=
  members.map fun other =>
    if other.nodeId = member.nodeId then other.withStatus status else other

/-- A member that is not ALIVE is treated as if it were not there. -/
theorem rebuild_marked {status : MemberStatus} (gone : status ≠ .alive) :
    ring.rebuild hash (marked member status members) =
      ring.rebuild hash (members.filter fun other => other.nodeId ≠ member.nodeId) := by
  have same : (marked member status members).flatMap (pointsOf hash ring.virtualNodes) =
      (members.filter fun other => other.nodeId ≠ member.nodeId).flatMap
        (pointsOf hash ring.virtualNodes) := by
    unfold marked
    induction members with
    | nil => rfl
    | cons head rest ih =>
        rw [List.map_cons, List.flatMap_cons, ih, List.filter_cons]
        by_cases here : head.nodeId = member.nodeId
        · have none : pointsOf hash ring.virtualNodes (head.withStatus status) = [] := if_pos gone
          rw [if_pos here, none, if_neg (by simpa using here), List.nil_append]
        · rw [if_neg here, if_pos (by simpa using here), List.flatMap_cons]
  unfold rebuild
  rw [same]

theorem erase_eq_filter_nodeId (distinct : (members.map ClusterMember.nodeId).Nodup)
    (here : member ∈ members) :
    members.erase member = members.filter fun other => other.nodeId ≠ member.nodeId := by
  rw [(distinct.of_map _).erase_eq_filter]
  refine List.filter_congr fun other there => ?_
  rw [Bool.eq_iff_iff, bne_iff_ne, decide_eq_true_iff]
  refine not_congr ⟨congrArg _, fun same => ?_⟩
  exact List.inj_on_of_nodup_map distinct there here same

/-- A ring without ALIVE members has no candidates. -/
theorem candidates_none (none : ∀ member ∈ members, member.status ≠ .alive) (key : PyStr) :
    (ring.rebuild hash members).candidates hash key =
      .error ⟨.noRouteError, "no ALIVE cluster members are available"⟩ := by
  refine if_pos (List.map_eq_nil_iff.mpr (List.eq_nil_iff_forall_not_mem.mpr
    fun point placed => ?_))
  obtain ⟨listed, alive, _⟩ := mem_points.mp placed
  exact none _ listed alive

/-- Consistent hashing moves only what it must. The candidates of a key are the ALIVE members,
each once, whatever the order of the members; there are none only if no member is ALIVE. When
an ALIVE member is removed, or is not ALIVE any more, and another one stays, the candidates
are the ones before without it; so the replicas lose at most this member and gain at most
one. -/
theorem moves_only_what_it_must (hash : PyStr → Nat) (ring : ConsistentHashRing)
    (members : List ClusterMember) (distinct : (members.map ClusterMember.nodeId).Nodup)
    (key : PyStr) :
    ((∀ member ∈ members, member.status ≠ .alive) →
      (ring.rebuild hash members).candidates hash key =
        .error ⟨.noRouteError, "no ALIVE cluster members are available"⟩) ∧
    ((∃ member ∈ members, member.status = .alive) →
      ∃ result, (ring.rebuild hash members).candidates hash key = .ok result ∧
      result.Nodup ∧ (∀ member, member ∈ result ↔ member ∈ members ∧ member.status = .alive) ∧
      (∀ others, members.Perm others →
        (ring.rebuild hash others).candidates hash key = .ok result) ∧
      ∀ member ∈ members, member.status = .alive →
        (∃ other ∈ members, other ≠ member ∧ other.status = .alive) →
        ∀ fewer, (fewer = members.erase member ∨
            ∃ status, status ≠ .alive ∧ fewer = marked member status members) →
          (ring.rebuild hash fewer).candidates hash key = .ok (result.erase member) ∧
          ∀ factor positive, ∃ before after,
            (⟨ring.rebuild hash members, factor, positive⟩ : ReplicaSelector).replicas hash key =
              .ok before ∧
            (⟨ring.rebuild hash fewer, factor, positive⟩ : ReplicaSelector).replicas hash key =
              .ok after ∧
            (∀ lost ∈ before, lost ∉ after → lost = member) ∧
            ∀ first ∈ after, ∀ second ∈ after, first ∉ before → second ∉ before →
              first = second) := by
  refine ⟨fun none => candidates_none none key, fun some => ?_⟩
  have found := candidates_rebuild hash ring members key some
  generalize listed : (firstBy (fun point => point.2.nodeId) []
    (walk (ring.rebuild hash members).points (hash key))).map Prod.snd = result at found
  obtain ⟨nodes, owners⟩ := mem_candidates distinct listed.symm
  have once : result.Nodup := nodes.of_map _
  refine ⟨result, found, once, owners, fun others same => ?_, ?_⟩
  · rw [← rebuild_eq_of_perm distinct same]
    exact found
  intro member here alive stays fewer reduced
  have without : ring.rebuild hash fewer =
      ring.rebuild hash (members.filter fun other => other.nodeId ≠ member.nodeId) := by
    rcases reduced with rfl | ⟨status, gone, rfl⟩
    · rw [erase_eq_filter_nodeId distinct here]
    · exact rebuild_marked gone
  have after : (ring.rebuild hash fewer).candidates hash key = .ok (result.erase member) := by
    obtain ⟨other, there, differs, living⟩ := stays
    rw [without, erase_eq_filter_nodeId nodes ((owners member).mpr ⟨here, alive⟩)]
    refine candidates_filter hash ring distinct found (fun id => id ≠ member.nodeId)
      ⟨other, there, living, decide_eq_true fun same => differs ?_⟩
    exact List.inj_on_of_nodup_map distinct there here same
  refine ⟨after, fun factor positive =>
    ⟨result.take factor, (result.erase member).take factor, ?_, ?_, fun lost among gone => ?_, ?_⟩⟩
  · unfold ReplicaSelector.replicas
    rw [found]
    rfl
  · unfold ReplicaSelector.replicas
    rw [after]
    rfl
  · by_contra differs
    exact gone (mem_take_erase among differs)
  · intro first gained second also new newer
    have next := (mem_take_of_mem_take_erase gained).resolve_left new
    exact Option.some.inj (next.symm.trans ((mem_take_of_mem_take_erase also).resolve_left newer))

/-- Two members with one point each, at the same position: the candidates are both of them, and
without the second one those that are left. -/
theorem moves_only_what_it_must_pair :
    ∃ result, ((⟨1, le_rfl, []⟩ : ConsistentHashRing).rebuild (fun _ => 0)
        [MembershipTable.loneMember, MembershipTable.peerMember .alive 0]).candidates
          (fun _ => 0) [] = .ok result ∧ result.Nodup ∧
      ((⟨1, le_rfl, []⟩ : ConsistentHashRing).rebuild (fun _ => 0)
        [MembershipTable.loneMember]).candidates (fun _ => 0) [] =
          .ok (result.erase (MembershipTable.peerMember .alive 0)) := by
  obtain ⟨result, found, once, _, _, removed⟩ := (moves_only_what_it_must (fun _ => 0)
    ⟨1, le_rfl, []⟩ [MembershipTable.loneMember, MembershipTable.peerMember .alive 0]
    (by decide) []).2 ⟨MembershipTable.loneMember, .head _, rfl⟩
  refine ⟨result, found, once, (removed _ (.tail _ (.head _)) rfl ?_ _ (.inl ?_)).1⟩
  · exact ⟨MembershipTable.loneMember, .head _, by decide, rfl⟩
  · decide

end ConsistentHashRing

end Distsys
