import Distsys.Lib.SetFold
import Distsys.Membership.Invariant

/-!
# Merging in any order

What a sequence of merges makes of the members depends on which records were merged. For
another node the record with the greatest incarnation and status is kept. The local node
answers the greatest incarnation at which it was accused.
-/

namespace Distsys

variable {id : NodeId}

namespace ClusterMember

variable {current : ClusterMember} {records claims : List ClusterMember}

/-- Of two records of another node, what is kept when the second one is merged. -/
def merged (current incoming : ClusterMember) : ClusterMember :=
  if incoming.incarnation < current.incarnation then current
  else if current.incarnation < incoming.incarnation then incoming
  else if current.status < incoming.status then current.withStatus incoming.status
  else current

/-- What is known about another node after a record of it has been merged. -/
def learn (known : Option ClusterMember) (incoming : ClusterMember) : Option ClusterMember :=
  some (known.elim incoming fun current => current.merged incoming)

/-- The record of the local node after a record of it has been merged. -/
def answer (current claim : ClusterMember) : ClusterMember :=
  if claim.Accuses ∧ current.incarnation ≤ claim.incarnation then
    current.refuting claim.incarnation
  else current

section

variable (current incoming : ClusterMember)

@[simp] theorem rank_merged :
    (current.merged incoming).rank = max current.rank incoming.rank := by
  unfold merged
  split_ifs with older newer worse
  · exact (max_eq_left (rank_le_iff.mpr (.inl older))).symm
  · exact (max_eq_right (rank_le_iff.mpr (.inl newer))).symm
  · have same : current.incarnation = incoming.incarnation :=
      Nat.le_antisymm (Nat.not_lt.mp older) (Nat.not_lt.mp newer)
    rw [max_eq_right (rank_le_iff.mpr (.inr ⟨same, worse.le⟩))]
    exact congrArg (fun incarnation => toLex (incarnation, incoming.status)) same
  · have same : incoming.incarnation = current.incarnation :=
      Nat.le_antisymm (Nat.not_lt.mp newer) (Nat.not_lt.mp older)
    exact (max_eq_left (rank_le_iff.mpr (.inr ⟨same, not_lt.mp worse⟩))).symm

@[simp] theorem incarnation_merged :
    (current.merged incoming).incarnation = max current.incarnation incoming.incarnation := by
  unfold merged
  split_ifs
  · omega
  · omega
  · rw [incarnation_withStatus]
    omega
  · omega

@[simp] theorem address_merged :
    (current.merged incoming).address =
      if current.incarnation < incoming.incarnation then incoming.address
      else current.address := by
  unfold merged
  split_ifs <;> first | rfl | omega

@[simp] theorem nodeId_merged :
    (current.merged incoming).nodeId =
      if current.incarnation < incoming.incarnation then incoming.nodeId else current.nodeId := by
  unfold merged
  split_ifs <;> first | rfl | omega

theorem nodeId_merged_of_eq {current incoming : ClusterMember}
    (nodes : current.nodeId = incoming.nodeId) :
    (current.merged incoming).nodeId = incoming.nodeId := by
  rw [nodeId_merged, nodes, ite_self]

end

/-- Records of one node that have the same incarnation have the same address. -/
def Coherent (records : List ClusterMember) : Prop :=
  ∀ left ∈ records, ∀ right ∈ records, left.nodeId = right.nodeId →
    left.incarnation = right.incarnation → left.address = right.address

theorem Coherent.mono {others : List ClusterMember} (coherent : Coherent records)
    (among : ∀ member ∈ others, member ∈ records) : Coherent others :=
  fun left here right there => coherent left (among left here) right (among right there)

section

variable {current first second : ClusterMember}

theorem merged_comm (nodes : first.nodeId = second.nodeId)
    (coherent : first.incarnation = second.incarnation → first.address = second.address) :
    first.merged second = second.merged first := by
  refine ext_of_rank ?_ ?_ ?_
  · rw [nodeId_merged_of_eq nodes, nodeId_merged_of_eq nodes.symm, nodes]
  · rw [rank_merged, rank_merged, max_comm]
  · rw [address_merged, address_merged]
    split_ifs
    · omega
    · rfl
    · rfl
    · exact coherent (by omega)

theorem merged_right_comm (current : ClusterMember) (nodes : first.nodeId = second.nodeId)
    (coherent : first.incarnation = second.incarnation → first.address = second.address) :
    (current.merged first).merged second = (current.merged second).merged first := by
  refine ext_of_rank ?_ ?_ ?_
  · simp only [nodeId_merged, incarnation_merged, nodes]
    split_ifs <;> first | rfl | omega
  · simp only [rank_merged, max_right_comm]
  · simp only [address_merged, incarnation_merged]
    split_ifs <;> first | rfl | omega | exact coherent (by omega)

theorem merged_self (first : ClusterMember) : first.merged first = first := by
  unfold merged
  rw [if_neg (Nat.lt_irrefl _), if_neg (Nat.lt_irrefl _), if_neg (lt_irrefl _)]

theorem merged_again (current first : ClusterMember) :
    (current.merged first).merged first = current.merged first := by
  refine ext_of_rank ?_ ?_ ?_
  · simp only [nodeId_merged, incarnation_merged]
    split_ifs <;> first | rfl | omega
  · rw [rank_merged, rank_merged, max_assoc, max_self]
  · simp only [address_merged, incarnation_merged]
    split_ifs <;> first | rfl | omega

/-- Of two coherent records one is kept. -/
theorem merged_eq_or (nodes : current.nodeId = first.nodeId)
    (coherent : current.incarnation = first.incarnation → current.address = first.address) :
    current.merged first = current ∨ current.merged first = first := by
  unfold merged
  split_ifs with older newer worse
  · exact .inl rfl
  · exact .inr rfl
  · have same : current.incarnation = first.incarnation := by omega
    refine .inr (ext_of_rank nodes ?_ (coherent same))
    exact congrArg (fun incarnation => toLex (incarnation, first.status)) same
  · exact .inl rfl

end

/-- The records of a node. -/
def about (id : NodeId) (records : List ClusterMember) : List ClusterMember :=
  records.filter fun member => member.nodeId = id

theorem mem_about {member : ClusterMember} :
    member ∈ about id records ↔ member ∈ records ∧ member.nodeId = id := by
  rw [about, List.mem_filter, decide_eq_true_iff]

/-- The greatest of the records that are known about a node. -/
def Newest (known : List ClusterMember) : Option ClusterMember → Prop
  | none => known = []
  | some kept => (∃ member ∈ known, member.rank = kept.rank) ∧
      (∀ member ∈ known, member.rank ≤ kept.rank) ∧ (Coherent known → kept ∈ known)

theorem newest_foldl_merged (records : List ClusterMember)
    (nodes : ∀ member ∈ records, member.nodeId = id) (current : ClusterMember)
    (own : current.nodeId = id) :
    ∃ kept, records.foldl learn (some current) = some kept ∧
      Newest (current :: records) (some kept) := by
  induction records generalizing current with
  | nil =>
      refine ⟨current, rfl, ⟨current, .head _, rfl⟩, ?_, fun _ => .head _⟩
      rintro member (_ | ⟨_, ⟨⟩⟩)
      exact le_rfl
  | cons head rest ih =>
      have same : current.nodeId = head.nodeId := own.trans (nodes head (.head _)).symm
      obtain ⟨kept, folded, ⟨member, among, attained⟩, greatest, coherent⟩ :=
        ih (fun member later => nodes member (.tail _ later)) (current.merged head)
          ((nodeId_merged_of_eq same).trans (nodes head (.head _)))
      have top := greatest (current.merged head) (.head _)
      rw [rank_merged, max_le_iff] at top
      refine ⟨kept, folded, ?_, ?_, fun together => ?_⟩
      · rcases List.mem_cons.mp among with rfl | later
        · rw [rank_merged] at attained
          rcases max_choice current.rank head.rank with left | right
          · exact ⟨current, .head _, left.symm.trans attained⟩
          · exact ⟨head, .tail _ (.head _), right.symm.trans attained⟩
        · exact ⟨member, .tail _ (.tail _ later), attained⟩
      · rintro other (_ | ⟨_, _ | ⟨_, later⟩⟩)
        · exact top.1
        · exact top.2
        · exact greatest other (.tail _ later)
      · have one : current.merged head ∈ current :: head :: rest := by
          rcases merged_eq_or same (together current (.head _) head (.tail _ (.head _)) same) with
            left | right
          · exact left.symm ▸ .head _
          · exact right.symm ▸ .tail _ (.head _)
        have still : ∀ member ∈ current.merged head :: rest, member ∈ current :: head :: rest := by
          rintro member (_ | ⟨_, later⟩)
          · exact one
          · exact .tail _ (.tail _ later)
        exact still kept (coherent (together.mono still))

theorem newest_foldl_learn (nodes : ∀ member ∈ records, member.nodeId = id)
    {known : Option ClusterMember} (own : ∀ member, known = some member → member.nodeId = id) :
    Newest (known.toList ++ records) (records.foldl learn known) := by
  cases known with
  | some current =>
      obtain ⟨kept, folded, newest⟩ := newest_foldl_merged records nodes current (own current rfl)
      exact folded ▸ newest
  | none =>
      cases records with
      | nil => rfl
      | cons head rest =>
          obtain ⟨kept, folded, newest⟩ :=
            newest_foldl_merged rest (fun member later => nodes member (.tail _ later)) head
              (nodes head (.head _))
          exact folded.symm ▸ newest

/-- Merging records of one other node. -/
theorem absorbing_learn (nodes : ∀ member ∈ records, member.nodeId = id)
    (coherent : Coherent records) :
    Absorbing learn records where
  commute first here second there known := by
    have same : first.nodeId = second.nodeId := (nodes first here).trans (nodes second there).symm
    have agree := coherent first here second there same
    cases known with
    | none => exact congrArg some (merged_comm same agree)
    | some current => exact congrArg some (merged_right_comm current same agree)
  repeated item _ known := by
    cases known with
    | none => exact congrArg some (merged_self item)
    | some current => exact congrArg some (merged_again current item)

/-- Merging claims about the local node. -/
theorem absorbing_answer (claims : List ClusterMember) : Absorbing answer claims where
  commute first _ second _ current := by
    have last : ∀ incarnation other, (current.refuting incarnation).refuting other =
        current.refuting other := fun _ _ => rfl
    unfold answer
    split_ifs <;> grind [incarnation_refuting]
  repeated claim _ current := by
    unfold answer
    split_ifs <;> grind [incarnation_refuting]

/-- Claims about earlier incarnations change nothing. -/
theorem foldl_answer_of_lt
    (early : ∀ claim ∈ claims, claim.Accuses → claim.incarnation < current.incarnation) :
    claims.foldl answer current = current := by
  induction claims with
  | nil => rfl
  | cons head rest ih =>
      have ignored : current.answer head = current :=
        if_neg fun claim => Nat.not_le.mpr (early head (.head _) claim.1) claim.2
      rw [List.foldl_cons, ignored]
      exact ih fun claim later => early claim (.tail _ later)

/-- Of the other claims the one about the greatest incarnation is answered. -/
theorem foldl_answer_of_greatest {claim : ClusterMember} (among : claim ∈ claims)
    (accuses : claim.Accuses) (late : current.incarnation ≤ claim.incarnation)
    (greatest : ∀ other ∈ claims, other.Accuses → other.incarnation ≤ claim.incarnation) :
    claims.foldl answer current = current.refuting claim.incarnation := by
  have answered : current.answer claim = current.refuting claim.incarnation :=
    if_pos ⟨accuses, late⟩
  rw [← (absorbing_answer claims).foldl_step among, answered]
  exact foldl_answer_of_lt fun other there claimed =>
    Nat.lt_succ_of_le (greatest other there claimed)

end ClusterMember

namespace MembershipTable

open ClusterMember

variable {settings : MembershipSettings}

/-- One record of a merge, seen from another node than the local one. -/
theorem get_mergeOne (table : MembershipTable settings) (now : Seconds) (incoming : ClusterMember)
    (other : id ≠ settings.localNodeId) :
    (table.mergeOne now incoming).2.get id =
      if incoming.nodeId = id then learn (table.get id) incoming else table.get id := by
  by_cases same : incoming.nodeId = id
  · subst same
    rw [if_pos rfl, mergeOne, accepted, if_neg other]
    cases found : table.get incoming.nodeId with
    | none => exact (get_record ..).trans (if_pos rfl)
    | some current =>
        have keyed : current.nodeId = incoming.nodeId := MemberMap.nodeId_of_get found
        dsimp only [learn, Option.elim, merged]
        split_ifs
        · exact found
        · exact (get_record ..).trans (if_pos rfl)
        · exact (get_record ..).trans (if_pos keyed)
        · exact found
  · rw [if_neg same]
    rcases table.mergeOne_cases now incoming with kept | ⟨member, accepts, stored⟩
    · rw [kept]
    · rw [stored, get_record, if_neg (accepts.nodeId.symm ▸ same)]

theorem localMember_mergeOne (table : MembershipTable settings) (now : Seconds)
    (incoming : ClusterMember) :
    (table.mergeOne now incoming).2.members.localMember =
      if incoming.nodeId = settings.localNodeId then table.members.localMember.answer incoming
      else table.members.localMember := by
  refine Option.some.inj ((MemberMap.get_localNodeId _).symm.trans ?_)
  change (table.mergeOne now incoming).2.get settings.localNodeId = _
  by_cases own : incoming.nodeId = settings.localNodeId
  · rw [if_pos own, mergeOne, accepted, if_pos own, answer]
    dsimp only
    split_ifs
    · exact (get_record ..).trans (if_pos table.members.nodeId_localMember)
    · exact table.members.get_localNodeId
  · rw [if_neg own, ← table.members.get_localNodeId]
    rcases table.mergeOne_cases now incoming with kept | ⟨member, accepts, stored⟩
    · rw [kept]
      rfl
    · rw [stored, get_record, if_neg (accepts.nodeId.symm ▸ own)]
      rfl

/-- The records that a sequence of merges brings. -/
def recordsOf (merges : List (List (Seconds × ClusterMember))) : List ClusterMember :=
  merges.flatten.map Prod.snd

section

variable {β : Type} {id : NodeId} {read : MemberMap settings.localNodeId → β}
  {step : β → ClusterMember → β}

/-- What is read of the members follows the records of one node. -/
theorem read_mergeLoop
    (one : ∀ (table : MembershipTable settings) now incoming,
      read (table.mergeOne now incoming).2.members =
        if incoming.nodeId = id then step (read table.members) incoming else read table.members)
    (table : MembershipTable settings) (changed : Bool)
    (records : List (Seconds × ClusterMember)) :
    read (table.mergeLoop changed records).2.members =
      (about id (records.map Prod.snd)).foldl step (read table.members) := by
  induction records generalizing table changed with
  | nil => rfl
  | cons head rest ih =>
      obtain ⟨now, incoming⟩ := head
      refine (ih (table.mergeOne now incoming).2 _).trans ?_
      rw [one, List.map_cons, about, about, List.filter_cons]
      by_cases same : incoming.nodeId = id
      · rw [if_pos same, if_pos (decide_eq_true same), List.foldl_cons]
      · rw [if_neg same, if_neg (mt of_decide_eq_true same)]

theorem read_after_merges
    (one : ∀ (table : MembershipTable settings) now incoming,
      read (table.mergeOne now incoming).2.members =
        if incoming.nodeId = id then step (read table.members) incoming else read table.members)
    (table : MembershipTable settings) (merges : List (List (Seconds × ClusterMember))) :
    read (table.after (merges.map .merge)).members =
      (about id (recordsOf merges)).foldl step (read table.members) := by
  induction merges generalizing table with
  | nil => rfl
  | cons records rest ih =>
      refine (ih (table.merge records).2).trans ?_
      rw [merge, members_bump, read_mergeLoop one, recordsOf, recordsOf, List.flatten_cons,
        List.map_append, about, about, about, List.filter_append, List.foldl_append]

end

theorem get_after_merges (table : MembershipTable settings)
    (merges : List (List (Seconds × ClusterMember))) (other : id ≠ settings.localNodeId) :
    (table.after (merges.map .merge)).get id =
      (about id (recordsOf merges)).foldl learn (table.get id) :=
  @read_after_merges _ _ _ (fun members => members.get id) _
    (fun table now incoming => table.get_mergeOne now incoming other) table merges

theorem localMember_after_merges (table : MembershipTable settings)
    (merges : List (List (Seconds × ClusterMember))) :
    (table.after (merges.map .merge)).members.localMember =
      (about settings.localNodeId (recordsOf merges)).foldl answer table.members.localMember :=
  read_after_merges localMember_mergeOne table merges

/-- Merging is order-independent. Two sequences of merges that bring the same records leave
the same members. For another node the greatest record is kept. The local node answers the
greatest incarnation at which it was accused, unless its own is greater. -/
theorem merge_order_independent (table : MembershipTable settings)
    (first second : List (List (Seconds × ClusterMember)))
    (same : ∀ member, member ∈ recordsOf first ↔ member ∈ recordsOf second)
    (coherent : Coherent (recordsOf first)) :
    let result := table.after (first.map .merge)
    let own := table.members.localMember
    let claims := (about settings.localNodeId (recordsOf first)).filter fun claim => claim.Accuses
    result.members = (table.after (second.map .merge)).members ∧
      (∀ id ≠ settings.localNodeId,
        Newest ((table.get id).toList ++ about id (recordsOf first)) (result.get id)) ∧
      ((∀ claim ∈ claims, claim.incarnation < own.incarnation) →
        result.members.localMember = own) ∧
      ∀ claim ∈ claims, own.incarnation ≤ claim.incarnation →
        (∀ other ∈ claims, other.incarnation ≤ claim.incarnation) →
        result.members.localMember = own.refuting claim.incarnation := by
  intro result own claims
  have alike : ∀ id member, member ∈ about id (recordsOf first) ↔
      member ∈ about id (recordsOf second) := by
    intro id member
    rw [mem_about, mem_about, same]
  have nodes : ∀ id, ∀ member ∈ about id (recordsOf first), member.nodeId = id :=
    fun id member among => (mem_about.mp among).2
  have accusing : ∀ claim, claim ∈ claims ↔
      claim ∈ about settings.localNodeId (recordsOf first) ∧ claim.Accuses := by
    intro claim
    rw [List.mem_filter, decide_eq_true_iff]
  refine ⟨MemberMap.ext_get fun id => ?_, fun id other => ?_, fun early => ?_, ?_⟩
  · by_cases here : id = settings.localNodeId
    · subst here
      rw [MemberMap.get_localNodeId, MemberMap.get_localNodeId, localMember_after_merges,
        localMember_after_merges, (absorbing_answer _).foldl_eq (alike _)]
    · have absorbing := absorbing_learn (nodes id)
        (coherent.mono fun member among => (mem_about.mp among).1)
      exact (table.get_after_merges first here).trans
        ((absorbing.foldl_eq (alike id) _).trans (table.get_after_merges second here).symm)
  · rw [get_after_merges table first other]
    exact newest_foldl_learn (nodes id) fun member found => MemberMap.nodeId_of_get found
  · exact (table.localMember_after_merges first).trans
      (foldl_answer_of_lt fun claim among accuses =>
        early claim ((accusing claim).mpr ⟨among, accuses⟩))
  · intro claim among late greatest
    obtain ⟨among, accuses⟩ := (accusing claim).mp among
    exact (table.localMember_after_merges first).trans
      (foldl_answer_of_greatest among accuses late fun other there accuses =>
        greatest other ((accusing other).mpr ⟨there, accuses⟩))

/-- A suspicion and its refutation, in either order. -/
theorem merge_order_independent_lone :
    (loneTable.after [.merge [(0, peerMember .suspect 0), (1, peerMember .alive 1)]]).members =
      (loneTable.after [.merge [(5, peerMember .alive 1)],
        .merge [(6, peerMember .suspect 0), (7, peerMember .alive 1)]]).members := by
  refine (merge_order_independent loneTable
    [[(0, peerMember .suspect 0), (1, peerMember .alive 1)]]
    [[(5, peerMember .alive 1)], [(6, peerMember .suspect 0), (7, peerMember .alive 1)]] ?_ ?_).1
  · intro member
    change member ∈ [peerMember .suspect 0, peerMember .alive 1] ↔
      member ∈ [peerMember .alive 1, peerMember .suspect 0, peerMember .alive 1]
    simp only [List.mem_cons, List.not_mem_nil, or_false]
    tauto
  · unfold Coherent
    decide +kernel

end MembershipTable

end Distsys
