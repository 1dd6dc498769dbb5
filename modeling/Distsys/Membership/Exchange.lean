import Distsys.Membership.Merging

/-!
# A gossip exchange

A node sends its snapshot, the peer merges it and acknowledges with its own, and the node
merges that one. The two tables then agree.
-/

namespace Distsys

open ClusterMember

variable {id : NodeId}

/-- A node that is ahead of a claim about it answers with a greater record. -/
theorem ClusterMember.merged_answer {current claim : ClusterMember}
    (nodes : claim.nodeId = current.nodeId)
    (coherent : claim.incarnation = current.incarnation → claim.address = current.address)
    (ahead : claim.incarnation ≤ current.incarnation) :
    claim.merged (current.answer claim) = current.answer claim := by
  have lowest : ∀ status : MemberStatus, .alive ≤ status := by
    intro status
    cases status <;> decide
  have least : claim.rank ≤ (current.answer claim).rank := by
    rw [rank_le_iff]
    grind [answer, incarnation_refuting, accuses_iff]
  refine ext_of_rank ?_ ((rank_merged ..).trans (max_eq_right least)) ?_
  · grind [answer, nodeId_merged, refuting]
  · grind [answer, address_merged, refuting, address]

namespace MembershipTable

variable {here there : MembershipSettings}

theorem mem_about_snapshot {table : MembershipTable there} {member : ClusterMember} :
    member ∈ about id table.snapshot ↔ table.get id = some member := by
  rw [mem_about, mem_snapshot]
  constructor
  · rintro ⟨⟨key, found⟩, rfl⟩
    rwa [MemberMap.nodeId_of_get found]
  · intro found
    exact ⟨⟨id, found⟩, MemberMap.nodeId_of_get found⟩

variable {records : List (Seconds × ClusterMember)} {sender : MembershipTable there}

/-- A snapshot brings one record of each node it knows. -/
theorem foldl_snapshot {β : Type} {step : β → ClusterMember → β}
    (sent : records.map Prod.snd = sender.snapshot)
    (absorbing : Absorbing step (about id sender.snapshot)) (known : β) :
    (about id (recordsOf [records])).foldl step known =
      (sender.get id).toList.foldl step known := by
  have brought : recordsOf [records] = sender.snapshot := by simpa [recordsOf] using sent
  rw [brought]
  exact absorbing.foldl_eq (fun _ => mem_about_snapshot.trans Option.mem_toList.symm) known

theorem get_merge_snapshot (table : MembershipTable here)
    (sent : records.map Prod.snd = sender.snapshot) (other : id ≠ here.localNodeId) :
    (table.merge records).2.get id = (sender.get id).toList.foldl learn (table.get id) := by
  have single : Coherent (about id sender.snapshot) := by
    intro left first right second _ _
    rw [Option.some.inj ((mem_about_snapshot.mp first).symm.trans (mem_about_snapshot.mp second))]
  exact (table.get_after_merges [records] other).trans
    (foldl_snapshot sent (absorbing_learn (fun _ among => (mem_about.mp among).2) single) _)

/-- After an exchange the two tables agree about every node but the one that began it, as long
as the peer is ahead of what that one knew about it. -/
theorem gossip_exchange_agrees (left : MembershipTable here) (right : MembershipTable there)
    {gossip ack : List (Seconds × ClusterMember)} (sent : gossip.map Prod.snd = left.snapshot)
    (answered : ack.map Prod.snd = (right.merge gossip).2.snapshot)
    (coherent : ∀ known told, left.get id = some known → right.get id = some told →
      known.incarnation = told.incarnation → known.address = told.address)
    (ahead : ∀ claim, left.get there.localNodeId = some claim →
      claim.incarnation ≤ right.members.localMember.incarnation)
    (other : id ≠ here.localNodeId) :
    (left.merge ack).2.get id = (right.merge gossip).2.get id := by
  have nodes : ∀ {known told}, left.get id = some known → right.get id = some told →
      known.nodeId = told.nodeId := fun first second =>
    (MemberMap.nodeId_of_get first).trans (MemberMap.nodeId_of_get second).symm
  rw [get_merge_snapshot left answered other]
  by_cases peer : id = there.localNodeId
  · subst peer
    -- the peer may have refuted what it was told about itself
    have own : (right.merge gossip).2.get there.localNodeId =
        some ((left.get there.localNodeId).toList.foldl answer right.members.localMember) :=
      (MemberMap.get_localNodeId _).trans (congrArg some
        ((right.localMember_after_merges [gossip]).trans
          (foldl_snapshot sent (absorbing_answer _) _)))
    rw [own]
    cases first : left.get there.localNodeId with
    | none => rfl
    | some claim =>
        have second := right.members.get_localNodeId
        exact congrArg some (merged_answer (nodes first second) (coherent _ _ first second)
          (ahead claim first))
  · rw [get_merge_snapshot right sent peer]
    cases first : left.get id with
    | none => cases right.get id <;> rfl
    | some known =>
        cases second : right.get id with
        | none => exact congrArg some (merged_self known)
        | some told =>
            have alike := coherent known told first second
            change some (known.merged (told.merged known)) = some (told.merged known)
            rw [← merged_comm (nodes first second) alike]
            rcases merged_eq_or (nodes first second) alike with same | same
            · rw [same, merged_self]
            · rw [same, same]

/-- The table of the peer when it starts. -/
def peerTable : MembershipTable { loneSettings with localNodeId := peerId } :=
  fresh _ (peerMember .alive 0) rfl

/-- The peer hears that it is suspected, and refutes it in its acknowledgement. -/
theorem suspected_peer_agrees :
    let left := (loneTable.merge [(0, peerMember .suspect 0)]).2
    let right := (peerTable.merge (left.snapshot.map (Prod.mk 0))).2
    right.get peerId = some (peerMember .alive 1) ∧
      (left.merge (right.snapshot.map (Prod.mk 1))).2.get peerId = right.get peerId := by
  refine ⟨by decide +kernel, gossip_exchange_agrees _ _ ?_ ?_ ?_ ?_ (by decide)⟩
  · decide +kernel
  · decide +kernel
  · rintro _ _ ⟨⟩ ⟨⟩ _
    rfl
  · rintro _ ⟨⟩
    decide +kernel

end MembershipTable

end Distsys
