import Mathlib.Data.ZMod.Defs
import Distsys.Membership.Codec
import Distsys.Membership.Timeouts

/-!
# Which snapshots can be gossiped

All records of the other nodes were decoded, or differ from a decoded one in their status.
The record of the local node leaves the range of its field when the node answers a claim
about the greatest incarnation, and never comes back.
-/

namespace Distsys

namespace ClusterMember

@[simp] theorem fits_withStatus {member : ClusterMember} {status : MemberStatus} :
    (member.withStatus status).Fits ↔ member.Fits := Iff.rfl

theorem Fits.merged {current incoming : ClusterMember} (kept : current.Fits)
    (brought : incoming.Fits) : (current.merged incoming).Fits := by
  unfold ClusterMember.merged
  split_ifs
  · exact kept
  · exact brought
  · exact kept
  · exact kept

/-- The claim is one that the local node cannot answer within the field. -/
def Overflows (claim : ClusterMember) : Prop := claim.Accuses ∧ claim.incarnation = 2 ^ 64 - 1

theorem fits_answer {current claim : ClusterMember} (small : claim.incarnation < 2 ^ 64) :
    (current.answer claim).Fits ↔ current.Fits ∧ ¬ claim.Overflows := by
  unfold answer Overflows Fits
  split_ifs with answered
  · rw [incarnation_refuting]
    have accuses := answered.1
    have late := answered.2
    constructor
    · rintro ⟨named, hosted, fits⟩
      exact ⟨⟨named, hosted, by omega⟩, fun overflow => by omega⟩
    · rintro ⟨⟨named, hosted, _⟩, fits⟩
      have differs : claim.incarnation ≠ 2 ^ 64 - 1 := fun same => fits ⟨accuses, same⟩
      exact ⟨named, hosted, by omega⟩
  · refine (and_iff_left_of_imp ?_).symm
    rintro ⟨_, _, fits⟩ ⟨accuses, same⟩
    exact answered ⟨accuses, by omega⟩

theorem fits_foldl_answer {current : ClusterMember} {claims : List ClusterMember}
    (small : ∀ claim ∈ claims, claim.incarnation < 2 ^ 64) :
    (claims.foldl answer current).Fits ↔
      current.Fits ∧ ∀ claim ∈ claims, ¬ claim.Overflows := by
  induction claims generalizing current with
  | nil => exact ⟨fun fits => ⟨fits, fun _ none => absurd none List.not_mem_nil⟩, And.left⟩
  | cons head rest ih =>
      obtain ⟨first, others⟩ := List.forall_mem_cons.mp small
      rw [List.foldl_cons, ih others, fits_answer first, and_assoc, List.forall_mem_cons]

end ClusterMember

/-- The records that a call merges. -/
def TableCall.brought : TableCall → List ClusterMember
  | .merge records => records.map Prod.snd
  | .markSuspect _ _ | .advance _ => []

namespace MembershipTable

open ClusterMember

variable {settings : MembershipSettings} {table after : MembershipTable settings}

/-- The records of the other nodes fit their fields. -/
def OthersFit (table : MembershipTable settings) : Prop :=
  ∀ id ≠ settings.localNodeId, ∀ member, table.get id = some member → member.Fits

theorem OthersFit.restated (fits : table.OthersFit) (restated : table.Restated after) :
    after.OthersFit := by
  intro id other new found
  obtain ⟨old, status, before, rfl⟩ := restated id new found
  exact fits id other old before

theorem OthersFit.mergeLoop (fits : table.OthersFit) (changed : Bool)
    {records : List (Seconds × ClusterMember)} (brought : ∀ record ∈ records, record.2.Fits) :
    (table.mergeLoop changed records).2.OthersFit := by
  induction records generalizing table changed with
  | nil => exact fits
  | cons head rest ih =>
      obtain ⟨now, incoming⟩ := head
      obtain ⟨first, others⟩ := List.forall_mem_cons.mp brought
      refine @ih (table.mergeOne now incoming).2 ?_ _ others
      intro id other member found
      rw [get_mergeOne table now incoming other] at found
      split at found
      · cases found
        cases known : table.get id with
        | none => exact first
        | some current => exact (fits id other current known).merged first
      · exact fits id other member found

theorem OthersFit.call (fits : table.OthersFit) {call : TableCall}
    (brought : ∀ record ∈ call.brought, record.Fits) : (table.call call).2.OthersFit := by
  cases call with
  | merge records =>
      have merged := fits.mergeLoop false fun record among =>
        brought record.2 (List.mem_map_of_mem among)
      intro id other member found
      refine merged id other member ?_
      exact (congrArg (MemberMap.get · id) (members_bump _)).symm.trans found
  | markSuspect now id => exact fits.restated (table.restated_markSuspect now id)
  | advance now => exact fits.restated (table.restated_advance now)

theorem localMember_restated (restated : table.Restated after) :
    ∃ status, after.members.localMember = table.members.localMember.withStatus status := by
  obtain ⟨old, status, before, same⟩ := restated _ _ after.members.get_localNodeId
  cases before.symm.trans table.members.get_localNodeId
  exact ⟨status, same⟩

/-- The local node still fits after a call that brings no claim about the greatest
incarnation, and only then. -/
theorem fits_localMember_call {call : TableCall}
    (brought : ∀ record ∈ call.brought, record.Fits) :
    (table.call call).2.members.localMember.Fits ↔ table.members.localMember.Fits ∧
      ∀ record ∈ call.brought, record.nodeId = settings.localNodeId → ¬ record.Overflows := by
  have quiet : ∀ {after : MembershipTable settings}, table.Restated after →
      (after.members.localMember.Fits ↔ table.members.localMember.Fits ∧
        ∀ record ∈ ([] : List ClusterMember), record.nodeId = settings.localNodeId →
          ¬ record.Overflows) := by
    intro after restated
    obtain ⟨status, same⟩ := localMember_restated restated
    rw [same, fits_withStatus]
    exact (and_iff_left fun record none => absurd none List.not_mem_nil).symm
  cases call with
  | merge records =>
      have folded : (table.merge records).2.members.localMember =
          (about settings.localNodeId (records.map Prod.snd)).foldl answer
            table.members.localMember := by
        rw [merge, members_bump]
        exact read_mergeLoop localMember_mergeOne table false records
      change ∀ record ∈ records.map Prod.snd, record.Fits at brought
      change (table.merge records).2.members.localMember.Fits ↔ _
      rw [folded, fits_foldl_answer fun claim among => (brought claim (mem_about.mp among).1).2.2]
      simp only [mem_about, and_imp, TableCall.brought]
  | markSuspect now id => exact quiet (table.restated_markSuspect now id)
  | advance now => exact quiet (table.restated_advance now)

/-- The records that a run merges. -/
def broughtBy (calls : List TableCall) : List ClusterMember := calls.flatMap TableCall.brought

theorem broughtBy_cons (call : TableCall) (rest : List TableCall) :
    broughtBy (call :: rest) = call.brought ++ broughtBy rest := List.flatMap_cons

/-- All records fit after a run, when those of the other nodes did before. -/
theorem fits_after {calls : List TableCall} (others : table.OthersFit)
    (brought : ∀ record ∈ broughtBy calls, record.Fits) :
    (∀ id member, (table.after calls).get id = some member → member.Fits) ↔
      table.members.localMember.Fits ∧
        ∀ record ∈ broughtBy calls, record.nodeId = settings.localNodeId →
          ¬ record.Overflows := by
  induction calls generalizing table with
  | nil =>
      constructor
      · intro fits
        refine ⟨fits _ _ table.members.get_localNodeId, fun record none => ?_⟩
        exact absurd none List.not_mem_nil
      · rintro ⟨own, _⟩ id member found
        by_cases here : id = settings.localNodeId
        · subst here
          cases found.symm.trans table.members.get_localNodeId
          exact own
        · exact others id here member found
  | cons call rest ih =>
      rw [broughtBy_cons, List.forall_mem_append] at brought
      obtain ⟨first, later⟩ := brought
      refine (ih (others.call first) later).trans ?_
      rw [fits_localMember_call first, and_assoc, broughtBy_cons, List.forall_mem_append]

/-- The snapshot that a run from a fresh table leaves can be gossiped exactly when the record
with which the node started fits its fields and no record that was merged accuses the node at
the greatest incarnation that a field holds. The merged records are decoded ones. -/
theorem snapshot_travels_iff {Bytes : Type} (wire : ClusterWire Bytes)
    (settings : MembershipSettings) (own : ClusterMember)
    (same : own.nodeId = settings.localNodeId) (calls : List TableCall)
    (decoded : ∀ record ∈ broughtBy calls, ∃ value, memberFromProto value = .ok record) :
    Travels wire ((fresh settings own same).after calls).snapshot ↔
      own.Fits ∧ ∀ record ∈ broughtBy calls, record.nodeId = settings.localNodeId →
        ¬ record.Overflows := by
  have brought : ∀ record ∈ broughtBy calls, record.Fits := by
    intro record among
    obtain ⟨value, read⟩ := decoded record among
    exact fits_of_memberFromProto read
  have others : (fresh settings own same).OthersFit := by
    intro id other member found
    rw [get_fresh, if_neg (same.trans_ne other.symm)] at found
    cases found
  have start : (fresh settings own same).members.localMember = own :=
    Option.some.inj ((MemberMap.get_localNodeId _).symm.trans
      ((get_fresh settings own same _).trans (if_pos same)))
  rw [travels_iff]
  refine Iff.trans ?_ ((fits_after others brought).trans (by rw [start]))
  constructor
  · exact fun all id member found => all member (mem_snapshot.mpr ⟨id, found⟩)
  · rintro all member listed
    obtain ⟨id, found⟩ := mem_snapshot.mp listed
    exact all id member found

/-- A claim of the wire about the local node. -/
def claimedField (incarnation : UInt64Field) : Proto.ClusterMember :=
  ⟨.letter 97, .letter 104, 7000, .known .suspect, incarnation⟩

/-- The claim as it is decoded. -/
def claimedMember (previous : Nat) : ClusterMember :=
  ⟨loneMember.nodeId, [104], 7000, .suspect, previous + 1, loneMember.hosted, loneMember.ported,
    Nat.succ_pos previous⟩

theorem snapshot_travels_iff_lone :
    (∃ value, memberFromProto value = .ok (claimedMember 4)) ∧
      Travels ClusterWire.plain (loneTable.after [.merge [(0, claimedMember 4)]]).snapshot := by
  have decoded : memberFromProto (claimedField 5) = .ok (claimedMember 4) := by decide +kernel
  refine ⟨⟨_, decoded⟩, ?_⟩
  refine (snapshot_travels_iff ClusterWire.plain loneSettings loneMember rfl
    [.merge [(0, claimedMember 4)]] ?_).mpr ⟨by decide +kernel, ?_⟩
  · intro record among
    cases List.mem_singleton.mp among
    exact ⟨_, decoded⟩
  · intro record among _ overflows
    cases List.mem_singleton.mp among
    exact absurd overflows.2 (by decide)

/-- The node answers a suspicion of the greatest incarnation. After that it can send none of
its snapshots. -/
theorem refutation_leaves_the_field :
    memberFromProto (claimedField (2 ^ 64 - 1)) = .ok (claimedMember (2 ^ 64 - 2)) ∧
      let snapshot := (loneTable.after [.merge [(0, claimedMember (2 ^ 64 - 2))]]).snapshot
      loneMember.Fits ∧ snapshot = [loneMember.refuting (2 ^ 64 - 1)] ∧
        (encodePing ClusterWire.plain snapshot).isOk = false ∧
        (encodeGossip ClusterWire.plain snapshot).isOk = false ∧
        (encodeAck ClusterWire.plain ⟨true, loneMember.nodeId, snapshot⟩).isOk = false ∧
        (encodeJoinResponse ClusterWire.plain snapshot).isOk = false := by
  decide +kernel

end MembershipTable

end Distsys
