import Distsys.Membership.View

/-!
# The invariant of a membership table

The timers of a table are those of its SUSPECT and DEAD members, its local member is
ALIVE, and a record is replaced by a later one only. What one call does is shown first,
then what any sequence of calls keeps.
-/

namespace Distsys

/-- The later record may stand in the place of the earlier one. -/
structure ClusterMember.Succeeds (old new : ClusterMember) : Prop where
  rank : old.rank ≤ new.rank
  address : old.address ≠ new.address → old.incarnation < new.incarnation

namespace ClusterMember.Succeeds

theorem refl (member : ClusterMember) : member.Succeeds member :=
  ⟨le_rfl, fun differs => absurd rfl differs⟩

theorem incarnation {old new : ClusterMember} (later : old.Succeeds new) :
    old.incarnation ≤ new.incarnation :=
  (rank_le_iff.mp later.rank).elim Nat.le_of_lt fun same => same.1.le

theorem trans {first second third : ClusterMember} (early : first.Succeeds second)
    (late : second.Succeeds third) : first.Succeeds third := by
  refine ⟨early.rank.trans late.rank, fun differs => ?_⟩
  by_cases same : first.address = second.address
  · exact early.incarnation.trans_lt (late.address (same ▸ differs))
  · exact (early.address same).trans_le late.incarnation

theorem worse {old : ClusterMember} {status : MemberStatus} (worse : old.status < status) :
    old.Succeeds (old.withStatus status) :=
  ⟨rank_le_iff.mpr (.inr ⟨rfl, worse.le⟩), fun differs => absurd rfl differs⟩

end ClusterMember.Succeeds

namespace MemberView

/-- The timers are those of the status of the member. -/
inductive Sound : MemberView → Prop
  | absent : Sound ⟨none, none, none⟩
  | alive (member : ClusterMember) (status : member.status = .alive) :
      Sound ⟨some member, none, none⟩
  | suspect (member : ClusterMember) (status : member.status = .suspect) (since : Seconds) :
      Sound ⟨some member, some since, none⟩
  | dead (member : ClusterMember) (status : member.status = .dead) (since : Seconds) :
      Sound ⟨some member, none, some since⟩

/-- Storing a record puts the timers in order. -/
theorem sound_record (view : MemberView) (now : Seconds) (member : ClusterMember) :
    (view.record now member).Sound := by
  unfold record
  cases status : member.status with
  | alive => exact .alive member status
  | suspect => exact .suspect member status _
  | dead => exact .dead member status _

variable {settings : MembershipSettings} {now : Seconds} {view : MemberView}

theorem Sound.expired (sound : view.Sound) : (view.expired settings now).Sound := by
  have result := view.expires settings now
  generalize view.expired settings now = next at result ⊢
  cases result with
  | early early => exact sound
  | died member since => exact .dead _ rfl now
  | stopped status =>
      cases sound with
      | absent => exact .absent
      | alive member alive => exact .alive member alive
      | suspect member suspect since => exact absurd suspect (status member rfl)
      | dead member dead since => exact .dead member dead since

theorem Sound.purged (sound : view.Sound) : (view.purged settings now).Sound := by
  have result := view.purges settings now
  generalize view.purged settings now = next at result ⊢
  cases sound with
  | absent => cases result <;> exact .absent
  | alive member status =>
      cases result with
      | early | stopped => exact .alive member status
      | gone _ _ _ _ timer => cases timer
  | suspect member status since =>
      cases result with
      | early | stopped => exact .suspect member status since
      | gone _ _ _ _ timer => cases timer
  | dead member status since =>
      cases result with
      | early => exact .dead member status since
      | stopped alive => exact absurd status (alive member rfl)
      | gone => exact .absent

/-- A timer runs exactly for the status it belongs to. -/
theorem Sound.timers (sound : view.Sound) :
    (view.suspectedAt.isSome ↔ ∃ member, view.member = some member ∧ member.status = .suspect) ∧
      (view.deadAt.isSome ↔ ∃ member, view.member = some member ∧ member.status = .dead) := by
  have only : ∀ {member : ClusterMember} {status other : MemberStatus}, member.status = status →
      status ≠ other → ¬ ∃ found, some member = some found ∧ found.status = other := by
    rintro member status other held differs ⟨_, ⟨⟩, same⟩
    exact differs (held.symm.trans same)
  cases sound with
  | absent => exact ⟨iff_of_false nofun nofun, iff_of_false nofun nofun⟩
  | alive member status =>
      exact ⟨iff_of_false nofun (only status nofun), iff_of_false nofun (only status nofun)⟩
  | suspect member status since =>
      exact ⟨iff_of_true rfl ⟨member, rfl, status⟩, iff_of_false nofun (only status nofun)⟩
  | dead member status since =>
      exact ⟨iff_of_false nofun (only status nofun), iff_of_true rfl ⟨member, rfl, status⟩⟩

/-- No timer of the view is due. -/
structure Undue (settings : MembershipSettings) (now : Seconds) (view : MemberView) : Prop where
  suspected : ∀ since, view.suspectedAt = some since →
    now - since < settings.suspicionTimeoutSeconds
  dead : ∀ since, view.deadAt = some since → now - since < settings.deadRetentionSeconds

theorem undue (settings : MembershipSettings) (now : Seconds) (view : MemberView) :
    ((view.expired settings now).purged settings now).Undue settings now := by
  have suspected : ∀ since, (view.expired settings now).suspectedAt = some since →
      now - since < settings.suspicionTimeoutSeconds := by
    have result := view.expires settings now
    generalize view.expired settings now = next at result ⊢
    cases result with
    | early early => exact early
    | stopped | died => exact nofun
  have result := (view.expired settings now).purges settings now
  generalize (view.expired settings now).purged settings now = next at result ⊢
  cases result with
  | early early => exact ⟨suspected, early⟩
  | stopped | gone => exact ⟨suspected, nofun⟩

/-- The record after the first loop: a SUSPECT one may have become DEAD. -/
theorem member_expired (settings : MembershipSettings) (now : Seconds) (view : MemberView) :
    (view.expired settings now).member = view.member ∨
      ∃ member since, view.member = some member ∧ member.status = .suspect ∧
        view.suspectedAt = some since ∧ settings.suspicionTimeoutSeconds ≤ now - since ∧
        view.expired settings now = ⟨some (member.withStatus .dead), none, some now⟩ := by
  have result := view.expires settings now
  generalize view.expired settings now = next at result ⊢
  cases result with
  | early | stopped => exact .inl rfl
  | died member since found status timer due =>
      exact .inr ⟨member, since, found, status, timer, due, rfl⟩

/-- The record after the second loop: a DEAD one may be gone. -/
theorem member_purged (settings : MembershipSettings) (now : Seconds) (view : MemberView) :
    (view.purged settings now).member = view.member ∨
      ∃ member since, view.member = some member ∧ member.status = .dead ∧
        view.deadAt = some since ∧ settings.deadRetentionSeconds ≤ now - since ∧
        (view.purged settings now).member = none := by
  have result := view.purges settings now
  generalize view.purged settings now = next at result ⊢
  cases result with
  | early | stopped => exact .inl rfl
  | gone member since found status timer due =>
      exact .inr ⟨member, since, found, status, timer, due, rfl⟩

end MemberView

namespace MembershipTable

variable {settings : MembershipSettings}

/-- The record that a merge stores, and why. -/
inductive Accepts (table : MembershipTable settings) (incoming : ClusterMember) :
    ClusterMember → Prop
  | refuted (own : incoming.nodeId = settings.localNodeId) (accuses : incoming.Accuses)
      (late : table.members.localMember.incarnation ≤ incoming.incarnation) :
      Accepts table incoming (table.members.localMember.refuting incoming.incarnation)
  | learned (other : incoming.nodeId ≠ settings.localNodeId)
      (absent : table.get incoming.nodeId = none) : Accepts table incoming incoming
  | newer (other : incoming.nodeId ≠ settings.localNodeId) (current : ClusterMember)
      (found : table.get incoming.nodeId = some current)
      (newer : current.incarnation < incoming.incarnation) : Accepts table incoming incoming
  | worse (other : incoming.nodeId ≠ settings.localNodeId) (current : ClusterMember)
      (found : table.get incoming.nodeId = some current)
      (same : current.incarnation = incoming.incarnation)
      (worse : current.status < incoming.status) :
      Accepts table incoming (current.withStatus incoming.status)

variable {table : MembershipTable settings} {incoming member : ClusterMember}

theorem accepts_of_accepted (stores : table.accepted incoming = some member) :
    table.Accepts incoming member := by
  unfold accepted at stores
  split at stores
  · next own =>
    dsimp only at stores
    split at stores
    · next claim =>
      cases stores
      exact .refuted own claim.1 claim.2
    · cases stores
  · next other =>
    split at stores
    · next absent =>
      cases stores
      exact .learned other absent
    · next current found =>
      split at stores
      · cases stores
      · next notOlder =>
        split at stores
        · next newer =>
          cases stores
          exact .newer other current found newer
        · next notNewer =>
          split at stores
          · next worse =>
            cases stores
            exact .worse other current found
              (Nat.le_antisymm (Nat.not_lt.mp notOlder) (Nat.not_lt.mp notNewer)) worse
          · cases stores

theorem Accepts.nodeId (accepts : table.Accepts incoming member) :
    member.nodeId = incoming.nodeId := by
  cases accepts with
  | refuted own _ _ => exact table.members.nodeId_localMember.trans own.symm
  | learned _ _ => rfl
  | newer _ _ _ _ => rfl
  | worse _ current found _ _ =>
      have keyed : current.nodeId = incoming.nodeId := MemberMap.nodeId_of_get found
      exact keyed

/-- What is stored is later than what was there. -/
theorem Accepts.later (accepts : table.Accepts incoming member) {current : ClusterMember}
    (found : table.get member.nodeId = some current) :
    current.rank < member.rank ∧ current.Succeeds member := by
  rw [accepts.nodeId] at found
  have raised : current.incarnation < member.incarnation →
      current.rank < member.rank ∧ current.Succeeds member := by
    intro greater
    have ranks := ClusterMember.rank_lt_iff.mpr (.inl greater)
    exact ⟨ranks, ranks.le, fun _ => greater⟩
  cases accepts with
  | refuted own _ late =>
      refine raised ?_
      rw [own] at found
      cases table.members.get_localNodeId.symm.trans found
      exact Nat.lt_succ_of_le late
  | learned _ absent => cases absent.symm.trans found
  | newer _ other stored newer =>
      cases stored.symm.trans found
      exact raised newer
  | worse _ other stored same worse =>
      cases stored.symm.trans found
      exact ⟨ClusterMember.rank_lt_iff.mpr (.inr ⟨rfl, worse⟩), .worse worse⟩

/-- A record of the local node is stored as ALIVE only. -/
theorem Accepts.alive (accepts : table.Accepts incoming member)
    (own : member.nodeId = settings.localNodeId) : member.status = .alive := by
  rw [accepts.nodeId] at own
  cases accepts with
  | refuted _ _ _ => rfl
  | learned other _ => exact absurd own other
  | newer other _ _ _ => exact absurd own other
  | worse other _ _ _ _ => exact absurd own other

/-- One record of a merge. -/
theorem mergeOne_cases (table : MembershipTable settings) (now : Seconds)
    (incoming : ClusterMember) :
    table.mergeOne now incoming = (false, table) ∨
      ∃ member, table.Accepts incoming member ∧
        table.mergeOne now incoming = (true, table.record now member) := by
  unfold mergeOne
  cases stores : table.accepted incoming with
  | none => exact .inl rfl
  | some member => exact .inr ⟨member, accepts_of_accepted stores, rfl⟩

theorem get_record (table : MembershipTable settings) (now : Seconds) (member : ClusterMember)
    (id : NodeId) :
    (table.record now member).get id =
      if member.nodeId = id then some member else table.get id := by
  have moved := congrArg MemberView.member (table.view_record now member id)
  refine moved.trans ?_
  split
  · exact MemberView.member_record ..
  · rfl

/-- Every record of the earlier table has a successor in the later one. -/
def Retains (before after : MembershipTable settings) : Prop :=
  ∀ id old, before.get id = some old → ∃ new, after.get id = some new ∧ old.Succeeds new

theorem Retains.refl (table : MembershipTable settings) : table.Retains table :=
  fun _ old found => ⟨old, found, .refl old⟩

theorem Retains.trans {first second third : MembershipTable settings}
    (early : first.Retains second) (late : second.Retains third) : first.Retains third := by
  intro id old found
  obtain ⟨middle, kept, before⟩ := early id old found
  obtain ⟨new, stored, after⟩ := late id middle kept
  exact ⟨new, stored, before.trans after⟩

theorem retains_record (accepts : table.Accepts incoming member) (now : Seconds) :
    table.Retains (table.record now member) := by
  intro id old found
  rw [get_record]
  split
  · next same =>
    subst same
    exact ⟨member, rfl, (accepts.later found).2⟩
  · exact ⟨old, found, .refl old⟩

/-- What the loop of `merge` does: it only adds and replaces, and it reports a change
exactly when the members changed. -/
theorem mergeLoop_spec (table : MembershipTable settings) (changed : Bool)
    (records : List (Seconds × ClusterMember)) :
    table.Retains (table.mergeLoop changed records).2 ∧
      (table.mergeLoop changed records).2.version = table.version ∧
      ((table.mergeLoop changed records).1 = true ↔ changed = true ∨
        (table.mergeLoop changed records).2.members ≠ table.members) := by
  induction records generalizing table changed with
  | nil => exact ⟨.refl table, rfl, (or_iff_left (not_not.mpr rfl)).symm⟩
  | cons head rest ih =>
      obtain ⟨now, incoming⟩ := head
      rw [mergeLoop]
      rcases table.mergeOne_cases now incoming with same | ⟨member, accepts, stored⟩
      · rw [same]
        exact ih table changed
      · rw [stored]
        obtain ⟨kept, version, changes⟩ := ih (table.record now member) (true || changed)
        refine ⟨(retains_record accepts now).trans kept,
          version.trans (table.version_record now member), ?_⟩
        -- the record just stored, or a later one, is still there in the end
        have differs : ((table.record now member).mergeLoop (true || changed) rest).2.members ≠
            table.members := by
          intro same
          obtain ⟨final, there, later⟩ :=
            kept member.nodeId member (by rw [get_record, if_pos rfl])
          have found : table.get member.nodeId = some final :=
            (congrArg (MemberMap.get · member.nodeId) same).symm.trans there
          exact absurd later.rank (not_le.mpr (accepts.later found).1)
        exact iff_of_true (changes.mpr (.inl rfl)) (.inr differs)

/-- What `mark_suspect` does. -/
theorem markSuspect_cases (table : MembershipTable settings) (now : Seconds) (id : NodeId) :
    table.markSuspect now id = (false, table) ∨
      ∃ current, table.get id = some current ∧ id ≠ settings.localNodeId ∧
        current.status = .alive ∧
        table.markSuspect now id = bump (true, table.record now (current.withStatus .suspect)) := by
  unfold markSuspect
  cases found : table.get id with
  | none => exact .inl rfl
  | some current =>
      dsimp only
      split
      · exact .inl rfl
      · next other =>
        split
        · exact .inl rfl
        · next status => exact .inr ⟨current, rfl, other, not_not.mp status, rfl⟩

/-- What one call does to the members and the version. -/
structure Step (before after : MembershipTable settings) (changed : Bool) : Prop where
  retained : ∀ id old new, before.get id = some old → after.get id = some new → old.Succeeds new
  changes : changed = true ↔ after.members ≠ before.members
  version : after.version = before.version + if changed then 1 else 0

theorem Step.refl (table : MembershipTable settings) : table.Step table false where
  retained id old new found there := by
    cases found.symm.trans there
    exact .refl old
  changes := iff_of_false Bool.false_ne_true (not_not.mpr rfl)
  version := rfl

/-- A reported change adds one to the version. -/
theorem Step.bump {after : MembershipTable settings} {changed : Bool}
    (retained : ∀ id old new, table.get id = some old → after.get id = some new → old.Succeeds new)
    (changes : changed = true ↔ after.members ≠ table.members)
    (version : after.version = table.version) :
    table.Step (bump (changed, after)).2 (bump (changed, after)).1 := by
  have reported : (MembershipTable.bump (changed, after)).1 = changed := by cases changed <;> rfl
  refine ⟨fun id old new found there => retained id old new found ?_, ?_, ?_⟩
  · exact (congrArg (MemberMap.get · id) (members_bump (changed, after))).symm.trans there
  · rw [reported, members_bump]
    exact changes
  · rw [reported, version_bump, version]

theorem step_merge (table : MembershipTable settings) (records : List (Seconds × ClusterMember)) :
    table.Step (table.merge records).2 (table.merge records).1 := by
  obtain ⟨kept, version, changes⟩ := table.mergeLoop_spec false records
  refine Step.bump (fun id old new found there => ?_) ?_ version
  · obtain ⟨other, stored, later⟩ := kept id old found
    cases stored.symm.trans there
    exact later
  · exact changes.trans (or_iff_right Bool.false_ne_true)

theorem step_markSuspect (table : MembershipTable settings) (now : Seconds) (id : NodeId) :
    table.Step (table.markSuspect now id).2 (table.markSuspect now id).1 := by
  rcases table.markSuspect_cases now id with same | ⟨current, found, other, status, marked⟩
  · rw [same]
    exact .refl table
  · rw [marked]
    have keyed : current.nodeId = id := MemberMap.nodeId_of_get found
    have stored : ∀ key, (table.record now (current.withStatus .suspect)).get key =
        if id = key then some (current.withStatus .suspect) else table.get key := by
      intro key
      rw [get_record, ClusterMember.nodeId_withStatus, keyed]
    have worse : current.status < .suspect := status ▸ by decide
    refine Step.bump (fun key old new before after => ?_) ?_ (table.version_record now _)
    · rw [stored] at after
      split at after
      · next same =>
        subst same
        cases found.symm.trans before
        cases after
        exact .worse worse
      · cases before.symm.trans after
        exact .refl old
    · refine iff_of_true rfl fun same => ?_
      have there := (congrArg (MemberMap.get · id) same).symm.trans
        ((stored id).trans (if_pos rfl))
      have statuses := congrArg ClusterMember.status
        (Option.some.inj (found.symm.trans there))
      rw [status] at statuses
      cases statuses

theorem step_advance (table : MembershipTable settings) (now : Seconds) :
    table.Step (table.advanceTimeoutsAndPurge now).2 (table.advanceTimeoutsAndPurge now).1 := by
  have first : ∀ id, ((table.expireAll now).2.view id).member = table.get id ∨
      ∃ member, table.get id = some member ∧ member.status = .suspect ∧
        ((table.expireAll now).2.view id).member = some (member.withStatus .dead) := by
    intro id
    rw [view_expireAll]
    rcases (table.view id).member_expired settings now with same |
      ⟨member, _, found, status, _, _, moved⟩
    · exact .inl same
    · exact .inr ⟨member, found, status, congrArg MemberView.member moved⟩
  have second : ∀ id, ((purgeAll (table.expireAll now) now).2.view id).member =
      ((table.expireAll now).2.view id).member ∨
      (∃ member, ((table.expireAll now).2.view id).member = some member) ∧
        ((purgeAll (table.expireAll now) now).2.view id).member = none := by
    intro id
    rw [view_purgeAll]
    split
    · exact .inl rfl
    · rcases ((table.expireAll now).2.view id).member_purged settings now with
        same | ⟨member, _, found, _, _, _, gone⟩
      · exact .inl same
      · exact .inr ⟨⟨member, found⟩, gone⟩
  refine Step.bump (fun id old new found there => ?_) ?_ (table.version_advance now)
  · change ((purgeAll (table.expireAll now) now).2.view id).member = some new at there
    rcases second id with same | ⟨_, gone⟩
    · rw [same] at there
      rcases first id with same | ⟨member, before, status, after⟩
      · cases found.symm.trans (same.symm.trans there)
        exact .refl old
      · cases before.symm.trans found
        cases after.symm.trans there
        exact .worse (status ▸ by decide)
    · cases gone.symm.trans there
  · change (purgeAll (table.expireAll now) now).1 = true ↔
      (purgeAll (table.expireAll now) now).2.members ≠ table.members
    rw [purgeAll_reports, expireAll_reports, Ne, members_eq_iff, not_forall, ← exists_or]
    refine exists_congr fun id => ⟨?_, fun differs => ?_⟩
    · rintro (expires | purges) same
      · rcases first id with kept | ⟨member, before, status, after⟩
        · exact expires kept
        · rcases second id with kept | ⟨_, gone⟩
          · have statuses := congrArg ClusterMember.status
              (Option.some.inj (before.symm.trans (same.symm.trans (kept.trans after))))
            rw [status] at statuses
            cases statuses
          · cases before.symm.trans (same.symm.trans gone)
      · rcases second id with kept | ⟨⟨member, there⟩, gone⟩
        · exact purges kept
        · rcases first id with kept | ⟨other, before, _, _⟩
          · cases gone.symm.trans (same.trans (kept.symm.trans there))
          · cases gone.symm.trans (same.trans before)
    · by_contra none
      obtain ⟨expires, purges⟩ := not_or.mp none
      exact differs ((not_not.mp purges).trans (not_not.mp expires))

theorem step_call (table : MembershipTable settings) (call : TableCall) :
    table.Step (table.call call).2 (table.call call).1 := by
  cases call with
  | merge records => exact table.step_merge records
  | markSuspect now id => exact table.step_markSuspect now id
  | advance now => exact table.step_advance now

/-- What the timeouts make of the record of a node. -/
theorem get_advance (table : MembershipTable settings) (now : Seconds) (id : NodeId) :
    (table.advanceTimeoutsAndPurge now).2.get id = ((table.view id).expired settings now).member ∨
      ∃ member since, ((table.view id).expired settings now).member = some member ∧
        ((table.view id).expired settings now).deadAt = some since ∧
        settings.deadRetentionSeconds ≤ now - since ∧
        (table.advanceTimeoutsAndPurge now).2.get id = none := by
  have moved := congrArg MemberView.member (table.view_advance now id)
  change (table.advanceTimeoutsAndPurge now).2.get id = _ at moved
  rw [moved]
  split
  · exact .inl rfl
  · rcases MemberView.member_purged settings now ((table.view id).expired settings now) with
      same | ⟨member, since, found, _, timer, due, gone⟩
    · exact .inl same
    · exact .inr ⟨member, since, found, timer, due, gone⟩

/-- The later table has only records of the earlier one, up to their status. -/
def Restated (before after : MembershipTable settings) : Prop :=
  ∀ id new, after.get id = some new →
    ∃ old status, before.get id = some old ∧ new = old.withStatus status

theorem restated_markSuspect (table : MembershipTable settings) (now : Seconds) (id : NodeId) :
    table.Restated (table.markSuspect now id).2 := by
  intro key new found
  rcases table.markSuspect_cases now id with same | ⟨current, stored, _, _, marked⟩
  · rw [same] at found
    exact ⟨new, new.status, found, rfl⟩
  · have keyed : current.nodeId = id := MemberMap.nodeId_of_get stored
    rw [marked] at found
    replace found := (table.get_record now (current.withStatus .suspect) key).symm.trans found
    split at found
    · next same =>
      cases found
      have here : id = key := keyed.symm.trans same
      exact ⟨current, .suspect, here ▸ stored, rfl⟩
    · exact ⟨new, new.status, found, rfl⟩

theorem restated_advance (table : MembershipTable settings) (now : Seconds) :
    table.Restated (table.advanceTimeoutsAndPurge now).2 := by
  intro id new found
  rcases table.get_advance now id with same | ⟨_, _, _, _, _, gone⟩
  · rcases (table.view id).member_expired settings now with
      kept | ⟨member, _, stored, _, _, _, moved⟩
    · exact ⟨new, new.status, kept.symm.trans (same.symm.trans found), rfl⟩
    · rw [moved] at same
      cases found.symm.trans same
      exact ⟨member, .dead, stored, rfl⟩
  · cases gone.symm.trans found

theorem mem_snapshot {member : ClusterMember} :
    member ∈ table.snapshot ↔ ∃ id, table.get id = some member := by
  unfold snapshot
  rw [List.mem_map]
  constructor
  · rintro ⟨⟨id, _⟩, listed, rfl⟩
    exact ⟨id, SortedMap.mem_items_iff.mp listed⟩
  · rintro ⟨id, found⟩
    exact ⟨(id, member), SortedMap.mem_items_iff.mpr found, rfl⟩

/-- The timers are in order and the local member is ALIVE. -/
structure Sound (table : MembershipTable settings) : Prop where
  views : ∀ id, (table.view id).Sound
  own : table.members.localMember.status = .alive

theorem Sound.of_view {after : MembershipTable settings} (views : ∀ id, (after.view id).Sound)
    {own : ClusterMember} (found : after.get settings.localNodeId = some own)
    (alive : own.status = .alive) : after.Sound := by
  refine ⟨views, ?_⟩
  rw [Option.some.inj (after.members.get_localNodeId.symm.trans found)]
  exact alive

theorem Sound.get_own (sound : table.Sound) :
    ∃ own, table.get settings.localNodeId = some own ∧ own.status = .alive :=
  ⟨_, table.members.get_localNodeId, sound.own⟩

theorem Sound.bump {state : Bool × MembershipTable settings} (sound : state.2.Sound) :
    (bump state).2.Sound := by
  obtain ⟨own, found, alive⟩ := sound.get_own
  refine .of_view (fun id => view_bump state ▸ sound.views id) ?_ alive
  exact (congrArg (MemberMap.get · _) (members_bump state)).trans found

theorem Sound.record (sound : table.Sound) (now : Seconds)
    (alive : member.nodeId = settings.localNodeId → member.status = .alive) :
    (table.record now member).Sound := by
  obtain ⟨own, found, ownAlive⟩ := sound.get_own
  have views : ∀ id, ((table.record now member).view id).Sound := by
    intro id
    rw [view_record]
    split
    · exact MemberView.sound_record ..
    · exact sound.views id
  have there := table.get_record now member settings.localNodeId
  by_cases same : member.nodeId = settings.localNodeId
  · rw [if_pos same] at there
    exact .of_view views there (alive same)
  · rw [if_neg same] at there
    exact .of_view views (there.trans found) ownAlive

theorem Sound.mergeLoop (sound : table.Sound) (changed : Bool)
    (records : List (Seconds × ClusterMember)) : (table.mergeLoop changed records).2.Sound := by
  induction records generalizing table changed with
  | nil => exact sound
  | cons head rest ih =>
      obtain ⟨now, incoming⟩ := head
      rw [MembershipTable.mergeLoop]
      rcases table.mergeOne_cases now incoming with same | ⟨member, accepts, stored⟩
      · rw [same]
        exact ih sound changed
      · rw [stored]
        exact ih (sound.record now accepts.alive) _

theorem Sound.advance (sound : table.Sound) (now : Seconds) :
    (table.advanceTimeoutsAndPurge now).2.Sound := by
  obtain ⟨own, found, alive⟩ := sound.get_own
  refine .of_view (fun id => ?_) ?_ alive
  · rw [view_advance]
    split
    · exact (sound.views id).expired
    · exact (sound.views id).expired.purged
  · have moved := congrArg MemberView.member (table.view_advance now settings.localNodeId)
    rw [if_pos rfl] at moved
    refine moved.trans ?_
    rcases (table.view settings.localNodeId).member_expired settings now with
      same | ⟨member, _, there, status, _⟩
    · exact same.trans found
    · cases there.symm.trans found
      cases status.symm.trans alive

theorem Sound.call (sound : table.Sound) (call : TableCall) : (table.call call).2.Sound := by
  cases call with
  | merge records => exact (sound.mergeLoop false records).bump
  | markSuspect now id =>
      change (table.markSuspect now id).2.Sound
      rcases table.markSuspect_cases now id with same | ⟨current, found, other, _, marked⟩
      · rw [same]
        exact sound
      · rw [marked]
        have keyed : current.nodeId = id := MemberMap.nodeId_of_get found
        have marks : (table.record now (current.withStatus .suspect)).Sound :=
          sound.record now fun own => absurd own (keyed ▸ other)
        exact @Sound.bump settings (true, _) marks
  | advance now => exact sound.advance now

theorem get_fresh (settings : MembershipSettings) (member : ClusterMember)
    (same : member.nodeId = settings.localNodeId) (id : NodeId) :
    (fresh settings member same).get id = if member.nodeId = id then some member else none := by
  change (SortedMap.empty.insert member.nodeId member).get? id = _
  by_cases own : member.nodeId = id
  · rw [if_pos own, SortedMap.get?_insert, if_pos own]
  · rw [if_neg own, SortedMap.get?_insert_of_ne _ _ own]
    rfl

theorem sound_fresh {own : ClusterMember} (same : own.nodeId = settings.localNodeId)
    (alive : own.status = .alive) : (fresh settings own same).Sound := by
  refine .of_view (fun id => ?_) ((get_fresh settings own same _).trans (if_pos same)) alive
  unfold view
  rw [get_fresh]
  split
  · exact .alive own alive
  · exact .absent

/-- The invariant holds after any sequence of calls. -/
theorem Sound.after (sound : table.Sound) (calls : List TableCall) : (table.after calls).Sound := by
  induction calls generalizing table with
  | nil => exact sound
  | cons call rest ih => exact ih (sound.call call)

/-- The view of the local node has no timers. -/
theorem Sound.view_own (sound : table.Sound) :
    table.view settings.localNodeId = ⟨some table.members.localMember, none, none⟩ := by
  have timers := sound.views settings.localNodeId
  have found : (table.view settings.localNodeId).member = some table.members.localMember :=
    table.members.get_localNodeId
  generalize table.view settings.localNodeId = view at timers found
  cases timers with
  | absent => cases found
  | alive member status =>
      cases found
      rfl
  | suspect member status since =>
      cases found
      cases status.symm.trans sound.own
  | dead member status since =>
      cases found
      cases status.symm.trans sound.own

/-- After the timeouts have been advanced no timer is due. -/
theorem Sound.undue_advance (sound : table.Sound) (now : Seconds) (id : NodeId) :
    ((table.advanceTimeoutsAndPurge now).2.view id).Undue settings now := by
  rw [view_advance]
  split
  · next own =>
    rw [own, sound.view_own]
    exact ⟨nofun, nofun⟩
  · exact MemberView.undue settings now (table.view id)

/-- A member that is retained throughout a sequence of calls has a record at the end that
succeeds the one at the start. -/
theorem succeeds_after {calls : List TableCall} {id : NodeId} {old new : ClusterMember}
    (retained : ∀ start, start <+: calls → ((table.after start).get id).isSome)
    (before : table.get id = some old) (there : (table.after calls).get id = some new) :
    old.Succeeds new := by
  induction calls generalizing table old with
  | nil =>
      cases before.symm.trans there
      exact .refl _
  | cons call rest ih =>
      have one : [call] <+: call :: rest := ⟨rest, rfl⟩
      obtain ⟨middle, found⟩ := Option.isSome_iff_exists.mp (retained [call] one)
      have first := (table.step_call call).retained id old middle before found
      refine first.trans (ih (fun start listed => ?_) found there)
      exact retained (call :: start) ((List.prefix_cons_inj call).mpr listed)

/-- In every state that calls reach from a fresh table, the timers are those of the SUSPECT
and of the DEAD members, so that advancing the timeouts leaves no member that is due; the
local member is there and ALIVE, and its incarnation does not fall; the record of a member
that is retained is succeeded by later ones only; and a call adds to the version exactly
when it changes the members. -/
theorem membership_table_invariant (settings : MembershipSettings) (own : ClusterMember)
    (same : own.nodeId = settings.localNodeId) (alive : own.status = .alive)
    (calls : List TableCall) :
    let table := (fresh settings own same).after calls
    (∀ id, (table.suspectedAt.get? id).isSome ↔
      ∃ member, table.get id = some member ∧ member.status = .suspect) ∧
    (∀ id, (table.deadAt.get? id).isSome ↔
      ∃ member, table.get id = some member ∧ member.status = .dead) ∧
    (∀ now id, ((table.advanceTimeoutsAndPurge now).2.view id).Undue settings now) ∧
    (∀ later, ∃ current, table.get settings.localNodeId = some current ∧ current.status = .alive ∧
      ∃ final, (table.after later).get settings.localNodeId = some final ∧
        current.incarnation ≤ final.incarnation) ∧
    (∀ later id old new, (∀ start, start <+: later → ((table.after start).get id).isSome) →
      table.get id = some old → (table.after later).get id = some new →
      old.rank ≤ new.rank ∧ (old.address ≠ new.address → old.incarnation < new.incarnation)) ∧
    ∀ call, table.version < (table.call call).2.version ↔
      (table.call call).2.members ≠ table.members := by
  intro table
  have sound : table.Sound := (sound_fresh same alive).after calls
  refine ⟨fun id => (sound.views id).timers.1, fun id => (sound.views id).timers.2,
    fun now id => sound.undue_advance now id, fun later => ?_, ?_, fun call => ?_⟩
  · obtain ⟨current, found, status⟩ := sound.get_own
    obtain ⟨final, there, _⟩ := (sound.after later).get_own
    refine ⟨current, found, status, final, there, ?_⟩
    refine (succeeds_after (fun start _ => ?_) found there).incarnation
    obtain ⟨_, kept, _⟩ := (sound.after start).get_own
    exact Option.isSome_iff_exists.mpr ⟨_, kept⟩
  · intro later id old new retained before there
    have succeeds := succeeds_after retained before there
    exact ⟨succeeds.rank, succeeds.address⟩
  · have step := table.step_call call
    rw [← step.changes, step.version]
    cases (table.call call).1 with
    | true => exact iff_of_true (Nat.lt_succ_self _) rfl
    | false => exact iff_of_false (lt_irrefl _) Bool.false_ne_true

/-- A node that suspects its peers for ten seconds and remembers the dead for thirty. -/
def loneSettings : MembershipSettings :=
  ⟨.letter 97, 10, 30, by decide, by decide⟩

/-- Its record of itself. -/
def loneMember : ClusterMember :=
  ⟨.letter 97, [104], 7000, .alive, 1, PyStr.letter_ne_nil 104, by decide, Nat.one_pos⟩

/-- The table of the node when it starts. -/
theorem loneMember_own : loneMember.nodeId = loneSettings.localNodeId := rfl

/-- Its table when it starts. -/
def loneTable : MembershipTable loneSettings := fresh loneSettings loneMember loneMember_own

/-- The name of a peer. -/
def peerId : NodeId := .letter 98

/-- A record of a peer, one incarnation after the given one. -/
def peerMember (status : MemberStatus) (previous : Nat) : ClusterMember :=
  ⟨peerId, [104], 7001, status, previous + 1, loneMember.hosted, by decide, Nat.succ_pos previous⟩

theorem membership_table_invariant_lone :
    loneMember.nodeId = loneSettings.localNodeId ∧ loneMember.status = .alive ∧
      ∀ call, 2 < ((loneTable.after [.merge [(0, peerMember .suspect 0)]]).call call).2.version ↔
        ((loneTable.after [.merge [(0, peerMember .suspect 0)]]).call call).2.members ≠
          (loneTable.after [.merge [(0, peerMember .suspect 0)]]).members :=
  ⟨rfl, rfl, (membership_table_invariant loneSettings loneMember rfl rfl
    [.merge [(0, peerMember .suspect 0)]]).2.2.2.2.2⟩

end MembershipTable

end Distsys
