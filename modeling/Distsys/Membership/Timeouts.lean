import Mathlib.Tactic.Linarith
import Distsys.Lib.Timeline
import Distsys.Membership.Invariant

/-!
# Timeouts

A timer that is running should have been started when the table began to hold the record
that it is about. It keeps an earlier start when a record of one status is replaced by a
newer one of the same status, because `setdefault` finds the timer of the older record. In
a run without such a replacement no member is timed out early.
-/

namespace Distsys

namespace MemberView

/-- The timers of the later view: those of the earlier one with its record, and one that a
member that has just died has started. -/
structure Carries (now : Seconds) (old new : MemberView) : Prop where
  suspected : ∀ since, new.suspectedAt = some since →
    old.suspectedAt = some since ∧ new.member = old.member
  dead : ∀ since, new.deadAt = some since →
    (old.deadAt = some since ∧ new.member = old.member) ∨
      (since = now ∧ ∃ member, new.member = some member ∧ member.status = .dead)

theorem Carries.refl (now : Seconds) (view : MemberView) : view.Carries now view :=
  ⟨fun _ runs => ⟨runs, rfl⟩, fun _ runs => .inl ⟨runs, rfl⟩⟩

variable {settings : MembershipSettings} {now : Seconds} {view : MemberView}

theorem carries_expired (settings : MembershipSettings) (now : Seconds) (view : MemberView) :
    view.Carries now (view.expired settings now) := by
  have result := view.expires settings now
  generalize view.expired settings now = next at result ⊢
  cases result with
  | early => exact .refl now view
  | stopped => exact ⟨nofun, fun _ runs => .inl ⟨runs, rfl⟩⟩
  | died =>
      refine ⟨nofun, ?_⟩
      rintro _ ⟨⟩
      exact .inr ⟨rfl, _, rfl, rfl⟩

theorem Carries.purged {old : MemberView} (carries : old.Carries now view)
    (suspects : ∀ since, view.suspectedAt = some since →
      ∃ member, view.member = some member ∧ member.status = .suspect) :
    old.Carries now (view.purged settings now) := by
  have result := view.purges settings now
  generalize view.purged settings now = next at result ⊢
  cases result with
  | early => exact carries
  | stopped => exact ⟨carries.suspected, nofun⟩
  | gone member _ found status =>
      refine ⟨fun since runs => ?_, nofun⟩
      obtain ⟨other, there, suspected⟩ := suspects since runs
      cases found.symm.trans there
      cases status.symm.trans suspected

end MemberView

namespace MembershipTable

variable {settings : MembershipSettings}

/-- The moments of the loop of `merge`: the table after each record. -/
def mergeMoments (table : MembershipTable settings) :
    List (Seconds × ClusterMember) → List (Seconds × MembershipTable settings)
  | [] => []
  | (now, incoming) :: rest =>
      let table := (table.mergeOne now incoming).2
      (now, table) :: table.mergeMoments rest

/-- The moments of a call. -/
def moments (table : MembershipTable settings) :
    TableCall → List (Seconds × MembershipTable settings)
  | .merge records => table.mergeMoments records
  | .markSuspect now id => [(now, (table.markSuspect now id).2)]
  | .advance now => [(now, (table.advanceTimeoutsAndPurge now).2)]

/-- The moments of a sequence of calls. -/
def timeline (table : MembershipTable settings) :
    List TableCall → List (Seconds × MembershipTable settings)
  | [] => []
  | call :: rest => table.moments call ++ (table.call call).2.timeline rest

/-- The record replaces an older one of the same node and the same status, SUSPECT or DEAD. -/
def Overtakes (table : MembershipTable settings) (incoming : ClusterMember) : Prop :=
  incoming.nodeId ≠ settings.localNodeId ∧ incoming.Accuses ∧
    ∃ current, table.get incoming.nodeId = some current ∧ current.status = incoming.status ∧
      current.incarnation < incoming.incarnation

/-- No record overtakes the one in the table when it is merged. -/
def MergesInTurn (table : MembershipTable settings) : List (Seconds × ClusterMember) → Prop
  | [] => True
  | (now, incoming) :: rest =>
      ¬ table.Overtakes incoming ∧ (table.mergeOne now incoming).2.MergesInTurn rest

/-- No merge of the calls overtakes a record. -/
def InTurn (table : MembershipTable settings) : List TableCall → Prop
  | [] => True
  | .merge records :: rest => table.MergesInTurn records ∧ (table.merge records).2.InTurn rest
  | .markSuspect now id :: rest => (table.markSuspect now id).2.InTurn rest
  | .advance now :: rest => (table.advanceTimeoutsAndPurge now).2.InTurn rest

/-- The table holds a record of the node with the status and the incarnation. -/
def Holds (id : NodeId) (status : MemberStatus) (incarnation : Nat)
    (table : MembershipTable settings) : Prop :=
  ∃ member, table.get id = some member ∧ member.status = status ∧ member.incarnation = incarnation

/-- The timer, if it runs, is about the record in the view and was started when the table
began to hold it. -/
def Started (past : List (Seconds × MembershipTable settings)) (id : NodeId) (status : MemberStatus)
    (member : Option ClusterMember) (timer : Option Seconds) : Prop :=
  ∀ since, timer = some since → ∃ current, member = some current ∧ current.status = status ∧
    HeldSince past since (Holds id status current.incarnation)

/-- Every timer was started when the table began to hold the record it is about. -/
structure Timed (past : List (Seconds × MembershipTable settings))
    (table : MembershipTable settings) :
    Prop where
  suspected : ∀ id, Started past id .suspect (table.view id).member (table.view id).suspectedAt
  dead : ∀ id, Started past id .dead (table.view id).member (table.view id).deadAt

variable {past : List (Seconds × MembershipTable settings)} {table final : MembershipTable settings}
  {now : Seconds} {id : NodeId} {status : MemberStatus}

theorem Timed.congr (timed : table.Timed past) (same : final.view = table.view) :
    final.Timed past := by
  refine ⟨?_, ?_⟩
  · rw [same]
    exact timed.suspected
  · rw [same]
    exact timed.dead

/-- A timer that goes on running with its record. -/
theorem Started.extend {member : Option ClusterMember} {timer : Option Seconds}
    (started : Started past id status member timer) (same : final.get id = member) (now : Seconds) :
    Started (past ++ [(now, final)]) id status member timer := by
  intro since runs
  obtain ⟨current, found, held, since⟩ := started since runs
  exact ⟨current, found, held, since.extend ⟨current, same.trans found, held, rfl⟩⟩

/-- A timer that has just been started. -/
theorem started_now {member : ClusterMember} (same : final.get id = some member)
    (held : member.status = status) :
    Started (past ++ [(now, final)]) id status (some member) (some now) := by
  rintro _ ⟨⟩
  exact ⟨member, rfl, held, .last ⟨member, same, held, rfl⟩⟩

theorem started_none {member : Option ClusterMember} : Started past id status member none :=
  nofun

/-- The view of a node that one moment leaves alone. -/
theorem Timed.unmoved (timed : table.Timed past) (same : final.view id = table.view id) :
    Started (past ++ [(now, final)]) id .suspect (final.view id).member
      (final.view id).suspectedAt ∧
      Started (past ++ [(now, final)]) id .dead (final.view id).member (final.view id).deadAt := by
  have kept : final.get id = (table.view id).member := congrArg MemberView.member same
  rw [same]
  exact ⟨(timed.suspected id).extend kept now, (timed.dead id).extend kept now⟩

/-- What every view has, the table has. -/
theorem timed_of_views (each : ∀ id,
    Started past id .suspect (table.view id).member (table.view id).suspectedAt ∧
      Started past id .dead (table.view id).member (table.view id).deadAt) : table.Timed past :=
  ⟨fun id => (each id).1, fun id => (each id).2⟩

/-- Storing a record starts a timer, unless a record of the status was there before. -/
theorem Timed.record (timed : table.Timed past) {member : ClusterMember}
    (stored : final.view = (table.record now member).view)
    (turns : ∀ current, table.get member.nodeId = some current → member.Accuses →
      current.status ≠ member.status) :
    final.Timed (past ++ [(now, final)]) := by
  refine timed_of_views fun id => ?_
  have moved := (congrFun stored id).trans (table.view_record now member id)
  by_cases same : member.nodeId = id
  · subst same
    rw [if_pos rfl] at moved
    have there : final.get member.nodeId = some member :=
      (congrArg MemberView.member moved).trans (MemberView.member_record ..)
    rw [moved]
    unfold MemberView.record
    -- no timer of the new status was running, so it starts now
    cases held : member.status with
    | alive => exact ⟨started_none, started_none⟩
    | suspect =>
        have idle : (table.view member.nodeId).suspectedAt = none := by
          by_contra runs
          obtain ⟨since, runs⟩ := Option.ne_none_iff_exists'.mp runs
          obtain ⟨current, found, before, _⟩ := timed.suspected _ since runs
          exact turns current found (.inl held) (before.trans held.symm)
        dsimp only
        rw [idle]
        exact ⟨started_now there held, started_none⟩
    | dead =>
        have idle : (table.view member.nodeId).deadAt = none := by
          by_contra runs
          obtain ⟨since, runs⟩ := Option.ne_none_iff_exists'.mp runs
          obtain ⟨current, found, before, _⟩ := timed.dead _ since runs
          exact turns current found (.inr held) (before.trans held.symm)
        dsimp only
        rw [idle]
        exact ⟨started_none, started_now there held⟩
  · rw [if_neg same] at moved
    exact timed.unmoved moved

theorem Timed.mergeOne (timed : table.Timed past) {incoming : ClusterMember}
    (turn : ¬ table.Overtakes incoming) :
    (table.mergeOne now incoming).2.Timed (past ++ [(now, (table.mergeOne now incoming).2)]) := by
  rcases table.mergeOne_cases now incoming with same | ⟨member, accepts, stored⟩
  · rw [same]
    exact timed_of_views fun id => timed.unmoved rfl
  · rw [stored]
    refine timed.record rfl fun current found accuses same => ?_
    rw [accepts.nodeId] at found
    cases accepts with
    | refuted _ _ _ => exact ClusterMember.accuses_iff.mp accuses rfl
    | learned _ absent => cases absent.symm.trans found
    | newer other old there newer =>
        cases there.symm.trans found
        exact turn ⟨other, accuses, current, found, same, newer⟩
    | worse _ old there _ worse =>
        cases there.symm.trans found
        exact worse.ne same

/-- The whole of a merge. -/
theorem Timed.mergeLoop (timed : table.Timed past) {records : List (Seconds × ClusterMember)}
    (turns : table.MergesInTurn records) (changed : Bool) :
    (table.mergeLoop changed records).2.Timed (past ++ table.mergeMoments records) := by
  induction records generalizing table past changed with
  | nil => exact (List.append_nil past).symm ▸ timed
  | cons head rest ih =>
      obtain ⟨now, incoming⟩ := head
      obtain ⟨turn, turns⟩ := turns
      have whole := ih (timed.mergeOne turn) turns ((table.mergeOne now incoming).1 || changed)
      rw [List.append_assoc] at whole
      exact whole

theorem Timed.markSuspect (timed : table.Timed past) (id : NodeId) :
    (table.markSuspect now id).2.Timed (past ++ [(now, (table.markSuspect now id).2)]) := by
  rcases table.markSuspect_cases now id with same | ⟨current, found, _, alive, marked⟩
  · rw [same]
    exact timed_of_views fun id => timed.unmoved rfl
  · rw [marked]
    refine timed.record (view_bump _) fun other there _ same => ?_
    have keyed : current.nodeId = id := MemberMap.nodeId_of_get found
    rw [ClusterMember.nodeId_withStatus, keyed] at there
    cases found.symm.trans there
    cases alive.symm.trans same

theorem Timed.suspects (timed : table.Timed past) {since : Seconds}
    (runs : (table.view id).suspectedAt = some since) :
    ∃ member, (table.view id).member = some member ∧ member.status = .suspect := by
  obtain ⟨member, found, held, _⟩ := timed.suspected id since runs
  exact ⟨member, found, held⟩

/-- The timers after the timeouts have been advanced. -/
theorem Timed.carries (timed : table.Timed past) (now : Seconds) (id : NodeId) :
    (table.view id).Carries now ((table.advanceTimeoutsAndPurge now).2.view id) := by
  have expires := (table.view id).carries_expired settings now
  rw [view_advance]
  split
  · exact expires
  · refine expires.purged fun since runs => ?_
    obtain ⟨before, same⟩ := expires.suspected since runs
    rw [same]
    exact timed.suspects before

/-- A member that dies starts a new timer; what has neither died nor gone keeps its own. -/
theorem Timed.advance (timed : table.Timed past) :
    (table.advanceTimeoutsAndPurge now).2.Timed
      (past ++ [(now, (table.advanceTimeoutsAndPurge now).2)]) := by
  refine timed_of_views fun id => ?_
  have carries := timed.carries now id
  refine ⟨fun since runs => ?_, fun since runs => ?_⟩
  · obtain ⟨before, same⟩ := carries.suspected since runs
    have goes := (timed.suspected id).extend same now
    exact same ▸ goes since before
  · rcases carries.dead since runs with ⟨before, same⟩ | ⟨rfl, member, there, dead⟩
    · have goes := (timed.dead id).extend same now
      exact same ▸ goes since before
    · rw [there]
      exact started_now there dead since rfl

theorem Timed.call (timed : table.Timed past) {call : TableCall} {rest : List TableCall}
    (turns : table.InTurn (call :: rest)) :
    (table.call call).2.Timed (past ++ table.moments call) ∧ (table.call call).2.InTurn rest := by
  cases call with
  | merge records =>
      obtain ⟨merges, turns⟩ := turns
      exact ⟨(timed.mergeLoop merges false).congr (view_bump _), turns⟩
  | markSuspect now id => exact ⟨timed.markSuspect id, turns⟩
  | advance now => exact ⟨timed.advance, turns⟩

/-- Every timer of a run without overtaking was started in time. -/
theorem Timed.after {calls : List TableCall} (timed : table.Timed past)
    (turns : table.InTurn calls) : (table.after calls).Timed (past ++ table.timeline calls) := by
  induction calls generalizing table past with
  | nil => exact (List.append_nil past).symm ▸ timed
  | cons call rest ih =>
      obtain ⟨timed, turns⟩ := timed.call turns
      have whole := ih timed turns
      rw [List.append_assoc] at whole
      exact whole

/-- The table had held such a record for a time when the clock read `now`. -/
def HeldFor (past : List (Seconds × MembershipTable settings)) (now duration : Seconds)
    (holds : MembershipTable settings → Prop) : Prop :=
  ∃ since, duration ≤ now - since ∧ HeldSince past since holds

theorem Timed.died (timed : table.Timed past) {old new : ClusterMember}
    (before : table.get id = some old) (living : old.status ≠ .dead)
    (there : (table.advanceTimeoutsAndPurge now).2.get id = some new) (dead : new.status = .dead) :
    HeldFor past now settings.suspicionTimeoutSeconds (Holds id .suspect new.incarnation) := by
  rcases table.get_advance now id with same | ⟨_, _, _, _, _, gone⟩
  · rcases (table.view id).member_expired settings now with
      kept | ⟨member, since, found, _, timer, due, moved⟩
    · -- the record stayed, but it was not DEAD before
      cases before.symm.trans (kept.symm.trans (same.symm.trans there))
      exact absurd dead living
    · rw [moved] at same
      cases there.symm.trans same
      obtain ⟨current, stored, _, held⟩ := timed.suspected id since timer
      cases found.symm.trans stored
      exact ⟨since, due, held⟩
  · cases gone.symm.trans there

theorem Timed.purged (timed : table.Timed past) {old : ClusterMember}
    (before : table.get id = some old)
    (gone : (table.advanceTimeoutsAndPurge now).2.get id = none) :
    HeldFor past now settings.deadRetentionSeconds (Holds id .dead old.incarnation) := by
  rcases table.get_advance now id with same | ⟨member, since, found, timer, due, _⟩
  · rcases (table.view id).member_expired settings now with kept | ⟨_, _, _, _, _, _, moved⟩
    · cases before.symm.trans (kept.symm.trans (same.symm.trans gone))
    · rw [moved] at same
      cases gone.symm.trans same
  · rcases ((table.view id).carries_expired settings now).dead since timer with
      ⟨running, kept⟩ | ⟨rfl, _⟩
    · obtain ⟨current, stored, _, held⟩ := timed.dead id since running
      cases before.symm.trans stored
      exact ⟨since, due, held⟩
    · -- a member that has just died is not due
      have positive := settings.suspicion_pos.trans settings.retention
      linarith

theorem timed_fresh (own : ClusterMember) (same : own.nodeId = settings.localNodeId)
    (past : List (Seconds × MembershipTable settings)) :
    (fresh settings own same).Timed past :=
  ⟨fun _ => nofun, fun _ => nofun⟩

/-- In every run in which no merge replaces a SUSPECT or DEAD record by a newer one of the
same status, a member is declared dead only after the table has held it as SUSPECT at its
incarnation for the suspicion timeout, and it is purged only after the table has held it as
DEAD at its incarnation for the retention. The past starts with the fresh table. -/
theorem no_early_timeout (settings : MembershipSettings) (own : ClusterMember)
    (same : own.nodeId = settings.localNodeId) (start : Seconds) (calls : List TableCall)
    (turns : (fresh settings own same).InTurn calls) (now : Seconds) (id : NodeId) :
    let past := (start, fresh settings own same) :: (fresh settings own same).timeline calls
    let table := (fresh settings own same).after calls
    let next := (table.advanceTimeoutsAndPurge now).2
    (∀ old new, table.get id = some old → old.status ≠ .dead → next.get id = some new →
      new.status = .dead →
      HeldFor past now settings.suspicionTimeoutSeconds (Holds id .suspect new.incarnation)) ∧
    ∀ old, table.get id = some old → next.get id = none →
      HeldFor past now settings.deadRetentionSeconds (Holds id .dead old.incarnation) := by
  intro past table next
  have timed : table.Timed past := (timed_fresh own same [(start, _)]).after turns
  exact ⟨fun old new before living there dead => timed.died before living there dead,
    fun old before gone => timed.purged before gone⟩

/-- The peer is suspected, and declared dead when the timeout is over. -/
theorem no_early_timeout_lone :
    loneTable.InTurn [.merge [(0, peerMember .suspect 0)]] ∧
      ((loneTable.after [.merge [(0, peerMember .suspect 0)]]).advanceTimeoutsAndPurge 10).2.get
        peerId = some (peerMember .dead 0) ∧
      HeldFor ((0, loneTable) :: loneTable.timeline [.merge [(0, peerMember .suspect 0)]])
        10 10 (Holds peerId .suspect 1) := by
  have turns : loneTable.InTurn [.merge [(0, peerMember .suspect 0)]] := by
    refine ⟨⟨?_, trivial⟩, trivial⟩
    rintro ⟨_, _, current, found, _⟩
    cases found
  have died : ((loneTable.after [.merge [(0, peerMember .suspect 0)]]).advanceTimeoutsAndPurge
      10).2.get peerId = some (peerMember .dead 0) := by decide +kernel
  refine ⟨turns, died, ?_⟩
  exact (no_early_timeout loneSettings loneMember rfl 0 _ turns 10 peerId).1
    (peerMember .suspect 0) (peerMember .dead 0) (by decide +kernel) (by decide) died rfl

/-- The peer is suspected at its first incarnation. Its second incarnation is suspected nine
seconds later, and declared dead after one second. -/
theorem overtaking_times_out_early :
    let calls : List TableCall :=
      [.merge [(0, peerMember .suspect 0)], .merge [(9, peerMember .suspect 1)]]
    let past := (0, loneTable) :: loneTable.timeline calls
    let table := loneTable.after calls
    (past.map Prod.fst ++ [10]).Pairwise (· ≤ ·) ∧
      table.get peerId = some (peerMember .suspect 1) ∧
      (table.advanceTimeoutsAndPurge 10).2.get peerId = some (peerMember .dead 1) ∧
      ¬ HeldFor past 10 10 (Holds peerId .suspect 2) := by
  intro calls past table
  refine ⟨by decide +kernel, by decide +kernel, by decide +kernel, ?_⟩
  rintro ⟨since, due, held⟩
  obtain ⟨state, listed, member, found, _, incarnation⟩ := held.exists_mem
  have early : ∀ moment ∈ past, moment.1 ≤ 0 →
      ∀ member ∈ moment.2.get peerId, member.incarnation ≠ 2 := by decide +kernel
  exact early _ listed (by linarith) member found incarnation

end MembershipTable

end Distsys
