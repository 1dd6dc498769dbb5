import Distsys.Membership.Table

/-!
# What a table holds of one node

The record of a node with its two timers is a `MemberView`. Every call moves each view on
its own: a record that is stored moves the view of its node, the two loops over the timers
move every view once. What a call does is therefore said here node by node, and once.
-/

namespace Distsys

/-- What a table holds of one node. -/
@[ext]
structure MemberView where
  member : Option ClusterMember
  suspectedAt : Option Seconds
  deadAt : Option Seconds

namespace MemberView

/-- The view after a record has been stored. -/
def record (view : MemberView) (now : Seconds) (member : ClusterMember) : MemberView :=
  match member.status with
  | .alive => ⟨some member, none, none⟩
  | .suspect => ⟨some member, some (view.suspectedAt.getD now), none⟩
  | .dead => ⟨some member, none, some (view.deadAt.getD now)⟩

/-- The view after its turn of the first loop of `advance_timeouts_and_purge`. -/
def expire (timeout now since : Seconds) (view : MemberView) : MemberView :=
  match view.member with
  | none => { view with suspectedAt := none }
  | some member =>
      if member.status ≠ .suspect then { view with suspectedAt := none }
      else if timeout ≤ now - since then ⟨some (member.withStatus .dead), none, some now⟩
      else view

/-- The view after its turn of the second loop, for another node than the local one. -/
def purge (retention now since : Seconds) (view : MemberView) : MemberView :=
  match view.member with
  | none => { view with deadAt := none }
  | some member =>
      if member.status ≠ .dead then { view with deadAt := none }
      else if retention ≤ now - since then ⟨none, view.suspectedAt, none⟩
      else view

/-- The view after the first loop. -/
def expired (settings : MembershipSettings) (now : Seconds) (view : MemberView) : MemberView :=
  match view.suspectedAt with
  | none => view
  | some since => view.expire settings.suspicionTimeoutSeconds now since

/-- The view of another node than the local one after the second loop. -/
def purged (settings : MembershipSettings) (now : Seconds) (view : MemberView) : MemberView :=
  match view.deadAt with
  | none => view
  | some since => view.purge settings.deadRetentionSeconds now since

section Cases

variable (settings : MembershipSettings) (now : Seconds) (view : MemberView)

/-- What the first loop makes of a view. -/
inductive Expires : MemberView → Prop
  | early (early : ∀ since, view.suspectedAt = some since →
      now - since < settings.suspicionTimeoutSeconds) : Expires view
  | stopped (status : ∀ member, view.member = some member → member.status ≠ .suspect) :
      Expires { view with suspectedAt := none }
  | died (member : ClusterMember) (since : Seconds) (found : view.member = some member)
      (status : member.status = .suspect) (timer : view.suspectedAt = some since)
      (due : settings.suspicionTimeoutSeconds ≤ now - since) :
      Expires ⟨some (member.withStatus .dead), none, some now⟩

theorem expires : view.Expires settings now (view.expired settings now) := by
  unfold expired
  split
  · next idle => exact .early fun since runs => by cases idle.symm.trans runs
  · next since timer =>
    unfold expire
    split
    · next absent => exact .stopped fun member found => by cases absent.symm.trans found
    · next member found =>
      split
      · next status =>
        refine .stopped fun other there => ?_
        cases found.symm.trans there
        exact status
      · next status =>
        split
        · next due => exact .died member since found (not_not.mp status) timer due
        · next early =>
          refine .early fun other runs => ?_
          cases timer.symm.trans runs
          exact not_le.mp early

/-- What the second loop makes of a view. -/
inductive Purges : MemberView → Prop
  | early (early : ∀ since, view.deadAt = some since →
      now - since < settings.deadRetentionSeconds) : Purges view
  | stopped (status : ∀ member, view.member = some member → member.status ≠ .dead) :
      Purges { view with deadAt := none }
  | gone (member : ClusterMember) (since : Seconds) (found : view.member = some member)
      (status : member.status = .dead) (timer : view.deadAt = some since)
      (due : settings.deadRetentionSeconds ≤ now - since) :
      Purges ⟨none, view.suspectedAt, none⟩

theorem purges : view.Purges settings now (view.purged settings now) := by
  unfold purged
  split
  · next idle => exact .early fun since runs => by cases idle.symm.trans runs
  · next since timer =>
    unfold purge
    split
    · next absent => exact .stopped fun member found => by cases absent.symm.trans found
    · next member found =>
      split
      · next status =>
        refine .stopped fun other there => ?_
        cases found.symm.trans there
        exact status
      · next status =>
        split
        · next due => exact .gone member since found (not_not.mp status) timer due
        · next early =>
          refine .early fun other runs => ?_
          cases timer.symm.trans runs
          exact not_le.mp early

end Cases

@[simp] theorem member_record (view : MemberView) (now : Seconds) (member : ClusterMember) :
    (view.record now member).member = some member := by
  unfold record
  split <;> rfl

end MemberView

namespace MembershipTable

variable {settings : MembershipSettings}

/-- The view of a node. -/
def view (table : MembershipTable settings) (id : NodeId) : MemberView :=
  ⟨table.get id, table.suspectedAt.get? id, table.deadAt.get? id⟩

theorem get?_popTimer (timers : SortedMap NodeId Seconds) (id key : NodeId) :
    (popTimer timers id).get? key = if id = key then none else timers.get? key := by
  unfold popTimer
  rw [SortedMap.get?_filter]
  split
  · next same =>
    subst same
    cases timers.get? id with
    | none => rfl
    | some since => rw [Option.filter_some, bne_self_eq_false, if_neg Bool.false_ne_true]
  · next differs =>
    cases timers.get? key with
    | none => rfl
    | some since => rw [Option.filter_some, if_pos (bne_iff_ne.mpr (Ne.symm differs))]

theorem get?_startTimer (timers : SortedMap NodeId Seconds) (id : NodeId) (now : Seconds)
    (key : NodeId) :
    (startTimer timers id now).get? key =
      if id = key then some ((timers.get? id).getD now) else timers.get? key := by
  unfold startTimer
  cases running : timers.get? id with
  | some since =>
      dsimp only
      split
      · next same =>
        subst same
        exact running
      · rfl
  | none =>
      dsimp only
      by_cases same : id = key
      · rw [if_pos same, SortedMap.get?_insert, if_pos same]
        rfl
      · rw [if_neg same, SortedMap.get?_insert_of_ne _ _ same]

/-- Storing a record moves the view of its node. -/
theorem view_record (table : MembershipTable settings) (now : Seconds) (member : ClusterMember)
    (id : NodeId) :
    (table.record now member).view id =
      if member.nodeId = id then (table.view id).record now member else table.view id := by
  have stored := table.members.get_put member id
  unfold record recordTimerState MemberView.record
  by_cases same : member.nodeId = id
  · subst same
    rw [if_pos rfl] at stored ⊢
    cases status : member.status
    all_goals
      simp only [view, get, stored, get?_popTimer, get?_startTimer, ↓reduceIte]
  · rw [if_neg same] at stored ⊢
    cases member.status
    all_goals
      simp only [view, get, stored, get?_popTimer, get?_startTimer, if_neg same]

@[simp] theorem version_record (table : MembershipTable settings) (now : Seconds)
    (member : ClusterMember) : (table.record now member).version = table.version := by
  unfold record recordTimerState
  split <;> rfl

@[simp] theorem view_bump (state : Bool × MembershipTable settings) :
    (bump state).2.view = state.2.view := by
  obtain ⟨_ | _, table⟩ := state <;> rfl

@[simp] theorem members_bump (state : Bool × MembershipTable settings) :
    (bump state).2.members = state.2.members := by
  obtain ⟨_ | _, table⟩ := state <;> rfl

theorem version_bump (state : Bool × MembershipTable settings) :
    (bump state).2.version = state.2.version + if state.1 then 1 else 0 := by
  obtain ⟨_ | _, table⟩ := state <;> rfl

/-- Tables with the same views have the same members. -/
theorem members_eq_iff {left right : MembershipTable settings} :
    left.members = right.members ↔ ∀ id, (left.view id).member = (right.view id).member :=
  ⟨fun same id => congrArg (MemberMap.get · id) same, MemberMap.ext_get⟩

section Loops

/-- A turn of a loop over timers, which moves one view and reports a change when the record in
it changes. -/
structure Turned (state next : Bool × MembershipTable settings) (key : NodeId)
    (moved : MemberView) : Prop where
  self : next.2.view key = moved
  other : ∀ id, key ≠ id → next.2.view id = state.2.view id
  changes : next.1 = true ↔ state.1 = true ∨ moved.member ≠ (state.2.view key).member
  version : next.2.version = state.2.version

/-- A turn that leaves the record alone. -/
theorem Turned.quiet {changed : Bool} {table next : MembershipTable settings} {key : NodeId}
    {moved : MemberView} (self : next.view key = moved)
    (other : ∀ id, key ≠ id → next.view id = table.view id)
    (member : moved.member = (table.view key).member) (version : next.version = table.version) :
    Turned (changed, table) (changed, next) key moved :=
  ⟨self, other, (or_iff_left (not_not.mpr member)).symm, version⟩

theorem Turned.refl (state : Bool × MembershipTable settings) (key : NodeId) :
    Turned state state key (state.2.view key) := .quiet rfl (fun _ _ => rfl) rfl rfl

/-- Each turn moves the view of its node. -/
def Turns (visit : Bool × MembershipTable settings → NodeId × Seconds →
    Bool × MembershipTable settings) (move : NodeId → Seconds → MemberView → MemberView) : Prop :=
  ∀ state timer, Turned state (visit state timer) timer.1
    (move timer.1 timer.2 (state.2.view timer.1))

variable {visit : Bool × MembershipTable settings → NodeId × Seconds →
    Bool × MembershipTable settings} {move : NodeId → Seconds → MemberView → MemberView}
  {timers : List (NodeId × Seconds)}

theorem Turns.view_foldl (turns : Turns visit move) (nodup : (timers.map Prod.fst).Nodup)
    (state : Bool × MembershipTable settings) (id : NodeId) :
    (timers.foldl visit state).2.view id =
      match SortedMap.lookupItems timers id with
      | none => state.2.view id
      | some since => move id since (state.2.view id) := by
  induction timers generalizing state with
  | nil => rfl
  | cons timer rest ih =>
      obtain ⟨key, since⟩ := timer
      obtain ⟨first, nodup⟩ := List.nodup_cons.mp nodup
      rw [List.foldl_cons, ih nodup]
      simp only [SortedMap.lookupItems]
      by_cases same : key = id
      · subst same
        simp only [↓reduceIte, SortedMap.lookupItems_eq_none first, (turns state _).self]
      · simp only [same, ↓reduceIte, (turns state (key, since)).other id same]

theorem Turns.version_foldl (turns : Turns visit move) (timers : List (NodeId × Seconds))
    (state : Bool × MembershipTable settings) :
    (timers.foldl visit state).2.version = state.2.version := by
  induction timers generalizing state with
  | nil => rfl
  | cons timer rest ih => rw [List.foldl_cons, ih, (turns state timer).version]

/-- The loop reports a change exactly when some member changed. -/
theorem Turns.changes_foldl (turns : Turns visit move) (nodup : (timers.map Prod.fst).Nodup)
    (state : Bool × MembershipTable settings) :
    (timers.foldl visit state).1 = true ↔ state.1 = true ∨
      ∃ id, ((timers.foldl visit state).2.view id).member ≠ (state.2.view id).member := by
  induction timers generalizing state with
  | nil => exact ⟨.inl, fun changed => changed.resolve_right fun ⟨_, differs⟩ => differs rfl⟩
  | cons timer rest ih =>
      obtain ⟨first, nodup⟩ := List.nodup_cons.mp nodup
      -- the later turns leave the view of this timer alone
      have kept : (rest.foldl visit (visit state timer)).2.view timer.1 =
          move timer.1 timer.2 (state.2.view timer.1) := by
        rw [turns.view_foldl nodup, SortedMap.lookupItems_eq_none first, (turns state timer).self]
      rw [List.foldl_cons, ih nodup, (turns state timer).changes, or_assoc]
      refine or_congr_right ⟨?_, ?_⟩
      · rintro (differs | ⟨id, differs⟩)
        · exact ⟨timer.1, kept ▸ differs⟩
        · by_cases same : timer.1 = id
          · subst same
            rw [kept, (turns state timer).self] at differs
            exact absurd rfl differs
          · rw [(turns state timer).other id same] at differs
            exact ⟨id, differs⟩
      · rintro ⟨id, differs⟩
        by_cases same : timer.1 = id
        · subst same
          exact .inl (kept ▸ differs)
        · refine .inr ⟨id, ?_⟩
          rw [(turns state timer).other id same]
          exact differs

/-- The first loop. -/
theorem turns_expire (now : Seconds) :
    @Turns settings (expire now)
      fun _ since view => view.expire settings.suspicionTimeoutSeconds now since := by
  rintro ⟨changed, table⟩ ⟨key, since⟩
  have stopped : Turned (changed, table)
      (changed, { table with suspectedAt := popTimer table.suspectedAt key }) key
      ⟨table.get key, none, (table.view key).deadAt⟩ := by
    refine .quiet ?_ (fun id other => ?_) rfl rfl
    · simp only [view, get, get?_popTimer, ↓reduceIte]
    · simp only [view, get, get?_popTimer, if_neg other]
  have held : (table.view key).member = table.get key := rfl
  unfold expire MemberView.expire
  dsimp only
  rw [held]
  cases found : table.get key with
  | none =>
      rw [found] at stopped
      exact stopped
  | some member =>
      rw [found] at stopped
      dsimp only
      split
      · exact stopped
      · next status =>
        split
        · have keyed := MemberMap.nodeId_of_get found
          refine ⟨?_, fun id other => ?_, iff_of_true rfl (.inr fun same => ?_), rfl⟩
          · simp only [view, get, MemberMap.get_put, ClusterMember.nodeId_withStatus, keyed,
              get?_popTimer, SortedMap.get?_insert_self, ↓reduceIte]
          · simp only [view, get, MemberMap.get_put, ClusterMember.nodeId_withStatus, keyed,
              get?_popTimer, SortedMap.get?_insert_of_ne _ _ other, if_neg other]
          · have statuses := congrArg ClusterMember.status (Option.some.inj (same.trans found))
            rw [not_not.mp status] at statuses
            cases statuses
        · exact .refl _ key

/-- The second loop. -/
theorem turns_purge (now : Seconds) :
    @Turns settings (purge now) fun id since view =>
      if id = settings.localNodeId then view
      else view.purge settings.deadRetentionSeconds now since := by
  rintro ⟨changed, table⟩ ⟨key, since⟩
  have stopped : Turned (changed, table)
      (changed, { table with deadAt := popTimer table.deadAt key }) key
      ⟨table.get key, (table.view key).suspectedAt, none⟩ := by
    refine .quiet ?_ (fun id other => ?_) rfl rfl
    · simp only [view, get, get?_popTimer, ↓reduceIte]
    · simp only [view, get, get?_popTimer, if_neg other]
  have held : (table.view key).member = table.get key := rfl
  unfold purge MemberView.purge
  dsimp only
  by_cases own : key = settings.localNodeId
  · rw [dif_pos own, if_pos own]
    exact .refl _ key
  · rw [dif_neg own, if_neg own, held]
    cases found : table.get key with
    | none =>
        rw [found] at stopped
        exact stopped
    | some member =>
        rw [found] at stopped
        dsimp only
        split
        · exact stopped
        · split
          · refine ⟨?_, fun id other => ?_, iff_of_true rfl (.inr fun same => ?_), rfl⟩
            · simp only [view, get, MemberMap.get_drop, get?_popTimer, ↓reduceIte]
            · simp only [view, get, MemberMap.get_drop, get?_popTimer, if_neg other]
            · cases same.trans found
          · exact .refl _ key

theorem view_expireAll (table : MembershipTable settings) (now : Seconds) (id : NodeId) :
    (table.expireAll now).2.view id = (table.view id).expired settings now :=
  (turns_expire now).view_foldl table.suspectedAt.nodup_keys (false, table) id

theorem expireAll_reports (table : MembershipTable settings) (now : Seconds) :
    (table.expireAll now).1 = true ↔
      ∃ id, ((table.expireAll now).2.view id).member ≠ (table.view id).member :=
  ((turns_expire now).changes_foldl table.suspectedAt.nodup_keys (false, table)).trans
    (or_iff_right Bool.false_ne_true)

theorem view_purgeAll (state : Bool × MembershipTable settings) (now : Seconds) (id : NodeId) :
    (purgeAll state now).2.view id =
      if id = settings.localNodeId then state.2.view id
      else (state.2.view id).purged settings now := by
  refine ((turns_purge now).view_foldl state.2.deadAt.nodup_keys state id).trans ?_
  change (match (state.2.view id).deadAt with
    | none => _
    | some since => _) = _
  unfold MemberView.purged
  split
  · exact (ite_self _).symm
  · rfl

theorem purgeAll_reports (state : Bool × MembershipTable settings) (now : Seconds) :
    (purgeAll state now).1 = true ↔ state.1 = true ∨
      ∃ id, ((purgeAll state now).2.view id).member ≠ (state.2.view id).member :=
  (turns_purge now).changes_foldl state.2.deadAt.nodup_keys state

/-- `advance_timeouts_and_purge`, node by node. -/
theorem view_advance (table : MembershipTable settings) (now : Seconds) (id : NodeId) :
    (table.advanceTimeoutsAndPurge now).2.view id =
      if id = settings.localNodeId then (table.view id).expired settings now
      else ((table.view id).expired settings now).purged settings now := by
  unfold advanceTimeoutsAndPurge
  rw [view_bump, view_purgeAll, view_expireAll]

theorem version_advance (table : MembershipTable settings) (now : Seconds) :
    (purgeAll (table.expireAll now) now).2.version = table.version :=
  ((turns_purge now).version_foldl _ _).trans ((turns_expire now).version_foldl _ (false, table))

end Loops

end MembershipTable

end Distsys
