import Mathlib.Algebra.Order.Field.Rat
import Distsys.Lib.SortedMap
import Distsys.Membership.Member

/-!
# The membership table of a node

Every method of the source runs under the lock of the table without waiting, so each is
one function here. The clock is read whenever a timer may be set: a record that is merged
comes with the reading of the clock at that moment. Seconds are rational numbers.
-/

namespace Distsys

/-- Readings of a clock. -/
abbrev Seconds := ℚ

/-- The settings of a table, with the checks of its constructor. -/
structure MembershipSettings where
  localNodeId : NodeId
  suspicionTimeoutSeconds : Seconds
  deadRetentionSeconds : Seconds
  suspicion_pos : 0 < suspicionTimeoutSeconds
  retention : suspicionTimeoutSeconds < deadRetentionSeconds

/-- The records by node. The local node always has one. -/
structure MemberMap (localNodeId : NodeId) where
  records : SortedMap NodeId ClusterMember
  keyed : ∀ id member, records.get? id = some member → member.nodeId = id
  present : (records.get? localNodeId).isSome

namespace MemberMap

variable {localNodeId : NodeId}

/-- The record of a node. -/
def get (members : MemberMap localNodeId) (id : NodeId) : Option ClusterMember :=
  members.records.get? id

theorem ext_get {left right : MemberMap localNodeId} (same : ∀ id, left.get id = right.get id) :
    left = right := by
  obtain ⟨leftRecords, leftKeyed, leftPresent⟩ := left
  obtain ⟨rightRecords, rightKeyed, rightPresent⟩ := right
  have records : leftRecords = rightRecords := SortedMap.ext_get? same
  subst records
  rfl

/-- The record of the local node. -/
def localMember (members : MemberMap localNodeId) : ClusterMember :=
  (members.get localNodeId).get members.present

theorem get_localNodeId (members : MemberMap localNodeId) :
    members.get localNodeId = some members.localMember :=
  (Option.some_get members.present).symm

theorem nodeId_of_get {members : MemberMap localNodeId} {id : NodeId} {member : ClusterMember}
    (found : members.get id = some member) : member.nodeId = id :=
  members.keyed id member found

theorem nodeId_localMember (members : MemberMap localNodeId) :
    members.localMember.nodeId = localNodeId :=
  nodeId_of_get members.get_localNodeId

/-- `self._members[member.node_id] = member`. -/
def put (members : MemberMap localNodeId) (member : ClusterMember) : MemberMap localNodeId where
  records := members.records.insert member.nodeId member
  keyed := by
    intro id other found
    rw [SortedMap.get?_insert] at found
    split at found
    · next same =>
      cases found
      exact same
    · exact members.keyed id other found
  present := by
    rw [SortedMap.get?_insert]
    split
    · rfl
    · exact members.present

theorem get_put (members : MemberMap localNodeId) (member : ClusterMember) (id : NodeId) :
    (members.put member).get id = if member.nodeId = id then some member else members.get id := by
  unfold get put
  by_cases same : member.nodeId = id
  · rw [if_pos same, SortedMap.get?_insert, if_pos same]
  · rw [if_neg same, SortedMap.get?_insert_of_ne _ _ same]

/-- `self._members.pop(id, None)`, for another node than the local one. -/
def drop (members : MemberMap localNodeId) (id : NodeId) (other : id ≠ localNodeId) :
    MemberMap localNodeId where
  records := members.records.filter fun key _ => key != id
  keyed key member found := by
    rw [SortedMap.get?_filter] at found
    exact members.keyed key member (Option.filter_eq_some_iff.mp found).1
  present := by
    rw [SortedMap.get?_filter]
    obtain ⟨member, found⟩ := Option.isSome_iff_exists.mp members.present
    rw [found, Option.filter_some, if_pos (bne_iff_ne.mpr (Ne.symm other))]
    rfl

theorem get_drop (members : MemberMap localNodeId) {id : NodeId} (other : id ≠ localNodeId)
    (key : NodeId) :
    (members.drop id other).get key = if id = key then none else members.get key := by
  refine (SortedMap.get?_filter ..).trans ?_
  split
  · next same =>
    subst same
    cases members.records.get? id with
    | none => rfl
    | some member => rw [Option.filter_some, bne_self_eq_false, if_neg Bool.false_ne_true]
  · next differs =>
    change _ = members.records.get? key
    cases members.records.get? key with
    | none => rfl
    | some member => rw [Option.filter_some, if_pos (bne_iff_ne.mpr (Ne.symm differs))]

end MemberMap

/-- `MembershipTable`, with the times it keeps. -/
structure MembershipTable (settings : MembershipSettings) where
  members : MemberMap settings.localNodeId
  suspectedAt : SortedMap NodeId Seconds
  deadAt : SortedMap NodeId Seconds
  version : Nat

namespace MembershipTable

variable {settings : MembershipSettings}

/-- The table of a node that has just started. -/
def fresh (settings : MembershipSettings) (member : ClusterMember)
    (same : member.nodeId = settings.localNodeId) : MembershipTable settings where
  members :=
    { records := SortedMap.empty.insert member.nodeId member
      keyed := by
        intro id other found
        rw [SortedMap.get?_insert] at found
        split at found
        · next same =>
          cases found
          exact same
        · cases found
      present := by
        rw [← same, SortedMap.get?_insert_self]
        rfl }
  suspectedAt := .empty
  deadAt := .empty
  version := 1

/-- `get`. -/
def get (table : MembershipTable settings) (id : NodeId) : Option ClusterMember :=
  table.members.get id

/-- `snapshot`, in the order of the ids. -/
def snapshot (table : MembershipTable settings) : List ClusterMember :=
  table.members.records.items.map Prod.snd

/-- `alive_members`. -/
def aliveMembers (table : MembershipTable settings) (includeSelf : Bool) : List ClusterMember :=
  table.snapshot.filter fun member =>
    member.status = .alive ∧ (includeSelf ∨ member.nodeId ≠ settings.localNodeId)

/-- `probe_candidates`. -/
def probeCandidates (table : MembershipTable settings) : List ClusterMember :=
  table.snapshot.filter fun member =>
    member.nodeId ≠ settings.localNodeId ∧ (member.status = .alive ∨ member.status = .suspect)

/-- `timers.pop(id, None)`. -/
def popTimer (timers : SortedMap NodeId Seconds) (id : NodeId) : SortedMap NodeId Seconds :=
  timers.filter fun key _ => key != id

/-- `timers.setdefault(id, now)`. -/
def startTimer (timers : SortedMap NodeId Seconds) (id : NodeId) (now : Seconds) :
    SortedMap NodeId Seconds :=
  match timers.get? id with
  | some _ => timers
  | none => timers.insert id now

/-- `_record_timer_state`. -/
def recordTimerState (table : MembershipTable settings) (now : Seconds) (member : ClusterMember) :
    MembershipTable settings :=
  match member.status with
  | .alive => { table with
      suspectedAt := popTimer table.suspectedAt member.nodeId
      deadAt := popTimer table.deadAt member.nodeId }
  | .suspect => { table with
      suspectedAt := startTimer table.suspectedAt member.nodeId now
      deadAt := popTimer table.deadAt member.nodeId }
  | .dead => { table with
      suspectedAt := popTimer table.suspectedAt member.nodeId
      deadAt := startTimer table.deadAt member.nodeId now }

/-- Store a record and record its timer state. -/
def record (table : MembershipTable settings) (now : Seconds) (member : ClusterMember) :
    MembershipTable settings :=
  { table with members := table.members.put member }.recordTimerState now member

/-- The record that `_merge_one_locked` stores, if it stores one. -/
def accepted (table : MembershipTable settings) (incoming : ClusterMember) : Option ClusterMember :=
  if incoming.nodeId = settings.localNodeId then
    let current := table.members.localMember
    if incoming.Accuses ∧ current.incarnation ≤ incoming.incarnation then
      some (current.refuting incoming.incarnation)
    else none
  else
    match table.get incoming.nodeId with
    | none => some incoming
    | some current =>
        if incoming.incarnation < current.incarnation then none
        else if current.incarnation < incoming.incarnation then some incoming
        else if current.status < incoming.status then some (current.withStatus incoming.status)
        else none

/-- `_merge_one_locked`. -/
def mergeOne (table : MembershipTable settings) (now : Seconds) (incoming : ClusterMember) :
    Bool × MembershipTable settings :=
  match table.accepted incoming with
  | none => (false, table)
  | some member => (true, table.record now member)

/-- The loop of `merge`, with whether anything has changed. -/
def mergeLoop (table : MembershipTable settings) (changed : Bool) :
    List (Seconds × ClusterMember) → Bool × MembershipTable settings
  | [] => (changed, table)
  | (now, incoming) :: rest =>
      let (accepted, table) := table.mergeOne now incoming
      mergeLoop table (accepted || changed) rest

/-- `self._version += 1`, if the operation changed anything. -/
def bump : Bool × MembershipTable settings → Bool × MembershipTable settings
  | (true, table) => (true, { table with version := table.version + 1 })
  | (false, table) => (false, table)

/-- `merge`, with the time of each record. -/
def merge (table : MembershipTable settings) (records : List (Seconds × ClusterMember)) :
    Bool × MembershipTable settings :=
  bump (table.mergeLoop false records)

/-- `mark_suspect`. -/
def markSuspect (table : MembershipTable settings) (now : Seconds) (id : NodeId) :
    Bool × MembershipTable settings :=
  match table.get id with
  | none => (false, table)
  | some current =>
      if id = settings.localNodeId then (false, table)
      else if current.status ≠ .alive then (false, table)
      else bump (true, table.record now (current.withStatus .suspect))

/-- The body of the first loop of `advance_timeouts_and_purge`. -/
def expire (now : Seconds) (state : Bool × MembershipTable settings) (timer : NodeId × Seconds) :
    Bool × MembershipTable settings :=
  let (changed, table) := state
  let (id, suspectedAt) := timer
  let lapsed := { table with suspectedAt := popTimer table.suspectedAt id }
  match table.get id with
  | none => (changed, lapsed)
  | some member =>
      if member.status ≠ .suspect then (changed, lapsed)
      else if settings.suspicionTimeoutSeconds ≤ now - suspectedAt then
        (true, { lapsed with
          members := table.members.put (member.withStatus .dead)
          deadAt := table.deadAt.insert id now })
      else (changed, table)

/-- The body of the second loop of `advance_timeouts_and_purge`. -/
def purge (now : Seconds) (state : Bool × MembershipTable settings) (timer : NodeId × Seconds) :
    Bool × MembershipTable settings :=
  let (changed, table) := state
  let (id, deadAt) := timer
  if own : id = settings.localNodeId then (changed, table)
  else
    let lapsed := { table with deadAt := popTimer table.deadAt id }
    match table.get id with
    | none => (changed, lapsed)
    | some member =>
        if member.status ≠ .dead then (changed, lapsed)
        else if settings.deadRetentionSeconds ≤ now - deadAt then
          (true, { lapsed with members := table.members.drop id own })
        else (changed, table)

/-- The first loop of `advance_timeouts_and_purge`. -/
def expireAll (table : MembershipTable settings) (now : Seconds) :
    Bool × MembershipTable settings :=
  table.suspectedAt.items.foldl (expire now) (false, table)

/-- The second loop of `advance_timeouts_and_purge`. -/
def purgeAll (state : Bool × MembershipTable settings) (now : Seconds) :
    Bool × MembershipTable settings :=
  state.2.deadAt.items.foldl (purge now) state

/-- `advance_timeouts_and_purge`. Each turn of its loops is about one node, so the order
in which the dictionaries list their keys does not matter. -/
def advanceTimeoutsAndPurge (table : MembershipTable settings) (now : Seconds) :
    Bool × MembershipTable settings :=
  bump (purgeAll (table.expireAll now) now)

end MembershipTable

/-- The calls that change a table, with the readings of the clock. -/
inductive TableCall
  | merge (records : List (Seconds × ClusterMember))
  | markSuspect (now : Seconds) (id : NodeId)
  | advance (now : Seconds)

namespace MembershipTable

variable {settings : MembershipSettings}

/-- A call, with its result. -/
def call (table : MembershipTable settings) : TableCall → Bool × MembershipTable settings
  | .merge records => table.merge records
  | .markSuspect now id => table.markSuspect now id
  | .advance now => table.advanceTimeoutsAndPurge now

/-- The table after a sequence of calls. -/
def after (table : MembershipTable settings) (calls : List TableCall) : MembershipTable settings :=
  calls.foldl (fun table call => (table.call call).2) table

end MembershipTable

end Distsys
