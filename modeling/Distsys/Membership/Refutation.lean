import Distsys.Lib.Lists
import Distsys.Membership.Fleet
import Distsys.Membership.Gossiping
import Distsys.Transport.Layout

/-!
# Refutations

No record of a node is ahead of the node itself, in no table and in no message. So a node
that answers a claim about its current incarnation overtakes every record of it.
-/

namespace Distsys

variable {known : ClusterMember → Prop} {records : List ClusterMember} {id : NodeId}
  {member : ClusterMember} {input : ServiceInput} {index : Nat}

namespace ClusterMember

theorem learn_newer {known : Option ClusterMember} {record : ClusterMember}
    (older : ∀ member, known = some member → member.incarnation < record.incarnation) :
    learn known record = some record := by
  cases known with
  | none => rfl
  | some current =>
      have newer := older current rfl
      refine congrArg some ?_
      change current.merged record = record
      rw [merged, if_neg (Nat.lt_asymm newer), if_pos newer]

theorem merged_older {current record : ClusterMember}
    (older : record = current ∨ record.incarnation < current.incarnation) :
    current.merged record = current := by
  rcases older with rfl | older
  · exact merged_self record
  · exact if_pos older

/-- A record that is newer than the others is kept. -/
theorem foldl_learn_newest {record : ClusterMember} {known : Option ClusterMember}
    (latest : ∀ member ∈ records, member = record ∨ member.incarnation < record.incarnation)
    (held : known = some record ∨ record ∈ records ∧
      ∀ member, known = some member → member.incarnation < record.incarnation) :
    records.foldl learn known = some record := by
  induction records generalizing known with
  | nil => exact held.resolve_right fun absent => nomatch absent.1
  | cons head rest ih =>
      obtain ⟨first, later⟩ := List.forall_mem_cons.mp latest
      refine ih later ?_
      rcases held with rfl | ⟨among, older⟩
      · exact .inl (congrArg some (merged_older first))
      · by_cases same : head = record
        · exact .inl (same ▸ learn_newer (same ▸ older))
        · have behind := first.resolve_left same
          refine .inr ⟨(List.mem_cons.mp among).resolve_left (Ne.symm same), ?_⟩
          rintro _ ⟨⟩
          cases known with
          | none => exact behind
          | some current =>
              refine (incarnation_merged current head).trans_lt ?_
              exact max_lt (older current rfl) behind

theorem incarnation_le_answer (current claim : ClusterMember) :
    current.incarnation ≤ (current.answer claim).incarnation := by
  unfold answer
  split
  · next answered => exact answered.2.trans (Nat.le_succ _)
  · exact le_rfl

theorem incarnation_le_foldl_answer (claims : List ClusterMember) (current : ClusterMember) :
    current.incarnation ≤ (claims.foldl answer current).incarnation := by
  induction claims generalizing current with
  | nil => exact le_rfl
  | cons claim rest ih => exact (current.incarnation_le_answer claim).trans (ih _)

end ClusterMember

namespace MembershipTable

open ClusterMember

variable {settings : MembershipSettings} {limit : Nat}

/-- A merge with a record that is newer than what is known and merged besides. -/
theorem get_merge_newest (table : MembershipTable settings)
    (records : List (Seconds × ClusterMember)) {record : ClusterMember}
    (other : record.nodeId ≠ settings.localNodeId) (among : record ∈ records.map Prod.snd)
    (known : ∀ member, table.get record.nodeId = some member →
      member.incarnation < record.incarnation)
    (latest : ∀ member ∈ records.map Prod.snd, member.nodeId = record.nodeId →
      member = record ∨ member.incarnation < record.incarnation) :
    (table.merge records).2.get record.nodeId = some record := by
  refine (table.get_after_merges [records] other).trans ?_
  rw [recordsOf, List.flatten_singleton]
  refine foldl_learn_newest (fun member listed => ?_) (.inr ⟨mem_about.mpr ⟨among, rfl⟩, known⟩)
  obtain ⟨merged, named⟩ := mem_about.mp listed
  exact latest member merged named

/-- A call makes no record of another node newer than what was known and is brought. -/
theorem incarnation_le_of_call (table : MembershipTable settings) (call : TableCall)
    (other : id ≠ settings.localNodeId)
    (known : ∀ member, table.get id = some member → member.incarnation ≤ limit)
    (brought : ∀ member ∈ call.brought, member.nodeId = id → member.incarnation ≤ limit)
    (found : (table.call call).2.get id = some member) :
    member.incarnation ≤ limit := by
  have restated : table.Restated (table.call call).2 → member.incarnation ≤ limit := by
    intro only
    obtain ⟨old, status, held, rfl⟩ := only id member found
    exact known old held
  cases call with
  | markSuspect now target => exact restated (table.restated_markSuspect now target)
  | advance now => exact restated (table.restated_advance now)
  | merge records =>
      have newest := newest_foldl_learn
        (fun member listed => (mem_about.mp listed).2 :
          ∀ member ∈ about id (recordsOf [records]), _)
        (fun member held => MemberMap.nodeId_of_get held : ∀ member, table.get id = some member → _)
      rw [← table.get_after_merges [records] other] at newest
      change Newest _ ((table.merge records).2.get id) at newest
      rw [show (table.merge records).2.get id = some member from found] at newest
      obtain ⟨⟨source, among, ranks⟩, -, -⟩ := newest
      have same : source.incarnation = member.incarnation :=
        congrArg (fun rank => (ofLex rank).1) ranks
      rw [← same]
      rcases List.mem_append.mp among with held | merged
      · exact known source (Option.mem_toList.mp held)
      · obtain ⟨listed, named⟩ := mem_about.mp merged
        rw [recordsOf, List.flatten_singleton] at listed
        exact brought source listed named

theorem incarnation_le_of_after (table : MembershipTable settings) (calls : List TableCall)
    (other : id ≠ settings.localNodeId)
    (known : ∀ member, table.get id = some member → member.incarnation ≤ limit)
    (brought : ∀ member ∈ broughtBy calls, member.nodeId = id → member.incarnation ≤ limit)
    (found : (table.after calls).get id = some member) :
    member.incarnation ≤ limit := by
  induction calls generalizing table with
  | nil => exact known member found
  | cons call rest ih =>
      have here : ∀ member ∈ call.brought, member.nodeId = id → member.incarnation ≤ limit :=
        fun member listed => brought member (List.mem_flatMap.mpr ⟨call, .head _, listed⟩)
      refine ih (table.call call).2
        (fun member => table.incarnation_le_of_call call other known here)
        (fun member listed => brought member ?_) found
      obtain ⟨later, among, listed⟩ := List.mem_flatMap.mp listed
      exact List.mem_flatMap.mpr ⟨later, .tail _ among, listed⟩

/-- The incarnation of the local node never falls. -/
theorem localMember_rises (table : MembershipTable settings) (calls : List TableCall) :
    table.members.localMember.incarnation ≤
      (table.after calls).members.localMember.incarnation := by
  induction calls generalizing table with
  | nil => exact le_rfl
  | cons call rest ih =>
      have later := (table.step_call call).retained _ _ _ table.members.get_localNodeId
        (table.call call).2.members.get_localNodeId
      exact later.incarnation.trans (ih (table.call call).2)

/-- A merged claim about the current incarnation is answered. -/
theorem localMember_lt_of_claim (table : MembershipTable settings)
    (records : List (Seconds × ClusterMember)) {claim : ClusterMember}
    (among : claim ∈ records.map Prod.snd) (own : claim.nodeId = settings.localNodeId)
    (accuses : claim.Accuses)
    (current : claim.incarnation = table.members.localMember.incarnation) :
    table.members.localMember.incarnation <
      (table.merge records).2.members.localMember.incarnation := by
  have after := table.localMember_after_merges [records]
  change (table.merge records).2.members.localMember = _ at after
  rw [after, recordsOf, List.flatten_singleton]
  have listed : claim ∈ about settings.localNodeId (records.map Prod.snd) :=
    mem_about.mpr ⟨among, own⟩
  rw [← (absorbing_answer _).foldl_step listed, answer, if_pos ⟨accuses, current.ge⟩]
  refine Nat.lt_of_lt_of_le ?_ (incarnation_le_foldl_answer _ _)
  rw [incarnation_refuting, current]
  exact Nat.lt_succ_self _

end MembershipTable

/-- The calls on the table that an operation makes. -/
def ServiceOp.calls (input : ServiceInput) : ServiceOp → List TableCall
  | .merge records => [.merge (ServiceState.timed input.clock records)]
  | .markSuspect id => [.markSuspect (input.clock 0) id]
  | .advance => [.advance (input.clock 0)]
  | _ => []

namespace ServiceState

variable {settings : MembershipSettings} {hash : PyStr → Nat}
  {state service : ServiceState settings}

@[simp] theorem map_timed (clock : Nat → Seconds) (records : List ClusterMember) :
    (timed clock records).map Prod.snd = records := by
  unfold timed
  rw [List.map_map]
  exact List.zipIdx_map_fst 0 records

theorem membership_perform {op : ServiceOp} {answer : op.Answer}
    (performed : state.perform hash input op = some (answer, service)) :
    service.membership = state.membership.after (op.calls input) := by
  cases op with
  | choose options =>
      dsimp only [perform] at performed
      split at performed
      · cases performed
        rfl
      · cases performed
  | _ =>
      cases performed
      rfl

/-- The chosen member is one of the options. -/
theorem mem_of_chosen {options : List ClusterMember} {chosen : ClusterMember}
    (performed : state.perform hash input (.choose options) = some (chosen, service)) :
    chosen ∈ options := by
  dsimp only [perform] at performed
  split at performed
  · next found =>
    cases performed
    exact List.mem_of_getElem? found
  · cases performed

end ServiceState

namespace FleetState

variable {fleet : Fleet} {state next : FleetState fleet}

/-- The record is not ahead of its node. -/
def Below (state : FleetState fleet) (member : ClusterMember) : Prop :=
  member.incarnation ≤ (state.own member.nodeId).incarnation

/-- The incarnations of all nodes in the second state are at least those in the first. -/
def Rises (state next : FleetState fleet) : Prop :=
  ∀ id, (state.own id).incarnation ≤ (next.own id).incarnation

theorem Below.mono (rises : state.Rises next) (below : state.Below member) : next.Below member :=
  below.trans (rises member.nodeId)

/-- Every table is in order, and nothing that is held, sent or used is ahead of its node. -/
structure Limited (state : FleetState fleet) : Prop where
  sound : ∀ id, (state.table id).Sound
  started : ∀ id, state.Below (fleet.config id).localMember
  tables : ∀ id key member, (state.table id).get key = some member → state.Below member
  flight : ∀ message ∈ state.flight, ∀ member, message.Carries fleet.wire member →
    state.Below member
  tasks : ∀ task ∈ state.tasks, ∃ known : ClusterMember → Prop,
    (∀ member, known member → state.Below member) ∧
      task.code.Obeys (knowledge fleet.wire) (fun _ _ => True) known

theorem nodeId_own (state : FleetState fleet) (id : NodeId) : (state.own id).nodeId = id :=
  (MemberMap.nodeId_localMember _).trans (fleet.placed id)

theorem get_own (state : FleetState fleet) (id : NodeId) :
    (state.table id).get id = some (state.own id) := by
  refine Eq.trans ?_ (state.table id).members.get_localNodeId
  exact congrArg (state.table id).get (fleet.placed id).symm

theorem limited_initial (fleet : Fleet) : (initial fleet).Limited := by
  have placed : ∀ id, (fleet.config id).localMember.nodeId = id := fun id =>
    (fleet.config id).own.trans (fleet.placed id)
  have tables : ∀ id key, ((initial fleet).table id).get key =
      if id = key then some (fleet.config id).localMember else none := by
    intro id key
    refine (MembershipTable.get_fresh _ _ (fleet.config id).own key).trans ?_
    rw [placed]
  have own : ∀ id, (initial fleet).own id = (fleet.config id).localMember := by
    intro id
    have found := ((initial fleet).get_own id).symm.trans (tables id id)
    rw [if_pos rfl] at found
    exact Option.some.inj found
  have below : ∀ id, (initial fleet).Below (fleet.config id).localMember := by
    intro id
    unfold Below
    rw [placed, own]
  refine ⟨fun id => MembershipTable.sound_fresh (fleet.config id).own (fleet.config id).alive,
    below, ?_, ?_, ?_⟩
  · intro id key member found
    rw [tables] at found
    split at found
    · cases found
      exact below id
    · cases found
  · rintro message ⟨⟩
  · rintro task ⟨⟩

theorem Limited.spawn (limited : state.Limited) (id : NodeId) {code : ServiceCode Unit}
    (below : ∀ member, known member → state.Below member)
    (uses : Uses fleet.wire nothing code known) : (state.spawn id code).Limited := by
  refine ⟨limited.sound, limited.started, limited.tables, limited.flight, ?_⟩
  intro task listed
  rcases List.mem_concat_cases listed with before | rfl
  · exact limited.tasks task before
  · exact ⟨known, below, uses.mono fun _ _ _ => trivial⟩

theorem runTask_eq_some (ran : state.runTask index input = some next) :
    ∃ id op rest answer service, state.tasks[index]? = some ⟨id, .act op rest⟩ ∧
      (state.services id).perform (fleet.config id).hash input op = some (answer, service) ∧
      received state.flight op answer = true ∧
      next = ⟨Function.update state.services id service, flightAfter state.flight op,
        state.tasks.set index ⟨id, rest answer⟩⟩ := by
  unfold runTask at ran
  split at ran
  · next id op rest found =>
    split at ran
    · next answer service performed =>
      split at ran
      · next sent =>
        cases ran
        exact ⟨id, op, rest, answer, service, found, performed, sent, rfl⟩
      · cases ran
    · cases ran
  · cases ran

section Run

variable {id : NodeId} {op : ServiceOp} {answer : op.Answer} {input : ServiceInput}
  {service : ServiceState (fleet.config id).settings} {flight : List Message}
  {tasks : List FleetTask}

theorem table_update (key : NodeId) :
    (⟨Function.update state.services id service, flight, tasks⟩ : FleetState fleet).table key =
      (Function.update state.services id service key).membership := rfl

/-- An operation changes the table of its own node only. -/
theorem rises_update
    (performed : (state.services id).perform (fleet.config id).hash input op =
      some (answer, service)) :
    state.Rises ⟨Function.update state.services id service, flight, tasks⟩ := by
  intro key
  unfold own
  rw [table_update]
  by_cases same : key = id
  · subst same
    rw [Function.update_self, ServiceState.membership_perform performed]
    exact MembershipTable.localMember_rises _ _
  · rw [Function.update_of_ne same]
    exact le_rfl

/-- The records that an operation brings are not ahead of their nodes. -/
theorem Limited.brings (limited : state.Limited)
    (performed : (state.services id).perform (fleet.config id).hash input op =
      some (answer, service))
    (sent : received state.flight op answer = true) {member : ClusterMember}
    (brings : ServiceOp.Brings fleet.wire member op answer) : state.Below member := by
  have held : member ∈ (state.table id).snapshot → state.Below member := by
    intro listed
    obtain ⟨key, found⟩ := MembershipTable.mem_snapshot.mp listed
    exact limited.tables id key member found
  cases op with
  | snapshot =>
      cases performed
      exact held brings
  | aliveMembers includeSelf =>
      cases performed
      exact held (List.mem_filter.mp brings).1
  | probeCandidates =>
      cases performed
      exact held (List.mem_filter.mp brings).1
  | receive request =>
      cases answer with
      | ok message => exact limited.flight message (of_decide_eq_true sent) member brings
      | error error => exact brings.elim
  | _ => exact brings.elim

/-- Whatever the calls of an operation bring to the table was known. -/
theorem known_of_brought (guard : (knowledge fleet.wire).guard known op)
    (brought : member ∈ MembershipTable.broughtBy (op.calls input)) : known member := by
  cases op with
  | merge records =>
      obtain ⟨call, listed, merged⟩ := List.mem_flatMap.mp brought
      cases List.mem_singleton.mp listed
      exact guard member ((ServiceState.map_timed input.clock records) ▸ merged)
  | _ => exact nomatch (show member ∈ ([] : List ClusterMember) from brought)

theorem Limited.run (limited : state.Limited) {index : Nat}
    {rest : op.Answer → ServiceCode Unit}
    (found : state.tasks[index]? = some ⟨id, .act op rest⟩)
    (performed : (state.services id).perform (fleet.config id).hash input op =
      some (answer, service))
    (sent : received state.flight op answer = true) :
    Limited ⟨Function.update state.services id service, flightAfter state.flight op,
      state.tasks.set index ⟨id, rest answer⟩⟩ := by
  obtain ⟨known, below, obeys⟩ := limited.tasks _ (List.mem_of_getElem? found)
  have rises := @rises_update _ state id op answer input service (flightAfter state.flight op)
    (state.tasks.set index ⟨id, rest answer⟩) performed
  have after := ServiceState.membership_perform performed
  refine ⟨fun key => ?_, fun key => (limited.started key).mono rises, ?_, ?_, ?_⟩
  · rw [table_update]
    by_cases same : key = id
    · subst same
      rw [Function.update_self, after]
      exact (limited.sound key).after _
    · rw [Function.update_of_ne same]
      exact limited.sound key
  · intro node key member held
    by_cases same : node = id
    · subst same
      by_cases own : key = node
      · -- the record of the node itself
        subst own
        cases (get_own _ key).symm.trans held
        unfold Below
        rw [nodeId_own]
      · rw [table_update, Function.update_self, after] at held
        have keyed := MemberMap.nodeId_of_get held
        have limit : member.incarnation ≤ (state.own key).incarnation := by
          refine MembershipTable.incarnation_le_of_after _ _ ((fleet.placed node).symm ▸ own)
            (fun other there => ?_) (fun other brought named => ?_) held
          · have named : other.nodeId = key := MemberMap.nodeId_of_get there
            exact named ▸ limited.tables node key other there
          · exact named ▸ below other (known_of_brought obeys.guard brought)
        refine Below.mono rises ?_
        unfold Below
        rw [keyed]
        exact limit
    · rw [table_update, Function.update_of_ne same] at held
      exact (limited.tables node key member held).mono rises
  · intro message listed member carries
    have before : message ∈ state.flight → state.Below member := fun there =>
      limited.flight message there member carries
    refine Below.mono rises ?_
    cases op with
    | send host port sent =>
        rcases List.mem_concat_cases listed with there | rfl
        · exact before there
        · exact below member (obeys.guard member carries)
    | _ => exact before listed
  · intro task listed
    rcases List.mem_or_eq_of_mem_set listed with there | rfl
    · obtain ⟨held, lower, complies⟩ := limited.tasks task there
      exact ⟨held, fun member knows => (lower member knows).mono rises, complies⟩
    · have legal : (knowledge fleet.wire).legal known op answer := by
        cases op with
        | choose options => exact ServiceState.mem_of_chosen performed
        | _ => trivial
      refine ⟨_, fun member knows => ?_, obeys.step legal⟩
      rcases knows with before | brings
      · exact (below member before).mono rises
      · exact (limited.brings performed sent brings).mono rises

end Run

theorem Limited.step (limited : state.Limited) {label : FleetLabel}
    (stepped : state.step label = some next) : next.Limited := by
  cases label with
  | start id =>
      cases stepped
      have starts : Uses (fleet.config id).wire nothing
          (ClusterService.bootstrap (fleet.config id)) (· = (fleet.config id).localMember) :=
        uses_bootstrap (fleet.config id) rfl
      refine limited.spawn id ?_ (fleet.shared id ▸ starts)
      rintro _ rfl
      exact limited.started id
  | deliver index id =>
      dsimp only [FleetState.step] at stepped
      split at stepped
      · next message found =>
        cases stepped
        exact limited.spawn id (limited.flight message (List.mem_of_getElem? found))
          (uses_handler id fun _ carries => carries)
      · cases stepped
  | detect id =>
      cases stepped
      exact limited.spawn id (fun _ => False.elim)
        (fleet.shared id ▸ uses_detector (fleet.config id))
  | gossip id =>
      cases stepped
      exact limited.spawn id (fun _ => False.elim)
        (fleet.shared id ▸ uses_gossipLoop (fleet.config id))
  | run index input =>
      obtain ⟨id, op, rest, answer, service, found, performed, sent, rfl⟩ :=
        runTask_eq_some stepped
      exact limited.run found performed sent

theorem limited_of_reachable (reached : FleetReachable fleet state) : state.Limited := by
  induction reached with
  | initial => exact limited_initial fleet
  | step label _ stepped ih => exact ih.step stepped

end FleetState

/-- The records that an operation merges or sends. -/
def ServiceOp.Offers (wire : ClusterWire (List UInt8)) (member : ClusterMember) :
    ServiceOp → Prop
  | .merge records => member ∈ records
  | .send _ _ message => message.Carries wire member
  | _ => False

/-- The records that a coroutine is about to merge or to send. -/
def FleetTask.Offers (wire : ClusterWire (List UInt8)) (task : FleetTask)
    (member : ClusterMember) : Prop :=
  match task.code with
  | .act op _ => ServiceOp.Offers wire member op
  | .done _ => False

namespace FleetState

variable {fleet : Fleet} {state next : FleetState fleet}

/-- The records of a node outside its own table. -/
inductive Elsewhere (state : FleetState fleet) (id : NodeId) : ClusterMember → Prop
  | table (node : NodeId) {member : ClusterMember} (other : node ≠ id)
      (found : (state.table node).get id = some member) : Elsewhere state id member
  | flight (message : Message) {member : ClusterMember} (listed : message ∈ state.flight)
      (carries : message.Carries fleet.wire member) (named : member.nodeId = id) :
      Elsewhere state id member
  | offered (task : FleetTask) {member : ClusterMember} (listed : task ∈ state.tasks)
      (offers : task.Offers fleet.wire member) (named : member.nodeId = id) :
      Elsewhere state id member

theorem known_of_offers {task : FleetTask}
    (obeys : task.code.Obeys (knowledge fleet.wire) (fun _ _ => True) known)
    (offers : task.Offers fleet.wire member) : known member := by
  obtain ⟨id, code⟩ := task
  cases code with
  | done result => exact offers.elim
  | act op rest =>
      have guard := obeys.guard
      cases op with
      | merge records => exact guard member offers
      | send host port message => exact guard member offers
      | _ => exact offers.elim

theorem Limited.elsewhere (limited : state.Limited) {id : NodeId} {member : ClusterMember}
    (elsewhere : state.Elsewhere id member) :
    member.incarnation ≤ (state.own id).incarnation := by
  have bound : state.Below member → member.nodeId = id →
      member.incarnation ≤ (state.own id).incarnation := fun below named => named ▸ below
  cases elsewhere with
  | table node other found =>
      have named : member.nodeId = id := MemberMap.nodeId_of_get found
      exact bound (limited.tables node id member found) named
  | flight message listed carries named =>
      exact bound (limited.flight message listed _ carries) named
  | offered task listed offers named =>
      obtain ⟨known, below, obeys⟩ := limited.tasks task listed
      exact bound (below member (known_of_offers obeys offers)) named

/-- A merge at a node adds no record of it elsewhere. -/
theorem Limited.elsewhere_of_merge (limited : state.Limited) {rest : Bool → ServiceCode Unit}
    {changed : Bool} {service : ServiceState (fleet.config id).settings}
    (found : state.tasks[index]? = some ⟨id, .act (.merge records) rest⟩)
    (elsewhere : Elsewhere ⟨Function.update state.services id service, state.flight,
      state.tasks.set index ⟨id, rest changed⟩⟩ id member) :
    member.incarnation ≤ (state.own id).incarnation := by
  cases elsewhere with
  | table node other held =>
      rw [table_update, Function.update_of_ne other] at held
      exact limited.elsewhere (.table node other held)
  | flight message listed carries named =>
      exact limited.elsewhere (.flight message listed carries named)
  | offered task listed offers named =>
      rcases List.mem_or_eq_of_mem_set listed with there | rfl
      · exact limited.elsewhere (.offered task there offers named)
      · obtain ⟨known, below, obeys⟩ := limited.tasks _ (List.mem_of_getElem? found)
        rcases known_of_offers (obeys.2 changed trivial) offers with knows | brings
        · exact named ▸ below member knows
        · exact brings.elim

/-- A live node's refutation wins. No record of a node is ahead of the node, and the node
itself is ALIVE in its own table. When it merges a claim about its current incarnation, its
new record is ahead of all others, and it replaces the record of the node in every table that
merges it and has not learned of that incarnation otherwise. -/
theorem refutation_wins (fleet : Fleet) (state : FleetState fleet)
    (reached : FleetReachable fleet state) :
    (∀ id member, state.Elsewhere id member → member.incarnation ≤ (state.own id).incarnation) ∧
    (∀ id, (state.own id).status = .alive) ∧
    ∀ id index input records rest claim next,
      state.tasks[index]? = some ⟨id, .act (.merge records) rest⟩ →
      claim ∈ records → claim.nodeId = id → claim.Accuses →
      claim.incarnation = (state.own id).incarnation →
      state.step (.run index input) = some next →
      (next.own id).nodeId = id ∧ (next.own id).status = .alive ∧
      (∀ member, next.Elsewhere id member → member.incarnation < (next.own id).incarnation) ∧
      ∀ (settings : MembershipSettings) (table : MembershipTable settings)
        (batch : List (Seconds × ClusterMember)),
        settings.localNodeId ≠ id → next.own id ∈ batch.map Prod.snd →
        (∀ member, table.get id = some member → member.incarnation < (next.own id).incarnation) →
        (∀ member ∈ batch.map Prod.snd, member.nodeId = id →
          member = next.own id ∨ member.incarnation < (next.own id).incarnation) →
        (table.merge batch).2.get id = some (next.own id) := by
  have limited := limited_of_reachable reached
  refine ⟨fun id member => limited.elsewhere, fun id => (limited.sound id).own, ?_⟩
  intro id index input records rest claim next found among named accuses current stepped
  have placed := next.nodeId_own id
  refine ⟨placed, ((limited.step stepped).sound id).own, fun member elsewhere => ?_, ?_⟩
  · obtain ⟨_, _, _, answer, service, there, performed, _, rfl⟩ := runTask_eq_some stepped
    cases found.symm.trans there
    refine (limited.elsewhere_of_merge found elsewhere).trans_lt ?_
    unfold own
    rw [table_update, Function.update_self, ServiceState.membership_perform performed]
    refine MembershipTable.localMember_lt_of_claim _ _ ?_ (named.trans (fleet.placed id).symm)
      accuses current
    rwa [ServiceState.map_timed]
  · intro settings table batch other merges older latest
    have kept := @MembershipTable.get_merge_newest settings table batch (next.own id)
    rw [placed] at kept
    exact kept other.symm merges older latest

/-- The state after the labels, as long as each of them is possible. -/
def run (state : FleetState fleet) : List FleetLabel → Option (FleetState fleet)
  | [] => some state
  | label :: rest => (state.step label).bind fun next => next.run rest

theorem reachable_run {labels : List FleetLabel} (reached : FleetReachable fleet state)
    (result : state.run labels = some next) : FleetReachable fleet next := by
  induction labels generalizing state with
  | nil =>
      cases result
      exact reached
  | cons label rest ih =>
      obtain ⟨middle, stepped, result⟩ := Option.bind_eq_some_iff.mp result
      exact ih (.step label reached stepped) result

/-- A run that can be evaluated shows a state that is reached. -/
theorem exists_of_run (fleet : Fleet) (labels : List FleetLabel)
    (check : FleetState fleet → Bool)
    (checked : ((initial fleet).run labels).any check = true) :
    ∃ state, FleetReachable fleet state ∧ check state = true := by
  cases result : (initial fleet).run labels with
  | none =>
      rw [result] at checked
      cases checked
  | some state =>
      rw [result] at checked
      exact ⟨state, reachable_run .initial result, checked⟩

/-- Nodes that join through the node `peerId`. -/
def pairFleet : Fleet where
  wire := Layout.cluster
  config id :=
    { settings := ⟨id, 10, 30, MembershipTable.loneSettings.suspicion_pos,
        MembershipTable.loneSettings.retention⟩
      localMember := ⟨id, id.1, 7000, .alive, 1, NodeId.ne_nil id,
        MembershipTable.loneMember.ported, Nat.one_pos⟩
      own := rfl
      alive := rfl
      seeds := [⟨MembershipTable.peerId.1, 7000, NodeId.ne_nil MembershipTable.peerId,
        MembershipTable.loneMember.ported⟩]
      ring := ⟨1, Nat.one_pos, []⟩
      hash := fun _ => 0
      wire := Layout.cluster
      indirectProbeCount := 1 }
  placed _ := rfl
  shared _ := rfl

/-- A node joins, is suspected by its seed, and hears of it. -/
def suspicion : List FleetLabel :=
  let a := MembershipTable.loneMember.nodeId
  let b := MembershipTable.peerId
  [.start a] ++ List.replicate 4 (.run 0 .quiet) ++ [.deliver 0 b, .run 1 .quiet, .detect b] ++
    List.replicate 9 (.run 2 .quiet) ++ [.detect b] ++ List.replicate 6 (.run 3 .quiet) ++
    [.deliver 2 a]

/-- The coroutine of the index is about to merge a claim about the current incarnation. -/
def accused (state : FleetState fleet) (id : NodeId) (index : Nat) : Bool :=
  match state.tasks[index]? with
  | some ⟨node, .act (.merge records) _⟩ =>
      decide (node = id) && records.any fun claim => claim.nodeId = id ∧ claim.Accuses ∧
        claim.incarnation = (state.own id).incarnation
  | _ => false

theorem accused_spec (accused : state.accused id index = true) :
    ∃ records rest, state.tasks[index]? = some ⟨id, .act (.merge records) rest⟩ ∧
      ∃ claim ∈ records, claim.nodeId = id ∧ claim.Accuses ∧
        claim.incarnation = (state.own id).incarnation := by
  unfold FleetState.accused at accused
  split at accused
  · next node records rest found =>
    obtain ⟨same, claims⟩ := Bool.and_eq_true_iff.mp accused
    obtain ⟨claim, listed, current⟩ := List.any_eq_true.mp claims
    cases of_decide_eq_true same
    exact ⟨records, rest, found, claim, listed, of_decide_eq_true current⟩
  · cases accused

/-- The node hears that it is suspected and overtakes all records of it. -/
theorem refutation_wins_pair :
    ∃ state next, FleetReachable pairFleet state ∧
      state.accused MembershipTable.loneMember.nodeId 4 = true ∧
      state.step (.run 4 .quiet) = some next ∧
      ∀ member, next.Elsewhere MembershipTable.loneMember.nodeId member →
        member.incarnation < (next.own MembershipTable.loneMember.nodeId).incarnation := by
  obtain ⟨state, reached, checked⟩ := exists_of_run pairFleet suspicion
    (fun state => state.accused MembershipTable.loneMember.nodeId 4 &&
      (state.step (.run 4 .quiet)).isSome) (by decide +kernel)
  obtain ⟨accused, possible⟩ := Bool.and_eq_true_iff.mp checked
  obtain ⟨next, stepped⟩ := Option.isSome_iff_exists.mp possible
  obtain ⟨records, rest, found, claim, listed, named, accuses, current⟩ := accused_spec accused
  exact ⟨state, next, reached, accused, stepped, ((refutation_wins pairFleet state reached).2.2
    _ 4 .quiet records rest claim next found listed named accuses current stepped).2.2.1⟩

end FleetState

end Distsys
