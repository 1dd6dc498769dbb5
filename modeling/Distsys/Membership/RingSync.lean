import Distsys.Lib.Lists
import Distsys.Lib.Monitor
import Distsys.Membership.Service
import Distsys.Transport.Layout

/-!
# The ring and the table

The coroutines of one service interleave at every operation, and messages and exchanges
may bring anything. A coroutine that has changed the table owes a synchronisation until
`sync_ring` has rebuilt the ring or has found it up to date. When nobody owes one, the
ring is the one of the current members.
-/

namespace Distsys

/-- Whether a coroutine owes a synchronisation after an operation. -/
def ServiceOp.owesAfter : (op : ServiceOp) → op.Answer → Bool → Bool
  | .merge _, changed, owes | .markSuspect _, changed, owes | .advance, changed, owes =>
      changed || owes
  | .outdated, none, _ | .rebuildRing _, _, _ => false
  | .outdated, some _, owes | .snapshot, _, owes | .aliveMembers _, _, owes
  | .probeCandidates, _, owes | .choose _, _, owes | .stamp, _, owes | .send .., _, owes
  | .receive _, _, owes => owes

/-- A coroutine of the service, and whether it has changed the table and not yet
synchronised the ring. -/
structure ServiceTask where
  code : ServiceCode Unit
  owes : Bool := false

/-- The coroutine is between its update of the table and the end of its `sync_ring`. -/
def ServiceTask.Between (task : ServiceTask) : Prop :=
  task.owes = true ∧ ∀ result, task.code ≠ .done result

/-- The service with its coroutines. -/
structure ServiceSystem (config : ServiceConfig) where
  state : ServiceState config.settings
  tasks : List ServiceTask

/-- The steps of a service. -/
inductive ServiceLabel
  | control (message : Message)
  | detect
  | gossip
  | run (index : Nat) (input : ServiceInput)

namespace ServiceSystem

variable {config : ServiceConfig}

/-- The constructor puts the local member into the table, which the first `sync_ring` of
`bootstrap` brings to the ring. -/
def initial (config : ServiceConfig) : ServiceSystem config :=
  ⟨config.initial, [⟨ClusterService.bootstrap config, true⟩]⟩

/-- A new coroutine. -/
def spawn (system : ServiceSystem config) (code : ServiceCode Unit) : ServiceSystem config :=
  { system with tasks := system.tasks ++ [⟨code, false⟩] }

/-- One step, if it can take place. -/
def step (system : ServiceSystem config) : ServiceLabel → Option (ServiceSystem config)
  | .control message => some (system.spawn do
      let _ ← ClusterService.handleControl config message
      return ())
  | .detect => some (system.spawn (FailureDetector.runOnce config))
  | .gossip => some (system.spawn (GossipLoop.runOnce config))
  | .run index input =>
      match system.tasks[index]? with
      | some ⟨.act op next, owes⟩ =>
          match system.state.perform config.hash input op with
          | some (answer, state) =>
              some ⟨state, system.tasks.set index ⟨next answer, op.owesAfter answer owes⟩⟩
          | none => none
      | _ => none

end ServiceSystem

/-- The systems that interleavings reach. -/
inductive ServiceReachable (config : ServiceConfig) : ServiceSystem config → Prop
  | initial : ServiceReachable config (.initial config)
  | step {system next : ServiceSystem config} (label : ServiceLabel)
      (reached : ServiceReachable config system) (stepped : system.step label = some next) :
      ServiceReachable config next

namespace ServiceSystem

variable {config : ServiceConfig}

/-- Perform several steps. -/
def run (system : ServiceSystem config) : List ServiceLabel → Option (ServiceSystem config)
  | [] => some system
  | label :: rest =>
      match system.step label with
      | some next => next.run rest
      | none => none

theorem reachable_run {system final : ServiceSystem config}
    (reached : ServiceReachable config system) {labels : List ServiceLabel}
    (result : system.run labels = some final) : ServiceReachable config final := by
  induction labels generalizing system with
  | nil =>
      cases result
      exact reached
  | cons label rest ih =>
      rw [run] at result
      split at result
      · next next stepped => exact ih (.step label reached stepped) result
      · cases result

/-- A run that can be evaluated shows a system that is reached. -/
theorem exists_of_run (config : ServiceConfig) (labels : List ServiceLabel)
    (check : ServiceSystem config → Bool)
    (checked : ((initial config).run labels).any check = true) :
    ∃ system, ServiceReachable config system ∧ check system = true := by
  cases result : (initial config).run labels with
  | none =>
      rw [result] at checked
      cases checked
  | some system =>
      rw [result] at checked
      exact ⟨system, reachable_run .initial result, checked⟩

end ServiceSystem

/-- What is known about a coroutine: whether it owes a synchronisation, and the version that
its `sync_ring` has read. -/
structure SyncState where
  owes : Bool
  version : Option Nat := none

/-- `sync_ring` rebuilds the ring with the version it has read. -/
def syncMonitor : Monitor serviceSignature SyncState where
  guard state op := match op with
    | .rebuildRing version => state.version = some version
    | _ => True
  legal _ _ _ := True
  next state op answer := ⟨ServiceOp.owesAfter op answer state.owes,
    match op, answer with
    | .outdated, (some version : Option Nat) => some version
    | _, _ => none⟩

/-- The coroutine synchronises the ring after each change of the table. -/
abbrev Synchronises {α : Type} (code : ServiceCode α) (state : SyncState) : Prop :=
  code.Obeys syncMonitor (fun _ final => final.owes = false) state

/-- A coroutine that owes nothing when it starts synchronises throughout. -/
def Settled {α : Type} (code : ServiceCode α) : Prop :=
  ∀ state : SyncState, state.owes = false → Synchronises code state

section Coroutines

variable {α β : Type} {state : SyncState} {code : ServiceCode α} {next : ServiceCode β}
  {changed : Bool} {records : List ClusterMember}

theorem Synchronises.bind {next : α → ServiceCode β} (first : Synchronises code state)
    (rest : ∀ value, Settled (next value)) :
    Synchronises (code >>= next) state := by
  refine Prog.Obeys.bind (first.mono fun result state settled => ?_)
  cases result with
  | ok value => exact rest value state settled
  | error error => exact settled

theorem Settled.bind {next : α → ServiceCode β} (first : Settled code)
    (rest : ∀ value, Settled (next value)) : Settled (code >>= next) :=
  fun state settled => (first state settled).bind rest

theorem settled_done (result : Except PeerException α) :
    Settled (.done result : ServiceCode α) := fun _ settled => settled

theorem Settled.attempt (settled : Settled code) : Settled code.attempt :=
  fun state owes => Prog.Obeys.attempt (settled state owes)

/-- An operation that neither changes the table nor rebuilds the ring. -/
theorem settled_op {op : ServiceOp} (guard : ∀ state, syncMonitor.guard state op)
    (same : ∀ answer, op.owesAfter answer false = false) : Settled (serviceOp op) := by
  intro state settled
  refine ⟨guard state, fun answer _ => ?_⟩
  change op.owesAfter answer state.owes = false
  rw [settled]
  exact same answer

theorem settled_snapshot : Settled (serviceOp .snapshot) :=
  settled_op (fun _ => trivial) fun _ => rfl

theorem settled_aliveMembers (includeSelf : Bool) :
    Settled (serviceOp (.aliveMembers includeSelf)) :=
  settled_op (fun _ => trivial) fun _ => rfl

theorem settled_stamp : Settled (serviceOp .stamp) :=
  settled_op (fun _ => trivial) fun _ => rfl

theorem settled_send (host : PyStr) (port : Nat) (message : Message) :
    Settled (serviceOp (.send host port message)) :=
  settled_op (fun _ => trivial) fun _ => rfl

theorem settled_receive (message : Message) : Settled (serviceOp (.receive message)) :=
  settled_op (fun _ => trivial) fun _ => rfl

theorem settled_probeCandidates : Settled (serviceOp .probeCandidates) :=
  settled_op (fun _ => trivial) fun _ => rfl

theorem settled_choose (options : List ClusterMember) : Settled (serviceOp (.choose options)) :=
  settled_op (fun _ => trivial) fun _ => rfl

theorem synchronises_syncRing (state : SyncState) : Synchronises syncRing state := by
  refine ⟨trivial, fun answer _ => ?_⟩
  cases answer with
  | none => exact (rfl : ServiceOp.owesAfter .outdated none state.owes = false)
  | some version => exact ⟨rfl, fun _ _ => rfl⟩

theorem synchronises_syncIf (owes : changed = false → state.owes = false) :
    Synchronises (syncIf changed) state := by
  cases changed with
  | true => exact synchronises_syncRing state
  | false => exact owes rfl

/-- The state after an update that has changed the table or not. -/
theorem owes_update (settled : state.owes = false) (same : changed = false) :
    (changed || state.owes) = false := by
  rw [same, settled]
  rfl

/-- `merge` and then `sync_ring`, whatever the merge returns. -/
theorem settled_merge_syncRing (rest : Settled next) :
    Settled (do let _ ← serviceOp (.merge records); syncRing; next) :=
  fun _ _ => ⟨trivial, fun _ _ => (synchronises_syncRing _).bind fun _ => rest⟩

/-- `if await merge(...): await sync_ring()`. -/
theorem settled_merge_syncIf (records : List ClusterMember) :
    Settled (do let changed ← serviceOp (.merge records); syncIf changed) :=
  fun _ settled => ⟨trivial, fun _ _ => synchronises_syncIf fun same => owes_update settled same⟩

theorem settled_merge_syncIf_then (rest : Settled next) :
    Settled (do let changed ← serviceOp (.merge records); syncIf changed; next) :=
  fun _ settled => ⟨trivial, fun _ _ =>
    (synchronises_syncIf fun same => owes_update settled same).bind fun _ => rest⟩

theorem settled_markSuspect_syncIf (id : NodeId) :
    Settled (do let changed ← serviceOp (.markSuspect id); syncIf changed) :=
  fun _ settled => ⟨trivial, fun _ _ => synchronises_syncIf fun same => owes_update settled same⟩

theorem settled_advance_syncIf_then (rest : Settled next) :
    Settled (do let changed ← serviceOp .advance; syncIf changed; next) :=
  fun _ settled => ⟨trivial, fun _ _ =>
    (synchronises_syncIf fun same => owes_update settled same).bind fun _ => rest⟩

theorem settled_swallowing {body : ServiceCode α} (settled : Settled body) :
    Settled (swallowing body) := by
  refine fun state owes => Prog.Obeys.catching ?_
  refine ((settled.bind fun value => settled_done _) state owes).mono fun result state owes => ?_
  cases result with
  | ok value => exact owes
  | error error =>
      dsimp only
      split
      · exact owes
      · exact owes

theorem settled_gather {bodies : List (ServiceCode α)}
    (settled : ∀ body ∈ bodies, Settled body) : Settled (gather bodies) := by
  induction bodies with
  | nil => exact settled_done _
  | cons body rest ih =>
      obtain ⟨first, others⟩ := List.forall_mem_cons.mp settled
      exact first.attempt.bind fun _ => (ih others).attempt.bind fun _ => settled_done _

variable (config : ServiceConfig)

theorem settled_exchangeEndpoint (host : PyStr) (port : Nat) (message : Message) :
    Settled (PeerClient.exchangeEndpoint host port message) :=
  (settled_send host port message).bind fun _ =>
    (settled_receive message).bind fun _ => settled_done _

theorem settled_newRequest (msgType : MessageType) (payload : List UInt8) :
    Settled (PeerClient.newRequest config msgType payload) :=
  settled_stamp.bind fun _ => settled_done _

theorem settled_askForAck (peer : ClusterMember) (msgType : MessageType)
    (encoded : Except PyError (List UInt8)) :
    Settled (PeerClient.askForAck config peer msgType encoded) := by
  refine (settled_done _).bind fun payload => (settled_newRequest config _ _).bind fun request =>
    (settled_exchangeEndpoint _ _ _).bind fun response => ?_
  split
  · exact settled_done _
  · exact settled_done _

theorem settled_join (seed : SeedAddress) : Settled (PeerClient.join config seed) := by
  refine (settled_done _).bind fun payload => (settled_newRequest config _ _).bind fun request =>
    (settled_exchangeEndpoint _ _ _).bind fun response => ?_
  split
  · exact settled_done _
  · exact settled_done _

theorem settled_joinAny (seeds : List SeedAddress) :
    Settled (ClusterService.joinAny config seeds) := by
  induction seeds with
  | nil => exact settled_done _
  | cons seed rest ih =>
      refine (settled_swallowing (settled_join config seed)).bind fun snapshot => ?_
      cases snapshot with
      | none => exact ih
      | some snapshot =>
          exact fun _ _ => ⟨trivial, fun _ _ => synchronises_syncRing _⟩

theorem synchronises_bootstrap (state : SyncState) :
    Synchronises (ClusterService.bootstrap config) state := by
  refine (synchronises_syncRing state).bind fun _ => ?_
  split
  · exact settled_done _
  · dsimp only
    split
    · exact settled_done _
    · exact settled_joinAny config _

theorem settled_respond (request : Message) (msgType : MessageType)
    (encoded : Except PyError (List UInt8)) :
    Settled (ClusterService.respond config request msgType encoded) :=
  (settled_done _).bind fun _ => settled_stamp.bind fun _ => settled_done _

theorem settled_acknowledge (request : Message) (success : Bool) (target : NodeId) :
    Settled (ClusterService.acknowledge config request success target) :=
  settled_snapshot.bind fun _ => settled_respond config _ _ _

theorem settled_handlePingReq (message : Message) :
    Settled (ClusterService.handlePingReq config message) := by
  refine (settled_done _).bind fun decoded => settled_merge_syncRing ?_
  refine settled_snapshot.bind fun snapshot =>
    (settled_swallowing (settled_askForAck config _ _ _)).bind fun ack => ?_
  split
  · exact settled_merge_syncIf_then (settled_acknowledge config _ _ _)
  · exact settled_acknowledge config _ _ _

theorem settled_handleControl (message : Message) :
    Settled (ClusterService.handleControl config message) := by
  unfold ClusterService.handleControl
  split
  · exact (settled_done _).bind fun joining => settled_merge_syncRing
      (settled_snapshot.bind fun _ => settled_respond config _ _ _)
  · exact (settled_done _).bind fun incoming => settled_merge_syncRing
      (settled_acknowledge config _ _ _)
  · exact settled_handlePingReq config message
  · exact (settled_done _).bind fun incoming => settled_merge_syncRing
      (settled_acknowledge config _ _ _)
  · exact settled_done _

theorem settled_detector : Settled (FailureDetector.runOnce config) := by
  refine settled_advance_syncIf_then (settled_probeCandidates.bind fun candidates => ?_)
  split
  · exact settled_done _
  · refine (settled_choose _).bind fun target => settled_snapshot.bind fun snapshot =>
      (settled_swallowing (settled_askForAck config _ _ _)).bind fun ack => ?_
    split
    · exact settled_merge_syncIf _
    · refine (settled_aliveMembers false).bind fun alive => ?_
      refine (settled_gather fun body listed => ?_).bind fun results => ?_
      · obtain ⟨helper, _, rfl⟩ := List.mem_map.mp listed
        exact settled_swallowing (settled_askForAck config _ _ _)
      · split
        · exact settled_merge_syncIf _
        · exact settled_markSuspect_syncIf _

theorem settled_gossipLoop : Settled (GossipLoop.runOnce config) := by
  refine (settled_aliveMembers false).bind fun peers => ?_
  split
  · exact settled_done _
  · refine (settled_choose _).bind fun peer => settled_snapshot.bind fun snapshot =>
      (settled_swallowing (settled_askForAck config _ _ _)).bind fun ack => ?_
    cases ack with
    | none => exact settled_done _
    | some ack => exact settled_merge_syncIf _

end Coroutines

namespace ServiceState

variable {settings : MembershipSettings}

/-- The ring is the one of the current members. -/
def Current (hash : PyStr → Nat) (state : ServiceState settings) : Prop :=
  state.ring = state.ring.rebuild hash state.membership.snapshot

theorem outdated_eq_none {state : ServiceState settings} :
    state.outdated = none ↔ (state.membership.version : Int) = state.ringVersion := by
  unfold outdated
  split
  · next same => exact iff_of_true rfl same
  · next differs => exact iff_of_false nofun differs

theorem outdated_eq_some {state : ServiceState settings} {version : Nat}
    (found : state.outdated = some version) : state.membership.version = version := by
  unfold outdated at found
  split at found
  · cases found
  · exact Option.some.inj found

/-- The operation has left the members, their version and the ring as they were. -/
structure Same (before after : ServiceState settings) : Prop where
  members : after.membership.members = before.membership.members
  version : after.membership.version = before.membership.version
  ring : after.ring = before.ring
  ringVersion : after.ringVersion = before.ringVersion

theorem Same.refl (state : ServiceState settings) : state.Same state := ⟨rfl, rfl, rfl, rfl⟩

theorem Same.current {before after : ServiceState settings} {hash : PyStr → Nat}
    (same : before.Same after) (current : before.Current hash) : after.Current hash := by
  have snapshots : after.membership.snapshot = before.membership.snapshot :=
    congrArg (fun members => members.records.items.map Prod.snd) same.members
  unfold Current
  rw [same.ring, snapshots]
  exact current

/-- An update of the table that reports no change is none. -/
theorem same_of_step {before : ServiceState settings} {outcome : Bool × MembershipTable settings}
    (step : before.membership.Step outcome.2 outcome.1) (unchanged : outcome.1 = false) :
    before.Same (before.withTable outcome).2 := by
  refine ⟨?_, ?_, rfl, rfl⟩
  · by_contra differs
    exact Bool.false_ne_true (unchanged.symm.trans (step.changes.mpr differs))
  · have version := step.version
    rw [unchanged] at version
    exact version

end ServiceState

namespace ServiceSystem

variable {config : ServiceConfig} {system : ServiceSystem config} {index : Nat}

/-- The ring was rebuilt for a version between the one that is recorded and the current one;
no coroutine has read a later version; and the ring is current unless one of them owes a
synchronisation. -/
structure Kept (system : ServiceSystem config) : Prop where
  ring : ∃ version : Nat, system.state.ringVersion ≤ version ∧
    version ≤ system.state.membership.version ∧
    (version = system.state.membership.version → system.state.Current config.hash)
  tasks : ∀ task ∈ system.tasks, ∃ read, Synchronises task.code ⟨task.owes, read⟩ ∧
    ∀ version ∈ read, version ≤ system.state.membership.version
  owed : system.state.Current config.hash ∨ ∃ task ∈ system.tasks, task.owes = true

theorem kept_initial (config : ServiceConfig) : (initial config).Kept where
  ring := ⟨0, (by decide : (-1 : Int) ≤ 0), Nat.zero_le _, fun same => absurd same Nat.zero_ne_one⟩
  tasks task listed := by
    cases List.mem_singleton.mp listed
    exact ⟨none, synchronises_bootstrap config _, nofun⟩
  owed := .inr ⟨_, .head _, rfl⟩

theorem Kept.spawn (kept : system.Kept) {code : ServiceCode Unit} (settled : Settled code) :
    (system.spawn code).Kept where
  ring := kept.ring
  tasks task listed := by
    rcases List.mem_concat_cases listed with old | rfl
    · exact kept.tasks task old
    · exact ⟨none, settled _ rfl, nofun⟩
  owed := kept.owed.imp id fun ⟨task, listed, owes⟩ =>
    ⟨task, List.mem_append_left _ listed, owes⟩

/-- A coroutine that goes on, in a state that is later for all of them. -/
theorem Kept.replace (kept : system.Kept) {state : ServiceState config.settings}
    {task : ServiceTask} {read : Option Nat}
    (later : system.state.membership.version ≤ state.membership.version)
    (ring : ∃ version : Nat, state.ringVersion ≤ version ∧ version ≤ state.membership.version ∧
      (version = state.membership.version → state.Current config.hash))
    (synchronises : Synchronises task.code ⟨task.owes, read⟩)
    (bounded : ∀ version ∈ read, version ≤ state.membership.version)
    (owed : state.Current config.hash ∨
      ∃ other ∈ system.tasks.set index task, other.owes = true) :
    (⟨state, system.tasks.set index task⟩ : ServiceSystem config).Kept where
  ring := ring
  owed := owed
  tasks other listed := by
    rcases List.mem_or_eq_of_mem_set listed with old | rfl
    · obtain ⟨seen, obeys, early⟩ := kept.tasks other old
      exact ⟨seen, obeys, fun version among => (early version among).trans later⟩
    · exact ⟨read, synchronises, bounded⟩

/-- A coroutine whose operation leaves the table and the ring as they were. -/
theorem Kept.same {system : ServiceSystem config} (kept : system.Kept) {index : Nat}
    {state : ServiceState config.settings} {old task : ServiceTask} {read : Option Nat}
    (found : system.tasks[index]? = some old) (same : system.state.Same state)
    (owes : task.owes = old.owes) (synchronises : Synchronises task.code ⟨task.owes, read⟩)
    (bounded : ∀ version ∈ read, version ≤ system.state.membership.version) :
    (⟨state, system.tasks.set index task⟩ : ServiceSystem config).Kept := by
  refine kept.replace same.version.ge ?_ synchronises ?_ ?_
  · obtain ⟨version, recorded, early, current⟩ := kept.ring
    rw [same.ringVersion, same.version]
    exact ⟨version, recorded, early, fun last => same.current (current last)⟩
  · rw [same.version]
    exact bounded
  · refine kept.owed.imp same.current ?_
    rintro ⟨other, listed, owing⟩
    have there : index < system.tasks.length := (List.getElem?_eq_some_iff.mp found).1
    obtain ⟨place, at_⟩ := List.mem_iff_getElem?.mp listed
    by_cases here : index = place
    · subst here
      cases found.symm.trans at_
      exact ⟨task, List.mem_set there task, owes.trans owing⟩
    · refine ⟨other, List.mem_iff_getElem?.mpr ⟨place, ?_⟩, owing⟩
      rw [List.getElem?_set_ne here]
      exact at_

/-- A coroutine that updates the table. -/
theorem Kept.update (kept : system.Kept) {old : ServiceTask}
    {outcome : Bool × MembershipTable config.settings} {code : ServiceCode Unit}
    (found : system.tasks[index]? = some old)
    (step : system.state.membership.Step outcome.2 outcome.1)
    (synchronises : Synchronises code ⟨outcome.1 || old.owes, none⟩) :
    (⟨(system.state.withTable outcome).2,
      system.tasks.set index ⟨code, outcome.1 || old.owes⟩⟩ : ServiceSystem config).Kept := by
  cases changed : outcome.1 with
  | false =>
      rw [changed] at synchronises
      exact kept.same found (ServiceState.same_of_step step changed) rfl synchronises nofun
  | true =>
      rw [changed] at synchronises
      have version : outcome.2.version = system.state.membership.version + 1 := by
        rw [step.version, changed]
        rfl
      obtain ⟨last, recorded, early, _⟩ := kept.ring
      refine kept.replace (version.symm ▸ Nat.le_succ _) ⟨last, recorded, ?_, fun same => ?_⟩
        synchronises nofun (.inr ⟨_, List.mem_set (List.getElem?_eq_some_iff.mp found).1 _, rfl⟩)
      · exact version.symm ▸ early.trans (Nat.le_succ _)
      · have same : last = system.state.membership.version + 1 := same.trans version
        omega

theorem Kept.run {system : ServiceSystem config} (kept : system.Kept) {index : Nat}
    {op : ServiceOp} {next : op.Answer → ServiceCode Unit} {owes : Bool} {input : ServiceInput}
    {answer : op.Answer} {state : ServiceState config.settings}
    (found : system.tasks[index]? = some ⟨.act op next, owes⟩)
    (performed : system.state.perform config.hash input op = some (answer, state)) :
    (⟨state, system.tasks.set index ⟨next answer, op.owesAfter answer owes⟩⟩ :
      ServiceSystem config).Kept := by
  obtain ⟨read, obeys, early⟩ := kept.tasks _ (List.mem_of_getElem? found)
  have continues := obeys.2 answer trivial
  cases op with
  | merge records =>
      cases performed
      exact kept.update found (MembershipTable.step_merge _ _) continues
  | markSuspect id =>
      cases performed
      exact kept.update found (MembershipTable.step_markSuspect _ _ _) continues
  | advance =>
      cases performed
      exact kept.update found (MembershipTable.step_advance _ _) continues
  | outdated =>
      have answered : system.state.outdated = answer ∧ system.state = state := by
        cases performed
        exact ⟨rfl, rfl⟩
      obtain ⟨answered, rfl⟩ := answered
      cases answer with
      | none =>
          have upToDate := ServiceState.outdated_eq_none.mp answered
          obtain ⟨last, recorded, earlier, current⟩ := kept.ring
          exact kept.replace le_rfl kept.ring continues nofun (.inl (current (by omega)))
      | some version =>
          refine kept.same found (.refl _) rfl continues ?_
          rintro _ ⟨⟩
          exact (ServiceState.outdated_eq_some answered).ge
  | rebuildRing version =>
      cases performed
      have known : version ≤ system.state.membership.version := early version obeys.1
      exact kept.replace le_rfl ⟨_, Int.ofNat_le.mpr known, le_rfl, fun _ => rfl⟩ continues nofun
        (.inl rfl)
  | choose options =>
      rw [ServiceState.perform] at performed
      split at performed
      · cases performed
        exact kept.same found (.refl _) rfl continues nofun
      · cases performed
  | snapshot =>
      cases performed
      exact kept.same found (.refl _) rfl continues nofun
  | aliveMembers includeSelf =>
      cases performed
      exact kept.same found (.refl _) rfl continues nofun
  | probeCandidates =>
      cases performed
      exact kept.same found (.refl _) rfl continues nofun
  | stamp =>
      cases performed
      exact kept.same found (.refl _) rfl continues nofun
  | send host port message =>
      cases performed
      exact kept.same found (.refl _) rfl continues nofun
  | receive message =>
      cases performed
      exact kept.same found (.refl _) rfl continues nofun

theorem Kept.step {next : ServiceSystem config} (kept : system.Kept) {label : ServiceLabel}
    (stepped : system.step label = some next) : next.Kept := by
  cases label with
  | control message =>
      cases stepped
      exact kept.spawn ((settled_handleControl config message).bind fun _ => settled_done _)
  | detect =>
      cases stepped
      exact kept.spawn (settled_detector config)
  | gossip =>
      cases stepped
      exact kept.spawn (settled_gossipLoop config)
  | run index input =>
      rw [ServiceSystem.step] at stepped
      split at stepped
      · next op rest owes found =>
        split at stepped
        · next answer state performed =>
          cases stepped
          exact kept.run found performed
        · cases stepped
      · cases stepped

theorem kept_of_reachable (reached : ServiceReachable config system) : system.Kept := by
  induction reached with
  | initial => exact kept_initial config
  | step label _ stepped ih => exact ih.step stepped

/-- In every interleaving: when the recorded version is the one of the table, the ring is the
one of the current members; and when no coroutine is between its update of the table and the
end of its `sync_ring`, the members on the ring are the ALIVE members of the table, so that
the candidates of a key are ALIVE. -/
theorem ring_reflects_table (config : ServiceConfig) (system : ServiceSystem config)
    (reached : ServiceReachable config system) :
    (system.state.ringVersion = system.state.membership.version →
      system.state.ring = system.state.ring.rebuild config.hash system.state.membership.snapshot) ∧
    ((∀ task ∈ system.tasks, ¬ task.Between) →
      (∀ member, member ∈ system.state.ring.owners ↔
        member ∈ system.state.membership.aliveMembers true) ∧
      ∀ key candidates, system.state.ring.candidates config.hash key = .ok candidates →
        ∀ member ∈ candidates, ∃ id, system.state.membership.get id = some member ∧
          member.status = .alive) := by
  have kept := kept_of_reachable reached
  constructor
  · intro recorded
    obtain ⟨version, early, late, current⟩ := kept.ring
    exact current (by omega)
  · intro none
    have current : system.state.Current config.hash := by
      refine kept.owed.resolve_right ?_
      rintro ⟨task, listed, owes⟩
      refine none task listed ⟨owes, fun result finished => ?_⟩
      -- a coroutine that has ended owes nothing
      obtain ⟨read, synchronises, _⟩ := kept.tasks task listed
      rw [finished] at synchronises
      exact Bool.false_ne_true (synchronises.symm.trans owes)
    have owners : ∀ member, member ∈ system.state.ring.owners ↔
        member ∈ system.state.membership.snapshot ∧ member.status = .alive := by
      intro member
      rw [current]
      exact ConsistentHashRing.mem_owners
    refine ⟨fun member => ?_, fun key candidates found member listed => ?_⟩
    · rw [owners, MembershipTable.aliveMembers, List.mem_filter, decide_eq_true_iff]
      exact and_congr_right fun _ => (and_iff_left (.inl rfl)).symm
    · obtain ⟨there, alive⟩ :=
        (owners member).mp (ConsistentHashRing.mem_owners_of_candidates found listed)
      obtain ⟨id, stored⟩ := MembershipTable.mem_snapshot.mp there
      exact ⟨id, stored, alive⟩

/-- A node without seeds. -/
def loneConfig : ServiceConfig where
  settings := MembershipTable.loneSettings
  localMember := MembershipTable.loneMember
  own := MembershipTable.loneMember_own
  alive := rfl
  seeds := []
  ring := ⟨1, Nat.one_pos, []⟩
  hash _ := 0
  wire := Layout.cluster
  indirectProbeCount := 1

/-- A peer tells its records. -/
def gossipOf (members : List ClusterMember) : Message :=
  ⟨.gossip, MembershipTable.peerId.val, [99], 0, 8,
    (encodeGossip Layout.cluster members).toOption.getD [], [], []⟩

/-- After its start the node handles two messages at once. The first says that a peer is ALIVE,
and its `sync_ring` has read the version when the second says that the peer is SUSPECT. -/
def overlappingGossip : List ServiceLabel :=
  [.run 0 .quiet, .run 0 .quiet, .control (gossipOf [MembershipTable.peerMember .alive 0]),
    .control (gossipOf [MembershipTable.peerMember .suspect 0]), .run 1 .quiet, .run 1 .quiet,
    .run 2 .quiet, .run 2 .quiet, .run 1 .quiet, .run 2 .quiet]

/-- When both messages have been handled, the local member is on the ring and the peer, which
the table holds as SUSPECT, is not. -/
theorem ring_reflects_table_overlapping :
    ∃ system, ServiceReachable loneConfig system ∧ (∀ task ∈ system.tasks, ¬ task.Between) ∧
      MembershipTable.loneMember ∈ system.state.ring.owners ∧
      MembershipTable.peerMember .suspect 0 ∈ system.state.membership.snapshot ∧
      MembershipTable.peerMember .suspect 0 ∉ system.state.ring.owners := by
  obtain ⟨system, reached, checked⟩ := exists_of_run loneConfig overlappingGossip
    (fun system => system.tasks.all (fun task => !task.owes) &&
      (decide (MembershipTable.loneMember ∈ system.state.membership.aliveMembers true) &&
        decide (MembershipTable.peerMember .suspect 0 ∈ system.state.membership.snapshot)))
    (by decide +kernel)
  simp only [Bool.and_eq_true, List.all_eq_true, decide_eq_true_iff] at checked
  obtain ⟨settled, alive, told⟩ := checked
  have idle : ∀ task ∈ system.tasks, ¬ task.Between := by
    intro task listed between
    have done := settled task listed
    rw [between.1] at done
    cases done
  have owners := ((ring_reflects_table loneConfig system reached).2 idle).1
  refine ⟨system, reached, idle, (owners _).mpr alive, told, fun placed => ?_⟩
  have living := (List.mem_filter.mp ((owners _).mp placed)).2
  exact absurd living (by decide)

end ServiceSystem

end Distsys
