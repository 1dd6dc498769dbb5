import Distsys.Lib.Monitor
import Distsys.Membership.Service
import Distsys.Transport.Reading

/-!
# A cluster of services

Every node runs its service, and messages travel between them. A message may be delivered
to any node, in any order and any number of times, or never, and an exchange may fail or
bring any message that was ever sent. The records that a coroutine merges or sends are
records that it has read: from its table, from the message it handles or from a response.
-/

namespace Distsys

/-- One service for each node identifier. -/
structure Fleet where
  wire : ClusterWire (List UInt8)
  config : NodeId → ServiceConfig
  placed : ∀ id, (config id).settings.localNodeId = id
  shared : ∀ id, (config id).wire = wire

/-- The coroutines run at their nodes. -/
structure FleetTask where
  node : NodeId
  code : ServiceCode Unit

/-- The services, their coroutines and the messages sent. -/
structure FleetState (fleet : Fleet) where
  services : (id : NodeId) → ServiceState (fleet.config id).settings
  flight : List Message := []
  tasks : List FleetTask := []

/-- The steps of a fleet. -/
inductive FleetLabel
  | start (id : NodeId)
  | deliver (index : Nat) (id : NodeId)
  | detect (id : NodeId)
  | gossip (id : NodeId)
  | run (index : Nat) (input : ServiceInput)

namespace FleetState

variable {fleet : Fleet}

/-- No node has started. -/
def initial (fleet : Fleet) : FleetState fleet :=
  { services := fun id => (fleet.config id).initial }

/-- The table of a node. -/
def table (state : FleetState fleet) (id : NodeId) : MembershipTable (fleet.config id).settings :=
  (state.services id).membership

/-- The record of a node in its own table. -/
def own (state : FleetState fleet) (id : NodeId) : ClusterMember :=
  (state.table id).members.localMember

/-- A new coroutine of a node. -/
def spawn (state : FleetState fleet) (id : NodeId) (code : ServiceCode Unit) : FleetState fleet :=
  { state with tasks := state.tasks ++ [⟨id, code⟩] }

/-- Handle a message and send the response. -/
def handler (fleet : Fleet) (id : NodeId) (message : Message) : ServiceCode Unit := do
  let response ← ClusterService.handleControl (fleet.config id) message
  serviceOp (.send [] 0 response)

/-- The messages that were sent, after an operation. -/
def flightAfter (flight : List Message) : ServiceOp → List Message
  | .send _ _ message => flight ++ [message]
  | _ => flight

/-- Only messages that were sent are received. -/
def received (flight : List Message) : (op : ServiceOp) → op.Answer → Bool
  | .receive _, .ok message => message ∈ flight
  | _, _ => true

/-- Let a coroutine perform its next operation. -/
def runTask (state : FleetState fleet) (index : Nat) (input : ServiceInput) :
    Option (FleetState fleet) :=
  match state.tasks[index]? with
  | some ⟨id, .act op next⟩ =>
      match (state.services id).perform (fleet.config id).hash input op with
      | some (answer, service) =>
          if received state.flight op answer then
            some ⟨Function.update state.services id service, flightAfter state.flight op,
              state.tasks.set index ⟨id, next answer⟩⟩
          else none
      | none => none
  | _ => none

/-- One step, if it can take place. -/
def step (state : FleetState fleet) : FleetLabel → Option (FleetState fleet)
  | .start id => some (state.spawn id (ClusterService.bootstrap (fleet.config id)))
  | .deliver index id =>
      match state.flight[index]? with
      | some message => some (state.spawn id (handler fleet id message))
      | none => none
  | .detect id => some (state.spawn id (FailureDetector.runOnce (fleet.config id)))
  | .gossip id => some (state.spawn id (GossipLoop.runOnce (fleet.config id)))
  | .run index input => state.runTask index input

end FleetState

/-- The states that a cluster reaches. -/
inductive FleetReachable (fleet : Fleet) : FleetState fleet → Prop
  | initial : FleetReachable fleet (.initial fleet)
  | step {state next : FleetState fleet} (label : FleetLabel)
      (reached : FleetReachable fleet state) (stepped : state.step label = some next) :
      FleetReachable fleet next

/-- The records that a message carries. -/
def Message.Carries (wire : ClusterWire (List UInt8)) (message : Message) (member : ClusterMember) :
    Prop :=
  match message.msgType with
  | .joinRequest => decodeJoinRequest wire message.payload = .ok member
  | .joinResponse => ∃ members, decodeJoinResponse wire message.payload = .ok members ∧
      member ∈ members
  | .ping => ∃ members, decodePing wire message.payload = .ok members ∧ member ∈ members
  | .ack => ∃ ack, decodeAck wire message.payload = .ok ack ∧ member ∈ ack.gossip
  | .pingReq => ∃ target members, decodePingRequest wire message.payload = .ok (target, members) ∧
      (member = target ∨ member ∈ members)
  | .gossip => ∃ members, decodeGossip wire message.payload = .ok members ∧ member ∈ members
  | _ => False

/-- The records that an answer brings. -/
def ServiceOp.Brings (wire : ClusterWire (List UInt8)) (member : ClusterMember) :
    (op : ServiceOp) → op.Answer → Prop
  | .snapshot, members | .aliveMembers _, members | .probeCandidates, members =>
      member ∈ members
  | .receive _, .ok message => message.Carries wire member
  | _, _ => False

/-- A coroutine knows the records that it has read. It merges and sends no others. -/
def knowledge (wire : ClusterWire (List UInt8)) :
    Monitor serviceSignature (ClusterMember → Prop) where
  guard known op := match op with
    | .merge records => ∀ member ∈ records, known member
    | .send _ _ message => ∀ member, message.Carries wire member → known member
    | _ => True
  legal _ op answer := match op with
    | .choose options => (answer : ClusterMember) ∈ options
    | _ => True
  next known op answer member := known member ∨ ServiceOp.Brings wire member op answer

/-- The coroutine uses what it knows, and its result is among what it knows then. -/
def Uses {α : Type} (wire : ClusterWire (List UInt8)) (told : α → ClusterMember → Prop)
    (code : ServiceCode α) (known : ClusterMember → Prop) : Prop :=
  code.Obeys (knowledge wire) (fun result final => (∀ member, known member → final member) ∧
    ∀ value, result = .ok value → ∀ member, told value member → final member) known

section Coroutines

variable {α β : Type} {wire : ClusterWire (List UInt8)} {known : ClusterMember → Prop}
  {told : α → ClusterMember → Prop} {final : β → ClusterMember → Prop} {code : ServiceCode α}
  {next : α → ServiceCode β} {result : Except PyError α} {message : Message}
  {encoded : Except PyError (List UInt8)} {target : ClusterMember} {members : List ClusterMember}

/-- Sequencing: the second coroutine knows what the first one has learned. -/
theorem Uses.bind (first : Uses wire told code known)
    (rest : ∀ value more, (∀ member, known member → more member) →
      (∀ member, told value member → more member) → Uses wire final (next value) more) :
    Uses wire final (code >>= next) known := by
  refine Prog.Obeys.bind (first.mono fun result more learned => ?_)
  cases result with
  | ok value =>
      refine (rest value more learned.1 (learned.2 value rfl)).mono fun result last further => ?_
      exact ⟨fun member before => further.1 member (learned.1 member before), further.2⟩
  | error error => exact ⟨learned.1, nofun⟩

/-- What raises or returns at once. -/
theorem uses_done {result : Except PeerException α}
    (within : ∀ value, result = .ok value → ∀ member, told value member → known member) :
    Uses wire told (.done result) known := ⟨fun _ => id, within⟩

theorem uses_error (error : PeerException) : Uses wire told (.done (.error error)) known :=
  uses_done nofun

theorem Uses.attempt (uses : Uses wire told code known) :
    Uses wire (fun result member => ∃ value, result = .ok value ∧ told value member)
      code.attempt known := by
  refine Prog.Obeys.attempt (uses.mono fun result last learned => ⟨learned.1, ?_⟩)
  rintro _ ⟨⟩ member ⟨value, rfl, tells⟩
  exact learned.2 value rfl member tells

/-- An operation that brings records. -/
theorem uses_op (op : ServiceOp) (guard : (knowledge wire).guard known op) :
    Uses wire (fun answer member => ServiceOp.Brings wire member op answer) (serviceOp op)
      known := by
  refine ⟨guard, fun answer _ => ⟨fun member before => .inl before, ?_⟩⟩
  rintro _ ⟨⟩ member brings
  exact .inr brings

/-- The records of a list. -/
abbrev listed (members : List ClusterMember) (member : ClusterMember) : Prop := member ∈ members

/-- Nothing is told. -/
abbrev nothing {α : Type} (_ : α) (_ : ClusterMember) : Prop := False

theorem Uses.weaken {less : α → ClusterMember → Prop} (uses : Uses wire told code known)
    (weaker : ∀ value member, less value member → told value member) :
    Uses wire less code known :=
  Prog.Obeys.mono uses fun _ _ learned => ⟨learned.1, fun value same member tells =>
    learned.2 value same member (weaker value member tells)⟩

theorem uses_merge {records : List ClusterMember} (within : ∀ member ∈ records, known member) :
    Uses wire nothing (serviceOp (.merge records)) known :=
  (uses_op (.merge records) within).weaken fun _ _ none => none.elim

theorem uses_snapshot : Uses wire listed (serviceOp .snapshot) known :=
  uses_op .snapshot trivial

theorem uses_aliveMembers (includeSelf : Bool) :
    Uses wire listed (serviceOp (.aliveMembers includeSelf)) known :=
  uses_op (.aliveMembers includeSelf) trivial

theorem uses_probeCandidates : Uses wire listed (serviceOp .probeCandidates) known :=
  uses_op .probeCandidates trivial

theorem uses_choose {options : List ClusterMember} (within : ∀ member ∈ options, known member) :
    Uses wire (fun chosen member => member = chosen) (serviceOp (.choose options)) known := by
  refine ⟨trivial, fun chosen among => ⟨fun member before => .inl before, ?_⟩⟩
  rintro _ ⟨⟩ member rfl
  exact .inl (within member among)

theorem uses_syncRing : Uses wire nothing syncRing known := by
  refine (uses_op .outdated trivial).bind fun version more wider _ => ?_
  cases version with
  | none => exact uses_done fun _ _ _ none => none.elim
  | some version => exact (uses_op (.rebuildRing version) trivial).weaken fun _ _ none => none.elim

theorem uses_syncIf (changed : Bool) : Uses wire nothing (syncIf changed) known := by
  cases changed with
  | true => exact uses_syncRing
  | false => exact uses_done fun _ _ _ none => none.elim

theorem uses_swallowing {body : ServiceCode α} (uses : Uses wire told body known) :
    Uses wire (fun result member => ∃ value, result = some value ∧ told value member)
      (swallowing body) known := by
  have wrapped : Uses wire (fun result member => ∃ value, result = some value ∧ told value member)
      (do let value ← body; return some value) known := by
    refine uses.bind fun value more _ tells => uses_done ?_
    rintro _ ⟨⟩ member ⟨_, ⟨⟩, told⟩
    exact tells member told
  refine Prog.Obeys.catching (wrapped.mono fun result more learned => ?_)
  cases result with
  | ok value => exact learned
  | error error =>
      dsimp only
      split
      · refine ⟨learned.1, ?_⟩
        rintro _ ⟨⟩ member ⟨_, ⟨⟩, _⟩
      · exact ⟨learned.1, nofun⟩

theorem uses_gather {bodies : List (ServiceCode α)}
    (uses : ∀ body ∈ bodies, ∀ more : ClusterMember → Prop, (∀ member, known member → more member) →
      Uses wire told body more) :
    Uses wire (fun values member => ∃ value ∈ values, told value member) (gather bodies) known := by
  induction bodies generalizing known with
  | nil =>
      refine uses_done ?_
      rintro _ ⟨⟩ member ⟨_, ⟨⟩, _⟩
  | cons body rest ih =>
      obtain ⟨first, others⟩ := List.forall_mem_cons.mp uses
      refine (first known fun _ => id).attempt.bind fun head more wider tells => ?_
      refine (ih fun body listed most widest =>
        others body listed most fun member before => widest member (wider member before)
        ).attempt.bind fun tail most widest further => ?_
      refine uses_done ?_
      cases head with
      | error error => exact nofun
      | ok value =>
          cases tail with
          | error error => exact nofun
          | ok values =>
              rintro _ ⟨⟩ member ⟨other, among, told⟩
              rcases List.mem_cons.mp among with rfl | later
              · exact widest member (tells member ⟨_, rfl, told⟩)
              · exact further member ⟨_, rfl, other, later, told⟩

theorem uses_exchangeEndpoint (host : PyStr) (port : Nat)
    (within : ∀ member, message.Carries wire member → known member) :
    Uses wire (fun response member => response.Carries wire member)
      (PeerClient.exchangeEndpoint host port message) known := by
  refine (uses_op (.send host port message) within).bind fun _ more _ _ => ?_
  refine (uses_op (.receive message) trivial).bind fun response most _ brings => uses_done ?_
  rintro value rfl member carries
  exact brings member carries

/-- What a message of a type and a payload carries does not depend on the rest of it. -/
abbrev carriedBy (wire : ClusterWire (List UInt8)) (msgType : MessageType) (payload : List UInt8)
    (member : ClusterMember) : Prop :=
  Message.Carries wire ⟨msgType, [], [], 0, 8, payload, [], []⟩ member

theorem uses_orRaise_bind
    (rest : ∀ value, result = .ok value → Uses wire final (next value) known) :
    Uses wire final (orRaise result >>= next) known := by
  cases result with
  | ok value => exact rest value rfl
  | error error => exact uses_error _

theorem uses_orRaise
    (within : ∀ value, result = .ok value → ∀ member, told value member → known member) :
    Uses wire told (orRaise result) known :=
  uses_done fun value same => within value (fromCodec_eq_ok.mp same)

section Client

variable (config : ServiceConfig) {gossip : List ClusterMember}

theorem uses_newRequest_bind {msgType : MessageType} {payload : List UInt8}
    {next : Message → ServiceCode β}
    (rest : ∀ request more, (∀ member, known member → more member) →
      (∀ member, request.Carries wire member → carriedBy wire msgType payload member) →
      Uses wire final (next request) more) :
    Uses wire final (PeerClient.newRequest config msgType payload >>= next) known :=
  (uses_op .stamp trivial).bind fun _ more wider _ => rest _ more wider fun _ => id

/-- `ping`, `ping_request` and `gossip` tell the records of the acknowledgement. -/
theorem uses_askForAck (peer : ClusterMember) (msgType : MessageType)
    (within : ∀ payload, encoded = .ok payload → ∀ member,
      carriedBy config.wire msgType payload member → known member) :
    Uses config.wire (fun ack => listed ack.gossip)
      (PeerClient.askForAck config peer msgType encoded) known := by
  refine uses_orRaise_bind fun payload made =>
    uses_newRequest_bind config fun request more wider same => ?_
  refine (uses_exchangeEndpoint peer.host peer.port fun member carries =>
    wider member (within payload made member (same member carries))).bind
    fun response most _ tells => ?_
  split
  · exact uses_error _
  · next acks =>
    refine uses_orRaise fun ack decoded member among => tells member ?_
    unfold Message.Carries
    rw [not_not.mp acks]
    exact ⟨ack, decoded, among⟩

theorem uses_ping (peer : ClusterMember) (within : ∀ member ∈ gossip, known member) :
    Uses config.wire (fun ack => listed ack.gossip) (PeerClient.ping config peer gossip) known := by
  refine uses_askForAck config peer .ping ?_
  rintro payload encoded member ⟨members, decoded, among⟩
  cases (decodePing_of_encodePing encoded).symm.trans decoded
  exact within member among

theorem uses_pingRequest (helper : ClusterMember) (targeted : known target)
    (within : ∀ member ∈ gossip, known member) :
    Uses config.wire (fun ack => listed ack.gossip)
      (PeerClient.pingRequest config helper target gossip) known := by
  refine uses_askForAck config helper .pingReq ?_
  rintro payload encoded member ⟨_, members, decoded, among⟩
  cases (decodePingRequest_of_encodePingRequest encoded).symm.trans decoded
  rcases among with rfl | among
  · exact targeted
  · exact within member among

theorem uses_gossip (peer : ClusterMember) (within : ∀ member ∈ members, known member) :
    Uses config.wire (fun ack => listed ack.gossip)
      (PeerClient.gossip config peer members) known := by
  refine uses_askForAck config peer .gossip ?_
  rintro payload encoded member ⟨others, decoded, among⟩
  cases (decodeGossip_of_encodeGossip encoded).symm.trans decoded
  exact within member among

theorem uses_join (seed : SeedAddress) (within : known config.localMember) :
    Uses config.wire listed (PeerClient.join config seed) known := by
  refine uses_orRaise_bind fun payload encoded =>
    uses_newRequest_bind config fun request more wider same => ?_
  refine (uses_exchangeEndpoint seed.host seed.port fun member carries => ?_).bind
    fun response most _ tells => ?_
  · have decoded : decodeJoinRequest config.wire payload = .ok member := same member carries
    cases (decodeJoinRequest_of_encodeJoinRequest encoded).symm.trans decoded
    exact wider _ within
  · split
    · exact uses_error _
    · next joins =>
      refine uses_orRaise fun members decoded member among => tells member ?_
      unfold Message.Carries
      rw [not_not.mp joins]
      exact ⟨members, decoded, among⟩

end Client

/-- The records of a confirming acknowledgement are those of the acknowledgement. -/
theorem confirming_eq_some {ack : Option AckData} {confirmed : AckData}
    (found : confirming target ack = some confirmed) : ack = some confirmed :=
  (Option.filter_eq_some_iff.mp found).1

section Service

variable (config : ServiceConfig)

theorem uses_respond (request : Message) (msgType : MessageType)
    (within : ∀ payload, encoded = .ok payload → ∀ member,
      carriedBy wire msgType payload member → known member) :
    Uses wire (fun response member => response.Carries wire member)
      (ClusterService.respond config request msgType encoded) known := by
  refine uses_orRaise_bind fun payload made =>
    (uses_op .stamp trivial).bind fun stamp more wider _ => uses_done ?_
  rintro _ ⟨⟩ member carries
  exact wider member (within payload made member carries)

theorem uses_acknowledge (request : Message) (success : Bool) (target : NodeId) :
    Uses config.wire (fun response member => response.Carries config.wire member)
      (ClusterService.acknowledge config request success target) known := by
  refine uses_snapshot.bind fun snapshot more _ tells => uses_respond config request .ack ?_
  rintro payload encoded member ⟨ack, decoded, among⟩
  cases (decodeAck_of_encodeAck encoded).symm.trans decoded
  exact tells member among

theorem uses_handleJoin
    (within : ∀ joining, decodeJoinRequest config.wire message.payload = .ok joining →
      known joining) :
    Uses config.wire (fun response member => response.Carries config.wire member)
      (ClusterService.handleJoin config message) known := by
  refine uses_orRaise_bind fun joining decoded => ?_
  have merged : Uses config.wire nothing (serviceOp (.merge [joining])) known :=
    uses_merge fun member among => List.mem_singleton.mp among ▸ within joining decoded
  refine merged.bind fun _ more _ _ => uses_syncRing.bind fun _ most _ _ => ?_
  refine uses_snapshot.bind fun snapshot last _ tells =>
    uses_respond config message .joinResponse ?_
  rintro payload encoded member ⟨members, read, among⟩
  cases (decodeJoinResponse_of_encodeJoinResponse encoded).symm.trans read
  exact tells member among

theorem uses_handleGossip (message : Message) {decoded : Except PyError (List ClusterMember)}
    (within : ∀ members, decoded = .ok members → ∀ member ∈ members, known member) :
    Uses config.wire (fun response member => response.Carries config.wire member)
      (ClusterService.handleGossip config message decoded) known :=
  uses_orRaise_bind fun incoming same =>
    (uses_merge (within incoming same)).bind fun _ _ _ _ =>
      uses_syncRing.bind fun _ _ _ _ => uses_acknowledge config message true _

/-- `if ack is not None and ...: changed = await merge(ack.gossip); if changed: sync_ring`. -/
theorem uses_absorb {rest : ServiceCode β} (within : ∀ member ∈ members, known member)
    (after : ∀ more : ClusterMember → Prop, Uses wire final rest more) :
    Uses wire final (do
      let changed ← serviceOp (.merge members)
      syncIf changed
      rest) known :=
  (uses_merge within).bind fun changed _ _ _ => (uses_syncIf changed).bind fun _ more _ _ =>
    after more

theorem uses_mergeSync (within : ∀ member ∈ members, known member) :
    Uses wire nothing (do
      let changed ← serviceOp (.merge members)
      syncIf changed) known :=
  (uses_merge within).bind fun changed _ _ _ => uses_syncIf changed

theorem uses_handlePingReq (within : ∀ target members,
      decodePingRequest config.wire message.payload = .ok (target, members) →
      ∀ member ∈ members, known member) :
    Uses config.wire (fun response member => response.Carries config.wire member)
      (ClusterService.handlePingReq config message) known := by
  refine uses_orRaise_bind fun request decoded => ?_
  obtain ⟨target, incoming⟩ := request
  refine (uses_merge (within target incoming decoded)).bind fun _ _ _ _ =>
    uses_syncRing.bind fun _ _ _ _ => uses_snapshot.bind fun snapshot more _ tells => ?_
  refine (uses_swallowing (uses_ping config target tells)).bind fun ack most _ acknowledged => ?_
  cases found : confirming target ack with
  | none => exact uses_acknowledge config message false _
  | some confirmed =>
      refine uses_absorb (fun member among => acknowledged member ?_) fun _ =>
        uses_acknowledge config message true _
      exact ⟨confirmed, confirming_eq_some found, among⟩

theorem uses_handleControl (within : ∀ member, message.Carries config.wire member → known member) :
    Uses config.wire (fun response member => response.Carries config.wire member)
      (ClusterService.handleControl config message) known := by
  unfold ClusterService.handleControl
  unfold Message.Carries at within
  cases shape : message.msgType with
  | joinRequest =>
      rw [shape] at within
      exact uses_handleJoin config within
  | ping =>
      rw [shape] at within
      exact uses_handleGossip config message fun members decoded member among =>
        within member ⟨members, decoded, among⟩
  | gossip =>
      rw [shape] at within
      exact uses_handleGossip config message fun members decoded member among =>
        within member ⟨members, decoded, among⟩
  | pingReq =>
      rw [shape] at within
      exact uses_handlePingReq config fun target members decoded member among =>
        within member ⟨target, members, decoded, .inr among⟩
  | _ => exact uses_error _

theorem uses_joinAny (within : known config.localMember) (seeds : List SeedAddress) :
    Uses config.wire nothing (ClusterService.joinAny config seeds) known := by
  induction seeds generalizing known with
  | nil => exact uses_error _
  | cons seed rest ih =>
      refine (uses_swallowing (uses_join config seed within)).bind
        fun joined more wider tells => ?_
      cases joined with
      | none => exact ih (wider _ within)
      | some snapshot =>
          exact (uses_merge fun member among => tells member ⟨snapshot, rfl, among⟩).bind
            fun _ _ _ _ => uses_syncRing

theorem uses_bootstrap (within : known config.localMember) :
    Uses config.wire nothing (ClusterService.bootstrap config) known := by
  refine uses_syncRing.bind fun _ more wider _ => ?_
  split
  · exact uses_done fun _ _ _ none => none.elim
  · dsimp only
    split
    · exact uses_error _
    · exact uses_joinAny config (wider _ within) _

/-- The indirect probes through the helpers. -/
theorem uses_indirect {snapshot helpers : List ClusterMember} (targeted : known target)
    (within : ∀ member ∈ snapshot, known member) :
    Uses config.wire (fun results member => ∃ result ∈ results, ∃ ack : AckData,
        result = some ack ∧ member ∈ ack.gossip)
      (gather (helpers.map fun helper =>
        swallowing (PeerClient.pingRequest config helper target snapshot))) known := by
  refine uses_gather fun body among more wider => ?_
  obtain ⟨helper, -, rfl⟩ := List.mem_map.mp among
  exact uses_swallowing (uses_pingRequest config helper (wider target targeted)
    fun member listed => wider member (within member listed))

theorem uses_detector : Uses config.wire nothing (FailureDetector.runOnce config) known := by
  refine (uses_op .advance trivial).bind fun changed _ _ _ =>
    (uses_syncIf changed).bind fun _ _ _ _ => uses_probeCandidates.bind
      fun candidates more _ probed => ?_
  dsimp only
  split
  · exact uses_done fun _ _ _ none => none.elim
  refine (uses_choose probed).bind fun target _ _ chosen =>
    uses_snapshot.bind fun snapshot most wider tells => ?_
  have targeted : most target := wider target (chosen target rfl)
  refine (uses_swallowing (uses_ping config target tells)).bind
    fun ack last further acknowledged => ?_
  cases found : confirming target ack with
  | some confirmed =>
      exact uses_mergeSync fun member among =>
        acknowledged member ⟨confirmed, confirming_eq_some found, among⟩
  | none =>
      refine (uses_aliveMembers false).bind fun alive all beyond _ => ?_
      have reads : ∀ member, most member → all member := fun member before =>
        beyond member (further member before)
      refine (uses_indirect config (reads target targeted) fun member listed =>
        reads member (tells member listed)).bind fun results final _ answered => ?_
      cases confirmed : results.findSome? (confirming target) with
      | none =>
          exact (uses_op (.markSuspect target.nodeId) trivial).bind fun changed _ _ _ =>
            uses_syncIf changed
      | some successful =>
          obtain ⟨result, among, found⟩ := List.exists_of_findSome?_eq_some confirmed
          exact uses_mergeSync fun member listed =>
            answered member ⟨result, among, successful, confirming_eq_some found, listed⟩

theorem uses_gossipLoop : Uses config.wire nothing (GossipLoop.runOnce config) known := by
  refine (uses_aliveMembers false).bind fun peers more _ alive => ?_
  split
  · exact uses_done fun _ _ _ none => none.elim
  refine (uses_choose alive).bind fun peer _ _ _ => uses_snapshot.bind
    fun snapshot most _ tells => ?_
  refine (uses_swallowing (uses_gossip config peer tells)).bind fun ack last _ acknowledged => ?_
  cases ack with
  | none => exact uses_done fun _ _ _ none => none.elim
  | some ack => exact uses_mergeSync fun member among => acknowledged member ⟨ack, rfl, among⟩

theorem uses_handler {fleet : Fleet} (id : NodeId)
    (within : ∀ member, message.Carries fleet.wire member → known member) :
    Uses fleet.wire nothing (FleetState.handler fleet id message) known := by
  rw [← fleet.shared id] at within ⊢
  refine (uses_handleControl (fleet.config id) within).bind fun response more _ tells => ?_
  exact (uses_op (.send [] 0 response) tells).weaken fun _ _ none => none.elim

end Service

end Coroutines

end Distsys
