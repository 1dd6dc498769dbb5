import Distsys.Lib.Prog
import Distsys.Membership.Codec
import Distsys.Membership.Ring
import Distsys.Transport.Framing

/-!
# The cluster service

The coroutines of `ClusterService`, `FailureDetector`, `GossipLoop` and the control half of
`PeerClient`. Every method of the membership table is one operation: its lock is never held
across an `await`. `sync_ring` is two operations, since it reads the version before it
waits for the snapshot. What a node does not decide itself comes with each operation: the
readings of the clock, the random choice, the identifier of a new message and the result
of an exchange.
-/

namespace Distsys

/-- An address with the checks of its constructor. The identity in it is for TLS only. -/
structure SeedAddress where
  host : PyStr
  port : Nat
  hosted : host ≠ []
  ported : 1 ≤ port ∧ port ≤ 65535

/-- The configuration of a node. -/
structure ServiceConfig where
  settings : MembershipSettings
  localMember : ClusterMember
  own : localMember.nodeId = settings.localNodeId
  alive : localMember.status = .alive
  seeds : List SeedAddress
  ring : ConsistentHashRing
  hash : PyStr → Nat
  wire : ClusterWire (List UInt8)
  indirectProbeCount : Nat

/-- The table, and the ring with the version it was built of. -/
structure ServiceState (settings : MembershipSettings) where
  membership : MembershipTable settings
  ring : ConsistentHashRing
  ringVersion : Int := -1

/-- The service when it is constructed. -/
def ServiceConfig.initial (config : ServiceConfig) : ServiceState config.settings where
  membership := .fresh config.settings config.localMember config.own
  ring := { config.ring with points := [] }

/-- The identifier and the time of a new message. -/
structure Stamp where
  correlationId : PyStr
  timestampMs : Nat
  nonempty : correlationId ≠ []
  encodable : PyStr.Encodable correlationId
  bounded : timestampMs < 2 ^ 64

/-- What a coroutine does in one step. -/
inductive ServiceOp
  | merge (records : List ClusterMember)
  | markSuspect (id : NodeId)
  | advance
  | snapshot
  | aliveMembers (includeSelf : Bool)
  | probeCandidates
  | choose (options : List ClusterMember)
  | outdated
  | rebuildRing (version : Nat)
  | stamp
  | send (host : PyStr) (port : Nat) (message : Message)
  | receive (message : Message)

/-- What an operation returns. -/
abbrev ServiceOp.Answer : ServiceOp → Type
  | .merge _ | .markSuspect _ | .advance => Bool
  | .snapshot | .aliveMembers _ | .probeCandidates => List ClusterMember
  | .choose _ => ClusterMember
  | .outdated => Option Nat
  | .rebuildRing _ | .send .. => Unit
  | .stamp => Stamp
  | .receive _ => Except PeerException Message

/-- The operations of the service. -/
def serviceSignature : Signature := ⟨ServiceOp, ServiceOp.Answer⟩

/-- A coroutine of the service. -/
abbrev ServiceCode := Prog serviceSignature PeerException

/-- What comes from outside with an operation. -/
structure ServiceInput where
  clock : Nat → Seconds
  pick : Nat
  stamp : Stamp
  response : Except PeerException Message

/-- What comes from outside when every exchange times out. -/
def ServiceInput.quiet : ServiceInput :=
  ⟨fun _ => 0, 0, ⟨[120], 0, by decide, by decide, by decide⟩, .error (.timeoutError [])⟩

namespace ServiceState

variable {settings : MembershipSettings}

/-- The service with another table. -/
def withTable (state : ServiceState settings) (outcome : Bool × MembershipTable settings) :
    Bool × ServiceState settings :=
  (outcome.1, { state with membership := outcome.2 })

/-- The records with the readings of the clock when they are merged. -/
def timed (clock : Nat → Seconds) (records : List ClusterMember) :
    List (Seconds × ClusterMember) :=
  records.zipIdx.map fun item => (clock item.2, item.1)

/-- The version that the ring does not have yet, if there is one. -/
def outdated (state : ServiceState settings) : Option Nat :=
  if (state.membership.version : Int) = state.ringVersion then none
  else some state.membership.version

/-- One operation. Only a choice among no members is impossible. -/
def perform (hash : PyStr → Nat) (state : ServiceState settings) (input : ServiceInput) :
    (op : ServiceOp) → Option (op.Answer × ServiceState settings)
  | .merge records => some (state.withTable (state.membership.merge (timed input.clock records)))
  | .markSuspect id => some (state.withTable (state.membership.markSuspect (input.clock 0) id))
  | .advance =>
      some (state.withTable (state.membership.advanceTimeoutsAndPurge (input.clock 0)))
  | .snapshot => some (state.membership.snapshot, state)
  | .aliveMembers includeSelf => some (state.membership.aliveMembers includeSelf, state)
  | .probeCandidates => some (state.membership.probeCandidates, state)
  | .choose options =>
      match options[input.pick % options.length]? with
      | some chosen => some (chosen, state)
      | none => none
  | .outdated => some (state.outdated, state)
  | .rebuildRing version =>
      some ((), { state with
        ring := state.ring.rebuild hash state.membership.snapshot
        ringVersion := version })
  | .stamp => some (input.stamp, state)
  | .send .. => some ((), state)
  | .receive _ => some (input.response, state)

end ServiceState

/-- Perform an operation. -/
def serviceOp (op : ServiceOp) : ServiceCode op.Answer := @Prog.op serviceSignature _ op

/-- The value, or the exception of a codec. -/
def orRaise {α : Type} (result : Except PyError α) : ServiceCode α :=
  Prog.ofExcept (fromCodec result)

/-- `try: ... except (ConnectionError, TimeoutError, OSError): None`. -/
def swallowing {α : Type} (body : ServiceCode α) : ServiceCode (Option α) :=
  Prog.catching (do let value ← body; return some value) fun error =>
    if error.isTransport then pure none else throw error

/-- `asyncio.gather`: the results of all, or the exception of one. The bodies only exchange
messages, so that running them in turn shows the same operations on the table. -/
def gather {α : Type} : List (ServiceCode α) → ServiceCode (List α)
  | [] => pure []
  | body :: rest => do
      let first ← body.attempt
      let others ← (gather rest).attempt
      Prog.ofExcept do
        let value ← first
        let values ← others
        return value :: values

section Coroutines

variable (config : ServiceConfig)

namespace PeerClient

/-- The envelope of a request. -/
def newRequest (msgType : MessageType) (payload : List UInt8) : ServiceCode Message := do
  let stamp ← serviceOp .stamp
  return ⟨msgType, config.settings.localNodeId, stamp.correlationId, stamp.timestampMs, 8,
    payload, [], []⟩

/-- `_exchange_endpoint`. -/
def exchangeEndpoint (host : PyStr) (port : Nat) (message : Message) : ServiceCode Message := do
  serviceOp (.send host port message)
  let response ← serviceOp (.receive message)
  Prog.ofExcept response

/-- The body that `ping`, `ping_request` and `gossip` share. -/
def askForAck (peer : ClusterMember) (msgType : MessageType)
    (encoded : Except PyError (List UInt8)) : ServiceCode AckData := do
  let payload ← orRaise encoded
  let request ← newRequest config msgType payload
  let response ← exchangeEndpoint peer.host peer.port request
  if response.msgType ≠ .ack then
    throw (.peerProtocolError (PyStr.ofString ("expected ACK, got " ++ response.msgType.name)))
  else orRaise (decodeAck config.wire response.payload)

/-- `ping`. -/
def ping (peer : ClusterMember) (gossip : List ClusterMember) : ServiceCode AckData :=
  askForAck config peer .ping (encodePing config.wire gossip)

/-- `ping_request`. -/
def pingRequest (helper target : ClusterMember) (gossip : List ClusterMember) :
    ServiceCode AckData :=
  askForAck config helper .pingReq (encodePingRequest config.wire target gossip)

/-- `gossip`. -/
def gossip (peer : ClusterMember) (members : List ClusterMember) : ServiceCode AckData :=
  askForAck config peer .gossip (encodeGossip config.wire members)

/-- `join`. -/
def join (seed : SeedAddress) : ServiceCode (List ClusterMember) := do
  let payload ← orRaise (encodeJoinRequest config.wire config.localMember)
  let request ← newRequest config .joinRequest payload
  let response ← exchangeEndpoint seed.host seed.port request
  if response.msgType ≠ .joinResponse then
    throw (.peerProtocolError
      (PyStr.ofString ("expected JOIN_RESPONSE, got " ++ response.msgType.name)))
  else orRaise (decodeJoinResponse config.wire response.payload)

end PeerClient

/-- `sync_ring`. -/
def syncRing : ServiceCode Unit := do
  match ← serviceOp .outdated with
  | none => pure ()
  | some version => serviceOp (.rebuildRing version)

/-- `if changed: await self.sync_ring()`. -/
def syncIf (changed : Bool) : ServiceCode Unit := if changed then syncRing else pure ()

/-- The acknowledgement, if there is a successful one that names the target. -/
def confirming (target : ClusterMember) (ack : Option AckData) : Option AckData :=
  ack.filter fun ack => ack.success ∧ ack.targetNodeId = target.nodeId

namespace ClusterService

/-- The loop of `bootstrap` over the seeds. -/
def joinAny : List SeedAddress → ServiceCode Unit
  | [] => throw (.clusterBootstrapError
      (PyStr.ofString "unable to contact any configured cluster seed"))
  | seed :: rest => do
      match ← swallowing (PeerClient.join config seed) with
      | none => joinAny rest
      | some snapshot => do
          let _ ← serviceOp (.merge snapshot)
          syncRing

/-- `bootstrap`. -/
def bootstrap : ServiceCode Unit := do
  syncRing
  if config.seeds = [] then pure ()
  else
    let candidates := config.seeds.filter fun seed =>
      ¬ (seed.host = config.localMember.host ∧ seed.port = config.localMember.port)
    if candidates = [] then
      throw (.clusterBootstrapError
        (PyStr.ofString "configured cluster seeds contain only the local node"))
    else joinAny config candidates

/-- `_response`. -/
def respond (request : Message) (msgType : MessageType) (encoded : Except PyError (List UInt8)) :
    ServiceCode Message := do
  let payload ← orRaise encoded
  let stamp ← serviceOp .stamp
  return ⟨msgType, config.settings.localNodeId, request.correlationId, stamp.timestampMs, 8,
    payload, [], []⟩

/-- The acknowledgement of a handled message. -/
def acknowledge (request : Message) (success : Bool) (target : NodeId) : ServiceCode Message := do
  let snapshot ← serviceOp .snapshot
  respond config request .ack (encodeAck config.wire ⟨success, target, snapshot⟩)

/-- The `JOIN_REQUEST` branch of `handle_control`. -/
def handleJoin (message : Message) : ServiceCode Message := do
  let joining ← orRaise (decodeJoinRequest config.wire message.payload)
  let _ ← serviceOp (.merge [joining])
  syncRing
  let snapshot ← serviceOp .snapshot
  respond config message .joinResponse (encodeJoinResponse config.wire snapshot)

/-- The `PING` and `GOSSIP` branches. -/
def handleGossip (message : Message) (decoded : Except PyError (List ClusterMember)) :
    ServiceCode Message := do
  let incoming ← orRaise decoded
  let _ ← serviceOp (.merge incoming)
  syncRing
  acknowledge config message true config.settings.localNodeId

/-- The `PING_REQ` branch. -/
def handlePingReq (message : Message) : ServiceCode Message := do
  let (target, incoming) ← orRaise (decodePingRequest config.wire message.payload)
  let _ ← serviceOp (.merge incoming)
  syncRing
  let snapshot ← serviceOp .snapshot
  let ack ← swallowing (PeerClient.ping config target snapshot)
  match confirming target ack with
  | some ack => do
      let changed ← serviceOp (.merge ack.gossip)
      syncIf changed
      acknowledge config message true target.nodeId
  | none => acknowledge config message false target.nodeId

/-- `handle_control`. -/
def handleControl (message : Message) : ServiceCode Message :=
  match message.msgType with
  | .joinRequest => handleJoin config message
  | .ping => handleGossip config message (decodePing config.wire message.payload)
  | .pingReq => handlePingReq config message
  | .gossip => handleGossip config message (decodeGossip config.wire message.payload)
  | other => throw (.raised
      ⟨.valueError, "unsupported cluster control message: " ++ other.name⟩)

end ClusterService

/-- `FailureDetector.run_once`. -/
def FailureDetector.runOnce : ServiceCode Unit := do
  let changed ← serviceOp .advance
  syncIf changed
  let candidates : List ClusterMember ← serviceOp .probeCandidates
  if candidates = [] then pure ()
  else
    let target ← serviceOp (.choose candidates)
    let snapshot ← serviceOp .snapshot
    let ack ← swallowing (PeerClient.ping config target snapshot)
    match confirming target ack with
    | some ack => do
        let changed ← serviceOp (.merge ack.gossip)
        syncIf changed
    | none => do
        let alive : List ClusterMember ← serviceOp (.aliveMembers false)
        let helpers := (alive.filter fun member => member.nodeId ≠ target.nodeId).take
          config.indirectProbeCount
        let results ← gather (helpers.map fun helper =>
          swallowing (PeerClient.pingRequest config helper target snapshot))
        match results.findSome? (confirming target) with
        | some successful => do
            let changed ← serviceOp (.merge successful.gossip)
            syncIf changed
        | none => do
            let changed ← serviceOp (.markSuspect target.nodeId)
            syncIf changed

/-- `GossipLoop.run_once`. -/
def GossipLoop.runOnce : ServiceCode Unit := do
  let peers : List ClusterMember ← serviceOp (.aliveMembers false)
  if peers = [] then pure ()
  else
    let peer ← serviceOp (.choose peers)
    let snapshot ← serviceOp .snapshot
    match ← swallowing (PeerClient.gossip config peer snapshot) with
    | none => pure ()
    | some ack => do
        let changed ← serviceOp (.merge ack.gossip)
        syncIf changed

end Coroutines

end Distsys
