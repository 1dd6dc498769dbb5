import Distsys.Lib.Sequential
import Distsys.Membership.Invariant
import Distsys.Membership.Service
import Distsys.Transport.Layout
import Distsys.Transport.Reading

/-!
# Background rounds

One round of the failure detector and one of the gossip loop, with peers that do anything.
The round waits in its exchanges only; other coroutines work on the table meanwhile. It
goes on after the exceptions of the transport. A peer that ends the stream early, or sends
what is not a message, makes the round raise.
-/

namespace Distsys

open Codec

/-- The settings of the peer client and the timeouts of the loops. -/
structure TransportSettings where
  wire : Protobuf Proto.Envelope (List UInt8)
  maxFrameSize : Nat
  pingTimeoutSeconds : Seconds
  indirectTimeoutSeconds : Seconds
  gossipTimeoutSeconds : Seconds

/-- The timeout of the exchange that a round starts with a message. -/
def TransportSettings.timeoutSeconds (transport : TransportSettings) (message : Message) :
    Seconds :=
  match message.msgType with
  | .ping => transport.pingTimeoutSeconds
  | .pingReq => transport.indirectTimeoutSeconds
  | _ => transport.gossipTimeoutSeconds

/-- One exchange: the identifier of the request, what happens to it, and what other
coroutines do to the table while it goes on. -/
structure Encounter where
  stamp : Stamp
  outcome : PeerOutcome
  meanwhile : List TableCall

/-- What a round meets. The readings of the clock are those after a number of exchanges. -/
structure Occasion where
  clock : Nat → Nat → Seconds
  pick : Nat
  exchange : Nat → Encounter

/-- The service during a round, and how many exchanges there have been. -/
structure RoundState (settings : MembershipSettings) where
  service : ServiceState settings
  exchanged : Nat := 0

namespace Occasion

variable (config : ServiceConfig) (transport : TransportSettings) (occasion : Occasion)

/-- What comes from outside after some exchanges. -/
def input (exchanged : Nat) : ServiceInput where
  clock := occasion.clock exchanged
  pick := occasion.pick
  stamp := (occasion.exchange exchanged).stamp
  response := .error (.timeoutError [])

/-- One operation of a round. -/
def handle : (op : ServiceOp) → RoundState config.settings →
    Option (op.Answer × RoundState config.settings)
  | .receive message, round =>
      let encounter := occasion.exchange round.exchanged
      some (exchangeEndpointRaw transport.wire transport.maxFrameSize
          (transport.timeoutSeconds message) message encounter.outcome,
        ⟨{ round.service with
            membership := round.service.membership.after encounter.meanwhile },
          round.exchanged + 1⟩)
  | op, round =>
      match round.service.perform config.hash (occasion.input round.exchanged) op with
      | some (answer, service) => some (answer, { round with service })
      | none => none

/-- What others do to the table during a number of exchanges. -/
def meanwhile (first count : Nat) : List TableCall :=
  (List.range' first count).flatMap fun index => (occasion.exchange index).meanwhile

/-- The second state is reached from the first one by a number of exchanges. -/
structure Met {settings : MembershipSettings} (occasion : Occasion)
    (before : RoundState settings) (count : Nat) (after : RoundState settings) : Prop where
  exchanged : after.exchanged = before.exchanged + count
  table : after.service.membership =
    before.service.membership.after (occasion.meanwhile before.exchanged count)

variable {occasion} {settings : MembershipSettings} {first second third : RoundState settings}

theorem Met.refl (round : RoundState settings) : occasion.Met round 0 round := ⟨rfl, rfl⟩

theorem Met.trans {early late : Nat} (start : occasion.Met first early second)
    (rest : occasion.Met second late third) : occasion.Met first (early + late) third := by
  refine ⟨?_, ?_⟩
  · rw [rest.exchanged, start.exchanged, Nat.add_assoc]
  · rw [rest.table, start.table, start.exchanged, MembershipTable.after, MembershipTable.after,
      ← List.foldl_append, meanwhile, meanwhile, ← List.flatMap_append, List.range'_append_1]
    rfl

end Occasion

section Exchanges

variable (config : ServiceConfig) (transport : TransportSettings)

/-- The exchange ends with an exception of the transport, or with an acknowledgement that can
be read. -/
def Encounter.Settles (encounter : Encounter) (request : Message) : Prop :=
  transport.timeoutSeconds request ≤ 0 ∨
    match encounter.outcome with
    | .refused _ | .timedOut _ | .failed _ => True
    | .raised error => error.isTransport = true
    | .answered stream =>
        (encodeFrame transport.wire transport.maxFrameSize request).isOk ∧
          match stream.reply transport.wire transport.maxFrameSize with
          | .cut ending => ending ≠ .eof
          | .malformed => False
          | .message response => response.correlationId ≠ request.correlationId ∨
              response.msgType ≠ .ack ∨ (decodeAck config.wire response.payload).isOk

/-- The peer answers the request with an acknowledgement. -/
def Encounter.Acknowledges (encounter : Encounter) (request : Message) (ack : AckData) : Prop :=
  0 < transport.timeoutSeconds request ∧
    (encodeFrame transport.wire transport.maxFrameSize request).isOk ∧
    ∃ stream response, encounter.outcome = .answered stream ∧
      stream.reply transport.wire transport.maxFrameSize = .message response ∧
      response.correlationId = request.correlationId ∧ response.msgType = .ack ∧
      decodeAck config.wire response.payload = .ok ack

/-- What the body of `ping`, `ping_request` and `gossip` comes to after the request is made. -/
def Encounter.asked (encounter : Encounter) (request : Message) : Except PeerException AckData := do
  let response ← exchangeEndpointRaw transport.wire transport.maxFrameSize
    (transport.timeoutSeconds request) request encounter.outcome
  if response.msgType ≠ .ack then
    throw (.peerProtocolError (PyStr.ofString ("expected ACK, got " ++ response.msgType.name)))
  else fromCodec (decodeAck config.wire response.payload)

variable {config transport} {encounter : Encounter} {request : Message}

/-- An exchange settles when the exceptions that it raises are caught. -/
theorem settles_iff :
    encounter.Settles config transport request ↔
      Raises (·.isTransport = true) (encounter.asked config transport request) := by
  have result := exchangeResult transport.wire transport.maxFrameSize
    (transport.timeoutSeconds request) request encounter.outcome
  unfold Encounter.Settles Encounter.asked
  generalize exchangeEndpointRaw transport.wire transport.maxFrameSize
    (transport.timeoutSeconds request) request encounter.outcome = exchange at result ⊢
  generalize encounter.outcome = outcome at result ⊢
  cases result with
  | late exhausted outcome => exact iff_of_true (.inl exhausted) (raises_error rfl)
  | refused timely reason => exact iff_of_true (.inr trivial) (raises_error rfl)
  | timedOut timely reason => exact iff_of_true (.inr trivial) (raises_error rfl)
  | failed timely reason => exact iff_of_true (.inr trivial) (raises_error rfl)
  | raised timely error =>
      dsimp only
      rw [or_iff_right (not_le.mpr timely)]
      refine Iff.trans ?_ raises_error_iff.symm
      exact Iff.rfl
  | unframed timely stream error frame protocol =>
      refine iff_of_false ?_ fun raises => ?_
      · rintro (late | ⟨framed, _⟩)
        · exact not_le.mpr timely late
        · rw [frame] at framed
          cases framed
      · exact Bool.false_ne_true (protocol.isTransport.symm.trans (raises error rfl))
  | cut timely framed stream ending reply received expected =>
      dsimp only
      rw [or_iff_right (not_le.mpr timely), reply, and_iff_right framed]
      refine Iff.trans ?_ raises_error_iff.symm
      cases ending with
      | eof => exact iff_of_false (not_not.mpr rfl) Bool.false_ne_true
      | reset => exact iff_of_true nofun rfl
      | stalled => exact iff_of_true nofun rfl
  | malformed timely framed stream reply error protocol =>
      dsimp only
      rw [or_iff_right (not_le.mpr timely), reply]
      refine iff_of_false And.right fun raises => ?_
      exact Bool.false_ne_true (protocol.isTransport.symm.trans (raises error rfl))
  | foreign timely framed stream response reply other reason =>
      dsimp only
      rw [reply]
      exact iff_of_true (.inr ⟨framed, .inl other⟩) (raises_error rfl)
  | response timely framed stream response reply same =>
      dsimp only
      rw [or_iff_right (not_le.mpr timely), reply, and_iff_right framed, Codec.ok_bind]
      dsimp only
      rw [or_iff_right (not_not.mpr same)]
      by_cases wrong : response.msgType ≠ .ack
      · rw [if_pos wrong]
        exact iff_of_true (.inl wrong) (raises_error rfl)
      · rw [if_neg wrong, or_iff_right wrong]
        have protocol := raises_fromCodec_decode (raises_decodeAck config.wire response.payload)
        cases decoded : decodeAck config.wire response.payload with
        | ok ack => exact iff_of_true rfl (raises_ok ack)
        | error error =>
            rw [decoded] at protocol
            refine iff_of_false nofun fun raises => ?_
            exact Bool.false_ne_true
              ((protocol _ rfl).isTransport.symm.trans (raises _ rfl))

theorem asked_eq_ok {ack : AckData} :
    encounter.asked config transport request = .ok ack ↔
      encounter.Acknowledges config transport request ack := by
  have result := exchangeResult transport.wire transport.maxFrameSize
    (transport.timeoutSeconds request) request encounter.outcome
  unfold Encounter.Acknowledges Encounter.asked
  generalize exchangeEndpointRaw transport.wire transport.maxFrameSize
    (transport.timeoutSeconds request) request encounter.outcome = exchange at result ⊢
  generalize encounter.outcome = outcome at result ⊢
  constructor
  · intro asks
    obtain ⟨response, rfl, decoded⟩ := bind_eq_ok.mp asks
    cases result with
    | response timely framed stream _ reply same =>
        split at decoded
        · cases decoded
        · next acks =>
          exact ⟨timely, framed, stream, response, rfl, reply, same, not_not.mp acks,
            fromCodec_eq_ok.mp decoded⟩
  · rintro ⟨timely, framed, stream, response, rfl, reply, same, acks, decoded⟩
    cases result with
    | late exhausted outcome => exact absurd exhausted (not_le.mpr timely)
    | unframed _ _ error frame _ =>
        rw [frame] at framed
        cases framed
    | cut _ _ _ ending other => cases reply.symm.trans other
    | malformed _ _ _ other => cases reply.symm.trans other
    | foreign _ _ _ message found other =>
        cases reply.symm.trans found
        exact absurd same other
    | response _ _ _ message found _ =>
        cases reply.symm.trans found
        rw [Codec.ok_bind, if_neg (not_not.mpr acks), decoded]
        rfl

end Exchanges

/-- What `swallowing` makes of a result. -/
def swallowed {α : Type} (result : Except PeerException α) : Except PeerException (Option α) :=
  match result with
  | .ok value => .ok (some value)
  | .error error => if error.isTransport then .ok none else .error error

theorem isOk_swallowed {α : Type} {result : Except PeerException α} :
    (swallowed result).isOk = true ↔ Raises (·.isTransport = true) result := by
  cases result with
  | ok value => exact iff_of_true rfl (raises_ok value)
  | error error =>
      rw [raises_error_iff]
      dsimp only [swallowed]
      split
      · next caught => exact iff_of_true rfl caught
      · next raised => exact iff_of_false Bool.false_ne_true raised

theorem swallowed_eq_some {α : Type} {result : Except PeerException α} {value : α} :
    swallowed result = .ok (some value) ↔ result = .ok value := by
  cases result with
  | ok other => simp [swallowed]
  | error error =>
      dsimp only [swallowed]
      split <;> exact iff_of_false nofun nofun

namespace Occasion

section Rounds

variable (config : ServiceConfig) (transport : TransportSettings) (occasion : Occasion)
  {encoded : Except PyError (List UInt8)}

/-- The request of an exchange. -/
def request (index : Nat) (msgType : MessageType) (payload : List UInt8) : Message :=
  ⟨msgType, config.settings.localNodeId, (occasion.exchange index).stamp.correlationId,
    (occasion.exchange index).stamp.timestampMs, 8, payload, [], []⟩

/-- What a round learns from an exchange. -/
def outcome (index : Nat) (msgType : MessageType) (payload : List UInt8) :
    Except PeerException AckData :=
  (occasion.exchange index).asked config transport (occasion.request config index msgType payload)

variable {config transport occasion} {α : Type} {round : RoundState config.settings}
  {post : Except PeerException α → RoundState config.settings → Prop}

theorem met_one : occasion.Met round 1
    ⟨{ round.service with membership :=
        round.service.membership.after (occasion.exchange round.exchanged).meanwhile },
      round.exchanged + 1⟩ := by
  refine ⟨rfl, ?_⟩
  rw [meanwhile, List.range'_one, List.flatMap_singleton]

/-- An operation, and what comes after it. -/
theorem ends_op {op : ServiceOp} {answer : op.Answer} {after : RoundState config.settings}
    {next : op.Answer → ServiceCode α}
    (answered : occasion.handle config transport op round = some (answer, after))
    (rest : Prog.Ends (occasion.handle config transport) post (next answer) after) :
    Prog.Ends (occasion.handle config transport) post (serviceOp op >>= next) round :=
  Prog.ends_act answered rest

theorem ends_syncRing :
    Prog.Ends (occasion.handle config transport)
      (fun result after => result = .ok () ∧ occasion.Met round 0 after) syncRing round := by
  have read : occasion.handle config transport .outdated round =
      some (round.service.outdated, round) := rfl
  refine Prog.ends_act read ?_
  cases round.service.outdated with
  | none => exact Prog.ends_done ⟨rfl, .refl round⟩
  | some version =>
      refine Prog.ends_act rfl (Prog.ends_done ⟨rfl, ?_⟩)
      exact ⟨rfl, rfl⟩

theorem ends_syncIf (changed : Bool) :
    Prog.Ends (occasion.handle config transport)
      (fun result after => result = .ok () ∧ occasion.Met round 0 after)
        (syncIf changed) round := by
  cases changed with
  | true => exact ends_syncRing
  | false => exact Prog.ends_done ⟨rfl, .refl round⟩

/-- The end of `ping`, `ping_request` and `gossip`. -/
theorem ends_read (response : Except PeerException Message) :
    Prog.Ends (occasion.handle config transport)
      (fun result after => (result = do
        let response ← response
        if response.msgType ≠ .ack then
          throw (.peerProtocolError
            (PyStr.ofString ("expected ACK, got " ++ response.msgType.name)))
        else fromCodec (decodeAck config.wire response.payload)) ∧ after = round)
      (do
        let response ← Prog.ofExcept response
        if response.msgType ≠ .ack then
          throw (.peerProtocolError
            (PyStr.ofString ("expected ACK, got " ++ response.msgType.name)))
        else orRaise (decodeAck config.wire response.payload)) round := by
  cases response with
  | error error => exact Prog.ends_done ⟨rfl, rfl⟩
  | ok response =>
      rw [Prog.ofExcept_ok_bind, Codec.ok_bind]
      split
      · exact Prog.ends_done ⟨rfl, rfl⟩
      · exact Prog.ends_done ⟨rfl, rfl⟩

/-- `ping`, `ping_request` and `gossip` with a payload. -/
theorem ends_askForAck (peer : ClusterMember) (msgType : MessageType) {payload : List UInt8}
    (made : encoded = .ok payload) :
    Prog.Ends (occasion.handle config transport)
      (fun result after =>
        result = occasion.outcome config transport round.exchanged msgType payload ∧
          occasion.Met round 1 after)
      (PeerClient.askForAck config peer msgType encoded) round := by
  subst made
  refine Prog.ends_act rfl (Prog.ends_act rfl (Prog.ends_act rfl ((ends_read _).mono ?_)))
  rintro _ _ ⟨rfl, rfl⟩
  exact ⟨rfl, met_one⟩

theorem ends_askForAck_error (peer : ClusterMember) (msgType : MessageType) {error : PyError}
    (failed : encoded = .error error) :
    Prog.Ends (occasion.handle config transport)
      (fun result _ => result = .error (.ofPyError error))
      (PeerClient.askForAck config peer msgType encoded) round := by
  subst failed
  exact Prog.ends_done rfl

theorem ends_swallowing {code : ServiceCode α}
    (ends : Prog.Ends (occasion.handle config transport) post code round) :
    Prog.Ends (occasion.handle config transport)
      (fun result after => ∃ inner, post inner after ∧ result = swallowed inner)
      (swallowing code) round := by
  have wrapped : Prog.Ends (occasion.handle config transport)
      (fun result after => ∃ inner, post inner after ∧ result = inner.map some)
      (do let value ← code; return some value) round := by
    refine Prog.Ends.bind (ends.mono fun result after holds => ?_)
    cases result with
    | ok value => exact Prog.ends_done ⟨.ok value, holds, rfl⟩
    | error error => exact ⟨.error error, holds, rfl⟩
  refine Prog.Ends.catching (wrapped.mono ?_)
  rintro _ after ⟨inner, holds, rfl⟩
  cases inner with
  | ok value => exact ⟨.ok value, holds, rfl⟩
  | error error =>
      dsimp only [Except.map]
      split
      · next caught => exact Prog.ends_done ⟨.error error, holds, (if_pos caught).symm⟩
      · next raised => exact Prog.ends_done ⟨.error error, holds, (if_neg raised).symm⟩

/-- `asyncio.gather` of bodies that make one exchange each. -/
theorem ends_gather {bodies : List (ServiceCode α)} (value : Nat → Except PeerException α)
    (each : ∀ body ∈ bodies, ∀ round : RoundState config.settings,
      Prog.Ends (occasion.handle config transport)
        (fun result after => result = value round.exchanged ∧ occasion.Met round 1 after)
        body round) :
    Prog.Ends (occasion.handle config transport)
      (fun result after =>
        result = (List.range' round.exchanged bodies.length).mapM value ∧
          occasion.Met round bodies.length after)
      (gather bodies) round := by
  induction bodies generalizing round with
  | nil => exact Prog.ends_done ⟨rfl, .refl round⟩
  | cons body rest ih =>
      obtain ⟨first, others⟩ := List.forall_mem_cons.mp each
      refine Prog.Ends.bind (Prog.Ends.attempt ((first round).mono ?_))
      rintro _ middle ⟨rfl, met⟩
      refine Prog.Ends.bind (Prog.Ends.attempt ((ih others).mono ?_))
      rintro _ after ⟨rfl, further⟩
      refine Prog.ends_done ⟨?_, ?_⟩
      · rw [List.length_cons, List.range'_succ, List.mapM_cons, met.exchanged]
      · rw [List.length_cons, Nat.add_comm]
        exact met.trans further

theorem ends_mergeSync (members : List ClusterMember) :
    Prog.Ends (occasion.handle config transport) (fun result _ => result = .ok ()) (do
      let changed ← serviceOp (.merge members)
      syncIf changed) round :=
  Prog.ends_act rfl ((ends_syncIf _).mono fun _ _ => And.left)

theorem ends_markSync (id : NodeId) :
    Prog.Ends (occasion.handle config transport)
      (fun result after => result = .ok () ∧ after.service.membership =
        (round.service.membership.markSuspect (occasion.clock round.exchanged 0) id).2) (do
      let changed ← serviceOp (.markSuspect id)
      syncIf changed) round := by
  refine Prog.ends_act rfl ((ends_syncIf _).mono ?_)
  rintro _ after ⟨rfl, met⟩
  exact ⟨rfl, met.table⟩

end Rounds

section Conditions

variable (config : ServiceConfig) (transport : TransportSettings) (occasion : Occasion)

/-- `choose(options)`. -/
def chosen (options : List ClusterMember) : Option ClusterMember :=
  options[occasion.pick % options.length]?

/-- The exchange of a round ends in one of the ways that the round goes on after. -/
def Settles (index : Nat) (msgType : MessageType) (payload : List UInt8) : Prop :=
  (occasion.exchange index).Settles config transport (occasion.request config index msgType payload)

/-- The exchange ends with a successful acknowledgement that names the target. -/
def Confirms (index : Nat) (msgType : MessageType) (payload : List UInt8)
    (target : ClusterMember) : Prop :=
  ∃ ack, (occasion.exchange index).Acknowledges config transport
      (occasion.request config index msgType payload) ack ∧
    ack.success = true ∧ ack.targetNodeId = target.nodeId

/-- The members through which a target is probed when the direct exchange is over. -/
def helpers (table : MembershipTable config.settings) (target : ClusterMember) :
    List ClusterMember :=
  (((table.after (occasion.meanwhile 0 1)).aliveMembers false).filter fun member =>
    member.nodeId ≠ target.nodeId).take config.indirectProbeCount

/-- The target answers the direct probe. -/
def DirectlyConfirmed (table : MembershipTable config.settings) (target : ClusterMember) : Prop :=
  ∃ payload, encodePing config.wire table.snapshot = .ok payload ∧
    occasion.Confirms config transport 0 .ping payload target

/-- A helper confirms the target. -/
def IndirectlyConfirmed (table : MembershipTable config.settings) (target : ClusterMember) :
    Prop :=
  ∃ payload index, encodePingRequest config.wire target table.snapshot = .ok payload ∧
    index < (occasion.helpers config table target).length ∧
    occasion.Confirms config transport (index + 1) .pingReq payload target

/-- What a round of the failure detector goes on after: the records of the table fit their
fields, and the direct exchange and, unless it confirms the target, the indirect ones settle. -/
structure ProbeSettles (table : MembershipTable config.settings) (target : ClusterMember) :
    Prop where
  fits : ∀ member ∈ table.snapshot, member.Fits
  direct : ∀ payload, encodePing config.wire table.snapshot = .ok payload →
    occasion.Settles config transport 0 .ping payload
  indirect : ¬ occasion.DirectlyConfirmed config transport table target →
    ∀ payload, encodePingRequest config.wire target table.snapshot = .ok payload →
    ∀ index < (occasion.helpers config table target).length,
      occasion.Settles config transport (index + 1) .pingReq payload

/-- The target is SUSPECT after the round, or it was not ALIVE any more when the exchanges were
over. -/
def Suspected (table : MembershipTable config.settings) (target : ClusterMember)
    (after : MembershipTable config.settings) : Prop :=
  (∃ member, after.get target.nodeId = some member ∧ member.status = .suspect) ∨
    ∀ member, (table.after (occasion.meanwhile 0
      ((occasion.helpers config table target).length + 1))).get target.nodeId = some member →
      member.status ≠ .alive

/-- The target answers, or it is suspected. -/
def Decides (table : MembershipTable config.settings) (target : ClusterMember)
    (after : MembershipTable config.settings) : Prop :=
  occasion.DirectlyConfirmed config transport table target ∨
    occasion.IndirectlyConfirmed config transport table target ∨
    occasion.Suspected config table target after

/-- What a round of the gossip loop goes on after. -/
structure GossipSettles (table : MembershipTable config.settings) : Prop where
  fits : ∀ member ∈ table.snapshot, member.Fits
  exchange : ∀ payload, encodeGossip config.wire table.snapshot = .ok payload →
    occasion.Settles config transport 0 .gossip payload

end Conditions

end Occasion

end Distsys
