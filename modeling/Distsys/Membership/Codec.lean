import Distsys.Membership.Merging
import Distsys.Wire.RoundTrip

/-!
# The membership codec

The control messages that carry member records. A record can be encoded exactly when its
texts are UTF-8 encodable and its incarnation fits the field, and then it decodes to
itself. The records of a table can be encoded until the local node has answered a claim
about the greatest incarnation that the field holds.
-/

namespace Distsys

variable {Bytes : Type}

open Codec

namespace Proto

/-- The value of a `MemberStatus` field. -/
inductive StatusField
  | known (status : MemberStatus)
  | other (raw : Int)

/-- The message `ClusterMember`. -/
structure ClusterMember where
  nodeId : StringField
  host : StringField
  port : UInt32Field
  status : StatusField
  incarnation : UInt64Field

/-- The message `JoinRequest`. -/
structure JoinRequest where
  member : ClusterMember

/-- The message `JoinResponse`. -/
structure JoinResponse where
  members : List ClusterMember

/-- The message `Ping`. -/
structure Ping where
  gossip : List ClusterMember

/-- The message `Ack`. -/
structure Ack where
  success : Bool
  targetNodeId : StringField
  gossip : List ClusterMember

/-- The message `PingRequest`. -/
structure PingRequest where
  target : ClusterMember
  gossip : List ClusterMember

/-- The message `Gossip`. -/
structure Gossip where
  members : List ClusterMember

end Proto

variable {member : ClusterMember}

/-- How the control messages are laid out as bytes. -/
structure ClusterWire (Bytes : Type) where
  joinRequest : Protobuf Proto.JoinRequest Bytes
  joinResponse : Protobuf Proto.JoinResponse Bytes
  ping : Protobuf Proto.Ping Bytes
  ack : Protobuf Proto.Ack Bytes
  pingRequest : Protobuf Proto.PingRequest Bytes
  gossip : Protobuf Proto.Gossip Bytes

/-- Control messages that are their own serialisation. -/
inductive ControlMessage
  | joinRequest (message : Proto.JoinRequest)
  | joinResponse (message : Proto.JoinResponse)
  | ping (message : Proto.Ping)
  | ack (message : Proto.Ack)
  | pingRequest (message : Proto.PingRequest)
  | gossip (message : Proto.Gossip)

/-- Messages that travel as they are. -/
def ClusterWire.plain : ClusterWire ControlMessage where
  joinRequest := ⟨.joinRequest, fun | .joinRequest message => some message | _ => none,
    fun _ => rfl⟩
  joinResponse :=
    ⟨.joinResponse, fun | .joinResponse message => some message | _ => none, fun _ => rfl⟩
  ping := ⟨.ping, fun | .ping message => some message | _ => none, fun _ => rfl⟩
  ack := ⟨.ack, fun | .ack message => some message | _ => none, fun _ => rfl⟩
  pingRequest := ⟨.pingRequest, fun | .pingRequest message => some message | _ => none,
    fun _ => rfl⟩
  gossip := ⟨.gossip, fun | .gossip message => some message | _ => none, fun _ => rfl⟩

/-- The content of an acknowledgement. -/
structure AckData where
  success : Bool
  targetNodeId : PyStr
  gossip : List ClusterMember
  deriving DecidableEq

/-- `member_to_proto`. -/
def memberToProto (member : ClusterMember) : Except PyError Proto.ClusterMember := do
  let nodeId ← setString member.nodeId
  let host ← setString member.host
  let port ← setUInt32 member.port
  let incarnation ← setUInt64 member.incarnation
  return ⟨nodeId, host, port, .known member.status, incarnation⟩

/-- `MemberStatus(value.status)`. -/
def statusFromProto : Proto.StatusField → Except PyError MemberStatus
  | .known status => .ok status
  | .other raw => .error ⟨.decodeError, toString raw ++ " is not a valid MemberStatus"⟩

/-- `member_from_proto`. -/
def memberFromProto (value : Proto.ClusterMember) : Except PyError ClusterMember :=
  if present : value.nodeId.val ≠ [] ∧ value.host.val ≠ [] then do
    let status ← statusFromProto value.status
    if ported : 1 ≤ value.port.val ∧ value.port.val ≤ 65535 then
      if born : 1 ≤ value.incarnation.val then
        return ⟨⟨value.nodeId.val, present.1⟩, value.host.val, value.port.val, status,
          value.incarnation.val, present.2, ported, born⟩
      else throw ⟨.decodeError, "incarnation must be positive"⟩
    else throw ⟨.decodeError, "port must be between 1 and 65535"⟩
  else .error ⟨.decodeError, "cluster member node_id and host are required"⟩

/-- `_parse`. -/
def parse {Message Bytes : Type} (wire : Protobuf Message Bytes) (data : Bytes) (label : String) :
    Except PyError Message :=
  match wire.parse data with
  | none => .error ⟨.decodeError, "invalid " ++ label ++ " protobuf"⟩
  | some value => .ok value

section Messages

variable {Bytes : Type} (wire : ClusterWire Bytes)

/-- `encode_join_request`. -/
def encodeJoinRequest (member : ClusterMember) : Except PyError Bytes := do
  let member ← memberToProto member
  return wire.joinRequest.serialize ⟨member⟩

/-- `decode_join_request`. -/
def decodeJoinRequest (data : Bytes) : Except PyError ClusterMember := do
  let value ← parse wire.joinRequest data "JoinRequest"
  memberFromProto value.member

/-- `encode_join_response`. -/
def encodeJoinResponse (members : List ClusterMember) : Except PyError Bytes := do
  let members ← members.mapM memberToProto
  return wire.joinResponse.serialize ⟨members⟩

/-- `decode_join_response`. -/
def decodeJoinResponse (data : Bytes) : Except PyError (List ClusterMember) := do
  let value ← parse wire.joinResponse data "JoinResponse"
  value.members.mapM memberFromProto

/-- `encode_ping`. -/
def encodePing (gossip : List ClusterMember) : Except PyError Bytes := do
  let gossip ← gossip.mapM memberToProto
  return wire.ping.serialize ⟨gossip⟩

/-- `decode_ping`. -/
def decodePing (data : Bytes) : Except PyError (List ClusterMember) := do
  let value ← parse wire.ping data "Ping"
  value.gossip.mapM memberFromProto

/-- `encode_ack`. -/
def encodeAck (ack : AckData) : Except PyError Bytes := do
  let targetNodeId ← setString ack.targetNodeId
  let gossip ← ack.gossip.mapM memberToProto
  return wire.ack.serialize ⟨ack.success, targetNodeId, gossip⟩

/-- `decode_ack`. -/
def decodeAck (data : Bytes) : Except PyError AckData := do
  let value ← parse wire.ack data "Ack"
  let gossip ← value.gossip.mapM memberFromProto
  return ⟨value.success, value.targetNodeId.val, gossip⟩

/-- `encode_ping_request`. -/
def encodePingRequest (target : ClusterMember) (gossip : List ClusterMember) :
    Except PyError Bytes := do
  let target ← memberToProto target
  let gossip ← gossip.mapM memberToProto
  return wire.pingRequest.serialize ⟨target, gossip⟩

/-- `decode_ping_request`. -/
def decodePingRequest (data : Bytes) : Except PyError (ClusterMember × List ClusterMember) := do
  let value ← parse wire.pingRequest data "PingRequest"
  let target ← memberFromProto value.target
  let gossip ← value.gossip.mapM memberFromProto
  return (target, gossip)

/-- `encode_gossip`. -/
def encodeGossip (members : List ClusterMember) : Except PyError Bytes := do
  let members ← members.mapM memberToProto
  return wire.gossip.serialize ⟨members⟩

/-- `decode_gossip`. -/
def decodeGossip (data : Bytes) : Except PyError (List ClusterMember) := do
  let value ← parse wire.gossip data "Gossip"
  value.members.mapM memberFromProto

end Messages

/-- The values that the fields of a member message hold. -/
def ClusterMember.Fits (member : ClusterMember) : Prop :=
  PyStr.Encodable member.nodeId ∧ PyStr.Encodable member.host ∧ member.incarnation < 2 ^ 64

instance (member : ClusterMember) : Decidable member.Fits := inferInstanceAs (Decidable (_ ∧ _))

theorem setUInt32_isOk (value : Nat) : (setUInt32 value).isOk = true ↔ value < 2 ^ 32 := by
  unfold setUInt32
  split
  · next fits => exact iff_of_true rfl fits
  · next excess => exact iff_of_false Bool.false_ne_true excess

theorem memberToProto_isOk (member : ClusterMember) :
    (memberToProto member).isOk = true ↔ member.Fits := by
  have small : member.port < 2 ^ 32 := lt_of_le_of_lt member.ported.2 (by decide)
  have all : (memberToProto member).isOk = true ↔ (setString member.nodeId).isOk = true ∧
      (setString member.host).isOk = true ∧ (setUInt32 member.port).isOk = true ∧
      (setUInt64 member.incarnation).isOk = true :=
    isOk_bind fun _ _ => isOk_bind fun _ _ => isOk_bind fun _ _ => isOk_bind_pure
  rw [all, setString_isOk, setString_isOk, setUInt32_isOk, setUInt64_isOk]
  exact and_congr_right' (and_congr_right' (and_iff_right small))

theorem retracts_member : Retracts memberToProto memberFromProto := by
  intro member value encoded
  obtain ⟨nodeId, assignedId, encoded⟩ := bind_eq_ok.mp encoded
  obtain ⟨host, assignedHost, encoded⟩ := bind_eq_ok.mp encoded
  obtain ⟨port, assignedPort, encoded⟩ := bind_eq_ok.mp encoded
  obtain ⟨incarnation, assignedIncarnation, encoded⟩ := bind_eq_ok.mp encoded
  cases encoded
  have sameId := setString_val assignedId
  have sameHost := setString_val assignedHost
  have samePort := setUInt32_val assignedPort
  have sameIncarnation := setUInt64_val assignedIncarnation
  unfold memberFromProto
  rw [dif_pos ⟨sameId ▸ member.nodeId.property, sameHost ▸ member.hosted⟩]
  change (if ported : 1 ≤ port.val ∧ port.val ≤ 65535 then _ else _) = _
  rw [dif_pos (samePort ▸ member.ported)]
  change (if born : 1 ≤ incarnation.val then _ else _) = _
  rw [dif_pos (sameIncarnation ▸ member.born)]
  refine congrArg Except.ok (ClusterMember.ext_of_rank (Subtype.ext sameId) ?_ ?_)
  · exact congrArg (fun number => toLex (number, member.status)) sameIncarnation
  · exact Prod.ext sameHost samePort

theorem fits_of_memberFromProto {value : Proto.ClusterMember}
    (decoded : memberFromProto value = .ok member) : member.Fits := by
  unfold memberFromProto at decoded
  split at decoded
  · obtain ⟨status, _, decoded⟩ := bind_eq_ok.mp decoded
    split at decoded
    · split at decoded
      · cases decoded
        exact ⟨value.nodeId.property, value.host.property, value.incarnation.isLt⟩
      · cases decoded
    · cases decoded
  · cases decoded

theorem mapM_memberToProto_isOk (members : List ClusterMember) :
    (members.mapM memberToProto).isOk = true ↔ ∀ member ∈ members, member.Fits := by
  rw [isOk_mapM]
  exact forall₂_congr fun member _ => memberToProto_isOk member

theorem encodePing_isOk (wire : ClusterWire Bytes) (members : List ClusterMember) :
    (encodePing wire members).isOk = true ↔ ∀ member ∈ members, member.Fits :=
  isOk_bind_pure.trans (mapM_memberToProto_isOk members)

theorem encodeGossip_isOk (wire : ClusterWire Bytes) (members : List ClusterMember) :
    (encodeGossip wire members).isOk = true ↔ ∀ member ∈ members, member.Fits :=
  isOk_bind_pure.trans (mapM_memberToProto_isOk members)

theorem encodePingRequest_isOk (wire : ClusterWire Bytes) (target : ClusterMember)
    (members : List ClusterMember) :
    (encodePingRequest wire target members).isOk = true ↔
      target.Fits ∧ ∀ member ∈ members, member.Fits := by
  rw [← memberToProto_isOk, ← mapM_memberToProto_isOk]
  exact isOk_bind fun _ _ => isOk_bind_pure

theorem raises_memberToProto (member : ClusterMember) :
    Raises (·.kind = .valueError) (memberToProto member) :=
  (raises_setString _).bind fun _ => (raises_setString _).bind fun _ =>
    (raises_setUInt32 _).bind fun _ => (raises_setUInt64 _).bind fun _ => raises_ok _

theorem raises_memberFromProto (value : Proto.ClusterMember) :
    Raises (·.kind = .decodeError) (memberFromProto value) := by
  have status : Raises (·.kind = .decodeError) (statusFromProto value.status) := by
    cases value.status with
    | known status => exact raises_ok status
    | other raw => exact raises_error rfl
  unfold memberFromProto
  split
  · refine status.bind fun _ => ?_
    split
    · split
      · exact raises_ok _
      · exact raises_error rfl
    · exact raises_error rfl
  · exact raises_error rfl

theorem raises_parse {Message : Type} (wire : Protobuf Message Bytes) (data : Bytes)
    (label : String) : Raises (·.kind = .decodeError) (parse wire data label) := by
  unfold parse
  split
  · exact raises_error rfl
  · exact raises_ok _

/-- What cannot be encoded raises `ValueError`. -/
theorem raises_encodePing (wire : ClusterWire Bytes) (members : List ClusterMember) :
    Raises (·.kind = .valueError) (encodePing wire members) :=
  (Raises.mapM raises_memberToProto _).bind fun _ => raises_ok _

theorem raises_encodeGossip (wire : ClusterWire Bytes) (members : List ClusterMember) :
    Raises (·.kind = .valueError) (encodeGossip wire members) :=
  (Raises.mapM raises_memberToProto _).bind fun _ => raises_ok _

theorem raises_decodeAck (wire : ClusterWire Bytes) (data : Bytes) :
    Raises (·.kind = .decodeError) (decodeAck wire data) :=
  (raises_parse _ _ _).bind fun _ => (Raises.mapM raises_memberFromProto _).bind fun _ =>
    raises_ok _

section Travels

variable {Bytes : Type} (wire : ClusterWire Bytes) {members : List ClusterMember}

/-- Every message that brings the records can be encoded, and decodes to them again. The
text that an acknowledgement names is one that a node id read from the wire can be. -/
structure Travels (members : List ClusterMember) : Prop where
  ping : ∃ data, encodePing wire members = .ok data ∧ decodePing wire data = .ok members
  gossip : ∃ data, encodeGossip wire members = .ok data ∧ decodeGossip wire data = .ok members
  joinResponse : ∃ data, encodeJoinResponse wire members = .ok data ∧
    decodeJoinResponse wire data = .ok members
  ack : ∀ success target, PyStr.Encodable target →
    ∃ data, encodeAck wire ⟨success, target, members⟩ = .ok data ∧
      decodeAck wire data = .ok ⟨success, target, members⟩

variable {wire}

theorem parse_serialize {Message : Type} (layout : Protobuf Message Bytes) (message : Message)
    (label : String) : parse layout (layout.serialize message) label = .ok message := by
  unfold parse
  rw [layout.parse_serialize]

section

variable {Message : Type} (layout : Protobuf Message Bytes)
  (wrap : List Proto.ClusterMember → Message) (unwrap : Message → List Proto.ClusterMember)
  (inverse : ∀ codes, unwrap (wrap codes) = codes) (label : String)

include inverse

/-- A message that is a list of records is read back as it was written. -/
theorem list_retracts {data : Bytes} (encoded : (do
      let codes ← members.mapM memberToProto
      return layout.serialize (wrap codes) : Except PyError Bytes) = .ok data) :
    (do
      let value ← parse layout data label
      (unwrap value).mapM memberFromProto) = .ok members := by
  obtain ⟨codes, written, made⟩ := bind_eq_ok.mp encoded
  cases made
  refine bind_eq_ok.mpr ⟨wrap codes, parse_serialize .., ?_⟩
  rw [inverse]
  exact retracts_member.mapM _ _ written

end

section

variable {members : List ClusterMember} {data : Bytes}

theorem decodePing_of_encodePing (encoded : encodePing wire members = .ok data) :
    decodePing wire data = .ok members :=
  list_retracts wire.ping .mk (·.gossip) (fun _ => rfl) "Ping" encoded

theorem decodeGossip_of_encodeGossip (encoded : encodeGossip wire members = .ok data) :
    decodeGossip wire data = .ok members :=
  list_retracts wire.gossip .mk (·.members) (fun _ => rfl) "Gossip" encoded

theorem decodeJoinResponse_of_encodeJoinResponse
    (encoded : encodeJoinResponse wire members = .ok data) :
    decodeJoinResponse wire data = .ok members :=
  list_retracts wire.joinResponse .mk (·.members) (fun _ => rfl) "JoinResponse" encoded

theorem decodeJoinRequest_of_encodeJoinRequest
    (encoded : encodeJoinRequest wire member = .ok data) :
    decodeJoinRequest wire data = .ok member := by
  obtain ⟨code, written, made⟩ := bind_eq_ok.mp encoded
  cases made
  exact bind_eq_ok.mpr ⟨⟨code⟩, parse_serialize .., retracts_member _ _ written⟩

theorem decodePingRequest_of_encodePingRequest {target : ClusterMember}
    (encoded : encodePingRequest wire target members = .ok data) :
    decodePingRequest wire data = .ok (target, members) := by
  obtain ⟨code, written, encoded⟩ := bind_eq_ok.mp encoded
  obtain ⟨codes, listed, made⟩ := bind_eq_ok.mp encoded
  cases made
  refine bind_eq_ok.mpr ⟨⟨code, codes⟩, parse_serialize .., ?_⟩
  refine bind_eq_ok.mpr ⟨target, retracts_member _ _ written, ?_⟩
  exact bind_eq_ok.mpr ⟨members, retracts_member.mapM _ _ listed, rfl⟩

theorem decodeAck_of_encodeAck {ack : AckData} (encoded : encodeAck wire ack = .ok data) :
    decodeAck wire data = .ok ack := by
  obtain ⟨target, assigned, encoded⟩ := bind_eq_ok.mp encoded
  obtain ⟨codes, listed, made⟩ := bind_eq_ok.mp encoded
  cases made
  refine bind_eq_ok.mpr ⟨⟨ack.success, target, codes⟩, parse_serialize .., ?_⟩
  refine bind_eq_ok.mpr ⟨ack.gossip, retracts_member.mapM _ _ listed, ?_⟩
  change Except.ok (AckData.mk ack.success target.val ack.gossip) = _
  rw [setString_val assigned]

end

theorem ack_travels (success : Bool) {target : PyStr} (encodable : PyStr.Encodable target)
    {codes : List Proto.ClusterMember} (written : members.mapM memberToProto = .ok codes) :
    ∃ data, encodeAck wire ⟨success, target, members⟩ = .ok data ∧
      decodeAck wire data = .ok ⟨success, target, members⟩ := by
  obtain ⟨field, assigned⟩ := isOk_iff.mp ((setString_isOk target).mpr encodable)
  have encoded : encodeAck wire ⟨success, target, members⟩ = .ok _ :=
    bind_eq_ok.mpr ⟨field, assigned, bind_eq_ok.mpr ⟨codes, written, rfl⟩⟩
  exact ⟨_, encoded, decodeAck_of_encodeAck encoded⟩

theorem travels_iff :
    Travels wire members ↔ ∀ member ∈ members, member.Fits := by
  constructor
  · rintro ⟨⟨data, encoded, _⟩, _⟩
    obtain ⟨codes, written, _⟩ := bind_eq_ok.mp encoded
    exact (mapM_memberToProto_isOk members).mp (isOk_iff.mpr ⟨codes, written⟩)
  · intro fits
    obtain ⟨codes, written⟩ := isOk_iff.mp ((mapM_memberToProto_isOk members).mpr fits)
    refine ⟨?_, ?_, ?_, fun success target encodable => ack_travels success encodable written⟩
    · have encoded : encodePing wire members = .ok _ := bind_eq_ok.mpr ⟨codes, written, rfl⟩
      exact ⟨_, encoded, decodePing_of_encodePing encoded⟩
    · have encoded : encodeGossip wire members = .ok _ := bind_eq_ok.mpr ⟨codes, written, rfl⟩
      exact ⟨_, encoded, decodeGossip_of_encodeGossip encoded⟩
    · have encoded : encodeJoinResponse wire members = .ok _ :=
        bind_eq_ok.mpr ⟨codes, written, rfl⟩
      exact ⟨_, encoded, decodeJoinResponse_of_encodeJoinResponse encoded⟩

end Travels

end Distsys
