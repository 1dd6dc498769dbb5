import Distsys.Lib.Portable
import Distsys.Membership.Codec
import Distsys.Transport.Framing

/-!
# A layout of the messages

The codecs are used with any layout of the messages as bytes whose parser reads back what
was serialised. This is one: the fields one after the other.
-/

namespace Distsys

/-- The layout that writes a message and nothing after it. -/
def Protobuf.ofPortable {Message : Type} (portable : Portable Message) :
    Protobuf Message (List UInt8) where
  serialize := portable.put
  parse data :=
    match portable.get data with
    | some (message, []) => some message
    | _ => none
  parse_serialize message := by
    have read := portable.get_put message []
    rw [List.append_nil] at read
    rw [read]

namespace Layout

open Portable

/-- A code point. -/
def codePoint : Portable CodePoint := number _ (by decide)

/-- A `string` field. -/
def text : Portable StringField := codePoint.list.subtype _

/-- A `uint64` field. -/
def uint64 : Portable UInt64Field := number _ (by decide)

/-- A `uint32` field. -/
def uint32 : Portable UInt32Field := number _ (by decide)

/-- A byte as it is. -/
def byte : Portable UInt8 :=
  (number 256 (by decide)).retract (fun value => ⟨value.toNat, value.toNat_lt⟩)
    (fun value => some (UInt8.ofNat value))
    fun _ => congrArg some UInt8.ofNat_toNat

/-- A truth value. -/
def flag : Portable Bool :=
  (number 2 (by decide)).retract (fun value => if value then 1 else 0)
    (fun value => some (value = 1)) (by decide)

/-- Any natural number, in unary. -/
def unary : Portable Nat :=
  (number 1 (by decide)).list.retract (List.replicate · 0) (fun marks => some marks.length)
    fun _ => congrArg some List.length_replicate

/-- An integer with its sign. -/
def integer : Portable Int :=
  (unary.either unary).retract
    (fun | .ofNat value => .inl value | .negSucc value => .inr value)
    (fun | .inl value => some (.ofNat value) | .inr value => some (.negSucc value))
    fun | .ofNat _ => rfl | .negSucc _ => rfl

/-- A known status. -/
def memberStatus : Portable MemberStatus :=
  (number 3 (by decide)).retract
    (fun | .alive => 0 | .suspect => 1 | .dead => 2)
    (fun | 0 => some .alive | 1 => some .suspect | 2 => some .dead)
    (fun status => by cases status <;> rfl)

/-- A status field. -/
def status : Portable Proto.StatusField :=
  (memberStatus.either integer).retract
    (fun | .known status => .inl status | .other raw => .inr raw)
    (fun | .inl status => some (.known status) | .inr raw => some (.other raw))
    fun | .known _ => rfl | .other _ => rfl

/-- A member. -/
def member : Portable Proto.ClusterMember :=
  (text.pair (text.pair (uint32.pair (status.pair uint64)))).retract
    (fun value => (value.nodeId, value.host, value.port, value.status, value.incarnation))
    (fun (nodeId, host, port, status, incarnation) =>
      some ⟨nodeId, host, port, status, incarnation⟩)
    fun _ => rfl

/-- A list of members. -/
def members : Portable (List Proto.ClusterMember) := member.list

/-- The envelope. -/
def envelope : Portable Proto.Envelope :=
  (text.pair (text.pair (uint64.pair (uint32.pair (byte.list.pair (text.pair text)))))).retract
    (fun value => (value.senderId, value.correlationId, value.timestampMs, value.ttl,
      value.payload, value.traceparent, value.tracestate))
    (fun (senderId, correlationId, timestampMs, ttl, payload, traceparent, tracestate) =>
      some ⟨senderId, correlationId, timestampMs, ttl, payload, traceparent, tracestate⟩)
    fun _ => rfl

/-- The control messages as bytes. -/
def cluster : ClusterWire (List UInt8) where
  joinRequest := .ofPortable (member.retract (·.member) (fun member => some ⟨member⟩) fun _ => rfl)
  joinResponse :=
    .ofPortable (members.retract (·.members) (fun members => some ⟨members⟩) fun _ => rfl)
  ping := .ofPortable (members.retract (·.gossip) (fun gossip => some ⟨gossip⟩) fun _ => rfl)
  ack := .ofPortable ((flag.pair (text.pair members)).retract
    (fun value => (value.success, value.targetNodeId, value.gossip))
    (fun (success, targetNodeId, gossip) => some ⟨success, targetNodeId, gossip⟩) fun _ => rfl)
  pingRequest := .ofPortable ((member.pair members).retract
    (fun value => (value.target, value.gossip)) (fun (target, gossip) => some ⟨target, gossip⟩)
    fun _ => rfl)
  gossip := .ofPortable (members.retract (·.members) (fun members => some ⟨members⟩) fun _ => rfl)

end Layout

end Distsys
