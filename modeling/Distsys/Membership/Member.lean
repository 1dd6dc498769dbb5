import Mathlib.Data.Prod.Lex
import Mathlib.Order.MinMax
import Distsys.Causal

/-!
# Cluster members

The records that membership tables hold and exchange. Of two records of one node the
one with the greater incarnation is newer, and at one incarnation the more severe
status counts.
-/

namespace Distsys

/-- The status of a member. -/
inductive MemberStatus
  | alive
  | suspect
  | dead
  deriving DecidableEq, Repr

namespace MemberStatus

/-- The value of the enumeration member. -/
def value : MemberStatus → Nat
  | .alive => 1
  | .suspect => 2
  | .dead => 3

theorem value_injective : Function.Injective value := by
  intro left right same
  cases left <;> cases right <;> first | rfl | cases same

instance : LinearOrder MemberStatus := LinearOrder.lift' value value_injective

end MemberStatus

/-- A record with the checks of its constructor. -/
structure ClusterMember where
  nodeId : NodeId
  host : PyStr
  port : Nat
  status : MemberStatus
  incarnation : Nat
  hosted : host ≠ []
  ported : 1 ≤ port ∧ port ≤ 65535
  born : 1 ≤ incarnation

namespace ClusterMember

/-- The fields that the generated equality of the dataclass compares. -/
def fields (member : ClusterMember) : NodeId × PyStr × Nat × MemberStatus × Nat :=
  (member.nodeId, member.host, member.port, member.status, member.incarnation)

theorem fields_injective : Function.Injective fields := by
  rintro ⟨_, _, _, _, _, _, _, _⟩ ⟨_, _, _, _, _, _, _, _⟩ same
  cases same
  rfl

instance : DecidableEq ClusterMember := fields_injective.decidableEq

/-- Where the node listens. -/
def address (member : ClusterMember) : PyStr × Nat := (member.host, member.port)

/-- What decides between two records of one node. -/
def rank (member : ClusterMember) : Lex (Nat × MemberStatus) :=
  toLex (member.incarnation, member.status)

/-- `replace(member, status=status)`. -/
def withStatus (member : ClusterMember) (status : MemberStatus) : ClusterMember :=
  { member with status }

/-- The record with which a node answers a claim about it at the incarnation. -/
def refuting (member : ClusterMember) (incarnation : Nat) : ClusterMember :=
  { member with status := .alive, incarnation := incarnation + 1, born := Nat.succ_pos incarnation }

/-- The record says that the node is not there any more, or may not be. -/
def Accuses (member : ClusterMember) : Prop := member.status = .suspect ∨ member.status = .dead

instance (member : ClusterMember) : Decidable member.Accuses := inferInstanceAs (Decidable (_ ∨ _))

section

variable (member : ClusterMember) (status : MemberStatus) (incarnation : Nat)

@[simp] theorem nodeId_withStatus : (member.withStatus status).nodeId = member.nodeId := rfl

@[simp] theorem incarnation_withStatus :
    (member.withStatus status).incarnation = member.incarnation := rfl

@[simp] theorem incarnation_refuting :
    (member.refuting incarnation).incarnation = incarnation + 1 := rfl

end

/-- The incarnation counts, then the status. -/
theorem rank_le_iff {left right : ClusterMember} :
    left.rank ≤ right.rank ↔ left.incarnation < right.incarnation ∨
      left.incarnation = right.incarnation ∧ left.status ≤ right.status :=
  Prod.Lex.toLex_le_toLex

theorem rank_lt_iff {left right : ClusterMember} :
    left.rank < right.rank ↔ left.incarnation < right.incarnation ∨
      left.incarnation = right.incarnation ∧ left.status < right.status :=
  Prod.Lex.toLex_lt_toLex

theorem accuses_iff {member : ClusterMember} : member.Accuses ↔ member.status ≠ .alive := by
  unfold Accuses
  cases member.status <;> decide

/-- Records of one node that agree in incarnation, status and address are the same. -/
theorem ext_of_rank {left right : ClusterMember} (nodes : left.nodeId = right.nodeId)
    (ranks : left.rank = right.rank) (addresses : left.address = right.address) : left = right := by
  obtain ⟨incarnations, statuses⟩ := Prod.mk.inj (toLex_inj.mp ranks)
  obtain ⟨hosts, ports⟩ := Prod.mk.inj addresses
  cases left
  cases right
  cases nodes
  cases incarnations
  cases statuses
  cases hosts
  cases ports
  rfl

end ClusterMember

end Distsys
