import Mathlib.Data.Finset.Sort
import Distsys.Causal
import Distsys.Json

/-!
# The four replicated data types

State-based counters, the observed-remove set and the multi-value register, with
the operations the service applies and the merge each of them has. Dictionaries
are sorted maps and frozensets are finite sets, which is what `==` compares.
-/

namespace Distsys

/-- The type identifiers of stored keys. -/
inductive CrdtType
  | gcounter
  | pncounter
  | orset
  | mvregister
  deriving DecidableEq, Repr

/-- A grow-only counter: one component for each actor. -/
structure GCounter where
  components : Tally CausalActor
  deriving DecidableEq

namespace GCounter

/-- A counter at zero. -/
def empty : GCounter := ⟨⊥⟩

/-- `component`. -/
def component (counter : GCounter) (actor : CausalActor) : Nat := counter.components.get actor

/-- `increment`. -/
def increment (counter : GCounter) (actor : CausalActor) (amount : Nat) :
    Except PyError GCounter :=
  if amount < 1 then .error ⟨.valueError, "amount must be >= 1"⟩
  else .ok ⟨counter.components.put actor (counter.component actor + amount)⟩

/-- `value`. -/
def value (counter : GCounter) : Nat := (counter.components.items.map Prod.snd).sum

/-- `merge`. -/
def merge (left right : GCounter) : GCounter := ⟨left.components.merge right.components⟩

end GCounter

/-- A counter with increments and decrements, as two grow-only counters. -/
structure PNCounter where
  positive : GCounter
  negative : GCounter
  deriving DecidableEq

namespace PNCounter

/-- A counter at zero. -/
def empty : PNCounter := ⟨.empty, .empty⟩

/-- `increment`. -/
def increment (counter : PNCounter) (actor : CausalActor) (amount : Nat) :
    Except PyError PNCounter := do
  let positive ← counter.positive.increment actor amount
  return ⟨positive, counter.negative⟩

/-- `decrement`. -/
def decrement (counter : PNCounter) (actor : CausalActor) (amount : Nat) :
    Except PyError PNCounter := do
  let negative ← counter.negative.increment actor amount
  return ⟨counter.positive, negative⟩

/-- `value`. -/
def value (counter : PNCounter) : Int := counter.positive.value - counter.negative.value

/-- `merge`. -/
def merge (left right : PNCounter) : PNCounter :=
  ⟨left.positive.merge right.positive, left.negative.merge right.negative⟩

end PNCounter

/-- An observed-remove set: the dots that added each element, and the removed dots. -/
structure ORSet where
  adds : SortedMap PyStr (Finset Dot)
  removed : Finset Dot
  deriving DecidableEq

namespace ORSet

/-- A set without elements. -/
def empty : ORSet := ⟨.empty, ∅⟩

/-- `adds.get(element, frozenset())`. -/
def dots (set : ORSet) (element : PyStr) : Finset Dot := (set.adds.get? element).getD ∅

/-- `add`. -/
def add (set : ORSet) (element : PyStr) (dot : Dot) : ORSet :=
  ⟨set.adds.insert element (set.dots element ∪ {dot}), set.removed⟩

/-- The dots of the element that a remove tombstones. -/
def active (set : ORSet) (element : PyStr) : Finset Dot := set.dots element \ set.removed

/-- `remove`: only the dots that are seen here. -/
def remove (set : ORSet) (element : PyStr) : ORSet :=
  ⟨set.adds, set.removed ∪ set.active element⟩

/-- The visible elements, in order. -/
def value (set : ORSet) : List PyStr :=
  (set.adds.items.filter fun item => decide (item.2 \ set.removed ≠ ∅)).map Prod.fst

/-- `merge`. -/
def merge (left right : ORSet) : ORSet :=
  ⟨left.adds.absorb (fun existing dots => existing.getD ∅ ∪ dots) right.adds.items,
    left.removed ∪ right.removed⟩

end ORSet

/-- A multi-value register: the payload each write stored, and the superseded writes. -/
structure MVRegister where
  values : SortedMap Dot PyStr
  superseded : Finset Dot
  deriving DecidableEq

namespace MVRegister

/-- A register that was never written. -/
def empty : MVRegister := ⟨.empty, ∅⟩

/-- The writes that a new write supersedes. -/
def visible (register : MVRegister) : Finset Dot :=
  (register.values.keys.filter fun dot => decide (dot ∉ register.superseded)).toFinset

/-- `write`, which supersedes what is visible. -/
def write (register : MVRegister) (value : Json) (dot : Dot) : MVRegister :=
  ⟨register.values.insert dot value.dumps, register.superseded ∪ register.visible⟩

/-- The payloads of the visible writes, in dot order. -/
def visiblePayloads (register : MVRegister) : List PyStr :=
  (register.values.items.filter fun item => decide (item.1 ∉ register.superseded)).map Prod.snd

/-- The loop of `merge` over the values of the other register. -/
def mergeValues : List (Dot × PyStr) → SortedMap Dot PyStr → Except PyError (SortedMap Dot PyStr)
  | [], values => .ok values
  | (dot, encoded) :: rest, values =>
      match values.get? dot with
      | some existing =>
          if existing ≠ encoded then
            .error ⟨.valueError, "same Dot cannot identify different register values"⟩
          else mergeValues rest (values.insert dot encoded)
      | none => mergeValues rest (values.insert dot encoded)

/-- `merge`, which checks payloads of one dot. -/
def merge (left right : MVRegister) : Except PyError MVRegister := do
  let values ← mergeValues right.values.items left.values
  return ⟨values, left.superseded ∪ right.superseded⟩

end MVRegister

/-- The state stored under a key. -/
inductive CrdtState
  | gcounter (counter : GCounter)
  | pncounter (counter : PNCounter)
  | orset (set : ORSet)
  | mvregister (register : MVRegister)
  deriving DecidableEq

namespace CrdtState

/-- The type identifier that goes with the class of the state. -/
def crdtType : CrdtState → CrdtType
  | .gcounter _ => .gcounter
  | .pncounter _ => .pncounter
  | .orset _ => .orset
  | .mvregister _ => .mvregister

/-- `_empty_state`. -/
def empty : CrdtType → CrdtState
  | .gcounter => .gcounter .empty
  | .pncounter => .pncounter .empty
  | .orset => .orset .empty
  | .mvregister => .mvregister .empty

/-- `_merge_state`. -/
def merge : CrdtState → CrdtState → Except PyError CrdtState
  | .gcounter left, .gcounter right => .ok (.gcounter (left.merge right))
  | .pncounter left, .pncounter right => .ok (.pncounter (left.merge right))
  | .orset left, .orset right => .ok (.orset (left.merge right))
  | .mvregister left, .mvregister right => do
      let merged ← left.merge right
      return .mvregister merged
  | _, _ => .error ⟨.typeError, "cannot merge different CRDT state types"⟩

end CrdtState

end Distsys
