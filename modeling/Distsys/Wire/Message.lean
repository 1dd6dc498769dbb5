import Distsys.Crdt.Types

/-!
# Protobuf messages

The messages of `messages.proto` that carry replicated state. An unsigned field
holds a value below `2 ^ 64` and a string field holds UTF-8 text, so assigning
to either can raise. A `oneof` field is present once something was copied into
it or an element was added to it.
-/

namespace Distsys

/-- The value of a `uint64` field. -/
abbrev UInt64Field := Fin (2 ^ 64)

instance neZeroUInt64 : NeZero (2 ^ 64) := ⟨by decide⟩

/-- The value of a `string` field. -/
abbrev StringField := { text : PyStr // PyStr.Encodable text }

instance neZeroLetters : NeZero 128 := ⟨by decide⟩

/-- The code point of a letter below the surrogates. -/
def CodePoint.letter (letter : Fin 128) : CodePoint :=
  ⟨letter.val, letter.isLt.trans (by decide)⟩

/-- A text of one such letter has an encoding. -/
theorem PyStr.encodable_letter (letter : Fin 128) : PyStr.Encodable [CodePoint.letter letter] := by
  intro point listed surrogate
  cases List.mem_singleton.mp listed
  exact absurd (surrogate.1.trans_lt letter.isLt) (by decide)

/-- The field whose text is one letter. -/
def StringField.letter (letter : Fin 128) : StringField :=
  ⟨[CodePoint.letter letter], PyStr.encodable_letter letter⟩

/-- The value of a `uint32` field. -/
abbrev UInt32Field := Fin (2 ^ 32)

instance neZeroUInt32 : NeZero (2 ^ 32) := ⟨by decide⟩

/-- Assignment to a `uint64` field. -/
def setUInt64 (value : Nat) : Except PyError UInt64Field :=
  if fits : value < 2 ^ 64 then .ok ⟨value, fits⟩
  else .error ⟨.valueError, "Value out of range"⟩

/-- Assignment to a `uint32` field. -/
def setUInt32 (value : Nat) : Except PyError UInt32Field :=
  if fits : value < 2 ^ 32 then .ok ⟨value, fits⟩
  else .error ⟨.valueError, "Value out of range"⟩

/-- Assignment to a `string` field. -/
def setString (text : PyStr) : Except PyError StringField :=
  if encodable : PyStr.Encodable text then .ok ⟨text, encodable⟩
  else .error ⟨.valueError, "surrogates not allowed"⟩

namespace Proto

/-- The value of a `CrdtType` field; an enumeration field keeps values it does not know. -/
inductive TypeField
  | unspecified
  | known (crdtType : CrdtType)
  | unknown (raw : Int)

/-- An actor. -/
structure CausalActor where
  nodeId : StringField
  incarnation : UInt64Field

/-- A dot. -/
structure Dot where
  actor : CausalActor
  counter : UInt64Field

/-- The count of one actor. -/
structure VersionEntry where
  actor : CausalActor
  counter : UInt64Field

/-- A version vector. -/
structure VersionVector where
  entries : List VersionEntry := []

/-- The count of one actor. -/
structure GCounterComponent where
  actor : CausalActor
  value : UInt64Field

/-- A G-counter. -/
structure GCounterState where
  components : List GCounterComponent := []

/-- A PN-counter. -/
structure PNCounterState where
  positive : GCounterState := {}
  negative : GCounterState := {}

/-- An element with its dots. -/
structure ORSetAdd where
  element : StringField
  dots : List Dot := []

/-- A set. -/
structure ORSetState where
  adds : List ORSetAdd := []
  removed : List Dot := []

/-- A payload with its dot. -/
structure RegisterValue where
  dot : Dot
  valueJson : ByteArray

/-- A register. -/
structure MVRegisterState where
  values : List RegisterValue := []
  superseded : List Dot := []

/-- The `oneof state` of a `CrdtState` message. -/
inductive StateField
  | gcounter (state : GCounterState)
  | pncounter (state : PNCounterState)
  | orset (state : ORSetState)
  | mvregister (state : MVRegisterState)

/-- An entry with its state. -/
structure CrdtState where
  key : StringField
  crdtType : TypeField
  stateVersion : VersionVector := {}
  causalContext : VersionVector := {}
  state : Option StateField := none

namespace CrdtState

/-- The value read from `msg.orset`, empty when the field is absent. -/
def orset (msg : CrdtState) : ORSetState :=
  match msg.state with
  | some (.orset state) => state
  | _ => {}

/-- The value read from `msg.mvregister`, empty when the field is absent. -/
def mvregister (msg : CrdtState) : MVRegisterState :=
  match msg.state with
  | some (.mvregister state) => state
  | _ => {}

/-- `msg.orset.adds.add()` followed by filling in the new element. -/
def addOrsetAdd (msg : CrdtState) (add : ORSetAdd) : CrdtState :=
  { msg with state := some (.orset { msg.orset with adds := msg.orset.adds ++ [add] }) }

/-- `msg.orset.removed.add().CopyFrom(dot)`. -/
def addOrsetRemoved (msg : CrdtState) (dot : Dot) : CrdtState :=
  { msg with state := some (.orset { msg.orset with removed := msg.orset.removed ++ [dot] }) }

/-- `msg.mvregister.values.add()` followed by filling in the new element. -/
def addMvregisterValue (msg : CrdtState) (value : RegisterValue) : CrdtState :=
  { msg with
    state := some (.mvregister { msg.mvregister with values := msg.mvregister.values ++ [value] }) }

/-- `msg.mvregister.superseded.add().CopyFrom(dot)`. -/
def addMvregisterSuperseded (msg : CrdtState) (dot : Dot) : CrdtState :=
  { msg with
    state := some
      (.mvregister { msg.mvregister with superseded := msg.mvregister.superseded ++ [dot] }) }

end CrdtState

/-- The `oneof mutation` of a `CrdtMutationRequest` message. -/
inductive MutationField
  | increment (amount : UInt64Field)
  | decrement (amount : UInt64Field)
  | setAdd (element : StringField)
  | setRemove (element : StringField)
  | registerWrite (valueJson : ByteArray)

/-- A request to mutate. -/
structure CrdtMutationRequest where
  key : StringField
  crdtType : TypeField
  causalToken : VersionVector
  forwarded : Bool
  originNodeId : StringField
  remainingTimeoutMs : UInt32Field
  mutation : Option MutationField

/-- A request to read. -/
structure CrdtReadRequest where
  key : StringField
  causalToken : VersionVector
  forwarded : Bool
  originNodeId : StringField
  remainingTimeoutMs : UInt32Field

/-- A replicated entry. -/
structure CrdtReplicate where
  state : CrdtState

/-- A request for an entry. -/
structure CrdtFetch where
  key : StringField

/-- The digest of an entry. -/
structure CrdtDigestEntry where
  key : StringField
  crdtType : TypeField
  stateVersion : VersionVector
  causalContext : VersionVector

/-- A request for a digest. -/
structure CrdtDigest where
  requesterNodeId : StringField
  entries : List CrdtDigestEntry
  batchSize : UInt32Field

/-- The digest of a node. -/
structure CrdtDigestResponse where
  entries : List CrdtDigestEntry

/-- A reported error. -/
structure Error where
  code : ErrorCode
  message : String

/-- The empty value of a string field. -/
def emptyString : StringField := ⟨[], fun _ member => absurd member List.not_mem_nil⟩

/-- A response. -/
structure CrdtResponse where
  success : Bool
  crdtType : TypeField := .unspecified
  valueJson : ByteArray := .empty
  causalToken : VersionVector := {}
  servedBy : StringField := emptyString
  repairPerformed : Bool := false
  error : Option Error := none
  state : Option CrdtState := none
  peerFrontier : Option VersionVector := none

end Proto

end Distsys
