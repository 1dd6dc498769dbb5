import Distsys.Lib.Codec
import Distsys.Replication.Messages
import Distsys.Wire.Message

/-!
# The replication codec

Conversions between the decoded values and the protobuf messages. Assigning to a
field raises when the value does not fit, and reading a message raises when it
does not describe a value. `encode_mutation_request` and the other functions of
the source go on to serialise the message; a serialised message parses back to
itself, so all but `encodeReplication` and `encodeCrdtResponse` stop at the message.
The decoders start from the bytes.
-/

namespace Distsys

/-- `_json_dump`. -/
def jsonDump (value : Json) : Except PyError ByteArray :=
  match encodeUtf8 value.dumps with
  | .ok data => .ok data
  | .error error =>
      .error ⟨.decodeError, "value is not JSON serializable: " ++ error.message⟩

/-- `_json_load`, which catches `UnicodeDecodeError` and `JSONDecodeError`. -/
def jsonLoad (json : JsonReader) (data : ByteArray) : Except PyError Json :=
  if data.isEmpty then .ok .null
  else match decodeUtf8 data with
    | .error _ => .error ⟨.decodeError, "invalid JSON payload"⟩
    | .ok text => json.loadsOr ⟨.decodeError, "invalid JSON payload"⟩ text

/-- `actor_to_proto`. -/
def actorToProto (actor : CausalActor) : Except PyError Proto.CausalActor := do
  let nodeId ← setString actor.nodeId
  let incarnation ← setUInt64 actor.incarnation
  return ⟨nodeId, incarnation⟩

/-- `actor_from_proto`: the constructor checks the name. -/
def actorFromProto (msg : Proto.CausalActor) : Except PyError CausalActor :=
  if named : msg.nodeId.val ≠ [] then .ok ⟨msg.nodeId.val, msg.incarnation.val, named⟩
  else .error ⟨.valueError, "node_id must not be empty"⟩

/-- `dot_to_proto`. -/
def dotToProto (dot : Dot) : Except PyError Proto.Dot := do
  let counter ← setUInt64 dot.counter
  let actor ← actorToProto dot.actor
  return ⟨actor, counter⟩

/-- `dot_from_proto`: the constructor checks the counter. -/
def dotFromProto (msg : Proto.Dot) : Except PyError Dot := do
  let actor ← actorFromProto msg.actor
  if positive : 1 ≤ msg.counter.val then return ⟨actor, msg.counter.val, positive⟩
  else throw ⟨.valueError, "counter must be >= 1"⟩

/-- One element of a repeated field of actors with counters. -/
def countToProto (item : CausalActor × Nat) : Except PyError (Proto.CausalActor × UInt64Field) := do
  let actor ← actorToProto item.1
  let counter ← setUInt64 item.2
  return (actor, counter)

/-- One component of a vector or a counter. -/
def countFromProto (item : Proto.CausalActor × UInt64Field) :
    Except PyError (CausalActor × Nat) := do
  let actor ← actorFromProto item.1
  return (actor, item.2.val)

/-- `version_to_proto`. -/
def versionToProto (vector : VersionVector) : Except PyError Proto.VersionVector := do
  let items ← vector.items.mapM countToProto
  return ⟨items.map fun item => ⟨item.1, item.2⟩⟩

/-- `version_from_proto`. -/
def versionFromProto (msg : Proto.VersionVector) : Except PyError VersionVector := do
  let items ← (msg.entries.map fun item => (item.actor, item.counter)).mapM countFromProto
  return .ofItems items

/-- `token_to_proto`. -/
def tokenToProto (token : CausalToken) : Except PyError Proto.VersionVector :=
  versionToProto token.version

/-- `token_from_proto`. -/
def tokenFromProto (msg : Proto.VersionVector) : Except PyError CausalToken := do
  let version ← versionFromProto msg
  return ⟨version⟩

/-- `_type_to_proto`. -/
def typeToProto (crdtType : CrdtType) : Proto.TypeField := .known crdtType

/-- `_type_from_proto`. -/
def typeFromProto : Proto.TypeField → Except PyError CrdtType
  | .known crdtType => .ok crdtType
  | .unspecified => .error ⟨.decodeError, "invalid CRDT type: 0"⟩
  | .unknown raw => .error ⟨.decodeError, "invalid CRDT type: " ++ toString raw⟩

/-- The components of a counter on the wire. -/
def gcounterToProto (counter : GCounter) : Except PyError Proto.GCounterState := do
  let items ← counter.components.items.mapM countToProto
  return ⟨items.map fun item => ⟨item.1, item.2⟩⟩

/-- A counter from its components. -/
def gcounterFromProto (msg : Proto.GCounterState) : Except PyError GCounter := do
  let items ← (msg.components.map fun item => (item.actor, item.value)).mapM countFromProto
  return ⟨Tally.ofMap (SortedMap.ofList items)⟩

/-- An element with its dots on the wire. -/
def orsetAddToProto (item : PyStr × Finset Dot) : Except PyError Proto.ORSetAdd := do
  let element ← setString item.1
  let dots ← item.2.sort.mapM dotToProto
  return ⟨element, dots⟩

/-- An element with its dots. -/
def orsetAddFromProto (msg : Proto.ORSetAdd) : Except PyError (PyStr × Finset Dot) := do
  let dots ← msg.dots.mapM dotFromProto
  return (msg.element.val, dots.toFinset)

/-- A payload with its dot on the wire. -/
def registerValueToProto (item : Dot × PyStr) : Except PyError Proto.RegisterValue := do
  let dot ← dotToProto item.1
  let valueJson ← encodeUtf8 item.2
  return ⟨dot, valueJson⟩

/-- One turn of the loop over the values of a register: the payload must be UTF-8
text of a JSON document, and is kept as text. -/
def registerValueFromProto (json : JsonReader) (msg : Proto.RegisterValue) :
    Except PyError (Dot × PyStr) :=
  match decodeUtf8 msg.valueJson with
  | .error _ => .error ⟨.decodeError, "invalid MVRegister JSON payload"⟩
  | .ok encoded => do
      let _ ← json.loadsOr ⟨.decodeError, "invalid MVRegister JSON payload"⟩ encoded
      let dot ← dotFromProto msg.dot
      return (dot, encoded)

/-- Sets and registers are written by adding their elements one after the other,
so an empty one leaves the `oneof` absent. -/
def stateToProto (entry : StoredCrdtEntry) : Except PyError Proto.CrdtState := do
  let key ← setString entry.key
  let stateVersion ← versionToProto entry.stateVersion
  let causalContext ← versionToProto entry.causalContext
  let msg : Proto.CrdtState :=
    { key, crdtType := typeToProto entry.crdtType, stateVersion, causalContext }
  match entry.state with
  | .gcounter counter => do
      let gcounter ← gcounterToProto counter
      return { msg with state := some (.gcounter gcounter) }
  | .pncounter counter => do
      let positive ← gcounterToProto counter.positive
      let negative ← gcounterToProto counter.negative
      return { msg with state := some (.pncounter ⟨positive, negative⟩) }
  | .orset set => do
      let adds ← set.adds.items.mapM orsetAddToProto
      let removed ← set.removed.sort.mapM dotToProto
      return removed.foldl .addOrsetRemoved (adds.foldl .addOrsetAdd msg)
  | .mvregister register => do
      let values ← register.values.items.mapM registerValueToProto
      let superseded ← register.superseded.sort.mapM dotToProto
      return superseded.foldl .addMvregisterSuperseded (values.foldl .addMvregisterValue msg)

/-- The state of a message, by its type and the field that is present. -/
def stateFieldFromProto (json : JsonReader) :
    CrdtType → Option Proto.StateField → Except PyError CrdtState
  | .gcounter, some (.gcounter msg) => do
      let counter ← gcounterFromProto msg
      return .gcounter counter
  | .pncounter, some (.pncounter msg) => do
      let positive ← gcounterFromProto msg.positive
      let negative ← gcounterFromProto msg.negative
      return .pncounter ⟨positive, negative⟩
  | .orset, some (.orset msg) => do
      let adds ← msg.adds.mapM orsetAddFromProto
      let removed ← msg.removed.mapM dotFromProto
      return .orset ⟨.ofList adds, removed.toFinset⟩
  | .mvregister, some (.mvregister msg) => do
      let values ← msg.values.mapM (registerValueFromProto json)
      let superseded ← msg.superseded.mapM dotFromProto
      return .mvregister ⟨.ofList values, superseded.toFinset⟩
  | _, _ => .error ⟨.decodeError, "CRDT type/state mismatch"⟩

/-- `state_from_proto`. -/
def stateFromProto (json : JsonReader) (msg : Proto.CrdtState) : Except PyError StoredCrdtEntry :=
  if keyed : msg.key.val ≠ [] then do
    let crdtType ← typeFromProto msg.crdtType
    let state ← stateFieldFromProto json crdtType msg.state
    let stateVersion ← versionFromProto msg.stateVersion
    let causalContext ← versionFromProto msg.causalContext
    return ⟨msg.key.val, state, stateVersion, causalContext, keyed⟩
  else .error ⟨.decodeError, "CRDT state key is required"⟩

/-- `digest_to_proto`. -/
def digestToProto (entry : CrdtDigestEntry) : Except PyError Proto.CrdtDigestEntry := do
  let key ← setString entry.key
  let stateVersion ← versionToProto entry.stateVersion
  let causalContext ← versionToProto entry.causalContext
  return ⟨key, typeToProto entry.crdtType, stateVersion, causalContext⟩

/-- `digest_from_proto`. -/
def digestFromProto (msg : Proto.CrdtDigestEntry) : Except PyError CrdtDigestEntry := do
  let crdtType ← typeFromProto msg.crdtType
  let stateVersion ← versionFromProto msg.stateVersion
  let causalContext ← versionFromProto msg.causalContext
  return ⟨msg.key.val, crdtType, stateVersion, causalContext⟩

/-- The `oneof` of a mutation request. -/
def mutationToProto (req : CrdtMutationData) : Except PyError Proto.MutationField :=
  match req.operation with
  | .increment =>
      if req.amount < 1 then .error ⟨.decodeError, "increment amount must be >= 1"⟩
      else do
        let amount ← setUInt64 req.amount
        return .increment amount
  | .decrement =>
      if req.amount < 1 then .error ⟨.decodeError, "decrement amount must be >= 1"⟩
      else do
        let amount ← setUInt64 req.amount
        return .decrement amount
  | .add =>
      match req.value with
      | .str text => do
          let element ← setString text
          return .setAdd element
      | _ => .error ⟨.decodeError, "ORSet add value must be a string"⟩
  | .remove =>
      match req.value with
      | .str text => do
          let element ← setString text
          return .setRemove element
      | _ => .error ⟨.decodeError, "ORSet remove value must be a string"⟩
  | .write => do
      let valueJson ← jsonDump req.value
      return .registerWrite valueJson

/-- The body of `encode_mutation_request`. -/
def mutationRequestToProto (req : CrdtMutationData) : Except PyError Proto.CrdtMutationRequest :=
  if req.key = [] then .error ⟨.decodeError, "CRDT key is required"⟩
  else do
    let key ← setString req.key
    let originNodeId ← setString req.originNodeId
    let remainingTimeoutMs ← setUInt32 req.remainingTimeoutMs
    let causalToken ← tokenToProto req.causalToken
    let mutation ← mutationToProto req
    return {
      key
      crdtType := typeToProto req.crdtType
      causalToken
      forwarded := req.forwarded
      originNodeId
      remainingTimeoutMs
      mutation := some mutation }

/-- The operation, value and amount that a `oneof` describes. -/
def mutationFromProto (json : JsonReader) :
    Option Proto.MutationField → Except PyError (Operation × Json × Nat)
  | some (.increment amount) => .ok (.increment, .null, amount.val)
  | some (.decrement amount) => .ok (.decrement, .null, amount.val)
  | some (.setAdd element) => .ok (.add, .str element.val, 0)
  | some (.setRemove element) => .ok (.remove, .str element.val, 0)
  | some (.registerWrite valueJson) => do
      let value ← jsonLoad json valueJson
      return (.write, value, 0)
  | none => .error ⟨.decodeError, "mutation is required"⟩

/-- The body of `decode_mutation_request`. -/
def mutationRequestFromProto (json : JsonReader) (msg : Proto.CrdtMutationRequest) :
    Except PyError CrdtMutationData :=
  if msg.key.val = [] then .error ⟨.decodeError, "CRDT key is required"⟩
  else do
    let crdtType ← typeFromProto msg.crdtType
    let (operation, value, amount) ← mutationFromProto json msg.mutation
    let causalToken ← tokenFromProto msg.causalToken
    return {
      key := msg.key.val
      crdtType
      operation
      value
      amount
      causalToken
      forwarded := msg.forwarded
      originNodeId := msg.originNodeId.val
      remainingTimeoutMs := msg.remainingTimeoutMs.val }

/-- The body of `encode_read_request`. -/
def readRequestToProto (req : CrdtReadData) : Except PyError Proto.CrdtReadRequest :=
  if req.key = [] then .error ⟨.decodeError, "CRDT key is required"⟩
  else do
    let key ← setString req.key
    let originNodeId ← setString req.originNodeId
    let remainingTimeoutMs ← setUInt32 req.remainingTimeoutMs
    let causalToken ← tokenToProto req.causalToken
    return { key, causalToken, forwarded := req.forwarded, originNodeId, remainingTimeoutMs }

/-- The body of `decode_read_request`. -/
def readRequestFromProto (msg : Proto.CrdtReadRequest) : Except PyError CrdtReadData :=
  if msg.key.val = [] then .error ⟨.decodeError, "CRDT key is required"⟩
  else do
    let causalToken ← tokenFromProto msg.causalToken
    return {
      key := msg.key.val
      causalToken
      forwarded := msg.forwarded
      originNodeId := msg.originNodeId.val
      remainingTimeoutMs := msg.remainingTimeoutMs.val }

/-- The body of `encode_crdt_response`. -/
def responseToProto (response : CrdtResponseData) : Except PyError Proto.CrdtResponse :=
  let crdtType := response.crdtType.elim .unspecified typeToProto
  if response.success then do
    let valueJson ← jsonDump response.value
    let causalToken ← tokenToProto response.causalToken
    let servedBy ← setString response.servedBy
    let state ← Codec.whenPresent stateToProto response.state
    let peerFrontier ← versionToProto response.peerFrontier
    return {
      success := true
      crdtType
      valueJson
      causalToken
      servedBy
      repairPerformed := response.repairPerformed
      state
      peerFrontier := some peerFrontier }
  else
    return {
      success := false
      crdtType
      error := some ⟨response.errorCode.getD .internalError, response.errorMessage⟩ }

/-- A response may leave its type unspecified. -/
def responseTypeFromProto : Proto.TypeField → Except PyError (Option CrdtType)
  | .unspecified => .ok none
  | field => do
      let crdtType ← typeFromProto field
      return some crdtType

/-- The body of `decode_crdt_response`. -/
def responseFromProto (json : JsonReader) (msg : Proto.CrdtResponse) :
    Except PyError CrdtResponseData :=
  if msg.success then do
    let crdtType ← responseTypeFromProto msg.crdtType
    let value ← jsonLoad json msg.valueJson
    let causalToken ← tokenFromProto msg.causalToken
    let state ← Codec.whenPresent (stateFromProto json) msg.state
    let peerFrontier ← Codec.whenPresent versionFromProto msg.peerFrontier
    return {
      success := true
      crdtType
      value
      causalToken
      servedBy := msg.servedBy.val
      repairPerformed := msg.repairPerformed
      errorCode := msg.error.map (·.code)
      errorMessage := (msg.error.map (·.message)).getD ""
      state
      peerFrontier := peerFrontier.getD ⊥ }
  else
    return {
      success := false
      servedBy := msg.servedBy.val
      repairPerformed := msg.repairPerformed
      errorCode := msg.error.map (·.code)
      errorMessage := (msg.error.map (·.message)).getD "" }

/-- The body of `encode_replication`. -/
def replicationToProto (entry : StoredCrdtEntry) : Except PyError Proto.CrdtReplicate := do
  let state ← stateToProto entry
  return ⟨state⟩

/-- The body of `decode_replication`. -/
def replicationFromProto (json : JsonReader) (msg : Proto.CrdtReplicate) :
    Except PyError StoredCrdtEntry :=
  stateFromProto json msg.state

/-- The body of `encode_fetch_request`. -/
def fetchRequestToProto (key : PyStr) : Except PyError Proto.CrdtFetch :=
  if key = [] then .error ⟨.decodeError, "CRDT key is required"⟩
  else do
    let key ← setString key
    return ⟨key⟩

/-- The body of `decode_fetch_request`. -/
def fetchRequestFromProto (msg : Proto.CrdtFetch) : Except PyError PyStr :=
  if msg.key.val = [] then .error ⟨.decodeError, "CRDT key is required"⟩ else .ok msg.key.val

/-- The body of `encode_digest_request`. -/
def digestRequestToProto (requesterNodeId : PyStr) (entries : List CrdtDigestEntry)
    (batchSize : Nat) : Except PyError Proto.CrdtDigest := do
  let requesterNodeId ← setString requesterNodeId
  let batchSize ← setUInt32 batchSize
  let entries ← entries.mapM digestToProto
  return ⟨requesterNodeId, entries, batchSize⟩

/-- The body of `decode_digest_request`. -/
def digestRequestFromProto (msg : Proto.CrdtDigest) :
    Except PyError (PyStr × List CrdtDigestEntry × Nat) := do
  let entries ← msg.entries.mapM digestFromProto
  return (msg.requesterNodeId.val, entries, msg.batchSize.val)

/-- The body of `encode_digest_response`. -/
def digestResponseToProto (entries : List CrdtDigestEntry) :
    Except PyError Proto.CrdtDigestResponse := do
  let entries ← entries.mapM digestToProto
  return ⟨entries⟩

/-- The body of `decode_digest_response`. -/
def digestResponseFromProto (msg : Proto.CrdtDigestResponse) :
    Except PyError (List CrdtDigestEntry) :=
  msg.entries.mapM digestFromProto

/-- `SerializeToString` and `ParseFromString` for one type of message. -/
structure Protobuf (Message Bytes : Type) where
  serialize : Message → Bytes
  parse : Bytes → Option Message
  parse_serialize : ∀ msg, parse (serialize msg) = some msg

/-- Messages that are their own serialisation. -/
def Protobuf.plain (Message : Type) : Protobuf Message Message := ⟨id, some, fun _ => rfl⟩

section Bytes

variable {Bytes : Type}

/-- `ParseFromString` of a message, and what is read from it. -/
def decodeMessage {Message Value : Type} (name : String) (wire : Protobuf Message Bytes)
    (read : Message → Except PyError Value) (data : Bytes) : Except PyError Value :=
  match wire.parse data with
  | none => .error ⟨.decodeError, "invalid " ++ name ++ " protobuf"⟩
  | some msg => read msg

/-- `encode_replication`. -/
def encodeReplication (wire : Protobuf Proto.CrdtReplicate Bytes) (entry : StoredCrdtEntry) :
    Except PyError Bytes := do
  let msg ← replicationToProto entry
  return wire.serialize msg

/-- `decode_replication`. -/
def decodeReplication (json : JsonReader) (wire : Protobuf Proto.CrdtReplicate Bytes)
    (data : Bytes) : Except PyError StoredCrdtEntry :=
  decodeMessage "CrdtReplicate" wire (replicationFromProto json) data

/-- `encode_crdt_response`. -/
def encodeCrdtResponse (wire : Protobuf Proto.CrdtResponse Bytes) (response : CrdtResponseData) :
    Except PyError Bytes := do
  let msg ← responseToProto response
  return wire.serialize msg

/-- `decode_crdt_response`. -/
def decodeCrdtResponse (json : JsonReader) (wire : Protobuf Proto.CrdtResponse Bytes)
    (data : Bytes) : Except PyError CrdtResponseData :=
  decodeMessage "CrdtResponse" wire (responseFromProto json) data

/-- `decode_token`. -/
def decodeToken (wire : Protobuf Proto.VersionVector Bytes) (data : Bytes) :
    Except PyError CausalToken :=
  decodeMessage "CausalToken" wire tokenFromProto data

/-- `decode_mutation_request`. -/
def decodeMutationRequest (json : JsonReader) (wire : Protobuf Proto.CrdtMutationRequest Bytes)
    (data : Bytes) : Except PyError CrdtMutationData :=
  decodeMessage "CrdtMutationRequest" wire (mutationRequestFromProto json) data

/-- `decode_read_request`. -/
def decodeReadRequest (wire : Protobuf Proto.CrdtReadRequest Bytes) (data : Bytes) :
    Except PyError CrdtReadData :=
  decodeMessage "CrdtReadRequest" wire readRequestFromProto data

/-- `decode_fetch_request`. -/
def decodeFetchRequest (wire : Protobuf Proto.CrdtFetch Bytes) (data : Bytes) :
    Except PyError PyStr :=
  decodeMessage "CrdtFetch" wire fetchRequestFromProto data

/-- `decode_digest_request`. -/
def decodeDigestRequest (wire : Protobuf Proto.CrdtDigest Bytes) (data : Bytes) :
    Except PyError (PyStr × List CrdtDigestEntry × Nat) :=
  decodeMessage "CrdtDigest" wire digestRequestFromProto data

/-- `decode_digest_response`. -/
def decodeDigestResponse (wire : Protobuf Proto.CrdtDigestResponse Bytes) (data : Bytes) :
    Except PyError (List CrdtDigestEntry) :=
  decodeMessage "CrdtDigestResponse" wire digestResponseFromProto data

end Bytes

end Distsys
