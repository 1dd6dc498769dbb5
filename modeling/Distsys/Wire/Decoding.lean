import Distsys.Wire.RoundTrip

/-!
# What the decoders raise

A message that is parsed may still describe no value. Some faults are found by the codec,
which raises `DecodeError`; an actor without a name and a dot with the counter zero are found
by the constructors of the values, which raise `ValueError`; an integer with too many digits and
a document that is nested too deeply are found by `json.loads`, which raises exceptions that
the codec does not catch. A decoder reports the first fault in the order in which it reads the
message.
-/

namespace Distsys

open Codec

/-- Who finds a fault of a message. -/
inductive Fault
  | codec
  | constructor
  | reader
  deriving DecidableEq, Repr

/-- The exception that reports a fault. -/
def Fault.Raised : Fault → PyError → Prop
  | .codec, error => error.kind = .decodeError
  | .constructor, error => error.kind = .valueError
  | .reader, error => error.kind = .valueError ∨ error.kind = .runtimeError

/-- The fault, unless the condition holds. -/
def Fault.unless (fault : Fault) (condition : Prop) [Decidable condition] : List Fault :=
  if condition then [] else [fault]

/-- The fault of bytes that should be UTF-8 text of a JSON document, if they have one. -/
def textFaults (json : JsonReader) (data : ByteArray) : List Fault :=
  match decodeUtf8 data with
  | .error _ => [.codec]
  | .ok text =>
      match json.loads text with
      | .ok _ => []
      | .error (.decodeError _) => [.codec]
      | .error _ => [.reader]

/-- A condition that holds is no fault. -/
theorem Fault.unless_of {fault : Fault} {condition : Prop} [Decidable condition]
    (holds : condition) : fault.unless condition = [] := if_pos holds

/-- One that fails is. -/
theorem Fault.unless_of_not {fault : Fault} {condition : Prop} [Decidable condition]
    (fails : ¬ condition) : fault.unless condition = [fault] := if_neg fails

namespace Proto

/-- An actor without a name. -/
def CausalActor.faults (msg : CausalActor) : List Fault :=
  Fault.constructor.unless (msg.nodeId.val ≠ [])

/-- A dot of a faulty actor or without a counter. -/
def Dot.faults (msg : Dot) : List Fault :=
  msg.actor.faults ++ Fault.constructor.unless (1 ≤ msg.counter.val)

/-- The faults of the entries. -/
def VersionVector.faults (msg : VersionVector) : List Fault :=
  msg.entries.flatMap (·.actor.faults)

/-- A type that is not known. -/
def TypeField.faults : TypeField → List Fault
  | .known _ => []
  | .unspecified | .unknown _ => [.codec]

/-- The faults of the components. -/
def GCounterState.faults (msg : GCounterState) : List Fault :=
  msg.components.flatMap (·.actor.faults)

/-- The faults of the dots. -/
def ORSetAdd.faults (msg : ORSetAdd) : List Fault := msg.dots.flatMap Dot.faults

/-- The payload is read before the dot. -/
def RegisterValue.faults (json : JsonReader) (msg : RegisterValue) : List Fault :=
  textFaults json msg.valueJson ++ msg.dot.faults

/-- The faults of a state, by its type. -/
def StateField.faults (json : JsonReader) : StateField → List Fault
  | .gcounter msg => msg.faults
  | .pncounter msg => msg.positive.faults ++ msg.negative.faults
  | .orset msg => msg.adds.flatMap ORSetAdd.faults ++ msg.removed.flatMap Dot.faults
  | .mvregister msg =>
      msg.values.flatMap (RegisterValue.faults json) ++ msg.superseded.flatMap Dot.faults

/-- The type of a state, as its field says it. -/
def StateField.crdtType : StateField → CrdtType
  | .gcounter _ => .gcounter
  | .pncounter _ => .pncounter
  | .orset _ => .orset
  | .mvregister _ => .mvregister

/-- The field that is present has to be the one of the type. -/
def fieldFaults (json : JsonReader) (crdtType : CrdtType) : Option StateField → List Fault
  | none => [.codec]
  | some field => Fault.codec.unless (field.crdtType = crdtType) ++ field.faults json

/-- The key and the type are checked before the state. -/
def CrdtState.faults (json : JsonReader) (msg : CrdtState) : List Fault :=
  Fault.codec.unless (msg.key.val ≠ []) ++
    match msg.crdtType with
    | .known crdtType =>
        fieldFaults json crdtType msg.state ++ msg.stateVersion.faults ++ msg.causalContext.faults
    | .unspecified | .unknown _ => [.codec]

/-- The type is read before the vectors. -/
def CrdtDigestEntry.faults (msg : CrdtDigestEntry) : List Fault :=
  msg.crdtType.faults ++ msg.stateVersion.faults ++ msg.causalContext.faults

/-- The payload of `_json_load` may be empty. -/
def payloadFaults (json : JsonReader) (data : ByteArray) : List Fault :=
  if data.isEmpty then [] else textFaults json data

/-- There has to be one, and a written value can be faulty. -/
def mutationFaults (json : JsonReader) : Option MutationField → List Fault
  | none => [.codec]
  | some (.registerWrite valueJson) => payloadFaults json valueJson
  | some _ => []

/-- In reading order: key, type, operation, token. -/
def CrdtMutationRequest.faults (json : JsonReader) (msg : CrdtMutationRequest) : List Fault :=
  Fault.codec.unless (msg.key.val ≠ []) ++ msg.crdtType.faults ++
    mutationFaults json msg.mutation ++ msg.causalToken.faults

/-- The key is checked before the token. -/
def CrdtReadRequest.faults (msg : CrdtReadRequest) : List Fault :=
  Fault.codec.unless (msg.key.val ≠ []) ++ msg.causalToken.faults

/-- A response may leave its type unspecified, and is read only if it reports success. -/
def CrdtResponse.faults (json : JsonReader) (msg : CrdtResponse) : List Fault :=
  if msg.success then
    (match msg.crdtType with
      | .unspecified => []
      | field => field.faults) ++
      payloadFaults json msg.valueJson ++ msg.causalToken.faults ++
      msg.state.elim [] (CrdtState.faults json) ++ msg.peerFrontier.elim [] VersionVector.faults
  else []

/-- The faults of the state that is carried. -/
def CrdtReplicate.faults (json : JsonReader) (msg : CrdtReplicate) : List Fault :=
  msg.state.faults json

/-- A fetch needs a key. -/
def CrdtFetch.faults (msg : CrdtFetch) : List Fault := Fault.codec.unless (msg.key.val ≠ [])

/-- The faults of the entries. -/
def CrdtDigest.faults (msg : CrdtDigest) : List Fault := msg.entries.flatMap CrdtDigestEntry.faults

/-- The faults of the entries. -/
def CrdtDigestResponse.faults (msg : CrdtDigestResponse) : List Fault :=
  msg.entries.flatMap CrdtDigestEntry.faults

end Proto

/-- The result reports the first of the faults. -/
abbrev ReportsFault {α : Type} (faults : List Fault) (result : Except PyError α) : Prop :=
  Reports Fault.Raised faults result

/-- The codec raises `DecodeError`. -/
theorem reportsFault_codec {α : Type} (message : String) (later : List Fault) :
    ReportsFault (.codec :: later) (.error ⟨.decodeError, message⟩ : Except PyError α) :=
  ⟨_, rfl, rfl⟩

/-- A constructor raises `ValueError`. -/
theorem reportsFault_constructor {α : Type} (message : String) (later : List Fault) :
    ReportsFault (.constructor :: later) (.error ⟨.valueError, message⟩ : Except PyError α) :=
  ⟨_, rfl, rfl⟩

/-- The name is checked. -/
theorem reportsFault_actorFromProto (msg : Proto.CausalActor) :
    ReportsFault msg.faults (actorFromProto msg) := by
  unfold Proto.CausalActor.faults Fault.unless actorFromProto
  split
  · exact reports_ok _
  · exact reportsFault_constructor _ []

/-- The counter is checked after the actor. -/
theorem reportsFault_dotFromProto (msg : Proto.Dot) :
    ReportsFault msg.faults (dotFromProto msg) := by
  refine (reportsFault_actorFromProto msg.actor).bind fun actor => ?_
  unfold Fault.unless
  split
  · exact reports_ok _
  · exact reportsFault_constructor _ []

/-- The actor of a count is checked. -/
theorem reportsFault_countFromProto (item : Proto.CausalActor × UInt64Field) :
    ReportsFault item.1.faults (countFromProto item) :=
  (reportsFault_actorFromProto item.1).bind_pure _

/-- The first faulty entry is reported. -/
theorem reportsFault_versionFromProto (msg : Proto.VersionVector) :
    ReportsFault msg.faults (versionFromProto msg) := by
  have items := Reports.mapM reportsFault_countFromProto
    (msg.entries.map fun item => (item.actor, item.counter))
  rw [List.flatMap_map] at items
  exact items.bind_pure _

/-- A token is read as its vector. -/
theorem reportsFault_tokenFromProto (msg : Proto.VersionVector) :
    ReportsFault msg.faults (tokenFromProto msg) :=
  (reportsFault_versionFromProto msg).bind_pure _

/-- The first faulty component is reported. -/
theorem reportsFault_gcounterFromProto (msg : Proto.GCounterState) :
    ReportsFault msg.faults (gcounterFromProto msg) := by
  have items := Reports.mapM reportsFault_countFromProto
    (msg.components.map fun item => (item.actor, item.value))
  rw [List.flatMap_map] at items
  exact items.bind_pure _

/-- A type that is not known is reported. -/
theorem reportsFault_typeFromProto (field : Proto.TypeField) :
    ReportsFault field.faults (typeFromProto field) := by
  cases field with
  | known crdtType => exact reports_ok crdtType
  | unspecified => exact reportsFault_codec _ []
  | unknown raw => exact reportsFault_codec _ []

/-- The first faulty dot is reported. -/
theorem reportsFault_orsetAddFromProto (msg : Proto.ORSetAdd) :
    ReportsFault msg.faults (orsetAddFromProto msg) :=
  (Reports.mapM reportsFault_dotFromProto msg.dots).bind_pure _

section Readers

variable (json : JsonReader)

/-- `json.loads` under a handler that raises `DecodeError`. -/
theorem reportsFault_loadsOr {data : ByteArray} {text : PyStr}
    (decoded : decodeUtf8 data = .ok text)
    (message : String) :
    ReportsFault (textFaults json data) (json.loadsOr ⟨.decodeError, message⟩ text) := by
  unfold textFaults JsonReader.loadsOr
  rw [decoded]
  dsimp only
  cases json.loads text with
  | ok value => exact reports_ok _
  | error failure =>
      cases failure with
      | decodeError => exact reportsFault_codec _ _
      | tooManyDigits => exact ⟨_, rfl, .inl rfl⟩
      | recursionError => exact ⟨_, rfl, .inr rfl⟩

/-- Bytes that are no text have a fault of the codec. -/
theorem textFaults_of_error {data : ByteArray} {error : PyError}
    (undecodable : decodeUtf8 data = .error error) : textFaults json data = [.codec] := by
  unfold textFaults
  rw [undecodable]

/-- One value of a register. -/
theorem reportsFault_registerValueFromProto (msg : Proto.RegisterValue) :
    ReportsFault (msg.faults json) (registerValueFromProto json msg) := by
  unfold Proto.RegisterValue.faults registerValueFromProto
  cases decoded : decodeUtf8 msg.valueJson with
  | error error =>
      rw [textFaults_of_error json decoded]
      exact reportsFault_codec _ _
  | ok encoded =>
      exact (reportsFault_loadsOr json decoded _).bind fun _ =>
        (reportsFault_dotFromProto msg.dot).bind_pure _

/-- The state is read by its type. -/
theorem reportsFault_stateFieldFromProto (crdtType : CrdtType) (field : Option Proto.StateField) :
    ReportsFault (Proto.fieldFaults json crdtType field)
      (stateFieldFromProto json crdtType field) := by
  cases field with
  | none => cases crdtType <;> exact reportsFault_codec _ []
  | some field =>
      cases field with
      | gcounter msg =>
          cases crdtType with
          | gcounter => exact (reportsFault_gcounterFromProto msg).bind_pure _
          | _ => exact reportsFault_codec _ _
      | pncounter msg =>
          cases crdtType with
          | pncounter =>
              exact (reportsFault_gcounterFromProto msg.positive).bind fun _ =>
                (reportsFault_gcounterFromProto msg.negative).bind_pure _
          | _ => exact reportsFault_codec _ _
      | orset msg =>
          cases crdtType with
          | orset =>
              exact (Reports.mapM reportsFault_orsetAddFromProto msg.adds).bind fun _ =>
                (Reports.mapM reportsFault_dotFromProto msg.removed).bind_pure _
          | _ => exact reportsFault_codec _ _
      | mvregister msg =>
          cases crdtType with
          | mvregister =>
              exact (Reports.mapM (reportsFault_registerValueFromProto json) msg.values).bind
                fun _ => (Reports.mapM reportsFault_dotFromProto msg.superseded).bind_pure _
          | _ => exact reportsFault_codec _ _

/-- A state is read in the order of its fields. -/
theorem reportsFault_stateFromProto (msg : Proto.CrdtState) :
    ReportsFault (msg.faults json) (stateFromProto json msg) := by
  unfold Proto.CrdtState.faults stateFromProto
  by_cases keyed : msg.key.val ≠ []
  · rw [Fault.unless_of keyed, dif_pos keyed, List.nil_append]
    cases msg.crdtType with
    | unspecified => exact reportsFault_codec _ _
    | unknown raw => exact reportsFault_codec _ _
    | known crdtType =>
        dsimp only
        rw [List.append_assoc]
        exact (reportsFault_stateFieldFromProto json crdtType msg.state).bind fun _ =>
          (reportsFault_versionFromProto msg.stateVersion).bind fun _ =>
            (reportsFault_versionFromProto msg.causalContext).bind_pure _
  · rw [Fault.unless_of_not keyed, dif_neg keyed]
    exact reportsFault_codec _ _

/-- So is a digest. -/
theorem reportsFault_digestFromProto (msg : Proto.CrdtDigestEntry) :
    ReportsFault msg.faults (digestFromProto msg) := by
  unfold Proto.CrdtDigestEntry.faults
  rw [List.append_assoc]
  exact (reportsFault_typeFromProto msg.crdtType).bind fun _ =>
    (reportsFault_versionFromProto msg.stateVersion).bind fun _ =>
      (reportsFault_versionFromProto msg.causalContext).bind_pure _

/-- `_json_load`. -/
theorem reportsFault_jsonLoad (data : ByteArray) :
    ReportsFault (Proto.payloadFaults json data) (jsonLoad json data) := by
  unfold Proto.payloadFaults jsonLoad
  by_cases empty : data.isEmpty = true
  · rw [if_pos empty, if_pos empty]
    exact reports_ok _
  rw [if_neg empty, if_neg empty]
  cases decoded : decodeUtf8 data with
  | error error =>
      rw [textFaults_of_error json decoded]
      exact reportsFault_codec _ _
  | ok text => exact reportsFault_loadsOr json decoded _

/-- The operation of a mutation is read. -/
theorem reportsFault_mutationFromProto (field : Option Proto.MutationField) :
    ReportsFault (Proto.mutationFaults json field) (mutationFromProto json field) := by
  cases field with
  | none => exact reportsFault_codec _ _
  | some field =>
      cases field with
      | registerWrite valueJson => exact (reportsFault_jsonLoad json valueJson).bind_pure _
      | _ => exact reports_ok _

/-- The key of a request is checked before anything else is read. -/
theorem reportsFault_key {α : Type} (key : PyStr) (message : String) {faults : List Fault}
    {rest : Except PyError α} (reports : ReportsFault faults rest) :
    ReportsFault (Fault.codec.unless (key ≠ []) ++ faults)
      (if key = [] then .error ⟨.decodeError, message⟩ else rest) := by
  by_cases unnamed : key = []
  · rw [Fault.unless_of_not (not_not.mpr unnamed), if_pos unnamed]
    exact reportsFault_codec _ _
  · rw [Fault.unless_of unnamed, if_neg unnamed]
    exact reports

/-- A mutation is read in the order of its fields. -/
theorem reportsFault_mutationRequestFromProto (msg : Proto.CrdtMutationRequest) :
    ReportsFault (msg.faults json) (mutationRequestFromProto json msg) := by
  unfold Proto.CrdtMutationRequest.faults mutationRequestFromProto
  rw [List.append_assoc, List.append_assoc]
  exact reportsFault_key _ _ ((reportsFault_typeFromProto msg.crdtType).bind fun _ =>
    (reportsFault_mutationFromProto json msg.mutation).bind fun _ =>
      (reportsFault_tokenFromProto msg.causalToken).bind_pure _)

/-- So is a read. -/
theorem reportsFault_readRequestFromProto (msg : Proto.CrdtReadRequest) :
    ReportsFault msg.faults (readRequestFromProto msg) := by
  unfold Proto.CrdtReadRequest.faults readRequestFromProto
  exact reportsFault_key _ _ ((reportsFault_tokenFromProto msg.causalToken).bind_pure _)

/-- A fetch is read. -/
theorem reportsFault_fetchRequestFromProto (msg : Proto.CrdtFetch) :
    ReportsFault msg.faults (fetchRequestFromProto msg) := by
  unfold Proto.CrdtFetch.faults fetchRequestFromProto
  simpa only [List.append_nil] using reportsFault_key _ _ (reports_ok _)

/-- The type of a response may be unspecified. -/
theorem reportsFault_responseTypeFromProto (field : Proto.TypeField) :
    ReportsFault (match field with | .unspecified => [] | field => field.faults)
      (responseTypeFromProto field) := by
  cases field with
  | unspecified => exact reports_ok none
  | known crdtType => exact reports_ok (some crdtType)
  | unknown raw => exact reportsFault_codec _ _

/-- A response is read if it reports success. -/
theorem reportsFault_responseFromProto (msg : Proto.CrdtResponse) :
    ReportsFault (msg.faults json) (responseFromProto json msg) := by
  unfold Proto.CrdtResponse.faults responseFromProto
  by_cases success : msg.success = true
  · rw [if_pos success, if_pos success]
    simp only [List.append_assoc]
    exact (reportsFault_responseTypeFromProto msg.crdtType).bind fun _ =>
      (reportsFault_jsonLoad json msg.valueJson).bind fun _ =>
        (reportsFault_tokenFromProto msg.causalToken).bind fun _ =>
          (Reports.whenPresent (reportsFault_stateFromProto json) msg.state).bind fun _ =>
            (Reports.whenPresent reportsFault_versionFromProto msg.peerFrontier).bind_pure _
  · rw [if_neg success, if_neg success]
    exact reports_ok _

/-- A replication is read as its state. -/
theorem reportsFault_replicationFromProto (msg : Proto.CrdtReplicate) :
    ReportsFault (msg.faults json) (replicationFromProto json msg) :=
  reportsFault_stateFromProto json msg.state

/-- A digest request is read entry by entry. -/
theorem reportsFault_digestRequestFromProto (msg : Proto.CrdtDigest) :
    ReportsFault msg.faults (digestRequestFromProto msg) :=
  (Reports.mapM reportsFault_digestFromProto msg.entries).bind_pure _

/-- So is a digest response. -/
theorem reportsFault_digestResponseFromProto (msg : Proto.CrdtDigestResponse) :
    ReportsFault msg.faults (digestResponseFromProto msg) :=
  Reports.mapM reportsFault_digestFromProto msg.entries

end Readers

section Bytes

variable {Bytes : Type}

/-- The layouts of the messages of the replication. -/
structure CrdtWire (Bytes : Type) where
  mutationRequest : Protobuf Proto.CrdtMutationRequest Bytes
  readRequest : Protobuf Proto.CrdtReadRequest Bytes
  response : Protobuf Proto.CrdtResponse Bytes
  replicate : Protobuf Proto.CrdtReplicate Bytes
  fetch : Protobuf Proto.CrdtFetch Bytes
  digest : Protobuf Proto.CrdtDigest Bytes
  digestResponse : Protobuf Proto.CrdtDigestResponse Bytes
  token : Protobuf Proto.VersionVector Bytes

/-- The faults of some bytes: they are no message, or those of the message. -/
def bytesFaults {Message : Type} (wire : Protobuf Message Bytes) (faults : Message → List Fault)
    (data : Bytes) : List Fault :=
  match wire.parse data with
  | none => [.codec]
  | some msg => faults msg

/-- The first fault of the bytes, if there is one, is found by the codec. -/
def codecFirst {Message : Type} (wire : Protobuf Message Bytes) (faults : Message → List Fault)
    (data : Bytes) : Bool :=
  (bytesFaults wire faults data).head?.all (· = .codec)

/-- A value that passes its checks, or a `DecodeError`. -/
def Settles {Value : Type} (valid : Value → Prop) : Except PyError Value → Prop
  | .ok value => valid value
  | .error error => error.kind = .decodeError

/-- A result settles exactly if the first fault is one of the codec. -/
theorem ReportsFault.settles_iff {Value : Type} {faults : List Fault}
    {result : Except PyError Value} (reports : ReportsFault faults result) {valid : Value → Prop}
    (checked : ∀ value, result = .ok value → valid value) :
    Settles valid result ↔ faults.head?.all (· = .codec) = true := by
  cases faults with
  | nil =>
      obtain ⟨value, rfl⟩ := reports
      exact iff_of_true (checked value rfl) rfl
  | cons fault later =>
      obtain ⟨error, rfl, kind⟩ := reports
      cases fault with
      | codec => exact iff_of_true kind rfl
      | constructor =>
          refine iff_of_false (fun decode => ?_) Bool.false_ne_true
          cases (show error.kind = .decodeError from decode).symm.trans kind
      | reader =>
          refine iff_of_false (fun decode => ?_) Bool.false_ne_true
          rcases kind with kind | kind
          all_goals cases (show error.kind = .decodeError from decode).symm.trans kind

/-- A decoder settles exactly when the first fault is one of the codec. -/
theorem settles_decodeMessage_iff {Message Value : Type} {name : String}
    {wire : Protobuf Message Bytes} {read : Message → Except PyError Value}
    {faults : Message → List Fault} {valid : Value → Prop}
    (reports : ∀ msg, ReportsFault (faults msg) (read msg))
    (checked : ∀ msg value, read msg = .ok value → valid value) (data : Bytes) :
    Settles valid (decodeMessage name wire read data) ↔ codecFirst wire faults data = true := by
  unfold decodeMessage codecFirst bytesFaults
  cases wire.parse data with
  | none => exact (reportsFault_codec _ []).settles_iff nofun
  | some msg => exact (reports msg).settles_iff (checked msg)

/-- A mutation that is decoded has a key. -/
theorem keyed_of_mutationRequestFromProto {json : JsonReader} {msg : Proto.CrdtMutationRequest}
    {request : CrdtMutationData} (decoded : mutationRequestFromProto json msg = .ok request) :
    request.key ≠ [] := by
  unfold mutationRequestFromProto at decoded
  split at decoded
  · cases decoded
  · next named =>
    obtain ⟨_, _, decoded⟩ := bind_eq_ok.mp decoded
    obtain ⟨_, _, decoded⟩ := bind_eq_ok.mp decoded
    obtain ⟨_, _, decoded⟩ := bind_eq_ok.mp decoded
    cases decoded
    exact named

/-- A read that is decoded has a key. -/
theorem keyed_of_readRequestFromProto {msg : Proto.CrdtReadRequest} {request : CrdtReadData}
    (decoded : readRequestFromProto msg = .ok request) : request.key ≠ [] := by
  unfold readRequestFromProto at decoded
  split at decoded
  · cases decoded
  · next named =>
    obtain ⟨_, _, decoded⟩ := bind_eq_ok.mp decoded
    cases decoded
    exact named

/-- A fetch that is decoded has a key. -/
theorem keyed_of_fetchRequestFromProto {msg : Proto.CrdtFetch} {key : PyStr}
    (decoded : fetchRequestFromProto msg = .ok key) : key ≠ [] := by
  unfold fetchRequestFromProto at decoded
  split at decoded
  · cases decoded
  · next named =>
    cases decoded
    exact named

/-- Each decoder returns a valid value or raises `DecodeError` exactly if the first fault of its
input is one of the codec. That actors have names, that dots count from one, that entries have
keys and that the type of an entry is the one of its state are fields of the types; the keys
of the requests are not. -/
theorem decoders_settle_iff (json : JsonReader) (wire : CrdtWire Bytes) (data : Bytes) :
    (Settles (·.key ≠ []) (decodeMutationRequest json wire.mutationRequest data) ↔
      codecFirst wire.mutationRequest (Proto.CrdtMutationRequest.faults json) data = true) ∧
    (Settles (·.key ≠ []) (decodeReadRequest wire.readRequest data) ↔
      codecFirst wire.readRequest Proto.CrdtReadRequest.faults data = true) ∧
    (Settles (fun response => ∀ entry ∈ response.state, entry.key ≠ [])
        (decodeCrdtResponse json wire.response data) ↔
      codecFirst wire.response (Proto.CrdtResponse.faults json) data = true) ∧
    (Settles (·.key ≠ []) (decodeReplication json wire.replicate data) ↔
      codecFirst wire.replicate (Proto.CrdtReplicate.faults json) data = true) ∧
    (Settles (· ≠ []) (decodeFetchRequest wire.fetch data) ↔
      codecFirst wire.fetch Proto.CrdtFetch.faults data = true) ∧
    (Settles (fun _ => True) (decodeDigestRequest wire.digest data) ↔
      codecFirst wire.digest Proto.CrdtDigest.faults data = true) ∧
    (Settles (fun _ => True) (decodeDigestResponse wire.digestResponse data) ↔
      codecFirst wire.digestResponse Proto.CrdtDigestResponse.faults data = true) ∧
    (Settles (fun token => ∀ item ∈ token.version.items, item.1.nodeId ≠ [])
        (decodeToken wire.token data) ↔
      codecFirst wire.token Proto.VersionVector.faults data = true) := by
  refine ⟨?_, ?_, ?_, ?_, ?_, ?_, ?_, ?_⟩
  · exact settles_decodeMessage_iff (reportsFault_mutationRequestFromProto json)
      (fun _ _ => keyed_of_mutationRequestFromProto) data
  · exact settles_decodeMessage_iff reportsFault_readRequestFromProto
      (fun _ _ => keyed_of_readRequestFromProto) data
  · exact settles_decodeMessage_iff (reportsFault_responseFromProto json)
      (fun _ _ _ entry _ => entry.keyed) data
  · exact settles_decodeMessage_iff (reportsFault_replicationFromProto json)
      (fun _ entry _ => entry.keyed) data
  · exact settles_decodeMessage_iff reportsFault_fetchRequestFromProto
      (fun _ _ => keyed_of_fetchRequestFromProto) data
  · exact settles_decodeMessage_iff reportsFault_digestRequestFromProto
      (fun _ _ _ => trivial) data
  · exact settles_decodeMessage_iff reportsFault_digestResponseFromProto
      (fun _ _ _ => trivial) data
  · exact settles_decodeMessage_iff reportsFault_tokenFromProto
      (fun _ _ _ item _ => item.1.named) data

/-- A token that names an actor without a name raises `ValueError`. -/
theorem unnamed_actor_raises_valueError :
    decodeToken (.plain _) ⟨[⟨⟨Proto.emptyString, 0⟩, 1⟩]⟩ =
      .error ⟨.valueError, "node_id must not be empty"⟩ := rfl

end Bytes

end Distsys
