import Distsys.Lib.Codec
import Distsys.Replication.Messages

/-!
# The durable codec

The JSON documents that the database keeps for entries and vectors. A column holds
the canonical text of a document; the model keeps the document itself.
-/

namespace Distsys

variable {json : JsonReader} {view : Json → Json} {entry : StoredCrdtEntry}

/-- `data.get(name)` of a JSON object. -/
def Json.field (name : String) : Json → Option Json
  | .dict members => members.lookup (PyStr.ofString name)
  | _ => none

/-- `isinstance(value, int)`, which `bool` passes as well. -/
def Json.asInt : Json → Option Int
  | .int value => some value
  | .bool value => some (if value then 1 else 0)
  | _ => none

/-- The members of an object. -/
def Json.asDict : Json → Option (List (PyStr × Json))
  | .dict members => some members
  | _ => none

/-- The text of a string. -/
def Json.asStr : Json → Option PyStr
  | .str text => some text
  | _ => none

/-- The elements of a list. -/
def Json.asList : Json → Option (List Json)
  | .list elements => some elements
  | _ => none

/-- A JSON object with the given members. -/
def Json.object (members : List (String × Json)) : Json :=
  .dict (members.map fun member => (PyStr.ofString member.1, member.2))

/-- A checked read: the value, or the exception that the check raises. -/
def require {α : Type} (error : PyError) : Option α → Except PyError α
  | some value => .ok value
  | none => .error error

/-- `_parse_json`. -/
def parseJson (json : JsonReader) (raw : PyStr) : Except PyError Json :=
  json.loadsOr ⟨.valueError, "invalid durable JSON payload"⟩ raw

/-- `encode_actor`. -/
def encodeActor (actor : CausalActor) : Json :=
  .object [("node_id", .str actor.nodeId), ("incarnation", .int actor.incarnation)]

/-- `decode_actor`. -/
def decodeActor (data : Json) : Except PyError CausalActor := do
  let _ ← require ⟨.typeError, "causal actor must be an object"⟩ data.asDict
  let nodeId ← require ⟨.typeError, "invalid causal actor"⟩ ((data.field "node_id").bind (·.asStr))
  let incarnation ←
    require ⟨.typeError, "invalid causal actor"⟩ ((data.field "incarnation").bind (·.asInt))
  if named : nodeId ≠ [] then
    if incarnation < 0 then throw ⟨.valueError, "incarnation must be non-negative"⟩
    else return ⟨nodeId, incarnation.toNat, named⟩
  else throw ⟨.valueError, "node_id must not be empty"⟩

/-- `encode_dot`. -/
def encodeDot (dot : Dot) : Json :=
  .object [("actor", encodeActor dot.actor), ("counter", .int dot.counter)]

/-- `decode_dot`. -/
def decodeDot (data : Json) : Except PyError Dot := do
  let counter ← require ⟨.typeError, "invalid causal dot"⟩ ((data.field "counter").bind (·.asInt))
  let actor ← decodeActor ((data.field "actor").getD .null)
  if positive : 1 ≤ counter.toNat then return ⟨actor, counter.toNat, positive⟩
  else throw ⟨.valueError, "counter must be >= 1"⟩

/-- An actor with a count, under the name the count has in the document. -/
def encodeCount (name : String) (item : CausalActor × Nat) : Json :=
  .object [("actor", encodeActor item.1), (name, .int item.2)]

/-- An actor with a count that is checked. -/
def decodeCount (name : String) (invalid negative : String) (data : Json) :
    Except PyError (CausalActor × Nat) := do
  let count ← require ⟨.typeError, invalid⟩ ((data.field name).bind (·.asInt))
  let actor ← decodeActor ((data.field "actor").getD .null)
  if count < 0 then throw ⟨.valueError, negative⟩ else return (actor, count.toNat)

/-- `encode_version_vector`. -/
def encodeVersionVector (vector : VersionVector) : Json :=
  .list (vector.items.map (encodeCount "counter"))

/-- The loop over the decoded entries of a vector. -/
def collectVersion : List (CausalActor × Nat) → SortedMap CausalActor Nat →
    Except PyError (SortedMap CausalActor Nat)
  | [], entries => .ok entries
  | (actor, counter) :: rest, entries =>
      match entries.get? actor with
      | some existing =>
          if existing ≠ counter then
            .error ⟨.valueError, "duplicate actor with conflicting counter"⟩
          else collectVersion rest (entries.insert actor counter)
      | none => collectVersion rest (entries.insert actor counter)

/-- `decode_version_vector`. -/
def decodeVersionVector (payload : Json) : Except PyError VersionVector := do
  let elements ← require ⟨.typeError, "version vector payload must be a list"⟩ payload.asList
  let items ← elements.mapM
    (decodeCount "counter" "invalid version vector entry" "version counters must be non-negative")
  let entries ← collectVersion items .empty
  return .ofMap entries

/-- `_encode_gcounter`. -/
def encodeGCounter (counter : GCounter) : Json :=
  .list (counter.components.items.map (encodeCount "value"))

/-- `_decode_gcounter`. -/
def decodeGCounter (payload : Json) : Except PyError GCounter := do
  let elements ← require ⟨.typeError, "gcounter payload must be a list"⟩ payload.asList
  let items ← elements.mapM
    (decodeCount "value" "invalid gcounter component" "gcounter components must be non-negative")
  return ⟨.ofMap (.ofList items)⟩

/-- An element with its dots. -/
def encodeAdd (item : PyStr × Finset Dot) : Json :=
  .object [("element", .str item.1), ("dots", .list (item.2.sort.map encodeDot))]

/-- An element with its dots, decoded. -/
def decodeAdd (data : Json) : Except PyError (PyStr × Finset Dot) := do
  let element ← require ⟨.typeError, "invalid ORSet add entry"⟩
    ((data.field "element").bind (·.asStr))
  let elements ← require ⟨.typeError, "invalid ORSet dots"⟩ ((data.field "dots").bind (·.asList))
  let dots ← elements.mapM decodeDot
  return (element, dots.toFinset)

/-- A payload with its dot. -/
def encodeValue (item : Dot × PyStr) : Json :=
  .object [("dot", encodeDot item.1), ("value_json", .str item.2)]

/-- A payload with its dot, decoded. -/
def decodeValue (json : JsonReader) (data : Json) : Except PyError (Dot × PyStr) := do
  let valueJson ← require ⟨.typeError, "invalid MVRegister value entry"⟩
    ((data.field "value_json").bind (·.asStr))
  let dot ← decodeDot ((data.field "dot").getD .null)
  let _ ← parseJson json valueJson
  return (dot, valueJson)

/-- `encode_crdt_state`. -/
def encodeCrdtState : CrdtState → Json
  | .gcounter counter => .object [("components", encodeGCounter counter)]
  | .pncounter counter =>
      .object [("positive", encodeGCounter counter.positive),
        ("negative", encodeGCounter counter.negative)]
  | .orset set =>
      .object [("adds", .list (set.adds.items.map encodeAdd)),
        ("removed", .list (set.removed.sort.map encodeDot))]
  | .mvregister register =>
      .object [("values", .list (register.values.items.map encodeValue)),
        ("superseded", .list (register.superseded.sort.map encodeDot))]

/-- A list under a name of the document, or the exception for a document without it. -/
def fieldElements (message name : String) (payload : Json) : Except PyError (List Json) :=
  require ⟨.valueError, message⟩ ((payload.field name).bind (·.asList))

/-- The state of a document that is an object. -/
def decodeStateObject (json : JsonReader) (payload : Json) : CrdtType → Except PyError CrdtState
  | .gcounter => do
      let counter ← decodeGCounter ((payload.field "components").getD .null)
      return .gcounter counter
  | .pncounter => do
      let positive ← decodeGCounter ((payload.field "positive").getD .null)
      let negative ← decodeGCounter ((payload.field "negative").getD .null)
      return .pncounter ⟨positive, negative⟩
  | .orset => do
      let addsRaw ← fieldElements "invalid ORSet durable payload" "adds" payload
      let removedRaw ← fieldElements "invalid ORSet durable payload" "removed" payload
      let adds ← addsRaw.mapM decodeAdd
      let removed ← removedRaw.mapM decodeDot
      return .orset ⟨.ofList adds, removed.toFinset⟩
  | .mvregister => do
      let valuesRaw ← fieldElements "invalid MVRegister durable payload" "values" payload
      let supersededRaw ← fieldElements "invalid MVRegister durable payload" "superseded" payload
      let values ← valuesRaw.mapM (decodeValue json)
      let superseded ← supersededRaw.mapM decodeDot
      return .mvregister ⟨.ofList values, superseded.toFinset⟩

/-- `decode_crdt_state`. -/
def decodeCrdtState (json : JsonReader) (payload : Json) (crdtType : CrdtType) :
    Except PyError CrdtState := do
  let _ ← require ⟨.typeError, "CRDT payload must be an object"⟩ payload.asDict
  decodeStateObject json payload crdtType

/-- A row of the table of entries. -/
structure EncodedCrdtEntry where
  key : PyStr
  crdtType : CrdtType
  stateJson : Json
  stateVersionJson : Json
  causalContextJson : Json

/-- `encode_entry`. -/
def encodeEntry (entry : StoredCrdtEntry) : EncodedCrdtEntry where
  key := entry.key
  crdtType := entry.crdtType
  stateJson := encodeCrdtState entry.state
  stateVersionJson := encodeVersionVector entry.stateVersion
  causalContextJson := encodeVersionVector entry.causalContext

/-- `decode_entry`. -/
def decodeEntry (json : JsonReader) (encoded : EncodedCrdtEntry) :
    Except PyError StoredCrdtEntry := do
  let state ← decodeCrdtState json encoded.stateJson encoded.crdtType
  let stateVersion ← decodeVersionVector encoded.stateVersionJson
  let causalContext ← decodeVersionVector encoded.causalContextJson
  if keyed : encoded.key ≠ [] then
    return ⟨encoded.key, state, stateVersion, causalContext, keyed⟩
  else throw ⟨.valueError, "key must not be empty"⟩

theorem PyStr.ofString_injective : Function.Injective PyStr.ofString := by
  intro left right same
  have chars : Function.Injective CodePoint.ofChar := by
    intro first second equal
    have values : (CodePoint.ofChar first).val = (CodePoint.ofChar second).val :=
      congrArg Fin.val equal
    exact Char.toNat_inj.mp values
  exact String.toList_inj.mp (List.map_injective_iff.mpr chars same)

/-- Reading a member of an object that was written with these members. -/
theorem Json.field_object (members : List (String × Json)) (name : String) :
    (Json.object members).field name = members.lookup name := by
  unfold object field
  induction members with
  | nil => rfl
  | cons member rest ih =>
      obtain ⟨label, value⟩ := member
      have same : (PyStr.ofString name == PyStr.ofString label) = (name == label) := by
        rw [Bool.eq_iff_iff, beq_iff_eq, beq_iff_eq, PyStr.ofString_injective.eq_iff]
      simp only [List.map_cons, List.lookup_cons, same] at ih ⊢
      rw [ih]

/-- Entries with distinct actors are collected as they come. -/
theorem collectVersion_eq {items : List (CausalActor × Nat)} (nodup : (items.map Prod.fst).Nodup)
    {entries : SortedMap CausalActor Nat}
    (apart : ∀ item ∈ items, entries.get? item.1 = none) :
    collectVersion items entries =
      .ok (items.foldl (fun entries item => entries.insert item.1 item.2) entries) := by
  induction items generalizing entries with
  | nil => rfl
  | cons item rest ih =>
      obtain ⟨actor, counter⟩ := item
      obtain ⟨fresh, nodup⟩ := List.nodup_cons.mp nodup
      obtain ⟨absent, apart⟩ := List.forall_mem_cons.mp apart
      unfold collectVersion
      rw [absent]
      refine ih nodup fun other member => ?_
      rw [SortedMap.get?_insert_of_ne]
      · exact apart other member
      · rintro rfl
        exact fresh (List.mem_map.mpr ⟨other, member, rfl⟩)

/-- A change of documents that the decoders do not notice: it keeps the members of an object
whose names differ, the elements of a list, texts and numbers. -/
structure Json.Faithful (view : Json → Json) : Prop where
  asDict : ∀ members, (view (.object members)).asDict.isSome
  field : ∀ members : List (String × Json), (members.map Prod.fst).Nodup → ∀ name,
    (view (.object members)).field name = (members.lookup name).map view
  list : ∀ elements, view (.list elements) = .list (elements.map view)
  str : ∀ text, view (.str text) = .str text
  int : ∀ value, view (.int value) = .int value

theorem Json.faithful_id : Json.Faithful id where
  asDict _ := rfl
  field _ _ name := by rw [id, Json.field_object, Option.map_id, id]
  list elements := by rw [List.map_id]; rfl
  str _ := rfl
  int _ := rfl

section View

variable {view : Json → Json}

namespace Json.Faithful

variable (faithful : Json.Faithful view) {name other : String}

include faithful

theorem field_singleton (name : String) (value : Json) :
    (view (.object [(name, value)])).field name = some (view value) := by
  rw [faithful.field [(name, value)] (List.nodup_singleton name), List.lookup_cons_self,
    Option.map_some]

theorem field_first (differs : name ≠ other) (value second : Json) :
    (view (.object [(name, value), (other, second)])).field name = some (view value) := by
  have nodup : [name, other].Nodup :=
    List.nodup_cons.mpr ⟨List.mem_singleton.not.mpr differs, List.nodup_singleton other⟩
  rw [faithful.field [(name, value), (other, second)] nodup, List.lookup_cons_self, Option.map_some]

theorem field_second (differs : name ≠ other) (value second : Json) :
    (view (.object [(name, value), (other, second)])).field other = some (view second) := by
  have nodup : [name, other].Nodup :=
    List.nodup_cons.mpr ⟨List.mem_singleton.not.mpr differs, List.nodup_singleton other⟩
  have skips : (other == name) = false := beq_false_of_ne differs.symm
  rw [faithful.field [(name, value), (other, second)] nodup, List.lookup_cons, skips,
    List.lookup_cons_self, Option.map_some]

end Json.Faithful

/-- A list whose elements are read back one by one. -/
theorem mapM_view {α : Type} {encode : α → Json} {decode : Json → Except PyError α}
    {values : List α}
    (each : ∀ value ∈ values, decode (view (encode value)) = .ok value) :
    ((values.map encode).map view).mapM decode = .ok values := by
  rw [List.map_map]
  exact Codec.mapM_map each

variable (faithful : Json.Faithful view)

include faithful

theorem decodeActor_view (actor : CausalActor) :
    decodeActor (view (encodeActor actor)) = .ok actor := by
  unfold decodeActor encodeActor
  obtain ⟨members, object⟩ := Option.isSome_iff_exists.mp (faithful.asDict _)
  rw [object, faithful.field_first (by decide), faithful.field_second (by decide)]
  simp [require, faithful.str, faithful.int, Json.asStr, Json.asInt, Codec.ok_bind, actor.named]
  rfl

theorem decodeDot_view (dot : Dot) : decodeDot (view (encodeDot dot)) = .ok dot := by
  unfold decodeDot encodeDot
  rw [faithful.field_first (by decide), faithful.field_second (by decide)]
  simp [require, faithful.int, Json.asInt, decodeActor_view faithful, Codec.ok_bind, dot.positive]
  rfl

theorem decodeCount_view (name : String) (differs : name ≠ "actor") (invalid negative : String)
    (item : CausalActor × Nat) :
    decodeCount name invalid negative (view (encodeCount name item)) = .ok item := by
  unfold decodeCount encodeCount
  rw [faithful.field_first differs.symm, faithful.field_second differs.symm]
  simp [require, faithful.int, Json.asInt, decodeActor_view faithful, Codec.ok_bind]
  rfl

theorem decodeVersionVector_view (vector : VersionVector) :
    decodeVersionVector (view (encodeVersionVector vector)) = .ok vector := by
  have items := mapM_view fun item (_ : item ∈ vector.items) =>
    decodeCount_view faithful "counter" (by decide) "invalid version vector entry"
      "version counters must be non-negative" item
  have collected : collectVersion vector.items .empty = .ok (.ofList vector.items) :=
    collectVersion_eq vector.counts.nodup_keys fun _ _ => rfl
  unfold decodeVersionVector encodeVersionVector
  simp only [faithful.list, Json.asList, require, Codec.ok_bind, items, collected]
  exact congrArg Except.ok (Tally.ofMap_ofList_items vector)

theorem decodeGCounter_view (counter : GCounter) :
    decodeGCounter (view (encodeGCounter counter)) = .ok counter := by
  have items := mapM_view fun item (_ : item ∈ counter.components.items) =>
    decodeCount_view faithful "value" (by decide) "invalid gcounter component"
      "gcounter components must be non-negative" item
  unfold decodeGCounter encodeGCounter
  simp only [faithful.list, Json.asList, require, Codec.ok_bind, items]
  exact congrArg (fun tally => Except.ok (GCounter.mk tally)) (Tally.ofMap_ofList_items _)

theorem mapM_decodeDot_view (dots : Finset Dot) :
    ((dots.sort.map encodeDot).map view).mapM decodeDot = .ok dots.sort :=
  mapM_view fun dot _ => decodeDot_view faithful dot

theorem decodeAdd_view (item : PyStr × Finset Dot) :
    decodeAdd (view (encodeAdd item)) = .ok item := by
  unfold decodeAdd encodeAdd
  rw [faithful.field_first (by decide), faithful.field_second (by decide)]
  simp only [require, faithful.str, faithful.list, Json.asStr, Json.asList, Option.bind_some,
    Codec.ok_bind, mapM_decodeDot_view faithful, Finset.sort_toFinset]
  rfl

theorem decodeValue_view {item : Dot × PyStr} (accepted : (json.loads item.2).isOk) :
    decodeValue json (view (encodeValue item)) = .ok item := by
  obtain ⟨value, loaded⟩ := Codec.isOk_iff.mp accepted
  unfold decodeValue encodeValue parseJson
  rw [faithful.field_first (by decide), faithful.field_second (by decide)]
  simp [require, faithful.str, Json.asStr, Codec.ok_bind, decodeDot_view faithful,
    JsonReader.loadsOr_eq_ok.mpr loaded]

end View

/-- Every payload of the state is a JSON document. -/
def CrdtState.Readable (json : JsonReader) (state : CrdtState) : Prop :=
  ∀ item ∈ state.content.payloads, (json.loads item.2).isOk

theorem decodeCrdtState_view (faithful : Json.Faithful view) {state : CrdtState}
    (readable : state.Readable json) :
    decodeCrdtState json (view (encodeCrdtState state)) state.crdtType = .ok state := by
  have object : ∀ members : List (String × Json),
      decodeCrdtState json (view (.object members)) state.crdtType =
        decodeStateObject json (view (.object members)) state.crdtType := by
    intro members
    obtain ⟨found, dict⟩ := Option.isSome_iff_exists.mp (faithful.asDict members)
    unfold decodeCrdtState
    rw [dict]
    rfl
  cases state with
  | gcounter counter =>
      refine (object _).trans ?_
      unfold CrdtState.crdtType decodeStateObject
      dsimp only
      rw [faithful.field_singleton, Option.getD_some, decodeGCounter_view faithful]
      rfl
  | pncounter counter =>
      refine (object _).trans ?_
      unfold CrdtState.crdtType decodeStateObject
      dsimp only
      rw [faithful.field_first (by decide), faithful.field_second (by decide), Option.getD_some,
        Option.getD_some, decodeGCounter_view faithful, decodeGCounter_view faithful]
      rfl
  | orset set =>
      have adds := mapM_view fun item (_ : item ∈ set.adds.items) => decodeAdd_view faithful item
      refine (object _).trans ?_
      unfold CrdtState.crdtType decodeStateObject fieldElements
      dsimp only
      rw [faithful.field_first (by decide), faithful.field_second (by decide)]
      simp [require, faithful.list, Json.asList, Codec.ok_bind, adds, mapM_decodeDot_view faithful,
        -List.mapM_map, -List.map_map]
  | mvregister register =>
      have values := mapM_view fun item (listed : item ∈ register.values.items) =>
        decodeValue_view faithful (readable item (SortedMap.mem_items_iff.mp listed))
      refine (object _).trans ?_
      unfold CrdtState.crdtType decodeStateObject fieldElements
      dsimp only
      rw [faithful.field_first (by decide), faithful.field_second (by decide)]
      simp [require, faithful.list, Json.asList, Codec.ok_bind, values,
        mapM_decodeDot_view faithful, -List.mapM_map, -List.map_map]

/-- The row with a change of its documents. -/
def EncodedCrdtEntry.map (view : Json → Json) (encoded : EncodedCrdtEntry) : EncodedCrdtEntry :=
  { encoded with
    stateJson := view encoded.stateJson
    stateVersionJson := view encoded.stateVersionJson
    causalContextJson := view encoded.causalContextJson }

theorem decodeEntry_view (faithful : Json.Faithful view) (readable : entry.state.Readable json) :
    decodeEntry json ((encodeEntry entry).map view) = .ok entry := by
  unfold decodeEntry encodeEntry EncodedCrdtEntry.map StoredCrdtEntry.crdtType
  simp only [decodeCrdtState_view faithful readable, decodeVersionVector_view faithful,
    Codec.ok_bind]
  rw [dif_pos entry.keyed]
  rfl

theorem decodeVersionVector_encodeVersionVector (vector : VersionVector) :
    decodeVersionVector (encodeVersionVector vector) = .ok vector :=
  decodeVersionVector_view Json.faithful_id vector

/-- A row whose payloads are documents is read back as the entry it was written for. -/
theorem decodeEntry_encodeEntry (readable : entry.state.Readable json) :
    decodeEntry json (encodeEntry entry) = .ok entry :=
  decodeEntry_view Json.faithful_id readable

end Distsys
