import Distsys.Persistence.Codec

/-!
# The texts of the columns

The database holds the texts that `json.dumps` writes, with sorted keys, for the documents
of an entry. What `json.loads` reads from such a text is the document with the members of its
objects in the order of their names, and the decoders do not depend on that order.
-/

namespace Distsys

namespace Json

mutual

/-- The document with the members of every object sorted by name. -/
def sorted : Json → Json
  | .list elements => .list (sortedElements elements)
  | .dict members => .dict (SortedMap.ofList (sortedMembers members)).items
  | .null => .null
  | .bool value => .bool value
  | .int value => .int value
  | .float repr => .float repr
  | .str text => .str text

/-- The elements of a list. -/
def sortedElements : List Json → List Json
  | [] => []
  | element :: rest => sorted element :: sortedElements rest

/-- The values of an object. -/
def sortedMembers : List (PyStr × Json) → List (PyStr × Json)
  | [] => []
  | (key, value) :: rest => (key, sorted value) :: sortedMembers rest

end

theorem sortedElements_eq (elements : List Json) :
    sortedElements elements = elements.map sorted := by
  induction elements with
  | nil => rw [sortedElements, List.map_nil]
  | cons element rest ih => rw [sortedElements, List.map_cons, ih]

theorem sortedMembers_eq (members : List (PyStr × Json)) :
    sortedMembers members = members.map fun member => (member.1, sorted member.2) := by
  induction members with
  | nil => rw [sortedMembers, List.map_nil]
  | cons member rest ih => rw [sortedMembers, List.map_cons, ih]

theorem lookup_eq_lookupItems (members : List (PyStr × Json)) (key : PyStr) :
    members.lookup key = SortedMap.lookupItems members key := by
  induction members with
  | nil => rfl
  | cons member rest ih =>
      obtain ⟨name, value⟩ := member
      rw [List.lookup_cons, SortedMap.lookupItems, ih]
      by_cases same : name = key
      · rw [if_pos same, beq_iff_eq.mpr same.symm]
      · rw [if_neg same, beq_false_of_ne (Ne.symm same)]

theorem sorted_object (members : List (String × Json)) :
    sorted (.object members) = .dict (SortedMap.ofList
      (members.map fun member => (PyStr.ofString member.1, sorted member.2))).items := by
  unfold object
  rw [sorted, sortedMembers_eq, List.map_map]
  rfl

/-- Sorting is not noticed by the decoders. -/
theorem faithful_sorted : Faithful sorted where
  asDict members := by
    rw [sorted_object]
    rfl
  field members nodup name := by
    have names : ((members.map fun member =>
        (PyStr.ofString member.1, sorted member.2)).map Prod.fst).Nodup := by
      have mapped := nodup.map PyStr.ofString_injective
      rwa [List.map_map] at mapped ⊢
    rw [sorted_object]
    refine (lookup_eq_lookupItems _ _).trans ?_
    change SortedMap.get? _ _ = _
    cases found : members.lookup name with
    | some value =>
        obtain ⟨before, after, rfl, _⟩ := List.lookup_eq_some_iff.mp found
        have listed : (name, value) ∈ before ++ (name, value) :: after :=
          List.mem_append_right before List.mem_cons_self
        exact SortedMap.get?_ofList_of_mem names (List.mem_map.mpr ⟨_, listed, rfl⟩)
    | none =>
        refine SortedMap.get?_ofList_of_not_mem fun listed => ?_
        obtain ⟨_, among, named⟩ := List.mem_map.mp listed
        obtain ⟨member, original, rfl⟩ := List.mem_map.mp among
        have differs := List.lookup_eq_none_iff.mp found member original
        exact bne_iff_ne.mp differs (PyStr.ofString_injective named).symm
  list elements := by rw [sorted, sortedElements_eq]
  str text := by rw [sorted]
  int value := by rw [sorted]

end Json

/-- `crdt_type.value`. -/
def CrdtType.value : CrdtType → String
  | .gcounter => "gcounter"
  | .pncounter => "pncounter"
  | .orset => "orset"
  | .mvregister => "mvregister"

/-- `CrdtType(value)`. -/
def CrdtType.ofValue? (value : String) : Option CrdtType :=
  [CrdtType.gcounter, .pncounter, .orset, .mvregister].find? fun crdtType => crdtType.value = value

theorem CrdtType.ofValue?_value (crdtType : CrdtType) :
    ofValue? crdtType.value = some crdtType := by
  cases crdtType <;> decide

/-- A row of the table of entries as the database holds it. -/
structure CrdtRow where
  key : PyStr
  crdtType : String
  stateJson : PyStr
  stateVersionJson : PyStr
  causalContextJson : PyStr
  deriving DecidableEq

/-- The row with its texts. -/
def EncodedCrdtEntry.row (encoded : EncodedCrdtEntry) : CrdtRow where
  key := encoded.key
  crdtType := encoded.crdtType.value
  stateJson := encoded.stateJson.dumps
  stateVersionJson := encoded.stateVersionJson.dumps
  causalContextJson := encoded.causalContextJson.dumps

/-- The documents of a row. -/
def EncodedCrdtEntry.documents (encoded : EncodedCrdtEntry) : List Json :=
  [encoded.stateJson, encoded.stateVersionJson, encoded.causalContextJson]

/-- `encode_entry`. -/
def encodeRow (entry : StoredCrdtEntry) : CrdtRow := (encodeEntry entry).row

/-- `decode_entry`. -/
def decodeRow (json : JsonReader) (row : CrdtRow) : Except PyError StoredCrdtEntry := do
  let crdtType ← require ⟨.valueError, "unknown CRDT type: " ++ row.crdtType⟩
    (CrdtType.ofValue? row.crdtType)
  let payload ← parseJson json row.stateJson
  let state ← decodeCrdtState json payload crdtType
  let payload ← parseJson json row.stateVersionJson
  let stateVersion ← decodeVersionVector payload
  let payload ← parseJson json row.causalContextJson
  let causalContext ← decodeVersionVector payload
  if keyed : row.key ≠ [] then return ⟨row.key, state, stateVersion, causalContext, keyed⟩
  else throw ⟨.valueError, "key must not be empty"⟩

/-- The reader reads the texts of a row's documents back. -/
def EncodedCrdtEntry.Loads (json : JsonReader) (encoded : EncodedCrdtEntry) : Prop :=
  ∀ document ∈ encoded.documents, json.loads document.dumps = .ok document.sorted

theorem EncodedCrdtEntry.loads_iff {json : JsonReader} {encoded : EncodedCrdtEntry} :
    encoded.Loads json ↔
      json.loads encoded.stateJson.dumps = .ok encoded.stateJson.sorted ∧
      json.loads encoded.stateVersionJson.dumps = .ok encoded.stateVersionJson.sorted ∧
      json.loads encoded.causalContextJson.dumps = .ok encoded.causalContextJson.sorted := by
  unfold Loads documents
  simp only [List.forall_mem_cons, List.not_mem_nil, false_implies, implies_true, and_true]

/-- A row that can be read is decoded from its sorted documents. -/
theorem decodeRow_row {json : JsonReader} {encoded : EncodedCrdtEntry}
    (loads : encoded.Loads json) :
    decodeRow json encoded.row = decodeEntry json (encoded.map Json.sorted) := by
  obtain ⟨state, version, context⟩ := EncodedCrdtEntry.loads_iff.mp loads
  unfold decodeRow EncodedCrdtEntry.row parseJson
  simp only [CrdtType.ofValue?_value, JsonReader.loadsOr_eq_ok.mpr state,
    JsonReader.loadsOr_eq_ok.mpr version, JsonReader.loadsOr_eq_ok.mpr context, require,
    Codec.ok_bind]
  rfl

/-- The texts of a row determine its documents, up to the order of members. -/
theorem map_sorted_of_row {json : JsonReader} {left right : EncodedCrdtEntry}
    (leftLoads : left.Loads json) (rightLoads : right.Loads json) (same : left.row = right.row) :
    left.map Json.sorted = right.map Json.sorted := by
  obtain ⟨leftState, leftVersion, leftContext⟩ := EncodedCrdtEntry.loads_iff.mp leftLoads
  obtain ⟨rightState, rightVersion, rightContext⟩ := EncodedCrdtEntry.loads_iff.mp rightLoads
  have key : left.key = right.key := congrArg CrdtRow.key same
  have crdtType : left.crdtType = right.crdtType := by
    have values : left.crdtType.value = right.crdtType.value := congrArg CrdtRow.crdtType same
    have found := CrdtType.ofValue?_value left.crdtType
    rw [values, CrdtType.ofValue?_value] at found
    exact (Option.some.inj found).symm
  have state : left.stateJson.dumps = right.stateJson.dumps := congrArg CrdtRow.stateJson same
  have version : left.stateVersionJson.dumps = right.stateVersionJson.dumps :=
    congrArg CrdtRow.stateVersionJson same
  have context : left.causalContextJson.dumps = right.causalContextJson.dumps :=
    congrArg CrdtRow.causalContextJson same
  rw [state, rightState] at leftState
  rw [version, rightVersion] at leftVersion
  rw [context, rightContext] at leftContext
  unfold EncodedCrdtEntry.map
  rw [Except.ok.inj leftState, Except.ok.inj leftVersion, Except.ok.inj leftContext, key,
    crdtType]

/-- A row whose register payloads are JSON documents is read back as its entry, and two entries
have the same row exactly if they are equal. -/
theorem durable_codec_canonical {json : JsonReader} {entry : StoredCrdtEntry}
    (loads : (encodeEntry entry).Loads json) :
    (entry.state.Readable json → decodeRow json (encodeRow entry) = .ok entry) ∧
      ∀ other : StoredCrdtEntry, (encodeEntry other).Loads json →
        (encodeRow other = encodeRow entry ↔ other = entry) := by
  refine ⟨fun readable => ?_, fun other otherLoads => ⟨fun same => ?_, fun same => by rw [same]⟩⟩
  · exact (decodeRow_row loads).trans (decodeEntry_view Json.faithful_sorted readable)
  · -- a reader that accepts every payload tells the entries apart
    have readable : ∀ state : CrdtState, state.Readable .lenient := fun _ _ _ => rfl
    have documents := map_sorted_of_row otherLoads loads same
    have decoded := decodeEntry_view Json.faithful_sorted (readable other.state)
    rw [documents, decodeEntry_view Json.faithful_sorted (readable entry.state)] at decoded
    exact (Except.ok.inj decoded).symm

/-- A reader of the texts of two documents that rejects one text. -/
def JsonReader.ofPair (first second : Json) (rejected : PyStr)
    (apart : ∀ value ∈ [Json.null, first.sorted, second.sorted], value.dumps ≠ rejected)
    (null : Json.null.dumps ∉ [rejected, first.dumps, second.dumps]) : JsonReader where
  loads text :=
    if text = rejected then .error (.decodeError "Expecting value")
    else if text = first.dumps then .ok first.sorted
    else if text = second.dumps then .ok second.sorted
    else .ok .null
  loads_null := by
    simp only [List.mem_cons, List.not_mem_nil, or_false, not_or] at null
    rw [if_neg null.1, if_neg null.2.1, if_neg null.2.2]
  loads_dumps text value loaded := by
    have listed : value ∈ [Json.null, first.sorted, second.sorted] := by
      split at loaded
      · cases loaded
      · split at loaded
        · cases loaded
          exact .tail _ (.head _)
        · split at loaded
          · cases loaded
            exact .tail _ (.tail _ (.head _))
          · cases loaded
            exact .head _
    rw [if_neg (apart value listed)]
    split
    · rfl
    · split <;> rfl

/-- The first event of a node called `n`. -/
def firstDot : Dot := ⟨⟨PyStr.ofString "n", 0, by decide⟩, 1, Nat.one_pos⟩

/-- A register with one payload. -/
def registerEntry (payload : PyStr) : StoredCrdtEntry where
  key := PyStr.ofString "k"
  state := .mvregister ⟨.ofList [(firstDot, payload)], ∅⟩
  stateVersion := .ofItems [(firstDot.actor, 1)]
  causalContext := .ofItems [(firstDot.actor, 1)]
  keyed := by decide

/-- The document of the state of `registerEntry`. -/
def registerDocument (payload : PyStr) : Json :=
  .object [("values", .list [encodeValue (firstDot, payload)]), ("superseded", .list [])]

theorem encodeCrdtState_registerEntry (payload : PyStr) :
    encodeCrdtState (registerEntry payload).state = registerDocument payload := by
  unfold registerEntry encodeCrdtState registerDocument
  dsimp only
  rw [Finset.sort_empty]
  rfl

/-- The document of a version. -/
def versionDocument : Json := encodeVersionVector (.ofItems [(firstDot.actor, 1)])

/-- The documents of `registerEntry` are read back by a reader of the two documents. -/
theorem loads_registerEntry {payload rejected : PyStr}
    {apart : ∀ value ∈ [Json.null, (registerDocument payload).sorted, versionDocument.sorted],
      value.dumps ≠ rejected}
    {null : Json.null.dumps ∉ [rejected, (registerDocument payload).dumps, versionDocument.dumps]}
    (state : (registerDocument payload).dumps ≠ rejected)
    (version : versionDocument.dumps ∉ [rejected, (registerDocument payload).dumps]) :
    (encodeEntry (registerEntry payload)).Loads
      (.ofPair (registerDocument payload) versionDocument rejected apart null) := by
  simp only [List.mem_cons, List.not_mem_nil, or_false, not_or] at version
  have vector : JsonReader.loads
      (.ofPair (registerDocument payload) versionDocument rejected apart null)
        versionDocument.dumps = .ok versionDocument.sorted := by
    change (if _ then _ else _) = _
    rw [if_neg version.1, if_neg version.2, if_pos rfl]
  refine EncodedCrdtEntry.loads_iff.mpr ⟨?_, vector, vector⟩
  change JsonReader.loads _ (encodeCrdtState (registerEntry payload).state).dumps =
    .ok (encodeCrdtState (registerEntry payload).state).sorted
  rw [encodeCrdtState_registerEntry]
  change (if _ then _ else _) = _
  rw [if_neg state, if_pos rfl]

/-- A reader for a register that holds `null`. -/
def nullReader : JsonReader :=
  .ofPair (registerDocument (PyStr.ofString "null")) versionDocument (PyStr.ofString "x")
    (by decide +kernel) (by decide +kernel)

theorem null_register_round_trip :
    (encodeEntry (registerEntry (PyStr.ofString "null"))).Loads nullReader ∧
      (registerEntry (PyStr.ofString "null")).state.Readable nullReader ∧
      decodeRow nullReader (encodeRow (registerEntry (PyStr.ofString "null"))) =
        .ok (registerEntry (PyStr.ofString "null")) := by
  have loads : (encodeEntry (registerEntry (PyStr.ofString "null"))).Loads nullReader :=
    loads_registerEntry (by decide +kernel) (by decide +kernel)
  have readable : (registerEntry (PyStr.ofString "null")).state.Readable nullReader := by
    intro item stored
    have only : (item.1, item.2) = (firstDot, PyStr.ofString "null") :=
      List.mem_singleton.mp (SortedMap.mem_of_get?_ofList stored)
    rw [congrArg Prod.snd only]
    exact Codec.isOk_iff.mpr ⟨_, nullReader.loads_null⟩
  exact ⟨loads, readable, (durable_codec_canonical loads).1 readable⟩

/-- A reader for a register that holds `x`, which is no JSON document. -/
def rejectingReader : JsonReader :=
  .ofPair (registerDocument (PyStr.ofString "x")) versionDocument (PyStr.ofString "x")
    (by decide +kernel) (by decide +kernel)

/-- A register with a payload that is no JSON document is written and cannot be read. -/
theorem unreadable_register_is_lost :
    (encodeEntry (registerEntry (PyStr.ofString "x"))).Loads rejectingReader ∧
      decodeRow rejectingReader (encodeRow (registerEntry (PyStr.ofString "x"))) =
        .error ⟨.valueError, "invalid durable JSON payload"⟩ := by
  have loads : (encodeEntry (registerEntry (PyStr.ofString "x"))).Loads rejectingReader :=
    loads_registerEntry (by decide +kernel) (by decide +kernel)
  have failed : decodeCrdtState rejectingReader
      (encodeCrdtState (registerEntry (PyStr.ofString "x")).state).sorted .mvregister =
        .error ⟨.valueError, "invalid durable JSON payload"⟩ := by
    rw [encodeCrdtState_registerEntry]
    decide +kernel
  exact ⟨loads, (decodeRow_row loads).trans (congrArg (· >>= _) failed)⟩

end Distsys
