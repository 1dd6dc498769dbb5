import Distsys.Wire.Codec

/-!
# What survives the wire

An entry can be encoded exactly when its integers fit their fields and its
strings have a UTF-8 encoding (`Fits`). An encoded entry decodes to itself exactly
when its state is carried by the message: it is not an empty set or register,
and every register payload is a JSON document.
-/

namespace Distsys

variable {field : Option Proto.StateField} {json : JsonReader} {entry : StoredCrdtEntry}
  {msg : Proto.CrdtState} {entries : List CrdtDigestEntry} {response : CrdtResponseData}

open Codec

/-- The values that the fields of an actor message hold. -/
def CausalActor.Fits (actor : CausalActor) : Prop :=
  PyStr.Encodable actor.nodeId ∧ actor.incarnation < 2 ^ 64

/-- The dot fits its fields. -/
def Dot.Fits (dot : Dot) : Prop := dot.actor.Fits ∧ dot.counter < 2 ^ 64

/-- The items of a vector or of a counter. -/
def VersionVector.Fits (vector : VersionVector) : Prop :=
  ∀ item ∈ vector.items, item.1.Fits ∧ item.2 < 2 ^ 64

/-- The elements and dots fit. -/
def ORSet.Fits (set : ORSet) : Prop :=
  (∀ item ∈ set.adds.items, PyStr.Encodable item.1 ∧ ∀ dot ∈ item.2, dot.Fits) ∧
    ∀ dot ∈ set.removed, dot.Fits

/-- The payloads and dots fit. -/
def MVRegister.Fits (register : MVRegister) : Prop :=
  (∀ item ∈ register.values.items, item.1.Fits ∧ PyStr.Encodable item.2) ∧
    ∀ dot ∈ register.superseded, dot.Fits

/-- The state fits, by its type. -/
def CrdtState.Fits : CrdtState → Prop
  | .gcounter counter => VersionVector.Fits counter.components
  | .pncounter counter =>
      VersionVector.Fits counter.positive.components ∧
        VersionVector.Fits counter.negative.components
  | .orset set => set.Fits
  | .mvregister register => register.Fits

/-- All integers of the entry are below `2 ^ 64` and all its strings are UTF-8 encodable. -/
def StoredCrdtEntry.Fits (entry : StoredCrdtEntry) : Prop :=
  PyStr.Encodable entry.key ∧ VersionVector.Fits entry.stateVersion ∧
    VersionVector.Fits entry.causalContext ∧ entry.state.Fits

instance (actor : CausalActor) : Decidable actor.Fits := inferInstanceAs (Decidable (_ ∧ _))

instance (dot : Dot) : Decidable dot.Fits := inferInstanceAs (Decidable (_ ∧ _))

instance (vector : VersionVector) : Decidable vector.Fits :=
  inferInstanceAs (Decidable (∀ item ∈ vector.items, item.1.Fits ∧ item.2 < 2 ^ 64))

instance (set : ORSet) : Decidable set.Fits := inferInstanceAs (Decidable (_ ∧ _))

instance (register : MVRegister) : Decidable register.Fits := inferInstanceAs (Decidable (_ ∧ _))

instance (state : CrdtState) : Decidable state.Fits :=
  match state with
  | .gcounter counter => inferInstanceAs (Decidable (VersionVector.Fits counter.components))
  | .pncounter _ => inferInstanceAs (Decidable (_ ∧ _))
  | .orset set => inferInstanceAs (Decidable set.Fits)
  | .mvregister register => inferInstanceAs (Decidable register.Fits)

instance (entry : StoredCrdtEntry) : Decidable entry.Fits := inferInstanceAs (Decidable (_ ∧ _))

/-- The state is one that its message brings to the other side. -/
def CrdtState.Carried (json : JsonReader) : CrdtState → Prop
  | .gcounter _ | .pncounter _ => True
  | .orset set => set ≠ .empty
  | .mvregister register =>
      register ≠ .empty ∧ ∀ item ∈ register.values.items, (json.loads item.2).isOk

/-- What a `uint64` field takes. -/
theorem setUInt64_isOk (value : Nat) : (setUInt64 value).isOk = true ↔ value < 2 ^ 64 := by
  unfold setUInt64
  split
  · next fits => exact iff_of_true rfl fits
  · next excess => exact iff_of_false Bool.false_ne_true excess

/-- What it then holds. -/
theorem setUInt64_val {value : Nat} {field : UInt64Field} (assigned : setUInt64 value = .ok field) :
    field.val = value := by
  unfold setUInt64 at assigned
  split at assigned
  · cases assigned
    rfl
  · cases assigned

/-- What a `uint32` field holds. -/
theorem setUInt32_val {value : Nat} {field : UInt32Field} (assigned : setUInt32 value = .ok field) :
    field.val = value := by
  unfold setUInt32 at assigned
  split at assigned
  · cases assigned
    rfl
  · cases assigned

/-- What a `string` field takes. -/
theorem setString_isOk (text : PyStr) : (setString text).isOk = true ↔ PyStr.Encodable text := by
  unfold setString
  split
  · next encodable => exact iff_of_true rfl encodable
  · next unencodable => exact iff_of_false Bool.false_ne_true unencodable

/-- What it then holds. -/
theorem setString_val {text : PyStr} {field : StringField} (assigned : setString text = .ok field) :
    field.val = text := by
  unfold setString at assigned
  split at assigned
  · cases assigned
    rfl
  · cases assigned

/-- An assignment that fails raises `ValueError`. -/
theorem raises_setUInt64 (value : Nat) :
    Raises (·.kind = .valueError) (setUInt64 value) := by
  unfold setUInt64
  split
  · exact raises_ok _
  · exact raises_error rfl

/-- Beyond the range a `ValueError` is raised. -/
theorem raises_setUInt32 (value : Nat) :
    Raises (·.kind = .valueError) (setUInt32 value) := by
  unfold setUInt32
  split
  · exact raises_ok _
  · exact raises_error rfl

/-- A surrogate raises a `ValueError`. -/
theorem raises_setString (text : PyStr) :
    Raises (·.kind = .valueError) (setString text) := by
  unfold setString
  split
  · exact raises_ok _
  · exact raises_error rfl

/-- When an actor can be written. -/
theorem actorToProto_isOk (actor : CausalActor) :
    (actorToProto actor).isOk = true ↔ actor.Fits := by
  unfold actorToProto CausalActor.Fits
  rw [← setString_isOk, ← setUInt64_isOk]
  exact isOk_bind fun _ _ => isOk_bind_pure

/-- An actor survives the wire. -/
theorem retracts_actor : Retracts actorToProto actorFromProto := by
  intro actor msg encoded
  obtain ⟨nodeId, assignedId, encoded⟩ := bind_eq_ok.mp encoded
  obtain ⟨incarnation, assignedIncarnation, encoded⟩ := bind_eq_ok.mp encoded
  cases encoded
  have sameId := setString_val assignedId
  have sameIncarnation := setUInt64_val assignedIncarnation
  unfold actorFromProto
  rw [dif_pos (sameId ▸ actor.named)]
  congr

/-- When a dot can be written. -/
theorem dotToProto_isOk (dot : Dot) : (dotToProto dot).isOk = true ↔ dot.Fits := by
  unfold dotToProto Dot.Fits
  rw [and_comm, ← actorToProto_isOk, ← setUInt64_isOk]
  exact isOk_bind fun _ _ => isOk_bind_pure

/-- A dot survives the wire. -/
theorem retracts_dot : Retracts dotToProto dotFromProto := by
  intro dot msg encoded
  obtain ⟨counter, assigned, encoded⟩ := bind_eq_ok.mp encoded
  obtain ⟨actor, encodedActor, encoded⟩ := bind_eq_ok.mp encoded
  cases encoded
  have sameCounter := setUInt64_val assigned
  unfold dotFromProto
  rw [retracts_actor _ _ encodedActor]
  change (if positive : 1 ≤ counter.val then _ else _) = _
  rw [dif_pos (sameCounter ▸ dot.positive)]
  exact congrArg Except.ok (Dot.orderKey_injective
    (congrArg (fun c => toLex (dot.actor, c)) sameCounter))

/-- When a count can be written. -/
theorem countToProto_isOk (item : CausalActor × Nat) :
    (countToProto item).isOk = true ↔ item.1.Fits ∧ item.2 < 2 ^ 64 := by
  unfold countToProto
  rw [← actorToProto_isOk, ← setUInt64_isOk]
  exact isOk_bind fun _ _ => isOk_bind_pure

/-- A count survives the wire. -/
theorem retracts_count : Retracts countToProto countFromProto := by
  intro item msg encoded
  obtain ⟨actor, encodedActor, encoded⟩ := bind_eq_ok.mp encoded
  obtain ⟨counter, assigned, encoded⟩ := bind_eq_ok.mp encoded
  cases encoded
  unfold countFromProto
  rw [retracts_actor _ _ encodedActor, setUInt64_val assigned]
  rfl

/-- When all counts can be written. -/
theorem isOk_mapM_count (tally : Tally CausalActor) :
    (tally.items.mapM countToProto).isOk = true ↔ VersionVector.Fits tally := by
  rw [isOk_mapM]
  exact forall₂_congr fun item _ => countToProto_isOk item

/-- When a vector can be written. -/
theorem versionToProto_isOk (vector : VersionVector) :
    (versionToProto vector).isOk = true ↔ vector.Fits := by
  rw [← isOk_mapM_count]
  exact isOk_bind_pure

/-- A vector survives the wire. -/
theorem retracts_version : Retracts versionToProto versionFromProto := by
  intro vector msg encoded
  obtain ⟨items, encodedItems, encoded⟩ := bind_eq_ok.mp encoded
  cases encoded
  unfold versionFromProto
  simp only [List.map_map, Function.comp_def, List.map_id_fun', id]
  rw [retracts_count.mapM _ _ encodedItems]
  exact congrArg Except.ok (Tally.ofMap_ofList_items vector)

/-- When a counter can be written. -/
theorem gcounterToProto_isOk (counter : GCounter) :
    (gcounterToProto counter).isOk = true ↔ VersionVector.Fits counter.components := by
  rw [← isOk_mapM_count]
  exact isOk_bind_pure

/-- A counter survives the wire. -/
theorem retracts_gcounter : Retracts gcounterToProto gcounterFromProto := by
  intro counter msg encoded
  obtain ⟨items, encodedItems, encoded⟩ := bind_eq_ok.mp encoded
  cases encoded
  unfold gcounterFromProto
  simp only [List.map_map, Function.comp_def, List.map_id_fun', id]
  rw [retracts_count.mapM _ _ encodedItems]
  exact congrArg (fun tally => Except.ok (GCounter.mk tally))
    (Tally.ofMap_ofList_items counter.components)

/-- When dots can be written. -/
theorem isOk_mapM_dots (dots : Finset Dot) :
    (dots.sort.mapM dotToProto).isOk = true ↔ ∀ dot ∈ dots, dot.Fits := by
  rw [isOk_mapM]
  simp only [Finset.mem_sort, dotToProto_isOk]

/-- The set of dots survives the wire. -/
theorem toFinset_of_mapM_dots {dots : Finset Dot} {codes : List Proto.Dot}
    (encoded : dots.sort.mapM dotToProto = .ok codes) :
    ∃ decoded, codes.mapM dotFromProto = .ok decoded ∧ decoded.toFinset = dots :=
  ⟨_, retracts_dot.mapM _ _ encoded, Finset.sort_toFinset dots _⟩

/-- When an element can be written. -/
theorem orsetAddToProto_isOk (item : PyStr × Finset Dot) :
    (orsetAddToProto item).isOk = true ↔
      PyStr.Encodable item.1 ∧ ∀ dot ∈ item.2, dot.Fits := by
  unfold orsetAddToProto
  rw [← setString_isOk, ← isOk_mapM_dots]
  exact isOk_bind fun _ _ => isOk_bind_pure

/-- An element with its dots survives the wire. -/
theorem retracts_orsetAdd : Retracts orsetAddToProto orsetAddFromProto := by
  intro item msg encoded
  obtain ⟨element, assigned, encoded⟩ := bind_eq_ok.mp encoded
  obtain ⟨codes, encodedDots, encoded⟩ := bind_eq_ok.mp encoded
  cases encoded
  obtain ⟨decoded, decodes, same⟩ := toFinset_of_mapM_dots encodedDots
  unfold orsetAddFromProto
  rw [decodes]
  change Except.ok (element.val, decoded.toFinset) = _
  rw [setString_val assigned, same]

/-- When a payload can be written. -/
theorem registerValueToProto_isOk (item : Dot × PyStr) :
    (registerValueToProto item).isOk = true ↔ item.1.Fits ∧ PyStr.Encodable item.2 := by
  unfold registerValueToProto
  rw [← dotToProto_isOk, ← encodeUtf8_isOk_iff]
  exact isOk_bind fun _ _ => isOk_bind_pure

/-- A payload that the JSON reader accepts comes back as the text it was. -/
theorem registerValue_accepted (item : Dot × PyStr) (msg : Proto.RegisterValue)
    (encoded : registerValueToProto item = .ok msg) (accepted : (json.loads item.2).isOk) :
    registerValueFromProto json msg = .ok item := by
  obtain ⟨dot, encodedDot, encoded⟩ := bind_eq_ok.mp encoded
  obtain ⟨data, encodedText, encoded⟩ := bind_eq_ok.mp encoded
  cases encoded
  obtain ⟨value, loaded⟩ := isOk_iff.mp accepted
  unfold registerValueFromProto
  simp only [decodeUtf8_of_encodeUtf8 encodedText, JsonReader.loadsOr_eq_ok.mpr loaded, ok_bind,
    retracts_dot _ _ encodedDot]
  rfl

/-- A payload that is no document is not read back. -/
theorem registerValue_rejected (item : Dot × PyStr) (msg : Proto.RegisterValue)
    (encoded : registerValueToProto item = .ok msg) (rejected : ¬ (json.loads item.2).isOk) :
    (registerValueFromProto json msg).isOk = false := by
  obtain ⟨dot, encodedDot, encoded⟩ := bind_eq_ok.mp encoded
  obtain ⟨data, encodedText, encoded⟩ := bind_eq_ok.mp encoded
  cases encoded
  unfold registerValueFromProto
  simp only [decodeUtf8_of_encodeUtf8 encodedText]
  rw [Bool.eq_false_iff]
  intro accepted
  obtain ⟨_, decoded⟩ := isOk_iff.mp accepted
  obtain ⟨value, loaded, _⟩ := bind_eq_ok.mp decoded
  exact rejected (isOk_iff.mpr ⟨value, JsonReader.loadsOr_eq_ok.mp loaded⟩)

/-- Adding elements one at a time is putting the whole list, unless there is none. -/
theorem foldl_eq_put {Msg Elem : Type} (add : Msg → Elem → Msg) (put : List Elem → Msg)
    (first : ∀ elem, add (put []) elem = put [elem])
    (next : ∀ elems elem, elems ≠ [] → add (put elems) elem = put (elems ++ [elem]))
    (elems : List Elem) : elems.foldl add (put []) = put elems := by
  induction elems using List.reverseRecOn with
  | nil => rfl
  | append_singleton init last ih =>
      rw [List.foldl_append, List.foldl_cons, List.foldl_nil, ih]
      by_cases none : init = []
      · rw [none]
        exact first last
      · exact next init last none

/-- The `oneof` of a set with these elements. -/
def orsetField (adds : List Proto.ORSetAdd) (removed : List Proto.Dot) : Option Proto.StateField :=
  if adds = [] ∧ removed = [] then none else some (.orset ⟨adds, removed⟩)

/-- The `oneof` of a register with these elements. -/
def mvregisterField (values : List Proto.RegisterValue) (superseded : List Proto.Dot) :
    Option Proto.StateField :=
  if values = [] ∧ superseded = [] then none else some (.mvregister ⟨values, superseded⟩)

/-- The loops of a set write its field, unless both are empty. -/
theorem foldl_orset (msg : Proto.CrdtState) (adds : List Proto.ORSetAdd)
    (removed : List Proto.Dot) (absent : msg.state = none) :
    removed.foldl .addOrsetRemoved (adds.foldl .addOrsetAdd msg) =
      { msg with state := orsetField adds removed } := by
  have start : msg = { msg with state := orsetField [] [] } := by
    cases msg
    cases absent
    rfl
  have added : adds.foldl .addOrsetAdd msg = { msg with state := orsetField adds [] } := by
    conv_lhs => rw [start]
    refine foldl_eq_put Proto.CrdtState.addOrsetAdd
      (fun adds => { msg with state := orsetField adds [] }) (fun _ => rfl) ?_ adds
    intro elems elem some
    simp [Proto.CrdtState.addOrsetAdd, Proto.CrdtState.orset, orsetField, some]
  rw [added]
  refine foldl_eq_put Proto.CrdtState.addOrsetRemoved
    (fun removed => { msg with state := orsetField adds removed }) ?_ ?_ removed
  · intro dot
    by_cases none : adds = [] <;>
      simp [Proto.CrdtState.addOrsetRemoved, Proto.CrdtState.orset, orsetField, none]
  · intro elems elem some
    simp [Proto.CrdtState.addOrsetRemoved, Proto.CrdtState.orset, orsetField, some]

/-- The loops of a register do so too. -/
theorem foldl_mvregister (msg : Proto.CrdtState) (values : List Proto.RegisterValue)
    (superseded : List Proto.Dot) (absent : msg.state = none) :
    superseded.foldl .addMvregisterSuperseded (values.foldl .addMvregisterValue msg) =
      { msg with state := mvregisterField values superseded } := by
  have start : msg = { msg with state := mvregisterField [] [] } := by
    cases msg
    cases absent
    rfl
  have added : values.foldl .addMvregisterValue msg =
      { msg with state := mvregisterField values [] } := by
    conv_lhs => rw [start]
    refine foldl_eq_put Proto.CrdtState.addMvregisterValue
      (fun values => { msg with state := mvregisterField values [] }) (fun _ => rfl) ?_ values
    intro elems elem some
    simp [Proto.CrdtState.addMvregisterValue, Proto.CrdtState.mvregister, mvregisterField, some]
  rw [added]
  refine foldl_eq_put Proto.CrdtState.addMvregisterSuperseded
    (fun superseded => { msg with state := mvregisterField values superseded }) ?_ ?_ superseded
  · intro dot
    by_cases none : values = [] <;>
      simp [Proto.CrdtState.addMvregisterSuperseded, Proto.CrdtState.mvregister, mvregisterField,
        none]
  · intro elems elem some
    simp [Proto.CrdtState.addMvregisterSuperseded, Proto.CrdtState.mvregister,
      mvregisterField, some]

/-- The field that a state is written to. -/
inductive Writes : CrdtState → Option Proto.StateField → Prop
  | gcounter {counter msg} (encoded : gcounterToProto counter = .ok msg) :
      Writes (.gcounter counter) (some (.gcounter msg))
  | pncounter {counter : PNCounter} {positive negative}
      (encodedPositive : gcounterToProto counter.positive = .ok positive)
      (encodedNegative : gcounterToProto counter.negative = .ok negative) :
      Writes (.pncounter counter) (some (.pncounter ⟨positive, negative⟩))
  | orset {set : ORSet} {adds removed}
      (encodedAdds : set.adds.items.mapM orsetAddToProto = .ok adds)
      (encodedRemoved : set.removed.sort.mapM dotToProto = .ok removed) :
      Writes (.orset set) (orsetField adds removed)
  | mvregister {register : MVRegister} {values superseded}
      (encodedValues : register.values.items.mapM registerValueToProto = .ok values)
      (encodedSuperseded : register.superseded.sort.mapM dotToProto = .ok superseded) :
      Writes (.mvregister register) (mvregisterField values superseded)

/-- What a message made from an entry holds. -/
structure Written (entry : StoredCrdtEntry) (msg : Proto.CrdtState) : Prop where
  key : msg.key.val = entry.key
  crdtType : msg.crdtType = .known entry.state.crdtType
  stateVersion : versionToProto entry.stateVersion = .ok msg.stateVersion
  causalContext : versionToProto entry.causalContext = .ok msg.causalContext
  state : Writes entry.state msg.state

/-- What is written of an entry. -/
theorem written_of_stateToProto (encoded : stateToProto entry = .ok msg) : Written entry msg := by
  obtain ⟨key, assigned, encoded⟩ := bind_eq_ok.mp encoded
  obtain ⟨stateVersion, encodedVersion, encoded⟩ := bind_eq_ok.mp encoded
  obtain ⟨causalContext, encodedContext, encoded⟩ := bind_eq_ok.mp encoded
  have sameKey := setString_val assigned
  obtain ⟨entryKey, state, entryVersion, entryContext, keyed⟩ := entry
  cases state with
  | gcounter counter =>
      obtain ⟨gcounter, encodedCounter, encoded⟩ := bind_eq_ok.mp encoded
      cases encoded
      exact ⟨sameKey, rfl, encodedVersion, encodedContext, .gcounter encodedCounter⟩
  | pncounter counter =>
      obtain ⟨positive, encodedPositive, encoded⟩ := bind_eq_ok.mp encoded
      obtain ⟨negative, encodedNegative, encoded⟩ := bind_eq_ok.mp encoded
      cases encoded
      exact ⟨sameKey, rfl, encodedVersion, encodedContext,
        .pncounter encodedPositive encodedNegative⟩
  | orset set =>
      obtain ⟨adds, encodedAdds, encoded⟩ := bind_eq_ok.mp encoded
      obtain ⟨removed, encodedRemoved, encoded⟩ := bind_eq_ok.mp encoded
      rw [foldl_orset _ _ _ rfl] at encoded
      cases encoded
      exact ⟨sameKey, rfl, encodedVersion, encodedContext, .orset encodedAdds encodedRemoved⟩
  | mvregister register =>
      obtain ⟨values, encodedValues, encoded⟩ := bind_eq_ok.mp encoded
      obtain ⟨superseded, encodedSuperseded, encoded⟩ := bind_eq_ok.mp encoded
      rw [foldl_mvregister _ _ _ rfl] at encoded
      cases encoded
      exact ⟨sameKey, rfl, encodedVersion, encodedContext,
        .mvregister encodedValues encodedSuperseded⟩

/-- Nothing is written of nothing only. -/
theorem mapM_eq_nil_iff {ε α β : Type} {encode : α → Except ε β} {values : List α} {codes : List β}
    (encoded : values.mapM encode = .ok codes) : codes = [] ↔ values = [] := by
  have pairs := mapM_eq_ok_iff.mp encoded
  cases pairs with
  | nil => exact iff_of_true rfl rfl
  | cons _ _ => exact iff_of_false (List.cons_ne_nil _ _) (List.cons_ne_nil _ _)

/-- A set without dots sorts to nothing. -/
theorem sort_eq_nil_iff {dots : Finset Dot} : dots.sort = [] ↔ dots = ∅ := by
  rw [← List.length_eq_zero_iff, Finset.length_sort, Finset.card_eq_zero]

/-- A map without items is empty. -/
theorem items_eq_nil_iff {α β : Type} [LinearOrder α] {map : SortedMap α β} :
    map.items = [] ↔ map = .empty := by
  cases map with
  | mk items sorted =>
      constructor
      · rintro ⟨⟩
        rfl
      · rintro ⟨⟩
        rfl

/-- Nothing is written for a set exactly when it is empty. -/
theorem orset_unwritten_iff {set : ORSet} {adds : List Proto.ORSetAdd} {removed : List Proto.Dot}
    (encodedAdds : set.adds.items.mapM orsetAddToProto = .ok adds)
    (encodedRemoved : set.removed.sort.mapM dotToProto = .ok removed) :
    (adds = [] ∧ removed = []) ↔ set = .empty := by
  rw [mapM_eq_nil_iff encodedAdds, mapM_eq_nil_iff encodedRemoved, items_eq_nil_iff,
    sort_eq_nil_iff]
  cases set
  exact (ORSet.mk.injEq ..).symm ▸ Iff.rfl

/-- Nothing is written of the register that was never written. -/
theorem mvregister_unwritten_iff {register : MVRegister} {values : List Proto.RegisterValue}
    {superseded : List Proto.Dot}
    (encodedValues : register.values.items.mapM registerValueToProto = .ok values)
    (encodedSuperseded : register.superseded.sort.mapM dotToProto = .ok superseded) :
    (values = [] ∧ superseded = []) ↔ register = .empty := by
  rw [mapM_eq_nil_iff encodedValues, mapM_eq_nil_iff encodedSuperseded, items_eq_nil_iff,
    sort_eq_nil_iff]
  cases register
  exact (MVRegister.mk.injEq ..).symm ▸ Iff.rfl

/-- A state that its message carries is read back. -/
theorem stateField_carried {state : CrdtState} (writes : Writes state field)
    (carried : state.Carried json) :
    stateFieldFromProto json state.crdtType field = .ok state := by
  cases writes with
  | gcounter encoded =>
      exact bind_eq_ok.mpr ⟨_, retracts_gcounter _ _ encoded, rfl⟩
  | pncounter encodedPositive encodedNegative =>
      exact bind_eq_ok.mpr ⟨_, retracts_gcounter _ _ encodedPositive,
        bind_eq_ok.mpr ⟨_, retracts_gcounter _ _ encodedNegative, rfl⟩⟩
  | orset encodedAdds encodedRemoved =>
      obtain ⟨decoded, decodes, same⟩ := toFinset_of_mapM_dots encodedRemoved
      rw [orsetField, if_neg ((orset_unwritten_iff encodedAdds encodedRemoved).not.mpr carried)]
      refine bind_eq_ok.mpr ⟨_, retracts_orsetAdd.mapM _ _ encodedAdds,
        bind_eq_ok.mpr ⟨_, decodes, ?_⟩⟩
      rw [same, SortedMap.ofList_items]
      rfl
  | mvregister encodedValues encodedSuperseded =>
      obtain ⟨decoded, decodes, same⟩ := toFinset_of_mapM_dots encodedSuperseded
      rw [mvregisterField,
        if_neg ((mvregister_unwritten_iff encodedValues encodedSuperseded).not.mpr carried.1)]
      have values := (mapM_eq_ok_or registerValue_accepted registerValue_rejected encodedValues).1
        carried.2
      refine bind_eq_ok.mpr ⟨_, values, bind_eq_ok.mpr ⟨_, decodes, ?_⟩⟩
      rw [same, SortedMap.ofList_items]
      rfl

/-- A state that its message does not carry is refused. -/
theorem stateField_refused {state : CrdtState} (writes : Writes state field)
    (missing : ¬ state.Carried json) :
    (stateFieldFromProto json state.crdtType field).isOk = false := by
  cases writes with
  | gcounter encoded => exact absurd trivial missing
  | pncounter encodedPositive encodedNegative => exact absurd trivial missing
  | orset encodedAdds encodedRemoved =>
      have empty := not_not.mp missing
      rw [orsetField, if_pos ((orset_unwritten_iff encodedAdds encodedRemoved).mpr empty)]
      rfl
  | @mvregister register values superseded encodedValues encodedSuperseded =>
      by_cases empty : register = .empty
      · rw [mvregisterField,
          if_pos ((mvregister_unwritten_iff encodedValues encodedSuperseded).mpr empty)]
        rfl
      · have rejected := (mapM_eq_ok_or registerValue_accepted registerValue_rejected
          encodedValues).2 fun accepted => missing ⟨empty, accepted⟩
        rw [mvregisterField,
          if_neg ((mvregister_unwritten_iff encodedValues encodedSuperseded).not.mpr empty)]
        change ((values.mapM (registerValueFromProto json)) >>= _).isOk = false
        cases decoded : values.mapM (registerValueFromProto json) with
        | error error => rfl
        | ok items =>
            rw [decoded] at rejected
            cases rejected

/-- An entry is written exactly when it fits. -/
theorem stateToProto_isOk (entry : StoredCrdtEntry) :
    (stateToProto entry).isOk = true ↔ entry.Fits := by
  obtain ⟨key, state, stateVersion, causalContext, keyed⟩ := entry
  unfold stateToProto StoredCrdtEntry.Fits
  rw [← setString_isOk, ← versionToProto_isOk, ← versionToProto_isOk]
  refine isOk_bind fun _ _ => isOk_bind fun _ _ => isOk_bind fun _ _ => ?_
  cases state with
  | gcounter counter => exact isOk_bind_pure.trans (gcounterToProto_isOk counter)
  | pncounter counter =>
      exact (isOk_bind fun _ _ => isOk_bind_pure).trans
        (and_congr (gcounterToProto_isOk _) (gcounterToProto_isOk _))
  | orset set =>
      have adds := forall₂_congr fun item (_ : item ∈ set.adds.items) => orsetAddToProto_isOk item
      exact (isOk_bind fun _ _ => isOk_bind_pure).trans
        (and_congr (isOk_mapM.trans adds) (isOk_mapM_dots _))
  | mvregister register =>
      have values := forall₂_congr fun item (_ : item ∈ register.values.items) =>
        registerValueToProto_isOk item
      exact (isOk_bind fun _ _ => isOk_bind_pure).trans
        (and_congr (isOk_mapM.trans values) (isOk_mapM_dots _))

/-- Decoding the message of an entry gives the entry back or raises. -/
theorem stateFromProto_written (json : JsonReader) (written : Written entry msg) :
    (entry.state.Carried json → stateFromProto json msg = .ok entry) ∧
      (¬ entry.state.Carried json → (stateFromProto json msg).isOk = false) := by
  have keyed : msg.key.val ≠ [] := written.key ▸ entry.keyed
  have decoded : stateFromProto json msg = (do
      let state ← stateFieldFromProto json entry.state.crdtType msg.state
      return ⟨msg.key.val, state, entry.stateVersion, entry.causalContext, keyed⟩) := by
    unfold stateFromProto
    rw [dif_pos keyed, written.crdtType, retracts_version _ _ written.stateVersion,
      retracts_version _ _ written.causalContext]
    rfl
  rw [decoded]
  constructor
  · intro carried
    rw [stateField_carried written.state carried]
    exact congrArg Except.ok (StoredCrdtEntry.eq_of_content written.key rfl rfl)
  · intro missing
    have refused := stateField_refused written.state missing
    cases field : stateFieldFromProto json entry.state.crdtType msg.state with
    | error error => rfl
    | ok state =>
        rw [field] at refused
        cases refused

/-- Whatever is read from the message of an entry is that entry. -/
theorem eq_of_stateFromProto {received : StoredCrdtEntry} (encoded : stateToProto entry = .ok msg)
    (decoded : stateFromProto json msg = .ok received) : received = entry := by
  have trip := stateFromProto_written json (written_of_stateToProto encoded)
  by_cases carried : entry.state.Carried json
  · rw [trip.1 carried] at decoded
    cases decoded
    rfl
  · have refused := trip.2 carried
    rw [decoded] at refused
    cases refused

/-- Reading the message of an entry gives the entry exactly when it is carried. -/
theorem stateFromProto_eq_ok_iff (json : JsonReader) (encoded : stateToProto entry = .ok msg) :
    stateFromProto json msg = .ok entry ↔ entry.state.Carried json := by
  obtain ⟨carried, refused⟩ := stateFromProto_written json (written_of_stateToProto encoded)
  refine ⟨fun decoded => ?_, carried⟩
  by_contra missing
  have failed := refused missing
  rw [decoded] at failed
  cases failed

/-- A digest survives the wire. -/
theorem retracts_digest : Retracts digestToProto digestFromProto := by
  intro digest msg encoded
  obtain ⟨key, setKey, encoded⟩ := bind_eq_ok.mp encoded
  obtain ⟨version, encodedVersion, encoded⟩ := bind_eq_ok.mp encoded
  obtain ⟨context, encodedContext, encoded⟩ := bind_eq_ok.mp encoded
  cases encoded
  unfold digestFromProto
  simp only [typeToProto, typeFromProto, retracts_version _ _ encodedVersion,
    retracts_version _ _ encodedContext, ok_bind, setString_val setKey]
  rfl

/-- What is read from the message of a digest request. -/
theorem digestRequestFromProto_of_encoded {requester : PyStr} {batchSize : Nat}
    {msg : Proto.CrdtDigest}
    (encoded : digestRequestToProto requester entries batchSize = .ok msg) :
    digestRequestFromProto msg = .ok (requester, entries, batchSize) := by
  obtain ⟨name, named, encoded⟩ := bind_eq_ok.mp encoded
  obtain ⟨size, sized, encoded⟩ := bind_eq_ok.mp encoded
  obtain ⟨codes, encodes, encoded⟩ := bind_eq_ok.mp encoded
  cases encoded
  unfold digestRequestFromProto
  rw [retracts_digest.mapM _ _ encodes, ok_bind, setString_val named, setUInt32_val sized]
  rfl

/-- So does the digest of a node. -/
theorem digestResponseFromProto_of_encoded {msg : Proto.CrdtDigestResponse}
    (encoded : digestResponseToProto entries = .ok msg) :
    digestResponseFromProto msg = .ok entries := by
  obtain ⟨codes, encodes, encoded⟩ := bind_eq_ok.mp encoded
  cases encoded
  exact retracts_digest.mapM _ _ encodes

/-- What is read from the message of a response. -/
theorem received_of_responseFromProto {received : CrdtResponseData} {msg : Proto.CrdtResponse}
    (encoded : responseToProto response = .ok msg)
    (decoded : responseFromProto json msg = .ok received) :
    received.success = response.success ∧
      if response.success then received.state = response.state ∧
        received.causalToken = response.causalToken ∧
        received.peerFrontier = response.peerFrontier
      else received.state = none ∧ received.causalToken = .empty ∧ received.peerFrontier = ⊥ := by
  unfold responseToProto at encoded
  cases success : response.success with
  | false =>
      rw [success] at encoded
      cases encoded
      cases decoded
      exact ⟨rfl, rfl, rfl, rfl⟩
  | true =>
      rw [if_pos success] at encoded
      obtain ⟨valueJson, _, encoded⟩ := bind_eq_ok.mp encoded
      obtain ⟨token, encodedToken, encoded⟩ := bind_eq_ok.mp encoded
      obtain ⟨servedBy, _, encoded⟩ := bind_eq_ok.mp encoded
      obtain ⟨state, encodedState, encoded⟩ := bind_eq_ok.mp encoded
      obtain ⟨frontier, encodedFrontier, encoded⟩ := bind_eq_ok.mp encoded
      cases encoded
      unfold responseFromProto at decoded
      rw [if_pos rfl] at decoded
      obtain ⟨crdtType, _, decoded⟩ := bind_eq_ok.mp decoded
      obtain ⟨value, _, decoded⟩ := bind_eq_ok.mp decoded
      obtain ⟨causalToken, decodedToken, decoded⟩ := bind_eq_ok.mp decoded
      obtain ⟨received, decodedState, decoded⟩ := bind_eq_ok.mp decoded
      obtain ⟨peerFrontier, decodedFrontier, decoded⟩ := bind_eq_ok.mp decoded
      have frontiers : peerFrontier = some response.peerFrontier := by
        unfold whenPresent at decodedFrontier
        simp only [retracts_version _ _ encodedFrontier, ok_bind] at decodedFrontier
        cases decodedFrontier
        rfl
      have tokens : causalToken = response.causalToken := by
        unfold tokenFromProto at decodedToken
        simp only [retracts_version _ _ encodedToken, ok_bind] at decodedToken
        cases decodedToken
        rfl
      have states : received = response.state :=
        eq_of_whenPresent (fun _ _ _ => eq_of_stateFromProto) encodedState decodedState
      cases decoded
      cases frontiers
      exact ⟨rfl, states, tokens, rfl⟩

section Bytes

variable {Bytes : Type}

/-- A replicated entry comes back exactly when its state is carried. -/
theorem replication_eq_ok_iff (json : JsonReader) (wire : Protobuf Proto.CrdtReplicate Bytes)
    (fits : entry.Fits) :
    (encodeReplication wire entry >>= decodeReplication json wire) = .ok entry ↔
      entry.state.Carried json := by
  obtain ⟨msg, encoded⟩ := isOk_iff.mp ((stateToProto_isOk entry).mpr fits)
  rw [← stateFromProto_eq_ok_iff json encoded]
  unfold encodeReplication replicationToProto
  rw [encoded]
  change decodeReplication json wire (wire.serialize ⟨msg⟩) = .ok entry ↔ _
  unfold decodeReplication decodeMessage
  rw [wire.parse_serialize]
  rfl

/-- The fields of a successful response fit their message, and its value is a
JSON document. -/
structure CrdtResponseData.Fits (json : JsonReader) (response : CrdtResponseData) : Prop where
  value : PyStr.Encodable response.value.dumps
  document : (json.loads response.value.dumps).isOk
  causalToken : response.causalToken.version.Fits
  servedBy : PyStr.Encodable response.servedBy
  peerFrontier : response.peerFrontier.Fits

/-- A document that is written can be read. -/
theorem jsonLoad_of_jsonDump {value : Json} (encodable : PyStr.Encodable value.dumps)
    (document : (json.loads value.dumps).isOk) :
    ∃ data loaded, jsonDump value = .ok data ∧ jsonLoad json data = .ok loaded := by
  have encoded := encodeUtf8_of_encodable encodable
  obtain ⟨loaded, accepted⟩ := isOk_iff.mp document
  refine ⟨_, if (String.ofList (value.dumps.map CodePoint.toChar)).toByteArray.isEmpty
    then .null else loaded, by unfold jsonDump; rw [encoded], ?_⟩
  unfold jsonLoad
  rw [decodeUtf8_of_encodeUtf8 encoded]
  simp only [JsonReader.loadsOr_eq_ok.mpr accepted]
  split <;> rfl

/-- An entry in a response comes back under the same condition. -/
theorem response_eq_ok_iff (json : JsonReader) (wire : Protobuf Proto.CrdtResponse Bytes)
    (fits : entry.Fits) (success : response.success = true) (state : response.state = some entry)
    (fields : response.Fits json) :
    (CrdtResponseData.state <$> (encodeCrdtResponse wire response >>=
      decodeCrdtResponse json wire)) =
      .ok (some entry) ↔ entry.state.Carried json := by
  obtain ⟨msg, encoded⟩ := isOk_iff.mp ((stateToProto_isOk entry).mpr fits)
  obtain ⟨valueJson, value, dumped, loaded⟩ := jsonLoad_of_jsonDump fields.value fields.document
  obtain ⟨token, encodedToken⟩ := isOk_iff.mp ((versionToProto_isOk _).mpr fields.causalToken)
  obtain ⟨servedBy, assigned⟩ := isOk_iff.mp ((setString_isOk _).mpr fields.servedBy)
  obtain ⟨frontier, encodedFrontier⟩ :=
    isOk_iff.mp ((versionToProto_isOk _).mpr fields.peerFrontier)
  have sent : ∃ sent : Proto.CrdtResponse, responseToProto response = .ok sent ∧
      sent.success = true ∧ sent.crdtType = (response.crdtType.elim .unspecified typeToProto) ∧
      sent.valueJson = valueJson ∧ sent.causalToken = token ∧ sent.state = some msg ∧
      sent.peerFrontier = some frontier := by
    unfold responseToProto tokenToProto
    rw [if_pos success, state, dumped, encodedToken, assigned, encodedFrontier, whenPresent,
      encoded]
    exact ⟨_, rfl, rfl, rfl, rfl, rfl, rfl, rfl⟩
  obtain ⟨sent, sends, succeeded, crdtType, sameValue, sameToken, sameState, sameFrontier⟩ := sent
  have received : CrdtResponseData.state <$> responseFromProto json sent =
      some <$> stateFromProto json msg := by
    have typed : ∃ decoded, responseTypeFromProto sent.crdtType = .ok decoded := by
      rw [crdtType]
      cases response.crdtType <;> exact ⟨_, rfl⟩
    obtain ⟨decoded, typed⟩ := typed
    unfold responseFromProto tokenFromProto
    rw [if_pos succeeded, typed, sameValue, sameToken, sameState, sameFrontier, loaded,
      retracts_version _ _ encodedToken, whenPresent, whenPresent,
        retracts_version _ _ encodedFrontier]
    cases stateFromProto json msg <;> rfl
  have trip : (encodeCrdtResponse wire response >>= decodeCrdtResponse json wire) =
      responseFromProto json sent := by
    unfold encodeCrdtResponse
    rw [sends]
    change decodeCrdtResponse json wire (wire.serialize sent) = _
    unfold decodeCrdtResponse decodeMessage
    rw [wire.parse_serialize]
  rw [trip, received, ← stateFromProto_eq_ok_iff json encoded]
  cases stateFromProto json msg with
  | error error => exact ⟨nofun, nofun⟩
  | ok received =>
      constructor
      · rintro ⟨⟩
        rfl
      · rintro ⟨⟩
        rfl

/-- An entry whose integers and strings fit the wire survives `encode_replication`
and `decode_replication`, and likewise a successful response that carries it,
exactly when its state is carried. -/
theorem wire_roundTrip_iff {ResponseBytes : Type} (json : JsonReader)
    (wire : Protobuf Proto.CrdtReplicate Bytes)
    (responses : Protobuf Proto.CrdtResponse ResponseBytes) (entry : StoredCrdtEntry)
    (fits : entry.Fits) :
    ((encodeReplication wire entry >>= decodeReplication json wire) = .ok entry ↔
      entry.state.Carried json) ∧
    ∀ response : CrdtResponseData, response.success = true → response.state = some entry →
      response.Fits json →
      ((CrdtResponseData.state <$>
          (encodeCrdtResponse responses response >>= decodeCrdtResponse json responses)) =
        .ok (some entry) ↔ entry.state.Carried json) :=
  ⟨replication_eq_ok_iff json wire fits, fun _ success state fields =>
    response_eq_ok_iff json responses fits success state fields⟩

end Bytes

/-- The entry that removing an element from an absent key leaves behind. -/
def vacantSet : StoredCrdtEntry :=
  let version := VersionVector.ofItems [(.letter 97 1, 1)]
  .ofLetter 115 (.orset .empty) version version

/-- The empty set fits the wire and does not survive it. -/
theorem vacantSet_lost :
    vacantSet.Fits ∧
      (encodeReplication (.plain _) vacantSet >>= decodeReplication .lenient (.plain _)) ≠
        .ok vacantSet := by
  have fits : vacantSet.Fits := by decide +kernel
  exact ⟨fits, fun same => (replication_eq_ok_iff _ _ fits).mp same rfl⟩

/-- An increment by two. -/
def singleCount : StoredCrdtEntry :=
  { vacantSet with state := .gcounter ⟨VersionVector.ofItems [(.letter 97 1, 2)]⟩ }

/-- A counter with one component survives the wire, alone and in a response. -/
theorem singleCount_roundTrip :
    (encodeReplication (.plain _) singleCount >>= decodeReplication .lenient (.plain _)) =
        .ok singleCount ∧
      (CrdtResponseData.state <$>
          (encodeCrdtResponse (.plain _) { success := true, state := some singleCount } >>=
            decodeCrdtResponse .lenient (.plain _))) = .ok (some singleCount) := by
  have trip := wire_roundTrip_iff .lenient (.plain _) (.plain _) singleCount (by decide +kernel)
  refine ⟨trip.1.mpr trivial, (trip.2 _ rfl rfl ⟨?_, rfl, ?_, ?_, ?_⟩).mpr trivial⟩
  all_goals decide +kernel

end Distsys
