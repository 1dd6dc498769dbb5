import Distsys.Storage.Entry

/-!
# Requests, responses and digests

The decoded forms of the messages nodes and clients exchange about keys.
-/

namespace Distsys

/-- The `operation` of a mutation request. -/
inductive Operation
  | increment
  | decrement
  | add
  | remove
  | write
  deriving DecidableEq, Repr

/-- `CrdtMutationData`. -/
structure CrdtMutationData where
  key : PyStr
  crdtType : CrdtType
  operation : Operation
  value : Json := .null
  amount : Nat := 0
  causalToken : CausalToken := .empty
  forwarded : Bool := false
  originNodeId : PyStr := []
  remainingTimeoutMs : Nat := 0

/-- `CrdtReadData`. -/
structure CrdtReadData where
  key : PyStr
  causalToken : CausalToken := .empty
  forwarded : Bool := false
  originNodeId : PyStr := []
  remainingTimeoutMs : Nat := 0

/-- `CrdtResponseData`. -/
structure CrdtResponseData where
  success : Bool
  crdtType : Option CrdtType := none
  value : Json := .null
  causalToken : CausalToken := .empty
  servedBy : PyStr := []
  repairPerformed : Bool := false
  errorCode : Option ErrorCode := none
  errorMessage : String := ""
  state : Option StoredCrdtEntry := none
  peerFrontier : VersionVector := ⊥

/-- The causal summary of one key. -/
structure CrdtDigestEntry where
  key : PyStr
  crdtType : CrdtType
  stateVersion : VersionVector
  causalContext : VersionVector
  deriving DecidableEq

variable {localEntry remote : CrdtDigestEntry}

namespace CrdtDigestEntry

/-- `from_entry`. -/
def fromEntry (entry : StoredCrdtEntry) : CrdtDigestEntry :=
  ⟨entry.key, entry.crdtType, entry.stateVersion, entry.causalContext⟩

end CrdtDigestEntry

/-- How two digests of a key compare. -/
inductive DigestRelation
  | equal
  | localAhead
  | remoteAhead
  | concurrent
  | metadataOnly
  deriving DecidableEq, Repr

variable {relation : DigestRelation}

/-- `compare_digest`. -/
def compareDigest (localEntry remote : CrdtDigestEntry) : Except PyError DigestRelation :=
  if localEntry.key ≠ remote.key then .error ⟨.valueError, "digest keys must match"⟩
  else if localEntry.crdtType ≠ remote.crdtType then
    .error ⟨.valueError, "digest CRDT types must match"⟩
  else match localEntry.stateVersion.compare remote.stateVersion with
    | .equal =>
        if localEntry.causalContext = remote.causalContext then .ok .equal else .ok .metadataOnly
    | .after => .ok .localAhead
    | .before => .ok .remoteAhead
    | .concurrent => .ok .concurrent

/-- Digests of one key and one type are compared by their versions, then by their
contexts. -/
theorem compareDigest_eq (keys : localEntry.key = remote.key)
    (types : localEntry.crdtType = remote.crdtType) :
    compareDigest localEntry remote = .ok (
      if remote.stateVersion ≤ localEntry.stateVersion then
        if localEntry.stateVersion ≤ remote.stateVersion then
          if localEntry.causalContext = remote.causalContext then .equal else .metadataOnly
        else .localAhead
      else if localEntry.stateVersion ≤ remote.stateVersion then .remoteAhead
      else .concurrent) := by
  unfold compareDigest
  rw [if_neg (not_not.mpr keys), if_neg (not_not.mpr types), VersionVector.compare_eq]
  by_cases above : remote.stateVersion ≤ localEntry.stateVersion <;>
    by_cases below : localEntry.stateVersion ≤ remote.stateVersion <;>
    simp only [above, below, ↓reduceIte]
  split <;> rfl

theorem agree_of_compareDigest (compared : compareDigest localEntry remote = .ok relation) :
    localEntry.key = remote.key ∧ localEntry.crdtType = remote.crdtType := by
  unfold compareDigest at compared
  split at compared
  · cases compared
  · next keys =>
    split at compared
    · cases compared
    · next types => exact ⟨not_not.mp keys, not_not.mp types⟩

/-- Only the contexts differ. -/
theorem stateVersion_eq_of_compareDigest
    (compared : compareDigest localEntry remote = .ok .metadataOnly) :
    localEntry.stateVersion = remote.stateVersion := by
  obtain ⟨keys, types⟩ := agree_of_compareDigest compared
  rw [compareDigest_eq keys types] at compared
  injection compared with relation
  split at relation
  · next above =>
    split at relation
    · next below => exact le_antisymm below above
    · cases relation
  · split at relation <;> cases relation

/-- What `json.loads` raises: `JSONDecodeError` for a text that is no document, a plain
`ValueError` for an integer with too many digits, `RecursionError` for a document that is nested
too deeply. -/
inductive JsonFailure
  | decodeError (message : String)
  | tooManyDigits (message : String)
  | recursionError (message : String)
  deriving DecidableEq, Repr

/-- The exception. `JSONDecodeError` is a `ValueError`, `RecursionError` a `RuntimeError`. -/
def JsonFailure.raised : JsonFailure → PyError
  | .decodeError message | .tooManyDigits message => ⟨.valueError, message⟩
  | .recursionError message => ⟨.runtimeError, message⟩

/-- `json.loads`, as a function of the text. The text written for a value that was read is
accepted again. -/
structure JsonReader where
  loads : PyStr → Except JsonFailure Json
  loads_null : loads Json.null.dumps = .ok .null
  loads_dumps : ∀ text value, loads text = .ok value → (loads value.dumps).isOk

/-- `json.loads` under an `except json.JSONDecodeError` that raises another exception. -/
def JsonReader.loadsOr (json : JsonReader) (caught : PyError) (text : PyStr) :
    Except PyError Json :=
  match json.loads text with
  | .ok value => .ok value
  | .error (.decodeError _) => .error caught
  | .error failure => .error failure.raised

/-- The handler changes nothing about a text that is read. -/
theorem JsonReader.loadsOr_eq_ok {json : JsonReader} {caught : PyError} {text : PyStr}
    {value : Json} : json.loadsOr caught text = .ok value ↔ json.loads text = .ok value := by
  unfold loadsOr
  split
  · next loaded => rw [loaded, Except.ok.injEq, Except.ok.injEq]
  · next failed => exact ⟨nofun, fun loaded => nomatch failed.symm.trans loaded⟩
  · next failed => exact ⟨nofun, fun loaded => nomatch failed.symm.trans loaded⟩

/-- A reader that takes every text for `null`. -/
def JsonReader.lenient : JsonReader where
  loads _ := .ok .null
  loads_null := rfl
  loads_dumps _ _ _ := rfl

end Distsys
