import Distsys.Crdt.Content

/-!
# Stored entries and their merge

An entry is the state of one key with two vectors: the mutations of the key that
the state contains, and everything known when it was written. Merging entries
joins all three.
-/

namespace Distsys

/-- The replicated record of one key. Its type identifier is that of its state,
which is what the constructor of the source checks. -/
structure StoredCrdtEntry where
  key : PyStr
  state : CrdtState
  stateVersion : VersionVector
  causalContext : VersionVector
  keyed : key ≠ []
  deriving DecidableEq

namespace StoredCrdtEntry

/-- An entry whose key is one letter. -/
def ofLetter (letter : CodePoint) (state : CrdtState)
    (stateVersion causalContext : VersionVector) : StoredCrdtEntry :=
  ⟨[letter], state, stateVersion, causalContext, PyStr.letter_ne_nil letter⟩

variable {left right merged : StoredCrdtEntry}

/-- The type of an entry is that of its state. -/
def crdtType (entry : StoredCrdtEntry) : CrdtType := entry.state.crdtType

/-- `with_context`. -/
def withContext (entry : StoredCrdtEntry) (causalContext : VersionVector) : StoredCrdtEntry :=
  { entry with causalContext }

/-- `merge_entries`. -/
def merge (left right : StoredCrdtEntry) : Except PyError StoredCrdtEntry :=
  if left.key ≠ right.key then
    .error ⟨.valueError, "cannot merge entries with different keys"⟩
  else if left.crdtType ≠ right.crdtType then
    .error ⟨.typeError, "cannot merge different CRDT types for one key"⟩
  else do
    let state ← left.state.merge right.state
    return {
      key := left.key
      state
      stateVersion := left.stateVersion.merge right.stateVersion
      causalContext := left.causalContext.merge right.causalContext
      keyed := left.keyed }

/-- Everything an entry knows about its key. -/
def content (entry : StoredCrdtEntry) : Content × VersionVector × VersionVector :=
  (entry.state.content, entry.stateVersion, entry.causalContext)

/-- What a merge that succeeds yields. -/
structure Merged (left right merged : StoredCrdtEntry) : Prop where
  keys : left.key = right.key
  types : left.crdtType = right.crdtType
  key : merged.key = left.key
  crdtType : merged.crdtType = left.crdtType
  state : merged.state.content = left.state.content ⊔ right.state.content
  stateVersion : merged.stateVersion = left.stateVersion ⊔ right.stateVersion
  causalContext : merged.causalContext = left.causalContext ⊔ right.causalContext

/-- What `merge_entries` returns. -/
theorem merged_of_merge (result : left.merge right = .ok merged) : Merged left right merged := by
  unfold merge at result
  split at result
  · cases result
  · next keys =>
    split at result
    · cases result
    · next types =>
      cases states : left.state.merge right.state with
      | error error =>
          rw [states] at result
          cases result
      | ok state =>
          rw [states] at result
          cases result
          obtain ⟨_, crdtType, contents⟩ := CrdtState.merge_content states
          exact ⟨not_not.mp keys, not_not.mp types, rfl, crdtType, contents, rfl, rfl⟩

/-- A merge joins the contents. -/
theorem Merged.content (merges : Merged left right merged) :
    merged.content = left.content ⊔ right.content := by
  unfold StoredCrdtEntry.content
  rw [merges.state, merges.stateVersion, merges.causalContext]
  rfl

/-- Entries of one key and type merge unless a dot carries two payloads. -/
theorem merge_succeeds (keys : left.key = right.key) (types : left.crdtType = right.crdtType)
    (compatible : left.state.content.Compatible right.state.content) :
    ∃ merged, left.merge right = .ok merged := by
  obtain ⟨state, states⟩ := CrdtState.merge_succeeds types compatible
  unfold merge
  rw [if_neg (not_not.mpr keys), if_neg (not_not.mpr types), states]
  exact ⟨_, rfl⟩

/-- An entry is determined by its key, its type and its content. -/
theorem eq_of_content (keys : left.key = right.key) (types : left.crdtType = right.crdtType)
    (contents : left.content = right.content) :
    left = right := by
  obtain ⟨leftKey, leftState, leftVersion, leftContext, _⟩ := left
  obtain ⟨rightKey, rightState, rightVersion, rightContext, _⟩ := right
  have states : leftState = rightState :=
    CrdtState.eq_of_content types (congrArg Prod.fst contents)
  have versions : leftVersion = rightVersion := congrArg (fun content => content.2.1) contents
  have contexts : leftContext = rightContext := congrArg (fun content => content.2.2) contents
  cases keys
  cases states
  cases versions
  cases contexts
  rfl

/-- Merging an entry into one that already knows all of it changes nothing. -/
theorem merge_eq_left (keys : left.key = right.key) (types : left.crdtType = right.crdtType)
    (compatible : left.state.content.Compatible right.state.content)
    (known : right.content ≤ left.content) : left.merge right = .ok left := by
  obtain ⟨merged, result⟩ := merge_succeeds keys types compatible
  have merges := merged_of_merge result
  rw [result]
  refine congrArg Except.ok (eq_of_content merges.key merges.crdtType ?_)
  rw [merges.content, sup_eq_left.mpr known]

end StoredCrdtEntry

end Distsys
