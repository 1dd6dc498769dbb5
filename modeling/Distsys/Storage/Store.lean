import Distsys.Storage.Entry

/-!
# The in-memory store

One entry for each key. The methods of the source that take the per-key lock are
programs over these operations, in `Distsys.Node.Storage`.
-/

namespace Distsys

/-- The stored entries, each under its own key. -/
structure Store where
  entries : SortedMap PyStr StoredCrdtEntry
  keyed : ∀ key entry, entries.get? key = some entry → entry.key = key

namespace Store

variable {entry : StoredCrdtEntry} {store : Store} {expectedType : Option CrdtType}

/-- A store without entries. -/
def empty : Store := ⟨.empty, nofun⟩

/-- `get`. -/
def get (store : Store) (key : PyStr) : Option StoredCrdtEntry := store.entries.get? key

/-- Write an entry under its key. -/
def put (store : Store) (entry : StoredCrdtEntry) : Store where
  entries := store.entries.insert entry.key entry
  keyed key found lookup := by
    rw [SortedMap.get?_insert] at lookup
    split at lookup
    · next same =>
      cases lookup
      exact same
    · exact store.keyed key found lookup

/-- `replace`, which never changes the type of a key. -/
def replace (store : Store) (entry : StoredCrdtEntry) (expectedType : Option CrdtType) :
    Except PyError Store :=
  match store.get entry.key with
  | none => .ok (store.put entry)
  | some existing =>
      if expectedType.isSome ∧ expectedType ≠ some existing.crdtType then
        .error ⟨.typeError, "existing CRDT type does not match expected type"⟩
      else if existing.crdtType ≠ entry.crdtType then
        .error ⟨.typeError, "cannot change CRDT type for existing key"⟩
      else .ok (store.put entry)

/-- All keys in order. -/
def keys (store : Store) : List PyStr := store.entries.keys

/-- All entries in key order. -/
def snapshotAll (store : Store) : List StoredCrdtEntry := store.entries.items.map Prod.snd

/-- A store after a write, key by key. -/
theorem get_put (store : Store) (entry : StoredCrdtEntry) (key : PyStr) :
    (store.put entry).get key = if entry.key = key then some entry else store.get key := by
  refine (SortedMap.get?_insert ..).trans ?_
  by_cases same : entry.key = key
  · rw [if_pos same, if_pos same]
  · rw [if_neg same, if_neg same]
    rfl

/-- The key that was written. -/
@[simp] theorem get_put_self (store : Store) (entry : StoredCrdtEntry) :
    (store.put entry).get entry.key = some entry := by
  rw [get_put, if_pos rfl]

/-- The other keys. -/
theorem get_put_of_ne (store : Store) {key : PyStr} (differs : entry.key ≠ key) :
    (store.put entry).get key = store.get key := by
  rw [get_put, if_neg differs]

/-- Entries lie under their keys. -/
theorem key_of_get {key : PyStr} (found : store.get key = some entry) : entry.key = key :=
  store.keyed key entry found

/-- Stores with the same entries are equal. -/
theorem ext_get {left right : Store} (same : ∀ key, left.get key = right.get key) :
    left = right := by
  obtain ⟨leftEntries, _⟩ := left
  obtain ⟨rightEntries, _⟩ := right
  cases SortedMap.ext_get? same
  rfl

/-- The snapshot lists what can be looked up. -/
theorem mem_snapshotAll :
    entry ∈ store.snapshotAll ↔ store.get entry.key = some entry := by
  constructor
  · intro listed
    obtain ⟨⟨key, _⟩, member, rfl⟩ := List.mem_map.mp listed
    have found := SortedMap.mem_items_iff.mp member
    rw [key_of_get found]
    exact found
  · intro found
    exact List.mem_map.mpr ⟨_, SortedMap.mem_items_iff.mpr found, rfl⟩

/-- A replacement that succeeds stores the entry; it fails only on a change of type. -/
theorem replace_eq_ok {after : Store} (result : store.replace entry expectedType = .ok after) :
    after = store.put entry ∧
      ∀ existing, store.get entry.key = some existing → existing.crdtType = entry.crdtType := by
  unfold replace at result
  cases found : store.get entry.key with
  | none =>
      rw [found] at result
      cases result
      exact ⟨rfl, nofun⟩
  | some existing =>
      rw [found] at result
      simp only at result
      split at result
      · cases result
      · split at result
        · cases result
        · next types =>
          cases result
          refine ⟨rfl, ?_⟩
          rintro other ⟨⟩
          exact not_not.mp types

/-- A write that keeps the type goes through. -/
theorem replace_of_types
    (expected : ∀ crdtType, expectedType = some crdtType → crdtType = entry.crdtType)
    (types : ∀ existing, store.get entry.key = some existing →
      existing.crdtType = entry.crdtType) :
    store.replace entry expectedType = .ok (store.put entry) := by
  unfold replace
  cases found : store.get entry.key with
  | none => rfl
  | some existing =>
      have same := types existing found
      have fits : ¬ (expectedType.isSome ∧ expectedType ≠ some existing.crdtType) := by
        rintro ⟨given, differs⟩
        obtain ⟨crdtType, is⟩ := Option.isSome_iff_exists.mp given
        exact differs (is.trans (congrArg some ((expected crdtType is).trans same.symm)))
      simp only [if_neg fits, if_neg (not_not.mpr same)]

end Store

end Distsys
