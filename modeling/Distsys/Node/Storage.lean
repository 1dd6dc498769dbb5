import Distsys.Node.World

/-!
# The clock and the stores of a node

The coroutines of `CausalClock`, `CrdtStore` and `DurableCrdtStore`. A body that runs
under a lock releases it whether it returns or raises.
-/

namespace Distsys

/-- A coroutine of a node. -/
abbrev Code := Prog nodeSignature PyError

/-- Perform one operation. -/
def perform (op : Op) : Code op.Answer := .act op fun answer => .done (.ok answer)

/-- `async with lock: body`. -/
def withKeyLock {α : Type} (key : PyStr) (body : Code α) : Code α := do
  perform (.acquireKey key)
  let result ← body.attempt
  perform (.releaseKey key)
  Prog.ofExcept result

/-- Hold the lock of the clock. -/
def withClock {α : Type} (body : Code α) : Code α := do
  perform .acquireClock
  let result ← body.attempt
  perform .releaseClock
  Prog.ofExcept result

namespace CausalClock

/-- The body returns its value and whether it called `commit`. -/
def stagedObserve {α : Type} (version : VersionVector) (body : VersionVector → Code (α × Bool)) :
    Code α :=
  withClock do
    let current ← perform .readFrontier
    let frontier := current.merge version
    let (value, committed) ← body frontier
    if committed then perform (.setFrontier frontier)
    return value

/-- `observe`. -/
def observe (version : VersionVector) : Code VersionVector :=
  stagedObserve version fun frontier => return (frontier, true)

/-- The dot that follows everything the base knows of the actor. -/
def nextDot (actor : CausalActor) (base : VersionVector) : Dot :=
  ⟨actor, base.get actor + 1, Nat.succ_pos _⟩

/-- The body is given the dot, the frontier with it and the frontier of the clock. -/
def stagedAllocation {α : Type} (actor : CausalActor) (observed : VersionVector)
    (body : Dot → VersionVector → VersionVector → Code (α × Bool)) : Code α :=
  withClock do
    let current ← perform .readFrontier
    let base : VersionVector := current.merge observed
    let dot := nextDot actor base
    let frontier := base.withDot dot
    let (value, committed) ← body dot frontier current
    if committed then perform (.setFrontier frontier)
    return value

/-- `frontier`. -/
def frontier : Code VersionVector := withClock (perform .readFrontier)

end CausalClock

namespace CrdtStore

/-- `replace`. -/
def replace (entry : StoredCrdtEntry) (expectedType : Option CrdtType)
    (commit : Option Mutation := none) : Code StoredCrdtEntry := do
  let result ← perform (.replace entry expectedType commit)
  let _ ← Prog.ofExcept result
  return entry

/-- `merge_entry`. -/
def mergeEntry (incoming : StoredCrdtEntry) : Code StoredCrdtEntry :=
  withKeyLock incoming.key do
    match ← perform (.get incoming.key) with
    | none => replace incoming none
    | some existing => do
        let merged ← Prog.ofExcept (existing.merge incoming)
        replace merged (some existing.crdtType)

/-- `merge_metadata`. -/
def mergeMetadata (key : PyStr) (causalContext : VersionVector) : Code (Option StoredCrdtEntry) :=
  withKeyLock key do
    match ← perform (.get key) with
    | none => return none
    | some existing => do
        let updated := existing.withContext (existing.causalContext.merge causalContext)
        let stored ← replace updated (some existing.crdtType)
        return some stored

end CrdtStore

namespace DurableCrdtStore

/-- Commit the rows, and only then the memory. -/
def commitThenReplace (entry : StoredCrdtEntry) (state : DurableCausalState)
    (expectedType : CrdtType) (commit : Option Mutation := none) : Code StoredCrdtEntry := do
  let result ← perform (.commitRows entry state commit)
  let _ ← Prog.ofExcept result
  CrdtStore.replace entry (some expectedType)

/-- `merge_entry`, with the commit under the lock. -/
def mergeEntry (actor : CausalActor) (incoming : StoredCrdtEntry) : Code StoredCrdtEntry :=
  withKeyLock incoming.key do
    let existing ← perform (.get incoming.key)
    let merged ← match existing with
      | none => pure incoming
      | some existing => Prog.ofExcept (existing.merge incoming)
    CausalClock.stagedObserve merged.causalContext fun frontier => do
      let result ← commitThenReplace merged (.at actor frontier) merged.crdtType
      return (result, true)

/-- `merge_metadata`, in the same way. -/
def mergeMetadata (actor : CausalActor) (key : PyStr) (causalContext : VersionVector) :
    Code (Option StoredCrdtEntry) :=
  withKeyLock key do
    match ← perform (.get key) with
    | none => return none
    | some existing =>
        let updated := existing.withContext (existing.causalContext.merge causalContext)
        CausalClock.stagedObserve updated.causalContext fun frontier => do
          let result ← commitThenReplace updated (.at actor frontier) existing.crdtType
          return (some result, true)

end DurableCrdtStore

section

variable (deployment : Deployment) (id : NodeId)

/-- `store.merge_entry` of the store the node was built with. -/
def mergeEntry (incoming : StoredCrdtEntry) : Code StoredCrdtEntry :=
  if deployment.durable id then DurableCrdtStore.mergeEntry (deployment.actor id) incoming
  else CrdtStore.mergeEntry incoming

/-- `store.merge_metadata` of the store the node was built with. -/
def mergeMetadata (key : PyStr) (causalContext : VersionVector) : Code (Option StoredCrdtEntry) :=
  if deployment.durable id then
    DurableCrdtStore.mergeMetadata (deployment.actor id) key causalContext
  else CrdtStore.mergeMetadata key causalContext

/-- `_commit_local`, for the mutation that left the entry. -/
def commitLocal (mutation : Mutation) (frontier : VersionVector) : Code StoredCrdtEntry :=
  if deployment.durable id then
    DurableCrdtStore.commitThenReplace mutation.after (.at (deployment.actor id) frontier)
      mutation.after.crdtType (some mutation)
  else CrdtStore.replace mutation.after (some mutation.after.crdtType) (some mutation)

/-- What both stores do with an entry that commits no mutation: it is stored in memory, on a
durable node after its rows. -/
def storeEntry {α : Type} (expectedType : Option CrdtType) (wrap : StoredCrdtEntry → α)
    (entry : StoredCrdtEntry) : Code α :=
  if deployment.durable id then
    CausalClock.stagedObserve entry.causalContext fun frontier => do
      let result ← DurableCrdtStore.commitThenReplace entry (.at (deployment.actor id) frontier)
        entry.crdtType
      return (wrap result, true)
  else do
    let result ← CrdtStore.replace entry expectedType
    return wrap result

theorem mergeEntry_eq (incoming : StoredCrdtEntry) :
    mergeEntry deployment id incoming = withKeyLock incoming.key (do
      let existing ← perform (.get incoming.key)
      let merged ← Prog.ofExcept (existing.elim (.ok incoming) (·.merge incoming))
      storeEntry deployment id (existing.map (·.crdtType)) (fun stored => stored) merged) := by
  have returned : ∀ (entry : StoredCrdtEntry) (expectedType : Option CrdtType),
      CrdtStore.replace entry expectedType =
        CrdtStore.replace entry expectedType >>= fun stored => pure stored :=
    fun entry expectedType =>
      congrArg (Prog.act _) (funext fun result => by cases result <;> rfl)
  unfold mergeEntry storeEntry
  split
  · exact congrArg (withKeyLock _) (congrArg (Prog.act _) (funext fun existing => by
      cases existing <;> rfl))
  · refine congrArg (withKeyLock _) (congrArg (Prog.act _) (funext fun existing => ?_))
    cases existing with
    | none => exact returned incoming none
    | some existing =>
        exact congrArg (Prog.ofExcept (existing.merge incoming) >>= ·)
          (funext fun merged => returned merged _)

theorem mergeMetadata_eq (key : PyStr) (causalContext : VersionVector) :
    mergeMetadata deployment id key causalContext = withKeyLock key (do
      match ← perform (.get key) with
      | none => return none
      | some existing =>
          storeEntry deployment id (some existing.crdtType) some
            (existing.withContext (existing.causalContext.merge causalContext))) := by
  unfold mergeMetadata storeEntry
  split <;> exact congrArg (withKeyLock _) (congrArg (Prog.act _) (funext fun existing => by
    cases existing <;> rfl))

end

end Distsys
