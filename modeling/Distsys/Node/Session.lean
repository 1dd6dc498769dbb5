import Distsys.Lib.Monitor
import Distsys.Node.AntiEntropy

/-!
# The protocol of a coroutine

What a coroutine of a node keeps to when it uses the locks, the store, the clock and the
outbox. Its session records the locks it holds with what it has read under them, what it
has undertaken, and what it saw last. The monitor says which operations are in order in a
session: an entry is written under the lock of its key only and continues the entry that
was read there, on a durable node it is committed before it is stored, a commit needs the
lock of the clock too, a reservation is published for its key, and a mutation is
acknowledged after its commit.
-/

namespace Distsys

/-- The later entry of the key contains the earlier one. -/
structure StoredCrdtEntry.Grown (old entry : StoredCrdtEntry) : Prop where
  key : entry.key = old.key
  crdtType : entry.crdtType = old.crdtType
  stateVersion : old.stateVersion ≤ entry.stateVersion
  causalContext : old.causalContext ≤ entry.causalContext
  content : old.state.content ≤ entry.state.content

/-- An entry contains itself. -/
theorem StoredCrdtEntry.Grown.refl (entry : StoredCrdtEntry) : entry.Grown entry :=
  ⟨rfl, rfl, le_rfl, le_rfl, le_rfl⟩

/-- A merge contains both entries. -/
theorem StoredCrdtEntry.Merged.grown {left right merged : StoredCrdtEntry}
    (merges : Merged left right merged) : left.Grown merged ∧ right.Grown merged := by
  refine ⟨⟨merges.key, merges.crdtType, ?_, ?_, ?_⟩, ⟨merges.key.trans merges.keys,
    merges.crdtType.trans merges.types, ?_, ?_, ?_⟩⟩
  · exact merges.stateVersion ▸ le_sup_left
  · exact merges.causalContext ▸ le_sup_left
  · exact merges.state ▸ le_sup_left
  · exact merges.stateVersion ▸ le_sup_right
  · exact merges.causalContext ▸ le_sup_right
  · exact merges.state ▸ le_sup_right

/-- A larger context is no loss. -/
theorem StoredCrdtEntry.grown_withContext (entry : StoredCrdtEntry) (context : VersionVector) :
    entry.Grown (entry.withContext (entry.causalContext.merge context)) :=
  ⟨rfl, rfl, le_rfl, le_sup_left, le_rfl⟩

/-- The context that a mutation found. -/
def Mutation.priorContext (mutation : Mutation) : VersionVector :=
  mutation.before.elim ⊥ (·.causalContext)

/-- A mutation as `mutate` computes it from the entry that it read under the lock. -/
structure Mutation.Made (deployment : Deployment) (id : NodeId) (mutation : Mutation) : Prop where
  applies : mutation.Applies
  actor : mutation.actor = deployment.actor id
  key : mutation.after.key = mutation.key
  version : mutation.after.stateVersion = mutation.priorVersion.withDot mutation.dot
  context : mutation.priorContext ≤ mutation.after.causalContext
  covered : mutation.after.causalContext.Covers mutation.dot
  later : mutation.priorContext.get mutation.actor < mutation.dot.counter
  found : ∀ entry, mutation.before = some entry →
    entry.key = mutation.key ∧ entry.crdtType = mutation.crdtType

/-- The locks that a coroutine holds, with what it has read under them. Between the commit
of the rows and the change in memory, `row` is the entry on the disk. -/
structure Locks where
  key : Option (PyStr × Option (Option StoredCrdtEntry)) := none
  row : Option StoredCrdtEntry := none
  clock : Option (Option VersionVector) := none

/-- What a coroutine has undertaken. -/
structure Work where
  reserved : Option OutboxReservation := none
  committed : Option Mutation := none
  item : Option PendingReplication := none

/-- What a coroutine saw last: the entry that it stored, the entry that it looked up and the
frontier that it read. -/
structure View where
  installed : Option StoredCrdtEntry := none
  lookup : Option (PyStr × Option StoredCrdtEntry) := none
  frontier : Option VersionVector := none

/-- The record of a coroutine, which answers the request if it is a handler, or takes items
from the outbox if it is a worker. -/
structure Session where
  request : Option Request := none
  worker : Bool := false
  locks : Locks := {}
  work : Work := {}
  view : View := {}

namespace Session

/-- The session after an entry has been stored. -/
def stored (session : Session) (entry : StoredCrdtEntry) (commit : Option Mutation) : Session :=
  { session with
    locks := { session.locks with key := some (entry.key, some (some entry)), row := none }
    work := { session.work with committed := commit.or session.work.committed }
    view := { session.view with installed := some entry } }

/-- The session after an operation. -/
def next (session : Session) : (op : Op) → op.Answer → Session
  | .get key, entry =>
      match session.locks.key with
      | none => { session with view := { session.view with lookup := some (key, entry) } }
      | some (held, _) => { session with
          locks := { session.locks with key := some (held, some entry) } }
  | .replace entry _ commit, .ok _ => session.stored entry commit
  | .acquireKey key, _ => { session with
      locks := { session.locks with key := some (key, none) } }
  | .releaseKey _, _ => { session with locks := { session.locks with key := none } }
  | .acquireClock, _ => { session with locks := { session.locks with clock := some none } }
  | .releaseClock, _ => { session with locks := { session.locks with clock := none } }
  | .readFrontier, frontier => { session with
      locks := { session.locks with clock := some (some frontier) }
      view := { session.view with frontier := some frontier } }
  | .setFrontier frontier, _ => { session with
      locks := { session.locks with clock := some (some frontier) } }
  | .commitRows entry _ commit, .ok _ => { session with
      locks := { session.locks with row := some entry }
      work := { session.work with committed := commit.or session.work.committed } }
  | .reserve _, .ok reservation => { session with
      work := { session.work with reserved := some reservation } }
  | .cancel _, _ => { session with work := { session.work with reserved := none } }
  | .publish _ _, .ok _ => { session with work := { session.work with reserved := none } }
  | .nextReady, item => { session with work := { session.work with item } }
  | .complete _, _ | .abandon _, _ => { session with work := { session.work with item := none } }
  | _, _ => session

/-- The coroutine holds no lock. -/
def Idle (session : Session) : Prop :=
  session.locks = {}

section Monitor

variable (deployment : Deployment) (id : NodeId)

/-- The entry may follow the one that was read under the lock of its key: a mutation of it
is committed, or it contains it. -/
def Follows (read : Option StoredCrdtEntry) (entry : StoredCrdtEntry) : Option Mutation → Prop
  | none => ∀ old, read = some old → old.Grown entry
  | some mutation => mutation.before = read ∧ mutation.after = entry ∧ mutation.Made deployment id

/-- The coroutine may write the entry, in the place of the one it has read. -/
def Writes (session : Session) (entry : StoredCrdtEntry) (commit : Option Mutation) : Prop :=
  ∃ read, session.locks.key = some (entry.key, some read) ∧ session.locks.row = none ∧
    Follows deployment id read entry commit ∧
    ∀ mutation, commit = some mutation → ∃ frontier, session.locks.clock = some (some frontier) ∧
      frontier.get (deployment.actor id) < mutation.dot.counter

/-- The coroutine may bring the entry into memory that it has committed to the disk. -/
def Installs (session : Session) (entry : StoredCrdtEntry) (expectedType : Option CrdtType) :
    Prop :=
  ∃ read commit, session.locks.key = some (entry.key, some read) ∧
    session.locks.row = some entry ∧ expectedType = some entry.crdtType ∧
    Follows deployment id read entry commit

/-- What a handler that reports success to a `CRDT_FETCH` answers. -/
def Fetched (session : Session) (msg : Proto.CrdtFetch) (response : Proto.CrdtResponse) : Prop :=
  ∃ entry frontier, session.view.lookup = some (msg.key.val, entry) ∧
    session.view.frontier = some frontier ∧
    Codec.whenPresent stateToProto entry = .ok response.state ∧
    ∃ peerFrontier, response.peerFrontier = some peerFrontier ∧
      versionToProto (frontier ⊔ entry.elim ⊥ (·.causalContext)) = .ok peerFrontier

/-- The operation is in order. -/
def Guard (session : Session) : Op → Prop
  | .get key => ∀ held read, session.locks.key = some (held, read) → held = key
  | .readFrontier => session.locks.clock ≠ none
  | .replace entry expectedType commit =>
      (deployment.durable id = false ∧ session.Writes deployment id entry commit) ∨
      (commit = none ∧ session.Installs deployment id entry expectedType)
  | .commitRows entry _ commit => deployment.durable id = true ∧
      session.Writes deployment id entry commit ∧ session.locks.clock ≠ none
  | .acquireKey _ => session.locks.key = none ∧ session.locks.row = none
  | .releaseKey key => (∃ read, session.locks.key = some (key, read)) ∧ session.locks.row = none
  | .acquireClock => session.locks.clock = none
  | .releaseClock => session.locks.clock ≠ none ∧ session.locks.row = none
  | .setFrontier frontier => session.locks.row = none ∧
      ∃ read, session.locks.clock = some (some read) ∧ read ≤ frontier
  | .reserve _ => session.work.reserved = none
  | .cancel reservation => session.work.reserved = some reservation
  | .publish reservation entry => session.work.reserved = some reservation ∧
      ∀ pair ∈ reservation.pairs, (ofLex pair).2 = entry.key
  | .nextReady => session.worker = true ∧ session.work.item = none
  | .complete item | .abandon item => session.work.item = some item
  | .reply _ (.response response) => ∀ msg, session.request = some (.fetch msg) →
      response.success = true → session.Fetched msg response
  | .acknowledge item => item.node = id ∧ session.locks.row = none ∧
      ∃ mutation, session.work.committed = some mutation ∧ mutation.dot = item.dot ∧
        mutation.key = item.key
  | _ => True

/-- What a coroutine may count on: an entry is found under its key, what was committed to the
disk goes into memory, and a reservation can be published. -/
def Legal (session : Session) : (op : Op) → op.Answer → Prop
  | .get key, entry => ∀ found, entry = some found → found.key = key
  | .replace entry _ _, result => session.locks.row = some entry → result = .ok ()
  | .reserve pairs, result =>
      ∀ reservation, result = .ok reservation → ∀ pair ∈ reservation.pairs, pair ∈ pairs
  | .publish _ _, result => result = .ok ()
  | _, _ => True

end Monitor

/-- What a coroutine is for stays, whatever it does. -/
theorem errand_next (session : Session) (op : Op) (answer : op.Answer) :
    (session.next op answer).request = session.request ∧
      (session.next op answer).worker = session.worker := by
  cases op with
  | get key =>
      unfold Session.next
      dsimp only
      split <;> exact ⟨rfl, rfl⟩
  | replace entry expectedType commit | commitRows entry state commit | reserve pairs
  | publish reservation entry => cases answer <;> exact ⟨rfl, rfl⟩
  | _ => exact ⟨rfl, rfl⟩

end Session

/-- The monitor of the coroutines of a node. -/
def sessionMonitor (deployment : Deployment) (id : NodeId) : Monitor nodeSignature Session where
  guard := Session.Guard deployment id
  legal := Session.Legal
  next := Session.next

end Distsys
