import Mathlib.Data.Prod.Lex
import Distsys.Storage.Entry

/-!
# The replication outbox

A bounded table of pending `(peer, key)` pairs, each with the newest snapshot to
send, and the queue of pairs that are ready. Every method of the source runs
under one lock and is one function here.
-/

namespace Distsys

/-- An outbox slot is named by the peer and the key. -/
abbrev Pair := Lex (NodeId × PyStr)

/-- `OutboxReservation`. -/
structure OutboxReservation where
  pairs : List Pair
  createdPairs : List Pair

/-- `PendingReplication`. -/
structure PendingReplication where
  peerNodeId : NodeId
  key : PyStr
  generation : Nat
  state : StoredCrdtEntry

/-- One slot of the outbox. -/
structure Pending where
  generation : Nat := 0
  state : Option StoredCrdtEntry := none
  queued : Bool := false
  inFlight : Bool := false
  reservations : Nat := 0

/-- The slot after a publication to it. -/
def Pending.publish (slot : Pending) (entry : StoredCrdtEntry) : Pending :=
  { slot with
    generation := slot.generation + 1
    state := some entry
    reservations := slot.reservations - 1
    queued := slot.queued || (!slot.queued && !slot.inFlight) }

/-- `ReplicationOutbox`. -/
structure Outbox where
  capacity : Nat
  pending : SortedMap Pair Pending
  ready : List Pair

namespace Outbox

variable {outbox : Outbox} {entry : StoredCrdtEntry} {reservation : OutboxReservation}

/-- An outbox without slots. -/
def initial (capacity : Nat) : Outbox := ⟨capacity, .empty, []⟩

/-- Remove a slot. -/
def pop (outbox : Outbox) (pair : Pair) : Outbox :=
  { outbox with pending := outbox.pending.filter fun key _ => key != pair }

/-- Put a slot in place. -/
def set (outbox : Outbox) (pair : Pair) (slot : Pending) : Outbox :=
  { outbox with pending := outbox.pending.insert pair slot }

/-- `reserve`. -/
def reserve (outbox : Outbox) (pairs : List Pair) : Except PyError (OutboxReservation × Outbox) :=
  let unique := pairs.eraseDups
  let newPairs := unique.filter fun pair => (outbox.pending.get? pair).isNone
  if outbox.pending.items.length + newPairs.length > outbox.capacity then
    .error ⟨.replicationBackpressure, "replication outbox capacity exhausted"⟩
  else
    let opened := newPairs.foldl (fun outbox pair => outbox.set pair {}) outbox
    let counted := unique.foldl (fun outbox pair =>
      match outbox.pending.get? pair with
      | none => outbox
      | some slot => outbox.set pair { slot with reservations := slot.reservations + 1 }) opened
    .ok (⟨unique, newPairs⟩, counted)

/-- One turn of the loop of `cancel`. -/
def cancelPair (outbox : Outbox) (pair : Pair) : Outbox :=
  match outbox.pending.get? pair with
  | none => outbox
  | some slot =>
      let slot := { slot with reservations := slot.reservations - 1 }
      if slot.reservations = 0 ∧ slot.state = none ∧ ¬ slot.queued ∧ ¬ slot.inFlight then
        outbox.pop pair
      else outbox.set pair slot

/-- `cancel`. -/
def cancel (outbox : Outbox) (reservation : OutboxReservation) : Outbox :=
  reservation.pairs.foldl cancelPair outbox

/-- The loop of `publish` with the pairs it will put on the ready queue. An
exception leaves the slots already visited as they are. -/
def publishLoop (statesByKey : SortedMap PyStr StoredCrdtEntry) :
    List Pair → Outbox → List Pair → Except PyError (List Pair) × Outbox
  | [], outbox, toQueue => (.ok toQueue, outbox)
  | pair :: rest, outbox, toQueue =>
      match statesByKey.get? (ofLex pair).2 with
      | none => (.error ⟨.keyError, "missing published state for key " ++
          String.ofList ((Json.reprText (ofLex pair).2).map CodePoint.toChar)⟩, outbox)
      | some entry =>
          match outbox.pending.get? pair with
          | none => (.error ⟨.runtimeError, "outbox reservation no longer exists"⟩, outbox)
          | some slot =>
              if slot.reservations < 1 then
                (.error ⟨.runtimeError, "outbox reservation no longer exists"⟩, outbox)
              else
                publishLoop statesByKey rest (outbox.set pair (slot.publish entry))
                  (if !slot.queued && !slot.inFlight then toQueue ++ [pair] else toQueue)

/-- `publish`. -/
def publish (outbox : Outbox) (reservation : OutboxReservation)
    (statesByKey : SortedMap PyStr StoredCrdtEntry) : Except PyError Unit × Outbox :=
  match publishLoop statesByKey reservation.pairs outbox [] with
  | (.ok toQueue, outbox) => (.ok (), { outbox with ready := outbox.ready ++ toQueue })
  | (.error error, outbox) => (.error error, outbox)

/-- One turn of the loop of `next_ready`: take the first token; a stale one
yields nothing. The queue must not be empty. -/
def nextReady (outbox : Outbox) : Option (Option PendingReplication × Outbox) :=
  match outbox.ready with
  | [] => none
  | pair :: ready =>
      let outbox := { outbox with ready }
      match outbox.pending.get? pair with
      | none => some (none, outbox)
      | some slot =>
          match slot.state with
          | none => some (none, outbox)
          | some state =>
              if slot.inFlight then some (none, outbox)
              else
                some (some ⟨(ofLex pair).1, (ofLex pair).2, slot.generation, state⟩,
                  outbox.set pair { slot with queued := false, inFlight := true })

/-- The common body of `complete` and `abandon`. -/
def resolve (outbox : Outbox) (peerNodeId : NodeId) (key : PyStr) (sentGeneration : Nat) :
    Outbox :=
  let pair : Pair := toLex (peerNodeId, key)
  match outbox.pending.get? pair with
  | none => outbox
  | some slot =>
      if slot.generation = sentGeneration then
        if slot.reservations = 0 then outbox.pop pair
        else outbox.set pair { slot with inFlight := false, state := none, queued := false }
      else if slot.queued then outbox.set pair { slot with inFlight := false }
      else
        let outbox := outbox.set pair { slot with inFlight := false, queued := true }
        { outbox with ready := outbox.ready ++ [pair] }

/-- `complete`. -/
def complete (outbox : Outbox) (peerNodeId : NodeId) (key : PyStr) (sentGeneration : Nat) :
    Outbox :=
  outbox.resolve peerNodeId key sentGeneration

/-- `abandon`. -/
def abandon (outbox : Outbox) (peerNodeId : NodeId) (key : PyStr) (sentGeneration : Nat) :
    Outbox :=
  outbox.resolve peerNodeId key sentGeneration

/-- The snapshots the outbox holds. -/
def Holds (outbox : Outbox) (entry : StoredCrdtEntry) : Prop :=
  ∃ pair slot, outbox.pending.get? pair = some slot ∧ slot.state = some entry

/-- Every snapshot of the later outbox was in the earlier one. -/
def Keeps (earlier later : Outbox) : Prop := ∀ entry, later.Holds entry → earlier.Holds entry

theorem Keeps.trans {first second third : Outbox} (early : Keeps first second)
    (late : Keeps second third) : Keeps first third :=
  fun entry held => early entry (late entry held)

theorem not_holds_initial (capacity : Nat) (entry : StoredCrdtEntry) :
    ¬ (initial capacity).Holds entry := by
  rintro ⟨pair, slot, found, _⟩
  rw [initial, SortedMap.get?_empty] at found
  cases found

theorem holds_set {pair : Pair} {slot : Pending} (held : (outbox.set pair slot).Holds entry) :
    slot.state = some entry ∨ outbox.Holds entry := by
  obtain ⟨other, found, lookup, state⟩ := held
  change (outbox.pending.insert pair slot).get? other = some found at lookup
  rw [SortedMap.get?_insert] at lookup
  split at lookup
  · cases lookup
    exact .inl state
  · exact .inr ⟨other, found, lookup, state⟩

/-- Rewriting a slot without its snapshot, or with the snapshot cleared. -/
theorem keeps_set {pair : Pair} {slot rewritten : Pending}
    (found : outbox.pending.get? pair = some slot)
    (state : rewritten.state = slot.state ∨ rewritten.state = none) :
    Keeps outbox (outbox.set pair rewritten) := by
  intro entry held
  rcases holds_set held with stored | held
  · rcases state with same | cleared
    · exact ⟨pair, slot, found, same.symm.trans stored⟩
    · rw [cleared] at stored
      cases stored
  · exact held

theorem keeps_pop (outbox : Outbox) (pair : Pair) : Keeps outbox (outbox.pop pair) := by
  rintro entry ⟨other, slot, found, state⟩
  change (outbox.pending.filter _).get? other = some slot at found
  rw [SortedMap.get?_filter] at found
  refine ⟨other, slot, ?_, state⟩
  cases lookup : outbox.pending.get? other with
  | none =>
      rw [lookup] at found
      cases found
  | some stored =>
      rw [lookup, Option.filter_some] at found
      split at found
      · exact found
      · cases found

theorem keeps_foldl {visit : Outbox → Pair → Outbox}
    (each : ∀ outbox pair, Keeps outbox (visit outbox pair)) (pairs : List Pair) (outbox : Outbox) :
    Keeps outbox (pairs.foldl visit outbox) := by
  induction pairs generalizing outbox with
  | nil => exact fun _ => id
  | cons pair rest ih => exact (each outbox pair).trans (ih (visit outbox pair))

theorem keeps_reserve {reserved : Outbox} {pairs : List Pair}
    (result : outbox.reserve pairs = .ok (reservation, reserved)) : Keeps outbox reserved := by
  unfold reserve at result
  simp only at result
  split at result
  · cases result
  · cases result
    refine (keeps_foldl (fun outbox pair => ?_) _ outbox).trans
      (keeps_foldl (fun outbox pair => ?_) _ _)
    · intro entry held
      rcases holds_set held with stored | held
      · cases stored
      · exact held
    · split
      · exact fun _ => id
      · next slot found => exact keeps_set found (.inl rfl)

theorem keeps_cancel (outbox : Outbox) (reservation : OutboxReservation) :
    Keeps outbox (outbox.cancel reservation) := by
  refine keeps_foldl (fun outbox pair => ?_) _ _
  unfold cancelPair
  split
  · exact fun _ => id
  · next slot found =>
    simp only
    split
    · exact keeps_pop outbox pair
    · exact keeps_set found (.inl rfl)

theorem keeps_resolve (outbox : Outbox) (peerNodeId : NodeId) (key : PyStr) (generation : Nat) :
    Keeps outbox (outbox.resolve peerNodeId key generation) := by
  unfold resolve
  simp only
  split
  · exact fun _ => id
  · next slot found =>
    split
    · split
      · exact keeps_pop outbox _
      · exact keeps_set found (.inr rfl)
    · split
      · exact keeps_set found (.inl rfl)
      · exact keeps_set found (.inl rfl)

/-- Publishing adds only published snapshots. -/
theorem holds_publish {statesByKey : SortedMap PyStr StoredCrdtEntry}
    (held : (outbox.publish reservation statesByKey).2.Holds entry) :
    (∃ key, statesByKey.get? key = some entry) ∨ outbox.Holds entry := by
  have loop : ∀ pairs outbox toQueue,
      (publishLoop statesByKey pairs outbox toQueue).2.Holds entry →
      (∃ key, statesByKey.get? key = some entry) ∨ outbox.Holds entry := by
    intro pairs
    induction pairs with
    | nil => exact fun _ _ => .inr
    | cons pair rest ih =>
        intro outbox toQueue held
        unfold publishLoop at held
        split at held
        · exact .inr held
        · next published found =>
          split at held
          · exact .inr held
          · split at held
            · exact .inr held
            · rcases ih _ _ held with same | held
              · exact .inl same
              · rcases holds_set held with stored | held
                · cases stored
                  exact .inl ⟨_, found⟩
                · exact .inr held
  refine loop reservation.pairs outbox [] ?_
  unfold publish at held
  split at held
  · next result => rw [result]; exact held
  · next result => rw [result]; exact held

/-- The turn of the queue keeps the snapshots, and what it yields is one of them. -/
theorem holds_nextReady {next : Outbox} {item : Option PendingReplication}
    (result : outbox.nextReady = some (item, next)) :
    Keeps outbox next ∧ ∀ pending, item = some pending → outbox.Holds pending.state := by
  unfold nextReady at result
  split at result
  · cases result
  · next pair ready _ =>
    simp only at result
    split at result
    · cases result
      exact ⟨fun _ => id, nofun⟩
    · next slot found =>
      split at result
      · cases result
        exact ⟨fun _ => id, nofun⟩
      · next state stored =>
        split at result
        · cases result
          exact ⟨fun _ => id, nofun⟩
        · cases result
          refine ⟨keeps_set found (.inl rfl), ?_⟩
          rintro pending ⟨⟩
          exact ⟨pair, slot, found, stored⟩

end Outbox

end Distsys
