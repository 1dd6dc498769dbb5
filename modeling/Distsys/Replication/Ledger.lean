import Mathlib.Data.List.Perm.Basic
import Distsys.Replication.Accounting

/-!
# The outbox and its callers

A ledger is an outbox with what its callers still owe it: the reservations not
resolved yet, the items handed out and not resolved yet, and a log of what was
published and handed out. A sequence of calls is played on it. What one pair looks
like in a ledger is a `PairView`, and every call moves each view along one edge of
a machine with five phases.
-/

namespace Distsys

variable {item : PendingReplication} {capacity : Nat} {entry : StoredCrdtEntry}

/-- What is logged of the calls. -/
inductive OutboxEvent where
  | published (pair : Pair) (entry : StoredCrdtEntry)
  | handedOut (pair : Pair)

/-- The snapshot published to the pair last. The newest event comes first. -/
def OutboxEvent.newest : List OutboxEvent → Pair → Option StoredCrdtEntry
  | [], _ => none
  | .published other entry :: log, pair => if other = pair then some entry else newest log pair
  | .handedOut _ :: log, pair => newest log pair

/-- The snapshot published to the pair after it was last handed out. -/
def OutboxEvent.unsent : List OutboxEvent → Pair → Option StoredCrdtEntry
  | [], _ => none
  | .published other entry :: log, pair => if other = pair then some entry else unsent log pair
  | .handedOut other :: log, pair => if other = pair then none else unsent log pair

/-- The outbox with what its callers owe it. -/
structure OutboxLedger where
  outbox : Outbox
  /-- The reservations neither published nor cancelled. -/
  claims : List OutboxReservation
  /-- The items handed out and neither completed nor abandoned. -/
  items : List PendingReplication
  log : List OutboxEvent

variable {ledger : OutboxLedger}

/-- The calls of the outbox. -/
inductive OutboxCall where
  | reserve (pairs : List Pair)
  | cancel (claim : Nat)
  | publish (claim : Nat) (statesByKey : SortedMap PyStr StoredCrdtEntry)
  | nextReady
  | complete (item : Nat)
  | abandon (item : Nat)

namespace OutboxLedger

/-- An empty outbox. -/
def initial (capacity : Nat) : OutboxLedger := ⟨.initial capacity, [], [], []⟩

/-- The reservations of the pair that are open. -/
def unresolved (ledger : OutboxLedger) (pair : Pair) : Nat :=
  ledger.claims.countP fun claim => decide (pair ∈ claim.pairs)

/-- The items of the pair that are handed out. -/
def held (ledger : OutboxLedger) (pair : Pair) : List PendingReplication :=
  ledger.items.filter fun item => item.pair == pair

/-- What was published last. -/
def newest (ledger : OutboxLedger) (pair : Pair) : Option StoredCrdtEntry :=
  OutboxEvent.newest ledger.log pair

/-- What was published since the last hand-out. -/
def unsent (ledger : OutboxLedger) (pair : Pair) : Option StoredCrdtEntry :=
  OutboxEvent.unsent ledger.log pair

/-- The events of a publication. -/
def publications (pairs : List Pair) (statesByKey : SortedMap PyStr StoredCrdtEntry) :
    List OutboxEvent :=
  pairs.filterMap fun pair => (statesByKey.get? (ofLex pair).2).map (.published pair)

/-- The state of every key the reservation names is there. -/
def Covered (claim : OutboxReservation) (statesByKey : SortedMap PyStr StoredCrdtEntry) : Prop :=
  ∀ pair ∈ claim.pairs, (statesByKey.get? (ofLex pair).2).isSome = true

instance (claim : OutboxReservation) (statesByKey : SortedMap PyStr StoredCrdtEntry) :
    Decidable (Covered claim statesByKey) := by
  unfold Covered
  infer_instance

/-- One call. A call that resolves something not owed is not part of any run, and
`next_ready` waits while the queue is empty. -/
def call (ledger : OutboxLedger) : OutboxCall → Option OutboxLedger
  | .reserve pairs =>
      match ledger.outbox.reserve pairs with
      | .error _ => some ledger
      | .ok (claim, outbox) => some { ledger with outbox, claims := claim :: ledger.claims }
  | .cancel index =>
      ledger.claims[index]?.map fun claim =>
        { ledger with
          outbox := ledger.outbox.cancel claim
          claims := ledger.claims.eraseIdx index }
  | .publish index statesByKey =>
      ledger.claims[index]?.bind fun claim =>
        if Covered claim statesByKey then
          some { ledger with
            outbox := (ledger.outbox.publish claim statesByKey).2
            claims := ledger.claims.eraseIdx index
            log := publications claim.pairs statesByKey ++ ledger.log }
        else none
  | .nextReady =>
      ledger.outbox.nextReady.map fun (item, outbox) =>
        match item with
        | none => { ledger with outbox }
        | some item =>
            { ledger with
              outbox
              items := item :: ledger.items
              log := .handedOut item.pair :: ledger.log }
  | .complete index =>
      ledger.items[index]?.map fun item =>
        { ledger with
          outbox := ledger.outbox.complete item.peerNodeId item.key item.generation
          items := ledger.items.eraseIdx index }
  | .abandon index =>
      ledger.items[index]?.map fun item =>
        { ledger with
          outbox := ledger.outbox.abandon item.peerNodeId item.key item.generation
          items := ledger.items.eraseIdx index }

/-- Several calls. -/
def play (ledger : OutboxLedger) (calls : List OutboxCall) : Option OutboxLedger :=
  calls.foldlM call ledger

end OutboxLedger

/-! ### What one pair looks like -/

/-- A pair in the ledger. -/
@[ext]
structure PairView where
  slot : Option Pending
  claims : Nat
  tokens : Nat
  held : List PendingReplication
  newest : Option StoredCrdtEntry
  unsent : Option StoredCrdtEntry

namespace PairView

/-- The five phases of a pair: not pending, reserved without a snapshot, waiting in
the ready queue, being sent, and being sent while a newer snapshot waits. -/
inductive Sound : PairView → Prop where
  | vacant (newest) : Sound ⟨none, 0, 0, [], newest, none⟩
  | reserved (generation claims newest) :
      Sound ⟨some ⟨generation, none, false, false, claims + 1⟩, claims + 1, 0, [], newest, none⟩
  | waiting (generation claims entry) :
      Sound ⟨some ⟨generation, some entry, true, false, claims⟩, claims, 1, [], some entry,
        some entry⟩
  | sending (item : PendingReplication) (claims) :
      Sound ⟨some ⟨item.generation, some item.state, false, true, claims⟩, claims, 0, [item],
        some item.state, none⟩
  | superseded (item : PendingReplication) (generation claims entry)
      (older : item.generation < generation) :
      Sound ⟨some ⟨generation, some entry, false, true, claims⟩, claims, 0, [item], some entry,
        some entry⟩

theorem Sound.congr {view next : PairView} (sound : view.Sound) (slot : next.slot = view.slot)
    (claims : next.claims = view.claims) (tokens : next.tokens = view.tokens)
    (held : next.held = view.held) (newest : next.newest = view.newest)
    (unsent : next.unsent = view.unsent) : next.Sound := by
  rw [PairView.ext slot claims tokens held newest unsent]
  exact sound

/-- The pair after a reservation. -/
def claim (view : PairView) : PairView :=
  { view with slot := some (Outbox.claimed view.slot), claims := view.claims + 1 }

/-- The pair after a cancellation. -/
def cancel (view : PairView) : PairView :=
  { view with slot := view.slot.bind Outbox.cancelled, claims := view.claims - 1 }

/-- Whether a publication puts the pair on the ready queue. -/
def idle (view : PairView) : Bool :=
  match view.slot with
  | none => false
  | some slot => !slot.queued && !slot.inFlight

/-- The pair after a publication. -/
def publish (view : PairView) (entry : StoredCrdtEntry) : PairView :=
  { slot := view.slot.map (·.publish entry)
    claims := view.claims - 1
    tokens := view.tokens + if view.idle then 1 else 0
    held := view.held
    newest := some entry
    unsent := some entry }

/-- The pair after its item is handed out. -/
def handOut (view : PairView) (item : PendingReplication) (slot : Pending) : PairView :=
  { view with
    slot := some { slot with queued := false, inFlight := true }
    tokens := view.tokens - 1
    held := item :: view.held
    unsent := none }

/-- The pair after its item is resolved. -/
def resolve (view : PairView) (item : PendingReplication) : PairView :=
  { view with
    slot := view.slot.bind (Outbox.resolved · item.generation)
    tokens := view.tokens + if Outbox.requeued view.slot item.generation then 1 else 0
    held := [] }

theorem Sound.claim {view : PairView} (sound : view.Sound) : view.claim.Sound := by
  cases sound with
  | vacant newest => exact .reserved 0 0 newest
  | reserved generation claims newest => exact .reserved generation (claims + 1) newest
  | waiting generation claims entry => exact .waiting generation (claims + 1) entry
  | sending item claims => exact .sending item (claims + 1)
  | superseded item generation claims entry older =>
      exact .superseded item generation (claims + 1) entry older

theorem Sound.cancel {view : PairView} (sound : view.Sound) (owed : 0 < view.claims) :
    view.cancel.Sound := by
  cases sound with
  | vacant newest => cases owed
  | reserved generation claims newest =>
      cases claims with
      | zero => exact .vacant newest
      | succ claims => exact .reserved generation claims newest
  | waiting generation claims entry =>
      simp only [PairView.cancel, Outbox.cancelled, Option.bind_some, reduceCtorEq, false_and,
        and_false, ↓reduceIte]
      exact .waiting generation (claims - 1) entry
  | sending item claims =>
      simp only [PairView.cancel, Outbox.cancelled, Option.bind_some, reduceCtorEq, false_and,
        and_false, ↓reduceIte]
      exact .sending item (claims - 1)
  | superseded item generation claims entry older =>
      simp only [PairView.cancel, Outbox.cancelled, Option.bind_some, reduceCtorEq, false_and,
        and_false, ↓reduceIte]
      exact .superseded item generation (claims - 1) entry older

theorem Sound.publish {view : PairView} (sound : view.Sound) (owed : 0 < view.claims)
    (entry : StoredCrdtEntry) : (view.publish entry).Sound := by
  cases sound with
  | vacant newest => cases owed
  | reserved generation claims newest => exact .waiting (generation + 1) claims entry
  | waiting generation claims old => exact .waiting (generation + 1) (claims - 1) entry
  | sending item claims =>
      exact .superseded item (item.generation + 1) (claims - 1) entry (Nat.lt_succ_self _)
  | superseded item generation claims old older =>
      exact .superseded item (generation + 1) (claims - 1) entry (Nat.lt_succ_of_lt older)

/-- A reserved pair is pending with a reservation to give. -/
theorem Sound.slot_of_claims {view : PairView} (sound : view.Sound) (owed : 0 < view.claims) :
    ∃ slot, view.slot = some slot ∧ 1 ≤ slot.reservations := by
  cases sound with
  | vacant newest => cases owed
  | reserved generation claims newest => exact ⟨_, rfl, owed⟩
  | waiting generation claims entry => exact ⟨_, rfl, owed⟩
  | sending item claims => exact ⟨_, rfl, owed⟩
  | superseded item generation claims entry older => exact ⟨_, rfl, owed⟩

/-- At most one worker holds a pair. -/
theorem Sound.held_length {view : PairView} (sound : view.Sound) : view.held.length ≤ 1 := by
  cases sound with
  | vacant newest => exact Nat.zero_le 1
  | reserved generation claims newest => exact Nat.zero_le 1
  | waiting generation claims entry => exact Nat.zero_le 1
  | sending item claims => exact Nat.le_refl 1
  | superseded item generation claims entry older => exact Nat.le_refl 1

theorem Sound.held_eq {view : PairView} (sound : view.Sound) {items : List PendingReplication}
    (perm : items.Perm view.held) : items = view.held := by
  match shape : view.held, sound.held_length, perm with
  | [], _, perm => exact perm.eq_nil
  | [item], _, perm => exact List.perm_singleton.mp perm

/-- A token is in the queue only while the pair waits. -/
theorem Sound.handOut {view : PairView} (sound : view.Sound) (token : 0 < view.tokens) :
    ∃ slot entry, view.slot = some slot ∧ slot.state = some entry ∧ slot.inFlight = false ∧
      view.newest = some entry ∧ view.held = [] ∧ ∀ item : PendingReplication,
        item.generation = slot.generation → item.state = entry →
          (view.handOut item slot).Sound := by
  cases sound with
  | vacant newest => cases token
  | reserved generation claims newest => cases token
  | waiting generation claims entry =>
      refine ⟨_, entry, rfl, rfl, rfl, rfl, rfl, ?_⟩
      rintro item sameGeneration rfl
      dsimp only at sameGeneration
      subst sameGeneration
      exact .sending item claims
  | sending item claims => cases token
  | superseded item generation claims entry older => cases token

theorem Sound.resolve {view : PairView} (sound : view.Sound) (taken : item ∈ view.held) :
    (view.resolve item).Sound := by
  cases sound with
  | vacant newest => cases taken
  | reserved generation claims newest => cases taken
  | waiting generation claims entry => cases taken
  | sending held claims =>
      obtain rfl := List.mem_singleton.mp taken
      cases claims with
      | zero =>
          simp only [PairView.resolve, Option.bind_some, Outbox.resolved, ↓reduceIte,
            Outbox.requeued,
            bne_self_eq_false, Bool.false_and, Bool.false_eq_true, Nat.add_zero]
          exact .vacant _
      | succ claims =>
          simp only [PairView.resolve, Option.bind_some, Outbox.resolved, ↓reduceIte,
            Outbox.requeued,
            bne_self_eq_false, Bool.false_and, Bool.false_eq_true, Nat.add_zero,
            Nat.add_one_ne_zero]
          exact .reserved item.generation claims _
  | superseded held generation claims entry older =>
      obtain rfl := List.mem_singleton.mp taken
      have differs : generation ≠ item.generation := Nat.ne_of_gt older
      simp only [PairView.resolve, Option.bind_some, Outbox.resolved, if_neg differs,
        Outbox.requeued,
        bne_iff_ne.mpr differs, Bool.not_false, Bool.true_and, ↓reduceIte]
      exact .waiting generation claims entry

end PairView

namespace OutboxLedger

variable {rest : List OutboxReservation} {statesByKey : SortedMap PyStr StoredCrdtEntry}

/-- The view of a pair. -/
def view (ledger : OutboxLedger) (pair : Pair) : PairView :=
  { slot := ledger.outbox.slot pair
    claims := ledger.unresolved pair
    tokens := ledger.outbox.ready.count pair
    held := ledger.held pair
    newest := ledger.newest pair
    unsent := ledger.unsent pair }

/-- The invariant of a run. -/
structure Exact (capacity : Nat) (ledger : OutboxLedger) : Prop where
  capacity_eq : ledger.outbox.capacity = capacity
  size : ledger.outbox.pending.items.length ≤ capacity
  unique : ∀ claim ∈ ledger.claims, claim.pairs.Nodup
  sound : ∀ pair, (ledger.view pair).Sound

theorem exact_initial (capacity : Nat) : (initial capacity).Exact capacity := by
  refine ⟨rfl, Nat.zero_le _, nofun, fun pair => ?_⟩
  have vacant : (initial capacity).outbox.slot pair = none := SortedMap.get?_empty pair
  rw [view, vacant]
  exact .vacant none

theorem unresolved_cons (ledger : OutboxLedger) (outbox : Outbox) (claim : OutboxReservation)
    (pair : Pair) :
    unresolved { ledger with outbox, claims := claim :: ledger.claims } pair =
      ledger.unresolved pair + if pair ∈ claim.pairs then 1 else 0 := by
  rw [unresolved, List.countP_cons]
  simp only [decide_eq_true_eq]
  rfl

theorem unresolved_perm {claim : OutboxReservation} (perm : ledger.claims.Perm (claim :: rest))
    (pair : Pair) :
    ledger.unresolved pair =
      rest.countP (fun claim => decide (pair ∈ claim.pairs)) +
        if pair ∈ claim.pairs then 1 else 0 := by
  rw [unresolved, perm.countP_eq, List.countP_cons]
  simp only [decide_eq_true_eq]

theorem Exact.reserve (inv : ledger.Exact capacity) {pairs : List Pair} {claim : OutboxReservation}
    {outbox : Outbox} (result : ledger.outbox.reserve pairs = .ok (claim, outbox)) :
    Exact capacity { ledger with outbox, claims := claim :: ledger.claims } := by
  have reserves := Outbox.reserves_of_reserve result
  refine ⟨reserves.capacity.trans inv.capacity_eq, reserves.size.trans_eq inv.capacity_eq,
    List.forall_mem_cons.mpr ⟨reserves.unique, inv.unique⟩, fun pair => ?_⟩
  have sound := inv.sound pair
  rw [view, unresolved_cons]
  dsimp only
  rw [reserves.slot, reserves.ready]
  split
  · exact sound.claim
  · exact sound

/-- An unresolved reservation of a pair is counted. -/
theorem unresolved_pos {claim : OutboxReservation} (member : claim ∈ ledger.claims) {pair : Pair}
    (listed : pair ∈ claim.pairs) :
    0 < ledger.unresolved pair :=
  List.countP_pos_iff.mpr ⟨claim, member, decide_eq_true listed⟩

theorem Exact.cancel (inv : ledger.Exact capacity) {claim : OutboxReservation}
    (perm : ledger.claims.Perm (claim :: rest)) :
    Exact capacity { ledger with outbox := ledger.outbox.cancel claim, claims := rest } := by
  have member : claim ∈ ledger.claims := perm.mem_iff.mpr List.mem_cons_self
  have visits := Outbox.visits_cancelPair
  have slots := visits.slot_foldl (inv.unique claim member) ledger.outbox
  refine ⟨(visits.capacity_foldl _ _).trans inv.capacity_eq,
    (Outbox.length_le_of_slots fun pair vacant => ?_).trans inv.size,
    fun other listed => inv.unique other (perm.mem_iff.mpr (List.mem_cons_of_mem claim listed)),
    fun pair => ?_⟩
  · rw [Outbox.cancel, slots, vacant]
    exact ite_self none
  · have counted := unresolved_perm perm pair
    have ready := visits.ready_foldl claim.pairs ledger.outbox
    by_cases listed : pair ∈ claim.pairs
    · rw [if_pos listed] at counted
      have moved := (inv.sound pair).cancel (unresolved_pos member listed)
      refine moved.congr ?_ ?_ ?_ rfl rfl rfl
      · exact (slots pair).trans (if_pos listed)
      · exact (Nat.sub_eq_of_eq_add counted).symm
      · exact congrArg (List.count pair) ready
    · rw [if_neg listed] at counted
      refine (inv.sound pair).congr ?_ ?_ ?_ rfl rfl rfl
      · exact (slots pair).trans (if_neg listed)
      · exact counted.symm
      · exact congrArg (List.count pair) ready

theorem newest_publications {pairs : List Pair}
    (states : ∀ pair ∈ pairs, (statesByKey.get? (ofLex pair).2).isSome = true)
    (log : List OutboxEvent) (pair : Pair) :
    OutboxEvent.newest (publications pairs statesByKey ++ log) pair =
        (if pair ∈ pairs then statesByKey.get? (ofLex pair).2 else OutboxEvent.newest log pair) ∧
      OutboxEvent.unsent (publications pairs statesByKey ++ log) pair =
        (if pair ∈ pairs then statesByKey.get? (ofLex pair).2
          else OutboxEvent.unsent log pair) := by
  induction pairs with
  | nil => exact ⟨rfl, rfl⟩
  | cons first rest ih =>
      obtain ⟨state, states⟩ := List.forall_mem_cons.mp states
      obtain ⟨entry, state⟩ := Option.isSome_iff_exists.mp state
      obtain ⟨newest, unsent⟩ := ih states
      have logged : publications (first :: rest) statesByKey ++ log =
          .published first entry :: (publications rest statesByKey ++ log) := by
        rw [publications, List.filterMap_cons_some (b := .published first entry)
          (by rw [state]; rfl)]
        rfl
      rw [logged, OutboxEvent.newest, OutboxEvent.unsent, newest, unsent]
      by_cases same : first = pair
      · subst same
        simp only [↓reduceIte, List.mem_cons, true_or, state, and_self]
      · simp only [same, Ne.symm same, ↓reduceIte, List.mem_cons, false_or, and_self]

theorem Exact.publish (inv : ledger.Exact capacity) {claim : OutboxReservation}
    (perm : ledger.claims.Perm (claim :: rest)) (covered : Covered claim statesByKey) :
    (ledger.outbox.publish claim statesByKey).1 = .ok () ∧
      Exact capacity
        { ledger with
          outbox := (ledger.outbox.publish claim statesByKey).2
          claims := rest
          log := publications claim.pairs statesByKey ++ ledger.log } := by
  have member : claim ∈ ledger.claims := perm.mem_iff.mpr List.mem_cons_self
  have nodup := inv.unique claim member
  obtain ⟨answered, publishes⟩ := Outbox.publishes_of_reserved nodup covered
    fun pair listed => (inv.sound pair).slot_of_claims (unresolved_pos member listed)
  refine ⟨answered, publishes.capacity.trans inv.capacity_eq,
    (Outbox.length_le_of_slots fun pair vacant => ?_).trans inv.size,
    fun other listed => inv.unique other (perm.mem_iff.mpr (List.mem_cons_of_mem claim listed)),
    fun pair => ?_⟩
  · rw [publishes.slot, vacant]
    exact ite_self none
  · have counted := unresolved_perm perm pair
    obtain ⟨newest, unsent⟩ := newest_publications covered ledger.log pair
    have tokens : (ledger.outbox.publish claim statesByKey).2.ready.count pair =
        ledger.outbox.ready.count pair +
          if pair ∈ claim.pairs.filter ledger.outbox.idle then 1 else 0 := by
      rw [publishes.ready, List.count_append, (nodup.filter _).count]
    by_cases listed : pair ∈ claim.pairs
    · obtain ⟨entry, state⟩ := Option.isSome_iff_exists.mp (covered pair listed)
      rw [if_pos listed] at counted
      rw [if_pos listed, state] at newest unsent
      have moved := (inv.sound pair).publish (unresolved_pos member listed) entry
      refine moved.congr ?_ ?_ ?_ rfl newest unsent
      · refine (publishes.slot pair).trans ?_
        rw [if_pos listed, state]
        exact Option.map_eq_bind.symm
      · exact (Nat.sub_eq_of_eq_add counted).symm
      · refine tokens.trans ?_
        simp only [List.mem_filter, listed, true_and]
        rfl
    · rw [if_neg listed] at counted newest unsent
      have unqueued : pair ∉ claim.pairs.filter ledger.outbox.idle :=
        fun queued => listed (List.mem_filter.mp queued).1
      refine (inv.sound pair).congr ?_ ?_ ?_ rfl newest unsent
      · exact (publishes.slot pair).trans (if_neg listed)
      · exact counted.symm
      · exact tokens.trans (by rw [if_neg unqueued]; rfl)

theorem held_cons (ledger : OutboxLedger) (outbox : Outbox) (item : PendingReplication)
    (log : List OutboxEvent) (pair : Pair) :
    held { ledger with outbox, items := item :: ledger.items, log } pair =
      if item.pair = pair then item :: ledger.held pair else ledger.held pair := by
  rw [held, List.filter_cons]
  simp only [beq_iff_eq]
  rfl

/-- A token always yields an item: the newest snapshot of a pair nobody holds. -/
theorem Exact.nextReady (inv : ledger.Exact capacity) {item : Option PendingReplication}
    {outbox : Outbox} (result : ledger.outbox.nextReady = some (item, outbox)) :
    ∃ taken, item = some taken ∧ ledger.newest taken.pair = some taken.state ∧
      ledger.held taken.pair = [] ∧
      Exact capacity
        { ledger with
          outbox
          items := taken :: ledger.items
          log := .handedOut taken.pair :: ledger.log } := by
  cases ready : ledger.outbox.ready with
  | nil =>
      rw [Outbox.nextReady, ready] at result
      cases result
  | cons pair tokens =>
      have token : 0 < (ledger.view pair).tokens :=
        List.count_pos_iff.mpr (ready ▸ List.mem_cons_self)
      obtain ⟨slot, entry, found, state, free, newest, unheld, sound⟩ :=
        (inv.sound pair).handOut token
      change ledger.outbox.pending.get? pair = some slot at found
      have handed : ledger.outbox.nextReady =
          some (some ⟨(ofLex pair).1, (ofLex pair).2, slot.generation, entry⟩,
            { ledger.outbox with ready := tokens }.set pair
              { slot with queued := false, inFlight := true }) := by
        rw [Outbox.nextReady, ready]
        dsimp only
        rw [found]
        dsimp only
        rw [state]
        dsimp only
        rw [free, if_neg Bool.false_ne_true]
      obtain ⟨rfl, rfl⟩ := Prod.mk.inj (Option.some.inj (handed.symm.trans result))
      refine ⟨_, rfl, newest, unheld, inv.capacity_eq,
        (Outbox.length_le_of_slots fun other vacant => ?_).trans inv.size, inv.unique,
        fun other => ?_⟩
      · refine (Outbox.slot_set _ _ _ _).trans ?_
        split
        · next same =>
          subst same
          exact (nomatch found.symm.trans vacant)
        · exact vacant
      · have slots := Outbox.slot_set { ledger.outbox with ready := tokens } pair other
          { slot with queued := false, inFlight := true }
        have held := held_cons ledger
          ({ ledger.outbox with ready := tokens }.set pair
            { slot with queued := false, inFlight := true })
          ⟨(ofLex pair).1, (ofLex pair).2, slot.generation, entry⟩
          (.handedOut pair :: ledger.log) other
        have count : ledger.outbox.ready.count other =
            tokens.count other + if pair = other then 1 else 0 := by
          rw [ready, List.count_cons]
          simp only [beq_iff_eq]
        by_cases same : pair = other
        · subst same
          rw [if_pos rfl] at slots count
          refine (sound ⟨(ofLex pair).1, (ofLex pair).2, slot.generation, entry⟩ rfl rfl).congr
            slots rfl (Nat.sub_eq_of_eq_add count).symm (held.trans (if_pos rfl)) rfl ?_
          exact if_pos rfl
        · rw [if_neg same] at slots count
          exact (inv.sound other).congr slots rfl count.symm (held.trans (if_neg same)) rfl
            (if_neg same)

theorem held_perm {rest : List PendingReplication} (perm : ledger.items.Perm (item :: rest))
    (pair : Pair) :
    (ledger.held pair).Perm
      (if item.pair = pair then item :: rest.filter (fun item => item.pair == pair)
        else rest.filter fun item => item.pair == pair) := by
  refine (perm.filter _).trans (List.Perm.of_eq ?_)
  rw [List.filter_cons]
  simp only [beq_iff_eq]

theorem Exact.resolve (inv : ledger.Exact capacity) {rest : List PendingReplication}
    (perm : ledger.items.Perm (item :: rest)) :
    Exact capacity
      { ledger with
        outbox := ledger.outbox.resolve item.peerNodeId item.key item.generation
        items := rest } := by
  have slots := Outbox.slot_resolve ledger.outbox item
  have ready := Outbox.ready_resolve ledger.outbox item
  refine ⟨(Outbox.capacity_resolve _ _).trans inv.capacity_eq,
    (Outbox.length_le_of_slots fun pair vacant => ?_).trans inv.size, inv.unique, fun pair => ?_⟩
  · rw [slots, vacant]
    exact ite_self none
  · have held := held_perm perm pair
    by_cases same : item.pair = pair
    · subst same
      rw [if_pos rfl] at held
      have taken : item ∈ ledger.held item.pair := held.mem_iff.mpr List.mem_cons_self
      have alone := (inv.sound item.pair).held_length
      refine ((inv.sound item.pair).resolve taken).congr ((slots _).trans (if_pos rfl)) rfl ?_ ?_
        rfl rfl
      · refine (congrArg (List.count item.pair) ready).trans ?_
        rw [List.count_append]
        refine congrArg (List.count item.pair ledger.outbox.ready + ·) ?_
        change _ = if Outbox.requeued (ledger.outbox.slot item.pair) item.generation then 1 else 0
        split
        · exact List.count_singleton_self
        · rfl
      · change (ledger.held item.pair).length ≤ 1 at alone
        rw [held.length_eq, List.length_cons] at alone
        exact List.eq_nil_of_length_eq_zero (Nat.le_zero.mp (Nat.le_of_succ_le_succ alone))
    · rw [if_neg same] at held
      refine (inv.sound pair).congr ((slots pair).trans (if_neg same)) rfl ?_ ?_ rfl rfl
      · refine (congrArg (List.count pair) ready).trans ?_
        rw [List.count_append]
        split
        · exact (congrArg _ (List.count_singleton.trans (if_neg fun hit =>
            same (beq_iff_eq.mp hit)))).trans (Nat.add_zero _)
        · exact Nat.add_zero _
      · exact (inv.sound pair).held_eq held.symm

theorem perm_eraseIdx {α : Type} {items : List α} {index : Nat} {item : α}
    (found : items[index]? = some item) : items.Perm (item :: items.eraseIdx index) := by
  obtain ⟨bound, rfl⟩ := List.getElem?_eq_some_iff.mp found
  exact (List.getElem_cons_eraseIdx_perm bound).symm

theorem Exact.call {capacity : Nat} {ledger next : OutboxLedger} (inv : ledger.Exact capacity)
    {call : OutboxCall} (made : ledger.call call = some next) : next.Exact capacity := by
  cases call with
  | reserve pairs =>
      rw [OutboxLedger.call] at made
      split at made
      · cases made
        exact inv
      · next claim outbox result =>
        cases made
        exact inv.reserve result
  | cancel index =>
      obtain ⟨claim, found, rfl⟩ := Option.map_eq_some_iff.mp made
      exact inv.cancel (perm_eraseIdx found)
  | publish index statesByKey =>
      obtain ⟨claim, found, made⟩ := Option.bind_eq_some_iff.mp made
      obtain ⟨covered, made⟩ := Option.ite_none_right_eq_some.mp made
      cases made
      exact (inv.publish (perm_eraseIdx found) covered).2
  | nextReady =>
      obtain ⟨⟨item, outbox⟩, result, rfl⟩ := Option.map_eq_some_iff.mp made
      obtain ⟨taken, rfl, -, -, inv⟩ := inv.nextReady result
      exact inv
  | complete index =>
      obtain ⟨item, found, rfl⟩ := Option.map_eq_some_iff.mp made
      exact inv.resolve (perm_eraseIdx found)
  | abandon index =>
      obtain ⟨item, found, rfl⟩ := Option.map_eq_some_iff.mp made
      exact inv.resolve (perm_eraseIdx found)

/-- The invariant holds after every sequence of calls. -/
theorem Exact.play {last : OutboxLedger} (inv : ledger.Exact capacity) {calls : List OutboxCall}
    (played : ledger.play calls = some last) : last.Exact capacity := by
  induction calls generalizing ledger with
  | nil =>
      cases played
      exact inv
  | cons call rest ih =>
      obtain ⟨next, made, played⟩ := Option.bind_eq_some_iff.mp played
      exact ih (inv.call made) played

/-- Some caller still needs the slot of the pair. -/
def Needs (ledger : OutboxLedger) (pair : Pair) : Prop :=
  0 < ledger.unresolved pair ∨ (ledger.unsent pair).isSome ∨ ledger.held pair ≠ []

end OutboxLedger

/-- A pair is pending exactly while somebody needs it. -/
theorem PairView.Sound.slot_isSome_iff {view : PairView} (sound : view.Sound) :
    view.slot.isSome ↔ 0 < view.claims ∨ view.unsent.isSome ∨ view.held ≠ [] := by
  cases sound with
  | vacant newest => simp
  | reserved generation claims newest => simp
  | waiting generation claims entry => simp
  | sending item claims => simp
  | superseded item generation claims entry older => simp

theorem PairView.Sound.reservations {view : PairView} (sound : view.Sound) :
    (view.slot.map (·.reservations)).getD 0 = view.claims := by
  cases sound <;> rfl

/-- The accounting of the outbox is exact after every sequence of calls that resolves each
reservation and each item at most once. -/
theorem outbox_accounting {capacity : Nat} {calls : List OutboxCall} {ledger : OutboxLedger}
    (played : (OutboxLedger.initial capacity).play calls = some ledger) :
    ledger.outbox.pending.items.length ≤ capacity ∧
      (∀ pair, ((ledger.outbox.slot pair).map (·.reservations)).getD 0 =
        ledger.unresolved pair) ∧
      (∀ pair, (ledger.outbox.slot pair).isSome ↔ ledger.Needs pair) ∧
      (∀ pairs error, ledger.outbox.reserve pairs = .error error →
        ledger.call (.reserve pairs) = some ledger) ∧
      (∀ claim ∈ ledger.claims, ∀ statesByKey, OutboxLedger.Covered claim statesByKey →
        (ledger.outbox.publish claim statesByKey).1 = .ok ()) ∧
      ∀ index statesByKey next, ledger.call (.cancel index) = some next ∨
          ledger.call (.publish index statesByKey) = some next →
        ∀ pair, next.Needs pair → (next.outbox.slot pair).isSome := by
  have inv := (OutboxLedger.exact_initial capacity).play played
  refine ⟨inv.size, fun pair => (inv.sound pair).reservations,
    fun pair => (inv.sound pair).slot_isSome_iff, fun pairs error rejected => ?_,
    fun claim member statesByKey covered => ?_, fun index statesByKey next made pair needs => ?_⟩
  · rw [OutboxLedger.call, rejected]
  · obtain ⟨index, found⟩ := List.mem_iff_getElem?.mp member
    exact (inv.publish (OutboxLedger.perm_eraseIdx found) covered).1
  · have inv : next.Exact capacity := by
      rcases made with made | made
      · exact inv.call made
      · exact inv.call made
    exact (inv.sound pair).slot_isSome_iff.mpr needs

/-- A counter that one node has incremented up to a total. -/
def counted (total : Nat) : StoredCrdtEntry :=
  let version := VersionVector.ofItems [(.letter 97 1, 1)]
  .ofLetter 107 (.gcounter ⟨VersionVector.ofItems [(.letter 97 1, total)]⟩) version version

/-- The slot of that counter for one peer. -/
def backup : Pair := toLex (.letter 98, [107])

/-- A snapshot is sent while a newer one is published. -/
def overtaken : List OutboxCall :=
  [.reserve [backup], .publish 0 (.ofList [([107], counted 1)]), .nextReady,
    .reserve [backup], .publish 0 (.ofList [([107], counted 2)]), .complete 0]

theorem overtaken_accounting :
    ∃ ledger, (OutboxLedger.initial 1).play overtaken = some ledger ∧
      ledger.outbox.pending.items.length ≤ 1 ∧
      ((ledger.outbox.slot backup).isSome ↔ ledger.Needs backup) :=
  have played : (OutboxLedger.initial 1).play overtaken = some _ := rfl
  ⟨_, played, (outbox_accounting played).1, (outbox_accounting played).2.2.1 _⟩

/-- A snapshot is being sent by one worker, or waits behind one token. -/
theorem PairView.Sound.phase_of_state {view : PairView} (sound : view.Sound) {slot : Pending}
    (found : view.slot = some slot) (state : slot.state = some entry) :
    view.newest = some entry ∧
      ((slot.inFlight = true ∧ slot.queued = false ∧ view.tokens = 0 ∧
          ∃ item, view.held = [item] ∧ item.generation ≤ slot.generation ∧
            (item.generation = slot.generation → item.state = entry ∧ view.unsent = none)) ∨
        (slot.inFlight = false ∧ slot.queued = true ∧ view.tokens = 1 ∧ view.held = [])) := by
  cases sound with
  | vacant newest => cases found
  | reserved generation claims newest =>
      cases found
      cases state
  | waiting generation claims entry =>
      cases found
      cases state
      exact ⟨rfl, .inr ⟨rfl, rfl, rfl, rfl⟩⟩
  | sending item claims =>
      cases found
      cases state
      exact ⟨rfl, .inl ⟨rfl, rfl, rfl, item, rfl, Nat.le_refl _, fun _ => ⟨rfl, rfl⟩⟩⟩
  | superseded item generation claims entry older =>
      cases found
      cases state
      exact ⟨rfl, .inl ⟨rfl, rfl, rfl, item, rfl, Nat.le_of_lt older,
        fun same => absurd same (Nat.ne_of_lt older)⟩⟩

/-- A snapshot nobody has taken yet is in its slot. -/
theorem PairView.Sound.slot_of_unsent {view : PairView} (sound : view.Sound)
    (unsent : view.unsent = some entry) :
    ∃ slot, view.slot = some slot ∧ slot.state = some entry := by
  cases sound with
  | vacant newest => cases unsent
  | reserved generation claims newest => cases unsent
  | waiting generation claims entry => exact ⟨_, rfl, unsent⟩
  | sending item claims => cases unsent
  | superseded item generation claims entry older => exact ⟨_, rfl, unsent⟩

namespace OutboxLedger

/-- The item a call resolves. -/
def resolves (ledger : OutboxLedger) : OutboxCall → Option PendingReplication
  | .complete index => ledger.items[index]?
  | .abandon index => ledger.items[index]?
  | _ => none

theorem Exact.resolved_of_removed (inv : ledger.Exact capacity) (member : item ∈ ledger.items)
    {pair : Pair} {slot : Pending} (found : ledger.outbox.slot pair = some slot)
    (state : slot.state = some entry)
    (removed : (ledger.outbox.resolve item.peerNodeId item.key item.generation).slot pair = none) :
    item.pair = pair ∧ item.generation = slot.generation ∧ item.state = entry ∧
      ledger.unsent pair = none := by
  rw [Outbox.slot_resolve] at removed
  split at removed
  · next same =>
    rw [found, Option.bind_some, Outbox.resolved] at removed
    split at removed
    · next latest =>
      have taken : item ∈ ledger.held pair :=
        List.mem_filter.mpr ⟨member, beq_iff_eq.mpr same⟩
      obtain ⟨-, ⟨-, -, -, holder, held, -, current⟩ | ⟨-, -, -, held⟩⟩ :=
        (inv.sound pair).phase_of_state found state
      · change ledger.held pair = [holder] at held
        rw [held, List.mem_singleton] at taken
        subst taken
        exact ⟨same, latest.symm, current latest.symm⟩
      · change ledger.held pair = [] at held
        rw [held] at taken
        cases taken
    · cases removed
  · cases found.symm.trans removed

/-- Only the item of the newest generation takes its snapshot out of the outbox. -/
theorem Exact.resolves_of_removed {next : OutboxLedger} (inv : ledger.Exact capacity)
    {call : OutboxCall} (made : ledger.call call = some next) {pair : Pair} {slot : Pending}
    (found : ledger.outbox.slot pair = some slot) (state : slot.state = some entry)
    (removed : next.outbox.slot pair = none) :
    ∃ item, ledger.resolves call = some item ∧ item.pair = pair ∧
      item.generation = slot.generation ∧ item.state = entry ∧ ledger.unsent pair = none := by
  cases call with
  | reserve pairs =>
      rw [OutboxLedger.call] at made
      split at made
      · cases made
        cases found.symm.trans removed
      · next claim outbox result =>
        cases made
        rw [(Outbox.reserves_of_reserve result).slot] at removed
        split at removed
        · cases removed
        · cases found.symm.trans removed
  | cancel index =>
      obtain ⟨claim, place, rfl⟩ := Option.map_eq_some_iff.mp made
      have nodup := inv.unique claim (List.mem_of_getElem? place)
      dsimp only at removed
      rw [Outbox.cancel, Outbox.visits_cancelPair.slot_foldl nodup] at removed
      split at removed
      · rw [found, Option.bind_some, Outbox.cancelled, state] at removed
        simp only [reduceCtorEq, false_and, and_false, ↓reduceIte] at removed
      · cases found.symm.trans removed
  | publish index statesByKey =>
      obtain ⟨claim, place, made⟩ := Option.bind_eq_some_iff.mp made
      obtain ⟨covered, made⟩ := Option.ite_none_right_eq_some.mp made
      cases made
      have member := List.mem_of_getElem? place
      have publishes := (Outbox.publishes_of_reserved (inv.unique claim member) covered
        fun pair listed => (inv.sound pair).slot_of_claims (unresolved_pos member listed)).2
      rw [publishes.slot] at removed
      split at removed
      · next listed =>
        obtain ⟨entry, published⟩ := Option.isSome_iff_exists.mp (covered pair listed)
        rw [found, published] at removed
        cases removed
      · cases found.symm.trans removed
  | nextReady =>
      obtain ⟨⟨item, outbox⟩, result, rfl⟩ := Option.map_eq_some_iff.mp made
      have vacant : outbox.slot pair = none := by
        cases item with
        | none => exact removed
        | some taken => exact removed
      cases found.symm.trans (Outbox.slot_eq_none_of_nextReady result vacant)
  | complete index =>
      obtain ⟨item, place, rfl⟩ := Option.map_eq_some_iff.mp made
      exact ⟨item, place, inv.resolved_of_removed (List.mem_of_getElem? place) found state removed⟩
  | abandon index =>
      obtain ⟨item, place, rfl⟩ := Option.map_eq_some_iff.mp made
      exact ⟨item, place, inv.resolved_of_removed (List.mem_of_getElem? place) found state removed⟩

end OutboxLedger

/-- A published snapshot is not forgotten: it is being sent or waits behind exactly one
token, workers are handed the newest snapshot, and only resolving the newest generation
takes a snapshot out of the outbox. -/
theorem outbox_generation_safety {capacity : Nat} {calls : List OutboxCall}
    {ledger : OutboxLedger}
    (played : (OutboxLedger.initial capacity).play calls = some ledger) :
    (∀ pair entry, ledger.unsent pair = some entry →
        ∃ slot, ledger.outbox.slot pair = some slot ∧ slot.state = some entry) ∧
      (∀ pair slot entry, ledger.outbox.slot pair = some slot → slot.state = some entry →
        ledger.newest pair = some entry ∧
          ((slot.inFlight = true ∧ slot.queued = false ∧ ledger.outbox.ready.count pair = 0 ∧
              (ledger.held pair).length = 1) ∨
            (slot.inFlight = false ∧ slot.queued = true ∧ ledger.outbox.ready.count pair = 1 ∧
              ledger.held pair = []))) ∧
      (∀ pair, (ledger.held pair).length ≤ 1) ∧
      (∀ item outbox, ledger.outbox.nextReady = some (item, outbox) →
        ∃ taken, item = some taken ∧ ledger.newest taken.pair = some taken.state) ∧
      ∀ call next, ledger.call call = some next → ∀ pair slot entry,
        ledger.outbox.slot pair = some slot → slot.state = some entry →
        next.outbox.slot pair = none →
        ∃ item, ledger.resolves call = some item ∧ item.pair = pair ∧
          item.generation = slot.generation ∧ ledger.newest pair = some item.state ∧
          ledger.unsent pair = none := by
  have inv := (OutboxLedger.exact_initial capacity).play played
  refine ⟨fun pair entry unsent => (inv.sound pair).slot_of_unsent unsent,
    fun pair slot entry found state => ?_, fun pair => (inv.sound pair).held_length,
    fun item outbox result => ?_, fun call next made pair slot entry found state removed => ?_⟩
  · obtain ⟨newest, ⟨sending, idle, tokens, item, held, -⟩ | waiting⟩ :=
      (inv.sound pair).phase_of_state found state
    · exact ⟨newest, .inl ⟨sending, idle, tokens, congrArg List.length held⟩⟩
    · exact ⟨newest, .inr waiting⟩
  · obtain ⟨taken, rfl, newest, -⟩ := inv.nextReady result
    exact ⟨taken, rfl, newest⟩
  · obtain ⟨newest, -⟩ := (inv.sound pair).phase_of_state found state
    obtain ⟨item, resolves, same, latest, rfl, sent⟩ :=
      inv.resolves_of_removed made found state removed
    exact ⟨item, resolves, same, latest, newest, sent⟩

/-- The newer snapshot is in the slot and is what the next worker gets. -/
theorem overtaken_generation_safety :
    ∃ ledger, (OutboxLedger.initial 1).play overtaken = some ledger ∧
      ∃ slot, ledger.outbox.slot backup = some slot ∧
        slot.state = some (counted 2) :=
  have played : (OutboxLedger.initial 1).play overtaken = some _ := rfl
  ⟨_, played, (outbox_generation_safety played).1 _ _ rfl⟩

end Distsys
