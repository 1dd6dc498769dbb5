import Distsys.Replication.Outbox

/-!
# The calls of the outbox, slot by slot

An outbox has one slot for each pair of a peer and a key. The calls that walk over a
list of pairs are folds that change the slot of each pair in the same way, so each call
is described by what it makes of one slot, of the queue and of the capacity.
-/

namespace Distsys

/-- The slot an item was taken from. -/
def PendingReplication.pair (item : PendingReplication) : Pair :=
  toLex (item.peerNodeId, item.key)

namespace Outbox

/-- The slot of a pair. -/
def slot (outbox : Outbox) (pair : Pair) : Option Pending := outbox.pending.get? pair

theorem slot_set (outbox : Outbox) (pair other : Pair) (rewritten : Pending) :
    (outbox.set pair rewritten).slot other =
      if pair = other then some rewritten else outbox.slot other := by
  unfold slot set
  by_cases same : pair = other
  · rw [if_pos same, SortedMap.get?_insert, if_pos same]
  · rw [if_neg same, SortedMap.get?_insert_of_ne _ _ same]

theorem slot_pop (outbox : Outbox) (pair other : Pair) :
    (outbox.pop pair).slot other = if pair = other then none else outbox.slot other := by
  unfold slot pop
  rw [SortedMap.get?_filter]
  split
  · next same =>
    subst same
    cases outbox.pending.get? pair with
    | none => rfl
    | some stored => simp only [Option.filter_some, bne_self_eq_false, Bool.false_eq_true,
        ↓reduceIte]
  · next differs =>
    have kept : (other != pair) = true := bne_iff_ne.mpr (Ne.symm differs)
    cases outbox.pending.get? other with
    | none => rfl
    | some stored => simp only [Option.filter_some, kept, ↓reduceIte]

/-- A visit changes the slot of its pair and nothing else. -/
structure Visits (change : Option Pending → Option Pending) (visit : Outbox → Pair → Outbox) :
    Prop where
  slot : ∀ outbox pair other, (visit outbox pair).slot other =
    if pair = other then change (outbox.slot other) else outbox.slot other
  ready : ∀ outbox pair, (visit outbox pair).ready = outbox.ready
  capacity : ∀ outbox pair, (visit outbox pair).capacity = outbox.capacity

namespace Visits

variable {change : Option Pending → Option Pending} {visit : Outbox → Pair → Outbox}

theorem slot_foldl (visits : Visits change visit) {pairs : List Pair} (nodup : pairs.Nodup)
    (outbox : Outbox) (other : Pair) :
    (pairs.foldl visit outbox).slot other =
      if other ∈ pairs then change (outbox.slot other) else outbox.slot other := by
  induction pairs generalizing outbox with
  | nil => simp only [List.foldl_nil, List.not_mem_nil, ↓reduceIte]
  | cons pair rest ih =>
      obtain ⟨fresh, nodup⟩ := List.nodup_cons.mp nodup
      rw [List.foldl_cons, ih nodup, visits.slot]
      by_cases same : pair = other
      · subst same
        simp only [fresh, ↓reduceIte, List.mem_cons, true_or]
      · simp only [same, Ne.symm same, ↓reduceIte, List.mem_cons, false_or]

theorem ready_foldl (visits : Visits change visit) (pairs : List Pair) (outbox : Outbox) :
    (pairs.foldl visit outbox).ready = outbox.ready := by
  induction pairs generalizing outbox with
  | nil => rfl
  | cons pair rest ih => rw [List.foldl_cons, ih, visits.ready]

theorem capacity_foldl (visits : Visits change visit) (pairs : List Pair) (outbox : Outbox) :
    (pairs.foldl visit outbox).capacity = outbox.capacity := by
  induction pairs generalizing outbox with
  | nil => rfl
  | cons pair rest ih => rw [List.foldl_cons, ih, visits.capacity]

end Visits

/-- The slot with one more reservation; a pair without a slot gets one. -/
def claimed (slot : Option Pending) : Pending :=
  let slot := slot.getD {}
  { slot with reservations := slot.reservations + 1 }

/-- What `reserve` does when it succeeds. -/
structure Reserves (outbox : Outbox) (pairs : List Pair) (reservation : OutboxReservation)
    (reserved : Outbox) : Prop where
  unique : reservation.pairs.Nodup
  mem_pairs : ∀ pair, pair ∈ reservation.pairs ↔ pair ∈ pairs
  slot : ∀ pair, reserved.slot pair =
    if pair ∈ reservation.pairs then some (claimed (outbox.slot pair)) else outbox.slot pair
  ready : reserved.ready = outbox.ready
  capacity : reserved.capacity = outbox.capacity
  size : reserved.pending.items.length ≤ outbox.capacity

theorem visits_open : Visits (fun _ => some {}) fun outbox pair => outbox.set pair {} :=
  ⟨fun outbox pair other => slot_set outbox pair other {}, fun _ _ => rfl, fun _ _ => rfl⟩

/-- A visit that rewrites the slot of its pair when there is one. -/
theorem visits_rewrite {visit : Outbox → Pair → Outbox} {rewrite : Pending → Option Pending}
    (absent : ∀ outbox pair, outbox.slot pair = none → visit outbox pair = outbox)
    (present : ∀ outbox pair slot, outbox.slot pair = some slot → visit outbox pair =
      match rewrite slot with
      | none => outbox.pop pair
      | some rewritten => outbox.set pair rewritten) :
    Visits (·.bind rewrite) visit := by
  constructor
  · intro outbox pair other
    cases found : outbox.slot pair with
    | none =>
        rw [absent outbox pair found]
        split
        · next same => rw [← same, found]; rfl
        · rfl
    | some slot =>
        rw [present outbox pair slot found]
        cases rewritten : rewrite slot with
        | none =>
            dsimp only
            rw [slot_pop]
            split
            · next same => rw [← same, found, Option.bind_some, rewritten]
            · rfl
        | some next =>
            dsimp only
            rw [slot_set]
            split
            · next same => rw [← same, found, Option.bind_some, rewritten]
            · rfl
  all_goals
    intro outbox pair
    cases found : outbox.slot pair with
    | none => rw [absent outbox pair found]
    | some slot =>
        rw [present outbox pair slot found]
        cases rewrite slot <;> rfl

theorem visits_count :
    Visits (·.bind fun slot => some { slot with reservations := slot.reservations + 1 })
      fun outbox pair => match outbox.pending.get? pair with
        | none => outbox
        | some slot => outbox.set pair { slot with reservations := slot.reservations + 1 } := by
  refine visits_rewrite (fun outbox pair absent => ?_) fun outbox pair slot present => ?_
  · rw [show outbox.pending.get? pair = none from absent]
  · rw [show outbox.pending.get? pair = some slot from present]

theorem reserves_of_reserve {outbox reserved : Outbox} {pairs : List Pair}
    {reservation : OutboxReservation}
    (result : outbox.reserve pairs = .ok (reservation, reserved)) :
    Reserves outbox pairs reservation reserved := by
  unfold reserve at result
  simp only at result
  split at result
  · cases result
  · next fits =>
    have nodup := List.nodup_eraseDups pairs
    obtain ⟨rfl, made⟩ := Prod.mk.inj (Except.ok.inj result)
    have slots : ∀ pair, reserved.slot pair =
        if pair ∈ pairs.eraseDups then some (claimed (outbox.slot pair)) else outbox.slot pair := by
      intro pair
      rw [← made]
      refine (visits_count.slot_foldl nodup _ pair).trans ?_
      rw [visits_open.slot_foldl (nodup.filter _)]
      simp only [List.mem_filter]
      by_cases member : pair ∈ pairs.eraseDups
      · simp only [member, ↓reduceIte, true_and]
        cases found : outbox.slot pair with
        | none =>
            have absent : (outbox.pending.get? pair).isNone = true :=
              Option.isNone_iff_eq_none.mpr found
            rw [if_pos absent]
            rfl
        | some slot =>
            have present : ¬ (outbox.pending.get? pair).isNone = true := by
              rw [show outbox.pending.get? pair = some slot from found]
              exact Bool.false_ne_true
            rw [if_neg present]
            rfl
      · simp only [member, ↓reduceIte, false_and]
    refine ⟨nodup, fun pair => List.mem_eraseDups, slots, ?_, ?_, ?_⟩
    · rw [← made]
      exact (visits_count.ready_foldl _ _).trans (visits_open.ready_foldl _ _)
    · rw [← made]
      exact (visits_count.capacity_foldl _ _).trans (visits_open.capacity_foldl _ _)
    · refine (SortedMap.length_le_of_keys fun pair slot found => ?_).trans (Nat.not_lt.mp fits)
      have stored := (slots pair).symm.trans found
      split at stored
      · next member =>
        cases old : outbox.pending.get? pair with
        | some slot => exact .inl ⟨slot, rfl⟩
        | none =>
            refine .inr (List.mem_filter.mpr ⟨member, ?_⟩)
            rw [old]
            rfl
      · exact .inl ⟨slot, stored⟩

/-- The slot after one of its reservations is cancelled. -/
def cancelled (slot : Pending) : Option Pending :=
  if slot.reservations - 1 = 0 ∧ slot.state = none ∧ ¬ slot.queued ∧ ¬ slot.inFlight then none
  else some { slot with reservations := slot.reservations - 1 }

theorem visits_cancelPair : Visits (·.bind cancelled) cancelPair := by
  refine visits_rewrite (fun outbox pair absent => ?_) fun outbox pair slot present => ?_
  · rw [cancelPair, show outbox.pending.get? pair = none from absent]
  · rw [cancelPair, show outbox.pending.get? pair = some slot from present, cancelled]
    dsimp only
    split <;> rfl

/-- Whether a publication puts the pair on the ready queue. -/
def idle (outbox : Outbox) (pair : Pair) : Bool :=
  match outbox.slot pair with
  | none => false
  | some slot => !slot.queued && !slot.inFlight

/-- What `publish` does when every pair has a state and a reservation. -/
structure Publishes (outbox : Outbox) (pairs : List Pair)
    (statesByKey : SortedMap PyStr StoredCrdtEntry) (published : Outbox) : Prop where
  slot : ∀ pair, published.slot pair =
    if pair ∈ pairs then
      (outbox.slot pair).bind fun slot => (statesByKey.get? (ofLex pair).2).map slot.publish
    else outbox.slot pair
  ready : published.ready = outbox.ready ++ pairs.filter outbox.idle
  capacity : published.capacity = outbox.capacity

theorem publishLoop_eq {statesByKey : SortedMap PyStr StoredCrdtEntry} {pairs : List Pair}
    (nodup : pairs.Nodup) {outbox : Outbox}
    (states : ∀ pair ∈ pairs, (statesByKey.get? (ofLex pair).2).isSome)
    (reserved : ∀ pair ∈ pairs, ∃ slot, outbox.slot pair = some slot ∧ 1 ≤ slot.reservations)
    (toQueue : List Pair) :
    ∃ published, publishLoop statesByKey pairs outbox toQueue =
        (.ok (toQueue ++ pairs.filter outbox.idle), published) ∧
      published.ready = outbox.ready ∧ published.capacity = outbox.capacity ∧
      ∀ pair, published.slot pair =
        if pair ∈ pairs then
          (outbox.slot pair).bind fun slot => (statesByKey.get? (ofLex pair).2).map slot.publish
        else outbox.slot pair := by
  induction pairs generalizing outbox toQueue with
  | nil =>
      refine ⟨outbox, ?_, rfl, rfl, fun pair => ?_⟩
      · rw [publishLoop, List.filter_nil, List.append_nil]
      · simp only [List.not_mem_nil, ↓reduceIte]
  | cons pair rest ih =>
      obtain ⟨fresh, nodup⟩ := List.nodup_cons.mp nodup
      obtain ⟨state, states⟩ := List.forall_mem_cons.mp states
      obtain ⟨⟨slot, found, claimed⟩, reserved⟩ := List.forall_mem_cons.mp reserved
      obtain ⟨entry, state⟩ := Option.isSome_iff_exists.mp state
      have elsewhere : ∀ other ∈ rest, (outbox.set pair (slot.publish entry)).slot other =
          outbox.slot other := by
        intro other member
        rw [slot_set, if_neg]
        rintro rfl
        exact fresh member
      obtain ⟨published, result, ready, capacity, slots⟩ := @ih nodup
        (outbox.set pair (slot.publish entry)) states
        (fun other member => by rw [elsewhere other member]; exact reserved other member)
        (if !slot.queued && !slot.inFlight then toQueue ++ [pair] else toQueue)
      have queued : rest.filter (outbox.set pair (slot.publish entry)).idle =
          rest.filter outbox.idle := by
        refine List.filter_congr fun other member => ?_
        rw [idle, idle, elsewhere other member]
      refine ⟨published, ?_, ready, capacity, fun other => ?_⟩
      · rw [publishLoop, state, show outbox.pending.get? pair = some slot from found]
        dsimp only
        rw [if_neg (Nat.not_lt.mpr claimed), result, queued, List.filter_cons, idle, found]
        dsimp only
        split
        · rw [List.append_assoc, List.singleton_append]
        · rfl
      · rw [slots other, slot_set]
        by_cases same : pair = other
        · subst same
          simp only [fresh, ↓reduceIte, List.mem_cons, true_or, found, state, Option.bind_some,
            Option.map_some]
        · simp only [same, Ne.symm same, ↓reduceIte, List.mem_cons, false_or]

theorem publishes_of_reserved {outbox : Outbox} {reservation : OutboxReservation}
    {statesByKey : SortedMap PyStr StoredCrdtEntry} (nodup : reservation.pairs.Nodup)
    (states : ∀ pair ∈ reservation.pairs, (statesByKey.get? (ofLex pair).2).isSome)
    (reserved : ∀ pair ∈ reservation.pairs,
      ∃ slot, outbox.slot pair = some slot ∧ 1 ≤ slot.reservations) :
    (outbox.publish reservation statesByKey).1 = .ok () ∧
      Publishes outbox reservation.pairs statesByKey
        (outbox.publish reservation statesByKey).2 := by
  obtain ⟨published, result, ready, capacity, slots⟩ := publishLoop_eq nodup states reserved []
  rw [publish, result]
  exact ⟨rfl, slots, congrArg (· ++ _) ready, capacity⟩

/-- The turn of the queue removes no slot. -/
theorem slot_eq_none_of_nextReady {outbox next : Outbox} {item : Option PendingReplication}
    (result : outbox.nextReady = some (item, next)) {pair : Pair}
    (vacant : next.slot pair = none) : outbox.slot pair = none := by
  unfold nextReady at result
  split at result
  · cases result
  · simp only at result
    split at result
    · cases result
      exact vacant
    · split at result
      · cases result
        exact vacant
      · split at result
        · cases result
          exact vacant
        · cases result
          rw [slot_set] at vacant
          split at vacant
          · cases vacant
          · exact vacant

/-- What a resolved item leaves of its slot. -/
def resolved (slot : Pending) (generation : Nat) : Option Pending :=
  if slot.generation = generation then
    if slot.reservations = 0 then none
    else some { slot with inFlight := false, state := none, queued := false }
  else some { slot with inFlight := false, queued := true }

/-- A resolved item changes its slot and may put the pair on the ready queue again. -/
theorem slot_resolve (outbox : Outbox) (item : PendingReplication) (other : Pair) :
    (outbox.resolve item.peerNodeId item.key item.generation).slot other =
      if item.pair = other then (outbox.slot other).bind (resolved · item.generation)
      else outbox.slot other := by
  unfold resolve
  simp only
  cases found : outbox.slot item.pair with
  | none =>
      rw [show outbox.pending.get? (toLex (item.peerNodeId, item.key)) = none from found]
      dsimp only
      split
      · next same => rw [← same, found]; rfl
      · rfl
  | some slot =>
      rw [show outbox.pending.get? (toLex (item.peerNodeId, item.key)) = some slot from found]
      dsimp only
      have rewritten : ∀ next : Outbox,
          (∀ pair, next.slot pair = if item.pair = pair then resolved slot item.generation
            else outbox.slot pair) →
          next.slot other = if item.pair = other then
            (outbox.slot other).bind (resolved · item.generation) else outbox.slot other := by
        intro next slots
        rw [slots]
        split
        · next same => rw [← same, found]; rfl
        · rfl
      by_cases latest : slot.generation = item.generation
      · rw [if_pos latest]
        by_cases free : slot.reservations = 0
        · rw [if_pos free]
          refine rewritten _ fun pair => ?_
          rw [slot_pop, resolved, if_pos latest, if_pos free]
          rfl
        · rw [if_neg free]
          refine rewritten _ fun pair => ?_
          rw [slot_set, resolved, if_pos latest, if_neg free]
          rfl
      · rw [if_neg latest]
        by_cases queued : slot.queued = true
        · rw [if_pos queued]
          refine rewritten _ fun pair => ?_
          rw [slot_set, resolved, if_neg latest, ← queued]
          rfl
        · rw [if_neg queued]
          refine rewritten _ fun pair => ?_
          refine (slot_set _ _ _ _).trans ?_
          rw [resolved, if_neg latest]
          rfl

/-- Whether a resolved item puts its pair on the ready queue again. -/
def requeued (slot : Option Pending) (generation : Nat) : Bool :=
  match slot with
  | none => false
  | some slot => slot.generation != generation && !slot.queued

theorem ready_resolve (outbox : Outbox) (item : PendingReplication) :
    (outbox.resolve item.peerNodeId item.key item.generation).ready = outbox.ready ++
      if requeued (outbox.slot item.pair) item.generation then [item.pair] else [] := by
  unfold resolve
  simp only
  cases found : outbox.slot item.pair with
  | none =>
      rw [show outbox.pending.get? (toLex (item.peerNodeId, item.key)) = none from found]
      exact (List.append_nil _).symm
  | some slot =>
      rw [show outbox.pending.get? (toLex (item.peerNodeId, item.key)) = some slot from found]
      dsimp only
      by_cases latest : slot.generation = item.generation
      · have settled : requeued (some slot) item.generation = false := by
          rw [requeued, latest, bne_self_eq_false, Bool.false_and]
        rw [if_pos latest, settled, if_neg Bool.false_ne_true, List.append_nil]
        split <;> rfl
      · rw [if_neg latest]
        by_cases queued : slot.queued = true
        · have settled : requeued (some slot) item.generation = false := by
            rw [requeued, queued, Bool.not_true, Bool.and_false]
          rw [if_pos queued, settled, if_neg Bool.false_ne_true, List.append_nil]
          rfl
        · have again : requeued (some slot) item.generation = true := by
            rw [requeued, bne_iff_ne.mpr latest, Bool.eq_false_iff.mpr queued]
            rfl
          rw [if_neg queued, if_pos again]
          rfl

theorem capacity_resolve (outbox : Outbox) (item : PendingReplication) :
    (outbox.resolve item.peerNodeId item.key item.generation).capacity = outbox.capacity := by
  unfold resolve
  dsimp only
  split
  · rfl
  · split
    · split <;> rfl
    · split <;> rfl

/-- The table does not grow when no pair becomes pending. -/
theorem length_le_of_slots {earlier later : Outbox}
    (slots : ∀ pair, earlier.slot pair = none → later.slot pair = none) :
    later.pending.items.length ≤ earlier.pending.items.length := by
  have bound : later.pending.items.length ≤
      earlier.pending.items.length + ([] : List Pair).length := by
    refine SortedMap.length_le_of_keys fun pair slot found => ?_
    cases old : earlier.slot pair with
    | none => exact (nomatch (slots pair old).symm.trans found)
    | some slot => exact .inl ⟨slot, old⟩
  exact bound

end Outbox

end Distsys
