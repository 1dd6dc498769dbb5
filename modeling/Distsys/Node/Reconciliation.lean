import Distsys.Node.Network

/-!
# What an anti-entropy pass does to the stores

The loop of `_reconcile_digest` over the keys of two digests, in terms of the stores of
the two nodes. Each key is dealt with as the relation of its digests prescribes, and
the entries of all other keys stay as they are.
-/

namespace Distsys

/-- What the loop does for a key: a key that is missing at one side is treated as one
where the other side is ahead. -/
def prescribed (current remote : Option CrdtDigestEntry) : Except PyError DigestRelation :=
  match current, remote with
  | none, none => .error ⟨.assertionError, ""⟩
  | none, some _ => .ok .remoteAhead
  | some _, none => .ok .localAhead
  | some current, some remote => compareDigest current remote

/-- The context that the loop sends and stores for a key whose versions agree. -/
def joinedContext (current remote : Option CrdtDigestEntry) : VersionVector :=
  (current.elim ⊥ (·.causalContext) : VersionVector).merge (remote.elim ⊥ (·.causalContext))

/-- The stores after a key has been dealt with as prescribed. -/
inductive Reconciled (id target : NodeId) (key : PyStr) (context : VersionVector)
    (stores : NodeId → Store) : DigestRelation → (NodeId → Store) → Prop
  | metadataOnly {current : StoredCrdtEntry} (found : (stores id).get key = some current) :
      Reconciled id target key context stores .metadataOnly
        (Function.update (Function.update stores id ((stores id).withMetadata key context)) target
          ((stores target).refresh
            [⟨current.key, current.crdtType, current.stateVersion, context⟩]))
  | localAhead {entry merged : StoredCrdtEntry} (found : (stores id).get key = some entry)
      (absorbed : (stores target).absorb entry = .ok merged) :
      Reconciled id target key context stores .localAhead
        (Function.update stores target ((stores target).put merged))
  | remoteAhead {entry merged : StoredCrdtEntry} (found : (stores target).get key = some entry)
      (absorbed : (stores id).absorb entry = .ok merged) :
      Reconciled id target key context stores .remoteAhead
        (Function.update stores id ((stores id).put merged))
  | concurrent {entry merged returned : StoredCrdtEntry}
      (found : (stores target).get key = some entry)
      (absorbed : (stores id).absorb entry = .ok merged)
      (sent : (stores target).absorb merged = .ok returned) :
      Reconciled id target key context stores .concurrent
        (Function.update (Function.update stores id ((stores id).put merged)) target
          ((stores target).put returned))

/-- Why the loop may leave a key alone: its digests agree, or one of the sides does not
hold it, or the peer refuses to send it. -/
inductive Skipped (id target : NodeId) (key : PyStr) (stores : NodeId → Store) (refused : Prop) :
    DigestRelation → Prop
  | equal : Skipped id target key stores refused .equal
  | absent {relation : DigestRelation} (missing : (stores target).get key = none)
      (pulled : relation = .remoteAhead ∨ relation = .concurrent) :
      Skipped id target key stores refused relation
  | refused {relation : DigestRelation} (refuses : refused)
      (pulled : relation = .remoteAhead ∨ relation = .concurrent) :
      Skipped id target key stores refused relation
  | gone (missing : (stores id).get key = none) : Skipped id target key stores refused .localAhead

/-- One turn of the loop, with whether it repaired. -/
structure Turn (id target : NodeId) (key : PyStr) (current remote : Option CrdtDigestEntry)
    (refused : Prop) (stores left : NodeId → Store) (relation : DigestRelation)
    (repaired : Bool) : Prop where
  prescribes : prescribed current remote = .ok relation
  effect : if repaired then
      Reconciled id target key (joinedContext current remote) stores relation left
    else left = stores ∧ Skipped id target key stores refused relation

variable {deployment : Deployment} {environment : Environment} {self : Thread} {world : World}
  {stores : NodeId → Store} {target : NodeId} {key : PyStr}
  {post : Except PyError Bool → World → Prop} {store : Store} {entry : StoredCrdtEntry}
  {digests : List CrdtDigestEntry} {node left right : NodeId} {other : PyStr}

/-- The branch of the loop that fetches. -/
theorem ends_pull (holding : world.Holding stores)
    (fails : ∀ error after, (∃ left, after.Holding left) → post (.error error) after)
    (skips : ∀ after, after.Holding stores →
      ((stores target).get key = none ∨ after.Refused) → post (.ok false) after)
    (merges : ∀ after state merged, (stores target).get key = some state →
      (stores self.node).absorb state = .ok merged →
      after.Holding (Function.update stores self.node ((stores self.node).put merged)) →
      post (.ok true) after) :
    EndsAmong deployment environment self post
      (reconcileKey.pull deployment self.node target key) world := by
  refine Prog.Ends.bind ((ends_fetchState holding target key).mono ?_)
  rintro (error | _ | state) after ⟨kept, facts⟩
  · exact fails error after ⟨stores, kept⟩
  · refine Prog.ends_pure (skips after kept ?_)
    rcases facts none rfl with ⟨missing, _⟩ | ⟨_, refused⟩
    · exact .inl missing
    · exact .inr refused
  · rcases facts (some state) rfl with ⟨found, _⟩ | ⟨none, _⟩
    · refine Prog.Ends.bind (EndsAlone.among ((ends_absorb kept state).mono ?_))
      rintro (error | merged) final outcome
      · exact fails error final ⟨_, outcome.1⟩
      · exact Prog.ends_pure (merges final state merged found outcome.1 outcome.2)
    · cases none

/-- The branch of the loop that sends. -/
theorem ends_push (holding : world.Holding stores)
    (fails : ∀ error after, (∃ left, after.Holding left) → post (.error error) after)
    (skips : ∀ after, after.Holding stores → (stores self.node).get key = none →
      post (.ok false) after)
    (sends : ∀ after entry merged, (stores self.node).get key = some entry →
      (stores target).absorb entry = .ok merged →
      after.Holding (Function.update stores target ((stores target).put merged)) →
      post (.ok true) after) :
    EndsAmong deployment environment self post
      (reconcileKey.push deployment target key) world := by
  refine ends_perform rfl ?_
  rw [holding.store]
  cases found : (stores self.node).get key with
  | none => exact Prog.ends_pure (skips world holding found)
  | some entry =>
      refine Prog.Ends.bind ((ends_sendState holding target entry).mono ?_)
      rintro (error | ⟨⟨⟩⟩) after ⟨kept, facts⟩
      · exact fails error after kept
      · obtain ⟨merged, absorbed, stored, _⟩ := facts rfl
        exact Prog.ends_pure (sends after entry merged found absorbed stored)

/-- What a turn of the loop leaves. -/
def Turned (id target : NodeId) (key : PyStr) (current remote : Option CrdtDigestEntry)
    (stores : NodeId → Store) (result : Except PyError Bool) (after : World) : Prop :=
  (∃ left, after.Holding left) ∧ ∀ repaired, result = .ok repaired → ∃ left relation,
    after.Holding left ∧
      Turn id target key current remote after.Refused stores left relation repaired

section Turned

variable {id : NodeId} {current remote : Option CrdtDigestEntry} {after : World}
  {left : NodeId → Store}

theorem turned_error {error : PyError} (kept : ∃ left, after.Holding left) :
    Turned id target key current remote stores (.error error) after := by
  refine ⟨kept, ?_⟩
  rintro _ ⟨⟩

theorem turned_ok {relation : DigestRelation} {repaired : Bool} (kept : after.Holding left)
    (turn : Turn id target key current remote after.Refused stores left relation repaired) :
    Turned id target key current remote stores (.ok repaired) after := by
  refine ⟨⟨left, kept⟩, ?_⟩
  rintro _ ⟨⟩
  exact ⟨left, relation, kept, turn⟩

end Turned

theorem Store.get_withMetadata_self {context : VersionVector} (found : store.get key = some entry) :
    (store.withMetadata key context).get key =
      some (entry.withContext (entry.causalContext.merge context)) := by
  have keyed := Store.key_of_get found
  unfold withMetadata
  rw [found]
  dsimp only
  rw [Store.get_put]
  exact if_pos keyed

section Turn

variable {current remote : Option CrdtDigestEntry}

theorem ends_turn_pull (holding : world.Holding stores)
    (prescribes : prescribed current remote = .ok .remoteAhead) :
    EndsAmong deployment environment self (Turned self.node target key current remote stores)
      (reconcileKey.pull deployment self.node target key) world := by
  refine ends_pull holding (fun _ _ => turned_error) ?_ ?_
  · rintro after kept (missing | refused)
    · exact turned_ok kept ⟨prescribes, rfl, .absent missing (.inl rfl)⟩
    · exact turned_ok kept ⟨prescribes, rfl, .refused refused (.inl rfl)⟩
  · exact fun after state merged found absorbed stored =>
      turned_ok stored ⟨prescribes, .remoteAhead found absorbed⟩

theorem ends_turn_push (holding : world.Holding stores)
    (prescribes : prescribed current remote = .ok .localAhead) :
    EndsAmong deployment environment self (Turned self.node target key current remote stores)
      (reconcileKey.push deployment target key) world := by
  refine ends_push holding (fun _ _ => turned_error) ?_ ?_
  · exact fun after kept missing => turned_ok kept ⟨prescribes, rfl, .gone missing⟩
  · exact fun after entry merged found absorbed stored =>
      turned_ok stored ⟨prescribes, .localAhead found absorbed⟩

/-- One turn of the loop. What the digest of this node lists, it holds. -/
theorem ends_reconcileKey (holding : world.Holding stores) (apart : self.node ≠ target)
    (held : ∀ digest, current = some digest → ∃ entry, (stores self.node).get key = some entry) :
    EndsAmong deployment environment self (Turned self.node target key current remote stores)
      (reconcileKey deployment self.node target key current remote) world := by
  match current, remote with
  | none, none => exact Prog.ends_done (turned_error ⟨_, holding⟩)
  | none, some _ => exact ends_turn_pull holding rfl
  | some _, none => exact ends_turn_push holding rfl
  | some current, some remote =>
      unfold reconcileKey
      dsimp only
      cases compared : compareDigest current remote with
      | error error => exact Prog.ends_done (turned_error ⟨_, holding⟩)
      | ok relation =>
          rw [Prog.ofExcept_ok_bind]
          cases relation with
          | equal => exact Prog.ends_pure (turned_ok holding ⟨compared, rfl, .equal⟩)
          | localAhead => exact ends_turn_push holding compared
          | remoteAhead => exact ends_turn_pull holding compared
          | metadataOnly =>
              obtain ⟨entry, found⟩ := held current rfl
              refine Prog.Ends.bind (EndsAlone.among ((ends_metadata holding key _).mono ?_))
              rintro (error | updated) after kept
              · exact turned_error ⟨_, kept.1⟩
              · refine Prog.Ends.bind ((ends_sendMetadata kept target key _).mono ?_)
                rintro (error | ⟨⟨⟩⟩) final ⟨left, facts⟩
                · exact turned_error left
                · have sent := facts rfl
                  rw [Function.update_self, Function.update_of_ne apart.symm] at sent
                  have effect : Reconciled self.node target key
                      (joinedContext (some current) (some remote)) stores .metadataOnly _ :=
                    .metadataOnly found
                  exact Prog.ends_pure (turned_ok (sent _ (Store.get_withMetadata_self found))
                    ⟨compared, effect⟩)
          | concurrent =>
              refine Prog.Ends.bind ((ends_fetchState holding target key).mono ?_)
              rintro (error | _ | state) after ⟨kept, facts⟩
              · exact turned_error ⟨_, kept⟩
              · rcases facts none rfl with ⟨missing, _⟩ | ⟨_, refused⟩
                · exact Prog.ends_pure
                    (turned_ok kept ⟨compared, rfl, .absent missing (.inr rfl)⟩)
                · exact Prog.ends_pure
                    (turned_ok kept ⟨compared, rfl, .refused refused (.inr rfl)⟩)
              · rcases facts (some state) rfl with ⟨found, _⟩ | ⟨none, _⟩
                · refine Prog.Ends.bind (EndsAlone.among ((ends_absorb kept state).mono ?_))
                  rintro (error | merged) middle outcome
                  · exact turned_error ⟨_, outcome.1⟩
                  · obtain ⟨absorbed, stored⟩ := outcome
                    refine Prog.Ends.bind ((ends_sendState stored target merged).mono ?_)
                    rintro (error | ⟨⟨⟩⟩) final ⟨left, facts⟩
                    · exact turned_error left
                    · obtain ⟨returned, sent, final, _⟩ := facts rfl
                      rw [Function.update_of_ne apart.symm] at sent final
                      exact Prog.ends_pure
                        (turned_ok final ⟨compared, .concurrent found absorbed sent⟩)
                · cases none

end Turn

namespace Store

variable {store : Store} {other : PyStr} {context : VersionVector}

theorem get_withMetadata_of_ne (differs : key ≠ other) :
    (store.withMetadata key context).get other = store.get other := by
  unfold withMetadata
  cases found : store.get key with
  | none => rfl
  | some existing =>
      refine Store.get_put_of_ne _ ?_
      exact fun same => differs ((Store.key_of_get found).symm.trans same)

theorem get_refresh_of_ne (differs : ∀ digest ∈ digests, digest.key ≠ other) :
    (store.refresh digests).get other = store.get other := by
  induction digests generalizing store with
  | nil => rfl
  | cons digest rest ih =>
      obtain ⟨first, rest⟩ := List.forall_mem_cons.mp differs
      unfold refresh
      split
      · split
        · rw [ih rest, get_withMetadata_of_ne first]
        · exact ih rest
      · exact ih rest

theorem get_put_absorb_of_ne {incoming merged : StoredCrdtEntry} (other : PyStr)
    (absorbed : store.absorb incoming = .ok merged) (differs : incoming.key ≠ other) :
    (store.put merged).get other = store.get other := by
  refine Store.get_put_of_ne _ ?_
  rw [(Store.absorb_eq_ok absorbed).1]
  exact differs

end Store

section Frame

variable {id : NodeId} {left : NodeId → Store} {relation : DigestRelation}
  {context : VersionVector} {current remote : Option CrdtDigestEntry} {refused : Prop}
  {repaired : Bool}

/-- A store that is replaced by one that agrees on a key still agrees on it. -/
theorem get_update (same : store.get other = (stores id).get other) :
    (Function.update stores id store node).get other = (stores node).get other := by
  by_cases here : node = id
  · subst here
    rw [Function.update_self, same]
  · rw [Function.update_of_ne here]

/-- Dealing with a key leaves all other keys as they are. -/
theorem Reconciled.frame (reconciled : Reconciled id target key context stores relation left)
    (apart : id ≠ target) (differs : key ≠ other) :
    (left node).get other = (stores node).get other := by
  cases reconciled with
  | metadataOnly found =>
      rw [get_update, get_update]
      · exact Store.get_withMetadata_of_ne differs
      · rw [Function.update_of_ne apart.symm]
        refine Store.get_refresh_of_ne fun digest listed => ?_
        cases List.mem_singleton.mp listed
        rw [Store.key_of_get found]
        exact differs
  | localAhead found absorbed =>
      refine get_update (Store.get_put_absorb_of_ne other absorbed ?_)
      rw [Store.key_of_get found]
      exact differs
  | remoteAhead found absorbed =>
      refine get_update (Store.get_put_absorb_of_ne other absorbed ?_)
      rw [Store.key_of_get found]
      exact differs
  | concurrent found absorbed sent =>
      have keyed := (Store.absorb_eq_ok absorbed).1.trans (Store.key_of_get found)
      rw [get_update, get_update]
      · refine Store.get_put_absorb_of_ne other absorbed ?_
        rw [Store.key_of_get found]
        exact differs
      · rw [Function.update_of_ne apart.symm]
        refine Store.get_put_absorb_of_ne other sent ?_
        rw [keyed]
        exact differs

theorem Turn.frame (turn : Turn id target key current remote refused stores left relation repaired)
    (apart : id ≠ target) (differs : key ≠ other) :
    (left node).get other = (stores node).get other := by
  have effect := turn.effect
  cases repaired with
  | true => exact Reconciled.frame effect apart differs
  | false =>
      obtain ⟨rfl, _⟩ := effect
      rfl

theorem Turn.mono {weaker : Prop}
    (turn : Turn id target key current remote refused stores left relation repaired)
    (weaken : refused → weaker) :
    Turn id target key current remote weaker stores left relation repaired := by
  refine ⟨turn.prescribes, ?_⟩
  have effect := turn.effect
  cases repaired with
  | true => exact effect
  | false =>
      refine ⟨effect.1, ?_⟩
      cases effect.2 with
      | equal => exact .equal
      | absent missing pulled => exact .absent missing pulled
      | refused refuses pulled => exact .refused (weaken refuses) pulled
      | gone missing => exact .gone missing

end Frame

/-- The turns of the loop, with the number of repairs. -/
inductive Turns (id target : NodeId) (currentMap remoteMap : SortedMap PyStr CrdtDigestEntry)
    (refused : Prop) : List PyStr → (NodeId → Store) → (NodeId → Store) → Nat → Prop
  | nil (stores : NodeId → Store) : Turns id target currentMap remoteMap refused [] stores stores 0
  | cons {key : PyStr} {keys : List PyStr} {stores middle left : NodeId → Store}
      {relation : DigestRelation} {repaired : Bool} {count : Nat}
      (turn : Turn id target key (currentMap.get? key) (remoteMap.get? key) refused stores middle
        relation repaired)
      (rest : Turns id target currentMap remoteMap refused keys middle left count) :
      Turns id target currentMap remoteMap refused (key :: keys) stores left
        ((if repaired then 1 else 0) + count)

section Loop

variable {id : NodeId} {currentMap remoteMap : SortedMap PyStr CrdtDigestEntry} {refused : Prop}
  {keys : List PyStr} {left : NodeId → Store} {count : Nat}

theorem Turns.frame (turns : Turns id target currentMap remoteMap refused keys stores left count)
    (apart : id ≠ target) (unlisted : other ∉ keys) :
    (left node).get other = (stores node).get other := by
  induction turns with
  | nil => rfl
  | cons turn rest ih =>
      rw [List.mem_cons, not_or] at unlisted
      rw [ih unlisted.2, turn.frame apart (Ne.symm unlisted.1)]

/-- Each key has its turn, from stores that still hold its entries. -/
theorem Turns.at_key (turns : Turns id target currentMap remoteMap refused keys stores left count)
    (apart : id ≠ target) (nodup : keys.Nodup) (listed : key ∈ keys) :
    ∃ before after relation repaired,
      Turn id target key (currentMap.get? key) (remoteMap.get? key) refused before after relation
        repaired ∧
      (∀ node, (before node).get key = (stores node).get key) ∧
      (∀ node, (left node).get key = (after node).get key) ∧
      (repaired = true → 0 < count) := by
  induction turns with
  | nil => cases listed
  | @cons first rest stores middle left relation repaired count turn turns ih =>
      obtain ⟨fresh, nodup⟩ := List.nodup_cons.mp nodup
      rcases List.mem_cons.mp listed with rfl | listed
      · refine ⟨stores, middle, relation, repaired, turn, fun _ => rfl, ?_, ?_⟩
        · exact fun node => turns.frame apart fresh
        · rintro rfl
          exact Nat.lt_of_lt_of_le Nat.zero_lt_one (Nat.le_add_right _ _)
      · obtain ⟨before, after, relation, repaired, found, starts, ends, counted⟩ := ih nodup listed
        refine ⟨before, after, relation, repaired, found, fun node => ?_, ends, fun repairs => ?_⟩
        · rw [starts, turn.frame apart]
          rintro rfl
          exact fresh listed
        · exact Nat.lt_of_lt_of_le (counted repairs) (Nat.le_add_left _ _)

end Loop

/-- The loop of `_reconcile_digest`. -/
theorem ends_reconcileKeys {currentMap remoteMap : SortedMap PyStr CrdtDigestEntry}
    {keys : List PyStr} (holding : world.Holding stores) (apart : self.node ≠ target)
    (nodup : keys.Nodup)
    (held : ∀ key ∈ keys, ∀ digest, currentMap.get? key = some digest →
      ∃ entry, (stores self.node).get key = some entry) (repairs : Nat) :
    EndsAmong deployment environment self (fun result after => (∃ left, after.Holding left) ∧
      ∀ total, result = .ok total → ∃ left count, after.Holding left ∧ total = repairs + count ∧
        Turns self.node target currentMap remoteMap after.Refused keys stores left count)
      (reconcileKeys deployment self.node target currentMap remoteMap keys repairs) world := by
  induction keys generalizing world stores repairs with
  | nil =>
      refine Prog.ends_pure ⟨⟨_, holding⟩, ?_⟩
      rintro _ ⟨⟩
      exact ⟨stores, 0, holding, rfl, .nil stores⟩
  | cons key rest ih =>
      obtain ⟨fresh, nodup⟩ := List.nodup_cons.mp nodup
      obtain ⟨first, held⟩ := List.forall_mem_cons.mp held
      refine Prog.Ends.bind ((ends_reconcileKey holding apart first).mono ?_)
      rintro (error | repaired) middle ⟨kept, facts⟩
      · refine ⟨kept, ?_⟩
        rintro _ ⟨⟩
      · obtain ⟨between, relation, holding, turn⟩ := facts repaired rfl
        have still : ∀ other ∈ rest, ∀ digest, currentMap.get? other = some digest →
            ∃ entry, (between self.node).get other = some entry := by
          intro other listed digest lists
          rw [turn.frame apart]
          · exact held other listed digest lists
          · rintro rfl
            exact fresh listed
        refine (EndsAmong.refused (ih holding nodup still _)).mono ?_
        rintro result after ⟨⟨kept, facts⟩, later⟩
        refine ⟨kept, fun total made => ?_⟩
        obtain ⟨left, count, kept, is, turns⟩ := facts total made
        refine ⟨left, _, kept, ?_, .cons (turn.mono later) turns⟩
        rw [is]
        cases repaired
        · simp only [Bool.false_eq_true, ↓reduceIte, Nat.zero_add]
        · simp only [↓reduceIte, Nat.add_assoc]

theorem ends_sharedDigest {post : Except PyError (List CrdtDigestEntry) → World → Prop}
    (holds : post (.ok (digests.filter fun digest =>
      environment.Shares self.node target digest.key)) world) :
    EndsAlone environment self post (sharedDigest self.node target digests) world := by
  induction digests generalizing post with
  | nil => exact Prog.ends_pure holds
  | cons digest rest ih =>
      refine ends_perform rfl (Prog.Ends.bind (ih ?_))
      rw [List.filter_cons] at holds
      change EndsAlone _ _ _ (if environment.Shares self.node target digest.key then _ else _) _
      by_cases shared : environment.Shares self.node target digest.key
      · simp only [shared, decide_true, ↓reduceIte] at holds
        rw [if_pos shared]
        exact Prog.ends_pure holds
      · simp only [shared, decide_false, Bool.false_eq_true, ↓reduceIte] at holds
        rw [if_neg shared]
        exact Prog.ends_pure holds

/-- What the target answers to a digest, and the stores of all nodes then. -/
def Environment.answered (environment : Environment) (id target : NodeId) (store : Store)
    (digests : List CrdtDigestEntry) : List CrdtDigestEntry :=
  (environment.digestOf target id (store.refresh digests)).take (max 1 digests.length)

theorem Environment.filter_answered (environment : Environment) (id target : NodeId) (store : Store)
    (digests : List CrdtDigestEntry) :
    ((environment.answered id target store digests).filter fun digest =>
      environment.Shares id target digest.key) = environment.answered id target store digests := by
  refine List.filter_eq_self.mpr fun digest listed => ?_
  obtain ⟨entry, member, rfl⟩ := List.mem_map.mp (List.mem_of_mem_take listed)
  have shared := (List.mem_filter.mp member).2
  exact decide_eq_true (of_decide_eq_true shared).symm

theorem nodup_reconciledKeys (currentMap remoteMap : SortedMap PyStr CrdtDigestEntry)
    (limit : Option Nat) : (reconciledKeys currentMap remoteMap limit).Nodup := by
  unfold reconciledKeys
  cases limit with
  | none => exact SortedMap.nodup_keys _
  | some limit => exact (SortedMap.nodup_keys _).sublist (List.take_sublist _ _)

/-- What a pass over the digests ends with: if nothing has failed, its keys have had their turns,
after the digests were absorbed by the target. -/
def Environment.Passes (environment : Environment) (id target : NodeId)
    (digests : List CrdtDigestEntry) (limit : Option Nat) (stores : NodeId → Store)
    (result : Except PyError ReconcileStats) (after : World) : Prop :=
  (∃ left, after.Holding left) ∧
    ∀ stats, result = .ok stats → stats.failures = 0 → ∃ left, after.Holding left ∧
      Turns id target (digestMap digests)
        (digestMap (environment.answered id target (stores target) digests)) after.Refused
        (reconciledKeys (digestMap digests)
          (digestMap (environment.answered id target (stores target) digests)) limit)
        (Function.update stores target ((stores target).refresh digests)) left stats.repairs

/-- `_reconcile_digest`. -/
theorem ends_reconcileDigest (holding : world.Holding stores) (apart : self.node ≠ target)
    {limit : Option Nat}
    (held : ∀ digest ∈ digests, ∃ entry, (stores self.node).get digest.key = some entry) :
    EndsAmong deployment environment self
      (environment.Passes self.node target digests limit stores)
      (reconcileDigest deployment self.node target digests limit) world := by
  refine Prog.Ends.bind (Prog.Ends.attempt ((ends_exchangeDigest holding target digests).mono ?_))
  rintro (error | received) middle ⟨kept, facts⟩
  · dsimp only
    split
    · refine Prog.ends_pure ⟨kept, ?_⟩
      rintro _ ⟨⟩ ⟨⟩
    · refine Prog.ends_done ⟨kept, ?_⟩
      rintro _ ⟨⟩
  · obtain ⟨refreshed, rfl⟩ := facts received rfl
    refine Prog.Ends.bind (EndsAlone.among (ends_sharedDigest ?_))
    have filtered := environment.filter_answered self.node target (stores target) digests
    unfold Environment.answered at filtered
    rw [filtered]
    have still : ∀ limit, ∀ key ∈ reconciledKeys (digestMap digests)
        (digestMap (environment.answered self.node target (stores target) digests)) limit,
        ∀ digest, (digestMap digests).get? key = some digest → ∃ entry,
          (Function.update stores target ((stores target).refresh digests) self.node).get key =
            some entry := by
      intro limit key _ digest lists
      obtain ⟨listed, rfl⟩ := mem_of_digestMap lists
      rw [Function.update_of_ne apart]
      exact held digest listed
    refine Prog.Ends.bind ((ends_reconcileKeys refreshed apart (nodup_reconciledKeys _ _ limit)
      (still limit) 0).mono ?_)
    rintro (error | total) after ⟨kept, facts⟩
    · refine ⟨kept, ?_⟩
      rintro _ ⟨⟩
    · refine Prog.ends_pure ⟨kept, ?_⟩
      rintro _ ⟨⟩ _
      obtain ⟨left, count, kept, is, turns⟩ := facts total rfl
      rw [Nat.zero_add] at is
      exact ⟨left, kept, is ▸ turns⟩

theorem held_of_digestOf {digest : CrdtDigestEntry}
    (listed : digest ∈ environment.digestOf left right store) :
    ∃ entry, store.get digest.key = some entry ∧ digest = .fromEntry entry ∧
      environment.Shares left right digest.key := by
  obtain ⟨entry, member, rfl⟩ := List.mem_map.mp listed
  obtain ⟨stored, shared⟩ := List.mem_filter.mp member
  exact ⟨entry, Store.mem_snapshotAll.mp stored, rfl, of_decide_eq_true shared⟩

theorem mem_digestOf (shared : environment.Shares left right key)
    (found : store.get key = some entry) :
    .fromEntry entry ∈ environment.digestOf left right store := by
  have keyed := Store.key_of_get found
  refine List.mem_map.mpr ⟨entry, List.mem_filter.mpr ⟨?_, ?_⟩, rfl⟩
  · rw [Store.mem_snapshotAll, keyed, found]
  · rw [keyed]
    exact decide_eq_true shared

/-- `run_once`, for the target that it chooses. -/
theorem ends_runOnce (holding : world.Holding stores) (apart : self.node ≠ environment.target)
    (alive : environment.target ∈ environment.alive)
    (taken : digests = (environment.digestOf self.node environment.target
      (stores self.node)).take deployment.batchSize) :
    EndsAmong deployment environment self
      (environment.Passes self.node environment.target digests (some deployment.batchSize) stores)
      (runOnce deployment self.node) world := by
  subst taken
  have listed : environment.target ∈ environment.alive.filter (· ≠ self.node) :=
    List.mem_filter.mpr ⟨alive, decide_eq_true apart.symm⟩
  refine ends_perform rfl ?_
  dsimp only
  rw [if_neg (List.ne_nil_of_mem listed)]
  have chosen : World.overNetwork deployment environment self
      (.choosePeer (environment.alive.filter (· ≠ self.node))) world =
      some (environment.target, world) := if_pos listed
  refine ends_perform chosen (Prog.Ends.bind (Prog.Ends.bind
    (EndsAlone.among (ends_digestSnapshot holding ?_))))
  refine Prog.ends_pure (ends_reconcileDigest holding apart fun digest listed => ?_)
  obtain ⟨entry, found, _⟩ := held_of_digestOf (List.mem_of_mem_take listed)
  exact ⟨entry, found⟩

end Distsys
