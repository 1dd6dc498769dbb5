import Distsys.Cluster.Preservation

/-!
# Safe operations

For the operations under a lock there is a rule each: from what must hold when it is performed,
and from the safety of what follows, the safety of the program that starts with it. `Yields` is
the judgement for the coroutines that hold no lock.
-/

namespace Distsys

variable {deployment : Deployment} {discipline : Discipline} {thread : Thread} {α β : Type}
  {good : α → World → Prop} {bad : PyError → World → Prop} {world : World} {after : World}
  {next : Unit → Code α} {key : PyStr} {correlation : Nat} {envelope : Envelope}
  {reservation : OutboxReservation} {item : PendingReplication}

/-- The safety of a coroutine of the cluster. -/
abbrev SafeCode (deployment : Deployment) (discipline : Discipline) (thread : Thread)
    (good : α → World → Prop) (bad : PyError → World → Prop) (code : Code α) (world : World) :
    Prop :=
  Prog.Safe (clusterRules deployment discipline) thread good bad code world

theorem World.Confined.guarantee {before : World}
    (confined : World.Confined deployment thread before after)
    (inv : World.Inv deployment discipline after) :
    (clusterRules deployment discipline).Guarantee thread before after :=
  ⟨inv, confined.progress, fun _ differs => confined.rely differs⟩

theorem safe_perform {op : Op} {next : op.Answer → Code α}
    (steps : ∀ now, World.Inv deployment discipline now → World.Rely deployment thread world now →
      discipline.Allows now op → ∀ choice answer after,
        now.exec thread op choice = some (answer, after) →
        (clusterRules deployment discipline).Guarantee thread now after ∧
          SafeCode deployment discipline thread good bad (next answer) after) :
    SafeCode deployment discipline thread good bad (perform op >>= next) world :=
  fun now inv rely answer after executed =>
    let ⟨allows, choice, result⟩ := executed
    steps now inv rely allows choice answer after result

/-- The operations that leave the world as it is. -/
def Op.Asks : Op → Prop
  | .get _ | .keys | .snapshotAll | .readFrontier | .replicas _ | .alivePeers | .choosePeer _
  | .remaining | .markAuthority .. | .receive _ | .vouch .. => True
  | _ => False

theorem World.exec_of_asks (op : Op) (asks : op.Asks) {now : World} {choice : Choice}
    {answer : op.Answer} (result : now.exec thread op choice = some (answer, after)) :
    after = now := by
  cases op with
  | get | keys | snapshotAll | readFrontier | vouch =>
      cases result
      rfl
  | replicas | alivePeers | remaining | markAuthority =>
      cases choice <;> cases result <;> rfl
  | choosePeer peers =>
      cases choice with
      | node id =>
          unfold World.exec at result
          simp only at result
          split at result
          · cases result
            rfl
          · cases result
      | nothing | nodes | millis | failure | delivery => cases result
  | receive correlation =>
      cases choice with
      | failure error =>
          cases result
          rfl
      | delivery index =>
          unfold World.exec at result
          simp only at result
          split at result
          · cases result
          · split at result
            · cases result
              rfl
            · cases result
      | nothing | nodes | node | millis => cases result
  | _ => exact absurd asks id

theorem safe_asking (op : Op) (asks : op.Asks) {next : op.Answer → Code α}
    (continues : ∀ now, World.Inv deployment discipline now →
      World.Rely deployment thread world now → discipline.Allows now op → ∀ choice answer,
        now.exec thread op choice = some (answer, now) →
        SafeCode deployment discipline thread good bad (next answer) now) :
    SafeCode deployment discipline thread good bad (perform op >>= next) world := by
  refine safe_perform fun now inv rely allows choice answer after result => ?_
  cases World.exec_of_asks op asks result
  exact ⟨(World.Confined.refl now).guarantee inv,
    continues now inv rely allows choice answer result⟩

theorem safe_get {next : Option StoredCrdtEntry → Code α}
    (continues : ∀ now, World.Inv deployment discipline now →
      World.Rely deployment thread world now →
      SafeCode deployment discipline thread good bad
        (next ((now.nodes thread.node).store.get key)) now) :
    SafeCode deployment discipline thread good bad (perform (.get key) >>= next) world := by
  refine safe_asking (.get key) trivial fun now inv rely _ _ answer result => ?_
  cases result
  exact continues now inv rely

theorem safe_readFrontier {next : VersionVector → Code α}
    (continues : ∀ now, World.Inv deployment discipline now →
      World.Rely deployment thread world now →
      SafeCode deployment discipline thread good bad (next (now.nodes thread.node).frontier) now) :
    SafeCode deployment discipline thread good bad (perform .readFrontier >>= next) world := by
  refine safe_asking .readFrontier trivial fun now inv rely _ _ answer result => ?_
  cases result
  exact continues now inv rely

/-- A node that vouches for a key meets the condition on the run. -/
theorem safe_vouch {version frontier : VersionVector}
    (continues : ∀ now, World.Inv deployment discipline now →
      World.Rely deployment thread world now → now.past.Backs discipline key version frontier →
      SafeCode deployment discipline thread good bad (next ()) now) :
    SafeCode deployment discipline thread good bad
      (perform (.vouch key version frontier) >>= next) world :=
  safe_asking (.vouch key version frontier) trivial fun now inv rely allows _ _ _ =>
    continues now inv rely fun _ backed => allows.1 backed (key, version, frontier) rfl

theorem safe_abort {dot : Dot}
    (steps : ∀ now, World.Inv deployment discipline now → World.Rely deployment thread world now →
      (now.past.honest = true → dot.counter = now.past.history.count dot.actor + 1) ∧
        ∀ after, after.nodes = now.nodes → after.past = now.past →
          after.ledger.unclocked = now.ledger.unclocked →
          SafeCode deployment discipline thread good bad (next ()) after) :
    SafeCode deployment discipline thread good bad (perform (.abort dot) >>= next) world := by
  refine safe_perform fun now inv rely _ choice answer after result => ?_
  obtain ⟨counter, continues⟩ := steps now inv rely
  cases result
  have confined : World.Confined deployment thread now { now with ledger := { now.ledger with
      aborted := now.ledger.aborted ++ [⟨dot, now.ledger.history⟩] } } :=
    World.confined_of_nodes rfl rfl rfl List.prefix_rfl
  exact ⟨confined.guarantee (inv.abort counter), continues _ rfl rfl rfl⟩

section Yields

variable {returns : α → World → Prop} {code : Code α}

/-- The coroutine is safe, and what it returns has the property from then on. -/
structure Yields (deployment : Deployment) (discipline : Discipline) (thread : Thread)
    (returns : α → World → Prop) (code : Code α) (world : World) : Prop where
  safe : World.Inv deployment discipline world → SafeCode deployment discipline thread
    (fun value now => ∀ later, World.Progress thread.node now later → returns value later)
    (fun _ _ => True) code world

/-- The coroutine is safe, whatever it returns. -/
abbrev Harmless (deployment : Deployment) (discipline : Discipline) (thread : Thread)
    (code : Code α) (world : World) : Prop :=
  Yields deployment discipline thread (fun _ _ => True) code world

theorem yields_of_inv (given : World.Inv deployment discipline world →
      Yields deployment discipline thread returns code world) :
    Yields deployment discipline thread returns code world :=
  ⟨fun inv => (given inv).safe inv⟩

theorem yields_of_safe (safe : SafeCode deployment discipline thread good bad code world)
    (lasts : ∀ value now later, World.Progress thread.node now later → good value now →
      good value later) : Yields deployment discipline thread good code world :=
  ⟨fun _ => safe.weaken (fun value now _ _ holds later moved => lasts value now later moved holds)
    fun _ _ _ _ _ => trivial⟩

theorem yields_pure {value : α}
    (holds : ∀ later, World.Progress thread.node world later → returns value later) :
    Yields deployment discipline thread returns (pure value) world :=
  ⟨fun _ _ _ rely last moved => holds last (rely.progress.trans moved)⟩

theorem harmless_pure (value : α) : Harmless deployment discipline thread (pure value) world :=
  yields_pure fun _ _ => trivial

theorem yields_throw (error : PyError) :
    Yields deployment discipline thread returns (throw error) world := ⟨fun _ _ _ _ => trivial⟩

theorem yields_compute {result : Except PyError β} {next : β → Code α}
    (continues : ∀ value, result = .ok value →
      Yields deployment discipline thread returns (next value) world) :
    Yields deployment discipline thread returns (Prog.ofExcept result >>= next) world := by
  cases result with
  | ok value => exact continues value rfl
  | error error => exact yields_throw error

theorem Yields.mono {weaker : α → World → Prop}
    (yields : Yields deployment discipline thread returns code world)
    (weaken : ∀ value later, World.Progress thread.node world later → returns value later →
      weaker value later) : Yields deployment discipline thread weaker code world :=
  ⟨fun inv => (yields.safe inv).weaken (fun value _ _ reached holds later moved =>
    weaken value later (reached.trans moved) (holds later moved)) fun _ _ _ _ => id⟩

theorem Yields.bind {final : β → World → Prop} {next : α → Code β}
    (first : Yields deployment discipline thread returns code world)
    (second : ∀ value later, World.Progress thread.node world later → returns value later →
      Yields deployment discipline thread final (next value) later) :
    Yields deployment discipline thread final (code >>= next) world :=
  ⟨fun inv => Prog.Safe.bind (first.safe inv) inv (fun value later invLater moved holds =>
    (second value later moved (holds later (.refl _ _))).safe invLater) fun _ _ _ _ => id⟩

theorem Yields.attempt (body : Yields deployment discipline thread returns code world) :
    Yields deployment discipline thread
      (fun result later => ∀ value, result = .ok value → returns value later)
      code.attempt world := by
  refine ⟨fun inv => (body.safe inv).attempt.weaken ?_ fun _ _ _ _ => id⟩
  rintro (error | value) now _ _ holds later moved _ ⟨⟩
  exact holds later moved

theorem Yields.catching {handler : PyError → Code α}
    (body : Yields deployment discipline thread returns code world)
    (handles : ∀ error later, World.Progress thread.node world later →
      Yields deployment discipline thread returns (handler error) later) :
    Yields deployment discipline thread returns (code.catching handler) world :=
  ⟨fun inv => (body.safe inv).catching inv fun error later invLater moved _ =>
    (handles error later moved).safe invLater⟩

theorem yields_perform (op : Op) {returns : op.Answer → World → Prop}
    (steps : ∀ now, World.Inv deployment discipline now → World.Progress thread.node world now →
      ∀ choice answer after, now.exec thread op choice = some (answer, after) →
        World.Confined deployment thread now after ∧ World.Inv deployment discipline after ∧
          ∀ later, World.Progress thread.node after later → returns answer later) :
    Yields deployment discipline thread returns (perform op) world := by
  refine ⟨fun _ now inv rely answer after ⟨_, choice, result⟩ => ?_⟩
  obtain ⟨confined, reached, holds⟩ := steps now inv rely.progress choice answer after result
  exact ⟨confined.guarantee reached, fun _ _ further last moved =>
    holds last (further.progress.trans moved)⟩

/-- What is only asked, with nothing known of the answer. -/
theorem yields_ask (op : Op) (asks : op.Asks) :
    Harmless deployment discipline thread (perform op) world := by
  refine yields_perform op fun now inv _ choice answer after result => ?_
  cases World.exec_of_asks op asks result
  exact ⟨.refl now, inv, fun _ _ => trivial⟩

theorem yields_get {next : Option StoredCrdtEntry → Code α}
    (continues : ∀ now, World.Inv deployment discipline now → World.Progress thread.node world now →
      Yields deployment discipline thread returns
        (next ((now.nodes thread.node).store.get key)) now) :
    Yields deployment discipline thread returns (perform (.get key) >>= next) world :=
  ⟨fun _ => safe_get fun now inv rely => (continues now inv rely.progress).safe inv⟩

theorem yields_snapshotAll :
    Yields deployment discipline thread
      (fun (entries : List StoredCrdtEntry) later => ∀ entry ∈ entries, ∃ now,
        World.Inv deployment discipline now ∧
        World.Progress thread.node now later ∧
        (now.nodes thread.node).store.get entry.key = some entry)
      (perform .snapshotAll) world := by
  refine yields_perform .snapshotAll fun now inv _ choice answer after result => ?_
  cases result
  refine ⟨.refl now, inv, fun later moved entry listed => ⟨now, inv, moved, ?_⟩⟩
  exact Store.mem_snapshotAll.mp listed

theorem yields_vouch {version frontier : VersionVector}
    (continues : ∀ now, World.Progress thread.node world now →
      now.past.Backs discipline key version frontier →
      Yields deployment discipline thread returns (next ()) now) :
    Yields deployment discipline thread returns
      (perform (.vouch key version frontier) >>= next) world :=
  ⟨fun _ => safe_vouch fun now inv rely backs => (continues now rely.progress backs).safe inv⟩

/-- A reply that arrives is sound for the request with its correlation identifier. -/
theorem yields_receive (sent : world.requests[correlation]? = some envelope) :
    Yields deployment discipline thread
      (fun (outcome : Except PyError Reply) later => ∀ reply, outcome = .ok reply →
        reply.Sound deployment.json discipline later.past envelope.request)
      (perform (.receive correlation)) world := by
  refine yields_perform (.receive correlation) fun now inv moved choice outcome after result => ?_
  cases World.exec_of_asks (.receive correlation) trivial result
  refine ⟨.refl now, inv, fun later further reply arrived => ?_⟩
  cases arrived
  cases choice with
  | failure error => cases result
  | nothing | nodes | node | millis => cases result
  | delivery index =>
      unfold World.exec at result
      simp only at result
      split at result
      · cases result
      · next delivery rest found =>
        split at result
        · next same =>
          cases result
          have listed : delivery ∈ now.replies :=
            List.mem_of_mem_drop (found ▸ List.mem_cons_self)
          obtain ⟨original, posted, sound⟩ := inv.replies delivery listed
          rw [same, moved.sent sent] at posted
          cases posted
          exact sound.grows further.past
        · cases result

/-- An operation that changes the outbox, with sound snapshots only. -/
theorem yields_outbox (op : Op) {returns : op.Answer → World → Prop}
    (changes : ∀ now choice answer after, World.Inv deployment discipline now →
      World.Progress thread.node world now → now.exec thread op choice = some (answer, after) →
      ∃ outbox, after = now.atNode thread.node ({ · with outbox }) ∧
        (∀ entry, outbox.Holds entry → (now.nodes thread.node).outbox.Holds entry ∨
          entry.Sound deployment.json discipline now.past) ∧
        ∀ later, World.Progress thread.node now later → returns answer later) :
    Yields deployment discipline thread returns (perform op) world := by
  refine yields_perform op fun now inv moved choice answer after result => ?_
  obtain ⟨outbox, rfl, sound, holds⟩ := changes now choice answer after inv moved result
  have confined : World.Confined deployment thread now
      (now.atNode thread.node ({ · with outbox })) := World.confined_setOutbox
  exact ⟨confined, inv.setOutbox sound, fun later further =>
    holds later (confined.progress.trans further)⟩

theorem yields_reserve {pairs : List Pair} :
    Harmless deployment discipline thread (perform (.reserve pairs)) world := by
  refine yields_outbox (.reserve pairs) fun now choice answer after _ _ result => ?_
  simp only [World.exec] at result
  split at result
  · cases result
    refine ⟨(now.nodes thread.node).outbox, ?_, fun _ => .inl, fun _ _ => trivial⟩
    exact (congrArg (fun nodes => { now with nodes }) (Function.update_eq_self _ _)).symm
  · next reserved =>
    cases result
    exact ⟨_, rfl, fun entry held => .inl (Outbox.keeps_reserve reserved entry held),
      fun _ _ => trivial⟩

theorem yields_cancel :
    Harmless deployment discipline thread (perform (.cancel reservation)) world := by
  refine yields_outbox (.cancel reservation) fun now choice answer after _ _ result => ?_
  cases result
  exact ⟨_, rfl, fun entry held => .inl (Outbox.keeps_cancel _ _ entry held), fun _ _ => trivial⟩

theorem yields_publish {entry : StoredCrdtEntry}
    (sound : entry.Sound deployment.json discipline world.past) :
    Harmless deployment discipline thread
      (perform (.publish reservation entry)) world := by
  refine yields_outbox (.publish reservation entry) fun now choice answer after _ moved result => ?_
  cases result
  refine ⟨_, rfl, fun found held => ?_, fun _ _ => trivial⟩
  rcases Outbox.holds_publish held with ⟨key, published⟩ | old
  · cases List.mem_singleton.mp (SortedMap.mem_of_get?_ofList published)
    exact .inr (sound.grows moved.past)
  · exact .inl old

theorem yields_nextReady :
    Yields deployment discipline thread
      (fun (ready : Option PendingReplication) later => ∀ item, ready = some item →
        item.state.Sound deployment.json discipline later.past) (perform .nextReady) world := by
  refine yields_outbox .nextReady fun now choice answer after inv _ result => ?_
  simp only [World.exec] at result
  split at result
  · cases result
  · next turn =>
    cases result
    obtain ⟨keeps, held⟩ := Outbox.holds_nextReady turn
    refine ⟨_, rfl, fun entry found => .inl (keeps entry found), fun later moved item is => ?_⟩
    exact ((inv.nodes thread.node).outbox item.state (held item is)).grows moved.past

theorem yields_complete :
    Harmless deployment discipline thread (perform (.complete item)) world := by
  refine yields_outbox (.complete item) fun now choice answer after _ _ result => ?_
  cases result
  exact ⟨_, rfl, fun entry held => .inl (Outbox.keeps_resolve _ _ _ _ entry held),
    fun _ _ => trivial⟩

theorem yields_abandon :
    Harmless deployment discipline thread (perform (.abandon item)) world := by
  refine yields_outbox (.abandon item) fun now choice answer after _ _ result => ?_
  cases result
  exact ⟨_, rfl, fun entry held => .inl (Outbox.keeps_resolve _ _ _ _ entry held),
    fun _ _ => trivial⟩

theorem yields_send {target : NodeId} (request : Request)
    (sound : request.Sound deployment.json discipline world.past) :
    Yields deployment discipline thread
      (fun (correlation : Nat) later => later.requests[correlation]? = some ⟨target, request⟩)
      (perform (.send target request)) world := by
  refine yields_perform (.send target request) fun now inv moved choice answer after result => ?_
  cases result
  refine ⟨World.confined_of_nodes rfl rfl rfl (List.prefix_append _ _),
    inv.send target (sound.grows moved.past), fun later further => further.sent ?_⟩
  exact List.getElem?_concat_length

theorem yields_reply {reply : Reply} (sent : world.requests[correlation]? = some envelope)
    (sound : reply.Sound deployment.json discipline world.past envelope.request) :
    Harmless deployment discipline thread
      (perform (.reply correlation reply)) world := by
  refine yields_perform (.reply correlation reply)
    fun now inv moved choice answer after result => ?_
  cases result
  exact ⟨World.confined_of_nodes rfl rfl rfl List.prefix_rfl,
    inv.reply (moved.sent sent) (sound.grows moved.past), fun _ _ => trivial⟩

theorem yields_serve {served : Served} (sound : served.Sound deployment discipline world.past) :
    Harmless deployment discipline thread (perform (.serve served)) world := by
  refine yields_perform (.serve served) fun now inv moved choice answer after result => ?_
  cases result
  exact ⟨World.confined_of_nodes rfl rfl rfl List.prefix_rfl,
    inv.serve (sound.grows moved.past), fun _ _ => trivial⟩

theorem yields_acknowledge {item : Acknowledged}
    (sound : ∀ now, World.Progress thread.node world now → deployment.durable item.node = true →
      item.counter ≤ (now.nodes item.node).repository.frontier.get (deployment.actor item.node) ∧
        ∃ mutation ∈ now.past.history, mutation.actor = deployment.actor item.node ∧
          mutation.key = item.key ∧ mutation.dot = item.dot) :
    Harmless deployment discipline thread (perform (.acknowledge item)) world := by
  refine yields_perform (.acknowledge item) fun now inv moved choice answer after result => ?_
  cases result
  exact ⟨World.confined_of_nodes rfl rfl rfl List.prefix_rfl,
    inv.acknowledge (sound now moved), fun _ _ => trivial⟩

end Yields

end Distsys
