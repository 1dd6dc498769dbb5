import Mathlib.Logic.Function.Basic

/-!
# Replicas that exchange their states

Replicas of one object apply operations, and send each other copies of their states, which
are merged when they arrive. Messages may be lost, duplicated and delayed. A copy keeps
what has reached it beside its state: operations, each with the state in which it was
applied. The identifiers that operations use are globally fresh.
-/

/-- An object with operations and a merge. Some operations use an identifier. -/
structure ReplicatedObject (Op Id State ε : Type) where
  empty : State
  apply : Op → State → State
  merge : State → State → Except ε State
  identifier : Op → Option Id

/-- An operation, and the state in which it was applied. -/
structure Occurrence (Op State : Type) where
  op : Op
  seen : State

/-- A state, and what has reached it. -/
structure Copy (Op State : Type) where
  state : State
  heard : List (Occurrence Op State)

/-- The replicas, the copies that were sent, and all that has happened, the latest first. -/
structure Replicas (ι Op State : Type) where
  copies : ι → Copy Op State
  messages : List (Copy Op State) := []
  history : List (Occurrence Op State) := []

section

variable {ι Op Id State ε : Type}

/-- The identifier that the operation uses was not used before. -/
def ReplicatedObject.Fresh (object : ReplicatedObject Op Id State ε)
    (history : List (Occurrence Op State)) (op : Op) : Prop :=
  ∀ identifier, object.identifier op = some identifier →
    ∀ occurrence ∈ history, object.identifier occurrence.op ≠ some identifier

/-- The copy after an operation. -/
def Copy.apply (object : ReplicatedObject Op Id State ε) (copy : Copy Op State) (op : Op) :
    Copy Op State :=
  ⟨object.apply op copy.state, ⟨op, copy.state⟩ :: copy.heard⟩

/-- The states that the replicas reach. A merge that fails changes nothing. -/
inductive Replicated [DecidableEq ι] (object : ReplicatedObject Op Id State ε) :
    Replicas ι Op State → Prop
  | initial : Replicated object ⟨fun _ => ⟨object.empty, []⟩, [], []⟩
  | apply {system : Replicas ι Op State} (replica : ι) (op : Op)
      (reached : Replicated object system) (fresh : object.Fresh system.history op) :
      Replicated object ⟨Function.update system.copies replica
        ((system.copies replica).apply object op),
        system.messages, ⟨op, (system.copies replica).state⟩ :: system.history⟩
  | send {system : Replicas ι Op State} (replica : ι) (reached : Replicated object system) :
      Replicated object { system with messages := system.copies replica :: system.messages }
  | receive {system : Replicas ι Op State} (replica : ι) {message : Copy Op State} {state : State}
      (reached : Replicated object system) (sent : message ∈ system.messages)
      (merged : object.merge (system.copies replica).state message.state = .ok state) :
      Replicated object ⟨Function.update system.copies replica
        ⟨state, message.heard ++ (system.copies replica).heard⟩, system.messages, system.history⟩

/-- The copy belongs to a replica, or was sent. -/
def Replicas.Has (system : Replicas ι Op State) (copy : Copy Op State) : Prop :=
  (∃ replica, system.copies replica = copy) ∨ copy ∈ system.messages

theorem Replicas.has_copies (system : Replicas ι Op State) (replica : ι) :
    system.Has (system.copies replica) := .inl ⟨replica, rfl⟩

/-- A copy after one replica has changed. -/
theorem Replicas.has_update [DecidableEq ι] {system : Replicas ι Op State} {replica : ι}
    {changed copy : Copy Op State} {history : List (Occurrence Op State)}
    (has : Replicas.Has ⟨Function.update system.copies replica changed, system.messages, history⟩
      copy) : copy = changed ∨ system.Has copy := by
  rcases has with ⟨other, rfl⟩ | sent
  · by_cases same : other = replica
    · subst same
      exact .inl (Function.update_self ..)
    · exact .inr (.inl ⟨other, (Function.update_of_ne same ..).symm⟩)
  · exact .inr (.inr sent)

/-- What holds of the history and of every copy: it is enough that operations and merges keep
it, and that it does not matter what happens elsewhere. -/
theorem Replicated.invariant [DecidableEq ι] {object : ReplicatedObject Op Id State ε}
    {system : Replicas ι Op State} (Events : List (Occurrence Op State) → Prop)
    (Good : List (Occurrence Op State) → Copy Op State → Prop)
    (reached : Replicated object system) (first : Events [] ∧ Good [] ⟨object.empty, []⟩)
    (later : ∀ {history copy occurrence}, Good history copy → Good (occurrence :: history) copy)
    (apply : ∀ {history copy op}, Events history → Good history copy → object.Fresh history op →
      Events (⟨op, copy.state⟩ :: history) ∧
        Good (⟨op, copy.state⟩ :: history) (copy.apply object op))
    (merge : ∀ {history left right state}, Events history → Good history left →
      Good history right → object.merge left.state right.state = .ok state →
      Good history ⟨state, right.heard ++ left.heard⟩) :
    Events system.history ∧ ∀ copy, system.Has copy → Good system.history copy := by
  induction reached with
  | initial =>
      refine ⟨first.1, ?_⟩
      rintro copy (⟨replica, rfl⟩ | sent)
      · exact first.2
      · cases sent
  | @apply system replica op reached fresh ih =>
      obtain ⟨events, good⟩ := ih
      obtain ⟨next, changed⟩ := apply events (good _ (system.has_copies replica)) fresh
      refine ⟨next, fun copy has => ?_⟩
      rcases Replicas.has_update has with rfl | has
      · exact changed
      · exact later (good copy has)
  | @send system replica reached ih =>
      refine ⟨ih.1, fun copy has => ih.2 copy ?_⟩
      rcases has with replica | sent
      · exact .inl replica
      · rcases List.mem_cons.mp sent with rfl | sent
        · exact system.has_copies replica
        · exact .inr sent
  | @receive system replica message state reached sent merged ih =>
      obtain ⟨events, good⟩ := ih
      refine ⟨events, fun copy has => ?_⟩
      rcases Replicas.has_update has with rfl | has
      · exact merge events (good _ (system.has_copies replica)) (good _ (.inr sent)) merged
      · exact good copy has

/-- Among the occurrences that have reached a copy there is a latest one. -/
theorem exists_latest {history heard : List (Occurrence Op State)}
    (Precedes : Occurrence Op State → Occurrence Op State → Prop)
    (ordered : history.Pairwise fun later earlier => Precedes earlier later)
    (known : ∀ occurrence ∈ heard, occurrence ∈ history) (some : heard ≠ []) :
    ∃ latest ∈ heard, ∀ other ∈ heard, other ≠ latest → Precedes other latest := by
  induction history with
  | nil =>
      obtain ⟨occurrence, listed⟩ := List.exists_mem_of_ne_nil heard some
      cases known occurrence listed
  | cons head rest ih =>
      obtain ⟨first, tail⟩ := List.pairwise_cons.mp ordered
      by_cases reached : head ∈ heard
      · refine ⟨head, reached, fun other listed differs => first other ?_⟩
        exact (List.mem_cons.mp (known other listed)).resolve_left differs
      · refine ih tail fun occurrence listed => ?_
        rcases List.mem_cons.mp (known occurrence listed) with rfl | earlier
        · exact absurd listed reached
        · exact earlier

end
