import Distsys.Node.AntiEntropy
import Distsys.Node.Session

/-!
# A node and what surrounds it

One node with all its coroutines. Messages are handed to it and replies arrive in any
order, whatever they say; the node answers into the void. The commit of a durable node is
work of a thread: a coroutine hands it over and waits, the database runs the commits that
were handed over in any order, and a commit whose coroutine was cancelled is run as well.
-/

namespace Distsys

/-- What a coroutine of the node is started for: a message, a call of the store, or work in
the background. `commit` is the part of `mutate` that writes, under the lock of the key and
the staged allocation of the clock. -/
inductive Errand
  | message (correlation : Nat) (request : Request)
  | commit (msg : Proto.CrdtMutationRequest)
  | merge (incoming : StoredCrdtEntry)
  | metadata (key : PyStr) (causalContext : VersionVector)
  | replicator
  | antiEntropy
  | recovery (peers : List NodeId)

namespace Errand

/-- The coroutine; a call of the store returns the entry that it has stored. -/
def code (deployment : Deployment) (id : NodeId) : Errand → Code (Option StoredCrdtEntry)
  | .message correlation request => do
      handleMessage deployment id correlation request
      return none
  | .commit msg => do
      let request ← Prog.ofExcept (mutationRequestFromProto deployment.json msg)
      let mutation ← mutateLocked deployment id request
      return some mutation.after
  | .merge incoming => do
      let merged ← mergeEntry deployment id incoming
      return some merged
  | .metadata key causalContext => mergeMetadata deployment id key causalContext
  | .replicator => do
      workerTurn deployment
      return none
  | .antiEntropy => do
      let _ ← runOnce deployment id
      return none
  | .recovery peers => do
      let _ ← reconcile deployment id peers
      return none

/-- The merges of the store, whose tasks may be cancelled. They let every exception pass. -/
def cancellable : Errand → Bool
  | .merge _ | .metadata _ _ => true
  | _ => false

end Errand

/-- A coroutine with what it was started for. -/
structure NodeTask where
  errand : Errand
  code : Code (Option StoredCrdtEntry)

/-- A commit that was handed to a thread. `owner` is the coroutine that waits for it, and
`outcome` what the database made of it. -/
structure CommitJob where
  owner : Option Nat
  entry : StoredCrdtEntry
  state : DurableCausalState
  commit : Option Mutation
  outcome : Option (Except PyError Unit) := none

/-- `answers` are the replies of the node, and `effects` the commits that the database has
run, in its order. -/
structure NodeSystem where
  world : World
  tasks : List NodeTask := []
  jobs : List CommitJob := []
  answers : List Delivery := []
  effects : List Nat := []

/-- The steps of a node. -/
inductive NodeLabel
  | start (errand : Errand)
  | arrive (delivery : Delivery)
  | run (index : Nat) (choice : Choice)
  | launch (index : Nat)
  | finish (number : Nat) (failure : Option PyError)
  | resume (index number : Nat)
  | cancel (index number : Nat)

namespace NodeSystem

variable (deployment : Deployment) (id : NodeId)

/-- Nothing has been started. -/
def initial : NodeSystem := ⟨deployment.initialWorld, [], [], [], []⟩

/-- The next operation of a coroutine. -/
def next? (system : NodeSystem) (index : Nat) : Option Op :=
  match system.tasks[index]? with
  | some ⟨_, .act op _⟩ => some op
  | _ => none

/-- An operation of a coroutine that is not a commit. A reply leaves the node. -/
def perform (system : NodeSystem) (self : Thread) (op : Op) (choice : Choice) :
    Option (op.Answer × NodeSystem) :=
  match op with
  | .commitRows .. => none
  | .reply correlation reply =>
      some ((), { system with answers := system.answers ++ [⟨correlation, reply⟩] })
  | op =>
      match system.world.exec self op choice with
      | some (answer, world) => some (answer, { system with world })
      | none => none

/-- Whether the coroutine waits for a commit. -/
def waits (system : NodeSystem) (index : Nat) : Bool :=
  system.jobs.any fun job => job.owner = some index

/-- Hand the commit of a coroutine to a thread. -/
def launch (system : NodeSystem) (index : Nat) : Option NodeSystem :=
  match system.tasks[index]? with
  | some ⟨_, .act (.commitRows entry state commit) _⟩ =>
      if system.waits index then none
      else some { system with jobs := system.jobs ++ [⟨some index, entry, state, commit, none⟩] }
  | _ => none

/-- The database runs a commit, or rejects it. -/
def finish (system : NodeSystem) (number : Nat) (failure : Option PyError) : Option NodeSystem :=
  match system.jobs[number]? with
  | some job =>
      if job.outcome.isSome then none
      else match failure with
        | some error =>
            some { system with
              jobs := system.jobs.set number { job with outcome := some (.error error) } }
        | none =>
            some { system with
              world := (system.world.record id job.commit).atNode id
                (·.commitRows job.entry job.state)
              jobs := system.jobs.set number { job with outcome := some (.ok ()) }
              effects := system.effects ++ [number] }
  | none => none

/-- The coroutine that waits for a commit goes on with a result, and waits no more. -/
def leave (system : NodeSystem) (index number : Nat)
    (result : CommitJob → Option (Except PyError Unit)) :
    Option NodeSystem :=
  match system.tasks[index]?, system.jobs[number]? with
  | some ⟨errand, .act (.commitRows _ _ _) next⟩, some job =>
      if job.owner = some index then
        match result job with
        | some outcome =>
            some { system with
              tasks := system.tasks.set index ⟨errand, next outcome⟩
              jobs := system.jobs.set number { job with owner := none } }
        | none => none
      else none
  | _, _ => none

/-- What a cancelled merge raises. -/
def cancelled : PyError := ⟨.runtimeError, "CancelledError"⟩

/-- One step, if it can take place. -/
def step (system : NodeSystem) : NodeLabel → Option NodeSystem
  | .start errand =>
      some { system with tasks := system.tasks ++ [⟨errand, errand.code deployment id⟩] }
  | .arrive delivery =>
      some { system with world := { system.world with
        replies := system.world.replies ++ [delivery] } }
  | .run index choice =>
      match system.tasks[index]? with
      | some ⟨errand, .act op next⟩ =>
          match system.perform ⟨id, index⟩ op choice with
          | some (answer, after) =>
              some { after with tasks := after.tasks.set index ⟨errand, next answer⟩ }
          | none => none
      | _ => none
  | .launch index => system.launch index
  | .finish number failure => system.finish id number failure
  | .resume index number => system.leave index number (·.outcome)
  | .cancel index number =>
      if (system.tasks[index]?.any (·.errand.cancellable)) then
        system.leave index number fun _ => some (.error cancelled)
      else none

end NodeSystem

/-- A run whose steps all meet a condition. -/
inductive NodeRun (deployment : Deployment) (id : NodeId)
    (Meets : NodeSystem → NodeLabel → Prop) : NodeSystem → NodeSystem → Prop
  | refl (system : NodeSystem) : NodeRun deployment id Meets system system
  | step {first second third : NodeSystem} (label : NodeLabel)
      (run : NodeRun deployment id Meets first second) (meets : Meets second label)
      (stepped : second.step deployment id label = some third) :
      NodeRun deployment id Meets first third

theorem NodeRun.mono {deployment : Deployment} {id : NodeId}
    {Meets Other : NodeSystem → NodeLabel → Prop} {first last : NodeSystem}
    (run : NodeRun deployment id Meets first last)
    (weaker : ∀ system label, Meets system label → Other system label) :
    NodeRun deployment id Other first last := by
  induction run with
  | refl => exact .refl _
  | step label _ meets stepped ih => exact .step label ih (weaker _ _ meets) stepped

/-- Take the steps of a list, which all have to meet the condition. -/
def NodeSystem.run (deployment : Deployment) (id : NodeId) (meets : NodeSystem → NodeLabel → Bool)
    (system : NodeSystem) : List NodeLabel → Option NodeSystem
  | [] => some system
  | label :: rest =>
      if meets system label = true then
        match system.step deployment id label with
        | some next => next.run deployment id meets rest
        | none => none
      else none

theorem NodeRun.run {deployment : Deployment} {id : NodeId} {meets : NodeSystem → NodeLabel → Bool}
    {first system last : NodeSystem}
    (before : NodeRun deployment id (fun system label => meets system label = true) first system)
    {labels : List NodeLabel} (result : system.run deployment id meets labels = some last) :
    NodeRun deployment id (fun system label => meets system label = true) first last := by
  induction labels generalizing system with
  | nil =>
      cases result
      exact before
  | cons label rest ih =>
      unfold NodeSystem.run at result
      split at result
      · next met =>
        cases stepped : system.step deployment id label with
        | none =>
            rw [stepped] at result
            cases result
        | some next =>
            rw [stepped] at result
            exact ih (.step label before met stepped) result
      · cases result

/-- A run that can be evaluated. -/
theorem NodeRun.exists_of_run (deployment : Deployment) (id : NodeId)
    (meets : NodeSystem → NodeLabel → Bool) (labels : List NodeLabel) (check : NodeSystem → Bool)
    (checked : ((NodeSystem.initial deployment).run deployment id meets labels).any check = true) :
    ∃ system, NodeRun deployment id (fun system label => meets system label = true)
      (.initial deployment) system ∧ check system = true := by
  cases result : (NodeSystem.initial deployment).run deployment id meets labels with
  | none =>
      rw [result] at checked
      cases checked
  | some system =>
      rw [result] at checked
      exact ⟨system, .run (.refl _) result, checked⟩

end Distsys
