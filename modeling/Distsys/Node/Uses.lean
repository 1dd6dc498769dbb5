import Distsys.Node.Grounds
import Distsys.Node.System

/-!
# The operations that coroutines use

What the clock and the stores do, operation by operation. A merge of the store commits no
mutation.
-/

namespace Distsys

/-- The coroutine commits no mutation. -/
abbrev Silent {α : Type} (code : Code α) : Prop :=
  Prog.Uses (fun op : Op => op.commit = none) code

variable {α : Type} {deployment : Deployment} {id : NodeId} {allowed : Op → Prop}

theorem uses_perform {op : Op} (admitted : allowed op) : Prog.Uses allowed (perform op) :=
  ⟨admitted, fun _ => trivial⟩

section Clock

/-- The operations on the clock. -/
def Op.ofClock : Op → Bool
  | .acquireClock | .releaseClock | .readFrontier | .setFrontier _ => true
  | _ => false

variable (clocked : ∀ op : Op, op.ofClock = true → allowed op)

include clocked

theorem uses_withClock {body : Code α} (inside : Prog.Uses allowed body) :
    Prog.Uses allowed (withClock body) :=
  (uses_perform (clocked _ rfl)).bind fun _ => inside.attempt.bind fun result =>
    (uses_perform (clocked _ rfl)).bind fun _ => Prog.uses_ofExcept result

/-- The end of a body that may advance the clock. -/
theorem uses_settle (value : α) (committed : Bool) (frontier : VersionVector) :
    Prog.Uses allowed (show Code α from do
      if committed then perform (.setFrontier frontier)
      return value) := by
  cases committed with
  | true => exact (uses_perform (clocked _ rfl)).bind fun _ => Prog.uses_pure value
  | false => exact Prog.uses_pure value

theorem uses_stagedObserve {version : VersionVector} {body : VersionVector → Code (α × Bool)}
    (inside : ∀ frontier, Prog.Uses allowed (body frontier)) :
    Prog.Uses allowed (CausalClock.stagedObserve version body) :=
  uses_withClock clocked ((uses_perform (clocked _ rfl)).bind fun _ => (inside _).bind fun result =>
    uses_settle clocked result.1 result.2 _)

theorem uses_observe (version : VersionVector) :
    Prog.Uses allowed (CausalClock.observe version) :=
  uses_stagedObserve clocked fun _ => Prog.uses_pure _

theorem uses_frontier : Prog.Uses allowed CausalClock.frontier :=
  uses_withClock clocked (uses_perform (clocked _ rfl))

theorem uses_errorResponse (code : ErrorCode) (message : String) :
    Prog.Uses allowed (errorResponse id code message) :=
  (uses_frontier clocked).bind fun _ => Prog.uses_pure _

theorem uses_successResponse (entry : StoredCrdtEntry) (repairPerformed includeState : Bool) :
    Prog.Uses allowed (successResponse deployment id entry repairPerformed includeState) :=
  (uses_observe clocked _).bind fun _ => (uses_frontier clocked).bind fun _ =>
    (Prog.uses_ofExcept _).bind fun _ => Prog.uses_pure _

end Clock

section Storage

variable (plain : ∀ op : Op, op.commit = none → allowed op)

include plain

theorem clocked_of_plain (op : Op) (is : op.ofClock = true) : allowed op := by
  cases op with
  | acquireClock | releaseClock | readFrontier | setFrontier => exact plain _ rfl
  | _ => cases is

theorem uses_withKeyLock {key : PyStr} {body : Code α} (inside : Prog.Uses allowed body) :
    Prog.Uses allowed (withKeyLock key body) :=
  (uses_perform (plain _ rfl)).bind fun _ => inside.attempt.bind fun result =>
    (uses_perform (plain _ rfl)).bind fun _ => Prog.uses_ofExcept result

theorem uses_replace (entry : StoredCrdtEntry) (expectedType : Option CrdtType) :
    Prog.Uses allowed (CrdtStore.replace entry expectedType) :=
  (uses_perform (plain _ rfl)).bind fun result => (Prog.uses_ofExcept result).bind fun _ =>
    Prog.uses_pure entry

theorem uses_commitThenReplace (entry : StoredCrdtEntry) (state : DurableCausalState)
    (expectedType : CrdtType) :
    Prog.Uses allowed (DurableCrdtStore.commitThenReplace entry state expectedType) :=
  (uses_perform (plain _ rfl)).bind fun result => (Prog.uses_ofExcept result).bind fun _ =>
    uses_replace plain entry expectedType

theorem uses_storeEntry (expectedType : Option CrdtType) (wrap : StoredCrdtEntry → α)
    (entry : StoredCrdtEntry) :
    Prog.Uses allowed (storeEntry deployment id expectedType wrap entry) := by
  unfold storeEntry
  split
  · exact uses_stagedObserve (clocked_of_plain plain) fun frontier =>
      (uses_commitThenReplace plain ..).bind fun _ => Prog.uses_pure _
  · exact (uses_replace plain ..).bind fun _ => Prog.uses_pure _

theorem uses_mergeEntry (incoming : StoredCrdtEntry) :
    Prog.Uses allowed (mergeEntry deployment id incoming) := by
  rw [mergeEntry_eq]
  exact uses_withKeyLock plain ((uses_perform (plain _ rfl)).bind fun existing =>
    (Prog.uses_ofExcept _).bind fun merged => uses_storeEntry plain ..)

theorem uses_mergeMetadata (key : PyStr) (causalContext : VersionVector) :
    Prog.Uses allowed (mergeMetadata deployment id key causalContext) := by
  rw [mergeMetadata_eq]
  refine uses_withKeyLock plain ((uses_perform (plain _ rfl)).bind fun existing => ?_)
  cases existing with
  | none => exact Prog.uses_pure none
  | some existing => exact uses_storeEntry plain ..

end Storage

/-- What may be cancelled commits no mutation. -/
theorem silent_of_cancellable {errand : Errand} (cancellable : errand.cancellable = true) :
    Silent (errand.code deployment id) := by
  have plain : ∀ op : Op, op.commit = none → op.commit = none := fun _ uncommitted => uncommitted
  cases errand with
  | merge incoming => exact (uses_mergeEntry plain incoming).bind fun _ => Prog.uses_pure _
  | metadata key causalContext => exact uses_mergeMetadata plain key causalContext
  | message | commit | replicator | antiEntropy | recovery => cases cancellable

end Distsys
