import Distsys.Cluster.Step
import Distsys.Wire.RoundTrip

/-!
# What vectors and entries say about the past

The past of a cluster is its history, with whether the run has been honest. As long
as it has, vectors count committed mutations only and entries represent the history;
under the `backed` condition a context claims no mutation of its key that the state
lacks. What is sound stays sound when the past grows, because a vector that is known
covers no mutation of the future.
-/

namespace Distsys

/-- The committed mutations, and whether all clients are honest. -/
structure Past where
  history : History
  honest : Bool

namespace Past

/-- The later past continues the earlier one. -/
structure Grows (earlier later : Past) : Prop where
  history : earlier.history <+: later.history
  honest : later.honest = true → earlier.honest = true
  dense : later.honest = true → earlier.history.Dense → later.history.Dense

theorem Grows.refl (past : Past) : Grows past past := ⟨List.prefix_rfl, id, fun _ => id⟩

theorem Grows.trans {first second third : Past} (early : Grows first second)
    (late : Grows second third) : Grows first third :=
  ⟨early.history.trans late.history, early.honest ∘ late.honest,
    fun honest dense => late.dense honest (early.dense (late.honest honest) dense)⟩

/-- The vector counts mutations of the past only. -/
def Knows (past : Past) (vector : VersionVector) : Prop :=
  past.honest = true → past.history.Dense ∧ past.history.Known vector

/-- Under the `backed` condition, the version has every mutation of the key that the
frontier covers. -/
def Backs (past : Past) (discipline : Discipline) (key : PyStr)
    (version frontier : VersionVector) : Prop :=
  past.honest = true → discipline.backed = true → past.history.Backed key version frontier

variable {past later : Past} {discipline : Discipline}

theorem Knows.grows {vector : VersionVector} (known : past.Knows vector)
    (grows : past.Grows later) :
    later.Knows vector :=
  fun honest =>
    have knew := known (grows.honest honest)
    ⟨grows.dense honest knew.1, knew.2.extend grows.history⟩

theorem Knows.mono {smaller larger : VersionVector} (known : past.Knows larger)
    (below : smaller ≤ larger) : past.Knows smaller :=
  fun honest => ⟨(known honest).1, (known honest).2.mono below⟩

theorem Knows.sup {left right : VersionVector} (first : past.Knows left)
    (second : past.Knows right) : past.Knows (left ⊔ right) :=
  fun honest => ⟨(first honest).1, (first honest).2.sup (second honest).2⟩

theorem Backs.grows {key : PyStr} {version frontier : VersionVector}
    (backs : past.Backs discipline key version frontier) (known : past.Knows frontier)
    (grows : past.Grows later) : later.Backs discipline key version frontier := by
  intro honest backed
  have earlier := grows.honest honest
  obtain ⟨dense, knew⟩ := known earlier
  exact (backs earlier backed).extend grows.history (grows.dense honest dense) knew

theorem Backs.mono {key : PyStr} {version larger frontier smaller : VersionVector}
    (backs : past.Backs discipline key version frontier) (above : version ≤ larger)
    (below : smaller ≤ frontier) : past.Backs discipline key larger smaller :=
  fun honest backed => (backs honest backed).mono above below

theorem Backs.sup {key : PyStr} {version left right : VersionVector}
    (first : past.Backs discipline key version left)
    (second : past.Backs discipline key version right) :
    past.Backs discipline key version (left ⊔ right) :=
  fun honest backed => (first honest backed).sup (second honest backed)

end Past

/-- The entry can be read back, it represents the past, and its vectors are known. -/
structure StoredCrdtEntry.Sound (json : JsonReader) (discipline : Discipline) (past : Past)
    (entry : StoredCrdtEntry) : Prop where
  readable : entry.state.Readable json
  represents : past.honest = true → past.history.Represents entry
  version : past.Knows entry.stateVersion
  context : past.Knows entry.causalContext
  backed : past.Backs discipline entry.key entry.stateVersion entry.causalContext

/-- What a digest says is known and backed. -/
structure CrdtDigestEntry.Sound (discipline : Discipline) (past : Past) (digest : CrdtDigestEntry) :
    Prop where
  version : past.Knows digest.stateVersion
  context : past.Knows digest.causalContext
  backed : past.Backs discipline digest.key digest.stateVersion digest.causalContext

section Sound

variable {json : JsonReader} {discipline : Discipline} {past later : Past}

namespace StoredCrdtEntry.Sound

/-- What is sound stays so. -/
theorem grows {entry : StoredCrdtEntry} (sound : entry.Sound json discipline past)
    (grows : past.Grows later) : entry.Sound json discipline later where
  readable := sound.readable
  represents honest := by
    have earlier := grows.honest honest
    obtain ⟨dense, known⟩ := sound.version earlier
    exact (sound.represents earlier).extend grows.history (grows.dense honest dense) known
  version := sound.version.grows grows
  context := sound.context.grows grows
  backed := sound.backed.grows sound.context grows

/-- The merge of sound entries is sound. -/
theorem merge {left right merged : StoredCrdtEntry} (first : left.Sound json discipline past)
    (second : right.Sound json discipline past)
    (merges : StoredCrdtEntry.Merged left right merged) : merged.Sound json discipline past where
  readable := by
    intro item stored
    rw [merges.state, Content.payloads_sup] at stored
    exact stored.elim (first.readable item) (second.readable item)
  represents honest := (first.represents honest).merge (second.represents honest) merges
  version := by
    rw [merges.stateVersion]
    exact first.version.sup second.version
  context := by
    rw [merges.causalContext]
    exact first.context.sup second.context
  backed := by
    rw [merges.key, merges.stateVersion, merges.causalContext]
    refine (first.backed.mono le_sup_left le_rfl).sup ?_
    rw [merges.keys]
    exact second.backed.mono le_sup_right le_rfl

/-- The context may take in whatever the state version backs. -/
theorem withContext {entry : StoredCrdtEntry} (sound : entry.Sound json discipline past)
    {context : VersionVector} (known : past.Knows context)
    (backs : past.Backs discipline entry.key entry.stateVersion context) :
    (entry.withContext (entry.causalContext.merge context)).Sound json discipline past where
  readable := sound.readable
  represents honest :=
    have represents := sound.represents honest
    ⟨represents.content, represents.types, represents.inhabited⟩
  version := sound.version
  context := by
    change past.Knows (entry.causalContext.merge context)
    rw [Tally.merge_eq_sup]
    exact sound.context.sup known
  backed := by
    change past.Backs discipline entry.key entry.stateVersion (entry.causalContext.merge context)
    rw [Tally.merge_eq_sup]
    exact sound.backed.sup backs

/-- The digest of a sound entry is. -/
theorem digest {entry : StoredCrdtEntry} (sound : entry.Sound json discipline past) :
    (CrdtDigestEntry.fromEntry entry).Sound discipline past :=
  ⟨sound.version, sound.context, sound.backed⟩

end StoredCrdtEntry.Sound

theorem CrdtDigestEntry.Sound.grows {digest : CrdtDigestEntry}
    (sound : digest.Sound discipline past) (grows : past.Grows later) :
    digest.Sound discipline later :=
  ⟨sound.version.grows grows, sound.context.grows grows, sound.backed.grows sound.context grows⟩

end Sound

end Distsys
