import Distsys.Lib.Monitor

/-!
# Traces of programs

The operations that a program has performed, with their answers, up to any point of its
execution. The answers are those that are possible at all, so what holds of every trace
holds however the program is interleaved with others.

The recorder is the monitor whose state is the trace. A program that obeys it performs, at
every point of every trace, only operations that the guard admits after the trace so far.
-/

/-- An operation with its answer. -/
structure Signature.Event (sig : Signature) where
  op : sig.Op
  answer : sig.Answer op

/-- Record the operations, admitting those that the guard admits after the ones before. -/
def recorder (sig : Signature) (possible : (op : sig.Op) → sig.Answer op → Prop)
    (guard : List sig.Event → sig.Op → Prop) : Monitor sig (List sig.Event) where
  guard := guard
  legal _ op answer := possible op answer
  next events op answer := events ++ [⟨op, answer⟩]

namespace Prog

variable {sig : Signature} {ε α : Type} {program rest : Prog sig ε α} {events past : List sig.Event}
  {result : Except ε α} {event : sig.Event}

/-- The program performs the events and is left with the rest. -/
inductive Traces (possible : (op : sig.Op) → sig.Answer op → Prop) :
    Prog sig ε α → List sig.Event → Prog sig ε α → Prop
  | nil (program : Prog sig ε α) : Traces possible program [] program
  | cons {op : sig.Op} {next : sig.Answer op → Prog sig ε α} {answer : sig.Answer op}
      {events : List sig.Event} {rest : Prog sig ε α} (answered : possible op answer)
      (later : Traces possible (next answer) events rest) :
      Traces possible (.act op next) (⟨op, answer⟩ :: events) rest

variable {possible : (op : sig.Op) → sig.Answer op → Prop}
  {guard : List sig.Event → sig.Op → Prop} {post : Except ε α → List sig.Event → Prop}

/-- One more operation. -/
theorem Traces.snoc {op : sig.Op} {next : sig.Answer op → Prog sig ε α}
    (traces : Traces possible program events (.act op next)) {answer : sig.Answer op}
    (answered : possible op answer) :
    Traces possible program (events ++ [⟨op, answer⟩]) (next answer) := by
  generalize rest_eq : Prog.act op next = rest at traces
  induction traces with
  | nil program =>
      subst rest_eq
      exact .cons answered (.nil _)
  | cons first later ih => exact .cons first (ih rest_eq)

/-- A program that obeys the recorder still does at the end of a trace. -/
theorem Obeys.traces {program rest : Prog sig ε α} {past events : List sig.Event}
    (obeys : Obeys (recorder sig possible guard) post program past)
    (traces : Traces possible program events rest) :
    Obeys (recorder sig possible guard) post rest (past ++ events) := by
  induction traces generalizing past with
  | nil program => rwa [List.append_nil]
  | cons answered later ih =>
      have after := ih (obeys.step answered)
      rwa [show (recorder sig possible guard).next past _ _ = past ++ [_] from rfl,
        List.append_assoc, List.singleton_append] at after

/-- The trace of a finished program satisfies the postcondition. -/
theorem Obeys.post_of_traces (obeys : Obeys (recorder sig possible guard) post program [])
    (traces : Traces possible program events (.done result)) : post result events :=
  obeys.traces traces

/-- The guard admits every operation of a trace after the operations before it. -/
theorem Obeys.guard_of_append {before after : List sig.Event}
    (obeys : Obeys (recorder sig possible guard) post program past)
    (traces : Traces possible program (before ++ event :: after) rest) :
    guard (past ++ before) event.op := by
  induction before generalizing program past with
  | nil =>
      cases traces with
      | cons answered later =>
          rw [List.append_nil]
          exact obeys.guard
  | cons first before ih =>
      cases traces with
      | cons answered later =>
          rw [← List.singleton_append, ← List.append_assoc]
          exact ih (obeys.step answered) later

theorem Obeys.guard_of_traces (obeys : Obeys (recorder sig possible guard) post program past)
    (traces : Traces possible program events rest) (listed : event ∈ events) :
    ∃ before, before <+: past ++ events ∧ guard before event.op := by
  obtain ⟨before, after, rfl⟩ := List.append_of_mem listed
  refine ⟨past ++ before, ?_, obeys.guard_of_append traces⟩
  rw [← List.append_assoc]
  exact List.prefix_append _ _

/-- A program that has run has a trace, whose answers are those of the run. -/
theorem exists_traces_of_run {World : Type} (possible : (op : sig.Op) → sig.Answer op → Prop)
    {handle : (op : sig.Op) → World → Option (sig.Answer op × World)}
    (answers : ∀ {op world answer after}, handle op world = some (answer, after) →
      possible op answer) {world after : World}
    (finished : program.run handle world = some (result, after)) :
    ∃ events, Traces possible program events (.done result) ∧
      ∀ event ∈ events, ∃ before next, handle event.op before = some (event.answer, next) := by
  induction program generalizing world with
  | done outcome =>
      cases finished
      exact ⟨[], .nil _, fun _ listed => absurd listed List.not_mem_nil⟩
  | act op next ih =>
      obtain ⟨pair, answered, continues⟩ := run_act_eq_some handle finished
      obtain ⟨events, traces, faithful⟩ := ih pair.1 continues
      refine ⟨⟨op, pair.1⟩ :: events, .cons (answers answered) traces, fun event listed => ?_⟩
      rcases List.mem_cons.mp listed with rfl | listed
      · exact ⟨world, pair.2, answered⟩
      · exact faithful event listed

end Prog
