/-!
# Runs under a condition

The runs of a system whose steps all meet a condition on the state before the step. What
every such step keeps holds after every such run.
-/

section

variable {State Label : Type}

/-- Runs whose steps all meet a condition on the state before. -/
inductive RunsUnder (step : State → Label → Option State) (Meets : State → Label → Prop)
    (first : State) : State → Prop
  | refl : RunsUnder step Meets first first
  | step {before after : State} (label : Label) (run : RunsUnder step Meets first before)
      (meets : Meets before label) (stepped : step before label = some after) :
      RunsUnder step Meets first after

variable {step : State → Label → Option State} {Meets Weaker : State → Label → Prop}
  {first last : State}

/-- What every step keeps holds at the end. -/
theorem RunsUnder.invariant (Inv : State → Prop) (run : RunsUnder step Meets first last)
    (holds : Inv first)
    (kept : ∀ {before after label}, Inv before → Meets before label →
      step before label = some after → Inv after) : Inv last := by
  induction run with
  | refl => exact holds
  | step label _ meets stepped ih => exact kept ih meets stepped

/-- A run under a stronger condition. -/
theorem RunsUnder.mono (run : RunsUnder step Meets first last)
    (weaker : ∀ state label, Meets state label → Weaker state label) :
    RunsUnder step Weaker first last := by
  induction run with
  | refl => exact .refl
  | step label _ meets stepped ih => exact .step label ih (weaker _ _ meets) stepped

/-- Take the steps of a list, which all have to meet the condition. -/
def runUnder (step : State → Label → Option State) (meets : State → Label → Bool) (state : State) :
    List Label → Option State
  | [] => some state
  | label :: rest =>
      if meets state label = true then
        match step state label with
        | some next => runUnder step meets next rest
        | none => none
      else none

theorem RunsUnder.extend {meets : State → Label → Bool} {state : State}
    (run : RunsUnder step (fun state label => meets state label = true) first state)
    {labels : List Label} (result : runUnder step meets state labels = some last) :
    RunsUnder step (fun state label => meets state label = true) first last := by
  induction labels generalizing state with
  | nil =>
      cases result
      exact run
  | cons label rest ih =>
      unfold runUnder at result
      split at result
      · next met =>
        cases stepped : step state label with
        | none =>
            rw [stepped] at result
            cases result
        | some next =>
            rw [stepped] at result
            exact ih (.step label run met stepped) result
      · cases result

/-- A run that can be evaluated. -/
theorem exists_runsUnder {meets : State → Label → Bool} (labels : List Label) (check : State → Bool)
    (checked : (runUnder step meets first labels).any check = true) :
    ∃ last, RunsUnder step (fun state label => meets state label = true) first last ∧
      check last = true := by
  cases result : runUnder step meets first labels with
  | none =>
      rw [result] at checked
      cases checked
  | some last =>
      rw [result] at checked
      exact ⟨last, .extend .refl result, checked⟩

end
