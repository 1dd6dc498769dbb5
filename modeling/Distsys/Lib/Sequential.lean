import Distsys.Lib.Prog

/-!
# Programs that run alone

The total correctness of a program that nothing interrupts: it ends, and its result
and the world it leaves satisfy a postcondition. There is one rule for each way of
building programs.
-/

namespace Prog

variable {sig : Signature} {ε α β World : Type}
  (handle : (op : sig.Op) → World → Option (sig.Answer op × World)) {result : Except ε α}
  {after : World} {program : Prog sig ε α}

/-- The program ends, and its result and the world it leaves satisfy the postcondition. -/
def Ends (post : Except ε α → World → Prop) (program : Prog sig ε α) (world : World) : Prop :=
  ∃ result after, program.run handle world = some (result, after) ∧ post result after

variable {handle} {post : Except ε α → World → Prop} {world : World}

theorem ends_done (holds : post result world) :
    Ends handle post (.done result) world := ⟨result, world, rfl, holds⟩

theorem ends_pure {value : α} (holds : post (.ok value) world) :
    Ends handle post (pure value) world := ends_done holds

theorem ends_act {operation : sig.Op} {next : sig.Answer operation → Prog sig ε α}
    {answer : sig.Answer operation} (answered : handle operation world = some (answer, after))
    (rest : Ends handle post (next answer) after) :
    Ends handle post (.act operation next) world := by
  obtain ⟨result, final, ran, holds⟩ := rest
  exact ⟨result, final, (run_act handle answered next).trans ran, holds⟩

theorem Ends.mono {weaker : Except ε α → World → Prop} (ends : Ends handle post program world)
    (weaken : ∀ result after, post result after → weaker result after) :
    Ends handle weaker program world := by
  obtain ⟨result, after, ran, holds⟩ := ends
  exact ⟨result, after, ran, weaken result after holds⟩

/-- Sequencing: the second program runs in the world that the first one leaves. -/
theorem Ends.bind {next : α → Prog sig ε β} {final : Except ε β → World → Prop}
    (first : Ends handle (fun result after => match result with
      | .ok value => Ends handle final (next value) after
      | .error error => final (.error error) after) program world) :
    Ends handle final (program >>= next) world := by
  obtain ⟨result, after, ran, holds⟩ := first
  cases result with
  | ok value =>
      obtain ⟨last, left, continued, holds⟩ := holds
      exact ⟨last, left, (run_bind_ok handle ran next).trans continued, holds⟩
  | error error => exact ⟨.error error, after, run_bind_error handle ran next, holds⟩

theorem Ends.attempt {final : Except ε (Except ε α) → World → Prop}
    (body : Ends handle (fun result after => final (.ok result) after) program world) :
    Ends handle final program.attempt world := by
  obtain ⟨result, after, ran, holds⟩ := body
  exact ⟨.ok result, after, run_attempt handle ran, holds⟩

theorem Ends.catching {handler : ε → Prog sig ε α}
    (body : Ends handle (fun result after => match result with
      | .ok value => post (.ok value) after
      | .error error => Ends handle post (handler error) after) program world) :
    Ends handle post (program.catching handler) world := by
  refine Ends.bind (Ends.attempt (body.mono fun result after holds => ?_))
  cases result with
  | ok value => exact ends_done holds
  | error error => exact holds

/-- What a program that ends does is determined. -/
theorem Ends.of_run (ends : Ends handle post program world)
    (ran : program.run handle world = some (result, after)) : post result after := by
  obtain ⟨other, final, same, holds⟩ := ends
  cases same.symm.trans ran
  exact holds

/-- A program that ends does the same where more operations are answered. -/
theorem Ends.extend {wider : (op : sig.Op) → World → Option (sig.Answer op × World)}
    (answers : ∀ op world outcome, handle op world = some outcome → wider op world = some outcome)
    (ends : Ends handle post program world) :
    Ends wider post program world := by
  obtain ⟨result, after, ran, holds⟩ := ends
  refine ⟨result, after, ?_, holds⟩
  induction program generalizing world with
  | done outcome => exact ran
  | act operation next ih =>
      rw [run] at ran ⊢
      cases answered : handle operation world with
      | none => rw [answered] at ran; cases ran
      | some outcome =>
          rw [answered] at ran
          rw [answers operation world outcome answered]
          exact ih outcome.1 ran

/-- What every operation does to the world, a run does. -/
theorem related_of_run (related : World → World → Prop) (same : ∀ world, related world world)
    (joined : ∀ {first second third}, related first second → related second third →
      related first third) (step : ∀ op world answer after, handle op world = some (answer, after) →
      related world after) (ran : program.run handle world = some (result, after)) :
    related world after := by
  induction program generalizing world with
  | done outcome =>
      cases ran
      exact same _
  | act operation next ih =>
      rw [run] at ran
      cases answered : handle operation world with
      | none => rw [answered] at ran; cases ran
      | some outcome =>
          rw [answered] at ran
          exact joined (step operation world outcome.1 outcome.2 answered) (ih outcome.1 ran)

end Prog
