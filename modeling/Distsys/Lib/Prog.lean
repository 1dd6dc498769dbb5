/-!
# Interleaved programs

A program is a tree of atomic operations: it performs one, receives the answer
and goes on, or it is done with a result or an exception. Threads that run
programs against a shared world interleave at every operation, so a thread
suspended at an `await` is a program waiting for its next operation.

`Safe` is the rely-guarantee judgement of such a thread. A safe thread keeps the
invariant and respects what every other thread relies on, whatever the others do
in between, and it ends with its postcondition. It is defined by recursion on
the program, so it holds of a thread at every point of its execution
(`Safe.step`) and is not disturbed by other threads (`Safe.later`).
-/

/-- Atomic operations with the types of their answers. -/
structure Signature where
  Op : Type
  Answer : Op → Type

/-- A program over the operations of a signature with exceptions in `ε`. -/
inductive Prog (sig : Signature) (ε α : Type)
  | done (result : Except ε α)
  | act (op : sig.Op) (next : sig.Answer op → Prog sig ε α)

namespace Prog

variable {sig : Signature} {ε α β World Thread : Type} {world after : World}
  {first body : Prog sig ε α} {next : α → Prog sig ε β} {worse : ε → World → Prop}

/-- Run one program and then another; an exception skips the second. -/
def bind : Prog sig ε α → (α → Prog sig ε β) → Prog sig ε β
  | .done (.ok value), next => next value
  | .done (.error error), _ => .done (.error error)
  | .act op first, next => .act op fun answer => (first answer).bind next

instance : Monad (Prog sig ε) where
  pure value := .done (.ok value)
  bind := bind

/-- Run a program and hand its result or its exception on as a value. -/
def attempt : Prog sig ε α → Prog sig ε (Except ε α)
  | .done result => .done (.ok result)
  | .act op next => .act op fun answer => (next answer).attempt

/-- Raise an exception or go on with a value. -/
def ofExcept (result : Except ε α) : Prog sig ε α := .done result

/-- `try: body except ...: handler`. -/
def catching (body : Prog sig ε α) (handler : ε → Prog sig ε α) : Prog sig ε α := do
  match ← body.attempt with
  | .ok value => pure value
  | .error error => handler error

instance : MonadExceptOf ε (Prog sig ε) where
  throw error := .done (.error error)
  tryCatch := catching

/-- Perform one operation. -/
def op (operation : sig.Op) : Prog sig ε (sig.Answer operation) :=
  .act operation fun answer => .done (.ok answer)

@[simp] theorem ofExcept_ok_bind (value : α) (next : α → Prog sig ε β) :
    (ofExcept (.ok value) : Prog sig ε α) >>= next = next value := rfl

@[simp] theorem act_bind (operation : sig.Op) (first : sig.Answer operation → Prog sig ε α)
    (next : α → Prog sig ε β) :
    Prog.act operation first >>= next = .act operation fun answer => first answer >>= next := rfl

/-- Run a program alone, against operations that answer at once. -/
def run (handle : (op : sig.Op) → World → Option (sig.Answer op × World)) :
    Prog sig ε α → World → Option (Except ε α × World)
  | .done result, world => some (result, world)
  | .act op next, world =>
      match handle op world with
      | none => none
      | some (answer, after) => (next answer).run handle after

section Run

variable (handle : (op : sig.Op) → World → Option (sig.Answer op × World)) {middle : World}

theorem run_act {operation : sig.Op} {answer : sig.Answer operation}
    (answered : handle operation world = some (answer, after))
    (next : sig.Answer operation → Prog sig ε α) :
    (Prog.act operation next).run handle world = (next answer).run handle after := by
  rw [run, answered]

/-- A program that has run has had its first operation answered. -/
theorem run_act_eq_some {operation : sig.Op} {next : sig.Answer operation → Prog sig ε α}
    {outcome : Except ε α × World}
    (finished : (Prog.act operation next).run handle world = some outcome) :
    ∃ pair, handle operation world = some pair ∧
      (next pair.1).run handle pair.2 = some outcome := by
  rw [run] at finished
  cases answered : handle operation world with
  | none => rw [answered] at finished; cases finished
  | some pair =>
      rw [answered] at finished
      exact ⟨pair, rfl, finished⟩

/-- After a value the rest runs where the first program has ended. -/
theorem run_bind_ok {value : α} (finished : first.run handle world = some (.ok value, middle))
    (next : α → Prog sig ε β) :
    (first >>= next).run handle world = (next value).run handle middle := by
  induction first generalizing world with
  | done result =>
      cases finished
      rfl
  | act operation rest ih =>
      obtain ⟨pair, answered, continues⟩ := run_act_eq_some handle finished
      rw [act_bind, run, answered]
      exact ih pair.1 continues

/-- An error of the first program is that of the sequence. -/
theorem run_bind_error {error : ε} (finished : first.run handle world = some (.error error, middle))
    (next : α → Prog sig ε β) :
    (first >>= next).run handle world = some (.error error, middle) := by
  induction first generalizing world with
  | done result =>
      cases finished
      rfl
  | act operation rest ih =>
      obtain ⟨pair, answered, continues⟩ := run_act_eq_some handle finished
      rw [act_bind, run, answered]
      exact ih pair.1 continues

/-- A sequence has run when the first program has, and after a value the second. -/
theorem run_bind_eq_some {result : Except ε β}
    (finished : (first >>= next).run handle world = some (result, after)) :
    (∃ value middle, first.run handle world = some (.ok value, middle) ∧
      (next value).run handle middle = some (result, after)) ∨
    ∃ error, first.run handle world = some (.error error, after) ∧ result = .error error := by
  induction first generalizing world with
  | done outcome =>
      cases outcome with
      | ok value => exact .inl ⟨value, world, rfl, finished⟩
      | error error =>
          cases finished
          exact .inr ⟨error, rfl, rfl⟩
  | act operation rest ih =>
      rw [act_bind] at finished
      obtain ⟨pair, answered, continues⟩ := run_act_eq_some handle finished
      rw [run, answered]
      exact ih pair.1 continues

/-- An attempt returns what its body ends with. -/
theorem run_attempt {result : Except ε α}
    (finished : body.run handle world = some (result, middle)) :
    body.attempt.run handle world = some (.ok result, middle) := by
  induction body generalizing world with
  | done result =>
      cases finished
      rfl
  | act operation rest ih =>
      obtain ⟨pair, answered, continues⟩ := run_act_eq_some handle finished
      rw [attempt, run, answered]
      exact ih pair.1 continues

end Run

/-- What the threads of a world may do and what each of them relies on. `Progress` is
what a thread may count on over its own steps too. -/
structure Rules (sig : Signature) (Thread World : Type) where
  exec : Thread → (op : sig.Op) → World → sig.Answer op → World → Prop
  Inv : World → Prop
  Progress : Thread → World → World → Prop
  Rely : Thread → World → World → Prop
  rely_refl : ∀ thread world, Rely thread world world
  rely_trans : ∀ {thread first second third}, Rely thread first second →
    Rely thread second third → Rely thread first third
  progress_trans : ∀ {thread first second third}, Progress thread first second →
    Progress thread second third → Progress thread first third
  progress_of_rely : ∀ {thread first second}, Rely thread first second →
    Progress thread first second

/-- A step keeps the invariant and what all other threads rely on. -/
structure Rules.Guarantee (rules : Rules sig Thread World) (thread : Thread)
    (before after : World) : Prop where
  inv : rules.Inv after
  progress : rules.Progress thread before after
  others : ∀ other, other ≠ thread → rules.Rely other before after

variable {rules : Rules sig Thread World} {thread : Thread}
  {good : α → World → Prop} {bad : ε → World → Prop}

theorem Rules.progress_refl (rules : Rules sig Thread World) (thread : Thread) (world : World) :
    rules.Progress thread world world :=
  rules.progress_of_rely (rules.rely_refl thread world)

/-- Whatever the other threads do, the program keeps the guarantee at each of its
operations and ends with `good` or, after an exception, with `bad`. -/
def Safe (rules : Rules sig Thread World) (thread : Thread) (good : α → World → Prop)
    (bad : ε → World → Prop) : Prog sig ε α → World → Prop
  | .done (.ok value), world =>
      ∀ later, rules.Inv later → rules.Rely thread world later → good value later
  | .done (.error error), world =>
      ∀ later, rules.Inv later → rules.Rely thread world later → bad error later
  | .act op next, world =>
      ∀ now, rules.Inv now → rules.Rely thread world now →
        ∀ answer after, rules.exec thread op now answer after →
          rules.Guarantee thread now after ∧ Safe rules thread good bad (next answer) after

/-- One operation of a safe thread. -/
theorem Safe.step {op : sig.Op} {next : sig.Answer op → Prog sig ε α}
    (safe : Safe rules thread good bad (.act op next) world) (inv : rules.Inv world)
    {answer : sig.Answer op} (executed : rules.exec thread op world answer after) :
    rules.Guarantee thread world after ∧ Safe rules thread good bad (next answer) after :=
  safe world inv (rules.rely_refl thread world) answer after executed

/-- Other threads do not disturb a safe thread. -/
theorem Safe.later {program : Prog sig ε α} {world now : World}
    (safe : Safe rules thread good bad program world) (rely : rules.Rely thread world now) :
    Safe rules thread good bad program now := by
  cases program with
  | done result =>
      cases result with
      | ok value => exact fun later inv further => safe later inv (rules.rely_trans rely further)
      | error error => exact fun later inv further => safe later inv (rules.rely_trans rely further)
  | act op next =>
      exact fun later inv further => safe later inv (rules.rely_trans rely further)

/-- Postconditions may be weakened, and what a thread may count on may be added. -/
theorem Safe.weaken {program : Prog sig ε α} {weaker : α → World → Prop}
    (safe : Safe rules thread good bad program world)
    (returns : ∀ value later, rules.Inv later → rules.Progress thread world later →
      good value later → weaker value later)
    (raises : ∀ error later, rules.Inv later → rules.Progress thread world later →
      bad error later → worse error later) :
    Safe rules thread weaker worse program world := by
  induction program generalizing world with
  | done result =>
      cases result with
      | ok value =>
          exact fun later inv rely =>
            returns value later inv (rules.progress_of_rely rely) (safe later inv rely)
      | error error =>
          exact fun later inv rely =>
            raises error later inv (rules.progress_of_rely rely) (safe later inv rely)
  | act op next ih =>
      intro now inv rely answer after executed
      obtain ⟨guarantee, rest⟩ := safe now inv rely answer after executed
      have reached : rules.Progress thread world after :=
        rules.progress_trans (rules.progress_of_rely rely) guarantee.progress
      refine ⟨guarantee, ih answer rest ?_ ?_⟩
      · exact fun value later inv further =>
          returns value later inv (rules.progress_trans reached further)
      · exact fun error later inv further =>
          raises error later inv (rules.progress_trans reached further)

/-- Sequencing: the second program starts from the postcondition of the first. -/
theorem Safe.bind {after : β → World → Prop} (safe : Safe rules thread good bad first world)
    (inv : rules.Inv world)
    (continues : ∀ value later, rules.Inv later → rules.Progress thread world later →
      good value later → Safe rules thread after worse (next value) later)
    (raises : ∀ error later, rules.Inv later → rules.Progress thread world later →
      bad error later → worse error later) :
    Safe rules thread after worse (first >>= next) world := by
  induction first generalizing world with
  | done result =>
      cases result with
      | ok value =>
          exact continues value world inv (rules.progress_refl thread world)
            (safe world inv (rules.rely_refl thread world))
      | error error =>
          exact fun later inv rely =>
            raises error later inv (rules.progress_of_rely rely) (safe later inv rely)
  | act op rest ih =>
      intro now invNow rely answer reached executed
      obtain ⟨guarantee, tail⟩ := safe now invNow rely answer reached executed
      have moved : rules.Progress thread world reached :=
        rules.progress_trans (rules.progress_of_rely rely) guarantee.progress
      refine ⟨guarantee, ih answer tail guarantee.inv ?_ ?_⟩
      · exact fun value later inv further =>
          continues value later inv (rules.progress_trans moved further)
      · exact fun error later inv further =>
          raises error later inv (rules.progress_trans moved further)

/-- An attempted program never raises. -/
theorem Safe.attempt {never : ε → World → Prop} (safe : Safe rules thread good bad body world) :
    Safe rules thread (fun result later => match result with
      | .ok value => good value later
      | .error error => bad error later) never body.attempt world := by
  induction body generalizing world with
  | done result =>
      cases result with
      | ok value => exact safe
      | error error => exact safe
  | act op next ih =>
      intro now inv rely answer after executed
      obtain ⟨guarantee, rest⟩ := safe now inv rely answer after executed
      exact ⟨guarantee, ih answer rest⟩

/-- An exception is handled from the exceptional postcondition of the body. -/
theorem Safe.catching {handler : ε → Prog sig ε α} {raised : ε → World → Prop}
    (safe : Safe rules thread good raised body world) (inv : rules.Inv world)
    (handles : ∀ error later, rules.Inv later → rules.Progress thread world later →
      raised error later → Safe rules thread good bad (handler error) later) :
    Safe rules thread good bad (body.catching handler) world := by
  induction body generalizing world with
  | done result =>
      cases result with
      | ok value => exact safe
      | error error =>
          exact handles error world inv (rules.progress_refl thread world)
            (safe world inv (rules.rely_refl thread world))
  | act op next ih =>
      intro now invNow rely answer after executed
      obtain ⟨guarantee, rest⟩ := safe now invNow rely answer after executed
      have moved : rules.Progress thread world after :=
        rules.progress_trans (rules.progress_of_rely rely) guarantee.progress
      exact ⟨guarantee, ih answer rest guarantee.inv fun error later inv further =>
        handles error later inv (rules.progress_trans moved further)⟩

end Prog
