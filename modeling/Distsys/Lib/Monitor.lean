import Distsys.Lib.Prog

/-!
# Programs under a monitor

A monitor watches the operations of one program. It keeps a state, says which operations
are in order in a state, and which answers the program may count on. A program that
obeys its monitor performs operations that are in order only, as long as the answers are
those it may count on. There is one rule for each way of building programs, and a
program that obeys still does after each operation (`Obeys.guard`, `Obeys.step`).

`Reaches` is the judgement for programs that change the state within a frame only. Where the
operations are in order on their own, without a state, there is `Uses`.
-/

/-- The operations that are in order, the answers that can be counted on, and the state
after an operation. -/
structure Monitor (sig : Signature) (State : Type) where
  guard : State → sig.Op → Prop
  legal : State → (op : sig.Op) → sig.Answer op → Prop
  next : State → (op : sig.Op) → sig.Answer op → State

namespace Prog

variable {sig : Signature} {ε α β State : Type} {result : Except ε α} {program : Prog sig ε α}
  {handler : ε → Prog sig ε α}

/-- The program performs operations that are in order only, and its result and the state
it leaves satisfy the postcondition. -/
def Obeys (monitor : Monitor sig State) (post : Except ε α → State → Prop) :
    Prog sig ε α → State → Prop
  | .done result, state => post result state
  | .act op next, state => monitor.guard state op ∧ ∀ answer, monitor.legal state op answer →
      (next answer).Obeys monitor post (monitor.next state op answer)

variable {monitor : Monitor sig State} {post : Except ε α → State → Prop} {state : State}

theorem obeys_done (holds : post result state) :
    Obeys monitor post (.done result) state := holds

theorem obeys_pure {value : α} (holds : post (.ok value) state) :
    Obeys monitor post (pure value) state := holds

theorem obeys_act {op : sig.Op} {next : sig.Answer op → Prog sig ε α}
    (guard : monitor.guard state op)
    (rest : ∀ answer, monitor.legal state op answer →
      (next answer).Obeys monitor post (monitor.next state op answer)) :
    Obeys monitor post (.act op next) state := ⟨guard, rest⟩

/-- The next operation of a program that obeys is in order. -/
theorem Obeys.guard {op : sig.Op} {next : sig.Answer op → Prog sig ε α}
    (obeys : Obeys monitor post (.act op next) state) : monitor.guard state op := obeys.1

theorem Obeys.step {op : sig.Op} {next : sig.Answer op → Prog sig ε α}
    (obeys : Obeys monitor post (.act op next) state) {answer : sig.Answer op}
    (legal : monitor.legal state op answer) :
    (next answer).Obeys monitor post (monitor.next state op answer) := obeys.2 answer legal

theorem Obeys.mono {weaker : Except ε α → State → Prop} (obeys : Obeys monitor post program state)
    (weaken : ∀ result state, post result state → weaker result state) :
    Obeys monitor weaker program state := by
  induction program generalizing state with
  | done result => exact weaken result state obeys
  | act op next ih => exact ⟨obeys.1, fun answer legal => ih answer (obeys.2 answer legal)⟩

/-- Sequencing: the second program starts in the state that the first one leaves. -/
theorem Obeys.bind {next : α → Prog sig ε β} {final : Except ε β → State → Prop}
    (first : Obeys monitor (fun result state => match result with
      | .ok value => Obeys monitor final (next value) state
      | .error error => final (.error error) state) program state) :
    Obeys monitor final (program >>= next) state := by
  induction program generalizing state with
  | done result =>
      cases result with
      | ok value => exact first
      | error error => exact first
  | act op rest ih => exact ⟨first.1, fun answer legal => ih answer (first.2 answer legal)⟩

theorem Obeys.attempt {final : Except ε (Except ε α) → State → Prop}
    (body : Obeys monitor (fun result state => final (.ok result) state) program state) :
    Obeys monitor final program.attempt state := by
  induction program generalizing state with
  | done result => exact body
  | act op rest ih => exact ⟨body.1, fun answer legal => ih answer (body.2 answer legal)⟩

theorem Obeys.catching (body : Obeys monitor (fun result state => match result with
      | .ok value => post (.ok value) state
      | .error error => Obeys monitor post (handler error) state) program state) :
    Obeys monitor post (program.catching handler) state := by
  refine Obeys.bind (Obeys.attempt (body.mono fun result state holds => ?_))
  cases result with
  | ok value => exact obeys_done holds
  | error error => exact holds

/-- What raises or goes on with a value, without an operation. -/
theorem obeys_ofExcept (holds : post result state) :
    Obeys monitor post (ofExcept result) state := holds

/-- The changes of the state that a program may make. -/
structure Frame (State : Type) where
  moves : State → State → Prop
  refl : ∀ state, moves state state
  trans : ∀ {first second third}, moves first second → moves second third → moves first third

/-- The program obeys the monitor and changes the state within the frame, and a value that it
returns has the property in the state that it leaves. -/
def Reaches (monitor : Monitor sig State) (frame : Frame State) (returns : α → State → Prop)
    (program : Prog sig ε α) (state : State) : Prop :=
  Obeys monitor (fun result later => frame.moves state later ∧
    ∀ value, result = .ok value → returns value later) program state

section Reaches

variable {frame : Frame State} {returns : α → State → Prop}

theorem Reaches.obeys (reaches : Reaches monitor frame returns program state)
    (rest : ∀ value later, frame.moves state later → returns value later → post (.ok value) later)
    (fails : ∀ error later, frame.moves state later → post (.error error) later) :
    Obeys monitor post program state := by
  refine Obeys.mono reaches ?_
  rintro (error | value) later ⟨moved, holds⟩
  · exact fails error later moved
  · exact rest value later moved (holds value rfl)

theorem reaches_ofExcept (holds : ∀ value, result = .ok value → returns value state) :
    Reaches monitor frame returns (ofExcept result) state :=
  ⟨frame.refl state, holds⟩

theorem Reaches.bind {next : α → Prog sig ε β} {final : β → State → Prop}
    (first : Reaches monitor frame returns program state)
    (second : ∀ value later, frame.moves state later → returns value later →
      Reaches monitor frame final (next value) later) :
    Reaches monitor frame final (program >>= next) state := by
  refine Obeys.bind (first.obeys (fun value later moved holds => ?_) fun error later moved => ?_)
  · refine Obeys.mono (second value later moved holds) fun result last ends => ?_
    exact ⟨frame.trans moved ends.1, ends.2⟩
  · exact ⟨moved, by rintro _ ⟨⟩⟩

theorem Reaches.mono {weaker : α → State → Prop}
    (reaches : Reaches monitor frame returns program state)
    (weaken : ∀ value later, frame.moves state later → returns value later → weaker value later) :
    Reaches monitor frame weaker program state :=
  Obeys.mono reaches fun _ later ends =>
    ⟨ends.1, fun value same => weaken value later ends.1 (ends.2 value same)⟩

theorem Reaches.attempt (body : Reaches monitor frame returns program state) :
    Reaches monitor frame (fun result later => ∀ value, result = .ok value → returns value later)
      program.attempt state := by
  refine Obeys.attempt (Obeys.mono body fun result later ends => ⟨ends.1, ?_⟩)
  rintro _ ⟨⟩
  exact ends.2

theorem Reaches.catching (body : Reaches monitor frame returns program state)
    (handles : ∀ error later, frame.moves state later →
      Reaches monitor frame returns (handler error) later) :
    Reaches monitor frame returns (program.catching handler) state := by
  refine Obeys.catching (body.obeys (fun value later moved holds => ⟨moved, ?_⟩) ?_)
  · rintro _ ⟨⟩
    exact holds
  · intro error later moved
    exact Obeys.mono (handles error later moved) fun result last ends =>
      ⟨frame.trans moved ends.1, ends.2⟩

end Reaches

/-- The program performs operations that are allowed only. -/
def Uses (allowed : sig.Op → Prop) : Prog sig ε α → Prop
  | .done _ => True
  | .act op next => allowed op ∧ ∀ answer, (next answer).Uses allowed

variable {allowed : sig.Op → Prop}

theorem uses_pure (value : α) : Uses allowed (pure value : Prog sig ε α) := trivial

theorem uses_ofExcept (result : Except ε α) : Uses allowed (ofExcept result : Prog sig ε α) :=
  trivial

theorem Uses.bind {next : α → Prog sig ε β} (first : Uses allowed program)
    (rest : ∀ value, Uses allowed (next value)) : Uses allowed (program >>= next) := by
  induction program with
  | done result =>
      cases result with
      | ok value => exact rest value
      | error error => exact trivial
  | act op continuation ih => exact ⟨first.1, fun answer => ih answer (first.2 answer)⟩

theorem Uses.attempt (uses : Uses allowed program) :
    Uses allowed program.attempt := by
  induction program with
  | done result => exact trivial
  | act op next ih => exact ⟨uses.1, fun answer => ih answer (uses.2 answer)⟩

/-- The monitor of the operations that are allowed at any time. -/
abbrev plainMonitor (allowed : sig.Op → Prop) : Monitor sig Unit :=
  ⟨fun _ => allowed, fun _ _ _ => True, fun _ _ _ => ()⟩

theorem Uses.obeys (uses : Uses allowed program) :
    Obeys (plainMonitor allowed) (fun _ _ => True) program () := by
  induction program with
  | done result => exact trivial
  | act op next ih => exact ⟨uses.1, fun answer _ => ih answer (uses.2 answer)⟩

end Prog
