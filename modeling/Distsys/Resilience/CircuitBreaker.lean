import Mathlib.Data.List.Count
import Mathlib.Tactic.Linarith
import Distsys.Lib.Runs
import Distsys.Membership.Table
import Distsys.Transport.Framing

/-!
# The circuit breaker

A breaker lets calls through while it is closed, none for a while after it has opened, and
then a few probes at a time. Calls start, succeed, fail and are cancelled in any order. The
breaker counts the probes in flight; it forgets the count when it becomes half open again,
and it never discounts a probe that is cancelled.
-/

namespace Distsys

/-- The state of a circuit breaker; an open one knows when it was opened. -/
inductive CircuitState
  | closed
  | open (openedAt : Seconds)
  | halfOpen
  deriving DecidableEq

/-- The settings of a circuit breaker, with the checks of its constructor. -/
structure BreakerSettings where
  failureThreshold : Nat
  recoveryTimeoutSeconds : Seconds
  halfOpenMaxCalls : Nat
  threshold : 1 ≤ failureThreshold
  recovery : 0 < recoveryTimeoutSeconds
  probes : 1 ≤ halfOpenMaxCalls

/-- `CircuitBreaker`. -/
structure CircuitBreaker where
  state : CircuitState := .closed
  failureCount : Nat := 0
  halfOpenInFlight : Nat := 0

namespace CircuitBreaker

variable (settings : BreakerSettings) (breaker : CircuitBreaker)

/-- The first half of `_before_call`: an open breaker is half open after its recovery. -/
def recover (now : Seconds) : Except PeerException CircuitBreaker :=
  match breaker.state with
  | .open openedAt =>
      if settings.recoveryTimeoutSeconds ≤ now - openedAt then
        .ok { breaker with state := .halfOpen, halfOpenInFlight := 0 }
      else .error (.circuitOpenError (PyStr.ofString "circuit breaker is open"))
  | .closed | .halfOpen => .ok breaker

/-- `_before_call`: the state at the start of the call. -/
def beforeCall (now : Seconds) : Except PeerException (CircuitState × CircuitBreaker) := do
  let breaker ← breaker.recover settings now
  match breaker.state with
  | .halfOpen =>
      if settings.halfOpenMaxCalls ≤ breaker.halfOpenInFlight then
        .error (.circuitOpenError (PyStr.ofString "circuit breaker half-open probe limit reached"))
      else .ok (.halfOpen, { breaker with halfOpenInFlight := breaker.halfOpenInFlight + 1 })
  | state => .ok (state, breaker)

/-- `_record_success`. -/
def recordSuccess : CircuitState → CircuitBreaker
  | .halfOpen => ⟨.closed, 0, breaker.halfOpenInFlight - 1⟩
  | _ => { breaker with failureCount := 0 }

/-- `_record_failure`. -/
def recordFailure (now : Seconds) : CircuitState → CircuitBreaker
  | .halfOpen => ⟨.open now, settings.failureThreshold, breaker.halfOpenInFlight - 1⟩
  | _ =>
      let failed := { breaker with failureCount := breaker.failureCount + 1 }
      if settings.failureThreshold ≤ failed.failureCount then { failed with state := .open now }
      else failed

/-- What a call that is let through finds: a closed breaker, an open one after its recovery,
or a half-open one with room for a probe. -/
inductive Admits (now : Seconds) : CircuitState → CircuitBreaker → Prop
  | closed (closed : breaker.state = .closed) : Admits now .closed breaker
  | recovered {openedAt : Seconds} (opened : breaker.state = .open openedAt)
      (late : openedAt + settings.recoveryTimeoutSeconds ≤ now) :
      Admits now .halfOpen { breaker with state := .halfOpen, halfOpenInFlight := 1 }
  | probe (half : breaker.state = .halfOpen)
      (room : breaker.halfOpenInFlight < settings.halfOpenMaxCalls) :
      Admits now .halfOpen { breaker with halfOpenInFlight := breaker.halfOpenInFlight + 1 }

variable {settings breaker}

theorem beforeCall_closed (closed : breaker.state = .closed) (now : Seconds) :
    breaker.beforeCall settings now = .ok (.closed, breaker) := by
  obtain ⟨state, failureCount, halfOpenInFlight⟩ := breaker
  subst closed
  rfl

theorem beforeCall_open {openedAt : Seconds} (opened : breaker.state = .open openedAt)
    (now : Seconds) : breaker.beforeCall settings now =
      if openedAt + settings.recoveryTimeoutSeconds ≤ now then
        .ok (.halfOpen, { breaker with state := .halfOpen, halfOpenInFlight := 1 })
      else .error (.circuitOpenError (PyStr.ofString "circuit breaker is open")) := by
  obtain ⟨state, failureCount, halfOpenInFlight⟩ := breaker
  subst opened
  have room : ¬ settings.halfOpenMaxCalls ≤ 0 := Nat.not_le.mpr settings.probes
  unfold beforeCall recover
  by_cases late : openedAt + settings.recoveryTimeoutSeconds ≤ now
  · rw [if_pos late]
    simp only [if_pos (le_sub_iff_add_le'.mpr late)]
    change (if settings.halfOpenMaxCalls ≤ 0 then _ else _) = _
    rw [if_neg room]
  · rw [if_neg late]
    simp only [if_neg (mt le_sub_iff_add_le'.mp late)]
    rfl

theorem beforeCall_halfOpen (half : breaker.state = .halfOpen) (now : Seconds) :
    breaker.beforeCall settings now =
      if settings.halfOpenMaxCalls ≤ breaker.halfOpenInFlight then
        .error (.circuitOpenError (PyStr.ofString "circuit breaker half-open probe limit reached"))
      else .ok (.halfOpen, { breaker with halfOpenInFlight := breaker.halfOpenInFlight + 1 }) := by
  obtain ⟨state, failureCount, halfOpenInFlight⟩ := breaker
  subst half
  rfl

theorem admits_of_beforeCall {now : Seconds} {state : CircuitState} {next : CircuitBreaker}
    (admitted : breaker.beforeCall settings now = .ok (state, next)) :
    breaker.Admits settings now state next := by
  cases found : breaker.state with
  | closed =>
      rw [beforeCall_closed found] at admitted
      cases admitted
      exact .closed found
  | «open» openedAt =>
      rw [beforeCall_open found] at admitted
      split at admitted
      · next late =>
        cases admitted
        exact .recovered found late
      · cases admitted
  | halfOpen =>
      rw [beforeCall_halfOpen found] at admitted
      split at admitted
      · cases admitted
      · next room =>
        cases admitted
        exact .probe found (Nat.not_le.mp room)

end CircuitBreaker

/-- A breaker, the calls in flight with the states in which they were admitted, the last
reading of the clock, and when the breaker last opened unless it has closed since. -/
structure BreakerSystem where
  breaker : CircuitBreaker := {}
  calls : List CircuitState := []
  now : Seconds
  lastOpened : Option Seconds := none

/-- What happens to a breaker. -/
inductive BreakerLabel
  | start (now : Seconds)
  | succeed (index : Nat)
  | fail (index : Nat) (now : Seconds)
  | cancel (index : Nat)

/-- The failure of a call opens the breaker. -/
def CircuitBreaker.opens (settings : BreakerSettings) (breaker : CircuitBreaker)
    (stateAtStart : CircuitState) : Bool :=
  stateAtStart = .halfOpen || settings.failureThreshold ≤ breaker.failureCount + 1

namespace CircuitBreaker

variable {settings : BreakerSettings} {breaker : CircuitBreaker}

theorem recordSuccess_state (stateAtStart : CircuitState) :
    (breaker.recordSuccess stateAtStart).state =
      if stateAtStart = .halfOpen then .closed else breaker.state := by
  cases stateAtStart <;> rfl

theorem recordSuccess_halfOpenInFlight (stateAtStart : CircuitState) :
    (breaker.recordSuccess stateAtStart).halfOpenInFlight =
      breaker.halfOpenInFlight - if stateAtStart = .halfOpen then 1 else 0 := by
  cases stateAtStart <;> rfl

theorem recordFailure_state (now : Seconds) (stateAtStart : CircuitState) :
    (breaker.recordFailure settings now stateAtStart).state =
      if breaker.opens settings stateAtStart then .open now else breaker.state := by
  cases stateAtStart with
  | halfOpen => rfl
  | closed | «open» _ =>
      unfold recordFailure opens
      by_cases reached : settings.failureThreshold ≤ breaker.failureCount + 1 <;> simp [reached]

theorem recordFailure_halfOpenInFlight (now : Seconds) (stateAtStart : CircuitState) :
    (breaker.recordFailure settings now stateAtStart).halfOpenInFlight =
      breaker.halfOpenInFlight - if stateAtStart = .halfOpen then 1 else 0 := by
  cases stateAtStart with
  | halfOpen => rfl
  | closed | «open» _ =>
      unfold recordFailure
      by_cases reached : settings.failureThreshold ≤ breaker.failureCount + 1 <;> simp [reached]

end CircuitBreaker

namespace BreakerSystem

variable (settings : BreakerSettings) (system : BreakerSystem)

/-- `call`, cut at the operation. A call that is refused raises and is gone; one that is
cancelled passes both record functions by. -/
def step : BreakerLabel → Option BreakerSystem
  | .start now =>
      if system.now ≤ now then
        match system.breaker.beforeCall settings now with
        | .ok (state, breaker) =>
            some { system with breaker, calls := system.calls ++ [state], now }
        | .error _ => some { system with now }
      else none
  | .succeed index =>
      match system.calls[index]? with
      | some state =>
          some { system with
            breaker := system.breaker.recordSuccess state
            calls := system.calls.eraseIdx index
            lastOpened := if state = .halfOpen then none else system.lastOpened }
      | none => none
  | .fail index now =>
      if system.now ≤ now then
        match system.calls[index]? with
        | some state =>
            some {
              breaker := system.breaker.recordFailure settings now state
              calls := system.calls.eraseIdx index
              now
              lastOpened :=
                if system.breaker.opens settings state then some now else system.lastOpened }
        | none => none
      else none
  | .cancel index =>
      match system.calls[index]? with
      | some _ => some { system with calls := system.calls.eraseIdx index }
      | none => none

/-- The calls in flight that were admitted as probes. -/
def probes : Nat := system.calls.count .halfOpen

/-- The breaker becomes half open only when no probe is in flight. -/
def drained : BreakerLabel → Bool
  | .start now =>
      match system.breaker.state with
      | .open openedAt => now < openedAt + settings.recoveryTimeoutSeconds || system.probes = 0
      | _ => true
  | _ => true

/-- No probe is cancelled. -/
def keepsProbes : BreakerLabel → Bool
  | .cancel index => system.calls[index]? ≠ some .halfOpen
  | _ => true

/-- What a step of the system does. -/
inductive Moves : BreakerLabel → BreakerSystem → Prop
  | refused {now : Seconds} (ordered : system.now ≤ now) : Moves (.start now) { system with now }
  | admitted {now : Seconds} {state : CircuitState} {breaker : CircuitBreaker}
      (ordered : system.now ≤ now) (admits : system.breaker.Admits settings now state breaker) :
      Moves (.start now) { system with breaker, calls := system.calls ++ [state], now }
  | succeeded {index : Nat} {state : CircuitState} (found : system.calls[index]? = some state) :
      Moves (.succeed index) { system with
        breaker := system.breaker.recordSuccess state
        calls := system.calls.eraseIdx index
        lastOpened := if state = .halfOpen then none else system.lastOpened }
  | failed {index : Nat} {now : Seconds} {state : CircuitState} (ordered : system.now ≤ now)
      (found : system.calls[index]? = some state) :
      Moves (.fail index now) {
        breaker := system.breaker.recordFailure settings now state
        calls := system.calls.eraseIdx index
        now
        lastOpened := if system.breaker.opens settings state then some now else system.lastOpened }
  | cancelled {index : Nat} {state : CircuitState} (found : system.calls[index]? = some state) :
      Moves (.cancel index) { system with calls := system.calls.eraseIdx index }

variable {settings system}

theorem moves_of_step {label : BreakerLabel} {next : BreakerSystem}
    (stepped : system.step settings label = some next) : system.Moves settings label next := by
  cases label with
  | start now =>
      unfold step at stepped
      dsimp only at stepped
      split at stepped
      · next ordered =>
        split at stepped
        · next admitted =>
          cases stepped
          exact .admitted ordered (CircuitBreaker.admits_of_beforeCall admitted)
        · cases stepped
          exact .refused ordered
      · cases stepped
  | succeed index =>
      unfold step at stepped
      dsimp only at stepped
      split at stepped
      · next found =>
        cases stepped
        exact .succeeded found
      · cases stepped
  | fail index now =>
      unfold step at stepped
      dsimp only at stepped
      split at stepped
      · next ordered =>
        split at stepped
        · next found =>
          cases stepped
          exact .failed ordered found
        · cases stepped
      · cases stepped
  | cancel index =>
      unfold step at stepped
      dsimp only at stepped
      split at stepped
      · next found =>
        cases stepped
        exact .cancelled found
      · cases stepped

/-- The call that ends is one of those in flight. -/
theorem probes_eraseIdx {index : Nat} {state : CircuitState}
    (found : system.calls[index]? = some state) :
    system.probes = (system.calls.eraseIdx index).count .halfOpen +
      if state = .halfOpen then 1 else 0 := by
  obtain ⟨bound, rfl⟩ := List.getElem?_eq_some_iff.mp found
  have listed := (List.getElem_cons_eraseIdx_perm bound).count_eq .halfOpen
  unfold probes
  rw [← listed, List.count_cons]
  simp only [beq_iff_eq]

/-- What the state of a breaker says about when it last opened. -/
def Dates (settings : BreakerSettings) (lastOpened : Option Seconds) (now : Seconds) :
    CircuitState → Prop
  | .closed => lastOpened = none
  | .open openedAt => lastOpened = some openedAt
  | .halfOpen => ∃ openedAt, lastOpened = some openedAt ∧
      openedAt + settings.recoveryTimeoutSeconds ≤ now

theorem Dates.later {lastOpened : Option Seconds} {now later : Seconds} {state : CircuitState}
    (dates : Dates settings lastOpened now state) (ordered : now ≤ later) :
    Dates settings lastOpened later state := by
  cases state with
  | closed => exact dates
  | «open» openedAt => exact dates
  | halfOpen =>
      obtain ⟨openedAt, opened, recovered⟩ := dates
      exact ⟨openedAt, opened, recovered.trans ordered⟩

/-- A call is admitted when the recovery is over, and the breaker stays dated. -/
theorem Dates.admits {lastOpened : Option Seconds} {now later : Seconds} {state : CircuitState}
    {breaker next : CircuitBreaker} (dates : Dates settings lastOpened now breaker.state)
    (ordered : now ≤ later) (admits : breaker.Admits settings later state next) :
    (∀ openedAt, lastOpened = some openedAt → openedAt + settings.recoveryTimeoutSeconds ≤ later) ∧
      Dates settings lastOpened later next.state := by
  cases admits with
  | closed closed =>
      rw [closed] at dates
      refine ⟨?_, by rw [closed]; exact dates⟩
      rintro openedAt opened
      rw [dates] at opened
      cases opened
  | recovered opened late =>
      rw [opened] at dates
      refine ⟨?_, _, dates, late⟩
      rintro openedAt same
      rw [dates] at same
      cases same
      exact late
  | probe half room =>
      rw [half] at dates
      obtain ⟨openedAt, opened, recovered⟩ := dates
      refine ⟨?_, ?_⟩
      · rintro found same
        rw [opened] at same
        cases same
        exact recovered.trans ordered
      · show Dates settings lastOpened later breaker.state
        rw [half]
        exact ⟨openedAt, opened, recovered.trans ordered⟩

/-- The breaker knows when it last opened. -/
def Dated (settings : BreakerSettings) (system : BreakerSystem) : Prop :=
  Dates settings system.lastOpened system.now system.breaker.state

theorem Dated.moves {label : BreakerLabel} {next : BreakerSystem} (dated : system.Dated settings)
    (moves : system.Moves settings label next) : next.Dated settings := by
  unfold Dated at *
  cases moves with
  | refused ordered => exact dated.later ordered
  | admitted ordered admits => exact (dated.admits ordered admits).2
  | @succeeded index state found =>
      dsimp only
      rw [CircuitBreaker.recordSuccess_state]
      by_cases probe : state = .halfOpen
      · rw [if_pos probe, if_pos probe]
        rfl
      · rw [if_neg probe, if_neg probe]
        exact dated
  | @failed index now state ordered found =>
      dsimp only
      rw [CircuitBreaker.recordFailure_state]
      by_cases opens : system.breaker.opens settings state = true
      · rw [if_pos opens, if_pos opens]
        rfl
      · rw [if_neg opens, if_neg opens]
        exact dated.later ordered
  | cancelled found => exact dated

/-- The breaker counts every probe in flight, and its count is bounded. -/
def Bounded (settings : BreakerSettings) (system : BreakerSystem) : Prop :=
  system.probes ≤ system.breaker.halfOpenInFlight ∧
    system.breaker.halfOpenInFlight ≤ settings.halfOpenMaxCalls

theorem probes_append (calls : List CircuitState) (state : CircuitState) :
    (calls ++ [state]).count .halfOpen =
      calls.count .halfOpen + if state = .halfOpen then 1 else 0 := by
  rw [List.count_append, List.count_singleton]
  simp only [beq_iff_eq]

theorem Bounded.moves {label : BreakerLabel} {next : BreakerSystem}
    (bounded : system.Bounded settings) (drained : system.drained settings label = true)
    (moves : system.Moves settings label next) : next.Bounded settings := by
  obtain ⟨counted, bound⟩ := bounded
  cases moves with
  | refused ordered => exact ⟨counted, bound⟩
  | @admitted now state breaker ordered admits =>
      unfold Bounded probes
      dsimp only
      rw [probes_append]
      cases admits with
      | closed closed => exact ⟨counted, bound⟩
      | recovered opened late =>
          unfold BreakerSystem.drained at drained
          rw [opened] at drained
          have none : system.probes = 0 := by
            simpa [late.not_gt] using drained
          exact ⟨by simp [show system.calls.count .halfOpen = 0 from none], settings.probes⟩
      | probe half room => exact ⟨Nat.add_le_add_right counted 1, room⟩
  | @succeeded index state found =>
      rw [probes_eraseIdx found] at counted
      unfold Bounded probes
      dsimp only
      rw [CircuitBreaker.recordSuccess_halfOpenInFlight]
      omega
  | @failed index now state ordered found =>
      rw [probes_eraseIdx found] at counted
      unfold Bounded probes
      dsimp only
      rw [CircuitBreaker.recordFailure_halfOpenInFlight]
      omega
  | @cancelled index state found =>
      rw [probes_eraseIdx found] at counted
      exact ⟨(Nat.le_add_right _ _).trans counted, bound⟩

/-- Every probe that the breaker counts is in flight. -/
def Counted (system : BreakerSystem) : Prop :=
  system.breaker.halfOpenInFlight ≤ system.probes

theorem Counted.moves {label : BreakerLabel} {next : BreakerSystem} (counted : system.Counted)
    (keeps : system.keepsProbes label = true) (moves : system.Moves settings label next) :
    next.Counted := by
  unfold Counted at *
  cases moves with
  | refused ordered => exact counted
  | @admitted now state breaker ordered admits =>
      unfold probes at *
      dsimp only
      rw [probes_append]
      cases admits with
      | closed closed => exact counted
      | recovered opened late => exact Nat.le_add_left _ _
      | probe half room => exact Nat.add_le_add_right counted 1
  | @succeeded index state found =>
      rw [probes_eraseIdx found] at counted
      unfold probes
      dsimp only
      rw [CircuitBreaker.recordSuccess_halfOpenInFlight]
      omega
  | @failed index now state ordered found =>
      rw [probes_eraseIdx found] at counted
      unfold probes
      dsimp only
      rw [CircuitBreaker.recordFailure_halfOpenInFlight]
      omega
  | @cancelled index state found =>
      have plain : state ≠ .halfOpen := by
        have other : system.calls[index]? ≠ some .halfOpen := of_decide_eq_true keeps
        rintro rfl
        exact other found
      rw [probes_eraseIdx found, if_neg plain] at counted
      exact counted

/-- In a run in which the breaker becomes half open only when no probe is in flight, no more
probes are in flight than allowed. In every run, no call is admitted before the recovery is
over. -/
theorem half_open_probes_bounded (settings : BreakerSettings) {start : Seconds}
    (run : RunsUnder (step settings) (fun _ _ => True) { now := start } system) :
    (RunsUnder (step settings) (fun before label => before.drained settings label = true)
      { now := start } system → system.probes ≤ settings.halfOpenMaxCalls) ∧
      ∀ now state breaker, system.now ≤ now →
        system.breaker.beforeCall settings now = .ok (state, breaker) →
        ∀ openedAt, system.lastOpened = some openedAt →
          openedAt + settings.recoveryTimeoutSeconds ≤ now := by
  have dated : system.Dated settings :=
    run.invariant (Dated settings) rfl fun dated _ stepped => dated.moves (moves_of_step stepped)
  refine ⟨fun run => ?_, fun now state breaker ordered admitted => ?_⟩
  · have bounded : system.Bounded settings :=
      run.invariant (Bounded settings) ⟨Nat.zero_le _, Nat.zero_le _⟩
        fun bounded drained stepped => bounded.moves drained (moves_of_step stepped)
    exact bounded.1.trans bounded.2
  · exact (dated.admits ordered (CircuitBreaker.admits_of_beforeCall admitted)).1

/-- One failure opens the breaker, for a second, and one probe is allowed. -/
def strict : BreakerSettings := ⟨1, 1, 1, Nat.one_pos, one_pos, Nat.one_pos⟩

/-- A probe is admitted after a failure and fails, and a second one is admitted. -/
theorem probe_fails_before_next : ∃ system : BreakerSystem,
    (system.probes = 1 ∧ system.lastOpened = some 1) ∧
      system.probes ≤ strict.halfOpenMaxCalls ∧
      ∀ now state breaker, system.now ≤ now →
        system.breaker.beforeCall strict now = .ok (state, breaker) →
        ∀ openedAt, system.lastOpened = some openedAt →
          openedAt + strict.recoveryTimeoutSeconds ≤ now := by
  obtain ⟨system, run, reached⟩ := exists_runsUnder
    [.start 0, .fail 0 0, .start 1, .fail 0 1, .start 2]
    (fun system => system.probes = 1 ∧ system.lastOpened = some 1)
    (show (runUnder (step strict) (drained strict) { now := 0 } _).any _ = true by decide +kernel)
  have shown := half_open_probes_bounded strict (run.mono fun _ _ _ => trivial)
  exact ⟨system, of_decide_eq_true reached, shown.1 run, shown.2⟩

/-- A call of the closed breaker fails while a probe is in flight. The breaker opens, forgets
the probe when it is half open again, and admits a second one. -/
theorem straggler_frees_probe : ∃ system : BreakerSystem,
    RunsUnder (step strict) (fun _ _ => True) { now := 0 } system ∧
      strict.halfOpenMaxCalls < system.probes := by
  obtain ⟨system, run, exceeded⟩ := exists_runsUnder
    [.start 0, .start 0, .fail 0 0, .start 1, .fail 0 1, .start 2]
    (fun system => strict.halfOpenMaxCalls < system.probes)
    (show (runUnder (step strict) (fun _ _ => true) { now := 0 } _).any _ = true by
      decide +kernel)
  exact ⟨system, run.mono fun _ _ _ => trivial, of_decide_eq_true exceeded⟩

/-- While no probe is cancelled, a breaker with no call in flight admits a call after its
recovery. -/
theorem idle_breaker_admits (settings : BreakerSettings) {start : Seconds}
    (run : RunsUnder (step settings) (fun before label => before.keepsProbes label = true)
      { now := start } system) (idle : system.calls = []) (now : Seconds)
    (recovered : ∀ openedAt, system.lastOpened = some openedAt →
      openedAt + settings.recoveryTimeoutSeconds ≤ now) :
    ∃ admitted, system.breaker.beforeCall settings now = .ok admitted := by
  have counted : system.Counted :=
    run.invariant Counted le_rfl fun counted keeps stepped =>
      counted.moves keeps (moves_of_step stepped)
  have dated : system.Dated settings :=
    run.invariant (Dated settings) rfl fun dated _ stepped => dated.moves (moves_of_step stepped)
  unfold Dated at dated
  cases found : system.breaker.state with
  | closed => exact ⟨_, CircuitBreaker.beforeCall_closed found now⟩
  | «open» openedAt =>
      rw [found] at dated
      rw [CircuitBreaker.beforeCall_open found, if_pos (recovered openedAt dated)]
      exact ⟨_, rfl⟩
  | halfOpen =>
      have none : system.breaker.halfOpenInFlight = 0 := by
        unfold Counted probes at counted
        rw [idle] at counted
        exact Nat.le_zero.mp counted
      rw [CircuitBreaker.beforeCall_halfOpen found, none,
        if_neg (Nat.not_le.mpr settings.probes)]
      exact ⟨_, rfl⟩

theorem failed_probe_recovers : ∃ system : BreakerSystem,
    (system.calls = [] ∧ system.lastOpened = some 1) ∧
      ∃ admitted, system.breaker.beforeCall strict 2 = .ok admitted := by
  obtain ⟨system, run, reached⟩ := exists_runsUnder
    [.start 0, .fail 0 0, .start 1, .fail 0 1]
    (fun system => system.calls = [] ∧ system.lastOpened = some 1)
    (show (runUnder (step strict) keepsProbes { now := 0 } _).any _ = true by decide +kernel)
  obtain ⟨idle, opened⟩ := of_decide_eq_true reached
  refine ⟨system, ⟨idle, opened⟩, idle_breaker_admits strict run idle 2 ?_⟩
  rintro openedAt same
  rw [opened] at same
  cases same
  decide +kernel

/-- A probe is cancelled. The breaker keeps counting it and refuses every later call. -/
theorem cancelled_probe_wedges : ∃ system : BreakerSystem,
    RunsUnder (step strict) (fun _ _ => True) { now := 0 } system ∧
      system.calls = [] ∧ system.lastOpened = some 0 ∧
      ∀ now, ∃ refusal, system.breaker.beforeCall strict now = .error refusal := by
  obtain ⟨system, run, reached⟩ := exists_runsUnder
    [.start 0, .fail 0 0, .start 1, .cancel 0]
    (fun system => (system.calls = [] ∧ system.lastOpened = some 0) ∧
      system.breaker.state = .halfOpen ∧ system.breaker.halfOpenInFlight = 1)
    (show (runUnder (step strict) (fun _ _ => true) { now := 0 } _).any _ = true by
      decide +kernel)
  obtain ⟨⟨idle, opened⟩, half, counted⟩ := of_decide_eq_true reached
  refine ⟨system, run.mono fun _ _ _ => trivial, idle, opened, fun now => ?_⟩
  rw [CircuitBreaker.beforeCall_halfOpen half, counted,
    if_pos (show strict.halfOpenMaxCalls ≤ 1 from le_rfl)]
  exact ⟨_, rfl⟩

end BreakerSystem

end Distsys
