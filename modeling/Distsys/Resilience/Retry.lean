import Mathlib.Tactic.Linarith
import Distsys.Lib.Trace
import Distsys.Membership.Table

/-!
# Retries within a deadline

`retry_async` with its policy and its deadline. An operation of the coroutine is one access to
what it does not decide itself: the operation that is retried, the clock of the deadline, the
jitter and the sleep. Time is rational.
-/

namespace Distsys

/-- `Deadline`. -/
structure Deadline where
  expiresAt : Seconds

namespace Deadline

/-- `remaining`. -/
def remaining (deadline : Deadline) (now : Seconds) : Seconds := max 0 (deadline.expiresAt - now)

/-- `expired`. -/
def expired (deadline : Deadline) (now : Seconds) : Bool := deadline.remaining now ≤ 0

variable {deadline : Deadline} {now later : Seconds}

theorem remaining_nonpos : deadline.remaining now ≤ 0 ↔ deadline.expiresAt ≤ now := by
  unfold remaining
  rw [max_le_iff, sub_nonpos]
  exact and_iff_right le_rfl

theorem expired_iff : deadline.expired now = true ↔ deadline.expiresAt ≤ now :=
  decide_eq_true_iff.trans remaining_nonpos

theorem expired_mono (expired : deadline.expired now = true) (ordered : now ≤ later) :
    deadline.expired later = true :=
  expired_iff.mpr ((expired_iff.mp expired).trans ordered)

theorem remaining_anti (ordered : now ≤ later) :
    deadline.remaining later ≤ deadline.remaining now :=
  max_le_max_left 0 (sub_le_sub_left ordered _)

end Deadline

/-- The retry policy, with the checks of its constructor. -/
structure RetryPolicy where
  maxAttempts : Nat
  baseDelaySeconds : Seconds
  maxDelaySeconds : Seconds
  attempted : 1 ≤ maxAttempts
  nonnegative : 0 ≤ baseDelaySeconds
  ordered : baseDelaySeconds ≤ maxDelaySeconds

/-- What a retrying coroutine does in one step. -/
inductive RetryOp
  | now
  | invoke
  | uniform (least most : Seconds)
  | sleep (delay : Seconds)

/-- What an operation returns. -/
abbrev RetryOp.Answer (ε α : Type) : RetryOp → Type
  | .now | .uniform _ _ => Seconds
  | .invoke => Except ε α
  | .sleep _ => Unit

/-- The operations of a retry. -/
def retrySignature (ε α : Type) : Signature := ⟨RetryOp, RetryOp.Answer ε α⟩

/-- What `retry_async` raises: an exception of the operation, or one of its own. -/
inductive RetryError (ε : Type)
  | operation (error : ε)
  | deadlineExceeded (message : String)
  | runtimeError (message : String)

/-- Code that retries. -/
abbrev RetryCode (ε α : Type) := Prog (retrySignature ε α) (RetryError ε)

section Code

variable {ε α : Type}

/-- One operation. -/
def retryOp (op : RetryOp) : RetryCode ε α (op.Answer ε α) := @Prog.op (retrySignature ε α) _ op

/-- A test of the deadline, which reads the clock if there is a deadline. -/
def Deadline.test (late : Deadline → Seconds → Bool) : Option Deadline → RetryCode ε α Bool
  | none => return false
  | some deadline => do
      let now ← retryOp .now
      return late deadline now

namespace RetryPolicy

variable (policy : RetryPolicy) (deadline : Option Deadline) (isException shouldRetry : ε → Bool)

/-- The most that is waited after an attempt. -/
def cap (index : Nat) : Seconds :=
  min policy.maxDelaySeconds (policy.baseDelaySeconds * 2 ^ index)

/-- `random_fn(0.0, cap) if cap > 0 else 0.0`. -/
def delay (index : Nat) : RetryCode ε α Seconds :=
  if 0 < policy.cap index then retryOp (.uniform 0 (policy.cap index)) else return 0

/-- The loop over `range(max_attempts)`, with the number of turns that are left. What is not an
`Exception`, such as a cancellation, is not caught. -/
def retryLoop : (left index : Nat) → RetryCode ε α α
  | 0, _ => throw (.runtimeError "retry loop exhausted unexpectedly")
  | left + 1, index => do
      if ← Deadline.test Deadline.expired deadline then
        throw (.deadlineExceeded "request deadline exceeded before retry attempt")
      else
        match ← retryOp .invoke with
        | .ok value => return value
        | .error error =>
            if isException error = false then throw (.operation error)
            else if policy.maxAttempts ≤ index + 1 ∨ shouldRetry error = false then
              throw (.operation error)
            else do
              let delay ← policy.delay index
              if ← Deadline.test (fun deadline now => deadline.remaining now ≤ 0 ∨
                  deadline.remaining now ≤ delay) deadline then
                throw (.deadlineExceeded "request deadline exceeded during retry backoff")
              else do
                if 0 < delay then retryOp (.sleep delay)
                retryLoop left (index + 1)

/-- `retry_async`. -/
def retryAsync : RetryCode ε α α :=
  policy.retryLoop deadline isException shouldRetry policy.maxAttempts 0

end RetryPolicy

end Code

section Events

variable {ε α : Type}

/-- One operation with its answer. -/
abbrev RetryEvent (ε α : Type) := (retrySignature ε α).Event

/-- The jitter is within its bounds. -/
def RetryOp.Possible : (op : RetryOp) → op.Answer ε α → Prop
  | .uniform least most, drawn => least ≤ drawn ∧ drawn ≤ most
  | _, _ => True

/-- How the retried operation ended. -/
def RetryEvent.outcome? : RetryEvent ε α → Option (Except ε α)
  | ⟨.invoke, outcome⟩ => some outcome
  | _ => none

/-- What the clock showed. -/
def RetryEvent.reading? : RetryEvent ε α → Option Seconds
  | ⟨.now, reading⟩ => some reading
  | _ => none

/-- The outcomes of the attempts, in order. -/
def outcomes (events : List (RetryEvent ε α)) : List (Except ε α) :=
  events.filterMap RetryEvent.outcome?

/-- The readings of the clock, in order. -/
def readings (events : List (RetryEvent ε α)) : List Seconds :=
  events.filterMap RetryEvent.reading?

end Events

section Budget

variable {ε α : Type} {policy : RetryPolicy} {deadline : Option Deadline}
  {isException shouldRetry : ε → Bool} {events : List (RetryEvent ε α)}

/-- Every attempt has failed with an exception that is retried. -/
def Retried (isException shouldRetry : ε → Bool) (outcomes : List (Except ε α)) : Prop :=
  ∀ outcome ∈ outcomes, ∃ error, outcome = .error error ∧ isException error = true ∧
    shouldRetry error = true

/-- The last event is a reading of the clock with which the deadline is met. -/
def JustRead (meets : Deadline → Seconds → Prop) (deadline : Option Deadline)
    (events : List (RetryEvent ε α)) : Prop :=
  ∀ limit, deadline = some limit → ∃ now : Seconds,
    events.getLast? = some (⟨.now, now⟩ : RetryEvent ε α) ∧ meets limit now

/-- What holds when `retry_async` accesses something. -/
def RetryGuard (policy : RetryPolicy) (deadline : Option Deadline)
    (isException shouldRetry : ε → Bool) (events : List (RetryEvent ε α)) (op : RetryOp) : Prop :=
  events.length < 5 * policy.maxAttempts ∧ match op with
    | .invoke => (outcomes events).length < policy.maxAttempts ∧
        Retried isException shouldRetry (outcomes events) ∧
        JustRead (fun limit now => limit.expired now = false) deadline events
    | .sleep delay => (∃ index, (outcomes events).length = index + 1 ∧ delay ≤ policy.cap index) ∧
        JustRead (fun limit now => delay < limit.remaining now) deadline events
    | _ => True

/-- How `retry_async` ends. -/
def RetryEnds (deadline : Option Deadline) (isException shouldRetry : ε → Bool)
    (events : List (RetryEvent ε α)) : Except (RetryError ε) α → Prop
  | .ok value => ∃ earlier, outcomes events = earlier ++ [.ok value] ∧
      Retried isException shouldRetry earlier
  | .error (.operation error) => ∃ earlier, outcomes events = earlier ++ [.error error] ∧
      Retried isException shouldRetry earlier
  | .error (.deadlineExceeded _) => deadline ≠ none
  | .error (.runtimeError _) => False

/-- The monitor of a retry. -/
abbrev retryMonitor (policy : RetryPolicy) (deadline : Option Deadline)
    (isException shouldRetry : ε → Bool) : Monitor (retrySignature ε α) (List (RetryEvent ε α)) :=
  recorder (retrySignature ε α) RetryOp.Possible
    (RetryGuard policy deadline isException shouldRetry)

/-- The retry loop after a number of turns. -/
structure Retrying (isException shouldRetry : ε → Bool) (index : Nat)
    (events : List (RetryEvent ε α)) : Prop where
  attempts : (outcomes events).length = index
  retried : Retried isException shouldRetry (outcomes events)
  short : events.length ≤ 5 * index

theorem outcomes_append (events : List (RetryEvent ε α)) (event : RetryEvent ε α) :
    outcomes (events ++ [event]) = outcomes events ++ event.outcome?.toList := by
  rw [outcomes, List.filterMap_append]
  cases found : event.outcome? with
  | none => rw [List.filterMap_cons_none found]; rfl
  | some outcome => rw [List.filterMap_cons_some found]; rfl

/-- An access that is no attempt. -/
theorem outcomes_append_of_none {event : RetryEvent ε α} (none : event.outcome? = none) :
    outcomes (events ++ [event]) = outcomes events := by
  rw [outcomes_append, none]
  exact List.append_nil _

section Rules

variable {β : Type} {post : Except (RetryError ε) β → List (RetryEvent ε α) → Prop}

theorem obeys_test {late : Deadline → Seconds → Bool} {next : Bool → RetryCode ε α β}
    (room : events.length < 5 * policy.maxAttempts)
    (goesOn : ∀ later, outcomes later = outcomes events → later.length ≤ events.length + 1 →
      JustRead (fun limit now => late limit now = false) deadline later →
      Prog.Obeys (retryMonitor policy deadline isException shouldRetry) post (next false) later)
    (stops : deadline ≠ none → ∀ later,
      Prog.Obeys (retryMonitor policy deadline isException shouldRetry) post (next true) later) :
    Prog.Obeys (retryMonitor policy deadline isException shouldRetry) post
      (Deadline.test late deadline >>= next) events := by
  cases limited : deadline with
  | none =>
      subst limited
      exact goesOn events rfl (Nat.le_succ _) (by rintro _ ⟨⟩)
  | some limit =>
      subst limited
      refine ⟨⟨room, trivial⟩, fun (now : Seconds) _ => ?_⟩
      change Prog.Obeys _ _ (next (late limit now)) (events ++ [⟨.now, now⟩])
      cases tested : late limit now with
      | true => exact stops (Option.some_ne_none limit) _
      | false =>
          refine goesOn _ (outcomes_append_of_none rfl) (List.length_append ..).le ?_
          rintro _ ⟨⟩
          exact ⟨now, List.getLast?_concat .., tested⟩

theorem obeys_delay {index : Nat} {next : Seconds → RetryCode ε α β}
    (room : events.length < 5 * policy.maxAttempts) (capped : 0 ≤ policy.cap index)
    (rest : ∀ delay later, delay ≤ policy.cap index → outcomes later = outcomes events →
      later.length ≤ events.length + 1 →
      Prog.Obeys (retryMonitor policy deadline isException shouldRetry) post (next delay) later) :
    Prog.Obeys (retryMonitor policy deadline isException shouldRetry) post
      (policy.delay index >>= next) events := by
  unfold RetryPolicy.delay
  split
  · exact ⟨⟨room, trivial⟩, fun (drawn : Seconds) within => rest drawn _ within.2
      (outcomes_append_of_none rfl) (List.length_append ..).le⟩
  · exact rest 0 events capped rfl (Nat.le_succ _)

/-- The sleep of the loop, which is left out if there is nothing to wait for. -/
theorem obeys_sleep {delay : Seconds} {next : RetryCode ε α β}
    (guard : RetryGuard policy deadline isException shouldRetry events (.sleep delay))
    (rest : ∀ later, outcomes later = outcomes events → later.length ≤ events.length + 1 →
      Prog.Obeys (retryMonitor policy deadline isException shouldRetry) post next later) :
    Prog.Obeys (retryMonitor policy deadline isException shouldRetry) post (do
      if 0 < delay then retryOp (.sleep delay)
      next) events := by
  split
  · exact ⟨guard, fun _ _ => rest _ (outcomes_append_of_none rfl) (List.length_append ..).le⟩
  · exact rest events rfl (Nat.le_succ _)

end Rules

theorem RetryPolicy.cap_nonneg (policy : RetryPolicy) (index : Nat) : 0 ≤ policy.cap index :=
  le_min (policy.nonnegative.trans policy.ordered)
    (mul_nonneg policy.nonnegative (pow_nonneg zero_le_two index))

/-- A failed attempt is one more, and the exceptions before it were retried. -/
theorem Retried.append {earlier : List (Except ε α)} {error : ε}
    (retried : Retried isException shouldRetry earlier) (caught : isException error = true)
    (accepted : shouldRetry error = true) :
    Retried isException shouldRetry (earlier ++ [.error error]) := by
  intro outcome listed
  rcases List.mem_append.mp listed with listed | listed
  · exact retried outcome listed
  · exact ⟨error, List.mem_singleton.mp listed, caught, accepted⟩

/-- The wait after a failed attempt. -/
theorem obeys_backoff {index : Nat} {next : RetryCode ε α α}
    (attempts : (outcomes events).length = index + 1) (short : events.length ≤ 5 * index + 2)
    (more : index + 1 < policy.maxAttempts)
    (rest : ∀ later, outcomes later = outcomes events → later.length ≤ 5 * (index + 1) →
      Prog.Obeys (retryMonitor policy deadline isException shouldRetry)
        (fun result events => RetryEnds deadline isException shouldRetry events result)
        next later) :
    Prog.Obeys (retryMonitor policy deadline isException shouldRetry)
      (fun result events => RetryEnds deadline isException shouldRetry events result) (do
        let delay ← policy.delay index
        if ← Deadline.test (fun deadline now => deadline.remaining now ≤ 0 ∨
            deadline.remaining now ≤ delay) deadline then
          throw (.deadlineExceeded "request deadline exceeded during retry backoff")
        else do
          if 0 < delay then retryOp (.sleep delay)
          next) events := by
  refine obeys_delay (by omega) (policy.cap_nonneg index) fun delay drawn within same length => ?_
  refine obeys_test (by omega) (fun tested same' length' timely => ?_)
    fun limited later => Prog.obeys_done limited
  have known : outcomes tested = outcomes events := same'.trans same
  refine obeys_sleep ⟨by omega, ⟨index, known ▸ attempts, within⟩, ?_⟩
    fun later same'' length'' => rest later (same''.trans known) (by omega)
  intro limit limited
  obtain ⟨now, last, met⟩ := timely limit limited
  rw [decide_eq_false_iff_not, not_or, not_le, not_le] at met
  exact ⟨now, last, met.2⟩

/-- The loop keeps to the budget; `left` turns of it are to come. -/
theorem obeys_retryLoop {left index : Nat} (turns : left + index = policy.maxAttempts)
    (some : 0 < left) (retrying : Retrying isException shouldRetry index events) :
    Prog.Obeys (retryMonitor policy deadline isException shouldRetry)
      (fun result events => RetryEnds deadline isException shouldRetry events result)
      (policy.retryLoop deadline isException shouldRetry left index) events := by
  induction left generalizing index events with
  | zero => cases some
  | succ left ih =>
      obtain ⟨attempts, retried, short⟩ := retrying
      refine obeys_test (by omega) (fun checked same length timely => ?_)
        fun limited later => Prog.obeys_done limited
      rw [← same] at attempts retried
      refine ⟨⟨by omega, by omega, retried, timely⟩, fun (outcome : Except ε α) _ => ?_⟩
      have tried : outcomes (checked ++ [⟨.invoke, outcome⟩]) = outcomes checked ++ [outcome] :=
        outcomes_append checked ⟨.invoke, outcome⟩
      have grown : (checked ++ [⟨.invoke, outcome⟩] : List (RetryEvent ε α)).length =
          checked.length + 1 := List.length_append ..
      cases outcome with
      | ok value => exact Prog.obeys_done ⟨outcomes checked, tried, retried⟩
      | error error =>
          change Prog.Obeys _ _ (if isException error = false then _ else _)
            (checked ++ [⟨.invoke, .error error⟩])
          split
          · exact Prog.obeys_done ⟨outcomes checked, tried, retried⟩
          · next caught =>
            split
            · exact Prog.obeys_done ⟨outcomes checked, tried, retried⟩
            · next again =>
              obtain ⟨notLast, accepted⟩ := not_or.mp again
              have counted : (outcomes (checked ++ [⟨.invoke, .error error⟩])).length =
                  index + 1 := by
                rw [tried, List.length_append, attempts]
                rfl
              refine obeys_backoff counted (by omega) (by omega) fun later same' length' =>
                ih (by omega) (by omega) ⟨same' ▸ counted, ?_, length'⟩
              rw [same', tried]
              exact retried.append (Bool.not_eq_false _ ▸ caught) (Bool.not_eq_false _ ▸ accepted)

theorem obeys_retryAsync (policy : RetryPolicy) (deadline : Option Deadline)
    (isException shouldRetry : ε → Bool) :
    Prog.Obeys (retryMonitor policy deadline isException shouldRetry)
      (fun result events => RetryEnds deadline isException shouldRetry events result)
      (policy.retryAsync deadline isException shouldRetry : RetryCode ε α α) [] :=
  obeys_retryLoop (Nat.add_zero _) policy.attempted
    ⟨rfl, fun _ listed => absurd listed List.not_mem_nil, Nat.zero_le _⟩

section Readings

variable {before after : List (RetryEvent ε α)}

/-- The reading just made is the latest. -/
theorem le_of_justRead {now : Seconds} (clock : (readings (before ++ after)).Pairwise (· ≤ ·))
    (last : before.getLast? = some (⟨.now, now⟩ : RetryEvent ε α)) :
    ∀ reading ∈ readings before, reading ≤ now := by
  obtain ⟨earlier, rfl⟩ := List.getLast?_eq_some_iff.mp last
  have split : readings (earlier ++ [⟨.now, now⟩] : List (RetryEvent ε α)) =
      readings earlier ++ [now] := List.filterMap_append ..
  have ordered : (readings (earlier ++ [⟨.now, now⟩] : List (RetryEvent ε α))).Pairwise
      (· ≤ ·) := by
    rw [readings, List.filterMap_append] at clock
    exact (List.pairwise_append.mp clock).1
  rw [split] at ordered ⊢
  intro reading listed
  rcases List.mem_append.mp listed with listed | listed
  · exact (List.pairwise_append.mp ordered).2.2 reading listed now (List.mem_singleton_self now)
  · exact (List.mem_singleton.mp listed).le

end Readings

/-- The last attempt of a trace. -/
theorem exists_last_attempt {earlier : List (Except ε α)} {outcome : Except ε α}
    (found : outcomes events = earlier ++ [outcome]) :
    ∃ before after, events = before ++ ⟨.invoke, outcome⟩ :: after ∧ outcomes before = earlier := by
  obtain ⟨front, back, rfl, same, last⟩ := List.filterMap_eq_append_iff.mp found
  obtain ⟨skipped, ⟨op, answer⟩, after, rfl, silent, is, _⟩ := List.filterMap_eq_cons_iff.mp last
  refine ⟨front ++ skipped, after, ?_, ?_⟩
  · cases op with
    | invoke =>
        cases is
        rw [List.append_assoc]
    | now | uniform | sleep => cases is
  · rw [outcomes, List.filterMap_append, List.filterMap_eq_nil_iff.mpr silent, List.append_nil]
    exact same

/-- `retry_async` keeps to its budget: at any point of any call with a clock that does not go
back, there are at most `max_attempts` attempts, each after exceptions that are retried only and
while the deadline has not expired; each sleep is within the cap of its attempt and shorter than
what remains; the call is over after a bounded number of accesses, with the first result, the
last exception of the operation, or an expired deadline. -/
theorem retryAsync_within_budget {rest : RetryCode ε α α}
    (traces : Prog.Traces RetryOp.Possible
      (policy.retryAsync deadline isException shouldRetry) events rest)
    (clock : (readings events).Pairwise (· ≤ ·)) :
    (outcomes events).length ≤ policy.maxAttempts ∧
    (∀ before outcome after, events = before ++ ⟨.invoke, outcome⟩ :: after →
      (∀ earlier ∈ outcomes before, ∃ error, earlier = .error error ∧ shouldRetry error = true) ∧
      ∀ limit, deadline = some limit →
        (∃ now, before.getLast? = some (⟨.now, now⟩ : RetryEvent ε α)) ∧
        ∀ now ∈ readings before, limit.expired now = false) ∧
    (∀ before delay after, events = before ++ ⟨.sleep delay, ()⟩ :: after →
      (∃ index, (outcomes before).length = index + 1 ∧
        delay ≤ min policy.maxDelaySeconds (policy.baseDelaySeconds * 2 ^ index)) ∧
      ∀ limit, deadline = some limit →
        (∃ now, before.getLast? = some (⟨.now, now⟩ : RetryEvent ε α)) ∧
        ∀ now ∈ readings before, delay < limit.remaining now) ∧
    events.length ≤ 5 * policy.maxAttempts ∧
    ∀ result, rest = .done result → match result with
      | .ok value => ∃ earlier, outcomes events = earlier ++ [.ok value] ∧
          ∀ outcome ∈ earlier, ∃ error, outcome = .error error
      | .error (.operation error) => (outcomes events).getLast? = some (.error error)
      | .error (.deadlineExceeded _) => deadline ≠ none
      | .error (.runtimeError _) => False := by
  have obeys : Prog.Obeys (retryMonitor policy deadline isException shouldRetry)
      (fun result events => RetryEnds deadline isException shouldRetry events result)
      (policy.retryAsync deadline isException shouldRetry : RetryCode ε α α) [] :=
    obeys_retryAsync policy deadline isException shouldRetry
  have guarded : ∀ before event after, events = before ++ event :: after →
      RetryGuard policy deadline isException shouldRetry before event.op := by
    rintro before event after rfl
    exact obeys.guard_of_append traces
  refine ⟨?_, ?_, ?_, ?_, ?_⟩
  · rcases List.eq_nil_or_concat (outcomes events) with none | ⟨earlier, outcome, found⟩
    · rw [none]
      exact Nat.zero_le _
    · rw [List.concat_eq_append] at found
      obtain ⟨before, after, split, same⟩ := exists_last_attempt found
      have room : (outcomes before).length < policy.maxAttempts := (guarded _ _ _ split).2.1
      rw [found, ← same, List.length_append]
      exact room
  · rintro before outcome after rfl
    obtain ⟨_, _, retried, timely⟩ := guarded before _ after rfl
    refine ⟨fun earlier listed => ?_, fun limit limited => ?_⟩
    · obtain ⟨error, same, _, accepted⟩ := retried earlier listed
      exact ⟨error, same, accepted⟩
    · obtain ⟨now, last, met⟩ := timely limit limited
      refine ⟨⟨now, last⟩, fun reading listed => Bool.eq_false_iff.mpr fun expired => ?_⟩
      have late := Deadline.expired_mono expired (le_of_justRead clock last reading listed)
      exact Bool.false_ne_true (met.symm.trans late)
  · rintro before delay after rfl
    obtain ⟨_, capped, timely⟩ := guarded before _ after rfl
    refine ⟨capped, fun limit limited => ?_⟩
    obtain ⟨now, last, met⟩ := timely limit limited
    refine ⟨⟨now, last⟩, fun reading listed => met.trans_le ?_⟩
    exact Deadline.remaining_anti (le_of_justRead clock last reading listed)
  · rcases List.eq_nil_or_concat events with rfl | ⟨earlier, event, rfl⟩
    · exact Nat.zero_le _
    · have room := (guarded earlier event [] (List.concat_eq_append ..)).1
      rwa [List.length_concat]
  · rintro result rfl
    have ends : RetryEnds deadline isException shouldRetry events result :=
      obeys.post_of_traces traces
    cases result with
    | ok value =>
        obtain ⟨earlier, found, retried⟩ := ends
        exact ⟨earlier, found, fun outcome listed => (retried outcome listed).imp fun _ => And.left⟩
    | error raised =>
        cases raised with
        | operation error =>
            obtain ⟨earlier, found, _⟩ := ends
            dsimp only
            rw [found, List.getLast?_concat]
        | deadlineExceeded message => exact ends
        | runtimeError message => exact ends

end Budget

/-- Two attempts, with delays up to a second. -/
def twoAttempts : RetryPolicy := ⟨2, 1, 1, Nat.le_succ 1, zero_le_one, le_refl 1⟩

/-- Outcomes one after the other, the longest delays, and a clock that stands still. -/
def scripted : (op : RetryOp) → List (Except Unit Nat) →
    Option (op.Answer Unit Nat × List (Except Unit Nat))
  | .now, outcomes => some ((0 : Seconds), outcomes)
  | .invoke, outcome :: rest => some (outcome, rest)
  | .invoke, [] => none
  | .uniform least most, outcomes => if least ≤ most then some (most, outcomes) else none
  | .sleep _, outcomes => some ((), outcomes)

theorem possible_of_scripted {op : RetryOp} {answer : op.Answer Unit Nat}
    {outcomes rest : List (Except Unit Nat)}
    (answered : scripted op outcomes = some (answer, rest)) :
    op.Possible answer := by
  cases op with
  | uniform least most =>
      unfold scripted at answered
      dsimp only at answered
      split at answered
      · next ordered =>
        cases answered
        exact ⟨ordered, le_refl most⟩
      · cases answered
  | now | invoke | sleep => exact trivial

/-- The first attempt fails and the second one returns, within the deadline. -/
theorem second_attempt_within_budget : ∃ events : List (RetryEvent Unit Nat),
    Prog.Traces RetryOp.Possible
      (twoAttempts.retryAsync (some ⟨5⟩) (fun _ => true) fun _ => true) events (.done (.ok 7)) ∧
    (readings events).Pairwise (· ≤ ·) ∧ (outcomes events).length ≤ 2 ∧
    ∃ earlier, outcomes events = earlier ++ [.ok 7] := by
  have finished : ((twoAttempts.retryAsync (some ⟨5⟩) (fun _ => true) fun _ => true).run scripted
      [.error (), .ok 7]).any (fun ended => ended.1.toOption == some 7) = true := by
    decide +kernel
  obtain ⟨⟨result, rest⟩, run, returned⟩ := (Option.any_eq_true ..).mp finished
  have same : result = .ok 7 := by
    have value : result.toOption = some 7 := beq_iff_eq.mp returned
    cases result with
    | error error => cases value
    | ok answer => exact congrArg Except.ok (Option.some.inj value)
  subst same
  obtain ⟨events, traces, faithful⟩ :=
    Prog.exists_traces_of_run RetryOp.Possible possible_of_scripted run
  have still : ∀ reading ∈ readings events, reading = 0 := by
    intro reading listed
    obtain ⟨⟨op, answer⟩, among, is⟩ := List.mem_filterMap.mp listed
    obtain ⟨before, next, answered⟩ := faithful _ among
    cases op with
    | now =>
        cases is
        cases answered
        rfl
    | invoke | uniform | sleep => cases is
  have clock : (readings events).Pairwise (· ≤ ·) :=
    List.pairwise_of_forall_mem_list fun first early second late =>
      ((still first early).trans (still second late).symm).le
  obtain ⟨bounded, _, _, _, ends⟩ := retryAsync_within_budget traces clock
  obtain ⟨earlier, found, _⟩ := ends _ rfl
  exact ⟨events, traces, clock, bounded, earlier, found⟩

end Distsys
