import Mathlib.Algebra.Order.Field.Rat
import Mathlib.Tactic.FieldSimp
import Mathlib.Tactic.Linarith
import Distsys.Text

/-!
# The token bucket

Requests are admitted as long as there are tokens, which come back at a fixed rate up to a
burst. Time and tokens are rational numbers. In every window of every run the admitted cost
is at most the burst and what the rate gives in the window.
-/

namespace Distsys

/-- The limiter; what the constructor checks is kept with it. -/
structure TokenBucketRateLimiter where
  ratePerSecond : ℚ
  burst : ℚ
  tokens : ℚ
  lastRefill : ℚ
  positive : 0 < ratePerSecond
  least : 1 ≤ burst

namespace TokenBucketRateLimiter

/-- `__init__`, with the reading of the clock. -/
def init (ratePerSecond : ℚ) (burst : Int) (now : ℚ) : Except PyError TokenBucketRateLimiter :=
  if positive : 0 < ratePerSecond then
    if least : 1 ≤ burst then
      .ok ⟨ratePerSecond, burst, burst, now, positive, by exact_mod_cast least⟩
    else .error ⟨.valueError, "burst must be at least 1"⟩
  else .error ⟨.valueError, "rate_per_second must be greater than zero"⟩

/-- `_refill`. -/
def refill (limiter : TokenBucketRateLimiter) (now : ℚ) : TokenBucketRateLimiter :=
  let elapsed := max 0 (now - limiter.lastRefill)
  { limiter with
    lastRefill := now
    tokens := min limiter.burst (limiter.tokens + elapsed * limiter.ratePerSecond) }

/-- `available_tokens`. -/
def availableTokens (limiter : TokenBucketRateLimiter) (now : ℚ) : ℚ × TokenBucketRateLimiter :=
  ((limiter.refill now).tokens, limiter.refill now)

/-- The cost is checked before the clock is read. -/
def allow (limiter : TokenBucketRateLimiter) (cost now : ℚ) :
    Except PyError (Bool × TokenBucketRateLimiter) :=
  if cost ≤ 0 then .error ⟨.valueError, "cost must be greater than zero"⟩
  else
    let limiter := limiter.refill now
    if limiter.tokens < cost then .ok (false, limiter)
    else .ok (true, { limiter with tokens := limiter.tokens - cost })

end TokenBucketRateLimiter

/-- The calls of a bucket. -/
inductive BucketCall
  | allow (cost : ℚ)
  | availableTokens

namespace TokenBucketRateLimiter

variable (limiter : TokenBucketRateLimiter) {now start first last : ℚ}
  {calls : List (ℚ × BucketCall)}

/-- The limiter after a call. -/
def call (now : ℚ) : BucketCall → TokenBucketRateLimiter
  | .allow cost =>
      match limiter.allow cost now with
      | .ok (_, next) => next
      | .error _ => limiter
  | .availableTokens => (limiter.availableTokens now).2

/-- The cost that a call is admitted with. -/
def admits (now : ℚ) : BucketCall → ℚ
  | .allow cost =>
      match limiter.allow cost now with
      | .ok (true, _) => cost
      | _ => 0
  | .availableTokens => 0

/-- The limiter after a sequence of calls, each with its reading of the clock. -/
def run (calls : List (ℚ × BucketCall)) : TokenBucketRateLimiter :=
  calls.foldl (fun limiter made => limiter.call made.1 made.2) limiter

/-- The cost that is admitted from one reading to another. -/
def admittedIn (first last : ℚ) : TokenBucketRateLimiter → List (ℚ × BucketCall) → ℚ
  | _, [] => 0
  | limiter, (now, made) :: rest =>
      (if first ≤ now ∧ now ≤ last then limiter.admits now made else 0) +
        (limiter.call now made).admittedIn first last rest

variable {limiter}

/-- The tokens are within the burst. -/
def Level (limiter : TokenBucketRateLimiter) : Prop :=
  0 ≤ limiter.tokens ∧ limiter.tokens ≤ limiter.burst

theorem Level.refill (level : limiter.Level) (now : ℚ) : (limiter.refill now).Level := by
  refine ⟨le_min (level.1.trans level.2) (add_nonneg level.1 ?_), min_le_left _ _⟩
  exact mul_nonneg (le_max_left _ _) limiter.positive.le

/-- A refill gives at most what the rate gives since the last one. -/
theorem tokens_refill_le (ordered : limiter.lastRefill ≤ now) :
    (limiter.refill now).tokens ≤
      limiter.tokens + limiter.ratePerSecond * (now - limiter.lastRefill) := by
  refine (min_le_right _ _).trans (le_of_eq ?_)
  rw [max_eq_right (sub_nonneg.mpr ordered), mul_comm]

/-- A call that raises changes nothing; any other call takes what it admits from the tokens
after the refill. -/
theorem call_cases (level : limiter.Level) (now : ℚ) (made : BucketCall) :
    (limiter.call now made = limiter ∧ limiter.admits now made = 0) ∨
      (0 ≤ limiter.admits now made ∧ limiter.admits now made ≤ (limiter.refill now).tokens ∧
        limiter.call now made = { limiter.refill now with
          tokens := (limiter.refill now).tokens - limiter.admits now made }) := by
  have filled := (level.refill now).1
  cases made with
  | availableTokens =>
      refine .inr ⟨le_rfl, filled, ?_⟩
      change limiter.refill now = { limiter.refill now with
        tokens := (limiter.refill now).tokens - 0 }
      rw [sub_zero]
  | allow cost =>
      unfold call admits allow
      by_cases invalid : cost ≤ 0
      · simp only [if_pos invalid, and_self, true_or]
      · simp only [if_neg invalid]
        by_cases poor : (limiter.refill now).tokens < cost
        · simp only [if_pos poor, sub_zero]
          exact .inr ⟨le_rfl, filled, trivial⟩
        · simp only [if_neg poor]
          exact .inr ⟨(not_le.mp invalid).le, not_lt.mp poor, trivial⟩

theorem Level.call (level : limiter.Level) (now : ℚ) (made : BucketCall) :
    (limiter.call now made).Level := by
  rcases call_cases level now made with ⟨same, _⟩ | ⟨least, most, next⟩
  · rw [same]
    exact level
  · rw [next]
    exact ⟨sub_nonneg.mpr most, (sub_le_self _ least).trans (level.refill now).2⟩

/-- The rate and the burst stay, and the last refill is at a reading of the clock. -/
theorem settings_call (level : limiter.Level) (now : ℚ) (made : BucketCall) :
    (limiter.call now made).ratePerSecond = limiter.ratePerSecond ∧
      (limiter.call now made).burst = limiter.burst ∧
      ((limiter.call now made).lastRefill = limiter.lastRefill ∨
        (limiter.call now made).lastRefill = now) := by
  rcases call_cases level now made with ⟨same, _⟩ | ⟨_, _, next⟩
  · rw [same]
    exact ⟨rfl, rfl, .inl rfl⟩
  · rw [next]
    exact ⟨rfl, rfl, .inr rfl⟩

/-- What can be admitted until a reading: the tokens, and what the rate gives. -/
def budget (limiter : TokenBucketRateLimiter) (last : ℚ) : ℚ :=
  limiter.tokens + limiter.ratePerSecond * (last - limiter.lastRefill)

/-- A call takes what it admits from the budget. -/
theorem budget_call (level : limiter.Level) (ordered : limiter.lastRefill ≤ now) (made : BucketCall)
    (last : ℚ) :
    (limiter.call now made).budget last + limiter.admits now made ≤ limiter.budget last := by
  rcases call_cases level now made with ⟨same, nothing⟩ | ⟨_, _, next⟩
  · rw [same, nothing, add_zero]
  · have gained := tokens_refill_le ordered
    rw [next]
    unfold budget
    change (limiter.refill now).tokens - limiter.admits now made +
      limiter.ratePerSecond * (last - now) + limiter.admits now made ≤ _
    linarith

/-- The calls are made in the order of their readings, from a reading on. -/
def Ordered (start : ℚ) (calls : List (ℚ × BucketCall)) : Prop :=
  (start :: calls.map Prod.fst).Pairwise (· ≤ ·)

theorem Ordered.cons {start now : ℚ} {made : BucketCall} {rest : List (ℚ × BucketCall)}
    (ordered : Ordered start ((now, made) :: rest)) : start ≤ now ∧ Ordered now rest := by
  obtain ⟨first, tail⟩ := List.pairwise_cons.mp ordered
  exact ⟨first now List.mem_cons_self, tail⟩

/-- Nothing is admitted in a window that is over. -/
theorem admittedIn_of_beyond (beyond : last < start) (ordered : Ordered start calls)
    (limiter : TokenBucketRateLimiter) : limiter.admittedIn first last calls = 0 := by
  induction calls generalizing limiter start with
  | nil => rfl
  | cons head rest ih =>
      obtain ⟨now, made⟩ := head
      obtain ⟨le, tail⟩ := ordered.cons
      have late : last < now := beyond.trans_le le
      rw [admittedIn, if_neg fun inside => absurd inside.2 (not_le.mpr late), zero_add]
      exact ih late tail _

/-- What is admitted until the end of a window is within the budget. -/
theorem admittedIn_le_budget (level : limiter.Level) (before : limiter.lastRefill ≤ start)
    (within : limiter.lastRefill ≤ last) (ordered : Ordered start calls) :
    limiter.admittedIn first last calls ≤ limiter.budget last := by
  induction calls generalizing limiter start with
  | nil =>
      exact add_nonneg level.1 (mul_nonneg limiter.positive.le (sub_nonneg.mpr within))
  | cons head rest ih =>
      obtain ⟨now, made⟩ := head
      obtain ⟨le, tail⟩ := ordered.cons
      have reading := before.trans le
      rw [admittedIn]
      by_cases late : last < now
      · rw [if_neg fun inside => absurd inside.2 (not_le.mpr late), zero_add,
          admittedIn_of_beyond late tail]
        exact add_nonneg level.1 (mul_nonneg limiter.positive.le (sub_nonneg.mpr within))
      · have least : (if first ≤ now ∧ now ≤ last then limiter.admits now made else 0) ≤
            limiter.admits now made := by
          split
          · exact le_rfl
          · rcases call_cases level now made with ⟨_, nothing⟩ | ⟨least, _⟩
            · exact nothing.ge
            · exact least
        have next : (limiter.call now made).lastRefill ≤ now := by
          rcases (settings_call level now made).2.2 with same | same
          · rw [same]; exact reading
          · exact same.le
        have rest := ih (level.call now made) next (next.trans (not_lt.mp late)) tail
        have spent := budget_call level reading made last
        linarith

/-- In every window, at most the burst and what the rate gives in the window is admitted. -/
theorem admittedIn_le (window : first ≤ last) (level : limiter.Level)
    (before : limiter.lastRefill ≤ start) (ordered : Ordered start calls) :
    limiter.admittedIn first last calls ≤
      limiter.burst + limiter.ratePerSecond * (last - first) := by
  have nonneg : 0 ≤ limiter.burst + limiter.ratePerSecond * (last - first) :=
    add_nonneg (level.1.trans level.2)
      (mul_nonneg limiter.positive.le (sub_nonneg.mpr window))
  induction calls generalizing limiter start with
  | nil => exact nonneg
  | cons head rest ih =>
      obtain ⟨now, made⟩ := head
      obtain ⟨le, tail⟩ := ordered.cons
      obtain ⟨rate, burst, refilled⟩ := settings_call level now made
      have next : (limiter.call now made).lastRefill ≤ now := by
        rcases refilled with same | same
        · rw [same]; exact before.trans le
        · exact same.le
      have later := ih (level.call now made) next tail
      rw [rate, burst] at later
      rw [admittedIn]
      by_cases inside : first ≤ now ∧ now ≤ last
      · rw [if_pos inside]
        rcases call_cases level now made with ⟨_, nothing⟩ | ⟨_, _, called⟩
        · rw [nothing, zero_add]
          exact later nonneg
        · -- the window begins with full tokens at most
          have remaining : (limiter.call now made).admittedIn first last rest ≤ _ :=
            admittedIn_le_budget (level.call now made) next (next.trans inside.2) tail
          have left : (limiter.call now made).budget last = (limiter.refill now).tokens -
              limiter.admits now made + limiter.ratePerSecond * (last - now) := by
            rw [called]
            rfl
          have full : (limiter.refill now).tokens ≤ limiter.burst := (level.refill now).2
          have shorter : limiter.ratePerSecond * (last - now) ≤
              limiter.ratePerSecond * (last - first) :=
            mul_le_mul_of_nonneg_left (sub_le_sub_left inside.1 last) limiter.positive.le
          linarith
      · rw [if_neg inside, zero_add]
        exact later nonneg

theorem Level.run (level : limiter.Level) (calls : List (ℚ × BucketCall)) :
    (limiter.run calls).Level ∧ (limiter.run calls).ratePerSecond = limiter.ratePerSecond ∧
      (limiter.run calls).burst = limiter.burst := by
  induction calls generalizing limiter with
  | nil => exact ⟨level, rfl, rfl⟩
  | cons head rest ih =>
      obtain ⟨rate, burst, _⟩ := settings_call level head.1 head.2
      obtain ⟨kept, rates, bursts⟩ := ih (level.call head.1 head.2)
      exact ⟨kept, rates.trans rate, bursts.trans burst⟩

/-- The last refill of a run is at the start or at one of its readings. -/
theorem lastRefill_run (level : limiter.Level) (calls : List (ℚ × BucketCall)) :
    (limiter.run calls).lastRefill ∈ limiter.lastRefill :: calls.map Prod.fst := by
  induction calls generalizing limiter with
  | nil => exact List.mem_cons_self
  | cons head rest ih =>
      have last := ih (level.call head.1 head.2)
      change (TokenBucketRateLimiter.run _ rest).lastRefill ∈ _
      rcases List.mem_cons.mp last with same | listed
      · rw [same]
        rcases (settings_call level head.1 head.2).2.2 with before | now
        · rw [before]
          exact List.mem_cons_self
        · rw [now]
          exact List.mem_cons_of_mem _ List.mem_cons_self
      · exact List.mem_cons_of_mem _ (List.mem_cons_of_mem _ listed)

/-- After an idle period that fills the bucket, every cost within the burst is admitted. -/
theorem allow_of_idle (level : limiter.Level) {cost : ℚ} (positive : 0 < cost)
    (most : cost ≤ limiter.burst)
    (idle : limiter.lastRefill + limiter.burst / limiter.ratePerSecond ≤ now) :
    ∃ next, limiter.allow cost now = .ok (true, next) := by
  have earned : limiter.burst ≤ (now - limiter.lastRefill) * limiter.ratePerSecond := by
    rw [← div_le_iff₀ limiter.positive]
    linarith
  have elapsed : now - limiter.lastRefill ≤ max 0 (now - limiter.lastRefill) := le_max_right _ _
  have full : (limiter.refill now).tokens = limiter.burst := by
    refine min_eq_left (earned.trans ?_)
    have more := mul_le_mul_of_nonneg_right elapsed limiter.positive.le
    linarith [level.1]
  unfold allow
  simp only [if_neg (not_le.mpr positive), full, if_neg (not_lt.mpr most)]
  exact ⟨_, rfl⟩

/-- A new limiter is full. -/
theorem init_eq_ok {ratePerSecond : ℚ} {burst : Int}
    (created : init ratePerSecond burst start = .ok limiter) :
    limiter.ratePerSecond = ratePerSecond ∧ limiter.burst = burst ∧
      limiter.lastRefill = start ∧ limiter.Level := by
  unfold init at created
  split at created
  · split at created
    · next least =>
      have nonneg : (0 : ℚ) ≤ burst := by exact_mod_cast zero_le_one.trans least
      cases created
      exact ⟨rfl, rfl, rfl, nonneg, le_rfl⟩
    · cases created
  · cases created

/-- A limiter over any run with a clock that does not go back: every window admits at most the
burst and what the rate gives in it, the tokens are within the burst, and after an idle period
that fills the bucket every cost within the burst is admitted. -/
theorem token_bucket_bounds {ratePerSecond start : ℚ} {burst : Int}
    (created : init ratePerSecond burst start = .ok limiter) (calls : List (ℚ × BucketCall))
    (ordered : Ordered start calls) :
    (∀ first last : ℚ, first ≤ last →
      limiter.admittedIn first last calls ≤ burst + ratePerSecond * (last - first)) ∧
    (0 ≤ (limiter.run calls).tokens ∧ (limiter.run calls).tokens ≤ burst) ∧
    ∀ cost now : ℚ, 0 < cost → cost ≤ burst →
      (∀ reading ∈ start :: calls.map Prod.fst, reading + burst / ratePerSecond ≤ now) →
      ∃ next, (limiter.run calls).allow cost now = .ok (true, next) := by
  obtain ⟨rate, most, refilled, level⟩ := init_eq_ok created
  obtain ⟨kept, rates, bursts⟩ := level.run calls
  rw [← rate, ← most, ← refilled]
  rw [← refilled] at ordered
  refine ⟨fun first last window => admittedIn_le window level le_rfl ordered,
    ⟨kept.1, kept.2.trans bursts.le⟩, fun cost now positive within idle => ?_⟩
  refine allow_of_idle kept positive (within.trans bursts.ge) ?_
  rw [rates, bursts]
  exact idle _ (lastRefill_run level calls)

/-- Two tokens are there at the start, and one has come back after a second. -/
theorem second_admits_three : ∃ limiter, init 1 2 0 = .ok limiter ∧
    limiter.admittedIn 0 1 [(0, .allow 2), (1, .allow 1)] ≤ 3 := by
  have created : init 1 2 0 = .ok ⟨1, 2, 2, 0, by decide, by decide⟩ := rfl
  refine ⟨_, created, ?_⟩
  have bound := (token_bucket_bounds created [(0, .allow 2), (1, .allow 1)]
    (by simp [Ordered])).1 0 1 (by decide)
  exact bound.trans (by norm_num)

end TokenBucketRateLimiter

end Distsys
