import Mathlib.Algebra.Order.Field.Rat
import Mathlib.Tactic.FieldSimp
import Mathlib.Tactic.Ring
import Pockiva.Lib.TokenBucket
import Pockiva.Network.RateLimit

/-! # What the limiter admits

The limiter is a token bucket whose amounts are scaled to whole numbers (`allow_bucket`): it
rounds nothing and its arithmetic never saturates where it could matter.  `rate_limit` states
what any calls, at times in any order, get from it.
-/
namespace Pockiva
namespace Network
namespace InputRateLimiter

/-! ## Calls -/

/-- What becomes of calls at some times. -/
def decisions : InputRateLimiter → List Nat → List Bool
  | _, [] => []
  | l, now :: rest => (l.allow now).1 :: decisions (l.allow now).2 rest

/-- The limiter after calls. -/
def after (l : InputRateLimiter) (times : List Nat) : InputRateLimiter :=
  times.foldl (fun l now => (l.allow now).2) l

/-- How many calls are accepted. -/
def accepted (l : InputRateLimiter) (times : List Nat) : Nat := (l.decisions times).count true

/-- The latest of some times and the one the limiter was created at. -/
def latest (start : Nat) (times : List Nat) : Nat := times.foldl max start

/-- The time that passes before each call; a time before the latest one adds none. -/
def gaps : Nat → List Nat → List Nat
  | _, [] => []
  | last, now :: rest => (now - last) :: gaps (max last now) rest

theorem sum_gaps (last : Nat) (times : List Nat) :
    (gaps last times).sum = latest last times - last := by
  suffices hsum : last + (gaps last times).sum = latest last times by omega
  induction times generalizing last with
  | nil => rfl
  | cons now rest ih =>
    have hrest := ih (max last now)
    rw [gaps, List.sum_cons]
    show _ = latest (max last now) rest
    rw [← hrest]
    omega

/-! ## The bucket -/

/-- The amounts are not negative in number, and the capacity is one that 64 bits allow. -/
structure Bounded (l : InputRateLimiter) : Prop where
  available : l.available ≤ l.capacity
  capacity : l.capacity < 2 ^ 64 * tokenScale

/-- The bucket, in tokens and seconds. -/
def bucket (l : InputRateLimiter) : TokenBucket ℚ where
  rate := l.refillPerSecond
  capacity := l.capacity / tokenScale
  level := l.available / tokenScale

/-- A time in seconds. -/
def seconds (nanos : Nat) : ℚ := nanos / tokenScale

theorem tokenScale_pos : (0 : ℚ) < tokenScale := by
  unfold tokenScale
  norm_num

/-- A token of the bucket is `tokenScale` of the limiter. -/
theorem bucket_spend {l : InputRateLimiter} (h : tokenScale ≤ l.available) :
    ({ l with available := l.available - tokenScale } : InputRateLimiter).bucket =
      { l.bucket with level := l.bucket.level - 1 } := by
  have hscale := tokenScale_pos
  unfold bucket
  generalize tokenScale = scale at h hscale
  rw [TokenBucket.mk.injEq]
  refine ⟨rfl, rfl, ?_⟩
  dsimp only
  rw [Nat.cast_sub h, sub_div, div_self hscale.ne']

theorem sound_bucket (l : InputRateLimiter) : l.bucket.Sound where
  level := div_nonneg (Nat.cast_nonneg _) tokenScale_pos.le
  rate := Nat.cast_nonneg _
  capacity := div_nonneg (Nat.cast_nonneg _) tokenScale_pos.le

/-- Neither operation saturates before the capacity cuts the amount off. -/
theorem saturating_min {available elapsed rate capacity : Nat} (h : capacity ≤ maxU128) :
    min (saturatingAdd available (saturatingMul elapsed rate)) capacity =
      min (available + elapsed * rate) capacity := by
  unfold saturatingAdd saturatingMul
  omega

theorem allow_of_lt {l : InputRateLimiter} {now : Nat}
    (h : (l.refill now).available < tokenScale) : l.allow now = (false, l.refill now) := if_pos h

theorem allow_of_le {l : InputRateLimiter} {now : Nat}
    (h : tokenScale ≤ (l.refill now).available) :
    l.allow now =
      (true, { l.refill now with available := (l.refill now).available - tokenScale }) :=
  if_neg (Nat.not_lt.mpr h)

/-- A call takes tokens from what the refill left, or none. -/
theorem exists_spent (l : InputRateLimiter) (now : Nat) : ∃ tokens, (l.allow now).2 =
    { l.refill now with available := (l.refill now).available - tokens } := by
  rcases Nat.lt_or_ge (l.refill now).available tokenScale with hlt | hle
  · rw [allow_of_lt hlt]
    exact ⟨0, rfl⟩
  · rw [allow_of_le hle]
    exact ⟨tokenScale, rfl⟩

theorem allow_refillPerSecond (l : InputRateLimiter) (now : Nat) :
    (l.allow now).2.refillPerSecond = l.refillPerSecond := by
  obtain ⟨tokens, hspent⟩ := l.exists_spent now
  rw [hspent]
  unfold refill
  split <;> rfl

theorem allow_capacity (l : InputRateLimiter) (now : Nat) :
    (l.allow now).2.capacity = l.capacity := by
  obtain ⟨tokens, hspent⟩ := l.exists_spent now
  rw [hspent]
  unfold refill
  split <;> rfl

namespace Bounded
variable {l : InputRateLimiter}

theorem new (rate : Nat) {capacity : Nat} (hcapacity : capacity < 2 ^ 64) (start : Nat) :
    (InputRateLimiter.new rate capacity start).Bounded := by
  refine ⟨Nat.le_refl _, ?_⟩
  show saturatingMul capacity tokenScale < 2 ^ 64 * tokenScale
  unfold saturatingMul tokenScale
  omega

theorem le_maxU128 (h : l.Bounded) : l.capacity ≤ maxU128 := by
  have hcapacity := h.capacity
  unfold tokenScale at hcapacity
  unfold maxU128
  omega

/-- The limiter after a refill, without the arithmetic of 128 bits. -/
theorem refill_eq (h : l.Bounded) (now : Nat) :
    l.refill now =
      { l with
        available := min (l.available + (now - l.lastRefill) * l.refillPerSecond) l.capacity
        lastRefill := max l.lastRefill now } := by
  unfold InputRateLimiter.refill
  split
  · next hle => rw [saturating_min h.le_maxU128, Nat.max_eq_right hle]
  · next hnot =>
    -- A time that went backwards: no time has passed.
    have hlt : now < l.lastRefill := Nat.not_le.mp hnot
    have hzero : now - l.lastRefill = 0 := by omega
    have hfull : min l.available l.capacity = l.available := Nat.min_eq_left h.available
    rw [hzero, Nat.zero_mul, Nat.add_zero, hfull, Nat.max_eq_left hlt.le]

theorem refill (h : l.Bounded) (now : Nat) : (l.refill now).Bounded := by
  rw [h.refill_eq]
  exact ⟨Nat.min_le_right _ _, h.capacity⟩

/-- Tokens can be taken at any time. -/
theorem spend (h : l.Bounded) (tokens : Nat) :
    ({ l with available := l.available - tokens } : InputRateLimiter).Bounded :=
  ⟨Nat.le_trans (Nat.sub_le _ _) h.available, h.capacity⟩

theorem allow_lastRefill (h : l.Bounded) (now : Nat) :
    (l.allow now).2.lastRefill = max l.lastRefill now := by
  obtain ⟨tokens, hspent⟩ := l.exists_spent now
  rw [hspent, h.refill_eq]

theorem allow (h : l.Bounded) (now : Nat) : (l.allow now).2.Bounded := by
  obtain ⟨tokens, hspent⟩ := l.exists_spent now
  rw [hspent]
  exact (h.refill now).spend tokens

theorem refill_bucket (h : l.Bounded) (now : Nat) :
    (l.refill now).bucket = l.bucket.refill (seconds (now - l.lastRefill)) := by
  have hscale := tokenScale_pos
  rw [h.refill_eq]
  unfold bucket TokenBucket.refill seconds
  rw [TokenBucket.mk.injEq]
  refine ⟨rfl, rfl, ?_⟩
  dsimp only
  rw [Nat.cast_min, ← min_div_div_right hscale.le, Nat.cast_add, Nat.cast_mul, add_div]
  congr 2
  ring

/-- **The limiter is a token bucket.** -/
theorem allow_bucket (h : l.Bounded) (now : Nat) :
    (l.allow now).1 = (l.bucket.call (seconds (now - l.lastRefill))).1 ∧
      (l.allow now).2.bucket =
        (l.bucket.call (seconds (now - l.lastRefill))).2 := by
  have hscale := tokenScale_pos
  have hwhole : (l.refill now).bucket.level < 1 ↔ (l.refill now).available < tokenScale := by
    show ((l.refill now).available : ℚ) / tokenScale < 1 ↔ _
    rw [div_lt_one hscale, Nat.cast_lt]
  unfold TokenBucket.call TokenBucket.take
  rw [← h.refill_bucket now]
  rcases Nat.lt_or_ge (l.refill now).available tokenScale with hlt | hle
  · rw [allow_of_lt hlt, if_pos (hwhole.mpr hlt)]
    exact ⟨rfl, rfl⟩
  · rw [allow_of_le hle, if_neg (mt hwhole.mp (Nat.not_lt.mpr hle))]
    exact ⟨rfl, bucket_spend hle⟩

theorem after (h : l.Bounded) (times : List Nat) : (l.after times).Bounded := by
  induction times generalizing l with
  | nil => exact h
  | cons now rest ih => exact ih (h.allow now)

end Bounded

/-- The limiter decides as its bucket, which is called after each gap. -/
theorem decisions_bucket {l : InputRateLimiter} (h : l.Bounded) (times : List Nat) :
    l.decisions times = l.bucket.decisions ((gaps l.lastRefill times).map seconds) := by
  induction times generalizing l with
  | nil => rfl
  | cons now rest ih =>
    obtain ⟨haccepted, hbucket⟩ := h.allow_bucket now
    have hrest := ih (h.allow now)
    rw [h.allow_lastRefill, hbucket] at hrest
    rw [decisions, haccepted, hrest]
    rfl

/-! ## Runs -/

theorem after_fixed {l : InputRateLimiter} (h : l.Bounded) (times : List Nat) :
    (l.after times).lastRefill = latest l.lastRefill times ∧
      (l.after times).refillPerSecond = l.refillPerSecond ∧
      (l.after times).capacity = l.capacity := by
  induction times generalizing l with
  | nil => exact ⟨rfl, rfl, rfl⟩
  | cons now rest ih =>
    obtain ⟨hlast, hrate, hcapacity⟩ := ih (h.allow now)
    refine ⟨?_, hrate.trans (l.allow_refillPerSecond now), hcapacity.trans (l.allow_capacity now)⟩
    rw [h.allow_lastRefill] at hlast
    exact hlast

theorem accepted_append (l : InputRateLimiter) (times more : List Nat) :
    l.accepted (times ++ more) = l.accepted times + (l.after times).accepted more := by
  unfold accepted
  induction times generalizing l with
  | nil => exact (Nat.zero_add _).symm
  | cons now rest ih =>
    have hrest := ih (l.allow now).2
    rw [List.cons_append, decisions, decisions, List.count_cons, List.count_cons, hrest]
    exact Nat.add_right_comm _ _ _

/-- What the bucket bounds in tokens, the limiter bounds in whole ones. -/
theorem le_of_bucket {taken capacity rate nanos : Nat}
    (h : (taken : ℚ) ≤ capacity + rate * seconds nanos) :
    taken ≤ capacity + rate * nanos / tokenScale := by
  have hscale := tokenScale_pos
  have hscaled : (taken : ℚ) * tokenScale ≤ capacity * tokenScale + rate * nanos := by
    have hnanos : seconds nanos * tokenScale = nanos := div_mul_cancel₀ _ hscale.ne'
    have hmul := mul_le_mul_of_nonneg_right h hscale.le
    rwa [add_mul, mul_assoc, hnanos] at hmul
  have hnat : taken * tokenScale ≤ capacity * tokenScale + rate * nanos := by exact_mod_cast hscaled
  have hpos : 0 < tokenScale := by decide
  have hwhole : capacity + rate * nanos / tokenScale =
      (rate * nanos + capacity * tokenScale) / tokenScale := by
    rw [Nat.add_mul_div_right _ _ hpos, Nat.add_comm]
  rw [hwhole, Nat.le_div_iff_mul_le hpos, Nat.add_comm (rate * nanos)]
  exact hnat

theorem sum_seconds (nanos : List Nat) : (nanos.map seconds).sum = seconds nanos.sum := by
  induction nanos with
  | nil => exact (zero_div _).symm
  | cons first rest ih =>
    rw [List.map_cons, List.sum_cons, List.sum_cons, ih]
    unfold seconds
    rw [Nat.cast_add, add_div]

theorem seconds_nonneg (nanos : List Nat) : ∀ elapsed ∈ nanos.map seconds, 0 ≤ elapsed := by
  intro elapsed hmem
  obtain ⟨time, -, rfl⟩ := List.mem_map.mp hmem
  exact div_nonneg (Nat.cast_nonneg _) tokenScale_pos.le

/-- The last of ordered times is the latest. -/
theorem latest_le {first : Nat} {rest : List Nat} (h : (first :: rest).Pairwise (· ≤ ·))
    (time : Nat) :
    first ≤ rest.getLastD first ∧ latest time rest ≤ max time (rest.getLastD first) := by
  induction rest generalizing first time with
  | nil => exact ⟨Nat.le_refl _, Nat.le_max_left _ _⟩
  | cons now rest ih =>
    obtain ⟨hfirst, hrest⟩ := List.pairwise_cons.mp h
    obtain ⟨hle, hlatest⟩ := ih hrest (max time now)
    have hnow : first ≤ now := hfirst now List.mem_cons_self
    rw [List.getLastD_cons]
    refine ⟨hnow.trans hle, ?_⟩
    show latest (max time now) rest ≤ _
    omega

/-! ## The law -/

/-- The seconds between calls. -/
def elapsed : Nat → List Nat → List ℚ
  | _, [] => []
  | last, now :: rest => ((now : ℚ) - last) / tokenScale :: elapsed now rest

/-- What an exact token bucket, full at the start, decides. -/
def exactDecisions (rate capacity start : Nat) (times : List Nat) : List Bool :=
  (⟨rate, capacity, capacity⟩ : TokenBucket ℚ).decisions (elapsed start times)

/-- What calls get from the limiter, at any times. -/
structure RateLaw (rate capacity start : Nat) : Prop where
  bounded : ∀ times, ((new rate capacity start).after times).available ≤ capacity * tokenScale
  /-- A call that is accepted takes a token that is there. -/
  spent : ∀ times now, (((new rate capacity start).after times).allow now).1 = true →
    (((new rate capacity start).after times).allow now).2.available + tokenScale =
      (((new rate capacity start).after times).refill now).available
  accepted : ∀ times, (new rate capacity start).accepted times ≤
    capacity + rate * (latest start times - start) / tokenScale
  /-- In a window of ordered times, whatever came before. -/
  window : ∀ before first rest, (first :: rest).Pairwise (· ≤ ·) →
    (new rate capacity start).accepted (before ++ first :: rest) ≤
      (new rate capacity start).accepted before +
        (capacity + rate * (rest.getLastD first - first) / tokenScale)
  /-- One token's time after the latest call. -/
  prompt : ∀ times now, tokenScale ≤ rate * (now - latest start times) →
    (((new rate capacity start).after times).allow now).1 = true
  backwards : ∀ times now, now < latest start times →
    ((new rate capacity start).after times).refill now = (new rate capacity start).after times
  exact : ∀ times, (start :: times).Pairwise (· ≤ ·) →
    (new rate capacity start).decisions times = exactDecisions rate capacity start times

section Law
variable {rate capacity start : Nat}

theorem bucket_new (hcapacity : capacity < 2 ^ 64) :
    (new rate capacity start).bucket = ⟨rate, capacity, capacity⟩ := by
  have hexact : saturatingMul capacity tokenScale = capacity * tokenScale := by
    unfold saturatingMul tokenScale maxU128
    omega
  have hdiv : ((capacity * tokenScale : Nat) : ℚ) / tokenScale = capacity := by
    rw [Nat.cast_mul, mul_div_assoc, div_self tokenScale_pos.ne', mul_one]
  unfold bucket new
  dsimp only
  rw [hexact, hdiv]

/-- Between ordered times no gap is cut off. -/
theorem seconds_gaps {times : List Nat} (h : (start :: times).Pairwise (· ≤ ·)) :
    (gaps start times).map seconds = elapsed start times := by
  induction times generalizing start with
  | nil => rfl
  | cons now rest ih =>
    obtain ⟨hfirst, hrest⟩ := List.pairwise_cons.mp h
    have hnow : start ≤ now := hfirst now List.mem_cons_self
    rw [gaps, List.map_cons, Nat.max_eq_right hnow, ih hrest, elapsed, seconds, Nat.cast_sub hnow]

/-- The calls do not change what the limiter was made with. -/
theorem bucket_after (hcapacity : capacity < 2 ^ 64) (times : List Nat) :
    ((new rate capacity start).after times).bucket.rate = rate ∧
      ((new rate capacity start).after times).bucket.capacity = capacity := by
  obtain ⟨-, hrate, hcap⟩ := after_fixed (.new rate hcapacity start) times
  have hbucket : (new rate capacity start).bucket = ⟨rate, capacity, capacity⟩ :=
    bucket_new hcapacity
  refine ⟨congrArg Nat.cast hrate, ?_⟩
  rw [bucket, hcap]
  exact congrArg TokenBucket.capacity hbucket

/-- A call that is accepted finds a whole token and takes it. -/
theorem allow_available {l : InputRateLimiter} {now : Nat} (haccepted : (l.allow now).1 = true) :
    (l.allow now).2.available + tokenScale = (l.refill now).available := by
  rcases Nat.lt_or_ge (l.refill now).available tokenScale with hlt | hle
  · rw [allow_of_lt hlt] at haccepted
    cases haccepted
  · rw [allow_of_le hle]
    exact Nat.sub_add_cancel hle

theorem accepted_le (hcapacity : capacity < 2 ^ 64) (times : List Nat) :
    (new rate capacity start).accepted times ≤
      capacity + rate * (latest start times - start) / tokenScale := by
  refine le_of_bucket ?_
  have hbound := TokenBucket.taken_le (sound_bucket (new rate capacity start))
    (seconds_nonneg (gaps (new rate capacity start).lastRefill times))
  rw [TokenBucket.taken, ← decisions_bucket (.new rate hcapacity start), sum_seconds, sum_gaps,
    bucket_new hcapacity] at hbound
  exact hbound

/-- **A window of ordered times** admits no more than the capacity and what its length gives,
whatever came before. -/
theorem accepted_window_le (hcapacity : capacity < 2 ^ 64) (before : List Nat) {first : Nat}
    {rest : List Nat} (hordered : (first :: rest).Pairwise (· ≤ ·)) :
    (new rate capacity start).accepted (before ++ first :: rest) ≤
      (new rate capacity start).accepted before +
        (capacity + rate * (rest.getLastD first - first) / tokenScale) := by
  have hbefore : ((new rate capacity start).after before).Bounded :=
    Bounded.after (.new rate hcapacity start) before
  obtain ⟨hrate, hcap⟩ : ((new rate capacity start).after before).bucket.rate = rate ∧
      ((new rate capacity start).after before).bucket.capacity = capacity :=
    bucket_after hcapacity before
  rw [accepted_append]
  generalize (new rate capacity start).after before = l at hbefore hrate hcap
  obtain ⟨hle, hlatest⟩ := latest_le hordered (max l.lastRefill first)
  -- What is gained after the first call comes from times within the window.
  have hgain : (gaps (max l.lastRefill first) rest).sum ≤ rest.getLastD first - first := by
    rw [sum_gaps]
    omega
  have hwindow : rate * (gaps (max l.lastRefill first) rest).sum / tokenScale ≤
      rate * (rest.getLastD first - first) / tokenScale :=
    Nat.div_le_div_right (Nat.mul_le_mul_left rate hgain)
  refine Nat.add_le_add_left (Nat.le_trans (le_of_bucket ?_)
    (Nat.add_le_add_left hwindow capacity)) _
  have hfirst : 0 ≤ seconds (first - l.lastRefill) :=
    div_nonneg (Nat.cast_nonneg _) tokenScale_pos.le
  have hbound := TokenBucket.taken_from_le (sound_bucket l) hfirst
    (seconds_nonneg (gaps (max l.lastRefill first) rest))
  have hdecisions := decisions_bucket hbefore (first :: rest)
  rw [gaps, List.map_cons] at hdecisions
  rw [TokenBucket.taken, ← hdecisions, sum_seconds, hrate, hcap] at hbound
  exact hbound

/-- A call is accepted once there was time for a whole token. -/
theorem allow_of_gain (hpositive : 1 ≤ capacity) (hcapacity : capacity < 2 ^ 64)
    (times : List Nat) {now : Nat} (hgain : tokenScale ≤ rate * (now - latest start times)) :
    (((new rate capacity start).after times).allow now).1 = true := by
  have hnew : (new rate capacity start).Bounded := .new rate hcapacity start
  obtain ⟨hrate, hcap⟩ : ((new rate capacity start).after times).bucket.rate = rate ∧
      ((new rate capacity start).after times).bucket.capacity = capacity :=
    bucket_after hcapacity times
  rw [((hnew.after times).allow_bucket now).1]
  refine TokenBucket.call_of_gain (sound_bucket _) ?_ ?_
  · rw [hcap]
    exact_mod_cast hpositive
  · rw [hrate, (after_fixed hnew times).1]
    unfold seconds
    rw [← mul_div_assoc, one_le_div tokenScale_pos]
    exact_mod_cast hgain

/-- **Main result.**  The limiter is an exact token bucket: it admits no more than the
capacity and what the rate gives, whatever the order of the times, and on ordered times it
decides as the bucket does. -/
theorem rate_limit (hpositive : 1 ≤ capacity) (hcapacity : capacity < 2 ^ 64) :
    RateLaw rate capacity start := by
  have hnew : (new rate capacity start).Bounded := .new rate hcapacity start
  constructor
  case bounded =>
    intro times
    refine (hnew.after times).available.trans ?_
    rw [(after_fixed hnew times).2.2]
    exact Nat.min_le_left _ _
  case spent => exact fun _ _ => allow_available
  case accepted => exact accepted_le hcapacity
  case window => exact fun before _ _ => accepted_window_le hcapacity before
  case prompt => exact fun times _ => allow_of_gain hpositive hcapacity times
  case backwards =>
    intro times now hback
    have hlast : ((new rate capacity start).after times).lastRefill = latest start times :=
      (after_fixed hnew times).1
    rw [← hlast] at hback
    exact if_neg (Nat.not_le.mpr hback)
  case exact =>
    intro times hordered
    rw [decisions_bucket hnew, bucket_new hcapacity]
    exact congrArg _ (seconds_gaps hordered)

/-- 240 tokens a second and 64 at once. -/
theorem rate_limit_controller : RateLaw 240 64 0 := rate_limit (by decide) (by decide)

end Law

end InputRateLimiter
end Network
end Pockiva
