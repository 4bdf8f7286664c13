import Mathlib.Algebra.Order.Field.Basic
import Mathlib.Tactic.Linarith

/-! # Token buckets

A bucket gains tokens at a constant rate, up to its capacity, and each call that finds a
whole token takes one.  Time is a linearly ordered field, so nothing is rounded.  What a
sequence of calls takes is bounded by what the bucket held and gained (`taken_le`).
-/

/-- Amounts of tokens; the rate is the gain in a unit of time. -/
structure TokenBucket (K : Type) where
  rate : K
  capacity : K
  level : K

namespace TokenBucket

variable {K : Type} [Field K] [LinearOrder K]

/-- The bucket some time later. -/
def refill (b : TokenBucket K) (elapsed : K) : TokenBucket K :=
  { b with level := min (b.level + b.rate * elapsed) b.capacity }

/-- Whether there is a token to take, and the bucket without it. -/
def take (b : TokenBucket K) : Bool × TokenBucket K :=
  if b.level < 1 then (false, b) else (true, { b with level := b.level - 1 })

/-- A call some time after the one before it. -/
def call (b : TokenBucket K) (elapsed : K) : Bool × TokenBucket K := (b.refill elapsed).take

/-- What becomes of calls, given the time that passes before each. -/
def decisions : TokenBucket K → List K → List Bool
  | _, [] => []
  | b, elapsed :: rest => (b.call elapsed).1 :: decisions (b.call elapsed).2 rest

/-- How many of the calls take a token. -/
def taken (b : TokenBucket K) (times : List K) : Nat := (b.decisions times).count true

theorem taken_cons (b : TokenBucket K) (elapsed : K) (rest : List K) :
    b.taken (elapsed :: rest) = (b.call elapsed).2.taken rest + (b.call elapsed).1.toNat := by
  unfold taken
  rw [decisions, List.count_cons]
  cases (b.call elapsed).1 <;> rfl

theorem level_refill_le (b : TokenBucket K) (elapsed : K) :
    (b.refill elapsed).level ≤ b.capacity := min_le_right _ _

/-- A call leaves what it does not take. -/
theorem take_level (b : TokenBucket K) : b.take.2.level + (b.take.1.toNat : K) = b.level := by
  unfold take
  split
  · exact (congrArg _ Nat.cast_zero).trans (add_zero _)
  · show b.level - 1 + ((1 : Nat) : K) = b.level
    rw [Nat.cast_one, sub_add_cancel]

theorem take_rate (b : TokenBucket K) : b.take.2.rate = b.rate := by
  unfold take
  split <;> rfl

theorem take_capacity (b : TokenBucket K) : b.take.2.capacity = b.capacity := by
  unfold take
  split <;> rfl

variable [IsStrictOrderedRing K]

/-- Nothing is negative. -/
structure Sound (b : TokenBucket K) : Prop where
  level : 0 ≤ b.level
  rate : 0 ≤ b.rate
  capacity : 0 ≤ b.capacity

namespace Sound
variable {b : TokenBucket K}

theorem refill (h : b.Sound) {elapsed : K} (helapsed : 0 ≤ elapsed) : (b.refill elapsed).Sound where
  level := le_min (add_nonneg h.level (mul_nonneg h.rate helapsed)) h.capacity
  rate := h.rate
  capacity := h.capacity

theorem take (h : b.Sound) : b.take.2.Sound where
  level := by
    unfold TokenBucket.take
    split
    · exact h.level
    · next hwhole => exact sub_nonneg.mpr (not_lt.mp hwhole)
  rate := b.take_rate.symm ▸ h.rate
  capacity := b.take_capacity.symm ▸ h.capacity

end Sound

/-- What the first call takes comes from what it found. -/
theorem taken_cons_le {b : TokenBucket K} {elapsed gain : K} {rest : List K}
    (h : ((b.call elapsed).2.taken rest : K) ≤ (b.call elapsed).2.level + gain) :
    (b.taken (elapsed :: rest) : K) ≤ (b.refill elapsed).level + gain := by
  have hkept : (b.call elapsed).2.level + ((b.call elapsed).1.toNat : K) =
      (b.refill elapsed).level := take_level _
  rw [taken_cons, Nat.cast_add]
  linarith only [h, hkept]

/-- **Calls take no more than the bucket holds and gains.** -/
theorem taken_le {b : TokenBucket K} (h : b.Sound) {times : List K}
    (htimes : ∀ elapsed ∈ times, 0 ≤ elapsed) :
    (b.taken times : K) ≤ b.level + b.rate * times.sum := by
  induction times generalizing b with
  | nil =>
    rw [List.sum_nil, mul_zero, add_zero]
    exact (Nat.cast_zero (R := K)).trans_le h.level
  | cons elapsed rest ih =>
    have hcall : (b.call elapsed).2.Sound := (h.refill (htimes elapsed List.mem_cons_self)).take
    have hrest := ih hcall fun later hlater => htimes later (List.mem_cons_of_mem _ hlater)
    have hrate : (b.call elapsed).2.rate = b.rate := take_rate _
    have hgain : (b.refill elapsed).level ≤ b.level + b.rate * elapsed := min_le_left _ _
    rw [hrate] at hrest
    have hall := taken_cons_le hrest
    rw [List.sum_cons, mul_add]
    linarith only [hall, hgain]

/-- **From any call on**, calls take no more than the capacity and what is gained after it. -/
theorem taken_from_le {b : TokenBucket K} (h : b.Sound) {elapsed : K} (helapsed : 0 ≤ elapsed)
    {times : List K} (htimes : ∀ elapsed ∈ times, 0 ≤ elapsed) :
    (b.taken (elapsed :: times) : K) ≤ b.capacity + b.rate * times.sum := by
  have hcall : (b.call elapsed).2.Sound := (h.refill helapsed).take
  have hrest := taken_le hcall htimes
  have hrate : (b.call elapsed).2.rate = b.rate := take_rate _
  rw [hrate] at hrest
  exact (taken_cons_le hrest).trans (add_le_add_left (b.level_refill_le elapsed) _)

/-- A bucket that gained a token has one, if it can hold one. -/
theorem call_of_gain {b : TokenBucket K} (h : b.Sound) (hcapacity : 1 ≤ b.capacity) {elapsed : K}
    (hgain : 1 ≤ b.rate * elapsed) : (b.call elapsed).1 = true := by
  have hwhole : 1 ≤ (b.refill elapsed).level :=
    le_min (hgain.trans (le_add_of_nonneg_left h.level)) hcapacity
  unfold call take
  rw [if_neg (not_lt.mpr hwhole)]

end TokenBucket
