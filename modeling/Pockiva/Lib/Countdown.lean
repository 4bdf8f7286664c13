import Mathlib.Logic.Function.Iterate

/-! # Countdowns

A countdown that reloads itself and does its work each time it runs out.  The state
after any number of ticks in closed form: how often it ran out and what is left
(`tick_iterate`).
-/
namespace Countdown

variable {σ : Type}

/-- One tick: a countdown that runs out is reloaded, and the work is done. -/
def tick (period : Nat) (work : σ → σ) (state : Nat × σ) : Nat × σ :=
  if state.1 - 1 = 0 then (period, work state.2) else (state.1 - 1, state.2)

/-- How often a countdown with `left` ticks to go runs out within `n` ticks. -/
def expiries (period left n : Nat) : Nat := (n + period - left) / period

/-- The ticks to go after `n` ticks. -/
def remaining (period left n : Nat) : Nat := left + expiries period left n * period - n

theorem expiries_zero {period left : Nat} (hperiod : 0 < period) (hleft : 0 < left) :
    expiries period left 0 = 0 := by
  unfold expiries
  exact Nat.div_eq_of_lt (by omega)

/-- A countdown that was just reloaded. -/
theorem expiries_reloaded (period n : Nat) : expiries period period n = n / period := by
  unfold expiries
  rw [Nat.add_sub_cancel]

/-- A countdown that was reloaded with some ticks more than its period. -/
theorem expiries_delayed (period delay n : Nat) :
    expiries period (period + delay) n = (n - delay) / period := by
  unfold expiries
  congr 1
  omega

variable {period left : Nat}

/-- Something is left at any time. -/
theorem remaining_pos (hperiod : 0 < period) (n : Nat) : 0 < remaining period left n := by
  unfold remaining expiries
  have hdiv := Nat.div_add_mod (n + period - left) period
  have hmod := Nat.mod_lt (n + period - left) hperiod
  rw [Nat.mul_comm] at hdiv
  omega

/-- The next tick is the last one. -/
theorem remaining_last (hperiod : 0 < period) {n : Nat} (h : remaining period left n = 1) :
    expiries period left (n + 1) = expiries period left n + 1 ∧
      remaining period left (n + 1) = period := by
  have hstep : expiries period left (n + 1) = expiries period left n + 1 := by
    unfold remaining at h
    unfold expiries at h ⊢
    generalize (n + period - left) / period = runs at h ⊢
    have hsum : n + 1 + period - left = (runs + 1) * period := by
      have hexpand : (runs + 1) * period = runs * period + period := Nat.succ_mul runs period
      omega
    rw [hsum, Nat.mul_div_cancel _ hperiod]
  refine ⟨hstep, ?_⟩
  unfold remaining at h ⊢
  rw [hstep, Nat.succ_mul]
  omega

/-- The next tick is not the last one. -/
theorem remaining_more (hperiod : 0 < period) {n : Nat} (h : 1 < remaining period left n) :
    expiries period left (n + 1) = expiries period left n ∧
      remaining period left (n + 1) = remaining period left n - 1 := by
  have hstep : expiries period left (n + 1) = expiries period left n := by
    unfold remaining at h
    unfold expiries at h ⊢
    have hle : (n + period - left) / period ≤ (n + 1 + period - left) / period :=
      Nat.div_le_div_right (by omega)
    generalize (n + period - left) / period = runs at h hle ⊢
    have hlt : (n + 1 + period - left) / period < runs + 1 := by
      rw [Nat.div_lt_iff_lt_mul hperiod, Nat.succ_mul]
      omega
    omega
  refine ⟨hstep, ?_⟩
  unfold remaining
  rw [hstep]
  omega

/-- **A countdown after any number of ticks.** -/
theorem tick_iterate (hperiod : 0 < period) (hleft : 0 < left) (work : σ → σ) (s : σ) (n : Nat) :
    (tick period work)^[n] (left, s) =
      (remaining period left n, work^[expiries period left n] s) := by
  induction n with
  | zero =>
    rw [remaining, expiries_zero hperiod hleft, Nat.zero_mul]
    rfl
  | succ n ih =>
    rw [Function.iterate_succ_apply', ih]
    have hpos : 0 < remaining period left n := remaining_pos hperiod n
    unfold tick
    dsimp only
    by_cases hlast : remaining period left n = 1
    · obtain ⟨hexpiries, hremaining⟩ := remaining_last hperiod hlast
      rw [if_pos (by omega), hexpiries, hremaining, Function.iterate_succ_apply']
    · have hmore : 1 < remaining period left n := by omega
      obtain ⟨hexpiries, hremaining⟩ := remaining_more hperiod hmore
      rw [if_neg (by omega), hexpiries, hremaining]

/-- A counter that wraps around, after any number of steps. -/
theorem wrap_iterate {size position : Nat} (h : position < size) (n : Nat) :
    (fun p => (p + 1) % size)^[n] position = (position + n) % size := by
  induction n with
  | zero => exact (Nat.mod_eq_of_lt h).symm
  | succ n ih => rw [Function.iterate_succ_apply', ih, Nat.mod_add_mod, Nat.add_assoc]

end Countdown
