import Mathlib.Logic.Function.Iterate

/-! # Iterations that look one step ahead

An iteration `x, next x, next (next x), …` goes on while the value after the present one is
admitted.  It is given chances to take a step, and `taken` says how many it takes: all of
them, until the first value that is not admitted comes next (`taken_eq_of_admits`), and
none from there on (`taken_of_not_admits`).  An iteration that grows stops at any bound
(`stops`).  Where a chance comes once in a period of clocks, the quotient counts the
chances and the remainder the clocks since the last one.
-/
namespace Lookahead

section Taken
variable {α : Type} (next : α → α) (admits : α → Prop) [DecidablePred admits] (x : α)

/-- The steps taken from `x` at the first chances. -/
def taken : Nat → Nat
  | 0 => 0
  | chances + 1 =>
    if admits (next^[taken chances + 1] x) then taken chances + 1 else taken chances

variable {next admits x}

theorem taken_succ_of_admits {chances : Nat}
    (h : admits (next^[taken next admits x chances + 1] x)) :
    taken next admits x (chances + 1) = taken next admits x chances + 1 := by
  rw [taken, if_pos h]

theorem taken_succ_of_not_admits {chances : Nat}
    (h : ¬ admits (next^[taken next admits x chances + 1] x)) :
    taken next admits x (chances + 1) = taken next admits x chances := by
  rw [taken, if_neg h]

theorem taken_le (chances : Nat) : taken next admits x chances ≤ chances := by
  induction chances with
  | zero => exact Nat.le_refl 0
  | succ chances ih =>
    rw [taken]
    split <;> omega

/-- Every value taken is admitted. -/
theorem admits_of_lt_taken {chances i : Nat} (h : i < taken next admits x chances) :
    admits (next^[i + 1] x) := by
  induction chances with
  | zero => exact absurd h (Nat.not_lt_zero i)
  | succ chances ih =>
    rw [taken] at h
    split at h
    · next hadmits =>
      rcases Nat.lt_succ_iff_lt_or_eq.mp h with hlt | rfl
      · exact ih hlt
      · exact hadmits
    · exact ih h

/-- **An iteration that can go on has taken every chance.** -/
theorem taken_eq_of_admits {chances : Nat}
    (h : admits (next^[taken next admits x chances + 1] x)) :
    taken next admits x chances = chances := by
  induction chances with
  | zero => rfl
  | succ chances ih =>
    by_cases hadmits : admits (next^[taken next admits x chances + 1] x)
    · rw [taken_succ_of_admits hadmits, ih hadmits]
    · rw [taken_succ_of_not_admits hadmits] at h
      exact absurd h hadmits

/-- **One that cannot go on takes no more.** -/
theorem taken_of_not_admits {chances : Nat}
    (h : ¬ admits (next^[taken next admits x chances + 1] x)) (more : Nat) :
    taken next admits x (chances + more) = taken next admits x chances := by
  induction more with
  | zero => rfl
  | succ more ih =>
    rw [← Nat.add_assoc, taken_succ_of_not_admits (by rwa [ih]), ih]

end Taken

/-! ## Growth -/

section Growth
variable {next : Nat → Nat} {x growth : Nat}

theorem le_iterate (h : ∀ y, x ≤ y → y + growth ≤ next y) (n : Nat) :
    x + n * growth ≤ next^[n] x := by
  induction n with
  | zero => rw [Nat.zero_mul, Nat.add_zero]; exact Nat.le_refl _
  | succ n ih =>
    have hnext := h (next^[n] x) (Nat.le_trans (Nat.le_add_right x _) ih)
    rw [Function.iterate_succ_apply', Nat.succ_mul]
    omega

/-- **An iteration that grows stops at a bound.** -/
theorem stops (h : ∀ y, x ≤ y → y + growth ≤ next y) {bound chances : Nat}
    (hchances : bound < x + (chances + 1) * growth) :
    ¬ next^[taken next (· ≤ bound) x chances + 1] x ≤ bound := by
  intro hadmits
  have hall : taken next (· ≤ bound) x chances = chances := taken_eq_of_admits hadmits
  have hgrown := le_iterate h (chances + 1)
  rw [hall] at hadmits
  omega

end Growth

/-! ## A chance once in a period -/

section Period
variable {period clocks : Nat}

/-- The clock that completes a period. -/
theorem div_mod_of_last (h : clocks % period + 1 = period) :
    (clocks + 1) / period = clocks / period + 1 ∧ (clocks + 1) % period = 0 := by
  have hpos : 0 < period := by omega
  have hsplit := Nat.mod_add_div clocks period
  refine (Nat.div_mod_unique hpos).mpr ⟨?_, hpos⟩
  rw [Nat.mul_succ]
  omega

/-- Any other clock. -/
theorem div_mod_of_more (h : clocks % period + 1 < period) :
    (clocks + 1) / period = clocks / period ∧ (clocks + 1) % period = clocks % period + 1 := by
  have hpos : 0 < period := by omega
  have hsplit := Nat.mod_add_div clocks period
  refine (Nat.div_mod_unique hpos).mpr ⟨?_, h⟩
  omega

end Period

end Lookahead
