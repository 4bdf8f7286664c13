import Mathlib.Data.Nat.Prime.Basic
import Mathlib.Dynamics.PeriodicPts.Defs

/-! # Maps of words that respect exclusive or

Such a map is known from its values at the powers of two (`combine_columns`).  So is
every iterate of it, and the columns of the iterates of a power of two come by squaring;
`leap` takes any number of steps with a few of these (`leap_eq`), which is enough to
check a period (`minimalPeriod_eq`).
-/
namespace XorLinear

variable {w : Nat}

/-- The map respects exclusive or. -/
structure Linear (f : BitVec w → BitVec w) : Prop where
  zero : f 0#w = 0#w
  xor : ∀ x y, f (x ^^^ y) = f x ^^^ f y

/-! ## Maps that respect exclusive or -/

section Maps
variable {f g : BitVec w → BitVec w}

theorem linear_id : Linear (fun x : BitVec w => x) := ⟨rfl, fun _ _ => rfl⟩

theorem linear_mask (mask : BitVec w) : Linear (fun x => x &&& mask) := by
  refine ⟨BitVec.zero_and, fun x y => ?_⟩
  apply BitVec.eq_of_getLsbD_eq
  intro i _
  simp only [BitVec.getLsbD_and, BitVec.getLsbD_xor]
  exact Bool.and_xor_distrib_right _ _ _

theorem linear_ushiftRight (n : Nat) : Linear (fun x : BitVec w => x >>> n) :=
  ⟨BitVec.zero_ushiftRight, fun x y => BitVec.ushiftRight_xor_distrib x y n⟩

theorem linear_shiftLeft (n : Nat) : Linear (fun x : BitVec w => x <<< n) :=
  ⟨BitVec.zero_shiftLeft n, fun x y => BitVec.shiftLeft_xor_distrib x y n⟩

theorem Linear.comp (hf : Linear f) (hg : Linear g) : Linear (f ∘ g) := by
  refine ⟨?_, fun x y => ?_⟩
  · show f (g 0#w) = 0#w
    rw [hg.zero, hf.zero]
  · show f (g (x ^^^ y)) = f (g x) ^^^ f (g y)
    rw [hg.xor, hf.xor]

theorem Linear.both (hf : Linear f) (hg : Linear g) : Linear (fun x => f x ^^^ g x) := by
  refine ⟨?_, fun x y => ?_⟩
  · show f 0#w ^^^ g 0#w = 0#w
    rw [hf.zero, hg.zero, BitVec.xor_self]
  · show f (x ^^^ y) ^^^ g (x ^^^ y) = f x ^^^ g x ^^^ (f y ^^^ g y)
    rw [hf.xor, hg.xor]
    ac_rfl

end Maps

/-! ## Columns -/

/-- The exclusive or of the columns that belong to the bits of a number. -/
def combine : List (BitVec w) → Nat → BitVec w
  | [], _ => 0#w
  | column :: columns, n => (if n % 2 = 1 then column else 0#w) ^^^ combine columns (n / 2)

/-- The powers of two from `2 ^ i` on, as many as are asked for. -/
def unitsFrom (w i : Nat) : Nat → List (BitVec w)
  | 0 => []
  | count + 1 => BitVec.twoPow w i :: unitsFrom w (i + 1) count

/-- The values of a map at the powers of two. -/
def columns (f : BitVec w → BitVec w) : List (BitVec w) := (unitsFrom w 0 w).map f

theorem Linear.combine {f : BitVec w → BitVec w} (h : Linear f) (cs : List (BitVec w)) (n : Nat) :
    f (combine cs n) = XorLinear.combine (cs.map f) n := by
  induction cs generalizing n with
  | nil => exact h.zero
  | cons c cs ih =>
    rw [XorLinear.combine, List.map_cons, XorLinear.combine, h.xor, ih]
    split
    · rfl
    · rw [h.zero]

/-- A bit of a combination of powers of two. -/
theorem getLsbD_combine_unitsFrom (i count n j : Nat) (hfits : i + count ≤ w) :
    (XorLinear.combine (unitsFrom w i count) n).getLsbD j =
      (decide (i ≤ j ∧ j < i + count) && n.testBit (j - i)) := by
  induction count generalizing i n with
  | zero =>
    rw [unitsFrom, XorLinear.combine, BitVec.getLsbD_zero, decide_eq_false (by omega)]
    rfl
  | succ count ih =>
    have hhead : (if n % 2 = 1 then BitVec.twoPow w i else 0#w).getLsbD j =
        (decide (i = j) && n.testBit 0) := by
      rw [Nat.testBit_zero]
      split
      · rename_i hodd
        rw [BitVec.getLsbD_twoPow, decide_eq_true (show i < w by omega), hodd]
        simp
      · rename_i heven
        rw [decide_eq_false heven, BitVec.getLsbD_zero, Bool.and_false]
    rw [unitsFrom, XorLinear.combine, BitVec.getLsbD_xor, hhead, ih (i + 1) (n / 2) (by omega)]
    by_cases heq : i = j
    · subst heq
      simp
    by_cases hlater : i + 1 ≤ j
    · have hshift : (n / 2).testBit (j - (i + 1)) = n.testBit (j - i) := by
        rw [Nat.testBit_div_two]
        congr 1
        omega
      have hrange : (i + 1 ≤ j ∧ j < i + 1 + count) ↔ (i ≤ j ∧ j < i + (count + 1)) := by omega
      rw [hshift, decide_eq_false heq, decide_eq_decide.mpr hrange, Bool.false_and, Bool.false_xor]
    · rw [decide_eq_false heq, decide_eq_false (show ¬ (i + 1 ≤ j ∧ _) by omega),
        decide_eq_false (show ¬ (i ≤ j ∧ j < i + (count + 1)) by omega)]
      rfl

/-- A word is the combination of the powers of two of its bits. -/
theorem combine_units (x : BitVec w) : XorLinear.combine (unitsFrom w 0 w) x.toNat = x := by
  apply BitVec.eq_of_getLsbD_eq
  intro j hj
  rw [getLsbD_combine_unitsFrom 0 w x.toNat j (by omega), BitVec.testBit_toNat,
    decide_eq_true (show 0 ≤ j ∧ j < 0 + w by omega)]
  rfl

/-- **The map is known from its columns.** -/
theorem combine_columns {f : BitVec w → BitVec w} (h : Linear f) (x : BitVec w) :
    XorLinear.combine (columns f) x.toNat = f x := by
  rw [columns, ← h.combine, combine_units]

/-! ## Iterates -/

/-- The columns of a map that is done twice. -/
def squared (cs : List (BitVec w)) : List (BitVec w) :=
  cs.map fun c => XorLinear.combine cs c.toNat

theorem squared_columns {f : BitVec w → BitVec w} (h : Linear f) :
    squared (columns f) = columns (f ∘ f) := by
  unfold squared
  simp only [combine_columns h]
  rw [columns, List.map_map]
  rfl

/-- `n` steps of the map with the given columns, for `n` of at most `bits` bits. -/
def leap : Nat → List (BitVec w) → Nat → BitVec w → BitVec w
  | 0, _, _, x => x
  | bits + 1, cs, n, x =>
    leap bits (squared cs) (n / 2) (if n % 2 = 1 then XorLinear.combine cs x.toNat else x)

/-- **The leap is the iterate.** -/
theorem leap_eq {f : BitVec w → BitVec w} (h : Linear f) {bits n : Nat} (hn : n < 2 ^ bits)
    (x : BitVec w) : leap bits (columns f) n x = f^[n] x := by
  induction bits generalizing f n x with
  | zero =>
    have hzero : n = 0 := by omega
    rw [hzero]
    rfl
  | succ bits ih =>
    have hhalf : n / 2 < 2 ^ bits := by
      rw [Nat.pow_succ] at hn
      omega
    have hsteps : (f ∘ f)^[n / 2] = f^[2 * (n / 2)] := by
      rw [Function.iterate_mul]
      rfl
    rw [leap, squared_columns h, ih (h.comp h) hhalf, hsteps, combine_columns h]
    by_cases hodd : n % 2 = 1
    · rw [if_pos hodd, ← Function.iterate_succ_apply]
      congr 2
      omega
    · rw [if_neg hodd]
      congr 2
      omega

/-! ## Periods -/

/-- A period is the least one when none of its quotients by a prime is a period. -/
theorem minimalPeriod_eq {α : Type} {f : α → α} {x : α} {n : Nat}
    (hperiodic : Function.IsPeriodicPt f n x)
    (hprimes : ∀ p, p.Prime → p ∣ n → ¬ Function.IsPeriodicPt f (n / p) x) :
    Function.minimalPeriod f x = n := by
  obtain ⟨k, hk⟩ := hperiodic.minimalPeriod_dvd
  have hone : k = 1 := by
    by_contra hne
    obtain ⟨p, hp, l, hl⟩ := Nat.exists_prime_and_dvd hne
    have hquotient : n / p = Function.minimalPeriod f x * l := by
      rw [hk, hl, Nat.mul_left_comm, Nat.mul_div_cancel_left _ hp.pos]
    refine hprimes p hp ⟨Function.minimalPeriod f x * l, by rw [← Nat.mul_left_comm, ← hl, hk]⟩ ?_
    rw [hquotient]
    exact (Function.isPeriodicPt_minimalPeriod f x).mul_const l
  rw [hk, hone, Nat.mul_one]

/-- Two iterates agree when their numbers do modulo the least period. -/
theorem iterate_eq_iff {α : Type} {f : α → α} {x : α} {n : Nat} (hn : 0 < n)
    (hperiod : Function.minimalPeriod f x = n) (j k : Nat) :
    f^[j] x = f^[k] x ↔ j % n = k % n := by
  rw [← Function.iterate_mod_minimalPeriod_eq, ← Function.iterate_mod_minimalPeriod_eq (n := k),
    hperiod, Function.iterate_eq_iterate_iff_of_lt_minimalPeriod]
  · rw [hperiod]
    exact Nat.mod_lt j hn
  · rw [hperiod]
    exact Nat.mod_lt k hn

end XorLinear
