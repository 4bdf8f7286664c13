import Pockiva.Apu.Divider
import Mathlib.Data.Nat.ModEq

/-! # The timer in closed form

TIMA is incremented whenever the divider reaches a multiple of the period, so after `n`
T-cycles it has been incremented as often as there are such multiples on the way.  An
increment from 0xFF leaves 0 for four T-cycles and then the modulo, so that from the
first overflow on the counter runs through `256 - TMA` values.  `closedForm` says so of
any number of T-cycles at once, in whatever portions they are ticked, and the loop of
`tick` computes it (`after_eq`).
-/
namespace Pockiva

namespace Timer

/-- TAC enables the counter. -/
def Enabled (tac : Byte) : Prop := tac &&& 0x04 ≠ 0

instance (tac : Byte) : Decidable (Enabled tac) := inferInstanceAs (Decidable (_ ≠ _))

/-- The T-cycles between two increments, by the selector of TAC. -/
def period (tac : Byte) : Nat :=
  match (tac &&& 0x03).toNat with
  | 0 => 1024
  | 1 => 16
  | 2 => 64
  | _ => 256

/-- The timer after `n` T-cycles. -/
def after (t : Timer) (n : Nat) : Timer := (t.tick n).device

/-- The timer in the next T-cycle when the divider is about to advance. -/
def beforeEdge (t : Timer) : Timer := (reload { t with reloadedThisCycle := false }).device

/-- The input falls when the divider advances, which calls `increment_tima`. -/
def Falls (t : Timer) : Prop :=
  t.timerInput = true ∧ ({ t with divider := t.divider + 1 } : Timer).timerInput = false

instance (t : Timer) : Decidable t.Falls := inferInstanceAs (Decidable (_ ∧ _))

/-- The next T-cycle increments TIMA. -/
def Increments (t : Timer) : Prop := t.beforeEdge.Falls ∧ t.beforeEdge.reloadDelay = none

instance (t : Timer) : Decidable t.Increments := inferInstanceAs (Decidable (_ ∧ _))

/-- The next T-cycle increments TIMA from 0xFF. -/
def Overflows (t : Timer) : Prop := t.Increments ∧ t.beforeEdge.tima = 0xff

instance (t : Timer) : Decidable t.Overflows := inferInstanceAs (Decidable (_ ∧ _))

/-! ## The closed form -/

/-- The increments in `n` T-cycles. -/
def increments (t : Timer) (n : Nat) : Nat :=
  (t.divider.toNat + n) / period t.tac - t.divider.toNat / period t.tac

/-- The T-cycles since the divider last was at a multiple of the period. -/
def phase (t : Timer) (n : Nat) : Nat := (t.divider.toNat + n) % period t.tac

/-- The counter after `k` increments from `tima`, if a reload took no time. -/
def counted (tima tma k : Nat) : Nat :=
  if tima + k < 256 then tima + k else tma + (tima + k - 256) % (256 - tma)

/-- The `k`-th increment is from 0xFF. -/
def IsOverflow (tima tma k : Nat) : Prop := 256 ≤ tima + k ∧ (tima + k - 256) % (256 - tma) = 0

instance (tima tma k : Nat) : Decidable (IsOverflow tima tma k) :=
  inferInstanceAs (Decidable (_ ∧ _))

/-- The last of the increments in `n` T-cycles was from 0xFF. -/
def Overflown (t : Timer) (n : Nat) : Prop :=
  IsOverflow t.tima.toNat t.tma.toNat (t.increments n)

instance (t : Timer) (n : Nat) : Decidable (t.Overflown n) :=
  inferInstanceAs (Decidable (IsOverflow _ _ _))

/-- The reload is pending after `n` T-cycles. -/
def Window (t : Timer) (n : Nat) : Prop := t.Overflown n ∧ t.phase n < 4

instance (t : Timer) (n : Nat) : Decidable (t.Window n) := inferInstanceAs (Decidable (_ ∧ _))

/-- The timer after `n` T-cycles, as it is specified. -/
def closedForm (t : Timer) (n : Nat) : Timer where
  divider := t.divider + BitVec.ofNat 16 n
  tima := if t.Window n then 0
    else BitVec.ofNat 8 (counted t.tima.toNat t.tma.toNat (t.increments n))
  tma := t.tma
  tac := t.tac
  reloadDelay := if t.Window n then some (4 - t.phase n) else none
  reloadedThisCycle :=
    if n = 0 then t.reloadedThisCycle else decide (t.Overflown n ∧ t.phase n = 4)

/-! ## The arithmetic of the counter -/

/-- Counting on by one stays in the period or begins the next one. -/
theorem succ_period {period : Nat} (hpos : 0 < period) (d : Nat) :
    (d % period + 1 = period ∧ (d + 1) % period = 0 ∧ (d + 1) / period = d / period + 1) ∨
      (d % period + 1 < period ∧ (d + 1) % period = d % period + 1 ∧
        (d + 1) / period = d / period) := by
  have hsplit := Nat.div_add_mod d period
  have hlt := Nat.mod_lt d hpos
  by_cases hlast : d % period + 1 = period
  · left
    have hnext : d + 1 = period * (d / period + 1) := by
      rw [Nat.mul_add]
      omega
    rw [hnext]
    exact ⟨hlast, Nat.mul_mod_right _ _, Nat.mul_div_cancel_left _ hpos⟩
  · right
    have hin : d % period + 1 < period := by omega
    have hnext : d + 1 = period * (d / period) + (d % period + 1) := by omega
    refine ⟨hin, ?_, ?_⟩
    · rw [hnext, Nat.mul_add_mod, Nat.mod_eq_of_lt hin]
    · rw [hnext, Nat.mul_add_div hpos, Nat.div_eq_of_lt hin]
      omega

/-- The increment after `k` others: from 0xFF exactly if it is an overflow. -/
theorem counted_succ {tima tma : Nat} (htma : tma < 256) (k : Nat) :
    (counted tima tma k = 255 ∧ IsOverflow tima tma (k + 1)) ∨
      (counted tima tma k < 255 ∧ ¬ IsOverflow tima tma (k + 1) ∧
        counted tima tma (k + 1) = counted tima tma k + 1) := by
  unfold counted IsOverflow
  have hpos : 0 < 256 - tma := by omega
  rcases Nat.lt_trichotomy (tima + k) 255 with hlt | heq | hgt
  · right
    rw [if_pos (by omega), if_pos (by omega)]
    exact ⟨hlt, fun h => by omega, by omega⟩
  · left
    have hzero : tima + (k + 1) - 256 = 0 := by omega
    rw [if_pos (by omega), hzero]
    exact ⟨heq, by omega, Nat.zero_mod _⟩
  · have hsucc : tima + (k + 1) - 256 = (tima + k - 256) + 1 := by omega
    rw [if_neg (by omega), if_neg (by omega), hsucc]
    rcases succ_period hpos (tima + k - 256) with ⟨hlast, hnext, -⟩ | ⟨hin, hnext, -⟩
    · exact .inl ⟨by omega, by omega, hnext⟩
    · exact .inr ⟨by omega, fun h => by omega, by omega⟩

theorem counted_of_isOverflow {tima tma k : Nat} (h : IsOverflow tima tma k) :
    counted tima tma k = tma := by
  obtain ⟨hge, hmod⟩ := h
  rw [counted, if_neg (by omega), hmod, Nat.add_zero]

theorem counted_lt {tima tma : Nat} (htma : tma < 256) (k : Nat) : counted tima tma k < 256 := by
  rcases @counted_succ tima tma htma k with ⟨h, -⟩ | ⟨h, -, -⟩
  · omega
  · omega

/-! ## The period and the bit of the divider -/

theorem period_eq : ∀ tac : Byte, period tac = 2 ^ (selectedBit tac + 1) := by
  decide

theorem selectedBit_mem (tac : Byte) :
    selectedBit tac = 9 ∨ selectedBit tac = 3 ∨ selectedBit tac = 5 ∨ selectedBit tac = 7 := by
  unfold selectedBit
  split
  · exact .inl rfl
  · exact .inr (.inl rfl)
  · exact .inr (.inr (.inl rfl))
  · exact .inr (.inr (.inr rfl))

theorem sixteen_le_period (tac : Byte) : 16 ≤ period tac := by
  unfold period
  split <;> omega

theorem period_dvd (tac : Byte) : period tac ∣ 65536 := by
  unfold period
  split <;> decide

theorem timerInput_eq {t : Timer} (h : Enabled t.tac) :
    t.timerInput = decide (t.divider.toNat / 2 ^ selectedBit t.tac % 2 = 1) := by
  rw [timerInput, if_neg h, BitVec.getLsbD, Nat.testBit_eq_decide_div_mod_eq]

/-- **The input falls when the divider reaches a multiple of the period.** -/
theorem falls_iff {t : Timer} (h : Enabled t.tac) :
    t.Falls ↔ (t.divider.toNat + 1) % period t.tac = 0 := by
  have hlt := t.divider.isLt
  have hnext : (t.divider + 1).toNat = (t.divider.toNat + 1) % 65536 := BitVec.toNat_add ..
  have hinput : ({ t with divider := t.divider + 1 } : Timer).timerInput =
      decide ((t.divider + 1).toNat / 2 ^ selectedBit t.tac % 2 = 1) := timerInput_eq h
  rw [Falls, timerInput_eq h, hinput, hnext, decide_eq_true_iff, decide_eq_false_iff_not,
    period_eq]
  rcases selectedBit_mem t.tac with hbit | hbit | hbit | hbit
  all_goals
    rw [hbit]
    omega

/-- A counter that is off sees no edge. -/
theorem not_falls_of_off {t : Timer} (h : ¬ Enabled t.tac) : ¬ t.Falls := by
  rintro ⟨hinput, -⟩
  rw [timerInput, if_pos (not_not.mp h)] at hinput
  cases hinput

/-! ## One T-cycle -/

@[simp] theorem reload_tac (t : Timer) : (reload t).device.tac = t.tac := by
  unfold reload
  split <;> rfl

@[simp] theorem beforeEdge_divider (t : Timer) : t.beforeEdge.divider = t.divider :=
  reload_divider _

@[simp] theorem beforeEdge_tac (t : Timer) : t.beforeEdge.tac = t.tac := reload_tac _

theorem tickOne_requested (t : Timer) :
    (tickOne t).requested = (reload { t with reloadedThisCycle := false }).requested := by
  rw [tickOne, Requesting.andThen_requested, Requesting.silent_requested,
    InterruptMask.union_empty]

/-- Without an edge only the divider advances after the reload. -/
theorem tickOne_of_not_falls {t : Timer} (h : ¬ t.beforeEdge.Falls) :
    (tickOne t).device = { t.beforeEdge with divider := t.divider + 1 } := by
  have hedge : (t.beforeEdge.timerInput &&
      !({ t.beforeEdge with divider := t.beforeEdge.divider + 1 } : Timer).timerInput) = false := by
    rw [Bool.and_eq_false_iff, Bool.not_eq_false']
    by_contra hneither
    obtain ⟨hold, hnew⟩ := not_or.mp hneither
    exact h ⟨eq_true_of_ne_false hold, eq_false_of_ne_true hnew⟩
  show t.beforeEdge.advanceDivider = _
  rw [advanceDivider, afterEdge, hedge, beforeEdge_divider]
  rfl

theorem tickOne_of_falls {t : Timer} (h : t.beforeEdge.Falls) :
    (tickOne t).device =
      ({ t.beforeEdge with divider := t.divider + 1 } : Timer).incrementTima := by
  show t.beforeEdge.advanceDivider = _
  rw [advanceDivider, afterEdge, h.1, h.2, beforeEdge_divider]
  rfl

/-! ## The closed form and the loop -/

variable {t : Timer}

theorem increments_succ (t : Timer) (n : Nat) :
    (t.phase n + 1 = period t.tac ∧ t.phase (n + 1) = 0 ∧
        t.increments (n + 1) = t.increments n + 1) ∨
      (t.phase n + 1 < period t.tac ∧ t.phase (n + 1) = t.phase n + 1 ∧
        t.increments (n + 1) = t.increments n) := by
  have hpos : 0 < period t.tac := Nat.lt_of_lt_of_le (by decide) (sixteen_le_period t.tac)
  have hle : t.divider.toNat / period t.tac ≤ (t.divider.toNat + n) / period t.tac :=
    Nat.div_le_div_right (Nat.le_add_right _ _)
  unfold phase increments
  rw [← Nat.add_assoc]
  rcases succ_period hpos (t.divider.toNat + n) with ⟨hlast, hmod, hdiv⟩ | ⟨hin, hmod, hdiv⟩
  · exact .inl ⟨hlast, hmod, by omega⟩
  · exact .inr ⟨hin, hmod, by omega⟩

/-- The edge of the closed form's next T-cycle, whatever the reload does. -/
theorem falls_closedForm (h : Enabled t.tac) (n : Nat) :
    (t.closedForm n).beforeEdge.Falls ↔ t.phase n + 1 = period t.tac := by
  have hpos : 0 < period t.tac := Nat.lt_of_lt_of_le (by decide) (sixteen_le_period t.tac)
  have hdivider : (t.closedForm n).beforeEdge.divider.toNat = (t.divider.toNat + n) % 65536 := by
    rw [beforeEdge_divider, closedForm, BitVec.toNat_add, BitVec.toNat_ofNat, Nat.add_mod_mod]
  have hwrap : ((t.divider.toNat + n) % 65536 + 1) % period t.tac = t.phase (n + 1) := by
    rw [phase, Nat.add_mod, Nat.mod_mod_of_dvd _ (period_dvd t.tac), ← Nat.add_mod, Nat.add_assoc]
  have htac : (t.closedForm n).beforeEdge.tac = t.tac := beforeEdge_tac _
  rw [falls_iff (by rwa [htac]), htac, hdivider, hwrap]
  rcases increments_succ t n with ⟨hlast, hzero, -⟩ | ⟨hin, hnext, -⟩
  · exact ⟨fun _ => hlast, fun _ => hzero⟩
  · exact ⟨fun _ => by omega, fun _ => by omega⟩

theorem divider_succ (d : Word) (n : Nat) :
    d + BitVec.ofNat 16 n + 1 = d + BitVec.ofNat 16 (n + 1) := by
  rw [BitVec.ofNat_add, ← BitVec.add_assoc]
  rfl

theorem closedForm_window {n : Nat} (h : t.Window n) (hlater : n ≠ 0) :
    t.closedForm n =
      { t with
        divider := t.divider + BitVec.ofNat 16 n
        tima := 0
        reloadDelay := some (4 - t.phase n)
        reloadedThisCycle := false } := by
  have hphase : ¬ (t.Overflown n ∧ t.phase n = 4) := by
    rintro ⟨-, heq⟩
    have := h.2
    omega
  rw [closedForm, if_pos h, if_pos h, if_neg hlater, decide_eq_false hphase]

theorem closedForm_counting {n : Nat} (h : ¬ t.Window n) :
    t.closedForm n =
      { t with
        divider := t.divider + BitVec.ofNat 16 n
        tima := BitVec.ofNat 8 (counted t.tima.toNat t.tma.toNat (t.increments n))
        reloadDelay := none
        reloadedThisCycle :=
          if n = 0 then t.reloadedThisCycle else decide (t.Overflown n ∧ t.phase n = 4) } := by
  rw [closedForm, if_neg h, if_neg h]

/-- Nothing has been incremented yet. -/
theorem not_overflown_zero (t : Timer) : ¬ t.Overflown 0 := by
  rintro ⟨hge, -⟩
  have hlt := t.tima.isLt
  have hnone : t.increments 0 = 0 := by
    rw [increments, Nat.add_zero, Nat.sub_self]
  rw [hnone] at hge
  omega

/-- **One T-cycle of the closed form**, with the interrupt of a reload. -/
theorem tickOne_closedForm (h : Enabled t.tac) (n : Nat) :
    (tickOne (t.closedForm n)).device = t.closedForm (n + 1) ∧
      (tickOne (t.closedForm n)).requested =
        if t.Overflown n ∧ t.phase n = 3 then .of .timer else .empty := by
  have htma := t.tma.isLt
  have hperiod := sixteen_le_period t.tac
  have hedge := falls_closedForm h n
  rw [tickOne_requested]
  by_cases hwindow : t.Window n
  · -- the reload is pending, and no edge is near
    obtain ⟨hover, hphase⟩ := hwindow
    have hlater : n ≠ 0 := by
      rintro rfl
      exact not_overflown_zero t hover
    have hnone : ¬ (t.closedForm n).beforeEdge.Falls := fun hfalls => by
      have := hedge.mp hfalls
      omega
    obtain ⟨-, hnext, hsame⟩ : t.phase n + 1 < period t.tac ∧ t.phase (n + 1) = t.phase n + 1 ∧
        t.increments (n + 1) = t.increments n := by
      rcases increments_succ t n with ⟨hlast, -⟩ | hin
      · omega
      · exact hin
    have hover' : t.Overflown (n + 1) := by
      rw [Overflown, hsame]
      exact hover
    rw [tickOne_of_not_falls hnone, beforeEdge, closedForm_window ⟨hover, hphase⟩ hlater]
    by_cases hthree : t.phase n = 3
    · have hout : ¬ t.Window (n + 1) := by
        rintro ⟨-, hlt⟩
        omega
      have hreload : counted t.tima.toNat t.tma.toNat (t.increments (n + 1)) = t.tma.toNat :=
        counted_of_isOverflow hover'
      rw [if_pos ⟨hover, hthree⟩, closedForm_counting hout, hreload, hthree, if_neg n.succ_ne_zero,
        decide_eq_true ⟨hover', by omega⟩, ← divider_succ]
      refine ⟨?_, rfl⟩
      simp [reload]
    · have hin : t.Window (n + 1) := ⟨hover', by omega⟩
      rw [if_neg (fun hboth => hthree hboth.2), closedForm_window hin n.succ_ne_zero, hnext,
        ← divider_succ]
      obtain ⟨rest, hrest⟩ : ∃ rest, 4 - t.phase n = rest + 2 := ⟨2 - t.phase n, by omega⟩
      have hafter : 4 - (t.phase n + 1) = rest + 1 := by omega
      rw [hrest, hafter]
      exact ⟨rfl, rfl⟩
  · have hquiet : ¬ (t.Overflown n ∧ t.phase n = 3) := by
      rintro ⟨hover, hthree⟩
      exact hwindow ⟨hover, by omega⟩
    have hidle : (t.closedForm n).beforeEdge =
        { t with
          divider := t.divider + BitVec.ofNat 16 n
          tima := BitVec.ofNat 8 (counted t.tima.toNat t.tma.toNat (t.increments n))
          reloadDelay := none
          reloadedThisCycle := false } := by
      rw [beforeEdge, closedForm_counting hwindow]
      rfl
    have hsilent : (reload { t.closedForm n with reloadedThisCycle := false }).requested =
        .empty := by
      rw [closedForm_counting hwindow]
      rfl
    have hdivider : (t.closedForm n).divider = t.divider + BitVec.ofNat 16 n := rfl
    refine ⟨?_, by rw [hsilent, if_neg hquiet]⟩
    rcases increments_succ t n with ⟨hlast, hzero, hone⟩ | ⟨hin, hnext, hsame⟩
    · -- the input falls: TIMA is incremented
      rw [tickOne_of_falls (hedge.mpr hlast), hidle, hdivider, divider_succ]
      rcases @counted_succ t.tima.toNat t.tma.toNat htma (t.increments n) with
        ⟨hfull, hover⟩ | ⟨hroom, hnot, hcount⟩
      · rw [← hone] at hover
        have hin : t.Window (n + 1) := ⟨hover, by omega⟩
        rw [hfull, closedForm_window hin n.succ_ne_zero, hzero]
        rfl
      · rw [← hone] at hnot hcount
        have hout : ¬ t.Window (n + 1) := fun hin => hnot hin.1
        have hbelow :
            BitVec.ofNat 8 (counted t.tima.toNat t.tma.toNat (t.increments n)) ≠ 0xff := by
          intro heq
          have hnat := congrArg BitVec.toNat heq
          rw [BitVec.toNat_ofNat, Nat.mod_eq_of_lt (by omega)] at hnat
          have : (0xff : Byte).toNat = 255 := rfl
          omega
        have hsucc : ∀ m, BitVec.ofNat 8 (m + 1) = BitVec.ofNat 8 m + 1 :=
          fun m => BitVec.ofNat_add m 1
        rw [closedForm_counting hout, hcount, hsucc, if_neg n.succ_ne_zero,
          decide_eq_false (fun hboth => hnot hboth.1), incrementTima, if_neg (by simp),
          if_neg hbelow]
    · -- no edge: only the divider advances
      have hnone : ¬ (t.closedForm n).beforeEdge.Falls := fun hfalls => by
        have := hedge.mp hfalls
        omega
      have hover : t.Overflown (n + 1) ↔ t.Overflown n := by
        rw [Overflown, Overflown, hsame]
      have hout : ¬ t.Window (n + 1) := by
        rintro ⟨hlate, hlt⟩
        exact hwindow ⟨hover.mp hlate, by omega⟩
      have hlast : ¬ (t.Overflown (n + 1) ∧ t.phase (n + 1) = 4) := by
        rintro ⟨hlate, hfour⟩
        exact hwindow ⟨hover.mp hlate, by omega⟩
      rw [tickOne_of_not_falls hnone, hidle, hdivider, divider_succ, closedForm_counting hout,
        hsame, if_neg n.succ_ne_zero, decide_eq_false hlast]

theorem closedForm_zero (h : t.reloadDelay = none) : t.closedForm 0 = t := by
  have hnone : t.increments 0 = 0 := by
    rw [increments, Nat.add_zero, Nat.sub_self]
  have hout : ¬ t.Window 0 := fun hin => not_overflown_zero t hin.1
  have hlt := t.tima.isLt
  have hcount : counted t.tima.toNat t.tma.toNat 0 = t.tima.toNat := by
    rw [counted, Nat.add_zero, if_pos hlt]
  rw [closedForm_counting hout, hnone, hcount, if_pos rfl, BitVec.ofNat_toNat, BitVec.setWidth_eq,
    ← h]
  have hzero : t.divider + BitVec.ofNat 16 0 = t.divider := BitVec.add_zero _
  rw [hzero]

/-- **The loop of `tick` computes the closed form.** -/
theorem after_eq (henabled : Enabled t.tac) (hidle : t.reloadDelay = none) (n : Nat) :
    t.after n = t.closedForm n := by
  induction n with
  | zero => exact (closedForm_zero hidle).symm
  | succ n ih =>
    rw [after, tick_succ, ← after, ih]
    exact (tickOne_closedForm henabled n).1

/-! ## Overflows and reloads -/

section Overflow
variable (henabled : Enabled t.tac) (hidle : t.reloadDelay = none)
include henabled hidle

/-- An edge never finds a reload pending. -/
theorem falls_after_iff (n : Nat) :
    (t.after n).beforeEdge.Falls ↔ t.phase n + 1 = period t.tac := by
  rw [after_eq henabled hidle]
  exact falls_closedForm henabled n

theorem increments_after_iff (n : Nat) :
    (t.after n).Increments ↔ t.phase n + 1 = period t.tac := by
  rw [Increments, falls_after_iff henabled hidle]
  refine ⟨And.left, fun hlast => ⟨hlast, ?_⟩⟩
  have hperiod := sixteen_le_period t.tac
  have hout : ¬ t.Window n := by
    rintro ⟨-, hlt⟩
    omega
  rw [after_eq henabled hidle, beforeEdge, closedForm_counting hout]
  rfl

theorem overflows_after_iff (n : Nat) :
    (t.after n).Overflows ↔ t.phase n + 1 = period t.tac ∧ t.Overflown (n + 1) := by
  rw [Overflows, increments_after_iff henabled hidle]
  refine and_congr_right fun hlast => ?_
  have htma := t.tma.isLt
  have hperiod := sixteen_le_period t.tac
  have hout : ¬ t.Window n := by
    rintro ⟨-, hlt⟩
    omega
  have htima : (t.after n).beforeEdge.tima =
      BitVec.ofNat 8 (counted t.tima.toNat t.tma.toNat (t.increments n)) := by
    rw [after_eq henabled hidle, beforeEdge, closedForm_counting hout]
    rfl
  have hone : t.increments (n + 1) = t.increments n + 1 := by
    rcases increments_succ t n with ⟨-, -, hone⟩ | ⟨hin, -⟩
    · exact hone
    · omega
  have hlt := @counted_lt t.tima.toNat t.tma.toNat htma (t.increments n)
  have hfull : BitVec.ofNat 8 (counted t.tima.toNat t.tma.toNat (t.increments n)) = 0xff ↔
      counted t.tima.toNat t.tma.toNat (t.increments n) = 255 := by
    rw [← BitVec.toNat_inj, BitVec.toNat_ofNat, Nat.mod_eq_of_lt (by omega)]
    rfl
  rw [htima, hfull, Overflown, hone]
  rcases @counted_succ t.tima.toNat t.tma.toNat htma (t.increments n) with
    ⟨hfull, hover⟩ | ⟨hroom, hnot, -⟩
  · exact iff_of_true hfull hover
  · exact iff_of_false (by omega) hnot

/-- The four T-cycles after an overflow. -/
theorem window_after_overflow {n i : Nat} (h : (t.after n).Overflows) (hi : i < 5) :
    t.phase (n + 1 + i) = i ∧ t.Overflown (n + 1 + i) := by
  obtain ⟨hlast, hover⟩ := (overflows_after_iff henabled hidle n).mp h
  have hperiod := sixteen_le_period t.tac
  induction i with
  | zero =>
    refine ⟨?_, hover⟩
    rcases increments_succ t n with ⟨-, hzero, -⟩ | ⟨hin, -⟩
    · exact hzero
    · omega
  | succ i ih =>
    obtain ⟨hphase, hlate⟩ := ih (by omega)
    rcases increments_succ t (n + 1 + i) with ⟨hend, -⟩ | ⟨-, hnext, hsame⟩
    · omega
    · refine ⟨by rw [← Nat.add_assoc, hnext, hphase], ?_⟩
      rw [Overflown, ← Nat.add_assoc, hsame]
      exact hlate

/-- The overflow that was the last increment. -/
theorem overflow_before {n i : Nat} (hover : t.Overflown n) (hphase : t.phase n = i) :
    i + 1 ≤ n ∧ (t.after (n - (i + 1))).Overflows := by
  induction i generalizing n with
  | zero =>
    cases n with
    | zero => exact absurd hover (not_overflown_zero t)
    | succ n =>
      rcases increments_succ t n with ⟨hlast, -, -⟩ | ⟨-, hnext, -⟩
      · exact ⟨by omega, (overflows_after_iff henabled hidle n).mpr ⟨hlast, hover⟩⟩
      · omega
  | succ i ih =>
    cases n with
    | zero => exact absurd hover (not_overflown_zero t)
    | succ n =>
      rcases increments_succ t n with ⟨-, hzero, -⟩ | ⟨-, hnext, hsame⟩
      · omega
      · rw [Overflown, hsame] at hover
        obtain ⟨hle, hthen⟩ := ih hover (by omega)
        rw [Nat.add_sub_add_right]
        exact ⟨by omega, hthen⟩

/-- **The reload of an overflow requests the interrupt**, and nothing else does. -/
theorem requested_after (n : Nat) :
    (tickOne (t.after n)).requested =
      if 4 ≤ n ∧ (t.after (n - 4)).Overflows then .of .timer else .empty := by
  rw [after_eq henabled hidle n, (tickOne_closedForm henabled n).2]
  refine if_congr ⟨?_, ?_⟩ rfl rfl
  · rintro ⟨hover, hthree⟩
    exact overflow_before henabled hidle hover hthree
  · rintro ⟨hle, hthen⟩
    have hwindow := window_after_overflow henabled hidle hthen (by omega : 3 < 5)
    rw [(by omega : n - 4 + 1 + 3 = n)] at hwindow
    exact ⟨hwindow.2, hwindow.1⟩

/-- Overflows are as far apart as the values from the modulo up. -/
theorem overflows_apart {n : Nat} (h : (t.after n).Overflows) :
    (t.after (n + (256 - t.tma.toNat) * period t.tac)).Overflows ∧
      ∀ i, 0 < i → i < (256 - t.tma.toNat) * period t.tac → ¬ (t.after (n + i)).Overflows := by
  have htma := t.tma.isLt
  have hpos : 0 < period t.tac := Nat.lt_of_lt_of_le (by decide) (sixteen_le_period t.tac)
  obtain ⟨hlast, hge, hmod⟩ := (overflows_after_iff henabled hidle n).mp h
  -- a whole number of periods later the same number of increments have been added
  have hshift : ∀ j, t.phase (n + j * period t.tac) = t.phase n ∧
      t.increments (n + j * period t.tac + 1) = t.increments (n + 1) + j := by
    intro j
    have hle : t.divider.toNat / period t.tac ≤ (t.divider.toNat + (n + 1)) / period t.tac :=
      Nat.div_le_div_right (Nat.le_add_right _ _)
    unfold phase increments
    rw [← Nat.add_assoc, Nat.add_mul_mod_self_right,
      (by omega : t.divider.toNat + (n + j * period t.tac + 1) =
        t.divider.toNat + (n + 1) + j * period t.tac), Nat.add_mul_div_right _ _ hpos]
    exact ⟨rfl, by omega⟩
  have hlater : ∀ j, t.Overflown (n + j * period t.tac + 1) ↔ j % (256 - t.tma.toNat) = 0 := by
    intro j
    rw [Overflown, IsOverflow, (hshift j).2,
      (by omega : t.tima.toNat + (t.increments (n + 1) + j) - 256 =
        (t.tima.toNat + t.increments (n + 1) - 256) + j), Nat.add_mod, hmod, Nat.zero_add,
      Nat.mod_mod]
    exact and_iff_right (by omega)
  constructor
  · rw [overflows_after_iff henabled hidle, hlater, (hshift _).1]
    exact ⟨hlast, Nat.mod_self _⟩
  · intro i hi hlt hthen
    obtain ⟨hlast', hover⟩ := (overflows_after_iff henabled hidle (n + i)).mp hthen
    have hsame : (t.divider.toNat + n + i) % period t.tac =
        (t.divider.toNat + n) % period t.tac := by
      unfold phase at hlast hlast'
      rw [Nat.add_assoc]
      omega
    have hdvd : period t.tac ∣ i := by
      have hzero := Nat.sub_mod_eq_zero_of_mod_eq hsame
      rw [Nat.add_sub_cancel_left] at hzero
      exact Nat.dvd_of_mod_eq_zero hzero
    obtain ⟨j, rfl⟩ := hdvd
    rw [Nat.mul_comm] at hi hlt hover
    have hj : j < 256 - t.tma.toNat := Nat.lt_of_mul_lt_mul_right hlt
    rw [hlater, Nat.mod_eq_of_lt hj] at hover
    rw [hover, Nat.zero_mul] at hi
    omega

end Overflow

/-! ## Ticks in portions -/

/-- The calls of `tick` with the given counts, one after the other. -/
def tickAll (t : Timer) (portions : List Nat) : Requesting Timer :=
  portions.foldl (fun r n => r.andThen fun t => t.tick n) (.silent t)

theorem tick_add (t : Timer) (n m : Nat) :
    t.tick (n + m) = (t.tick n).andThen fun t => t.tick m := by
  induction m with
  | zero =>
    show t.tick n = ⟨_, (t.tick n).requested.union .empty⟩
    rw [InterruptMask.union_empty]
    rfl
  | succ m ih =>
    show (t.tick (n + m)).andThen tickOne = _
    rw [ih]
    simp only [Requesting.andThen, InterruptMask.union_assoc]
    rfl

/-- **The portions do not matter.** -/
theorem tickAll_eq (t : Timer) (portions : List Nat) :
    t.tickAll portions = t.tick portions.sum := by
  suffices hfrom : ∀ n, portions.foldl (fun r m => r.andThen fun t => t.tick m) (t.tick n) =
      t.tick (n + portions.sum) by
    have hall := hfrom 0
    rwa [Nat.zero_add] at hall
  induction portions with
  | nil => intro n; rfl
  | cons m portions ih =>
    intro n
    rw [List.foldl_cons, ← tick_add, ih, List.sum_cons, Nat.add_assoc]

theorem after_add (t : Timer) (n m : Nat) : t.after (n + m) = ((t.after n).tick m).device := by
  rw [after, tick_add]
  rfl

/-- The increments in `n` T-cycles, counted. -/
theorem count_increments (henabled : Enabled t.tac) (hidle : t.reloadDelay = none) (n : Nat) :
    (List.range n).countP (fun i => (t.after i).Increments) = t.increments n := by
  induction n with
  | zero =>
    rw [increments, Nat.add_zero, Nat.sub_self]
    rfl
  | succ n ih =>
    rw [List.range_succ, List.countP_append, ih, List.countP_singleton]
    simp only [decide_eq_true_eq, increments_after_iff henabled hidle]
    rcases increments_succ t n with ⟨hlast, -, hone⟩ | ⟨hin, -, hsame⟩
    · rw [if_pos hlast, hone]
    · rw [if_neg (by omega), hsame, Nat.add_zero]

/-- The interrupts of one call of `tick`. -/
theorem requested_tick (henabled : Enabled t.tac) (hidle : t.reloadDelay = none) (n m : Nat) :
    ((t.after n).tick m).requested =
      if ∃ i < m, 4 ≤ n + i ∧ (t.after (n + i - 4)).Overflows then .of .timer else .empty := by
  induction m with
  | zero =>
    rw [if_neg (by rintro ⟨i, hi, -⟩; omega)]
    rfl
  | succ m ih =>
    have hlast := requested_after henabled hidle (n + m)
    have hone : ((t.after n).tick (m + 1)).requested =
        ((t.after n).tick m).requested.union (tickOne (t.after (n + m))).requested := by
      rw [after_add]
      rfl
    rw [hone, ih, hlast]
    by_cases hnow : 4 ≤ n + m ∧ (t.after (n + m - 4)).Overflows
    · have hsome : ∃ i < m + 1, 4 ≤ n + i ∧ (t.after (n + i - 4)).Overflows :=
        ⟨m, by omega, hnow⟩
      rw [if_pos hnow, if_pos hsome]
      split <;> rfl
    · rw [if_neg hnow, InterruptMask.union_empty]
      refine if_congr ⟨?_, ?_⟩ rfl rfl
      · rintro ⟨i, hi, hthen⟩
        exact ⟨i, by omega, hthen⟩
      · rintro ⟨i, hi, hthen⟩
        rcases Nat.lt_succ_iff_lt_or_eq.mp hi with hlt | rfl
        · exact ⟨i, hlt, hthen⟩
        · exact absurd hthen hnow

/-- **The timer is its closed form.** -/
structure Specified (t : Timer) : Prop where
  /-- Any portions of ticks come to the same, requests included. -/
  portions : ∀ ticks : List Nat, t.tickAll ticks = t.tick ticks.sum
  /-- The state after `n` T-cycles; the divider wraps around, the counting does not. -/
  state : ∀ n, t.after n = t.closedForm n
  /-- TIMA is incremented in the T-cycle in which the divider reaches a multiple of the
  period. -/
  increments_at : ∀ n, (t.after n).Increments ↔ (t.divider.toNat + (n + 1)) % period t.tac = 0
  /-- No edge finds a reload pending. -/
  none_lost : ∀ n, (t.after n).beforeEdge.Falls → (t.after n).Increments
  count : ∀ n, (List.range n).countP (fun i => (t.after i).Increments) =
    (t.divider.toNat + n) / period t.tac - t.divider.toNat / period t.tac
  /-- After an increment from 0xFF, TIMA reads 0 for four T-cycles and then holds TMA. -/
  reads_zero : ∀ n, (t.after n).Overflows →
    (∀ i < 4, (t.after (n + 1 + i)).tima = 0 ∧ (t.after (n + 1 + i)).reloadDelay = some (4 - i)) ∧
      (t.after (n + 1 + 4)).tima = t.tma ∧ (t.after (n + 1 + 4)).reloadDelay = none
  /-- A T-cycle requests the interrupt when it ends the reload of an overflow. -/
  requests : ∀ n, (tickOne (t.after n)).requested =
    if 4 ≤ n ∧ (t.after (n - 4)).Overflows then .of .timer else .empty
  /-- A call of `tick` requests it when one of its T-cycles does. -/
  call_requests : ∀ n m, ((t.after n).tick m).requested =
    if ∃ i < m, 4 ≤ n + i ∧ (t.after (n + i - 4)).Overflows then .of .timer else .empty
  /-- The next overflow is `(256 - TMA)` periods later. -/
  apart : ∀ n, (t.after n).Overflows →
    (t.after (n + (256 - t.tma.toNat) * period t.tac)).Overflows ∧
      ∀ i, 0 < i → i < (256 - t.tma.toNat) * period t.tac → ¬ (t.after (n + i)).Overflows

/-- **The timer in closed form**: with the counter enabled and no reload pending, for any
number of T-cycles in any portions. -/
theorem timer_closed_form (henabled : Enabled t.tac) (hidle : t.reloadDelay = none) :
    t.Specified where
  portions := tickAll_eq t
  state := after_eq henabled hidle
  increments_at n := by
    rw [increments_after_iff henabled hidle]
    show _ ↔ t.phase (n + 1) = 0
    rcases increments_succ t n with ⟨hlast, hzero, -⟩ | ⟨hin, hnext, -⟩
    · exact iff_of_true hlast hzero
    · exact iff_of_false (by omega) (by omega)
  none_lost n hfalls := by
    rw [increments_after_iff henabled hidle]
    exact (falls_after_iff henabled hidle n).mp hfalls
  count := count_increments henabled hidle
  reads_zero n hover := by
    constructor
    · intro i hi
      obtain ⟨hphase, hlate⟩ := window_after_overflow henabled hidle hover (by omega : i < 5)
      have hin : t.Window (n + 1 + i) := ⟨hlate, by omega⟩
      rw [after_eq henabled hidle, closedForm_window hin (by omega), hphase]
      exact ⟨rfl, rfl⟩
    · obtain ⟨hphase, hlate⟩ := window_after_overflow henabled hidle hover (by omega : 4 < 5)
      have hout : ¬ t.Window (n + 1 + 4) := by
        rintro ⟨-, hlt⟩
        omega
      rw [after_eq henabled hidle, closedForm_counting hout, counted_of_isOverflow hlate]
      exact ⟨BitVec.ofNat_toNat .. |>.trans (BitVec.setWidth_eq _), rfl⟩
  requests := requested_after henabled hidle
  call_requests := requested_tick henabled hidle
  apart _ := overflows_apart henabled hidle

/-- A counter at 0xFF with the shortest period. -/
theorem timer_closed_form_full :
    ({ postBoot with tima := 0xff, tma := 0xa5, tac := 0x05 } : Timer).Specified :=
  timer_closed_form (by decide) rfl

end Timer

end Pockiva
