import Pockiva.Timer.ClosedForm

/-! # The timer in M-cycles

The bus ticks the timer four T-cycles at a time, and a write to it comes before the ticks
of its M-cycle.  At the boundary of an M-cycle (`Timer.Whole`) the divider is a multiple
of four and a pending reload has all its T-cycles before it, so that the reload ends the
M-cycle.  No edge finds a reload pending (`Timer.Starting.none_lost`), and so every
overflow becomes one reload unless a write calls it off (`Timer.Starting.conserved`,
`Timer.Whole.write_conserved`).
-/
namespace Pockiva

namespace Timer
variable {t : Timer}

/-! ## The T-cycles of an M-cycle -/

theorem not_falls_of_mod (h : (t.divider.toNat + 1) % 4 ≠ 0) : ¬ t.Falls := by
  intro hfalls
  by_cases hon : Enabled t.tac
  · have hperiod := (falls_iff hon).mp hfalls
    have hfour : 4 ∣ period t.tac := by
      unfold period
      split <;> decide
    exact h (Nat.mod_eq_zero_of_dvd (hfour.trans (Nat.dvd_of_mod_eq_zero hperiod)))
  · exact not_falls_of_off hon hfalls

/-- The divider at a T-cycle of an M-cycle that began at a multiple of four. -/
theorem divider_add {d : Word} (h : d.toNat % 4 = 0) {i : Nat} (hi : i < 4) :
    (d + BitVec.ofNat 16 i).toNat = d.toNat + i := by
  have hlt := d.isLt
  rw [BitVec.toNat_add, BitVec.toNat_ofNat, Nat.mod_eq_of_lt (by omega : i < 2 ^ 16),
    Nat.mod_eq_of_lt (by omega)]

theorem tickOne_eq (t : Timer) :
    tickOne t = ⟨t.beforeEdge.advanceDivider,
      (reload { t with reloadedThisCycle := false }).requested⟩ := by
  rw [tickOne, Requesting.andThen, Requesting.silent_requested, InterruptMask.union_empty]
  rfl

theorem advanceDivider_of_not_falls (h : ¬ t.Falls) :
    t.advanceDivider = { t with divider := t.divider + 1 } := by
  have hedge : (t.timerInput && !({ t with divider := t.divider + 1 } : Timer).timerInput) =
      false := by
    rw [Bool.and_eq_false_iff, Bool.not_eq_false']
    by_contra hneither
    obtain ⟨hold, hnew⟩ := not_or.mp hneither
    exact h ⟨eq_true_of_ne_false hold, eq_false_of_ne_true hnew⟩
  rw [advanceDivider, afterEdge, hedge]
  rfl

/-- What the delay of a reload can be at the boundary of an M-cycle. -/
def DelayWhole (t : Timer) : Prop := t.reloadDelay = none ∨ t.reloadDelay = some 4

/-- **The first three T-cycles of an M-cycle** only count: no edge and no reload. -/
theorem tick_first (hfour : t.divider.toNat % 4 = 0) (hdelay : t.DelayWhole) {i : Nat}
    (hi : i < 4) :
    t.tick i = .silent
      { t with
        divider := t.divider + BitVec.ofNat 16 i
        reloadDelay := t.reloadDelay.map fun _ => 4 - i
        reloadedThisCycle := if i = 0 then t.reloadedThisCycle else false } := by
  induction i with
  | zero =>
    have hsame : (t.reloadDelay.map fun _ => 4) = t.reloadDelay := by
      rcases hdelay with hnone | hsome
      · rw [hnone]
        rfl
      · rw [hsome]
        rfl
    have hzero : t.divider + BitVec.ofNat 16 0 = t.divider := BitVec.add_zero _
    rw [if_pos rfl, hzero, Nat.sub_zero, hsame]
    rfl
  | succ i ih =>
    have hadd := divider_add hfour (by omega : i < 4)
    have hone : t.tick (i + 1) = (t.tick i).andThen tickOne := rfl
    have hedge : ∀ (delay : Option Nat) (reloaded : Bool), ¬ ({ t with
        divider := t.divider + BitVec.ofNat 16 i
        reloadDelay := delay
        reloadedThisCycle := reloaded } : Timer).Falls := by
      intro delay reloaded
      refine not_falls_of_mod ?_
      rw [hadd]
      omega
    rw [hone, ih (by omega), Requesting.andThen, tickOne_eq, Requesting.silent_requested,
      InterruptMask.empty_union, if_neg i.succ_ne_zero, ← divider_succ]
    rcases hdelay with hnone | hsome
    · rw [hnone]
      exact congrArg (Requesting.mk · .empty) (advanceDivider_of_not_falls (hedge none false))
    · obtain ⟨rest, hrest⟩ : ∃ rest, 4 - i = rest + 2 := ⟨2 - i, by omega⟩
      have hless : 4 - (i + 1) = rest + 1 := by omega
      rw [hsome, hrest, hless]
      exact congrArg (Requesting.mk · .empty)
        (advanceDivider_of_not_falls (hedge (some (rest + 1)) false))

/-- **An M-cycle without a pending reload**: one edge at most, at its end. -/
theorem tick_idle (hfour : t.divider.toNat % 4 = 0) (hnone : t.reloadDelay = none) :
    t.tick 4 = .silent (advanceDivider
      { t with divider := t.divider + 3, reloadedThisCycle := false }) := by
  have hone : t.tick 4 = (t.tick 3).andThen tickOne := rfl
  rw [hone, tick_first hfour (.inl hnone) (by decide), Requesting.andThen, tickOne_eq,
    Requesting.silent_requested, InterruptMask.empty_union, hnone]
  rfl

/-- **An M-cycle in which the reload is pending**: it ends with the reload. -/
theorem tick_pending (hfour : t.divider.toNat % 4 = 0) (hsome : t.reloadDelay = some 4)
    (hquiet : ¬ ({ t with divider := t.divider + 3 } : Timer).Falls) :
    t.tick 4 =
      ⟨{ t with
          divider := t.divider + 4
          tima := t.tma
          reloadDelay := none
          reloadedThisCycle := true }, .of .timer⟩ := by
  have hone : t.tick 4 = (t.tick 3).andThen tickOne := rfl
  have hsum : t.divider + 3 + 1 = t.divider + 4 := by
    rw [BitVec.add_assoc]
    rfl
  rw [hone, tick_first hfour (.inr hsome) (by decide), Requesting.andThen, tickOne_eq,
    Requesting.silent_requested, InterruptMask.empty_union, hsome, ← hsum]
  exact congrArg (Requesting.mk · (.of .timer)) (advanceDivider_of_not_falls
    (t := { t with
      divider := t.divider + 3
      tima := t.tma
      reloadDelay := none
      reloadedThisCycle := true }) hquiet)

/-! ## What an edge changes -/

section Edge
variable {old : Timer}

@[simp] theorem incrementTima_tac (t : Timer) : t.incrementTima.tac = t.tac := by
  unfold incrementTima
  split
  · rfl
  · split <;> rfl

@[simp] theorem incrementTima_reloadedThisCycle (t : Timer) :
    t.incrementTima.reloadedThisCycle = t.reloadedThisCycle := by
  unfold incrementTima
  split
  · rfl
  · split <;> rfl

@[simp] theorem afterEdge_tac (old t : Timer) : (afterEdge old t).tac = t.tac := by
  unfold afterEdge
  split
  · exact incrementTima_tac t
  · rfl

@[simp] theorem afterEdge_reloadedThisCycle (old t : Timer) :
    (afterEdge old t).reloadedThisCycle = t.reloadedThisCycle := by
  unfold afterEdge
  split
  · exact incrementTima_reloadedThisCycle t
  · rfl

theorem timerInput_congr {u : Timer} (htac : u.tac = t.tac) (hdivider : u.divider = t.divider) :
    u.timerInput = t.timerInput := by
  rw [timerInput, timerInput, htac, hdivider]

@[simp] theorem afterEdge_timerInput (old t : Timer) :
    (afterEdge old t).timerInput = t.timerInput :=
  timerInput_congr (afterEdge_tac old t) (afterEdge_divider old t)

theorem afterEdge_of_low (h : old.timerInput = false) : afterEdge old t = t := by
  rw [afterEdge, h]
  rfl

/-- A reload that an edge starts has all its T-cycles before it. -/
theorem afterEdge_reloadDelay (old t : Timer) :
    (afterEdge old t).reloadDelay = t.reloadDelay ∨
      ((afterEdge old t).reloadDelay = some 4 ∧ t.reloadDelay = none ∧
        old.timerInput = true ∧ t.timerInput = false) := by
  by_cases hfalls : (old.timerInput && !t.timerInput) = true
  · obtain ⟨hold, hnew⟩ := Bool.and_eq_true_iff.mp hfalls
    rw [Bool.not_eq_true'] at hnew
    rw [afterEdge, if_pos hfalls, incrementTima]
    cases hdelay : t.reloadDelay with
    | some delay => exact .inl (by rw [if_pos Option.isSome_some, hdelay])
    | none =>
      rw [if_neg (by decide)]
      split
      · exact .inr ⟨rfl, rfl, hold, hnew⟩
      · exact .inl rfl
  · rw [afterEdge, if_neg hfalls]
    exact .inl rfl

end Edge

/-! ## The boundary of an M-cycle -/

/-- The timer at the boundary of an M-cycle. -/
structure Whole (t : Timer) : Prop where
  four : t.divider.toNat % 4 = 0
  delay : t.DelayWhole
  /-- A pending reload comes from an edge that left the input low. -/
  low : t.reloadDelay = some 4 → t.timerInput = false
  sixteen : t.reloadDelay = some 4 → t.divider.toNat % 16 = 0
  /-- The M-cycle of a pending reload is not the one after a reload. -/
  apart : t.reloadDelay = some 4 → t.reloadedThisCycle = false

/-- The timer when the T-cycles of an M-cycle begin, after a write to it. -/
structure Starting (t : Timer) : Prop where
  four : t.divider.toNat % 4 = 0
  delay : t.DelayWhole
  quiet : t.reloadDelay = some 4 → t.divider.toNat % 16 = 0 ∨ t.timerInput = false

theorem Whole.starting (h : t.Whole) : t.Starting :=
  ⟨h.four, h.delay, fun hsome => .inl (h.sixteen hsome)⟩

/-- The bit TAC selects does not change within an M-cycle. -/
theorem timerInput_add_three (h : t.divider.toNat % 4 = 0) :
    ({ t with divider := t.divider + 3 } : Timer).timerInput = t.timerInput := by
  by_cases hon : Enabled t.tac
  · have hadd : (t.divider + 3).toNat = t.divider.toNat + 3 := divider_add h (by decide : 3 < 4)
    have hinput : ({ t with divider := t.divider + 3 } : Timer).timerInput =
        decide ((t.divider + 3).toNat / 2 ^ selectedBit t.tac % 2 = 1) := timerInput_eq hon
    rw [hinput, timerInput_eq hon, hadd]
    rcases selectedBit_mem t.tac with hbit | hbit | hbit | hbit
    all_goals
      rw [hbit, decide_eq_decide]
      omega
  · have hoff := not_not.mp hon
    rw [timerInput, timerInput, if_pos hoff, if_pos hoff]

/-- No edge ends the M-cycle of a pending reload. -/
theorem Starting.not_falls (h : t.Starting) (hsome : t.reloadDelay = some 4) :
    ¬ ({ t with divider := t.divider + 3 } : Timer).Falls := by
  intro hfalls
  rcases h.quiet hsome with hsixteen | hlow
  · by_cases hon : Enabled t.tac
    · have hadd : (t.divider + 3).toNat = t.divider.toNat + 3 :=
        divider_add h.four (by decide : 3 < 4)
      have hperiod : (t.divider.toNat + 3 + 1) % period t.tac = 0 := by
        rw [← hadd]
        exact (falls_iff (t := { t with divider := t.divider + 3 }) hon).mp hfalls
      have hdvd : 16 ∣ period t.tac := by
        unfold period
        split <;> decide
      have hzero := Nat.mod_eq_zero_of_dvd (hdvd.trans (Nat.dvd_of_mod_eq_zero hperiod))
      omega
    · exact not_falls_of_off (t := { t with divider := t.divider + 3 }) hon hfalls
  · have hinput := hfalls.1
    rw [timerInput_add_three h.four, hlow] at hinput
    cases hinput

/-- **What an M-cycle does to the timer.** -/
theorem Starting.tick (h : t.Starting) :
    (t.tick 4).device.Whole ∧
      (t.tick 4).requested = (if t.reloadDelay = some 4 then .of .timer else .empty) ∧
      (t.tick 4).device.reloadedThisCycle = decide (t.reloadDelay = some 4) := by
  have hlt := t.divider.isLt
  have hfour : (t.divider + 4).toNat % 4 = 0 := by
    have hadd : (t.divider + 4).toNat = (t.divider.toNat + 4) % 65536 := BitVec.toNat_add ..
    have := h.four
    omega
  rcases h.delay with hnone | hsome
  · have hne : t.reloadDelay ≠ some 4 := by
      rw [hnone]
      exact nofun
    have hsum : t.divider + 3 + 1 = t.divider + 4 := by
      rw [BitVec.add_assoc]
      rfl
    have hadd : (t.divider + 3).toNat = t.divider.toNat + 3 :=
      divider_add h.four (by decide : 3 < 4)
    rw [tick_idle h.four hnone, if_neg hne, decide_eq_false hne, Requesting.silent_device]
    generalize hu : ({ t with divider := t.divider + 3, reloadedThisCycle := false } : Timer) = u
    have hdivider : u.divider = t.divider + 3 := by rw [← hu]
    have hdelay : u.reloadDelay = none := by rw [← hu, ← hnone]
    have hreloaded : u.reloadedThisCycle = false := by rw [← hu]
    rw [advanceDivider]
    refine ⟨⟨?_, ?_, ?_, ?_, ?_⟩, rfl, by rw [afterEdge_reloadedThisCycle, hreloaded]⟩
    · rw [afterEdge_divider, hdivider, hsum]
      exact hfour
    · rcases afterEdge_reloadDelay u { u with divider := u.divider + 1 } with hsame | ⟨hsome, -⟩
      · exact .inl (hsame.trans hdelay)
      · exact .inr hsome
    · intro hsome
      rw [afterEdge_timerInput]
      rcases afterEdge_reloadDelay u { u with divider := u.divider + 1 } with hsame | hedge
      · rw [hsome, hdelay] at hsame
        cases hsame
      · exact hedge.2.2.2
    · intro hsome
      rcases afterEdge_reloadDelay u { u with divider := u.divider + 1 } with hsame | hedge
      · rw [hsome, hdelay] at hsame
        cases hsame
      · have hfalls : u.Falls := hedge.2.2
        have hon : Enabled u.tac := by
          by_contra hoff
          exact not_falls_of_off hoff hfalls
        have hdvd : 16 ∣ period u.tac := by
          unfold period
          split <;> decide
        have hperiod := (falls_iff hon).mp hfalls
        have hzero := Nat.mod_eq_zero_of_dvd (hdvd.trans (Nat.dvd_of_mod_eq_zero hperiod))
        have hnext : (u.divider + 1).toNat = (u.divider.toNat + 1) % 65536 := BitVec.toNat_add ..
        rw [afterEdge_divider, hnext]
        omega
    · intro _
      rw [afterEdge_reloadedThisCycle, hreloaded]
  · rw [tick_pending h.four hsome (h.not_falls hsome), if_pos hsome, decide_eq_true hsome]
    exact ⟨⟨hfour, .inl rfl, nofun, nofun, nofun⟩, rfl, rfl⟩

/-- The input is low when the divider is at zero. -/
theorem timerInput_zero (h : t.divider = 0) : t.timerInput = false := by
  rw [timerInput, h]
  split
  · rfl
  · exact BitVec.getLsbD_zero

/-- After the reload of an M-cycle the input is low. -/
theorem Whole.low_after_reload (h : t.Whole)
    (hreloaded : (t.tick 4).device.reloadedThisCycle = true) :
    (t.tick 4).device.timerInput = false := by
  rw [h.starting.tick.2.2, decide_eq_true_iff] at hreloaded
  have hsixteen := h.sixteen hreloaded
  have hlow := h.low hreloaded
  have hlt := t.divider.isLt
  have hadd : (t.divider + 4).toNat = t.divider.toNat + 4 := by
    have hwrap : (t.divider + 4).toNat = (t.divider.toNat + 4) % 65536 := BitVec.toNat_add ..
    omega
  rw [tick_pending h.four hreloaded (h.starting.not_falls hreloaded)]
  by_cases hon : Enabled t.tac
  · rw [timerInput_eq hon, decide_eq_false_iff_not] at hlow
    have hinput := timerInput_eq (t := { t with
      divider := t.divider + 4
      tima := t.tma
      reloadDelay := none
      reloadedThisCycle := true }) hon
    rw [hinput, decide_eq_false_iff_not, hadd]
    rcases selectedBit_mem t.tac with hbit | hbit | hbit | hbit
    all_goals
      rw [hbit] at hlow ⊢
      omega
  · rw [timerInput, if_pos (not_not.mp hon)]

/-! ## Writes -/

/-- The write calls `increment_tima`: it lets the input fall. -/
def FallsOnWrite (t : Timer) (address : Word) (value : Byte) : Prop :=
  (address = 0xff04 ∧ t.timerInput = true ∧
      ({ t with divider := 0 } : Timer).timerInput = false) ∨
    (address = 0xff07 ∧ t.timerInput = true ∧
      ({ t with tac := value &&& 0x07 } : Timer).timerInput = false)

instance (t : Timer) (address : Word) (value : Byte) : Decidable (t.FallsOnWrite address value) :=
  inferInstanceAs (Decidable ((_ ∧ _ ∧ _) ∨ _ ∧ _ ∧ _))

theorem write_tima (t : Timer) (value : Byte) :
    (t.write 0xff05 value).device =
      if t.reloadedThisCycle = false then { t with tima := value, reloadDelay := none } else t := by
  unfold Timer.write
  dsimp only [Requesting.silent_device]
  rw [if_neg (by decide)]
  by_cases h : t.reloadedThisCycle = false
  · rw [if_pos ⟨rfl, h⟩, if_pos h]
  · rw [if_neg (fun hboth => h hboth.2), if_neg (by decide), if_neg (by decide), if_neg h]

theorem write_tma (t : Timer) (value : Byte) :
    (t.write 0xff06 value).device =
      { t with tma := value, tima := if t.reloadedThisCycle then value else t.tima } := by
  unfold Timer.write
  dsimp only [Requesting.silent_device]
  rw [if_neg (by decide), if_neg (fun hboth => absurd hboth.1 (by decide)), if_pos rfl]

/-- **A write leaves the timer ready for its M-cycle.** -/
theorem Whole.write (h : t.Whole) (address : Word) (value : Byte) :
    (t.write address value).device.Starting := by
  unfold Timer.write
  dsimp only [Requesting.silent_device]
  by_cases h4 : address = 0xff04
  · rw [if_pos h4]
    have hzero : (afterEdge t { t with divider := 0 }).divider = 0 := afterEdge_divider ..
    refine ⟨by rw [hzero]; rfl, ?_, fun _ => .inl (by rw [hzero]; rfl)⟩
    rcases afterEdge_reloadDelay t { t with divider := 0 } with hsame | ⟨hsome, -⟩
    · rw [DelayWhole, hsame]
      exact h.delay
    · exact .inr hsome
  rw [if_neg h4]
  by_cases h5 : address = 0xff05 ∧ t.reloadedThisCycle = false
  · rw [if_pos h5]
    exact ⟨h.four, .inl rfl, nofun⟩
  rw [if_neg h5]
  by_cases h6 : address = 0xff06
  · rw [if_pos h6]
    exact ⟨h.four, h.delay, fun hsome => .inl (h.sixteen hsome)⟩
  rw [if_neg h6]
  by_cases h7 : address = 0xff07
  · rw [if_pos h7]
    have hsame : (afterEdge t { t with tac := value &&& 0x07 }).divider = t.divider :=
      afterEdge_divider ..
    rcases afterEdge_reloadDelay t { t with tac := value &&& 0x07 } with hdelay | hedge
    · refine ⟨by rw [hsame]; exact h.four, ?_, ?_⟩
      · rw [DelayWhole, hdelay]
        exact h.delay
      · rw [hdelay, hsame]
        exact fun hsome => .inl (h.sixteen hsome)
    · refine ⟨by rw [hsame]; exact h.four, .inr hedge.1, fun _ => .inr ?_⟩
      rw [afterEdge_timerInput]
      exact hedge.2.2.2
  · rw [if_neg h7]
    exact h.starting

/-- **A write to TIMA calls a pending reload off**: the M-cycle leaves what was written. -/
theorem Whole.cancelled (h : t.Whole) (hsome : t.reloadDelay = some 4) (value : Byte) :
    ((t.write 0xff05 value).device.tick 4).device.tima = value ∧
      ((t.write 0xff05 value).device.tick 4).device.reloadDelay = none := by
  have hquiet := h.starting.not_falls hsome
  rw [write_tima, if_pos (h.apart hsome),
    tick_idle (t := { t with tima := value, reloadDelay := none }) h.four rfl,
    Requesting.silent_device, advanceDivider_of_not_falls (t := { t with
      divider := t.divider + 3
      tima := value
      reloadDelay := none
      reloadedThisCycle := false }) hquiet]
  exact ⟨rfl, rfl⟩

/-- **STOP resets the divider after a fetch**, at the boundary of an M-cycle. -/
theorem Whole.stop (h : t.Whole)
    (hlow : t.reloadedThisCycle = true → t.timerInput = false) :
    (t.write 0xff04 0).device.Whole := by
  have hwrite : (t.write 0xff04 0).device = afterEdge t { t with divider := 0 } := rfl
  have hzero : (afterEdge t { t with divider := 0 }).divider = 0 := afterEdge_divider ..
  rw [hwrite]
  refine ⟨by rw [hzero]; rfl, ?_, fun _ => timerInput_zero hzero, fun _ => by rw [hzero]; rfl, ?_⟩
  · rcases afterEdge_reloadDelay t { t with divider := 0 } with hsame | ⟨hsome, -⟩
    · rw [DelayWhole, hsame]
      exact h.delay
    · exact .inr hsome
  · intro hsome
    rw [afterEdge_reloadedThisCycle]
    rcases afterEdge_reloadDelay t { t with divider := 0 } with hsame | ⟨-, -, hinput, -⟩
    · rw [hsame] at hsome
      exact h.apart hsome
    · by_contra hreloaded
      rw [hlow (eq_true_of_ne_false hreloaded)] at hinput
      cases hinput

theorem whole_postBoot : postBoot.Whole := by
  refine ⟨by decide, .inl rfl, nofun, nofun, nofun⟩

/-! ## Overflows, reloads and cancellations -/

/-- How often TIMA is incremented from 0xFF in the next `n` T-cycles. -/
def overflowsIn (t : Timer) (n : Nat) : Nat := (List.range n).countP fun i => (t.after i).Overflows

/-- How often the interrupt is requested in the next `n` T-cycles. -/
def requestsIn (t : Timer) (n : Nat) : Nat :=
  (List.range n).countP fun i => (tickOne (t.after i)).requested.has .timer

/-- The write increments TIMA from 0xFF. -/
def overflowsOnWrite (t : Timer) (address : Word) (value : Byte) : Nat :=
  if t.FallsOnWrite address value ∧ t.reloadDelay = none ∧ t.tima = 0xff then 1 else 0

/-- The write calls a pending reload off. -/
def cancelsOnWrite (t : Timer) (address : Word) : Nat :=
  if address = 0xff05 ∧ t.reloadedThisCycle = false ∧ t.reloadDelay.isSome = true then 1 else 0

/-- The reloads that are pending. -/
def pending (t : Timer) : Nat := if t.reloadDelay.isSome then 1 else 0

/-- The first three T-cycles of an M-cycle. -/
theorem Starting.early (h : t.Starting) {i : Nat} (hi : i < 3) :
    ¬ (t.after i).beforeEdge.Falls ∧ (tickOne (t.after i)).requested = .empty := by
  have hadd := divider_add h.four (by omega : i < 4)
  rw [after, tick_first h.four h.delay (by omega), Requesting.silent_device, tickOne_requested]
  constructor
  · refine not_falls_of_mod ?_
    rw [beforeEdge_divider]
    show ((t.divider + BitVec.ofNat 16 i).toNat + 1) % 4 ≠ 0
    have := h.four
    omega
  · rcases h.delay with hnone | hsome
    · rw [hnone]
      rfl
    · obtain ⟨rest, hrest⟩ : ∃ rest, 4 - i = rest + 2 := ⟨2 - i, by omega⟩
      rw [hsome, hrest]
      rfl

/-- The last T-cycle of an M-cycle without a reload. -/
theorem Starting.last_idle (h : t.Starting) (hnone : t.reloadDelay = none) :
    (t.after 3).beforeEdge = { t with divider := t.divider + 3, reloadedThisCycle := false } ∧
      (tickOne (t.after 3)).requested = .empty := by
  rw [after, tick_first h.four h.delay (by decide), tickOne_requested, hnone]
  exact ⟨rfl, rfl⟩

/-- The last T-cycle of an M-cycle with one. -/
theorem Starting.last_pending (h : t.Starting) (hsome : t.reloadDelay = some 4) :
    (t.after 3).beforeEdge =
        { t with
          divider := t.divider + 3
          tima := t.tma
          reloadDelay := none
          reloadedThisCycle := true } ∧
      (tickOne (t.after 3)).requested = .of .timer := by
  rw [after, tick_first h.four h.delay (by decide), tickOne_requested, hsome]
  exact ⟨rfl, rfl⟩

/-- **No edge of an M-cycle finds a reload pending.** -/
theorem Starting.none_lost (h : t.Starting) {i : Nat} (hi : i < 4)
    (hfalls : (t.after i).beforeEdge.Falls) : (t.after i).Increments := by
  refine ⟨hfalls, ?_⟩
  rcases Nat.lt_succ_iff_lt_or_eq.mp hi with hlt | rfl
  · exact absurd hfalls (h.early hlt).1
  · rcases h.delay with hnone | hsome
    · rw [(h.last_idle hnone).1, hnone]
    · rw [(h.last_pending hsome).1]

/-- The M-cycle of a pending reload does not overflow. -/
theorem Starting.not_overflows (h : t.Starting) (hsome : t.reloadDelay = some 4) :
    ¬ (t.after 3).Overflows := by
  rintro ⟨⟨hfalls, -⟩, -⟩
  rw [(h.last_pending hsome).1] at hfalls
  exact h.not_falls hsome hfalls

theorem afterEdge_pending {old : Timer} (h : t.reloadDelay = none) :
    (afterEdge old t).pending =
      if (old.timerInput = true ∧ t.timerInput = false) ∧ t.tima = 0xff then 1 else 0 := by
  by_cases hfalls : old.timerInput = true ∧ t.timerInput = false
  · have hedge : (old.timerInput && !t.timerInput) = true := by rw [hfalls.1, hfalls.2]; rfl
    rw [afterEdge, if_pos hedge, incrementTima, h, if_neg (by decide)]
    by_cases hfull : t.tima = 0xff
    · rw [if_pos hfull, if_pos ⟨hfalls, hfull⟩]
      rfl
    · rw [if_neg hfull, if_neg (fun hboth => hfull hboth.2)]
      rfl
  · have hedge : ¬ (old.timerInput && !t.timerInput) = true := by
      rw [Bool.and_eq_true, Bool.not_eq_true']
      exact hfalls
    rw [afterEdge, if_neg hedge, if_neg (fun hboth => hfalls hboth.1), pending, h]
    rfl

theorem advanceDivider_pending (h : t.reloadDelay = none) :
    t.advanceDivider.pending = if t.Falls ∧ t.tima = 0xff then 1 else 0 :=
  afterEdge_pending (t := { t with divider := t.divider + 1 }) h

theorem pending_of_none (h : t.reloadDelay = none) : t.pending = 0 := by
  rw [pending, h]
  rfl

theorem pending_of_some {n : Nat} (h : t.reloadDelay = some n) : t.pending = 1 := by
  rw [pending, h]
  rfl

/-- Only the last T-cycle of an M-cycle counts. -/
theorem Starting.counts (h : t.Starting) :
    t.overflowsIn 4 = (if (t.after 3).Overflows then 1 else 0) ∧
      t.requestsIn 4 = if (tickOne (t.after 3)).requested.has .timer then 1 else 0 := by
  have hquiet : ∀ i < 3, ¬ (t.after i).Overflows := fun i hi hover => (h.early hi).1 hover.1.1
  have hsilent : ∀ i < 3, (tickOne (t.after i)).requested.has .timer = false := by
    intro i hi
    rw [(h.early hi).2, InterruptMask.has_empty]
  have hrange : List.range 4 = [0, 1, 2, 3] := rfl
  rw [overflowsIn, requestsIn, hrange]
  simp only [List.countP_cons, List.countP_nil, decide_eq_true_eq, hquiet 0 (by decide),
    hquiet 1 (by decide), hquiet 2 (by decide), hsilent 0 (by decide), hsilent 1 (by decide),
    hsilent 2 (by decide), if_false, Bool.false_eq_true, Nat.zero_add, Nat.add_zero, and_self]

/-- **An M-cycle**: what was pending is requested, what overflows becomes pending. -/
theorem Starting.conserved (h : t.Starting) :
    (t.tick 4).device.pending + t.requestsIn 4 = t.pending + t.overflowsIn 4 := by
  obtain ⟨hover, hrequest⟩ := h.counts
  rw [hover, hrequest]
  rcases h.delay with hnone | hsome
  · obtain ⟨hbefore, hsilent⟩ := h.last_idle hnone
    have htick : (t.tick 4).device = (t.after 3).beforeEdge.advanceDivider := by
      rw [tick_idle h.four hnone, hbefore]
      rfl
    have hdelay : (t.after 3).beforeEdge.reloadDelay = none := by
      rw [hbefore, hnone]
    have hsame : (t.after 3).Overflows ↔
        (t.after 3).beforeEdge.Falls ∧ (t.after 3).beforeEdge.tima = 0xff :=
      and_congr_left fun _ => and_iff_left hdelay
    rw [htick, hsilent, InterruptMask.has_empty, pending_of_none hnone, if_congr hsame rfl rfl,
      advanceDivider_pending hdelay, if_neg Bool.false_ne_true, Nat.add_comm]
  · rw [tick_pending h.four hsome (h.not_falls hsome), (h.last_pending hsome).2,
      InterruptMask.has_of, pending_of_some hsome, if_neg (h.not_overflows hsome)]
    rfl

/-- A write that may let the input fall. -/
theorem Whole.edge_conserved (h : t.Whole) {u : Timer} (hdelay : u.reloadDelay = t.reloadDelay)
    (htima : u.tima = t.tima) :
    (afterEdge t u).pending =
      t.pending + if (t.timerInput = true ∧ u.timerInput = false) ∧ t.reloadDelay = none ∧
        t.tima = 0xff then 1 else 0 := by
  rcases h.delay with hnone | hsome
  · rw [afterEdge_pending (hdelay.trans hnone), pending_of_none hnone, htima, Nat.zero_add]
    exact if_congr (and_congr_right fun _ => (and_iff_right hnone).symm) rfl rfl
  · have hlow := h.low hsome
    have hne : ¬ ((t.timerInput = true ∧ u.timerInput = false) ∧ t.reloadDelay = none ∧
        t.tima = 0xff) := by
      rintro ⟨-, hnone, -⟩
      rw [hsome] at hnone
      cases hnone
    rw [afterEdge_of_low hlow, pending_of_some (hdelay.trans hsome), pending_of_some hsome,
      if_neg hne]

theorem DelayWhole.of_pending (h : t.DelayWhole) (hpending : 0 < t.pending) :
    t.reloadDelay = some 4 := by
  rcases h with hnone | hsome
  · rw [pending_of_none hnone] at hpending
    exact absurd hpending (Nat.lt_irrefl 0)
  · exact hsome

/-- **An overflow of the T-cycles** is pending when their M-cycle ends. -/
theorem Starting.overflow_pending (h : t.Starting) (hover : 0 < t.overflowsIn 4) :
    (t.tick 4).device.reloadDelay = some 4 := by
  obtain ⟨hcount, hrequest⟩ := h.counts
  have hconserved := h.conserved
  refine h.tick.1.delay.of_pending ?_
  rcases h.delay with hnone | hsome
  · rw [(h.last_idle hnone).2, InterruptMask.has_empty, if_neg Bool.false_ne_true] at hrequest
    omega
  · rw [hcount, if_neg (h.not_overflows hsome)] at hover
    exact absurd hover (Nat.lt_irrefl 0)

theorem overflowsOnWrite_other {address : Word} (h4 : address ≠ 0xff04) (h7 : address ≠ 0xff07)
    (value : Byte) : t.overflowsOnWrite address value = 0 := by
  refine if_neg ?_
  rintro ⟨⟨heq, -⟩ | ⟨heq, -⟩, -⟩
  · exact h4 heq
  · exact h7 heq

theorem cancelsOnWrite_other {address : Word} (h5 : address ≠ 0xff05) :
    t.cancelsOnWrite address = 0 := if_neg fun h => h5 h.1

/-- **A write**: what is pending stays pending, overflows and cancellations apart. -/
theorem Whole.write_conserved (h : t.Whole) (address : Word) (value : Byte) :
    (t.write address value).device.pending + t.cancelsOnWrite address =
      t.pending + t.overflowsOnWrite address value := by
  unfold Timer.write
  dsimp only [Requesting.silent_device]
  by_cases h4 : address = 0xff04
  · subst h4
    rw [if_pos rfl, h.edge_conserved (u := { t with divider := 0 }) rfl rfl,
      cancelsOnWrite_other (by decide), overflowsOnWrite]
    refine congrArg (t.pending + ·) (if_congr (and_congr_left fun _ => ?_) rfl rfl)
    exact ⟨fun hfalls => .inl ⟨rfl, hfalls⟩,
      fun hfalls => hfalls.elim And.right (absurd ·.1 (by decide))⟩
  rw [if_neg h4]
  by_cases h5 : address = 0xff05
  · subst h5
    rw [overflowsOnWrite_other (by decide) (by decide), cancelsOnWrite]
    by_cases hreloaded : t.reloadedThisCycle = false
    · rw [if_pos ⟨rfl, hreloaded⟩, pending_of_none rfl, Nat.zero_add, Nat.add_zero, pending]
      exact if_congr ⟨fun hboth => hboth.2.2, fun hsome => ⟨rfl, hreloaded, hsome⟩⟩ rfl rfl
    · rw [if_neg (fun hboth => hreloaded hboth.2), if_neg (by decide), if_neg (by decide),
        if_neg (fun hboth => hreloaded hboth.2.1)]
  by_cases h6 : address = 0xff06
  · subst h6
    rw [if_neg (by simp), if_pos rfl, cancelsOnWrite_other (by decide),
      overflowsOnWrite_other (by decide) (by decide)]
    rfl
  rw [if_neg (fun hboth => h5 hboth.1), if_neg h6, cancelsOnWrite_other h5]
  by_cases h7 : address = 0xff07
  · subst h7
    rw [if_pos rfl, h.edge_conserved (u := { t with tac := value &&& 0x07 }) rfl rfl,
      overflowsOnWrite]
    refine congrArg (t.pending + ·) (if_congr (and_congr_left fun _ => ?_) rfl rfl)
    exact ⟨fun hfalls => .inr ⟨rfl, hfalls⟩,
      fun hfalls => hfalls.elim (absurd ·.1 (by decide)) And.right⟩
  · rw [if_neg h7, overflowsOnWrite_other h4 h7]

/-- Only a write to DIV or TAC overflows. -/
theorem address_of_overflowsOnWrite {address : Word} {value : Byte}
    (h : 0 < t.overflowsOnWrite address value) : address = 0xff04 ∨ address = 0xff07 := by
  by_contra hneither
  obtain ⟨h4, h7⟩ := not_or.mp hneither
  rw [overflowsOnWrite_other h4 h7] at h
  exact absurd h (Nat.lt_irrefl 0)

/-- **An overflow of a write** is pending when the T-cycles begin. -/
theorem Whole.overflow_onWrite (h : t.Whole) {address : Word} {value : Byte}
    (hover : 0 < t.overflowsOnWrite address value) :
    (t.write address value).device.reloadDelay = some 4 := by
  have hconserved := h.write_conserved address value
  have hcancels : t.cancelsOnWrite address = 0 := by
    rcases address_of_overflowsOnWrite hover with rfl | rfl
    · exact cancelsOnWrite_other (by decide)
    · exact cancelsOnWrite_other (by decide)
  refine (h.write address value).delay.of_pending ?_
  omega

end Timer

end Pockiva
