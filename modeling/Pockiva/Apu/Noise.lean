import Pockiva.Apu.Oscillators
import Pockiva.Apu.SweepLaw
import Pockiva.Lib.XorLinear
import Mathlib.Order.Interval.Finset.Nat
import Mathlib.Tactic.IntervalCases
import Mathlib.Tactic.NormNum.Prime

/-! # The noise channel

The shift register of the noise channel, from a trigger on.  With 15 bits it runs through
every pattern but zero before it repeats (`pattern_wide`), with 7 bits it repeats after
127 shifts (`pattern_narrow`).  `noise_law` puts this on the clock of the unit.
-/
namespace Pockiva

open Transition

variable {M : MixerModel}

namespace NoiseChannel

/-! ## The shift register -/

/-- The next pattern of the register. -/
def shifted (widthMode : Bool) (lfsr : Word) : Word :=
  { initial with lfsr := lfsr, widthMode := widthMode }.nextLfsr

/-- The pattern after a trigger and some shifts. -/
def pattern (widthMode : Bool) (shifts : Nat) : Word := (shifted widthMode)^[shifts] 0x7fff

/-- What enters the register. -/
def feedback (lfsr : Word) : Word := (lfsr ^^^ (lfsr >>> 1)) &&& 1

/-- The same shift with exclusive or in place of or. -/
def mixed (widthMode : Bool) (lfsr : Word) : Word :=
  ((lfsr >>> 1) &&& (if widthMode then 0xffbf else 0xffff : Word)) ^^^ (feedback lfsr <<< 14) ^^^
    (feedback lfsr &&& (if widthMode then 0xffff else 0 : Word)) <<< 6

theorem mixed_linear (widthMode : Bool) : XorLinear.Linear (mixed widthMode) := by
  have hright := XorLinear.linear_ushiftRight (w := 16) 1
  have hfeedback : XorLinear.Linear feedback :=
    (XorLinear.linear_mask 1).comp (XorLinear.linear_id.both hright)
  have hlow := (XorLinear.linear_mask (if widthMode then 0xffbf else 0xffff)).comp hright
  have hhigh := (XorLinear.linear_shiftLeft 14).comp hfeedback
  have hwidth := (XorLinear.linear_shiftLeft 6).comp
    ((XorLinear.linear_mask (if widthMode then 0xffff else 0)).comp hfeedback)
  exact (hlow.both hhigh).both hwidth

/-- A 15-bit register never has a bit where the feedback enters. -/
theorem shifted_eq_mixed (widthMode : Bool) {lfsr : Word} (h : lfsr.toNat < 2 ^ 15) :
    shifted widthMode lfsr = mixed widthMode lfsr := by
  have htop : lfsr[15] = false := by
    rw [← BitVec.getLsbD_eq_getElem, BitVec.getLsbD, Nat.testBit_lt_two_pow h]
  apply BitVec.eq_of_getLsbD_eq
  intro i hi
  unfold shifted nextLfsr mixed feedback
  cases widthMode <;> interval_cases i <;> simp [htop]

theorem shifted_lt (widthMode : Bool) {lfsr : Word} (h : lfsr.toNat < 2 ^ 15) :
    (shifted widthMode lfsr).toNat < 2 ^ 15 :=
  nextLfsr_lt (c := { initial with lfsr := lfsr, widthMode := widthMode }) h

theorem pattern_succ (widthMode : Bool) (n : Nat) :
    pattern widthMode (n + 1) = shifted widthMode (pattern widthMode n) :=
  Function.iterate_succ_apply' _ _ _

theorem pattern_lt (widthMode : Bool) (n : Nat) : (pattern widthMode n).toNat < 2 ^ 15 := by
  induction n with
  | zero =>
    show (0x7fff : Word).toNat < 2 ^ 15
    decide
  | succ n ih =>
    rw [pattern_succ]
    exact shifted_lt widthMode ih

/-- Many shifts in a few steps. -/
theorem pattern_eq (widthMode : Bool) {n : Nat} (hn : n < 2 ^ 15) :
    pattern widthMode n = XorLinear.leap 15 (XorLinear.columns (mixed widthMode)) n 0x7fff := by
  have hmixed : ∀ n, pattern widthMode n = (mixed widthMode)^[n] 0x7fff := by
    intro n
    induction n with
    | zero => rfl
    | succ n ih =>
      rw [pattern_succ, Function.iterate_succ_apply', ← ih,
        shifted_eq_mixed widthMode (pattern_lt widthMode n)]
  rw [XorLinear.leap_eq (mixed_linear widthMode) hn, hmixed]

/-- **The 15-bit register** repeats after 32767 shifts and not before. -/
theorem pattern_wide : Function.minimalPeriod (shifted false) 0x7fff = 32767 := by
  have hfactors : (32767 : Nat) = 7 * (31 * 151) := rfl
  refine XorLinear.minimalPeriod_eq ?_ ?_
  · show pattern false 32767 = 0x7fff
    rw [pattern_eq false (by decide)]
    decide +kernel
  · intro p hp hdvd hperiodic
    change pattern false (32767 / p) = 0x7fff at hperiodic
    have hcases : p = 7 ∨ p = 31 ∨ p = 151 := by
      rw [hfactors] at hdvd
      rcases (Nat.Prime.dvd_mul hp).mp hdvd with h | h
      · exact .inl ((Nat.prime_dvd_prime_iff_eq hp (by norm_num)).mp h)
      rcases (Nat.Prime.dvd_mul hp).mp h with h | h
      · exact .inr (.inl ((Nat.prime_dvd_prime_iff_eq hp (by norm_num)).mp h))
      · exact .inr (.inr ((Nat.prime_dvd_prime_iff_eq hp (by norm_num)).mp h))
    have hshort : 32767 / p < 2 ^ 15 := Nat.lt_of_le_of_lt (Nat.div_le_self _ _) (by decide)
    rw [pattern_eq false hshort] at hperiodic
    revert hperiodic
    rcases hcases with rfl | rfl | rfl <;> decide +kernel

/-- It runs through every pattern but zero. -/
theorem pattern_onto {lfsr : Word} (hzero : lfsr ≠ 0) (hlt : lfsr.toNat < 2 ^ 15) :
    ∃ n < 32767, pattern false n = lfsr := by
  have hnonzero : ∀ n, pattern false n ≠ 0 := by
    intro n hn
    -- The zero pattern stays, so the register would never come back to where it started.
    have hstays : ∀ k, pattern false (n + k) = 0 := by
      intro k
      induction k with
      | zero => exact hn
      | succ k ih =>
        rw [← Nat.add_assoc, pattern_succ, ih]
        decide
    have hback : pattern false (n + (32767 * (n + 1) - n)) = 0x7fff := by
      rw [Nat.add_sub_cancel' (by omega), ← pattern_wide]
      exact (Function.isPeriodicPt_minimalPeriod (shifted false) 0x7fff).mul_const (n + 1)
    rw [hstays] at hback
    exact absurd hback (by decide)
  have hmaps : ∀ n ∈ Finset.range 32767,
      (pattern false n).toNat ∈ Finset.Ico 1 (2 ^ 15) := by
    intro n _
    rw [Finset.mem_Ico]
    refine ⟨Nat.pos_of_ne_zero fun h => hnonzero n (BitVec.eq_of_toNat_eq h), pattern_lt false n⟩
  have hinjective : Set.InjOn (fun n => (pattern false n).toNat) (Finset.range 32767) := by
    intro m hm n hn heq
    rw [Finset.coe_range, ← pattern_wide] at hm hn
    exact Function.iterate_injOn_Iio_minimalPeriod hm hn (BitVec.eq_of_toNat_eq heq)
  have hcard : (Finset.Ico 1 (2 ^ 15)).card ≤ (Finset.range 32767).card := by
    rw [Finset.card_range, Nat.card_Ico]
    omega
  have hsurj := Finset.surjOn_of_injOn_of_card_le _ hmaps hinjective hcard
  have hmem : lfsr.toNat ∈ (Finset.Ico 1 (2 ^ 15) : Set Nat) := by
    rw [Finset.mem_coe, Finset.mem_Ico]
    exact ⟨Nat.pos_of_ne_zero fun h => hzero (BitVec.eq_of_toNat_eq h), hlt⟩
  obtain ⟨n, hn, heq⟩ := hsurj hmem
  exact ⟨n, Finset.mem_range.mp hn, BitVec.eq_of_toNat_eq heq⟩

theorem iterate_pattern (widthMode : Bool) (n : Nat) :
    (shifted widthMode)^[n] (pattern widthMode 1) = pattern widthMode (n + 1) :=
  (Function.iterate_add_apply (shifted widthMode) n 1 0x7fff).symm

/-- **The 7-bit register** repeats after 127 shifts and not before, from the first shift on. -/
theorem pattern_narrow : Function.minimalPeriod (shifted true) (pattern true 1) = 127 := by
  have hprime : (127 : Nat).Prime := by norm_num
  refine XorLinear.minimalPeriod_eq ?_ ?_
  · show (shifted true)^[127] (pattern true 1) = pattern true 1
    rw [iterate_pattern, pattern_eq true (by decide), pattern_eq true (by decide)]
    decide +kernel
  · intro p hp hdvd hperiodic
    rw [(Nat.prime_dvd_prime_iff_eq hp hprime).mp hdvd] at hperiodic
    change (shifted true)^[1] (pattern true 1) = pattern true 1 at hperiodic
    rw [iterate_pattern, pattern_eq true (by decide), pattern_eq true (by decide)] at hperiodic
    revert hperiodic
    decide +kernel

/-! ## The channel -/

/-- What the noise depends on. -/
def oscillator (c : NoiseChannel) : NoiseChannel :=
  { c with enabled := false, dacEnabled := false, length := .initial, envelope := .initial }

theorem oscillator_tickTCycle (c : NoiseChannel) :
    c.tickTCycle.oscillator = c.oscillator.tickTCycle := by
  unfold tickTCycle
  have htimer : c.oscillator.timer = c.timer := rfl
  rw [htimer]
  split <;> rfl

/-- What a trigger writes. -/
structure Started (c : NoiseChannel) : Prop where
  lfsr : c.lfsr = 0x7fff
  timer : c.timer = c.period

theorem writeControl_started (c : NoiseChannel) {value : Byte} (hvalue : value &&& 0x80 ≠ 0)
    (next : Bool) : (c.writeControl value next).Started := by
  unfold writeControl
  rw [if_pos (bne_iff_ne.mpr hvalue)]
  exact ⟨rfl, rfl⟩

/-- **The noise channel after any number of T-cycles.** -/
theorem tickTCycle_iterate {c : NoiseChannel} (hperiod : 0 < c.period) (hstarted : c.Started)
    (n : Nat) :
    NoiseChannel.tickTCycle^[n] c =
      { c with
        timer := Countdown.remaining c.period c.period n
        lfsr := pattern c.widthMode (n / c.period) } := by
  have hsemiconj : Function.Semiconj
      (fun state : Nat × Word => { c with timer := state.1, lfsr := state.2 })
      (Countdown.tick c.period (shifted c.widthMode)) tickTCycle := by
    intro state
    unfold tickTCycle Countdown.tick
    dsimp only
    split <;> rfl
  have hrun := hsemiconj.iterate_right n (c.period, 0x7fff)
  rw [Countdown.tick_iterate hperiod hperiod, Countdown.expiries_reloaded] at hrun
  have hstart : { c with timer := c.period, lfsr := 0x7fff } = c := by
    rw [← hstarted.timer, ← hstarted.lfsr]
  dsimp only at hrun
  rw [hstart] at hrun
  exact hrun.symm

end NoiseChannel

namespace Apu

theorem oscillates_channel4 :
    Oscillates .channel4 (fun _ => True) NoiseChannel.tickTCycle
      (fun a : Apu M => a.channel4.oscillator) where
  timed a mirror step phase mixer pcm := rfl
  sequencer a _ := by
    unfold clockFrameSequencer
    dsimp only
    split <;> rfl
  tickChannels a hon := by
    unfold tickChannels
    rw [if_pos hon]
    exact a.channel4.oscillator_tickTCycle
  writePoweredOn a address value hleaves := by
    have howns : ¬ (0xff20 ≤ address ∧ address ≤ 0xff23) := hleaves.1
    unfold writePoweredOn
    dsimp only
    rw [if_neg howns]
    repeat' split
    all_goals rfl
  valid _ _ := trivial

/-- The shifts of the noise channel in a run from a trigger on. -/
def shifts (a : Apu M) (ops : List Op) : Nat := tCycles ops / a.channel4.period

/-- **The noise** from a trigger on, and through any operations that leave the registers of
the channel alone. -/
structure NoiseLaw (a : Apu M) : Prop where
  /-- The channel gives out its volume in the steps whose pattern is even. -/
  output : ∀ ops : List Op, (∀ op ∈ ops, op.Leaves .channel4) →
    let d := (a.play ops).channel4
    d.lfsr = NoiseChannel.pattern a.channel4.widthMode (a.shifts ops) ∧
      d.output = if d.enabled = true ∧ d.lfsr &&& 1 = 0 then d.envelope.volume else 0
  /-- Two moments have the same pattern if a whole number of rounds lies between them, and
  only then. -/
  wide : a.channel4.widthMode = false →
    ∀ ops more : List Op, (∀ op ∈ ops, op.Leaves .channel4) → (∀ op ∈ more, op.Leaves .channel4) →
      ((a.play ops).channel4.lfsr = (a.play more).channel4.lfsr ↔
        a.shifts ops % 32767 = a.shifts more % 32767)
  /-- Every pattern but zero comes up. -/
  onto : a.channel4.widthMode = false → ∀ lfsr : Word, lfsr ≠ 0 → lfsr.toNat < 2 ^ 15 →
    ∃ n < 32767, ∀ ops : List Op, (∀ op ∈ ops, op.Leaves .channel4) → a.shifts ops = n →
      (a.play ops).channel4.lfsr = lfsr
  /-- With the short register a round has 127 patterns, once the first one is left. -/
  narrow : a.channel4.widthMode = true →
    ∀ ops more : List Op, (∀ op ∈ ops, op.Leaves .channel4) → (∀ op ∈ more, op.Leaves .channel4) →
      0 < a.shifts ops → 0 < a.shifts more →
        ((a.play ops).channel4.lfsr = (a.play more).channel4.lfsr ↔
          a.shifts ops % 127 = a.shifts more % 127)

theorem write_ff23 {a : Apu M} (hon : a.masterEnabled = true) (value : Byte) :
    (a.write 0xff23 value).channel4 = a.channel4.writeControl value a.nextStepClocksLength := by
  unfold write
  rw [if_neg (by decide), if_neg (by decide), if_pos hon]
  rfl

open NoiseChannel in
theorem noise_law {sampleRate : Nat} {a : Apu M} (h : Reachable (Apu.system M sampleRate) a)
    (hon : a.masterEnabled = true) {value : Byte} (hvalue : value &&& 0x80 ≠ 0) :
    (a.write 0xff23 value).NoiseLaw := by
  have hreachable := h.ofNext (.write 0xff23 value)
  have hmaster : (a.write 0xff23 value).masterEnabled = true :=
    (a.write_masterEnabled (by decide) value).trans hon
  have hstarted : (a.write 0xff23 value).channel4.Started := by
    rw [write_ff23 hon]
    exact a.channel4.writeControl_started hvalue _
  change Reachable (Apu.system M sampleRate) (a.write 0xff23 value) at hreachable
  generalize a.write 0xff23 value = b at hreachable hmaster hstarted
  have hperiod : 0 < b.channel4.period := (wellFormed_of_reachable hreachable).channel4.period_pos
  have hlfsr : ∀ {ops : List Op}, (∀ op ∈ ops, op.Leaves .channel4) →
      (b.play ops).channel4.lfsr = pattern b.channel4.widthMode (b.shifts ops) := by
    intro ops hops
    have hrun := oscillates_channel4.play hmaster trivial hops
    have hiterate := tickTCycle_iterate (c := b.channel4.oscillator) hperiod
      ⟨hstarted.lfsr, hstarted.timer⟩ (tCycles ops)
    exact congrArg NoiseChannel.lfsr (hrun.trans hiterate)
  constructor
  case output =>
    intro ops hops d
    have hplaying : d.enabled = true → d.dacEnabled = true :=
      (wellFormed_of_reachable (reachable_play hreachable ops)).channel4.playing.dac
    refine ⟨hlfsr hops, ?_⟩
    unfold NoiseChannel.output
    by_cases hsounds : d.enabled = true ∧ d.lfsr &&& 1 = 0
    · rw [if_pos ⟨hsounds.1, hplaying hsounds.1, hsounds.2⟩, if_pos hsounds]
    · rw [if_neg fun hall => hsounds ⟨hall.1, hall.2.2⟩, if_neg hsounds]
  case wide =>
    intro hwidth ops more hops hmore
    rw [hlfsr hops, hlfsr hmore, hwidth]
    exact XorLinear.iterate_eq_iff (by decide) pattern_wide _ _
  case onto =>
    intro hwidth lfsr hzero hlt
    obtain ⟨n, hn, heq⟩ := pattern_onto hzero hlt
    refine ⟨n, hn, fun ops hops hshifts => ?_⟩
    rw [hlfsr hops, hwidth, hshifts, heq]
  case narrow =>
    intro hwidth ops more hops hmore hfirst hsecond
    rw [hlfsr hops, hlfsr hmore, hwidth]
    obtain ⟨j, hj⟩ := Nat.exists_eq_add_of_lt hfirst
    obtain ⟨k, hk⟩ := Nat.exists_eq_add_of_lt hsecond
    rw [hj, hk, Nat.zero_add, Nat.zero_add, ← iterate_pattern true j, ← iterate_pattern true k,
      XorLinear.iterate_eq_iff (by decide) pattern_narrow]
    omega

/-- The sound unit as the boot ROM leaves it, with the short register. -/
theorem noise_law_short :
    let a : Apu .mute := (Apu.new 44100).write 0xff22 0x08
    (a.write 0xff23 0x80).channel4.widthMode = true ∧ (a.write 0xff23 0x80).NoiseLaw := by
  have hnew : Reachable (Apu.system .mute 44100) (Apu.new 44100) := .start ⟨by decide, rfl⟩
  have hshort := hnew.ofNext (.write 0xff22 0x08)
  exact ⟨by decide, noise_law hshort (by decide) (by decide)⟩

end Apu

end Pockiva
