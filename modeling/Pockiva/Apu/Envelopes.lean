import Pockiva.Apu.Sweep
import Pockiva.Lib.Countdown

/-! # The envelopes

The volume of a channel from a trigger on, while its registers are left alone: it moves by
one each time the pace fits into the clocks of the envelope, and stays at the end of its
range (`play_volume`).
-/
namespace Pockiva

variable {M : MixerModel}

/-! ## The volume -/

namespace VolumeEnvelope

/-- One step of the volume, which stays at either end. -/
def step (e : VolumeEnvelope) (volume : Nat) : Nat :=
  if e.increase then min 15 (volume + 1) else volume - 1

/-- The volume that a number of steps make of the initial one. -/
def reached (e : VolumeEnvelope) (steps : Nat) : Nat :=
  if e.increase then min 15 (e.initialVolume + steps) else e.initialVolume - steps

theorem step_iterate {e : VolumeEnvelope} (h : e.initialVolume ≤ 15) (n : Nat) :
    e.step^[n] e.initialVolume = e.reached n := by
  induction n with
  | zero =>
    unfold reached
    rw [Function.iterate_zero, id, Nat.add_zero, Nat.sub_zero, min_eq_right h, ite_self]
  | succ n ih =>
    rw [Function.iterate_succ_apply', ih]
    unfold step reached
    split
    · omega
    · omega

/-- An envelope runs the countdown of `e` until its volume is at an end, where the countdown
has nothing more to do. -/
structure Follows (e d : VolumeEnvelope) (state : Nat × Nat) : Prop where
  increase : d.increase = e.increase
  pace : d.pace = e.pace
  volume : d.currentVolume = state.2
  bound : state.2 ≤ 15
  timer : d.running = true → d.timer = state.1
  stopped : d.running = false → e.step state.2 = state.2

namespace Follows
variable {e d : VolumeEnvelope} {state : Nat × Nat}

/-- The volume moves where the countdown moves it, -/
theorem step_of_nextVolume (h : Follows e d state) {next : Nat} (hnext : d.nextVolume = some next) :
    e.step state.2 = next := by
  have hbound := h.bound
  unfold nextVolume at hnext
  rw [h.volume, h.increase] at hnext
  unfold step
  split at hnext
  case _ hincrease =>
    obtain ⟨hle, hnext⟩ := Option.ite_none_right_eq_some.mp hnext
    rw [if_pos hincrease, ← Option.some.inj hnext]
    exact min_eq_right hle
  case _ hincrease =>
    obtain ⟨-, hnext⟩ := Option.ite_none_right_eq_some.mp hnext
    rw [if_neg hincrease, ← Option.some.inj hnext]

/-- and has nowhere to go where the countdown stays. -/
theorem step_of_last (h : Follows e d state) (hnext : d.nextVolume = none) :
    e.step state.2 = state.2 := by
  have hbound := h.bound
  unfold nextVolume at hnext
  rw [h.volume, h.increase] at hnext
  unfold step
  split at hnext
  case _ hincrease =>
    have hend : ¬ state.2 + 1 ≤ 15 := fun hle =>
      Option.some_ne_none _ ((if_pos hle).symm.trans hnext)
    rw [if_pos hincrease]
    omega
  case _ hincrease =>
    have hend : ¬ 1 ≤ state.2 := fun hle =>
      Option.some_ne_none _ ((if_pos hle).symm.trans hnext)
    rw [if_neg hincrease]
    omega

theorem clock (h : Follows e d state) :
    Follows e d.clock (Countdown.tick e.reloadPeriod e.step state) := by
  have hreload : d.reloadPeriod = e.reloadPeriod := by
    unfold reloadPeriod
    rw [h.pace]
  have hstep : e.step state.2 ≤ 15 := by
    have hbound := h.bound
    unfold step
    split <;> omega
  unfold VolumeEnvelope.clock Countdown.tick
  by_cases hrunning : d.running = false
  · -- A stopped envelope is at an end, and the countdown goes on without effect.
    have hstill := h.stopped hrunning
    have hoff : ¬ d.running = true := by rw [hrunning]; decide
    rw [if_pos hrunning]
    split
    · exact ⟨h.increase, h.pace, h.volume.trans hstill.symm, hstep, fun hon => (hoff hon).elim,
        fun _ => by rw [hstill, hstill]⟩
    · exact ⟨h.increase, h.pace, h.volume, h.bound, fun hon => (hoff hon).elim, fun _ => hstill⟩
  have hon : d.running = true := Bool.eq_true_of_not_eq_false hrunning
  rw [if_neg hrunning, ← h.timer hon]
  by_cases hlast : d.timer - 1 = 0
  · rw [if_neg (not_not.mpr hlast), if_pos hlast]
    cases hnext : d.nextVolume with
    | some next =>
      exact ⟨h.increase, h.pace, (h.step_of_nextVolume hnext).symm, hstep, fun _ => hreload,
        fun hoff => (hrunning hoff).elim⟩
    | none =>
      have hstill := h.step_of_last hnext
      exact ⟨h.increase, h.pace, h.volume.trans hstill.symm, hstep,
        fun hoff => (Bool.false_ne_true hoff).elim, fun _ => by rw [hstill, hstill]⟩
  · rw [if_pos hlast, if_neg hlast]
    exact ⟨h.increase, h.pace, h.volume, h.bound, fun _ => rfl, fun hoff => (hrunning hoff).elim⟩

end Follows

/-- What a trigger makes of an envelope. -/
structure Triggered (e : VolumeEnvelope) : Prop where
  volume : e.currentVolume = e.initialVolume
  timer : e.timer = e.reloadPeriod
  running : e.running = true

theorem triggered_trigger (e : VolumeEnvelope) : e.trigger.Triggered := ⟨rfl, rfl, rfl⟩

/-- **The volume after any number of clocks.** -/
theorem volume_iterate {e : VolumeEnvelope} (h : e.WellFormed) (htriggered : e.Triggered)
    (n : Nat) : (VolumeEnvelope.clock^[n] e).volume = e.reached (n / e.reloadPeriod) := by
  have hrun : Follows e (VolumeEnvelope.clock^[n] e)
      ((Countdown.tick e.reloadPeriod e.step)^[n] (e.reloadPeriod, e.initialVolume)) := by
    induction n with
    | zero =>
      refine ⟨rfl, rfl, htriggered.volume, h.initialVolume, fun _ => htriggered.timer, ?_⟩
      intro hoff
      exact (Bool.false_ne_true (hoff.symm.trans htriggered.running)).elim
    | succ n ih =>
      rw [Function.iterate_succ_apply', Function.iterate_succ_apply']
      exact ih.clock
  have hvolume := hrun.volume
  rw [Countdown.tick_iterate e.reloadPeriod_pos e.reloadPeriod_pos, Countdown.expiries_reloaded,
    step_iterate h.initialVolume] at hvolume
  exact hvolume

end VolumeEnvelope

/-! ## The envelope of a channel -/

namespace Apu

/-- The envelope of a channel; the wave channel has none. -/
def envelope (a : Apu M) : Channel → VolumeEnvelope
  | .channel1 => a.channel1.envelope
  | .channel2 => a.channel2.envelope
  | .channel3 => .initial
  | .channel4 => a.channel4.envelope

theorem sheltered_envelope (ch : Channel) : Sheltered ch fun a : Apu M => a.envelope ch where
  timed a mirror step phase mixer pcm := by cases ch <;> rfl
  tickChannels a := by
    have hpulse (c : PulseChannel) : c.tickTCycle.envelope = c.envelope := by
      unfold PulseChannel.tickTCycle
      split <;> rfl
    have hnoise (c : NoiseChannel) : c.tickTCycle.envelope = c.envelope := by
      unfold NoiseChannel.tickTCycle
      split <;> rfl
    unfold tickChannels
    split
    · cases ch with
      | channel1 => exact hpulse a.channel1
      | channel2 => exact hpulse a.channel2
      | channel3 => rfl
      | channel4 => exact hnoise a.channel4
    · rfl
  writePoweredOn a address value howns := by
    unfold writePoweredOn
    cases ch with
    | channel3 => rfl
    | channel1 | channel2 | channel4 =>
      dsimp only [Channel.Owns] at howns ⊢
      rw [if_neg howns]
      repeat' split
      all_goals rfl
  writePoweredOff a address value _ := by
    -- With the power off only the lengths and wave RAM are written.
    unfold writePoweredOff
    cases ch <;> repeat' split
    all_goals rfl

/-- The operation clocks the envelopes. -/
def clocksEnvelopes (a : Apu M) (op : Op) : Bool :=
  a.clocksSequencer op && decide (a.frameStep = 7)

/-- How many envelope clocks a run makes. -/
def envelopeClocks (a : Apu M) (ops : List Op) : Nat :=
  (a.steps ops).countP fun step => step.1.clocksEnvelopes step.2

/-- A clock of the frame sequencer, as the envelope of a channel sees it. -/
theorem clockFrameSequencer_envelope (a : Apu M) (ch : Channel) :
    a.clockFrameSequencer.envelope ch =
      if a.frameStep = 7 then (a.envelope ch).clock else a.envelope ch := by
  have htimed (b : Apu M) (step : Nat) :
      ({ b with frameStep := step } : Apu M).envelope ch = b.envelope ch :=
    (sheltered_envelope ch).timed b b.dividerMirror step b.samplePhase b.mixer b.pcm
  have hlengths : a.clockLengths.envelope ch = a.envelope ch := by cases ch <;> rfl
  have hsweep : ({ a.clockLengths with
      channel1 := a.clockLengths.channel1.clockSweep } : Apu M).envelope ch = a.envelope ch := by
    rw [PulseChannel.clockSweep_eq]
    cases ch <;> rfl
  unfold clockFrameSequencer
  dsimp only
  rw [htimed]
  split
  · next hstep => rw [hstep, if_neg (by decide), hlengths]
  · next hstep => rw [hstep, if_neg (by decide), hlengths]
  · next hstep => rw [hstep, if_neg (by decide), hsweep]
  · next hstep => rw [hstep, if_neg (by decide), hsweep]
  · next hstep =>
    rw [if_pos hstep]
    cases ch <;> rfl
  · next hother => rw [if_neg hother]

/-- **The envelope follows the unit**, one operation at a time. -/
theorem apply_envelope (a : Apu M) {ch : Channel} {op : Op} (hop : op.Spares ch) :
    (a.apply op).envelope ch =
      if a.clocksEnvelopes op then (a.envelope ch).clock else a.envelope ch := by
  rw [(sheltered_envelope ch).apply a hop]
  unfold sequenced clocksEnvelopes
  cases a.clocksSequencer op with
  | true =>
    rw [if_pos rfl, clockFrameSequencer_envelope, Bool.true_and]
    simp only [decide_eq_true_eq]
  | false => rfl

theorem play_envelope (a : Apu M) {ch : Channel} {ops : List Op}
    (hops : ∀ op ∈ ops, op.Spares ch) :
    (a.play ops).envelope ch = VolumeEnvelope.clock^[a.envelopeClocks ops] (a.envelope ch) := by
  induction ops generalizing a with
  | nil => rfl
  | cons op ops ih =>
    have hrest := ih (a.apply op) fun op hop => hops op (List.mem_cons_of_mem _ hop)
    show ((a.apply op).play ops).envelope ch = _
    rw [hrest, a.apply_envelope (hops op List.mem_cons_self), envelopeClocks, envelopeClocks, steps,
      List.countP_cons]
    by_cases hclocks : a.clocksEnvelopes op = true
    · rw [if_pos hclocks, if_pos hclocks, Function.iterate_succ_apply]
    · rw [if_neg hclocks, if_neg hclocks, Nat.add_zero]

theorem wellFormed_envelope {a : Apu M} (h : a.WellFormed) (ch : Channel) :
    (a.envelope ch).WellFormed := by
  cases ch with
  | channel1 => exact h.channel1.envelope
  | channel2 => exact h.channel2.envelope
  | channel3 => exact .initial
  | channel4 => exact h.channel4.envelope

/-- **The volume after a run**, of a channel that was triggered before it. -/
theorem play_volume {a : Apu M} (h : a.WellFormed) (ch : Channel)
    (htriggered : (a.envelope ch).Triggered) {ops : List Op} (hops : ∀ op ∈ ops, op.Spares ch) :
    ((a.play ops).envelope ch).volume =
      (a.envelope ch).reached (a.envelopeClocks ops / (a.envelope ch).reloadPeriod) := by
  rw [a.play_envelope hops, VolumeEnvelope.volume_iterate (wellFormed_envelope h ch) htriggered]

end Apu

end Pockiva
