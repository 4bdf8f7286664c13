import Pockiva.Apu.ChannelInvariants
import Pockiva.Apu.Samples

/-! # The states of the sound unit

`Apu.system` has the states a sound unit gets to from the boot ROM: any register
writes, with power cycles and writes to DIV, any number of T-cycles, and drains of the
samples.  `Apu.invariants_of_reachable` states what holds of all of them.
-/
namespace Pockiva

open Transition

variable {M : MixerModel}

/-! ## The unit -/

namespace Apu

structure WellFormed (a : Apu M) : Prop where
  channel1 : a.channel1.WellFormed
  channel2 : a.channel2.WellFormed
  channel3 : a.channel3.WellFormed
  channel4 : a.channel4.WellFormed
  frameStep : a.frameStep < 8
  samplePhase : a.samplePhase < dmgClockHz

namespace WellFormed
variable {a : Apu M}

/-- The writes of the boot ROM are writes. -/
theorem new (sampleRate : Nat) : (Apu.new sampleRate : Apu M).WellFormed where
  channel1 := ((((PulseChannel.WellFormed.new true).write 0 0x00 true).write 1 0x80 true).write
    2 0xf3 true).write 3 0x00 true |>.write 4 0x80 true
  channel2 := .new false
  channel3 := .initial _
  channel4 := .initial
  frameStep := Nat.zero_lt_succ _
  samplePhase := Nat.zero_lt_succ _

theorem clockLengths (h : a.WellFormed) : a.clockLengths.WellFormed :=
  ⟨h.channel1.clockLength, h.channel2.clockLength, h.channel3.clockLength,
    h.channel4.clockLength, h.frameStep, h.samplePhase⟩

theorem clockEnvelopes (h : a.WellFormed) : a.clockEnvelopes.WellFormed :=
  ⟨h.channel1.clockEnvelope, h.channel2.clockEnvelope, h.channel3,
    h.channel4.clockEnvelope, h.frameStep, h.samplePhase⟩

theorem clockSweep (h : a.WellFormed) :
    ({ a with channel1 := a.channel1.clockSweep } : Apu M).WellFormed :=
  ⟨h.channel1.clockSweep, h.channel2, h.channel3, h.channel4, h.frameStep, h.samplePhase⟩

theorem setFrameStep (h : a.WellFormed) {step : Nat} (hstep : step < 8) :
    ({ a with frameStep := step } : Apu M).WellFormed :=
  ⟨h.channel1, h.channel2, h.channel3, h.channel4, hstep, h.samplePhase⟩

theorem setMirror (h : a.WellFormed) (mirror : Word) :
    ({ a with dividerMirror := mirror } : Apu M).WellFormed :=
  ⟨h.channel1, h.channel2, h.channel3, h.channel4, h.frameStep, h.samplePhase⟩

theorem clockFrameSequencer (h : a.WellFormed) : a.clockFrameSequencer.WellFormed := by
  have hstep : (a.frameStep + 1) % 8 < 8 := Nat.mod_lt _ (by decide)
  unfold Apu.clockFrameSequencer
  dsimp only
  split
  · exact h.clockLengths.setFrameStep hstep
  · exact h.clockLengths.setFrameStep hstep
  · exact h.clockLengths.clockSweep.setFrameStep hstep
  · exact h.clockLengths.clockSweep.setFrameStep hstep
  · exact h.clockEnvelopes.setFrameStep hstep
  · exact h.setFrameStep hstep

/-! ### Writes -/

theorem powerOff (h : a.WellFormed) : a.powerOff.WellFormed :=
  ⟨.new _, .new _, .initial _, .initial, Nat.zero_lt_succ _, h.samplePhase⟩

theorem writeNr52 (h : a.WellFormed) (value : Byte) : (a.writeNr52 value).WellFormed := by
  unfold Apu.writeNr52
  dsimp only
  split
  · exact h.powerOff
  split
  · exact ⟨h.channel1, h.channel2, h.channel3, h.channel4, Nat.zero_lt_succ _, h.samplePhase⟩
  · exact h

theorem resetDivider (h : a.WellFormed) : a.resetDivider.WellFormed := by
  unfold Apu.resetDivider
  dsimp only
  split
  · exact h.clockFrameSequencer.setMirror 0
  · exact h.setMirror 0

theorem setChannel1 (h : a.WellFormed) {c : PulseChannel} (hc : c.WellFormed) :
    ({ a with channel1 := c } : Apu M).WellFormed :=
  ⟨hc, h.channel2, h.channel3, h.channel4, h.frameStep, h.samplePhase⟩

theorem setChannel2 (h : a.WellFormed) {c : PulseChannel} (hc : c.WellFormed) :
    ({ a with channel2 := c } : Apu M).WellFormed :=
  ⟨h.channel1, hc, h.channel3, h.channel4, h.frameStep, h.samplePhase⟩

theorem setChannel3 (h : a.WellFormed) {c : WaveChannel} (hc : c.WellFormed) :
    ({ a with channel3 := c } : Apu M).WellFormed :=
  ⟨h.channel1, h.channel2, hc, h.channel4, h.frameStep, h.samplePhase⟩

theorem setChannel4 (h : a.WellFormed) {c : NoiseChannel} (hc : c.WellFormed) :
    ({ a with channel4 := c } : Apu M).WellFormed :=
  ⟨h.channel1, h.channel2, h.channel3, hc, h.frameStep, h.samplePhase⟩

theorem writePoweredOff (h : a.WellFormed) (address : Word) (value : Byte) :
    (a.writePoweredOff address value).WellFormed := by
  unfold Apu.writePoweredOff
  split
  · exact h.setChannel1 (h.channel1.writeLengthWhilePoweredOff value)
  split
  · exact h.setChannel2 (h.channel2.writeLengthWhilePoweredOff value)
  split
  · exact h.setChannel3 (h.channel3.write 1 value _)
  split
  · exact h.setChannel4 (h.channel4.write 0 value _)
  split
  · exact h.setChannel3 (h.channel3.writeWaveRam address value)
  · exact h

theorem writePoweredOn (h : a.WellFormed) (address : Word) (value : Byte) :
    (a.writePoweredOn address value).WellFormed := by
  unfold Apu.writePoweredOn
  dsimp only
  split
  · exact h.setChannel1 (h.channel1.write _ value _)
  split
  · exact h.setChannel2 (h.channel2.write _ value _)
  split
  · exact h.setChannel3 (h.channel3.write _ value _)
  split
  · exact h.setChannel4 (h.channel4.write _ value _)
  split
  · exact ⟨h.channel1, h.channel2, h.channel3, h.channel4, h.frameStep, h.samplePhase⟩
  split
  · exact ⟨h.channel1, h.channel2, h.channel3, h.channel4, h.frameStep, h.samplePhase⟩
  split
  · exact h.setChannel3 (h.channel3.writeWaveRam address value)
  · exact h

theorem write (h : a.WellFormed) (address : Word) (value : Byte) :
    (a.write address value).WellFormed := by
  unfold Apu.write
  split
  · exact h.resetDivider
  split
  · exact h.writeNr52 value
  split
  · exact h.writePoweredOn address value
  · exact h.writePoweredOff address value

/-! ### Time -/

theorem tickDivider (h : a.WellFormed) : a.tickDivider.WellFormed := by
  have hticked := h.setMirror (a.dividerMirror + 1)
  unfold Apu.tickDivider
  dsimp only
  split
  · exact hticked.clockFrameSequencer
  · exact hticked

theorem tickChannels (h : a.WellFormed) : a.tickChannels.WellFormed := by
  unfold Apu.tickChannels
  split
  · exact ⟨h.channel1.tickTCycle, h.channel2.tickTCycle, h.channel3.tickTCycle,
      h.channel4.tickTCycle, h.frameStep, h.samplePhase⟩
  · exact h

/-- In between, the phase can be above its bound. -/
theorem tickTCycle (h : a.WellFormed) : a.tickTCycle.WellFormed := by
  have hchannels := h.tickDivider.tickChannels
  have hphase : a.tickTCycle.samplePhase < dmgClockHz := by
    rw [a.tickTCycle_samplePhase.1]
    exact Nat.mod_lt _ (by decide)
  obtain ⟨samplePhase, mixer, heq⟩ := afterFrames_eq (a.clocked.samplePhase / dmgClockHz) a.clocked
  rw [tickTCycle_eq, heq] at hphase ⊢
  exact ⟨hchannels.channel1, hchannels.channel2, hchannels.channel3, hchannels.channel4,
    hchannels.frameStep, hphase⟩

theorem drainAudio (h : a.WellFormed) : a.drainAudio.2.WellFormed :=
  ⟨h.channel1, h.channel2, h.channel3, h.channel4, h.frameStep, h.samplePhase⟩

theorem apply (h : a.WellFormed) (op : Op) : (a.apply op).WellFormed := by
  cases op with
  | write address value => exact h.write address value
  | tickTCycle => exact h.tickTCycle
  | drainAudio => exact h.drainAudio

end WellFormed

theorem wellFormed_of_reachable {sampleRate : Nat} {a : Apu M}
    (h : Reachable (Apu.system M sampleRate) a) : a.WellFormed := by
  refine h.invariant ?_ ?_
  · rintro a ⟨-, rfl⟩
    exact .new sampleRate
  · rintro a op b ha rfl
    exact ha.apply op

/-! ## The invariant -/

/-- Every reload period is positive; the subtractions from 2048 do not underflow. -/
structure Periods (a : Apu M) : Prop where
  channel1 : 1 ≤ a.channel1.period
  channel2 : 1 ≤ a.channel2.period
  channel3 : 1 ≤ a.channel3.period
  channel4 : 1 ≤ a.channel4.period
  envelope1 : 1 ≤ a.channel1.envelope.reloadPeriod
  envelope2 : 1 ≤ a.channel2.envelope.reloadPeriod
  envelope4 : 1 ≤ a.channel4.envelope.reloadPeriod
  sweep : ∀ s ∈ a.channel1.sweep, 1 ≤ s.reloadPeriod

/-- Every channel sends at most 15 to the mixer. -/
def OutputsBounded (a : Apu M) : Prop :=
  ∀ output ∈ [a.channel1.output, a.channel2.output, a.channel3.output, a.channel4.output],
    output ≤ 15

/-- **In every state of the sound unit**, its counters, frequencies, volumes and
positions are in range, a channel that plays has its DAC on, and no channel plays with
an enabled length counter that has run out. -/
theorem invariants_of_reachable {sampleRate : Nat} {a : Apu M}
    (h : Reachable (Apu.system M sampleRate) a) :
    a.WellFormed ∧ a.Periods ∧ a.OutputsBounded := by
  have hwell := wellFormed_of_reachable h
  refine ⟨hwell, ?_, ?_⟩
  · constructor
    case channel1 => exact hwell.channel1.period_pos
    case channel2 => exact hwell.channel2.period_pos
    case channel3 => exact hwell.channel3.period_pos
    case channel4 => exact hwell.channel4.period_pos
    case envelope1 => exact VolumeEnvelope.reloadPeriod_pos _
    case envelope2 => exact VolumeEnvelope.reloadPeriod_pos _
    case envelope4 => exact VolumeEnvelope.reloadPeriod_pos _
    case sweep => exact fun s _ => s.reloadPeriod_pos
  · intro output houtput
    simp only [List.mem_cons, List.not_mem_nil, or_false] at houtput
    rcases houtput with rfl | rfl | rfl | rfl
    · exact PulseChannel.output_le hwell.channel1
    · exact PulseChannel.output_le hwell.channel2
    · exact a.channel3.output_le
    · exact hwell.channel4.output_le

/-- After a power cycle. -/
theorem invariants_of_reachable_powerCycle :
    let a : Apu .mute := ((Apu.new 44100).write 0xff26 0x00).write 0xff26 0x80
    a.WellFormed ∧ a.Periods ∧ a.OutputsBounded := by
  have hnew : Reachable (Apu.system .mute 44100) (Apu.new 44100) := .start ⟨by decide, rfl⟩
  have hoff := hnew.ofNext (.write 0xff26 0x00)
  exact invariants_of_reachable (hoff.ofNext (.write 0xff26 0x80))

end Apu

/-- **The sound unit of the machine is a state of the sound unit.** -/
theorem MachineBus.audio_of_reachable {rom : List Byte} {sampleRate : Nat} {b : MachineBus M}
    (hpos : 0 < sampleRate) (h : Reachable (MachineBus.system M rom sampleRate) b) :
    Reachable (Apu.system M sampleRate) b.audio := by
  have hkept : Preserved fun b : MachineBus M =>
      b.sampleRate = sampleRate ∧ Reachable (Apu.system M sampleRate) b.audio := by
    constructor
    case tickMCycle =>
      rintro b ⟨hrate, ha⟩
      rw [tickMCycle_sampleRate, tickMCycle_audio]
      have hticks : ∀ n, Reachable (Apu.system M sampleRate) (b.audio.tick n).device := by
        intro n
        induction n with
        | zero => exact ha
        | succ n ih =>
          rw [Apu.tick_succ]
          exact ih.ofNext .tickTCycle
      exact ⟨hrate, hticks 4⟩
    case writeUnclocked =>
      rintro b address value ⟨hrate, ha⟩
      have hcase := writeUnclocked_cases b address value
      generalize b.writeUnclocked address value = c at hcase
      cases hcase with
      | divider => exact ⟨hrate, ha.ofNext (.write 0xff04 0)⟩
      | audio => exact ⟨hrate, ha.ofNext (.write address value)⟩
      | _ => exact ⟨hrate, ha⟩
    case resetDivider =>
      rintro b ⟨hrate, ha⟩
      exact ⟨hrate, ha.ofNext (.write 0xff04 0)⟩
    case reset =>
      rintro b now state ⟨hrate, -⟩
      exact ⟨hrate, .start ⟨hpos, by rw [← hrate]; rfl⟩⟩
    case drainAudio =>
      rintro b ⟨hrate, ha⟩
      exact ⟨hrate, ha.ofNext .drainAudio⟩
    all_goals
      intros
      assumption
  refine (hkept.invariant h ?_).2
  intro persisted now cartridge _
  exact ⟨rfl, .start ⟨hpos, rfl⟩⟩

end Pockiva
