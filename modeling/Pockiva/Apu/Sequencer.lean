import Pockiva.Apu.Power

/-! # A channel that is left alone

While no register of a channel is written, and not NR52, only the frame sequencer does
something to its length, its frequency and its sweep.  `Sheltered` are the readings of the
unit of which this is so: an operation changes them the way a clock of the sequencer does,
or not at all (`Sheltered.apply`).
-/
namespace Pockiva

variable {M : MixerModel}

/-- The four channels. -/
inductive Channel where
  | channel1
  | channel2
  | channel3
  | channel4
deriving DecidableEq, Repr

/-- The registers of a channel, wave RAM aside. -/
def Channel.Owns : Channel → Word → Prop
  | .channel1, address => 0xff10 ≤ address ∧ address ≤ 0xff14
  | .channel2, address => 0xff16 ≤ address ∧ address ≤ 0xff19
  | .channel3, address => 0xff1a ≤ address ∧ address ≤ 0xff1e
  | .channel4, address => 0xff20 ≤ address ∧ address ≤ 0xff23

instance (ch : Channel) : DecidablePred ch.Owns := fun address => by
  cases ch <;> unfold Channel.Owns <;> infer_instance

/-! ## A clock of the sweep -/

/-- The frequency that a clock of the sweep gives to its channel, if it gives one. -/
def SweepClock.written : SweepClock → Option Nat
  | .applied frequency => some frequency
  | .appliedAndDisabled frequency => some frequency
  | .idle => none
  | .disabled => none

/-- The clock of the sweep silences its channel. -/
def SweepClock.silences : SweepClock → Bool
  | .appliedAndDisabled _ => true
  | .disabled => true
  | .applied _ => false
  | .idle => false

/-- What a clock of the sweep would do. -/
def PulseChannel.sweepClock (c : PulseChannel) : SweepClock :=
  match c.sweep with
  | some sweep => sweep.clock.2
  | none => .idle

/-- **A clock of the sweep**: nothing else in the channel changes, but for timers. -/
theorem PulseChannel.clockSweep_eq (c : PulseChannel) :
    c.clockSweep =
      { c with
        sweep := c.sweep.map fun sweep => sweep.clock.1
        frequency := c.sweepClock.written.getD c.frequency
        enabled := c.enabled && !c.sweepClock.silences } := by
  unfold PulseChannel.clockSweep PulseChannel.sweepClock
  cases hsweep : c.sweep with
  | none =>
    cases c
    cases hsweep
    simp [SweepClock.written, SweepClock.silences]
  | some sweep =>
    dsimp only
    cases sweep.clock.2 <;> simp [SweepClock.written, SweepClock.silences]

/-! ## The operations -/

namespace Apu

/-- The operation writes no register of the channel, and not NR52. -/
def Op.Spares (ch : Channel) : Op → Prop
  | .write address _ => ¬ ch.Owns address ∧ address ≠ 0xff26
  | .tickTCycle => True
  | .drainAudio => True

instance (ch : Channel) : DecidablePred (Op.Spares ch)
  | .write address _ => inferInstanceAs (Decidable (¬ ch.Owns address ∧ address ≠ 0xff26))
  | .tickTCycle => instDecidableTrue
  | .drainAudio => instDecidableTrue

/-- The operation clocks the frame sequencer: bit 12 of the divider falls. -/
def clocksSequencer (a : Apu M) : Op → Bool
  | .write address _ => decide (address = 0xff04 ∧ sequencerFalls a.dividerMirror 0)
  | .tickTCycle => decide (sequencerFalls a.dividerMirror (a.dividerMirror + 1))
  | .drainAudio => false

/-- The steps of the sequencer that clock the lengths. -/
def lengthSteps : List Nat := [0, 2, 4, 6]

/-- The steps of the sequencer that clock the sweep. -/
def sweepSteps : List Nat := [2, 6]

/-- The operation clocks the length counters. -/
def clocksLengths (a : Apu M) (op : Op) : Bool :=
  a.clocksSequencer op && decide (a.frameStep ∈ lengthSteps)

/-- The operation clocks the sweep. -/
def clocksSweep (a : Apu M) (op : Op) : Bool :=
  a.clocksSequencer op && decide (a.frameStep ∈ sweepSteps)

/-- Every operation of a run, with the unit before it. -/
def steps : Apu M → List Op → List (Apu M × Op)
  | _, [] => []
  | a, op :: ops => (a, op) :: steps (a.apply op) ops

theorem steps_append (a : Apu M) (ops more : List Op) :
    a.steps (ops ++ more) = a.steps ops ++ (a.play ops).steps more := by
  induction ops generalizing a with
  | nil => rfl
  | cons op ops ih => exact congrArg ((a, op) :: ·) (ih (a.apply op))

/-- The unit after the clock of the frame sequencer that is part of an operation. -/
def sequenced (a : Apu M) (op : Op) : Apu M :=
  if a.clocksSequencer op then a.clockFrameSequencer else a

/-- A reading of the unit that only the frame sequencer and the registers of a channel
change. -/
structure Sheltered {α : Type} (ch : Channel) (reading : Apu M → α) : Prop where
  timed : ∀ (a : Apu M) mirror step phase mixer pcm,
    reading { a with
      dividerMirror := mirror
      frameStep := step
      samplePhase := phase
      mixer := mixer
      pcm := pcm } = reading a
  tickChannels : ∀ a : Apu M, reading a.tickChannels = reading a
  writePoweredOn : ∀ (a : Apu M) address value, ¬ ch.Owns address →
    reading (a.writePoweredOn address value) = reading a
  writePoweredOff : ∀ (a : Apu M) address value, ¬ ch.Owns address →
    reading (a.writePoweredOff address value) = reading a

namespace Sheltered
variable {α : Type} {ch : Channel} {reading : Apu M → α}

theorem resetDivider (h : Sheltered ch reading) (a : Apu M) (value : Byte) :
    reading a.resetDivider = reading (a.sequenced (.write 0xff04 value)) := by
  rw [resetDivider_eq, followed]
  unfold sequenced clocksSequencer
  dsimp only
  by_cases hfalls : sequencerFalls a.dividerMirror 0
  · rw [if_pos hfalls, if_pos (decide_eq_true ⟨rfl, hfalls⟩), clockFrameSequencer_mirror]
    exact h.timed a.clockFrameSequencer 0 _ _ _ _
  · have hstays : ¬ ((0xff04 : Word) = 0xff04 ∧ sequencerFalls a.dividerMirror 0) :=
      fun hboth => hfalls hboth.2
    rw [if_neg hfalls, if_neg (by rw [decide_eq_false hstays]; decide)]
    exact h.timed a 0 _ _ _ _

theorem tickDivider (h : Sheltered ch reading) (a : Apu M) :
    reading a.tickDivider = reading (a.sequenced .tickTCycle) := by
  rw [tickDivider_eq, followed]
  unfold sequenced clocksSequencer
  dsimp only
  by_cases hfalls : sequencerFalls a.dividerMirror (a.dividerMirror + 1)
  · rw [if_pos hfalls, if_pos (decide_eq_true hfalls), clockFrameSequencer_mirror]
    exact h.timed a.clockFrameSequencer _ _ _ _ _
  · rw [if_neg hfalls, if_neg (by rw [decide_eq_false hfalls]; decide)]
    exact h.timed a _ _ _ _ _

theorem tickTCycle (h : Sheltered ch reading) (a : Apu M) :
    reading a.tickTCycle = reading (a.sequenced .tickTCycle) := by
  obtain ⟨samplePhase, mixer, heq⟩ := afterFrames_eq (a.clocked.samplePhase / dmgClockHz) a.clocked
  rw [tickTCycle_eq, heq, ← h.tickDivider, ← h.tickChannels a.tickDivider]
  exact h.timed a.tickDivider.tickChannels _ _ samplePhase mixer _

/-- **What an operation does to such a reading**: the clock of the frame sequencer. -/
theorem apply (h : Sheltered ch reading) (a : Apu M) {op : Op} (hop : op.Spares ch) :
    reading (a.apply op) = reading (a.sequenced op) := by
  cases op with
  | tickTCycle => exact h.tickTCycle a
  | drainAudio => exact h.timed a _ _ _ _ _
  | write address value =>
    obtain ⟨howns, h26⟩ := hop
    by_cases h4 : address = 0xff04
    · subst h4
      exact h.resetDivider a value
    have hstill : a.sequenced (.write address value) = a := by
      have hidle : a.clocksSequencer (.write address value) = false :=
        decide_eq_false fun hboth => h4 hboth.1
      rw [sequenced, hidle]
      rfl
    rw [hstill]
    show reading (a.write address value) = reading a
    unfold Apu.write
    rw [if_neg h4, if_neg h26]
    split
    · exact h.writePoweredOn a address value howns
    · exact h.writePoweredOff a address value howns

end Sheltered

end Apu

end Pockiva
