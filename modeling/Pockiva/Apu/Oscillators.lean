import Pockiva.Apu.Sweep
import Pockiva.Lib.Countdown

/-! # The oscillators

The part of a channel that makes its waveform: the timer and what the timer moves along.
A T-cycle ticks it, whether the channel plays or not; length, envelope, mixer and the
other channels leave it alone (`Oscillates.play`).
-/
namespace Pockiva

variable {M : MixerModel}

/-! ## What leaves an oscillator alone -/

/-- Wave RAM. -/
def inWaveRam (address : Word) : Prop := 0xff30 ≤ address ∧ address ≤ 0xff3f

/-- The addresses whose writes the oscillator of a channel takes no notice of. -/
def Channel.Leaves (ch : Channel) (address : Word) : Prop :=
  ¬ ch.Owns address ∧ ¬ (ch = .channel3 ∧ inWaveRam address)

instance (ch : Channel) : DecidablePred ch.Leaves := fun address => by
  unfold Channel.Leaves inWaveRam
  infer_instance

namespace Apu

/-- The operation writes neither what the oscillator of a channel looks at nor NR52. -/
def Op.Leaves (ch : Channel) : Op → Prop
  | .write address _ => ch.Leaves address ∧ address ≠ 0xff26
  | .tickTCycle => True
  | .drainAudio => True

instance (ch : Channel) : DecidablePred (Op.Leaves ch)
  | .write address _ => inferInstanceAs (Decidable (ch.Leaves address ∧ address ≠ 0xff26))
  | .tickTCycle => instDecidableTrue
  | .drainAudio => instDecidableTrue

theorem Op.Leaves.spares {ch : Channel} {op : Op} (h : op.Leaves ch) : op.Spares ch := by
  cases op with
  | write address value => exact ⟨h.1.1, h.2⟩
  | tickTCycle => trivial
  | drainAudio => trivial

/-- The T-cycles of a run. -/
def tCycles (ops : List Op) : Nat := ops.countP fun op => op = .tickTCycle

/-- A reading of the unit that only a T-cycle changes, by `step`, while what is read stays
`Valid` and nothing the channel looks at is written. -/
structure Oscillates {α : Type} (ch : Channel) (Valid : α → Prop) (step : α → α)
    (reading : Apu M → α) : Prop where
  timed : ∀ (a : Apu M) mirror step phase mixer pcm,
    reading { a with
      dividerMirror := mirror
      frameStep := step
      samplePhase := phase
      mixer := mixer
      pcm := pcm } = reading a
  sequencer : ∀ a : Apu M, Valid (reading a) → reading a.clockFrameSequencer = reading a
  tickChannels : ∀ a : Apu M, a.masterEnabled = true →
    reading a.tickChannels = step (reading a)
  writePoweredOn : ∀ (a : Apu M) address value, ch.Leaves address →
    reading (a.writePoweredOn address value) = reading a
  valid : ∀ r, Valid r → Valid (step r)

namespace Oscillates
variable {α : Type} {ch : Channel} {Valid : α → Prop} {step : α → α} {reading : Apu M → α}

theorem followed (h : Oscillates ch Valid step reading) {a : Apu M} (hvalid : Valid (reading a))
    (old new : Word) : reading (a.followed old new) = reading a := by
  unfold Apu.followed
  split
  · rw [clockFrameSequencer_mirror]
    exact (h.timed a.clockFrameSequencer new _ _ _ _).trans (h.sequencer a hvalid)
  · exact h.timed a new _ _ _ _

/-- A T-cycle is one step. -/
theorem tickTCycle (h : Oscillates ch Valid step reading) {a : Apu M}
    (hon : a.masterEnabled = true) (hvalid : Valid (reading a)) :
    reading a.tickTCycle = step (reading a) := by
  obtain ⟨samplePhase, mixer, heq⟩ := afterFrames_eq (a.clocked.samplePhase / dmgClockHz) a.clocked
  have hdivider : reading a.tickDivider = reading a := by
    rw [tickDivider_eq]
    exact h.followed hvalid _ _
  have hmaster : a.tickDivider.masterEnabled = true := by
    rw [tickDivider_eq, Apu.followed]
    split
    · exact (clockFrameSequencer_masterEnabled _).trans hon
    · exact hon
  rw [tickTCycle_eq, heq, ← hdivider, ← h.tickChannels a.tickDivider hmaster]
  exact h.timed a.tickDivider.tickChannels _ _ samplePhase mixer _

/-- **What an operation does to an oscillator**: a T-cycle is one step, and nothing else
moves it. -/
theorem apply (h : Oscillates ch Valid step reading) {a : Apu M} (hon : a.masterEnabled = true)
    (hvalid : Valid (reading a)) {op : Op} (hop : op.Leaves ch) :
    reading (a.apply op) = if op = .tickTCycle then step (reading a) else reading a := by
  cases op with
  | tickTCycle => exact h.tickTCycle hon hvalid
  | drainAudio => exact h.timed a _ _ _ _ _
  | write address value =>
    obtain ⟨hleaves, h26⟩ := hop
    show reading (a.write address value) = reading a
    unfold Apu.write
    by_cases h4 : address = 0xff04
    · rw [if_pos h4, resetDivider_eq]
      exact h.followed hvalid _ _
    · rw [if_neg h4, if_neg h26, if_pos hon]
      exact h.writePoweredOn a address value hleaves

/-- An operation keeps the power on and the reading valid. -/
theorem kept (h : Oscillates ch Valid step reading) {a : Apu M} (hon : a.masterEnabled = true)
    (hvalid : Valid (reading a)) {op : Op} (hop : op.Leaves ch) :
    (a.apply op).masterEnabled = true ∧ Valid (reading (a.apply op)) := by
  constructor
  · cases op with
    | write address value => exact (a.write_masterEnabled hop.2 value).trans hon
    | tickTCycle => exact a.tickTCycle_masterEnabled.trans hon
    | drainAudio => exact hon
  · rw [h.apply hon hvalid hop]
    split
    · exact h.valid _ hvalid
    · exact hvalid

/-- **What a run does to an oscillator**: one step for each T-cycle. -/
theorem play (h : Oscillates ch Valid step reading) {a : Apu M} (hon : a.masterEnabled = true)
    (hvalid : Valid (reading a)) {ops : List Op} (hops : ∀ op ∈ ops, op.Leaves ch) :
    reading (a.play ops) = step^[tCycles ops] (reading a) := by
  induction ops generalizing a with
  | nil => rfl
  | cons op ops ih =>
    have hop := hops op List.mem_cons_self
    obtain ⟨hmaster, hkept⟩ := h.kept hon hvalid hop
    have hrest := ih hmaster hkept fun op hop => hops op (List.mem_cons_of_mem _ hop)
    refine hrest.trans ?_
    rw [h.apply hon hvalid hop, tCycles, tCycles, List.countP_cons]
    by_cases htick : op = .tickTCycle
    · rw [if_pos htick, if_pos (decide_eq_true htick), Function.iterate_succ_apply]
    · rw [if_neg htick, if_neg (by rwa [decide_eq_true_eq])]
      rfl

/-- A reading that is valid stays so. -/
theorem valid_play (h : Oscillates ch Valid step reading) {a : Apu M}
    (hon : a.masterEnabled = true) (hvalid : Valid (reading a)) {ops : List Op}
    (hops : ∀ op ∈ ops, op.Leaves ch) : Valid (reading (a.play ops)) := by
  rw [h.play hon hvalid hops]
  exact Function.Iterate.rec Valid hvalid h.valid _

end Oscillates

end Apu

/-! ## The pulse channels -/

namespace PulseChannel

/-- What the waveform depends on, with the state of the sweep as far as it may change the
frequency. -/
def oscillator (c : PulseChannel) : PulseChannel :=
  { c with
    enabled := false
    dacEnabled := false
    length := .initial
    envelope := .initial
    sweep := c.sweep.map fun s =>
      { FrequencySweep.initial with enabled := s.enabled, pace := s.pace } }

/-- The sweep does not change the frequency. -/
def Steady (c : PulseChannel) : Prop := ∀ s ∈ c.sweep, s.enabled = false ∨ s.pace = 0

theorem steady_oscillator (c : PulseChannel) : c.oscillator.Steady ↔ c.Steady := by
  constructor
  · intro h s hs
    exact h { FrequencySweep.initial with enabled := s.enabled, pace := s.pace }
      (Option.mem_map.mpr ⟨s, hs, rfl⟩)
  · intro h t ht
    obtain ⟨s, hs, rfl⟩ := Option.mem_map.mp ht
    exact h s hs

theorem oscillator_tickTCycle (c : PulseChannel) :
    c.tickTCycle.oscillator = c.oscillator.tickTCycle := by
  unfold tickTCycle
  have htimer : c.oscillator.timer = c.timer := rfl
  rw [htimer]
  split <;> rfl

/-- A clock of a sweep that is off, or without a pace. -/
theorem clock_of_still {s : FrequencySweep} (h : s.enabled = false ∨ s.pace = 0) :
    s.clock.2 = .idle ∧ s.clock.1.enabled = s.enabled ∧ s.clock.1.pace = s.pace := by
  by_cases hoff : s.enabled = false
  · rw [FrequencySweep.clock_of_disabled hoff]
    exact ⟨rfl, rfl, rfl⟩
  have hpace : s.pace = 0 := h.resolve_left hoff
  unfold FrequencySweep.clock
  rw [if_neg hoff]
  split
  · exact ⟨rfl, rfl, rfl⟩
  · rw [if_pos hpace]
    exact ⟨rfl, rfl, rfl⟩

theorem oscillator_clockSweep {c : PulseChannel} (h : c.oscillator.Steady) :
    c.clockSweep.oscillator = c.oscillator := by
  unfold clockSweep
  cases hsweep : c.sweep with
  | none => rfl
  | some s =>
    obtain ⟨hidle, henabled, hpace⟩ := clock_of_still (c.steady_oscillator.mp h s hsweep)
    dsimp only
    rw [hidle]
    unfold oscillator
    dsimp only
    rw [hsweep, Option.map_some, Option.map_some, henabled, hpace]

theorem Steady.tickTCycle {c : PulseChannel} (h : c.Steady) : c.tickTCycle.Steady := by
  unfold PulseChannel.tickTCycle
  split <;> exact h

/-- **A pulse channel after any number of T-cycles.** -/
theorem tickTCycle_iterate {c : PulseChannel} (hperiod : 0 < c.period) (htimer : 0 < c.timer)
    (hposition : c.dutyPosition < 8) (n : Nat) :
    PulseChannel.tickTCycle^[n] c =
      { c with
        timer := Countdown.remaining c.period c.timer n
        dutyPosition := (c.dutyPosition + Countdown.expiries c.period c.timer n) % 8 } := by
  have hsemiconj : Function.Semiconj
      (fun state : Nat × Nat => { c with timer := state.1, dutyPosition := state.2 })
      (Countdown.tick c.period fun position => (position + 1) % 8) tickTCycle := by
    intro state
    unfold tickTCycle Countdown.tick
    dsimp only
    split <;> rfl
  have hrun := hsemiconj.iterate_right n (c.timer, c.dutyPosition)
  rw [Countdown.tick_iterate hperiod htimer, Countdown.wrap_iterate hposition] at hrun
  exact hrun.symm

end PulseChannel

end Pockiva
