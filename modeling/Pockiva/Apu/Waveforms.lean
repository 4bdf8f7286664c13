import Pockiva.Apu.Envelopes
import Pockiva.Apu.Oscillators
import Pockiva.Apu.SweepLaw

/-! # The waveforms

What the pulse channels and the wave channel play from a trigger on, in closed form: the
step of the waveform is a quotient of the T-cycles, the volume one of the envelope clocks,
and the length clocks end it, whatever else is done to the unit meanwhile (`waveforms`).
-/
namespace Pockiva

open Transition

variable {M : MixerModel}

/-! ## A trigger of a pulse channel -/

namespace PulseChannel

/-- What a trigger writes: timer and envelope start over. -/
structure Started (c : PulseChannel) : Prop where
  timer : c.timer = c.period
  envelope : c.envelope.Triggered

theorem writeControl_started (c : PulseChannel) {value : Byte} (hvalue : value &&& 0x80 ≠ 0)
    (next : Bool) : (c.writeControl value next).Started := by
  unfold writeControl trigger triggerSweep
  dsimp only
  rw [if_pos (bne_iff_ne.mpr hvalue)]
  cases c.sweep with
  | none => exact ⟨rfl, c.envelope.triggered_trigger⟩
  | some sweep => exact ⟨rfl, c.envelope.triggered_trigger⟩

/-- A trigger keeps the pace of the sweep. -/
theorem writeControl_steady {c : PulseChannel} {value : Byte} (hvalue : value &&& 0x80 ≠ 0)
    (hpace : ∀ s ∈ c.sweep, s.pace = 0) (next : Bool) : (c.writeControl value next).Steady := by
  intro t ht
  rw [(c.writeControl_trigger hvalue next).2] at ht
  obtain ⟨s, hs, rfl⟩ := Option.mem_map.mp ht
  refine .inr ?_
  have hkept : (s.trigger (c.controlFrequency value)).1.pace = s.pace := by
    unfold FrequencySweep.trigger
    dsimp only
    split
    · split <;> rfl
    · rfl
  rw [hkept]
  exact hpace s hs

/-- The level of the waveform at a step. -/
def level (c : PulseChannel) (step : Nat) : Nat :=
  (dutyTable.getD c.duty []).getD ((c.dutyPosition + step) % 8) 0

/-- What a channel that is started plays after some T-cycles and clocks of its envelope. -/
def tone (c : PulseChannel) (cycles clocks : Nat) : Nat :=
  c.level (cycles / c.period) * c.envelope.reached (clocks / c.envelope.reloadPeriod)

/-- What a channel gives out that was started `n` T-cycles ago. -/
theorem output_of_oscillator {c d : PulseChannel} (hc : c.WellFormed) (hd : d.WellFormed)
    (hstarted : c.Started) {n clocks : Nat}
    (h : d.oscillator = PulseChannel.tickTCycle^[n] c.oscillator)
    (hvolume : d.envelope.volume = c.envelope.reached (clocks / c.envelope.reloadPeriod)) :
    d.output = if d.enabled = true then c.tone n clocks else 0 := by
  have hperiod : c.oscillator.period = c.period := rfl
  have htimer : c.oscillator.timer = c.timer := rfl
  have hpositive : 0 < c.oscillator.period := hc.period_pos
  rw [tickTCycle_iterate hpositive (by rwa [htimer, hstarted.timer]) hc.dutyPosition, hperiod,
    htimer, hstarted.timer, Countdown.expiries_reloaded] at h
  have hduty : d.oscillator.duty = c.duty := by
    rw [h]
    rfl
  have hposition : d.oscillator.dutyPosition = (c.dutyPosition + n / c.period) % 8 := by
    rw [h]
    rfl
  change d.duty = c.duty at hduty
  change d.dutyPosition = (c.dutyPosition + n / c.period) % 8 at hposition
  unfold output tone level
  by_cases hplays : d.enabled = true
  · have hdac := hd.playing.dac hplays
    rw [if_neg (by rw [hplays, hdac]; decide), if_pos hplays, hduty, hposition, hvolume]
  · rw [if_pos (.inl (Bool.eq_false_iff.mpr hplays)), if_neg hplays]

/-- The sweep stays idle. -/
theorem Steady.sweepClock {c : PulseChannel} (h : c.Steady) : c.sweepClock = .idle := by
  unfold PulseChannel.sweepClock
  cases hsweep : c.sweep with
  | none => rfl
  | some s => exact (clock_of_still (h s hsweep)).1

end PulseChannel

namespace Apu

theorem oscillates_channel1 :
    Oscillates .channel1 PulseChannel.Steady PulseChannel.tickTCycle
      (fun a : Apu M => a.channel1.oscillator) where
  timed a mirror step phase mixer pcm := rfl
  sequencer a hsteady := by
    have hswept := PulseChannel.oscillator_clockSweep (c := a.clockLengths.channel1) hsteady
    unfold clockFrameSequencer
    dsimp only
    split
    · rfl
    · rfl
    · exact hswept
    · exact hswept
    · rfl
    · rfl
  tickChannels a hon := by
    unfold tickChannels
    rw [if_pos hon]
    exact a.channel1.oscillator_tickTCycle
  writePoweredOn a address value hleaves := by
    have howns : ¬ (0xff10 ≤ address ∧ address ≤ 0xff14) := hleaves.1
    unfold writePoweredOn
    dsimp only
    rw [if_neg howns]
    repeat' split
    all_goals rfl
  valid c hsteady := hsteady.tickTCycle

theorem oscillates_channel2 :
    Oscillates .channel2 (fun _ => True) PulseChannel.tickTCycle
      (fun a : Apu M => a.channel2.oscillator) where
  timed a mirror step phase mixer pcm := rfl
  sequencer a _ := by
    unfold clockFrameSequencer
    dsimp only
    split <;> rfl
  tickChannels a hon := by
    unfold tickChannels
    rw [if_pos hon]
    exact a.channel2.oscillator_tickTCycle
  writePoweredOn a address value hleaves := by
    have howns : ¬ (0xff16 ≤ address ∧ address ≤ 0xff19) := hleaves.1
    unfold writePoweredOn
    dsimp only
    rw [if_neg howns]
    repeat' split
    all_goals rfl
  valid _ _ := trivial

end Apu

/-! ## The wave channel -/

namespace WaveChannel

/-- What the waveform depends on. -/
def oscillator (c : WaveChannel) : WaveChannel :=
  { c with enabled := false, dacEnabled := false, length := .initial }

theorem oscillator_tickTCycle (c : WaveChannel) :
    c.tickTCycle.oscillator = c.oscillator.tickTCycle := by
  unfold tickTCycle
  have htimer : c.oscillator.timer = c.timer := rfl
  rw [htimer]
  split <;> rfl

/-- The nibble of wave RAM at a position. -/
def nibble (waveRam : Bytes 16) (position : Nat) : Nat :=
  if position % 2 = 0 then (waveRam.get (position / 2) >>> 4).toNat
  else (waveRam.get (position / 2) &&& 0x0f).toNat

/-- The sample at a step.  Before the first fetch the buffer has what the last one left. -/
def sample (c : WaveChannel) (step : Nat) : Nat :=
  if step = 0 then (c.sampleBuffer >>> 4).toNat else nibble c.waveRam (step % 32)

/-- A fetch. -/
def fetch (waveRam : Bytes 16) (state : Nat × Byte) : Nat × Byte :=
  ((state.1 + 1) % 32, waveRam.get ((state.1 + 1) % 32 / 2))

theorem fetch_iterate (waveRam : Bytes 16) (buffer : Byte) (n : Nat) :
    (fetch waveRam)^[n] (0, buffer) =
      (n % 32, if n = 0 then buffer else waveRam.get (n % 32 / 2)) := by
  induction n with
  | zero => rfl
  | succ n ih =>
    rw [Function.iterate_succ_apply', ih, fetch, if_neg (Nat.succ_ne_zero n), Nat.mod_add_mod]

/-- What a trigger writes. -/
structure Started (c : WaveChannel) : Prop where
  position : c.position = 0
  timer : c.timer = c.period + 6

theorem writeControl_started (c : WaveChannel) {value : Byte} (hvalue : value &&& 0x80 ≠ 0)
    (next : Bool) : (c.writeControl value next).Started := by
  unfold writeControl
  rw [if_pos (bne_iff_ne.mpr hvalue)]
  exact ⟨rfl, rfl⟩

/-- The reading of the countdown, the position and the buffer. -/
def state (c : WaveChannel) : Nat × Nat × Byte := (c.timer, c.position, c.sampleBuffer)

/-- **The wave channel after any number of T-cycles.** -/
theorem tickTCycle_iterate {c : WaveChannel} (hc : c.WellFormed) (hstarted : c.Started)
    (n : Nat) :
    let d := WaveChannel.tickTCycle^[n] c
    d.state = (Countdown.remaining c.period (c.period + 6) n, (n - 6) / c.period % 32,
        if (n - 6) / c.period = 0 then c.sampleBuffer
        else c.waveRam.get ((n - 6) / c.period % 32 / 2)) ∧
      d.waveRam = c.waveRam ∧ d.outputLevel = c.outputLevel ∧ d.frequency = c.frequency := by
  have hrun : ∀ n, (WaveChannel.tickTCycle^[n] c).state =
        (Countdown.tick c.period (fetch c.waveRam))^[n] c.state ∧
      (WaveChannel.tickTCycle^[n] c).waveRam = c.waveRam ∧
      (WaveChannel.tickTCycle^[n] c).outputLevel = c.outputLevel ∧
      (WaveChannel.tickTCycle^[n] c).frequency = c.frequency := by
    intro n
    induction n with
    | zero => exact ⟨rfl, rfl, rfl, rfl⟩
    | succ n ih =>
      rw [Function.iterate_succ_apply', Function.iterate_succ_apply']
      generalize WaveChannel.tickTCycle^[n] c = d at ih ⊢
      obtain ⟨hstate, hram, hlevel, hfrequency⟩ := ih
      have hperiod : d.period = c.period := by rw [period, period, hfrequency]
      rw [← hstate, ← hram, ← hperiod]
      unfold tickTCycle Countdown.tick state
      dsimp only
      split
      · exact ⟨rfl, rfl, hlevel, hfrequency⟩
      · exact ⟨rfl, rfl, hlevel, hfrequency⟩
  obtain ⟨hstate, hkept⟩ := hrun n
  have hstart : c.state = (c.period + 6, 0, c.sampleBuffer) := by
    rw [state, hstarted.position, hstarted.timer]
  refine ⟨?_, hkept⟩
  have hpositive : 0 < c.period := hc.period_pos
  rw [hstate, hstart, Countdown.tick_iterate hpositive (by omega), Countdown.expiries_delayed,
    fetch_iterate]

/-- What a channel that is started plays after some T-cycles: it starts six of them late. -/
def tone (c : WaveChannel) (cycles : Nat) : Nat :=
  if c.outputLevel = 0 then 0 else c.sample ((cycles - 6) / c.period) >>> (c.outputLevel - 1)

/-- What a channel gives out that was started `n` T-cycles ago. -/
theorem output_of_oscillator {c d : WaveChannel} (hc : c.WellFormed) (hd : d.WellFormed)
    (hstarted : c.Started) {n : Nat}
    (h : d.oscillator = WaveChannel.tickTCycle^[n] c.oscillator) :
    d.output = if d.enabled = true then c.tone n else 0 := by
  have hsilent : c.oscillator.WellFormed :=
    ⟨.initial, hc.frequency, hc.position, hc.outputLevel⟩
  obtain ⟨hstate, hram, hlevel, hfrequency⟩ :=
    tickTCycle_iterate hsilent ⟨hstarted.position, hstarted.timer⟩ n
  rw [← h] at hstate hram hlevel hfrequency
  have hposition : d.position = (n - 6) / c.period % 32 := congrArg (·.2.1) hstate
  have hbuffer : d.sampleBuffer = if (n - 6) / c.period = 0 then c.sampleBuffer
      else c.waveRam.get ((n - 6) / c.period % 32 / 2) := congrArg (·.2.2) hstate
  have hlevel : d.outputLevel = c.outputLevel := hlevel
  unfold output tone
  rw [hlevel]
  by_cases hplays : d.enabled = true
  · have hdac := hd.playing.dac hplays
    rw [if_pos hplays]
    by_cases hmuted : c.outputLevel = 0
    · rw [if_pos (.inr (.inr hmuted)), if_pos hmuted]
    · rw [if_neg (by rw [hplays, hdac]; simpa using hmuted), if_neg hmuted, hposition, hbuffer]
      unfold sample nibble
      by_cases hfirst : (n - 6) / c.period = 0
      · rw [hfirst]
        rfl
      · rw [if_neg hfirst, if_neg hfirst]
        dsimp only
        split <;> rfl
  · rw [if_pos (.inl (Bool.eq_false_iff.mpr hplays)), if_neg hplays]

/-- What wave RAM shows while the channel plays: the byte of the next fetch, for one
T-cycle of each period. -/
theorem readWaveRam_of_oscillator {c d : WaveChannel} (hc : c.WellFormed) (hstarted : c.Started)
    {n : Nat} (h : d.oscillator = WaveChannel.tickTCycle^[n] c.oscillator)
    (hplays : d.enabled = true) (address : Word) :
    d.readWaveRam address =
      if Countdown.remaining c.period (c.period + 6) n = cpuReadTCycles then
        c.waveRam.get (((n - 6) / c.period + 1) % 32 / 2)
      else 0xff := by
  have hsilent : c.oscillator.WellFormed :=
    ⟨.initial, hc.frequency, hc.position, hc.outputLevel⟩
  obtain ⟨hstate, hram, -, -⟩ :=
    tickTCycle_iterate hsilent ⟨hstarted.position, hstarted.timer⟩ n
  rw [← h] at hstate hram
  have htimer : d.timer = Countdown.remaining c.period (c.period + 6) n := congrArg (·.1) hstate
  have hposition : d.position = (n - 6) / c.period % 32 := congrArg (·.2.1) hstate
  have hram : d.waveRam = c.waveRam := hram
  unfold readWaveRam
  rw [if_neg (by rw [hplays]; decide), htimer, hposition, hram, Nat.mod_add_mod]

end WaveChannel

namespace Apu

theorem oscillates_channel3 :
    Oscillates .channel3 (fun _ => True) WaveChannel.tickTCycle
      (fun a : Apu M => a.channel3.oscillator) where
  timed a mirror step phase mixer pcm := rfl
  sequencer a _ := by
    unfold clockFrameSequencer
    dsimp only
    split <;> rfl
  tickChannels a hon := by
    unfold tickChannels
    rw [if_pos hon]
    exact a.channel3.oscillator_tickTCycle
  writePoweredOn a address value hleaves := by
    have howns : ¬ (0xff1a ≤ address ∧ address ≤ 0xff1e) := hleaves.1
    have hram : ¬ (0xff30 ≤ address ∧ address ≤ 0xff3f) := fun hin => hleaves.2 ⟨rfl, hin⟩
    unfold writePoweredOn
    dsimp only
    rw [if_neg howns, if_neg hram]
    repeat' split
    all_goals rfl
  valid _ _ := trivial

/-! ## From a trigger on -/

/-- A sweep that stays idle does not silence its channel. -/
theorem silencedBySweep_steady {a : Apu M} (hon : a.masterEnabled = true)
    (hsteady : a.channel1.oscillator.Steady) {ops : List Op}
    (hops : ∀ op ∈ ops, op.Leaves .channel1) : a.silencedBySweep .channel1 ops = false := by
  induction ops using List.reverseRecOn with
  | nil => rfl
  | append_singleton ops op ih =>
    have hbefore : ∀ op ∈ ops, op.Leaves .channel1 := fun op hop =>
      hops op (List.mem_append_left _ hop)
    have hstays := oscillates_channel1.valid_play hon hsteady hbefore
    have hidle : (a.play ops).channel1.sweepClock = .idle :=
      ((PulseChannel.steady_oscillator _).mp hstays).sweepClock
    rw [silencedBySweep_snoc, ih hbefore, sweepSilences, hidle]
    exact Bool.and_false _

/-- No other channel has a sweep. -/
theorem silencedBySweep_other (a : Apu M) {ch : Channel} (h : ch ≠ .channel1) (ops : List Op) :
    a.silencedBySweep ch ops = false := by
  unfold silencedBySweep sweepSilences
  rw [List.any_eq_false]
  intro step _
  rw [decide_eq_false h, Bool.and_false, Bool.false_and]
  exact Bool.false_ne_true

/-- A channel plays on after a run: the length clocks have not used up its counter, if that
runs. -/
def sounding (a : Apu M) (ch : Channel) (ops : List Op) : Bool :=
  (a.gate ch).active &&
    (!(a.gate ch).counting || decide (a.lengthClocks ops < (a.gate ch).remaining))

theorem play_active {a : Apu M} (h : a.WellFormed) {ch : Channel} {ops : List Op}
    (hops : ∀ op ∈ ops, op.Spares ch) (hquiet : a.silencedBySweep ch ops = false) :
    ((a.play ops).gate ch).active = a.sounding ch ops := by
  unfold sounding
  cases hcounting : (a.gate ch).counting with
  | false =>
    rw [a.play_gate_off hops hcounting, hquiet, Gate.silenceIf_false, Bool.not_false, Bool.true_or,
      Bool.and_true]
  | true =>
    rw [a.play_gate_eq hops hcounting, hquiet, Bool.not_false, Bool.and_true, Bool.not_true,
      Bool.false_or]
    cases hactive : (a.gate ch).active with
    | false => rfl
    | true => rw [decide_eq_false (remaining_ne_zero h hactive hcounting), Bool.false_or]

/-- **The waveforms** of the three channels that play a tone, from a trigger on and through
any operations that leave the registers of the channel alone: the step of the waveform is
how often the period fits into the T-cycles, and the volume has moved as often as the pace
fits into the envelope clocks. -/
structure WaveformLaw (a : Apu M) (value : Byte) : Prop where
  /-- What the trigger makes of the channel and its length counter. -/
  trigger : ∀ ch : Channel,
    (a.write ch.control value).gate ch =
      (a.gate ch).writeControl ch.maxLength (value &&& 0x40 != 0) true a.nextStepClocksLength
        (a.starts value ch)
  /-- Channel 1, with no pace for the sweep. -/
  channel1 : (∀ s ∈ a.channel1.sweep, s.pace = 0) →
    ∀ ops : List Op, (∀ op ∈ ops, op.Leaves .channel1) →
      let b := a.write 0xff14 value
      (b.play ops).channel1.output =
        if b.sounding .channel1 ops then b.channel1.tone (tCycles ops) (b.envelopeClocks ops) else 0
  channel2 : ∀ ops : List Op, (∀ op ∈ ops, op.Leaves .channel2) →
    let b := a.write 0xff19 value
    (b.play ops).channel2.output =
      if b.sounding .channel2 ops then b.channel2.tone (tCycles ops) (b.envelopeClocks ops) else 0
  channel3 : ∀ ops : List Op, (∀ op ∈ ops, op.Leaves .channel3) →
    let b := a.write 0xff1e value
    (b.play ops).channel3.output =
      if b.sounding .channel3 ops then b.channel3.tone (tCycles ops) else 0
  /-- What the processor reads from wave RAM meanwhile. -/
  waveRam : ∀ ops : List Op, (∀ op ∈ ops, op.Leaves .channel3) →
    let b := a.write 0xff1e value
    let c := b.channel3
    b.sounding .channel3 ops = true → ∀ address, inWaveRam address →
      (b.play ops).read address =
        if Countdown.remaining c.period (c.period + 6) (tCycles ops) = cpuReadTCycles then
          c.waveRam.get (((tCycles ops - 6) / c.period + 1) % 32 / 2)
        else 0xff

section Trigger
variable {a : Apu M} {value : Byte}

theorem write_ff19 (hon : a.masterEnabled = true) (value : Byte) :
    (a.write 0xff19 value).channel2 = a.channel2.writeControl value a.nextStepClocksLength := by
  unfold write
  rw [if_neg (by decide), if_neg (by decide), if_pos hon]
  rfl

theorem write_ff1e (hon : a.masterEnabled = true) (value : Byte) :
    (a.write 0xff1e value).channel3 = a.channel3.writeControl value a.nextStepClocksLength := by
  unfold write
  rw [if_neg (by decide), if_neg (by decide), if_pos hon]
  rfl

/-- A read of wave RAM. -/
theorem read_waveRam (a : Apu M) {address : Word} (h : inWaveRam address) :
    a.read address = a.channel3.readWaveRam address := by
  obtain ⟨hfirst, hlast⟩ := h
  unfold read
  rw [if_neg (by bv_omega), if_neg (by bv_omega), if_neg (by bv_omega), if_neg (by bv_omega),
    if_neg (by bv_omega), if_neg (by bv_omega), if_neg (by bv_omega), if_pos ⟨hfirst, hlast⟩]

theorem waveforms {sampleRate : Nat} (h : Reachable (Apu.system M sampleRate) a)
    (hon : a.masterEnabled = true) (hvalue : value &&& 0x80 ≠ 0) : a.WaveformLaw value := by
  have hwell : ∀ address ops, ((a.write address value).play ops).WellFormed := fun address ops =>
    wellFormed_of_reachable (reachable_play (h.ofNext (.write address value)) ops)
  have hpowered : ∀ {address : Word}, address ≠ 0xff26 →
      (a.write address value).masterEnabled = true := fun hne =>
    (a.write_masterEnabled hne value).trans hon
  have hspared : ∀ {ch : Channel} {ops : List Op}, (∀ op ∈ ops, op.Leaves ch) →
      ∀ op ∈ ops, op.Spares ch := fun hops op hop => (hops op hop).spares
  have hwave : ∀ {ops : List Op}, (∀ op ∈ ops, op.Leaves .channel3) →
      ((a.write 0xff1e value).play ops).channel3.oscillator =
        WaveChannel.tickTCycle^[tCycles ops] (a.write 0xff1e value).channel3.oscillator :=
    fun hops => oscillates_channel3.play (hpowered (by decide)) trivial hops
  have hstarted : (a.write 0xff1e value).channel3.Started := by
    rw [write_ff1e hon]
    exact a.channel3.writeControl_started hvalue _
  have hsounding : ∀ {ops : List Op}, (∀ op ∈ ops, op.Leaves .channel3) →
      ((a.write 0xff1e value).play ops).channel3.enabled =
        (a.write 0xff1e value).sounding .channel3 ops := fun {ops} hops =>
    play_active (hwell 0xff1e []) (hspared hops) (silencedBySweep_other _ (by decide) ops)
  constructor
  case trigger =>
    intro ch
    rw [write_gate hon, bne_iff_ne.mpr hvalue]
  case channel1 =>
    intro hpace ops hops b
    have hb : b.WellFormed := hwell 0xff14 []
    have hwritten : b.channel1 = a.channel1.writeControl value a.nextStepClocksLength :=
      write_ff14 hon value
    have hstarted : b.channel1.Started := by
      rw [hwritten]
      exact a.channel1.writeControl_started hvalue _
    have hsteady : b.channel1.oscillator.Steady := by
      rw [PulseChannel.steady_oscillator, hwritten]
      exact PulseChannel.writeControl_steady hvalue hpace _
    -- without a pace the sweep does not end the tone either, which leaves the length clocks
    have hactive : (b.play ops).channel1.enabled = b.sounding .channel1 ops :=
      play_active hb (hspared hops) (silencedBySweep_steady (hpowered (by decide)) hsteady hops)
    have hvolume := play_volume hb .channel1 hstarted.envelope (hspared hops)
    rw [PulseChannel.output_of_oscillator hb.channel1 (hwell 0xff14 ops).channel1 hstarted
      (oscillates_channel1.play (hpowered (by decide)) hsteady hops) hvolume, hactive]
  case channel2 =>
    intro ops hops b
    have hb : b.WellFormed := hwell 0xff19 []
    have hstarted : b.channel2.Started := by
      rw [show b.channel2 = _ from write_ff19 hon value]
      exact a.channel2.writeControl_started hvalue _
    have hactive : (b.play ops).channel2.enabled = b.sounding .channel2 ops :=
      play_active hb (hspared hops) (silencedBySweep_other b (by decide) ops)
    have hvolume := play_volume hb .channel2 hstarted.envelope (hspared hops)
    rw [PulseChannel.output_of_oscillator hb.channel2 (hwell 0xff19 ops).channel2 hstarted
      (oscillates_channel2.play (hpowered (by decide)) trivial hops) hvolume, hactive]
  case channel3 =>
    intro ops hops b
    rw [WaveChannel.output_of_oscillator (hwell 0xff1e []).channel3 (hwell 0xff1e ops).channel3
      hstarted (hwave hops), hsounding hops]
    rfl
  case waveRam =>
    intro ops hops b c hplays address hin
    rw [read_waveRam _ hin]
    exact WaveChannel.readWaveRam_of_oscillator (hwell 0xff1e []).channel3 hstarted (hwave hops)
      ((hsounding hops).trans hplays) address

/-- A channel that is triggered with its length counter running and its volume going up. -/
theorem waveforms_rising :
    let a : Apu .mute := (Apu.new 44100).write 0xff12 0x9b
    let b := a.write 0xff14 0xc7
    (∀ s ∈ a.channel1.sweep, s.pace = 0) ∧ b.sounding .channel1 [] = true ∧
      b.channel1.tone 0 0 = 9 ∧ b.channel1.tone 0 12 = 13 ∧ b.channel1.tone 0 30 = 15 ∧
      a.WaveformLaw 0xc7 := by
  have hnew : Reachable (Apu.system .mute 44100) (Apu.new 44100) := .start ⟨by decide, rfl⟩
  exact ⟨by decide, by decide, by decide, by decide, by decide,
    waveforms (hnew.ofNext (.write 0xff12 0x9b)) (by decide) (by decide)⟩

end Trigger

end Apu

end Pockiva
