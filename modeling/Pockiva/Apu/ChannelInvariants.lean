import Pockiva.Apu.Channels

/-! # What holds of a sound channel

The four channels have one part in common: the flag that says whether the channel
plays, its DAC and its length counter.  A dozen places change the flag; what they keep
is stated once (`Playing`), and each place is one lemma about it.  The other fields are
counters and frequencies with a bound each.
-/
namespace Pockiva

/-! ## The gate of a channel -/

/-- A channel that plays has its DAC on, and its length counter has not run out. -/
structure Playing {max : Nat} (enabled dacEnabled : Bool) (length : LengthCounter max) : Prop where
  bounded : length.remaining ≤ max
  dac : enabled = true → dacEnabled = true
  remains : enabled = true → length.enabled = true → length.remaining ≠ 0

namespace Playing
variable {max : Nat} {enabled dacEnabled : Bool} {l : LengthCounter max}

/-- A channel can be silenced at any time. -/
theorem silence (h : Playing enabled dacEnabled l) : Playing false dacEnabled l :=
  ⟨h.bounded, nofun, nofun⟩

theorem silence_if (h : Playing enabled dacEnabled l) (b : Bool) :
    Playing (if b = true then false else enabled) dacEnabled l := by
  cases b with
  | true => exact h.silence
  | false => exact h

/-- A channel that starts over. -/
theorem initial : Playing false dacEnabled (LengthCounter.initial : LengthCounter max) :=
  ⟨Nat.zero_le max, nofun, nofun⟩

/-- A write to the register of the DAC. -/
theorem setDac (h : Playing enabled dacEnabled l) (dac : Bool) :
    Playing (if dac = true then enabled else false) dac l := by
  cases dac with
  | true => exact ⟨h.bounded, fun _ => rfl, h.remains⟩
  | false => exact ⟨h.bounded, nofun, nofun⟩

/-- A load leaves at least one step. -/
theorem load (hmax : 0 < max) (h : Playing enabled dacEnabled l) (raw : Byte) :
    Playing enabled dacEnabled (l.load raw) := by
  have hraw : raw.toNat &&& (max - 1) ≤ max - 1 := Nat.and_le_right
  refine ⟨Nat.sub_le _ _, h.dac, ?_⟩
  intro _ _
  show max - (raw.toNat &&& (max - 1)) ≠ 0
  omega

/-- The length enable.  The extra clock can use the counter up: the channel then falls
silent. -/
theorem setEnabled (h : Playing enabled dacEnabled l) (on next : Bool) :
    Playing (if (l.setEnabled on next enabled).2 = true then false else enabled) dacEnabled
      (l.setEnabled on next enabled).1 := by
  have hbound : (l.setEnabled on next enabled).1.remaining ≤ max := by
    have hl := h.bounded
    unfold LengthCounter.setEnabled
    dsimp only
    split
    · omega
    · exact hl
  have hon : (l.setEnabled on next enabled).1.enabled = on := rfl
  have hsilent : (l.setEnabled on next enabled).2 =
      (enabled && on && (l.setEnabled on next enabled).1.remaining == 0) := rfl
  by_cases hresult : (l.setEnabled on next enabled).2 = true
  · rw [if_pos hresult]
    exact ⟨hbound, nofun, nofun⟩
  · rw [if_neg hresult]
    refine ⟨hbound, h.dac, ?_⟩
    intro henabled hl hzero
    rw [hon] at hl
    refine hresult ?_
    rw [hsilent, hzero, henabled, hl]
    rfl

/-- A trigger leaves at least one step and follows the DAC. -/
theorem trigger (hmax : 1 < max) (h : Playing enabled dacEnabled l) (next : Bool) :
    Playing dacEnabled dacEnabled (l.trigger next).1 := by
  have hl := h.bounded
  have hremaining : (l.trigger next).1.remaining ≤ max ∧ (l.trigger next).1.remaining ≠ 0 := by
    unfold LengthCounter.trigger
    dsimp only
    by_cases hzero : l.remaining = 0
    · rw [if_pos hzero]
      dsimp only
      split <;> omega
    · rw [if_neg hzero]
      exact ⟨hl, hzero⟩
  exact ⟨hremaining.1, id, fun _ _ => hremaining.2⟩

/-- A clock of the length counter silences the channel when it uses the counter up. -/
theorem clock (h : Playing enabled dacEnabled l) :
    Playing (if l.clock.2 = true then false else enabled) dacEnabled l.clock.1 := by
  have hl := h.bounded
  unfold LengthCounter.clock
  by_cases hstill : l.enabled = false ∨ l.remaining = 0
  · rw [if_pos hstill]
    exact h
  rw [if_neg hstill]
  dsimp only
  by_cases hlast : (l.remaining - 1 == 0) = true
  · rw [if_pos hlast]
    exact ⟨by dsimp only; omega, nofun, nofun⟩
  · rw [if_neg hlast]
    refine ⟨by dsimp only; omega, h.dac, ?_⟩
    intro _ _ hzero
    exact hlast (beq_iff_eq.mpr hzero)

end Playing

/-! ## Envelope and sweep -/

namespace VolumeEnvelope

structure WellFormed (e : VolumeEnvelope) : Prop where
  initialVolume : e.initialVolume ≤ 15
  currentVolume : e.currentVolume ≤ 15

theorem WellFormed.initial : VolumeEnvelope.initial.WellFormed := ⟨Nat.zero_le _, Nat.zero_le _⟩

theorem WellFormed.write {e : VolumeEnvelope} (h : e.WellFormed) (value : Byte) :
    (e.write value).WellFormed := by
  refine ⟨?_, h.currentVolume⟩
  show (value >>> 4).toNat ≤ 15
  bv_omega

theorem WellFormed.trigger {e : VolumeEnvelope} (h : e.WellFormed) : e.trigger.WellFormed :=
  ⟨h.initialVolume, h.initialVolume⟩

theorem nextVolume_le {e : VolumeEnvelope} (h : e.currentVolume ≤ 15) {next : Nat}
    (hnext : e.nextVolume = some next) : next ≤ 15 := by
  unfold nextVolume at hnext
  split at hnext <;> split at hnext
  · cases hnext
    assumption
  · cases hnext
  · cases hnext
    omega
  · cases hnext

theorem WellFormed.clock {e : VolumeEnvelope} (h : e.WellFormed) : e.clock.WellFormed := by
  unfold VolumeEnvelope.clock
  split
  · exact h
  split
  · exact ⟨h.initialVolume, h.currentVolume⟩
  split
  case _ next hnext => exact ⟨h.initialVolume, nextVolume_le h.currentVolume hnext⟩
  case _ => exact ⟨h.initialVolume, h.currentVolume⟩

theorem reloadPeriod_pos (e : VolumeEnvelope) : 1 ≤ e.reloadPeriod := by
  unfold reloadPeriod
  split <;> omega

end VolumeEnvelope

/-- The frequency that a clock of the sweep gives to its channel. -/
def SweepClock.Below (bound : Nat) : SweepClock → Prop
  | .applied frequency => frequency ≤ bound
  | .appliedAndDisabled frequency => frequency ≤ bound
  | .idle => True
  | .disabled => True

namespace FrequencySweep

theorem reloadPeriod_pos (s : FrequencySweep) : 1 ≤ s.reloadPeriod := by
  unfold reloadPeriod
  split <;> omega

theorem calculate_le {s : FrequencySweep} {frequency : Nat} (h : s.calculate = some frequency) :
    frequency ≤ 2047 := by
  unfold calculate at h
  dsimp only at h
  split at h <;> split at h
  · cases h
    exact (by assumption : _ ∧ _).2
  · cases h
  · cases h
    assumption
  · cases h

/-- A trigger takes over the frequency of the channel. -/
theorem trigger_shadowFrequency (s : FrequencySweep) (frequency : Nat) :
    (s.trigger frequency).1.shadowFrequency = frequency := by
  unfold trigger
  dsimp only
  split
  · split <;> rfl
  · rfl

theorem apply_le {s : FrequencySweep} (h : s.shadowFrequency ≤ 2047) :
    s.apply.1.shadowFrequency ≤ 2047 ∧ s.apply.2.Below 2047 := by
  unfold apply
  cases hcalculate : s.calculate with
  | none => exact ⟨h, trivial⟩
  | some frequency =>
    have hfrequency := calculate_le hcalculate
    dsimp only
    split
    · exact ⟨h, trivial⟩
    · split <;> exact ⟨hfrequency, hfrequency⟩

theorem clock_le {s : FrequencySweep} (h : s.shadowFrequency ≤ 2047) :
    s.clock.1.shadowFrequency ≤ 2047 ∧ s.clock.2.Below 2047 := by
  unfold clock
  split
  · exact ⟨h, trivial⟩
  split
  · exact ⟨h, trivial⟩
  dsimp only
  split
  · exact ⟨h, trivial⟩
  · exact apply_le h

end FrequencySweep

/-! ## The pulse channels -/

/-- The low byte of a frequency is replaced. -/
theorem frequency_low_le (frequency : Nat) (value : Byte) :
    (frequency &&& 0x0700) ||| value.toNat ≤ 2047 := by
  have hhigh : frequency &&& 0x0700 < 2 ^ 11 :=
    Nat.lt_of_le_of_lt Nat.and_le_right (by decide)
  have hlow : value.toNat < 2 ^ 11 := Nat.lt_of_lt_of_le value.isLt (by decide)
  exact Nat.le_of_lt_succ (Nat.or_lt_two_pow hhigh hlow)

/-- The high bits of a frequency are replaced. -/
theorem frequency_high_le (frequency : Nat) (value : Byte) :
    (frequency &&& 0x00ff) ||| ((value &&& 0x07).toNat <<< 8) ≤ 2047 := by
  have hlow : frequency &&& 0x00ff < 2 ^ 11 :=
    Nat.lt_of_le_of_lt Nat.and_le_right (by decide)
  have hbits : (value &&& 0x07).toNat ≤ 7 := by
    rw [BitVec.toNat_and]
    exact Nat.and_le_right
  have hhigh : (value &&& 0x07).toNat <<< 8 < 2 ^ 11 := by
    rw [Nat.shiftLeft_eq]
    omega
  exact Nat.le_of_lt_succ (Nat.or_lt_two_pow hlow hhigh)

namespace PulseChannel

structure WellFormed (c : PulseChannel) : Prop where
  playing : Playing c.enabled c.dacEnabled c.length
  duty : c.duty < 4
  dutyPosition : c.dutyPosition < 8
  frequency : c.frequency ≤ 2047
  envelope : c.envelope.WellFormed
  sweep : ∀ s ∈ c.sweep, s.shadowFrequency ≤ 2047

namespace WellFormed
variable {c : PulseChannel}

theorem new (hasSweep : Bool) : (PulseChannel.new hasSweep).WellFormed where
  playing := .initial
  duty := Nat.zero_lt_succ _
  dutyPosition := Nat.zero_lt_succ _
  frequency := Nat.zero_le _
  envelope := .initial
  sweep := by
    intro s hs
    cases hasSweep with
    | true =>
      cases hs
      decide
    | false => cases hs

theorem triggerSweep (h : c.WellFormed) : c.triggerSweep.WellFormed := by
  unfold PulseChannel.triggerSweep
  cases hsweep : c.sweep with
  | none => exact h
  | some sweep =>
    dsimp only
    have hshadow : ∀ s ∈ some (sweep.trigger c.frequency).1, s.shadowFrequency ≤ 2047 := by
      intro s hs
      cases hs
      rw [FrequencySweep.trigger_shadowFrequency]
      exact h.frequency
    refine ⟨?_, h.duty, h.dutyPosition, h.frequency, h.envelope, hshadow⟩
    split
    · exact h.playing.silence
    · exact h.playing

theorem trigger (h : c.WellFormed) (next : Bool) : (c.trigger next).WellFormed := by
  have hplaying := h.playing.trigger (by decide) next
  have hstarted : ({ c with
      length := (c.length.trigger next).1
      timer := c.period
      envelope := c.envelope.trigger
      enabled := c.dacEnabled } : PulseChannel).WellFormed :=
    ⟨hplaying, h.duty, h.dutyPosition, h.frequency, h.envelope.trigger, h.sweep⟩
  exact hstarted.triggerSweep

theorem writeControl (h : c.WellFormed) (value : Byte) (next : Bool) :
    (c.writeControl value next).WellFormed := by
  have hplaying := h.playing.setEnabled (value &&& 0x40 != 0) next
  have hfrequency := frequency_high_le c.frequency value
  have hwritten : ({ c with
      frequency := (c.frequency &&& 0x00ff) ||| ((value &&& 0x07).toNat <<< 8)
      length := (c.length.setEnabled (value &&& 0x40 != 0) next c.enabled).1
      enabled := if (c.length.setEnabled (value &&& 0x40 != 0) next c.enabled).2 then false
        else c.enabled } : PulseChannel).WellFormed :=
    ⟨hplaying, h.duty, h.dutyPosition, hfrequency, h.envelope, h.sweep⟩
  unfold PulseChannel.writeControl
  dsimp only
  split
  · exact hwritten.trigger next
  · exact hwritten

theorem writeSweep (h : c.WellFormed) {sweep : FrequencySweep} (hsweep : c.sweep = some sweep)
    (value : Byte) :
    ({ c with
      sweep := some (sweep.write value).1
      enabled := if (sweep.write value).2 then false else c.enabled } :
        PulseChannel).WellFormed := by
  have hshadow : sweep.shadowFrequency ≤ 2047 := h.sweep sweep hsweep
  refine ⟨h.playing.silence_if _, h.duty, h.dutyPosition, h.frequency, h.envelope, ?_⟩
  intro s hs
  cases hs
  exact hshadow

theorem write (h : c.WellFormed) (register : Nat) (value : Byte) (next : Bool) :
    (c.write register value next).WellFormed := by
  unfold PulseChannel.write
  split
  · split
    case _ sweep hsweep =>
      split
      · exact h.writeSweep hsweep value
      · exact h
    case _ => exact h
  · have hduty : (value >>> 6).toNat < 4 := by bv_omega
    have hplaying := h.playing.load (by decide) (value &&& 0x3f)
    exact ⟨hplaying, hduty, h.dutyPosition, h.frequency, h.envelope, h.sweep⟩
  · have hplaying := h.playing.setDac (c.envelope.write value).dacEnabled
    exact ⟨hplaying, h.duty, h.dutyPosition, h.frequency, h.envelope.write value, h.sweep⟩
  · have hfrequency := frequency_low_le c.frequency value
    exact ⟨h.playing, h.duty, h.dutyPosition, hfrequency, h.envelope, h.sweep⟩
  · exact h.writeControl value next
  · exact h

theorem writeLengthWhilePoweredOff (h : c.WellFormed) (value : Byte) :
    (c.writeLengthWhilePoweredOff value).WellFormed :=
  ⟨h.playing.load (by decide) _, h.duty, h.dutyPosition, h.frequency, h.envelope, h.sweep⟩

theorem tickTCycle (h : c.WellFormed) : c.tickTCycle.WellFormed := by
  unfold PulseChannel.tickTCycle
  split
  · have hposition : (c.dutyPosition + 1) % 8 < 8 := Nat.mod_lt _ (by decide)
    exact ⟨h.playing, h.duty, hposition, h.frequency, h.envelope, h.sweep⟩
  · exact ⟨h.playing, h.duty, h.dutyPosition, h.frequency, h.envelope, h.sweep⟩

theorem clockLength (h : c.WellFormed) : c.clockLength.WellFormed :=
  ⟨h.playing.clock, h.duty, h.dutyPosition, h.frequency, h.envelope, h.sweep⟩

theorem clockEnvelope (h : c.WellFormed) : c.clockEnvelope.WellFormed :=
  ⟨h.playing, h.duty, h.dutyPosition, h.frequency, h.envelope.clock, h.sweep⟩

/-- The sweep gives its channel a frequency in range, or silences it. -/
theorem clockSweep (h : c.WellFormed) : c.clockSweep.WellFormed := by
  unfold PulseChannel.clockSweep
  cases hsweep : c.sweep with
  | none => exact h
  | some sweep =>
    obtain ⟨hshadow, hbelow⟩ := FrequencySweep.clock_le (h.sweep sweep hsweep)
    dsimp only
    generalize sweep.clock = result at hshadow hbelow
    obtain ⟨after, outcome⟩ := result
    have hafter : ∀ s ∈ some after, s.shadowFrequency ≤ 2047 := by
      intro s hs
      cases hs
      exact hshadow
    cases outcome with
    | idle => exact ⟨h.playing, h.duty, h.dutyPosition, h.frequency, h.envelope, hafter⟩
    | applied frequency => exact ⟨h.playing, h.duty, h.dutyPosition, hbelow, h.envelope, hafter⟩
    | appliedAndDisabled frequency =>
      exact ⟨h.playing.silence, h.duty, h.dutyPosition, hbelow, h.envelope, hafter⟩
    | disabled => exact ⟨h.playing.silence, h.duty, h.dutyPosition, h.frequency, h.envelope, hafter⟩

/-- The subtraction of the period does not underflow. -/
theorem period_pos (h : c.WellFormed) : 1 ≤ c.period := by
  have hfrequency := h.frequency
  unfold period
  omega

end WellFormed

/-- A level of a duty cycle is 0 or 1. -/
theorem duty_le_one (duty position : Nat) : (dutyTable.getD duty []).getD position 0 ≤ 1 := by
  have hrows : ∀ row ∈ [] :: dutyTable, ∀ level ∈ 0 :: row, level ≤ 1 := by decide
  refine hrows (dutyTable.getD duty []) ?_ _ ?_
  · rw [List.getD_eq_getElem?_getD]
    cases hrow : dutyTable[duty]? with
    | none => exact List.mem_cons_self
    | some row => exact List.mem_cons_of_mem _ (List.mem_of_getElem? hrow)
  · generalize dutyTable.getD duty [] = row
    rw [List.getD_eq_getElem?_getD]
    cases hlevel : row[position]? with
    | none => exact List.mem_cons_self
    | some level => exact List.mem_cons_of_mem _ (List.mem_of_getElem? hlevel)

theorem output_le {c : PulseChannel} (h : c.WellFormed) : c.output ≤ 15 := by
  unfold output
  split
  · exact Nat.zero_le _
  · have hlevel := duty_le_one c.duty c.dutyPosition
    have hvolume : c.envelope.volume ≤ 15 := h.envelope.currentVolume
    exact Nat.le_trans (Nat.mul_le_mul hlevel hvolume) (by decide)

end PulseChannel

/-! ## The wave channel -/

namespace WaveChannel

structure WellFormed (c : WaveChannel) : Prop where
  playing : Playing c.enabled c.dacEnabled c.length
  frequency : c.frequency ≤ 2047
  position : c.position < 32
  outputLevel : c.outputLevel ≤ 3

namespace WellFormed
variable {c : WaveChannel}

/-- Wave RAM is not part of the invariant. -/
theorem initial (waveRam : Bytes 16) :
    ({ initial with waveRam := waveRam } : WaveChannel).WellFormed :=
  ⟨.initial, Nat.zero_le _, Nat.zero_lt_succ _, Nat.zero_le _⟩

theorem trigger (h : c.WellFormed) (next : Bool) : (c.trigger next).WellFormed :=
  ⟨h.playing.trigger (by decide) next, h.frequency, Nat.zero_lt_succ _, h.outputLevel⟩

theorem writeControl (h : c.WellFormed) (value : Byte) (next : Bool) :
    (c.writeControl value next).WellFormed := by
  have hplaying := h.playing.setEnabled (value &&& 0x40 != 0) next
  have hfrequency := frequency_high_le c.frequency value
  have hwritten : ({ c with
      frequency := (c.frequency &&& 0x00ff) ||| ((value &&& 7).toNat <<< 8)
      length := (c.length.setEnabled (value &&& 0x40 != 0) next c.enabled).1
      enabled := if (c.length.setEnabled (value &&& 0x40 != 0) next c.enabled).2 then false
        else c.enabled } : WaveChannel).WellFormed :=
    ⟨hplaying, hfrequency, h.position, h.outputLevel⟩
  unfold WaveChannel.writeControl
  dsimp only
  split
  · exact hwritten.trigger next
  · exact hwritten

theorem write (h : c.WellFormed) (register : Nat) (value : Byte) (next : Bool) :
    (c.write register value next).WellFormed := by
  unfold WaveChannel.write
  split
  · exact ⟨h.playing.setDac _, h.frequency, h.position, h.outputLevel⟩
  · exact ⟨h.playing.load (by decide) value, h.frequency, h.position, h.outputLevel⟩
  · have hlevel : ((value >>> 5) &&& 0x03).toNat ≤ 3 := by
      rw [BitVec.toNat_and]
      exact Nat.and_le_right
    exact ⟨h.playing, h.frequency, h.position, hlevel⟩
  · exact ⟨h.playing, frequency_low_le c.frequency value, h.position, h.outputLevel⟩
  · exact h.writeControl value next
  · exact h

theorem writeWaveRam (h : c.WellFormed) (address : Word) (value : Byte) :
    (c.writeWaveRam address value).WellFormed := by
  unfold WaveChannel.writeWaveRam
  split
  · exact ⟨h.playing, h.frequency, h.position, h.outputLevel⟩
  · split
    · exact ⟨h.playing, h.frequency, h.position, h.outputLevel⟩
    · exact h

theorem tickTCycle (h : c.WellFormed) : c.tickTCycle.WellFormed := by
  unfold WaveChannel.tickTCycle
  split
  · exact ⟨h.playing, h.frequency, Nat.mod_lt _ (by decide), h.outputLevel⟩
  · exact ⟨h.playing, h.frequency, h.position, h.outputLevel⟩

theorem clockLength (h : c.WellFormed) : c.clockLength.WellFormed :=
  ⟨h.playing.clock, h.frequency, h.position, h.outputLevel⟩

/-- The subtraction of the period does not underflow. -/
theorem period_pos (h : c.WellFormed) : 1 ≤ c.period := by
  have hfrequency := h.frequency
  unfold period
  omega

end WellFormed

/-- A sample is half a byte of wave RAM. -/
theorem output_le (c : WaveChannel) : c.output ≤ 15 := by
  unfold output
  split
  · exact Nat.zero_le _
  dsimp only
  have hshift : ∀ sample : Byte, sample.toNat ≤ 15 →
      sample.toNat >>> (c.outputLevel - 1) ≤ 15 := by
    intro sample hsample
    rw [Nat.shiftRight_eq_div_pow]
    exact Nat.le_trans (Nat.div_le_self _ _) hsample
  apply hshift
  split
  · bv_omega
  · rw [BitVec.toNat_and]
    exact Nat.and_le_right

end WaveChannel

/-! ## The noise channel -/

namespace NoiseChannel

structure WellFormed (c : NoiseChannel) : Prop where
  playing : Playing c.enabled c.dacEnabled c.length
  lfsr : c.lfsr.toNat < 2 ^ 15
  divisorCode : c.divisorCode < 8
  shift : c.shift < 16
  envelope : c.envelope.WellFormed

/-- The feedback of the shift register is one bit, and it enters at bit 14. -/
theorem nextLfsr_lt {c : NoiseChannel} (h : c.lfsr.toNat < 2 ^ 15) :
    c.nextLfsr.toNat < 2 ^ 15 := by
  have hfeedback : ((c.lfsr ^^^ (c.lfsr >>> 1)) &&& 1).toNat ≤ 1 := by
    rw [BitVec.toNat_and]
    exact Nat.and_le_right
  generalize hbit : (c.lfsr ^^^ (c.lfsr >>> 1)) &&& 1 = feedback at hfeedback
  have hlow : (c.lfsr >>> 1).toNat < 2 ^ 15 := by bv_omega
  have henters : (feedback <<< 14).toNat < 2 ^ 15 := by
    rw [BitVec.toNat_shiftLeft, Nat.shiftLeft_eq]
    omega
  have hshifted : ((c.lfsr >>> 1) ||| (feedback <<< 14)).toNat < 2 ^ 15 := by
    rw [BitVec.toNat_or]
    exact Nat.or_lt_two_pow hlow henters
  have hshort : (feedback <<< 6).toNat < 2 ^ 15 := by
    rw [BitVec.toNat_shiftLeft, Nat.shiftLeft_eq]
    omega
  unfold nextLfsr
  dsimp only
  rw [hbit]
  split
  · rw [BitVec.toNat_or, BitVec.toNat_and]
    exact Nat.or_lt_two_pow (Nat.lt_of_le_of_lt Nat.and_le_left hshifted) hshort
  · exact hshifted

namespace WellFormed
variable {c : NoiseChannel}

theorem initial : NoiseChannel.initial.WellFormed :=
  ⟨.initial, Nat.zero_lt_succ _, Nat.zero_lt_succ _, Nat.zero_lt_succ _, .initial⟩

theorem trigger (h : c.WellFormed) (next : Bool) : (c.trigger next).WellFormed := by
  have hlfsr : (0x7fff : Word).toNat < 2 ^ 15 := by decide
  exact ⟨h.playing.trigger (by decide) next, hlfsr, h.divisorCode, h.shift, h.envelope.trigger⟩

theorem writeControl (h : c.WellFormed) (value : Byte) (next : Bool) :
    (c.writeControl value next).WellFormed := by
  have hplaying := h.playing.setEnabled (value &&& 0x40 != 0) next
  have hwritten : ({ c with
      length := (c.length.setEnabled (value &&& 0x40 != 0) next c.enabled).1
      enabled := if (c.length.setEnabled (value &&& 0x40 != 0) next c.enabled).2 then false
        else c.enabled } : NoiseChannel).WellFormed :=
    ⟨hplaying, h.lfsr, h.divisorCode, h.shift, h.envelope⟩
  unfold NoiseChannel.writeControl
  dsimp only
  split
  · exact hwritten.trigger next
  · exact hwritten

theorem write (h : c.WellFormed) (register : Nat) (value : Byte) (next : Bool) :
    (c.write register value next).WellFormed := by
  unfold NoiseChannel.write
  split
  · exact ⟨h.playing.load (by decide) _, h.lfsr, h.divisorCode, h.shift, h.envelope⟩
  · exact ⟨h.playing.setDac _, h.lfsr, h.divisorCode, h.shift, h.envelope.write value⟩
  · have hdivisor : (value &&& 0x07).toNat < 8 := by
      rw [BitVec.toNat_and]
      exact Nat.lt_succ_of_le Nat.and_le_right
    have hshift : (value >>> 4).toNat < 16 := by bv_omega
    exact ⟨h.playing, h.lfsr, hdivisor, hshift, h.envelope⟩
  · exact h.writeControl value next
  · exact h

theorem tickTCycle (h : c.WellFormed) : c.tickTCycle.WellFormed := by
  unfold NoiseChannel.tickTCycle
  split
  · exact ⟨h.playing, nextLfsr_lt h.lfsr, h.divisorCode, h.shift, h.envelope⟩
  · exact ⟨h.playing, h.lfsr, h.divisorCode, h.shift, h.envelope⟩

theorem clockLength (h : c.WellFormed) : c.clockLength.WellFormed :=
  ⟨h.playing.clock, h.lfsr, h.divisorCode, h.shift, h.envelope⟩

theorem clockEnvelope (h : c.WellFormed) : c.clockEnvelope.WellFormed :=
  ⟨h.playing, h.lfsr, h.divisorCode, h.shift, h.envelope.clock⟩

/-- Every divisor is positive, and so is every period. -/
theorem period_pos (h : c.WellFormed) : 1 ≤ c.period := by
  have hdivisors : ∀ code < 8, 1 ≤ noiseDivisors.getD code 0 := by decide
  unfold period noisePeriod
  rw [Nat.shiftLeft_eq]
  exact Nat.mul_pos (hdivisors _ h.divisorCode) (Nat.two_pow_pos _)

theorem output_le (h : c.WellFormed) : c.output ≤ 15 := by
  unfold output
  split
  · exact h.envelope.currentVolume
  · exact Nat.zero_le _

end WellFormed

end NoiseChannel

end Pockiva
