import Pockiva.Apu.Power
import Pockiva.Apu.SweepLaw

/-! # The sound registers as a register file

To a program the registers FF10 to FF25 are a file of bytes: a read gives what was last
written while the unit was on, with the bits of the register that cannot be read as ones,
and a power-off clears the file.  `register_file` states that the unit refines this file
over every run, whatever its channels do meanwhile.
-/
namespace Pockiva

open Transition

variable {M : MixerModel}

/-! ## The file -/

/-- The sound registers, NR52 and wave RAM aside. -/
def inSoundRegisters (address : Word) : Prop := 0xff10 ≤ address ∧ address ≤ 0xff25

/-- What the registers hold. -/
structure RegisterFile where
  powered : Bool
  stored : Word → Byte

namespace RegisterFile

/-- A write: NR52 clears the file when it switches the unit off. -/
def write (f : RegisterFile) (address : Word) (value : Byte) : RegisterFile :=
  if address = 0xff26 then
    if value &&& 0x80 = 0 then ⟨false, fun _ => 0⟩ else { f with powered := true }
  else if f.powered then { f with stored := Function.update f.stored address value }
  else f

def apply (f : RegisterFile) : Apu.Op → RegisterFile
  | .write address value => f.write address value
  | .tickTCycle => f
  | .drainAudio => f

def play (f : RegisterFile) (ops : List Apu.Op) : RegisterFile := ops.foldl apply f

/-- What the boot ROM leaves in the registers. -/
def bootValues : List Byte :=
  [0x00, 0x80, 0xf3, 0x00, 0x80, 0, 0, 0, 0, 0, 0, 0, 0, 0, 0, 0, 0, 0, 0, 0, 0x77, 0xf3]

def postBoot : RegisterFile :=
  ⟨true, fun address => bootValues.getD (Apu.registerOffset address 0xff10) 0⟩

end RegisterFile

/-- The bits of a register that read as ones. -/
def registerMask (address : Word) : Byte :=
  Apu.poweredOffMasks.getD (Apu.registerOffset address 0xff10) 0

/-! ## The registers of a pulse channel -/

namespace PulseChannel
variable {c d : PulseChannel}

/-- The bits of a register that read as ones. -/
def masks (hasSweep : Bool) (register : Nat) : Byte :=
  match register with
  | 0 => if hasSweep then 0x80 else 0xff
  | 1 => 0x3f
  | 2 => 0x00
  | 4 => 0xbf
  | _ => 0xff

/-- What a channel reads depends on little of it. -/
structure SameRegisters (c d : PulseChannel) : Prop where
  kind : d.hasSweep = c.hasSweep
  sweep : d.sweep.map (·.register) = c.sweep.map (·.register)
  duty : d.duty = c.duty
  envelope : d.envelope.register = c.envelope.register
  length : d.length.enabled = c.length.enabled

theorem SameRegisters.read (h : SameRegisters c d) (register : Nat) :
    d.read register = c.read register := by
  have hsweep : ∀ e : PulseChannel, (e.sweep.map fun s => s.register ||| 0x80) =
      (e.sweep.map (·.register)).map (· ||| 0x80) := fun e => by
    rw [Option.map_map]
    rfl
  unfold PulseChannel.read
  rw [h.kind, h.duty, h.envelope, h.length, hsweep d, h.sweep, ← hsweep c]

theorem sameRegisters_tickTCycle (c : PulseChannel) : SameRegisters c c.tickTCycle := by
  unfold tickTCycle
  split <;> exact ⟨rfl, rfl, rfl, rfl, rfl⟩

theorem length_clock_enabled {max : Nat} (l : LengthCounter max) :
    l.clock.1.enabled = l.enabled := by
  unfold LengthCounter.clock
  split <;> rfl

theorem sameRegisters_clockLength (c : PulseChannel) : SameRegisters c c.clockLength :=
  ⟨rfl, rfl, rfl, rfl, length_clock_enabled c.length⟩

theorem envelope_clock_register (e : VolumeEnvelope) : e.clock.register = e.register := by
  unfold VolumeEnvelope.clock
  split
  · rfl
  split
  · rfl
  split <;> rfl

theorem sameRegisters_clockEnvelope (c : PulseChannel) : SameRegisters c c.clockEnvelope :=
  ⟨rfl, rfl, rfl, envelope_clock_register c.envelope, rfl⟩

theorem sweep_clock_register (s : FrequencySweep) : s.clock.1.register = s.register := by
  unfold FrequencySweep.clock FrequencySweep.apply
  dsimp only
  repeat' split
  all_goals rfl

theorem sameRegisters_clockSweep (c : PulseChannel) : SameRegisters c c.clockSweep := by
  rw [clockSweep_eq]
  refine ⟨rfl, ?_, rfl, rfl, rfl⟩
  dsimp only
  rw [Option.map_map]
  cases c.sweep with
  | none => rfl
  | some s => exact congrArg some (sweep_clock_register s)

theorem sweep_trigger_register (s : FrequencySweep) (frequency : Nat) :
    (s.trigger frequency).1.register = s.register := by
  unfold FrequencySweep.trigger
  dsimp only
  repeat' split
  all_goals rfl

theorem length_trigger_enabled {max : Nat} (l : LengthCounter max) (next : Bool) :
    (l.trigger next).1.enabled = l.enabled := by
  unfold LengthCounter.trigger
  dsimp only
  split <;> rfl

theorem sameRegisters_trigger (c : PulseChannel) (next : Bool) :
    SameRegisters c (c.trigger next) := by
  have hlength := length_trigger_enabled c.length next
  unfold trigger triggerSweep
  cases hsweep : c.sweep with
  | none => exact ⟨rfl, by rw [hsweep], rfl, rfl, hlength⟩
  | some s =>
    refine ⟨rfl, ?_, rfl, rfl, hlength⟩
    rw [hsweep]
    exact congrArg some (sweep_trigger_register s c.frequency)

/-- The control register keeps the length enable only. -/
theorem read_writeControl (c : PulseChannel) (value : Byte) (next : Bool) (register : Nat) :
    (c.writeControl value next).read register =
      if register = 4 then value ||| 0xbf else c.read register := by
  have henable : ∀ value : Byte,
      0xbf ||| (byteOfBool (value &&& 0x40 != 0) <<< 6) = value ||| 0xbf := by decide
  let result := c.length.setEnabled (value &&& 0x40 != 0) next c.enabled
  let written : PulseChannel :=
    { c with
      frequency := (c.frequency &&& 0x00ff) ||| ((value &&& 0x07).toNat <<< 8)
      length := result.1
      enabled := if result.2 then false else c.enabled }
  have hwritten : written.read register =
      if register = 4 then value ||| 0xbf else c.read register := by
    by_cases hcontrol : register = 4
    · subst hcontrol
      rw [if_pos rfl]
      exact henable value
    · rw [if_neg hcontrol]
      unfold read
      split
      · rfl
      · rfl
      · rfl
      · exact absurd rfl hcontrol
      · rfl
  unfold writeControl
  dsimp only
  split
  · exact ((sameRegisters_trigger written next).read register).trans hwritten
  · exact hwritten

/-- The sweep register, where the channel has one. -/
theorem read_writeSweep {hasSweep : Bool} (h : c.Equipped hasSweep) (value : Byte) (next : Bool)
    (other : Nat) :
    (c.write 0 value next).read other =
      if other = 0 then value ||| masks hasSweep 0 else c.read other := by
  have hsweep : ∀ value : Byte, value &&& 0x7f ||| 0x80 = value ||| 0x80 := by decide
  have hones : ∀ value : Byte, 0xff = value ||| 0xff := by decide
  have hkind := h.kind
  cases hs : c.sweep with
  | none =>
    have hnone : hasSweep = false := by rw [← h.sweep, hs]; rfl
    subst hnone
    have hstill : c.write 0 value next = c := by
      unfold write
      simp only [hs]
    -- channel 2: the write is lost, and the register reads FF
    rw [hstill]
    by_cases hother : other = 0
    · subst hother
      rw [if_pos rfl]
      have hread : c.read 0 = 0xff := by
        unfold read
        rw [hkind]
        rfl
      exact hread.trans (hones value)
    · rw [if_neg hother]
  | some s =>
    have hsome : hasSweep = true := by rw [← h.sweep, hs]; rfl
    subst hsome
    have hwritten : c.write 0 value next =
        { c with
          sweep := some (s.write value).1
          enabled := if (s.write value).2 then false else c.enabled } := by
      unfold write
      simp only [hs, hkind, if_true]
    rw [hwritten]
    by_cases hother : other = 0
    · subst hother
      rw [if_pos rfl]
      unfold read
      simp only [hkind, if_true]
      exact hsweep value
    · rw [if_neg hother]
      unfold read
      split
      · exact absurd rfl hother
      all_goals rfl

/-- **A register reads back what was written**, and a write changes no other. -/
theorem read_write {hasSweep : Bool} (h : c.Equipped hasSweep) {register other : Nat}
    (hregister : register ≤ 4) (value : Byte) (next : Bool) :
    (c.write register value next).read other =
      if other = register then value ||| masks hasSweep register else c.read other := by
  have hduty : ∀ value : Byte,
      (BitVec.ofNat 8 (value >>> 6).toNat <<< 6) ||| 0x3f = value ||| 0x3f := by decide
  have hones : ∀ value : Byte, 0xff = value ||| 0xff := by decide
  match register, hregister with
  | 0, _ => exact read_writeSweep h value next other
  | 1, _ =>
    unfold write
    by_cases hother : other = 1
    · subst hother
      exact hduty value
    · rw [if_neg hother]
      unfold read
      split
      · rfl
      · exact absurd rfl hother
      all_goals rfl
  | 2, _ =>
    unfold write
    by_cases hother : other = 2
    · subst hother
      exact (BitVec.or_zero).symm
    · rw [if_neg hother]
      unfold read
      split
      · rfl
      · rfl
      · exact absurd rfl hother
      all_goals rfl
  | 3, _ =>
    unfold write
    by_cases hother : other = 3
    · subst hother
      exact hones value
    · rw [if_neg hother]
      rfl
  | 4, _ => exact read_writeControl c value next other

end PulseChannel

/-! ## The registers of the wave channel -/

namespace WaveChannel
variable {c d : WaveChannel}

/-- The bits of a register that read as ones. -/
def masks (register : Nat) : Byte :=
  match register with
  | 0 => 0x7f
  | 2 => 0x9f
  | 4 => 0xbf
  | _ => 0xff

structure SameRegisters (c d : WaveChannel) : Prop where
  dac : d.dacEnabled = c.dacEnabled
  level : d.outputLevel = c.outputLevel
  length : d.length.enabled = c.length.enabled

theorem SameRegisters.read (h : SameRegisters c d) (register : Nat) :
    d.read register = c.read register := by
  unfold WaveChannel.read
  rw [h.dac, h.level, h.length]

theorem sameRegisters_tickTCycle (c : WaveChannel) : SameRegisters c c.tickTCycle := by
  unfold tickTCycle
  split <;> exact ⟨rfl, rfl, rfl⟩

theorem sameRegisters_clockLength (c : WaveChannel) : SameRegisters c c.clockLength :=
  ⟨rfl, rfl, PulseChannel.length_clock_enabled c.length⟩

theorem sameRegisters_writeWaveRam (c : WaveChannel) (address : Word) (value : Byte) :
    SameRegisters c (c.writeWaveRam address value) := by
  unfold writeWaveRam
  split
  · exact ⟨rfl, rfl, rfl⟩
  split <;> exact ⟨rfl, rfl, rfl⟩

theorem read_writeControl (c : WaveChannel) (value : Byte) (next : Bool) (register : Nat) :
    (c.writeControl value next).read register =
      if register = 4 then value ||| 0xbf else c.read register := by
  have henable : ∀ value : Byte,
      0xbf ||| (byteOfBool (value &&& 0x40 != 0) <<< 6) = value ||| 0xbf := by decide
  have hlength : (c.writeControl value next).length.enabled = (value &&& 0x40 != 0) := by
    unfold writeControl trigger
    dsimp only
    split
    · exact PulseChannel.length_trigger_enabled _ next
    · rfl
  have hdac : (c.writeControl value next).dacEnabled = c.dacEnabled := by
    unfold writeControl trigger
    dsimp only
    split <;> rfl
  have hlevel : (c.writeControl value next).outputLevel = c.outputLevel := by
    unfold writeControl trigger
    dsimp only
    split <;> rfl
  unfold read
  rw [hlength, hdac, hlevel]
  split
  · rfl
  · rfl
  · exact henable value
  · next h0 h2 h4 => rw [if_neg h4]

theorem read_write (c : WaveChannel) {register other : Nat} (hregister : register ≤ 4)
    (value : Byte) (next : Bool) :
    (c.write register value next).read other =
      if other = register then value ||| masks register else c.read other := by
  have hdac : ∀ value : Byte,
      (byteOfBool (value &&& 0x80 != 0) <<< 7) ||| 0x7f = value ||| 0x7f := by decide
  have hlevel : ∀ value : Byte,
      (BitVec.ofNat 8 ((value >>> 5) &&& 0x03).toNat <<< 5) ||| 0x9f = value ||| 0x9f := by decide
  have hones : ∀ value : Byte, 0xff = value ||| 0xff := by decide
  match register, hregister with
  | 0, _ =>
    by_cases hother : other = 0
    · subst hother
      exact hdac value
    · rw [if_neg hother]
      unfold read
      split
      · exact absurd rfl hother
      all_goals rfl
  | 1, _ =>
    by_cases hother : other = 1
    · subst hother
      exact hones value
    · rw [if_neg hother]
      rfl
  | 2, _ =>
    by_cases hother : other = 2
    · subst hother
      exact hlevel value
    · rw [if_neg hother]
      unfold read
      split
      · rfl
      · exact absurd rfl hother
      all_goals rfl
  | 3, _ =>
    by_cases hother : other = 3
    · subst hother
      exact hones value
    · rw [if_neg hother]
      rfl
  | 4, _ => exact read_writeControl c value next other

end WaveChannel

/-! ## The registers of the noise channel -/

namespace NoiseChannel
variable {c d : NoiseChannel}

/-- The bits of a register that read as ones. -/
def masks (register : Nat) : Byte :=
  match register with
  | 1 => 0x00
  | 2 => 0x00
  | 3 => 0xbf
  | _ => 0xff

structure SameRegisters (c d : NoiseChannel) : Prop where
  envelope : d.envelope.register = c.envelope.register
  shift : d.shift = c.shift
  width : d.widthMode = c.widthMode
  divisor : d.divisorCode = c.divisorCode
  length : d.length.enabled = c.length.enabled

theorem SameRegisters.read (h : SameRegisters c d) (register : Nat) :
    d.read register = c.read register := by
  unfold NoiseChannel.read
  rw [h.envelope, h.shift, h.width, h.divisor, h.length]

theorem sameRegisters_tickTCycle (c : NoiseChannel) : SameRegisters c c.tickTCycle := by
  unfold tickTCycle
  split <;> exact ⟨rfl, rfl, rfl, rfl, rfl⟩

theorem sameRegisters_clockLength (c : NoiseChannel) : SameRegisters c c.clockLength :=
  ⟨rfl, rfl, rfl, rfl, PulseChannel.length_clock_enabled c.length⟩

theorem sameRegisters_clockEnvelope (c : NoiseChannel) : SameRegisters c c.clockEnvelope :=
  ⟨PulseChannel.envelope_clock_register c.envelope, rfl, rfl, rfl, rfl⟩

theorem read_writeControl (c : NoiseChannel) (value : Byte) (next : Bool) (register : Nat) :
    (c.writeControl value next).read register =
      if register = 3 then value ||| 0xbf else c.read register := by
  have henable : ∀ value : Byte,
      0xbf ||| (byteOfBool (value &&& 0x40 != 0) <<< 6) = value ||| 0xbf := by decide
  have hlength : (c.writeControl value next).length.enabled = (value &&& 0x40 != 0) := by
    unfold writeControl trigger
    dsimp only
    split
    · exact PulseChannel.length_trigger_enabled _ next
    · rfl
  have hkept : (c.writeControl value next).envelope.register = c.envelope.register ∧
      (c.writeControl value next).shift = c.shift ∧
      (c.writeControl value next).widthMode = c.widthMode ∧
      (c.writeControl value next).divisorCode = c.divisorCode := by
    unfold writeControl trigger
    dsimp only
    split <;> exact ⟨rfl, rfl, rfl, rfl⟩
  obtain ⟨henvelope, hshift, hwidth, hdivisor⟩ := hkept
  unfold read
  rw [hlength, henvelope, hshift, hwidth, hdivisor]
  split
  · rfl
  · rfl
  · exact henable value
  · next h1 h2 h3 => rw [if_neg h3]

theorem read_write (c : NoiseChannel) {register other : Nat} (hregister : register ≤ 3)
    (value : Byte) (next : Bool) :
    (c.write register value next).read other =
      if other = register then value ||| masks register else c.read other := by
  have hpolynomial : ∀ value : Byte,
      (BitVec.ofNat 8 (value >>> 4).toNat <<< 4) ||| (byteOfBool (value &&& 0x08 != 0) <<< 3)
        ||| BitVec.ofNat 8 (value &&& 0x07).toNat = value ||| 0x00 := by decide
  have hones : ∀ value : Byte, 0xff = value ||| 0xff := by decide
  match register, hregister with
  | 0, _ =>
    by_cases hother : other = 0
    · subst hother
      exact hones value
    · rw [if_neg hother]
      rfl
  | 1, _ =>
    by_cases hother : other = 1
    · subst hother
      exact (BitVec.or_zero).symm
    · rw [if_neg hother]
      unfold read
      split
      · exact absurd rfl hother
      all_goals rfl
  | 2, _ =>
    by_cases hother : other = 2
    · subst hother
      exact hpolynomial value
    · rw [if_neg hother]
      unfold read
      split
      · rfl
      · exact absurd rfl hother
      all_goals rfl
  | 3, _ => exact read_writeControl c value next other

end NoiseChannel

/-! ## The unit -/

namespace Apu
variable {a b : Apu M}

/-- Two units with the same registers. -/
structure SameRegisters (a b : Apu M) : Prop where
  channel1 : PulseChannel.SameRegisters a.channel1 b.channel1
  channel2 : PulseChannel.SameRegisters a.channel2 b.channel2
  channel3 : WaveChannel.SameRegisters a.channel3 b.channel3
  channel4 : NoiseChannel.SameRegisters a.channel4 b.channel4
  nr50 : b.nr50 = a.nr50
  nr51 : b.nr51 = a.nr51

namespace SameRegisters

theorem refl (a : Apu M) : SameRegisters a a :=
  ⟨⟨rfl, rfl, rfl, rfl, rfl⟩, ⟨rfl, rfl, rfl, rfl, rfl⟩, ⟨rfl, rfl, rfl⟩,
    ⟨rfl, rfl, rfl, rfl, rfl⟩, rfl, rfl⟩

/-- A read in the range of the registers. -/
theorem read (h : SameRegisters a b) {address : Word} (hin : inSoundRegisters address) :
    b.read address = a.read address := by
  have h52 : address ≠ 0xff26 := fun heq => by
    have hlast := hin.2
    bv_omega
  have hram : ¬ (0xff30 ≤ address ∧ address ≤ 0xff3f) := fun hram => by
    have hlast := hin.2
    have hfirst := hram.1
    bv_omega
  unfold Apu.read
  rw [h.channel1.read, h.channel2.read, h.channel3.read, h.channel4.read, h.nr50, h.nr51,
    if_neg h52, if_neg h52, if_neg hram, if_neg hram]

theorem clockLengths (a : Apu M) : SameRegisters a a.clockLengths :=
  ⟨a.channel1.sameRegisters_clockLength, a.channel2.sameRegisters_clockLength,
    a.channel3.sameRegisters_clockLength, a.channel4.sameRegisters_clockLength, rfl, rfl⟩

theorem clockSweep (a : Apu M) :
    SameRegisters a { a.clockLengths with channel1 := a.clockLengths.channel1.clockSweep } := by
  have hlength := a.channel1.sameRegisters_clockLength
  have hsweep := a.clockLengths.channel1.sameRegisters_clockSweep
  refine ⟨?_, (clockLengths a).channel2, (clockLengths a).channel3, (clockLengths a).channel4, rfl,
    rfl⟩
  exact ⟨hsweep.kind.trans hlength.kind, hsweep.sweep.trans hlength.sweep,
    hsweep.duty.trans hlength.duty, hsweep.envelope.trans hlength.envelope,
    hsweep.length.trans hlength.length⟩

theorem clockEnvelopes (a : Apu M) : SameRegisters a a.clockEnvelopes :=
  ⟨a.channel1.sameRegisters_clockEnvelope, a.channel2.sameRegisters_clockEnvelope,
    (refl a).channel3, a.channel4.sameRegisters_clockEnvelope, rfl, rfl⟩

theorem clockFrameSequencer (a : Apu M) : SameRegisters a a.clockFrameSequencer := by
  have hkept : ∀ {b : Apu M}, SameRegisters a b → ∀ step,
      SameRegisters a { b with frameStep := step } := fun h _ =>
    ⟨h.channel1, h.channel2, h.channel3, h.channel4, h.nr50, h.nr51⟩
  unfold Apu.clockFrameSequencer
  dsimp only
  split
  · exact hkept (clockLengths a) _
  · exact hkept (clockLengths a) _
  · exact hkept (clockSweep a) _
  · exact hkept (clockSweep a) _
  · exact hkept (clockEnvelopes a) _
  · exact hkept (refl a) _

theorem followed (a : Apu M) (old new : Word) : SameRegisters a (a.followed old new) := by
  unfold Apu.followed
  split
  · rw [clockFrameSequencer_mirror]
    have h := clockFrameSequencer a
    exact ⟨h.channel1, h.channel2, h.channel3, h.channel4, h.nr50, h.nr51⟩
  · have h := refl a
    exact ⟨h.channel1, h.channel2, h.channel3, h.channel4, h.nr50, h.nr51⟩

theorem tickChannels (h : SameRegisters a b) : SameRegisters a b.tickChannels := by
  have h1 := b.channel1.sameRegisters_tickTCycle
  have h2 := b.channel2.sameRegisters_tickTCycle
  have h3 := b.channel3.sameRegisters_tickTCycle
  have h4 := b.channel4.sameRegisters_tickTCycle
  unfold Apu.tickChannels
  split
  · exact ⟨⟨h1.kind.trans h.channel1.kind, h1.sweep.trans h.channel1.sweep,
        h1.duty.trans h.channel1.duty, h1.envelope.trans h.channel1.envelope,
        h1.length.trans h.channel1.length⟩,
      ⟨h2.kind.trans h.channel2.kind, h2.sweep.trans h.channel2.sweep,
        h2.duty.trans h.channel2.duty, h2.envelope.trans h.channel2.envelope,
        h2.length.trans h.channel2.length⟩,
      ⟨h3.dac.trans h.channel3.dac, h3.level.trans h.channel3.level,
        h3.length.trans h.channel3.length⟩,
      ⟨h4.envelope.trans h.channel4.envelope, h4.shift.trans h.channel4.shift,
        h4.width.trans h.channel4.width, h4.divisor.trans h.channel4.divisor,
        h4.length.trans h.channel4.length⟩, h.nr50, h.nr51⟩
  · exact h

/-- **Time changes no register.** -/
theorem tickTCycle (a : Apu M) : SameRegisters a a.tickTCycle := by
  obtain ⟨samplePhase, mixer, heq⟩ := afterFrames_eq (a.clocked.samplePhase / dmgClockHz) a.clocked
  have hdivider : SameRegisters a a.tickDivider := by
    rw [tickDivider_eq]
    exact followed a _ _
  have h := hdivider.tickChannels
  rw [tickTCycle_eq, heq]
  exact ⟨h.channel1, h.channel2, h.channel3, h.channel4, h.nr50, h.nr51⟩

end SameRegisters

/-! ## Writes -/

section Writes
variable {address other : Word}

theorem read_channel1 (a : Apu M) (h : Channel.channel1.Owns address) :
    a.read address = a.channel1.read (registerOffset address 0xff10) := by
  unfold Apu.read
  exact if_pos h

theorem read_channel2 (a : Apu M) (h : Channel.channel2.Owns address) :
    a.read address = a.channel2.read (registerOffset address 0xff15) := by
  have hrange : 0xff16 ≤ address ∧ address ≤ 0xff19 := h
  unfold Apu.read
  rw [if_neg (by bv_omega), if_pos hrange]

theorem read_channel3 (a : Apu M) (h : Channel.channel3.Owns address) :
    a.read address = a.channel3.read (registerOffset address 0xff1a) := by
  have hrange : 0xff1a ≤ address ∧ address ≤ 0xff1e := h
  unfold Apu.read
  rw [if_neg (by bv_omega), if_neg (by bv_omega), if_pos hrange]

theorem read_channel4 (a : Apu M) (h : Channel.channel4.Owns address) :
    a.read address = a.channel4.read (registerOffset address 0xff20) := by
  have hrange : 0xff20 ≤ address ∧ address ≤ 0xff23 := h
  unfold Apu.read
  rw [if_neg (by bv_omega), if_neg (by bv_omega), if_neg (by bv_omega), if_pos hrange]

/-- The masks of the channels are those of their addresses. -/
theorem masks_channel1 (h : Channel.channel1.Owns address) :
    PulseChannel.masks true (registerOffset address 0xff10) = registerMask address := by
  have hmasks : ∀ i ≤ 4, PulseChannel.masks true i = poweredOffMasks.getD i 0 := by decide
  have hrange : 0xff10 ≤ address ∧ address ≤ 0xff14 := h
  refine hmasks _ ?_
  unfold registerOffset
  bv_omega

theorem masks_channel2 (h : Channel.channel2.Owns address) :
    PulseChannel.masks false (registerOffset address 0xff15) = registerMask address := by
  have hmasks : ∀ i ≤ 4, PulseChannel.masks false i = poweredOffMasks.getD (i + 5) 0 := by decide
  have hrange : 0xff16 ≤ address ∧ address ≤ 0xff19 := h
  have hoffset : registerOffset address 0xff10 = registerOffset address 0xff15 + 5 := by
    unfold registerOffset
    bv_omega
  rw [registerMask, hoffset]
  refine hmasks _ ?_
  unfold registerOffset
  bv_omega

theorem masks_channel3 (h : Channel.channel3.Owns address) :
    WaveChannel.masks (registerOffset address 0xff1a) = registerMask address := by
  have hmasks : ∀ i ≤ 4, WaveChannel.masks i = poweredOffMasks.getD (i + 10) 0 := by decide
  have hrange : 0xff1a ≤ address ∧ address ≤ 0xff1e := h
  have hoffset : registerOffset address 0xff10 = registerOffset address 0xff1a + 10 := by
    unfold registerOffset
    bv_omega
  rw [registerMask, hoffset]
  refine hmasks _ ?_
  unfold registerOffset
  bv_omega

theorem masks_channel4 (h : Channel.channel4.Owns address) :
    NoiseChannel.masks (registerOffset address 0xff20) = registerMask address := by
  have hmasks : ∀ i ≤ 3, NoiseChannel.masks i = poweredOffMasks.getD (i + 16) 0 := by decide
  have hrange : 0xff20 ≤ address ∧ address ≤ 0xff23 := h
  have hoffset : registerOffset address 0xff10 = registerOffset address 0xff20 + 16 := by
    unfold registerOffset
    bv_omega
  rw [registerMask, hoffset]
  refine hmasks _ ?_
  unfold registerOffset
  bv_omega

theorem ne_nr52 (h : inSoundRegisters address) : address ≠ 0xff26 := by
  have hlast : address ≤ 0xff25 := h.2
  intro heq
  bv_omega

theorem not_inWaveRam (h : inSoundRegisters address) :
    ¬ (0xff30 ≤ address ∧ address ≤ 0xff3f) := by
  have hlast : address ≤ 0xff25 := h.2
  rintro ⟨hfirst, -⟩
  bv_omega

/-- What a read of a register makes of another unit with the same other registers. -/
theorem read_congr (hin : inSoundRegisters address)
    (h1 : Channel.channel1.Owns address → b.channel1 = a.channel1)
    (h2 : Channel.channel2.Owns address → b.channel2 = a.channel2)
    (h3 : Channel.channel3.Owns address → b.channel3 = a.channel3)
    (h4 : Channel.channel4.Owns address → b.channel4 = a.channel4)
    (h50 : address = 0xff24 → b.nr50 = a.nr50) (h51 : address = 0xff25 → b.nr51 = a.nr51) :
    b.read address = a.read address := by
  unfold Apu.read
  rw [if_neg (ne_nr52 hin), if_neg (ne_nr52 hin), if_neg (not_inWaveRam hin),
    if_neg (not_inWaveRam hin)]
  split
  · next howns => rw [h1 howns]
  split
  · next howns => rw [h2 howns]
  split
  · next howns => rw [h3 howns]
  split
  · next howns => rw [h4 howns]
  split
  · next heq => exact h50 heq
  split
  · next heq => exact h51 heq
  · rfl

/-- A write shows in the part of the registers that it goes to, and nowhere else. -/
theorem read_of_part (part : Word → Prop) (hpart : part address) {value : Byte}
    (hinside : part other → b.read other =
      if other = address then value ||| registerMask address else a.read other)
    (houtside : ¬ part other → b.read other = a.read other) :
    b.read other = if other = address then value ||| registerMask address else a.read other := by
  by_cases hother : part other
  · exact hinside hother
  · have hne : other ≠ address := fun heq => hother (heq ▸ hpart)
    rw [if_neg hne]
    exact houtside hother

theorem registerOffset_eq_iff (base : Word) :
    registerOffset other base = registerOffset address base ↔ other = address := by
  unfold registerOffset
  constructor
  · intro heq
    bv_omega
  · rintro rfl
    rfl

/-- **A write while the unit is on**: the register takes the value, and no other changes. -/
theorem read_writePoweredOn (h : a.Equipped) (hin : inSoundRegisters other) (value : Byte) :
    (a.writePoweredOn address value).read other =
      if other = address then value ||| registerMask address else a.read other := by
  have hzero : ∀ value : Byte, value = value ||| 0 := fun value => BitVec.or_zero.symm
  unfold writePoweredOn
  dsimp only
  split
  · next howns =>
    refine read_of_part Channel.channel1.Owns howns (fun hother => ?_) fun hother =>
      read_congr hin (fun howned => absurd howned hother) (fun _ => rfl) (fun _ => rfl)
        (fun _ => rfl) (fun _ => rfl) (fun _ => rfl)
    have hlast : registerOffset address 0xff10 ≤ 4 := by
      unfold registerOffset
      bv_omega
    rw [read_channel1 _ hother, read_channel1 a hother,
      PulseChannel.read_write h.channel1 hlast, masks_channel1 howns]
    simp only [registerOffset_eq_iff]
  split
  · next howns =>
    refine read_of_part Channel.channel2.Owns howns (fun hother => ?_) fun hother =>
      read_congr hin (fun _ => rfl) (fun howned => absurd howned hother) (fun _ => rfl)
        (fun _ => rfl) (fun _ => rfl) (fun _ => rfl)
    have hlast : registerOffset address 0xff15 ≤ 4 := by
      unfold registerOffset
      bv_omega
    rw [read_channel2 _ hother, read_channel2 a hother,
      PulseChannel.read_write h.channel2 hlast, masks_channel2 howns]
    simp only [registerOffset_eq_iff]
  split
  · next howns =>
    refine read_of_part Channel.channel3.Owns howns (fun hother => ?_) fun hother =>
      read_congr hin (fun _ => rfl) (fun _ => rfl) (fun howned => absurd howned hother)
        (fun _ => rfl) (fun _ => rfl) (fun _ => rfl)
    have hlast : registerOffset address 0xff1a ≤ 4 := by
      unfold registerOffset
      bv_omega
    rw [read_channel3 _ hother, read_channel3 a hother, WaveChannel.read_write _ hlast,
      masks_channel3 howns]
    simp only [registerOffset_eq_iff]
  split
  · next howns =>
    refine read_of_part Channel.channel4.Owns howns (fun hother => ?_) fun hother =>
      read_congr hin (fun _ => rfl) (fun _ => rfl) (fun _ => rfl)
        (fun howned => absurd howned hother) (fun _ => rfl) (fun _ => rfl)
    have hlast : registerOffset address 0xff20 ≤ 3 := by
      unfold registerOffset
      bv_omega
    rw [read_channel4 _ hother, read_channel4 a hother, NoiseChannel.read_write _ hlast,
      masks_channel4 howns]
    simp only [registerOffset_eq_iff]
  split
  · next heq =>
    refine read_of_part (· = 0xff24) heq (fun hother => ?_) fun hother =>
      read_congr hin (fun _ => rfl) (fun _ => rfl) (fun _ => rfl) (fun _ => rfl)
        (fun howned => absurd howned hother) (fun _ => rfl)
    subst heq hother
    exact hzero value
  split
  · next heq =>
    refine read_of_part (· = 0xff25) heq (fun hother => ?_) fun hother =>
      read_congr hin (fun _ => rfl) (fun _ => rfl) (fun _ => rfl) (fun _ => rfl)
        (fun _ => rfl) (fun howned => absurd howned hother)
    subst heq hother
    exact hzero value
  split
  · next hram =>
    have hother : other ≠ address := fun heq => not_inWaveRam hin (heq ▸ hram)
    rw [if_neg hother]
    have hrefl := SameRegisters.refl a
    have hsame : SameRegisters a { a with channel3 := a.channel3.writeWaveRam address value } :=
      ⟨hrefl.channel1, hrefl.channel2, a.channel3.sameRegisters_writeWaveRam address value,
        hrefl.channel4, rfl, rfl⟩
    exact hsame.read hin
  · next h1 h2 h3 h4 h24 h25 _ =>
    by_cases hother : other = address
    · -- FF15 and FF1F hold nothing.
      subst hother
      have hhole : other = 0xff15 ∨ other = 0xff1f := by
        obtain ⟨hfirst, hlast⟩ := hin
        bv_omega
      rw [if_pos rfl]
      have hones : ∀ value : Byte, 0xff = value ||| 0xff := by decide
      rcases hhole with rfl | rfl
      · exact hones value
      · exact hones value
    · rw [if_neg hother]

end Writes

/-! ## The refinement -/

/-- The unit shows what the file holds. -/
structure Presents (a : Apu M) (f : RegisterFile) : Prop where
  powered : a.masterEnabled = f.powered
  registers : ∀ address, inSoundRegisters address →
    a.read address = f.stored address ||| registerMask address

/-- A unit that is off shows a file of zeros. -/
theorem PoweredOff.read_registers {a : Apu M} (h : a.PoweredOff) {address : Word}
    (hin : inSoundRegisters address) : a.read address = registerMask address := by
  have hlast : address ≤ 0xff25 := hin.2
  exact h.read_mask hin.1 (by bv_omega) (ne_nr52 hin)

namespace Presents
variable {a b : Apu M} {f : RegisterFile}

theorem of_sameRegisters (h : a.Presents f) (hsame : SameRegisters a b)
    (hmaster : b.masterEnabled = a.masterEnabled) : b.Presents f :=
  ⟨hmaster.trans h.powered, fun address hin => (hsame.read hin).trans (h.registers address hin)⟩

/-- NR52. -/
theorem writeNr52 (h : a.Presents f) (hequipped : a.Equipped)
    (hoff : a.masterEnabled = false → a.PoweredOff) (value : Byte) :
    (a.write 0xff26 value).Presents (f.write 0xff26 value) := by
  unfold RegisterFile.write
  rw [if_pos rfl]
  by_cases hvalue : value &&& 0x80 = 0
  · have hpowered := writeNr52_off hequipped hoff hvalue
    rw [if_pos hvalue]
    refine ⟨hpowered.masterEnabled, fun address hin => ?_⟩
    rw [hpowered.read_registers hin]
    exact (BitVec.zero_or).symm
  · have hon : (a.write 0xff26 value).masterEnabled = true := by
      rw [write_ff26, writeNr52_masterEnabled]
      exact bne_iff_ne.mpr hvalue
    rw [if_neg hvalue]
    refine ⟨hon, fun address hin => ?_⟩
    have hsame : SameRegisters a (a.write 0xff26 value) := by
      have hrefl := SameRegisters.refl a
      have henable : (value &&& 0x80 != 0) = true := bne_iff_ne.mpr hvalue
      rw [write_ff26]
      unfold Apu.writeNr52
      rw [henable]
      dsimp only
      cases a.masterEnabled with
      | true => exact hrefl
      | false => exact ⟨hrefl.channel1, hrefl.channel2, hrefl.channel3, hrefl.channel4, rfl, rfl⟩
    exact (hsame.read hin).trans (h.registers address hin)

/-- Any other write. -/
theorem write (h : a.Presents f) (hequipped : a.Equipped)
    (hoff : a.masterEnabled = false → a.PoweredOff) (address : Word) (value : Byte) :
    (a.write address value).Presents (f.write address value) := by
  by_cases h52 : address = 0xff26
  · subst h52
    exact h.writeNr52 hequipped hoff value
  have hmaster := a.write_masterEnabled h52 value
  have hwrite : f.write address value =
      if f.powered then { f with stored := Function.update f.stored address value } else f :=
    if_neg h52
  rw [hwrite]
  by_cases h4 : address = 0xff04
  · -- DIV resets the divider, and is no sound register.
    subst h4
    have hdivider : SameRegisters a (a.write 0xff04 value) := by
      show SameRegisters a a.resetDivider
      rw [resetDivider_eq]
      exact SameRegisters.followed a _ _
    have hpresents := h.of_sameRegisters hdivider hmaster
    split
    · refine ⟨hpresents.powered, fun address hin => ?_⟩
      have hne : address ≠ 0xff04 := fun heq => by
        have hfirst : 0xff10 ≤ address := hin.1
        bv_omega
      dsimp only
      rw [Function.update_of_ne hne]
      exact hpresents.registers address hin
    · exact hpresents
  cases hon : a.masterEnabled with
  | true =>
    have hpowered : f.powered = true := h.powered.symm.trans hon
    rw [if_pos hpowered]
    refine ⟨(hmaster.trans hon).trans hpowered.symm, fun other hin => ?_⟩
    have hstep : a.write address value = a.writePoweredOn address value := by
      unfold Apu.write
      rw [if_neg h4, if_neg h52, if_pos hon]
    rw [hstep, read_writePoweredOn hequipped hin]
    dsimp only
    by_cases hother : other = address
    · subst hother
      rw [if_pos rfl, Function.update_self]
    · rw [if_neg hother, Function.update_of_ne hother, h.registers other hin]
  | false =>
    have hpowered : f.powered = false := h.powered.symm.trans hon
    have hbefore := hoff hon
    have hafter : (a.write address value).PoweredOff :=
      hbefore.write fun h => absurd h h52
    rw [hpowered, if_neg nofun]
    refine ⟨(hmaster.trans hon).trans hpowered.symm, fun other hin => ?_⟩
    have hkept := h.registers other hin
    rw [hbefore.read_registers hin] at hkept
    rwa [hafter.read_registers hin]

end Presents

/-- The unit as the boot ROM leaves it. -/
theorem presents_postBoot (sampleRate : Nat) :
    (Apu.new sampleRate : Apu M).Presents .postBoot := by
  refine ⟨rfl, fun address hin => ?_⟩
  obtain ⟨hfirst, hlast⟩ := hin
  have hlt : registerOffset address 0xff10 < 22 := by
    unfold registerOffset
    bv_omega
  have haddress : (0xff10 : Word) + BitVec.ofNat 16 (registerOffset address 0xff10) = address := by
    unfold registerOffset
    bv_omega
  have hboot : ∀ i < 22, (Apu.new 1 : Apu .mute).read (0xff10 + BitVec.ofNat 16 i) =
      RegisterFile.postBoot.stored (0xff10 + BitVec.ofNat 16 i) |||
        registerMask (0xff10 + BitVec.ofNat 16 i) := by decide +kernel
  have hvalue := hboot _ hlt
  rw [haddress] at hvalue
  exact hvalue

/-- **The sound registers are a register file**: after any writes, T-cycles and drains from
the boot ROM on, each of FF10 to FF25 reads what the file holds, with its mask. -/
theorem register_file {sampleRate : Nat} (hrate : 0 < sampleRate) (ops : List Op) :
    ((Apu.new sampleRate : Apu M).play ops).Presents (RegisterFile.postBoot.play ops) := by
  have hboot : (Apu.new sampleRate : Apu M).Presents .postBoot := presents_postBoot sampleRate
  have hstart : Reachable (Apu.system M sampleRate) (Apu.new sampleRate) := .start ⟨hrate, rfl⟩
  generalize RegisterFile.postBoot = f at hboot
  generalize (Apu.new sampleRate : Apu M) = a at hboot hstart
  induction ops generalizing a f with
  | nil => exact hboot
  | cons op ops ih =>
    refine ih (f.apply op) (a.apply op) ?_ (hstart.ofNext op)
    cases op with
    | write address value =>
      exact hboot.write (equipped_of_reachable hstart) (poweredOff_of_reachable hstart) address
        value
    | tickTCycle =>
      exact hboot.of_sameRegisters (SameRegisters.tickTCycle a) a.tickTCycle_masterEnabled
    | drainAudio =>
      have hrefl := SameRegisters.refl a
      have hsame : SameRegisters a (a.apply .drainAudio) :=
        ⟨hrefl.channel1, hrefl.channel2, hrefl.channel3, hrefl.channel4, rfl, rfl⟩
      exact hboot.of_sameRegisters hsame rfl

/-- An envelope is written, some time passes, and the unit is switched off and on. -/
theorem register_file_tone :
    ((Apu.new 44100 : Apu .mute).play
      [.write 0xff12 0x5a, .tickTCycle, .write 0xff26 0x00, .write 0xff26 0x80]).Presents
      (RegisterFile.postBoot.play
        [.write 0xff12 0x5a, .tickTCycle, .write 0xff26 0x00, .write 0xff26 0x80]) :=
  register_file (by decide) _

end Apu

end Pockiva
