import Pockiva.Apu.Invariants

/-! # The sound unit without power

Powering the unit off starts its channels over.  From then on only lengths and wave RAM
can be written, and nothing can be heard, until NR52 powers the unit on
(`powered_off_gating`).  The lengths start over too, although the unit can be given new
ones while it is off: `power_cycle` says when a power cycle leaves them as they were.
-/
namespace Pockiva

open Transition

variable {M : MixerModel}

/-! ## Channels that started over -/

namespace LengthCounter
variable {max : Nat}

/-- What a load of a raw value gives, for a maximum that is a power of two. -/
theorem load_eq (bits : Nat) (l : LengthCounter (2 ^ bits)) (raw : Byte) :
    l.load raw = ⟨2 ^ bits - raw.toNat % 2 ^ bits, l.enabled⟩ := by
  unfold load
  rw [Nat.and_two_pow_sub_one_eq_mod]

end LengthCounter

/-- A pulse channel of which only the length was written. -/
def PulseChannel.cleared (hasSweep : Bool) (remaining : Nat) : PulseChannel :=
  { PulseChannel.new hasSweep with length := ⟨remaining, false⟩ }

/-- A wave channel of which only the length and wave RAM were written. -/
def WaveChannel.cleared (remaining : Nat) (waveRam : Bytes 16) : WaveChannel :=
  { WaveChannel.initial with length := ⟨remaining, false⟩, waveRam := waveRam }

/-- A noise channel of which only the length was written. -/
def NoiseChannel.cleared (remaining : Nat) : NoiseChannel :=
  { NoiseChannel.initial with length := ⟨remaining, false⟩ }

theorem PulseChannel.cleared_load {c : PulseChannel} {kind : Bool} {remaining : Nat}
    (hc : c = .cleared kind remaining) {l : LengthCounter 64} (hl : l.enabled = false) :
    ({ c with length := l } : PulseChannel) = .cleared kind l.remaining := by
  subst hc
  cases l
  cases hl
  rfl

theorem WaveChannel.cleared_load {c : WaveChannel} {remaining : Nat} {ram : Bytes 16}
    (hc : c = .cleared remaining ram) {l : LengthCounter 256} (hl : l.enabled = false)
    (stored : Bytes 16) :
    ({ c with length := l, waveRam := stored } : WaveChannel) = .cleared l.remaining stored := by
  subst hc
  cases l
  cases hl
  rfl

theorem NoiseChannel.cleared_load {c : NoiseChannel} {remaining : Nat}
    (hc : c = .cleared remaining) {l : LengthCounter 64} (hl : l.enabled = false) :
    ({ c with length := l } : NoiseChannel) = .cleared l.remaining := by
  subst hc
  cases l
  cases hl
  rfl

/-- A pulse channel has a sweep or not, for good. -/
structure PulseChannel.Equipped (c : PulseChannel) (hasSweep : Bool) : Prop where
  kind : c.hasSweep = hasSweep
  sweep : c.sweep.isSome = hasSweep

namespace PulseChannel.Equipped
variable {c : PulseChannel} {hasSweep : Bool}

theorem new (hasSweep : Bool) : (PulseChannel.new hasSweep).Equipped hasSweep :=
  ⟨rfl, by cases hasSweep <;> rfl⟩

theorem triggerSweep (h : c.Equipped hasSweep) : c.triggerSweep.Equipped hasSweep := by
  unfold PulseChannel.triggerSweep
  cases hsweep : c.sweep with
  | none => exact h
  | some sweep => exact ⟨h.kind, by rw [← h.sweep, hsweep]; rfl⟩

theorem trigger (h : c.Equipped hasSweep) (next : Bool) : (c.trigger next).Equipped hasSweep :=
  triggerSweep ⟨h.kind, h.sweep⟩

theorem write (h : c.Equipped hasSweep) (register : Nat) (value : Byte) (next : Bool) :
    (c.write register value next).Equipped hasSweep := by
  unfold PulseChannel.write
  split
  · cases hsweep : c.sweep with
    | none => exact h
    | some sweep =>
      dsimp only
      split
      · exact ⟨h.kind, by rw [← h.sweep, hsweep]; rfl⟩
      · exact h
  · exact ⟨h.kind, h.sweep⟩
  · exact ⟨h.kind, h.sweep⟩
  · exact ⟨h.kind, h.sweep⟩
  · unfold PulseChannel.writeControl
    dsimp only
    split
    · refine trigger ?_ next
      exact ⟨h.kind, h.sweep⟩
    · exact ⟨h.kind, h.sweep⟩
  · exact h

theorem tickTCycle (h : c.Equipped hasSweep) : c.tickTCycle.Equipped hasSweep := by
  unfold PulseChannel.tickTCycle
  split <;> exact ⟨h.kind, h.sweep⟩

theorem clockSweep (h : c.Equipped hasSweep) : c.clockSweep.Equipped hasSweep := by
  unfold PulseChannel.clockSweep
  cases hsweep : c.sweep with
  | none => exact h
  | some sweep =>
    have hsome : (some sweep.clock.1).isSome = hasSweep := by rw [← h.sweep, hsweep]; rfl
    dsimp only
    split <;> exact ⟨h.kind, hsome⟩

theorem powerOff (h : c.Equipped hasSweep) : c.powerOff.Equipped hasSweep := by
  have hnew := new c.hasSweep
  rw [h.kind] at hnew
  unfold PulseChannel.powerOff
  rw [h.kind]
  exact hnew

end PulseChannel.Equipped

namespace Apu

/-- Channel 1 has a sweep, channel 2 has none. -/
structure Equipped (a : Apu M) : Prop where
  channel1 : a.channel1.Equipped true
  channel2 : a.channel2.Equipped false

namespace Equipped
variable {a : Apu M}

theorem new (sampleRate : Nat) : (Apu.new sampleRate : Apu M).Equipped where
  channel1 := ((((PulseChannel.Equipped.new true).write 0 0x00 true).write 1 0x80 true).write
    2 0xf3 true).write 3 0x00 true |>.write 4 0x80 true
  channel2 := .new false

theorem clockFrameSequencer (h : a.Equipped) : a.clockFrameSequencer.Equipped := by
  have hlength (c : PulseChannel) (b : Bool) (hc : c.Equipped b) : c.clockLength.Equipped b :=
    ⟨hc.kind, hc.sweep⟩
  have hone := hlength _ _ h.channel1
  have htwo := hlength _ _ h.channel2
  unfold Apu.clockFrameSequencer
  dsimp only
  split
  · exact ⟨hone, htwo⟩
  · exact ⟨hone, htwo⟩
  · exact ⟨hone.clockSweep, htwo⟩
  · exact ⟨hone.clockSweep, htwo⟩
  · exact ⟨⟨h.channel1.kind, h.channel1.sweep⟩, ⟨h.channel2.kind, h.channel2.sweep⟩⟩
  · exact ⟨h.channel1, h.channel2⟩

theorem writePoweredOff (h : a.Equipped) (address : Word) (value : Byte) :
    (a.writePoweredOff address value).Equipped := by
  unfold Apu.writePoweredOff
  repeat' split
  all_goals exact ⟨⟨h.channel1.kind, h.channel1.sweep⟩, ⟨h.channel2.kind, h.channel2.sweep⟩⟩

theorem writePoweredOn (h : a.Equipped) (address : Word) (value : Byte) :
    (a.writePoweredOn address value).Equipped := by
  unfold Apu.writePoweredOn
  dsimp only
  split
  · exact ⟨h.channel1.write _ _ _, h.channel2⟩
  split
  · exact ⟨h.channel1, h.channel2.write _ _ _⟩
  repeat' split
  all_goals exact ⟨h.channel1, h.channel2⟩

theorem write (h : a.Equipped) (address : Word) (value : Byte) :
    (a.write address value).Equipped := by
  unfold Apu.write
  split
  · unfold Apu.resetDivider
    dsimp only
    split
    · exact ⟨h.clockFrameSequencer.channel1, h.clockFrameSequencer.channel2⟩
    · exact ⟨h.channel1, h.channel2⟩
  split
  · unfold Apu.writeNr52
    dsimp only
    split
    · exact ⟨h.channel1.powerOff, h.channel2.powerOff⟩
    split
    · exact ⟨h.channel1, h.channel2⟩
    · exact h
  split
  · exact h.writePoweredOn address value
  · exact h.writePoweredOff address value

theorem tickTCycle (h : a.Equipped) : a.tickTCycle.Equipped := by
  have hdivider : a.tickDivider.Equipped := by
    unfold Apu.tickDivider
    dsimp only
    split
    · exact clockFrameSequencer ⟨h.channel1, h.channel2⟩
    · exact ⟨h.channel1, h.channel2⟩
  have hchannels : a.tickDivider.tickChannels.Equipped := by
    unfold Apu.tickChannels
    split
    · exact ⟨hdivider.channel1.tickTCycle, hdivider.channel2.tickTCycle⟩
    · exact hdivider
  obtain ⟨samplePhase, mixer, heq⟩ := afterFrames_eq (a.clocked.samplePhase / dmgClockHz) a.clocked
  rw [tickTCycle_eq, heq]
  exact ⟨hchannels.channel1, hchannels.channel2⟩

end Equipped

theorem equipped_of_reachable {sampleRate : Nat} {a : Apu M}
    (h : Reachable (Apu.system M sampleRate) a) : a.Equipped := by
  refine h.invariant ?_ ?_
  · rintro a ⟨-, rfl⟩
    exact .new sampleRate
  · rintro a op b ha rfl
    cases op with
    | write address value => exact ha.write address value
    | tickTCycle => exact ha.tickTCycle
    | drainAudio => exact ⟨ha.channel1, ha.channel2⟩

/-! ## A unit that started over -/

/-- The channels and the volume registers as a power-off leaves them, but for lengths and
wave RAM. -/
structure Cleared (a : Apu M) : Prop where
  nr50 : a.nr50 = 0
  nr51 : a.nr51 = 0
  channel1 : a.channel1 = .cleared true a.channel1.length.remaining
  channel2 : a.channel2 = .cleared false a.channel2.length.remaining
  channel3 : a.channel3 = .cleared a.channel3.length.remaining a.channel3.waveRam
  channel4 : a.channel4 = .cleared a.channel4.length.remaining

/-- What the registers FF10 to FF2F of a unit without power read. -/
def poweredOffMasks : List Byte :=
  [0x80, 0x3f, 0x00, 0xff, 0xbf,
   0xff, 0x3f, 0x00, 0xff, 0xbf,
   0x7f, 0xff, 0x9f, 0xff, 0xbf,
   0xff, 0xff, 0x00, 0x00, 0xbf,
   0x00, 0x00, 0x70,
   0xff, 0xff, 0xff, 0xff, 0xff, 0xff, 0xff, 0xff, 0xff]

namespace Cleared
variable {a : Apu M}

/-- No register but NR52 tells two such units apart. -/
theorem read_eq (h : a.Cleared) {N : MixerModel} {b : Apu N} (hb : b.Cleared) {address : Word}
    (h52 : address ≠ 0xff26) (hwave : ¬ (0xff30 ≤ address ∧ address ≤ 0xff3f)) :
    a.read address = b.read address := by
  have hpulse (kind : Bool) (n m register : Nat) :
      (PulseChannel.cleared kind n).read register = (PulseChannel.cleared kind m).read register :=
    rfl
  have hone := hpulse true a.channel1.length.remaining b.channel1.length.remaining
  have htwo := hpulse false a.channel2.length.remaining b.channel2.length.remaining
  unfold Apu.read
  rw [if_neg h52, if_neg h52, if_neg hwave, if_neg hwave, h.nr50, h.nr51, hb.nr50, hb.nr51,
    h.channel1, h.channel2, h.channel3, h.channel4, hb.channel1, hb.channel2, hb.channel3,
    hb.channel4, hone, htwo]
  rfl

/-- Such a unit reads the masks, but for NR52. -/
theorem read_mask (h : a.Cleared) {address : Word} (hfirst : 0xff10 ≤ address)
    (hlast : address ≤ 0xff2f) (h52 : address ≠ 0xff26) :
    a.read address = poweredOffMasks.getD (registerOffset address 0xff10) 0 := by
  have hunit : (Apu.new 1 : Apu .mute).powerOff.Cleared := by constructor <;> rfl
  have hmasks : ∀ i < 32, i ≠ 22 →
      (Apu.new 1 : Apu .mute).powerOff.read (0xff10 + BitVec.ofNat 16 i) =
        poweredOffMasks.getD i 0 := by decide +kernel
  have hlt : registerOffset address 0xff10 < 32 := by
    unfold registerOffset
    bv_omega
  have hne : registerOffset address 0xff10 ≠ 22 := by
    unfold registerOffset
    bv_omega
  have haddress : (0xff10 : Word) + BitVec.ofNat 16 (registerOffset address 0xff10) = address := by
    unfold registerOffset
    bv_omega
  have hmask := hmasks _ hlt hne
  rw [haddress] at hmask
  rw [← hmask]
  refine h.read_eq hunit h52 ?_
  bv_omega

theorem inactive (h : a.Cleared) :
    a.channel1.active = false ∧ a.channel2.active = false ∧ a.channel3.active = false ∧
      a.channel4.active = false := by
  rw [h.channel1, h.channel2, h.channel3, h.channel4]
  exact ⟨rfl, rfl, rfl, rfl⟩

/-- NR52 shows the master enable and no channel. -/
theorem readNr52 (h : a.Cleared) :
    a.read 0xff26 = 0x70 ||| (byteOfBool a.masterEnabled <<< 7) := by
  obtain ⟨hone, htwo, hthree, hfour⟩ := h.inactive
  show a.readNr52 = _
  unfold Apu.readNr52
  rw [hone, htwo, hthree, hfour]
  cases a.masterEnabled <;> rfl

/-- Wave RAM can be read: the wave channel does not play. -/
theorem readWaveRam (h : a.Cleared) {address : Word} (hfirst : 0xff30 ≤ address)
    (hlast : address ≤ 0xff3f) :
    a.read address = a.channel3.waveRam.get (address - 0xff30).toNat := by
  have henabled : a.channel3.enabled = false := h.inactive.2.2.1
  unfold Apu.read
  rw [if_neg, if_neg, if_neg, if_neg, if_neg, if_neg, if_neg, if_pos ⟨hfirst, hlast⟩,
    WaveChannel.readWaveRam, if_pos henabled]
  all_goals bv_omega

/-- The frame sequencer finds nothing to clock. -/
theorem clockFrameSequencer (h : a.Cleared) :
    a.clockFrameSequencer = { a with frameStep := (a.frameStep + 1) % 8 } := by
  have hlengths : a.clockLengths = a := by
    have hone : a.channel1.clockLength = a.channel1 := by rw [h.channel1]; rfl
    have htwo : a.channel2.clockLength = a.channel2 := by rw [h.channel2]; rfl
    have hthree : a.channel3.clockLength = a.channel3 := by rw [h.channel3]; rfl
    have hfour : a.channel4.clockLength = a.channel4 := by rw [h.channel4]; rfl
    unfold clockLengths
    rw [hone, htwo, hthree, hfour]
  have henvelopes : a.clockEnvelopes = a := by
    have hone : a.channel1.clockEnvelope = a.channel1 := by rw [h.channel1]; rfl
    have htwo : a.channel2.clockEnvelope = a.channel2 := by rw [h.channel2]; rfl
    have hfour : a.channel4.clockEnvelope = a.channel4 := by rw [h.channel4]; rfl
    unfold clockEnvelopes
    rw [hone, htwo, hfour]
  have hsweep : a.channel1.clockSweep = a.channel1 := by rw [h.channel1]; rfl
  unfold Apu.clockFrameSequencer
  rw [hlengths, henvelopes, hsweep]
  dsimp only
  split <;> rfl

end Cleared

/-- The unit is off, and what it has generated since is silence. -/
structure PoweredOff (a : Apu M) : Prop extends a.Cleared where
  masterEnabled : a.masterEnabled = false
  silent : ∀ sample ∈ a.pcm.samples, sample = M.silence

/-- A counter after a write to `address`, which loads it if that is its register. -/
def loadedAt {max : Nat} (register address : Word) (value : Byte) (l : LengthCounter max) :
    LengthCounter max :=
  if address = register then ⟨max - value.toNat % max, l.enabled⟩ else l

theorem loadedAt_self {max : Nat} (register : Word) (value : Byte) (l : LengthCounter max) :
    loadedAt register register value l = ⟨max - value.toNat % max, l.enabled⟩ := if_pos rfl

theorem loadedAt_of_ne {max : Nat} {register address : Word} (h : address ≠ register)
    (value : Byte) (l : LengthCounter max) : loadedAt register address value l = l := if_neg h

/-- Wave RAM after a write to `address`. -/
def storedAt (address : Word) (value : Byte) (waveRam : Bytes 16) : Bytes 16 :=
  if 0xff30 ≤ address ∧ address ≤ 0xff3f then waveRam.set (address - 0xff30).toNat value
  else waveRam

/-- The lengths and wave RAM after a write, everything else as it was. -/
def loaded (a : Apu M) (address : Word) (value : Byte) : Apu M :=
  { a with
    channel1 := { a.channel1 with length := loadedAt 0xff11 address value a.channel1.length }
    channel2 := { a.channel2 with length := loadedAt 0xff16 address value a.channel2.length }
    channel3 :=
      { a.channel3 with
        length := loadedAt 0xff1b address value a.channel3.length
        waveRam := storedAt address value a.channel3.waveRam }
    channel4 := { a.channel4 with length := loadedAt 0xff20 address value a.channel4.length } }

/-- The operation does not power the unit on. -/
def Op.KeepsOff : Op → Prop
  | .write address value => address = 0xff26 → value &&& 0x80 = 0
  | .tickTCycle => True
  | .drainAudio => True

instance : DecidablePred Op.KeepsOff
  | .write address value =>
    inferInstanceAs (Decidable (address = 0xff26 → value &&& 0x80 = 0))
  | .tickTCycle => instDecidableTrue
  | .drainAudio => instDecidableTrue

namespace PoweredOff
variable {a : Apu M}

/-- The pulse channels take the low six bits, and so do the others what they count. -/
theorem load_masked (l : LengthCounter 64) (value : Byte) :
    l.load (value &&& 0x3f) = ⟨64 - value.toNat % 64, l.enabled⟩ := by
  have hmask : (value &&& 0x3f).toNat % 2 ^ 6 = value.toNat % 2 ^ 6 := by
    rw [BitVec.toNat_and]
    show (value.toNat &&& (2 ^ 6 - 1)) % 2 ^ 6 = _
    rw [Nat.and_two_pow_sub_one_eq_mod, Nat.mod_mod]
  have hload := LengthCounter.load_eq 6 l (value &&& 0x3f)
  rw [hmask] at hload
  exact hload

/-- **What a write can do**: no register but those of the lengths can be written. -/
theorem write_eq (h : a.PoweredOff) {address : Word} {value : Byte} (h4 : address ≠ 0xff04)
    (h52 : (Op.write address value).KeepsOff) :
    a.write address value = a.loaded address value := by
  have hunit : a.write address value = a.writePoweredOff address value := by
    unfold Apu.write
    rw [if_neg h4]
    by_cases h26 : address = 0xff26
    · -- NR52 takes the off branch, which does nothing to a unit that is off.
      have hdisable : (value &&& 0x80 != 0) = false := bne_eq_false_iff_eq.mpr (h52 h26)
      rw [if_pos h26]
      subst h26
      unfold writeNr52
      dsimp only
      rw [hdisable, h.masterEnabled]
      rfl
    · rw [if_neg h26, h.masterEnabled]
      rfl
  rw [hunit]
  unfold writePoweredOff loaded storedAt
  -- One case for each register of a length, in the order of the source; then wave RAM.
  by_cases h11 : address = 0xff11
  · subst h11
    rw [if_pos rfl, loadedAt_self, loadedAt_of_ne (by decide), loadedAt_of_ne (by decide),
      loadedAt_of_ne (by decide), if_neg (by decide), PulseChannel.writeLengthWhilePoweredOff,
      load_masked]
  rw [if_neg h11, loadedAt_of_ne h11]
  by_cases h16 : address = 0xff16
  · subst h16
    rw [if_pos rfl, loadedAt_self, loadedAt_of_ne (by decide), loadedAt_of_ne (by decide),
      if_neg (by decide), PulseChannel.writeLengthWhilePoweredOff, load_masked]
  rw [if_neg h16, loadedAt_of_ne h16]
  by_cases h1b : address = 0xff1b
  · subst h1b
    have hload : a.channel3.length.load value =
        ⟨256 - value.toNat % 256, a.channel3.length.enabled⟩ := LengthCounter.load_eq 8 _ value
    rw [if_pos rfl, loadedAt_self, loadedAt_of_ne (by decide), if_neg (by decide), ← hload]
    rfl
  rw [if_neg h1b, loadedAt_of_ne h1b]
  by_cases h20 : address = 0xff20
  · subst h20
    rw [if_pos rfl, loadedAt_self, if_neg (by decide), ← load_masked]
    rfl
  rw [if_neg h20, loadedAt_of_ne h20]
  have hidle : a.channel3.enabled = false := h.inactive.2.2.1
  split
  · rw [WaveChannel.writeWaveRam, if_pos hidle]
  · rfl

/-- A write leaves the unit without power. -/
theorem loaded (h : a.PoweredOff) (address : Word) (value : Byte) :
    (a.loaded address value).PoweredOff := by
  have hlength {max : Nat} (register : Word) {l : LengthCounter max} (hl : l.enabled = false) :
      (loadedAt register address value l).enabled = false := by
    unfold loadedAt
    split <;> exact hl
  have hone : a.channel1.length.enabled = false := by rw [h.channel1]; rfl
  have htwo : a.channel2.length.enabled = false := by rw [h.channel2]; rfl
  have hthree : a.channel3.length.enabled = false := by rw [h.channel3]; rfl
  have hfour : a.channel4.length.enabled = false := by rw [h.channel4]; rfl
  refine ⟨⟨h.nr50, h.nr51, ?_, ?_, ?_, ?_⟩, h.masterEnabled, h.silent⟩
  · exact PulseChannel.cleared_load h.channel1 (hlength 0xff11 hone)
  · exact PulseChannel.cleared_load h.channel2 (hlength 0xff16 htwo)
  · exact WaveChannel.cleared_load h.channel3 (hlength 0xff1b hthree) _
  · exact NoiseChannel.cleared_load h.channel4 (hlength 0xff20 hfour)

/-- Dividers, phases and the mixer say nothing about the power. -/
theorem timed (h : a.PoweredOff) (mirror : Word) (step phase : Nat) (mixer : M.Mixer) :
    ({ a with dividerMirror := mirror, frameStep := step, samplePhase := phase, mixer := mixer } :
      Apu M).PoweredOff :=
  ⟨⟨h.nr50, h.nr51, h.channel1, h.channel2, h.channel3, h.channel4⟩, h.masterEnabled, h.silent⟩

/-- A write to DIV only clocks the frame sequencer. -/
theorem resetDivider (h : a.PoweredOff) : a.resetDivider.PoweredOff := by
  unfold Apu.resetDivider
  dsimp only
  split
  · rw [h.clockFrameSequencer]
    exact h.timed 0 _ a.samplePhase a.mixer
  · exact h.timed 0 a.frameStep a.samplePhase a.mixer

theorem write (h : a.PoweredOff) {address : Word} {value : Byte}
    (h52 : (Op.write address value).KeepsOff) : (a.write address value).PoweredOff := by
  by_cases h4 : address = 0xff04
  · rw [Apu.write, if_pos h4]
    exact h.resetDivider
  · rw [h.write_eq h4 h52]
    exact h.loaded address value

/-! ### Time -/

theorem frame_eq (h : a.PoweredOff) : a.frame = (M.silence, M.silence) := by
  unfold frame
  rw [h.masterEnabled]
  rfl

/-- The channels stand still. -/
theorem clocked_eq (h : a.PoweredOff) : ∃ mirror step phase, a.clocked =
    { a with dividerMirror := mirror, frameStep := step, samplePhase := phase } := by
  have hdivider : ∃ mirror step, a.tickDivider =
      { a with dividerMirror := mirror, frameStep := step } := by
    have hticked := h.timed (a.dividerMirror + 1) a.frameStep a.samplePhase a.mixer
    unfold tickDivider
    dsimp only
    split
    · rw [hticked.clockFrameSequencer]
      exact ⟨_, _, rfl⟩
    · exact ⟨_, a.frameStep, rfl⟩
  obtain ⟨mirror, step, hdivider⟩ := hdivider
  have hchannels : a.tickDivider.tickChannels = a.tickDivider := by
    unfold tickChannels
    rw [hdivider, h.masterEnabled]
    rfl
  unfold Apu.clocked
  rw [hchannels, hdivider]
  exact ⟨mirror, step, _, rfl⟩

theorem clocked (h : a.PoweredOff) : a.clocked.PoweredOff := by
  obtain ⟨mirror, step, phase, heq⟩ := h.clocked_eq
  rw [heq]
  exact h.timed mirror step phase a.mixer

/-- Every frame that is due is silence. -/
theorem framesDue_silent (h : a.PoweredOff) (due : Nat) :
    ∀ frame ∈ framesDue due a, frame = (M.silence, M.silence) := by
  induction due generalizing a with
  | zero => exact nofun
  | succ due ih =>
    have hafter : a.afterFrame.PoweredOff := h.timed a.dividerMirror a.frameStep _ _
    intro frame hframe
    rw [framesDue] at hframe
    split at hframe
    · rcases List.mem_cons.mp hframe with rfl | hrest
      · exact h.frame_eq
      · exact ih hafter frame hrest
    · exact absurd hframe List.not_mem_nil

end PoweredOff

end Apu

namespace PcmBuffer

theorem mem_pushStereo {b : PcmBuffer M} {left right sample : M.Sample}
    (h : sample ∈ (b.pushStereo left right).samples) :
    sample ∈ b.samples ∨ sample = left ∨ sample = right := by
  unfold pushStereo at h
  dsimp only at h
  rcases List.mem_append.mp h with hold | hnew
  · left
    split at hold
    · exact List.mem_of_mem_drop hold
    · exact hold
  · right
    simpa using hnew

/-- Silence stays silence. -/
theorem pushAll_silent {b : PcmBuffer M} (h : ∀ sample ∈ b.samples, sample = M.silence)
    {frames : List (M.Sample × M.Sample)}
    (hframes : ∀ frame ∈ frames, frame = (M.silence, M.silence)) :
    ∀ sample ∈ (b.pushAll frames).samples, sample = M.silence := by
  induction frames generalizing b with
  | nil => exact h
  | cons frame frames ih =>
    rw [pushAll_cons]
    refine ih ?_ fun frame hframe => hframes frame (List.mem_cons_of_mem _ hframe)
    intro sample hsample
    have hfirst := hframes frame List.mem_cons_self
    rw [hfirst] at hsample
    rcases mem_pushStereo hsample with hold | rfl | rfl
    · exact h sample hold
    · rfl
    · rfl

end PcmBuffer

namespace Apu

namespace PoweredOff
variable {a : Apu M}

/-- A T-cycle generates silence. -/
theorem framesOfTick_silent (h : a.PoweredOff) :
    ∀ frame ∈ a.framesOfTick, frame = (M.silence, M.silence) :=
  h.clocked.framesDue_silent _

theorem afterFrames (h : a.PoweredOff) (due : Nat) : (afterFrames due a).PoweredOff := by
  obtain ⟨samplePhase, mixer, heq⟩ := afterFrames_eq due a
  rw [heq]
  exact h.timed a.dividerMirror a.frameStep samplePhase mixer

theorem tickTCycle (h : a.PoweredOff) : a.tickTCycle.PoweredOff := by
  have hlast := h.clocked.afterFrames (a.clocked.samplePhase / dmgClockHz)
  have hsilent := PcmBuffer.pushAll_silent h.clocked.silent h.framesOfTick_silent
  rw [tickTCycle_eq]
  exact ⟨⟨hlast.nr50, hlast.nr51, hlast.channel1, hlast.channel2, hlast.channel3,
    hlast.channel4⟩, hlast.masterEnabled, hsilent⟩

/-- Time leaves the lengths and wave RAM alone. -/
theorem tickTCycle_channels (h : a.PoweredOff) :
    a.tickTCycle.channel1 = a.channel1 ∧ a.tickTCycle.channel2 = a.channel2 ∧
      a.tickTCycle.channel3 = a.channel3 ∧ a.tickTCycle.channel4 = a.channel4 := by
  obtain ⟨mirror, step, phase, hclocked⟩ := h.clocked_eq
  obtain ⟨samplePhase, mixer, heq⟩ := afterFrames_eq (a.clocked.samplePhase / dmgClockHz) a.clocked
  rw [tickTCycle_eq, heq, hclocked]
  exact ⟨rfl, rfl, rfl, rfl⟩

/-- **Nothing but NR52 ends it.** -/
theorem apply (h : a.PoweredOff) {op : Op} (hop : op.KeepsOff) : (a.apply op).PoweredOff := by
  cases op with
  | write address value => exact h.write hop
  | tickTCycle => exact h.tickTCycle
  | drainAudio =>
    exact ⟨⟨h.nr50, h.nr51, h.channel1, h.channel2, h.channel3, h.channel4⟩, h.masterEnabled,
      nofun⟩

end PoweredOff

/-! ## The power switch -/

theorem writeNr52_masterEnabled (a : Apu M) (value : Byte) :
    (a.writeNr52 value).masterEnabled = (value &&& 0x80 != 0) := by
  unfold writeNr52
  dsimp only
  cases hmaster : a.masterEnabled with
  | true =>
    cases value &&& 0x80 != 0 with
    | true => exact hmaster
    | false => rfl
  | false =>
    cases value &&& 0x80 != 0 with
    | true => rfl
    | false => exact hmaster

theorem clockFrameSequencer_masterEnabled (a : Apu M) :
    a.clockFrameSequencer.masterEnabled = a.masterEnabled := by
  unfold clockFrameSequencer
  dsimp only
  split <;> rfl

theorem tickTCycle_masterEnabled (a : Apu M) :
    a.tickTCycle.masterEnabled = a.masterEnabled := by
  have hdivider : a.tickDivider.masterEnabled = a.masterEnabled := by
    unfold tickDivider
    dsimp only
    split
    · exact clockFrameSequencer_masterEnabled _
    · rfl
  have hchannels : a.tickDivider.tickChannels.masterEnabled = a.tickDivider.masterEnabled := by
    unfold tickChannels
    split <;> rfl
  obtain ⟨samplePhase, mixer, heq⟩ := afterFrames_eq (a.clocked.samplePhase / dmgClockHz) a.clocked
  rw [tickTCycle_eq, heq]
  exact hchannels.trans hdivider

/-- No register but NR52 switches the unit. -/
theorem write_masterEnabled (a : Apu M) {address : Word} (h : address ≠ 0xff26) (value : Byte) :
    (a.write address value).masterEnabled = a.masterEnabled := by
  unfold write
  split
  · unfold resetDivider
    dsimp only
    split
    · exact a.clockFrameSequencer_masterEnabled
    · rfl
  split
  · obtain ⟨_, _, _, _, _, _, heq⟩ := a.writePoweredOn_eq address value
    rw [heq]
  · obtain ⟨_, _, _, _, heq⟩ := a.writePoweredOff_eq address value
    rw [heq]

theorem write_ff26 (a : Apu M) (value : Byte) : a.write 0xff26 value = a.writeNr52 value := rfl

theorem powerOff_poweredOff {a : Apu M} (h : a.Equipped) : a.powerOff.PoweredOff := by
  refine ⟨⟨rfl, rfl, ?_, ?_, rfl, rfl⟩, rfl, nofun⟩
  · show PulseChannel.new a.channel1.hasSweep = _
    rw [h.channel1.kind]
    rfl
  · show PulseChannel.new a.channel2.hasSweep = _
    rw [h.channel2.kind]
    rfl

/-- NR52 switches the unit off, or finds it off. -/
theorem writeNr52_off {a : Apu M} (h : a.Equipped) (hoff : a.masterEnabled = false → a.PoweredOff)
    {value : Byte} (hvalue : value &&& 0x80 = 0) : (a.write 0xff26 value).PoweredOff := by
  have hdisable : (value &&& 0x80 != 0) = false := bne_eq_false_iff_eq.mpr hvalue
  rw [write_ff26, writeNr52, hdisable]
  cases hmaster : a.masterEnabled with
  | true => exact powerOff_poweredOff h
  | false => exact hoff hmaster

/-- **A unit that is off started over when it was powered off.** -/
theorem poweredOff_of_reachable {sampleRate : Nat} {a : Apu M}
    (h : Reachable (Apu.system M sampleRate) a) (hoff : a.masterEnabled = false) :
    a.PoweredOff := by
  -- A power-off builds the channels anew, and needs to know which of them has a sweep.
  suffices hboth : a.Equipped ∧ (a.masterEnabled = false → a.PoweredOff) from hboth.2 hoff
  clear hoff
  induction h with
  | start hstart =>
    obtain ⟨-, rfl⟩ := hstart
    exact ⟨.new _, nofun⟩
  | @step a b op h hstep ih =>
    have hb := equipped_of_reachable (h.step hstep)
    refine ⟨hb, ?_⟩
    cases hstep
    intro hoff
    cases op with
    | write address value =>
      by_cases h26 : address = 0xff26
      · subst h26
        have hdisabled : (value &&& 0x80 != 0) = false :=
          (a.writeNr52_masterEnabled value).symm.trans hoff
        exact writeNr52_off ih.1 ih.2 (bne_eq_false_iff_eq.mp hdisabled)
      · -- Any other write leaves the switch, so the unit was off before.
        have hbefore := (a.write_masterEnabled h26 value).symm.trans hoff
        exact (ih.2 hbefore).write fun h => absurd h h26
    | tickTCycle => exact (ih.2 (a.tickTCycle_masterEnabled.symm.trans hoff)).tickTCycle
    | drainAudio =>
      have hkeeps : Op.drainAudio.KeepsOff := trivial
      exact (ih.2 hoff).apply hkeeps

/-! ## Gating -/

/-- The unit after some operations. -/
def play (a : Apu M) (ops : List Op) : Apu M := ops.foldl apply a

theorem play_append (a : Apu M) (ops more : List Op) :
    a.play (ops ++ more) = (a.play ops).play more := List.foldl_append

theorem PoweredOff.play {a : Apu M} (h : a.PoweredOff) {ops : List Op}
    (hops : ∀ op ∈ ops, op.KeepsOff) : (a.play ops).PoweredOff := by
  induction ops generalizing a with
  | nil => exact h
  | cons op ops ih =>
    exact ih (h.apply (hops op List.mem_cons_self)) fun op hop =>
      hops op (List.mem_cons_of_mem _ hop)

/-- What a unit without power shows, plays and takes in. -/
structure Gated (a : Apu M) : Prop where
  masked : ∀ address : Word, 0xff10 ≤ address → address ≤ 0xff2f →
    a.read address = poweredOffMasks.getD (registerOffset address 0xff10) 0
  nr52 : a.read 0xff26 = 0x70
  inactive : a.channel1.active = false ∧ a.channel2.active = false ∧ a.channel3.active = false ∧
    a.channel4.active = false
  /-- The samples that wait, and those of the next T-cycle. -/
  silent : (∀ sample ∈ a.pcm.samples, sample = M.silence) ∧
    ∀ frame ∈ a.framesOfTick, frame = (M.silence, M.silence)
  /-- A write loads the length of its register, if it has one, and stores to wave RAM. -/
  written : ∀ address value, address ≠ 0xff04 → (Op.write address value).KeepsOff →
    a.write address value = a.loaded address value
  readable : ∀ address : Word, 0xff30 ≤ address → address ≤ 0xff3f →
    a.read address = a.channel3.waveRam.get (address - 0xff30).toNat
  /-- A byte of wave RAM can be replaced, and only that byte changes. -/
  writable : ∀ address other value, 0xff30 ≤ address → address ≤ 0xff3f →
    0xff30 ≤ other → other ≤ 0xff3f →
    (a.write address value).read other = if other = address then value else a.read other

/-- Wave RAM reads back what was stored. -/
theorem storedAt_get {address other : Word} (hfirst : 0xff30 ≤ address)
    (hlast : address ≤ 0xff3f) (hother : 0xff30 ≤ other) (hother' : other ≤ 0xff3f)
    (value : Byte) (ram : Bytes 16) :
    (storedAt address value ram).get (other - 0xff30).toNat =
      if other = address then value else ram.get (other - 0xff30).toNat := by
  unfold storedAt
  rw [if_pos ⟨hfirst, hlast⟩]
  by_cases hsame : other = address
  · subst hsame
    rw [if_pos rfl, Bytes.get_set_self]
    bv_omega
  · rw [if_neg hsame, Bytes.get_set_of_ne]
    bv_omega

theorem PoweredOff.gated {a : Apu M} (h : a.PoweredOff) : a.Gated where
  masked address hfirst hlast := by
    by_cases h52 : address = 0xff26
    · subst h52
      rw [h.readNr52, h.masterEnabled]
      rfl
    · exact h.read_mask hfirst hlast h52
  nr52 := by
    rw [h.readNr52, h.masterEnabled]
    rfl
  inactive := h.inactive
  silent := ⟨h.silent, h.framesOfTick_silent⟩
  written address value h4 h52 := h.write_eq h4 h52
  readable address hfirst hlast := h.readWaveRam hfirst hlast
  writable address other value hfirst hlast hother hother' := by
    have h4 : address ≠ 0xff04 := by bv_omega
    have h52 : (Op.write address value).KeepsOff := fun h26 => by bv_omega
    rw [h.write_eq h4 h52, (h.loaded address value).readWaveRam hother hother',
      h.readWaveRam hother hother']
    exact storedAt_get hfirst hlast hother hother' value _

/-- **Powered-off gating**: from a power-off on, whatever is written, as long as it is not
bit 7 of NR52. -/
theorem powered_off_gating {sampleRate : Nat} {a : Apu M}
    (h : Reachable (Apu.system M sampleRate) a) {value : Byte} (hvalue : value &&& 0x80 = 0)
    {ops : List Op} (hops : ∀ op ∈ ops, op.KeepsOff) : ((a.write 0xff26 value).play ops).Gated := by
  have hoff := writeNr52_off (equipped_of_reachable h) (poweredOff_of_reachable h) hvalue
  exact (hoff.play hops).gated

/-- A trigger while the unit is off. -/
theorem powered_off_gating_trigger :
    (((Apu.new 44100 : Apu .mute).write 0xff26 0x00).play
      [.write 0xff11 0x3f, .write 0xff12 0xf0, .tickTCycle, .write 0xff14 0xc0,
        .write 0xff04 0x00]).Gated := by
  have hnew : Reachable (Apu.system .mute 44100) (Apu.new 44100) := .start ⟨by decide, rfl⟩
  exact powered_off_gating hnew (by decide) (by decide)

/-! ## A power cycle -/

/-- The unit switched off with one write to NR52 and on with another, some T-cycles later. -/
def powerCycle (a : Apu M) (off : Byte) (ticks : Nat) (on : Byte) : Apu M :=
  ((a.write 0xff26 off).play (List.replicate ticks .tickTCycle)).write 0xff26 on

/-- What a length counter of the unit has left. -/
def lengths (a : Apu M) : List Nat :=
  [a.channel1.length.remaining, a.channel2.length.remaining, a.channel3.length.remaining,
    a.channel4.length.remaining]

/-- The unit `b` has the lengths and wave RAM of `a`, and everything else is cleared. -/
structure KeptLengths (a b : Apu M) : Prop where
  lengths : b.lengths = a.lengths
  waveRam : b.channel3.waveRam = a.channel3.waveRam
  cleared : ∀ address : Word, 0xff10 ≤ address → address ≤ 0xff2f → address ≠ 0xff26 →
    b.read address = poweredOffMasks.getD (registerOffset address 0xff10) 0
  nr52 : b.read 0xff26 = 0xf0
  inactive : b.channel1.active = false ∧ b.channel2.active = false ∧ b.channel3.active = false ∧
    b.channel4.active = false

/-- A power cycle keeps what the power-off keeps. -/
theorem powerCycle_of_off {a : Apu M} {off on : Byte} (hoff : (a.write 0xff26 off).PoweredOff)
    (hon : on &&& 0x80 ≠ 0) (ticks : Nat) :
    (a.powerCycle off ticks on).Cleared ∧
      (a.powerCycle off ticks on).masterEnabled = true ∧
      (a.powerCycle off ticks on).lengths = (a.write 0xff26 off).lengths ∧
      (a.powerCycle off ticks on).channel3.waveRam = (a.write 0xff26 off).channel3.waveRam := by
  unfold powerCycle
  generalize a.write 0xff26 off = b at hoff
  have hwaited : (b.play (List.replicate ticks .tickTCycle)).PoweredOff ∧
      (b.play (List.replicate ticks .tickTCycle)).lengths = b.lengths ∧
      (b.play (List.replicate ticks .tickTCycle)).channel3.waveRam = b.channel3.waveRam := by
    induction ticks generalizing b with
    | zero => exact ⟨hoff, rfl, rfl⟩
    | succ ticks ih =>
      obtain ⟨hone, htwo, hthree, hfour⟩ := hoff.tickTCycle_channels
      obtain ⟨hrest, hlengths, hram⟩ := ih b.tickTCycle hoff.tickTCycle
      refine ⟨hrest, hlengths.trans ?_, hram.trans ?_⟩
      · rw [lengths, lengths, hone, htwo, hthree, hfour]
      · rw [hthree]
  obtain ⟨hwaiting, hlengths, hram⟩ := hwaited
  generalize b.play (List.replicate ticks .tickTCycle) = c at hwaiting hlengths hram
  have henable : (on &&& 0x80 != 0) = true := bne_iff_ne.mpr hon
  rw [write_ff26, writeNr52, henable, hwaiting.masterEnabled]
  exact ⟨⟨hwaiting.nr50, hwaiting.nr51, hwaiting.channel1, hwaiting.channel2, hwaiting.channel3,
    hwaiting.channel4⟩, rfl, hlengths, hram⟩

/-- What a power-off keeps: wave RAM always, the lengths only of a unit that is off. -/
theorem writeNr52_kept (a : Apu M) {off : Byte} (hoff : off &&& 0x80 = 0) :
    (a.write 0xff26 off).channel3.waveRam = a.channel3.waveRam ∧
      (a.write 0xff26 off).lengths = if a.masterEnabled then [0, 0, 0, 0] else a.lengths := by
  have hdisable : (off &&& 0x80 != 0) = false := bne_eq_false_iff_eq.mpr hoff
  rw [write_ff26, writeNr52, hdisable]
  cases a.masterEnabled with
  | true => exact ⟨rfl, rfl⟩
  | false => exact ⟨rfl, rfl⟩

/-- **A power cycle**, from any state of the unit: it leaves the lengths as they were when
the unit was off before, or when all four have run out. -/
theorem power_cycle {sampleRate : Nat} {a : Apu M} (h : Reachable (Apu.system M sampleRate) a)
    {off on : Byte} (hoff : off &&& 0x80 = 0) (hon : on &&& 0x80 ≠ 0) (ticks : Nat) :
    KeptLengths a (a.powerCycle off ticks on) ↔
      (a.masterEnabled = true → ∀ remaining ∈ a.lengths, remaining = 0) := by
  have hpowered := writeNr52_off (equipped_of_reachable h) (poweredOff_of_reachable h) hoff
  obtain ⟨hcleared, hmaster, hlengths, hram⟩ := powerCycle_of_off hpowered hon ticks
  obtain ⟨hkeptRam, hkept⟩ := a.writeNr52_kept hoff
  rw [hkept] at hlengths
  constructor
  · -- The power-off of a running unit leaves four zeros.
    intro hsame hon
    have hzero := hsame.lengths
    rw [hlengths, if_pos hon] at hzero
    rw [← hzero]
    decide
  · intro hzero
    refine ⟨?_, hram.trans hkeptRam, ?_, ?_, hcleared.inactive⟩
    · rw [hlengths]
      split
      · next hon =>
        have hall := hzero hon
        simp only [lengths, List.forall_mem_cons] at hall
        obtain ⟨hone, htwo, hthree, hfour, -⟩ := hall
        rw [lengths, hone, htwo, hthree, hfour]
      · rfl
    · intro address hfirst hlast h52
      exact hcleared.read_mask hfirst hlast h52
    · rw [hcleared.readNr52, hmaster]
      rfl

/-- Wave channel and noise channel idle, channel 1 as the boot ROM leaves it. -/
theorem power_cycle_postBoot :
    KeptLengths (Apu.new 44100 : Apu .mute) ((Apu.new 44100).powerCycle 0x00 3 0x80) ↔
      ((Apu.new 44100 : Apu .mute).masterEnabled = true →
        ∀ remaining ∈ (Apu.new 44100 : Apu .mute).lengths, remaining = 0) :=
  power_cycle (.start ⟨by decide, rfl⟩) (by decide) (by decide) 3

/-- The boot ROM leaves 64 steps to channel 1, and a power cycle takes them. -/
theorem power_cycle_loses_length :
    Reachable (Apu.system .mute 44100) (Apu.new 44100) ∧
      ¬ KeptLengths (Apu.new 44100 : Apu .mute) ((Apu.new 44100).powerCycle 0x00 0 0x80) := by
  refine ⟨.start ⟨by decide, rfl⟩, ?_⟩
  intro h
  exact absurd h.lengths (by decide)

end Apu

end Pockiva
