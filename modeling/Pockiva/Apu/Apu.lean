import Pockiva.Apu.Channels
import Pockiva.Devices

/-! # The sound unit

The four channels, the frame sequencer and the sample clock.  The mixer computes
with floating-point numbers; it is a parameter here (`MixerModel`), and no result
depends on the samples it produces.
-/
namespace Pockiva

/-- The operations of `Mixer`, on its own state and its own type of samples. -/
structure MixerModel where
  Mixer : Type
  Sample : Type
  /-- `Mixer::new` for a sample rate. -/
  new : Nat → Mixer
  /-- `mix_with_dacs`, for the outputs and DACs of the channels, NR50 and NR51: the left
  and the right sample. -/
  mixWithDacs : Mixer → List Nat → List Bool → Byte → Byte → Sample × Sample × Mixer
  reset : Mixer → Mixer
  /-- The sample 0.0. -/
  silence : Sample

/-- A mixer that keeps silent. -/
def MixerModel.mute : MixerModel where
  Mixer := Unit
  Sample := Unit
  new _ := ()
  mixWithDacs m _ _ _ _ := ((), (), m)
  reset m := m
  silence := ()

variable {M : MixerModel}

/-- Interleaved stereo samples. -/
structure AudioBatch (M : MixerModel) where
  sampleRate : Nat
  interleavedStereo : List M.Sample

/-! ## The sample buffer -/

/-- `MAX_CORE_STEREO_FRAMES`. -/
def maxCoreStereoFrames : Nat := 4096

structure PcmBuffer (M : MixerModel) where
  samples : List M.Sample
  droppedStereoFrames : Nat

namespace PcmBuffer

/-- `PcmBuffer::default()`. -/
def initial : PcmBuffer M := ⟨[], 0⟩

def stereoFramesAvailable (b : PcmBuffer M) : Nat := b.samples.length / 2

/-- A full buffer loses its oldest stereo frame. -/
def pushStereo (b : PcmBuffer M) (left right : M.Sample) : PcmBuffer M :=
  let b := if b.stereoFramesAvailable = maxCoreStereoFrames then
      ⟨b.samples.drop 2, b.droppedStereoFrames + 1⟩
    else b
  { b with samples := b.samples ++ [left, right] }

def drain (b : PcmBuffer M) (sampleRate : Nat) : AudioBatch M × PcmBuffer M :=
  (⟨sampleRate, b.samples⟩, { b with samples := [] })

def clear (_ : PcmBuffer M) : PcmBuffer M := ⟨[], 0⟩

end PcmBuffer

/-! ## The unit -/

structure Apu (M : MixerModel) where
  sampleRate : Nat
  masterEnabled : Bool
  dividerMirror : Word
  frameStep : Nat
  nr50 : Byte
  nr51 : Byte
  samplePhase : Nat
  channel1 : PulseChannel
  channel2 : PulseChannel
  channel3 : WaveChannel
  channel4 : NoiseChannel
  mixer : M.Mixer
  pcm : PcmBuffer M

namespace Apu

/-- Channel 1 as the boot ROM leaves it. -/
def postBootChannel1 : PulseChannel :=
  let c := (PulseChannel.new true).write 0 0x00 true
  let c := c.write 1 0x80 true
  let c := c.write 2 0xf3 true
  let c := c.write 3 0x00 true
  c.write 4 0x80 true

def new (sampleRate : Nat) : Apu M where
  sampleRate := sampleRate
  masterEnabled := true
  dividerMirror := 0xabcc
  frameStep := 0
  nr50 := 0x77
  nr51 := 0xf3
  samplePhase := 0
  channel1 := postBootChannel1
  channel2 := .new false
  channel3 := .initial
  channel4 := .initial
  mixer := M.new sampleRate
  pcm := .initial

/-- NR52: the master enable and the active channels. -/
def readNr52 (a : Apu M) : Byte :=
  0x70 ||| (byteOfBool a.masterEnabled <<< 7)
    ||| byteOfBool a.channel1.active
    ||| (byteOfBool a.channel2.active <<< 1)
    ||| (byteOfBool a.channel3.active <<< 2)
    ||| (byteOfBool a.channel4.active <<< 3)

/-- `register_offset`. -/
def registerOffset (address base : Word) : Nat := (address - base).toNat

def read (a : Apu M) (address : Word) : Byte :=
  if 0xff10 ≤ address ∧ address ≤ 0xff14 then a.channel1.read (registerOffset address 0xff10)
  else if 0xff16 ≤ address ∧ address ≤ 0xff19 then
    a.channel2.read (registerOffset address 0xff15)
  else if 0xff1a ≤ address ∧ address ≤ 0xff1e then
    a.channel3.read (registerOffset address 0xff1a)
  else if 0xff20 ≤ address ∧ address ≤ 0xff23 then
    a.channel4.read (registerOffset address 0xff20)
  else if address = 0xff24 then a.nr50
  else if address = 0xff25 then a.nr51
  else if address = 0xff26 then a.readNr52
  else if 0xff30 ≤ address ∧ address ≤ 0xff3f then a.channel3.readWaveRam address
  else 0xff

/-! ## The frame sequencer -/

def clockLengths (a : Apu M) : Apu M :=
  { a with
    channel1 := a.channel1.clockLength
    channel2 := a.channel2.clockLength
    channel3 := a.channel3.clockLength
    channel4 := a.channel4.clockLength }

def clockEnvelopes (a : Apu M) : Apu M :=
  { a with
    channel1 := a.channel1.clockEnvelope
    channel2 := a.channel2.clockEnvelope
    channel4 := a.channel4.clockEnvelope }

def clockFrameSequencer (a : Apu M) : Apu M :=
  let clocked := match a.frameStep with
    | 0 => a.clockLengths
    | 4 => a.clockLengths
    | 2 => { a.clockLengths with channel1 := a.clockLengths.channel1.clockSweep }
    | 6 => { a.clockLengths with channel1 := a.clockLengths.channel1.clockSweep }
    | 7 => a.clockEnvelopes
    | _ => a
  { clocked with frameStep := (a.frameStep + 1) % 8 }

def nextStepClocksLength (a : Apu M) : Bool := a.frameStep % 2 == 0

/-! ## Writes -/

/-- Powering off: the channels start over, with wave RAM kept, and the samples that wait
are dropped. -/
def powerOff (a : Apu M) : Apu M :=
  { a with
    masterEnabled := false
    nr50 := 0
    nr51 := 0
    frameStep := 0
    channel1 := a.channel1.powerOff
    channel2 := a.channel2.powerOff
    channel3 := a.channel3.powerOffPreservingRam
    channel4 := .initial
    mixer := M.reset a.mixer
    pcm := a.pcm.clear }

def writeNr52 (a : Apu M) (value : Byte) : Apu M :=
  let enable := value &&& 0x80 != 0
  if a.masterEnabled && !enable then a.powerOff
  else if !a.masterEnabled && enable then { a with masterEnabled := true, frameStep := 0 }
  else a

/-- A write to DIV, which resets the divider and with it the frame sequencer's clock. -/
def resetDivider (a : Apu M) : Apu M :=
  let a := if a.dividerMirror &&& 0x1000 ≠ 0 then a.clockFrameSequencer else a
  { a with dividerMirror := 0 }

/-- While the unit is off only the lengths and wave RAM can be written. -/
def writePoweredOff (a : Apu M) (address : Word) (value : Byte) : Apu M :=
  if address = 0xff11 then { a with channel1 := a.channel1.writeLengthWhilePoweredOff value }
  else if address = 0xff16 then
    { a with channel2 := a.channel2.writeLengthWhilePoweredOff value }
  else if address = 0xff1b then
    { a with channel3 := a.channel3.write 1 value a.nextStepClocksLength }
  else if address = 0xff20 then
    { a with channel4 := a.channel4.write 0 value a.nextStepClocksLength }
  else if 0xff30 ≤ address ∧ address ≤ 0xff3f then
    { a with channel3 := a.channel3.writeWaveRam address value }
  else a

def writePoweredOn (a : Apu M) (address : Word) (value : Byte) : Apu M :=
  let nextLength := a.nextStepClocksLength
  if 0xff10 ≤ address ∧ address ≤ 0xff14 then
    { a with channel1 := a.channel1.write (registerOffset address 0xff10) value nextLength }
  else if 0xff16 ≤ address ∧ address ≤ 0xff19 then
    { a with channel2 := a.channel2.write (registerOffset address 0xff15) value nextLength }
  else if 0xff1a ≤ address ∧ address ≤ 0xff1e then
    { a with channel3 := a.channel3.write (registerOffset address 0xff1a) value nextLength }
  else if 0xff20 ≤ address ∧ address ≤ 0xff23 then
    { a with channel4 := a.channel4.write (registerOffset address 0xff20) value nextLength }
  else if address = 0xff24 then { a with nr50 := value }
  else if address = 0xff25 then { a with nr51 := value }
  else if 0xff30 ≤ address ∧ address ≤ 0xff3f then
    { a with channel3 := a.channel3.writeWaveRam address value }
  else a

def write (a : Apu M) (address : Word) (value : Byte) : Apu M :=
  if address = 0xff04 then a.resetDivider
  else if address = 0xff26 then a.writeNr52 value
  else if a.masterEnabled then a.writePoweredOn address value
  else a.writePoweredOff address value

/-! ## The clock -/

def tickDivider (a : Apu M) : Apu M :=
  let b := { a with dividerMirror := a.dividerMirror + 1 }
  if a.dividerMirror &&& 0x1000 ≠ 0 ∧ b.dividerMirror &&& 0x1000 = 0 then b.clockFrameSequencer
  else b

def tickChannels (a : Apu M) : Apu M :=
  if a.masterEnabled then
    { a with
      channel1 := a.channel1.tickTCycle
      channel2 := a.channel2.tickTCycle
      channel3 := a.channel3.tickTCycle
      channel4 := a.channel4.tickTCycle }
  else a

/-- One stereo frame. -/
def emitFrame (a : Apu M) : Apu M :=
  let a := { a with samplePhase := a.samplePhase - dmgClockHz }
  if a.masterEnabled then
    let mixed := M.mixWithDacs a.mixer
      [a.channel1.output, a.channel2.output, a.channel3.output, a.channel4.output]
      [a.channel1.dacEnabled, a.channel2.dacEnabled, a.channel3.dacEnabled, a.channel4.dacEnabled]
      a.nr50 a.nr51
    { a with mixer := mixed.2.2, pcm := a.pcm.pushStereo mixed.1 mixed.2.1 }
  else { a with pcm := a.pcm.pushStereo M.silence M.silence }

/-- The loop over the stereo frames that are due; each takes `dmgClockHz` off the phase. -/
def emitLoop : Nat → Apu M → Apu M
  | 0, a => a
  | due + 1, a => if dmgClockHz ≤ a.samplePhase then emitLoop due a.emitFrame else a

def tickTCycle (a : Apu M) : Apu M :=
  let a := a.tickDivider.tickChannels
  let a := { a with samplePhase := a.samplePhase + a.sampleRate }
  emitLoop (a.samplePhase / dmgClockHz) a

/-- `AudioDevice::tick`, which never requests an interrupt. -/
def tick (a : Apu M) (tCycles : Nat) : Requesting (Apu M) :=
  repeatTick (fun a => .silent a.tickTCycle) tCycles a

def stereoFramesAvailable (a : Apu M) : Nat := a.pcm.stereoFramesAvailable

def drainAudio (a : Apu M) : AudioBatch M × Apu M :=
  ((a.pcm.drain a.sampleRate).1, { a with pcm := (a.pcm.drain a.sampleRate).2 })

end Apu

end Pockiva
