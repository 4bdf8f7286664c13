import Pockiva.Apu.Units

/-! # The four sound channels -/
namespace Pockiva

/-! ## The pulse channels -/

/-- `DUTY`. -/
def dutyTable : List (List Nat) :=
  [[0, 0, 0, 0, 0, 0, 0, 1],
   [1, 0, 0, 0, 0, 0, 0, 1],
   [1, 0, 0, 0, 0, 1, 1, 1],
   [0, 1, 1, 1, 1, 1, 1, 0]]

structure PulseChannel where
  hasSweep : Bool
  enabled : Bool
  dacEnabled : Bool
  duty : Nat
  dutyPosition : Nat
  frequency : Nat
  timer : Nat
  length : LengthCounter 64
  envelope : VolumeEnvelope
  sweep : Option FrequencySweep
deriving DecidableEq, Repr

namespace PulseChannel

def new (hasSweep : Bool) : PulseChannel where
  hasSweep := hasSweep
  enabled := false
  dacEnabled := false
  duty := 0
  dutyPosition := 0
  frequency := 0
  timer := 0
  length := .initial
  envelope := .initial
  sweep := if hasSweep then some .initial else none

def read (c : PulseChannel) (register : Nat) : Byte :=
  match register with
  | 0 => if c.hasSweep then (c.sweep.map fun s => s.register ||| 0x80).getD 0xff else 0xff
  | 1 => (BitVec.ofNat 8 c.duty <<< 6) ||| 0x3f
  | 2 => c.envelope.register
  | 4 => 0xbf ||| (byteOfBool c.length.enabled <<< 6)
  | _ => 0xff

def period (c : PulseChannel) : Nat := (2048 - c.frequency) * 4

/-- Start the sweep, which can silence the channel at once. -/
def triggerSweep (c : PulseChannel) : PulseChannel :=
  match c.sweep with
  | some sweep =>
    let result := sweep.trigger c.frequency
    { c with
      sweep := some result.1
      enabled := if result.2 = .disabled then false else c.enabled }
  | none => c

/-- The `enabled = false` of an expired length is overwritten at once. -/
def trigger (c : PulseChannel) (nextStepClocksLength : Bool) : PulseChannel :=
  triggerSweep
    { c with
      length := (c.length.trigger nextStepClocksLength).1
      timer := c.period
      envelope := c.envelope.trigger
      enabled := c.dacEnabled }

/-- The high bits of the frequency, the length enable and the trigger. -/
def writeControl (c : PulseChannel) (value : Byte) (nextStepClocksLength : Bool) : PulseChannel :=
  let result := c.length.setEnabled (value &&& 0x40 != 0) nextStepClocksLength c.enabled
  let c : PulseChannel :=
    { c with
      frequency := (c.frequency &&& 0x00ff) ||| ((value &&& 0x07).toNat <<< 8)
      length := result.1
      enabled := if result.2 then false else c.enabled }
  if value &&& 0x80 != 0 then c.trigger nextStepClocksLength else c

def write (c : PulseChannel) (register : Nat) (value : Byte) (nextStepClocksLength : Bool) :
    PulseChannel :=
  match register with
  | 0 =>
    match c.sweep with
    | some sweep =>
      if c.hasSweep then
        { c with
          sweep := some (sweep.write value).1
          enabled := if (sweep.write value).2 then false else c.enabled }
      else c
    | none => c
  | 1 => { c with duty := (value >>> 6).toNat, length := c.length.load (value &&& 0x3f) }
  | 2 =>
    let envelope := c.envelope.write value
    { c with
      envelope := envelope
      dacEnabled := envelope.dacEnabled
      enabled := if envelope.dacEnabled then c.enabled else false }
  | 3 => { c with frequency := (c.frequency &&& 0x0700) ||| value.toNat }
  | 4 => c.writeControl value nextStepClocksLength
  | _ => c

def writeLengthWhilePoweredOff (c : PulseChannel) (value : Byte) : PulseChannel :=
  { c with length := c.length.load (value &&& 0x3f) }

def tickTCycle (c : PulseChannel) : PulseChannel :=
  if c.timer - 1 = 0 then
    { c with timer := c.period, dutyPosition := (c.dutyPosition + 1) % 8 }
  else { c with timer := c.timer - 1 }

def clockLength (c : PulseChannel) : PulseChannel :=
  { c with length := c.length.clock.1, enabled := if c.length.clock.2 then false else c.enabled }

def clockEnvelope (c : PulseChannel) : PulseChannel := { c with envelope := c.envelope.clock }

def clockSweep (c : PulseChannel) : PulseChannel :=
  match c.sweep with
  | some sweep =>
    let c := { c with sweep := some sweep.clock.1 }
    match sweep.clock.2 with
    | .applied frequency => { c with frequency := frequency }
    | .appliedAndDisabled frequency => { c with frequency := frequency, enabled := false }
    | .disabled => { c with enabled := false }
    | .idle => c
  | none => c

def output (c : PulseChannel) : Nat :=
  if c.enabled = false ∨ c.dacEnabled = false then 0
  else ((dutyTable.getD c.duty []).getD c.dutyPosition 0) * c.envelope.volume

def active (c : PulseChannel) : Bool := c.enabled

def powerOff (c : PulseChannel) : PulseChannel := new c.hasSweep

end PulseChannel

/-! ## The wave channel -/

/-- `CPU_READ_T_CYCLES`. -/
def cpuReadTCycles : Nat := 4

/-- `APU_FETCH_T_CYCLES`. -/
def apuFetchTCycles : Nat := 2

structure WaveChannel where
  enabled : Bool
  dacEnabled : Bool
  frequency : Nat
  timer : Nat
  position : Nat
  sampleBuffer : Byte
  outputLevel : Nat
  length : LengthCounter 256
  waveRam : Bytes 16
  accessWindowTCycles : Nat

namespace WaveChannel

/-- `WaveChannel::default()`. -/
def initial : WaveChannel where
  enabled := false
  dacEnabled := false
  frequency := 0
  timer := 0
  position := 0
  sampleBuffer := 0
  outputLevel := 0
  length := .initial
  waveRam := .filled _ 0
  accessWindowTCycles := 0

def read (c : WaveChannel) (register : Nat) : Byte :=
  match register with
  | 0 => (byteOfBool c.dacEnabled <<< 7) ||| 0x7f
  | 2 => (BitVec.ofNat 8 c.outputLevel <<< 5) ||| 0x9f
  | 4 => 0xbf ||| (byteOfBool c.length.enabled <<< 6)
  | _ => 0xff

def period (c : WaveChannel) : Nat := (2048 - c.frequency) * 2

/-- The first bytes of wave RAM that a retrigger just before a fetch overwrites. -/
def corruptedRam (c : WaveChannel) : Bytes 16 :=
  if c.enabled = true ∧ c.timer = apuFetchTCycles then
    let byteIndex := (c.position + 1) % 32 / 2
    if byteIndex < 4 then c.waveRam.set 0 (c.waveRam.get byteIndex)
    else fun i => if i.val < 4 then c.waveRam.get (byteIndex / 4 * 4 + i.val) else c.waveRam i
  else c.waveRam

def trigger (c : WaveChannel) (nextStepClocksLength : Bool) : WaveChannel :=
  { c with
    waveRam := c.corruptedRam
    length := (c.length.trigger nextStepClocksLength).1
    enabled := c.dacEnabled
    position := 0
    timer := c.period + 6
    accessWindowTCycles := 0 }

/-- The high bits of the frequency, the length enable and the trigger. -/
def writeControl (c : WaveChannel) (value : Byte) (nextStepClocksLength : Bool) : WaveChannel :=
  let result := c.length.setEnabled (value &&& 0x40 != 0) nextStepClocksLength c.enabled
  let c : WaveChannel :=
    { c with
      frequency := (c.frequency &&& 0x00ff) ||| ((value &&& 7).toNat <<< 8)
      length := result.1
      enabled := if result.2 then false else c.enabled }
  if value &&& 0x80 != 0 then c.trigger nextStepClocksLength else c

def write (c : WaveChannel) (register : Nat) (value : Byte) (nextStepClocksLength : Bool) :
    WaveChannel :=
  match register with
  | 0 =>
    let dacEnabled := value &&& 0x80 != 0
    { c with dacEnabled := dacEnabled, enabled := if dacEnabled then c.enabled else false }
  | 1 => { c with length := c.length.load value }
  | 2 => { c with outputLevel := ((value >>> 5) &&& 0x03).toNat }
  | 3 => { c with frequency := (c.frequency &&& 0x0700) ||| value.toNat }
  | 4 => c.writeControl value nextStepClocksLength
  | _ => c

def tickTCycle (c : WaveChannel) : WaveChannel :=
  if c.timer - 1 = 0 then
    let position := (c.position + 1) % 32
    { c with
      timer := c.period
      position := position
      sampleBuffer := c.waveRam.get (position / 2)
      accessWindowTCycles := 1 }
  else { c with accessWindowTCycles := c.accessWindowTCycles - 1, timer := c.timer - 1 }

def clockLength (c : WaveChannel) : WaveChannel :=
  { c with length := c.length.clock.1, enabled := if c.length.clock.2 then false else c.enabled }

def output (c : WaveChannel) : Nat :=
  if c.enabled = false ∨ c.dacEnabled = false ∨ c.outputLevel = 0 then 0
  else
    let sample := if c.position % 2 = 0 then c.sampleBuffer >>> 4 else c.sampleBuffer &&& 0x0f
    sample.toNat >>> (c.outputLevel - 1)

/-- While the channel plays, wave RAM shows the byte of the next fetch, and only just
before it. -/
def readWaveRam (c : WaveChannel) (address : Word) : Byte :=
  if c.enabled = false then c.waveRam.get (address - 0xff30).toNat
  else if c.timer = cpuReadTCycles then c.waveRam.get ((c.position + 1) % 32 / 2)
  else 0xff

def writeWaveRam (c : WaveChannel) (address : Word) (value : Byte) : WaveChannel :=
  if c.enabled = false then { c with waveRam := c.waveRam.set (address - 0xff30).toNat value }
  else if c.accessWindowTCycles > 0 then
    { c with waveRam := c.waveRam.set (c.position / 2) value }
  else c

def active (c : WaveChannel) : Bool := c.enabled

def powerOffPreservingRam (c : WaveChannel) : WaveChannel := { initial with waveRam := c.waveRam }

end WaveChannel

/-! ## The noise channel -/

/-- `DIVISORS`. -/
def noiseDivisors : List Nat := [8, 16, 32, 48, 64, 80, 96, 112]

def noisePeriod (divisorCode shift : Nat) : Nat := noiseDivisors.getD divisorCode 0 <<< shift

structure NoiseChannel where
  enabled : Bool
  dacEnabled : Bool
  lfsr : Word
  timer : Nat
  divisorCode : Nat
  shift : Nat
  widthMode : Bool
  length : LengthCounter 64
  envelope : VolumeEnvelope
deriving DecidableEq, Repr

namespace NoiseChannel

/-- `NoiseChannel::default()`. -/
def initial : NoiseChannel where
  enabled := false
  dacEnabled := false
  lfsr := 0
  timer := 0
  divisorCode := 0
  shift := 0
  widthMode := false
  length := .initial
  envelope := .initial

def read (c : NoiseChannel) (register : Nat) : Byte :=
  match register with
  | 1 => c.envelope.register
  | 2 => (BitVec.ofNat 8 c.shift <<< 4) ||| (byteOfBool c.widthMode <<< 3)
      ||| BitVec.ofNat 8 c.divisorCode
  | 3 => 0xbf ||| (byteOfBool c.length.enabled <<< 6)
  | _ => 0xff

def period (c : NoiseChannel) : Nat := noisePeriod c.divisorCode c.shift

def trigger (c : NoiseChannel) (nextStepClocksLength : Bool) : NoiseChannel :=
  { c with
    length := (c.length.trigger nextStepClocksLength).1
    lfsr := 0x7fff
    timer := c.period
    envelope := c.envelope.trigger
    enabled := c.dacEnabled }

/-- The length enable and the trigger. -/
def writeControl (c : NoiseChannel) (value : Byte) (nextStepClocksLength : Bool) : NoiseChannel :=
  let result := c.length.setEnabled (value &&& 0x40 != 0) nextStepClocksLength c.enabled
  let c : NoiseChannel :=
    { c with length := result.1, enabled := if result.2 then false else c.enabled }
  if value &&& 0x80 != 0 then c.trigger nextStepClocksLength else c

def write (c : NoiseChannel) (register : Nat) (value : Byte) (nextStepClocksLength : Bool) :
    NoiseChannel :=
  match register with
  | 0 => { c with length := c.length.load (value &&& 0x3f) }
  | 1 =>
    let envelope := c.envelope.write value
    { c with
      envelope := envelope
      dacEnabled := envelope.dacEnabled
      enabled := if envelope.dacEnabled then c.enabled else false }
  | 2 =>
    { c with
      shift := (value >>> 4).toNat
      widthMode := value &&& 0x08 != 0
      divisorCode := (value &&& 0x07).toNat }
  | 3 => c.writeControl value nextStepClocksLength
  | _ => c

/-- The next state of the shift register. -/
def nextLfsr (c : NoiseChannel) : Word :=
  let feedback := (c.lfsr ^^^ (c.lfsr >>> 1)) &&& 1
  let shifted := (c.lfsr >>> 1) ||| (feedback <<< 14)
  if c.widthMode then (shifted &&& ~~~((1 : Word) <<< 6)) ||| (feedback <<< 6) else shifted

def tickTCycle (c : NoiseChannel) : NoiseChannel :=
  if c.timer - 1 = 0 then { c with timer := c.period, lfsr := c.nextLfsr }
  else { c with timer := c.timer - 1 }

def clockLength (c : NoiseChannel) : NoiseChannel :=
  { c with length := c.length.clock.1, enabled := if c.length.clock.2 then false else c.enabled }

def clockEnvelope (c : NoiseChannel) : NoiseChannel := { c with envelope := c.envelope.clock }

def output (c : NoiseChannel) : Nat :=
  if c.enabled = true ∧ c.dacEnabled = true ∧ c.lfsr &&& 1 = 0 then c.envelope.volume else 0

def active (c : NoiseChannel) : Bool := c.enabled

end NoiseChannel

end Pockiva
