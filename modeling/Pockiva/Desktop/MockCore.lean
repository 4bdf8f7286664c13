import Pockiva.Desktop.Worker

/-! # The contract mock core

The core the desktop uses where the picture does not matter: it accepts any image that is
not empty, and each run of cycles draws the next diagnostic frame.
-/
namespace Pockiva

variable {M : MixerModel}

/-- The samples of its batches, which are empty, are those of `M`. -/
structure ContractMockCore (M : MixerModel) where
  loaded : Bool
  sequence : Nat
  frame : Option Frame
  inputs : InputMatrix
  sampleRate : Nat

namespace ContractMockCore

def new (sampleRate : Nat) : ContractMockCore M where
  loaded := false
  sequence := 0
  frame := none
  inputs := .empty
  sampleRate := sampleRate

/-- The colours of the diagnostic frame. -/
def palette : List (List Byte) :=
  [[224, 248, 208, 255], [136, 192, 112, 255], [52, 104, 86, 255], [8, 24, 32, 255]]

/-- A board of 8 × 8 fields, shifted by one colour with each frame. -/
def diagnosticFrame (c : ContractMockCore M) : Frame where
  sequence := c.sequence
  rgba := fun i =>
    let x := i.val / 4 % screenWidth
    let y := i.val / 4 / screenWidth
    let shift := c.sequence % 4
    ((palette.getD ((x / 20 + y / 18 + shift) % palette.length) []).getD (i.val % 4) 0)

def loadRom (c : ContractMockCore M) (rom : List Byte) (_persisted : Option BatteryState) :
    Except CoreError CartridgeMetadata × ContractMockCore M :=
  if rom.isEmpty then (.error (.invalidRom "ROM file is empty"), c)
  else
    (.ok ⟨.romOnly, .dmg, 0, false⟩,
      { c with loaded := true, sequence := 0, frame := none, inputs := .empty })

def reset (c : ContractMockCore M) : Except CoreError Unit × ContractMockCore M :=
  if c.loaded then (.ok (), { c with sequence := 0, frame := none })
  else (.error .notLoaded, c)

def runCycles (c : ContractMockCore M) (cycleBudget : Nat) :
    Except CoreError RunOutcome × ContractMockCore M :=
  if c.loaded then
    let c : ContractMockCore M := { c with sequence := (c.sequence + 1) % 2 ^ 64 }
    (.ok ⟨cycleBudget, true, 0⟩, { c with frame := some c.diagnosticFrame })
  else (.error .notLoaded, c)

def setInput (c : ContractMockCore M) (source : InputSourceId) (state : JoypadState) :
    ContractMockCore M :=
  { c with inputs := c.inputs.set source state }

def clearInputSource (c : ContractMockCore M) (source : InputSourceId) :
    ContractMockCore M :=
  { c with inputs := c.inputs.clear source }

def takeFrame (c : ContractMockCore M) : Option Frame × ContractMockCore M :=
  (c.frame, { c with frame := none })

def drainAudio (c : ContractMockCore M) : AudioBatch M × ContractMockCore M :=
  (⟨c.sampleRate, []⟩, c)

end ContractMockCore

instance : EmulatorCore M (ContractMockCore M) where
  loadRom := ContractMockCore.loadRom
  reset := ContractMockCore.reset
  runCycles := ContractMockCore.runCycles
  setInput := ContractMockCore.setInput
  clearInputSource := ContractMockCore.clearInputSource
  takeFrame := ContractMockCore.takeFrame
  drainAudio := ContractMockCore.drainAudio

end Pockiva
