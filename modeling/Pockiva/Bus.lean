import Pockiva.Apu.Apu
import Pockiva.Cartridge.Cartridge
import Pockiva.Cpu.Bus
import Pockiva.Joypad
import Pockiva.Ppu.Ppu
import Pockiva.Timer

/-! # The machine bus

The address space of the DMG and its clock.  Every access by the CPU takes one
M-cycle; a read sees the devices before it, a write reaches the timer and the memory
of the PPU before it and everything else after it.
-/
namespace Pockiva

variable {M : MixerModel}

structure MachineBus (M : MixerModel) where
  cartridge : Cartridge
  wram : Bytes 0x2000
  hram : Bytes 0x7f
  joypad : JoypadRegister
  timer : Timer
  interrupts : InterruptRegisters
  dma : OamDma
  video : Ppu
  audio : Apu M
  serial : SerialPort
  sampleRate : Nat
  nowUnixSeconds : Nat
  elapsedTCycles : Nat

/-- An address of HRAM, FF80–FFFE, which stays accessible during OAM DMA. -/
def inHram (address : Word) : Prop := 0xff80 ≤ address ∧ address ≤ 0xfffe

/-- An address of VRAM, OAM or a register of the PPU. -/
def inVideo (address : Word) : Prop :=
  Ppu.inVram address ∨ Ppu.inOam address ∨ (0xff40 ≤ address ∧ address ≤ 0xff4b)

instance (address : Word) : Decidable (inHram address) := inferInstanceAs (Decidable (_ ∧ _))

instance (address : Word) : Decidable (inVideo address) :=
  inferInstanceAs (Decidable (_ ∨ _ ∨ (_ ∧ _)))

namespace MachineBus

def new (cartridge : Cartridge) (sampleRate now : Nat) : MachineBus M where
  cartridge := cartridge
  wram := .filled _ 0
  hram := .filled _ 0
  joypad := .initial
  timer := .postBoot
  interrupts := .postBoot
  dma := .idle
  video := .postBootDmg
  audio := .new sampleRate
  serial := .initial
  sampleRate := sampleRate
  nowUnixSeconds := now
  elapsedTCycles := 0

def readUnclocked (b : MachineBus M) (address : Word) : Byte :=
  if inRom address ∨ inExternalRam address then b.cartridge.read address
  else if inVideo address then b.video.read address
  else if 0xc000 ≤ address ∧ address ≤ 0xdfff then b.wram.get (address - 0xc000).toNat
  else if 0xe000 ≤ address ∧ address ≤ 0xfdff then b.wram.get (address - 0xe000).toNat
  else if address = 0xff00 then b.joypad.read
  else if address = 0xff01 ∨ address = 0xff02 then b.serial.read address
  else if 0xff04 ≤ address ∧ address ≤ 0xff07 then b.timer.read address
  else if address = 0xff0f then b.interrupts.readIf
  else if 0xff10 ≤ address ∧ address ≤ 0xff3f then b.audio.read address
  else if inHram address then b.hram.get (address - 0xff80).toNat
  else if address = 0xffff then b.interrupts.readIe
  else 0xff

/-- `self.interrupts.request(requested)`. -/
def request (b : MachineBus M) (requested : InterruptMask) : MachineBus M :=
  { b with interrupts := b.interrupts.request requested }

def writeUnclocked (b : MachineBus M) (address : Word) (value : Byte) : MachineBus M :=
  if inRom address ∨ inExternalRam address then
    { b with cartridge := b.cartridge.write address value b.nowUnixSeconds }
  else if inVideo address then
    let t := b.video.write address value
    let b := { b with video := t.ppu, dma := if address = 0xff46 then b.dma.start value else b.dma }
    b.request t.requested
  else if 0xc000 ≤ address ∧ address ≤ 0xdfff then
    { b with wram := b.wram.set (address - 0xc000).toNat value }
  else if 0xe000 ≤ address ∧ address ≤ 0xfdff then
    { b with wram := b.wram.set (address - 0xe000).toNat value }
  else if address = 0xff00 then
    let r := b.joypad.write value
    MachineBus.request { b with joypad := r.device } r.requested
  else if address = 0xff01 ∨ address = 0xff02 then
    let r := b.serial.write address value
    MachineBus.request { b with serial := r.device } r.requested
  else if address = 0xff04 then
    let r := b.timer.write address value
    MachineBus.request { b with timer := r.device, audio := b.audio.write address 0 } r.requested
  else if 0xff05 ≤ address ∧ address ≤ 0xff07 then
    let r := b.timer.write address value
    MachineBus.request { b with timer := r.device } r.requested
  else if address = 0xff0f then { b with interrupts := b.interrupts.writeIf value }
  else if 0xff10 ≤ address ∧ address ≤ 0xff3f then
    { b with audio := b.audio.write address value }
  else if inHram address then { b with hram := b.hram.set (address - 0xff80).toNat value }
  else if address = 0xffff then { b with interrupts := b.interrupts.writeIe value }
  else b

/-! ## The clock -/

/-- The byte OAM DMA moves in this M-cycle. -/
def tickDma (b : MachineBus M) : MachineBus M :=
  match b.dma.nextAddress with
  | some (source, index) =>
    { b with
      video := b.video.dmaWriteOam index (b.readUnclocked source)
      dma := b.dma.advance }
  | none => b

def tickMCycle (b : MachineBus M) : MachineBus M :=
  let timer := b.timer.tick 4
  let b := MachineBus.tickDma
    { b with elapsedTCycles := b.elapsedTCycles + 4, timer := timer.device }
  let video := b.video.tick 4
  let audio := b.audio.tick 4
  MachineBus.request { b with video := video.ppu, audio := audio.device }
    ((timer.requested.union video.requested).union audio.requested)

def setUnixSeconds (b : MachineBus M) (now : Nat) : MachineBus M := { b with nowUnixSeconds := now }

def setJoypadState (b : MachineBus M) (state : JoypadState) : MachineBus M :=
  let r := b.joypad.setState state
  MachineBus.request { b with joypad := r.device } r.requested

def reset (b : MachineBus M) (now : Nat) (state : JoypadState) : MachineBus M :=
  MachineBus.setJoypadState
    { b with
      cartridge := b.cartridge.reset now
      wram := .filled _ 0
      hram := .filled _ 0
      joypad := .initial
      timer := .postBoot
      interrupts := .postBoot
      dma := .idle
      video := .postBootDmg
      audio := .new b.sampleRate
      serial := .initial
      nowUnixSeconds := now
      elapsedTCycles := 0 } state

def frameReady (b : MachineBus M) : Bool := b.video.frameReady

def takeFrame (b : MachineBus M) : Option Frame × MachineBus M :=
  (b.video.takeFrame.1, { b with video := b.video.takeFrame.2 })

def stereoFramesAvailable (b : MachineBus M) : Nat := b.audio.stereoFramesAvailable

def drainAudio (b : MachineBus M) : AudioBatch M × MachineBus M :=
  (b.audio.drainAudio.1, { b with audio := b.audio.drainAudio.2 })

def batteryState (b : MachineBus M) (now : Nat) : Option BatteryState :=
  b.cartridge.batteryState now

/-! ## The bus of the CPU -/

def peek8 (b : MachineBus M) (address : Word) : Byte :=
  if b.dma.active = true ∧ ¬ inHram address then 0xff else b.readUnclocked address

def read8 (b : MachineBus M) (address : Word) : Byte × MachineBus M :=
  (if b.dma.active = true ∧ ¬ inHram address then 0xff else b.readUnclocked address, b.tickMCycle)

/-- A write reaches its target: OAM DMA blocks all but HRAM and its own register. -/
def writeAllowed (b : MachineBus M) (address : Word) : Bool :=
  !b.dma.active || decide (inHram address) || address == 0xff46

/-- The targets a write reaches before the M-cycle: the timer and the memory of the PPU. -/
def writesEarly (address : Word) : Prop :=
  (0xff04 ≤ address ∧ address ≤ 0xff07) ∨ Ppu.inVram address ∨ Ppu.inOam address

instance (address : Word) : Decidable (writesEarly address) :=
  inferInstanceAs (Decidable ((_ ∧ _) ∨ _ ∨ _))

def write8 (b : MachineBus M) (address : Word) (value : Byte) : MachineBus M :=
  if b.writeAllowed address then
    if writesEarly address then (b.writeUnclocked address value).tickMCycle
    else b.tickMCycle.writeUnclocked address value
  else b.tickMCycle

/-- The divider is reset by STOP, outside of any access. -/
def resetDivider (b : MachineBus M) : MachineBus M :=
  let r := b.timer.write 0xff04 0
  MachineBus.request { b with timer := r.device, audio := b.audio.write 0xff04 0 } r.requested

instance : CpuBus (MachineBus M) where
  read8 := read8
  write8 := write8
  idleMCycle := tickMCycle
  peek8 := peek8
  elapsedTCycles b := b.elapsedTCycles
  pendingInterrupts b := b.interrupts.pending
  acknowledgeInterrupt b i := { b with interrupts := b.interrupts.acknowledge i }
  resetDivider := resetDivider

/-! ## Time -/

@[simp] theorem request_elapsed (b : MachineBus M) (m : InterruptMask) :
    (b.request m).elapsedTCycles = b.elapsedTCycles := rfl

@[simp] theorem tickDma_elapsed (b : MachineBus M) :
    b.tickDma.elapsedTCycles = b.elapsedTCycles := by
  unfold tickDma
  split <;> rfl

@[simp] theorem tickMCycle_elapsed (b : MachineBus M) :
    b.tickMCycle.elapsedTCycles = b.elapsedTCycles + 4 := by
  unfold tickMCycle
  simp only [request_elapsed, tickDma_elapsed]

@[simp] theorem writeUnclocked_elapsed (b : MachineBus M) (address : Word) (value : Byte) :
    (b.writeUnclocked address value).elapsedTCycles = b.elapsedTCycles := by
  simp only [writeUnclocked, apply_ite MachineBus.elapsedTCycles, request_elapsed, ite_self]

theorem write8_elapsed (b : MachineBus M) (address : Word) (value : Byte) :
    (b.write8 address value).elapsedTCycles = b.elapsedTCycles + 4 := by
  unfold write8
  split
  · split <;> simp
  · simp

instance : TimedCpuBus (MachineBus M) where
  elapsed_read8 b _ := b.tickMCycle_elapsed
  elapsed_write8 := write8_elapsed
  elapsed_idleMCycle := tickMCycle_elapsed
  elapsed_acknowledgeInterrupt _ _ := rfl
  elapsed_resetDivider _ := rfl

instance : CoherentCpuBus (MachineBus M) where
  read8_eq_peek8 _ _ := rfl

end MachineBus

end Pockiva
