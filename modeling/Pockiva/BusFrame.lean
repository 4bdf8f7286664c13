import Pockiva.MachineRuns

/-! # What an operation on the bus does to each device

An M-cycle clocks the timer, the DMA unit, the PPU and the APU; a write reaches the one
device its address belongs to.  Everything else is left alone.
-/
namespace Pockiva

open Transition

variable {M : MixerModel}

namespace MachineBus

/-! ## An M-cycle -/

theorem tickDma_of_inactive {b : MachineBus M} (h : b.dma.active = false) : b.tickDma = b := by
  have hnext : b.dma.nextAddress = none := by
    rw [OamDma.nextAddress, h]
    rfl
  rw [tickDma, hnext]

theorem tickDma_of_active {b : MachineBus M} (h : b.dma.active = true) :
    b.tickDma =
      { b with
        video := b.video.dmaWriteOam b.dma.index
          (b.readUnclocked (wordOfBytes b.dma.sourceHigh b.dma.index))
        dma := b.dma.advance } := by
  have hnext :
      b.dma.nextAddress = some (wordOfBytes b.dma.sourceHigh b.dma.index, b.dma.index) := by
    rw [OamDma.nextAddress, h]
    rfl
  rw [tickDma, hnext]

/-- The bus when the DMA unit is clocked: time has passed and the timer was clocked. -/
def afterTimer (b : MachineBus M) : MachineBus M :=
  { b with elapsedTCycles := b.elapsedTCycles + 4, timer := (b.timer.tick 4).device }

/-- **What an M-cycle does.**  Only the PPU's new state depends on other devices. -/
theorem tickMCycle_eq (b : MachineBus M) :
    ∃ interrupts, b.tickMCycle =
      { b with
        elapsedTCycles := b.elapsedTCycles + 4
        timer := (b.timer.tick 4).device
        dma := if b.dma.active then b.dma.advance else b.dma
        video := (b.afterTimer.tickDma.video.tick 4).ppu
        audio := (b.audio.tick 4).device
        interrupts := interrupts } := by
  cases h : b.dma.active with
  | false =>
    have hidle : b.afterTimer.tickDma = b.afterTimer := tickDma_of_inactive h
    exact ⟨_, by rw [hidle, tickMCycle, ← afterTimer, hidle]; rfl⟩
  | true =>
    have hactive := tickDma_of_active (b := b.afterTimer) h
    exact ⟨_, by rw [hactive, tickMCycle, ← afterTimer, hactive]; rfl⟩

@[simp] theorem tickMCycle_timer (b : MachineBus M) :
    b.tickMCycle.timer = (b.timer.tick 4).device := by
  obtain ⟨interrupts, heq⟩ := tickMCycle_eq b
  rw [heq]

@[simp] theorem tickMCycle_audio (b : MachineBus M) :
    b.tickMCycle.audio = (b.audio.tick 4).device := by
  obtain ⟨interrupts, heq⟩ := tickMCycle_eq b
  rw [heq]

@[simp] theorem tickMCycle_cartridge (b : MachineBus M) :
    b.tickMCycle.cartridge = b.cartridge := by
  obtain ⟨interrupts, heq⟩ := tickMCycle_eq b
  rw [heq]

@[simp] theorem tickMCycle_joypad (b : MachineBus M) : b.tickMCycle.joypad = b.joypad := by
  obtain ⟨interrupts, heq⟩ := tickMCycle_eq b
  rw [heq]

@[simp] theorem tickMCycle_sampleRate (b : MachineBus M) :
    b.tickMCycle.sampleRate = b.sampleRate := by
  obtain ⟨interrupts, heq⟩ := tickMCycle_eq b
  rw [heq]

@[simp] theorem tickMCycle_dma (b : MachineBus M) :
    b.tickMCycle.dma = if b.dma.active then b.dma.advance else b.dma := by
  obtain ⟨interrupts, heq⟩ := tickMCycle_eq b
  rw [heq]

/-! ## A write -/

/-- **What a write does**, by the device its address belongs to. -/
inductive WriteCase (b : MachineBus M) (address : Word) (value : Byte) : MachineBus M → Prop where
  | cartridge (h : inRom address ∨ inExternalRam address) :
      WriteCase b address value
        { b with cartridge := b.cartridge.write address value b.nowUnixSeconds }
  | video (h : inVideo address) (hdma : address ≠ 0xff46) :
      WriteCase b address value
        { b with
          video := (b.video.write address value).ppu
          interrupts := b.interrupts.request (b.video.write address value).requested }
  | dma (h : address = 0xff46) :
      WriteCase b address value
        { b with
          video := (b.video.write address value).ppu
          dma := b.dma.start value
          interrupts := b.interrupts.request (b.video.write address value).requested }
  | wram (wram : Bytes 0x2000) (h : 0xc000 ≤ address ∧ address ≤ 0xfdff) :
      WriteCase b address value { b with wram := wram }
  | joypad (h : address = 0xff00) :
      WriteCase b address value
        { b with
          joypad := (b.joypad.write value).device
          interrupts := b.interrupts.request (b.joypad.write value).requested }
  | serial (h : address = 0xff01 ∨ address = 0xff02) :
      WriteCase b address value
        { b with
          serial := (b.serial.write address value).device
          interrupts := b.interrupts.request (b.serial.write address value).requested }
  | divider (h : address = 0xff04) :
      WriteCase b address value
        { b with timer := (b.timer.write 0xff04 value).device, audio := b.audio.write 0xff04 0 }
  | timer (h : 0xff05 ≤ address ∧ address ≤ 0xff07) :
      WriteCase b address value { b with timer := (b.timer.write address value).device }
  | interruptFlags (h : address = 0xff0f) :
      WriteCase b address value { b with interrupts := b.interrupts.writeIf value }
  | audio (h : 0xff10 ≤ address ∧ address ≤ 0xff3f) :
      WriteCase b address value { b with audio := b.audio.write address value }
  | hram (h : inHram address) :
      WriteCase b address value { b with hram := b.hram.set (address - 0xff80).toNat value }
  | interruptEnable (h : address = 0xffff) :
      WriteCase b address value { b with interrupts := b.interrupts.writeIe value }
  | unmapped : WriteCase b address value b

/-- A write to the timer requests nothing. -/
theorem request_timer_write (t : Timer) (i : InterruptRegisters) (address : Word) (value : Byte) :
    i.request (t.write address value).requested = i := InterruptRegisters.request_empty i

theorem writeUnclocked_cases (b : MachineBus M) (address : Word) (value : Byte) :
    WriteCase b address value (b.writeUnclocked address value) := by
  unfold writeUnclocked request
  dsimp only
  by_cases hcart : inRom address ∨ inExternalRam address
  · rw [if_pos hcart]
    exact .cartridge hcart
  by_cases hvideo : inVideo address
  · rw [if_neg hcart, if_pos hvideo]
    by_cases hdma : address = 0xff46
    · rw [if_pos hdma]
      exact .dma hdma
    · rw [if_neg hdma]
      exact .video hvideo hdma
  rw [if_neg hcart, if_neg hvideo]
  by_cases hwram : 0xc000 ≤ address ∧ address ≤ 0xdfff
  · rw [if_pos hwram]
    exact .wram _ ⟨hwram.1, by bv_omega⟩
  by_cases hecho : 0xe000 ≤ address ∧ address ≤ 0xfdff
  · rw [if_neg hwram, if_pos hecho]
    exact .wram _ ⟨by bv_omega, hecho.2⟩
  rw [if_neg hwram, if_neg hecho]
  by_cases hjoypad : address = 0xff00
  · rw [if_pos hjoypad]
    exact .joypad hjoypad
  by_cases hserial : address = 0xff01 ∨ address = 0xff02
  · rw [if_neg hjoypad, if_pos hserial]
    exact .serial hserial
  rw [if_neg hjoypad, if_neg hserial]
  by_cases hdivider : address = 0xff04
  · subst hdivider
    rw [if_pos rfl, request_timer_write]
    exact .divider rfl
  by_cases htimer : 0xff05 ≤ address ∧ address ≤ 0xff07
  · rw [if_neg hdivider, if_pos htimer, request_timer_write]
    exact .timer htimer
  rw [if_neg hdivider, if_neg htimer]
  by_cases hif : address = 0xff0f
  · rw [if_pos hif]
    exact .interruptFlags hif
  by_cases haudio : 0xff10 ≤ address ∧ address ≤ 0xff3f
  · rw [if_neg hif, if_pos haudio]
    exact .audio haudio
  rw [if_neg hif, if_neg haudio]
  by_cases hhram : inHram address
  · rw [if_pos hhram]
    exact .hram hhram
  by_cases hie : address = 0xffff
  · rw [if_neg hhram, if_pos hie]
    exact .interruptEnable hie
  · rw [if_neg hhram, if_neg hie]
    exact .unmapped

/-! ## What every operation preserves -/

/-- Every operation on a bus preserves `P`. -/
structure Preserved (P : MachineBus M → Prop) : Prop where
  tickMCycle : ∀ b, P b → P b.tickMCycle
  writeUnclocked : ∀ b address value, P b → P (b.writeUnclocked address value)
  resetDivider : ∀ b, P b → P b.resetDivider
  acknowledge : ∀ (b : MachineBus M) i, P b → P { b with interrupts := b.interrupts.acknowledge i }
  setUnixSeconds : ∀ b now, P b → P (b.setUnixSeconds now)
  setJoypadState : ∀ b state, P b → P (b.setJoypadState state)
  reset : ∀ b now state, P b → P (b.reset now state)
  takeFrame : ∀ b, P b → P b.takeFrame.2
  drainAudio : ∀ b, P b → P b.drainAudio.2

namespace Preserved
variable {P : MachineBus M → Prop}

theorem write8 (h : Preserved P) (b : MachineBus M) (address : Word) (value : Byte) (hb : P b) :
    P (b.write8 address value) := by
  rw [MachineBus.write8]
  split
  · split
    · exact h.tickMCycle _ (h.writeUnclocked _ _ _ hb)
    · exact h.writeUnclocked _ _ _ (h.tickMCycle _ hb)
  · exact h.tickMCycle _ hb

theorem apply (h : Preserved P) (b : MachineBus M) (op : Op) (hb : P b) : P (b.apply op) := by
  cases op with
  | cpu op =>
    cases op with
    | read8 address => exact h.tickMCycle _ hb
    | write8 address value => exact h.write8 _ _ _ hb
    | idleMCycle => exact h.tickMCycle _ hb
    | acknowledgeInterrupt i => exact h.acknowledge _ _ hb
    | resetDivider => exact h.resetDivider _ hb
  | setUnixSeconds now => exact h.setUnixSeconds _ _ hb
  | setJoypadState state => exact h.setJoypadState _ _ hb
  | reset now state => exact h.reset _ _ _ hb
  | takeFrame => exact h.takeFrame _ hb
  | drainAudio => exact h.drainAudio _ hb

/-- **What a new bus satisfies and every operation preserves holds of every bus.** -/
theorem invariant (h : Preserved P) {rom : List Byte} {sampleRate : Nat} {b : MachineBus M}
    (hb : Reachable (system M rom sampleRate) b)
    (hnew : ∀ persisted now cartridge, Cartridge.load rom persisted now = .ok cartridge →
      P (new cartridge sampleRate now)) : P b := by
  refine hb.invariant ?_ ?_
  · rintro b ⟨persisted, now, cartridge, -, hload, rfl⟩
    exact hnew persisted now cartridge hload
  · rintro b op c hb rfl
    exact h.apply b op hb

end Preserved

/-! ## The cartridge -/

/-- **The cartridge of the machine is a state of the cartridge**, and the sample rate is
the one the machine was built with. -/
theorem cartridge_of_reachable {rom : List Byte} {sampleRate : Nat} {b : MachineBus M}
    (h : Reachable (system M rom sampleRate) b) :
    Reachable (Cartridge.system rom fun _ => True) b.cartridge ∧ b.sampleRate = sampleRate := by
  have hkept : Preserved fun b : MachineBus M =>
      Reachable (Cartridge.system rom fun _ => True) b.cartridge ∧ b.sampleRate = sampleRate := by
    constructor
    case tickMCycle =>
      intro b hb
      rw [tickMCycle_cartridge, tickMCycle_sampleRate]
      exact hb
    case writeUnclocked =>
      rintro b address value ⟨hcartridge, hrate⟩
      have hcase := writeUnclocked_cases b address value
      generalize b.writeUnclocked address value = c at hcase
      cases hcase with
      | cartridge =>
        have hstep := hcartridge.step (i := .write address value b.nowUnixSeconds) ⟨trivial, rfl⟩
        exact ⟨hstep, hrate⟩
      | _ => exact ⟨hcartridge, hrate⟩
    case reset =>
      rintro b now state ⟨hcartridge, hrate⟩
      exact ⟨hcartridge.step (i := .reset now) ⟨trivial, rfl⟩, hrate⟩
    all_goals
      intros
      assumption
  refine hkept.invariant h fun persisted now cartridge hload => ⟨?_, rfl⟩
  exact .start ⟨persisted, now, trivial, hload⟩

end MachineBus

end Pockiva
