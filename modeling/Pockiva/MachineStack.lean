import Pockiva.Cpu.Stack
import Pockiva.RamView

/-! # The stack in the machine

The RAM of the machine is memory for the stack: HRAM always, and work RAM with its echo
while no OAM DMA is under way.
-/
namespace Pockiva

open StackOps

variable {M : MixerModel}

namespace MachineBus

/-- A write to RAM that OAM DMA does not keep off. -/
theorem write8_ram (b : MachineBus M) {address : Word} (hin : inRam address)
    (hopen : b.dma.active = false ∨ inHram address) (value : Byte) :
    b.write8 address value = b.tickMCycle.writeUnclocked address value := by
  have hallowed : b.writeAllowed address = true := by
    unfold writeAllowed
    rcases hopen with hidle | hhram
    · simp [hidle]
    · simp [hhram]
  rw [write8, if_pos hallowed, if_neg (not_writesEarly_of_inRam hin)]

theorem tickMCycle_idle {b : MachineBus M} (h : b.dma.active = false) :
    b.tickMCycle.dma.active = false := by
  rw [tickMCycle_dma, h, if_neg (by decide), h]

/-- Operations other than writes leave RAM alone and start no OAM DMA. -/
theorem quiet_apply (b : MachineBus M) {op : BusOp} (hop : ¬ op.Writes) :
    SameRam b (op.apply b) ∧ (b.dma.active = false → (op.apply b).dma.active = false) := by
  cases op with
  | read8 address => exact ⟨b.sameRam_tickMCycle, tickMCycle_idle⟩
  | write8 address value => exact absurd trivial hop
  | idleMCycle => exact ⟨b.sameRam_tickMCycle, tickMCycle_idle⟩
  | acknowledgeInterrupt i => exact ⟨⟨rfl, rfl⟩, id⟩
  | resetDivider => exact ⟨⟨rfl, rfl⟩, id⟩

instance : MemoryBus (MachineBus M) where
  memory := inRam
  slot := ramCell
  cell b := b.ramByte
  Open b address := inRam address ∧ (b.dma.active = false ∨ inHram address)
  memory_of_open h := h.1
  read8_open := by
    rintro b address ⟨hin, hopen⟩
    show (if b.dma.active = true ∧ ¬ inHram address then 0xff else b.readUnclocked address) = _
    rw [if_neg, readUnclocked_ram b hin]
    rintro ⟨hactive, hhram⟩
    rcases hopen with hidle | hin
    · cases hidle.symm.trans hactive
    · exact hhram hin
  cell_apply b op hop address _ := (b.quiet_apply hop).1.ramByte address
  open_apply := by
    rintro b op hop address ⟨hin, hopen⟩
    exact ⟨hin, hopen.imp_left (b.quiet_apply hop).2⟩
  cell_write8 := by
    rintro b written ⟨hin, hopen⟩ value address hmemory
    show (b.write8 written value).ramByte address = _
    rw [b.write8_ram hin hopen, ramByte_writeUnclocked _ hin hmemory,
      b.sameRam_tickMCycle.ramByte]
  open_write8 := by
    rintro b written address ⟨hin, hopen⟩ value ⟨hin', hopen'⟩
    refine ⟨hin', ?_⟩
    show (b.write8 written value).dma.active = false ∨ _
    rw [b.write8_ram hin hopen, writeUnclocked_dma _ (ne_ff46_of_inRam hin)]
    exact hopen'.imp_left tickMCycle_idle

/-! ## Where programs have their stacks -/

/-- HRAM, where SP is when the machine starts. -/
def hramStack : StackArea (MachineBus M) where
  floor := 0xff80
  top := 0xfffe
  memory _ hfloor htop := .inr ⟨hfloor, by bv_omega⟩
  distinct a b ha ha' hb hb' h := by
    have hcell : ∀ a : Word, 0xff80 ≤ a → a < 0xfffe → ramCell a = a := fun a ha ha' =>
      if_neg (by bv_omega)
    change ramCell a = ramCell b at h
    rwa [hcell a ha ha', hcell b hb hb'] at h

/-- Work RAM. -/
def workStack : StackArea (MachineBus M) where
  floor := 0xc000
  top := 0xe000
  memory _ hfloor htop := .inl ⟨hfloor, by bv_omega⟩
  distinct a b ha ha' hb hb' h := by
    have hcell : ∀ a : Word, 0xc000 ≤ a → a < 0xe000 → ramCell a = a := fun a ha ha' =>
      if_neg (by bv_omega)
    change ramCell a = ramCell b at h
    rwa [hcell a ha ha', hcell b hb hb'] at h

/-- HRAM is within reach also during OAM DMA. -/
theorem open_hram (b : MachineBus M) {address : Word} (hfloor : 0xff80 ≤ address)
    (htop : address < 0xfffe) : MemoryBus.Open b address := by
  have hhram : inHram address := ⟨hfloor, by bv_omega⟩
  exact ⟨.inr hhram, .inr hhram⟩

/-- When the machine starts, the stack in HRAM is empty. -/
theorem stacked_postBoot (b : MachineBus M) : Stacked hramStack ⟨.postBootDmg, b⟩ [] := by
  have hsp : (0xff80 : Word) ≤ 0xfffe := by decide
  exact ⟨hsp, rfl⟩

/-- What the machine does between the steps of the CPU keeps to the stack, but for a reset. -/
theorem stackStep_between {area : StackArea (MachineBus M)} (s : Exec (MachineBus M)) {op : Op}
    (hcpu : ∀ busOp, op ≠ .cpu busOp) (hreset : ∀ now state, op ≠ .reset now state) :
    StackStep area s .keep ⟨s.cpu, s.bus.apply op⟩ := by
  have hram : SameRam s.bus (s.bus.apply op) := by
    cases op with
    | cpu busOp => exact absurd rfl (hcpu busOp)
    | reset now state => exact absurd rfl (hreset now state)
    | _ => exact ⟨rfl, rfl⟩
  exact .machine rfl fun address _ _ => hram.ramByte address

end MachineBus

end Pockiva
