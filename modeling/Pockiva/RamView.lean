import Pockiva.OamTransfer

/-! # The RAM a program sees

Work RAM with its echo, and HRAM.  To a program they are cells that keep what was last
written, and OAM DMA is a count of M-cycles for which work RAM is out of reach.
`ram_view` states that the bus refines this view over every run.
-/
namespace Pockiva

open Transition

variable {M : MixerModel}

/-! ## The view -/

/-- Work RAM with its echo, and HRAM. -/
def inRam (address : Word) : Prop := (0xc000 ≤ address ∧ address ≤ 0xfdff) ∨ inHram address

instance (address : Word) : Decidable (inRam address) :=
  inferInstanceAs (Decidable ((_ ∧ _) ∨ _))

/-- The cell of an address: E000 to FDFF is C000 to DDFF again. -/
def ramCell (address : Word) : Word :=
  if 0xe000 ≤ address ∧ address ≤ 0xfdff then address - 0x2000 else address

/-- What a program has to know of its RAM. -/
structure RamView where
  cells : Word → Byte
  /-- The M-cycles of OAM DMA that are left. -/
  blocked : Nat

namespace RamView

/-- RAM when the machine is switched on. -/
def initial : RamView := ⟨fun _ => 0, 0⟩

/-- OAM DMA keeps a program from an address. -/
def Blocks (v : RamView) (address : Word) : Prop := 0 < v.blocked ∧ ¬ inHram address

instance (v : RamView) (address : Word) : Decidable (v.Blocks address) :=
  inferInstanceAs (Decidable (_ ∧ _))

def read (v : RamView) (address : Word) : Byte :=
  if v.Blocks address then 0xff else v.cells (ramCell address)

def write (v : RamView) (address : Word) (value : Byte) : RamView :=
  if inRam address ∧ ¬ v.Blocks address then
    { v with cells := Function.update v.cells (ramCell address) value }
  else v

def mCycle (v : RamView) : RamView := { v with blocked := v.blocked - 1 }

def apply (v : RamView) : MachineBus.Op → RamView
  | .cpu (.write8 address value) =>
    if address = 0xff46 then { v with blocked := 160 } else (v.write address value).mCycle
  | .cpu (.read8 _) => v.mCycle
  | .cpu .idleMCycle => v.mCycle
  | .reset _ _ => initial
  | _ => v

def run (v : RamView) (ops : List MachineBus.Op) : RamView := ops.foldl apply v

end RamView

/-- HRAM has no echo. -/
theorem ramCell_eq_of_inHram {address other : Word} (h : inHram address)
    (hsame : ramCell other = ramCell address) : other = address := by
  obtain ⟨hfirst, hlast⟩ := h
  unfold ramCell at hsame
  rw [if_neg (by bv_omega : ¬ (0xe000 ≤ address ∧ address ≤ 0xfdff))] at hsame
  split at hsame
  · next hecho =>
    obtain ⟨hecho, hecho'⟩ := hecho
    bv_omega
  · exact hsame

/-- The cells of work RAM. -/
theorem ramCell_lt {address : Word} (h : 0xc000 ≤ address ∧ address ≤ 0xfdff) :
    0xc000 ≤ ramCell address ∧ ramCell address ≤ 0xdfff := by
  obtain ⟨hfirst, hlast⟩ := h
  unfold ramCell
  split
  · next hecho =>
    obtain ⟨hecho, hecho'⟩ := hecho
    constructor <;> bv_omega
  · next hecho => exact ⟨hfirst, by bv_omega⟩

namespace MachineBus

/-! ## Reads of RAM -/

/-- The byte of RAM at an address. -/
def ramByte (b : MachineBus M) (address : Word) : Byte :=
  if inHram address then b.hram.get (address - 0xff80).toNat
  else b.wram.get (ramCell address - 0xc000).toNat

theorem readUnclocked_ram (b : MachineBus M) {address : Word} (h : inRam address) :
    b.readUnclocked address = b.ramByte address := by
  have hrom : ¬ (inRom address ∨ inExternalRam address) := by
    unfold inRom inExternalRam
    rcases h with ⟨hfirst, hlast⟩ | ⟨hfirst, hlast⟩ <;> bv_omega
  have hvideo : ¬ inVideo address := by
    unfold inVideo Ppu.inVram Ppu.inOam
    rcases h with ⟨hfirst, hlast⟩ | ⟨hfirst, hlast⟩ <;> bv_omega
  unfold readUnclocked ramByte ramCell
  rw [if_neg hrom, if_neg hvideo]
  by_cases hhram : inHram address
  · obtain ⟨hfirst, hlast⟩ := hhram
    rw [if_neg (by bv_omega), if_neg (by bv_omega), if_neg (by bv_omega), if_neg (by bv_omega),
      if_neg (by bv_omega), if_neg (by bv_omega), if_neg (by bv_omega), if_pos ⟨hfirst, hlast⟩,
      if_pos ⟨hfirst, hlast⟩]
  · have hwork := h.resolve_right hhram
    rw [if_neg hhram, if_neg hhram]
    by_cases hecho : 0xe000 ≤ address ∧ address ≤ 0xfdff
    · have hsame : (address - 0x2000 - 0xc000 : Word) = address - 0xe000 := by bv_omega
      rw [if_neg (by bv_omega), if_pos hecho, if_pos hecho, hsame]
    · rw [if_pos (by bv_omega), if_neg hecho]

/-- Two buses with the same RAM. -/
structure SameRam (b c : MachineBus M) : Prop where
  wram : c.wram = b.wram
  hram : c.hram = b.hram

theorem SameRam.ramByte {b c : MachineBus M} (h : SameRam b c) (address : Word) :
    c.ramByte address = b.ramByte address := by
  unfold MachineBus.ramByte
  rw [h.wram, h.hram]

theorem sameRam_tickMCycle (b : MachineBus M) : SameRam b b.tickMCycle := by
  obtain ⟨interrupts, heq⟩ := b.tickMCycle_eq
  rw [heq]
  exact ⟨rfl, rfl⟩

/-! ## Writes of RAM -/

/-- A write to another address. -/
theorem sameRam_writeUnclocked (b : MachineBus M) {address : Word} (h : ¬ inRam address)
    (value : Byte) : SameRam b (b.writeUnclocked address value) := by
  have hcase := b.writeUnclocked_cases address value
  generalize b.writeUnclocked address value = c at hcase
  cases hcase with
  | wram wram hin => exact absurd (.inl hin) h
  | hram hin => exact absurd (.inr hin) h
  | _ => exact ⟨rfl, rfl⟩

/-- RAM takes a write at the end of the M-cycle. -/
theorem not_writesEarly_of_inRam {address : Word} (h : inRam address) : ¬ writesEarly address := by
  unfold writesEarly Ppu.inVram Ppu.inOam
  rcases h with ⟨hfirst, hlast⟩ | ⟨hfirst, hlast⟩ <;> bv_omega

/-- FF46 is not RAM. -/
theorem ne_ff46_of_inRam {address : Word} (h : inRam address) : address ≠ 0xff46 := by
  rcases h with ⟨hfirst, hlast⟩ | ⟨hfirst, hlast⟩ <;> bv_omega

/-- **A write changes the cell of its address, and no other.** -/
theorem ramByte_writeUnclocked (b : MachineBus M) {address other : Word} (h : inRam address)
    (hother : inRam other) (value : Byte) :
    (b.writeUnclocked address value).ramByte other =
      if ramCell other = ramCell address then value else b.ramByte other := by
  have hrom : ¬ (inRom address ∨ inExternalRam address) := by
    unfold inRom inExternalRam
    rcases h with ⟨hfirst, hlast⟩ | ⟨hfirst, hlast⟩ <;> bv_omega
  have hvideo : ¬ inVideo address := by
    unfold inVideo Ppu.inVram Ppu.inOam
    rcases h with ⟨hfirst, hlast⟩ | ⟨hfirst, hlast⟩ <;> bv_omega
  by_cases hhram : inHram address
  · have hwritten : b.writeUnclocked address value =
        { b with hram := b.hram.set (address - 0xff80).toNat value } := by
      obtain ⟨hfirst, hlast⟩ := hhram
      unfold writeUnclocked
      rw [if_neg hrom, if_neg hvideo, if_neg (by bv_omega), if_neg (by bv_omega),
        if_neg (by bv_omega), if_neg (by bv_omega), if_neg (by bv_omega), if_neg (by bv_omega),
        if_neg (by bv_omega), if_neg (by bv_omega), if_pos ⟨hfirst, hlast⟩]
    rw [hwritten]
    unfold ramByte
    dsimp only
    by_cases hsame : ramCell other = ramCell address
    · have heq := ramCell_eq_of_inHram hhram hsame
      subst heq
      rw [if_pos hhram, if_pos rfl, Bytes.get_set_self]
      obtain ⟨hfirst, hlast⟩ := hhram
      bv_omega
    · rw [if_neg hsame]
      split
      · next hhram' =>
        have hne : other ≠ address := fun heq => hsame (congrArg ramCell heq)
        obtain ⟨hfirst, hlast⟩ := hhram
        obtain ⟨hfirst', hlast'⟩ := hhram'
        rw [Bytes.get_set_of_ne]
        bv_omega
      · rfl
  · have hwork := h.resolve_right hhram
    have hwritten : b.writeUnclocked address value =
        { b with wram := b.wram.set (ramCell address - 0xc000).toNat value } := by
      unfold writeUnclocked ramCell
      rw [if_neg hrom, if_neg hvideo]
      by_cases hecho : 0xe000 ≤ address ∧ address ≤ 0xfdff
      · have hsame : (address - 0x2000 - 0xc000 : Word) = address - 0xe000 := by bv_omega
        rw [if_neg (by bv_omega), if_pos hecho, if_pos hecho, hsame]
      · rw [if_pos (by bv_omega), if_neg hecho]
    rw [hwritten]
    unfold ramByte
    dsimp only
    by_cases hhram' : inHram other
    · have hne : ramCell other ≠ ramCell address := fun hsame =>
        hhram (ramCell_eq_of_inHram hhram' hsame.symm ▸ hhram')
      rw [if_pos hhram', if_pos hhram', if_neg hne]
    rw [if_neg hhram', if_neg hhram']
    have hrange := ramCell_lt hwork
    have hrange' := ramCell_lt (hother.resolve_right hhram')
    by_cases hsame : ramCell other = ramCell address
    · rw [if_pos hsame, hsame, Bytes.get_set_self]
      bv_omega
    · rw [if_neg hsame, Bytes.get_set_of_ne]
      bv_omega

/-! ## The refinement -/

/-- The bus shows what the view says. -/
structure ShowsRam (b : MachineBus M) (v : RamView) : Prop where
  dma : ∃ page, Transferring page (160 - v.blocked) b.dma
  blocked : v.blocked ≤ 160
  cells : ∀ address, inRam address → b.ramByte address = v.cells (ramCell address)

namespace ShowsRam
variable {b c : MachineBus M} {v : RamView}

theorem active (h : b.ShowsRam v) : b.dma.active = decide (0 < v.blocked) := by
  obtain ⟨page, hdma⟩ := h.dma
  have hblocked := h.blocked
  rw [hdma.active, decide_eq_decide]
  omega

/-- An operation that takes no M-cycle and writes neither RAM nor FF46. -/
theorem aside (h : b.ShowsRam v) (hdma : c.dma = b.dma) (hram : SameRam b c) : c.ShowsRam v := by
  refine ⟨?_, h.blocked, fun address hin => (hram.ramByte address).trans (h.cells address hin)⟩
  rw [hdma]
  exact h.dma

/-- An M-cycle. -/
theorem mCycle (h : b.ShowsRam v)
    (hdma : c.dma = if b.dma.active then b.dma.advance else b.dma) (hram : SameRam b c) :
    c.ShowsRam v.mCycle := by
  obtain ⟨page, htransfer⟩ := h.dma
  have hblocked := h.blocked
  have hpassed : v.mCycle.blocked = v.blocked - 1 := rfl
  refine ⟨⟨page, ?_⟩, by omega,
    fun address hin => (hram.ramByte address).trans (h.cells address hin)⟩
  rw [hdma]
  by_cases hzero : v.blocked = 0
  · have hidle : b.dma.active = false := by rw [h.active, hzero]; rfl
    rw [hidle, hpassed, hzero]
    exact hidle
  · have hnext : 160 - v.mCycle.blocked = 160 - v.blocked + 1 := by omega
    rw [hnext]
    exact htransfer.advance

/-- A write that reaches RAM. -/
theorem stored (h : b.ShowsRam v) {address : Word} (hin : inRam address) (value : Byte) :
    (b.writeUnclocked address value).ShowsRam
      { v with cells := Function.update v.cells (ramCell address) value } := by
  have hdma := b.writeUnclocked_dma (ne_ff46_of_inRam hin) value
  refine ⟨by rw [hdma]; exact h.dma, h.blocked, fun other hother => ?_⟩
  rw [b.ramByte_writeUnclocked hin hother]
  dsimp only
  by_cases hsame : ramCell other = ramCell address
  · rw [if_pos hsame, hsame, Function.update_self]
  · rw [if_neg hsame, Function.update_of_ne hsame]
    exact h.cells other hother

/-- **A write of the program.** -/
theorem write8 (h : b.ShowsRam v) {address : Word} (hne : address ≠ 0xff46) (value : Byte) :
    (b.write8 address value).ShowsRam (v.write address value).mCycle := by
  have hclock : b.tickMCycle.ShowsRam v.mCycle := h.mCycle b.tickMCycle_dma b.sameRam_tickMCycle
  have hallowed : b.writeAllowed address = !decide (v.Blocks address) := by
    unfold writeAllowed RamView.Blocks
    rw [h.active, beq_eq_false_iff_ne.mpr hne, Bool.or_false]
    by_cases hblocked : 0 < v.blocked <;> by_cases hhram : inHram address <;>
      simp [hblocked, hhram]
  unfold MachineBus.write8
  rw [hallowed]
  by_cases hblocks : v.Blocks address
  · have hlost : v.write address value = v := if_neg fun hboth => hboth.2 hblocks
    rw [decide_eq_true hblocks, hlost]
    exact hclock
  rw [decide_eq_false hblocks, Bool.not_false, if_pos rfl]
  by_cases hin : inRam address
  · have hlate := not_writesEarly_of_inRam hin
    have hstored : (v.write address value).mCycle =
        { v.mCycle with cells := Function.update v.mCycle.cells (ramCell address) value } := by
      unfold RamView.write
      rw [if_pos ⟨hin, hblocks⟩]
      rfl
    rw [if_neg hlate, hstored]
    exact hclock.stored hin value
  · have hlost : v.write address value = v := if_neg fun hboth => hin hboth.1
    rw [hlost]
    split
    · have hearly := h.aside (b.writeUnclocked_dma hne value) (b.sameRam_writeUnclocked hin value)
      exact hearly.mCycle (tickMCycle_dma _) (sameRam_tickMCycle _)
    · exact hclock.aside (b.tickMCycle.writeUnclocked_dma hne value)
        (b.tickMCycle.sameRam_writeUnclocked hin value)

/-- The write that starts OAM DMA. -/
theorem startDma (h : b.ShowsRam v) (value : Byte) :
    (b.write8 0xff46 value).ShowsRam { v with blocked := 160 } := by
  have hout : ¬ inRam 0xff46 := by decide
  have hallowed : b.writeAllowed 0xff46 = true := by simp [writeAllowed]
  have hram : SameRam b (b.write8 0xff46 value) := by
    have hclock := b.sameRam_tickMCycle
    have hwrite := b.tickMCycle.sameRam_writeUnclocked hout value
    rw [MachineBus.write8, if_pos hallowed, if_neg (by decide)]
    exact ⟨hwrite.wram.trans hclock.wram, hwrite.hram.trans hclock.hram⟩
  refine ⟨⟨value, ?_⟩, Nat.le_refl _,
    fun address hin => (hram.ramByte address).trans (h.cells address hin)⟩
  rw [write8_ff46_dma]
  rfl

/-- RAM of a machine that was just switched on. -/
theorem initial {b : MachineBus M} (hdma : b.dma = .idle) (hwram : b.wram = .filled _ 0)
    (hhram : b.hram = .filled _ 0) : b.ShowsRam .initial := by
  have hzero : ∀ n i, (Bytes.filled n 0).get i = 0 := by
    intro n i
    unfold Bytes.get Bytes.filled
    split <;> rfl
  refine ⟨⟨0, ?_⟩, Nat.zero_le _, fun address hin => ?_⟩
  · rw [hdma]
    rfl
  · unfold ramByte
    rw [hwram, hhram]
    split <;> exact hzero _ _

theorem apply (h : b.ShowsRam v) (op : Op) : (b.apply op).ShowsRam (v.apply op) := by
  cases op with
  | cpu op =>
    cases op with
    | read8 address => exact h.mCycle b.tickMCycle_dma b.sameRam_tickMCycle
    | write8 address value =>
      show (b.write8 address value).ShowsRam
        (if address = 0xff46 then { v with blocked := 160 } else (v.write address value).mCycle)
      by_cases hstart : address = 0xff46
      · subst hstart
        exact h.startDma value
      · rw [if_neg hstart]
        exact h.write8 hstart value
    | idleMCycle => exact h.mCycle b.tickMCycle_dma b.sameRam_tickMCycle
    | acknowledgeInterrupt i => exact h.aside rfl ⟨rfl, rfl⟩
    | resetDivider => exact h.aside rfl ⟨rfl, rfl⟩
  | setUnixSeconds now => exact h.aside rfl ⟨rfl, rfl⟩
  | setJoypadState state => exact h.aside rfl ⟨rfl, rfl⟩
  | reset now state => exact initial rfl rfl rfl
  | takeFrame => exact h.aside rfl ⟨rfl, rfl⟩
  | drainAudio => exact h.aside rfl ⟨rfl, rfl⟩

theorem run (h : b.ShowsRam v) (ops : List Op) : (b.run ops).ShowsRam (v.run ops) := by
  induction ops generalizing b v with
  | nil => exact h
  | cons op ops ih => exact ih (h.apply op)

end ShowsRam

/-- **RAM is what a program left in it**: after any operations on a new machine, a read of
work RAM, its echo or HRAM gives the byte that was last written to that cell, or FF while
OAM DMA keeps the program out, and the machine is in a transfer exactly then. -/
theorem ram_view (cartridge : Cartridge) (sampleRate now : Nat) (ops : List Op) :
    let b := (new cartridge sampleRate now : MachineBus M).run ops
    let v := RamView.initial.run ops
    b.dma.active = decide (0 < v.blocked) ∧
      ∀ address, inRam address → (b.read8 address).1 = v.read address := by
  intro b v
  have hnew : (new cartridge sampleRate now : MachineBus M).ShowsRam .initial :=
    ShowsRam.initial rfl rfl rfl
  have hshows : b.ShowsRam v := hnew.run ops
  refine ⟨hshows.active, fun address hin => ?_⟩
  show (if b.dma.active = true ∧ ¬ inHram address then 0xff else b.readUnclocked address) = _
  unfold RamView.read RamView.Blocks
  rw [b.readUnclocked_ram hin, hshows.cells address hin]
  refine if_congr (and_congr_left fun _ => ?_) rfl rfl
  rw [hshows.active, decide_eq_true_eq]

end MachineBus

end Pockiva
