import Pockiva.Ppu.Timeline
import Pockiva.Lib.Transition

/-! # The runs of a PPU

`step_cases` lists what an operation of the bus can do to a PPU; the timeline holds
of every reachable state with the LCD enabled.
-/
namespace Pockiva

open Transition

namespace Ppu

/-- A PPU from the end of the boot ROM on. -/
def system : System Ppu Op := .ofNext (· = postBootDmg) fun p op => (p.step op).ppu

/-- `q` differs from `p` in memory, in registers without a part in the STAT line, or
in the frame that waits to be taken. -/
structure Untouched (p q : Ppu) : Prop where
  raster : q.raster = p.raster
  lcdc : q.registers.lcdc = p.registers.lcdc
  stat : q.registers.stat = p.registers.stat
  lyc : q.registers.lyc = p.registers.lyc
  statLineHigh : q.statLineHigh = p.statLineHigh
  lycEqual : q.lycEqual = p.lycEqual
  blankFirstFrame : q.blankFirstFrame = p.blankFirstFrame
  framebuffer : q.framebuffer = p.framebuffer
  nextSequence : q.nextSequence = p.nextSequence
  windowLine : q.windowLine = p.windowLine
  selectedSprites : q.selectedSprites = p.selectedSprites

theorem untouched_writeRegister (p : Ppu) (address : Word) (value : Byte) :
    Untouched p { p with registers := writeRegister p.registers address value } := by
  have h : (writeRegister p.registers address value).lcdc = p.registers.lcdc ∧
      (writeRegister p.registers address value).stat = p.registers.stat ∧
      (writeRegister p.registers address value).lyc = p.registers.lyc := by
    unfold writeRegister
    split <;> exact ⟨rfl, rfl, rfl⟩
  exact ⟨rfl, h.1, h.2.1, h.2.2, rfl, rfl, rfl, rfl, rfl, rfl, rfl⟩

/-- **What a CPU write can do.** -/
theorem write_cases (p : Ppu) (address : Word) (value : Byte) :
    (address = 0xff40 ∧ p.write address value = p.writeLcdc value) ∨
    (address = 0xff41 ∧ p.write address value = p.writeStat value) ∨
    (address = 0xff45 ∧ p.write address value = p.writeLyc value) ∨
    (address ≠ 0xff41 ∧ ∃ q, p.write address value = .quiet q ∧ Untouched p q) := by
  have hvram : inVram address → address ≠ 0xff41 := by
    rintro ⟨-, h⟩ rfl
    exact absurd h (by decide)
  have hoam : inOam address → address ≠ 0xff41 := by
    rintro ⟨-, h⟩ rfl
    exact absurd h (by decide)
  unfold write
  by_cases h1 : inVram address ∧ p.vramCpuWriteAccessible = true
  · rw [if_pos h1]
    refine .inr (.inr (.inr ⟨hvram h1.1, _, rfl, ?_⟩))
    exact ⟨rfl, rfl, rfl, rfl, rfl, rfl, rfl, rfl, rfl, rfl, rfl⟩
  rw [if_neg h1]
  by_cases h2 : inOam address ∧ p.oamCpuWriteAccessible = true
  · rw [if_pos h2]
    refine .inr (.inr (.inr ⟨hoam h2.1, _, rfl, ?_⟩))
    exact ⟨rfl, rfl, rfl, rfl, rfl, rfl, rfl, rfl, rfl, rfl, rfl⟩
  rw [if_neg h2]
  by_cases h3 : address = 0xff40
  · rw [if_pos h3]
    exact .inl ⟨h3, rfl⟩
  rw [if_neg h3]
  by_cases h4 : address = 0xff41
  · rw [if_pos h4]
    exact .inr (.inl ⟨h4, rfl⟩)
  rw [if_neg h4]
  by_cases h5 : address = 0xff45
  · rw [if_pos h5]
    exact .inr (.inr (.inl ⟨h5, rfl⟩))
  rw [if_neg h5]
  exact .inr (.inr (.inr ⟨h4, _, rfl, untouched_writeRegister p address value⟩))

/-- `op` is a CPU write to the register at `address`. -/
def Op.WritesTo (address : Word) (op : Op) : Prop := ∃ value, op = .write address value

/-- **What an operation can do.** -/
inductive StepCase (p : Ppu) (op : Op) : Tick → Prop where
  | dot (hop : op = .dot) (henabled : p.lcdEnabled = true) : StepCase p op p.tickOne
  | stopped (hop : op = .dot) (hdisabled : p.lcdEnabled = false) : StepCase p op (.quiet p)
  | writeLcdc (value : Byte) (hop : op = .write 0xff40 value) : StepCase p op (p.writeLcdc value)
  | writeStat (value : Byte) (hop : op = .write 0xff41 value) : StepCase p op (p.writeStat value)
  | writeLyc (value : Byte) (hop : op = .write 0xff45 value) : StepCase p op (p.writeLyc value)
  | untouched (q : Ppu) (hop : op ≠ .dot) (hstat : ¬ op.WritesTo 0xff41) (hq : Untouched p q) :
      StepCase p op (.quiet q)

@[simp] theorem tick_one_of_enabled {p : Ppu} (h : p.lcdEnabled = true) : p.tick 1 = p.tickOne := by
  rw [tick, if_pos h, tickLoop, tickLoop, Tick.quiet_andThen]

theorem step_cases (p : Ppu) (op : Op) : StepCase p op (p.step op) := by
  cases op with
  | dot =>
    cases h : p.lcdEnabled with
    | true =>
      rw [step, tick_one_of_enabled h]
      exact .dot rfl h
    | false =>
      rw [step, tick, h, if_neg (by decide)]
      exact .stopped rfl h
  | write address value =>
    rw [step]
    obtain ⟨rfl, h⟩ | ⟨rfl, h⟩ | ⟨rfl, h⟩ | ⟨hne, q, h, hq⟩ := write_cases p address value
    · rw [h]
      exact .writeLcdc value rfl
    · rw [h]
      exact .writeStat value rfl
    · rw [h]
      exact .writeLyc value rfl
    · rw [h]
      refine .untouched q nofun ?_ hq
      rintro ⟨v, hv⟩
      injection hv with ha
      exact hne ha
  | dmaWriteOam index value =>
    refine .untouched _ nofun ?_ ⟨rfl, rfl, rfl, rfl, rfl, rfl, rfl, rfl, rfl, rfl, rfl⟩
    rintro ⟨v, hv⟩
    cases hv
  | takeFrame =>
    refine .untouched _ nofun ?_ ⟨rfl, rfl, rfl, rfl, rfl, rfl, rfl, rfl, rfl, rfl, rfl⟩
    rintro ⟨v, hv⟩
    cases hv

/-- The three ways of a write to LCDC: off, on, and neither. -/
theorem writeLcdc_cases (p : Ppu) (value : Byte) :
    (p.lcdEnabled = true ∧ (p.setLcdc value).lcdEnabled = false ∧
      p.writeLcdc value = ⟨(p.setLcdc value).disableLcd, .empty, [.lcdOff]⟩) ∨
    (p.lcdEnabled = false ∧ (p.setLcdc value).lcdEnabled = true ∧
      p.writeLcdc value = ⟨(p.setLcdc value).enableLcd.evaluateStat.ppu,
        (p.setLcdc value).enableLcd.evaluateStat.requested, [.lcdOn]⟩) ∨
    (p.lcdEnabled = (p.setLcdc value).lcdEnabled ∧
      p.writeLcdc value = (p.setLcdc value).evaluateStat) := by
  cases h1 : p.lcdEnabled <;> cases h2 : (p.setLcdc value).lcdEnabled <;>
    simp [writeLcdc, h1, h2]

theorem writeLyc_lcdc (p : Ppu) (value : Byte) :
    (p.writeLyc value).ppu.registers.lcdc = p.registers.lcdc := by
  unfold writeLyc
  dsimp only
  split <;> rfl

theorem writeLyc_raster (p : Ppu) (value : Byte) :
    (p.writeLyc value).ppu.raster = p.raster := by
  unfold writeLyc
  dsimp only
  split <;> rfl

/-! ## The timeline of reachable states -/

/-- A dot changes no register. -/
theorem DotEvent.registers {p : Ppu} {t : Tick} (e : DotEvent p t) :
    t.ppu.registers = p.registers := by
  have hcompare : ∀ q : Ppu, q.compareAtLineStart.registers = q.registers := by
    intro q
    unfold compareAtLineStart
    repeat' split
    all_goals rfl
  cases e
  case endVisible => exact hcompare p.nextLine.enterVisibleLine
  case enterVblank => exact hcompare _
  case endVblank => exact hcompare p.nextLine
  case wrap => exact hcompare p.wrapped
  all_goals rfl

/-- The timeline after the LCD is switched on. -/
theorem timeline_enableLcd (p : Ppu) : p.enableLcd.raster.Timeline where
  line_lt := (by decide : 0 < 154)
  dot_lt := (by decide : 8 < 456)
  phase := .inr rfl
  startup := fun _ => ⟨rfl, rfl, (by decide : 8 ≤ 8)⟩
  vblank := nofun
  visible := fun _ => .scan (by decide : 8 < 84) rfl rfl rfl

theorem timeline_postBootDmg : postBootDmg.raster.Timeline where
  line_lt := by decide
  dot_lt := by decide
  phase := .inl rfl
  startup := nofun
  vblank := nofun
  visible := fun _ => .scan (by decide) rfl rfl rfl

theorem StepCase.timeline {p : Ppu} {op : Op} {t : Tick}
    (h : p.lcdEnabled = true → p.raster.Timeline) (e : StepCase p op t)
    (henabled : t.ppu.lcdEnabled = true) : t.ppu.raster.Timeline := by
  cases e with
  | dot _ he => exact timeline_tickOne (h he)
  | stopped _ hd => exact absurd (henabled.symm.trans hd) (by decide)
  | writeLcdc value =>
    obtain ⟨h1, h2, ht⟩ | ⟨h1, h2, ht⟩ | ⟨h12, ht⟩ := p.writeLcdc_cases value
    · rw [ht] at henabled
      exact absurd (henabled.symm.trans h2) (by decide)
    · rw [ht]
      exact timeline_enableLcd (p.setLcdc value)
    · rw [ht] at henabled ⊢
      exact h (h12.trans henabled)
  | writeStat value => exact h henabled
  | writeLyc value =>
    rw [writeLyc_raster]
    rw [lcdEnabled, writeLyc_lcdc] at henabled
    exact h henabled
  | untouched q _ _ hq =>
    rw [Tick.quiet_ppu, hq.raster]
    rw [Tick.quiet_ppu, lcdEnabled, hq.lcdc] at henabled
    exact h henabled

/-- **The raster is on its timeline whenever the LCD is enabled.** -/
theorem timeline_of_reachable {p : Ppu} (h : Reachable system p) (henabled : p.lcdEnabled = true) :
    p.raster.Timeline := by
  refine h.invariant (P := fun p => p.lcdEnabled = true → p.raster.Timeline) ?_ ?_ henabled
  · rintro p rfl -
    exact timeline_postBootDmg
  · rintro p op q hp rfl hq
    exact (step_cases p op).timeline hp hq

end Ppu

end Pockiva
