import Pockiva.Ppu.Reachable

/-! # The LY coincidence flag

The flag is stored and refreshed at a few dots.  `FlagLaw` says where it is known to tell
whether LY equals LYC; the other dots are the end of a line, where LY runs ahead, and the
first two dots of a line after a re-enable.
-/
namespace Pockiva

open Transition

namespace Ppu

/-- LY already shows the next line, but the flag does not. -/
def LyAhead (p : Ppu) : Prop := p.lcdPhase = 0 ∧ p.internalLine < 153 ∧ 452 ≤ p.dot

/-- A visible line after a re-enable has begun, but the flag is not refreshed yet. -/
def LateRefresh (p : Ppu) : Prop := p.lcdPhase = 2 ∧ p.internalLine < 144 ∧ p.dot < 2

/-- **What the flag tells.** -/
structure FlagLaw (p : Ppu) : Prop where
  exact : ¬ p.LyAhead → ¬ p.LateRefresh → (p.lycEqual = true ↔ p.readableLy = p.registers.lyc)
  late : p.LateRefresh → p.lycEqual = true → p.readableLy = p.registers.lyc

/-- A fresh flag tells the truth at every dot. -/
theorem flagLaw_of_fresh {p : Ppu} (h : p.lycEqual = true ↔ p.readableLy = p.registers.lyc) :
    p.FlagLaw := ⟨fun _ _ => h, fun _ => h.mp⟩

theorem flagLaw_updateLycComparison (p : Ppu) : p.updateLycComparison.FlagLaw :=
  flagLaw_of_fresh (by rw [updateLycComparison]; exact beq_iff_eq)

/-- The law reads the flag, the raster and LYC. -/
theorem FlagLaw.congr {p q : Ppu} (h : p.FlagLaw) (hraster : q.raster = p.raster)
    (hlyc : q.registers.lyc = p.registers.lyc) (hflag : q.lycEqual = p.lycEqual) : q.FlagLaw := by
  simp only [raster, Raster.mk.injEq] at hraster
  obtain ⟨-, hdot, hline, -, hphase, -, -⟩ := hraster
  have hly : q.readableLy = p.readableLy := by rw [readableLy, hline, hdot, hphase, readableLy]
  have hahead : q.LyAhead ↔ p.LyAhead := by rw [LyAhead, hline, hdot, hphase, LyAhead]
  have hlate : q.LateRefresh ↔ p.LateRefresh := by
    rw [LateRefresh, hline, hdot, hphase, LateRefresh]
  constructor
  · intro h1 h2
    rw [hflag, hly, hlyc]
    exact h.exact (fun hp => h1 (hahead.mpr hp)) fun hp => h2 (hlate.mpr hp)
  · intro h1
    rw [hflag, hly, hlyc]
    exact h.late (hlate.mp h1)

theorem FlagLaw.evaluateStat {p : Ppu} (h : p.FlagLaw) : p.evaluateStat.ppu.FlagLaw :=
  h.congr rfl rfl rfl

/-! ## Dots -/

/-- A dot without an event changes LY only where it begins to run ahead. -/
theorem FlagLaw.advanced {p : Ppu} (h : p.FlagLaw) (ht : p.raster.Timeline)
    (h153 : ¬ (p.internalLine = 153 ∧ p.dot + 1 = 4))
    (hlate : ¬ (p.startupLine = false ∧ p.internalLine < 144 ∧ p.lcdPhase = 2 ∧ p.dot + 1 = 2)) :
    p.advanced.FlagLaw := by
  have hstartup : p.startupLine = true → p.lcdPhase = 2 ∧ p.internalLine = 0 ∧ 8 ≤ p.dot :=
    ht.startup
  have hly : ¬ p.advanced.LyAhead → p.advanced.readableLy = p.readableLy := by
    intro hahead
    have hline : p.internalLine = 153 ∧ 4 ≤ p.dot + 1 ↔ p.internalLine = 153 ∧ 4 ≤ p.dot := by omega
    have hnext : ¬ (p.lcdPhase = 0 ∧ p.internalLine < 153 ∧ 452 ≤ p.dot + 1) := hahead
    have hnow : ¬ (p.lcdPhase = 0 ∧ p.internalLine < 153 ∧ 452 ≤ p.dot) := by omega
    have hnext' : ¬ (p.advanced.lcdPhase = 0 ∧ p.advanced.internalLine < 153 ∧
        452 ≤ p.advanced.dot) := hnext
    rw [readableLy, readableLy, if_neg hnow, if_neg hnext']
    simp only [Ppu.advanced, hline]
  have hold : ¬ p.advanced.LyAhead → ¬ p.LyAhead := by
    intro hahead hp
    obtain ⟨hphase, hline, hdot⟩ := hp
    exact hahead ⟨hphase, hline, Nat.le_succ_of_le hdot⟩
  constructor
  · intro hahead hnotlate
    -- the flag was exact before, since a late refresh ends with an event
    have hbefore : ¬ p.LateRefresh := by
      rintro ⟨hphase, hline, hdot⟩
      have hnext : ¬ (p.lcdPhase = 2 ∧ p.internalLine < 144 ∧ p.dot + 1 < 2) := hnotlate
      cases hs : p.startupLine with
      | false => exact hlate ⟨hs, hline, hphase, by omega⟩
      | true =>
        obtain ⟨-, -, hlow⟩ := hstartup hs
        omega
    rw [hly hahead]
    exact h.exact (hold hahead) hbefore
  · rintro ⟨hphase, hline, hdot⟩ hflag
    have hphase' : p.lcdPhase = 2 := hphase
    have hdot' : p.dot + 1 < 2 := hdot
    have hahead : ¬ p.advanced.LyAhead := by
      rintro ⟨hzero, -, -⟩
      have hzero' : p.lcdPhase = 0 := hzero
      omega
    rw [hly hahead]
    exact h.late ⟨hphase, hline, by omega⟩ hflag

/-- At the start of a line the flag is refreshed, or only cleared where it will be. -/
theorem flagLaw_compareAtLineStart {p : Ppu} (hphase : p.lcdPhase = 0 ∨ p.lcdPhase = 2)
    (hdot : p.dot = 0) : p.compareAtLineStart.FlagLaw := by
  unfold compareAtLineStart
  split
  · exact flagLaw_updateLycComparison p
  · rename_i hvisible
    obtain ⟨hnonzero, hline⟩ := not_or.mp hvisible
    have hlate : p.LateRefresh :=
      ⟨hphase.resolve_left hnonzero, Nat.lt_of_not_le hline, hdot ▸ (by decide : 0 < 2)⟩
    split
    · exact ⟨fun _ hnot => absurd hlate hnot, fun _ hflag => by cases hflag⟩
    · rename_i hequal
      exact ⟨fun _ hnot => absurd hlate hnot, fun _ _ => not_not.mp hequal⟩

theorem DotEvent.flagLaw {p : Ppu} {t : Tick} (ht : p.raster.Timeline) (h : p.FlagLaw)
    (e : DotEvent p t) : t.ppu.FlagLaw := by
  have hphase : p.lcdPhase = 0 ∨ p.lcdPhase = 2 := ht.phase
  have hb : 80 ≤ p.mode3StartDot ∧ p.mode3StartDot ≤ 84 := ht.start_bounds
  cases e with
  | line153 => exact (flagLaw_updateLycComparison _).evaluateStat
  | line144 hline hdot =>
    exact (h.advanced ht (by omega) (by omega)).evaluateStat
  | lateScan => exact (flagLaw_updateLycComparison _).evaluateStat
  | startDrawing hline hdot =>
    have hnext : p.advanced.FlagLaw := h.advanced ht (by omega) (by omega)
    obtain ⟨hexact, hlate⟩ := hnext
    -- the start of mode 3 moves neither LY nor the flag
    have hstart : p.advanced.startDrawing.FlagLaw := ⟨hexact, hlate⟩
    exact hstart.evaluateStat
  | hblank hline hstart hdot =>
    obtain ⟨hexact, hlate⟩ := h.advanced ht (by omega) (by omega)
    have hstored :
        Ppu.FlagLaw { (p.advanced.storeScanline p.internalLine).ppu with mode := .hBlank } :=
      ⟨hexact, hlate⟩
    exact hstored.evaluateStat
  | mode3End hline hdot hvisible hmode hfixed =>
    obtain ⟨h1, h2, h3, h4⟩ := stage_dots ht hline
    have hlow : p.mode3StartDot + 172 ≤ p.mode3EndDot := hfixed.lower
    exact (h.advanced ht (by omega) (by omega)).evaluateStat
  | endVisible =>
    exact (flagLaw_compareAtLineStart (p := p.nextLine.enterVisibleLine) hphase rfl).evaluateStat
  | enterVblank =>
    have hcompared := flagLaw_compareAtLineStart
      (p := (Ppu.publishFrame { p.nextLine with mode := .vBlank }).ppu) hphase rfl
    exact hcompared.evaluateStat
  | endVblank =>
    exact (flagLaw_compareAtLineStart (p := p.nextLine) hphase rfl).evaluateStat
  | wrap =>
    exact (flagLaw_compareAtLineStart (p := p.wrapped) hphase rfl).evaluateStat
  | none h153 h144 hlate =>
    refine h.advanced ht h153 ?_
    rintro ⟨hs, hline, hp, hdot⟩
    exact hlate ⟨hs, hline, by omega, by omega⟩

/-! ## Every operation -/

theorem flagLaw_enableLcd (p : Ppu) : p.enableLcd.FlagLaw := by
  have hfresh : p.enableLcd.lycEqual = (p.enableLcd.readableLy == p.enableLcd.registers.lyc) := rfl
  exact flagLaw_of_fresh (by rw [hfresh]; exact beq_iff_eq)

theorem writeLyc_of_enabled {p : Ppu} (h : p.lcdEnabled = true) (value : Byte) :
    p.writeLyc value =
      (Ppu.updateLycComparison
        { p with registers := { p.registers with lyc := value } }).evaluateStat :=
  congrArg evaluateStat (if_pos h)

theorem StepCase.flagLaw {p : Ppu} {op : Op} {t : Tick}
    (ht : p.lcdEnabled = true → p.raster.Timeline) (h : p.lcdEnabled = true → p.FlagLaw)
    (e : StepCase p op t) (henabled : t.ppu.lcdEnabled = true) : t.ppu.FlagLaw := by
  cases e with
  | dot _ he => exact (tickOne_event (ht he)).flagLaw (ht he) (h he)
  | stopped _ hd => exact absurd (henabled.symm.trans hd) (by decide)
  | writeLcdc value =>
    obtain ⟨h1, h2, hw⟩ | ⟨h1, h2, hw⟩ | ⟨h12, hw⟩ := p.writeLcdc_cases value
    · rw [hw] at henabled
      exact absurd (henabled.symm.trans h2) (by decide)
    · rw [hw]
      exact (flagLaw_enableLcd _).evaluateStat
    · rw [hw] at henabled ⊢
      exact (h (h12.trans henabled)).congr rfl rfl rfl
  | writeStat value => exact (h henabled).congr rfl rfl rfl
  | writeLyc value =>
    rw [lcdEnabled, writeLyc_lcdc] at henabled
    rw [writeLyc_of_enabled henabled]
    exact (flagLaw_updateLycComparison _).evaluateStat
  | untouched q _ _ hq =>
    rw [Tick.quiet_ppu, lcdEnabled, hq.lcdc] at henabled
    exact (h henabled).congr hq.raster hq.lyc hq.lycEqual

theorem flagLaw_of_reachable {p : Ppu} (h : Reachable system p) (henabled : p.lcdEnabled = true) :
    p.FlagLaw := by
  refine (h.invariant (P := fun p => Reachable system p ∧ (p.lcdEnabled = true → p.FlagLaw))
    ?_ ?_).2 henabled
  · rintro p rfl
    exact ⟨.start rfl, fun _ => flagLaw_of_fresh ⟨fun _ => rfl, fun _ => rfl⟩⟩
  · rintro p op q ⟨hr, hp⟩ rfl
    exact ⟨hr.ofNext op, (step_cases p op).flagLaw (timeline_of_reachable hr) hp⟩

/-! ## What the CPU reads -/

/-- Bit 2 of FF41 is the flag. -/
theorem readStat_flag (p : Ppu) : p.readStat.getLsbD 2 = p.lycEqual := by
  have henables : p.registers.stat.enables.getLsbD 2 = false := by
    rw [Stat.enables, BitVec.getLsbD_and]
    exact Bool.and_false _
  have hmode : p.mode.bits.getLsbD 2 = false := by cases p.mode <;> rfl
  have hflag : (byteOfBool p.lycEqual <<< 2).getLsbD 2 = p.lycEqual := by cases p.lycEqual <;> rfl
  rw [readStat, BitVec.getLsbD_or, BitVec.getLsbD_or, BitVec.getLsbD_or, henables, hmode, hflag,
    Bool.or_false, Bool.or_false]
  exact Bool.false_or _

/-- **Main result.**  While the LCD is enabled, bit 2 of STAT is set exactly if the LY the CPU
reads is LYC, but where LY runs ahead at the end of a line; on the first two dots of a visible
line after a re-enable a set bit still tells the truth. -/
theorem lyc_flag {p : Ppu} (h : Reachable system p) (henabled : p.lcdEnabled = true) :
    (¬ (p.lcdPhase = 0 ∧ p.internalLine < 153 ∧ 452 ≤ p.dot) →
      ¬ (p.lcdPhase = 2 ∧ p.internalLine < 144 ∧ p.dot < 2) →
      ((p.read 0xff41).getLsbD 2 = true ↔ p.read 0xff44 = p.registers.lyc)) ∧
    (p.lcdPhase = 2 → p.internalLine < 144 → p.dot < 2 →
      (p.read 0xff41).getLsbD 2 = true → p.read 0xff44 = p.registers.lyc) := by
  obtain ⟨hexact, hlate⟩ := flagLaw_of_reachable h henabled
  rw [read_stat, read_ly, readStat_flag]
  exact ⟨hexact, fun hphase hline hdot => hlate ⟨hphase, hline, hdot⟩⟩

/-- The end of the boot ROM: line 0, and LYC is 0. -/
theorem lyc_flag_postBootDmg :
    (postBootDmg.read 0xff41).getLsbD 2 = true ↔ postBootDmg.read 0xff44 = 0 :=
  (lyc_flag (p := postBootDmg) (.start rfl) rfl).1 (by rintro ⟨-, -, h⟩; exact absurd h (by decide))
    (by rintro ⟨h, -, -⟩; cases h)

end Ppu

end Pockiva
