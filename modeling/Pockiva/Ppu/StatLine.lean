import Pockiva.Ppu.Reachable

/-! # The STAT line

While the LCD is enabled the stored STAT line is the level the registers and the
raster call for (`Coherent`), so an interrupt is requested exactly at the rising
edges of the level; a write to FF41 adds the pulse of the DMG.
-/
namespace Pockiva

open Transition

namespace Ppu

/-- The level of the STAT line with the current enables. -/
def statLevel (p : Ppu) : Bool := p.statLevelWithEnables p.registers.stat.enables

/-- The stored line is the current level. -/
def Coherent (p : Ppu) : Prop := p.statLineHigh = p.statLevel

/-- The step requested a STAT interrupt exactly if the level rose. -/
def EdgeTriggered (p : Ppu) (t : Tick) : Prop :=
  t.requested.has .lcdStat = (!p.statLevel && t.ppu.statLevel)

/-- Every evaluation leaves the line coherent. -/
theorem coherent_evaluateStat (p : Ppu) : p.evaluateStat.ppu.Coherent := rfl

theorem requested_evaluateStatWithEnables (p : Ppu) (enables : Byte) :
    (p.evaluateStatWithEnables enables).requested.has .lcdStat =
      (p.statLevelWithEnables enables && !p.statLineHigh) := by
  unfold evaluateStatWithEnables
  dsimp only
  cases p.statLevelWithEnables enables && !p.statLineHigh <;> decide

/-- An evaluation after changes that left the stored line alone requests exactly
the rising edge. -/
theorem edgeTriggered_evaluateStat {p q : Ppu} (h : p.Coherent)
    (hline : q.statLineHigh = p.statLineHigh) : EdgeTriggered p q.evaluateStat := by
  have hlevel : q.evaluateStat.ppu.statLevel = q.statLevel := rfl
  rw [EdgeTriggered, evaluateStat, requested_evaluateStatWithEnables, hline, h]
  rw [evaluateStat] at hlevel
  rw [hlevel, Bool.and_comm]
  rfl

/-- The same after a step that asked for something else. -/
theorem edgeTriggered_andThen {p : Ppu} {t : Tick} {f : Ppu → Ppu} (h : p.Coherent)
    (hrequested : t.requested.has .lcdStat = false)
    (hline : (f t.ppu).statLineHigh = p.statLineHigh) :
    EdgeTriggered p (t.andThen fun q => (f q).evaluateStat) := by
  have hedge := edgeTriggered_evaluateStat h hline
  rw [EdgeTriggered] at hedge ⊢
  rw [Tick.andThen_requested, InterruptMask.has_union, hrequested, Bool.false_or, hedge,
    Tick.andThen_ppu]

/-- A step that asks for nothing is edge triggered if the level stays. -/
theorem edgeTriggered_quiet {p q : Ppu} (h : q.statLevel = p.statLevel) :
    EdgeTriggered p (.quiet q) := by
  rw [EdgeTriggered, Tick.quiet_ppu, Tick.quiet_requested, h]
  cases p.statLevel <;> decide

/-- The level depends on the raster, the LY flag, LCDC bit 7 and the enables. -/
theorem statLevelWithEnables_congr {p q : Ppu} (hraster : q.raster = p.raster)
    (hlcdc : q.registers.lcdc = p.registers.lcdc) (hlyc : q.lycEqual = p.lycEqual)
    (enables : Byte) : q.statLevelWithEnables enables = p.statLevelWithEnables enables := by
  simp only [raster, Raster.mk.injEq] at hraster
  obtain ⟨hmode, hdot, hline, hstartup, -, -, hend⟩ := hraster
  simp only [statLevelWithEnables, lcdEnabled, hmode, hdot, hline, hstartup, hend, hlcdc, hlyc]

theorem Untouched.statLevel {p q : Ppu} (h : Untouched p q) : q.statLevel = p.statLevel := by
  unfold Ppu.statLevel
  rw [h.stat]
  exact statLevelWithEnables_congr h.raster h.lcdc h.lycEqual _

/-! ## Dots -/

/-- On a dot without an event the level stays. -/
theorem statLevel_advanced {p : Ppu} (h : p.raster.Timeline)
    (h144 : ¬ (p.internalLine = 144 ∧ p.dot + 1 = 1))
    (hend : p.internalLine < 144 → p.dot + 1 ≠ p.mode3EndDot) :
    p.advanced.statLevel = p.statLevel := by
  have hline144 : (p.internalLine = 144 ∧ p.dot + 1 = 0) ↔ (p.internalLine = 144 ∧ p.dot = 0) := by
    omega
  by_cases hline : p.internalLine < 144
  · have hne := hend hline
    have hiff : p.mode3EndDot ≤ p.dot + 1 ↔ p.mode3EndDot ≤ p.dot := by omega
    simp only [Ppu.statLevel, statLevelWithEnables, advanced, lcdEnabled, hiff, hline144]
  · -- only the HBlank source looks at the dot, and there is no HBlank here
    have hmode : p.mode = .vBlank := h.vblank (Nat.le_of_not_lt hline)
    have hhblank : (p.mode == LcdMode.hBlank) = false := by
      rw [hmode]
      decide
    simp only [Ppu.statLevel, statLevelWithEnables, advanced, lcdEnabled, hhblank, hline144,
      Bool.and_false, Bool.false_and]

/-- A dot keeps the line coherent and requests exactly the rising edge. -/
theorem DotEvent.stat {p : Ppu} {t : Tick} (h : p.raster.Timeline) (hc : p.Coherent)
    (e : DotEvent p t) : t.ppu.Coherent ∧ EdgeTriggered p t := by
  have hcompare : ∀ q : Ppu, q.compareAtLineStart.statLineHigh = q.statLineHigh := by
    intro q
    unfold compareAtLineStart
    repeat' split
    all_goals rfl
  have hnone : InterruptMask.empty.has .lcdStat = false := by decide
  have hvblank : (InterruptMask.of .vblank).has .lcdStat = false := by decide
  cases e with
  | line153 => exact ⟨coherent_evaluateStat _, edgeTriggered_evaluateStat hc rfl⟩
  | line144 => exact ⟨coherent_evaluateStat _, edgeTriggered_evaluateStat hc rfl⟩
  | lateScan => exact ⟨coherent_evaluateStat _, edgeTriggered_evaluateStat hc rfl⟩
  | startDrawing => exact ⟨coherent_evaluateStat _, edgeTriggered_evaluateStat hc rfl⟩
  | hblank =>
    exact ⟨coherent_evaluateStat _,
      edgeTriggered_andThen (f := fun q => { q with mode := .hBlank }) hc hnone rfl⟩
  | mode3End => exact ⟨coherent_evaluateStat _, edgeTriggered_evaluateStat hc rfl⟩
  | endVisible =>
    exact ⟨coherent_evaluateStat _,
      edgeTriggered_evaluateStat hc (hcompare p.nextLine.enterVisibleLine)⟩
  | enterVblank => exact ⟨coherent_evaluateStat _, edgeTriggered_andThen hc hvblank (hcompare _)⟩
  | endVblank =>
    exact ⟨coherent_evaluateStat _, edgeTriggered_evaluateStat hc (hcompare p.nextLine)⟩
  | wrap =>
    exact ⟨coherent_evaluateStat _, edgeTriggered_andThen hc hnone (hcompare p.wrapped)⟩
  | none h153 h144 _ _ _ hend =>
    have hlevel := statLevel_advanced h h144 hend
    exact ⟨hc.trans hlevel.symm, edgeTriggered_quiet hlevel⟩

/-! ## Writes -/

/-- The level with the given enables is monotone in them. -/
theorem statLevelWithEnables_all (p : Ppu) {enables : Byte}
    (h : p.statLevelWithEnables enables = true) : p.statLevelWithEnables 0x78 = true := by
  have h08 : (0x78 : Byte) &&& 0x08 != 0 := by decide
  have h10 : (0x78 : Byte) &&& 0x10 != 0 := by decide
  have h20 : (0x78 : Byte) &&& 0x20 != 0 := by decide
  have h40 : (0x78 : Byte) &&& 0x40 != 0 := by decide
  simp only [statLevelWithEnables, Bool.or_eq_true, Bool.and_eq_true] at h ⊢
  rcases h with ((h | h) | h) | h
  · exact .inl (.inl (.inl ⟨h.1, h08⟩))
  · exact .inl (.inl (.inr ⟨h.1, h10⟩))
  · exact .inl (.inr ⟨h.1, h20⟩)
  · exact .inr ⟨h.1, h40⟩

/-- The pulse of a write to FF41: all sources count for an instant. -/
theorem requested_writeStat {p : Ppu} (hc : p.Coherent) (value : Byte) :
    (p.writeStat value).requested.has .lcdStat =
      (!p.statLevel && p.statLevelWithEnables 0x78) := by
  let pulsed : Ppu := { p with
    statLineHigh := p.statLevelWithEnables 0x78
    registers := { p.registers with stat := p.registers.stat.write value } }
  have heq : (p.writeStat value).requested =
      (p.evaluateStatWithEnables 0x78).requested.union
        (pulsed.evaluateStatWithEnables pulsed.registers.stat.enables).requested := rfl
  have hlevel : ∀ enables, pulsed.statLevelWithEnables enables = p.statLevelWithEnables enables :=
    statLevelWithEnables_congr rfl rfl rfl
  have hline : pulsed.statLineHigh = p.statLevelWithEnables 0x78 := rfl
  rw [heq, InterruptMask.has_union, requested_evaluateStatWithEnables,
    requested_evaluateStatWithEnables, hlevel, hline, hc]
  -- the second evaluation starts from the level with all sources, so it never rises
  cases hnew : p.statLevelWithEnables pulsed.registers.stat.enables with
  | false => rw [Bool.false_and, Bool.or_false, Bool.and_comm]
  | true =>
    rw [p.statLevelWithEnables_all hnew, Bool.not_true, Bool.and_false, Bool.or_false,
      Bool.true_and, Bool.and_true]

/-- **What every operation does to the STAT line** while the LCD stays enabled. -/
theorem StepCase.stat {p : Ppu} {op : Op} {t : Tick} (h : p.raster.Timeline) (hc : p.Coherent)
    (e : StepCase p op t) (henabled : p.lcdEnabled = true) (hstays : t.ppu.lcdEnabled = true) :
    t.ppu.Coherent ∧ (¬ op.WritesTo 0xff41 → EdgeTriggered p t) := by
  cases e with
  | dot hop =>
    obtain ⟨hcoherent, hedge⟩ := (tickOne_event h).stat h hc
    exact ⟨hcoherent, fun _ => hedge⟩
  | stopped _ hd => exact absurd (henabled.symm.trans hd) (by decide)
  | writeLcdc value =>
    obtain ⟨-, h2, ht⟩ | ⟨h1, -, -⟩ | ⟨-, ht⟩ := p.writeLcdc_cases value
    · rw [ht] at hstays
      exact absurd (hstays.symm.trans h2) (by decide)
    · exact absurd (henabled.symm.trans h1) (by decide)
    · rw [ht]
      exact ⟨coherent_evaluateStat _, fun _ => edgeTriggered_evaluateStat hc rfl⟩
  | writeStat value hop =>
    exact ⟨coherent_evaluateStat _, fun hne => absurd ⟨value, hop⟩ hne⟩
  | writeLyc value =>
    refine ⟨coherent_evaluateStat _, fun _ => edgeTriggered_evaluateStat hc ?_⟩
    split <;> rfl
  | untouched q _ _ hq =>
    refine ⟨?_, fun _ => edgeTriggered_quiet hq.statLevel⟩
    rw [Tick.quiet_ppu, Coherent, hq.statLineHigh, hq.statLevel, hc]

/-- Only a write to LCDC switches the LCD on, and it evaluates the line. -/
theorem StepCase.coherent_enabled {p : Ppu} {op : Op} {t : Tick} (e : StepCase p op t)
    (hdisabled : p.lcdEnabled = false) (henabled : t.ppu.lcdEnabled = true) : t.ppu.Coherent := by
  have hclash : p.lcdEnabled ≠ true := by
    rw [hdisabled]
    decide
  cases e with
  | dot _ he => exact absurd he hclash
  | stopped => exact absurd henabled hclash
  | writeLcdc value =>
    obtain ⟨h1, -, -⟩ | ⟨-, -, ht⟩ | ⟨-, ht⟩ := p.writeLcdc_cases value
    · exact absurd h1 hclash
    · rw [ht]
      exact coherent_evaluateStat _
    · rw [ht]
      exact coherent_evaluateStat _
  | writeStat value => exact coherent_evaluateStat _
  | writeLyc value => exact coherent_evaluateStat _
  | untouched q _ _ hq =>
    rw [Tick.quiet_ppu, lcdEnabled, hq.lcdc] at henabled
    exact absurd henabled hclash

theorem step_writeStat (p : Ppu) (value : Byte) :
    p.step (.write 0xff41 value) = p.writeStat value := by
  have hvram : ¬ inVram 0xff41 := by decide
  have hoam : ¬ inOam 0xff41 := by decide
  rw [step, write, if_neg fun h => hvram h.1, if_neg fun h => hoam h.1, if_neg (by decide),
    if_pos rfl]

/-- **The STAT line of a reachable PPU is coherent while the LCD is enabled.** -/
theorem coherent_of_reachable {p : Ppu} (h : Reachable system p) (henabled : p.lcdEnabled = true) :
    p.Coherent := by
  refine (h.invariant (P := fun p => Reachable system p ∧ (p.lcdEnabled = true → p.Coherent))
    ?_ ?_).2 henabled
  · rintro p rfl
    exact ⟨.start rfl, fun _ => rfl⟩
  · rintro p op q ⟨hr, hc⟩ rfl
    refine ⟨hr.ofNext op, fun hq => ?_⟩
    cases he : p.lcdEnabled with
    | true => exact ((step_cases p op).stat (timeline_of_reachable hr he) (hc he) he hq).1
    | false => exact (step_cases p op).coherent_enabled he hq

/-- **STAT interrupts come from the rising edges of the level and from nowhere
else**, except that a write to FF41 acts as if all sources were enabled for an
instant. -/
theorem stat_line_coherent {p : Ppu} (h : Reachable system p) (henabled : p.lcdEnabled = true) :
    p.statLineHigh = p.statLevelWithEnables p.registers.stat.enables ∧
      ∀ op, (p.step op).ppu.lcdEnabled = true →
        (¬ op.WritesTo 0xff41 →
          ((p.step op).requested.has .lcdStat = true ↔
            p.statLevel = false ∧ (p.step op).ppu.statLevel = true)) ∧
        (op.WritesTo 0xff41 →
          ((p.step op).requested.has .lcdStat = true ↔
            p.statLevel = false ∧ p.statLevelWithEnables 0x78 = true)) := by
  have hc := coherent_of_reachable h henabled
  have ht := timeline_of_reachable h henabled
  refine ⟨hc, fun op hstays => ⟨fun hne => ?_, ?_⟩⟩
  · have hedge := ((step_cases p op).stat ht hc henabled hstays).2 hne
    rw [hedge]
    simp
  · rintro ⟨value, rfl⟩
    rw [step_writeStat, requested_writeStat hc]
    simp

/-- At the end of the boot ROM, with all enables off, a write of 0x40 to FF41 asks for
an interrupt: the OAM scan is a source for an instant, and LY = LYC after it. -/
theorem stat_line_coherent_postBootDmg :
    postBootDmg.statLineHigh = false ∧
      (postBootDmg.step (.write 0xff41 0x40)).requested.has .lcdStat := by
  have h := stat_line_coherent (p := postBootDmg) (.start rfl) rfl
  exact ⟨h.1, ((h.2 (.write 0xff41 0x40) rfl).2 ⟨0x40, rfl⟩).2 ⟨rfl, rfl⟩⟩

end Ppu

end Pockiva
