import Pockiva.Ppu.Reachable
import Pockiva.Ppu.Scanout

/-! # The PPU is a scanout

`Shows p s` relates a PPU to the scanout it stands for.  Every operation of the PPU
is a run of the scanout with the events of its log (`StepCase.simulates`), so the
log of every run is a run of the scanout (`run_simulates`).
-/
namespace Pockiva

open Transition

/-- The lines of the frame that are rendered by now. -/
def Raster.rowsDone (r : Raster) : Nat :=
  if 144 ≤ r.line then 144
  else if r.mode3StartDot ≤ r.dot ∧ r.visibleHblankDot ≤ r.dot then r.line + 1
  else r.line

theorem Raster.rowsDone_of_vblank {r : Raster} (h : 144 ≤ r.line) : r.rowsDone = 144 := if_pos h

theorem Raster.rowsDone_of_rendered {r : Raster} (hline : r.line < 144)
    (hstart : r.mode3StartDot ≤ r.dot) (hvisible : r.visibleHblankDot ≤ r.dot) :
    r.rowsDone = r.line + 1 := by
  rw [rowsDone, if_neg (Nat.not_le_of_lt hline), if_pos ⟨hstart, hvisible⟩]

theorem Raster.rowsDone_of_pending {r : Raster} (hline : r.line < 144)
    (h : r.dot < r.mode3StartDot ∨ r.dot < r.visibleHblankDot) : r.rowsDone = r.line := by
  rw [rowsDone, if_neg (Nat.not_le_of_lt hline), if_neg (by omega)]

/-- Only the parts of a line matter. -/
theorem Raster.rowsDone_congr {r q : Raster} (hline : q.line = r.line)
    (h : r.line < 144 → (q.mode3StartDot ≤ q.dot ∧ q.visibleHblankDot ≤ q.dot ↔
      r.mode3StartDot ≤ r.dot ∧ r.visibleHblankDot ≤ r.dot)) : q.rowsDone = r.rowsDone := by
  unfold rowsDone
  rw [hline]
  by_cases hvblank : 144 ≤ r.line
  · rw [if_pos hvblank, if_pos hvblank]
  · rw [if_neg hvblank, if_neg hvblank]
    exact if_congr (h (Nat.lt_of_not_le hvblank)) rfl rfl

namespace Ppu

/-- The PPU stands for the scanout. -/
structure Shows (p : Ppu) (s : Scanout) : Prop where
  lit : s.lit = p.lcdEnabled
  blank : s.blank = p.blankFirstFrame
  sequence : s.nextSequence = p.nextSequence
  rows : p.lcdEnabled = true → s.rows.length = p.raster.rowsDone
  published : p.lcdEnabled = true → (s.published.isSome = true ↔ 144 ≤ p.internalLine)
  /-- The framebuffer holds the rows, unless they are not drawn. -/
  image : s.blank = false → s.published = none →
    ∀ i : Fin frameRgbaLen, i.val / 640 < s.rows.length → p.framebuffer i = picture s.rows i

/-- What a step may not change if it emits nothing. -/
theorem Shows.congr {p q : Ppu} {s : Scanout} (h : Shows p s)
    (hlcd : q.lcdEnabled = p.lcdEnabled) (hblank : q.blankFirstFrame = p.blankFirstFrame)
    (hsequence : q.nextSequence = p.nextSequence) (hframebuffer : q.framebuffer = p.framebuffer)
    (hrows : p.lcdEnabled = true → q.raster.rowsDone = p.raster.rowsDone)
    (hline : p.lcdEnabled = true → (144 ≤ q.internalLine ↔ 144 ≤ p.internalLine)) : Shows q s where
  lit := h.lit.trans hlcd.symm
  blank := h.blank.trans hblank.symm
  sequence := h.sequence.trans hsequence.symm
  rows hq := (h.rows (hlcd ▸ hq)).trans (hrows (hlcd ▸ hq)).symm
  published hq := (h.published (hlcd ▸ hq)).trans (hline (hlcd ▸ hq)).symm
  image hb hp i hi := by
    rw [hframebuffer]
    exact h.image hb hp i hi

/-- The comparison at the start of a line only touches the LY flag. -/
theorem compareAtLineStart_eq (p : Ppu) :
    ∃ b, p.compareAtLineStart = { p with lycEqual := b } := by
  unfold compareAtLineStart updateLycComparison
  split
  · exact ⟨_, rfl⟩
  · split
    · exact ⟨_, rfl⟩
    · exact ⟨_, rfl⟩

/-- What follows the start of a line keeps the relation. -/
theorem Shows.lineStart {p : Ppu} {s : Scanout} (h : Shows p s) :
    Shows p.compareAtLineStart.evaluateStat.ppu s := by
  obtain ⟨b, hb⟩ := p.compareAtLineStart_eq
  rw [hb]
  exact h.congr rfl rfl rfl rfl (fun _ => rfl) (fun _ => Iff.rfl)

/-! ## Rows in the framebuffer -/

/-- The row just copied, and the rows before it. -/
theorem copyRow_apply (framebuffer : Bytes frameRgbaLen) (rows : List RenderedRow)
    (row : RenderedRow) (h : ∀ i : Fin frameRgbaLen, i.val / 640 < rows.length →
      framebuffer i = picture rows i) (i : Fin frameRgbaLen) (hi : i.val / 640 < rows.length + 1) :
    copyRow framebuffer rows.length row i = picture (rows ++ [row]) i := by
  by_cases hlast : i.val / 640 = rows.length
  · have hin : rows.length * screenWidth * 4 ≤ i.val ∧
        i.val < rows.length * screenWidth * 4 + screenWidth * 4 := by
      unfold screenWidth
      omega
    have hrow : (rows ++ [row])[i.val / 640]? = some row := by
      rw [hlast]
      simp
    have hcolumn : (i.val - rows.length * screenWidth * 4) / 4 = i.val % 640 / 4 := by
      unfold screenWidth
      omega
    have hchannel : (i.val - rows.length * screenWidth * 4) % 4 = i.val % 4 := by
      unfold screenWidth
      omega
    simp only [copyRow, dif_pos hin, picture, hrow, hcolumn, hchannel]
  · have hout : ¬ (rows.length * screenWidth * 4 ≤ i.val ∧
        i.val < rows.length * screenWidth * 4 + screenWidth * 4) := by
      unfold screenWidth
      omega
    have hlt : i.val / 640 < rows.length := by omega
    have hrow : (rows ++ [row])[i.val / 640]? = rows[i.val / 640]? :=
      List.getElem?_append_left hlt
    simp only [copyRow, dif_neg hout, h i hlt, picture, hrow]

/-! ## Dots -/

/-- **A dot is a run of the scanout.** -/
theorem DotEvent.simulates {p : Ppu} {t : Tick} {s : Scanout} (h : p.raster.Timeline)
    (henabled : p.lcdEnabled = true) (hs : Shows p s) (e : DotEvent p t) :
    ∃ s', Run Scanout.system s t.log s' ∧ Shows t.ppu s' := by
  have hb : 80 ≤ p.raster.mode3StartDot ∧ p.raster.mode3StartDot ≤ 84 := h.start_bounds
  have hlit : s.lit = true := hs.lit.trans henabled
  -- Three events are steps of the scanout: a row, a frame and the wrap to the next one.
  -- At any other dot it stands still, and only the rows done have to be counted again.
  cases e with
  | line153 hline hdot =>
    refine ⟨s, .nil, hs.congr rfl rfl rfl rfl (fun _ => ?_) (fun _ => Iff.rfl)⟩
    refine Raster.rowsDone_congr rfl fun hlt => ?_
    have hvisible : p.internalLine < 144 := hlt
    omega
  | line144 hline hdot =>
    refine ⟨s, .nil, hs.congr rfl rfl rfl rfl (fun _ => ?_) (fun _ => Iff.rfl)⟩
    refine Raster.rowsDone_congr rfl fun hlt => ?_
    have hvisible : p.internalLine < 144 := hlt
    omega
  | lateScan hstartup hline hphase hdot =>
    refine ⟨s, .nil, hs.congr rfl rfl rfl rfl (fun _ => ?_) (fun _ => Iff.rfl)⟩
    refine Raster.rowsDone_congr rfl fun _ => ?_
    show p.raster.mode3StartDot ≤ p.dot + 1 ∧ p.visibleHblankDot ≤ p.dot + 1 ↔
      p.raster.mode3StartDot ≤ p.dot ∧ p.visibleHblankDot ≤ p.dot
    omega
  | startDrawing hline hdot =>
    refine ⟨s, .nil, hs.congr rfl rfl rfl rfl (fun _ => ?_) (fun _ => Iff.rfl)⟩
    -- mode 3 lasts for some dots, so the new row is not done yet
    have hfixed := mode3Fixed_startDrawing p.advanced
    have hlow := hfixed.lower
    have hle := hfixed.le_visible
    have hstart : p.advanced.startDrawing.raster.mode3StartDot = p.raster.mode3StartDot := rfl
    have hdot' : p.dot + 1 = p.raster.mode3StartDot := hdot
    refine Raster.rowsDone_congr rfl fun _ => ?_
    show p.raster.mode3StartDot ≤ p.dot + 1 ∧
        p.advanced.startDrawing.raster.visibleHblankDot ≤ p.dot + 1 ↔
      p.raster.mode3StartDot ≤ p.dot ∧ p.visibleHblankDot ≤ p.dot
    omega
  | hblank hline hstart hdot hmode hfixed =>
    have hpending : p.raster.rowsDone = p.internalLine :=
      Raster.rowsDone_of_pending hline (.inr (by show p.dot < p.visibleHblankDot; omega))
    have hrows : s.rows.length = p.internalLine := (hs.rows henabled).trans hpending
    have hpublished : s.published = Option.none := by
      have hnot := mt (hs.published henabled).mp (Nat.not_le_of_lt hline)
      simpa using hnot
    have hstep := Scanout.Step.scanline (s := s) (p.advanced.renderScanline p.internalLine) hlit
      (hrows ▸ hline) hpublished
    rw [hrows] at hstep
    refine ⟨_, .single hstep, ⟨hs.lit, hs.blank, hs.sequence, fun _ => ?_, fun _ => ?_, ?_⟩⟩
    · have hdone : (p.advanced.raster).rowsDone = p.internalLine + 1 :=
        Raster.rowsDone_of_rendered hline
          (show p.mode3StartDot ≤ p.dot + 1 from Nat.le_succ_of_le hstart)
          (show p.visibleHblankDot ≤ p.dot + 1 from Nat.le_of_eq hdot.symm)
      rw [List.length_append, hrows]
      exact hdone.symm
    · exact hs.published henabled
    · -- The row is copied, unless the first frame after the LCD was lit is blank.
      intro hblank _ i hi
      rw [List.length_append] at hi
      have hbf : p.blankFirstFrame = false := hs.blank.symm.trans hblank
      show (if p.blankFirstFrame then p.framebuffer
        else copyRow p.framebuffer p.internalLine _) i = _
      rw [hbf, if_neg (by decide), ← hrows]
      exact copyRow_apply _ _ _ (hs.image hblank hpublished) i hi
  | mode3End hline hdot hvisible hmode hfixed =>
    refine ⟨s, .nil, hs.congr rfl rfl rfl rfl (fun _ => ?_) (fun _ => Iff.rfl)⟩
    have hlow : p.raster.mode3StartDot + 172 ≤ p.mode3EndDot := hfixed.lower
    refine Raster.rowsDone_congr rfl fun _ => ?_
    show p.raster.mode3StartDot ≤ p.dot + 1 ∧ p.visibleHblankDot ≤ p.dot + 1 ↔
      p.raster.mode3StartDot ≤ p.dot ∧ p.visibleHblankDot ≤ p.dot
    omega
  | endVisible hline hdot hhblank =>
    refine ⟨s, .nil, Shows.lineStart (hs.congr rfl rfl rfl rfl (fun _ => ?_) (fun _ => ?_))⟩
    · have hbefore : p.raster.rowsDone = p.internalLine + 1 :=
        Raster.rowsDone_of_rendered (show p.internalLine < 144 by omega)
          (show p.raster.mode3StartDot ≤ p.dot by omega) hhblank
      rw [hbefore]
      exact Raster.rowsDone_of_pending (r := p.nextLine.enterVisibleLine.raster) hline
        (.inr (show 0 < 252 by decide))
    · show 144 ≤ p.internalLine + 1 ↔ 144 ≤ p.internalLine
      omega
  | enterVblank hline hdot hhblank =>
    have hvisible : p.internalLine < 144 := by omega
    have hrows : s.rows.length = 144 := by
      rw [hs.rows henabled, Raster.rowsDone_of_rendered (show p.internalLine < 144 by omega)
        (show p.raster.mode3StartDot ≤ p.dot by omega) hhblank]
      exact hline
    have hpublished : s.published = Option.none := by
      have hnot := mt (hs.published henabled).mp (Nat.not_le_of_lt hvisible)
      simpa using hnot
    -- All 144 rows are in, so the framebuffer is the picture of the scanout.
    have hframe : s.nextFrame =
        ⟨p.nextSequence, if p.blankFirstFrame then .filled _ 0xff else p.framebuffer⟩ := by
      rw [Scanout.nextFrame, hs.sequence, ← hs.blank]
      congr 1
      cases hb : s.blank with
      | true => rfl
      | false =>
        funext i
        have hi : i.val / 640 < s.rows.length := by
          have hlt : i.val < 92160 := i.isLt
          omega
        exact (hs.image hb hpublished i hi).symm
    have hstep := Scanout.Step.frame hlit hrows hpublished
    rw [hframe] at hstep
    refine ⟨_, .single hstep, Shows.lineStart ⟨hs.lit, rfl, congrArg (· + 1) hs.sequence,
      fun _ => ?_, fun _ => ?_, nofun⟩⟩
    · exact hrows.trans (Raster.rowsDone_of_vblank (by
        show 144 ≤ p.internalLine + 1
        omega)).symm
    · show true = true ↔ 144 ≤ p.internalLine + 1
      exact iff_of_true rfl (by omega)
  | endVblank hlow hline hdot =>
    refine ⟨s, .nil, Shows.lineStart (hs.congr rfl rfl rfl rfl (fun _ => ?_) (fun _ => ?_))⟩
    · exact (Raster.rowsDone_of_vblank (Nat.le_succ_of_le hlow)).trans
        (Raster.rowsDone_of_vblank hlow).symm
    · show 144 ≤ p.internalLine + 1 ↔ 144 ≤ p.internalLine
      omega
  | wrap hline hdot =>
    have hlow : 144 ≤ p.internalLine := by omega
    have hrows : s.rows.length = 144 :=
      (hs.rows henabled).trans (Raster.rowsDone_of_vblank hlow)
    have hstep := Scanout.Step.wrap hlit hrows ((hs.published henabled).mpr hlow)
    refine ⟨_, .single hstep, Shows.lineStart ⟨hs.lit, hs.blank, hs.sequence, fun _ => ?_,
      fun _ => ?_, fun _ _ i hi => absurd hi (Nat.not_lt_zero _)⟩⟩
    · exact (Raster.rowsDone_of_pending (r := p.wrapped.raster) (show 0 < 144 by decide)
        (.inr (show 0 < 252 by decide))).symm
    · show false = true ↔ 144 ≤ 0
      decide
  | none h153 h144 hlate hstart hvisible hend hdot =>
    refine ⟨s, .nil, hs.congr rfl rfl rfl rfl (fun _ => ?_) (fun _ => Iff.rfl)⟩
    refine Raster.rowsDone_congr rfl fun hline => ?_
    have hne1 : p.dot + 1 ≠ p.raster.mode3StartDot := hstart hline
    have hne2 : p.dot + 1 ≠ p.visibleHblankDot := hvisible hline
    show p.raster.mode3StartDot ≤ p.dot + 1 ∧ p.visibleHblankDot ≤ p.dot + 1 ↔
      p.raster.mode3StartDot ≤ p.dot ∧ p.visibleHblankDot ≤ p.dot
    omega

/-! ## Operations and runs -/

/-- **An operation is a run of the scanout.** -/
theorem StepCase.simulates {p : Ppu} {op : Op} {t : Tick} {s : Scanout}
    (h : p.lcdEnabled = true → p.raster.Timeline) (hs : Shows p s) (e : StepCase p op t) :
    ∃ s', Run Scanout.system s t.log s' ∧ Shows t.ppu s' := by
  cases e with
  | dot _ henabled => exact (tickOne_event (h henabled)).simulates (h henabled) henabled hs
  | stopped => exact ⟨s, .nil, hs⟩
  | writeLcdc value =>
    obtain ⟨h1, h2, ht⟩ | ⟨h1, h2, ht⟩ | ⟨h12, ht⟩ := p.writeLcdc_cases value
    · rw [ht]
      refine ⟨_, .single (.lcdOff (hs.lit.trans h1)), ⟨h2.symm, hs.blank, hs.sequence,
        fun he => absurd (he.symm.trans h2) (by decide),
        fun he => absurd (he.symm.trans h2) (by decide),
        fun _ _ i hi => absurd hi (Nat.not_lt_zero _)⟩⟩
    · rw [ht]
      refine ⟨_, .single (.lcdOn (hs.lit.trans h1)), ⟨h2.symm, rfl, hs.sequence, fun _ => ?_,
        fun _ => ?_, nofun⟩⟩
      · exact (Raster.rowsDone_of_pending (r := (p.setLcdc value).enableLcd.raster)
          (show 0 < 144 by decide) (.inr (show 8 < 252 by decide))).symm
      · show false = true ↔ 144 ≤ 0
        decide
    · rw [ht]
      exact ⟨s, .nil, hs.congr h12.symm rfl rfl rfl (fun _ => rfl) (fun _ => Iff.rfl)⟩
  | writeStat value => exact ⟨s, .nil, hs.congr rfl rfl rfl rfl (fun _ => rfl) (fun _ => Iff.rfl)⟩
  | writeLyc value =>
    refine ⟨s, .nil, ?_⟩
    unfold Ppu.writeLyc
    dsimp only
    split
    · exact hs.congr rfl rfl rfl rfl (fun _ => rfl) (fun _ => Iff.rfl)
    · exact hs.congr rfl rfl rfl rfl (fun _ => rfl) (fun _ => Iff.rfl)
  | untouched q _ _ hq =>
    have hlcd : q.lcdEnabled = p.lcdEnabled := congrArg Lcdc.enabled hq.lcdc
    have hline : q.internalLine = p.internalLine := congrArg Raster.line hq.raster
    refine ⟨s, .nil, hs.congr hlcd hq.blankFirstFrame hq.nextSequence hq.framebuffer
      (fun _ => by rw [Tick.quiet_ppu, hq.raster]) (fun _ => by rw [Tick.quiet_ppu, hline])⟩

theorem shows_powerOn : Shows postBootDmg .powerOn where
  lit := rfl
  blank := rfl
  sequence := rfl
  rows _ := rfl
  published _ := by decide
  image _ _ i hi := absurd hi (Nat.not_lt_zero _)

/-- **The log of a run is a run of the scanout.** -/
theorem run_simulates {p : Ppu} {s : Scanout} (hp : Reachable system p) (hs : Shows p s)
    (ops : List Op) :
    ∃ s', Run Scanout.system s (run ops p).log s' ∧ Shows (run ops p).ppu s' := by
  induction ops generalizing p s with
  | nil => exact ⟨s, .nil, hs⟩
  | cons op ops ih =>
    obtain ⟨t, hrun, ht⟩ := (step_cases p op).simulates (timeline_of_reachable hp) hs
    obtain ⟨u, hrest, hu⟩ := ih (hp.ofNext op) ht
    exact ⟨u, hrun.append hrest, hu⟩

/-- Every reachable PPU stands for a scanout. -/
theorem shows_of_reachable {p : Ppu} (hp : Reachable system p) : ∃ s, Shows p s := by
  refine (hp.invariant (P := fun p => Reachable system p ∧ ∃ s, Shows p s) ?_ ?_).2
  · rintro p rfl
    exact ⟨.start rfl, _, shows_powerOn⟩
  · rintro p op q ⟨hr, s, hs⟩ rfl
    obtain ⟨t, -, ht⟩ := (step_cases p op).simulates (timeline_of_reachable hr) hs
    exact ⟨hr.ofNext op, t, ht⟩

theorem reachable_run {p : Ppu} (hp : Reachable system p) (ops : List Op) :
    Reachable system (run ops p).ppu := by
  induction ops generalizing p with
  | nil => exact hp
  | cons op ops ih => exact ih (hp.ofNext op)

end Ppu

end Pockiva
