import Pockiva.Ppu.Progress
import Pockiva.Ppu.Scanlines

/-! # Rendered lines in runs

In every run the row of the window that is next is the number of lines of the frame
so far with the window on them, and a line is drawn with the sprites that were selected
when its mode 3 began.
-/
namespace Pockiva

open Transition

/-! ## The row of the window that is next -/

namespace Scanout

/-- The rows of the frame in progress, after one more event. -/
def recordRow (rows : List RenderedRow) : PpuEvent → List RenderedRow
  | .scanline _ row => rows ++ [row]
  | .frame _ => rows
  | .wrap => []
  | .lcdOn => []
  | .lcdOff => []

/-- The rows a log has of the frame in progress: those since the raster last returned to line 0
or the LCD was last switched on. -/
def rowsInProgress (log : List PpuEvent) : List RenderedRow := log.foldl recordRow []

theorem rows_of_run {s t : Scanout} {log : List PpuEvent} (h : Run system s log t) :
    t.rows = log.foldl recordRow s.rows := by
  induction h with
  | nil => rfl
  | snoc _ hstep ih =>
    rw [List.foldl_append, List.foldl_cons, List.foldl_nil, ← ih]
    cases hstep <;> rfl

theorem rows_le {s t : Scanout} {log : List PpuEvent} (h : Run system s log t)
    (hs : s.rows.length ≤ 144) : t.rows.length ≤ 144 := by
  induction h with
  | nil => exact hs
  | snoc _ hstep ih =>
    cases hstep with
    | scanline row _ hlt _ =>
      rw [List.length_append, List.length_singleton]
      exact hlt
    | frame => exact ih
    | wrap => exact Nat.zero_le _
    | lcdOff => exact Nat.zero_le _
    | lcdOn => exact Nat.zero_le _

end Scanout

namespace Ppu

/-- The window has shown as many rows as there are lines with it. -/
def CountsWindow (p : Ppu) (rows : List RenderedRow) : Prop :=
  p.windowLine = BitVec.ofNat 8 (rows.countP RenderedRow.windowDrawn)

theorem compareAtLineStart_windowLine (p : Ppu) :
    p.compareAtLineStart.windowLine = p.windowLine := by
  obtain ⟨b, hb⟩ := p.compareAtLineStart_eq
  rw [hb]

theorem DotEvent.countsWindow {p : Ppu} {t : Tick} {rows : List RenderedRow} (e : DotEvent p t)
    (h : p.CountsWindow rows) : t.ppu.CountsWindow (t.log.foldl Scanout.recordRow rows) := by
  cases e with
  | hblank =>
    show (if _ then p.windowLine + 1 else p.windowLine) = _
    show _ = BitVec.ofNat 8 ((rows ++ [p.advanced.renderScanline p.internalLine]).countP _)
    rw [List.countP_append, List.countP_singleton, BitVec.ofNat_add, ← h]
    split
    · rfl
    · exact (BitVec.add_zero _).symm
  | endVisible => exact (compareAtLineStart_windowLine _).trans h
  | enterVblank => exact (compareAtLineStart_windowLine _).trans h
  | endVblank => exact (compareAtLineStart_windowLine _).trans h
  | wrap => exact compareAtLineStart_windowLine _
  | _ => exact h

theorem StepCase.countsWindow {p : Ppu} {op : Op} {t : Tick} {rows : List RenderedRow}
    (htimeline : p.lcdEnabled = true → p.raster.Timeline) (e : StepCase p op t)
    (h : p.CountsWindow rows) : t.ppu.CountsWindow (t.log.foldl Scanout.recordRow rows) := by
  cases e with
  | dot _ henabled => exact (tickOne_event (htimeline henabled)).countsWindow h
  | stopped => exact h
  | writeLcdc value =>
    obtain ⟨-, -, ht⟩ | ⟨-, -, ht⟩ | ⟨-, ht⟩ := p.writeLcdc_cases value
    · rw [ht]
      rfl
    · rw [ht]
      rfl
    · rw [ht]
      exact h
  | writeStat value => exact h
  | writeLyc value =>
    unfold Ppu.writeLyc
    dsimp only
    split
    · exact h
    · exact h
  | untouched q _ _ hq => exact hq.windowLine.trans h

theorem run_countsWindow {p : Ppu} {rows : List RenderedRow} (hp : Reachable system p)
    (h : p.CountsWindow rows) (ops : List Op) :
    (run ops p).ppu.CountsWindow ((run ops p).log.foldl Scanout.recordRow rows) := by
  induction ops generalizing p rows with
  | nil => exact h
  | cons op ops ih =>
    have hstep := (step_cases p op).countsWindow (timeline_of_reachable hp) h
    have hrest := ih (hp.ofNext op) hstep
    rw [← List.foldl_append] at hrest
    exact hrest

/-- **The window goes on where it was**: the row of the window that is next is the number
of lines of the frame so far that have the window on them. -/
theorem windowLine_run (ops : List Op) :
    (run ops postBootDmg).ppu.windowLine.toNat =
      (Scanout.rowsInProgress (run ops postBootDmg).log).countP RenderedRow.windowDrawn := by
  obtain ⟨s, hrun, -⟩ := run_simulates (.start rfl) shows_powerOn ops
  have hrows : s.rows = Scanout.rowsInProgress (run ops postBootDmg).log :=
    Scanout.rows_of_run hrun
  have hle : s.rows.length ≤ 144 := Scanout.rows_le hrun (Nat.zero_le _)
  have hstart : postBootDmg.CountsWindow [] := rfl
  have hcount := run_countsWindow (.start rfl) hstart ops
  have hbound := List.countP_le_length (p := RenderedRow.windowDrawn) (l := s.rows)
  rw [hcount, BitVec.toNat_ofNat, ← hrows]
  rw [Scanout.rowsInProgress] at hrows
  rw [← hrows]
  exact Nat.mod_eq_of_lt (by omega)

/-! ## The sprites of the line -/

/-- The PPU draws a line: mode 3 has begun and the row is not stored yet. -/
structure Drawing (p : Ppu) : Prop where
  enabled : p.lcdEnabled = true
  line_lt : p.internalLine < 144
  started : p.mode3StartDot ≤ p.dot
  pending : p.dot < p.visibleHblankDot

/-- The selected sprites are those that were selected when mode 3 of the line began. -/
def SelectedAtStart (ops : List Op) (p : Ppu) : Prop :=
  ∃ before after, ops = before ++ after ∧
    (run before postBootDmg).ppu.internalLine = p.internalLine ∧
    (run before postBootDmg).ppu.dot = (run before postBootDmg).ppu.mode3StartDot ∧
    (run after (run before postBootDmg).ppu).log = [] ∧
    p.selectedSprites = (run before postBootDmg).ppu.selectSpritesForLine p.internalLine

theorem SelectedAtStart.snoc {ops : List Op} {op : Op} {p q : Ppu}
    (hp : (run ops postBootDmg).ppu = p) (h : SelectedAtStart ops p)
    (hlog : (p.step op).log = []) (hline : q.internalLine = p.internalLine)
    (hselected : q.selectedSprites = p.selectedSprites) : SelectedAtStart (ops ++ [op]) q := by
  obtain ⟨before, after, rfl, hstart, hdot, hquiet, hsprites⟩ := h
  refine ⟨before, after ++ [op], by rw [List.append_assoc], hline ▸ hstart, hdot, ?_, ?_⟩
  · rw [run_append, Tick.andThen_ppu] at hp
    rw [run_append, Tick.andThen_log, hquiet, hp, run_singleton, hlog]
    rfl
  · rw [hselected, hline, hsprites]

/-- What an operation does to a line that is drawn afterwards: it begins mode 3, or the line was
drawn before and keeps its sprites. -/
inductive DrawingStep (p : Ppu) (t : Tick) : Prop where
  | begins (hdot : t.ppu.dot = t.ppu.mode3StartDot)
      (hselected : t.ppu.selectedSprites = t.ppu.selectSpritesForLine t.ppu.internalLine)
  | goesOn (hdrawing : Drawing p) (hlog : t.log = [])
      (hline : t.ppu.internalLine = p.internalLine)
      (hselected : t.ppu.selectedSprites = p.selectedSprites)

theorem mode3StartDot_ge (p : Ppu) : 80 ≤ p.mode3StartDot := by
  unfold mode3StartDot
  split
  · decide
  · exact Nat.le_add_right _ _

theorem DotEvent.drawing {p : Ppu} {t : Tick} (henabled : p.lcdEnabled = true)
    (e : DotEvent p t) (hdrawing : Drawing t.ppu) : DrawingStep p t := by
  have hlate : t.ppu.dot ≠ 0 := by
    have := t.ppu.mode3StartDot_ge
    have := hdrawing.started
    omega
  have hline := hdrawing.line_lt
  have hstarted := hdrawing.started
  have hpending := hdrawing.pending
  cases e with
  | line153 hlast hdot =>
    have hline : p.internalLine < 144 := hline
    omega
  | line144 hlast hdot =>
    have hline : p.internalLine < 144 := hline
    omega
  | lateScan hstartup hlow hphase hdot =>
    have hstarted : p.mode3StartDot ≤ p.dot + 1 := hstarted
    have := p.mode3StartDot_ge
    omega
  | startDrawing hlow hdot => exact .begins hdot rfl
  | hblank hlow hstart hdot hmode hfixed =>
    have hpending : p.dot + 1 < p.visibleHblankDot := hpending
    omega
  | mode3End hlow hdot hvisible hmode hfixed =>
    have hpending : p.dot + 1 < p.visibleHblankDot := hpending
    omega
  | none h153 h144 hlate hstart hvisible hend hdot =>
    have hline : p.internalLine < 144 := hline
    have hstarted : p.mode3StartDot ≤ p.dot + 1 := hstarted
    have hpending : p.dot + 1 < p.visibleHblankDot := hpending
    have hne := hstart hline
    exact .goesOn ⟨henabled, hline, by omega, by omega⟩ rfl rfl rfl
  -- a line begins at dot 0
  | endVisible => exact absurd (congrArg Raster.dot (compareAtLineStart_raster _)) hlate
  | enterVblank => exact absurd (congrArg Raster.dot (compareAtLineStart_raster _)) hlate
  | endVblank => exact absurd (congrArg Raster.dot (compareAtLineStart_raster _)) hlate
  | wrap => exact absurd (congrArg Raster.dot (compareAtLineStart_raster _)) hlate

theorem StepCase.drawing {p : Ppu} {op : Op} {t : Tick}
    (htimeline : p.lcdEnabled = true → p.raster.Timeline) (e : StepCase p op t)
    (hdrawing : Drawing t.ppu) : DrawingStep p t := by
  cases e with
  | dot _ henabled => exact (tickOne_event (htimeline henabled)).drawing henabled hdrawing
  | stopped => exact .goesOn hdrawing rfl rfl rfl
  | writeLcdc value =>
    obtain ⟨-, hoff, ht⟩ | ⟨-, -, ht⟩ | ⟨hsame, ht⟩ := p.writeLcdc_cases value
    · rw [ht] at hdrawing
      exact absurd (hdrawing.enabled.symm.trans hoff) (by decide)
    · rw [ht] at hdrawing
      have hstarted : (84 : Nat) ≤ 8 := hdrawing.started
      omega
    · rw [ht] at hdrawing ⊢
      exact .goesOn ⟨hsame.trans hdrawing.enabled, hdrawing.line_lt, hdrawing.started,
        hdrawing.pending⟩ rfl rfl rfl
  | writeStat value =>
    exact .goesOn ⟨hdrawing.enabled, hdrawing.line_lt, hdrawing.started, hdrawing.pending⟩
      rfl rfl rfl
  | writeLyc value =>
    unfold Ppu.writeLyc at hdrawing ⊢
    dsimp only at hdrawing ⊢
    split at hdrawing
    · rename_i hon
      rw [if_pos hon]
      exact .goesOn ⟨hdrawing.enabled, hdrawing.line_lt, hdrawing.started, hdrawing.pending⟩
        rfl rfl rfl
    · rename_i hoff
      exact absurd hdrawing.enabled hoff
  | untouched q _ _ hq =>
    have hdrawn : Drawing q := hdrawing
    have hlcd : q.lcdEnabled = p.lcdEnabled := congrArg Lcdc.enabled hq.lcdc
    have hline : q.internalLine = p.internalLine := congrArg Raster.line hq.raster
    have hdot : q.dot = p.dot := congrArg Raster.dot hq.raster
    have hstart : q.mode3StartDot = p.mode3StartDot := congrArg Raster.mode3StartDot hq.raster
    have hvisible : q.visibleHblankDot = p.visibleHblankDot :=
      congrArg Raster.visibleHblankDot hq.raster
    refine .goesOn ⟨hlcd ▸ hdrawn.enabled, hline ▸ hdrawn.line_lt, ?_, ?_⟩ rfl hline
      hq.selectedSprites
    · rw [← hstart, ← hdot]
      exact hdrawn.started
    · rw [← hvisible, ← hdot]
      exact hdrawn.pending

/-- **While a line is drawn its sprites are those of the start of mode 3.** -/
theorem selected_of_drawing (ops : List Op) :
    Drawing (run ops postBootDmg).ppu → SelectedAtStart ops (run ops postBootDmg).ppu := by
  induction ops using List.reverseRecOn with
  | nil =>
    intro h
    exact absurd h.started (by decide)
  | append_singleton ops op ih =>
    generalize hp : (run ops postBootDmg).ppu = p at ih
    have hreach : Reachable system p := hp ▸ reachable_run (.start rfl) ops
    have hnext : (run (ops ++ [op]) postBootDmg).ppu = (p.step op).ppu := by
      rw [run_append, Tick.andThen_ppu, hp, run_singleton]
    rw [hnext]
    intro hdrawing
    cases (step_cases p op).drawing (timeline_of_reachable hreach) hdrawing with
    | begins hdot hselected =>
      refine ⟨ops ++ [op], [], (List.append_nil _).symm, ?_, ?_, rfl, ?_⟩
      · rw [hnext]
      · rw [hnext, hdot]
      · rw [hnext, hselected]
    | goesOn hbefore hlog hline hselected =>
      exact (ih hbefore).snoc hp hlog hline hselected

/-- A line is stored while it is drawn. -/
structure Stores (p : Ppu) (line : Nat) (row : RenderedRow) : Prop where
  drawing : Drawing p
  current : p.internalLine = line
  row : p.renderScanline line = row

theorem DotEvent.stores {p : Ppu} {t : Tick} (henabled : p.lcdEnabled = true) (e : DotEvent p t)
    {line : Nat} {row : RenderedRow} (h : .scanline line row ∈ t.log) : Stores p line row := by
  cases e with
  | hblank hline hstart hdot =>
    obtain ⟨rfl, rfl⟩ : line = p.internalLine ∧ row = p.advanced.renderScanline p.internalLine := by
      simpa [storeScanline] using h
    exact ⟨⟨henabled, hline, hstart, by omega⟩, rfl, rfl⟩
  | enterVblank =>
    have hframe : PpuEvent.scanline line row ∈ (publishFrame _).log ++ [] := h
    simp [publishFrame] at hframe
  | wrap =>
    have hwrap : PpuEvent.scanline line row ∈ [PpuEvent.wrap] ++ [] := h
    simp at hwrap
  | _ => exact absurd h List.not_mem_nil

theorem StepCase.stores {p : Ppu} {op : Op} {t : Tick}
    (htimeline : p.lcdEnabled = true → p.raster.Timeline) (e : StepCase p op t)
    {line : Nat} {row : RenderedRow} (h : .scanline line row ∈ t.log) : Stores p line row := by
  cases e with
  | dot _ henabled => exact (tickOne_event (htimeline henabled)).stores henabled h
  | stopped => exact absurd h List.not_mem_nil
  | writeLcdc value =>
    obtain ⟨-, -, ht⟩ | ⟨-, -, ht⟩ | ⟨-, ht⟩ := p.writeLcdc_cases value
    · rw [ht] at h
      simp at h
    · rw [ht] at h
      simp at h
    · rw [ht] at h
      exact absurd h List.not_mem_nil
  | writeStat value => exact absurd h List.not_mem_nil
  | writeLyc value =>
    unfold Ppu.writeLyc at h
    dsimp only at h
    exact absurd h List.not_mem_nil
  | untouched q _ _ hq => exact absurd h List.not_mem_nil

/-! ## The lines of the screen -/

/-- The line is rendered, without fail, as the scene shows it, when `q` selected the sprites. -/
structure LineRendered (p q : Ppu) (line : Nat) : Prop where
  selects : Checked.selectSpritesForLine q line = some (q.selectSpritesForLine line)
  renders : Checked.renderScanline p line = some (p.renderScanline line)
  shows : ∀ (x : Column) (pixel : Pixel),
    p.scene.Shows (q.Displays line) line x.val pixel ↔ (p.renderScanline line).pixel x = pixel
  window : (p.renderScanline line).windowDrawn = true ↔
    ∃ x : Column, p.scene.WindowCovers line x.val

/-- What holds of rendering after the operations of a run. -/
structure RendersInRun (ops : List Op) : Prop where
  /-- The row of the window that is next. -/
  windowLine : (run ops postBootDmg).ppu.windowLine.toNat =
    (Scanout.rowsInProgress (run ops postBootDmg).log).countP RenderedRow.windowDrawn
  /-- The lines stored by the next operation. -/
  stores : ∀ op line row, .scanline line row ∈ ((run ops postBootDmg).ppu.step op).log →
    (run ops postBootDmg).ppu.internalLine = line ∧
      (run ops postBootDmg).ppu.renderScanline line = row ∧
      SelectedAtStart ops (run ops postBootDmg).ppu

theorem windowDrawn_iff (p : Ppu) (line : Nat) :
    (p.renderScanline line).windowDrawn = true ↔
      ∃ x : Column, p.scene.WindowCovers line x.val := by
  rw [windowDrawn_eq, windowVisibleOnLine_iff]
  constructor
  · rintro ⟨hon, hwindow, hy, hwx⟩
    exact ⟨⟨159, by decide⟩, hon, hwindow, hy, hwx, hwx⟩
  · rintro ⟨x, hon, hwindow, hy, hwx, -⟩
    exact ⟨hon, hwindow, hy, hwx⟩

/-- **Every line is rendered as the DMG shows it**, for every content of memory and
registers and in every run. -/
theorem scanline_rendering :
    (∀ (p q : Ppu) (line : Nat), line < 144 →
      p.selectedSprites = q.selectSpritesForLine line → LineRendered p q line) ∧
    ∀ ops : List Op, RendersInRun ops := by
  refine ⟨fun p q line hline hselected => ?_, fun ops => ?_⟩
  · refine ⟨Checked.selectSpritesForLine_eq q line, Checked.renderScanline_eq p hline, ?_,
      windowDrawn_iff p line⟩
    intro x pixel
    constructor
    · exact (shows_renderScanline hline hselected x).unique
    · rintro rfl
      exact shows_renderScanline hline hselected x
  · refine ⟨windowLine_run ops, fun op line row hrow => ?_⟩
    have hreach := reachable_run (.start rfl) ops
    have hstores := (step_cases _ op).stores (timeline_of_reachable hreach) hrow
    exact ⟨hstores.current, hstores.row, selected_of_drawing ops hstores.drawing⟩

/-- Tiles, a window from column 80 on and a sprite in columns 16 to 23, written after the boot
ROM. -/
def painting : List Op :=
  [.write 0xff40 0xf3, .write 0x8010 0xff, .write 0x8020 0xff, .write 0x8021 0xff,
    .write 0x9800 1, .write 0x9c00 2, .write 0xff47 0xe4, .write 0xff48 0x1b, .write 0xff4a 0,
    .write 0xff4b 87, .dmaWriteOam 0 16, .dmaWriteOam 1 24, .dmaWriteOam 2 2]

def painted : Ppu := (run painting postBootDmg).ppu

/-- The first line of the painting: background, sprite and window are where they should be. -/
theorem scanline_rendering_painted :
    LineRendered { painted with selectedSprites := painted.selectSpritesForLine 0 } painted 0 ∧
      painted.scene.Shows (painted.Displays 0) 0 0 ⟨1, .gray 170, .background, none⟩ ∧
      painted.scene.Shows (painted.Displays 0) 0 16 ⟨0, .gray 255, .sprite 0, some 0⟩ ∧
      painted.scene.Shows (painted.Displays 0) 0 80 ⟨3, .gray 0, .window, none⟩ := by
  have h := scanline_rendering.1 { painted with selectedSprites := painted.selectSpritesForLine 0 }
    painted 0 (by decide) rfl
  have hfields : ∀ (row : RenderedRow) (x : Column) (pixel : Pixel),
      (row.colors x).toNat = pixel.color ∧ row.rgba x = pixel.rgba ∧
        row.sources x = pixel.source ∧ row.winningSprites x = pixel.object →
      row.pixel x = pixel := by
    rintro row x ⟨color, rgba, source, object⟩ ⟨rfl, rfl, rfl, rfl⟩
    rfl
  refine ⟨h, (h.shows (0 : Fin 160) _).mpr ?_, (h.shows (16 : Fin 160) _).mpr ?_,
    (h.shows (80 : Fin 160) _).mpr ?_⟩
  · exact hfields _ _ _ (by decide +kernel)
  · exact hfields _ _ _ (by decide +kernel)
  · exact hfields _ _ _ (by decide +kernel)

end Ppu

end Pockiva
