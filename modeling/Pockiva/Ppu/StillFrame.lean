import Pockiva.Ppu.FrameIntegrity
import Pockiva.Ppu.ScanlineRuns

/-! # A still frame

From the start of line 0 on, while no operation changes memory or a register that is shown,
the lines are rendered one by one, with the sprites of each and with the rows of the window in
order.  The frame they make is the picture the scene defines, pixel by pixel, and it is
published with the dot that enters line 144.
-/
namespace Pockiva

open Transition

/-! ## The picture of a scene -/

namespace Scene

/-- The scene on a line of a still frame: the window shows its rows from line `WY` on. -/
def onLine (s : Scene) (line : Nat) : Scene := { s with windowRow := line - s.windowY }

/-- The window is on some column of the line. -/
def WindowOnLine (s : Scene) (line : Nat) : Prop :=
  s.backgroundOn ∧ s.windowOn ∧ s.windowY ≤ line ∧ s.windowX ≤ 166

instance (s : Scene) (line : Nat) : Decidable (s.WindowOnLine line) :=
  inferInstanceAs (Decidable (_ ∧ _ ∧ _ ∧ _))

/-- Without a window on the line its next row does not matter. -/
theorem shows_of_no_window {s : Scene} {line x : Nat} {objects : DisplayObject → Prop}
    {pixel : Pixel} (h : s.Shows objects line x pixel) (hnone : ¬ s.WindowOnLine line) (row : Nat) :
    Shows { s with windowRow := row } objects line x pixel := by
  have hcovers : ¬ s.WindowCovers line x :=
    fun ⟨hon, hwindow, hy, hx, _⟩ => hnone ⟨hon, hwindow, hy, hx⟩
  have hlayer : layerColor { s with windowRow := row } line x = s.layerColor line x := by
    have hmoved : ¬ WindowCovers { s with windowRow := row } line x := hcovers
    unfold layerColor
    rw [if_neg hcovers, if_neg hmoved]
    rfl
  have hforemost : ∀ o, Foremost { s with windowRow := row } objects line x o ↔
      s.Foremost objects line x o :=
    fun o => ⟨fun h => ⟨h.mem, h.opaqueThere, h.first⟩, fun h => ⟨h.mem, h.opaqueThere, h.first⟩⟩
  have hhides : ∀ o, Hides { s with windowRow := row } line x o ↔ s.Hides line x o := by
    intro o
    unfold Hides
    rw [hlayer]
  cases h with
  | object o hon hfirst hshown =>
    have hshows := Shows.object (s := { s with windowRow := row }) o hon ((hforemost o).mpr hfirst)
      (mt (hhides o).mp hshown)
    rw [hlayer] at hshows
    exact hshows
  | layer hhidden =>
    have hstill : s.objectsOn → ∀ o, Foremost { s with windowRow := row } objects line x o →
        Hides { s with windowRow := row } line x o := fun hon o hfirst =>
      (hhides o).mpr (hhidden hon o ((hforemost o).mp hfirst))
    have hshows := Shows.layer (s := { s with windowRow := row }) hstill
    rw [hlayer] at hshows
    exact hshows

end Scene

/-- The pixel of a frame on a line and in a column. -/
def Frame.pixel (f : Frame) (line : Fin 144) (x : Column) : Rgba :=
  let start := (line.val * screenWidth + x.val) * 4
  ⟨f.rgba.get start, f.rgba.get (start + 1), f.rgba.get (start + 2), f.rgba.get (start + 3)⟩

theorem picture_pixel {rows : List RenderedRow} {row : RenderedRow} {line : Fin 144}
    (hrow : rows[line.val]? = some row) (sequence : Nat) (x : Column) :
    Frame.pixel ⟨sequence, picture rows⟩ line x = row.rgba x := by
  have hx : x.val < 160 := x.isLt
  have hline := line.isLt
  have hget : ∀ channel, channel < 4 →
      (picture rows).get ((line.val * screenWidth + x.val) * 4 + channel) =
        (row.rgba x).get channel := by
    intro channel hchannel
    have hindex : (line.val * screenWidth + x.val) * 4 + channel < frameRgbaLen := by
      unfold screenWidth frameRgbaLen screenWidth screenHeight
      omega
    have hdiv : ((line.val * screenWidth + x.val) * 4 + channel) / 640 = line.val := by
      unfold screenWidth
      omega
    have hcolumn : ((line.val * screenWidth + x.val) * 4 + channel) % 640 / 4 = x.val := by
      unfold screenWidth
      omega
    have hrest : ((line.val * screenWidth + x.val) * 4 + channel) % 4 = channel := by omega
    rw [Bytes.get, dif_pos hindex]
    unfold picture
    simp only [hdiv, hrow, hcolumn, hrest]
  unfold Frame.pixel
  dsimp only
  have hzero := hget 0 (by decide)
  rw [Nat.add_zero] at hzero
  rw [hzero, hget 1 (by decide), hget 2 (by decide), hget 3 (by decide)]
  rfl

namespace Ppu

/-! ## What stands still -/

/-- The memory and the registers that make up a picture. -/
structure Picture where
  vram : Bytes 0x2000
  oam : Bytes 0xa0
  lcdc : Lcdc
  scy : Byte
  scx : Byte
  bgp : Byte
  obp0 : Byte
  obp1 : Byte
  wy : Byte
  wx : Byte

def shown (p : Ppu) : Picture where
  vram := p.vram
  oam := p.oam
  lcdc := p.registers.lcdc
  scy := p.registers.scy
  scx := p.registers.scx
  bgp := p.registers.bgp
  obp0 := p.registers.obp0
  obp1 := p.registers.obp1
  wy := p.registers.wy
  wx := p.registers.wx

/-- No operation of the run changes what is shown. -/
def Still (p : Ppu) (ops : List Op) : Prop :=
  ∀ before after, ops = before ++ after → (run before p).ppu.shown = p.shown

section Shown
variable {p q : Ppu}

theorem lcdEnabled_of_shown (h : q.shown = p.shown) : q.lcdEnabled = p.lcdEnabled :=
  congrArg (fun s : Picture => s.lcdc.enabled) h

/-- The scenes are the same, except for the next row of the window. -/
theorem scene_of_shown (h : q.shown = p.shown) :
    q.scene = { p.scene with windowRow := q.windowLine.toNat } := by
  have hvram : q.vram = p.vram := congrArg Picture.vram h
  have hlcdc : q.registers.lcdc = p.registers.lcdc := congrArg Picture.lcdc h
  have hscy : q.registers.scy = p.registers.scy := congrArg Picture.scy h
  have hscx : q.registers.scx = p.registers.scx := congrArg Picture.scx h
  have hbgp : q.registers.bgp = p.registers.bgp := congrArg Picture.bgp h
  have hobp0 : q.registers.obp0 = p.registers.obp0 := congrArg Picture.obp0 h
  have hobp1 : q.registers.obp1 = p.registers.obp1 := congrArg Picture.obp1 h
  have hwy : q.registers.wy = p.registers.wy := congrArg Picture.wy h
  have hwx : q.registers.wx = p.registers.wx := congrArg Picture.wx h
  unfold scene
  rw [hvram, hlcdc, hscy, hscx, hbgp, hobp0, hobp1, hwy, hwx]

theorem displays_of_shown (h : q.shown = p.shown) (line : Nat) :
    q.Displays line = p.Displays line := by
  have hoam : q.oam = p.oam := congrArg Picture.oam h
  have hlcdc : q.registers.lcdc = p.registers.lcdc := congrArg Picture.lcdc h
  unfold Displays
  rw [hoam, hlcdc]

theorem selectSprites_of_shown (h : q.shown = p.shown) (line : Nat) :
    q.selectSpritesForLine line = p.selectSpritesForLine line := by
  have hoam : q.oam = p.oam := congrArg Picture.oam h
  have hlcdc : q.registers.lcdc = p.registers.lcdc := congrArg Picture.lcdc h
  have hsprite : q.spriteAt = p.spriteAt := by
    funext i
    unfold spriteAt
    rw [hoam]
  unfold selectSpritesForLine
  rw [hsprite, hlcdc]

theorem windowVisible_of_shown (h : q.shown = p.shown) (line : Nat) :
    q.windowVisibleOnLine line = p.windowVisibleOnLine line := by
  have hlcdc : q.registers.lcdc = p.registers.lcdc := congrArg Picture.lcdc h
  have hwy : q.registers.wy = p.registers.wy := congrArg Picture.wy h
  have hwx : q.registers.wx = p.registers.wx := congrArg Picture.wx h
  unfold windowVisibleOnLine
  rw [hlcdc, hwy, hwx]

end Shown

/-! ## Rows of a still frame -/

/-- The row is what the scene shows on the line. -/
structure RowShows (p : Ppu) (line : Nat) (row : RenderedRow) : Prop where
  window : row.windowDrawn = p.windowVisibleOnLine line
  shows : ∀ x : Column,
    (p.scene.onLine line).Shows (p.Displays line) line x.val (row.pixel x)

/-- The window has been on the lines from `WY` on. -/
theorem countP_windowVisible (p : Ppu) {line : Nat} (hvisible : p.windowVisibleOnLine line = true) :
    (List.range line).countP p.windowVisibleOnLine = line - p.registers.wy.toNat := by
  obtain ⟨hon, hwindow, -, hwx⟩ := (p.windowVisibleOnLine_iff line).mp hvisible
  have hiff : ∀ i, p.windowVisibleOnLine i = decide (p.registers.wy.toNat ≤ i) := by
    intro i
    rw [Bool.eq_iff_iff, decide_eq_true_iff, windowVisibleOnLine_iff]
    exact ⟨fun h => h.2.2.1, fun h => ⟨hon, hwindow, h, hwx⟩⟩
  rw [funext hiff]
  clear hvisible
  induction line with
  | zero => exact (Nat.zero_sub _).symm
  | succ n ih =>
    rw [List.range_succ, List.countP_append, ih, List.countP_singleton]
    split
    · rename_i hle
      have hle := of_decide_eq_true hle
      omega
    · rename_i hgt
      have hgt := mt decide_eq_true hgt
      omega

/-- A line that is drawn shows the scene, if the window is where it was left. -/
theorem rowShows {p q : Ppu} {line : Nat} (hline : line < 144) (hshown : q.shown = p.shown)
    (hselected : q.selectedSprites = p.selectSpritesForLine line)
    (hwindow : p.windowVisibleOnLine line = true →
      q.windowLine.toNat = line - p.registers.wy.toNat) :
    RowShows p line (q.renderScanline line) where
  window := (windowDrawn_eq q line).trans (windowVisible_of_shown hshown line)
  shows x := by
    have hshows := shows_renderScanline hline
      (hselected.trans (selectSprites_of_shown hshown line).symm) x
    rw [scene_of_shown hshown, displays_of_shown hshown] at hshows
    by_cases hvisible : p.windowVisibleOnLine line = true
    · rw [hwindow hvisible] at hshows
      exact hshows
    · have hnone : ¬ Scene.WindowOnLine { p.scene with windowRow := q.windowLine.toNat } line :=
        mt (p.windowVisibleOnLine_iff line).mpr hvisible
      exact Scene.shows_of_no_window hshows hnone _

/-- The rows of a frame in progress whose picture stands still, and what the next row needs. -/
structure DrawnStill (p q : Ppu) (rows : List RenderedRow) : Prop where
  sprites : Drawing q → q.selectedSprites = p.selectSpritesForLine q.internalLine
  counts : q.CountsWindow rows
  faithful : ∀ line row, rows[line]? = some row → RowShows p line row

/-- The rows with the window on them, counted by their lines. -/
theorem countP_windowDrawn {p : Ppu} {rows : List RenderedRow}
    (h : ∀ line row, rows[line]? = some row → RowShows p line row) :
    rows.countP RenderedRow.windowDrawn =
      (List.range rows.length).countP p.windowVisibleOnLine := by
  induction rows using List.reverseRecOn with
  | nil => rfl
  | append_singleton rows row ih =>
    have hlast := (h rows.length row List.getElem?_concat_length).window
    have hbefore : ∀ line r, rows[line]? = some r → RowShows p line r := by
      intro line r hr
      refine h line r ?_
      rw [List.getElem?_append_left (List.getElem?_eq_some_iff.mp hr).1]
      exact hr
    rw [List.countP_append, List.length_append, List.length_singleton, List.range_succ,
      List.countP_append, ih hbefore, List.countP_singleton, List.countP_singleton, hlast]

/-- What the log of an operation does to the rows in progress. -/
theorem StepCase.rows {p : Ppu} {op : Op} {t : Tick}
    (htimeline : p.lcdEnabled = true → p.raster.Timeline) (e : StepCase p op t)
    (rows : List RenderedRow) :
    t.log.foldl Scanout.recordRow rows = rows ∨ t.log.foldl Scanout.recordRow rows = [] ∨
      ∃ line row, PpuEvent.scanline line row ∈ t.log ∧
        t.log.foldl Scanout.recordRow rows = rows ++ [row] := by
  cases e with
  | dot _ henabled =>
    have hevent := tickOne_event (htimeline henabled)
    generalize p.tickOne = t at hevent
    cases hevent with
    | hblank => exact .inr (.inr ⟨_, _, List.mem_cons_self, rfl⟩)
    | wrap => exact .inr (.inl rfl)
    | _ => exact .inl rfl
  | writeLcdc value =>
    obtain ⟨-, -, ht⟩ | ⟨-, -, ht⟩ | ⟨-, ht⟩ := p.writeLcdc_cases value
    · rw [ht]
      exact .inr (.inl rfl)
    · rw [ht]
      exact .inr (.inl rfl)
    · rw [ht]
      exact .inl rfl
  | _ => exact .inl rfl

/-- **An operation that leaves the picture alone renders the right row**, if it renders one. -/
theorem DrawnStill.step {p q : Ppu} {rows : List RenderedRow} (h : DrawnStill p q rows)
    (hq : Reachable system q) (hshown : q.shown = p.shown) {op : Op}
    (hnext : (q.step op).ppu.shown = p.shown)
    (hlength : Drawing q → rows.length = q.internalLine) :
    DrawnStill p (q.step op).ppu ((q.step op).log.foldl Scanout.recordRow rows) := by
  have hcase := step_cases q op
  have htimeline := timeline_of_reachable hq
  refine ⟨fun hdrawing => ?_, hcase.countsWindow htimeline h.counts, ?_⟩
  · cases hcase.drawing htimeline hdrawing with
    | begins _ hselected =>
      rw [hselected]
      exact selectSprites_of_shown hnext _
    | goesOn hbefore _ hline hselected =>
      rw [hselected, hline]
      exact h.sprites hbefore
  · obtain hsame | hempty | ⟨line, row, hmem, hsnoc⟩ := hcase.rows htimeline rows
    · rw [hsame]
      exact h.faithful
    · rw [hempty]
      exact nofun
    · obtain ⟨hdrawing, rfl, rfl⟩ := hcase.stores htimeline hmem
      have hrows := hlength hdrawing
      rw [hsnoc]
      intro line row hrow
      rcases Nat.lt_trichotomy line rows.length with hlt | heq | hgt
      · rw [List.getElem?_append_left hlt] at hrow
        exact h.faithful line row hrow
      · rw [heq, List.getElem?_concat_length] at hrow
        obtain rfl := Option.some_inj.mp hrow
        rw [heq, hrows]
        refine rowShows hdrawing.line_lt hshown (h.sprites hdrawing) fun hvisible => ?_
        have hlow := hdrawing.line_lt
        rw [h.counts, countP_windowDrawn h.faithful, hrows, countP_windowVisible p hvisible,
          BitVec.toNat_ofNat]
        exact Nat.mod_eq_of_lt (by omega)
      · rw [List.getElem?_eq_none] at hrow
        · cases hrow
        · rw [List.length_append]
          exact hgt

/-! ## The start of a frame -/

/-- The first frame after the LCD is lit stays blank until it is published. -/
theorem DotEvent.blank {p : Ppu} {t : Tick} (h : p.raster.Timeline) (e : DotEvent p t)
    (hblank : t.ppu.blankFirstFrame = true) :
    p.blankFirstFrame = true ∧ p.position + 1 ≠ 144 * 456 := by
  have hline : p.internalLine < 154 := h.line_lt
  have hdot : p.dot < 456 := h.dot_lt
  have hb := h.start_bounds
  have hcompare : ∀ q : Ppu, q.compareAtLineStart.evaluateStat.ppu.blankFirstFrame =
      q.blankFirstFrame := by
    intro q
    obtain ⟨b, hb⟩ := q.compareAtLineStart_eq
    rw [hb]
    rfl
  unfold Ppu.position
  cases e with
  | line153 _ hd => exact ⟨hblank, by omega⟩
  | line144 _ hd => exact ⟨hblank, by omega⟩
  | lateScan _ _ _ hd => exact ⟨hblank, by omega⟩
  | startDrawing hl hd =>
    have hd : p.dot + 1 = p.raster.mode3StartDot := hd
    exact ⟨hblank, by omega⟩
  | hblank hl _ hd =>
    obtain ⟨-, h2, h3, -⟩ := stage_dots h hl
    exact ⟨hblank, by omega⟩
  | mode3End hl hd =>
    obtain ⟨-, h2, -, -⟩ := stage_dots h hl
    exact ⟨hblank, by omega⟩
  | endVisible hl hd =>
    exact ⟨(hcompare p.nextLine.enterVisibleLine).symm.trans hblank, by omega⟩
  | enterVblank hl hd => cases (hcompare _).symm.trans hblank
  | endVblank hl _ hd => exact ⟨(hcompare p.nextLine).symm.trans hblank, by omega⟩
  | wrap hl hd => exact ⟨(hcompare p.wrapped).symm.trans hblank, by omega⟩
  | none => exact ⟨hblank, by omega⟩

/-- Where the raster is in the frame after the LCD is lit. -/
def BlankFrame (p : Ppu) : Prop :=
  p.lcdEnabled = true → p.blankFirstFrame = true → 0 < p.position ∧ p.position < 144 * 456

theorem StepCase.blankFrame {p : Ppu} {op : Op} {t : Tick}
    (htimeline : p.lcdEnabled = true → p.raster.Timeline) (e : StepCase p op t)
    (h : p.BlankFrame) : t.ppu.BlankFrame := by
  cases e with
  | dot _ henabled =>
    intro _ hblank
    have hevent := tickOne_event (htimeline henabled)
    obtain ⟨hbefore, hne⟩ := hevent.blank (htimeline henabled) hblank
    obtain ⟨-, hlt⟩ := h henabled hbefore
    rw [hevent.position (htimeline henabled), Nat.mod_eq_of_lt (by unfold dotsPerFrame; omega)]
    omega
  | stopped => exact h
  | writeLcdc value =>
    obtain ⟨-, hoff, ht⟩ | ⟨-, -, ht⟩ | ⟨hsame, ht⟩ := p.writeLcdc_cases value
    · rw [ht]
      intro hon
      cases hon.symm.trans hoff
    · rw [ht]
      exact fun _ _ => (by decide : 0 < 0 * 456 + 8 ∧ 0 * 456 + 8 < 144 * 456)
    · rw [ht]
      exact fun hon => h (hsame.trans hon)
  | writeStat value => exact h
  | writeLyc value =>
    unfold Ppu.writeLyc
    dsimp only
    split
    · exact h
    · exact h
  | untouched q _ _ hq =>
    intro hon hblank
    have hlcd : q.lcdEnabled = p.lcdEnabled := congrArg Lcdc.enabled hq.lcdc
    rw [Tick.quiet_ppu, position_congr hq.raster]
    exact h (hlcd.symm.trans hon) (hq.blankFirstFrame.symm.trans hblank)

/-- What holds of a PPU and of the scanout it stands for. -/
structure InFrame (p : Ppu) (s : Scanout) : Prop where
  shows : Shows p s
  counts : p.CountsWindow s.rows
  blank : p.BlankFrame

theorem inFrame_of_reachable {p : Ppu} (hp : Reachable system p) : ∃ s, InFrame p s := by
  refine (hp.invariant (P := fun p => Reachable system p ∧ ∃ s, InFrame p s) ?_ ?_).2
  · rintro p rfl
    exact ⟨.start rfl, .powerOn, shows_powerOn, rfl, fun _ => nofun⟩
  · rintro p op q ⟨hreach, s, hs⟩ rfl
    have hcase := step_cases p op
    have htimeline := timeline_of_reachable hreach
    obtain ⟨t, hrun, ht⟩ := hcase.simulates htimeline hs.shows
    refine ⟨hreach.ofNext op, t, ht, ?_, hcase.blankFrame htimeline hs.blank⟩
    rw [Scanout.rows_of_run hrun]
    exact hcase.countsWindow htimeline hs.counts

/-- The raster is at the start of line 0. -/
theorem raster_of_position {p : Ppu} (h : p.position = 0) : p.internalLine = 0 ∧ p.dot = 0 := by
  unfold position at h
  omega

/-- **At the start of line 0 no row is rendered yet**, and the frame will not be blank. -/
theorem start_of_frame {p : Ppu} {s : Scanout} (h : InFrame p s) (henabled : p.lcdEnabled = true)
    (hstart : p.position = 0) :
    s.rows = [] ∧ s.published = none ∧ s.blank = false := by
  obtain ⟨hline, hdot⟩ := raster_of_position hstart
  have hrows : s.rows.length = 0 := by
    have hdone : p.raster.rowsDone = p.internalLine := by
      refine Raster.rowsDone_of_pending (show p.internalLine < 144 by omega) (.inl ?_)
      have hlate := p.mode3StartDot_ge
      show p.dot < p.mode3StartDot
      omega
    rw [h.shows.rows henabled, hdone, hline]
  have hpublished : s.published = none := by
    have hnot : ¬ s.published.isSome = true := by
      rw [h.shows.published henabled, hline]
      decide
    simpa using hnot
  refine ⟨List.eq_nil_of_length_eq_zero hrows, hpublished, ?_⟩
  rw [h.shows.blank]
  cases hblank : p.blankFirstFrame with
  | false => rfl
  | true =>
    obtain ⟨hpos, -⟩ := h.blank henabled hblank
    omega

/-! ## The run of a frame -/

theorem Still.init {p : Ppu} {ops : List Op} {op : Op} (h : p.Still (ops ++ [op])) :
    p.Still ops := by
  intro before after heq
  refine h before (after ++ [op]) ?_
  rw [heq, List.append_assoc]

theorem Still.last {p : Ppu} {ops : List Op} (h : p.Still ops) :
    (run ops p).ppu.shown = p.shown := h ops [] (List.append_nil _).symm

/-- An operation that leaves the picture alone does not switch the LCD off. -/
theorem Still.keepsLcdOn {p : Ppu} (henabled : p.lcdEnabled = true) {ops : List Op}
    (h : p.Still ops) : ∀ op ∈ ops, op.KeepsLcdOn := by
  induction ops using List.reverseRecOn with
  | nil => exact fun _ hop => absurd hop List.not_mem_nil
  | append_singleton ops op ih =>
    intro o ho
    rcases List.mem_append.mp ho with hold | hlast
    · exact ih h.init o hold
    · rintro value hwrite
      obtain rfl := List.mem_singleton.mp hlast
      have hon := (lcdEnabled_of_shown h.last).trans henabled
      rw [run_append, Tick.andThen_ppu, run_singleton, hwrite] at hon
      have hlcdc : ((run ops p).ppu.writeLcdc value).ppu.registers.lcdc = ⟨value⟩ := by
        obtain ⟨-, -, ht⟩ | ⟨-, -, ht⟩ | ⟨-, ht⟩ := (run ops p).ppu.writeLcdc_cases value
        · rw [ht]
          rfl
        · rw [ht]
          rfl
        · rw [ht]
          rfl
      have hstep : (run ops p).ppu.step (.write 0xff40 value) =
          (run ops p).ppu.writeLcdc value := by
        have hvram : ¬ inVram 0xff40 := by decide
        have hoam : ¬ inOam 0xff40 := by decide
        rw [step, write, if_neg fun h => hvram h.1, if_neg fun h => hoam h.1, if_pos rfl]
      rw [hstep, lcdEnabled, hlcdc] at hon
      exact hon

/-- A dot leaves the picture alone. -/
theorem DotEvent.shown {p : Ppu} {t : Tick} (e : DotEvent p t) : t.ppu.shown = p.shown := by
  have hcompare : ∀ q : Ppu, q.compareAtLineStart.evaluateStat.ppu.shown = q.shown := by
    intro q
    obtain ⟨b, hb⟩ := q.compareAtLineStart_eq
    rw [hb]
    rfl
  cases e with
  | endVisible => exact hcompare p.nextLine.enterVisibleLine
  | enterVblank => exact hcompare _
  | endVblank => exact hcompare p.nextLine
  | wrap => exact hcompare p.wrapped
  | _ => rfl

/-- Nothing is written while there are only dots. -/
theorem still_of_dots {p : Ppu} (hp : Reachable system p) (n : Nat) :
    p.Still (.replicate n .dot) := by
  intro before after heq
  have hdots : ∀ op ∈ before, op = .dot := fun op hop =>
    List.eq_of_mem_replicate (heq ▸ List.mem_append_left after hop)
  clear heq
  induction before using List.reverseRecOn with
  | nil => rfl
  | append_singleton before op ih =>
    have hbefore := ih fun o ho => hdots o (List.mem_append_left _ ho)
    have hop := hdots op (List.mem_append_right _ List.mem_cons_self)
    rw [run_append, Tick.andThen_ppu, run_singleton, ← hbefore, hop]
    have hcase := step_cases (run before p).ppu .dot
    generalize (run before p).ppu.step .dot = t at hcase ⊢
    cases hcase with
    | dot _ henabled =>
      exact (tickOne_event (timeline_of_reachable (reachable_run hp before) henabled)).shown
    | stopped => rfl
    | untouched _ hne => exact absurd rfl hne
    | writeLcdc _ hwrite | writeStat _ hwrite | writeLyc _ hwrite => cases hwrite

theorem dots_append (ops more : List Op) : dots (ops ++ more) = dots ops + dots more :=
  List.countP_append

/-- The position after a part of a frame. -/
theorem position_of_still {p : Ppu} (hp : Reachable system p) (henabled : p.lcdEnabled = true)
    (hstart : p.position = 0) {ops : List Op} (h : p.Still ops) (hdots : dots ops ≤ 144 * 456) :
    (run ops p).ppu.position = dots ops := by
  rw [(run_advances hp henabled ops (h.keepsLcdOn henabled)).position, hstart, Nat.zero_add]
  exact Nat.mod_eq_of_lt (by unfold dotsPerFrame; omega)

/-- Within the visible part of a frame the raster does not return to line 0. -/
theorem wrap_not_mem {p : Ppu} (hp : Reachable system p) (henabled : p.lcdEnabled = true)
    (hstart : p.position = 0) {ops : List Op} (h : p.Still ops) (hdots : dots ops ≤ 144 * 456) :
    PpuEvent.wrap ∉ (run ops p).log := by
  induction ops using List.reverseRecOn with
  | nil => exact List.not_mem_nil
  | append_singleton ops op ih =>
    have hbefore : dots ops ≤ 144 * 456 := by
      rw [dots_append] at hdots
      omega
    have hposition := position_of_still hp henabled hstart h.init hbefore
    have hreach := reachable_run hp ops
    have hon := (lcdEnabled_of_shown h.init.last).trans henabled
    have hkeeps := h.keepsLcdOn henabled op (List.mem_append_right _ List.mem_cons_self)
    have hmarks :=
      ((step_cases _ op).advances (timeline_of_reachable hreach hon) hon hkeeps).marks
    intro hwrap
    rw [run_append, Tick.andThen_log, run_singleton] at hwrap
    rcases List.mem_append.mp hwrap with hold | hlast
    · exact ih h.init hbefore hold
    · obtain ⟨-, hend⟩ := hmarks.wrap.mp hlast
      unfold dotsPerFrame at hend
      omega

/-- **Row after row of a still frame is rendered as the scene shows it.** -/
theorem drawnStill_run {p : Ppu} {s : Scanout} (hp : Reachable system p) (hs : InFrame p s)
    (henabled : p.lcdEnabled = true) (hstart : p.position = 0) {ops : List Op}
    (h : p.Still ops) :
    DrawnStill p (run ops p).ppu ((run ops p).log.foldl Scanout.recordRow []) := by
  obtain ⟨hrows, -, -⟩ := start_of_frame hs henabled hstart
  induction ops using List.reverseRecOn with
  | nil =>
    refine ⟨fun hdrawing => ?_, ?_, nofun⟩
    · obtain ⟨-, hdot⟩ := raster_of_position hstart
      have hlate := p.mode3StartDot_ge
      have hstarted : p.mode3StartDot ≤ p.dot := hdrawing.started
      omega
    · have hcounts := hs.counts
      rw [hrows] at hcounts
      exact hcounts
  | append_singleton ops op ih =>
    have hreach := reachable_run hp ops
    have hnext : ((run ops p).ppu.step op).ppu.shown = p.shown := by
      have hlast := h.last
      rw [run_append, Tick.andThen_ppu, run_singleton] at hlast
      exact hlast
    rw [run_append, Tick.andThen_ppu, Tick.andThen_log, run_singleton, List.foldl_append]
    refine (ih h.init).step hreach h.init.last hnext fun hdrawing => ?_
    obtain ⟨t, hrun, ht⟩ := run_simulates hp hs.shows ops
    have htrows := Scanout.rows_of_run hrun
    rw [hrows] at htrows
    rw [← htrows, ht.rows hdrawing.enabled]
    exact Raster.rowsDone_of_pending hdrawing.line_lt (.inr hdrawing.pending)

end Ppu

/-- A frame that is not blank is the picture of the rows. -/
theorem Scanout.published_of_run {s t : Scanout} {log : List PpuEvent}
    (h : Run system s log t) (hblank : s.blank = false) (hnone : s.published = none)
    (hlit : ∀ e ∈ log, e ≠ .lcdOn) :
    t.blank = false ∧ ∀ f, t.published = some f → f.rgba = picture t.rows := by
  induction h with
  | nil =>
    refine ⟨hblank, fun f hf => ?_⟩
    cases hnone.symm.trans hf
  | snoc _ hstep ih =>
    obtain ⟨hdark, hframe⟩ := ih fun e he => hlit e (List.mem_append_left _ he)
    cases hstep with
    | scanline _ _ _ hpublished =>
      refine ⟨hdark, fun f hf => ?_⟩
      cases hpublished.symm.trans hf
    | frame =>
      refine ⟨rfl, fun f hf => ?_⟩
      obtain rfl := Option.some_inj.mp hf
      show (if _ then _ else _) = _
      rw [hdark, if_neg (by decide)]
    | wrap => exact ⟨hdark, nofun⟩
    | lcdOff => exact ⟨hdark, nofun⟩
    | lcdOn => exact absurd rfl (hlit _ (List.mem_append_right _ List.mem_cons_self))

namespace Ppu

/-- An event of a run comes from one of its operations. -/
theorem exists_step_of_log {p : Ppu} {ops : List Op} {e : PpuEvent} (h : e ∈ (run ops p).log) :
    ∃ before op after, ops = before ++ op :: after ∧ e ∈ ((run before p).ppu.step op).log := by
  induction ops using List.reverseRecOn with
  | nil => exact absurd h List.not_mem_nil
  | append_singleton ops op ih =>
    rw [run_append, Tick.andThen_log, run_singleton] at h
    rcases List.mem_append.mp h with hold | hlast
    · obtain ⟨before, o, after, rfl, hmem⟩ := ih hold
      exact ⟨before, o, after ++ [op], by rw [List.append_assoc, List.cons_append], hmem⟩
    · exact ⟨ops, op, [], rfl, hlast⟩

/-- **A run hands out one frame**: it is published with the last of the dots, then it can be
taken, and it waits until it is. -/
structure HandsOutOnce (p : Ppu) (ops : List Op) (f : Frame) : Prop where
  published : Scanout.frames (run ops p).log = [f]
  number : f.sequence = p.nextSequence
  next : (run ops p).ppu.nextSequence = p.nextSequence + 1
  lastDot : ∃ before after, ops = before ++ .dot :: after ∧ dots after = 0 ∧
    ((run before p).ppu.step .dot).ppu.takeFrame.1 = some f ∧
    (.takeFrame ∉ after → (run ops p).ppu.takeFrame.1 = some f)
  /-- No other frame can be taken but the one that waited already. -/
  only : ∀ first rest g, ops = first ++ rest → (run first p).ppu.takeFrame.1 = some g →
    g = f ∧ dots rest = 0 ∨ p.takeFrame.1 = some g

/-- What can be taken in a run that publishes one frame, with the dot after `before`. -/
theorem taken_of_published {p : Ppu} {before after : List Op} {f : Frame}
    (hframes : Scanout.frames (run (before ++ .dot :: after) p).log = [f])
    (hbefore : Scanout.frames (run before p).log = []) (hlast : dots after = 0)
    {first rest : List Op} (hsplit : before ++ .dot :: after = first ++ rest) {g : Frame}
    (htaken : (run first p).ppu.takeFrame.1 = some g) :
    g = f ∧ dots rest = 0 ∨ p.takeFrame.1 = some g := by
  rcases pending_run first htaken with hnew | ⟨-, hold⟩
  case inr => exact .inr hold
  have hmem := List.mem_of_getLast? hnew
  refine .inl ⟨?_, ?_⟩
  · rw [hsplit, frames_run_append] at hframes
    exact List.mem_singleton.mp (hframes ▸ List.mem_append_left _ hmem)
  · -- the frame is among those of `first`, which therefore goes beyond `before`
    have hlonger : ∀ more, before ≠ first ++ more := by
      intro more heq
      rw [heq, frames_run_append] at hbefore
      rw [(List.append_eq_nil_iff.mp hbefore).1] at hmem
      exact List.not_mem_nil hmem
    rcases List.append_eq_append_iff.mp hsplit with ⟨more, hfirst, hrest⟩ | ⟨more, heq, -⟩
    · cases more with
      | nil => exact absurd (by rw [hfirst, List.append_nil, List.append_nil]) (hlonger [])
      | cons op more =>
        have hafter : after = more ++ rest := (List.cons_eq_cons.mp hrest).2
        rw [hafter, dots_append] at hlast
        omega
    · exact absurd heq (hlonger more)

/-- The frame is published with the last of the dots. -/
theorem exists_lastDot {p : Ppu} (hp : Reachable system p) (henabled : p.lcdEnabled = true)
    (hstart : p.position = 0) {ops : List Op} (hstill : p.Still ops)
    (hdots : dots ops = 144 * 456) {f : Frame}
    (hframes : Scanout.frames (run ops p).log = [f]) :
    ∃ before after, ops = before ++ .dot :: after ∧ dots after = 0 ∧
      ((run before p).ppu.step .dot).log = [.frame f] := by
  have hmem : PpuEvent.frame f ∈ (run ops p).log := by
    obtain ⟨e, he, heq⟩ := List.mem_filterMap.mp (hframes ▸ List.mem_singleton_self f :
      f ∈ Scanout.frames (run ops p).log)
    cases e with
    | frame g =>
      cases heq
      exact he
    | scanline | wrap | lcdOn | lcdOff => cases heq
  obtain ⟨before, op, after, hops, hstep⟩ := exists_step_of_log hmem
  have hreach := reachable_run hp before
  obtain ⟨rfl, hlog⟩ := log_of_published hreach hstep
  have hbefore : p.Still before := by
    intro first rest heq
    exact hstill first (rest ++ .dot :: after) (by rw [hops, heq, List.append_assoc])
  have hsplit : dots ops = dots before + (1 + dots after) := by
    rw [hops, dots_append, dots_cons]
    rfl
  refine ⟨before, after, hops, ?_, hlog⟩
  -- the dot that publishes enters line 144, and the run has no dots beyond that
  have hon := (lcdEnabled_of_shown hbefore.last).trans henabled
  by_contra hmore
  have hposition := position_of_still hp henabled hstart hbefore (by omega)
  have hnot : ¬ EntersVblank (run before p).ppu .dot := by
    rintro ⟨-, henters⟩
    omega
  have hnone := (dot_marks hreach hon).noFrame hnot
  rw [hlog] at hnone
  cases hnone

theorem handsOutOnce_of_published {p : Ppu} (hp : Reachable system p)
    (henabled : p.lcdEnabled = true) (hstart : p.position = 0) {ops : List Op}
    (hstill : p.Still ops) (hdots : dots ops = 144 * 456) {f : Frame}
    (hframes : Scanout.frames (run ops p).log = [f]) : HandsOutOnce p ops f := by
  obtain ⟨before, after, hops, hlast, hlog⟩ :=
    exists_lastDot hp henabled hstart hstill hdots hframes
  have hpending := takeFrame_dot hlog
  have hnext := nextSequence_run ops p
  rw [hframes] at hnext
  obtain ⟨hfirst, hnone⟩ : Scanout.frames (run before p).log = [] ∧
      Scanout.frames (run after ((run before p).ppu.step .dot).ppu).log = [] := by
    have hone : Scanout.frames [PpuEvent.frame f] = [f] := rfl
    have hlength := congrArg List.length hframes
    rw [hops, frames_run_append, frames_run_cons, hlog, hone, List.length_append,
      List.length_append, List.length_singleton] at hlength
    exact ⟨List.eq_nil_of_length_eq_zero (by omega), List.eq_nil_of_length_eq_zero (by omega)⟩
  refine ⟨hframes, ?_, hnext, ⟨before, after, hops, hlast, hpending, fun hleft => ?_⟩, ?_⟩
  · obtain ⟨s, hs⟩ := shows_of_reachable hp
    obtain ⟨t, hscan, -⟩ := run_simulates hp hs ops
    have hnumbers := (Scanout.sequence_of_run hscan).1
    rw [hframes, hs.sequence] at hnumbers
    exact List.head_eq_of_cons_eq hnumbers
  · have hrun : run ops p = (run before p).andThen fun q => (q.step .dot).andThen (run after) := by
      rw [hops, run_append]
      rfl
    have hpublishes := publishes_run after (fun o ho heq => hleft (heq ▸ ho))
      ((run before p).ppu.step .dot).ppu
    have hkept := hpublishes.pending
    rw [hnone] at hkept
    rw [hrun]
    exact hkept.trans hpending
  · subst hops
    exact fun first rest g hsplit htaken =>
      taken_of_published hframes hfirst hlast hsplit htaken

/-- **A still frame is the picture of its scene.**  If nothing that is shown changes from the
start of line 0 until 144 lines have passed, one frame is handed out, and each of its pixels is
the one the scene shows there. -/
theorem still_frame {p : Ppu} (hp : Reachable system p) (henabled : p.lcdEnabled = true)
    (hstart : p.position = 0) (ops : List Op) (hstill : p.Still ops)
    (hdots : dots ops = 144 * 456) :
    ∃ f, HandsOutOnce p ops f ∧ ∀ (line : Fin 144) (x : Column),
      ∃ pixel, (p.scene.onLine line).Shows (p.Displays line) line x.val pixel ∧
        f.pixel line x = pixel.rgba := by
  obtain ⟨s, hs⟩ := inFrame_of_reachable hp
  obtain ⟨hrows, hpublished, hblank⟩ := start_of_frame hs henabled hstart
  obtain ⟨t, hrun, ht⟩ := run_simulates hp hs.shows ops
  have hdone := hstill.last
  have hon := (lcdEnabled_of_shown hdone).trans henabled
  have hadvances := run_advances hp henabled ops (hstill.keepsLcdOn henabled)
  have hposition := position_of_still hp henabled hstart hstill (Nat.le_of_eq hdots)
  have hvblank : 144 ≤ (run ops p).ppu.internalLine := by
    have hdot := (timeline_of_reachable (reachable_run hp ops) hon).dot_lt
    have hdot : (run ops p).ppu.dot < 456 := hdot
    rw [hdots] at hposition
    unfold position at hposition
    omega
  have hall : t.rows.length = 144 :=
    (ht.rows hon).trans (Raster.rowsDone_of_vblank hvblank)
  obtain ⟨f, hf⟩ := Option.isSome_iff_exists.mp ((ht.published hon).mpr hvblank)
  have hwrap := wrap_not_mem hp henabled hstart hstill (Nat.le_of_eq hdots)
  have hlog : (run ops p).log = t.events := by
    have hevents := Scanout.events_of_run hrun ?_
    · rw [hevents, Scanout.events, hrows, hpublished]
      rfl
    · rintro e he (rfl | rfl | rfl)
      · exact hwrap he
      · exact (hadvances.lit _ he).1 rfl
      · exact (hadvances.lit _ he).2 rfl
  have hpicture := (Scanout.published_of_run hrun hblank hpublished
    fun e he => (hadvances.lit e he).1).2 f hf
  refine ⟨f, handsOutOnce_of_published hp henabled hstart hstill hdots ?_, fun line x => ?_⟩
  · rw [hlog, Scanout.events, hf, Scanout.frames_append]
    have hnone : Scanout.frames (t.rows.mapIdx PpuEvent.scanline) = [] := by
      refine List.filterMap_eq_nil_iff.mpr fun e he => ?_
      obtain ⟨i, hi, rfl⟩ := List.mem_mapIdx.mp he
      rfl
    rw [hnone]
    rfl
  · have hdrawn := drawnStill_run hp hs henabled hstart hstill
    have htrows : t.rows = (run ops p).log.foldl Scanout.recordRow [] := by
      rw [Scanout.rows_of_run hrun, hrows]
    rw [← htrows] at hdrawn
    have hrow : t.rows[line.val]? = some (t.rows.get ⟨line.val, by omega⟩) :=
      List.getElem?_eq_getElem _
    refine ⟨_, (hdrawn.faithful line.val _ hrow).shows x, ?_⟩
    have hframe : f = ⟨f.sequence, picture t.rows⟩ := by
      rw [← hpicture]
    rw [hframe]
    exact picture_pixel hrow f.sequence x

/-- The frame of the painting: the window is black from column 80 on. -/
theorem still_frame_painted :
    ∃ f, HandsOutOnce painted (.replicate 65664 .dot) f ∧
      f.pixel 0 (80 : Fin 160) = .gray 0 ∧ f.pixel 0 (16 : Fin 160) = .gray 255 := by
  have hreach : Reachable system painted := reachable_run (.start rfl) painting
  obtain ⟨f, hpublished, hpixels⟩ := still_frame hreach (by decide) (by decide) _
    (still_of_dots hreach 65664) List.countP_replicate
  have hscene : painted.scene.onLine 0 = painted.scene := by
    have hrow : painted.windowLine.toNat = 0 - painted.registers.wy.toNat := by decide
    unfold Scene.onLine scene
    rw [hrow]
  obtain ⟨-, -, hsprite, hwindow⟩ := scanline_rendering_painted
  refine ⟨f, hpublished, ?_, ?_⟩
  · obtain ⟨pixel, hshows, hpixel⟩ := hpixels 0 (80 : Fin 160)
    have hscreen : painted.scene.Shows (painted.Displays 0) 0 80 pixel := hscene ▸ hshows
    rw [hpixel, hscreen.unique hwindow]
  · obtain ⟨pixel, hshows, hpixel⟩ := hpixels 0 (16 : Fin 160)
    have hscreen : painted.scene.Shows (painted.Displays 0) 0 16 pixel := hscene ▸ hshows
    rw [hpixel, hscreen.unique hsprite]

end Ppu

end Pockiva
