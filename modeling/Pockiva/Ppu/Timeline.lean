import Pockiva.Ppu.Ppu

/-! # The raster timeline

While the LCD is enabled the raster position and the mode follow a fixed timeline
(`Timeline`).  On it every dot has at most one event, and `DotEvent` lists all of
them with the state each leads to: what holds after every dot is proved by cases
on `tickOne_event`.
-/
namespace Pockiva

/-- The fields of the PPU that say where the raster is. -/
structure Raster where
  mode : LcdMode
  dot : Nat
  line : Nat
  startup : Bool
  phase : Nat
  visibleHblankDot : Nat
  mode3EndDot : Nat

namespace Raster

def mode3StartDot (r : Raster) : Nat := if r.startup then startupMode3Dot else mode2Dots + r.phase

/-- The mode before mode 3: the first line after a re-enable has no OAM scan, and
the others start theirs late. -/
def scanMode (r : Raster) : LcdMode :=
  if r.startup ∨ r.dot < r.phase then .hBlank else .oamScan

/-- What holds of the end of mode 3 once mode 3 has begun. -/
structure Mode3Fixed (r : Raster) : Prop where
  lower : r.mode3StartDot + 172 ≤ r.mode3EndDot
  upper : r.mode3EndDot ≤ r.mode3StartDot + 289
  visible_le : r.visibleHblankDot ≤ r.mode3EndDot
  le_visible : r.mode3EndDot ≤ r.visibleHblankDot + 1

/-- The three parts of a visible line. -/
inductive VisibleStage (r : Raster) : Prop where
  | scan (hdot : r.dot < r.mode3StartDot) (hmode : r.mode = r.scanMode)
      (hend : r.mode3EndDot = 252) (hvisible : r.visibleHblankDot = 252)
  | drawing (hstart : r.mode3StartDot ≤ r.dot) (hdot : r.dot < r.visibleHblankDot)
      (hmode : r.mode = .drawing) (hfixed : r.Mode3Fixed)
  | hblank (hdot : r.visibleHblankDot ≤ r.dot) (hmode : r.mode = .hBlank) (hfixed : r.Mode3Fixed)

/-- **Where the raster can be while the LCD is enabled.** -/
structure Timeline (r : Raster) : Prop where
  line_lt : r.line < 154
  dot_lt : r.dot < 456
  phase : r.phase = 0 ∨ r.phase = 2
  startup : r.startup = true → r.phase = 2 ∧ r.line = 0 ∧ 8 ≤ r.dot
  vblank : 144 ≤ r.line → r.mode = .vBlank
  visible : r.line < 144 → r.VisibleStage

/-- Mode 3 starts at dot 80, 82 or 84. -/
theorem Timeline.start_bounds {r : Raster} (h : r.Timeline) :
    80 ≤ r.mode3StartDot ∧ r.mode3StartDot ≤ 84 := by
  unfold mode3StartDot startupMode3Dot mode2Dots
  have := h.phase
  split <;> omega

end Raster

namespace Ppu

def raster (p : Ppu) : Raster where
  mode := p.mode
  dot := p.dot
  line := p.internalLine
  startup := p.startupLine
  phase := p.lcdPhase
  visibleHblankDot := p.visibleHblankDot
  mode3EndDot := p.mode3EndDot

/-- The PPU one dot later, before the events of the dot. -/
def advanced (p : Ppu) : Ppu := { p with dot := p.dot + 1 }

/-- The PPU at the start of the next line, before the events of the line. -/
def nextLine (p : Ppu) : Ppu :=
  { p with dot := 0, internalLine := p.internalLine + 1, startupLine := false }

/-- The start of the OAM scan of a line after a re-enable. -/
def lateScan (p : Ppu) : Ppu := Ppu.updateLycComparison { p with mode := .oamScan }

/-- The return to line 0. -/
def wrapped (p : Ppu) : Ppu :=
  enterVisibleLine { p with dot := 0, internalLine := 0, startupLine := false, windowLine := 0 }

/-- **Every way a dot can go**, with the tick it leads to. -/
inductive DotEvent (p : Ppu) : Tick → Prop where
  | line153 (hline : p.internalLine = 153) (hdot : p.dot + 1 = 4) :
      DotEvent p p.advanced.updateLycComparison.evaluateStat
  | line144 (hline : p.internalLine = 144) (hdot : p.dot + 1 = 1) :
      DotEvent p p.advanced.evaluateStat
  | lateScan (hstartup : p.startupLine = false) (hline : p.internalLine < 144)
      (hphase : p.lcdPhase = 2) (hdot : p.dot + 1 = 2) :
      DotEvent p p.advanced.lateScan.evaluateStat
  | startDrawing (hline : p.internalLine < 144) (hdot : p.dot + 1 = p.mode3StartDot) :
      DotEvent p p.advanced.startDrawing.evaluateStat
  | hblank (hline : p.internalLine < 144) (hstart : p.mode3StartDot ≤ p.dot)
      (hdot : p.dot + 1 = p.visibleHblankDot) (hmode : p.mode = .drawing)
      (hfixed : p.raster.Mode3Fixed) :
      DotEvent p ((p.advanced.storeScanline p.internalLine).andThen fun q =>
        Ppu.evaluateStat { q with mode := .hBlank })
  | mode3End (hline : p.internalLine < 144) (hdot : p.dot + 1 = p.mode3EndDot)
      (hvisible : p.visibleHblankDot = p.dot) (hmode : p.mode = .hBlank)
      (hfixed : p.raster.Mode3Fixed) :
      DotEvent p p.advanced.evaluateStat
  | endVisible (hline : p.internalLine + 1 < 144) (hdot : p.dot + 1 = 456)
      (hhblank : p.visibleHblankDot ≤ p.dot) :
      DotEvent p p.nextLine.enterVisibleLine.compareAtLineStart.evaluateStat
  | enterVblank (hline : p.internalLine + 1 = 144) (hdot : p.dot + 1 = 456)
      (hhblank : p.visibleHblankDot ≤ p.dot) :
      DotEvent p (Tick.andThen
        { Ppu.publishFrame { p.nextLine with mode := .vBlank } with requested := .of .vblank }
        fun q => q.compareAtLineStart.evaluateStat)
  | endVblank (hlow : 144 ≤ p.internalLine) (hline : p.internalLine + 1 < 154)
      (hdot : p.dot + 1 = 456) :
      DotEvent p p.nextLine.compareAtLineStart.evaluateStat
  | wrap (hline : p.internalLine = 153) (hdot : p.dot + 1 = 456) :
      DotEvent p (Tick.andThen ⟨p.wrapped, .empty, [.wrap]⟩
        fun q => q.compareAtLineStart.evaluateStat)
  | none (h153 : ¬ (p.internalLine = 153 ∧ p.dot + 1 = 4))
      (h144 : ¬ (p.internalLine = 144 ∧ p.dot + 1 = 1))
      (hlate : ¬ (p.startupLine = false ∧ p.internalLine < 144 ∧ p.lcdPhase ≠ 0 ∧
        p.dot + 1 = p.lcdPhase))
      (hstart : p.internalLine < 144 → p.dot + 1 ≠ p.mode3StartDot)
      (hvisible : p.internalLine < 144 → p.dot + 1 ≠ p.visibleHblankDot)
      (hend : p.internalLine < 144 → p.dot + 1 ≠ p.mode3EndDot)
      (hdot : p.dot + 1 ≠ 456) :
      DotEvent p (.quiet p.advanced)

/-! ## Fields the STAT evaluation leaves alone -/

@[simp] theorem evaluateStatWithEnables_log (p : Ppu) (enables : Byte) :
    (p.evaluateStatWithEnables enables).log = [] := rfl

@[simp] theorem evaluateStat_log (p : Ppu) : p.evaluateStat.log = [] := rfl

@[simp] theorem evaluateStat_raster (p : Ppu) : p.evaluateStat.ppu.raster = p.raster := rfl

@[simp] theorem compareAtLineStart_raster (p : Ppu) : p.compareAtLineStart.raster = p.raster := by
  unfold compareAtLineStart
  repeat' split
  all_goals rfl

theorem mode3StartDot_eq (p : Ppu) : p.mode3StartDot = p.raster.mode3StartDot := rfl

/-! ## Each stage of a dot is quiet away from its own dot -/

section Stages
variable {p : Ppu}

theorem line153Event_quiet (h : ¬ (p.internalLine = 153 ∧ p.dot = 4)) :
    p.line153Event = .quiet p := if_neg h

theorem line144Event_quiet (h : ¬ (p.internalLine = 144 ∧ p.dot = 1)) :
    p.line144Event = .quiet p := if_neg h

theorem phaseEvent_quiet (h : ¬ (p.startupLine = false ∧ p.internalLine < 144 ∧ p.lcdPhase ≠ 0 ∧
    p.dot = p.lcdPhase)) : p.phaseEvent = .quiet p := if_neg h

theorem visibleLineEvent_quiet (h : p.internalLine < 144 →
    p.dot ≠ p.mode3StartDot ∧ p.dot ≠ p.visibleHblankDot ∧ p.dot ≠ p.mode3EndDot) :
    p.visibleLineEvent = .quiet p := by
  unfold visibleLineEvent
  split
  · next hline =>
    obtain ⟨hs, hv, he⟩ := h hline
    rw [if_neg hs, if_neg hv, if_neg he]
  · rfl

theorem lineEndEvent_quiet (h : p.dot ≠ 456) : p.lineEndEvent = .quiet p := if_neg h

theorem tickOne_eq (p : Ppu) :
    p.tickOne = ((((p.advanced.line153Event).andThen line144Event).andThen phaseEvent).andThen
      visibleLineEvent).andThen lineEndEvent := by
  unfold tickOne
  rw [Tick.quiet_andThen]
  rfl

theorem andThen_of_quiet {t : Tick} {f : Ppu → Tick} (h : f t.ppu = .quiet t.ppu) :
    t.andThen f = t := by
  have hf : t.andThen f = t.andThen Tick.quiet := by
    unfold Tick.andThen
    rw [h]
  rw [hf, Tick.andThen_quiet]

end Stages

/-- The dots of a visible line at which something happens are in order. -/
theorem stage_dots {p : Ppu} (h : p.raster.Timeline) (hline : p.internalLine < 144) :
    p.mode3StartDot + 172 ≤ p.mode3EndDot + 4 ∧ p.mode3EndDot ≤ 373 ∧
      p.visibleHblankDot ≤ p.mode3EndDot ∧ p.mode3EndDot ≤ p.visibleHblankDot + 1 := by
  have hb := h.start_bounds
  rw [mode3StartDot_eq]
  cases h.visible hline with
  | scan hdot hmode hend hvisible =>
    have he : p.mode3EndDot = 252 := hend
    have hv : p.visibleHblankDot = 252 := hvisible
    omega
  | drawing _ _ _ hfixed =>
    have hl : _ ≤ p.mode3EndDot := hfixed.lower
    have hu : p.mode3EndDot ≤ _ := hfixed.upper
    have hv : p.visibleHblankDot ≤ p.mode3EndDot := hfixed.visible_le
    have hv' : p.mode3EndDot ≤ p.visibleHblankDot + 1 := hfixed.le_visible
    omega
  | hblank _ _ hfixed =>
    have hl : _ ≤ p.mode3EndDot := hfixed.lower
    have hu : p.mode3EndDot ≤ _ := hfixed.upper
    have hv : p.visibleHblankDot ≤ p.mode3EndDot := hfixed.visible_le
    have hv' : p.mode3EndDot ≤ p.visibleHblankDot + 1 := hfixed.le_visible
    omega

/-- At the end of a line only the last stage acts. -/
theorem tickOne_lineEnd {p : Ppu} (h : p.raster.Timeline) (hdot : p.dot + 1 = 456) :
    p.tickOne = (enterLine p.nextLine).andThen fun q => q.compareAtLineStart.evaluateStat := by
  have hb := h.start_bounds
  have hphase : p.lcdPhase = 0 ∨ p.lcdPhase = 2 := h.phase
  have hd : p.advanced.dot = p.dot + 1 := rfl
  rw [tickOne_eq, line153Event_quiet (by omega), Tick.quiet_andThen,
    line144Event_quiet (by omega), Tick.quiet_andThen, phaseEvent_quiet ?_, Tick.quiet_andThen,
    visibleLineEvent_quiet ?_, Tick.quiet_andThen, lineEndEvent, if_pos (hd.trans hdot)]
  · rfl
  · intro hline
    obtain ⟨h1, h2, h3, h4⟩ := stage_dots h hline
    have hs : p.advanced.mode3StartDot = p.raster.mode3StartDot := rfl
    have hv : p.advanced.visibleHblankDot = p.visibleHblankDot := rfl
    have he : p.advanced.mode3EndDot = p.mode3EndDot := rfl
    omega
  · rintro ⟨-, -, -, hlate⟩
    have hp : p.advanced.lcdPhase = p.lcdPhase := rfl
    omega

/-- A dot of a line of the vertical blank, other than its last. -/
theorem tickOne_vblank {p : Ppu} (hline : 144 ≤ p.internalLine)
    (hend : p.dot + 1 ≠ 456) : DotEvent p p.tickOne := by
  have hd : p.advanced.dot = p.dot + 1 := rfl
  have hl : p.advanced.internalLine = p.internalLine := rfl
  -- the last three stages act on no dot of these lines
  have hrest : ∀ t : Tick, t.ppu.internalLine = p.internalLine → t.ppu.dot = p.dot + 1 →
      ((t.andThen phaseEvent).andThen visibleLineEvent).andThen lineEndEvent = t := by
    intro t htl htd
    rw [andThen_of_quiet (phaseEvent_quiet (by omega)),
      andThen_of_quiet (visibleLineEvent_quiet (by omega)),
      andThen_of_quiet (lineEndEvent_quiet (by omega))]
  rw [tickOne_eq]
  by_cases h153 : p.advanced.internalLine = 153 ∧ p.advanced.dot = 4
  · rw [line153Event, if_pos h153, andThen_of_quiet (line144Event_quiet ?_), hrest _ rfl rfl]
    · exact .line153 h153.1 h153.2
    · rintro ⟨h144, -⟩
      have hl' : p.internalLine = 144 := h144
      omega
  · rw [line153Event_quiet h153, Tick.quiet_andThen]
    by_cases h144 : p.advanced.internalLine = 144 ∧ p.advanced.dot = 1
    · rw [line144Event, if_pos h144, hrest _ rfl rfl]
      exact .line144 h144.1 h144.2
    · rw [line144Event_quiet h144, hrest _ rfl rfl]
      exact .none h153 h144 (by omega) (by omega) (by omega) (by omega) hend

/-- A dot of a visible line, other than its last. -/
theorem tickOne_visible {p : Ppu} (h : p.raster.Timeline) (hline : p.internalLine < 144)
    (hend : p.dot + 1 ≠ 456) : DotEvent p p.tickOne := by
  have hb : 80 ≤ p.mode3StartDot ∧ p.mode3StartDot ≤ 84 := h.start_bounds
  obtain ⟨hd1, hd2, hd3, hd4⟩ := stage_dots h hline
  have hphase : p.lcdPhase = 0 ∨ p.lcdPhase = 2 := h.phase
  have hd : p.advanced.dot = p.dot + 1 := rfl
  have hl : p.advanced.internalLine = p.internalLine := rfl
  have hs : p.advanced.mode3StartDot = p.mode3StartDot := rfl
  have hv : p.advanced.visibleHblankDot = p.visibleHblankDot := rfl
  have he : p.advanced.mode3EndDot = p.mode3EndDot := rfl
  have hlast : ∀ t : Tick, t.ppu.dot = p.dot + 1 → t.andThen lineEndEvent = t := fun t htd =>
    andThen_of_quiet (lineEndEvent_quiet (by omega))
  rw [tickOne_eq, line153Event_quiet (by omega), Tick.quiet_andThen,
    line144Event_quiet (by omega), Tick.quiet_andThen]
  by_cases hlate : p.advanced.startupLine = false ∧ p.advanced.internalLine < 144 ∧
      p.advanced.lcdPhase ≠ 0 ∧ p.advanced.dot = p.advanced.lcdPhase
  · rw [phaseEvent, if_pos hlate, andThen_of_quiet (visibleLineEvent_quiet ?_), hlast _ rfl]
    · obtain ⟨hstartup, -, hne, hdot⟩ := hlate
      have hp : p.lcdPhase ≠ 0 := hne
      have hp' : p.dot + 1 = p.lcdPhase := hdot
      exact .lateScan hstartup hline (by omega) (by omega)
    · intro _
      have hp : p.dot + 1 = p.lcdPhase := hlate.2.2.2
      show p.dot + 1 ≠ p.mode3StartDot ∧ p.dot + 1 ≠ p.visibleHblankDot ∧
        p.dot + 1 ≠ p.mode3EndDot
      omega
  · rw [phaseEvent_quiet hlate, Tick.quiet_andThen, visibleLineEvent, if_pos (hl ▸ hline)]
    by_cases hstart : p.advanced.dot = p.advanced.mode3StartDot
    · rw [if_pos hstart, hlast _ rfl]
      exact .startDrawing hline hstart
    · rw [if_neg hstart]
      by_cases hvis : p.advanced.dot = p.advanced.visibleHblankDot
      · rw [if_pos hvis, hlast _ rfl]
        -- The HBlank dot is reached while the line is drawn, in no other stage.
        cases h.visible hline with
        | scan hdot _ _ hvisible =>
          have h1 : p.dot < p.mode3StartDot := hdot
          have h2 : p.visibleHblankDot = 252 := hvisible
          omega
        | drawing hstart' _ hmode hfixed => exact .hblank hline hstart' hvis hmode hfixed
        | hblank hdot =>
          have h1 : p.visibleHblankDot ≤ p.dot := hdot
          omega
      · rw [if_neg hvis]
        by_cases hlastDot : p.advanced.dot = p.advanced.mode3EndDot
        · rw [if_pos hlastDot, hlast _ rfl]
          -- The end of mode 3 comes after the HBlank dot.
          cases h.visible hline with
          | scan hdot _ hend' _ =>
            have h1 : p.dot < p.mode3StartDot := hdot
            have h2 : p.mode3EndDot = 252 := hend'
            omega
          | drawing _ hdot =>
            have h1 : p.dot < p.visibleHblankDot := hdot
            omega
          | hblank hdot hmode hfixed =>
            have h1 : p.visibleHblankDot ≤ p.dot := hdot
            exact .mode3End hline hlastDot (by omega) hmode hfixed
        · rw [if_neg hlastDot, hlast _ rfl]
          exact .none (by omega) (by omega) hlate (fun _ => hstart) (fun _ => hvis)
            (fun _ => hlastDot) hend

/-- **Every dot of the timeline is one of the events.** -/
theorem tickOne_event {p : Ppu} (h : p.raster.Timeline) : DotEvent p p.tickOne := by
  have hb := h.start_bounds
  have hlt : p.internalLine < 154 := h.line_lt
  have hphase : p.lcdPhase = 0 ∨ p.lcdPhase = 2 := h.phase
  have hstart : p.mode3StartDot = p.raster.mode3StartDot := rfl
  by_cases hend : p.dot + 1 = 456
  · rw [tickOne_lineEnd h hend]
    have hl : p.nextLine.internalLine = p.internalLine + 1 := rfl
    rw [enterLine]
    by_cases h144 : p.internalLine + 1 = 144
    · rw [if_pos (hl.trans h144)]
      have hd := stage_dots h (by omega)
      exact .enterVblank h144 hend (by omega)
    · rw [if_neg (fun he => h144 (hl.symm.trans he))]
      by_cases h154 : p.internalLine + 1 = 154
      · rw [if_pos (hl.trans h154)]
        exact .wrap (by omega) hend
      · rw [if_neg (fun he => h154 (hl.symm.trans he))]
        by_cases hvisible : p.internalLine + 1 < 144
        · rw [if_pos (show p.nextLine.internalLine < visibleLines from hvisible),
            Tick.quiet_andThen]
          have hd := stage_dots h (by omega)
          exact .endVisible hvisible hend (by omega)
        · rw [if_neg (show ¬ p.nextLine.internalLine < visibleLines from hvisible),
            Tick.quiet_andThen]
          exact .endVblank (by omega) (by omega) hend
  · by_cases hvisible : p.internalLine < 144
    · exact tickOne_visible h hvisible hend
    · exact tickOne_vblank (by omega) hend

/-! ## The timeline is kept -/

/-- The chosen end of mode 3 is within its bounds, whatever the registers hold. -/
theorem mode3Fixed_startDrawing (p : Ppu) : p.startDrawing.raster.Mode3Fixed := by
  have hend : ∃ n, 172 ≤ n ∧ n ≤ 289 ∧ p.startDrawing.mode3EndDot = p.mode3StartDot + n := by
    refine ⟨_, ?_, Nat.min_le_right _ 289, rfl⟩
    refine Nat.le_min.mpr ⟨?_, by decide⟩
    unfold baseMode3Dots
    omega
  obtain ⟨n, hlow, hhigh, heq⟩ := hend
  have hvisible : p.startDrawing.visibleHblankDot = p.startDrawing.mode3EndDot ∨
      p.startDrawing.visibleHblankDot = p.startDrawing.mode3EndDot - 1 := by
    unfold startDrawing
    dsimp only
    split
    · exact .inl rfl
    · exact .inr rfl
  have hs : p.startDrawing.raster.mode3StartDot = p.mode3StartDot := rfl
  have he : p.startDrawing.raster.mode3EndDot = p.startDrawing.mode3EndDot := rfl
  have hv : p.startDrawing.raster.visibleHblankDot = p.startDrawing.visibleHblankDot := rfl
  exact ⟨by omega, by omega, by omega, by omega⟩

/-- A dot without an event that matters to the mode. -/
theorem timeline_advanced {p : Ppu} (h : p.raster.Timeline) (hdot : p.dot + 1 ≠ 456)
    (hquiet : p.internalLine < 144 →
      p.dot + 1 ≠ p.mode3StartDot ∧ (p.mode ≠ .hBlank ∨ p.dot < p.mode3StartDot →
        p.dot + 1 ≠ p.visibleHblankDot) ∧
      ¬ (p.startupLine = false ∧ p.lcdPhase = 2 ∧ p.dot + 1 = 2)) :
    p.advanced.raster.Timeline := by
  have hlt : p.dot < 456 := h.dot_lt
  refine ⟨h.line_lt, ?_, h.phase, ?_, h.vblank, ?_⟩
  · show p.dot + 1 < 456
    omega
  · intro hs
    obtain ⟨hphase, hline, hlow⟩ := h.startup hs
    exact ⟨hphase, hline, Nat.le_succ_of_le hlow⟩
  · intro hline
    obtain ⟨hstart, hvisible, hlate⟩ := hquiet hline
    have heq : p.advanced.raster.mode3StartDot = p.mode3StartDot := rfl
    cases h.visible hline with
    | scan hscan hmode hend hv =>
      have hscan' : p.dot < p.mode3StartDot := hscan
      refine .scan ?_ ?_ hend hv
      · show p.dot + 1 < p.mode3StartDot
        omega
      · show p.mode = _
        have hmode' : p.mode = p.raster.scanMode := hmode
        rw [hmode', Raster.scanMode, Raster.scanMode]
        have hphase : p.lcdPhase = 0 ∨ p.lcdPhase = 2 := h.phase
        refine if_congr ?_ rfl rfl
        show p.startupLine = true ∨ p.dot < p.lcdPhase ↔
          p.startupLine = true ∨ p.dot + 1 < p.lcdPhase
        cases hs : p.startupLine
        · have hne : ¬ (p.lcdPhase = 2 ∧ p.dot + 1 = 2) := fun hc => hlate ⟨hs, hc⟩
          simp only [Bool.false_eq_true, false_or]
          omega
        · simp
    | drawing hstart' hdraw hmode hfixed =>
      have hdraw' : p.dot < p.visibleHblankDot := hdraw
      have hmode' : p.mode = .drawing := hmode
      have hne := hvisible (.inl (by rw [hmode']; decide))
      refine .drawing (Nat.le_succ_of_le hstart') ?_ hmode
        ⟨hfixed.lower, hfixed.upper, hfixed.visible_le, hfixed.le_visible⟩
      show p.dot + 1 < p.visibleHblankDot
      omega
    | hblank hh hmode hfixed =>
      exact .hblank (Nat.le_succ_of_le hh) hmode
        ⟨hfixed.lower, hfixed.upper, hfixed.visible_le, hfixed.le_visible⟩

/-- A visible line that begins is at the start of its scan. -/
theorem timeline_enterVisibleLine {p : Ppu} (hphase : p.lcdPhase = 0 ∨ p.lcdPhase = 2)
    (hline : p.internalLine < 144) (hdot : p.dot = 0) (hstartup : p.startupLine = false) :
    p.enterVisibleLine.raster.Timeline := by
  refine ⟨Nat.lt_trans hline (by decide), ?_, hphase, ?_, ?_, fun _ => .scan ?_ ?_ rfl rfl⟩
  · show p.dot < 456
    omega
  · intro hs
    exact absurd (hstartup.symm.trans hs) (by decide)
  · intro hge
    exact absurd hge (Nat.not_le_of_lt hline)
  · show p.dot < (if p.startupLine then startupMode3Dot else mode2Dots + p.lcdPhase)
    simp only [hstartup, hdot, Bool.false_eq_true, if_false, mode2Dots]
    omega
  · show (if p.lcdPhase = 0 then LcdMode.oamScan else .hBlank) = _
    simp only [Raster.scanMode, raster, enterVisibleLine, hstartup, hdot]
    rcases hphase with h0 | h2
    · simp [h0]
    · simp [h2]

theorem DotEvent.timeline {p : Ppu} {t : Tick} (h : p.raster.Timeline) (e : DotEvent p t) :
    t.ppu.raster.Timeline := by
  have hphase : p.lcdPhase = 0 ∨ p.lcdPhase = 2 := h.phase
  have hb : 80 ≤ p.mode3StartDot ∧ p.mode3StartDot ≤ 84 := h.start_bounds
  cases e with
  | line153 hline hdot => exact timeline_advanced h (by omega) (by omega)
  | line144 hline hdot => exact timeline_advanced h (by omega) (by omega)
  | lateScan hstartup hline hp hdot =>
    obtain ⟨h1, h2, h3, h4⟩ := stage_dots h hline
    refine ⟨h.line_lt, ?_, h.phase, ?_, ?_, fun _ => ?_⟩
    · show p.dot + 1 < 456
      omega
    · intro hs
      exact absurd (hstartup.symm.trans hs) (by decide)
    · intro hge
      exact absurd hge (Nat.not_le_of_lt hline)
    · cases h.visible hline with
      | scan hscan _ hend hv =>
        refine .scan ?_ ?_ hend hv
        · show p.dot + 1 < p.mode3StartDot
          omega
        · show LcdMode.oamScan = _
          simp only [Raster.scanMode, raster, evaluateStat, evaluateStatWithEnables,
            Ppu.lateScan, updateLycComparison, advanced, hstartup, hp, hdot]
          simp
      | drawing hstart =>
        have hs : p.mode3StartDot ≤ p.dot := hstart
        omega
      | hblank hh =>
        have hv : p.visibleHblankDot ≤ p.dot := hh
        omega
  | startDrawing hline hdot =>
    -- Mode 3 begins here with its length fixed, so both of its ends lie ahead.
    have hfixed := mode3Fixed_startDrawing p.advanced
    have hstart : p.advanced.startDrawing.raster.mode3StartDot = p.mode3StartDot := rfl
    have hlow := hfixed.lower
    have hle := hfixed.le_visible
    refine ⟨h.line_lt, ?_, h.phase, ?_, ?_, fun _ => .drawing ?_ ?_ rfl hfixed⟩
    · show p.dot + 1 < 456
      omega
    · intro hs
      obtain ⟨hp, hl, hlow⟩ := h.startup hs
      exact ⟨hp, hl, Nat.le_succ_of_le hlow⟩
    · intro hge
      exact absurd hge (Nat.not_le_of_lt hline)
    · show p.mode3StartDot ≤ p.dot + 1
      omega
    · show p.dot + 1 < p.advanced.startDrawing.raster.visibleHblankDot
      omega
  | hblank hline hstart hdot hmode hfixed =>
    obtain ⟨h1, h2, h3, h4⟩ := stage_dots h hline
    refine ⟨h.line_lt, ?_, h.phase, ?_, ?_, fun _ => .hblank ?_ rfl
      ⟨hfixed.lower, hfixed.upper, hfixed.visible_le, hfixed.le_visible⟩⟩
    · show p.dot + 1 < 456
      omega
    · intro hs
      obtain ⟨hp, hl, hlow⟩ := h.startup hs
      exact ⟨hp, hl, Nat.le_succ_of_le hlow⟩
    · intro hge
      exact absurd hge (Nat.not_le_of_lt hline)
    · show p.visibleHblankDot ≤ p.dot + 1
      omega
  | mode3End hline hdot hvisible hmode hfixed =>
    obtain ⟨h1, h2, h3, h4⟩ := stage_dots h hline
    refine timeline_advanced h (by omega) fun _ => ⟨by omega, fun hne => ?_, by omega⟩
    rcases hne with hne | hne
    · exact absurd hmode hne
    · omega
  | endVisible hline hdot hhblank =>
    rw [evaluateStat_raster, compareAtLineStart_raster]
    exact timeline_enterVisibleLine hphase hline rfl rfl
  | enterVblank hline hdot hhblank =>
    rw [Tick.andThen_ppu, evaluateStat_raster, compareAtLineStart_raster]
    refine ⟨?_, (by decide : 0 < 456), h.phase, nofun, fun _ => rfl, ?_⟩
    · show p.internalLine + 1 < 154
      omega
    · intro hlt
      have hlt' : p.internalLine + 1 < 144 := hlt
      omega
  | endVblank hlow hline hdot =>
    rw [evaluateStat_raster, compareAtLineStart_raster]
    refine ⟨hline, (by decide : 0 < 456), h.phase, nofun, fun _ => h.vblank hlow, ?_⟩
    intro hlt
    have hlt' : p.internalLine + 1 < 144 := hlt
    omega
  | wrap hline hdot =>
    rw [Tick.andThen_ppu, evaluateStat_raster, compareAtLineStart_raster]
    exact timeline_enterVisibleLine hphase (by decide : 0 < 144) rfl rfl
  | none h153 h144 hlate hstart hvisible hend hdot =>
    refine timeline_advanced h hdot fun hline => ⟨hstart hline, fun _ => hvisible hline, ?_⟩
    rintro ⟨hs, hp, hd⟩
    exact hlate ⟨hs, hline, by omega, by omega⟩

/-- **A dot keeps the timeline.** -/
theorem timeline_tickOne {p : Ppu} (h : p.raster.Timeline) : p.tickOne.ppu.raster.Timeline :=
  (tickOne_event h).timeline h

end Ppu

end Pockiva
