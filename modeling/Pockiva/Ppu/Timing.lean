import Pockiva.Ppu.Render

/-! # The PPU clock

`tickOne` is one dot: the events of the raster in the order of the source, each
re-evaluating the STAT line.  A `Tick` carries, besides the PPU and the interrupts,
the calls of `store_scanline` and `publish_frame` and the starts and stops of the
raster, in order; the log is read by no operation.
-/
namespace Pockiva

/-- What the log of a run records. -/
inductive PpuEvent where
  /-- `store_scanline` ran for the line and computed the row. -/
  | scanline (line : Nat) (row : RenderedRow)
  /-- `publish_frame` published the frame. -/
  | frame (f : Frame)
  /-- The raster wrapped to line 0. -/
  | wrap
  /-- LCDC bit 7 was set. -/
  | lcdOn
  /-- LCDC bit 7 was cleared. -/
  | lcdOff

/-- The PPU after a step, with what the step requested and logged. -/
structure Tick where
  ppu : Ppu
  requested : InterruptMask
  log : List PpuEvent

namespace Tick

/-- A step without effects. -/
def quiet (p : Ppu) : Tick := ⟨p, .empty, []⟩

@[simp] theorem quiet_ppu (p : Ppu) : (quiet p).ppu = p := rfl

@[simp] theorem quiet_requested (p : Ppu) : (quiet p).requested = .empty := rfl

def andThen (t : Tick) (f : Ppu → Tick) : Tick :=
  ⟨(f t.ppu).ppu, t.requested.union (f t.ppu).requested, t.log ++ (f t.ppu).log⟩

@[simp] theorem andThen_ppu (t : Tick) (f : Ppu → Tick) : (t.andThen f).ppu = (f t.ppu).ppu := rfl

@[simp] theorem andThen_requested (t : Tick) (f : Ppu → Tick) :
    (t.andThen f).requested = t.requested.union (f t.ppu).requested := rfl

@[simp] theorem andThen_log (t : Tick) (f : Ppu → Tick) :
    (t.andThen f).log = t.log ++ (f t.ppu).log := rfl

@[simp] theorem quiet_andThen (p : Ppu) (f : Ppu → Tick) : (quiet p).andThen f = f p := by
  simp [andThen, quiet]

@[simp] theorem andThen_quiet (t : Tick) : t.andThen quiet = t := by
  simp [andThen, quiet]

theorem andThen_assoc (t : Tick) (f g : Ppu → Tick) :
    (t.andThen f).andThen g = t.andThen fun p => (f p).andThen g := by
  simp [andThen, List.append_assoc, InterruptMask.union_assoc]

end Tick

namespace Ppu

/-! ## The STAT line -/

/-- The level of the STAT line if `enables` were the enabled sources. -/
def statLevelWithEnables (p : Ppu) (enables : Byte) : Bool :=
  (p.lcdEnabled && p.mode == .hBlank && (p.startupLine || decide (p.mode3EndDot ≤ p.dot))
      && enables &&& 0x08 != 0)
    || (p.lcdEnabled && p.mode == .vBlank && enables &&& 0x10 != 0)
    || (p.lcdEnabled
      && (p.mode == .oamScan || decide (p.internalLine = visibleLines ∧ p.dot = 0))
      && enables &&& 0x20 != 0)
    || (p.lycEqual && enables &&& 0x40 != 0)

def evaluateStatWithEnables (p : Ppu) (enables : Byte) : Tick where
  ppu := { p with statLineHigh := p.statLevelWithEnables enables }
  requested :=
    if p.statLevelWithEnables enables && !p.statLineHigh then .of .lcdStat else .empty
  log := []

def evaluateStat (p : Ppu) : Tick := p.evaluateStatWithEnables p.registers.stat.enables

/-! ## The length of mode 3 -/

def mode3StartDot (p : Ppu) : Nat :=
  if p.startupLine then startupMode3Dot else mode2Dots + p.lcdPhase

/-- The dots the window adds to mode 3. -/
def windowPenalty (p : Ppu) : Nat :=
  if p.windowVisibleOnLine p.internalLine then
    if p.registers.wx = 0 ∧ p.registers.scx &&& 7 ≠ 0 then 5 else 6
  else 0

def computeMode3EndDot (p : Ppu) : Nat :=
  let length := baseMode3Dots + (p.registers.scx &&& 7).toNat + p.windowPenalty
    + p.spriteMode3Penalty
  p.mode3StartDot + min length 289

/-! ## Lines and frames -/

def storeScanline (p : Ppu) (line : Nat) : Tick :=
  let row := p.renderScanline line
  { ppu := { p with
      framebuffer := if p.blankFirstFrame then p.framebuffer else copyRow p.framebuffer line row
      windowLine := if row.windowDrawn then p.windowLine + 1 else p.windowLine }
    requested := .empty
    log := [.scanline line row] }

def publishFrame (p : Ppu) : Tick :=
  let framebuffer := if p.blankFirstFrame then .filled _ 0xff else p.framebuffer
  let frame : Frame := ⟨p.nextSequence, framebuffer⟩
  { ppu := { p with
      framebuffer := framebuffer
      blankFirstFrame := false
      pendingFrame := some frame
      nextSequence := p.nextSequence + 1 }
    requested := .empty
    log := [.frame frame] }

/-! ## One dot -/

/-- Line 153 shows LY 0 from dot 4 on. -/
def line153Event (p : Ppu) : Tick :=
  if p.internalLine = 153 ∧ p.dot = 4 then p.updateLycComparison.evaluateStat else .quiet p

/-- The OAM source is asserted on the first dot of line 144 only. -/
def line144Event (p : Ppu) : Tick :=
  if p.internalLine = visibleLines ∧ p.dot = 1 then p.evaluateStat else .quiet p

/-- After a re-enable every visible line but the first starts its scan late. -/
def phaseEvent (p : Ppu) : Tick :=
  if p.startupLine = false ∧ p.internalLine < visibleLines ∧ p.lcdPhase ≠ 0 ∧
      p.dot = p.lcdPhase then
    (Ppu.updateLycComparison { p with mode := .oamScan }).evaluateStat
  else .quiet p

/-- Mode 3 begins: the sprites of the line and the end of the mode are fixed. -/
def startDrawing (p : Ppu) : Ppu :=
  let p : Ppu :=
    { p with mode := .drawing, selectedSprites := p.selectSpritesForLine p.internalLine }
  let p := { p with mode3EndDot := p.computeMode3EndDot }
  { p with
    visibleHblankDot := if p.spriteMode3Penalty = 0 then p.mode3EndDot else p.mode3EndDot - 1 }

/-- The chain of events of a visible line. -/
def visibleLineEvent (p : Ppu) : Tick :=
  if p.internalLine < visibleLines then
    if p.dot = p.mode3StartDot then p.startDrawing.evaluateStat
    else if p.dot = p.visibleHblankDot then
      (p.storeScanline p.internalLine).andThen fun p =>
        Ppu.evaluateStat { p with mode := .hBlank }
    else if p.dot = p.mode3EndDot then p.evaluateStat
    else .quiet p
  else .quiet p

/-- A visible line begins. -/
def enterVisibleLine (p : Ppu) : Ppu :=
  { p with
    mode := if p.lcdPhase = 0 then .oamScan else .hBlank
    selectedSprites := p.selectSpritesForLine p.internalLine
    mode3EndDot := mode2Dots + baseMode3Dots
    visibleHblankDot := mode2Dots + baseMode3Dots }

/-- What the number of the next line decides. -/
def enterLine (p : Ppu) : Tick :=
  if p.internalLine = visibleLines then
    let t := Ppu.publishFrame { p with mode := .vBlank }
    { t with requested := .of .vblank }
  else if p.internalLine = linesPerFrame then
    { ppu := Ppu.enterVisibleLine { p with internalLine := 0, windowLine := 0 }
      requested := .empty
      log := [.wrap] }
  else if p.internalLine < visibleLines then .quiet p.enterVisibleLine
  else .quiet p

/-- The LY comparison at the start of a line: after a re-enable the flag is only
cleared here on visible lines, and set by `phaseEvent`. -/
def compareAtLineStart (p : Ppu) : Ppu :=
  if p.lcdPhase = 0 ∨ visibleLines ≤ p.internalLine then p.updateLycComparison
  else if p.readableLy ≠ p.registers.lyc then { p with lycEqual := false }
  else p

def lineEndEvent (p : Ppu) : Tick :=
  if p.dot = dotsPerLine then
    (enterLine { p with
      dot := 0, internalLine := p.internalLine + 1, startupLine := false }).andThen
      fun p => p.compareAtLineStart.evaluateStat
  else .quiet p

def tickOne (p : Ppu) : Tick :=
  (Tick.quiet { p with dot := p.dot + 1 }).andThen line153Event
    |>.andThen line144Event |>.andThen phaseEvent |>.andThen visibleLineEvent
    |>.andThen lineEndEvent

end Ppu

end Pockiva
