import Pockiva.Devices

/-! # The state of the PPU

Registers, sprites and the raster position.  Dots and lines are natural numbers;
they stay below 456 and 154 (`Timeline`).
-/
namespace Pockiva

/-- `DOTS_PER_LINE`. -/
abbrev dotsPerLine : Nat := 456

/-- `VISIBLE_LINES`. -/
abbrev visibleLines : Nat := 144

/-- `LINES_PER_FRAME`. -/
abbrev linesPerFrame : Nat := 154

/-- `MODE2_DOTS`. -/
abbrev mode2Dots : Nat := 80

/-- `STARTUP_MODE3_DOT`. -/
abbrev startupMode3Dot : Nat := 84

/-- `BASE_MODE3_DOTS`. -/
abbrev baseMode3Dots : Nat := 172

/-! ## Registers -/

structure Lcdc where
  bits : Byte
deriving DecidableEq, Repr

namespace Lcdc

def postBootDmg : Lcdc := ⟨0x91⟩

def enabled (r : Lcdc) : Bool := r.bits &&& 0x80 != 0

def windowMapHigh (r : Lcdc) : Bool := r.bits &&& 0x40 != 0

def windowEnabled (r : Lcdc) : Bool := r.bits &&& 0x20 != 0

def tileDataUnsigned (r : Lcdc) : Bool := r.bits &&& 0x10 != 0

def backgroundMapHigh (r : Lcdc) : Bool := r.bits &&& 0x08 != 0

def objectHeight (r : Lcdc) : Nat := if r.bits &&& 0x04 != 0 then 16 else 8

def objectsEnabled (r : Lcdc) : Bool := r.bits &&& 0x02 != 0

def backgroundEnabled (r : Lcdc) : Bool := r.bits &&& 0x01 != 0

end Lcdc

/-- The writable bits of FF41. -/
structure Stat where
  bits : Byte
deriving DecidableEq, Repr

namespace Stat

def enables (r : Stat) : Byte := r.bits &&& 0x78

def write (_ : Stat) (value : Byte) : Stat := ⟨value &&& 0x78⟩

end Stat

structure PpuRegisters where
  lcdc : Lcdc
  stat : Stat
  scy : Byte
  scx : Byte
  lyc : Byte
  dma : Byte
  bgp : Byte
  obp0 : Byte
  obp1 : Byte
  wy : Byte
  wx : Byte
deriving DecidableEq, Repr

def PpuRegisters.postBootDmg : PpuRegisters where
  lcdc := .postBootDmg
  stat := ⟨0⟩
  scy := 0
  scx := 0
  lyc := 0
  dma := 0xff
  bgp := 0xfc
  obp0 := 0xff
  obp1 := 0xff
  wy := 0
  wx := 0

/-! ## The state -/

inductive LcdMode where
  | hBlank
  | vBlank
  | oamScan
  | drawing
deriving DecidableEq, Repr

/-- The discriminant, which FF41 shows. -/
def LcdMode.bits : LcdMode → Byte
  | hBlank => 0
  | vBlank => 1
  | oamScan => 2
  | drawing => 3

structure SelectedSprite where
  rawY : Byte
  rawX : Byte
  tile : Byte
  flags : Byte
  oamIndex : Nat
deriving DecidableEq, Repr

structure Ppu where
  vram : Bytes 0x2000
  oam : Bytes 0xa0
  registers : PpuRegisters
  mode : LcdMode
  dot : Nat
  internalLine : Nat
  visibleHblankDot : Nat
  mode3EndDot : Nat
  statLineHigh : Bool
  lycEqual : Bool
  startupLine : Bool
  lcdPhase : Nat
  windowLine : Byte
  blankFirstFrame : Bool
  framebuffer : Bytes frameRgbaLen
  pendingFrame : Option Frame
  nextSequence : Nat
  selectedSprites : List SelectedSprite

namespace Ppu

def postBootDmg : Ppu where
  vram := .filled _ 0
  oam := .filled _ 0
  registers := .postBootDmg
  mode := .oamScan
  dot := 0
  internalLine := 0
  visibleHblankDot := mode2Dots + baseMode3Dots
  mode3EndDot := mode2Dots + baseMode3Dots
  statLineHigh := false
  lycEqual := true
  startupLine := false
  lcdPhase := 0
  windowLine := 0
  blankFirstFrame := false
  framebuffer := .filled _ 0xff
  pendingFrame := none
  nextSequence := 1
  selectedSprites := []

def lcdEnabled (p : Ppu) : Bool := p.registers.lcdc.enabled

/-- LY as the CPU reads it. -/
def readableLy (p : Ppu) : Byte :=
  BitVec.ofNat 8 <|
    if p.internalLine = 153 ∧ 4 ≤ p.dot then 0
    else if p.lcdPhase = 0 ∧ p.internalLine < 153 ∧ 452 ≤ p.dot then p.internalLine + 1
    else p.internalLine

def updateLycComparison (p : Ppu) : Ppu :=
  { p with lycEqual := p.readableLy == p.registers.lyc }

def windowVisibleOnLine (p : Ppu) (line : Nat) : Bool :=
  p.registers.lcdc.backgroundEnabled && p.registers.lcdc.windowEnabled
    && decide (p.registers.wy.toNat ≤ line) && decide (p.registers.wx ≤ 166)

/-! ## Sprites -/

/-- The sprite with index `i` of OAM. -/
def spriteAt (p : Ppu) (i : Nat) : SelectedSprite where
  rawY := p.oam.get (4 * i)
  rawX := p.oam.get (4 * i + 1)
  tile := p.oam.get (4 * i + 2)
  flags := p.oam.get (4 * i + 3)
  oamIndex := i

/-- The first ten sprites of OAM that cover the line. -/
def selectSpritesForLine (p : Ppu) (line : Nat) : List SelectedSprite :=
  let covers (s : SelectedSprite) : Bool :=
    let top : Int := s.rawY.toNat - 16
    decide (top ≤ line ∧ (line : Int) < top + p.registers.lcdc.objectHeight)
  (((List.range 40).map p.spriteAt).filter covers).take 10

/-- Drawing priority: the smaller X first, then the smaller OAM index. -/
def spriteBefore (s t : SelectedSprite) : Bool :=
  decide (s.rawX < t.rawX) || (s.rawX == t.rawX && decide (s.oamIndex ≤ t.oamIndex))

/-- `sort_by_key(|sprite| (sprite.raw_x, sprite.oam_index))`, a stable sort. -/
def sortedSprites (p : Ppu) : List SelectedSprite := p.selectedSprites.mergeSort spriteBefore

/-- The background or window tile under the left edge of a sprite, and the pixel in
it. -/
def penaltyTile (p : Ppu) (sprite : SelectedSprite) : Nat × Byte :=
  let screenX : Int := sprite.rawX.toNat - 8
  let windowOrigin : Int := p.registers.wx.toNat - 7
  if 8 ≤ sprite.rawX ∧ p.windowVisibleOnLine p.internalLine = true ∧ windowOrigin ≤ screenX then
    let windowX := BitVec.ofNat 8 (screenX - windowOrigin).toNat
    (32 + windowX.toNat / 8, windowX &&& 7)
  else
    let mapX := sprite.rawX + p.registers.scx
    (mapX.toNat / 8, mapX &&& 7)

/-- The penalty so far and the tiles already charged. -/
structure PenaltyState where
  penalty : Nat
  chargedTiles : List Nat

/-- One sprite of the loop of `sprite_mode3_penalty`. -/
def chargeSprite (p : Ppu) (s : PenaltyState) (sprite : SelectedSprite) : PenaltyState :=
  if 168 ≤ sprite.rawX then s
  else
    let tile := (p.penaltyTile sprite).1
    let localX := (p.penaltyTile sprite).2
    if tile ∈ s.chargedTiles then { s with penalty := s.penalty + 6 }
    else
      -- both subtractions saturate
      { penalty := s.penalty + (7 - localX.toNat - 2) + 6
        chargedTiles := tile :: s.chargedTiles }

def spriteMode3Penalty (p : Ppu) : Nat :=
  if p.registers.lcdc.objectsEnabled then
    (p.sortedSprites.foldl p.chargeSprite ⟨0, []⟩).penalty
  else 0

end Ppu

end Pockiva
