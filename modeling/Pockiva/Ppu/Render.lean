import Pockiva.Ppu.State

/-! # Rendering one line

The background, the window and the sprites of a line, as the fetcher of the
source draws them into arrays of 160 pixels.
-/
namespace Pockiva

/-- One pixel, `[u8; 4]`. -/
structure Rgba where
  red : Byte
  green : Byte
  blue : Byte
  alpha : Byte
deriving DecidableEq, Repr

namespace Rgba

def gray (level : Byte) : Rgba := ⟨level, level, level, 0xff⟩

def white : Rgba := gray 0xff

/-- The byte of the pixel in channel `channel`. -/
def get (pixel : Rgba) (channel : Nat) : Byte :=
  match channel with
  | 0 => pixel.red
  | 1 => pixel.green
  | 2 => pixel.blue
  | _ => pixel.alpha

end Rgba

/-- `DMG_SHADES`. -/
def dmgShade (shade : Byte) : Rgba :=
  match shade.toNat with
  | 0 => .gray 0xff
  | 1 => .gray 0xaa
  | 2 => .gray 0x55
  | _ => .gray 0x00

def mapPalette (register colorNumber : Byte) : Rgba :=
  dmgShade ((register >>> (colorNumber.toNat * 2)) &&& 0x03)

inductive PixelSource where
  | background
  | window
  | sprite (oamIndex : Nat)
deriving DecidableEq, Repr

/-- A column of the screen. -/
abbrev Column := Fin screenWidth

structure RenderedRow where
  rgba : Column → Rgba
  colors : Column → Byte
  sources : Column → PixelSource
  winningSprites : Column → Option Nat
  windowDrawn : Bool

def RenderedRow.white : RenderedRow where
  rgba := fun _ => .white
  colors := fun _ => 0
  sources := fun _ => .background
  winningSprites := fun _ => none
  windowDrawn := false

/-- The offset in VRAM of a row of a tile. -/
def tileRowOffset (unsigned : Bool) (tile : Byte) (row : Nat) : Nat :=
  if unsigned then tile.toNat * 16 + row * 2
  else (0x1000 + tile.toInt * 16 + row * 2).toNat

/-- The pixel with index `index` of `decode_tile_row`. -/
def decodeTileRow (low high : Byte) (index : Nat) : Byte :=
  let bit := 7 - index
  (((high >>> bit) &&& 1) <<< 1) ||| ((low >>> bit) &&& 1)

namespace Ppu

/-- The color number of a pixel of a tile map; `mapHigh` selects 9C00 over 9800. -/
def tileColor (p : Ppu) (mapHigh : Bool) (pixelX pixelY : Byte) : Byte :=
  let mapOffset := (if mapHigh then 0x1c00 else 0x1800) + pixelY.toNat / 8 * 32 + pixelX.toNat / 8
  let tile := p.vram.get mapOffset
  let offset := tileRowOffset p.registers.lcdc.tileDataUnsigned tile (pixelY &&& 7).toNat
  decodeTileRow (p.vram.get offset) (p.vram.get (offset + 1)) (pixelX &&& 7).toNat

def backgroundColorNumbers (p : Ppu) (line : Nat) (x : Column) : Byte :=
  if p.registers.lcdc.backgroundEnabled then
    p.tileColor p.registers.lcdc.backgroundMapHigh (BitVec.ofNat 8 x.val + p.registers.scx)
      (BitVec.ofNat 8 line + p.registers.scy)
  else 0

/-- The column of the window shown at screen column `x`, if any. -/
def windowColumn (p : Ppu) (x : Column) : Option Byte :=
  let windowX : Int := x.val - (p.registers.wx.toNat - 7 : Int)
  if 0 ≤ windowX ∧ windowX ≤ 255 then some (BitVec.ofNat 8 windowX.toNat) else none

/-- The row before window and sprites. -/
def backgroundRow (p : Ppu) (line : Nat) : RenderedRow :=
  { RenderedRow.white with
    colors := p.backgroundColorNumbers line
    rgba := fun x => mapPalette p.registers.bgp (p.backgroundColorNumbers line x) }

/-- The window over a row. -/
def drawWindow (p : Ppu) (row : RenderedRow) : RenderedRow :=
  let color (windowX : Byte) := p.tileColor p.registers.lcdc.windowMapHigh windowX p.windowLine
  { row with
    colors := fun x => match p.windowColumn x with
      | some windowX => color windowX
      | none => row.colors x
    rgba := fun x => match p.windowColumn x with
      | some windowX => mapPalette p.registers.bgp (color windowX)
      | none => row.rgba x
    sources := fun x => if (p.windowColumn x).isSome then .window else row.sources x
    windowDrawn := row.windowDrawn || decide (∃ x, (p.windowColumn x).isSome) }

def spriteColorNumber (p : Ppu) (sprite : SelectedSprite) (screenX : Int) (line : Nat) : Byte :=
  let left : Int := sprite.rawX.toNat - 8
  let top : Int := sprite.rawY.toNat - 16
  let height : Int := p.registers.lcdc.objectHeight
  let x := screenX - left
  let y := line - top
  if ¬ (0 ≤ x ∧ x < 8) ∨ ¬ (0 ≤ y ∧ y < height) then 0
  else
    let x := if sprite.flags &&& 0x20 != 0 then 7 - x else x
    let y := if sprite.flags &&& 0x40 != 0 then height - 1 - y else y
    let tile :=
      if height = 16 then (sprite.tile &&& 0xfe) + BitVec.ofInt 8 (y / 8) else sprite.tile
    let row := if height = 16 then (y % 8).toNat else y.toNat
    let offset := tile.toNat * 16 + row * 2
    decodeTileRow (p.vram.get offset) (p.vram.get (offset + 1)) x.toNat

/-- The first sprite with an opaque pixel in the column, which decides it: the
loop goes on past transparent pixels only. -/
def decidingSprite (p : Ppu) (line : Nat) (x : Column) : Option SelectedSprite :=
  p.sortedSprites.find? fun sprite => p.spriteColorNumber sprite x.val line != 0

/-- The sprite that is drawn in the column: none if the deciding sprite is behind
a background pixel of another color than 0. -/
def winningSprite (p : Ppu) (line : Nat) (row : RenderedRow) (x : Column) :
    Option SelectedSprite :=
  match p.decidingSprite line x with
  | some sprite => if sprite.flags &&& 0x80 != 0 && row.colors x != 0 then none else some sprite
  | none => none

/-- The sprites over a row. -/
def drawSprites (p : Ppu) (line : Nat) (row : RenderedRow) : RenderedRow :=
  { row with
    rgba := fun x => match p.winningSprite line row x with
      | some sprite =>
        mapPalette (if sprite.flags &&& 0x10 != 0 then p.registers.obp1 else p.registers.obp0)
          (p.spriteColorNumber sprite x.val line)
      | none => row.rgba x
    sources := fun x => match p.winningSprite line row x with
      | some sprite => .sprite sprite.oamIndex
      | none => row.sources x
    winningSprites := fun x => match p.winningSprite line row x with
      | some sprite => some sprite.oamIndex
      | none => row.winningSprites x }

def renderScanline (p : Ppu) (line : Nat) : RenderedRow :=
  let row := p.backgroundRow line
  let row := if p.windowVisibleOnLine line then p.drawWindow row else row
  if p.registers.lcdc.objectsEnabled then p.drawSprites line row else row

/-- The framebuffer with row `line` replaced. -/
def copyRow (framebuffer : Bytes frameRgbaLen) (line : Nat) (row : RenderedRow) :
    Bytes frameRgbaLen := fun i =>
  let start := line * screenWidth * 4
  if h : start ≤ i.val ∧ i.val < start + screenWidth * 4 then
    (row.rgba ⟨(i.val - start) / 4, by omega⟩).get ((i.val - start) % 4)
  else framebuffer i

end Ppu

end Pockiva
