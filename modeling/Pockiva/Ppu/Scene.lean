import Pockiva.Lib.Selection
import Pockiva.Ppu.Render

/-! # What a line of the screen shows

A line as the DMG defines it, pixel by pixel and without loops and machine words:
the background, a plane of 256 by 256 pixels; the window over it; and at most ten
objects.  `Scene.Shows` relates a column to the pixel that is there.
-/
namespace Pockiva

/-- What a line is made of, besides its objects. -/
structure Scene where
  /-- The bytes of VRAM. -/
  vram : Nat → Nat
  backgroundOn : Bool
  windowOn : Bool
  objectsOn : Bool
  objectHeight : Nat
  tileDataUnsigned : Bool
  backgroundMapHigh : Bool
  windowMapHigh : Bool
  scrollX : Nat
  scrollY : Nat
  windowX : Nat
  windowY : Nat
  /-- The row of the window that is next. -/
  windowRow : Nat
  backgroundPalette : Nat
  objectPalette0 : Nat
  objectPalette1 : Nat

/-- An object, four bytes of OAM. -/
structure DisplayObject where
  y : Nat
  x : Nat
  tile : Nat
  behindBackground : Bool
  flipY : Bool
  flipX : Bool
  secondPalette : Bool
  index : Nat
deriving DecidableEq

/-- The object with number `i` of OAM. -/
def DisplayObject.ofOam (oam : Nat → Nat) (i : Nat) : DisplayObject where
  y := oam (4 * i)
  x := oam (4 * i + 1)
  tile := oam (4 * i + 2)
  behindBackground := (oam (4 * i + 3)).testBit 7
  flipY := (oam (4 * i + 3)).testBit 6
  flipX := (oam (4 * i + 3)).testBit 5
  secondPalette := (oam (4 * i + 3)).testBit 4
  index := i

/-- The object reaches the line. -/
def DisplayObject.Covers (o : DisplayObject) (height line : Nat) : Prop :=
  o.y ≤ line + 16 ∧ line + 16 < o.y + height

instance (o : DisplayObject) (height line : Nat) : Decidable (o.Covers height line) :=
  inferInstanceAs (Decidable (_ ∧ _))

/-- The objects of a line: the first ten in OAM that reach it. -/
def ObjectOnLine (oam : Nat → Nat) (height line : Nat) (o : DisplayObject) : Prop :=
  o.index < 40 ∧ o = .ofOam oam o.index ∧ o.Covers height line ∧
    (List.range o.index).countP
      (fun j => decide ((DisplayObject.ofOam oam j).Covers height line)) < 10

/-- The shade of a color number under a palette. -/
def shadeOf (palette color : Nat) : Nat := palette / 4 ^ color % 4

/-- From white to black. -/
def Rgba.ofShade (shade : Nat) : Rgba := .gray (BitVec.ofNat 8 (255 - 85 * shade))

/-- One pixel of a line. -/
structure Pixel where
  /-- The color number of background or window. -/
  color : Nat
  rgba : Rgba
  source : PixelSource
  /-- The object that is shown. -/
  object : Option Nat

namespace Scene

/-- The pixel in a column of the eight whose two bits are in the bytes at `offset`. -/
def rowPixel (s : Scene) (offset column : Nat) : Nat :=
  2 * ((s.vram (offset + 1)).testBit (7 - column)).toNat
    + ((s.vram offset).testBit (7 - column)).toNat

/-- Where the 16 bytes of a tile of background or window are: in signed addressing the tiles
0 to 127 lie above 128 to 255. -/
def tileOffset (s : Scene) (tile : Nat) : Nat :=
  if s.tileDataUnsigned ∨ 128 ≤ tile then 16 * tile else 0x1000 + 16 * tile

/-- The pixel at the coordinates `x` and `y` of a tile map. -/
def mapPixel (s : Scene) (mapHigh : Bool) (x y : Nat) : Nat :=
  let tile := s.vram ((if mapHigh then 0x1c00 else 0x1800) + 32 * (y / 8) + x / 8)
  s.rowPixel (s.tileOffset tile + 2 * (y % 8)) (x % 8)

/-- The window covers the column. -/
def WindowCovers (s : Scene) (line x : Nat) : Prop :=
  s.backgroundOn ∧ s.windowOn ∧ s.windowY ≤ line ∧ s.windowX ≤ 166 ∧ s.windowX ≤ x + 7

instance (s : Scene) (line x : Nat) : Decidable (s.WindowCovers line x) :=
  inferInstanceAs (Decidable (_ ∧ _ ∧ _ ∧ _ ∧ _))

/-- The color number of window or background at a column. -/
def layerColor (s : Scene) (line x : Nat) : Nat :=
  if s.WindowCovers line x then s.mapPixel s.windowMapHigh (x + 7 - s.windowX) s.windowRow
  else if s.backgroundOn then
    s.mapPixel s.backgroundMapHigh ((x + s.scrollX) % 256) ((line + s.scrollY) % 256)
  else 0

/-- The color number of an object at a column; 0 is transparent.  The tiles of a tall object
are a pair, the even one above. -/
def objectColor (s : Scene) (line x : Nat) (o : DisplayObject) : Nat :=
  if o.Covers s.objectHeight line ∧ o.x ≤ x + 8 ∧ x < o.x then
    let column := if o.flipX then 7 - (x + 8 - o.x) else x + 8 - o.x
    let row := if o.flipY then s.objectHeight - 1 - (line + 16 - o.y) else line + 16 - o.y
    let tile := if s.objectHeight = 16 then o.tile - o.tile % 2 else o.tile
    s.rowPixel (16 * tile + 2 * row) column
  else 0

/-- Among the objects, the one in front of all others at a column: of those that are not
transparent there, the one with the least X, and with the least number among these. -/
structure Foremost (s : Scene) (objects : DisplayObject → Prop) (line x : Nat)
    (o : DisplayObject) : Prop where
  mem : objects o
  opaqueThere : s.objectColor line x o ≠ 0
  first : ∀ o', objects o' → s.objectColor line x o' ≠ 0 →
    o.x < o'.x ∨ o.x = o'.x ∧ o.index ≤ o'.index

/-- The object is hidden by background or window. -/
def Hides (s : Scene) (line x : Nat) (o : DisplayObject) : Prop :=
  o.behindBackground ∧ s.layerColor line x ≠ 0

/-- **The pixel at a column.**  The foremost object alone decides whether one is shown. -/
inductive Shows (s : Scene) (objects : DisplayObject → Prop) (line x : Nat) : Pixel → Prop where
  | object (o : DisplayObject) (hon : s.objectsOn) (hforemost : s.Foremost objects line x o)
      (hshown : ¬ s.Hides line x o) :
      Shows s objects line x
        { color := s.layerColor line x
          rgba := .ofShade (shadeOf
            (if o.secondPalette then s.objectPalette1 else s.objectPalette0)
            (s.objectColor line x o))
          source := .sprite o.index
          object := some o.index }
  | layer (hnone : s.objectsOn → ∀ o, s.Foremost objects line x o → s.Hides line x o) :
      Shows s objects line x
        { color := s.layerColor line x
          rgba := .ofShade (shadeOf s.backgroundPalette (s.layerColor line x))
          source := if s.WindowCovers line x then .window else .background
          object := none }

end Scene

namespace Ppu

/-- The scene of a PPU. -/
def scene (p : Ppu) : Scene where
  vram := fun i => (p.vram.get i).toNat
  backgroundOn := p.registers.lcdc.backgroundEnabled
  windowOn := p.registers.lcdc.windowEnabled
  objectsOn := p.registers.lcdc.objectsEnabled
  objectHeight := p.registers.lcdc.objectHeight
  tileDataUnsigned := p.registers.lcdc.tileDataUnsigned
  backgroundMapHigh := p.registers.lcdc.backgroundMapHigh
  windowMapHigh := p.registers.lcdc.windowMapHigh
  scrollX := p.registers.scx.toNat
  scrollY := p.registers.scy.toNat
  windowX := p.registers.wx.toNat
  windowY := p.registers.wy.toNat
  windowRow := p.windowLine.toNat
  backgroundPalette := p.registers.bgp.toNat
  objectPalette0 := p.registers.obp0.toNat
  objectPalette1 := p.registers.obp1.toNat

/-- The objects of the line. -/
def Displays (p : Ppu) (line : Nat) : DisplayObject → Prop :=
  ObjectOnLine (fun i => (p.oam.get i).toNat) p.registers.lcdc.objectHeight line

end Ppu

/-- The pixel of a row at a column. -/
def RenderedRow.pixel (row : RenderedRow) (x : Column) : Pixel where
  color := (row.colors x).toNat
  rgba := row.rgba x
  source := row.sources x
  object := row.winningSprites x

end Pockiva
