import Pockiva.Lib.Checked
import Pockiva.Ppu.Render

/-! # Rendering, with what the source would refuse

The functions of `Render` once more, with every index, every `try_from` and every
arithmetic operation of 16 bits that Rust checks: a failed check is `none`.  None
fails, whatever is in memory and in the registers (`Checked.renderScanline_eq`).
-/
namespace Pockiva

/-- The byte at index `i` of an array. -/
def Bytes.checkedGet {n : Nat} (m : Bytes n) (i : Nat) : Option Byte :=
  if h : i < n then some (m ⟨i, h⟩) else none

theorem Bytes.checkedGet_eq {n : Nat} (m : Bytes n) {i : Nat} (h : i < n) :
    m.checkedGet i = some (m.get i) := by
  rw [checkedGet, dif_pos h, get, dif_pos h]

/-! ## Bounds -/

theorem toNat_and_seven (b : Byte) : (b &&& 7).toNat = b.toNat % 8 := by
  rw [BitVec.toNat_and]
  exact Nat.and_two_pow_sub_one_eq_mod b.toNat 3

theorem tileRowOffset_lt (unsigned : Bool) (tile : Byte) {row : Nat} (h : row < 8) :
    tileRowOffset unsigned tile row + 1 < 0x2000 := by
  have hlt := tile.isLt
  have hint : tile.toInt < 128 := BitVec.toInt_lt
  unfold tileRowOffset
  split <;> omega

theorem decodeTileRow_lt (low high : Byte) (index : Nat) :
    (decodeTileRow low high index).toNat < 4 := by
  unfold decodeTileRow
  dsimp only
  generalize 7 - index = bit
  have h1 : (high >>> bit &&& 1).toNat < 2 := by
    rw [BitVec.toNat_and]
    exact Nat.lt_of_le_of_lt Nat.and_le_right (by decide)
  have h2 : (low >>> bit &&& 1).toNat < 2 := by
    rw [BitVec.toNat_and]
    exact Nat.lt_of_le_of_lt Nat.and_le_right (by decide)
  rw [BitVec.toNat_or]
  refine Nat.or_lt_two_pow (n := 2) ?_ (by omega)
  rw [BitVec.toNat_shiftLeft, Nat.shiftLeft_eq]
  omega

namespace Checked

/-! ## Tiles and palettes -/

/-- A shift of a `u8` by 8 or more is refused. -/
def mapPalette (register colorNumber : Byte) : Option Rgba :=
  if colorNumber.toNat * 2 < 8 then some (Pockiva.mapPalette register colorNumber) else none

def tileRowAddress (unsigned : Bool) (tile : Byte) (row : Nat) : Option Nat :=
  if unsigned then Checked.unsigned 16 ↑(0x8000 + tile.toNat * 16 + row * 2)
  else Checked.unsigned 16 (0x9000 + tile.toInt * 16 + row * 2)

/-- The pixel with index `index` of the array `decode_tile_row` returns. -/
def decodeTileRow (low high : Byte) (index : Nat) : Option Byte :=
  if index < 8 then some (Pockiva.decodeTileRow low high index) else none

/-- The base address of a tile map. -/
def mapBase (mapHigh : Bool) : Nat := if mapHigh then 0x9c00 else 0x9800

def tileColor (p : Ppu) (mapHigh : Bool) (pixelX pixelY : Byte) : Option Byte := do
  let mapOffset := pixelY.toNat / 8 * 32 + pixelX.toNat / 8
  let tile ← p.vram.checkedGet (← unsigned 16 (↑(mapBase mapHigh + mapOffset) - 0x8000))
  let address ← tileRowAddress p.registers.lcdc.tileDataUnsigned tile (pixelY &&& 7).toNat
  let offset ← unsigned 16 (address - 0x8000)
  decodeTileRow (← p.vram.checkedGet offset) (← p.vram.checkedGet (offset + 1))
    (pixelX &&& 7).toNat

/-! ## Background and window -/

def backgroundColorNumbers (p : Ppu) (line : Nat) : Option (Column → Byte) :=
  if p.registers.lcdc.backgroundEnabled then
    tabulate fun x : Column => do
      let mapX := BitVec.ofNat 8 (← unsigned 8 x.val) + p.registers.scx
      tileColor p p.registers.lcdc.backgroundMapHigh mapX (BitVec.ofNat 8 line + p.registers.scy)
  else some fun _ => 0

def backgroundRow (p : Ppu) (line : Nat) : Option RenderedRow := do
  let colors ← backgroundColorNumbers p line
  let rgba ← tabulate fun x => mapPalette p.registers.bgp (colors x)
  return { RenderedRow.white with colors := colors, rgba := rgba }

/-- The window at one column: its color number and color, if it is there. -/
def windowPixel (p : Ppu) (x : Column) : Option (Option (Byte × Rgba)) := do
  let origin ← signed 15 (p.registers.wx.toNat - 7)
  let windowX ← signed 15 ((← signed 15 x.val) - origin)
  if ¬ (0 ≤ windowX ∧ windowX ≤ 255) then return none
  let column := BitVec.ofNat 8 (← unsigned 8 windowX)
  let color ← tileColor p p.registers.lcdc.windowMapHigh column p.windowLine
  return some (color, ← mapPalette p.registers.bgp color)

def drawWindow (p : Ppu) (row : RenderedRow) : Option RenderedRow := do
  let window ← tabulate (windowPixel p)
  return { row with
    colors := fun x => match window x with
      | some (color, _) => color
      | none => row.colors x
    rgba := fun x => match window x with
      | some (_, rgba) => rgba
      | none => row.rgba x
    sources := fun x => if (window x).isSome then .window else row.sources x
    windowDrawn := row.windowDrawn || decide (∃ x, (window x).isSome) }

/-! ## Sprites -/

def spriteAt (p : Ppu) (i : Nat) : Option SelectedSprite := do
  return {
    rawY := ← p.oam.checkedGet (4 * i)
    rawX := ← p.oam.checkedGet (4 * i + 1)
    tile := ← p.oam.checkedGet (4 * i + 2)
    flags := ← p.oam.checkedGet (4 * i + 3)
    oamIndex := ← unsigned 8 i }

/-- The sprites among those with the given indices that cover the line. -/
def coveringSprites (p : Ppu) (line : Nat) : List Nat → Option (List SelectedSprite)
  | [] => some []
  | i :: indices => do
    let sprite ← spriteAt p i
    let top ← signed 15 (sprite.rawY.toNat - 16)
    let bottom ← signed 15 (top + p.registers.lcdc.objectHeight)
    let sprites ← coveringSprites p line indices
    return if top ≤ line ∧ line < bottom then sprite :: sprites else sprites

def selectSpritesForLine (p : Ppu) (line : Nat) : Option (List SelectedSprite) := do
  return (← coveringSprites p line (List.range 40)).take 10

/-- The end of `sprite_color_number`: the pixel `x` of a row of a sprite tile. -/
def spriteTileColor (p : Ppu) (tile : Byte) (row : Nat) (x : Int) : Option Byte := do
  let address ← unsigned 16 ↑(0x8000 + tile.toNat * 16 + row * 2)
  let low ← p.vram.checkedGet (← unsigned 16 (address - 0x8000))
  let high ← p.vram.checkedGet (← unsigned 16 (address - 0x8000 + 1))
  decodeTileRow low high (← unsigned 64 x)

def spriteColorNumber (p : Ppu) (sprite : SelectedSprite) (screenX : Int) (line : Nat) :
    Option Byte := do
  let left ← signed 15 (sprite.rawX.toNat - 8)
  let top ← signed 15 (sprite.rawY.toNat - 16)
  let height : Int := p.registers.lcdc.objectHeight
  let x ← signed 15 (screenX - left)
  let y ← signed 15 (line - top)
  if ¬ (0 ≤ x ∧ x < 8) ∨ ¬ (0 ≤ y ∧ y < height) then return 0
  let x := if sprite.flags &&& 0x20 != 0 then 7 - x else x
  let y := if sprite.flags &&& 0x40 != 0 then height - 1 - y else y
  let half ← if height = 16 then unsigned 8 (y / 8) else some 0
  let row ← if height = 16 then unsigned 8 (y % 8) else unsigned 8 y
  let tile :=
    if height = 16 then (sprite.tile &&& 0xfe) + BitVec.ofNat 8 half else sprite.tile
  spriteTileColor p tile row x

/-- The loop over the sprites at one column. -/
def spritePixel (p : Ppu) (line : Nat) (row : RenderedRow) (x : Column) :
    List SelectedSprite → Option (Option (SelectedSprite × Rgba))
  | [] => some none
  | sprite :: sprites => do
    let color ← spriteColorNumber p sprite (← signed 15 x.val) line
    if color = 0 then spritePixel p line row x sprites
    else if sprite.flags &&& 0x80 != 0 && row.colors x != 0 then return none
    else
      let palette :=
        if sprite.flags &&& 0x10 != 0 then p.registers.obp1 else p.registers.obp0
      return some (sprite, ← mapPalette palette color)

def drawSprites (p : Ppu) (line : Nat) (row : RenderedRow) : Option RenderedRow := do
  let drawn ← tabulate fun x => spritePixel p line row x p.sortedSprites
  return { row with
    rgba := fun x => match drawn x with
      | some (_, rgba) => rgba
      | none => row.rgba x
    sources := fun x => match drawn x with
      | some (sprite, _) => .sprite sprite.oamIndex
      | none => row.sources x
    winningSprites := fun x => match drawn x with
      | some (sprite, _) => some sprite.oamIndex
      | none => row.winningSprites x }

def renderScanline (p : Ppu) (line : Nat) : Option RenderedRow := do
  let row ← backgroundRow p line
  let row ← if p.windowVisibleOnLine line then drawWindow p row else some row
  if p.registers.lcdc.objectsEnabled then drawSprites p line row else some row

/-! ## Nothing is refused -/

theorem mapPalette_eq (register : Byte) {colorNumber : Byte} (h : colorNumber.toNat < 4) :
    mapPalette register colorNumber = some (Pockiva.mapPalette register colorNumber) :=
  if_pos (by omega)

theorem tileRowAddress_eq (unsigned : Bool) (tile : Byte) {row : Nat} (h : row < 8) :
    tileRowAddress unsigned tile row = some (0x8000 + tileRowOffset unsigned tile row) := by
  have hlt := tile.isLt
  have hlow : -128 ≤ tile.toInt := BitVec.le_toInt tile
  have hint : tile.toInt < 128 := BitVec.toInt_lt
  unfold tileRowAddress tileRowOffset
  cases unsigned with
  | true =>
    rw [if_pos rfl, if_pos rfl, Checked.unsigned_natCast (by omega), Nat.add_assoc]
  | false =>
    rw [if_neg (by decide), if_neg (by decide), Checked.unsigned_of_lt (by omega) (by omega)]
    congr 1
    omega

/-- A tile map and the tiles lie in VRAM. -/
theorem tileColor_eq (p : Ppu) (mapHigh : Bool) (pixelX pixelY : Byte) :
    tileColor p mapHigh pixelX pixelY = some (p.tileColor mapHigh pixelX pixelY) := by
  have hx := pixelX.isLt
  have hy := pixelY.isLt
  have hrow : (pixelY &&& 7).toNat < 8 := by rw [toNat_and_seven]; omega
  have hcolumn : (pixelX &&& 7).toNat < 8 := by rw [toNat_and_seven]; omega
  have hmap : unsigned 16 (↑(mapBase mapHigh + (pixelY.toNat / 8 * 32 + pixelX.toNat / 8)) - 0x8000)
      = some ((if mapHigh then 0x1c00 else 0x1800) + pixelY.toNat / 8 * 32 + pixelX.toNat / 8) := by
    unfold mapBase
    split <;> (rw [unsigned_of_lt (by omega) (by omega)]; congr 1; omega)
  have hmapLt : (if mapHigh then 0x1c00 else 0x1800) + pixelY.toNat / 8 * 32 + pixelX.toNat / 8
      < 0x2000 := by split <;> omega
  have hoffset : ∀ n : Nat, n < 0x2000 → unsigned 16 (↑(0x8000 + n) - 0x8000) = some n := by
    intro n hn
    rw [unsigned_of_lt (by omega) (by omega)]
    congr 1
    omega
  simp only [tileColor, hmap, Option.bind_eq_bind, Option.bind_some, Bytes.checkedGet_eq _ hmapLt,
    tileRowAddress_eq _ _ hrow]
  generalize htile : p.vram.get _ = tile
  have hlt := tileRowOffset_lt p.registers.lcdc.tileDataUnsigned tile hrow
  rw [hoffset _ (by omega), Option.bind_some, Bytes.checkedGet_eq _ (by omega), Option.bind_some,
    Bytes.checkedGet_eq _ hlt, Option.bind_some, decodeTileRow, if_pos hcolumn, Ppu.tileColor,
    htile]

theorem column_fits (x : Column) :
    unsigned 8 x.val = some x.val ∧ signed 15 x.val = some ↑x.val := by
  have hx : x.val < 160 := x.isLt
  exact ⟨unsigned_natCast (by omega), signed_of_lt (by omega) (by omega)⟩

theorem tileColor_lt (p : Ppu) (mapHigh : Bool) (pixelX pixelY : Byte) :
    (p.tileColor mapHigh pixelX pixelY).toNat < 4 := decodeTileRow_lt _ _ _

theorem backgroundColorNumbers_eq (p : Ppu) (line : Nat) :
    backgroundColorNumbers p line = some (p.backgroundColorNumbers line) := by
  unfold backgroundColorNumbers
  by_cases henabled : p.registers.lcdc.backgroundEnabled = true
  · rw [if_pos henabled]
    refine tabulate_of_forall fun x => ?_
    rw [(column_fits x).1, Option.bind_eq_bind, Option.bind_some, tileColor_eq,
      Ppu.backgroundColorNumbers, if_pos henabled]
  · rw [if_neg henabled]
    congr 1
    funext x
    rw [Ppu.backgroundColorNumbers, if_neg henabled]

theorem backgroundColorNumbers_lt (p : Ppu) (line : Nat) (x : Column) :
    (p.backgroundColorNumbers line x).toNat < 4 := by
  unfold Ppu.backgroundColorNumbers
  split
  · exact tileColor_lt p _ _ _
  · decide

theorem backgroundRow_eq (p : Ppu) (line : Nat) :
    backgroundRow p line = some (p.backgroundRow line) := by
  have hpalette : tabulate (fun x => mapPalette p.registers.bgp (p.backgroundColorNumbers line x)) =
      some fun x => Pockiva.mapPalette p.registers.bgp (p.backgroundColorNumbers line x) :=
    tabulate_of_forall fun x => mapPalette_eq _ (backgroundColorNumbers_lt p line x)
  rw [backgroundRow, backgroundColorNumbers_eq, Option.bind_eq_bind, Option.bind_some, hpalette]
  rfl

theorem windowPixel_eq (p : Ppu) (x : Column) :
    windowPixel p x = some ((p.windowColumn x).map fun windowX =>
      (p.tileColor p.registers.lcdc.windowMapHigh windowX p.windowLine,
        Pockiva.mapPalette p.registers.bgp
          (p.tileColor p.registers.lcdc.windowMapHigh windowX p.windowLine))) := by
  have hx : x.val < 160 := x.isLt
  have hwx := p.registers.wx.isLt
  have horigin : signed 15 ((p.registers.wx.toNat : Int) - 7) =
      some ((p.registers.wx.toNat : Int) - 7) := signed_of_lt (by omega) (by omega)
  have hwindowX : signed 15 ((x.val : Int) - (p.registers.wx.toNat - 7)) =
      some ((x.val : Int) - (p.registers.wx.toNat - 7)) := signed_of_lt (by omega) (by omega)
  simp only [windowPixel, Ppu.windowColumn, horigin, (column_fits x).2, hwindowX,
    Option.bind_eq_bind, Option.bind_some]
  by_cases hin : 0 ≤ (x.val : Int) - (p.registers.wx.toNat - 7) ∧
      (x.val : Int) - (p.registers.wx.toNat - 7) ≤ 255
  · have hfits : unsigned 8 ((x.val : Int) - (p.registers.wx.toNat - 7)) =
        some ((x.val : Int) - (p.registers.wx.toNat - 7)).toNat :=
      unsigned_of_lt hin.1 (by omega)
    rw [if_neg (not_not_intro hin), if_pos hin, hfits]
    simp only [Option.pure_def, Option.bind_some, tileColor_eq,
      mapPalette_eq _ (tileColor_lt _ _ _ _), Option.map_some]
  · rw [if_pos hin, if_neg hin]
    rfl

theorem drawWindow_eq (p : Ppu) (row : RenderedRow) :
    drawWindow p row = some (p.drawWindow row) := by
  rw [drawWindow, tabulate_of_forall (windowPixel_eq p), Option.bind_eq_bind, Option.bind_some,
    Option.pure_def]
  congr 1
  simp only [Ppu.drawWindow, Option.isSome_map, RenderedRow.mk.injEq, and_true]
  refine ⟨?_, ?_⟩
  · funext x
    cases p.windowColumn x <;> rfl
  · funext x
    cases p.windowColumn x <;> rfl

theorem objectHeight_cases (r : Lcdc) : r.objectHeight = 8 ∨ r.objectHeight = 16 := by
  unfold Lcdc.objectHeight
  split
  · exact .inr rfl
  · exact .inl rfl

/-- An address in VRAM less the start of VRAM. -/
theorem offset_fits {n : Nat} (h : n < 0x2000) : unsigned 16 (↑(0x8000 + n) - 0x8000) = some n := by
  rw [unsigned_of_lt (by omega) (by omega)]
  congr 1
  omega

theorem spriteTileColor_eq (p : Ppu) (tile : Byte) {row : Nat} (hrow : row < 8) {x : Int}
    (hx : 0 ≤ x ∧ x < 8) :
    spriteTileColor p tile row x =
      some (Pockiva.decodeTileRow (p.vram.get (tile.toNat * 16 + row * 2))
        (p.vram.get (tile.toNat * 16 + row * 2 + 1)) x.toNat) := by
  have htile := tile.isLt
  have hoffset : tile.toNat * 16 + row * 2 < 0x1fff := by omega
  rw [spriteTileColor, Nat.add_assoc]
  generalize tile.toNat * 16 + row * 2 = offset at hoffset ⊢
  have haddress : unsigned 16 ↑(0x8000 + offset) = some (0x8000 + offset) :=
    unsigned_natCast (by omega)
  have hlow := offset_fits (n := offset) (by omega)
  have hhigh : unsigned 16 (↑(0x8000 + offset) - 0x8000 + 1) = some (offset + 1) := by
    have heq :
        ((0x8000 + offset : Nat) : Int) - 0x8000 + 1 = ↑(0x8000 + (offset + 1)) - 0x8000 := by
      omega
    rw [heq, offset_fits (by omega)]
  have hcolumn : unsigned 64 x = some x.toNat := unsigned_of_lt hx.1 (by omega)
  have hindex : x.toNat < 8 := by omega
  have hget : p.vram.checkedGet offset = some (p.vram.get offset) :=
    p.vram.checkedGet_eq (by omega)
  have hgetHigh : p.vram.checkedGet (offset + 1) = some (p.vram.get (offset + 1)) :=
    p.vram.checkedGet_eq (by omega)
  rw [haddress, Option.bind_eq_bind, Option.bind_some, hlow, Option.bind_eq_bind,
    Option.bind_some, hget, Option.bind_some, hhigh, Option.bind_some, hgetHigh,
    Option.bind_some, hcolumn, Option.bind_some, decodeTileRow, if_pos hindex]

theorem spriteColorNumber_eq (p : Ppu) (sprite : SelectedSprite) (x : Column) {line : Nat}
    (hline : line < 144) :
    spriteColorNumber p sprite x.val line = some (p.spriteColorNumber sprite x.val line) := by
  have hx : x.val < 160 := x.isLt
  have hrawX := sprite.rawX.isLt
  have hrawY := sprite.rawY.isLt
  have hheight := objectHeight_cases p.registers.lcdc
  have hleft : signed 15 ((sprite.rawX.toNat : Int) - 8) = some ((sprite.rawX.toNat : Int) - 8) :=
    signed_of_lt (by omega) (by omega)
  have htop : signed 15 ((sprite.rawY.toNat : Int) - 16) = some ((sprite.rawY.toNat : Int) - 16) :=
    signed_of_lt (by omega) (by omega)
  have hcolumn : signed 15 ((x.val : Int) - ((sprite.rawX.toNat : Int) - 8)) =
      some ((x.val : Int) - ((sprite.rawX.toNat : Int) - 8)) := signed_of_lt (by omega) (by omega)
  have hrow : signed 15 ((line : Int) - ((sprite.rawY.toNat : Int) - 16)) =
      some ((line : Int) - ((sprite.rawY.toNat : Int) - 16)) := signed_of_lt (by omega) (by omega)
  simp only [spriteColorNumber, Ppu.spriteColorNumber, hleft, htop, hcolumn, hrow,
    Option.bind_eq_bind, Option.bind_some]
  generalize (x.val : Int) - ((sprite.rawX.toNat : Int) - 8) = column
  generalize (line : Int) - ((sprite.rawY.toNat : Int) - 16) = row
  by_cases hout : ¬ (0 ≤ column ∧ column < 8) ∨
      ¬ (0 ≤ row ∧ row < (p.registers.lcdc.objectHeight : Int))
  · rw [if_pos hout, if_pos hout]
    rfl
  rw [if_neg hout, if_neg hout]
  have hcolumn' : 0 ≤ (if sprite.flags &&& 0x20 != 0 then 7 - column else column) ∧
      (if sprite.flags &&& 0x20 != 0 then 7 - column else column) < 8 := by
    split <;> omega
  have hrow' :
      0 ≤ (if sprite.flags &&& 0x40 != 0 then (p.registers.lcdc.objectHeight : Int) - 1 - row
        else row) ∧
      (if sprite.flags &&& 0x40 != 0 then (p.registers.lcdc.objectHeight : Int) - 1 - row
        else row) < p.registers.lcdc.objectHeight := by
    split <;> omega
  generalize (if sprite.flags &&& 0x20 != 0 then 7 - column else column) = flippedX at hcolumn' ⊢
  generalize (if sprite.flags &&& 0x40 != 0 then (p.registers.lcdc.objectHeight : Int) - 1 - row
    else row) = flippedY at hrow' ⊢
  rcases hheight with hheight | hheight
  · have hne : ¬ ((p.registers.lcdc.objectHeight : Int) = 16) := by omega
    have hfits : unsigned 8 flippedY = some flippedY.toNat := unsigned_of_lt (by omega) (by omega)
    rw [if_neg hne, if_neg hne, hfits, Option.bind_some, if_neg hne]
    have hlt : flippedY.toNat < 8 := by omega
    rw [spriteTileColor_eq p sprite.tile hlt hcolumn', if_neg hne, if_neg hne]
  · have heq : (p.registers.lcdc.objectHeight : Int) = 16 := by omega
    have hhalf : unsigned 8 (flippedY / 8) = some (flippedY / 8).toNat :=
      unsigned_of_lt (by omega) (by omega)
    have hfits : unsigned 8 (flippedY % 8) = some (flippedY % 8).toNat :=
      unsigned_of_lt (by omega) (by omega)
    have hofInt : BitVec.ofInt 8 (flippedY / 8) = BitVec.ofNat 8 (flippedY / 8).toNat := by
      rw [← BitVec.ofInt_natCast, Int.toNat_of_nonneg (by omega)]
    rw [if_pos heq, hhalf, Option.bind_some, if_pos heq, hfits, Option.bind_some, if_pos heq,
      hofInt]
    have hlt : (flippedY % 8).toNat < 8 := by omega
    rw [spriteTileColor_eq p _ hlt hcolumn', if_pos heq, if_pos heq]

theorem spriteColorNumber_lt (p : Ppu) (sprite : SelectedSprite) (x : Int) (line : Nat) :
    (p.spriteColorNumber sprite x line).toNat < 4 := by
  unfold Ppu.spriteColorNumber
  dsimp only
  split
  · decide
  · exact decodeTileRow_lt _ _ _

/-- The loop ends at the first sprite with an opaque pixel. -/
theorem spritePixel_eq (p : Ppu) {line : Nat} (hline : line < 144) (row : RenderedRow) (x : Column)
    (sprites : List SelectedSprite) :
    spritePixel p line row x sprites =
      some ((sprites.find? fun sprite => p.spriteColorNumber sprite x.val line != 0).bind
        fun sprite =>
          if sprite.flags &&& 0x80 != 0 && row.colors x != 0 then none
          else some (sprite, Pockiva.mapPalette
            (if sprite.flags &&& 0x10 != 0 then p.registers.obp1 else p.registers.obp0)
            (p.spriteColorNumber sprite x.val line))) := by
  induction sprites with
  | nil => rfl
  | cons sprite sprites ih =>
    rw [spritePixel, (column_fits x).2, Option.bind_eq_bind, Option.bind_some,
      spriteColorNumber_eq p sprite x hline, Option.bind_eq_bind, Option.bind_some]
    by_cases hclear : p.spriteColorNumber sprite x.val line = 0
    · rw [if_pos hclear, ih, List.find?_cons_of_neg (by simpa using hclear)]
    · rw [if_neg hclear, List.find?_cons_of_pos (by simpa using hclear), Option.bind_some]
      split
      · rfl
      · dsimp only
        rw [mapPalette_eq _ (spriteColorNumber_lt p sprite x.val line)]
        rfl

theorem drawSprites_eq (p : Ppu) {line : Nat} (hline : line < 144) (row : RenderedRow) :
    drawSprites p line row = some (p.drawSprites line row) := by
  have hwinning : ∀ x, p.winningSprite line row x = (p.decidingSprite line x).bind fun sprite =>
      if sprite.flags &&& 0x80 != 0 && row.colors x != 0 then none else some sprite := by
    intro x
    unfold Ppu.winningSprite
    cases p.decidingSprite line x <;> rfl
  have htable := tabulate_of_forall fun x => spritePixel_eq p hline row x p.sortedSprites
  rw [drawSprites, htable, Option.bind_eq_bind, Option.bind_some, Option.pure_def]
  congr 1
  unfold Ppu.drawSprites
  simp only [hwinning, RenderedRow.mk.injEq, and_true, true_and]
  refine ⟨?_, ?_, ?_⟩ <;> funext x <;>
    · show _ = _
      unfold Ppu.decidingSprite
      cases p.sortedSprites.find? fun sprite => p.spriteColorNumber sprite x.val line != 0 with
      | none => rfl
      | some sprite =>
        by_cases hhidden : (sprite.flags &&& 0x80 != 0 && row.colors x != 0) = true
        · simp only [Option.bind_some, if_pos hhidden]
        · simp only [Option.bind_some, if_neg hhidden]

/-- **Rendering a visible line never fails**, whatever is in memory and registers. -/
theorem renderScanline_eq (p : Ppu) {line : Nat} (hline : line < 144) :
    renderScanline p line = some (p.renderScanline line) := by
  rw [renderScanline, backgroundRow_eq, Option.bind_eq_bind, Option.bind_some, Ppu.renderScanline]
  dsimp only
  by_cases hwindow : p.windowVisibleOnLine line = true
  · rw [if_pos hwindow, if_pos hwindow, drawWindow_eq, Option.bind_some]
    split
    · exact drawSprites_eq p hline _
    · rfl
  · rw [if_neg hwindow, if_neg hwindow, Option.bind_some]
    split
    · exact drawSprites_eq p hline _
    · rfl

/-! ## Selecting sprites -/

theorem spriteAt_eq (p : Ppu) {i : Nat} (hi : i < 40) : spriteAt p i = some (p.spriteAt i) := by
  rw [spriteAt, Bytes.checkedGet_eq _ (by omega), Bytes.checkedGet_eq _ (by omega),
    Bytes.checkedGet_eq _ (by omega), Bytes.checkedGet_eq _ (by omega),
    unsigned_natCast (by omega)]
  rfl

theorem coveringSprites_eq (p : Ppu) (line : Nat) {indices : List Nat}
    (h : ∀ i ∈ indices, i < 40) :
    coveringSprites p line indices = some ((indices.map p.spriteAt).filter fun s =>
      decide ((s.rawY.toNat : Int) - 16 ≤ line ∧
        (line : Int) < s.rawY.toNat - 16 + p.registers.lcdc.objectHeight)) := by
  induction indices with
  | nil => rfl
  | cons i indices ih =>
    have hrawY := (p.spriteAt i).rawY.isLt
    have hheight := objectHeight_cases p.registers.lcdc
    have htop : signed 15 (((p.spriteAt i).rawY.toNat : Int) - 16) =
        some (((p.spriteAt i).rawY.toNat : Int) - 16) := signed_of_lt (by omega) (by omega)
    have hbottom : signed 15 (((p.spriteAt i).rawY.toNat : Int) - 16 +
          p.registers.lcdc.objectHeight) =
        some (((p.spriteAt i).rawY.toNat : Int) - 16 + p.registers.lcdc.objectHeight) :=
      signed_of_lt (by omega) (by omega)
    rw [coveringSprites, spriteAt_eq p (h i List.mem_cons_self), Option.bind_eq_bind,
      Option.bind_some, htop, Option.bind_eq_bind, Option.bind_some, hbottom, Option.bind_eq_bind,
      Option.bind_some, ih fun j hj => h j (List.mem_cons_of_mem _ hj), Option.bind_some,
      List.map_cons, List.filter_cons, Option.pure_def]
    simp only [decide_eq_true_eq]

theorem selectSpritesForLine_eq (p : Ppu) (line : Nat) :
    selectSpritesForLine p line = some (p.selectSpritesForLine line) := by
  rw [selectSpritesForLine, coveringSprites_eq p line fun i hi => List.mem_range.mp hi]
  rfl

end Checked

end Pockiva
