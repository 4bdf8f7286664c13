import Pockiva.Ppu.CheckedRender
import Pockiva.Ppu.Scene

/-! # A rendered line is what the scene shows

Pixel by pixel, for every content of memory and registers: first background and window,
then the sprites over them.
-/
namespace Pockiva

theorem and_twoPow_ne_zero (b : Byte) {i : Nat} (hi : i < 8) :
    (b &&& BitVec.twoPow 8 i != 0) = b.getLsbD i := by
  rw [BitVec.and_twoPow]
  cases hb : b.getLsbD i with
  | false => rfl
  | true =>
    rw [if_pos rfl, bne_iff_ne]
    intro hzero
    have hbit := congrArg (fun w : Byte => w.getLsbD i) hzero
    simp [hi] at hbit

/-- A pixel of a row of eight, as a number. -/
theorem decodeTileRow_toNat (low high : Byte) (index : Nat) :
    (decodeTileRow low high index).toNat =
      2 * (high.toNat.testBit (7 - index)).toNat + (low.toNat.testBit (7 - index)).toNat := by
  have hbit : ∀ b : Byte,
      (b >>> (7 - index) &&& 1).toNat = (b.toNat.testBit (7 - index)).toNat := by
    intro b
    rw [BitVec.toNat_and, BitVec.toNat_ushiftRight, Nat.toNat_testBit, Nat.shiftRight_eq_div_pow]
    exact Nat.and_two_pow_sub_one_eq_mod _ 1
  have hhigh := Bool.toNat_lt (high.toNat.testBit (7 - index))
  have hlow := Bool.toNat_lt (low.toNat.testBit (7 - index))
  unfold decodeTileRow
  dsimp only
  rw [BitVec.toNat_or, BitVec.toNat_shiftLeft, hbit, hbit, Nat.shiftLeft_eq, Nat.pow_one,
    Nat.mod_eq_of_lt (by omega), Nat.mul_comm]
  exact (Nat.two_pow_add_eq_or_of_lt (i := 1) hlow _).symm

/-- A color under a palette. -/
theorem mapPalette_ofShade (register color : Byte) :
    mapPalette register color = .ofShade (shadeOf register.toNat color.toNat) := by
  have hshade : ((register >>> (color.toNat * 2)) &&& 0x03).toNat =
      shadeOf register.toNat color.toNat := by
    rw [BitVec.toNat_and, BitVec.toNat_ushiftRight, Nat.shiftRight_eq_div_pow, Nat.mul_comm,
      Nat.pow_mul]
    exact Nat.and_two_pow_sub_one_eq_mod _ 2
  have hlt : shadeOf register.toNat color.toNat < 4 := Nat.mod_lt _ (by decide)
  rw [mapPalette, dmgShade, hshade]
  generalize shadeOf register.toNat color.toNat = shade at hlt
  match shade, hlt with
  | 0, _ => rfl
  | 1, _ => rfl
  | 2, _ => rfl
  | 3, _ => rfl

/-- The object a selected sprite is. -/
def SelectedSprite.toObject (s : SelectedSprite) : DisplayObject where
  y := s.rawY.toNat
  x := s.rawX.toNat
  tile := s.tile.toNat
  behindBackground := s.flags.getLsbD 7
  flipY := s.flags.getLsbD 6
  flipX := s.flags.getLsbD 5
  secondPalette := s.flags.getLsbD 4
  index := s.oamIndex

namespace Ppu

/-! ## Background and window -/

theorem tileRowOffset_toNat (p : Ppu) (tile : Byte) (row : Nat) :
    tileRowOffset p.registers.lcdc.tileDataUnsigned tile row =
      p.scene.tileOffset tile.toNat + 2 * row := by
  have hlt := tile.isLt
  unfold tileRowOffset Scene.tileOffset
  show _ = (if p.registers.lcdc.tileDataUnsigned = true ∨ 128 ≤ tile.toNat then _ else _) + _
  by_cases hunsigned : p.registers.lcdc.tileDataUnsigned = true
  · rw [if_pos hunsigned, if_pos (.inl hunsigned)]
    omega
  · rw [if_neg hunsigned]
    by_cases hhigh : 128 ≤ tile.toNat
    · have hint : tile.toInt = (tile.toNat : Int) - 256 := by
        rw [BitVec.toInt_eq_toNat_cond, if_neg (by omega)]
        rfl
      rw [if_pos (.inr hhigh), hint]
      omega
    · have hint : tile.toInt = tile.toNat := by
        rw [BitVec.toInt_eq_toNat_cond, if_pos (by omega)]
      rw [if_neg (not_or_intro hunsigned hhigh), hint]
      omega

/-- The pixel of a tile map. -/
theorem tileColor_toNat (p : Ppu) (mapHigh : Bool) (pixelX pixelY : Byte) :
    (p.tileColor mapHigh pixelX pixelY).toNat =
      p.scene.mapPixel mapHigh pixelX.toNat pixelY.toNat := by
  unfold tileColor Scene.mapPixel Scene.rowPixel
  dsimp only
  rw [decodeTileRow_toNat, tileRowOffset_toNat, toNat_and_seven, toNat_and_seven,
    Nat.mul_comm (pixelY.toNat / 8) 32]
  rfl

theorem backgroundColorNumbers_toNat (p : Ppu) {line : Nat} (hline : line < 144) (x : Column) :
    (p.backgroundColorNumbers line x).toNat =
      if p.scene.backgroundOn then p.scene.mapPixel p.scene.backgroundMapHigh
        ((x.val + p.scene.scrollX) % 256) ((line + p.scene.scrollY) % 256)
      else 0 := by
  have hx : x.val < 160 := x.isLt
  unfold backgroundColorNumbers
  show _ = if p.registers.lcdc.backgroundEnabled = true then _ else _
  split
  · rw [tileColor_toNat, BitVec.toNat_add, BitVec.toNat_add, BitVec.toNat_ofNat,
      BitVec.toNat_ofNat, Nat.mod_eq_of_lt (by omega : x.val < 2 ^ 8),
      Nat.mod_eq_of_lt (by omega : line < 2 ^ 8)]
    rfl
  · rfl

/-- Of a column the window has at most 167 to its left. -/
theorem windowColumn_eq (p : Ppu) (x : Column) :
    p.windowColumn x = if p.registers.wx.toNat ≤ x.val + 7 then
      some (BitVec.ofNat 8 (x.val + 7 - p.registers.wx.toNat)) else none := by
  have hx : x.val < 160 := x.isLt
  unfold windowColumn
  dsimp only
  by_cases hle : p.registers.wx.toNat ≤ x.val + 7
  · have hcolumn : ((x.val : Int) - (p.registers.wx.toNat - 7)).toNat =
        x.val + 7 - p.registers.wx.toNat := by omega
    rw [if_pos hle, if_pos ⟨by omega, by omega⟩, hcolumn]
  · rw [if_neg hle, if_neg (by omega)]

/-- The row before the sprites. -/
def layerRow (p : Ppu) (line : Nat) : RenderedRow :=
  if p.windowVisibleOnLine line then p.drawWindow (p.backgroundRow line) else p.backgroundRow line

theorem windowVisibleOnLine_iff (p : Ppu) (line : Nat) :
    p.windowVisibleOnLine line = true ↔ p.scene.backgroundOn ∧ p.scene.windowOn ∧
      p.scene.windowY ≤ line ∧ p.scene.windowX ≤ 166 := by
  have hwx : p.registers.wx ≤ 166 ↔ p.registers.wx.toNat ≤ 166 := Iff.rfl
  unfold windowVisibleOnLine
  rw [Bool.and_eq_true, Bool.and_eq_true, Bool.and_eq_true, decide_eq_true_iff, decide_eq_true_iff,
    hwx, and_assoc, and_assoc]
  rfl

/-- **Background and window.** -/
theorem layerRow_pixel (p : Ppu) {line : Nat} (hline : line < 144) (x : Column) :
    (p.layerRow line).pixel x =
      { color := p.scene.layerColor line x.val
        rgba := .ofShade (shadeOf p.scene.backgroundPalette (p.scene.layerColor line x.val))
        source := if p.scene.WindowCovers line x.val then .window else .background
        object := none } := by
  have hx : x.val < 160 := x.isLt
  have hbackground := p.backgroundColorNumbers_toNat hline x
  by_cases hcovers : p.scene.WindowCovers line x.val
  · obtain ⟨hon, hwindow, hy, hwx, hleft⟩ := hcovers
    have hvisible : p.windowVisibleOnLine line = true :=
      (p.windowVisibleOnLine_iff line).mpr ⟨hon, hwindow, hy, hwx⟩
    have hcolumn := p.windowColumn_eq x
    rw [if_pos (show p.registers.wx.toNat ≤ x.val + 7 from hleft)] at hcolumn
    have hlt : x.val + 7 - p.registers.wx.toNat < 2 ^ 8 := by omega
    have hcolor : (p.tileColor p.registers.lcdc.windowMapHigh
        (BitVec.ofNat 8 (x.val + 7 - p.registers.wx.toNat)) p.windowLine).toNat =
        p.scene.layerColor line x.val := by
      rw [tileColor_toNat, BitVec.toNat_ofNat, Nat.mod_eq_of_lt hlt, Scene.layerColor,
        if_pos ⟨hon, hwindow, hy, hwx, hleft⟩]
      rfl
    rw [if_pos ⟨hon, hwindow, hy, hwx, hleft⟩, ← hcolor, layerRow, if_pos hvisible]
    unfold RenderedRow.pixel drawWindow
    simp only [hcolumn, Option.isSome_some, if_true, mapPalette_ofShade]
    rfl
  · have hcolor : (p.backgroundColorNumbers line x).toNat = p.scene.layerColor line x.val := by
      rw [hbackground, Scene.layerColor, if_neg hcovers]
    rw [if_neg hcovers, ← hcolor, layerRow]
    by_cases hvisible : p.windowVisibleOnLine line = true
    · obtain ⟨hon, hwindow, hy, hwx⟩ := (p.windowVisibleOnLine_iff line).mp hvisible
      have hleft : ¬ p.registers.wx.toNat ≤ x.val + 7 :=
        fun hleft => hcovers ⟨hon, hwindow, hy, hwx, hleft⟩
      have hcolumn := p.windowColumn_eq x
      rw [if_neg hleft] at hcolumn
      rw [if_pos hvisible]
      unfold RenderedRow.pixel drawWindow
      simp only [hcolumn, Option.isSome_none, backgroundRow, mapPalette_ofShade]
      rfl
    · rw [if_neg hvisible]
      unfold RenderedRow.pixel backgroundRow
      simp only [mapPalette_ofShade]
      rfl

/-- A window on the line reaches its last column. -/
theorem windowDrawn_eq (p : Ppu) (line : Nat) :
    (p.renderScanline line).windowDrawn = p.windowVisibleOnLine line := by
  have hlayer : (p.layerRow line).windowDrawn = p.windowVisibleOnLine line := by
    unfold layerRow
    by_cases hvisible : p.windowVisibleOnLine line = true
    · obtain ⟨-, -, -, hwx⟩ := (p.windowVisibleOnLine_iff line).mp hvisible
      have hwx : p.registers.wx.toNat ≤ 166 := hwx
      have hlast : ∃ x, (p.windowColumn x).isSome = true := by
        refine ⟨⟨159, by decide⟩, ?_⟩
        rw [windowColumn_eq, if_pos (show _ ≤ 159 + 7 from hwx)]
        rfl
      rw [if_pos hvisible, hvisible]
      simp only [drawWindow, Bool.or_eq_true, decide_eq_true_eq]
      exact .inr hlast
    · rw [if_neg hvisible, Bool.not_eq_true] at *
      rw [hvisible]
      rfl
  rw [← hlayer]
  unfold renderScanline
  dsimp only
  split <;> rfl

/-! ## Sprites -/

/-- A tall object is made of the tile with an even number and the next. -/
theorem tallTile_toNat (tile : Byte) {row : Nat} (hrow : row < 16) :
    ((tile &&& 0xfe) + BitVec.ofInt 8 ((row : Int) / 8)).toNat * 16 + ((row : Int) % 8).toNat * 2 =
      16 * (tile.toNat - tile.toNat % 2) + 2 * row := by
  have hlt := tile.isLt
  have heven : (tile &&& 0xfe).toNat = tile.toNat - tile.toNat % 2 := by
    have hdiv : (tile.toNat &&& 254) / 2 = tile.toNat / 2 := by
      rw [Nat.and_div_two]
      exact (Nat.and_two_pow_sub_one_eq_mod _ 7).trans (Nat.mod_eq_of_lt (by omega))
    have hmod : (tile.toNat &&& 254) % 2 = 0 := by
      rw [← Nat.pow_one 2, Nat.and_mod_two_pow]
      exact Nat.and_zero _
    rw [BitVec.toNat_and]
    show tile.toNat &&& 254 = _
    omega
  have hhalf : BitVec.ofInt 8 ((row : Int) / 8) = BitVec.ofNat 8 (row / 8) := by
    rw [← BitVec.ofInt_natCast]
    rfl
  have hrest : ((row : Int) % 8).toNat = row % 8 := by omega
  rw [BitVec.toNat_add, heven, hhalf, hrest, BitVec.toNat_ofNat,
    Nat.mod_eq_of_lt (by omega : row / 8 < 2 ^ 8), Nat.mod_eq_of_lt (by omega)]
  omega

/-- **The pixel of a sprite is that of the object.** -/
theorem spriteColorNumber_toNat (p : Ppu) (s : SelectedSprite) (x line : Nat) :
    (p.spriteColorNumber s x line).toNat = p.scene.objectColor line x s.toObject := by
  have hheight := Checked.objectHeight_cases p.registers.lcdc
  have hflipX : (s.flags &&& 0x20 != 0) = s.toObject.flipX :=
    and_twoPow_ne_zero (i := 5) s.flags (by decide)
  have hflipY : (s.flags &&& 0x40 != 0) = s.toObject.flipY :=
    and_twoPow_ne_zero (i := 6) s.flags (by decide)
  unfold spriteColorNumber Scene.objectColor
  dsimp only
  rw [hflipX, hflipY]
  by_cases hin : s.toObject.Covers p.scene.objectHeight line ∧ s.toObject.x ≤ x + 8 ∧
      x < s.toObject.x
  · rw [if_pos hin]
    obtain ⟨⟨htop, hbottom⟩, hleft, hright⟩ := hin
    have htop : s.rawY.toNat ≤ line + 16 := htop
    have hbottom : line + 16 < s.rawY.toNat + p.registers.lcdc.objectHeight := hbottom
    have hleft : s.rawX.toNat ≤ x + 8 := hleft
    have hright : x < s.rawX.toNat := hright
    have hcolumn : (x : Int) - (s.rawX.toNat - 8) = ↑(x + 8 - s.rawX.toNat) := by omega
    have hrow : (line : Int) - (s.rawY.toNat - 16) = ↑(line + 16 - s.rawY.toNat) := by omega
    have hcolumnLt : x + 8 - s.rawX.toNat < 8 := by omega
    have hrowLt : line + 16 - s.rawY.toNat < p.registers.lcdc.objectHeight := by omega
    rw [hcolumn, hrow]
    show _ = p.scene.rowPixel (16 * (if p.registers.lcdc.objectHeight = 16 then _ else _) +
      2 * (if s.toObject.flipY then p.registers.lcdc.objectHeight - 1 - (line + 16 - s.rawY.toNat)
        else line + 16 - s.rawY.toNat))
      (if s.toObject.flipX then 7 - (x + 8 - s.rawX.toNat) else x + 8 - s.rawX.toNat)
    generalize x + 8 - s.rawX.toNat = column at hcolumnLt ⊢
    generalize line + 16 - s.rawY.toNat = row at hrowLt ⊢
    have hin : ¬ (¬ (0 ≤ (column : Int) ∧ (column : Int) < 8) ∨
        ¬ (0 ≤ (row : Int) ∧ (row : Int) < p.registers.lcdc.objectHeight)) := by omega
    have hflippedX : (if s.toObject.flipX = true then 7 - (column : Int) else column) =
        ↑(if s.toObject.flipX = true then 7 - column else column) := by split <;> omega
    have hflippedY : (if s.toObject.flipY = true then
          (p.registers.lcdc.objectHeight : Int) - 1 - row else row) =
        ↑(if s.toObject.flipY = true then p.registers.lcdc.objectHeight - 1 - row else row) := by
      split <;> omega
    have hflippedLt : (if s.toObject.flipY = true then p.registers.lcdc.objectHeight - 1 - row
        else row) < p.registers.lcdc.objectHeight := by split <;> omega
    rw [if_neg hin, hflippedX, hflippedY, decodeTileRow_toNat]
    generalize (if s.toObject.flipY = true then p.registers.lcdc.objectHeight - 1 - row
      else row) = flippedY at hflippedLt ⊢
    rcases hheight with hheight | hheight
    · have hne : ¬ p.registers.lcdc.objectHeight = 16 := by omega
      have hneInt : ¬ ((p.registers.lcdc.objectHeight : Int) = 16) := by omega
      rw [if_neg hneInt, if_neg hneInt, if_neg hne, Nat.mul_comm s.tile.toNat, Int.toNat_natCast,
        Nat.mul_comm _ 2]
      rfl
    · have heq : (p.registers.lcdc.objectHeight : Int) = 16 := by omega
      rw [if_pos heq, if_pos heq, if_pos hheight, tallTile_toNat s.tile (by omega)]
      rfl
  · rw [if_neg hin, if_pos]
    · rfl
    · by_contra hno
      refine hin ⟨⟨?_, ?_⟩, ?_, ?_⟩
      · show s.rawY.toNat ≤ line + 16
        omega
      · show line + 16 < s.rawY.toNat + p.registers.lcdc.objectHeight
        omega
      · show s.rawX.toNat ≤ x + 8
        omega
      · show x < s.rawX.toNat
        omega

/-- The sprites in the list are the objects of the line. -/
theorem displays_iff (q : Ppu) (line : Nat) (o : DisplayObject) :
    q.Displays line o ↔ ∃ s ∈ q.selectSpritesForLine line, s.toObject = o := by
  have hcovers : ∀ i : Nat, decide (((q.spriteAt i).rawY.toNat : Int) - 16 ≤ line ∧
      (line : Int) < (q.spriteAt i).rawY.toNat - 16 + q.registers.lcdc.objectHeight) =
      decide ((DisplayObject.ofOam (fun i => (q.oam.get i).toNat) i).Covers
        q.registers.lcdc.objectHeight line) := by
    intro i
    refine decide_eq_decide.mpr ?_
    show _ ↔ (q.spriteAt i).rawY.toNat ≤ line + 16 ∧
      line + 16 < (q.spriteAt i).rawY.toNat + q.registers.lcdc.objectHeight
    omega
  have hselect : q.selectSpritesForLine line = ((((List.range 40).filter fun i =>
      decide ((DisplayObject.ofOam (fun i => (q.oam.get i).toNat) i).Covers
        q.registers.lcdc.objectHeight line)).take 10).map q.spriteAt) := by
    rw [selectSpritesForLine, List.filter_map, ← List.map_take]
    congr 3
    funext i
    exact hcovers i
  rw [hselect]
  constructor
  · rintro ⟨hlt, heq, hcover, hcount⟩
    refine ⟨q.spriteAt o.index, List.mem_map_of_mem (mem_take_filter_range.mpr ⟨hlt, ?_, hcount⟩),
      heq.symm⟩
    rw [← heq]
    exact decide_eq_true hcover
  · rintro ⟨s, hs, rfl⟩
    obtain ⟨i, hi, rfl⟩ := List.mem_map.mp hs
    obtain ⟨hlt, hcover, hcount⟩ := mem_take_filter_range.mp hi
    exact ⟨hlt, rfl, of_decide_eq_true hcover, hcount⟩

/-- Drawing priority, in numbers. -/
theorem spriteBefore_iff (s t : SelectedSprite) :
    spriteBefore s t = true ↔ s.toObject.x < t.toObject.x ∨
      s.toObject.x = t.toObject.x ∧ s.toObject.index ≤ t.toObject.index := by
  have hlt : s.rawX < t.rawX ↔ s.toObject.x < t.toObject.x := Iff.rfl
  have heq : s.rawX = t.rawX ↔ s.toObject.x = t.toObject.x := BitVec.toNat_eq
  rw [spriteBefore, Bool.or_eq_true, Bool.and_eq_true, decide_eq_true_iff, decide_eq_true_iff,
    beq_iff_eq, hlt, heq]
  rfl

section Objects
variable {p q : Ppu} {line : Nat} {x : Column}

/-- A sprite with a pixel in the column. -/
theorem spriteColorNumber_ne_zero (s : SelectedSprite) :
    (p.spriteColorNumber s x.val line != 0) = true ↔
      p.scene.objectColor line x.val s.toObject ≠ 0 := by
  rw [bne_iff_ne, ne_eq, ne_eq, ← spriteColorNumber_toNat, BitVec.toNat_eq]
  rfl

/-- **The deciding sprite is the foremost object.** -/
theorem foremost_of_deciding (hselected : p.selectedSprites = q.selectSpritesForLine line)
    {s : SelectedSprite} (h : p.decidingSprite line x = some s) :
    p.scene.Foremost (q.Displays line) line x.val s.toObject := by
  have htrans : ∀ a b c, spriteBefore a b = true → spriteBefore b c = true →
      spriteBefore a c = true := by
    intro a b c
    rw [spriteBefore_iff, spriteBefore_iff, spriteBefore_iff]
    omega
  have htotal : ∀ a b, (spriteBefore a b || spriteBefore b a) = true := by
    intro a b
    rw [Bool.or_eq_true, spriteBefore_iff, spriteBefore_iff]
    omega
  obtain ⟨hmem, hopaque, hfirst⟩ := find?_mergeSort htrans htotal h
  rw [hselected] at hmem hfirst
  refine ⟨(q.displays_iff line _).mpr ⟨s, hmem, rfl⟩, (spriteColorNumber_ne_zero s).mp hopaque, ?_⟩
  intro o' ho' hcolor
  obtain ⟨t, ht, rfl⟩ := (q.displays_iff line _).mp ho'
  rcases hfirst t ht ((spriteColorNumber_ne_zero t).mpr hcolor) with rfl | hbefore
  · exact .inr ⟨rfl, Nat.le_refl _⟩
  · exact (spriteBefore_iff s t).mp hbefore

/-- Without a deciding sprite every object of the line is transparent there. -/
theorem transparent_of_undecided (hselected : p.selectedSprites = q.selectSpritesForLine line)
    (h : p.decidingSprite line x = none) {o : DisplayObject} (ho : q.Displays line o) :
    p.scene.objectColor line x.val o = 0 := by
  obtain ⟨s, hs, rfl⟩ := (q.displays_iff line _).mp ho
  have hsorted : s ∈ p.sortedSprites := by
    rw [sortedSprites, List.mem_mergeSort, hselected]
    exact hs
  by_contra hcolor
  exact List.find?_eq_none.mp h s hsorted ((spriteColorNumber_ne_zero s).mpr hcolor)

end Objects

end Ppu

/-- At most one object is in front of all others. -/
theorem Scene.Foremost.unique {s : Scene} {oam : Nat → Nat} {height line x : Nat}
    {o o' : DisplayObject} (h : s.Foremost (ObjectOnLine oam height line) line x o)
    (h' : s.Foremost (ObjectOnLine oam height line) line x o') : o = o' := by
  have hindex : o.index = o'.index := by
    have hle := h.first o' h'.mem h'.opaqueThere
    have hge := h'.first o h.mem h.opaqueThere
    omega
  rw [h.mem.2.1, h'.mem.2.1, hindex]

/-- There is one pixel at a column. -/
theorem Scene.Shows.unique {s : Scene} {oam : Nat → Nat} {height line x : Nat} {a b : Pixel}
    (ha : s.Shows (ObjectOnLine oam height line) line x a)
    (hb : s.Shows (ObjectOnLine oam height line) line x b) : a = b := by
  cases ha with
  | object o hon hforemost hshown =>
    cases hb with
    | object o' _ hforemost' _ => rw [hforemost.unique hforemost']
    | layer hnone => exact absurd (hnone hon o hforemost) hshown
  | layer hnone =>
    cases hb with
    | object o hon hforemost hshown => exact absurd (hnone hon o hforemost) hshown
    | layer => rfl

namespace Ppu

theorem drawSprites_pixel_some {p : Ppu} {line : Nat} {row : RenderedRow} {x : Column}
    {s : SelectedSprite} (h : p.winningSprite line row x = some s) :
    (p.drawSprites line row).pixel x =
      { color := (row.pixel x).color
        rgba := mapPalette (if s.flags &&& 0x10 != 0 then p.registers.obp1 else p.registers.obp0)
          (p.spriteColorNumber s x.val line)
        source := .sprite s.oamIndex
        object := some s.oamIndex } := by
  unfold drawSprites RenderedRow.pixel
  simp only [h]

theorem drawSprites_pixel_none {p : Ppu} {line : Nat} {row : RenderedRow} {x : Column}
    (h : p.winningSprite line row x = none) :
    (p.drawSprites line row).pixel x = row.pixel x := by
  unfold drawSprites RenderedRow.pixel
  simp only [h]

section Pixels
variable {p q : Ppu} {line : Nat}

/-- The background hides the sprite. -/
theorem hidden_iff (hline : line < 144) (x : Column) (s : SelectedSprite) :
    (s.flags &&& 0x80 != 0 && (p.layerRow line).colors x != 0) = true ↔
      p.scene.Hides line x.val s.toObject := by
  have hbehind : (s.flags &&& 0x80 != 0) = s.toObject.behindBackground :=
    and_twoPow_ne_zero (i := 7) s.flags (by decide)
  have hcolor : ((p.layerRow line).colors x).toNat = p.scene.layerColor line x.val :=
    congrArg Pixel.color (p.layerRow_pixel hline x)
  rw [Bool.and_eq_true, hbehind, bne_iff_ne, ne_eq, BitVec.toNat_eq, hcolor]
  rfl

/-- **A rendered line shows the scene.** -/
theorem shows_renderScanline (hline : line < 144)
    (hselected : p.selectedSprites = q.selectSpritesForLine line) (x : Column) :
    p.scene.Shows (q.Displays line) line x.val ((p.renderScanline line).pixel x) := by
  have hlayer := p.layerRow_pixel hline x
  have hrender : p.renderScanline line = if p.registers.lcdc.objectsEnabled then
      p.drawSprites line (p.layerRow line) else p.layerRow line := rfl
  rw [hrender]
  by_cases hon : p.registers.lcdc.objectsEnabled = true
  · rw [if_pos hon]
    cases hdeciding : p.decidingSprite line x with
    | none =>
      have hwinning : p.winningSprite line (p.layerRow line) x = none := by
        rw [winningSprite, hdeciding]
      rw [drawSprites_pixel_none hwinning, hlayer]
      refine .layer fun _ o hforemost => ?_
      exact absurd (transparent_of_undecided hselected hdeciding hforemost.mem)
        hforemost.opaqueThere
    | some s =>
      have hforemost := foremost_of_deciding hselected hdeciding
      by_cases hhidden : (s.flags &&& 0x80 != 0 && (p.layerRow line).colors x != 0) = true
      · have hwinning : p.winningSprite line (p.layerRow line) x = none := by
          rw [winningSprite, hdeciding]
          exact if_pos hhidden
        rw [drawSprites_pixel_none hwinning, hlayer]
        refine .layer fun _ o hforemost' => ?_
        rw [hforemost'.unique hforemost]
        exact (hidden_iff hline x s).mp hhidden
      · have hwinning : p.winningSprite line (p.layerRow line) x = some s := by
          rw [winningSprite, hdeciding]
          exact if_neg hhidden
        have hpalette : (s.flags &&& 0x10 != 0) = s.toObject.secondPalette :=
          and_twoPow_ne_zero (i := 4) s.flags (by decide)
        have hobject : (if s.toObject.secondPalette then p.registers.obp1
            else p.registers.obp0).toNat =
            if s.toObject.secondPalette then p.scene.objectPalette1
              else p.scene.objectPalette0 := by
          split <;> rfl
        rw [drawSprites_pixel_some hwinning, hlayer, mapPalette_ofShade, hpalette, hobject,
          spriteColorNumber_toNat]
        exact .object s.toObject hon hforemost (mt (hidden_iff hline x s).mpr hhidden)
  · rw [if_neg hon, hlayer]
    exact .layer fun henabled => absurd henabled hon

end Pixels


end Ppu
end Pockiva
