import Pockiva.Ppu.CheckedRender
import Pockiva.Ppu.Refinement

/-! # The length of mode 3

The registers, OAM and the sprites of a line decide how long mode 3 lasts.  The length
is computed here once more with every index, conversion and subtraction that Rust
checks (`Checked.computeMode3EndDot`): nothing is refused, and the end of mode 3 stays
on its line.
-/
namespace Pockiva

open Transition

namespace Checked

/-! ## The source, with its checks -/

/-- The tile whose pixels delay a sprite, and the pixel under the sprite's left edge. -/
def penaltyTile (p : Ppu) (sprite : SelectedSprite) : Option (Nat × Byte) := do
  let screenX ← signed 15 (sprite.rawX.toNat - 8)
  let windowOrigin ← signed 15 (p.registers.wx.toNat - 7)
  if 8 ≤ sprite.rawX ∧ p.windowVisibleOnLine p.internalLine = true ∧ windowOrigin ≤ screenX then
    let windowX ← unsigned 8 (← signed 15 (screenX - windowOrigin))
    return (32 + windowX / 8, BitVec.ofNat 8 windowX &&& 7)
  else
    let mapX := sprite.rawX + p.registers.scx
    return (mapX.toNat / 8, mapX &&& 7)

/-- The penalty so far and the array `charged_tiles`. -/
structure PenaltyState where
  penalty : Nat
  chargedTiles : Fin 64 → Bool

/-- The penalty after more of it, in 16 bits. -/
def PenaltyState.add (s : PenaltyState) (dots : Nat) : Option PenaltyState := do
  return { s with penalty := ← unsigned 16 ↑(s.penalty + dots) }

def chargeSprite (p : Ppu) (s : PenaltyState) (sprite : SelectedSprite) : Option PenaltyState := do
  if 168 ≤ sprite.rawX then return s
  let (tile, localX) ← penaltyTile p sprite
  if h : tile < 64 then
    if s.chargedTiles ⟨tile, h⟩ then s.add 6
    else
      let s ← s.add (7 - localX.toNat - 2)
      PenaltyState.add { s with chargedTiles := Function.update s.chargedTiles ⟨tile, h⟩ true } 6
  else none

def spriteMode3Penalty (p : Ppu) : Option Nat := do
  if p.registers.lcdc.objectsEnabled then
    return (← p.sortedSprites.foldlM (chargeSprite p) ⟨0, fun _ => false⟩).penalty
  else return 0

def mode3StartDot (p : Ppu) : Option Nat :=
  if p.startupLine then some startupMode3Dot else unsigned 16 ↑(mode2Dots + p.lcdPhase)

/-- The length of mode 3 with what the window adds to it. -/
def windowedLength (p : Ppu) : Option Nat := do
  let length ← unsigned 16 ↑(baseMode3Dots + (p.registers.scx &&& 7).toNat)
  if p.windowVisibleOnLine p.internalLine then
    let length ← unsigned 16 ↑(length + 6)
    if p.registers.wx = 0 ∧ p.registers.scx &&& 7 ≠ 0 then unsigned 16 (length - 1) else some length
  else some length

def computeMode3EndDot (p : Ppu) : Option Nat := do
  let length ← windowedLength p
  let length := min (length + (← spriteMode3Penalty p)) (2 ^ 16 - 1)
  unsigned 16 ↑((← mode3StartDot p) + min length 289)

/-- The dot at which `tick_one` has the mode change. -/
def visibleHblankDot (p : Ppu) : Option Nat := do
  if (← spriteMode3Penalty p) = 0 then computeMode3EndDot p
  else unsigned 16 ((← computeMode3EndDot p) - 1)

/-! ## Nothing is refused -/

/-- A sprite that can be charged is over a tile that has an entry. -/
theorem penaltyTile_eq (p : Ppu) {sprite : SelectedSprite} (h : ¬ 168 ≤ sprite.rawX) :
    penaltyTile p sprite = some (p.penaltyTile sprite) ∧ (p.penaltyTile sprite).1 < 64 := by
  have hx : sprite.rawX.toNat < 168 := by
    rw [BitVec.not_le] at h
    exact h
  have hwx := p.registers.wx.isLt
  have hscreen : signed 15 ((sprite.rawX.toNat : Int) - 8) = some ((sprite.rawX.toNat : Int) - 8) :=
    signed_of_lt (by omega) (by omega)
  have horigin : signed 15 ((p.registers.wx.toNat : Int) - 7) =
      some ((p.registers.wx.toNat : Int) - 7) := signed_of_lt (by omega) (by omega)
  unfold penaltyTile Ppu.penaltyTile
  dsimp only
  rw [hscreen, Option.bind_eq_bind, Option.bind_some, horigin, Option.bind_eq_bind,
    Option.bind_some]
  split
  · next hwindow =>
    -- the sprite starts in the window, at most 166 pixels from its edge
    obtain ⟨-, -, hinside⟩ := hwindow
    generalize hd : (sprite.rawX.toNat : Int) - 8 - ((p.registers.wx.toNat : Int) - 7) = d
    have hlow : 0 ≤ d := by omega
    have hhigh : d ≤ 166 := by omega
    have hmod : d.toNat % 2 ^ 8 = d.toNat := Nat.mod_eq_of_lt (by omega)
    rw [signed_of_lt (by omega) (by omega), Option.bind_some,
      unsigned_of_lt hlow (by omega), Option.bind_some, BitVec.toNat_ofNat, hmod]
    exact ⟨rfl, by show 32 + d.toNat / 8 < 64; omega⟩
  · refine ⟨rfl, ?_⟩
    have hmap := (sprite.rawX + p.registers.scx).isLt
    show (sprite.rawX + p.registers.scx).toNat / 8 < 64
    omega

/-- The array is the list of the tiles charged, and no sprite costs more than 11. -/
structure Charges (n : Nat) (s : Ppu.PenaltyState) (t : PenaltyState) : Prop where
  penalty : t.penalty = s.penalty
  chargedTiles : ∀ i : Fin 64, t.chargedTiles i = decide (i.val ∈ s.chargedTiles)
  bound : s.penalty ≤ 11 * n

theorem PenaltyState.add_eq {s : PenaltyState} {dots : Nat} (h : s.penalty + dots < 2 ^ 16) :
    s.add dots = some { s with penalty := s.penalty + dots } := by
  rw [add, unsigned_natCast h]
  rfl

theorem chargeSprite_eq (p : Ppu) {n : Nat} {s : Ppu.PenaltyState} {t : PenaltyState}
    (sprite : SelectedSprite) (hn : n < 10) (h : Charges n s t) :
    ∃ t', chargeSprite p t sprite = some t' ∧ Charges (n + 1) (p.chargeSprite s sprite) t' := by
  have hbound := h.bound
  have hpenalty := h.penalty
  unfold chargeSprite Ppu.chargeSprite
  by_cases hx : 168 ≤ sprite.rawX
  · rw [if_pos hx, if_pos hx]
    exact ⟨t, rfl, h.penalty, h.chargedTiles, by omega⟩
  · rw [if_neg hx, if_neg hx]
    obtain ⟨heq, hlt⟩ := penaltyTile_eq p hx
    rw [heq]
    generalize p.penaltyTile sprite = tile at hlt ⊢
    obtain ⟨tile, localX⟩ := tile
    have hlt : tile < 64 := hlt
    simp only [Option.bind_eq_bind, Option.bind_some, dif_pos hlt, h.chargedTiles ⟨tile, hlt⟩,
      decide_eq_true_eq]
    by_cases hcharged : tile ∈ s.chargedTiles
    · rw [if_pos hcharged, if_pos hcharged, PenaltyState.add_eq (by omega), hpenalty]
      exact ⟨_, rfl, rfl, h.chargedTiles, by show s.penalty + 6 ≤ _; omega⟩
    · rw [if_neg hcharged, if_neg hcharged, PenaltyState.add_eq (by omega), Option.bind_some,
        PenaltyState.add_eq (by show t.penalty + _ + 6 < 2 ^ 16; omega), hpenalty]
      refine ⟨_, rfl, rfl, fun i => ?_, by show s.penalty + _ + 6 ≤ _; omega⟩
      show Function.update t.chargedTiles ⟨tile, hlt⟩ true i =
        decide (i.val ∈ tile :: s.chargedTiles)
      by_cases hi : i = ⟨tile, hlt⟩
      · rw [hi, Function.update_self, decide_eq_true List.mem_cons_self]
      · have hne : i.val ≠ tile := fun h => hi (Fin.ext h)
        rw [Function.update_of_ne hi, h.chargedTiles i]
        simp only [List.mem_cons, hne, false_or]

/-- Ten sprites are charged without fail, for at most 110 dots. -/
theorem spriteMode3Penalty_eq (p : Ppu) (h : p.selectedSprites.length ≤ 10) :
    spriteMode3Penalty p = some p.spriteMode3Penalty ∧ p.spriteMode3Penalty ≤ 110 := by
  unfold spriteMode3Penalty Ppu.spriteMode3Penalty
  by_cases hobjects : p.registers.lcdc.objectsEnabled = true
  · have hlength : p.sortedSprites.length ≤ 10 := by
      rw [Ppu.sortedSprites, List.length_mergeSort]
      exact h
    have hstart : Charges 0 ⟨0, []⟩ ⟨0, fun _ => false⟩ := ⟨rfl, fun _ => rfl, Nat.le_refl _⟩
    obtain ⟨t, ht, hcharges⟩ := foldlM_of_rounds (fun sprite => chargeSprite_eq p sprite)
      p.sortedSprites (by omega) hstart
    have hbound := hcharges.bound
    rw [if_pos hobjects, if_pos hobjects, ht, ← hcharges.penalty]
    exact ⟨rfl, by rw [hcharges.penalty]; omega⟩
  · rw [if_neg hobjects, if_neg hobjects]
    exact ⟨rfl, Nat.zero_le _⟩

theorem windowedLength_eq (p : Ppu) :
    windowedLength p = some (baseMode3Dots + (p.registers.scx &&& 7).toNat + p.windowPenalty) := by
  have hscx : (p.registers.scx &&& 7).toNat < 8 := by
    rw [toNat_and_seven]
    omega
  have hbase : baseMode3Dots = 172 := rfl
  unfold windowedLength Ppu.windowPenalty
  rw [unsigned_natCast (by omega), Option.bind_eq_bind, Option.bind_some]
  split
  · rw [unsigned_natCast (by omega), Option.bind_some]
    split
    · rw [unsigned_of_lt (by omega) (by omega)]
      congr 1
      omega
    · rfl
  · rfl

theorem mode3StartDot_eq {p : Ppu} (h : p.lcdPhase = 0 ∨ p.lcdPhase = 2) :
    mode3StartDot p = some p.mode3StartDot := by
  unfold mode3StartDot Ppu.mode3StartDot
  split
  · rfl
  · exact unsigned_natCast (by unfold mode2Dots; omega)

theorem mode3StartDot_le {p : Ppu} (h : p.lcdPhase = 0 ∨ p.lcdPhase = 2) :
    p.mode3StartDot ≤ 84 := by
  unfold Ppu.mode3StartDot startupMode3Dot mode2Dots
  split <;> omega

/-- The sum that is clamped stays far below 16 bits. -/
theorem computeMode3EndDot_eq {p : Ppu} (h : p.selectedSprites.length ≤ 10)
    (hphase : p.lcdPhase = 0 ∨ p.lcdPhase = 2) :
    computeMode3EndDot p = some p.computeMode3EndDot := by
  obtain ⟨hpenalty, hten⟩ := spriteMode3Penalty_eq p h
  have hstart := mode3StartDot_le hphase
  have hscx : (p.registers.scx &&& 7).toNat < 8 := by
    rw [toNat_and_seven]
    omega
  have hwindow : p.windowPenalty ≤ 6 := by
    unfold Ppu.windowPenalty
    split
    · split <;> omega
    · omega
  have hbase : baseMode3Dots = 172 := rfl
  unfold computeMode3EndDot Ppu.computeMode3EndDot
  rw [windowedLength_eq, Option.bind_eq_bind, Option.bind_some, hpenalty, Option.bind_some,
    mode3StartDot_eq hphase, Option.bind_some]
  have hsum : baseMode3Dots + (p.registers.scx &&& 7).toNat + p.windowPenalty
      + p.spriteMode3Penalty ≤ 2 ^ 16 - 1 := by omega
  rw [Nat.min_eq_left hsum]
  exact unsigned_natCast (by omega)

theorem visibleHblankDot_eq {p : Ppu} (h : p.selectedSprites.length ≤ 10)
    (hphase : p.lcdPhase = 0 ∨ p.lcdPhase = 2) (hlow : 1 ≤ p.computeMode3EndDot)
    (hhigh : p.computeMode3EndDot < 456) :
    visibleHblankDot p = some (if p.spriteMode3Penalty = 0 then p.computeMode3EndDot
      else p.computeMode3EndDot - 1) := by
  unfold visibleHblankDot
  rw [(spriteMode3Penalty_eq p h).1, Option.bind_eq_bind, Option.bind_some,
    computeMode3EndDot_eq h hphase, Option.bind_some]
  split
  · rfl
  · rw [unsigned_of_lt (by omega) (by omega)]
    congr 1
    omega

end Checked

namespace Ppu

/-! ## Where mode 3 starts -/

theorem StepCase.lcdPhase {p : Ppu} {op : Op} {t : Tick}
    (htimeline : p.lcdEnabled = true → p.raster.Timeline) (h : p.lcdPhase = 0 ∨ p.lcdPhase = 2)
    (e : StepCase p op t) : t.ppu.lcdPhase = 0 ∨ t.ppu.lcdPhase = 2 := by
  cases e with
  | dot _ henabled => exact (timeline_tickOne (htimeline henabled)).phase
  | stopped => exact h
  | writeLcdc value =>
    obtain ⟨-, -, ht⟩ | ⟨-, -, ht⟩ | ⟨-, ht⟩ := p.writeLcdc_cases value
    · rw [ht]
      exact .inl rfl
    · rw [ht]
      exact .inr rfl
    · rw [ht]
      exact h
  | writeStat value => exact h
  | writeLyc value =>
    have hphase : (p.writeLyc value).ppu.lcdPhase = p.lcdPhase :=
      congrArg Raster.phase (p.writeLyc_raster value)
    rw [hphase]
    exact h
  | untouched q _ _ hq =>
    have hphase : q.lcdPhase = p.lcdPhase := congrArg Raster.phase hq.raster
    rw [Tick.quiet_ppu, hphase]
    exact h

/-- The lines of a run start their scan at dot 0 or at dot 2. -/
theorem lcdPhase_of_reachable {p : Ppu} (h : Reachable system p) :
    p.lcdPhase = 0 ∨ p.lcdPhase = 2 := by
  refine (h.invariant (P := fun p => (p.lcdEnabled = true → p.raster.Timeline) ∧
    (p.lcdPhase = 0 ∨ p.lcdPhase = 2)) ?_ ?_).2
  · rintro p rfl
    exact ⟨fun _ => timeline_postBootDmg, .inl rfl⟩
  · rintro p op q ⟨htimeline, hphase⟩ rfl
    exact ⟨(step_cases p op).timeline htimeline, (step_cases p op).lcdPhase htimeline hphase⟩

/-! ## The end of mode 3 -/

/-- The PPU at the start of mode 3, before the end of the mode is fixed. -/
def selected (p : Ppu) : Ppu :=
  { p with mode := .drawing, selectedSprites := p.selectSpritesForLine p.internalLine }

/-- What holds of mode 3 on the line of `p`, with the sprites selected for it. -/
structure Mode3Law (p : Ppu) : Prop where
  /-- No index, conversion or subtraction of `sprite_mode3_penalty` fails. -/
  penalty : Checked.spriteMode3Penalty p.selected = some p.selected.spriteMode3Penalty
  /-- Nor does any of `compute_mode3_end_dot`. -/
  endDot : Checked.computeMode3EndDot p.selected = some p.selected.computeMode3EndDot
  lower : p.mode3StartDot + 172 ≤ p.selected.computeMode3EndDot
  upper : p.selected.computeMode3EndDot ≤ p.mode3StartDot + 289
  onLine : p.selected.computeMode3EndDot < 456
  /-- The mode that the CPU sees changes there or one dot earlier. -/
  visible : Checked.visibleHblankDot p.selected = some p.startDrawing.visibleHblankDot
  visible_eq : p.startDrawing.visibleHblankDot = p.selected.computeMode3EndDot ∨
    p.startDrawing.visibleHblankDot + 1 = p.selected.computeMode3EndDot
  start_lt_visible : p.mode3StartDot < p.startDrawing.visibleHblankDot
  /-- This is what `tick_one` keeps. -/
  kept : p.startDrawing.mode3EndDot = p.selected.computeMode3EndDot

/-- **Mode 3 takes between 172 and 289 dots**, whatever the registers, VRAM and OAM
hold. -/
theorem mode3_length {p q : Ppu} (hq : Reachable system q) (hphase : p.lcdPhase = q.lcdPhase) :
    Mode3Law p := by
  have hphase : p.lcdPhase = 0 ∨ p.lcdPhase = 2 := by
    rw [hphase]
    exact lcdPhase_of_reachable hq
  have hstart : p.mode3StartDot ≤ 84 := Checked.mode3StartDot_le hphase
  have hlength : p.selected.selectedSprites.length ≤ 10 := List.length_take_le 10 _
  obtain ⟨hlower, hupper, hvisible_le, hle_visible⟩ := mode3Fixed_startDrawing p
  have hlower : p.mode3StartDot + 172 ≤ p.selected.computeMode3EndDot := hlower
  have hupper : p.selected.computeMode3EndDot ≤ p.mode3StartDot + 289 := hupper
  have hvisible_le : p.startDrawing.visibleHblankDot ≤ p.selected.computeMode3EndDot := hvisible_le
  have hle_visible : p.selected.computeMode3EndDot ≤ p.startDrawing.visibleHblankDot + 1 :=
    hle_visible
  exact {
    penalty := (Checked.spriteMode3Penalty_eq p.selected hlength).1
    endDot := Checked.computeMode3EndDot_eq hlength hphase
    lower := hlower
    upper := hupper
    onLine := by omega
    visible := Checked.visibleHblankDot_eq hlength hphase (by omega) (by omega)
    visible_eq := by omega
    start_lt_visible := by omega
    kept := rfl }

/-- Ten sprites on ten tiles, a window at the right edge and a scroll by seven pixels. -/
def crowdedLine : Ppu :=
  { postBootDmg with
    oam := fun i =>
      if 40 ≤ i.val then 0
      else if i.val % 4 = 0 then 16
      else if i.val % 4 = 1 then BitVec.ofNat 8 (1 + 8 * (i.val / 4))
      else 0
    registers := { PpuRegisters.postBootDmg with lcdc := ⟨0xb3⟩, scx := 7, wx := 166 } }

/-- The longest mode 3 there is. -/
theorem mode3_length_crowdedLine :
    Mode3Law crowdedLine ∧
      crowdedLine.selected.computeMode3EndDot = crowdedLine.mode3StartDot + 289 := by
  refine ⟨mode3_length (.start rfl) rfl, ?_⟩
  have hselected : crowdedLine.selected.selectedSprites =
      (List.range 10).map crowdedLine.spriteAt := by
    decide +kernel
  have hsorted : crowdedLine.selected.sortedSprites =
      (List.range 10).map crowdedLine.spriteAt := by
    rw [sortedSprites, hselected]
    exact List.mergeSort_of_pairwise (by decide +kernel)
  have hpenalty : crowdedLine.selected.spriteMode3Penalty = 110 := by
    unfold spriteMode3Penalty
    rw [hsorted]
    decide +kernel
  unfold computeMode3EndDot
  rw [hpenalty]
  decide +kernel

end Ppu

end Pockiva
