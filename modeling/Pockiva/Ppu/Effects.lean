import Pockiva.Ppu.Ppu

/-! # What the clock of the PPU leaves alone

No dot writes OAM, and no dot and no write requests the joypad or the timer interrupt.
-/
namespace Pockiva
namespace Ppu

/-- A step of the PPU that does not write OAM and requests none but its own interrupts. -/
structure Plain (p : Ppu) (t : Tick) : Prop where
  oam : t.ppu.oam = p.oam
  joypad : t.requested.has .joypad = false
  timer : t.requested.has .timer = false

namespace Plain
variable {p q : Ppu} {t : Tick}

/-- Nothing is requested. -/
theorem silent (h : t.ppu.oam = p.oam) (hnone : t.requested = .empty) : Plain p t := by
  refine ⟨h, ?_, ?_⟩
  · rw [hnone, InterruptMask.has_empty]
  · rw [hnone, InterruptMask.has_empty]

theorem quiet (h : q.oam = p.oam) : Plain p (.quiet q) := silent h rfl

theorem andThen {f : Ppu → Tick} (h : Plain p t) (hf : ∀ q, Plain q (f q)) :
    Plain p (t.andThen f) := by
  obtain ⟨hoam, hjoypad, htimer⟩ := h
  obtain ⟨hoam', hjoypad', htimer'⟩ := hf t.ppu
  refine ⟨hoam'.trans hoam, ?_, ?_⟩
  · rw [Tick.andThen_requested, InterruptMask.has_union, hjoypad, hjoypad']
    rfl
  · rw [Tick.andThen_requested, InterruptMask.has_union, htimer, htimer']
    rfl

theorem evaluateStatWithEnables (h : q.oam = p.oam) (enables : Byte) :
    Plain p (q.evaluateStatWithEnables enables) := by
  unfold Ppu.evaluateStatWithEnables
  split
  · exact ⟨h, InterruptMask.has_of .lcdStat .joypad, InterruptMask.has_of .lcdStat .timer⟩
  · exact silent h rfl

theorem evaluateStat (h : q.oam = p.oam) : Plain p q.evaluateStat := evaluateStatWithEnables h _

theorem storeScanline (p : Ppu) (line : Nat) : Plain p (p.storeScanline line) := silent rfl rfl

theorem line153Event (p : Ppu) : Plain p p.line153Event := by
  unfold Ppu.line153Event
  split
  · exact evaluateStat rfl
  · exact quiet rfl

theorem line144Event (p : Ppu) : Plain p p.line144Event := by
  unfold Ppu.line144Event
  split
  · exact evaluateStat rfl
  · exact quiet rfl

theorem phaseEvent (p : Ppu) : Plain p p.phaseEvent := by
  unfold Ppu.phaseEvent
  split
  · exact evaluateStat rfl
  · exact quiet rfl

theorem visibleLineEvent (p : Ppu) : Plain p p.visibleLineEvent := by
  unfold Ppu.visibleLineEvent
  split
  · split
    · exact evaluateStat rfl
    · split
      · exact (storeScanline p _).andThen fun q => evaluateStat rfl
      · split
        · exact evaluateStat rfl
        · exact quiet rfl
  · exact quiet rfl

theorem enterLine (p : Ppu) : Plain p p.enterLine := by
  unfold Ppu.enterLine
  split
  · exact ⟨rfl, InterruptMask.has_of .vblank .joypad, InterruptMask.has_of .vblank .timer⟩
  · split
    · exact silent rfl rfl
    · split <;> exact quiet rfl

theorem compareAtLineStart_oam (p : Ppu) : p.compareAtLineStart.oam = p.oam := by
  unfold compareAtLineStart
  split
  · rfl
  · split <;> rfl

theorem lineEndEvent (p : Ppu) : Plain p p.lineEndEvent := by
  unfold Ppu.lineEndEvent
  split
  · have hline := enterLine
      { p with dot := 0, internalLine := p.internalLine + 1, startupLine := false }
    have hentered : Plain p (Ppu.enterLine
        { p with dot := 0, internalLine := p.internalLine + 1, startupLine := false }) :=
      ⟨hline.oam, hline.joypad, hline.timer⟩
    exact hentered.andThen fun q => evaluateStat (compareAtLineStart_oam q)
  · exact quiet rfl

/-- **A dot is plain.** -/
theorem tickOne (p : Ppu) : Plain p p.tickOne := by
  have hdot : Plain p (.quiet { p with dot := p.dot + 1 }) := quiet rfl
  exact ((((hdot.andThen line153Event).andThen line144Event).andThen phaseEvent).andThen
    visibleLineEvent).andThen lineEndEvent

theorem tick (p : Ppu) (tCycles : Nat) : Plain p (p.tick tCycles) := by
  have hloop : ∀ n, Plain p (tickLoop n p) := by
    intro n
    induction n with
    | zero => exact quiet rfl
    | succ n ih => exact ih.andThen tickOne
  unfold Ppu.tick
  split
  · exact hloop tCycles
  · exact quiet rfl

end Plain

/-- A write never requests the joypad interrupt. -/
theorem write_requested (p : Ppu) (address : Word) (value : Byte) :
    (p.write address value).requested.has .joypad = false := by
  have hstat : ∀ (q : Ppu) (enables : Byte),
      (q.evaluateStatWithEnables enables).requested.has .joypad = false :=
    fun q enables => (Plain.evaluateStatWithEnables (p := q) rfl enables).joypad
  unfold write
  split
  · exact InterruptMask.has_empty _
  · split
    · exact InterruptMask.has_empty _
    · split
      · unfold writeLcdc
        dsimp only
        split
        · exact InterruptMask.has_empty _
        · split <;> exact hstat _ _
      · split
        · rw [writeStat, Tick.andThen_requested, InterruptMask.has_union, hstat]
          exact hstat _ _
        · split
          · exact hstat _ _
          · exact InterruptMask.has_empty _

end Ppu

end Pockiva
