import Pockiva.Ppu.Refinement

/-! # The numbers of the published frames

A PPU numbers its frames from 1 on, and the frame that waits to be taken is the last
one it published.  `NumbersFrom n` bounds the number of every frame that is still to
be taken.
-/
namespace Pockiva

open Transition

namespace Ppu

/-- The frames of the step are numbered from `nextSequence` on, and the last of them
waits to be taken. -/
structure Publishes (p : Ppu) (t : Tick) : Prop where
  numbers : (Scanout.frames t.log).map Frame.sequence =
    List.range' p.nextSequence (Scanout.frames t.log).length
  next : t.ppu.nextSequence = p.nextSequence + (Scanout.frames t.log).length
  pending : t.ppu.pendingFrame = (Scanout.frames t.log).getLast?.or p.pendingFrame

namespace Publishes
variable {p q : Ppu} {t : Tick}

/-- A step without a frame. -/
theorem silent (hlog : Scanout.frames t.log = []) (hnext : t.ppu.nextSequence = p.nextSequence)
    (hpending : t.ppu.pendingFrame = p.pendingFrame) : Publishes p t := by
  refine ⟨?_, ?_, ?_⟩
  · rw [hlog]
    rfl
  · rw [hlog, hnext]
    rfl
  · rw [hlog, hpending]
    rfl

theorem quiet (hnext : q.nextSequence = p.nextSequence)
    (hpending : q.pendingFrame = p.pendingFrame) :
    Publishes p (.quiet q) := silent rfl hnext hpending

theorem andThen {f : Ppu → Tick} (h : Publishes p t) (hf : ∀ q, Publishes q (f q)) :
    Publishes p (t.andThen f) := by
  obtain ⟨hnumbers, hnext, hpending⟩ := h
  obtain ⟨hnumbers', hnext', hpending'⟩ := hf t.ppu
  refine ⟨?_, ?_, ?_⟩
  · rw [Tick.andThen_log, Scanout.frames_append, List.map_append, hnumbers, hnumbers', hnext,
      List.length_append, List.range'_append_1]
  · rw [Tick.andThen_log, Scanout.frames_append, List.length_append, ← Nat.add_assoc, ← hnext]
    exact hnext'
  · rw [Tick.andThen_log, Scanout.frames_append, List.getLast?_append, Option.or_assoc, ← hpending]
    exact hpending'

theorem evaluateStatWithEnables (hnext : q.nextSequence = p.nextSequence)
    (hpending : q.pendingFrame = p.pendingFrame) (enables : Byte) :
    Publishes p (q.evaluateStatWithEnables enables) := silent rfl hnext hpending

theorem evaluateStat (hnext : q.nextSequence = p.nextSequence)
    (hpending : q.pendingFrame = p.pendingFrame) : Publishes p q.evaluateStat :=
  evaluateStatWithEnables hnext hpending _

/-- The frame itself. -/
theorem publishFrame (p : Ppu) (requested : InterruptMask) :
    Publishes p { p.publishFrame with requested := requested } := ⟨rfl, rfl, rfl⟩

theorem line153Event (p : Ppu) : Publishes p p.line153Event := by
  unfold Ppu.line153Event
  split
  · exact evaluateStat rfl rfl
  · exact quiet rfl rfl

theorem line144Event (p : Ppu) : Publishes p p.line144Event := by
  unfold Ppu.line144Event
  split
  · exact evaluateStat rfl rfl
  · exact quiet rfl rfl

theorem phaseEvent (p : Ppu) : Publishes p p.phaseEvent := by
  unfold Ppu.phaseEvent
  split
  · exact evaluateStat rfl rfl
  · exact quiet rfl rfl

theorem storeScanline (p : Ppu) (line : Nat) : Publishes p (p.storeScanline line) :=
  silent rfl rfl rfl

theorem visibleLineEvent (p : Ppu) : Publishes p p.visibleLineEvent := by
  unfold Ppu.visibleLineEvent
  split
  · split
    · exact evaluateStat rfl rfl
    · split
      · exact (storeScanline p _).andThen fun q => evaluateStat rfl rfl
      · split
        · exact evaluateStat rfl rfl
        · exact quiet rfl rfl
  · exact quiet rfl rfl

theorem enterLine (p : Ppu) : Publishes p p.enterLine := by
  unfold Ppu.enterLine
  split
  · have hframe := publishFrame { p with mode := .vBlank } (.of .vblank)
    exact ⟨hframe.numbers, hframe.next, hframe.pending⟩
  · split
    · exact silent rfl rfl rfl
    · split <;> exact quiet rfl rfl

theorem compareAtLineStart (p : Ppu) : p.compareAtLineStart.nextSequence = p.nextSequence ∧
    p.compareAtLineStart.pendingFrame = p.pendingFrame := by
  unfold Ppu.compareAtLineStart
  split
  · exact ⟨rfl, rfl⟩
  · split <;> exact ⟨rfl, rfl⟩

theorem lineEndEvent (p : Ppu) : Publishes p p.lineEndEvent := by
  unfold Ppu.lineEndEvent
  split
  · have hline := enterLine
      { p with dot := 0, internalLine := p.internalLine + 1, startupLine := false }
    have hentered : Publishes p (Ppu.enterLine
        { p with dot := 0, internalLine := p.internalLine + 1, startupLine := false }) :=
      ⟨hline.numbers, hline.next, hline.pending⟩
    exact hentered.andThen fun q =>
      evaluateStat (compareAtLineStart q).1 (compareAtLineStart q).2
  · exact quiet rfl rfl

/-- **A dot numbers its frame.** -/
theorem tickOne (p : Ppu) : Publishes p p.tickOne := by
  have hdot : Publishes p (.quiet { p with dot := p.dot + 1 }) := quiet rfl rfl
  exact ((((hdot.andThen line153Event).andThen line144Event).andThen phaseEvent).andThen
    visibleLineEvent).andThen lineEndEvent

theorem tick (p : Ppu) (tCycles : Nat) : Publishes p (p.tick tCycles) := by
  have hloop : ∀ n, Publishes p (tickLoop n p) := by
    intro n
    induction n with
    | zero => exact quiet rfl rfl
    | succ n ih => exact ih.andThen tickOne
  unfold Ppu.tick
  split
  · exact hloop tCycles
  · exact quiet rfl rfl

/-- A write publishes nothing. -/
theorem write (p : Ppu) (address : Word) (value : Byte) : Publishes p (p.write address value) := by
  unfold Ppu.write
  split
  · exact quiet rfl rfl
  · split
    · exact quiet rfl rfl
    · split
      · obtain ⟨-, -, ht⟩ | ⟨-, -, ht⟩ | ⟨-, ht⟩ := p.writeLcdc_cases value
        · rw [ht]
          exact silent rfl rfl rfl
        · rw [ht]
          exact silent rfl rfl rfl
        · rw [ht]
          exact evaluateStat rfl rfl
      · split
        · exact (evaluateStatWithEnables rfl rfl 0x78).andThen fun q => evaluateStat rfl rfl
        · split
          · unfold Ppu.writeLyc
            dsimp only
            split <;> exact evaluateStat rfl rfl
          · exact quiet rfl rfl

end Publishes

/-! ## Bounds on the numbers -/

/-- Every frame that is still to be taken has a number of at least `n`. -/
structure NumbersFrom (n : Nat) (p : Ppu) : Prop where
  next : n ≤ p.nextSequence
  pending : ∀ f, p.pendingFrame = some f → n ≤ f.sequence ∧ f.sequence < p.nextSequence

namespace NumbersFrom
variable {n : Nat} {p q : Ppu}

theorem postBootDmg : NumbersFrom 1 Ppu.postBootDmg := ⟨Nat.le_refl 1, nofun⟩

theorem mono {m : Nat} (h : p.NumbersFrom n) (hm : m ≤ n) : p.NumbersFrom m := by
  refine ⟨Nat.le_trans hm h.next, fun f hf => ?_⟩
  obtain ⟨hlow, hhigh⟩ := h.pending f hf
  exact ⟨Nat.le_trans hm hlow, hhigh⟩

theorem congr (h : p.NumbersFrom n) (hnext : q.nextSequence = p.nextSequence)
    (hpending : q.pendingFrame = p.pendingFrame) : q.NumbersFrom n := by
  refine ⟨by rw [hnext]; exact h.next, fun f hf => ?_⟩
  rw [hnext]
  exact h.pending f (hpending ▸ hf)

theorem publishes {t : Tick} (h : p.NumbersFrom n) (ht : Publishes p t) : t.ppu.NumbersFrom n := by
  have hnext := h.next
  refine ⟨by rw [ht.next]; omega, fun f hf => ?_⟩
  rw [ht.next]
  rw [ht.pending, Option.or_eq_some_iff] at hf
  obtain hlast | ⟨-, hold⟩ := hf
  · have hmem : f.sequence ∈ (Scanout.frames t.log).map Frame.sequence :=
      List.mem_map_of_mem (List.mem_of_getLast? hlast)
    rw [ht.numbers, List.mem_range'_1] at hmem
    omega
  · have hbound := h.pending f hold
    omega

/-- The frames left after one was taken have greater numbers. -/
theorem takeFrame (h : p.NumbersFrom n) {f : Frame} (hf : p.takeFrame.1 = some f) :
    n ≤ f.sequence ∧ p.takeFrame.2.NumbersFrom (f.sequence + 1) := by
  obtain ⟨hlow, hhigh⟩ := h.pending f hf
  exact ⟨hlow, hhigh, nofun⟩

/-- A PPU from which nothing is taken. -/
theorem dropFrame (h : p.NumbersFrom n) : p.takeFrame.2.NumbersFrom n := ⟨h.next, nofun⟩

end NumbersFrom

/-! ## Runs -/

theorem publishes_step (p : Ppu) {op : Op} (hop : op ≠ .takeFrame) : Publishes p (p.step op) := by
  cases op with
  | dot => exact .tick p 1
  | write address value => exact .write p address value
  | dmaWriteOam index value => exact .quiet rfl rfl
  | takeFrame => exact absurd rfl hop

/-- The frame that a dot publishes can be taken after it. -/
theorem takeFrame_dot {p : Ppu} {f : Frame} (hlog : (p.step .dot).log = [.frame f]) :
    (p.step .dot).ppu.takeFrame.1 = some f := by
  have hpublishes : Publishes p (p.step .dot) := publishes_step p nofun
  have hpending := hpublishes.pending
  rw [hlog] at hpending
  exact hpending

theorem publishes_run (ops : List Op) (hops : ∀ op ∈ ops, op ≠ .takeFrame) (p : Ppu) :
    Publishes p (run ops p) := by
  induction ops generalizing p with
  | nil => exact .quiet rfl rfl
  | cons op ops ih =>
    exact (publishes_step p (hops op List.mem_cons_self)).andThen
      fun q => ih (fun op hop => hops op (List.mem_cons_of_mem _ hop)) q

theorem frames_run_cons (op : Op) (ops : List Op) (p : Ppu) :
    Scanout.frames (run (op :: ops) p).log =
      Scanout.frames (p.step op).log ++ Scanout.frames (run ops (p.step op).ppu).log :=
  Scanout.frames_append _ _

/-- A run uses one number for each frame. -/
theorem nextSequence_run (ops : List Op) (p : Ppu) : (run ops p).ppu.nextSequence =
    p.nextSequence + (Scanout.frames (run ops p).log).length := by
  induction ops generalizing p with
  | nil => rfl
  | cons op ops ih =>
    have hstep : (p.step op).ppu.nextSequence =
        p.nextSequence + (Scanout.frames (p.step op).log).length := by
      by_cases hop : op = .takeFrame
      · subst hop
        rfl
      · exact (publishes_step p hop).next
    rw [frames_run_cons, List.length_append, ← Nat.add_assoc, ← hstep]
    exact ih _

/-- A frame that waits to be taken is the last that the run published, or was there before. -/
theorem pending_run (ops : List Op) {p : Ppu} {f : Frame}
    (h : (run ops p).ppu.pendingFrame = some f) :
    (Scanout.frames (run ops p).log).getLast? = some f ∨
      Scanout.frames (run ops p).log = [] ∧ p.pendingFrame = some f := by
  induction ops generalizing p with
  | nil => exact .inr ⟨rfl, h⟩
  | cons op ops ih =>
    rw [frames_run_cons]
    rcases ih h with hlast | ⟨hnone, hbefore⟩
    · rw [List.getLast?_append, hlast]
      exact .inl rfl
    · rw [hnone, List.append_nil]
      by_cases hop : op = .takeFrame
      · -- nothing waits once it was taken
        subst hop
        cases hbefore
      · rw [(publishes_step p hop).pending, Option.or_eq_some_iff] at hbefore
        exact hbefore.imp_right fun ⟨hempty, hold⟩ => ⟨List.getLast?_eq_none_iff.mp hempty, hold⟩

end Ppu

end Pockiva
