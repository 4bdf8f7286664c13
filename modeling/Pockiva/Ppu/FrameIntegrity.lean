import Pockiva.Ppu.Progress

/-! # The integrity of published frames

The framebuffer is used again for every frame and is cleared neither when the LCD
goes off nor at line 0.  Still every published frame is either blank or made of
144 rows rendered one after the other since the start of line 0, because the log
of a PPU is a run of a scanout.
-/
namespace Pockiva

open Transition

namespace Scanout

end Scanout

/-- **A published frame is whole**: it is blank if it is the first since the LCD came on, and
otherwise made of 144 rows, each rendered for its line, one after the other, directly after the
start of line 0 (the start of the run or a wrap). -/
structure Scanout.Whole (past : List PpuEvent) (f : Frame) : Prop where
  blank : Scanout.BlankSince past → f.rgba = .filled _ 0xff
  rows : ¬ Scanout.BlankSince past →
    ∃ before rows, past = before ++ rows.mapIdx PpuEvent.scanline ∧ rows.length = 144 ∧
      (before = [] ∨ ∃ earlier, before = earlier ++ [.wrap]) ∧ f.rgba = picture rows

namespace Ppu

theorem writeLyc_log (p : Ppu) (value : Byte) : (p.writeLyc value).log = [] := by
  unfold writeLyc
  dsimp only
  split <;> rfl

/-- Only a dot publishes a frame, and then it publishes nothing else. -/
theorem log_of_published {p : Ppu} (hp : Reachable system p) {op : Op} {f : Frame}
    (h : .frame f ∈ (p.step op).log) : op = .dot ∧ (p.step op).log = [.frame f] := by
  have hcase := step_cases p op
  generalize ht : p.step op = t at h hcase ⊢
  cases hcase with
  | dot hop henabled =>
    subst hop
    have hmarks := dot_marks hp henabled
    rw [ht] at hmarks
    by_cases henters : EntersVblank p .dot
    · obtain ⟨g, hlog⟩ := hmarks.frame henters
      rw [hlog, List.mem_singleton] at h
      exact ⟨rfl, hlog.trans (by rw [h])⟩
    · have hmem : f ∈ Scanout.frames p.tickOne.log := List.mem_filterMap.mpr ⟨_, h, rfl⟩
      rw [hmarks.noFrame henters] at hmem
      exact absurd hmem List.not_mem_nil
  | writeLcdc value =>
    obtain ⟨-, -, hw⟩ | ⟨-, -, hw⟩ | ⟨-, hw⟩ := p.writeLcdc_cases value
    · rw [hw] at h
      cases List.mem_singleton.mp h
    · rw [hw] at h
      cases List.mem_singleton.mp h
    · rw [hw] at h
      exact absurd h List.not_mem_nil
  | writeLyc value =>
    rw [writeLyc_log] at h
    exact absurd h List.not_mem_nil
  | stopped | writeStat | untouched => exact absurd h List.not_mem_nil

end Ppu

end Pockiva
