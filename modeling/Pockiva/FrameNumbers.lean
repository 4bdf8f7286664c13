import Pockiva.BusFrame
import Pockiva.Ppu.Progress

/-! # The numbers of the frames a core hands out

A core numbers its frames from 1 on, each frame it hands out has a greater number than
the one before, and a reset or the load of an image starts again at 1.
-/
namespace Pockiva

open Transition

variable {M : MixerModel} {n : Nat}

namespace MachineBus
variable {b : MachineBus M}

theorem numbersFrom_tickMCycle (h : b.video.NumbersFrom n) : b.tickMCycle.video.NumbersFrom n := by
  obtain ⟨interrupts, heq⟩ := tickMCycle_eq b
  have hdma : b.afterTimer.tickDma.video.NumbersFrom n := by
    unfold tickDma
    split
    · exact h.congr rfl rfl
    · exact h
  rw [heq]
  exact hdma.publishes (.tick _ 4)

theorem numbersFrom_writeUnclocked (h : b.video.NumbersFrom n) (address : Word) (value : Byte) :
    (b.writeUnclocked address value).video.NumbersFrom n := by
  have hcase := writeUnclocked_cases b address value
  generalize b.writeUnclocked address value = c at hcase
  cases hcase with
  | video _ _ => exact h.publishes (.write b.video address value)
  | dma _ => exact h.publishes (.write b.video address value)
  | _ => exact h

theorem numbersFrom_cpu (h : b.video.NumbersFrom n) (op : BusOp) :
    (op.apply b).video.NumbersFrom n := by
  cases op with
  | read8 address => exact numbersFrom_tickMCycle h
  | write8 address value =>
    show (b.write8 address value).video.NumbersFrom n
    rw [write8]
    split
    · split
      · exact numbersFrom_tickMCycle (numbersFrom_writeUnclocked h _ _)
      · exact numbersFrom_writeUnclocked (numbersFrom_tickMCycle h) _ _
    · exact numbersFrom_tickMCycle h
  | idleMCycle => exact numbersFrom_tickMCycle h
  | acknowledgeInterrupt i => exact h
  | resetDivider => exact h

end MachineBus

namespace GameBoy
variable {g : GameBoy M}

/-- Every frame the core will hand out has a number of at least `n`. -/
def NumbersFrom (n : Nat) (g : GameBoy M) : Prop :=
  ∀ bus, g.bus = some bus → bus.video.NumbersFrom n

namespace NumbersFrom

theorem mono {m : Nat} (h : g.NumbersFrom n) (hm : m ≤ n) : g.NumbersFrom m :=
  fun bus hbus => (h bus hbus).mono hm

theorem loadRom {rom : List Byte} {persisted : Option BatteryState} {metadata : CartridgeMetadata}
    (h : (g.loadRom rom persisted).1 = .ok metadata) :
    (g.loadRom rom persisted).2.NumbersFrom 1 := by
  obtain ⟨cartridge, -, -, hafter⟩ := loadRom_ok h
  rw [hafter]
  rintro bus hbus
  obtain rfl := Option.some.inj hbus
  exact .postBootDmg

theorem reset (h : g.reset.1 = .ok ()) : g.reset.2.NumbersFrom 1 := by
  unfold GameBoy.reset at h ⊢
  split at h
  · cases h
  · rintro bus hbus
    obtain rfl := Option.some.inj hbus
    exact .postBootDmg

theorem reset_error (h : g.NumbersFrom n) {e : CoreError} (he : g.reset.1 = .error e) :
    g.reset.2.NumbersFrom n := by
  unfold GameBoy.reset at he ⊢
  split at he
  · exact h
  · cases he

theorem runCycles (h : g.NumbersFrom n) (budget : Nat) : (g.runCycles budget).2.NumbersFrom n := by
  unfold GameBoy.runCycles
  split
  · exact h
  · next bus hbus =>
    rintro after hafter
    obtain rfl := Option.some.inj hafter
    refine Running.loop_invariant (P := fun b => b.video.NumbersFrom n) (fun b now hb => hb) ?_
      (h bus hbus)
    intro b c hmoved hb
    exact hmoved.driven.invariant (P := fun b => b.video.NumbersFrom n) hb
      fun b op hb => MachineBus.numbersFrom_cpu hb op

theorem takeFrame (h : g.NumbersFrom n) {f : Frame} (hf : g.takeFrame.1 = some f) :
    n ≤ f.sequence ∧ g.takeFrame.2.NumbersFrom (f.sequence + 1) := by
  unfold GameBoy.takeFrame at hf ⊢
  split at hf
  · cases hf
  · next bus hbus =>
    obtain ⟨hlow, hrest⟩ := (h bus hbus).takeFrame hf
    refine ⟨hlow, ?_⟩
    rintro after hafter
    obtain rfl := Option.some.inj hafter
    exact hrest

theorem dropFrame (h : g.NumbersFrom n) : g.takeFrame.2.NumbersFrom n := by
  unfold GameBoy.takeFrame
  split
  · exact h
  · next bus hbus =>
    rintro after hafter
    obtain rfl := Option.some.inj hafter
    exact (h bus hbus).dropFrame

theorem drainAudio (h : g.NumbersFrom n) : g.drainAudio.2.NumbersFrom n := by
  unfold GameBoy.drainAudio
  split
  · exact h
  · next bus hbus =>
    rintro after hafter
    obtain rfl := Option.some.inj hafter
    exact h bus hbus

theorem showInputs {inputs : InputMatrix} (h : g.NumbersFrom n) :
    (GameBoy.showInputs { g with inputs := inputs }).NumbersFrom n := by
  rintro after hafter
  obtain ⟨bus, hbus, rfl⟩ := Option.map_eq_some_iff.mp hafter
  exact h bus hbus

theorem setInput (h : g.NumbersFrom n) (source : InputSourceId) (state : JoypadState) :
    (g.setInput source state).NumbersFrom n := showInputs h

theorem clearInputSource (h : g.NumbersFrom n) (source : InputSourceId) :
    (g.clearInputSource source).NumbersFrom n := showInputs h

end NumbersFrom

end GameBoy

end Pockiva
