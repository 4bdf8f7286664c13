import Pockiva.HaltedCore
import Pockiva.Slices

/-! # Illegal opcodes

A call of `run_cycles` that fails has executed its instructions completely and stands
before an illegal opcode: the prediction peeks the very byte the fetch would read, so the
error of `step` itself is never met.  The next call fails in the same way.
-/
namespace Pockiva

open Transition

variable {M : MixerModel}

/-- **The prediction fails at an illegal opcode and nowhere else.** -/
theorem nextStep_error {β : Type} [CpuBus β] {c : Cpu} {bus : β} {e : CoreError}
    (h : nextStepTCycles c bus = .error e) :
    (decode (CpuBus.peek8 bus c.registers.pc) false).illegal = true ∧
      e = illegalOpcode (CpuBus.peek8 bus c.registers.pc) c.registers.pc := by
  unfold nextStepTCycles at h
  dsimp only at h
  split at h
  · cases h
  split at h
  · cases h
  split at h
  · cases h
  by_cases hcb : CpuBus.peek8 bus c.registers.pc = 0xcb
  · -- a prefixed instruction is always legal
    rw [if_pos hcb, if_neg (by rw [decode]; exact Bool.false_ne_true)] at h
    cases h
  · rw [if_neg hcb] at h
    split at h
    · rename_i hillegal
      exact ⟨hillegal, (Except.error.inj h).symm⟩
    · cases h

namespace GameBoy

/-- **What a call that fails with `e` leaves.** -/
structure FailsAtomically (g : GameBoy M) (bus : MachineBus M) (budget : Nat) (e : CoreError) :
    Prop where
  /-- The state after the last complete instruction, but for the time the bus was told. -/
  atomic : ∃ total last, Running.Runs (g.running bus) (g.steps budget) total last ∧
    (g.runCycles budget).2.cpu = last.exec.cpu ∧
    (g.runCycles budget).2.bus = some (last.exec.bus.setUnixSeconds last.clock.unixSeconds) ∧
    (g.runCycles budget).2.inputs = g.inputs ∧
    (g.runCycles budget).2.elapsed = g.elapsed + total
  opcode : ∃ after, (g.runCycles budget).2.bus = some after ∧
    (decode (after.peek8 (g.runCycles budget).2.cpu.registers.pc) false).illegal = true ∧
    e = illegalOpcode (after.peek8 (g.runCycles budget).2.cpu.registers.pc)
      (g.runCycles budget).2.cpu.registers.pc
  /-- Where the loop of the call comes to `step`, that succeeds. -/
  unreachable : ∀ (r : Running M) (executed : Nat) (error : CoreError) (after : Running M),
    r.round budget executed = .error error after →
      nextStepTCycles r.timed.exec.cpu r.timed.exec.bus = .error error ∧ after = r.timed
  again : ∀ now, (∀ k, g.clock.readings k = now) → ∀ next, 0 < next →
    (((g.runCycles budget).2).runCycles next).1 = .error e ∧
      SameState (((g.runCycles budget).2).runCycles next).2 (g.runCycles budget).2

/-- A call that fails before its first instruction. -/
theorem runCycles_error {g : GameBoy M} {bus : MachineBus M} (hbus : g.bus = some bus)
    {e : CoreError}
    (h : nextStepTCycles (g.running bus).timed.exec.cpu (g.running bus).timed.exec.bus = .error e)
    {budget : Nat} (hbudget : 0 < budget) :
    g.runCycles budget = (.error e, g.resume (g.running bus).timed) := by
  obtain ⟨rounds, rfl⟩ : ∃ rounds, budget = rounds + 1 := ⟨budget - 1, by omega⟩
  have hround : (g.running bus).round (rounds + 1) 0 = .error e (g.running bus).timed := by
    rw [Running.round]
    dsimp only
    rw [h]
  have hloop : (g.running bus).loop (rounds + 1) (rounds + 1) 0 =
      (.error e, (g.running bus).timed) := by
    rw [Running.loop, if_pos hbudget, hround]
  rw [runCycles_loaded hbus, hloop]
  rfl

/-- **Main result.**  A call that fails on a loaded core fails between two instructions, before an
illegal opcode. -/
theorem illegal_opcode {g : GameBoy M} {bus : MachineBus M} (hbus : g.bus = some bus) {budget : Nat}
    {e : CoreError} (h : (g.runCycles budget).1 = .error e) : g.FailsAtomically bus budget e := by
  have hsteps : g.steps budget = (g.running bus).steps budget budget 0 := by rw [steps, hbus]
  obtain ⟨total, last, hruns, hends⟩ := Running.loop_runs budget budget 0 (g.running bus)
  -- the loop ends in the prediction for the state after the last instruction
  have hfails : nextStepTCycles last.timed.exec.cpu last.timed.exec.bus = .error e ∧
      (g.runCycles budget).2 = g.resume last.timed := by
    rw [runCycles_loaded hbus] at h ⊢
    generalize (g.running bus).loop budget budget 0 = result at h hends
    cases hends with
    | spent => cases h
    | stop => cases h
    | error e' hnext =>
      obtain rfl : e' = e := Except.error.inj h
      exact ⟨hnext, rfl⟩
  obtain ⟨hnext, hafter⟩ := hfails
  obtain ⟨hillegal, he⟩ := nextStep_error hnext
  rw [hsteps.symm] at hruns
  refine ⟨⟨total, last, hruns, ?_⟩, ?_, fun r executed error after => Running.round_error, ?_⟩
  · rw [hafter]
    refine ⟨rfl, rfl, rfl, ?_⟩
    have hpassed : last.elapsed = (g.running bus).elapsed + total := hruns.elapsed
    rw [elapsed, elapsed, hbus]
    exact hpassed
  · rw [hafter]
    exact ⟨_, rfl, hillegal, he⟩
  · intro now hclock next hpos
    have hreadings : last.clock.readings = g.clock.readings := hruns.readings
    -- the clock reads the same again
    have hagain : ((g.resume last.timed).running last.timed.exec.bus).timed.exec =
        last.timed.exec := by
      have hfirst : last.clock.unixSeconds = now := by rw [Clock.unixSeconds, hreadings, hclock]
      have hsecond : last.timed.clock.unixSeconds = now := by
        show last.clock.readings _ = now
        rw [hreadings, hclock]
      show (⟨last.exec.cpu, (last.exec.bus.setUnixSeconds last.clock.unixSeconds).setUnixSeconds
        last.timed.clock.unixSeconds⟩ : Exec (MachineBus M)) = ⟨last.exec.cpu,
          last.exec.bus.setUnixSeconds last.clock.unixSeconds⟩
      rw [hfirst, hsecond]
      rfl
    rw [hafter, runCycles_error (g := g.resume last.timed) rfl (by rw [hagain]; exact hnext) hpos]
    refine ⟨rfl, rfl, rfl, ?_, ?_, rfl⟩
    · exact congrArg Exec.cpu hagain
    · exact congrArg (fun s => some s.bus) hagain

/-- An image whose first byte is no instruction. -/
def illegalContent (i : Nat) : Byte := if i = 0x100 then 0xd3 else nopContent i

theorem parse_illegalImage : Header.parse (imageOf 2 illegalContent) = .ok nopHeader := by
  have hcompat : Header.compatibilityOf (illegalContent 0x143) = .ok .dmg := by decide
  have hfeatures : Header.featuresOf (illegalContent 0x147) = .ok nopHeader.features := by decide
  have hbanks : Header.romBanksOf (illegalContent 0x148) = .ok 2 := by decide
  have hram : Header.ramBytesOf (illegalContent 0x149) = .ok 0 := by decide
  exact parse_imageOf (by decide) hcompat hfeatures hbanks hram (by decide) (.inl rfl) (by decide)

theorem load_illegalImage (now : Nat) : Cartridge.load (imageOf 2 illegalContent) none now =
    .ok (plainCartridge nopHeader.metadata illegalContent) :=
  Cartridge.load_eq_ok.mpr ⟨nopHeader, parse_illegalImage, rfl, rfl⟩

/-- The first call on a bus with it. -/
theorem runCycles_illegal {g : GameBoy M} {bus : MachineBus M} (hcpu : g.cpu = .postBootDmg)
    (hbus : g.bus = some bus)
    (hcartridge : bus.cartridge = plainCartridge nopHeader.metadata illegalContent)
    (hdma : bus.dma.active = false) {budget : Nat} (hbudget : 0 < budget) :
    (g.runCycles budget).1 = .error (illegalOpcode 0xd3 0x0100) := by
  have hnext : ∀ b : MachineBus M,
      b.cartridge = plainCartridge nopHeader.metadata illegalContent → b.dma.active = false →
      nextStepTCycles Cpu.postBootDmg b = .error (illegalOpcode 0xd3 0x0100) := by
    intro b hcartridge hdma
    have hbyte : CpuBus.peek8 b 0x0100 = 0xd3 :=
      MachineBus.read8_plain hcartridge hdma (by decide)
    have hpc : Cpu.postBootDmg.registers.pc = 0x0100 := rfl
    have hexecutes : Executes Cpu.postBootDmg b := ⟨.inl rfl, .inl rfl⟩
    have hfetch := nextStepTCycles_executes (s := ⟨Cpu.postBootDmg, b⟩) hexecutes
    rw [hfetch, fetchedOpcode_awoken]
    dsimp only
    rw [hpc, hbyte]
    rfl
  have hfails : nextStepTCycles (g.running bus).timed.exec.cpu (g.running bus).timed.exec.bus =
      .error (illegalOpcode 0xd3 0x0100) := by
    have hsame : (g.running bus).timed.exec.cpu = .postBootDmg := hcpu
    rw [hsame]
    exact hnext _ hcartridge hdma
  rw [runCycles_error hbus hfails hbudget]

/-- A core that was just loaded with it. -/
theorem runCycles_loadRom_illegal {g : GameBoy M} {budget : Nat} (hbudget : 0 < budget) :
    ((g.loadRom (imageOf 2 illegalContent) none).2.runCycles budget).1 =
      .error (illegalOpcode 0xd3 0x0100) := by
  obtain ⟨hcpu, hbus⟩ := bus_loadRom (load_illegalImage g.clock.unixSeconds)
  exact runCycles_illegal hcpu hbus rfl rfl hbudget

/-- It fails at once. -/
theorem illegal_opcode_first : ∃ g : GameBoy .mute, Reachable (GameBoy.system .mute) g ∧
    ∃ bus, g.FailsAtomically bus 4 (illegalOpcode 0xd3 0x0100) := by
  have hload := load_illegalImage (GameBoy.new (M := .mute) ⟨fun _ => 0, 0⟩ 44100).clock.unixSeconds
  exact ⟨_, reachable_loadRom (.start ⟨⟨fun _ => 0, 0⟩, 44100, by decide, rfl⟩) _ _, _,
    illegal_opcode (bus_loadRom hload).2 (runCycles_loadRom_illegal (by decide))⟩

end GameBoy

end Pockiva
