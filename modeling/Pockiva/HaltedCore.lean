import Pockiva.CycleBudget
import Pockiva.FrameNumbers

/-! # A core that waits in HALT

With no interrupt enabled a halted CPU never wakes up: the run only clocks the devices,
one M-cycle a step.  A frame's worth of cycles after the boot ROM the PPU has published
a frame.
-/
namespace Pockiva

open Transition

variable {M : MixerModel}

/-- No interrupt is enabled, no transfer is going on, and the PPU is `k` dots after the
boot ROM. -/
structure QuietBus (k : Nat) (b : MachineBus M) : Prop where
  enable : b.interrupts.enable = .empty
  dma : b.dma.active = false
  video : b.video = (Ppu.run (.replicate k .dot) Ppu.postBootDmg).ppu

namespace QuietBus
variable {k : Nat} {b : MachineBus M}

theorem wakePending (h : QuietBus k b) {c : Cpu} (hmode : c.mode ≠ .stopped) :
    wakePending c b = .empty := by
  have hpending : CpuBus.pendingInterrupts b = .empty := by
    show b.interrupts.pending = .empty
    rw [InterruptRegisters.pending, h.enable]
    simp [InterruptMask.intersection, InterruptMask.empty]
  rw [Pockiva.wakePending, wakeCapableInterrupts, if_neg hmode, hpending]

theorem tickMCycle (h : QuietBus k b) : QuietBus (k + 4) b.tickMCycle := by
  have hidle : b.afterTimer.tickDma = b.afterTimer := MachineBus.tickDma_of_inactive h.dma
  refine ⟨?_, ?_, ?_⟩
  · rw [MachineBus.tickMCycle, ← MachineBus.afterTimer, hidle]
    exact h.enable
  · rw [MachineBus.tickMCycle_dma, h.dma, if_neg (by decide)]
    exact h.dma
  · obtain ⟨interrupts, heq⟩ := MachineBus.tickMCycle_eq b
    have hreachable : Reachable Ppu.system b.video := by
      rw [h.video]
      exact Ppu.reachable_run (.start rfl) _
    have hvideo : b.afterTimer.tickDma.video = b.video := by rw [hidle]; rfl
    rw [heq]
    show (b.afterTimer.tickDma.video.tick 4).ppu = _
    rw [hvideo, Ppu.tick_eq_run hreachable, h.video, List.replicate_add, Ppu.run_append,
      Tick.andThen_ppu]

end QuietBus

/-- A CPU in HALT on such a bus. -/
structure Halted (k : Nat) (s : Exec (MachineBus M)) : Prop where
  mode : s.cpu.mode = .halted
  bus : QuietBus k s.bus

namespace Halted
variable {k : Nat}

theorem step {s : Exec (MachineBus M)} (h : Halted k s) :
    nextStepTCycles s.cpu s.bus = .ok 4 ∧ (step.run s).1 = .ok 4 ∧
      Halted (k + 4) (step.run s).2 := by
  have hpending := h.bus.wakePending (c := s.cpu) (by rw [h.mode]; decide)
  have hstep := step_not_dispatch (s := s) (.inr hpending)
  rw [if_neg (by rw [h.mode]; simp), if_pos ⟨h.mode, hpending⟩] at hstep
  have htime :
      CpuBus.elapsedTCycles (CpuBus.idleMCycle s.bus) - CpuBus.elapsedTCycles s.bus = 4 := by
    rw [TimedCpuBus.elapsed_idleMCycle]
    omega
  refine ⟨nextStepTCycles_halted h.mode hpending, ?_, ?_⟩
  · rw [hstep, htime]
  · rw [hstep]
    exact ⟨h.mode, h.bus.tickMCycle⟩

/-- **The run idles until its budget is used up.** -/
theorem loop {budget : Nat} (m : Nat) {rounds : Nat} {r : Running M} (h : Halted k r.exec)
    (hbudget : k + 4 * m = budget) (hrounds : m ≤ rounds) :
    ∃ r', r.loop budget rounds k = (.ok budget, r') ∧ QuietBus budget r'.exec.bus := by
  induction m generalizing k rounds r with
  | zero =>
    obtain rfl : k = budget := hbudget
    refine ⟨r, ?_, h.bus⟩
    cases rounds with
    | zero => rfl
    | succ rounds => rw [Running.loop, if_neg (Nat.lt_irrefl k)]
  | succ m ih =>
    obtain ⟨rounds, rfl⟩ : ∃ n, rounds = n + 1 := ⟨rounds - 1, by omega⟩
    have htimed : Halted k r.timed.exec := ⟨h.mode, h.bus.enable, h.bus.dma, h.bus.video⟩
    obtain ⟨hnext, hok, hafter⟩ := htimed.step
    rw [Running.loop_step hnext (by decide) (by omega) hok]
    exact ih hafter (by omega) (by omega)

end Halted

/-! ## From the boot ROM into HALT -/

/-- An image whose first instruction is HALT. -/
def haltContent (i : Nat) : Byte := if i = 0x100 then 0x76 else nopContent i

theorem parse_haltImage : Header.parse (imageOf 2 haltContent) = .ok nopHeader := by
  have hcompat : Header.compatibilityOf (haltContent 0x143) = .ok .dmg := by decide
  have hfeatures : Header.featuresOf (haltContent 0x147) = .ok nopHeader.features := by decide
  have hbanks : Header.romBanksOf (haltContent 0x148) = .ok 2 := by decide
  have hram : Header.ramBytesOf (haltContent 0x149) = .ok 0 := by decide
  exact parse_imageOf (by decide) hcompat hfeatures hbanks hram (by decide) (.inl rfl) (by decide)

def haltCartridge : Cartridge := plainCartridge nopHeader.metadata haltContent

theorem load_haltImage (now : Nat) :
    Cartridge.load (imageOf 2 haltContent) none now = .ok haltCartridge :=
  Cartridge.load_eq_ok.mpr ⟨nopHeader, parse_haltImage, rfl, rfl⟩

/-- A CPU about to execute its first instruction, which is HALT. -/
structure BeforeHalt (s : Exec (MachineBus M)) : Prop where
  cpu : s.cpu = .postBootDmg
  opcode : fetchedOpcode s = 0x76
  bus : QuietBus 0 s.bus

theorem executeBase_halt {s : Exec (MachineBus M)} {k : Nat} (h : QuietBus k s.bus) :
    (executeBase 0x76).run s = (true, ⟨{ s.cpu with mode := .halted }, s.bus⟩) := by
  have hbase : (executeBase 0x76 : CpuM (MachineBus M) Bool) = executeLoad 6 6 := rfl
  have hpending : CpuBus.pendingInterrupts s.bus = .empty := by
    show s.bus.interrupts.pending = .empty
    rw [InterruptRegisters.pending, h.enable]
    simp [InterruptMask.intersection, InterruptMask.empty]
  rw [hbase]
  simp only [executeLoad, CpuM.run_bind, CpuM.run_cpu, CpuM.run_pure,
    run_pendingInterrupts, CpuM.run_modifyCpu, and_self, if_true, hpending, ne_eq,
    not_true_eq_false, and_false, if_false]

/-- An instruction that took its time is not padded. -/
theorem padTo_done {start target : Nat} {s : Exec (MachineBus M)}
    (h : CpuBus.elapsedTCycles s.bus - start = target) : (padTo start target).run s = ((), s) := by
  rw [padTo]
  cases target with
  | zero => rfl
  | succ n =>
    have hstop : ¬ CpuBus.elapsedTCycles s.bus - start < n + 1 := by omega
    simp only [padLoop, CpuM.run_bind, run_elapsed, if_neg hstop, CpuM.run_pure]

/-- **HALT takes one M-cycle.** -/
theorem halt_step {s : Exec (MachineBus M)} (h : BeforeHalt s) :
    nextStepTCycles s.cpu s.bus = .ok 4 ∧ (step.run s).1 = .ok 4 ∧ Halted 4 (step.run s).2 := by
  have hexecutes : Executes s.cpu s.bus := by
    rw [h.cpu]
    exact ⟨.inl rfl, .inl rfl⟩
  have hawoken : awoken s = s := by
    obtain ⟨c, b⟩ := s
    obtain rfl : c = .postBootDmg := h.cpu
    rfl
  have hpeek : CpuBus.peek8 s.bus s.cpu.registers.pc = 0x76 := by
    rw [← h.opcode, ← CoherentCpuBus.read8_eq_peek8]
    rfl
  have hfetched : QuietBus 4 (afterOpcode s).bus := h.bus.tickMCycle
  have hstep := step_instruction hexecutes
  rw [hawoken] at hstep
  obtain ⟨hok, -⟩ := executeInstruction_base (s := s) (by rw [h.opcode]; decide)
    (by rw [h.opcode]; decide)
  have hcycles : (decode (0x76 : Byte) false).cycles (branchTaken s.cpu.registers.f 0x76) = 4 := by
    rfl
  rw [h.opcode, hcycles] at hok
  have hat : CpuBus.elapsedTCycles (afterOpcode s).bus - CpuBus.elapsedTCycles s.bus = 4 := by
    rw [afterOpcode, TimedCpuBus.elapsed_read8]
    omega
  refine ⟨?_, ?_, ?_⟩
  · rw [nextStepTCycles_executes hexecutes, hawoken, h.opcode]
    dsimp only
    rw [if_neg (by decide), if_neg (by decide), hcycles]
  · rw [hstep]
    exact hok
  · have hafter : (step.run s).2 =
        ⟨{ (afterOpcode s).cpu with mode := .halted }, (afterOpcode s).bus⟩ := by
      rw [hstep]
      have hbase := executeBase_halt hfetched
      have hlegal : (decode (0x76 : Byte) false).illegal = false := rfl
      have htaken : (decode (0x76 : Byte) false).cyclesTaken = 4 := rfl
      have hcb : ¬ (0x76 : Byte) = 0xcb := by decide
      have hpad : (padTo (CpuBus.elapsedTCycles s.bus) 4).run
          (⟨{ (afterOpcode s).cpu with mode := .halted }, (afterOpcode s).bus⟩ :
            Exec (MachineBus M)) =
          ((), ⟨{ (afterOpcode s).cpu with mode := .halted }, (afterOpcode s).bus⟩) :=
        padTo_done hat
      simp only [executeInstruction, CpuM.run_bind, CpuM.run_cpu, run_fetch8_eq, h.opcode,
        if_neg hcb, hlegal, Bool.false_eq_true, if_false, hbase, if_true, htaken, hpad,
        run_elapsed, CpuM.run_pure, applyImeDelay, CpuM.run_modifyCpu]
      rw [afterOpcode, h.cpu]
      rfl
    rw [hafter]
    exact ⟨rfl, hfetched⟩

/-- The run from the boot ROM on. -/
theorem loop_halt {budget m : Nat} {r : Running M} (h : BeforeHalt r.timed.exec)
    (hbudget : budget = 4 + 4 * m) :
    ∃ r', r.loop budget budget 0 = (.ok budget, r') ∧ QuietBus budget r'.exec.bus := by
  obtain ⟨rounds, hrounds⟩ : ∃ rounds, budget = rounds + 1 := ⟨3 + 4 * m, by omega⟩
  obtain ⟨hnext, hok, hafter⟩ := halt_step h
  have hfirst : r.loop budget (rounds + 1) 0 =
      Running.loop budget rounds 4 ⟨r.timed.clock, (step.run r.timed.exec).2⟩ :=
    Running.loop_step hnext (by decide) (by omega) hok
  have hfits : m ≤ rounds := by omega
  obtain ⟨r', hloop, hquiet⟩ := Halted.loop m
    (r := ⟨r.timed.clock, (step.run r.timed.exec).2⟩) hafter hbudget.symm hfits
  refine ⟨r', ?_, hquiet⟩
  rw [← hrounds] at hfirst
  rw [hfirst]
  exact hloop

namespace GameBoy

/-- A core that was just started with such an image. -/
structure StartsHalted (g : GameBoy M) (bus : MachineBus M) : Prop where
  cpu : g.cpu = .postBootDmg
  loaded : g.bus = some bus
  cartridge : bus.cartridge = haltCartridge
  quiet : QuietBus 0 bus

theorem StartsHalted.beforeHalt {g : GameBoy M} {bus : MachineBus M} (h : StartsHalted g bus) :
    BeforeHalt (g.running bus).timed.exec := by
  refine ⟨h.cpu, ?_, h.quiet.enable, h.quiet.dma, h.quiet.video⟩
  have hpc : (g.running bus).timed.exec.cpu.registers.pc = 0x100 := by
    show g.cpu.registers.pc = 0x100
    rw [h.cpu]
    rfl
  rw [fetchedOpcode, hpc]
  exact MachineBus.read8_plain h.cartridge h.quiet.dma (by decide)

/-- A new core after a load of the image. -/
theorem startsHalted_loadRom (g : GameBoy M) :
    ∃ bus, StartsHalted (g.loadRom (imageOf 2 haltContent) none).2 bus := by
  obtain ⟨hcpu, hbus⟩ := bus_loadRom (load_haltImage g.clock.unixSeconds)
  have hnew : ∀ (c : Cartridge) (rate now : Nat) (state : JoypadState),
      ((MachineBus.new (M := M) c rate now).setJoypadState state).cartridge = c ∧
        QuietBus 0 ((MachineBus.new (M := M) c rate now).setJoypadState state) :=
    fun _ _ _ _ => ⟨rfl, rfl, rfl, rfl⟩
  obtain ⟨hcartridge, hquiet⟩ :=
    hnew haltCartridge g.sampleRate g.clock.unixSeconds g.inputs.effective
  exact ⟨_, hcpu, hbus, hcartridge, hquiet⟩

theorem loadRom_halt (g : GameBoy M) :
    g.loadRom (imageOf 2 haltContent) none =
      (.ok haltCartridge.metadata, (g.loadRom (imageOf 2 haltContent) none).2) := by
  rw [loadRom, load_haltImage]

/-- **A frame's worth of cycles gives the first frame of the PPU.** -/
theorem StartsHalted.runCycles {g : GameBoy M} {bus : MachineBus M} (h : StartsHalted g bus)
    {budget m : Nat} (hbudget : budget = 4 + 4 * m) :
    ∃ outcome : RunOutcome, (g.runCycles budget).1 = .ok outcome ∧
      outcome.frameReady = ((g.runCycles budget).2.drainAudio.2).takeFrame.1.isSome ∧
      ((g.runCycles budget).2.drainAudio.2).takeFrame.1 =
        (Ppu.run (.replicate budget .dot) Ppu.postBootDmg).ppu.pendingFrame := by
  obtain ⟨r', hloop, hquiet⟩ := loop_halt h.beforeHalt hbudget
  have hrun : g.runCycles budget = (.ok
      { cyclesExecuted := budget
        frameReady := r'.exec.bus.frameReady
        stereoFramesAvailable := r'.exec.bus.stereoFramesAvailable }, g.resume r') := by
    rw [GameBoy.runCycles, h.loaded]
    dsimp only
    rw [hloop]
    rfl
  rw [hrun]
  refine ⟨_, rfl, rfl, ?_⟩
  show r'.exec.bus.video.pendingFrame = _
  rw [hquiet.video]

end GameBoy

end Pockiva
