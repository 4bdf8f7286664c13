import Pockiva.Cpu.Flow
import Pockiva.MachineRuns
import Pockiva.Ppu.Reachable

/-! # The cycle budget

`run_cycles` stops before the step that would exceed its budget, by the prediction of
`next_step_t_cycles`.  Whatever the machine, the prediction is exact for every step
but a CB instruction whose operand byte changes while the prefix is read
(`OperandSettled`); `cycle_budget` states what follows for a call.
-/
namespace Pockiva

open Transition

variable {M : MixerModel}

/-- The T-cycles that have passed. -/
def Running.elapsed (r : Running M) : Nat := r.exec.bus.elapsedTCycles

/-- The step takes the time that was predicted for it. -/
def Predicted (s : Exec (MachineBus M)) : Prop :=
  ∃ n, nextStepTCycles s.cpu s.bus = .ok n ∧ (step.run s).1 = .ok n

theorem predicted_iff {s : Exec (MachineBus M)} {n : Nat}
    (h : nextStepTCycles s.cpu s.bus = .ok n) : Predicted s ↔ OperandSettled s.cpu s.bus := by
  obtain ⟨m, hm, -, hiff⟩ := step_prediction h
  rw [← hiff]
  constructor
  · rintro ⟨k, hk, hstep⟩
    rw [h, Except.ok.injEq] at hk
    rw [hm, Except.ok.injEq] at hstep
    rw [hk, hstep]
  · rintro rfl
    exact ⟨m, h, hm⟩

namespace Running

/-- **What a round that takes a step does.** -/
theorem round_step {budget executed tCycles : Nat} {r after : Running M}
    (h : r.round budget executed = .step tCycles after) :
    ∃ n, nextStepTCycles r.timed.exec.cpu r.timed.exec.bus = .ok n ∧ 0 < n ∧
      n ≤ budget - executed ∧ (step.run r.timed.exec).1 = .ok tCycles ∧
      after.elapsed = r.elapsed + tCycles := by
  unfold round at h
  dsimp only at h
  cases hn : nextStepTCycles r.timed.exec.cpu r.timed.exec.bus with
  | error e =>
    rw [hn] at h
    cases h
  | ok n =>
    rw [hn] at h
    dsimp only at h
    by_cases hstop : n = 0 ∨ n > budget - executed
    · rw [if_pos hstop] at h
      cases h
    · rw [if_neg hstop] at h
      cases hm : (step.run r.timed.exec).1 with
      | error e =>
        rw [hm] at h
        cases h
      | ok m =>
        rw [hm] at h
        dsimp only at h
        injection h with htime hafter
        have hpassed := step_elapsed hm
        subst htime
        refine ⟨n, rfl, by omega, by omega, rfl, ?_⟩
        rw [← hafter]
        exact hpassed

/-- A round that stops the loop only reads the clock. -/
theorem round_stop {budget executed : Nat} {r after : Running M}
    (h : r.round budget executed = .stop after) : after.elapsed = r.elapsed := by
  unfold round at h
  dsimp only at h
  split at h
  · cases h
  · split at h
    · injection h with hafter
      rw [← hafter]
      rfl
    · split at h <;> cases h

/-- A step of the loop takes time. -/
theorem round_step_pos {budget executed tCycles : Nat} {r after : Running M}
    (h : r.round budget executed = .step tCycles after) : 0 < tCycles := by
  obtain ⟨n, hn, hpos, -, hm, -⟩ := round_step h
  by_cases hx : Executes r.timed.exec.cpu r.timed.exec.bus
  · exact step_executes_pos hx hm
  · -- a step that executes nothing is predicted exactly
    obtain ⟨m, hm', -, hiff⟩ := step_prediction hn
    rw [hm, Except.ok.injEq] at hm'
    have hsettled : OperandSettled r.timed.exec.cpu r.timed.exec.bus := fun he => absurd he hx
    rw [hm', hiff.mpr hsettled]
    exact hpos

/-- **The fuel suffices**: one round for each cycle of the budget that is left. -/
theorem loop_fuel {budget rounds executed : Nat} (r : Running M) (h : budget - executed ≤ rounds) :
    r.loop budget (rounds + 1) executed = r.loop budget rounds executed := by
  induction rounds generalizing executed r with
  | zero =>
    have hdone : ¬ executed < budget := by omega
    rw [Nat.zero_add, loop, loop, if_neg hdone]
  | succ rounds ih =>
    by_cases hlt : executed < budget
    · rw [loop, if_pos hlt, loop, if_pos hlt]
      cases hround : r.round budget executed with
      | stop after => rfl
      | error e after => rfl
      | step tCycles after =>
        have hpos := round_step_pos hround
        exact ih after (by omega)
    · rw [loop, if_neg hlt, loop, if_neg hlt]

/-- The states in which the loop takes a step. -/
def steps (budget : Nat) : Nat → Nat → Running M → List (Exec (MachineBus M))
  | 0, _, _ => []
  | rounds + 1, executed, r =>
    if executed < budget then
      match r.round budget executed with
      | .step tCycles after => r.timed.exec :: steps budget rounds (executed + tCycles) after
      | _ => []
    else []

/-- Each of these steps was predicted. -/
theorem nextStep_of_mem_steps {budget rounds executed : Nat} {r : Running M}
    {s : Exec (MachineBus M)} (h : s ∈ r.steps budget rounds executed) :
    ∃ n, nextStepTCycles s.cpu s.bus = .ok n := by
  induction rounds generalizing executed r with
  | zero => cases h
  | succ rounds ih =>
    rw [steps] at h
    split at h
    · cases hround : r.round budget executed with
      | stop after =>
        rw [hround] at h
        cases h
      | error e after =>
        rw [hround] at h
        cases h
      | step tCycles after =>
        rw [hround] at h
        rcases List.mem_cons.mp h with rfl | hrest
        · obtain ⟨n, hn, -⟩ := round_step hround
          exact ⟨n, hn⟩
        · exact ih hrest
    · cases h

/-- The counter of the loop counts the cycles that pass. -/
theorem loop_elapsed {budget rounds executed total : Nat} {r after : Running M}
    (h : r.loop budget rounds executed = (.ok total, after)) :
    after.elapsed + executed = r.elapsed + total := by
  induction rounds generalizing executed r with
  | zero =>
    rw [loop, Prod.mk.injEq, Except.ok.injEq] at h
    rw [h.1, h.2]
  | succ rounds ih =>
    rw [loop] at h
    split at h
    · cases hround : r.round budget executed with
      | stop stopped =>
        rw [hround, Prod.mk.injEq, Except.ok.injEq] at h
        rw [← h.1, ← h.2, round_stop hround]
      | error e stopped =>
        rw [hround] at h
        cases h
      | step tCycles next =>
        rw [hround] at h
        obtain ⟨-, -, -, -, -, hpassed⟩ := round_step hround
        have hrest := ih h
        omega
    · rw [Prod.mk.injEq, Except.ok.injEq] at h
      rw [h.1, h.2]

/-- If every step takes the predicted time, the budget is kept. -/
theorem loop_le {budget rounds executed total : Nat} {r after : Running M}
    (h : r.loop budget rounds executed = (.ok total, after)) (hle : executed ≤ budget)
    (hsettled : ∀ s ∈ r.steps budget rounds executed, OperandSettled s.cpu s.bus) :
    total ≤ budget := by
  induction rounds generalizing executed r with
  | zero =>
    rw [loop, Prod.mk.injEq, Except.ok.injEq] at h
    rw [← h.1]
    exact hle
  | succ rounds ih =>
    rw [loop] at h
    rw [steps] at hsettled
    by_cases hlt : executed < budget
    · rw [if_pos hlt] at h hsettled
      cases hround : r.round budget executed with
      | stop stopped =>
        rw [hround, Prod.mk.injEq, Except.ok.injEq] at h
        omega
      | error e stopped =>
        rw [hround] at h
        cases h
      | step tCycles next =>
        rw [hround] at h hsettled
        obtain ⟨n, hn, -, hbudget, hm, -⟩ := round_step hround
        obtain ⟨m, hm', -, hiff⟩ := step_prediction hn
        rw [hm, Except.ok.injEq] at hm'
        have hexact : m = n := hiff.mpr (hsettled _ List.mem_cons_self)
        exact ih h (by omega) fun s hs => hsettled s (List.mem_cons_of_mem _ hs)
    · rw [if_neg hlt, Prod.mk.injEq, Except.ok.injEq] at h
      omega

end Running

namespace GameBoy

/-- The T-cycles that have passed since the last reset. -/
def elapsed (g : GameBoy M) : Nat :=
  match g.bus with
  | none => 0
  | some bus => bus.elapsedTCycles

/-- The states in which a call of `run_cycles` takes a step. -/
def steps (g : GameBoy M) (cycleBudget : Nat) : List (Exec (MachineBus M)) :=
  match g.bus with
  | none => []
  | some bus => (g.running bus).steps cycleBudget cycleBudget 0

/-- What the cycle budget promises of a call that returns `outcome`. -/
structure BudgetLaw (g : GameBoy M) (cycleBudget : Nat) (outcome : RunOutcome) : Prop where
  within : outcome.cyclesExecuted ≤ cycleBudget
  passed : (g.runCycles cycleBudget).2.elapsed = g.elapsed + outcome.cyclesExecuted
  predicted : ∀ s ∈ g.steps cycleBudget, Predicted s

/-- **The cycle budget.**  A call that returns keeps to its budget, reports the cycles
that passed, and takes every step in the predicted time, if and only if the operand of
every CB instruction it executes is settled when the step is predicted. -/
theorem cycle_budget {g : GameBoy M} {cycleBudget : Nat} {outcome : RunOutcome}
    (h : (g.runCycles cycleBudget).1 = .ok outcome) :
    BudgetLaw g cycleBudget outcome ↔
      ∀ s ∈ g.steps cycleBudget, OperandSettled s.cpu s.bus := by
  cases hbus : g.bus with
  | none =>
    rw [runCycles, hbus] at h
    cases h
  | some bus =>
    have hsteps : g.steps cycleBudget = (g.running bus).steps cycleBudget cycleBudget 0 := by
      rw [steps, hbus]
    have hpredicted : ∀ s ∈ g.steps cycleBudget,
        (Predicted s ↔ OperandSettled s.cpu s.bus) := by
      intro s hs
      rw [hsteps] at hs
      obtain ⟨n, hn⟩ := Running.nextStep_of_mem_steps hs
      exact predicted_iff hn
    refine ⟨fun hlaw s hs => (hpredicted s hs).mp (hlaw.predicted s hs), fun hsettled => ?_⟩
    have hall := fun s hs => (hpredicted s hs).mpr (hsettled s hs)
    rw [hsteps] at hsettled
    generalize hloop : (g.running bus).loop cycleBudget cycleBudget 0 = result at h
    have hrun : g.runCycles cycleBudget =
        (result.1.map fun executed =>
          { cyclesExecuted := executed
            frameReady := result.2.exec.bus.frameReady
            stereoFramesAvailable := result.2.exec.bus.stereoFramesAvailable },
          g.resume result.2) := by
      rw [runCycles, hbus]
      dsimp only
      rw [hloop]
    rw [hrun] at h
    obtain ⟨e | total, after⟩ := result
    · cases h
    injection h with houtcome
    subst houtcome
    have hpassed := Running.loop_elapsed hloop
    refine ⟨Running.loop_le hloop (Nat.zero_le _) hsettled, ?_, hall⟩
    rw [hrun, elapsed, elapsed, hbus]
    exact hpassed

end GameBoy

/-! ## A program that exceeds its budget

The prefix CB is the last byte of ROM and its operand the first byte of VRAM.  The
prediction is made while mode 3 locks VRAM, the operand is read when mode 3 is over.
-/

/-- The PPU on dot `k` of the first line after the boot ROM, with `v` at 8000. -/
structure FirstLine (k : Nat) (v : Byte) (p : Ppu) : Prop where
  timeline : p.raster.Timeline
  registers : p.registers = .postBootDmg
  line : p.internalLine = 0
  startup : p.startupLine = false
  phase : p.lcdPhase = 0
  dot : p.dot = k
  visible : p.visibleHblankDot = 252
  mode3End : p.mode3EndDot = 252
  vram : p.vram.get 0 = v

namespace FirstLine
variable {k : Nat} {v : Byte} {p : Ppu}

theorem enabled (h : FirstLine k v p) : p.lcdEnabled = true := by
  rw [Ppu.lcdEnabled, h.registers]
  rfl

theorem mode3StartDot (h : FirstLine k v p) : p.mode3StartDot = 80 := by
  rw [Ppu.mode3StartDot, h.startup, h.phase]
  rfl

/-- Mode 3 of this line lasts 172 dots: no scrolling, no window, no sprites. -/
theorem mode3EndDot_startDrawing (h : FirstLine k v p) :
    p.advanced.startDrawing.mode3EndDot = 252 ∧
      p.advanced.startDrawing.visibleHblankDot = 252 := by
  have hpenalty : ∀ q : Ppu, q.registers = p.registers → q.spriteMode3Penalty = 0 := by
    intro q hq
    rw [Ppu.spriteMode3Penalty, hq, h.registers]
    rfl
  have hcompute : ∀ q : Ppu, q.registers = p.registers → q.mode3StartDot = 80 →
      q.computeMode3EndDot = 252 := by
    intro q hq hstart
    have hscx : q.registers.scx = 0 := by rw [hq, h.registers]; rfl
    have hwindow : q.windowPenalty = 0 := by
      rw [Ppu.windowPenalty, Ppu.windowVisibleOnLine, hq, h.registers]
      rfl
    rw [Ppu.computeMode3EndDot, hstart, hscx, hwindow, hpenalty q hq]
    rfl
  have hend : p.advanced.startDrawing.mode3EndDot = 252 := hcompute _ rfl h.mode3StartDot
  refine ⟨hend, ?_⟩
  have hvisible : p.advanced.startDrawing.visibleHblankDot =
      p.advanced.startDrawing.mode3EndDot := by
    refine if_pos ?_
    exact hpenalty _ rfl
  exact hvisible.trans hend

/-- The next dot, up to the last of mode 3. -/
theorem tickOne (h : FirstLine k v p) (hk : k + 1 < 252) : FirstLine (k + 1) v p.tickOne.ppu := by
  have hstart := h.mode3StartDot
  have htimeline := Ppu.timeline_tickOne h.timeline
  have hevent := Ppu.tickOne_event h.timeline
  have hline := h.line
  have hphase := h.phase
  have hdot := h.dot
  have hvisible := h.visible
  have hend := h.mode3End
  generalize p.tickOne = t at htimeline hevent
  cases hevent with
  | startDrawing =>
    obtain ⟨h1, h2⟩ := h.mode3EndDot_startDrawing
    exact ⟨htimeline, h.registers, h.line, h.startup, h.phase, congrArg (· + 1) h.dot, h2, h1,
      h.vram⟩
  | none =>
    exact ⟨htimeline, h.registers, h.line, h.startup, h.phase, congrArg (· + 1) h.dot, h.visible,
      h.mode3End, h.vram⟩
  | line153 => omega
  | line144 => omega
  | lateScan => omega
  | hblank => omega
  | mode3End => omega
  | endVisible => omega
  | enterVblank => omega
  | endVblank => omega
  | wrap => omega

/-- The dot that ends mode 3 of this line. -/
theorem tickOne_hblank (h : FirstLine 251 v p) :
    p.tickOne.ppu.read 0x8000 = v := by
  have hstart := h.mode3StartDot
  have hevent := Ppu.tickOne_event h.timeline
  have hline := h.line
  have hphase := h.phase
  have hdot := h.dot
  have hvisible := h.visible
  have hend := h.mode3End
  generalize p.tickOne = t at hevent
  cases hevent with
  | hblank =>
    have haccess : ∀ q : Ppu, q.registers = p.registers → q.internalLine = 0 →
        q.startupLine = false → q.lcdPhase = 0 → q.dot = 252 → q.visibleHblankDot = 252 →
        q.vram = p.vram → q.read 0x8000 = v := by
      intro q hregisters h1 h2 h3 h4 h5 hvram
      have hopen : q.vramCpuAccessible = true := by
        rw [Ppu.vramCpuAccessible, Ppu.lcdEnabled, hregisters, h.registers, h1, h2,
          Ppu.accessHblankDot, h3, h4, h5]
        rfl
      rw [Ppu.read, if_pos ⟨by decide, hopen⟩, hvram]
      exact h.vram
    exact haccess _ rfl h.line h.startup h.phase (congrArg (· + 1) h.dot) h.visible rfl
  | startDrawing => omega
  | none _ _ _ _ hne => exact absurd (by omega) (hne (by omega))
  | line153 => omega
  | line144 => omega
  | lateScan => omega
  | mode3End => omega
  | endVisible => omega
  | enterVblank => omega
  | endVblank => omega
  | wrap => omega

/-- Before the end of mode 3 VRAM is locked. -/
theorem read_locked (h : FirstLine k v p) (h80 : 80 ≤ k) (h252 : k < 252) :
    p.read 0x8000 = 0xff := by
  have hclosed : p.vramCpuAccessible = false := by
    rw [Ppu.vramCpuAccessible, h.enabled, h.line, h.startup, Ppu.accessHblankDot, h.phase, h.dot,
      h.visible]
    simp [mode2Dots]
    omega
  have hoam : ¬ Ppu.inOam 0x8000 := by decide
  rw [Ppu.read, hclosed, if_neg (by simp), if_neg fun h => hoam h.1]
  rfl

/-- Some dots. -/
theorem tickLoop (h : FirstLine k v p) {n : Nat} (hn : k + n < 252) :
    FirstLine (k + n) v (Ppu.tickLoop n p).ppu := by
  induction n with
  | zero => exact h
  | succ n ih =>
    rw [Ppu.tickLoop, Tick.andThen_ppu]
    exact (ih (by omega)).tickOne (by omega)

/-- An M-cycle of dots. -/
theorem tick (h : FirstLine k v p) (hk : k + 4 < 252) : FirstLine (k + 4) v (p.tick 4).ppu := by
  rw [Ppu.tick, if_pos h.enabled]
  exact h.tickLoop hk

/-- The M-cycle in which mode 3 ends. -/
theorem tick_hblank (h : FirstLine 248 v p) : (p.tick 4).ppu.read 0x8000 = v := by
  rw [Ppu.tick, if_pos h.enabled, Ppu.tickLoop, Tick.andThen_ppu]
  have h3 := h.tickLoop (n := 3) (by decide)
  exact h3.tickOne_hblank

end FirstLine

/-! ### The image -/

/-- LD HL,8000; LD (HL),06; 52 times NOP; JP 7FFF; and CB at 7FFF. -/
def sledContent (i : Nat) : Byte :=
  match i with
  | 0x100 => 0x21
  | 0x102 => 0x80
  | 0x103 => 0x36
  | 0x104 => 0x06
  | 0x139 => 0xc3
  | 0x13a => 0xff
  | 0x13b => 0x7f
  | 0x14d => 0xa6
  | 0x7fff => 0xcb
  | _ => 0

def sledHeader : Header where
  metadata := ⟨.romOnly, .dmg, 0, false⟩
  features := ⟨.romOnly, false, false, false, false⟩
  romBanks := 2
  ramBytes := 0

theorem parse_sledImage : Header.parse (imageOf 2 sledContent) = .ok sledHeader := by
  have hcompat : Header.compatibilityOf (sledContent 0x143) = .ok .dmg := by decide
  have hfeatures : Header.featuresOf (sledContent 0x147) = .ok sledHeader.features := by decide
  have hbanks : Header.romBanksOf (sledContent 0x148) = .ok 2 := by decide
  have hram : Header.ramBytesOf (sledContent 0x149) = .ok 0 := by decide
  exact parse_imageOf (by decide) hcompat hfeatures hbanks hram (by decide) (.inl rfl) (by decide)

def sledCartridge : Cartridge := ⟨sledHeader.metadata, .romOnly ⟨imageOf 2 sledContent, [], false⟩⟩

theorem load_sledImage (now : Nat) :
    Cartridge.load (imageOf 2 sledContent) none now = .ok sledCartridge := by
  refine Cartridge.load_eq_ok.mpr ⟨sledHeader, parse_sledImage, rfl, ?_⟩
  rfl

/-- A bus with that cartridge on the first line, without OAM DMA. -/
structure SledBus (v : Byte) (b : MachineBus M) : Prop where
  cartridge : b.cartridge = sledCartridge
  dma : b.dma.active = false
  video : b.elapsedTCycles < 252 → FirstLine b.elapsedTCycles v b.video

namespace SledBus
variable {v : Byte} {b : MachineBus M}

theorem read8 (h : SledBus v b) {address : Word} (ha : inRom address) :
    (CpuBus.read8 b address).1 = sledContent address.toNat :=
  MachineBus.read8_plain h.cartridge h.dma ha

/-- Without DMA the M-cycle is one of the devices alone. -/
theorem video_tickMCycle (h : SledBus v b) : b.tickMCycle.video = (b.video.tick 4).ppu := by
  have hnext : b.dma.nextAddress = none := by simp [OamDma.nextAddress, h.dma]
  unfold MachineBus.tickMCycle MachineBus.tickDma
  simp only [hnext]
  rfl

theorem tickMCycle (h : SledBus v b) : SledBus v b.tickMCycle := by
  have hnext : b.dma.nextAddress = none := by simp [OamDma.nextAddress, h.dma]
  refine ⟨?_, ?_, fun hlt => ?_⟩
  · unfold MachineBus.tickMCycle MachineBus.tickDma
    simp only [hnext]
    exact h.cartridge
  · unfold MachineBus.tickMCycle MachineBus.tickDma
    simp only [hnext]
    exact h.dma
  · rw [MachineBus.tickMCycle_elapsed] at hlt ⊢
    rw [h.video_tickMCycle]
    exact (h.video (by omega)).tick hlt

/-- The write to 8000 during the OAM scan. -/
theorem write8 (h : SledBus v b) (hlt : b.elapsedTCycles < 80) (value : Byte) :
    SledBus value (b.write8 0x8000 value) := by
  have hwrite : ∀ p : Ppu, FirstLine b.elapsedTCycles v p →
      (p.write 0x8000 value).requested = .empty ∧
        FirstLine b.elapsedTCycles value (p.write 0x8000 value).ppu := by
    intro p hp
    have hopen : p.vramCpuWriteAccessible = true := by
      rw [Ppu.vramCpuWriteAccessible, Ppu.vramCpuAccessible, hp.enabled, hp.line, hp.startup,
        hp.dot]
      simp [mode2Dots, hlt]
    rw [Ppu.write, if_pos ⟨by decide, hopen⟩]
    exact ⟨rfl, hp.timeline, hp.registers, hp.line, hp.startup, hp.phase, hp.dot, hp.visible,
      hp.mode3End, Bytes.get_set_self _ (by decide) _⟩
  obtain ⟨-, hvideo⟩ := hwrite b.video (h.video (by omega))
  have hallowed : b.writeAllowed 0x8000 = true := by simp [MachineBus.writeAllowed, h.dma]
  have hrom : ¬ (inRom 0x8000 ∨ inExternalRam 0x8000) := by decide
  rw [MachineBus.write8, if_pos hallowed, if_pos (by decide)]
  refine SledBus.tickMCycle ?_
  rw [MachineBus.writeUnclocked, if_neg hrom, if_pos (by decide)]
  exact ⟨h.cartridge, h.dma, fun _ => hvideo⟩

theorem setUnixSeconds (h : SledBus v b) (now : Nat) : SledBus v (b.setUnixSeconds now) :=
  ⟨h.cartridge, h.dma, h.video⟩

theorem padLoop (start target : Nat) : ∀ (rounds : Nat) (s : Exec (MachineBus M)),
    SledBus v s.bus → SledBus v ((padLoop start target rounds).run s).2.bus := by
  intro rounds
  induction rounds with
  | zero => exact fun s h => h
  | succ rounds ih =>
    intro s h
    simp only [Pockiva.padLoop, CpuM.run_bind, run_elapsed, CpuM.run_ite]
    split
    · simp only [run_idleMCycle]
      exact ih _ h.tickMCycle
    · exact h

end SledBus

/-! ### The program -/

/-- The program at cycle `k`, with the given registers. -/
structure OnSled (k : Nat) (v : Byte) (r : Registers) (s : Exec (MachineBus M)) : Prop where
  cpu : s.cpu = ⟨r, false, 0, .running, false⟩
  bus : SledBus v s.bus
  time : s.bus.elapsedTCycles = k

namespace OnSled
variable {k : Nat} {v : Byte} {r : Registers} {s : Exec (MachineBus M)}

theorem executes (h : OnSled k v r s) : Executes s.cpu s.bus := by
  rw [h.cpu]
  exact ⟨.inl rfl, .inl rfl⟩

theorem awoken_eq (h : OnSled k v r s) : awoken s = s := by
  obtain ⟨c, b⟩ := s
  have hcpu : c = ⟨r, false, 0, .running, false⟩ := h.cpu
  rw [hcpu]
  rfl

theorem fetchedOpcode_eq (h : OnSled k v r s) (hrom : inRom r.pc) :
    fetchedOpcode s = sledContent r.pc.toNat := by
  have hpc : s.cpu.registers.pc = r.pc := by rw [h.cpu]
  rw [fetchedOpcode, hpc]
  exact h.bus.read8 hrom

theorem afterOpcode (h : OnSled k v r s) :
    OnSled (k + 4) v { r with pc := r.pc + 1 } (afterOpcode s) := by
  refine ⟨?_, h.bus.tickMCycle, ?_⟩
  · rw [Pockiva.afterOpcode, h.cpu]
    rfl
  · rw [← h.time]
    exact s.bus.tickMCycle_elapsed

/-- **An unprefixed instruction of the program**, given what it does after its fetch. -/
theorem instruction (h : OnSled k v r s) {opcode v' : Byte} {n k' : Nat} {r' : Registers}
    (hrom : inRom r.pc) (hop : sledContent r.pc.toNat = opcode) (hcb : opcode ≠ 0xcb)
    (hlegal : (decode opcode false).illegal = false)
    (hn : (decode opcode false).cycles (branchTaken r.f opcode) = n)
    (hexecute : ∀ t : Exec (MachineBus M), OnSled (k + 4) v { r with pc := r.pc + 1 } t →
      OnSled k' v' r' ((executeBase opcode).run t).2) :
    nextStepTCycles s.cpu s.bus = .ok n ∧ (step.run s).1 = .ok n ∧
      OnSled (k + n) v' r' (step.run s).2 := by
  have hfetch : fetchedOpcode s = opcode := (h.fetchedOpcode_eq hrom).trans hop
  have hf : s.cpu.registers.f = r.f := by rw [h.cpu]
  have hafter := hexecute _ h.afterOpcode
  have hstep := step_instruction h.executes
  rw [h.awoken_eq] at hstep
  have hbase := executeInstruction_base (s := s) (by rwa [hfetch]) (by rwa [hfetch])
  rw [hfetch, hf, hn] at hbase
  obtain ⟨hok, htime⟩ := hbase
  refine ⟨?_, ?_, ?_, ?_, ?_⟩
  · rw [nextStepTCycles_executes h.executes, h.awoken_eq, hfetch]
    dsimp only
    rw [if_neg hcb, hlegal, if_neg (by decide), hf, hn]
  · rw [hstep]
    exact hok
  · rw [hstep]
    simp only [executeInstruction, CpuM.run_bind, CpuM.run_cpu, run_fetch8_eq, hfetch, hcb,
      hlegal, if_false, Bool.false_eq_true, run_elapsed, CpuM.run_pure]
    rw [applyImeDelay, CpuM.run_modifyCpu]
    simp only [padTo_cpu, hafter.cpu]
    rfl
  · rw [hstep]
    simp only [executeInstruction, CpuM.run_bind, CpuM.run_cpu, run_fetch8_eq, hfetch, hcb,
      hlegal, if_false, Bool.false_eq_true, run_elapsed, CpuM.run_pure, applyImeDelay_bus]
    exact SledBus.padLoop _ _ _ _ hafter.bus
  · rw [hstep]
    have hnow : CpuBus.elapsedTCycles s.bus = k := h.time
    exact htime.trans (congrArg (· + n) hnow)

/-! Each instruction after its fetch. -/

theorem fetch8 (h : OnSled k v r s) (hrom : inRom r.pc) :
    (fetch8.run s).1 = sledContent r.pc.toNat ∧
      OnSled (k + 4) v { r with pc := r.pc + 1 } (fetch8.run s).2 := by
  rw [run_fetch8_eq]
  exact ⟨h.fetchedOpcode_eq hrom, h.afterOpcode⟩

theorem fetch16 (h : OnSled k v r s) (hrom : inRom r.pc) (hrom' : inRom (r.pc + 1)) :
    (fetch16.run s).1 = wordOfBytes (sledContent (r.pc + 1).toNat) (sledContent r.pc.toNat) ∧
      OnSled (k + 8) v { r with pc := r.pc + 1 + 1 } (fetch16.run s).2 := by
  obtain ⟨hlow, hmid⟩ := h.fetch8 hrom
  obtain ⟨hhigh, hend⟩ := hmid.fetch8 hrom'
  simp only [Pockiva.fetch16, CpuM.run_bind, CpuM.run_pure]
  rw [hlow, hhigh]
  exact ⟨rfl, hend⟩

theorem modifyRegisters (h : OnSled k v r s) (f : Registers → Registers) :
    OnSled k v (f r) ((CpuM.modifyRegisters f).run s).2 := by
  rw [CpuM.run_modifyRegisters]
  refine ⟨?_, h.bus, h.time⟩
  rw [h.cpu]

theorem nop (h : OnSled k v r s) : OnSled k v r ((executeBase 0x00).run s).2 := h

theorem loadHl (h : OnSled k v r s) (hrom : inRom r.pc) (hrom' : inRom (r.pc + 1)) :
    OnSled (k + 8) v
      (({ r with pc := r.pc + 1 + 1 } : Registers).setHl
        (wordOfBytes (sledContent (r.pc + 1).toNat) (sledContent r.pc.toNat)))
      ((executeBase 0x21).run s).2 := by
  obtain ⟨hvalue, hafter⟩ := h.fetch16 hrom hrom'
  have hbase : (executeBase 0x21 : CpuM (MachineBus M) Bool) = executeMisc 4 1 := rfl
  rw [hbase]
  simp only [executeMisc, CpuM.run_bind, CpuM.run_ite, CpuM.run_pure]
  rw [if_pos trivial, hvalue]
  exact hafter.modifyRegisters fun r => setRp r 2 _

theorem jump (h : OnSled k v r s) (hrom : inRom r.pc) (hrom' : inRom (r.pc + 1)) :
    OnSled (k + 8) v
      { r with pc := wordOfBytes (sledContent (r.pc + 1).toNat) (sledContent r.pc.toNat) }
      ((executeBase 0xc3).run s).2 := by
  obtain ⟨hvalue, hafter⟩ := h.fetch16 hrom hrom'
  have hbase : (executeBase 0xc3 : CpuM (MachineBus M) Bool) = executeControl 0 3 := rfl
  rw [hbase]
  simp only [executeControl, CpuM.run_bind, CpuM.run_pure]
  rw [hvalue]
  exact hafter.modifyRegisters fun r => { r with pc := _ }

theorem store (h : OnSled k v r s) (hrom : inRom r.pc) (hhl : r.hl = 0x8000) (hk : k + 4 < 80) :
    OnSled (k + 8) (sledContent r.pc.toNat) { r with pc := r.pc + 1 }
      ((executeBase 0x36).run s).2 := by
  obtain ⟨hvalue, hafter⟩ := h.fetch8 hrom
  have hbase : (executeBase 0x36 : CpuM (MachineBus M) Bool) = executeMisc 6 6 := rfl
  have hat : (Pockiva.fetch8.run s).2.cpu.registers.hl = 0x8000 := by
    rw [hafter.cpu]
    exact hhl
  rw [hbase]
  simp only [executeMisc, writeR, CpuM.run_bind, CpuM.run_cpu, CpuM.run_pure, run_write8]
  rw [hvalue, hat]
  refine ⟨hafter.cpu, hafter.bus.write8 (by rw [hafter.time]; exact hk) _, ?_⟩
  exact (MachineBus.write8_elapsed _ _ _).trans (congrArg (· + 4) hafter.time)

end OnSled

/-! ### The run -/

/-- A round that takes a step. -/
theorem Running.loop_step {budget rounds executed n m : Nat} {r : Running M}
    (hnext : nextStepTCycles r.timed.exec.cpu r.timed.exec.bus = .ok n) (hpos : 0 < n)
    (hfits : n ≤ budget - executed) (hstep : (step.run r.timed.exec).1 = .ok m) :
    r.loop budget (rounds + 1) executed =
      Running.loop budget rounds (executed + m) ⟨r.timed.clock, (step.run r.timed.exec).2⟩ := by
  have hlt : executed < budget := by omega
  have hgo : ¬ (n = 0 ∨ n > budget - executed) := by omega
  have hround : r.round budget executed =
      .step m ⟨r.timed.clock, (step.run r.timed.exec).2⟩ := by
    rw [round]
    dsimp only
    rw [hnext]
    dsimp only
    rw [if_neg hgo, hstep]
  rw [loop, if_pos hlt, hround]

/-- The call comes to cycle `k` of the program with `rounds` rounds left. -/
def Reaches (g : Running M) (rounds k : Nat) (v : Byte) (r : Registers) : Prop :=
  ∃ t : Running M, OnSled k v r t.exec ∧ g.loop 256 256 0 = t.loop 256 rounds k

namespace Reaches
variable {g : Running M} {rounds k : Nat} {v : Byte} {r : Registers}

theorem instruction (h : Reaches g (rounds + 1) k v r) {opcode v' : Byte} {n k' : Nat}
    {r' : Registers} (hrom : inRom r.pc) (hop : sledContent r.pc.toNat = opcode)
    (hcb : opcode ≠ 0xcb) (hlegal : (decode opcode false).illegal = false)
    (hn : (decode opcode false).cycles (branchTaken r.f opcode) = n) (hpos : 0 < n)
    (hfits : n ≤ 256 - k)
    (hexecute : ∀ t : Exec (MachineBus M), OnSled (k + 4) v { r with pc := r.pc + 1 } t →
      OnSled k' v' r' ((executeBase opcode).run t).2) :
    Reaches g rounds (k + n) v' r' := by
  obtain ⟨t, ht, hloop⟩ := h
  have htimed : OnSled k v r t.timed.exec := ⟨ht.cpu, ht.bus.setUnixSeconds _, ht.time⟩
  obtain ⟨hnext, hstep, hafter⟩ := htimed.instruction hrom hop hcb hlegal hn hexecute
  exact ⟨_, hafter, hloop.trans (Running.loop_step hnext hpos hfits hstep)⟩

end Reaches

/-- The registers on the sled. -/
def sledRegisters (pc : Word) : Registers :=
  { Registers.postBootDmg with h := 0x80, l := 0x00, pc := pc }

theorem sledContent_nop {i : Nat} (h : 0x105 ≤ i) (h' : i < 0x139) : sledContent i = 0x00 := by
  interval_cases i <;> rfl

/-- The two loads before the sled. -/
theorem reaches_sled {g : Running M} (h : OnSled 0 0 .postBootDmg g.exec) :
    Reaches g 254 24 0x06 (sledRegisters 0x105) := by
  have hstart : Reaches g 256 0 0 .postBootDmg := ⟨g, h, rfl⟩
  have hop : sledContent 0x100 = 0x21 := rfl
  have hop' : sledContent 0x103 = 0x36 := rfl
  have hload : Reaches g 255 12 0 (sledRegisters 0x103) :=
    hstart.instruction (n := 12) (by decide) hop (by decide) (by decide) (by decide) (by decide)
      (by decide) fun t ht => ht.loadHl (by decide) (by decide)
  exact hload.instruction (n := 12) (by decide) hop' (by decide) (by decide) (by decide)
    (by decide) (by decide) fun t ht => ht.store (by decide) (by decide) (by decide)

/-- The sled, by induction on its length. -/
theorem reaches_on_sled {g : Running M} (h : OnSled 0 0 .postBootDmg g.exec) {i : Nat}
    (hi : i ≤ 52) :
    Reaches g (254 - i) (24 + 4 * i) 0x06 (sledRegisters (0x105 + BitVec.ofNat 16 i)) := by
  induction i with
  | zero => exact reaches_sled h
  | succ i ih =>
    have hpc : (0x105 + BitVec.ofNat 16 i : Word).toNat = 0x105 + i := by
      rw [BitVec.toNat_add, BitVec.toNat_ofNat]
      simp
      omega
    have hop : sledContent (sledRegisters (0x105 + BitVec.ofNat 16 i)).pc.toNat = 0x00 :=
      (congrArg sledContent hpc).trans (sledContent_nop (by omega) (by omega))
    have hrom : inRom (sledRegisters (0x105 + BitVec.ofNat 16 i)).pc := by
      refine BitVec.lt_def.mpr ?_
      rw [sledRegisters, hpc]
      simp
      omega
    have hrounds : 254 - i = 254 - (i + 1) + 1 := by omega
    have hnext : (0x105 + BitVec.ofNat 16 (i + 1) : Word) = 0x105 + BitVec.ofNat 16 i + 1 := by
      rw [BitVec.ofNat_add, ← BitVec.add_assoc]
      rfl
    have hbefore := ih (by omega)
    rw [hrounds] at hbefore
    rw [hnext]
    exact hbefore.instruction (n := 4) hrom hop (by decide) (by decide) rfl (by decide)
      (by omega) fun t ht => ht.nop

/-- The jump to the end of ROM. -/
theorem reaches_end {g : Running M} (h : OnSled 0 0 .postBootDmg g.exec) :
    Reaches g 201 248 0x06 (sledRegisters 0x7fff) := by
  have hbefore : Reaches g 202 232 0x06 (sledRegisters 0x139) := reaches_on_sled h (le_refl 52)
  have hop : sledContent 0x139 = 0xc3 := rfl
  exact hbefore.instruction (n := 16) (by decide) hop (by decide) (by decide) (by decide)
    (by decide) (by decide) fun t ht => ht.jump (by decide) (by decide)

/-- **The CB instruction is predicted to take 8 cycles and takes 16.** -/
theorem OnSled.prefixed {s : Exec (MachineBus M)} (h : OnSled 248 0x06 (sledRegisters 0x7fff) s) :
    nextStepTCycles s.cpu s.bus = .ok 8 ∧ (step.run s).1 = .ok 16 := by
  have hfetch : fetchedOpcode s = 0xcb := h.fetchedOpcode_eq (by decide)
  have hvideo : FirstLine 248 0x06 s.bus.video := by
    have hline := h.bus.video (by rw [h.time]; decide)
    rwa [h.time] at hline
  have hunclocked : ∀ b : MachineBus M, b.readUnclocked 0x8000 = b.video.read 0x8000 := by
    intro b
    rw [MachineBus.readUnclocked, if_neg (by decide), if_pos (by decide)]
  have hread : ∀ {b : MachineBus M}, b.dma.active = false →
      CpuBus.peek8 b 0x8000 = b.video.read 0x8000 := by
    intro b hdma
    exact (if_neg (by simp [hdma])).trans (hunclocked b)
  constructor
  · -- VRAM is locked when the step is predicted
    have haddress : prefixedAddress s.cpu = 0x8000 := by
      rw [h.cpu]
      rfl
    rw [nextStepTCycles_executes h.executes, h.awoken_eq, hfetch, haddress, hread h.bus.dma,
      hvideo.read_locked (by decide) (by decide)]
    rfl
  · -- and open when the operand is read
    have hafter := h.afterOpcode
    have hopen : (Pockiva.afterOpcode s).bus.video.read 0x8000 = 0x06 := by
      have hvideo' : (Pockiva.afterOpcode s).bus.video = (s.bus.video.tick 4).ppu :=
        h.bus.video_tickMCycle
      rw [hvideo']
      exact hvideo.tick_hblank
    have hoperand : fetchedOperand s = 0x06 := by
      have hpc : (Pockiva.afterOpcode s).cpu.registers.pc = 0x8000 := by
        rw [hafter.cpu]
        rfl
      rw [fetchedOperand, fetchedOpcode, hpc, CoherentCpuBus.read8_eq_peek8,
        hread hafter.bus.dma, hopen]
    have hstep := step_instruction h.executes
    rw [h.awoken_eq] at hstep
    obtain ⟨hok, -⟩ := executeInstruction_prefixed hfetch
    rw [hstep, hok, hoperand]
    rfl

/-- The call with a budget of 256 cycles executes 264. -/
theorem loop_sled {g : Running M} (h : OnSled 0 0 .postBootDmg g.exec) :
    (g.loop 256 256 0).1 = .ok 264 := by
  obtain ⟨t, ht, hloop⟩ := reaches_end h
  have htimed : OnSled 248 0x06 (sledRegisters 0x7fff) t.timed.exec :=
    ⟨ht.cpu, ht.bus.setUnixSeconds _, ht.time⟩
  obtain ⟨hnext, hstep⟩ := htimed.prefixed
  rw [hloop, Running.loop_step hnext (by decide) (by decide) hstep]
  rfl

namespace GameBoy

/-- A machine with that image loaded. -/
def onSled (M : MixerModel) : GameBoy M :=
  (GameBoy.loadRom (.new ⟨fun _ => 0, 0⟩ 44100) (imageOf 2 sledContent) none).2

theorem reachable_loadRom {g : GameBoy M} (h : Reachable (GameBoy.system M) g) (rom : List Byte)
    (persisted : Option BatteryState) : Reachable (GameBoy.system M) (g.loadRom rom persisted).2 :=
  h.step (i := .loadRom rom persisted) rfl

theorem onSled_reachable : Reachable (GameBoy.system M) (onSled M) := by
  rw [onSled]
  exact reachable_loadRom (.start ⟨⟨fun _ => 0, 0⟩, 44100, by decide, rfl⟩) _ _

/-- The bus after loading an image. -/
theorem bus_loadRom {g : GameBoy M} {rom : List Byte} {persisted : Option BatteryState}
    {cartridge : Cartridge} (h : Cartridge.load rom persisted g.clock.unixSeconds = .ok cartridge) :
    (g.loadRom rom persisted).2.cpu = .postBootDmg ∧
      (g.loadRom rom persisted).2.bus =
        some ((MachineBus.new cartridge g.sampleRate g.clock.unixSeconds).setJoypadState
          g.inputs.effective) := by
  rw [loadRom]
  dsimp only
  rw [h]
  exact ⟨rfl, rfl⟩

/-- The call with a budget of 256 cycles on such a bus. -/
theorem runCycles_sled {g : GameBoy M} {bus : MachineBus M} (hcpu : g.cpu = .postBootDmg)
    (hbus : g.bus = some bus) (hsled : SledBus 0 bus) (htime : bus.elapsedTCycles = 0) :
    ∃ outcome : RunOutcome, (g.runCycles 256).1 = .ok outcome ∧ outcome.cyclesExecuted = 264 := by
  have hstart : OnSled 0 0 .postBootDmg (g.running bus).exec := ⟨hcpu, hsled, htime⟩
  have hloop := loop_sled hstart
  rw [runCycles, hbus]
  dsimp only
  rw [hloop]
  exact ⟨_, rfl, rfl⟩

theorem onSled_runCycles :
    ∃ outcome : RunOutcome, ((onSled M).runCycles 256).1 = .ok outcome ∧
      outcome.cyclesExecuted = 264 := by
  have hfirst : FirstLine 0 0 Ppu.postBootDmg :=
    ⟨Ppu.timeline_postBootDmg, rfl, rfl, rfl, rfl, rfl, rfl, rfl, rfl⟩
  obtain ⟨hcpu, hbus⟩ := bus_loadRom (g := .new (M := M) ⟨fun _ => 0, 0⟩ 44100) (load_sledImage 0)
  have hcartridge : ∀ (c : Cartridge) (rate now : Nat) (state : JoypadState),
      ((MachineBus.new (M := M) c rate now).setJoypadState state).cartridge = c :=
    fun _ _ _ _ => rfl
  rw [onSled]
  exact runCycles_sled hcpu hbus ⟨hcartridge _ _ _ _, rfl, fun _ => hfirst⟩ rfl

/-- The budget is not kept: 264 cycles for a budget of 256. -/
theorem budget_exceeded :
    ¬ ∀ (M : MixerModel) (g : GameBoy M) (cycleBudget : Nat) (outcome : RunOutcome),
      Reachable (GameBoy.system M) g → cycleBudget < 2 ^ 32 →
      (g.runCycles cycleBudget).1 = .ok outcome → BudgetLaw g cycleBudget outcome := by
  intro hall
  obtain ⟨outcome, hok, hexecuted⟩ := onSled_runCycles (M := .mute)
  have hlaw := hall .mute (onSled .mute) 256 outcome onSled_reachable (by decide) hok
  have hwithin := hlaw.within
  omega

/-- An operand of that program is not settled. -/
theorem cycle_budget_onSled :
    ∃ outcome : RunOutcome, ((onSled .mute).runCycles 256).1 = .ok outcome ∧
      ¬ ∀ s ∈ (onSled .mute).steps 256, OperandSettled s.cpu s.bus := by
  obtain ⟨outcome, hok, hexecuted⟩ := onSled_runCycles (M := .mute)
  refine ⟨outcome, hok, fun hsettled => ?_⟩
  have hwithin := ((cycle_budget hok).mpr hsettled).within
  omega

end GameBoy

end Pockiva
