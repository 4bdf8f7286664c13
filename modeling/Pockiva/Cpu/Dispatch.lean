import Pockiva.Cpu.Flow
import Pockiva.Lib.Transition

/-! # Interrupt dispatch

What the step that dispatches an interrupt does, and what the handler finds
(`DispatchLaw`).  The law fails exactly if the latch of the HALT bug is set when the
interrupt is dispatched (`interrupt_dispatch`); in a run this only happens after a
HALT right behind EI with an interrupt already pending (`HaltsUnderEi`).
-/
namespace Pockiva

open CpuM Transition

variable {β : Type} [CpuBus β]

/-- The state after `k` fetches. -/
def afterFetches : Nat → Exec β → Exec β
  | 0, s => s
  | k + 1, s => afterOpcode (afterFetches k s)

/-- The bytes of an instruction. -/
def instructionLength (opcode : Byte) : Nat :=
  if opcode = 0xcb then 2 else (decode opcode false).length

/-- The bus after a dispatch: two idle cycles behind the acknowledgement, PC pushed with
the high byte first, and a third idle cycle. -/
def dispatchedBus (s : Exec β) (i : Interrupt) : β :=
  CpuBus.idleMCycle
    (CpuBus.write8
      (CpuBus.write8
        (CpuBus.idleMCycle (CpuBus.idleMCycle (CpuBus.acknowledgeInterrupt s.bus i)))
        (s.cpu.registers.sp - 1) (highByte s.cpu.registers.pc))
      (s.cpu.registers.sp - 1 - 1) (lowByte s.cpu.registers.pc))

/-- **The law of dispatch**: what the step from `s` does, and how the first instruction
of the handler is fetched after it. -/
structure DispatchLaw (s : Exec β) (i : Interrupt) : Prop where
  took : (step.run s).1 = .ok 20
  pending : (wakePending s.cpu s.bus).has i = true
  highest : ∀ j : Interrupt, j.bit < i.bit → (wakePending s.cpu s.bus).has j = false
  bus : (step.run s).2.bus = dispatchedBus s i
  registers : (step.run s).2.cpu.registers =
    { s.cpu.registers with sp := s.cpu.registers.sp - 1 - 1, pc := i.vector }
  ime : (step.run s).2.cpu.ime = false
  delay : (step.run s).2.cpu.imeEnableDelay = 0
  mode : (step.run s).2.cpu.mode = .running
  /-- The bytes of the handler are fetched one after the other. -/
  fetches : ∀ k, (afterFetches k (step.run s).2).cpu.registers.pc = i.vector + BitVec.ofNat 16 k
  /-- PC ends behind the first instruction, unless that loads it. -/
  sequential : ∀ n, (step.run (step.run s).2).1 = .ok n →
    loadsPc s.cpu.registers.f (fetchedOpcode (step.run s).2) = false →
    (step.run (step.run s).2).2.cpu.registers.pc =
      i.vector + BitVec.ofNat 16 (instructionLength (fetchedOpcode (step.run s).2))

/-! ## The dispatching step -/

/-- The CPU after a dispatch. -/
def Cpu.dispatched (c : Cpu) (i : Interrupt) : Cpu :=
  { c with
    registers := { c.registers with sp := c.registers.sp - 1 - 1, pc := i.vector }
    ime := false
    imeEnableDelay := 0
    mode := .running }

theorem serviceInterrupt_run (i : Interrupt) (s : Exec β) :
    ((serviceInterrupt i).run s).2 = ⟨s.cpu.dispatched i, dispatchedBus s i⟩ := by
  simp [serviceInterrupt, push, Cpu.dispatched, dispatchedBus]

theorem step_dispatched {s : Exec β} {i : Interrupt} (hime : s.cpu.ime = true)
    (hp : (wakePending s.cpu s.bus).highestPriority = some i) :
    (step.run s).2 = ⟨s.cpu.dispatched i, dispatchedBus s i⟩ := by
  rw [step_dispatch hime hp, serviceInterrupt_run]

/-! ## The first instruction of the handler -/

omit [CpuBus β] in
@[simp] theorem applyImeDelay_registers (s : Exec β) :
    (applyImeDelay.run s).2.cpu.registers = s.cpu.registers := by
  simp only [applyImeDelay, run_modifyCpu]
  split <;> rfl

omit [CpuBus β] in
@[simp] theorem applyImeDelay_haltBug (s : Exec β) :
    (applyImeDelay.run s).2.cpu.haltBug = s.cpu.haltBug := by
  simp only [applyImeDelay, run_modifyCpu]
  split <;> rfl

theorem afterOpcode_pc {s : Exec β} (h : s.cpu.haltBug = false) :
    (afterOpcode s).cpu.registers.pc = s.cpu.registers.pc + 1 := by
  rw [afterOpcode, Cpu.fetched_of_not_haltBug h]

theorem afterOpcode_haltBug (s : Exec β) : (afterOpcode s).cpu.haltBug = false :=
  Cpu.fetched_haltBug _

/-- Without a pending HALT bug the fetches read one byte after the other. -/
theorem afterFetches_pc {s : Exec β} (h : s.cpu.haltBug = false) (k : Nat) :
    (afterFetches k s).cpu.registers.pc = s.cpu.registers.pc + BitVec.ofNat 16 k ∧
      (afterFetches k s).cpu.haltBug = false := by
  induction k with
  | zero => exact ⟨(BitVec.add_zero _).symm, h⟩
  | succ k ih =>
    refine ⟨?_, afterOpcode_haltBug _⟩
    rw [afterFetches, afterOpcode_pc ih.2, ih.1, BitVec.add_assoc, BitVec.ofNat_add]
    rfl

/-- A legal opcode has a length. -/
theorem length_pos (opcode : Byte) : 0 < (decode opcode false).length := by
  revert opcode
  decide +kernel

/-- **Without a pending HALT bug an instruction that does not load PC leaves it behind
its last byte.** -/
theorem executeInstruction_pc {s : Exec β} (start : Nat) (h : s.cpu.haltBug = false) {n : Nat}
    (hok : ((executeInstruction start).run s).1 = .ok n)
    (hj : loadsPc s.cpu.registers.f (fetchedOpcode s) = false) :
    ((executeInstruction start).run s).2.cpu.registers.pc =
      s.cpu.registers.pc + BitVec.ofNat 16 (instructionLength (fetchedOpcode s)) := by
  by_cases hcb : fetchedOpcode s = 0xcb
  · have hpc := (afterFetches_pc h 2).1
    simp only [executeInstruction, run_bind, run_cpu, run_fetch8_eq, hcb, if_true, run_elapsed,
      run_pure, applyImeDelay_registers, padTo_cpu, executeCb_pc]
    rw [instructionLength, if_pos rfl]
    exact hpc
  · have hlegal : (decode (fetchedOpcode s) false).illegal = false := by
      cases hl : (decode (fetchedOpcode s) false).illegal with
      | false => rfl
      | true =>
        rw [executeInstruction_illegal start hcb hl] at hok
        cases hok
    have hpos := length_pos (fetchedOpcode s)
    rw [← afterOpcode_f] at hj
    have hpc := executeBase_pc hcb (afterOpcode_haltBug s) hj
    simp only [executeInstruction, run_bind, run_cpu, run_fetch8_eq, hcb, hlegal, if_false,
      Bool.false_eq_true, run_elapsed, run_pure, applyImeDelay_registers, padTo_cpu]
    rw [hpc, afterOpcode_pc h, instructionLength, if_neg hcb, BitVec.add_assoc]
    congr 1
    obtain ⟨l, hl⟩ := Nat.exists_eq_succ_of_ne_zero (Nat.ne_of_gt hpos)
    rw [hl, Nat.succ_sub_one, Nat.succ_eq_add_one, Nat.add_comm, BitVec.ofNat_add]
    rfl

/-- A running CPU with interrupts disabled executes an instruction. -/
theorem step_running {s : Exec β} (hime : s.cpu.ime = false) (hmode : s.cpu.mode = .running) :
    step.run s = (executeInstruction (CpuBus.elapsedTCycles s.bus)).run s := by
  rw [step_instruction ⟨.inl hime, .inl hmode⟩]
  have hawoken : awoken s = s := by
    rw [awoken, ← hmode]
  rw [hawoken]

section Timed
variable [TimedCpuBus β]

/-- **The dispatch is as the law says if and only if no HALT bug is pending.** -/
theorem dispatchLaw_iff {s : Exec β} {i : Interrupt} (hime : s.cpu.ime = true)
    (hp : (wakePending s.cpu s.bus).highestPriority = some i) :
    DispatchLaw s i ↔ s.cpu.haltBug = false := by
  have hstate := step_dispatched hime hp
  constructor
  · intro hlaw
    have hone := hlaw.fetches 1
    rw [hstate] at hone
    cases hb : s.cpu.haltBug with
    | false => rfl
    | true =>
      -- the first fetch would leave PC at the vector
      have hstay : (s.cpu.dispatched i).fetched.registers.pc = i.vector := by
        rw [Cpu.fetched_pc]
        exact if_pos hb
      have hclash : i.vector = i.vector + BitVec.ofNat 16 1 := hstay.symm.trans hone
      cases i <;> exact absurd hclash (by decide)
  · intro hb
    have hbug : (s.cpu.dispatched i).haltBug = false := hb
    refine ⟨?_, InterruptMask.has_of_highestPriority hp,
      fun j hj => InterruptMask.not_has_before hp hj, ?_, ?_, ?_, ?_, ?_, ?_, ?_⟩
    · rw [step_dispatch hime hp]
      simp
    · rw [hstate]
    · rw [hstate]
      rfl
    · rw [hstate]
      rfl
    · rw [hstate]
      rfl
    · rw [hstate]
      rfl
    · intro k
      rw [hstate]
      exact (afterFetches_pc (s := ⟨s.cpu.dispatched i, dispatchedBus s i⟩) hbug k).1
    · intro n hok hj
      rw [hstate] at hok hj ⊢
      rw [step_running rfl rfl] at hok ⊢
      exact executeInstruction_pc _ hbug hok hj

end Timed

/-! ## Runs -/

/-- A CPU on some bus, from the end of the boot ROM on: its steps, and anything that
happens to the bus between them. -/
def Cpu.system (β : Type) [CpuBus β] : System (Exec β) (Option β) where
  start s := s.cpu = .postBootDmg
  step s change t := match change with
    | none => t = (step.run s).2
    | some bus => t = { s with bus := bus }

/-- The step executes HALT right behind EI with an interrupt already pending. -/
structure HaltsUnderEi (s : Exec β) : Prop where
  executes : Executes s.cpu s.bus
  halt : fetchedOpcode (awoken s) = 0x76
  disabled : s.cpu.ime = false
  delay : s.cpu.imeEnableDelay = 1
  pending : CpuBus.pendingInterrupts (afterOpcode (awoken s)).bus ≠ .empty

/-- The runs in which no step does that. -/
def Cpu.calmSystem (β : Type) [CpuBus β] : System (Exec β) (Option β) where
  start s := s.cpu = .postBootDmg
  step s change t := match change with
    | none => ¬ HaltsUnderEi s ∧ t = (step.run s).2
    | some bus => t = { s with bus := bus }

/-- The latch is pending only while a CPU runs with interrupts disabled. -/
def Cpu.LatchMasked (c : Cpu) : Prop := c.haltBug = true → c.ime = false ∧ c.mode = .running

/-- An instruction that is not such a HALT keeps the latch masked. -/
theorem executeInstruction_latchMasked {s : Exec β} (hx : Executes s.cpu s.bus)
    (hcalm : ¬ HaltsUnderEi s) (start : Nat) :
    ((executeInstruction start).run (awoken s)).2.cpu.LatchMasked := by
  intro hset
  have hclash : ∀ {b : Bool}, b = false → b = true → False := by
    rintro b rfl
    decide
  by_cases hcb : fetchedOpcode (awoken s) = 0xcb
  · simp only [executeInstruction, run_bind, run_cpu, run_fetch8_eq, hcb, if_true, run_elapsed,
      run_pure, applyImeDelay_haltBug, padTo_cpu, executeCb_haltBug] at hset
    exact (hclash (afterOpcode_haltBug _) hset).elim
  · cases hl : (decode (fetchedOpcode (awoken s)) false).illegal with
    | true =>
      rw [executeInstruction_illegal start hcb hl] at hset
      exact (hclash (afterOpcode_haltBug _) hset).elim
    | false =>
      simp only [executeInstruction, run_bind, run_cpu, run_fetch8_eq, hcb, hl, if_false,
        Bool.false_eq_true, run_elapsed, run_pure, applyImeDelay_haltBug, padTo_cpu] at hset ⊢
      obtain ⟨hhalt, hime, hpending, hcpu⟩ :=
        executeBase_haltBug (afterOpcode_haltBug (awoken s)) hset
      have hime' : s.cpu.ime = false := by simpa [afterOpcode, awoken] using hime
      have hdelay : s.cpu.imeEnableDelay ≠ 1 := fun h1 =>
        hcalm ⟨hx, hhalt, hime', h1, hpending⟩
      have hdelay' : (afterOpcode (awoken s)).cpu.imeEnableDelay = s.cpu.imeEnableDelay :=
        Cpu.fetched_imeEnableDelay _
      have hmode : (afterOpcode (awoken s)).cpu.mode = .running := Cpu.fetched_mode _
      simp only [applyImeDelay, run_modifyCpu, padTo_cpu, hcpu, hdelay']
      split
      · refine ⟨?_, hmode⟩
        rw [if_neg (by omega)]
        exact hime
      · exact ⟨hime, hmode⟩

/-- **In a calm run the latch is never pending when an interrupt is dispatched.** -/
theorem latchMasked_of_reachable {s : Exec β} (h : Reachable (Cpu.calmSystem β) s) :
    s.cpu.LatchMasked := by
  refine h.invariant (P := fun s => s.cpu.LatchMasked) ?_ ?_
  · intro s hs hb
    rw [show s.cpu = .postBootDmg from hs] at hb
    cases hb
  · rintro s (_ | bus) t hmasked hstep
    · obtain ⟨hcalm, rfl⟩ := hstep
      rcases step_cases s with ⟨i, hime, hp⟩ | ⟨hd, hm, hp⟩ | ⟨hd, hm, hp⟩ | hx
      · rw [step_dispatched hime hp]
        exact fun hb => absurd ((hmasked hb).1.symm.trans hime) (by decide)
      · rw [step_not_dispatch hd, if_pos ⟨hm, hp⟩]
        exact hmasked
      · rw [step_not_dispatch hd, if_neg (by simp [hm]), if_pos ⟨hm, hp⟩]
        exact hmasked
      · rw [step_instruction hx]
        exact executeInstruction_latchMasked hx hcalm _
    · cases hstep
      exact hmasked

section Timed
variable [TimedCpuBus β]

/-- **Interrupt dispatch.**  For every CPU a program can lead to, on every bus, a step
with interrupts enabled and one pending obeys the law of dispatch if and only if the
latch of the HALT bug is not set; and in a run in which HALT is never executed right
behind EI with an interrupt pending, every dispatch obeys it. -/
theorem interrupt_dispatch {s : Exec β} {i : Interrupt} (hime : s.cpu.ime = true)
    (hp : (wakePending s.cpu s.bus).highestPriority = some i) :
    (Reachable (Cpu.system β) s → (DispatchLaw s i ↔ s.cpu.haltBug = false)) ∧
    (Reachable (Cpu.calmSystem β) s → DispatchLaw s i) := by
  refine ⟨fun _ => dispatchLaw_iff hime hp, fun h => (dispatchLaw_iff hime hp).mpr ?_⟩
  cases hb : s.cpu.haltBug with
  | false => rfl
  | true => exact absurd ((latchMasked_of_reachable h hb).1.symm.trans hime) (by decide)

end Timed

/-! ## A bus of memory only -/

/-- The bus of the CPU tests: 64 KiB of memory. -/
structure TestBus where
  memory : Word → Byte
  elapsedTCycles : Nat
  pending : InterruptMask
  dividerReset : Bool

namespace TestBus

instance : CpuBus TestBus where
  read8 b address := (b.memory address, { b with elapsedTCycles := b.elapsedTCycles + 4 })
  write8 b address value :=
    { b with
      elapsedTCycles := b.elapsedTCycles + 4
      memory := fun a => if a = address then value else b.memory a }
  idleMCycle b := { b with elapsedTCycles := b.elapsedTCycles + 4 }
  peek8 b address := b.memory address
  elapsedTCycles b := b.elapsedTCycles
  pendingInterrupts b := b.pending
  acknowledgeInterrupt b i := { b with pending := b.pending.without (.of i) }
  resetDivider b := { b with dividerReset := true }

instance : TimedCpuBus TestBus where
  elapsed_read8 _ _ := rfl
  elapsed_write8 _ _ _ := rfl
  elapsed_idleMCycle _ := rfl
  elapsed_acknowledgeInterrupt _ _ := rfl
  elapsed_resetDivider _ := rfl

/-- EI and `second` at 0100, with the timer interrupt pending. -/
def eiThen (second : Byte) : TestBus where
  memory a := if a = 0x0100 then 0xfb else if a = 0x0101 then second else 0
  elapsedTCycles := 0
  pending := .of .timer
  dividerReset := false

end TestBus

/-- The CPU after EI and the instruction behind it. -/
def afterEi (second : Byte) : Exec TestBus :=
  (step.run (step.run ⟨.postBootDmg, TestBus.eiThen second⟩).2).2

/-- EI and NOP: the dispatch obeys the law. -/
theorem interrupt_dispatch_eiNop : DispatchLaw (afterEi 0x00) .timer := by
  have hstart : Reachable (Cpu.calmSystem TestBus) ⟨.postBootDmg, TestBus.eiThen 0x00⟩ :=
    .start rfl
  have hei := hstart.step (i := none) ⟨fun h => absurd h.halt (by decide), rfl⟩
  have hnop := hei.step (i := none) ⟨fun h => absurd h.halt (by decide), rfl⟩
  exact (interrupt_dispatch (s := afterEi 0x00) (by decide) (by decide)).2 hnop

/-- EI and HALT: the interrupt is dispatched with the latch set, and the handler's
first byte is fetched twice. -/
theorem ei_halt_residue :
    ¬ ∀ (s : Exec TestBus) (i : Interrupt), Reachable (Cpu.system TestBus) s →
      s.cpu.ime = true → (wakePending s.cpu s.bus).highestPriority = some i →
      DispatchLaw s i := by
  intro hall
  have hstart : Reachable (Cpu.system TestBus) ⟨.postBootDmg, TestBus.eiThen 0x76⟩ := .start rfl
  have hei := hstart.step (i := none) rfl
  have hhalt := hei.step (i := none) rfl
  have hlaw := hall (afterEi 0x76) .timer hhalt (by decide) (by decide)
  have hone := hlaw.fetches 1
  exact absurd hone (by decide)

end Pockiva
