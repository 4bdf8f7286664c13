import Pockiva.Cpu.Dispatch

/-! # The three tables of the instructions agree

The lengths and times of `decode`, the conditions of the predictor and the accesses of
the executor are written down three times.  On a bus where the byte behind PC stays what
it is while the byte at PC is read, a step succeeds exactly when it is predicted to, in
the predicted time, and leaves PC where the table says (`prediction_law`).
-/
namespace Pockiva

open CpuM Transition

variable {β : Type} [CpuBus β]

/-- The row of the table of the instruction that is executed. -/
def executedRow (s : Exec β) : DecodedInstruction :=
  if fetchedOpcode s = 0xcb then decode (fetchedOperand s) true
  else decode (fetchedOpcode s) false

/-- Reading the byte at PC does not change the byte the operand of a prefix is read from. -/
def StableOperand (s : Exec β) : Prop :=
  CpuBus.peek8 (CpuBus.read8 s.bus s.cpu.registers.pc).2 (prefixedAddress s.cpu) =
    CpuBus.peek8 s.bus (prefixedAddress s.cpu)

/-- What the tables promise of a step. -/
structure PredictionLaw (s : Exec β) : Prop where
  /-- A time is predicted exactly when the step succeeds in it. -/
  predicted : ∀ n, nextStepTCycles s.cpu s.bus = .ok n ↔ (step.run s).1 = .ok n
  passed : ∀ n, (step.run s).1 = .ok n →
    CpuBus.elapsedTCycles (step.run s).2.bus = CpuBus.elapsedTCycles s.bus + n
  /-- The accesses of an unprefixed instruction fit its row, so that padding can end on it. -/
  fits : Executes s.cpu s.bus → fetchedOpcode (awoken s) ≠ 0xcb →
    let r := (executeBase (fetchedOpcode (awoken s))).run (afterOpcode (awoken s))
    CpuBus.elapsedTCycles r.2.bus ≤
      CpuBus.elapsedTCycles s.bus + (decode (fetchedOpcode (awoken s)) false).cycles r.1
  /-- The accesses of a prefixed instruction fit its row. -/
  fitsPrefixed : Executes s.cpu s.bus → fetchedOpcode (awoken s) = 0xcb →
    let r := (executeCb (fetchedOperand (awoken s))).run (afterOperand (awoken s))
    CpuBus.elapsedTCycles r.2.bus ≤
      CpuBus.elapsedTCycles s.bus + (decode (fetchedOperand (awoken s)) true).cyclesTaken
  /-- An instruction that is no control transfer advances PC by its length. -/
  advances : Executes s.cpu s.bus → s.cpu.haltBug = false → ∀ n, (step.run s).1 = .ok n →
    loadsPc s.cpu.registers.f (fetchedOpcode (awoken s)) = false →
    (step.run s).2.cpu.registers.pc =
      s.cpu.registers.pc + BitVec.ofNat 16 (executedRow (awoken s)).length

theorem length_prefixed (opcode : Byte) : (decode opcode true).length = 2 := rfl

theorem length_executedRow (s : Exec β) :
    (executedRow s).length = instructionLength (fetchedOpcode s) := by
  unfold executedRow instructionLength
  split
  · exact length_prefixed _
  · rfl

section Timed
variable [TimedCpuBus β] [CoherentCpuBus β]

omit [TimedCpuBus β] [CoherentCpuBus β] in
/-- A stable operand is settled. -/
theorem StableOperand.settled {s : Exec β} (h : StableOperand s) :
    OperandSettled s.cpu s.bus := by
  intro _ _
  rw [h]

omit [TimedCpuBus β] in
/-- A step that succeeds is predicted to. -/
theorem predicted_of_ok {s : Exec β} {n : Nat} (h : (step.run s).1 = .ok n) :
    ∃ m, nextStepTCycles s.cpu s.bus = .ok m := by
  rcases step_cases s with ⟨i, hime, hp⟩ | ⟨hd, hm, hp⟩ | ⟨hd, hm, hp⟩ | hx
  · exact ⟨20, nextStepTCycles_dispatch hime hp⟩
  · exact ⟨0, nextStepTCycles_stopped hm hp⟩
  · exact ⟨4, nextStepTCycles_halted hm hp⟩
  · rw [nextStepTCycles_executes hx]
    dsimp only
    by_cases hcb : fetchedOpcode (awoken s) = 0xcb
    · rw [if_pos hcb]
      exact ⟨_, rfl⟩
    · rw [if_neg hcb]
      cases hl : (decode (fetchedOpcode (awoken s)) false).illegal with
      | false => exact ⟨_, rfl⟩
      | true =>
        -- the step of an illegal opcode is an error
        rw [step_instruction hx, executeInstruction_illegal _ hcb hl] at h
        cases h

/-- **The tables agree on a bus with stable memory.** -/
theorem prediction_law {s : Exec β} (hstable : StableOperand s) : PredictionLaw s := by
  refine ⟨?_, fun n hok => step_elapsed hok, ?_, ?_, ?_⟩
  · intro n
    constructor
    · intro hn
      obtain ⟨m, hok, -, hiff⟩ := step_prediction hn
      rw [hok, hiff.mpr hstable.settled]
    · intro hok
      obtain ⟨m, hm⟩ := predicted_of_ok hok
      obtain ⟨k, hk, -, hiff⟩ := step_prediction hm
      rw [hok, Except.ok.injEq] at hk
      rw [hm, hk, hiff.mpr hstable.settled]
  · intro _ _
    dsimp only
    have hfits := executeBase_fits (fetchedOpcode (awoken s)) (afterOpcode (awoken s))
    have hroom := hfits.room
    rw [afterOpcode_elapsed, ← cycles_decode_base, awoken_bus] at hroom
    omega
  · intro _ _
    dsimp only
    have hcb := executeCb_elapsed (fetchedOperand (awoken s)) (afterOperand (awoken s))
    have hcycles := prefixedCycles_eq (fetchedOperand (awoken s))
    rw [afterOperand, afterOpcode_elapsed, afterOpcode_elapsed, awoken_bus] at hcb
    rw [afterOperand]
    omega
  · intro hx hbug n hok hj
    rw [step_instruction hx] at hok ⊢
    rw [length_executedRow]
    exact executeInstruction_pc (s := awoken s) _ hbug hok hj

end Timed

/-! ## A bus on which the divider takes time -/

/-- A bus of memory whose divider takes an M-cycle to reset. -/
structure SlowDividerBus where
  memory : Word → Byte
  elapsedTCycles : Nat

namespace SlowDividerBus

instance : CpuBus SlowDividerBus where
  read8 b address := (b.memory address, { b with elapsedTCycles := b.elapsedTCycles + 4 })
  write8 b address value :=
    { elapsedTCycles := b.elapsedTCycles + 4
      memory := fun a => if a = address then value else b.memory a }
  idleMCycle b := { b with elapsedTCycles := b.elapsedTCycles + 4 }
  peek8 b address := b.memory address
  elapsedTCycles b := b.elapsedTCycles
  pendingInterrupts _ := .empty
  acknowledgeInterrupt b _ := b
  resetDivider b := { b with elapsedTCycles := b.elapsedTCycles + 4 }

/-- STOP at 0100. -/
def stop : Exec SlowDividerBus :=
  ⟨.postBootDmg, { memory := fun a => if a = 0x0100 then 0x10 else 0, elapsedTCycles := 0 }⟩

end SlowDividerBus

/-- Timing the accesses and the idle cycles is not enough: STOP is predicted to take 4
T-cycles and takes 8. -/
theorem slow_divider_unpredicted :
    ¬ ∀ (β : Type) [CpuBus β],
      (∀ (b : β) (a : Word),
        CpuBus.elapsedTCycles (CpuBus.read8 b a).2 = CpuBus.elapsedTCycles b + 4) →
      (∀ (b : β) (a : Word) (v : Byte),
        CpuBus.elapsedTCycles (CpuBus.write8 b a v) = CpuBus.elapsedTCycles b + 4) →
      (∀ b : β, CpuBus.elapsedTCycles (CpuBus.idleMCycle b) = CpuBus.elapsedTCycles b + 4) →
      (∀ (b : β) (a : Word), (CpuBus.read8 b a).1 = CpuBus.peek8 b a) →
      ∀ s : Exec β, StableOperand s → PredictionLaw s := by
  intro hall
  have hlaw := hall SlowDividerBus (fun _ _ => rfl) (fun _ _ _ => rfl) (fun _ => rfl)
    (fun _ _ => rfl) SlowDividerBus.stop rfl
  have hpredicted : nextStepTCycles SlowDividerBus.stop.cpu SlowDividerBus.stop.bus = .ok 4 := by
    decide
  have htaken : (step.run SlowDividerBus.stop).1 = .ok 8 := by decide
  have hok := (hlaw.predicted 4).mp hpredicted
  rw [htaken] at hok
  cases hok

instance : CoherentCpuBus TestBus where
  read8_eq_peek8 _ _ := rfl

/-- On flat memory every state obeys the law. -/
theorem prediction_law_testBus :
    PredictionLaw (⟨.postBootDmg, TestBus.eiThen 0x76⟩ : Exec TestBus) :=
  prediction_law rfl

end Pockiva
