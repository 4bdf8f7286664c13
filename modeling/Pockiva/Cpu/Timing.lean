import Pockiva.Cpu.Execute
import Mathlib.Tactic.IntervalCases

/-! # The executor keeps to the instruction table

Every action of the executor takes four T-cycles for each access it makes.  An
instruction never makes more accesses than its row of the table has room for
(`executeBase_time`, `executeCb_time`), so the padding loop ends exactly on the
row (`executeInstruction_ok`), and the predictor, which reads the same row, is
right whenever it saw the byte that is executed (`step_time_eq_prediction`).
-/
namespace Pockiva

open CpuM

section Registers
variable {β : Type}

@[simp] theorem run_setPc (value : Word) (s : Exec β) :
    (setPc value).run s =
      ((), { s with cpu := { s.cpu with registers := { s.cpu.registers with pc := value } } }) := by
  simp [setPc]

@[simp] theorem run_setFlags (value : Flags) (s : Exec β) :
    (setFlags value).run s =
      ((), { s with cpu := { s.cpu with registers := { s.cpu.registers with f := value } } }) := by
  simp [setFlags]

@[simp] theorem run_setA (value : Byte) (s : Exec β) :
    (setA value).run s =
      ((), { s with cpu := { s.cpu with registers := { s.cpu.registers with a := value } } }) := by
  simp [setA]

end Registers

variable {β : Type} [CpuBus β]

/-! ## What each primitive does to the pair -/

@[simp] theorem run_read8 (address : Word) (s : Exec β) :
    (read8 address).run s =
      ((CpuBus.read8 s.bus address).1, ⟨s.cpu, (CpuBus.read8 s.bus address).2⟩) := by
  simp [read8]

@[simp] theorem run_write8 (address : Word) (value : Byte) (s : Exec β) :
    (write8 address value).run s = ((), ⟨s.cpu, CpuBus.write8 s.bus address value⟩) := by
  simp [write8]

@[simp] theorem run_idleMCycle (s : Exec β) :
    idleMCycle.run s = ((), ⟨s.cpu, CpuBus.idleMCycle s.bus⟩) := by
  simp [idleMCycle]

@[simp] theorem run_acknowledgeInterrupt (i : Interrupt) (s : Exec β) :
    (acknowledgeInterrupt i).run s = ((), ⟨s.cpu, CpuBus.acknowledgeInterrupt s.bus i⟩) := by
  simp [acknowledgeInterrupt]

@[simp] theorem run_resetDivider (s : Exec β) :
    resetDivider.run s = ((), ⟨s.cpu, CpuBus.resetDivider s.bus⟩) := by
  simp [resetDivider]

@[simp] theorem run_elapsedTCycles (s : Exec β) :
    elapsedTCycles.run s = (CpuBus.elapsedTCycles s.bus, s) := by
  simp [elapsedTCycles]

@[simp] theorem run_elapsed (start : Nat) (s : Exec β) :
    (elapsed start).run s = (CpuBus.elapsedTCycles s.bus - start, s) := by
  simp [elapsed]

@[simp] theorem run_pendingInterrupts (s : Exec β) :
    pendingInterrupts.run s = (CpuBus.pendingInterrupts s.bus, s) := by
  simp [pendingInterrupts]

/-- The CPU after a fetch: either the HALT bug is used up or PC moves on. -/
def Cpu.fetched (c : Cpu) : Cpu :=
  if c.haltBug then { c with haltBug := false }
  else { c with registers := { c.registers with pc := c.registers.pc + 1 } }

@[simp] theorem run_fetch8 (s : Exec β) :
    fetch8.run s = ((CpuBus.read8 s.bus s.cpu.registers.pc).1,
      ⟨s.cpu.fetched, (CpuBus.read8 s.bus s.cpu.registers.pc).2⟩) := by
  simp only [fetch8, run_bind, run_cpu, run_read8, run_ite, run_pure]
  unfold Cpu.fetched
  split <;> simp

@[simp] theorem Cpu.fetched_f (c : Cpu) : c.fetched.registers.f = c.registers.f := by
  unfold fetched; split <;> rfl

@[simp] theorem Cpu.fetched_haltBug (c : Cpu) : c.fetched.haltBug = false := by
  unfold fetched; split <;> simp_all

@[simp] theorem Cpu.fetched_ime (c : Cpu) : c.fetched.ime = c.ime := by
  unfold fetched; split <;> rfl

@[simp] theorem Cpu.fetched_imeEnableDelay (c : Cpu) :
    c.fetched.imeEnableDelay = c.imeEnableDelay := by
  unfold fetched; split <;> rfl

@[simp] theorem Cpu.fetched_mode (c : Cpu) : c.fetched.mode = c.mode := by
  unfold fetched; split <;> rfl

theorem Cpu.fetched_pc (c : Cpu) :
    c.fetched.registers.pc = if c.haltBug then c.registers.pc else c.registers.pc + 1 := by
  unfold fetched; split <;> rfl

/-! ## Time -/

theorem fetch16_f (s : Exec β) :
    (fetch16.run s).2.cpu.registers.f = s.cpu.registers.f := by
  simp [fetch16]

section Timed
variable [TimedCpuBus β]

@[simp] theorem fetch16_elapsed (s : Exec β) :
    CpuBus.elapsedTCycles (fetch16.run s).2.bus = CpuBus.elapsedTCycles s.bus + 8 := by
  simp [fetch16]

@[simp] theorem push_elapsed (value : Word) (s : Exec β) :
    CpuBus.elapsedTCycles ((push value).run s).2.bus = CpuBus.elapsedTCycles s.bus + 8 := by
  simp [push]

@[simp] theorem pop_elapsed (s : Exec β) :
    CpuBus.elapsedTCycles (pop.run s).2.bus = CpuBus.elapsedTCycles s.bus + 8 := by
  simp [pop]

@[simp] theorem readR_elapsed (code : Nat) (s : Exec β) :
    CpuBus.elapsedTCycles ((readR code).run s).2.bus =
      CpuBus.elapsedTCycles s.bus + if code = 6 then 4 else 0 := by
  unfold readR
  simp only [run_bind, run_cpu]
  split <;> simp_all

@[simp] theorem writeR_elapsed (code : Nat) (value : Byte) (s : Exec β) :
    CpuBus.elapsedTCycles ((writeR code value).run s).2.bus =
      CpuBus.elapsedTCycles s.bus + if code = 6 then 4 else 0 := by
  unfold writeR
  split <;> simp_all

/-- The T-cycles of a row of the table. -/
def rowCycles (row : Nat × Nat × Nat) (taken : Bool) : Nat := if taken then row.2.1 else row.2.2

/-- An action with result `r`, started at `s` after the opcode fetch, leaves room
in its row and takes whole M-cycles. -/
structure FitsRow (row : Nat × Nat × Nat) (s : Exec β) (r : Bool × Exec β) : Prop where
  room : CpuBus.elapsedTCycles r.2.bus + 4 ≤ CpuBus.elapsedTCycles s.bus + rowCycles row r.1
  later : CpuBus.elapsedTCycles s.bus ≤ CpuBus.elapsedTCycles r.2.bus
  whole : CpuBus.elapsedTCycles r.2.bus % 4 = CpuBus.elapsedTCycles s.bus % 4

omit [TimedCpuBus β] in
/-- It is enough to count the accesses. -/
theorem FitsRow.of_accesses {row : Nat × Nat × Nat} {s : Exec β} {r : Bool × Exec β} (n : Nat)
    (h : CpuBus.elapsedTCycles r.2.bus = CpuBus.elapsedTCycles s.bus + 4 * n ∧
      4 * n + 4 ≤ rowCycles row r.1) : FitsRow row s r :=
  ⟨by omega, by omega, by omega⟩

theorem executeMisc_fits {y z : Nat} (hy : y < 8) (hz : z < 8) (s : Exec β) :
    FitsRow (metadataOfFields 0 y z) s ((executeMisc y z).run s) := by
  interval_cases z
  · -- NOP, LD (nn),SP, STOP, JR
    obtain rfl | rfl | rfl | rfl | h : y = 0 ∨ y = 1 ∨ y = 2 ∨ y = 3 ∨ 4 ≤ y := by omega
    · exact .of_accesses 0 (by simp [executeMisc, metadataOfFields, rowCycles])
    · exact .of_accesses 4 (by simp [executeMisc, metadataOfFields, rowCycles])
    · exact .of_accesses 0 (by simp [executeMisc, metadataOfFields, rowCycles])
    · exact .of_accesses 1 (by simp [executeMisc, metadataOfFields, rowCycles])
    · obtain ⟨d, rfl⟩ := Nat.exists_eq_add_of_le' h
      by_cases hc : condition s.cpu.registers.f d
      · exact .of_accesses 1 (by simp [executeMisc, metadataOfFields, rowCycles, hc])
      · exact .of_accesses 1 (by simp [executeMisc, metadataOfFields, rowCycles, hc])
  · -- LD rr,nn and ADD HL,rr
    by_cases hq : y % 2 = 0
    · exact .of_accesses 2 (by simp [executeMisc, metadataOfFields, rowCycles, hq])
    · exact .of_accesses 0 (by simp [executeMisc, metadataOfFields, rowCycles, hq])
  · -- the loads through a register pair
    interval_cases y <;>
      exact .of_accesses 1 (by simp [executeMisc, metadataOfFields, rowCycles])
  · exact .of_accesses 0 (by simp [executeMisc, metadataOfFields, rowCycles])
  · -- INC
    by_cases hm : y = 6
    · exact .of_accesses 2 (by simp [executeMisc, metadataOfFields, rowCycles, hm])
    · exact .of_accesses 0 (by simp [executeMisc, metadataOfFields, rowCycles, hm])
  · -- DEC
    by_cases hm : y = 6
    · exact .of_accesses 2 (by simp [executeMisc, metadataOfFields, rowCycles, hm])
    · exact .of_accesses 0 (by simp [executeMisc, metadataOfFields, rowCycles, hm])
  · -- LD r,n
    by_cases hm : y = 6
    · exact .of_accesses 2 (by simp [executeMisc, metadataOfFields, rowCycles, hm])
    · exact .of_accesses 1 (by simp [executeMisc, metadataOfFields, rowCycles, hm])
  · exact .of_accesses 0 (by simp [executeMisc, metadataOfFields, rowCycles])

theorem executeLoad_fits (y z : Nat) (s : Exec β) :
    FitsRow (metadataOfFields 1 y z) s ((executeLoad y z).run s) := by
  by_cases h : y = 6 ∧ z = 6
  · obtain ⟨rfl, rfl⟩ := h
    by_cases hb : s.cpu.ime = false ∧ CpuBus.pendingInterrupts s.bus ≠ .empty
    · exact .of_accesses 0 (by simp [executeLoad, metadataOfFields, rowCycles, hb])
    · exact .of_accesses 0 (by simp [executeLoad, metadataOfFields, rowCycles, hb])
  · by_cases hy : y = 6
    · have hz : z ≠ 6 := fun hz => h ⟨hy, hz⟩
      exact .of_accesses 1 (by simp [executeLoad, metadataOfFields, rowCycles, hy, hz])
    · by_cases hz : z = 6
      · exact .of_accesses 1 (by simp [executeLoad, metadataOfFields, rowCycles, hy, hz])
      · exact .of_accesses 0 (by simp [executeLoad, metadataOfFields, rowCycles, hy, hz])

theorem executeAlu_fits (y z : Nat) (s : Exec β) :
    FitsRow (metadataOfFields 2 y z) s ((executeAlu y z).run s) := by
  by_cases hz : z = 6
  · exact .of_accesses 1 (by simp [executeAlu, metadataOfFields, rowCycles, hz])
  · exact .of_accesses 0 (by simp [executeAlu, metadataOfFields, rowCycles, hz])

theorem executeControl_fits {y z : Nat} (hy : y < 8) (hz : z < 8) (s : Exec β) :
    FitsRow (metadataOfFields 3 y z) s ((executeControl y z).run s) := by
  interval_cases z
  · -- RET cc, LDH, ADD SP,e and LD HL,SP+e
    obtain h | rfl | rfl | rfl | rfl : y < 4 ∨ y = 4 ∨ y = 5 ∨ y = 6 ∨ y = 7 := by omega
    · by_cases hc : condition s.cpu.registers.f y
      · exact .of_accesses 2 (by
          interval_cases y <;> simp [executeControl, metadataOfFields, rowCycles, hc])
      · exact .of_accesses 0 (by
          interval_cases y <;> simp [executeControl, metadataOfFields, rowCycles, hc])
    · exact .of_accesses 2 (by simp [executeControl, metadataOfFields, rowCycles])
    · exact .of_accesses 1 (by simp [executeControl, metadataOfFields, rowCycles])
    · exact .of_accesses 2 (by simp [executeControl, metadataOfFields, rowCycles])
    · exact .of_accesses 1 (by simp [executeControl, metadataOfFields, rowCycles])
  · -- POP, RET, RETI, JP HL and LD SP,HL
    by_cases hq : y % 2 = 0
    · exact .of_accesses 2 (by simp [executeControl, metadataOfFields, rowCycles, hq])
    · obtain rfl | rfl | rfl | rfl : y = 1 ∨ y = 3 ∨ y = 5 ∨ y = 7 := by omega
      · exact .of_accesses 2 (by simp [executeControl, metadataOfFields, rowCycles])
      · exact .of_accesses 2 (by simp [executeControl, metadataOfFields, rowCycles])
      · exact .of_accesses 0 (by simp [executeControl, metadataOfFields, rowCycles])
      · exact .of_accesses 0 (by simp [executeControl, metadataOfFields, rowCycles])
  · -- JP cc and the loads through C and through an immediate address
    obtain h | rfl | rfl | rfl | rfl : y < 4 ∨ y = 4 ∨ y = 5 ∨ y = 6 ∨ y = 7 := by omega
    · by_cases hc : condition s.cpu.registers.f y
      · exact .of_accesses 2 (by
          simp [executeControl, metadataOfFields, rowCycles, h, hc, fetch16_f])
      · exact .of_accesses 2 (by
          simp [executeControl, metadataOfFields, rowCycles, h, hc, fetch16_f])
    · exact .of_accesses 1 (by simp [executeControl, metadataOfFields, rowCycles])
    · exact .of_accesses 3 (by simp [executeControl, metadataOfFields, rowCycles])
    · exact .of_accesses 1 (by simp [executeControl, metadataOfFields, rowCycles])
    · exact .of_accesses 3 (by simp [executeControl, metadataOfFields, rowCycles])
  · -- JP nn, DI and EI
    obtain rfl | rfl | h | rfl | rfl :
        y = 0 ∨ y = 1 ∨ (2 ≤ y ∧ y < 6) ∨ y = 6 ∨ y = 7 := by omega
    · exact .of_accesses 2 (by simp [executeControl, metadataOfFields, rowCycles])
    · exact .of_accesses 0 (by simp [executeControl, metadataOfFields, rowCycles])
    · obtain rfl | rfl | rfl | rfl : y = 2 ∨ y = 3 ∨ y = 4 ∨ y = 5 := by omega
      all_goals exact .of_accesses 0 (by simp [executeControl, metadataOfFields, rowCycles])
    · exact .of_accesses 0 (by simp [executeControl, metadataOfFields, rowCycles])
    · exact .of_accesses 0 (by simp [executeControl, metadataOfFields, rowCycles])
  · -- CALL cc
    by_cases hc : condition s.cpu.registers.f y
    · exact .of_accesses 4 (by simp [executeControl, metadataOfFields, rowCycles, hc, fetch16_f])
    · exact .of_accesses 2 (by simp [executeControl, metadataOfFields, rowCycles, hc, fetch16_f])
  · -- PUSH and CALL
    by_cases hq : y % 2 = 0
    · exact .of_accesses 2 (by simp [executeControl, metadataOfFields, rowCycles, hq])
    · by_cases hp : y / 2 = 0
      · exact .of_accesses 4 (by simp [executeControl, metadataOfFields, rowCycles, hq, hp])
      · exact .of_accesses 0 (by simp [executeControl, metadataOfFields, rowCycles, hq, hp])
  · exact .of_accesses 1 (by simp [executeControl, metadataOfFields, rowCycles])
  · exact .of_accesses 2 (by simp [executeControl, metadataOfFields, rowCycles])

/-- **An unprefixed instruction fits its row**, for every opcode and state. -/
theorem executeBase_fits (opcode : Byte) (s : Exec β) :
    FitsRow (baseMetadata opcode) s ((executeBase opcode).run s) := by
  unfold baseMetadata executeBase
  have hx := opX_lt opcode
  have hy := opY_lt opcode
  have hz := opZ_lt opcode
  generalize opX opcode = x at hx
  interval_cases x
  · exact executeMisc_fits hy hz s
  · exact executeLoad_fits _ _ s
  · exact executeAlu_fits _ _ s
  · exact executeControl_fits hy hz s

/-- A prefixed instruction makes at most the accesses of its row. -/
theorem executeCb_elapsed (opcode : Byte) (s : Exec β) :
    CpuBus.elapsedTCycles ((executeCb opcode).run s).2.bus =
      CpuBus.elapsedTCycles s.bus +
        if opZ opcode = 6 then if opX opcode = 1 then 4 else 8 else 0 := by
  have hx := opX_lt opcode
  unfold executeCb
  generalize opX opcode = x at hx
  interval_cases x <;> by_cases hz : opZ opcode = 6 <;> simp [hz]

/-! ## Padding -/

/-- The padding loop reaches its target exactly, from any whole number of
M-cycles below it. -/
theorem padLoop_elapsed (start target : Nat) : ∀ (rounds : Nat) (s : Exec β),
    start ≤ CpuBus.elapsedTCycles s.bus →
    CpuBus.elapsedTCycles s.bus ≤ start + target →
    (start + target) % 4 = CpuBus.elapsedTCycles s.bus % 4 →
    start + target ≤ CpuBus.elapsedTCycles s.bus + 4 * rounds →
    CpuBus.elapsedTCycles ((padLoop start target rounds).run s).2.bus = start + target := by
  intro rounds
  induction rounds with
  | zero =>
    intro s hs hle _ hr
    simp only [padLoop, run_pure]
    omega
  | succ rounds ih =>
    intro s hs hle hm hr
    simp only [padLoop, run_bind, run_elapsed, run_ite]
    by_cases hlt : CpuBus.elapsedTCycles s.bus - start < target
    · rw [if_pos hlt]
      simp only [run_idleMCycle]
      refine ih _ ?_ ?_ ?_ ?_ <;> simp only [TimedCpuBus.elapsed_idleMCycle] <;> omega
    · rw [if_neg hlt]
      simp only [run_pure]
      omega

theorem padTo_elapsed {start target : Nat} {s : Exec β}
    (hs : start ≤ CpuBus.elapsedTCycles s.bus) (hle : CpuBus.elapsedTCycles s.bus ≤ start + target)
    (hm : (start + target) % 4 = CpuBus.elapsedTCycles s.bus % 4) :
    CpuBus.elapsedTCycles ((padTo start target).run s).2.bus = start + target :=
  padLoop_elapsed start target target s hs hle hm (by omega)

end Timed

/-! ## The predictor and the executor agree on conditions -/

/-- Whether the condition of the instruction with the given octal fields holds. -/
def conditionHolds (f : Flags) (x y z : Nat) : Bool :=
  if x = 0 ∧ z = 0 ∧ 4 ≤ y then condition f (y - 4)
  else if x = 3 ∧ y < 4 ∧ (z = 0 ∨ z = 2 ∨ z = 4) then condition f y
  else true

theorem executeMisc_taken {y z : Nat} (hz : z < 8) (s : Exec β) :
    ((executeMisc y z).run s).1 = conditionHolds s.cpu.registers.f 0 y z := by
  interval_cases z
  · obtain rfl | rfl | rfl | rfl | h : y = 0 ∨ y = 1 ∨ y = 2 ∨ y = 3 ∨ 4 ≤ y := by omega
    · simp [executeMisc, conditionHolds]
    · simp [executeMisc, conditionHolds]
    · simp [executeMisc, conditionHolds]
    · simp [executeMisc, conditionHolds]
    · obtain ⟨d, rfl⟩ := Nat.exists_eq_add_of_le' h
      by_cases hc : condition s.cpu.registers.f d <;> simp [executeMisc, conditionHolds, hc]
  · by_cases hq : y % 2 = 0 <;> simp [executeMisc, conditionHolds, hq]
  · by_cases hq : y % 2 = 0 <;> by_cases h2 : y / 2 = 2 <;> by_cases h3 : y / 2 = 3 <;>
      simp [executeMisc, conditionHolds, hq, h2, h3]
  all_goals simp [executeMisc, conditionHolds]

theorem executeLoad_taken (y z : Nat) (s : Exec β) : ((executeLoad y z).run s).1 = true := by
  by_cases h : y = 6 ∧ z = 6
  · by_cases hb : s.cpu.ime = false ∧ CpuBus.pendingInterrupts s.bus ≠ .empty <;>
      simp [executeLoad, h, hb]
  · simp [executeLoad, h]

/-- The four conditional columns only: the others are not opcodes. -/
theorem executeControl_taken {y z : Nat} (hz : z < 8) (h4 : z = 4 → y < 4) (s : Exec β) :
    ((executeControl y z).run s).1 = conditionHolds s.cpu.registers.f 3 y z := by
  by_cases hcol : y < 4 ∧ (z = 0 ∨ z = 2 ∨ z = 4)
  · obtain ⟨hy, rfl | rfl | rfl⟩ := hcol
    all_goals
      by_cases hc : condition s.cpu.registers.f y <;>
        simp [executeControl, conditionHolds, hy, hc, fetch16_f]
  · have hnone : conditionHolds s.cpu.registers.f 3 y z = true := by
      simp [conditionHolds, hcol]
    rw [hnone]
    interval_cases z
    · have hy : ¬ y < 4 := fun hy => hcol ⟨hy, by simp⟩
      simp only [executeControl, hy, if_false]
      split <;> simp
    · by_cases hq : y % 2 = 0
      · simp [executeControl, hq]
      · simp only [executeControl, hq, if_false]
        split <;> simp
    · have hy : ¬ y < 4 := fun hy => hcol ⟨hy, by simp⟩
      simp only [executeControl, hy, if_false]
      split <;> simp
    · simp only [executeControl]
      split <;> simp
    · exact absurd ⟨h4 rfl, by simp⟩ hcol
    · by_cases hq : y % 2 = 0
      · simp [executeControl, hq]
      · by_cases hp : y / 2 = 0 <;> simp [executeControl, hq, hp]
    · simp [executeControl]
    · simp [executeControl]

/-- The predictor's condition, read off the octal fields. -/
theorem branchTaken_eq (f : Flags) {opcode : Byte} (h : (decode opcode false).illegal = false) :
    branchTaken f opcode = conditionHolds f (opX opcode) (opY opcode) (opZ opcode) := by
  unfold branchTaken conditionHolds condition
  generalize f.contains .z = z, f.contains .c = c
  revert opcode z c
  decide +kernel

/-- No opcode of the CALL column beyond the four conditions is legal. -/
theorem opY_lt_of_call {opcode : Byte} (h : (decode opcode false).illegal = false)
    (hx : opX opcode = 3) (hz : opZ opcode = 4) : opY opcode < 4 := by
  revert opcode
  decide +kernel

/-- **A legal instruction reports exactly the condition the predictor computed.** -/
theorem executeBase_taken {opcode : Byte} (h : (decode opcode false).illegal = false)
    (s : Exec β) : ((executeBase opcode).run s).1 = branchTaken s.cpu.registers.f opcode := by
  rw [branchTaken_eq _ h]
  unfold executeBase
  have hx := opX_lt opcode
  have hz := opZ_lt opcode
  have h4 := opY_lt_of_call h
  generalize opX opcode = x at hx h4
  interval_cases x
  · exact executeMisc_taken hz s
  · rw [executeFields, executeLoad_taken]
    simp [conditionHolds]
  · simp [executeFields, executeAlu, conditionHolds]
  · exact executeControl_taken hz (h4 rfl) s

/-! ## One instruction -/

section Timed
variable [TimedCpuBus β]

/-- The T-cycles an instruction with this opcode and condition takes. -/
def DecodedInstruction.cycles (d : DecodedInstruction) (taken : Bool) : Nat :=
  if taken then d.cyclesTaken else d.cyclesNotTaken

theorem cycles_decode_base (opcode : Byte) (taken : Bool) :
    (decode opcode false).cycles taken = rowCycles (baseMetadata opcode) taken := rfl

theorem rowCycles_mod (opcode : Byte) (taken : Bool) :
    rowCycles (baseMetadata opcode) taken % 4 = 0 := by
  revert opcode taken
  decide +kernel

omit [CpuBus β] [TimedCpuBus β] in
@[simp] theorem applyImeDelay_bus (s : Exec β) : (applyImeDelay.run s).2.bus = s.bus := by
  simp [applyImeDelay]

/-- The state after the opcode fetch. -/
def afterOpcode (s : Exec β) : Exec β :=
  ⟨s.cpu.fetched, (CpuBus.read8 s.bus s.cpu.registers.pc).2⟩

/-- The opcode byte the next instruction fetches. -/
def fetchedOpcode (s : Exec β) : Byte := (CpuBus.read8 s.bus s.cpu.registers.pc).1

/-- The operand byte of a CB prefix, read one M-cycle after the prefix. -/
def fetchedOperand (s : Exec β) : Byte := fetchedOpcode (afterOpcode s)

/-- The state after the fetches of a CB prefix and its operand. -/
def afterOperand (s : Exec β) : Exec β := afterOpcode (afterOpcode s)

omit [TimedCpuBus β] in
theorem run_fetch8_eq (s : Exec β) : fetch8.run s = (fetchedOpcode s, afterOpcode s) := by
  rw [run_fetch8]
  rfl

omit [TimedCpuBus β] in
@[simp] theorem afterOpcode_f (s : Exec β) :
    (afterOpcode s).cpu.registers.f = s.cpu.registers.f := by
  simp [afterOpcode]

@[simp] theorem afterOpcode_elapsed (s : Exec β) :
    CpuBus.elapsedTCycles (afterOpcode s).bus = CpuBus.elapsedTCycles s.bus + 4 := by
  simp [afterOpcode]

omit [CpuBus β] [TimedCpuBus β] in
theorem prefixedCycles_eq (opcode : Byte) :
    (decode opcode true).cyclesTaken =
      8 + if opZ opcode = 6 then if opX opcode = 1 then 4 else 8 else 0 := by
  revert opcode
  decide +kernel

/-- **A prefixed instruction takes the T-cycles of the operand it fetched.** -/
theorem executeInstruction_prefixed {s : Exec β} (h : fetchedOpcode s = 0xcb) :
    let r := (executeInstruction (CpuBus.elapsedTCycles s.bus)).run s
    r.1 = .ok (decode (fetchedOperand s) true).cyclesTaken ∧
      CpuBus.elapsedTCycles r.2.bus =
        CpuBus.elapsedTCycles s.bus + (decode (fetchedOperand s) true).cyclesTaken := by
  have hcycles := prefixedCycles_eq (fetchedOperand s)
  have hcb := executeCb_elapsed (fetchedOperand s) (afterOperand s)
  have hat : CpuBus.elapsedTCycles (afterOperand s).bus = CpuBus.elapsedTCycles s.bus + 8 := by
    rw [afterOperand, afterOpcode_elapsed, afterOpcode_elapsed]
  have hextra : ∀ z x : Nat, (if z = 6 then if x = 1 then 4 else 8 else 0 : Nat) % 4 = 0 := by
    intro z x
    split <;> (try split) <;> rfl
  have hwhole := hextra (opZ (fetchedOperand s)) (opX (fetchedOperand s))
  have hpad : CpuBus.elapsedTCycles
      ((padTo (CpuBus.elapsedTCycles s.bus) (decode (fetchedOperand s) true).cyclesTaken).run
        ((executeCb (fetchedOperand s)).run (afterOperand s)).2).2.bus =
      CpuBus.elapsedTCycles s.bus + (decode (fetchedOperand s) true).cyclesTaken :=
    padTo_elapsed (by omega) (by omega) (by omega)
  simp only [executeInstruction, run_bind, run_cpu, run_fetch8_eq, h, if_true,
    run_elapsed, run_pure, applyImeDelay_bus]
  rw [fetchedOperand, afterOperand] at hpad
  rw [fetchedOperand, hpad, Nat.add_sub_cancel_left]
  exact ⟨rfl, rfl⟩

/-- **A legal unprefixed instruction takes the T-cycles the predictor reads.** -/
theorem executeInstruction_base {s : Exec β} (h : fetchedOpcode s ≠ 0xcb)
    (hl : (decode (fetchedOpcode s) false).illegal = false) :
    let r := (executeInstruction (CpuBus.elapsedTCycles s.bus)).run s
    let n := (decode (fetchedOpcode s) false).cycles
      (branchTaken s.cpu.registers.f (fetchedOpcode s))
    r.1 = .ok n ∧ CpuBus.elapsedTCycles r.2.bus = CpuBus.elapsedTCycles s.bus + n := by
  have htaken := executeBase_taken hl (afterOpcode s)
  have hfits := executeBase_fits (fetchedOpcode s) (afterOpcode s)
  have hroom := hfits.room
  have hlater := hfits.later
  have hwhole := hfits.whole
  rw [afterOpcode_f] at htaken
  rw [afterOpcode_elapsed] at hroom hlater hwhole
  rw [htaken, ← cycles_decode_base] at hroom
  have hmod := rowCycles_mod (fetchedOpcode s) (branchTaken s.cpu.registers.f (fetchedOpcode s))
  rw [← cycles_decode_base] at hmod
  have hpad : CpuBus.elapsedTCycles
      ((padTo (CpuBus.elapsedTCycles s.bus) ((decode (fetchedOpcode s) false).cycles
          (branchTaken s.cpu.registers.f (fetchedOpcode s)))).run
        ((executeBase (fetchedOpcode s)).run (afterOpcode s)).2).2.bus =
      CpuBus.elapsedTCycles s.bus + (decode (fetchedOpcode s) false).cycles
        (branchTaken s.cpu.registers.f (fetchedOpcode s)) :=
    padTo_elapsed (by omega) (by omega) (by omega)
  simp only [executeInstruction, run_bind, run_cpu, run_fetch8_eq, h, hl, if_false,
    Bool.false_eq_true, htaken, run_elapsed, run_pure, applyImeDelay_bus]
  rw [DecodedInstruction.cycles] at hpad ⊢
  rw [hpad, Nat.add_sub_cancel_left]
  exact ⟨rfl, rfl⟩

omit [TimedCpuBus β] in
/-- An illegal opcode is an error, raised after its fetch. -/
theorem executeInstruction_illegal {s : Exec β} (start : Nat) (h : fetchedOpcode s ≠ 0xcb)
    (hl : (decode (fetchedOpcode s) false).illegal = true) :
    (executeInstruction start).run s =
      (.error (illegalOpcode (fetchedOpcode s) s.cpu.registers.pc), afterOpcode s) := by
  simp only [executeInstruction, run_bind, run_cpu, run_fetch8_eq, h, hl, if_false,
    if_true, run_pure]

end Timed

/-! ## One step -/

/-- The interrupts that count for this step. -/
def wakePending (c : Cpu) (bus : β) : InterruptMask :=
  wakeCapableInterrupts c (CpuBus.pendingInterrupts bus)

/-- The next step executes an instruction: it neither dispatches nor idles. -/
structure Executes (c : Cpu) (bus : β) : Prop where
  masked : c.ime = false ∨ wakePending c bus = .empty
  awake : c.mode = .running ∨ wakePending c bus ≠ .empty

/-- The state in which the instruction starts. -/
def awoken (s : Exec β) : Exec β := { s with cpu := { s.cpu with mode := .running } }

omit [CpuBus β] in
@[simp] theorem awoken_bus (s : Exec β) : (awoken s).bus = s.bus := rfl

omit [CpuBus β] in
@[simp] theorem awoken_registers (s : Exec β) :
    (awoken s).cpu.registers = s.cpu.registers := rfl

theorem step_dispatch {s : Exec β} {i : Interrupt} (hime : s.cpu.ime = true)
    (hp : (wakePending s.cpu s.bus).highestPriority = some i) :
    step.run s = (.ok (CpuBus.elapsedTCycles ((serviceInterrupt i).run s).2.bus -
      CpuBus.elapsedTCycles s.bus), ((serviceInterrupt i).run s).2) := by
  rw [wakePending] at hp
  simp [step, hime, hp]

theorem step_not_dispatch {s : Exec β} (h : s.cpu.ime = false ∨ wakePending s.cpu s.bus = .empty) :
    step.run s =
      if s.cpu.mode = .stopped ∧ wakePending s.cpu s.bus = .empty then (.ok 0, s)
      else if s.cpu.mode = .halted ∧ wakePending s.cpu s.bus = .empty then
        (.ok (CpuBus.elapsedTCycles (CpuBus.idleMCycle s.bus) - CpuBus.elapsedTCycles s.bus),
          ⟨s.cpu, CpuBus.idleMCycle s.bus⟩)
      else (executeInstruction (CpuBus.elapsedTCycles s.bus)).run (awoken s) := by
  rcases h with hime | hp
  · simp [step, hime, wakePending, awoken]
  · have hnone : (wakePending s.cpu s.bus).highestPriority = none := by
      rw [hp]; rfl
    rw [wakePending] at hnone
    cases hime : s.cpu.ime <;> simp [step, hime, hnone, wakePending, awoken]

/-- **The four ways a step can go.** -/
theorem step_cases (s : Exec β) :
    (∃ i, s.cpu.ime = true ∧ (wakePending s.cpu s.bus).highestPriority = some i) ∨
    ((s.cpu.ime = false ∨ wakePending s.cpu s.bus = .empty) ∧ s.cpu.mode = .stopped ∧
      wakePending s.cpu s.bus = .empty) ∨
    ((s.cpu.ime = false ∨ wakePending s.cpu s.bus = .empty) ∧ s.cpu.mode = .halted ∧
      wakePending s.cpu s.bus = .empty) ∨
    Executes s.cpu s.bus := by
  by_cases hp : wakePending s.cpu s.bus = .empty
  · cases hm : s.cpu.mode
    · exact .inr (.inr (.inr ⟨.inr hp, .inl hm⟩))
    · exact .inr (.inr (.inl ⟨.inr hp, rfl, hp⟩))
    · exact .inr (.inl ⟨.inr hp, rfl, hp⟩)
  · cases hi : s.cpu.ime
    · exact .inr (.inr (.inr ⟨.inl hi, .inr hp⟩))
    · obtain ⟨i, h⟩ := InterruptMask.exists_highestPriority hp
      exact .inl ⟨i, rfl, h⟩

theorem step_instruction {s : Exec β} (h : Executes s.cpu s.bus) :
    step.run s = (executeInstruction (CpuBus.elapsedTCycles s.bus)).run (awoken s) := by
  rw [step_not_dispatch h.masked]
  rcases h.awake with hm | hp
  · simp [hm]
  · simp [hp]

/-- The byte a prefixed instruction will execute has the timing of the byte the
predictor sees: nothing changes it in the M-cycle in which the prefix is read. -/
def OperandSettled (c : Cpu) (bus : β) : Prop :=
  Executes c bus → CpuBus.peek8 bus c.registers.pc = 0xcb →
    (decode (CpuBus.peek8 (CpuBus.read8 bus c.registers.pc).2 (prefixedAddress c)) true).cyclesTaken
      = (decode (CpuBus.peek8 bus (prefixedAddress c)) true).cyclesTaken

section Timed
variable [TimedCpuBus β]

@[simp] theorem serviceInterrupt_elapsed (i : Interrupt) (s : Exec β) :
    CpuBus.elapsedTCycles ((serviceInterrupt i).run s).2.bus =
      CpuBus.elapsedTCycles s.bus + 20 := by
  simp [serviceInterrupt]

/-- **Every step that succeeds reports exactly the time it took**, in any state. -/
theorem step_elapsed {s : Exec β} {n : Nat} (h : (step.run s).1 = .ok n) :
    CpuBus.elapsedTCycles (step.run s).2.bus = CpuBus.elapsedTCycles s.bus + n := by
  rcases step_cases s with ⟨i, hime, hp⟩ | ⟨hd, hm, hp⟩ | ⟨hd, hm, hp⟩ | hx
  · rw [step_dispatch hime hp] at h ⊢
    simp only [serviceInterrupt_elapsed, Except.ok.injEq] at h ⊢
    omega
  · rw [step_not_dispatch hd, if_pos ⟨hm, hp⟩] at h ⊢
    simp only [Except.ok.injEq] at h
    rw [← h, Nat.add_zero]
  · rw [step_not_dispatch hd, if_neg (by simp [hm]), if_pos ⟨hm, hp⟩] at h ⊢
    simp only [TimedCpuBus.elapsed_idleMCycle, Except.ok.injEq] at h ⊢
    omega
  · rw [step_instruction hx] at h ⊢
    by_cases hcb : fetchedOpcode (awoken s) = 0xcb
    · obtain ⟨hr, ht⟩ := executeInstruction_prefixed hcb
      rw [awoken_bus] at hr ht
      rw [hr, Except.ok.injEq] at h
      rw [ht, h]
    · cases hl : (decode (fetchedOpcode (awoken s)) false).illegal
      · obtain ⟨hr, ht⟩ := executeInstruction_base hcb hl
        rw [awoken_bus] at hr ht
        rw [hr, Except.ok.injEq] at h
        rw [ht, h]
      · rw [executeInstruction_illegal _ hcb hl] at h
        cases h

/-- Every row of the table takes time. -/
theorem rowCycles_pos (opcode : Byte) (taken : Bool) :
    0 < rowCycles (baseMetadata opcode) taken := by
  revert opcode taken
  decide +kernel

/-- An instruction takes time. -/
theorem step_executes_pos {s : Exec β} (hx : Executes s.cpu s.bus) {n : Nat}
    (h : (step.run s).1 = .ok n) : 0 < n := by
  rw [step_instruction hx] at h
  by_cases hcb : fetchedOpcode (awoken s) = 0xcb
  · obtain ⟨hr, -⟩ := executeInstruction_prefixed hcb
    rw [awoken_bus] at hr
    rw [hr, Except.ok.injEq, prefixedCycles_eq] at h
    omega
  · cases hl : (decode (fetchedOpcode (awoken s)) false).illegal
    · obtain ⟨hr, -⟩ := executeInstruction_base hcb hl
      rw [awoken_bus] at hr
      rw [hr, Except.ok.injEq, cycles_decode_base] at h
      rw [← h]
      exact rowCycles_pos _ _
    · rw [executeInstruction_illegal _ hcb hl] at h
      cases h

variable [CoherentCpuBus β]

omit [TimedCpuBus β] in
theorem fetchedOpcode_awoken (s : Exec β) :
    fetchedOpcode (awoken s) = CpuBus.peek8 s.bus s.cpu.registers.pc :=
  CoherentCpuBus.read8_eq_peek8 _ _

omit [TimedCpuBus β] in
theorem fetchedOperand_awoken (s : Exec β) :
    fetchedOperand (awoken s) =
      CpuBus.peek8 (CpuBus.read8 s.bus s.cpu.registers.pc).2 (prefixedAddress s.cpu) := by
  have hpc : (awoken s).cpu.fetched.registers.pc = prefixedAddress s.cpu := Cpu.fetched_pc _
  rw [fetchedOperand, fetchedOpcode, afterOpcode, hpc]
  exact CoherentCpuBus.read8_eq_peek8 _ _

omit [TimedCpuBus β] in
/-- What the predictor reads when an instruction will be executed. -/
theorem nextStepTCycles_executes {s : Exec β} (h : Executes s.cpu s.bus) :
    nextStepTCycles s.cpu s.bus =
      let opcode := fetchedOpcode (awoken s)
      if opcode = 0xcb then
        .ok (decode (CpuBus.peek8 s.bus (prefixedAddress s.cpu)) true).cyclesTaken
      else if (decode opcode false).illegal then
        .error (illegalOpcode opcode s.cpu.registers.pc)
      else .ok ((decode opcode false).cycles (branchTaken s.cpu.registers.f opcode)) := by
  have hs : ¬ (s.cpu.mode = .stopped ∧ wakePending s.cpu s.bus = .empty) := by
    rcases h.awake with hm | hp
    · simp [hm]
    · simp [hp]
  have hd : ¬ (s.cpu.ime = true ∧ wakePending s.cpu s.bus ≠ .empty) := by
    rcases h.masked with hm | hp
    · simp [hm]
    · simp [hp]
  have hh : ¬ (s.cpu.mode = .halted ∧ wakePending s.cpu s.bus = .empty) := by
    rcases h.awake with hm | hp
    · simp [hm]
    · simp [hp]
  rw [wakePending] at hs hd hh
  rw [nextStepTCycles, if_neg hs, if_neg hd, if_neg hh, fetchedOpcode_awoken]
  by_cases hcb : CpuBus.peek8 s.bus s.cpu.registers.pc = 0xcb
  · have hb : branchTaken s.cpu.registers.f 0xcb = true := by simp [branchTaken]
    simp only [hcb, if_true, hb]
    rfl
  · simp only [hcb, if_false]
    rfl

omit [TimedCpuBus β] [CoherentCpuBus β] in
theorem nextStepTCycles_dispatch {s : Exec β} {i : Interrupt} (hime : s.cpu.ime = true)
    (hp : (wakePending s.cpu s.bus).highestPriority = some i) :
    nextStepTCycles s.cpu s.bus = .ok 20 := by
  have hne : wakePending s.cpu s.bus ≠ .empty := by
    intro he
    rw [he] at hp
    cases hp
  rw [wakePending] at hne
  simp [nextStepTCycles, hne, hime]

omit [TimedCpuBus β] [CoherentCpuBus β] in
theorem nextStepTCycles_stopped {s : Exec β} (hm : s.cpu.mode = .stopped)
    (hp : wakePending s.cpu s.bus = .empty) : nextStepTCycles s.cpu s.bus = .ok 0 := by
  rw [wakePending] at hp
  simp [nextStepTCycles, hm, hp]

omit [TimedCpuBus β] [CoherentCpuBus β] in
theorem nextStepTCycles_halted {s : Exec β} (hm : s.cpu.mode = .halted)
    (hp : wakePending s.cpu s.bus = .empty) : nextStepTCycles s.cpu s.bus = .ok 4 := by
  rw [wakePending] at hp
  simp [nextStepTCycles, hm, hp]

/-- **The prediction is exact if and only if the operand is settled.**  A step
whose prediction succeeds succeeds itself. -/
theorem step_prediction {s : Exec β} {n : Nat} (h : nextStepTCycles s.cpu s.bus = .ok n) :
    ∃ m, (step.run s).1 = .ok m ∧
      CpuBus.elapsedTCycles (step.run s).2.bus = CpuBus.elapsedTCycles s.bus + m ∧
      (m = n ↔ OperandSettled s.cpu s.bus) := by
  suffices hm : ∃ m, (step.run s).1 = .ok m ∧ (m = n ↔ OperandSettled s.cpu s.bus) by
    obtain ⟨m, hok, hiff⟩ := hm
    exact ⟨m, hok, step_elapsed hok, hiff⟩
  -- Dispatch, STOP and HALT read no operand; of the instructions only the prefixed do.
  rcases step_cases s with ⟨i, hime, hp⟩ | ⟨hd, hm, hp⟩ | ⟨hd, hm, hp⟩ | hx
  · rw [nextStepTCycles_dispatch hime hp, Except.ok.injEq] at h
    refine ⟨20, ?_, ?_⟩
    · rw [step_dispatch hime hp]
      simp
    · refine iff_of_true h fun hx => ?_
      rcases hx.masked with hm | hm
      · simp [hm] at hime
      · rw [hm] at hp
        cases hp
  · rw [nextStepTCycles_stopped hm hp, Except.ok.injEq] at h
    refine ⟨0, ?_, ?_⟩
    · rw [step_not_dispatch hd, if_pos ⟨hm, hp⟩]
    · refine iff_of_true h fun hx => ?_
      rcases hx.awake with hr | hr
      · simp [hm] at hr
      · exact absurd hp hr
  · rw [nextStepTCycles_halted hm hp, Except.ok.injEq] at h
    refine ⟨4, ?_, ?_⟩
    · rw [step_not_dispatch hd, if_neg (by simp [hm]), if_pos ⟨hm, hp⟩]
      simp
    · refine iff_of_true h fun hx => ?_
      rcases hx.awake with hr | hr
      · simp [hm] at hr
      · exact absurd hp hr
  · rw [nextStepTCycles_executes hx] at h
    rw [step_instruction hx]
    by_cases hcb : fetchedOpcode (awoken s) = 0xcb
    · simp only [hcb, if_true, Except.ok.injEq] at h
      obtain ⟨hr, -⟩ := executeInstruction_prefixed hcb
      refine ⟨_, hr, ?_⟩
      rw [fetchedOperand_awoken, ← h]
      rw [fetchedOpcode_awoken] at hcb
      exact ⟨fun heq _ _ => heq, fun hset => hset hx hcb⟩
    · simp only [hcb, if_false] at h
      cases hl : (decode (fetchedOpcode (awoken s)) false).illegal
      · simp only [hl, Bool.false_eq_true, if_false, Except.ok.injEq] at h
        obtain ⟨hr, -⟩ := executeInstruction_base hcb hl
        refine ⟨_, hr, ?_⟩
        rw [awoken_registers, h]
        refine iff_of_true rfl fun _ hpeek => ?_
        exact absurd ((fetchedOpcode_awoken s).trans hpeek) hcb
      · simp [hl] at h

end Timed

end Pockiva
