import Pockiva.Cpu.Timing

/-! # Program counter and HALT latch

What an instruction does to PC and to the latch of the HALT bug: every instruction
that does not load PC leaves it behind its last byte (`executeInstruction_pc`), and
only HALT sets the latch (`executeBase_haltBug`).
-/
namespace Pockiva

open CpuM

/-! ## The register operations leave PC alone -/

@[simp] theorem setRp_pc (r : Registers) (code : Nat) (v : Word) : (setRp r code v).pc = r.pc := by
  unfold setRp
  split <;> rfl

@[simp] theorem setRp2_pc (r : Registers) (code : Nat) (v : Word) :
    (setRp2 r code v).pc = r.pc := by
  unfold setRp2
  split <;> rfl

@[simp] theorem alu_pc (r : Registers) (operation : Nat) (v : Byte) :
    (alu r operation v).pc = r.pc := by
  unfold alu
  split <;> rfl

@[simp] theorem addHl_pc (r : Registers) (v : Word) : (addHl r v).pc = r.pc := by
  simp [addHl]

@[simp] theorem addSp_pc (r : Registers) (offset : Byte) (toSp : Bool) :
    (addSp r offset toSp).pc = r.pc := by
  cases toSp <;> rfl

@[simp] theorem accumulatorMisc_pc (r : Registers) (operation : Nat) :
    (accumulatorMisc r operation).pc = r.pc := by
  unfold accumulatorMisc
  dsimp only
  split <;> rfl

variable {β : Type} [CpuBus β]

/-! ## The helpers of the executor -/

/-- A fetch without a pending HALT bug. -/
theorem Cpu.fetched_of_not_haltBug {c : Cpu} (h : c.haltBug = false) :
    c.fetched = { c with registers := { c.registers with pc := c.registers.pc + 1 } } := by
  rw [fetched, h, if_neg (by decide)]

@[simp] theorem Cpu.fetched_fetched_pc {c : Cpu} :
    c.fetched.fetched.registers.pc = c.fetched.registers.pc + 1 := by
  rw [Cpu.fetched_of_not_haltBug c.fetched_haltBug]

@[simp] theorem fetch16_haltBug (s : Exec β) : (fetch16.run s).2.cpu.haltBug = false := by
  simp [fetch16]

theorem fetch16_pc {s : Exec β} (h : s.cpu.haltBug = false) :
    (fetch16.run s).2.cpu.registers.pc = s.cpu.registers.pc + 2 := by
  simp only [fetch16, run_bind, run_fetch8, run_pure, Cpu.fetched_fetched_pc]
  rw [Cpu.fetched_pc, h, if_neg (by decide), BitVec.add_assoc]
  rfl

@[simp] theorem push_haltBug (v : Word) (s : Exec β) :
    ((push v).run s).2.cpu.haltBug = s.cpu.haltBug := by
  simp [push]

@[simp] theorem push_pc (v : Word) (s : Exec β) :
    ((push v).run s).2.cpu.registers.pc = s.cpu.registers.pc := by
  simp [push]

@[simp] theorem pop_haltBug (s : Exec β) : (pop.run s).2.cpu.haltBug = s.cpu.haltBug := by
  simp [pop]

@[simp] theorem pop_pc (s : Exec β) : (pop.run s).2.cpu.registers.pc = s.cpu.registers.pc := by
  simp [pop]

@[simp] theorem readR_cpu (code : Nat) (s : Exec β) : ((readR code).run s).2.cpu = s.cpu := by
  unfold readR
  simp only [run_bind, run_cpu]
  split <;> simp

@[simp] theorem writeR_haltBug (code : Nat) (v : Byte) (s : Exec β) :
    ((writeR code v).run s).2.cpu.haltBug = s.cpu.haltBug := by
  unfold writeR
  split <;> simp

@[simp] theorem writeR_pc (code : Nat) (v : Byte) (s : Exec β) :
    ((writeR code v).run s).2.cpu.registers.pc = s.cpu.registers.pc := by
  unfold writeR
  split <;> simp

/-- The padding loop only idles. -/
@[simp] theorem padLoop_cpu (start target : Nat) (rounds : Nat) (s : Exec β) :
    ((padLoop start target rounds).run s).2.cpu = s.cpu := by
  induction rounds generalizing s with
  | zero => simp [padLoop]
  | succ rounds ih =>
    simp only [padLoop, run_bind, run_elapsed, run_ite]
    split
    · rw [ih]
      simp
    · rfl

@[simp] theorem padTo_cpu (start target : Nat) (s : Exec β) :
    ((padTo start target).run s).2.cpu = s.cpu := padLoop_cpu ..

@[simp] theorem executeCb_pc (opcode : Byte) (s : Exec β) :
    ((executeCb opcode).run s).2.cpu.registers.pc = s.cpu.registers.pc := by
  unfold executeCb
  simp only [run_bind]
  split <;> simp

@[simp] theorem executeCb_haltBug (opcode : Byte) (s : Exec β) :
    ((executeCb opcode).run s).2.cpu.haltBug = s.cpu.haltBug := by
  unfold executeCb
  simp only [run_bind]
  split <;> simp

/-! ## The HALT latch -/

theorem executeMisc_haltBug (y z : Nat) {s : Exec β} (h : s.cpu.haltBug = false) :
    ((executeMisc y z).run s).2.cpu.haltBug = false := by
  unfold executeMisc
  dsimp only
  split
  · split
    · simpa using h
    · simp
    · simpa using h
    · simp
    · simp only [run_bind, run_fetch8, run_cpu, run_ite]
      split <;> simp
  · simp only [run_bind, run_ite]
    split <;> simp [h]
  · simp only [run_bind, run_cpu, run_ite]
    split <;> split <;> split <;> simp [h]
  all_goals simp [h]

theorem executeControl_haltBug (y z : Nat) {s : Exec β} (h : s.cpu.haltBug = false) :
    ((executeControl y z).run s).2.cpu.haltBug = false := by
  unfold executeControl
  dsimp only
  split
  · simp only [run_ite]
    split
    · simp only [run_bind, run_cpu, run_ite]
      split <;> simp [h]
    · split <;> simp
  · simp only [run_bind, run_ite]
    split
    · simp [h]
    · split <;> simp [h]
  · simp only [run_ite]
    split
    · simp only [run_bind, run_cpu, run_ite]
      split <;> simp
    · split <;> simp [h]
  · split
    · simp
    · simp [h]
    · simp only [run_bind, run_modifyCpu, run_pure]
      split <;> simp [h]
    · simp [h]
  · simp only [run_bind, run_cpu, run_ite]
    split <;> simp
  · simp only [run_bind, run_ite]
    split
    · simp [h]
    · split <;> simp [h]
  · simp
  · simp [h]

/-- **Only HALT sets the latch**, and only with interrupts disabled and one pending. -/
theorem executeBase_haltBug {opcode : Byte} {s : Exec β} (h : s.cpu.haltBug = false)
    (hset : ((executeBase opcode).run s).2.cpu.haltBug = true) :
    opcode = 0x76 ∧ s.cpu.ime = false ∧ CpuBus.pendingInterrupts s.bus ≠ .empty ∧
      ((executeBase opcode).run s).2.cpu = { s.cpu with haltBug := true } := by
  have hfields := opcode_of_fields opcode
  have hx := opX_lt opcode
  unfold executeBase at hset ⊢
  generalize opX opcode = x at *
  generalize opY opcode = y at *
  generalize opZ opcode = z at *
  have hclash : ∀ {b : Bool}, b = false → b = true → False := by
    rintro b rfl
    decide
  interval_cases x
  · exact (hclash (executeMisc_haltBug y z h) hset).elim
  · simp only [executeFields, executeLoad, run_bind, run_ite, run_cpu, run_pendingInterrupts,
      run_modifyCpu, run_pure] at hset ⊢
    by_cases hhalt : y = 6 ∧ z = 6
    · rw [if_pos hhalt] at hset ⊢
      by_cases hb : s.cpu.ime = false ∧ CpuBus.pendingInterrupts s.bus ≠ .empty
      · rw [if_pos hb]
        obtain ⟨rfl, rfl⟩ := hhalt
        exact ⟨hfields, hb.1, hb.2, rfl⟩
      · rw [if_neg hb] at hset
        exact (hclash h hset).elim
    · rw [if_neg hhalt] at hset
      exact (hclash (by simp [h]) hset).elim
  · exact (hclash (by simp [executeFields, executeAlu, h]) hset).elim
  · exact (hclash (executeControl_haltBug y z h) hset).elim

/-! ## The program counter -/

/-- The instruction with these octal fields loads PC: a jump, a call or a return whose
condition holds. -/
def loadsPcFields (f : Flags) (x y z : Nat) : Bool :=
  match x, z with
  | 0, 0 => y == 3 || (decide (4 ≤ y) && condition f (y - 4))
  | 3, 0 => decide (y < 4) && condition f y
  | 3, 1 => y % 2 == 1 && decide (y / 2 < 3)
  | 3, 2 => decide (y < 4) && condition f y
  | 3, 3 => y == 0
  | 3, 4 => condition f y
  | 3, 5 => y % 2 == 1
  | 3, 7 => true
  | _, _ => false

/-- The instruction loads PC. -/
def loadsPc (f : Flags) (opcode : Byte) : Bool :=
  loadsPcFields f (opX opcode) (opY opcode) (opZ opcode)

/-- The bytes behind the opcode. -/
def operandBytes (x y z : Nat) : Word := BitVec.ofNat 16 ((metadataOfFields x y z).1 - 1)

theorem executeMisc_pc {y z : Nat} (hz : z < 8) {s : Exec β}
    (h : s.cpu.haltBug = false) (hj : loadsPcFields s.cpu.registers.f 0 y z = false) :
    ((executeMisc y z).run s).2.cpu.registers.pc = s.cpu.registers.pc + operandBytes 0 y z := by
  have hf := Cpu.fetched_of_not_haltBug h
  interval_cases z
  · obtain rfl | rfl | rfl | rfl | hy : y = 0 ∨ y = 1 ∨ y = 2 ∨ y = 3 ∨ 4 ≤ y := by omega
    · simp [executeMisc, operandBytes, metadataOfFields]
    · simp [executeMisc, operandBytes, metadataOfFields, fetch16_pc h]
    · simp [executeMisc, operandBytes, metadataOfFields]
    · simp [loadsPcFields] at hj
    · obtain ⟨d, rfl⟩ := Nat.exists_eq_add_of_le' hy
      have hc : condition s.cpu.registers.f d = false := by simpa [loadsPcFields] using hj
      simp [executeMisc, operandBytes, metadataOfFields, hf, hc]
  · by_cases hq : y % 2 = 0
    · simp [executeMisc, operandBytes, metadataOfFields, hq, fetch16_pc h]
    · simp [executeMisc, operandBytes, metadataOfFields, hq]
  · by_cases hq : y % 2 = 0 <;> by_cases h2 : y / 2 = 2 <;> by_cases h3 : y / 2 = 3 <;>
      simp [executeMisc, operandBytes, metadataOfFields, hq, h2, h3]
  · simp [executeMisc, operandBytes, metadataOfFields]
  · simp [executeMisc, operandBytes, metadataOfFields]
  · simp [executeMisc, operandBytes, metadataOfFields]
  · simp [executeMisc, operandBytes, metadataOfFields, hf]
  · simp [executeMisc, operandBytes, metadataOfFields]

theorem executeLoad_pc (y z : Nat) (s : Exec β) :
    ((executeLoad y z).run s).2.cpu.registers.pc = s.cpu.registers.pc + operandBytes 1 y z := by
  by_cases hhalt : y = 6 ∧ z = 6
  · by_cases hb : s.cpu.ime = false ∧ CpuBus.pendingInterrupts s.bus ≠ .empty <;>
      simp [executeLoad, operandBytes, metadataOfFields, hhalt, hb]
  · simp [executeLoad, operandBytes, metadataOfFields, hhalt]

theorem executeAlu_pc (y z : Nat) (s : Exec β) :
    ((executeAlu y z).run s).2.cpu.registers.pc = s.cpu.registers.pc + operandBytes 2 y z := by
  simp [executeAlu, operandBytes, metadataOfFields]

theorem executeControl_pc {y z : Nat} (hy : y < 8) (hz : z < 8) (hunprefixed : ¬ (y = 1 ∧ z = 3))
    {s : Exec β} (h : s.cpu.haltBug = false)
    (hj : loadsPcFields s.cpu.registers.f 3 y z = false) :
    ((executeControl y z).run s).2.cpu.registers.pc =
      s.cpu.registers.pc + operandBytes 3 y z := by
  have hf := Cpu.fetched_of_not_haltBug h
  interval_cases z
  · by_cases h4 : y < 4
    · have hc : condition s.cpu.registers.f y = false := by simpa [loadsPcFields, h4] using hj
      interval_cases y <;> simp [executeControl, operandBytes, metadataOfFields, hc]
    · obtain rfl | rfl | rfl | rfl : y = 4 ∨ y = 5 ∨ y = 6 ∨ y = 7 := by omega
      all_goals simp [executeControl, operandBytes, metadataOfFields, hf]
  · by_cases hq : y % 2 = 0
    · simp [executeControl, operandBytes, metadataOfFields, hq]
    · have h7 : y = 7 := by
        have hp : y % 2 = 1 → 3 ≤ y / 2 := by simpa [loadsPcFields] using hj
        omega
      subst h7
      simp [executeControl, operandBytes, metadataOfFields]
  · by_cases h4 : y < 4
    · have hc : condition s.cpu.registers.f y = false := by simpa [loadsPcFields, h4] using hj
      simp [executeControl, operandBytes, metadataOfFields, h4, fetch16_f, hc, fetch16_pc h]
    · obtain rfl | rfl | rfl | rfl : y = 4 ∨ y = 5 ∨ y = 6 ∨ y = 7 := by omega
      all_goals simp [executeControl, operandBytes, metadataOfFields, fetch16_pc h]
  · have h0 : y ≠ 0 := by simpa [loadsPcFields] using hj
    have h1 : y ≠ 1 := fun he => hunprefixed ⟨he, rfl⟩
    obtain rfl | rfl | rfl | rfl | rfl | rfl :
        y = 2 ∨ y = 3 ∨ y = 4 ∨ y = 5 ∨ y = 6 ∨ y = 7 := by omega
    all_goals (simp [executeControl, operandBytes, metadataOfFields]; try split <;> simp)
  · have hc : condition s.cpu.registers.f y = false := by simpa [loadsPcFields] using hj
    simp [executeControl, operandBytes, metadataOfFields, fetch16_f, hc, fetch16_pc h]
  · have hq : y % 2 = 0 := by
      have := by simpa [loadsPcFields] using hj
      omega
    simp [executeControl, operandBytes, metadataOfFields, hq]
  · simp [executeControl, operandBytes, metadataOfFields, hf]
  · simp [loadsPcFields] at hj

/-- The prefix byte is the only opcode with its fields. -/
theorem prefix_fields {opcode : Byte} (h : opcode ≠ 0xcb) (hx : opX opcode = 3) :
    ¬ (opY opcode = 1 ∧ opZ opcode = 3) := by
  rintro ⟨hy, hz⟩
  refine h ?_
  rw [opcode_of_fields opcode, hx, hy, hz]
  rfl

/-- **An instruction that does not load PC leaves it behind its operands.** -/
theorem executeBase_pc {opcode : Byte} (hne : opcode ≠ 0xcb) {s : Exec β}
    (h : s.cpu.haltBug = false) (hj : loadsPc s.cpu.registers.f opcode = false) :
    ((executeBase opcode).run s).2.cpu.registers.pc =
      s.cpu.registers.pc + BitVec.ofNat 16 ((decode opcode false).length - 1) := by
  have hx := opX_lt opcode
  have hy := opY_lt opcode
  have hz := opZ_lt opcode
  have hunprefixed := prefix_fields hne
  show _ = s.cpu.registers.pc + operandBytes (opX opcode) (opY opcode) (opZ opcode)
  unfold executeBase
  unfold loadsPc at hj
  generalize opX opcode = x at *
  interval_cases x
  · exact executeMisc_pc hz h hj
  · exact executeLoad_pc _ _ s
  · exact executeAlu_pc _ _ s
  · exact executeControl_pc hy hz (hunprefixed rfl) h hj

end Pockiva
