import Pockiva.Cpu.Accesses
import Pockiva.Cpu.Dispatch
import Pockiva.Cpu.Flow
import Pockiva.Lib.StackOps

/-! # The stack of a program

Calls, RST, PUSH and the dispatch of an interrupt put a word below SP; returns and POP take
one from it.  `stackOp` says what the next step does, and `calls_return` that over any run
that keeps its hands off the live words the memory above SP is the stack of those
operations: what is popped is what was pushed, so every return goes to where its call was.
-/
namespace Pockiva

open CpuM StackOps Transition

/-! ## Memory on a bus -/

/-- The operation can change memory. -/
def BusOp.Writes : BusOp → Prop
  | .write8 _ _ => True
  | _ => False

/-- Some addresses of a bus are memory. -/
class MemoryBus (β : Type) [CpuBus β] where
  memory : Word → Prop
  /-- Addresses with the same slot show the same byte. -/
  slot : Word → Word
  cell : β → Word → Byte
  /-- The CPU can reach the memory at the address. -/
  Open : β → Word → Prop
  memory_of_open {b : β} {address : Word} (h : Open b address) : memory address
  read8_open {b : β} {address : Word} (h : Open b address) :
    (CpuBus.read8 b address).1 = cell b address
  cell_apply (b : β) {op : BusOp} (hop : ¬ op.Writes) {address : Word} (h : memory address) :
    cell (op.apply b) address = cell b address
  open_apply {b : β} {op : BusOp} (hop : ¬ op.Writes) {address : Word} (h : Open b address) :
    Open (op.apply b) address
  cell_write8 {b : β} {written : Word} (hopen : Open b written) (value : Byte) {address : Word}
    (h : memory address) : cell (CpuBus.write8 b written value) address =
      if slot address = slot written then value else cell b address
  open_write8 {b : β} {written address : Word} (hwritten : Open b written) (value : Byte)
    (h : Open b address) : Open (CpuBus.write8 b written value) address

variable {β : Type} [CpuBus β]

section Memory
variable [MemoryBus β] {b c d : β}

/-- Memory is as before, and within reach as before. -/
structure Quiet (b c : β) : Prop where
  cell : ∀ address, MemoryBus.memory β address → MemoryBus.cell c address = MemoryBus.cell b address
  reach : ∀ address, MemoryBus.Open b address → MemoryBus.Open c address

namespace Quiet

theorem refl (b : β) : Quiet b b := ⟨fun _ _ => rfl, fun _ h => h⟩

theorem trans (h : Quiet b c) (g : Quiet c d) : Quiet b d :=
  ⟨fun a ha => (g.cell a ha).trans (h.cell a ha), fun a ha => g.reach a (h.reach a ha)⟩

theorem op (b : β) (op : BusOp) (h : ¬ op.Writes) : Quiet b (op.apply b) :=
  ⟨fun _ ha => MemoryBus.cell_apply b h ha, fun _ ha => MemoryBus.open_apply h ha⟩

theorem read8 (b : β) (address : Word) : Quiet b (CpuBus.read8 b address).2 :=
  op b (.read8 address) id

theorem idleMCycle (b : β) : Quiet b (CpuBus.idleMCycle b) := op b .idleMCycle id

theorem acknowledgeInterrupt (b : β) (i : Interrupt) :
    Quiet b (CpuBus.acknowledgeInterrupt b i) := op b (.acknowledgeInterrupt i) id

theorem fetch8 (s : Exec β) : Quiet s.bus (Pockiva.fetch8.run s).2.bus := by
  rw [run_fetch8]
  exact read8 s.bus _

theorem fetch16 (s : Exec β) : Quiet s.bus (Pockiva.fetch16.run s).2.bus := by
  rw [Pockiva.fetch16, run_bind, run_bind]
  exact (fetch8 s).trans (fetch8 _)

theorem padLoop (start target rounds : Nat) (s : Exec β) :
    Quiet s.bus ((Pockiva.padLoop start target rounds).run s).2.bus := by
  induction rounds generalizing s with
  | zero => exact refl _
  | succ rounds ih =>
    simp only [Pockiva.padLoop, run_bind, run_elapsed, run_ite]
    split
    · exact (idleMCycle s.bus).trans (ih ⟨s.cpu, CpuBus.idleMCycle s.bus⟩)
    · exact refl _

end Quiet

end Memory

/-! ## What an instruction does to the stack -/

/-- What the instruction with these octal fields does to the stack, by the registers behind
the fetch of its opcode; `none` when it loads SP. -/
def stackOpFields (r : Registers) (x y z : Nat) : Option (StackOp Word) :=
  match x, z with
  | 0, 1 => if y = 6 then none else some .keep
  | 0, 3 => if y / 2 = 3 then none else some .keep
  | 3, 0 =>
    if y < 4 then some (if condition r.f y then .pop else .keep)
    else if y = 5 then none
    else some .keep
  | 3, 1 =>
    if y % 2 = 0 ∨ y / 2 < 2 then some .pop
    else if y = 7 then none
    else some .keep
  | 3, 4 => some (if condition r.f y then .push (r.pc + 2) else .keep)
  | 3, 5 =>
    if y % 2 = 0 then some (.push (rp2 r (y / 2)))
    else if y / 2 = 0 then some (.push (r.pc + 2))
    else some .keep
  | 3, 7 => some (.push r.pc)
  | _, _ => some .keep

/-- What the next step does to the stack. -/
def stackOp (s : Exec β) : Option (StackOp Word) :=
  let pending := wakePending s.cpu s.bus
  match s.cpu.ime, pending.highestPriority with
  | true, some _ => some (.push s.cpu.registers.pc)
  | _, _ =>
    if s.cpu.mode ≠ .running ∧ pending = .empty then some .keep
    else
      let opcode := fetchedOpcode s
      if opcode = 0xcb ∨ (decode opcode false).illegal then some .keep
      else stackOpFields s.cpu.fetched.registers (opX opcode) (opY opcode) (opZ opcode)

/-- The registers after the instruction with these fields has popped a word. -/
def popInto (r : Registers) (y z : Nat) (word : Word) : Registers :=
  let r := { r with sp := r.sp + 2 }
  if z = 1 ∧ y % 2 = 0 then setRp2 r (y / 2) word else { r with pc := word }

/-! ## SP -/

@[simp] theorem Cpu.fetched_sp (c : Cpu) : c.fetched.registers.sp = c.registers.sp := by
  unfold fetched; split <;> rfl

@[simp] theorem alu_sp (r : Registers) (operation : Nat) (v : Byte) :
    (alu r operation v).sp = r.sp := by
  unfold alu
  split <;> rfl

@[simp] theorem accumulatorMisc_sp (r : Registers) (operation : Nat) :
    (accumulatorMisc r operation).sp = r.sp := by
  unfold accumulatorMisc
  dsimp only
  split <;> rfl

@[simp] theorem setRp2_sp (r : Registers) (code : Nat) (v : Word) :
    (setRp2 r code v).sp = r.sp := by
  unfold setRp2
  split <;> rfl

theorem setRp_sp (r : Registers) {code : Nat} (h : code < 3) (v : Word) :
    (setRp r code v).sp = r.sp := by
  interval_cases code <;> rfl

@[simp] theorem setHl_sp (r : Registers) (v : Word) : (r.setHl v).sp = r.sp := rfl

@[simp] theorem addHl_sp (r : Registers) (v : Word) : (addHl r v).sp = r.sp := rfl

@[simp] theorem addSp_sp (r : Registers) (offset : Byte) : (addSp r offset false).sp = r.sp := rfl

@[simp] theorem fetch16_sp (s : Exec β) :
    (fetch16.run s).2.cpu.registers.sp = s.cpu.registers.sp := by
  simp [fetch16]

@[simp] theorem writeR_sp (code : Nat) (v : Byte) (s : Exec β) :
    ((writeR code v).run s).2.cpu.registers.sp = s.cpu.registers.sp := by
  unfold writeR
  split <;> simp

@[simp] theorem executeCb_sp (opcode : Byte) (s : Exec β) :
    ((executeCb opcode).run s).2.cpu.registers.sp = s.cpu.registers.sp := by
  unfold executeCb
  simp only [run_bind]
  split <;> simp

theorem executeMisc_sp {y z : Nat} (hy : y < 8) (hz : z < 8) {s : Exec β} {r : Registers}
    (h : stackOpFields r 0 y z = some .keep) :
    ((executeMisc y z).run s).2.cpu.registers.sp = s.cpu.registers.sp := by
  interval_cases z
  · obtain rfl | rfl | rfl | rfl | hy : y = 0 ∨ y = 1 ∨ y = 2 ∨ y = 3 ∨ 4 ≤ y := by omega
    · simp [executeMisc]
    · simp [executeMisc]
    · simp [executeMisc]
    · simp [executeMisc]
    · obtain ⟨d, rfl⟩ := Nat.exists_eq_add_of_le' hy
      by_cases hc : condition s.cpu.registers.f d <;> simp [executeMisc, hc]
  · have h6 : y ≠ 6 := by
      rintro rfl
      simp [stackOpFields] at h
    by_cases hq : y % 2 = 0
    · simp [executeMisc, hq, setRp_sp _ (by omega : y / 2 < 3)]
    · simp [executeMisc, hq]
  · by_cases hq : y % 2 = 0 <;> by_cases h2 : y / 2 = 2 <;> by_cases h3 : y / 2 = 3 <;>
      simp [executeMisc, hq, h2, h3]
  · have h3 : y / 2 < 3 := by
      have hne : y / 2 ≠ 3 := by
        intro heq
        simp [stackOpFields, heq] at h
      omega
    simp [executeMisc, setRp_sp _ h3]
  · simp [executeMisc]
  · simp [executeMisc]
  · simp [executeMisc]
  · simp [executeMisc]

theorem executeLoad_sp (y z : Nat) (s : Exec β) :
    ((executeLoad y z).run s).2.cpu.registers.sp = s.cpu.registers.sp := by
  by_cases hhalt : y = 6 ∧ z = 6
  · by_cases hb : s.cpu.ime = false ∧ CpuBus.pendingInterrupts s.bus ≠ .empty <;>
      simp [executeLoad, hhalt, hb]
  · simp [executeLoad, hhalt]

theorem executeAlu_sp (y z : Nat) (s : Exec β) :
    ((executeAlu y z).run s).2.cpu.registers.sp = s.cpu.registers.sp := by
  simp [executeAlu]

theorem executeControl_sp {y z : Nat} (hy : y < 8) (hz : z < 8) {s : Exec β}
    (h : stackOpFields s.cpu.registers 3 y z = some .keep) :
    ((executeControl y z).run s).2.cpu.registers.sp = s.cpu.registers.sp := by
  interval_cases z
  · by_cases h4 : y < 4
    · have hc : condition s.cpu.registers.f y = false := by
        simpa [stackOpFields, h4] using h
      interval_cases y <;> simp [executeControl, hc]
    · obtain rfl | rfl | rfl | rfl : y = 4 ∨ y = 5 ∨ y = 6 ∨ y = 7 := by omega
      · simp [executeControl]
      · simp [stackOpFields] at h
      · simp [executeControl]
      · simp [executeControl]
  · have hy : y = 5 := by
      by_contra hne
      by_cases hpop : y % 2 = 0 ∨ y / 2 < 2
      · simp only [stackOpFields, if_pos hpop, Option.some.injEq, reduceCtorEq] at h
      · have h7 : y = 7 := by omega
        simp [stackOpFields, h7] at h
    subst hy
    simp [executeControl]
  · by_cases h4 : y < 4
    · by_cases hc : condition s.cpu.registers.f y <;>
        simp [executeControl, h4, fetch16_f, hc]
    · obtain rfl | rfl | rfl | rfl : y = 4 ∨ y = 5 ∨ y = 6 ∨ y = 7 := by omega
      all_goals simp [executeControl]
  · interval_cases y <;> simp [executeControl]
    split <;> simp
  · have hc : condition s.cpu.registers.f y = false := by
      simpa [stackOpFields] using h
    simp [executeControl, fetch16_f, hc]
  · have hq : y % 2 ≠ 0 := by
      intro hq
      simp [stackOpFields, hq] at h
    have hp : y / 2 ≠ 0 := by
      intro hp
      simp [stackOpFields, hq, hp] at h
    simp [executeControl, hq, hp]
  · simp [executeControl]
  · simp [stackOpFields] at h

/-! ## Pushing and popping -/

section Memory
variable [MemoryBus β] {s t u : Exec β} {word : Word} {y z : Nat}

open MemoryBus

/-- A word was put below SP. -/
structure Pushed (s t : Exec β) (word : Word) : Prop where
  sp : t.cpu.registers.sp = s.cpu.registers.sp - 2
  cell : Open s.bus (s.cpu.registers.sp - 1) → Open s.bus (s.cpu.registers.sp - 2) →
    ∀ address, memory β address → cell t.bus address =
      if slot β address = slot β (s.cpu.registers.sp - 2) then lowByte word
      else if slot β address = slot β (s.cpu.registers.sp - 1) then highByte word
      else cell s.bus address

/-- A word was taken from SP on, into PC or a register pair. -/
structure Popped (s t : Exec β) (y z : Nat) : Prop where
  quiet : Quiet s.bus t.bus
  sp : t.cpu.registers.sp = s.cpu.registers.sp + 2
  registers : Open s.bus s.cpu.registers.sp → Open s.bus (s.cpu.registers.sp + 1) →
    t.cpu.registers = popInto s.cpu.registers y z
      (wordOfBytes (cell s.bus (s.cpu.registers.sp + 1)) (cell s.bus s.cpu.registers.sp))

/-- Nothing happens to memory before. -/
theorem Pushed.after (h : Pushed t u word) (hquiet : Quiet s.bus t.bus)
    (hsp : t.cpu.registers.sp = s.cpu.registers.sp) : Pushed s u word := by
  refine ⟨by rw [h.sp, hsp], fun hhigh hlow address hmemory => ?_⟩
  have hcell := h.cell (hsp ▸ hquiet.reach _ hhigh) (hsp ▸ hquiet.reach _ hlow) address hmemory
  rw [hcell, hsp, hquiet.cell address hmemory]

/-- Nothing happens to memory behind. -/
theorem Pushed.before (h : Pushed s t word) (hquiet : Quiet t.bus u.bus)
    (hsp : u.cpu.registers.sp = t.cpu.registers.sp) : Pushed s u word := by
  refine ⟨by rw [hsp, h.sp], fun hhigh hlow address hmemory => ?_⟩
  rw [hquiet.cell address hmemory, h.cell hhigh hlow address hmemory]

theorem pushed_push (word : Word) (s : Exec β) : Pushed s ((push word).run s).2 word := by
  have hsp : s.cpu.registers.sp - 1 - 1 = s.cpu.registers.sp - 2 := by bv_omega
  simp only [push, run_bind, run_modifyRegisters, run_cpu, run_write8, hsp]
  refine ⟨rfl, fun hhigh hlow address hmemory => ?_⟩
  show cell (CpuBus.write8 (CpuBus.write8 s.bus _ _) _ _) address = _
  rw [cell_write8 (open_write8 hhigh _ hlow) _ hmemory, cell_write8 hhigh _ hmemory]

/-- The word at SP, where the CPU can read it. -/
theorem run_pop (s : Exec β) : Quiet s.bus (pop.run s).2.bus ∧
    (pop.run s).2.cpu =
      { s.cpu with registers := { s.cpu.registers with sp := s.cpu.registers.sp + 2 } } ∧
    (Open s.bus s.cpu.registers.sp → Open s.bus (s.cpu.registers.sp + 1) →
      (pop.run s).1 = wordOfBytes (cell s.bus (s.cpu.registers.sp + 1))
        (cell s.bus s.cpu.registers.sp)) := by
  have hsp : s.cpu.registers.sp + 1 + 1 = s.cpu.registers.sp + 2 := by bv_omega
  have hfirst := Quiet.read8 s.bus s.cpu.registers.sp
  simp only [pop, run_bind, run_modifyRegisters, run_cpu, run_read8, run_pure, hsp]
  refine ⟨hfirst.trans (.read8 _ _), trivial, fun hlow hhigh => ?_⟩
  rw [read8_open hlow, read8_open (hfirst.reach _ hhigh), hfirst.cell _ (memory_of_open hhigh)]

theorem pushed_control (hz : z < 8) (hhalt : s.cpu.haltBug = false)
    (h : stackOpFields s.cpu.registers 3 y z = some (.push word)) :
    Pushed s ((executeControl y z).run s).2 word := by
  have hcall : Pushed s ((push (s.cpu.registers.pc + 2)).run (fetch16.run s).2).2
      (s.cpu.registers.pc + 2) :=
    (pushed_push _ _).after (Quiet.fetch16 s) (fetch16_sp s)
  rw [← fetch16_pc hhalt] at hcall
  interval_cases z
  · by_cases h4 : y < 4
    · by_cases hc : condition s.cpu.registers.f y <;> simp [stackOpFields, h4, hc] at h
    · by_cases h5 : y = 5 <;> simp [stackOpFields, h4, h5] at h
  · by_cases hpop : y % 2 = 0 ∨ y / 2 < 2
    · simp only [stackOpFields, if_pos hpop, Option.some.injEq, reduceCtorEq] at h
    · rw [stackOpFields, if_neg hpop] at h
      by_cases h7 : y = 7 <;> simp [h7] at h
  · simp [stackOpFields] at h
  · simp [stackOpFields] at h
  · by_cases hc : condition s.cpu.registers.f y
    · simp only [stackOpFields, hc, if_true, Option.some.injEq, StackOp.push.injEq] at h
      simp only [executeControl, run_bind, run_cpu, fetch16_f, hc, if_true, run_setPc, run_pure]
      rw [← h, ← fetch16_pc hhalt]
      exact hcall.before (.refl _) rfl
    · simp [stackOpFields, hc] at h
  · by_cases hq : y % 2 = 0
    · simp only [stackOpFields, hq, if_true, Option.some.injEq, StackOp.push.injEq] at h
      simp only [executeControl, run_bind, run_cpu, hq, if_true, run_pure]
      rw [h]
      exact pushed_push word s
    · by_cases hp : y / 2 = 0
      · simp only [stackOpFields, hq, hp, if_true, if_false, Option.some.injEq,
          StackOp.push.injEq] at h
        simp only [executeControl, run_bind, run_cpu, hq, hp, if_true, if_false, run_setPc,
          run_pure]
        rw [← h, ← fetch16_pc hhalt]
        exact hcall.before (.refl _) rfl
      · simp [stackOpFields, hq, hp] at h
  · simp [stackOpFields] at h
  · simp only [stackOpFields, Option.some.injEq, StackOp.push.injEq] at h
    simp only [executeControl, run_bind, run_cpu, run_setPc, run_pure]
    rw [h]
    exact (pushed_push word s).before (.refl _) rfl

theorem popped_control (hy : y < 8) (hz : z < 8)
    (h : stackOpFields s.cpu.registers 3 y z = some .pop) :
    Popped s ((executeControl y z).run s).2 y z := by
  obtain ⟨hquiet, hcpu, hword⟩ := run_pop s
  interval_cases z
  · by_cases h4 : y < 4
    · by_cases hc : condition s.cpu.registers.f y
      · simp only [executeControl, run_bind, run_cpu, h4, hc, if_true, run_setPc, run_pure, hcpu]
        refine ⟨hquiet, rfl, fun hlow hhigh => ?_⟩
        rw [hword hlow hhigh]
        rfl
      · simp [stackOpFields, h4, hc] at h
    · by_cases h5 : y = 5 <;> simp [stackOpFields, h4, h5] at h
  · by_cases hq : y % 2 = 0
    · simp only [executeControl, run_bind, hq, if_true, run_modifyRegisters, run_pure, hcpu]
      refine ⟨hquiet, setRp2_sp _ _ _, fun hlow hhigh => ?_⟩
      rw [hword hlow hhigh, popInto, if_pos ⟨rfl, hq⟩]
    · obtain rfl | rfl | rfl | rfl : y = 1 ∨ y = 3 ∨ y = 5 ∨ y = 7 := by omega
      · simp only [executeControl, hq, if_false, run_bind, run_setPc, run_pure, hcpu]
        refine ⟨hquiet, rfl, fun hlow hhigh => ?_⟩
        rw [hword hlow hhigh]
        rfl
      · simp only [executeControl, hq, if_false, run_bind, run_setPc, run_modifyCpu, run_pure,
          hcpu]
        refine ⟨hquiet, rfl, fun hlow hhigh => ?_⟩
        rw [hword hlow hhigh]
        rfl
      · simp [stackOpFields] at h
      · simp [stackOpFields] at h
  · simp [stackOpFields] at h
  · simp [stackOpFields] at h
  · by_cases hc : condition s.cpu.registers.f y <;> simp [stackOpFields, hc] at h
  · by_cases hq : y % 2 = 0
    · simp [stackOpFields, hq] at h
    · by_cases hp : y / 2 = 0 <;> simp [stackOpFields, hq, hp] at h
  · simp [stackOpFields] at h
  · simp [stackOpFields] at h

/-! ## One step -/

/-- What follows the execution of a legal opcode leaves the registers and memory alone. -/
theorem executeInstruction_base_state (start : Nat) (hcb : fetchedOpcode s ≠ 0xcb)
    (hlegal : (decode (fetchedOpcode s) false).illegal = false) :
    ((executeInstruction start).run s).2.cpu.registers =
        ((executeBase (fetchedOpcode s)).run (afterOpcode s)).2.cpu.registers ∧
      Quiet ((executeBase (fetchedOpcode s)).run (afterOpcode s)).2.bus
        ((executeInstruction start).run s).2.bus := by
  simp only [executeInstruction, run_bind, run_cpu, run_fetch8_eq, hcb, hlegal, if_false,
    Bool.false_eq_true, run_elapsed, run_pure, applyImeDelay_bus]
  refine ⟨?_, Quiet.padLoop _ _ _ _⟩
  rw [applyImeDelay_registers, padTo_cpu]

omit [MemoryBus β] in
theorem afterOpcode_awoken_registers (s : Exec β) :
    (afterOpcode (awoken s)).cpu.registers = s.cpu.fetched.registers := by
  unfold afterOpcode awoken Cpu.fetched
  dsimp only
  split <;> rfl

omit [MemoryBus β] in
/-- A step that executes an instruction. -/
theorem stackOp_executes (hx : Executes s.cpu s.bus) :
    stackOp s = if fetchedOpcode s = 0xcb ∨ (decode (fetchedOpcode s) false).illegal then some .keep
      else stackOpFields s.cpu.fetched.registers (opX (fetchedOpcode s)) (opY (fetchedOpcode s))
        (opZ (fetchedOpcode s)) := by
  have hawake : ¬ (s.cpu.mode ≠ .running ∧ wakePending s.cpu s.bus = .empty) := fun h =>
    hx.awake.elim h.1 fun hne => hne h.2
  rcases hx.masked with hime | hempty
  · simp only [stackOp, hime, if_neg hawake]
  · have hnone : (wakePending s.cpu s.bus).highestPriority = none := by
      rw [hempty]
      rfl
    simp only [stackOp, hnone, if_neg hawake]
    cases s.cpu.ime <;> rfl

omit [MemoryBus β] in
theorem stackOp_dispatch {i : Interrupt} (hime : s.cpu.ime = true)
    (hp : (wakePending s.cpu s.bus).highestPriority = some i) :
    stackOp s = some (.push s.cpu.registers.pc) := by
  simp only [stackOp, hime, hp]

omit [MemoryBus β] in
theorem stackOp_idle (hm : s.cpu.mode ≠ .running) (hempty : wakePending s.cpu s.bus = .empty) :
    stackOp s = some .keep := by
  have hnone : (wakePending s.cpu s.bus).highestPriority = none := by
    rw [hempty]
    rfl
  simp only [stackOp, hnone, if_pos (And.intro hm hempty)]
  cases s.cpu.ime <;> rfl

theorem pushed_dispatch (i : Interrupt) (s : Exec β) :
    Pushed s ((serviceInterrupt i).run s).2 s.cpu.registers.pc := by
  simp only [serviceInterrupt, run_bind, run_modifyCpu, run_acknowledgeInterrupt, run_idleMCycle,
    run_cpu, run_setPc]
  have hbefore := (Quiet.acknowledgeInterrupt s.bus i).trans
    ((Quiet.idleMCycle _).trans (Quiet.idleMCycle _))
  have hpush := (pushed_push s.cpu.registers.pc
    ⟨{ s.cpu with ime := false, imeEnableDelay := 0, mode := .running }, _⟩).after hbefore rfl
  exact hpush.before (Quiet.idleMCycle _) rfl

omit [MemoryBus β] in
/-- The opcodes that push or pop are those of the last column block. -/
theorem opX_eq_three {r : Registers} {x y z : Nat} (hx : x < 4) {op : StackOp Word}
    (h : stackOpFields r x y z = some op) (hop : op ≠ .keep) : x = 3 := by
  interval_cases x
  · unfold stackOpFields at h
    split at h <;> grind
  · exact absurd (Option.some.inj h).symm hop
  · exact absurd (Option.some.inj h).symm hop
  · rfl

/-- What a step that pushes or pops does: it dispatches an interrupt, or it executes one of the
opcodes C0 to FF. -/
theorem stack_step_cases {op : StackOp Word} (h : stackOp s = some op) (hop : op ≠ .keep) :
    (∃ i, s.cpu.ime = true ∧ (wakePending s.cpu s.bus).highestPriority = some i ∧
      op = .push s.cpu.registers.pc) ∨
    (∃ y z, y = opY (fetchedOpcode s) ∧ z = opZ (fetchedOpcode s) ∧
      stackOpFields (afterOpcode (awoken s)).cpu.registers 3 y z = some op ∧
      (step.run s).2.cpu.registers =
        ((executeControl y z).run (afterOpcode (awoken s))).2.cpu.registers ∧
      Quiet ((executeControl y z).run (afterOpcode (awoken s))).2.bus (step.run s).2.bus) := by
  rcases step_cases s with ⟨i, hime, hp⟩ | ⟨-, hm, hp⟩ | ⟨-, hm, hp⟩ | hx
  · rw [stackOp_dispatch hime hp, Option.some.injEq] at h
    exact .inl ⟨i, hime, hp, h.symm⟩
  · rw [stackOp_idle (by rw [hm]; decide) hp, Option.some.injEq] at h
    exact absurd h.symm hop
  · rw [stackOp_idle (by rw [hm]; decide) hp, Option.some.injEq] at h
    exact absurd h.symm hop
  · rw [stackOp_executes hx] at h
    split at h
    · -- neither the opcodes behind CB nor the illegal ones use the stack
      exact absurd (Option.some.inj h).symm hop
    · next hcode =>
      obtain ⟨hcb, hlegal⟩ := not_or.mp hcode
      rw [Bool.not_eq_true] at hlegal
      have hthree := opX_eq_three (opX_lt _) h hop
      have hexecute : (executeBase (fetchedOpcode s) : CpuM β Bool) =
          executeControl (opY (fetchedOpcode s)) (opZ (fetchedOpcode s)) := by
        rw [executeBase, hthree]
        rfl
      have hstate := executeInstruction_base_state (s := awoken s)
        (CpuBus.elapsedTCycles s.bus) hcb hlegal
      have hfetched : fetchedOpcode (awoken s) = fetchedOpcode s := rfl
      rw [hfetched, hexecute] at hstate
      rw [hthree, ← afterOpcode_awoken_registers] at h
      rw [step_instruction hx]
      exact .inr ⟨_, _, rfl, rfl, h, hstate⟩

/-- The fetch of the opcode. -/
theorem fetched_quiet (s : Exec β) : Quiet s.bus (afterOpcode (awoken s)).bus :=
  Quiet.read8 s.bus _

omit [MemoryBus β] in
theorem afterOpcode_awoken_sp (s : Exec β) :
    (afterOpcode (awoken s)).cpu.registers.sp = s.cpu.registers.sp := by
  rw [afterOpcode_awoken_registers, Cpu.fetched_sp]

/-- **A step that pushes.** -/
theorem step_pushed (h : stackOp s = some (.push word)) : Pushed s (step.run s).2 word := by
  rcases stack_step_cases h nofun with
    ⟨i, hime, hp, hpc⟩ | ⟨y, z, rfl, rfl, hop, hregisters, hquiet⟩
  · rw [StackOp.push.injEq] at hpc
    rw [step_dispatch hime hp, hpc]
    exact pushed_dispatch i s
  · -- before the push the opcode is fetched, behind it the step is padded
    have hpush := pushed_control (opZ_lt _) (Cpu.fetched_haltBug _) hop
    have hfetched := hpush.after (fetched_quiet s) (afterOpcode_awoken_sp s)
    exact hfetched.before hquiet (congrArg Registers.sp hregisters)

/-- A step takes the word at SP. -/
structure StepPopped (s t : Exec β) (word : Word) : Prop where
  quiet : Quiet s.bus t.bus
  sp : t.cpu.registers.sp = s.cpu.registers.sp + 2
  registers : t.cpu.registers = popInto s.cpu.fetched.registers (opY (fetchedOpcode s))
    (opZ (fetchedOpcode s)) word

/-- **A step that pops.** -/
theorem step_popped (h : stackOp s = some .pop) (hlow : Open s.bus s.cpu.registers.sp)
    (hhigh : Open s.bus (s.cpu.registers.sp + 1)) :
    StepPopped s (step.run s).2 (wordOfBytes (cell s.bus (s.cpu.registers.sp + 1))
      (cell s.bus s.cpu.registers.sp)) := by
  rcases stack_step_cases h nofun with
    ⟨i, hime, hp, hpc⟩ | ⟨y, z, rfl, rfl, hop, hregisters, hquiet⟩
  · cases hpc
  · have hpop := popped_control (opY_lt _) (opZ_lt _) hop
    have hfetch := fetched_quiet s
    have hsp := afterOpcode_awoken_sp s
    have hloaded := hpop.registers (hsp ▸ hfetch.reach _ hlow) (hsp ▸ hfetch.reach _ hhigh)
    rw [hsp, hfetch.cell _ (memory_of_open hlow), hfetch.cell _ (memory_of_open hhigh),
      afterOpcode_awoken_registers] at hloaded
    refine ⟨hfetch.trans (hpop.quiet.trans hquiet), ?_, hregisters.trans hloaded⟩
    rw [hregisters, hpop.sp, hsp]

omit [MemoryBus β] in
theorem executeInstruction_prefixed_sp (start : Nat) (hcb : fetchedOpcode s = 0xcb) :
    ((executeInstruction start).run s).2.cpu.registers.sp = s.cpu.registers.sp := by
  simp only [executeInstruction, run_bind, run_cpu, run_fetch8_eq, hcb, if_true, run_elapsed,
    run_pure, applyImeDelay_registers, padTo_cpu, executeCb_sp]
  simp only [afterOpcode, Cpu.fetched_sp]

/-- **A step that neither pushes nor pops.** -/
theorem step_kept (h : stackOp s = some .keep) :
    (step.run s).2.cpu.registers.sp = s.cpu.registers.sp := by
  rcases step_cases s with ⟨i, hime, hp⟩ | ⟨hd, hm, hp⟩ | ⟨hd, hm, hp⟩ | hx
  · -- an interrupt pushes PC
    rw [stackOp_dispatch hime hp] at h
    cases h
  · rw [step_not_dispatch hd, if_pos ⟨hm, hp⟩]
  · rw [step_not_dispatch hd, if_neg (by simp [hm]), if_pos ⟨hm, hp⟩]
  · rw [stackOp_executes hx] at h
    rw [step_instruction hx]
    by_cases hcb : fetchedOpcode s = 0xcb
    · exact executeInstruction_prefixed_sp (s := awoken s) _ hcb
    · cases hlegal : (decode (fetchedOpcode s) false).illegal with
      | true =>
        rw [executeInstruction_illegal (s := awoken s) _ hcb hlegal]
        exact afterOpcode_awoken_sp s
      | false =>
        obtain ⟨hregisters, -⟩ := executeInstruction_base_state (s := awoken s)
          (CpuBus.elapsedTCycles s.bus) hcb hlegal
        rw [if_neg (not_or.mpr ⟨hcb, by rw [hlegal]; decide⟩), ← afterOpcode_awoken_registers] at h
        rw [hregisters, ← afterOpcode_awoken_sp s]
        have hx := opX_lt (fetchedOpcode s)
        have hy := opY_lt (fetchedOpcode s)
        have hz := opZ_lt (fetchedOpcode s)
        show ((executeBase (fetchedOpcode s)).run _).2.cpu.registers.sp = _
        unfold executeBase
        generalize opX (fetchedOpcode s) = x at *
        interval_cases x
        · exact executeMisc_sp hy hz h
        · exact executeLoad_sp _ _ _
        · exact executeAlu_sp _ _ _
        · exact executeControl_sp hy hz h

end Memory

/-! ## The stack over a run -/

/-- Where a program has its stack: memory of its own, from `floor` up to below `top`. -/
structure StackArea (β : Type) [CpuBus β] [MemoryBus β] where
  floor : Word
  top : Word
  memory : ∀ address, floor ≤ address → address < top → MemoryBus.memory β address
  distinct : ∀ a b, floor ≤ a → a < top → floor ≤ b → b < top →
    MemoryBus.slot β a = MemoryBus.slot β b → a = b

section Area
variable [MemoryBus β] {area : StackArea β} {s t u v : Exec β} {word : Word}
  {stack stack' : List Word} {cell cell' : Word → Byte}

open MemoryBus (Open)

/-- From the address `n` up to `top` there are these words. -/
def Holds (top : Word) (cell : Word → Byte) : Nat → List Word → Prop
  | n, [] => n = top.toNat
  | n, word :: rest => cell (.ofNat 16 n) = lowByte word ∧
      cell (.ofNat 16 (n + 1)) = highByte word ∧ Holds top cell (n + 2) rest

theorem Holds.length {top : Word} {n : Nat} (h : Holds top cell n stack) :
    n + 2 * stack.length = top.toNat := by
  induction stack generalizing n with
  | nil => exact h
  | cons word rest ih =>
    have hrest := ih h.2.2
    rw [List.length_cons]
    omega

/-- Only the bytes above `n` matter. -/
theorem Holds.congr {top : Word} {n : Nat} (h : Holds top cell n stack)
    (hsame : ∀ k, n ≤ k → k < top.toNat → cell' (.ofNat 16 k) = cell (.ofNat 16 k)) :
    Holds top cell' n stack := by
  induction stack generalizing n with
  | nil => exact h
  | cons word rest ih =>
    have hlength := h.length
    rw [List.length_cons] at hlength
    obtain ⟨hlow, hhigh, hrest⟩ := h
    refine ⟨(hsame n (Nat.le_refl _) (by omega)).trans hlow,
      (hsame (n + 1) (by omega) (by omega)).trans hhigh, ih hrest fun k hle hlt => ?_⟩
    exact hsame k (by omega) hlt

/-- The memory above SP is the stack. -/
structure Stacked (area : StackArea β) (s : Exec β) (stack : List Word) : Prop where
  floor : area.floor ≤ s.cpu.registers.sp
  holds : Holds area.top (MemoryBus.cell s.bus) s.cpu.registers.sp.toNat stack

/-- What keeps to the stack: steps that push within the area, that pop, or that leave SP and
the words on the stack alone, and whatever the machine does between the steps. -/
inductive StackStep (area : StackArea β) (s : Exec β) : StackOp Word → Exec β → Prop where
  | push {word : Word} (hop : stackOp s = some (.push word))
      (hroom : area.floor.toNat + 2 ≤ s.cpu.registers.sp.toNat)
      (hhigh : Open s.bus (s.cpu.registers.sp - 1)) (hlow : Open s.bus (s.cpu.registers.sp - 2)) :
      StackStep area s (.push word) (step.run s).2
  | pop (hop : stackOp s = some .pop) (hlow : Open s.bus s.cpu.registers.sp)
      (hhigh : Open s.bus (s.cpu.registers.sp + 1)) : StackStep area s .pop (step.run s).2
  | keep (hop : stackOp s = some .keep)
      (hlive : ∀ address, s.cpu.registers.sp ≤ address → address < area.top →
        MemoryBus.cell (step.run s).2.bus address = MemoryBus.cell s.bus address) :
      StackStep area s .keep (step.run s).2
  | machine {t : Exec β} (hcpu : t.cpu = s.cpu)
      (hlive : ∀ address, s.cpu.registers.sp ≤ address → address < area.top →
        MemoryBus.cell t.bus address = MemoryBus.cell s.bus address) :
      StackStep area s .keep t

def stackSystem (area : StackArea β) : System (Exec β) (StackOp Word) where
  start _ := True
  step := StackStep area

theorem Stacked.keep (h : Stacked area s stack) (hsp : t.cpu.registers.sp = s.cpu.registers.sp)
    (hlive : ∀ address, s.cpu.registers.sp ≤ address → address < area.top →
      MemoryBus.cell t.bus address = MemoryBus.cell s.bus address) : Stacked area t stack := by
  refine ⟨hsp ▸ h.floor, ?_⟩
  rw [hsp]
  have htop := area.top.isLt
  refine h.holds.congr fun k hle hlt => hlive _ ?_ ?_ <;> bv_omega

/-- The stack does not reach above the area. -/
theorem Stacked.sp_le (h : Stacked area s stack) : s.cpu.registers.sp.toNat ≤ area.top.toNat := by
  have hlength := h.holds.length
  omega

/-- **A word that is pushed is the first of the stack.** -/
theorem Stacked.push (h : Stacked area s stack)
    (hroom : area.floor.toNat + 2 ≤ s.cpu.registers.sp.toNat)
    (hhigh : Open s.bus (s.cpu.registers.sp - 1)) (hlow : Open s.bus (s.cpu.registers.sp - 2))
    (hpush : Pushed s t word) : Stacked area t (word :: stack) := by
  have hle := h.sp_le
  have htop := area.top.isLt
  have hcell := hpush.cell hhigh hlow
  have hholds := h.holds
  generalize hn : s.cpu.registers.sp.toNat = n at *
  have hsp : s.cpu.registers.sp = .ofNat 16 n := by
    rw [← hn, BitVec.ofNat_toNat, BitVec.setWidth_eq]
  have hbelow : (BitVec.ofNat 16 n - 2 : Word) = .ofNat 16 (n - 2) := by bv_omega
  have hbelow' : (BitVec.ofNat 16 n - 1 : Word) = .ofNat 16 (n - 2 + 1) := by bv_omega
  rw [hsp, hbelow, hbelow'] at hcell
  have hmemory : ∀ k, n - 2 ≤ k → k < area.top.toNat →
      MemoryBus.memory β (.ofNat 16 k) := fun k hk hk' =>
    area.memory _ (by bv_omega) (by bv_omega)
  -- so neither byte takes the place of the other, or of one that was there
  have hdistinct : ∀ j k, n - 2 ≤ j → j < k → k < area.top.toNat →
      MemoryBus.slot β (.ofNat 16 k) ≠ MemoryBus.slot β (.ofNat 16 j) := by
    intro j k hj hjk hk hslot
    have heq := area.distinct _ _ (by bv_omega) (by bv_omega) (by bv_omega) (by bv_omega) hslot
    bv_omega
  have hpushed : t.cpu.registers.sp = .ofNat 16 (n - 2) := by rw [hpush.sp, hsp, hbelow]
  refine ⟨by rw [hpushed]; bv_omega, ?_⟩
  have htoNat : (BitVec.ofNat 16 (n - 2)).toNat = n - 2 := by
    rw [BitVec.toNat_ofNat, Nat.mod_eq_of_lt (by omega)]
  rw [hpushed, htoNat]
  refine ⟨?_, ?_, ?_⟩
  · rw [hcell _ (hmemory _ (Nat.le_refl _) (by omega)), if_pos rfl]
  · rw [hcell _ (hmemory _ (by omega) (by omega)),
      if_neg (hdistinct _ _ (Nat.le_refl _) (by omega) (by omega)), if_pos rfl]
  · have hn2 : n - 2 + 2 = n := by omega
    rw [hn2]
    refine hholds.congr fun k hk hk' => ?_
    rw [hcell _ (hmemory _ (by omega) hk'),
      if_neg (hdistinct _ _ (Nat.le_refl _) (by omega) hk'),
      if_neg (hdistinct _ _ (by omega) (by omega) hk')]

omit [CpuBus β] [MemoryBus β] in
theorem wordOfBytes_bytes (word : Word) : wordOfBytes (highByte word) (lowByte word) = word := by
  have h : wordOfBytes (highByte word) (lowByte word) = word.extractLsb' 0 (8 + 8) :=
    BitVec.extractLsb'_append_extractLsb'_eq_extractLsb' (by decide)
  exact h.trans BitVec.extractLsb'_eq_self

/-- The word that a step pops is the first of the stack. -/
theorem Stacked.word_eq (h : Stacked area s (word :: stack)) :
    wordOfBytes (MemoryBus.cell s.bus (s.cpu.registers.sp + 1))
      (MemoryBus.cell s.bus s.cpu.registers.sp) = word := by
  obtain ⟨hlow, hhigh, -⟩ := h.holds
  have hsp : (BitVec.ofNat 16 s.cpu.registers.sp.toNat : Word) = s.cpu.registers.sp :=
    BitVec.ofNat_toNat 16 _
  rw [BitVec.ofNat_add, hsp] at hhigh
  rw [hsp] at hlow
  exact (congrArg₂ wordOfBytes hhigh hlow).trans (wordOfBytes_bytes word)

/-- **A word that is popped is the first of the stack.** -/
theorem Stacked.pop (h : Stacked area s (word :: stack)) (hpop : StepPopped s t word) :
    Stacked area t stack := by
  have hlength := h.holds.length
  have htop := area.top.isLt
  rw [List.length_cons] at hlength
  obtain ⟨-, -, hrest⟩ := h.holds
  have hfloor := h.floor
  have hsp : t.cpu.registers.sp.toNat = s.cpu.registers.sp.toNat + 2 := by
    rw [hpop.sp]
    bv_omega
  refine ⟨by bv_omega, ?_⟩
  rw [hsp]
  refine hrest.congr fun k hk hk' => hpop.quiet.cell _ (area.memory _ ?_ ?_) <;> bv_omega

/-- **What a step does to the memory above SP is what it does to the stack.** -/
theorem Stacked.step {op : StackOp Word} (h : Stacked area s stack) (hstep : StackStep area s op t)
    (hop : op.apply stack = some stack') : Stacked area t stack' := by
  cases hstep with
  | push hpush hroom hhigh hlow =>
    cases hop
    exact h.push hroom hhigh hlow (step_pushed hpush)
  | pop hpop hlow hhigh =>
    cases stack with
    | nil => cases hop
    | cons word rest =>
      cases hop
      have hpopped := step_popped hpop hlow hhigh
      rw [h.word_eq] at hpopped
      exact h.pop hpopped
  | keep hkeep hlive =>
    cases hop
    exact h.keep (step_kept hkeep) hlive
  | machine hcpu hlive =>
    cases hop
    exact h.keep (by rw [hcpu]) hlive

/-- **And so over a run.** -/
theorem Stacked.run {ops : List (StackOp Word)} (h : Stacked area s stack)
    (hrun : Run (stackSystem area) s ops t) (hops : StackOps.run ops stack = some stack') :
    Stacked area t stack' := by
  induction hrun generalizing stack' with
  | nil =>
    cases hops
    exact h
  | @snoc ops t u op _ hstep ih =>
    rw [run_append] at hops
    obtain ⟨next, hnext, hlast⟩ := Option.bind_eq_some_iff.mp hops
    obtain ⟨after, hafter, hnil⟩ := Option.bind_eq_some_iff.mp ((run_cons _ _ _).symm.trans hlast)
    cases hnil
    exact (ih hnext).step hstep hafter

/-- In a run a step pops the word that one before it pushed, and SP is where it was then. -/
def Returned (area : StackArea β) (s : Exec β) (before : List (StackOp Word)) (word : Word)
    (body after : List (StackOp Word)) (t : Exec β) : Prop :=
  ∃ c d u v, Run (stackSystem area) s before c ∧ StackStep area c (.push word) d ∧
    Run (stackSystem area) d body u ∧ StackStep area u .pop v ∧ Run (stackSystem area) v after t ∧
    StepPopped u v word ∧ v.cpu.registers.sp = c.cpu.registers.sp

/-- **Calls return**: over every run that keeps to the stack, the memory above SP holds the words
that were pushed and not popped yet, and what a step pops is the word that its push put there,
with SP as it was before the push. -/
theorem calls_return {ops : List (StackOp Word)} (h : Stacked area s stack)
    (hrun : Run (stackSystem area) s ops t) (hops : StackOps.run ops stack = some stack') :
    Stacked area t stack' ∧
      ∀ before word body after, ops = before ++ .push word :: (body ++ .pop :: after) →
        Balanced body → Returned area s before word body after t := by
  refine ⟨h.run hrun hops, ?_⟩
  rintro before word body after rfl hbody
  obtain ⟨c, hbefore, hrest⟩ := hrun.split
  obtain ⟨d, hcall, hrest⟩ := hrest.cons_inv
  obtain ⟨u, hinside, hrest⟩ := hrest.split
  obtain ⟨v, hreturn, hafter⟩ := hrest.cons_inv
  rw [run_append] at hops
  obtain ⟨below, hbelow, -⟩ := Option.bind_eq_some_iff.mp hops
  have hc := h.run hbefore hbelow
  -- a balanced body does not see the word, so the pop finds it
  have hu := (hc.step hcall rfl).run hinside (hbody.run_eq _)
  have hv := hu.step hreturn rfl
  refine ⟨c, d, u, v, hbefore, hcall, hinside, hreturn, hafter, ?_, ?_⟩
  · cases hreturn with
    | pop hpop hlow hhigh =>
      have hpopped := step_popped hpop hlow hhigh
      rwa [hu.word_eq] at hpopped
  · -- SP is as far below the top as there are words, then as before
    have hlength := hc.holds.length
    have hlength' := hv.holds.length
    exact BitVec.eq_of_toNat_eq (by omega)

end Area

/-! ## A call on a bus of memory only -/

instance : MemoryBus TestBus where
  memory _ := True
  slot := id
  cell b := b.memory
  Open _ _ := True
  memory_of_open _ := trivial
  read8_open _ := rfl
  cell_apply b op hop address _ := by
    cases op with
    | write8 address value => exact absurd trivial hop
    | _ => rfl
  open_apply _ _ h := h
  cell_write8 _ _ _ _ := rfl
  open_write8 _ _ h := h

namespace TestBus

/-- CALL 0110 at 0100; PUSH BC, POP DE and RET at 0110. -/
def callAndReturn : TestBus where
  memory a :=
    if a = 0x0100 then 0xcd else if a = 0x0101 then 0x10 else if a = 0x0102 then 0x01
    else if a = 0x0110 then 0xc5 else if a = 0x0111 then 0xd1 else if a = 0x0112 then 0xc9 else 0
  elapsedTCycles := 0
  pending := .empty
  dividerReset := false

end TestBus

/-- All of HRAM below the SP of the boot ROM. -/
def bootStack : StackArea TestBus where
  floor := 0xff80
  top := 0xfffe
  memory _ _ _ := trivial
  distinct _ _ _ _ _ _ h := h

/-- The CPU after `n` steps of the call. -/
def duringCall : Nat → Exec TestBus
  | 0 => ⟨.postBootDmg, .callAndReturn⟩
  | n + 1 => (step.run (duringCall n)).2

theorem calls_return_duringCall :
    Returned bootStack (duringCall 0) [] 0x0103 [.push 0x0013, .pop] [] (duringCall 4) := by
  have hstart : Stacked bootStack (duringCall 0) [] := ⟨by decide, rfl⟩
  have hcall : StackStep bootStack (duringCall 0) (.push 0x0103) (duringCall 1) :=
    .push (by decide) (by decide) trivial trivial
  have hpush : StackStep bootStack (duringCall 1) (.push 0x0013) (duringCall 2) :=
    .push (by decide) (by decide) trivial trivial
  have hpop : StackStep bootStack (duringCall 2) .pop (duringCall 3) :=
    .pop (by decide) trivial trivial
  have hreturn : StackStep bootStack (duringCall 3) .pop (duringCall 4) :=
    .pop (by decide) trivial trivial
  exact (calls_return hstart ((((Run.nil.snoc hcall).snoc hpush).snoc hpop).snoc hreturn) rfl).2
    [] _ _ [] rfl rfl

end Pockiva
