import Pockiva.Cpu.Timing
import Mathlib.Logic.Relation

/-! # What a step does to the bus

The CPU reaches its bus only through the operations of `CpuBus`: the bus after a step
is the bus before it after some of them (`Drives.step`).  So whatever each operation
preserves, every step preserves (`Driven.invariant`), also between the M-cycles of one
instruction.  The reset of the divider is special: only STOP makes it, directly after
the fetch of its opcode (`Moves.step`).
-/
namespace Pockiva

open CpuM Relation

variable {β : Type} [CpuBus β] {α γ : Type}

/-- What the CPU asks of its bus. -/
inductive BusOp where
  | read8 (address : Word)
  | write8 (address : Word) (value : Byte)
  | idleMCycle
  | acknowledgeInterrupt (i : Interrupt)
  | resetDivider

/-- The bus after an operation. -/
def BusOp.apply (b : β) : BusOp → β
  | .read8 address => (CpuBus.read8 b address).2
  | .write8 address value => CpuBus.write8 b address value
  | .idleMCycle => CpuBus.idleMCycle b
  | .acknowledgeInterrupt i => CpuBus.acknowledgeInterrupt b i
  | .resetDivider => CpuBus.resetDivider b

/-- The bus after some operations of the CPU. -/
def Driven (b c : β) : Prop := ReflTransGen (fun b c => ∃ op : BusOp, c = op.apply b) b c

theorem Driven.refl (b : β) : Driven b b := ReflTransGen.refl

theorem Driven.op (b : β) (op : BusOp) : Driven b (op.apply b) := .single ⟨op, rfl⟩

/-- **What every operation preserves is preserved.** -/
theorem Driven.invariant {P : β → Prop} {b c : β} (h : Driven b c) (hb : P b)
    (hop : ∀ (b : β) (op : BusOp), P b → P (op.apply b)) : P c := by
  induction h with
  | refl => exact hb
  | tail _ hlast ih =>
    obtain ⟨op, rfl⟩ := hlast
    exact hop _ op ih

/-- What the CPU does to its bus at a time: one operation, or the fetch of STOP and its
reset of the divider. -/
inductive Move (b : β) : β → Prop where
  | op (op : BusOp) (h : op ≠ .resetDivider) : Move b (op.apply b)
  | stop (address : Word) :
      Move b (BusOp.apply ((BusOp.read8 address).apply b) .resetDivider)

/-- The bus after some moves of the CPU. -/
def Moved (b c : β) : Prop := ReflTransGen Move b c

theorem Moved.refl (b : β) : Moved b b := ReflTransGen.refl

theorem Moved.op (b : β) (op : BusOp) (h : op ≠ .resetDivider) : Moved b (op.apply b) :=
  .single (.op op h)

/-- **What every move preserves is preserved.** -/
theorem Moved.invariant {P : β → Prop} {b c : β} (h : Moved b c) (hb : P b)
    (hmove : ∀ b c : β, P b → Move b c → P c) : P c := by
  induction h with
  | refl => exact hb
  | tail _ hlast ih => exact hmove _ _ ih hlast

/-- Moves are operations. -/
theorem Moved.driven {b c : β} (h : Moved b c) : Driven b c := by
  refine h.invariant (P := Driven b) (.refl b) ?_
  rintro c d hc hmove
  cases hmove with
  | op op _ => exact hc.tail ⟨op, rfl⟩
  | stop address => exact (hc.tail ⟨.read8 address, rfl⟩).tail ⟨.resetDivider, rfl⟩

/-- An action reaches the bus only through its operations. -/
class Drives (x : CpuM β α) : Prop where
  driven : ∀ s : Exec β, Driven s.bus (x.run s).2.bus

/-- An action reaches the bus only through moves. -/
class Moves (x : CpuM β α) : Prop where
  moved : ∀ s : Exec β, Moved s.bus (x.run s).2.bus

instance Drives.ofMoves {x : CpuM β α} [h : Moves x] : Drives x := ⟨fun s => (h.moved s).driven⟩

namespace Moves

instance pure (a : α) : Moves (Pure.pure a : CpuM β α) := ⟨fun _ => .refl _⟩

instance bind {x : CpuM β α} {f : α → CpuM β γ} [hx : Moves x] [hf : ∀ a, Moves (f a)] :
    Moves (x >>= f) := ⟨fun s => ReflTransGen.trans (hx.moved s) ((hf _).moved _)⟩

instance ite {p : Prop} [Decidable p] {x y : CpuM β α} [hx : Moves x] [hy : Moves y] :
    Moves (if p then x else y) := by
  split
  · exact hx
  · exact hy

instance cpu : Moves (CpuM.cpu : CpuM β Cpu) := ⟨fun _ => .refl _⟩

instance modifyCpu (f : Cpu → Cpu) : Moves (CpuM.modifyCpu f : CpuM β Unit) := ⟨fun _ => .refl _⟩

instance modifyRegisters (f : Registers → Registers) :
    Moves (CpuM.modifyRegisters f : CpuM β Unit) := ⟨fun _ => .refl _⟩

instance read8 (address : Word) : Moves (Pockiva.read8 address : CpuM β Byte) :=
  ⟨fun s => .op s.bus (.read8 address) nofun⟩

instance write8 (address : Word) (value : Byte) :
    Moves (Pockiva.write8 address value : CpuM β Unit) :=
  ⟨fun s => .op s.bus (.write8 address value) nofun⟩

instance idleMCycle : Moves (Pockiva.idleMCycle : CpuM β Unit) :=
  ⟨fun s => .op s.bus .idleMCycle nofun⟩

instance acknowledgeInterrupt (i : Interrupt) :
    Moves (Pockiva.acknowledgeInterrupt i : CpuM β Unit) :=
  ⟨fun s => .op s.bus (.acknowledgeInterrupt i) nofun⟩

instance elapsedTCycles : Moves (Pockiva.elapsedTCycles : CpuM β Nat) := ⟨fun _ => .refl _⟩

instance pendingInterrupts : Moves (Pockiva.pendingInterrupts : CpuM β InterruptMask) :=
  ⟨fun _ => .refl _⟩

instance setPc (value : Word) : Moves (Pockiva.setPc value : CpuM β Unit) := modifyRegisters _

instance setFlags (value : Flags) : Moves (Pockiva.setFlags value : CpuM β Unit) :=
  modifyRegisters _

instance setA (value : Byte) : Moves (Pockiva.setA value : CpuM β Unit) := modifyRegisters _

instance fetch8 : Moves (Pockiva.fetch8 : CpuM β Byte) := by
  unfold Pockiva.fetch8
  dsimp only
  infer_instance

instance fetch16 : Moves (Pockiva.fetch16 : CpuM β Word) := by
  unfold Pockiva.fetch16
  infer_instance

instance push (value : Word) : Moves (Pockiva.push value : CpuM β Unit) := by
  unfold Pockiva.push
  infer_instance

instance pop : Moves (Pockiva.pop : CpuM β Word) := by
  unfold Pockiva.pop
  infer_instance

instance readR (code : Nat) : Moves (Pockiva.readR code : CpuM β Byte) := by
  unfold Pockiva.readR
  dsimp only
  split <;> infer_instance

instance writeR (code : Nat) (value : Byte) : Moves (Pockiva.writeR code value : CpuM β Unit) := by
  unfold Pockiva.writeR
  split <;> infer_instance

/-- Every opcode of 00–3F but STOP. -/
theorem executeMisc {y z : Nat} (h : ¬ (y = 2 ∧ z = 0)) :
    Moves (Pockiva.executeMisc y z : CpuM β Bool) := by
  unfold Pockiva.executeMisc
  dsimp only
  split
  · split
    · infer_instance
    · infer_instance
    · exact absurd ⟨rfl, rfl⟩ h
    · infer_instance
    · infer_instance
  all_goals infer_instance

instance executeLoad (y z : Nat) : Moves (Pockiva.executeLoad y z : CpuM β Bool) := by
  unfold Pockiva.executeLoad
  dsimp only
  infer_instance

instance executeAlu (y z : Nat) : Moves (Pockiva.executeAlu y z : CpuM β Bool) := by
  unfold Pockiva.executeAlu
  infer_instance

instance executeControl (y z : Nat) : Moves (Pockiva.executeControl y z : CpuM β Bool) := by
  unfold Pockiva.executeControl
  dsimp only
  split
  · split
    · infer_instance
    · split <;> infer_instance
  · split
    · infer_instance
    · split <;> infer_instance
  · split
    · infer_instance
    · split <;> infer_instance
  · split <;> infer_instance
  all_goals infer_instance

theorem executeBase {opcode : Byte} (h : opcode ≠ 0x10) :
    Moves (Pockiva.executeBase opcode : CpuM β Bool) := by
  have hstop : ∀ o : Byte, opX o = 0 → opY o = 2 ∧ opZ o = 0 → o = 0x10 := by decide
  unfold Pockiva.executeBase executeFields
  split
  · rename_i hx
    exact executeMisc fun hyz => h (hstop opcode hx hyz)
  all_goals infer_instance

instance executeCb (opcode : Byte) : Moves (Pockiva.executeCb opcode : CpuM β Unit) := by
  unfold Pockiva.executeCb
  dsimp only
  split <;> infer_instance

instance serviceInterrupt (i : Interrupt) :
    Moves (Pockiva.serviceInterrupt i : CpuM β Unit) := by
  unfold Pockiva.serviceInterrupt
  have hlast : ∀ c : Cpu, Moves (do
      Pockiva.push c.registers.pc
      Pockiva.idleMCycle
      Pockiva.setPc i.vector : CpuM β Unit) := fun _ => inferInstance
  infer_instance

instance elapsed (start : Nat) : Moves (Pockiva.elapsed start : CpuM β Nat) := by
  unfold Pockiva.elapsed
  infer_instance

instance padLoop (start target rounds : Nat) :
    Moves (Pockiva.padLoop start target rounds : CpuM β Unit) := by
  induction rounds with
  | zero => exact pure ()
  | succ rounds ih =>
    unfold Pockiva.padLoop
    infer_instance

instance padTo (start target : Nat) : Moves (Pockiva.padTo start target : CpuM β Unit) :=
  padLoop start target target

instance applyImeDelay : Moves (Pockiva.applyImeDelay : CpuM β Unit) := modifyCpu _

/-- What follows the execution of an unprefixed opcode. -/
def finish (start : Nat) (opcode : Byte) (taken : Bool) : CpuM β (Except CoreError Nat) := do
  Pockiva.padTo start (if taken then (decode opcode false).cyclesTaken
    else (decode opcode false).cyclesNotTaken)
  Pockiva.applyImeDelay
  return .ok (← Pockiva.elapsed start)

instance finish_moves (start : Nat) (opcode : Byte) (taken : Bool) :
    Moves (finish start opcode taken : CpuM β (Except CoreError Nat)) := by
  unfold finish
  infer_instance

/-- What follows the fetch of an opcode. -/
def dispatched (start : Nat) (opcodeAddress : Word) (opcode : Byte) :
    CpuM β (Except CoreError Nat) :=
  if opcode = 0xcb then do
    let prefixed ← Pockiva.fetch8
    Pockiva.executeCb prefixed
    Pockiva.padTo start (decode prefixed true).cyclesTaken
    Pockiva.applyImeDelay
    return .ok (← Pockiva.elapsed start)
  else if (decode opcode false).illegal then
    return .error (illegalOpcode opcode opcodeAddress)
  else do
    let taken ← Pockiva.executeBase opcode
    finish start opcode taken

theorem executeInstruction_eq (start : Nat) (s : Exec β) :
    (Pockiva.executeInstruction start).run s =
      (dispatched start s.cpu.registers.pc (CpuBus.read8 s.bus s.cpu.registers.pc).1).run
        (Pockiva.fetch8.run s).2 := by
  rw [Pockiva.executeInstruction, run_bind, run_cpu, run_bind, run_fetch8]
  rfl

theorem dispatched_moves (start : Nat) (opcodeAddress : Word) {opcode : Byte}
    (h : opcode ≠ 0x10) :
    Moves (dispatched start opcodeAddress opcode : CpuM β (Except CoreError Nat)) := by
  have hbase : Moves (Pockiva.executeBase opcode : CpuM β Bool) := executeBase h
  unfold dispatched
  infer_instance

/-- STOP skips a byte, resets the divider and stops the CPU. -/
theorem dispatched_stop (start : Nat) (opcodeAddress : Word) (s : Exec β) :
    ∃ t : Exec β, t.bus = CpuBus.resetDivider s.bus ∧
      (dispatched start opcodeAddress 0x10).run s = (finish start 0x10 true).run t := by
  have hexecute : (Pockiva.executeBase 0x10 : CpuM β Bool) = Pockiva.executeMisc 2 0 := rfl
  rw [dispatched, if_neg (by decide), if_neg (by decide), hexecute]
  exact ⟨_, rfl, rfl⟩

/-- **An instruction only moves**: STOP resets the divider after its fetch. -/
instance executeInstruction (start : Nat) :
    Moves (Pockiva.executeInstruction start : CpuM β (Except CoreError Nat)) := by
  constructor
  intro s
  rw [executeInstruction_eq]
  by_cases hstop : (CpuBus.read8 s.bus s.cpu.registers.pc).1 = 0x10
  · obtain ⟨t, hbus, hrun⟩ := dispatched_stop start s.cpu.registers.pc (Pockiva.fetch8.run s).2
    have hmove : Move s.bus t.bus := by
      rw [hbus, run_fetch8]
      exact .stop s.cpu.registers.pc
    rw [hstop, hrun]
    exact ReflTransGen.trans (.single hmove) ((finish_moves start 0x10 true).moved t)
  · have hrest : Moves (dispatched start s.cpu.registers.pc
        (CpuBus.read8 s.bus s.cpu.registers.pc).1 : CpuM β (Except CoreError Nat)) :=
      dispatched_moves start s.cpu.registers.pc hstop
    exact ReflTransGen.trans (fetch8.moved s) (hrest.moved _)

/-- **A step only moves.** -/
instance step : Moves (Pockiva.step : CpuM β (Except CoreError Nat)) := by
  constructor
  intro s
  rcases step_cases s with ⟨i, hime, hp⟩ | ⟨hd, hm, hp⟩ | ⟨hd, hm, hp⟩ | hx
  · rw [step_dispatch hime hp]
    exact (serviceInterrupt i).moved s
  · rw [step_not_dispatch hd, if_pos ⟨hm, hp⟩]
    exact .refl _
  · rw [step_not_dispatch hd, if_neg (by simp [hm]), if_pos ⟨hm, hp⟩]
    exact .op s.bus .idleMCycle nofun
  · rw [step_instruction hx]
    exact (executeInstruction _).moved (awoken s)

end Moves

/-- **A step reaches the bus only through its operations.** -/
theorem Drives.step : Drives (Pockiva.step : CpuM β (Except CoreError Nat)) := inferInstance

end Pockiva
