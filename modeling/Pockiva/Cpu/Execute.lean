import Pockiva.Cpu.Bus
import Pockiva.Cpu.Decode
import Pockiva.Cpu.Registers

/-! # Executing one instruction

The functions of the source take `&mut Cpu` and `&mut impl CpuBus`; here they are
actions of a state monad over the pair (`CpuM`), generic in the bus.  `step`
executes one instruction, dispatches an interrupt or idles; `nextStepTCycles`
predicts from peeks how long that will take.
-/
namespace Pockiva

inductive CpuMode where
  | running
  | halted
  | stopped
deriving DecidableEq, Repr

structure Cpu where
  registers : Registers
  ime : Bool
  imeEnableDelay : Nat
  mode : CpuMode
  haltBug : Bool
deriving DecidableEq, Repr

def Cpu.postBootDmg : Cpu where
  registers := .postBootDmg
  ime := false
  imeEnableDelay := 0
  mode := .running
  haltBug := false

/-- The CPU together with the bus it drives. -/
@[ext] structure Exec (β : Type) where
  cpu : Cpu
  bus : β

/-- An action on the CPU and its bus. -/
structure CpuM (β α : Type) where
  run : Exec β → α × Exec β

namespace CpuM
variable {β α γ : Type}

instance : Monad (CpuM β) where
  pure a := ⟨fun s => (a, s)⟩
  bind x f := ⟨fun s => (f (x.run s).1).run (x.run s).2⟩

@[simp] theorem run_bind (x : CpuM β α) (f : α → CpuM β γ) (s : Exec β) :
    (x >>= f).run s = (f (x.run s).1).run (x.run s).2 := rfl

@[simp] theorem run_map (x : CpuM β α) (f : α → γ) (s : Exec β) :
    (f <$> x).run s = (f (x.run s).1, (x.run s).2) := rfl

@[simp] theorem run_pure (a : α) (s : Exec β) : (pure a : CpuM β α).run s = (a, s) := rfl

@[simp] theorem run_ite (p : Prop) [Decidable p] (x y : CpuM β α) (s : Exec β) :
    (if p then x else y).run s = if p then x.run s else y.run s := by
  split <;> rfl

/-- The registers and latches of the CPU. -/
def cpu : CpuM β Cpu := ⟨fun s => (s.cpu, s)⟩

def modifyCpu (f : Cpu → Cpu) : CpuM β Unit := ⟨fun s => ((), { s with cpu := f s.cpu })⟩

def modifyRegisters (f : Registers → Registers) : CpuM β Unit :=
  modifyCpu fun c => { c with registers := f c.registers }

@[simp] theorem run_cpu (s : Exec β) : (cpu : CpuM β Cpu).run s = (s.cpu, s) := by
  simp [cpu]

@[simp] theorem run_modifyCpu (f : Cpu → Cpu) (s : Exec β) :
    (modifyCpu f).run s = ((), { s with cpu := f s.cpu }) := by
  simp [modifyCpu]

@[simp] theorem run_modifyRegisters (f : Registers → Registers) (s : Exec β) :
    (modifyRegisters f).run s =
      ((), { s with cpu := { s.cpu with registers := f s.cpu.registers } }) := by
  simp [modifyRegisters]

end CpuM

open CpuM

section Bus
variable {β : Type} [CpuBus β]

def read8 (address : Word) : CpuM β Byte :=
  ⟨fun s => ((CpuBus.read8 s.bus address).1, { s with bus := (CpuBus.read8 s.bus address).2 })⟩

def write8 (address : Word) (value : Byte) : CpuM β Unit :=
  ⟨fun s => ((), { s with bus := CpuBus.write8 s.bus address value })⟩

def idleMCycle : CpuM β Unit := ⟨fun s => ((), { s with bus := CpuBus.idleMCycle s.bus })⟩

def acknowledgeInterrupt (i : Interrupt) : CpuM β Unit :=
  ⟨fun s => ((), { s with bus := CpuBus.acknowledgeInterrupt s.bus i })⟩

def resetDivider : CpuM β Unit := ⟨fun s => ((), { s with bus := CpuBus.resetDivider s.bus })⟩

def elapsedTCycles : CpuM β Nat := ⟨fun s => (CpuBus.elapsedTCycles s.bus, s)⟩

def pendingInterrupts : CpuM β InterruptMask := ⟨fun s => (CpuBus.pendingInterrupts s.bus, s)⟩

end Bus

/-! ## Fetching, the stack and the register operands -/

section Registers
variable {β : Type}

def setPc (value : Word) : CpuM β Unit := modifyRegisters fun r => { r with pc := value }

def setFlags (value : Flags) : CpuM β Unit := modifyRegisters fun r => { r with f := value }

def setA (value : Byte) : CpuM β Unit := modifyRegisters fun r => { r with a := value }

end Registers

variable {β : Type} [CpuBus β]

/-- A pending HALT bug is used up by the next fetch, which leaves PC alone. -/
def fetch8 : CpuM β Byte := do
  let value ← read8 (← cpu).registers.pc
  if (← cpu).haltBug then
    modifyCpu fun c => { c with haltBug := false }
  else
    modifyRegisters fun r => { r with pc := r.pc + 1 }
  return value

def fetch16 : CpuM β Word := do
  let low ← fetch8
  let high ← fetch8
  return wordOfBytes high low

def push (value : Word) : CpuM β Unit := do
  modifyRegisters fun r => { r with sp := r.sp - 1 }
  write8 (← cpu).registers.sp (highByte value)
  modifyRegisters fun r => { r with sp := r.sp - 1 }
  write8 (← cpu).registers.sp (lowByte value)

def pop : CpuM β Word := do
  let low ← read8 (← cpu).registers.sp
  modifyRegisters fun r => { r with sp := r.sp + 1 }
  let high ← read8 (← cpu).registers.sp
  modifyRegisters fun r => { r with sp := r.sp + 1 }
  return wordOfBytes high low

/-- `wrapping_add_signed(i16::from(offset))`. -/
def addSigned (w : Word) (offset : Byte) : Word := w + offset.signExtend 16

/-- `0xff00 | u16::from(offset)`. -/
def highPage (offset : Byte) : Word := 0xff00 ||| offset.setWidth 16

/-- The condition with code `code` holds for the flags. -/
def condition (f : Flags) (code : Nat) : Bool :=
  match code with
  | 0 => !f.contains .z
  | 1 => f.contains .z
  | 2 => !f.contains .c
  | _ => f.contains .c

/-- The register pair `code`, with SP last. -/
def rp (r : Registers) (code : Nat) : Word :=
  match code with
  | 0 => r.bc
  | 1 => r.de
  | 2 => r.hl
  | _ => r.sp

def setRp (r : Registers) (code : Nat) (value : Word) : Registers :=
  match code with
  | 0 => r.setBc value
  | 1 => r.setDe value
  | 2 => r.setHl value
  | _ => { r with sp := value }

/-- The register pair `code`, with AF last. -/
def rp2 (r : Registers) (code : Nat) : Word :=
  match code with
  | 0 => r.bc
  | 1 => r.de
  | 2 => r.hl
  | _ => r.af

def setRp2 (r : Registers) (code : Nat) (value : Word) : Registers :=
  match code with
  | 0 => r.setBc value
  | 1 => r.setDe value
  | 2 => r.setHl value
  | _ => r.setAf value

/-- The eight-bit operand `code`; code 6 is the byte at HL. -/
def readR (code : Nat) : CpuM β Byte := do
  let r := (← cpu).registers
  match code with
  | 0 => return r.b
  | 1 => return r.c
  | 2 => return r.d
  | 3 => return r.e
  | 4 => return r.h
  | 5 => return r.l
  | 6 => read8 r.hl
  | _ => return r.a

def writeR (code : Nat) (value : Byte) : CpuM β Unit := do
  match code with
  | 0 => modifyRegisters fun r => { r with b := value }
  | 1 => modifyRegisters fun r => { r with c := value }
  | 2 => modifyRegisters fun r => { r with d := value }
  | 3 => modifyRegisters fun r => { r with e := value }
  | 4 => modifyRegisters fun r => { r with h := value }
  | 5 => modifyRegisters fun r => { r with l := value }
  | 6 => write8 (← cpu).registers.hl value
  | _ => modifyRegisters fun r => { r with a := value }

/-! ## Arithmetic on the accumulator and on register pairs -/

def alu (r : Registers) (operation : Nat) (value : Byte) : Registers :=
  match operation with
  | 0 => { r with a := (add8 r.a value false).1, f := (add8 r.a value false).2 }
  | 1 =>
    let result := add8 r.a value (r.f.contains .c)
    { r with a := result.1, f := result.2 }
  | 2 => { r with a := (sub8 r.a value false).1, f := (sub8 r.a value false).2 }
  | 3 =>
    let result := sub8 r.a value (r.f.contains .c)
    { r with a := result.1, f := result.2 }
  | 4 => { r with a := r.a &&& value, f := Flags.h.set .z (r.a &&& value = 0) }
  | 5 => { r with a := r.a ^^^ value, f := Flags.none.set .z (r.a ^^^ value = 0) }
  | 6 => { r with a := r.a ||| value, f := Flags.none.set .z (r.a ||| value = 0) }
  | _ => { r with f := (sub8 r.a value false).2 }

def addHl (r : Registers) (value : Word) : Registers :=
  let hl := r.hl
  let flags := Flags.none.set .z (r.f.contains .z)
  let flags := flags.set .h ((hl &&& 0x0fff).toNat + (value &&& 0x0fff).toNat > 0x0fff)
  let flags := flags.set .c (hl.toNat + value.toNat > 0xffff)
  { r.setHl (hl + value) with f := flags }

def addSp (r : Registers) (offset : Byte) (toSp : Bool) : Registers :=
  let sp := r.sp
  let unsigned : Word := offset.setWidth 16
  let result := addSigned sp offset
  let flags := Flags.none.set .h ((sp &&& 0x0f).toNat + (unsigned &&& 0x0f).toNat > 0x0f)
  let flags := flags.set .c ((sp &&& 0xff).toNat + (unsigned &&& 0xff).toNat > 0xff)
  let r := { r with f := flags }
  if toSp then { r with sp := result } else r.setHl result

def accumulatorMisc (r : Registers) (operation : Nat) : Registers :=
  let a := r.a
  let carry := r.f.contains .c
  match operation with
  | 0 => { r with a := a.rotateLeft 1, f := Flags.none.set .c (a &&& 0x80 ≠ 0) }
  | 1 => { r with a := a.rotateRight 1, f := Flags.none.set .c (a &&& 1 ≠ 0) }
  | 2 => { r with a := (a <<< 1) ||| byteOfBool carry, f := Flags.none.set .c (a &&& 0x80 ≠ 0) }
  | 3 => { r with
      a := (a >>> 1) ||| (byteOfBool carry <<< 7), f := Flags.none.set .c (a &&& 1 ≠ 0) }
  | 4 => { r with a := (daa a r.f).1, f := (daa a r.f).2 }
  | 5 => { r with a := ~~~a, f := (r.f.set .n true).set .h true }
  | 6 => { r with f := Flags.c.set .z (r.f.contains .z) }
  | _ => { r with f := (Flags.none.set .z (r.f.contains .z)).set .c (!carry) }

/-! ## The unprefixed instructions

`execute_base` returns whether the condition of a conditional instruction held.
The source's one function over the octal fields is cut along the field `x`. -/

/-- Opcodes 00–3F. -/
def executeMisc (y z : Nat) : CpuM β Bool := do
  let p := y / 2
  let q := y % 2
  match z with
  | 0 =>
    match y with
    | 0 => return true
    | 1 =>
      let address ← fetch16
      let sp := (← cpu).registers.sp
      write8 address (lowByte sp)
      write8 (address + 1) (highByte sp)
      return true
    | 2 =>
      modifyRegisters fun r => { r with pc := r.pc + 1 }
      resetDivider
      modifyCpu fun c => { c with mode := .stopped }
      return true
    | 3 =>
      let offset ← fetch8
      modifyRegisters fun r => { r with pc := addSigned r.pc offset }
      return true
    | _ =>
      let offset ← fetch8
      if condition (← cpu).registers.f (y - 4) then
        modifyRegisters fun r => { r with pc := addSigned r.pc offset }
        return true
      else
        return false
  | 1 =>
    if q = 0 then
      let value ← fetch16
      modifyRegisters fun r => setRp r p value
    else
      modifyRegisters fun r => addHl r (rp r p)
    return true
  | 2 =>
    let r := (← cpu).registers
    let address := match p with
      | 0 => r.bc
      | 1 => r.de
      | _ => r.hl
    if q = 0 then
      write8 address r.a
    else
      setA (← read8 address)
    if p = 2 then
      modifyRegisters fun r => r.setHl (address + 1)
    if p = 3 then
      modifyRegisters fun r => r.setHl (address - 1)
    return true
  | 3 =>
    modifyRegisters fun r => setRp r p (if q = 0 then rp r p + 1 else rp r p - 1)
    return true
  | 4 =>
    let value ← readR y
    let result := inc8 value ((← cpu).registers.f.contains .c)
    writeR y result.1
    setFlags result.2
    return true
  | 5 =>
    let value ← readR y
    let result := dec8 value ((← cpu).registers.f.contains .c)
    writeR y result.1
    setFlags result.2
    return true
  | 6 =>
    let value ← fetch8
    writeR y value
    return true
  | _ =>
    modifyRegisters fun r => accumulatorMisc r y
    return true

/-- Opcodes 40–7F: HALT and the register loads. -/
def executeLoad (y z : Nat) : CpuM β Bool := do
  if y = 6 ∧ z = 6 then
    let pending ← pendingInterrupts
    if (← cpu).ime = false ∧ pending ≠ .empty then
      modifyCpu fun c => { c with haltBug := true }
    else
      modifyCpu fun c => { c with mode := .halted }
  else
    let value ← readR z
    writeR y value
  return true

/-- Opcodes 80–BF. -/
def executeAlu (y z : Nat) : CpuM β Bool := do
  let value ← readR z
  modifyRegisters fun r => alu r y value
  return true

/-- Opcodes C0–FF: returns, calls, jumps, the stack and the interrupt master
enable. -/
def executeControl (y z : Nat) : CpuM β Bool := do
  let p := y / 2
  let q := y % 2
  match z with
  | 0 =>
    if y < 4 then
      if condition (← cpu).registers.f y then
        setPc (← pop)
        return true
      else
        return false
    else
      match y with
      | 4 =>
        let offset ← fetch8
        write8 (highPage offset) (← cpu).registers.a
        return true
      | 5 =>
        let offset ← fetch8
        modifyRegisters fun r => addSp r offset true
        return true
      | 6 =>
        let offset ← fetch8
        setA (← read8 (highPage offset))
        return true
      | _ =>
        let offset ← fetch8
        modifyRegisters fun r => addSp r offset false
        return true
  | 1 =>
    if q = 0 then
      let value ← pop
      modifyRegisters fun r => setRp2 r p value
    else
      match p with
      | 0 => setPc (← pop)
      | 1 =>
        setPc (← pop)
        modifyCpu fun c => { c with ime := true, imeEnableDelay := 0 }
      | 2 => modifyRegisters fun r => { r with pc := r.hl }
      | _ => modifyRegisters fun r => { r with sp := r.hl }
    return true
  | 2 =>
    if y < 4 then
      let address ← fetch16
      if condition (← cpu).registers.f y then
        setPc address
        return true
      else
        return false
    else
      match y with
      | 4 => write8 (highPage (← cpu).registers.c) (← cpu).registers.a
      | 5 =>
        let address ← fetch16
        write8 address (← cpu).registers.a
      | 6 => setA (← read8 (highPage (← cpu).registers.c))
      | _ =>
        let address ← fetch16
        setA (← read8 address)
      return true
  | 3 =>
    match y with
    | 0 => setPc (← fetch16)
    | 6 => modifyCpu fun c => { c with ime := false, imeEnableDelay := 0 }
    | 7 =>
      modifyCpu fun c => if c.imeEnableDelay = 0 then { c with imeEnableDelay := 2 } else c
    | _ => pure ()
    return true
  | 4 =>
    let address ← fetch16
    if condition (← cpu).registers.f y then
      push (← cpu).registers.pc
      setPc address
      return true
    else
      return false
  | 5 =>
    if q = 0 then
      push (rp2 (← cpu).registers p)
    else if p = 0 then
      let address ← fetch16
      push (← cpu).registers.pc
      setPc address
    return true
  | 6 =>
    let value ← fetch8
    modifyRegisters fun r => alu r y value
    return true
  | _ =>
    push (← cpu).registers.pc
    setPc (BitVec.ofNat 16 (y * 8))
    return true

def executeFields (x y z : Nat) : CpuM β Bool :=
  match x with
  | 0 => executeMisc y z
  | 1 => executeLoad y z
  | 2 => executeAlu y z
  | _ => executeControl y z

def executeBase (opcode : Byte) : CpuM β Bool :=
  executeFields (opX opcode) (opY opcode) (opZ opcode)

/-! ## The CB-prefixed instructions -/

/-- The rotate or shift `y` of `value`, and the carry it produces. -/
def rotateShift (y : Nat) (value : Byte) (carryIn : Bool) : Byte × Bool :=
  match y with
  | 0 => (value.rotateLeft 1, value &&& 0x80 != 0)
  | 1 => (value.rotateRight 1, value &&& 1 != 0)
  | 2 => ((value <<< 1) ||| byteOfBool carryIn, value &&& 0x80 != 0)
  | 3 => ((value >>> 1) ||| (byteOfBool carryIn <<< 7), value &&& 1 != 0)
  | 4 => (value <<< 1, value &&& 0x80 != 0)
  | 5 => ((value >>> 1) ||| (value &&& 0x80), value &&& 1 != 0)
  | 6 => (value.rotateLeft 4, false)
  | _ => (value >>> 1, value &&& 1 != 0)

def executeCb (opcode : Byte) : CpuM β Unit := do
  let x := opX opcode
  let y := opY opcode
  let z := opZ opcode
  let value ← readR z
  match x with
  | 0 =>
    let result := rotateShift y value ((← cpu).registers.f.contains .c)
    setFlags ((Flags.none.set .z (result.1 = 0)).set .c result.2)
    writeR z result.1
  | 1 =>
    let carry := (← cpu).registers.f.contains .c
    setFlags ((Flags.h.set .z (value &&& ((1 : Byte) <<< y) = 0)).set .c carry)
  | 2 => writeR z (value &&& ~~~((1 : Byte) <<< y))
  | _ => writeR z (value ||| ((1 : Byte) <<< y))

/-! ## One step -/

def serviceInterrupt (interrupt : Interrupt) : CpuM β Unit := do
  modifyCpu fun c => { c with ime := false, imeEnableDelay := 0, mode := .running }
  acknowledgeInterrupt interrupt
  idleMCycle
  idleMCycle
  push (← cpu).registers.pc
  idleMCycle
  setPc interrupt.vector

/-- While stopped only the joypad line wakes the CPU. -/
def wakeCapableInterrupts (c : Cpu) (pending : InterruptMask) : InterruptMask :=
  if c.mode = .stopped then pending.intersection (.fromBits Interrupt.joypad.bit) else pending

/-- T-cycles since `start`. -/
def elapsed (start : Nat) : CpuM β Nat := do
  return (← elapsedTCycles) - start

/-- The loop of `pad_to`; every round of it takes time, so `target` rounds are
enough (`padTo_elapsed`). -/
def padLoop (start target : Nat) : Nat → CpuM β Unit
  | 0 => pure ()
  | rounds + 1 => do
    if (← elapsed start) < target then
      idleMCycle
      padLoop start target rounds

def padTo (start target : Nat) : CpuM β Unit := padLoop start target target

/-- `format!("{:#x}")` padded to the width of the value. -/
def hex {w : Nat} (v : BitVec w) : String := "0x" ++ v.toHex

def illegalOpcode (opcode : Byte) (address : Word) : CoreError :=
  .internalInvariant ("illegal opcode " ++ hex opcode ++ " at " ++ hex address)

/-- The delayed effect of EI, at the end of every executed instruction. -/
def applyImeDelay : CpuM β Unit :=
  modifyCpu fun c =>
    if c.imeEnableDelay > 0 then
      { c with
        imeEnableDelay := c.imeEnableDelay - 1
        ime := if c.imeEnableDelay - 1 = 0 then true else c.ime }
    else c

/-- Fetch, execute and pad one instruction of a running CPU. -/
def executeInstruction (start : Nat) : CpuM β (Except CoreError Nat) := do
  let opcodeAddress := (← cpu).registers.pc
  let opcode ← fetch8
  if opcode = 0xcb then
    let prefixed ← fetch8
    executeCb prefixed
    padTo start (decode prefixed true).cyclesTaken
    applyImeDelay
    return .ok (← elapsed start)
  else if (decode opcode false).illegal then
    return .error (illegalOpcode opcode opcodeAddress)
  else
    let taken ← executeBase opcode
    padTo start (if taken then (decode opcode false).cyclesTaken
      else (decode opcode false).cyclesNotTaken)
    applyImeDelay
    return .ok (← elapsed start)

/-- One step of the CPU: the T-cycles it took, or the error of an illegal
opcode. -/
def step : CpuM β (Except CoreError Nat) := do
  let start ← elapsedTCycles
  let pending := wakeCapableInterrupts (← cpu) (← pendingInterrupts)
  match (← cpu).ime, pending.highestPriority with
  | true, some interrupt =>
    serviceInterrupt interrupt
    return .ok (← elapsed start)
  | _, _ =>
    if (← cpu).mode = .stopped ∧ pending = .empty then
      return .ok 0
    else if (← cpu).mode = .halted ∧ pending = .empty then
      idleMCycle
      return .ok (← elapsed start)
    else
      modifyCpu fun c => { c with mode := .running }
      executeInstruction start

/-- Whether the condition of the instruction at `opcode` holds now. -/
def branchTaken (f : Flags) (opcode : Byte) : Bool :=
  if opcode ∈ ([0x20, 0xc0, 0xc2, 0xc4] : List Byte) then !f.contains .z
  else if opcode ∈ ([0x28, 0xc8, 0xca, 0xcc] : List Byte) then f.contains .z
  else if opcode ∈ ([0x30, 0xd0, 0xd2, 0xd4] : List Byte) then !f.contains .c
  else if opcode ∈ ([0x38, 0xd8, 0xda, 0xdc] : List Byte) then f.contains .c
  else true

/-- The address the operand of a CB prefix will be read from. -/
def prefixedAddress (c : Cpu) : Word :=
  if c.haltBug then c.registers.pc else c.registers.pc + 1

/-- The T-cycles the next step is predicted to take. -/
def nextStepTCycles (c : Cpu) (bus : β) : Except CoreError Nat :=
  let pending := wakeCapableInterrupts c (CpuBus.pendingInterrupts bus)
  if c.mode = .stopped ∧ pending = .empty then .ok 0
  else if c.ime ∧ pending ≠ .empty then .ok 20
  else if c.mode = .halted ∧ pending = .empty then .ok 4
  else
    let opcode := CpuBus.peek8 bus c.registers.pc
    let decoded :=
      if opcode = 0xcb then decode (CpuBus.peek8 bus (prefixedAddress c)) true
      else decode opcode false
    if decoded.illegal then .error (illegalOpcode opcode c.registers.pc)
    else .ok (if branchTaken c.registers.f opcode then decoded.cyclesTaken
      else decoded.cyclesNotTaken)

end Pockiva
