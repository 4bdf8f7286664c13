import Pockiva.Contracts

/-! # Interrupt lines

The five DMG interrupt sources, sets of them, and the IF and IE registers.
`InterruptMask::from_bits` keeps the low five bits only; here a mask is a
five-bit vector, so a mask with another bit set cannot be built.
-/
namespace Pockiva

inductive Interrupt where
  | vblank
  | lcdStat
  | timer
  | serial
  | joypad
deriving DecidableEq, Repr

namespace Interrupt

def bit : Interrupt → Byte
  | .vblank => 0x01
  | .lcdStat => 0x02
  | .timer => 0x04
  | .serial => 0x08
  | .joypad => 0x10

def vector : Interrupt → Word
  | .vblank => 0x0040
  | .lcdStat => 0x0048
  | .timer => 0x0050
  | .serial => 0x0058
  | .joypad => 0x0060

/-- The order in which `highest_priority` looks for a pending source. -/
def byPriority : List Interrupt := [.vblank, .lcdStat, .timer, .serial, .joypad]

end Interrupt

/-- A set of interrupt sources. -/
structure InterruptMask where
  lines : BitVec 5
deriving DecidableEq, Repr

namespace InterruptMask

/-- `InterruptMask::default()`. -/
def empty : InterruptMask := ⟨0⟩

def fromBits (bits : Byte) : InterruptMask := ⟨bits.setWidth 5⟩

def bits (m : InterruptMask) : Byte := m.lines.setWidth 8

def union (m k : InterruptMask) : InterruptMask := ⟨m.lines ||| k.lines⟩

def intersection (m k : InterruptMask) : InterruptMask := ⟨m.lines &&& k.lines⟩

def without (m k : InterruptMask) : InterruptMask := ⟨m.lines &&& ~~~k.lines⟩

/-- The source is in the set. -/
def has (m : InterruptMask) (i : Interrupt) : Bool := m.bits &&& i.bit != 0

def highestPriority (m : InterruptMask) : Option Interrupt :=
  Interrupt.byPriority.find? m.has

/-- The singleton `from_bits(interrupt.bit())`. -/
def of (i : Interrupt) : InterruptMask := fromBits i.bit

@[simp] theorem union_empty (m : InterruptMask) : m.union empty = m := by
  simp [union, empty]

@[simp] theorem empty_union (m : InterruptMask) : empty.union m = m := by
  simp [union, empty]

theorem union_assoc (m k l : InterruptMask) :
    (m.union k).union l = m.union (k.union l) := by
  simp [union, BitVec.or_assoc]

/-- Membership in a union is membership in one of the two sets. -/
@[simp] theorem has_union (m k : InterruptMask) (i : Interrupt) :
    (m.union k).has i = (m.has i || k.has i) := by
  obtain ⟨m⟩ := m
  obtain ⟨k⟩ := k
  revert m k
  cases i <;> decide +kernel

@[simp] theorem has_empty (i : Interrupt) : empty.has i = false := by
  cases i <;> decide

@[simp] theorem has_of (i j : Interrupt) : (of i).has j = decide (i = j) := by
  cases i <;> cases j <;> decide

theorem has_without_of (m : InterruptMask) (i j : Interrupt) :
    (m.without (of i)).has j = (m.has j && decide (i ≠ j)) := by
  obtain ⟨m⟩ := m
  revert m
  cases i <;> cases j <;> decide

/-- A non-empty set has a source of highest priority, and it is in the set. -/
theorem exists_highestPriority {m : InterruptMask} (h : m ≠ empty) :
    ∃ i, m.highestPriority = some i := by
  obtain ⟨m⟩ := m
  have hall : ∀ m : BitVec 5, m ≠ 0 → ((⟨m⟩ : InterruptMask).highestPriority).isSome := by decide
  refine Option.isSome_iff_exists.mp (hall m ?_)
  exact fun h0 => h (congrArg InterruptMask.mk h0)

theorem has_of_highestPriority {m : InterruptMask} {i : Interrupt}
    (h : m.highestPriority = some i) : m.has i := List.find?_some h

/-- Every source of a higher priority than the one found is absent. -/
theorem not_has_before {m : InterruptMask} {i : Interrupt} (h : m.highestPriority = some i)
    {j : Interrupt} (hj : j.bit < i.bit) : m.has j = false := by
  obtain ⟨m⟩ := m
  revert m
  cases i <;> cases j <;> first | (exact absurd hj (by decide)) | decide

end InterruptMask

/-- The IE and IF registers. -/
structure InterruptRegisters where
  enable : InterruptMask
  flags : InterruptMask
deriving DecidableEq, Repr

namespace InterruptRegisters

def postBoot : InterruptRegisters := ⟨.empty, .empty⟩

def readIf (r : InterruptRegisters) : Byte := 0xe0 ||| r.flags.bits

def readIe (r : InterruptRegisters) : Byte := r.enable.bits

def writeIf (r : InterruptRegisters) (value : Byte) : InterruptRegisters :=
  { r with flags := .fromBits value }

def writeIe (r : InterruptRegisters) (value : Byte) : InterruptRegisters :=
  { r with enable := .fromBits value }

def request (r : InterruptRegisters) (mask : InterruptMask) : InterruptRegisters :=
  { r with flags := r.flags.union mask }

def pending (r : InterruptRegisters) : InterruptMask := r.enable.intersection r.flags

def acknowledge (r : InterruptRegisters) (i : Interrupt) : InterruptRegisters :=
  { r with flags := r.flags.without (.of i) }

@[simp] theorem request_empty (r : InterruptRegisters) : r.request .empty = r := by
  simp [request]

end InterruptRegisters

end Pockiva
