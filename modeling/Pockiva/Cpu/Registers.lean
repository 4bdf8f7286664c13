import Pockiva.Contracts

/-! # CPU registers and the arithmetic of the flags

The register file of the LR35902 and the eight-bit operations that also compute
the flags.  `Flags::contains` tests whether the two sets of bits meet.
-/
namespace Pockiva

/-- The flag register F. -/
structure Flags where
  bits : Byte
deriving DecidableEq, Repr

namespace Flags

def none : Flags := ⟨0⟩
def z : Flags := ⟨0x80⟩
def n : Flags := ⟨0x40⟩
def h : Flags := ⟨0x20⟩
def c : Flags := ⟨0x10⟩

def fromBits (bits : Byte) : Flags := ⟨bits &&& 0xf0⟩

def contains (f g : Flags) : Bool := f.bits &&& g.bits != 0

def union (f g : Flags) : Flags := fromBits (f.bits ||| g.bits)

def set (f flag : Flags) (enabled : Bool) : Flags :=
  ⟨if enabled then f.bits ||| flag.bits else f.bits &&& ~~~flag.bits⟩

end Flags

structure Registers where
  a : Byte
  f : Flags
  b : Byte
  c : Byte
  d : Byte
  e : Byte
  h : Byte
  l : Byte
  sp : Word
  pc : Word
deriving DecidableEq, Repr

namespace Registers

/-- The registers as the DMG boot ROM leaves them. -/
def postBootDmg : Registers where
  a := 0x01
  f := .fromBits 0xb0
  b := 0x00
  c := 0x13
  d := 0x00
  e := 0xd8
  h := 0x01
  l := 0x4d
  sp := 0xfffe
  pc := 0x0100

def af (r : Registers) : Word := wordOfBytes r.a r.f.bits
def bc (r : Registers) : Word := wordOfBytes r.b r.c
def de (r : Registers) : Word := wordOfBytes r.d r.e
def hl (r : Registers) : Word := wordOfBytes r.h r.l

def setAf (r : Registers) (value : Word) : Registers :=
  { r with a := highByte value, f := .fromBits (lowByte value) }

def setBc (r : Registers) (value : Word) : Registers :=
  { r with b := highByte value, c := lowByte value }

def setDe (r : Registers) (value : Word) : Registers :=
  { r with d := highByte value, e := lowByte value }

def setHl (r : Registers) (value : Word) : Registers :=
  { r with h := highByte value, l := lowByte value }

@[simp] theorem setAf_pc (r : Registers) (v : Word) : (r.setAf v).pc = r.pc := rfl
@[simp] theorem setBc_pc (r : Registers) (v : Word) : (r.setBc v).pc = r.pc := rfl
@[simp] theorem setDe_pc (r : Registers) (v : Word) : (r.setDe v).pc = r.pc := rfl
@[simp] theorem setHl_pc (r : Registers) (v : Word) : (r.setHl v).pc = r.pc := rfl

end Registers

/-- Eight-bit addition with carry; the half carry and the carry are those of the
unbounded sums. -/
def add8 (left right : Byte) (carry : Bool) : Byte × Flags :=
  let carryValue := byteOfBool carry
  let first := left + right
  let c1 := left.toNat + right.toNat > 0xff
  let result := first + carryValue
  let c2 := first.toNat + carryValue.toNat > 0xff
  let flags := Flags.none.set .z (result = 0)
  let flags := flags.set .h
    ((left &&& 0x0f).toNat + (right &&& 0x0f).toNat + carryValue.toNat > 0x0f)
  (result, flags.set .c (c1 || c2))

/-- Eight-bit subtraction with borrow. -/
def sub8 (left right : Byte) (carry : Bool) : Byte × Flags :=
  let carryValue := byteOfBool carry
  let result := left - right - carryValue
  let flags := Flags.n.set .z (result = 0)
  let flags := flags.set .h
    ((left &&& 0x0f).toNat < (right &&& 0x0f).toNat + carryValue.toNat)
  (result, flags.set .c (left.toNat < right.toNat + carryValue.toNat))

/-- INC keeps the carry. -/
def inc8 (value : Byte) (carry : Bool) : Byte × Flags :=
  let result := value + 1
  let flags := if carry then Flags.c else Flags.none
  let flags := flags.set .z (result = 0)
  (result, flags.set .h (value &&& 0x0f = 0x0f))

/-- DEC keeps the carry. -/
def dec8 (value : Byte) (carry : Bool) : Byte × Flags :=
  let result := value - 1
  let flags := Flags.n.union (if carry then Flags.c else Flags.none)
  let flags := flags.set .z (result = 0)
  (result, flags.set .h (value.toNat % 16 = 0))

/-- Decimal adjustment after an addition or a subtraction. -/
def daa (a : Byte) (flags : Flags) : Byte × Flags :=
  let low := flags.contains .h || (!flags.contains .n && decide ((a &&& 0x0f).toNat > 9))
  let carry := flags.contains .c || (!flags.contains .n && decide (a.toNat > 0x99))
  let correction : Byte := (if low then 0x06 else 0) ||| (if carry then 0x60 else 0)
  let result := if flags.contains .n then a - correction else a + correction
  let output := Flags.none.set .z (result = 0)
  let output := output.set .n (flags.contains .n)
  (result, output.set .c carry)

end Pockiva
