import Pockiva.Contracts

/-! # The instruction table

`decode` gives the length of an instruction and the T-cycles it takes when its
condition holds and when it does not.  The table is organised by the octal
fields `x`, `y`, `z` of the opcode, as in the source.
-/
namespace Pockiva

/-- The top two bits of an opcode. -/
def opX (opcode : Byte) : Nat := (opcode >>> 6).toNat

/-- The middle three bits of an opcode. -/
def opY (opcode : Byte) : Nat := ((opcode >>> 3) &&& 7).toNat

/-- The low three bits of an opcode. -/
def opZ (opcode : Byte) : Nat := (opcode &&& 7).toNat

structure DecodedInstruction where
  length : Nat
  cyclesTaken : Nat
  cyclesNotTaken : Nat
  illegal : Bool
deriving DecidableEq, Repr

/-- `ILLEGAL`, the opcodes the LR35902 does not have. -/
def illegalOpcodes : List Byte :=
  [0xd3, 0xdb, 0xdd, 0xe3, 0xe4, 0xeb, 0xec, 0xed, 0xf4, 0xfc, 0xfd]

/-- Length and T-cycles (taken, not taken) of an unprefixed opcode with the
octal fields `x`, `y`, `z`. -/
def metadataOfFields (x y z : Nat) : Nat × Nat × Nat :=
  match x with
  | 0 =>
    match z with
    | 0 =>
      match y with
      | 0 => (1, 4, 4)
      | 1 => (3, 20, 20)
      | 2 => (2, 4, 4)
      | 3 => (2, 12, 12)
      | _ => (2, 12, 8)
    | 1 => if y % 2 = 0 then (3, 12, 12) else (1, 8, 8)
    | 2 => (1, 8, 8)
    | 3 => (1, 8, 8)
    | 4 => (1, if y = 6 then 12 else 4, if y = 6 then 12 else 4)
    | 5 => (1, if y = 6 then 12 else 4, if y = 6 then 12 else 4)
    | 6 => (2, if y = 6 then 12 else 8, if y = 6 then 12 else 8)
    | _ => (1, 4, 4)
  | 1 =>
    -- opcode 0x76 is HALT
    let cycles := if y = 6 ∧ z = 6 then 4 else if y = 6 ∨ z = 6 then 8 else 4
    (1, cycles, cycles)
  | 2 =>
    let cycles := if z = 6 then 8 else 4
    (1, cycles, cycles)
  | _ =>
    match z with
    | 0 =>
      match y with
      | 0 => (1, 20, 8)
      | 1 => (1, 20, 8)
      | 2 => (1, 20, 8)
      | 3 => (1, 20, 8)
      | 4 => (2, 12, 12)
      | 5 => (2, 16, 16)
      | _ => (2, 12, 12)
    | 1 =>
      if y % 2 = 0 then (1, 12, 12)
      else
        match y / 2 with
        | 0 => (1, 16, 16)
        | 1 => (1, 16, 16)
        | 2 => (1, 4, 4)
        | _ => (1, 8, 8)
    | 2 => if y < 4 then (3, 16, 12) else if y = 5 ∨ y = 7 then (3, 16, 16) else (1, 8, 8)
    | 3 =>
      match y with
      | 0 => (3, 16, 16)
      | 1 => (2, 8, 8)
      | _ => (1, 4, 4)
    | 4 => (3, 24, 12)
    | 5 => if y % 2 = 0 then (1, 16, 16) else (3, 24, 24)
    | 6 => (2, 8, 8)
    | _ => (1, 16, 16)

def baseMetadata (opcode : Byte) : Nat × Nat × Nat :=
  metadataOfFields (opX opcode) (opY opcode) (opZ opcode)

/-- The row of an unprefixed opcode. -/
def decodeBase (opcode : Byte) : DecodedInstruction where
  length := (baseMetadata opcode).1
  cyclesTaken := (baseMetadata opcode).2.1
  cyclesNotTaken := (baseMetadata opcode).2.2
  illegal := illegalOpcodes.contains opcode

/-- The row of an opcode behind the CB byte. -/
def decodePrefixed (opcode : Byte) : DecodedInstruction :=
  let cycles := if opZ opcode = 6 then if opX opcode = 1 then 12 else 16 else 8
  { length := 2, cyclesTaken := cycles, cyclesNotTaken := cycles, illegal := false }

def decode (opcode : Byte) (prefixed : Bool) : DecodedInstruction :=
  if prefixed then decodePrefixed opcode else decodeBase opcode

theorem opX_lt (opcode : Byte) : opX opcode < 4 := by
  revert opcode; decide +kernel

theorem opY_lt (opcode : Byte) : opY opcode < 8 := by
  revert opcode; decide +kernel

theorem opZ_lt (opcode : Byte) : opZ opcode < 8 := by
  revert opcode; decide +kernel

/-- The octal fields determine the opcode. -/
theorem opcode_of_fields (opcode : Byte) :
    opcode = BitVec.ofNat 8 (opX opcode * 64 + opY opcode * 8 + opZ opcode) := by
  revert opcode; decide +kernel

end Pockiva
