import Mathlib.Algebra.Group.Nat.Defs
import Mathlib.Data.List.Basic

/-! # Little-endian byte strings

The fixed-width little-endian encoding of natural numbers and its inverse.
-/
namespace LittleEndian

/-- The `width` low bytes of `value`, least significant first. -/
def encode : Nat → Nat → List (BitVec 8)
  | 0, _ => []
  | width + 1, value => BitVec.ofNat 8 value :: encode width (value / 256)

/-- The number a little-endian byte string denotes. -/
def decode : List (BitVec 8) → Nat
  | [] => 0
  | byte :: bytes => byte.toNat + 256 * decode bytes

@[simp] theorem length_encode (width value : Nat) : (encode width value).length = width := by
  induction width generalizing value with
  | zero => rfl
  | succ width ih => rw [encode, List.length_cons, ih]

/-- Encoding keeps the value modulo the width. -/
theorem decode_encode_mod (width value : Nat) :
    decode (encode width value) = value % 256 ^ width := by
  induction width generalizing value with
  | zero => simp [encode, decode, Nat.mod_one]
  | succ width ih =>
    have hpow : 256 ^ (width + 1) = 256 * 256 ^ width := Nat.pow_succ'
    rw [encode, decode, ih, BitVec.toNat_ofNat, hpow, Nat.mod_mul]

theorem decode_encode {width value : Nat} (h : value < 256 ^ width) :
    decode (encode width value) = value := by
  rw [decode_encode_mod, Nat.mod_eq_of_lt h]

theorem decode_lt (bytes : List (BitVec 8)) : decode bytes < 256 ^ bytes.length := by
  induction bytes with
  | nil => simp [decode]
  | cons byte bytes ih =>
    have hbyte := byte.isLt
    have hpow : 256 ^ (byte :: bytes).length = 256 * 256 ^ bytes.length := Nat.pow_succ'
    rw [decode, hpow]
    omega

/-- Byte strings of a width are the encodings of that width. -/
theorem encode_decode {width : Nat} {bytes : List (BitVec 8)} (h : bytes.length = width) :
    encode width (decode bytes) = bytes := by
  subst h
  induction bytes with
  | nil => rfl
  | cons byte bytes ih =>
    have hbyte := byte.isLt
    have hlow : BitVec.ofNat 8 (decode (byte :: bytes)) = byte := by
      apply BitVec.eq_of_toNat_eq
      rw [BitVec.toNat_ofNat, decode]
      omega
    have hhigh : decode (byte :: bytes) / 256 = decode bytes := by
      rw [decode]
      omega
    rw [List.length_cons, encode, hlow, hhigh, ih]

end LittleEndian
