import Pockiva.Cpu.Execute
import Pockiva.Lib.Radix

/-! # Decimal arithmetic

ADC and SBC followed by DAA obey the law of one decimal place of two digits, with the
carry flag as the carry; so a chain of them adds and subtracts packed BCD numbers of any
length.
-/
namespace Pockiva

open Radix

/-- A byte of two decimal digits. -/
def bcd : Digits Byte where
  base := 100
  value b := 10 * (b.toNat / 16) + b.toNat % 16
  encode d := BitVec.ofNat 8 (16 * (d / 10) + d % 10)
  valid b := b.toNat / 16 ≤ 9 ∧ b.toNat % 16 ≤ 9
  one_lt_base := by decide
  value_lt := by
    rintro b ⟨hhigh, hlow⟩
    omega
  encode_value := by
    rintro b ⟨hhigh, hlow⟩
    apply BitVec.eq_of_toNat_eq
    rw [BitVec.toNat_ofNat]
    omega

instance : DecidablePred bcd.valid := fun _ => inferInstanceAs (Decidable (_ ∧ _))

/-- The byte `x` is loaded into A, the operation of the ALU with `y` and DAA are applied. -/
def aluThenDaa (operation : Nat) (x y : Byte) (r : Registers) : Byte × Registers :=
  let r := accumulatorMisc (alu { r with a := x } operation y) 4
  (r.a, r)

/-! ## The operations in numbers -/

theorem toNat_low (b : Byte) : (b &&& 0x0f).toNat = b.toNat % 16 := by
  rw [BitVec.toNat_and]
  exact Nat.and_two_pow_sub_one_eq_mod b.toNat 4

theorem toNat_byteOfBool (c : Bool) : (byteOfBool c).toNat = c.toNat := by
  cases c <;> rfl

section Flags
variable (z h c : Bool)

theorem flags_after_add :
    ((((Flags.none.set .z z).set .h h).set .c c).contains .h = h) ∧
      ((((Flags.none.set .z z).set .h h).set .c c).contains .c = c) ∧
      ((((Flags.none.set .z z).set .h h).set .c c).contains .n = false) := by
  cases z <;> cases h <;> cases c <;> decide

theorem flags_after_sub :
    ((((Flags.n.set .z z).set .h h).set .c c).contains .h = h) ∧
      ((((Flags.n.set .z z).set .h h).set .c c).contains .c = c) ∧
      ((((Flags.n.set .z z).set .h h).set .c c).contains .n = true) := by
  cases z <;> cases h <;> cases c <;> decide

end Flags

/-- **Eight-bit addition.** -/
theorem add8_spec (x y : Byte) (carry : Bool) :
    (add8 x y carry).1.toNat = (x.toNat + y.toNat + carry.toNat) % 256 ∧
      ((add8 x y carry).2.contains .h = decide (15 < x.toNat % 16 + y.toNat % 16 + carry.toNat)) ∧
      ((add8 x y carry).2.contains .c = decide (255 < x.toNat + y.toNat + carry.toNat)) ∧
      (add8 x y carry).2.contains .n = false := by
  have hx := x.isLt
  have hy := y.isLt
  have hc := Bool.toNat_lt carry
  have hcarry := toNat_byteOfBool carry
  have hfirst : (x + y).toNat = (x.toNat + y.toNat) % 256 := BitVec.toNat_add x y
  obtain ⟨hh, hcy, hn⟩ := flags_after_add (x + y + byteOfBool carry = 0)
    ((x &&& 0x0f).toNat + (y &&& 0x0f).toNat + (byteOfBool carry).toNat > 0x0f)
    (x.toNat + y.toNat > 0xff || (x + y).toNat + (byteOfBool carry).toNat > 0xff)
  refine ⟨?_, hh.trans ?_, hcy.trans ?_, hn⟩
  · show (x + y + byteOfBool carry).toNat = _
    rw [BitVec.toNat_add, hfirst, hcarry]
    omega
  · rw [toNat_low, toNat_low, hcarry]
  · rw [hfirst, hcarry, ← Bool.decide_or]
    refine decide_eq_decide.mpr ?_
    omega

/-- **Eight-bit subtraction.** -/
theorem sub8_spec (x y : Byte) (carry : Bool) :
    (sub8 x y carry).1.toNat = (x.toNat + 512 - y.toNat - carry.toNat) % 256 ∧
      ((sub8 x y carry).2.contains .h = decide (x.toNat % 16 < y.toNat % 16 + carry.toNat)) ∧
      ((sub8 x y carry).2.contains .c = decide (x.toNat < y.toNat + carry.toNat)) ∧
      (sub8 x y carry).2.contains .n = true := by
  have hx := x.isLt
  have hy := y.isLt
  have hc := Bool.toNat_lt carry
  have hcarry := toNat_byteOfBool carry
  obtain ⟨hh, hcy, hn⟩ := flags_after_sub (x - y - byteOfBool carry = 0)
    ((x &&& 0x0f).toNat < (y &&& 0x0f).toNat + (byteOfBool carry).toNat)
    (x.toNat < y.toNat + (byteOfBool carry).toNat)
  refine ⟨?_, hh.trans ?_, hcy.trans ?_, hn⟩
  · show (x - y - byteOfBool carry).toNat = _
    rw [BitVec.toNat_sub, BitVec.toNat_sub, hcarry]
    omega
  · rw [toNat_low, toNat_low, hcarry]
  · rw [hcarry]

/-- The two corrections of DAA do not overlap. -/
theorem toNat_correction (low carry : Bool) :
    ((if low then 0x06 else 0 : Byte) ||| (if carry then 0x60 else 0)).toNat =
      6 * low.toNat + 96 * carry.toNat := by
  cases low <;> cases carry <;> rfl

/-- The flags of DAA. -/
theorem daa_flags (a : Byte) (f : Flags) :
    (daa a f).2.contains .c =
      (f.contains .c || (!f.contains .n && decide (a.toNat > 0x99))) := by
  have h : ∀ z n c : Bool, (((Flags.none.set .z z).set .n n).set .c c).contains .c = c := by decide
  exact h _ _ _

/-- **DAA after an addition.** -/
theorem daa_after_add {a : Byte} {f : Flags} (hn : f.contains .n = false) :
    (daa a f).1.toNat = (a.toNat + 6 * (f.contains .h || decide (a.toNat % 16 > 9)).toNat +
        96 * (f.contains .c || decide (a.toNat > 0x99)).toNat) % 256 ∧
      (daa a f).2.contains .c = (f.contains .c || decide (a.toNat > 0x99)) := by
  constructor
  · unfold daa
    dsimp only
    rw [hn, Bool.not_false, Bool.true_and, Bool.true_and, if_neg (by decide), BitVec.toNat_add,
      toNat_correction, toNat_low, Nat.add_assoc]
  · rw [daa_flags, hn, Bool.not_false, Bool.true_and]

/-- **DAA after a subtraction.** -/
theorem daa_after_sub {a : Byte} {f : Flags} (hn : f.contains .n = true) :
    (daa a f).1.toNat =
        (a.toNat + 256 - 6 * (f.contains .h).toNat - 96 * (f.contains .c).toNat) % 256 ∧
      (daa a f).2.contains .c = f.contains .c := by
  constructor
  · unfold daa
    dsimp only
    rw [hn, Bool.not_true, Bool.false_and, Bool.false_and, Bool.or_false, Bool.or_false,
      if_pos rfl, BitVec.toNat_sub, toNat_correction]
    have ha := a.isLt
    have hh := Bool.toNat_lt (f.contains .h)
    have hc := Bool.toNat_lt (f.contains .c)
    omega
  · rw [daa_flags, hn, Bool.not_true, Bool.false_and, Bool.or_false]

/-! ## One place -/

/-- What ADC and DAA leave, in numbers. -/
theorem adc_daa_spec (x y : Byte) (r : Registers) :
    ∃ low carry : Bool,
      (low = true ↔ 15 < x.toNat % 16 + y.toNat % 16 + (r.f.contains .c).toNat ∨
        9 < (x.toNat + y.toNat + (r.f.contains .c).toNat) % 256 % 16) ∧
      (carry = true ↔ 255 < x.toNat + y.toNat + (r.f.contains .c).toNat ∨
        0x99 < (x.toNat + y.toNat + (r.f.contains .c).toNat) % 256) ∧
      (aluThenDaa 1 x y r).1.toNat = ((x.toNat + y.toNat + (r.f.contains .c).toNat) % 256 +
        6 * low.toNat + 96 * carry.toNat) % 256 ∧
      (aluThenDaa 1 x y r).2.f.contains .c = carry := by
  obtain ⟨hsum, hh, hc, hn⟩ := add8_spec x y (r.f.contains .c)
  obtain ⟨hresult, hcarry⟩ := daa_after_add (a := (add8 x y (r.f.contains .c)).1) hn
  rw [hsum, hh, hc] at hresult
  rw [hsum, hc] at hcarry
  refine ⟨_, _, ?_, ?_, hresult, hcarry⟩
  · rw [Bool.or_eq_true, decide_eq_true_eq, decide_eq_true_eq]
  · rw [Bool.or_eq_true, decide_eq_true_eq, decide_eq_true_eq]

/-- **ADC and DAA add two digits.** -/
theorem adc_daa_computes :
    bcd.Computes 1 (fun r : Registers => r.f.contains .c) (aluThenDaa 1) := by
  rintro x y r ⟨hxh, hxl⟩ ⟨hyh, hyl⟩
  obtain ⟨low, carry, hlow, hcarry, hresult, hout⟩ := adc_daa_spec x y r
  have hin := Bool.toNat_lt (r.f.contains .c)
  dsimp only [bcd]
  rw [hresult, hout]
  generalize (r.f.contains .c).toNat = carryIn at *
  generalize x.toNat = left at *
  generalize y.toNat = right at *
  cases low <;> cases carry <;>
    simp only [Bool.toNat_false, Bool.toNat_true, Bool.false_eq_true, true_iff, false_iff] at * <;>
    omega

/-- **SBC and DAA subtract two digits.** -/
theorem sbc_daa_computes :
    bcd.Computes (-1) (fun r : Registers => r.f.contains .c) (aluThenDaa 3) := by
  rintro x y r ⟨hxh, hxl⟩ ⟨hyh, hyl⟩
  obtain ⟨hdifference, hh, hc, hn⟩ := sub8_spec x y (r.f.contains .c)
  obtain ⟨hresult, hout⟩ := daa_after_sub (a := (sub8 x y (r.f.contains .c)).1) hn
  have hresult' : (aluThenDaa 3 x y r).1.toNat = _ := hresult
  have hout' : (aluThenDaa 3 x y r).2.f.contains .c = _ := hout
  have hin := Bool.toNat_lt (r.f.contains .c)
  have hx := x.isLt
  have hy := y.isLt
  dsimp only [bcd]
  rw [hresult', hout', hdifference, hh, hc]
  generalize (r.f.contains .c).toNat = carryIn at *
  generalize x.toNat = left at *
  generalize y.toNat = right at *
  cases hlow : decide (left % 16 < right % 16 + carryIn) <;>
    cases hcarry : decide (left < right + carryIn) <;>
    simp only [decide_eq_true_eq, decide_eq_false_iff_not, Bool.toNat_false,
      Bool.toNat_true] at * <;>
    omega

/-- **Main result.**  From a clear carry, ADC and DAA add packed BCD numbers of any length, and SBC
and DAA subtract them; the carry that is left tells an overflow or a negative result. -/
theorem bcd_arithmetic {n : Nat} (x y : bcd.Number n) (r : Registers)
    (hcarry : r.f.contains .c = false) :
    ((chain (aluThenDaa 1) x.digits y.digits r).1 = bcd.pack n ((x.value + y.value) % 100 ^ n) ∧
      ((chain (aluThenDaa 1) x.digits y.digits r).2.f.contains .c = true ↔
        100 ^ n ≤ x.value + y.value)) ∧
    ((chain (aluThenDaa 3) x.digits y.digits r).1 =
        bcd.pack n (((x.value - y.value : Int) % (100 ^ n : Nat)).toNat) ∧
      ((chain (aluThenDaa 3) x.digits y.digits r).2.f.contains .c = true ↔ x.value < y.value)) :=
  ⟨chain_add x y adc_daa_computes hcarry, chain_sub x y sbc_daa_computes hcarry⟩

/-- 0199 and 9901 make 10100; 0199 less 9901 is 298 modulo 10000. -/
theorem bcd_arithmetic_fourDigits :
    (chain (aluThenDaa 1) [0x99, 0x01] [0x01, 0x99] { Registers.postBootDmg with f := .none }).1 =
        [0x00, 0x01] ∧
      (chain (aluThenDaa 3) [0x99, 0x01] [0x01, 0x99] { Registers.postBootDmg with f := .none }).1 =
        [0x98, 0x02] := by
  obtain ⟨⟨hsum, -⟩, hdifference, -⟩ := bcd_arithmetic
    (⟨[0x99, 0x01], rfl, by decide⟩ : bcd.Number 2) ⟨[0x01, 0x99], rfl, by decide⟩
    { Registers.postBootDmg with f := .none } rfl
  exact ⟨hsum.trans (by decide), hdifference.trans (by decide)⟩

end Pockiva
