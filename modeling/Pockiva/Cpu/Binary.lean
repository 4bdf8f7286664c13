import Pockiva.Cpu.Bcd
import Pockiva.Lib.DigitWalk

/-! # Arithmetic on numbers of many bytes

The CPU computes on one byte at a time and passes the carry flag on.  `binary_arithmetic`
states what the usual sequences come to for numbers of any length: ADD and then ADC, SUB and
then SBC from the least byte on, SLA and then RL, and SRL or SRA and then RR from the
greatest byte down.
-/
namespace Pockiva

open Radix

/-- A byte of a binary number. -/
def octet : Digits Byte where
  base := 256
  value b := b.toNat
  encode d := BitVec.ofNat 8 d
  valid _ := True
  one_lt_base := by decide
  value_lt b _ := b.isLt
  encode_value b _ := BitVec.ofNat_toNat 8 b

/-- The byte `x` is loaded into A and the operation of the ALU with `y` is applied. -/
def aluOn (operation : Nat) (x y : Byte) (r : Registers) : Byte × Registers :=
  let r := alu { r with a := x } operation y
  (r.a, r)

/-- A rotate or shift behind the CB byte, with the flags it leaves. -/
def rotateShiftFlags (y : Nat) (value : Byte) (f : Flags) : Byte × Flags :=
  let result := rotateShift y value (f.contains .c)
  (result.1, (Flags.none.set .z (result.1 = 0)).set .c result.2)

/-- The carry flag as a number. -/
def carryOf (f : Flags) : Nat := (f.contains .c).toNat

/-- What `executeCb` does to an operand. -/
theorem executeCb_rotateShift {β : Type} [CpuBus β] {opcode : Byte} (h : opX opcode = 0) :
    (executeCb opcode : CpuM β Unit) = (do
      let value ← readR (opZ opcode)
      let f := (← CpuM.cpu).registers.f
      setFlags (rotateShiftFlags (opY opcode) value f).2
      writeR (opZ opcode) (rotateShiftFlags (opY opcode) value f).1) := by
  unfold executeCb
  simp only [h]
  rfl

/-! ## One byte -/

/-- **ADC adds two bytes.** -/
theorem adc_computes : octet.Computes 1 (fun r : Registers => r.f.contains .c) (aluOn 1) := by
  intro x y r _ _
  obtain ⟨hsum, -, hc, -⟩ := add8_spec x y (r.f.contains .c)
  have hresult : (aluOn 1 x y r).1.toNat = _ := hsum
  have hout : (aluOn 1 x y r).2.f.contains .c = _ := hc
  refine ⟨trivial, ?_⟩
  dsimp only [octet]
  rw [hresult, hout]
  have hx := x.isLt
  have hy := y.isLt
  have hin := Bool.toNat_lt (r.f.contains .c)
  cases hcarry : decide (255 < x.toNat + y.toNat + (r.f.contains .c).toNat) <;>
    simp only [decide_eq_true_eq, decide_eq_false_iff_not, Bool.toNat_false,
      Bool.toNat_true] at * <;>
    omega

/-- **SBC subtracts two bytes.** -/
theorem sbc_computes : octet.Computes (-1) (fun r : Registers => r.f.contains .c) (aluOn 3) := by
  intro x y r _ _
  obtain ⟨hdifference, -, hc, -⟩ := sub8_spec x y (r.f.contains .c)
  have hresult : (aluOn 3 x y r).1.toNat = _ := hdifference
  have hout : (aluOn 3 x y r).2.f.contains .c = _ := hc
  refine ⟨trivial, ?_⟩
  dsimp only [octet]
  rw [hresult, hout]
  have hx := x.isLt
  have hy := y.isLt
  have hin := Bool.toNat_lt (r.f.contains .c)
  cases hcarry : decide (x.toNat < y.toNat + (r.f.contains .c).toNat) <;>
    simp only [decide_eq_true_eq, decide_eq_false_iff_not, Bool.toNat_false,
      Bool.toNat_true] at * <;>
    omega

/-- The registers with the carry flag cleared. -/
def clearCarry (r : Registers) : Registers := { r with f := .none }

theorem clearCarry_carry (r : Registers) : (clearCarry r).f.contains .c = false := by
  have h : Flags.none.contains .c = false := by decide
  exact h

theorem add_eq_adc (x y : Byte) (r : Registers) :
    aluOn 0 x y r = aluOn 1 x y (clearCarry r) := by
  simp only [aluOn, alu, clearCarry_carry]
  rfl

theorem sub_eq_sbc (x y : Byte) (r : Registers) :
    aluOn 2 x y r = aluOn 3 x y (clearCarry r) := by
  simp only [aluOn, alu, clearCarry_carry]
  rfl

theorem rotateShiftFlags_carry (y : Nat) (value : Byte) (f : Flags) :
    (rotateShiftFlags y value f).2.contains .c = (rotateShift y value (f.contains .c)).2 := by
  have h : ∀ z c : Bool, ((Flags.none.set .z z).set .c c).contains .c = c := by decide
  exact h _ _

/-- **RL doubles a byte.** -/
theorem rl_multiplies : octet.Multiplies 2 carryOf (rotateShiftFlags 2) := by
  intro value f hvalid
  refine ⟨trivial, ?_⟩
  dsimp only [octet, carryOf]
  rw [rotateShiftFlags_carry]
  show (rotateShift 2 value (f.contains .c)).1.toNat + _ = _
  generalize f.contains .c = carry
  clear hvalid
  revert value carry
  decide +kernel

/-- **RR halves a byte.** -/
theorem rr_divides : octet.Divides 2 carryOf (rotateShiftFlags 3) := by
  intro value f hvalid _
  refine ⟨trivial, Bool.toNat_lt _, ?_⟩
  dsimp only [octet, carryOf]
  rw [rotateShiftFlags_carry]
  show 2 * (rotateShift 3 value (f.contains .c)).1.toNat + _ = _
  generalize f.contains .c = carry
  clear hvalid
  revert value carry
  decide +kernel

theorem sla_eq_rl (value : Byte) (f : Flags) :
    rotateShiftFlags 4 value f = rotateShiftFlags 2 value .none := by
  have h : ∀ value : Byte, rotateShift 4 value true = rotateShift 2 value false := by
    decide +kernel
  exact congrArg (fun result : Byte × Bool =>
    (result.1, (Flags.none.set .z (result.1 = 0)).set .c result.2)) (h value)

theorem srl_eq_rr (value : Byte) (f : Flags) :
    rotateShiftFlags 7 value f = rotateShiftFlags 3 value .none := by
  have h : ∀ value : Byte, rotateShift 7 value true = rotateShift 3 value false := by
    decide +kernel
  exact congrArg (fun result : Byte × Bool =>
    (result.1, (Flags.none.set .z (result.1 = 0)).set .c result.2)) (h value)

/-- SRA takes in the sign. -/
theorem sra_eq_rr (value : Byte) (f : Flags) :
    rotateShiftFlags 5 value f =
      rotateShiftFlags 3 value (Flags.none.set .c (decide (128 ≤ value.toNat))) := by
  have h : ∀ value : Byte, rotateShift 5 value true =
      rotateShift 3 value ((Flags.none.set .c (decide (128 ≤ value.toNat))).contains .c) := by
    decide +kernel
  exact congrArg (fun result : Byte × Bool =>
    (result.1, (Flags.none.set .z (result.1 = 0)).set .c result.2)) (h value)

/-! ## Numbers -/

section Numbers
variable {n : Nat} (x y : octet.Number (n + 1))

theorem exists_digits : ∃ least rest, x.digits = least :: rest :=
  List.exists_cons_of_length_eq_add_one x.length

theorem exists_greatest : ∃ greatest rest, x.digits.reverse = greatest :: rest :=
  List.exists_cons_of_length_eq_add_one (List.length_reverse.trans x.length)

/-- The top bit of the greatest byte is the sign. -/
theorem sign_of_greatest {greatest : Byte} {rest : List Byte}
    (h : x.digits.reverse = greatest :: rest) :
    128 ≤ greatest.toNat ↔ 256 ^ (n + 1) ≤ 2 * x.value := by
  have hdigits : x.digits = rest.reverse ++ [greatest] := by
    rw [← List.reverse_reverse x.digits, h, List.reverse_cons]
  have hlength : rest.reverse.length = n := by
    have hlength := x.length
    rw [hdigits, List.length_append] at hlength
    exact Nat.succ.inj hlength
  have hlow : octet.number rest.reverse < octet.base ^ rest.reverse.length :=
    Digits.number_lt fun _ _ => trivial
  have hvalue : x.value = octet.number rest.reverse + 256 ^ n * greatest.toNat := by
    rw [Digits.Number.value, hdigits, Digits.number_append, hlength, Digits.number_cons,
      Digits.number_nil]
    rfl
  rw [hlength] at hlow
  replace hlow : octet.number rest.reverse < 256 ^ n := hlow
  rw [hvalue, pow_succ]
  generalize octet.number rest.reverse = low at hlow
  generalize greatest.toNat = top
  generalize (256 ^ n : Nat) = place at hlow
  constructor
  · intro h
    nlinarith
  · intro h
    by_contra hlt
    have htop : top + 1 ≤ 128 := by omega
    nlinarith

/-- Half of a number in two's complement. -/
theorem half_signed {m v : Nat} (hm : 2 ∣ m) (hv : v < m) :
    ((Int.bmod v m / 2) % (m : Int)).toNat =
      (m * (decide (m ≤ 2 * v)).toNat + v) / 2 := by
  obtain ⟨k, rfl⟩ := hm
  have hmod : ((v : Int) % ((2 * k : Nat) : Int)) = v := Int.emod_eq_of_lt (by omega) (by omega)
  rw [Int.bmod_def, hmod]
  by_cases hsign : 2 * k ≤ 2 * v
  · rw [if_neg (by omega), decide_eq_true hsign, Bool.toNat_true]
    have hhalf : ((v : Int) - (2 * k : Nat)) / 2 + (2 * k : Nat) = ((2 * k + v) / 2 : Nat) := by
      omega
    rw [← Int.add_emod_right, hhalf, Int.emod_eq_of_lt (by omega) (by omega), Nat.mul_one]
    rfl
  · rw [if_pos (by omega), decide_eq_false hsign, Bool.toNat_false, Nat.mul_zero, Nat.zero_add]
    rw [Int.emod_eq_of_lt (by omega) (by omega)]
    omega

/-- What the sequences of instructions compute from numbers of `n + 1` bytes. -/
structure BinaryLaw (r : Registers) (f : Flags) : Prop where
  /-- ADD, and then ADC. -/
  sum : let result := chainFrom (aluOn 0) (aluOn 1) x.digits y.digits r
    result.1 = octet.pack (n + 1) ((x.value + y.value) % 256 ^ (n + 1)) ∧
      (result.2.f.contains .c = true ↔ 256 ^ (n + 1) ≤ x.value + y.value)
  /-- SUB, and then SBC. -/
  difference : let result := chainFrom (aluOn 2) (aluOn 3) x.digits y.digits r
    result.1 = octet.pack (n + 1)
        (((x.value - y.value : Int) % (256 ^ (n + 1) : Nat)).toNat) ∧
      (result.2.f.contains .c = true ↔ x.value < y.value)
  /-- SLA, and then RL. -/
  double : let result := walkFrom (rotateShiftFlags 4) (rotateShiftFlags 2) x.digits f
    result.1 = octet.pack (n + 1) ((2 * x.value) % 256 ^ (n + 1)) ∧
      (result.2.contains .c = true ↔ 256 ^ (n + 1) ≤ 2 * x.value)
  /-- SRL, and then RR, from the greatest byte down. -/
  half : let result := walkFrom (rotateShiftFlags 7) (rotateShiftFlags 3) x.digits.reverse f
    result.1.reverse = octet.pack (n + 1) (x.value / 2) ∧
      (result.2.contains .c = true ↔ x.value % 2 = 1)
  /-- SRA, and then RR: the number is one in two's complement. -/
  halfSigned : let result := walkFrom (rotateShiftFlags 5) (rotateShiftFlags 3) x.digits.reverse f
    result.1.reverse = octet.pack (n + 1)
        ((Int.bmod x.value (256 ^ (n + 1)) / 2 % (256 ^ (n + 1) : Nat)).toNat) ∧
      (result.2.contains .c = true ↔ x.value % 2 = 1)

theorem carryOf_eq_iff {f : Flags} {v : Nat} (h : carryOf f = v) :
    f.contains .c = true ↔ v = 1 := by
  rw [← h, carryOf]
  cases f.contains .c <;> decide

/-- **Arithmetic of many bytes**: the sequences of one-byte instructions add, subtract, double
and halve numbers of any length, whatever the flags were, and the carry flag tells what did
not fit. -/
theorem binary_arithmetic (r : Registers) (f : Flags) : BinaryLaw x y r f := by
  obtain ⟨leastX, restX, hx⟩ := exists_digits x
  obtain ⟨leastY, restY, hy⟩ := exists_digits y
  obtain ⟨greatest, rest, hreverse⟩ := exists_greatest x
  have hlt : x.value < 256 ^ (n + 1) := by
    have hlt := Digits.number_lt x.valid
    rwa [x.length] at hlt
  constructor
  case sum =>
    rw [hx, hy, chainFrom_eq (add_eq_adc leastX leastY r), ← hx, ← hy]
    exact chain_add x y adc_computes (clearCarry_carry r)
  case difference =>
    rw [hx, hy, chainFrom_eq (sub_eq_sbc leastX leastY r), ← hx, ← hy]
    exact chain_sub x y sbc_computes (clearCarry_carry r)
  case double =>
    rw [hx, walkFrom_eq (sla_eq_rl leastX f), ← hx]
    obtain ⟨hdigits, hcarry⟩ := walk_eq_product rl_multiplies x .none
    have hnone : carryOf .none = 0 := rfl
    simp only [hnone, Nat.add_zero (2 * x.value)] at hdigits hcarry
    refine ⟨hdigits, (carryOf_eq_iff hcarry).trans ?_⟩
    change 2 * x.value / 256 ^ (n + 1) = 1 ↔ _
    rw [Nat.div_eq_iff (by positivity)]
    omega
  case half =>
    rw [hreverse, walkFrom_eq (srl_eq_rr greatest f), ← hreverse]
    have hnone : carryOf .none = 0 := rfl
    obtain ⟨hdigits, hcarry⟩ := walk_eq_quotient rr_divides x (s := .none) (by decide)
    rw [hnone, Nat.mul_zero, Nat.zero_add] at hdigits hcarry
    exact ⟨hdigits, carryOf_eq_iff hcarry⟩
  case halfSigned =>
    have hsign : carryOf (Flags.none.set .c (decide (128 ≤ greatest.toNat))) =
        (decide (256 ^ (n + 1) ≤ 2 * x.value)).toNat := by
      have h : ∀ c : Bool, (Flags.none.set .c c).contains .c = c := by decide
      rw [carryOf, h, decide_eq_decide.mpr (sign_of_greatest x hreverse)]
    rw [hreverse, walkFrom_eq (sra_eq_rr greatest f), ← hreverse]
    have heven : 2 ∣ 256 ^ (n + 1) := Dvd.dvd.pow (by decide) (Nat.succ_ne_zero n)
    obtain ⟨hdigits, hcarry⟩ := walk_eq_quotient rr_divides x
      (s := Flags.none.set .c (decide (128 ≤ greatest.toNat))) (Bool.toNat_lt _)
    rw [hsign] at hdigits hcarry
    refine ⟨?_, (carryOf_eq_iff hcarry).trans ?_⟩
    · rw [half_signed heven hlt]
      exact hdigits
    · obtain ⟨k, hk⟩ := heven
      change (256 ^ (n + 1) * _ + x.value) % 2 = 1 ↔ _
      rw [hk, Nat.mul_assoc, Nat.mul_add_mod]

end Numbers

end Pockiva
