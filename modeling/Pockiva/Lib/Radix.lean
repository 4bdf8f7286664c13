import Mathlib.Data.Nat.Digits.Lemmas
import Mathlib.Tactic.LinearCombination

/-! # Numbers in a radix

Numbers as lists of digits, the least first, where a digit is any type with values below
a base.  An operation on two digits and a carry that obeys the law of one place
(`Computes`) obeys it for numbers of any length (`chain_law`); addition and subtraction
are the two signs of the law.
-/
namespace Radix

/-- The digits of a base, among the values of a type. -/
structure Digits (α : Type) where
  base : Nat
  value : α → Nat
  encode : Nat → α
  valid : α → Prop
  one_lt_base : 1 < base
  value_lt : ∀ a, valid a → value a < base
  encode_value : ∀ a, valid a → encode (value a) = a

variable {α σ : Type}

namespace Digits
variable (D : Digits α)

/-- A number of `n` digits. -/
structure Number (n : Nat) where
  digits : List α
  length : digits.length = n
  valid : ∀ a ∈ digits, D.valid a

/-- What a list of digits stands for. -/
def number (xs : List α) : Nat := Nat.ofDigits D.base (xs.map D.value)

/-- The `n` digits of a number. -/
def pack (n v : Nat) : List α := (Nat.digitsAppend D.base n v).map D.encode

variable {D}

def Number.value {n : Nat} (x : D.Number n) : Nat := D.number x.digits

@[simp] theorem number_nil : D.number [] = 0 := rfl

@[simp] theorem number_cons (x : α) (xs : List α) :
    D.number (x :: xs) = D.value x + D.base * D.number xs := by
  rw [number, List.map_cons, Nat.ofDigits_cons]
  rfl

theorem values_lt {xs : List α} (h : ∀ a ∈ xs, D.valid a) : ∀ d ∈ xs.map D.value, d < D.base := by
  intro d hd
  obtain ⟨a, ha, rfl⟩ := List.mem_map.mp hd
  exact D.value_lt a (h a ha)

theorem number_lt {xs : List α} (h : ∀ a ∈ xs, D.valid a) : D.number xs < D.base ^ xs.length := by
  have hlt := Nat.ofDigits_lt_base_pow_length D.one_lt_base (values_lt h)
  rwa [List.length_map] at hlt

/-- **A number has one list of digits.** -/
theorem pack_number {xs : List α} (h : ∀ a ∈ xs, D.valid a) :
    D.pack xs.length (D.number xs) = xs := by
  have hinverse : Nat.digitsAppend D.base xs.length (D.number xs) = xs.map D.value :=
    (Nat.setInvOn_digitsAppend_ofDigits D.one_lt_base xs.length).1
      ⟨List.length_map _, values_lt h⟩
  have hencode : ∀ a ∈ xs, (D.encode ∘ D.value) a = id a := fun a ha => D.encode_value a (h a ha)
  rw [pack, hinverse, List.map_map, List.map_congr_left hencode, List.map_id]

end Digits

/-! ## Digit by digit -/

/-- An operation on digits, from the least digit on; the state carries the carry. -/
def chain (f : α → α → σ → α × σ) : List α → List α → σ → List α × σ
  | x :: xs, y :: ys, s =>
    let rest := chain f xs ys (f x y s).2
    ((f x y s).1 :: rest.1, rest.2)
  | _, _, s => ([], s)

/-- The law of one place: the result and the carry that leaves are the sum, or the difference,
of the digits and the carry that enters. -/
def Digits.Computes (D : Digits α) (sign : Int) (carry : σ → Bool) (f : α → α → σ → α × σ) : Prop :=
  ∀ x y s, D.valid x → D.valid y → D.valid (f x y s).1 ∧
    (D.value (f x y s).1 + sign * (D.base * (carry (f x y s).2).toNat) : Int) =
      D.value x + sign * (D.value y + (carry s).toNat)

section Chain
variable {D : Digits α} {sign : Int} {carry : σ → Bool} {f : α → α → σ → α × σ}

theorem chain_valid (h : D.Computes sign carry f) {xs ys : List α} {s : σ}
    (hlength : xs.length = ys.length) (hx : ∀ a ∈ xs, D.valid a) (hy : ∀ a ∈ ys, D.valid a) :
    (chain f xs ys s).1.length = xs.length ∧ ∀ a ∈ (chain f xs ys s).1, D.valid a := by
  induction xs generalizing ys s with
  | nil => exact ⟨rfl, nofun⟩
  | cons x xs ih =>
    cases ys with
    | nil => cases hlength
    | cons y ys =>
      obtain ⟨hx, hxs⟩ := List.forall_mem_cons.mp hx
      obtain ⟨hy, hys⟩ := List.forall_mem_cons.mp hy
      obtain ⟨hrest, hvalid⟩ := ih (s := (f x y s).2) (Nat.succ.inj hlength) hxs hys
      exact ⟨congrArg Nat.succ hrest, List.forall_mem_cons.mpr ⟨(h x y s hx hy).1, hvalid⟩⟩

/-- **The law of one place is the law of all places.** -/
theorem chain_law (h : D.Computes sign carry f) {xs ys : List α} {s : σ}
    (hlength : xs.length = ys.length) (hx : ∀ a ∈ xs, D.valid a) (hy : ∀ a ∈ ys, D.valid a) :
    (D.number (chain f xs ys s).1 +
        sign * (D.base ^ xs.length * (carry (chain f xs ys s).2).toNat) : Int) =
      D.number xs + sign * (D.number ys + (carry s).toNat) := by
  induction xs generalizing ys s with
  | nil =>
    cases ys with
    | nil => simp [chain]
    | cons y ys => cases hlength
  | cons x xs ih =>
    cases ys with
    | nil => cases hlength
    | cons y ys =>
      obtain ⟨hx, hxs⟩ := List.forall_mem_cons.mp hx
      obtain ⟨hy, hys⟩ := List.forall_mem_cons.mp hy
      obtain ⟨-, hplace⟩ := h x y s hx hy
      have hrest := ih (s := (f x y s).2) (Nat.succ.inj hlength) hxs hys
      simp only [chain, Digits.number_cons, List.length_cons, pow_succ]
      push_cast
      -- the carry between the places cancels
      linear_combination hplace + (D.base : Int) * hrest

variable {n : Nat} (x y : D.Number n) {s : σ}

/-- The digits of a chain are those of its number. -/
theorem chain_eq_pack (h : D.Computes sign carry f) :
    (chain f x.digits y.digits s).1 = D.pack n (D.number (chain f x.digits y.digits s).1) ∧
      D.number (chain f x.digits y.digits s).1 < D.base ^ n := by
  have hlength : x.digits.length = y.digits.length := x.length.trans y.length.symm
  obtain ⟨hn, hvalid⟩ := chain_valid h (s := s) hlength x.valid y.valid
  have hpack := Digits.pack_number hvalid
  have hlt := Digits.number_lt hvalid
  rw [hn, x.length] at hpack hlt
  exact ⟨hpack.symm, hlt⟩

/-- **Addition**, when no carry enters. -/
theorem chain_add (h : D.Computes 1 carry f) (hs : carry s = false) :
    (chain f x.digits y.digits s).1 = D.pack n ((x.value + y.value) % D.base ^ n) ∧
      (carry (chain f x.digits y.digits s).2 = true ↔ D.base ^ n ≤ x.value + y.value) := by
  have hlaw := chain_law h (s := s) (x.length.trans y.length.symm) x.valid y.valid
  obtain ⟨hpack, hlt⟩ := chain_eq_pack x y (s := s) h
  rw [hs, x.length] at hlaw
  have hlaw : D.number (chain f x.digits y.digits s).1 +
      D.base ^ n * (carry (chain f x.digits y.digits s).2).toNat = x.value + y.value := by
    unfold Digits.Number.value
    simp only [Bool.toNat_false, one_mul] at hlaw
    exact_mod_cast hlaw
  rw [hpack, ← hlaw]
  generalize D.number (chain f x.digits y.digits s).1 = v at hlt
  cases carry (chain f x.digits y.digits s).2 with
  | false =>
    rw [Bool.toNat_false, Nat.mul_zero, Nat.add_zero, Nat.mod_eq_of_lt hlt]
    exact ⟨rfl, nofun, fun hle => absurd hlt (Nat.not_lt_of_le hle)⟩
  | true =>
    rw [Bool.toNat_true, Nat.mul_one, Nat.add_mod_right, Nat.mod_eq_of_lt hlt]
    exact ⟨rfl, fun _ => Nat.le_add_left _ _, fun _ => rfl⟩

/-- **Subtraction**, when no borrow enters. -/
theorem chain_sub (h : D.Computes (-1) carry f) (hs : carry s = false) :
    (chain f x.digits y.digits s).1 =
        D.pack n (((x.value - y.value : Int) % (D.base ^ n : Nat)).toNat) ∧
      (carry (chain f x.digits y.digits s).2 = true ↔ x.value < y.value) := by
  have hlaw := chain_law h (s := s) (x.length.trans y.length.symm) x.valid y.valid
  obtain ⟨hpack, hlt⟩ := chain_eq_pack x y (s := s) h
  have hx : x.value < D.base ^ n := by
    have hlt := Digits.number_lt x.valid
    rwa [x.length] at hlt
  rw [hs, x.length] at hlaw
  have hdifference : (x.value - y.value : Int) = D.number (chain f x.digits y.digits s).1 -
      (D.base ^ n : Nat) * (carry (chain f x.digits y.digits s).2).toNat := by
    unfold Digits.Number.value
    simp only [Bool.toNat_false] at hlaw
    push_cast at hlaw ⊢
    linarith
  rw [hpack, hdifference]
  generalize D.number (chain f x.digits y.digits s).1 = v at hlt hdifference
  generalize carry (chain f x.digits y.digits s).2 = borrow at hdifference
  cases borrow with
  | false =>
    rw [Bool.toNat_false, Nat.cast_zero, mul_zero, sub_zero] at hdifference ⊢
    rw [Int.emod_eq_of_lt (by omega) (by omega), Int.toNat_natCast]
    exact ⟨rfl, nofun, fun hlt => by omega⟩
  | true =>
    rw [Bool.toNat_true, Nat.cast_one, mul_one] at hdifference ⊢
    rw [Int.sub_emod_right, Int.emod_eq_of_lt (by omega) (by omega), Int.toNat_natCast]
    exact ⟨rfl, fun _ => by omega, fun _ => rfl⟩

end Chain

end Radix
