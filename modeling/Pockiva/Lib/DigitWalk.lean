import Pockiva.Lib.Radix

/-! # Multiplying and dividing digit by digit

An operation on one digit and a carry, from the least digit on or from the greatest.  If it
multiplies or divides one place by a small number (`Multiplies`, `Divides`), the walk over
the digits does so with the whole number: the long multiplication and the long division by
one digit.
-/
namespace Radix
variable {α σ : Type}

/-- An operation on digits in the order of the list; the state carries the carry. -/
def walk (f : α → σ → α × σ) : List α → σ → List α × σ
  | [], s => ([], s)
  | x :: xs, s =>
    let rest := walk f xs (f x s).2
    ((f x s).1 :: rest.1, rest.2)

/-- The first digit has an operation of its own. -/
def walkFrom (first f : α → σ → α × σ) : List α → σ → List α × σ
  | [], s => ([], s)
  | x :: xs, s =>
    let rest := walk f xs (first x s).2
    ((first x s).1 :: rest.1, rest.2)

/-- The same for two numbers. -/
def chainFrom (first f : α → α → σ → α × σ) : List α → List α → σ → List α × σ
  | x :: xs, y :: ys, s =>
    let rest := chain f xs ys (first x y s).2
    ((first x y s).1 :: rest.1, rest.2)
  | _, _, s => ([], s)

section From
variable {xs : List α} {x : α} {s t : σ}

theorem walkFrom_eq {first f : α → σ → α × σ} (h : first x s = f x t) :
    walkFrom first f (x :: xs) s = walk f (x :: xs) t := by
  rw [walkFrom, walk, h]

theorem chainFrom_eq {first f : α → α → σ → α × σ} {y : α} {ys : List α}
    (h : first x y s = f x y t) :
    chainFrom first f (x :: xs) (y :: ys) s = chain f (x :: xs) (y :: ys) t := by
  rw [chainFrom, chain, h]

end From

theorem walk_length (f : α → σ → α × σ) (xs : List α) (s : σ) :
    (walk f xs s).1.length = xs.length := by
  induction xs generalizing s with
  | nil => rfl
  | cons x xs ih => exact congrArg Nat.succ (ih _)

namespace Digits

/-- One place is multiplied by `k`; the carry that enters is added. -/
def Multiplies (D : Digits α) (k : Nat) (carry : σ → Nat) (f : α → σ → α × σ) : Prop :=
  ∀ x s, D.valid x → D.valid (f x s).1 ∧
    D.value (f x s).1 + D.base * carry (f x s).2 = k * D.value x + carry s

/-- One place, behind the remainder that enters, is divided by `k`; the remainder leaves. -/
def Divides (D : Digits α) (k : Nat) (carry : σ → Nat) (f : α → σ → α × σ) : Prop :=
  ∀ x s, D.valid x → carry s < k → D.valid (f x s).1 ∧ carry (f x s).2 < k ∧
    k * D.value (f x s).1 + carry (f x s).2 = D.base * carry s + D.value x

variable {D : Digits α}

theorem number_append (xs ys : List α) :
    D.number (xs ++ ys) = D.number xs + D.base ^ xs.length * D.number ys := by
  rw [number, List.map_append, Nat.ofDigits_append, List.length_map]
  rfl

/-- The digits of a number that is known. -/
theorem eq_pack {xs : List α} (h : ∀ a ∈ xs, D.valid a) {n v : Nat} (hn : xs.length = n)
    (hv : D.number xs = v) : xs = D.pack n v := by
  rw [← hn, ← hv, pack_number h]

end Digits

section Walk
variable {D : Digits α} {k : Nat} {carry : σ → Nat} {f : α → σ → α × σ}

/-! ## Multiplication, from the least digit on -/

/-- **Long multiplication.** -/
theorem walk_multiplies (h : D.Multiplies k carry f) {xs : List α}
    (hx : ∀ a ∈ xs, D.valid a) (s : σ) :
    (∀ a ∈ (walk f xs s).1, D.valid a) ∧
      D.number (walk f xs s).1 + D.base ^ xs.length * carry (walk f xs s).2 =
        k * D.number xs + carry s := by
  induction xs generalizing s with
  | nil => exact ⟨nofun, by simp [walk]⟩
  | cons x xs ih =>
    obtain ⟨hx, hxs⟩ := List.forall_mem_cons.mp hx
    obtain ⟨hdigit, hplace⟩ := h x s hx
    obtain ⟨hdigits, hrest⟩ := ih hxs (f x s).2
    refine ⟨List.forall_mem_cons.mpr ⟨hdigit, hdigits⟩, ?_⟩
    simp only [walk, Digits.number_cons, List.length_cons, pow_succ]
    -- the carry between the places cancels
    linear_combination hplace + D.base * hrest

/-- The digits of the product, and what does not fit into them. -/
theorem walk_eq_product (h : D.Multiplies k carry f) {n : Nat} (x : D.Number n) (s : σ) :
    (walk f x.digits s).1 = D.pack n ((k * x.value + carry s) % D.base ^ n) ∧
      carry (walk f x.digits s).2 = (k * x.value + carry s) / D.base ^ n := by
  obtain ⟨hvalid, hlaw⟩ := walk_multiplies h x.valid s
  have hlength := (walk_length f x.digits s).trans x.length
  have hlt := Digits.number_lt hvalid
  rw [hlength] at hlt
  rw [x.length] at hlaw
  have hpos : 0 < D.base ^ n := Nat.pow_pos (Nat.zero_lt_of_lt D.one_lt_base)
  unfold Digits.Number.value
  rw [← hlaw]
  refine ⟨Digits.eq_pack hvalid hlength ?_, ?_⟩
  · rw [Nat.add_mul_mod_self_left, Nat.mod_eq_of_lt hlt]
  · rw [Nat.add_mul_div_left _ _ hpos, Nat.div_eq_of_lt hlt, Nat.zero_add]

/-! ## Division, from the greatest digit on -/

/-- **Long division.** -/
theorem walk_divides (h : D.Divides k carry f) {xs : List α}
    (hx : ∀ a ∈ xs, D.valid a) {s : σ} (hs : carry s < k) :
    (∀ a ∈ (walk f xs s).1, D.valid a) ∧ carry (walk f xs s).2 < k ∧
      k * D.number (walk f xs s).1.reverse + carry (walk f xs s).2 =
        D.base ^ xs.length * carry s + D.number xs.reverse := by
  induction xs generalizing s with
  | nil => exact ⟨nofun, hs, by simp [walk]⟩
  | cons x xs ih =>
    obtain ⟨hx, hxs⟩ := List.forall_mem_cons.mp hx
    obtain ⟨hdigit, hcarry, hplace⟩ := h x s hx hs
    obtain ⟨hdigits, hlast, hrest⟩ := ih hxs hcarry
    refine ⟨List.forall_mem_cons.mpr ⟨hdigit, hdigits⟩, hlast, ?_⟩
    simp only [walk, List.reverse_cons, Digits.number_append, Digits.number_cons,
      Digits.number_nil, List.length_reverse, walk_length, List.length_cons, pow_succ]
    linear_combination hrest + D.base ^ xs.length * hplace

/-- The digits of the quotient, and the remainder. -/
theorem walk_eq_quotient (h : D.Divides k carry f) {n : Nat} (x : D.Number n) {s : σ}
    (hs : carry s < k) :
    (walk f x.digits.reverse s).1.reverse =
        D.pack n ((D.base ^ n * carry s + x.value) / k) ∧
      carry (walk f x.digits.reverse s).2 = (D.base ^ n * carry s + x.value) % k := by
  obtain ⟨hvalid, hlast, hlaw⟩ := walk_divides h
    (fun a ha => x.valid a (List.mem_reverse.mp ha)) hs
  have hlength : (walk f x.digits.reverse s).1.reverse.length = n := by
    rw [List.length_reverse, walk_length, List.length_reverse, x.length]
  rw [List.reverse_reverse, List.length_reverse, x.length] at hlaw
  have hpos : 0 < k := Nat.zero_lt_of_lt hs
  unfold Digits.Number.value
  rw [← hlaw]
  refine ⟨Digits.eq_pack (fun a ha => hvalid a (List.mem_reverse.mp ha)) hlength ?_, ?_⟩
  · rw [Nat.mul_add_div hpos, Nat.div_eq_of_lt hlast, Nat.add_zero]
  · rw [Nat.mul_add_mod, Nat.mod_eq_of_lt hlast]

end Walk

end Radix
