import Mathlib.Algebra.Group.Int.Defs
import Mathlib.Algebra.Group.Nat.Defs
import Mathlib.Data.List.Basic

/-! # Computations that can fail

A computation that may be refused is an `Option`: conversions to an integer of a
width, and tables whose entries are computed one by one.  The lemmas say when such a
computation goes through.
-/
namespace Pockiva.Checked
variable {α : Type}

/-- A loop whose rounds may be refused follows one whose rounds are not, as long as
every round does. -/
theorem foldlM_of_rounds {σ τ : Type} {round : σ → α → σ} {checked : τ → α → Option τ}
    {related : Nat → σ → τ → Prop} {bound : Nat}
    (hround : ∀ {n s t} (a : α), n < bound → related n s t →
      ∃ t', checked t a = some t' ∧ related (n + 1) (round s a) t')
    (l : List α) {n : Nat} {s : σ} {t : τ} (hn : n + l.length ≤ bound) (h : related n s t) :
    ∃ t', l.foldlM checked t = some t' ∧ related (n + l.length) (l.foldl round s) t' := by
  induction l generalizing n s t with
  | nil => exact ⟨t, rfl, h⟩
  | cons a l ih =>
    rw [List.length_cons] at hn
    obtain ⟨t₁, ht₁, h₁⟩ := hround a (by omega) h
    obtain ⟨t₂, ht₂, h₂⟩ := ih (n := n + 1) (by omega) h₁
    refine ⟨t₂, ?_, ?_⟩
    · rw [List.foldlM_cons, ht₁, Option.bind_eq_bind, Option.bind_some, ht₂]
    · rw [List.length_cons, ← Nat.succ_add_eq_add_succ]
      exact h₂

/-- The number as an unsigned integer of `width` bits. -/
def unsigned (width : Nat) (n : Int) : Option Nat :=
  if 0 ≤ n ∧ n < 2 ^ width then some n.toNat else none

/-- The number as a signed integer of `width + 1` bits. -/
def signed (width : Nat) (n : Int) : Option Int :=
  if -2 ^ width ≤ n ∧ n < 2 ^ width then some n else none

theorem unsigned_natCast {width n : Nat} (h : n < 2 ^ width) : unsigned width n = some n := by
  have hlt : (n : Int) < 2 ^ width := by exact_mod_cast h
  rw [unsigned, if_pos ⟨Int.natCast_nonneg n, hlt⟩, Int.toNat_natCast]

theorem unsigned_of_lt {width : Nat} {n : Int} (h : 0 ≤ n) (hlt : n < 2 ^ width) :
    unsigned width n = some n.toNat := if_pos ⟨h, hlt⟩

theorem signed_of_lt {width : Nat} {n : Int} (h : -2 ^ width ≤ n) (hlt : n < 2 ^ width) :
    signed width n = some n := if_pos ⟨h, hlt⟩

/-- The table of the values of `f`, each of which must go through. -/
def tabulate {n : Nat} (f : Fin n → Option α) : Option (Fin n → α) :=
  if h : ∀ i, (f i).isSome then some fun i => (f i).get (h i) else none

theorem tabulate_of_forall {n : Nat} {f : Fin n → Option α} {g : Fin n → α}
    (h : ∀ i, f i = some (g i)) : tabulate f = some g := by
  have hsome : ∀ i, (f i).isSome := fun i => by rw [h i]; rfl
  rw [tabulate, dif_pos hsome]
  congr 1
  funext i
  exact Option.get_of_eq_some _ (h i)

end Pockiva.Checked
