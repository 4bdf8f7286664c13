import Mathlib.Logic.Function.Basic

/-! # A token in the hands of one thread

Threads stand at points of a program, and some points claim a token: the operation that is
under way, say.  `Custody` says that the token is out exactly while a thread claims it, that
this is one thread and that it claims what is out.
-/
namespace Exclusion

variable {ι σ κ : Type} [DecidableEq ι]

/-- The token that is out is the one a single thread claims. -/
structure Custody (claim : σ → Option κ) (token : Option κ) (threads : ι → σ) : Prop where
  owned : ∀ i k, claim (threads i) = some k → token = some k
  single : ∀ i j, claim (threads i) ≠ none → claim (threads j) ≠ none → i = j
  owner : token ≠ none → ∃ i, claim (threads i) ≠ none

variable {claim : σ → Option κ} {token : Option κ} {threads : ι → σ} {i : ι} {p : σ}

/-- What holds of every thread and of the point one of them moves to. -/
theorem forall_update {P : σ → Prop} (hp : P p) (h : ∀ j, P (threads j)) (j : ι) :
    P (Function.update threads i p j) :=
  (Function.forall_update_iff threads fun _ q => P q).mpr ⟨hp, fun j _ => h j⟩ j

/-- A thread moves to a point that agrees with the one it left. -/
theorem update_agrees {α : Type} {f : σ → α} (hp : f p = f (threads i)) (j : ι) :
    f (Function.update threads i p j) = f (threads j) := by
  by_cases hj : j = i
  · rw [hj, Function.update_self, hp]
  · rw [Function.update_of_ne hj]

omit [DecidableEq ι] in
/-- Threads may change their points as long as they claim the same. -/
theorem Custody.congr (h : Custody claim token threads) {threads' : ι → σ}
    (hsame : ∀ i, claim (threads' i) = claim (threads i)) : Custody claim token threads' :=
  ⟨fun i k hi => h.owned i k (hsame i ▸ hi),
    fun i j hi hj => h.single i j (hsame i ▸ hi) (hsame j ▸ hj),
    fun hout => (h.owner hout).imp fun i hi => (hsame i).symm ▸ hi⟩

/-- A thread that goes on with the claim it had. -/
theorem Custody.move (h : Custody claim token threads) (hp : claim p = claim (threads i)) :
    Custody claim token (Function.update threads i p) :=
  h.congr (update_agrees hp)

omit [DecidableEq ι] in
/-- **Nobody claims what is not out.** -/
theorem Custody.free (h : Custody claim none threads) (i : ι) : claim (threads i) = none := by
  cases hclaim : claim (threads i) with
  | none => rfl
  | some k => cases h.owned i k hclaim

/-- A thread takes the token. -/
theorem Custody.acquire (h : Custody claim none threads) {k : κ} (hp : claim p = some k) :
    Custody claim (some k) (Function.update threads i p) := by
  have hother : ∀ j, claim (Function.update threads i p j) ≠ none → j = i := by
    intro j hj
    by_contra hne
    rw [Function.update_of_ne hne] at hj
    exact hj (h.free j)
  refine ⟨?_, ?_, ?_⟩
  · intro j k' hj
    obtain rfl := hother j (by rw [hj]; exact Option.some_ne_none k')
    rw [Function.update_self, hp] at hj
    exact hj
  · intro j j' hj hj'
    rw [hother j hj, hother j' hj']
  · intro _
    refine ⟨i, ?_⟩
    rw [Function.update_self, hp]
    exact Option.some_ne_none k

/-- The owner puts the token back. -/
theorem Custody.release (h : Custody claim token threads) (hi : claim (threads i) ≠ none)
    (hp : claim p = none) : Custody claim none (Function.update threads i p) := by
  have hnone : ∀ j, claim (Function.update threads i p j) = none := by
    intro j
    by_cases hj : j = i
    · rw [hj, Function.update_self, hp]
    · rw [Function.update_of_ne hj]
      by_contra hclaim
      exact hj (h.single j i hclaim hi)
  refine ⟨?_, ?_, fun hout => absurd rfl hout⟩
  · intro j k hj
    cases (hnone j).symm.trans hj
  · intro j _ hj
    exact absurd (hnone j) hj

end Exclusion
