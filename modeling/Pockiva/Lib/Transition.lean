import Mathlib.Data.List.Basic

/-! # Transition systems, their runs and their invariants

A system has initial states and labelled steps.  What the initial states satisfy
and every step preserves holds of every reachable state (`Reachable.invariant`);
what every step preserves holds along every run (`Run.invariant`).
-/
namespace Transition

structure System (σ ι : Type) where
  start : σ → Prop
  step : σ → ι → σ → Prop

variable {σ ι : Type}

/-- The system of a function that computes the next state. -/
def System.ofNext (start : σ → Prop) (next : σ → ι → σ) : System σ ι where
  start := start
  step s i t := t = next s i

/-- The states a system gets to. -/
inductive Reachable (S : System σ ι) : σ → Prop where
  | start {s : σ} (h : S.start s) : Reachable S s
  | step {s t : σ} {i : ι} (h : Reachable S s) (hstep : S.step s i t) : Reachable S t

/-- A run from `s` to `t` with the labels of its steps, in order. -/
inductive Run (S : System σ ι) (s : σ) : List ι → σ → Prop where
  | nil : Run S s [] s
  | snoc {labels : List ι} {t u : σ} {i : ι} (h : Run S s labels t) (hstep : S.step t i u) :
      Run S s (labels ++ [i]) u

namespace Reachable
variable {S : System σ ι} {P : σ → Prop}

/-- **An invariant holds of every reachable state.** -/
theorem invariant {s : σ} (h : Reachable S s) (hstart : ∀ s, S.start s → P s)
    (hstep : ∀ s i t, P s → S.step s i t → P t) : P s := by
  induction h with
  | start h => exact hstart _ h
  | step _ h ih => exact hstep _ _ _ ih h

theorem ofNext {start : σ → Prop} {next : σ → ι → σ} {s : σ}
    (h : Reachable (System.ofNext start next) s) (i : ι) :
    Reachable (System.ofNext start next) (next s i) := h.step rfl

end Reachable

namespace Run
variable {S : System σ ι} {P : σ → Prop}

/-- **What every step preserves holds along every run.** -/
theorem invariant {s t : σ} {labels : List ι} (h : Run S s labels t) (hs : P s)
    (hstep : ∀ t i u, P t → S.step t i u → P u) : P t := by
  induction h with
  | nil => exact hs
  | snoc _ h ih => exact hstep _ _ _ ih h

theorem single {s t : σ} {i : ι} (h : S.step s i t) : Run S s [i] t := Run.nil.snoc h

/-- Runs compose. -/
theorem append {s t u : σ} {labels more : List ι} (h : Run S s labels t) (g : Run S t more u) :
    Run S s (labels ++ more) u := by
  induction g with
  | nil => rwa [List.append_nil]
  | snoc _ hstep ih =>
    rw [← List.append_assoc]
    exact ih.snoc hstep

/-- What a function computes along some labels is a run, when its steps are steps. -/
theorem of_steps {next : σ → ι → Option σ} (hnext : ∀ s i t, next s i = some t → S.step s i t)
    {labels : List ι} {s t : σ} (hsteps : labels.foldlM next s = some t) : Run S s labels t := by
  induction labels generalizing s with
  | nil =>
    cases hsteps
    exact .nil
  | cons i labels ih =>
    rw [List.foldlM_cons] at hsteps
    obtain ⟨u, hu, hrest⟩ := Option.bind_eq_some_iff.mp hsteps
    exact (Run.single (hnext s i u hu)).append (ih hrest)

/-- A run can be cut anywhere. -/
theorem split {s u : σ} {labels more : List ι} (h : Run S s (labels ++ more) u) :
    ∃ t, Run S s labels t ∧ Run S t more u := by
  generalize hall : labels ++ more = all at h
  induction h generalizing more with
  | nil =>
    obtain ⟨rfl, rfl⟩ := List.append_eq_nil_iff.mp hall
    exact ⟨s, .nil, .nil⟩
  | @snoc prior t u i hprior hstep ih =>
    rcases List.eq_nil_or_concat' more with rfl | ⟨rest, j, rfl⟩
    · rw [List.append_nil] at hall
      exact ⟨u, hall ▸ hprior.snoc hstep, .nil⟩
    · rw [← List.append_assoc] at hall
      obtain ⟨hinit, hlast⟩ := List.append_inj' hall rfl
      obtain ⟨v, hv, hrest⟩ := ih hinit
      exact ⟨v, hv, (List.singleton_inj.mp hlast) ▸ hrest.snoc hstep⟩

theorem nil_inv {s t : σ} (h : Run S s [] t) : t = s := by
  generalize hlabels : ([] : List ι) = labels at h
  cases h with
  | nil => rfl
  | snoc => exact absurd hlabels.symm (by simp)

/-- The first step of a run. -/
theorem cons_inv {s u : σ} {i : ι} {labels : List ι} (h : Run S s (i :: labels) u) :
    ∃ t, S.step s i t ∧ Run S t labels u := by
  have hcut : Run S s ([i] ++ labels) u := h
  obtain ⟨t, hi, hlabels⟩ := hcut.split
  generalize hone : [i] = one at hi
  cases hi with
  | nil => cases hone
  | snoc hnil hstep =>
    obtain ⟨hprior, hi⟩ := List.append_inj' ((List.nil_append _).trans hone) rfl
    rw [← hprior] at hnil
    rw [hnil.nil_inv, ← List.singleton_inj.mp hi] at hstep
    exact ⟨t, hstep, hlabels⟩

theorem reachable {s t : σ} {labels : List ι} (h : Run S s labels t) (hs : Reachable S s) :
    Reachable S t := h.invariant hs fun _ _ _ ht hstep => ht.step hstep

end Run

end Transition
