import Mathlib.Data.List.Basic

/-! # Logs whose events are justified when they are recorded

A log grows at its end.  If each event satisfies `Good` of the log before it at the
moment it is recorded, then every event of the log does (`Justified.snoc`), whatever is
recorded later.
-/
namespace Log

variable {ε : Type}

/-- Every event is good with respect to the log before it. -/
def Justified (Good : List ε → ε → Prop) (log : List ε) : Prop :=
  ∀ before e after, log = before ++ e :: after → Good before e

/-- The last event of a log is new or the log was longer. -/
theorem snoc_eq_append_cons {log before after : List ε} {e f : ε}
    (h : log ++ [f] = before ++ e :: after) :
    (before = log ∧ e = f ∧ after = []) ∨
      ∃ rest, after = rest ++ [f] ∧ log = before ++ e :: rest := by
  rcases List.eq_nil_or_concat' after with rfl | ⟨rest, last, rfl⟩
  · obtain ⟨hlog, hlast⟩ := List.append_inj' h rfl
    exact .inl ⟨hlog.symm, (List.singleton_inj.mp hlast).symm, rfl⟩
  · rw [← List.cons_append, ← List.append_assoc] at h
    obtain ⟨hlog, hlast⟩ := List.append_inj' h rfl
    exact .inr ⟨rest, by rw [List.singleton_inj.mp hlast], hlog⟩

/-- An event that does not come after another one comes before it. -/
theorem before_of_not_mem {before after first since : List ε} {e f : ε}
    (h : before ++ e :: after = first ++ f :: since) (hne : e ≠ f) (hnone : e ∉ since) :
    ∃ between, after = between ++ f :: since ∧ first = before ++ e :: between := by
  rcases List.append_eq_append_iff.mp h with ⟨rest, hfirst, htail⟩ | ⟨rest, -, htail⟩
  · cases rest with
    | nil =>
      cases htail
      exact absurd rfl hne
    | cons g between =>
      cases htail
      exact ⟨between, rfl, hfirst⟩
  · have hmem : e ∈ f :: since := by
      rw [htail]
      exact List.mem_append_right _ List.mem_cons_self
    rcases List.mem_cons.mp hmem with heq | hsince
    · exact absurd heq hne
    · exact absurd hsince hnone

namespace Justified
variable {Good : List ε → ε → Prop} {log : List ε}

theorem nil : Justified Good [] := by
  intro before e after h
  exact absurd h (by simp)

/-- **A good event keeps a log justified.** -/
theorem snoc (h : Justified Good log) {e : ε} (he : Good log e) : Justified Good (log ++ [e]) := by
  intro before f after heq
  rcases snoc_eq_append_cons heq with ⟨rfl, rfl, -⟩ | ⟨rest, -, hlog⟩
  · exact he
  · exact h before f rest hlog

/-- The log without its last event. -/
theorem init {e : ε} (h : Justified Good (log ++ [e])) : Justified Good log := by
  intro before f after heq
  refine h before f (after ++ [e]) ?_
  rw [heq, List.append_assoc, List.cons_append]

end Justified

end Log
