import Pockiva.Lib.Log

/-! # What has held since

`Since sets resets` holds of a log in which an event that sets has come and no event that
resets came after it.  It is the past operator of linear temporal logic, for events whose
effect depends on the log before them, and unfolds at the end of the log (`snoc_iff`).
-/
namespace Log

variable {ε : Type}

/-- Some event has set it, and no later one has reset it. -/
def Since (sets resets : List ε → ε → Prop) (log : List ε) : Prop :=
  ∃ before e after, log = before ++ e :: after ∧ sets before e ∧
    ∀ middle f rest, after = middle ++ f :: rest → ¬ resets (before ++ e :: middle) f

namespace Since
variable {sets resets : List ε → ε → Prop} {log : List ε}

theorem not_nil : ¬ Since sets resets [] := by
  rintro ⟨before, e, after, heq, _⟩
  exact absurd heq (by simp)

/-- **After one more event**: it sets, or it does not reset what was set. -/
theorem snoc_iff {f : ε} :
    Since sets resets (log ++ [f]) ↔ sets log f ∨ Since sets resets log ∧ ¬ resets log f := by
  constructor
  · rintro ⟨before, e, after, heq, hsets, hkept⟩
    rcases snoc_eq_append_cons heq with ⟨rfl, rfl, rfl⟩ | ⟨rest, rfl, rfl⟩
    · exact .inl hsets
    · refine .inr ⟨⟨before, e, rest, rfl, hsets, fun middle g more hrest => ?_⟩, ?_⟩
      · refine hkept middle g (more ++ [f]) ?_
        rw [hrest, List.append_assoc, List.cons_append]
      · exact hkept rest f [] rfl
  · rintro (hsets | ⟨⟨before, e, after, rfl, hsets, hkept⟩, hreset⟩)
    · exact ⟨log, f, [], rfl, hsets, fun middle g more heq => absurd heq (by simp)⟩
    · refine ⟨before, e, after ++ [f], by simp, hsets, fun middle g rest heq => ?_⟩
      rcases snoc_eq_append_cons heq with ⟨rfl, rfl, rfl⟩ | ⟨more, rfl, hafter⟩
      · exact hreset
      · exact hkept middle g more hafter

end Since
end Log
