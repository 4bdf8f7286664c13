import Mathlib.Data.List.Basic

/-! # Operations on a stack

A sequence of pushes and pops either runs on a stack or pops what is not there.  It does not
see what lies below the words it uses (`run_above`), so a balanced sequence leaves every
stack as it was (`Balanced.run_eq`).
-/
namespace StackOps
variable {α : Type}

inductive StackOp (α : Type) where
  | push (a : α)
  | pop
  | keep
deriving DecidableEq

/-- The stack after an operation, the last word first. -/
def StackOp.apply (stack : List α) : StackOp α → Option (List α)
  | .push a => some (a :: stack)
  | .pop => match stack with
    | _ :: rest => some rest
    | [] => none
  | .keep => some stack

def run (ops : List (StackOp α)) (stack : List α) : Option (List α) :=
  ops.foldlM StackOp.apply stack

/-- The operations pop what they push. -/
def Balanced (ops : List (StackOp α)) : Prop := run ops [] = some []

@[simp] theorem run_cons (op : StackOp α) (ops : List (StackOp α)) (stack : List α) :
    run (op :: ops) stack = (op.apply stack).bind (run ops) := rfl

theorem run_append (ops more : List (StackOp α)) (stack : List α) :
    run (ops ++ more) stack = (run ops stack).bind (run more) := by
  rw [run, List.foldlM_append]
  rfl

/-- An operation does not see what lies below. -/
theorem StackOp.apply_above {stack after : List α} {op : StackOp α}
    (h : op.apply stack = some after) (below : List α) :
    op.apply (stack ++ below) = some (after ++ below) := by
  cases op with
  | push a =>
    cases h
    rfl
  | pop =>
    cases stack with
    | nil => cases h
    | cons a rest =>
      cases h
      rfl
  | keep =>
    cases h
    rfl

/-- **Operations do not see what lies below.** -/
theorem run_above {ops : List (StackOp α)} {stack after : List α} (h : run ops stack = some after)
    (below : List α) : run ops (stack ++ below) = some (after ++ below) := by
  induction ops generalizing stack with
  | nil =>
    cases h
    rfl
  | cons op ops ih =>
    rw [run_cons] at h ⊢
    obtain ⟨next, hnext, hrest⟩ := Option.bind_eq_some_iff.mp h
    rw [StackOp.apply_above hnext below, Option.bind_some]
    exact ih hrest

/-- **Balanced operations leave every stack as it was.** -/
theorem Balanced.run_eq {ops : List (StackOp α)} (h : Balanced ops) (stack : List α) :
    run ops stack = some stack := run_above h stack

end StackOps
