import Mathlib.Data.List.Basic

/-! # Calls that are made one after the other

Calls wait in a line; the first of the line is made when the one before it has settled.
However the steps follow each other, the calls are made in the order they were lined up,
each of them once, and only the last that was made can be under way (`Orderly`).
-/

/-- The calls that wait, oldest first, the one under way, and all that were made. -/
structure SerialCalls (α : Type) where
  waiting : List α
  running : Option α
  made : List α

namespace SerialCalls
variable {α : Type}

def idle : SerialCalls α := ⟨[], none, []⟩

/-- All calls that were lined up. -/
def all (c : SerialCalls α) : List α := c.made ++ c.waiting

def enqueue (c : SerialCalls α) (call : α) : SerialCalls α :=
  { c with waiting := c.waiting ++ [call] }

/-- The next call is made, if none is under way. -/
def begin (c : SerialCalls α) : Option (SerialCalls α) :=
  match c.running, c.waiting with
  | none, call :: waiting => some ⟨waiting, some call, c.made ++ [call]⟩
  | _, _ => none

/-- The call that is under way settles. -/
def settle (c : SerialCalls α) : Option (SerialCalls α) :=
  c.running.map fun _ => { c with running := none }

variable {c d : SerialCalls α}

@[simp] theorem all_enqueue (c : SerialCalls α) (call : α) :
    (c.enqueue call).all = c.all ++ [call] :=
  (List.append_assoc _ _ _).symm

/-- What making the next call does. -/
theorem begin_eq_some (h : c.begin = some d) : ∃ call,
    c.running = none ∧ d.running = some call ∧ c.waiting = call :: d.waiting ∧
      d.made = c.made ++ [call] := by
  unfold begin at h
  split at h
  · next call waiting hrunning hwaiting =>
    cases h
    exact ⟨call, hrunning, rfl, hwaiting, rfl⟩
  · cases h

theorem settle_eq_some (h : c.settle = some d) :
    c.running.isSome = true ∧ d = { c with running := none } := by
  obtain ⟨call, hrunning, rfl⟩ := Option.map_eq_some_iff.mp h
  exact ⟨by simp [hrunning], rfl⟩

theorem all_begin (h : c.begin = some d) : d.all = c.all := by
  obtain ⟨call, -, -, hwaiting, hmade⟩ := begin_eq_some h
  simp [all, hwaiting, hmade]

theorem all_settle (h : c.settle = some d) : d.all = c.all := by
  obtain ⟨-, rfl⟩ := settle_eq_some h
  rfl

/-- The call under way is the last one that was made. -/
def Orderly (c : SerialCalls α) : Prop :=
  ∀ call, c.running = some call → c.made.getLast? = some call

namespace Orderly

theorem idle : (SerialCalls.idle : SerialCalls α).Orderly := nofun

theorem begin (h : c.begin = some d) : d.Orderly := by
  obtain ⟨call, -, hrunning, -, hmade⟩ := begin_eq_some h
  intro other hother
  rw [hmade, List.getLast?_concat]
  exact hrunning.symm.trans hother

theorem settle (h : c.settle = some d) : d.Orderly := by
  obtain ⟨-, rfl⟩ := settle_eq_some h
  exact nofun

end Orderly

/-- Nothing waits. -/
theorem all_of_drained (h : c.waiting = []) : c.all = c.made := by
  rw [all, h, List.append_nil]

end SerialCalls
