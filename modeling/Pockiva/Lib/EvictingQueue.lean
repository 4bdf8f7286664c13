import Mathlib.Data.List.Basic

/-! # A bounded queue that drops its oldest elements

A push into a full queue drops the oldest element and counts it.  Whatever was pushed
since the queue was last emptied, the queue holds the newest elements of it, in order
(`Holds.push`), and every element is either held or counted (`Holds.balance`).
-/

/-- A queue of at most `capacity` elements, oldest first. -/
structure EvictingQueue (α : Type) (capacity : Nat) where
  contents : List α
  dropped : Nat
  bounded : contents.length ≤ capacity

namespace EvictingQueue
variable {α : Type} {capacity : Nat}

/-- The last `n` elements of a list. -/
def newest (n : Nat) (l : List α) : List α := l.drop (l.length - n)

theorem length_newest (n : Nat) (l : List α) : (newest n l).length = min n l.length := by
  rw [newest, List.length_drop]
  omega

theorem newest_of_length_le {n : Nat} {l : List α} (h : l.length ≤ n) : newest n l = l := by
  have hnone : l.length - n = 0 := by omega
  rw [newest, hnone, List.drop_zero]

theorem newest_nil (n : Nat) : newest n ([] : List α) = [] := List.drop_nil

/-- One more element takes the place of the oldest one. -/
theorem newest_snoc {n : Nat} {l : List α} (h : n ≤ l.length) (hn : 0 < n) (x : α) :
    newest n (l ++ [x]) = (newest n l).tail ++ [x] := by
  have hnext : (l ++ [x]).length - n = l.length - n + 1 := by
    rw [List.length_append, List.length_singleton]
    omega
  rw [newest, hnext, newest, List.tail_drop, List.drop_append_of_le_length (by omega)]

def empty : EvictingQueue α capacity := ⟨[], 0, Nat.zero_le _⟩

/-- A push; the capacity is positive. -/
def push (hcapacity : 0 < capacity) (q : EvictingQueue α capacity) (x : α) :
    EvictingQueue α capacity :=
  if h : q.contents.length = capacity then
    ⟨q.contents.tail ++ [x], q.dropped + 1, by
      rw [List.length_append, List.length_tail, List.length_singleton]
      omega⟩
  else
    ⟨q.contents ++ [x], q.dropped, by
      have hbounded := q.bounded
      rw [List.length_append, List.length_singleton]
      omega⟩

/-- The elements leave; the count of the dropped ones stays. -/
def drain (q : EvictingQueue α capacity) : EvictingQueue α capacity :=
  ⟨[], q.dropped, Nat.zero_le _⟩

/-- The queue holds the newest elements of `pushed`, what was pushed since it was last
empty; it had dropped `before` elements then. -/
structure Holds (q : EvictingQueue α capacity) (before : Nat) (pushed : List α) : Prop where
  contents : q.contents = newest capacity pushed
  dropped : q.dropped = before + (pushed.length - capacity)

namespace Holds
variable {q : EvictingQueue α capacity} {before : Nat} {pushed : List α}

theorem empty : (EvictingQueue.empty : EvictingQueue α capacity).Holds 0 [] :=
  ⟨(newest_nil _).symm, by rw [List.length_nil, Nat.zero_sub]; rfl⟩

theorem drain : q.drain.Holds q.dropped [] :=
  ⟨(newest_nil _).symm, by rw [List.length_nil, Nat.zero_sub]; rfl⟩

/-- **A push keeps the newest elements**, in their order. -/
theorem push (hcapacity : 0 < capacity) (h : q.Holds before pushed) (x : α) :
    (q.push hcapacity x).Holds before (pushed ++ [x]) := by
  have hlength : q.contents.length = min capacity pushed.length := by
    rw [h.contents, length_newest]
  have hdropped := h.dropped
  unfold EvictingQueue.push
  by_cases hfull : q.contents.length = capacity
  · have hmany : capacity ≤ pushed.length := by omega
    rw [dif_pos hfull]
    refine ⟨?_, ?_⟩
    · rw [newest_snoc hmany hcapacity, ← h.contents]
    · show q.dropped + 1 = before + ((pushed ++ [x]).length - capacity)
      rw [List.length_append, List.length_singleton]
      omega
  · have hfew : pushed.length < capacity := by omega
    rw [dif_neg hfull]
    refine ⟨?_, ?_⟩
    · have hall : (pushed ++ [x]).length ≤ capacity := by
        rw [List.length_append, List.length_singleton]
        omega
      have hheld : q.contents = pushed := by
        rw [h.contents, newest_of_length_le (Nat.le_of_lt hfew)]
      show q.contents ++ [x] = newest capacity (pushed ++ [x])
      rw [newest_of_length_le hall, hheld]
    · show q.dropped = before + ((pushed ++ [x]).length - capacity)
      rw [List.length_append, List.length_singleton]
      omega

/-- Pushes one after the other. -/
theorem pushes (hcapacity : 0 < capacity) (h : q.Holds before pushed) (xs : List α) :
    (xs.foldl (EvictingQueue.push hcapacity) q).Holds before (pushed ++ xs) := by
  induction xs generalizing q pushed with
  | nil => rwa [List.append_nil]
  | cons x xs ih =>
    have hrest := ih (h.push hcapacity x)
    rwa [List.append_assoc] at hrest

/-- **Every element is held or counted.** -/
theorem balance (h : q.Holds before pushed) :
    q.contents.length + q.dropped = before + pushed.length := by
  have hlength : q.contents.length = min capacity pushed.length := by
    rw [h.contents, length_newest]
  have hdropped := h.dropped
  omega

end Holds

end EvictingQueue
