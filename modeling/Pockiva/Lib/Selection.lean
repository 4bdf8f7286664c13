import Mathlib.Data.List.Basic

/-! # First matches

What the first match in a sorted list is, and which elements are among the first `k`
matches of a range.
-/
namespace Pockiva
variable {α : Type}

/-- The first match in a sorted list is a least match. -/
theorem find?_mergeSort {le : α → α → Bool}
    (htrans : ∀ a b c, le a b = true → le b c = true → le a c = true)
    (htotal : ∀ a b, (le a b || le b a) = true) {l : List α} {p : α → Bool} {a : α}
    (h : (l.mergeSort le).find? p = some a) :
    a ∈ l ∧ p a = true ∧ ∀ b ∈ l, p b = true → b = a ∨ le a b = true := by
  obtain ⟨hp, before, after, hsplit, hbefore⟩ := List.find?_eq_some_iff_append.mp h
  have hsorted := List.pairwise_mergeSort htrans htotal l
  rw [hsplit] at hsorted
  have hmem : a ∈ l.mergeSort le := by
    rw [hsplit]
    exact List.mem_append_right _ List.mem_cons_self
  refine ⟨List.mem_mergeSort.mp hmem, hp, fun b hb hpb => ?_⟩
  have hb : b ∈ l.mergeSort le := List.mem_mergeSort.mpr hb
  rw [hsplit] at hb
  rcases List.mem_append.mp hb with hb | hb
  · exact absurd hpb (by simpa using hbefore b hb)
  · rcases List.mem_cons.mp hb with hb | hb
    · exact .inl hb
    · exact .inr (List.rel_of_pairwise_cons (List.pairwise_append.mp hsorted).2.1 hb)

/-- A match is among the first `k` if fewer than `k` come before it. -/
theorem mem_take_filter_range {n k i : Nat} {p : Nat → Bool} :
    i ∈ ((List.range n).filter p).take k ↔
      i < n ∧ p i = true ∧ (List.range i).countP p < k := by
  induction n with
  | zero => simp
  | succ n ih =>
    rw [List.range_succ, List.filter_append, List.take_append, List.mem_append, ih,
      ← List.countP_eq_length_filter]
    constructor
    · rintro (⟨hlt, hp, hcount⟩ | hmem)
      · exact ⟨Nat.lt_succ_of_lt hlt, hp, hcount⟩
      · have hsingle := List.mem_of_mem_take hmem
        obtain ⟨heq, hp⟩ := List.mem_filter.mp hsingle
        obtain rfl := List.mem_singleton.mp heq
        refine ⟨Nat.lt_succ_self _, hp, ?_⟩
        by_contra hle
        rw [Nat.sub_eq_zero_of_le (Nat.le_of_not_lt hle), List.take_zero] at hmem
        exact absurd hmem List.not_mem_nil
    · rintro ⟨hlt, hp, hcount⟩
      rcases Nat.lt_or_eq_of_le (Nat.le_of_lt_succ hlt) with hlt | rfl
      · exact .inl ⟨hlt, hp, hcount⟩
      · refine .inr ?_
        have hfilter : [i].filter p = [i] := List.filter_cons_of_pos hp
        rw [hfilter]
        have hpos : 0 < k - (List.range i).countP p := Nat.sub_pos_of_lt hcount
        rw [List.take_of_length_le (by rw [List.length_singleton]; exact hpos)]
        exact List.mem_singleton_self i

end Pockiva
