import Mathlib.Data.Finset.Erase
import Mathlib.Data.Finset.Insert

/-! # The changes from one finite set to another

The changes between two sets are listed along an order of their elements, each with
whether the element comes or goes.  Replayed over the first set they give the second,
and each of them changes the set it is applied to.
-/
namespace SetDelta
variable {α : Type} [DecidableEq α]

/-- The elements of `order` that only one of the sets has, and whether that is `after`. -/
def changes (order : List α) (before after : Finset α) : List (α × Bool) :=
  order.flatMap fun a =>
    if decide (a ∈ before) = decide (a ∈ after) then [] else [(a, decide (a ∈ after))]

/-- The set after one change. -/
def apply (held : Finset α) (change : α × Bool) : Finset α :=
  if change.2 then insert change.1 held else held.erase change.1

/-- The set after some changes, in their order. -/
def replay (held : Finset α) (changes : List (α × Bool)) : Finset α := changes.foldl apply held

/-- Every change of the list changes the set it meets. -/
def Effective (held : Finset α) (changes : List (α × Bool)) : Prop :=
  ∀ done change rest, changes = done ++ change :: rest →
    (change.1 ∈ replay held done ↔ change.2 = false)

variable {order : List α} {before after held : Finset α}

theorem mem_changes {change : α × Bool} : change ∈ changes order before after ↔
    change.1 ∈ order ∧ change.2 = decide (change.1 ∈ after) ∧
      ¬ (change.1 ∈ before ↔ change.1 ∈ after) := by
  obtain ⟨a, present⟩ := change
  unfold changes
  rw [List.mem_flatMap]
  constructor
  · rintro ⟨b, hb, hmem⟩
    split at hmem
    · cases hmem
    · next hne =>
      rw [List.mem_singleton] at hmem
      cases hmem
      exact ⟨hb, rfl, fun h => hne (decide_eq_decide.mpr h)⟩
  · rintro ⟨ha, hpresent, hne⟩
    refine ⟨a, ha, ?_⟩
    rw [if_neg fun h => hne (decide_eq_decide.mp h), List.mem_singleton]
    exact Prod.ext rfl hpresent

/-- An element goes if the first set has it and the second does not. -/
theorem mem_changes_false {a : α} (ha : a ∈ order) :
    (a, false) ∈ changes order before after ↔ a ∈ before ∧ a ∉ after := by
  rw [mem_changes]
  by_cases hbefore : a ∈ before <;> by_cases hafter : a ∈ after <;> simp [ha, hbefore, hafter]

theorem mem_apply {change : α × Bool} {b : α} : b ∈ apply held change ↔
    if b = change.1 then change.2 = true else b ∈ held := by
  unfold apply
  split <;> split <;> simp_all

/-- Every element of the order is listed at most once. -/
theorem nodup_changes (horder : order.Nodup) :
    ((changes order before after).map Prod.fst).Nodup := by
  have hfirsts : (changes order before after).map Prod.fst =
      order.filter fun a => decide (decide (a ∈ before) ≠ decide (a ∈ after)) := by
    unfold changes
    rw [List.map_flatMap]
    induction order with
    | nil => rfl
    | cons a order ih =>
      rw [List.flatMap_cons, List.filter_cons, ih (List.nodup_cons.mp horder).2]
      by_cases h : decide (a ∈ before) = decide (a ∈ after)
      · rw [if_pos h, if_neg (by rw [decide_eq_true_eq]; exact not_not_intro h)]
        rfl
      · rw [if_neg h, if_pos (decide_eq_true h)]
        rfl
  rw [hfirsts]
  exact horder.filter _

/-- An element is there in the end if it came, or was there and did not go. -/
theorem mem_replay {l : List (α × Bool)} (h : (l.map Prod.fst).Nodup) (b : α) :
    b ∈ replay held l ↔ (b, true) ∈ l ∨ b ∈ held ∧ (b, false) ∉ l := by
  induction l generalizing held with
  | nil => simp [replay]
  | cons change l ih =>
    obtain ⟨a, present⟩ := change
    rw [List.map_cons, List.nodup_cons] at h
    obtain ⟨ha, h⟩ := h
    rw [show replay held ((a, present) :: l) = replay (apply held (a, present)) l from rfl, ih h,
      mem_apply]
    by_cases hb : b = a
    · -- the rest of the list says nothing about this element
      subst hb
      have habsent : ∀ p : Bool, (b, p) ∉ l := fun p hp => ha (List.mem_map.mpr ⟨(b, p), hp, rfl⟩)
      cases present <;> simp [habsent]
    · simp [hb]

/-- **Replayed, the changes from one set to another lead there.** -/
theorem replay_changes (horder : order.Nodup) (hall : ∀ a, a ∈ order) :
    replay before (changes order before after) = after := by
  ext b
  rw [mem_replay (nodup_changes horder), mem_changes, mem_changes]
  by_cases hbefore : b ∈ before <;> by_cases hafter : b ∈ after <;>
    simp [hall b, hbefore, hafter]

/-- **No change is made twice or in vain.** -/
theorem effective_changes (horder : order.Nodup) :
    Effective before (changes order before after) := by
  intro done change rest heq
  have hmem : change ∈ changes order before after := by
    rw [heq]
    exact List.mem_append_right _ List.mem_cons_self
  obtain ⟨-, hpresent, hne⟩ := mem_changes.mp hmem
  have hnodup : ((changes order before after).map Prod.fst).Nodup := nodup_changes horder
  rw [heq, List.map_append, List.map_cons] at hnodup
  obtain ⟨hdone, -, hdisjoint⟩ := List.nodup_append.mp hnodup
  -- nothing before this change was about its element
  have habsent : ∀ p : Bool, (change.1, p) ∉ done := fun p hp =>
    hdisjoint _ (List.mem_map_of_mem hp) _ List.mem_cons_self rfl
  rw [mem_replay hdone, hpresent]
  by_cases hbefore : change.1 ∈ before <;> by_cases hafter : change.1 ∈ after <;>
    simp_all

end SetDelta
