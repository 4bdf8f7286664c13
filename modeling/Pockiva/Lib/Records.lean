import Mathlib.Data.List.Basic
import Mathlib.Order.Lattice

/-! # Records of a list

An element is a record if its key exceeds a bound and every key before it.  The records have
increasing keys (`pairwise_records`), and the last one has the greatest key of the list
(`getLast?_records`): who keeps only records ends with the same element whatever the order
is.
-/
namespace Records

variable {α β : Type} [LinearOrder β] (key : α → β)

/-- The greatest key, or the bound. -/
def top (bound : β) (l : List α) : β := l.foldl (fun m a => max m (key a)) bound

def records (bound : β) : List α → List α
  | [] => []
  | a :: rest => if key a ≤ bound then records bound rest else a :: records (key a) rest

variable {key} {bound : β} {l : List α} {a b : α}

theorem top_cons : top key bound (a :: l) = top key (max bound (key a)) l := rfl

theorem top_snoc : top key bound (l ++ [a]) = max (top key bound l) (key a) :=
  List.foldl_append

theorem le_top : bound ≤ top key bound l := by
  induction l generalizing bound with
  | nil => exact le_rfl
  | cons b rest ih => exact (le_max_left _ _).trans ih

theorem key_le_top (h : a ∈ l) : key a ≤ top key bound l := by
  induction l generalizing bound with
  | nil => cases h
  | cons b rest ih =>
    rcases List.mem_cons.mp h with rfl | hrest
    · exact (le_max_right _ _).trans le_top
    · exact ih hrest

/-- The next element is kept if it is a record. -/
theorem records_snoc :
    records key bound (l ++ [a]) =
      records key bound l ++ if key a ≤ top key bound l then [] else [a] := by
  induction l generalizing bound with
  | nil =>
    unfold top
    by_cases hle : key a ≤ bound
    · simp [records, hle]
    · simp [records, hle]
  | cons b rest ih =>
    rw [List.cons_append, top_cons]
    unfold records
    by_cases hle : key b ≤ bound
    · rw [if_pos hle, if_pos hle, max_eq_left hle]
      exact ih
    · rw [if_neg hle, if_neg hle, max_eq_right (le_of_not_ge hle), List.cons_append, ih]

theorem mem_of_mem_records (h : a ∈ records key bound l) : a ∈ l := by
  induction l generalizing bound with
  | nil => exact h
  | cons b rest ih =>
    unfold records at h
    split at h
    · exact List.mem_cons_of_mem _ (ih h)
    · rcases List.mem_cons.mp h with rfl | hrest
      · exact List.mem_cons_self
      · exact List.mem_cons_of_mem _ (ih hrest)

theorem bound_lt_of_mem_records (h : a ∈ records key bound l) : bound < key a := by
  induction l generalizing bound with
  | nil => cases h
  | cons b rest ih =>
    unfold records at h
    split at h
    · exact ih h
    · rename_i hlt
      rcases List.mem_cons.mp h with rfl | hrest
      · exact lt_of_not_ge hlt
      · exact (lt_of_not_ge hlt).trans (ih hrest)

/-- **The keys of the records increase.** -/
theorem pairwise_records : (records key bound l).Pairwise fun a b => key a < key b := by
  induction l generalizing bound with
  | nil => exact .nil
  | cons b rest ih =>
    unfold records
    split
    · exact ih
    · exact .cons (fun a ha => bound_lt_of_mem_records ha) ih

/-- **The last record has the greatest key**; without one no key exceeds the bound. -/
theorem getLast?_records :
    ((records key bound l).getLast?.map key).getD bound = top key bound l := by
  induction l generalizing bound with
  | nil => rfl
  | cons b rest ih =>
    rw [top_cons]
    unfold records
    split
    · rename_i hle
      rw [max_eq_left hle]
      exact ih
    · rename_i hlt
      rw [max_eq_right (le_of_not_ge hlt), ← ih, List.getLast?_cons]
      cases (records key (key b) rest).getLast? <;> rfl

/-- The element with the greatest key is the last record. -/
theorem getLast?_of_greatest (ha : a ∈ l) (hlt : bound < key a) (hmax : ∀ b ∈ l, key b ≤ key a)
    (hinj : ∀ b ∈ l, key b = key a → b = a) : (records key bound l).getLast? = some a := by
  have hlast : ((records key bound l).getLast?.map key).getD bound = top key bound l :=
    getLast?_records
  cases hrec : (records key bound l).getLast? with
  | none =>
    rw [hrec] at hlast
    have hle : key a ≤ bound := (key_le_top ha).trans (le_of_eq hlast.symm)
    exact absurd hlt (not_lt.mpr hle)
  | some b =>
    rw [hrec] at hlast
    have hb : b ∈ l := mem_of_mem_records (List.mem_of_getLast? hrec)
    have htop : key a ≤ key b := (key_le_top ha).trans (le_of_eq hlast.symm)
    rw [hinj b hb ((hmax b hb).antisymm htop)]

end Records
