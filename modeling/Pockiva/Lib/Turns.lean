import Mathlib.Data.List.Nodup

/-! # Owners that take turns

Owners enter one after the other, act and leave, and each enters once.  The log of
their actions is a concatenation of complete turns and at most one open turn
(`Taken.exists_turns`).
-/
namespace Turns

variable {ι ε : Type}

inductive Action (ε : Type) where
  | enter
  | act (e : ε)
  | leave

/-- The log of turns, with the owner of the open turn and its actions so far. -/
inductive Taken (Complete : List ε → Prop) :
    List (ι × Action ε) → Option (ι × List ε) → Prop where
  | nil : Taken Complete [] none
  | enter {log : List (ι × Action ε)} {i : ι} (h : Taken Complete log none)
      (hfresh : ∀ a, (i, a) ∉ log) : Taken Complete (log ++ [(i, .enter)]) (some (i, []))
  | act {log : List (ι × Action ε)} {i : ι} {acts : List ε} {e : ε}
      (h : Taken Complete log (some (i, acts))) :
      Taken Complete (log ++ [(i, .act e)]) (some (i, acts ++ [e]))
  | leave {log : List (ι × Action ε)} {i : ι} {acts : List ε}
      (h : Taken Complete log (some (i, acts))) (hcomplete : Complete acts) :
      Taken Complete (log ++ [(i, .leave)]) none

/-- The acts of an owner's turn, if it is the open one. -/
def heldBy [DecidableEq ι] (current : Option (ι × List ε)) (i : ι) : Option (List ε) :=
  (current.filter fun turn => turn.1 = i).map Prod.snd

/-- The open turn after an owner's action. -/
def after (current : Option (ι × List ε)) (i : ι) : Option (Action ε) → Option (ι × List ε)
  | none => current
  | some .enter => some (i, [])
  | some (.act e) => current.map fun turn => (turn.1, turn.2 ++ [e])
  | some .leave => none

/-- Owners enter when no turn is open, and act and leave in their own turn only. -/
def InTurn (Complete : List ε → Prop) (claimed : Bool) (held : Option (List ε)) :
    Option (Action ε) → Option (List ε) → Prop
  | none, held' => held' = held
  | some .enter, held' => claimed = false ∧ held = none ∧ held' = some []
  | some (.act e), held' => ∃ acts, held = some acts ∧ held' = some (acts ++ [e])
  | some .leave, held' => ∃ acts, held = some acts ∧ Complete acts ∧ held' = none

/-- The act an owner's action is. -/
def actOf : ι × Action ε → Option (ι × ε)
  | (i, .act e) => some (i, e)
  | _ => none

/-- What the owners did, without their coming and going. -/
def acts (log : List (ι × Action ε)) : List (ι × ε) :=
  log.filterMap actOf

/-- The acts of one turn. -/
def ofTurn (turn : ι × List ε) : List (ι × ε) :=
  turn.2.map fun e => (turn.1, e)

/-- The acts of a turn that may not have begun. -/
def ofOpen (turn : Option (ι × List ε)) : List (ι × ε) :=
  turn.toList.flatMap ofTurn

@[simp] theorem ofOpen_none : ofOpen (none : Option (ι × List ε)) = [] := rfl

@[simp] theorem ofOpen_some (turn : ι × List ε) : ofOpen (some turn) = ofTurn turn :=
  List.flatMap_singleton ofTurn turn

@[simp] theorem acts_enter (log : List (ι × Action ε)) (i : ι) :
    acts (log ++ [(i, .enter)]) = acts log := by
  unfold acts
  rw [List.filterMap_append]
  exact List.append_nil _

@[simp] theorem acts_act (log : List (ι × Action ε)) (i : ι) (e : ε) :
    acts (log ++ [(i, .act e)]) = acts log ++ [(i, e)] := by
  unfold acts
  rw [List.filterMap_append]
  rfl

@[simp] theorem acts_leave (log : List (ι × Action ε)) (i : ι) :
    acts (log ++ [(i, .leave)]) = acts log := by
  unfold acts
  rw [List.filterMap_append]
  exact List.append_nil _

theorem ofTurn_snoc (i : ι) (acts : List ε) (e : ε) :
    ofTurn (i, acts ++ [e]) = ofTurn (i, acts) ++ [(i, e)] := by
  unfold ofTurn
  rw [List.map_append]
  rfl

section HeldBy
variable [DecidableEq ι]

@[simp] theorem heldBy_self (i : ι) (acts : List ε) : heldBy (some (i, acts)) i = some acts := by
  simp [heldBy]

theorem heldBy_other {i j : ι} (hne : j ≠ i) (acts : List ε) :
    heldBy (some (i, acts)) j = none := by
  simp [heldBy, hne.symm]

theorem eq_of_heldBy {current : Option (ι × List ε)} {i : ι} {acts : List ε}
    (h : heldBy current i = some acts) : current = some (i, acts) := by
  cases current with
  | none => cases h
  | some turn =>
    obtain ⟨j, own⟩ := turn
    by_cases hj : j = i
    · subst hj
      rw [heldBy_self] at h
      cases h
      rfl
    · rw [heldBy_other (Ne.symm hj)] at h
      cases h

end HeldBy

namespace Taken
variable {Complete : List ε → Prop} {log : List (ι × Action ε)} {current : Option (ι × List ε)}

/-- **The log is a concatenation of complete turns and the open one, of as many owners.** -/
theorem exists_turns (h : Taken Complete log current) :
    ∃ turns : List (ι × List ε),
      acts log = turns.flatMap ofTurn ++ ofOpen current ∧
      (∀ turn ∈ turns, Complete turn.2) ∧
      ((turns ++ current.toList).map Prod.fst).Nodup ∧
      ∀ turn ∈ turns ++ current.toList, ∃ a, (turn.1, a) ∈ log := by
  induction h with
  | nil => exact ⟨[], rfl, by simp, List.nodup_nil, by simp⟩
  | @enter log i _ hfresh ih =>
    obtain ⟨turns, hacts, hcomplete, hnodup, hlogged⟩ := ih
    have hnew : i ∉ turns.map Prod.fst := by
      intro hmem
      obtain ⟨turn, hturn, rfl⟩ := List.mem_map.mp hmem
      obtain ⟨a, ha⟩ := hlogged turn (List.mem_append_left _ hturn)
      exact hfresh a ha
    refine ⟨turns, ?_, hcomplete, ?_, ?_⟩
    · rw [acts_enter, hacts]
      rfl
    · rw [Option.toList_none, List.append_nil] at hnodup
      rw [Option.toList_some, List.map_append, List.map_singleton]
      exact hnodup.append (List.nodup_singleton i) (List.disjoint_singleton.mpr hnew)
    · intro turn hturn
      rcases List.mem_append.mp hturn with hold | hopen
      · obtain ⟨a, ha⟩ := hlogged turn (List.mem_append_left _ hold)
        exact ⟨a, List.mem_append_left _ ha⟩
      · obtain rfl := List.mem_singleton.mp hopen
        exact ⟨.enter, List.mem_append_right _ (List.mem_singleton_self _)⟩
  | @act log i acts e _ ih =>
    obtain ⟨turns, hacts, hcomplete, hnodup, hlogged⟩ := ih
    refine ⟨turns, ?_, hcomplete, ?_, ?_⟩
    · rw [acts_act, hacts, ofOpen_some, ofOpen_some, ofTurn_snoc, List.append_assoc]
    · rw [Option.toList_some, List.map_append] at hnodup ⊢
      exact hnodup
    · intro turn hturn
      rcases List.mem_append.mp hturn with hold | hopen
      · obtain ⟨a, ha⟩ := hlogged turn (List.mem_append_left _ hold)
        exact ⟨a, List.mem_append_left _ ha⟩
      · obtain rfl := List.mem_singleton.mp hopen
        exact ⟨.act e, List.mem_append_right _ (List.mem_singleton_self _)⟩
  | @leave log i acts _ hdone ih =>
    obtain ⟨turns, hacts, hcomplete, hnodup, hlogged⟩ := ih
    refine ⟨turns ++ [(i, acts)], ?_, ?_, ?_, ?_⟩
    · rw [acts_leave, hacts, List.flatMap_append, ofOpen_some, ofOpen_none, List.append_nil,
        List.flatMap_singleton]
    · intro turn hturn
      rcases List.mem_append.mp hturn with hold | hlast
      · exact hcomplete turn hold
      · obtain rfl := List.mem_singleton.mp hlast
        exact hdone
    · rw [Option.toList_none, List.append_nil]
      exact hnodup
    · intro turn hturn
      rw [Option.toList_none, List.append_nil] at hturn
      obtain ⟨a, ha⟩ := hlogged turn hturn
      exact ⟨a, List.mem_append_left _ ha⟩

/-- **An action in turn continues the turns**: the owner holds what the action leaves it,
and nobody else holds anything else than before. -/
theorem step [DecidableEq ι] (h : Taken Complete log current) {i : ι} {held' : Option (List ε)}
    {action : Option (Action ε)}
    (hturn : InTurn Complete current.isSome (heldBy current i) action held')
    (hfresh : action = some .enter → ∀ a, (i, a) ∉ log) :
    Taken Complete (log ++ action.toList.map (i, ·)) (after current i action) ∧
      heldBy (after current i action) i = held' ∧
      ∀ j, j ≠ i → heldBy (after current i action) j = heldBy current j := by
  match action, hturn with
  | none, hheld =>
    refine ⟨?_, hheld.symm, fun _ _ => rfl⟩
    rw [Option.toList_none, List.map_nil, List.append_nil]
    exact h
  | some .enter, ⟨hclaimed, _, hheld⟩ =>
    obtain rfl := Option.isNone_iff_eq_none.mp (Option.isSome_eq_false_iff.mp hclaimed)
    refine ⟨h.enter (hfresh rfl), ?_, fun j hj => heldBy_other hj []⟩
    rw [hheld]
    exact heldBy_self i []
  | some (.act e), ⟨own, hown, hheld⟩ =>
    obtain rfl := eq_of_heldBy hown
    refine ⟨h.act, ?_, ?_⟩
    · rw [hheld]
      exact heldBy_self i _
    · intro j hj
      rw [heldBy_other hj own]
      exact heldBy_other hj _
  | some .leave, ⟨own, hown, hcomplete, hheld⟩ =>
    obtain rfl := eq_of_heldBy hown
    refine ⟨h.leave hcomplete, hheld.symm, ?_⟩
    intro j hj
    rw [heldBy_other hj own]
    rfl

end Taken

end Turns
