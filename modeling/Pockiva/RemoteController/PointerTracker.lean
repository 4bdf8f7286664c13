import Mathlib.Data.List.AList
import Mathlib.Data.Finset.SDiff
import Pockiva.Lib.SetDelta
import Pockiva.RemoteController.Session

/-! # The pointers on the controller's page

Fingers and other pointers own buttons.  The tracker keeps the buttons of each pointer and
says how the buttons that are pressed change.  What it stands for is who owns what
(`Ownership`): `pressedButtons_iff` says that a button is pressed as long as a pointer owns
it.
-/
namespace Pockiva

/-- A button that is pressed or released: its button and whether it is pressed. -/
abbrev ButtonTransition := Network.Button × Bool

/-- `PointerButtonTracker`: the buttons of each pointer that has some. -/
structure PointerButtonTracker (Pointer : Type) where
  pointers : AList fun _ : Pointer => Finset Network.Button

namespace PointerButtonTracker
variable {Pointer : Type}

def new : PointerButtonTracker Pointer := ⟨∅⟩

def pressedButtons (tracker : PointerButtonTracker Pointer) : List Network.Button :=
  buttonOrder.filter fun button => tracker.pointers.entries.any fun entry => button ∈ entry.2

def transitions (before after : Finset Network.Button) : List ButtonTransition :=
  buttonOrder.flatMap fun button =>
    if decide (button ∈ before) = decide (button ∈ after) then []
    else [(button, decide (button ∈ after))]

/-- The transitions to another state of the tracker, and that state. -/
def changeTo (before after : PointerButtonTracker Pointer) :
    List ButtonTransition × PointerButtonTracker Pointer :=
  (transitions before.pressedButtons.toFinset after.pressedButtons.toFinset, after)

variable [DecidableEq Pointer]

/-- A pointer without buttons has no entry. -/
def assign (tracker : PointerButtonTracker Pointer) (pointerId : Pointer)
    (buttons : Finset Network.Button) : PointerButtonTracker Pointer :=
  if buttons = ∅ then ⟨tracker.pointers.erase pointerId⟩
  else ⟨tracker.pointers.insert pointerId buttons⟩

def set (tracker : PointerButtonTracker Pointer) (pointerId : Pointer)
    (buttons : List Network.Button) : List ButtonTransition × PointerButtonTracker Pointer :=
  tracker.changeTo (tracker.assign pointerId buttons.toFinset)

def press (tracker : PointerButtonTracker Pointer) (pointerId : Pointer) (button : Network.Button) :
    List ButtonTransition × PointerButtonTracker Pointer :=
  tracker.set pointerId [button]

def release (tracker : PointerButtonTracker Pointer) (pointerId : Pointer) :
    List ButtonTransition × PointerButtonTracker Pointer :=
  tracker.set pointerId []

/-- The loop of `releaseButtons` over the entries. -/
def retain (removed : Finset Network.Button) (tracker : PointerButtonTracker Pointer)
    (entries : List (Σ _ : Pointer, Finset Network.Button)) : PointerButtonTracker Pointer :=
  entries.foldl (fun tracker entry => tracker.assign entry.1 (entry.2 \ removed)) tracker

def releaseButtons (tracker : PointerButtonTracker Pointer) (buttons : List Network.Button) :
    List ButtonTransition × PointerButtonTracker Pointer :=
  tracker.changeTo (tracker.retain buttons.toFinset tracker.pointers.entries)

def clear (tracker : PointerButtonTracker Pointer) :
    List Network.Button × PointerButtonTracker Pointer := (tracker.pressedButtons, new)

/-- What is called. -/
inductive Call (Pointer : Type) where
  | set (pointerId : Pointer) (buttons : List Network.Button)
  | press (pointerId : Pointer) (button : Network.Button)
  | release (pointerId : Pointer)
  | releaseButtons (buttons : List Network.Button)
  | clear

/-- What a call has the page tell the session: transitions, or the buttons there are. -/
inductive Emitted where
  | transitions (changes : List ButtonTransition)
  | sync (buttons : List Network.Button)

/-- A call, and what comes of it. -/
def run (tracker : PointerButtonTracker Pointer) :
    Call Pointer → Emitted × PointerButtonTracker Pointer
  | .set pointerId buttons => (tracker.set pointerId buttons).map .transitions id
  | .press pointerId button => (tracker.press pointerId button).map .transitions id
  | .release pointerId => (tracker.release pointerId).map .transitions id
  | .releaseButtons buttons => (tracker.releaseButtons buttons).map .transitions id
  | .clear => (.sync [], tracker.clear.2)

/-- The buttons held after what a call emits, by one who held `held`. -/
def Emitted.replay (held : Finset Network.Button) : Emitted → Finset Network.Button
  | .transitions changes => SetDelta.replay held changes
  | .sync buttons => buttons.toFinset

end PointerButtonTracker

/-! ## Who owns what -/

/-- The buttons each pointer owns. -/
abbrev Ownership (Pointer : Type) : Type := Pointer → Finset Network.Button

namespace Ownership
variable {Pointer : Type}

def nobody : Ownership Pointer := fun _ => ∅

/-- A pointer owns the button. -/
def Owned (o : Ownership Pointer) (button : Network.Button) : Prop := ∃ pointer, button ∈ o pointer

/-- The owners after a call. -/
def after [DecidableEq Pointer] (o : Ownership Pointer) :
    PointerButtonTracker.Call Pointer → Ownership Pointer
  | .set pointerId buttons => Function.update o pointerId buttons.toFinset
  | .press pointerId button => Function.update o pointerId {button}
  | .release pointerId => Function.update o pointerId ∅
  | .releaseButtons buttons => fun pointer => o pointer \ buttons.toFinset
  | .clear => nobody

end Ownership

namespace PointerButtonTracker
variable {Pointer : Type} [DecidableEq Pointer]

/-- The buttons a pointer has in the tracker. -/
def owned (tracker : PointerButtonTracker Pointer) : Ownership Pointer :=
  fun pointer => (tracker.pointers.lookup pointer).getD ∅

variable {tracker : PointerButtonTracker Pointer}

theorem mem_owned {pointer : Pointer} {button : Network.Button} :
    button ∈ tracker.owned pointer ↔
      ∃ buttons, ⟨pointer, buttons⟩ ∈ tracker.pointers.entries ∧ button ∈ buttons := by
  unfold owned
  constructor
  · intro h
    cases hlookup : tracker.pointers.lookup pointer with
    | none =>
      rw [hlookup] at h
      exact absurd h (Finset.notMem_empty button)
    | some buttons =>
      rw [hlookup] at h
      exact ⟨buttons, AList.mem_lookup_iff.mp hlookup, h⟩
  · rintro ⟨buttons, hentry, h⟩
    rw [AList.mem_lookup_iff.mpr hentry]
    exact h

/-- **A button is pressed as long as a pointer owns it.** -/
theorem pressedButtons_iff (button : Network.Button) :
    button ∈ tracker.pressedButtons ↔ tracker.owned.Owned button := by
  unfold pressedButtons Ownership.Owned
  rw [List.mem_filter, List.any_eq_true]
  constructor
  · rintro ⟨-, ⟨pointer, buttons⟩, hentry, h⟩
    exact ⟨pointer, mem_owned.mpr ⟨buttons, hentry, of_decide_eq_true h⟩⟩
  · rintro ⟨pointer, h⟩
    obtain ⟨buttons, hentry, hbutton⟩ := mem_owned.mp h
    exact ⟨mem_buttonOrder button, ⟨pointer, buttons⟩, hentry, decide_eq_true hbutton⟩

theorem owned_new : (new : PointerButtonTracker Pointer).owned = Ownership.nobody := rfl

/-! ## The tracker keeps the owners -/

theorem owned_assign (tracker : PointerButtonTracker Pointer) (pointerId : Pointer)
    (buttons : Finset Network.Button) :
    (tracker.assign pointerId buttons).owned = Function.update tracker.owned pointerId buttons := by
  funext pointer
  unfold assign owned
  by_cases hpointer : pointer = pointerId
  · rw [hpointer, Function.update_self]
    split
    · next hempty => rw [AList.lookup_erase, hempty, Option.getD_none]
    · rw [AList.lookup_insert, Option.getD_some]
  · rw [Function.update_of_ne hpointer]
    split
    · rw [AList.lookup_erase_ne hpointer]
    · rw [AList.lookup_insert_ne hpointer]

/-- The loop over the entries takes the buttons from every pointer that has an entry. -/
theorem owned_retain (removed : Finset Network.Button)
    {entries : List (Σ _ : Pointer, Finset Network.Button)} (hkeys : entries.NodupKeys)
    {tracker : PointerButtonTracker Pointer}
    (h : ∀ entry ∈ entries, tracker.owned entry.1 = entry.2) (pointer : Pointer) :
    (tracker.retain removed entries).owned pointer =
      if pointer ∈ entries.keys then tracker.owned pointer \ removed
      else tracker.owned pointer := by
  induction entries generalizing tracker with
  | nil => rw [List.keys_nil, if_neg List.not_mem_nil]; rfl
  | cons entry entries ih =>
    obtain ⟨hfresh, hkeys⟩ := List.nodupKeys_cons.mp hkeys
    have hhead := h entry List.mem_cons_self
    have hassign := owned_assign tracker entry.1 (entry.2 \ removed)
    have htail : ∀ other ∈ entries,
        (tracker.assign entry.1 (entry.2 \ removed)).owned other.1 = other.2 := by
      intro other hother
      have hne : other.1 ≠ entry.1 := fun heq => hfresh (heq ▸ List.mem_keys_of_mem hother)
      rw [hassign, Function.update_of_ne hne]
      exact h other (List.mem_cons_of_mem _ hother)
    rw [show tracker.retain removed (entry :: entries) =
      (tracker.assign entry.1 (entry.2 \ removed)).retain removed entries from rfl,
      ih hkeys htail, hassign, List.keys_cons]
    by_cases hpointer : pointer = entry.1
    · rw [hpointer, if_neg hfresh, Function.update_self, if_pos List.mem_cons_self, hhead]
    · rw [Function.update_of_ne hpointer]
      simp only [List.mem_cons, hpointer, false_or]

theorem owned_releaseButtons (tracker : PointerButtonTracker Pointer)
    (removed : Finset Network.Button) :
    (tracker.retain removed tracker.pointers.entries).owned =
      fun pointer => tracker.owned pointer \ removed := by
  have hentries : ∀ entry ∈ tracker.pointers.entries, tracker.owned entry.1 = entry.2 := by
    intro entry hentry
    unfold owned
    rw [AList.mem_lookup_iff.mpr hentry]
    rfl
  funext pointer
  rw [owned_retain removed tracker.pointers.nodupKeys hentries]
  split
  · rfl
  · next habsent =>
    have hnone : tracker.pointers.lookup pointer = none := AList.lookup_eq_none.mpr habsent
    unfold owned
    rw [hnone]
    exact (Finset.empty_sdiff removed).symm

/-- **The tracker has what the pointers own.** -/
theorem owned_run (tracker : PointerButtonTracker Pointer) (call : Call Pointer) :
    (tracker.run call).2.owned = tracker.owned.after call := by
  cases call with
  | set pointerId buttons => exact owned_assign tracker pointerId buttons.toFinset
  | press pointerId button => exact owned_assign tracker pointerId {button}
  | release pointerId => exact owned_assign tracker pointerId ∅
  | releaseButtons buttons => exact owned_releaseButtons tracker buttons.toFinset
  | clear => exact owned_new

/-! ## What the calls emit -/

theorem nodup_buttonOrder : buttonOrder.Nodup := by decide

/-- A call emits the way to the buttons that are pressed after it. -/
theorem run_eq (tracker : PointerButtonTracker Pointer) (call : Call Pointer) :
    (call = .clear ∧ tracker.run call = (.sync [], new)) ∨
    (call ≠ .clear ∧ (tracker.run call).1 = .transitions (SetDelta.changes buttonOrder
      tracker.pressedButtons.toFinset (tracker.run call).2.pressedButtons.toFinset)) := by
  cases call with
  | clear => exact .inl ⟨rfl, rfl⟩
  | _ => exact .inr ⟨nofun, rfl⟩

/-- **What a call emits leads from the buttons pressed before to those pressed after.** -/
theorem replay_run (tracker : PointerButtonTracker Pointer) (call : Call Pointer) :
    (tracker.run call).1.replay tracker.pressedButtons.toFinset =
      (tracker.run call).2.pressedButtons.toFinset := by
  obtain ⟨-, h⟩ | ⟨-, h⟩ := tracker.run_eq call
  · rw [h]
    rfl
  · rw [h]
    exact SetDelta.replay_changes nodup_buttonOrder mem_buttonOrder

end PointerButtonTracker

end Pockiva
