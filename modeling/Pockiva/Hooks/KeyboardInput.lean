import Pockiva.Contracts
import Pockiva.Lib.SerialCalls
import Pockiva.Lib.Since
import Pockiva.Lib.Transition
import Mathlib.Data.Finset.Erase
import Mathlib.Data.Finset.Insert
import Mathlib.Data.List.Chain

/-! # The keyboard of the desktop page

`useKeyboardInput` turns keys that go down and up into calls of `setKeyboardInput`, each with
all buttons that are pressed.  The calls are chained, so that one is made when the one before
has settled.  `keyboard_input` states that no order of keys, renders and answers leaves a
button pressed whose key is up, and that the call that was made last is about what is pressed.
-/
namespace Pockiva

open Transition Log

/-! ## The mapping -/

/-- `runtimeButtons`. -/
def runtimeButtons : List Button := [.up, .down, .left, .right, .a, .b, .start, .select]

theorem mem_runtimeButtons (button : Button) : button ∈ runtimeButtons := by
  cases button <;> decide

/-- `reservedKeyboardCodes`. -/
def reservedKeyboardCodes : List String :=
  ["Escape", "Tab", "MetaLeft", "MetaRight", "ControlLeft", "ControlRight", "AltLeft", "AltRight",
    "F1", "F2", "F3", "F4", "F5", "F6", "F7", "F8", "F9", "F10", "F11", "F12"]

/-- The key of each button, as `mappingSchema` accepts it. -/
structure KeyboardMapping where
  code : Button → String
  nonempty : ∀ button, code button ≠ ""
  unreserved : ∀ button, code button ∉ reservedKeyboardCodes
  distinct : ∀ button other, code button = code other → button = other

/-- `defaultKeyboardMapping`. -/
def defaultCode : Button → String
  | .up => "ArrowUp"
  | .down => "ArrowDown"
  | .left => "ArrowLeft"
  | .right => "ArrowRight"
  | .a => "KeyX"
  | .b => "KeyZ"
  | .start => "Enter"
  | .select => "ShiftRight"

def defaultKeyboardMapping : KeyboardMapping where
  code := defaultCode
  nonempty button := by cases button <;> decide
  unreserved button := by cases button <;> decide
  distinct button other := by cases button <;> cases other <;> decide

/-- `runtimeButtons.find((button) => mapping[button] === code)`. -/
def KeyboardMapping.buttonForCode (m : KeyboardMapping) (code : String) : Option Button :=
  runtimeButtons.find? fun button => m.code button = code

/-- The buttons and their keys are in one-to-one correspondence. -/
theorem KeyboardMapping.buttonForCode_eq_some {m : KeyboardMapping} {code : String}
    {button : Button} : m.buttonForCode code = some button ↔ m.code button = code := by
  constructor
  · intro h
    have hcode := List.find?_some h
    exact of_decide_eq_true hcode
  · rintro rfl
    cases hfound : m.buttonForCode (m.code button) with
    | none =>
      have hnone := List.find?_eq_none.mp hfound button (mem_runtimeButtons button)
      exact absurd (decide_eq_true rfl) hnone
    | some other =>
      have hcode := List.find?_some hfound
      rw [m.distinct other button (of_decide_eq_true hcode)]

/-! ## The hook -/

structure KeyboardOptions where
  mapping : KeyboardMapping
  enabled : Bool
  suspended : Bool
  /-- Which `setKeyboardInput` the closures of the effect call. -/
  sink : Nat

/-- What `useKeyboardInput` keeps: its refs, and the effect that is in force. -/
structure KeyboardHook where
  pressed : Finset Button
  writeChain : SerialCalls (Nat × List Button)
  effect : Option KeyboardOptions

/-- What comes to the hook, in the order the event loop takes it. -/
inductive KeyboardEvent where
  /-- React runs the effect. -/
  | effect (options : KeyboardOptions)
  /-- React cleans up after the effect. -/
  | cleanup
  | keyDown (code : String) (repeated editable : Bool)
  | keyUp (code : String)
  | blur
  | visibilityChange (hidden : Bool)
  /-- The chain makes its next call. -/
  | write
  /-- The call is answered, or rejected. -/
  | settled (rejected : Bool)

/-- The keys the page listens to. -/
def KeyboardOptions.listens (o : KeyboardOptions) : Bool := o.enabled && !o.suspended

/-- The pressed buttons, in the order of `runtimeButtons`. -/
def pressedSnapshot (pressed : Finset Button) : List Button := runtimeButtons.filter (· ∈ pressed)

namespace KeyboardHook

def initial : KeyboardHook := ⟨∅, .idle, none⟩

def enqueueSnapshot (h : KeyboardHook) (o : KeyboardOptions) : KeyboardHook :=
  { h with writeChain := h.writeChain.enqueue (o.sink, pressedSnapshot h.pressed) }

def releaseAll (h : KeyboardHook) (o : KeyboardOptions) : KeyboardHook :=
  if h.pressed = ∅ then h else { h with pressed := ∅ }.enqueueSnapshot o

def onKeyDown (h : KeyboardHook) (o : KeyboardOptions) (code : String)
    (repeated editable : Bool) : KeyboardHook :=
  if !o.enabled || o.suspended || editable then h
  else match o.mapping.buttonForCode code with
    | none => h
    | some button =>
      if repeated ∨ button ∈ h.pressed then h
      else { h with pressed := insert button h.pressed }.enqueueSnapshot o

def onKeyUp (h : KeyboardHook) (o : KeyboardOptions) (code : String) : KeyboardHook :=
  match o.mapping.buttonForCode code with
  | none => h
  | some button =>
    if button ∈ h.pressed then
      { h with pressed := h.pressed.erase button }.enqueueSnapshot o
    else h

def onVisibilityChange (h : KeyboardHook) (o : KeyboardOptions) (hidden : Bool) : KeyboardHook :=
  if hidden then h.releaseAll o else h

/-- The body of the effect. -/
def runEffect (h : KeyboardHook) (o : KeyboardOptions) : KeyboardHook :=
  let h := { h with effect := some o }
  if !o.enabled || o.suspended then h.releaseAll o else h

/-- The function it returned. -/
def cleanup (h : KeyboardHook) (o : KeyboardOptions) : KeyboardHook :=
  { h with effect := none }.releaseAll o

/-- The hook after an event.  Without an effect in force, nobody listens. -/
def step (h : KeyboardHook) : KeyboardEvent → Option KeyboardHook
  | .effect options => if h.effect.isNone then some (h.runEffect options) else none
  | .cleanup => h.effect.map h.cleanup
  | .keyDown code repeated editable => h.effect.map fun o => h.onKeyDown o code repeated editable
  | .keyUp code => h.effect.map fun o => h.onKeyUp o code
  | .blur => h.effect.map h.releaseAll
  | .visibilityChange hidden => h.effect.map fun o => h.onVisibilityChange o hidden
  | .write => h.writeChain.begin.map fun chain => { h with writeChain := chain }
  | .settled _ => h.writeChain.settle.map fun chain => { h with writeChain := chain }

/-- The hook from its first render on. -/
def system : System KeyboardHook KeyboardEvent where
  start h := h = initial
  step h event g := h.step event = some g

/-! ## The calls -/

variable {h g : KeyboardHook} {o : KeyboardOptions}

/-- What an event makes of the pressed buttons: nothing, or it changes them and lines up one
call that tells so. -/
inductive Changes (h g : KeyboardHook) : Prop where
  | unchanged (hpressed : g.pressed = h.pressed) (hall : g.writeChain.all = h.writeChain.all)
  | changed (sink : Nat) (hpressed : g.pressed ≠ h.pressed)
      (hall : g.writeChain.all = h.writeChain.all ++ [(sink, pressedSnapshot g.pressed)])

theorem releaseAll_changes (h : KeyboardHook) (o : KeyboardOptions) :
    h.Changes (h.releaseAll o) := by
  unfold releaseAll
  split
  · exact .unchanged rfl rfl
  · next hne => exact .changed o.sink (Ne.symm hne) (SerialCalls.all_enqueue _ _)

theorem onKeyDown_changes (h : KeyboardHook) (o : KeyboardOptions) (code : String)
    (repeated editable : Bool) : h.Changes (h.onKeyDown o code repeated editable) := by
  unfold onKeyDown
  split
  · exact .unchanged rfl rfl
  · split
    · exact .unchanged rfl rfl
    · split
      · exact .unchanged rfl rfl
      · next button _ hnew =>
        have hne : insert button h.pressed ≠ h.pressed := fun heq =>
          hnew (.inr (heq ▸ Finset.mem_insert_self button h.pressed))
        exact .changed o.sink hne (SerialCalls.all_enqueue _ _)

theorem onKeyUp_changes (h : KeyboardHook) (o : KeyboardOptions) (code : String) :
    h.Changes (h.onKeyUp o code) := by
  unfold onKeyUp
  split
  · exact .unchanged rfl rfl
  · split
    · next button _ hmem =>
      have hne : h.pressed.erase button ≠ h.pressed := fun heq =>
        Finset.notMem_erase button h.pressed (heq.symm ▸ hmem)
      exact .changed o.sink hne (SerialCalls.all_enqueue _ _)
    · exact .unchanged rfl rfl

/-- The effect in force is no matter to the calls. -/
theorem Changes.ofEffect {effect : Option KeyboardOptions}
    (hchanges : { h with effect := effect }.Changes g) : h.Changes g := by
  rcases hchanges with ⟨hpressed, hall⟩ | ⟨sink, hpressed, hall⟩
  · exact .unchanged hpressed hall
  · exact .changed sink hpressed hall

theorem step_changes {event : KeyboardEvent} (hstep : h.step event = some g) : h.Changes g := by
  cases event with
  | effect options =>
    simp only [step] at hstep
    split at hstep
    · cases hstep
      simp only [runEffect]
      split
      · exact .ofEffect (releaseAll_changes _ options)
      · exact .unchanged rfl rfl
    · cases hstep
  | cleanup =>
    obtain ⟨o, -, rfl⟩ := Option.map_eq_some_iff.mp hstep
    exact .ofEffect (releaseAll_changes _ o)
  | keyDown code repeated editable =>
    obtain ⟨o, -, rfl⟩ := Option.map_eq_some_iff.mp hstep
    exact h.onKeyDown_changes o code repeated editable
  | keyUp code =>
    obtain ⟨o, -, rfl⟩ := Option.map_eq_some_iff.mp hstep
    exact h.onKeyUp_changes o code
  | blur =>
    obtain ⟨o, -, rfl⟩ := Option.map_eq_some_iff.mp hstep
    exact h.releaseAll_changes o
  | visibilityChange hidden =>
    obtain ⟨o, -, rfl⟩ := Option.map_eq_some_iff.mp hstep
    unfold onVisibilityChange
    split
    · exact h.releaseAll_changes o
    · exact .unchanged rfl rfl
  | write =>
    obtain ⟨chain, hchain, rfl⟩ := Option.map_eq_some_iff.mp hstep
    exact .unchanged rfl (SerialCalls.all_begin hchain)
  | settled rejected =>
    obtain ⟨chain, hchain, rfl⟩ := Option.map_eq_some_iff.mp hstep
    exact .unchanged rfl (SerialCalls.all_settle hchain)

/-- The snapshot tells the pressed buttons apart. -/
theorem pressedSnapshot_injective {pressed other : Finset Button}
    (heq : pressedSnapshot pressed = pressedSnapshot other) : pressed = other := by
  have hmem : ∀ (s : Finset Button) (button : Button),
      button ∈ pressedSnapshot s ↔ button ∈ s := by
    intro s button
    simp [pressedSnapshot, mem_runtimeButtons]
  ext button
  rw [← hmem pressed, ← hmem other, heq]

/-- The last call that was lined up tells what is pressed, and each call tells something else
than the one before. -/
structure Told (h : KeyboardHook) : Prop where
  latest : (h.writeChain.all.map Prod.snd).getLast?.getD [] = pressedSnapshot h.pressed
  changing : List.IsChain (· ≠ ·) ([] :: h.writeChain.all.map Prod.snd)

theorem Told.initial : KeyboardHook.initial.Told := ⟨rfl, .singleton []⟩

theorem Told.step (ht : h.Told) {event : KeyboardEvent} (hstep : h.step event = some g) :
    g.Told := by
  rcases step_changes hstep with ⟨hpressed, hall⟩ | ⟨sink, hpressed, hall⟩
  · exact ⟨by rw [hall, hpressed]; exact ht.latest, by rw [hall]; exact ht.changing⟩
  · refine ⟨by simp [hall], ?_⟩
    have hlast : ([] :: h.writeChain.all.map Prod.snd).getLast? =
        some (pressedSnapshot h.pressed) := by
      rw [List.getLast?_cons, ht.latest]
    rw [hall, List.map_append, ← List.cons_append]
    refine ht.changing.append (.singleton _) fun x hx y hy => ?_
    rw [hlast] at hx
    cases hx
    cases hy
    exact fun heq => hpressed (pressedSnapshot_injective heq).symm

/-! ## The buttons -/

/-- The effect in force after one more event. -/
def effectNext : Option KeyboardOptions → KeyboardEvent → Option KeyboardOptions
  | _, .effect options => some options
  | _, .cleanup => none
  | effect, _ => effect

/-- The effect in force after some events. -/
def effectAfter (events : List KeyboardEvent) : Option KeyboardOptions :=
  events.foldl effectNext none

/-- The event presses the button: its key goes down, outside of an editor, and the page
listens. -/
def Presses (button : Button) (effect : Option KeyboardOptions) (event : KeyboardEvent) : Prop :=
  ∃ o, effect = some o ∧ o.listens = true ∧ event = .keyDown (o.mapping.code button) false false

/-- The event releases the button: its key goes up, or the page goes out of sight. -/
def Releases (button : Button) (effect : Option KeyboardOptions) (event : KeyboardEvent) : Prop :=
  ∃ o, effect = some o ∧ (event = .keyUp (o.mapping.code button) ∨ event = .blur ∨
    event = .visibilityChange true ∨ event = .cleanup)

theorem releaseAll_pressed (h : KeyboardHook) (o : KeyboardOptions) :
    (h.releaseAll o).pressed = ∅ := by
  unfold releaseAll
  split
  · next hempty => exact hempty
  · rfl

theorem releaseAll_effect (h : KeyboardHook) (o : KeyboardOptions) :
    (h.releaseAll o).effect = h.effect := by
  unfold releaseAll
  split <;> rfl

theorem onKeyDown_effect (h : KeyboardHook) (o : KeyboardOptions) (code : String)
    (repeated editable : Bool) : (h.onKeyDown o code repeated editable).effect = h.effect := by
  unfold onKeyDown
  split
  · rfl
  · split
    · rfl
    · split <;> rfl

theorem onKeyUp_effect (h : KeyboardHook) (o : KeyboardOptions) (code : String) :
    (h.onKeyUp o code).effect = h.effect := by
  unfold onKeyUp
  split
  · rfl
  · split <;> rfl

theorem mem_onKeyDown {code : String} {repeated editable : Bool} {button : Button} :
    button ∈ (h.onKeyDown o code repeated editable).pressed ↔
      (o.listens = true ∧ o.mapping.code button = code ∧ repeated = false ∧ editable = false) ∨
        button ∈ h.pressed := by
  have hlistens : o.listens = true ↔ o.enabled = true ∧ o.suspended = false := by
    simp [KeyboardOptions.listens]
  rw [hlistens, ← KeyboardMapping.buttonForCode_eq_some]
  unfold onKeyDown
  split
  · next hdeaf =>
    simp only [Bool.or_eq_true, Bool.not_eq_true'] at hdeaf
    refine ⟨.inr, ?_⟩
    rintro (⟨⟨henabled, hsuspended⟩, _, _, heditable⟩ | hmem)
    · simp [henabled, hsuspended, heditable] at hdeaf
    · exact hmem
  · next hopen =>
    simp only [Bool.or_eq_true, Bool.not_eq_true', not_or, Bool.not_eq_false,
      Bool.not_eq_true] at hopen
    obtain ⟨⟨henabled, hsuspended⟩, heditable⟩ := hopen
    split
    · next hnone => simp [hnone]
    · next other hother =>
      rw [hother]
      split
      · next hold =>
        refine ⟨.inr, ?_⟩
        rintro (⟨_, heq, hrepeated, _⟩ | hmem)
        · cases heq
          rcases hold with hold | hold
          · rw [hrepeated] at hold
            cases hold
          · exact hold
        · exact hmem
      · next hnew =>
        have hfirst : repeated = false := Bool.eq_false_iff.mpr fun hrep => hnew (.inl hrep)
        simp [enqueueSnapshot, henabled, hsuspended, heditable, hfirst, eq_comm]

theorem mem_onKeyUp {code : String} {button : Button} :
    button ∈ (h.onKeyUp o code).pressed ↔ button ∈ h.pressed ∧ o.mapping.code button ≠ code := by
  rw [Ne, ← KeyboardMapping.buttonForCode_eq_some]
  unfold onKeyUp
  split
  · next hnone => simp [hnone]
  · next other hother =>
    rw [hother]
    split
    · simp [enqueueSnapshot, and_comm, eq_comm]
    · next hgone =>
      refine ⟨fun hmem => ⟨hmem, fun heq => ?_⟩, And.left⟩
      cases heq
      exact hgone hmem

/-- A page that does not listen has no button pressed. -/
def Deaf (h : KeyboardHook) : Prop :=
  (∀ o, h.effect = some o → o.listens = false) → h.pressed = ∅

/-- **What an event does to a button.** -/
theorem mem_step (hdeaf : h.Deaf) {event : KeyboardEvent} (hstep : h.step event = some g)
    (button : Button) :
    button ∈ g.pressed ↔ Presses button h.effect event ∨
      button ∈ h.pressed ∧ ¬ Releases button h.effect event := by
  cases event with
  | effect options =>
    simp only [step] at hstep
    split at hstep
    · next hnone =>
      have hgone : h.pressed = ∅ := hdeaf fun o ho => by simp [ho] at hnone
      have hpressed : g.pressed = ∅ := by
        cases hstep
        simp only [runEffect]
        split
        · exact releaseAll_pressed _ _
        · exact hgone
      simp [hpressed, hgone, Presses]
    · cases hstep
  | cleanup =>
    obtain ⟨o, ho, rfl⟩ := Option.map_eq_some_iff.mp hstep
    have hpressed : (h.cleanup o).pressed = ∅ := releaseAll_pressed _ _
    simp [hpressed, Presses, Releases, ho]
  | keyDown code repeated editable =>
    obtain ⟨o, ho, rfl⟩ := Option.map_eq_some_iff.mp hstep
    have hkept : ¬ Releases button h.effect (.keyDown code repeated editable) := by
      rintro ⟨_, _, heq | heq | heq | heq⟩ <;> cases heq
    rw [mem_onKeyDown]
    constructor
    · rintro (⟨hlistens, rfl, rfl, rfl⟩ | hmem)
      · exact .inl ⟨o, ho, hlistens, rfl⟩
      · exact .inr ⟨hmem, hkept⟩
    · rintro (⟨other, hother, hlistens, heq⟩ | ⟨hmem, _⟩)
      · cases heq
        obtain rfl := Option.some.inj (ho.symm.trans hother)
        exact .inl ⟨hlistens, rfl, rfl, rfl⟩
      · exact .inr hmem
  | keyUp code =>
    obtain ⟨o, ho, rfl⟩ := Option.map_eq_some_iff.mp hstep
    have hreleases : Releases button h.effect (.keyUp code) ↔ o.mapping.code button = code := by
      simp [Releases, ho, eq_comm]
    rw [mem_onKeyUp, hreleases]
    refine ⟨.inr, ?_⟩
    rintro (⟨_, _, _, heq⟩ | hmem)
    · cases heq
    · exact hmem
  | blur =>
    obtain ⟨o, ho, rfl⟩ := Option.map_eq_some_iff.mp hstep
    simp [releaseAll_pressed, Presses, Releases, ho]
  | visibilityChange hidden =>
    obtain ⟨o, ho, rfl⟩ := Option.map_eq_some_iff.mp hstep
    cases hidden <;>
      simp [onVisibilityChange, releaseAll_pressed, Presses, Releases, ho]
  | write =>
    obtain ⟨chain, -, rfl⟩ := Option.map_eq_some_iff.mp hstep
    simp [Presses, Releases]
  | settled rejected =>
    obtain ⟨chain, -, rfl⟩ := Option.map_eq_some_iff.mp hstep
    simp [Presses, Releases]

theorem step_effect {event : KeyboardEvent} (hstep : h.step event = some g) :
    g.effect = effectNext h.effect event := by
  cases event with
  | effect options =>
    simp only [step] at hstep
    split at hstep
    · cases hstep
      simp only [runEffect]
      split
      · exact releaseAll_effect _ _
      · rfl
    · cases hstep
  | cleanup =>
    obtain ⟨o, -, rfl⟩ := Option.map_eq_some_iff.mp hstep
    exact releaseAll_effect _ _
  | keyDown code repeated editable =>
    obtain ⟨o, -, rfl⟩ := Option.map_eq_some_iff.mp hstep
    exact h.onKeyDown_effect o code repeated editable
  | keyUp code =>
    obtain ⟨o, -, rfl⟩ := Option.map_eq_some_iff.mp hstep
    exact h.onKeyUp_effect o code
  | blur =>
    obtain ⟨o, -, rfl⟩ := Option.map_eq_some_iff.mp hstep
    exact h.releaseAll_effect o
  | visibilityChange hidden =>
    obtain ⟨o, -, rfl⟩ := Option.map_eq_some_iff.mp hstep
    unfold onVisibilityChange
    split
    · exact h.releaseAll_effect o
    · rfl
  | write =>
    obtain ⟨chain, -, rfl⟩ := Option.map_eq_some_iff.mp hstep
    rfl
  | settled rejected =>
    obtain ⟨chain, -, rfl⟩ := Option.map_eq_some_iff.mp hstep
    rfl

theorem Deaf.step (hdeaf : h.Deaf) {event : KeyboardEvent} (hstep : h.step event = some g) :
    g.Deaf := by
  intro hnobody
  have heffect := step_effect hstep
  -- As long as the effect stays in force, nothing was pressed and no key is heard.
  have hsame : g.effect = h.effect → g.pressed = ∅ := by
    intro hkept
    rw [hkept] at hnobody
    ext button
    rw [mem_step hdeaf hstep, hdeaf hnobody]
    refine ⟨?_, fun hmem => absurd hmem (Finset.notMem_empty _)⟩
    rintro (⟨o, ho, hlistens, _⟩ | ⟨hmem, _⟩)
    · rw [hnobody o ho] at hlistens
      cases hlistens
    · exact hmem
  cases event with
  | effect options =>
    simp only [KeyboardHook.step] at hstep
    split at hstep
    · next hnone =>
      cases hstep
      simp only [runEffect]
      split
      · exact releaseAll_pressed _ _
      · exact hdeaf fun o ho => by simp [ho] at hnone
    · cases hstep
  | cleanup =>
    obtain ⟨o, -, rfl⟩ := Option.map_eq_some_iff.mp hstep
    exact releaseAll_pressed _ _
  | _ => exact hsame heffect

/-- A call is lined up, at most. -/
def SameCalls (h g : KeyboardHook) : Prop :=
  g.writeChain.running = h.writeChain.running ∧ g.writeChain.made = h.writeChain.made

theorem releaseAll_sameCalls (h : KeyboardHook) (o : KeyboardOptions) :
    h.SameCalls (h.releaseAll o) := by
  unfold releaseAll
  split <;> exact ⟨rfl, rfl⟩

theorem step_sameCalls {event : KeyboardEvent} (hwrite : event ≠ .write)
    (hsettled : ∀ rejected, event ≠ .settled rejected) (hstep : h.step event = some g) :
    h.SameCalls g := by
  cases event with
  | effect options =>
    simp only [step] at hstep
    split at hstep
    · cases hstep
      simp only [runEffect]
      split
      · exact releaseAll_sameCalls { h with effect := some options } options
      · exact ⟨rfl, rfl⟩
    · cases hstep
  | cleanup =>
    obtain ⟨o, -, rfl⟩ := Option.map_eq_some_iff.mp hstep
    exact releaseAll_sameCalls { h with effect := none } o
  | keyDown code repeated editable =>
    obtain ⟨o, -, rfl⟩ := Option.map_eq_some_iff.mp hstep
    unfold onKeyDown
    split
    · exact ⟨rfl, rfl⟩
    · split
      · exact ⟨rfl, rfl⟩
      · split <;> exact ⟨rfl, rfl⟩
  | keyUp code =>
    obtain ⟨o, -, rfl⟩ := Option.map_eq_some_iff.mp hstep
    unfold onKeyUp
    split
    · exact ⟨rfl, rfl⟩
    · split <;> exact ⟨rfl, rfl⟩
  | blur =>
    obtain ⟨o, -, rfl⟩ := Option.map_eq_some_iff.mp hstep
    exact h.releaseAll_sameCalls o
  | visibilityChange hidden =>
    obtain ⟨o, -, rfl⟩ := Option.map_eq_some_iff.mp hstep
    unfold onVisibilityChange
    split
    · exact h.releaseAll_sameCalls o
    · exact ⟨rfl, rfl⟩
  | write => exact absurd rfl hwrite
  | settled rejected => exact absurd rfl (hsettled rejected)

theorem orderly_step (horderly : h.writeChain.Orderly) {event : KeyboardEvent}
    (hstep : h.step event = some g) : g.writeChain.Orderly := by
  by_cases hwrite : event = .write
  · subst hwrite
    obtain ⟨chain, hchain, rfl⟩ := Option.map_eq_some_iff.mp hstep
    exact .begin hchain
  by_cases hsettled : ∃ rejected, event = .settled rejected
  · obtain ⟨rejected, rfl⟩ := hsettled
    obtain ⟨chain, hchain, rfl⟩ := Option.map_eq_some_iff.mp hstep
    exact .settle hchain
  · obtain ⟨hrunning, hmade⟩ := step_sameCalls hwrite (not_exists.mp hsettled) hstep
    intro call hcall
    rw [hmade]
    exact horderly call (hrunning.symm.trans hcall)

/-! ## The law -/

/-- What the hook has done after some events. -/
structure KeyboardLaw (events : List KeyboardEvent) (h : KeyboardHook) : Prop where
  /-- A button is pressed if its key went down while the page listened, and neither came up
  since nor went out of sight. -/
  pressed : ∀ button, button ∈ h.pressed ↔
    Since (fun before => Presses button (effectAfter before))
      (fun before => Releases button (effectAfter before)) events
  deaf : (∀ o, h.effect = some o → o.listens = false) → h.pressed = ∅
  /-- A call is made only when the one before it has settled. -/
  serial : ∀ call, h.writeChain.running = some call → h.writeChain.made.getLast? = some call
  /-- Each call tells something else than the one before. -/
  changing : List.IsChain (· ≠ ·) ([] :: h.writeChain.all.map Prod.snd)
  /-- When no call waits, the last one that was made tells what is pressed. -/
  settled : h.writeChain.waiting = [] →
    (h.writeChain.made.map Prod.snd).getLast?.getD [] = pressedSnapshot h.pressed

/-- **What the keys do, and the calls that tell it**, in any order of events. -/
theorem keyboard_input {events : List KeyboardEvent} {h : KeyboardHook}
    (hrun : Run system .initial events h) : KeyboardLaw events h := by
  have hinvariant : h.effect = effectAfter events ∧ h.Deaf ∧ h.Told ∧ h.writeChain.Orderly ∧
      ∀ button, button ∈ h.pressed ↔
        Since (fun before => Presses button (effectAfter before))
          (fun before => Releases button (effectAfter before)) events := by
    induction hrun with
    | nil =>
      exact ⟨rfl, fun _ => rfl, .initial, .idle, fun button =>
        ⟨fun hmem => absurd hmem (Finset.notMem_empty _), fun hs => absurd hs Since.not_nil⟩⟩
    | @snoc events h g event _ hstep ih =>
      obtain ⟨heffect, hdeaf, htold, horderly, hpressed⟩ := ih
      refine ⟨?_, hdeaf.step hstep, htold.step hstep, orderly_step horderly hstep, ?_⟩
      · rw [step_effect hstep, heffect, effectAfter, effectAfter, List.foldl_append]
        rfl
      · intro button
        rw [mem_step hdeaf hstep, Since.snoc_iff, ← hpressed button, heffect]
  obtain ⟨-, hdeaf, htold, horderly, hpressed⟩ := hinvariant
  refine ⟨hpressed, hdeaf, horderly, htold.changing, fun hdrained => ?_⟩
  rw [← SerialCalls.all_of_drained hdrained]
  exact htold.latest

/-! ## Two keys at once -/

/-- A page that listens, with the default keys. -/
def gamePage : KeyboardOptions := ⟨defaultKeyboardMapping, true, false, 0⟩

/-- Two keys go down before the first call is answered, and one of them comes up again. -/
def twoKeys : List KeyboardEvent :=
  [.effect gamePage, .keyDown "KeyX" false false, .write, .keyDown "ArrowUp" false false,
    .keyUp "KeyX", .settled true, .write, .settled false, .write]

theorem keyboard_input_twoKeys : ∃ h, KeyboardLaw twoKeys h ∧
    h.writeChain.made.map Prod.snd = [[.a], [.up, .a], [.up]] :=
  ⟨_, keyboard_input (.of_steps (fun _ _ _ hstep => hstep) rfl), rfl⟩

end KeyboardHook

end Pockiva
