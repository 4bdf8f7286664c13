import Pockiva.RemoteController.PointerTracker
import Pockiva.RemoteController.SentInput

/-! # The input of the controller's page

The page keeps three copies of the buttons that are pressed: those of the tracker's
pointers, those it shows, and those the session wants held.  `useControllerInput` brings
the second and the third up to date with the transitions of the tracker;
`pointer_ownership` says that the three agree after every call.

The transport is a WebSocket: `send` throws only before the socket has opened, and a
message comes only after.
-/
namespace Pockiva

open Throwing Transition

/-- What the transport does while the session follows a call: for each transition, and
for a sync. -/
structure InputAnswers where
  transition : Network.Button → TransportAnswers
  sync : TransportAnswers

/-- What `useControllerInput` holds: the tracker, the buttons it shows and the session. -/
structure ControllerInput (Pointer : Type) where
  tracker : PointerButtonTracker Pointer
  pressedButtons : Finset Network.Button
  session : ControllerSession

namespace ControllerInput
variable {Pointer : Type}

/-- The page after a method of the session. -/
def withSession (input : ControllerInput Pointer) :
    ControllerSession.Method ControllerSession →
      Except (ControllerInput Pointer) (ControllerInput Pointer)
  | .ok session => .ok { input with session := session }
  | .error session => .error { input with session := session }

/-- The loop of `applyTransitions`. -/
def sendTransitions (answers : InputAnswers) (input : ControllerInput Pointer)
    (transitions : List ButtonTransition) :
    Except (ControllerInput Pointer) (ControllerInput Pointer) :=
  transitions.foldlM (fun input transition => input.withSession
    (input.session.setButton (answers.transition transition.1) transition.1 transition.2)) input

def applyTransitions (answers : InputAnswers) (input : ControllerInput Pointer)
    (transitions : List ButtonTransition) :
    Except (ControllerInput Pointer) (ControllerInput Pointer) :=
  if transitions = [] then .ok input
  else
    let input := { input with pressedButtons := input.tracker.pressedButtons.toFinset }
    input.sendTransitions answers transitions

/-- The page after a call of the tracker that returned transitions. -/
def applyTracked (answers : InputAnswers) (input : ControllerInput Pointer)
    (result : List ButtonTransition × PointerButtonTracker Pointer) :
    Except (ControllerInput Pointer) (ControllerInput Pointer) :=
  applyTransitions answers { input with tracker := result.2 } result.1

def releaseAll (answers : InputAnswers) (input : ControllerInput Pointer) :
    Except (ControllerInput Pointer) (ControllerInput Pointer) :=
  let input := { input with tracker := input.tracker.clear.2, pressedButtons := ∅ }
  input.withSession (input.session.syncButtons answers.sync [])

variable [DecidableEq Pointer]

/-- `setPointerButtons`, `pressPointer`, `releasePointer`, `releaseButtons` and
`releaseAll`. -/
def run (answers : InputAnswers) (input : ControllerInput Pointer) :
    PointerButtonTracker.Call Pointer → Except (ControllerInput Pointer) (ControllerInput Pointer)
  | .set pointerId buttons => input.applyTracked answers (input.tracker.set pointerId buttons)
  | .press pointerId button => input.applyTracked answers (input.tracker.press pointerId button)
  | .release pointerId => input.applyTracked answers (input.tracker.release pointerId)
  | .releaseButtons buttons => input.applyTracked answers (input.tracker.releaseButtons buttons)
  | .clear => input.releaseAll answers

end ControllerInput

/-! ## Runs of the page -/

/-- The page, and the sockets that have opened. -/
structure ControllerPage (Pointer : Type) where
  input : ControllerInput Pointer
  opened : List Nat

namespace ControllerPage
variable {Pointer : Type} [DecidableEq Pointer]

/-- What happens to the page: a call of its input, or something that runs in the session. -/
inductive Event (Pointer : Type) where
  | call (call : PointerButtonTracker.Call Pointer) (answers : InputAnswers)
  | entry (entry : ControllerSession.Entry) (answers : TransportAnswers)

/-- The entries that leave the wanted buttons to the input. -/
def LeavesButtons : ControllerSession.Entry → Prop
  | .disconnect => False
  | .setButton _ _ => False
  | .syncButtons _ => False
  | _ => True

/-- A socket is sent on without exception once it has opened. -/
def Sends (page : ControllerPage Pointer) (answers : TransportAnswers) : Prop :=
  ∀ g, page.input.session.connection = some g → g ∈ page.opened → answers.sends = true

/-- The sockets that have opened after an entry. -/
def openedAfter (opened : List Nat) : ControllerSession.Entry → List Nat
  | .callback g .opened => g :: opened
  | _ => opened

/-- The page after an event. -/
def after (page : ControllerPage Pointer) : Event Pointer → ControllerPage Pointer
  | .call call answers => { page with input := left (page.input.run answers call) }
  | .entry entry answers =>
    { input := { page.input with session := left (page.input.session.runEntry answers entry) }
      opened := openedAfter page.opened entry }

/-- What can happen: every call, and every entry that the transport and the timers allow. -/
inductive Permitted (page : ControllerPage Pointer) : Event Pointer → Prop where
  | call (call : PointerButtonTracker.Call Pointer) (answers : InputAnswers)
      (htransition : ∀ button, page.Sends (answers.transition button))
      (hsync : page.Sends answers.sync) : Permitted page (.call call answers)
  | entry (entry : ControllerSession.Entry) (answers : TransportAnswers)
      (henabled : page.input.session.Enabled entry)
      (hmessage : ∀ g data, entry = .callback g (.message data) → g ∈ page.opened)
      (hleaves : LeavesButtons entry) : Permitted page (.entry entry answers)

/-- A page from its first render on. -/
def start (options : ControllerSessionOptions) (initialSequence : Network.Sequence) :
    ControllerPage Pointer :=
  ⟨⟨.new, ∅, .new options initialSequence⟩, []⟩

def system (Pointer : Type) [DecidableEq Pointer] :
    System (ControllerPage Pointer) (Event Pointer) where
  start page := ∃ options initialSequence, page = start options initialSequence
  step page event page' := page.Permitted event ∧ page' = page.after event

/-- The calls of the input among the events. -/
def calls (events : List (Event Pointer)) : List (PointerButtonTracker.Call Pointer) :=
  events.filterMap fun
    | .call call _ => some call
    | .entry _ _ => none

end ControllerPage

/-! ## The session follows -/

namespace ControllerSession
variable {s₀ s : ControllerSession} {t : TransportAnswers}

/-- The session wants the same buttons, and if it is connected, it was on the same
connection. -/
structure Kept (s₀ s : ControllerSession) : Prop where
  desired : s.desiredButtons = s₀.desiredButtons
  connected : ∀ g, s.snapshot.status = .connected → s.connection = some g →
    s₀.snapshot.status = .connected ∧ s₀.connection = some g

namespace Kept

theorem refl (s : ControllerSession) : Kept s s :=
  ⟨rfl, fun _ hstatus hg => ⟨hstatus, hg⟩⟩

/-- A change of other fields. -/
theorem congr (h : Kept s₀ s) {s' : ControllerSession}
    (hdesired : s'.desiredButtons = s.desiredButtons)
    (hstatus : s'.snapshot.status = s.snapshot.status)
    (hconnection : s'.connection = s.connection) : Kept s₀ s' := by
  refine ⟨hdesired.trans h.desired, ?_⟩
  intro g hconnected hg
  rw [hstatus] at hconnected
  rw [hconnection] at hg
  exact h.connected g hconnected hg

theorem lose (h : Kept s₀ s) {s' : ControllerSession}
    (hdesired : s'.desiredButtons = s.desiredButtons) (hlost : s'.connection = none) :
    Kept s₀ s' :=
  ⟨hdesired.trans h.desired, fun _ _ hg => absurd (hlost.symm.trans hg) nofun⟩

theorem unconnect (h : Kept s₀ s) {s' : ControllerSession}
    (hdesired : s'.desiredButtons = s.desiredButtons) (hstatus : s'.snapshot.status ≠ .connected) :
    Kept s₀ s' :=
  ⟨hdesired.trans h.desired, fun _ hconnected _ => absurd hconnected hstatus⟩

theorem closeConnection (h : Kept s₀ s) (connection : Option Nat) (code : Nat) (reason : String) :
    Ends (Kept s₀) (Kept s₀) (ControllerSession.closeConnection t s connection code reason) := by
  unfold ControllerSession.closeConnection
  split
  · exact h
  · split
    · exact h.congr rfl rfl rfl
    · exact h

theorem scheduleRetry (h : Kept s₀ s) (g : Nat) : Kept s₀ (s.scheduleRetry g) := by
  unfold ControllerSession.scheduleRetry
  split
  · exact h
  · split
    · exact h.unconnect rfl nofun
    · split
      · exact h.unconnect rfl nofun
      · exact h.unconnect rfl nofun

theorem abandon (h : Kept s₀ s) (code : Nat) (reason : String) (g : Nat) :
    Ends (Kept s₀) (Kept s₀) (do
      let s ← ControllerSession.closeConnection t { s with connection := none } s.connection code
        reason
      return s.scheduleRetry g) := by
  have hlost : Kept s₀ { s with connection := none } := h.lose rfl rfl
  refine (hlost.closeConnection _ _ _).bind ?_
  intro s' hs
  exact hs.scheduleRetry g

theorem handleTransportFailure (h : Kept s₀ s) (g : Nat) :
    Ends (Kept s₀) (Kept s₀) (s.handleTransportFailure t g) := by
  unfold ControllerSession.handleTransportFailure
  split
  · exact h
  · exact h.abandon 1011 "transport-error" g

theorem closeForRecovery (h : Kept s₀ s) (code : Nat) (reason : String) (g : Nat) :
    Ends (Kept s₀) (Kept s₀) (s.closeForRecovery t code reason g) := by
  unfold ControllerSession.closeForRecovery
  split
  · exact h
  · exact h.abandon code reason g

theorem failTerminal (h : Kept s₀ s) (status : SessionStatus) (code : Nat) (reason : String) :
    Ends (Kept s₀) (Kept s₀) (s.failTerminal t status code reason) :=
  Kept.closeConnection (s := s.failed status) (h.lose rfl rfl) _ _ _

theorem sendClient (h : Kept s₀ s) (message : Network.ClientMessage) :
    Ends (Kept s₀) (fun r => Kept s₀ r.2) (s.sendClient t message) := by
  unfold ControllerSession.sendClient
  split
  · exact h
  · split
    · exact h.congr rfl rfl rfl
    · exact (h.handleTransportFailure _).bind fun _ hs => hs

theorem sendStateSync (h : Kept s₀ s) :
    Ends (Kept s₀) (fun r => Kept s₀ r.2) (s.sendStateSync t) := by
  have htaken : Kept s₀ s.takeSequence := h.congr rfl rfl rfl
  exact htaken.sendClient _

theorem startConnection (h : Kept s₀ s) : Kept s₀ (s.startConnection t) := by
  unfold ControllerSession.startConnection
  dsimp only
  split
  · exact h.unconnect rfl nofun
  · split
    · exact h.unconnect rfl nofun
    · refine Kept.scheduleRetry ?_ _
      exact h.lose rfl rfl

theorem scheduleNextPing (h : Kept s₀ s) : Kept s₀ s.scheduleNextPing := by
  unfold ControllerSession.scheduleNextPing
  split
  · exact h
  · exact h.congr rfl rfl rfl

theorem connect (h : Kept s₀ s) : Kept s₀ (s.connect t) := by
  unfold ControllerSession.connect
  split
  · exact h
  · exact Kept.startConnection (h.congr rfl rfl rfl)

theorem setActive (h : Kept s₀ s) (active : Bool) : Kept s₀ (s.setActive t active) := by
  unfold ControllerSession.setActive
  split
  · exact h
  · split
    · exact h.congr rfl rfl rfl
    · unfold ControllerSession.activate
      dsimp only
      split
      · exact h.congr rfl rfl rfl
      · split
        · exact Kept.scheduleNextPing (h.congr rfl rfl rfl)
        · split
          · exact h.congr rfl rfl rfl
          · exact Kept.startConnection (h.congr rfl rfl rfl)

theorem handlePong (h : Kept s₀ s) (sequence : Network.Sequence) :
    Kept s₀ (s.handlePong sequence) := by
  unfold ControllerSession.handlePong
  split
  · exact h
  · exact Kept.scheduleNextPing (h.congr rfl rfl rfl)

theorem fire (h : Kept s₀ s) (timer : ScheduledTimer) :
    Ends (Kept s₀) (Kept s₀) (s.fire t timer) := by
  unfold ControllerSession.fire
  dsimp only
  cases timer.callback with
  | nextPing =>
    show Ends _ _ (firePing t _)
    unfold firePing
    dsimp only
    split
    · exact h.congr rfl rfl rfl
    · refine Ends.bind (Kept.sendClient ?_ _) fun _ hs => hs
      exact h.congr rfl rfl rfl
  | pongDeadline sequence =>
    show Ends _ _ (firePongDeadline t _ sequence)
    unfold firePongDeadline
    dsimp only
    split
    · refine Kept.closeForRecovery ?_ _ _ _
      exact h.congr rfl rfl rfl
    · exact h.congr rfl rfl rfl
  | retry =>
    show Kept s₀ (fireRetry t _)
    unfold fireRetry
    dsimp only
    split
    · exact Kept.startConnection (h.congr rfl rfl rfl)
    · exact h.congr rfl rfl rfl

end Kept

/-- The session wants these buttons, and is connected only on a socket that has opened. -/
structure Follows (wanted : Finset Network.Button) (opened : List Nat) (s : ControllerSession) :
    Prop where
  desired : s.desiredButtons = wanted
  ready : ∀ g, s.snapshot.status = .connected → s.connection = some g → g ∈ opened

namespace Follows
variable {wanted : Finset Network.Button} {opened : List Nat}

theorem keep (h : s₀.Follows wanted opened) (hkept : Kept s₀ s) : s.Follows wanted opened := by
  refine ⟨hkept.desired.trans h.desired, ?_⟩
  intro g hstatus hg
  obtain ⟨hstatus, hg⟩ := hkept.connected g hstatus hg
  exact h.ready g hstatus hg

theorem keep_left (h : s₀.Follows wanted opened) {r : Method ControllerSession}
    (hkept : Ends (Kept s₀) (Kept s₀) r) : (left r).Follows wanted opened :=
  h.keep hkept.left

/-- A welcome comes on a socket that has opened. -/
theorem handleMessage (h : s.Follows wanted opened)
    (hcurrent : ∀ g, s.connection = some g → g = s.generation) {g : Nat} (hg : g ∈ opened)
    (data : Option Network.ServerMessage) :
    (left (s.handleMessage t g data)).Follows wanted opened := by
  unfold ControllerSession.handleMessage
  split
  · exact h
  next hsame =>
  have hgeneration : g = s.generation := not_not.mp hsame
  split
  · exact h.keep_left ((Kept.refl s).failTerminal _ _ _)
  · next version controllerId =>
    have hwelcomed : (s.welcomed controllerId).Follows wanted opened := by
      refine ⟨h.desired, ?_⟩
      intro g' _ hg'
      rw [hcurrent g' hg', ← hgeneration]
      exact hg
    refine hwelcomed.keep_left (((Kept.refl _).sendStateSync).bind ?_)
    rintro ⟨sent, s'⟩ hs'
    cases sent with
    | true => exact hs'.scheduleNextPing
    | false => exact hs'
  · exact h.keep_left ((Kept.refl s).failTerminal _ _ _)
  · exact h.keep ((Kept.refl s).handlePong _)
  · exact h.keep_left ((Kept.refl s).closeForRecovery _ _ _)

/-- **What runs in the session leaves the buttons alone.** -/
theorem runEntry (h : s.Follows wanted opened)
    (hcurrent : ∀ g, s.connection = some g → g = s.generation) {entry : Entry}
    (hleaves : ControllerPage.LeavesButtons entry)
    (hmessage : ∀ g data, entry = .callback g (.message data) → g ∈ opened) :
    (left (s.runEntry t entry)).Follows wanted (ControllerPage.openedAfter opened entry) := by
  cases entry with
  | connect => exact h.keep (Kept.refl s).connect
  | disconnect => exact hleaves.elim
  | setActive active => exact h.keep ((Kept.refl s).setActive active)
  | setButton button pressed => exact hleaves.elim
  | syncButtons buttons => exact hleaves.elim
  | timer timer => exact h.keep_left ((Kept.refl s).fire timer)
  | callback g callback =>
    cases callback with
    | opened =>
      have hopen : Ends (Kept s) (Kept s) (s.handleOpen t g) := by
        unfold handleOpen
        split
        · exact Kept.refl s
        · exact ((Kept.refl s).sendClient _).bind fun _ hs => hs
      have hkept := h.keep_left hopen
      exact ⟨hkept.desired, fun g' hstatus hg' =>
        List.mem_cons_of_mem g (hkept.ready g' hstatus hg')⟩
    | message data => exact h.handleMessage hcurrent (hmessage g data rfl) data
    | close =>
      refine h.keep ?_
      show Kept s (handleClose _ g)
      unfold handleClose
      split
      · exact (Kept.refl s).congr rfl rfl rfl
      · refine Kept.scheduleRetry ?_ _
        exact (Kept.refl s).lose rfl rfl
    | error => exact h.keep_left ((Kept.refl s).handleTransportFailure g)

/-- A message that can be sent is. -/
theorem sendClient (h : s.Follows wanted opened)
    (hsends : ∀ g, s.connection = some g → g ∈ opened → t.sends = true)
    (hstatus : s.snapshot.status = .connected) (message : Network.ClientMessage) :
    ∃ sent s', s.sendClient t message = .ok (sent, s') ∧ s'.Follows wanted opened ∧
      s'.connection = s.connection := by
  unfold ControllerSession.sendClient
  cases hconnection : s.connection with
  | none => exact ⟨_, _, rfl, h, hconnection⟩
  | some g =>
    dsimp only
    rw [if_pos (hsends g hconnection (h.ready g hstatus hconnection))]
    refine ⟨_, _, rfl, ⟨h.desired, ?_⟩, rfl⟩
    intro g' hstatus' hg'
    exact h.ready g' hstatus' (hconnection.trans hg')

/-- The session wants other buttons. -/
theorem desire (h : s.Follows wanted opened) (buttons : Finset Network.Button) :
    (s.desire buttons).Follows buttons opened := ⟨rfl, h.ready⟩

/-- **A transition is followed without exception.** -/
theorem setButton (h : s.Follows wanted opened)
    (hsends : ∀ g, s.connection = some g → g ∈ opened → t.sends = true)
    (button : Network.Button) (pressed : Bool) :
    ∃ s', s.setButton t button pressed = .ok s' ∧
      s'.Follows (SetDelta.apply wanted (button, pressed)) opened ∧
      s'.connection = s.connection := by
  have hwanted : SetDelta.apply wanted (button, pressed) = wantedAfter wanted button pressed := rfl
  rw [hwanted]
  unfold ControllerSession.setButton
  rw [h.desired]
  split
  · next hsame =>
    have hequal : wantedAfter wanted button pressed = wanted := by
      rw [hsame, wantedAfter]
      by_cases hbutton : button ∈ wanted
      · rw [decide_eq_true hbutton, if_pos rfl, Finset.insert_eq_of_mem hbutton]
      · rw [decide_eq_false hbutton, if_neg Bool.false_ne_true, Finset.erase_eq_of_notMem hbutton]
    rw [hequal]
    exact ⟨s, rfl, h, rfl⟩
  · have hdesire := h.desire (wantedAfter wanted button pressed)
    dsimp only
    split
    · next hstatus =>
      have htaken : (s.desire (wantedAfter wanted button pressed)).takeSequence.Follows
          (wantedAfter wanted button pressed) opened := ⟨hdesire.desired, hdesire.ready⟩
      obtain ⟨sent, s', heq, hfollows, hconnection⟩ := htaken.sendClient hsends hstatus
        (buttonMessage button pressed (s.desire (wantedAfter wanted button pressed)).nextSequence)
      rw [heq]
      exact ⟨s', rfl, hfollows, hconnection⟩
    · exact ⟨_, rfl, hdesire, rfl⟩

/-- A sync is followed without exception. -/
theorem syncButtons (h : s.Follows wanted opened)
    (hsends : ∀ g, s.connection = some g → g ∈ opened → t.sends = true)
    (buttons : List Network.Button) :
    ∃ s', s.syncButtons t buttons = .ok s' ∧ s'.Follows buttons.toFinset opened ∧
      s'.connection = s.connection := by
  have hset : (buttonOrder.filter fun button => button ∈ buttons).toFinset = buttons.toFinset := by
    ext button
    rw [List.mem_toFinset, List.mem_toFinset, List.mem_filter, decide_eq_true_eq]
    exact and_iff_right (mem_buttonOrder button)
  unfold ControllerSession.syncButtons
  rw [hset]
  have hdesire := h.desire buttons.toFinset
  dsimp only
  split
  · next hstatus =>
    have htaken : (s.desire buttons.toFinset).takeSequence.Follows buttons.toFinset opened :=
      ⟨hdesire.desired, hdesire.ready⟩
    obtain ⟨sent, s', heq, hfollows, hconnection⟩ := htaken.sendClient hsends hstatus
      (.stateSync
        (buttonOrder.filter fun button => button ∈ (s.desire buttons.toFinset).desiredButtons)
        (s.desire buttons.toFinset).nextSequence)
    unfold ControllerSession.sendStateSync
    rw [heq]
    exact ⟨s', rfl, hfollows, hconnection⟩
  · exact ⟨_, rfl, hdesire, rfl⟩

end Follows

end ControllerSession

/-! ## The page follows -/

namespace ControllerInput
variable {Pointer : Type} {input : ControllerInput Pointer} {answers : InputAnswers}
  {wanted : Finset Network.Button} {opened : List Nat}

/-- The transport sends for every part of a call. -/
structure Sends (input : ControllerInput Pointer) (answers : InputAnswers) (opened : List Nat) :
    Prop where
  transition : ∀ button g, input.session.connection = some g → g ∈ opened →
    (answers.transition button).sends = true
  sync : ∀ g, input.session.connection = some g → g ∈ opened → answers.sync.sends = true

/-- **The transitions reach the session, one after the other.** -/
theorem sendTransitions_eq (hsends : input.Sends answers opened)
    (h : input.session.Follows wanted opened) (transitions : List ButtonTransition) :
    ∃ session, input.sendTransitions answers transitions = .ok { input with session := session } ∧
      session.Follows (SetDelta.replay wanted transitions) opened := by
  induction transitions generalizing input wanted with
  | nil => exact ⟨input.session, rfl, h⟩
  | cons transition transitions ih =>
    obtain ⟨session, heq, hfollows, hconnection⟩ :=
      h.setButton (hsends.transition transition.1) transition.1 transition.2
    have hsends' : Sends { input with session := session } answers opened := by
      refine ⟨?_, ?_⟩
      · intro button g hg
        exact hsends.transition button g (hconnection.symm.trans hg)
      · intro g hg
        exact hsends.sync g (hconnection.symm.trans hg)
    obtain ⟨last, hlast, hreplayed⟩ := ih hsends' hfollows
    refine ⟨last, ?_, hreplayed⟩
    unfold sendTransitions at hlast ⊢
    rw [List.foldlM_cons, heq]
    exact hlast

/-- What the page holds is what is pressed in its tracker. -/
structure Agrees (input : ControllerInput Pointer) (opened : List Nat) : Prop where
  shown : input.pressedButtons = input.tracker.pressedButtons.toFinset
  session : input.session.Follows input.tracker.pressedButtons.toFinset opened

theorem applyTracked_eq (hsends : input.Sends answers opened) (h : input.Agrees opened)
    (tracker : PointerButtonTracker Pointer) :
    ∃ input', input.applyTracked answers (input.tracker.changeTo tracker) = .ok input' ∧
      input'.tracker = tracker ∧ input'.Agrees opened := by
  have hreplay : SetDelta.replay input.tracker.pressedButtons.toFinset
      (input.tracker.changeTo tracker).1 = tracker.pressedButtons.toFinset :=
    SetDelta.replay_changes PointerButtonTracker.nodup_buttonOrder mem_buttonOrder
  unfold applyTracked applyTransitions
  split
  · next hquiet =>
    -- nothing is to be said: the same buttons are pressed
    rw [hquiet] at hreplay
    have hsame : input.tracker.pressedButtons.toFinset = tracker.pressedButtons.toFinset := hreplay
    refine ⟨_, rfl, rfl, h.shown.trans hsame, ?_⟩
    show input.session.Follows tracker.pressedButtons.toFinset opened
    rw [← hsame]
    exact h.session
  · have hpressed : Sends { input with
        tracker := tracker, pressedButtons := tracker.pressedButtons.toFinset } answers opened :=
      ⟨hsends.transition, hsends.sync⟩
    obtain ⟨session, heq, hfollows⟩ :=
      sendTransitions_eq hpressed h.session (input.tracker.changeTo tracker).1
    rw [hreplay] at hfollows
    exact ⟨_, heq, rfl, rfl, hfollows⟩

/-- **No call is cut short, and after it the page agrees with its tracker.** -/
theorem run_eq [DecidableEq Pointer] (hsends : input.Sends answers opened)
    (h : input.Agrees opened) (call : PointerButtonTracker.Call Pointer) :
    ∃ input', input.run answers call = .ok input' ∧
      input'.tracker = (input.tracker.run call).2 ∧ input'.Agrees opened := by
  cases call with
  | clear =>
    obtain ⟨session, heq, hfollows, -⟩ := h.session.syncButtons hsends.sync []
    refine ⟨{ tracker := .new, pressedButtons := ∅, session := session }, ?_, rfl, rfl, hfollows⟩
    show input.releaseAll answers = _
    unfold releaseAll
    dsimp only
    rw [heq]
    rfl
  | _ => exact applyTracked_eq hsends h _

/-- The session of a page whose call ends stays as a session is. -/
abbrev Tracked (input : ControllerInput Pointer) : Prop := input.session.Tracked

theorem withSession_tracked (input : ControllerInput Pointer)
    {r : ControllerSession.Method ControllerSession}
    (h : Ends ControllerSession.Tracked ControllerSession.Tracked r) :
    Ends Tracked Tracked (input.withSession r) := by
  cases r with
  | ok session => exact h
  | error session => exact h

theorem sendTransitions_tracked (h : input.Tracked) (transitions : List ButtonTransition) :
    Ends Tracked Tracked (input.sendTransitions answers transitions) := by
  induction transitions generalizing input with
  | nil => exact h
  | cons transition transitions ih =>
    unfold sendTransitions at ih ⊢
    rw [List.foldlM_cons]
    exact (withSession_tracked input (h.setButton _ _)).bind fun _ h' => ih h'

theorem applyTracked_tracked (h : input.Tracked)
    (result : List ButtonTransition × PointerButtonTracker Pointer) :
    Ends Tracked Tracked (input.applyTracked answers result) := by
  unfold applyTracked applyTransitions
  split
  · exact h
  · refine sendTransitions_tracked ?_ _
    exact h

theorem run_tracked [DecidableEq Pointer] (h : input.Tracked)
    (call : PointerButtonTracker.Call Pointer) : Ends Tracked Tracked (input.run answers call) := by
  cases call with
  | clear => exact withSession_tracked _ (h.syncButtons _)
  | _ => exact applyTracked_tracked h _

end ControllerInput

namespace ControllerPage
variable {Pointer : Type} [DecidableEq Pointer]

/-! ## The three copies agree -/

/-- The owners after some calls. -/
def owners (past : List (PointerButtonTracker.Call Pointer)) : Ownership Pointer :=
  past.foldl Ownership.after .nobody

/-- The tracker after some calls, and the buttons held by one who replays what it emits. -/
def replayed (past : List (PointerButtonTracker.Call Pointer)) :
    PointerButtonTracker Pointer × Finset Network.Button :=
  past.foldl (fun r call => ((r.1.run call).2, (r.1.run call).1.replay r.2)) (.new, ∅)

/-- What holds of the next call. -/
structure NextCall (past : List (PointerButtonTracker.Call Pointer))
    (page : ControllerPage Pointer) (call : PointerButtonTracker.Call Pointer) : Prop where
  /-- No transition repeats a press or a release. -/
  effective : ∀ changes, (page.input.tracker.run call).1 = .transitions changes →
    SetDelta.Effective page.input.session.desiredButtons changes
  /-- A button is released when its last owner lets go of it. -/
  released : ∀ changes button, (page.input.tracker.run call).1 = .transitions changes →
    ((button, false) ∈ changes ↔
      (owners past).Owned button ∧ ¬ (owners (past ++ [call])).Owned button)
  /-- No exception cuts the call short. -/
  returns : ∀ answers, (∀ button, page.Sends (answers.transition button)) →
    page.Sends answers.sync → ∃ input, page.input.run answers call = .ok input

/-- What holds of the page after some calls. -/
structure OwnershipLaw (past : List (PointerButtonTracker.Call Pointer))
    (page : ControllerPage Pointer) : Prop where
  /-- The buttons pressed are those that a pointer owns. -/
  pressed : ∀ button, button ∈ page.input.tracker.pressedButtons ↔ (owners past).Owned button
  /-- What the calls emitted, replayed, leads there. -/
  replayed : replayed past =
    (page.input.tracker, page.input.tracker.pressedButtons.toFinset)
  shown : page.input.pressedButtons = page.input.tracker.pressedButtons.toFinset
  /-- The session wants these. -/
  desired : page.input.session.desiredButtons = page.input.tracker.pressedButtons.toFinset
  next : ∀ call, NextCall past page call

/-- What holds of the page between two events. -/
structure Consistent (past : List (PointerButtonTracker.Call Pointer))
    (page : ControllerPage Pointer) : Prop where
  owned : page.input.tracker.owned = owners past
  replayed : replayed past = (page.input.tracker, page.input.tracker.pressedButtons.toFinset)
  agrees : page.input.Agrees page.opened
  tracked : page.input.Tracked

variable {past : List (PointerButtonTracker.Call Pointer)} {page : ControllerPage Pointer}

theorem owners_snoc (past : List (PointerButtonTracker.Call Pointer))
    (call : PointerButtonTracker.Call Pointer) :
    owners (past ++ [call]) = (owners past).after call := List.foldl_append

theorem Consistent.next (h : Consistent past page) (call : PointerButtonTracker.Call Pointer) :
    NextCall past page call where
  effective := by
    intro changes hchanges
    obtain ⟨-, heq⟩ | ⟨-, heq⟩ := page.input.tracker.run_eq call
    · rw [heq] at hchanges
      cases hchanges
    · rw [heq] at hchanges
      cases hchanges
      rw [h.agrees.session.desired]
      exact SetDelta.effective_changes PointerButtonTracker.nodup_buttonOrder
  released := by
    intro changes button hchanges
    have hafter : (page.input.tracker.run call).2.owned = owners (past ++ [call]) := by
      rw [PointerButtonTracker.owned_run, h.owned, owners_snoc]
    obtain ⟨-, heq⟩ | ⟨-, heq⟩ := page.input.tracker.run_eq call
    · rw [heq] at hchanges
      cases hchanges
    · rw [heq] at hchanges
      cases hchanges
      rw [SetDelta.mem_changes_false (mem_buttonOrder button), List.mem_toFinset,
        List.mem_toFinset, PointerButtonTracker.pressedButtons_iff,
        PointerButtonTracker.pressedButtons_iff, h.owned, hafter]
  returns := by
    intro answers htransition hsync
    obtain ⟨input, heq, -⟩ := ControllerInput.run_eq ⟨htransition, hsync⟩ h.agrees call
    exact ⟨input, heq⟩

theorem Consistent.law (h : Consistent past page) : OwnershipLaw past page where
  pressed button := by
    rw [PointerButtonTracker.pressedButtons_iff, h.owned]
  replayed := h.replayed
  shown := h.agrees.shown
  desired := h.agrees.session.desired
  next := h.next

theorem consistent_start (options : ControllerSessionOptions)
    (initialSequence : Network.Sequence) :
    Consistent [] (start options initialSequence : ControllerPage Pointer) where
  owned := rfl
  replayed := rfl
  agrees := ⟨rfl, rfl, nofun⟩
  tracked := (ControllerSession.adrift_new options initialSequence).tracked

theorem replayed_snoc (past : List (PointerButtonTracker.Call Pointer))
    (call : PointerButtonTracker.Call Pointer) :
    replayed (past ++ [call]) = (((replayed past).1.run call).2,
      ((replayed past).1.run call).1.replay (replayed past).2) := by
  unfold replayed
  rw [List.foldl_append]
  rfl

/-- **An event leaves the page consistent.** -/
theorem Consistent.after (h : Consistent past page) {event : Event Pointer}
    (hpermitted : page.Permitted event) :
    Consistent (past ++ calls [event]) (page.after event) := by
  cases hpermitted with
  | call call answers htransition hsync =>
    obtain ⟨input, heq, htracker, hagrees⟩ :=
      ControllerInput.run_eq ⟨htransition, hsync⟩ h.agrees call
    have htracked : Ends ControllerInput.Tracked ControllerInput.Tracked
        (page.input.run answers call) := ControllerInput.run_tracked h.tracked call
    have hafter : page.after (.call call answers) = { page with input := input } := by
      show { page with input := left (page.input.run answers call) } = _
      rw [heq]
      rfl
    rw [heq] at htracked
    rw [hafter]
    refine ⟨?_, ?_, hagrees, htracked⟩
    · show input.tracker.owned = owners (past ++ [call])
      rw [htracker, PointerButtonTracker.owned_run, h.owned, owners_snoc]
    · show ControllerPage.replayed (past ++ [call]) =
        (input.tracker, input.tracker.pressedButtons.toFinset)
      rw [replayed_snoc, h.replayed, PointerButtonTracker.replay_run, htracker]
  | entry entry answers henabled hmessage hleaves =>
    have hnone : past ++ calls [Event.entry entry answers] = past := List.append_nil past
    rw [hnone]
    refine ⟨h.owned, h.replayed, ⟨h.agrees.shown, ?_⟩, (h.tracked.runEntry henabled).left⟩
    exact h.agrees.session.runEntry h.tracked.wired.current hleaves hmessage

/-- **Nobody holds a button that no pointer owns, and every button that one owns is held**:
by the tracker, on the page and in the session, after every call. -/
theorem pointer_ownership {first page : ControllerPage Pointer} {events : List (Event Pointer)}
    (hfirst : (system Pointer).start first) (hrun : Run (system Pointer) first events page) :
    OwnershipLaw (calls events) page := by
  refine Consistent.law ?_
  induction hrun with
  | nil =>
    obtain ⟨options, initialSequence, rfl⟩ := hfirst
    exact consistent_start options initialSequence
  | @snoc events page page' event hrun hstep ih =>
    have hsnoc : calls (events ++ [event]) = calls events ++ calls [event] :=
      List.filterMap_append
    obtain ⟨hpermitted, rfl⟩ := hstep
    rw [hsnoc]
    exact ih.after hpermitted

/-! ## Two pointers on one button -/

/-- A transport that fails at nothing. -/
def reliable : InputAnswers := ⟨fun _ => ⟨true, true, true⟩, ⟨true, true, true⟩⟩

theorem permitted_reliable (page : ControllerPage Nat)
    (call : PointerButtonTracker.Call Nat) : page.Permitted (.call call reliable) :=
  .call call reliable (fun _ _ _ _ => rfl) fun _ _ _ => rfl

def newPage : ControllerPage Nat := start { token := "token" } ⟨0, Nat.zero_le _⟩

/-- Two fingers hold a button of a page that is connected, and one of them lets go. -/
def slide : List (Event Nat) :=
  [.entry .connect ⟨true, true, true⟩, .entry (.callback 1 .opened) ⟨true, true, true⟩,
    .entry (.callback 1 (.message (some (.welcome .v1 "pad")))) ⟨true, true, true⟩,
    .call (.set 7 [.up, .right]) reliable, .call (.press 9 .right) reliable,
    .call (.set 7 [.up]) reliable, .call (.releaseButtons [.up]) reliable]

theorem run_slide : Run (system Nat) newPage slide (slide.foldl after newPage) := by
  have hstep : ∀ {events : List (Event Nat)} {page : ControllerPage Nat} (event : Event Nat),
      page.Permitted event → Run (system Nat) newPage events page →
        Run (system Nat) newPage (events ++ [event]) (page.after event) :=
    fun event hpermitted hrun => hrun.snoc ⟨hpermitted, rfl⟩
  have hconnect := hstep (.entry .connect ⟨true, true, true⟩)
    (.entry _ _ trivial nofun trivial) .nil
  have hopen := hstep (.entry (.callback 1 .opened) ⟨true, true, true⟩)
    (.entry _ _ (by decide : 1 ∈ _) nofun trivial) hconnect
  have hwelcome := hstep
    (.entry (.callback 1 (.message (some (.welcome .v1 "pad")))) ⟨true, true, true⟩)
    (.entry _ _ (by decide : 1 ∈ _) (by rintro g data heq; cases heq; decide) trivial) hopen
  have hset := hstep (.call (.set 7 [.up, .right]) reliable) (permitted_reliable _ _) hwelcome
  have hpress := hstep (.call (.press 9 .right) reliable) (permitted_reliable _ _) hset
  have hslide := hstep (.call (.set 7 [.up]) reliable) (permitted_reliable _ _) hpress
  exact hstep (.call (.releaseButtons [.up]) reliable) (permitted_reliable _ _) hslide

/-- The other one still presses it. -/
theorem pointer_ownership_slide : OwnershipLaw (calls slide) (slide.foldl after newPage) ∧
    (slide.foldl after newPage).input.session.desiredButtons = {.right} := by
  have hstart : (system Nat).start newPage := ⟨_, _, rfl⟩
  have hlaw := pointer_ownership hstart run_slide
  refine ⟨hlaw, ?_⟩
  rw [hlaw.desired]
  decide +kernel

end ControllerPage

end Pockiva
