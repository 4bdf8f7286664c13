import Pockiva.HaltedCore
import Pockiva.Hooks.KeyboardInput
import Pockiva.RemoteController.InputSimulation

/-! # From the keyboard to the core

A call of `setKeyboardInput` goes through the queue of the worker to the core.  It can be
refused because the queue is full, its answer can time out while it is still in the queue, and
other commands replace or restart the core meanwhile.  `keyboard_path` states that none of it
leaves a button held on the core that the page has released: once the last call has gone
through, the core holds what is pressed, or nothing if it was restarted since.
-/
namespace Pockiva

open Transition

variable {M : MixerModel}

namespace GameBoy

/-- What the keyboard holds on the core. -/
def keyboardHeld (g : GameBoy M) : JoypadState := g.inputs.held keyboardInputSource

variable (g : GameBoy M)

theorem keyboardHeld_setInput (state : JoypadState) :
    (g.setInput keyboardInputSource state).keyboardHeld = state :=
  (g.inputs.held_set _ _ _).trans (if_pos rfl)

theorem keyboardHeld_setInput_remote (state : JoypadState) :
    (g.setInput remoteInputSource state).keyboardHeld = g.keyboardHeld :=
  (g.inputs.held_set _ _ _).trans (if_neg (by decide))

theorem keyboardHeld_clear : (g.clearInputSource keyboardInputSource).keyboardHeld = .released :=
  (g.inputs.held_clear _ _).trans (if_pos rfl)

theorem keyboardHeld_clear_remote :
    (g.clearInputSource remoteInputSource).keyboardHeld = g.keyboardHeld :=
  (g.inputs.held_clear _ _).trans (if_neg (by decide))

end GameBoy

namespace Runtime

/-! ## What the keyboard holds in the worker -/

/-- If there is a core, the keyboard holds `state` on it. -/
structure Keyed (state : JoypadState) (r : Runtime M) : Prop where
  only : r.remoteInputs.Only
  core : ∀ g, r.core = some g → g.keyboardHeld = state

theorem only_of_empty {inputs : RemoteInputs} (h : inputs.snapshots = []) : inputs.Only := by
  rw [RemoteInputs.Only, RemoteInputs.retained, RemoteInputs.get, h]
  rfl

theorem keyboardHeld_applyRetained (g : GameBoy M) {inputs : RemoteInputs} (h : inputs.Only) :
    (applyRetainedRemoteInputs g inputs).keyboardHeld = g.keyboardHeld := by
  rw [applyRetainedRemoteInputs, h]
  cases inputs.retained with
  | none => rfl
  | some snapshot => exact g.keyboardHeld_setInput_remote snapshot.state

namespace Keyed
variable {state : JoypadState} {r s : Runtime M}

theorem initial : Keyed .released (Runtime.initial : Runtime M) :=
  ⟨RemoteInputs.only_initial, fun g hg => by cases hg⟩

theorem keep (h : Keyed state r) (hinputs : s.remoteInputs = r.remoteInputs)
    (hcore : s.core = r.core) : Keyed state s :=
  ⟨by rw [hinputs]; exact h.only, by rw [hcore]; exact h.core⟩

/-- The core is another one. -/
theorem withCore (h : Keyed state r) {g : GameBoy M} {other : JoypadState}
    (hheld : g.keyboardHeld = other) (hinputs : s.remoteInputs = r.remoteInputs)
    (hcore : s.core = some g) : Keyed other s := by
  refine ⟨by rw [hinputs]; exact h.only, fun k hk => ?_⟩
  obtain rfl := Option.some.inj (hcore.symm.trans hk)
  exact hheld

theorem dropCore (h : Keyed state r) (other : JoypadState) : Keyed other r.dropCore :=
  ⟨h.only, fun g hg => by cases hg⟩

theorem publishControl (h : Keyed state r) : Keyed state r.publishControl.2 := by
  unfold Runtime.publishControl
  split
  · exact h
  · split <;> exact h.keep rfl rfl

theorem publishFrame (h : Keyed state r) (f : Frame) : Keyed state (r.publishFrame f) := by
  unfold Runtime.publishFrame
  split
  · exact h.keep rfl rfl
  · split <;> exact h.keep rfl rfl

theorem offerFrame (h : Keyed state r) (f : Frame) : Keyed state (r.offerFrame f) := by
  unfold Runtime.offerFrame
  split
  · exact h.keep rfl rfl
  · dsimp only
    split
    · refine publishFrame ?_ _
      exact h.keep rfl rfl
    · exact h.keep rfl rfl

theorem acknowledgeFrame (h : Keyed state r) (sequence index : Nat) :
    Keyed state (r.acknowledgeFrame sequence index).2 := by
  unfold Runtime.acknowledgeFrame
  dsimp only
  split
  · exact h.keep rfl rfl
  · split
    · refine publishFrame ?_ _
      exact h.keep rfl rfl
    · exact h.keep rfl rfl

theorem applyModel (h : Keyed state r) (model : Except RuntimeError RuntimeModel) :
    Keyed state (r.applyModel model).2 := by
  cases model with
  | error e => exact h
  | ok model => exact publishControl (r := { r with model := model }) (h.keep rfl rfl)

/-- **A tick keeps the keyboard.** -/
theorem runTick (h : Keyed state r) : Keyed state r.runTick := by
  unfold Runtime.runTick
  split
  · exact publishControl (r := { r with model := r.model.failLoad runtimeUnavailable })
      (h.keep rfl rfl)
  · next active hactive =>
    have hran : ((active.runCycles frameCycleBudget).2.drainAudio.2).keyboardHeld = state := by
      rw [GameBoy.keyboardHeld, GameBoy.inputs_drainAudio, GameBoy.inputs_runCycles]
      exact h.core active hactive
    dsimp only
    generalize (active.runCycles frameCycleBudget).2.drainAudio.2 = ran at hran
    have htaken : ran.takeFrame.2.keyboardHeld = state := by
      rw [GameBoy.keyboardHeld, GameBoy.inputs_takeFrame]
      exact hran
    cases (active.runCycles frameCycleBudget).1 with
    | error e =>
      refine publishControl ?_
      exact h.withCore hran rfl rfl
    | ok outcome =>
      dsimp only
      split
      · cases ran.takeFrame.1 with
        | none => exact h.withCore htaken rfl rfl
        | some f =>
          refine offerFrame ?_ f
          exact h.withCore htaken rfl rfl
      · exact h.withCore hran rfl rfl

/-- Nothing is held on a new core. -/
theorem loadRom (h : Keyed .released r) (file : Option (List Byte)) (fileName : String)
    (clock : Clock) (sampleRate : Nat) :
    Keyed .released (r.loadRom file fileName clock sampleRate).2 := by
  unfold Runtime.loadRom
  cases file with
  | none => exact h.keep rfl rfl
  | some bytes =>
    dsimp only
    split
    · refine h.withCore ?_ rfl rfl
      rw [keyboardHeld_applyRetained _ h.only, GameBoy.keyboardHeld, GameBoy.inputs_loadRom]
      rfl
    · exact h.keep rfl rfl

/-- A restart lets the keyboard go, unless it is refused. -/
theorem restartCore (h : Keyed state r) :
    Keyed (if r.model.coreLoaded then .released else state) r.restartCore.2 := by
  unfold Runtime.restartCore
  rw [RuntimeModel.requireLoaded]
  by_cases hloaded : r.model.coreLoaded = true
  · rw [if_pos hloaded, if_pos hloaded]
    dsimp only
    split
    · next hnone => exact ⟨h.only, fun g hg => by rw [hnone] at hg; cases hg⟩
    · next active hactive =>
      have hreset : (active.clearInputSource keyboardInputSource).reset.2.keyboardHeld =
          .released := by
        rw [GameBoy.keyboardHeld, GameBoy.inputs_reset]
        exact active.keyboardHeld_clear
      have hretained := (keyboardHeld_applyRetained
        (active.clearInputSource keyboardInputSource).reset.2 h.only).trans hreset
      split
      · exact h.withCore hreset rfl rfl
      · split
        · exact h.withCore hretained rfl rfl
        · exact h.withCore hretained rfl rfl
  · rw [if_neg hloaded, if_neg hloaded]
    exact h

/-- A call of the keyboard takes the place of what it held before. -/
theorem setKeyboardInput (h : Keyed state r) (buttons : List Button) :
    Keyed (buttons.foldl JoypadState.press .released) (r.setKeyboardInput buttons).2 := by
  unfold Runtime.setKeyboardInput
  split
  · next hnone => exact ⟨h.only, fun g hg => by rw [hnone] at hg; cases hg⟩
  · next active _ => exact h.withCore (active.keyboardHeld_setInput _) rfl rfl

theorem drainCancelledRemoteInput (h : Keyed state r) (cancelledThrough : Nat) :
    Keyed state (r.drainCancelledRemoteInput cancelledThrough) := by
  unfold Runtime.drainCancelledRemoteInput
  split
  · exact h
  · refine ⟨?_, ?_⟩
    · dsimp only
      split
      · exact only_of_empty (RemoteInputs.Only.remove
          (i := { r.remoteInputs with owner := none, clearedThrough := cancelledThrough }) h.only)
      · exact h.only
    · rintro g hg
      obtain ⟨core, hcore, rfl⟩ := Option.map_eq_some_iff.mp hg
      exact core.keyboardHeld_clear_remote.trans (h.core core hcore)

theorem applyControllerEvent (h : Keyed state r) (event : Network.ControllerEvent)
    (generation cancelledThrough : Nat) :
    Keyed state (r.applyControllerEvent event generation cancelledThrough).2 := by
  unfold Runtime.applyControllerEvent
  split
  · exact h
  · next hvalid =>
    split
    · exact h
    · split
      · exact ⟨h.only, h.core⟩
      · exact h
      · next connectionId source message =>
        have hsource : source = remoteInputSource := by
          by_contra hother
          rw [validateRemoteEventSource, Network.ControllerEvent.inputSource,
            if_neg hother] at hvalid
          cases hvalid
        subst hsource
        dsimp only
        split
        · exact h
        · next held _ =>
          refine ⟨RemoteInputs.Only.insert (i := { r.remoteInputs with owner := some _ }) h.only _,
            ?_⟩
          rintro g hg
          obtain ⟨core, hcore, rfl⟩ := Option.map_eq_some_iff.mp hg
          exact (core.keyboardHeld_setInput_remote held).trans (h.core core hcore)

end Keyed

/-- What the keyboard holds after a command. -/
def keyboardAfter (r : Runtime M) (state : JoypadState) : Command → JoypadState
  | .setKeyboardInput buttons => buttons.foldl JoypadState.press .released
  | .openRom _ _ _ _ | .close | .shutdown => .released
  | .restart => if r.model.coreLoaded then .released else state
  | _ => state

/-- **Every command does to the keyboard what it should.** -/
theorem Keyed.handleCommand {state : JoypadState} {r : Runtime M} (h : Keyed state r)
    (command : Command) (cancelledThrough : Nat) :
    Keyed (r.keyboardAfter state command) (r.handleCommand command cancelledThrough).2 := by
  have hdropped : Keyed .released r.dropCore.clearDelivery := (h.dropCore _).keep rfl rfl
  cases command with
  | subscribe observer =>
    refine publishControl ?_
    exact h.keep rfl rfl
  | acknowledgeFrame sequence index => exact h.acknowledgeFrame sequence index
  | openRom file fileName clock sampleRate =>
    refine publishControl (loadRom (publishControl ?_) _ _ _ _)
    exact hdropped.keep rfl rfl
  | start => exact h.applyModel _
  | pause =>
    refine applyModel ?_ _
    exact h.keep rfl rfl
  | restart =>
    have hrestarted : Keyed (if r.model.coreLoaded then .released else state)
        r.clearDelivery.restartCore.2 := by
      have hcleared : Keyed state r.clearDelivery := h.keep rfl rfl
      exact hcleared.restartCore
    show Keyed _ (if _ then _ else _)
    split
    · exact hrestarted.publishControl
    · exact hrestarted
  | close =>
    refine publishControl ?_
    exact hdropped.keep rfl rfl
  | setKeyboardInput buttons => exact h.setKeyboardInput buttons
  | controllerEvent event generation => exact h.applyControllerEvent event generation _
  | snapshot => exact h
  | shutdown => exact hdropped.keep rfl rfl

end Runtime

/-! ## The path -/

/-- The hook and the runtime its calls go to. -/
structure KeyboardPath (M : MixerModel) where
  hook : KeyboardHook
  runtime : DesktopRuntime M
  /-- The last call that was made has entered the queue. -/
  sent : Bool
  /-- Not in the source: what the last call told that the worker has handled. -/
  handled : List Button
  /-- Not in the source: it was handled on the core that is there now, since its last reset. -/
  told : Bool

namespace KeyboardPath

def initial : KeyboardPath M where
  hook := .initial
  runtime := .spawned
  sent := true
  handled := []
  told := false

/-- The command the worker has taken from the queue. -/
def inHand : WorkerState → List Runtime.Command
  | .received command | .drained command => [command]
  | _ => []

def keyboardOf : Runtime.Command → Option (List Button)
  | .setKeyboardInput buttons => some buttons
  | _ => none

/-- The calls that are under way between the page and the core, oldest first. -/
def pending (d : DesktopRuntime M) : List (List Button) :=
  (inHand d.worker ++ d.queue).filterMap keyboardOf

/-- The record after a command. -/
def record (p : KeyboardPath M) (d : DesktopRuntime M) : Runtime.Command → KeyboardPath M
  | .setKeyboardInput buttons => { p with runtime := d, handled := buttons, told := true }
  | .openRom _ _ _ _ | .close | .shutdown => { p with runtime := d, told := false }
  | .restart => { p with
      runtime := d, told := p.told && !p.runtime.runtime.model.coreLoaded }
  | _ => { p with runtime := d }

/-- A step of the page, of a call or of the runtime. -/
inductive Step (p : KeyboardPath M) : KeyboardPath M → Prop where
  /-- A key, a render, a change of focus. -/
  | page {event : KeyboardEvent} {g : KeyboardHook} (hwrite : event ≠ .write)
      (hsettled : ∀ rejected, event ≠ .settled rejected) (hstep : p.hook.step event = some g) :
      Step p { p with hook := g }
  | write {g : KeyboardHook} (hstep : p.hook.step .write = some g) :
      Step p { p with hook := g, sent := false }
  | send {sink : Nat} {buttons : List Button}
      (hrunning : p.hook.writeChain.running = some (sink, buttons)) (hsent : p.sent = false)
      (hroom : p.runtime.queue.length < commandQueueCapacity) :
      Step p { p with
        runtime := { p.runtime with
          queue := p.runtime.queue ++ [.setKeyboardInput buttons] }
        sent := true }
  /-- The answer: an error also if the queue is full or the answer comes too late. -/
  | settled {rejected : Bool} {g : KeyboardHook} (hanswer : rejected = false → p.sent = true)
      (hstep : p.hook.step (.settled rejected) = some g) : Step p { p with hook := g }
  | handle {command : Runtime.Command} {d : DesktopRuntime M}
      (hworker : p.runtime.worker = .drained command)
      (hstep : DesktopRuntime.Step p.runtime .handle d) : Step p (p.record d command)
  /-- Any other step of the runtime: other commands, controllers, ticks. -/
  | runtime {label : DesktopRuntime.Label} {d : DesktopRuntime M} (hhandle : label ≠ .handle)
      (hother : ∀ buttons, label ≠ .request (.setKeyboardInput buttons))
      (hstep : DesktopRuntime.Step p.runtime label d) : Step p { p with runtime := d }

/-- The page and the runtime from their start on. -/
def system (M : MixerModel) : System (KeyboardPath M) Unit where
  start p := p = initial
  step p _ q := Step p q

variable {p q : KeyboardPath M} {d : DesktopRuntime M}

/-- What the core has been told, and what is on the way. -/
structure Coherent (p : KeyboardPath M) : Prop where
  deaf : p.hook.Deaf
  told : p.hook.Told
  orderly : p.hook.writeChain.Orderly
  keyed : p.runtime.runtime.Keyed
    (if p.told then p.handled.foldl JoypadState.press .released else .released)
  sent : p.sent = true → (pending p.runtime).getLast?.getD p.handled =
    (p.hook.writeChain.made.map Prod.snd).getLast?.getD []

theorem coherent_initial : (initial : KeyboardPath M).Coherent :=
  ⟨fun _ => rfl, .initial, .idle, .initial, fun _ => rfl⟩

namespace Coherent

/-- The runtime goes on, and the calls that are under way stay so. -/
theorem moved (h : p.Coherent) (hpending : pending d = pending p.runtime)
    (hkeyed : d.runtime.Keyed
      (if p.told then p.handled.foldl JoypadState.press .released else .released)) :
    { p with runtime := d }.Coherent :=
  ⟨h.deaf, h.told, h.orderly, hkeyed, fun hsent => by rw [hpending]; exact h.sent hsent⟩

/-- **Every step of the runtime but those of the keyboard** leaves its calls alone. -/
theorem runtime (h : p.Coherent) {label : DesktopRuntime.Label} (hhandle : label ≠ .handle)
    (hother : ∀ buttons, label ≠ .request (.setKeyboardInput buttons))
    (hstep : DesktopRuntime.Step p.runtime label d) : { p with runtime := d }.Coherent := by
  cases hstep with
  | prepare => exact h.moved rfl h.keyed
  | send hprepared hroom =>
    refine h.moved ?_ h.keyed
    simp [pending, keyboardOf]
  | giveUp => exact h.moved rfl h.keyed
  | @request command hfrontend hroom =>
    refine h.moved ?_ h.keyed
    have hnone : keyboardOf command = none := by
      cases command with
      | setKeyboardInput buttons => exact absurd rfl (hother buttons)
      | _ => rfl
    simp [pending, hnone]
  | drainTop hworker =>
    refine h.moved ?_ (h.keyed.drainCancelledRemoteInput _)
    rw [pending, pending, hworker]
    rfl
  | tick => exact h.moved rfl h.keyed.runTick
  | receive hworker hqueue =>
    refine h.moved ?_ h.keyed
    rw [pending, pending, hworker, hqueue]
    rfl
  | timeout hworker =>
    refine h.moved ?_ h.keyed
    rw [pending, pending, hworker]
    rfl
  | drainCommand hworker =>
    refine h.moved ?_ (h.keyed.drainCancelledRemoteInput _)
    rw [pending, pending, hworker]
    rfl
  | handle => exact absurd rfl hhandle
  | disconnected hworker =>
    refine h.moved ?_ h.keyed
    rw [pending, pending, hworker]
    rfl

/-- The worker handles a command. -/
theorem handle (h : p.Coherent) {command : Runtime.Command}
    (hworker : p.runtime.worker = .drained command)
    (hstep : DesktopRuntime.Step p.runtime .handle d) : (p.record d command).Coherent := by
  cases hstep with
  | @handle other hother =>
    obtain rfl : other = command := by
      rw [hworker] at hother
      cases hother
      rfl
    have hkeyed := h.keyed.handleCommand other p.runtime.generations.cancelledThrough
    have hbefore : pending p.runtime =
        (keyboardOf other).toList ++ p.runtime.queue.filterMap keyboardOf := by
      rw [pending, hworker]
      cases hkey : keyboardOf other <;> simp [inHand, hkey]
    have hafter : ∀ runtime : Runtime M, pending { p.runtime with
        runtime := runtime
        worker := DesktopRuntime.afterCommand other } =
          p.runtime.queue.filterMap keyboardOf := by
      intro runtime
      cases other <;> rfl
    have hkept : keyboardOf other = none → p.sent = true →
        (p.runtime.queue.filterMap keyboardOf).getLast?.getD p.handled =
          (p.hook.writeChain.made.map Prod.snd).getLast?.getD [] := by
      intro hnone hsent
      have hsame := h.sent hsent
      rw [hbefore, hnone] at hsame
      exact hsame
    cases other with
    | setKeyboardInput buttons =>
      -- the oldest call leaves the way, and is the last that was handled
      refine ⟨h.deaf, h.told, h.orderly, hkeyed, fun hsent => ?_⟩
      have hsame := h.sent hsent
      rw [hbefore] at hsame
      change (pending { p.runtime with worker := _, runtime := _ }).getLast?.getD buttons = _
      rw [hafter]
      change (buttons :: p.runtime.queue.filterMap keyboardOf).getLast?.getD _ = _ at hsame
      rwa [List.getLast?_cons] at hsame
    | restart =>
      -- the core forgets its keys if there is one to restart
      refine ⟨h.deaf, h.told, h.orderly, ?_, hkept rfl⟩
      have hstate : (if p.told && !p.runtime.runtime.model.coreLoaded then
          p.handled.foldl JoypadState.press .released else .released) =
            p.runtime.runtime.keyboardAfter (if p.told then
              p.handled.foldl JoypadState.press .released else .released) .restart := by
        simp only [Runtime.keyboardAfter]
        cases p.told <;> cases p.runtime.runtime.model.coreLoaded <;> rfl
      rw [← hstate] at hkeyed
      exact hkeyed
    | openRom | close | shutdown =>
      exact ⟨h.deaf, h.told, h.orderly, hkeyed, hkept rfl⟩
    | _ => exact ⟨h.deaf, h.told, h.orderly, hkeyed, hkept rfl⟩

/-- A call enters the queue. -/
theorem send (h : p.Coherent) {sink : Nat} {buttons : List Button}
    (hrunning : p.hook.writeChain.running = some (sink, buttons)) :
    { p with
      runtime := { p.runtime with
        queue := p.runtime.queue ++ [Runtime.Command.setKeyboardInput buttons] }
      sent := true }.Coherent := by
  refine ⟨h.deaf, h.told, h.orderly, h.keyed, fun _ => ?_⟩
  have hpending : pending { p.runtime with
      queue := p.runtime.queue ++ [Runtime.Command.setKeyboardInput buttons] } =
        pending p.runtime ++ [buttons] := by
    simp [pending, keyboardOf]
  rw [hpending, List.getLast?_concat, List.getLast?_map, h.orderly _ hrunning]
  rfl

theorem step (h : p.Coherent) (hstep : Step p q) : q.Coherent := by
  cases hstep with
  | page hwrite hsettled hstep =>
    obtain ⟨_, hmade⟩ := KeyboardHook.step_sameCalls hwrite hsettled hstep
    refine ⟨h.deaf.step hstep, h.told.step hstep, KeyboardHook.orderly_step h.orderly hstep,
      h.keyed, ?_⟩
    rw [hmade]
    exact h.sent
  | write hstep =>
    exact ⟨h.deaf.step hstep, h.told.step hstep, KeyboardHook.orderly_step h.orderly hstep,
      h.keyed, nofun⟩
  | send hrunning _ _ => exact h.send hrunning
  | settled _ hstep =>
    refine ⟨h.deaf.step hstep, h.told.step hstep, KeyboardHook.orderly_step h.orderly hstep,
      h.keyed, ?_⟩
    obtain ⟨chain, hchain, rfl⟩ := Option.map_eq_some_iff.mp hstep
    obtain ⟨-, rfl⟩ := SerialCalls.settle_eq_some hchain
    exact h.sent
  | handle hworker hstep => exact h.handle hworker hstep
  | runtime hhandle hother hstep => exact h.runtime hhandle hother hstep

end Coherent

theorem coherent_of_reachable (h : Reachable (system M) p) : p.Coherent := by
  refine h.invariant (P := Coherent) ?_ fun _ _ _ hp hstep => hp.step hstep
  rintro _ rfl
  exact coherent_initial

/-! ## The law -/

/-- A call presses the buttons it lists. -/
theorem isPressed_buttons (buttons : List Button) (button : Button) :
    (buttons.foldl JoypadState.press .released).isPressed button = decide (button ∈ buttons) := by
  have hpressed : ∀ state : JoypadState, (buttons.foldl JoypadState.press state).isPressed button =
      (state.isPressed button || decide (button ∈ buttons)) := by
    induction buttons with
    | nil => simp
    | cons other buttons ih =>
      intro state
      rw [List.foldl_cons, ih, JoypadState.isPressed_press]
      by_cases heq : button = other <;> simp [heq]
  rw [hpressed, JoypadState.isPressed_released, Bool.false_or]

/-- No call waits or is under way, and the last one did not find the queue full. -/
def AtRest (p : KeyboardPath M) : Prop :=
  p.sent = true ∧ p.hook.writeChain.waiting = [] ∧ pending p.runtime = []

/-- What the core holds once the calls have gone through. -/
structure PathLaw (p : KeyboardPath M) : Prop where
  /-- The buttons that are pressed, unless the core was replaced or restarted since. -/
  held : p.AtRest → ∀ g, p.runtime.runtime.core = some g → ∀ button,
    g.keyboardHeld.isPressed button = (p.told && decide (button ∈ p.hook.pressed))
  /-- Nothing, if the page does not listen. -/
  released : p.AtRest → (∀ o, p.hook.effect = some o → o.listens = false) →
    ∀ g, p.runtime.runtime.core = some g → g.keyboardHeld = .released

/-- **No button sticks**, whatever comes between the keys and the core. -/
theorem keyboard_path (h : Reachable (system M) p) : p.PathLaw := by
  have hcoherent := coherent_of_reachable h
  have hheld : p.AtRest → ∀ g, p.runtime.runtime.core = some g → ∀ button,
      g.keyboardHeld.isPressed button = (p.told && decide (button ∈ p.hook.pressed)) := by
    rintro ⟨hsent, hwaiting, hpending⟩ g hg button
    have hlast := hcoherent.sent hsent
    have hlatest := hcoherent.told.latest
    rw [SerialCalls.all_of_drained hwaiting] at hlatest
    rw [hpending, hlatest] at hlast
    have hkeyed := hcoherent.keyed.core g hg
    change p.handled = pressedSnapshot p.hook.pressed at hlast
    rw [hkeyed, hlast]
    cases p.told with
    | true =>
      rw [if_pos rfl, isPressed_buttons, Bool.true_and]
      simp [pressedSnapshot, mem_runtimeButtons]
    | false => exact JoypadState.isPressed_released button
  refine ⟨hheld, fun hrest hdeaf g hg => JoypadState.ext_isPressed fun button => ?_⟩
  rw [hheld hrest g hg, hcoherent.deaf hdeaf, JoypadState.isPressed_released]
  simp

/-! ## A key is pressed -/

theorem reachable_step (h : Reachable (system M) p) (hstep : Step p q) :
    Reachable (system M) q := h.step (i := ()) hstep

theorem reachable_page (h : Reachable (system M) p) (event : KeyboardEvent) (g : KeyboardHook)
    (hwrite : event ≠ .write) (hsettled : ∀ rejected, event ≠ .settled rejected)
    (hstep : p.hook.step event = some g) : Reachable (system M) { p with hook := g } :=
  reachable_step h (.page hwrite hsettled hstep)

theorem reachable_runtime (h : Reachable (system M) p) (label : DesktopRuntime.Label)
    (hhandle : label ≠ .handle) (hother : ∀ buttons, label ≠ .request (.setKeyboardInput buttons))
    (hstep : DesktopRuntime.Step p.runtime label d) :
    Reachable (system M) { p with runtime := d } :=
  reachable_step h (.runtime hhandle hother hstep)

/-- The only command in the queue is taken and handled. -/
theorem reachable_handled (h : Reachable (system M) p) {command : Runtime.Command}
    (hqueue : p.runtime.queue = [command]) (hworker : p.runtime.worker = .looping) :
    ∃ d e, Reachable (system M) ({ p with runtime := d }.record e command) ∧ e.queue = [] ∧
      e.worker = DesktopRuntime.afterCommand command ∧
      e.runtime = (((p.runtime.runtime.drainCancelledRemoteInput
        p.runtime.generations.cancelledThrough).drainCancelledRemoteInput
        p.runtime.generations.cancelledThrough).handleCommand command
          p.runtime.generations.cancelledThrough).2 := by
  obtain ⟨hook, runtime, sent, handled, told⟩ := p
  obtain ⟨generations, connection, prepared, queue, worker, runtime⟩ := runtime
  cases hqueue
  cases hworker
  have hdrained := reachable_runtime h .drain nofun nofun (.drainTop rfl)
  have hreceived := reachable_runtime hdrained .receive nofun nofun (.receive rfl rfl)
  have hagain := reachable_runtime hreceived .drain nofun nofun (.drainCommand rfl)
  have hhandled := reachable_step hagain (.handle rfl (.handle rfl))
  exact ⟨_, _, hhandled, rfl, rfl, rfl⟩

/-- There is an image that loads. -/
theorem exists_opening : ∃ command : Runtime.Command,
    (∃ rom fileName clock sampleRate, command = .openRom (some rom) fileName clock sampleRate) ∧
      ∀ (r : Runtime M) n, ∃ core, (r.handleCommand command n).2.core = some core :=
  ⟨_, ⟨_, "halt.gb", ⟨fun _ => 0, 0⟩, 48000, rfl⟩, fun r n =>
    Runtime.core_openRom r (GameBoy.loadRom_halt _) "halt.gb" n⟩

/-- A call of the keyboard leaves the core in place. -/
theorem core_setKeyboardInput {r : Runtime M} {g : GameBoy M} (hcore : r.core = some g)
    (buttons : List Button) (m n : Nat) :
    ∃ core, (((r.drainCancelledRemoteInput m).drainCancelledRemoteInput m).handleCommand
      (.setKeyboardInput buttons) n).2.core = some core := by
  have hdrained : ∀ {s : Runtime M} {k : GameBoy M}, s.core = some k →
      ∃ k', (s.drainCancelledRemoteInput m).core = some k' := by
    intro s k hs
    unfold Runtime.drainCancelledRemoteInput
    split
    · exact ⟨k, hs⟩
    · exact ⟨_, congrArg (Option.map _) hs⟩
  obtain ⟨g₁, hg₁⟩ := hdrained hcore
  obtain ⟨g₂, hg₂⟩ := hdrained hg₁
  simp only [Runtime.handleCommand, Runtime.setKeyboardInput, hg₂]
  exact ⟨_, rfl⟩

/-- The hook after the key of a button went down, and after its call was made. -/
def pressing : KeyboardHook := ⟨{.a}, ⟨[(0, [.a])], none, []⟩, some KeyboardHook.gamePage⟩

def calling : KeyboardHook := ⟨{.a}, ⟨[], some (0, [.a]), [(0, [.a])]⟩, some KeyboardHook.gamePage⟩

/-- A game runs, and a key goes down. -/
theorem keyboard_path_keyDown : ∃ p : KeyboardPath .mute, p.PathLaw ∧ p.AtRest ∧
    ∃ g, p.runtime.runtime.core = some g ∧ g.keyboardHeld.isPressed .a = true := by
  obtain ⟨command, ⟨rom, fileName, clock, sampleRate, hcommand⟩, hopens⟩ :=
    exists_opening (M := .mute)
  have hstart : Reachable (system .mute) (initial : KeyboardPath .mute) := .start rfl
  have hfrontend : DesktopRuntime.FromFrontend command := by
    rw [hcommand]
    trivial
  have hother : ∀ buttons, DesktopRuntime.Label.request command ≠
      .request (.setKeyboardInput buttons) := by
    rintro buttons heq
    rw [hcommand] at heq
    cases heq
  have hasked := reachable_runtime hstart (.request command) nofun hother
    (.request hfrontend (by decide))
  obtain ⟨_, e, hopened, hqueue, hworker, hruntime⟩ := reachable_handled hasked rfl rfl
  obtain ⟨g, hg⟩ := hopens
    (((Runtime.initial : Runtime .mute).drainCancelledRemoteInput 0).drainCancelledRemoteInput 0) 0
  have hcore : e.runtime.core = some g := (congrArg Runtime.core hruntime).trans hg
  subst hcommand
  have hlistens := reachable_page hopened (.effect KeyboardHook.gamePage) _ nofun nofun rfl
  have hpressed := reachable_page hlistens (.keyDown "KeyX" false false) pressing nofun nofun rfl
  have hcalled := reachable_step hpressed (.write (g := calling) rfl)
  have hroom : e.queue.length < commandQueueCapacity := by
    rw [hqueue]
    decide
  have hsent := reachable_step hcalled (.send rfl rfl hroom)
  obtain ⟨_, f, hhandled, hqueue', hworker', hruntime'⟩ := reachable_handled hsent
    (congrArg (· ++ [Runtime.Command.setKeyboardInput [.a]]) hqueue) hworker
  obtain ⟨k, hk⟩ := core_setKeyboardInput hcore [.a] e.generations.cancelledThrough
    e.generations.cancelledThrough
  have hlaw := keyboard_path hhandled
  have hpending : pending f = [] := by
    rw [pending, hworker', hqueue']
    rfl
  have hheld := hlaw.held ⟨rfl, rfl, hpending⟩ k
    ((congrArg Runtime.core hruntime').trans hk) .a
  exact ⟨_, hlaw, ⟨rfl, rfl, hpending⟩, k, (congrArg Runtime.core hruntime').trans hk, hheld⟩

end KeyboardPath

end Pockiva
