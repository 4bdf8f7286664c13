import Pockiva.Desktop.RemoteInput
import Pockiva.MachineRuns
import Pockiva.RemoteController.SentInput
import Pockiva.RemoteController.StaleCallbacks

/-! # The desktop holds what the player wants

The worker applies the messages of one connection in the order they were sent, up to some
point, while its generation is not cancelled.  Whatever else it does between them, after
each message the remote controller holds the buttons that were wanted when the message was
sent.
-/
namespace Pockiva

open Transition
open Network (ClientMessage)

variable {M : MixerModel}

/-! ## Joypad states and sets of buttons -/

namespace JoypadState

theorem mask_getLsbD (button other : Button) :
    button.mask.getLsbD (bitOf other) = decide (other = button) := by
  cases button <;> cases other <;> rfl

theorem isPressed_press (s : JoypadState) (button other : Button) :
    (s.press button).isPressed other = (s.isPressed other || decide (other = button)) := by
  rw [isPressed_eq, isPressed_eq, press, BitVec.getLsbD_or, mask_getLsbD]

theorem bitOf_lt (button : Button) : bitOf button < 8 := by
  cases button <;> decide

theorem isPressed_release (s : JoypadState) (button other : Button) :
    (s.release button).isPressed other = (s.isPressed other && !decide (other = button)) := by
  rw [isPressed_eq, isPressed_eq, release, BitVec.getLsbD_and, BitVec.getLsbD_not, mask_getLsbD,
    decide_eq_true (bitOf_lt other), Bool.true_and]

/-- The state holds exactly these buttons of the protocol. -/
def Holds (s : JoypadState) (wanted : Finset Network.Button) : Prop :=
  ∀ button, s.isPressed (mapNetworkButton button) = decide (button ∈ wanted)

theorem mapNetworkButton_inj {button other : Network.Button} :
    mapNetworkButton button = mapNetworkButton other ↔ button = other := by
  constructor
  · cases button <;> cases other <;> first | exact fun _ => rfl | exact nofun
  · exact congrArg mapNetworkButton

/-- The buttons pressed one after the other. -/
theorem isPressed_foldl (buttons : List Network.Button) (s : JoypadState)
    (button : Network.Button) :
    (buttons.foldl (fun state button => state.press (mapNetworkButton button)) s).isPressed
        (mapNetworkButton button) =
      (s.isPressed (mapNetworkButton button) || decide (button ∈ buttons)) := by
  induction buttons generalizing s with
  | nil => simp
  | cons first rest ih =>
    rw [List.foldl_cons, ih, isPressed_press, Bool.or_assoc, ← Bool.decide_or]
    congr 2
    rw [mapNetworkButton_inj, List.mem_cons]

namespace Holds
variable {s : JoypadState} {wanted : Finset Network.Button}

/-- A full state-sync. -/
theorem sync (wanted : Finset Network.Button) :
    ((buttonOrder.filter fun button => button ∈ wanted).foldl
      (fun state button => state.press (mapNetworkButton button)) released).Holds wanted := by
  intro button
  rw [isPressed_foldl, isPressed_released, Bool.false_or]
  refine decide_eq_decide.mpr ?_
  rw [List.mem_filter, decide_eq_true_eq]
  exact and_iff_right (mem_buttonOrder button)

theorem press (h : s.Holds wanted) (button : Network.Button) :
    (s.press (mapNetworkButton button)).Holds (insert button wanted) := by
  intro other
  rw [isPressed_press, h other, ← Bool.decide_or]
  congr 1
  rw [mapNetworkButton_inj, Finset.mem_insert, or_comm]

theorem release (h : s.Holds wanted) (button : Network.Button) :
    (s.release (mapNetworkButton button)).Holds (wanted.erase button) := by
  intro other
  rw [isPressed_release, h other, ← decide_not, ← Bool.decide_and]
  refine decide_eq_decide.mpr ?_
  rw [mapNetworkButton_inj, Finset.mem_erase, and_comm]

end Holds

end JoypadState

/-! ## The worker while one connection is the controller -/

namespace Runtime

/-- What the worker does while connection `c` has the live generation `n + 1`. -/
inductive InputLabel where
  | message (message : ClientMessage)
  | other

inductive InputStep (c : Network.ControllerConnectionId) (n : Nat) (r : Runtime M) :
    InputLabel → Runtime M → Prop where
  /-- `apply_controller_event` with a message of the connection. -/
  | message (message : ClientMessage) :
    InputStep c n r (.message message)
      (r.applyControllerEvent (.message c remoteInputSource message) (n + 1) n).2
  | connected :
    InputStep c n r .other (r.applyControllerEvent (.connected c remoteInputSource) (n + 1) n).2
  /-- An event of a cancelled generation. -/
  | cancelled (event : Network.ControllerEvent) {generation : Nat} (hcancelled : generation ≤ n) :
    InputStep c n r .other (r.applyControllerEvent event generation n).2
  | command {command : Command} (hfrontend : DesktopRuntime.FromFrontend command) :
    InputStep c n r .other (r.handleCommand command n).2
  | tick : InputStep c n r .other r.runTick
  | drain : InputStep c n r .other (r.drainCancelledRemoteInput n)

/-- The worker with one connection, from any state on. -/
def inputSystem (c : Network.ControllerConnectionId) (n : Nat) (r : Runtime M) :
    System (Runtime M) InputLabel where
  start s := s = r
  step := InputStep c n

/-- The messages that were applied. -/
def delivered (labels : List InputLabel) : List ClientMessage :=
  labels.filterMap fun label => match label with
    | .message message => some message
    | .other => none

variable {r : Runtime M}

/-! ### What does not concern the remote input -/

theorem remoteInputs_publishControl : r.publishControl.2.remoteInputs = r.remoteInputs := by
  unfold publishControl
  split
  · rfl
  · split <;> rfl

theorem remoteInputs_publishFrame (f : Frame) :
    (r.publishFrame f).remoteInputs = r.remoteInputs := by
  unfold publishFrame
  split
  · rfl
  · split <;> rfl

theorem remoteInputs_offerFrame (f : Frame) : (r.offerFrame f).remoteInputs = r.remoteInputs := by
  unfold offerFrame
  split
  · rfl
  · dsimp only
    split
    · exact remoteInputs_publishFrame _
    · rfl

theorem remoteInputs_acknowledgeFrame (sequence index : Nat) :
    (r.acknowledgeFrame sequence index).2.remoteInputs = r.remoteInputs := by
  unfold acknowledgeFrame
  dsimp only
  split
  · rfl
  · split
    · exact remoteInputs_publishFrame _
    · rfl

theorem remoteInputs_applyModel (model : Except RuntimeError RuntimeModel) :
    (r.applyModel model).2.remoteInputs = r.remoteInputs := by
  cases model with
  | error e => rfl
  | ok model => exact remoteInputs_publishControl

theorem remoteInputs_runTick : r.runTick.remoteInputs = r.remoteInputs := by
  unfold runTick
  split
  · exact remoteInputs_publishControl
  · dsimp only
    split
    · split
      · split
        · exact remoteInputs_offerFrame _
        · rfl
      · rfl
    · exact remoteInputs_publishControl

theorem remoteInputs_loadRom (file : Option (List Byte)) (fileName : String) (clock : Clock)
    (sampleRate : Nat) :
    (r.loadRom file fileName clock sampleRate).2.remoteInputs = r.remoteInputs := by
  unfold loadRom
  split
  · rfl
  · dsimp only
    split <;> rfl

theorem remoteInputs_restartCore : r.restartCore.2.remoteInputs = r.remoteInputs := by
  unfold restartCore
  split
  · rfl
  · split
    · rfl
    · dsimp only
      split
      · rfl
      · split <;> rfl

/-- **Commands of the frontend keep the remote input.** -/
theorem remoteInputs_handleCommand {command : Command}
    (hfrontend : DesktopRuntime.FromFrontend command) (n : Nat) :
    (r.handleCommand command n).2.remoteInputs = r.remoteInputs := by
  cases command with
  | subscribe observer => exact remoteInputs_publishControl
  | acknowledgeFrame sequence index => exact remoteInputs_acknowledgeFrame sequence index
  | openRom file fileName clock sampleRate =>
    show (Runtime.publishControl _).2.remoteInputs = _
    rw [remoteInputs_publishControl, remoteInputs_loadRom, remoteInputs_publishControl]
    rfl
  | start => exact remoteInputs_applyModel _
  | pause => exact remoteInputs_applyModel _
  | restart =>
    show (if _ then _ else _ : Runtime M).remoteInputs = _
    split
    · rw [remoteInputs_publishControl, remoteInputs_restartCore]
      rfl
    · rw [remoteInputs_restartCore]
      rfl
  | close => exact remoteInputs_publishControl
  | setKeyboardInput buttons =>
    show (r.setKeyboardInput buttons).2.remoteInputs = _
    unfold setKeyboardInput
    split <;> rfl
  | controllerEvent event generation => exact hfrontend.elim
  | snapshot => rfl
  | shutdown => rfl

/-! ### Messages of the connection -/

/-- The snapshot is of this generation and holds these buttons, if any are known. -/
def Knows (n : Nat) (r : Runtime M) (known : Option (Finset Network.Button)) : Prop :=
  ∀ wanted, known = some wanted → ∃ state, r.remoteInputs.retained = some ⟨n + 1, state⟩ ∧
    state.Holds wanted

variable {c : Network.ControllerConnectionId} {n : Nat} {r' : Runtime M}
  {known : Option (Finset Network.Button)}

/-- What `apply_controller_event` makes of a message of the live generation. -/
theorem applyControllerEvent_message (message : ClientMessage) :
    (∃ e, stateAfterMessage r.remoteInputs remoteInputSource (n + 1) message = .error e ∧
      (r.applyControllerEvent (.message c remoteInputSource message) (n + 1) n).2 = r) ∨
    ∃ state, stateAfterMessage r.remoteInputs remoteInputSource (n + 1) message = .ok state ∧
      (r.applyControllerEvent (.message c remoteInputSource message) (n + 1)
        n).2.remoteInputs.retained = some ⟨n + 1, state⟩ := by
  unfold applyControllerEvent
  rw [validateRemoteEventSource, Network.ControllerEvent.inputSource, if_pos rfl]
  dsimp only
  rw [if_neg (Nat.not_succ_le_self n)]
  split
  · rename_i e he
    exact .inl ⟨e, he, rfl⟩
  · rename_i state hstate
    exact .inr ⟨state, hstate, rfl⟩

theorem heldInGeneration_retained {state : JoypadState}
    (h : r.remoteInputs.retained = some ⟨n + 1, state⟩) :
    heldInGeneration r.remoteInputs remoteInputSource (n + 1) = state := by
  unfold heldInGeneration
  rw [RemoteInputs.retained] at h
  rw [h, Option.filter_some, beq_self_eq_true]
  rfl

/-- A message that leads to a state. -/
theorem retained_message {message : ClientMessage} {state : JoypadState}
    (h : stateAfterMessage r.remoteInputs remoteInputSource (n + 1) message = .ok state) :
    (r.applyControllerEvent (.message c remoteInputSource message) (n + 1)
      n).2.remoteInputs.retained = some ⟨n + 1, state⟩ := by
  rcases applyControllerEvent_message (r := r) (c := c) (n := n) message with
    ⟨e, he, -⟩ | ⟨state', hstate, hretained⟩
  · rw [h] at he
    cases he
  · rw [h] at hstate
    cases hstate
    exact hretained

/-- **A message makes the worker hold the buttons it was sent with.** -/
theorem Knows.message (h : r.Knows n known) {m : SentMessage}
    (hm : m.IsFullSync ∨ ∃ wanted, known = some wanted ∧ m.IsDelta wanted) :
    (r.applyControllerEvent (.message c remoteInputSource m.message) (n + 1) n).2.Knows n
      (some m.desired) := by
  rintro _ ⟨rfl⟩
  rcases hm with ⟨sequence, hsync⟩ | ⟨wanted, hknown, hdelta⟩
  · rw [hsync]
    exact ⟨_, retained_message rfl, .sync m.desired⟩
  · obtain ⟨state, hretained, hholds⟩ := h wanted hknown
    have hheld := heldInGeneration_retained hretained
    rcases hdelta with ⟨button, sequence, hdown, hdesired⟩ | ⟨button, sequence, hup, hdesired⟩ |
      ⟨sequence, hping, hdesired⟩
    · rw [hdown, hdesired]
      refine ⟨_, retained_message rfl, ?_⟩
      rw [hheld]
      exact hholds.press button
    · rw [hup, hdesired]
      refine ⟨_, retained_message rfl, ?_⟩
      rw [hheld]
      exact hholds.release button
    · rw [hping, hdesired]
      rcases applyControllerEvent_message (r := r) (c := c) (n := n) (.ping sequence) with
        ⟨e, -, hsame⟩ | ⟨state', hstate, -⟩
      · rw [hsame]
        exact ⟨state, hretained, hholds⟩
      · cases hstate

/-- The worker is `Retained` with generations up to `n` drained, and what else it does leaves
its snapshot alone. -/
theorem InputStep.other {label : InputLabel} (hstep : InputStep c n r label r')
    (hretained : r.Retained n) (hother : label = .other) :
    r'.Retained n ∧ r'.remoteInputs.retained = r.remoteInputs.retained := by
  cases hstep with
  | message => cases hother
  | connected =>
    refine ⟨hretained.applyControllerEvent (Nat.le_refl _) (Nat.le_refl _), ?_⟩
    unfold applyControllerEvent
    rw [validateRemoteEventSource, Network.ControllerEvent.inputSource, if_pos rfl]
    dsimp only
    rw [if_neg (Nat.not_succ_le_self n)]
    rfl
  | cancelled event hcancelled =>
    refine ⟨hretained.applyControllerEvent (Nat.le_succ_of_le hcancelled) (Nat.le_refl _), ?_⟩
    unfold applyControllerEvent
    split
    · rfl
    · rw [if_pos hcancelled]
  | command hfrontend =>
    refine ⟨hretained.handleCommand ?_ (Nat.le_refl _), ?_⟩
    · rintro event generation rfl
      exact hfrontend.elim
    · rw [remoteInputs_handleCommand hfrontend]
  | tick => exact ⟨hretained.runTick, by rw [remoteInputs_runTick]⟩
  | drain =>
    unfold drainCancelledRemoteInput
    rw [if_pos (Nat.le_of_eq hretained.cleared.symm)]
    exact ⟨hretained, rfl⟩

/-- The message of a step. -/
theorem InputStep.message_knows {m : SentMessage} (hstep : InputStep c n r (.message m.message) r')
    (hretained : r.Retained n) (h : r.Knows n known)
    (hm : m.IsFullSync ∨ ∃ wanted, known = some wanted ∧ m.IsDelta wanted) :
    r'.Retained n ∧ r'.Knows n (some m.desired) := by
  generalize hlabel : InputLabel.message m.message = label at hstep
  cases hstep with
  | message message =>
    cases hlabel
    exact ⟨hretained.applyControllerEvent (Nat.le_refl _) (Nat.le_refl _), h.message hm⟩
  | _ => cases hlabel

/-- **After a run the worker knows what the delivered messages show.** -/
theorem run_knows {labels : List InputLabel} (hrun : Run (inputSystem c n r) r labels r')
    (hretained : r.Retained n) {messages : List SentMessage} (hshown : Shown messages known)
    (hdelivered : delivered labels = messages.map SentMessage.message) :
    r'.Retained n ∧ r'.Knows n known := by
  induction hrun generalizing messages known with
  | nil =>
    obtain rfl := List.map_eq_nil_iff.mp hdelivered.symm
    refine ⟨hretained, ?_⟩
    intro wanted hknown
    exact absurd rfl (hshown.ne_nil (by rw [hknown]; exact Option.some_ne_none wanted))
  | @snoc labels r₁ r₂ label hprior hstep ih =>
    replace hstep : InputStep c n r₁ label r₂ := hstep
    cases label with
    | other =>
      have hsame : delivered (labels ++ [.other]) = delivered labels := by
        unfold delivered
        rw [List.filterMap_append]
        exact List.append_nil _
      obtain ⟨hret, hknows⟩ := ih hshown (hsame.symm.trans hdelivered)
      obtain ⟨hret', hinputs⟩ := hstep.other hret rfl
      refine ⟨hret', ?_⟩
      intro wanted hknown
      rw [hinputs]
      exact hknows wanted hknown
    | message message =>
      have hsnoc : delivered (labels ++ [.message message]) = delivered labels ++ [message] := by
        unfold delivered
        rw [List.filterMap_append]
        rfl
      rw [hsnoc] at hdelivered
      rcases List.eq_nil_or_concat' messages with rfl | ⟨before, m, rfl⟩
      · exact absurd hdelivered (by simp)
      · rw [List.map_append] at hdelivered
        obtain ⟨hbefore, hlast⟩ := List.append_inj' hdelivered rfl
        obtain rfl := List.singleton_inj.mp hlast
        obtain ⟨knownBefore, hshownBefore, hm⟩ := hshown.upTo rfl
        obtain ⟨hret, hknows⟩ := ih hshownBefore hbefore
        obtain ⟨hret', hknows'⟩ := hstep.message_knows hret hknows hm
        rw [hshown.known_eq rfl]
        exact ⟨hret', hknows'⟩

end Runtime

/-- **The desktop follows the page**: what is sent on a connection after its authentication
begins with a full state-sync, and after the worker has applied any message of it, in order
from the first, the remote controller holds, in its snapshot and on the core, exactly the
buttons that were wanted when the message was sent. -/
theorem input_simulation {s : ControllerSession} (h : Reachable ControllerSession.system s)
    {d : DesktopRuntime M} (hd : Reachable (DesktopRuntime.system M) d) (g : Nat) :
    (∀ m ∈ (s.authenticatedOn g).head?, m.IsFullSync) ∧
    ∀ c before m after, s.authenticatedOn g = before ++ m :: after →
      ∀ labels r₁ r₂,
        Run (Runtime.inputSystem c d.runtime.remoteInputs.clearedThrough d.runtime) d.runtime
          labels r₁ →
        Runtime.delivered labels = before.map SentMessage.message →
        Runtime.InputStep c d.runtime.remoteInputs.clearedThrough r₁ (.message m.message) r₂ →
        ∃ state : JoypadState, state.Holds m.desired ∧
          r₂.remoteInputs.retained =
            some ⟨d.runtime.remoteInputs.clearedThrough + 1, state⟩ ∧
          ∀ core, r₂.core = some core → core.remoteHeld = state := by
  obtain ⟨known, hshown⟩ := (ControllerSession.tracked_of_reachable h).shown g
  refine ⟨hshown.head, ?_⟩
  intro c before m after hsent labels r₁ r₂ hrun hdelivered hstep
  obtain ⟨knownBefore, hbefore, hm⟩ := hshown.upTo hsent
  have hretained := (DesktopRuntime.barrier_of_reachable hd).retained
  obtain ⟨hret, hknows⟩ := Runtime.run_knows hrun hretained hbefore hdelivered
  obtain ⟨hret', hknows'⟩ := hstep.message_knows hret hknows hm
  obtain ⟨state, hstate, hholds⟩ := hknows' m.desired rfl
  refine ⟨state, hholds, hstate, ?_⟩
  intro core hcore
  rw [hret'.core core hcore, RemoteInputs.held, hstate]

/-! ## A loaded game -/

namespace Runtime

theorem core_publishControl (r : Runtime M) : r.publishControl.2.core = r.core := by
  unfold publishControl
  split
  · rfl
  · split <;> rfl

/-- An image that loads gives the worker a core. -/
theorem core_openRom (r : Runtime M) {rom : List Byte} {clock : Clock} {sampleRate : Nat}
    {metadata : CartridgeMetadata} {g : GameBoy M}
    (hload : (GameBoy.new clock sampleRate).loadRom rom none = (.ok metadata, g))
    (fileName : String) (n : Nat) :
    ∃ core, (r.handleCommand (.openRom (some rom) fileName clock sampleRate) n).2.core =
      some core := by
  have hloaded : ∀ s : Runtime M, ∃ core,
      (s.loadRom (some rom) fileName clock sampleRate).2.core = some core := by
    intro s
    simp only [loadRom]
    rw [hload]
    exact ⟨_, rfl⟩
  simp only [handleCommand]
  rw [core_publishControl]
  exact hloaded _

theorem isSome_core_applyControllerEvent (r : Runtime M) (event : Network.ControllerEvent)
    (generation n : Nat) :
    (r.applyControllerEvent event generation n).2.core.isSome = r.core.isSome := by
  unfold applyControllerEvent
  split
  · rfl
  · split
    · rfl
    · split
      · rfl
      · rfl
      · split
        · rfl
        · exact Option.isSome_map

/-- The worker after messages of the first connection of a phone. -/
def applied (r : Runtime M) (messages : List SentMessage) : Runtime M :=
  messages.foldl (fun r m => (r.applyControllerEvent
    (.message DesktopRuntime.phone remoteInputSource m.message) 1 0).2) r

theorem isSome_core_applied (r : Runtime M) (messages : List SentMessage) :
    (r.applied messages).core.isSome = r.core.isSome := by
  induction messages generalizing r with
  | nil => rfl
  | cons m messages ih => exact (ih _).trans (r.isSome_core_applyControllerEvent _ _ _)

end Runtime

/-- The desktop opens an image that loads. -/
theorem DesktopRuntime.exists_loaded {rom : List Byte} {cartridge : Cartridge}
    (h : Cartridge.load rom none 0 = .ok cartridge) :
    ∃ d : DesktopRuntime .mute, Reachable (system .mute) d ∧
      d.runtime.remoteInputs.clearedThrough = 0 ∧ d.runtime.core.isSome = true := by
  have hload := GameBoy.loadRom_loaded (g := .new (M := .mute) ⟨fun _ => 0, 0⟩ 48000) h
  have hfrontend : FromFrontend (.openRom (some rom) "game.gb" ⟨fun _ => 0, 0⟩ 48000) := trivial
  have hstart : Reachable (system .mute) spawned := .start rfl
  have hasked := reachable_step hstart (.request hfrontend (by decide))
  have hdrained := reachable_step hasked (.drainTop rfl)
  have hreceived := reachable_step hdrained (.receive rfl rfl)
  have hagain := reachable_step hreceived (.drainCommand rfl)
  have hhandled := reachable_step hagain (.handle rfl)
  refine ⟨_, hhandled, ?_, ?_⟩
  · show (Runtime.handleCommand _ _ _).2.remoteInputs.clearedThrough = 0
    rw [Runtime.remoteInputs_handleCommand hfrontend]
    rfl
  · obtain ⟨core, hcore⟩ := Runtime.core_openRom (Runtime.initial : Runtime .mute) hload "game.gb" 0
    exact Option.isSome_iff_exists.mpr ⟨core, hcore⟩

/-- What a page sends on its first connection: the state-sync of a held button, another button
goes down, and the first one up. -/
def upHeld : SentMessage := ⟨1, .stateSync [.up] ⟨0, Nat.zero_le _⟩, {.up}⟩

def aPressed : SentMessage := ⟨1, .buttonDown .a ⟨1, by decide⟩, {.a, .up}⟩

def upReleased : SentMessage := ⟨1, .buttonUp .up ⟨2, by decide⟩, {.a}⟩

/-- The player holds a button before the page connects. -/
def playing : ControllerSession :=
  (ControllerSession.new ⟨"token", 5000, 12000, [0, 500]⟩ ⟨0, Nat.zero_le _⟩).after
    [.syncButtons [.up], .connect, .callback 1 ControllerSession.welcome, .setButton .a true,
      .setButton .up false]

/-- The core of a loaded game holds what is held at the end. -/
theorem input_simulation_playing :
    playing.authenticatedOn 1 = [upHeld, aPressed, upReleased] ∧
      ∃ (d : DesktopRuntime .mute) (core : GameBoy .mute),
        Reachable (DesktopRuntime.system .mute) d ∧
          (d.runtime.applied [upHeld, aPressed, upReleased]).core = some core ∧
            core.remoteHeld.Holds {.a} := by
  have hpage : Reachable ControllerSession.system playing :=
    ControllerSession.reachable_after (.start ⟨_, _, rfl⟩) (by decide)
  have hsent : playing.authenticatedOn 1 = [upHeld, aPressed] ++ upReleased :: [] := by decide
  obtain ⟨d, hd, hcleared, hloaded⟩ := DesktopRuntime.exists_loaded (load_nopImage 0)
  obtain ⟨core, hcore⟩ := Option.isSome_iff_exists.mp
    ((d.runtime.isSome_core_applied [upHeld, aPressed, upReleased]).trans hloaded)
  obtain ⟨-, hfollows⟩ := input_simulation hpage hd 1
  rw [hcleared] at hfollows
  have hfirst : Run (Runtime.inputSystem DesktopRuntime.phone 0 d.runtime) d.runtime
      [.message upHeld.message] (d.runtime.applied [upHeld]) := .single (.message _)
  have hpress : Runtime.InputStep DesktopRuntime.phone 0 (d.runtime.applied [upHeld])
      (.message aPressed.message) (d.runtime.applied [upHeld, aPressed]) := .message _
  obtain ⟨state, hholds, -, hheld⟩ :=
    hfollows DesktopRuntime.phone _ _ [] hsent _ _ _ (hfirst.snoc hpress) rfl
      (.message upReleased.message)
  refine ⟨hsent, d, core, hd, hcore, ?_⟩
  rw [hheld core hcore]
  exact hholds

end Pockiva
