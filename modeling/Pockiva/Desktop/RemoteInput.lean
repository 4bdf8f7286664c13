import Pockiva.Desktop.ControllerGenerations
import Pockiva.InputLines

/-! # The retained input of the remote controller

The worker keeps what the current generation of the controller holds and shows it to
every core it loads.  `Retained` says that core and snapshot agree; the barrier of
generations says that nothing of a cancelled generation survives the next drain or comes
back after it.
-/
namespace Pockiva

open Transition

variable {M : MixerModel}

namespace RemoteInputs

/-- The snapshot of the remote controller. -/
def retained (i : RemoteInputs) : Option RemoteInputSnapshot := i.get remoteInputSource

/-- What the remote controller holds according to its snapshot. -/
def held (i : RemoteInputs) : JoypadState :=
  match i.retained with
  | some snapshot => snapshot.state
  | none => .released

@[simp] theorem retained_insert (i : RemoteInputs) (snapshot : RemoteInputSnapshot) :
    (i.insert remoteInputSource snapshot).retained = some snapshot := rfl

/-- The remote controller is the only source of remote input. -/
def Only (i : RemoteInputs) : Prop :=
  i.snapshots = i.retained.toList.map fun snapshot => (remoteInputSource, snapshot)

theorem only_initial : initial.Only := rfl

theorem Only.remove {i : RemoteInputs} (h : i.Only) :
    (i.remove remoteInputSource).snapshots = [] := by
  rw [RemoteInputs.remove, h]
  cases i.retained <;> rfl

theorem Only.insert {i : RemoteInputs} (h : i.Only) (snapshot : RemoteInputSnapshot) :
    (i.insert remoteInputSource snapshot).Only := by
  rw [Only, retained_insert, RemoteInputs.insert]
  exact congrArg ((remoteInputSource, snapshot) :: ·) h.remove

end RemoteInputs

/-! ## The inputs of a core -/

namespace GameBoy
variable (g : GameBoy M)

/-- What the remote controller holds on the core. -/
def remoteHeld : JoypadState := g.inputs.held remoteInputSource

theorem remoteHeld_setInput (state : JoypadState) :
    (g.setInput remoteInputSource state).remoteHeld = state :=
  (g.inputs.held_set _ _ _).trans (if_pos rfl)

theorem remoteHeld_setInput_keyboard (state : JoypadState) :
    (g.setInput keyboardInputSource state).remoteHeld = g.remoteHeld :=
  (g.inputs.held_set _ _ _).trans (if_neg (by decide))

theorem remoteHeld_clear : (g.clearInputSource remoteInputSource).remoteHeld = .released :=
  (g.inputs.held_clear _ _).trans (if_pos rfl)

theorem remoteHeld_clear_keyboard :
    (g.clearInputSource keyboardInputSource).remoteHeld = g.remoteHeld :=
  (g.inputs.held_clear _ _).trans (if_neg (by decide))

theorem inputs_runCycles (budget : Nat) : (g.runCycles budget).2.inputs = g.inputs := by
  unfold runCycles
  split <;> rfl

theorem inputs_drainAudio : g.drainAudio.2.inputs = g.inputs := by
  unfold drainAudio
  split <;> rfl

theorem inputs_takeFrame : g.takeFrame.2.inputs = g.inputs := by
  unfold takeFrame
  split <;> rfl

theorem inputs_reset : g.reset.2.inputs = g.inputs := by
  unfold reset
  split <;> rfl

theorem inputs_loadRom (rom : List Byte) (persisted : Option BatteryState) :
    (g.loadRom rom persisted).2.inputs = g.inputs := by
  unfold loadRom
  dsimp only
  split <;> rfl

end GameBoy

/-! ## Core and snapshot agree -/

namespace Runtime

/-- The core shows what the snapshot retains, generations up to `n` were drained, and the
snapshot is of the next one. -/
structure Retained (n : Nat) (r : Runtime M) : Prop where
  cleared : r.remoteInputs.clearedThrough = n
  only : r.remoteInputs.Only
  owner : ∀ snapshot, r.remoteInputs.retained = some snapshot →
    ∃ owner, r.remoteInputs.owner = some owner ∧ owner.generation = snapshot.generation
  next : ∀ owner, r.remoteInputs.owner = some owner →
    owner.generation = n + 1
  core : ∀ g, r.core = some g → g.remoteHeld = r.remoteInputs.held

theorem remoteHeld_applyRetained (g : GameBoy M) {inputs : RemoteInputs} (h : inputs.Only)
    (hnone : inputs.retained = none → g.remoteHeld = .released) :
    (applyRetainedRemoteInputs g inputs).remoteHeld = inputs.held := by
  rw [applyRetainedRemoteInputs, h, RemoteInputs.held]
  cases hretained : inputs.retained with
  | none => exact hnone hretained
  | some snapshot => exact g.remoteHeld_setInput snapshot.state

namespace Retained
variable {n : Nat} {r s : Runtime M}

theorem initial : Retained 0 (Runtime.initial : Runtime M) where
  cleared := rfl
  only := RemoteInputs.only_initial
  owner snapshot h := by cases h
  next owner h := by cases h
  core g h := by cases h

/-- An operation that keeps the remote input of the worker and of the core. -/
theorem congr (h : Retained n r) (hinputs : s.remoteInputs = r.remoteInputs)
    (hcore : ∀ g, s.core = some g → g.remoteHeld = r.remoteInputs.held) : Retained n s := by
  refine ⟨?_, ?_, ?_, ?_, ?_⟩
  · rw [hinputs]
    exact h.cleared
  · rw [hinputs]
    exact h.only
  · rw [hinputs]
    exact h.owner
  · rw [hinputs]
    exact h.next
  · rw [hinputs]
    exact hcore

theorem keep (h : Retained n r) (hinputs : s.remoteInputs = r.remoteInputs)
    (hcore : s.core = r.core) : Retained n s := h.congr hinputs (by rw [hcore]; exact h.core)

/-- The core is another one with the same remote input. -/
theorem withCore (h : Retained n r) {g g' : GameBoy M} (hg : r.core = some g)
    (hsame : g'.remoteHeld = g.remoteHeld) (hinputs : s.remoteInputs = r.remoteInputs)
    (hcore : s.core = some g') : Retained n s := by
  refine h.congr hinputs ?_
  rw [hcore]
  rintro k hk
  obtain rfl := Option.some.inj hk
  rw [hsame]
  exact h.core g hg

/-! ## Operations that do not concern remote input -/

theorem publishControl (h : Retained n r) : Retained n r.publishControl.2 := by
  unfold Runtime.publishControl
  split
  · exact h
  · split <;> exact h.keep rfl rfl

theorem publishFrame (h : Retained n r) (f : Frame) : Retained n (r.publishFrame f) := by
  unfold Runtime.publishFrame
  split
  · exact h.keep rfl rfl
  · split <;> exact h.keep rfl rfl

theorem offerFrame (h : Retained n r) (f : Frame) : Retained n (r.offerFrame f) := by
  unfold Runtime.offerFrame
  split
  · exact h.keep rfl rfl
  · dsimp only
    split
    · refine publishFrame ?_ _
      exact h.keep rfl rfl
    · exact h.keep rfl rfl

theorem acknowledgeFrame (h : Retained n r) (sequence index : Nat) :
    Retained n (r.acknowledgeFrame sequence index).2 := by
  unfold Runtime.acknowledgeFrame
  dsimp only
  split
  · exact h.keep rfl rfl
  · split
    · refine publishFrame ?_ _
      exact h.keep rfl rfl
    · exact h.keep rfl rfl

theorem applyModel (h : Retained n r) (model : Except RuntimeError RuntimeModel) :
    Retained n (r.applyModel model).2 := by
  cases model with
  | error e => exact h
  | ok model => exact publishControl (r := { r with model := model }) (h.keep rfl rfl)

/-- **A tick keeps the remote input.** -/
theorem runTick (h : Retained n r) : Retained n r.runTick := by
  unfold Runtime.runTick
  split
  · exact publishControl (r := { r with model := r.model.failLoad runtimeUnavailable })
      (h.keep rfl rfl)
  · next active hactive =>
    have hran : ((active.runCycles frameCycleBudget).2.drainAudio.2).remoteHeld =
        active.remoteHeld := by
      rw [GameBoy.remoteHeld, GameBoy.inputs_drainAudio, GameBoy.inputs_runCycles]
      rfl
    dsimp only
    generalize (active.runCycles frameCycleBudget).2.drainAudio.2 = ran at hran
    cases (active.runCycles frameCycleBudget).1 with
    | error e =>
      refine publishControl ?_
      exact h.withCore hactive hran rfl rfl
    | ok outcome =>
      dsimp only
      have htaken : ran.takeFrame.2.remoteHeld = active.remoteHeld := by
        rw [GameBoy.remoteHeld, GameBoy.inputs_takeFrame]
        exact hran
      split
      · cases ran.takeFrame.1 with
        | none => exact h.withCore hactive htaken rfl rfl
        | some f =>
          refine offerFrame ?_ f
          exact h.withCore hactive htaken rfl rfl
      · exact h.withCore hactive hran rfl rfl

/-! ## Another core -/

/-- A new core gets the retained input. -/
theorem loadRom (h : Retained n r) (file : Option (List Byte)) (fileName : String) (clock : Clock)
    (sampleRate : Nat) : Retained n (r.loadRom file fileName clock sampleRate).2 := by
  unfold Runtime.loadRom
  cases file with
  | none => exact h.keep rfl rfl
  | some bytes =>
    dsimp only
    split
    · refine h.congr rfl ?_
      rintro g hg
      obtain rfl := Option.some.inj hg
      refine remoteHeld_applyRetained _ h.only fun _ => ?_
      rw [GameBoy.remoteHeld, GameBoy.inputs_loadRom]
      rfl
    · exact h.keep rfl rfl

theorem restartCore (h : Retained n r) : Retained n r.restartCore.2 := by
  unfold Runtime.restartCore
  split
  · exact h
  · split
    · exact h
    · next active hactive =>
      have hreset : ((active.clearInputSource keyboardInputSource).reset).2.remoteHeld =
          active.remoteHeld := by
        rw [GameBoy.remoteHeld, GameBoy.inputs_reset]
        exact active.remoteHeld_clear_keyboard
      dsimp only
      split
      · exact h.withCore hactive hreset rfl rfl
      · have hrestarted : ∀ s : Runtime M, s.remoteInputs = r.remoteInputs →
            s.core = some (applyRetainedRemoteInputs
              ((active.clearInputSource keyboardInputSource).reset).2 r.remoteInputs) →
            Retained n s := by
          intro s hinputs hcore
          refine h.congr hinputs ?_
          rw [hcore]
          rintro g hg
          obtain rfl := Option.some.inj hg
          refine remoteHeld_applyRetained _ h.only fun hnone => ?_
          rw [hreset, h.core active hactive, RemoteInputs.held, hnone]
        split
        · exact hrestarted _ rfl rfl
        · exact hrestarted _ rfl rfl

theorem setKeyboardInput (h : Retained n r) (buttons : List Button) :
    Retained n (r.setKeyboardInput buttons).2 := by
  unfold Runtime.setKeyboardInput
  split
  · exact h
  · next active hactive =>
    exact h.withCore hactive (active.remoteHeld_setInput_keyboard _) rfl rfl

theorem dropCore (h : Retained n r) : Retained n r.dropCore :=
  h.congr rfl fun g hg => by cases hg

/-! ## Remote input -/

/-- **A drain forgets a cancelled generation**, on the worker and on the core. -/
theorem drainCancelledRemoteInput (h : Retained n r) (cancelledThrough : Nat) :
    Retained (max n cancelledThrough) (r.drainCancelledRemoteInput cancelledThrough) := by
  unfold Runtime.drainCancelledRemoteInput
  rw [h.cleared]
  split
  · next hearlier =>
    rw [Nat.max_eq_left hearlier]
    exact h
  · next hlater =>
    rw [Nat.max_eq_right (Nat.le_of_not_le hlater)]
    have hcleared : ∀ inputs : RemoteInputs, inputs.snapshots = [] → inputs.owner = none →
        inputs.clearedThrough = cancelledThrough →
        Retained cancelledThrough (Runtime.withCore { r with remoteInputs := inputs }
          fun active => active.clearInputSource remoteInputSource) := by
      intro inputs hsnapshots howner hthrough
      have hnone : inputs.retained = none := by
        rw [RemoteInputs.retained, RemoteInputs.get, hsnapshots]
        rfl
      refine ⟨hthrough, ?_, ?_, ?_, ?_⟩
      · show inputs.Only
        rw [RemoteInputs.Only, hnone, hsnapshots]
        rfl
      · intro snapshot hsnapshot
        exact absurd (hnone.symm.trans hsnapshot) (by simp)
      · intro owner hsome
        exact absurd (howner.symm.trans hsome) (by simp)
      · rintro g hg
        obtain ⟨core, -, rfl⟩ := Option.map_eq_some_iff.mp hg
        show _ = inputs.held
        rw [GameBoy.remoteHeld_clear, RemoteInputs.held, hnone]
    dsimp only
    cases howner : r.remoteInputs.owner with
    | none =>
      have hempty : r.remoteInputs.snapshots = [] := by
        have hnone : r.remoteInputs.retained = none := by
          cases hretained : r.remoteInputs.retained with
          | none => rfl
          | some snapshot =>
            obtain ⟨owner, hsome, -⟩ := h.owner snapshot hretained
            exact absurd (howner.symm.trans hsome) (by simp)
        rw [h.only, hnone]
        rfl
      rw [if_neg (by simp)]
      exact hcleared _ hempty rfl rfl
    | some owner =>
      have hgeneration := h.next owner howner
      have hold : (some owner).any (fun owner => owner.generation ≤ cancelledThrough) = true := by
        rw [Option.any_some, decide_eq_true_eq]
        omega
      rw [if_pos hold]
      exact hcleared _ h.only.remove rfl rfl

/-- An event of a generation that is not past the next one. -/
theorem applyControllerEvent (h : Retained n r) {event : Network.ControllerEvent}
    {generation cancelledThrough : Nat} (hnext : generation ≤ n + 1)
    (hcancelled : n ≤ cancelledThrough) :
    Retained n (r.applyControllerEvent event generation cancelledThrough).2 := by
  unfold Runtime.applyControllerEvent
  split
  · exact h
  · next hvalid =>
    split
    · exact h
    · next hlive =>
      have hgeneration : generation = n + 1 := by omega
      split
      · refine ⟨h.cleared, h.only, ?_, ?_, h.core⟩
        · intro snapshot hsnapshot
          obtain ⟨owner, howner, hsame⟩ := h.owner snapshot hsnapshot
          exact ⟨_, rfl, hgeneration.trans ((h.next owner howner).symm.trans hsame)⟩
        · rintro owner howner
          obtain rfl := Option.some.inj howner
          exact hgeneration
      · exact h
      · next connectionId source message =>
        have hsource : source = remoteInputSource := by
          by_contra hother
          rw [validateRemoteEventSource, Network.ControllerEvent.inputSource,
            if_neg hother] at hvalid
          cases hvalid
        subst hsource
        dsimp only
        split
        · exact h
        · next state hstate =>
          refine ⟨h.cleared, ?_, ?_, ?_, ?_⟩
          · exact RemoteInputs.Only.insert (i := { r.remoteInputs with owner := some _ }) h.only _
          · rintro snapshot hsnapshot
            obtain rfl := Option.some.inj hsnapshot
            exact ⟨_, rfl, rfl⟩
          · rintro owner howner
            obtain rfl := Option.some.inj howner
            exact hgeneration
          · rintro g hg
            obtain ⟨core, -, rfl⟩ := Option.map_eq_some_iff.mp hg
            exact core.remoteHeld_setInput state

/-- **Every command keeps core and snapshot together.** -/
theorem handleCommand (h : Retained n r) {command : Command} {cancelledThrough : Nat}
    (hnext : ∀ event generation, command = .controllerEvent event generation → generation ≤ n + 1)
    (hcancelled : n ≤ cancelledThrough) :
    Retained n (r.handleCommand command cancelledThrough).2 := by
  have hdropped : Retained n r.dropCore.clearDelivery := h.dropCore.keep rfl rfl
  cases command with
  | subscribe observer =>
    refine publishControl ?_
    exact h.keep rfl rfl
  | acknowledgeFrame sequence index => exact h.acknowledgeFrame sequence index
  | openRom file fileName clock sampleRate =>
    refine publishControl (loadRom (publishControl ?_) _ _ _ _)
    exact hdropped.keep rfl rfl
  | start => exact h.applyModel _
  | pause =>
    refine applyModel ?_ _
    exact h.keep rfl rfl
  | restart =>
    have hrestarted : Retained n r.clearDelivery.restartCore.2 := by
      refine restartCore ?_
      exact h.keep rfl rfl
    show Retained n (if _ then _ else _)
    split
    · exact hrestarted.publishControl
    · exact hrestarted
  | close =>
    refine publishControl ?_
    exact hdropped.keep rfl rfl
  | setKeyboardInput buttons => exact h.setKeyboardInput buttons
  | controllerEvent event generation =>
    exact h.applyControllerEvent (hnext event generation rfl) hcancelled
  | snapshot => exact h
  | shutdown => exact hdropped.keep rfl rfl

end Retained

end Runtime

/-! ## The barrier -/

namespace DesktopRuntime

/-- At most one generation is not cancelled, the one that was prepared last, and no event
on its way has a later one. -/
structure Barrier (d : DesktopRuntime M) : Prop where
  live : ∀ current, d.generations.current = some current →
    current.generation = d.generations.nextGeneration ∧
      d.generations.cancelledThrough + 1 = d.generations.nextGeneration ∧
      d.connection = some current.connectionId
  idle : d.generations.current = none →
    d.generations.cancelledThrough = d.generations.nextGeneration
  prepared : ∀ event generation, (event, generation) ∈ d.prepared →
    generation ≤ d.generations.nextGeneration
  queued : ∀ event generation, .controllerEvent event generation ∈ d.queue →
    generation ≤ d.generations.nextGeneration
  received : ∀ event generation, d.worker = .received (.controllerEvent event generation) →
    generation ≤ d.generations.nextGeneration
  drained : ∀ event generation, d.worker = .drained (.controllerEvent event generation) →
    generation ≤ d.runtime.remoteInputs.clearedThrough + 1
  cleared : d.runtime.remoteInputs.clearedThrough ≤ d.generations.cancelledThrough
  retained : d.runtime.Retained d.runtime.remoteInputs.clearedThrough

namespace Barrier
variable {d e : DesktopRuntime M}

theorem spawned : Barrier (DesktopRuntime.spawned : DesktopRuntime M) where
  live current h := by cases h
  idle _ := rfl
  prepared _ _ h := absurd h List.not_mem_nil
  queued _ _ h := absurd h List.not_mem_nil
  received _ _ h := by cases h
  drained _ _ h := by cases h
  cleared := Nat.le_refl 0
  retained := .initial

theorem next_le (h : d.Barrier) :
    d.generations.nextGeneration ≤ d.generations.cancelledThrough + 1 := by
  cases hcurrent : d.generations.current with
  | none => exact Nat.le_succ_of_le (Nat.le_of_eq (h.idle hcurrent).symm)
  | some current => exact Nat.le_of_eq (h.live current hcurrent).2.1.symm

/-- A step of a network task that leaves the generations alone. -/
theorem keepGenerations (h : d.Barrier) (hgenerations : e.generations = d.generations)
    (hconnection : ∀ current, d.generations.current = some current →
      e.connection = some current.connectionId)
    (hprepared : ∀ event generation, (event, generation) ∈ e.prepared →
      generation ≤ d.generations.nextGeneration)
    (hqueue : e.queue = d.queue) (hworker : e.worker = d.worker)
    (hruntime : e.runtime = d.runtime) : e.Barrier := by
  refine ⟨?_, ?_, ?_, ?_, ?_, ?_, ?_, ?_⟩
  · rw [hgenerations]
    rintro current hcurrent
    obtain ⟨hgeneration, hnext, -⟩ := h.live current hcurrent
    exact ⟨hgeneration, hnext, hconnection current hcurrent⟩
  · rw [hgenerations]
    exact h.idle
  · rw [hgenerations]
    exact hprepared
  · rw [hgenerations, hqueue]
    exact h.queued
  · rw [hgenerations, hworker]
    exact h.received
  · rw [hworker, hruntime]
    exact h.drained
  · rw [hgenerations, hruntime]
    exact h.cleared
  · rw [hruntime]
    exact h.retained

theorem mem_snoc_prepared {prepared : List (Network.ControllerEvent × Nat)}
    {event event' : Network.ControllerEvent} {generation generation' bound : Nat}
    (h : ∀ event generation, (event, generation) ∈ prepared → generation ≤ bound)
    (hnew : generation' ≤ bound)
    (hmem : (event, generation) ∈ prepared ++ [(event', generation')]) : generation ≤ bound := by
  rcases List.mem_append.mp hmem with hmem | hmem
  · exact h event generation hmem
  · obtain ⟨rfl, rfl⟩ := Prod.mk.inj (List.mem_singleton.mp hmem)
    exact hnew

theorem currentOf_some {c : ControllerGenerations} {connectionId : Network.ControllerConnectionId}
    {current : CurrentController} (h : c.currentOf connectionId = some current) :
    c.current = some current ∧ current.connectionId = connectionId := by
  obtain ⟨hcurrent, hsame⟩ := Option.filter_eq_some_iff.mp h
  exact ⟨hcurrent, by simpa using hsame⟩

/-- **Preparing an event keeps the barrier.** -/
theorem prepare (h : d.Barrier) {event : Network.ControllerEvent} (hmay : d.MayPrepare event) :
    (d.prepare event).Barrier := by
  cases event with
  | connected connectionId source =>
    -- A connection opens when there is none, and the last generation is cancelled by then.
    have hnone : d.generations.current = none := by
      cases hcurrent : d.generations.current with
      | none => rfl
      | some current =>
        have hopen := (h.live current hcurrent).2.2
        exact absurd (hopen.symm.trans hmay) (by simp)
    have hidle := h.idle hnone
    by_cases hroom : d.generations.nextGeneration < maxGeneration
    · have hprepare : d.generations.prepare (.connected connectionId source) =
          (.ok (some (d.generations.nextGeneration + 1)),
            { d.generations with
              nextGeneration := d.generations.nextGeneration + 1
              current := some ⟨connectionId, d.generations.nextGeneration + 1⟩ }) := if_pos hroom
      rw [DesktopRuntime.prepare, hprepare]
      refine ⟨?_, nofun, ?_, ?_, ?_, h.drained, h.cleared, h.retained⟩
      · rintro current hcurrent
        obtain rfl := Option.some.inj hcurrent
        exact ⟨rfl, congrArg (· + 1) hidle, rfl⟩
      · intro event generation hmem
        refine mem_snoc_prepared (fun event generation hmem => ?_) (Nat.le_refl _) hmem
        exact Nat.le_succ_of_le (h.prepared event generation hmem)
      · exact fun event generation hmem => Nat.le_succ_of_le (h.queued event generation hmem)
      · exact fun event generation hw => Nat.le_succ_of_le (h.received event generation hw)
    · have hprepare : d.generations.prepare (.connected connectionId source) =
          (.error runtimeUnavailable, d.generations) := if_neg hroom
      rw [DesktopRuntime.prepare, hprepare]
      refine h.keepGenerations rfl ?_ h.prepared rfl rfl rfl
      exact fun current hcurrent => absurd (hnone.symm.trans hcurrent) (by simp)
  | message connectionId source message =>
    have hprepare : d.generations.prepare (.message connectionId source message) =
        (.ok ((d.generations.currentOf connectionId).map (·.generation)), d.generations) := rfl
    rw [DesktopRuntime.prepare, hprepare]
    refine h.keepGenerations rfl (fun current hcurrent => (h.live current hcurrent).2.2) ?_ rfl rfl
      rfl
    cases hof : d.generations.currentOf connectionId with
    | none => exact h.prepared
    | some current =>
      have hgeneration := (h.live current (currentOf_some hof).1).1
      intro event generation hmem
      exact mem_snoc_prepared h.prepared (Nat.le_of_eq hgeneration) hmem
  | disconnected connectionId source =>
    cases hof : d.generations.currentOf connectionId with
    | none =>
      have hprepare : d.generations.prepare (.disconnected connectionId source) =
          (.ok none, d.generations) := by
        rw [ControllerGenerations.prepare, hof]
      rw [DesktopRuntime.prepare, hprepare]
      refine h.keepGenerations rfl ?_ h.prepared rfl rfl rfl
      -- The connection that ends is not the one with the generation.
      intro current hcurrent
      have hopen := (h.live current hcurrent).2.2
      have hother : ¬ d.connection = some connectionId := by
        intro hsame
        have hid : current.connectionId = connectionId := Option.some.inj (hopen.symm.trans hsame)
        rw [ControllerGenerations.currentOf, hcurrent, Option.filter_some,
          if_pos (by simpa using hid)] at hof
        cases hof
      exact (if_neg hother).trans hopen
    | some current =>
      obtain ⟨hcurrent, -⟩ := currentOf_some hof
      obtain ⟨hgeneration, hnext, -⟩ := h.live current hcurrent
      have hprepare : d.generations.prepare (.disconnected connectionId source) =
          (.ok (some current.generation),
            { d.generations with
              cancelledThrough := max d.generations.cancelledThrough current.generation
              current := none }) := by
        rw [ControllerGenerations.prepare, hof]
      -- The current generation is the newest, so nothing is left that is not cancelled.
      have hmax : max d.generations.cancelledThrough current.generation =
          d.generations.nextGeneration := by omega
      rw [DesktopRuntime.prepare, hprepare]
      refine ⟨nofun, fun _ => hmax, ?_, h.queued, h.received, h.drained, ?_, h.retained⟩
      · intro event generation hmem
        exact mem_snoc_prepared h.prepared (Nat.le_of_eq hgeneration) hmem
      · exact Nat.le_trans h.cleared (Nat.le_max_left _ _)

/-- A step of the worker that drains nothing. -/
theorem work (h : d.Barrier) {runtime : Runtime M} {worker : WorkerState}
    {queue : List Runtime.Command}
    (hretained : runtime.Retained d.runtime.remoteInputs.clearedThrough)
    (hqueue : ∀ command ∈ queue, command ∈ d.queue)
    (hreceived : ∀ command, worker = .received command → command ∈ d.queue)
    (hdrained : ∀ command, worker ≠ .drained command) :
    Barrier { d with runtime := runtime, worker := worker, queue := queue } where
  live := h.live
  idle := h.idle
  prepared := h.prepared
  queued event generation hmem := h.queued event generation (hqueue _ hmem)
  received event generation hworker := h.queued event generation (hreceived _ hworker)
  drained event generation hworker := absurd hworker (hdrained _)
  cleared := hretained.cleared ▸ h.cleared
  retained := by
    show runtime.Retained runtime.remoteInputs.clearedThrough
    rw [hretained.cleared]
    exact hretained

/-- **A drain clears everything that is cancelled.** -/
theorem cleared_drain (h : d.Barrier) (worker : WorkerState) :
    (d.drain worker).runtime.remoteInputs.clearedThrough = d.generations.cancelledThrough :=
  (h.retained.drainCancelledRemoteInput d.generations.cancelledThrough).cleared.trans
    (Nat.max_eq_right h.cleared)

theorem drain (h : d.Barrier) {worker : WorkerState}
    (hreceived : ∀ command, worker ≠ .received command)
    (hdrained : ∀ event generation, worker = .drained (.controllerEvent event generation) →
      generation ≤ d.generations.nextGeneration) : (d.drain worker).Barrier := by
  have hretained := h.retained.drainCancelledRemoteInput d.generations.cancelledThrough
  have hcleared := h.cleared_drain worker
  rw [Nat.max_eq_right h.cleared] at hretained
  refine ⟨h.live, h.idle, h.prepared, h.queued, ?_, ?_, ?_, ?_⟩
  · exact fun event generation hworker => absurd hworker (hreceived _)
  · intro event generation hworker
    rw [hcleared]
    exact Nat.le_trans (hdrained event generation hworker) h.next_le
  · rw [hcleared]
    exact Nat.le_refl _
  · rw [hcleared]
    exact hretained

/-- The command for which the worker has drained. -/
theorem retained_handle (h : d.Barrier) {command : Runtime.Command}
    (hworker : d.worker = .drained command) :
    (d.runtime.handleCommand command d.generations.cancelledThrough).2.Retained
      d.runtime.remoteInputs.clearedThrough := by
  refine h.retained.handleCommand ?_ h.cleared
  rintro event generation rfl
  exact h.drained event generation hworker

/-- **Every step keeps the barrier.** -/
theorem step (h : d.Barrier) {label : Label} (hstep : Step d label e) : e.Barrier := by
  cases hstep with
  | prepare hsource hmay => exact h.prepare hmay
  | send hprepared hroom =>
    have hmem : ∀ p, p ∈ d.prepared ↔ _ := fun p => by
      rw [hprepared, List.mem_append, List.mem_cons]
    refine ⟨h.live, h.idle, ?_, ?_, h.received, h.drained, h.cleared, h.retained⟩
    · intro event generation hp
      refine h.prepared event generation ((hmem _).mpr ?_)
      exact (List.mem_append.mp hp).imp_right .inr
    · intro event generation hq
      rcases List.mem_append.mp hq with hq | hq
      · exact h.queued event generation hq
      · obtain ⟨rfl, rfl⟩ := Runtime.Command.controllerEvent.inj (List.mem_singleton.mp hq)
        exact h.prepared _ _ ((hmem _).mpr (.inr (.inl rfl)))
  | giveUp hprepared =>
    refine h.keepGenerations rfl (fun current hcurrent => (h.live current hcurrent).2.2) ?_ rfl rfl
      rfl
    intro event generation hp
    refine h.prepared event generation ?_
    rw [hprepared, List.mem_append, List.mem_cons]
    exact (List.mem_append.mp hp).imp_right .inr
  | request hfrontend hroom =>
    refine ⟨h.live, h.idle, h.prepared, ?_, h.received, h.drained, h.cleared, h.retained⟩
    intro event generation hq
    rcases List.mem_append.mp hq with hq | hq
    · exact h.queued event generation hq
    · rw [← List.mem_singleton.mp hq] at hfrontend
      exact absurd hfrontend id
  | drainTop hworker => exact h.drain nofun nofun
  | tick hworker hphase =>
    exact h.work h.retained.runTick (fun command hmem => hmem)
      (fun command hw => by rw [hworker] at hw; cases hw)
      (fun command hw => by rw [hworker] at hw; cases hw)
  | receive hworker hqueue =>
    refine h.work h.retained ?_ ?_ nofun
    · intro command hmem
      rw [hqueue]
      exact List.mem_cons_of_mem _ hmem
    · rintro command hw
      obtain rfl := WorkerState.received.inj hw
      rw [hqueue]
      exact List.mem_cons_self
  | timeout hworker => exact h.work h.retained (fun command hmem => hmem) nofun nofun
  | drainCommand hworker =>
    -- The second drain comes after the command was taken and before it is handled.
    refine h.drain nofun ?_
    rintro event generation hw
    obtain rfl := WorkerState.drained.inj hw
    exact h.received event generation hworker
  | @handle command hworker =>
    have hretained := h.retained_handle hworker
    have hafter : afterCommand command = .looping ∨ afterCommand command = .stopped := by
      cases command <;> first | exact .inl rfl | exact .inr rfl
    refine h.work hretained (fun command hmem => hmem) ?_ ?_
    · rintro command' hw
      rcases hafter with hafter | hafter <;> rw [hafter] at hw <;> cases hw
    · rintro command' hw
      rcases hafter with hafter | hafter <;> rw [hafter] at hw <;> cases hw
  | disconnected hworker => exact h.work h.retained (fun command hmem => hmem) nofun nofun

end Barrier

theorem barrier_of_reachable {d : DesktopRuntime M} (h : Reachable (system M) d) : d.Barrier := by
  refine h.invariant ?_ ?_
  · rintro d rfl
    exact .spawned
  · exact fun d label e hd hstep => hd.step hstep

/-! ## What is cancelled stays away -/

namespace Barrier
variable {d e : DesktopRuntime M}

theorem cancelledThrough_mono {label : Label} (hstep : Step d label e) :
    d.generations.cancelledThrough ≤ e.generations.cancelledThrough := by
  cases hstep with
  | @prepare event hsource hmay =>
    show _ ≤ (d.generations.prepare event).2.cancelledThrough
    cases event with
    | connected connectionId source =>
      rw [ControllerGenerations.prepare]
      split <;> exact Nat.le_refl _
    | message connectionId source message => exact Nat.le_refl _
    | disconnected connectionId source =>
      rw [ControllerGenerations.prepare]
      split
      · exact Nat.le_refl _
      · exact Nat.le_max_left _ _
  | _ => exact Nat.le_refl _

/-- A step drains at least what was drained before. -/
theorem clearedThrough_mono (h : d.Barrier) {label : Label} (hstep : Step d label e) :
    d.runtime.remoteInputs.clearedThrough ≤ e.runtime.remoteInputs.clearedThrough := by
  have hdrained : ∀ worker, d.runtime.remoteInputs.clearedThrough ≤
      (d.drain worker).runtime.remoteInputs.clearedThrough := by
    intro worker
    rw [h.cleared_drain worker]
    exact h.cleared
  cases hstep with
  | tick hworker hphase => exact Nat.le_of_eq h.retained.runTick.cleared.symm
  | drainTop hworker => exact hdrained _
  | drainCommand hworker => exact hdrained _
  | @handle command hworker =>
    have hretained := h.retained_handle hworker
    exact Nat.le_of_eq hretained.cleared.symm
  | _ => exact Nat.le_refl _

end Barrier

/-- Preparing the `Disconnected` of the current connection cancels its generation. -/
theorem cancelled_prepare {d : DesktopRuntime M} {connectionId : Network.ControllerConnectionId}
    {current : CurrentController} (h : d.generations.currentOf connectionId = some current) :
    current.generation ≤
      (d.prepare (.disconnected connectionId remoteInputSource)).generations.cancelledThrough := by
  show _ ≤ (d.generations.prepare (.disconnected connectionId remoteInputSource)).2.cancelledThrough
  rw [ControllerGenerations.prepare, h]
  exact Nat.le_max_right _ _

/-- After a generation is cancelled and the worker has drained, what is retained is of a
later generation, for good. -/
theorem later_of_drained {d e f g : DesktopRuntime M} {n : Nat} (hd : d.Barrier)
    (hcancelled : n ≤ d.generations.cancelledThrough) {before after : List Label}
    (hbefore : Run (system M) d before e) (hdrain : Step e .drain f)
    (hafter : Run (system M) f after g) {snapshot : RemoteInputSnapshot}
    (hsnapshot : g.runtime.remoteInputs.retained = some snapshot) : n < snapshot.generation := by
  obtain ⟨he, hcancelled'⟩ := hbefore.invariant
    (P := fun d => d.Barrier ∧ n ≤ d.generations.cancelledThrough) ⟨hd, hcancelled⟩
    fun d label e hd hstep =>
      ⟨hd.1.step hstep, Nat.le_trans hd.2 (Barrier.cancelledThrough_mono hstep)⟩
  have hcleared : n ≤ f.runtime.remoteInputs.clearedThrough := by
    cases hdrain with
    | drainTop hworker =>
      rw [he.cleared_drain]
      exact hcancelled'
    | drainCommand hworker =>
      rw [he.cleared_drain]
      exact hcancelled'
  obtain ⟨hg, hcleared'⟩ := hafter.invariant
    (P := fun d => d.Barrier ∧ n ≤ d.runtime.remoteInputs.clearedThrough)
    ⟨he.step hdrain, hcleared⟩
    fun d label e hd hstep =>
      ⟨hd.1.step hstep, Nat.le_trans hd.2 (hd.1.clearedThrough_mono hstep)⟩
  obtain ⟨owner, howner, hgeneration⟩ := hg.retained.owner snapshot hsnapshot
  have hnext := hg.retained.next owner howner
  omega

/-- A drain that finds a generation which is not cancelled changes nothing. -/
theorem drain_of_later {d e : DesktopRuntime M} (h : d.Barrier) (hdrain : Step d .drain e)
    {snapshot : RemoteInputSnapshot} (hsnapshot : d.runtime.remoteInputs.retained = some snapshot)
    (hlater : d.generations.cancelledThrough < snapshot.generation) : e.runtime = d.runtime := by
  obtain ⟨owner, howner, hgeneration⟩ := h.retained.owner snapshot hsnapshot
  have hnext := h.retained.next owner howner
  have hkept : ∀ worker, (d.drain worker).runtime = d.runtime := by
    intro worker
    show d.runtime.drainCancelledRemoteInput d.generations.cancelledThrough = d.runtime
    rw [Runtime.drainCancelledRemoteInput, if_pos (by omega)]
  cases hdrain with
  | drainTop hworker => exact hkept _
  | drainCommand hworker => exact hkept _

/-- **The barrier of generations.**  In every interleaving: the core shows what the worker
retains of the current generation, or nothing; once the `Disconnected` of a generation is
prepared and the worker has drained, nothing of that generation or an earlier one is
retained again; and a drain leaves the input of a generation that is not cancelled alone. -/
theorem remote_input_barrier {d : DesktopRuntime M} (h : Reachable (system M) d) :
    ((∀ core, d.runtime.core = some core → core.remoteHeld = d.runtime.remoteInputs.held) ∧
      ∀ snapshot, d.runtime.remoteInputs.retained = some snapshot →
        ∃ owner, d.runtime.remoteInputs.owner = some owner ∧
          owner.generation = snapshot.generation) ∧
    (∀ connectionId current, d.generations.currentOf connectionId = some current →
      ∀ before e f after g,
        Run (system M) (d.prepare (.disconnected connectionId remoteInputSource)) before e →
        Step e .drain f → Run (system M) f after g →
        (∀ snapshot, g.runtime.remoteInputs.retained = some snapshot →
          current.generation < snapshot.generation) ∧
        ∀ core, g.runtime.core = some core → core.remoteHeld = g.runtime.remoteInputs.held) ∧
    (∀ e, Step d .drain e → ∀ snapshot, d.runtime.remoteInputs.retained = some snapshot →
      d.generations.cancelledThrough < snapshot.generation → e.runtime = d.runtime) := by
  have hd := barrier_of_reachable h
  refine ⟨⟨hd.retained.core, hd.retained.owner⟩, ?_, ?_⟩
  · intro connectionId current hcurrent before e f after g hbefore hdrain hafter
    have hprepare : Step d (.prepare (.disconnected connectionId remoteInputSource))
        (d.prepare (.disconnected connectionId remoteInputSource)) := .prepare rfl trivial
    have hg : Reachable (system M) g :=
      hafter.reachable ((hbefore.reachable (h.step hprepare)).step hdrain)
    refine ⟨fun snapshot hsnapshot => ?_, (barrier_of_reachable hg).retained.core⟩
    exact later_of_drained (hd.step hprepare) (cancelled_prepare hcurrent) hbefore hdrain hafter
      hsnapshot
  · exact fun e hdrain snapshot hsnapshot hlater => drain_of_later hd hdrain hsnapshot hlater

theorem phone_ne_empty : "phone" ≠ "" := by decide

def phone : Network.ControllerConnectionId := ⟨"phone", phone_ne_empty⟩

/-- The message of a phone that holds one button. -/
def phoneSync : Network.ControllerEvent :=
  .message phone remoteInputSource (.stateSync [.up] ⟨0, Nat.zero_le _⟩)

theorem reachable_step {d e : DesktopRuntime M} {label : Label} (h : Reachable (system M) d)
    (hstep : Step d label e) : Reachable (system M) e := h.step hstep

theorem send_first {d : DesktopRuntime M} {event : Network.ControllerEvent} {generation : Nat}
    {rest : List (Network.ControllerEvent × Nat)}
    (hprepared : d.prepared = (event, generation) :: rest)
    (hroom : d.queue.length < commandQueueCapacity) :
    Step d (.send event generation)
      { d with prepared := rest, queue := d.queue ++ [.controllerEvent event generation] } :=
  @Step.send M d [] rest event generation hprepared hroom

theorem giveUp_first {d : DesktopRuntime M} {event : Network.ControllerEvent} {generation : Nat}
    {rest : List (Network.ControllerEvent × Nat)}
    (hprepared : d.prepared = (event, generation) :: rest) :
    Step d (.giveUp event generation) { d with prepared := rest } :=
  @Step.giveUp M d [] rest event generation hprepared

/-- The only event on its way is sent and handled. -/
theorem reachable_deliver {d : DesktopRuntime M} (h : Reachable (system M) d)
    {event : Network.ControllerEvent} {generation : Nat}
    (hprepared : d.prepared = [(event, generation)])
    (hqueue : d.queue = []) (hworker : d.worker = .looping) :
    Reachable (system M)
      { d with
        prepared := []
        runtime := ((((d.runtime.drainCancelledRemoteInput
          d.generations.cancelledThrough).drainCancelledRemoteInput
          d.generations.cancelledThrough).handleCommand (.controllerEvent event generation)
            d.generations.cancelledThrough).2) } := by
  obtain ⟨generations, connection, prepared, queue, worker, runtime⟩ := d
  cases hprepared
  cases hqueue
  cases hworker
  have hroom : 0 < commandQueueCapacity := by decide
  have hsent := reachable_step h (send_first rfl hroom)
  have hdrained := reachable_step hsent (.drainTop rfl)
  have hreceived := reachable_step hdrained (.receive rfl rfl)
  have hagain := reachable_step hreceived (.drainCommand rfl)
  have hhandled := reachable_step hagain (.handle rfl)
  exact hhandled

/-- The worker has handled the message; the `Connected` before it did not get through. -/
theorem exists_synced : ∃ d : DesktopRuntime .mute, Reachable (system .mute) d ∧
    d.generations.currentOf phone = some ⟨phone, 1⟩ ∧ d.worker = .looping ∧
    d.runtime.remoteInputs.retained = some ⟨1, ⟨0x01⟩⟩ := by
  have hstart : Reachable (system .mute) (spawned : DesktopRuntime .mute) := .start rfl
  have hconnected := reachable_step hstart
    (@Step.prepare .mute _ (.connected phone remoteInputSource) rfl rfl)
  have hlost := reachable_step hconnected (giveUp_first rfl)
  have hprepared := reachable_step hlost (@Step.prepare .mute _ phoneSync rfl trivial)
  exact ⟨_, reachable_deliver hprepared rfl rfl rfl, rfl, rfl, rfl⟩

/-- The phone hangs up: after the next drain its message is forgotten. -/
theorem remote_input_barrier_hungUp : ∃ d : DesktopRuntime .mute, Reachable (system .mute) d ∧
    d.runtime.remoteInputs.retained = some ⟨1, ⟨0x01⟩⟩ ∧
    ∀ snapshot, ((d.prepare (.disconnected phone remoteInputSource)).drain
      .polling).runtime.remoteInputs.retained = some snapshot → 1 < snapshot.generation := by
  obtain ⟨d, hd, hcurrent, hworker, hretained⟩ := exists_synced
  obtain ⟨-, hgone, -⟩ := remote_input_barrier hd
  have hdrain : Step (d.prepare (.disconnected phone remoteInputSource)) .drain
      ((d.prepare (.disconnected phone remoteInputSource)).drain .polling) := .drainTop hworker
  exact ⟨d, hd, hretained, (hgone phone _ hcurrent [] _ _ [] _ .nil hdrain .nil).1⟩

end DesktopRuntime

end Pockiva
