import Pockiva.Desktop.AudioFlush
import Pockiva.Desktop.Worker
import Pockiva.IllegalOpcodes

/-! # The lifecycle of the runtime

The model, the core, the frame queue and the output are updated one after the other, and
any call on the way may fail.  Whatever fails, the model says what is held (`Coherent`)
when the worker is between two commands; `runtime_lifecycle` states what follows.
-/
namespace Pockiva

open Transition

variable {M : MixerModel} {G : GainModel M}

namespace RuntimeModel

/-- The snapshot agrees with the flag. -/
structure Coherent (m : RuntimeModel) : Prop where
  loaded : m.snapshot.phase = .running ∨ m.snapshot.phase = .paused ↔ m.coreLoaded = true
  rom : m.snapshot.rom.isSome = true ↔ m.coreLoaded = true
  error : m.snapshot.error.isSome = true ↔ m.snapshot.phase = .error
  settled : m.snapshot.phase ≠ .loading

theorem coherent_initial : initial.Coherent where
  loaded := by decide
  rom := by decide
  error := by decide
  settled := by decide

theorem coherent_finishLoad (m : RuntimeModel) (metadata : CartridgeMetadata) (fileName : String) :
    (m.finishLoad metadata fileName).Coherent where
  loaded := iff_of_true (.inr rfl) rfl
  rom := iff_of_true rfl rfl
  error := iff_of_false nofun nofun
  settled := nofun

theorem coherent_failLoad (m : RuntimeModel) (error : RuntimeError) :
    (m.failLoad error).Coherent where
  loaded := iff_of_false (by rintro (h | h) <;> cases h) nofun
  rom := iff_of_false nofun nofun
  error := iff_of_true rfl rfl
  settled := nofun

/-- A loaded model may run and pause. -/
theorem Coherent.inPhase {m : RuntimeModel} (h : m.Coherent) (hloaded : m.coreLoaded = true)
    {phase : RuntimePhase} (hphase : phase = .running ∨ phase = .paused) :
    (m.inPhase phase).Coherent where
  loaded := iff_of_true hphase hloaded
  rom := h.rom
  error := by
    have hnone : ¬ m.snapshot.error.isSome = true := by
      intro herror
      have hphase := h.error.mp herror
      obtain hrunning | hpaused := h.loaded.mpr hloaded
      · exact absurd (hphase.symm.trans hrunning) nofun
      · exact absurd (hphase.symm.trans hpaused) nofun
    refine iff_of_false hnone ?_
    rintro rfl
    obtain h | h := hphase <;> cases h
  settled := by
    rintro rfl
    obtain h | h := hphase <;> cases h

/-- The error of a command that needs a ROM. -/
def notLoaded : RuntimeError := ⟨.invalidLifecycle, "No ROM is loaded."⟩

/-- A lifecycle command is refused without a ROM, and only moves to a phase with one. -/
theorem requireLoaded_cases (m : RuntimeModel) :
    (m.coreLoaded = false ∧ m.requireLoaded = .error notLoaded) ∨
    (m.coreLoaded = true ∧ m.requireLoaded = .ok ()) := by
  unfold requireLoaded
  cases m.coreLoaded with
  | false => exact .inl ⟨rfl, rfl⟩
  | true => exact .inr ⟨rfl, rfl⟩

end RuntimeModel

namespace RuntimeWorker
variable {Core Output : Type} {w v : RuntimeWorker G Core Output}

/-- What holds of the worker between two commands. -/
structure Coherent (w : RuntimeWorker G Core Output) : Prop where
  model : w.model.Coherent
  held : w.model.coreLoaded = true → w.core.isSome = true

/-- The model is the same, the core is still there, and there was no tick. -/
structure Keeps (w v : RuntimeWorker G Core Output) : Prop where
  model : v.model = w.model
  core : v.core.isSome = w.core.isSome
  ticks : v.ticks = w.ticks

theorem Coherent.keep (h : w.Coherent) (hkeeps : Keeps w v) : v.Coherent := by
  refine ⟨?_, ?_⟩
  · rw [hkeeps.model]
    exact h.model
  · rw [hkeeps.model, hkeeps.core]
    exact h.held

/-- The worker failed with the error: nothing is loaded and no frame waits. -/
structure Failed (w : RuntimeWorker G Core Output) (error : RuntimeError) : Prop where
  model : w.model = ⟨⟨.error, none, some error⟩, false⟩
  delivery : w.delivery = .empty

theorem Failed.coherent {error : RuntimeError} (h : w.Failed error) : w.Coherent := by
  have hmodel : w.model = w.model.failLoad error := h.model
  refine ⟨?_, ?_⟩
  · rw [hmodel]
    exact w.model.coherent_failLoad error
  · rw [h.model]
    nofun

/-! ## What leaves the lifecycle alone -/

/-- What publishing a snapshot leaves as it is. -/
theorem publishControl_eq (w : RuntimeWorker G Core Output) :
    ∃ observer, w.publishControl.2 = { w with observer := observer } := by
  unfold publishControl
  split
  · exact ⟨w.observer, rfl⟩
  · split
    · exact ⟨_, rfl⟩
    · exact ⟨_, rfl⟩

theorem Failed.publishControl {error : RuntimeError} (h : w.Failed error) :
    w.publishControl.2.Failed error := by
  obtain ⟨observer, heq⟩ := w.publishControl_eq
  rw [heq]
  exact ⟨h.model, h.delivery⟩

namespace Keeps
variable {u : RuntimeWorker G Core Output}

theorem refl (w : RuntimeWorker G Core Output) : Keeps w w := ⟨rfl, rfl, rfl⟩

theorem publishControl (h : Keeps u w) : Keeps u w.publishControl.2 := by
  obtain ⟨observer, heq⟩ := w.publishControl_eq
  rw [heq]
  exact ⟨h.model, h.core, h.ticks⟩

theorem publishFrame (h : Keeps u w) (frame : Frame) : Keeps u (w.publishFrame frame) := by
  unfold RuntimeWorker.publishFrame
  split
  · exact ⟨h.model, h.core, h.ticks⟩
  · split <;> exact ⟨h.model, h.core, h.ticks⟩

theorem offerFrame (h : Keeps u w) (frame : Frame) : Keeps u (w.offerFrame frame) := by
  unfold RuntimeWorker.offerFrame
  split
  · exact ⟨h.model, h.core, h.ticks⟩
  · dsimp only
    split
    · refine Keeps.publishFrame ?_ _
      exact ⟨h.model, h.core, h.ticks⟩
    · exact ⟨h.model, h.core, h.ticks⟩

theorem acknowledgeFrame (h : Keeps u w) (sequence : Nat) :
    Keeps u (w.acknowledgeFrame sequence).2 := by
  unfold RuntimeWorker.acknowledgeFrame
  dsimp only
  split
  · exact h
  · split
    · next frame hnext =>
      refine Keeps.publishFrame ?_ frame
      exact ⟨h.model, h.core, h.ticks⟩
    · exact ⟨h.model, h.core, h.ticks⟩

variable [EmulatorCore M Core]

theorem drainCancelledRemoteInput (h : Keeps u w) (n : Nat) :
    Keeps u (w.drainCancelledRemoteInput n) := by
  unfold RuntimeWorker.drainCancelledRemoteInput
  split
  · exact h
  · exact ⟨h.model, Option.isSome_map.trans h.core, h.ticks⟩

theorem applyControllerEvent (h : Keeps u w) (event : Network.ControllerEvent)
    (generation n : Nat) : Keeps u (w.applyControllerEvent event generation n).2 := by
  unfold RuntimeWorker.applyControllerEvent
  split
  · exact h
  · split
    · exact h
    · split
      · exact ⟨h.model, h.core, h.ticks⟩
      · exact h
      · split
        · exact h
        · exact ⟨h.model, Option.isSome_map.trans h.core, h.ticks⟩

theorem setKeyboardInput (h : Keeps u w) (buttons : List Button) :
    Keeps u (w.setKeyboardInput buttons).2 := by
  unfold RuntimeWorker.setKeyboardInput
  split
  · exact h
  · next active hactive =>
    refine ⟨h.model, ?_, h.ticks⟩
    rw [← h.core, hactive]
    rfl

end Keeps

/-! ## Ticks -/

/-- What any number of ticks makes of a worker that runs. -/
structure Ticked (w v : RuntimeWorker G Core Output) : Prop where
  coherent : v.Coherent
  ticks : ∃ more, v.ticks = w.ticks ++ more ∧ .missingCore ∉ more ∧
    ∀ error, .failed error ∈ more → v.Failed (.ofCoreError error)

theorem Ticked.refl (h : w.Coherent) : Ticked w w :=
  ⟨h, [], (List.append_nil _).symm, nofun, nofun⟩

/-- As long as the worker runs, no tick has failed. -/
theorem Ticked.trans {u : RuntimeWorker G Core Output} (h : Ticked u w)
    (hrunning : w.model.snapshot.phase = .running) (h' : Ticked w v) : Ticked u v := by
  obtain ⟨first, hfirst, hpresent, hfailed⟩ := h.ticks
  obtain ⟨second, hsecond, hpresent', hfailed'⟩ := h'.ticks
  refine ⟨h'.coherent, first ++ second, ?_, ?_, ?_⟩
  · rw [hsecond, hfirst, List.append_assoc]
  · intro hmissing
    obtain hmissing | hmissing := List.mem_append.mp hmissing
    · exact hpresent hmissing
    · exact hpresent' hmissing
  · intro error herror
    obtain herror | herror := List.mem_append.mp herror
    · have hmodel := (hfailed error herror).model
      rw [hmodel] at hrunning
      cases hrunning
    · exact hfailed' error herror

/-- A change of the audio or of the deadline does not matter. -/
theorem Ticked.congr {u : RuntimeWorker G Core Output} (h : Ticked u w) (hmodel : v.model = w.model)
    (hcore : v.core = w.core) (hdelivery : v.delivery = w.delivery) (hticks : v.ticks = w.ticks) :
    Ticked u v := by
  obtain ⟨more, hmore, hpresent, hfailed⟩ := h.ticks
  refine ⟨h.coherent.keep ⟨hmodel, congrArg Option.isSome hcore, hticks⟩, more,
    hticks.trans hmore, hpresent, ?_⟩
  intro error herror
  exact ⟨hmodel.trans (hfailed error herror).model,
    hdelivery.trans (hfailed error herror).delivery⟩

/-- Without a tick nothing fails. -/
theorem Ticked.keep (h : w.Coherent) (hkeeps : Keeps w v) : Ticked w v :=
  ⟨h.keep hkeeps, [], hkeeps.ticks.trans (List.append_nil _).symm, nofun, nofun⟩

/-! ## What a command leaves -/

/-- A command leaves the worker coherent, and ticks nothing. -/
structure Handled (w v : RuntimeWorker G Core Output) : Prop where
  coherent : v.Coherent
  ticks : v.ticks = w.ticks

theorem Handled.keep (h : w.Coherent) (hkeeps : Keeps w v) : Handled w v :=
  ⟨h.keep hkeeps, hkeeps.ticks⟩

/-- A lifecycle command moves a worker that has a core to another phase, or is refused. -/
theorem handled_applyModel (h : w.Coherent) {phase : RuntimePhase}
    (hphase : phase = .running ∨ phase = .paused) :
    Handled w (w.applyModel (w.model.requireLoaded.map fun _ => w.model.inPhase phase)).2 := by
  obtain ⟨-, heq⟩ | ⟨hloaded, heq⟩ := w.model.requireLoaded_cases
  · rw [heq]
    exact ⟨h, rfl⟩
  · rw [heq]
    have hmoved : Coherent { w with model := w.model.inPhase phase } :=
      ⟨h.model.inPhase hloaded hphase, fun _ => h.held hloaded⟩
    have hkeeps := (Keeps.refl { w with model := w.model.inPhase phase }).publishControl
    exact ⟨hmoved.keep hkeeps, hkeeps.ticks⟩

section Ticks
variable [EmulatorCore M Core] [AudioOutput G Output]

/-- **A tick of a core runs it, or fails.** -/
theorem runTick_spec {active : Core} (hcore : w.core = some active) :
    ((EmulatorCore.runCycles active Runtime.frameCycleBudget).1.isOk = true ∧
      Keeps (w.record .ran) w.runTick) ∨
    ∃ error, (EmulatorCore.runCycles active Runtime.frameCycleBudget).1 = .error error ∧
      w.runTick.Failed (.ofCoreError error) ∧
      w.runTick.ticks = w.ticks ++ [.failed error] := by
  have hheld : w.core.isSome = true := by
    rw [hcore]
    rfl
  unfold runTick
  rw [hcore]
  dsimp only
  cases hran : (EmulatorCore.runCycles active Runtime.frameCycleBudget).1 with
  | ok outcome =>
    refine .inl ⟨rfl, ?_⟩
    dsimp only
    split
    · split
      · refine Keeps.offerFrame ?_ _
        exact ⟨rfl, hheld.symm, rfl⟩
      · exact ⟨rfl, hheld.symm, rfl⟩
    · exact ⟨rfl, hheld.symm, rfl⟩
  | error error =>
    refine .inr ⟨error, rfl, ?_, ((Keeps.refl _).publishControl).ticks⟩
    refine Failed.publishControl ?_
    exact ⟨rfl, rfl⟩

/-- **A worker that runs has a core to tick.** -/
theorem ticked_runTick (h : w.Coherent) (hrunning : w.model.snapshot.phase = .running) :
    Ticked w w.runTick := by
  have hheld := h.held (h.model.loaded.mp (.inl hrunning))
  obtain ⟨active, hcore⟩ := Option.isSome_iff_exists.mp hheld
  obtain ⟨-, hkeeps⟩ | ⟨error, -, hfailed, hticks⟩ := runTick_spec hcore
  · refine ⟨?_, [.ran], hkeeps.ticks, by decide, ?_⟩
    · refine Coherent.keep (w := w.record .ran) ?_ hkeeps
      exact ⟨h.model, h.held⟩
    · intro error herror
      cases List.mem_singleton.mp herror
  · refine ⟨hfailed.coherent, [.failed error], hticks, ?_, ?_⟩
    · intro hmissing
      cases List.mem_singleton.mp hmissing
    · intro other hother
      cases List.mem_singleton.mp hother
      exact hfailed

/-- The loop of the priming stops when a tick fails. -/
theorem ticked_primeBatches (n : Nat) (h : w.Coherent)
    (hrunning : w.model.snapshot.phase = .running) : Ticked w (primeBatches n w) := by
  induction n generalizing w with
  | zero => exact .refl h
  | succ n ih =>
    have htick := ticked_runTick h hrunning
    unfold primeBatches
    dsimp only
    split
    · exact htick
    · next hstill =>
      have hstill := not_not.mp hstill
      have haudio : Ticked w { w.runTick with audio := w.runTick.audio.health.2 } :=
        htick.congr rfl rfl rfl rfl
      split
      · exact haudio
      · split
        · exact haudio
        · exact haudio.trans hstill (ih haudio.coherent hstill)

theorem ticked_pace (h : w.Coherent) (hrunning : w.model.snapshot.phase = .running)
    (queuedBefore : Nat) (decision : PacingDecision) :
    Ticked w (w.pace queuedBefore decision).2 := by
  cases decision with
  | prime =>
    have hprimed := ticked_primeBatches AudioWorker.maxPrimeBatches h hrunning
    unfold pace
    dsimp only
    split
    · exact hprimed.congr rfl rfl rfl rfl
    · exact hprimed.congr rfl rfl rfl rfl
  | runOneBatch => exact (ticked_runTick h hrunning).congr rfl rfl rfl rfl
  | wait nanos => exact (Ticked.refl h).congr rfl rfl rfl rfl
  | backpressured nanos => exact (Ticked.refl h).congr rfl rfl rfl rfl
  | fallbackFrameDeadline => exact .refl h

theorem ticked_pumpAudioRuntime (h : w.Coherent) (hrunning : w.model.snapshot.phase = .running) :
    Ticked w w.pumpAudioRuntime.2 := by
  have haudio : Ticked w { w with audio := w.audio.health.2 } :=
    (Ticked.refl h).congr rfl rfl rfl rfl
  unfold pumpAudioRuntime
  dsimp only
  split
  · split
    · exact haudio
    · exact haudio.trans hrunning (ticked_pace haudio.coherent hrunning _ _)
  · exact haudio

/-- **The first half of a round ticks a worker that runs.** -/
theorem ticked_beforeReceive (h : w.Coherent) (cancelledThrough now later : Nat) :
    Ticked w (w.beforeReceive cancelledThrough now later).2 := by
  have hkeeps := (Keeps.refl w).drainCancelledRemoteInput cancelledThrough
  unfold beforeReceive
  dsimp only
  generalize w.drainCancelledRemoteInput cancelledThrough = drained at hkeeps ⊢
  split
  · exact .keep h ⟨hkeeps.model, hkeeps.core, hkeeps.ticks⟩
  next hrunning =>
  have hrunning := not_not.mp hrunning
  split
  · have hready : Ticked w
        { drained with audio := drained.audio.disableIfUnusable, nextFrameDeadline := none } :=
      .keep h ⟨hkeeps.model, hkeeps.core, hkeeps.ticks⟩
    exact hready.trans hrunning (ticked_pumpAudioRuntime hready.coherent hrunning)
  · have hready : Ticked w { drained with audio := drained.audio.disableIfUnusable } :=
      .keep h ⟨hkeeps.model, hkeeps.core, hkeeps.ticks⟩
    split
    · have htick := hready.trans hrunning (ticked_runTick hready.coherent hrunning)
      exact htick.congr rfl rfl rfl rfl
    · exact hready.congr rfl rfl rfl rfl

/-! ## Commands -/

/-- **A ROM is loaded with its core, or nothing is.** -/
theorem loadRom_spec (hcore : w.core = none) (hdelivery : w.delivery = .empty)
    (file : Option (List Byte)) (fileName : Option String) (candidate : Core)
    (opened : Except AudioBackendError Output) :
    (w.loadRom file fileName candidate opened).2.ticks = w.ticks ∧
    ((∃ bytes snapshot, file = some bytes ∧
        (EmulatorCore.loadRom candidate bytes none).1.isOk = true ∧
        (w.loadRom file fileName candidate opened).1 = .ok snapshot ∧
        (w.loadRom file fileName candidate opened).2.Coherent) ∨
      ∃ error, (w.loadRom file fileName candidate opened).1 = .error error ∧
        (w.loadRom file fileName candidate opened).2.Failed error ∧
        (w.loadRom file fileName candidate opened).2.core = none) := by
  unfold loadRom
  split
  · exact ⟨rfl, .inr ⟨_, rfl, ⟨rfl, hdelivery⟩, hcore⟩⟩
  · next bytes =>
    dsimp only
    split
    · next metadata hok =>
      refine ⟨rfl, .inl ⟨bytes, _, rfl, by rw [hok]; rfl, rfl, ?_, fun _ => rfl⟩⟩
      exact w.model.coherent_finishLoad metadata _
    · exact ⟨rfl, .inr ⟨_, rfl, ⟨rfl, hdelivery⟩, hcore⟩⟩

/-- **A load that fails leaves nothing.** -/
theorem openRom_spec (w : RuntimeWorker G Core Output) (file : Option (List Byte))
    (fileName : Option String) (candidate : Core) (opened : Except AudioBackendError Output)
    (n : Nat) :
    Handled w (w.handleCommand (.openRom file fileName candidate opened) n).2 ∧
    ((∃ bytes snapshot, file = some bytes ∧
        (EmulatorCore.loadRom candidate bytes none).1.isOk = true ∧
        (w.handleCommand (.openRom file fileName candidate opened) n).1 =
          .snapshot (.ok snapshot)) ∨
      ∃ error, (w.handleCommand (.openRom file fileName candidate opened) n).1 =
          .snapshot (.error error) ∧
        (w.handleCommand (.openRom file fileName candidate opened) n).2.Failed error ∧
        (w.handleCommand (.openRom file fileName candidate opened) n).2.core = none) := by
  have hdropped : ({ w.dropCore with model := w.model.beginLoad } :
      RuntimeWorker G Core Output).publishControl.2.core = none ∧
      ({ w.dropCore with model := w.model.beginLoad } :
        RuntimeWorker G Core Output).publishControl.2.delivery = .empty ∧
      ({ w.dropCore with model := w.model.beginLoad } :
        RuntimeWorker G Core Output).publishControl.2.ticks = w.ticks := by
    obtain ⟨observer, heq⟩ := publishControl_eq
      ({ w.dropCore with model := w.model.beginLoad } : RuntimeWorker G Core Output)
    rw [heq]
    exact ⟨rfl, rfl, rfl⟩
  unfold handleCommand
  dsimp only
  generalize ({ w.dropCore with model := w.model.beginLoad } :
    RuntimeWorker G Core Output).publishControl.2 = begun at hdropped ⊢
  obtain ⟨hcore, hdelivery, hticks⟩ := hdropped
  obtain ⟨hsame, hloaded⟩ := loadRom_spec hcore hdelivery file fileName candidate opened
  generalize begun.loadRom file fileName candidate opened = loaded at hsame hloaded ⊢
  have hkeeps := (Keeps.refl loaded.2).publishControl
  have hticks := hkeeps.ticks.trans (hsame.trans hticks)
  obtain ⟨bytes, snapshot, hfile, hload, hok, hcoherent⟩ | ⟨error, herror, hfailed, hnone⟩ :=
    hloaded
  · exact ⟨⟨hcoherent.keep hkeeps, hticks⟩, .inl ⟨bytes, snapshot, hfile, hload, by rw [hok]⟩⟩
  · have hpublished := hfailed.publishControl
    refine ⟨⟨hpublished.coherent, hticks⟩, .inr ⟨error, by rw [herror], hpublished, ?_⟩⟩
    obtain ⟨observer, heq⟩ := loaded.2.publishControl_eq
    rw [heq]
    exact hnone

omit [AudioOutput G Output] in
theorem handled_restartCore (h : w.Coherent) : Handled w w.restartCore.2 := by
  obtain ⟨-, heq⟩ | ⟨hloaded, heq⟩ := w.model.requireLoaded_cases
  · unfold restartCore
    rw [heq]
    exact ⟨h, rfl⟩
  · unfold restartCore
    rw [heq]
    dsimp only
    split
    · exact ⟨h, rfl⟩
    · split
      · exact ⟨⟨h.model, fun _ => rfl⟩, rfl⟩
      · have hrestart : w.model.restart = .ok (w.model.inPhase .running) := by
          unfold RuntimeModel.restart
          rw [heq]
          rfl
        rw [hrestart]
        exact ⟨⟨h.model.inPhase hloaded (.inl rfl), fun _ => rfl⟩, rfl⟩

/-- **Every command leaves the worker coherent.** -/
theorem handled_handleCommand (h : w.Coherent) (command : RuntimeCommand G Core Output) (n : Nat) :
    Handled w (w.handleCommand command n).2 := by
  cases command with
  | subscribe observer =>
    refine .keep h (Keeps.publishControl ?_)
    exact ⟨rfl, rfl, rfl⟩
  | acknowledgeFrame sequence => exact .keep h ((Keeps.refl w).acknowledgeFrame sequence)
  | openRom file fileName candidate opened =>
    exact (w.openRom_spec file fileName candidate opened n).1
  | start => exact handled_applyModel h (.inl rfl)
  | pause =>
    have hpaused : Coherent { w with audio := w.audio.pause, delivery := w.delivery.clear } :=
      ⟨h.model, h.held⟩
    have hphase : RuntimePhase.paused = .running ∨ RuntimePhase.paused = .paused := .inr rfl
    have hhandled := handled_applyModel hpaused hphase
    exact ⟨hhandled.coherent, hhandled.ticks⟩
  | restart =>
    have hpaused : Coherent { w with delivery := w.delivery.clear, audio := w.audio.pause } :=
      ⟨h.model, h.held⟩
    have hhandled := handled_restartCore hpaused
    unfold handleCommand
    dsimp only
    split
    · have hkeeps := (Keeps.refl (restartCore
        { w with delivery := w.delivery.clear, audio := w.audio.pause }).2).publishControl
      exact ⟨hhandled.coherent.keep hkeeps, hkeeps.ticks.trans hhandled.ticks⟩
    · exact ⟨hhandled.coherent, hhandled.ticks⟩
  | close =>
    have hclosed : Coherent { w.dropCore with model := w.model.close } :=
      ⟨RuntimeModel.coherent_initial, nofun⟩
    have hkeeps := (Keeps.refl { w.dropCore with model := w.model.close }).publishControl
    exact ⟨hclosed.keep hkeeps, hkeeps.ticks⟩
  | setAudioGain gain => exact .keep h ⟨rfl, rfl, rfl⟩
  | setKeyboardInput buttons => exact .keep h ((Keeps.refl w).setKeyboardInput buttons)
  | controllerEvent event generation =>
    exact .keep h ((Keeps.refl w).applyControllerEvent event generation n)
  | snapshot => exact .keep h (.refl w)
  | shutdown => exact ⟨⟨RuntimeModel.coherent_initial, nofun⟩, rfl⟩

/-- The commands that need a ROM. -/
def NeedsRom : RuntimeCommand G Core Output → Prop
  | .start => True
  | .pause => True
  | .restart => True
  | _ => False

/-- **Without a ROM they are refused**, and nobody sees a difference. -/
theorem handleCommand_refused (h : w.model.coreLoaded = false)
    {command : RuntimeCommand G Core Output} (hneeds : NeedsRom command) (n : Nat) :
    (w.handleCommand command n).1 = .snapshot (.error RuntimeModel.notLoaded) ∧
      (w.handleCommand command n).2.model = w.model := by
  have hrefused : w.model.requireLoaded = .error RuntimeModel.notLoaded := by
    obtain ⟨-, heq⟩ | ⟨hloaded, -⟩ := w.model.requireLoaded_cases
    · exact heq
    · exact absurd (h.symm.trans hloaded) Bool.false_ne_true
  cases command with
  | start =>
    unfold handleCommand RuntimeModel.start
    rw [hrefused]
    exact ⟨rfl, rfl⟩
  | pause =>
    unfold handleCommand RuntimeModel.pause
    dsimp only
    rw [hrefused]
    exact ⟨rfl, rfl⟩
  | restart =>
    unfold handleCommand restartCore
    dsimp only
    rw [hrefused]
    exact ⟨rfl, rfl⟩
  | _ => exact hneeds.elim

/-! ## Runs -/

/-- What holds of the worker in every state of a run. -/
structure LifecycleLaw (w : RuntimeWorker G Core Output) : Prop where
  /-- What runs or is paused is loaded, and there is a core for it. -/
  loaded : w.model.snapshot.phase = .running ∨ w.model.snapshot.phase = .paused ↔
    w.model.coreLoaded = true
  held : w.model.coreLoaded = true → w.core.isSome = true
  rom : w.model.snapshot.rom.isSome = true ↔ w.model.coreLoaded = true
  error : w.model.snapshot.error.isSome = true ↔ w.model.snapshot.phase = .error
  /-- Start, pause and restart are refused without a ROM. -/
  refused : ∀ command n, NeedsRom command → w.model.coreLoaded = false →
    (w.receive command n).1 =
        .snapshot (.error ⟨.invalidLifecycle, "No ROM is loaded."⟩) ∧
      (w.receive command n).2.model.snapshot = w.model.snapshot
  /-- A ROM that cannot be read or loaded leaves an error and nothing else. -/
  failedLoad : ∀ file fileName candidate opened n,
    (∀ bytes, file = some bytes → ¬ (EmulatorCore.loadRom candidate bytes none).1.isOk = true) →
    ∃ error, (w.receive (.openRom file fileName candidate opened) n).1 =
        .snapshot (.error error) ∧
      (w.receive (.openRom file fileName candidate opened) n).2.Failed error
  /-- So does a core that fails in a tick, and the ticks end there. -/
  failedTick : ∀ active error, w.core = some active →
    (EmulatorCore.runCycles active Runtime.frameCycleBudget).1 = .error error →
      w.runTick.Failed (.ofCoreError error)
  failedRound : ∀ cancelledThrough now later error,
    .failed error ∈ (w.beforeReceive cancelledThrough now later).2.ticks.drop w.ticks.length →
      (w.beforeReceive cancelledThrough now later).2.Failed (.ofCoreError error)
  /-- No tick missed its core. -/
  present : .missingCore ∉ w.ticks

theorem Coherent.law (h : w.Coherent) (hpresent : .missingCore ∉ w.ticks) : LifecycleLaw w where
  loaded := h.model.loaded
  held := h.held
  rom := h.model.rom
  error := h.model.error
  refused := by
    intro command n hneeds hnone
    have hkeeps := (Keeps.refl w).drainCancelledRemoteInput n
    obtain ⟨hreply, hmodel⟩ := handleCommand_refused
      (w := w.drainCancelledRemoteInput n) (by rw [hkeeps.model]; exact hnone) hneeds n
    refine ⟨hreply, ?_⟩
    rw [receive, hmodel, hkeeps.model]
  failedLoad := by
    intro file fileName candidate opened n hfails
    obtain ⟨bytes, snapshot, hfile, hok, -⟩ | ⟨error, hreply, hfailed, -⟩ :=
      ((w.drainCancelledRemoteInput n).openRom_spec file fileName candidate opened n).2
    · exact absurd hok (hfails bytes hfile)
    · exact ⟨error, hreply, hfailed⟩
  failedTick := by
    intro active error hcore hfails
    obtain ⟨hok, -⟩ | ⟨other, hother, hfailed, -⟩ := runTick_spec hcore
    · rw [hfails] at hok
      cases hok
    · rw [hfails] at hother
      cases hother
      exact hfailed
  failedRound := by
    intro cancelledThrough now later error herror
    obtain ⟨more, hmore, -, hfailed⟩ := (ticked_beforeReceive h cancelledThrough now later).ticks
    rw [hmore, List.drop_left] at herror
    exact hfailed error herror
  present := hpresent

/-- **A step leaves the worker coherent.** -/
theorem step_coherent {point next : Point} {action : Action G Core Output}
    (h : w.Coherent) (hpresent : .missingCore ∉ w.ticks)
    (hstep : w.step point action = some (next, v)) : v.Coherent ∧ .missingCore ∉ v.ticks := by
  have hcommand : ∀ command n, (w.receive command n).2.Coherent ∧
      .missingCore ∉ (w.receive command n).2.ticks := by
    intro command n
    have hkeeps := (Keeps.refl w).drainCancelledRemoteInput n
    have hhandled := handled_handleCommand (h.keep hkeeps) command n
    refine ⟨hhandled.coherent, ?_⟩
    rw [receive, hhandled.ticks, hkeeps.ticks]
    exact hpresent
  have hstopped : ∀ {u : RuntimeWorker G Core Output}, u.Coherent → .missingCore ∉ u.ticks →
      u.afterLoop.Coherent ∧ .missingCore ∉ u.afterLoop.ticks := by
    intro u hu hticks
    exact ⟨hu.keep ⟨rfl, Option.isSome_map, rfl⟩, hticks⟩
  unfold step at hstep
  split at hstep
  · next cancelledThrough now later =>
    have hticked := ticked_beforeReceive h cancelledThrough now later
    have hafter : (w.beforeReceive cancelledThrough now later).2.Coherent ∧
        .missingCore ∉ (w.beforeReceive cancelledThrough now later).2.ticks := by
      obtain ⟨more, hmore, hmissing, -⟩ := hticked.ticks
      refine ⟨hticked.coherent, ?_⟩
      rw [hmore, List.mem_append]
      exact not_or.mpr ⟨hpresent, hmissing⟩
    split at hstep
    · next heq =>
      cases hstep
      rw [heq] at hafter
      exact hafter
    · next heq =>
      cases hstep
      rw [heq] at hafter
      exact hafter
  · cases hstep
    exact ⟨h, hpresent⟩
  · cases hstep
    exact hstopped h hpresent
  · cases hstep
    exact hstopped (hcommand _ _).1 (hcommand _ _).2
  · cases hstep
    exact hcommand _ _
  · cases hstep

/-- **The lifecycle is coherent**: over any core and any output, whatever fails and in
whatever order commands and ticks come. -/
theorem runtime_lifecycle {x : Point × RuntimeWorker G Core Output}
    (h : Reachable (system G Core Output) x) : LifecycleLaw x.2 := by
  have hinvariant : x.2.Coherent ∧ .missingCore ∉ x.2.ticks := by
    refine h.invariant (P := fun x => x.2.Coherent ∧ .missingCore ∉ x.2.ticks) ?_ ?_
    · rintro x ⟨sampleRate, prepared, reason, rfl⟩
      exact ⟨⟨RuntimeModel.coherent_initial, nofun⟩, nofun⟩
    · rintro ⟨point, w⟩ action ⟨next, v⟩ ⟨hw, hpresent⟩ hstep
      exact step_coherent hw hpresent hstep
  exact hinvariant.1.law hinvariant.2

end Ticks

/-! ## A core that fails -/

/-- The outputs of a machine without an audio device: there are none. -/
inductive NoOutput (G : GainModel M) : Type

instance : AudioOutput G (NoOutput G) where
  sampleRate := nofun
  watermarks := nofun
  enqueue := nofun
  setGain := nofun
  health := nofun
  play := nofun
  pauseAndFlush := nofun

section Deaf
variable {Core : Type}

/-- A worker on such a machine. -/
abbrev Deaf (Core : Type) := RuntimeWorker AudioQueue.fullGain Core (NoOutput AudioQueue.fullGain)

def deaf (Core : Type) : Deaf Core := new (.new 48000 none none)

/-- It opens an image in a new core. -/
def openImage (candidate : Core) (bytes : List Byte) :
    RuntimeCommand AudioQueue.fullGain Core (NoOutput AudioQueue.fullGain) :=
  .openRom (some bytes) none candidate (.error ⟨.noOutputDevice, "no device"⟩)

/-- The worker with an image in its core. -/
def holding (metadata : CartridgeMetadata) (g : Core) : Deaf Core :=
  { deaf Core with
    model := RuntimeModel.initial.finishLoad metadata "Selected ROM"
    core := some g
    audio := { (deaf Core).audio with firstOpen := false } }

variable [EmulatorCore .mute Core]

abbrev deafSystem (Core : Type) [EmulatorCore .mute Core] :=
  system AudioQueue.fullGain Core (NoOutput AudioQueue.fullGain)

/-- A round of a worker that runs without audio. -/
theorem beforeReceive_silent {w : Deaf Core} (hrunning : w.model.snapshot.phase = .running)
    (hsilent : w.audio.output = none) {now deadline : Nat}
    (hdeadline : w.nextFrameDeadline.getD (now + frameInterval) = deadline) (later : Nat) :
    w.beforeReceive 0 now later =
      if deadline ≤ now then
        (none, { w.runTick with
          nextFrameDeadline :=
            if w.runTick.model.snapshot.phase = .running then
              some (advanceFrameDeadline deadline later)
            else none })
      else (some (deadline - now), { w with nextFrameDeadline := some deadline }) := by
  have haudio : w.audio.disableIfUnusable = w.audio := by
    unfold RuntimeAudio.disableIfUnusable RuntimeAudio.health
    rw [hsilent]
    rfl
  have hdrain : w.drainCancelledRemoteInput 0 = w := if_pos (Nat.zero_le _)
  unfold beforeReceive
  rw [hdrain]
  dsimp only
  rw [haudio, if_neg (not_not.mpr hrunning), hsilent, Option.isSome_none,
    if_neg Bool.false_ne_true, hdeadline]

/-- The worker opens the image and starts it. -/
def startedWith (candidate : Core) (bytes : List Byte) : Deaf Core :=
  (((deaf Core).receive (openImage candidate bytes) 0).2.receive .start 0).2

/-- It waits for its first deadline at time 7, and ticks when that has come. -/
def tickedWith (candidate : Core) (bytes : List Byte) : Deaf Core :=
  (((startedWith candidate bytes).beforeReceive 0 7 7).2.beforeReceive 0 (7 + frameInterval)
    (9 + frameInterval)).2

section Loads
variable {candidate g : Core} {bytes : List Byte} {metadata : CartridgeMetadata}

theorem receive_openImage (h : EmulatorCore.loadRom candidate bytes none = (.ok metadata, g)) :
    ((deaf Core).receive (openImage candidate bytes) 0).2 = holding metadata g := by
  show (RuntimeWorker.loadRom _ _ _ _ _).2.publishControl.2 = _
  unfold RuntimeWorker.loadRom
  dsimp only
  rw [h]
  rfl

theorem reachable_tickedWith (h : EmulatorCore.loadRom candidate bytes none = (.ok metadata, g)) :
    Reachable (deafSystem Core) (.top, tickedWith candidate bytes) := by
  have hspawned : Reachable (deafSystem Core) (.top, deaf Core) := .start ⟨48000, none, none, rfl⟩
  have hwaits : Reachable (deafSystem Core) (.receiving, deaf Core) :=
    hspawned.step (i := .advance 0 0 0) rfl
  have hopened : Reachable (deafSystem Core)
      (.top, ((deaf Core).receive (openImage candidate bytes) 0).2) :=
    hwaits.step (i := .command (openImage candidate bytes) 0) rfl
  unfold tickedWith startedWith
  rw [receive_openImage h] at hopened ⊢
  have hidles : Reachable (deafSystem Core) (.receiving, holding metadata g) :=
    hopened.step (i := .advance 0 0 0) rfl
  generalize hstart : ((holding metadata g).receive .start 0).2 = w
  have hstarted : Reachable (deafSystem Core) (.top, w) :=
    hidles.step (i := .command .start 0) (by rw [← hstart]; rfl)
  have hset : Reachable (deafSystem Core) (.receiving, (w.beforeReceive 0 7 7).2) :=
    hstarted.step (i := .advance 0 7 7) (by rw [← hstart]; rfl)
  have hagain : Reachable (deafSystem Core) (.top, (w.beforeReceive 0 7 7).2) :=
    hset.step (i := .timeout) rfl
  exact hagain.step (i := .advance 0 (7 + frameInterval) (9 + frameInterval))
    (by rw [← hstart]; rfl)

/-- The worker runs until its core fails in the tick. -/
theorem tickedWith_fails (h : EmulatorCore.loadRom candidate bytes none = (.ok metadata, g))
    {error : CoreError}
    (hfails : (EmulatorCore.runCycles g Runtime.frameCycleBudget).1 = .error error) :
    (tickedWith candidate bytes).ticks = [.failed error] ∧
      (tickedWith candidate bytes).model.snapshot.phase = .error := by
  obtain ⟨w, hw, hrunning, hsilent, hcore, hticks, hunset⟩ : ∃ w : Deaf Core,
      startedWith candidate bytes = w ∧ w.model.snapshot.phase = .running ∧
        w.audio.output = none ∧ w.core = some g ∧ w.ticks = [] ∧ w.nextFrameDeadline = none := by
    refine ⟨((holding metadata g).receive .start 0).2, ?_, rfl, rfl, rfl, rfl, rfl⟩
    rw [startedWith, receive_openImage h]
  have hwaits : (w.beforeReceive 0 7 7).2 =
      { w with nextFrameDeadline := some (7 + frameInterval) } := by
    have hdeadline : w.nextFrameDeadline.getD (7 + frameInterval) = 7 + frameInterval := by
      rw [hunset, Option.getD_none]
    rw [beforeReceive_silent hrunning hsilent hdeadline, if_neg (by unfold frameInterval; omega)]
  have hdue := runTick_spec (w := { w with nextFrameDeadline := some (7 + frameInterval) }) hcore
  rw [tickedWith, hw, hwaits,
    beforeReceive_silent (w := { w with nextFrameDeadline := some (7 + frameInterval) }) hrunning
      hsilent (Option.getD_some ..), if_pos (Nat.le_refl _)]
  obtain ⟨hok, -⟩ | ⟨other, hother, hfailed, hrecord⟩ := hdue
  · rw [hfails] at hok
    cases hok
  · obtain rfl := Except.error.inj (hfails.symm.trans hother)
    exact ⟨by rw [hrecord, hticks]; rfl, by rw [hfailed.model]⟩

end Loads

/-- A worker with a Game Boy core that fails in its first frame. -/
theorem exists_failed {candidate : GameBoy .mute} {bytes : List Byte} {cartridge : Cartridge}
    (h : Cartridge.load bytes none candidate.clock.unixSeconds = .ok cartridge) {error : CoreError}
    (hfails : ((candidate.loadRom bytes none).2.runCycles Runtime.frameCycleBudget).1 =
      .error error) :
    ∃ w : Deaf (GameBoy .mute), Reachable (deafSystem (GameBoy .mute)) (.top, w) ∧
      w.ticks = [.failed error] ∧ w.model.snapshot.phase = .error :=
  have hload := GameBoy.loadRom_loaded h
  ⟨_, reachable_tickedWith hload, tickedWith_fails hload hfails⟩

/-- The worker with an image that has no instruction at its start. -/
theorem runtime_lifecycle_illegal :
    ∃ w : Deaf (GameBoy .mute), LifecycleLaw w ∧
      w.ticks = [.failed (illegalOpcode 0xd3 0x0100)] ∧ w.model.snapshot.phase = .error := by
  have hload := GameBoy.load_illegalImage
    (GameBoy.new (M := .mute) ⟨fun _ => 0, 0⟩ 48000).clock.unixSeconds
  obtain ⟨w, hreachable, hticks, herror⟩ :=
    exists_failed hload (GameBoy.runCycles_loadRom_illegal (by decide))
  exact ⟨w, runtime_lifecycle hreachable, hticks, herror⟩

end Deaf

end RuntimeWorker

end Pockiva
