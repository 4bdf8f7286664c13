import Pockiva.Desktop.RuntimeAudio

/-! # The worker of the desktop runtime, over any core

The whole of `run_worker`: the lifecycle model, the core, the observer, the queue of
frames, the audio and the remote input, each updated on its own.  The core and the audio
output are any implementations of their traits, so every call on them may fail.

`ticks` is not in the source: it records how the ticks ended.
-/
namespace Pockiva

open Transition

variable {M : MixerModel} {G : GainModel M}

/-- The trait `EmulatorCore`, as far as the runtime uses it. -/
class EmulatorCore (M : outParam MixerModel) (Core : Type) where
  loadRom : Core → List Byte → Option BatteryState → Except CoreError CartridgeMetadata × Core
  reset : Core → Except CoreError Unit × Core
  runCycles : Core → Nat → Except CoreError RunOutcome × Core
  setInput : Core → InputSourceId → JoypadState → Core
  clearInputSource : Core → InputSourceId → Core
  takeFrame : Core → Option Frame × Core
  drainAudio : Core → AudioBatch M × Core

instance : EmulatorCore M (GameBoy M) where
  loadRom := GameBoy.loadRom
  reset := GameBoy.reset
  runCycles := GameBoy.runCycles
  setInput := GameBoy.setInput
  clearInputSource := GameBoy.clearInputSource
  takeFrame := GameBoy.takeFrame
  drainAudio := GameBoy.drainAudio

/-- How a tick ended, for the record. -/
inductive TickRecord where
  /-- There was no core to run. -/
  | missingCore
  | ran
  | failed (error : CoreError)
deriving DecidableEq

structure RuntimeWorker (G : GainModel M) (Core Output : Type) where
  model : RuntimeModel
  core : Option Core
  observer : Option RuntimeObserver
  delivery : FrameQueue
  audio : RuntimeAudio G Output
  remoteInputs : RemoteInputs
  nextFrameDeadline : Option Nat
  ticks : List TickRecord

/-- The commands.  `openRom` comes with what the file reads as and its name, the core the
factory creates and what the audio factory opens. -/
inductive RuntimeCommand (G : GainModel M) (Core Output : Type) where
  | subscribe (observer : RuntimeObserver)
  | acknowledgeFrame (sequence : Nat)
  | openRom (file : Option (List Byte)) (fileName : Option String) (candidate : Core)
      (opened : Except AudioBackendError Output)
  | start
  | pause
  | restart
  | close
  | setAudioGain (gain : G.Gain)
  | setKeyboardInput (buttons : List Button)
  | controllerEvent (event : Network.ControllerEvent) (generation : Nat)
  | snapshot
  | shutdown

namespace RuntimeWorker
variable {Core Output : Type}

def new (audio : RuntimeAudio G Output) : RuntimeWorker G Core Output where
  model := .initial
  core := none
  observer := none
  delivery := .empty
  audio := audio
  remoteInputs := .initial
  nextFrameDeadline := none
  ticks := []

def record (w : RuntimeWorker G Core Output) (tick : TickRecord) : RuntimeWorker G Core Output :=
  { w with ticks := w.ticks ++ [tick] }

/-! ## Publication -/

def publishControl (w : RuntimeWorker G Core Output) :
    Except RuntimeError Unit × RuntimeWorker G Core Output :=
  match w.observer with
  | none => (.ok (), w)
  | some observer =>
    match observer.answer with
    | .ok () => (.ok (), { w with observer := some observer.next })
    | .error error => (.error error, { w with observer := none })

/-- The packet of the frame goes to the observer. -/
def publishFrame (w : RuntimeWorker G Core Output) (_ : Frame) : RuntimeWorker G Core Output :=
  match w.observer with
  | none => { w with delivery := w.delivery.clear }
  | some observer =>
    match observer.answer with
    | .ok () => { w with observer := some observer.next }
    | .error _ => { w with observer := none, delivery := w.delivery.clear }

def offerFrame (w : RuntimeWorker G Core Output) (frame : Frame) : RuntimeWorker G Core Output :=
  if w.observer.isNone then { w with delivery := w.delivery.clear }
  else
    let offered := w.delivery.offer frame
    let w := { w with delivery := offered.2 }
    match offered.1 with
    | some frame => w.publishFrame frame
    | none => w

def acknowledgeFrame (w : RuntimeWorker G Core Output) (sequence : Nat) :
    Except RuntimeError Unit × RuntimeWorker G Core Output :=
  let acknowledged := w.delivery.acknowledge sequence
  match acknowledged.1 with
  | .error .notInFlight =>
    (.error ⟨.invalidLifecycle, "The acknowledged frame is not awaiting presentation."⟩, w)
  | .ok next =>
    let w := { w with delivery := acknowledged.2 }
    match next with
    | some frame => (.ok (), w.publishFrame frame)
    | none => (.ok (), w)

/-! ## Remote input -/

variable [EmulatorCore M Core]

def applyControllerEvent (w : RuntimeWorker G Core Output) (event : Network.ControllerEvent)
    (generation cancelledThrough : Nat) :
    Except RuntimeError Unit × RuntimeWorker G Core Output :=
  match Runtime.validateRemoteEventSource event with
  | .error error => (.error error, w)
  | .ok () =>
    if generation ≤ cancelledThrough then (.ok (), w)
    else match event with
      | .connected connectionId _ =>
        (.ok (), { w with
          remoteInputs := { w.remoteInputs with owner := some ⟨connectionId, generation⟩ } })
      | .disconnected _ _ => (.ok (), w)
      | .message connectionId source message =>
        match Runtime.stateAfterMessage w.remoteInputs source generation message with
        | .error error => (.error error, w)
        | .ok state =>
          let remoteInputs := { w.remoteInputs with owner := some ⟨connectionId, generation⟩ }
          (.ok (), { w with
            remoteInputs := remoteInputs.insert source ⟨generation, state⟩
            core := w.core.map fun active => EmulatorCore.setInput active source state })

def drainCancelledRemoteInput (w : RuntimeWorker G Core Output) (cancelledThrough : Nat) :
    RuntimeWorker G Core Output :=
  if cancelledThrough ≤ w.remoteInputs.clearedThrough then w
  else
    let inputs := { w.remoteInputs with clearedThrough := cancelledThrough }
    let inputs :=
      if inputs.owner.any fun owner => owner.generation ≤ cancelledThrough then
        RemoteInputs.remove { inputs with owner := none } remoteInputSource
      else inputs
    { w with
      remoteInputs := inputs
      core := w.core.map fun active => EmulatorCore.clearInputSource active remoteInputSource }

def applyRetainedRemoteInputs (core : Core) (inputs : RemoteInputs) : Core :=
  inputs.snapshots.foldl (fun core entry => EmulatorCore.setInput core entry.1 entry.2.state) core

def setKeyboardInput (w : RuntimeWorker G Core Output) (buttons : List Button) :
    Except RuntimeError Unit × RuntimeWorker G Core Output :=
  match w.core with
  | none => (.error ⟨.invalidLifecycle, "No ROM is loaded."⟩, w)
  | some active =>
    let state := buttons.foldl JoypadState.press .released
    (.ok (), { w with core := some (EmulatorCore.setInput active keyboardInputSource state) })

variable [AudioOutput G Output]

/-! ## A tick -/

/-- The core failed: nothing is loaded any more. -/
def failTick (w : RuntimeWorker G Core Output) (error : CoreError) : RuntimeWorker G Core Output :=
  { w with
    model := w.model.failLoad (.ofCoreError error)
    delivery := w.delivery.clear
    audio := w.audio.shutdownOutput }

def runTick (w : RuntimeWorker G Core Output) : RuntimeWorker G Core Output :=
  match w.core with
  | none =>
    let w := { w with model := w.model.failLoad runtimeUnavailable }
    (w.record .missingCore).publishControl.2
  | some active =>
    let ran := EmulatorCore.runCycles active Runtime.frameCycleBudget
    let drained := EmulatorCore.drainAudio ran.2
    let w := { w with core := some drained.2, audio := w.audio.enqueue drained.1 }
    match ran.1 with
    | .ok outcome =>
      let w := w.record .ran
      if outcome.frameReady then
        let taken := EmulatorCore.takeFrame drained.2
        let w := { w with core := some taken.2 }
        match taken.1 with
        | some frame => w.offerFrame frame
        | none => w
      else w
    | .error error => ((w.failTick error).record (.failed error)).publishControl.2

/-- The loop of the priming, for at most `n` batches. -/
def primeBatches : Nat → RuntimeWorker G Core Output → RuntimeWorker G Core Output
  | 0, w => w
  | n + 1, w =>
    let w := w.runTick
    if w.model.snapshot.phase ≠ .running then w
    else
      let found := w.audio.health
      let w := { w with audio := found.2 }
      match found.1 with
      | none => w
      | some health =>
        if health.flushPending || w.audio.filled health then w else primeBatches n w

/-- What a decision of the pacing leads to, and the time to wait. -/
def pace (w : RuntimeWorker G Core Output) (queuedBefore : Nat) :
    PacingDecision → Nat × RuntimeWorker G Core Output
  | .prime =>
    let w := primeBatches AudioWorker.maxPrimeBatches w
    let found := w.audio.startPlaybackIfPrimed.health
    let queuedAfter := (found.1.map AudioHealth.queuedStereoFrames).getD queuedBefore
    if queuedAfter = queuedBefore ∧ found.2.output.isSome ∧ found.2.playing = false then
      let error : AudioBackendError := ⟨.backend, "core produced no audio while priming"⟩
      (0, { w with audio := found.2.disable error })
    else (0, { w with audio := found.2 })
  | .runOneBatch =>
    let w := w.runTick
    (0, { w with audio := w.audio.startPlaybackIfPrimed })
  | .wait nanos => (nanos, { w with audio := w.audio.startPlaybackIfPrimed })
  | .backpressured nanos => (nanos, { w with audio := w.audio.startPlaybackIfPrimed })
  | .fallbackFrameDeadline => (0, w)

def pumpAudioRuntime (w : RuntimeWorker G Core Output) : Nat × RuntimeWorker G Core Output :=
  let found := w.audio.health
  let w := { w with audio := found.2 }
  match found.1, w.audio.output with
  | some health, some output =>
    if health.flushPending then (AudioWorker.audioPollInterval, w)
    else
      w.pace health.queuedStereoFrames (pacingDecision health (AudioOutput.watermarks output))
  | _, _ => (0, w)

/-! ## Commands -/

/-- The result of a lifecycle command: on success the new model is shown. -/
def applyModel (w : RuntimeWorker G Core Output) (model : Except RuntimeError RuntimeModel) :
    Runtime.Reply × RuntimeWorker G Core Output :=
  match model with
  | .error error => (.snapshot (.error error), w)
  | .ok model => (.snapshot (.ok model.snapshot), publishControl { w with model := model } |>.2)

/-- The core and the output are dropped, and no frame waits any more. -/
def dropCore (w : RuntimeWorker G Core Output) : RuntimeWorker G Core Output :=
  { w with
    audio := w.audio.shutdownOutput
    core := none
    delivery := w.delivery.clear }

def loadRom (w : RuntimeWorker G Core Output) (file : Option (List Byte))
    (fileName : Option String) (candidate : Core) (opened : Except AudioBackendError Output) :
    Except RuntimeError RuntimeSnapshot × RuntimeWorker G Core Output :=
  match file with
  | none =>
    let error : RuntimeError := ⟨.fileInaccessible, "The selected ROM file could not be read."⟩
    (.error error, { w with model := w.model.failLoad error })
  | some bytes =>
    let prepared := w.audio.prepareCandidate opened
    let w := { w with audio := prepared.2 }
    let loaded := EmulatorCore.loadRom candidate bytes none
    match loaded.1 with
    | .ok metadata =>
      let w := { w with
        model := w.model.finishLoad metadata (fileName.getD "Selected ROM")
        core := some (applyRetainedRemoteInputs loaded.2 w.remoteInputs)
        audio := w.audio.activate prepared.1 }
      (.ok w.model.snapshot, w)
    | .error error =>
      -- the output that was prepared is shut down and dropped
      (.error (.ofCoreError error), { w with model := w.model.failLoad (.ofCoreError error) })

def restartCore (w : RuntimeWorker G Core Output) :
    Except RuntimeError RuntimeSnapshot × RuntimeWorker G Core Output :=
  match w.model.requireLoaded with
  | .error error => (.error error, w)
  | .ok () =>
    match w.core with
    | none => (.error runtimeUnavailable, w)
    | some active =>
      let reset := EmulatorCore.reset (EmulatorCore.clearInputSource active keyboardInputSource)
      match reset.1 with
      | .error error => (.error (.ofCoreError error), { w with core := some reset.2 })
      | .ok () =>
        let w := { w with core := some (applyRetainedRemoteInputs reset.2 w.remoteInputs) }
        match w.model.restart with
        | .error error => (.error error, w)
        | .ok model => (.ok model.snapshot, { w with model := model })

/-- The reply, and the worker afterwards. -/
def handleCommand (w : RuntimeWorker G Core Output) (command : RuntimeCommand G Core Output)
    (cancelledThrough : Nat) : Runtime.Reply × RuntimeWorker G Core Output :=
  match command with
  | .subscribe observer =>
    let shown := publishControl { w with
      delivery := w.delivery.clear
      observer := some observer }
    (.snapshot (shown.1.map fun _ => shown.2.model.snapshot), shown.2)
  | .acknowledgeFrame sequence =>
    let acknowledged := w.acknowledgeFrame sequence
    (.done acknowledged.1, acknowledged.2)
  | .openRom file fileName candidate opened =>
    let w := { w.dropCore with model := w.model.beginLoad }.publishControl.2
    let loaded := w.loadRom file fileName candidate opened
    (.snapshot loaded.1, loaded.2.publishControl.2)
  | .start => w.applyModel w.model.start
  | .pause =>
    let w := { w with audio := w.audio.pause, delivery := w.delivery.clear }
    w.applyModel w.model.pause
  | .restart =>
    let restarted :=
      restartCore { w with delivery := w.delivery.clear, audio := w.audio.pause }
    (.snapshot restarted.1,
      if restarted.1.isOk then restarted.2.publishControl.2 else restarted.2)
  | .close =>
    let w := { w.dropCore with model := w.model.close }.publishControl.2
    (.snapshot (.ok w.model.snapshot), w)
  | .setAudioGain gain =>
    let set := w.audio.setGain gain
    (.done set.1, { w with audio := set.2 })
  | .setKeyboardInput buttons =>
    let pressed := w.setKeyboardInput buttons
    (.done pressed.1, pressed.2)
  | .controllerEvent event generation =>
    let applied := w.applyControllerEvent event generation cancelledThrough
    (.done applied.1, applied.2)
  | .snapshot => (.snapshot (.ok w.model.snapshot), w)
  | .shutdown =>
    let w := { w.dropCore with audio := w.audio.shutdownAll }
    (.done (.ok ()), { w with model := w.model.close })

/-! ## The loop -/

/-- `FRAME_INTERVAL`, in nanoseconds. -/
def frameInterval : Nat := 16743000

/-- `IDLE_POLL_INTERVAL`, in nanoseconds. -/
def idlePollInterval : Nat := 100000000

def advanceFrameDeadline (deadline now : Nat) : Nat :=
  if now < deadline + frameInterval then deadline + frameInterval else now + frameInterval

/-- The first half of a round of the loop, up to the wait for a command: how long to wait,
or nothing if the loop goes on without.  `later` is the time after a tick. -/
def beforeReceive (w : RuntimeWorker G Core Output) (cancelledThrough now later : Nat) :
    Option Nat × RuntimeWorker G Core Output :=
  let w := w.drainCancelledRemoteInput cancelledThrough
  let w := { w with audio := w.audio.disableIfUnusable }
  if w.model.snapshot.phase ≠ .running then
    (some idlePollInterval, { w with nextFrameDeadline := none })
  else if w.audio.output.isSome then
    let pumped := { w with nextFrameDeadline := none }.pumpAudioRuntime
    (some pumped.1, pumped.2)
  else
    let deadline := w.nextFrameDeadline.getD (now + frameInterval)
    if deadline ≤ now then
      let w := w.runTick
      (none, { w with
        nextFrameDeadline :=
          if w.model.snapshot.phase = .running then some (advanceFrameDeadline deadline later)
          else none })
    else (some (deadline - now), { w with nextFrameDeadline := some deadline })

/-- What follows the loop. -/
def afterLoop (w : RuntimeWorker G Core Output) : RuntimeWorker G Core Output :=
  { w with
    audio := w.audio.shutdownAll
    core := w.core.map fun active => EmulatorCore.clearInputSource active keyboardInputSource }

/-- A command that was received. -/
def receive (w : RuntimeWorker G Core Output) (command : RuntimeCommand G Core Output)
    (cancelledThrough : Nat) : Runtime.Reply × RuntimeWorker G Core Output :=
  (w.drainCancelledRemoteInput cancelledThrough).handleCommand command cancelledThrough

/-- Where the worker is in its loop. -/
inductive Point where
  | top
  | receiving
  | stopped
deriving DecidableEq, Repr

/-- A step of the worker. -/
inductive Action (G : GainModel M) (Core Output : Type) where
  /-- Up to the wait for a command. -/
  | advance (cancelledThrough now later : Nat)
  /-- No command came in time. -/
  | timeout
  /-- Nobody can send commands any more. -/
  | disconnected
  | command (command : RuntimeCommand G Core Output) (cancelledThrough : Nat)

/-- The worker and its point after a step. -/
def step (w : RuntimeWorker G Core Output) :
    Point → Action G Core Output → Option (Point × RuntimeWorker G Core Output)
  | .top, .advance cancelledThrough now later =>
    match w.beforeReceive cancelledThrough now later with
    | (none, w) => some (.top, w)
    | (some _, w) => some (.receiving, w)
  | .receiving, .timeout => some (.top, w)
  | .receiving, .disconnected => some (.stopped, w.afterLoop)
  | .receiving, .command .shutdown cancelledThrough =>
    some (.stopped, (w.receive .shutdown cancelledThrough).2.afterLoop)
  | .receiving, .command command cancelledThrough =>
    some (.top, (w.receive command cancelledThrough).2)
  | _, _ => none

/-- A worker from its spawn on. -/
def system (G : GainModel M) (Core Output : Type) [EmulatorCore M Core] [AudioOutput G Output] :
    System (Point × RuntimeWorker G Core Output) (Action G Core Output) where
  start x := ∃ sampleRate prepared reason, x = (.top, new (.new sampleRate prepared reason))
  step x action y := x.2.step x.1 action = some y

end RuntimeWorker

end Pockiva
