import Pockiva.Desktop.FrameQueue
import Pockiva.Machine
import Pockiva.Network.Messages

/-! # The runtime of the desktop application

One worker owns the core.  It handles commands in the order of its queue, lets the core
run between them while the phase is `running`, publishes frames to an observer and keeps
what the remote controller holds.  The audio output only decides when a tick is due and
is left out here: a tick may happen between any two commands.

`frameLog` is not in the source: it records what happens to frames.
-/
namespace Pockiva

variable {M : MixerModel}

/-! ## Contracts with the frontend -/

def keyboardInputSource : InputSourceId := 1

def remoteInputSource : InputSourceId := 2

inductive RuntimePhase where
  | empty
  | loading
  | paused
  | running
  | error
deriving DecidableEq, Repr

inductive RuntimeErrorCode where
  | fileInaccessible
  | invalidRom
  | cgbOnly
  | unsupportedMapper
  | coreFailure
  | invalidLifecycle
  | runtimeUnavailable
deriving DecidableEq, Repr

structure RuntimeError where
  code : RuntimeErrorCode
  message : String
deriving DecidableEq, Repr

/-- `{:#04x}`. -/
def hexOfByte (b : Byte) : String :=
  String.ofList ['0', 'x', Nat.digitChar (b.toNat / 16), Nat.digitChar (b.toNat % 16)]

namespace RuntimeError

/-- `From<CoreError>`. -/
def ofCoreError : CoreError → RuntimeError
  | .invalidRom reason => ⟨.invalidRom, "Invalid ROM: " ++ reason⟩
  | .unsupportedCgbOnlyCartridge =>
    ⟨.cgbOnly, "Game Boy Color-only cartridges are not supported."⟩
  | .unsupportedMapper mapper =>
    ⟨.unsupportedMapper, "Unsupported cartridge mapper: " ++ hexOfByte mapper ++ "."⟩
  | .notLoaded => ⟨.invalidLifecycle, "No ROM is loaded."⟩
  | .internalInvariant reason => ⟨.coreFailure, "Emulator core failure: " ++ reason⟩

end RuntimeError

/-- `runtime_unavailable`. -/
def runtimeUnavailable : RuntimeError :=
  ⟨.runtimeUnavailable, "The desktop runtime is unavailable."⟩

structure RomSummary where
  fileName : String
  mapper : MapperKind
  compatibility : CompatibilityMode
deriving DecidableEq, Repr

/-- `RomSummary::from_metadata`. -/
def RomSummary.fromMetadata (metadata : CartridgeMetadata) (fileName : String) : RomSummary where
  fileName := fileName
  mapper := metadata.mapper
  compatibility := metadata.compatibility

structure RuntimeSnapshot where
  phase : RuntimePhase
  rom : Option RomSummary
  error : Option RuntimeError
deriving DecidableEq, Repr

def RuntimeSnapshot.empty : RuntimeSnapshot := ⟨.empty, none, none⟩

/-! ## The lifecycle -/

structure RuntimeModel where
  snapshot : RuntimeSnapshot
  coreLoaded : Bool
deriving DecidableEq, Repr

namespace RuntimeModel

/-- `RuntimeModel::default()`. -/
def initial : RuntimeModel := ⟨.empty, false⟩

def beginLoad (_ : RuntimeModel) : RuntimeModel := ⟨⟨.loading, none, none⟩, false⟩

def finishLoad (_ : RuntimeModel) (metadata : CartridgeMetadata) (fileName : String) :
    RuntimeModel :=
  ⟨⟨.paused, some (.fromMetadata metadata fileName), none⟩, true⟩

def failLoad (_ : RuntimeModel) (error : RuntimeError) : RuntimeModel :=
  ⟨⟨.error, none, some error⟩, false⟩

def requireLoaded (m : RuntimeModel) : Except RuntimeError Unit :=
  if m.coreLoaded then .ok () else .error ⟨.invalidLifecycle, "No ROM is loaded."⟩

/-- The model in another phase. -/
def inPhase (m : RuntimeModel) (phase : RuntimePhase) : RuntimeModel :=
  { m with snapshot := { m.snapshot with phase := phase } }

def start (m : RuntimeModel) : Except RuntimeError RuntimeModel :=
  m.requireLoaded.map fun _ => m.inPhase .running

def pause (m : RuntimeModel) : Except RuntimeError RuntimeModel :=
  m.requireLoaded.map fun _ => m.inPhase .paused

def restart (m : RuntimeModel) : Except RuntimeError RuntimeModel :=
  m.requireLoaded.map fun _ => m.inPhase .running

def close (_ : RuntimeModel) : RuntimeModel := ⟨.empty, false⟩

end RuntimeModel

/-! ## The remote controller's input -/

structure CurrentController where
  connectionId : Network.ControllerConnectionId
  generation : Nat
deriving DecidableEq

structure RemoteInputSnapshot where
  generation : Nat
  state : JoypadState
deriving DecidableEq

structure RemoteInputs where
  /-- The hash map of the source, one entry a source. -/
  snapshots : List (InputSourceId × RemoteInputSnapshot)
  owner : Option CurrentController
  clearedThrough : Nat

namespace RemoteInputs

/-- `RemoteInputs::default()`. -/
def initial : RemoteInputs := ⟨[], none, 0⟩

def get (i : RemoteInputs) (source : InputSourceId) : Option RemoteInputSnapshot :=
  (i.snapshots.find? fun entry => entry.1 == source).map Prod.snd

def remove (i : RemoteInputs) (source : InputSourceId) : RemoteInputs :=
  { i with snapshots := i.snapshots.filter fun entry => entry.1 != source }

def insert (i : RemoteInputs) (source : InputSourceId) (snapshot : RemoteInputSnapshot) :
    RemoteInputs :=
  { i with snapshots := (source, snapshot) :: (i.remove source).snapshots }

end RemoteInputs

def mapNetworkButton : Network.Button → Button
  | .up => .up
  | .down => .down
  | .left => .left
  | .right => .right
  | .a => .a
  | .b => .b
  | .start => .start
  | .select => .select

/-! ## The worker's state -/

/-- What a subscriber answers to each publication, and how many it got. -/
structure RuntimeObserver where
  answers : Nat → Except RuntimeError Unit
  asked : Nat

namespace RuntimeObserver

def answer (o : RuntimeObserver) : Except RuntimeError Unit := o.answers o.asked

/-- The observer after a publication. -/
def next (o : RuntimeObserver) : RuntimeObserver := { o with asked := o.asked + 1 }

end RuntimeObserver

/-- What happens to frames, for the record. -/
inductive FrameEvent where
  /-- The observer took the frame. -/
  | published (frame : Frame)
  /-- The acknowledgement of the frame that was published as number `index` arrived. -/
  | acknowledged (index : Nat) (accepted : Bool)
  | cleared
  /-- The core was reset or replaced: it numbers its frames from 1 again. -/
  | renumbered

structure Runtime (M : MixerModel) where
  model : RuntimeModel
  core : Option (GameBoy M)
  observer : Option RuntimeObserver
  delivery : FrameQueue
  remoteInputs : RemoteInputs
  frameLog : List FrameEvent

namespace Runtime

def initial : Runtime M where
  model := .initial
  core := none
  observer := none
  delivery := .empty
  remoteInputs := .initial
  frameLog := []

def record (r : Runtime M) (e : FrameEvent) : Runtime M := { r with frameLog := r.frameLog ++ [e] }

/-- `delivery.clear()`. -/
def clearDelivery (r : Runtime M) : Runtime M :=
  Runtime.record { r with delivery := r.delivery.clear } .cleared

/-- The core with an operation applied, if there is one. -/
def withCore (r : Runtime M) (f : GameBoy M → GameBoy M) : Runtime M :=
  { r with core := r.core.map f }

/-! ## Publication -/

def publishControl (r : Runtime M) : Except RuntimeError Unit × Runtime M :=
  match r.observer with
  | none => (.ok (), r)
  | some observer =>
    match observer.answer with
    | .ok () => (.ok (), { r with observer := some observer.next })
    | .error e => (.error e, { r with observer := none })

def publishFrame (r : Runtime M) (frame : Frame) : Runtime M :=
  match r.observer with
  | none => r.clearDelivery
  | some observer =>
    match observer.answer with
    | .ok () => Runtime.record { r with observer := some observer.next } (.published frame)
    | .error _ => Runtime.clearDelivery { r with observer := none }

def offerFrame (r : Runtime M) (frame : Frame) : Runtime M :=
  if r.observer.isNone then r.clearDelivery
  else
    let offered := r.delivery.offer frame
    let r := { r with delivery := offered.2 }
    match offered.1 with
    | some frame => r.publishFrame frame
    | none => r

/-- The client sends the number only; `index` tells the record which frame it means. -/
def acknowledgeFrame (r : Runtime M) (sequence index : Nat) :
    Except RuntimeError Unit × Runtime M :=
  let acknowledged := r.delivery.acknowledge sequence
  match acknowledged.1 with
  | .error .notInFlight =>
    (.error ⟨.invalidLifecycle, "The acknowledged frame is not awaiting presentation."⟩,
      r.record (.acknowledged index false))
  | .ok next =>
    let r := Runtime.record { r with delivery := acknowledged.2 } (.acknowledged index true)
    match next with
    | some frame => (.ok (), r.publishFrame frame)
    | none => (.ok (), r)

/-! ## A tick -/

/-- `FRAME_CYCLE_BUDGET`. -/
def frameCycleBudget : Nat := 70224

def runTick (r : Runtime M) : Runtime M :=
  match r.core with
  | none => (Runtime.publishControl { r with model := r.model.failLoad runtimeUnavailable }).2
  | some active =>
    let outcome := (active.runCycles frameCycleBudget).1
    let active := (active.runCycles frameCycleBudget).2.drainAudio.2
    let r := { r with core := some active }
    match outcome with
    | .ok outcome =>
      if outcome.frameReady then
        let r := { r with core := some active.takeFrame.2 }
        match active.takeFrame.1 with
        | some frame => r.offerFrame frame
        | none => r
      else r
    | .error e =>
      let r := { r with model := r.model.failLoad (.ofCoreError e) }
      r.clearDelivery.publishControl.2

/-! ## Remote input -/

def validateRemoteEventSource (event : Network.ControllerEvent) : Except RuntimeError Unit :=
  if event.inputSource = remoteInputSource then .ok ()
  else .error ⟨.invalidLifecycle,
    "Remote controller events must use the reserved remote input source."⟩

/-- What the source held after its last message of the generation. -/
def heldInGeneration (i : RemoteInputs) (source : InputSourceId) (generation : Nat) : JoypadState :=
  match (i.get source).filter fun snapshot => snapshot.generation == generation with
  | some snapshot => snapshot.state
  | none => .released

/-- What the controller holds after a message: nothing is held before a first delta. -/
def stateAfterMessage (i : RemoteInputs) (source : InputSourceId) (generation : Nat) :
    Network.ClientMessage → Except RuntimeError JoypadState
  | .stateSync buttons _ =>
    .ok (buttons.foldl (fun state button => state.press (mapNetworkButton button)) .released)
  | .buttonDown button _ =>
    .ok ((heldInGeneration i source generation).press (mapNetworkButton button))
  | .buttonUp button _ =>
    .ok ((heldInGeneration i source generation).release (mapNetworkButton button))
  | .hello _ _ | .ping _ =>
    .error ⟨.invalidLifecycle,
      "Controller handshake and heartbeat messages cannot reach emulator input."⟩

def applyControllerEvent (r : Runtime M) (event : Network.ControllerEvent)
    (generation cancelledThrough : Nat) : Except RuntimeError Unit × Runtime M :=
  match validateRemoteEventSource event with
  | .error e => (.error e, r)
  | .ok () =>
    if generation ≤ cancelledThrough then (.ok (), r)
    else match event with
      | .connected connectionId _ =>
        (.ok (), { r with
          remoteInputs := { r.remoteInputs with owner := some ⟨connectionId, generation⟩ } })
      | .disconnected _ _ => (.ok (), r)
      | .message connectionId source message =>
        match stateAfterMessage r.remoteInputs source generation message with
        | .error e => (.error e, r)
        | .ok state =>
          let remoteInputs := { r.remoteInputs with owner := some ⟨connectionId, generation⟩ }
          let r := { r with remoteInputs := remoteInputs.insert source ⟨generation, state⟩ }
          (.ok (), r.withCore fun active => active.setInput source state)

def drainCancelledRemoteInput (r : Runtime M) (cancelledThrough : Nat) : Runtime M :=
  if cancelledThrough ≤ r.remoteInputs.clearedThrough then r
  else
    let inputs := { r.remoteInputs with clearedThrough := cancelledThrough }
    let inputs :=
      if inputs.owner.any fun owner => owner.generation ≤ cancelledThrough then
        RemoteInputs.remove { inputs with owner := none } remoteInputSource
      else inputs
    Runtime.withCore { r with remoteInputs := inputs }
      fun active => active.clearInputSource remoteInputSource

/-- Every retained snapshot is held on the core. -/
def applyRetainedRemoteInputs (core : GameBoy M) (inputs : RemoteInputs) : GameBoy M :=
  inputs.snapshots.foldl (fun core entry => core.setInput entry.1 entry.2.state) core

/-! ## Commands -/

inductive Command where
  | subscribe (observer : RuntimeObserver)
  | acknowledgeFrame (sequence index : Nat)
  /-- What the file reads as, its name, and the clock and rate of the core to create. -/
  | openRom (file : Option (List Byte)) (fileName : String) (clock : Clock) (sampleRate : Nat)
  | start
  | pause
  | restart
  | close
  | setKeyboardInput (buttons : List Button)
  | controllerEvent (event : Network.ControllerEvent) (generation : Nat)
  | snapshot
  | shutdown

/-- The reply to a command. -/
inductive Reply where
  | snapshot (result : Except RuntimeError RuntimeSnapshot)
  | done (result : Except RuntimeError Unit)

/-- The result of a lifecycle command: on success the new model is shown. -/
def applyModel (r : Runtime M) (model : Except RuntimeError RuntimeModel) : Reply × Runtime M :=
  match model with
  | .error e => (.snapshot (.error e), r)
  | .ok model =>
    (.snapshot (.ok model.snapshot), (Runtime.publishControl { r with model := model }).2)

def loadRom (r : Runtime M) (file : Option (List Byte)) (fileName : String) (clock : Clock)
    (sampleRate : Nat) : Except RuntimeError RuntimeSnapshot × Runtime M :=
  match file with
  | none =>
    let error : RuntimeError := ⟨.fileInaccessible, "The selected ROM file could not be read."⟩
    (.error error, { r with model := r.model.failLoad error })
  | some bytes =>
    let loaded := (GameBoy.new (M := M) clock sampleRate).loadRom bytes none
    match loaded.1 with
    | .ok metadata =>
      let candidate := applyRetainedRemoteInputs loaded.2 r.remoteInputs
      let r := { r with model := r.model.finishLoad metadata fileName, core := some candidate }
      (.ok r.model.snapshot, r.record .renumbered)
    | .error e =>
      (.error (.ofCoreError e), { r with model := r.model.failLoad (.ofCoreError e) })

def restartCore (r : Runtime M) : Except RuntimeError RuntimeSnapshot × Runtime M :=
  match r.model.requireLoaded with
  | .error e => (.error e, r)
  | .ok () =>
    match r.core with
    | none => (.error runtimeUnavailable, r)
    | some active =>
      let reset := (active.clearInputSource keyboardInputSource).reset
      match reset.1 with
      | .error e => (.error (.ofCoreError e), { r with core := some reset.2 })
      | .ok () =>
        let active := applyRetainedRemoteInputs reset.2 r.remoteInputs
        let r := Runtime.record { r with core := some active } .renumbered
        match r.model.restart with
        | .error e => (.error e, r)
        | .ok model => (.ok model.snapshot, { r with model := model })

def setKeyboardInput (r : Runtime M) (buttons : List Button) :
    Except RuntimeError Unit × Runtime M :=
  match r.core with
  | none => (.error ⟨.invalidLifecycle, "No ROM is loaded."⟩, r)
  | some active =>
    let state := buttons.foldl JoypadState.press .released
    (.ok (), { r with core := some (active.setInput keyboardInputSource state) })

/-- The keyboard lets go and the core is dropped. -/
def dropCore (r : Runtime M) : Runtime M := { r with core := none }

/-- The reply, and the worker's state afterwards. -/
def handleCommand (r : Runtime M) (command : Command) (cancelledThrough : Nat) :
    Reply × Runtime M :=
  match command with
  | .subscribe observer =>
    let shown := Runtime.publishControl { r.clearDelivery with observer := some observer }
    (.snapshot (shown.1.map fun _ => shown.2.model.snapshot), shown.2)
  | .acknowledgeFrame sequence index =>
    let acknowledged := r.acknowledgeFrame sequence index
    (.done acknowledged.1, acknowledged.2)
  | .openRom file fileName clock sampleRate =>
    let r := r.dropCore.clearDelivery
    let r := (Runtime.publishControl { r with model := r.model.beginLoad }).2
    let loaded := r.loadRom file fileName clock sampleRate
    (.snapshot loaded.1, loaded.2.publishControl.2)
  | .start => r.applyModel r.model.start
  | .pause => r.clearDelivery.applyModel r.model.pause
  | .restart =>
    let restarted := r.clearDelivery.restartCore
    (.snapshot restarted.1,
      if restarted.1.isOk then restarted.2.publishControl.2 else restarted.2)
  | .close =>
    let r := r.dropCore.clearDelivery
    let r := (Runtime.publishControl { r with model := r.model.close }).2
    (.snapshot (.ok r.model.snapshot), r)
  | .setKeyboardInput buttons =>
    let pressed := r.setKeyboardInput buttons
    (.done pressed.1, pressed.2)
  | .controllerEvent event generation =>
    let applied := r.applyControllerEvent event generation cancelledThrough
    (.done applied.1, applied.2)
  | .snapshot => (.snapshot (.ok r.model.snapshot), r)
  | .shutdown =>
    let r := r.dropCore.clearDelivery
    (.done (.ok ()), { r with model := r.model.close })

end Runtime

end Pockiva
