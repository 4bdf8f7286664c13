import Mathlib.Logic.Relation
import Pockiva.Desktop.AudioQueue
import Pockiva.Desktop.Runtime
import Pockiva.Lib.Interference

/-! # The worker paces the audio

While it runs, the worker lets the core fill the queue of the output up to a target, and
the queue decides when a tick is due.  The loop of the worker is a program on its state;
the device callback takes samples from the queue between any two of its accesses.

What comes from outside (what a tick of the core gives, the commands, the outputs that are
opened, whether a deadline has passed) is an input.  `disabled` is not in the source: it
records the errors that disabled an output.
-/
namespace Pockiva

open Interference Transition

variable {M : MixerModel} {G : GainModel M}

/-! ## The policy -/

structure AudioWatermarks where
  sampleRate : Nat
  low : Nat
  target : Nat
  high : Nat
  capacity : Nat
deriving DecidableEq, Repr

namespace AudioWatermarks

def forRate (sampleRate : Nat) : AudioWatermarks :=
  let frames (milliseconds : Nat) := sampleRate * milliseconds / 1000
  { sampleRate := sampleRate
    low := frames 40
    target := frames 80
    high := frames 120
    capacity := frames 160 }

/-- What `for_rate` asserts. -/
def Ordered (marks : AudioWatermarks) : Prop :=
  marks.low < marks.target ∧ marks.target < marks.high ∧ marks.high < marks.capacity

end AudioWatermarks

/-- The part of `AudioHealth` the worker reads. -/
structure AudioHealth where
  queuedStereoFrames : Nat
  flushPending : Bool
  usable : Bool
deriving DecidableEq, Repr

/-- What to do next; times are in nanoseconds. -/
inductive PacingDecision where
  | prime
  | runOneBatch
  | wait (nanos : Nat)
  | backpressured (nanos : Nat)
  | fallbackFrameDeadline
deriving DecidableEq, Repr

def pacingDecision (health : AudioHealth) (marks : AudioWatermarks) : PacingDecision :=
  let queued := health.queuedStereoFrames
  if health.usable = false then .fallbackFrameDeadline
  else if queued < marks.low then .prime
  else if queued ≤ marks.target then .runOneBatch
  else
    let numerator := (queued - marks.target) * 1000000000
    let nanos := min ((numerator + marks.sampleRate - 1) / marks.sampleRate) 5000000
    if marks.high < queued then .backpressured nanos else .wait nanos

/-! ## The state of the worker -/

structure AudioWorker (G : GainModel M) where
  sampleRate : Nat
  model : RuntimeModel
  output : Option (AudioQueue G)
  /-- The flag `usable` of the output, which the error callback clears. -/
  usable : Bool
  playing : Bool
  gain : G.Gain
  disabledReason : Option AudioBackendError
  disabled : List AudioBackendError

/-- A tick of the core: what `drain_audio` gives and how `run_cycles` ended. -/
inductive CoreTick (M : MixerModel) where
  | absent
  | ran (batch : AudioBatch M) (outcome : Except CoreError Unit)

/-- What `prepare_candidate` finds: no prepared output, an error of the factory, or an
output. -/
inductive Candidate (G : GainModel M) where
  | missing
  | failed (error : AudioBackendError)
  | opened (queue : AudioQueue G) (usable : Bool)

/-- The commands, with what they meet outside; `other` stands for those that do not touch the
audio or the lifecycle.  `Shutdown`, which ends the loop, does to the audio what `close`
does. -/
inductive AudioCommand (G : GainModel M) where
  /-- The candidate for the output and the result of loading, if the file can be read. -/
  | openRom (fileName : String) (file : Option (Candidate G × Except CoreError CartridgeMetadata))
  | start
  | pause
  | restart (reset : Except CoreError Unit)
  | close
  | setAudioGain (gain : G.Gain)
  | other

/-- What the worker takes from outside, each time one of these. -/
structure Outside (G : GainModel M) where
  core : CoreTick M
  /-- A command, or none in time. -/
  command : Option (AudioCommand G)
  deadlinePassed : Bool

abbrev AudioProgram (G : GainModel M) (α : Type) := Program (AudioWorker G) (Outside G) α

namespace AudioWorker

/-! ## The output -/

/-- Read from the queue of the output, if there is one. -/
def readOutput {α : Type} (f : AudioQueue G → α) : AudioProgram G (Option α) :=
  .read fun w => w.output.map f

def updateOutput (f : AudioQueue G → AudioQueue G) (w : AudioWorker G) : AudioWorker G :=
  { w with output := w.output.map f }

/-- `AudioQueueProducer::health`, one read after the other. -/
def health : AudioProgram G (Option AudioHealth) := do
  let queued ← readOutput fun q => q.ring.length / 2
  let flushEpoch ← readOutput fun q => q.state.flushEpoch
  let flushedEpoch ← readOutput fun q => q.state.flushedEpoch
  let usable ← Program.read AudioWorker.usable
  return queued.map fun queued => ⟨queued, decide (flushEpoch ≠ flushedEpoch), usable⟩

end AudioWorker

/-- The producer is in no operation. -/
def Producer.isIdle : Producer M → Bool
  | .idle => true
  | _ => false

/-- What the operation that has ended returned, which is the last event. -/
def AudioQueue.result (q : AudioQueue G) : Except AudioBackendError Unit :=
  match q.log.getLast? with
  | some (.refused error) => .error error
  | _ => .ok ()

namespace AudioWorker

/-- The result of the operation of the producer, once it has ended. -/
def ended (w : AudioWorker G) : Option (Except AudioBackendError Unit) :=
  match w.output with
  | none => some (.ok ())
  | some q => if q.producer.isIdle then some q.result else none

/-- The rest of an operation, at most `n` accesses. -/
def finishOperation : Nat → AudioProgram G (Except AudioBackendError Unit)
  | 0 => return .ok ()
  | n + 1 => do
    let result ← Program.modifyRead (updateOutput fun q => q.producerStep.getD q) ended
    match result with
    | some result => return result
    | none => finishOperation n

/-- An operation of the producer, access by access. -/
def perform (op : AudioQueue.ProducerOp G) : AudioProgram G (Except AudioBackendError Unit) := do
  let result ← Program.modifyRead (updateOutput fun q => q.call op) ended
  match result with
  | some result => return result
  | none => finishOperation 3

/-! ## `RuntimeAudio` -/

/-- The output is flushed, shut down and dropped; without one nothing happens. -/
def shutdownOutput : AudioProgram G Unit := do
  let _ ← perform .pauseAndFlush
  let _ ← perform .pauseAndFlush
  Program.modify fun w => { w with output := none, playing := false }

def disable (error : AudioBackendError) : AudioProgram G Unit := do
  shutdownOutput
  Program.modify fun w =>
    { w with disabledReason := some error, disabled := w.disabled ++ [error] }

/-- What follows an operation of the output. -/
def orDisable (next : AudioProgram G Unit) : Except AudioBackendError Unit → AudioProgram G Unit
  | .ok () => next
  | .error error => disable error

def disableIfUnusable : AudioProgram G Unit := do
  let health ← health
  if health.any fun health => !health.usable then
    disable ⟨.streamInvalidated, "audio output became unusable"⟩

def pauseAudio : AudioProgram G Unit := do
  let result ← perform .pauseAndFlush
  orDisable (Program.modify fun w => { w with playing := false }) result

def rateMismatch (batchRate sampleRate : Nat) : AudioBackendError :=
  ⟨.unsupportedConfiguration, "core audio rate " ++ toString batchRate
    ++ " does not match runtime rate " ++ toString sampleRate⟩

def enqueue (batch : AudioBatch M) : AudioProgram G Unit := do
  let w ← Program.read id
  if batch.sampleRate ≠ w.sampleRate then
    let error := rateMismatch batch.sampleRate w.sampleRate
    if w.output.isSome then disable error
    else Program.modify fun w => { w with disabledReason := some error }
  else if w.output.isSome && decide (0 < batch.interleavedStereo.length / 2) then
    let result ← perform (.enqueue batch)
    orDisable (return ()) result
  else return ()

/-- The output has no flush pending and the queue is filled up to the target. -/
def primed (sampleRate : Nat) (health : Option AudioHealth) : Bool :=
  health.any fun health => !health.flushPending
    && decide ((AudioWatermarks.forRate sampleRate).target ≤ health.queuedStereoFrames)

def startPlaybackIfPrimed : AudioProgram G Unit := do
  let health ← health
  let w ← Program.read id
  if primed w.sampleRate health && !w.playing then
    let result ← perform .play
    orDisable (Program.modify fun w => { w with playing := true }) result
  else return ()

/-! ## Ticks and pumps -/

/-- `run_tick`; what becomes of the frame is left to the runtime. -/
def runTick : AudioProgram G Unit := do
  let outside ← Program.input
  match outside.core with
  | .absent => Program.modify fun w => { w with model := w.model.failLoad runtimeUnavailable }
  | .ran batch outcome => do
    enqueue batch
    match outcome with
    | .ok () => return ()
    | .error error => do
      Program.modify fun w => { w with model := w.model.failLoad (.ofCoreError error) }
      shutdownOutput

/-- The loop of the priming stops. -/
def primingDone (w : AudioWorker G) (health : Option AudioHealth) : Bool :=
  match health with
  | none => true
  | some health => health.flushPending
    || decide ((AudioWatermarks.forRate w.sampleRate).target ≤ health.queuedStereoFrames)

/-- The loop of the priming, for at most `n` batches. -/
def primeBatches : Nat → AudioProgram G Unit
  | 0 => return ()
  | n + 1 => do
    runTick
    let w ← Program.read id
    if w.model.snapshot.phase ≠ .running || w.output.isNone then return ()
    else
      let health ← health
      if primingDone w health then return () else primeBatches n

/-- `MAX_PRIME_BATCHES`. -/
def maxPrimeBatches : Nat := 4

/-- `AUDIO_POLL_INTERVAL`. -/
def audioPollInterval : Nat := 5000000

/-- What a decision leads to; the result is the time to wait. -/
def pace (queuedBefore : Nat) : PacingDecision → AudioProgram G Nat
  | .prime => do
    primeBatches maxPrimeBatches
    startPlaybackIfPrimed
    let health ← health
    let w ← Program.read id
    let queuedAfter := (health.map AudioHealth.queuedStereoFrames).getD queuedBefore
    if queuedAfter = queuedBefore ∧ w.output.isSome = true ∧ w.playing = false then
      disable ⟨.backend, "core produced no audio while priming"⟩
      return 0
    else return 0
  | .runOneBatch => do
    runTick
    startPlaybackIfPrimed
    return 0
  | .wait nanos => do
    startPlaybackIfPrimed
    return nanos
  | .backpressured nanos => do
    startPlaybackIfPrimed
    return nanos
  | .fallbackFrameDeadline => return 0

def pumpAudioRuntime : AudioProgram G Nat := do
  let health ← health
  let w ← Program.read id
  match health with
  | none => return 0
  | some health =>
    if health.flushPending then return audioPollInterval
    else
      pace health.queuedStereoFrames (pacingDecision health (.forRate w.sampleRate))

/-! ## Commands -/

/-- A change of the lifecycle, which may be refused. -/
def changeModel (change : RuntimeModel → Except RuntimeError RuntimeModel) : AudioProgram G Unit :=
  Program.modify fun w =>
    match change w.model with
    | .ok model => { w with model := model }
    | .error _ => w

def outputRateMismatch (outputRate sampleRate : Nat) : AudioBackendError :=
  ⟨.unsupportedConfiguration, "audio output rate " ++ toString outputRate
    ++ " does not match runtime rate " ++ toString sampleRate⟩

/-- `prepare_candidate`: the candidate, and the worker with what disables its audio. -/
def prepareCandidate (w : AudioWorker G) :
    Candidate G → Option (AudioQueue G × Bool) × AudioWorker G
  | .missing => (none, w)
  | .failed error => (none, { w with disabledReason := some error })
  | .opened queue usable =>
    if queue.sampleRate = w.sampleRate then
      if G.valid w.gain then
        (some (queue.call (.setGain w.gain), usable), { w with disabledReason := none })
      else
        let message := "audio gain must be finite and between zero and one"
        (none, { w with disabledReason := some ⟨.backend, message⟩ })
    else
      (none, { w with disabledReason := some (outputRateMismatch queue.sampleRate w.sampleRate) })

/-- `load_rom`.  The output is the worker's only after the ROM is loaded. -/
def loadRom (fileName : String) :
    Option (Candidate G × Except CoreError CartridgeMetadata) → AudioProgram G Unit
  | none => Program.modify fun w =>
    let error : RuntimeError := ⟨.fileInaccessible, "The selected ROM file could not be read."⟩
    { w with model := w.model.failLoad error }
  | some (candidate, loaded) => Program.modify fun w =>
    let prepared := w.prepareCandidate candidate
    match loaded with
    | .ok metadata =>
      { prepared.2 with
        model := w.model.finishLoad metadata fileName
        output := prepared.1.map Prod.fst
        usable := (prepared.1.map Prod.snd).getD false
        playing := false }
    | .error error => { prepared.2 with model := w.model.failLoad (.ofCoreError error) }

def setGain (gain : G.Gain) : AudioProgram G Unit :=
  if G.valid gain then
    -- the queue accepts every gain that is valid here
    Program.modify fun w => updateOutput (fun q => q.call (.setGain gain)) { w with gain := gain }
  else return ()

def handleCommand : AudioCommand G → AudioProgram G Unit
  | .openRom fileName file => do
    shutdownOutput
    Program.modify fun w => { w with model := w.model.beginLoad }
    loadRom fileName file
  | .start => changeModel RuntimeModel.start
  | .pause => do
    pauseAudio
    changeModel RuntimeModel.pause
  | .restart reset => do
    pauseAudio
    match reset with
    | .ok () => changeModel RuntimeModel.restart
    | .error _ => return ()
  | .close => do
    shutdownOutput
    Program.modify fun w => { w with model := w.model.close }
  | .setAudioGain gain => setGain gain
  | .other => return ()

def awaitCommand : AudioProgram G Unit := do
  let outside ← Program.input
  match outside.command with
  | some command => handleCommand command
  | none => return ()

/-- One round of the loop of `run_worker`. -/
def round : AudioProgram G Unit := do
  disableIfUnusable
  let w ← Program.read id
  if w.model.snapshot.phase ≠ .running then awaitCommand
  else if w.output.isSome then do
    let _ ← pumpAudioRuntime
    awaitCommand
  else
    let outside ← Program.input
    if outside.deadlinePassed then runTick else awaitCommand

/-! ## Interleavings -/

/-- The worker at its start. -/
def new (G : GainModel M) (sampleRate : Nat) (disabledReason : Option AudioBackendError) :
    AudioWorker G where
  sampleRate := sampleRate
  model := .initial
  output := none
  usable := false
  playing := false
  gain := G.unity
  disabledReason := disabledReason
  disabled := []

/-- A step of the device callback on a queue. -/
inductive DeviceStep : AudioQueue G → AudioQueue G → Prop where
  | fill {q r : AudioQueue G} (length : Nat) (hwhole : length % 2 = 0)
      (hstep : q.step (.fill length) = some r) : DeviceStep q r
  | callback {q r : AudioQueue G} (hstep : q.step .callback = some r) : DeviceStep q r

/-- What the device does to the worker's state: a step of its callback, or an error that makes
the output unusable. -/
inductive DeviceMoves : AudioWorker G → AudioWorker G → Prop where
  | callback {w : AudioWorker G} {q r : AudioQueue G} (hq : w.output = some q)
      (hstep : DeviceStep q r) : DeviceMoves w { w with output := some r }
  | report {w : AudioWorker G} : DeviceMoves w { w with usable := false }

/-- `FRAME_CYCLE_BUDGET`. -/
def frameCycleBudget : Nat := 70224

/-- The most stereo frames of a tick. -/
def batchFrames (sampleRate : Nat) : Nat := frameCycleBudget * sampleRate / dmgClockHz + 1

/-- What there can be outside: a tick gives no more than the frames of its cycles, and an output
is opened with an empty queue, on which the callback may have worked. -/
structure Admitted (sampleRate : Nat) (outside : Outside G) : Prop where
  batch : ∀ batch outcome, outside.core = .ran batch outcome →
    batch.interleavedStereo.length / 2 ≤ batchFrames sampleRate
  candidate : ∀ fileName queue usable loaded,
    outside.command = some (.openRom fileName (some (.opened queue usable, loaded))) →
    Relation.ReflTransGen DeviceStep (.new G queue.sampleRate) queue

/-- The worker and the device, in any interleaving. -/
def system (G : GainModel M) (sampleRate : Nat) :
    System (Served (AudioWorker G) (Outside G)) Turn :=
  served (fun w => ∃ reason, w = new G sampleRate reason) round (Admitted sampleRate) DeviceMoves

end AudioWorker

end Pockiva
