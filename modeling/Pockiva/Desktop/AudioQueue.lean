import Pockiva.Apu.Apu
import Pockiva.Lib.Transition

/-! # The audio queue of the desktop application

Samples travel from the worker to the device callback through a ring buffer.  A pause
flushes it by a handshake of two epochs: the producer raises `flush_epoch`, the
callback empties the ring and stores the epoch it saw in `flushed_epoch`, and until the
two agree the producer neither enqueues nor plays.

Every access to an atomic or to the ring is one step, and the two threads interleave
freely.  The ring is a FIFO of bounded length; floating-point gain is a parameter
(`GainModel`).  The epochs, 64 bits wide in the source, are natural numbers.
-/
namespace Pockiva

open Transition

variable {M : MixerModel}

/-- The gain of the output, and what it makes of a sample. -/
structure GainModel (M : MixerModel) where
  Gain : Type
  /-- The gain 1.0. -/
  unity : Gain
  /-- Finite and between zero and one. -/
  valid : Gain → Bool
  scale : M.Sample → Gain → M.Sample

inductive AudioBackendErrorKind where
  | noOutputDevice
  | unsupportedConfiguration
  | deviceUnavailable
  | deviceBusy
  | permissionDenied
  | streamInvalidated
  | backend
deriving DecidableEq, Repr

structure AudioBackendError where
  kind : AudioBackendErrorKind
  message : String
deriving DecidableEq, Repr

/-- `AudioWatermarks::sample_capacity`: 160 milliseconds of stereo samples. -/
def sampleCapacity (sampleRate : Nat) : Nat := sampleRate * 160 / 1000 * 2

/-- `QueueState`, what the threads share besides the ring. -/
structure QueueState (G : GainModel M) where
  paused : Bool
  gain : G.Gain
  flushEpoch : Nat
  flushedEpoch : Nat
  underruns : Nat
  droppedFrames : Nat

/-- Where the producer is. -/
inductive Producer (M : MixerModel) where
  | idle
  /-- `enqueue` has read `flush_epoch`. -/
  | enqueueComparing (samples : List M.Sample) (epoch : Nat)
  /-- `enqueue` has found no flush pending. -/
  | enqueueChecked (samples : List M.Sample)
  /-- `enqueue` has found room. -/
  | enqueuePushing (samples : List M.Sample)
  /-- `pause_and_flush` has set `paused`. -/
  | flushing
  /-- `play` has read `flush_epoch`. -/
  | playComparing (epoch : Nat)
  /-- `play` has found no flush pending. -/
  | playStoring

/-- Where the callback is, in a call with an output of `length` samples. -/
inductive Callback (M : MixerModel) where
  | idle
  /-- `flush_epoch` was read. -/
  | loaded (length epoch : Nat)
  /-- The ring was cleared. -/
  | cleared (length epoch : Nat)
  /-- The flush is dealt with. -/
  | flushed (length : Nat)
  /-- `paused` was read as false. -/
  | playing (length : Nat)
  /-- The samples were taken from the ring. -/
  | popped (length : Nat) (samples : List M.Sample)

/-- What happened, for the record. -/
inductive AudioEvent (M : MixerModel) where
  /-- `enqueue` returned `Ok`. -/
  | enqueued (samples : List M.Sample)
  /-- `enqueue`, `play` or `set_gain` returned an error. -/
  | refused (error : AudioBackendError)
  /-- `pause_and_flush` raised the epoch. -/
  | flush
  /-- `play` cleared `paused`. -/
  | play
  | discarded (epoch : Nat) (samples : List M.Sample)
  | acknowledged (epoch : Nat)
  | pausedRead (paused : Bool)
  | taken (samples : List M.Sample)
  | output (samples : List M.Sample)

structure AudioQueue (G : GainModel M) where
  sampleRate : Nat
  ring : List M.Sample
  state : QueueState G
  producer : Producer M
  observedEpoch : Nat
  callback : Callback M
  log : List (AudioEvent M)

namespace AudioQueue
variable {G : GainModel M}

/-- `new_queue`. -/
def new (G : GainModel M) (sampleRate : Nat) : AudioQueue G where
  sampleRate := sampleRate
  ring := []
  state :=
    { paused := true
      gain := G.unity
      flushEpoch := 0
      flushedEpoch := 0
      underruns := 0
      droppedFrames := 0 }
  producer := .idle
  observedEpoch := 0
  callback := .idle
  log := []

def record (q : AudioQueue G) (e : AudioEvent M) : AudioQueue G := { q with log := q.log ++ [e] }

/-! ## The producer -/

/-- The operations of the producer. -/
inductive ProducerOp (G : GainModel M) where
  | enqueue (batch : AudioBatch M)
  | pauseAndFlush
  | play
  | setGain (gain : G.Gain)

def refuse (q : AudioQueue G) (kind : AudioBackendErrorKind) (message : String) : AudioQueue G :=
  AudioQueue.record { q with producer := .idle } (.refused ⟨kind, message⟩)

/-- An operation up to its first access to shared state. -/
def call (q : AudioQueue G) : ProducerOp G → AudioQueue G
  | .enqueue batch =>
    if batch.sampleRate ≠ q.sampleRate then
      q.refuse .unsupportedConfiguration "audio batch sample rate mismatch"
    else if batch.interleavedStereo.length % 2 ≠ 0 then
      q.refuse .backend "audio batch contains an incomplete stereo frame"
    else { q with producer := .enqueueComparing batch.interleavedStereo q.state.flushEpoch }
  | .pauseAndFlush => { q with state := { q.state with paused := true }, producer := .flushing }
  | .play => { q with producer := .playComparing q.state.flushEpoch }
  | .setGain gain =>
    if G.valid gain then { q with state := { q.state with gain := gain } }
    else q.refuse .backend "audio gain must be finite and between zero and one"

/-- The next access of the operation the producer is in. -/
def producerStep (q : AudioQueue G) : Option (AudioQueue G) :=
  match q.producer with
  | .idle => none
  | .enqueueComparing samples epoch =>
    if epoch ≠ q.state.flushedEpoch then
      some (q.refuse .streamInvalidated "audio queue flush is pending")
    else some { q with producer := .enqueueChecked samples }
  | .enqueueChecked samples =>
    if sampleCapacity q.sampleRate - q.ring.length < samples.length then
      let state :=
        { q.state with droppedFrames := q.state.droppedFrames + samples.length / 2 }
      some (AudioQueue.refuse { q with state := state } .deviceBusy "audio queue capacity exceeded")
    else some { q with producer := .enqueuePushing samples }
  | .enqueuePushing samples =>
    let pushed := samples.take (sampleCapacity q.sampleRate - q.ring.length)
    some (AudioQueue.record { q with ring := q.ring ++ pushed, producer := .idle }
      (.enqueued samples))
  | .flushing =>
    let state := { q.state with flushEpoch := q.state.flushEpoch + 1 }
    some (AudioQueue.record { q with state := state, producer := .idle } .flush)
  | .playComparing epoch =>
    if epoch ≠ q.state.flushedEpoch then
      some (q.refuse .streamInvalidated "audio queue flush is pending")
    else some { q with producer := .playStoring }
  | .playStoring =>
    let state := { q.state with paused := false }
    some (AudioQueue.record { q with state := state, producer := .idle } .play)

/-! ## The callback -/

/-- The output of `fill_output` for the samples it took. -/
def mixOutput (G : GainModel M) (gain : G.Gain) (samples : List M.Sample) (length : Nat) :
    List M.Sample :=
  let output := samples.map (fun sample => G.scale sample gain)
    ++ List.replicate (length - samples.length) M.silence
  if length % 2 ≠ 0 then output.set (length - 1) M.silence else output

/-- The first access of `fill_output`. -/
def fill (q : AudioQueue G) (length : Nat) : AudioQueue G :=
  { q with callback := .loaded length q.state.flushEpoch }

/-- The next access of `fill_output`. -/
def callbackStep (q : AudioQueue G) : Option (AudioQueue G) :=
  match q.callback with
  | .idle => none
  | .loaded length epoch =>
    if epoch ≠ q.observedEpoch then
      some (AudioQueue.record { q with ring := [], callback := .cleared length epoch }
        (.discarded epoch q.ring))
    else some { q with callback := .flushed length }
  | .cleared length epoch =>
    let state := { q.state with flushedEpoch := epoch }
    some (AudioQueue.record
      { q with state := state, observedEpoch := epoch, callback := .flushed length }
      (.acknowledged epoch))
  | .flushed length =>
    if q.state.paused then
      some ((AudioQueue.record { q with callback := .idle } (.pausedRead true)).record
        (.output (List.replicate length M.silence)))
    else some (AudioQueue.record { q with callback := .playing length } (.pausedRead false))
  | .playing length =>
    let copied := q.ring.take length
    some (AudioQueue.record
      { q with ring := q.ring.drop length, callback := .popped length copied } (.taken copied))
  | .popped length samples =>
    let state :=
      { q.state with
        underruns := if samples.length < length then q.state.underruns + 1
          else q.state.underruns }
    some (AudioQueue.record { q with state := state, callback := .idle }
      (.output (mixOutput G q.state.gain samples length)))

/-! ## Interleavings -/

/-- A step of one of the threads. -/
inductive Action (G : GainModel M) where
  /-- The producer begins an operation. -/
  | call (op : ProducerOp G)
  | producer
  /-- The device calls back with an output of `length` samples. -/
  | fill (length : Nat)
  | callback

def step (q : AudioQueue G) : Action G → Option (AudioQueue G)
  | .call op =>
    match q.producer with
    | .idle => some (q.call op)
    | _ => none
  | .producer => q.producerStep
  | .fill length =>
    match q.callback with
    | .idle => some (q.fill length)
    | _ => none
  | .callback => q.callbackStep

/-- The outputs of the device hold whole stereo frames. -/
def Action.WholeFrames : Action G → Prop
  | .fill length => length % 2 = 0
  | _ => True

/-- Any interleaving of the two threads. -/
def system (G : GainModel M) (sampleRate : Nat) : System (AudioQueue G) (Action G) where
  start q := q = new G sampleRate
  step q a r := a.WholeFrames ∧ q.step a = some r

end AudioQueue

end Pockiva
