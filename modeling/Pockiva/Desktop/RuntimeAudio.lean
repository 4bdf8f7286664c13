import Pockiva.Desktop.AudioWorker

/-! # The audio of the runtime, over any output

`RuntimeAudio` opens, feeds and gives up an audio output.  Here the output is any
implementation of the trait `AudioOutput`, whose operations may fail at any time.
-/
namespace Pockiva

variable {M : MixerModel} {G : GainModel M}

/-- The trait `AudioOutput`.  What `health` finds may be different each time. -/
class AudioOutput {M : outParam MixerModel} (G : outParam (GainModel M)) (Output : Type) where
  sampleRate : Output → Nat
  watermarks : Output → AudioWatermarks
  enqueue : Output → AudioBatch M → Except AudioBackendError Unit × Output
  setGain : Output → G.Gain → Except AudioBackendError Unit × Output
  health : Output → AudioHealth × Output
  play : Output → Except AudioBackendError Unit × Output
  pauseAndFlush : Output → Except AudioBackendError Unit × Output

structure RuntimeAudio (G : GainModel M) (Output : Type) where
  sampleRate : Nat
  preparedOutput : Option Output
  firstOpen : Bool
  output : Option Output
  playing : Bool
  gain : G.Gain
  disabledReason : Option AudioBackendError

namespace RuntimeAudio
variable {Output : Type}

def new (sampleRate : Nat) (preparedOutput : Option Output)
    (disabledReason : Option AudioBackendError) : RuntimeAudio G Output where
  sampleRate := sampleRate
  preparedOutput := preparedOutput
  firstOpen := true
  output := none
  playing := false
  gain := G.unity
  disabledReason := disabledReason

def activate (audio : RuntimeAudio G Output) (output : Option Output) : RuntimeAudio G Output :=
  { audio with output := output, playing := false }

/-- The output is flushed, shut down and dropped. -/
def shutdownOutput (audio : RuntimeAudio G Output) : RuntimeAudio G Output :=
  { audio with output := none, playing := false }

def shutdownAll (audio : RuntimeAudio G Output) : RuntimeAudio G Output :=
  { audio.shutdownOutput with preparedOutput := none }

def disable (audio : RuntimeAudio G Output) (error : AudioBackendError) : RuntimeAudio G Output :=
  { audio.shutdownOutput with disabledReason := some error }

/-- The output after an operation, or no output any more. -/
def orDisable (audio : RuntimeAudio G Output) :
    Except AudioBackendError Unit × Output → RuntimeAudio G Output
  | (.ok (), output) => { audio with output := some output }
  | (.error error, _) => audio.disable error

variable [AudioOutput G Output]

/-- What `prepare_candidate` does with an output it found. -/
def checkCandidate (audio : RuntimeAudio G Output) (output : Output) :
    Option Output × RuntimeAudio G Output :=
  if AudioOutput.sampleRate output = audio.sampleRate then
    match AudioOutput.setGain output audio.gain with
    | (.ok (), output) => (some output, { audio with disabledReason := none })
    | (.error error, _) => (none, { audio with disabledReason := some error })
  else
    let error := AudioWorker.outputRateMismatch (AudioOutput.sampleRate output) audio.sampleRate
    (none, { audio with disabledReason := some error })

/-- `opened` is what the factory opens, if it is asked. -/
def prepareCandidate (audio : RuntimeAudio G Output) (opened : Except AudioBackendError Output) :
    Option Output × RuntimeAudio G Output :=
  if audio.firstOpen then
    let rest := { audio with firstOpen := false, preparedOutput := none }
    match audio.preparedOutput with
    | none => (none, rest)
    | some output => rest.checkCandidate output
  else
    match opened with
    | .ok output => audio.checkCandidate output
    | .error error => (none, { audio with disabledReason := some error })

def setGain (audio : RuntimeAudio G Output) (gain : G.Gain) :
    Except RuntimeError Unit × RuntimeAudio G Output :=
  if G.valid gain then
    let audio := { audio with gain := gain }
    match audio.output with
    | none => (.ok (), audio)
    | some output =>
      match AudioOutput.setGain output gain with
      | (.ok (), output) => (.ok (), { audio with output := some output })
      | (.error error, _) => (.error ⟨.runtimeUnavailable, error.message⟩, audio.disable error)
  else (.error ⟨.invalidLifecycle, "Audio gain must be between zero and one."⟩, audio)

def pause (audio : RuntimeAudio G Output) : RuntimeAudio G Output :=
  match audio.output with
  | none => { audio with playing := false }
  | some output => orDisable { audio with playing := false } (AudioOutput.pauseAndFlush output)

/-- The health of the output, if there is one. -/
def health (audio : RuntimeAudio G Output) : Option AudioHealth × RuntimeAudio G Output :=
  match audio.output with
  | none => (none, audio)
  | some output =>
    (some (AudioOutput.health output).1,
      { audio with output := some (AudioOutput.health output).2 })

def disableIfUnusable (audio : RuntimeAudio G Output) : RuntimeAudio G Output :=
  let found := audio.health
  if found.1.any fun health => !health.usable then
    found.2.disable ⟨.streamInvalidated, "audio output became unusable"⟩
  else found.2

def enqueue (audio : RuntimeAudio G Output) (batch : AudioBatch M) : RuntimeAudio G Output :=
  if batch.sampleRate ≠ audio.sampleRate then
    let error := AudioWorker.rateMismatch batch.sampleRate audio.sampleRate
    if audio.output.isSome then audio.disable error
    else { audio with disabledReason := some error }
  else
    match audio.output with
    | none => audio
    | some output =>
      if 0 < batch.interleavedStereo.length / 2 then
        audio.orDisable (AudioOutput.enqueue output batch)
      else audio

/-- The queue of the output is filled up to the target. -/
def filled (audio : RuntimeAudio G Output) (health : AudioHealth) : Bool :=
  audio.output.any fun output =>
    decide ((AudioOutput.watermarks output).target ≤ health.queuedStereoFrames)

def startPlaybackIfPrimed (audio : RuntimeAudio G Output) : RuntimeAudio G Output :=
  let found := audio.health
  let shouldPlay := found.1.any fun health => !health.flushPending && found.2.filled health
  if shouldPlay && !found.2.playing then
    match found.2.output with
    | none => found.2
    | some output => orDisable { found.2 with playing := true } (AudioOutput.play output)
  else found.2

end RuntimeAudio

end Pockiva
