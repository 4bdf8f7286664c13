import Pockiva.Apu.Divider
import Pockiva.Lib.EvictingQueue

/-! # The samples of the sound unit

A T-cycle adds the sample rate to a phase; each time the phase reaches the clock rate it
generates a stereo frame.  The frames of a T-cycle (`framesOfTick`) depend on the unit
without its sample buffer (`framesOfTick_withPcm`), and the buffer takes them in
(`tickTCycle_eq`).
-/
namespace Pockiva

open Transition

variable {M : MixerModel}

namespace Apu

/-! ## The operations -/

/-- What happens to a sound unit. -/
inductive Op where
  | write (address : Word) (value : Byte)
  | tickTCycle
  | drainAudio
deriving DecidableEq, Repr

def apply (a : Apu M) : Op → Apu M
  | .write address value => a.write address value
  | .tickTCycle => a.tickTCycle
  | .drainAudio => a.drainAudio.2

/-- A sound unit from the boot ROM on. -/
def system (M : MixerModel) (sampleRate : Nat) : System (Apu M) Op :=
  .ofNext (fun a => 0 < sampleRate ∧ a = new sampleRate) apply

/-! ## The frames of a T-cycle -/

/-- The unit with another sample buffer. -/
def withPcm (a : Apu M) (pcm : PcmBuffer M) : Apu M := { a with pcm := pcm }

@[simp] theorem withPcm_self (a : Apu M) : a.withPcm a.pcm = a := rfl

@[simp] theorem withPcm_withPcm (a : Apu M) (p q : PcmBuffer M) :
    (a.withPcm p).withPcm q = a.withPcm q := rfl

/-- What the mixer makes of the channels. -/
def mixed (a : Apu M) : M.Sample × M.Sample × M.Mixer :=
  M.mixWithDacs a.mixer
    [a.channel1.output, a.channel2.output, a.channel3.output, a.channel4.output]
    [a.channel1.dacEnabled, a.channel2.dacEnabled, a.channel3.dacEnabled, a.channel4.dacEnabled]
    a.nr50 a.nr51

/-- The stereo frame that is due. -/
def frame (a : Apu M) : M.Sample × M.Sample :=
  if a.masterEnabled then (a.mixed.1, a.mixed.2.1) else (M.silence, M.silence)

/-- The unit after that frame, but for the sample buffer. -/
def afterFrame (a : Apu M) : Apu M :=
  { a with
    samplePhase := a.samplePhase - dmgClockHz
    mixer := if a.masterEnabled then a.mixed.2.2 else a.mixer }

theorem emitFrame_eq (a : Apu M) :
    a.emitFrame = a.afterFrame.withPcm (a.pcm.pushStereo a.frame.1 a.frame.2) := by
  unfold emitFrame afterFrame frame
  cases a.masterEnabled with
  | true => rfl
  | false => rfl

/-- The frames that are due, at most `due`. -/
def framesDue : Nat → Apu M → List (M.Sample × M.Sample)
  | 0, _ => []
  | due + 1, a => if dmgClockHz ≤ a.samplePhase then a.frame :: framesDue due a.afterFrame else []

/-- The unit after them, but for the sample buffer. -/
def afterFrames : Nat → Apu M → Apu M
  | 0, a => a
  | due + 1, a => if dmgClockHz ≤ a.samplePhase then afterFrames due a.afterFrame else a

theorem framesDue_withPcm (due : Nat) (a : Apu M) (p : PcmBuffer M) :
    framesDue due (a.withPcm p) = framesDue due a := by
  induction due generalizing a with
  | zero => rfl
  | succ due ih =>
    have hframe : (a.withPcm p).frame = a.frame := rfl
    have hafter : (a.withPcm p).afterFrame = a.afterFrame.withPcm p := rfl
    have hphase : (a.withPcm p).samplePhase = a.samplePhase := rfl
    rw [framesDue, framesDue, hframe, hafter, hphase, ih]

theorem afterFrames_withPcm (due : Nat) (a : Apu M) (p : PcmBuffer M) :
    afterFrames due (a.withPcm p) = (afterFrames due a).withPcm p := by
  induction due generalizing a with
  | zero => rfl
  | succ due ih =>
    have hafter : (a.withPcm p).afterFrame = a.afterFrame.withPcm p := rfl
    have hphase : (a.withPcm p).samplePhase = a.samplePhase := rfl
    rw [afterFrames, afterFrames, hafter, hphase, ih]
    split <;> rfl

/-- Only the phase and the mixer change. -/
theorem afterFrames_eq (due : Nat) (a : Apu M) :
    ∃ samplePhase mixer, afterFrames due a =
      { a with samplePhase := samplePhase, mixer := mixer } := by
  induction due generalizing a with
  | zero => exact ⟨a.samplePhase, a.mixer, rfl⟩
  | succ due ih =>
    rw [afterFrames]
    split
    · obtain ⟨samplePhase, mixer, heq⟩ := ih a.afterFrame
      refine ⟨samplePhase, mixer, ?_⟩
      rw [heq]
      unfold afterFrame
      rfl
    · exact ⟨a.samplePhase, a.mixer, rfl⟩

/-- Each frame takes `dmgClockHz` off the phase. -/
theorem afterFrames_samplePhase (due : Nat) (a : Apu M) :
    (afterFrames due a).samplePhase + dmgClockHz * (framesDue due a).length = a.samplePhase := by
  induction due generalizing a with
  | zero => rw [afterFrames, framesDue, List.length_nil, Nat.mul_zero, Nat.add_zero]
  | succ due ih =>
    rw [afterFrames, framesDue]
    split
    · have hrest := ih a.afterFrame
      have hphase : a.afterFrame.samplePhase = a.samplePhase - dmgClockHz := rfl
      rw [List.length_cons, Nat.mul_succ]
      omega
    · rw [List.length_nil, Nat.mul_zero, Nat.add_zero]

/-- All the frames of the phase are due. -/
theorem length_framesDue {due : Nat} {a : Apu M} (h : due = a.samplePhase / dmgClockHz) :
    (framesDue due a).length = due := by
  induction due generalizing a with
  | zero => rfl
  | succ due ih =>
    have hphase : dmgClockHz ≤ a.samplePhase := by
      have hpos : 0 < a.samplePhase / dmgClockHz := by omega
      exact Nat.le_of_not_lt fun hlt => absurd (Nat.div_eq_of_lt hlt) (by omega)
    have hrest : due = a.afterFrame.samplePhase / dmgClockHz := by
      show due = (a.samplePhase - dmgClockHz) / dmgClockHz
      rw [Nat.div_eq_sub_div (by decide) hphase] at h
      omega
    rw [framesDue, if_pos hphase, List.length_cons, ih hrest]

end Apu

/-- The frames of a list enter the buffer one after the other. -/
def PcmBuffer.pushAll (b : PcmBuffer M) (frames : List (M.Sample × M.Sample)) : PcmBuffer M :=
  frames.foldl (fun b frame => b.pushStereo frame.1 frame.2) b

theorem PcmBuffer.pushAll_cons (b : PcmBuffer M) (frame : M.Sample × M.Sample)
    (frames : List (M.Sample × M.Sample)) :
    b.pushAll (frame :: frames) = (b.pushStereo frame.1 frame.2).pushAll frames := rfl

namespace Apu

theorem emitLoop_eq (due : Nat) (a : Apu M) :
    emitLoop due a = (afterFrames due a).withPcm (a.pcm.pushAll (framesDue due a)) := by
  induction due generalizing a with
  | zero => rfl
  | succ due ih =>
    rw [emitLoop, afterFrames, framesDue]
    split
    · rw [ih, emitFrame_eq, afterFrames_withPcm, framesDue_withPcm, withPcm_withPcm,
        PcmBuffer.pushAll_cons]
      rfl
    · rfl

/-- The unit when the frames of a T-cycle are due. -/
def clocked (a : Apu M) : Apu M :=
  { a.tickDivider.tickChannels with
    samplePhase := a.tickDivider.tickChannels.samplePhase + a.tickDivider.tickChannels.sampleRate }

/-- The frames of a T-cycle. -/
def framesOfTick (a : Apu M) : List (M.Sample × M.Sample) :=
  framesDue (a.clocked.samplePhase / dmgClockHz) a.clocked

/-- **A T-cycle**: the frames that are due enter the buffer. -/
theorem tickTCycle_eq (a : Apu M) :
    a.tickTCycle =
      (afterFrames (a.clocked.samplePhase / dmgClockHz) a.clocked).withPcm
        (a.clocked.pcm.pushAll a.framesOfTick) :=
  emitLoop_eq _ _

/-! ## The unit without its buffer -/

theorem clockFrameSequencer_withPcm (a : Apu M) (p : PcmBuffer M) :
    (a.withPcm p).clockFrameSequencer = a.clockFrameSequencer.withPcm p := by
  unfold clockFrameSequencer withPcm
  dsimp only
  split <;> rfl

theorem clocked_withPcm (a : Apu M) (p : PcmBuffer M) :
    (a.withPcm p).clocked = a.clocked.withPcm p := by
  have hdivider : (a.withPcm p).tickDivider = a.tickDivider.withPcm p := by
    unfold tickDivider
    dsimp only
    have hmirror : (a.withPcm p).dividerMirror = a.dividerMirror := rfl
    rw [hmirror]
    split
    · exact clockFrameSequencer_withPcm { a with dividerMirror := a.dividerMirror + 1 } p
    · rfl
  have hchannels : ∀ b : Apu M, (b.withPcm p).tickChannels = b.tickChannels.withPcm p := by
    intro b
    unfold tickChannels withPcm
    dsimp only
    split <;> rfl
  rw [clocked, hdivider, hchannels]
  rfl

/-- **The frames of a T-cycle do not depend on the buffer.** -/
theorem framesOfTick_withPcm (a : Apu M) (p : PcmBuffer M) :
    (a.withPcm p).framesOfTick = a.framesOfTick := by
  rw [framesOfTick, clocked_withPcm, framesDue_withPcm]
  rfl

/-- The frame sequencer leaves the samples alone. -/
theorem clockFrameSequencer_samples (a : Apu M) :
    a.clockFrameSequencer.samplePhase = a.samplePhase ∧
      a.clockFrameSequencer.sampleRate = a.sampleRate ∧
      a.clockFrameSequencer.pcm = a.pcm := by
  unfold clockFrameSequencer
  dsimp only
  split <;> exact ⟨rfl, rfl, rfl⟩

/-- So do the divider and the channels. -/
theorem clocked_samples (a : Apu M) :
    a.clocked.samplePhase = a.samplePhase + a.sampleRate ∧
      a.clocked.sampleRate = a.sampleRate ∧ a.clocked.pcm = a.pcm := by
  have hdivider : a.tickDivider.samplePhase = a.samplePhase ∧
      a.tickDivider.sampleRate = a.sampleRate ∧ a.tickDivider.pcm = a.pcm := by
    unfold tickDivider
    dsimp only
    split
    · exact clockFrameSequencer_samples _
    · exact ⟨rfl, rfl, rfl⟩
  have hchannels : ∀ b : Apu M, b.tickChannels.samplePhase = b.samplePhase ∧
      b.tickChannels.sampleRate = b.sampleRate ∧ b.tickChannels.pcm = b.pcm := by
    intro b
    unfold tickChannels
    split <;> exact ⟨rfl, rfl, rfl⟩
  obtain ⟨hphase, hrate, hpcm⟩ := hdivider
  obtain ⟨hphase', hrate', hpcm'⟩ := hchannels a.tickDivider
  refine ⟨?_, hrate'.trans hrate, hpcm'.trans hpcm⟩
  show a.tickDivider.tickChannels.samplePhase + a.tickDivider.tickChannels.sampleRate = _
  rw [hphase', hphase, hrate', hrate]

/-- **The phase after a T-cycle**: what is left when the frames are paid for. -/
theorem tickTCycle_samplePhase (a : Apu M) :
    a.tickTCycle.samplePhase = (a.samplePhase + a.sampleRate) % dmgClockHz ∧
      a.framesOfTick.length = (a.samplePhase + a.sampleRate) / dmgClockHz := by
  obtain ⟨hphase, -, -⟩ := a.clocked_samples
  have hlength : a.framesOfTick.length = (a.samplePhase + a.sampleRate) / dmgClockHz := by
    rw [framesOfTick, length_framesDue rfl, hphase]
  refine ⟨?_, hlength⟩
  have hpaid := afterFrames_samplePhase (a.clocked.samplePhase / dmgClockHz) a.clocked
  have hdivision := Nat.mod_add_div (a.samplePhase + a.sampleRate) dmgClockHz
  rw [← framesOfTick, hlength, hphase] at hpaid
  rw [tickTCycle_eq]
  show (afterFrames (a.clocked.samplePhase / dmgClockHz) a.clocked).samplePhase = _
  rw [hphase]
  omega

/-- The sample rate never changes, and the buffer takes the frames in. -/
theorem tickTCycle_pcm (a : Apu M) :
    a.tickTCycle.sampleRate = a.sampleRate ∧
      a.tickTCycle.pcm = a.pcm.pushAll a.framesOfTick := by
  obtain ⟨-, hrate, hpcm⟩ := a.clocked_samples
  obtain ⟨samplePhase, mixer, heq⟩ := afterFrames_eq (a.clocked.samplePhase / dmgClockHz) a.clocked
  rw [tickTCycle_eq, heq]
  refine ⟨hrate, ?_⟩
  show a.clocked.pcm.pushAll _ = _
  rw [hpcm]

/-- A T-cycle of the unit with another buffer. -/
theorem tickTCycle_withPcm (a : Apu M) (p : PcmBuffer M) :
    (a.withPcm p).tickTCycle = a.tickTCycle.withPcm (p.pushAll a.framesOfTick) := by
  have hphase : (a.withPcm p).clocked.samplePhase = a.clocked.samplePhase := by
    rw [clocked_withPcm]
    rfl
  have hpcm : (a.withPcm p).clocked.pcm = p := by
    rw [clocked_withPcm]
    rfl
  rw [tickTCycle_eq, tickTCycle_eq, framesOfTick_withPcm, hphase, hpcm, clocked_withPcm,
    afterFrames_withPcm, withPcm_withPcm, withPcm_withPcm]

end Apu

end Pockiva
