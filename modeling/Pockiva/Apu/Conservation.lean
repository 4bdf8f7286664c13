import Pockiva.Apu.Samples

/-! # No sample is lost unseen

A run of the sound unit that never powers it off: T-cycles, register writes and drains,
in any order.  `Recording` is the unit with a record of the frames it generated, cut at
the drains, and of the batches the drains returned.  `pcm_conservation` states how many
frames there are, that each is drained, available or counted as dropped, that every
batch is the newest frames of its part, and that drains never change what is generated.
-/
namespace Pockiva

open EvictingQueue

variable {M : MixerModel}

/-! ## The buffer is an evicting queue -/

/-- The samples of stereo frames, left before right. -/
def interleave {α : Type} (frames : List (α × α)) : List α :=
  frames.flatMap fun frame => [frame.1, frame.2]

theorem interleave_append {α : Type} (frames more : List (α × α)) :
    interleave (frames ++ more) = interleave frames ++ interleave more := List.flatMap_append

theorem interleave_tail {α : Type} (frames : List (α × α)) :
    interleave frames.tail = (interleave frames).drop 2 := by
  cases frames with
  | nil => rfl
  | cons frame frames => rfl

theorem length_interleave {α : Type} (frames : List (α × α)) :
    (interleave frames).length = 2 * frames.length := by
  induction frames with
  | nil => rfl
  | cons frame frames ih =>
    show (interleave frames).length + 2 = 2 * (frames.length + 1)
    omega

theorem interleave_flatten {α : Type} (parts : List (List (α × α))) :
    interleave parts.flatten = (parts.map interleave).flatten := by
  induction parts with
  | nil => rfl
  | cons part parts ih => rw [List.flatten_cons, interleave_append, ih]; rfl

namespace PcmBuffer

/-- The queue of stereo frames that the buffer stands for. -/
structure Shows (b : PcmBuffer M)
    (q : EvictingQueue (M.Sample × M.Sample) maxCoreStereoFrames) : Prop where
  samples : b.samples = interleave q.contents
  dropped : b.droppedStereoFrames = q.dropped

namespace Shows
variable {b : PcmBuffer M} {q : EvictingQueue (M.Sample × M.Sample) maxCoreStereoFrames}

theorem stereoFramesAvailable (h : b.Shows q) : b.stereoFramesAvailable = q.contents.length := by
  rw [PcmBuffer.stereoFramesAvailable, h.samples, length_interleave]
  omega

/-- **A push refines the push of the queue.** -/
theorem pushStereo (h : b.Shows q) (hpos : 0 < maxCoreStereoFrames)
    (frame : M.Sample × M.Sample) :
    (b.pushStereo frame.1 frame.2).Shows (q.push hpos frame) := by
  have havailable := h.stereoFramesAvailable
  unfold PcmBuffer.pushStereo EvictingQueue.push
  by_cases hfull : q.contents.length = maxCoreStereoFrames
  · rw [dif_pos hfull, if_pos (havailable.trans hfull)]
    refine ⟨?_, ?_⟩
    · show b.samples.drop 2 ++ [frame.1, frame.2] = interleave (q.contents.tail ++ [frame])
      rw [interleave_append, interleave_tail, ← h.samples]
      rfl
    · show b.droppedStereoFrames + 1 = q.dropped + 1
      rw [h.dropped]
  · have hroom : ¬ b.stereoFramesAvailable = maxCoreStereoFrames := by
      rw [havailable]
      exact hfull
    rw [dif_neg hfull, if_neg hroom]
    refine ⟨?_, h.dropped⟩
    show b.samples ++ [frame.1, frame.2] = interleave (q.contents ++ [frame])
    rw [interleave_append, ← h.samples]
    rfl

theorem pushAll (h : b.Shows q) (hpos : 0 < maxCoreStereoFrames)
    (frames : List (M.Sample × M.Sample)) :
    (b.pushAll frames).Shows (frames.foldl (EvictingQueue.push hpos) q) := by
  induction frames generalizing b q with
  | nil => exact h
  | cons frame frames ih => exact ih (h.pushStereo hpos frame)

/-- A drain hands out what the queue holds and empties it. -/
theorem drain (h : b.Shows q) (sampleRate : Nat) :
    (b.drain sampleRate).1 = ⟨sampleRate, interleave q.contents⟩ ∧
      (b.drain sampleRate).2.Shows q.drain := by
  refine ⟨?_, rfl, h.dropped⟩
  show AudioBatch.mk sampleRate b.samples = _
  rw [h.samples]

end Shows

end PcmBuffer

/-! ## Writes leave the samples alone -/

namespace Apu

/-- The operation does not power the unit off. -/
def Op.KeepsPower : Op → Prop
  | .write address value => address = 0xff26 → value &&& 0x80 ≠ 0
  | .tickTCycle => True
  | .drainAudio => True

instance : DecidablePred Op.KeepsPower
  | .write address value =>
    inferInstanceAs (Decidable (address = 0xff26 → value &&& 0x80 ≠ 0))
  | .tickTCycle => instDecidableTrue
  | .drainAudio => instDecidableTrue

/-- A write other than a power-off commutes with a change of the sample buffer. -/
theorem write_withPcm (a : Apu M) (p : PcmBuffer M) {address : Word} {value : Byte}
    (h : (Op.write address value).KeepsPower) :
    (a.withPcm p).write address value = (a.write address value).withPcm p := by
  have hmaster : (a.withPcm p).masterEnabled = a.masterEnabled := rfl
  unfold Apu.write
  rw [hmaster]
  by_cases h4 : address = 0xff04
  · rw [if_pos h4, if_pos h4]
    have hmirror : (a.withPcm p).dividerMirror = a.dividerMirror := rfl
    unfold resetDivider
    rw [hmirror, clockFrameSequencer_withPcm]
    split <;> rfl
  rw [if_neg h4, if_neg h4]
  by_cases h26 : address = 0xff26
  · have henable : (value &&& 0x80 != 0) = true := bne_iff_ne.mpr (h h26)
    rw [if_pos h26, if_pos h26]
    unfold writeNr52
    dsimp only
    rw [henable, hmaster]
    cases a.masterEnabled with
    | true => rfl
    | false => rfl
  rw [if_neg h26, if_neg h26]
  cases a.masterEnabled with
  | true =>
    show (a.withPcm p).writePoweredOn address value = (a.writePoweredOn address value).withPcm p
    unfold writePoweredOn withPcm
    dsimp only
    repeat' split
    all_goals rfl
  | false =>
    show (a.withPcm p).writePoweredOff address value = (a.writePoweredOff address value).withPcm p
    unfold writePoweredOff withPcm
    dsimp only
    repeat' split
    all_goals rfl

/-- It leaves the buffer, the phase and the sample rate as they are. -/
theorem write_samples (a : Apu M) {address : Word} {value : Byte}
    (h : (Op.write address value).KeepsPower) :
    (a.write address value).samplePhase = a.samplePhase ∧
      (a.write address value).sampleRate = a.sampleRate ∧
      (a.write address value).pcm = a.pcm := by
  unfold Apu.write
  by_cases h4 : address = 0xff04
  · rw [if_pos h4]
    unfold resetDivider
    dsimp only
    split
    · exact a.clockFrameSequencer_samples
    · exact ⟨rfl, rfl, rfl⟩
  rw [if_neg h4]
  by_cases h26 : address = 0xff26
  · have henable : (value &&& 0x80 != 0) = true := bne_iff_ne.mpr (h h26)
    rw [if_pos h26]
    unfold writeNr52
    dsimp only
    rw [henable]
    cases a.masterEnabled with
    | true => exact ⟨rfl, rfl, rfl⟩
    | false => exact ⟨rfl, rfl, rfl⟩
  rw [if_neg h26]
  split
  · obtain ⟨_, _, _, _, _, _, heq⟩ := a.writePoweredOn_eq address value
    rw [heq]
    exact ⟨rfl, rfl, rfl⟩
  · obtain ⟨_, _, _, _, heq⟩ := a.writePoweredOff_eq address value
    rw [heq]
    exact ⟨rfl, rfl, rfl⟩

end Apu

/-! ## A run and its record -/

/-- A sound unit with a record of its samples. -/
structure Recording (M : MixerModel) where
  apu : Apu M
  /-- The frames generated since the last drain. -/
  pending : List (M.Sample × M.Sample)
  /-- The frames generated up to each drain, from the drain before on. -/
  drained : List (List (M.Sample × M.Sample))
  /-- What the drains returned. -/
  batches : List (AudioBatch M)

namespace Recording

def start (sampleRate : Nat) : Recording M := ⟨.new sampleRate, [], [], []⟩

def apply (r : Recording M) : Apu.Op → Recording M
  | .write address value => { r with apu := r.apu.write address value }
  | .tickTCycle =>
    { r with apu := r.apu.tickTCycle, pending := r.pending ++ r.apu.framesOfTick }
  | .drainAudio =>
    { apu := r.apu.drainAudio.2
      pending := []
      drained := r.drained ++ [r.pending]
      batches := r.batches ++ [r.apu.drainAudio.1] }

def play (r : Recording M) (ops : List Apu.Op) : Recording M := ops.foldl apply r

/-- All the frames generated, in order. -/
def generated (r : Recording M) : List (M.Sample × M.Sample) := r.drained.flatten ++ r.pending

/-- The stereo frames that the drains returned. -/
def framesDrained (r : Recording M) : Nat :=
  (r.batches.map fun batch => batch.interleavedStereo.length / 2).sum

/-- What a listener gets: the drained batches and, at the end, what is available. -/
def delivered (r : Recording M) : List M.Sample :=
  (r.batches.map fun batch => batch.interleavedStereo).flatten ++ r.apu.pcm.samples

/-- The record is about the run of the unit. -/
theorem play_apu (r : Recording M) (ops : List Apu.Op) :
    (r.play ops).apu = ops.foldl Apu.apply r.apu := by
  induction ops generalizing r with
  | nil => rfl
  | cons op ops ih =>
    have hstep : (r.apply op).apu = r.apu.apply op := by cases op <;> rfl
    show ((r.apply op).play ops).apu = _
    rw [ih, hstep]
    rfl

/-! ## The invariant of a run -/

/-- The frames of a part that its batch lacks. -/
def lost {α : Type} (part : List α) : Nat := part.length - maxCoreStereoFrames

/-- After `ticks` T-cycles. -/
structure Sound (sampleRate ticks : Nat) (r : Recording M) : Prop where
  rate : r.apu.sampleRate = sampleRate
  phase : r.apu.samplePhase + dmgClockHz * r.generated.length = ticks * sampleRate
  phase_lt : r.apu.samplePhase < dmgClockHz
  buffer : ∃ q : EvictingQueue (M.Sample × M.Sample) maxCoreStereoFrames,
    r.apu.pcm.Shows q ∧ q.Holds (r.drained.map lost).sum r.pending
  batches : r.batches =
    r.drained.map fun part => ⟨sampleRate, interleave (newest maxCoreStereoFrames part)⟩

namespace Sound
variable {sampleRate ticks : Nat} {r : Recording M}

theorem start (sampleRate : Nat) :
    Sound sampleRate 0 (Recording.start sampleRate : Recording M) where
  rate := rfl
  phase := by
    rw [Nat.zero_mul]
    rfl
  phase_lt := Nat.zero_lt_succ _
  buffer := ⟨.empty, ⟨rfl, rfl⟩, .empty⟩
  batches := rfl

theorem write (h : Sound sampleRate ticks r) {address : Word} {value : Byte}
    (hop : (Apu.Op.write address value).KeepsPower) :
    Sound sampleRate ticks (r.apply (.write address value)) := by
  obtain ⟨hphase, hrate, hpcm⟩ := r.apu.write_samples hop
  refine ⟨hrate.trans h.rate, ?_, ?_, ?_, h.batches⟩
  · show (r.apu.write address value).samplePhase + dmgClockHz * r.generated.length = _
    rw [hphase]
    exact h.phase
  · show (r.apu.write address value).samplePhase < _
    rw [hphase]
    exact h.phase_lt
  · obtain ⟨q, hshows, hholds⟩ := h.buffer
    refine ⟨q, ?_, hholds⟩
    show (r.apu.write address value).pcm.Shows q
    rw [hpcm]
    exact hshows

/-- **A T-cycle generates the frames that are due.** -/
theorem tickTCycle (h : Sound sampleRate ticks r) :
    Sound sampleRate (ticks + 1) (r.apply .tickTCycle) := by
  obtain ⟨hphase, hlength⟩ := r.apu.tickTCycle_samplePhase
  obtain ⟨hrate, hpcm⟩ := r.apu.tickTCycle_pcm
  refine ⟨hrate.trans h.rate, ?_, ?_, ?_, h.batches⟩
  · have hgenerated : (r.apply .tickTCycle).generated = r.generated ++ r.apu.framesOfTick :=
      (List.append_assoc _ _ _).symm
    have hbefore := h.phase
    have hdivision := Nat.mod_add_div (r.apu.samplePhase + r.apu.sampleRate) dmgClockHz
    show r.apu.tickTCycle.samplePhase + dmgClockHz * (r.apply .tickTCycle).generated.length = _
    rw [hgenerated, List.length_append, Nat.mul_add, hphase, hlength, Nat.succ_mul]
    rw [h.rate] at hdivision ⊢
    omega
  · show r.apu.tickTCycle.samplePhase < _
    rw [hphase]
    exact Nat.mod_lt _ (by decide)
  · obtain ⟨q, hshows, hholds⟩ := h.buffer
    have hpos : 0 < maxCoreStereoFrames := by decide
    refine ⟨r.apu.framesOfTick.foldl (EvictingQueue.push hpos) q, ?_, hholds.pushes hpos _⟩
    show r.apu.tickTCycle.pcm.Shows _
    rw [hpcm]
    exact hshows.pushAll hpos _

/-- **A drain closes a part.** -/
theorem drainAudio (h : Sound sampleRate ticks r) :
    Sound sampleRate ticks (r.apply .drainAudio) := by
  obtain ⟨q, hshows, hholds⟩ := h.buffer
  obtain ⟨hbatch, hempty⟩ := hshows.drain r.apu.sampleRate
  refine ⟨h.rate, ?_, h.phase_lt, ?_, ?_⟩
  · have hgenerated : (r.apply .drainAudio).generated = r.generated := by
      show (r.drained ++ [r.pending]).flatten ++ [] = r.drained.flatten ++ r.pending
      rw [List.flatten_append, List.flatten_singleton, List.append_nil]
    rw [hgenerated]
    exact h.phase
  · refine ⟨q.drain, hempty, ?_⟩
    have hdropped : ((r.drained ++ [r.pending]).map lost).sum = q.dropped := by
      rw [List.map_append, List.sum_append, hholds.dropped, List.map_singleton,
        List.sum_singleton, lost]
    show q.drain.Holds ((r.drained ++ [r.pending]).map lost).sum []
    rw [hdropped]
    exact .drain
  · show r.batches ++ [(r.apu.pcm.drain r.apu.sampleRate).1] = (r.drained ++ [r.pending]).map _
    rw [hbatch, h.batches, h.rate, hholds.contents, List.map_append, List.map_singleton]

theorem apply (h : Sound sampleRate ticks r) {op : Apu.Op} (hop : op.KeepsPower) :
    Sound sampleRate (ticks + [op].count .tickTCycle) (r.apply op) := by
  cases op with
  | write address value => exact h.write hop
  | tickTCycle => exact h.tickTCycle
  | drainAudio => exact h.drainAudio

theorem play (h : Sound sampleRate ticks r) {ops : List Apu.Op}
    (hops : ∀ op ∈ ops, op.KeepsPower) :
    Sound sampleRate (ticks + ops.count .tickTCycle) (r.play ops) := by
  induction ops generalizing ticks r with
  | nil => exact h
  | cons op ops ih =>
    have hrest := ih (h.apply (hops op List.mem_cons_self))
      fun op hop => hops op (List.mem_cons_of_mem _ hop)
    have hcount : ticks + (op :: ops).count .tickTCycle =
        ticks + [op].count .tickTCycle + ops.count .tickTCycle := by
      rw [← List.singleton_append, List.count_append]
      omega
    rw [hcount]
    exact hrest

end Sound

/-! ## Drains change nothing that is generated -/

/-- The same unit but for the buffer, and the same frames. -/
structure Alike (r s : Recording M) : Prop where
  apu : s.apu = r.apu.withPcm s.apu.pcm
  generated : r.generated = s.generated

namespace Alike
variable {r s : Recording M}

theorem refl (r : Recording M) : Alike r r := ⟨rfl, rfl⟩

/-- A drain on one side only. -/
theorem drainAudio (h : Alike r s) : Alike (r.apply .drainAudio) s := by
  refine ⟨?_, ?_⟩
  · rw [h.apu]
    rfl
  · rw [← h.generated]
    show (r.drained ++ [r.pending]).flatten ++ [] = r.drained.flatten ++ r.pending
    rw [List.flatten_append, List.flatten_singleton, List.append_nil]

/-- Any other operation, on both sides. -/
theorem step (h : Alike r s) {op : Apu.Op} (hop : op.KeepsPower) (hdrain : op ≠ .drainAudio) :
    Alike (r.apply op) (s.apply op) := by
  cases op with
  | write address value =>
    refine ⟨?_, h.generated⟩
    have hwrite := r.apu.write_withPcm s.apu.pcm hop
    rw [← h.apu] at hwrite
    show s.apu.write address value =
      (r.apu.write address value).withPcm (s.apu.write address value).pcm
    rw [hwrite]
    rfl
  | tickTCycle =>
    have htick := r.apu.tickTCycle_withPcm s.apu.pcm
    have hframes := r.apu.framesOfTick_withPcm s.apu.pcm
    rw [← h.apu] at htick hframes
    refine ⟨?_, ?_⟩
    · show s.apu.tickTCycle = r.apu.tickTCycle.withPcm s.apu.tickTCycle.pcm
      rw [htick]
      rfl
    · show r.drained.flatten ++ (r.pending ++ r.apu.framesOfTick) =
        s.drained.flatten ++ (s.pending ++ s.apu.framesOfTick)
      rw [hframes, ← List.append_assoc, ← List.append_assoc]
      exact congrArg (· ++ r.apu.framesOfTick) h.generated
  | drainAudio => exact absurd rfl hdrain

/-- A run and the same run without its drains. -/
theorem play_filter (h : Alike r s) {ops : List Apu.Op} (hops : ∀ op ∈ ops, op.KeepsPower) :
    Alike (r.play ops) (s.play (ops.filter (· ≠ .drainAudio))) := by
  induction ops generalizing r s with
  | nil => exact h
  | cons op ops ih =>
    have hop := hops op List.mem_cons_self
    have hrest : ∀ op ∈ ops, op.KeepsPower := fun op hmem => hops op (List.mem_cons_of_mem _ hmem)
    by_cases hdrain : op = .drainAudio
    · subst hdrain
      rw [List.filter_cons_of_neg (by decide)]
      exact ih h.drainAudio hrest
    · rw [List.filter_cons_of_pos (by simpa using hdrain)]
      exact ih (h.step hop hdrain) hrest

end Alike

/-- A drain does not power the unit off. -/
theorem keepsPower_of_filter {ops others : List Apu.Op} (hops : ∀ op ∈ ops, op.KeepsPower)
    (h : others.filter (· ≠ .drainAudio) = ops.filter (· ≠ .drainAudio)) :
    ∀ op ∈ others, op.KeepsPower := by
  intro op hop
  by_cases hdrain : op = .drainAudio
  · subst hdrain
    trivial
  · have hmem : op ∈ others.filter (· ≠ .drainAudio) :=
      List.mem_filter.mpr ⟨hop, by simpa using hdrain⟩
    rw [h] at hmem
    exact hops op (List.mem_filter.mp hmem).1

/-- **Runs that differ in their drains only generate the same frames.** -/
theorem generated_eq (r : Recording M) {ops others : List Apu.Op}
    (hops : ∀ op ∈ ops, op.KeepsPower)
    (h : others.filter (· ≠ .drainAudio) = ops.filter (· ≠ .drainAudio)) :
    (r.play others).generated = (r.play ops).generated := by
  have hothers := keepsPower_of_filter hops h
  have hleft := ((Alike.refl r).play_filter hothers).generated
  have hright := ((Alike.refl r).play_filter hops).generated
  rw [hleft, hright, h]

/-! ## Conservation -/

/-- What holds after `ticks` T-cycles. -/
structure Conserved (sampleRate ticks : Nat) (r : Recording M) : Prop where
  generated : r.generated.length = ticks * sampleRate / dmgClockHz
  balance : r.framesDrained + r.apu.stereoFramesAvailable + r.apu.pcm.droppedStereoFrames =
    r.generated.length
  bounded : r.apu.stereoFramesAvailable ≤ maxCoreStereoFrames
  even : r.apu.pcm.samples.length % 2 = 0
  /-- Every batch is the newest frames of its part, in order and in pairs. -/
  batches : r.batches =
    r.drained.map fun part => ⟨sampleRate, interleave (newest maxCoreStereoFrames part)⟩
  /-- So is what is available. -/
  available : r.apu.pcm.samples = interleave (newest maxCoreStereoFrames r.pending)
  /-- With nothing dropped, a listener gets what was generated. -/
  delivered : r.apu.pcm.droppedStereoFrames = 0 → r.delivered = interleave r.generated

namespace Sound
variable {sampleRate ticks : Nat} {r : Recording M}

theorem generated_length (h : Sound sampleRate ticks r) :
    r.generated.length = ticks * sampleRate / dmgClockHz := by
  have hphase := h.phase
  have hlt := h.phase_lt
  have hpos : 0 < dmgClockHz := by decide
  refine (Nat.div_eq_of_lt_le ?_ ?_).symm
  · rw [Nat.mul_comm]
    omega
  · rw [Nat.succ_mul, Nat.mul_comm r.generated.length]
    omega

theorem dropped (h : Sound sampleRate ticks r) :
    r.apu.pcm.droppedStereoFrames = (r.drained.map lost).sum + lost r.pending := by
  obtain ⟨q, hshows, hholds⟩ := h.buffer
  rw [hshows.dropped, hholds.dropped, lost]

theorem available (h : Sound sampleRate ticks r) :
    r.apu.pcm.samples = interleave (newest maxCoreStereoFrames r.pending) := by
  obtain ⟨q, hshows, hholds⟩ := h.buffer
  rw [hshows.samples, hholds.contents]

/-- The frames of a batch and those it lacks are the frames of its part. -/
theorem newest_add_lost {α : Type} (part : List α) :
    (newest maxCoreStereoFrames part).length + lost part = part.length := by
  rw [length_newest, lost]
  omega

/-- The samples that were drained. -/
theorem samplesDrained (h : Sound sampleRate ticks r) :
    r.batches.map (fun batch => batch.interleavedStereo) =
      r.drained.map fun part => interleave (newest maxCoreStereoFrames part) := by
  rw [h.batches, List.map_map, Function.comp_def]

theorem framesDrained_add_lost (h : Sound sampleRate ticks r) :
    r.framesDrained + (r.drained.map lost).sum = r.drained.flatten.length := by
  have hsize : ∀ part : List (M.Sample × M.Sample),
      (interleave (newest maxCoreStereoFrames part)).length / 2 + lost part = part.length := by
    intro part
    have hpart := newest_add_lost part
    rw [length_interleave]
    omega
  have hframes : r.framesDrained = (r.drained.map fun part =>
      (interleave (newest maxCoreStereoFrames part)).length / 2).sum := by
    have hlengths := congrArg (List.map fun samples => samples.length / 2) h.samplesDrained
    rw [List.map_map, List.map_map, Function.comp_def, Function.comp_def] at hlengths
    exact congrArg List.sum hlengths
  rw [hframes, List.length_flatten]
  induction r.drained with
  | nil => rfl
  | cons part parts ih =>
    have hpart := hsize part
    rw [List.map_cons, List.map_cons, List.map_cons, List.sum_cons, List.sum_cons, List.sum_cons]
    omega

theorem delivered (h : Sound sampleRate ticks r)
    (hdropped : r.apu.pcm.droppedStereoFrames = 0) : r.delivered = interleave r.generated := by
  rw [h.dropped, Nat.add_eq_zero_iff, List.sum_eq_zero_iff_forall_eq_nat] at hdropped
  obtain ⟨hdrained, hpending⟩ := hdropped
  have hwhole : ∀ part : List (M.Sample × M.Sample), lost part = 0 →
      newest maxCoreStereoFrames part = part := by
    intro part hlost
    rw [lost] at hlost
    exact newest_of_length_le (by omega)
  have hparts : r.batches.map (fun batch => batch.interleavedStereo) =
      r.drained.map interleave := by
    rw [h.samplesDrained]
    apply List.map_congr_left
    intro part hpart
    rw [hwhole part (hdrained _ (List.mem_map_of_mem hpart))]
  rw [Recording.delivered, Recording.generated, interleave_append, interleave_flatten,
    h.available, hwhole r.pending hpending, hparts]

theorem conserved (h : Sound sampleRate ticks r) : Conserved sampleRate ticks r := by
  have havailable : r.apu.stereoFramesAvailable =
      (newest maxCoreStereoFrames r.pending).length := by
    show r.apu.pcm.samples.length / 2 = _
    rw [h.available, length_interleave]
    omega
  have hpending := newest_add_lost r.pending
  have hbound := length_newest maxCoreStereoFrames r.pending
  have hdrained := h.framesDrained_add_lost
  have hdropped := h.dropped
  refine ⟨h.generated_length, ?_, ?_, ?_, h.batches, h.available, h.delivered⟩
  · rw [Recording.generated, List.length_append]
    omega
  · omega
  · rw [h.available, length_interleave]
    omega

end Sound

/-- **PCM conservation**, for every run that never powers the unit off; and the runs that
differ from it in their drains only generate the same frames, and deliver the same
samples when they drop none. -/
theorem pcm_conservation (sampleRate : Nat) (ops : List Apu.Op)
    (hops : ∀ op ∈ ops, op.KeepsPower) :
    let r : Recording M := (start sampleRate).play ops
    Conserved sampleRate (ops.count .tickTCycle) r ∧
      ∀ others : List Apu.Op,
        others.filter (· ≠ .drainAudio) = ops.filter (· ≠ .drainAudio) →
        let s : Recording M := (start sampleRate).play others
        s.generated = r.generated ∧
          (r.apu.pcm.droppedStereoFrames = 0 → s.apu.pcm.droppedStereoFrames = 0 →
            s.delivered = r.delivered) := by
  intro r
  have hsound := (Sound.start (M := M) sampleRate).play hops
  rw [Nat.zero_add] at hsound
  refine ⟨hsound.conserved, ?_⟩
  intro others hothers s
  have hgenerated : s.generated = r.generated := generated_eq _ hops hothers
  have hsoundOthers := (Sound.start (M := M) sampleRate).play (keepsPower_of_filter hops hothers)
  refine ⟨hgenerated, ?_⟩
  intro hdropped hdroppedOthers
  rw [hsound.delivered hdropped, hsoundOthers.delivered hdroppedOthers]
  exact congrArg interleave hgenerated

/-- At one frame a T-cycle, drained between two of them. -/
theorem pcm_conservation_drained :
    let ops : List Apu.Op := [.write 0xff24 0x00, .tickTCycle, .drainAudio, .tickTCycle]
    let r : Recording .mute := (start 4194304).play ops
    Conserved 4194304 (ops.count .tickTCycle) r ∧
      ∀ others : List Apu.Op,
        others.filter (· ≠ .drainAudio) = ops.filter (· ≠ .drainAudio) →
        let s : Recording .mute := (start 4194304).play others
        s.generated = r.generated ∧
          (r.apu.pcm.droppedStereoFrames = 0 → s.apu.pcm.droppedStereoFrames = 0 →
            s.delivered = r.delivered) :=
  pcm_conservation 4194304 _ (by decide)

end Recording

end Pockiva
