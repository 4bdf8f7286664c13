import Pockiva.Desktop.AudioWorker

/-! # The audio queue never overflows

The worker enqueues a batch only after it has seen at most `target` frames in the queue,
and the device only takes frames out, so the queue never holds more than `target` and
one batch, which fits its capacity at every rate from 25 Hz on.
-/
namespace Pockiva

open Interference Transition

variable {M : MixerModel} {G : GainModel M} {sampleRate : Nat}

/-! ## The arithmetic of the watermarks -/

/-- The most frames in the queue. -/
def queueBound (sampleRate : Nat) : Nat :=
  (AudioWatermarks.forRate sampleRate).target + AudioWorker.batchFrames sampleRate

theorem watermarks_ordered (h : 25 ≤ sampleRate) :
    (AudioWatermarks.forRate sampleRate).Ordered := by
  unfold AudioWatermarks.Ordered AudioWatermarks.forRate
  dsimp only
  omega

theorem queueBound_le (h : 25 ≤ sampleRate) :
    queueBound sampleRate ≤ (AudioWatermarks.forRate sampleRate).capacity := by
  unfold queueBound AudioWatermarks.forRate AudioWorker.batchFrames AudioWorker.frameCycleBudget
    dmgClockHz
  dsimp only
  omega

theorem sampleCapacity_eq (sampleRate : Nat) :
    sampleCapacity sampleRate = (AudioWatermarks.forRate sampleRate).capacity * 2 := rfl

/-! ## What holds of the queue at any time -/

/-- The callback works on whole frames. -/
def Callback.Whole : Callback M → Prop
  | .idle => True
  | .loaded length _ => length % 2 = 0
  | .cleared length _ => length % 2 = 0
  | .flushed length => length % 2 = 0
  | .playing length => length % 2 = 0
  | .popped _ _ => True

/-- The queue keeps within its bound and has refused nothing for lack of room. -/
structure AudioQueue.Bounded (sampleRate : Nat) (q : AudioQueue G) : Prop where
  rate : q.sampleRate = sampleRate
  whole : q.ring.length % 2 = 0
  within : q.ring.length / 2 ≤ queueBound sampleRate
  callback : q.callback.Whole
  dropped : q.state.droppedFrames = 0
  accepted : ∀ error, .refused error ∈ q.log → error.kind ≠ .deviceBusy

/-- What the device leaves of a queue. -/
structure AudioQueue.Drained (q r : AudioQueue G) : Prop where
  producer : r.producer = q.producer
  ring : r.ring.length ≤ q.ring.length

namespace AudioQueue

theorem Drained.refl (q : AudioQueue G) : q.Drained q := ⟨rfl, Nat.le_refl _⟩

theorem Drained.trans {q r s : AudioQueue G} (h : q.Drained r) (h' : r.Drained s) : q.Drained s :=
  ⟨h'.producer.trans h.producer, Nat.le_trans h'.ring h.ring⟩

theorem bounded_new (G : GainModel M) (sampleRate : Nat) :
    (new G sampleRate).Bounded sampleRate where
  rate := rfl
  whole := rfl
  within := by
    rw [new, List.length_nil, Nat.zero_div]
    exact Nat.zero_le _
  callback := trivial
  dropped := rfl
  accepted := nofun

/-- What a step of the device may change. -/
theorem Bounded.of_device {q r : AudioQueue G} (h : q.Bounded sampleRate)
    (hrate : r.sampleRate = q.sampleRate)
    (hring : r.ring = [] ∨ ∃ n, n % 2 = 0 ∧ r.ring = q.ring.drop n) (hcallback : r.callback.Whole)
    (hdropped : r.state.droppedFrames = q.state.droppedFrames)
    (hlog : ∃ extra, r.log = q.log ++ extra ∧ ∀ error, .refused error ∉ extra) :
    r.Bounded sampleRate := by
  have hwhole := h.whole
  have hwithin := h.within
  refine ⟨hrate.trans h.rate, ?_, ?_, hcallback, hdropped.trans h.dropped, ?_⟩
  · rcases hring with hring | ⟨n, hn, hring⟩
    · rw [hring]
      rfl
    · rw [hring, List.length_drop]
      omega
  · rcases hring with hring | ⟨n, hn, hring⟩
    · rw [hring, List.length_nil, Nat.zero_div]
      exact Nat.zero_le _
    · rw [hring, List.length_drop]
      omega
  · obtain ⟨extra, hextra, hnone⟩ := hlog
    intro error herror
    rw [hextra] at herror
    rcases List.mem_append.mp herror with hold | hnew
    · exact h.accepted error hold
    · exact absurd hnew (hnone error)

/-- **The device only takes frames out.** -/
theorem Bounded.deviceStep {q r : AudioQueue G} (h : q.Bounded sampleRate)
    (hstep : AudioWorker.DeviceStep q r) : r.Bounded sampleRate ∧ q.Drained r := by
  have hcallback := h.callback
  have hquiet : ∃ extra : List (AudioEvent M), q.log = q.log ++ extra ∧
      ∀ error, .refused error ∉ extra := ⟨[], (List.append_nil _).symm, nofun⟩
  have hkeep : q.ring = [] ∨ ∃ n, n % 2 = 0 ∧ q.ring = q.ring.drop n := .inr ⟨0, rfl, rfl⟩
  cases hstep with
  | fill length hwhole hstep =>
    rw [step] at hstep
    split at hstep
    · obtain rfl := Option.some.inj hstep
      exact ⟨h.of_device rfl hkeep hwhole rfl hquiet, rfl, Nat.le_refl _⟩
    · cases hstep
  | callback hstep =>
    rw [step, callbackStep] at hstep
    split at hstep
    · cases hstep
    · rename_i length epoch hpoint
      rw [hpoint] at hcallback
      split at hstep
      · obtain rfl := Option.some.inj hstep
        refine ⟨h.of_device rfl (.inl rfl) hcallback rfl ⟨_, rfl, ?_⟩, rfl, Nat.zero_le _⟩
        simp
      · obtain rfl := Option.some.inj hstep
        exact ⟨h.of_device rfl hkeep hcallback rfl hquiet, rfl, Nat.le_refl _⟩
    · rename_i length epoch hpoint
      rw [hpoint] at hcallback
      obtain rfl := Option.some.inj hstep
      refine ⟨h.of_device rfl hkeep hcallback rfl ⟨_, rfl, ?_⟩, rfl, Nat.le_refl _⟩
      simp
    · rename_i length hpoint
      rw [hpoint] at hcallback
      split at hstep
      · obtain rfl := Option.some.inj hstep
        refine ⟨h.of_device rfl hkeep trivial rfl ⟨_, List.append_assoc _ _ _, ?_⟩, rfl,
          Nat.le_refl _⟩
        simp
      · obtain rfl := Option.some.inj hstep
        refine ⟨h.of_device rfl hkeep hcallback rfl ⟨_, rfl, ?_⟩, rfl, Nat.le_refl _⟩
        simp
    · rename_i length hpoint
      rw [hpoint] at hcallback
      obtain rfl := Option.some.inj hstep
      refine ⟨h.of_device rfl (.inr ⟨length, hcallback, rfl⟩) trivial rfl ⟨_, rfl, ?_⟩, rfl, ?_⟩
      · simp
      · show (q.ring.drop length).length ≤ _
        rw [List.length_drop]
        exact Nat.sub_le _ _
    · obtain rfl := Option.some.inj hstep
      refine ⟨h.of_device rfl hkeep trivial rfl ⟨_, rfl, ?_⟩, rfl, Nat.le_refl _⟩
      simp

/-! ## The operations of the producer -/

/-- The samples fit the queue. -/
def Fits (sampleRate : Nat) (q : AudioQueue G) (samples : List M.Sample) : Prop :=
  samples.length % 2 = 0 ∧ q.ring.length / 2 + samples.length / 2 ≤ queueBound sampleRate

/-- The operation the producer is in ends within `n` accesses, and what it enqueues fits. -/
def EndsWithin (sampleRate : Nat) (n : Nat) (q : AudioQueue G) : Prop :=
  match q.producer with
  | .idle => True
  | .enqueueComparing samples _ => 3 ≤ n ∧ q.Fits sampleRate samples
  | .enqueueChecked samples => 2 ≤ n ∧ q.Fits sampleRate samples
  | .enqueuePushing samples => 1 ≤ n ∧ q.Fits sampleRate samples
  | .flushing => 1 ≤ n
  | .playComparing _ => 2 ≤ n
  | .playStoring => 1 ≤ n

theorem Fits.drained {q r : AudioQueue G} {samples : List M.Sample}
    (h : q.Fits sampleRate samples) (hr : q.Drained r) : r.Fits sampleRate samples := by
  have hle := hr.ring
  obtain ⟨hwhole, hwithin⟩ := h
  exact ⟨hwhole, by omega⟩

theorem EndsWithin.drained {q r : AudioQueue G} {n : Nat} (h : q.EndsWithin sampleRate n)
    (hr : q.Drained r) : r.EndsWithin sampleRate n := by
  unfold EndsWithin at h ⊢
  rw [hr.producer]
  split
  · trivial
  all_goals
    rename_i hpoint
    rw [hpoint] at h
  · exact ⟨h.1, h.2.drained hr⟩
  · exact ⟨h.1, h.2.drained hr⟩
  · exact ⟨h.1, h.2.drained hr⟩
  · exact h
  · exact h
  · exact h

/-- What a step of the producer may change. -/
theorem Bounded.of_producer {q r : AudioQueue G} (h : q.Bounded sampleRate)
    (hrate : r.sampleRate = q.sampleRate) (hring : r.ring = q.ring)
    (hcallback : r.callback = q.callback)
    (hdropped : r.state.droppedFrames = q.state.droppedFrames)
    (hlog : ∀ error, .refused error ∈ r.log →
      .refused error ∈ q.log ∨ error.kind ≠ .deviceBusy) : r.Bounded sampleRate := by
  refine ⟨hrate.trans h.rate, ?_, ?_, ?_, hdropped.trans h.dropped, fun error herror => ?_⟩
  · rw [hring]
    exact h.whole
  · rw [hring]
    exact h.within
  · rw [hcallback]
    exact h.callback
  · exact (hlog error herror).elim (h.accepted error) id

theorem Bounded.refuse {q : AudioQueue G} (h : q.Bounded sampleRate) {kind : AudioBackendErrorKind}
    (message : String) (hkind : kind ≠ .deviceBusy) :
    (q.refuse kind message).Bounded sampleRate := by
  refine h.of_producer rfl rfl rfl rfl fun error herror => ?_
  rcases List.mem_append.mp herror with hold | hnew
  · exact .inl hold
  · right
    obtain rfl : error = ⟨kind, message⟩ := by simpa using hnew
    exact hkind

/-- A step that only records an event other than a refusal. -/
theorem not_refused_of_snoc {log : List (AudioEvent M)} {e : AudioEvent M}
    (he : ∀ error, e ≠ .refused error) {error : AudioBackendError}
    (h : .refused error ∈ log ++ [e]) : .refused error ∈ log ∨ error.kind ≠ .deviceBusy := by
  rcases List.mem_append.mp h with hold | hnew
  · exact .inl hold
  · exact absurd (List.mem_singleton.mp hnew).symm (he error)

/-- **An operation of the producer begins.** -/
theorem Bounded.call {q : AudioQueue G} (h : q.Bounded sampleRate)
    (hidle : q.producer.isIdle = true) (op : ProducerOp G)
    (hfits : ∀ batch, op = .enqueue batch → batch.interleavedStereo.length % 2 = 0 →
      q.Fits sampleRate batch.interleavedStereo) :
    (q.call op).Bounded sampleRate ∧ (q.call op).EndsWithin sampleRate 3 := by
  cases op with
  | enqueue batch =>
    rw [AudioQueue.call]
    split
    · exact ⟨h.refuse _ (by decide), trivial⟩
    · split
      · exact ⟨h.refuse _ (by decide), trivial⟩
      · rename_i hwhole
        exact ⟨h.of_producer rfl rfl rfl rfl fun _ => .inl, Nat.le_refl _,
          hfits batch rfl (by simpa using hwhole)⟩
  | pauseAndFlush =>
    exact ⟨h.of_producer rfl rfl rfl rfl fun _ => .inl, show 1 ≤ 3 by decide⟩
  | play => exact ⟨h.of_producer rfl rfl rfl rfl fun _ => .inl, show 2 ≤ 3 by decide⟩
  | setGain gain =>
    rw [AudioQueue.call]
    split
    · refine ⟨h.of_producer rfl rfl rfl rfl fun _ => .inl, ?_⟩
      show q.EndsWithin sampleRate 3
      unfold EndsWithin
      split <;> simp_all [Producer.isIdle]
    · exact ⟨h.refuse _ (by decide), trivial⟩

/-- **An operation of the producer goes on.** -/
theorem Bounded.producerStep {q : AudioQueue G} (h : q.Bounded sampleRate) (hrate : 25 ≤ sampleRate)
    {n : Nat} (hends : q.EndsWithin sampleRate (n + 1)) :
    (q.producerStep.getD q).Bounded sampleRate ∧
      (q.producerStep.getD q).EndsWithin sampleRate n := by
  have hcapacity := queueBound_le hrate
  have hsize : sampleCapacity q.sampleRate = (AudioWatermarks.forRate sampleRate).capacity * 2 := by
    rw [h.rate, sampleCapacity_eq]
  have hwhole := h.whole
  unfold EndsWithin at hends
  unfold AudioQueue.producerStep
  split
  · rename_i hpoint
    refine ⟨h, ?_⟩
    show q.EndsWithin sampleRate n
    unfold EndsWithin
    rw [hpoint]
    trivial
  all_goals
    rename_i hpoint
    rw [hpoint] at hends
  · split
    · exact ⟨h.refuse _ (by decide), trivial⟩
    · exact ⟨h.of_producer rfl rfl rfl rfl fun _ => .inl, by
        obtain ⟨hn, hfits⟩ := hends
        exact ⟨Nat.le_of_succ_le_succ hn, hfits⟩⟩
  · obtain ⟨hn, hpairs, hroom⟩ := hends
    -- there is room: the queue is below its bound
    rw [if_neg (by omega)]
    exact ⟨h.of_producer rfl rfl rfl rfl fun _ => .inl, Nat.le_of_succ_le_succ hn, hpairs, hroom⟩
  · rename_i samples
    obtain ⟨-, hpairs, hroom⟩ := hends
    have hpushed : samples.take (sampleCapacity q.sampleRate - q.ring.length) = samples :=
      List.take_of_length_le (by omega)
    dsimp only
    rw [hpushed]
    refine ⟨⟨h.rate, ?_, ?_, h.callback, h.dropped, fun error herror => ?_⟩, trivial⟩
    · show (q.ring ++ samples).length % 2 = 0
      rw [List.length_append]
      omega
    · show (q.ring ++ samples).length / 2 ≤ _
      rw [List.length_append]
      omega
    · exact (not_refused_of_snoc (by intro _ he; cases he) herror).elim (h.accepted error) id
  · refine ⟨h.of_producer rfl rfl rfl rfl fun error => ?_, trivial⟩
    exact not_refused_of_snoc (by intro _ he; cases he)
  · split
    · exact ⟨h.refuse _ (by decide), trivial⟩
    · exact ⟨h.of_producer rfl rfl rfl rfl fun _ => .inl, Nat.le_of_succ_le_succ hends⟩
  · refine ⟨h.of_producer rfl rfl rfl rfl fun error => ?_, trivial⟩
    exact not_refused_of_snoc (by intro _ he; cases he)

end AudioQueue

end Pockiva
