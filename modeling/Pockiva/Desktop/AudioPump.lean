import Pockiva.Desktop.AudioPacing

/-! # The worker never overfills the audio queue

Whatever the device does between two accesses, the worker keeps to its contract: what it
saw in the queue is an upper bound until it enqueues itself, and it enqueues a batch only
where it saw at most `target` frames.  So an operation never finds the queue full.
-/
namespace Pockiva

open Interference Transition

variable {M : MixerModel} {G : GainModel M} {sampleRate : Nat}

namespace AudioWorker

/-! ## The contract of the worker -/

/-- What holds of the worker at any time. -/
structure Sound (sampleRate : Nat) (w : AudioWorker G) : Prop where
  rate : w.sampleRate = sampleRate
  queue : ∀ q, w.output = some q → q.Bounded sampleRate
  disabled : ∀ error ∈ w.disabled, error.kind ≠ .deviceBusy

/-- The device only drains the queue of the output. -/
def Interferes (v w : AudioWorker G) : Prop :=
  ∀ r, w.output = some r → ∃ q, v.output = some q ∧ q.Drained r

def contract (G : GainModel M) (sampleRate : Nat) : Contract (AudioWorker G) (Outside G) where
  rely := Interferes
  refl _ r hr := ⟨r, hr, .refl r⟩
  trans _ _ _ h h' r hr := by
    obtain ⟨q, hq, hdrained⟩ := h' r hr
    obtain ⟨p, hp, hbefore⟩ := h q hq
    exact ⟨p, hp, hbefore.trans hdrained⟩
  invariant := Sound sampleRate
  admits := Admitted sampleRate

/-- No operation of the producer is under way. -/
def Idle (w : AudioWorker G) : Prop := ∀ q, w.output = some q → q.producer.isIdle = true

/-- At most `n` frames are queued. -/
def Below (n : Nat) (w : AudioWorker G) : Prop := ∀ q, w.output = some q → q.ring.length / 2 ≤ n

/-- No operation is under way and at most `n` frames are queued. -/
def Ready (n : Nat) (w : AudioWorker G) : Prop := w.Idle ∧ w.Below n

theorem idle_stable : (contract G sampleRate).Stable Idle := by
  intro v w hrely hidle r hr
  obtain ⟨q, hq, hdrained⟩ := hrely r hr
  rw [hdrained.producer]
  exact hidle q hq

theorem below_stable (n : Nat) : (contract G sampleRate).Stable (Below n) := by
  intro v w hrely hbelow r hr
  obtain ⟨q, hq, hdrained⟩ := hrely r hr
  have hle := hbelow q hq
  have hring := hdrained.ring
  omega

theorem ready_stable (n : Nat) : (contract G sampleRate).Stable (Ready n) :=
  fun v w hrely h => ⟨idle_stable v w hrely h.1, below_stable n v w hrely h.2⟩

/-! ## The worker, part by part -/

section Specs
variable {w : AudioWorker G} {P : AudioWorker G → Prop}

/-- **No more is queued than `health` says.** -/
theorem health_spec (hP : (contract G sampleRate).Stable P) (hw : w.Sound sampleRate) (h : P w) :
    Ensures (contract G sampleRate) health
      (fun health v =>
        P v ∧ ∀ found, health = some found → v.Below found.queuedStereoFrames) w := by
  unfold health
  refine Ensures.bind (Q := fun queued v => P v ∧ ∀ n, queued = some n → v.Below n) ?_ hw ?_
  · refine .read fun v hv _ u hu _ => ⟨hP v u hu (hP w v hv h), fun n hn => ?_⟩
    obtain ⟨q, hq, rfl⟩ := Option.map_eq_some_iff.mp hn
    refine below_stable _ v u hu fun r hr => ?_
    obtain rfl := Option.some.inj (hq.symm.trans hr)
    exact Nat.le_refl _
  intro queued v hv hqueued
  have hstable : (contract G sampleRate).Stable
      fun v => P v ∧ ∀ n, queued = some n → v.Below n := by
    intro s t hrely hs
    exact ⟨hP s t hrely hs.1, fun n hn => below_stable n s t hrely (hs.2 n hn)⟩
  refine Ensures.bind (.read_stable hstable hqueued) hv fun _ v hv hqueued => ?_
  refine Ensures.bind (.read_stable hstable hqueued) hv fun _ v hv hqueued => ?_
  refine Ensures.bind (.read_stable hstable hqueued) hv fun _ v hv hqueued => ?_
  refine .pure fun u hu _ => ?_
  obtain ⟨hPu, hbelow⟩ := hstable v u hu hqueued
  refine ⟨hPu, fun found hfound => ?_⟩
  obtain ⟨n, hn, rfl⟩ := Option.map_eq_some_iff.mp hfound
  exact hbelow n hn

/-- The operation under way ends within `n` accesses. -/
def Ending (sampleRate n : Nat) (w : AudioWorker G) : Prop :=
  ∀ q, w.output = some q → q.EndsWithin sampleRate n

theorem ending_stable (n : Nat) : (contract G sampleRate).Stable (Ending sampleRate n) := by
  intro v w hrely hending r hr
  obtain ⟨q, hq, hdrained⟩ := hrely r hr
  exact (hending q hq).drained hdrained

/-- The result of an operation is not that the queue is full. -/
def NotBusy (result : Except AudioBackendError Unit) : Prop :=
  ∀ error, result = .error error → error.kind ≠ .deviceBusy

theorem notBusy_of_ended (hw : w.Sound sampleRate) {result : Except AudioBackendError Unit}
    (h : w.ended = some result) : NotBusy result ∧ w.Idle := by
  unfold ended at h
  split at h
  · rename_i hnone
    obtain rfl := Option.some.inj h
    refine ⟨fun _ he => ?_, fun q hq => ?_⟩
    · cases he
    · rw [hnone] at hq
      cases hq
  · rename_i q hq
    split at h
    · rename_i hidle
      obtain rfl := Option.some.inj h
      refine ⟨fun error herror => ?_, fun r hr => ?_⟩
      · unfold AudioQueue.result at herror
        split at herror
        · rename_i last hlast
          obtain rfl := Except.error.inj herror
          exact (hw.queue q hq).accepted _ (List.mem_of_getLast? hlast)
        · cases herror
      · obtain rfl := Option.some.inj (hq.symm.trans hr)
        exact hidle
    · cases h

/-- An access of an operation: it is over, or it goes on. -/
theorem access_spec {n : Nat} {update : AudioQueue G → AudioQueue G}
    {next : Option (Except AudioBackendError Unit) → AudioProgram G (Except AudioBackendError Unit)}
    (hw : w.Sound sampleRate)
    (hupdate : ∀ v : AudioWorker G, (contract G sampleRate).rely w v → v.Sound sampleRate →
      ∀ q, v.output = some q → (update q).Bounded sampleRate ∧ (update q).EndsWithin sampleRate n)
    (hsome : ∀ result, next (some result) = return result)
    (hnone : ∀ v : AudioWorker G, v.Sound sampleRate → v.Ending sampleRate n →
      Ensures (contract G sampleRate) (next none) (fun result u => u.Idle ∧ NotBusy result) v) :
    Ensures (contract G sampleRate) (Program.modifyRead (updateOutput update) ended >>= next)
      (fun result v => v.Idle ∧ NotBusy result) w := by
  have hstep : ∀ v : AudioWorker G, (contract G sampleRate).rely w v → v.Sound sampleRate →
      (updateOutput update v).Sound sampleRate ∧ (updateOutput update v).Ending sampleRate n := by
    intro v hrely hv
    refine ⟨⟨hv.rate, fun r hr => ?_, hv.disabled⟩, fun r hr => ?_⟩
    · obtain ⟨q, hq, rfl⟩ := Option.map_eq_some_iff.mp hr
      exact (hupdate v hrely hv q hq).1
    · obtain ⟨q, hq, rfl⟩ := Option.map_eq_some_iff.mp hr
      exact (hupdate v hrely hv q hq).2
  refine Ensures.bind (Q := fun result v => v.Ending sampleRate n ∧
    ∀ value, result = some value → v.Idle ∧ NotBusy value) ?_ hw ?_
  · refine .modifyRead (fun v hv hinv => (hstep v hv hinv).1) fun v hv hinv u hu hinv' => ?_
    obtain ⟨hsound, hending⟩ := hstep v hv hinv
    refine ⟨ending_stable n _ u hu hending, fun value hvalue => ?_⟩
    obtain ⟨hbusy, hidle⟩ := notBusy_of_ended hsound hvalue
    exact ⟨idle_stable _ u hu hidle, hbusy⟩
  · intro result v hv hresult
    cases result with
    | none => exact hnone v hv hresult.1
    | some value =>
      obtain ⟨hidle, hbusy⟩ := hresult.2 value rfl
      rw [hsome]
      exact .pure fun u hu _ => ⟨idle_stable v u hu hidle, hbusy⟩

theorem finishOperation_spec (hrate : 25 ≤ sampleRate) {n : Nat} (hw : w.Sound sampleRate)
    (h : w.Ending sampleRate n) :
    Ensures (contract G sampleRate) (finishOperation n)
      (fun result v => v.Idle ∧ NotBusy result) w := by
  induction n generalizing w with
  | zero =>
    refine .pure fun v hv _ => ⟨fun q hq => ?_, fun _ he => by cases he⟩
    have hending := ending_stable 0 w v hv h q hq
    unfold AudioQueue.EndsWithin at hending
    split at hending
    · rename_i hpoint
      rw [hpoint]
      rfl
    all_goals omega
  | succ n ih =>
    refine access_spec hw (fun v hv hsound q hq => ?_) (fun _ => rfl) fun v hv hending =>
      ih hv hending
    exact (hsound.queue q hq).producerStep hrate (ending_stable _ w v hv h q hq)

/-- **An operation of the producer never finds the queue full**, if what it enqueues fits. -/
theorem perform_spec (hrate : 25 ≤ sampleRate) (hw : w.Sound sampleRate)
    {op : AudioQueue.ProducerOp G} {n : Nat} (h : w.Ready n)
    (hfits : ∀ batch, op = .enqueue batch →
      n + batch.interleavedStereo.length / 2 ≤ queueBound sampleRate) :
    Ensures (contract G sampleRate) (perform op) (fun result v => v.Idle ∧ NotBusy result) w := by
  refine access_spec hw (fun v hv hsound q hq => ?_) (fun _ => rfl)
    fun v hv hending => finishOperation_spec hrate hv hending
  obtain ⟨hidle, hbelow⟩ := ready_stable n w v hv h
  refine (hsound.queue q hq).call (hidle q hq) op fun batch hop hpairs => ⟨hpairs, ?_⟩
  exact Nat.le_trans (Nat.add_le_add_right (hbelow q hq) _) (hfits batch hop)

/-- A part of the worker between two operations of the producer. -/
def Keeps {α : Type} (sampleRate : Nat) (p : AudioProgram G α) : Prop :=
  ∀ w : AudioWorker G, w.Sound sampleRate → w.Idle →
    Ensures (contract G sampleRate) p (fun _ => Idle) w

theorem Keeps.bind {α β : Type} {p : AudioProgram G α} {f : α → AudioProgram G β}
    (hp : Keeps sampleRate p) (hf : ∀ a, Keeps sampleRate (f a)) : Keeps sampleRate (p >>= f) :=
  fun w hw hidle => Ensures.bind (hp w hw hidle) hw fun a v hv hv' => hf a v hv hv'

theorem Keeps.pure {α : Type} (a : α) : Keeps (G := G) sampleRate (Pure.pure a) :=
  fun w _ hidle => .pure fun v hv _ => idle_stable w v hv hidle

theorem Keeps.read {α : Type} (f : AudioWorker G → α) : Keeps sampleRate (Program.read f) :=
  fun _ _ hidle => .read_stable idle_stable hidle

/-- A change of the worker's own fields. -/
theorem Keeps.modify {f : AudioWorker G → AudioWorker G}
    (hsound : ∀ w, w.Sound sampleRate → (f w).Sound sampleRate)
    (hidle : ∀ w, w.Idle → (f w).Idle) : Keeps sampleRate (Program.modify f) :=
  fun w _ h => .modify (fun v _ hv => hsound v hv) fun v hv _ u hu _ =>
    idle_stable _ u hu (hidle v (idle_stable w v hv h))

/-- A change that leaves the output alone. -/
theorem Keeps.modifyRest {f : AudioWorker G → AudioWorker G}
    (h : ∀ w, (f w).sampleRate = w.sampleRate ∧ (f w).output = w.output ∧
      (f w).disabled = w.disabled) : Keeps sampleRate (Program.modify f) := by
  refine .modify (fun w hw => ⟨(h w).1.trans hw.rate, ?_, ?_⟩) fun w hidle => ?_
  · rw [(h w).2.1]
    exact hw.queue
  · rw [(h w).2.2]
    exact hw.disabled
  · unfold Idle
    rw [(h w).2.1]
    exact hidle

theorem health_keeps : Keeps (G := G) sampleRate health :=
  fun _ hw hidle => (health_spec idle_stable hw hidle).mono fun _ _ _ h => h.1

theorem Idle.ready (hidle : w.Idle) (hw : w.Sound sampleRate) : w.Ready (queueBound sampleRate) :=
  ⟨hidle, fun q hq => (hw.queue q hq).within⟩

/-- Any operation but `enqueue`. -/
theorem perform_quiet (hrate : 25 ≤ sampleRate) {op : AudioQueue.ProducerOp G}
    (hop : ∀ batch, op ≠ .enqueue batch) (hw : w.Sound sampleRate) (hidle : w.Idle) :
    Ensures (contract G sampleRate) (perform op) (fun result v => v.Idle ∧ NotBusy result) w :=
  perform_spec hrate hw (hidle.ready hw) fun batch hbatch => absurd hbatch (hop batch)

theorem shutdownOutput_keeps (hrate : 25 ≤ sampleRate) :
    Keeps (G := G) sampleRate shutdownOutput := by
  have hflush : Keeps sampleRate (perform (G := G) .pauseAndFlush) := fun w hw hidle =>
    (perform_quiet hrate (by intro _ hop; cases hop) hw hidle).mono fun _ _ _ h => h.1
  refine hflush.bind fun _ => hflush.bind fun _ => .modify (fun w hw => ?_) fun w hidle => ?_
  · exact ⟨hw.rate, nofun, hw.disabled⟩
  · exact fun q hq => by cases hq

theorem disable_keeps (hrate : 25 ≤ sampleRate) {error : AudioBackendError}
    (herror : error.kind ≠ .deviceBusy) : Keeps (G := G) sampleRate (disable error) := by
  refine (shutdownOutput_keeps hrate).bind fun _ => .modify (fun w hw => ?_) fun w hidle => hidle
  refine ⟨hw.rate, hw.queue, fun e he => ?_⟩
  rcases List.mem_append.mp he with hold | hnew
  · exact hw.disabled e hold
  · rw [List.mem_singleton.mp hnew]
    exact herror

/-- After an operation that did not find the queue full. -/
theorem orDisable_keeps (hrate : 25 ≤ sampleRate) {next : AudioProgram G Unit}
    (hnext : Keeps sampleRate next) {result : Except AudioBackendError Unit}
    (hresult : NotBusy result) : Keeps sampleRate (orDisable next result) := by
  cases result with
  | ok => exact hnext
  | error error => exact disable_keeps hrate (hresult error rfl)

theorem performOrDisable_keeps (hrate : 25 ≤ sampleRate) {op : AudioQueue.ProducerOp G}
    (hop : ∀ batch, op ≠ .enqueue batch) {next : AudioProgram G Unit}
    (hnext : Keeps sampleRate next) : Keeps sampleRate (perform op >>= orDisable next) :=
  fun _ hw hidle => Ensures.bind (perform_quiet hrate hop hw hidle) hw
    fun _ v hv h => orDisable_keeps hrate hnext h.2 v hv h.1

theorem disableIfUnusable_keeps (hrate : 25 ≤ sampleRate) :
    Keeps (G := G) sampleRate disableIfUnusable := by
  refine health_keeps.bind fun health => ?_
  split
  · exact disable_keeps hrate (by decide)
  · exact .pure ()

theorem pauseAudio_keeps (hrate : 25 ≤ sampleRate) : Keeps (G := G) sampleRate pauseAudio :=
  performOrDisable_keeps hrate (by intro _ hop; cases hop) (.modifyRest fun _ => ⟨rfl, rfl, rfl⟩)

theorem startPlaybackIfPrimed_keeps (hrate : 25 ≤ sampleRate) :
    Keeps (G := G) sampleRate startPlaybackIfPrimed := by
  refine health_keeps.bind fun health => (Keeps.read _).bind fun w => ?_
  split
  · exact performOrDisable_keeps hrate (by intro _ hop; cases hop)
      (.modifyRest fun _ => ⟨rfl, rfl, rfl⟩)
  · exact .pure ()

/-- **A batch is enqueued when at most `target` frames are queued.** -/
theorem enqueue_spec (hrate : 25 ≤ sampleRate) (hw : w.Sound sampleRate)
    (h : w.Ready (AudioWatermarks.forRate sampleRate).target) {batch : AudioBatch M}
    (hbatch : batch.interleavedStereo.length / 2 ≤ batchFrames sampleRate) :
    Ensures (contract G sampleRate) (enqueue batch) (fun _ => Idle) w := by
  unfold enqueue
  refine Ensures.bind (.read_stable (ready_stable _) h) hw fun seen v hv hready => ?_
  split
  · dsimp only
    split
    · exact disable_keeps hrate
        (show AudioBackendErrorKind.unsupportedConfiguration ≠ .deviceBusy by decide) v hv hready.1
    · refine Keeps.modifyRest ?_ v hv hready.1
      exact fun _ => ⟨rfl, rfl, rfl⟩
  · split
    · refine Ensures.bind (perform_spec hrate hv hready fun b hb => ?_) hv
        fun _ u hu h => orDisable_keeps hrate (.pure ()) h.2 u hu h.1
      cases hb
      exact Nat.add_le_add_left hbatch _
    · exact Keeps.pure () v hv hready.1

theorem runTick_spec (hrate : 25 ≤ sampleRate) (hw : w.Sound sampleRate)
    (h : w.Ready (AudioWatermarks.forRate sampleRate).target) :
    Ensures (contract G sampleRate) runTick (fun _ => Idle) w := by
  unfold runTick
  refine Ensures.bind (Q := fun outside v => v.Ready (AudioWatermarks.forRate sampleRate).target ∧
    Admitted sampleRate outside) (.input fun outside hadmitted v hv _ =>
      ⟨ready_stable _ w v hv h, hadmitted⟩) hw ?_
  rintro outside v hv ⟨hready, hadmitted⟩
  cases hcore : outside.core with
  | absent =>
    refine Keeps.modifyRest ?_ v hv hready.1
    exact fun _ => ⟨rfl, rfl, rfl⟩
  | ran batch outcome =>
    refine Ensures.bind (enqueue_spec hrate hv hready (hadmitted.batch batch outcome hcore)) hv
      fun _ u hu hidle => ?_
    cases outcome with
    | ok => exact Keeps.pure () u hu hidle
    | error error =>
      refine (Keeps.modifyRest ?_).bind (fun _ => shutdownOutput_keeps hrate) u hu hidle
      exact fun _ => ⟨rfl, rfl, rfl⟩

/-- Without an output nothing is enqueued. -/
theorem ready_of_none (n : Nat) (h : w.output = none) : w.Ready n := by
  refine ⟨fun q hq => ?_, fun q hq => ?_⟩
  · rw [h] at hq
    cases hq
  · rw [h] at hq
    cases hq

/-- **The priming goes on while less than `target` is queued.** -/
theorem primeBatches_spec (hrate : 25 ≤ sampleRate) (n : Nat) (hw : w.Sound sampleRate)
    (h : w.Ready (AudioWatermarks.forRate sampleRate).target) :
    Ensures (contract G sampleRate) (primeBatches n) (fun _ => Idle) w := by
  induction n generalizing w with
  | zero => exact Keeps.pure () w hw h.1
  | succ n ih =>
    unfold primeBatches
    refine Ensures.bind (runTick_spec hrate hw h) hw fun _ v hv hidle => ?_
    refine Ensures.bind (Q := fun seen u => u.Idle ∧ seen.sampleRate = sampleRate)
      (.read fun u hu hinv r hr _ => ⟨idle_stable u r hr (idle_stable v u hu hidle), hinv.rate⟩)
      hv ?_
    rintro seen u hu ⟨hidle, hseen⟩
    split
    · exact Keeps.pure () u hu hidle
    · refine Ensures.bind (health_spec idle_stable hu hidle) hu ?_
      rintro health r hr ⟨hidle, hbelow⟩
      split
      · exact Keeps.pure () r hr hidle
      · rename_i hgoesOn
        cases health with
        | none => exact absurd rfl hgoesOn
        | some found =>
          refine ih hr ⟨hidle, fun q hq => Nat.le_trans (hbelow found rfl q hq) ?_⟩
          simp only [primingDone, hseen, Bool.or_eq_true, decide_eq_true_eq, not_or] at hgoesOn
          omega

/-- What a decision to run a batch was based on. -/
theorem queued_of_decision {health : AudioHealth} {marks : AudioWatermarks}
    (hmarks : marks.low < marks.target) (h : pacingDecision health marks = .prime ∨
      pacingDecision health marks = .runOneBatch) : health.queuedStereoFrames ≤ marks.target := by
  unfold pacingDecision at h
  dsimp only at h
  split at h
  · simp at h
  · split at h
    · omega
    · split at h
      · assumption
      · split at h
        · simp at h
        · simp at h

theorem pumpAudioRuntime_keeps (hrate : 25 ≤ sampleRate) :
    Keeps (G := G) sampleRate pumpAudioRuntime := by
  intro w hw hidle
  unfold pumpAudioRuntime
  refine Ensures.bind (health_spec idle_stable hw hidle) hw ?_
  rintro health v hv ⟨hidle, hbelow⟩
  refine Ensures.bind (Q := fun seen u => seen.sampleRate = sampleRate ∧ u.Idle ∧
      ∀ found, health = some found → u.Below found.queuedStereoFrames)
    (.read fun u hu hinv r hr _ => ⟨hinv.rate, ?_, ?_⟩) hv ?_
  · exact idle_stable u r hr (idle_stable v u hu hidle)
  · exact fun found hfound =>
      below_stable _ u r hr (below_stable _ v u hu (hbelow found hfound))
  rintro seen u hu ⟨hseen, hidle, hbelow⟩
  cases health with
  | none => exact Keeps.pure _ u hu hidle
  | some found =>
    dsimp only
    split
    · exact Keeps.pure _ u hu hidle
    · rw [hseen]
      have hready : pacingDecision found (.forRate sampleRate) = .prime ∨
          pacingDecision found (.forRate sampleRate) = .runOneBatch →
          u.Ready (AudioWatermarks.forRate sampleRate).target := by
        intro hdecision
        have hle := queued_of_decision (watermarks_ordered hrate).1 hdecision
        exact ⟨hidle, fun q hq => Nat.le_trans (hbelow found rfl q hq) hle⟩
      cases hdecision : pacingDecision found (.forRate sampleRate) with
      | prime =>
        refine Ensures.bind (primeBatches_spec hrate _ hu (hready (.inl hdecision))) hu
          fun _ r hr hidle => ?_
        refine (startPlaybackIfPrimed_keeps hrate).bind (fun _ => ?_) r hr hidle
        refine health_keeps.bind fun health => (Keeps.read _).bind fun seen => ?_
        dsimp only
        split
        · exact (disable_keeps hrate (by decide)).bind fun _ => .pure 0
        · exact .pure 0
      | runOneBatch =>
        refine Ensures.bind (runTick_spec hrate hu (hready (.inr hdecision))) hu
          fun _ r hr hidle => ?_
        exact (startPlaybackIfPrimed_keeps hrate).bind (fun _ => .pure 0) r hr hidle
      | wait nanos =>
        exact (startPlaybackIfPrimed_keeps hrate).bind (fun _ => .pure nanos) u hu hidle
      | backpressured nanos =>
        exact (startPlaybackIfPrimed_keeps hrate).bind (fun _ => .pure nanos) u hu hidle
      | fallbackFrameDeadline => exact Keeps.pure 0 u hu hidle

/-! ## Commands -/

theorem changeModel_keeps (change : RuntimeModel → Except RuntimeError RuntimeModel) :
    Keeps (G := G) sampleRate (changeModel change) := by
  refine .modifyRest fun w => ?_
  split
  · exact ⟨rfl, rfl, rfl⟩
  · exact ⟨rfl, rfl, rfl⟩

/-- A queue that was only opened. -/
theorem bounded_of_opened {q : AudioQueue G}
    (h : Relation.ReflTransGen DeviceStep (.new G q.sampleRate) q) :
    q.Bounded q.sampleRate ∧ q.producer.isIdle = true := by
  generalize hrate : q.sampleRate = rate at h
  clear hrate
  induction h with
  | refl => exact ⟨AudioQueue.bounded_new G rate, rfl⟩
  | tail _ hstep ih =>
    obtain ⟨hbounded, hdrained⟩ := ih.1.deviceStep hstep
    exact ⟨hbounded, hdrained.producer ▸ ih.2⟩

theorem prepareCandidate_eq (w : AudioWorker G) (candidate : Candidate G) :
    (w.prepareCandidate candidate).2.sampleRate = w.sampleRate ∧
      (w.prepareCandidate candidate).2.output = w.output ∧
      (w.prepareCandidate candidate).2.disabled = w.disabled := by
  unfold prepareCandidate
  repeat' split
  all_goals exact ⟨rfl, rfl, rfl⟩

/-- An output that is prepared has an empty queue of the rate of the worker. -/
theorem prepareCandidate_bounded (hw : w.Sound sampleRate) {candidate : Candidate G}
    (hopened : ∀ queue usable, candidate = .opened queue usable →
      Relation.ReflTransGen DeviceStep (.new G queue.sampleRate) queue)
    {prepared : AudioQueue G × Bool}
    (h : (w.prepareCandidate candidate).1 = some prepared) :
    prepared.1.Bounded sampleRate ∧ prepared.1.producer.isIdle = true := by
  unfold prepareCandidate at h
  split at h
  · cases h
  · cases h
  · rename_i queue usable
    split at h
    · rename_i hrate
      split at h
      · rename_i hvalid
        obtain rfl := Option.some.inj h
        obtain ⟨hbounded, hidle⟩ := bounded_of_opened (hopened queue usable rfl)
        rw [hrate, hw.rate] at hbounded
        refine ⟨(hbounded.call hidle (.setGain w.gain) fun batch hb => by cases hb).1, ?_⟩
        show ((queue.call (.setGain w.gain)).producer).isIdle = true
        rw [AudioQueue.call, if_pos hvalid]
        exact hidle
      · cases h
    · cases h

/-- What is known of the outputs a command brings. -/
def Openable (file : Option (Candidate G × Except CoreError CartridgeMetadata)) : Prop :=
  ∀ queue usable loaded, file = some (.opened queue usable, loaded) →
    Relation.ReflTransGen DeviceStep (.new G queue.sampleRate) queue

theorem loadRom_keeps (fileName : String)
    {file : Option (Candidate G × Except CoreError CartridgeMetadata)} (hfile : Openable file) :
    Keeps sampleRate (loadRom fileName file) := by
  intro w hw hidle
  cases file with
  | none =>
    refine Keeps.modifyRest ?_ w hw hidle
    exact fun _ => ⟨rfl, rfl, rfl⟩
  | some file =>
    obtain ⟨candidate, loaded⟩ := file
    have hrest := fun v : AudioWorker G => prepareCandidate_eq v candidate
    cases loaded with
    | error error =>
      refine Keeps.modifyRest ?_ w hw hidle
      exact hrest
    | ok metadata =>
      have hopened : ∀ queue usable, candidate = .opened queue usable →
          Relation.ReflTransGen DeviceStep (.new G queue.sampleRate) queue :=
        fun queue usable h => hfile queue usable (.ok metadata) (by rw [h])
      have hqueue : ∀ v : AudioWorker G, v.Sound sampleRate → ∀ q,
          (v.prepareCandidate candidate).1.map Prod.fst = some q →
          q.Bounded sampleRate ∧ q.producer.isIdle = true := by
        intro v hv q hq
        obtain ⟨prepared, hprepared, rfl⟩ := Option.map_eq_some_iff.mp hq
        exact prepareCandidate_bounded hv hopened hprepared
      refine .modify (fun v _ hv => ⟨(hrest v).1.trans hv.rate, ?_, ?_⟩) fun v _ hv u hu _ => ?_
      · exact fun q hq => (hqueue v hv q hq).1
      · show ∀ error ∈ (v.prepareCandidate candidate).2.disabled, _
        rw [(hrest v).2.2]
        exact hv.disabled
      · exact idle_stable _ u hu fun q hq => (hqueue v hv q hq).2

theorem setGain_keeps (gain : G.Gain) : Keeps (G := G) sampleRate (setGain gain) := by
  unfold setGain
  split
  · rename_i hvalid
    have hcall : ∀ q : AudioQueue G, (q.call (.setGain gain)).producer = q.producer := by
      intro q
      rw [AudioQueue.call, if_pos hvalid]
    intro w hw hidle
    refine .modify (fun v hv hinv => ⟨hinv.rate, fun r hr => ?_, hinv.disabled⟩)
      fun v hv hinv u hu _ => idle_stable _ u hu fun r hr => ?_
    · obtain ⟨q, hq, rfl⟩ := Option.map_eq_some_iff.mp hr
      have hidle := idle_stable w v hv hidle q hq
      exact ((hinv.queue q hq).call hidle (.setGain gain) fun batch hb => by cases hb).1
    · obtain ⟨q, hq, rfl⟩ := Option.map_eq_some_iff.mp hr
      rw [hcall]
      exact idle_stable w v hv hidle q hq
  · exact .pure ()

theorem handleCommand_keeps (hrate : 25 ≤ sampleRate) {command : AudioCommand G}
    (hcommand : ∀ fileName file, command = .openRom fileName file → Openable file) :
    Keeps sampleRate (handleCommand command) := by
  cases command with
  | openRom fileName file =>
    refine (shutdownOutput_keeps hrate).bind fun _ => Keeps.bind ?_ fun _ =>
      loadRom_keeps fileName (hcommand fileName file rfl)
    exact .modifyRest fun _ => ⟨rfl, rfl, rfl⟩
  | start => exact changeModel_keeps _
  | pause => exact (pauseAudio_keeps hrate).bind fun _ => changeModel_keeps _
  | restart reset =>
    refine (pauseAudio_keeps hrate).bind fun _ => ?_
    cases reset with
    | ok => exact changeModel_keeps _
    | error => exact .pure ()
  | close =>
    refine (shutdownOutput_keeps hrate).bind fun _ => ?_
    exact .modifyRest fun _ => ⟨rfl, rfl, rfl⟩
  | setAudioGain gain => exact setGain_keeps gain
  | other => exact .pure ()

theorem awaitCommand_keeps (hrate : 25 ≤ sampleRate) :
    Keeps (G := G) sampleRate awaitCommand := by
  intro w hw hidle
  refine Ensures.bind (Q := fun outside v => v.Idle ∧ Admitted sampleRate outside)
    (.input fun outside hadmitted v hv _ => ⟨idle_stable w v hv hidle, hadmitted⟩) hw ?_
  rintro outside v hv ⟨hidle, hadmitted⟩
  cases hcommand : outside.command with
  | none => exact Keeps.pure () v hv hidle
  | some command =>
    refine handleCommand_keeps hrate (fun fileName file hopen => ?_) v hv hidle
    rintro queue usable loaded rfl
    refine hadmitted.candidate fileName queue usable loaded ?_
    rw [hcommand, hopen]

/-- **A round of the worker.** -/
theorem round_keeps (hrate : 25 ≤ sampleRate) : Keeps (G := G) sampleRate round := by
  refine (disableIfUnusable_keeps hrate).bind fun _ => ?_
  intro w hw hidle
  refine Ensures.bind (Q := fun seen v => v.Idle ∧ (seen.output = none → v.output = none))
    (.read fun v hv hinv u hu _ => ⟨idle_stable v u hu (idle_stable w v hv hidle), ?_⟩) hw ?_
  · intro hnone
    cases hu' : u.output with
    | none => rfl
    | some r =>
      obtain ⟨q, hq, -⟩ := hu r hu'
      have hnone : v.output = none := hnone
      rw [hnone] at hq
      cases hq
  rintro seen v hv ⟨hidle, hnone⟩
  split
  · exact awaitCommand_keeps hrate v hv hidle
  · split
    · exact (pumpAudioRuntime_keeps hrate).bind (fun _ => awaitCommand_keeps hrate) v hv hidle
    · rename_i hmissing
      have hmissing : seen.output = none := by simpa using hmissing
      refine Ensures.bind (Q := fun _ u => u.Idle ∧ u.output = none)
        (.input fun outside _ u hu _ => ⟨idle_stable v u hu hidle, ?_⟩) hv ?_
      · cases hu' : u.output with
        | none => rfl
        | some r =>
          obtain ⟨q, hq, -⟩ := hu r hu'
          rw [hnone hmissing] at hq
          cases hq
      rintro outside u hu ⟨hidle, hnone⟩
      split
      · exact runTick_spec hrate hu (ready_of_none _ hnone)
      · exact awaitCommand_keeps hrate u hu hidle

end Specs

/-! ## Runs -/

theorem Sound.deviceMoves {v w : AudioWorker G} (h : v.Sound sampleRate) (hmove : DeviceMoves v w) :
    Interferes v w ∧ w.Sound sampleRate := by
  cases hmove with
  | @callback q r hq hstep =>
    obtain ⟨hbounded, hdrained⟩ := (h.queue q hq).deviceStep hstep
    refine ⟨fun s hs => ?_, h.rate, fun s hs => ?_, h.disabled⟩
    · obtain rfl := Option.some.inj hs
      exact ⟨q, hq, hdrained⟩
    · obtain rfl := Option.some.inj hs
      exact hbounded
  | report => exact ⟨fun r hr => ⟨r, hr, .refl r⟩, h.rate, h.queue, h.disabled⟩

theorem sound_of_reachable (hrate : 25 ≤ sampleRate) {s : Served (AudioWorker G) (Outside G)}
    (h : Reachable (system G sampleRate) s) : s.state.Sound sampleRate := by
  refine (Served.invariant (C := contract G sampleRate) (J := Idle) ?_ ?_ ?_ ?_ h).1
  · rintro w ⟨reason, rfl⟩
    exact ⟨rfl, nofun, nofun⟩
  · rintro w v ⟨reason, rfl⟩ hrely _ r hr
    obtain ⟨q, hq, -⟩ := hrely r hr
    cases hq
  · exact fun w hw hidle => round_keeps hrate w hw hidle
  · exact fun v w hv hmove => hv.deviceMoves hmove

/-- Audio that is paced. -/
structure Paced (sampleRate : Nat) (w : AudioWorker G) : Prop where
  /-- The assertion of `for_rate`. -/
  marks : (AudioWatermarks.forRate sampleRate).Ordered
  /-- The target and a batch fit the queue. -/
  room : (AudioWatermarks.forRate sampleRate).target + batchFrames sampleRate
    ≤ (AudioWatermarks.forRate sampleRate).capacity
  occupancy : ∀ q, w.output = some q →
    q.ring.length / 2 ≤ (AudioWatermarks.forRate sampleRate).target + batchFrames sampleRate
  capacity : ∀ q, w.output = some q → q.ring.length ≤ sampleCapacity q.sampleRate
  /-- `enqueue` has not failed for lack of room. -/
  accepted : ∀ q, w.output = some q → ∀ error, .refused error ∈ q.log → error.kind ≠ .deviceBusy
  dropped : ∀ q, w.output = some q → q.state.droppedFrames = 0
  disabled : ∀ error ∈ w.disabled, error.kind ≠ .deviceBusy

/-- **Main result.**  The queue never overflows, at any rate from 25 Hz on and in any
interleaving of the worker and the device. -/
theorem audio_pacing (hrate : 25 ≤ sampleRate) {s : Served (AudioWorker G) (Outside G)}
    (h : Reachable (system G sampleRate) s) : s.state.Paced sampleRate := by
  have hsound := sound_of_reachable hrate h
  refine ⟨watermarks_ordered hrate, queueBound_le hrate, fun q hq => (hsound.queue q hq).within,
    fun q hq => ?_, fun q hq => (hsound.queue q hq).accepted,
    fun q hq => (hsound.queue q hq).dropped, hsound.disabled⟩
  obtain ⟨hqrate, hwhole, hwithin, -, -, -⟩ := hsound.queue q hq
  have hfits := queueBound_le hrate
  rw [hqrate, sampleCapacity_eq]
  omega

/-! ## A run -/

/-- Samples of one value. -/
def flatGain : GainModel .mute := ⟨Unit, (), fun _ => true, fun sample _ => sample⟩

/-- The command to open a ROM, with an output of 25 Hz. -/
def opening : Outside flatGain where
  core := .absent
  command := some (.openRom "game.gb"
    (some (.opened (.new flatGain 25) true, .ok ⟨.romOnly, .dmg, 0, false⟩)))
  deadlinePassed := false

def starting : Outside flatGain := { opening with command := some .start }

/-- A tick of the core gives a stereo frame. -/
def ticking : Outside flatGain where
  core := .ran ⟨25, [(), ()]⟩ (.ok ())
  command := none
  deadlinePassed := false

/-- A round that opens the ROM, one that starts it, one that primes the queue with two batches
and plays, and one of a third batch. -/
def pumped : Served (AudioWorker flatGain) (Outside flatGain) :=
  (List.replicate 12 opening ++ List.replicate 8 starting ++ List.replicate 65 ticking).foldl
    (Served.advance round) ⟨.new flatGain 25 none, .done ()⟩

theorem reachable_pumped : Reachable (system flatGain 25) pumped := by
  refine Served.reachable_foldl (.start ⟨⟨none, rfl⟩, rfl⟩) ?_
  have hopening : Admitted 25 opening := by
    refine ⟨nofun, fun fileName queue usable loaded h => ?_⟩
    cases h
    exact .refl
  have hticking : Admitted 25 ticking := by
    refine ⟨fun batch outcome h => ?_, nofun⟩
    cases h
    decide
  intro i hi
  rcases List.mem_append.mp hi with hfirst | hlast
  · rcases List.mem_append.mp hfirst with hopen | hstart
    · rw [List.eq_of_mem_replicate hopen]
      exact hopening
    · rw [List.eq_of_mem_replicate hstart]
      exact ⟨nofun, nofun⟩
  · rw [List.eq_of_mem_replicate hlast]
    exact hticking

/-- While it plays, the queue holds its target and a batch, and no more. -/
theorem audio_pacing_pumped :
    pumped.state.Paced 25 ∧ pumped.state.model.snapshot.phase = .running ∧
      pumped.state.playing = true ∧
      pumped.state.output.map (fun q => q.ring.length / 2) =
        some ((AudioWatermarks.forRate 25).target + batchFrames 25) :=
  ⟨audio_pacing (by decide) reachable_pumped, by decide +kernel, by decide +kernel,
    by decide +kernel⟩

end AudioWorker
end Pockiva
