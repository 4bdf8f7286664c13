import Pockiva.Desktop.AudioQueue
import Pockiva.Lib.Log

/-! # Flushing the audio queue

`audio_flush` states, for every interleaving of the producer and the callback, that the
samples leave the ring in the order in which they were enqueued and in whole pairs, that
what was enqueued before a flush is never output after its acknowledgement, that a flush
discards nothing that was enqueued after it, and that a paused callback outputs silence.

The laws are about the log.  Each event is justified when it is recorded (`Good`); the
invariant (`Sound`) ties the log to the state.
-/
namespace Pockiva

open Transition Log

variable {M : MixerModel} {G : GainModel M}

/-! ## Reading the log -/

namespace AudioEvent

/-- The samples that an event put into the ring. -/
def entering : AudioEvent M → List M.Sample
  | .enqueued samples => samples
  | _ => []

/-- The samples that an event took out of the ring. -/
def leaving : AudioEvent M → List M.Sample
  | .discarded _ samples => samples
  | .taken samples => samples
  | _ => []

/-- The samples that an event took out of the ring for output. -/
def taking : AudioEvent M → List M.Sample
  | .taken samples => samples
  | _ => []

def isFlush : AudioEvent M → Bool
  | .flush => true
  | _ => false

end AudioEvent

/-- All samples enqueued, in order. -/
def enqueuedOf (log : List (AudioEvent M)) : List M.Sample := log.flatMap AudioEvent.entering

/-- All samples that left the ring, in order. -/
def leftOf (log : List (AudioEvent M)) : List M.Sample := log.flatMap AudioEvent.leaving

/-- All samples taken for output, in order. -/
def takenOf (log : List (AudioEvent M)) : List M.Sample := log.flatMap AudioEvent.taking

/-- The number of flushes, and so the epoch of the last one. -/
def flushesOf (log : List (AudioEvent M)) : Nat := log.countP AudioEvent.isFlush

@[simp] theorem enqueuedOf_append (log more : List (AudioEvent M)) :
    enqueuedOf (log ++ more) = enqueuedOf log ++ enqueuedOf more := List.flatMap_append

@[simp] theorem leftOf_append (log more : List (AudioEvent M)) :
    leftOf (log ++ more) = leftOf log ++ leftOf more := List.flatMap_append

@[simp] theorem flushesOf_append (log more : List (AudioEvent M)) :
    flushesOf (log ++ more) = flushesOf log + flushesOf more := List.countP_append

@[simp] theorem enqueuedOf_singleton (e : AudioEvent M) : enqueuedOf [e] = e.entering :=
  List.flatMap_singleton _ _

@[simp] theorem leftOf_singleton (e : AudioEvent M) : leftOf [e] = e.leaving :=
  List.flatMap_singleton _ _

/-- The samples taken are among those that left, in order. -/
theorem takenOf_sublist_leftOf (log : List (AudioEvent M)) :
    (takenOf log).Sublist (leftOf log) := by
  induction log with
  | nil => exact .slnil
  | cons e log ih =>
    have hone : e.taking.Sublist e.leaving := by
      cases e with
      | taken samples => exact .refl _
      | _ => exact List.nil_sublist _
    exact List.Sublist.append hone ih

namespace AudioQueue

/-! ## What each event is good for -/

/-- What holds of the log when an event is recorded. -/
def Good (G : GainModel M) (log : List (AudioEvent M)) : AudioEvent M → Prop
  | .discarded epoch samples =>
    leftOf log ++ samples = enqueuedOf log ∧
    (∃ before after, log = before ++ .flush :: after ∧ flushesOf before + 1 = epoch ∧
      enqueuedOf after = []) ∧
    ∀ earlier, .acknowledged earlier ∈ log → earlier < epoch
  | .acknowledged _ => leftOf log = enqueuedOf log
  | .pausedRead paused => ∀ before after, log = before ++ .flush :: after → .play ∉ after →
      paused = true
  | .output samples =>
    (∃ before after taken gain length, log = before ++ .taken taken :: after ∧
      (∀ epoch, .acknowledged epoch ∉ after) ∧ samples = mixOutput G gain taken length) ∨
    ∃ before length, log = before ++ [.pausedRead true] ∧
      samples = List.replicate length M.silence
  | _ => True

/-- The callback agrees with the rest of the state. -/
def CallbackSound (q : AudioQueue G) : Prop :=
  match q.callback with
  | .idle => True
  | .loaded length epoch =>
    length % 2 = 0 ∧ q.observedEpoch ≤ epoch ∧ epoch ≤ q.state.flushEpoch
  | .cleared length epoch =>
    length % 2 = 0 ∧ q.observedEpoch < epoch ∧ epoch ≤ q.state.flushEpoch ∧ q.ring = []
  | .flushed length => length % 2 = 0
  | .playing length => length % 2 = 0
  | .popped length samples =>
    length % 2 = 0 ∧ ∃ before after, q.log = before ++ .taken samples :: after ∧
      ∀ epoch, .acknowledged epoch ∉ after

/-- The producer agrees with the rest of the state. -/
def ProducerSound (q : AudioQueue G) : Prop :=
  match q.producer with
  | .idle => True
  | .enqueueComparing samples epoch => samples.length % 2 = 0 ∧ epoch = q.state.flushEpoch
  | .enqueueChecked samples =>
    samples.length % 2 = 0 ∧ q.state.flushedEpoch = q.state.flushEpoch
  | .enqueuePushing samples =>
    samples.length % 2 = 0 ∧ q.state.flushedEpoch = q.state.flushEpoch ∧
      q.ring.length + samples.length ≤ sampleCapacity q.sampleRate
  | .flushing => q.state.paused = true
  | .playComparing _ => True
  | .playStoring => True

/-- While a flush is pending nothing was enqueued since. -/
def FlushesAwaited (q : AudioQueue G) : Prop :=
  ∀ epoch, q.state.flushedEpoch < epoch → epoch ≤ q.state.flushEpoch →
    ∃ before after, q.log = before ++ .flush :: after ∧ flushesOf before + 1 = epoch ∧
      enqueuedOf after = []

structure Sound (q : AudioQueue G) : Prop where
  fifo : enqueuedOf q.log = leftOf q.log ++ q.ring
  even : q.ring.length % 2 = 0
  bounded : q.ring.length ≤ sampleCapacity q.sampleRate
  observed : q.state.flushedEpoch = q.observedEpoch
  epochs : q.observedEpoch ≤ q.state.flushEpoch
  flushes : flushesOf q.log = q.state.flushEpoch
  callback : q.CallbackSound
  producer : q.ProducerSound
  playing : q.state.paused = false →
    ∀ before after, q.log = before ++ .flush :: after → .play ∈ after
  awaited : q.FlushesAwaited
  acknowledged : ∀ epoch, .acknowledged epoch ∈ q.log → epoch ≤ q.observedEpoch
  justified : Justified (Good G) q.log
  silent : ∀ before after, q.log = before ++ .pausedRead true :: after →
    ∃ length rest, after = .output (List.replicate length M.silence) :: rest

theorem Sound.new (G : GainModel M) (sampleRate : Nat) : (AudioQueue.new G sampleRate).Sound where
  fifo := rfl
  even := rfl
  bounded := Nat.zero_le _
  observed := rfl
  epochs := Nat.le_refl _
  flushes := rfl
  callback := trivial
  producer := trivial
  playing h := by cases h
  awaited := by
    intro epoch hlt hle
    exact absurd hlt (Nat.not_lt.mpr hle)
  acknowledged := by
    intro epoch hmem
    cases hmem
  justified := .nil
  silent := by
    intro before after h
    exact absurd h (by simp [AudioQueue.new])

/-! ## Recording an event -/

/-- An event that enters no sample, raises no epoch, acknowledges nothing and is not the
read of a set `paused`. -/
structure Neutral (e : AudioEvent M) : Prop where
  entering : e.entering = []
  isFlush : e.isFlush = false
  acknowledged : ∀ epoch, e ≠ .acknowledged epoch
  pausedRead : e ≠ .pausedRead true

namespace Sound
variable {q r : AudioQueue G} {e : AudioEvent M}

/-- A flush that nothing followed, after one more event that enters nothing. -/
theorem exists_flush_snoc {log : List (AudioEvent M)} {epoch : Nat} (he : e.entering = [])
    (h : ∃ before after, log = before ++ .flush :: after ∧ flushesOf before + 1 = epoch ∧
      enqueuedOf after = []) :
    ∃ before after, log ++ [e] = before ++ .flush :: after ∧ flushesOf before + 1 = epoch ∧
      enqueuedOf after = [] := by
  obtain ⟨before, after, rfl, hcount, hafter⟩ := h
  refine ⟨before, after ++ [e], ?_, hcount, ?_⟩
  · rw [List.append_assoc, List.cons_append]
  · rw [enqueuedOf_append, enqueuedOf_singleton, hafter, he]
    rfl

/-- Since the last flush the producer has played, after one more event. -/
theorem play_mem_snoc {log : List (AudioEvent M)} (he : e ≠ .flush)
    (h : (∀ before after, log = before ++ .flush :: after → .play ∈ after) ∨ e = .play) :
    ∀ before after, log ++ [e] = before ++ .flush :: after → .play ∈ after := by
  intro before after heq
  rcases snoc_eq_append_cons heq with ⟨-, hflush, -⟩ | ⟨rest, rfl, hlog⟩
  · exact absurd hflush.symm he
  · rcases h with h | rfl
    · exact List.mem_append_left _ (h before rest hlog)
    · exact List.mem_append_right _ List.mem_cons_self

/-- The reads of a set `paused`, after one more event. -/
theorem silent_snoc {log : List (AudioEvent M)} (he : e ≠ .pausedRead true)
    (h : ∀ before after, log = before ++ .pausedRead true :: after →
      ∃ length rest, after = .output (List.replicate length M.silence) :: rest) :
    ∀ before after, log ++ [e] = before ++ .pausedRead true :: after →
      ∃ length rest, after = .output (List.replicate length M.silence) :: rest := by
  intro before after heq
  rcases snoc_eq_append_cons heq with ⟨-, hread, -⟩ | ⟨rest, rfl, hlog⟩
  · exact absurd hread.symm he
  · obtain ⟨length, more, rfl⟩ := h before rest hlog
    exact ⟨length, more ++ [e], rfl⟩

theorem flushesOf_snoc {log : List (AudioEvent M)} (he : e.isFlush = false) :
    flushesOf (log ++ [e]) = flushesOf log := by
  rw [flushesOf_append]
  show _ + List.countP AudioEvent.isFlush [e] = _
  rw [List.countP_singleton, he]
  rfl

/-- **A neutral event**, with the samples it takes out of the ring. -/
theorem neutral (h : q.Sound) (he : Neutral e) (hgood : Good G q.log e)
    (hlog : r.log = q.log ++ [e]) (hring : e.leaving ++ r.ring = q.ring)
    (heven : r.ring.length % 2 = 0) (hrate : r.sampleRate = q.sampleRate)
    (hepochs : r.state.flushEpoch = q.state.flushEpoch ∧
      r.state.flushedEpoch = q.state.flushedEpoch ∧ r.observedEpoch = q.observedEpoch)
    (hpaused : r.state.paused = false → q.state.paused = false ∨ e = .play)
    (hcallback : r.CallbackSound) (hproducer : r.ProducerSound) : r.Sound := by
  obtain ⟨hflush, hflushed, hobserved⟩ := hepochs
  have hneFlush : e ≠ .flush := by
    rintro rfl
    cases he.isFlush
  constructor
  case fifo =>
    rw [hlog, enqueuedOf_append, leftOf_append, enqueuedOf_singleton, leftOf_singleton,
      he.entering, List.append_nil, List.append_assoc, hring]
    exact h.fifo
  case even => exact heven
  case bounded =>
    have hbounded := h.bounded
    rw [← hring, List.length_append] at hbounded
    rw [hrate]
    omega
  case observed => rw [hflushed, hobserved, h.observed]
  case epochs =>
    rw [hflush, hobserved]
    exact h.epochs
  case flushes => rw [hlog, flushesOf_snoc he.isFlush, hflush, h.flushes]
  case callback => exact hcallback
  case producer => exact hproducer
  case playing =>
    intro hplaying
    rw [hlog]
    refine play_mem_snoc hneFlush ?_
    exact (hpaused hplaying).imp_left h.playing
  case awaited =>
    intro epoch hlt hle
    rw [hflushed] at hlt
    rw [hflush] at hle
    rw [hlog]
    exact exists_flush_snoc he.entering (h.awaited epoch hlt hle)
  case acknowledged =>
    intro epoch hmem
    rw [hlog, List.mem_append, List.mem_singleton] at hmem
    rw [hobserved]
    rcases hmem with hmem | hlast
    · exact h.acknowledged epoch hmem
    · exact absurd hlast.symm (he.acknowledged epoch)
  case justified =>
    rw [hlog]
    exact h.justified.snoc hgood
  case silent =>
    rw [hlog]
    exact silent_snoc he.pausedRead h.silent

/-- A step that only moves a thread. -/
theorem moved (h : q.Sound) (hlog : r.log = q.log) (hring : r.ring = q.ring)
    (hrate : r.sampleRate = q.sampleRate)
    (hepochs : r.state.flushEpoch = q.state.flushEpoch ∧
      r.state.flushedEpoch = q.state.flushedEpoch ∧ r.observedEpoch = q.observedEpoch)
    (hpaused : r.state.paused = false → q.state.paused = false)
    (hcallback : r.CallbackSound) (hproducer : r.ProducerSound) : r.Sound := by
  obtain ⟨hflush, hflushed, hobserved⟩ := hepochs
  constructor
  case fifo =>
    rw [hlog, hring]
    exact h.fifo
  case even =>
    rw [hring]
    exact h.even
  case bounded =>
    rw [hring, hrate]
    exact h.bounded
  case observed => rw [hflushed, hobserved, h.observed]
  case epochs =>
    rw [hflush, hobserved]
    exact h.epochs
  case flushes => rw [hlog, hflush, h.flushes]
  case callback => exact hcallback
  case producer => exact hproducer
  case playing =>
    rw [hlog]
    exact fun hplaying => h.playing (hpaused hplaying)
  case awaited =>
    intro epoch hlt hle
    rw [hflushed] at hlt
    rw [hflush] at hle
    rw [hlog]
    exact h.awaited epoch hlt hle
  case acknowledged =>
    rw [hlog, hobserved]
    exact h.acknowledged
  case justified =>
    rw [hlog]
    exact h.justified
  case silent =>
    rw [hlog]
    exact h.silent

/-! ## The producer -/

/-- No event moves the callback's own record. -/
theorem callbackSound_snoc (h : q.CallbackSound) (hcallback : r.callback = q.callback)
    (hobserved : r.observedEpoch = q.observedEpoch)
    (hflush : q.state.flushEpoch ≤ r.state.flushEpoch)
    (hring : q.observedEpoch < q.state.flushEpoch → r.ring = q.ring)
    (hlog : r.log = q.log ∨ ∃ e, (∀ epoch, e ≠ .acknowledged epoch) ∧ r.log = q.log ++ [e]) :
    r.CallbackSound := by
  unfold CallbackSound at h ⊢
  rw [hcallback]
  cases hq : q.callback with
  | idle => trivial
  | loaded length epoch =>
    rw [hq] at h
    obtain ⟨hlength, hle, hge⟩ := h
    exact ⟨hlength, hobserved ▸ hle, Nat.le_trans hge hflush⟩
  | cleared length epoch =>
    rw [hq] at h
    obtain ⟨hlength, hlt, hge, hempty⟩ := h
    refine ⟨hlength, hobserved ▸ hlt, Nat.le_trans hge hflush, ?_⟩
    rw [hring (Nat.lt_of_lt_of_le hlt hge)]
    exact hempty
  | flushed length =>
    rw [hq] at h
    exact h
  | playing length =>
    rw [hq] at h
    exact h
  | popped length samples =>
    rw [hq] at h
    obtain ⟨hlength, before, after, hbefore, hnone⟩ := h
    refine ⟨hlength, ?_⟩
    rcases hlog with hlog | ⟨e, he, hlog⟩
    · exact ⟨before, after, hlog.trans hbefore, hnone⟩
    · refine ⟨before, after ++ [e], ?_, ?_⟩
      · rw [hlog, hbefore, List.append_assoc, List.cons_append]
      · intro epoch hmem
        rw [List.mem_append, List.mem_singleton] at hmem
        rcases hmem with hmem | hlast
        · exact hnone epoch hmem
        · exact he epoch hlast.symm

/-- The callback's record after a step of the producer that records nothing. -/
theorem callbackSound_moved (h : q.CallbackSound) (hcallback : r.callback = q.callback)
    (hobserved : r.observedEpoch = q.observedEpoch)
    (hflush : r.state.flushEpoch = q.state.flushEpoch) (hring : r.ring = q.ring)
    (hlog : r.log = q.log) : r.CallbackSound :=
  callbackSound_snoc h hcallback hobserved (Nat.le_of_eq hflush.symm) (fun _ => hring) (.inl hlog)

theorem neutral_refused (error : AudioBackendError) :
    Neutral (.refused error : AudioEvent M) := ⟨rfl, rfl, nofun, nofun⟩

/-- A refusal touches nothing but the counters. -/
theorem refuse (h : q.Sound) (kind : AudioBackendErrorKind) (message : String) :
    (q.refuse kind message).Sound := by
  have hcallback : (q.refuse kind message).CallbackSound :=
    callbackSound_snoc h.callback rfl rfl (Nat.le_refl _) (fun _ => rfl)
      (.inr ⟨.refused ⟨kind, message⟩, nofun, rfl⟩)
  exact h.neutral (neutral_refused ⟨kind, message⟩) trivial rfl rfl h.even rfl ⟨rfl, rfl, rfl⟩
    .inl hcallback trivial

theorem call (h : q.Sound) (op : ProducerOp G) (hidle : q.producer = .idle) :
    (q.call op).Sound := by
  have hcallback : ∀ (producer : Producer M) (paused : Bool) (gain : G.Gain),
      CallbackSound { q with
        producer := producer, state := { q.state with paused := paused, gain := gain } } :=
    fun _ _ _ => callbackSound_moved h.callback rfl rfl rfl rfl rfl
  unfold AudioQueue.call
  cases op with
  | enqueue batch =>
    dsimp only
    split
    · exact h.refuse _ _
    split
    · exact h.refuse _ _
    · rename_i heven
      have hproducer : batch.interleavedStereo.length % 2 = 0 ∧
          q.state.flushEpoch = q.state.flushEpoch := ⟨by omega, rfl⟩
      exact h.moved rfl rfl rfl ⟨rfl, rfl, rfl⟩ id (hcallback _ q.state.paused q.state.gain)
        hproducer
  | pauseAndFlush =>
    have hproducer : (true : Bool) = true := rfl
    exact h.moved rfl rfl rfl ⟨rfl, rfl, rfl⟩ nofun (hcallback _ true q.state.gain) hproducer
  | play =>
    exact h.moved rfl rfl rfl ⟨rfl, rfl, rfl⟩ id (hcallback _ q.state.paused q.state.gain) trivial
  | setGain gain =>
    dsimp only
    split
    · have hproducer : ProducerSound { q with state := { q.state with gain := gain } } := by
        unfold ProducerSound
        dsimp only
        rw [hidle]
        trivial
      exact h.moved rfl rfl rfl ⟨rfl, rfl, rfl⟩ id (hcallback q.producer q.state.paused gain)
        hproducer
    · exact h.refuse _ _

/-- **A push takes place whole**, with no flush pending. -/
theorem push (h : q.Sound) {samples : List M.Sample} (hq : q.producer = .enqueuePushing samples) :
    (AudioQueue.record { q with ring := q.ring ++ samples, producer := .idle }
      (.enqueued samples)).Sound := by
  have hproducer := h.producer
  unfold ProducerSound at hproducer
  rw [hq] at hproducer
  obtain ⟨heven, hagree, hroom⟩ := hproducer
  have hnone : ¬ q.observedEpoch < q.state.flushEpoch := by
    rw [← h.observed, hagree]
    exact Nat.lt_irrefl _
  constructor
  case fifo =>
    show enqueuedOf (q.log ++ [.enqueued samples]) =
      leftOf (q.log ++ [.enqueued samples]) ++ (q.ring ++ samples)
    rw [enqueuedOf_append, leftOf_append, enqueuedOf_singleton, leftOf_singleton, h.fifo]
    show _ ++ samples = (_ ++ []) ++ _
    rw [List.append_nil, List.append_assoc]
  case even =>
    have hring := h.even
    show (q.ring ++ samples).length % 2 = 0
    rw [List.length_append]
    omega
  case bounded =>
    show (q.ring ++ samples).length ≤ _
    rw [List.length_append]
    exact hroom
  case observed => exact h.observed
  case epochs => exact h.epochs
  case flushes => exact (flushesOf_snoc rfl).trans h.flushes
  case callback =>
    exact callbackSound_snoc h.callback rfl rfl (Nat.le_refl _) (fun hlt => absurd hlt hnone)
      (.inr ⟨.enqueued samples, nofun, rfl⟩)
  case producer => trivial
  case playing => exact fun hplaying => play_mem_snoc nofun (.inl (h.playing hplaying))
  case awaited =>
    intro epoch hlt hle
    have hcontra : q.state.flushedEpoch < q.state.flushEpoch := Nat.lt_of_lt_of_le hlt hle
    exact absurd hcontra (by rw [hagree]; exact Nat.lt_irrefl _)
  case acknowledged =>
    intro epoch hmem
    rcases List.mem_append.mp hmem with hmem | hlast
    · exact h.acknowledged epoch hmem
    · exact absurd (List.mem_singleton.mp hlast) nofun
  case justified => exact h.justified.snoc trivial
  case silent => exact silent_snoc nofun h.silent

/-- **A flush raises the epoch.** -/
theorem flush (h : q.Sound) (hq : q.producer = .flushing) :
    (AudioQueue.record
      { q with
        state := { q.state with flushEpoch := q.state.flushEpoch + 1 }, producer := .idle }
      .flush).Sound := by
  have hpaused : q.state.paused = true := by
    have hproducer := h.producer
    unfold ProducerSound at hproducer
    rw [hq] at hproducer
    exact hproducer
  have hlast : ∃ before after, q.log ++ [.flush] = before ++ (.flush : AudioEvent M) :: after ∧
      flushesOf before + 1 = q.state.flushEpoch + 1 ∧ enqueuedOf after = [] :=
    ⟨q.log, [], rfl, by rw [h.flushes], rfl⟩
  constructor
  case fifo =>
    show enqueuedOf (q.log ++ [.flush]) = leftOf (q.log ++ [.flush]) ++ q.ring
    rw [enqueuedOf_append, leftOf_append, enqueuedOf_singleton, leftOf_singleton, h.fifo]
    show _ ++ [] = (_ ++ []) ++ _
    rw [List.append_nil, List.append_nil]
  case even => exact h.even
  case bounded => exact h.bounded
  case observed => exact h.observed
  case epochs => exact Nat.le_succ_of_le h.epochs
  case flushes =>
    show flushesOf (q.log ++ [.flush]) = q.state.flushEpoch + 1
    rw [flushesOf_append, h.flushes]
    rfl
  case callback =>
    exact callbackSound_snoc h.callback rfl rfl (Nat.le_succ _) (fun _ => rfl)
      (.inr ⟨.flush, nofun, rfl⟩)
  case producer => trivial
  case playing =>
    intro hplaying
    exact absurd (hpaused.symm.trans hplaying) nofun
  case awaited =>
    intro epoch hlt hle
    rcases Nat.lt_or_ge q.state.flushEpoch epoch with hnew | hold
    · have hepoch : epoch = q.state.flushEpoch + 1 := Nat.le_antisymm hle hnew
      rw [hepoch]
      exact hlast
    · exact exists_flush_snoc rfl (h.awaited epoch hlt hold)
  case acknowledged =>
    intro epoch hmem
    rcases List.mem_append.mp hmem with hmem | hlast
    · exact h.acknowledged epoch hmem
    · exact absurd (List.mem_singleton.mp hlast) nofun
  case justified => exact h.justified.snoc trivial
  case silent => exact silent_snoc nofun h.silent

theorem producerStep (h : q.Sound) (hstep : q.producerStep = some r) : r.Sound := by
  have hproducer := h.producer
  unfold AudioQueue.producerStep at hstep
  unfold ProducerSound at hproducer
  cases hq : q.producer with
  | idle =>
    rw [hq] at hstep
    cases hstep
  | enqueueComparing samples epoch =>
    rw [hq] at hstep hproducer
    obtain ⟨heven, rfl⟩ := hproducer
    dsimp only at hstep
    split at hstep
    · cases hstep
      exact h.refuse _ _
    · rename_i hagree
      cases hstep
      have hready : samples.length % 2 = 0 ∧ q.state.flushedEpoch = q.state.flushEpoch :=
        ⟨heven, (Decidable.not_not.mp hagree).symm⟩
      exact h.moved rfl rfl rfl ⟨rfl, rfl, rfl⟩ id
        (callbackSound_moved h.callback rfl rfl rfl rfl rfl) hready
  | enqueueChecked samples =>
    rw [hq] at hstep hproducer
    obtain ⟨heven, hagree⟩ := hproducer
    dsimp only at hstep
    split at hstep
    · cases hstep
      have hcounted : Sound { q with state := { q.state with
          droppedFrames := q.state.droppedFrames + samples.length / 2 } } := by
        refine h.moved rfl rfl rfl ⟨rfl, rfl, rfl⟩ id
          (callbackSound_moved h.callback rfl rfl rfl rfl rfl) ?_
        unfold ProducerSound
        dsimp only
        rw [hq]
        exact ⟨heven, hagree⟩
      exact hcounted.refuse _ _
    · rename_i hroom
      cases hstep
      have hbounded := h.bounded
      have hready : samples.length % 2 = 0 ∧ q.state.flushedEpoch = q.state.flushEpoch ∧
          q.ring.length + samples.length ≤ sampleCapacity q.sampleRate :=
        ⟨heven, hagree, by omega⟩
      exact h.moved rfl rfl rfl ⟨rfl, rfl, rfl⟩ id
        (callbackSound_moved h.callback rfl rfl rfl rfl rfl) hready
  | enqueuePushing samples =>
    rw [hq] at hstep hproducer
    obtain ⟨-, -, hroom⟩ := hproducer
    have hwhole : samples.take (sampleCapacity q.sampleRate - q.ring.length) = samples :=
      List.take_of_length_le (by omega)
    dsimp only at hstep
    rw [hwhole] at hstep
    cases hstep
    exact h.push hq
  | flushing =>
    rw [hq] at hstep
    cases hstep
    exact h.flush hq
  | playComparing epoch =>
    rw [hq] at hstep
    dsimp only at hstep
    split at hstep
    · cases hstep
      exact h.refuse _ _
    · cases hstep
      exact h.moved rfl rfl rfl ⟨rfl, rfl, rfl⟩ id
        (callbackSound_moved h.callback rfl rfl rfl rfl rfl) trivial
  | playStoring =>
    rw [hq] at hstep
    cases hstep
    have hneutral : Neutral (.play : AudioEvent M) := ⟨rfl, rfl, nofun, nofun⟩
    exact h.neutral hneutral trivial rfl rfl h.even rfl ⟨rfl, rfl, rfl⟩ (fun _ => .inr rfl)
      (callbackSound_snoc h.callback rfl rfl (Nat.le_refl _) (fun _ => rfl)
        (.inr ⟨.play, nofun, rfl⟩))
      trivial

/-! ## The callback -/

/-- The producer's record after a step of the callback. -/
theorem producerSound_of (h : q.ProducerSound) (hproducer : r.producer = q.producer)
    (hrate : r.sampleRate = q.sampleRate)
    (hstate : r.state.flushEpoch = q.state.flushEpoch ∧ r.state.paused = q.state.paused)
    (hflushed : q.state.flushedEpoch = q.state.flushEpoch →
      r.state.flushedEpoch = q.state.flushedEpoch)
    (hring : r.ring.length ≤ q.ring.length) : r.ProducerSound := by
  obtain ⟨hflush, hpaused⟩ := hstate
  unfold ProducerSound at h ⊢
  rw [hproducer]
  cases hq : q.producer with
  | idle => trivial
  | enqueueComparing samples epoch =>
    rw [hq] at h
    exact ⟨h.1, h.2.trans hflush.symm⟩
  | enqueueChecked samples =>
    rw [hq] at h
    exact ⟨h.1, by rw [hflushed h.2, h.2, hflush]⟩
  | enqueuePushing samples =>
    rw [hq] at h
    obtain ⟨heven, hagree, hroom⟩ := h
    refine ⟨heven, by rw [hflushed hagree, hagree, hflush], ?_⟩
    rw [hrate]
    omega
  | flushing =>
    rw [hq] at h
    exact hpaused.trans h
  | playComparing epoch => trivial
  | playStoring => trivial

/-- **The ring is cleared**: everything enqueued so far leaves, and the flush of the
epoch was the last thing to happen to it. -/
theorem discard (h : q.Sound) {length epoch : Nat} (hq : q.callback = .loaded length epoch)
    (hnew : epoch ≠ q.observedEpoch) :
    (AudioQueue.record { q with ring := [], callback := .cleared length epoch }
      (.discarded epoch q.ring)).Sound := by
  have hcallback := h.callback
  unfold CallbackSound at hcallback
  rw [hq] at hcallback
  obtain ⟨hlength, hle, hge⟩ := hcallback
  have hlt : q.observedEpoch < epoch := by omega
  have hgood : Good G q.log (.discarded epoch q.ring) := by
    refine ⟨h.fifo.symm, h.awaited epoch (h.observed ▸ hlt) hge, ?_⟩
    intro earlier hmem
    exact Nat.lt_of_le_of_lt (h.acknowledged earlier hmem) hlt
  have hneutral : Neutral (.discarded epoch q.ring : AudioEvent M) := ⟨rfl, rfl, nofun, nofun⟩
  refine h.neutral hneutral hgood rfl (List.append_nil _) rfl rfl ⟨rfl, rfl, rfl⟩ .inl ?_ ?_
  · exact ⟨hlength, hlt, hge, rfl⟩
  · exact producerSound_of h.producer rfl rfl ⟨rfl, rfl⟩ (fun _ => rfl) (Nat.zero_le _)

/-- **The acknowledgement**: the ring is empty, and every flush up to the epoch is dealt
with. -/
theorem acknowledge (h : q.Sound) {length epoch : Nat} (hq : q.callback = .cleared length epoch) :
    (AudioQueue.record
      { q with
        state := { q.state with flushedEpoch := epoch }
        observedEpoch := epoch
        callback := .flushed length }
      (.acknowledged epoch)).Sound := by
  have hcallback := h.callback
  unfold CallbackSound at hcallback
  rw [hq] at hcallback
  obtain ⟨hlength, hlt, hge, hempty⟩ := hcallback
  have hfifo : leftOf q.log = enqueuedOf q.log := by
    rw [h.fifo, hempty, List.append_nil]
  constructor
  case fifo =>
    show enqueuedOf (q.log ++ [.acknowledged epoch]) =
      leftOf (q.log ++ [.acknowledged epoch]) ++ q.ring
    rw [enqueuedOf_append, leftOf_append, enqueuedOf_singleton, leftOf_singleton, h.fifo]
    show _ ++ [] = (_ ++ []) ++ _
    rw [List.append_nil, List.append_nil]
  case even => exact h.even
  case bounded => exact h.bounded
  case observed => rfl
  case epochs => exact hge
  case flushes => exact (flushesOf_snoc rfl).trans h.flushes
  case callback => exact hlength
  case producer =>
    refine producerSound_of h.producer rfl rfl ⟨rfl, rfl⟩ ?_ (Nat.le_refl _)
    intro hagree
    rw [h.observed] at hagree
    omega
  case playing => exact fun hplaying => play_mem_snoc nofun (.inl (h.playing hplaying))
  case awaited =>
    intro later hlater hle
    have hlater' : q.state.flushedEpoch < later := by
      rw [h.observed]
      exact Nat.lt_trans hlt hlater
    exact exists_flush_snoc rfl (h.awaited later hlater' hle)
  case acknowledged =>
    intro earlier hmem
    rcases List.mem_append.mp hmem with hmem | hlast
    · exact Nat.le_trans (h.acknowledged earlier hmem) (Nat.le_of_lt hlt)
    · cases List.mem_singleton.mp hlast
      exact Nat.le_refl _
  case justified => exact h.justified.snoc hfifo
  case silent => exact silent_snoc nofun h.silent

/-- A callback that reads a set `paused` outputs silence. -/
theorem silence (h : q.Sound) {length : Nat} (hpaused : q.state.paused = true) :
    ((AudioQueue.record { q with callback := .idle } (.pausedRead true)).record
      (.output (List.replicate length M.silence))).Sound := by
  have hlogs : ∀ log : List (AudioEvent M),
      enqueuedOf (log ++ [.pausedRead true] ++ [.output (List.replicate length M.silence)]) =
          enqueuedOf log ∧
        leftOf (log ++ [.pausedRead true] ++ [.output (List.replicate length M.silence)]) =
          leftOf log := by
    intro log
    rw [List.append_assoc, enqueuedOf_append, leftOf_append]
    exact ⟨List.append_nil _, List.append_nil _⟩
  have hread : Good G q.log (.pausedRead true) := fun _ _ _ _ => rfl
  have houtput : Good G (q.log ++ [.pausedRead true])
      (.output (List.replicate length M.silence)) := .inr ⟨q.log, length, rfl, rfl⟩
  constructor
  case fifo =>
    obtain ⟨henqueued, hleft⟩ := hlogs q.log
    exact henqueued.trans (h.fifo.trans (by rw [← hleft]; rfl))
  case even => exact h.even
  case bounded => exact h.bounded
  case observed => exact h.observed
  case epochs => exact h.epochs
  case flushes => exact (flushesOf_snoc rfl).trans ((flushesOf_snoc rfl).trans h.flushes)
  case callback => trivial
  case producer =>
    exact producerSound_of h.producer rfl rfl ⟨rfl, rfl⟩ (fun _ => rfl) (Nat.le_refl _)
  case playing => exact fun hplaying => absurd (hpaused.symm.trans hplaying) nofun
  case awaited =>
    intro epoch hlt hle
    exact exists_flush_snoc rfl (exists_flush_snoc rfl (h.awaited epoch hlt hle))
  case acknowledged =>
    intro epoch hmem
    rcases List.mem_append.mp hmem with hmem | hlast
    · rcases List.mem_append.mp hmem with hmem | hlast
      · exact h.acknowledged epoch hmem
      · exact absurd (List.mem_singleton.mp hlast) nofun
    · exact absurd (List.mem_singleton.mp hlast) nofun
  case justified => exact (h.justified.snoc hread).snoc houtput
  case silent =>
    intro before after heq
    rcases snoc_eq_append_cons heq with ⟨-, hlast, -⟩ | ⟨rest, rfl, hlog⟩
    · cases hlast
    · rcases snoc_eq_append_cons hlog with ⟨-, -, rfl⟩ | ⟨more, rfl, hbefore⟩
      · exact ⟨length, [], rfl⟩
      · obtain ⟨count, others, rfl⟩ := h.silent before more hbefore
        exact ⟨count, _, rfl⟩

theorem callbackStep (h : q.Sound) (hstep : q.callbackStep = some r) : r.Sound := by
  have hcallback := h.callback
  have hproducer : ∀ {s : AudioQueue G}, s.producer = q.producer → s.sampleRate = q.sampleRate →
      (s.state.flushEpoch = q.state.flushEpoch ∧ s.state.paused = q.state.paused) →
      s.state.flushedEpoch = q.state.flushedEpoch → s.ring.length ≤ q.ring.length →
      s.ProducerSound :=
    fun hs hrate hstate hflushed hring =>
      producerSound_of h.producer hs hrate hstate (fun _ => hflushed) hring
  unfold AudioQueue.callbackStep at hstep
  unfold CallbackSound at hcallback
  cases hq : q.callback with
  | idle =>
    rw [hq] at hstep
    cases hstep
  | loaded length epoch =>
    rw [hq] at hstep hcallback
    dsimp only at hstep
    split at hstep
    · rename_i hnew
      cases hstep
      exact h.discard hq hnew
    · cases hstep
      exact h.moved rfl rfl rfl ⟨rfl, rfl, rfl⟩ id hcallback.1
        (hproducer rfl rfl ⟨rfl, rfl⟩ rfl (Nat.le_refl _))
  | cleared length epoch =>
    rw [hq] at hstep
    cases hstep
    exact h.acknowledge hq
  | flushed length =>
    rw [hq] at hstep hcallback
    dsimp only at hstep
    split at hstep
    · rename_i hpaused
      cases hstep
      exact h.silence hpaused
    · rename_i hpaused
      cases hstep
      have hclear : q.state.paused = false := Bool.eq_false_iff.mpr hpaused
      have hgood : Good G q.log (.pausedRead false) := by
        intro before after hlog hnone
        exact absurd (h.playing hclear before after hlog) hnone
      have hneutral : Neutral (.pausedRead false : AudioEvent M) := ⟨rfl, rfl, nofun, nofun⟩
      exact h.neutral hneutral hgood rfl rfl h.even rfl ⟨rfl, rfl, rfl⟩ .inl hcallback
        (hproducer rfl rfl ⟨rfl, rfl⟩ rfl (Nat.le_refl _))
  | playing length =>
    rw [hq] at hstep hcallback
    cases hstep
    have heven := h.even
    have hneutral : Neutral (.taken (q.ring.take length) : AudioEvent M) :=
      ⟨rfl, rfl, nofun, nofun⟩
    have hrest : (q.ring.drop length).length % 2 = 0 := by
      rw [List.length_drop]
      omega
    have hshorter : (q.ring.drop length).length ≤ q.ring.length := by
      rw [List.length_drop]
      omega
    exact h.neutral hneutral trivial rfl (List.take_append_drop _ _) hrest rfl ⟨rfl, rfl, rfl⟩ .inl
      ⟨hcallback, q.log, [], rfl, nofun⟩ (hproducer rfl rfl ⟨rfl, rfl⟩ rfl hshorter)
  | popped length samples =>
    rw [hq] at hstep hcallback
    cases hstep
    obtain ⟨-, before, after, hlog, hnone⟩ := hcallback
    have hgood : Good G q.log (.output (mixOutput G q.state.gain samples length)) :=
      .inl ⟨before, after, samples, q.state.gain, length, hlog, hnone, rfl⟩
    have hneutral : Neutral
        (.output (mixOutput G q.state.gain samples length) : AudioEvent M) :=
      ⟨rfl, rfl, nofun, nofun⟩
    exact h.neutral hneutral hgood rfl rfl h.even rfl ⟨rfl, rfl, rfl⟩ .inl trivial
      (hproducer rfl rfl ⟨rfl, rfl⟩ rfl (Nat.le_refl _))

/-- **Every step of either thread.** -/
theorem step (h : q.Sound) {a : Action G} (ha : a.WholeFrames) (hstep : q.step a = some r) :
    r.Sound := by
  unfold AudioQueue.step at hstep
  cases a with
  | call op =>
    cases hq : q.producer with
    | idle =>
      simp only [hq] at hstep
      cases hstep
      exact h.call op hq
    | _ =>
      simp only [hq] at hstep
      cases hstep
  | producer => exact h.producerStep hstep
  | fill length =>
    cases hq : q.callback with
    | idle =>
      simp only [hq] at hstep
      cases hstep
      exact h.moved rfl rfl rfl ⟨rfl, rfl, rfl⟩ id ⟨ha, h.epochs, Nat.le_refl _⟩
        (producerSound_of h.producer rfl rfl ⟨rfl, rfl⟩ (fun _ => rfl) (Nat.le_refl _))
    | _ =>
      simp only [hq] at hstep
      cases hstep
  | callback => exact h.callbackStep hstep

end Sound

theorem sound_of_reachable {sampleRate : Nat} {q : AudioQueue G}
    (h : Reachable (AudioQueue.system G sampleRate) q) : q.Sound := by
  refine h.invariant ?_ ?_
  · rintro q rfl
    exact .new G sampleRate
  · rintro q a r hq ⟨ha, hstep⟩
    exact hq.step ha hstep

/-! ## The laws -/

/-- The laws of the audio queue. -/
structure FlushLaw (q : AudioQueue G) : Prop where
  /-- The ring is a FIFO: what was enqueued has left, in order, or is in it. -/
  fifo : enqueuedOf q.log = leftOf q.log ++ q.ring
  order : (takenOf q.log).Sublist (enqueuedOf q.log)
  even : q.ring.length % 2 = 0
  /-- An output after the acknowledgement of a flush is silence or was taken from the
  ring after the acknowledgement, when everything enqueued before the flush had left. -/
  stale : ∀ before between after rest epoch samples,
    q.log = before ++ .flush :: between ++ .acknowledged epoch :: after ++
      .output samples :: rest →
    flushesOf before < epoch →
    (∃ length, samples = List.replicate length M.silence) ∨
      ∃ earlier later taken gain length, after = earlier ++ .taken taken :: later ∧
        samples = mixOutput G gain taken length ∧
        enqueuedOf before <+:
          leftOf (before ++ .flush :: between ++ .acknowledged epoch :: earlier)
  /-- After its acknowledgement a flush discards nothing; a later one discards what was
  enqueued before it. -/
  fresh : ∀ before after rest epoch later samples,
    q.log = before ++ .acknowledged epoch :: after ++ .discarded later samples :: rest →
    epoch < later ∧ ∃ earlier since,
      before ++ .acknowledged epoch :: after = earlier ++ .flush :: since ∧
        flushesOf earlier + 1 = later ∧ enqueuedOf since = []
  /-- A step of the producer enqueues its whole batch or leaves the ring alone. -/
  whole : ∀ r, q.producerStep = some r →
    (∃ samples, q.producer = .enqueuePushing samples ∧ r.ring = q.ring ++ samples ∧
      r.log = q.log ++ [.enqueued samples]) ∨
    (r.ring = q.ring ∧ enqueuedOf r.log = enqueuedOf q.log)
  /-- Between a flush and the next successful play the callback finds `paused` set. -/
  paused : ∀ before after rest read,
    q.log = before ++ .flush :: after ++ .pausedRead read :: rest → .play ∉ after → read = true
  /-- Then it outputs silence only. -/
  silent : ∀ before rest, q.log = before ++ .pausedRead true :: rest →
    ∃ length more, rest = .output (List.replicate length M.silence) :: more

/-- What had left at the acknowledgement of a flush has left later on. -/
theorem prefix_left {before between after : List (AudioEvent M)} {epoch : Nat}
    (h : leftOf (before ++ .flush :: between) = enqueuedOf (before ++ .flush :: between)) :
    enqueuedOf before <+: leftOf (before ++ .flush :: between ++ .acknowledged epoch :: after) := by
  have henqueued : enqueuedOf before <+: leftOf (before ++ .flush :: between) := by
    rw [h, enqueuedOf_append]
    exact List.prefix_append _ _
  rw [leftOf_append]
  exact henqueued.trans (List.prefix_append _ _)

theorem Sound.whole {q r : AudioQueue G} (h : q.Sound) (hstep : q.producerStep = some r) :
    (∃ samples, q.producer = .enqueuePushing samples ∧ r.ring = q.ring ++ samples ∧
      r.log = q.log ++ [.enqueued samples]) ∨
    (r.ring = q.ring ∧ enqueuedOf r.log = enqueuedOf q.log) := by
  have hproducer := h.producer
  have hnothing : ∀ e : AudioEvent M, e.entering = [] →
      enqueuedOf (q.log ++ [e]) = enqueuedOf q.log := by
    intro e he
    rw [enqueuedOf_append, enqueuedOf_singleton, he, List.append_nil]
  unfold AudioQueue.producerStep at hstep
  unfold ProducerSound at hproducer
  cases hq : q.producer with
  | idle =>
    rw [hq] at hstep
    cases hstep
  | enqueueComparing samples epoch =>
    rw [hq] at hstep
    dsimp only at hstep
    split at hstep
    · cases hstep
      exact .inr ⟨rfl, hnothing _ rfl⟩
    · cases hstep
      exact .inr ⟨rfl, rfl⟩
  | enqueueChecked samples =>
    rw [hq] at hstep
    dsimp only at hstep
    split at hstep
    · cases hstep
      exact .inr ⟨rfl, hnothing _ rfl⟩
    · cases hstep
      exact .inr ⟨rfl, rfl⟩
  | enqueuePushing samples =>
    rw [hq] at hstep hproducer
    obtain ⟨-, -, hroom⟩ := hproducer
    have hfits : samples.take (sampleCapacity q.sampleRate - q.ring.length) = samples :=
      List.take_of_length_le (by omega)
    dsimp only at hstep
    rw [hfits] at hstep
    cases hstep
    exact .inl ⟨samples, rfl, rfl, rfl⟩
  | flushing =>
    rw [hq] at hstep
    cases hstep
    exact .inr ⟨rfl, hnothing _ rfl⟩
  | playComparing epoch =>
    rw [hq] at hstep
    dsimp only at hstep
    split at hstep
    · cases hstep
      exact .inr ⟨rfl, hnothing _ rfl⟩
    · cases hstep
      exact .inr ⟨rfl, rfl⟩
  | playStoring =>
    rw [hq] at hstep
    cases hstep
    exact .inr ⟨rfl, hnothing _ rfl⟩

/-- **Audio queue flush**, in every interleaving of the producer and the callback. -/
theorem audio_flush {sampleRate : Nat} {q : AudioQueue G}
    (h : Reachable (AudioQueue.system G sampleRate) q) : FlushLaw q := by
  have hq := sound_of_reachable h
  constructor
  case fifo => exact hq.fifo
  case order =>
    refine (takenOf_sublist_leftOf q.log).trans ?_
    rw [hq.fifo]
    exact List.sublist_append_left _ _
  case even => exact hq.even
  case stale =>
    intro before between after rest epoch samples hlog _
    have hacknowledged : Good G (before ++ .flush :: between) (.acknowledged epoch) := by
      refine hq.justified _ _ (after ++ .output samples :: rest) ?_
      rw [hlog, List.append_assoc, List.cons_append]
    have houtput := hq.justified _ _ rest hlog
    rcases houtput with ⟨first, since, taken, gain, length, hsplit, hnone, rfl⟩ |
        ⟨first, length, -, rfl⟩
    · -- no acknowledgement lies between the take and the output
      obtain ⟨earlier, hafter, -⟩ := before_of_not_mem hsplit nofun (hnone epoch)
      exact .inr ⟨earlier, since, taken, gain, length, hafter, rfl, prefix_left hacknowledged⟩
    · exact .inl ⟨length, rfl⟩
  case fresh =>
    intro before after rest epoch later samples hlog
    obtain ⟨-, hflush, hearlier⟩ := hq.justified _ _ rest hlog
    exact ⟨hearlier epoch (by simp), hflush⟩
  case whole => exact fun r hstep => hq.whole hstep
  case paused =>
    intro before after rest read hlog hnone
    exact hq.justified _ _ rest hlog before after rfl hnone
  case silent => exact hq.silent

theorem reachable_step {sampleRate : Nat} {q r : AudioQueue G}
    (h : Reachable (AudioQueue.system G sampleRate) q) (a : Action G) (ha : a.WholeFrames)
    (hstep : q.step a = some r) : Reachable (AudioQueue.system G sampleRate) r :=
  h.step ⟨ha, hstep⟩

/-- No gain at all. -/
def fullGain : GainModel .mute where
  Gain := Unit
  unity := ()
  valid _ := true
  scale sample _ := sample

/-- Two samples are enqueued, flushed and the flush acknowledged. -/
theorem audio_flush_acknowledged : ∃ q : AudioQueue fullGain,
    FlushLaw q ∧ q.log = [.enqueued [(), ()], .flush, .discarded 1 [(), ()], .acknowledged 1] := by
  have hnew : Reachable (AudioQueue.system fullGain 48000) (AudioQueue.new fullGain 48000) :=
    .start rfl
  have hcall := reachable_step hnew (.call (.enqueue ⟨48000, [(), ()]⟩)) trivial rfl
  have hcompared := reachable_step hcall .producer trivial rfl
  have hchecked := reachable_step hcompared .producer trivial rfl
  have hpushed := reachable_step hchecked .producer trivial rfl
  have hpaused := reachable_step hpushed (.call .pauseAndFlush) trivial rfl
  have hflushed := reachable_step hpaused .producer trivial rfl
  have hloaded := reachable_step hflushed (.fill 2) rfl rfl
  have hcleared := reachable_step hloaded .callback trivial rfl
  have hacknowledged := reachable_step hcleared .callback trivial rfl
  exact ⟨_, audio_flush hacknowledged, rfl⟩

end AudioQueue

end Pockiva
