import Pockiva.Desktop.FrameDelivery
import Pockiva.HaltedCore

/-! # Acknowledgements and the frames they are for

An acknowledgement of a frame that the core at work numbered is accepted exactly while
that frame is in flight.  One of a frame from before a restart or another image may carry
the number of a new frame.
-/
namespace Pockiva

open Transition

variable {M : MixerModel}

namespace Runtime

/-! ## A core that has a frame -/

/-- An observer that takes everything watches, and no remote input is retained. -/
structure Watched (r : Runtime M) : Prop where
  observer : ∃ o, r.observer = some o ∧ ∀ i, o.answers i = .ok ()
  remote : r.remoteInputs = .initial

theorem Watched.publishControl {r : Runtime M} (h : Watched r) :
    ∃ o, r.publishControl = (.ok (), { r with observer := some o }) ∧
      ∀ i, o.answers i = .ok () := by
  obtain ⟨o, hobserver, hanswers⟩ := h.observer
  refine ⟨o.next, ?_, hanswers⟩
  have hanswer : o.answer = .ok () := hanswers _
  rw [Runtime.publishControl, hobserver]
  dsimp only
  rw [hanswer]

/-- A load that succeeds. -/
theorem Watched.openRom {r : Runtime M} (h : Watched r) {rom : List Byte} (fileName : String)
    {clock : Clock} {sampleRate : Nat} {metadata : CartridgeMetadata} {g : GameBoy M}
    (hload : (GameBoy.new clock sampleRate).loadRom rom none = (.ok metadata, g)) :
    ∃ s, s = (r.handleCommand (.openRom (some rom) fileName clock sampleRate) 0).2 ∧ Watched s ∧
      s.core = some g ∧ s.delivery = .empty ∧ s.model.coreLoaded = true ∧
      s.frameLog = r.frameLog ++ [.cleared] ++ [.renumbered] := by
  have hbegun : Watched { r.dropCore.clearDelivery with
      model := r.dropCore.clearDelivery.model.beginLoad } := ⟨h.observer, h.remote⟩
  obtain ⟨o, hshown, hanswers⟩ := hbegun.publishControl
  have hretained : applyRetainedRemoteInputs g r.remoteInputs = g := by
    rw [h.remote]
    rfl
  have hloaded : Watched (Runtime.record
      { r.dropCore.clearDelivery with
        model := r.dropCore.clearDelivery.model.beginLoad.finishLoad metadata fileName
        core := some g
        observer := some o } .renumbered) := ⟨⟨o, rfl, hanswers⟩, h.remote⟩
  obtain ⟨o', hshown', hanswers'⟩ := hloaded.publishControl
  refine ⟨_, rfl, ?_⟩
  have hstate : (r.handleCommand (.openRom (some rom) fileName clock sampleRate) 0).2 =
      { Runtime.record
        { r.dropCore.clearDelivery with
          model := r.dropCore.clearDelivery.model.beginLoad.finishLoad metadata fileName
          core := some g
          observer := some o } .renumbered with observer := some o' } := by
    simp only [handleCommand]
    rw [hshown]
    simp only [Runtime.loadRom]
    rw [hload]
    have hcandidate : applyRetainedRemoteInputs g r.dropCore.clearDelivery.remoteInputs = g :=
      hretained
    rw [hcandidate]
    exact congrArg Prod.snd hshown'
  rw [hstate]
  exact ⟨⟨⟨o', rfl, hanswers'⟩, h.remote⟩, rfl, rfl, rfl, rfl⟩

/-- Start after a load. -/
theorem Watched.start {r : Runtime M} (h : Watched r) (hloaded : r.model.coreLoaded = true) :
    ∃ s, s = (r.handleCommand .start 0).2 ∧ Watched s ∧ s.core = r.core ∧
      s.delivery = r.delivery ∧ s.model.snapshot.phase = .running ∧ s.frameLog = r.frameLog := by
  have hmodel : r.model.start = .ok (r.model.inPhase .running) := by
    rw [RuntimeModel.start, RuntimeModel.requireLoaded, if_pos hloaded]
    rfl
  have hrunning : Watched { r with model := r.model.inPhase .running } := ⟨h.observer, h.remote⟩
  obtain ⟨o, hshown, hanswers⟩ := hrunning.publishControl
  have hstate : (r.handleCommand .start 0).2 =
      { r with model := r.model.inPhase .running, observer := some o } := by
    show (r.applyModel r.model.start).2 = _
    rw [hmodel]
    exact congrArg Prod.snd hshown
  refine ⟨_, rfl, ?_⟩
  rw [hstate]
  exact ⟨⟨⟨o, rfl, hanswers⟩, h.remote⟩, rfl, rfl, rfl, rfl⟩

/-- A tick of a core that has a frame. -/
theorem Watched.runTick {r : Runtime M} (h : Watched r) (hidle : r.delivery = .empty)
    {g : GameBoy M} (hcore : r.core = some g) {outcome : RunOutcome} {f : Frame}
    (hran : (g.runCycles frameCycleBudget).1 = .ok outcome) (hready : outcome.frameReady = true)
    (hframe : ((g.runCycles frameCycleBudget).2.drainAudio.2).takeFrame.1 = some f) :
    Watched r.runTick ∧ r.runTick.delivery = ⟨some f.sequence, none⟩ ∧
      r.runTick.frameLog = r.frameLog ++ [.published f] := by
  obtain ⟨o, hobserver, hanswers⟩ := h.observer
  have hanswer : o.answer = .ok () := hanswers _
  have hstate : r.runTick =
      Runtime.record
        { r with
          core := some ((g.runCycles frameCycleBudget).2.drainAudio.2).takeFrame.2
          delivery := ⟨some f.sequence, none⟩
          observer := some o.next } (.published f) := by
    rw [Runtime.runTick, hcore]
    dsimp only
    rw [hran]
    dsimp only
    rw [if_pos hready, hframe]
    dsimp only
    rw [Runtime.offerFrame, hobserver, hidle]
    simp only [FrameQueue.offer, FrameQueue.empty, Option.isNone_none, Option.isNone_some,
      Bool.false_eq_true, if_true, if_false]
    rw [Runtime.publishFrame]
    dsimp only
    rw [hanswer]
  rw [hstate]
  exact ⟨⟨⟨o.next, rfl, hanswers⟩, h.remote⟩, rfl, rfl⟩

/-- An image is opened and played until its core has published a frame. -/
theorem exists_played {r : Runtime M} (hr : Reachable (workerSystem M) r) (h : Watched r) :
    ∃ s f, Reachable (workerSystem M) s ∧ Watched s ∧ s.delivery = ⟨some f.sequence, none⟩ ∧
      s.frameLog = r.frameLog ++ [.cleared] ++ [.renumbered] ++ [.published f] ∧
      (Ppu.run (.replicate frameCycleBudget .dot) Ppu.postBootDmg).ppu.pendingFrame = some f := by
  have hload := GameBoy.loadRom_halt (GameBoy.new (M := M) ⟨fun _ => 0, 0⟩ 48000)
  obtain ⟨bus, hhalts⟩ :=
    GameBoy.startsHalted_loadRom (GameBoy.new (M := M) ⟨fun _ => 0, 0⟩ 48000)
  obtain ⟨opened, hopened, hwatched, hcore, hidle, hloaded, hlog⟩ :=
    h.openRom "halt.gb" hload
  obtain ⟨started, hstarted, hwatched', hcore', hidle', hphase, hlog'⟩ := hwatched.start hloaded
  obtain ⟨outcome, hran, hready, hframe⟩ := hhalts.runCycles
    (show frameCycleBudget = 4 + 4 * 17555 from rfl)
  obtain ⟨f, hpending⟩ := Ppu.exists_pendingFrame
  have hbudget : frameCycleBudget = Ppu.dotsPerFrame := rfl
  rw [← hbudget] at hpending
  rw [hpending] at hframe
  rw [hframe] at hready
  obtain ⟨hwatched'', hdelivery, hlog''⟩ := hwatched'.runTick (hidle'.trans hidle)
    (hcore'.trans hcore) hran hready hframe
  have hreach : Reachable (workerSystem M) started := by
    have hopen : Reachable (workerSystem M) opened :=
      hr.step (i := .command (.openRom _ _ _ _) 0) ⟨trivial, hopened⟩
    exact hopen.step (i := .command .start 0) ⟨trivial, hstarted⟩
  refine ⟨started.runTick, f, hreach.step (i := .tick) ⟨hphase, rfl⟩, hwatched'', hdelivery, ?_,
    hpending⟩
  rw [hlog'', hlog', hlog]

theorem exists_watched : ∃ r : Runtime M, Reachable (workerSystem M) r ∧ Watched r ∧
    r.frameLog = [.cleared] := by
  have hstart : Reachable (workerSystem M) (initial : Runtime M) := .start rfl
  exact ⟨_, hstart.step (i := .command (.subscribe ⟨fun _ => .ok (), 0⟩) 0) ⟨trivial, rfl⟩,
    ⟨⟨⟨fun _ => .ok (), 1⟩, rfl, fun _ => rfl⟩, rfl⟩, rfl⟩

/-- The acknowledgement that carries the number in flight. -/
theorem acknowledgeFrame_log {r : Runtime M} {sequence : Nat}
    (h : r.delivery = ⟨some sequence, none⟩) (index : Nat) :
    (r.acknowledgeFrame sequence index).2.frameLog = r.frameLog ++ [.acknowledged index true] := by
  rw [acknowledgeFrame, h]
  simp only [FrameQueue.acknowledge, ne_eq, not_true_eq_false, if_false]
  rfl

/-! ## The frame an acknowledgement is for -/

/-- **What an accepted acknowledgement refers to.**  In every run of the worker an
acknowledgement that is accepted refers to the very frame in flight if the core has not
begun to number its frames again since that frame was published.  In a run in which this
holds of all accepted acknowledgements, one frame at most of those published since the
queue was last cleared is unacknowledged at any time. -/
theorem frame_acknowledgement {r : Runtime M} (h : Reachable (workerSystem M) r) :
    r.delivery.inFlightSequence =
      (FrameWindow.after r.frameLog).inFlight.bind (FrameWindow.after r.frameLog).number ∧
    (∀ past index future, r.frameLog = past ++ .acknowledged index true :: future →
      (FrameWindow.after past).numberedFrom ≤ index →
      (FrameWindow.after past).inFlight = some index) ∧
    (∀ past future, r.frameLog = past ++ future →
      (∀ before index after, past = before ++ .acknowledged index true :: after →
        (FrameWindow.after before).numberedFrom ≤ index) →
      (FrameWindow.after past).awaited.length ≤ 1) := by
  obtain ⟨n, hdelivers⟩ := delivering_of_reachable h
  have hlawful := hdelivers.lawful
  refine ⟨hdelivers.sequence, ?_, ?_⟩
  · intro past index future hlog hcurrent
    obtain ⟨-, hlaw⟩ := hlawful past _ future hlog
    exact (hlaw hcurrent).mp rfl
  · intro past future hlog hcurrent
    refine FrameWindow.awaited_length_le_one ?_
    intro before e after hpast
    have hlaw : Lawful before e := by
      refine hlawful before e (after ++ future) ?_
      rw [hlog, hpast, List.append_assoc, List.cons_append]
    cases e with
    | published frame => exact hlaw
    | acknowledged index accepted =>
      cases accepted with
      | false => trivial
      | true => exact (hlaw.2 (hcurrent before index after hpast)).mp rfl
    | cleared => trivial
    | renumbered => trivial

/-- The first frame of a core is acknowledged while it is in flight. -/
theorem frame_acknowledgement_firstFrame : ∃ r : Runtime .mute, Reachable (workerSystem .mute) r ∧
    ∃ past, r.frameLog = past ++ [.acknowledged 0 true] ∧
      (FrameWindow.after past).inFlight = some 0 ∧
      (FrameWindow.after past).awaited.length ≤ 1 := by
  obtain ⟨r₀, hr₀, hwatched, hlog₀⟩ := exists_watched (M := .mute)
  obtain ⟨s, f, hs, -, hdelivery, hlog, -⟩ := exists_played hr₀ hwatched
  have hwhole : s.frameLog = [.cleared, .cleared, .renumbered, .published f] := by
    rw [hlog, hlog₀]
    rfl
  have hgenuine : (FrameWindow.after s.frameLog).number 0 = some f.sequence := by
    rw [hwhole]
    rfl
  have hfrom : (FrameWindow.after s.frameLog).numberedFrom ≤ 0 := by
    rw [hwhole]
    exact Nat.le_refl 0
  have hnone : ∀ before index after, s.frameLog ≠ before ++ .acknowledged index true :: after := by
    intro before index after heq
    have hmem : FrameEvent.acknowledged index true ∈ s.frameLog := by
      rw [heq]
      exact List.mem_append_right _ List.mem_cons_self
    rw [hwhole] at hmem
    simp at hmem
  have hreach : Reachable (workerSystem .mute)
      (s.handleCommand (.acknowledgeFrame f.sequence 0) 0).2 :=
    hs.step (i := .command (.acknowledgeFrame f.sequence 0) 0) ⟨hgenuine, rfl⟩
  have hlast := acknowledgeFrame_log hdelivery 0
  obtain ⟨-, hflight, hawaited⟩ := frame_acknowledgement hreach
  exact ⟨_, hreach, s.frameLog, hlast, hflight s.frameLog 0 [] hlast hfrom,
    hawaited s.frameLog [_] hlast fun before index after heq =>
      absurd heq (hnone before index after)⟩

/-- **A late acknowledgement.**  The first frame is published, another image is opened and
its first frame, with the same number, is published: two frames are unacknowledged.  The
acknowledgement of the first one comes now, while the second one is in flight, and is
accepted. -/
theorem late_acknowledgement : ∃ r : Runtime .mute, Reachable (workerSystem .mute) r ∧
    ∃ past, r.frameLog = past ++ [.acknowledged 0 true] ∧
      (FrameWindow.after past).inFlight = some 1 ∧
      (FrameWindow.after past).unacknowledged = [0, 1] := by
  obtain ⟨r₀, hr₀, hwatched, hlog₀⟩ := exists_watched (M := .mute)
  obtain ⟨r, f, hr, hwatch, -, hlog, hframe⟩ := exists_played hr₀ hwatched
  obtain ⟨s, f', hs, -, hdelivery, hlog', hframe'⟩ := exists_played hr hwatch
  obtain rfl : f = f' := Option.some.inj (hframe.symm.trans hframe')
  have hwhole : s.frameLog = [.cleared, .cleared, .renumbered, .published f, .cleared,
      .renumbered, .published f] := by
    rw [hlog', hlog, hlog₀]
    rfl
  have hgenuine : (FrameWindow.after s.frameLog).number 0 = some f.sequence := by
    rw [hwhole]
    rfl
  refine ⟨_, hs.step (i := .command (.acknowledgeFrame f.sequence 0) 0) ⟨hgenuine, rfl⟩,
    s.frameLog, acknowledgeFrame_log hdelivery 0, ?_, ?_⟩
  · rw [hwhole]
    rfl
  · rw [hwhole]
    rfl

end Runtime

end Pockiva
