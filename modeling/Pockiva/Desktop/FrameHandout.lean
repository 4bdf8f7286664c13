import Mathlib.Data.List.Induction
import Pockiva.Desktop.FrameQueue

/-! # The frames the queue hands out

A frame is handed out when it is offered while none is in flight, or when the frame before
it is acknowledged.  `frame_handout` states what any calls on the queue hand out: frames
are dropped for newer ones only, and the newest one is never dropped.
-/
namespace Pockiva
namespace FrameQueue

inductive Op where
  | offer (frame : Frame)
  | acknowledge (sequence : Nat)
  | clear

/-- The queue, the frames it handed out, oldest first, and the numbers of those that are not
acknowledged. -/
structure Handouts where
  queue : FrameQueue
  frames : List Frame
  awaited : List Nat

namespace Handouts

def initial : Handouts := ⟨.empty, [], []⟩

/-- A frame that a call returns is handed out. -/
def handOut (h : Handouts) (frame : Option Frame) : Handouts :=
  { h with
    frames := h.frames ++ frame.toList
    awaited := h.awaited ++ (frame.map Frame.sequence).toList }

def step (h : Handouts) : Op → Handouts
  | .offer frame =>
    let offered := h.queue.offer frame
    { h with queue := offered.2 }.handOut offered.1
  | .acknowledge sequence =>
    let acknowledged := h.queue.acknowledge sequence
    match acknowledged.1 with
    | .ok next =>
      { h with
        queue := acknowledged.2
        awaited := h.awaited.filter fun awaited => awaited != sequence }.handOut next
    | .error _ => { h with queue := acknowledged.2 }
  | .clear => { h with queue := h.queue.clear, awaited := [] }

end Handouts

/-- What calls on a new queue come to. -/
def handouts (ops : List Op) : Handouts := ops.foldl Handouts.step .initial

/-- The frames that calls offer. -/
def offered (ops : List Op) : List Frame :=
  ops.filterMap fun
    | .offer frame => some frame
    | .acknowledge _ | .clear => none

/-- The frames offered since the last `clear`. -/
def offeredSince (ops : List Op) : List Frame :=
  ops.foldl (fun frames op =>
    match op with
    | .offer frame => frames ++ [frame]
    | .acknowledge _ => frames
    | .clear => []) []

/-- Frames are numbered in increasing order. -/
def Increasing (frames : List Frame) : Prop :=
  frames.Pairwise fun f g => f.sequence < g.sequence

theorem handouts_snoc (ops : List Op) (op : Op) :
    handouts (ops ++ [op]) = (handouts ops).step op := List.foldl_concat ..

theorem offered_snoc (ops : List Op) (op : Op) :
    offered (ops ++ [op]) = offered ops ++ offered [op] := List.filterMap_append

theorem offeredSince_offer (ops : List Op) (frame : Frame) :
    offeredSince (ops ++ [.offer frame]) = offeredSince ops ++ [frame] := List.foldl_concat ..

theorem offeredSince_acknowledge (ops : List Op) (sequence : Nat) :
    offeredSince (ops ++ [.acknowledge sequence]) = offeredSince ops := List.foldl_concat ..

theorem offeredSince_clear (ops : List Op) : offeredSince (ops ++ [.clear]) = [] :=
  List.foldl_concat ..

/-- What was offered since the last `clear` was offered. -/
theorem offeredSince_suffix (ops : List Op) : offeredSince ops <:+ offered ops := by
  induction ops using List.reverseRecOn with
  | nil => exact List.suffix_rfl
  | append_singleton ops op ih =>
    rw [offered_snoc]
    cases op with
    | offer frame =>
      rw [offeredSince_offer]
      obtain ⟨before, hbefore⟩ := ih
      exact ⟨before, by rw [← hbefore, List.append_assoc]; rfl⟩
    | acknowledge sequence =>
      rw [offeredSince_acknowledge]
      exact ih.trans (List.append_nil _ ▸ List.suffix_rfl)
    | clear =>
      rw [offeredSince_clear]
      exact List.nil_suffix

/-! ## The invariant -/

/-- What holds of a queue that was offered `all` frames, `since` the last `clear` the last of
them. -/
structure Handing (all since : List Frame) (h : Handouts) : Prop where
  offered : ∀ f ∈ h.frames, f ∈ all
  increasing : Increasing h.frames
  idle : h.queue.inFlightSequence = none → h.queue.latestPending = none
  /-- The frame that waits is newer than those that were handed out. -/
  newer : ∀ f, h.queue.latestPending = some f →
    f ∈ all ∧ ∀ g ∈ h.frames, g.sequence < f.sequence
  awaited : h.awaited = h.queue.inFlightSequence.toList
  superseded : ∀ f ∈ since, f ∈ h.frames ∨ h.queue.latestPending = some f ∨
    ∃ g ∈ since, f.sequence < g.sequence

namespace Handing
variable {all since : List Frame} {h : Handouts}

theorem initial : Handing [] [] .initial where
  offered _ hf := absurd hf List.not_mem_nil
  increasing := List.Pairwise.nil
  idle _ := rfl
  newer _ hf := nomatch hf
  awaited := rfl
  superseded _ hf := absurd hf List.not_mem_nil

/-- A frame that is newer can be handed out. -/
theorem increasing_snoc (hh : Handing all since h) {frame : Frame}
    (hnewer : ∀ g ∈ h.frames, g.sequence < frame.sequence) : Increasing (h.frames ++ [frame]) := by
  refine List.pairwise_append.mpr ⟨hh.increasing, List.pairwise_singleton _ _, ?_⟩
  intro g hg f hf
  rw [List.mem_singleton.mp hf]
  exact hnewer g hg

/-- **Offering the newest frame.** -/
theorem offer (hh : Handing all since h) {frame : Frame}
    (hnew : ∀ g ∈ all, g.sequence < frame.sequence) :
    Handing (all ++ [frame]) (since ++ [frame]) (h.step (.offer frame)) := by
  have hlast : frame ∈ all ++ [frame] := List.mem_append_right _ List.mem_cons_self
  have hnewer : ∀ g ∈ h.frames, g.sequence < frame.sequence := fun g hg => hnew g (hh.offered g hg)
  cases hflight : h.queue.inFlightSequence with
  | none =>
    have hpending := hh.idle hflight
    have hstep : h.step (.offer frame) =
        ⟨⟨some frame.sequence, h.queue.latestPending⟩, h.frames ++ [frame],
          h.awaited ++ [frame.sequence]⟩ := by
      rw [Handouts.step, FrameQueue.offer, hflight]
      rfl
    rw [hstep]
    refine ⟨?_, hh.increasing_snoc hnewer, nofun, ?_, ?_, ?_⟩
    · intro f hf
      rcases List.mem_append.mp hf with hold | hframe
      · exact List.mem_append_left _ (hh.offered f hold)
      · exact List.mem_append_right _ hframe
    · intro f hf
      cases hpending.symm.trans hf
    · show h.awaited ++ [frame.sequence] = [frame.sequence]
      rw [hh.awaited, hflight]
      rfl
    · intro f hf
      rcases List.mem_append.mp hf with hold | hframe
      · rcases hh.superseded f hold with hout | hwaits | ⟨g, hg, hlater⟩
        · exact .inl (List.mem_append_left _ hout)
        · exact .inr (.inl hwaits)
        · exact .inr (.inr ⟨g, List.mem_append_left _ hg, hlater⟩)
      · exact .inl (List.mem_append_right _ hframe)
  | some sequence =>
    have hstep : h.step (.offer frame) =
        ⟨⟨some sequence, some frame⟩, h.frames, h.awaited⟩ := by
      rw [Handouts.step, FrameQueue.offer, hflight]
      show Handouts.mk _ (h.frames ++ []) (h.awaited ++ []) = _
      rw [List.append_nil, List.append_nil]
      rfl
    rw [hstep]
    refine ⟨fun f hf => List.mem_append_left _ (hh.offered f hf), hh.increasing, nofun, ?_, ?_, ?_⟩
    · intro f hf
      obtain rfl := Option.some.inj hf
      exact ⟨hlast, hnewer⟩
    · show h.awaited = [sequence]
      rw [hh.awaited, hflight]
      rfl
    · intro f hf
      rcases List.mem_append.mp hf with hold | hframe
      · rcases hh.superseded f hold with hout | hwaits | ⟨g, hg, hlater⟩
        · exact .inl hout
        · -- The frame that waited gives way to the new one.
          exact .inr (.inr ⟨frame, List.mem_append_right _ List.mem_cons_self,
            hnew f (hh.newer f hwaits).1⟩)
        · exact .inr (.inr ⟨g, List.mem_append_left _ hg, hlater⟩)
      · exact .inr (.inl (congrArg some (List.mem_singleton.mp hframe).symm))

/-- **An acknowledgement**: the frame that waits goes out. -/
theorem acknowledge (hh : Handing all since h) (sequence : Nat) :
    Handing all since (h.step (.acknowledge sequence)) := by
  by_cases hflight : h.queue.inFlightSequence = some sequence
  · have hstep : h.step (.acknowledge sequence) =
        ⟨⟨h.queue.latestPending.map Frame.sequence, none⟩,
          h.frames ++ h.queue.latestPending.toList,
          h.queue.latestPending.toList.map Frame.sequence⟩ := by
      have hnone : h.awaited.filter (fun awaited => awaited != sequence) = [] := by
        rw [hh.awaited, hflight]
        simp
      rw [Handouts.step, FrameQueue.acknowledge, if_neg (not_not.mpr hflight)]
      dsimp only [Handouts.handOut]
      rw [hnone, List.nil_append]
      cases h.queue.latestPending <;> rfl
    rw [hstep]
    cases hpending : h.queue.latestPending with
    | none =>
      rw [Option.toList_none, List.append_nil]
      refine ⟨hh.offered, hh.increasing, fun _ => rfl, nofun, rfl, ?_⟩
      intro f hf
      rcases hh.superseded f hf with hout | hwaits | hlater
      · exact .inl hout
      · cases hpending.symm.trans hwaits
      · exact .inr (.inr hlater)
    | some frame =>
      obtain ⟨hoffered, hnewer⟩ := hh.newer frame hpending
      refine ⟨?_, hh.increasing_snoc hnewer, nofun, nofun, rfl, ?_⟩
      · intro f hf
        rcases List.mem_append.mp hf with hold | hframe
        · exact hh.offered f hold
        · rw [List.mem_singleton.mp hframe]
          exact hoffered
      · intro f hf
        rcases hh.superseded f hf with hout | hwaits | hlater
        · exact .inl (List.mem_append_left _ hout)
        · obtain rfl := Option.some.inj (hpending.symm.trans hwaits)
          exact .inl (List.mem_append_right _ List.mem_cons_self)
        · exact .inr (.inr hlater)
  · have hstep : h.step (.acknowledge sequence) = h := by
      rw [Handouts.step, FrameQueue.acknowledge, if_pos hflight]
    rw [hstep]
    exact hh

theorem clear (hh : Handing all since h) : Handing all [] (h.step .clear) where
  offered := hh.offered
  increasing := hh.increasing
  idle _ := rfl
  newer _ hf := nomatch hf
  awaited := rfl
  superseded _ hf := absurd hf List.not_mem_nil

end Handing

/-- Calls that offer frames in order keep the invariant. -/
theorem handing {ops : List Op} (h : Increasing (offered ops)) :
    Handing (offered ops) (offeredSince ops) (handouts ops) := by
  induction ops using List.reverseRecOn with
  | nil => exact .initial
  | append_singleton ops op ih =>
    rw [offered_snoc] at h
    obtain ⟨hbefore, -, hnew⟩ := List.pairwise_append.mp h
    have hh := ih hbefore
    rw [offered_snoc, handouts_snoc]
    cases op with
    | offer frame =>
      rw [offeredSince_offer]
      exact hh.offer fun g hg => hnew g hg frame List.mem_cons_self
    | acknowledge sequence =>
      rw [offeredSince_acknowledge]
      exact (List.append_nil (offered ops)).symm ▸ hh.acknowledge sequence
    | clear =>
      rw [offeredSince_clear]
      exact (List.append_nil (offered ops)).symm ▸ hh.clear

/-! ## The law -/

/-- What becomes of the frames that calls offer. -/
structure HandoutLaw (ops : List Op) : Prop where
  offered : ∀ f ∈ (handouts ops).frames, f ∈ offered ops
  /-- So none is handed out twice. -/
  increasing : Increasing (handouts ops).frames
  /-- One frame at most is in flight: it was handed out and neither acknowledged nor cleared. -/
  inFlight : (handouts ops).awaited = (handouts ops).queue.inFlightSequence.toList
  /-- The frame that waits is newer than those that were handed out. -/
  pending : ∀ f, (handouts ops).queue.latestPending = some f → f ∈ FrameQueue.offered ops ∧
    ∀ g ∈ (handouts ops).frames, g.sequence < f.sequence
  acknowledged : ∀ sequence,
    (((handouts ops).queue.acknowledge sequence).1.isOk = true ↔
      (handouts ops).queue.inFlightSequence = some sequence) ∧
    (((handouts ops).queue.acknowledge sequence).1.isOk = false →
      ((handouts ops).queue.acknowledge sequence).2 = (handouts ops).queue)
  /-- A frame is dropped for a newer one only. -/
  superseded : ∀ f ∈ offeredSince ops, f ∈ (handouts ops).frames ∨
    (handouts ops).queue.latestPending = some f ∨
      ∃ g ∈ offeredSince ops, f.sequence < g.sequence
  newest : (handouts ops).queue.inFlightSequence = none →
    ∀ f, (offeredSince ops).getLast? = some f → f ∈ (handouts ops).frames

/-- **Main result.**  Frames offered in order are handed out in order, each once, one at a
time, and whenever none is in flight the newest one has been handed out. -/
theorem frame_handout {ops : List Op} (h : Increasing (offered ops)) : HandoutLaw ops := by
  have hh := handing h
  constructor
  case offered => exact hh.offered
  case increasing => exact hh.increasing
  case inFlight => exact hh.awaited
  case pending => exact hh.newer
  case acknowledged =>
    intro sequence
    unfold FrameQueue.acknowledge
    by_cases hflight : (handouts ops).queue.inFlightSequence = some sequence
    · rw [if_neg (not_not.mpr hflight)]
      exact ⟨iff_of_true rfl hflight, nofun⟩
    · rw [if_pos hflight]
      exact ⟨iff_of_false nofun hflight, fun _ => rfl⟩
  case superseded => exact hh.superseded
  case newest =>
    intro hidle f hlast
    have hmem := List.mem_of_getLast? hlast
    rcases hh.superseded f hmem with hout | hwaits | ⟨g, hg, hlater⟩
    · exact hout
    · cases (hh.idle hidle).symm.trans hwaits
    · -- The last frame is the newest.
      obtain ⟨before, hsince⟩ := List.getLast?_eq_some_iff.mp hlast
      have hordered : Increasing (offeredSince ops) := h.sublist (offeredSince_suffix ops).sublist
      rw [hsince] at hg hordered
      rcases List.mem_append.mp hg with hbefore | hsame
      · have hle := (List.pairwise_append.mp hordered).2.2 g hbefore f List.mem_cons_self
        omega
      · rw [List.mem_singleton.mp hsame] at hlater
        exact absurd hlater (Nat.lt_irrefl _)

/-- Three frames: the first is in flight, the second gives way to the third. -/
theorem frame_handout_coalesced :
    HandoutLaw [.offer ⟨1, .filled _ 0⟩, .offer ⟨2, .filled _ 0⟩, .offer ⟨3, .filled _ 0⟩,
      .acknowledge 1] := by
  refine frame_handout ?_
  simp [Increasing, offered]

end FrameQueue
end Pockiva
