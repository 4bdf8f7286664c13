import Pockiva.Desktop.FrameQueue
import Pockiva.Lib.Transition

/-! # Frames from the queue to the screen

The worker's queue hands a frame to the page and waits for its acknowledgement.  The page
draws a frame when the browser is ready for one, and acknowledges it then; it may be gone by
that time, and the worker may have cleared its queue.  `frame_presentation` states that, for
as long as one core numbers its frames, frames are shown in their order, one at a time, and
no acknowledgement is taken for that of another frame or refused to the frame in flight.
-/
namespace Pockiva

open Transition

/-! ## The canvas -/

/-- What `FrameCanvas` keeps. -/
structure FrameCanvas where
  /-- The effect has subscribed. -/
  subscribed : Bool
  pendingFrame : Option Frame
  /-- An animation frame is requested. -/
  animationFrame : Bool

namespace FrameCanvas

def initial : FrameCanvas := ⟨false, none, false⟩

/-- The effect runs. -/
def subscribe (c : FrameCanvas) : FrameCanvas := { c with subscribed := true }

/-- Its cleanup: the request is cancelled. -/
def unsubscribe (_ : FrameCanvas) : FrameCanvas := ⟨false, none, false⟩

/-- The consumer of the frames. -/
def consume (c : FrameCanvas) (frame : Frame) : FrameCanvas :=
  { c with pendingFrame := some frame, animationFrame := true }

/-- `draw`, with the frame that is drawn and acknowledged. -/
def draw (c : FrameCanvas) (context : Bool) : Option Frame × FrameCanvas :=
  (if context then c.pendingFrame else none,
    { c with pendingFrame := none, animationFrame := false })

end FrameCanvas

/-! ## The way of the frames -/

/-- The queue of the worker, the page, and what is on its way between them. -/
structure Presentation where
  queue : FrameQueue
  /-- The frames on their way to the page, oldest first. -/
  channel : List Frame
  canvas : FrameCanvas
  /-- The acknowledgements on their way to the worker. -/
  acknowledgements : List Nat
  /-- The number of the last frame of the core. -/
  last : Nat
  /-- Not in the source: the frames that were drawn, those that came to a page without a
  canvas or were given up with it, and `last` when the queue was last cleared. -/
  drawn : List Nat
  lost : List Nat
  cleared : Nat

inductive PresentationEvent where
  /-- The core has a new frame. -/
  | offer (frame : Frame)
  | clear
  /-- A frame arrives at the page. -/
  | arrive
  /-- The browser is ready for a frame; the canvas may have no context. -/
  | animate (context : Bool)
  /-- One of the acknowledgements arrives at the worker. -/
  | acknowledge (index : Nat)
  | subscribe
  | unsubscribe

namespace Presentation

def initial : Presentation where
  queue := .empty
  channel := []
  canvas := .initial
  acknowledgements := []
  last := 0
  drawn := []
  lost := []
  cleared := 0

/-- The number of a frame, if there is one. -/
def numbers (frame : Option Frame) : List Nat := (frame.map Frame.sequence).toList

def offer (p : Presentation) (frame : Frame) : Presentation :=
  let offered := p.queue.offer frame
  { p with
    queue := offered.2
    channel := p.channel ++ offered.1.toList
    last := frame.sequence }

/-- A frame that cannot be published leaves the queue in this state, too. -/
def clear (p : Presentation) : Presentation :=
  { p with queue := p.queue.clear, cleared := p.last }

/-- A frame takes the place of one that was not drawn yet. -/
def arrive (p : Presentation) (frame : Frame) (rest : List Frame) : Presentation :=
  if p.canvas.subscribed then { p with channel := rest, canvas := p.canvas.consume frame }
  else { p with channel := rest, lost := p.lost ++ [frame.sequence] }

def animate (p : Presentation) (context : Bool) : Presentation :=
  let drawn := p.canvas.draw context
  { p with
    canvas := drawn.2
    acknowledgements := p.acknowledgements ++ numbers drawn.1
    drawn := p.drawn ++ numbers drawn.1
    lost := if context then p.lost else p.lost ++ numbers p.canvas.pendingFrame }

def acknowledge (p : Presentation) (index sequence : Nat) : Presentation :=
  let p := { p with acknowledgements := p.acknowledgements.eraseIdx index }
  let acknowledged := p.queue.acknowledge sequence
  match acknowledged.1 with
  | .error .notInFlight => p
  | .ok next => { p with queue := acknowledged.2, channel := p.channel ++ next.toList }

def unsubscribe (p : Presentation) : Presentation :=
  { p with
    canvas := p.canvas.unsubscribe
    lost := p.lost ++ numbers p.canvas.pendingFrame }

/-- The state after an event, if the event can come.  A core numbers its frames upwards. -/
def step (p : Presentation) : PresentationEvent → Option Presentation
  | .offer frame => if p.last < frame.sequence then some (p.offer frame) else none
  | .clear => some p.clear
  | .arrive => match p.channel with
    | frame :: rest => some (p.arrive frame rest)
    | [] => none
  | .animate context => if p.canvas.animationFrame then some (p.animate context) else none
  | .acknowledge index => p.acknowledgements[index]?.map (p.acknowledge index)
  | .subscribe =>
    if p.canvas.subscribed then none else some { p with canvas := p.canvas.subscribe }
  | .unsubscribe => if p.canvas.subscribed then some p.unsubscribe else none

def system : System Presentation PresentationEvent where
  start p := p = initial
  step p event q := p.step event = some q

/-! ## The invariant -/

variable {p q : Presentation}

/-- The numbers of the frames that were handed out, in their order, but for those that got
lost. -/
def way (p : Presentation) : List Nat :=
  p.drawn ++ numbers p.canvas.pendingFrame ++ p.channel.map Frame.sequence

/-- The numbers of the frames that are on their way, there or back. -/
def underWay (p : Presentation) : List Nat :=
  p.acknowledgements ++ numbers p.canvas.pendingFrame ++ p.channel.map Frame.sequence

/-- The frames are on their way in their order, and the queue knows which is the last. -/
structure Orderly (p : Presentation) : Prop where
  increasing : p.way.Pairwise (· < ·)
  bounded : ∀ s ∈ p.way, s ≤ p.last
  cleared_le : p.cleared ≤ p.last
  idle : p.queue.inFlightSequence = none → p.queue.latestPending = none
  inFlight : ∀ s, p.queue.inFlightSequence = some s →
    p.cleared < s ∧ s ≤ p.last ∧ ∀ t ∈ p.way, t ≤ s
  waiting : ∀ f, p.queue.latestPending = some f →
    p.cleared < f.sequence ∧ f.sequence ≤ p.last ∧ ∀ t ∈ p.way, t < f.sequence
  newest : p.cleared < p.last → p.queue.latestPending.map Frame.sequence = some p.last ∨
    p.queue.latestPending = none ∧ p.queue.inFlightSequence = some p.last ∨
    p.queue.inFlightSequence = none ∧ p.last ∈ p.drawn
  drawn : ∀ s ∈ p.acknowledgements, s ∈ p.drawn
  nodup : p.acknowledgements.Nodup
  live : ∀ s ∈ p.underWay, s ≤ p.cleared ∨ p.queue.inFlightSequence = some s
  placed : ∀ s, p.queue.inFlightSequence = some s → s ∈ p.lost ∨ s ∈ p.underWay
  scheduled : p.canvas.pendingFrame.isSome = true →
    p.canvas.subscribed = true ∧ p.canvas.animationFrame = true

namespace Orderly

theorem initial : Presentation.initial.Orderly where
  increasing := .nil
  bounded := nofun
  cleared_le := Nat.le_refl _
  idle _ := rfl
  inFlight := nofun
  waiting := nofun
  newest := nofun
  drawn := nofun
  nodup := .nil
  live := nofun
  placed := nofun
  scheduled := nofun

theorem mem_way_of_underWay (h : p.Orderly) {s : Nat} (hs : s ∈ p.underWay) : s ∈ p.way := by
  simp only [underWay, way, List.mem_append] at hs ⊢
  rcases hs with (hack | hpending) | hchannel
  · exact .inl (.inl (h.drawn s hack))
  · exact .inl (.inr hpending)
  · exact .inr hchannel

/-- The queue is left alone: frames move on, or get lost. -/
theorem passed (h : p.Orderly) (hqueue : q.queue = p.queue) (hlast : q.last = p.last)
    (hcleared : q.cleared = p.cleared) (hway : q.way.Sublist p.way)
    (hunder : ∀ s ∈ q.underWay, s ∈ p.underWay)
    (hplaced : ∀ s, s ∈ p.lost ∨ s ∈ p.underWay → p.queue.inFlightSequence = some s →
      s ∈ q.lost ∨ s ∈ q.underWay)
    (hmore : ∀ s ∈ p.drawn, s ∈ q.drawn)
    (hdrawn : ∀ s ∈ q.acknowledgements, s ∈ q.drawn) (hnodup : q.acknowledgements.Nodup)
    (hscheduled : q.canvas.pendingFrame.isSome = true →
      q.canvas.subscribed = true ∧ q.canvas.animationFrame = true) : q.Orderly where
  increasing := h.increasing.sublist hway
  bounded s hs := by
    rw [hlast]
    exact h.bounded s (hway.subset hs)
  cleared_le := by
    rw [hlast, hcleared]
    exact h.cleared_le
  idle := by
    rw [hqueue]
    exact h.idle
  inFlight s hs := by
    rw [hqueue] at hs
    obtain ⟨hafter, hle, hnewest⟩ := h.inFlight s hs
    rw [hlast, hcleared]
    exact ⟨hafter, hle, fun t ht => hnewest t (hway.subset ht)⟩
  waiting f hf := by
    rw [hqueue] at hf
    obtain ⟨hafter, hle, hnewer⟩ := h.waiting f hf
    rw [hlast, hcleared]
    exact ⟨hafter, hle, fun t ht => hnewer t (hway.subset ht)⟩
  newest hafter := by
    rw [hlast, hcleared] at hafter
    rw [hqueue, hlast]
    exact (h.newest hafter).imp_right (.imp_right (.imp_right (hmore _)))
  drawn := hdrawn
  nodup := hnodup
  live s hs := by
    rw [hqueue, hcleared]
    exact h.live s (hunder s hs)
  placed s hs := by
    rw [hqueue] at hs
    exact hplaced s (h.placed s hs) hs
  scheduled := hscheduled

/-- A frame is handed out that is newer than all others, when all of those are stale. -/
theorem handOut (h : p.Orderly) {frame : Frame} {acks : List Nat} {last : Nat}
    (hnew : ∀ t ∈ p.way, t < frame.sequence) (hafter : p.cleared < frame.sequence)
    (hsequence : frame.sequence = last) (hlast : p.last ≤ last)
    (hacks : acks.Sublist p.acknowledgements)
    (hstale : ∀ s ∈ acks ++ numbers p.canvas.pendingFrame ++ p.channel.map Frame.sequence,
      s ≤ p.cleared) :
    { p with
      queue := ⟨some frame.sequence, none⟩
      channel := p.channel ++ [frame]
      acknowledgements := acks
      last := last }.Orderly := by
  subst hsequence
  have hway : p.drawn ++ numbers p.canvas.pendingFrame ++ (p.channel ++ [frame]).map
      Frame.sequence = p.way ++ [frame.sequence] := by
    simp [way]
  have hunder : acks ++ numbers p.canvas.pendingFrame ++ (p.channel ++ [frame]).map
      Frame.sequence =
        acks ++ numbers p.canvas.pendingFrame ++ p.channel.map Frame.sequence ++
          [frame.sequence] := by
    simp
  constructor
  case increasing =>
    change (_ ++ _ ++ _ : List Nat).Pairwise _
    rw [hway]
    refine List.pairwise_append.mpr
      ⟨h.increasing, List.pairwise_singleton _ _, fun t ht s hs => ?_⟩
    rw [List.mem_singleton.mp hs]
    exact hnew t ht
  case bounded =>
    intro s hs
    change s ∈ _ ++ _ ++ _ at hs
    rw [hway] at hs
    rcases List.mem_append.mp hs with hold | hframe
    · exact Nat.le_trans (h.bounded s hold) hlast
    · exact Nat.le_of_eq (List.mem_singleton.mp hframe)
  case cleared_le => exact Nat.le_trans h.cleared_le hlast
  case idle => exact fun _ => rfl
  case inFlight =>
    rintro s ⟨⟩
    refine ⟨hafter, Nat.le_refl _, fun t ht => ?_⟩
    change t ∈ _ ++ _ ++ _ at ht
    rw [hway] at ht
    rcases List.mem_append.mp ht with hold | hframe
    · exact Nat.le_of_lt (hnew t hold)
    · exact Nat.le_of_eq (List.mem_singleton.mp hframe)
  case waiting => exact nofun
  case newest => exact fun _ => .inr (.inl ⟨rfl, rfl⟩)
  case drawn => exact fun s hs => h.drawn s (hacks.subset hs)
  case nodup => exact h.nodup.sublist hacks
  case live =>
    intro s hs
    change s ∈ _ ++ _ ++ _ at hs
    rw [hunder] at hs
    rcases List.mem_append.mp hs with hold | hframe
    · exact .inl (hstale s hold)
    · exact .inr (congrArg some (List.mem_singleton.mp hframe).symm)
  case placed =>
    rintro s ⟨⟩
    refine .inr ?_
    change _ ∈ _ ++ _ ++ _
    rw [hunder]
    exact List.mem_append_right _ (List.mem_singleton_self _)
  case scheduled => exact h.scheduled

/-! ## Events -/

theorem offer (h : p.Orderly) {frame : Frame} (hnew : p.last < frame.sequence) :
    (p.offer frame).Orderly := by
  have hnewer : ∀ t ∈ p.way, t < frame.sequence := fun t ht =>
    Nat.lt_of_le_of_lt (h.bounded t ht) hnew
  have hafter := Nat.lt_of_le_of_lt h.cleared_le hnew
  cases hflight : p.queue.inFlightSequence with
  | none =>
    have hoffer : p.offer frame = { p with
        queue := ⟨some frame.sequence, none⟩
        channel := p.channel ++ [frame]
        acknowledgements := p.acknowledgements
        last := frame.sequence } := by
      simp [Presentation.offer, FrameQueue.offer, hflight, h.idle hflight]
    rw [hoffer]
    refine h.handOut hnewer hafter rfl (Nat.le_of_lt hnew) (.refl _) fun s hs => ?_
    rcases h.live s hs with hstale | hlive
    · exact hstale
    · cases hflight.symm.trans hlive
  | some s =>
    have hoffer : p.offer frame = { p with
        queue := ⟨some s, some frame⟩
        last := frame.sequence } := by
      simp [Presentation.offer, FrameQueue.offer, hflight]
    obtain ⟨hlive, hle, hnewest⟩ := h.inFlight s hflight
    rw [hoffer]
    refine ⟨h.increasing, ?_, ?_, nofun, ?_, ?_, fun _ => .inl rfl, h.drawn, h.nodup, ?_, ?_,
      h.scheduled⟩
    · exact fun t ht => Nat.le_of_lt (hnewer t ht)
    · exact Nat.le_of_lt hafter
    · rintro t ⟨⟩
      exact ⟨hlive, Nat.le_trans hle (Nat.le_of_lt hnew), hnewest⟩
    · rintro f ⟨⟩
      exact ⟨hafter, Nat.le_refl _, hnewer⟩
    · rw [← hflight]
      exact h.live
    · rw [← hflight]
      exact h.placed

theorem clear (h : p.Orderly) : p.clear.Orderly where
  increasing := h.increasing
  bounded := h.bounded
  cleared_le := Nat.le_refl _
  idle _ := rfl
  inFlight := nofun
  waiting := nofun
  newest hafter := absurd hafter (Nat.lt_irrefl _)
  drawn := h.drawn
  nodup := h.nodup
  live s hs := .inl (h.bounded s (h.mem_way_of_underWay hs))
  placed := nofun
  scheduled := h.scheduled

theorem arrive (h : p.Orderly) {frame : Frame} {rest : List Frame}
    (hchannel : p.channel = frame :: rest) : (p.arrive frame rest).Orderly := by
  have hway : p.way = p.drawn ++ numbers p.canvas.pendingFrame ++
      frame.sequence :: rest.map Frame.sequence := by
    simp [way, hchannel]
  have hunder : p.underWay = p.acknowledgements ++ numbers p.canvas.pendingFrame ++
      frame.sequence :: rest.map Frame.sequence := by
    simp [underWay, hchannel]
  cases hsubscribed : p.canvas.subscribed with
  | true =>
    rw [Presentation.arrive, if_pos hsubscribed]
    refine h.passed rfl rfl rfl ?_ (fun s hs => ?_) (fun s hs hflight => ?_) (fun _ hs => hs)
      h.drawn h.nodup fun _ => ⟨hsubscribed, rfl⟩
    · rw [hway, List.append_assoc]
      simp only [way, FrameCanvas.consume, numbers, Option.map_some, Option.toList_some,
        List.append_assoc, List.singleton_append]
      exact (List.Sublist.refl _).append (List.sublist_append_right _ _)
    · rw [hunder]
      simp only [underWay, FrameCanvas.consume, numbers, Option.map_some, Option.toList_some,
        List.mem_append, List.mem_cons, List.not_mem_nil, or_false] at hs ⊢
      tauto
    · -- the frame that is replaced is older than the one that arrives, so not in flight
      have hnewest := (h.inFlight s hflight).2.2 frame.sequence (by simp [hway])
      rw [hunder] at hs
      rcases hs with hlost | hs
      · exact .inl hlost
      · simp only [List.mem_append, List.mem_cons] at hs
        rcases hs with (hack | hpending) | hs
        · exact .inr (by simp [underWay, hack])
        · have hincreasing := hway ▸ h.increasing
          have hlt := (List.pairwise_append.mp hincreasing).2.2 s
            (List.mem_append_right _ hpending) frame.sequence List.mem_cons_self
          omega
        · exact .inr (by
            rcases hs with rfl | hs
            · simp [underWay, FrameCanvas.consume, numbers]
            · exact List.mem_append_right _ hs)
  | false =>
    -- nobody consumes the frame
    rw [Presentation.arrive, if_neg (by rw [hsubscribed]; decide)]
    refine h.passed rfl rfl rfl ?_ (fun s hs => ?_) (fun s hs hflight => ?_) (fun _ hs => hs)
      h.drawn h.nodup h.scheduled
    · rw [hway]
      exact (List.Sublist.refl _).append (List.sublist_cons_self _ _)
    · rw [hunder]
      simp only [underWay, List.mem_append, List.mem_cons] at hs ⊢
      tauto
    · rw [hunder] at hs
      simp only [underWay, List.mem_append, List.mem_cons, List.not_mem_nil, or_false] at hs ⊢
      tauto

theorem animate (h : p.Orderly) (context : Bool) : (p.animate context).Orderly := by
  cases context with
  | true =>
    refine h.passed rfl rfl rfl ?_ (fun s hs => ?_) (fun s hs _ => ?_)
      (fun s hs => List.mem_append_left _ hs) (fun s hs => ?_) ?_ nofun
    · simp [way, Presentation.animate, FrameCanvas.draw, numbers]
    · simpa [underWay, Presentation.animate, FrameCanvas.draw, numbers] using hs
    · simpa [underWay, Presentation.animate, FrameCanvas.draw, numbers] using hs
    · rcases List.mem_append.mp hs with hack | hpending
      · exact List.mem_append_left _ (h.drawn s hack)
      · exact List.mem_append_right _ hpending
    · -- the frame is newer than all that were drawn before
      refine List.nodup_append.mpr ⟨h.nodup, ?_, fun s hack t hpending hst => ?_⟩
      · simp only [FrameCanvas.draw, if_true, numbers]
        cases p.canvas.pendingFrame <;> simp
      · have hlt := (List.pairwise_append.mp (List.pairwise_append.mp h.increasing).1).2.2 s
          (h.drawn s hack) t hpending
        omega
  | false =>
    -- `draw` has taken the frame already when it finds no context
    refine h.passed rfl rfl rfl ?_ (fun s hs => ?_) (fun s hs _ => ?_)
      (fun s hs => List.mem_append_left _ hs) (fun s hs => ?_) ?_ nofun
    · simp [way, Presentation.animate, FrameCanvas.draw, numbers]
    · simp only [underWay, Presentation.animate, FrameCanvas.draw, numbers,
        List.mem_append] at hs ⊢
      simp only [Bool.false_eq_true, if_false, Option.map_none, Option.toList_none,
        List.not_mem_nil, or_false] at hs
      tauto
    · simp only [underWay, Presentation.animate, FrameCanvas.draw, numbers,
        List.mem_append] at hs ⊢
      simp only [Bool.false_eq_true, if_false, Option.map_none, Option.toList_none,
        List.not_mem_nil, or_false, List.mem_append] at hs ⊢
      tauto
    · simpa [Presentation.animate, FrameCanvas.draw, numbers] using h.drawn s (by
        simpa [Presentation.animate, FrameCanvas.draw, numbers] using hs)
    · simpa [Presentation.animate, FrameCanvas.draw, numbers] using h.nodup

/-- The acknowledgement of the frame in flight is the only live thing on its way. -/
theorem stale_of_acknowledged (h : p.Orderly) {index sequence : Nat}
    (hack : p.acknowledgements[index]? = some sequence)
    (hflight : p.queue.inFlightSequence = some sequence) {s : Nat}
    (hs : s ∈ p.acknowledgements.eraseIdx index ++ numbers p.canvas.pendingFrame ++
      p.channel.map Frame.sequence) : s ≤ p.cleared := by
  have hdrawn := h.drawn sequence (List.mem_of_getElem? hack)
  have hincreasing := h.increasing
  rw [way, List.append_assoc] at hincreasing
  have hlater := (List.pairwise_append.mp hincreasing).2.2 sequence hdrawn
  have hunder : s ∈ p.underWay := by
    rw [List.append_assoc] at hs
    rw [underWay, List.append_assoc]
    rcases List.mem_append.mp hs with hrest | hs
    · exact List.mem_append_left _ (List.mem_of_mem_eraseIdx hrest)
    · exact List.mem_append_right _ hs
  rcases h.live s hunder with hstale | hlive
  · exact hstale
  · obtain rfl : sequence = s := Option.some.inj (hflight.symm.trans hlive)
    rw [List.append_assoc] at hs
    rcases List.mem_append.mp hs with hrest | hs
    · -- there is no second acknowledgement of the frame
      obtain ⟨i, hne, hi⟩ := List.mem_eraseIdx_iff_getElem?.mp hrest
      exact absurd ((List.getElem?_inj (List.getElem?_eq_some_iff.mp hi).1 h.nodup).mp
        (hi.trans hack.symm)) hne
    · exact absurd (hlater sequence hs) (Nat.lt_irrefl _)

/-- The frame that waits behind the one in flight is the last of the core. -/
theorem waiting_eq_last (h : p.Orderly) {sequence : Nat} {frame : Frame}
    (hflight : p.queue.inFlightSequence = some sequence)
    (hlatest : p.queue.latestPending = some frame) : frame.sequence = p.last := by
  obtain ⟨hafter, hbound, -⟩ := h.waiting frame hlatest
  rcases h.newest (Nat.lt_of_lt_of_le hafter hbound) with hwaiting | ⟨hnone, -⟩ | ⟨hnone, -⟩
  · simpa [hlatest] using hwaiting
  · cases hnone.symm.trans hlatest
  · cases hnone.symm.trans hflight

theorem acknowledge (h : p.Orderly) {index sequence : Nat}
    (hack : p.acknowledgements[index]? = some sequence) :
    (p.acknowledge index sequence).Orderly := by
  have herased := List.eraseIdx_sublist p.acknowledgements index
  by_cases hflight : p.queue.inFlightSequence = some sequence
  · have hstale := fun s => h.stale_of_acknowledged hack hflight (s := s)
    obtain ⟨-, hle, hnewest⟩ := h.inFlight sequence hflight
    cases hlatest : p.queue.latestPending with
    | none =>
      have hnext : p.acknowledge index sequence = { p with
          queue := ⟨none, none⟩
          acknowledgements := p.acknowledgements.eraseIdx index } := by
        simp [Presentation.acknowledge, FrameQueue.acknowledge, hflight, hlatest]
      rw [hnext]
      refine ⟨h.increasing, h.bounded, h.cleared_le, fun _ => rfl, nofun, nofun,
        fun hafter => .inr (.inr ⟨rfl, ?_⟩), fun s hs => h.drawn s (herased.subset hs),
        h.nodup.sublist herased, fun s hs => .inl (hstale s hs), nofun, h.scheduled⟩
      rcases h.newest hafter with hwaiting | ⟨-, hlast⟩ | ⟨hnone, -⟩
      · simp [hlatest] at hwaiting
      · obtain rfl : sequence = p.last := Option.some.inj (hflight.symm.trans hlast)
        exact h.drawn _ (List.mem_of_getElem? hack)
      · cases hnone.symm.trans hflight
    | some frame =>
      have hnext : p.acknowledge index sequence = { p with
          queue := ⟨some frame.sequence, none⟩
          channel := p.channel ++ [frame]
          acknowledgements := p.acknowledgements.eraseIdx index
          last := p.last } := by
        simp [Presentation.acknowledge, FrameQueue.acknowledge, hflight, hlatest]
      obtain ⟨hafter, -, hnewer⟩ := h.waiting frame hlatest
      rw [hnext]
      exact h.handOut hnewer hafter (h.waiting_eq_last hflight hlatest) (Nat.le_refl _) herased
        hstale
  · -- the queue was cleared since the frame, and the acknowledgement is refused
    have hnext : p.acknowledge index sequence = { p with
        acknowledgements := p.acknowledgements.eraseIdx index } := by
      simp [Presentation.acknowledge, FrameQueue.acknowledge, hflight]
    rw [hnext]
    refine h.passed rfl rfl rfl (.refl _) (fun s hs => ?_) (fun s hs hlive => ?_)
      (fun _ hs => hs) (fun s hs => h.drawn s (herased.subset hs)) (h.nodup.sublist herased)
      h.scheduled
    · rw [underWay, List.append_assoc] at hs ⊢
      rcases List.mem_append.mp hs with hrest | hs
      · exact List.mem_append_left _ (herased.subset hrest)
      · exact List.mem_append_right _ hs
    · rw [underWay, List.append_assoc] at hs ⊢
      rcases hs with hlost | hs
      · exact .inl hlost
      · rcases List.mem_append.mp hs with hmem | hs
        · -- the acknowledgement that arrives is of another frame
          obtain ⟨i, hi⟩ := List.getElem?_of_mem hmem
          refine .inr (List.mem_append_left _ (List.mem_eraseIdx_iff_getElem?.mpr ⟨i, ?_, hi⟩))
          rintro rfl
          exact hflight (Option.some.inj (hi.symm.trans hack) ▸ hlive)
        · exact .inr (List.mem_append_right _ hs)

theorem subscribe (h : p.Orderly) :
    { p with canvas := p.canvas.subscribe }.Orderly :=
  h.passed rfl rfl rfl (.refl _) (fun _ hs => hs) (fun _ hs _ => hs) (fun _ hs => hs)
    h.drawn h.nodup fun hpending => ⟨rfl, (h.scheduled hpending).2⟩

theorem unsubscribe (h : p.Orderly) : p.unsubscribe.Orderly := by
  refine h.passed rfl rfl rfl ?_ (fun s hs => ?_) (fun s hs _ => ?_) (fun _ hs => hs)
    h.drawn h.nodup nofun
  · rw [way, way, List.append_assoc, List.append_assoc]
    exact (List.Sublist.refl _).append (List.sublist_append_right _ _)
  · rw [underWay, List.append_assoc] at hs ⊢
    rcases List.mem_append.mp hs with hack | hchannel
    · exact List.mem_append_left _ hack
    · exact List.mem_append_right _ (List.mem_append_right _ hchannel)
  · simp only [underWay, Presentation.unsubscribe, List.mem_append] at hs ⊢
    tauto

theorem step (h : p.Orderly) {event : PresentationEvent} (hstep : p.step event = some q) :
    q.Orderly := by
  cases event with
  | offer frame =>
    simp only [Presentation.step, Option.ite_none_right_eq_some, Option.some.injEq] at hstep
    obtain ⟨hnew, rfl⟩ := hstep
    exact h.offer hnew
  | clear =>
    cases hstep
    exact h.clear
  | arrive =>
    simp only [Presentation.step] at hstep
    cases hchannel : p.channel with
    | nil =>
      rw [hchannel] at hstep
      cases hstep
    | cons frame rest =>
      rw [hchannel] at hstep
      cases hstep
      exact h.arrive hchannel
  | animate context =>
    simp only [Presentation.step, Option.ite_none_right_eq_some, Option.some.injEq] at hstep
    obtain ⟨-, rfl⟩ := hstep
    exact h.animate context
  | acknowledge index =>
    obtain ⟨sequence, hack, rfl⟩ := Option.map_eq_some_iff.mp hstep
    exact h.acknowledge hack
  | subscribe =>
    simp only [Presentation.step, Option.ite_none_left_eq_some, Option.some.injEq] at hstep
    obtain ⟨-, rfl⟩ := hstep
    exact h.subscribe
  | unsubscribe =>
    simp only [Presentation.step, Option.ite_none_right_eq_some, Option.some.injEq] at hstep
    obtain ⟨-, rfl⟩ := hstep
    exact h.unsubscribe

end Orderly

theorem orderly_of_reachable (h : Reachable system p) : p.Orderly :=
  h.invariant (fun _ hstart => hstart ▸ .initial) fun _ _ _ horderly hstep => horderly.step hstep

/-! ## The law -/

/-- Where a frame that was handed out is: on its way to the page, waiting for the browser, or
drawn with its acknowledgement on the way. -/
inductive Whereabouts (p : Presentation) (sequence : Nat) : Prop where
  | channel (h : ∃ frame ∈ p.channel, frame.sequence = sequence)
  | canvas (frame : Frame) (h : p.canvas.pendingFrame = some frame)
      (hsequence : frame.sequence = sequence) (hsubscribed : p.canvas.subscribed = true)
      (hanimation : p.canvas.animationFrame = true)
  | drawn (h : sequence ∈ p.acknowledgements) (hdrawn : sequence ∈ p.drawn)

/-- What holds between the queue and the screen. -/
structure PresentationLaw (p : Presentation) : Prop where
  /-- Frames are drawn in their order, none twice. -/
  inOrder : p.drawn.Pairwise (· < ·)
  /-- Only frames that were drawn are acknowledged, and each of them once. -/
  acknowledged : p.acknowledgements.Nodup ∧ ∀ s ∈ p.acknowledgements, s ∈ p.drawn
  /-- Of the frames that were handed out since the queue was cleared one is on its way at
  most, the one in flight. -/
  single : ∀ s ∈ p.underWay, p.cleared < s → p.queue.inFlightSequence = some s
  /-- The worker takes an acknowledgement just when it is of a frame from after that. -/
  accepted : ∀ s ∈ p.acknowledgements,
    p.queue.acknowledge s = if p.cleared < s then
      (.ok p.queue.latestPending, ⟨p.queue.latestPending.map Frame.sequence, none⟩)
    else (.error .notInFlight, p.queue)
  /-- The frame in flight is on its way unless the page had no canvas for it. -/
  flowing : ∀ s, p.queue.inFlightSequence = some s → s ∉ p.lost → Whereabouts p s
  /-- When nothing is on its way any more and nothing was lost, the last frame of the core is
  the one on the screen. -/
  settled : p.channel = [] → p.canvas.pendingFrame = none → p.acknowledgements = [] →
    (∀ s ∈ p.lost, s ≤ p.cleared) → p.cleared < p.last →
      p.queue = .empty ∧ p.drawn.getLast? = some p.last

namespace Orderly

theorem drawn_increasing (h : p.Orderly) : p.drawn.Pairwise (· < ·) :=
  h.increasing.sublist (by
    rw [way, List.append_assoc]
    exact List.sublist_append_left _ _)

theorem drawn_le (h : p.Orderly) {s : Nat} (hs : s ∈ p.drawn) : s ≤ p.last :=
  h.bounded s (List.mem_append_left _ (List.mem_append_left _ hs))

theorem acknowledge_eq (h : p.Orderly) {s : Nat} (hs : s ∈ p.acknowledgements) :
    p.queue.acknowledge s = if p.cleared < s then
      (.ok p.queue.latestPending, ⟨p.queue.latestPending.map Frame.sequence, none⟩)
    else (.error .notInFlight, p.queue) := by
  have hunder : s ∈ p.underWay := List.mem_append_left _ (List.mem_append_left _ hs)
  split
  case isTrue hafter =>
    rcases h.live s hunder with hstale | hflight
    · omega
    · rw [FrameQueue.acknowledge, if_neg (not_not.mpr hflight)]
  case isFalse hstale =>
    rw [FrameQueue.acknowledge, if_pos]
    intro hflight
    exact hstale (h.inFlight s hflight).1

theorem whereabouts (h : p.Orderly) {s : Nat} (hs : s ∈ p.underWay) : Whereabouts p s := by
  simp only [underWay, List.mem_append] at hs
  rcases hs with (hack | hpending) | hchannel
  · exact .drawn hack (h.drawn s hack)
  · obtain ⟨frame, hframe, hsequence⟩ :=
      Option.map_eq_some_iff.mp (Option.mem_toList.mp hpending)
    obtain ⟨hsubscribed, hanimation⟩ := h.scheduled (by rw [hframe]; rfl)
    exact .canvas frame hframe hsequence hsubscribed hanimation
  · exact .channel (List.mem_map.mp hchannel)

/-- Nothing is in flight when nothing is on its way. -/
theorem settled (h : p.Orderly) (hunder : p.underWay = [])
    (hlost : ∀ s ∈ p.lost, s ≤ p.cleared) (hsince : p.cleared < p.last) :
    p.queue = .empty ∧ p.drawn.getLast? = some p.last := by
  have hnone : p.queue.inFlightSequence = none := by
    cases hflight : p.queue.inFlightSequence with
    | none => rfl
    | some s =>
      have hafter := (h.inFlight s hflight).1
      rcases h.placed s hflight with hs | hs
      · have hstale := hlost s hs
        omega
      · rw [hunder] at hs
        cases hs
  have hlatest := h.idle hnone
  refine ⟨FrameQueue.eq_empty hnone hlatest, ?_⟩
  have hmem : p.last ∈ p.drawn := by
    rcases h.newest hsince with hwaiting | ⟨-, hflight⟩ | ⟨-, hmem⟩
    · rw [hlatest] at hwaiting
      cases hwaiting
    · cases hnone.symm.trans hflight
    · exact hmem
  -- the greatest of the frames drawn is the last one
  obtain ⟨init, s, hdrawn⟩ := (List.eq_nil_or_concat' p.drawn).resolve_left
    (List.ne_nil_of_mem hmem)
  have hle : s ≤ p.last := h.drawn_le (by simp [hdrawn])
  have hincreasing := h.drawn_increasing
  rw [hdrawn] at hmem hincreasing
  rw [hdrawn, List.getLast?_concat]
  rcases List.mem_append.mp hmem with hinit | hs
  · have hlt := (List.pairwise_append.mp hincreasing).2.2 _ hinit s (List.mem_singleton_self s)
    omega
  · rw [List.mem_singleton.mp hs]

end Orderly

/-- **Frames get to the screen in their order, one at a time**, whatever the worker and the
browser do in whatever order: each acknowledgement is taken for the frame it is of, and the
last frame is shown in the end. -/
theorem frame_presentation (h : Reachable system p) : PresentationLaw p := by
  have horderly := orderly_of_reachable h
  refine ⟨horderly.drawn_increasing, ⟨horderly.nodup, horderly.drawn⟩, fun s hs hsince => ?_,
    fun s hs => horderly.acknowledge_eq hs, fun s hflight hlost => ?_,
    fun hchannel hpending hacks => horderly.settled ?_⟩
  · exact (horderly.live s hs).resolve_left (Nat.not_le.mpr hsince)
  · exact horderly.whereabouts ((horderly.placed s hflight).resolve_left hlost)
  · rw [underWay, hchannel, hpending, hacks]
    rfl

/-! ## A frame that waits -/

def frameNumbered (sequence : Nat) : Frame := ⟨sequence, .filled _ 0⟩

/-- Two frames come while the first one waits for the browser. -/
def twoWaiting : List PresentationEvent :=
  [.subscribe, .offer (frameNumbered 1), .arrive, .offer (frameNumbered 2),
    .offer (frameNumbered 3), .animate true, .acknowledge 0, .arrive, .animate true]

theorem frame_presentation_twoWaiting :
    ∃ p, PresentationLaw p ∧ p.drawn = [1, 3] ∧ p.acknowledgements = [3] := by
  have hrun : Run system initial twoWaiting _ := .of_steps (fun _ _ _ hstep => hstep) rfl
  exact ⟨_, frame_presentation (hrun.reachable (.start rfl)), rfl, rfl⟩

end Presentation

end Pockiva
