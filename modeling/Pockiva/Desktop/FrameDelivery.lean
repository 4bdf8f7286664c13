import Pockiva.Desktop.FrameWindow
import Pockiva.FrameNumbers
import Pockiva.Lib.Transition

/-! # The delivery of frames over whole runs

The worker ticks, drains and handles commands in any order, and the client acknowledges
frames it got, however late.  The queue knows a frame by its number only.  As long as the
core numbers its frames without starting again, numbers grow, so a number says which
frame is meant.
-/
namespace Pockiva

open Transition

variable {M : MixerModel}

namespace Runtime

/-- What the worker does between two looks at its queue. -/
inductive WorkerStep where
  | tick
  | drain (cancelledThrough : Nat)
  | command (command : Command) (cancelledThrough : Nat)

/-- The client acknowledges only frames it got, by their numbers. -/
def Command.Genuine (log : List FrameEvent) : Command → Prop
  | .acknowledgeFrame sequence index => (FrameWindow.after log).number index = some sequence
  | _ => True

/-- The worker from its start on.  Any command may come at any time, or not at all; the
source takes no step after `shutdown`. -/
def workerSystem (M : MixerModel) : System (Runtime M) WorkerStep where
  start r := r = initial
  step r s t := match s with
    | .tick => r.model.snapshot.phase = .running ∧ t = r.runTick
    | .drain cancelledThrough => t = r.drainCancelledRemoteInput cancelledThrough
    | .command command cancelledThrough =>
      command.Genuine r.frameLog ∧ t = (r.handleCommand command cancelledThrough).2

/-! ## The invariant -/

/-- What may happen after a log.  A frame is published while none is in flight.  An
accepted acknowledgement has the number of the frame in flight, and if its frame was
numbered by the core at work it is that frame. -/
def Lawful (past : List FrameEvent) : FrameEvent → Prop
  | .published _ => (FrameWindow.after past).inFlight = none
  | .acknowledged index accepted =>
    (accepted = true → ∃ i, (FrameWindow.after past).inFlight = some i ∧
      (FrameWindow.after past).number i = (FrameWindow.after past).number index) ∧
    ((FrameWindow.after past).numberedFrom ≤ index →
      (accepted = true ↔ (FrameWindow.after past).inFlight = some index))
  | _ => True

/-- The frames published since the core last began to number them. -/
def numbered (w : FrameWindow) : List Frame := w.frames.drop w.numberedFrom

/-- The queue holds the number of the frame in flight, and the frames that are still to
come have numbers of at least `n`. -/
structure Delivers (n : Nat) (q : FrameQueue) (log : List FrameEvent) (core : Option (GameBoy M)) :
    Prop where
  sequence : q.inFlightSequence =
    (FrameWindow.after log).inFlight.bind (FrameWindow.after log).number
  flying : ∀ i, (FrameWindow.after log).inFlight = some i →
    i + 1 = (FrameWindow.after log).frames.length ∧ (FrameWindow.after log).numberedFrom ≤ i
  waiting : q.inFlightSequence = none → q.latestPending = none
  started : (FrameWindow.after log).numberedFrom ≤ (FrameWindow.after log).frames.length
  increasing : (numbered (FrameWindow.after log)).Pairwise fun f g => f.sequence < g.sequence
  below : ∀ f ∈ numbered (FrameWindow.after log), f.sequence < n
  pending : ∀ f, q.latestPending = some f →
    (∀ g ∈ numbered (FrameWindow.after log), g.sequence < f.sequence) ∧ f.sequence < n
  core : ∀ g, core = some g → g.NumbersFrom n
  lawful : Log.Justified Lawful log

namespace Delivers
variable {n : Nat} {q : FrameQueue} {log : List FrameEvent} {core : Option (GameBoy M)}

theorem initial : Delivers 1 .empty [] (none : Option (GameBoy M)) where
  sequence := rfl
  flying i hi := by cases hi
  waiting _ := rfl
  started := Nat.le_refl 0
  increasing := .nil
  below f hf := absurd hf List.not_mem_nil
  pending f hf := by cases hf
  core g hg := by cases hg
  lawful := .nil

/-- Another core, whose frames have greater numbers. -/
theorem withCore (h : Delivers n q log core) {m : Nat} (hm : n ≤ m) {core' : Option (GameBoy M)}
    (hcore : ∀ g, core' = some g → g.NumbersFrom m) : Delivers m q log core' where
  sequence := h.sequence
  flying := h.flying
  waiting := h.waiting
  started := h.started
  increasing := h.increasing
  below f hf := Nat.lt_of_lt_of_le (h.below f hf) hm
  pending f hf := ⟨(h.pending f hf).1, Nat.lt_of_lt_of_le (h.pending f hf).2 hm⟩
  core := hcore
  lawful := h.lawful

/-- No frame is in flight while the queue is empty. -/
theorem inFlight_of_idle (h : Delivers n q log core) (hidle : q.inFlightSequence = none) :
    (FrameWindow.after log).inFlight = none := by
  cases hflight : (FrameWindow.after log).inFlight with
  | none => rfl
  | some i =>
    have hsequence := h.sequence
    have hlt := (h.flying i hflight).1
    rw [hidle, hflight, Option.bind_some, FrameWindow.number,
      List.getElem?_eq_getElem (by omega)] at hsequence
    cases hsequence

theorem cleared (h : Delivers n q log core) : Delivers n .empty (log ++ [.cleared]) core := by
  have hwindow := FrameWindow.after_snoc log .cleared
  refine ⟨?_, ?_, fun _ => rfl, ?_, ?_, ?_, nofun, h.core, h.lawful.snoc trivial⟩
  · rw [hwindow]
    rfl
  · rw [hwindow]
    exact nofun
  · rw [hwindow]
    exact h.started
  · rw [hwindow]
    exact h.increasing
  · rw [hwindow]
    exact h.below

/-- The core begins to number its frames again while the queue is empty. -/
theorem renumbered (h : Delivers n .empty log core) {core' : Option (GameBoy M)}
    (hcore : ∀ g, core' = some g → g.NumbersFrom 1) :
    Delivers 1 .empty (log ++ [.renumbered]) core' := by
  have hwindow := FrameWindow.after_snoc log .renumbered
  have hflight : ((FrameWindow.after log).step .renumbered).inFlight = none :=
    h.inFlight_of_idle rfl
  have hnumbered : numbered ((FrameWindow.after log).step .renumbered) = [] := List.drop_length
  rw [← hwindow] at hflight hnumbered
  refine ⟨?_, ?_, fun _ => rfl, ?_, ?_, ?_, nofun, hcore, h.lawful.snoc trivial⟩
  · rw [hflight]
    rfl
  · rw [hflight]
    exact nofun
  · rw [hwindow]
    exact Nat.le_refl _
  · rw [hnumbered]
    exact .nil
  · rw [hnumbered]
    exact fun f hf => absurd hf List.not_mem_nil

/-- A frame is published while no other one is in flight. -/
theorem published (h : Delivers n .empty log core) {f : Frame}
    (habove : ∀ g ∈ numbered (FrameWindow.after log), g.sequence < f.sequence)
    (hbelow : f.sequence < n) :
    Delivers n ⟨some f.sequence, none⟩ (log ++ [.published f]) core := by
  have hwindow := FrameWindow.after_snoc log (.published f)
  have hflight : (FrameWindow.after log).inFlight = none := h.inFlight_of_idle rfl
  have hstarted := h.started
  have hlength : ((FrameWindow.after log).frames ++ [f]).length =
      (FrameWindow.after log).frames.length + 1 := List.length_append
  have hnumbered : numbered ((FrameWindow.after log).step (.published f)) =
      numbered (FrameWindow.after log) ++ [f] := List.drop_append_of_le_length hstarted
  refine ⟨?_, ?_, nofun, ?_, ?_, ?_, nofun, h.core, h.lawful.snoc hflight⟩
  · rw [hwindow]
    show some f.sequence = (((FrameWindow.after log).frames ++ [f])[
      (FrameWindow.after log).frames.length]?).map Frame.sequence
    rw [List.getElem?_concat_length]
    rfl
  · rw [hwindow]
    rintro i hi
    obtain rfl := Option.some.inj hi
    exact ⟨hlength.symm, hstarted⟩
  · rw [hwindow]
    show _ ≤ ((FrameWindow.after log).frames ++ [f]).length
    rw [hlength]
    exact Nat.le_succ_of_le hstarted
  · rw [hwindow, hnumbered]
    refine List.pairwise_append.mpr ⟨h.increasing, List.pairwise_singleton _ _, ?_⟩
    intro g hg g' hg'
    rw [List.mem_singleton.mp hg']
    exact habove g hg
  · rw [hwindow, hnumbered]
    intro g hg
    rcases List.mem_append.mp hg with hg | hg
    · exact h.below g hg
    · rw [List.mem_singleton.mp hg]
      exact hbelow

/-- A later frame of the core waits behind the one in flight. -/
theorem queued (h : Delivers n q log core) (hsome : q.inFlightSequence ≠ none) {f : Frame}
    (habove : ∀ g ∈ numbered (FrameWindow.after log), g.sequence < f.sequence)
    (hbelow : f.sequence < n) : Delivers n { q with latestPending := some f } log core where
  sequence := h.sequence
  flying := h.flying
  waiting hnone := absurd hnone hsome
  started := h.started
  increasing := h.increasing
  below := h.below
  pending g hg := by
    obtain rfl := Option.some.inj hg
    exact ⟨habove, hbelow⟩
  core := h.core
  lawful := h.lawful

/-- Frames of the core at work with the same number are the same frame. -/
theorem index_unique (h : Delivers n q log core) {i j : Nat}
    (hi : (FrameWindow.after log).numberedFrom ≤ i) (hj : (FrameWindow.after log).numberedFrom ≤ j)
    (hlt : i < (FrameWindow.after log).frames.length)
    (heq : (FrameWindow.after log).number i = (FrameWindow.after log).number j) : i = j := by
  generalize hw : FrameWindow.after log = w at hi hj hlt heq
  have hincreasing := h.increasing
  rw [hw] at hincreasing
  have hnumber : ∀ k, w.numberedFrom ≤ k → w.number k =
      (numbered w)[k - w.numberedFrom]?.map Frame.sequence := by
    intro k hk
    rw [FrameWindow.number, numbered, List.getElem?_drop]
    congr 2
    omega
  rw [hnumber i hi, hnumber j hj] at heq
  have hlength : (numbered w).length = w.frames.length - w.numberedFrom := List.length_drop
  have hilt : i - w.numberedFrom < (numbered w).length := by omega
  rw [List.getElem?_eq_getElem hilt, Option.map_some] at heq
  obtain ⟨g, hg, hsequence⟩ := Option.map_eq_some_iff.mp heq.symm
  obtain ⟨hjlt, rfl⟩ := List.getElem?_eq_some_iff.mp hg
  have hpairs := List.pairwise_iff_getElem.mp hincreasing
  rcases Nat.lt_trichotomy (i - w.numberedFrom) (j - w.numberedFrom) with hless | hsame | hless
  · have hstep := hpairs _ _ hilt hjlt hless
    omega
  · omega
  · have hstep := hpairs _ _ hjlt hilt hless
    omega

/-- An acknowledgement with another number than the one in flight is refused. -/
theorem refused (h : Delivers n q log core) {sequence index : Nat}
    (hgenuine : (FrameWindow.after log).number index = some sequence)
    (hother : q.inFlightSequence ≠ some sequence) :
    Delivers n q (log ++ [.acknowledged index false]) core := by
  have hwindow := FrameWindow.after_snoc log (.acknowledged index false)
  have hlaw : Lawful log (.acknowledged index false) := by
    refine ⟨nofun, fun _ => iff_of_false (by decide) fun hflight => hother ?_⟩
    rw [h.sequence, hflight]
    exact hgenuine
  refine ⟨?_, ?_, h.waiting, ?_, ?_, ?_, ?_, h.core, h.lawful.snoc hlaw⟩
  · rw [hwindow]
    exact h.sequence
  · rw [hwindow]
    exact h.flying
  · rw [hwindow]
    exact h.started
  · rw [hwindow]
    exact h.increasing
  · rw [hwindow]
    exact h.below
  · rw [hwindow]
    exact h.pending

/-- An acknowledgement with the number in flight is accepted; the frame it is for is the
one in flight, unless the core began to number its frames again since. -/
theorem accepted (h : Delivers n q log core) {sequence index : Nat}
    (hgenuine : (FrameWindow.after log).number index = some sequence)
    (hsame : q.inFlightSequence = some sequence) :
    Delivers n .empty (log ++ [.acknowledged index true]) core := by
  have hwindow := FrameWindow.after_snoc log (.acknowledged index true)
  have hbind := h.sequence
  rw [hsame] at hbind
  obtain ⟨i, hflight, hnumber⟩ := Option.bind_eq_some_iff.mp hbind.symm
  have hequal : (FrameWindow.after log).number i = (FrameWindow.after log).number index :=
    hnumber.trans hgenuine.symm
  have hlaw : Lawful log (.acknowledged index true) := by
    refine ⟨fun _ => ⟨i, hflight, hequal⟩, fun hcurrent => iff_of_true rfl ?_⟩
    obtain ⟨hlast, hfrom⟩ := h.flying i hflight
    rw [hflight, h.index_unique hfrom hcurrent (by omega) hequal]
  refine ⟨?_, ?_, fun _ => rfl, ?_, ?_, ?_, nofun, h.core, h.lawful.snoc hlaw⟩
  · rw [hwindow]
    rfl
  · rw [hwindow]
    exact nofun
  · rw [hwindow]
    exact h.started
  · rw [hwindow]
    exact h.increasing
  · rw [hwindow]
    exact h.below

end Delivers

/-! ## What the operations do -/

/-- The invariant of a worker. -/
def Delivering (n : Nat) (r : Runtime M) : Prop := Delivers n r.delivery r.frameLog r.core

namespace Delivering
variable {n : Nat} {r : Runtime M}

theorem clearDelivery (h : Delivering n r) : Delivering n r.clearDelivery := h.cleared

/-- The observer is told or lost; the queue does not change. -/
theorem publishControl_frame (r : Runtime M) :
    r.publishControl.2.delivery = r.delivery ∧ r.publishControl.2.frameLog = r.frameLog ∧
      r.publishControl.2.core = r.core := by
  unfold Runtime.publishControl
  split
  · exact ⟨rfl, rfl, rfl⟩
  · split <;> exact ⟨rfl, rfl, rfl⟩

theorem publishControl (h : Delivering n r) : Delivering n r.publishControl.2 := by
  obtain ⟨hdelivery, hlog, hcore⟩ := publishControl_frame r
  rw [Delivering, hdelivery, hlog, hcore]
  exact h

theorem publishFrame {f : Frame} (h : Delivers n .empty r.frameLog r.core)
    (hdelivery : r.delivery = ⟨some f.sequence, none⟩)
    (habove : ∀ g ∈ numbered (FrameWindow.after r.frameLog), g.sequence < f.sequence)
    (hbelow : f.sequence < n) : Delivering n (r.publishFrame f) := by
  unfold Runtime.publishFrame
  split
  · exact h.cleared
  · split
    · show Delivers n r.delivery (r.frameLog ++ [.published f]) r.core
      rw [hdelivery]
      exact h.published habove hbelow
    · exact h.cleared

/-- The core hands out a frame. -/
theorem offerFrame (h : Delivering n r) {f : Frame} (hlow : n ≤ f.sequence)
    (hcore : ∀ g, r.core = some g → g.NumbersFrom (f.sequence + 1)) :
    Delivering (f.sequence + 1) (r.offerFrame f) := by
  have hnext : Delivering (f.sequence + 1) r := Delivers.withCore h (by omega) hcore
  have habove : ∀ g ∈ numbered (FrameWindow.after r.frameLog), g.sequence < f.sequence :=
    fun g hg => Nat.lt_of_lt_of_le (h.below g hg) hlow
  unfold Runtime.offerFrame
  split
  · exact hnext.clearDelivery
  · by_cases hidle : r.delivery.inFlightSequence = none
    · have hempty : r.delivery = .empty := FrameQueue.eq_empty hidle (h.waiting hidle)
      have hoffer : r.delivery.offer f = (some f, ⟨some f.sequence, none⟩) := by
        rw [hempty]
        rfl
      rw [hoffer]
      refine publishFrame ?_ rfl habove (Nat.lt_succ_self _)
      rw [← hempty]
      exact hnext
    · have hoffer : r.delivery.offer f = (none, { r.delivery with latestPending := some f }) := by
        rw [FrameQueue.offer, if_neg (by simpa using hidle)]
      rw [hoffer]
      exact Delivers.queued hnext hidle habove (Nat.lt_succ_self _)

theorem acknowledgeFrame (h : Delivering n r) {sequence index : Nat}
    (hgenuine : (FrameWindow.after r.frameLog).number index = some sequence) :
    Delivering n (r.acknowledgeFrame sequence index).2 := by
  unfold Runtime.acknowledgeFrame
  by_cases hsame : r.delivery.inFlightSequence = some sequence
  · have hacknowledge : r.delivery.acknowledge sequence =
        (.ok r.delivery.latestPending,
          ⟨r.delivery.latestPending.map Frame.sequence, none⟩) := if_neg (by simpa using hsame)
    have hempty := Delivers.accepted h hgenuine hsame
    have hwindow : numbered (FrameWindow.after (r.frameLog ++ [.acknowledged index true])) =
        numbered (FrameWindow.after r.frameLog) := by
      rw [FrameWindow.after_snoc]
      rfl
    rw [hacknowledge]
    cases hpending : r.delivery.latestPending with
    | none => exact hempty
    | some f =>
      obtain ⟨habove, hbelow⟩ := h.pending f hpending
      exact publishFrame hempty rfl (by rw [← hwindow] at habove; exact habove) hbelow
  · have hacknowledge : r.delivery.acknowledge sequence = (.error .notInFlight, r.delivery) :=
      if_pos hsame
    rw [hacknowledge]
    exact Delivers.refused h hgenuine hsame

/-- **A tick keeps the invariant**, with a bound that grows with the frame it offers. -/
theorem runTick (h : Delivering n r) : ∃ m, Delivering m r.runTick := by
  unfold Runtime.runTick
  split
  · exact ⟨n, publishControl (r := { r with model := r.model.failLoad runtimeUnavailable }) h⟩
  · next active hactive =>
    have hran : ((active.runCycles frameCycleBudget).2.drainAudio.2).NumbersFrom n :=
      ((h.core active hactive).runCycles _).drainAudio
    dsimp only
    generalize (active.runCycles frameCycleBudget).2.drainAudio.2 = ran at hran
    have hcore : ∀ g, some ran = some g → g.NumbersFrom n := by
      rintro g hg
      obtain rfl := Option.some.inj hg
      exact hran
    have hkept : Delivers n r.delivery r.frameLog (some ran) :=
      Delivers.withCore h (Nat.le_refl n) hcore
    cases (active.runCycles frameCycleBudget).1 with
    | error e =>
      refine ⟨n, publishControl (clearDelivery ?_)⟩
      exact hkept
    | ok outcome =>
      dsimp only
      split
      · cases hframe : ran.takeFrame.1 with
        | none =>
          refine ⟨n, Delivers.withCore h (Nat.le_refl n) ?_⟩
          rintro g hg
          obtain rfl := Option.some.inj hg
          exact hran.dropFrame
        | some f =>
          obtain ⟨hlow, hrest⟩ := hran.takeFrame hframe
          have htaken : ∀ g, some ran.takeFrame.2 = some g → g.NumbersFrom (f.sequence + 1) := by
            rintro g hg
            obtain rfl := Option.some.inj hg
            exact hrest
          refine ⟨f.sequence + 1, offerFrame (n := n) ?_ hlow htaken⟩
          refine Delivers.withCore h (Nat.le_refl n) fun g hg => ?_
          exact (htaken g hg).mono (by omega)
      · exact ⟨n, hkept⟩

theorem applyRetainedRemoteInputs {core : GameBoy M} (h : core.NumbersFrom n)
    (inputs : RemoteInputs) : (applyRetainedRemoteInputs core inputs).NumbersFrom n := by
  unfold Runtime.applyRetainedRemoteInputs
  induction inputs.snapshots generalizing core with
  | nil => exact h
  | cons entry rest ih => exact ih (h.setInput entry.1 entry.2.state)

theorem applyModel (h : Delivering n r) (model : Except RuntimeError RuntimeModel) :
    Delivering n (r.applyModel model).2 := by
  cases model with
  | error e => exact h
  | ok model => exact publishControl (r := { r with model := model }) h

/-- A load into a worker without a core and with an empty queue. -/
theorem loadRom (h : Delivering n r) (hidle : r.delivery = .empty) (file : Option (List Byte))
    (fileName : String) (clock : Clock) (sampleRate : Nat) :
    ∃ m, Delivering m (r.loadRom file fileName clock sampleRate).2 := by
  unfold Runtime.loadRom
  cases file with
  | none => exact ⟨n, h⟩
  | some bytes =>
    dsimp only
    split
    · next metadata hok =>
      refine ⟨1, ?_⟩
      show Delivers 1 r.delivery (r.frameLog ++ [.renumbered]) _
      rw [Delivering, hidle] at h
      rw [hidle]
      refine h.renumbered ?_
      rintro g hg
      obtain rfl := Option.some.inj hg
      exact applyRetainedRemoteInputs (.loadRom hok) _
    · exact ⟨n, h⟩

theorem restartCore (h : Delivering n r) (hidle : r.delivery = .empty) :
    ∃ m, Delivering m r.restartCore.2 := by
  unfold Runtime.restartCore
  split
  · exact ⟨n, h⟩
  · split
    · exact ⟨n, h⟩
    · next active hactive =>
      dsimp only
      split
      · next e herror =>
        refine ⟨n, Delivers.withCore h (Nat.le_refl n) ?_⟩
        rintro g hg
        obtain rfl := Option.some.inj hg
        exact ((h.core active hactive).clearInputSource _).reset_error herror
      · next hok =>
        have hstarted : Delivers 1 r.delivery (r.frameLog ++ [.renumbered])
            (some (Runtime.applyRetainedRemoteInputs
              ((active.clearInputSource keyboardInputSource).reset).2 r.remoteInputs)) := by
          rw [Delivering, hidle] at h
          rw [hidle]
          refine h.renumbered ?_
          rintro g hg
          obtain rfl := Option.some.inj hg
          exact applyRetainedRemoteInputs (.reset hok) _
        split <;> exact ⟨1, hstarted⟩

theorem withCore (h : Delivering n r) {f : GameBoy M → GameBoy M}
    (hf : ∀ g : GameBoy M, g.NumbersFrom n → (f g).NumbersFrom n) :
    Delivering n (r.withCore f) := by
  refine Delivers.withCore h (Nat.le_refl n) ?_
  rintro g hg
  obtain ⟨core, hcore, rfl⟩ := Option.map_eq_some_iff.mp hg
  exact hf core (h.core core hcore)

theorem applyControllerEvent (h : Delivering n r) (event : Network.ControllerEvent)
    (generation cancelledThrough : Nat) :
    Delivering n (r.applyControllerEvent event generation cancelledThrough).2 := by
  unfold Runtime.applyControllerEvent
  split
  · exact h
  · split
    · exact h
    · split
      · exact h
      · exact h
      · dsimp only
        split
        · exact h
        · exact withCore h fun g hg => hg.setInput _ _

theorem drainCancelledRemoteInput (h : Delivering n r) (cancelledThrough : Nat) :
    Delivering n (r.drainCancelledRemoteInput cancelledThrough) := by
  unfold Runtime.drainCancelledRemoteInput
  split
  · exact h
  · exact withCore h fun g hg => hg.clearInputSource _

theorem setKeyboardInput (h : Delivering n r) (buttons : List Button) :
    Delivering n (r.setKeyboardInput buttons).2 := by
  unfold Runtime.setKeyboardInput
  split
  · exact h
  · next active hactive =>
    refine Delivers.withCore h (Nat.le_refl n) ?_
    rintro g hg
    obtain rfl := Option.some.inj hg
    exact (h.core active hactive).setInput _ _

/-- The core is dropped and the queue cleared. -/
theorem dropCore (h : Delivering n r) : Delivering n r.dropCore.clearDelivery := by
  refine Delivers.cleared (Delivers.withCore h (Nat.le_refl n) ?_)
  rintro g hg
  cases hg

/-- **Every command keeps the invariant.** -/
theorem handleCommand (h : Delivering n r) {command : Command}
    (hgenuine : command.Genuine r.frameLog) (cancelledThrough : Nat) :
    ∃ m, Delivering m (r.handleCommand command cancelledThrough).2 := by
  cases command with
  | subscribe observer =>
    exact ⟨n, publishControl (r := { r.clearDelivery with observer := some observer })
      h.clearDelivery⟩
  | acknowledgeFrame sequence index => exact ⟨n, h.acknowledgeFrame hgenuine⟩
  | openRom file fileName clock sampleRate =>
    have hbegun : Delivering n
        (Runtime.publishControl { r.dropCore.clearDelivery with
          model := r.dropCore.clearDelivery.model.beginLoad }).2 := publishControl h.dropCore
    have hidle := (publishControl_frame ({ r.dropCore.clearDelivery with
      model := r.dropCore.clearDelivery.model.beginLoad } : Runtime M)).1
    obtain ⟨m, hloaded⟩ := hbegun.loadRom hidle file fileName clock sampleRate
    exact ⟨m, hloaded.publishControl⟩
  | start => exact ⟨n, h.applyModel _⟩
  | pause => exact ⟨n, h.clearDelivery.applyModel _⟩
  | restart =>
    obtain ⟨m, hrestarted⟩ := h.clearDelivery.restartCore rfl
    refine ⟨m, ?_⟩
    show Delivering m (if _ then _ else _)
    split
    · exact hrestarted.publishControl
    · exact hrestarted
  | close => exact ⟨n, publishControl h.dropCore⟩
  | setKeyboardInput buttons => exact ⟨n, h.setKeyboardInput buttons⟩
  | controllerEvent event generation =>
    exact ⟨n, h.applyControllerEvent event generation cancelledThrough⟩
  | snapshot => exact ⟨n, h⟩
  | shutdown => exact ⟨n, h.dropCore⟩

end Delivering

/-- **The invariant holds of every worker.** -/
theorem delivering_of_reachable {r : Runtime M} (h : Reachable (workerSystem M) r) :
    ∃ n, Delivering n r := by
  refine h.invariant (P := fun r => ∃ n, Delivering n r) ?_ ?_
  · rintro r rfl
    exact ⟨1, .initial⟩
  · rintro r s t ⟨n, hr⟩ hstep
    cases s with
    | tick =>
      obtain ⟨-, rfl⟩ := hstep
      exact hr.runTick
    | drain cancelledThrough =>
      obtain rfl := hstep
      exact ⟨n, hr.drainCancelledRemoteInput cancelledThrough⟩
    | command command cancelledThrough =>
      obtain ⟨hgenuine, rfl⟩ := hstep
      exact hr.handleCommand hgenuine cancelledThrough

end Runtime

end Pockiva
