import Pockiva.Desktop.Lifecycle
import Pockiva.Desktop.MockCore

/-! # Frames without an audio device

Without an audio output the worker runs the core by the clock: one tick for each
`frameInterval`, counted from deadline to deadline.  `frame_pacing` states that no run of
the worker ticks in a burst, that no command moves the deadline, and that a worker that
keeps up ticks exactly once for each interval, without drift.
-/
namespace Pockiva

open Transition

variable {M : MixerModel} {G : GainModel M}

namespace RuntimeWorker
variable {Core Output : Type} {w v : RuntimeWorker G Core Output}

/-! ## What leaves the deadline alone -/

theorem publishFrame_deadline (w : RuntimeWorker G Core Output) (frame : Frame) :
    (w.publishFrame frame).nextFrameDeadline = w.nextFrameDeadline := by
  unfold publishFrame
  split
  · rfl
  · split <;> rfl

theorem publishControl_deadline (w : RuntimeWorker G Core Output) :
    w.publishControl.2.nextFrameDeadline = w.nextFrameDeadline := by
  obtain ⟨observer, heq⟩ := w.publishControl_eq
  rw [heq]

theorem offerFrame_deadline (w : RuntimeWorker G Core Output) (frame : Frame) :
    (w.offerFrame frame).nextFrameDeadline = w.nextFrameDeadline := by
  unfold offerFrame
  split
  · rfl
  · dsimp only
    split
    · rw [publishFrame_deadline]
    · rfl

theorem acknowledgeFrame_deadline (w : RuntimeWorker G Core Output) (sequence : Nat) :
    (w.acknowledgeFrame sequence).2.nextFrameDeadline = w.nextFrameDeadline := by
  unfold acknowledgeFrame
  dsimp only
  split
  · rfl
  · split
    · rw [publishFrame_deadline]
    · rfl

theorem applyModel_deadline (w : RuntimeWorker G Core Output)
    (model : Except RuntimeError RuntimeModel) :
    (w.applyModel model).2.nextFrameDeadline = w.nextFrameDeadline := by
  unfold applyModel
  split
  · rfl
  · rw [publishControl_deadline]

variable [EmulatorCore M Core]

theorem drainCancelledRemoteInput_deadline (w : RuntimeWorker G Core Output) (n : Nat) :
    (w.drainCancelledRemoteInput n).nextFrameDeadline = w.nextFrameDeadline := by
  unfold drainCancelledRemoteInput
  split <;> rfl

theorem applyControllerEvent_deadline (w : RuntimeWorker G Core Output)
    (event : Network.ControllerEvent) (generation n : Nat) :
    (w.applyControllerEvent event generation n).2.nextFrameDeadline = w.nextFrameDeadline := by
  unfold applyControllerEvent
  split
  · rfl
  split
  · rfl
  split
  · rfl
  · rfl
  · split <;> rfl

theorem setKeyboardInput_deadline (w : RuntimeWorker G Core Output) (buttons : List Button) :
    (w.setKeyboardInput buttons).2.nextFrameDeadline = w.nextFrameDeadline := by
  unfold setKeyboardInput
  split <;> rfl

theorem restartCore_deadline (w : RuntimeWorker G Core Output) :
    w.restartCore.2.nextFrameDeadline = w.nextFrameDeadline := by
  unfold restartCore
  split
  · rfl
  split
  · rfl
  dsimp only
  split
  · rfl
  · split <;> rfl

variable [AudioOutput G Output]

theorem loadRom_deadline (w : RuntimeWorker G Core Output) (file : Option (List Byte))
    (fileName : Option String) (candidate : Core) (opened : Except AudioBackendError Output) :
    (w.loadRom file fileName candidate opened).2.nextFrameDeadline = w.nextFrameDeadline := by
  unfold loadRom
  split
  · rfl
  · dsimp only
    split <;> rfl

theorem runTick_deadline (w : RuntimeWorker G Core Output) :
    w.runTick.nextFrameDeadline = w.nextFrameDeadline := by
  unfold runTick
  split
  · rw [publishControl_deadline]
    rfl
  · dsimp only
    split
    · split
      · split
        · rw [offerFrame_deadline]
          rfl
        · rfl
      · rfl
    · rw [publishControl_deadline]
      rfl

/-- **No command moves the deadline.** -/
theorem handleCommand_deadline (w : RuntimeWorker G Core Output)
    (command : RuntimeCommand G Core Output) (n : Nat) :
    (w.handleCommand command n).2.nextFrameDeadline = w.nextFrameDeadline := by
  cases command with
  | subscribe observer =>
    unfold handleCommand
    dsimp only
    rw [publishControl_deadline]
  | acknowledgeFrame sequence => exact w.acknowledgeFrame_deadline sequence
  | openRom file fileName candidate opened =>
    unfold handleCommand
    dsimp only
    rw [publishControl_deadline, loadRom_deadline, publishControl_deadline]
    rfl
  | start => exact w.applyModel_deadline _
  | pause =>
    unfold handleCommand
    dsimp only
    rw [applyModel_deadline]
  | restart =>
    unfold handleCommand
    dsimp only
    split
    · rw [publishControl_deadline, restartCore_deadline]
    · rw [restartCore_deadline]
  | close =>
    unfold handleCommand
    dsimp only
    rw [publishControl_deadline]
    rfl
  | setAudioGain gain => rfl
  | setKeyboardInput buttons => exact w.setKeyboardInput_deadline buttons
  | controllerEvent event generation => exact w.applyControllerEvent_deadline event generation n
  | snapshot => rfl
  | shutdown => rfl

theorem receive_deadline (w : RuntimeWorker G Core Output)
    (command : RuntimeCommand G Core Output) (n : Nat) :
    (w.receive command n).2.nextFrameDeadline = w.nextFrameDeadline := by
  unfold receive
  rw [handleCommand_deadline, drainCancelledRemoteInput_deadline]

theorem primeBatches_deadline (n : Nat) (w : RuntimeWorker G Core Output) :
    (primeBatches n w).nextFrameDeadline = w.nextFrameDeadline := by
  induction n generalizing w with
  | zero => rfl
  | succ n ih =>
    unfold primeBatches
    dsimp only
    split
    · exact w.runTick_deadline
    split
    · exact w.runTick_deadline
    split
    · exact w.runTick_deadline
    · rw [ih]
      exact w.runTick_deadline

theorem pumpAudioRuntime_deadline (w : RuntimeWorker G Core Output) :
    w.pumpAudioRuntime.2.nextFrameDeadline = w.nextFrameDeadline := by
  have hpace : ∀ (w : RuntimeWorker G Core Output) queued decision,
      (w.pace queued decision).2.nextFrameDeadline = w.nextFrameDeadline := by
    intro w queued decision
    cases decision with
    | prime =>
      unfold pace
      dsimp only
      split <;> exact primeBatches_deadline _ w
    | runOneBatch => exact w.runTick_deadline
    | wait nanos => rfl
    | backpressured nanos => rfl
    | fallbackFrameDeadline => rfl
  unfold pumpAudioRuntime
  dsimp only
  split
  · split
    · rfl
    · rw [hpace]
  · rfl

/-! ## A round -/

/-- The worker runs, and there is no audio output to pace it. -/
def Silent (w : RuntimeWorker G Core Output) (cancelledThrough : Nat) : Prop :=
  w.model.snapshot.phase = .running ∧
    (w.drainCancelledRemoteInput cancelledThrough).audio.disableIfUnusable.output.isSome = false

/-- **What a round does to the deadline**, and when it ticks. -/
inductive RoundCase (w : RuntimeWorker G Core Output) (cancelledThrough now later : Nat) :
    Option Nat × RuntimeWorker G Core Output → Prop where
  | other {v : RuntimeWorker G Core Output} (h : ¬ w.Silent cancelledThrough) (timeout : Nat)
      (hnone : v.nextFrameDeadline = none) :
      RoundCase w cancelledThrough now later (some timeout, v)
  | waits {v : RuntimeWorker G Core Output} (h : w.Silent cancelledThrough) {deadline : Nat}
      (hset : w.nextFrameDeadline.getD (now + frameInterval) = deadline) (hnow : now < deadline)
      (hkept : v.nextFrameDeadline = some deadline) :
      RoundCase w cancelledThrough now later (some (deadline - now), v)
  | ticks {v : RuntimeWorker G Core Output} (h : w.Silent cancelledThrough) {deadline : Nat}
      (hset : w.nextFrameDeadline = some deadline) (hnow : deadline ≤ now)
      (hnext : v.nextFrameDeadline =
        if v.model.snapshot.phase = .running then some (advanceFrameDeadline deadline later)
        else none) :
      RoundCase w cancelledThrough now later (none, v)

theorem beforeReceive_cases (w : RuntimeWorker G Core Output) (cancelledThrough now later : Nat) :
    RoundCase w cancelledThrough now later (w.beforeReceive cancelledThrough now later) := by
  have hkeeps := (Keeps.refl w).drainCancelledRemoteInput cancelledThrough
  have hdeadline := w.drainCancelledRemoteInput_deadline cancelledThrough
  have hsilent : w.Silent cancelledThrough ↔
      (w.drainCancelledRemoteInput cancelledThrough).model.snapshot.phase = .running ∧
        (w.drainCancelledRemoteInput cancelledThrough).audio.disableIfUnusable.output.isSome =
          false := by
    unfold Silent
    rw [hkeeps.model]
  unfold beforeReceive
  dsimp only
  generalize w.drainCancelledRemoteInput cancelledThrough = drained at hdeadline hsilent ⊢
  by_cases hrunning : drained.model.snapshot.phase = .running
  case neg =>
    rw [if_pos hrunning]
    exact .other (fun h => hrunning (hsilent.mp h).1) _ rfl
  rw [if_neg (not_not.mpr hrunning)]
  cases houtput : drained.audio.disableIfUnusable.output.isSome with
  | true =>
    rw [if_pos rfl]
    refine .other (fun h => ?_) _ (pumpAudioRuntime_deadline _)
    exact Bool.false_ne_true ((hsilent.mp h).2.symm.trans houtput)
  | false =>
    have hsilent := hsilent.mpr ⟨hrunning, houtput⟩
    rw [if_neg Bool.false_ne_true]
    split
    · next hdue =>
      -- A deadline that was just set lies in the future.
      cases hset : w.nextFrameDeadline with
      | none =>
        rw [hdeadline, hset, Option.getD_none] at hdue
        have hpositive : 0 < frameInterval := by decide
        omega
      | some deadline =>
        rw [hdeadline, hset, Option.getD_some] at hdue ⊢
        exact .ticks hsilent hset hdue rfl
    · next hearly =>
      rw [hdeadline] at hearly ⊢
      exact .waits hsilent rfl (Nat.lt_of_not_le hearly) rfl

/-! ## Runs on the clock -/

/-- The clock does not go back: the action takes place at or after `time`. -/
def Action.Follows (time : Nat) : Action G Core Output → Prop
  | .advance _ now later => time ≤ now ∧ now ≤ later
  | _ => True

/-- The time after the action. -/
def Action.endTime (time : Nat) : Action G Core Output → Nat
  | .advance _ _ later => later
  | _ => time

/-- The tick of a round without audio, with its time. -/
def frameTick (w : RuntimeWorker G Core Output) (point : Point) (action : Action G Core Output) :
    List Nat :=
  match point, action with
  | .top, .advance cancelledThrough now later =>
    if (w.beforeReceive cancelledThrough now later).1.isNone then [now] else []
  | _, _ => []

/-- A run of a worker from its spawn on, with the time and the times of the ticks without
audio. -/
inductive Timed : Nat → List Nat → Point × RuntimeWorker G Core Output → Prop where
  | spawn {x : Point × RuntimeWorker G Core Output} (time : Nat)
      (h : (system G Core Output).start x) : Timed time [] x
  | step {time : Nat} {ticks : List Nat} {x y : Point × RuntimeWorker G Core Output}
      {i : Action G Core Output} (h : Timed time ticks x) (hclock : i.Follows time)
      (hstep : x.2.step x.1 i = some y) :
      Timed (i.endTime time) (ticks ++ x.2.frameTick x.1 i) y


/-- **What a step does to the deadline and the ticks.** -/
inductive StepCase (time : Nat) (w v : RuntimeWorker G Core Output) :
    Action G Core Output → List Nat → Prop where
  | aside {action : Action G Core Output} (htime : action.endTime time = time)
      (hkept : v.nextFrameDeadline = w.nextFrameDeadline) : StepCase time w v action []
  | round {cancelledThrough now later : Nat} {timeout : Option Nat}
      (hround : RoundCase w cancelledThrough now later (timeout, v)) :
      StepCase time w v (.advance cancelledThrough now later)
        (if timeout.isNone then [now] else [])

theorem step_cases {time : Nat} {point next : Point} {action : Action G Core Output}
    (hstep : w.step point action = some (next, v)) :
    StepCase time w v action (w.frameTick point action) := by
  unfold step at hstep
  split at hstep
  · next cancelledThrough now later =>
    have hround := w.beforeReceive_cases cancelledThrough now later
    have hcase : ∀ timeout u, w.beforeReceive cancelledThrough now later = (timeout, u) → u = v →
        StepCase time w v (.advance cancelledThrough now later)
          (w.frameTick .top (.advance cancelledThrough now later)) := by
      rintro timeout u heq rfl
      unfold frameTick
      dsimp only
      rw [heq] at hround ⊢
      exact .round hround
    split at hstep
    · next u heq =>
      cases hstep
      exact hcase none _ heq rfl
    · next timeout u heq =>
      cases hstep
      exact hcase (some timeout) _ heq rfl
  · cases hstep
    exact .aside rfl rfl
  · cases hstep
    exact .aside rfl rfl
  · cases hstep
    exact .aside rfl (w.receive_deadline _ _)
  · cases hstep
    exact .aside rfl (w.receive_deadline _ _)
  · cases hstep

/-! ## No bursts -/

/-- Of any two ticks, the later one comes after as many whole intervals as there are ticks
between them. -/
def Spaced (ticks : List Nat) : Prop :=
  ∀ i j s t, ticks[i]? = some s → ticks[j]? = some t → i < j →
    s + (j - i - 1) * frameInterval < t

/-- A tick at the deadline would come late enough after all the others. -/
def Ahead (ticks : List Nat) (deadline : Nat) : Prop :=
  ∀ i s, ticks[i]? = some s → s + (ticks.length - 1 - i) * frameInterval < deadline

theorem Spaced.snoc {ticks : List Nat} {deadline now : Nat} (h : Spaced ticks)
    (hahead : Ahead ticks deadline) (hnow : deadline ≤ now) : Spaced (ticks ++ [now]) := by
  intro i j s t hs ht hlt
  have hj : j < (ticks ++ [now]).length := (List.getElem?_eq_some_iff.mp ht).1
  rw [List.length_append, List.length_singleton] at hj
  rw [List.getElem?_append_left (by omega)] at hs
  by_cases hlast : j < ticks.length
  · rw [List.getElem?_append_left hlast] at ht
    exact h i j s t hs ht hlt
  · obtain rfl : j = ticks.length := by omega
    rw [List.getElem?_concat_length] at ht
    cases ht
    have hspace := hahead i s hs
    have hcount : ticks.length - i - 1 = ticks.length - 1 - i := by omega
    rw [hcount]
    omega

theorem Ahead.snoc {ticks : List Nat} {deadline next now : Nat} (h : Ahead ticks deadline)
    (hinterval : deadline + frameInterval ≤ next) (hnow : now < next) :
    Ahead (ticks ++ [now]) next := by
  intro i s hs
  have hi : i < (ticks ++ [now]).length := (List.getElem?_eq_some_iff.mp hs).1
  rw [List.length_append, List.length_singleton] at hi ⊢
  by_cases hlast : i < ticks.length
  · rw [List.getElem?_append_left hlast] at hs
    have hspace := h i s hs
    have hcount : ticks.length + 1 - 1 - i = ticks.length - 1 - i + 1 := by omega
    rw [hcount, Nat.succ_mul]
    omega
  · obtain rfl : i = ticks.length := by omega
    rw [List.getElem?_concat_length] at hs
    cases hs
    rw [Nat.add_sub_cancel, Nat.sub_self, Nat.zero_mul]
    exact hnow

/-- A deadline that is set anew. -/
theorem Spaced.ahead {ticks : List Nat} {now : Nat} (h : Spaced ticks)
    (hpast : ∀ t ∈ ticks, t ≤ now) : Ahead ticks (now + frameInterval) := by
  intro i s hs
  have hi : i < ticks.length := (List.getElem?_eq_some_iff.mp hs).1
  have hlast : ticks[ticks.length - 1]? = some ticks[ticks.length - 1] :=
    List.getElem?_eq_getElem (by omega)
  have hpositive : 0 < frameInterval := by decide
  by_cases heq : i = ticks.length - 1
  · have hbefore := hpast s (List.mem_of_getElem? hs)
    rw [heq, Nat.sub_self, Nat.zero_mul]
    omega
  · have hspace := h i (ticks.length - 1) s _ hs hlast (by omega)
    have hbefore := hpast _ (List.mem_of_getElem? hlast)
    have hcount : ticks.length - 1 - i = ticks.length - 1 - i - 1 + 1 := by omega
    rw [hcount, Nat.succ_mul]
    omega

/-- The next deadline: an interval later, and never in the past. -/
theorem advanceFrameDeadline_bounds (deadline now : Nat) :
    deadline + frameInterval ≤ advanceFrameDeadline deadline now ∧
      now < advanceFrameDeadline deadline now := by
  have hpositive : 0 < frameInterval := by decide
  unfold advanceFrameDeadline
  split <;> omega

/-- What holds of the ticks and the deadline all along. -/
structure Pacing (time : Nat) (ticks : List Nat) (deadline : Option Nat) : Prop where
  spaced : Spaced ticks
  past : ∀ t ∈ ticks, t ≤ time
  ahead : ∀ d, deadline = some d → Ahead ticks d

theorem Pacing.step {time : Nat} {ticks more : List Nat} {action : Action G Core Output}
    (h : Pacing time ticks w.nextFrameDeadline) (hclock : action.Follows time)
    (hcase : StepCase time w v action more) :
    Pacing (action.endTime time) (ticks ++ more) v.nextFrameDeadline := by
  cases hcase with
  | aside htime hkept =>
    rw [htime, List.append_nil, hkept]
    exact h
  | @round cancelledThrough now later timeout hround =>
    obtain ⟨hnow, hlater⟩ := hclock
    have hpast : ∀ t ∈ ticks, t ≤ now := fun t ht => Nat.le_trans (h.past t ht) hnow
    have hends : ∀ t ∈ ticks, t ≤ later := fun t ht => Nat.le_trans (hpast t ht) hlater
    cases hround with
    | other hother timeout hnone =>
      rw [Option.isNone_some, if_neg Bool.false_ne_true, List.append_nil, hnone]
      exact ⟨h.spaced, hends, nofun⟩
    | waits hsilent hset hearly hkept =>
      rw [Option.isNone_some, if_neg Bool.false_ne_true, List.append_nil, hkept]
      refine ⟨h.spaced, hends, ?_⟩
      rintro _ ⟨⟩
      cases hbefore : w.nextFrameDeadline with
      | none =>
        rw [hbefore, Option.getD_none] at hset
        rw [← hset]
        exact h.spaced.ahead hpast
      | some before =>
        rw [hbefore, Option.getD_some] at hset
        exact h.ahead _ (hbefore.trans (congrArg some hset))
    | ticks hsilent hset hdue hnext =>
      have hahead := h.ahead _ hset
      rw [Option.isNone_none, if_pos rfl]
      refine ⟨h.spaced.snoc hahead hdue, ?_, ?_⟩
      · intro t ht
        rcases List.mem_append.mp ht with hold | hnew
        · exact hends t hold
        · cases List.mem_singleton.mp hnew
          exact hlater
      · intro d hd
        rw [hnext] at hd
        split at hd
        · cases hd
          obtain ⟨hinterval, hafter⟩ := advanceFrameDeadline_bounds _ later
          exact hahead.snoc hinterval (Nat.lt_of_le_of_lt hlater hafter)
        · cases hd

theorem Timed.pacing {time : Nat} {ticks : List Nat} {x : Point × RuntimeWorker G Core Output}
    (h : Timed time ticks x) : Pacing time ticks x.2.nextFrameDeadline := by
  induction h with
  | spawn time h =>
    obtain ⟨sampleRate, prepared, reason, rfl⟩ := h
    exact ⟨nofun, nofun, nofun⟩
  | step _ hclock hstep ih => exact ih.step hclock (step_cases hstep)

/-! ## No drift -/

/-- The worker goes on without audio from a point where `deadline` is set, and keeps up: no
round ends an interval late.  `n` counts the ticks. -/
inductive KeepsUp (deadline : Nat) (x : Point × RuntimeWorker G Core Output) :
    Nat → Nat → Point × RuntimeWorker G Core Output → Prop where
  | start (time : Nat) : KeepsUp deadline x time 0 x
  | step {time n : Nat} {y z : Point × RuntimeWorker G Core Output} {action : Action G Core Output}
      (h : KeepsUp deadline x time n y) (hclock : action.Follows time)
      (hstep : y.2.step y.1 action = some z)
      (hpunctual : ∀ d, y.2.nextFrameDeadline = some d → action.endTime d < d + frameInterval)
      (hsilent : z.2.nextFrameDeadline.isSome = true) :
      KeepsUp deadline x (action.endTime time) (n + (y.2.frameTick y.1 action).length) z

/-- The deadlines are a whole number of intervals apart. -/
theorem KeepsUp.deadline {deadline time n : Nat} {x y : Point × RuntimeWorker G Core Output}
    (h : KeepsUp deadline x time n y) (hset : x.2.nextFrameDeadline = some deadline) :
    y.2.nextFrameDeadline = some (deadline + n * frameInterval) ∧
      (0 < n → deadline + (n - 1) * frameInterval ≤ time) := by
  induction h with
  | start time =>
    rw [Nat.zero_mul]
    exact ⟨hset, nofun⟩
  | @step time n y z action _ hclock hstep hpunctual hsilent ih =>
    obtain ⟨hbefore, hreached⟩ := ih
    have hcase : StepCase time y.2 z.2 action _ := step_cases hstep
    generalize y.2.frameTick y.1 action = more at hcase ⊢
    cases hcase with
    | aside htime hkept =>
      rw [htime, hkept]
      exact ⟨hbefore, hreached⟩
    | @round cancelledThrough now later timeout hround =>
      obtain ⟨hnow, hlater⟩ := hclock
      have hreached : 0 < n → deadline + (n - 1) * frameInterval ≤ later := fun hn => by
        have := hreached hn
        omega
      cases hround with
      | other hother timeout hnone =>
        rw [hnone] at hsilent
        cases hsilent
      | waits _ hwait hearly hkept =>
        rw [hbefore, Option.getD_some] at hwait
        rw [Option.isNone_some, if_neg Bool.false_ne_true, hkept, ← hwait]
        exact ⟨rfl, hreached⟩
      | ticks _ hdue hlate hnext =>
        obtain rfl := Option.some.inj (hbefore.symm.trans hdue)
        have hpunctual : later < deadline + n * frameInterval + frameInterval :=
          hpunctual _ hbefore
        rw [hnext] at hsilent ⊢
        rw [Option.isNone_none, if_pos rfl, List.length_singleton, Nat.add_sub_cancel]
        have hticked : deadline + n * frameInterval ≤ later := by omega
        split at hsilent
        · refine ⟨?_, fun _ => hticked⟩
          rw [if_pos (by assumption), advanceFrameDeadline, if_pos hpunctual, Nat.succ_mul,
            Nat.add_assoc]
        · cases hsilent

/-! ## The law -/

/-- How a worker ticks without audio. -/
structure FramePacingLaw (ticks : List Nat) (x : Point × RuntimeWorker G Core Output) : Prop where
  /-- Any `m` ticks take more than `m - 2` whole intervals. -/
  spaced : Spaced ticks
  /-- No command moves the deadline. -/
  unmoved : ∀ command n, (x.2.receive command n).2.nextFrameDeadline = x.2.nextFrameDeadline
  /-- A round ticks if and only if the deadline has come, and else waits for it. -/
  due : ∀ cancelledThrough now later deadline, x.2.Silent cancelledThrough →
    x.2.nextFrameDeadline = some deadline →
      (x.2.beforeReceive cancelledThrough now later).1 =
        if deadline ≤ now then none else some (deadline - now)
  /-- A worker that keeps up has ticked once for each interval whenever it waits. -/
  steady : ∀ deadline time n y, x.2.nextFrameDeadline = some deadline →
    KeepsUp deadline x time n y → ∀ cancelledThrough now later, y.2.Silent cancelledThrough →
      time ≤ now → (y.2.beforeReceive cancelledThrough now later).1.isSome = true →
        n = (now + frameInterval - deadline) / frameInterval

theorem frame_pacing {time : Nat} {ticks : List Nat} {x : Point × RuntimeWorker G Core Output}
    (h : Timed time ticks x) : FramePacingLaw ticks x := by
  have hdue : ∀ (w : RuntimeWorker G Core Output) cancelledThrough now later deadline,
      w.Silent cancelledThrough → w.nextFrameDeadline = some deadline →
        (w.beforeReceive cancelledThrough now later).1 =
          if deadline ≤ now then none else some (deadline - now) := by
    intro w cancelledThrough now later deadline hsilent hset
    have hround := w.beforeReceive_cases cancelledThrough now later
    generalize w.beforeReceive cancelledThrough now later = result at hround
    cases hround with
    | other hother => exact absurd hsilent hother
    | waits _ hwait hearly =>
      rw [hset, Option.getD_some] at hwait
      subst hwait
      rw [if_neg (Nat.not_le_of_lt hearly)]
    | ticks _ hdue hlate =>
      obtain rfl := Option.some.inj (hset.symm.trans hdue)
      rw [if_pos hlate]
  constructor
  case spaced => exact h.pacing.spaced
  case unmoved => exact x.2.receive_deadline
  case due => exact hdue x.2
  case steady =>
    intro deadline time n y hset hkeeps cancelledThrough now later hsilent hnow hwaits
    obtain ⟨hnext, hreached⟩ := hkeeps.deadline hset
    rw [hdue y.2 cancelledThrough now later _ hsilent hnext] at hwaits
    split at hwaits
    · cases hwaits
    next hearly =>
    have hpositive : 0 < frameInterval := by decide
    have hearly := Nat.lt_of_not_le hearly
    refine (Nat.div_eq_of_lt_le ?_ ?_).symm
    · cases n with
      | zero => omega
      | succ n =>
        have hreached := hreached (Nat.succ_pos n)
        rw [Nat.add_sub_cancel] at hreached
        rw [Nat.succ_mul] at hearly ⊢
        omega
    · rw [Nat.succ_mul]
      omega

/-! ## A worker without a device -/

section Clockwork

/-- A worker with the mock core, on a machine without an audio device. -/
abbrev Clockwork := Deaf (ContractMockCore .mute)

def spawned : Clockwork := deaf (ContractMockCore .mute)

/-- It opens an image of one byte. -/
def openByte : RuntimeCommand AudioQueue.fullGain (ContractMockCore .mute)
    (NoOutput AudioQueue.fullGain) := openImage (.new 48000) [0]

/-- The worker after it has opened the image and started. -/
def playing : Clockwork := ((spawned.receive openByte 0).2.receive .start 0).2

/-- It waits for its first deadline at time 7, and ticks when that has come. -/
def ticked : Clockwork :=
  ((playing.beforeReceive 0 7 7).2.beforeReceive 0 (7 + frameInterval) (9 + frameInterval)).2

theorem frame_pacing_clockwork : FramePacingLaw [7 + frameInterval] (.top, ticked) ∧
    ticked.nextFrameDeadline = some (7 + frameInterval + frameInterval) := by
  have hspawned : Timed 0 [] (.top, spawned) := .spawn 0 ⟨48000, none, none, rfl⟩
  have hwaits : Timed 0 [] (.receiving, spawned) :=
    hspawned.step (i := .advance 0 0 0) ⟨by decide, by decide⟩ rfl
  have hopened : Timed 0 [] (.top, (spawned.receive openByte 0).2) :=
    hwaits.step (i := .command openByte 0) trivial rfl
  have hidles : Timed 0 [] (.receiving, (spawned.receive openByte 0).2) :=
    hopened.step (i := .advance 0 0 0) ⟨by decide, by decide⟩ rfl
  have hplays : Timed 0 [] (.top, playing) :=
    hidles.step (i := .command .start 0) trivial rfl
  have hset : Timed 7 [] (.receiving, (playing.beforeReceive 0 7 7).2) :=
    hplays.step (i := .advance 0 7 7) ⟨by decide, by decide⟩ rfl
  have hagain : Timed 7 [] (.top, (playing.beforeReceive 0 7 7).2) :=
    hset.step (i := .timeout) trivial rfl
  have hticked : Timed (9 + frameInterval) [7 + frameInterval] (.top, ticked) :=
    hagain.step (i := .advance 0 (7 + frameInterval) (9 + frameInterval))
      ⟨by decide, by decide⟩ rfl
  exact ⟨frame_pacing hticked, by decide⟩

end Clockwork

end RuntimeWorker

end Pockiva
