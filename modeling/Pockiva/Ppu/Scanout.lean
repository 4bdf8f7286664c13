import Mathlib.Data.List.Induction
import Pockiva.Ppu.Timing
import Pockiva.Lib.Transition

/-! # What a display controller is for

`Scanout` says what the picture side of the PPU is for, without dots, modes and
registers: a frame is scanned out as the lines 0 to 143 in order, is published once
after the last of them, and ends with the return to line 0; the first frame after
the LCD is switched on is blank.  Its state keeps the rows of the frame so far.
-/
namespace Pockiva

open Transition

/-- The picture made of the rows. -/
def picture (rows : List RenderedRow) : Bytes frameRgbaLen := fun i =>
  match rows[i.val / 640]? with
  | some row => (row.rgba ⟨i.val % 640 / 4, by unfold screenWidth; omega⟩).get (i.val % 4)
  | none => 0xff

structure Scanout where
  /-- The LCD is on. -/
  lit : Bool
  /-- The frame in progress will be blank. -/
  blank : Bool
  /-- The rows of the frame in progress. -/
  rows : List RenderedRow
  /-- The frame in progress, once it is published. -/
  published : Option Frame
  nextSequence : Nat

namespace Scanout

/-- The frame a scanout publishes. -/
def nextFrame (s : Scanout) : Frame :=
  ⟨s.nextSequence, if s.blank then .filled _ 0xff else picture s.rows⟩

/-- **The steps of a scanout.** -/
inductive Step : Scanout → PpuEvent → Scanout → Prop where
  | scanline {s : Scanout} (row : RenderedRow) (hlit : s.lit = true) (hlt : s.rows.length < 144)
      (hpublished : s.published = none) :
      Step s (.scanline s.rows.length row) { s with rows := s.rows ++ [row] }
  | frame {s : Scanout} (hlit : s.lit = true) (hrows : s.rows.length = 144)
      (hpublished : s.published = none) :
      Step s (.frame s.nextFrame)
        { s with
          blank := false
          published := some s.nextFrame
          nextSequence := s.nextSequence + 1 }
  | wrap {s : Scanout} (hlit : s.lit = true) (hrows : s.rows.length = 144)
      (hpublished : s.published.isSome = true) :
      Step s .wrap { s with rows := [], published := none }
  | lcdOff {s : Scanout} (hlit : s.lit = true) :
      Step s .lcdOff { s with lit := false, rows := [], published := none }
  | lcdOn {s : Scanout} (hdark : s.lit = false) :
      Step s .lcdOn { s with lit := true, blank := true, rows := [], published := none }

/-- A scanout as the boot ROM leaves it. -/
def powerOn : Scanout where
  lit := true
  blank := false
  rows := []
  published := none
  nextSequence := 1

def system : System Scanout PpuEvent where
  start := (· = powerOn)
  step := Step

/-! ## The history of the frame in progress -/

/-- The events after which a frame starts anew, or none is in progress. -/
def Boundary (e : PpuEvent) : Prop := e = .wrap ∨ e = .lcdOn ∨ e = .lcdOff

/-- The events of the frame in progress. -/
def events (s : Scanout) : List PpuEvent :=
  s.rows.mapIdx PpuEvent.scanline ++ s.published.toList.map PpuEvent.frame

theorem Step.events_boundary {s t : Scanout} {e : PpuEvent} (h : Step s e t) (he : Boundary e) :
    t.events = [] := by
  cases h with
  | scanline row => rcases he with he | he | he <;> cases he
  | frame => rcases he with he | he | he <;> cases he
  | wrap => rfl
  | lcdOff => rfl
  | lcdOn => rfl

theorem Step.events_append {s t : Scanout} {e : PpuEvent} (h : Step s e t) (he : ¬ Boundary e) :
    t.events = s.events ++ [e] := by
  cases h with
  | scanline row _ _ hpublished => simp [events, hpublished, List.mapIdx_append]
  | frame _ _ hpublished => simp [events, hpublished]
  | wrap => exact absurd (.inl rfl) he
  | lcdOff => exact absurd (.inr (.inr rfl)) he
  | lcdOn => exact absurd (.inr (.inl rfl)) he

/-- Within a frame the state is the history. -/
theorem events_of_run {s t : Scanout} {log : List PpuEvent} (h : Run system s log t)
    (hlog : ∀ e ∈ log, ¬ Boundary e) : t.events = s.events ++ log := by
  induction h with
  | nil => rw [List.append_nil]
  | snoc _ hstep ih =>
    rw [Step.events_append hstep (hlog _ (by simp)),
      ih fun e he => hlog e (List.mem_append_left _ he), List.append_assoc]

/-- A frame is blank exactly if none was published since the LCD was switched on. -/
def BlankSince (log : List PpuEvent) : Prop :=
  ∃ before after, log = before ++ .lcdOn :: after ∧ ∀ f, PpuEvent.frame f ∉ after

/-- The frames of a log. -/
def frames (log : List PpuEvent) : List Frame :=
  log.filterMap fun e => match e with
    | .frame f => some f
    | _ => none

/-- The lines of a log. -/
def scanlines (log : List PpuEvent) : List Nat :=
  log.filterMap fun e => match e with
    | .scanline line _ => some line
    | _ => none

@[simp] theorem frames_append (log more : List PpuEvent) :
    frames (log ++ more) = frames log ++ frames more := List.filterMap_append

/-- **The frames of a run carry consecutive numbers.** -/
theorem sequence_of_run {s t : Scanout} {log : List PpuEvent} (h : Run system s log t) :
    (frames log).map Frame.sequence = List.range' s.nextSequence (frames log).length ∧
      t.nextSequence = s.nextSequence + (frames log).length := by
  induction h with
  | nil => exact ⟨rfl, rfl⟩
  | snoc _ hstep ih =>
    obtain ⟨hseq, hnext⟩ := ih
    rw [frames_append]
    cases hstep with
    | frame =>
      refine ⟨?_, ?_⟩
      · rw [List.map_append, hseq, List.length_append]
        show _ ++ [_] = List.range' _ (_ + 1)
        rw [List.range'_concat, Nat.one_mul]
        exact congrArg _ (congrArg (fun n => [n]) hnext)
      · rw [List.length_append, ← Nat.add_assoc, ← hnext]
        rfl
    | _ =>
      simp only [frames, List.filterMap_cons_none, List.filterMap_nil, List.append_nil]
      exact ⟨hseq, hnext⟩

theorem scanlines_mapIdx (rows : List RenderedRow) :
    scanlines (rows.mapIdx PpuEvent.scanline) = List.range rows.length := by
  induction rows using List.reverseRec with
  | nil => rfl
  | append_singleton rows row ih =>
    rw [List.mapIdx_concat, scanlines, List.filterMap_append, List.length_append]
    show scanlines _ ++ [rows.length] = List.range (rows.length + 1)
    rw [ih, List.range_succ]

/-- **Between two returns to line 0 every line is scanned once, in order.** -/
theorem scanlines_of_run {s t u : Scanout} {log : List PpuEvent} (h : Run system s log t)
    (hs : s.events = []) (hlog : ∀ e ∈ log, ¬ Boundary e) (hwrap : Step t .wrap u) :
    scanlines log = List.range 144 := by
  have hevents := events_of_run h hlog
  rw [hs, List.nil_append] at hevents
  rw [← hevents, events, scanlines, List.filterMap_append]
  cases hwrap with
  | wrap _ hrows hpublished =>
    have hframe : ∀ o : Option Frame,
        (o.toList.map PpuEvent.frame).filterMap (fun e => match e with
          | .scanline line _ => some line
          | _ => none) = ([] : List Nat) := by
      rintro (_ | f) <;> rfl
    rw [hframe, List.append_nil]
    exact (scanlines_mapIdx t.rows).trans (by rw [hrows])

end Scanout

end Pockiva
