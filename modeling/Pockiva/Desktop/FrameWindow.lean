import Mathlib.Data.List.Induction
import Mathlib.Data.List.Nodup
import Pockiva.Desktop.Runtime
import Pockiva.Lib.Log

/-! # What the client still has to acknowledge

The record of a runtime says which frames were published, which of them is in flight,
and which ones the client has not acknowledged.  A frame is named by its place among
the published ones, since numbers are used again.
-/
namespace Pockiva

structure FrameWindow where
  /-- The published frames, oldest first. -/
  frames : List Frame
  /-- How many frames were published before the core last began to number them. -/
  numberedFrom : Nat
  /-- How many frames were published before the queue was last cleared. -/
  clearedAt : Nat
  inFlight : Option Nat
  /-- The frames of which no acknowledgement has arrived. -/
  unacknowledged : List Nat

namespace FrameWindow

def initial : FrameWindow := ⟨[], 0, 0, none, []⟩

def step (w : FrameWindow) : FrameEvent → FrameWindow
  | .published frame =>
    { w with
      frames := w.frames ++ [frame]
      inFlight := some w.frames.length
      unacknowledged := w.unacknowledged ++ [w.frames.length] }
  | .acknowledged index accepted =>
    { w with
      inFlight := if accepted then none else w.inFlight
      unacknowledged := w.unacknowledged.filter fun i => i != index }
  | .cleared => { w with inFlight := none, clearedAt := w.frames.length }
  | .renumbered => { w with numberedFrom := w.frames.length }

/-- The window after a log. -/
def after (log : List FrameEvent) : FrameWindow := log.foldl step initial

theorem after_snoc (log : List FrameEvent) (e : FrameEvent) :
    after (log ++ [e]) = (after log).step e := List.foldl_concat ..

/-- The number of a published frame. -/
def number (w : FrameWindow) (index : Nat) : Option Nat := w.frames[index]?.map Frame.sequence

/-- The frames published since the queue was last cleared that the client has not
acknowledged. -/
def awaited (w : FrameWindow) : List Nat := w.unacknowledged.filter fun i => w.clearedAt ≤ i

/-- Unacknowledged frames were published, each once. -/
structure Listed (w : FrameWindow) : Prop where
  nodup : w.unacknowledged.Nodup
  lt : ∀ i ∈ w.unacknowledged, i < w.frames.length

theorem listed_after (log : List FrameEvent) : (after log).Listed := by
  induction log using List.reverseRec with
  | nil => exact ⟨List.nodup_nil, fun i hi => absurd hi List.not_mem_nil⟩
  | append_singleton log e ih =>
    obtain ⟨hnodup, hlt⟩ := ih
    rw [after_snoc]
    cases e with
    | published frame =>
      refine ⟨?_, ?_⟩
      · refine List.nodup_append.mpr ⟨hnodup, List.nodup_singleton _, ?_⟩
        intro i hi j hj
        have hbound := hlt i hi
        rw [List.mem_singleton.mp hj]
        omega
      · intro i hi
        show i < ((after log).frames ++ [frame]).length
        rw [List.length_append]
        rcases List.mem_append.mp hi with hi | hi
        · exact Nat.lt_of_lt_of_le (hlt i hi) (Nat.le_add_right _ _)
        · rw [List.mem_singleton.mp hi]
          exact Nat.lt_succ_self _
    | acknowledged index accepted =>
      exact ⟨hnodup.filter _, fun i hi => hlt i (List.mem_of_mem_filter hi)⟩
    | cleared => exact ⟨hnodup, hlt⟩
    | renumbered => exact ⟨hnodup, hlt⟩

/-- Frames are published while none is in flight, and what is accepted is the
acknowledgement of the frame in flight. -/
def Orderly (past : List FrameEvent) : FrameEvent → Prop
  | .published _ => (after past).inFlight = none
  | .acknowledged index true => (after past).inFlight = some index
  | _ => True

/-- **In an orderly log one frame is awaited at most**, the one in flight. -/
theorem inFlight_of_awaited {log : List FrameEvent} (h : Log.Justified Orderly log) :
    ∀ i ∈ (after log).awaited, (after log).inFlight = some i := by
  induction log using List.reverseRec with
  | nil => exact fun i hi => absurd hi List.not_mem_nil
  | append_singleton log e ih =>
    have hbefore := ih h.init
    have he : Orderly log e := h log e [] rfl
    rw [after_snoc]
    intro i hi
    obtain ⟨hmem, hcleared⟩ := List.mem_filter.mp hi
    have hcleared' : ((after log).step e).clearedAt ≤ i := of_decide_eq_true hcleared
    cases e with
    | published frame =>
      rcases List.mem_append.mp hmem with hmem | hmem
      · have hflight := hbefore i (List.mem_filter.mpr ⟨hmem, hcleared⟩)
        exact absurd (hflight.symm.trans he) (by simp)
      · rw [List.mem_singleton.mp hmem]
        rfl
    | acknowledged index accepted =>
      obtain ⟨hmem, hne⟩ := List.mem_filter.mp hmem
      have hflight := hbefore i (List.mem_filter.mpr ⟨hmem, hcleared⟩)
      cases accepted with
      | false => exact hflight
      | true =>
        have hsame : index = i := Option.some.inj (he.symm.trans hflight)
        exact absurd hsame.symm (by simpa using hne)
    | cleared =>
      have hlt : i < (after log).frames.length := (listed_after log).lt i hmem
      exact absurd hcleared' (Nat.not_le_of_lt hlt)
    | renumbered => exact hbefore i (List.mem_filter.mpr ⟨hmem, hcleared⟩)

theorem awaited_length_le_one {log : List FrameEvent} (h : Log.Justified Orderly log) :
    (after log).awaited.length ≤ 1 := by
  have hflight := inFlight_of_awaited h
  have hnodup : (after log).awaited.Nodup := (listed_after log).nodup.filter _
  match hlist : (after log).awaited with
  | [] => exact Nat.zero_le 1
  | [i] => exact Nat.le_refl 1
  | i :: j :: rest =>
    rw [hlist] at hflight hnodup
    have hi := hflight i List.mem_cons_self
    have hj := hflight j (List.mem_cons_of_mem _ List.mem_cons_self)
    have hsame : i = j := Option.some.inj (hi.symm.trans hj)
    exact absurd (hsame ▸ List.mem_cons_self) (List.nodup_cons.mp hnodup).1

end FrameWindow

end Pockiva
