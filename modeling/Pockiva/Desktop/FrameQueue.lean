import Pockiva.Contracts

/-! # The queue of frames for the client

One frame is in flight until the client acknowledges it by its number; of the frames
that come meanwhile the latest one waits.
-/
namespace Pockiva

inductive AcknowledgeError where
  | notInFlight
deriving DecidableEq, Repr

structure FrameQueue where
  inFlightSequence : Option Nat
  latestPending : Option Frame

namespace FrameQueue

/-- `FrameQueue::default()`. -/
def empty : FrameQueue := ⟨none, none⟩

/-- The frame to publish now, if any. -/
def offer (q : FrameQueue) (frame : Frame) : Option Frame × FrameQueue :=
  if q.inFlightSequence.isNone then
    (some frame, { q with inFlightSequence := some frame.sequence })
  else (none, { q with latestPending := some frame })

/-- The frame to publish next, if any. -/
def acknowledge (q : FrameQueue) (sequence : Nat) :
    Except AcknowledgeError (Option Frame) × FrameQueue :=
  if q.inFlightSequence ≠ some sequence then (.error .notInFlight, q)
  else
    (.ok q.latestPending,
      { inFlightSequence := q.latestPending.map Frame.sequence, latestPending := none })

def clear (_ : FrameQueue) : FrameQueue := ⟨none, none⟩

theorem eq_empty {q : FrameQueue} (hflight : q.inFlightSequence = none)
    (hwaiting : q.latestPending = none) : q = .empty := by
  cases q
  cases hflight
  cases hwaiting
  rfl

end FrameQueue

end Pockiva
