import Pockiva.Remote.Lifecycle

/-! # What callers of the manager may rely on

An operation that is under way belongs to one thread, and each step of that thread brings
it nearer to its end, whatever the other threads do.  After a session has ended nothing but
a new start brings a server back or changes what the model shows.
-/
namespace Pockiva
namespace Remote

open Exclusion Transition

namespace Point

/-- How many steps the thread is away from the end of its operation, at most. -/
def rank : Point → Nat
  | .startStop _ _ => 6
  | .startServer _ => 5
  | .finishStart _ _ _ | .endStop _ _ => 4
  | .update _ _ => 3
  | .publish _ _ => 2
  | .complete _ _ _ => 1
  | _ => 0

end Point

namespace RemoteSession

/-- A step of this thread. -/
def Label.IsTurnOf (i : Nat) : Label → Bool
  | .advance j _ => i == j
  | _ => false

variable {s t : RemoteSession} {i j : Nat}

/-! ## Operations come to an end -/

theorem wake_of_claim {p : Point} (h : p.claim ≠ none) : wake p = p := by
  cases p with
  | endAsleep => exact absurd rfl h
  | _ => rfl

/-- A step of one thread at most wakes the others. -/
theorem threads_advance_of_ne (hj : j ≠ i) (o : Outcome) :
    (s.advance i o).threads j = s.threads j ∨
      (s.advance i o).threads j = wake (s.threads j) := by
  have hother : ∀ p : Point, Function.update s.threads i p j = s.threads j :=
    fun _ => Function.update_of_ne hj _ _
  -- One goal for each point of the thread, in the order of `advance`.
  unfold RemoteSession.advance
  split
  · exact .inl rfl
  · exact .inl rfl
  · exact .inl rfl
  · exact .inl rfl
  · unfold lockStart
    split
    · exact .inl (hother _)
    · exact .inl (hother _)
    · split <;> exact .inl (hother _)
  · unfold stopStale
    split <;> exact .inl (hother _)
  · unfold startServer
    split <;> exact .inl (hother _)
  · unfold finishStart
    split <;> exact .inl (hother _)
  · exact .inl (hother _)
  · unfold lockEnd
    split <;> exact .inl (hother _)
  · unfold stopEnded
    split <;> exact .inl (hother _)
  · exact .inl (hother _)
  · unfold updateModel
    split <;> exact .inl (hother _)
  · unfold publishOrdered
    dsimp only
    split <;> exact .inl (hother _)
  · -- Only the end of an operation touches the others: it wakes those that wait for it.
    unfold completeLifecycle
    split
    · refine .inr ?_
      show Function.update (fun j => wake (s.threads j)) i _ j = _
      rw [Function.update_of_ne hj]
    · exact .inl (hother _)
  · unfold receiveEvent
    split
    · exact .inl (hother _)
    · split
      · split <;> exact .inl (hother _)
      · exact .inl (hother _)
  · unfold applyEvent
    split
    · exact .inl (hother _)
    · split <;> exact .inl (hother _)
  · exact .inl (hother _)
  · exact .inl (hother _)
  · exact .inl (hother _)

theorem goto_self (s : RemoteSession) (i : Nat) (p : Point) : (s.goto i p).threads i = p :=
  Function.update_self _ _ _

/-- Besides the thread `publish_ordered` changes only what is about deliveries. -/
theorem exists_publishOrdered_eq (s : RemoteSession) (i : Nat) (delivery : SnapshotDelivery)
    (after : After) : ∃ lastRevision delivered, s.publishOrdered i delivery after = { s with
      lastRevision := lastRevision
      delivered := delivered
      threads := Function.update s.threads i (next delivery.snapshot after) } := by
  unfold publishOrdered
  dsimp only
  split
  · exact ⟨_, _, rfl⟩
  · exact ⟨_, _, rfl⟩

/-- **A step of the thread with the operation brings its end nearer.** -/
theorem Kept.nearer (h : s.Kept) (hclaim : (s.threads i).claim ≠ none) (o : Outcome) :
    (((s.advance i o).threads i).claim = (s.threads i).claim ∧
      ((s.advance i o).threads i).rank < (s.threads i).rank) ∨
    (s.advance i o).lifecycle.operation = .idle := by
  have hfits := h.sound.fits i
  have hself : ∀ p : Point, Function.update s.threads i p i = p :=
    fun _ => Function.update_self _ _ _
  match hi : s.threads i with
  | .startStop epoch stale =>
    refine .inl ?_
    have hadvance : s.advance i o = s.stopStale i o epoch stale := by
      unfold RemoteSession.advance
      rw [hi]
    rw [hadvance]
    cases stale with
    | none =>
      show (Function.update s.threads i _ i).claim = _ ∧ (Function.update s.threads i _ i).rank < _
      rw [hself]
      exact ⟨rfl, Nat.lt_succ_self 5⟩
    | some server =>
      show (Function.update s.threads i _ i).claim = _ ∧ (Function.update s.threads i _ i).rank < _
      rw [hself]
      split
      · exact ⟨rfl, Nat.lt_succ_self 5⟩
      · exact ⟨rfl, (by decide : 3 < 6)⟩
  | .startServer epoch =>
    refine .inl ?_
    have hadvance : s.advance i o = s.startServer i o epoch := by
      unfold RemoteSession.advance
      rw [hi]
    rw [hadvance]
    unfold RemoteSession.startServer
    split
    · show (Function.update s.threads i _ i).claim = _ ∧ (Function.update s.threads i _ i).rank < _
      rw [hself]
      exact ⟨rfl, Nat.lt_succ_self 4⟩
    · rw [goto_self]
      exact ⟨rfl, (by decide : 3 < 5)⟩
  | .finishStart epoch server pairing =>
    refine .inl ?_
    have hadvance : s.advance i o = s.finishStart i epoch server pairing := by
      unfold RemoteSession.advance
      rw [hi]
    have hclaim : (s.threads i).claim = some (epoch, .starting epoch) := by
      rw [hi]
      rfl
    -- The operation is still this thread's own, so the start is not superseded.
    have howned := h.sound.owned hclaim
    rw [hadvance]
    unfold RemoteSession.finishStart
    rw [if_neg (not_not.mpr howned.2.1)]
    show (Function.update s.threads i _ i).claim = _ ∧ (Function.update s.threads i _ i).rank < _
    rw [hself]
    exact ⟨rfl, Nat.lt_succ_self 3⟩
  | .endStop epoch stopped =>
    refine .inl ?_
    have hadvance : s.advance i o = s.stopEnded i o epoch stopped := by
      unfold RemoteSession.advance
      rw [hi]
    rw [hadvance]
    cases stopped with
    | none =>
      show (Function.update s.threads i _ i).claim = _ ∧ (Function.update s.threads i _ i).rank < _
      rw [hself]
      exact ⟨rfl, Nat.lt_succ_self 3⟩
    | some server =>
      show (Function.update s.threads i _ i).claim = _ ∧ (Function.update s.threads i _ i).rank < _
      rw [hself]
      unfold afterStop
      split
      · exact ⟨rfl, Nat.lt_succ_self 3⟩
      · exact ⟨rfl, Nat.lt_succ_self 3⟩
  | .update change after =>
    refine .inl ?_
    have hadvance : s.advance i o = s.updateModel i change after := by
      unfold RemoteSession.advance
      rw [hi]
    rw [hadvance]
    unfold RemoteSession.updateModel
    split
    · -- Only the update of an event can be refused, and an event has no claim.
      rename_i hnone
      rw [hi] at hfits hclaim
      obtain ⟨server, accepted, rfl⟩ := Kept.handled_of_refused hfits hnone
      exact absurd rfl hclaim
    · show (Function.update s.threads i _ i).claim = _ ∧ (Function.update s.threads i _ i).rank < _
      rw [hself]
      refine ⟨?_, Nat.lt_succ_self 2⟩
      cases after <;> rfl
  | .publish delivery after =>
    refine .inl ?_
    have hadvance : s.advance i o = s.publishOrdered i delivery after := by
      unfold RemoteSession.advance
      rw [hi]
    have hpoint : (s.publishOrdered i delivery after).threads i = next delivery.snapshot after := by
      unfold RemoteSession.publishOrdered
      dsimp only
      split <;> exact hself _
    rw [hi] at hclaim
    rw [hadvance, hpoint]
    match after, hclaim with
    | .complete _ _ none, _ | .complete _ _ (some _), _ => exact ⟨rfl, Nat.lt_succ_self 1⟩
    | .done, hclaim | .handled _ _, hclaim => exact absurd rfl hclaim
  | .complete epoch op result =>
    refine .inr ?_
    have hadvance : s.advance i o = s.completeLifecycle i epoch op result := by
      unfold RemoteSession.advance
      rw [hi]
    have hclaim : (s.threads i).claim = some (epoch, op) := by
      rw [hi]
      rfl
    -- The owner completes its operation, which ends it.
    obtain ⟨hepoch, hop, -⟩ := h.sound.owned hclaim
    rw [hadvance]
    unfold RemoteSession.completeLifecycle
    rw [if_pos ⟨hepoch, hop⟩]
  | .idle | .returned _ | .answered _ | .startLock | .superseded _ | .endLock | .endAsleep
  | .snapshot | .eventReceived _ _ | .eventRuntime _ _ | .eventLatency _ | .eventActive _
  | .runtimeFailed _ _ =>
    -- These points are not inside an operation.
    rw [hi] at hclaim
    exact absurd rfl hclaim

/-- Steps of others leave the thread where it is. -/
theorem unmoved (hclaim : (s.threads i).claim ≠ none) {label : Label} (hstep : Step s label t)
    (hother : label.IsTurnOf i = false) : t.threads i = s.threads i := by
  have hbusy : ¬ (s.threads i).Free := by
    intro hfree
    exact hclaim (Kept.claim_of_free hfree).1
  cases hstep with
  | @call j call hfree =>
    refine Function.update_of_ne ?_ _ _
    rintro rfl
    exact hbusy hfree
  | @event j server event hfree _ =>
    refine Function.update_of_ne ?_ _ _
    rintro rfl
    exact hbusy hfree
  | @wake j hasleep =>
    refine Function.update_of_ne ?_ _ _
    rintro rfl
    rw [hasleep] at hclaim
    exact hclaim rfl
  | @advance j outcome =>
    have hne : i ≠ j := by
      rintro rfl
      exact absurd hother (by simp [Label.IsTurnOf])
    rcases threads_advance_of_ne (s := s) hne outcome with hsame | hwoken
    · exact hsame
    · rw [hwoken, wake_of_claim hclaim]

/-- **Along a run an operation goes on towards its end or has ended**: the thread's steps are
bounded by how far it was, whatever the other threads do. -/
theorem operation_goes_on (h : s.Kept) (hclaim : (s.threads i).claim ≠ none)
    {labels : List Label} (hrun : Run system s labels t) :
    ((t.threads i).claim = (s.threads i).claim ∧
      (t.threads i).rank + labels.countP (Label.IsTurnOf i) ≤ (s.threads i).rank) ∨
    ∃ before u after, labels = before ++ after ∧ Run system s before u ∧
      u.lifecycle.operation = .idle := by
  induction hrun with
  | nil => exact .inl ⟨rfl, Nat.le_refl _⟩
  | @snoc labels u v label hprior hstep ih =>
    rcases ih with ⟨hsame, hcount⟩ | ⟨before, w, after, hcut, hw, hidle⟩
    · have hkept : u.Kept := hprior.invariant h fun _ _ _ hu hstep => hu.step hstep
      have hclaim' : (u.threads i).claim ≠ none := by
        rw [hsame]
        exact hclaim
      rw [List.countP_append, List.countP_singleton]
      by_cases hturn : label.IsTurnOf i = true
      · rw [if_pos hturn]
        cases hstep with
        | @advance j outcome =>
          obtain rfl : i = j := by simpa [Label.IsTurnOf] using hturn
          rcases hkept.nearer hclaim' outcome with ⟨hclaimed, hrank⟩ | hidle
          · exact .inl ⟨hclaimed.trans hsame, by omega⟩
          · refine .inr ⟨labels ++ [.advance i outcome], _, [], (List.append_nil _).symm, ?_, hidle⟩
            exact hprior.snoc (.advance outcome ‹_› ‹_› ‹_›)
        | call | event | wake => cases hturn
      · rw [if_neg hturn]
        rw [Bool.not_eq_true] at hturn
        rw [unmoved hclaim' hstep hturn]
        exact .inl ⟨hsame, hcount⟩
    · refine .inr ⟨before, w, after ++ [label], ?_, hw, hidle⟩
      rw [hcut, List.append_assoc]

theorem rank_pos {p : Point} (hclaim : p.claim ≠ none) : 0 < p.rank := by
  cases p with
  | startStop | startServer | finishStart | endStop | complete => exact Nat.succ_pos _
  | update | publish => exact Nat.succ_pos _
  | _ => exact absurd rfl hclaim

/-! ## After the end -/

/-- The session has ended and no start is under way. -/
structure Ended (s : RemoteSession) : Prop where
  server : s.lifecycle.server = none
  stopped : ∀ server, ¬ s.Running server
  off : s.model.model = .initial
  ending : ∀ epoch, s.lifecycle.operation ≠ .starting epoch
  updates : ∀ i change epoch op error,
    s.threads i = .update change (.complete epoch op error) → change = .turnOff

/-- The manager while no `start` gets to its lock. -/
def unstarted : System RemoteSession Label where
  start := system.start
  step s label t := Step s label t ∧ ∀ i o, label = .advance i o → s.threads i ≠ .startLock

namespace Ended

/-- A thread moves and changes nothing else. -/
theorem goto (h : s.Ended) {p : Point}
    (hp : ∀ change epoch op error, p = .update change (.complete epoch op error) →
      change = .turnOff) : (s.goto i p).Ended := by
  refine ⟨h.server, h.stopped, h.off, h.ending, ?_⟩
  exact forall_update (P := fun q : Point => ∀ change epoch op error,
    q = .update change (.complete epoch op error) → change = .turnOff) hp h.updates

/-- No event is handled. -/
theorem unhandled (h : s.Ended) (hs : s.Kept) (server : Nat) :
    (s.threads i).handles ≠ some server :=
  fun hhandles => h.stopped server (hs.sound.handled i server hhandles)

/-- No start is under way. -/
theorem unstarted (h : s.Ended) (hs : s.Kept) (epoch epoch' : Nat) :
    (s.threads i).claim ≠ some (epoch, .starting epoch') := by
  intro hclaim
  exact h.ending epoch' (hs.sound.owned hclaim).2.1

theorem updateModel (h : s.Ended) (hs : s.Kept) {change : Update} {after : After}
    (hi : s.threads i = .update change after) : (s.updateModel i change after).Ended := by
  have hfits := hs.sound.fits i
  rw [hi] at hfits
  unfold RemoteSession.updateModel
  split
  · rename_i hnone
    obtain ⟨server, accepted, rfl⟩ := Kept.handled_of_refused hfits hnone
    exact absurd (by rw [hi]; rfl) (h.unhandled (i := i) hs server)
  · rename_i model hmodel
    have hoff : model.model = .initial := by
      match after, hfits with
      | .done, hfits =>
        obtain ⟨observer, rfl⟩ := hfits
        obtain rfl := Option.some_inj.mp hmodel
        exact h.off
      | .complete epoch op error, _ =>
        obtain rfl := h.updates i _ _ _ _ hi
        obtain rfl := Option.some_inj.mp hmodel
        rfl
      | .handled server accepted, _ =>
        exact absurd (by rw [hi]; rfl) (h.unhandled (i := i) hs server)
    refine ⟨h.server, h.stopped, hoff, h.ending, ?_⟩
    exact forall_update (P := fun q : Point => ∀ change epoch op error,
      q = .update change (.complete epoch op error) → change = .turnOff)
      (by intro _ _ _ _ heq; cases heq) h.updates

theorem publishOrdered (h : s.Ended) (delivery : SnapshotDelivery) (after : After) :
    (s.publishOrdered i delivery after).Ended := by
  have hmoved : (s.goto i (next delivery.snapshot after)).Ended := by
    refine h.goto ?_
    intro change epoch op error heq
    match after, heq with
    | .complete _ _ none, heq | .complete _ _ (some _), heq | .done, heq | .handled _ _, heq =>
      cases heq
  unfold RemoteSession.publishOrdered
  dsimp only
  split
  · exact ⟨hmoved.server, hmoved.stopped, hmoved.off, hmoved.ending, hmoved.updates⟩
  · exact ⟨hmoved.server, hmoved.stopped, hmoved.off, hmoved.ending, hmoved.updates⟩

theorem completeLifecycle (h : s.Ended) (epoch : Nat) (op : LifecycleOperation)
    (result : Except RemoteError RemoteSnapshot) :
    (s.completeLifecycle i epoch op result).Ended := by
  unfold RemoteSession.completeLifecycle
  split
  · refine ⟨h.server, h.stopped, h.off, (by intro _ heq; cases heq), ?_⟩
    refine forall_update (P := fun q : Point => ∀ change epoch op error,
      q = .update change (.complete epoch op error) → change = .turnOff)
      (by intro _ _ _ _ heq; cases heq) ?_
    intro j change epoch op error heq
    refine h.updates j change epoch op error ?_
    revert heq
    cases s.threads j <;> exact fun heq => by cases heq <;> rfl
  · exact h.goto (by intro _ _ _ _ heq; cases heq)

/-- The end of an ended session. -/
theorem lockEnd (h : s.Ended) : (s.lockEnd i).Ended := by
  unfold RemoteSession.lockEnd
  split
  · exact h.goto (by intro _ _ _ _ heq; cases heq)
  · refine ⟨rfl, h.stopped, h.off, (by intro _ heq; cases heq), ?_⟩
    exact forall_update (P := fun q : Point => ∀ change epoch op error,
      q = .update change (.complete epoch op error) → change = .turnOff)
      (by intro _ _ _ _ heq; cases heq) h.updates

theorem advance (h : s.Ended) (hs : s.Kept) (hi : s.threads i ≠ .startLock) (o : Outcome) :
    (s.advance i o).Ended := by
  unfold RemoteSession.advance
  split
  · exact h
  · exact h
  · exact h
  · exact h
  · rename_i hlock
    exact absurd hlock hi
  · rename_i hpoint
    exact absurd (by rw [hpoint]; rfl) (h.unstarted (i := i) hs _ _)
  · rename_i hpoint
    exact absurd (by rw [hpoint]; rfl) (h.unstarted (i := i) hs _ _)
  · rename_i hpoint
    exact absurd (by rw [hpoint]; rfl) (h.unstarted (i := i) hs _ _)
  · rename_i hpoint
    have hfits := hs.sound.fits i
    rw [hpoint] at hfits
    exact hfits.elim
  · exact h.lockEnd
  · rename_i epoch stopped hpoint
    cases stopped with
    | none =>
      refine h.goto ?_
      rintro change epoch op error heq
      cases heq
      rfl
    | some server => exact absurd (hs.sound.taken i server (by rw [hpoint]; rfl)) (h.stopped server)
  · exact h.goto (by intro _ _ _ _ heq; cases heq)
  · rename_i hpoint
    exact h.updateModel hs hpoint
  · exact h.publishOrdered _ _
  · exact h.completeLifecycle _ _ _
  · rename_i hpoint
    exact absurd (by rw [hpoint]; rfl) (h.unhandled (i := i) hs _)
  · rename_i hpoint
    exact absurd (by rw [hpoint]; rfl) (h.unhandled (i := i) hs _)
  · rename_i hpoint
    exact absurd (by rw [hpoint]; rfl) (h.unhandled (i := i) hs _)
  · rename_i hpoint
    exact absurd (by rw [hpoint]; rfl) (h.unhandled (i := i) hs _)
  · rename_i hpoint
    exact absurd (by rw [hpoint]; rfl) (h.unhandled (i := i) hs _)

/-- **Only a start changes what an ended session shows.** -/
theorem step (h : s.Ended) (hs : s.Kept) {label : Label}
    (hstep : RemoteSession.unstarted.step s label t) : t.Ended := by
  obtain ⟨hstep, hunstarted⟩ := hstep
  cases hstep with
  | call call hfree =>
    refine h.goto ?_
    intro change epoch op error heq
    cases call <;> cases heq
  | event event _ hrunning => exact absurd hrunning (h.stopped _)
  | wake => exact h.goto (by intro _ _ _ _ heq; cases heq)
  | advance outcome => exact h.advance hs (hunstarted _ _ rfl) outcome

end Ended

/-- **`end` leaves an ended session.** -/
theorem Kept.ended (h : s.Kept) {epoch e : Nat} {snapshot : RemoteSnapshot}
    (hi : s.threads i = .complete epoch (.ending e) (.ok snapshot)) : s.Ended := by
  have hoff : (s.threads i).TurnedOff := by
    rw [hi]
    exact trivial
  have hclaim : (s.threads i).claim = some (epoch, .ending e) := by
    rw [hi]
    rfl
  refine ⟨h.sound.emptied i hoff.emptied.1, ?_, h.off i hoff, ?_, ?_⟩
  · rintro server ⟨hlt, hlive⟩
    exact hlive (h.sound.none_running hoff.emptied.1 hoff.emptied.2 hlt)
  · intro epoch' hstarting
    cases (h.sound.owned hclaim).2.1.symm.trans hstarting
  · intro j change epoch' op error hj
    have hji : j = i := by
      refine h.sound.custody.single j i ?_ (by rw [hclaim]; exact Option.some_ne_none _)
      rw [hj]
      exact Option.some_ne_none _
    rw [hji, hi] at hj
    cases hj

/-! ## The law of the listener -/

/-- What callers may rely on at every moment. -/
structure ListenerLaw (s : RemoteSession) : Prop where
  /-- One server runs at most. -/
  one : ∀ a b, s.Running a → s.Running b → a = b
  /-- No server is shut down twice, or by two threads. -/
  once : s.shutdowns.Nodup
  stopping : ∀ i a, (s.threads i).stops = some a →
    s.Running a ∧ ∀ j, (s.threads j).stops = some a → j = i
  /-- Every server is shut down before the next one is started and before `end` returns. -/
  beforeStart : ∀ i epoch, s.threads i = .startServer epoch → ∀ a, ¬ s.Running a
  beforeReturn : ∀ i epoch e result, s.threads i = .complete epoch (.ending e) result →
    ∀ a, ¬ s.Running a
  unsuperseded : ∀ i a, s.threads i ≠ .superseded a
  /-- A start that meets an operation is rejected and changes nothing. -/
  rejected : ∀ i j, s.threads i = .startLock → (s.threads j).claim ≠ none → ∀ o,
    ∃ message, s.advance i o = s.goto i (.returned (.error (invalidLifecycle message)))
  /-- Without an operation the lifecycle is idle and nobody waits for it. -/
  idle : (∀ i, (s.threads i).claim = none) →
    s.lifecycle.operation = .idle ∧ ∀ i, s.threads i ≠ .endAsleep
  /-- The thread with the operation can go on, at a shutdown once the events of the server are
  handled, which their threads can do. -/
  able : ∀ i, (s.threads i).claim ≠ none ∨ (∃ a, (s.threads i).handles = some a) → ∀ o,
    (∀ a, (s.threads i).stops = some a → ∀ j, (s.threads j).handles ≠ some a) →
      Step s (.advance i o) (s.advance i o)
  /-- The lifecycle is idle again after so many steps of that thread. -/
  completes : ∀ i, (s.threads i).claim ≠ none → ∀ labels t, Run system s labels t →
    (s.threads i).rank ≤ labels.countP (Label.IsTurnOf i) →
      ∃ before u after, labels = before ++ after ∧ Run system s before u ∧
        u.lifecycle.operation = .idle
  /-- After `end` returned, and until a start, there is no server and the model is off. -/
  ended : ∀ i epoch e snapshot, s.threads i = .complete epoch (.ending e) (.ok snapshot) →
    ∀ o labels t, Run unstarted (s.advance i o) labels t →
      t.lifecycle.server = none ∧ t.model.model = .initial

/-- An operation is marked while a thread carries it out. -/
theorem Kept.busy (h : s.Kept) (hclaim : (s.threads i).claim ≠ none) :
    s.lifecycle.operation ≠ .idle := by
  obtain ⟨⟨epoch, op⟩, hop⟩ := Option.ne_none_iff_exists'.mp hclaim
  exact (h.sound.owned hop).2.2

theorem held_of_stops {p : Point} {server : Nat} (h : p.stops = some server) :
    p.held = some server := by
  cases p with
  | startStop | endStop | superseded => exact h
  | _ => cases h

theorem handles_of_free {p : Point} (h : p.Free) : p.handles = none := by
  cases p with
  | idle | returned | answered => rfl
  | _ => exact h.elim

/-- A thread that carries out an operation or handles an event can go on. -/
theorem able (hi : (s.threads i).claim ≠ none ∨ ∃ a, (s.threads i).handles = some a) (o : Outcome)
    (hhandled : ∀ a, (s.threads i).stops = some a → ∀ j, (s.threads j).handles ≠ some a) :
    Step s (.advance i o) (s.advance i o) := by
  refine .advance o ?_ ?_ hhandled
  · intro hfree
    rcases hi with hclaim | ⟨a, ha⟩
    · exact hclaim (Kept.claim_of_free hfree).1
    · cases (handles_of_free hfree).symm.trans ha
  · intro hasleep
    rw [hasleep] at hi
    rcases hi with hclaim | ⟨a, ha⟩
    · exact hclaim rfl
    · cases ha

/-- A start that meets an operation is rejected. -/
theorem Kept.rejected (h : s.Kept) (hi : s.threads i = .startLock)
    (hj : (s.threads j).claim ≠ none) (o : Outcome) :
    ∃ message, s.advance i o = s.goto i (.returned (.error (invalidLifecycle message))) := by
  have hbusy := h.busy hj
  unfold RemoteSession.advance
  rw [hi]
  dsimp only
  unfold RemoteSession.lockStart
  split
  · exact ⟨_, rfl⟩
  · exact ⟨_, rfl⟩
  · rename_i hidle
    exact absurd hidle hbusy

theorem Kept.stopping (h : s.Kept) {a : Nat} (hi : (s.threads i).stops = some a) :
    s.Running a ∧ ∀ j, (s.threads j).stops = some a → j = i := by
  have hheld := held_of_stops hi
  refine ⟨h.sound.taken i a hheld, fun j hj => ?_⟩
  exact h.sound.eq_of_held (Sound.claim_of_held (h.sound.fits i) hheld) (held_of_stops hj)

/-- **No server runs** at a point where the lifecycle is emptied and the thread has none. -/
theorem Kept.not_running (h : s.Kept) {p : Point} (hi : s.threads i = p) (hemptied : p.Emptied)
    (hheld : p.held = none) (a : Nat) : ¬ s.Running a := by
  rintro ⟨hlt, hlive⟩
  exact hlive (h.sound.none_running (hi ▸ hemptied) (hi ▸ hheld) hlt)

theorem Kept.idle (h : s.Kept) (hnone : ∀ i, (s.threads i).claim = none) :
    s.lifecycle.operation = .idle ∧ ∀ i, s.threads i ≠ .endAsleep := by
  have hidle : s.lifecycle.operation = .idle := by
    by_contra hbusy
    have htoken := Sound.token_ne hbusy
    obtain ⟨i, hi⟩ := h.sound.custody.owner (by rw [htoken]; exact Option.some_ne_none _)
    exact hi (hnone i)
  exact ⟨hidle, h.sound.asleep hidle⟩

theorem Kept.completes (h : s.Kept) (hclaim : (s.threads i).claim ≠ none) {labels : List Label}
    (hrun : Run system s labels t)
    (hturns : (s.threads i).rank ≤ labels.countP (Label.IsTurnOf i)) :
    ∃ before u after, labels = before ++ after ∧ Run system s before u ∧
      u.lifecycle.operation = .idle := by
  rcases operation_goes_on h hclaim hrun with ⟨hsame, hcount⟩ | hended
  · have hpos := rank_pos (p := t.threads i) (by rw [hsame]; exact hclaim)
    exact absurd hcount (by omega)
  · exact hended

theorem Kept.stays_ended (h : s.Kept) {epoch e : Nat} {snapshot : RemoteSnapshot}
    (hi : s.threads i = .complete epoch (.ending e) (.ok snapshot)) (o : Outcome)
    {labels : List Label} (hrun : Run unstarted (s.advance i o) labels t) :
    t.lifecycle.server = none ∧ t.model.model = .initial := by
  have hunhandled : ∀ server, (s.threads i).stops = some server →
      ∀ j, (s.threads j).handles ≠ some server := by
    intro server hstops
    rw [hi] at hstops
    cases hstops
  have hadvanced : (s.advance i o).Kept ∧ (s.advance i o).Ended := by
    refine ⟨h.advance o hunhandled, (h.ended hi).advance h ?_ o⟩
    rw [hi]
    exact nofun
  have hend : t.Kept ∧ t.Ended := by
    refine Run.invariant (P := fun u => u.Kept ∧ u.Ended) hrun hadvanced ?_
    rintro u label v ⟨hu, hended⟩ hstep
    exact ⟨hu.step hstep.1, hended.step hu hstep⟩
  exact ⟨hend.2.server, hend.2.off⟩

end RemoteSession

/-- **The lifecycle of the remote listener**, in every state any number of threads can bring
the manager to, whatever the server factory, the shutdowns and the runtime answer. -/
theorem remote_listener_lifecycle {s : RemoteSession} (h : Reachable RemoteSession.system s) :
    s.ListenerLaw :=
  have hs := RemoteSession.kept_of_reachable h
  { one := fun _ _ ha hb => hs.sound.running_unique ha hb
    once := hs.sound.nodup
    stopping := fun _ _ hi => hs.stopping hi
    beforeStart := fun _ _ hi => hs.not_running hi trivial rfl
    beforeReturn := fun _ _ _ _ hi => hs.not_running hi trivial rfl
    unsuperseded := fun i _ hi => by
      have hfits := hs.sound.fits i
      rw [hi] at hfits
      exact hfits
    rejected := fun _ _ hi hj o => hs.rejected hi hj o
    idle := hs.idle
    able := fun _ hi o hhandled => RemoteSession.able hi o hhandled
    completes := fun _ hclaim _ _ hrun hturns => hs.completes hclaim hrun hturns
    ended := fun _ _ _ _ hi o _ _ hrun => hs.stays_ended hi o hrun }

namespace RemoteSession

theorem reachable_call (h : Reachable system s) {i : Nat} (call : Call)
    (hfree : (s.threads i).Free) : Reachable system (s.goto i (entry call)) :=
  h.step (i := .call i call) (.call call hfree)

/-- A step of a thread that does not wait for a shutdown. -/
theorem reachable_advance (h : Reachable system s) {i : Nat} (o : Outcome)
    (hbusy : ¬ (s.threads i).Free) (hawake : s.threads i ≠ .endAsleep)
    (hstops : (s.threads i).stops = none) : Reachable system (s.advance i o) := by
  refine h.step (i := .advance i o) (.advance o hbusy hawake ?_)
  intro server hserver
  cases hstops.symm.trans hserver

/-- A world in which servers start and stop. -/
def bound : Outcome := ⟨.ok (), .ok ⟨"http://192.168.0.2:4000/", 0⟩, .ok (), 0⟩

/-- Two threads call `start`, and the first one has taken the lifecycle. -/
def startedTwice : RemoteSession := ((new.goto 0 .startLock).advance 0 bound).goto 1 .startLock

/-- The second one is turned away, the first one ends its start, and a third calls `end`, which
takes the server. -/
def endCalled : RemoteSession :=
  (([1, 0, 0, 0, 0, 0, 0].foldl (fun s i => s.advance i bound) startedTwice).goto 2
    .endLock).advance 2 bound

/-- The server is shut down, and `end` is about to return. -/
def endCompletes : RemoteSession := [2, 2, 2].foldl (fun s i => s.advance i bound) endCalled

theorem startedTwice_reachable : Reachable system startedTwice := by
  have hcalled : Reachable system (new.goto 0 .startLock) :=
    reachable_call (.start rfl) .start trivial
  have hlocked := reachable_advance (i := 0) hcalled bound id nofun rfl
  exact reachable_call hlocked (i := 1) .start trivial

theorem endCalled_reachable : Reachable system endCalled := by
  have hrejected := reachable_advance (i := 1) startedTwice_reachable bound id nofun rfl
  have hstopped := reachable_advance (i := 0) hrejected bound id nofun rfl
  have hstarted := reachable_advance (i := 0) hstopped bound id nofun rfl
  have hheld := reachable_advance (i := 0) hstarted bound id nofun rfl
  have hshown := reachable_advance (i := 0) hheld bound id nofun rfl
  have hpublished := reachable_advance (i := 0) hshown bound id nofun rfl
  have hcompleted := reachable_advance (i := 0) hpublished bound id nofun rfl
  have hcalled := reachable_call (i := 2) hcompleted .end trivial
  exact reachable_advance (i := 2) hcalled bound id nofun rfl

theorem endCompletes_reachable : Reachable system endCompletes := by
  have hshut : Reachable system (endCalled.advance 2 bound) := by
    refine endCalled_reachable.step (i := .advance 2 bound) (.advance bound id nofun ?_)
    intro server _ j
    match j with
    | 0 => exact nofun
    | 1 => exact nofun
    | 2 => exact nofun
    | j + 3 => exact nofun
  have hoff := reachable_advance (i := 2) hshut bound id nofun rfl
  exact reachable_advance (i := 2) hoff bound id nofun rfl

end RemoteSession

/-- The server of the first start runs until it is shut down; after `end` has returned there is
none and the model is off. -/
theorem remote_listener_lifecycle_endCompletes :
    RemoteSession.endCalled.Running 0 ∧ RemoteSession.endCompletes.shutdowns = [0] ∧
      (∀ a, ¬ RemoteSession.endCompletes.Running a) ∧
      (RemoteSession.endCompletes.advance 2 RemoteSession.bound).lifecycle.server = none ∧
      (RemoteSession.endCompletes.advance 2 RemoteSession.bound).model.model = .initial := by
  have hlaw := remote_listener_lifecycle RemoteSession.endCompletes_reachable
  have hcompletes : RemoteSession.endCompletes.threads 2 =
      .complete 2 (.ending 2) (.ok RemoteSession.endCompletes.model.model.snapshot) := rfl
  refine ⟨⟨by decide, by decide⟩, rfl, hlaw.beforeReturn 2 2 2 _ hcompletes, ?_⟩
  exact hlaw.ended 2 2 2 _ hcompletes RemoteSession.bound [] _ .nil

end Remote

end Pockiva
