import Pockiva.Remote.Listener

/-! # What a step does to the model and to the deliveries

A step makes a version of the model, passes a delivery to `publish_ordered`, or leaves both
alone (`Effect.of_advance`).
-/
namespace Pockiva
namespace Remote

namespace Point

/-- The delivery a thread is about to call `publish_ordered` with. -/
def pending : Point → Option SnapshotDelivery
  | .publish delivery _ => some delivery
  | _ => none

def subscribes : Point → Option Nat
  | .update (.subscribe observer) _ => some observer
  | _ => none

end Point

namespace RemoteSession

/-- A step of thread `i` leaves the model and what was delivered, makes a version, or passes a
delivery. -/
inductive Effect (s : RemoteSession) (i : Nat) (t : RemoteSession) : Prop where
  | quiet (hmodel : t.model = s.model) (hlast : t.lastRevision = s.lastRevision)
      (hdelivered : t.delivered = s.delivered) (hsubscribes : (s.threads i).subscribes = none)
      (hbefore : (s.threads i).pending = none) (hafter : (t.threads i).pending = none)
  | revised (v : ModelState) (hpoint : (∃ change after, s.threads i = .update change after) ∨
        ∃ server, s.threads i = .eventLatency server) (hmodel : t.model = v.revise)
      (hrevision : v.revision = s.model.revision)
      (hobserver : v.observer = (s.threads i).subscribes.or s.model.observer)
      (hlast : t.lastRevision = s.lastRevision) (hdelivered : t.delivered = s.delivered)
      (hbefore : (s.threads i).pending = none)
      (hafter : ∀ delivery, (t.threads i).pending = some delivery → delivery = t.model.delivery)
  | passed (delivery : SnapshotDelivery) (after : After)
      (hi : s.threads i = .publish delivery after) (ht : t = s.publishOrdered i delivery after)

namespace Effect
variable {s : RemoteSession} {i : Nat} {p : Point}

/-- A step that gives the thread a point and leaves the model and the deliveries. -/
theorem frame {t : RemoteSession} (hi : (s.threads i).subscribes = none ∧
    (s.threads i).pending = none) (hmodel : t.model = s.model)
    (hlast : t.lastRevision = s.lastRevision) (hdelivered : t.delivered = s.delivered)
    (hthread : t.threads i = p) (hp : p.pending = none) : Effect s i t := by
  refine .quiet hmodel hlast hdelivered hi.1 hi.2 ?_
  rw [hthread]
  exact hp

theorem goto (hi : (s.threads i).subscribes = none ∧ (s.threads i).pending = none)
    (hp : p.pending = none) : Effect s i (s.goto i p) :=
  .frame hi rfl rfl rfl (goto_self s i p) hp

/-- A change makes a version that keeps the revision and, unless it subscribes one, the
observer. -/
theorem apply_eq {m v : ModelState} {change : Update} (after : After)
    (h : change.apply m = some v) :
    v.revision = m.revision ∧
      v.observer = (Point.update change after).subscribes.or m.observer := by
  cases change with
  | connect controllerId =>
    obtain ⟨model, -, rfl⟩ := Option.map_eq_some_iff.mp h
    exact ⟨rfl, rfl⟩
  | disconnect serverActive =>
    obtain ⟨model, -, rfl⟩ := Option.map_eq_some_iff.mp h
    exact ⟨rfl, rfl⟩
  | _ =>
    obtain rfl := Option.some_inj.mp h
    exact ⟨rfl, rfl⟩

theorem updateModel {change : Update} {after : After} (hi : s.threads i = .update change after) :
    Effect s i (s.updateModel i change after) := by
  unfold RemoteSession.updateModel
  split
  · rename_i hnone
    refine .goto ?_ ?_
    · rw [hi]
      cases change with
      | subscribe observer => cases hnone
      | _ => exact ⟨rfl, rfl⟩
    · cases change <;> rfl
  · rename_i v hv
    obtain ⟨hrevision, hobserver⟩ := apply_eq after hv
    refine .revised v (.inl ⟨change, after, hi⟩) rfl hrevision ?_ rfl rfl (by rw [hi]; rfl) ?_
    · rw [hi]
      exact hobserver
    · intro delivery hdelivery
      have hpoint : Function.update s.threads i (.publish v.revise.delivery after) i = _ :=
        Function.update_self _ _ _
      exact Option.some_inj.mp (hdelivery.symm.trans (congrArg Point.pending hpoint))

theorem of_advance (hbusy : ¬ (s.threads i).Free) (hawake : s.threads i ≠ .endAsleep)
    (o : Outcome) : Effect s i (s.advance i o) := by
  have hself : ∀ p : Point, Function.update s.threads i p i = p :=
    fun _ => Function.update_self _ _ _
  have hpoint : ∀ {p : Point}, s.threads i = p → p.subscribes = none → p.pending = none →
      (s.threads i).subscribes = none ∧ (s.threads i).pending = none := by
    rintro p rfl hsubscribes hpending
    exact ⟨hsubscribes, hpending⟩
  unfold RemoteSession.advance
  split
  · rename_i hi
    exact absurd (by rw [hi]; exact trivial) hbusy
  · rename_i hi
    exact absurd (by rw [hi]; exact trivial) hbusy
  · rename_i hi
    exact absurd (by rw [hi]; exact trivial) hbusy
  · rename_i hi
    exact absurd hi hawake
  all_goals rename_i hi
  · have hquiet := hpoint hi rfl rfl
    unfold lockStart
    split
    · exact .goto hquiet rfl
    · exact .goto hquiet rfl
    · split
      · exact .goto hquiet rfl
      · exact .frame hquiet rfl rfl rfl (hself _) rfl
  · have hquiet := hpoint hi rfl rfl
    unfold stopStale
    split
    · exact .goto hquiet rfl
    · refine .frame hquiet rfl rfl rfl (hself _) ?_
      split <;> rfl
  · have hquiet := hpoint hi rfl rfl
    unfold startServer
    split
    · exact .frame hquiet rfl rfl rfl (hself _) rfl
    · exact .goto hquiet rfl
  · have hquiet := hpoint hi rfl rfl
    unfold finishStart
    split
    · exact .goto hquiet rfl
    · exact .frame hquiet rfl rfl rfl (hself _) rfl
  · exact .frame (hpoint hi rfl rfl) rfl rfl rfl (hself _) rfl
  · have hquiet := hpoint hi rfl rfl
    unfold lockEnd
    split
    · exact .goto hquiet rfl
    · exact .frame hquiet rfl rfl rfl (hself _) rfl
  · have hquiet := hpoint hi rfl rfl
    unfold stopEnded afterStop
    split
    · exact .goto hquiet rfl
    · refine .frame hquiet rfl rfl rfl (hself _) ?_
      split <;> rfl
  · exact .goto (hpoint hi rfl rfl) rfl
  · exact .updateModel hi
  · exact .passed _ _ hi rfl
  · have hquiet := hpoint hi rfl rfl
    unfold completeLifecycle
    split
    · refine .quiet rfl rfl rfl hquiet.1 hquiet.2 ?_
      dsimp only
      rw [Function.update_self]
      rfl
    · exact .goto hquiet rfl
  · have hquiet := hpoint hi rfl rfl
    unfold receiveEvent
    split
    · exact .goto hquiet rfl
    · split
      · split
        · exact .goto hquiet rfl
        · exact .goto hquiet rfl
      · exact .goto hquiet rfl
  · have hquiet := hpoint hi rfl rfl
    unfold applyEvent
    split
    · exact .goto hquiet rfl
    · split
      · exact .goto hquiet rfl
      · exact .goto hquiet rfl
      · exact .goto hquiet rfl
  · refine .revised _ (.inr ⟨_, hi⟩) rfl rfl ?_ rfl rfl (by rw [hi]; rfl) ?_
    · rw [hi]
      rfl
    · intro delivery hdelivery
      have hnone : ((s.recordLatency i o.elapsed).threads i).pending = none :=
        congrArg Point.pending (hself (.answered true))
      cases hnone.symm.trans hdelivery
  · exact .goto (hpoint hi rfl rfl) rfl
  · exact .frame (hpoint hi rfl rfl) rfl rfl rfl (hself _) rfl

end Effect

/-- A step of one thread leaves the deliveries the others are about to pass. -/
theorem pending_advance_of_ne {s : RemoteSession} {i j : Nat} (hj : j ≠ i) (o : Outcome) :
    ((s.advance i o).threads j).pending = (s.threads j).pending := by
  have hwake : ∀ p : Point, (wake p).pending = p.pending := by
    intro p
    cases p <;> rfl
  rcases threads_advance_of_ne (s := s) hj o with hsame | hwoken
  · rw [hsame]
  · rw [hwoken, hwake]

theorem pending_next (snapshot : RemoteSnapshot) (after : After) :
    (next snapshot after).pending = none := by
  match after with
  | .complete _ _ none | .complete _ _ (some _) | .done | .handled _ _ => rfl

theorem threads_publishOrdered (s : RemoteSession) (i : Nat) (delivery : SnapshotDelivery)
    (after : After) : (s.publishOrdered i delivery after).threads =
      Function.update s.threads i (next delivery.snapshot after) := by
  obtain ⟨lastRevision, delivered, heq⟩ := exists_publishOrdered_eq s i delivery after
  rw [heq]

theorem model_publishOrdered (s : RemoteSession) (i : Nat) (delivery : SnapshotDelivery)
    (after : After) : (s.publishOrdered i delivery after).model = s.model := by
  obtain ⟨lastRevision, delivered, heq⟩ := exists_publishOrdered_eq s i delivery after
  rw [heq]

end RemoteSession

end Remote

end Pockiva
