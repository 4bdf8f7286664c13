import Pockiva.Lib.Records
import Pockiva.Remote.Effects
import Mathlib.Data.List.Pairwise

/-! # The delivery of snapshots is ordered

A thread captures the snapshot it delivers under the lock of the model, and delivers it under
another lock, so deliveries arrive in any order.  Only the records among their revisions
reach an observer (`Records.records`).
-/
namespace Pockiva
namespace Remote

open Transition Records

/-! ## The history of a run -/

/-- An observer and the first revision it is there for. -/
structure Subscription where
  revision : Nat
  observer : Nat
deriving DecidableEq

/-- The model state after each change, the subscriptions, the deliveries threads captured,
and those `publish_ordered` was called with. -/
structure History where
  versions : List ModelState
  subscriptions : List Subscription
  captured : List SnapshotDelivery
  passed : List SnapshotDelivery

namespace History

/-- The last subscription up to a revision. -/
def inForce (h : History) (revision : Nat) : Option Subscription :=
  (h.subscriptions.filter fun n => n.revision ≤ revision).getLast?

/-- What a step adds to the history. -/
def note (h : History) (s t : RemoteSession) : RemoteSession.Label → History
  | .advance i _ =>
    { versions := if t.model = s.model then h.versions else h.versions ++ [t.model]
      subscriptions := h.subscriptions ++
        (s.threads i).subscribes.toList.map fun observer => ⟨t.model.revision, observer⟩
      captured := h.captured ++ (t.threads i).pending.toList
      passed := h.passed ++ (s.threads i).pending.toList }
  | _ => h

def new : History := ⟨[RemoteSession.new.model], [], [], []⟩

end History

/-- The manager and the history of its run. -/
def RemoteSession.recorded : System (RemoteSession × History) RemoteSession.Label where
  start x := x = (RemoteSession.new, History.new)
  step x label y := RemoteSession.Step x.1 label y.1 ∧ y.2 = x.2.note x.1 y.1 label

/-- Every run has a history. -/
theorem RemoteSession.exists_history {s : RemoteSession} (h : Reachable RemoteSession.system s) :
    ∃ history, Reachable RemoteSession.recorded (s, history) := by
  induction h with
  | start h =>
    obtain rfl : _ = RemoteSession.new := h
    exact ⟨History.new, .start rfl⟩
  | step _ hstep ih =>
    obtain ⟨history, hreach⟩ := ih
    exact ⟨history.note _ _ _, hreach.step ⟨hstep, rfl⟩⟩

/-- A history only grows. -/
theorem History.length_note (h : History) (s t : RemoteSession) (label : RemoteSession.Label) :
    h.versions.length ≤ (h.note s t label).versions.length := by
  cases label with
  | advance i o =>
    unfold History.note
    dsimp only
    split
    · exact le_rfl
    · rw [List.length_append]
      exact Nat.le_add_right _ _
  | _ => exact le_rfl

/-- What a step adds that makes a version. -/
theorem History.note_of_revised (h : History) {s t : RemoteSession} {i : Nat} {o : Outcome}
    (hne : t.model ≠ s.model) (hbefore : (s.threads i).pending = none) :
    h.note s t (.advance i o) = ⟨h.versions ++ [t.model],
      h.subscriptions ++ (s.threads i).subscribes.toList.map fun observer =>
        ⟨t.model.revision, observer⟩,
      h.captured ++ (t.threads i).pending.toList, h.passed⟩ := by
  unfold History.note
  dsimp only
  rw [if_neg hne, hbefore, Option.toList_none, List.append_nil]

/-- What a call of `publish_ordered` adds. -/
theorem History.note_publishOrdered (h : History) {s : RemoteSession} {i : Nat} {o : Outcome}
    {delivery : SnapshotDelivery} {after : After} (hi : s.threads i = .publish delivery after) :
    h.note s (s.publishOrdered i delivery after) (.advance i o) =
      { h with passed := h.passed ++ [delivery] } := by
  unfold History.note
  dsimp only
  rw [RemoteSession.model_publishOrdered, RemoteSession.threads_publishOrdered,
    Function.update_self, RemoteSession.pending_next, hi]
  simp [Point.subscribes, Point.pending]

/-- A later subscription is not in force yet. -/
theorem History.inForce_append_of_lt (h : History) {k revision : Nat} (hk : k < revision)
    {subscriber : Option Nat} {versions : List ModelState}
    {captured passed : List SnapshotDelivery} :
    History.inForce ⟨versions,
      h.subscriptions ++ subscriber.toList.map fun observer => ⟨revision, observer⟩,
      captured, passed⟩ k = h.inForce k := by
  have hnone : (subscriber.toList.map fun observer =>
      (⟨revision, observer⟩ : Subscription)).filter (fun n => n.revision ≤ k) = [] := by
    refine List.filter_eq_nil_iff.mpr fun n hn => ?_
    obtain ⟨observer, -, rfl⟩ := List.mem_map.mp hn
    rw [decide_eq_true_eq]
    exact Nat.not_le.mpr hk
  unfold History.inForce
  rw [List.filter_append, hnone, List.append_nil]

/-! ## Versions -/

/-- The versions are numbered by their revisions, and each has the observer in force. -/
structure Versioned (h : History) (m : ModelState) : Prop where
  current : h.versions[m.revision]? = some m
  length : h.versions.length = m.revision + 1
  numbered : ∀ (k : Nat) (v : ModelState), h.versions[k]? = some v → v.revision = k
  ordered : h.subscriptions.Pairwise fun a b => a.revision ≤ b.revision
  known : ∀ n ∈ h.subscriptions, n.revision ≤ m.revision
  subscribed : ∀ (k : Nat) (v : ModelState), h.versions[k]? = some v →
    v.observer = (h.inForce k).map Subscription.observer

namespace Versioned
variable {h : History} {m v : ModelState}

/-- A later revision has no earlier subscription in force. -/
theorem inForce_mono (hv : Versioned h m) {r r' : Nat} (hle : r ≤ r') {n : Subscription}
    (hn : h.inForce r = some n) : ∃ n', h.inForce r' = some n' ∧ n.revision ≤ n'.revision := by
  have hmem := List.mem_filter.mp (List.mem_of_getLast? hn)
  have hn' : n ∈ h.subscriptions.filter fun n => n.revision ≤ r' := by
    have hrevision : n.revision ≤ r' := (of_decide_eq_true hmem.2).trans hle
    exact List.mem_filter.mpr ⟨hmem.1, decide_eq_true hrevision⟩
  have hne := List.ne_nil_of_mem hn'
  refine ⟨_, List.getLast?_eq_some_getLast hne, ?_⟩
  exact (hv.ordered.filter _).rel_getLast_of_rel_getLast_getLast hn' le_rfl

theorem inForce_mem {r : Nat} {n : Subscription} (hn : h.inForce r = some n) :
    n ∈ h.subscriptions := (List.mem_filter.mp (List.mem_of_getLast? hn)).1

/-- The observer of a version was subscribed. -/
theorem exists_inForce (hv : Versioned h m) {k observer : Nat} (hk : h.versions[k]? = some v)
    (hobserver : v.observer = some observer) :
    ∃ n, h.inForce k = some n ∧ n.observer = observer := by
  have hmap := (hv.subscribed k v hk).symm.trans hobserver
  exact Option.map_eq_some_iff.mp hmap

/-- The new subscription is in force from its revision on, or the last one still is. -/
theorem inForce_append_self (hv : Versioned h m) {revision : Nat} (hlater : m.revision < revision)
    {subscriber : Option Nat} {versions : List ModelState}
    {captured passed : List SnapshotDelivery} :
    (History.inForce ⟨versions,
      h.subscriptions ++ subscriber.toList.map fun observer => ⟨revision, observer⟩,
      captured, passed⟩ revision).map Subscription.observer = subscriber.or m.observer := by
  unfold History.inForce
  dsimp only
  rw [List.filter_append, List.getLast?_append]
  cases subscriber with
  | none =>
    have hall : h.subscriptions.filter (fun n => n.revision ≤ revision) =
        h.subscriptions.filter (fun n => n.revision ≤ m.revision) := by
      refine List.filter_congr fun n hn => ?_
      have hle := hv.known n hn
      rw [decide_eq_true hle, decide_eq_true]
      omega
    rw [hall]
    exact (hv.subscribed m.revision m hv.current).symm
  | some observer => simp

/-- **A new version**, with the observer of the last one or a new one. -/
theorem extend (hv : Versioned h m) (hrevision : v.revision = m.revision + 1)
    {subscriber : Option Nat} (hobserver : v.observer = subscriber.or m.observer)
    (captured passed : List SnapshotDelivery) :
    Versioned ⟨h.versions ++ [v],
      h.subscriptions ++ subscriber.toList.map fun observer => ⟨v.revision, observer⟩,
      captured, passed⟩ v where
  current := by
    rw [hrevision, ← hv.length]
    exact List.getElem?_concat_length
  length := by
    rw [List.length_append, hv.length, hrevision]
    rfl
  numbered k w hk := by
    rcases Nat.lt_trichotomy k h.versions.length with hlt | heq | hgt
    · rw [List.getElem?_append_left hlt] at hk
      exact hv.numbered k w hk
    · rw [heq, List.getElem?_concat_length] at hk
      rw [← Option.some_inj.mp hk, heq, hrevision, hv.length]
    · rw [List.getElem?_eq_none] at hk
      · cases hk
      · rw [List.length_append]
        exact hgt
  ordered := by
    refine List.pairwise_append.mpr ⟨hv.ordered, ?_, ?_⟩
    · cases subscriber with
      | none => exact .nil
      | some observer => exact List.pairwise_singleton _ _
    · intro a ha b hb
      obtain ⟨observer, -, rfl⟩ := List.mem_map.mp hb
      have hle := hv.known a ha
      dsimp only
      omega
  known n hn := by
    rcases List.mem_append.mp hn with hold | hnew
    · have hle := hv.known n hold
      omega
    · obtain ⟨observer, -, rfl⟩ := List.mem_map.mp hnew
      exact le_rfl
  subscribed k w hk := by
    rcases Nat.lt_or_ge k h.versions.length with hlt | hge
    · have hold : k < v.revision := by
        have hlength := hv.length
        omega
      rw [List.getElem?_append_left hlt] at hk
      rw [h.inForce_append_of_lt hold]
      exact hv.subscribed k w hk
    · have hlast : k = v.revision := by
        have hlt := (List.getElem?_eq_some_iff.mp hk).1
        have hlength := hv.length
        rw [List.length_append, List.length_singleton] at hlt
        omega
      have hnew : w = v := by
        rw [hlast, hrevision, ← hv.length, List.getElem?_concat_length] at hk
        exact (Option.some_inj.mp hk).symm
      rw [hnew, hlast, hobserver, hv.inForce_append_self (by omega)]

end Versioned

/-! ## The records are delivered -/

/-- What an observer gets of a delivery. -/
def SnapshotDelivery.handed (d : SnapshotDelivery) : List Delivered :=
  d.observer.toList.map fun observer => ⟨d.revision, observer, d.snapshot⟩

/-- Every captured delivery is passed or about to be, and of those passed the records were
handed out. -/
structure Tracked (s : RemoteSession) (h : History) : Prop where
  versioned : Versioned h s.model
  genuine : ∀ d ∈ h.captured,
    0 < d.revision ∧ ∃ v, h.versions[d.revision]? = some v ∧ d = v.delivery
  pending : ∀ i d, (s.threads i).pending = some d → d ∈ h.captured
  passed : ∀ d ∈ h.passed, d ∈ h.captured
  accounted : ∀ d ∈ h.captured, d ∈ h.passed ∨ ∃ i, (s.threads i).pending = some d
  last : s.lastRevision = top SnapshotDelivery.revision 0 h.passed
  delivered : s.delivered =
    (records SnapshotDelivery.revision 0 h.passed).flatMap SnapshotDelivery.handed

namespace Tracked
variable {s t : RemoteSession} {h : History} {i : Nat}

theorem new : Tracked .new .new where
  versioned := by
    have honly : ∀ (k : Nat) (v : ModelState), History.new.versions[k]? = some v →
        k = 0 ∧ v = RemoteSession.new.model := by
      intro k v hk
      cases k with
      | zero => exact ⟨rfl, (Option.some_inj.mp hk).symm⟩
      | succ k => cases hk
    refine ⟨rfl, rfl, ?_, .nil, fun _ h => absurd h List.not_mem_nil, ?_⟩
    · intro k v hk
      obtain ⟨rfl, rfl⟩ := honly k v hk
      rfl
    · intro k v hk
      obtain ⟨rfl, rfl⟩ := honly k v hk
      rfl
  genuine _ h := absurd h List.not_mem_nil
  pending _ _ h := by cases h
  passed _ h := absurd h List.not_mem_nil
  accounted _ h := absurd h List.not_mem_nil
  last := rfl
  delivered := rfl

/-- The deliveries the threads are about to pass are all that matters of them. -/
theorem frame (hs : Tracked s h) (hmodel : t.model = s.model)
    (hlast : t.lastRevision = s.lastRevision) (hdelivered : t.delivered = s.delivered)
    (hpending : ∀ j, (t.threads j).pending = (s.threads j).pending) : Tracked t h where
  versioned := hmodel ▸ hs.versioned
  genuine := hs.genuine
  pending j d hj := hs.pending j d ((hpending j).symm.trans hj)
  passed := hs.passed
  accounted d hd := (hs.accounted d hd).imp_right fun ⟨j, hj⟩ => ⟨j, (hpending j).trans hj⟩
  last := hlast.trans hs.last
  delivered := hdelivered.trans hs.delivered

/-- Two captured deliveries of one revision are the same. -/
theorem eq_of_revision (hs : Tracked s h) {d e : SnapshotDelivery} (hd : d ∈ h.captured)
    (he : e ∈ h.captured) (heq : d.revision = e.revision) : d = e := by
  obtain ⟨-, v, hv, hdv⟩ := hs.genuine d hd
  obtain ⟨-, w, hw, hew⟩ := hs.genuine e he
  rw [heq] at hv
  rw [hdv, hew, Option.some_inj.mp (hv.symm.trans hw)]

/-- A thread makes a version and may capture it. -/
theorem revised (hs : Tracked s h) {v : ModelState} {subscriber : Option Nat}
    {fresh : Option SnapshotDelivery} (hversioned : Versioned
      ⟨h.versions ++ [v], h.subscriptions ++ subscriber.toList.map fun observer =>
        ⟨v.revision, observer⟩, h.captured ++ fresh.toList, h.passed⟩ t.model)
    (hfresh : ∀ d, fresh = some d → d = t.model.delivery) (hpos : 0 < t.model.revision)
    (hi : (t.threads i).pending = fresh) (hnone : (s.threads i).pending = none)
    (hother : ∀ j, j ≠ i → (t.threads j).pending = (s.threads j).pending)
    (hlast : t.lastRevision = s.lastRevision) (hdelivered : t.delivered = s.delivered) :
    Tracked t ⟨h.versions ++ [v], h.subscriptions ++ subscriber.toList.map fun observer =>
      ⟨v.revision, observer⟩, h.captured ++ fresh.toList, h.passed⟩ where
  versioned := hversioned
  genuine d hd := by
    rcases List.mem_append.mp hd with hold | hnew
    · obtain ⟨hlt, w, hw, hdw⟩ := hs.genuine d hold
      refine ⟨hlt, w, ?_, hdw⟩
      dsimp only
      rw [List.getElem?_append_left (List.getElem?_eq_some_iff.mp hw).1]
      exact hw
    · obtain rfl := hfresh d (Option.mem_toList.mp hnew)
      exact ⟨hpos, t.model, hversioned.current, rfl⟩
  pending j d hj := by
    by_cases hji : j = i
    · rw [hji, hi] at hj
      exact List.mem_append_right _ (Option.mem_toList.mpr hj)
    · rw [hother j hji] at hj
      exact List.mem_append_left _ (hs.pending j d hj)
  passed d hd := List.mem_append_left _ (hs.passed d hd)
  accounted d hd := by
    rcases List.mem_append.mp hd with hold | hnew
    · -- The acting thread was about to pass nothing, so no delivery is lost.
      refine (hs.accounted d hold).imp_right ?_
      rintro ⟨j, hj⟩
      refine ⟨j, (hother j ?_).trans hj⟩
      rintro rfl
      cases hnone.symm.trans hj
    · exact .inr ⟨i, hi.trans (Option.mem_toList.mp hnew)⟩
  last := hlast.trans hs.last
  delivered := hdelivered.trans hs.delivered

/-- **A delivery is passed**: it is handed out if it is a record. -/
theorem publishOrdered (hs : Tracked s h) {delivery : SnapshotDelivery} {after : After}
    (hi : s.threads i = .publish delivery after) :
    Tracked (s.publishOrdered i delivery after) { h with passed := h.passed ++ [delivery] } := by
  have hpending : (s.threads i).pending = some delivery := by
    rw [hi]
    rfl
  refine ⟨?_, hs.genuine, ?_, ?_, ?_, ?_, ?_⟩
  · rw [RemoteSession.model_publishOrdered]
    exact ⟨hs.versioned.current, hs.versioned.length, hs.versioned.numbered,
      hs.versioned.ordered, hs.versioned.known, hs.versioned.subscribed⟩
  · intro j d hj
    rw [RemoteSession.threads_publishOrdered] at hj
    by_cases hji : j = i
    · rw [hji, Function.update_self, RemoteSession.pending_next] at hj
      cases hj
    · rw [Function.update_of_ne hji] at hj
      exact hs.pending j d hj
  · intro d hd
    rcases List.mem_append.mp hd with hold | hnew
    · exact hs.passed d hold
    · rw [List.mem_singleton.mp hnew]
      exact hs.pending i delivery hpending
  · intro d hd
    rcases hs.accounted d hd with hpassed | ⟨j, hj⟩
    · exact .inl (List.mem_append_left _ hpassed)
    · by_cases hji : j = i
      · rw [hji] at hj
        obtain rfl := Option.some_inj.mp (hpending.symm.trans hj)
        exact .inl (List.mem_append_right _ List.mem_cons_self)
      · refine .inr ⟨j, ?_⟩
        rw [RemoteSession.threads_publishOrdered, Function.update_of_ne hji]
        exact hj
  · rw [top_snoc, ← hs.last]
    unfold RemoteSession.publishOrdered
    dsimp only
    split
    · rename_i hle
      exact (max_eq_left hle).symm
    · rename_i hlt
      exact (max_eq_right (le_of_not_ge hlt)).symm
  · rw [records_snoc, List.flatMap_append, ← hs.last, ← hs.delivered]
    unfold RemoteSession.publishOrdered
    dsimp only
    split
    · exact (List.append_nil _).symm
    · rw [List.flatMap_singleton]
      rfl

/-- **A step of a thread keeps track** while there are fewer than `2 ^ 64` revisions. -/
theorem advance (hs : Tracked s h) (hbusy : ¬ (s.threads i).Free)
    (hawake : s.threads i ≠ .endAsleep) (o : Outcome)
    (hfew : (h.note s (s.advance i o) (.advance i o)).versions.length ≤ 2 ^ 64) :
    Tracked (s.advance i o) (h.note s (s.advance i o) (.advance i o)) := by
  have hother : ∀ j, j ≠ i → ((s.advance i o).threads j).pending = (s.threads j).pending :=
    fun j hj => RemoteSession.pending_advance_of_ne hj o
  cases RemoteSession.Effect.of_advance hbusy hawake o with
  | quiet hmodel hlast hdelivered hsubscribes hbefore hafter =>
    have hnote : h.note s (s.advance i o) (.advance i o) = h := by
      unfold History.note
      simp [hmodel, hsubscribes, hbefore, hafter]
    rw [hnote]
    refine hs.frame hmodel hlast hdelivered fun j => ?_
    by_cases hji : j = i
    · rw [hji, hbefore, hafter]
    · exact hother j hji
  | revised v _ hmodel hrevision hobserver hlast hdelivered hbefore hafter =>
    have hnext : (s.advance i o).model.revision = (s.model.revision + 1) % 2 ^ 64 := by
      rw [hmodel, ← hrevision]
      rfl
    -- The next number differs even where the counter wraps around, so the version is a new one.
    have hne : (s.advance i o).model ≠ s.model := by
      intro heq
      have hlength := hs.versioned.length
      have hle : h.versions.length ≤ 2 ^ 64 := (h.length_note _ _ _).trans hfew
      rw [heq] at hnext
      omega
    rw [h.note_of_revised hne hbefore] at hfew ⊢
    have hsucc : (s.advance i o).model.revision = s.model.revision + 1 := by
      have hlength := hs.versioned.length
      rw [List.length_append, List.length_singleton] at hfew
      omega
    refine hs.revised ?_ hafter (by omega) rfl hbefore hother hlast hdelivered
    refine hs.versioned.extend hsucc ?_ _ _
    rw [hmodel]
    exact hobserver
  | passed delivery after hi ht =>
    rw [ht, h.note_publishOrdered hi]
    exact hs.publishOrdered hi

/-- **Every step keeps track** while there are fewer than `2 ^ 64` revisions. -/
theorem step (hs : Tracked s h) {label : RemoteSession.Label}
    (hstep : RemoteSession.Step s label t)
    (hfew : (h.note s t label).versions.length ≤ 2 ^ 64) : Tracked t (h.note s t label) := by
  have hgoto : ∀ {i : Nat} {p : Point}, p.pending = (s.threads i).pending →
      Tracked (s.goto i p) h := by
    intro i p hp
    refine hs.frame rfl rfl rfl fun j => ?_
    exact Exclusion.update_agrees hp j
  have hfree : ∀ {p : Point}, p.Free → p.pending = none := by
    intro p hp
    cases p with
    | publish => exact hp.elim
    | _ => rfl
  cases hstep with
  | @call i call hi =>
    refine hgoto ?_
    rw [hfree hi]
    cases call <;> rfl
  | event event hi _ => exact hgoto (hfree hi).symm
  | wake hasleep =>
    refine hgoto ?_
    rw [hasleep]
    rfl
  | advance o hbusy hawake _ => exact hs.advance hbusy hawake o hfew

end Tracked

/-! ## The law -/

/-- What holds of the deliveries at every moment of a run. -/
structure DeliveryLaw (s : RemoteSession) (h : History) : Prop where
  /-- Observers get snapshots in the order of the revisions. -/
  increasing : (s.delivered.map Delivered.revision).Pairwise (· < ·)
  /-- They get the model as it was at a revision, and who gets it was subscribed then. -/
  genuine : ∀ x ∈ s.delivered, ∃ v n, h.versions[x.revision]? = some v ∧
    v.revision = x.revision ∧ x.snapshot = v.model.snapshot ∧ v.observer = some x.observer ∧
    h.inForce x.revision = some n ∧ n.observer = x.observer
  captured : ∀ d ∈ h.captured, ∃ v, h.versions[d.revision]? = some v ∧ d = v.delivery
  /-- Once no call is pending, every captured delivery was passed. -/
  finished : (∀ i, (s.threads i).pending = none) → ∀ d, d ∈ h.captured ↔ d ∈ h.passed
  /-- The last snapshot an observer got is the one with the greatest revision passed. -/
  latest : ∀ d ∈ h.passed, (∀ e ∈ h.passed, e.revision ≤ d.revision) →
    s.delivered.getLast? = d.observer.map fun observer => ⟨d.revision, observer, d.snapshot⟩
  /-- After a delivery under one subscription nobody gets one under an earlier one. -/
  handover : ∀ before x since n, s.delivered = before ++ x :: since →
    h.inForce x.revision = some n → ∀ y ∈ since, ∃ later ∈ h.subscriptions,
      n.revision ≤ later.revision ∧ h.inForce y.revision = some later ∧
      later.observer = y.observer

namespace Tracked
variable {s : RemoteSession} {h : History}

/-- What an observer got was captured. -/
theorem mem_captured (hs : Tracked s h) {x : Delivered} (hx : x ∈ s.delivered) :
    ∃ d ∈ h.captured, x.revision = d.revision ∧ x.snapshot = d.snapshot ∧
      d.observer = some x.observer := by
  rw [hs.delivered] at hx
  obtain ⟨d, hd, hxd⟩ := List.mem_flatMap.mp hx
  obtain ⟨observer, hobserver, rfl⟩ := List.mem_map.mp hxd
  exact ⟨d, hs.passed d (mem_of_mem_records hd), rfl, rfl, Option.mem_toList.mp hobserver⟩

theorem genuine_delivered (hs : Tracked s h) {x : Delivered} (hx : x ∈ s.delivered) :
    ∃ v n, h.versions[x.revision]? = some v ∧ v.revision = x.revision ∧
      x.snapshot = v.model.snapshot ∧ v.observer = some x.observer ∧
      h.inForce x.revision = some n ∧ n.observer = x.observer := by
  obtain ⟨d, hd, hrevision, hsnapshot, hobserver⟩ := hs.mem_captured hx
  obtain ⟨-, v, hv, rfl⟩ := hs.genuine d hd
  have hversion : h.versions[x.revision]? = some v := hrevision ▸ hv
  obtain ⟨n, hn, hnobserver⟩ := hs.versioned.exists_inForce hversion hobserver
  exact ⟨v, n, hversion, hrevision.symm, hsnapshot, hobserver, hn, hnobserver⟩

theorem pairwise_delivered (hs : Tracked s h) :
    s.delivered.Pairwise fun x y => x.revision < y.revision := by
  rw [hs.delivered]
  refine List.pairwise_flatMap.mpr ⟨?_, ?_⟩
  · intro d _
    unfold SnapshotDelivery.handed
    cases d.observer with
    | none => exact .nil
    | some observer => exact List.pairwise_singleton _ _
  · refine pairwise_records.imp ?_
    intro d e hlt x hx y hy
    obtain ⟨_, -, rfl⟩ := List.mem_map.mp hx
    obtain ⟨_, -, rfl⟩ := List.mem_map.mp hy
    exact hlt

/-- While no observer is there nobody got anything. -/
theorem delivered_eq_nil (hs : Tracked s h) {d : SnapshotDelivery} (hd : d ∈ h.captured)
    (hnone : d.observer = none) (hmax : ∀ e ∈ h.passed, e.revision ≤ d.revision) :
    s.delivered = [] := by
  refine List.eq_nil_iff_forall_not_mem.mpr fun x hx => ?_
  obtain ⟨v, n, hv, -, -, -, hn, -⟩ := hs.genuine_delivered hx
  obtain ⟨-, w, hw, rfl⟩ := hs.genuine d hd
  have hle : x.revision ≤ w.revision := by
    rw [hs.delivered] at hx
    obtain ⟨e, he, hxe⟩ := List.mem_flatMap.mp hx
    obtain ⟨_, -, rfl⟩ := List.mem_map.mp hxe
    exact hmax e (mem_of_mem_records he)
  -- An observer is replaced and never removed, so nobody was subscribed up to this revision.
  obtain ⟨n', hn', -⟩ := hs.versioned.inForce_mono hle hn
  have hobserver := hs.versioned.subscribed _ w hw
  have hwnone : w.observer = none := hnone
  have hrevision : w.delivery.revision = w.revision := rfl
  rw [hwnone, hrevision, hn'] at hobserver
  cases hobserver

theorem latest_delivered (hs : Tracked s h) {d : SnapshotDelivery} (hd : d ∈ h.passed)
    (hmax : ∀ e ∈ h.passed, e.revision ≤ d.revision) :
    s.delivered.getLast? =
      d.observer.map fun observer => ⟨d.revision, observer, d.snapshot⟩ := by
  cases hobserver : d.observer with
  | none =>
    rw [hs.delivered_eq_nil (hs.passed d hd) hobserver hmax]
    rfl
  | some observer =>
    have hlast := getLast?_of_greatest hd (hs.genuine d (hs.passed d hd)).1 hmax
      fun e he heq => hs.eq_of_revision (hs.passed e he) (hs.passed d hd) heq
    obtain ⟨prior, hprior⟩ := List.getLast?_eq_some_iff.mp hlast
    rw [hs.delivered, hprior, List.flatMap_append, List.flatMap_singleton]
    unfold SnapshotDelivery.handed
    rw [hobserver]
    exact List.getLast?_concat

theorem law (hs : Tracked s h) : DeliveryLaw s h where
  increasing := List.pairwise_map.mpr hs.pairwise_delivered
  genuine _ hx := hs.genuine_delivered hx
  captured d hd := (hs.genuine d hd).2
  finished hnone d := by
    refine ⟨fun hd => ?_, hs.passed d⟩
    rcases hs.accounted d hd with hpassed | ⟨i, hi⟩
    · exact hpassed
    · cases (hnone i).symm.trans hi
  latest _ hd hmax := hs.latest_delivered hd hmax
  handover before x since n heq hn y hy := by
    have hordered := hs.pairwise_delivered
    rw [heq] at hordered
    have hlt := (List.pairwise_cons.mp (List.pairwise_append.mp hordered).2.1).1 y hy
    obtain ⟨later, hlater, hle⟩ := hs.versioned.inForce_mono (le_of_lt hlt) hn
    have hmem : y ∈ s.delivered := by
      rw [heq]
      exact List.mem_append_right _ (List.mem_cons_of_mem _ hy)
    obtain ⟨-, n', -, -, -, -, hn', hobserver⟩ := hs.genuine_delivered hmem
    obtain rfl := Option.some_inj.mp (hlater.symm.trans hn')
    exact ⟨later, Versioned.inForce_mem hlater, hle, hlater, hobserver⟩

end Tracked

/-- **Snapshots are delivered in order**: whatever threads change the model, subscribe
observers and deliver what they captured, observers get snapshots in the order of the
revisions, the newest is not held back, and a subscription replaces the earlier ones. -/
theorem ordered_snapshot_delivery {s : RemoteSession} {h : History}
    (hreach : Reachable RemoteSession.recorded (s, h)) (hfew : h.versions.length ≤ 2 ^ 64) :
    DeliveryLaw s h := by
  have htracked := hreach.invariant
    (P := fun x => x.2.versions.length ≤ 2 ^ 64 → Tracked x.1 x.2) ?_ ?_
  · exact (htracked hfew).law
  · rintro _ rfl _
    exact .new
  · rintro x label y ih ⟨hstep, hnote⟩ hlength
    rw [hnote] at hlength ⊢
    exact (ih ((x.2.length_note x.1 y.1 label).trans hlength)).step hstep hlength

namespace RemoteSession

/-- A thread takes a step that is recorded. -/
def recordedAdvance (x : RemoteSession × History) (i : Nat) : RemoteSession × History :=
  (x.1.advance i bound, x.2.note x.1 (x.1.advance i bound) (.advance i bound))

/-- Two threads subscribe observers, and both have captured their deliveries. -/
def subscribedTwice : RemoteSession × History :=
  recordedAdvance (recordedAdvance
    ((new.goto 0 (entry (.subscribe 7))).goto 1 (entry (.subscribe 8)), History.new) 0) 1

theorem reachable_recordedAdvance {x : RemoteSession × History} (h : Reachable recorded x) {i : Nat}
    (hbusy : ¬ (x.1.threads i).Free) (hawake : x.1.threads i ≠ .endAsleep)
    (hstops : (x.1.threads i).stops = none) : Reachable recorded (recordedAdvance x i) := by
  refine h.step (i := .advance i bound) ⟨.advance bound hbusy hawake ?_, rfl⟩
  intro server hserver
  cases hstops.symm.trans hserver

theorem subscribedTwice_reachable : Reachable recorded subscribedTwice := by
  have hfirst : Reachable recorded (new.goto 0 (entry (.subscribe 7)), History.new) :=
    Reachable.step (i := .call 0 (.subscribe 7)) (.start rfl) ⟨.call _ trivial, rfl⟩
  have hsecond : Reachable recorded
      ((new.goto 0 (entry (.subscribe 7))).goto 1 (entry (.subscribe 8)), History.new) :=
    hfirst.step (i := .call 1 (.subscribe 8)) ⟨.call _ trivial, rfl⟩
  have hzero := reachable_recordedAdvance (i := 0) hsecond id nofun rfl
  exact reachable_recordedAdvance hzero id nofun rfl

/-- The later one is passed first. -/
def passedLaterFirst : RemoteSession × History :=
  recordedAdvance (recordedAdvance subscribedTwice 1) 0

theorem passedLaterFirst_reachable : Reachable recorded passedLaterFirst := by
  have hone := reachable_recordedAdvance (i := 1) subscribedTwice_reachable id nofun rfl
  exact reachable_recordedAdvance hone id nofun rfl

end RemoteSession

/-- The snapshot of the first subscription comes too late and reaches nobody. -/
theorem ordered_snapshot_delivery_passedLaterFirst :
    DeliveryLaw RemoteSession.passedLaterFirst.1 RemoteSession.passedLaterFirst.2 ∧
      RemoteSession.passedLaterFirst.1.delivered =
        [⟨2, 8, RemoteModel.initial.snapshot⟩] :=
  ⟨ordered_snapshot_delivery RemoteSession.passedLaterFirst_reachable (by decide), rfl⟩

end Remote

end Pockiva
