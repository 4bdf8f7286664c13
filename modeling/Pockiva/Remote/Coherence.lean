import Pockiva.Remote.Coordination
import Pockiva.Remote.Effects

/-! # The model of the remote session is coherent

The phase of the model is changed by `start` and `end`, by the events of the servers and by
failures of the runtime, each of which decides under one lock and acts under another.  Every step
keeps the manager and its servers coordinated, and from that the model is coherent at every
moment of a run.
-/
namespace Pockiva
namespace Remote

open Network (ControllerEvent)
open Transition

/-! ## Steps -/

namespace Coordinated
variable {s t : RemoteSession} {r r' : Reports} {i : Nat} {p : Point}

theorem note_quiet {o : Outcome} (hpairs : (s.threads i).pairs = false)
    (hfails : (s.threads i).fails = false)
    (hanswer : (s.threads i).handles = none ∨ (t.threads i).answer = none) :
    r.note s t (.advance i o) = r := by
  unfold Reports.note
  dsimp only
  rw [hpairs, hfails, if_neg Bool.false_ne_true, if_neg Bool.false_ne_true]
  rcases hanswer with hnone | hnone
  · rw [hnone]
  · rw [hnone]
    cases (s.threads i).handles <;> rfl

theorem note_answer {o : Outcome} {server : Nat} {accepted : Bool}
    (hpairs : (s.threads i).pairs = false) (hfails : (s.threads i).fails = false)
    (hi : (s.threads i).handles = some server) (ht : (t.threads i).answer = some accepted) :
    r.note s t (.advance i o) = { r with
      talk := Function.update r.talk server ((r.talk server).answer accepted) } := by
  unfold Reports.note
  dsimp only
  rw [hpairs, hfails, if_neg Bool.false_ne_true, if_neg Bool.false_ne_true, hi, ht]

theorem updateModel_eq {change : Update} {after : After} {model : ModelState}
    (hmodel : change.apply s.model = some model) :
    s.updateModel i change after = { s with
      model := model.revise
      threads := Function.update s.threads i (.publish model.revise.delivery after) } := by
  unfold RemoteSession.updateModel
  rw [hmodel]

/-- A change that is applied ends no event. -/
theorem note_updateModel {o : Outcome} {change : Update} {after : After} {model : ModelState}
    (hi : s.threads i = .update change after) (hmodel : change.apply s.model = some model)
    (hpairs : (s.threads i).pairs = false) :
    r.note s (s.updateModel i change after) (.advance i o) = r := by
  refine note_quiet hpairs (by rw [hi]; rfl) (.inr ?_)
  rw [updateModel_eq hmodel]
  dsimp only
  rw [Function.update_self]
  rfl

/-- A failure of the runtime is reported with the server held. -/
theorem note_failRuntime {o : Outcome} {server : Nat} {message : String}
    (hi : s.threads i = .runtimeFailed server message) :
    r.note s (s.failRuntime i server message) (.advance i o) =
      { r with failed := r.failed ++ s.lifecycle.server.toList } := by
  have hanswer : ((s.failRuntime i server message).threads i).answer = none := by
    unfold RemoteSession.failRuntime
    dsimp only
    rw [Function.update_self]
    rfl
  unfold Reports.note
  dsimp only
  rw [hanswer, hi]
  rfl

/-- Pairing data is published with the server held. -/
theorem note_waitForController {o : Outcome} {pairing : PairingInfo} {epoch : Nat}
    {op : LifecycleOperation} {error : Option RemoteError}
    (hi : s.threads i = .update (.waitForController pairing) (.complete epoch op error)) :
    r.note s t (.advance i o) =
      { r with published := r.published ++ s.lifecycle.server.toList } := by
  have hhandles : (s.threads i).handles = none := by
    rw [hi]
    rfl
  unfold Reports.note
  dsimp only
  rw [hhandles, hi]
  rfl

/-- Calls and operations do not change the model as events do. -/
theorem handled_of_event {change : Update} {after : After}
    (hfits : (Point.update change after).Fits)
    (hsubscribe : ∀ observer, change ≠ .subscribe observer) (hoff : change ≠ .turnOff)
    (hoperation : ¬ ((∃ pairing, change = .waitForController pairing) ∨
      ∃ error, change = .fail error)) : ∃ server accepted, after = .handled server accepted := by
  cases after with
  | handled server accepted => exact ⟨server, accepted, rfl⟩
  | done =>
    obtain ⟨observer, hchange⟩ := hfits
    exact absurd hchange (hsubscribe observer)
  | complete epoch op error =>
    match op, error, hfits with
    | .ending _, none, hfits => exact absurd hfits hoff
    | .ending _, some _, hfits | .starting _, none, hfits | .starting _, some _, hfits
    | .idle, none, hfits | .idle, some _, hfits => exact absurd hfits hoperation

/-- Only `end` turns the model off. -/
theorem ending_of_turnOff {after : After} {phase : RemotePhase} {held : Option Nat}
    (hfits : (Point.update .turnOff after).Fits)
    (hagrees : (Point.update .turnOff after).Agrees phase held r) :
    ∃ epoch e error, after = .complete epoch (.ending e) error := by
  cases after with
  | handled => exact hagrees.elim
  | done =>
    obtain ⟨observer, hchange⟩ := hfits
    cases hchange
  | complete epoch op error =>
    match op, error, hfits with
    | .ending e, error, _ => exact ⟨epoch, e, error, rfl⟩
    | .starting _, none, hfits | .starting _, some _, hfits | .idle, none, hfits
    | .idle, some _, hfits => exact absurd hfits (by rintro (⟨_, ⟨⟩⟩ | ⟨_, ⟨⟩⟩))

/-- A change that is refused ends the event it was made for. -/
theorem refuseUpdate (h : Coordinated s r) (hs : s.Kept) {change : Update} {after : After}
    (hi : s.threads i = .update change after) (hmodel : change.apply s.model = none)
    (o : Outcome) :
    Coordinated (s.updateModel i change after)
      (r.note s (s.updateModel i change after) (.advance i o)) := by
  have hfits := hs.sound.fits i
  have hagrees := h.agrees i
  rw [hi] at hfits hagrees
  obtain ⟨server, accepted, rfl⟩ := RemoteSession.Kept.handled_of_refused hfits hmodel
  have hhandles : (s.threads i).handles = some server := by
    rw [hi]
    rfl
  have hgone : s.updateModel i change (.handled server accepted) =
      s.goto i (RemoteSession.refused change) := by
    unfold RemoteSession.updateModel
    rw [hmodel]
  rw [hgone]
  have hanswered : ∀ accepted', RemoteSession.refused change = .answered accepted' →
      (s.threads i).pairs = false →
      ((r.talk server).answer accepted' = .opened → s.model.model.phase.Taken) →
      Coordinated (s.goto i (RemoteSession.refused change))
        (r.note s (s.goto i (RemoteSession.refused change)) (.advance i o)) := by
    intro accepted' hrefused hpairs hopen
    rw [hrefused, note_answer hpairs (by rw [hi]; rfl) hhandles
      (by rw [RemoteSession.goto_self]; rfl)]
    exact h.answer hs hhandles rfl rfl h.coherent rfl rfl rfl hopen
  cases change with
  | connect controllerId =>
    refine hanswered false rfl (by rw [hi]; rfl) ?_
    rw [hagrees.1]
    exact nofun
  | disconnect serverActive =>
    refine hanswered true rfl (by rw [hi]; rfl) ?_
    have htalk : r.talk server = .telling .disconnected := by
      cases serverActive <;> exact hagrees.1
    rw [htalk]
    exact nofun
  | _ => cases hmodel

/-- **An update of the model**: each change by its rule. -/
theorem updateModel (h : Coordinated s r) (hs : s.Kept) {change : Update} {after : After}
    (hi : s.threads i = .update change after) (o : Outcome) :
    Coordinated (s.updateModel i change after)
      (r.note s (s.updateModel i change after) (.advance i o)) := by
  have hfits := hs.sound.fits i
  have hagrees := h.agrees i
  rw [hi] at hfits hagrees
  cases hmodel : change.apply s.model with
  | none => exact h.refuseUpdate hs hi hmodel o
  | some model =>
    cases change with
    | subscribe observer =>
      rw [note_updateModel hi hmodel (by rw [hi]; rfl), updateModel_eq hmodel]
      obtain rfl := Option.some_inj.mp hmodel
      exact h.subscribe hi
        (ModelState.revise ⟨s.model.model, some observer, s.model.revision⟩) rfl _
    | waitForController pairing =>
      cases after with
      | complete epoch op error =>
        rw [note_waitForController hi, updateModel_eq hmodel]
        obtain rfl := Option.some_inj.mp hmodel
        exact h.waitForController hs hi _ rfl _
      | done =>
        obtain ⟨observer, hchange⟩ := hfits
        cases hchange
      | handled => exact hagrees.elim
    | fail error =>
      rw [note_updateModel hi hmodel (by rw [hi]; rfl), updateModel_eq hmodel]
      obtain rfl := Option.some_inj.mp hmodel
      exact h.fail hs hi _ rfl _
    | turnOff =>
      rw [note_updateModel hi hmodel (by rw [hi]; rfl), updateModel_eq hmodel]
      obtain rfl := Option.some_inj.mp hmodel
      obtain ⟨epoch, e, error, rfl⟩ := ending_of_turnOff hfits hagrees
      exact h.turnOff hs hi _ rfl _
    | connect controllerId =>
      rw [note_updateModel hi hmodel (by rw [hi]; rfl), updateModel_eq hmodel]
      obtain ⟨connected, hconnect, rfl⟩ := Option.map_eq_some_iff.mp hmodel
      obtain ⟨server, accepted, rfl⟩ := handled_of_event hfits nofun nofun nofun
      exact h.connect hs hi (ModelState.revise ⟨connected, s.model.observer, s.model.revision⟩)
        hconnect _
    | disconnect serverActive =>
      rw [note_updateModel hi hmodel (by rw [hi]; rfl), updateModel_eq hmodel]
      obtain ⟨disconnected, hdisconnect, rfl⟩ := Option.map_eq_some_iff.mp hmodel
      obtain ⟨server, accepted, rfl⟩ := handled_of_event hfits nofun nofun nofun
      exact h.disconnect hs hi
        (ModelState.revise ⟨disconnected, s.model.observer, s.model.revision⟩) hdisconnect _

/-- **A delivery is passed**, and an event that waited for it is answered. -/
theorem publishOrdered (h : Coordinated s r) (hs : s.Kept) {delivery : SnapshotDelivery}
    {after : After} (hi : s.threads i = .publish delivery after) (o : Outcome) :
    Coordinated (s.publishOrdered i delivery after)
      (r.note s (s.publishOrdered i delivery after) (.advance i o)) := by
  have hagrees := h.agrees i
  rw [hi] at hagrees
  have hpairs : (s.threads i).pairs = false := by
    rw [hi]
    rfl
  have hfails : (s.threads i).fails = false := by
    rw [hi]
    rfl
  obtain ⟨lastRevision, delivered, heq⟩ :=
    RemoteSession.exists_publishOrdered_eq s i delivery after
  rw [heq]
  have hstay : (s.threads i).handles = none →
      (RemoteSession.next delivery.snapshot after).handles = none →
      (∀ phase held, (RemoteSession.next delivery.snapshot after).Agrees phase held r) →
      Coordinated { s with
          lastRevision := lastRevision
          delivered := delivered
          threads :=
            Function.update s.threads i (RemoteSession.next delivery.snapshot after) } r := by
    intro hnone hnext hknown
    refine h.stay (i := i) rfl (.inr ⟨rfl, rfl⟩) (Nat.le_refl _) (fun _ _ => id)
      (fun j hji => .inl (Function.update_of_ne hji _ _)) ?_ (.inl ?_)
    · dsimp only
      rw [Function.update_self]
      exact hknown _ _
    · dsimp only
      rw [Function.update_self]
      exact hnext
  cases after with
  | done =>
    rw [note_quiet hpairs hfails (.inl (by rw [hi]; rfl))]
    exact hstay (by rw [hi]; rfl) rfl fun _ _ => trivial
  | complete epoch op error =>
    rw [note_quiet hpairs hfails (.inl (by rw [hi]; rfl))]
    cases error with
    | none => exact hstay (by rw [hi]; rfl) rfl fun _ _ => trivial
    | some error => exact hstay (by rw [hi]; rfl) rfl fun _ _ => trivial
  | handled server accepted =>
    have hhandles : (s.threads i).handles = some server := by
      rw [hi]
      rfl
    rw [note_answer hpairs hfails hhandles (by dsimp only; rw [Function.update_self]; rfl)]
    refine h.answer hs hhandles rfl rfl h.coherent rfl rfl rfl fun hopened => ?_
    obtain ⟨kind, htalk, hconnected⟩ := hagrees
    rw [htalk] at hopened
    -- A message came over an open connection; a connection was taken by its own update.
    cases kind with
    | disconnected => cases hopened
    | message => exact h.taken server (hs.sound.handled i server hhandles) (.inr htalk)
    | connected =>
      cases accepted with
      | false => cases hopened
      | true => exact hconnected rfl rfl

theorem receiveEvent (h : Coordinated s r) (hs : s.Kept) {server : Nat} {event : ControllerEvent}
    (hi : s.threads i = .eventReceived server event) (o : Outcome) :
    Coordinated (s.receiveEvent i server event)
      (r.note s (s.receiveEvent i server event) (.advance i o)) := by
  have hagrees := h.agrees i
  rw [hi] at hagrees
  have hpairs : (s.threads i).pairs = false := by
    rw [hi]
    rfl
  have hfails : (s.threads i).fails = false := by
    rw [hi]
    rfl
  have hhandles : (s.threads i).handles = some server := by
    rw [hi]
    rfl
  have hrefused : Coordinated (s.goto i (.answered false))
      (r.note s (s.goto i (.answered false)) (.advance i o)) := by
    rw [note_answer hpairs hfails hhandles (by rw [RemoteSession.goto_self]; rfl)]
    refine h.answer hs hhandles rfl rfl h.coherent rfl rfl rfl fun hopened => ?_
    rw [show r.talk server = .telling (kindOf event) from hagrees] at hopened
    cases event <;> cases hopened
  have hgone : Coordinated (s.goto i (.eventRuntime server event))
      (r.note s (s.goto i (.eventRuntime server event)) (.advance i o)) := by
    rw [note_quiet hpairs hfails (.inr (by rw [RemoteSession.goto_self]; rfl))]
    exact h.goto hagrees (.inr hhandles.symm)
  unfold RemoteSession.receiveEvent
  split
  · exact hrefused
  · split
    · split
      · exact hrefused
      · exact hgone
    · exact hgone

theorem applyEvent (h : Coordinated s r) {server : Nat} {event : ControllerEvent}
    (hi : s.threads i = .eventRuntime server event) (o : Outcome) :
    Coordinated (s.applyEvent i o server event)
      (r.note s (s.applyEvent i o server event) (.advance i o)) := by
  have hagrees : r.talk server = .telling (kindOf event) := by
    have hpoint := h.agrees i
    rw [hi] at hpoint
    exact hpoint
  have hgone : ∀ {p : Point}, p.Agrees s.model.model.phase s.lifecycle.server r →
      p.handles = some server → p.answer = none →
      Coordinated (s.goto i p) (r.note s (s.goto i p) (.advance i o)) := by
    intro p hp hhandles hanswer
    have hsame : p.handles = (s.threads i).handles := by
      rw [hi]
      exact hhandles
    rw [note_quiet (by rw [hi]; rfl) (by rw [hi]; rfl)
      (.inr (by rw [RemoteSession.goto_self]; exact hanswer))]
    exact h.goto hp (.inr hsame)
  unfold RemoteSession.applyEvent
  split
  · exact hgone ⟨_, hagrees⟩ rfl rfl
  · split
    · exact hgone ⟨hagrees, rfl⟩ rfl rfl
    · exact hgone hagrees rfl rfl
    · exact hgone hagrees rfl rfl

/-- **A latency is recorded** for a controller that was taken. -/
theorem recordLatency (h : Coordinated s r) (hs : s.Kept) {server : Nat}
    (hi : s.threads i = .eventLatency server) (o : Outcome) :
    Coordinated (s.recordLatency i o.elapsed)
      (r.note s (s.recordLatency i o.elapsed) (.advance i o)) := by
  have htalk : r.talk server = .telling .message := by
    have hpoint := h.agrees i
    rw [hi] at hpoint
    exact hpoint
  have hhandles : (s.threads i).handles = some server := by
    rw [hi]
    rfl
  have htaken := h.taken server (hs.sound.handled i server hhandles) (.inr htalk)
  have hoff : s.model.model.phase ≠ .off := by
    rintro hoff
    rw [hoff] at htaken
    exact htaken.elim nofun nofun
  have hanswer : ((s.recordLatency i o.elapsed).threads i).answer = some true := by
    unfold RemoteSession.recordLatency
    dsimp only
    rw [Function.update_self]
    rfl
  rw [note_answer (by rw [hi]; rfl) (by rw [hi]; rfl) hhandles hanswer]
  exact h.answer hs hhandles rfl rfl (h.coherent.recordLatency hoff _) rfl rfl rfl fun _ => htaken

/-- **Whether a server is active is decided**: the one that reports is, or none will be. -/
theorem decideActive (h : Coordinated s r) (hs : s.Kept) {server : Nat}
    (hi : s.threads i = .eventActive server) (o : Outcome) :
    Coordinated
      (s.goto i (.update (.disconnect s.lifecycle.server.isSome) (.handled server true)))
      (r.note s (s.goto i (.update (.disconnect s.lifecycle.server.isSome) (.handled server true)))
        (.advance i o)) := by
  have htalk : r.talk server = .telling .disconnected := by
    have hpoint := h.agrees i
    rw [hi] at hpoint
    exact hpoint
  have hhandles : (s.threads i).handles = some server := by
    rw [hi]
    rfl
  rw [note_quiet (by rw [hi]; rfl) (by rw [hi]; rfl) (.inr (by rw [RemoteSession.goto_self]; rfl))]
  refine h.goto ?_ (.inr hhandles.symm)
  cases hheld : s.lifecycle.server with
  | none => exact ⟨htalk, rfl⟩
  | some other =>
    refine ⟨htalk, h.held other hheld ?_⟩
    have hsame := hs.sound.running_unique (hs.sound.served other hheld)
      (hs.sound.handled i server hhandles)
    rw [hsame]
    exact h.published_of_handles hhandles

/-- A thread acts on the lifecycle or on the servers and handles no event. -/
theorem act (h : Coordinated s r) {lifecycle : LifecycleState} {started : Nat}
    {shutdowns : List Nat} (hserver : lifecycle.server = none ∨
      lifecycle.server = s.lifecycle.server ∧
        lifecycle.restartRequired = s.lifecycle.restartRequired)
    (hstarted : s.started ≤ started) (hshutdowns : ∀ server ∈ s.shutdowns, server ∈ shutdowns)
    (hp : p.Agrees s.model.model.phase lifecycle.server r) (hhandles : p.handles = none) :
    Coordinated { s with
      lifecycle := lifecycle
      started := started
      shutdowns := shutdowns
      threads := Function.update s.threads i p } r := by
  refine h.stay (i := i) rfl hserver hstarted
    (fun server hlt hserver => ⟨hlt, fun hmem => hserver.2 (hshutdowns server hmem)⟩)
    (fun j hji => .inl (Function.update_of_ne hji _ _)) ?_ (.inl ?_)
  · dsimp only
    rw [Function.update_self]
    exact hp
  · dsimp only
    rw [Function.update_self]
    exact hhandles

theorem lockStart (h : Coordinated s r) (i : Nat) : Coordinated (s.lockStart i) r := by
  unfold RemoteSession.lockStart
  split
  · exact h.goto trivial (.inl rfl)
  · exact h.goto trivial (.inl rfl)
  · split
    · exact h.goto trivial (.inl rfl)
    · exact h.act (.inl rfl) (Nat.le_refl _) (fun _ => id) trivial rfl

theorem lockEnd (h : Coordinated s r) (i : Nat) : Coordinated (s.lockEnd i) r := by
  unfold RemoteSession.lockEnd
  split
  · exact h.goto trivial (.inl rfl)
  · exact h.act (.inl rfl) (Nat.le_refl _) (fun _ => id) trivial rfl

theorem stopServer (h : Coordinated s r) (i server : Nat)
    (hp : p.Agrees s.model.model.phase s.lifecycle.server r) (hhandles : p.handles = none) :
    Coordinated (s.stopServer i server p) r :=
  h.act (.inr ⟨rfl, rfl⟩) (Nat.le_refl _) (fun _ => List.mem_append_left _) hp hhandles

theorem stopStale (h : Coordinated s r) (i : Nat) (o : Outcome) (epoch : Nat)
    (stale : Option Nat) : Coordinated (s.stopStale i o epoch stale) r := by
  cases stale with
  | none => exact h.goto trivial (.inl rfl)
  | some server =>
    unfold RemoteSession.stopStale
    dsimp only
    split
    · exact h.stopServer i server trivial rfl
    · exact h.stopServer i server trivial rfl

/-- A server that was just started has not published its pairing data. -/
theorem startServer (h : Coordinated s r) (i : Nat) (o : Outcome) (epoch : Nat) :
    Coordinated (s.startServer i o epoch) r := by
  unfold RemoteSession.startServer
  split
  · refine h.act (.inr ⟨rfl, rfl⟩) (Nat.le_succ _) (fun _ => id) ?_ rfl
    exact fun hpublished => Nat.lt_irrefl _ (h.started _ hpublished)
  · exact h.goto trivial (.inl rfl)

theorem stopEnded (h : Coordinated s r) (i : Nat) (o : Outcome) (epoch : Nat)
    (stopped : Option Nat) : Coordinated (s.stopEnded i o epoch stopped) r := by
  cases stopped with
  | none => exact h.goto trivial (.inl rfl)
  | some server =>
    unfold RemoteSession.stopEnded RemoteSession.afterStop
    dsimp only
    split
    · exact h.stopServer i server trivial rfl
    · exact h.stopServer i server trivial rfl

theorem completeLifecycle (h : Coordinated s r) (i epoch : Nat) (op : LifecycleOperation)
    (result : Except RemoteError RemoteSnapshot) :
    Coordinated (s.completeLifecycle i epoch op result) r := by
  unfold RemoteSession.completeLifecycle
  split
  · refine h.stay (i := i) rfl (.inr ⟨rfl, rfl⟩) (Nat.le_refl _) (fun _ _ => id) ?_ ?_ (.inl ?_)
    · intro j hji
      dsimp only
      rw [Function.update_of_ne hji]
      exact .inr rfl
    · dsimp only
      rw [Function.update_self]
      exact trivial
    · dsimp only
      rw [Function.update_self]
      rfl
  · exact h.goto trivial (.inl rfl)

/-- **A step of a thread keeps the manager coordinated.** -/
theorem advance (h : Coordinated s r) (hs : s.Kept) (hbusy : ¬ (s.threads i).Free)
    (hawake : s.threads i ≠ .endAsleep) (o : Outcome) :
    Coordinated (s.advance i o) (r.note s (s.advance i o) (.advance i o)) := by
  have hnote : ∀ {t : RemoteSession} {p : Point}, s.threads i = p → p.pairs = false →
      p.fails = false → p.handles = none → Coordinated t r →
      Coordinated t (r.note s t (.advance i o)) := by
    rintro t p rfl hpairs hfails hhandles ht
    rw [note_quiet hpairs hfails (.inl hhandles)]
    exact ht
  unfold RemoteSession.advance
  split
  · rename_i hi
    exact absurd (by rw [hi]; exact trivial) hbusy
  · rename_i hi
    exact absurd (by rw [hi]; exact trivial) hbusy
  · rename_i hi
    exact absurd (by rw [hi]; exact trivial) hbusy
  · rename_i hi
    exact absurd hi hawake
  · rename_i hi
    exact hnote hi rfl rfl rfl (h.lockStart i)
  · rename_i hi
    exact hnote hi rfl rfl rfl (h.stopStale i o _ _)
  · rename_i hi
    exact hnote hi rfl rfl rfl (h.startServer i o _)
  · rename_i hi
    exact hnote hi rfl rfl rfl (h.finishStart hs hi)
  · rename_i hi
    exact hnote hi rfl rfl rfl (h.stopServer i _ trivial rfl)
  · rename_i hi
    exact hnote hi rfl rfl rfl (h.lockEnd i)
  · rename_i hi
    exact hnote hi rfl rfl rfl (h.stopEnded i o _ _)
  · rename_i hi
    exact hnote hi rfl rfl rfl (h.goto trivial (.inl rfl))
  · rename_i hi
    exact h.updateModel hs hi o
  · rename_i hi
    exact h.publishOrdered hs hi o
  · rename_i hi
    exact hnote hi rfl rfl rfl (h.completeLifecycle i _ _ _)
  · rename_i hi
    exact h.receiveEvent hs hi o
  · rename_i hi
    exact h.applyEvent hi o
  · rename_i hi
    exact h.recordLatency hs hi o
  · rename_i hi
    exact h.decideActive hs hi o
  · rename_i hi
    rw [note_failRuntime hi]
    exact h.failRuntime hs hi

/-- **Every step keeps the manager coordinated.** -/
theorem step (h : Coordinated s r) (hs : s.Kept) {label : RemoteSession.Label}
    (hstep : RemoteSession.Step s label t) (hpermits : r.Permits label) :
    Coordinated t (r.note s t label) := by
  cases hstep with
  | call call hfree =>
    refine h.goto ?_ (.inl ?_)
    · cases call <;> exact trivial
    · cases call <;> rfl
  | event event _ hrunning => exact h.report hs hrunning hpermits.1 hpermits.2
  | wake _ => exact h.goto trivial (.inl rfl)
  | advance o hbusy hawake _ => exact h.advance hs hbusy hawake o

end Coordinated

/-! ## The law -/

/-- What holds of the model at every moment of a run. -/
structure ModelLaw (s : RemoteSession) (r : Reports) : Prop where
  coherent : s.model.model.Coherent
  /-- Only the operation under way, a start or an end, takes the model out of an error. -/
  errorLeft : ∀ label t, RemoteSession.Step s label t → s.model.model.phase = .error →
    t.model.model.phase ≠ .error → ∃ i o, label = .advance i o ∧
      (s.threads i).claim = some (s.lifecycle.epoch, s.lifecycle.operation) ∧
      s.lifecycle.operation ≠ .idle
  /-- A server that was held at a failure of the runtime is replaced by the next start. -/
  replaced : ∀ server, s.lifecycle.server = some server → server ∈ r.failed →
    ∀ i o, s.threads i = .startLock → (s.advance i o).threads i ≠ .snapshot ∧
      (s.lifecycle.operation = .idle →
        ∃ epoch, (s.advance i o).threads i = .startStop epoch (some server))

namespace Coordinated
variable {s t : RemoteSession} {r : Reports} {i : Nat}

/-- An event leaves an error alone. -/
theorem change_of_error {m m' : ModelState} {change : Update} (h : change.apply m = some m')
    (herror : m.model.phase = .error) (hleft : m'.model.phase ≠ .error) :
    (∃ pairing, change = .waitForController pairing) ∨ change = .turnOff := by
  cases change with
  | waitForController pairing => exact .inl ⟨pairing, rfl⟩
  | turnOff => exact .inr rfl
  | fail error =>
    obtain rfl := Option.some_inj.mp h
    exact absurd rfl hleft
  | subscribe observer =>
    obtain rfl := Option.some_inj.mp h
    exact absurd herror hleft
  | connect controllerId =>
    obtain ⟨model, hmodel, -⟩ := Option.map_eq_some_iff.mp h
    cases herror.symm.trans (RemoteModel.connect_eq hmodel).1
  | disconnect serverActive =>
    obtain ⟨model, hmodel, -⟩ := Option.map_eq_some_iff.mp h
    exact absurd herror (RemoteModel.disconnect_eq hmodel).1

/-- Only an operation waits for a controller or turns the model off. -/
theorem claim_of_change (h : Coordinated s r) (hs : s.Kept) {change : Update} {after : After}
    (hi : s.threads i = .update change after)
    (hchange : (∃ pairing, change = .waitForController pairing) ∨ change = .turnOff) :
    (s.threads i).claim ≠ none := by
  have hfits := hs.sound.fits i
  have hagrees := h.agrees i
  rw [hi] at hfits hagrees ⊢
  cases after with
  | complete => exact Option.some_ne_none _
  | done =>
    obtain ⟨observer, rfl⟩ := hfits
    rcases hchange with ⟨pairing, hchange⟩ | hchange
    · cases hchange
    · cases hchange
  | handled =>
    rcases hchange with ⟨pairing, rfl⟩ | rfl
    · exact hagrees.elim
    · exact hagrees.elim

theorem claim_of_errorLeft (h : Coordinated s r) (hs : s.Kept) (hbusy : ¬ (s.threads i).Free)
    (hawake : s.threads i ≠ .endAsleep) (o : Outcome) (herror : s.model.model.phase = .error)
    (hleft : (s.advance i o).model.model.phase ≠ .error) : (s.threads i).claim ≠ none := by
  cases RemoteSession.Effect.of_advance hbusy hawake o with
  | quiet hmodel =>
    rw [hmodel] at hleft
    exact absurd herror hleft
  | passed delivery after hi ht =>
    rw [ht, RemoteSession.model_publishOrdered] at hleft
    exact absurd herror hleft
  | revised v hpoint =>
    rcases hpoint with ⟨change, after, hi⟩ | ⟨server, hi⟩
    · have hadvance : s.advance i o = s.updateModel i change after := by
        unfold RemoteSession.advance
        rw [hi]
      rw [hadvance] at hleft
      cases hmodel : change.apply s.model with
      | none =>
        unfold RemoteSession.updateModel at hleft
        rw [hmodel] at hleft
        exact absurd herror hleft
      | some model =>
        rw [updateModel_eq hmodel] at hleft
        exact h.claim_of_change hs hi (change_of_error hmodel herror hleft)
    · unfold RemoteSession.advance at hleft
      rw [hi] at hleft
      exact absurd herror hleft

theorem law (h : Coordinated s r) (hs : s.Kept) : ModelLaw s r where
  coherent := h.coherent
  errorLeft label t hstep herror hleft := by
    cases hstep with
    | call | event | wake => exact absurd herror hleft
    | @advance i o hbusy hawake _ =>
      obtain ⟨⟨epoch, op⟩, hclaim⟩ :=
        Option.ne_none_iff_exists'.mp (h.claim_of_errorLeft hs hbusy hawake o herror hleft)
      obtain ⟨rfl, rfl, hop⟩ := hs.sound.owned hclaim
      exact ⟨i, o, rfl, hclaim, hop⟩
  replaced server hheld hfailed i o hi := by
    have hrestart := h.restart server hheld hfailed
    have hadvance : s.advance i o = s.lockStart i := by
      unfold RemoteSession.advance
      rw [hi]
    rw [hadvance]
    unfold RemoteSession.lockStart
    have hself : ∀ p, (s.goto i p).threads i = p := RemoteSession.goto_self s i
    split
    · rename_i hop
      rw [hself]
      exact ⟨nofun, fun hidle => by cases hop.symm.trans hidle⟩
    · rename_i hop
      rw [hself]
      exact ⟨nofun, fun hidle => by cases hop.symm.trans hidle⟩
    · -- The mark of the failure keeps the server held from being reported as running.
      have hrequired : ¬ (s.lifecycle.server ≠ none ∧ s.lifecycle.restartRequired = false) := by
        rw [hrestart]
        exact fun hboth => nomatch hboth.2
      rw [if_neg hrequired]
      dsimp only
      rw [Function.update_self, hheld]
      exact ⟨nofun, fun _ => ⟨_, rfl⟩⟩

end Coordinated

/-- **The model of the remote session is coherent** whatever threads start and end it, whatever
its servers report, connection after connection, and whenever the runtime fails. -/
theorem remote_model_coherence {s : RemoteSession} {r : Reports}
    (hreach : Reachable RemoteSession.reported (s, r)) : ModelLaw s r := by
  have hall := hreach.invariant (P := fun x => x.1.Kept ∧ Coordinated x.1 x.2) ?_ ?_
  · exact hall.2.law hall.1
  · rintro _ rfl
    exact ⟨RemoteSession.kept_new, .new⟩
  · rintro x label y ⟨hs, h⟩ ⟨hstep, hpermits, hnote⟩
    rw [hnote]
    exact ⟨hs.step hstep, h.step hs hstep hpermits⟩

namespace RemoteSession

/-- A thread takes a step that is reported. -/
def reportedAdvance (x : RemoteSession × Reports) (i : Nat) (o : Outcome) :
    RemoteSession × Reports :=
  (x.1.advance i o, x.2.note x.1 (x.1.advance i o) (.advance i o))

theorem reachable_reportedAdvance {x : RemoteSession × Reports} (h : Reachable reported x)
    {i : Nat} (o : Outcome) (hbusy : ¬ (x.1.threads i).Free)
    (hawake : x.1.threads i ≠ .endAsleep) (hstops : (x.1.threads i).stops = none) :
    Reachable reported (reportedAdvance x i o) := by
  refine h.step (i := .advance i o) ⟨.advance o hbusy hawake ?_, trivial, rfl⟩
  intro server hserver
  cases hstops.symm.trans hserver

/-- A world in which servers start and the runtime has stopped. -/
def runtimeStopped : Outcome := ⟨.ok (), .ok ⟨"http://192.168.0.2:4000/", 0⟩, .error "stopped", 0⟩

/-- A controller connects. -/
def padConnected : ControllerEvent := .connected ⟨"pad", by decide⟩ remoteInputSource

/-- A session was started, and its controller is waited for. -/
def startedOnce : RemoteSession × Reports :=
  [0, 0, 0, 0, 0].foldl (fun x i => reportedAdvance x i runtimeStopped)
    (new.goto 0 .startLock, Reports.new)

theorem startedOnce_reachable : Reachable reported startedOnce := by
  have hcalled : Reachable reported (new.goto 0 .startLock, Reports.new) :=
    Reachable.step (i := .call 0 .start) (.start rfl) ⟨.call .start trivial, trivial, rfl⟩
  have hlocked := reachable_reportedAdvance (i := 0) hcalled runtimeStopped id nofun rfl
  have hstopped := reachable_reportedAdvance (i := 0) hlocked runtimeStopped id nofun rfl
  have hstarted := reachable_reportedAdvance (i := 0) hstopped runtimeStopped id nofun rfl
  have hheld := reachable_reportedAdvance (i := 0) hstarted runtimeStopped id nofun rfl
  exact reachable_reportedAdvance (i := 0) hheld runtimeStopped id nofun rfl

/-- A controller connects, the runtime fails, and a third thread starts the session again. -/
def failedOnce : RemoteSession × Reports :=
  let failed := [1, 1, 1, 1, 0, 0].foldl (fun x i => reportedAdvance x i runtimeStopped)
    (startedOnce.1.goto 1 (.eventReceived 0 padConnected),
      startedOnce.2.note startedOnce.1 startedOnce.1 (.event 1 0 padConnected))
  (failed.1.goto 2 .startLock, failed.2)

theorem failedOnce_reachable : Reachable reported failedOnce := by
  have hevent : Reachable reported (startedOnce.1.goto 1 (.eventReceived 0 padConnected),
      startedOnce.2.note startedOnce.1 startedOnce.1 (.event 1 0 padConnected)) := by
    refine startedOnce_reachable.step (i := .event 1 0 padConnected)
      ⟨.event padConnected trivial ⟨by decide, nofun⟩, ⟨trivial, fun _ => ?_⟩, rfl⟩
    exact List.mem_singleton.mpr rfl
  have hreceived := reachable_reportedAdvance (i := 1) hevent runtimeStopped id nofun rfl
  have happlied := reachable_reportedAdvance (i := 1) hreceived runtimeStopped id nofun rfl
  have hmarked := reachable_reportedAdvance (i := 1) happlied runtimeStopped id nofun rfl
  have hfailed := reachable_reportedAdvance (i := 1) hmarked runtimeStopped id nofun rfl
  have hpublished := reachable_reportedAdvance (i := 0) hfailed runtimeStopped id nofun rfl
  have hcompleted := reachable_reportedAdvance (i := 0) hpublished runtimeStopped id nofun rfl
  exact hcompleted.step (i := .call 2 .start) ⟨.call .start trivial, trivial, rfl⟩

end RemoteSession

/-- The server that was there when the runtime failed is stopped by the next start. -/
theorem remote_model_coherence_failedOnce :
    RemoteSession.failedOnce.1.model.model.phase = .error ∧
      ∃ epoch, (RemoteSession.failedOnce.1.advance 2 RemoteSession.runtimeStopped).threads 2 =
        .startStop epoch (some 0) := by
  have hlaw := remote_model_coherence RemoteSession.failedOnce_reachable
  refine ⟨rfl, (hlaw.replaced 0 rfl ?_ 2 RemoteSession.runtimeStopped rfl).2 rfl⟩
  exact List.mem_singleton.mpr rfl

end Remote

end Pockiva
