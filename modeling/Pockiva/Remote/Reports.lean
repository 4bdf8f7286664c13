import Pockiva.Remote.Lifecycle

/-! # Reports of the servers

The servers of the remote session report complete connections, one event after the other
(`Reports.Permits`).  A thread that handles an event decides under one lock and acts under
another: `Point.Agrees` says what it knows meanwhile, of the reports, of the phase of the model
and of the server held.
-/
namespace Pockiva
namespace Remote

open Network (ControllerEvent)
open Transition

/-! ## What servers report -/

inductive EventKind where
  | connected
  | message
  | disconnected
deriving DecidableEq

def kindOf : ControllerEvent → EventKind
  | .connected _ _ => .connected
  | .message _ _ _ => .message
  | .disconnected _ _ => .disconnected

/-- How far a server's connection has got. -/
inductive Talk where
  | closed
  /-- An event is being handled. -/
  | telling (kind : EventKind)
  | opened
  /-- An event of the connection was refused. -/
  | refused
deriving DecidableEq

namespace Talk

/-- Connections are complete, and after a refused event there is only `Disconnected`. -/
def Admits : Talk → EventKind → Prop
  | .closed, .connected | .opened, .message | .opened, .disconnected
  | .refused, .disconnected => True
  | _, _ => False

def answer (accepted : Bool) : Talk → Talk
  | .telling .disconnected => .closed
  | .telling _ => if accepted then .opened else .refused
  | talk => talk

end Talk

namespace Point

def answer : Point → Option Bool
  | .answered accepted => some accepted
  | _ => none

/-- `wait_for_controller` is next: it publishes the pairing data of the server held. -/
def pairs : Point → Bool
  | .update (.waitForController _) _ => true
  | _ => false

def fails : Point → Bool
  | .runtimeFailed _ _ => true
  | _ => false

end Point

/-- How far the connection of each server has got, the servers whose pairing data was published,
and those that were held at a failure of the runtime. -/
structure Reports where
  talk : Nat → Talk
  published : List Nat
  failed : List Nat

namespace Reports

def new : Reports := ⟨fun _ => .closed, [], []⟩

/-- The events there can be.  The runtime may refuse any of them. -/
def Permits (r : Reports) : RemoteSession.Label → Prop
  | .event _ server event =>
    (r.talk server).Admits (kindOf event) ∧
      (kindOf event = .connected → server ∈ r.published)
  | _ => True

def note (r : Reports) (s t : RemoteSession) : RemoteSession.Label → Reports
  | .event _ server event =>
    { r with talk := Function.update r.talk server (.telling (kindOf event)) }
  | .advance i _ =>
    { talk := match (s.threads i).handles, (t.threads i).answer with
        | some server, some accepted =>
          Function.update r.talk server ((r.talk server).answer accepted)
        | _, _ => r.talk
      published := if (s.threads i).pairs then r.published ++ s.lifecycle.server.toList
        else r.published
      failed := if (s.threads i).fails then r.failed ++ s.lifecycle.server.toList
        else r.failed }
  | _ => r

end Reports

/-- The manager with servers that keep to complete connections. -/
def RemoteSession.reported : System (RemoteSession × Reports) RemoteSession.Label where
  start x := x = (RemoteSession.new, Reports.new)
  step x label y :=
    RemoteSession.Step x.1 label y.1 ∧ x.2.Permits label ∧ y.2 = x.2.note x.1 y.1 label

/-! ## Coherent models -/

structure RemoteModel.Coherent (m : RemoteModel) : Prop where
  connected : m.phase = .connected ↔ m.controllerId.isSome
  paired : m.phase = .waiting ∨ m.phase = .connected →
    m.pairingUrl.isSome ∧ m.expiresAtUnixMs.isSome ∧ m.error = none
  off : m.phase = .off → m.pairingUrl = none ∧ m.expiresAtUnixMs = none ∧
    m.controllerId = none ∧ m.latencies = [] ∧ m.error = none
  error : m.phase = .error → m.error.isSome ∧ m.pairingUrl = none ∧
    m.expiresAtUnixMs = none ∧ m.controllerId = none

namespace RemoteModel
variable {m m' : RemoteModel}

theorem coherent_initial : initial.Coherent :=
  ⟨⟨nofun, nofun⟩, fun h => h.elim nofun nofun, fun _ => ⟨rfl, rfl, rfl, rfl, rfl⟩, nofun⟩

theorem coherent_waitForController (m : RemoteModel) (pairing : PairingInfo) :
    (m.waitForController pairing).Coherent :=
  ⟨⟨nofun, nofun⟩, fun _ => ⟨rfl, rfl, rfl⟩, nofun, nofun⟩

theorem coherent_fail (m : RemoteModel) (error : RemoteError) : (m.fail error).Coherent :=
  ⟨⟨nofun, nofun⟩, fun h => h.elim nofun nofun, nofun, fun _ => ⟨rfl, rfl, rfl, rfl⟩⟩

/-- A controller that is waited for connects. -/
theorem connect_eq {controllerId : String} (h : m.connect controllerId = some m') :
    m.phase = .waiting ∧
      m' = { m with phase := .connected, controllerId := some controllerId } := by
  unfold connect at h
  split at h
  · rename_i hwaiting
    exact ⟨hwaiting, (Option.some_inj.mp h).symm⟩
  · cases h

theorem Coherent.connect (h : m.Coherent) {controllerId : String}
    (hm : m.connect controllerId = some m') : m'.Coherent := by
  obtain ⟨hwaiting, rfl⟩ := connect_eq hm
  exact ⟨⟨fun _ => rfl, fun _ => rfl⟩, fun _ => h.paired (.inl hwaiting), nofun, nofun⟩

theorem disconnect_eq {serverActive : Bool} (h : m.disconnect serverActive = some m') :
    m.phase ≠ .error ∧
      m' = if serverActive then { m with controllerId := none, phase := .waiting }
        else initial := by
  unfold disconnect at h
  split at h
  · cases h
  · rename_i hphase
    refine ⟨hphase, ?_⟩
    cases serverActive with
    | false => exact (Option.some_inj.mp h).symm
    | true => exact (Option.some_inj.mp h).symm

/-- **A disconnect is coherent** if a model that is off is not told that a server is active. -/
theorem Coherent.disconnect (h : m.Coherent) {serverActive : Bool}
    (hm : m.disconnect serverActive = some m') (hoff : serverActive → m.phase ≠ .off) :
    m'.Coherent := by
  obtain ⟨herror, rfl⟩ := disconnect_eq hm
  cases serverActive with
  | false => exact coherent_initial
  | true =>
    have hphase : m.phase = .waiting ∨ m.phase = .connected := by
      cases hp : m.phase with
      | off => exact absurd hp (hoff rfl)
      | waiting => exact .inl rfl
      | connected => exact .inr rfl
      | error => exact absurd hp herror
    exact ⟨⟨nofun, nofun⟩, fun _ => h.paired hphase, nofun, nofun⟩

/-- A latency is recorded in a model that is not off. -/
theorem Coherent.recordLatency (h : m.Coherent) (hoff : m.phase ≠ .off) (latency : Nat) :
    (m.recordLatency latency).Coherent :=
  ⟨h.connected, h.paired, fun hp => absurd hp hoff, h.error⟩

end RemoteModel

/-! ## What a thread knows -/

/-- The model has taken the connection, or failed since. -/
def RemotePhase.Taken (phase : RemotePhase) : Prop := phase = .connected ∨ phase = .error

/-- What a server's event is about to change. -/
def Update.Agrees (phase : RemotePhase) (held : Option Nat) (talk : Talk) (accepted : Bool) :
    Update → Prop
  | .connect _ => talk = .telling .connected ∧ accepted = true
  | .disconnect true => talk = .telling .disconnected ∧ phase ≠ .off
  | .disconnect false => talk = .telling .disconnected ∧ held = none
  | .fail _ => (∃ kind, talk = .telling kind) ∧ accepted = false
  | _ => False

/-- What a thread knows of the phase, of the server held and of the reports. -/
def Point.Agrees (phase : RemotePhase) (held : Option Nat) (r : Reports) : Point → Prop
  | .finishStart _ server _ => server ∉ r.published
  | .update (.waitForController _) (.complete _ _ _) =>
    ∀ server, held = some server → server ∉ r.published
  | .eventReceived server event | .eventRuntime server event =>
    r.talk server = .telling (kindOf event)
  | .eventLatency server => r.talk server = .telling .message
  | .eventActive server => r.talk server = .telling .disconnected
  | .runtimeFailed server _ => ∃ kind, r.talk server = .telling kind
  | .update change (.handled server accepted) => change.Agrees phase held (r.talk server) accepted
  | .publish _ (.handled server accepted) => ∃ kind, r.talk server = .telling kind ∧
    (accepted = true → kind = .connected → phase.Taken)
  | _ => True

namespace Point.Agrees
variable {phase phase' : RemotePhase} {held held' : Option Nat} {r r' : Reports} {p : Point}

/-- Who handles an event of a server was told it. -/
theorem telling (h : p.Agrees phase held r) {server : Nat} (hp : p.handles = some server) :
    ∃ kind, r.talk server = .telling kind := by
  cases p with
  | eventReceived _ event | eventRuntime _ event =>
    obtain rfl := Option.some_inj.mp hp
    exact ⟨_, h⟩
  | eventLatency | eventActive =>
    obtain rfl := Option.some_inj.mp hp
    exact ⟨_, h⟩
  | runtimeFailed =>
    obtain rfl := Option.some_inj.mp hp
    exact h
  | update change after =>
    cases after with
    | handled _ accepted =>
      obtain rfl := Option.some_inj.mp hp
      match change, h with
      | .connect _, h | .disconnect true, h | .disconnect false, h => exact ⟨_, h.1⟩
      | .fail _, h => exact h.1
    | _ => cases hp
  | publish delivery after =>
    cases after with
    | handled =>
      obtain rfl := Option.some_inj.mp hp
      obtain ⟨kind, htalk, -⟩ := h
      exact ⟨kind, htalk⟩
    | _ => cases hp
  | _ => cases hp

/-- **What a thread knows stays true** while others act. -/
theorem mono (h : p.Agrees phase held r)
    (hclaim : p.claim ≠ none → r'.published = r.published ∧ (held' = held ∨ held' = none))
    (hhandles : ∀ server, p.handles = some server → r'.talk server = r.talk server ∧
      (held = none → held' = none) ∧ (phase' = phase ∨ phase' = .error)) :
    p.Agrees phase' held' r' := by
  -- What was taken stays taken: meanwhile the phase changes to an error at most.
  have htaken : ∀ server, p.handles = some server → phase.Taken → phase'.Taken := by
    intro server hserver htaken
    rcases (hhandles server hserver).2.2 with hsame | herror
    · rw [hsame]
      exact htaken
    · exact .inr herror
  cases p with
  | finishStart _ server _ =>
    have hpublished := (hclaim (Option.some_ne_none _)).1
    show server ∉ r'.published
    rw [hpublished]
    exact h
  | eventReceived server event | eventRuntime server event =>
    exact (hhandles server rfl).1.trans h
  | eventLatency server | eventActive server => exact (hhandles server rfl).1.trans h
  | runtimeFailed server =>
    obtain ⟨kind, htalk⟩ := h
    exact ⟨kind, (hhandles server rfl).1.trans htalk⟩
  | update change after =>
    cases after with
    | done => cases change <;> exact trivial
    | complete epoch op error =>
      cases change with
      | waitForController pairing =>
        -- The operation is under way, so nobody else publishes pairing data or holds a server.
        obtain ⟨hpublished, hheld⟩ := hclaim (Option.some_ne_none _)
        intro server hserver
        rw [hpublished]
        rcases hheld with hsame | hnone
        · exact h server (hsame.symm.trans hserver)
        · cases hnone.symm.trans hserver
      | _ => exact trivial
    | handled server accepted =>
      obtain ⟨htalk, hheld, hphase⟩ := hhandles server rfl
      match change, h with
      | .connect _, h => exact ⟨htalk.trans h.1, h.2⟩
      | .disconnect true, h =>
        refine ⟨htalk.trans h.1, ?_⟩
        rcases hphase with hsame | herror
        · rw [hsame]
          exact h.2
        · rw [herror]
          exact nofun
      | .disconnect false, h => exact ⟨htalk.trans h.1, hheld h.2⟩
      | .fail _, h =>
        obtain ⟨⟨kind, hkind⟩, haccepted⟩ := h
        exact ⟨⟨kind, htalk.trans hkind⟩, haccepted⟩
  | publish delivery after =>
    cases after with
    | handled server accepted =>
      obtain ⟨kind, hkind, hafter⟩ := h
      exact ⟨kind, (hhandles server rfl).1.trans hkind,
        fun haccepted hconnected => htaken server rfl (hafter haccepted hconnected)⟩
    | _ => exact trivial
  | _ => exact trivial

end Point.Agrees

end Remote

end Pockiva
