import Pockiva.Network.Server
import Mathlib.Data.Option.Basic

/-! # Controller sessions are bracketed

The handler that has the claim is the only one that hands over events, and it hands over
one session: a `Connected`, messages, and the `Disconnected` before it gives the claim up
(`Sound`).  So the effects of all handlers are turns, each with one complete session
(`Bracketed`).
-/
namespace Pockiva
namespace Network

open Transition Turns

variable {config : ServerConfig}

/-- The events of a session that began. -/
def IsBegun (c : ControllerConnectionId) (source : InputSourceId) (events : List ControllerEvent) :
    Prop :=
  ∃ messages : List ClientMessage,
    events = .connected c source :: messages.map (.message c source)

/-- The events of a complete session. -/
def IsSession (events : List ControllerEvent) : Prop :=
  ∃ c source begun, IsBegun c source begun ∧ events = begun ++ [.disconnected c source]

/-- The events handed over by a handler whose machine is open. -/
def Talking (m : SessionMachine) (events : List ControllerEvent) : Prop :=
  m.Open ∧ IsBegun m.connectionId m.inputSource events

/-- What a handler has handed over since it took the claim, if it has the claim. -/
def Sound : SocketState → Option (List ControllerEvent) → Prop
  | .upgrading, held => held = none
  | .awaitingHello h _, held => held = none ∧ h.machine.Awaiting
  | .helloReceived h _, held => held = none ∧ h.machine.Awaiting
  | .authenticating h _, held => held = none ∧ h.machine.Awaiting
  | .claiming h action _, held =>
    held = none ∧ h.machine.Open ∧ action = h.machine.connectedAction
  | .connecting h action _, held =>
    held = some [] ∧ h.machine.Open ∧ action = h.machine.connectedAction
  | .welcoming h _ _, held => ∃ events, held = some events ∧ Talking h.machine events
  | .looping h _ _, held => ∃ events, held = some events ∧ Talking h.machine events
  | .publishing h _ _ event, held =>
    ∃ events, held = some events ∧ Talking h.machine events ∧
      ∃ message, event = .message h.machine.connectionId h.machine.inputSource message
  | .replying h _ _ _, held => ∃ events, held = some events ∧ Talking h.machine events
  | .cleaning m, held => ∃ events, held = some events ∧ Talking m events
  | .releasing, held => ∃ events, held = some events ∧ IsSession events
  | .finished _, held => held = none

namespace IsBegun
variable {c : ControllerConnectionId} {source : InputSourceId} {events : List ControllerEvent}

theorem connected (c : ControllerConnectionId) (source : InputSourceId) :
    IsBegun c source [.connected c source] := ⟨[], rfl⟩

theorem message (h : IsBegun c source events) (message : ClientMessage) :
    IsBegun c source (events ++ [.message c source message]) := by
  obtain ⟨messages, rfl⟩ := h
  refine ⟨messages ++ [message], ?_⟩
  rw [List.map_append, List.cons_append]
  rfl

theorem disconnected (h : IsBegun c source events) :
    IsSession (events ++ [.disconnected c source]) := ⟨c, source, events, h, rfl⟩

end IsBegun

namespace Talking
variable {m : SessionMachine} {events : List ControllerEvent}

/-- A machine talks on whatever message it accepts. -/
theorem apply (h : Talking m events) (sequence : Sequence) :
    Talking { m with lastSequence := some sequence } events := h

theorem connected (hopen : m.Open) :
    Talking m ([] ++ [.connected m.connectionId m.inputSource]) := ⟨hopen, .connected _ _⟩

theorem message (h : Talking m events) (message : ClientMessage) :
    Talking m (events ++ [.message m.connectionId m.inputSource message]) := ⟨h.1, h.2.message _⟩

end Talking

/-- A pass of the message loop hands nothing over. -/
theorem Sound.receive {h : Handler} {limiter : InputRateLimiter} {frame : Frame} {now : Nat}
    {events : List ControllerEvent} (hm : Talking h.machine events) :
    Sound (.receive config h limiter frame now) (some events) := by
  unfold SocketState.receive
  split
  · exact ⟨events, rfl, hm⟩
  · split
    · exact ⟨events, rfl, hm⟩
    · rename_i message _
      split
      · exact ⟨events, rfl, hm⟩
      · rcases h.machine.apply_cases message with ⟨e, happly⟩ | ⟨sequence, -, -, -, happly⟩
        · rw [happly]
          exact ⟨events, rfl, hm⟩
        · rw [happly]
          cases message with
          | ping => exact ⟨events, rfl, hm.apply sequence⟩
          | hello version token =>
            exact ⟨events, rfl, hm.apply sequence, .hello version token, rfl⟩
          | buttonDown button s =>
            exact ⟨events, rfl, hm.apply sequence, .buttonDown button s, rfl⟩
          | buttonUp button s => exact ⟨events, rfl, hm.apply sequence, .buttonUp button s, rfl⟩
          | stateSync buttons s =>
            exact ⟨events, rfl, hm.apply sequence, .stateSync buttons s, rfl⟩

/-- **Every step of a handler keeps what it has handed over a session.** -/
theorem Sound.step {shared : SharedState} {socket socket' : SocketState} {effect : Option Effect}
    {held : Option (List ControllerEvent)} (h : Sound socket held)
    (hstep : HandlerStep config shared socket effect socket') :
    ∃ held', InTurn IsSession shared.controllerClaimed held effect held' ∧ Sound socket' held' := by
  cases hstep with
  | identify connectionId => exact ⟨held, rfl, h, SessionMachine.awaiting_new _ _ _ _⟩
  | unidentified => exact ⟨held, rfl, h⟩
  | shutdownBeforeHello => exact ⟨held, rfl, h.1⟩
  | helloTimeout => exact ⟨held, rfl, h.1⟩
  | noHello => exact ⟨held, rfl, h.1⟩
  | unparsed => exact ⟨held, rfl, h.1⟩
  | parsed => exact ⟨held, rfl, h⟩
  | tokenInvalid => exact ⟨held, rfl, h.1⟩
  | tokenValid => exact ⟨held, rfl, h⟩
  | helloRejected => exact ⟨held, rfl, h.1⟩
  | helloAccepted hhello => exact ⟨held, rfl, h.1, h.2.acceptHello_ok hhello⟩
  | alreadyConnected => exact ⟨held, rfl, h.1⟩
  | claim hclaimed => exact ⟨some [], ⟨hclaimed, h.1, rfl⟩, rfl, h.2⟩
  | unconnected haction => exact absurd h.2.2 (haction _ _)
  | connected =>
    obtain ⟨rfl, hopen, haction⟩ := h
    cases haction
    exact ⟨_, ⟨[], rfl, rfl⟩, _, rfl, .connected hopen⟩
  | unpublished =>
    obtain ⟨rfl, hopen, haction⟩ := h
    cases haction
    exact ⟨_, ⟨[], rfl, rfl⟩, _, rfl, .connected hopen⟩
  | welcomed => exact ⟨held, rfl, h⟩
  | unwelcomed => exact ⟨held, rfl, h⟩
  | shutdown => exact ⟨held, rfl, h⟩
  | heartbeatTimeout => exact ⟨held, rfl, h⟩
  | ended => exact ⟨held, rfl, h⟩
  | received frame =>
    obtain ⟨events, rfl, hm⟩ := h
    exact ⟨some events, rfl, .receive hm⟩
  | published =>
    obtain ⟨events, rfl, hm, message, rfl⟩ := h
    exact ⟨_, ⟨events, rfl, rfl⟩, _, rfl, hm.message message⟩
  | inputUnpublished =>
    obtain ⟨events, rfl, hm, message, rfl⟩ := h
    exact ⟨_, ⟨events, rfl, rfl⟩, _, rfl, hm.message message⟩
  | replied => exact ⟨held, rfl, h⟩
  | unreplied => exact ⟨held, rfl, h⟩
  | cleanup =>
    obtain ⟨events, rfl, hm⟩ := h
    rw [hm.1.disconnect]
    exact ⟨_, ⟨events, rfl, rfl⟩, _, rfl, hm.2.disconnected⟩
  | release =>
    obtain ⟨events, rfl, hsession⟩ := h
    exact ⟨none, ⟨events, rfl, hsession, rfl⟩, rfl⟩

/-- The handler has handed over its `Connected` and not yet its `Disconnected`. -/
def SocketState.Serving : SocketState → Prop
  | .welcoming _ _ _ => True
  | .looping _ _ _ => True
  | .publishing _ _ _ _ => True
  | .replying _ _ _ _ => True
  | .cleaning _ => True
  | _ => False

/-- The handler has the claim. -/
def SocketState.HasClaim : SocketState → Prop
  | .connecting _ _ _ => True
  | .releasing => True
  | socket => socket.Serving

/-- The handler never had the claim. -/
def SocketState.Untouched : SocketState → Prop
  | .finished .served => False
  | socket => ¬ socket.HasClaim

theorem Sound.hasClaim_iff {socket : SocketState} {held : Option (List ControllerEvent)}
    (h : Sound socket held) : socket.HasClaim ↔ held.isSome = true := by
  cases socket with
  | upgrading =>
    obtain rfl := h
    exact ⟨nofun, nofun⟩
  | finished =>
    obtain rfl := h
    exact ⟨nofun, nofun⟩
  | awaitingHello | helloReceived | authenticating | claiming =>
    obtain ⟨rfl, -⟩ := h
    exact ⟨nofun, nofun⟩
  | connecting =>
    obtain ⟨rfl, -⟩ := h
    exact ⟨fun _ => rfl, fun _ => trivial⟩
  | welcoming | looping | publishing | replying | cleaning | releasing =>
    obtain ⟨events, rfl, -⟩ := h
    exact ⟨fun _ => rfl, fun _ => trivial⟩

theorem SocketState.Serving.hasClaim {socket : SocketState} (h : socket.Serving) :
    socket.HasClaim := by
  cases socket <;> first | exact h.elim | trivial

/-- A handler with the claim has not yet connected, serves, or is done. -/
theorem Sound.held_cases {socket : SocketState} {events : List ControllerEvent}
    (h : Sound socket (some events)) :
    (¬ socket.Serving ∧ events = []) ∨ (¬ socket.Serving ∧ IsSession events) ∨
      (socket.Serving ∧ ∃ c source, IsBegun c source events) := by
  cases socket with
  | upgrading | finished => cases h
  | awaitingHello | helloReceived | authenticating | claiming => cases h.1
  | connecting =>
    cases h.1
    exact .inl ⟨id, rfl⟩
  | releasing =>
    obtain ⟨_, ⟨rfl⟩, hsession⟩ := h
    exact .inr (.inl ⟨id, hsession⟩)
  | publishing =>
    obtain ⟨_, ⟨rfl⟩, hm, -⟩ := h
    exact .inr (.inr ⟨trivial, _, _, hm.2⟩)
  | welcoming | looping | replying | cleaning =>
    obtain ⟨_, ⟨rfl⟩, hm⟩ := h
    exact .inr (.inr ⟨trivial, _, _, hm.2⟩)

theorem SocketState.Untouched.not_hasClaim {socket : SocketState} (h : socket.Untouched) :
    ¬ socket.HasClaim := by
  unfold SocketState.Untouched at h
  split at h
  · exact h.elim
  · exact h

/-- A handler that still takes steps and has no claim has never had it. -/
theorem SocketState.untouched_of_step {shared : SharedState} {socket socket' : SocketState}
    {effect : Option Effect} (hstep : HandlerStep config shared socket effect socket')
    (h : ¬ socket.HasClaim) : socket.Untouched := by
  unfold SocketState.Untouched
  split
  · cases hstep
  · exact h

/-- A handler that never had the claim has had no effect. -/
theorem Sound.untouched {shared : SharedState} {socket socket' : SocketState}
    {effect : Option Effect} {held : Option (List ControllerEvent)} (h : Sound socket held)
    (hstep : HandlerStep config shared socket effect socket') (hnew : socket'.Untouched) :
    socket.Untouched ∧ effect = none := by
  cases hstep with
  | unconnected haction => exact absurd h.2.2 (haction _ _)
  | received frame =>
    obtain ⟨events, rfl, hm⟩ := h
    exact absurd ((Sound.receive hm).hasClaim_iff.mpr rfl) hnew.not_hasClaim
  | release => exact hnew.elim
  | claim | connected | unpublished | welcomed | unwelcomed | shutdown | heartbeatTimeout | ended
  | published | inputUnpublished | replied | unreplied | cleanup =>
    exact absurd trivial hnew.not_hasClaim
  | _ => exact ⟨id, rfl⟩

/-- The effects of all handlers are turns of whole sessions, and the claim says whether a
turn is open. -/
structure Bracketed (s : ControllerServer) (current : Option (Nat × List ControllerEvent)) :
    Prop where
  taken : Taken IsSession s.effects current
  claimed : s.shared.controllerClaimed = current.isSome
  sound : ∀ i, Sound (s.sockets i) (heldBy current i)
  untouched : ∀ i, (s.sockets i).Untouched → ∀ a, (i, a) ∉ s.effects

namespace Bracketed
variable {s t : ControllerServer} {current : Option (Nat × List ControllerEvent)}

theorem started (now : Nat) : Bracketed (.started now) none :=
  ⟨.nil, rfl, fun _ => rfl, fun _ _ _ => List.not_mem_nil⟩

theorem handler (h : Bracketed s current) {i : Nat} {effect : Option Effect}
    {socket : SocketState} (hstep : HandlerStep config s.shared (s.sockets i) effect socket) :
    Bracketed (s.after i effect socket) (Turns.after current i effect) := by
  obtain ⟨held', hturn, hsound⟩ := (h.sound i).step hstep
  rw [h.claimed] at hturn
  have hfresh : effect = some .enter → ∀ a, (i, a) ∉ s.effects := by
    rintro rfl
    refine h.untouched i (SocketState.untouched_of_step hstep ?_)
    rw [(h.sound i).hasClaim_iff, hturn.2.1]
    exact Bool.false_ne_true
  obtain ⟨htaken, hself, hother⟩ := h.taken.step hturn hfresh
  refine ⟨htaken, ?_, ?_, ?_⟩
  · show effect.elim s.shared.controllerClaimed (claimAfter s.shared.controllerClaimed) = _
    rw [h.claimed]
    rcases effect with _ | _ | _ | _
    · rfl
    · rfl
    · exact (Option.isSome_map ..).symm
    · rfl
  · intro j
    show Sound (Function.update s.sockets i socket j) _
    by_cases hj : j = i
    · rw [hj, Function.update_self, hself]
      exact hsound
    · rw [Function.update_of_ne hj, hother j hj]
      exact h.sound j
  · intro j hj a hmem
    replace hj : (Function.update s.sockets i socket j).Untouched := hj
    rcases List.mem_append.mp hmem with hold | hnew
    · by_cases hji : j = i
      · rw [hji, Function.update_self] at hj
        exact h.untouched i ((h.sound i).untouched hstep hj).1 a (hji ▸ hold)
      · rw [Function.update_of_ne hji] at hj
        exact h.untouched j hj a hold
    · obtain ⟨action, haction, heq⟩ := List.mem_map.mp hnew
      obtain ⟨rfl, rfl⟩ := Prod.mk.injEq .. ▸ heq
      rw [Function.update_self] at hj
      rw [((h.sound i).untouched hstep hj).2] at haction
      exact List.not_mem_nil haction

theorem step {label : ControllerServer.Label} (h : Bracketed s current)
    (hstep : ControllerServer.Step config s label t) : ∃ current, Bracketed t current := by
  cases hstep with
  | elapse | invalidateToken | signalShutdown =>
    exact ⟨current, h.taken, h.claimed, h.sound, h.untouched⟩
  | handler hstep => exact ⟨_, h.handler hstep⟩

end Bracketed

theorem bracketed_of_reachable {s : ControllerServer}
    (h : Reachable (ControllerServer.system config) s) : ∃ current, Bracketed s current := by
  refine h.invariant (P := fun s => ∃ current, Bracketed s current) ?_ ?_
  · rintro s ⟨now, rfl⟩
    exact ⟨none, .started now⟩
  · intro s label t hs hstep
    obtain ⟨current, hs⟩ := hs
    exact hs.step hstep

namespace Bracketed
variable {s : ControllerServer} {current : Option (Nat × List ControllerEvent)}

/-- The handler with the claim is the owner of the open turn. -/
theorem hasClaim_iff (h : Bracketed s current) (i : Nat) :
    (s.sockets i).HasClaim ↔ ∃ events, current = some (i, events) := by
  rw [(h.sound i).hasClaim_iff, Option.isSome_iff_exists]
  constructor
  · rintro ⟨events, hevents⟩
    exact ⟨events, eq_of_heldBy hevents⟩
  · rintro ⟨events, rfl⟩
    exact ⟨events, heldBy_self i events⟩

theorem serving_owner (h : Bracketed s current) {i j : Nat} {events : List ControllerEvent}
    (hcurrent : current = some (i, events)) (hserving : (s.sockets j).Serving) : j = i := by
  obtain ⟨others, hothers⟩ := (h.hasClaim_iff j).mp hserving.hasClaim
  rw [hcurrent] at hothers
  cases hothers
  rfl

/-- **The events handed over are complete sessions and at most one that began.** -/
theorem exists_sessions (h : Bracketed s current) :
    ∃ (sessions : List (Nat × List ControllerEvent)) (begun : Option (Nat × List ControllerEvent)),
      s.handed = sessions.flatMap ofTurn ++ ofOpen begun ∧
      (∀ session ∈ sessions, IsSession session.2) ∧
      (∀ session ∈ begun, ∃ c source, IsBegun c source session.2) ∧
      ((sessions ++ begun.toList).map Prod.fst).Nodup ∧
      ∀ i, (s.sockets i).Serving ↔ ∃ events, begun = some (i, events) := by
  obtain ⟨turns, hacts, hcomplete, hnodup, -⟩ := h.taken.exists_turns
  cases hcurrent : current with
  | none =>
    subst hcurrent
    refine ⟨turns, none, hacts, hcomplete, nofun, hnodup, ?_⟩
    intro i
    exact ⟨fun hserving => (h.hasClaim_iff i).mp hserving.hasClaim, nofun⟩
  | some turn =>
    obtain ⟨i, events⟩ := turn
    have hsound : Sound (s.sockets i) (some events) := by
      have hi := h.sound i
      rwa [hcurrent, heldBy_self] at hi
    have howner : ∀ j, (s.sockets j).Serving → j = i := fun j => h.serving_owner hcurrent
    subst hcurrent
    rcases hsound.held_cases with ⟨hidle, rfl⟩ | ⟨hidle, hsession⟩ | ⟨hserving, hbegun⟩
    · refine ⟨turns, none, hacts, hcomplete, nofun, ?_, ?_⟩
      · exact hnodup.sublist
          ((List.append_sublist_append_left turns).mpr (List.nil_sublist _) |>.map _)
      · intro j
        exact ⟨fun hj => absurd (howner j hj ▸ hj) hidle, nofun⟩
    · refine ⟨turns ++ [(i, events)], none, ?_, ?_, nofun, ?_, ?_⟩
      · show acts s.effects = _
        rw [hacts, List.flatMap_append, ofOpen_some, List.flatMap_singleton, ofOpen_none,
          List.append_nil]
      · intro session hmem
        rcases List.mem_append.mp hmem with hold | hlast
        · exact hcomplete session hold
        · obtain rfl := List.mem_singleton.mp hlast
          exact hsession
      · rw [Option.toList_none, List.append_nil]
        exact hnodup
      · intro j
        exact ⟨fun hj => absurd (howner j hj ▸ hj) hidle, nofun⟩
    · refine ⟨turns, some (i, events), hacts, hcomplete, ?_, hnodup, ?_⟩
      · rintro session ⟨rfl⟩
        exact hbegun
      · intro j
        constructor
        · intro hj
          exact ⟨events, by rw [howner j hj]⟩
        · rintro ⟨_, ⟨rfl⟩⟩
          exact hserving

end Bracketed

/-- How many steps a handler may still need. -/
def SocketState.remaining : SocketState → Nat
  | .upgrading => 8
  | .awaitingHello _ _ => 8
  | .helloReceived _ _ => 7
  | .authenticating _ _ => 6
  | .claiming _ _ _ => 5
  | .connecting _ _ _ => 4
  | .welcoming _ _ _ => 3
  | .looping _ _ _ => 3
  | .publishing _ _ _ _ => 3
  | .replying _ _ _ _ => 3
  | .cleaning _ => 2
  | .releasing => 1
  | .finished _ => 0

/-- A handler can always get closer to its end, whatever the others share with it. -/
theorem HandlerStep.exists_closer (config : ServerConfig) (shared : SharedState)
    (socket : SocketState) (hmore : 0 < socket.remaining) :
    ∃ effect socket', HandlerStep config shared socket effect socket' ∧
      socket'.remaining < socket.remaining := by
  cases socket with
  | upgrading => exact ⟨_, _, .unidentified, Nat.zero_lt_succ _⟩
  | awaitingHello => exact ⟨_, _, .noHello, Nat.zero_lt_succ _⟩
  | helloReceived =>
    cases htoken : shared.tokenValid with
    | false => exact ⟨_, _, .tokenInvalid htoken, Nat.zero_lt_succ _⟩
    | true => exact ⟨_, _, .tokenValid htoken, Nat.lt_succ_self _⟩
  | authenticating h message =>
    rcases hhello : h.machine.acceptHello message shared.now with ⟨answer, machine⟩
    cases answer with
    | error e => exact ⟨_, _, .helloRejected hhello, Nat.zero_lt_succ _⟩
    | ok action => exact ⟨_, _, .helloAccepted hhello, Nat.lt_succ_self _⟩
  | claiming =>
    cases hclaimed : shared.controllerClaimed with
    | false => exact ⟨_, _, .claim hclaimed, Nat.lt_succ_self _⟩
    | true => exact ⟨_, _, .alreadyConnected hclaimed, Nat.zero_lt_succ _⟩
  | connecting h action =>
    cases action with
    | connected reply event => exact ⟨_, _, .connected, Nat.lt_succ_self _⟩
    | input | reply | none => exact ⟨_, _, .unconnected nofun, Nat.zero_lt_succ _⟩
  | welcoming => exact ⟨_, _, .unwelcomed, Nat.lt_succ_self _⟩
  | looping => exact ⟨_, _, .ended, Nat.lt_succ_self _⟩
  | publishing => exact ⟨_, _, .inputUnpublished, Nat.lt_succ_self _⟩
  | replying => exact ⟨_, _, .unreplied, Nat.lt_succ_self _⟩
  | cleaning => exact ⟨_, _, .cleanup, Nat.lt_succ_self _⟩
  | releasing => exact ⟨_, _, .release, Nat.lt_succ_self _⟩
  | finished => cases hmore

/-- **A handler can finish by its own steps alone**, from any state of the server. -/
theorem ControllerServer.exists_finish (s : ControllerServer) (i : Nat) :
    ∃ labels t outcome, (∀ label ∈ labels, label = .handler i) ∧
      Run (ControllerServer.system config) s labels t ∧ t.sockets i = .finished outcome := by
  induction hn : (s.sockets i).remaining using Nat.strongRecOn generalizing s with
  | ind n ih =>
    by_cases hdone : 0 < (s.sockets i).remaining
    · obtain ⟨effect, socket, hstep, hcloser⟩ :=
        HandlerStep.exists_closer config s.shared (s.sockets i) hdone
      have hself : (s.after i effect socket).sockets i = socket := Function.update_self ..
      obtain ⟨labels, t, outcome, hown, hrun, hfinished⟩ :=
        ih socket.remaining (hn ▸ hcloser) (s.after i effect socket) (by rw [hself])
      refine ⟨.handler i :: labels, t, outcome, ?_, ?_, hfinished⟩
      · intro label hmem
        rcases List.mem_cons.mp hmem with rfl | hrest
        · rfl
        · exact hown label hrest
      · exact (Run.single (ControllerServer.Step.handler hstep)).append hrun
    · have hfinished : ∃ outcome, s.sockets i = .finished outcome := by
        cases hsocket : s.sockets i with
        | finished outcome => exact ⟨outcome, rfl⟩
        | _ =>
          rw [hsocket] at hdone
          exact absurd (Nat.zero_lt_succ _) hdone
      obtain ⟨outcome, hfinished⟩ := hfinished
      exact ⟨[], s, outcome, nofun, .nil, hfinished⟩

/-- **Controller sessions are bracketed**: the events handed to the sink are complete
sessions, one after the other, and at most one that began, whose handler still serves and can
always finish; a handler whose hello was rejected hands over nothing and touches no claim. -/
theorem controller_event_bracketing {s : ControllerServer}
    (h : Reachable (ControllerServer.system config) s) :
    (∃ (sessions : List (Nat × List ControllerEvent)) (begun : Option (Nat × List ControllerEvent)),
      s.handed = sessions.flatMap ofTurn ++ ofOpen begun ∧
      (∀ session ∈ sessions, IsSession session.2) ∧
      (∀ session ∈ begun, ∃ c source, IsBegun c source session.2) ∧
      ((sessions ++ begun.toList).map Prod.fst).Nodup ∧
      ∀ i, (s.sockets i).Serving ↔ ∃ events, begun = some (i, events)) ∧
    (∀ i, ∃ labels t outcome, (∀ label ∈ labels, label = .handler i) ∧
      Run (ControllerServer.system config) s labels t ∧ t.sockets i = .finished outcome) ∧
    (∀ i reason, s.sockets i = .finished (.rejected reason) → ∀ effect, (i, effect) ∉ s.effects) ∧
    (s.shared.controllerClaimed = true ↔ ∃ i, (s.sockets i).HasClaim) ∧
    ∀ i j, (s.sockets i).HasClaim → (s.sockets j).HasClaim → i = j := by
  obtain ⟨current, hb⟩ := bracketed_of_reachable h
  refine ⟨hb.exists_sessions, s.exists_finish, ?_, ?_, ?_⟩
  · intro i reason hrejected
    refine hb.untouched i ?_
    rw [hrejected]
    exact id
  · rw [hb.claimed, Option.isSome_iff_exists]
    constructor
    · rintro ⟨⟨i, events⟩, hcurrent⟩
      exact ⟨i, (hb.hasClaim_iff i).mpr ⟨events, hcurrent⟩⟩
    · rintro ⟨i, hi⟩
      obtain ⟨events, hcurrent⟩ := (hb.hasClaim_iff i).mp hi
      exact ⟨(i, events), hcurrent⟩
  · intro i j hi hj
    obtain ⟨events, hi⟩ := (hb.hasClaim_iff i).mp hi
    obtain ⟨others, hj⟩ := (hb.hasClaim_iff j).mp hj
    rw [hi] at hj
    cases hj
    rfl

/-- A server whose texts are all the hello with its token. -/
def helloConfig : ServerConfig where
  wire := ⟨fun _ => some (.hello .v1 "token"), fun _ => none⟩
  token := ⟨"token", by decide⟩
  expiresAt := 600000000000
  inputSource := 1
  heartbeatTimeout := 18000000000
  inputRatePerSecond := 240

/-- The machine of the connection `first` before its hello. -/
def firstMachine : SessionMachine :=
  .new helloConfig.token ⟨"first", by decide⟩ helloConfig.inputSource helloConfig.expiresAt

/-- The same machine once the hello is accepted. -/
def firstOpen : SessionMachine := { firstMachine with authentication := .authenticated }

/-- The server once its first connection has handed over the `Connected`. -/
def firstConnected : ControllerServer :=
  (((((((ControllerServer.started 0).after 0 none
    (.awaitingHello ⟨firstMachine, false⟩ 0)).after 0 none
    (.helloReceived ⟨firstMachine, false⟩ (.hello .v1 "token"))).after 0 none
    (.authenticating ⟨firstMachine, false⟩ (.hello .v1 "token"))).after 0 none
    (.claiming ⟨firstOpen, false⟩ firstOpen.connectedAction 0)).after 0 (some .enter)
    (.connecting ⟨firstOpen, false⟩ firstOpen.connectedAction 0)).after 0
    (some (.act (.connected firstOpen.connectionId 1)))
    (.welcoming ⟨firstOpen, false⟩ (.welcome .v1 "first") 0))

theorem firstConnected_reachable :
    Reachable (ControllerServer.system helloConfig) firstConnected := by
  have hhello : firstMachine.acceptHello (.hello .v1 "token") 0 =
      (.ok firstOpen.connectedAction, firstOpen) := by decide
  have hparse : parseClientFrame helloConfig.wire (.text "") = .ok (.hello .v1 "token") := by rfl
  have h0 : Reachable (ControllerServer.system helloConfig) (.started 0) := .start ⟨0, rfl⟩
  have h1 := h0.step (ControllerServer.Step.handler (i := 0) (.identify ⟨"first", by decide⟩))
  have h2 := h1.step (ControllerServer.Step.handler (i := 0) (.parsed hparse))
  have h3 := h2.step (ControllerServer.Step.handler (i := 0) (.tokenValid rfl))
  have h4 := h3.step (ControllerServer.Step.handler (i := 0) (.helloAccepted hhello))
  have h5 := h4.step (ControllerServer.Step.handler (i := 0) (.claim rfl))
  exact h5.step (ControllerServer.Step.handler (i := 0) .connected)

/-- A reachable server with a session that began. -/
theorem controller_event_bracketing_firstConnected :
    (firstConnected.sockets 0).Serving ∧
      ∃ (sessions : List (Nat × List ControllerEvent))
        (begun : Option (Nat × List ControllerEvent)),
        firstConnected.handed = sessions.flatMap ofTurn ++ ofOpen begun ∧
        (∀ session ∈ sessions, IsSession session.2) ∧
        (∀ session ∈ begun, ∃ c source, IsBegun c source session.2) ∧
        ((sessions ++ begun.toList).map Prod.fst).Nodup ∧
        ∀ i, (firstConnected.sockets i).Serving ↔ ∃ events, begun = some (i, events) :=
  ⟨trivial, (controller_event_bracketing firstConnected_reachable).1⟩

end Network

end Pockiva
