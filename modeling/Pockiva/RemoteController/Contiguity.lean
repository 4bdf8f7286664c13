import Pockiva.Network.Acceptance
import Pockiva.RemoteController.SentInput
import Pockiva.RemoteController.StaleCallbacks

/-! # Sequence numbers of a connection

A session takes a number for each message, also for one that is not sent.  A number that is
taken and not sent belongs to no connection or costs the connection, so the numbers sent on
one connection follow each other, and the desktop's machine accepts them all.
-/
namespace Pockiva

open Transition
open Network (ClientMessage ServerMessage Sequence Consecutive SessionMachine messageSequence)

namespace ControllerSession

open Throwing

/-- The sequence numbers of some messages; a hello has none. -/
def sequencesOf (messages : List SentMessage) : List Sequence :=
  messages.filterMap fun m => messageSequence m.message

/-- The sequence numbers that were sent on a socket. -/
def sequencesOn (sent : List SentMessage) (g : Nat) : List Sequence :=
  sequencesOf (sent.filter fun m => m.socket = g)

theorem sequenceAfter_value (sequence : Sequence) :
    (sequenceAfter sequence).value = (sequence.value + 1) % 2 ^ 53 := by
  rw [← Network.expectedAfter_eq]
  unfold sequenceAfter Network.expectedAfter
  split <;> rfl

/-- What was sent, and the number that is next on the connection. -/
structure Numbered (sent : List SentMessage) (connection : Option Nat) (generation : Nat)
    (next : Sequence) : Prop where
  sent_le : ∀ m ∈ sent, m.socket ≤ generation
  current : ∀ g, connection = some g → g = generation
  consecutive : ∀ g, Consecutive (sequencesOn sent g)
  follows : ∀ g, connection = some g → ∀ last ∈ (sequencesOn sent g).getLast?,
    next = sequenceAfter last

namespace Numbered
variable {sent : List SentMessage} {connection : Option Nat} {generation : Nat} {next : Sequence}

/-- Without a connection any number may be next. -/
theorem lose (h : Numbered sent connection generation next) (other : Sequence) :
    Numbered sent none generation other := ⟨h.sent_le, nofun, h.consecutive, nofun⟩

theorem nextGeneration (h : Numbered sent none generation next) :
    Numbered sent none (generation + 1) next :=
  ⟨fun m hm => Nat.le_succ_of_le (h.sent_le m hm), nofun, h.consecutive, nofun⟩

/-- Nothing was sent on a new connection. -/
theorem connect (h : Numbered sent connection generation next) :
    Numbered sent (some (generation + 1)) (generation + 1) next where
  sent_le m hm := Nat.le_succ_of_le (h.sent_le m hm)
  current g hg := (Option.some_inj.mp hg).symm
  consecutive := h.consecutive
  follows := by
    rintro g ⟨rfl⟩ last hlast
    have hnone : sent.filter (fun m => m.socket = generation + 1) = [] := by
      refine List.filter_eq_nil_iff.mpr fun m hm hsocket => ?_
      have hle := h.sent_le m hm
      rw [of_decide_eq_true hsocket] at hle
      exact absurd hle (Nat.not_succ_le_self _)
    unfold sequencesOn at hlast
    rw [hnone] at hlast
    cases hlast

theorem sequencesOn_snoc (sent : List SentMessage) (m : SentMessage) (g : Nat) :
    sequencesOn (sent ++ [m]) g =
      sequencesOn sent g ++ if m.socket = g then sequencesOf [m] else [] := by
  unfold sequencesOn
  rw [List.filter_append]
  by_cases hm : m.socket = g
  · have hkept : [m].filter (fun m => m.socket = g) = [m] :=
      List.filter_cons_of_pos (decide_eq_true hm)
    rw [if_pos hm, hkept]
    exact List.filterMap_append
  · have hdropped : [m].filter (fun m => m.socket = g) = [] :=
      List.filter_cons_of_neg (by simpa using hm)
    rw [if_neg hm, hdropped, List.append_nil, List.append_nil]

theorem sent_le_snoc (h : Numbered sent connection generation next) {m : SentMessage}
    (hsocket : connection = some m.socket) : ∀ m' ∈ sent ++ [m], m'.socket ≤ generation := by
  intro m' hm'
  rcases List.mem_append.mp hm' with hold | hnew
  · exact h.sent_le m' hold
  · rw [List.mem_singleton.mp hnew]
    exact Nat.le_of_eq (h.current m.socket hsocket)

/-- A message without a number. -/
theorem sendHello (h : Numbered sent connection generation next) {m : SentMessage}
    (hsocket : connection = some m.socket) (hnone : messageSequence m.message = none) :
    Numbered (sent ++ [m]) connection generation next := by
  have hsame : ∀ g, sequencesOn (sent ++ [m]) g = sequencesOn sent g := by
    intro g
    have hnothing : sequencesOf [m] = [] := List.filterMap_cons_none hnone
    rw [sequencesOn_snoc, hnothing, ite_self, List.append_nil]
  refine ⟨h.sent_le_snoc hsocket, h.current, ?_, ?_⟩
  · intro g
    rw [hsame]
    exact h.consecutive g
  · intro g hg
    rw [hsame]
    exact h.follows g hg

/-- **The next number is sent.** -/
theorem send (h : Numbered sent connection generation next) {m : SentMessage}
    (hsocket : connection = some m.socket) (hnumber : messageSequence m.message = some next) :
    Numbered (sent ++ [m]) connection generation (sequenceAfter next) := by
  have hadded : sequencesOf [m] = [next] := List.filterMap_cons_some hnumber
  refine ⟨h.sent_le_snoc hsocket, h.current, ?_, ?_⟩
  · intro g
    rw [sequencesOn_snoc]
    by_cases hg : m.socket = g
    · rw [if_pos hg, hadded]
      refine List.IsChain.append (h.consecutive g) (.singleton next) ?_
      rintro last hlast _ ⟨rfl⟩
      rw [h.follows g (hg ▸ hsocket) last hlast]
      exact sequenceAfter_value last
    · rw [if_neg hg, List.append_nil]
      exact h.consecutive g
  · rintro g hg last hlast
    obtain rfl : m.socket = g := Option.some_inj.mp (hsocket.symm.trans hg)
    rw [sequencesOn_snoc, if_pos rfl, hadded, List.getLast?_concat] at hlast
    rw [Option.some_inj.mp hlast]

end Numbered

/-- The numbers of a session, which wants the connection it has. -/
structure Contiguous (s : ControllerSession) : Prop where
  numbers : Numbered s.sent s.connection s.generation s.nextSequence
  enabled : s.connection ≠ none → s.reconnectEnabled = true

/-- A number was taken for a message that is about to be sent. -/
structure Due (s : ControllerSession) (sequence : Sequence) : Prop where
  numbers : Numbered s.sent s.connection s.generation sequence
  taken : s.nextSequence = sequenceAfter sequence
  enabled : s.connection ≠ none → s.reconnectEnabled = true

variable {s s' : ControllerSession} {t : TransportAnswers}

theorem contiguous_new (options : ControllerSessionOptions) (initialSequence : Sequence) :
    Contiguous (new options initialSequence) :=
  ⟨⟨nofun, nofun, fun _ => .nil, nofun⟩, fun hheld => absurd rfl hheld⟩

/-- A session without a connection: only what was sent before counts. -/
structure Disconnected (s : ControllerSession) : Prop where
  numbers : Numbered s.sent none s.generation s.nextSequence
  connection : s.connection = none

namespace Disconnected

theorem contiguous (h : s.Disconnected) : s.Contiguous :=
  ⟨h.connection ▸ h.numbers, fun hheld => absurd h.connection hheld⟩

theorem scheduleRetry (h : s.Disconnected) (g : Nat) : (s.scheduleRetry g).Disconnected := by
  unfold ControllerSession.scheduleRetry
  split
  · exact h
  · split
    · exact ⟨h.numbers, h.connection⟩
    · split
      · exact ⟨h.numbers, h.connection⟩
      · exact ⟨h.numbers, h.connection⟩

/-- The connection that was lost is closed, or cannot be closed. -/
theorem closeConnection (h : s.Disconnected) (connection : Option Nat) (code : Nat)
    (reason : String) :
    Ends Disconnected Disconnected
      (ControllerSession.closeConnection t s connection code reason) := by
  unfold ControllerSession.closeConnection
  split
  · exact h
  · split
    · exact ⟨h.numbers, h.connection⟩
    · exact h

/-- Closing for recovery, once the connection is dropped. -/
theorem abandon (h : s.Disconnected) (connection : Option Nat) (code : Nat) (reason : String)
    (g : Nat) :
    Ends Disconnected Disconnected
      (ControllerSession.closeConnection t s connection code reason >>=
        fun s' => .ok (s'.scheduleRetry g)) :=
  (h.closeConnection connection code reason).bind fun _ hs' => hs'.scheduleRetry g

/-- What is left without a connection is contiguous. -/
theorem ends {r : Method ControllerSession} (h : Ends Disconnected Disconnected r) :
    Ends Contiguous Contiguous r :=
  h.mono (fun _ hs => hs.contiguous) fun _ hs => hs.contiguous

end Disconnected

/-- **A message with the number that was taken** is sent, or its connection is lost. -/
theorem Due.sendClient {sequence : Sequence} (h : s.Due sequence) {message : ClientMessage}
    (hnumber : messageSequence message = some sequence) :
    Ends Contiguous (fun r => r.2.Contiguous) (s.sendClient t message) := by
  unfold ControllerSession.sendClient
  split
  · rename_i hlost
    exact Disconnected.contiguous ⟨h.numbers.lose _, hlost⟩
  · rename_i g hg
    split
    · refine ⟨?_, h.enabled⟩
      show Numbered (s.sent ++ [⟨g, message, s.desiredButtons⟩]) s.connection s.generation
        s.nextSequence
      rw [h.taken]
      exact h.numbers.send hg hnumber
    · have henabled : s.reconnectEnabled = true := by
        refine h.enabled ?_
        rw [hg]
        exact Option.some_ne_none g
      refine Ends.bind (Q := Contiguous) ?_ fun s' hs' => hs'
      unfold ControllerSession.handleTransportFailure
      rw [if_neg (by simp [henabled])]
      exact Disconnected.ends (Disconnected.abandon (s := { s with connection := none })
        ⟨h.numbers.lose _, rfl⟩ s.connection _ _ s.generation)

namespace Contiguous

theorem disconnected (h : s.Contiguous) : Disconnected { s with connection := none } :=
  ⟨h.numbers.lose _, rfl⟩

theorem due (h : s.Contiguous) : s.takeSequence.Due s.nextSequence :=
  ⟨h.numbers, rfl, h.enabled⟩

theorem handleTransportFailure (h : s.Contiguous) (g : Nat) :
    Ends Contiguous Contiguous (s.handleTransportFailure t g) := by
  unfold ControllerSession.handleTransportFailure
  split
  · exact h
  · exact Disconnected.ends (h.disconnected.abandon s.connection _ _ g)

theorem closeForRecovery (h : s.Contiguous) (code : Nat) (reason : String) (g : Nat) :
    Ends Contiguous Contiguous (s.closeForRecovery t code reason g) := by
  unfold ControllerSession.closeForRecovery
  split
  · exact h
  · exact Disconnected.ends (h.disconnected.abandon s.connection _ _ g)

theorem sendStateSync (h : s.Contiguous) :
    Ends Contiguous (fun r => r.2.Contiguous) (s.sendStateSync t) :=
  h.due.sendClient rfl

theorem desire (h : s.Contiguous) (wanted : Finset Network.Button) : (s.desire wanted).Contiguous :=
  ⟨h.numbers, h.enabled⟩

theorem syncButtons (h : s.Contiguous) (buttons : List Network.Button) :
    Ends Contiguous Contiguous (s.syncButtons t buttons) := by
  unfold ControllerSession.syncButtons
  dsimp only
  split
  · exact (h.desire _).sendStateSync.bind fun r hr => hr
  · exact h.desire _

theorem setButton (h : s.Contiguous) (button : Network.Button) (pressed : Bool) :
    Ends Contiguous Contiguous (s.setButton t button pressed) := by
  unfold ControllerSession.setButton
  split
  · exact h
  · dsimp only
    split
    · refine ((h.desire _).due.sendClient ?_).bind fun r hr => hr
      unfold buttonMessage
      split <;> rfl
    · exact h.desire _

/-- A hello takes no number. -/
theorem handleOpen (h : s.Contiguous) (g : Nat) :
    Ends Contiguous Contiguous (s.handleOpen t g) := by
  unfold ControllerSession.handleOpen
  split
  · exact h
  · refine Ends.bind (Q := fun r => r.2.Contiguous) ?_ fun r hr => hr
    unfold ControllerSession.sendClient
    split
    · exact h
    · rename_i socket hsocket
      split
      · exact ⟨h.numbers.sendHello hsocket rfl, h.enabled⟩
      · exact (h.handleTransportFailure s.generation).bind fun s' hs' => hs'

theorem scheduleNextPing (h : s.Contiguous) : s.scheduleNextPing.Contiguous := by
  unfold ControllerSession.scheduleNextPing
  split
  · exact h
  · exact ⟨h.numbers, h.enabled⟩

theorem handlePong (h : s.Contiguous) (sequence : Sequence) :
    (s.handlePong sequence).Contiguous := by
  unfold ControllerSession.handlePong
  split
  · exact h
  · exact scheduleNextPing ⟨h.numbers, h.enabled⟩

theorem failTerminal (h : s.Contiguous) (status : SessionStatus) (code : Nat) (reason : String) :
    Ends Contiguous Contiguous (s.failTerminal t status code reason) :=
  Disconnected.ends
    (Disconnected.closeConnection (s := s.failed status) ⟨h.numbers.lose _, rfl⟩ s.connection _ _)

theorem handleMessage (h : s.Contiguous) (g : Nat) (data : Option ServerMessage) :
    Ends Contiguous Contiguous (s.handleMessage t g data) := by
  unfold ControllerSession.handleMessage
  split
  · exact h
  · match data with
    | none => exact h.failTerminal _ _ _
    | some (.welcome version controllerId) =>
      have hwelcomed : (s.welcomed controllerId).Contiguous := ⟨h.numbers, h.enabled⟩
      refine hwelcomed.sendStateSync.bind ?_
      rintro ⟨sent, s'⟩ hs'
      cases sent with
      | false => exact hs'
      | true => exact hs'.scheduleNextPing
    | some (.rejected reason) => exact h.failTerminal _ _ _
    | some (.pong sequence) => exact h.handlePong sequence
    | some .controllerDisconnected => exact h.closeForRecovery _ _ g

theorem handleClose (h : s.Contiguous) (g : Nat) : (s.handleClose g).Contiguous := by
  unfold ControllerSession.handleClose
  split
  · exact h
  · have hlost : Disconnected ({ s with connection := none }.cancelHeartbeat) :=
      ⟨h.numbers.lose _, rfl⟩
    exact (hlost.scheduleRetry g).contiguous

theorem disconnect (h : s.Contiguous) : Ends Contiguous Contiguous (s.disconnect t) := by
  unfold ControllerSession.disconnect
  refine Ends.bind (Q := Contiguous) ?_ ?_
  · unfold releaseButtons
    split
    · exact h.syncButtons []
    · exact ⟨h.numbers, h.enabled⟩
  · intro s' hs'
    refine Ends.bind (Q := Disconnected) ?_ ?_
    · exact (Disconnected.closeConnection (s := s'.stopped) ⟨hs'.numbers.lose _, rfl⟩ s'.connection
        _ _).mono (fun _ hs'' => hs''.contiguous) fun _ hs'' => hs''
    · exact fun s'' hs'' => Disconnected.contiguous ⟨hs''.numbers.nextGeneration, hs''.connection⟩

/-- Whatever connection a session had, nothing was sent on the one it starts. -/
theorem startConnection (h : s.Contiguous) (henabled : s.reconnectEnabled = true) :
    (s.startConnection t).Contiguous := by
  have hlost := h.numbers.lose s.nextSequence
  unfold ControllerSession.startConnection
  dsimp only
  split
  · exact ⟨h.numbers, fun _ => henabled⟩
  · split
    · exact ⟨hlost.connect, fun _ => henabled⟩
    · exact (Disconnected.scheduleRetry ⟨hlost.nextGeneration, rfl⟩ _).contiguous

theorem connect (h : s.Contiguous) : (s.connect t).Contiguous := by
  unfold ControllerSession.connect
  split
  · exact h
  · exact startConnection ⟨h.numbers, fun _ => rfl⟩ rfl

theorem setActive (h : s.Contiguous) (active : Bool) : (s.setActive t active).Contiguous := by
  unfold ControllerSession.setActive
  split
  · exact h
  · split
    · exact ⟨h.numbers, h.enabled⟩
    · unfold ControllerSession.activate
      dsimp only
      split
      · exact ⟨h.numbers, h.enabled⟩
      · rename_i henabled
        split
        · exact scheduleNextPing ⟨h.numbers, h.enabled⟩
        · split
          · exact ⟨h.numbers, h.enabled⟩
          · exact startConnection ⟨h.numbers, h.enabled⟩ (eq_true_of_ne_false henabled)

theorem firePing (h : s.Contiguous) : Ends Contiguous Contiguous (s.firePing t) := by
  unfold ControllerSession.firePing
  dsimp only
  split
  · exact ⟨h.numbers, h.enabled⟩
  · have hdue : Due ({ s with nextPingTimer := none } : ControllerSession).awaitPong
        s.nextSequence := ⟨h.numbers, rfl, h.enabled⟩
    exact (hdue.sendClient rfl).bind fun r hr => hr

theorem firePongDeadline (h : s.Contiguous) (sequence : Sequence) :
    Ends Contiguous Contiguous (s.firePongDeadline t sequence) := by
  unfold ControllerSession.firePongDeadline
  dsimp only
  split
  · exact closeForRecovery (s := { s with awaitedPong := none, pongDeadlineTimer := none })
      ⟨h.numbers, h.enabled⟩ _ _ _
  · exact ⟨h.numbers, h.enabled⟩

theorem fire (h : s.Contiguous) (timer : ScheduledTimer) :
    Ends Contiguous Contiguous (s.fire t timer) := by
  have hcleared : Contiguous { s with timers := clearTimeout s.timers (some timer.id) } :=
    ⟨h.numbers, h.enabled⟩
  unfold ControllerSession.fire
  dsimp only
  split
  · exact hcleared.firePing
  · exact hcleared.firePongDeadline _
  · unfold ControllerSession.fireRetry
    dsimp only
    split
    · rename_i henabled
      exact startConnection ⟨h.numbers, h.enabled⟩ henabled
    · exact ⟨h.numbers, h.enabled⟩

/-- **Every entry keeps the numbers of each connection contiguous**, however it ends. -/
theorem runEntry (h : s.Contiguous) (entry : Entry) :
    Ends Contiguous Contiguous (s.runEntry t entry) := by
  cases entry with
  | connect => exact h.connect
  | disconnect => exact h.disconnect
  | setActive active => exact h.setActive active
  | setButton button pressed => exact h.setButton button pressed
  | syncButtons buttons => exact h.syncButtons buttons
  | timer timer => exact h.fire timer
  | callback g c =>
    cases c with
    | opened => exact h.handleOpen g
    | message data => exact h.handleMessage g data
    | close => exact handleClose (s := { s with ended := s.ended ++ [g] }) ⟨h.numbers, h.enabled⟩ g
    | error => exact h.handleTransportFailure g

end Contiguous

theorem contiguous_of_reachable (h : Reachable system s) : s.Contiguous := by
  refine h.invariant ?_ ?_
  · rintro s ⟨options, initialSequence, rfl⟩
    exact contiguous_new options initialSequence
  · rintro s ⟨entry, t⟩ s' hs ⟨-, rfl⟩
    exact (hs.runEntry entry).left

/-- Only a hello has no sequence number. -/
theorem messageSequence_eq_none (m : SentMessage) :
    messageSequence m.message = none ↔ m.IsHello := by
  unfold SentMessage.IsHello
  cases m.message with
  | hello version token => exact iff_of_true rfl ⟨version, token, rfl⟩
  | _ => exact iff_of_false nofun (by rintro ⟨_, _, heq⟩; cases heq)

/-- All messages but the hello are numbered. -/
theorem sequencesOf_map (messages : List SentMessage) :
    ((messages.filter fun m => ¬ m.IsHello).map SentMessage.message).map messageSequence =
      (sequencesOf messages).map some := by
  unfold sequencesOf
  induction messages with
  | nil => rfl
  | cons m rest ih =>
    cases hnumber : messageSequence m.message with
    | none =>
      have hhello := (messageSequence_eq_none m).mp hnumber
      have hskip : (m :: rest).filterMap (fun m => messageSequence m.message) =
          rest.filterMap fun m => messageSequence m.message := List.filterMap_cons_none hnumber
      rw [List.filter_cons_of_neg (by simp [hhello]), hskip]
      exact ih
    | some sequence =>
      have hhello : ¬ m.IsHello := by
        intro hhello
        cases hnumber.symm.trans ((messageSequence_eq_none m).mpr hhello)
      have hkeep : (m :: rest).filterMap (fun m => messageSequence m.message) =
          sequence :: rest.filterMap fun m => messageSequence m.message :=
        List.filterMap_cons_some hnumber
      rw [List.filter_cons_of_pos (by simp [hhello]), hkeep, List.map_cons, List.map_cons,
        List.map_cons, hnumber, ih]

theorem authenticatedOn_sequences (s : ControllerSession) (g : Nat) :
    ((s.authenticatedOn g).map SentMessage.message).map messageSequence =
      (sequencesOn s.sent g).map some := by
  have hsplit : s.authenticatedOn g =
      (s.sent.filter fun m => m.socket = g).filter fun m => ¬ m.IsHello := by
    unfold authenticatedOn
    rw [List.filter_filter]
    refine List.filter_congr fun m _ => ?_
    rw [Bool.decide_and, Bool.and_comm]
  rw [hsplit]
  exact sequencesOf_map _

end ControllerSession

/-- **Sequence numbers are contiguous**: those a page sends on one connection follow each
other modulo `2 ^ 53`, a machine that has accepted a hello accepts exactly the streams whose
numbers do, whatever the first is, and so accepts what a page sent on any connection; what a
machine rejects changes nothing. -/
theorem sequence_contiguity {s : ControllerSession} (h : Reachable ControllerSession.system s)
    {m m' : SessionMachine} (hm : Reachable SessionMachine.system m) {hello : ClientMessage}
    {receivedAt : Nat} {action : Network.SessionAction}
    (hhello : m.acceptHello hello receivedAt = (.ok action, m')) (g : Nat) :
    Consecutive (ControllerSession.sequencesOn s.sent g) ∧
    (∀ messages, m'.Accepts messages ↔ ∃ sequences,
      messages.map messageSequence = sequences.map some ∧ Consecutive sequences) ∧
    (∀ messages, messages <+: (s.authenticatedOn g).map SentMessage.message →
      m'.Accepts messages) ∧
    (∀ (m₁ m₂ : SessionMachine) message receivedAt e,
      m₁.acceptHello message receivedAt = (.error e, m₂) → m₂ = m₁) ∧
    ∀ (m₁ m₂ : SessionMachine) message e, m₁.apply message = (.error e, m₂) → m₂ = m₁ := by
  have hconsecutive := (ControllerSession.contiguous_of_reachable h).numbers.consecutive g
  refine ⟨hconsecutive, SessionMachine.accepts_iff_of_hello hm hhello, ?_,
    fun _ _ _ _ _ herror => SessionMachine.acceptHello_error herror,
    fun _ _ _ _ herror => SessionMachine.apply_error herror⟩
  rintro messages ⟨rest, hprefix⟩
  rw [SessionMachine.accepts_iff_of_hello hm hhello]
  have hsequences := s.authenticatedOn_sequences g
  rw [← hprefix, List.map_append] at hsequences
  obtain ⟨sequences, later, hsplit, hfirst, -⟩ := List.append_eq_map_iff.mp hsequences
  refine ⟨sequences, hfirst.symm, ?_⟩
  rw [hsplit] at hconsecutive
  exact hconsecutive.left_of_append

theorem token_ne_empty : "token" ≠ "" := by decide

/-- A machine that waits for the hello of a page. -/
def awaitingPage : SessionMachine := .new ⟨"token", token_ne_empty⟩ ⟨"phone", by decide⟩ 2 1

/-- A page that has the last sequence number next. -/
def wrapping : ControllerSession :=
  .new ⟨"token", 5000, 12000, [0, 500]⟩ ⟨Network.maxSafeSequence, Nat.le_refl _⟩

/-- It is welcomed, presses a button, is told that the desktop lost it, connects again and
releases the button. -/
def reconnecting : List ControllerSession.Entry :=
  [.connect, .callback 1 ControllerSession.welcome, .setButton .a true,
    .callback 1 (.message (some .controllerDisconnected)), .timer ⟨1, .retry, 0⟩,
    .callback 2 ControllerSession.welcome, .setButton .a false]

/-- The numbers wrap on the first connection and go on with the second; a machine of its own
accepts the messages of each. -/
theorem sequence_contiguity_reconnecting :
    (ControllerSession.sequencesOn (wrapping.after reconnecting).sent 1).map Sequence.value =
        [2 ^ 53 - 1, 0] ∧
      (ControllerSession.sequencesOn (wrapping.after reconnecting).sent 2).map Sequence.value =
        [1, 2] ∧
      ∀ g, SessionMachine.Accepts { awaitingPage with authentication := .authenticated }
        (((wrapping.after reconnecting).authenticatedOn g).map SentMessage.message) := by
  have hpage : Reachable ControllerSession.system (wrapping.after reconnecting) :=
    ControllerSession.reachable_after (.start ⟨_, _, rfl⟩) (by decide)
  have hmachine : Reachable SessionMachine.system awaitingPage := .start ⟨_, _, _, _, rfl⟩
  have hhello : awaitingPage.acceptHello (.hello .v1 "token") 0 =
      (.ok awaitingPage.connectedAction,
        { awaitingPage with authentication := .authenticated }) := by
    rfl
  refine ⟨by decide, by decide, fun g => ?_⟩
  exact (sequence_contiguity hpage hmachine hhello g).2.2.1 _ (List.prefix_refl _)

end Pockiva
