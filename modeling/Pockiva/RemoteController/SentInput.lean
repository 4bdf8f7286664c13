import Pockiva.Lib.Log
import Pockiva.RemoteController.Settled

/-! # What a session sends on a connection

After the welcome a session sends a state-sync and then one message for each change of the
wanted buttons, so a receiver that applies the messages of one connection knows the buttons
that were wanted when the last of them was sent (`Shown`).  This holds of every run, also of
one that `close` cuts short and of one with late messages of old sockets (`Tracked`).
-/
namespace Pockiva

open Network (ClientMessage ServerMessage Sequence)

namespace SentMessage

def IsHello (m : SentMessage) : Prop :=
  ∃ version token, m.message = .hello version token

instance (m : SentMessage) : Decidable m.IsHello :=
  match h : m.message with
  | .hello version token => .isTrue ⟨version, token, h⟩
  | .buttonDown _ _ | .buttonUp _ _ | .stateSync _ _ | .ping _ =>
    .isFalse fun ⟨_, _, hhello⟩ => by rw [h] at hhello; cases hhello

/-- The message carries all the buttons that are wanted. -/
def IsFullSync (m : SentMessage) : Prop :=
  ∃ sequence, m.message = .stateSync (buttonOrder.filter fun button => button ∈ m.desired) sequence

/-- The message turns the buttons it was sent after into those that are wanted. -/
def IsDelta (m : SentMessage) (before : Finset Network.Button) : Prop :=
  (∃ button sequence, m.message = .buttonDown button sequence ∧ m.desired = insert button before) ∨
  (∃ button sequence, m.message = .buttonUp button sequence ∧ m.desired = before.erase button) ∨
  ∃ sequence, m.message = .ping sequence ∧ m.desired = before

end SentMessage

/-- The messages begin with a state-sync, and after them a receiver knows these buttons. -/
inductive Shown : List SentMessage → Option (Finset Network.Button) → Prop where
  | nil : Shown [] none
  | sync {messages : List SentMessage} {known : Option (Finset Network.Button)} {m : SentMessage}
      (h : Shown messages known) (hm : m.IsFullSync) : Shown (messages ++ [m]) (some m.desired)
  | delta {messages : List SentMessage} {known : Finset Network.Button} {m : SentMessage}
      (h : Shown messages (some known)) (hm : m.IsDelta known) :
      Shown (messages ++ [m]) (some m.desired)

namespace Shown
variable {messages : List SentMessage} {known : Option (Finset Network.Button)}

/-- Who knows buttons has got a message. -/
theorem ne_nil (h : Shown messages known) (hknown : known ≠ none) : messages ≠ [] := by
  cases h with
  | nil => exact absurd rfl hknown
  | sync => exact List.append_ne_nil_of_right_ne_nil _ (List.cons_ne_nil _ _)
  | delta => exact List.append_ne_nil_of_right_ne_nil _ (List.cons_ne_nil _ _)

/-- The first message is a full state-sync. -/
theorem head (h : Shown messages known) : ∀ m ∈ messages.head?, m.IsFullSync := by
  induction h with
  | nil => exact nofun
  | @sync messages known m _ hm ih =>
    cases messages with
    | nil =>
      rintro _ ⟨rfl⟩
      exact hm
    | cons first rest => exact ih
  | @delta messages known m h _ ih =>
    cases messages with
    | nil => exact absurd rfl (h.ne_nil (Option.some_ne_none known))
    | cons first rest => exact ih

/-- After a message the receiver knows the buttons it was sent with. -/
theorem known_eq (h : Shown messages known) {before : List SentMessage} {m : SentMessage}
    (heq : messages = before ++ [m]) : known = some m.desired := by
  cases h with
  | nil => exact absurd heq (by simp)
  | sync =>
    obtain ⟨-, hlast⟩ := List.append_inj' heq rfl
    rw [List.singleton_inj.mp hlast]
  | delta =>
    obtain ⟨-, hlast⟩ := List.append_inj' heq rfl
    rw [List.singleton_inj.mp hlast]

/-- What a receiver knows before one of the messages, and what the message adds to it. -/
theorem upTo (h : Shown messages known) {before after : List SentMessage} {m : SentMessage}
    (heq : messages = before ++ m :: after) :
    ∃ knownBefore, Shown before knownBefore ∧
      (m.IsFullSync ∨ ∃ wanted, knownBefore = some wanted ∧ m.IsDelta wanted) := by
  induction h generalizing after with
  | nil => exact absurd heq (by simp)
  | @sync messages known last h hm ih =>
    rcases Log.snoc_eq_append_cons heq with ⟨rfl, rfl, -⟩ | ⟨rest, -, hrest⟩
    · exact ⟨known, h, .inl hm⟩
    · exact ih hrest
  | @delta messages known last h hm ih =>
    rcases Log.snoc_eq_append_cons heq with ⟨rfl, rfl, -⟩ | ⟨rest, -, hrest⟩
    · exact ⟨some known, h, .inr ⟨known, rfl, hm⟩⟩
    · exact ih hrest

end Shown

namespace ControllerSession

open Throwing

/-- What was sent on a socket once it was authenticated: all but the hello. -/
def authenticatedOn (s : ControllerSession) (g : Nat) : List SentMessage :=
  s.sent.filter fun m => m.socket = g ∧ ¬ m.IsHello

/-- The connection and the timers fit together, in every run. -/
structure Wired (s : ControllerSession) : Prop where
  current : ∀ g, s.connection = some g → g = s.generation
  sent_le : ∀ m ∈ s.sent, m.socket ≤ s.generation
  status : s.connection ≠ none →
    s.snapshot.status = .connecting ∨ s.snapshot.status = .connected
  enabled : s.connection ≠ none → s.reconnectEnabled = true
  retry : ∀ timer ∈ s.timers, timer.callback = .retry → s.retryTimer = some timer.id
  lost : s.retryTimer ≠ none → s.connection = none

/-- What was sent on each socket shows buttons, on the connection those wanted now. -/
structure Tracked (s : ControllerSession) : Prop where
  wired : s.Wired
  shown : ∀ g, ∃ known, Shown (s.authenticatedOn g) known
  connected : ∀ g, s.connection = some g → s.snapshot.status = .connected →
    Shown (s.authenticatedOn g) (some s.desiredButtons)
  connecting : ∀ g, s.connection = some g → s.snapshot.status ≠ .connected →
    s.authenticatedOn g = []

variable {s s' : ControllerSession} {t : TransportAnswers}

/-- A session without a connection: only what was sent before counts. -/
structure Adrift (s : ControllerSession) : Prop where
  connection : s.connection = none
  sent_le : ∀ m ∈ s.sent, m.socket ≤ s.generation
  retry : ∀ timer ∈ s.timers, timer.callback = .retry → s.retryTimer = some timer.id
  shown : ∀ g, ∃ known, Shown (s.authenticatedOn g) known

namespace Adrift

theorem tracked (h : s.Adrift) : s.Tracked where
  wired := {
    current := fun g hg => absurd (h.connection.symm.trans hg) (Option.some_ne_none g).symm
    sent_le := h.sent_le
    status := fun hheld => absurd h.connection hheld
    enabled := fun hheld => absurd h.connection hheld
    retry := h.retry
    lost := fun _ => h.connection }
  shown := h.shown
  connected g hg := absurd (h.connection.symm.trans hg) (Option.some_ne_none g).symm
  connecting g hg := absurd (h.connection.symm.trans hg) (Option.some_ne_none g).symm

theorem cancelHeartbeat (h : s.Adrift) : s.cancelHeartbeat.Adrift :=
  ⟨h.connection, h.sent_le,
    fun timer htimer => h.retry timer (List.mem_of_mem_filter (List.mem_of_mem_filter htimer)),
    h.shown⟩

theorem retryAfter (h : s.Adrift) (hretry : s.retryTimer = none) (delayMs : Nat) :
    (s.retryAfter delayMs).Adrift := by
  refine ⟨h.connection, h.sent_le, ?_, h.shown⟩
  intro timer htimer hcallback
  rcases List.mem_append.mp htimer with hold | hnew
  · have hset := h.retry timer hold hcallback
    rw [hretry] at hset
    cases hset
  · rw [List.mem_singleton.mp hnew]
    rfl

theorem scheduleRetry (h : s.Adrift) (g : Nat) : (s.scheduleRetry g).Adrift := by
  unfold ControllerSession.scheduleRetry
  split
  · exact h
  · rename_i hgo
    rw [not_or, not_or, not_not, not_not] at hgo
    have hquiet := h.cancelHeartbeat
    split
    · exact ⟨hquiet.connection, hquiet.sent_le, hquiet.retry, hquiet.shown⟩
    · split
      · exact ⟨hquiet.connection, hquiet.sent_le, hquiet.retry, hquiet.shown⟩
      · exact hquiet.retryAfter hgo.2.2 _

/-- Closing the lost connection, whether it can be closed or not. -/
theorem closeConnection (h : s.Adrift) (connection : Option Nat) (code : Nat) (reason : String) :
    Ends Adrift Adrift (closeConnection t s connection code reason) := by
  unfold ControllerSession.closeConnection
  split
  · exact h
  · split
    · exact ⟨h.connection, h.sent_le, h.retry, h.shown⟩
    · exact h

end Adrift

theorem adrift_new (options : ControllerSessionOptions) (initialSequence : Sequence) :
    Adrift (new options initialSequence) := ⟨rfl, nofun, nofun, fun _ => ⟨none, .nil⟩⟩

/-! ## Sending -/

/-- The session with one more message sent. -/
def withSent (s : ControllerSession) (m : SentMessage) : ControllerSession :=
  { s with sent := s.sent ++ [m] }

theorem authenticatedOn_withSent (s : ControllerSession) (m : SentMessage) (g : Nat) :
    (s.withSent m).authenticatedOn g =
      s.authenticatedOn g ++ if m.socket = g ∧ ¬ m.IsHello then [m] else [] := by
  unfold authenticatedOn withSent
  rw [List.filter_append]
  congr 1
  by_cases hm : m.socket = g ∧ ¬ m.IsHello
  · rw [if_pos hm]
    exact List.filter_cons_of_pos (decide_eq_true hm)
  · rw [if_neg hm]
    exact List.filter_cons_of_neg (by simpa using hm)

/-- A message on the connection that the receiver can make sense of. -/
theorem Wired.tracked_withSent (h : s.Wired)
    (hshown : ∀ g, ∃ known, Shown (s.authenticatedOn g) known) {m : SentMessage}
    (hsocket : s.connection = some m.socket)
    (hconnected : s.snapshot.status = .connected) (hdesired : m.desired = s.desiredButtons)
    (hnext : Shown (s.authenticatedOn m.socket ++ [m]) (some m.desired)) (hhello : ¬ m.IsHello) :
    (s.withSent m).Tracked where
  wired := {
    current := h.current
    sent_le := by
      intro m' hm'
      rcases List.mem_append.mp hm' with hold | hnew
      · exact h.sent_le m' hold
      · rw [List.mem_singleton.mp hnew]
        exact Nat.le_of_eq (h.current m.socket hsocket)
    status := h.status
    enabled := h.enabled
    retry := h.retry
    lost := h.lost }
  shown g := by
    rw [authenticatedOn_withSent]
    by_cases hg : m.socket = g
    · rw [if_pos ⟨hg, hhello⟩, ← hg]
      exact ⟨_, hnext⟩
    · rw [if_neg fun hm => hg hm.1, List.append_nil]
      exact hshown g
  connected g hg _ := by
    obtain rfl : m.socket = g := Option.some_inj.mp (hsocket.symm.trans hg)
    rw [authenticatedOn_withSent, if_pos ⟨rfl, hhello⟩]
    show Shown _ (some s.desiredButtons)
    rw [← hdesired]
    exact hnext
  connecting g _ hstatus := absurd hconnected hstatus

/-- A hello does not count. -/
theorem Tracked.withHello (h : s.Tracked) {m : SentMessage} (hsocket : s.connection = some m.socket)
    (hhello : m.IsHello) : (s.withSent m).Tracked := by
  have hsame : ∀ g, (s.withSent m).authenticatedOn g = s.authenticatedOn g := by
    intro g
    rw [authenticatedOn_withSent, if_neg fun hm => hm.2 hhello, List.append_nil]
  refine ⟨⟨h.wired.current, ?_, h.wired.status, h.wired.enabled, h.wired.retry, h.wired.lost⟩,
    ?_, ?_, ?_⟩
  · intro m' hm'
    rcases List.mem_append.mp hm' with hold | hnew
    · exact h.wired.sent_le m' hold
    · rw [List.mem_singleton.mp hnew]
      exact Nat.le_of_eq (h.wired.current m.socket hsocket)
  · intro g
    rw [hsame]
    exact h.shown g
  · intro g hg hstatus
    rw [hsame]
    exact h.connected g hg hstatus
  · intro g hg hstatus
    rw [hsame]
    exact h.connecting g hg hstatus

namespace Wired

theorem adrift (h : s.Wired) (hshown : ∀ g, ∃ known, Shown (s.authenticatedOn g) known) :
    Adrift { s with connection := none } := ⟨rfl, h.sent_le, h.retry, hshown⟩

/-- **A message is sent, or the connection is given up.** -/
theorem sendClient (h : s.Wired) (hshown : ∀ g, ∃ known, Shown (s.authenticatedOn g) known)
    (message : ClientMessage) :
    Ends Adrift
      (fun r => r.2.Adrift ∨ ∃ g, s.connection = some g ∧
        r.2 = s.withSent ⟨g, message, s.desiredButtons⟩)
      (s.sendClient t message) := by
  unfold ControllerSession.sendClient
  split
  · rename_i hlost
    exact .inl ⟨hlost, h.sent_le, h.retry, hshown⟩
  · rename_i g hg
    split
    · exact .inr ⟨g, hg, rfl⟩
    · have henabled : s.reconnectEnabled = true := by
        refine h.enabled ?_
        rw [hg]
        exact Option.some_ne_none g
      have hfailed : Ends Adrift Adrift (s.handleTransportFailure t s.generation) := by
        unfold ControllerSession.handleTransportFailure
        rw [if_neg (by simp [henabled])]
        exact ((h.adrift hshown).closeConnection _ _ _).bind fun s' hs' => hs'.scheduleRetry _
      exact hfailed.bind fun s' hs' => .inl hs'

end Wired

namespace Tracked

theorem handleTransportFailure (h : s.Tracked) (g : Nat) :
    Ends Tracked Tracked (s.handleTransportFailure t g) := by
  unfold ControllerSession.handleTransportFailure
  split
  · exact h
  · exact (((h.wired.adrift h.shown).closeConnection _ _ _).mono (fun _ hs' => hs'.tracked)
      fun _ hs' => hs').bind fun s' hs' => (hs'.scheduleRetry _).tracked

theorem closeForRecovery (h : s.Tracked) (code : Nat) (reason : String) (g : Nat) :
    Ends Tracked Tracked (s.closeForRecovery t code reason g) := by
  unfold ControllerSession.closeForRecovery
  split
  · exact h
  · exact (((h.wired.adrift h.shown).closeConnection _ _ _).mono (fun _ hs' => hs'.tracked)
      fun _ hs' => hs').bind fun s' hs' => (hs'.scheduleRetry _).tracked

/-- Other buttons may be wanted while nothing was sent on the connection. -/
theorem desire (h : s.Tracked) (hstatus : s.snapshot.status ≠ .connected)
    (wanted : Finset Network.Button) : (s.desire wanted).Tracked :=
  ⟨⟨h.wired.current, h.wired.sent_le, h.wired.status, h.wired.enabled, h.wired.retry,
    h.wired.lost⟩, h.shown, fun _ _ hconnected => absurd hconnected hstatus,
    fun g hg _ => h.connecting g hg hstatus⟩

/-- A full state-sync on the connection. -/
theorem sendStateSync (hw : s.Wired) (hshown : ∀ g, ∃ known, Shown (s.authenticatedOn g) known)
    (hconnected : s.snapshot.status = .connected) :
    Ends Tracked (fun r => r.2.Tracked) (s.sendStateSync t) := by
  have htaken : s.takeSequence.Wired :=
    ⟨hw.current, hw.sent_le, hw.status, hw.enabled, hw.retry, hw.lost⟩
  refine (htaken.sendClient hshown _).mono (fun _ hs' => hs'.tracked) ?_
  rintro ⟨sent, s'⟩ (hs' | ⟨g, hg, rfl⟩)
  · exact hs'.tracked
  · obtain ⟨known, hknown⟩ := hshown g
    refine htaken.tracked_withSent hshown hg hconnected rfl ?_ ?_
    · exact .sync hknown ⟨_, rfl⟩
    · rintro ⟨_, _, hhello⟩
      cases hhello

theorem syncButtons (h : s.Tracked) (buttons : List Network.Button) :
    Ends Tracked Tracked (s.syncButtons t buttons) := by
  unfold ControllerSession.syncButtons
  dsimp only
  split
  · rename_i hconnected
    have hwired : (s.desire (buttonOrder.filter fun button => button ∈ buttons).toFinset).Wired :=
      ⟨h.wired.current, h.wired.sent_le, h.wired.status, h.wired.enabled, h.wired.retry,
        h.wired.lost⟩
    exact (sendStateSync hwired h.shown hconnected).bind fun r hr => hr
  · rename_i hstatus
    exact h.desire hstatus _

/-- What a press or a release adds to what the receiver knows. -/
theorem isDelta_buttonMessage (g : Nat) (before : Finset Network.Button) (button : Network.Button)
    (pressed : Bool) (sequence : Sequence) :
    SentMessage.IsDelta ⟨g, buttonMessage button pressed sequence,
      wantedAfter before button pressed⟩ before := by
  cases pressed with
  | true => exact .inl ⟨button, sequence, rfl, rfl⟩
  | false => exact .inr (.inl ⟨button, sequence, rfl, rfl⟩)

theorem setButton (h : s.Tracked) (button : Network.Button) (pressed : Bool) :
    Ends Tracked Tracked (s.setButton t button pressed) := by
  unfold ControllerSession.setButton
  split
  · exact h
  · dsimp only
    split
    · rename_i hconnected
      have hwired : (s.desire (wantedAfter s.desiredButtons button pressed)).takeSequence.Wired :=
        ⟨h.wired.current, h.wired.sent_le, h.wired.status, h.wired.enabled, h.wired.retry,
          h.wired.lost⟩
      refine Ends.bind ((hwired.sendClient h.shown _).mono (fun _ hs' => hs'.tracked)
        fun _ hr => hr) ?_
      rintro ⟨sent, s'⟩ (hs' | ⟨g, hg, rfl⟩)
      · exact hs'.tracked
      · refine hwired.tracked_withSent h.shown hg hconnected rfl ?_ ?_
        · exact .delta (h.connected g hg hconnected) (isDelta_buttonMessage g _ button pressed _)
        · rintro ⟨_, _, hhello⟩
          cases pressed <;> cases hhello
    · rename_i hstatus
      exact h.desire hstatus _

theorem handleOpen (h : s.Tracked) (g : Nat) : Ends Tracked Tracked (s.handleOpen t g) := by
  unfold ControllerSession.handleOpen
  split
  · exact h
  · refine Ends.bind ((h.wired.sendClient h.shown _).mono (fun _ hs' => hs'.tracked)
      fun _ hr => hr) ?_
    rintro ⟨sent, s'⟩ (hs' | ⟨g, hg, rfl⟩)
    · exact hs'.tracked
    · exact h.withHello hg ⟨_, _, rfl⟩

/-- Timers of the heartbeat do not matter here. -/
theorem heartbeat (h : s.Tracked) {timers : List ScheduledTimer}
    (hretry : ∀ timer ∈ timers, timer.callback = .retry → s.retryTimer = some timer.id)
    (nextTimer : Nat) (nextPing pongDeadline : Option Nat) (awaited : Option Sequence) :
    Tracked { s with
      timers := timers, nextTimer := nextTimer, nextPingTimer := nextPing,
      pongDeadlineTimer := pongDeadline, awaitedPong := awaited } :=
  ⟨⟨h.wired.current, h.wired.sent_le, h.wired.status, h.wired.enabled, hretry, h.wired.lost⟩,
    h.shown, h.connected, h.connecting⟩

theorem scheduleNextPing (h : s.Tracked) : s.scheduleNextPing.Tracked := by
  unfold ControllerSession.scheduleNextPing
  split
  · exact h
  · refine h.heartbeat ?_ _ _ _ _
    intro timer htimer hretry
    rcases List.mem_append.mp htimer with hold | hnew
    · exact h.wired.retry timer (List.mem_of_mem_filter hold) hretry
    · rw [List.mem_singleton.mp hnew] at hretry
      cases hretry

theorem handlePong (h : s.Tracked) (sequence : Sequence) : (s.handlePong sequence).Tracked := by
  unfold ControllerSession.handlePong
  split
  · exact h
  · refine Tracked.scheduleNextPing (h.heartbeat ?_ _ _ _ _)
    exact fun timer htimer => h.wired.retry timer (List.mem_of_mem_filter htimer)

/-- A session that stops wanting a connection. -/
theorem adrift_stopped (h : s.Tracked) : s.stopped.Adrift := by
  refine ⟨rfl, h.wired.sent_le, ?_, h.shown⟩
  intro timer htimer hretry
  obtain ⟨hmem, hother⟩ := List.mem_filter.mp htimer
  have hset := h.wired.retry timer (List.mem_of_mem_filter (List.mem_of_mem_filter hmem)) hretry
  exact absurd hset (of_decide_eq_true hother)

theorem failTerminal (h : s.Tracked) (status : SessionStatus) (code : Nat) (reason : String) :
    Ends Tracked Tracked (s.failTerminal t status code reason) := by
  have hstopped := h.adrift_stopped
  have hfailed : (s.failed status).Adrift :=
    ⟨hstopped.connection, hstopped.sent_le, hstopped.retry, hstopped.shown⟩
  exact (hfailed.closeConnection _ _ _).mono (fun _ hs' => hs'.tracked) fun _ hs' => hs'.tracked

/-- **The welcome is answered with a full state-sync.** -/
theorem handleMessage (h : s.Tracked) (g : Nat) (data : Option ServerMessage) :
    Ends Tracked Tracked (s.handleMessage t g data) := by
  unfold ControllerSession.handleMessage
  split
  · exact h
  · match data with
    | none => exact h.failTerminal _ _ _
    | some (.welcome version controllerId) =>
      have hwired : (s.welcomed controllerId).Wired :=
        ⟨h.wired.current, h.wired.sent_le, fun _ => .inr rfl, h.wired.enabled, h.wired.retry,
          h.wired.lost⟩
      refine (sendStateSync hwired h.shown rfl).bind ?_
      rintro ⟨sent, s'⟩ hs'
      cases sent with
      | false => exact hs'
      | true => exact hs'.scheduleNextPing
    | some (.rejected reason) => exact h.failTerminal _ _ _
    | some (.pong sequence) => exact h.handlePong sequence
    | some .controllerDisconnected => exact h.closeForRecovery _ _ g

theorem handleClose (h : s.Tracked) (g : Nat) : (s.handleClose g).Tracked := by
  unfold ControllerSession.handleClose
  split
  · exact h
  · exact ((h.wired.adrift h.shown).cancelHeartbeat.scheduleRetry g).tracked

theorem disconnect (h : s.Tracked) : Ends Tracked Tracked (s.disconnect t) := by
  unfold ControllerSession.disconnect
  refine Ends.bind (Q := fun s' : ControllerSession => s'.stopped.Adrift) ?_ ?_
  · unfold releaseButtons
    by_cases hconnected : s.snapshot.status = .connected
    · rw [if_pos hconnected]
      exact (h.syncButtons []).mono (fun _ hs' => hs') fun s' hs' => hs'.adrift_stopped
    · rw [if_neg hconnected]
      have hstopped := h.adrift_stopped
      exact ⟨rfl, hstopped.sent_le, hstopped.retry, hstopped.shown⟩
  · intro s' hs'
    refine ((hs'.closeConnection _ _ _).mono (fun _ hs'' => hs''.tracked)
      fun _ hs'' => hs'').bind ?_
    intro s'' hs''
    refine Adrift.tracked ⟨hs''.connection, ?_, hs''.retry, hs''.shown⟩
    exact fun m hm => Nat.le_succ_of_le (hs''.sent_le m hm)

end Tracked

/-- **A new connection begins with nothing sent on it.** -/
theorem Adrift.startConnection (h : s.Adrift) (hretry : s.retryTimer = none)
    (henabled : s.reconnectEnabled = true) : (s.startConnection t).Tracked := by
  have hquiet := h.cancelHeartbeat
  unfold ControllerSession.startConnection
  dsimp only
  split
  · exact Adrift.tracked ⟨hquiet.connection, hquiet.sent_le, hquiet.retry, hquiet.shown⟩
  · split
    · refine ⟨⟨?_, ?_, fun _ => .inl rfl, fun _ => henabled, hquiet.retry, ?_⟩, hquiet.shown,
        ?_, ?_⟩
      · rintro g ⟨rfl⟩
        rfl
      · exact fun m hm => Nat.le_succ_of_le (hquiet.sent_le m hm)
      · exact fun hset => absurd hretry hset
      · intro g _ hconnected
        cases hconnected
      · rintro g ⟨rfl⟩ _
        refine List.filter_eq_nil_iff.mpr ?_
        intro m hm hsocket
        have hle := hquiet.sent_le m hm
        rw [(of_decide_eq_true hsocket).1] at hle
        exact absurd hle (Nat.not_succ_le_self _)
    · refine (Adrift.scheduleRetry ?_ _).tracked
      refine ⟨rfl, ?_, hquiet.retry, hquiet.shown⟩
      exact fun m hm => Nat.le_succ_of_le (hquiet.sent_le m hm)

namespace Tracked

/-- The timers without the retry timer, which is no longer set. -/
theorem cancelRetry (h : s.Tracked) :
    ∀ timer ∈ clearTimeout s.timers s.retryTimer,
      timer.callback = .retry → none = some timer.id := by
  intro timer htimer hretry
  obtain ⟨hmem, hother⟩ := List.mem_filter.mp htimer
  exact absurd (h.wired.retry timer hmem hretry) (of_decide_eq_true hother)

theorem connect (h : s.Tracked) : (s.connect t).Tracked := by
  unfold ControllerSession.connect
  split
  · exact h
  · rename_i hstatus
    have hlost : s.connection = none := by
      by_contra hheld
      exact hstatus (h.wired.status hheld)
    refine Adrift.startConnection ?_ rfl rfl
    exact ⟨hlost, h.wired.sent_le, h.cancelRetry, h.shown⟩

theorem deactivate (h : s.Tracked) : s.deactivate.Tracked := by
  refine ⟨⟨h.wired.current, h.wired.sent_le, h.wired.status, h.wired.enabled, ?_, ?_⟩, h.shown,
    h.connected, h.connecting⟩
  · intro timer htimer hretry
    obtain ⟨hmem, hother⟩ := List.mem_filter.mp htimer
    have hset := h.wired.retry timer (List.mem_of_mem_filter (List.mem_of_mem_filter hmem)) hretry
    exact absurd hset (of_decide_eq_true hother)
  · exact fun hset => absurd rfl hset

theorem activate (h : s.Tracked) : (s.activate t).Tracked := by
  have hactive : Tracked { s with active := true } :=
    ⟨⟨h.wired.current, h.wired.sent_le, h.wired.status, h.wired.enabled, h.wired.retry,
      h.wired.lost⟩, h.shown, h.connected, h.connecting⟩
  unfold ControllerSession.activate
  dsimp only
  split
  · exact hactive
  · rename_i henabled
    split
    · exact hactive.scheduleNextPing
    · split
      · exact hactive
      · rename_i hgo
        rw [not_or, not_or, not_not, not_not] at hgo
        refine Adrift.startConnection ?_ hgo.2.2 (eq_true_of_ne_false henabled)
        exact ⟨hgo.2.1, h.wired.sent_le, h.wired.retry, h.shown⟩

theorem setActive (h : s.Tracked) (active : Bool) : (s.setActive t active).Tracked := by
  unfold ControllerSession.setActive
  split
  · exact h
  · split
    · exact h.deactivate
    · exact h.activate

theorem awaitPong (h : s.Tracked) : s.awaitPong.Tracked := by
  refine ⟨⟨h.wired.current, h.wired.sent_le, h.wired.status, h.wired.enabled, ?_, h.wired.lost⟩,
    h.shown, h.connected, h.connecting⟩
  intro timer htimer hretry
  rcases List.mem_append.mp htimer with hold | hnew
  · exact h.wired.retry timer hold hretry
  · rw [List.mem_singleton.mp hnew] at hretry
    cases hretry

/-- A ping changes no buttons. -/
theorem sendPing (h : s.Tracked) (hconnected : s.snapshot.status = .connected)
    (sequence : Sequence) :
    Ends Tracked (fun r => r.2.Tracked) (s.sendClient t (.ping sequence)) := by
  refine (h.wired.sendClient h.shown _).mono (fun _ hs' => hs'.tracked) ?_
  rintro ⟨sent, s'⟩ (hs' | ⟨g, hg, rfl⟩)
  · exact hs'.tracked
  · refine h.wired.tracked_withSent h.shown hg hconnected rfl ?_ ?_
    · exact .delta (h.connected g hg hconnected) (.inr (.inr ⟨sequence, rfl, rfl⟩))
    · rintro ⟨_, _, hhello⟩
      cases hhello

theorem firePing (h : s.Tracked) : Ends Tracked Tracked (s.firePing t) := by
  have hfired : Tracked { s with nextPingTimer := none } := h.heartbeat h.wired.retry _ _ _ _
  unfold ControllerSession.firePing
  dsimp only
  split
  · exact hfired
  · rename_i hstatus
    rw [not_not] at hstatus
    exact (hfired.awaitPong.sendPing hstatus _).bind fun r hr => hr

theorem firePongDeadline (h : s.Tracked) (sequence : Sequence) :
    Ends Tracked Tracked (s.firePongDeadline t sequence) := by
  unfold ControllerSession.firePongDeadline
  dsimp only
  split
  · exact Tracked.closeForRecovery (h.heartbeat h.wired.retry _ _ _ _) _ _ _
  · exact h.heartbeat h.wired.retry _ _ _ _

theorem fireRetry (h : s.Tracked) {timer : ScheduledTimer} (htimer : timer ∈ s.timers)
    (hretry : timer.callback = .retry) :
    (ControllerSession.fireRetry t
      { s with timers := clearTimeout s.timers (some timer.id) }).Tracked := by
  have hset := h.wired.retry timer htimer hretry
  have hlost : s.connection = none := by
    refine h.wired.lost ?_
    rw [hset]
    exact Option.some_ne_none _
  have hcleared : ∀ other ∈ clearTimeout s.timers (some timer.id), other.callback = .retry →
      none = some other.id := by
    rw [← hset]
    exact h.cancelRetry
  unfold ControllerSession.fireRetry
  dsimp only
  split
  · rename_i henabled
    refine Adrift.startConnection ?_ rfl henabled
    exact ⟨hlost, h.wired.sent_le, hcleared, h.shown⟩
  · exact Adrift.tracked ⟨hlost, h.wired.sent_le, hcleared, h.shown⟩

theorem fire (h : s.Tracked) {timer : ScheduledTimer} (htimer : timer ∈ s.timers) :
    Ends Tracked Tracked (s.fire t timer) := by
  have hcleared : Tracked { s with timers := clearTimeout s.timers (some timer.id) } :=
    h.heartbeat (fun other hother => h.wired.retry other (List.mem_of_mem_filter hother)) _ _ _ _
  unfold ControllerSession.fire
  dsimp only
  cases hcallback : timer.callback with
  | nextPing => exact hcleared.firePing
  | pongDeadline sequence => exact hcleared.firePongDeadline sequence
  | retry => exact h.fireRetry htimer hcallback

/-- **What was sent shows the buttons that are wanted, after every entry**, however it ends. -/
theorem runEntry (h : s.Tracked) {entry : Entry} (henabled : s.Enabled entry) :
    Ends Tracked Tracked (s.runEntry t entry) := by
  cases entry with
  | connect => exact h.connect
  | disconnect => exact h.disconnect
  | setActive active => exact h.setActive active
  | setButton button pressed => exact h.setButton button pressed
  | syncButtons buttons => exact h.syncButtons buttons
  | timer timer => exact h.fire henabled
  | callback g c =>
    cases c with
    | opened => exact h.handleOpen g
    | message data => exact h.handleMessage g data
    | close =>
      refine Tracked.handleClose ?_ g
      exact ⟨⟨h.wired.current, h.wired.sent_le, h.wired.status, h.wired.enabled, h.wired.retry,
        h.wired.lost⟩, h.shown, h.connected, h.connecting⟩
    | error => exact h.handleTransportFailure g

end Tracked

/-- **Every reachable session is tracked.** -/
theorem tracked_of_reachable (h : Transition.Reachable system s) : s.Tracked := by
  refine h.invariant ?_ ?_
  · rintro s ⟨options, initialSequence, rfl⟩
    exact (adrift_new options initialSequence).tracked
  · rintro s ⟨entry, t⟩ s' hs ⟨henabled, rfl⟩
    exact (hs.runEntry henabled).left

end ControllerSession

end Pockiva
