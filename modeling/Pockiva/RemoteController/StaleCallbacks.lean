import Pockiva.RemoteController.Settled

/-! # Callbacks of sockets the session has let go of

The handlers of a socket compare the generation they were given with the session's.  Only
`connect` and `disconnect` begin a new generation: a socket that was abandoned otherwise
still has the current one, and its late messages are taken for the session's.
-/
namespace Pockiva
namespace ControllerSession

open Throwing Transition
open Network (ClientMessage ServerMessage RejectionReason Sequence)

/-- What a late callback may be if it is to change nothing: no welcome, and a message that
ends the session only if the session shows that end already. -/
def Harmless (s : ControllerSession) : Callback → Prop
  | .message (some (.welcome _ _)) => False
  | .message none => s.snapshot.status = .incompatibleProtocol
  | .message (some (.rejected reason)) => s.snapshot.status = rejectionStatuses reason
  | _ => True

/-- The entries whose last act is to close the connection. -/
def EndsByClosing : Entry → Prop
  | .callback _ (.message none) => True
  | .callback _ (.message (some (.rejected _))) => True
  | _ => False

/-- No exception of `close` cuts the entry short, and if it is a late callback of the current
generation, it is harmless. -/
structure Guarded (s : ControllerSession) (entry : Entry) (t : TransportAnswers) : Prop where
  closes : t.closes = true ∨ EndsByClosing entry
  late : ∀ g c, entry = .callback g c → s.connection ≠ some g → g = s.generation → s.Harmless c

/-- A session whose steps are all guarded. -/
def guardedSystem : System ControllerSession (Entry × TransportAnswers) where
  start := system.start
  step s label s' := s.Guarded label.1 label.2 ∧ system.step s label s'

variable {s : ControllerSession} {t : TransportAnswers}

theorem rejectionStatuses_ne (reason : RejectionReason) :
    rejectionStatuses reason ≠ .connecting ∧ rejectionStatuses reason ≠ .connected := by
  cases reason <;> exact ⟨by decide, by decide⟩

namespace Settled

/-- The hello is sent on the current connection or not at all. -/
theorem handleOpen (h : s.Settled) (ht : t.closes = true) (g : Nat) :
    Ends (fun _ => False) Settled (s.handleOpen t g) := by
  unfold ControllerSession.handleOpen
  split
  · exact h
  · exact (h.sendClient ht _).bind fun r hr => hr

/-- A welcome on the connection. -/
theorem welcomed (h : s.Settled) (hheld : s.connection ≠ none) (controllerId : String) :
    (s.welcomed controllerId).Settled where
  known := ⟨h.known.opened, h.known.requested, h.known.ended, h.known.retry⟩
  pressed := rfl
  live g hg := ⟨(h.live g hg).current, (h.live g hg).opened, (h.live g hg).requested,
    (h.live g hg).ended⟩
  enabled := ⟨fun _ => .inr rfl, fun _ => (h.held hheld).1⟩
  connected _ := hheld
  attempt hstatus := by cases hstatus
  controller hstatus := absurd rfl hstatus
  held _ := ⟨(h.held hheld).1, rfl, (h.held hheld).2.2⟩
  quiet hlost := absurd hlost hheld
  idle hidle := absurd ((h.held hheld).1.symm.trans hidle) Bool.true_eq_false.mp
  retrying hlost := absurd hlost hheld
  paused hlost := absurd hlost hheld

/-- A message of the connection, or a late one that is no welcome. -/
theorem handleMessage (h : s.Settled) (g : Nat) (data : Option ServerMessage)
    (hguarded : s.Guarded (.callback g (.message data)) t) :
    Ends Settled Settled (s.handleMessage t g data) := by
  unfold ControllerSession.handleMessage
  split
  · exact h
  · rename_i hcurrent
    rw [not_not] at hcurrent
    match data, hguarded with
    | none, _ => exact h.failTerminal (by decide) (by decide) _ _
    | some (.welcome version controllerId), hguarded =>
      have ht : t.closes = true := hguarded.closes.resolve_right id
      have hheld : s.connection ≠ none := by
        intro hlost
        refine hguarded.late g _ rfl ?_ hcurrent
        rw [hlost]
        exact (Option.some_ne_none g).symm
      refine (((h.welcomed hheld controllerId).sendStateSync ht).bind ?_).mono
        (fun _ hfalse => hfalse.elim) fun _ hs' => hs'
      rintro ⟨sent, s'⟩ hs'
      cases sent with
      | false => exact hs'
      | true => exact hs'.scheduleNextPing
    | some (.rejected reason), _ =>
      exact h.failTerminal (rejectionStatuses_ne reason).1 (rejectionStatuses_ne reason).2 _ _
    | some (.pong sequence), _ => exact h.handlePong sequence
    | some .controllerDisconnected, hguarded =>
      exact (h.closeForRecovery (hguarded.closes.resolve_right id) _ _ g).mono
        (fun _ hfalse => hfalse.elim) fun _ hs' => hs'

/-- Without a connection a close changes nothing. -/
theorem handleClose_lost (h : s.Settled) (hlost : s.connection = none) (g : Nat) :
    s.handleClose g = s := by
  unfold ControllerSession.handleClose
  split
  · rfl
  · rw [withoutConnection hlost, (h.isQuiet hlost).cancelHeartbeat, h.scheduleRetry_eq hlost]

/-- The connection is the only socket of the current generation. -/
theorem lost_of_late (h : s.Settled) {g : Nat} (hlate : s.connection ≠ some g)
    (hcurrent : g = s.generation) : s.connection = none := by
  by_contra hheld
  obtain ⟨g', hg'⟩ := Option.ne_none_iff_exists'.mp hheld
  rw [(h.live g' hg').current, ← hcurrent] at hg'
  exact hlate hg'

/-- A socket the session has let go of tells that it is closed. -/
theorem ended (h : s.Settled) {g : Nat} (hopened : g ∈ s.opened) (hlate : s.connection ≠ some g) :
    Settled { s with ended := s.ended ++ [g] } := by
  refine ⟨⟨h.known.opened, h.known.requested, ?_, h.known.retry⟩, h.pressed, ?_, h.enabled,
    h.connected, h.attempt, h.controller, h.held, h.quiet, h.idle, h.retrying, h.paused⟩
  · intro g' hg'
    rcases List.mem_append.mp hg' with hold | hnew
    · exact h.known.ended g' hold
    · rw [List.mem_singleton.mp hnew]
      exact h.known.opened g hopened
  · intro g' hg'
    refine ⟨(h.live g' hg').current, (h.live g' hg').opened, (h.live g' hg').requested, ?_⟩
    intro hended
    rcases List.mem_append.mp hended with hold | hnew
    · exact (h.live g' hg').ended hold
    · rw [List.mem_singleton.mp hnew] at hg'
      exact hlate hg'

/-- A late close changes nothing. -/
theorem handleClose_late (h : s.Settled) {g : Nat} (hopened : g ∈ s.opened)
    (hlate : s.connection ≠ some g) :
    ControllerSession.handleClose { s with ended := s.ended ++ [g] } g =
      { s with ended := s.ended ++ [g] } := by
  by_cases hcurrent : g = s.generation
  · exact (h.ended hopened hlate).handleClose_lost (h.lost_of_late hlate hcurrent) g
  · unfold ControllerSession.handleClose
    rw [if_pos hcurrent]

theorem handleClose (h : s.Settled) {g : Nat} (hopened : g ∈ s.opened) :
    (ControllerSession.handleClose { s with ended := s.ended ++ [g] } g).Settled := by
  by_cases hlate : s.connection = some g
  · have hcurrent := (h.live g hlate).current
    unfold ControllerSession.handleClose
    rw [if_neg (not_not.mpr hcurrent), hcurrent]
    refine Detached.scheduleRetry (Detached.cancelHeartbeat ?_)
    have hheld : s.connection ≠ none := by
      rw [hlate]
      exact Option.some_ne_none g
    refine ⟨⟨h.known.opened, h.known.requested, ?_, h.known.retry⟩, h.pressed, rfl,
      (h.held hheld).1, (h.held hheld).2.2, fun _ => (h.held hheld).2.1⟩
    intro g' hg'
    rcases List.mem_append.mp hg' with hold | hnew
    · exact h.known.ended g' hold
    · exact Nat.le_of_eq (List.mem_singleton.mp hnew)
  · rw [h.handleClose_late hopened hlate]
    exact h.ended hopened hlate

/-- The heartbeat timers may go at any time. -/
theorem withoutPing (h : s.Settled) : Settled { s with nextPingTimer := none } :=
  ⟨⟨h.known.opened, h.known.requested, h.known.ended, h.known.retry⟩, h.pressed,
    fun g hg => ⟨(h.live g hg).current, (h.live g hg).opened, (h.live g hg).requested,
      (h.live g hg).ended⟩,
    h.enabled, h.connected, h.attempt, h.controller, h.held, fun hlost => ⟨rfl, (h.quiet hlost).2⟩,
    h.idle, h.retrying, h.paused⟩

theorem withoutPongDeadline (h : s.Settled) : Settled { s with pongDeadlineTimer := none } :=
  ⟨⟨h.known.opened, h.known.requested, h.known.ended, h.known.retry⟩, h.pressed,
    fun g hg => ⟨(h.live g hg).current, (h.live g hg).opened, (h.live g hg).requested,
      (h.live g hg).ended⟩,
    h.enabled, h.connected, h.attempt, h.controller, h.held,
    fun hlost => ⟨(h.quiet hlost).1, rfl, (h.quiet hlost).2.2⟩, h.idle, h.retrying, h.paused⟩

theorem withoutPong (h : s.Settled) : Settled { s with awaitedPong := none } :=
  ⟨⟨h.known.opened, h.known.requested, h.known.ended, h.known.retry⟩, h.pressed,
    fun g hg => ⟨(h.live g hg).current, (h.live g hg).opened, (h.live g hg).requested,
      (h.live g hg).ended⟩,
    h.enabled, h.connected, h.attempt, h.controller, h.held,
    fun hlost => ⟨(h.quiet hlost).1, (h.quiet hlost).2.1, rfl⟩, h.idle, h.retrying, h.paused⟩

theorem withTimers (h : s.Settled) {timers : List ScheduledTimer}
    (hretry : ∀ timer ∈ timers, timer.callback = .retry → s.retryTimer = some timer.id) :
    Settled { s with timers := timers } :=
  ⟨⟨h.known.opened, h.known.requested, h.known.ended, hretry⟩, h.pressed,
    fun g hg => ⟨(h.live g hg).current, (h.live g hg).opened, (h.live g hg).requested,
      (h.live g hg).ended⟩,
    h.enabled, h.connected, h.attempt, h.controller, h.held, h.quiet, h.idle, h.retrying, h.paused⟩

theorem firePing (h : s.Settled) (ht : t.closes = true) :
    Ends (fun _ => False) Settled (s.firePing t) := by
  unfold ControllerSession.firePing
  dsimp only
  split
  · exact h.withoutPing
  · rename_i hconnected
    rw [not_not] at hconnected
    refine Ends.bind (Settled.sendClient ?_ ht _) fun r hr => hr
    refine h.takeSequence.heartbeat (h.connected hconnected) ?_ _ _ _ _
    intro timer htimer hretry
    rcases List.mem_append.mp htimer with hold | hnew
    · exact h.known.retry timer hold hretry
    · rw [List.mem_singleton.mp hnew] at hretry
      cases hretry

theorem firePongDeadline (h : s.Settled) (ht : t.closes = true) (sequence : Sequence) :
    Ends (fun _ => False) Settled (s.firePongDeadline t sequence) := by
  unfold ControllerSession.firePongDeadline
  dsimp only
  split
  · exact h.withoutPongDeadline.withoutPong.closeForRecovery ht _ _ _
  · exact h.withoutPongDeadline

/-- The retry timer starts a connection. -/
theorem fireRetry (h : s.Settled) {timer : ScheduledTimer} (htimer : timer ∈ s.timers)
    (hretry : timer.callback = .retry) :
    (ControllerSession.fireRetry t
      { s with timers := clearTimeout s.timers (some timer.id) }).Settled := by
  have hset := h.known.retry timer htimer hretry
  have hne : s.retryTimer ≠ none := by
    rw [hset]
    exact Option.some_ne_none _
  have hlost : s.connection = none := by
    by_contra hheld
    exact hne (h.held hheld).2.2
  have henabled : s.reconnectEnabled = true := by
    by_contra hidle
    exact hne (h.idle (eq_false_of_ne_true hidle)).2
  unfold ControllerSession.fireRetry
  dsimp only
  rw [if_pos henabled]
  refine Detached.startConnection ⟨⟨h.known.opened, h.known.requested, h.known.ended, ?_⟩,
    h.pressed, hlost, henabled, rfl, fun hactive => (h.retrying hlost henabled hactive).1⟩
  intro other hother hretry'
  obtain ⟨hmem, hdiff⟩ := List.mem_filter.mp hother
  exact absurd (hset.symm.trans (h.known.retry other hmem hretry')) (of_decide_eq_true hdiff)

theorem fire (h : s.Settled) (ht : t.closes = true) {timer : ScheduledTimer}
    (htimer : timer ∈ s.timers) : Ends (fun _ => False) Settled (s.fire t timer) := by
  have hcleared : Settled { s with timers := clearTimeout s.timers (some timer.id) } :=
    h.withTimers fun other hother => h.known.retry other (List.mem_of_mem_filter hother)
  unfold ControllerSession.fire
  dsimp only
  cases hcallback : timer.callback with
  | nextPing => exact hcleared.firePing ht
  | pongDeadline sequence => exact hcleared.firePongDeadline ht sequence
  | retry => exact h.fireRetry htimer hcallback

theorem runEntry (h : s.Settled) {entry : Entry} (hguarded : s.Guarded entry t)
    (henabled : s.Enabled entry) : Ends Settled Settled (s.runEntry t entry) := by
  have hreturns : ∀ {r : Method ControllerSession}, Ends (fun _ => False) Settled r →
      Ends Settled Settled r :=
    fun hr => hr.mono (fun _ hfalse => hfalse.elim) fun _ hs' => hs'
  cases entry with
  | connect => exact h.connect
  | disconnect => exact hreturns (h.disconnect (hguarded.closes.resolve_right id))
  | setActive active => exact h.setActive active
  | setButton button pressed =>
    exact hreturns (h.setButton (hguarded.closes.resolve_right id) button pressed)
  | syncButtons buttons =>
    exact hreturns (h.syncButtons (hguarded.closes.resolve_right id) buttons)
  | timer timer => exact hreturns (h.fire (hguarded.closes.resolve_right id) henabled)
  | callback g c =>
    cases c with
    | opened => exact hreturns (h.handleOpen (hguarded.closes.resolve_right id) g)
    | message data => exact h.handleMessage g data hguarded
    | close => exact h.handleClose henabled
    | error => exact hreturns (h.handleTransportFailure (hguarded.closes.resolve_right id) g)

end Settled

/-- **Every state of a guarded run is settled.** -/
theorem settled_of_reachable (h : Reachable guardedSystem s) : s.Settled := by
  refine h.invariant ?_ ?_
  · rintro s ⟨options, initialSequence, rfl⟩
    exact settled_new options initialSequence
  · rintro s ⟨entry, t⟩ s' hs ⟨hguarded, henabled, rfl⟩
    exact (hs.runEntry hguarded henabled).left

/-- The published snapshot, the sequence counter and the retry state are the same. -/
structure Unaffected (s s' : ControllerSession) : Prop where
  snapshot : s'.snapshot = s.snapshot
  nextSequence : s'.nextSequence = s.nextSequence
  retryIndex : s'.retryIndex = s.retryIndex
  retryTimer : s'.retryTimer = s.retryTimer
  recoveryPending : s'.recoveryPending = s.recoveryPending
  reconnectEnabled : s'.reconnectEnabled = s.reconnectEnabled

theorem unaffected_refl (s : ControllerSession) : Unaffected s s := ⟨rfl, rfl, rfl, rfl, rfl, rfl⟩

theorem sequenceAfter_ne (sequence : Sequence) : sequenceAfter sequence ≠ sequence := by
  intro heq
  have hvalue := congrArg Sequence.value heq
  unfold sequenceAfter at hvalue
  split at hvalue
  · rename_i hmax
    rw [hmax] at hvalue
    exact absurd hvalue (by decide)
  · exact absurd hvalue (Nat.succ_ne_self _)

theorem sendClient_lost (hlost : s.connection = none) (message : ClientMessage) :
    s.sendClient t message = .ok (false, s) := by
  unfold sendClient
  rw [hlost]

theorem closeConnection_lost (hlost : s.connection = none) (code : Nat) (reason : String) :
    closeConnection t { s with connection := none } s.connection code reason = .ok s := by
  rw [hlost, Settled.withoutConnection hlost]
  rfl

namespace Settled

/-- A late error, and a late `controller-disconnected`, find nothing to recover. -/
theorem handleTransportFailure_lost (h : s.Settled) (hlost : s.connection = none) (g : Nat) :
    s.handleTransportFailure t g = .ok s := by
  unfold ControllerSession.handleTransportFailure
  split
  · rfl
  · rw [closeConnection_lost hlost]
    exact congrArg Except.ok (h.scheduleRetry_eq hlost g)

theorem closeForRecovery_lost (h : s.Settled) (hlost : s.connection = none) (code : Nat)
    (reason : String) (g : Nat) : s.closeForRecovery t code reason g = .ok s := by
  unfold ControllerSession.closeForRecovery
  split
  · rfl
  · rw [closeConnection_lost hlost]
    exact congrArg Except.ok (h.scheduleRetry_eq hlost g)

/-- A session that shows its end does not end again. -/
theorem failTerminal_shown (h : s.Settled) (hlost : s.connection = none) {status : SessionStatus}
    (hconnecting : status ≠ .connecting) (hconnected : status ≠ .connected)
    (hshown : s.snapshot.status = status) (code : Nat) (reason : String) :
    Unaffected s (left (s.failTerminal t status code reason)) := by
  have hidle : s.reconnectEnabled = false := by
    by_contra henabled
    rcases h.enabled.mp (eq_true_of_ne_false henabled) with hstatus | hstatus
    · exact hconnecting (hshown.symm.trans hstatus)
    · exact hconnected (hshown.symm.trans hstatus)
  have hcontroller : s.snapshot.controllerId = none := by
    refine h.controller ?_
    rw [hshown]
    exact hconnected
  unfold ControllerSession.failTerminal
  rw [hlost]
  refine ⟨?_, rfl, rfl, (h.idle hidle).2.symm, (h.idle hidle).1.symm, hidle.symm⟩
  show (⟨status, none, s.desiredButtons, s.snapshot.reconnectAttempt⟩ : SessionSnapshot) = _
  rw [← hcontroller, ← hshown, ← h.pressed]

theorem failTerminal_unaffected_iff (h : s.Settled) (hlost : s.connection = none)
    {status : SessionStatus} (hconnecting : status ≠ .connecting) (hconnected : status ≠ .connected)
    (code : Nat) (reason : String) :
    Unaffected s (left (s.failTerminal t status code reason)) ↔ s.snapshot.status = status := by
  constructor
  · intro hsame
    have hstatus := congrArg SessionSnapshot.status hsame.snapshot
    unfold ControllerSession.failTerminal at hstatus
    rw [hlost] at hstatus
    exact hstatus.symm
  · exact fun hshown => h.failTerminal_shown hlost hconnecting hconnected hshown code reason

/-- A late welcome takes a sequence number. -/
theorem welcome_lost (hlost : s.connection = none) {g : Nat} (hcurrent : g = s.generation)
    (version : Network.ProtocolVersion) (controllerId : String) :
    s.handleMessage t g (some (.welcome version controllerId)) =
      .ok (s.welcomed controllerId).takeSequence := by
  unfold ControllerSession.handleMessage
  rw [if_neg (not_not.mpr hcurrent)]
  have hlost' : (s.welcomed controllerId).takeSequence.connection = none := hlost
  have hsent : (s.welcomed controllerId).sendStateSync t =
      .ok (false, (s.welcomed controllerId).takeSequence) := sendClient_lost hlost' _
  show ((s.welcomed controllerId).sendStateSync t >>= _) = _
  rw [hsent]
  rfl

/-- What a late message of the current generation does. -/
theorem message_unaffected_iff (h : s.Settled) (hlost : s.connection = none) {g : Nat}
    (hcurrent : g = s.generation) (data : Option ServerMessage) :
    Unaffected s (left (s.handleMessage t g data)) ↔ s.Harmless (.message data) := by
  match data with
  | some (.welcome version controllerId) =>
    rw [welcome_lost hlost hcurrent]
    exact iff_of_false (fun hsame => sequenceAfter_ne _ hsame.nextSequence) id
  | none =>
    unfold ControllerSession.handleMessage
    rw [if_neg (not_not.mpr hcurrent)]
    exact h.failTerminal_unaffected_iff hlost (by decide) (by decide) _ _
  | some (.rejected reason) =>
    unfold ControllerSession.handleMessage
    rw [if_neg (not_not.mpr hcurrent)]
    exact h.failTerminal_unaffected_iff hlost (rejectionStatuses_ne reason).1
      (rejectionStatuses_ne reason).2 _ _
  | some (.pong sequence) =>
    refine iff_of_true ?_ trivial
    have hstatus : s.snapshot.status ≠ .connected := fun hconnected => h.connected hconnected hlost
    unfold ControllerSession.handleMessage ControllerSession.handlePong
    rw [if_neg (not_not.mpr hcurrent)]
    dsimp only
    rw [if_pos (.inl hstatus)]
    exact unaffected_refl s
  | some .controllerDisconnected =>
    refine iff_of_true ?_ trivial
    unfold ControllerSession.handleMessage
    rw [if_neg (not_not.mpr hcurrent)]
    dsimp only
    rw [h.closeForRecovery_lost hlost]
    exact unaffected_refl s

/-- A socket of an earlier generation affects nothing. -/
theorem earlier_unaffected {g : Nat} (hearlier : g ≠ s.generation) (c : Callback) :
    Unaffected s (left (s.runCallback t g c)) := by
  cases c with
  | opened =>
    unfold runCallback ControllerSession.handleOpen
    dsimp only
    rw [if_pos hearlier]
    exact unaffected_refl s
  | message data =>
    unfold runCallback ControllerSession.handleMessage
    dsimp only
    rw [if_pos hearlier]
    exact unaffected_refl s
  | close =>
    unfold runCallback ControllerSession.handleClose
    dsimp only
    rw [if_pos hearlier]
    exact ⟨rfl, rfl, rfl, rfl, rfl, rfl⟩
  | error =>
    unfold runCallback ControllerSession.handleTransportFailure
    dsimp only
    rw [if_pos (.inl hearlier)]
    exact unaffected_refl s

/-- **A late callback affects the session exactly if it has the current generation and is not
harmless.** -/
theorem late_unaffected_iff (h : s.Settled) {g : Nat} (hopened : g ∈ s.opened)
    (hlate : s.connection ≠ some g) (c : Callback) :
    Unaffected s (left (s.runCallback t g c)) ↔ (g = s.generation → s.Harmless c) := by
  by_cases hcurrent : g = s.generation
  · have hlost := h.lost_of_late hlate hcurrent
    rw [forall_prop_of_true hcurrent]
    cases c with
    | opened =>
      refine iff_of_true ?_ trivial
      unfold runCallback ControllerSession.handleOpen
      dsimp only
      rw [if_neg (not_not.mpr hcurrent), sendClient_lost hlost]
      exact unaffected_refl s
    | message data => exact h.message_unaffected_iff hlost hcurrent data
    | close =>
      refine iff_of_true ?_ trivial
      unfold runCallback
      dsimp only
      rw [h.handleClose_late hopened hlate]
      exact ⟨rfl, rfl, rfl, rfl, rfl, rfl⟩
    | error =>
      refine iff_of_true ?_ trivial
      unfold runCallback
      dsimp only
      rw [h.handleTransportFailure_lost hlost]
      exact unaffected_refl s
  · exact iff_of_true (earlier_unaffected hcurrent c) fun heq => absurd heq hcurrent

end Settled

/-- **In a guarded run a socket the session let go of affects nothing**, and a session that
shows `connected` has a live connection: in each state reached, a callback of such a socket
leaves the snapshot, the sequence counter and the retry state as they were exactly if it is
of an earlier generation or harmless. -/
theorem stale_callbacks (h : Reachable guardedSystem s) :
    (s.snapshot.status = .connected → ∃ g, s.connection = some g ∧ s.Live g) ∧
    ∀ g ∈ s.opened, s.connection ≠ some g → ∀ c t,
      Unaffected s (left (s.runCallback t g c)) ↔ (g = s.generation → s.Harmless c) := by
  have hs := settled_of_reachable h
  refine ⟨?_, fun g hopened hlate c t => hs.late_unaffected_iff hopened hlate c⟩
  intro hconnected
  obtain ⟨g, hg⟩ := Option.ne_none_iff_exists'.mp (hs.connected hconnected)
  exact ⟨g, hg, hs.live g hg⟩

/-- A guarded run is a run. -/
theorem reachable_of_guarded (h : Reachable guardedSystem s) : Reachable system s := by
  induction h with
  | start h => exact .start h
  | step _ hstep ih => exact ih.step hstep.2

/-- A transport that does what it is asked. -/
def obliging : TransportAnswers := ⟨true, true, true⟩

theorem reachable_connect (h : Reachable guardedSystem s) :
    Reachable guardedSystem (s.connect obliging) :=
  h.step (i := (.connect, obliging)) ⟨⟨.inl rfl, nofun⟩, trivial, rfl⟩

/-- A callback of the connection continues a guarded run. -/
theorem reachable_callback (h : Reachable guardedSystem s) {g : Nat}
    (hcurrent : s.connection = some g) (c : Callback) :
    Reachable guardedSystem (left (s.runCallback obliging g c)) := by
  refine h.step (i := (.callback g c, obliging)) ⟨⟨.inl rfl, ?_⟩, ?_, rfl⟩
  · rintro _ _ ⟨rfl, rfl⟩ hlate
    exact absurd hcurrent hlate
  · exact ((settled_of_reachable h).live g hcurrent).opened

/-- The session after some entries. -/
def after (s : ControllerSession) (entries : List Entry) : ControllerSession :=
  entries.foldl (fun s entry => left (s.runEntry obliging entry)) s

/-- Each of the entries can take place when its turn comes. -/
def AllEnabled : ControllerSession → List Entry → Prop
  | _, [] => True
  | s, entry :: entries => s.Enabled entry ∧ AllEnabled (left (s.runEntry obliging entry)) entries

instance (s : ControllerSession) (entry : Entry) : Decidable (s.Enabled entry) :=
  match entry with
  | .timer timer => inferInstanceAs (Decidable (timer ∈ s.timers))
  | .callback g _ => inferInstanceAs (Decidable (g ∈ s.opened))
  | .connect | .disconnect | .setActive _ | .setButton _ _ | .syncButtons _ => .isTrue trivial

instance decidableAllEnabled :
    (s : ControllerSession) → (entries : List Entry) → Decidable (AllEnabled s entries)
  | _, [] => .isTrue trivial
  | s, entry :: entries =>
    have := decidableAllEnabled (left (s.runEntry obliging entry)) entries
    inferInstanceAs (Decidable (_ ∧ _))

theorem reachable_after (h : Reachable system s) {entries : List Entry}
    (henabled : AllEnabled s entries) : Reachable system (s.after entries) := by
  induction entries generalizing s with
  | nil => exact h
  | cons entry entries ih =>
    exact ih (h.step (i := (entry, obliging)) ⟨henabled.1, rfl⟩) henabled.2

/-- The welcome of the desktop. -/
def welcome : Callback := .message (some (.welcome .v1 "controller-1"))

/-- A session that connects. -/
def connecting : ControllerSession :=
  (new ⟨"token", 5000, 12000, [0, 500]⟩ ⟨0, Nat.zero_le _⟩).connect obliging

/-- The session once its first socket is welcome. -/
def welcomeHeard : ControllerSession := left (connecting.runCallback obliging 1 welcome)

/-- The session once the desktop has sent `controller-disconnected`. -/
def recovering : ControllerSession :=
  left (welcomeHeard.runCallback obliging 1 (.message (some .controllerDisconnected)))

theorem connecting_held : connecting.connection = some 1 := rfl

theorem welcomeHeard_held : welcomeHeard.connection = some 1 := rfl

theorem welcomeHeard_reachable : Reachable guardedSystem welcomeHeard := by
  have hconnecting : Reachable guardedSystem connecting := reachable_connect (.start ⟨_, _, rfl⟩)
  exact reachable_callback hconnecting connecting_held welcome

theorem recovering_reachable : Reachable guardedSystem recovering :=
  reachable_callback welcomeHeard_reachable welcomeHeard_held
    (.message (some .controllerDisconnected))

theorem recovering_lost : recovering.connection = none := rfl

theorem recovering_late : recovering.connection ≠ some 1 := by
  rw [recovering_lost]
  exact (Option.some_ne_none 1).symm

/-- A second welcome of a socket the session has closed: the session shows `connected`, has
no connection and has taken a sequence number. -/
theorem late_welcome :
    Reachable system recovering ∧ 1 ∈ recovering.opened ∧ recovering.connection ≠ some 1 ∧
      ¬ Unaffected recovering (left (recovering.runCallback obliging 1 welcome)) ∧
      (left (recovering.runCallback obliging 1 welcome)).snapshot.status = .connected ∧
      (left (recovering.runCallback obliging 1 welcome)).connection = none := by
  refine ⟨reachable_of_guarded recovering_reachable, List.mem_singleton_self 1, recovering_late,
    ?_, rfl, rfl⟩
  intro hsame
  have hstatus := congrArg SessionSnapshot.status hsame.snapshot
  cases hstatus

/-- A session that recovers, and the late callbacks of its first socket. -/
theorem stale_callbacks_recovering :
    1 ∈ recovering.opened ∧ recovering.connection ≠ some 1 ∧ ∀ c t,
      Unaffected recovering (left (recovering.runCallback t 1 c)) ↔
        (1 = recovering.generation → recovering.Harmless c) :=
  ⟨List.mem_singleton_self 1, recovering_late,
    (stale_callbacks recovering_reachable).2 1 (List.mem_singleton_self 1) recovering_late⟩

end ControllerSession

end Pockiva
