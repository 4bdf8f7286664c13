import Pockiva.RemoteController.Session

/-! # What holds of a session between its steps

As long as no exception of `close` cuts a method short, a session that wants a connection
and has none is about to try again or waits to become active, and a session that wants
none is at rest (`Settled`).
-/
namespace Pockiva
namespace ControllerSession

open Throwing
open Network (ClientMessage ServerMessage RejectionReason Sequence)

/-- Sockets and timers of the session are accounted for. -/
structure Known (s : ControllerSession) : Prop where
  opened : ∀ g ∈ s.opened, g ≤ s.generation
  requested : ∀ r ∈ s.closeRequests, r.socket ≤ s.generation
  ended : ∀ g ∈ s.ended, g ≤ s.generation
  /-- The retry timer is the only timer that starts a connection. -/
  retry : ∀ timer ∈ s.timers, timer.callback = .retry → s.retryTimer = some timer.id

/-- The connection is the current socket, which is open. -/
structure Live (s : ControllerSession) (g : Nat) : Prop where
  current : g = s.generation
  opened : g ∈ s.opened
  requested : ∀ r ∈ s.closeRequests, r.socket ≠ g
  ended : g ∉ s.ended

/-- The session wants a connection, has none and has not yet seen to it. -/
structure Detached (s : ControllerSession) : Prop where
  known : s.Known
  pressed : s.snapshot.pressedButtons = s.desiredButtons
  connection : s.connection = none
  enabled : s.reconnectEnabled = true
  retryTimer : s.retryTimer = none
  pending : s.active = true → s.recoveryPending = false

/-- The session between two steps. -/
structure Settled (s : ControllerSession) : Prop where
  known : s.Known
  pressed : s.snapshot.pressedButtons = s.desiredButtons
  live : ∀ g, s.connection = some g → s.Live g
  enabled : s.reconnectEnabled = true ↔
    s.snapshot.status = .connecting ∨ s.snapshot.status = .connected
  connected : s.snapshot.status = .connected → s.connection ≠ none
  attempt : s.snapshot.status = .connecting → s.snapshot.reconnectAttempt = s.retryIndex
  controller : s.snapshot.status ≠ .connected → s.snapshot.controllerId = none
  held : s.connection ≠ none →
    s.reconnectEnabled = true ∧ s.recoveryPending = false ∧ s.retryTimer = none
  quiet : s.connection = none →
    s.nextPingTimer = none ∧ s.pongDeadlineTimer = none ∧ s.awaitedPong = none
  idle : s.reconnectEnabled = false → s.recoveryPending = false ∧ s.retryTimer = none
  retrying : s.connection = none → s.reconnectEnabled = true → s.active = true →
    s.recoveryPending = false ∧ s.retryTimer ≠ none
  paused : s.connection = none → s.reconnectEnabled = true → s.active = false →
    s.recoveryPending = true ∧ s.retryTimer = none

theorem settled_new (options : ControllerSessionOptions) (initialSequence : Sequence) :
    Settled (new options initialSequence) where
  known := ⟨nofun, nofun, nofun, nofun⟩
  pressed := rfl
  live := nofun
  enabled := ⟨nofun, nofun⟩
  connected := nofun
  attempt := nofun
  controller := fun _ => rfl
  held := fun h => absurd rfl h
  quiet := fun _ => ⟨rfl, rfl, rfl⟩
  idle := fun _ => ⟨rfl, rfl⟩
  retrying := nofun
  paused := nofun

variable {s : ControllerSession} {t : TransportAnswers}

namespace Known

theorem cancelHeartbeat (h : s.Known) : s.cancelHeartbeat.Known :=
  ⟨h.opened, h.requested, h.ended, fun t ht =>
    h.retry t (List.mem_of_mem_filter (List.mem_of_mem_filter ht))⟩

/-- No timer is left that starts a connection. -/
theorem cancelRetry (h : s.Known) : s.cancelRetry.Known := by
  refine ⟨h.opened, h.requested, h.ended, ?_⟩
  intro timer htimer hretry
  obtain ⟨hmem, hother⟩ := List.mem_filter.mp htimer
  exact absurd (h.retry timer hmem hretry) (of_decide_eq_true hother)

end Known

/-- The heartbeat is off. -/
structure Quiet (s : ControllerSession) : Prop where
  nextPing : s.nextPingTimer = none
  pongDeadline : s.pongDeadlineTimer = none
  awaited : s.awaitedPong = none

theorem quiet_cancelHeartbeat (s : ControllerSession) : s.cancelHeartbeat.Quiet := ⟨rfl, rfl, rfl⟩

namespace Detached

theorem cancelHeartbeat (h : s.Detached) : s.cancelHeartbeat.Detached :=
  ⟨h.known.cancelHeartbeat, h.pressed, h.connection, h.enabled, h.retryTimer, h.pending⟩

theorem pauseRecovery (h : s.Detached) (hquiet : s.Quiet) (hactive : s.active = false) :
    s.pauseRecovery.Settled where
  known := ⟨h.known.opened, h.known.requested, h.known.ended, h.known.retry⟩
  pressed := rfl
  live g hg := absurd (h.connection.symm.trans hg) (Option.some_ne_none g).symm
  enabled := ⟨fun _ => .inl rfl, fun _ => h.enabled⟩
  connected hstatus := by cases hstatus
  attempt _ := rfl
  controller _ := rfl
  held hheld := absurd h.connection hheld
  quiet _ := ⟨hquiet.nextPing, hquiet.pongDeadline, hquiet.awaited⟩
  idle hidle := absurd (h.enabled.symm.trans hidle) Bool.true_eq_false.mp
  retrying _ _ hpaused := absurd (hactive.symm.trans hpaused) Bool.false_ne_true
  paused _ _ _ := ⟨rfl, h.retryTimer⟩

theorem giveUp (h : s.Detached) (hquiet : s.Quiet) (hactive : s.active = true) :
    s.giveUp.Settled where
  known := ⟨h.known.opened, h.known.requested, h.known.ended, h.known.retry⟩
  pressed := rfl
  live g hg := absurd (h.connection.symm.trans hg) (Option.some_ne_none g).symm
  enabled := by
    constructor
    · intro henabled
      cases henabled
    · rintro (hstatus | hstatus) <;> cases hstatus
  connected hstatus := by cases hstatus
  attempt hstatus := by cases hstatus
  controller _ := rfl
  held hheld := absurd h.connection hheld
  quiet _ := ⟨hquiet.nextPing, hquiet.pongDeadline, hquiet.awaited⟩
  idle _ := ⟨h.pending hactive, h.retryTimer⟩
  retrying _ henabled := by cases henabled
  paused _ henabled := by cases henabled

theorem retryAfter (h : s.Detached) (hquiet : s.Quiet) (hactive : s.active = true)
    (delayMs : Nat) : (s.retryAfter delayMs).Settled where
  known := by
    refine ⟨h.known.opened, h.known.requested, h.known.ended, ?_⟩
    intro timer htimer hretry
    rcases List.mem_append.mp htimer with hold | hnew
    · have hset := h.known.retry timer hold hretry
      rw [h.retryTimer] at hset
      cases hset
    · rw [List.mem_singleton.mp hnew]
      rfl
  pressed := rfl
  live g hg := absurd (h.connection.symm.trans hg) (Option.some_ne_none g).symm
  enabled := ⟨fun _ => .inl rfl, fun _ => h.enabled⟩
  connected hstatus := by cases hstatus
  attempt _ := rfl
  controller _ := rfl
  held hheld := absurd h.connection hheld
  quiet _ := ⟨hquiet.nextPing, hquiet.pongDeadline, hquiet.awaited⟩
  idle hidle := absurd (h.enabled.symm.trans hidle) Bool.true_eq_false.mp
  retrying _ _ _ := ⟨h.pending hactive, Option.some_ne_none _⟩
  paused _ _ hpaused := absurd (hactive.symm.trans hpaused) Bool.true_eq_false.mp

/-- **A session that lost its connection settles**: it tries again, waits or gives up. -/
theorem scheduleRetry (h : s.Detached) : (s.scheduleRetry s.generation).Settled := by
  have hquiet := quiet_cancelHeartbeat s
  unfold ControllerSession.scheduleRetry
  rw [if_neg (by simp [h.enabled, h.retryTimer])]
  split
  · rename_i hactive
    exact h.cancelHeartbeat.pauseRecovery hquiet hactive
  · rename_i hactive
    replace hactive : s.active = true := eq_true_of_ne_false hactive
    split
    · exact h.cancelHeartbeat.giveUp hquiet hactive
    · exact h.cancelHeartbeat.retryAfter hquiet hactive _

/-- A session that starts a connection settles. -/
theorem startConnection (h : s.Detached) : (s.startConnection t).Settled := by
  unfold ControllerSession.startConnection
  dsimp only
  split
  · rename_i hactive
    exact h.cancelHeartbeat.pauseRecovery (quiet_cancelHeartbeat s) hactive
  · rename_i hactive
    replace hactive : s.active = true := eq_true_of_ne_false hactive
    have hknown := h.known.cancelHeartbeat
    split
    · exact {
        known := by
          refine ⟨?_, fun r hr => Nat.le_succ_of_le (hknown.requested r hr),
            fun g hg => Nat.le_succ_of_le (hknown.ended g hg), hknown.retry⟩
          intro g hg
          rcases List.mem_append.mp hg with hold | hnew
          · exact Nat.le_succ_of_le (hknown.opened g hold)
          · exact Nat.le_of_eq (List.mem_singleton.mp hnew)
        pressed := rfl
        live := by
          rintro g ⟨rfl⟩
          refine ⟨rfl, List.mem_append_right _ (List.mem_singleton_self _), ?_, ?_⟩
          · intro r hr hsocket
            exact absurd (hknown.requested r hr) (hsocket ▸ Nat.not_succ_le_self _)
          · intro hended
            exact absurd (hknown.ended _ hended) (Nat.not_succ_le_self _)
        enabled := ⟨fun _ => .inl rfl, fun _ => h.enabled⟩
        connected := by
          intro _ hnone
          cases hnone
        attempt := fun _ => rfl
        controller := fun _ => rfl
        held := fun _ => ⟨h.enabled, h.pending hactive, h.retryTimer⟩
        quiet := by
          intro hnone
          cases hnone
        idle := fun hidle => absurd (h.enabled.symm.trans hidle) Bool.true_eq_false.mp
        retrying := by
          intro hnone
          cases hnone
        paused := by
          intro hnone
          cases hnone }
    · refine Detached.scheduleRetry ⟨?_, rfl, rfl, h.enabled, h.retryTimer, h.pending⟩
      exact ⟨fun g hg => Nat.le_succ_of_le (hknown.opened g hg),
        fun r hr => Nat.le_succ_of_le (hknown.requested r hr),
        fun g hg => Nat.le_succ_of_le (hknown.ended g hg), hknown.retry⟩

/-- Closing the connection that was lost. -/
theorem closeConnection (h : s.Detached) (ht : t.closes = true) {connection : Option Nat}
    (hold : ∀ g, connection = some g → g ≤ s.generation) (code : Nat) (reason : String) :
    Ends (fun _ => False) (fun s' => s'.Detached ∧ s'.generation = s.generation)
      (closeConnection t s connection code reason) := by
  cases connection with
  | none => exact ⟨h, rfl⟩
  | some g =>
    unfold ControllerSession.closeConnection
    dsimp only
    rw [if_pos ht]
    refine ⟨⟨⟨h.known.opened, ?_, h.known.ended, h.known.retry⟩, h.pressed, h.connection,
      h.enabled, h.retryTimer, h.pending⟩, rfl⟩
    intro r hr
    rcases List.mem_append.mp hr with hmem | hnew
    · exact h.known.requested r hmem
    · rw [List.mem_singleton.mp hnew]
      exact hold g rfl

end Detached

namespace Settled

theorem connection_le (h : s.Settled) {g : Nat} (hg : s.connection = some g) :
    g ≤ s.generation := Nat.le_of_eq (h.live g hg).current

/-- A session that gives its connection up. -/
theorem detach (h : s.Settled) (hheld : s.connection ≠ none) :
    Detached { s with connection := none } where
  known := ⟨h.known.opened, h.known.requested, h.known.ended, h.known.retry⟩
  pressed := h.pressed
  connection := rfl
  enabled := (h.held hheld).1
  retryTimer := (h.held hheld).2.2
  pending _ := (h.held hheld).2.1

/-- A session without a connection has its heartbeat off. -/
theorem isQuiet (h : s.Settled) (hlost : s.connection = none) : s.Quiet :=
  ⟨(h.quiet hlost).1, (h.quiet hlost).2.1, (h.quiet hlost).2.2⟩

end Settled

theorem clearTimeout_none (timers : List ScheduledTimer) : clearTimeout timers none = timers := by
  unfold clearTimeout
  exact List.filter_eq_self.mpr fun _ _ => rfl

theorem Quiet.cancelHeartbeat (h : s.Quiet) : s.cancelHeartbeat = s := by
  obtain ⟨hping, hpong, hawaited⟩ := h
  unfold ControllerSession.cancelHeartbeat
  rw [hping, hpong, clearTimeout_none, clearTimeout_none]
  cases s
  cases hping
  cases hpong
  cases hawaited
  rfl

/-- A session that already shows that recovery waits. -/
theorem pauseRecovery_eq (hpending : s.recoveryPending = true)
    (hshown : s.snapshot = ⟨.connecting, none, s.desiredButtons, s.retryIndex⟩) :
    s.pauseRecovery = s := by
  unfold ControllerSession.pauseRecovery publishConnecting publish
  rw [← hshown]
  cases s
  cases hpending
  rfl

namespace Settled

/-- What a session shows while it connects. -/
theorem shown_connecting (h : s.Settled) (hstatus : s.snapshot.status = .connecting) :
    s.snapshot = ⟨.connecting, none, s.desiredButtons, s.retryIndex⟩ := by
  have hcontroller : s.snapshot.controllerId = none := by
    refine h.controller ?_
    rw [hstatus]
    exact nofun
  rw [← hcontroller, ← h.attempt hstatus, ← h.pressed, ← hstatus]

/-- **Without a connection there is nothing left to do** for a lost one. -/
theorem scheduleRetry_eq (h : s.Settled) (hlost : s.connection = none) (g : Nat) :
    s.scheduleRetry g = s := by
  unfold ControllerSession.scheduleRetry
  split
  · rfl
  · rename_i hgo
    rw [not_or, not_or, not_not, not_not] at hgo
    obtain ⟨-, henabled, hretry⟩ := hgo
    replace henabled : s.reconnectEnabled = true := eq_true_of_ne_false henabled
    split
    · rename_i hactive
      rw [(h.isQuiet hlost).cancelHeartbeat]
      refine pauseRecovery_eq (h.paused hlost henabled hactive).1 (h.shown_connecting ?_)
      rcases h.enabled.mp henabled with hstatus | hstatus
      · exact hstatus
      · exact absurd hlost (h.connected hstatus)
    · rename_i hactive
      exact absurd hretry (h.retrying hlost henabled (eq_true_of_ne_false hactive)).2

theorem withoutConnection (hlost : s.connection = none) : { s with connection := none } = s := by
  cases s
  cases hlost
  rfl

/-- **A session that closes its connection for recovery settles.** -/
theorem abandon (h : s.Settled) (ht : t.closes = true) (code : Nat) (reason : String) :
    Ends (fun _ => False) Settled
      (closeConnection t { s with connection := none } s.connection code reason >>=
        fun s' => .ok (s'.scheduleRetry s.generation)) := by
  by_cases hlost : s.connection = none
  · rw [hlost, withoutConnection hlost]
    show (s.scheduleRetry s.generation).Settled
    rw [h.scheduleRetry_eq hlost]
    exact h
  · refine ((h.detach hlost).closeConnection ht (fun g hg => h.connection_le hg)
      code reason).bind ?_
    rintro s' ⟨hdetached, hgeneration⟩
    replace hgeneration : s'.generation = s.generation := hgeneration
    show (s'.scheduleRetry s.generation).Settled
    rw [← hgeneration]
    exact hdetached.scheduleRetry

theorem handleTransportFailure (h : s.Settled) (ht : t.closes = true) (g : Nat) :
    Ends (fun _ => False) Settled (s.handleTransportFailure t g) := by
  unfold ControllerSession.handleTransportFailure
  split
  · exact h
  · rename_i hcurrent
    rw [not_or, not_not] at hcurrent
    rw [hcurrent.1]
    exact h.abandon ht _ _

theorem closeForRecovery (h : s.Settled) (ht : t.closes = true) (code : Nat) (reason : String)
    (g : Nat) : Ends (fun _ => False) Settled (s.closeForRecovery t code reason g) := by
  unfold ControllerSession.closeForRecovery
  split
  · exact h
  · rename_i hcurrent
    rw [not_or, not_not] at hcurrent
    rw [hcurrent.1]
    exact h.abandon ht _ _

/-- A session that has sent a message. -/
theorem sent (h : s.Settled) (sent : List SentMessage) : Settled { s with sent := sent } :=
  ⟨⟨h.known.opened, h.known.requested, h.known.ended, h.known.retry⟩, h.pressed,
    fun g hg => ⟨(h.live g hg).current, (h.live g hg).opened, (h.live g hg).requested,
      (h.live g hg).ended⟩,
    h.enabled, h.connected, h.attempt, h.controller, h.held, h.quiet, h.idle, h.retrying, h.paused⟩

theorem takeSequence (h : s.Settled) : s.takeSequence.Settled :=
  ⟨⟨h.known.opened, h.known.requested, h.known.ended, h.known.retry⟩, h.pressed,
    fun g hg => ⟨(h.live g hg).current, (h.live g hg).opened, (h.live g hg).requested,
      (h.live g hg).ended⟩,
    h.enabled, h.connected, h.attempt, h.controller, h.held, h.quiet, h.idle, h.retrying, h.paused⟩

/-- A session that shows other buttons. -/
theorem desire (h : s.Settled) (wanted : Finset Network.Button) :
    (s.desire wanted).Settled :=
  ⟨⟨h.known.opened, h.known.requested, h.known.ended, h.known.retry⟩, rfl,
    fun g hg => ⟨(h.live g hg).current, (h.live g hg).opened, (h.live g hg).requested,
      (h.live g hg).ended⟩,
    h.enabled, h.connected, h.attempt, h.controller, h.held, h.quiet, h.idle, h.retrying, h.paused⟩

/-- A session with a connection and another heartbeat. -/
theorem heartbeat (h : s.Settled) (hheld : s.connection ≠ none) {timers : List ScheduledTimer}
    (hretry : ∀ timer ∈ timers, timer.callback = .retry → s.retryTimer = some timer.id)
    (nextTimer : Nat) (nextPing pongDeadline : Option Nat) (awaited : Option Sequence) :
    Settled { s with
      timers := timers, nextTimer := nextTimer, nextPingTimer := nextPing,
      pongDeadlineTimer := pongDeadline, awaitedPong := awaited } :=
  ⟨⟨h.known.opened, h.known.requested, h.known.ended, hretry⟩, h.pressed,
    fun g hg => ⟨(h.live g hg).current, (h.live g hg).opened, (h.live g hg).requested,
      (h.live g hg).ended⟩,
    h.enabled, h.connected, h.attempt, h.controller, h.held, fun hlost => absurd hlost hheld,
    h.idle, h.retrying, h.paused⟩

theorem sendClient (h : s.Settled) (ht : t.closes = true) (message : ClientMessage) :
    Ends (fun _ => False) (fun r => r.2.Settled) (s.sendClient t message) := by
  unfold ControllerSession.sendClient
  split
  · exact h
  · split
    · exact h.sent _
    · exact (h.handleTransportFailure ht s.generation).bind fun s' hs' => hs'

theorem sendStateSync (h : s.Settled) (ht : t.closes = true) :
    Ends (fun _ => False) (fun r => r.2.Settled) (s.sendStateSync t) :=
  h.takeSequence.sendClient ht _

/-- The timers of a session do not matter while no retry is lost. -/
theorem scheduleNextPing (h : s.Settled) : s.scheduleNextPing.Settled := by
  unfold ControllerSession.scheduleNextPing
  split
  · exact h
  · rename_i hgo
    rw [not_or, not_not] at hgo
    refine h.heartbeat (h.connected hgo.2) ?_ _ _ _ _
    intro timer htimer hretry
    rcases List.mem_append.mp htimer with hold | hnew
    · exact h.known.retry timer (List.mem_of_mem_filter hold) hretry
    · rw [List.mem_singleton.mp hnew] at hretry
      cases hretry

theorem handlePong (h : s.Settled) (sequence : Sequence) : (s.handlePong sequence).Settled := by
  unfold ControllerSession.handlePong
  split
  · exact h
  · rename_i hgo
    rw [not_or, not_not] at hgo
    refine Settled.scheduleNextPing (h.heartbeat (h.connected hgo.1) ?_ _ _ _ _)
    exact fun timer htimer => h.known.retry timer (List.mem_of_mem_filter htimer)

/-- Closing the connection a settled session had. -/
theorem closeConnection (h : s.Settled) (hlost : s.connection = none) {connection : Option Nat}
    (hold : ∀ g, connection = some g → g ≤ s.generation) (code : Nat) (reason : String) :
    Ends Settled Settled (closeConnection t s connection code reason) := by
  unfold ControllerSession.closeConnection
  split
  · exact h
  · rename_i g
    split
    · refine ⟨⟨h.known.opened, ?_, h.known.ended, h.known.retry⟩, h.pressed, ?_, h.enabled,
        h.connected, h.attempt, h.controller, h.held, h.quiet, h.idle, h.retrying, h.paused⟩
      · intro r hr
        rcases List.mem_append.mp hr with hmem | hnew
        · exact h.known.requested r hmem
        · rw [List.mem_singleton.mp hnew]
          exact hold g rfl
      · intro g hg
        exact absurd (hlost.symm.trans hg) (Option.some_ne_none g).symm
    · exact h

end Settled

/-- A session that wants no connection and has none. -/
structure AtRest (s : ControllerSession) : Prop where
  known : s.Known
  pressed : s.snapshot.pressedButtons = s.desiredButtons
  connection : s.connection = none
  enabled : s.reconnectEnabled = false
  pending : s.recoveryPending = false
  retryTimer : s.retryTimer = none
  quiet : s.Quiet
  connecting : s.snapshot.status ≠ .connecting
  connected : s.snapshot.status ≠ .connected
  controller : s.snapshot.controllerId = none

theorem AtRest.settled (h : s.AtRest) : s.Settled where
  known := h.known
  pressed := h.pressed
  live g hg := absurd (h.connection.symm.trans hg) (Option.some_ne_none g).symm
  enabled := by
    constructor
    · intro henabled
      exact absurd (h.enabled.symm.trans henabled) Bool.false_ne_true
    · rintro (hstatus | hstatus)
      · exact absurd hstatus h.connecting
      · exact absurd hstatus h.connected
  connected hstatus := absurd hstatus h.connected
  attempt hstatus := absurd hstatus h.connecting
  controller _ := h.controller
  held hheld := absurd h.connection hheld
  quiet _ := ⟨h.quiet.nextPing, h.quiet.pongDeadline, h.quiet.awaited⟩
  idle _ := ⟨h.pending, h.retryTimer⟩
  retrying _ henabled := absurd (h.enabled.symm.trans henabled) Bool.false_ne_true
  paused _ henabled := absurd (h.enabled.symm.trans henabled) Bool.false_ne_true

namespace Settled

/-- **A session that fails for good settles**, whether its socket can be closed or not. -/
theorem failTerminal (h : s.Settled) {status : SessionStatus} (hconnecting : status ≠ .connecting)
    (hconnected : status ≠ .connected) (code : Nat) (reason : String) :
    Ends Settled Settled (s.failTerminal t status code reason) := by
  have hknown := h.known.cancelHeartbeat.cancelRetry
  have hrest : (s.failed status).AtRest :=
    ⟨⟨hknown.opened, hknown.requested, hknown.ended, hknown.retry⟩, rfl, rfl, rfl, rfl, rfl,
      ⟨rfl, rfl, rfl⟩, hconnecting, hconnected, rfl⟩
  exact hrest.settled.closeConnection rfl (fun g hg => h.connection_le hg) code reason

theorem connect (h : s.Settled) : (s.connect t).Settled := by
  unfold ControllerSession.connect
  split
  · exact h
  · rename_i hstopped
    have hidle : s.reconnectEnabled = false := by
      by_contra henabled
      exact hstopped (h.enabled.mp (eq_true_of_ne_false henabled))
    have hlost : s.connection = none := by
      by_contra hheld
      exact absurd ((h.held hheld).1.symm.trans hidle) Bool.true_eq_false.mp
    have hknown := h.known.cancelRetry
    exact Detached.startConnection
      ⟨⟨hknown.opened, hknown.requested, hknown.ended, hknown.retry⟩, h.pressed, hlost, rfl, rfl,
        fun _ => (h.idle hidle).1⟩

theorem deactivate (h : s.Settled) (hactive : s.active = true) : s.deactivate.Settled := by
  have hknown := h.known.cancelHeartbeat.cancelRetry
  have hpending : s.recoveryPending = false := by
    cases henabled : s.reconnectEnabled with
    | false => exact (h.idle henabled).1
    | true =>
      by_cases hlost : s.connection = none
      · exact (h.retrying hlost henabled hactive).1
      · exact (h.held hlost).2.1
  exact {
    known := ⟨hknown.opened, hknown.requested, hknown.ended, hknown.retry⟩
    pressed := h.pressed
    live := fun g hg => ⟨(h.live g hg).current, (h.live g hg).opened, (h.live g hg).requested,
      (h.live g hg).ended⟩
    enabled := h.enabled
    connected := h.connected
    attempt := h.attempt
    controller := h.controller
    held := by
      intro hheld
      refine ⟨(h.held hheld).1, decide_eq_false ?_, rfl⟩
      rintro (⟨-, hretry | hlost⟩ | hwaiting)
      · exact hretry (h.held hheld).2.2
      · exact hheld hlost
      · exact absurd (hpending.symm.trans hwaiting) Bool.false_ne_true
    quiet := fun _ => ⟨rfl, rfl, rfl⟩
    idle := by
      intro hidle
      refine ⟨decide_eq_false ?_, rfl⟩
      rintro (⟨henabled, -⟩ | hwaiting)
      · exact absurd (hidle.symm.trans henabled) Bool.false_ne_true
      · exact absurd (hpending.symm.trans hwaiting) Bool.false_ne_true
    retrying := by
      intro _ _ hfalse
      cases hfalse
    paused := fun hlost henabled _ => ⟨decide_eq_true (.inl ⟨henabled, .inr hlost⟩), rfl⟩ }

theorem activate (h : s.Settled) (hactive : s.active = false) : (s.activate t).Settled := by
  have hidle : s.reconnectEnabled = false ∨ s.connection ≠ none →
      Settled { s with active := true } := by
    intro hrest
    exact {
      known := ⟨h.known.opened, h.known.requested, h.known.ended, h.known.retry⟩
      pressed := h.pressed
      live := fun g hg => ⟨(h.live g hg).current, (h.live g hg).opened, (h.live g hg).requested,
        (h.live g hg).ended⟩
      enabled := h.enabled
      connected := h.connected
      attempt := h.attempt
      controller := h.controller
      held := h.held
      quiet := h.quiet
      idle := h.idle
      retrying := by
        intro hlost henabled _
        rcases hrest with hidle | hheld
        · exact absurd (hidle.symm.trans henabled) Bool.false_ne_true
        · exact absurd hlost hheld
      paused := by
        intro _ _ hfalse
        cases hfalse }
  unfold ControllerSession.activate
  dsimp only
  split
  · rename_i hdisabled
    exact hidle (.inl hdisabled)
  · rename_i henabled
    replace henabled : s.reconnectEnabled = true := eq_true_of_ne_false henabled
    split
    · rename_i hconnected
      exact (hidle (.inr hconnected.2)).scheduleNextPing
    · split
      · rename_i hwaits
        refine hidle (.inr fun hlost => ?_)
        obtain ⟨hpending, hretry⟩ := h.paused hlost henabled hactive
        rcases hwaits with hnot | hheld | hset
        · exact absurd (hpending.symm.trans hnot) Bool.true_eq_false.mp
        · exact hheld hlost
        · exact hset hretry
      · rename_i hgo
        rw [not_or, not_or, not_not, not_not] at hgo
        exact Detached.startConnection
          ⟨⟨h.known.opened, h.known.requested, h.known.ended, h.known.retry⟩, h.pressed, hgo.2.1,
            henabled, hgo.2.2, fun _ => rfl⟩

theorem setActive (h : s.Settled) (active : Bool) : (s.setActive t active).Settled := by
  unfold ControllerSession.setActive
  split
  · exact h
  · rename_i hchange
    split
    · rename_i hinactive
      rw [hinactive] at hchange
      exact h.deactivate (eq_true_of_ne_false hchange)
    · rename_i hactive
      rw [eq_true_of_ne_false hactive] at hchange
      exact h.activate (eq_false_of_ne_true hchange)

theorem syncButtons (h : s.Settled) (ht : t.closes = true) (buttons : List Network.Button) :
    Ends (fun _ => False) Settled (s.syncButtons t buttons) := by
  unfold ControllerSession.syncButtons
  dsimp only
  split
  · exact ((h.desire _).sendStateSync ht).bind fun r hr => hr
  · exact h.desire _

theorem setButton (h : s.Settled) (ht : t.closes = true) (button : Network.Button)
    (pressed : Bool) : Ends (fun _ => False) Settled (s.setButton t button pressed) := by
  unfold ControllerSession.setButton
  split
  · exact h
  · dsimp only
    split
    · exact ((h.desire _).takeSequence.sendClient ht _).bind fun r hr => hr
    · exact h.desire _

/-- Closing a connection only adds to what was closed. -/
theorem closeConnection_ends (ht : t.closes = true) (connection : Option Nat) (code : Nat)
    (reason : String) :
    Ends (fun _ => False)
      (fun s' => s' = s ∨ ∃ g, connection = some g ∧
        s' = { s with closeRequests := s.closeRequests ++ [⟨g, code, reason⟩] })
      (ControllerSession.closeConnection t s connection code reason) := by
  unfold ControllerSession.closeConnection
  split
  · exact .inl rfl
  · rename_i g
    rw [if_pos ht]
    exact .inr ⟨g, rfl, rfl⟩

end Settled

/-- A session that was stopped is at rest once it shows so. -/
theorem Known.stopped (h : s.Known) : s.stopped.Known :=
  have hcleared := h.cancelHeartbeat.cancelRetry
  ⟨hcleared.opened, hcleared.requested, hcleared.ended, hcleared.retry⟩

theorem Known.closed (h : s.Known) {g : Nat} (hold : g ≤ s.generation) (code : Nat)
    (reason : String) :
    Known { s with closeRequests := s.closeRequests ++ [⟨g, code, reason⟩] } := by
  refine ⟨h.opened, ?_, h.ended, h.retry⟩
  intro r hr
  rcases List.mem_append.mp hr with hmem | hnew
  · exact h.requested r hmem
  · rw [List.mem_singleton.mp hnew]
    exact hold

namespace Settled

theorem releaseButtons (h : s.Settled) (ht : t.closes = true) :
    Ends (fun _ => False)
      (fun s' : ControllerSession => s'.Known ∧ ∀ g, s'.connection = some g → g ≤ s'.generation)
      (s.releaseButtons t) := by
  unfold ControllerSession.releaseButtons
  by_cases hconnected : s.snapshot.status = .connected
  · rw [if_pos hconnected]
    exact (h.syncButtons ht []).mono (fun _ hfalse => hfalse)
      fun s' hs' => ⟨hs'.known, fun g hg => hs'.connection_le hg⟩
  · rw [if_neg hconnected]
    exact ⟨⟨h.known.opened, h.known.requested, h.known.ended, h.known.retry⟩,
      fun g hg => h.connection_le hg⟩

/-- The next generation begins without a connection. -/
theorem disconnected (hknown : s.Known) : s.stopped.disconnected.Settled := by
  have hstopped := hknown.stopped
  refine AtRest.settled ⟨⟨?_, ?_, ?_, hstopped.retry⟩, rfl, rfl, rfl, rfl, rfl, ⟨rfl, rfl, rfl⟩,
    ?_, ?_, rfl⟩
  · exact fun g hg => Nat.le_succ_of_le (hstopped.opened g hg)
  · exact fun r hr => Nat.le_succ_of_le (hstopped.requested r hr)
  · exact fun g hg => Nat.le_succ_of_le (hstopped.ended g hg)
  · intro hstatus
    cases hstatus
  · intro hstatus
    cases hstatus

theorem disconnect (h : s.Settled) (ht : t.closes = true) :
    Ends (fun _ => False) Settled (s.disconnect t) := by
  unfold ControllerSession.disconnect
  refine (h.releaseButtons ht).bind ?_
  rintro s' ⟨hknown, hold⟩
  refine (closeConnection_ends ht _ _ _).bind ?_
  rintro s'' (rfl | ⟨g, hg, rfl⟩)
  · exact disconnected hknown
  · exact disconnected (hknown.closed (hold g hg) _ _)

end Settled

end ControllerSession

end Pockiva
