import Pockiva.RemoteController.StaleCallbacks

/-! # A session that wants a connection gets to one

A session that wants a connection has one, waits for its retry timer or waits to become
active, it never has two sockets, and its timers belong to what it shows (`Recovers`).
Two things break this: a ping that is sent while the pong of the one before it is awaited
leaves the earlier deadline in the scheduler, and a welcome of a socket that is closed
makes an inactive session forget to recover.
-/
namespace Pockiva
namespace ControllerSession

open Throwing Transition
open Network (ClientMessage ServerMessage RejectionReason Sequence)

/-- The socket is there, the session has not closed it and it has not told that it is
closed. -/
def Unclosed (s : ControllerSession) (g : Nat) : Prop :=
  g ∈ s.opened ∧ (∀ r ∈ s.closeRequests, r.socket ≠ g) ∧ g ∉ s.ended

/-- What recovery promises between two entries. -/
structure Recovers (s : ControllerSession) : Prop where
  resumes : s.reconnectEnabled = true → s.active = true → s.snapshot.status ≠ .connected →
    (∃ g, s.connection = some g ∧ s.Unclosed g) ∨ ∃ timer ∈ s.timers, timer.callback = .retry
  waits : s.reconnectEnabled = true → s.active = false → s.connection = none →
    s.recoveryPending = true ∧
      ∀ t : TransportAnswers, t.connects = true → (s.setActive t true).connection ≠ none
  single : ∀ g g', s.Unclosed g → s.Unclosed g' → g = g'
  retry : ∀ timer ∈ s.timers, timer.callback = .retry → s.connection = none
  inactive : s.active = false → s.timers = []
  deadline : ∀ timer ∈ s.timers, ∀ sequence, timer.callback = .pongDeadline sequence →
    s.snapshot.status = .connected

/-- What the transport does: `close` does not throw, and of a socket the session has closed
only the close event comes. -/
structure Delivers (s : ControllerSession) (entry : Entry) (t : TransportAnswers) : Prop where
  closes : t.closes = true
  silent : ∀ g c, entry = .callback g c → c ≠ .close → ∀ r ∈ s.closeRequests, r.socket ≠ g

/-- A session over such a transport. -/
def recoverySystem : System ControllerSession (Entry × TransportAnswers) where
  start := system.start
  step s label s' := s.Delivers label.1 label.2 ∧ system.step s label s'

/-- No ping is sent while a pong is awaited, and an inactive session that wants a connection
hears no welcome of a socket that told that it is closed. -/
structure Orderly (s : ControllerSession) (entry : Entry) : Prop where
  ping : ∀ timer, entry = .timer timer → timer.callback = .nextPing → s.pongDeadlineTimer = none
  welcome : ∀ g version controllerId,
    entry = .callback g (.message (some (.welcome version controllerId))) →
      g ∈ s.ended → g = s.generation → s.reconnectEnabled = true → s.active = true

def orderlySystem : System ControllerSession (Entry × TransportAnswers) where
  start := system.start
  step s label s' := s.Orderly label.1 ∧ recoverySystem.step s label s'

/-! ## Sockets, timers and the plan -/

/-- The sockets of a session: the only one that is not closed is the connection. -/
structure Accounted (opened : List Nat) (requests : List CloseRequest) (ended : List Nat)
    (connection : Option Nat) (generation : Nat) : Prop where
  opened_le : ∀ g ∈ opened, g ≤ generation
  requests_le : ∀ r ∈ requests, r.socket ≤ generation
  ended_le : ∀ g ∈ ended, g ≤ generation
  current : ∀ g, connection = some g → g = generation
  live : ∀ g, connection = some g → g ∈ opened ∧ (∀ r ∈ requests, r.socket ≠ g) ∧ g ∉ ended
  closed : ∀ g ∈ opened, (∀ r ∈ requests, r.socket ≠ g) → g ∉ ended → connection = some g

namespace Accounted
variable {opened ended : List Nat} {requests : List CloseRequest} {connection : Option Nat}
  {generation : Nat}

theorem next (h : Accounted opened requests ended none generation) :
    Accounted opened requests ended none (generation + 1) where
  opened_le g hg := Nat.le_succ_of_le (h.opened_le g hg)
  requests_le r hr := Nat.le_succ_of_le (h.requests_le r hr)
  ended_le g hg := Nat.le_succ_of_le (h.ended_le g hg)
  current := nofun
  live := nofun
  closed := h.closed

/-- A new socket. -/
theorem connect (h : Accounted opened requests ended none generation) :
    Accounted (opened ++ [generation + 1]) requests ended (some (generation + 1))
      (generation + 1) where
  opened_le g hg := by
    rcases List.mem_append.mp hg with hold | hnew
    · exact Nat.le_succ_of_le (h.opened_le g hold)
    · exact Nat.le_of_eq (List.mem_singleton.mp hnew)
  requests_le r hr := Nat.le_succ_of_le (h.requests_le r hr)
  ended_le g hg := Nat.le_succ_of_le (h.ended_le g hg)
  current g hg := (Option.some_inj.mp hg).symm
  live := by
    rintro g ⟨rfl⟩
    refine ⟨List.mem_append_right _ (List.mem_singleton_self _), ?_, ?_⟩
    · intro r hr hsocket
      exact absurd (h.requests_le r hr) (hsocket ▸ Nat.not_succ_le_self _)
    · intro hended
      exact absurd (h.ended_le _ hended) (Nat.not_succ_le_self _)
  closed g hg hrequests hended := by
    rcases List.mem_append.mp hg with hold | hnew
    · exact absurd (h.closed g hold hrequests hended) (Option.some_ne_none g).symm
    · rw [List.mem_singleton.mp hnew]

/-- The session closes the connection. -/
theorem close {g : Nat} (h : Accounted opened requests ended (some g) generation) (code : Nat)
    (reason : String) :
    Accounted opened (requests ++ [⟨g, code, reason⟩]) ended none generation where
  opened_le := h.opened_le
  requests_le r hr := by
    rcases List.mem_append.mp hr with hold | hnew
    · exact h.requests_le r hold
    · rw [List.mem_singleton.mp hnew]
      exact Nat.le_of_eq (h.current g rfl)
  ended_le := h.ended_le
  current := nofun
  live := nofun
  closed g' hg' hrequests hended := by
    have hheld := h.closed g' hg' (fun r hr => hrequests r (List.mem_append_left _ hr)) hended
    have hnew := hrequests ⟨g, code, reason⟩ (List.mem_append_right _ (List.mem_singleton_self _))
    exact absurd (Option.some_inj.mp hheld) hnew

/-- A socket tells that it is closed. -/
theorem end_ (h : Accounted opened requests ended connection generation) {g : Nat}
    (hg : g ∈ opened) :
    Accounted opened requests (ended ++ [g]) (if connection = some g then none else connection)
      generation where
  opened_le := h.opened_le
  requests_le := h.requests_le
  ended_le g' hg' := by
    rcases List.mem_append.mp hg' with hold | hnew
    · exact h.ended_le g' hold
    · rw [List.mem_singleton.mp hnew]
      exact h.opened_le g hg
  current g' hg' := by
    split at hg'
    · cases hg'
    · exact h.current g' hg'
  live g' hg' := by
    split at hg'
    · cases hg'
    · rename_i hother
      obtain ⟨hopened, hrequests, hended⟩ := h.live g' hg'
      refine ⟨hopened, hrequests, ?_⟩
      intro hmem
      rcases List.mem_append.mp hmem with hold | hnew
      · exact hended hold
      · rw [List.mem_singleton.mp hnew] at hg'
        exact hother hg'
  closed g' hg' hrequests hended := by
    rw [List.mem_append, not_or, List.mem_singleton] at hended
    have hheld := h.closed g' hg' hrequests hended.1
    rw [if_neg]
    · exact hheld
    · intro hsame
      exact hended.2 (Option.some_inj.mp (hheld.symm.trans hsame))

end Accounted

/-- The timers of a scheduler are the ones a session holds. -/
structure Held (timers : List ScheduledTimer) (nextPing pongDeadline retry : Option Nat) :
    Prop where
  pings : ∀ timer ∈ timers, timer.callback = .nextPing → nextPing = some timer.id
  deadlines : ∀ timer ∈ timers, ∀ sequence, timer.callback = .pongDeadline sequence →
    pongDeadline = some timer.id
  retries : ∀ timer ∈ timers, timer.callback = .retry → retry = some timer.id
  pending : ∀ id, retry = some id → ∃ timer ∈ timers, timer.id = id ∧ timer.callback = .retry
  /-- While a retry is due there is no heartbeat. -/
  alone : retry ≠ none → nextPing = none ∧ pongDeadline = none

namespace Held
variable {timers : List ScheduledTimer} {nextPing pongDeadline retry : Option Nat}

theorem eq_nil (h : Held timers none none none) : timers = [] := by
  refine List.eq_nil_iff_forall_not_mem.mpr fun timer htimer => ?_
  match hcallback : timer.callback with
  | .nextPing => cases h.pings timer htimer hcallback
  | .pongDeadline sequence => cases h.deadlines timer htimer sequence hcallback
  | .retry => cases h.retries timer htimer hcallback

theorem mem_clear {timer : ScheduledTimer} {id : Option Nat}
    (h : timer ∈ clearTimeout timers id) : timer ∈ timers ∧ id ≠ some timer.id := by
  obtain ⟨hmem, hother⟩ := List.mem_filter.mp h
  exact ⟨hmem, of_decide_eq_true hother⟩

theorem clearNextPing (h : Held timers nextPing pongDeadline retry) :
    Held (clearTimeout timers nextPing) none pongDeadline retry where
  pings timer htimer hcallback :=
    absurd (h.pings timer (mem_clear htimer).1 hcallback) (mem_clear htimer).2
  deadlines timer htimer := h.deadlines timer (mem_clear htimer).1
  retries timer htimer := h.retries timer (mem_clear htimer).1
  pending id hid := by
    have halone := h.alone (by rw [hid]; exact Option.some_ne_none id)
    rw [halone.1, clearTimeout_none]
    exact h.pending id hid
  alone hretry := ⟨rfl, (h.alone hretry).2⟩

theorem clearPongDeadline (h : Held timers nextPing pongDeadline retry) :
    Held (clearTimeout timers pongDeadline) nextPing none retry where
  pings timer htimer := h.pings timer (mem_clear htimer).1
  deadlines timer htimer sequence hcallback :=
    absurd (h.deadlines timer (mem_clear htimer).1 sequence hcallback) (mem_clear htimer).2
  retries timer htimer := h.retries timer (mem_clear htimer).1
  pending id hid := by
    have halone := h.alone (by rw [hid]; exact Option.some_ne_none id)
    rw [halone.2, clearTimeout_none]
    exact h.pending id hid
  alone hretry := ⟨(h.alone hretry).1, rfl⟩

theorem clearRetry (h : Held timers nextPing pongDeadline retry) :
    Held (clearTimeout timers retry) nextPing pongDeadline none where
  pings timer htimer := h.pings timer (mem_clear htimer).1
  deadlines timer htimer := h.deadlines timer (mem_clear htimer).1
  retries timer htimer hcallback :=
    absurd (h.retries timer (mem_clear htimer).1 hcallback) (mem_clear htimer).2
  pending := nofun
  alone hretry := absurd rfl hretry

theorem cancelHeartbeat (h : Held timers nextPing pongDeadline retry) :
    Held (clearTimeout (clearTimeout timers nextPing) pongDeadline) none none retry :=
  h.clearNextPing.clearPongDeadline

theorem cancelAll (h : Held timers nextPing pongDeadline retry) :
    Held (clearTimeout (clearTimeout (clearTimeout timers nextPing) pongDeadline) retry)
      none none none :=
  h.cancelHeartbeat.clearRetry

/-- The next ping is set. -/
theorem setNextPing (h : Held timers none pongDeadline none) (id delayMs : Nat) :
    Held (timers ++ [⟨id, .nextPing, delayMs⟩]) (some id) pongDeadline none where
  pings timer htimer hcallback := by
    rcases List.mem_append.mp htimer with hold | hnew
    · cases h.pings timer hold hcallback
    · rw [List.mem_singleton.mp hnew]
  deadlines timer htimer sequence hcallback := by
    rcases List.mem_append.mp htimer with hold | hnew
    · exact h.deadlines timer hold sequence hcallback
    · rw [List.mem_singleton.mp hnew] at hcallback
      cases hcallback
  retries timer htimer hcallback := by
    rcases List.mem_append.mp htimer with hold | hnew
    · exact h.retries timer hold hcallback
    · rw [List.mem_singleton.mp hnew] at hcallback
      cases hcallback
  pending := nofun
  alone hretry := absurd rfl hretry

/-- The deadline of a pong is set. -/
theorem setPongDeadline (h : Held timers nextPing none none) (id delayMs : Nat)
    (sequence : Sequence) :
    Held (timers ++ [⟨id, .pongDeadline sequence, delayMs⟩]) nextPing (some id) none where
  pings timer htimer hcallback := by
    rcases List.mem_append.mp htimer with hold | hnew
    · exact h.pings timer hold hcallback
    · rw [List.mem_singleton.mp hnew] at hcallback
      cases hcallback
  deadlines timer htimer sequence' hcallback := by
    rcases List.mem_append.mp htimer with hold | hnew
    · cases h.deadlines timer hold sequence' hcallback
    · rw [List.mem_singleton.mp hnew]
  retries timer htimer hcallback := by
    rcases List.mem_append.mp htimer with hold | hnew
    · exact h.retries timer hold hcallback
    · rw [List.mem_singleton.mp hnew] at hcallback
      cases hcallback
  pending := nofun
  alone hretry := absurd rfl hretry

/-- A retry is set. -/
theorem setRetry (h : Held timers none none none) (id delayMs : Nat) :
    Held (timers ++ [⟨id, .retry, delayMs⟩]) none none (some id) := by
  rw [h.eq_nil]
  refine ⟨?_, ?_, ?_, ?_, fun _ => ⟨rfl, rfl⟩⟩
  · intro timer htimer hcallback
    rw [List.mem_singleton.mp htimer] at hcallback
    cases hcallback
  · intro timer htimer sequence hcallback
    rw [List.mem_singleton.mp htimer] at hcallback
    cases hcallback
  · intro timer htimer _
    rw [List.mem_singleton.mp htimer]
  · rintro _ ⟨rfl⟩
    exact ⟨_, List.mem_singleton_self _, rfl, rfl⟩

end Held

/-- A session between two entries of an orderly run. -/
structure Recovering (s : ControllerSession) : Prop where
  sockets : Accounted s.opened s.closeRequests s.ended s.connection s.generation
  timers : Held s.timers s.nextPingTimer s.pongDeadlineTimer s.retryTimer
  held : s.connection ≠ none → s.reconnectEnabled = true ∧ s.retryTimer = none ∧
    (s.snapshot.status = .connecting ∨ s.snapshot.status = .connected)
  quiet : s.connection = none →
    s.nextPingTimer = none ∧ s.pongDeadlineTimer = none ∧ s.awaitedPong = none
  idle : s.reconnectEnabled = false → s.retryTimer = none
  retrying : s.connection = none → s.reconnectEnabled = true → s.active = true →
    s.retryTimer ≠ none
  paused : s.connection = none → s.reconnectEnabled = true → s.active = false →
    s.recoveryPending = true
  inactive : s.active = false →
    s.nextPingTimer = none ∧ s.pongDeadlineTimer = none ∧ s.retryTimer = none
  deadline : s.pongDeadlineTimer ≠ none → s.snapshot.status = .connected

variable {s : ControllerSession} {t : TransportAnswers}

/-- The session wants a connection, has none and has not yet seen to it. -/
structure Lost (s : ControllerSession) : Prop where
  sockets : Accounted s.opened s.closeRequests s.ended none s.generation
  timers : Held s.timers s.nextPingTimer s.pongDeadlineTimer none
  connection : s.connection = none
  enabled : s.reconnectEnabled = true
  retryTimer : s.retryTimer = none

namespace Lost

theorem cancelHeartbeat (h : s.Lost) : s.cancelHeartbeat.Lost :=
  ⟨h.sockets, h.timers.cancelHeartbeat, h.connection, h.enabled, h.retryTimer⟩

/-- **A session that lost its connection tries again, waits or gives up.** -/
theorem scheduleRetry (h : s.Lost) : (s.scheduleRetry s.generation).Recovering := by
  have htimers := h.timers.cancelHeartbeat
  unfold ControllerSession.scheduleRetry
  rw [if_neg (by simp [h.enabled, h.retryTimer])]
  split
  · rename_i hactive
    exact {
      sockets := h.connection ▸ h.sockets
      timers := h.retryTimer ▸ htimers
      held := fun hheld => absurd h.connection hheld
      quiet := fun _ => ⟨rfl, rfl, rfl⟩
      idle := fun _ => h.retryTimer
      retrying := fun _ _ hpaused => absurd (hactive.symm.trans hpaused) Bool.false_ne_true
      paused := fun _ _ _ => rfl
      inactive := fun _ => ⟨rfl, rfl, h.retryTimer⟩
      deadline := fun hset => absurd rfl hset }
  · rename_i hactive
    replace hactive : s.active = true := eq_true_of_ne_false hactive
    split
    · exact {
        sockets := h.connection ▸ h.sockets
        timers := h.retryTimer ▸ htimers
        held := fun hheld => absurd h.connection hheld
        quiet := fun _ => ⟨rfl, rfl, rfl⟩
        idle := fun _ => h.retryTimer
        retrying := by
          intro _ henabled
          cases henabled
        paused := by
          intro _ henabled
          cases henabled
        inactive := fun hpaused => absurd (hactive.symm.trans hpaused) Bool.true_eq_false.mp
        deadline := fun hset => absurd rfl hset }
    · exact {
        sockets := h.connection ▸ h.sockets
        timers := htimers.setRetry _ _
        held := fun hheld => absurd h.connection hheld
        quiet := fun _ => ⟨rfl, rfl, rfl⟩
        idle := fun hidle => absurd (h.enabled.symm.trans hidle) Bool.true_eq_false.mp
        retrying := fun _ _ _ => Option.some_ne_none _
        paused := fun _ _ hpaused => absurd (hactive.symm.trans hpaused) Bool.true_eq_false.mp
        inactive := fun hpaused => absurd (hactive.symm.trans hpaused) Bool.true_eq_false.mp
        deadline := fun hset => absurd rfl hset }

/-- A session that starts a connection has one, tries again or waits. -/
theorem startConnection (h : s.Lost) : (s.startConnection t).Recovering := by
  have htimers := h.timers.cancelHeartbeat
  unfold ControllerSession.startConnection
  dsimp only
  split
  · rename_i hactive
    exact {
      sockets := h.connection ▸ h.sockets
      timers := h.retryTimer ▸ htimers
      held := fun hheld => absurd h.connection hheld
      quiet := fun _ => ⟨rfl, rfl, rfl⟩
      idle := fun _ => h.retryTimer
      retrying := fun _ _ hpaused => absurd (hactive.symm.trans hpaused) Bool.false_ne_true
      paused := fun _ _ _ => rfl
      inactive := fun _ => ⟨rfl, rfl, h.retryTimer⟩
      deadline := fun hset => absurd rfl hset }
  · rename_i hactive
    replace hactive : s.active = true := eq_true_of_ne_false hactive
    split
    · exact {
        sockets := h.sockets.connect
        timers := h.retryTimer ▸ htimers
        held := fun _ => ⟨h.enabled, h.retryTimer, .inl rfl⟩
        quiet := by
          intro hnone
          cases hnone
        idle := fun _ => h.retryTimer
        retrying := by
          intro hnone
          cases hnone
        paused := by
          intro hnone
          cases hnone
        inactive := fun hpaused => absurd (hactive.symm.trans hpaused) Bool.true_eq_false.mp
        deadline := fun hset => absurd rfl hset }
    · exact Lost.scheduleRetry ⟨h.sockets.next, htimers, rfl, h.enabled, h.retryTimer⟩

end Lost

theorem recovering_new (options : ControllerSessionOptions) (initialSequence : Sequence) :
    Recovering (new options initialSequence) where
  sockets := ⟨nofun, nofun, nofun, nofun, nofun, nofun⟩
  timers := ⟨nofun, nofun, nofun, nofun, fun h => absurd rfl h⟩
  held h := absurd rfl h
  quiet _ := ⟨rfl, rfl, rfl⟩
  idle _ := rfl
  retrying _ henabled := by cases henabled
  paused _ henabled := by cases henabled
  inactive _ := ⟨rfl, rfl, rfl⟩
  deadline h := absurd rfl h

namespace Recovering

/-- A session without a connection, a retry or the wish to wait has lost it. -/
theorem lost (h : s.Recovering) (hlost : s.connection = none) (henabled : s.reconnectEnabled = true)
    (hretry : s.retryTimer = none) : s.Lost :=
  ⟨hlost ▸ h.sockets, hretry ▸ h.timers, hlost, henabled, hretry⟩

/-- **Without a connection** a session sees to its recovery, if that is still to be done. -/
theorem scheduleRetry (h : s.Recovering) (hlost : s.connection = none) (g : Nat) :
    (s.scheduleRetry g).Recovering := by
  by_cases hgo : g ≠ s.generation ∨ s.reconnectEnabled = false ∨ s.retryTimer ≠ none
  · unfold ControllerSession.scheduleRetry
    rw [if_pos hgo]
    exact h
  · rw [not_or, not_or, not_not, not_not] at hgo
    obtain ⟨rfl, henabled, hretry⟩ := hgo
    exact (h.lost hlost (eq_true_of_ne_false henabled) hretry).scheduleRetry

/-- **A session that closes its connection for recovery** goes on to recover. -/
theorem abandon (h : s.Recovering) (ht : t.closes = true) (code : Nat) (reason : String) :
    Ends (fun _ => False) Recovering
      (closeConnection t { s with connection := none } s.connection code reason >>=
        fun s' => .ok (s'.scheduleRetry s.generation)) := by
  match hconnection : s.connection with
  | none =>
    rw [Settled.withoutConnection hconnection]
    exact h.scheduleRetry hconnection _
  | some g =>
    have hheld : s.connection ≠ none := by
      rw [hconnection]
      exact Option.some_ne_none g
    obtain ⟨henabled, hretry, -⟩ := h.held hheld
    have hsockets := (hconnection ▸ h.sockets).close code reason
    unfold closeConnection
    dsimp only
    rw [if_pos ht]
    exact Lost.scheduleRetry (s := { s with
        connection := none, closeRequests := s.closeRequests ++ [⟨g, code, reason⟩] })
      ⟨hsockets, hretry ▸ h.timers, rfl, henabled, hretry⟩

theorem handleTransportFailure (h : s.Recovering) (ht : t.closes = true) (g : Nat) :
    Ends (fun _ => False) Recovering (s.handleTransportFailure t g) := by
  unfold ControllerSession.handleTransportFailure
  split
  · exact h
  · rename_i hcurrent
    rw [not_or, not_not] at hcurrent
    rw [hcurrent.1]
    exact h.abandon ht _ _

theorem closeForRecovery (h : s.Recovering) (ht : t.closes = true) (code : Nat)
    (reason : String) (g : Nat) :
    Ends (fun _ => False) Recovering (s.closeForRecovery t code reason g) := by
  unfold ControllerSession.closeForRecovery
  split
  · exact h
  · rename_i hcurrent
    rw [not_or, not_not] at hcurrent
    rw [hcurrent.1]
    exact h.abandon ht _ _

theorem takeSequence (h : s.Recovering) : s.takeSequence.Recovering :=
  ⟨h.sockets, h.timers, h.held, h.quiet, h.idle, h.retrying, h.paused, h.inactive, h.deadline⟩

theorem desire (h : s.Recovering) (wanted : Finset Network.Button) :
    (s.desire wanted).Recovering :=
  ⟨h.sockets, h.timers, h.held, h.quiet, h.idle, h.retrying, h.paused, h.inactive, h.deadline⟩

/-- A message is sent on the connection, or the connection is given up. -/
theorem sendClient (h : s.Recovering) (ht : t.closes = true) (message : ClientMessage) :
    Ends (fun _ => False) (fun r => r.2.Recovering ∧ (r.1 = true → r.2.connection ≠ none))
      (s.sendClient t message) := by
  unfold ControllerSession.sendClient
  split
  · exact ⟨h, nofun⟩
  · rename_i g hg
    split
    · refine ⟨⟨h.sockets, h.timers, h.held, h.quiet, h.idle, h.retrying, h.paused,
        h.inactive, h.deadline⟩, fun _ => ?_⟩
      show s.connection ≠ none
      rw [hg]
      exact Option.some_ne_none g
    · exact (h.handleTransportFailure ht s.generation).bind fun s' hs' => ⟨hs', nofun⟩

theorem sendStateSync (h : s.Recovering) (ht : t.closes = true) :
    Ends (fun _ => False) (fun r => r.2.Recovering ∧ (r.1 = true → r.2.connection ≠ none))
      (s.sendStateSync t) :=
  h.takeSequence.sendClient ht _

/-- The next ping is set while there is a connection. -/
theorem scheduleNextPing (h : s.Recovering) (hheld : s.connection ≠ none) :
    s.scheduleNextPing.Recovering := by
  unfold ControllerSession.scheduleNextPing
  split
  · exact h
  · rename_i hgo
    rw [not_or, not_not] at hgo
    have hactive : s.active = true := eq_true_of_ne_false hgo.1
    have hretry := (h.held hheld).2.1
    have htimers := (hretry ▸ h.timers).clearNextPing.setNextPing s.nextTimer
      s.options.heartbeatIntervalMs
    exact {
      sockets := h.sockets
      timers := hretry ▸ htimers
      held := h.held
      quiet := fun hlost => absurd hlost hheld
      idle := h.idle
      retrying := h.retrying
      paused := h.paused
      inactive := fun hpaused => absurd (hactive.symm.trans hpaused) Bool.true_eq_false.mp
      deadline := h.deadline }

/-- A pong that is awaited comes on the connection. -/
theorem handlePong (h : s.Recovering) (sequence : Sequence) :
    (s.handlePong sequence).Recovering := by
  unfold ControllerSession.handlePong
  split
  · exact h
  · rename_i hgo
    rw [not_or, not_not, not_not] at hgo
    have hheld : s.connection ≠ none := by
      intro hlost
      exact Option.some_ne_none sequence (hgo.2.symm.trans (h.quiet hlost).2.2)
    refine scheduleNextPing ?_ hheld
    exact ⟨h.sockets, h.timers.clearPongDeadline, h.held, fun hlost => absurd hlost hheld, h.idle,
      h.retrying, h.paused, fun hpaused => ⟨(h.inactive hpaused).1, rfl, (h.inactive hpaused).2.2⟩,
      fun hset => absurd rfl hset⟩

/-- The timers of a session that stops. -/
theorem timers_stopped (h : s.Recovering) : Held s.stopped.timers none none none :=
  h.timers.cancelAll

/-- A session that stops, once its connection is closed. -/
theorem stopped (h : s.Recovering) (shown : SessionSnapshot) (requests : List CloseRequest)
    (hsockets : Accounted s.opened requests s.ended none s.generation) :
    Recovering { s.stopped with snapshot := shown, closeRequests := requests } where
  sockets := hsockets
  timers := h.timers_stopped
  held hheld := absurd rfl hheld
  quiet _ := ⟨rfl, rfl, rfl⟩
  idle _ := rfl
  retrying _ henabled := by cases henabled
  paused _ henabled := by cases henabled
  inactive _ := ⟨rfl, rfl, rfl⟩
  deadline hset := absurd rfl hset

/-- A session stops and closes its connection, whatever it shows. -/
theorem closeStopped (h : s.Recovering) (ht : t.closes = true) (shown : SessionSnapshot)
    (code : Nat) (reason : String) :
    Ends (fun _ => False) (fun s' => s'.Recovering ∧ s'.connection = none)
      (closeConnection t { s.stopped with snapshot := shown } s.connection code reason) := by
  match hlost : s.connection with
  | none => exact ⟨h.stopped shown s.closeRequests (hlost ▸ h.sockets), rfl⟩
  | some g =>
    unfold closeConnection
    dsimp only
    rw [if_pos ht]
    exact ⟨h.stopped shown _ ((hlost ▸ h.sockets).close code reason), rfl⟩

theorem failTerminal (h : s.Recovering) (ht : t.closes = true) (status : SessionStatus)
    (code : Nat) (reason : String) :
    Ends (fun _ => False) Recovering (s.failTerminal t status code reason) :=
  (h.closeStopped ht _ code reason).mono (fun _ hfalse => hfalse) fun _ hs' => hs'.1

theorem connect (h : s.Recovering) : (s.connect t).Recovering := by
  unfold ControllerSession.connect
  split
  · exact h
  · rename_i hstopped
    have hlost : s.connection = none := by
      by_contra hheld
      exact hstopped (h.held hheld).2.2
    exact Lost.startConnection ⟨hlost ▸ h.sockets, h.timers.clearRetry, hlost, rfl, rfl⟩

theorem deactivate (h : s.Recovering) : s.deactivate.Recovering where
  sockets := h.sockets
  timers := h.timers.cancelAll
  held hheld := ⟨(h.held hheld).1, rfl, (h.held hheld).2.2⟩
  quiet _ := ⟨rfl, rfl, rfl⟩
  idle _ := rfl
  retrying := by
    intro _ _ hactive
    cases hactive
  paused hlost henabled _ := decide_eq_true (.inl ⟨henabled, .inr hlost⟩)
  inactive _ := ⟨rfl, rfl, rfl⟩
  deadline hset := absurd rfl hset

theorem activate (h : s.Recovering) (hactive : s.active = false) :
    (s.activate t).Recovering := by
  have hrest : s.reconnectEnabled = false ∨ s.connection ≠ none →
      Recovering { s with active := true } := by
    intro hrest
    refine ⟨h.sockets, h.timers, h.held, h.quiet, h.idle, ?_, ?_, ?_, h.deadline⟩
    · intro hlost henabled _
      rcases hrest with hidle | hheld
      · exact absurd (hidle.symm.trans henabled) Bool.false_ne_true
      · exact absurd hlost hheld
    · intro _ _ hpaused
      cases hpaused
    · intro hpaused
      cases hpaused
  unfold ControllerSession.activate
  dsimp only
  split
  · rename_i hidle
    exact hrest (.inl hidle)
  · rename_i henabled
    replace henabled : s.reconnectEnabled = true := eq_true_of_ne_false henabled
    split
    · rename_i hconnected
      exact (hrest (.inr hconnected.2)).scheduleNextPing hconnected.2
    · split
      · rename_i hwaits
        refine hrest (.inr fun hlost => ?_)
        rcases hwaits with hnot | hheld | hset
        · exact absurd ((h.paused hlost henabled hactive).symm.trans hnot) Bool.true_eq_false.mp
        · exact hheld hlost
        · exact hset (h.inactive hactive).2.2
      · rename_i hgo
        rw [not_or, not_or, not_not, not_not] at hgo
        have hlost := h.lost hgo.2.1 henabled hgo.2.2
        exact Lost.startConnection ⟨hlost.sockets, hlost.timers, hlost.connection, hlost.enabled,
          hlost.retryTimer⟩

/-- An inactive session that waits connects once it is active. -/
theorem activate_connects (h : s.Recovering) (hlost : s.connection = none)
    (henabled : s.reconnectEnabled = true) (hactive : s.active = false) (ht : t.connects = true) :
    (s.setActive t true).connection ≠ none := by
  have hpending := h.paused hlost henabled hactive
  have hretry := (h.inactive hactive).2.2
  unfold ControllerSession.setActive
  rw [if_neg (by rw [hactive]; exact Bool.false_ne_true), if_neg Bool.true_eq_false.mp]
  unfold ControllerSession.activate
  dsimp only
  rw [if_neg (by simp [henabled]), if_neg (by simp [hlost]),
    if_neg (by simp [hpending, hlost, hretry])]
  unfold ControllerSession.startConnection
  dsimp only
  rw [if_neg (by exact Bool.true_eq_false.mp), if_pos ht]
  exact Option.some_ne_none _

theorem setActive (h : s.Recovering) (active : Bool) : (s.setActive t active).Recovering := by
  unfold ControllerSession.setActive
  split
  · exact h
  · rename_i hchange
    split
    · exact h.deactivate
    · rename_i hactive
      rw [eq_true_of_ne_false hactive] at hchange
      exact h.activate (eq_false_of_ne_true hchange)

theorem syncButtons (h : s.Recovering) (ht : t.closes = true) (buttons : List Network.Button) :
    Ends (fun _ => False) Recovering (s.syncButtons t buttons) := by
  unfold ControllerSession.syncButtons
  dsimp only
  split
  · exact ((h.desire _).sendStateSync ht).bind fun r hr => hr.1
  · exact h.desire _

theorem setButton (h : s.Recovering) (ht : t.closes = true) (button : Network.Button)
    (pressed : Bool) : Ends (fun _ => False) Recovering (s.setButton t button pressed) := by
  unfold ControllerSession.setButton
  split
  · exact h
  · dsimp only
    split
    · exact ((h.desire _).takeSequence.sendClient ht _).bind fun r hr => hr.1
    · exact h.desire _

theorem releaseButtons (h : s.Recovering) (ht : t.closes = true) :
    Ends (fun _ => False) Recovering (s.releaseButtons t) := by
  unfold ControllerSession.releaseButtons
  split
  · exact h.syncButtons ht []
  · exact ⟨h.sockets, h.timers, h.held, h.quiet, h.idle, h.retrying, h.paused,
      h.inactive, h.deadline⟩

theorem disconnect (h : s.Recovering) (ht : t.closes = true) :
    Ends (fun _ => False) Recovering (s.disconnect t) := by
  unfold ControllerSession.disconnect
  refine (h.releaseButtons ht).bind fun s' hs' => ?_
  refine (hs'.closeStopped ht s'.stopped.snapshot _ _).bind ?_
  rintro s'' ⟨hs'', hlost⟩
  have hquiet := hs''.quiet hlost
  have hsockets := (hlost ▸ hs''.sockets).next
  exact ⟨hlost ▸ hsockets, hs''.timers, fun hheld => absurd hlost hheld,
    hs''.quiet, hs''.idle, hs''.retrying, hs''.paused, hs''.inactive,
    fun hset => absurd hquiet.2.1 hset⟩

theorem handleOpen (h : s.Recovering) (ht : t.closes = true) (g : Nat) :
    Ends (fun _ => False) Recovering (s.handleOpen t g) := by
  unfold ControllerSession.handleOpen
  split
  · exact h
  · exact (h.sendClient ht _).bind fun r hr => hr.1

/-- A welcome, on the connection or while no recovery waits. -/
theorem welcomed (h : s.Recovering)
    (hwaits : s.connection = none → s.reconnectEnabled = true → s.active = true)
    (controllerId : String) : (s.welcomed controllerId).Recovering where
  sockets := h.sockets
  timers := h.timers
  held hheld := ⟨(h.held hheld).1, (h.held hheld).2.1, .inr rfl⟩
  quiet := h.quiet
  idle := h.idle
  retrying := h.retrying
  paused hlost henabled hpaused :=
    absurd ((hwaits hlost henabled).symm.trans hpaused) Bool.true_eq_false.mp
  inactive := h.inactive
  deadline _ := rfl

/-- A message of a socket the session has not closed. -/
theorem handleMessage (h : s.Recovering) {g : Nat} (data : Option ServerMessage)
    (hopened : g ∈ s.opened) (hdelivers : s.Delivers (.callback g (.message data)) t)
    (horderly : s.Orderly (.callback g (.message data))) :
    Ends (fun _ => False) Recovering (s.handleMessage t g data) := by
  have ht := hdelivers.closes
  unfold ControllerSession.handleMessage
  split
  · exact h
  · rename_i hcurrent
    rw [not_not] at hcurrent
    match data, hdelivers, horderly with
    | none, _, _ => exact h.failTerminal ht _ _ _
    | some (.welcome version controllerId), hdelivers, horderly =>
      have hwaits : s.connection = none → s.reconnectEnabled = true → s.active = true := by
        intro hlost henabled
        refine horderly.welcome g version controllerId rfl ?_ hcurrent henabled
        by_contra hended
        have hsilent : ∀ r ∈ s.closeRequests, r.socket ≠ g :=
          hdelivers.silent g _ rfl (by intro heq; cases heq)
        exact Option.some_ne_none g ((h.sockets.closed g hopened hsilent hended).symm.trans hlost)
      refine ((h.welcomed hwaits controllerId).sendStateSync ht).bind ?_
      rintro ⟨sent, s'⟩ ⟨hs', hsent⟩
      cases sent with
      | false => exact hs'
      | true => exact hs'.scheduleNextPing (hsent rfl)
    | some (.rejected reason), _, _ => exact h.failTerminal ht _ _ _
    | some (.pong sequence), _, _ => exact h.handlePong sequence
    | some .controllerDisconnected, _, _ => exact h.closeForRecovery ht _ _ g

/-- A socket tells that it is closed: the connection is lost, or nothing is left to do. -/
theorem handleClose (h : s.Recovering) {g : Nat} (hopened : g ∈ s.opened) :
    (ControllerSession.handleClose { s with ended := s.ended ++ [g] } g).Recovering := by
  have hended := h.sockets.end_ hopened
  by_cases hheld : s.connection = some g
  · have hcurrent := h.sockets.current g hheld
    rw [if_pos hheld] at hended
    have hne : s.connection ≠ none := by
      rw [hheld]
      exact Option.some_ne_none g
    obtain ⟨henabled, hretry, -⟩ := h.held hne
    unfold ControllerSession.handleClose
    rw [if_neg (not_not.mpr hcurrent), hcurrent]
    rw [hcurrent] at hended
    exact (Lost.cancelHeartbeat (s := { s with
        ended := s.ended ++ [s.generation], connection := none })
      ⟨hended, hretry ▸ h.timers, rfl, henabled, hretry⟩).scheduleRetry
  · rw [if_neg hheld] at hended
    have htold : Recovering { s with ended := s.ended ++ [g] } :=
      ⟨hended, h.timers, h.held, h.quiet, h.idle, h.retrying, h.paused,
        h.inactive, h.deadline⟩
    unfold ControllerSession.handleClose
    split
    · exact htold
    · rename_i hcurrent
      rw [not_not] at hcurrent
      have hlost : s.connection = none := by
        by_contra hne
        obtain ⟨g', hg'⟩ := Option.ne_none_iff_exists'.mp hne
        rw [h.sockets.current g' hg', ← hcurrent] at hg'
        exact hheld hg'
      have hquiet : Quiet { s with ended := s.ended ++ [g] } :=
        ⟨(h.quiet hlost).1, (h.quiet hlost).2.1, (h.quiet hlost).2.2⟩
      have hsame := Settled.withoutConnection (s := { s with ended := s.ended ++ [g] }) hlost
      have hkept : (ControllerSession.cancelHeartbeat
          { s with ended := s.ended ++ [g], connection := none }) =
          { s with ended := s.ended ++ [g] } := by
        rw [← hquiet.cancelHeartbeat]
        exact congrArg ControllerSession.cancelHeartbeat hsame
      show (ControllerSession.scheduleRetry (ControllerSession.cancelHeartbeat
        { s with ended := s.ended ++ [g], connection := none }) g).Recovering
      rw [hkept]
      exact htold.scheduleRetry hlost g

/-- A timer that fires leaves the scheduler and its handle. -/
theorem firePing (h : s.Recovering) (ht : t.closes = true) {timer : ScheduledTimer}
    (htimer : timer ∈ s.timers) (hcallback : timer.callback = .nextPing)
    (hawaited : s.pongDeadlineTimer = none) :
    Ends (fun _ => False) Recovering
      (ControllerSession.firePing t
        { s with timers := clearTimeout s.timers (some timer.id) }) := by
  have hset := h.timers.pings timer htimer hcallback
  have hne : s.nextPingTimer ≠ none := by
    rw [hset]
    exact Option.some_ne_none _
  have hheld : s.connection ≠ none := fun hlost => hne (h.quiet hlost).1
  have hactive : s.active = true := by
    by_contra hpaused
    exact hne (h.inactive (eq_false_of_ne_true hpaused)).1
  have hretry := (h.held hheld).2.1
  have hfired :
      Held (clearTimeout s.timers (some timer.id)) none s.pongDeadlineTimer s.retryTimer :=
    hset ▸ h.timers.clearNextPing
  have htimers : Held (clearTimeout s.timers (some timer.id)) none none none := by
    rw [hawaited, hretry] at hfired
    exact hfired
  have hinactive : ∀ {P : Prop}, s.active = false → P := fun hpaused =>
    absurd (hactive.symm.trans hpaused) Bool.true_eq_false.mp
  unfold ControllerSession.firePing
  dsimp only
  split
  · exact ⟨h.sockets, hfired, h.held, fun hlost => absurd hlost hheld, h.idle,
      h.retrying, h.paused, hinactive, h.deadline⟩
  · rename_i hconnected
    rw [not_not] at hconnected
    refine Ends.bind (sendClient ?_ ht _) fun r hr => hr.1
    exact ⟨h.sockets, hretry ▸ htimers.setPongDeadline _ _ _, h.held,
      fun hlost => absurd hlost hheld, h.idle, h.retrying, h.paused, hinactive,
      fun _ => hconnected⟩

theorem firePongDeadline (h : s.Recovering) (ht : t.closes = true) {timer : ScheduledTimer}
    (htimer : timer ∈ s.timers) {sequence : Sequence}
    (hcallback : timer.callback = .pongDeadline sequence) :
    Ends (fun _ => False) Recovering
      (ControllerSession.firePongDeadline t
        { s with timers := clearTimeout s.timers (some timer.id) } sequence) := by
  have hset := h.timers.deadlines timer htimer sequence hcallback
  have htimers := hset ▸ h.timers.clearPongDeadline
  have hfired : ∀ awaited, (s.connection = none → awaited = none) → Recovering { s with
      timers := clearTimeout s.timers (some timer.id), pongDeadlineTimer := none,
      awaitedPong := awaited } :=
    fun awaited hawaited => ⟨h.sockets, htimers, h.held,
      fun hlost => ⟨(h.quiet hlost).1, rfl, hawaited hlost⟩, h.idle, h.retrying, h.paused,
      fun hpaused => ⟨(h.inactive hpaused).1, rfl, (h.inactive hpaused).2.2⟩,
      fun hset => absurd rfl hset⟩
  unfold ControllerSession.firePongDeadline
  dsimp only
  split
  · exact (hfired none fun _ => rfl).closeForRecovery ht _ _ _
  · exact hfired s.awaitedPong fun hlost => (h.quiet hlost).2.2

/-- The retry timer starts a connection. -/
theorem fireRetry (h : s.Recovering) {timer : ScheduledTimer} (htimer : timer ∈ s.timers)
    (hcallback : timer.callback = .retry) :
    (ControllerSession.fireRetry t
      { s with timers := clearTimeout s.timers (some timer.id) }).Recovering := by
  have hset := h.timers.retries timer htimer hcallback
  have hne : s.retryTimer ≠ none := by
    rw [hset]
    exact Option.some_ne_none _
  have hlost : s.connection = none := by
    by_contra hheld
    exact hne (h.held hheld).2.1
  have henabled : s.reconnectEnabled = true := by
    by_contra hidle
    exact hne (h.idle (eq_false_of_ne_true hidle))
  unfold ControllerSession.fireRetry
  dsimp only
  rw [if_pos henabled]
  exact Lost.startConnection ⟨hlost ▸ h.sockets, hset ▸ h.timers.clearRetry, hlost, henabled, rfl⟩

theorem fire (h : s.Recovering) (ht : t.closes = true) {timer : ScheduledTimer}
    (htimer : timer ∈ s.timers) (horderly : s.Orderly (.timer timer)) :
    Ends (fun _ => False) Recovering (s.fire t timer) := by
  unfold ControllerSession.fire
  dsimp only
  cases hcallback : timer.callback with
  | nextPing => exact h.firePing ht htimer hcallback (horderly.ping timer rfl hcallback)
  | pongDeadline sequence => exact h.firePongDeadline ht htimer hcallback
  | retry => exact h.fireRetry htimer hcallback

/-- **An orderly entry keeps the session recovering.** -/
theorem runEntry (h : s.Recovering) {entry : Entry} (horderly : s.Orderly entry)
    (hdelivers : s.Delivers entry t) (henabled : s.Enabled entry) :
    Ends (fun _ => False) Recovering (s.runEntry t entry) := by
  have ht := hdelivers.closes
  cases entry with
  | connect => exact h.connect
  | disconnect => exact h.disconnect ht
  | setActive active => exact h.setActive active
  | setButton button pressed => exact h.setButton ht button pressed
  | syncButtons buttons => exact h.syncButtons ht buttons
  | timer timer => exact h.fire ht henabled horderly
  | callback g c =>
    cases c with
    | opened => exact h.handleOpen ht g
    | message data => exact h.handleMessage data henabled hdelivers horderly
    | close => exact h.handleClose henabled
    | error => exact h.handleTransportFailure ht g

/-- What recovery promises. -/
theorem recovers (h : s.Recovering) : s.Recovers where
  resumes henabled hactive _ := by
    by_cases hlost : s.connection = none
    · obtain ⟨id, hid⟩ := Option.ne_none_iff_exists'.mp (h.retrying hlost henabled hactive)
      obtain ⟨timer, htimer, -, hcallback⟩ := h.timers.pending id hid
      exact .inr ⟨timer, htimer, hcallback⟩
    · obtain ⟨g, hg⟩ := Option.ne_none_iff_exists'.mp hlost
      exact .inl ⟨g, hg, h.sockets.live g hg⟩
  waits henabled hactive hlost :=
    ⟨h.paused hlost henabled hactive, fun _ ht => h.activate_connects hlost henabled hactive ht⟩
  single := by
    rintro g g' ⟨hopened, hrequests, hended⟩ ⟨hopened', hrequests', hended'⟩
    have hg := h.sockets.closed g hopened hrequests hended
    have hg' := h.sockets.closed g' hopened' hrequests' hended'
    exact Option.some_inj.mp (hg.symm.trans hg')
  retry timer htimer hcallback := by
    have hset := h.timers.retries timer htimer hcallback
    by_contra hheld
    rw [(h.held hheld).2.1] at hset
    cases hset
  inactive hpaused := by
    obtain ⟨hping, hpong, hretry⟩ := h.inactive hpaused
    have htimers := h.timers
    rw [hping, hpong, hretry] at htimers
    exact htimers.eq_nil
  deadline timer htimer sequence hcallback := by
    refine h.deadline ?_
    rw [h.timers.deadlines timer htimer sequence hcallback]
    exact Option.some_ne_none _

end Recovering

/-- **In an orderly run the session recovers**: it has a connection or is about to try again,
has one socket at most, and its timers fit what it shows. -/
theorem recovery (h : Reachable orderlySystem s) : s.Recovers := by
  refine Recovering.recovers (h.invariant ?_ ?_)
  · rintro s ⟨options, initialSequence, rfl⟩
    exact recovering_new options initialSequence
  · rintro s ⟨entry, t⟩ s' hs ⟨horderly, hdelivers, henabled, rfl⟩
    exact ((hs.runEntry horderly hdelivers henabled).mono (fun _ hfalse => hfalse.elim)
      fun _ hs' => hs').left

/-! ### A run that is not orderly -/

/-- A step of a session that has closed no socket yet. -/
theorem recoverySystem_step (h : Reachable recoverySystem s) (hnone : s.closeRequests = [])
    {e : Entry} (henabled : s.Enabled e) :
    Reachable recoverySystem (left (s.runEntry obliging e)) := by
  refine h.step (i := (e, obliging)) ⟨⟨rfl, ?_⟩, henabled, rfl⟩
  intro g c _ _ r hr
  rw [hnone] at hr
  cases hr

/-- The session waits for the pong of its first ping. -/
def pinged : ControllerSession :=
  left (welcomeHeard.runEntry obliging (.timer ⟨0, .nextPing, 5000⟩))

/-- The desktop sends a second welcome. -/
def welcomedAgain : ControllerSession := left (pinged.runEntry obliging (.callback 1 welcome))

/-- The next ping is sent while the pong of the first is awaited. -/
def pingedAgain : ControllerSession :=
  left (welcomedAgain.runEntry obliging (.timer ⟨2, .nextPing, 5000⟩))

theorem pingedAgain_reachable : Reachable recoverySystem pingedAgain := by
  have hnew : Reachable recoverySystem (new connecting.options ⟨0, Nat.zero_le _⟩) :=
    .start ⟨_, _, rfl⟩
  have hconnecting : Reachable recoverySystem connecting :=
    recoverySystem_step hnew (e := .connect) rfl trivial
  have hwelcome : Reachable recoverySystem welcomeHeard :=
    recoverySystem_step hconnecting (e := .callback 1 welcome) rfl (List.mem_singleton_self 1)
  have hpinged : Reachable recoverySystem pinged :=
    recoverySystem_step hwelcome rfl (List.mem_singleton_self _)
  have hagain : Reachable recoverySystem welcomedAgain :=
    recoverySystem_step hpinged (e := .callback 1 welcome) rfl (List.mem_singleton_self 1)
  exact recoverySystem_step hagain rfl (List.mem_cons_of_mem _ (List.mem_singleton_self _))

/-- **A deadline that is left behind**: the session is disconnected and its timer still set. -/
theorem leaked_deadline :
    Reachable recoverySystem (left (pingedAgain.runEntry obliging .disconnect)) ∧
      ¬ Recovers (left (pingedAgain.runEntry obliging .disconnect)) := by
  refine ⟨recoverySystem_step pingedAgain_reachable rfl trivial, ?_⟩
  intro hrecovers
  have htimers : (left (pingedAgain.runEntry obliging .disconnect)).timers =
      [⟨1, .pongDeadline ⟨1, by decide⟩, 12000⟩] := rfl
  have hstatus := hrecovers.deadline _ (htimers ▸ List.mem_singleton_self _) _ rfl
  cases hstatus

/-- A session that has lost its connection waits for its retry timer. -/
theorem recovery_recovering : recovering.Recovers := by
  have hnew : Reachable orderlySystem (new connecting.options ⟨0, Nat.zero_le _⟩) :=
    .start ⟨_, _, rfl⟩
  have hstep : ∀ {s : ControllerSession} {e : Entry}, Reachable orderlySystem s →
      s.closeRequests = [] → s.ended = [] → (∀ timer, e ≠ .timer timer) → s.Enabled e →
      Reachable orderlySystem (left (s.runEntry obliging e)) := by
    intro s e h hnone hended hentry henabled
    refine h.step (i := (e, obliging)) ⟨⟨?_, ?_⟩, ⟨rfl, ?_⟩, henabled, rfl⟩
    · exact fun timer htimer => absurd htimer (hentry timer)
    · intro g _ _ _ hmem
      rw [hended] at hmem
      cases hmem
    · intro g c _ _ r hr
      rw [hnone] at hr
      cases hr
  have hconnecting : Reachable orderlySystem connecting :=
    hstep (e := .connect) hnew rfl rfl nofun trivial
  have hwelcome : Reachable orderlySystem welcomeHeard :=
    hstep (e := .callback 1 welcome) hconnecting rfl rfl nofun (List.mem_singleton_self 1)
  exact recovery (hstep (e := .callback 1 (.message (some .controllerDisconnected))) hwelcome
    rfl rfl nofun (List.mem_singleton_self 1))

end ControllerSession

end Pockiva
