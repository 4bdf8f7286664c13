import Pockiva.Lib.Throwing
import Pockiva.Lib.Transition
import Pockiva.Network.Messages
import Mathlib.Data.Finset.Erase
import Mathlib.Data.Finset.Insert

/-! # The session of the remote controller's page

The page's session keeps the buttons the player wants held and a connection to the
desktop.  Its methods, its timers and the callbacks of its sockets each run to their end
before the next one starts.  A socket is named by the generation its handlers were given.

A transport may refuse to connect, throw on `send` and throw on `close`: an exception of
`close` is not caught and ends the method, which keeps what it did to the session before.
-/
namespace Pockiva

open Network (ClientMessage ServerMessage RejectionReason Sequence maxSafeSequence)

/-- The order buttons are sent in. -/
def buttonOrder : List Network.Button := [.up, .down, .left, .right, .a, .b, .start, .select]

theorem mem_buttonOrder (button : Network.Button) : button ∈ buttonOrder := by
  cases button <;> decide

inductive SessionStatus where
  | connecting
  | connected
  | disconnected
  | expiredToken
  | incompatibleProtocol
  | controllerInUse
  | serverUnavailable
deriving DecidableEq, Repr

structure SessionSnapshot where
  status : SessionStatus
  controllerId : Option String
  pressedButtons : Finset Network.Button
  reconnectAttempt : Nat
deriving DecidableEq

def rejectionStatuses : RejectionReason → SessionStatus
  | .invalidToken => .expiredToken
  | .unsupportedVersion => .incompatibleProtocol
  | .controllerAlreadyConnected => .controllerInUse
  | .malformedMessage => .serverUnavailable

/-- A reason as it is written on the wire. -/
def rejectionText : RejectionReason → String
  | .invalidToken => "invalid-token"
  | .unsupportedVersion => "unsupported-version"
  | .controllerAlreadyConnected => "controller-already-connected"
  | .malformedMessage => "malformed-message"

/-- What a timer does when it fires. -/
inductive TimerCallback where
  | nextPing
  | pongDeadline (sequence : Sequence)
  | retry
deriving DecidableEq

structure ScheduledTimer where
  id : Nat
  callback : TimerCallback
  delayMs : Nat
deriving DecidableEq

structure ControllerSessionOptions where
  /-- The token of the pairing. -/
  token : String
  heartbeatIntervalMs : Nat := 5000
  heartbeatTimeoutMs : Nat := 12000
  reconnectDelaysMs : List Nat := [0, 500, 1000, 2000, 5000]
deriving DecidableEq

/-- A message that was sent, and the buttons the player wanted held then. -/
structure SentMessage where
  socket : Nat
  message : ClientMessage
  desired : Finset Network.Button
deriving DecidableEq

/-- `connection.close(code, reason)`. -/
structure CloseRequest where
  socket : Nat
  code : Nat
  reason : String
deriving DecidableEq, Repr

structure ControllerSession where
  options : ControllerSessionOptions
  desiredButtons : Finset Network.Button
  snapshot : SessionSnapshot
  connection : Option Nat
  generation : Nat
  active : Bool
  reconnectEnabled : Bool
  recoveryPending : Bool
  retryIndex : Nat
  nextSequence : Sequence
  awaitedPong : Option Sequence
  nextPingTimer : Option Nat
  pongDeadlineTimer : Option Nat
  retryTimer : Option Nat
  /-- The scheduler: the timers that are set, and the number of the next one. -/
  timers : List ScheduledTimer
  nextTimer : Nat
  /-- The transport: the sockets there are, what was sent on them, which of them the
  session closed, and which told that they are closed. -/
  opened : List Nat
  sent : List SentMessage
  closeRequests : List CloseRequest
  ended : List Nat
deriving DecidableEq

/-- What the transport does when it is asked: `false` is an exception. -/
structure TransportAnswers where
  connects : Bool
  sends : Bool
  closes : Bool
deriving DecidableEq, Repr

namespace ControllerSession

/-- The constructor, for an initial sequence it accepts. -/
def new (options : ControllerSessionOptions) (initialSequence : Sequence) : ControllerSession where
  options := options
  desiredButtons := ∅
  snapshot := ⟨.disconnected, none, ∅, 0⟩
  connection := none
  generation := 0
  active := true
  reconnectEnabled := false
  recoveryPending := false
  retryIndex := 0
  nextSequence := initialSequence
  awaitedPong := none
  nextPingTimer := none
  pongDeadlineTimer := none
  retryTimer := none
  timers := []
  nextTimer := 0
  opened := []
  sent := []
  closeRequests := []
  ended := []

/-- A method that may throw. -/
abbrev Method (α : Type) := Except ControllerSession α

/-! ## Snapshot, sequence and timers -/

def publish (s : ControllerSession) (overrides : SessionSnapshot → SessionSnapshot) :
    ControllerSession :=
  { s with snapshot := { overrides s.snapshot with pressedButtons := s.desiredButtons } }

/-- `publish` while a connection is being set up. -/
def publishConnecting (s : ControllerSession) : ControllerSession :=
  s.publish fun shown =>
    { shown with status := .connecting, controllerId := none, reconnectAttempt := s.retryIndex }

/-- The number after a sequence number. -/
def sequenceAfter (sequence : Sequence) : Sequence :=
  if h : sequence.value = maxSafeSequence then ⟨0, Nat.zero_le _⟩
  else ⟨sequence.value + 1, by have := sequence.safe; omega⟩

/-- `takeSequence`: the number taken is `nextSequence`. -/
def takeSequence (s : ControllerSession) : ControllerSession :=
  { s with nextSequence := sequenceAfter s.nextSequence }

/-- `setTimeout`: the timer gets the number `nextTimer`. -/
def setTimeout (s : ControllerSession) (callback : TimerCallback) (delayMs : Nat) :
    ControllerSession :=
  { s with
    timers := s.timers ++ [⟨s.nextTimer, callback, delayMs⟩]
    nextTimer := s.nextTimer + 1 }

/-- `clearTimeout`: a timer that is set is cleared; no timer is no error. -/
def clearTimeout (timers : List ScheduledTimer) (timer : Option Nat) : List ScheduledTimer :=
  timers.filter fun t => timer ≠ some t.id

def clearPongDeadline (s : ControllerSession) : ControllerSession :=
  { s with timers := clearTimeout s.timers s.pongDeadlineTimer, pongDeadlineTimer := none }

def cancelHeartbeat (s : ControllerSession) : ControllerSession :=
  { s with
    timers := clearTimeout (clearTimeout s.timers s.nextPingTimer) s.pongDeadlineTimer
    nextPingTimer := none
    pongDeadlineTimer := none
    awaitedPong := none }

def cancelRetry (s : ControllerSession) : ControllerSession :=
  { s with timers := clearTimeout s.timers s.retryTimer, retryTimer := none }

def cancelAllTimers (s : ControllerSession) : ControllerSession := s.cancelHeartbeat.cancelRetry

/-! ## Recovery -/

/-- `connection?.close(code, reason)`. -/
def closeConnection (t : TransportAnswers) (s : ControllerSession) (connection : Option Nat)
    (code : Nat) (reason : String) : Method ControllerSession :=
  match connection with
  | none => .ok s
  | some socket =>
    if t.closes then .ok { s with closeRequests := s.closeRequests ++ [⟨socket, code, reason⟩] }
    else .error s

/-- Recovery waits until the session is active. -/
def pauseRecovery (s : ControllerSession) : ControllerSession :=
  { s with recoveryPending := true }.publishConnecting

/-- No delay is left. -/
def giveUp (s : ControllerSession) : ControllerSession :=
  { s with reconnectEnabled := false }.publish fun shown =>
    { shown with
      status := .serverUnavailable, controllerId := none, reconnectAttempt := s.retryIndex }

def retryAfter (s : ControllerSession) (delayMs : Nat) : ControllerSession :=
  let s := { s with retryIndex := s.retryIndex + 1 }.publishConnecting
  { s.setTimeout .retry delayMs with retryTimer := some s.nextTimer }

def scheduleRetry (s : ControllerSession) (generation : Nat) : ControllerSession :=
  if generation ≠ s.generation ∨ s.reconnectEnabled = false ∨ s.retryTimer ≠ none then s
  else if s.active = false then s.cancelHeartbeat.pauseRecovery
  else match s.options.reconnectDelaysMs[s.retryIndex]? with
  | none => s.cancelHeartbeat.giveUp
  | some delayMs => s.cancelHeartbeat.retryAfter delayMs

def handleTransportFailure (t : TransportAnswers) (s : ControllerSession) (generation : Nat) :
    Method ControllerSession :=
  if generation ≠ s.generation ∨ s.reconnectEnabled = false then .ok s
  else do
    let s ← closeConnection t { s with connection := none } s.connection 1011 "transport-error"
    return s.scheduleRetry generation

def closeForRecovery (t : TransportAnswers) (s : ControllerSession) (code : Nat) (reason : String)
    (generation : Nat) : Method ControllerSession :=
  if generation ≠ s.generation ∨ s.reconnectEnabled = false then .ok s
  else do
    let s ← closeConnection t { s with connection := none } s.connection code reason
    return s.scheduleRetry generation

/-- The session wants no connection any more and lets go of the one it has. -/
def stopped (s : ControllerSession) : ControllerSession :=
  let s := { s with reconnectEnabled := false, recoveryPending := false }.cancelAllTimers
  { s with connection := none }

/-- What `failTerminal` does before it closes the connection. -/
def failed (s : ControllerSession) (status : SessionStatus) : ControllerSession :=
  s.stopped.publish fun shown => { shown with status := status, controllerId := none }

def failTerminal (t : TransportAnswers) (s : ControllerSession) (status : SessionStatus)
    (code : Nat) (reason : String) : Method ControllerSession :=
  closeConnection t (s.failed status) s.connection code reason

/-- Whether the message was sent. -/
def sendClient (t : TransportAnswers) (s : ControllerSession) (message : ClientMessage) :
    Method (Bool × ControllerSession) :=
  match s.connection with
  | none => .ok (false, s)
  | some socket =>
    if t.sends then .ok (true, { s with sent := s.sent ++ [⟨socket, message, s.desiredButtons⟩] })
    else do
      let s ← s.handleTransportFailure t s.generation
      return (false, s)

def sendStateSync (t : TransportAnswers) (s : ControllerSession) :
    Method (Bool × ControllerSession) :=
  let buttons := buttonOrder.filter fun button => button ∈ s.desiredButtons
  s.takeSequence.sendClient t (.stateSync buttons s.nextSequence)

def startConnection (t : TransportAnswers) (s : ControllerSession) : ControllerSession :=
  let s := s.cancelHeartbeat
  if s.active = false then s.pauseRecovery
  else
    let s := { s with generation := s.generation + 1 }.publishConnecting
    if t.connects then
      { s with connection := some s.generation, opened := s.opened ++ [s.generation] }
    else { s with connection := none }.scheduleRetry s.generation

def scheduleNextPing (s : ControllerSession) : ControllerSession :=
  if s.active = false ∨ s.snapshot.status ≠ .connected then s
  else
    let s := { s with timers := clearTimeout s.timers s.nextPingTimer }
    { s.setTimeout .nextPing s.options.heartbeatIntervalMs with nextPingTimer := some s.nextTimer }

/-! ## The methods of the page -/

def connect (t : TransportAnswers) (s : ControllerSession) : ControllerSession :=
  if s.snapshot.status = .connecting ∨ s.snapshot.status = .connected then s
  else
    let s := { s with reconnectEnabled := true, retryIndex := 0 }.cancelRetry
    s.startConnection t

/-- `setActive(false)` on an active session. -/
def deactivate (s : ControllerSession) : ControllerSession :=
  let interrupted := s.reconnectEnabled = true ∧ (s.retryTimer ≠ none ∨ s.connection = none)
  let s := { s with active := false, recoveryPending := interrupted ∨ s.recoveryPending = true }
  s.cancelAllTimers

/-- `setActive(true)` on an inactive session. -/
def activate (t : TransportAnswers) (s : ControllerSession) : ControllerSession :=
  let s := { s with active := true }
  if s.reconnectEnabled = false then s
  else if s.snapshot.status = .connected ∧ s.connection ≠ none then s.scheduleNextPing
  else if s.recoveryPending = false ∨ s.connection ≠ none ∨ s.retryTimer ≠ none then s
  else startConnection t { s with recoveryPending := false }

def setActive (t : TransportAnswers) (s : ControllerSession) (active : Bool) : ControllerSession :=
  if s.active = active then s
  else if active = false then s.deactivate
  else s.activate t

/-- Other buttons are wanted, and shown. -/
def desire (s : ControllerSession) (wanted : Finset Network.Button) : ControllerSession :=
  { s with desiredButtons := wanted }.publish id

def syncButtons (t : TransportAnswers) (s : ControllerSession) (buttons : List Network.Button) :
    Method ControllerSession :=
  let s := s.desire (buttonOrder.filter fun button => button ∈ buttons).toFinset
  if s.snapshot.status = .connected then do
    let (_, s) ← s.sendStateSync t
    return s
  else .ok s

/-- The buttons wanted after one is pressed or released. -/
def wantedAfter (wanted : Finset Network.Button) (button : Network.Button) (pressed : Bool) :
    Finset Network.Button :=
  if pressed then insert button wanted else wanted.erase button

def buttonMessage (button : Network.Button) (pressed : Bool) (sequence : Sequence) :
    ClientMessage :=
  if pressed then .buttonDown button sequence else .buttonUp button sequence

def setButton (t : TransportAnswers) (s : ControllerSession) (button : Network.Button)
    (pressed : Bool) : Method ControllerSession :=
  if pressed = decide (button ∈ s.desiredButtons) then .ok s
  else
    let s := s.desire (wantedAfter s.desiredButtons button pressed)
    if s.snapshot.status = .connected then do
      let (_, s) ← s.takeSequence.sendClient t (buttonMessage button pressed s.nextSequence)
      return s
    else .ok s

/-- What `disconnect` does last. -/
def disconnected (s : ControllerSession) : ControllerSession :=
  { s with generation := s.generation + 1, retryIndex := 0 }.publish fun shown =>
    { shown with status := .disconnected, controllerId := none, reconnectAttempt := 0 }

/-- What `disconnect` does first: nothing is wanted any more, and the desktop is told. -/
def releaseButtons (t : TransportAnswers) (s : ControllerSession) : Method ControllerSession :=
  if s.snapshot.status = .connected then s.syncButtons t []
  else .ok { s with desiredButtons := ∅ }

def disconnect (t : TransportAnswers) (s : ControllerSession) : Method ControllerSession := do
  let s ← s.releaseButtons t
  let s ← closeConnection t s.stopped s.connection 1000 "client-disconnect"
  return s.disconnected

/-! ## The callbacks of a socket -/

def handleOpen (t : TransportAnswers) (s : ControllerSession) (generation : Nat) :
    Method ControllerSession :=
  if generation ≠ s.generation then .ok s
  else do
    let (_, s) ← s.sendClient t (.hello .v1 s.options.token)
    return s

def handlePong (s : ControllerSession) (sequence : Sequence) : ControllerSession :=
  if s.snapshot.status ≠ .connected ∨ s.awaitedPong ≠ some sequence then s
  else { s with awaitedPong := none }.clearPongDeadline.scheduleNextPing

/-- A session that got a welcome. -/
def welcomed (s : ControllerSession) (controllerId : String) : ControllerSession :=
  { s with retryIndex := 0, recoveryPending := false }.publish fun shown =>
    { shown with status := .connected, controllerId := some controllerId, reconnectAttempt := 0 }

/-- The data is a message, or cannot be parsed as one. -/
def handleMessage (t : TransportAnswers) (s : ControllerSession) (generation : Nat)
    (data : Option ServerMessage) : Method ControllerSession :=
  if generation ≠ s.generation then .ok s
  else match data with
  | none => s.failTerminal t .incompatibleProtocol 1002 "invalid-server-message"
  | some (.welcome _ controllerId) => do
    let (sent, s) ← (s.welcomed controllerId).sendStateSync t
    return if sent then s.scheduleNextPing else s
  | some (.rejected reason) =>
    s.failTerminal t (rejectionStatuses reason) 1000 ("rejected:" ++ rejectionText reason)
  | some (.pong sequence) => .ok (s.handlePong sequence)
  | some .controllerDisconnected => s.closeForRecovery t 4001 "server-disconnected" generation

def handleClose (s : ControllerSession) (generation : Nat) : ControllerSession :=
  if generation ≠ s.generation then s
  else { s with connection := none }.cancelHeartbeat.scheduleRetry generation

/-! ## Timers -/

/-- The session that waits for the pong of the ping it is about to send. -/
def awaitPong (s : ControllerSession) : ControllerSession :=
  let sequence := s.nextSequence
  let s := { s.takeSequence with awaitedPong := some sequence }
  { s.setTimeout (.pongDeadline sequence) s.options.heartbeatTimeoutMs with
    pongDeadlineTimer := some s.nextTimer }

def firePing (t : TransportAnswers) (s : ControllerSession) : Method ControllerSession :=
  let s := { s with nextPingTimer := none }
  if s.snapshot.status ≠ .connected then .ok s
  else do
    let (_, pinged) ← s.awaitPong.sendClient t (.ping s.nextSequence)
    return pinged

def firePongDeadline (t : TransportAnswers) (s : ControllerSession) (sequence : Sequence) :
    Method ControllerSession :=
  let s := { s with pongDeadlineTimer := none }
  if s.awaitedPong = some sequence then
    closeForRecovery t { s with awaitedPong := none } 4000 "heartbeat-timeout" s.generation
  else .ok s

def fireRetry (t : TransportAnswers) (s : ControllerSession) : ControllerSession :=
  let s := { s with retryTimer := none }
  if s.reconnectEnabled then s.startConnection t else s

def fire (t : TransportAnswers) (s : ControllerSession) (timer : ScheduledTimer) :
    Method ControllerSession :=
  let s := { s with timers := clearTimeout s.timers (some timer.id) }
  match timer.callback with
  | .nextPing => s.firePing t
  | .pongDeadline sequence => s.firePongDeadline t sequence
  | .retry => .ok (s.fireRetry t)

/-! ## Runs -/

inductive Callback where
  | opened
  | message (data : Option ServerMessage)
  | close
  | error
deriving DecidableEq

/-- What runs next. -/
inductive Entry where
  | connect
  | disconnect
  | setActive (active : Bool)
  | setButton (button : Network.Button) (pressed : Bool)
  | syncButtons (buttons : List Network.Button)
  | timer (timer : ScheduledTimer)
  | callback (socket : Nat) (callback : Callback)

def runCallback (t : TransportAnswers) (s : ControllerSession) (socket : Nat) :
    Callback → Method ControllerSession
  | .opened => s.handleOpen t socket
  | .message data => s.handleMessage t socket data
  | .close => .ok (handleClose { s with ended := s.ended ++ [socket] } socket)
  | .error => s.handleTransportFailure t socket

def runEntry (t : TransportAnswers) (s : ControllerSession) : Entry → Method ControllerSession
  | .connect => .ok (s.connect t)
  | .disconnect => s.disconnect t
  | .setActive active => .ok (s.setActive t active)
  | .setButton button pressed => s.setButton t button pressed
  | .syncButtons buttons => s.syncButtons t buttons
  | .timer timer => s.fire t timer
  | .callback socket callback => s.runCallback t socket callback

/-- Timers fire while they are set, and callbacks come from sockets there are. -/
def Enabled (s : ControllerSession) : Entry → Prop
  | .timer timer => timer ∈ s.timers
  | .callback socket _ => socket ∈ s.opened
  | _ => True

/-- A session from its construction on, over any transport. -/
def system : Transition.System ControllerSession (Entry × TransportAnswers) where
  start s := ∃ options initialSequence, s = new options initialSequence
  step s label s' := s.Enabled label.1 ∧ s' = Throwing.left (s.runEntry label.2 label.1)

end ControllerSession

end Pockiva
