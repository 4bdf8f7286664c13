import Pockiva.Lib.Transition
import Pockiva.Lib.Turns
import Pockiva.Network.RateLimit
import Pockiva.Network.Session
import Mathlib.Logic.Function.Basic

/-! # The controller server

One task handles each WebSocket.  All tasks share the token's validity, the shutdown
signal and the claim on the session, which the handler whose hello was accepted takes
with a compare-exchange.  A handler is modelled by the point it awaits at: what lies
between two such points is one step, and every access to the shared state is a step of
its own.
-/
namespace Pockiva
namespace Network

open Transition

/-- `MAX_TEXT_BYTES`. -/
def maxTextBytes : Nat := 4096

/-- `HELLO_TIMEOUT`, in nanoseconds. -/
def helloTimeout : Nat := 5000000000

/-- `RATE_CAPACITY`. -/
def rateCapacity : Nat := 64

/-- A frame of the transport. -/
inductive Frame where
  | text (text : String)
  | binary
  | ping
  | pong
  | close
deriving DecidableEq

/-- How texts on the wire are read. -/
structure WireFormat where
  decode : String → Option ClientMessage
  /-- The version of a text that is an object of type `hello`. -/
  helloVersion : String → Option String

def parseClientFrame (wire : WireFormat) : Frame → Except RejectionReason ClientMessage
  | .text text =>
    if maxTextBytes < text.utf8ByteSize then .error .malformedMessage
    else match wire.decode text with
    | some message => .ok message
    | none =>
      match wire.helloVersion text with
      | some version =>
        if version ≠ "v1" then .error .unsupportedVersion else .error .malformedMessage
      | none => .error .malformedMessage
  | _ => .error .malformedMessage

/-- What the server was started with. -/
structure ServerConfig where
  wire : WireFormat
  token : SessionToken
  expiresAt : Nat
  inputSource : InputSourceId
  heartbeatTimeout : Nat
  inputRatePerSecond : Nat

/-- How the handler of a socket ended. -/
inductive Outcome where
  /-- The hello was rejected. -/
  | rejected (reason : RejectionReason)
  /-- The server was shut down before the hello. -/
  | stopped
  /-- The session was served and cleaned up. -/
  | served
deriving DecidableEq

/-- A handler's own state: its machine, and the shutdown signal it has seen. -/
structure Handler where
  machine : SessionMachine
  shutdownSeen : Bool

/-- Where the handler of a socket is. -/
inductive SocketState where
  | upgrading
  | awaitingHello (h : Handler) (openedAt : Nat)
  | helloReceived (h : Handler) (message : ClientMessage)
  | authenticating (h : Handler) (message : ClientMessage)
  | claiming (h : Handler) (action : SessionAction) (helloReceivedAt : Nat)
  /-- From here on the handler has the claim. -/
  | connecting (h : Handler) (action : SessionAction) (helloReceivedAt : Nat)
  | welcoming (h : Handler) (reply : ServerMessage) (helloReceivedAt : Nat)
  | looping (h : Handler) (limiter : InputRateLimiter) (lastValidMessageAt : Nat)
  | publishing (h : Handler) (limiter : InputRateLimiter) (lastValidMessageAt : Nat)
      (event : ControllerEvent)
  | replying (h : Handler) (limiter : InputRateLimiter) (lastValidMessageAt : Nat)
      (reply : ServerMessage)
  | cleaning (machine : SessionMachine)
  | releasing
  | finished (outcome : Outcome)

/-- What handlers share. -/
structure SharedState where
  /-- The clock, in nanoseconds. -/
  now : Nat
  tokenValid : Bool
  shutdown : Bool
  controllerClaimed : Bool

/-- What a handler does to the claim and to the sink. -/
abbrev Effect := Turns.Action ControllerEvent

variable (config : ServerConfig)

/-- One pass of `run_message_loop` with a frame, up to the next await. -/
def SocketState.receive (h : Handler) (limiter : InputRateLimiter) (frame : Frame) (now : Nat) :
    SocketState :=
  if frame = .close then .cleaning h.machine
  else match parseClientFrame config.wire frame with
  | .error _ => .cleaning h.machine
  | .ok message =>
    match limiter.allow now with
    | (false, _) => .cleaning h.machine
    | (true, limiter) =>
      match h.machine.apply message with
      | (.error _, machine) => .cleaning machine
      | (.ok (.input event), machine) => .publishing { h with machine := machine } limiter now event
      | (.ok (.reply reply), machine) => .replying { h with machine := machine } limiter now reply
      | (.ok _, machine) => .cleaning machine

/-- One step of `handle_socket`, with its effect on the claim or the sink. -/
inductive HandlerStep (shared : SharedState) :
    SocketState → Option Effect → SocketState → Prop where
  | identify (connectionId : ControllerConnectionId) :
    HandlerStep shared .upgrading none
      (.awaitingHello
        ⟨.new config.token connectionId config.inputSource config.expiresAt, shared.shutdown⟩
        shared.now)
  /-- No entropy for an identifier. -/
  | unidentified : HandlerStep shared .upgrading none (.finished (.rejected .malformedMessage))
  | shutdownBeforeHello {h : Handler} {openedAt : Nat}
      (hshutdown : shared.shutdown ≠ h.shutdownSeen) :
    HandlerStep shared (.awaitingHello h openedAt) none (.finished .stopped)
  | helloTimeout {h : Handler} {openedAt : Nat} (hdeadline : openedAt + helloTimeout ≤ shared.now) :
    HandlerStep shared (.awaitingHello h openedAt) none (.finished (.rejected .malformedMessage))
  /-- The stream ended or failed before the first frame. -/
  | noHello {h : Handler} {openedAt : Nat} :
    HandlerStep shared (.awaitingHello h openedAt) none (.finished (.rejected .malformedMessage))
  | unparsed {h : Handler} {openedAt : Nat} {frame : Frame} {reason : RejectionReason}
      (hparse : parseClientFrame config.wire frame = .error reason) :
    HandlerStep shared (.awaitingHello h openedAt) none (.finished (.rejected reason))
  | parsed {h : Handler} {openedAt : Nat} {frame : Frame} {message : ClientMessage}
      (hparse : parseClientFrame config.wire frame = .ok message) :
    HandlerStep shared (.awaitingHello h openedAt) none (.helloReceived h message)
  | tokenInvalid {h : Handler} {message : ClientMessage} (htoken : shared.tokenValid = false) :
    HandlerStep shared (.helloReceived h message) none (.finished (.rejected .invalidToken))
  | tokenValid {h : Handler} {message : ClientMessage} (htoken : shared.tokenValid = true) :
    HandlerStep shared (.helloReceived h message) none (.authenticating h message)
  | helloRejected {h : Handler} {message : ClientMessage} {e : SessionError}
      {machine : SessionMachine}
      (hhello : h.machine.acceptHello message shared.now = (.error e, machine)) :
    HandlerStep shared (.authenticating h message) none (.finished (.rejected e.rejectionReason))
  | helloAccepted {h : Handler} {message : ClientMessage} {action : SessionAction}
      {machine : SessionMachine}
      (hhello : h.machine.acceptHello message shared.now = (.ok action, machine)) :
    HandlerStep shared (.authenticating h message) none
      (.claiming { h with machine := machine } action shared.now)
  | alreadyConnected {h : Handler} {action : SessionAction} {since : Nat}
      (hclaimed : shared.controllerClaimed = true) :
    HandlerStep shared (.claiming h action since) none
      (.finished (.rejected .controllerAlreadyConnected))
  | claim {h : Handler} {action : SessionAction} {since : Nat}
      (hclaimed : shared.controllerClaimed = false) :
    HandlerStep shared (.claiming h action since) (some .enter) (.connecting h action since)
  /-- The accepted hello did not ask to connect. -/
  | unconnected {h : Handler} {action : SessionAction} {since : Nat}
      (haction : ∀ reply event, action ≠ .connected reply event) :
    HandlerStep shared (.connecting h action since) (some .leave)
      (.finished (.rejected .malformedMessage))
  | connected {h : Handler} {reply : ServerMessage} {event : ControllerEvent} {since : Nat} :
    HandlerStep shared (.connecting h (.connected reply event) since) (some (.act event))
      (.welcoming h reply since)
  /-- The sink fails on the `Connected`. -/
  | unpublished {h : Handler} {reply : ServerMessage} {event : ControllerEvent} {since : Nat} :
    HandlerStep shared (.connecting h (.connected reply event) since) (some (.act event))
      (.cleaning h.machine)
  | welcomed {h : Handler} {reply : ServerMessage} {since : Nat} :
    HandlerStep shared (.welcoming h reply since) none
      (.looping h (.new config.inputRatePerSecond rateCapacity shared.now) since)
  | unwelcomed {h : Handler} {reply : ServerMessage} {since : Nat} :
    HandlerStep shared (.welcoming h reply since) none (.cleaning h.machine)
  | shutdown {h : Handler} {limiter : InputRateLimiter} {since : Nat}
      (hshutdown : shared.shutdown ≠ h.shutdownSeen) :
    HandlerStep shared (.looping h limiter since) none (.cleaning h.machine)
  | heartbeatTimeout {h : Handler} {limiter : InputRateLimiter} {since : Nat}
      (hdeadline : since + config.heartbeatTimeout ≤ shared.now) :
    HandlerStep shared (.looping h limiter since) none (.cleaning h.machine)
  /-- The stream ended or failed. -/
  | ended {h : Handler} {limiter : InputRateLimiter} {since : Nat} :
    HandlerStep shared (.looping h limiter since) none (.cleaning h.machine)
  | received {h : Handler} {limiter : InputRateLimiter} {since : Nat} (frame : Frame) :
    HandlerStep shared (.looping h limiter since) none
      (.receive config h limiter frame shared.now)
  | published {h : Handler} {limiter : InputRateLimiter} {since : Nat} {event : ControllerEvent} :
    HandlerStep shared (.publishing h limiter since event) (some (.act event))
      (.looping h limiter since)
  /-- The sink fails on the message. -/
  | inputUnpublished {h : Handler} {limiter : InputRateLimiter} {since : Nat}
      {event : ControllerEvent} :
    HandlerStep shared (.publishing h limiter since event) (some (.act event)) (.cleaning h.machine)
  | replied {h : Handler} {limiter : InputRateLimiter} {since : Nat} {reply : ServerMessage} :
    HandlerStep shared (.replying h limiter since reply) none (.looping h limiter since)
  | unreplied {h : Handler} {limiter : InputRateLimiter} {since : Nat} {reply : ServerMessage} :
    HandlerStep shared (.replying h limiter since reply) none (.cleaning h.machine)
  /-- The disconnect of `cleanup_connection`, whether the sink accepts it or not. -/
  | cleanup {machine : SessionMachine} :
    HandlerStep shared (.cleaning machine) (machine.disconnect.1.map .act) .releasing
  | release : HandlerStep shared .releasing (some .leave) (.finished .served)

/-- The claim after an effect. -/
def claimAfter (claimed : Bool) : Effect → Bool
  | .enter => true
  | .act _ => claimed
  | .leave => false

structure ControllerServer where
  shared : SharedState
  sockets : Nat → SocketState
  /-- Not in the source: the effects of all handlers, in order. -/
  effects : List (Nat × Effect)

namespace ControllerServer

def started (now : Nat) : ControllerServer where
  shared := ⟨now, true, false, false⟩
  sockets _ := .upgrading
  effects := []

/-- The events handed to the sink, with the sockets whose handlers did. -/
def handed (s : ControllerServer) : List (Nat × ControllerEvent) :=
  Turns.acts s.effects

/-- The server once a handler took a step. -/
def after (s : ControllerServer) (i : Nat) (effect : Option Effect) (socket : SocketState) :
    ControllerServer where
  shared := { s.shared with
    controllerClaimed :=
      effect.elim s.shared.controllerClaimed (claimAfter s.shared.controllerClaimed) }
  sockets := Function.update s.sockets i socket
  effects := s.effects ++ effect.toList.map (i, ·)

inductive Label where
  | elapse (duration : Nat)
  | invalidateToken
  | signalShutdown
  | handler (i : Nat)

inductive Step (s : ControllerServer) : Label → ControllerServer → Prop where
  | elapse (duration : Nat) :
    Step s (.elapse duration) { s with shared := { s.shared with now := s.shared.now + duration } }
  | invalidateToken :
    Step s .invalidateToken { s with shared := { s.shared with tokenValid := false } }
  /-- The token is invalid before the handlers are told. -/
  | signalShutdown (htoken : s.shared.tokenValid = false) :
    Step s .signalShutdown { s with shared := { s.shared with shutdown := true } }
  | handler {i : Nat} {effect : Option Effect} {socket : SocketState}
      (hstep : HandlerStep config s.shared (s.sockets i) effect socket) :
    Step s (.handler i) (s.after i effect socket)

/-- A server from its start on, with any number of sockets. -/
def system : System ControllerServer Label where
  start s := ∃ now, s = started now
  step := Step config

end ControllerServer

end Network

end Pockiva
