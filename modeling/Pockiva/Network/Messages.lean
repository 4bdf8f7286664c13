import Pockiva.Contracts

/-! # The controller protocol

The messages between a remote controller and the desktop, and the events of an
authenticated controller.  Texts on the wire are parsed elsewhere: a value of these
types is a message that was accepted.
-/
namespace Pockiva
namespace Network

/-- JavaScript's `Number.MAX_SAFE_INTEGER`. -/
def maxSafeSequence : Nat := 9007199254740991

structure Sequence where
  value : Nat
  safe : value ≤ maxSafeSequence
deriving DecidableEq

/-- `Sequence::new`. -/
def Sequence.new (value : Nat) : Option Sequence :=
  if h : value ≤ maxSafeSequence then some ⟨value, h⟩ else none

inductive ProtocolVersion where
  | v1
deriving DecidableEq, Repr

inductive Button where
  | up
  | down
  | left
  | right
  | a
  | b
  | start
  | select
deriving DecidableEq, Repr

inductive ClientMessage where
  | hello (version : ProtocolVersion) (token : String)
  | buttonDown (button : Button) (sequence : Sequence)
  | buttonUp (button : Button) (sequence : Sequence)
  | stateSync (buttons : List Button) (sequence : Sequence)
  | ping (sequence : Sequence)
deriving DecidableEq

inductive RejectionReason where
  | invalidToken
  | unsupportedVersion
  | controllerAlreadyConnected
  | malformedMessage
deriving DecidableEq, Repr

inductive ServerMessage where
  | welcome (version : ProtocolVersion) (controllerId : String)
  | rejected (reason : RejectionReason)
  | pong (sequence : Sequence)
  | controllerDisconnected
deriving DecidableEq

/-- A token is not empty. -/
structure SessionToken where
  value : String
  nonempty : value ≠ ""
deriving DecidableEq

/-- An identifier is not empty. -/
structure ControllerConnectionId where
  value : String
  nonempty : value ≠ ""
deriving DecidableEq

/-- What the sink of controller events gets. -/
inductive ControllerEvent where
  | connected (connectionId : ControllerConnectionId) (inputSource : InputSourceId)
  | message (connectionId : ControllerConnectionId) (inputSource : InputSourceId)
      (message : ClientMessage)
  | disconnected (connectionId : ControllerConnectionId) (inputSource : InputSourceId)
deriving DecidableEq

namespace ControllerEvent

def inputSource : ControllerEvent → InputSourceId
  | connected _ inputSource => inputSource
  | message _ inputSource _ => inputSource
  | disconnected _ inputSource => inputSource

def connectionId : ControllerEvent → ControllerConnectionId
  | connected connectionId _ => connectionId
  | message connectionId _ _ => connectionId
  | disconnected connectionId _ => connectionId

end ControllerEvent

end Network

end Pockiva
