import Pockiva.Network.Messages

/-! # The session of one connection

A session machine authenticates the first frame of its connection and then accepts
messages whose sequence numbers follow each other.
-/
namespace Pockiva
namespace Network

inductive SessionAction where
  | connected (reply : ServerMessage) (event : ControllerEvent)
  | input (event : ControllerEvent)
  | reply (message : ServerMessage)
  | none
deriving DecidableEq

structure SessionError where
  rejectionReason : RejectionReason
deriving DecidableEq, Repr

inductive AuthenticationState where
  | awaitingHello
  | authenticated
deriving DecidableEq, Repr

structure SessionMachine where
  token : SessionToken
  connectionId : ControllerConnectionId
  inputSource : InputSourceId
  expiresAt : Nat
  authentication : AuthenticationState
  lastSequence : Option Sequence
  emittedDisconnect : Bool
deriving DecidableEq

def messageSequence : ClientMessage → Option Sequence
  | .buttonDown _ sequence => some sequence
  | .buttonUp _ sequence => some sequence
  | .stateSync _ sequence => some sequence
  | .ping sequence => some sequence
  | .hello _ _ => none

/-- The number that follows, which wraps to 0 after the greatest. -/
def expectedAfter (previous : Sequence) : Nat :=
  if previous.value = maxSafeSequence then 0 else previous.value + 1

namespace SessionMachine

def new (token : SessionToken) (connectionId : ControllerConnectionId)
    (inputSource : InputSourceId) (expiresAt : Nat) : SessionMachine where
  token := token
  connectionId := connectionId
  inputSource := inputSource
  expiresAt := expiresAt
  authentication := .awaitingHello
  lastSequence := none
  emittedDisconnect := false

/-- The event and the reply of an accepted hello. -/
def connectedAction (m : SessionMachine) : SessionAction :=
  .connected (.welcome .v1 m.connectionId.value) (.connected m.connectionId m.inputSource)

def acceptHello (m : SessionMachine) (message : ClientMessage) (receivedAt : Nat) :
    Except SessionError SessionAction × SessionMachine :=
  if m.authentication ≠ .awaitingHello then (.error ⟨.malformedMessage⟩, m)
  else match message with
  | .hello version token =>
    if m.expiresAt ≤ receivedAt ∨ token ≠ m.token.value then (.error ⟨.invalidToken⟩, m)
    else if version ≠ .v1 then (.error ⟨.unsupportedVersion⟩, m)
    else (.ok m.connectedAction, { m with authentication := .authenticated })
  | _ => (.error ⟨.malformedMessage⟩, m)

/-- The sequence number does not follow the last one. -/
def OutOfSequence (m : SessionMachine) (sequence : Sequence) : Prop :=
  ∃ previous ∈ m.lastSequence, sequence.value ≠ expectedAfter previous

instance (m : SessionMachine) (sequence : Sequence) : Decidable (m.OutOfSequence sequence) :=
  inferInstanceAs (Decidable (∃ previous ∈ m.lastSequence, _))

/-- What an accepted message asks for. -/
def actionOf (m : SessionMachine) : ClientMessage → SessionAction
  | .ping sequence => .reply (.pong sequence)
  | message => .input (.message m.connectionId m.inputSource message)

def apply (m : SessionMachine) (message : ClientMessage) :
    Except SessionError SessionAction × SessionMachine :=
  if m.authentication ≠ .authenticated then (.error ⟨.malformedMessage⟩, m)
  else match messageSequence message with
  | none => (.error ⟨.malformedMessage⟩, m)
  | some sequence =>
    if m.OutOfSequence sequence then (.error ⟨.malformedMessage⟩, m)
    else (.ok (m.actionOf message), { m with lastSequence := some sequence })

def disconnect (m : SessionMachine) : Option ControllerEvent × SessionMachine :=
  if m.authentication ≠ .authenticated ∨ m.emittedDisconnect = true then (none, m)
  else
    (some (.disconnected m.connectionId m.inputSource), { m with emittedDisconnect := true })

/-- The hello was accepted and no disconnect was emitted yet. -/
def Open (m : SessionMachine) : Prop :=
  m.authentication = .authenticated ∧ m.emittedDisconnect = false

/-- No hello was accepted yet. -/
def Awaiting (m : SessionMachine) : Prop :=
  m.authentication = .awaitingHello ∧ m.emittedDisconnect = false

theorem awaiting_new (token : SessionToken) (connectionId : ControllerConnectionId)
    (inputSource : InputSourceId) (expiresAt : Nat) :
    (new token connectionId inputSource expiresAt).Awaiting := ⟨rfl, rfl⟩

variable {m m' : SessionMachine} {message : ClientMessage} {action : SessionAction}

/-- An accepted hello opens the session. -/
theorem acceptHello_ok {receivedAt : Nat}
    (h : m.acceptHello message receivedAt = (.ok action, m')) :
    action = m.connectedAction ∧ m' = { m with authentication := .authenticated } := by
  unfold acceptHello at h
  split at h
  · cases h
  · split at h
    · split at h
      · cases h
      · split at h
        · cases h
        · cases h
          exact ⟨rfl, rfl⟩
    · cases h

theorem Awaiting.acceptHello_ok (hm : m.Awaiting) {receivedAt : Nat}
    (h : m.acceptHello message receivedAt = (.ok action, m')) :
    m'.Open ∧ action = m'.connectedAction := by
  obtain ⟨rfl, rfl⟩ := SessionMachine.acceptHello_ok h
  exact ⟨⟨rfl, hm.2⟩, rfl⟩

/-- What `apply` answers, and with which machine. -/
theorem apply_cases (m : SessionMachine) (message : ClientMessage) :
    (∃ e, m.apply message = (.error e, m)) ∨
    ∃ sequence, m.authentication = .authenticated ∧ messageSequence message = some sequence ∧
      ¬ m.OutOfSequence sequence ∧
      m.apply message = (.ok (m.actionOf message), { m with lastSequence := some sequence }) := by
  unfold apply
  split
  · exact .inl ⟨_, rfl⟩
  · rename_i hauthenticated
    split
    · exact .inl ⟨_, rfl⟩
    · rename_i sequence hsequence
      split
      · exact .inl ⟨_, rfl⟩
      · rename_i hnext
        exact .inr ⟨sequence, not_not.mp hauthenticated, hsequence, hnext, rfl⟩

/-- An open session emits one disconnect. -/
theorem Open.disconnect (hm : m.Open) :
    m.disconnect.1 = some (.disconnected m.connectionId m.inputSource) := by
  unfold SessionMachine.disconnect
  rw [if_neg (by simp [hm.1, hm.2])]

end SessionMachine

end Network

end Pockiva
