import Pockiva.Lib.Transition
import Pockiva.Network.Session
import Mathlib.Data.List.Chain

/-! # The streams a session machine accepts

Once its hello is accepted, a machine accepts exactly the streams of messages whose sequence
numbers follow each other modulo `2 ^ 53`, whatever the first of them is.  What it rejects
leaves it as it was.
-/
namespace Pockiva
namespace Network

/-- The numbers follow each other, with the greatest followed by 0. -/
def Consecutive (sequences : List Sequence) : Prop :=
  sequences.IsChain fun previous next => next.value = (previous.value + 1) % 2 ^ 53

theorem expectedAfter_eq (previous : Sequence) :
    expectedAfter previous = (previous.value + 1) % 2 ^ 53 := by
  have hsafe := previous.safe
  unfold expectedAfter
  unfold maxSafeSequence at hsafe ⊢
  split <;> omega

namespace SessionMachine

/-- What a connection asks of its machine. -/
inductive Call where
  | acceptHello (message : ClientMessage) (receivedAt : Nat)
  | apply (message : ClientMessage)
  | disconnect

/-- The machine after a call, whatever it answers. -/
def after (m : SessionMachine) : Call → SessionMachine
  | .acceptHello message receivedAt => (m.acceptHello message receivedAt).2
  | .apply message => (m.apply message).2
  | .disconnect => m.disconnect.2

/-- A machine from its construction on. -/
def system : Transition.System SessionMachine Call where
  start m := ∃ token connectionId inputSource expiresAt,
    m = new token connectionId inputSource expiresAt
  step m call m' := m' = m.after call

/-- The machine accepts one message after the other. -/
def Accepts : SessionMachine → List ClientMessage → Prop
  | _, [] => True
  | m, message :: rest => ∃ action m', m.apply message = (.ok action, m') ∧ m'.Accepts rest

variable {m m' : SessionMachine}

/-- A hello that is rejected changes nothing. -/
theorem acceptHello_error {message : ClientMessage} {receivedAt : Nat} {e : SessionError}
    (h : m.acceptHello message receivedAt = (.error e, m')) : m' = m := by
  unfold acceptHello at h
  split at h
  · cases h
    rfl
  · split at h
    · split at h
      · cases h
        rfl
      · split at h
        · cases h
          rfl
        · cases h
    · cases h
      rfl

/-- A message that is rejected changes nothing. -/
theorem apply_error {message : ClientMessage} {e : SessionError}
    (h : m.apply message = (.error e, m')) : m' = m := by
  rcases m.apply_cases message with ⟨e', herror⟩ | ⟨sequence, -, -, -, hok⟩
  · rw [herror] at h
    cases h
    rfl
  · rw [hok] at h
    cases h

/-- Before the hello no sequence number is known. -/
def Fresh (m : SessionMachine) : Prop :=
  m.authentication = .awaitingHello → m.lastSequence = none

theorem Fresh.after (h : m.Fresh) (call : Call) : (m.after call).Fresh := by
  cases call with
  | acceptHello message receivedAt =>
    show (m.acceptHello message receivedAt).2.Fresh
    match hanswer : m.acceptHello message receivedAt with
    | (.error e, m') =>
      rw [acceptHello_error hanswer]
      exact h
    | (.ok action, m') =>
      obtain ⟨-, rfl⟩ := acceptHello_ok hanswer
      intro hawaiting
      cases hawaiting
  | apply message =>
    show (m.apply message).2.Fresh
    rcases m.apply_cases message with ⟨e, herror⟩ | ⟨sequence, hauthenticated, -, -, hok⟩
    · rw [herror]
      exact h
    · rw [hok]
      intro hawaiting
      cases hauthenticated.symm.trans hawaiting
  | disconnect =>
    show m.disconnect.2.Fresh
    unfold SessionMachine.disconnect
    split
    · exact h
    · exact h

theorem fresh_of_reachable (h : Transition.Reachable system m) : m.Fresh := by
  refine h.invariant ?_ ?_
  · rintro m ⟨token, connectionId, inputSource, expiresAt, rfl⟩ _
    rfl
  · rintro m call m' hm rfl
    exact hm.after call

/-- **An authenticated machine accepts the streams that go on from its last number.** -/
theorem accepts_iff (h : m.authentication = .authenticated) (messages : List ClientMessage) :
    m.Accepts messages ↔ ∃ sequences, messages.map messageSequence = sequences.map some ∧
      Consecutive (m.lastSequence.toList ++ sequences) := by
  induction messages generalizing m with
  | nil =>
    refine iff_of_true trivial ⟨[], rfl, ?_⟩
    rw [List.append_nil]
    cases m.lastSequence with
    | none => exact .nil
    | some last => exact .singleton last
  | cons message rest ih =>
    constructor
    · rintro ⟨action, m', happly, hrest⟩
      rcases m.apply_cases message with ⟨e, herror⟩ | ⟨sequence, -, hsequence, hnext, hok⟩
      · rw [herror] at happly
        cases happly
      · rw [hok] at happly
        cases happly
        obtain ⟨sequences, hmap, hchain⟩ :=
          (ih (m := { m with lastSequence := some sequence }) h).mp hrest
        refine ⟨sequence :: sequences, ?_, ?_⟩
        · rw [List.map_cons, List.map_cons, hsequence, hmap]
        · cases hlast : m.lastSequence with
          | none => exact hchain
          | some last =>
            refine List.isChain_cons_cons.mpr ⟨?_, hchain⟩
            rw [← expectedAfter_eq]
            by_contra hother
            exact hnext ⟨last, hlast, hother⟩
    · rintro ⟨sequences, hmap, hchain⟩
      cases sequences with
      | nil => cases hmap
      | cons sequence sequences =>
        rw [List.map_cons, List.map_cons, List.cons.injEq] at hmap
        obtain ⟨hsequence, hmap⟩ := hmap
        have hnext : ¬ m.OutOfSequence sequence := by
          rintro ⟨last, hlast, hother⟩
          rw [Option.mem_def] at hlast
          rw [hlast] at hchain
          exact hother ((List.isChain_cons_cons.mp hchain).1.trans (expectedAfter_eq last).symm)
        rcases m.apply_cases message with ⟨e, herror⟩ | ⟨taken, -, htaken, -, hok⟩
        · unfold SessionMachine.apply at herror
          rw [if_neg (not_not.mpr h), hsequence] at herror
          dsimp only at herror
          rw [if_neg hnext] at herror
          cases herror
        · obtain rfl := Option.some_inj.mp (htaken.symm.trans hsequence)
          refine ⟨_, _, hok, ?_⟩
          refine (ih (m := { m with lastSequence := some taken }) h).mpr ⟨sequences, hmap, ?_⟩
          exact List.IsChain.right_of_append hchain

/-- **After its hello a machine accepts exactly the consecutive streams.** -/
theorem accepts_iff_of_hello (h : Transition.Reachable system m) {message : ClientMessage}
    {receivedAt : Nat} {action : SessionAction}
    (hhello : m.acceptHello message receivedAt = (.ok action, m'))
    (messages : List ClientMessage) :
    m'.Accepts messages ↔ ∃ sequences, messages.map messageSequence = sequences.map some ∧
      Consecutive sequences := by
  have hawaiting : m.authentication = .awaitingHello := by
    by_contra hother
    unfold acceptHello at hhello
    rw [if_pos hother] at hhello
    cases hhello
  have hnone := fresh_of_reachable h hawaiting
  obtain ⟨-, rfl⟩ := acceptHello_ok hhello
  rw [accepts_iff rfl, hnone]
  rfl

end SessionMachine

end Network

end Pockiva
