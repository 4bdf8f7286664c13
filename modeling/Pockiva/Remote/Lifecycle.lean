import Pockiva.Lib.Custody
import Pockiva.Lib.Transition
import Pockiva.Remote.Manager

/-! # The lifecycle of the remote listener

An operation that starts or ends the session is marked in the lifecycle while the lock is
released.  The mark is in the hands of one thread (`Exclusion.Custody`), which also holds the
server it took out of the lifecycle, so no server is lost, shared or stopped twice.
-/
namespace Pockiva
namespace Remote

open Exclusion Transition

/-- The operation under way and its epoch. -/
def LifecycleState.token (l : LifecycleState) : Option (Nat × LifecycleOperation) :=
  if l.operation = .idle then none else some (l.epoch, l.operation)

namespace Point

/-- The operation a thread carries out. -/
def claim : Point → Option (Nat × LifecycleOperation)
  | .startStop epoch _ | .startServer epoch | .finishStart epoch _ _ =>
    some (epoch, .starting epoch)
  | .endStop epoch _ => some (epoch, .ending epoch)
  | .update _ (.complete epoch expected _) | .publish _ (.complete epoch expected _)
  | .complete epoch expected _ => some (epoch, expected)
  | _ => none

/-- The server a thread took or started. -/
def held : Point → Option Nat
  | .startStop _ stale => stale
  | .finishStart _ server _ => some server
  | .endStop _ server => server
  | .superseded server => some server
  | _ => none

/-- The thread's operation has left the lifecycle without a server. -/
def Emptied : Point → Prop
  | .startStop _ _ | .startServer _ | .finishStart _ _ _ | .endStop _ _ => True
  | .update _ (.complete _ (.ending _) _) | .publish _ (.complete _ (.ending _) _)
  | .complete _ (.ending _) _ => True
  | _ => False

/-- `end` has turned the model off and is about to say so. -/
def TurnedOff : Point → Prop
  | .publish _ (.complete _ (.ending _) none) | .complete _ (.ending _) (.ok _) => True
  | _ => False

/-- No start is superseded, a call that is no operation changes the observer only, and an
operation changes the model in its own way. -/
def Fits : Point → Prop
  | .superseded _ => False
  | .update change .done => ∃ observer, change = .subscribe observer
  | .update change (.complete _ (.ending _) none) => change = .turnOff
  | .update change (.complete _ _ _) =>
    (∃ pairing, change = .waitForController pairing) ∨ ∃ error, change = .fail error
  | _ => True

end Point

/-- What holds of the lifecycle, the threads and the servers at every moment. -/
structure Sound (l : LifecycleState) (threads : Nat → Point) (started : Nat)
    (shutdowns : List Nat) : Prop where
  custody : Custody Point.claim l.token threads
  asleep : l.operation = .idle → ∀ i, threads i ≠ .endAsleep
  fits : ∀ i, (threads i).Fits
  emptied : ∀ i, (threads i).Emptied → l.server = none
  served : ∀ server, l.server = some server → server < started ∧ server ∉ shutdowns
  taken : ∀ i server, (threads i).held = some server → server < started ∧ server ∉ shutdowns
  placed : ∀ server, server < started → server ∉ shutdowns →
    l.server = some server ∨ ∃ i, (threads i).held = some server
  handled : ∀ i server, (threads i).handles = some server → server < started ∧ server ∉ shutdowns
  nodup : shutdowns.Nodup
  shutdowns_lt : ∀ server ∈ shutdowns, server < started

namespace Sound
variable {l : LifecycleState} {threads : Nat → Point} {started : Nat} {shutdowns : List Nat}
  {i : Nat} {p : Point}

theorem token_ne (h : l.operation ≠ .idle) : l.token = some (l.epoch, l.operation) := if_neg h

theorem token_idle (h : l.operation = .idle) : l.token = none := if_pos h

/-- The operation of a thread is the one under way. -/
theorem owned (h : Sound l threads started shutdowns) {epoch : Nat} {op : LifecycleOperation}
    (hclaim : (threads i).claim = some (epoch, op)) :
    l.epoch = epoch ∧ l.operation = op ∧ l.operation ≠ .idle := by
  have htoken := h.custody.owned i _ hclaim
  unfold LifecycleState.token at htoken
  split at htoken
  · cases htoken
  · rename_i hop
    have hpair := Option.some_inj.mp htoken
    exact ⟨congrArg Prod.fst hpair, congrArg Prod.snd hpair, hop⟩

/-- **A thread goes on**: it carries out the same operation, holds the same server and
handles an event of the same server or none. -/
theorem move (h : Sound l threads started shutdowns) (hclaim : p.claim = (threads i).claim)
    (hheld : p.held = (threads i).held) (hfits : p.Fits)
    (hemptied : p.Emptied → (threads i).Emptied)
    (hasleep : l.operation = .idle → p ≠ .endAsleep)
    (hhandles : ∀ server, p.handles = some server → server < started ∧ server ∉ shutdowns) :
    Sound l (Function.update threads i p) started shutdowns where
  custody := h.custody.move hclaim
  asleep hidle := forall_update (P := (· ≠ Point.endAsleep)) (hasleep hidle) (h.asleep hidle)
  fits := forall_update (P := Point.Fits) hfits h.fits
  emptied j hj := by
    by_cases hi : j = i
    · rw [hi, Function.update_self] at hj
      exact h.emptied i (hemptied hj)
    · rw [Function.update_of_ne hi] at hj
      exact h.emptied j hj
  served := h.served
  taken j server hj := h.taken j server ((update_agrees hheld j).symm.trans hj)
  placed server hlt hlive := by
    refine (h.placed server hlt hlive).imp_right ?_
    rintro ⟨j, hj⟩
    exact ⟨j, (update_agrees hheld j).trans hj⟩
  handled j server hj := by
    by_cases hi : j = i
    · rw [hi, Function.update_self] at hj
      exact hhandles server hj
    · rw [Function.update_of_ne hi] at hj
      exact h.handled j server hj
  nodup := h.nodup
  shutdowns_lt := h.shutdowns_lt

/-- Who holds a server carries out an operation. -/
theorem claim_of_held (hfits : p.Fits) {server : Nat} (hheld : p.held = some server) :
    p.claim ≠ none := by
  cases p with
  | startStop | finishStart | endStop => exact Option.some_ne_none _
  | superseded => exact hfits.elim
  | _ => cases hheld

theorem claim_of_emptied (hemptied : p.Emptied) : p.claim ≠ none := by
  cases p with
  | startStop | startServer | finishStart | endStop => exact Option.some_ne_none _
  | complete => exact Option.some_ne_none _
  | update _ after | publish _ after =>
    cases after with
    | complete => exact Option.some_ne_none _
    | _ => exact hemptied.elim
  | _ => exact hemptied.elim

/-- Only the thread with the operation holds a server. -/
theorem eq_of_held (h : Sound l threads started shutdowns) (hi : (threads i).claim ≠ none)
    {j server : Nat} (hj : (threads j).held = some server) : j = i :=
  h.custody.single j i (claim_of_held (h.fits j) hj) hi

/-- **No server runs** while the thread with the operation has none and the lifecycle is
emptied. -/
theorem none_running (h : Sound l threads started shutdowns) (hi : (threads i).Emptied)
    (hheld : (threads i).held = none) {server : Nat} (hlt : server < started) :
    server ∈ shutdowns := by
  by_contra hlive
  rcases h.placed server hlt hlive with hserver | ⟨j, hj⟩
  · cases hserver.symm.trans (h.emptied i hi)
  · obtain rfl := h.eq_of_held (claim_of_emptied hi) hj
    cases hj.symm.trans hheld

/-- **One server runs at most.** -/
theorem running_unique (h : Sound l threads started shutdowns) {server other : Nat}
    (hserver : server < started ∧ server ∉ shutdowns)
    (hother : other < started ∧ other ∉ shutdowns) : server = other := by
  have hplace : ∀ {x : Nat}, x < started ∧ x ∉ shutdowns →
      l.server = some x ∨ ∃ i, (threads i).held = some x :=
    fun hx => h.placed _ hx.1 hx.2
  have hnot : ∀ {x j : Nat}, (threads j).held = some x → l.server = none := by
    intro x j hj
    refine h.emptied j ?_
    match hp : threads j with
    | .startStop _ _ | .finishStart _ _ _ | .endStop _ _ => exact trivial
    | .superseded _ =>
      have hfits := h.fits j
      rw [hp] at hfits
      exact hfits.elim
    | .idle | .returned _ | .answered _ | .startLock | .startServer _ | .endLock | .endAsleep
    | .snapshot | .update _ _ | .publish _ _ | .complete _ _ _ | .eventReceived _ _
    | .eventRuntime _ _ | .eventLatency _ | .eventActive _ | .runtimeFailed _ _ =>
      rw [hp] at hj
      cases hj
  rcases hplace hserver with hheld | ⟨i, hi⟩
  · rcases hplace hother with hheld' | ⟨j, hj⟩
    · exact Option.some_inj.mp (hheld.symm.trans hheld')
    · cases hheld.symm.trans (hnot hj)
  · rcases hplace hother with hheld' | ⟨j, hj⟩
    · cases hheld'.symm.trans (hnot hi)
    · obtain rfl := h.eq_of_held (claim_of_held (h.fits i) hi) hj
      exact Option.some_inj.mp (hi.symm.trans hj)

/-- **A thread begins an operation** and takes the server. -/
theorem acquire (h : Sound l threads started shutdowns) (hidle : l.operation = .idle)
    {epoch : Nat} {op : LifecycleOperation} (hop : op ≠ .idle) (restartRequired : Bool)
    (hclaim : p.claim = some (epoch, op)) (hheld : p.held = l.server) (hfits : p.Fits)
    (hnone : (threads i).held = none) (hhandles : p.handles = none) :
    Sound ⟨op, epoch, none, restartRequired⟩ (Function.update threads i p) started shutdowns where
  custody := by
    have htoken := token_ne (l := ⟨op, epoch, none, restartRequired⟩) hop
    rw [htoken]
    exact (token_idle hidle ▸ h.custody).acquire hclaim
  asleep heq := absurd heq hop
  fits := forall_update (P := Point.Fits) hfits h.fits
  emptied _ _ := rfl
  served := nofun
  taken j server hj := by
    by_cases hi : j = i
    · rw [hi, Function.update_self, hheld] at hj
      exact h.served server hj
    · rw [Function.update_of_ne hi] at hj
      exact h.taken j server hj
  placed server hlt hlive := by
    refine .inr ?_
    rcases h.placed server hlt hlive with hserver | ⟨j, hj⟩
    · refine ⟨i, ?_⟩
      rw [Function.update_self, hheld, hserver]
    · refine ⟨j, ?_⟩
      rw [Function.update_of_ne]
      · exact hj
      · rintro rfl
        cases hj.symm.trans hnone
  handled j server hj := by
    by_cases hi : j = i
    · rw [hi, Function.update_self, hhandles] at hj
      cases hj
    · rw [Function.update_of_ne hi] at hj
      exact h.handled j server hj
  nodup := h.nodup
  shutdowns_lt := h.shutdowns_lt

/-- **The server a thread holds is shut down.** -/
theorem stop (h : Sound l threads started shutdowns) {server : Nat}
    (hi : (threads i).held = some server) (hemptied : (threads i).Emptied)
    (hunhandled : ∀ j, (threads j).handles ≠ some server)
    (hclaim : p.claim = (threads i).claim) (hheld : p.held = none) (hfits : p.Fits)
    (hasleep : p ≠ .endAsleep) (hhandles : p.handles = none) :
    Sound l (Function.update threads i p) started (shutdowns ++ [server]) where
  custody := h.custody.move hclaim
  asleep hidle := forall_update (P := (· ≠ Point.endAsleep)) hasleep (h.asleep hidle)
  fits := forall_update (P := Point.Fits) hfits h.fits
  emptied j _ := h.emptied i hemptied
  served other hother := by cases hother.symm.trans (h.emptied i hemptied)
  taken j other hj := by
    by_cases hji : j = i
    · rw [hji, Function.update_self, hheld] at hj
      cases hj
    · rw [Function.update_of_ne hji] at hj
      exact absurd (h.eq_of_held (claim_of_emptied hemptied) hj) hji
  placed other hlt hlive := by
    rw [List.mem_append, not_or, List.mem_singleton] at hlive
    rcases h.placed other hlt hlive.1 with hserver | ⟨j, hj⟩
    · exact .inl hserver
    · obtain rfl := h.eq_of_held (claim_of_emptied hemptied) hj
      exact absurd (Option.some_inj.mp (hj.symm.trans hi)) hlive.2
  handled j other hj := by
    by_cases hji : j = i
    · rw [hji, Function.update_self, hhandles] at hj
      cases hj
    · rw [Function.update_of_ne hji] at hj
      obtain ⟨hlt, hlive⟩ := h.handled j other hj
      refine ⟨hlt, ?_⟩
      rw [List.mem_append, not_or, List.mem_singleton]
      refine ⟨hlive, ?_⟩
      rintro rfl
      exact hunhandled j hj
  nodup := by
    refine List.nodup_append.mpr ⟨h.nodup, List.pairwise_singleton _ server, ?_⟩
    rintro a ha b hb rfl
    rw [List.mem_singleton.mp hb] at ha
    exact (h.taken i server hi).2 ha
  shutdowns_lt other hother := by
    rcases List.mem_append.mp hother with hold | hnew
    · exact h.shutdowns_lt other hold
    · rw [List.mem_singleton.mp hnew]
      exact (h.taken i server hi).1

/-- **A server is started**, in the hands of the thread. -/
theorem start (h : Sound l threads started shutdowns) {epoch : Nat}
    (hi : threads i = .startServer epoch) (pairing : PairingInfo) :
    Sound l (Function.update threads i (.finishStart epoch started pairing)) (started + 1)
      shutdowns where
  custody := h.custody.move (by rw [hi]; rfl)
  asleep hidle := forall_update (P := (· ≠ Point.endAsleep)) nofun (h.asleep hidle)
  fits := forall_update (P := Point.Fits) trivial h.fits
  emptied j _ := h.emptied i (by rw [hi]; exact trivial)
  served other hother := (h.served other hother).imp_left Nat.lt_succ_of_lt
  taken j other hj := by
    by_cases hji : j = i
    · rw [hji, Function.update_self] at hj
      obtain rfl := Option.some_inj.mp hj
      exact ⟨Nat.lt_succ_self _, fun hmem => Nat.lt_irrefl _ (h.shutdowns_lt _ hmem)⟩
    · rw [Function.update_of_ne hji] at hj
      exact (h.taken j other hj).imp_left Nat.lt_succ_of_lt
  placed other hlt hlive := by
    rcases Nat.lt_succ_iff_lt_or_eq.mp hlt with hold | rfl
    · refine (h.placed other hold hlive).imp_right ?_
      rintro ⟨j, hj⟩
      refine ⟨j, ?_⟩
      rw [Function.update_of_ne]
      · exact hj
      · rintro rfl
        rw [hi] at hj
        cases hj
    · refine .inr ⟨i, ?_⟩
      rw [Function.update_self]
      rfl
  handled j other hj := by
    by_cases hji : j = i
    · rw [hji, Function.update_self] at hj
      cases hj
    · rw [Function.update_of_ne hji] at hj
      exact (h.handled j other hj).imp_left Nat.lt_succ_of_lt
  nodup := h.nodup
  shutdowns_lt other hother := Nat.lt_succ_of_lt (h.shutdowns_lt other hother)

/-- **The server that was started is handed to the lifecycle.** -/
theorem finish (h : Sound l threads started shutdowns) {epoch server : Nat}
    {pairing : PairingInfo} (hi : threads i = .finishStart epoch server pairing)
    (restartRequired : Bool) :
    Sound ⟨l.operation, l.epoch, some server, restartRequired⟩
      (Function.update threads i
        (.update (.waitForController pairing) (.complete epoch (.starting epoch) none)))
      started shutdowns := by
  have hemptied : (threads i).Emptied := by
    rw [hi]
    exact trivial
  have hheld : (threads i).held = some server := by
    rw [hi]
    rfl
  refine ⟨?_, ?_, ?_, ?_, ?_, ?_, ?_, ?_, h.nodup, h.shutdowns_lt⟩
  · exact h.custody.move (by rw [hi]; rfl)
  · intro hidle
    exact forall_update (P := (· ≠ Point.endAsleep)) nofun (h.asleep hidle)
  · exact forall_update (P := Point.Fits) (.inl ⟨pairing, rfl⟩) h.fits
  · intro j hj
    by_cases hji : j = i
    · rw [hji, Function.update_self] at hj
      exact hj.elim
    · rw [Function.update_of_ne hji] at hj
      exact absurd (h.custody.single j i (claim_of_emptied hj) (claim_of_emptied hemptied)) hji
  · rintro _ ⟨rfl⟩
    exact h.taken i server hheld
  · intro j other hj
    by_cases hji : j = i
    · rw [hji, Function.update_self] at hj
      cases hj
    · rw [Function.update_of_ne hji] at hj
      exact h.taken j other hj
  · intro other hlt hlive
    refine .inl ?_
    rcases h.placed other hlt hlive with hserver | ⟨j, hj⟩
    · cases hserver.symm.trans (h.emptied i hemptied)
    · obtain rfl := h.eq_of_held (claim_of_emptied hemptied) hj
      exact hheld.symm.trans hj
  · intro j other hj
    by_cases hji : j = i
    · rw [hji, Function.update_self] at hj
      cases hj
    · rw [Function.update_of_ne hji] at hj
      exact h.handled j other hj

/-- Threads that wake go on to the lock. -/
theorem wake (h : Sound l threads started shutdowns) :
    Sound l (fun j => RemoteSession.wake (threads j)) started shutdowns := by
  have hclaim : ∀ p : Point, (RemoteSession.wake p).claim = p.claim := by
    intro p
    cases p <;> rfl
  have hheld : ∀ p : Point, (RemoteSession.wake p).held = p.held := by
    intro p
    cases p <;> rfl
  have hhandles : ∀ p : Point, (RemoteSession.wake p).handles = p.handles := by
    intro p
    cases p <;> rfl
  have hfits : ∀ p : Point, p.Fits → (RemoteSession.wake p).Fits := by
    intro p hp
    cases p <;> exact hp
  have hemptied : ∀ p : Point, (RemoteSession.wake p).Emptied → p.Emptied := by
    intro p hp
    cases p <;> exact hp
  refine ⟨h.custody.congr fun j => hclaim _, ?_, fun j => hfits _ (h.fits j),
    fun j hj => h.emptied j (hemptied _ hj), h.served,
    fun j server hj => h.taken j server ((hheld _).symm.trans hj), ?_,
    fun j server hj => h.handled j server ((hhandles _).symm.trans hj), h.nodup, h.shutdowns_lt⟩
  · intro _ j
    show RemoteSession.wake (threads j) ≠ .endAsleep
    cases threads j <;> exact nofun
  · intro server hlt hlive
    exact (h.placed server hlt hlive).imp_right fun ⟨j, hj⟩ => ⟨j, (hheld _).trans hj⟩

/-- **The operation is complete.** -/
theorem release (h : Sound l threads started shutdowns) (hawake : ∀ j, threads j ≠ .endAsleep)
    {epoch : Nat} {op : LifecycleOperation} {result : Except RemoteError RemoteSnapshot}
    (hi : threads i = .complete epoch op result) :
    Sound { l with operation := .idle } (Function.update threads i (.returned result)) started
      shutdowns := by
  have hnone : (Point.returned result).held = (threads i).held := by
    rw [hi]
    rfl
  refine ⟨?_, ?_, ?_, ?_, h.served, ?_, ?_, ?_, h.nodup, h.shutdowns_lt⟩
  · have htoken := token_idle (l := { l with operation := .idle }) rfl
    rw [htoken]
    refine h.custody.release ?_ rfl
    rw [hi]
    exact Option.some_ne_none _
  · intro _
    exact forall_update (P := (· ≠ Point.endAsleep)) nofun hawake
  · exact forall_update (P := Point.Fits) trivial h.fits
  · intro j hj
    by_cases hji : j = i
    · rw [hji, Function.update_self] at hj
      exact hj.elim
    · rw [Function.update_of_ne hji] at hj
      exact h.emptied j hj
  · intro j server hj
    exact h.taken j server ((update_agrees hnone j).symm.trans hj)
  · intro server hlt hlive
    refine (h.placed server hlt hlive).imp_right ?_
    rintro ⟨j, hj⟩
    exact ⟨j, (update_agrees hnone j).trans hj⟩
  · intro j server hj
    by_cases hji : j = i
    · rw [hji, Function.update_self] at hj
      cases hj
    · rw [Function.update_of_ne hji] at hj
      exact h.handled j server hj

/-- The restart flag does not matter here. -/
theorem restart (h : Sound l threads started shutdowns) (restartRequired : Bool) :
    Sound { l with restartRequired := restartRequired } threads started shutdowns :=
  ⟨h.custody, h.asleep, h.fits, h.emptied, h.served, h.taken, h.placed, h.handled, h.nodup,
    h.shutdowns_lt⟩

end Sound

theorem Point.TurnedOff.emptied {p : Point} (h : p.TurnedOff) : p.Emptied ∧ p.held = none := by
  cases p with
  | publish delivery after =>
    cases after with
    | complete epoch expected error =>
      cases expected with
      | ending => exact ⟨trivial, rfl⟩
      | _ => exact h.elim
    | _ => exact h.elim
  | complete epoch expected result =>
    cases expected with
    | ending => exact ⟨trivial, rfl⟩
    | _ => exact h.elim
  | _ => exact h.elim

namespace RemoteSession

/-- The manager at every moment of a run. -/
structure Kept (s : RemoteSession) : Prop where
  sound : Sound s.lifecycle s.threads s.started s.shutdowns
  off : ∀ i, (s.threads i).TurnedOff → s.model.model = .initial

variable {s : RemoteSession} {i : Nat} {p : Point}

theorem kept_new : new.Kept where
  sound := {
    custody := ⟨nofun, fun _ _ h => absurd rfl h, fun h => absurd rfl h⟩
    asleep := fun _ _ => nofun
    fits := fun _ => trivial
    emptied := fun _ h => h.elim
    served := nofun
    taken := nofun
    placed := fun _ h => absurd h (Nat.not_lt_zero _)
    handled := nofun
    nodup := List.nodup_nil
    shutdowns_lt := nofun }
  off _ h := h.elim

namespace Kept

/-- No event is handled while `end` says that the model is off. -/
theorem unhandled (h : s.Kept) {j : Nat} (hj : (s.threads j).TurnedOff) (server : Nat) :
    (s.threads i).handles ≠ some server := by
  intro hhandles
  obtain ⟨hlt, hlive⟩ := h.sound.handled i server hhandles
  exact hlive (h.sound.none_running hj.emptied.1 hj.emptied.2 hlt)

theorem off_update (h : s.Kept) (hp : p.TurnedOff → s.model.model = .initial) :
    ∀ j, (Function.update s.threads i p j).TurnedOff → s.model.model = .initial :=
  forall_update (P := fun q : Point => q.TurnedOff → s.model.model = .initial) hp h.off

/-- A thread goes on and leaves everything else alone. -/
theorem goto (h : s.Kept) (hclaim : p.claim = (s.threads i).claim)
    (hheld : p.held = (s.threads i).held) (hfits : p.Fits)
    (hemptied : p.Emptied → (s.threads i).Emptied)
    (hasleep : s.lifecycle.operation = .idle → p ≠ .endAsleep)
    (hhandles : ∀ server, p.handles = some server → s.Running server)
    (hoff : p.TurnedOff → s.model.model = .initial) : (s.goto i p).Kept where
  sound := h.sound.move hclaim hheld hfits hemptied hasleep hhandles
  off := h.off_update hoff

/-- A thread outside every operation goes on outside of it. -/
theorem aside (h : s.Kept) (hi : (s.threads i).claim = none) (hfree : (s.threads i).held = none)
    (hclaim : p.claim = none) (hheld : p.held = none) (hfits : p.Fits)
    (hasleep : s.lifecycle.operation = .idle → p ≠ .endAsleep)
    (hhandles : ∀ server, p.handles = some server → s.Running server) : (s.goto i p).Kept := by
  refine h.goto (hclaim.trans hi.symm) (hheld.trans hfree.symm) hfits ?_ hasleep hhandles ?_
  · exact fun hemptied => absurd hclaim (Sound.claim_of_emptied hemptied)
  · exact fun hoff => absurd hclaim (Sound.claim_of_emptied hoff.emptied.1)

/-- The first lock of `start`: a rejection, the snapshot of the session there is, or a new
operation. -/
theorem lockStart (h : s.Kept) (hi : s.threads i = .startLock) : (s.lockStart i).Kept := by
  have hclaim : (s.threads i).claim = none := by
    rw [hi]
    rfl
  have hheld : (s.threads i).held = none := by
    rw [hi]
    rfl
  unfold RemoteSession.lockStart
  split
  · exact h.aside hclaim hheld rfl rfl trivial (fun _ => nofun) nofun
  · exact h.aside hclaim hheld rfl rfl trivial (fun _ => nofun) nofun
  · rename_i hidle
    split
    · exact h.aside hclaim hheld rfl rfl trivial (fun _ => nofun) nofun
    · exact ⟨h.sound.acquire hidle (by exact nofun) false rfl rfl trivial hheld rfl,
        h.off_update False.elim⟩

/-- The first lock of `end`. -/
theorem lockEnd (h : s.Kept) (hi : s.threads i = .endLock) : (s.lockEnd i).Kept := by
  have hclaim : (s.threads i).claim = none := by
    rw [hi]
    rfl
  have hheld : (s.threads i).held = none := by
    rw [hi]
    rfl
  unfold RemoteSession.lockEnd
  split
  · rename_i hbusy
    exact h.aside hclaim hheld rfl rfl trivial (fun hidle => absurd hidle hbusy) nofun
  · rename_i hidle
    rw [not_not] at hidle
    exact ⟨h.sound.acquire hidle (by exact nofun) _ rfl rfl trivial hheld rfl,
      h.off_update False.elim⟩

/-- The server a thread took is shut down. -/
theorem stopServer (h : s.Kept) {server : Nat} (hi : (s.threads i).held = some server)
    (hemptied : (s.threads i).Emptied) (hunhandled : ∀ j, (s.threads j).handles ≠ some server)
    (hclaim : p.claim = (s.threads i).claim) (hheld : p.held = none) (hfits : p.Fits)
    (hasleep : p ≠ .endAsleep) (hhandles : p.handles = none) (hoff : ¬ p.TurnedOff) :
    (s.stopServer i server p).Kept :=
  ⟨h.sound.stop hi hemptied hunhandled hclaim hheld hfits hasleep hhandles,
    h.off_update fun hp => absurd hp hoff⟩

theorem fits_failStart (epoch : Nat) (error : NetworkError) : (failStart epoch error).Fits :=
  .inr ⟨_, rfl⟩

theorem stopStale (h : s.Kept) (o : Outcome) {epoch : Nat} {stale : Option Nat}
    (hi : s.threads i = .startStop epoch stale)
    (hhandled : ∀ server, (s.threads i).stops = some server →
      ∀ j, (s.threads j).handles ≠ some server) : (s.stopStale i o epoch stale).Kept := by
  have hemptied : (s.threads i).Emptied := by
    rw [hi]
    exact trivial
  cases stale with
  | none =>
    exact h.goto (by rw [hi]; rfl) (by rw [hi]; rfl) trivial (fun _ => hemptied) (fun _ => nofun)
      nofun False.elim
  | some server =>
    have hunhandled := hhandled server (by rw [hi]; rfl)
    unfold RemoteSession.stopStale
    dsimp only
    split
    · exact h.stopServer (by rw [hi]; rfl) hemptied hunhandled (by rw [hi]; rfl) rfl trivial nofun
        rfl id
    · exact h.stopServer (by rw [hi]; rfl) hemptied hunhandled (by rw [hi]; rfl) rfl
        (fits_failStart _ _) nofun rfl id

theorem startServer (h : s.Kept) (o : Outcome) {epoch : Nat}
    (hi : s.threads i = .startServer epoch) : (s.startServer i o epoch).Kept := by
  unfold RemoteSession.startServer
  split
  · exact ⟨h.sound.start hi _, h.off_update False.elim⟩
  · exact h.goto (by rw [hi]; rfl) (by rw [hi]; rfl) (fits_failStart _ _)
      (fun hemptied => hemptied.elim) (fun _ => nofun) nofun False.elim

/-- **A start is never superseded**: its operation is still the one under way. -/
theorem finishStart (h : s.Kept) {epoch server : Nat} {pairing : PairingInfo}
    (hi : s.threads i = .finishStart epoch server pairing) :
    (s.finishStart i epoch server pairing).Kept := by
  have hclaim : (s.threads i).claim = some (epoch, .starting epoch) := by
    rw [hi]
    rfl
  have howned := h.sound.owned hclaim
  unfold RemoteSession.finishStart
  rw [if_neg (not_not.mpr howned.2.1)]
  exact ⟨h.sound.finish hi false, h.off_update False.elim⟩

theorem stopEnded (h : s.Kept) (o : Outcome) {epoch : Nat} {stopped : Option Nat}
    (hi : s.threads i = .endStop epoch stopped)
    (hhandled : ∀ server, (s.threads i).stops = some server →
      ∀ j, (s.threads j).handles ≠ some server) : (s.stopEnded i o epoch stopped).Kept := by
  have hemptied : (s.threads i).Emptied := by
    rw [hi]
    exact trivial
  cases stopped with
  | none =>
    exact h.goto (by rw [hi]; rfl) (by rw [hi]; rfl) rfl (fun _ => hemptied) (fun _ => nofun)
      nofun False.elim
  | some server =>
    have hunhandled := hhandled server (by rw [hi]; rfl)
    unfold RemoteSession.stopEnded afterStop
    dsimp only
    split
    · exact h.stopServer (by rw [hi]; rfl) hemptied hunhandled (by rw [hi]; rfl) rfl rfl nofun
        rfl id
    · exact h.stopServer (by rw [hi]; rfl) hemptied hunhandled (by rw [hi]; rfl) rfl
        (.inr ⟨_, rfl⟩) nofun rfl id

/-- A change that is refused concerns a server's event. -/
theorem handled_of_refused {model : ModelState} {change : Update} {after : After}
    (hfits : (Point.update change after).Fits) (hnone : change.apply model = none) :
    ∃ server accepted, after = .handled server accepted := by
  cases after with
  | handled server accepted => exact ⟨server, accepted, rfl⟩
  | done =>
    obtain ⟨observer, rfl⟩ := hfits
    cases hnone
  | complete epoch expected error =>
    have hchange : change = .turnOff ∨ (∃ pairing, change = .waitForController pairing) ∨
        ∃ error, change = .fail error := by
      cases expected <;> cases error <;> first | exact .inr hfits | exact .inl hfits
    rcases hchange with rfl | ⟨pairing, rfl⟩ | ⟨error, rfl⟩ <;> cases hnone

/-- After a change the model is off if `end` is about to say so. -/
theorem off_updateModel (h : s.Kept) {change : Update} {after : After}
    (hi : s.threads i = .update change after) {model : ModelState}
    (hmodel : change.apply s.model = some model) (delivery : SnapshotDelivery) :
    ∀ j, (Function.update s.threads i (.publish delivery after) j).TurnedOff →
      model.model = .initial := by
  have hfits := h.sound.fits i
  rw [hi] at hfits
  intro j hj
  by_cases hji : j = i
  · rw [hji, Function.update_self] at hj
    match after, hj, hfits with
    | .complete _ (.ending _) none, _, hfits =>
      obtain rfl : change = .turnOff := hfits
      obtain rfl := Option.some_inj.mp hmodel
      rfl
  · rw [Function.update_of_ne hji] at hj
    have hkept := h.off j hj
    match after, hfits with
    | .done, hfits =>
      obtain ⟨observer, rfl⟩ := hfits
      obtain rfl := Option.some_inj.mp hmodel
      exact hkept
    | .complete epoch expected error, _ =>
      refine absurd (h.sound.custody.single j i (Sound.claim_of_emptied hj.emptied.1) ?_) hji
      rw [hi]
      exact Option.some_ne_none _
    | .handled server accepted, _ =>
      exact absurd (by rw [hi]; rfl) (h.unhandled (i := i) hj server)

theorem updateModel (h : s.Kept) {change : Update} {after : After}
    (hi : s.threads i = .update change after) : (s.updateModel i change after).Kept := by
  have hfits := h.sound.fits i
  rw [hi] at hfits
  unfold RemoteSession.updateModel
  split
  · rename_i hnone
    obtain ⟨server, accepted, rfl⟩ := handled_of_refused hfits hnone
    have hclaim : (refused change).claim = none := by
      cases change <;> rfl
    have hheld : (refused change).held = none := by
      cases change <;> rfl
    refine h.aside (by rw [hi]; rfl) (by rw [hi]; rfl) hclaim hheld ?_ (fun _ => ?_) ?_
    · cases change <;> exact trivial
    · cases change <;> exact nofun
    · cases change <;> exact nofun
  · rename_i model hmodel
    have hclaim : (Point.publish model.revise.delivery after).claim = (s.threads i).claim := by
      rw [hi]
      cases after <;> rfl
    refine ⟨h.sound.move hclaim (by rw [hi]; rfl) trivial ?_ (fun _ => nofun) ?_,
      h.off_updateModel hi hmodel _⟩
    · rw [hi]
      match after with
      | .complete _ .idle _ | .complete _ (.starting _) _ | .complete _ (.ending _) _ | .done
      | .handled _ _ => exact id
    · intro server hhandles
      refine h.sound.handled i server ?_
      rw [hi]
      cases after <;> exact hhandles

theorem publishOrdered (h : s.Kept) {delivery : SnapshotDelivery} {after : After}
    (hi : s.threads i = .publish delivery after) : (s.publishOrdered i delivery after).Kept := by
  have hclaim : (next delivery.snapshot after).claim = (s.threads i).claim := by
    rw [hi]
    match after with
    | .complete _ _ none | .complete _ _ (some _) | .done | .handled _ _ => rfl
  have hheld : (next delivery.snapshot after).held = (s.threads i).held := by
    rw [hi]
    match after with
    | .complete _ _ none | .complete _ _ (some _) | .done | .handled _ _ => rfl
  have hfits : (next delivery.snapshot after).Fits := by
    match after with
    | .complete _ _ none | .complete _ _ (some _) | .done | .handled _ _ => exact trivial
  have hemptied : (next delivery.snapshot after).Emptied → (s.threads i).Emptied := by
    rw [hi]
    match after with
    | .complete _ .idle none | .complete _ .idle (some _) | .complete _ (.starting _) none
    | .complete _ (.starting _) (some _) | .complete _ (.ending _) none
    | .complete _ (.ending _) (some _) | .done | .handled _ _ => exact id
  have hasleep : next delivery.snapshot after ≠ .endAsleep := by
    match after with
    | .complete _ _ none | .complete _ _ (some _) | .done | .handled _ _ => exact nofun
  have hhandles : (next delivery.snapshot after).handles = none := by
    match after with
    | .complete _ _ none | .complete _ _ (some _) | .done | .handled _ _ => rfl
  have hoff : (next delivery.snapshot after).TurnedOff → (s.threads i).TurnedOff := by
    rw [hi]
    match after with
    | .complete _ .idle none | .complete _ .idle (some _) | .complete _ (.starting _) none
    | .complete _ (.starting _) (some _) | .complete _ (.ending _) none
    | .complete _ (.ending _) (some _) | .done | .handled _ _ => exact id
  have hsound : Sound s.lifecycle (Function.update s.threads i (next delivery.snapshot after))
      s.started s.shutdowns := by
    refine h.sound.move hclaim hheld hfits hemptied (fun _ => hasleep) ?_
    intro server hserver
    cases hhandles.symm.trans hserver
  unfold RemoteSession.publishOrdered
  dsimp only
  split
  · exact ⟨hsound, h.off_update fun hp => h.off i (hoff hp)⟩
  · exact ⟨hsound, h.off_update fun hp => h.off i (hoff hp)⟩

/-- **An operation completes**: it is the one that is marked. -/
theorem completeLifecycle (h : s.Kept) {epoch : Nat} {op : LifecycleOperation}
    {result : Except RemoteError RemoteSnapshot} (hi : s.threads i = .complete epoch op result) :
    (s.completeLifecycle i epoch op result).Kept := by
  have hclaim : (s.threads i).claim = some (epoch, op) := by
    rw [hi]
    rfl
  obtain ⟨hepoch, hop, -⟩ := h.sound.owned hclaim
  unfold RemoteSession.completeLifecycle
  rw [if_pos ⟨hepoch, hop⟩]
  have hwoken : RemoteSession.wake (s.threads i) = .complete epoch op result := by
    rw [hi]
    rfl
  refine ⟨h.sound.wake.release (fun j => ?_) hwoken, ?_⟩
  · show RemoteSession.wake (s.threads j) ≠ .endAsleep
    cases s.threads j <;> exact nofun
  · refine forall_update
      (P := fun q : Point => q.TurnedOff → s.model.model = .initial) False.elim ?_
    intro j hj
    refine h.off j ?_
    revert hj
    cases s.threads j <;> exact id

/-- A thread that handles an event goes on to handle it or answers it. -/
theorem goEvent (h : s.Kept) {server : Nat} (hi : (s.threads i).handles = some server)
    (hclaim : (s.threads i).claim = none) (hheld : (s.threads i).held = none)
    (hp : p.claim = none) (hpheld : p.held = none) (hfits : p.Fits) (hasleep : p ≠ .endAsleep)
    (hhandles : p.handles = none ∨ p.handles = some server) : (s.goto i p).Kept := by
  refine h.aside hclaim hheld hp hpheld hfits (fun _ => hasleep) ?_
  intro other hother
  rcases hhandles with hnone | hsame
  · cases hnone.symm.trans hother
  · obtain rfl := Option.some_inj.mp (hsame.symm.trans hother)
    exact h.sound.handled i server hi

theorem receiveEvent (h : s.Kept) {server : Nat} {event : Network.ControllerEvent}
    (hi : s.threads i = .eventReceived server event) : (s.receiveEvent i server event).Kept := by
  have hserver : (s.threads i).handles = some server := by
    rw [hi]
    rfl
  have hanswered : ∀ accepted, (s.goto i (.answered accepted)).Kept := fun accepted =>
    h.goEvent hserver (by rw [hi]; rfl) (by rw [hi]; rfl) rfl rfl
      trivial nofun (.inl rfl)
  have hgone : (s.goto i (.eventRuntime server event)).Kept :=
    h.goEvent hserver (by rw [hi]; rfl) (by rw [hi]; rfl) rfl rfl
      trivial nofun (.inr rfl)
  unfold RemoteSession.receiveEvent
  split
  · exact hanswered false
  · split
    · split
      · exact hanswered false
      · exact hgone
    · exact hgone

theorem applyEvent (h : s.Kept) (o : Outcome) {server : Nat} {event : Network.ControllerEvent}
    (hi : s.threads i = .eventRuntime server event) : (s.applyEvent i o server event).Kept := by
  have hserver : (s.threads i).handles = some server := by
    rw [hi]
    rfl
  have hgone : ∀ {p : Point}, p.claim = none → p.held = none → p.Fits → p ≠ .endAsleep →
      p.handles = some server → (s.goto i p).Kept :=
    fun hclaim hheld hfits hasleep hhandles =>
      h.goEvent hserver (by rw [hi]; rfl) (by rw [hi]; rfl) hclaim
        hheld hfits hasleep (.inr hhandles)
  unfold RemoteSession.applyEvent
  split
  · exact hgone rfl rfl trivial nofun rfl
  · split
    · exact hgone rfl rfl trivial nofun rfl
    · exact hgone rfl rfl trivial nofun rfl
    · exact hgone rfl rfl trivial nofun rfl

theorem failRuntime (h : s.Kept) {server : Nat} {message : String}
    (hi : s.threads i = .runtimeFailed server message) :
    (s.failRuntime i server message).Kept := by
  have hserver : (s.threads i).handles = some server := by
    rw [hi]
    rfl
  have hgone : (s.goto i (.update (.fail ⟨.runtimeUnavailable, message⟩)
      (.handled server false))).Kept :=
    h.goEvent hserver (by rw [hi]; rfl) (by rw [hi]; rfl) rfl rfl
      trivial nofun (.inr rfl)
  exact ⟨hgone.sound.restart _, hgone.off⟩

theorem recordLatency (h : s.Kept) {server : Nat} (hi : s.threads i = .eventLatency server)
    (elapsed : Nat) : (s.recordLatency i elapsed).Kept := by
  have hserver : (s.threads i).handles = some server := by
    rw [hi]
    rfl
  have hgone : (s.goto i (.answered true)).Kept :=
    h.goEvent hserver (by rw [hi]; rfl) (by rw [hi]; rfl) rfl rfl
      trivial nofun (.inl rfl)
  refine ⟨hgone.sound, ?_⟩
  intro j hj
  by_cases hji : j = i
  · have hpoint : (s.recordLatency i elapsed).threads i = .answered true :=
      Function.update_self _ _ _
    rw [hji, hpoint] at hj
    exact hj.elim
  · have hpoint : (s.recordLatency i elapsed).threads j = s.threads j :=
      Function.update_of_ne hji _ _
    rw [hpoint] at hj
    exact absurd (by rw [hi]; rfl) (h.unhandled (i := i) hj server)

/-- **One step of a thread keeps the manager sound.** -/
theorem advance (h : s.Kept) (o : Outcome)
    (hhandled : ∀ server, (s.threads i).stops = some server →
      ∀ j, (s.threads j).handles ≠ some server) : (s.advance i o).Kept := by
  unfold RemoteSession.advance
  split
  · exact h
  · exact h
  · exact h
  · exact h
  · rename_i hi
    exact h.lockStart hi
  · rename_i hi
    exact h.stopStale o hi hhandled
  · rename_i hi
    exact h.startServer o hi
  · rename_i hi
    exact h.finishStart hi
  · rename_i hi
    have hfits := h.sound.fits i
    rw [hi] at hfits
    exact hfits.elim
  · rename_i hi
    exact h.lockEnd hi
  · rename_i hi
    exact h.stopEnded o hi hhandled
  · rename_i hi
    exact h.aside (by rw [hi]; rfl) (by rw [hi]; rfl) rfl rfl trivial (fun _ => nofun) nofun
  · rename_i hi
    exact h.updateModel hi
  · rename_i hi
    exact h.publishOrdered hi
  · rename_i hi
    exact h.completeLifecycle hi
  · rename_i hi
    exact h.receiveEvent hi
  · rename_i hi
    exact h.applyEvent o hi
  · rename_i hi
    exact h.recordLatency hi _
  · rename_i server hi
    have hserver : (s.threads i).handles = some server := by
      rw [hi]
      rfl
    exact h.goEvent hserver (by rw [hi]; rfl) (by rw [hi]; rfl) rfl
      rfl trivial nofun (.inr rfl)
  · rename_i hi
    exact h.failRuntime hi

theorem claim_of_free (hfree : p.Free) : p.claim = none ∧ p.held = none := by
  cases p with
  | idle | returned | answered => exact ⟨rfl, rfl⟩
  | _ => exact hfree.elim

/-- **Every step keeps the manager sound.** -/
theorem step (h : s.Kept) {label : Label} {t : RemoteSession} (hstep : Step s label t) :
    t.Kept := by
  cases hstep with
  | call call hfree =>
    obtain ⟨hclaim, hheld⟩ := claim_of_free hfree
    cases call with
    | subscribe observer =>
      exact h.aside hclaim hheld rfl rfl ⟨observer, rfl⟩ (fun _ => nofun) nofun
    | _ => exact h.aside hclaim hheld rfl rfl trivial (fun _ => nofun) nofun
  | event event hfree hrunning =>
    obtain ⟨hclaim, hheld⟩ := claim_of_free hfree
    refine h.aside hclaim hheld rfl rfl trivial (fun _ => nofun) ?_
    rintro _ ⟨rfl⟩
    exact hrunning
  | wake hasleep =>
    exact h.aside (by rw [hasleep]; rfl) (by rw [hasleep]; rfl) rfl rfl trivial (fun _ => nofun)
      nofun
  | advance outcome _ _ hhandled => exact h.advance outcome hhandled

end Kept

theorem kept_of_reachable (h : Reachable system s) : s.Kept := by
  refine h.invariant ?_ fun s label t hs hstep => hs.step hstep
  rintro s rfl
  exact kept_new

end RemoteSession

end Remote

end Pockiva
