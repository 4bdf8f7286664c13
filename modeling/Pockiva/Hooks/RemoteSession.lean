import Pockiva.Remote.Manager
import Pockiva.Lib.Transition

/-! # The remote session of the desktop page

`useRemoteSession` is told the state of the remote session in three ways that overtake each
other: a subscription pushes snapshots, and the subscription itself and each `start` and
`end` answer with one.  Counters in refs decide which of them is still worth showing.

`remote_session_view` states what the counters amount to: in every run of the hook, the page
shows what a `PanelView` shows, which awaits the answer to one call, the latest, and no longer
than until something else has been shown.
-/
namespace Pockiva

open Transition Remote

/-! ## The hook -/

inductive RemoteSessionBusy where
  | starting
  | ending
deriving DecidableEq, Repr

/-- The values of the refs a closure was made with. -/
structure Stamp where
  generation : Nat
  operation : Nat
  revision : Nat
deriving DecidableEq

/-- What made a call to the client: the effect, with its flag `subscribed`, or an action. -/
inductive Closure where
  | effect (subscribed : Bool)
  | applyAction
deriving DecidableEq

/-- A call to the client whose answer has come or is `pending`. -/
structure Call where
  stamp : Stamp
  closure : Closure
  pending : Bool
deriving DecidableEq

/-- What `useRemoteSession` keeps: its state, its refs, and the closures it made. -/
structure RemoteSessionHook where
  snapshot : RemoteSnapshot
  busy : Option RemoteSessionBusy
  generationRef : Nat
  operationRef : Nat
  revisionRef : Nat
  calls : List Call

/-- What comes to the hook, in the order the event loop takes it. -/
inductive HookEvent where
  /-- React runs the effect: after the first render, and with another client. -/
  | effect
  /-- React cleans up after the effect that made the call. -/
  | cleanup (call : Nat)
  /-- A subscription pushes a snapshot. -/
  | notified (call : Nat) (snapshot : RemoteSnapshot)
  /-- `start` or `end` is called. -/
  | action (busy : RemoteSessionBusy)
  /-- A call is answered, or fails with an error (after `normalizeRemoteError`). -/
  | answered (call : Nat) (answer : Except RemoteError RemoteSnapshot)

/-- `offSnapshot`. -/
def offSnapshot : RemoteSnapshot := ⟨.off, none, none, none, none, none⟩

/-- What an answer shows. -/
def answerSnapshot : Except RemoteError RemoteSnapshot → RemoteSnapshot
  | .ok snapshot => snapshot
  | .error error => ⟨.error, none, none, none, none, some error⟩

namespace Call

/-- The subscription of an effect that was not cleaned up. -/
def subscribed (c : Call) : Bool := decide (c.closure = .effect true)

def unsubscribe (c : Call) : Call := { c with closure := .effect false }

end Call

namespace RemoteSessionHook

def initial : RemoteSessionHook where
  snapshot := offSnapshot
  busy := none
  generationRef := 0
  operationRef := 0
  revisionRef := 0
  calls := []

/-- `revisionRef.current += 1; setSnapshot(snapshot)`. -/
def setSnapshot (h : RemoteSessionHook) (snapshot : RemoteSnapshot) : RemoteSessionHook :=
  { h with revisionRef := h.revisionRef + 1, snapshot := snapshot }

def effect (h : RemoteSessionHook) : RemoteSessionHook :=
  let generation := h.generationRef + 1
  let operation := h.operationRef + 1
  { h with
    generationRef := generation
    operationRef := operation
    busy := none
    calls := h.calls ++ [⟨⟨generation, operation, h.revisionRef⟩, .effect true, true⟩] }

/-- The function the effect of call `i` returned. -/
def cleanup (h : RemoteSessionHook) (i : Nat) (c : Call) : RemoteSessionHook :=
  let h := { h with calls := h.calls.set i c.unsubscribe }
  if h.generationRef = c.stamp.generation then
    { h with generationRef := h.generationRef + 1, operationRef := h.operationRef + 1 }
  else h

def notified (h : RemoteSessionHook) (c : Call) (snapshot : RemoteSnapshot) : RemoteSessionHook :=
  if c.subscribed = false ∨ h.generationRef ≠ c.stamp.generation then h
  else h.setSnapshot snapshot

/-- The refs are as the closure found them. -/
def Unchanged (h : RemoteSessionHook) (stamp : Stamp) : Prop :=
  h.generationRef = stamp.generation ∧ h.operationRef = stamp.operation ∧
    h.revisionRef = stamp.revision

instance (h : RemoteSessionHook) (stamp : Stamp) : Decidable (h.Unchanged stamp) :=
  inferInstanceAs (Decidable (_ ∧ _ ∧ _))

/-- The continuations of `subscribe`. -/
def subscribeAnswered (h : RemoteSessionHook) (c : Call)
    (answer : Except RemoteError RemoteSnapshot) : RemoteSessionHook :=
  if c.subscribed = true ∧ h.Unchanged c.stamp then h.setSnapshot (answerSnapshot answer) else h

def applyAction (h : RemoteSessionHook) (nextBusy : RemoteSessionBusy) : RemoteSessionHook :=
  let operation := h.operationRef + 1
  { h with
    operationRef := operation
    busy := some nextBusy
    calls := h.calls ++ [⟨⟨h.generationRef, operation, h.revisionRef⟩, .applyAction, true⟩] }

/-- The rest of `applyAction`, after `await action()`. -/
def actionAnswered (h : RemoteSessionHook) (c : Call)
    (answer : Except RemoteError RemoteSnapshot) : RemoteSessionHook :=
  let h := if h.Unchanged c.stamp then h.setSnapshot (answerSnapshot answer) else h
  if h.generationRef = c.stamp.generation ∧ h.operationRef = c.stamp.operation then
    { h with busy := none }
  else h

/-- A promise is settled once. -/
def answered (h : RemoteSessionHook) (i : Nat) (c : Call)
    (answer : Except RemoteError RemoteSnapshot) : RemoteSessionHook :=
  let h := { h with calls := h.calls.set i { c with pending := false } }
  match c.closure with
  | .effect _ => h.subscribeAnswered c answer
  | .applyAction => h.actionAnswered c answer

/-- The hook after an event, if the event can come. -/
def step (h : RemoteSessionHook) : HookEvent → Option RemoteSessionHook
  | .effect => if h.calls.any Call.subscribed then none else some h.effect
  | .cleanup i =>
    match h.calls[i]? with
    | some c => if c.subscribed then some (h.cleanup i c) else none
    | none => none
  | .notified i snapshot =>
    match h.calls[i]? with
    | some c => if c.closure = .applyAction then none else some (h.notified c snapshot)
    | none => none
  | .action busy => some (h.applyAction busy)
  | .answered i answer =>
    match h.calls[i]? with
    | some c => if c.pending then some (h.answered i c answer) else none
    | none => none

/-- The hook from its first render on. -/
def system : System RemoteSessionHook HookEvent where
  start h := h = initial
  step h event g := h.step event = some g

end RemoteSessionHook

/-! ## What the page is to show -/

/-- The page as its reader sees it: one call at most is awaited, the latest. -/
structure PanelView where
  snapshot : RemoteSnapshot
  busy : Option RemoteSessionBusy
  /-- The number of calls so far. -/
  calls : Nat
  /-- The call whose pushes are shown. -/
  subscription : Option Nat
  /-- The call whose answer will be shown. -/
  awaited : Option Nat
  /-- The action the page is busy with. -/
  running : Option Nat

namespace PanelView

def initial : PanelView := ⟨offSnapshot, none, 0, none, none, none⟩

/-- A snapshot is shown, and no answer to an earlier call will be. -/
def display (v : PanelView) (snapshot : RemoteSnapshot) : PanelView :=
  { v with snapshot := snapshot, awaited := none }

def apply (v : PanelView) : HookEvent → PanelView
  | .effect =>
    { v with
      busy := none
      calls := v.calls + 1
      subscription := some v.calls
      awaited := some v.calls
      running := none }
  | .cleanup _ => { v with subscription := none, awaited := none, running := none }
  | .notified i snapshot => if v.subscription = some i then v.display snapshot else v
  | .action busy =>
    { v with
      busy := some busy
      calls := v.calls + 1
      awaited := some v.calls
      running := some v.calls }
  | .answered i answer =>
    let shown := if v.awaited = some i then v.display (answerSnapshot answer) else v
    if v.running = some i then { shown with busy := none, running := none } else shown

def run (events : List HookEvent) (v : PanelView) : PanelView := events.foldl apply v

end PanelView

/-! ## The hook shows the view -/

namespace RemoteSessionHook
variable {h g : RemoteSessionHook} {v : PanelView}

/-- The refs and the closures of the hook amount to the view. -/
structure Shows (h : RemoteSessionHook) (v : PanelView) : Prop where
  snapshot : h.snapshot = v.snapshot
  busy : h.busy = v.busy
  calls : h.calls.length = v.calls
  subscription : ∀ (i : Nat) (c : Call), h.calls[i]? = some c →
    (c.subscribed = true ↔ v.subscription = some i)
  subscription_lt : ∀ i, v.subscription = some i → i < v.calls
  generation : ∀ (i : Nat) (c : Call), h.calls[i]? = some c → c.subscribed = true →
    c.stamp.generation = h.generationRef
  awaited : ∀ (i : Nat) (c : Call), h.calls[i]? = some c → c.pending = true →
    (v.awaited = some i ↔ c.closure ≠ .effect false ∧ h.Unchanged c.stamp)
  running : ∀ (i : Nat) (c : Call), h.calls[i]? = some c → c.pending = true →
    (v.running = some i ↔ c.closure = .applyAction ∧ h.generationRef = c.stamp.generation ∧
      h.operationRef = c.stamp.operation)
  stamped : ∀ (i : Nat) (c : Call), h.calls[i]? = some c →
    c.stamp.operation ≤ h.operationRef ∧ c.stamp.revision ≤ h.revisionRef

/-- A call in a list where one was added. -/
theorem getElem?_snoc {calls : List Call} {c d : Call} {i : Nat}
    (h : (calls ++ [c])[i]? = some d) :
    calls[i]? = some d ∧ i < calls.length ∨ i = calls.length ∧ d = c := by
  by_cases hlt : i < calls.length
  · rw [List.getElem?_append_left hlt] at h
    exact .inl ⟨h, hlt⟩
  · have hle := (List.getElem?_eq_some_iff.mp h).1
    rw [List.length_append, List.length_singleton] at hle
    obtain rfl : i = calls.length := by omega
    rw [List.getElem?_concat_length] at h
    exact .inr ⟨rfl, (Option.some.inj h).symm⟩

/-- A call in a list where one was replaced. -/
theorem getElem?_replaced {calls : List Call} {c d : Call} {i j : Nat}
    (h : (calls.set i c)[j]? = some d) : j = i ∧ d = c ∨ j ≠ i ∧ calls[j]? = some d := by
  by_cases heq : j = i
  · subst heq
    have hlt := (List.getElem?_eq_some_iff.mp h).1
    rw [List.length_set] at hlt
    rw [List.getElem?_set_self hlt] at h
    exact .inl ⟨rfl, (Option.some.inj h).symm⟩
  · rw [List.getElem?_set_ne (Ne.symm heq)] at h
    exact .inr ⟨heq, h⟩

namespace Shows

theorem initial : RemoteSessionHook.initial.Shows .initial :=
  ⟨rfl, rfl, rfl, nofun, nofun, nofun, nofun, nofun, nofun⟩

/-- What is shown makes every answer that is under way a stale one. -/
theorem setSnapshot (hs : h.Shows v) (snapshot : RemoteSnapshot) :
    (h.setSnapshot snapshot).Shows (v.display snapshot) where
  snapshot := rfl
  busy := hs.busy
  calls := hs.calls
  subscription := hs.subscription
  subscription_lt := hs.subscription_lt
  generation := hs.generation
  awaited i c hi _ := by
    refine ⟨nofun, ?_⟩
    rintro ⟨_, _, _, hrevision⟩
    have hle := (hs.stamped i c hi).2
    change _ + 1 = _ at hrevision
    omega
  running := hs.running
  stamped i c hi := ⟨(hs.stamped i c hi).1, Nat.le_succ_of_le (hs.stamped i c hi).2⟩

/-- A new call makes all earlier ones stale: its operation has a greater number. -/
theorem effect (hs : h.Shows v) (hcleaned : h.calls.any Call.subscribed = false) :
    h.effect.Shows (v.apply .effect) := by
  have hold : ∀ (i : Nat) (c : Call), h.calls[i]? = some c → c.subscribed = false := fun i c hi =>
    Bool.eq_false_iff.mpr (List.any_eq_false.mp hcleaned c (List.mem_of_getElem? hi))
  constructor
  case snapshot => exact hs.snapshot
  case busy => rfl
  case calls => simp [RemoteSessionHook.effect, PanelView.apply, hs.calls]
  case subscription =>
    intro i c hi
    rcases getElem?_snoc hi with ⟨hi, hlt⟩ | ⟨rfl, rfl⟩
    · have hne : v.calls ≠ i := by
        rw [← hs.calls]
        omega
      simp [PanelView.apply, hold i c hi, hne]
    · simp [PanelView.apply, Call.subscribed, hs.calls]
  case subscription_lt =>
    rintro i ⟨⟩
    exact Nat.lt_succ_self _
  case generation =>
    intro i c hi hsubscribed
    rcases getElem?_snoc hi with ⟨hi, _⟩ | ⟨_, rfl⟩
    · exact absurd hsubscribed (Bool.eq_false_iff.mp (hold i c hi))
    · rfl
  case awaited =>
    intro i c hi _
    rcases getElem?_snoc hi with ⟨hi, hlt⟩ | ⟨rfl, rfl⟩
    · have hne : v.calls ≠ i := by
        rw [← hs.calls]
        omega
      have hle := (hs.stamped i c hi).1
      refine ⟨fun heq => absurd (Option.some.inj heq) hne, ?_⟩
      rintro ⟨_, _, hoperation, _⟩
      change _ + 1 = _ at hoperation
      omega
    · simp [PanelView.apply, Unchanged, RemoteSessionHook.effect, hs.calls]
  case running =>
    intro i c hi _
    refine ⟨nofun, ?_⟩
    rintro ⟨hclosure, _, hoperation⟩
    rcases getElem?_snoc hi with ⟨hi, _⟩ | ⟨_, rfl⟩
    · have hle := (hs.stamped i c hi).1
      change _ + 1 = _ at hoperation
      omega
    · cases hclosure
  case stamped =>
    intro i c hi
    rcases getElem?_snoc hi with ⟨hi, _⟩ | ⟨_, rfl⟩
    · exact ⟨Nat.le_succ_of_le (hs.stamped i c hi).1, (hs.stamped i c hi).2⟩
    · exact ⟨Nat.le_refl _, Nat.le_refl _⟩

theorem applyAction (hs : h.Shows v) (busy : RemoteSessionBusy) :
    (h.applyAction busy).Shows (v.apply (.action busy)) := by
  constructor
  case snapshot => exact hs.snapshot
  case busy => rfl
  case calls => simp [RemoteSessionHook.applyAction, PanelView.apply, hs.calls]
  case subscription =>
    intro i c hi
    rcases getElem?_snoc hi with ⟨hi, _⟩ | ⟨rfl, rfl⟩
    · exact hs.subscription i c hi
    · refine ⟨nofun, fun heq => ?_⟩
      have hlt := hs.subscription_lt _ heq
      rw [hs.calls] at hlt
      omega
  case subscription_lt => exact fun i hi => Nat.lt_succ_of_lt (hs.subscription_lt i hi)
  case generation =>
    intro i c hi hsubscribed
    rcases getElem?_snoc hi with ⟨hi, _⟩ | ⟨_, rfl⟩
    · exact hs.generation i c hi hsubscribed
    · rfl
  case awaited =>
    intro i c hi _
    rcases getElem?_snoc hi with ⟨hi, hlt⟩ | ⟨rfl, rfl⟩
    · have hne : v.calls ≠ i := by
        rw [← hs.calls]
        omega
      have hle := (hs.stamped i c hi).1
      refine ⟨fun heq => absurd (Option.some.inj heq) hne, ?_⟩
      rintro ⟨_, _, hoperation, _⟩
      change _ + 1 = _ at hoperation
      omega
    · simp [PanelView.apply, Unchanged, RemoteSessionHook.applyAction, hs.calls]
  case running =>
    intro i c hi _
    rcases getElem?_snoc hi with ⟨hi, hlt⟩ | ⟨rfl, rfl⟩
    · have hne : v.calls ≠ i := by
        rw [← hs.calls]
        omega
      have hle := (hs.stamped i c hi).1
      refine ⟨fun heq => absurd (Option.some.inj heq) hne, ?_⟩
      rintro ⟨_, _, hoperation⟩
      change _ + 1 = _ at hoperation
      omega
    · simp [PanelView.apply, RemoteSessionHook.applyAction, hs.calls]
  case stamped =>
    intro i c hi
    rcases getElem?_snoc hi with ⟨hi, _⟩ | ⟨_, rfl⟩
    · exact ⟨Nat.le_succ_of_le (hs.stamped i c hi).1, (hs.stamped i c hi).2⟩
    · exact ⟨Nat.le_refl _, Nat.le_refl _⟩

/-- The cleanup advances both counters, so that nothing is awaited any more. -/
theorem cleanup (hs : h.Shows v) {i : Nat} {c : Call} (hi : h.calls[i]? = some c)
    (hsubscribed : c.subscribed = true) : (h.cleanup i c).Shows (v.apply (.cleanup i)) := by
  have hgeneration := (hs.generation i c hi hsubscribed).symm
  have hcleanup : h.cleanup i c =
      { h with
        generationRef := h.generationRef + 1
        operationRef := h.operationRef + 1
        calls := h.calls.set i c.unsubscribe } := by
    simp [RemoteSessionHook.cleanup, hgeneration]
  have hstamped : ∀ (j : Nat) (d : Call), (h.calls.set i c.unsubscribe)[j]? = some d →
      d.stamp.operation ≤ h.operationRef ∧ d.stamp.revision ≤ h.revisionRef := by
    intro j d hj
    rcases getElem?_replaced hj with ⟨_, rfl⟩ | ⟨_, hj⟩
    · exact hs.stamped i c hi
    · exact hs.stamped j d hj
  -- The effect that is cleaned up was the only one in force.
  have hnone : ∀ (j : Nat) (d : Call), (h.calls.set i c.unsubscribe)[j]? = some d →
      d.subscribed = false := by
    intro j d hj
    rcases getElem?_replaced hj with ⟨_, rfl⟩ | ⟨hne, hj⟩
    · rfl
    · refine Bool.eq_false_iff.mpr fun hd => hne ?_
      have hsame := ((hs.subscription j d hj).mp hd).symm.trans
        ((hs.subscription i c hi).mp hsubscribed)
      exact Option.some.inj hsame
  rw [hcleanup]
  constructor
  case snapshot => exact hs.snapshot
  case busy => exact hs.busy
  case calls => exact List.length_set.trans hs.calls
  case subscription => exact fun j d hj => ⟨fun hd => by simp [hnone j d hj] at hd, nofun⟩
  case subscription_lt => exact nofun
  case generation => exact fun j d hj hd => by simp [hnone j d hj] at hd
  case awaited =>
    intro j d hj _
    have hle := (hstamped j d hj).1
    refine ⟨nofun, ?_⟩
    rintro ⟨_, _, hoperation, _⟩
    change _ + 1 = _ at hoperation
    omega
  case running =>
    intro j d hj _
    have hle := (hstamped j d hj).1
    refine ⟨nofun, ?_⟩
    rintro ⟨_, _, hoperation⟩
    change _ + 1 = _ at hoperation
    omega
  case stamped =>
    intro j d hj
    exact ⟨Nat.le_succ_of_le (hstamped j d hj).1, (hstamped j d hj).2⟩

/-- A call that is settled. -/
theorem settle (hs : h.Shows v) {i : Nat} {c : Call} (hi : h.calls[i]? = some c) :
    { h with calls := h.calls.set i { c with pending := false } }.Shows v where
  snapshot := hs.snapshot
  busy := hs.busy
  calls := List.length_set.trans hs.calls
  subscription j d hj := by
    rcases getElem?_replaced hj with ⟨rfl, rfl⟩ | ⟨_, hj⟩
    · exact hs.subscription j c hi
    · exact hs.subscription j d hj
  subscription_lt := hs.subscription_lt
  generation j d hj := by
    rcases getElem?_replaced hj with ⟨rfl, rfl⟩ | ⟨_, hj⟩
    · exact hs.generation j c hi
    · exact hs.generation j d hj
  awaited j d hj hpending := by
    rcases getElem?_replaced hj with ⟨_, rfl⟩ | ⟨_, hj⟩
    · cases hpending
    · exact hs.awaited j d hj hpending
  running j d hj hpending := by
    rcases getElem?_replaced hj with ⟨_, rfl⟩ | ⟨_, hj⟩
    · cases hpending
    · exact hs.running j d hj hpending
  stamped j d hj := by
    rcases getElem?_replaced hj with ⟨rfl, rfl⟩ | ⟨_, hj⟩
    · exact hs.stamped j c hi
    · exact hs.stamped j d hj

/-- The page is busy no more. -/
theorem idle (hs : h.Shows v)
    (hnone : ∀ (i : Nat) (c : Call), h.calls[i]? = some c → c.pending = true → v.running ≠ some i) :
    { h with busy := none }.Shows { v with busy := none, running := none } where
  snapshot := hs.snapshot
  busy := rfl
  calls := hs.calls
  subscription := hs.subscription
  subscription_lt := hs.subscription_lt
  generation := hs.generation
  awaited := hs.awaited
  running i c hi hpending := by
    refine ⟨nofun, fun hrunning => ?_⟩
    exact absurd ((hs.running i c hi hpending).mpr hrunning) (hnone i c hi hpending)
  stamped := hs.stamped

theorem notified (hs : h.Shows v) {i : Nat} {c : Call} (hi : h.calls[i]? = some c)
    (snapshot : RemoteSnapshot) :
    (h.notified c snapshot).Shows (v.apply (.notified i snapshot)) := by
  have hiff := hs.subscription i c hi
  simp only [RemoteSessionHook.notified, PanelView.apply]
  by_cases hsubscribed : c.subscribed = true
  · have hgeneration := hs.generation i c hi hsubscribed
    rw [if_neg (by simp [hsubscribed, hgeneration]), if_pos (hiff.mp hsubscribed)]
    exact hs.setSnapshot snapshot
  · rw [if_pos (.inl (Bool.eq_false_iff.mpr hsubscribed)), if_neg (mt hiff.mpr hsubscribed)]
    exact hs

theorem subscribeAnswered (hs : h.Shows v) {i : Nat} {c : Call}
    (hshown : c.subscribed = true ∧ h.Unchanged c.stamp ↔ v.awaited = some i)
    (hrunning : v.running ≠ some i) (answer : Except RemoteError RemoteSnapshot) :
    (h.subscribeAnswered c answer).Shows (v.apply (.answered i answer)) := by
  simp only [RemoteSessionHook.subscribeAnswered, PanelView.apply, if_neg hrunning]
  by_cases hcase : v.awaited = some i
  · rw [if_pos hcase, if_pos (hshown.mpr hcase)]
    exact hs.setSnapshot _
  · rw [if_neg hcase, if_neg (mt hshown.mp hcase)]
    exact hs

/-- The end of an action: the snapshot first, which leaves generation and operation alone,
then the flag. -/
theorem actionAnswered (hs : h.Shows v) {i : Nat} {c : Call}
    (hshown : h.Unchanged c.stamp ↔ v.awaited = some i)
    (hover : h.generationRef = c.stamp.generation ∧ h.operationRef = c.stamp.operation ↔
      v.running = some i)
    (hothers : ∀ (j : Nat) (d : Call), h.calls[j]? = some d → d.pending = true → j ≠ i)
    (answer : Except RemoteError RemoteSnapshot) :
    (h.actionAnswered c answer).Shows (v.apply (.answered i answer)) := by
  have hfinally : ∀ (g : RemoteSessionHook) (w : PanelView), g.Shows w →
      w.running = v.running → g.calls = h.calls →
      (if h.generationRef = c.stamp.generation ∧ h.operationRef = c.stamp.operation then
        { g with busy := none } else g).Shows
        (if v.running = some i then { w with busy := none, running := none } else w) := by
    intro g w hg hsame hcalls
    by_cases hcase : v.running = some i
    · rw [if_pos hcase, if_pos (hover.mpr hcase)]
      refine hg.idle fun j d hj hd heq => ?_
      rw [hcalls] at hj
      rw [hsame, hcase] at heq
      exact hothers j d hj hd (Option.some.inj heq).symm
    · rw [if_neg hcase, if_neg (mt hover.mp hcase)]
      exact hg
  simp only [RemoteSessionHook.actionAnswered, PanelView.apply]
  by_cases hcase : v.awaited = some i
  · rw [if_pos hcase, if_pos (hshown.mpr hcase)]
    exact hfinally _ _ (hs.setSnapshot _) rfl rfl
  · rw [if_neg hcase, if_neg (mt hshown.mp hcase)]
    exact hfinally _ _ hs rfl rfl

theorem answered (hs : h.Shows v) {i : Nat} {c : Call} (hi : h.calls[i]? = some c)
    (hpending : c.pending = true) (answer : Except RemoteError RemoteSnapshot) :
    (h.answered i c answer).Shows (v.apply (.answered i answer)) := by
  have hawaited := hs.awaited i c hi hpending
  have hrunning := hs.running i c hi hpending
  have hsettled := hs.settle hi
  unfold RemoteSessionHook.answered
  split
  · next subscribed hclosure =>
    have hshown : c.subscribed = true ∧ h.Unchanged c.stamp ↔ v.awaited = some i := by
      rw [hawaited, Call.subscribed, hclosure]
      cases subscribed <;> simp
    have hidle : v.running ≠ some i := by
      intro heq
      rw [hrunning, hclosure] at heq
      cases heq.1
    exact hsettled.subscribeAnswered hshown hidle answer
  · next hclosure =>
    have hshown : h.Unchanged c.stamp ↔ v.awaited = some i := by
      rw [hawaited, hclosure]
      simp
    have hover : h.generationRef = c.stamp.generation ∧ h.operationRef = c.stamp.operation ↔
        v.running = some i := by
      rw [hrunning, hclosure]
      simp
    refine hsettled.actionAnswered hshown hover ?_ answer
    intro j d hj hd
    rcases getElem?_replaced hj with ⟨_, rfl⟩ | ⟨hne, _⟩
    · cases hd
    · exact hne

theorem step (hs : h.Shows v) {event : HookEvent} (hstep : h.step event = some g) :
    g.Shows (v.apply event) := by
  cases event with
  | effect =>
    simp only [RemoteSessionHook.step] at hstep
    split at hstep
    · cases hstep
    · next hcleaned =>
      cases hstep
      exact hs.effect (Bool.eq_false_iff.mpr hcleaned)
  | cleanup i =>
    simp only [RemoteSessionHook.step] at hstep
    split at hstep
    · next c hi =>
      split at hstep
      · next hsubscribed =>
        cases hstep
        exact hs.cleanup hi hsubscribed
      · cases hstep
    · cases hstep
  | notified i snapshot =>
    simp only [RemoteSessionHook.step] at hstep
    split at hstep
    · next c hi =>
      split at hstep
      · cases hstep
      · cases hstep
        exact hs.notified hi snapshot
    · cases hstep
  | action busy =>
    cases hstep
    exact hs.applyAction busy
  | answered i answer =>
    simp only [RemoteSessionHook.step] at hstep
    split at hstep
    · next c hi =>
      split at hstep
      · next hpending =>
        cases hstep
        exact hs.answered hi hpending answer
      · cases hstep
    · cases hstep

end Shows

/-! ## The flag `busy` -/

/-- While an effect is in force, the page is busy with an action that is under way. -/
def Occupied (h : RemoteSessionHook) (v : PanelView) : Prop :=
  v.subscription ≠ none → v.busy ≠ none →
    ∃ i c, v.running = some i ∧ h.calls[i]? = some c ∧ c.pending = true

theorem calls_notified (h : RemoteSessionHook) (c : Call) (snapshot : RemoteSnapshot) :
    (h.notified c snapshot).calls = h.calls := by
  unfold notified
  split <;> rfl

theorem calls_answered (h : RemoteSessionHook) (i : Nat) (c : Call)
    (answer : Except RemoteError RemoteSnapshot) :
    (h.answered i c answer).calls = h.calls.set i { c with pending := false } := by
  unfold answered
  split
  · simp only [subscribeAnswered]
    split <;> rfl
  · simp only [actionAnswered]
    split <;> split <;> rfl

namespace Occupied

theorem notified (ho : h.Occupied v) (i : Nat) (c : Call) (snapshot : RemoteSnapshot) :
    (h.notified c snapshot).Occupied (v.apply (.notified i snapshot)) := by
  have hcalls := h.calls_notified c snapshot
  simp only [PanelView.apply]
  split <;> simpa [Occupied, PanelView.display, hcalls] using ho

theorem answered (ho : h.Occupied v) (i : Nat) (c : Call)
    (answer : Except RemoteError RemoteSnapshot) :
    (h.answered i c answer).Occupied (v.apply (.answered i answer)) := by
  intro hsubscription hbusy
  simp only [PanelView.apply] at hsubscription hbusy ⊢
  rw [calls_answered]
  by_cases hrunning : v.running = some i
  · rw [if_pos hrunning] at hbusy
    exact absurd rfl hbusy
  · rw [if_neg hrunning] at hsubscription hbusy ⊢
    have hkept : ∀ w : PanelView, w = (if v.awaited = some i then v.display (answerSnapshot answer)
        else v) → w.subscription = v.subscription ∧ w.busy = v.busy ∧ w.running = v.running := by
      rintro w rfl
      split <;> exact ⟨rfl, rfl, rfl⟩
    obtain ⟨hsub, hflag, hrun⟩ := hkept _ rfl
    rw [hsub] at hsubscription
    rw [hflag] at hbusy
    obtain ⟨j, d, hj, hd, hpending⟩ := ho hsubscription hbusy
    have hne : i ≠ j := by
      rintro rfl
      exact hrunning hj
    exact ⟨j, d, hrun.trans hj, (List.getElem?_set_ne hne).trans hd, hpending⟩

theorem step (ho : h.Occupied v) (hs : h.Shows v) {event : HookEvent}
    (hstep : h.step event = some g) : g.Occupied (v.apply event) := by
  cases event with
  | effect => exact fun _ hbusy => absurd rfl hbusy
  | cleanup i => exact fun hsubscription _ => absurd rfl hsubscription
  | notified i snapshot =>
    simp only [RemoteSessionHook.step] at hstep
    split at hstep
    · next c _ =>
      split at hstep
      · cases hstep
      · cases hstep
        exact ho.notified i c snapshot
    · cases hstep
  | action busy =>
    cases hstep
    refine fun _ _ => ⟨v.calls,
      ⟨⟨h.generationRef, h.operationRef + 1, h.revisionRef⟩, .applyAction, true⟩, rfl, ?_, rfl⟩
    rw [← hs.calls]
    exact List.getElem?_concat_length
  | answered i answer =>
    simp only [RemoteSessionHook.step] at hstep
    split at hstep
    · next c _ =>
      split at hstep
      · cases hstep
        exact ho.answered i c answer
      · cases hstep
    · cases hstep

end Occupied
end RemoteSessionHook

/-! ## What a view shows -/

namespace HookEvent

/-- A call to the client begins. -/
def isCall : HookEvent → Bool
  | effect => true
  | action _ => true
  | _ => false

/-- The snapshot the event brings. -/
def payload : HookEvent → Option RemoteSnapshot
  | notified _ snapshot => some snapshot
  | answered _ answer => some (answerSnapshot answer)
  | _ => none

end HookEvent

namespace PanelView
variable {v : PanelView}

theorem run_snoc (v : PanelView) (events : List HookEvent) (e : HookEvent) :
    v.run (events ++ [e]) = (v.run events).apply e := by
  simp [run, List.foldl_append]

theorem run_append (v : PanelView) (events more : List HookEvent) :
    v.run (events ++ more) = (v.run events).run more := List.foldl_append

/-- An event is shown, or leaves the snapshot alone. -/
theorem apply_snapshot (v : PanelView) (e : HookEvent) :
    (v.apply e).snapshot = v.snapshot ∨ e.payload = some (v.apply e).snapshot := by
  cases e with
  | effect => exact .inl rfl
  | cleanup i => exact .inl rfl
  | notified i snapshot =>
    simp only [apply]
    split
    · exact .inr rfl
    · exact .inl rfl
  | action busy => exact .inl rfl
  | answered i answer =>
    simp only [apply]
    split <;> split
    · exact .inr rfl
    · exact .inl rfl
    · exact .inr rfl
    · exact .inl rfl

theorem run_snapshot (events : List HookEvent) (v : PanelView) :
    (v.run events).snapshot = v.snapshot ∨
      ∃ e ∈ events, e.payload = some (v.run events).snapshot := by
  induction events generalizing v with
  | nil => exact .inl rfl
  | cons e events ih =>
    rcases ih (v.apply e) with hsame | ⟨f, hf, hshown⟩
    · rcases v.apply_snapshot e with hkept | hpayload
      · exact .inl (hsame.trans hkept)
      · exact .inr ⟨e, List.mem_cons_self, hpayload.trans (congrArg some hsame.symm)⟩
    · exact .inr ⟨f, List.mem_cons_of_mem _ hf, hshown⟩

/-- Nothing is awaited, and nothing is pushed: the page stays as it is. -/
theorem run_unchanged {events : List HookEvent} (hnone : v.awaited = none)
    (hcalls : ∀ e ∈ events, e.isCall = false)
    (hpushed : ∀ i snapshot, .notified i snapshot ∈ events → v.subscription ≠ some i) :
    (v.run events).snapshot = v.snapshot := by
  induction events generalizing v with
  | nil => rfl
  | cons e events ih =>
    have hcall := hcalls e List.mem_cons_self
    have hmore : ∀ e ∈ events, e.isCall = false := fun e he =>
      hcalls e (List.mem_cons_of_mem _ he)
    have hrest : ∀ i snapshot, .notified i snapshot ∈ events → v.subscription ≠ some i :=
      fun i snapshot hmem => hpushed i snapshot (List.mem_cons_of_mem _ hmem)
    cases e with
    | effect => cases hcall
    | cleanup i => exact ih (v := v.apply (.cleanup i)) rfl hmore nofun
    | notified i snapshot =>
      have hkept : v.apply (.notified i snapshot) = v :=
        if_neg (hpushed i snapshot List.mem_cons_self)
      change ((v.apply (.notified i snapshot)).run events).snapshot = _
      rw [hkept]
      exact ih hnone hmore hrest
    | action busy => cases hcall
    | answered i answer =>
      have hkept : (v.apply (.answered i answer)).snapshot = v.snapshot ∧
          (v.apply (.answered i answer)).awaited = none ∧
          (v.apply (.answered i answer)).subscription = v.subscription := by
        simp only [apply, hnone, if_neg (Option.some_ne_none i).symm]
        split
        · exact ⟨rfl, rfl, rfl⟩
        · exact ⟨rfl, hnone, rfl⟩
      obtain ⟨hsnapshot, hawaited, hsubscription⟩ := hkept
      rw [← hsubscription] at hrest
      exact (ih hawaited hmore hrest).trans hsnapshot

/-- An answer that is awaited is shown, unless something is shown before it comes. -/
theorem run_answered {events : List HookEvent} {i : Nat}
    {answer : Except RemoteError RemoteSnapshot} (hawaited : v.awaited = some i)
    (hcalls : ∀ e ∈ events, e.isCall = false) (hkept : ∀ j, .cleanup j ∉ events)
    (hanswered : .answered i answer ∈ events) :
    ∃ e ∈ events, e.payload = some (v.run events).snapshot := by
  induction events generalizing v with
  | nil => cases hanswered
  | cons e events ih =>
    have hshown : e.payload = some (v.apply e).snapshot →
        ∃ f ∈ e :: events, f.payload = some (v.run (e :: events)).snapshot := by
      intro hpayload
      rcases run_snapshot events (v.apply e) with hsame | ⟨f, hf, hlater⟩
      · exact ⟨e, List.mem_cons_self, hpayload.trans (congrArg some hsame.symm)⟩
      · exact ⟨f, List.mem_cons_of_mem _ hf, hlater⟩
    have hwaits : (v.apply e).awaited = some i → .answered i answer ∈ events →
        ∃ f ∈ e :: events, f.payload = some (v.run (e :: events)).snapshot := by
      intro hawaited hlater
      obtain ⟨f, hf, hpayload⟩ := ih hawaited (fun e he => hcalls e (List.mem_cons_of_mem _ he))
        (fun j hj => hkept j (List.mem_cons_of_mem _ hj)) hlater
      exact ⟨f, List.mem_cons_of_mem _ hf, hpayload⟩
    have hcall := hcalls e List.mem_cons_self
    cases e with
    | effect => cases hcall
    | cleanup j => exact absurd List.mem_cons_self (hkept j)
    | notified j snapshot =>
      have hlater : .answered i answer ∈ events := by simpa using hanswered
      by_cases hsubscription : v.subscription = some j
      · refine hshown ?_
        simp [apply, hsubscription, display, HookEvent.payload]
      · refine hwaits ?_ hlater
        simp [apply, hsubscription, hawaited]
    | action busy => cases hcall
    | answered j other =>
      by_cases heq : j = i
      · subst heq
        refine hshown ?_
        simp only [apply, if_pos hawaited]
        split <;> rfl
      · have hne : v.awaited ≠ some j := fun h => heq (Option.some.inj (h.symm.trans hawaited))
        have hlater : .answered i answer ∈ events := by
          rcases List.mem_cons.mp hanswered with hfirst | hlater
          · cases hfirst
            exact absurd rfl heq
          · exact hlater
        refine hwaits ?_ hlater
        simp only [apply, if_neg hne]
        split <;> exact hawaited

theorem apply_call (v : PanelView) {call : HookEvent} (hcall : call.isCall = true) :
    (v.apply call).awaited = some v.calls ∧ (v.apply call).calls = v.calls + 1 := by
  cases call with
  | effect => exact ⟨rfl, rfl⟩
  | action busy => exact ⟨rfl, rfl⟩
  | cleanup i => cases hcall
  | notified i snapshot => cases hcall
  | answered i answer => cases hcall

theorem run_calls {events : List HookEvent} (hcalls : ∀ e ∈ events, e.isCall = false) :
    (v.run events).calls = v.calls := by
  induction events generalizing v with
  | nil => rfl
  | cons e events ih =>
    have hkept : (v.apply e).calls = v.calls := by
      have hcall := hcalls e List.mem_cons_self
      cases e with
      | effect => cases hcall
      | cleanup i => rfl
      | notified i snapshot =>
        simp only [apply]
        split <;> rfl
      | action busy => cases hcall
      | answered i answer =>
        simp only [apply]
        split <;> split <;> rfl
    exact (ih fun e he => hcalls e (List.mem_cons_of_mem _ he)).trans hkept

/-- What is awaited or running is the latest call. -/
def Latest (v : PanelView) : Prop :=
  (∀ i, v.awaited = some i → i + 1 = v.calls) ∧ (∀ i, v.running = some i → i + 1 = v.calls)

theorem Latest.apply (hl : v.Latest) (e : HookEvent) : (v.apply e).Latest := by
  obtain ⟨hawaited, hrunning⟩ := hl
  cases e with
  | effect => exact ⟨fun i hi => congrArg (· + 1) (Option.some.inj hi).symm, nofun⟩
  | cleanup i => exact ⟨nofun, nofun⟩
  | notified i snapshot =>
    simp only [PanelView.apply]
    split
    · exact ⟨nofun, hrunning⟩
    · exact ⟨hawaited, hrunning⟩
  | action busy =>
    exact ⟨fun i hi => congrArg (· + 1) (Option.some.inj hi).symm,
      fun i hi => congrArg (· + 1) (Option.some.inj hi).symm⟩
  | answered i answer =>
    simp only [PanelView.apply]
    split <;> split
    · exact ⟨nofun, nofun⟩
    · exact ⟨hawaited, nofun⟩
    · exact ⟨nofun, hrunning⟩
    · exact ⟨hawaited, hrunning⟩

end PanelView

/-! ## The law -/

open RemoteSessionHook in
theorem RemoteSessionHook.shows_of_run {events : List HookEvent} {h : RemoteSessionHook}
    (hrun : Run system .initial events h) :
    h.Shows (PanelView.initial.run events) ∧ h.Occupied (PanelView.initial.run events) ∧
      (PanelView.initial.run events).Latest := by
  induction hrun with
  | nil => exact ⟨.initial, fun hsubscription => absurd rfl hsubscription, nofun, nofun⟩
  | snoc _ hstep ih =>
    obtain ⟨hs, ho, hl⟩ := ih
    rw [PanelView.run_snoc]
    exact ⟨hs.step hstep, ho.step hs hstep, hl.apply _⟩

/-- What the page shows after some events. -/
structure RemoteSessionLaw (events : List HookEvent) (h : RemoteSessionHook) : Prop where
  snapshot : h.snapshot = (PanelView.initial.run events).snapshot
  busy : h.busy = (PanelView.initial.run events).busy
  /-- The page is busy only as long as the latest call, an action, is under way. -/
  released : ∀ busy, h.calls.any Call.subscribed = true → h.busy = some busy →
    ∃ c, h.calls.getLast? = some c ∧ c.closure = .applyAction ∧ c.pending = true
  /-- No answer to an earlier call takes the place of what the subscription pushed. -/
  pushed : ∀ before i snapshot after, events = before ++ .notified i snapshot :: after →
    (PanelView.initial.run before).subscription = some i →
    (∀ e ∈ after, ∃ j answer, e = .answered j answer) → h.snapshot = snapshot
  /-- Once the latest call is answered, the page shows what came after the call. -/
  answered : ∀ before call after i answer, events = before ++ call :: after →
    call.isCall = true → (∀ e ∈ after, e.isCall = false) → (∀ j, .cleanup j ∉ after) →
    i + 1 = h.calls.length → .answered i answer ∈ after →
    ∃ e ∈ after, e.payload = some h.snapshot
  /-- After a cleanup, nothing is shown before the next call. -/
  quiet : ∀ before i after, events = before ++ .cleanup i :: after →
    (∀ e ∈ after, e.isCall = false) → h.snapshot = (PanelView.initial.run before).snapshot

/-- **The page shows the view**, in any order of pushes, answers, actions and renders. -/
theorem remote_session_view {events : List HookEvent} {h : RemoteSessionHook}
    (hrun : Run RemoteSessionHook.system .initial events h) : RemoteSessionLaw events h := by
  obtain ⟨hs, ho, hl⟩ := RemoteSessionHook.shows_of_run hrun
  constructor
  case snapshot => exact hs.snapshot
  case busy => exact hs.busy
  case released =>
    intro busy hany hbusy
    obtain ⟨c, hmem, hsubscribed⟩ := List.any_eq_true.mp hany
    obtain ⟨i, hi⟩ := List.getElem?_of_mem hmem
    have hsubscription := (hs.subscription i c hi).mp hsubscribed
    have hflag := hs.busy.symm.trans hbusy
    obtain ⟨j, d, hj, hd, hpending⟩ := ho (by simp [hsubscription]) (by simp [hflag])
    have hlast : j = h.calls.length - 1 := by
      have hlatest := hl.2 j hj
      rw [← hs.calls] at hlatest
      omega
    refine ⟨d, ?_, ((hs.running j d hd hpending).mp hj).1, hpending⟩
    rw [List.getLast?_eq_getElem?, ← hlast]
    exact hd
  case pushed =>
    rintro before i snapshot after rfl hsubscription hanswers
    rw [hs.snapshot, PanelView.run_append]
    have hdisplayed : (PanelView.initial.run before).apply (.notified i snapshot) =
        (PanelView.initial.run before).display snapshot := if_pos hsubscription
    change (((PanelView.initial.run before).apply (.notified i snapshot)).run after).snapshot = _
    rw [hdisplayed]
    refine PanelView.run_unchanged rfl (fun e he => ?_) (fun j other hmem => ?_)
    · obtain ⟨j, answer, rfl⟩ := hanswers e he
      rfl
    · obtain ⟨_, _, heq⟩ := hanswers _ hmem
      cases heq
  case answered =>
    rintro before call after i answer rfl hcall hcalls hkept hlatest hanswered
    obtain ⟨hawaited, hnumber⟩ := (PanelView.initial.run before).apply_call hcall
    have hlength := hs.calls
    rw [PanelView.run_append] at hlength
    change _ = (((PanelView.initial.run before).apply call).run after).calls at hlength
    rw [PanelView.run_calls hcalls, hnumber, ← hlatest] at hlength
    obtain rfl := Nat.succ.inj hlength
    rw [hs.snapshot, PanelView.run_append]
    exact PanelView.run_answered hawaited hcalls hkept hanswered
  case quiet =>
    rintro before i after rfl hcalls
    rw [hs.snapshot, PanelView.run_append]
    have hgone : ((PanelView.initial.run before).apply (.cleanup i)).subscription = none := rfl
    refine (PanelView.run_unchanged rfl hcalls fun j snapshot _ => ?_ :
      (((PanelView.initial.run before).apply (.cleanup i)).run after).snapshot = _)
    rw [hgone]
    exact (Option.some_ne_none j).symm

/-! ## An action that is overtaken -/

def waitingSnapshot : RemoteSnapshot :=
  ⟨.waiting, some "http://192.168.0.2:7367/", some 60000, none, none, none⟩

def connectedSnapshot : RemoteSnapshot :=
  ⟨.connected, some "http://192.168.0.2:7367/", some 60000, some "phone", none, none⟩

/-- A controller connects before the answer to `start` has come. -/
def overtaken : List HookEvent :=
  [.effect, .answered 0 (.ok offSnapshot), .action .starting, .notified 0 connectedSnapshot,
    .answered 1 (.ok waitingSnapshot)]

theorem remote_session_view_overtaken :
    ∃ h, RemoteSessionLaw overtaken h ∧ h.snapshot = connectedSnapshot ∧ h.busy = none :=
  ⟨_, remote_session_view (.of_steps (fun _ _ _ hstep => hstep) rfl), rfl, rfl⟩

end Pockiva
