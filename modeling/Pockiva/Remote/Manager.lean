import Pockiva.Desktop.Runtime
import Mathlib.Logic.Function.Basic

/-! # The manager of the remote session

Any number of threads start, end and observe the remote session, and the threads of a
running controller server report its events.  The model, the lifecycle and the delivery of
snapshots are each under a lock of their own, and no thread holds two of them: what a thread
does under one lock is one step, and between two steps it stands at a `Point`.
-/
namespace Pockiva
namespace Remote

open Network (ControllerEvent)

/-! ## Contracts -/

inductive RemotePhase where
  | off
  | waiting
  | connected
  | error
deriving DecidableEq, Repr

inductive RemoteErrorCode where
  | noLanAddress
  | bindFailed
  | assetsUnavailable
  | serverFailed
  | runtimeUnavailable
  | invalidLifecycle
deriving DecidableEq, Repr

structure RemoteError where
  code : RemoteErrorCode
  message : String
deriving DecidableEq, Repr

structure RemoteLatency where
  samples : Nat
  lastMs : Nat
  p95Ms : Nat
deriving DecidableEq, Repr

structure RemoteSnapshot where
  phase : RemotePhase
  pairingUrl : Option String
  expiresAtUnixMs : Option Nat
  controllerId : Option String
  latency : Option RemoteLatency
  error : Option RemoteError
deriving DecidableEq, Repr

structure PairingInfo where
  pairingUrl : String
  expiresAtUnixMs : Nat
deriving DecidableEq, Repr

inductive NetworkError where
  | noLanAddress
  | entropyUnavailable
  | assetsUnavailable
  | bindFailed
  | threadStartFailed
  | serverUnavailable
deriving DecidableEq, Repr

def NetworkError.text : NetworkError → String
  | .noLanAddress => "no non-loopback LAN address is available"
  | .entropyUnavailable => "operating system entropy is unavailable"
  | .assetsUnavailable => "controller assets are unavailable"
  | .bindFailed => "controller server could not bind its listener"
  | .threadStartFailed => "controller server thread could not start"
  | .serverUnavailable => "controller server is unavailable"

def mapNetworkError (error : NetworkError) : RemoteError where
  code := match error with
    | .noLanAddress => .noLanAddress
    | .bindFailed => .bindFailed
    | .assetsUnavailable => .assetsUnavailable
    | .entropyUnavailable | .threadStartFailed | .serverUnavailable => .serverFailed
  message := error.text

def invalidLifecycle (message : String) : RemoteError := ⟨.invalidLifecycle, message⟩

/-! ## The model -/

/-- Durations are in nanoseconds. -/
def durationMillis (duration : Nat) : Nat := min (duration / 1000000) (2 ^ 64 - 1)

def maxLatencySamples : Nat := 128

/-- The last sample, and the smallest one that 95 in 100 do not exceed. -/
def latencySnapshot (samples : List Nat) : Option RemoteLatency :=
  samples.getLast?.map fun last =>
    let ordered := samples.mergeSort
    let rank := (ordered.length * 95 + 99) / 100
    ⟨samples.length, durationMillis last, durationMillis (ordered.getD (rank - 1) 0)⟩

structure RemoteModel where
  phase : RemotePhase
  pairingUrl : Option String
  expiresAtUnixMs : Option Nat
  controllerId : Option String
  latencies : List Nat
  error : Option RemoteError
deriving DecidableEq

namespace RemoteModel

def initial : RemoteModel := ⟨.off, none, none, none, [], none⟩

def snapshot (m : RemoteModel) : RemoteSnapshot :=
  ⟨m.phase, m.pairingUrl, m.expiresAtUnixMs, m.controllerId, latencySnapshot m.latencies, m.error⟩

def waitForController (_ : RemoteModel) (pairing : PairingInfo) : RemoteModel :=
  ⟨.waiting, some pairing.pairingUrl, some pairing.expiresAtUnixMs, none, [], none⟩

/-- Nothing if no controller is waited for. -/
def connect (m : RemoteModel) (controllerId : String) : Option RemoteModel :=
  if m.phase = .waiting then
    some { m with phase := .connected, controllerId := some controllerId }
  else none

def turnOff (_ : RemoteModel) : RemoteModel := ⟨.off, none, none, none, [], none⟩

/-- Nothing after an error. -/
def disconnect (m : RemoteModel) (serverActive : Bool) : Option RemoteModel :=
  if m.phase = .error then none
  else if serverActive then some { m with controllerId := none, phase := .waiting }
  else some { m with controllerId := none }.turnOff

def recordLatency (m : RemoteModel) (latency : Nat) : RemoteModel :=
  let kept := if m.latencies.length = maxLatencySamples then m.latencies.tail else m.latencies
  { m with latencies := kept ++ [latency] }

def fail (m : RemoteModel) (error : RemoteError) : RemoteModel :=
  ⟨.error, none, none, none, m.latencies, some error⟩

end RemoteModel

/-- Observers are numbered. -/
structure ModelState where
  model : RemoteModel
  observer : Option Nat
  revision : Nat
deriving DecidableEq

structure SnapshotDelivery where
  revision : Nat
  snapshot : RemoteSnapshot
  observer : Option Nat
deriving DecidableEq

namespace ModelState

def delivery (s : ModelState) : SnapshotDelivery := ⟨s.revision, s.model.snapshot, s.observer⟩

/-- `wrapping_add(1)` on 64 bits. -/
def revise (s : ModelState) : ModelState := { s with revision := (s.revision + 1) % 2 ^ 64 }

end ModelState

/-! ## Lifecycle -/

inductive LifecycleOperation where
  | idle
  | starting (epoch : Nat)
  | ending (epoch : Nat)
deriving DecidableEq, Repr

structure LifecycleState where
  operation : LifecycleOperation
  epoch : Nat
  server : Option Nat
  restartRequired : Bool
deriving DecidableEq, Repr

/-! ## Threads -/

/-- A change of the model. -/
inductive Update where
  | waitForController (pairing : PairingInfo)
  | fail (error : RemoteError)
  | turnOff
  | subscribe (observer : Nat)
  | connect (controllerId : String)
  | disconnect (serverActive : Bool)
deriving DecidableEq

/-- The model after a change, or nothing if it is refused. -/
def Update.apply (s : ModelState) : Update → Option ModelState
  | .waitForController pairing => some { s with model := s.model.waitForController pairing }
  | .fail error => some { s with model := s.model.fail error }
  | .turnOff => some { s with model := s.model.turnOff }
  | .subscribe observer => some { s with observer := some observer }
  | .connect controllerId => (s.model.connect controllerId).map fun model => { s with model }
  | .disconnect serverActive => (s.model.disconnect serverActive).map fun model => { s with model }

/-- What a thread does once its snapshot is delivered. -/
inductive After where
  /-- `complete_lifecycle(epoch, expected)`, and the error it returns then. -/
  | complete (epoch : Nat) (expected : LifecycleOperation) (error : Option RemoteError)
  | done
  /-- The event of a server is answered. -/
  | handled (server : Nat) (accepted : Bool)
deriving DecidableEq

/-- Where a thread stands between two steps. -/
inductive Point where
  | idle
  | returned (result : Except RemoteError RemoteSnapshot)
  | answered (accepted : Bool)
  | startLock
  | startStop (epoch : Nat) (stale : Option Nat)
  | startServer (epoch : Nat)
  | finishStart (epoch : Nat) (server : Nat) (pairing : PairingInfo)
  /-- The start was superseded: its server is stopped. -/
  | superseded (server : Nat)
  | endLock
  /-- Waits for `changed`. -/
  | endAsleep
  | endStop (epoch : Nat) (server : Option Nat)
  | snapshot
  | update (change : Update) (after : After)
  | publish (delivery : SnapshotDelivery) (after : After)
  | complete (epoch : Nat) (expected : LifecycleOperation)
      (result : Except RemoteError RemoteSnapshot)
  | eventReceived (server : Nat) (event : ControllerEvent)
  | eventRuntime (server : Nat) (event : ControllerEvent)
  | eventLatency (server : Nat)
  | eventActive (server : Nat)
  | runtimeFailed (server : Nat) (message : String)

namespace Point

/-- A thread that does nothing for the manager. -/
def Free : Point → Prop
  | .idle | .returned _ | .answered _ => True
  | _ => False

/-- The server whose shutdown the thread waits for. -/
def stops : Point → Option Nat
  | .startStop _ stale => stale
  | .endStop _ server => server
  | .superseded server => some server
  | _ => none

/-- The server whose event the thread handles. -/
def handles : Point → Option Nat
  | .eventReceived server _ | .eventRuntime server _ | .eventLatency server
  | .eventActive server | .runtimeFailed server _ => some server
  | .update _ (.handled server _) | .publish _ (.handled server _) => some server
  | _ => none

end Point

/-- What the world answers a step: a server's shutdown, the server factory, the emulator's
runtime and the time since a message was received. -/
structure Outcome where
  shutdown : Except NetworkError Unit
  start : Except NetworkError PairingInfo
  runtime : Except String Unit
  elapsed : Nat

structure Delivered where
  revision : Nat
  observer : Nat
  snapshot : RemoteSnapshot
deriving DecidableEq

/-- The manager and its threads.  Servers are numbered in the order they were started. -/
structure RemoteSession where
  model : ModelState
  lifecycle : LifecycleState
  lastRevision : Nat
  threads : Nat → Point
  /-- How many servers were started, which of them were shut down, and what observers got. -/
  started : Nat
  shutdowns : List Nat
  delivered : List Delivered

namespace RemoteSession

def new : RemoteSession where
  model := ⟨.initial, none, 0⟩
  lifecycle := ⟨.idle, 0, none, false⟩
  lastRevision := 0
  threads := fun _ => .idle
  started := 0
  shutdowns := []
  delivered := []

/-- The server was started and its shutdown has not returned. -/
def Running (s : RemoteSession) (server : Nat) : Prop :=
  server < s.started ∧ server ∉ s.shutdowns

def goto (s : RemoteSession) (i : Nat) (p : Point) : RemoteSession :=
  { s with threads := Function.update s.threads i p }

/-- The first lock of `start`. -/
def lockStart (s : RemoteSession) (i : Nat) : RemoteSession :=
  match s.lifecycle.operation with
  | .starting _ =>
    s.goto i (.returned (.error (invalidLifecycle "A remote session is already starting.")))
  | .ending _ => s.goto i (.returned (.error (invalidLifecycle "A remote session is ending.")))
  | .idle =>
    if s.lifecycle.server ≠ none ∧ s.lifecycle.restartRequired = false then s.goto i .snapshot
    else
      let epoch := (s.lifecycle.epoch + 1) % 2 ^ 64
      { s with
        lifecycle := ⟨.starting epoch, epoch, none, false⟩
        threads := Function.update s.threads i (.startStop epoch s.lifecycle.server) }

/-- `fail_start`. -/
def failStart (epoch : Nat) (error : NetworkError) : Point :=
  .update (.fail (mapNetworkError error))
    (.complete epoch (.starting epoch) (some (mapNetworkError error)))

/-- A server's shutdown returns. -/
def stopServer (s : RemoteSession) (i server : Nat) (p : Point) : RemoteSession :=
  { s with
    shutdowns := s.shutdowns ++ [server]
    threads := Function.update s.threads i p }

def stopStale (s : RemoteSession) (i : Nat) (o : Outcome) (epoch : Nat) :
    Option Nat → RemoteSession
  | none => s.goto i (.startServer epoch)
  | some server =>
    s.stopServer i server <| match o.shutdown with
      | .ok _ => .startServer epoch
      | .error error => failStart epoch error

/-- The factory returns a server or an error. -/
def startServer (s : RemoteSession) (i : Nat) (o : Outcome) (epoch : Nat) : RemoteSession :=
  match o.start with
  | .ok pairing =>
    { s with
      started := s.started + 1
      threads := Function.update s.threads i (.finishStart epoch s.started pairing) }
  | .error error => s.goto i (failStart epoch error)

/-- The lock of `finish_start`. -/
def finishStart (s : RemoteSession) (i epoch server : Nat) (pairing : PairingInfo) :
    RemoteSession :=
  if s.lifecycle.operation ≠ .starting epoch then s.goto i (.superseded server)
  else
    { s with
      lifecycle := ⟨s.lifecycle.operation, s.lifecycle.epoch, some server, false⟩
      threads := Function.update s.threads i
        (.update (.waitForController pairing) (.complete epoch (.starting epoch) none)) }

/-- The first lock of `end`, where it waits while an operation is under way. -/
def lockEnd (s : RemoteSession) (i : Nat) : RemoteSession :=
  if s.lifecycle.operation ≠ .idle then s.goto i .endAsleep
  else
    let epoch := (s.lifecycle.epoch + 1) % 2 ^ 64
    { s with
      lifecycle := ⟨.ending epoch, epoch, none, s.lifecycle.restartRequired⟩
      threads := Function.update s.threads i (.endStop epoch s.lifecycle.server) }

/-- What `end` does after it stopped the server. -/
def afterStop (epoch : Nat) : Except NetworkError Unit → Point
  | .ok _ => .update .turnOff (.complete epoch (.ending epoch) none)
  | .error error =>
    .update (.fail (mapNetworkError error))
      (.complete epoch (.ending epoch) (some (mapNetworkError error)))

def stopEnded (s : RemoteSession) (i : Nat) (o : Outcome) (epoch : Nat) :
    Option Nat → RemoteSession
  | none => s.goto i (afterStop epoch (.ok ()))
  | some server => s.stopServer i server (afterStop epoch o.shutdown)

/-- What a server is answered whose event is refused: a controller that is not waited for is
turned away. -/
def refused : Update → Point
  | .connect _ => .answered false
  | _ => .answered true

/-- `update_model`. -/
def updateModel (s : RemoteSession) (i : Nat) (change : Update) (after : After) :
    RemoteSession :=
  match change.apply s.model with
  | none => s.goto i (refused change)
  | some model =>
    { s with
      model := model.revise
      threads := Function.update s.threads i (.publish model.revise.delivery after) }

/-- What comes after the delivery of a snapshot. -/
def next (snapshot : RemoteSnapshot) : After → Point
  | .complete epoch expected none => .complete epoch expected (.ok snapshot)
  | .complete epoch expected (some error) => .complete epoch expected (.error error)
  | .done => .returned (.ok snapshot)
  | .handled _ accepted => .answered accepted

/-- `publish_ordered`. -/
def publishOrdered (s : RemoteSession) (i : Nat) (delivery : SnapshotDelivery) (after : After) :
    RemoteSession :=
  let threads := Function.update s.threads i (next delivery.snapshot after)
  if delivery.revision ≤ s.lastRevision then { s with threads }
  else
    let got := delivery.observer.toList.map fun observer =>
      ⟨delivery.revision, observer, delivery.snapshot⟩
    { s with lastRevision := delivery.revision, delivered := s.delivered ++ got, threads }

/-- `notify_all`: a sleeping thread takes the lock again. -/
def wake : Point → Point
  | .endAsleep => .endLock
  | p => p

def completeLifecycle (s : RemoteSession) (i epoch : Nat) (expected : LifecycleOperation)
    (result : Except RemoteError RemoteSnapshot) : RemoteSession :=
  if s.lifecycle.epoch = epoch ∧ s.lifecycle.operation = expected then
    { s with
      lifecycle := { s.lifecycle with operation := .idle }
      threads := Function.update (fun j => wake (s.threads j)) i (.returned result) }
  else s.goto i (.returned result)

/-! ### Events of a server -/

/-- `handle_controller_event`, up to the call of the runtime. -/
def receiveEvent (s : RemoteSession) (i server : Nat) (event : ControllerEvent) :
    RemoteSession :=
  if event.inputSource ≠ remoteInputSource then s.goto i (.answered false)
  else match event with
  | .connected _ _ =>
    if s.model.model.phase = .error then s.goto i (.answered false)
    else s.goto i (.eventRuntime server event)
  | _ => s.goto i (.eventRuntime server event)

/-- The runtime's answer to an event. -/
def applyEvent (s : RemoteSession) (i : Nat) (o : Outcome) (server : Nat)
    (event : ControllerEvent) : RemoteSession :=
  match o.runtime with
  | .error message => s.goto i (.runtimeFailed server message)
  | .ok _ => match event with
    | .connected connectionId _ =>
      s.goto i (.update (.connect connectionId.value) (.handled server true))
    | .message _ _ _ => s.goto i (.eventLatency server)
    | .disconnected _ _ => s.goto i (.eventActive server)

/-- The lock of `publish_runtime_failure`. -/
def failRuntime (s : RemoteSession) (i server : Nat) (message : String) : RemoteSession :=
  { s with
    lifecycle := { s.lifecycle with restartRequired := s.lifecycle.server.isSome }
    threads := Function.update s.threads i
      (.update (.fail ⟨.runtimeUnavailable, message⟩) (.handled server false)) }

def recordLatency (s : RemoteSession) (i elapsed : Nat) : RemoteSession :=
  { s with
    model := { s.model with model := s.model.model.recordLatency elapsed }.revise
    threads := Function.update s.threads i (.answered true) }

/-! ## Runs -/

/-- One step of a thread. -/
def advance (s : RemoteSession) (i : Nat) (o : Outcome) : RemoteSession :=
  match s.threads i with
  | .idle | .returned _ | .answered _ | .endAsleep => s
  | .startLock => s.lockStart i
  | .startStop epoch stale => s.stopStale i o epoch stale
  | .startServer epoch => s.startServer i o epoch
  | .finishStart epoch server pairing => s.finishStart i epoch server pairing
  | .superseded server =>
    s.stopServer i server
      (.returned (.error (invalidLifecycle "Remote session start was superseded.")))
  | .endLock => s.lockEnd i
  | .endStop epoch server => s.stopEnded i o epoch server
  | .snapshot => s.goto i (.returned (.ok s.model.model.snapshot))
  | .update change after => s.updateModel i change after
  | .publish delivery after => s.publishOrdered i delivery after
  | .complete epoch expected result => s.completeLifecycle i epoch expected result
  | .eventReceived server event => s.receiveEvent i server event
  | .eventRuntime server event => s.applyEvent i o server event
  | .eventLatency _ => s.recordLatency i o.elapsed
  | .eventActive server =>
    s.goto i (.update (.disconnect s.lifecycle.server.isSome) (.handled server true))
  | .runtimeFailed server message => s.failRuntime i server message

inductive Call where
  | start
  | «end»
  | shutdown
  | snapshot
  | subscribe (observer : Nat)

/-- Where a call begins; `shutdown` is `end`. -/
def entry : Call → Point
  | .start => .startLock
  | .end | .shutdown => .endLock
  | .snapshot => .snapshot
  | .subscribe observer => .update (.subscribe observer) .done

inductive Label where
  | call (i : Nat) (call : Call)
  | event (i : Nat) (server : Nat) (event : ControllerEvent)
  | wake (i : Nat)
  | advance (i : Nat) (outcome : Outcome)

/-- Calls come from free threads, events from running servers, a sleeping thread may wake for
no reason, and a shutdown returns once the events of its server are handled: it joins the
threads that report them. -/
inductive Step (s : RemoteSession) : Label → RemoteSession → Prop where
  | call {i : Nat} (call : Call) (hfree : (s.threads i).Free) :
    Step s (.call i call) (s.goto i (entry call))
  | event {i server : Nat} (event : ControllerEvent) (hfree : (s.threads i).Free)
      (hrunning : s.Running server) :
    Step s (.event i server event) (s.goto i (.eventReceived server event))
  | wake {i : Nat} (hasleep : s.threads i = .endAsleep) : Step s (.wake i) (s.goto i .endLock)
  | advance {i : Nat} (outcome : Outcome) (hbusy : ¬ (s.threads i).Free)
      (hawake : s.threads i ≠ .endAsleep)
      (hhandled : ∀ server, (s.threads i).stops = some server →
        ∀ j, (s.threads j).handles ≠ some server) :
    Step s (.advance i outcome) (s.advance i outcome)

/-- The manager from its construction on. -/
def system : Transition.System RemoteSession Label where
  start s := s = new
  step := Step

end RemoteSession

end Remote

end Pockiva
