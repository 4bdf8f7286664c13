import Pockiva.Desktop.Runtime
import Pockiva.Lib.Transition

/-! # Controller events on their way to the worker

A network task first prepares an event, which gives it the generation of its connection
and cancels the generation of a connection that ends, and then sends it through the
bounded queue, which may fail.  The worker drains cancelled generations at the top of its
loop and again before each command.
-/
namespace Pockiva

open Transition

variable {M : MixerModel}

/-- `COMMAND_QUEUE_CAPACITY`. -/
def commandQueueCapacity : Nat := 32

/-- The greatest `u64`. -/
def maxGeneration : Nat := 2 ^ 64 - 1

structure ControllerGenerations where
  current : Option CurrentController
  nextGeneration : Nat
  cancelledThrough : Nat

namespace ControllerGenerations

/-- `ControllerGenerations::default()`. -/
def initial : ControllerGenerations := ⟨none, 0, 0⟩

/-- The current controller, if it is this connection's. -/
def currentOf (c : ControllerGenerations) (connectionId : Network.ControllerConnectionId) :
    Option CurrentController :=
  c.current.filter fun current => current.connectionId == connectionId

/-- The generation the event is sent with, if it is sent at all.  The mutex around `current`
makes the call one step: only the preparation of a `Connected` touches `nextGeneration`,
and no two of them overlap. -/
def prepare (c : ControllerGenerations) :
    Network.ControllerEvent → Except RuntimeError (Option Nat) × ControllerGenerations
  | .connected connectionId _ =>
    if c.nextGeneration < maxGeneration then
      (.ok (some (c.nextGeneration + 1)),
        { c with
          nextGeneration := c.nextGeneration + 1
          current := some ⟨connectionId, c.nextGeneration + 1⟩ })
    else (.error runtimeUnavailable, c)
  | .message connectionId _ _ => (.ok ((c.currentOf connectionId).map (·.generation)), c)
  | .disconnected connectionId _ =>
    match c.currentOf connectionId with
    | none => (.ok none, c)
    | some current =>
      (.ok (some current.generation),
        { c with
          cancelledThrough := max c.cancelledThrough current.generation
          current := none })

end ControllerGenerations

/-- Where the worker is in its loop. -/
inductive WorkerState where
  /-- At the top of the loop. -/
  | looping
  /-- Cancelled generations are drained: ticks, then a look at the queue. -/
  | polling
  | received (command : Runtime.Command)
  /-- Cancelled generations are drained again. -/
  | drained (command : Runtime.Command)
  | stopped

/-- The runtime with the tasks that send to it. -/
structure DesktopRuntime (M : MixerModel) where
  generations : ControllerGenerations
  /-- Not in the source: the connection whose `Connected` was prepared and whose
  `Disconnected` was not. -/
  connection : Option Network.ControllerConnectionId
  /-- The events that were prepared and neither sent nor given up. -/
  prepared : List (Network.ControllerEvent × Nat)
  queue : List Runtime.Command
  worker : WorkerState
  runtime : Runtime M

namespace DesktopRuntime

def spawned : DesktopRuntime M where
  generations := .initial
  connection := none
  prepared := []
  queue := []
  worker := .looping
  runtime := .initial

/-- The connection that is open once an event is prepared. -/
def connectionAfter (connection : Option Network.ControllerConnectionId) :
    Network.ControllerEvent → Option Network.ControllerConnectionId
  | .connected connectionId _ => some connectionId
  | .message _ _ _ => connection
  | .disconnected connectionId _ => if connection = some connectionId then none else connection

/-- `Connected` is prepared only after the previous connection's `Disconnected`. -/
def MayPrepare (d : DesktopRuntime M) : Network.ControllerEvent → Prop
  | .connected _ _ => d.connection = none
  | _ => True

def prepare (d : DesktopRuntime M) (event : Network.ControllerEvent) : DesktopRuntime M :=
  let result := d.generations.prepare event
  { d with
    generations := result.2
    connection := connectionAfter d.connection event
    prepared := match result.1 with
      | .ok (some generation) => d.prepared ++ [(event, generation)]
      | _ => d.prepared }

/-- `drain_cancelled_remote_input` with the generation cancelled now. -/
def drain (d : DesktopRuntime M) (worker : WorkerState) : DesktopRuntime M :=
  { d with
    runtime := d.runtime.drainCancelledRemoteInput d.generations.cancelledThrough
    worker := worker }

/-- The command comes from the frontend, not from the network. -/
def FromFrontend : Runtime.Command → Prop
  | .controllerEvent _ _ => False
  | _ => True

/-- Where the worker is after a command. -/
def afterCommand : Runtime.Command → WorkerState
  | .shutdown => .stopped
  | _ => .looping

inductive Label where
  | prepare (event : Network.ControllerEvent)
  | send (event : Network.ControllerEvent) (generation : Nat)
  | giveUp (event : Network.ControllerEvent) (generation : Nat)
  | request (command : Runtime.Command)
  | drain
  | tick
  | receive
  | timeout
  | handle
  | disconnected

/-- One step of a network task, of the frontend or of the worker. -/
inductive Step (d : DesktopRuntime M) : Label → DesktopRuntime M → Prop where
  /-- Events of another source are refused before they are prepared. -/
  | prepare {event : Network.ControllerEvent} (hsource : event.inputSource = remoteInputSource)
      (hbarrier : d.MayPrepare event) : Step d (.prepare event) (d.prepare event)
  | send {before after : List (Network.ControllerEvent × Nat)} {event : Network.ControllerEvent}
      {generation : Nat} (hprepared : d.prepared = before ++ (event, generation) :: after)
      (hroom : d.queue.length < commandQueueCapacity) :
      Step d (.send event generation)
        { d with
          prepared := before ++ after
          queue := d.queue ++ [.controllerEvent event generation] }
  /-- The queue stayed full, or the worker is gone. -/
  | giveUp {before after : List (Network.ControllerEvent × Nat)} {event : Network.ControllerEvent}
      {generation : Nat} (hprepared : d.prepared = before ++ (event, generation) :: after) :
      Step d (.giveUp event generation) { d with prepared := before ++ after }
  | request {command : Runtime.Command} (hfrontend : FromFrontend command)
      (hroom : d.queue.length < commandQueueCapacity) :
      Step d (.request command) { d with queue := d.queue ++ [command] }
  | drainTop (hworker : d.worker = .looping) : Step d .drain (d.drain .polling)
  | tick (hworker : d.worker = .polling) (hphase : d.runtime.model.snapshot.phase = .running) :
      Step d .tick { d with runtime := d.runtime.runTick }
  | receive {command : Runtime.Command} {rest : List Runtime.Command}
      (hworker : d.worker = .polling) (hqueue : d.queue = command :: rest) :
      Step d .receive { d with queue := rest, worker := .received command }
  | timeout (hworker : d.worker = .polling) : Step d .timeout { d with worker := .looping }
  | drainCommand {command : Runtime.Command} (hworker : d.worker = .received command) :
      Step d .drain (d.drain (.drained command))
  | handle {command : Runtime.Command} (hworker : d.worker = .drained command) :
      Step d .handle
        { d with
          runtime := (d.runtime.handleCommand command d.generations.cancelledThrough).2
          worker := afterCommand command }
  /-- All senders are gone. -/
  | disconnected (hworker : d.worker = .polling) :
      Step d .disconnected { d with worker := .stopped }

/-- A runtime from its start on, with any tasks. -/
def system (M : MixerModel) : System (DesktopRuntime M) Label where
  start d := d = spawned
  step := Step

end DesktopRuntime

end Pockiva
