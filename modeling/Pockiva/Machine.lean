import Pockiva.Bus
import Pockiva.Cpu.Execute
import Pockiva.Lib.Transition

/-! # The Game Boy

The public core: a CPU on a bus, a wall clock and the held buttons.  The clock may
answer anything at each reading.
-/
namespace Pockiva

open Transition

variable {M : MixerModel}

/-- A `Clock`, with the readings it will give and how many were taken. -/
structure Clock where
  readings : Nat → Nat
  taken : Nat

namespace Clock

def unixSeconds (c : Clock) : Nat := c.readings c.taken

/-- The clock after a reading. -/
def read (c : Clock) : Clock := { c with taken := c.taken + 1 }

end Clock

structure GameBoy (M : MixerModel) where
  clock : Clock
  sampleRate : Nat
  cpu : Cpu
  bus : Option (MachineBus M)
  inputs : InputMatrix

/-! ## The loop of `run_cycles` -/

/-- What `run_cycles` works on: the clock, the CPU and its bus. -/
structure Running (M : MixerModel) where
  clock : Clock
  exec : Exec (MachineBus M)

namespace Running

/-- `bus.set_unix_seconds(self.clock.unix_seconds())`. -/
def timed (r : Running M) : Running M where
  clock := r.clock.read
  exec := { r.exec with bus := r.exec.bus.setUnixSeconds r.clock.unixSeconds }

/-- How a round of the loop ends. -/
inductive Round (M : MixerModel) where
  | stop (r : Running M)
  | error (e : CoreError) (r : Running M)
  | step (tCycles : Nat) (r : Running M)

/-- The body of the loop. -/
def round (budget executed : Nat) (r : Running M) : Round M :=
  let r := r.timed
  match nextStepTCycles r.exec.cpu r.exec.bus with
  | .error e => .error e r
  | .ok next =>
    if next = 0 ∨ next > budget - executed then .stop r
    else
      let after : Running M := { r with exec := (step.run r.exec).2 }
      match (step.run r.exec).1 with
      | .error e => .error e after
      | .ok tCycles => .step tCycles after

/-- `while executed < cycle_budget`.  Every round takes time, so `budget` rounds are
enough (`loop_fuel`).  The source counts `executed` in 32 bits, which only a step that
takes longer than predicted could exceed. -/
def loop (budget : Nat) : Nat → Nat → Running M → Except CoreError Nat × Running M
  | 0, executed, r => (.ok executed, r)
  | rounds + 1, executed, r =>
    if executed < budget then
      match r.round budget executed with
      | .stop r => (.ok executed, r)
      | .error e r => (.error e, r)
      | .step tCycles r => loop budget rounds (executed + tCycles) r
    else (.ok executed, r)

end Running

/-! ## The operations -/

namespace GameBoy

def new (clock : Clock) (sampleRate : Nat) : GameBoy M where
  clock := clock
  sampleRate := sampleRate
  cpu := .postBootDmg
  bus := none
  inputs := .empty

def loadRom (g : GameBoy M) (rom : List Byte) (persisted : Option BatteryState) :
    Except CoreError CartridgeMetadata × GameBoy M :=
  let now := g.clock.unixSeconds
  let g := { g with clock := g.clock.read }
  match Cartridge.load rom persisted now with
  | .error e => (.error e, g)
  | .ok cartridge =>
    let bus := (MachineBus.new cartridge g.sampleRate now).setJoypadState g.inputs.effective
    (.ok cartridge.metadata, { g with cpu := .postBootDmg, bus := some bus })

def reset (g : GameBoy M) : Except CoreError Unit × GameBoy M :=
  match g.bus with
  | none => (.error .notLoaded, g)
  | some bus =>
    (.ok (), { g with
      clock := g.clock.read
      cpu := .postBootDmg
      bus := some (bus.reset g.clock.unixSeconds g.inputs.effective) })

/-- The machine with the CPU, the bus and the clock of a run. -/
def resume (g : GameBoy M) (r : Running M) : GameBoy M :=
  { g with clock := r.clock, cpu := r.exec.cpu, bus := some r.exec.bus }

/-- What a run starts from. -/
def running (g : GameBoy M) (bus : MachineBus M) : Running M := ⟨g.clock, ⟨g.cpu, bus⟩⟩

def runCycles (g : GameBoy M) (cycleBudget : Nat) : Except CoreError RunOutcome × GameBoy M :=
  match g.bus with
  | none => (.error .notLoaded, g)
  | some bus =>
    let result := (g.running bus).loop cycleBudget cycleBudget 0
    let after := result.2.exec.bus
    (result.1.map fun executed =>
        { cyclesExecuted := executed
          frameReady := after.frameReady
          stereoFramesAvailable := after.stereoFramesAvailable },
      g.resume result.2)

/-- The loaded bus sees the held buttons of all sources. -/
def showInputs (g : GameBoy M) : GameBoy M :=
  { g with bus := g.bus.map fun bus => bus.setJoypadState g.inputs.effective }

def setInput (g : GameBoy M) (source : InputSourceId) (state : JoypadState) : GameBoy M :=
  showInputs { g with inputs := g.inputs.set source state }

def clearInputSource (g : GameBoy M) (source : InputSourceId) : GameBoy M :=
  showInputs { g with inputs := g.inputs.clear source }

def takeFrame (g : GameBoy M) : Option Frame × GameBoy M :=
  match g.bus with
  | none => (none, g)
  | some bus => (bus.takeFrame.1, { g with bus := some bus.takeFrame.2 })

def drainAudio (g : GameBoy M) : AudioBatch M × GameBoy M :=
  match g.bus with
  | none => (⟨g.sampleRate, []⟩, g)
  | some bus => (bus.drainAudio.1, { g with bus := some bus.drainAudio.2 })

def batteryState (g : GameBoy M) : Option BatteryState × GameBoy M :=
  match g.bus with
  | none => (none, g)
  | some bus => (bus.batteryState g.clock.unixSeconds, { g with clock := g.clock.read })

/-! ## Runs -/

/-- The calls of the public interface. -/
inductive Op where
  | loadRom (rom : List Byte) (persisted : Option BatteryState)
  | reset
  | runCycles (cycleBudget : Nat)
  | setInput (source : InputSourceId) (state : JoypadState)
  | clearInputSource (source : InputSourceId)
  | takeFrame
  | drainAudio
  | batteryState

/-- What a call returns. -/
inductive Output (M : MixerModel) where
  | loaded (result : Except CoreError CartridgeMetadata)
  | reset (result : Except CoreError Unit)
  | ran (result : Except CoreError RunOutcome)
  | frame (frame : Option Frame)
  | audio (batch : AudioBatch M)
  | battery (state : Option BatteryState)
  | done

def call (g : GameBoy M) : Op → Output M × GameBoy M
  | .loadRom rom persisted => (.loaded (g.loadRom rom persisted).1, (g.loadRom rom persisted).2)
  | .reset => (.reset g.reset.1, g.reset.2)
  | .runCycles budget => (.ran (g.runCycles budget).1, (g.runCycles budget).2)
  | .setInput source state => (.done, g.setInput source state)
  | .clearInputSource source => (.done, g.clearInputSource source)
  | .takeFrame => (.frame g.takeFrame.1, g.takeFrame.2)
  | .drainAudio => (.audio g.drainAudio.1, g.drainAudio.2)
  | .batteryState => (.battery g.batteryState.1, g.batteryState.2)

/-- The answers to a sequence of calls. -/
def calls (g : GameBoy M) : List Op → List (Output M)
  | [] => []
  | op :: ops => (g.call op).1 :: (g.call op).2.calls ops

/-- A Game Boy from its construction on, with any clock and sample rate. -/
def system (M : MixerModel) : System (GameBoy M) Op :=
  .ofNext (fun g => ∃ clock sampleRate, 0 < sampleRate ∧ g = new clock sampleRate)
    fun g op => (g.call op).2

end GameBoy

end Pockiva
