import Pockiva.Cartridge.Image
import Pockiva.Cartridge.Reachable
import Pockiva.Cpu.Accesses
import Pockiva.Machine

/-! # The states of the machine

`MachineBus.system` has the states a bus can be in at the boundary of an M-cycle: any
operation of the CPU and of the core, in any order.  `GameBoy.loadedSystem` has the
states of a core from the load of an image to the next one.  The bus of a loaded core
is a state of the first (`bus_of_loaded`), whatever program it runs.
-/
namespace Pockiva

open Transition

variable {M : MixerModel}

namespace MachineBus

/-- What happens to a bus: operations of the CPU, and of the core around a run. -/
inductive Op where
  | cpu (op : BusOp)
  | setUnixSeconds (now : Nat)
  | setJoypadState (state : JoypadState)
  | reset (now : Nat) (state : JoypadState)
  | takeFrame
  | drainAudio

def apply (b : MachineBus M) : Op → MachineBus M
  | .cpu op => op.apply b
  | .setUnixSeconds now => b.setUnixSeconds now
  | .setJoypadState state => b.setJoypadState state
  | .reset now state => b.reset now state
  | .takeFrame => b.takeFrame.2
  | .drainAudio => b.drainAudio.2

/-- The bus after some operations. -/
def run (b : MachineBus M) (ops : List Op) : MachineBus M := ops.foldl apply b

/-- A bus from its construction for an image on. -/
def system (M : MixerModel) (rom : List Byte) (sampleRate : Nat) : System (MachineBus M) Op :=
  .ofNext
    (fun b => ∃ persisted now cartridge, 0 < sampleRate ∧
      Cartridge.load rom persisted now = .ok cartridge ∧ b = new cartridge sampleRate now)
    apply

theorem reachable_driven {rom : List Byte} {sampleRate : Nat} {b c : MachineBus M}
    (h : Reachable (system M rom sampleRate) b) (hdriven : Driven b c) :
    Reachable (system M rom sampleRate) c :=
  hdriven.invariant h fun _ op hb => hb.ofNext (.cpu op)

end MachineBus

/-! ## A run of the core -/

namespace Running

/-- **What the operations on a bus preserve, a run preserves.** -/
theorem loop_invariant {P : MachineBus M → Prop}
    (hclock : ∀ (b : MachineBus M) (now : Nat), P b → P (b.setUnixSeconds now))
    (hmoved : ∀ b c : MachineBus M, Moved b c → P b → P c)
    {budget rounds executed : Nat} {r : Running M} (h : P r.exec.bus) :
    P (r.loop budget rounds executed).2.exec.bus := by
  induction rounds generalizing executed r with
  | zero => exact h
  | succ rounds ih =>
    have htimed : P r.timed.exec.bus := hclock _ _ h
    have hstep : P (step.run r.timed.exec).2.bus := hmoved _ _ (Moves.step.moved _) htimed
    rw [loop]
    split
    · unfold round
      dsimp only
      cases nextStepTCycles r.timed.exec.cpu r.timed.exec.bus with
      | error e => exact htimed
      | ok next =>
        dsimp only
        by_cases hstop : next = 0 ∨ next > budget - executed
        · rw [if_pos hstop]
          exact htimed
        · rw [if_neg hstop]
          cases (step.run r.timed.exec).1 with
          | error e => exact hstep
          | ok tCycles => exact ih hstep
    · exact h

end Running

namespace GameBoy

/-- The call puts another image into the machine. -/
def Replaces (g : GameBoy M) : Op → Prop
  | .loadRom rom persisted => ∃ metadata, (g.loadRom rom persisted).1 = .ok metadata
  | _ => False

/-- A core from a successful load of `rom` to the next load that succeeds. -/
def loadedSystem (M : MixerModel) (rom : List Byte) : System (GameBoy M) Op where
  start g := ∃ before persisted metadata, Reachable (GameBoy.system M) before ∧
    before.loadRom rom persisted = (.ok metadata, g)
  step g op h := ¬ g.Replaces op ∧ h = (g.call op).2

/-- A load that fails only reads the clock. -/
theorem loadRom_error {g : GameBoy M} {rom : List Byte} {persisted : Option BatteryState}
    (h : ∀ metadata, (g.loadRom rom persisted).1 ≠ .ok metadata) :
    (g.loadRom rom persisted).2 = { g with clock := g.clock.read } := by
  unfold loadRom at h ⊢
  dsimp only at h ⊢
  cases hload : Cartridge.load rom persisted g.clock.unixSeconds with
  | error e => rfl
  | ok cartridge =>
    rw [hload] at h
    exact absurd rfl (h cartridge.metadata)

theorem loadRom_loaded {g : GameBoy M} {rom : List Byte} {persisted : Option BatteryState}
    {cartridge : Cartridge} (h : Cartridge.load rom persisted g.clock.unixSeconds = .ok cartridge) :
    g.loadRom rom persisted = (.ok cartridge.metadata, (g.loadRom rom persisted).2) := by
  rw [loadRom]
  dsimp only
  rw [h]

/-- What a load that succeeds leaves. -/
theorem loadRom_ok {g : GameBoy M} {rom : List Byte} {persisted : Option BatteryState}
    {metadata : CartridgeMetadata} (h : (g.loadRom rom persisted).1 = .ok metadata) :
    ∃ cartridge, Cartridge.load rom persisted g.clock.unixSeconds = .ok cartridge ∧
      metadata = cartridge.metadata ∧
      (g.loadRom rom persisted).2 =
        { g with
          clock := g.clock.read
          cpu := .postBootDmg
          bus := some ((MachineBus.new cartridge g.sampleRate g.clock.unixSeconds).setJoypadState
            g.inputs.effective) } := by
  unfold loadRom at h ⊢
  dsimp only at h ⊢
  cases hload : Cartridge.load rom persisted g.clock.unixSeconds with
  | error e =>
    rw [hload] at h
    cases h
  | ok cartridge =>
    rw [hload] at h
    injection h with hmeta
    exact ⟨cartridge, rfl, hmeta.symm, rfl⟩

/-- No call changes the sample rate. -/
theorem call_sampleRate (g : GameBoy M) (op : Op) : (g.call op).2.sampleRate = g.sampleRate := by
  cases op with
  | loadRom rom persisted =>
    simp only [call, loadRom]
    split <;> rfl
  | reset =>
    simp only [call, reset]
    split <;> rfl
  | runCycles budget =>
    simp only [call, runCycles]
    split <;> rfl
  | setInput source state => rfl
  | clearInputSource source => rfl
  | takeFrame =>
    simp only [call, takeFrame]
    split <;> rfl
  | drainAudio =>
    simp only [call, drainAudio]
    split <;> rfl
  | batteryState =>
    simp only [call, batteryState]
    split <;> rfl

theorem sampleRate_pos {g : GameBoy M} (h : Reachable (GameBoy.system M) g) :
    0 < g.sampleRate := by
  refine h.invariant (P := fun g => 0 < g.sampleRate) ?_ ?_
  · rintro g ⟨clock, sampleRate, hpos, rfl⟩
    exact hpos
  · rintro g op h hpos rfl
    rw [call_sampleRate]
    exact hpos

/-- The core is loaded and its bus is a state of the bus. -/
def Sound (rom : List Byte) (g : GameBoy M) : Prop :=
  ∃ b, g.bus = some b ∧ Reachable (MachineBus.system M rom g.sampleRate) b

/-- What a bus of a core with the given sample rate keeps, whatever the core is told. -/
structure Kept (rom : List Byte) (P : Nat → MachineBus M → Prop) : Prop where
  new : ∀ {sampleRate now : Nat} {persisted : Option BatteryState} {cartridge : Cartridge},
    0 < sampleRate → Cartridge.load rom persisted now = .ok cartridge →
      P sampleRate (.new cartridge sampleRate now)
  moved : ∀ {sampleRate : Nat} {b c : MachineBus M}, Moved b c → P sampleRate b → P sampleRate c
  op : ∀ {sampleRate : Nat} {b : MachineBus M} (op : MachineBus.Op), (∀ o, op ≠ .cpu o) →
    P sampleRate b → P sampleRate (b.apply op)

namespace Kept
variable {rom : List Byte} {P : Nat → MachineBus M → Prop}

/-- Every call but a load that succeeds keeps it. -/
theorem call (h : Kept rom P) {g : GameBoy M} {op : Op} (hop : ¬ g.Replaces op)
    {b : MachineBus M} (hbus : g.bus = some b) (hb : P g.sampleRate b) :
    ∃ c, (g.call op).2.bus = some c ∧ P g.sampleRate c := by
  cases op with
  | loadRom rom' persisted =>
    have herror : ∀ metadata, (g.loadRom rom' persisted).1 ≠ .ok metadata :=
      fun metadata hok => hop ⟨metadata, hok⟩
    simp only [GameBoy.call, loadRom_error herror]
    exact ⟨b, hbus, hb⟩
  | reset =>
    simp only [GameBoy.call, GameBoy.reset, hbus]
    exact ⟨_, rfl, h.op (.reset _ _) nofun hb⟩
  | runCycles budget =>
    simp only [GameBoy.call, runCycles, hbus]
    refine ⟨_, rfl, ?_⟩
    have hstart : P g.sampleRate (g.running b).exec.bus := hb
    exact Running.loop_invariant (fun _ now hc => h.op (.setUnixSeconds now) nofun hc)
      (fun _ _ hmoved hc => h.moved hmoved hc) hstart
  | setInput source state =>
    simp only [GameBoy.call, setInput, showInputs, hbus]
    exact ⟨_, rfl, h.op (.setJoypadState _) nofun hb⟩
  | clearInputSource source =>
    simp only [GameBoy.call, clearInputSource, showInputs, hbus]
    exact ⟨_, rfl, h.op (.setJoypadState _) nofun hb⟩
  | takeFrame =>
    simp only [GameBoy.call, GameBoy.takeFrame, hbus]
    exact ⟨_, rfl, h.op .takeFrame nofun hb⟩
  | drainAudio =>
    simp only [GameBoy.call, GameBoy.drainAudio, hbus]
    exact ⟨_, rfl, h.op .drainAudio nofun hb⟩
  | batteryState =>
    simp only [GameBoy.call, GameBoy.batteryState, hbus]
    exact ⟨b, rfl, hb⟩

/-- **The bus of a loaded core keeps it.** -/
theorem bus (h : Kept rom P) {g : GameBoy M} (hg : Reachable (loadedSystem M rom) g) :
    ∃ b, g.bus = some b ∧ P g.sampleRate b := by
  refine hg.invariant (P := fun g => ∃ b, g.bus = some b ∧ P g.sampleRate b) ?_ ?_
  · rintro g ⟨before, persisted, metadata, hbefore, hload⟩
    have hok : (before.loadRom rom persisted).1 = .ok metadata := by rw [hload]
    have hg : (before.loadRom rom persisted).2 = g := by rw [hload]
    obtain ⟨cartridge, hcartridge, -, hafter⟩ := loadRom_ok hok
    have hnew := h.new (sampleRate_pos hbefore) hcartridge
    rw [← hg, hafter]
    exact ⟨_, rfl, h.op (.setJoypadState _) nofun hnew⟩
  · rintro g op g' ⟨b, hbus, hb⟩ ⟨hop, rfl⟩
    rw [call_sampleRate]
    exact h.call hop hbus hb

end Kept

/-- **The bus of a loaded core is a state of the bus.** -/
theorem bus_of_loaded {rom : List Byte} {g : GameBoy M}
    (h : Reachable (loadedSystem M rom) g) : Sound rom g := by
  have hkept : Kept rom fun sampleRate (b : MachineBus M) =>
      Reachable (MachineBus.system M rom sampleRate) b := by
    constructor
    case new =>
      intro sampleRate now persisted cartridge hrate hload
      exact .start ⟨persisted, now, cartridge, hrate, hload, rfl⟩
    case moved =>
      intro sampleRate b c hmoved hb
      exact MachineBus.reachable_driven hb hmoved.driven
    case op =>
      intro sampleRate b op _ hb
      exact hb.ofNext op
  exact hkept.bus h

/-- **Every core that is loaded was loaded with some image.** -/
theorem loaded_of_reachable {g : GameBoy M} (h : Reachable (GameBoy.system M) g)
    (hbus : g.bus ≠ none) : ∃ rom, Reachable (loadedSystem M rom) g := by
  induction h with
  | start h =>
    obtain ⟨clock, sampleRate, -, rfl⟩ := h
    exact absurd rfl hbus
  | @step g h op hg hstep ih =>
    cases hstep
    by_cases hop : g.Replaces op
    · cases op with
      | loadRom rom persisted =>
        obtain ⟨metadata, hok⟩ := hop
        exact ⟨rom, .start ⟨g, persisted, metadata, hg, Prod.ext hok rfl⟩⟩
      | _ => cases hop
    · have hbefore : g.bus ≠ none := by
        intro hnone
        refine hbus ?_
        cases op with
        | loadRom rom persisted =>
          have herror : ∀ metadata, (g.loadRom rom persisted).1 ≠ .ok metadata :=
            fun metadata hok => hop ⟨metadata, hok⟩
          simp only [GameBoy.call, loadRom_error herror, hnone]
        | _ => simp [GameBoy.call, GameBoy.reset, runCycles, setInput, clearInputSource, showInputs,
            GameBoy.takeFrame, GameBoy.drainAudio, GameBoy.batteryState, hnone]
      obtain ⟨rom, hrom⟩ := ih hbefore
      exact ⟨rom, hrom.step ⟨hop, rfl⟩⟩

end GameBoy

/-! ## The smallest machine -/

/-- A cartridge without a mapper, with the bytes of its image. -/
def plainCartridge (metadata : CartridgeMetadata) (content : Nat → Byte) : Cartridge :=
  ⟨metadata, .romOnly ⟨imageOf 2 content, [], false⟩⟩

theorem MachineBus.read8_plain {b : MachineBus M} {metadata : CartridgeMetadata}
    {content : Nat → Byte} (h : b.cartridge = plainCartridge metadata content)
    (hdma : b.dma.active = false) {address : Word} (ha : inRom address) :
    (b.read8 address).1 = content address.toNat := by
  have hlt : address.toNat < 0x8000 := BitVec.lt_def.mp ha
  have hbank : address.toNat < 2 * 0x4000 := by omega
  have hopen : ¬ (b.dma.active = true ∧ ¬ inHram address) := by simp [hdma]
  have hmapper : (plainCartridge metadata content).mapper.readRom address =
      (imageOf 2 content).getD address.toNat 0xff := by
    simp only [plainCartridge, Mapper.readRom, RomOnly.readRom]
  refine (if_neg hopen).trans ?_
  rw [MachineBus.readUnclocked, if_pos (.inl ha), Cartridge.read, if_pos ha, h, hmapper,
    getD_imageOf hbank]

/-- An image of NOPs only: no mapper, no RAM. -/
def nopContent (i : Nat) : Byte := if i = 0x14d then 0xe7 else 0

def nopHeader : Header where
  metadata := ⟨.romOnly, .dmg, 0, false⟩
  features := ⟨.romOnly, false, false, false, false⟩
  romBanks := 2
  ramBytes := 0

theorem parse_nopImage : Header.parse (imageOf 2 nopContent) = .ok nopHeader := by
  have hcompat : Header.compatibilityOf (nopContent 0x143) = .ok .dmg := by decide
  have hfeatures : Header.featuresOf (nopContent 0x147) = .ok nopHeader.features := by decide
  have hbanks : Header.romBanksOf (nopContent 0x148) = .ok 2 := by decide
  have hram : Header.ramBytesOf (nopContent 0x149) = .ok 0 := by decide
  exact parse_imageOf (by decide) hcompat hfeatures hbanks hram (by decide) (.inl rfl) (by decide)

def nopCartridge : Cartridge := ⟨nopHeader.metadata, .romOnly ⟨imageOf 2 nopContent, [], false⟩⟩

theorem load_nopImage (now : Nat) :
    Cartridge.load (imageOf 2 nopContent) none now = .ok nopCartridge :=
  Cartridge.load_eq_ok.mpr ⟨nopHeader, parse_nopImage, rfl, rfl⟩

/-- A machine with that image. -/
def nopBus : MachineBus .mute := .new nopCartridge 44100 0

theorem reachable_nopBus :
    Reachable (MachineBus.system .mute (imageOf 2 nopContent) 44100) nopBus :=
  .start ⟨none, 0, nopCartridge, by decide, load_nopImage 0, rfl⟩

end Pockiva
