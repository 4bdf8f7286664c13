import Pockiva.BusFrame
import Pockiva.CycleBudget

/-! # Reset is a fresh load

`reset` rebuilds every volatile part of the machine in place, `load_rom` builds a new
one.  `reset_complete` states that the two leave the same machine, but for what the
cartridge keeps: its RAM and its clock.
-/
namespace Pockiva

open Transition Validation

variable {M : MixerModel}

/-! ## The mapper -/

namespace Mapper

/-- The mapper with its RAM cleared and its clock, if it has one, set to zero. -/
def withoutMemory (m : Mapper) : Mapper :=
  match m with
  | romOnly m => romOnly { m with ram := m.ram.map fun _ => 0 }
  | mbc1 m => mbc1 { m with ram := m.ram.map fun _ => 0 }
  | mbc3 m => mbc3 { m with ram := m.ram.map fun _ => 0, rtc := m.rtc.map fun _ => .new 0 }
  | mbc5 m => mbc5 { m with ram := m.ram.map fun _ => 0 }

/-- Mappers that agree but for the memory, and on the memory, are the same. -/
theorem eq_of_withoutMemory {m n : Mapper} (h : m.withoutMemory = n.withoutMemory)
    (hram : m.ram = n.ram) (hrtc : m.rtc = n.rtc) : m = n := by
  rcases m with m | m | m | m <;> rcases n with n | n | n | n <;>
    simp only [withoutMemory, reduceCtorEq] at h
  case romOnly.romOnly =>
    cases m
    cases n
    simp_all [ram]
  case mbc1.mbc1 =>
    cases m
    cases n
    simp_all [ram]
  case mbc3.mbc3 =>
    cases m
    cases n
    simp_all [ram, rtc]
  case mbc5.mbc5 =>
    cases m
    cases n
    simp_all [ram]

/-- **A reset mapper is a new one**, but for the memory. -/
theorem Fits.reset_new {header : Header} {rom : List Byte} {m n : Mapper} (h : m.Fits header rom)
    (hrom : rom.length = header.romBanks * 0x4000) {persisted : Option BatteryState}
    {now : Nat} (hnew : Mapper.new header rom persisted now = .ok n) (later : Nat) :
    (m.reset later).withoutMemory = n.withoutMemory := by
  have hbanks : rom.length / 0x4000 = header.romBanks := by omega
  -- Both memories have the size of the header, so cleared they are the same.
  have hcleared : ∀ {a b : List Byte}, a.length = header.ramBytes → b.length = header.ramBytes →
      a.map (fun _ => (0 : Byte)) = b.map fun _ => 0 := by
    intro a b ha hb
    rw [List.map_const', List.map_const', ha, hb]
  unfold Mapper.new at hnew
  cases h with
  | @romOnly m kind rom_eq ram_length battery =>
    simp only [kind, RomOnly.new, map_eq_ok, bind_eq_ok, pure_eq_ok] at hnew
    obtain ⟨-, ⟨ram, hram, -, -, rfl⟩, rfl⟩ := hnew
    obtain ⟨r, x, y⟩ := m
    simp only [Mapper.reset, RomOnly.reset, withoutMemory]
    rw [hcleared ram_length (length_persistedRam hram), ← rom_eq, ← battery]
  | @mbc1 m kind rom_eq ram_length battery rom_banks low high =>
    simp only [kind, Mbc1.new, map_eq_ok, bind_eq_ok, pure_eq_ok] at hnew
    obtain ⟨-, ⟨ram, hram, -, -, rfl⟩, rfl⟩ := hnew
    simp only [Mapper.reset, Mbc1.reset, withoutMemory]
    rw [hcleared ram_length (length_persistedRam hram), rom_eq, battery, rom_banks, hbanks]
  | @mbc3 m kind rom_eq ram_length battery rom_banks timer =>
    simp only [kind, Mbc3.new, map_eq_ok, bind_eq_ok, pure_eq_ok] at hnew
    obtain ⟨-, ⟨ram, hram, rtc, hrtc, rfl⟩, rfl⟩ := hnew
    -- There is a clock in both mappers or in neither.
    have htimer : m.rtc.map (fun _ => RtcState.new 0) = rtc.map fun _ => .new 0 := by
      have hsome := isSome_initialRtc hrtc
      rw [← timer] at hsome
      cases hm : m.rtc <;> cases hr : rtc <;> simp_all
    simp only [Mapper.reset, Mbc3.reset, withoutMemory, Option.map_map, Function.comp_def]
    rw [hcleared ram_length (length_persistedRam hram), rom_eq, battery, rom_banks, hbanks, htimer]
  | @mbc5 m kind rom_eq ram_length battery rom_banks ram_banks rumble selected =>
    simp only [kind, Mbc5.new, map_eq_ok, bind_eq_ok, pure_eq_ok] at hnew
    obtain ⟨-, ⟨ram, hram, -, -, rfl⟩, rfl⟩ := hnew
    have hlength := length_persistedRam hram
    simp only [Mapper.reset, Mbc5.reset, withoutMemory]
    rw [hcleared ram_length hlength, rom_eq, battery, rom_banks, hbanks, ram_banks, rumble, hlength]

/-- A mapper without RAM and without a clock is new after a reset. -/
theorem Fits.reset_eq_new {header : Header} {rom : List Byte} {m n : Mapper}
    (h : m.Fits header rom) (hrom : rom.length = header.romBanks * 0x4000)
    {persisted : Option BatteryState} {now : Nat}
    (hnew : Mapper.new header rom persisted now = .ok n) (hram : header.ramBytes = 0)
    (hrtc : header.features.hasTimer = false) (later : Nat) : m.reset later = n := by
  have hempty : ∀ k : Mapper, k.Fits header rom → k.ram = [] ∧ k.rtc = none := by
    intro k hk
    cases hk with
    | romOnly _ _ ram_length => exact ⟨List.eq_nil_of_length_eq_zero (ram_length.trans hram), rfl⟩
    | mbc1 _ _ ram_length => exact ⟨List.eq_nil_of_length_eq_zero (ram_length.trans hram), rfl⟩
    | mbc3 _ _ ram_length _ _ timer =>
      rw [hrtc] at timer
      exact ⟨List.eq_nil_of_length_eq_zero (ram_length.trans hram), Option.isNone_iff_eq_none.mp
        (by rw [← Option.not_isSome, Mapper.rtc, timer]; rfl)⟩
    | mbc5 _ _ ram_length => exact ⟨List.eq_nil_of_length_eq_zero (ram_length.trans hram), rfl⟩
  -- What was cleared for the comparison is empty in both.
  obtain ⟨hram₁, hrtc₁⟩ := hempty _ (h.reset later)
  obtain ⟨hram₂, hrtc₂⟩ := hempty _ (fits_new hrom hnew)
  exact eq_of_withoutMemory (h.reset_new hrom hnew later) (hram₁.trans hram₂.symm)
    (hrtc₁.trans hrtc₂.symm)

/-- Without a persisted state the mapper of an accepted image can be built. -/
theorem exists_new (header : Header) (rom : List Byte) (now : Nat) :
    ∃ m, Mapper.new header rom none now = .ok m := by
  unfold Mapper.new
  cases hkind : header.features.mapper with
  | mbc3 =>
    simp only [Mbc3.new, Mbc3.initialRtc]
    split <;> exact ⟨_, rfl⟩
  | _ => exact ⟨_, rfl⟩

end Mapper

/-- The cartridge with the memory of its mapper cleared. -/
def Cartridge.withoutMemory (c : Cartridge) : Cartridge :=
  { c with mapper := c.mapper.withoutMemory }

/-! ## The machine -/

/-- Resetting the bus is building a new one around the reset cartridge. -/
theorem MachineBus.reset_eq_new (b : MachineBus M) (now : Nat) (state : JoypadState) :
    b.reset now state =
      (MachineBus.new (b.cartridge.reset now) b.sampleRate now).setJoypadState state := rfl

namespace GameBoy

/-- The machine with the memory of its cartridge cleared. -/
def withoutMemory (g : GameBoy M) : GameBoy M :=
  { g with bus := g.bus.map fun b => { b with cartridge := b.cartridge.withoutMemory } }

/-- The image is one of a cartridge without external RAM and without a clock. -/
def Memoryless (rom : List Byte) : Prop :=
  ∃ header, Header.parse rom = .ok header ∧ header.ramBytes = 0 ∧
    header.features.hasTimer = false

/-- The machine as the boot ROM leaves it, with a cartridge. -/
def booted (g : GameBoy M) (c : Cartridge) : GameBoy M :=
  { g with
    clock := g.clock.read
    cpu := .postBootDmg
    bus := some ((MachineBus.new c g.sampleRate g.clock.unixSeconds).setJoypadState
      g.inputs.effective) }

theorem withoutMemory_booted (g : GameBoy M) (c : Cartridge) :
    (g.booted c).withoutMemory = g.booted c.withoutMemory := rfl

/-- Only the clock, the sample rate and the inputs matter. -/
theorem booted_congr {f g : GameBoy M} (hclock : f.clock = g.clock)
    (hrate : f.sampleRate = g.sampleRate) (hinputs : f.inputs = g.inputs) (c : Cartridge) :
    f.booted c = g.booted c := by
  rw [booted, booted, hclock, hrate, hinputs]

/-- What a reset of a loaded machine leaves. -/
theorem reset_loaded {g : GameBoy M} {b : MachineBus M} (hbus : g.bus = some b)
    (hrate : b.sampleRate = g.sampleRate) :
    g.reset = (.ok (), g.booted (b.cartridge.reset g.clock.unixSeconds)) := by
  rw [reset, hbus, booted, ← hrate]
  dsimp only
  rw [MachineBus.reset_eq_new]

/-- **Reset completeness.**  A reset of a loaded machine leaves what a load of the same
image leaves, on any machine with the same clock, sample rate and inputs and with any
persisted state, but for the memory of the cartridge; and for a cartridge without memory
it leaves exactly that, so that all later calls are answered alike. -/
theorem reset_complete {rom : List Byte} {g f : GameBoy M}
    (h : Reachable (loadedSystem M rom) g) (hclock : f.clock = g.clock)
    (hrate : f.sampleRate = g.sampleRate) (hinputs : f.inputs = g.inputs) :
    g.reset.1 = .ok () ∧ (∃ metadata, (f.loadRom rom none).1 = .ok metadata) ∧
      ∀ persisted metadata, (f.loadRom rom persisted).1 = .ok metadata →
        g.reset.2.withoutMemory = (f.loadRom rom persisted).2.withoutMemory ∧
        (Memoryless rom → g.reset.2 = (f.loadRom rom persisted).2 ∧
          ∀ ops, g.reset.2.calls ops = (f.loadRom rom persisted).2.calls ops) := by
  obtain ⟨b, hbus, hb⟩ := bus_of_loaded h
  obtain ⟨hcartridge, hrate'⟩ := MachineBus.cartridge_of_reachable hb
  obtain ⟨header, hparse⟩ := Cartridge.accepted_of_reachable hcartridge
  obtain ⟨hmeta, hmapper⟩ := Cartridge.fits_of_reachable hparse hcartridge
  have hlength := (Header.accepts_of_parse hparse).length_eq
  have hreset := reset_loaded hbus hrate'
  refine ⟨by rw [hreset], ?_, ?_⟩
  · obtain ⟨mapper, hnew⟩ := Mapper.exists_new header rom f.clock.unixSeconds
    have hload :=
      (Cartridge.load_eq_ok (c := ⟨header.metadata, mapper⟩)).mpr ⟨header, hparse, rfl, hnew⟩
    refine ⟨header.metadata, ?_⟩
    rw [loadRom]
    dsimp only
    rw [hload]
  · intro persisted metadata hok
    -- The load parses the image that the loaded machine was given, so the headers agree.
    obtain ⟨cartridge, hload, -, hafter⟩ := loadRom_ok hok
    obtain ⟨header', hparse', hmeta', hnew⟩ := Cartridge.load_eq_ok.mp hload
    obtain rfl : header' = header := Except.ok.inj (hparse'.symm.trans hparse)
    have hbooted : (f.loadRom rom persisted).2 = g.booted cartridge :=
      hafter.trans (booted_congr hclock hrate hinputs cartridge)
    rw [hreset, hbooted]
    refine ⟨?_, fun hmemoryless => ?_⟩
    · have hcleared := hmapper.reset_new hlength hnew g.clock.unixSeconds
      have hboth : (b.cartridge.reset g.clock.unixSeconds).withoutMemory =
          cartridge.withoutMemory := by
        rw [Cartridge.withoutMemory, Cartridge.withoutMemory, ← hcleared, hmeta', ← hmeta]
        rfl
      rw [withoutMemory_booted, withoutMemory_booted, hboth]
    · obtain ⟨header'', hparse'', hram, hrtc⟩ := hmemoryless
      obtain rfl : header'' = header' := Except.ok.inj (hparse''.symm.trans hparse)
      have hequal := hmapper.reset_eq_new hlength hnew hram hrtc g.clock.unixSeconds
      have hsame : b.cartridge.reset g.clock.unixSeconds = cartridge := by
        obtain ⟨metadata', mapper⟩ := cartridge
        rw [Cartridge.reset, hequal, hmeta]
        exact congrArg (Cartridge.mk · mapper) hmeta'.symm
      rw [hsame]
      exact ⟨rfl, fun _ => rfl⟩

/-- A core that ran a program for a while. -/
def ranSled : GameBoy .mute := ((onSled .mute).call (.runCycles 256)).2

/-- A core with the same clock, sample rate and inputs that no image was loaded into. -/
def unplugged (g : GameBoy M) : GameBoy M := { g with cpu := .postBootDmg, bus := none }

theorem unplugged_same (g : GameBoy M) : g.unplugged.clock = g.clock ∧
    g.unplugged.sampleRate = g.sampleRate ∧ g.unplugged.inputs = g.inputs := ⟨rfl, rfl, rfl⟩

theorem ranSled_reachable : Reachable (loadedSystem .mute (imageOf 2 sledContent)) ranSled := by
  have hload : ∀ (g : GameBoy .mute) (rom : List Byte) (c : Cartridge),
      Cartridge.load rom none g.clock.unixSeconds = .ok c →
      g.loadRom rom none = (.ok c.metadata, (g.loadRom rom none).2) := by
    intro g rom c h
    rw [loadRom]
    dsimp only
    rw [h]
  have hstart : Reachable (loadedSystem .mute (imageOf 2 sledContent)) (onSled .mute) := by
    rw [onSled]
    exact .start ⟨_, none, _, .start ⟨⟨fun _ => 0, 0⟩, 44100, by decide, rfl⟩,
      hload _ _ _ (load_sledImage 0)⟩
  rw [ranSled]
  exact hstart.step (i := .runCycles 256) ⟨id, rfl⟩

theorem memoryless_sled : Memoryless (imageOf 2 sledContent) :=
  ⟨sledHeader, parse_sledImage, rfl, rfl⟩

/-- After the run and a reset, a frame's worth of cycles gives what it gives on a new core
with the same image. -/
theorem reset_complete_ranSled :
    ranSled.reset.2.calls [.runCycles 70224, .takeFrame, .drainAudio] =
      (ranSled.unplugged.loadRom (imageOf 2 sledContent) none).2.calls
        [.runCycles 70224, .takeFrame, .drainAudio] := by
  obtain ⟨hclock, hrate, hinputs⟩ := unplugged_same ranSled
  obtain ⟨-, ⟨metadata, hok⟩, hsame⟩ := reset_complete ranSled_reachable hclock hrate hinputs
  exact ((hsame none metadata hok).2 memoryless_sled).2 _

end GameBoy

end Pockiva
