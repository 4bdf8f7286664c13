import Pockiva.Cartridge.Cartridge
import Pockiva.Lib.Transition

/-! # The states of a loaded cartridge

A cartridge is loaded once and then written, at any address with any value, and
reset, each at some reading of the wall clock.  None of that touches the image,
the sizes or the features (`Fits`), so what the header promises holds forever.
-/
namespace Pockiva

open Transition Validation

namespace Cartridge

/-- The operations that change a cartridge, with the clock reading of each. -/
inductive Op where
  | write (address : Word) (value : Byte) (now : Nat)
  | reset (now : Nat)

def Op.now : Op → Nat
  | write _ _ now => now
  | reset now => now

def apply (c : Cartridge) : Op → Cartridge
  | .write address value now => c.write address value now
  | .reset now => c.reset now

/-- A loaded cartridge whose clock readings all satisfy `clock`. -/
def system (rom : List Byte) (clock : Nat → Prop) : System Cartridge Op where
  start c := ∃ persisted now, clock now ∧ load rom persisted now = .ok c
  step c op d := clock op.now ∧ d = c.apply op

end Cartridge

namespace Mapper

/-- The constant part of a mapper, and the bounds its bank registers keep. -/
inductive Fits (header : Header) (rom : List Byte) : Mapper → Prop where
  | romOnly {m : RomOnly} (kind : header.features.mapper = .romOnly) (rom_eq : m.rom = rom)
      (ram_length : m.ram.length = header.ramBytes)
      (battery : m.hasBattery = header.features.hasBattery) : Fits header rom (.romOnly m)
  | mbc1 {m : Mbc1} (kind : header.features.mapper = .mbc1) (rom_eq : m.rom = rom)
      (ram_length : m.ram.length = header.ramBytes)
      (battery : m.hasBattery = header.features.hasBattery)
      (rom_banks : m.romBanks = header.romBanks)
      (low : m.romBankLow.toNat < 32) (high : m.bankHigh.toNat < 4) : Fits header rom (.mbc1 m)
  | mbc3 {m : Mbc3} (kind : header.features.mapper = .mbc3) (rom_eq : m.rom = rom)
      (ram_length : m.ram.length = header.ramBytes)
      (battery : m.hasBattery = header.features.hasBattery)
      (rom_banks : m.romBanks = header.romBanks)
      (timer : m.rtc.isSome = header.features.hasTimer) : Fits header rom (.mbc3 m)
  | mbc5 {m : Mbc5} (kind : header.features.mapper = .mbc5) (rom_eq : m.rom = rom)
      (ram_length : m.ram.length = header.ramBytes)
      (battery : m.hasBattery = header.features.hasBattery)
      (rom_banks : m.romBanks = header.romBanks)
      (ram_banks : m.ramBanks = Header.externalRamBanks header.ramBytes)
      (rumble : m.hasRumble = header.features.hasRumble)
      (selected : m.ramBanks ≠ 0 → m.ramBank < m.ramBanks) : Fits header rom (.mbc5 m)

end Mapper

theorem length_persistedRam {persisted : Option BatteryState} {expectedLen : Nat}
    {hasBattery : Bool} {ram : List Byte}
    (h : persistedRam persisted expectedLen hasBattery = .ok ram) : ram.length = expectedLen := by
  cases persisted with
  | none =>
    rw [persistedRam, Except.ok.injEq] at h
    rw [← h, List.length_replicate]
  | some state =>
    simp only [persistedRam, bind_eq_ok, require_eq_ok, exists_const, pure_eq_ok] at h
    obtain ⟨-, -, hlen, hret⟩ := h
    rw [← hret, hlen]

@[simp] theorem length_writeRamByte (ram : List Byte) (bank : Nat) (address : Word) (value : Byte) :
    (writeRamByte ram bank address value).length = ram.length := by
  rw [writeRamByte, List.length_set]

theorem requireNoMapperData_none (reason : String) : requireNoMapperData none reason = .ok () :=
  require_eq_ok.mpr nofun

theorem isSome_initialRtc {hasTimer : Bool} {persisted : Option BatteryState} {now : Nat}
    {rtc : Option RtcState} (h : Mbc3.initialRtc hasTimer persisted now = .ok rtc) :
    rtc.isSome = hasTimer := by
  cases hasTimer with
  | false =>
    simp only [Mbc3.initialRtc, Bool.false_eq_true, if_false, bind_eq_ok, pure_eq_ok] at h
    obtain ⟨-, -, rfl⟩ := h
    rfl
  | true =>
    cases persisted with
    | none => cases h; rfl
    | some state =>
      simp only [Mbc3.initialRtc, if_true, map_eq_ok] at h
      obtain ⟨restored, -, rfl⟩ := h
      rfl

namespace Mapper
variable {header : Header} {rom : List Byte}

theorem fits_new {persisted : Option BatteryState} {now : Nat} {m : Mapper}
    (hrom : rom.length = header.romBanks * 0x4000)
    (h : Mapper.new header rom persisted now = .ok m) : Fits header rom m := by
  have hbanks : rom.length / 0x4000 = header.romBanks := by omega
  unfold Mapper.new at h
  cases hk : header.features.mapper with
  | romOnly =>
    simp only [hk, RomOnly.new, map_eq_ok, bind_eq_ok, pure_eq_ok] at h
    obtain ⟨-, ⟨ram, hram, -, -, rfl⟩, rfl⟩ := h
    exact .romOnly hk rfl (length_persistedRam hram) rfl
  | mbc1 =>
    simp only [hk, Mbc1.new, map_eq_ok, bind_eq_ok, pure_eq_ok] at h
    obtain ⟨-, ⟨ram, hram, -, -, rfl⟩, rfl⟩ := h
    exact .mbc1 hk rfl (length_persistedRam hram) rfl hbanks (by simp) (by simp)
  | mbc3 =>
    simp only [hk, Mbc3.new, map_eq_ok, bind_eq_ok, pure_eq_ok] at h
    obtain ⟨-, ⟨ram, hram, rtc, hrtc, rfl⟩, rfl⟩ := h
    exact .mbc3 hk rfl (length_persistedRam hram) rfl hbanks (isSome_initialRtc hrtc)
  | mbc5 =>
    simp only [hk, Mbc5.new, map_eq_ok, bind_eq_ok, pure_eq_ok] at h
    obtain ⟨-, ⟨ram, hram, -, -, rfl⟩, rfl⟩ := h
    have hlen := length_persistedRam hram
    exact .mbc5 hk rfl hlen rfl hbanks (by rw [hlen]) rfl Nat.pos_of_ne_zero

theorem Fits.writeRom {m : Mapper} (h : Fits header rom m) (address : Word) (value : Byte)
    (now : Nat) : Fits header rom (m.writeRom address value now) := by
  cases h with
  | romOnly kind rom_eq ram_length battery => exact .romOnly kind rom_eq ram_length battery
  | @mbc1 m kind rom_eq ram_length battery rom_banks low high =>
    have hlow : (value &&& 0x1f).toNat < 32 := by
      rw [BitVec.toNat_and]
      exact Nat.lt_succ_of_le Nat.and_le_right
    have hhigh : (value &&& 0x03).toNat < 4 := by
      rw [BitVec.toNat_and]
      exact Nat.lt_succ_of_le Nat.and_le_right
    simp only [Mapper.writeRom, Mbc1.writeRom]
    repeat' split
    · exact .mbc1 kind rom_eq ram_length battery rom_banks low high
    · exact .mbc1 kind rom_eq ram_length battery rom_banks hlow high
    · exact .mbc1 kind rom_eq ram_length battery rom_banks low hhigh
    · exact .mbc1 kind rom_eq ram_length battery rom_banks low high
    · exact .mbc1 kind rom_eq ram_length battery rom_banks low high
  | @mbc3 m kind rom_eq ram_length battery rom_banks timer =>
    simp only [Mapper.writeRom, Mbc3.writeRom]
    repeat' split
    all_goals exact .mbc3 kind rom_eq ram_length battery rom_banks (by simpa using timer)
  | @mbc5 m kind rom_eq ram_length battery rom_banks ram_banks rumble selected =>
    -- The bank written is reduced by the number of banks, if there are any.
    have hwrap : ∀ n : Nat, m.ramBanks ≠ 0 →
        (if m.ramBanks = 0 then 0 else n % m.ramBanks) < m.ramBanks := by
      intro n hne
      rw [if_neg hne]
      exact Nat.mod_lt _ (Nat.pos_of_ne_zero hne)
    rw [Mapper.writeRom, Mbc5.writeRom]
    by_cases h2 : address < 0x2000
    · rw [if_pos h2]
      exact .mbc5 kind rom_eq ram_length battery rom_banks ram_banks rumble selected
    by_cases h3 : address < 0x3000
    · rw [if_neg h2, if_pos h3]
      exact .mbc5 kind rom_eq ram_length battery rom_banks ram_banks rumble selected
    by_cases h4 : address < 0x4000
    · rw [if_neg h2, if_neg h3, if_pos h4]
      exact .mbc5 kind rom_eq ram_length battery rom_banks ram_banks rumble selected
    by_cases h6 : address < 0x6000
    · rw [if_neg h2, if_neg h3, if_neg h4, if_pos h6]
      exact .mbc5 kind rom_eq ram_length battery rom_banks ram_banks rumble (hwrap _)
    · rw [if_neg h2, if_neg h3, if_neg h4, if_neg h6]
      exact .mbc5 kind rom_eq ram_length battery rom_banks ram_banks rumble selected

theorem Fits.writeRam {m : Mapper} (h : Fits header rom m) (address : Word) (value : Byte)
    (now : Nat) : Fits header rom (m.writeRam address value now) := by
  cases h with
  | romOnly kind rom_eq ram_length battery =>
    exact .romOnly kind rom_eq (by simpa [RomOnly.writeRam] using ram_length) battery
  | mbc1 kind rom_eq ram_length battery rom_banks low high =>
    simp only [Mapper.writeRam, Mbc1.writeRam]
    split
    · exact .mbc1 kind rom_eq (by simpa using ram_length) battery rom_banks low high
    · exact .mbc1 kind rom_eq ram_length battery rom_banks low high
  | mbc3 kind rom_eq ram_length battery rom_banks timer =>
    simp only [Mapper.writeRam, Mbc3.writeRam]
    repeat' split
    all_goals
      exact .mbc3 kind rom_eq (by simpa using ram_length) battery rom_banks (by simpa using timer)
  | mbc5 kind rom_eq ram_length battery rom_banks ram_banks rumble selected =>
    simp only [Mapper.writeRam, Mbc5.writeRam]
    split
    · exact .mbc5 kind rom_eq (by simpa using ram_length) battery rom_banks ram_banks rumble
        selected
    · exact .mbc5 kind rom_eq ram_length battery rom_banks ram_banks rumble selected

theorem Fits.reset {m : Mapper} (h : Fits header rom m) (now : Nat) :
    Fits header rom (m.reset now) := by
  cases h with
  | romOnly kind rom_eq ram_length battery => exact .romOnly kind rom_eq ram_length battery
  | mbc1 kind rom_eq ram_length battery rom_banks low high =>
    exact .mbc1 kind rom_eq ram_length battery rom_banks (by simp [Mbc1.reset])
      (by simp [Mbc1.reset])
  | mbc3 kind rom_eq ram_length battery rom_banks timer =>
    exact .mbc3 kind rom_eq ram_length battery rom_banks (by simpa [Mbc3.reset] using timer)
  | mbc5 kind rom_eq ram_length battery rom_banks ram_banks rumble selected =>
    exact .mbc5 kind rom_eq ram_length battery rom_banks ram_banks rumble Nat.pos_of_ne_zero

end Mapper

namespace Cartridge
variable {rom : List Byte}

/-- A cartridge that fits the header its image was accepted with. -/
def Fits (header : Header) (rom : List Byte) (c : Cartridge) : Prop :=
  c.metadata = header.metadata ∧ c.mapper.Fits header rom

theorem load_eq_ok {persisted : Option BatteryState} {now : Nat} {c : Cartridge} :
    load rom persisted now = .ok c ↔
      ∃ header, Header.parse rom = .ok header ∧ c.metadata = header.metadata ∧
        Mapper.new header rom persisted now = .ok c.mapper := by
  simp only [load, bind_eq_ok, pure_eq_ok]
  constructor
  · rintro ⟨header, hp, mapper, hm, rfl⟩
    exact ⟨header, hp, rfl, hm⟩
  · rintro ⟨header, hp, hmeta, hm⟩
    exact ⟨header, hp, c.mapper, hm, by rw [← hmeta]⟩

theorem fits_load {header : Header} {persisted : Option BatteryState} {now : Nat} {c : Cartridge}
    (hp : Header.parse rom = .ok header) (h : load rom persisted now = .ok c) :
    c.Fits header rom := by
  obtain ⟨header', hp', hmeta, hm⟩ := load_eq_ok.mp h
  obtain rfl : header' = header := Except.ok.inj (hp'.symm.trans hp)
  exact ⟨hmeta, Mapper.fits_new (Header.accepts_of_parse hp).length_eq hm⟩

theorem Fits.apply {header : Header} {c : Cartridge} (h : c.Fits header rom) (op : Op) :
    (c.apply op).Fits header rom := by
  obtain ⟨hmeta, hm⟩ := h
  cases op with
  | write address value now =>
    simp only [Cartridge.apply, write]
    split
    · exact ⟨hmeta, hm.writeRom address value now⟩
    · split
      · exact ⟨hmeta, hm.writeRam address value now⟩
      · exact ⟨hmeta, hm⟩
  | reset now => exact ⟨hmeta, hm.reset now⟩

/-- **A loaded cartridge fits its header at every moment.** -/
theorem fits_of_reachable {clock : Nat → Prop} {header : Header} {c : Cartridge}
    (hp : Header.parse rom = .ok header) (h : Reachable (system rom clock) c) :
    c.Fits header rom := by
  refine h.invariant ?_ ?_
  · rintro c ⟨persisted, now, -, hload⟩
    exact fits_load hp hload
  · rintro c op d hfits ⟨-, rfl⟩
    exact hfits.apply op

/-- Only accepted images are ever loaded. -/
theorem accepted_of_reachable {clock : Nat → Prop} {c : Cartridge}
    (h : Reachable (system rom clock) c) : ∃ header, Header.parse rom = .ok header := by
  induction h with
  | start h =>
    obtain ⟨persisted, now, -, hload⟩ := h
    obtain ⟨header, hp, -⟩ := load_eq_ok.mp hload
    exact ⟨header, hp⟩
  | step _ _ ih => exact ih

end Cartridge

end Pockiva
